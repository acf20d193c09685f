import AimailGateway.Errors
import AimailGateway.Library.Program
import AimailGateway.Library.Table
import AimailGateway.Library.Text
import AimailGateway.Storage.Records

/-! # The store of attachments

The tables and files that belong to attachments, and the requests the gateway
makes of them: every statement is one atomic request, and other requests come
between any two of them. The column `mail_id` is read and written back by two
statements. The copies kept for MIME, the directories, content types and the
sizes of files are left out.
-/

namespace AimailGateway.Attachments

open Library

structure AttachmentMetaRecord where
  id : String
  filename : String
  senderEmail : String
  /-- The JSON array of the column, if it is not NULL. -/
  mailId : Option (List String)
  createdAt : Timestamp
  deriving DecidableEq, Repr

/-- `id TEXT PRIMARY KEY`. -/
def AttachmentMetaRecord.conflict (first second : AttachmentMetaRecord) : Bool :=
  first.id == second.id

/-- `Path::file_name`. -/
def fileName (path : String) : Option String :=
  (((Text.split '/' path).filter fun piece => piece != "" && piece != ".").getLast?).filter
    (· != "..")

/-- `AttachmentFactory::extension_for`: what follows the last dot that is not
the first character. -/
def extensionFor (filename : String) : String :=
  ((fileName filename).bind fun name =>
    match Text.pieceBeforeLast '.' name with
    | some stem => if stem = "" then none else some (Text.lastPiece '.' name)
    | none => none).getD "bin"

def AttachmentMetaRecord.fileExtension (record : AttachmentMetaRecord) : String :=
  extensionFor record.filename

/-- Where a file lies: the directory is named after a hash of the sender. -/
structure FilePath where
  senderEmail : String
  attachmentId : String
  extension : String
  deriving DecidableEq, Repr

def AttachmentMetaRecord.path (record : AttachmentMetaRecord) : FilePath :=
  ⟨record.senderEmail, record.id, record.fileExtension⟩

abbrev Metas := Table AttachmentMetaRecord AttachmentMetaRecord.conflict

/-- The rows `(attachment_id, user_email)`, which are unique. -/
abbrev Permissions := Table (String × String) fun first second => first == second

structure Store where
  metas : Metas
  permissions : Permissions
  files : List FilePath
  emails : Emails

inductive Request where
  | utcNow
  | getMeta (id : String)
  | listByMailId (mailId : String)
  | listExpiredBefore (cutoff : Timestamp) (limit : Nat)
  | listPermissions (attachmentId : String)
  | countPermissions (attachmentId : String)
  | revokePermission (attachmentId userEmail : String)
  | revokeAll (attachmentId : String)
  | countMailIds (attachmentId : String)
  /-- `SELECT mail_id`. -/
  | readMailIds (attachmentId : String)
  /-- `UPDATE attachments_meta SET mail_id = ?`. -/
  | writeMailIds (attachmentId : String) (mailIds : Option (List String))
  | deleteMeta (id : String)
  | getEmail (id : String)
  | deleteEmail (id : String)
  | removeFile (path : FilePath)
  | openFile (path : FilePath)
  /-- `file.metadata()` of an open file. -/
  | fileMetadata
  deriving DecidableEq

abbrev Request.Answer : Request → Type
  | .utcNow => Timestamp
  | .getMeta _ => Except AppError (Option AttachmentMetaRecord)
  | .listByMailId _ => Except AppError (List AttachmentMetaRecord)
  | .listExpiredBefore _ _ => Except AppError (List AttachmentMetaRecord)
  | .listPermissions _ => Except AppError (List String)
  | .countPermissions _ => Except AppError Nat
  | .revokePermission _ _ => Except AppError Unit
  | .revokeAll _ => Except AppError Unit
  | .countMailIds _ => Except AppError Nat
  | .readMailIds _ => Except AppError (Option (List String))
  | .writeMailIds _ _ => Except AppError Unit
  | .deleteMeta _ => Except AppError Unit
  | .getEmail _ => Except AppError (Option EmailRecord)
  | .deleteEmail _ => Except AppError Unit
  | .removeFile _ => Except String Unit
  | .openFile _ => Except String Unit
  | .fileMetadata => Except String Unit

abbrev Flow := Program Request Request.Answer

abbrev ask (question : Request) : Flow question.Answer :=
  Program.ask question

/-- What comes from outside at the moment of a request. -/
structure Outside where
  clock : Timestamp
  /-- Why a storage call fails, if it does. -/
  fault : Option AppError
  /-- Why the operating system refuses, if it does. -/
  ioError : Option String

/-- Nothing fails. -/
def Outside.calm (clock : Timestamp) : Outside := ⟨clock, none, none⟩

namespace Store

/-- `SELECT mail_id FROM attachments_meta WHERE id = ?`. -/
def mailIds (store : Store) (attachmentId : String) : Option (List String) :=
  (store.metas.find? (·.id == attachmentId)).bind (·.mailId)

/-- The rows before the cutoff, oldest first. -/
def expiredBefore (store : Store) (cutoff : Timestamp) (limit : Nat) :
    List AttachmentMetaRecord :=
  ((store.metas.select fun record => decide (record.createdAt < cutoff)).mergeSort
    fun first second => decide (first.createdAt ≤ second.createdAt)).take limit

def writeMailIds (store : Store) (attachmentId : String)
    (mailIds : Option (List String)) : Store :=
  { store with
    metas := store.metas.mapRows
      (fun record => if record.id == attachmentId then
        { record with mailId := mailIds } else record)
      (fun first second => by
        unfold AttachmentMetaRecord.conflict
        split <;> split <;> rfl) }

end Store

/-- A storage call that a fault may end before it does anything. -/
def orFault (outside : Outside) (value : α) (after before : Store) :
    Except AppError α × Store :=
  match outside.fault with
  | some error => (.error error, before)
  | none => (.ok value, after)

/-- An operation on files that the operating system may refuse. -/
def orIoError (outside : Outside) (after before : Store) :
    Except String Unit × Store :=
  match outside.ioError with
  | some error => (.error error, before)
  | none => (.ok (), after)

/-- Execute one request. -/
def perform (outside : Outside) :
    (question : Request) → Store → question.Answer × Store
  | .utcNow, store => (outside.clock, store)
  | .getMeta id, store =>
      orFault outside (store.metas.find? (·.id == id)) store store
  | .listByMailId mailId, store =>
      orFault outside (store.metas.select fun record =>
        (record.mailId.getD []).contains mailId) store store
  | .listExpiredBefore cutoff limit, store =>
      orFault outside (store.expiredBefore cutoff limit) store store
  | .listPermissions attachmentId, store =>
      orFault outside ((store.permissions.select (·.1 == attachmentId)).map (·.2))
        store store
  | .countPermissions attachmentId, store =>
      orFault outside (store.permissions.select (·.1 == attachmentId)).length
        store store
  | .revokePermission attachmentId userEmail, store =>
      orFault outside () { store with
        permissions := store.permissions.delete (· == (attachmentId, userEmail)) }
        store
  | .revokeAll attachmentId, store =>
      orFault outside () { store with
        permissions := store.permissions.delete (·.1 == attachmentId) } store
  | .countMailIds attachmentId, store =>
      orFault outside ((store.mailIds attachmentId).getD []).length store store
  | .readMailIds attachmentId, store =>
      orFault outside (store.mailIds attachmentId) store store
  | .writeMailIds attachmentId mailIds, store =>
      orFault outside () (store.writeMailIds attachmentId mailIds) store
  | .deleteMeta id, store =>
      orFault outside () { store with metas := store.metas.delete (·.id == id) }
        store
  | .getEmail id, store =>
      orFault outside (store.emails.find? (·.id == id)) store store
  | .deleteEmail id, store =>
      orFault outside () { store with emails := store.emails.delete (·.id == id) }
        store
  | .removeFile path, store =>
      orIoError outside
        { store with files := store.files.filter (· != path) } store
  | .openFile path, store =>
      if store.files.contains path then orIoError outside store store
      else (.error "No such file or directory (os error 2)", store)
  | .fileMetadata, store => orIoError outside store store

end AimailGateway.Attachments
