import AimailGateway.Api.Auth
import AimailGateway.Attachments.Store

/-! # What the gateway does with attachments

The download of a file, the references of emails to it and its removal, as
programs over the requests to the store.
-/

namespace AimailGateway.Attachments

open Library
open Library.Program (forEach)

/-! ## Download -/

def notFound (id : String) : HttpError :=
  ⟨.notFound, "Attachment not found", some ("No attachment with ID '" ++ id ++ "'")⟩

def notPermitted (attachmentId userEmail : String) : AppError :=
  .forbidden ("user " ++ userEmail ++
    " does not have permission to download attachment " ++ attachmentId)

def notAuthorized (error : AppError) : HttpError :=
  ⟨.forbidden, "Download not authorized", some error.toText⟩

def unreadable (what reason : String) : HttpError :=
  ⟨.internalServerError, what, some reason⟩

def checkPermission (attachmentId userEmail : String) :
    Flow (Except AppError Bool) := do
  match ← ask (.listPermissions attachmentId) with
  | .error error => pure (.error error)
  | .ok users => pure (.ok (users.contains userEmail))

def consumeDownload (attachmentId userEmail : String) :
    Flow (Except AppError Unit) := do
  match ← checkPermission attachmentId userEmail with
  | .error error => pure (.error error)
  | .ok false => pure (.error (notPermitted attachmentId userEmail))
  | .ok true => ask (.revokePermission attachmentId userEmail)

def openAttachment (record : AttachmentMetaRecord) (id : String) :
    Flow (Except HttpError AttachmentMetaRecord) := do
  match ← ask (.openFile ⟨record.senderEmail, id, record.fileExtension⟩) with
  | .error reason =>
      pure (.error (unreadable "Failed to read attachment file"
        (AppError.internal ("failed to open attachment: " ++ reason)).toText))
  | .ok _ =>
      match ← ask .fileMetadata with
      | .error reason =>
          pure (.error (unreadable "Failed to read attachment metadata" reason))
      | .ok _ => pure (.ok record)

/-- `download_attachment`. -/
def downloadAttachment (key : ApiKeyRecord) (id : String) :
    Flow (Except HttpError AttachmentMetaRecord) :=
  match requireScope key "agent" with
  | .error refused => pure (.error refused)
  | .ok _ => do
      match ← ask (.getMeta id) with
      | .error error => pure (.error (databaseError error))
      | .ok none => pure (.error (notFound id))
      | .ok (some record) =>
          match ← consumeDownload id key.emailAddress with
          | .error error => pure (.error (notAuthorized error))
          | .ok _ => openAttachment record id

/-! ## References -/

/-- `add_mail_id_to_attachment_meta`. -/
def addMailId (attachmentId mailId : String) : Flow (Except AppError Unit) := do
  match ← ask (.readMailIds attachmentId) with
  | .error error => pure (.error error)
  | .ok current =>
      let ids := current.getD []
      if ids.contains mailId then pure (.ok ())
      else ask (.writeMailIds attachmentId (some (ids ++ [mailId])))

/-- `remove_mail_id_from_attachment_meta`. -/
def removeMailId (attachmentId mailId : String) :
    Flow (Except AppError Unit) := do
  match ← ask (.readMailIds attachmentId) with
  | .error error => pure (.error error)
  | .ok none => pure (.ok ())
  | .ok (some current) =>
      let ids := current.filter (· != mailId)
      ask (.writeMailIds attachmentId (if ids.isEmpty then none else some ids))

/-! ## Removal -/

/-- No other reference is left: the file, the permissions and the metadata go.
Otherwise only the reference of the email does. -/
def cascadeDeleteAttachment (attachmentId extension senderEmail : String)
    (permCount mailCount : Nat) (mailId : String) : Flow Unit := do
  if permCount = 0 ∧ mailCount ≤ 1 then
    let _ ← ask (.removeFile ⟨senderEmail, attachmentId, extension⟩)
    let _ ← ask (.revokeAll attachmentId)
    let _ ← ask (.deleteMeta attachmentId)
  else
    let _ ← removeMailId attachmentId mailId

def countOr (default : Nat) (count : Except AppError Nat) : Nat :=
  match count with
  | .ok count => count
  | .error _ => default

def cleanupAttachment (record : EmailRecord) (attachmentId : String) :
    Flow Unit := do
  let found ← ask (.getMeta attachmentId)
  let extension := match found with
    | .ok (some row) => row.fileExtension
    | _ => "bin"
  let permCount ← ask (.countPermissions attachmentId)
  let mailCount ← ask (.countMailIds attachmentId)
  cascadeDeleteAttachment attachmentId extension record.sender
    (countOr 0 permCount) (countOr 0 mailCount) record.id

/-- Delete an email together with its attachments. -/
def cleanupCompletedEmail (record : EmailRecord) : Flow Unit := do
  forEach (record.attachments.getD []) (cleanupAttachment record)
  let _ ← ask (.deleteEmail record.id)

/-- One expired attachment: removed when nothing else refers to it, otherwise
the emails it names are struck from it. -/
def expireAttachment (attachment : AttachmentMetaRecord) : Flow Unit := do
  let mailCount ← ask (.countMailIds attachment.id)
  let permCount ← ask (.countPermissions attachment.id)
  if countOr 0 permCount = 0 ∧ countOr 1 mailCount ≤ 1 then
    cascadeDeleteAttachment attachment.id attachment.fileExtension
      attachment.senderEmail (countOr 0 permCount) (countOr 1 mailCount)
      attachment.id
  else
    forEach (attachment.mailId.getD []) fun mailId => do
      let _ ← removeMailId attachment.id mailId

/-- Clean up an email that no attachment names any more. -/
def cascadeEmail (mailId : String) : Flow Unit := do
  match ← ask (.listByMailId mailId) with
  | .ok [] =>
      match ← ask (.getEmail mailId) with
      | .ok (some record) => cleanupCompletedEmail record
      | _ => pure ()
  | _ => pure ()

/-- The emails the attachments name, each once. -/
def touchedMailIds (expired : List AttachmentMetaRecord) : List String :=
  (expired.flatMap fun attachment => attachment.mailId.getD []).eraseDups

def processExpiredAttachments (lifetimeHours batchSize : Nat) : Flow Unit := do
  let time ← ask .utcNow
  match ← ask (.listExpiredBefore (time - 3600000 * lifetimeHours) batchSize) with
  | .error _ => pure ()
  | .ok expired =>
      forEach expired expireAttachment
      forEach (touchedMailIds expired) cascadeEmail

end AimailGateway.Attachments
