import AimailGateway.Library.Execution
import AimailGateway.Scheduler.Effects
import AimailGateway.Scheduler.Expiry
import Mathlib.Logic.Function.Basic

/-! # Preparation and the readying sweep

A request inserts an email in `readying`, saves or registers its attachments
one by one, closes the record and wakes the scheduler; the sweep lists old
`readying` records and recovers or discards them one by one. Between two
statements of either, the other may run. The cascade that deletes one
attachment counts as one step: it touches no email.
-/

namespace AimailGateway.Readying

open Library Scheduler Expiry

/-- Who inserts the email: the receiver, which saves attachments after it, or
the API, whose emails are inserted with the list of their attachments. -/
inductive Path where
  | receiver
  | api
  deriving DecidableEq, Repr

/-- The request that creates an email. -/
inductive Preparation where
  | none
  | saving (path : Path) (left saved : List String)
  | waking
  | triggered
  /-- Answered with 250 or 201. -/
  | answered
  /-- The request went away before it woke the scheduler. -/
  | stopped
  deriving DecidableEq, Repr

def Preparation.isPreparing : Preparation → Bool
  | .saving _ _ _ | .waking => true
  | _ => false

/-- The sweep, with the records it has listed and not handled yet. -/
inductive Sweep where
  | idle
  | going (rest : List EmailRecord)
  | flipping (record : EmailRecord) (rest : List EmailRecord)
  | discarding (record : EmailRecord) (attachmentIds : List String)
      (rest : List EmailRecord)
  deriving DecidableEq, Repr

def Sweep.records : Sweep → List EmailRecord
  | .idle => []
  | .going rest => rest
  | .flipping record rest => record :: rest
  | .discarding record _ rest => record :: rest

structure Gateway where
  now : Timestamp
  db : MailDb
  channel : List String
  requests : String → Preparation
  sweep : Sweep

def Gateway.start (metas : Table AttachmentMeta AttachmentMeta.conflict)
    (permissions : List (String × String)) : Gateway where
  now := 0
  db := ⟨.empty, metas, permissions⟩
  channel := []
  requests := fun _ => .none
  sweep := .idle

def Gateway.setRequest (state : Gateway) (id : String)
    (request : Preparation) : Gateway :=
  { state with requests := Function.update state.requests id request }

/-! ## Statements -/

/-- `add_mail_id`. -/
def addMail (attachmentId mailId : String) (row : AttachmentMeta) :
    AttachmentMeta :=
  if row.id == attachmentId && !row.mails.contains mailId then
    { row with mailId := some (row.mails ++ [mailId]) }
  else row

theorem addMail_id (attachmentId mailId : String) (row : AttachmentMeta) :
    (addMail attachmentId mailId row).id = row.id := by
  unfold addMail
  split <;> rfl

/-- The receiver inserts the metadata of a saved file, the API adds the mail to
an attachment that was uploaded before. -/
def register (path : Path) (now : Timestamp) (sender attachmentId mailId :
    String) (db : MailDb) : MailDb :=
  match path with
  | .receiver =>
      { db with metas := (db.metas.insert?
          ⟨attachmentId, sender, some [mailId], now⟩).getD db.metas }
  | .api =>
      { db with metas := db.metas.mapRows (addMail attachmentId mailId) (by
          intro first second
          rw [AttachmentMeta.conflict, addMail_id, addMail_id]
          rfl) }

def setAttachments (attachments : List String) (row : EmailRecord) :
    EmailRecord :=
  { row with attachments := some attachments }

theorem setAttachments_id (attachments : List String) (row : EmailRecord) :
    (setAttachments attachments row).id = row.id :=
  rfl

def setStatus (status : EmailStatus) (row : EmailRecord) : EmailRecord :=
  { row with status := status }

theorem setStatus_id (status : EmailStatus) (row : EmailRecord) :
    (setStatus status row).id = row.id :=
  rfl

/-- An `UPDATE` of the rows with an id and one of the given statuses. -/
def updateWhere (id : String) (statuses : List EmailStatus)
    (change : EmailRecord → EmailRecord) (emails : Emails) : Emails :=
  (emails.update? (fun row => row.id == id && statuses.contains row.status)
    change).getD emails

def allStatuses : List EmailStatus :=
  [.readying, .ready, .sending, .delivered, .completed]

/-- `update_email_attachments`, by the receiver that has saved something. -/
def closeRecord (path : Path) (saved : List String) (id : String)
    (db : MailDb) : MailDb :=
  match path, saved with
  | .receiver, _ :: _ =>
      { db with emails :=
          updateWhere id allStatuses (setAttachments saved) db.emails }
  | _, _ => db

/-- The compare-and-swap of the trigger. -/
def claimReady (id : String) (db : MailDb) : MailDb :=
  { db with emails :=
      updateWhere id [.readying, .ready] (setStatus .sending) db.emails }

def flipReadyingToReady (id : String) (db : MailDb) : MailDb :=
  { db with emails := updateWhere id [.readying] (setStatus .ready) db.emails }

def getStuckReadying (config : Config) (state : Gateway) : List EmailRecord :=
  ((state.db.emails.select fun row =>
    row.status == .readying &&
      decide (row.createdAt < state.now - 1000 * config.readyingStuckSecs)).mergeSort
    fun first second => decide (first.createdAt ≤ second.createdAt)).take
      config.batchSize

/-- What the sweep does with a record: discard it when its attachments were
not written but some are registered, else flip it. A failed query counts as no
attachments. -/
def inspect (db : MailDb) (failed : Bool) (record : EmailRecord)
    (rest : List EmailRecord) : Sweep :=
  if record.attachments.isSome then .flipping record rest
  else
    match if failed then [] else (db.listByMailId record.id).map (·.id) with
    | [] => .flipping record rest
    | attachmentId :: others => .discarding record (attachmentId :: others) rest

/-! ## Steps -/

/-- How saving one attachment goes: the file is not saved, its registration
fails, or both succeed. -/
inductive SaveOutcome where
  | skipped
  | unregistered
  | registered
  deriving DecidableEq, Repr

inductive Event where
  | elapsed (duration : Nat)
  | inserted (path : Path) (record : EmailRecord) (files : List String)
  | saved (id : String) (outcome : SaveOutcome)
  | closed (id : String) (written : Bool)
  | woken (id : String)
  | answered (id : String)
  | stopped (id : String)
  | crashed
  | claimed
  /-- Delivery, retries and cleanup of emails that have left `readying`. -/
  | progressed
  | swept
  | inspected (failed : Bool)
  | flipped (failed : Bool)
  | cascaded (failed : Bool)
  | deleted (failed : Bool)
  deriving DecidableEq, Repr

/-- A request that the process takes down with it. -/
def Preparation.crash (request : Preparation) : Preparation :=
  if request.isPreparing then .stopped else request

inductive Step (config : Config) : Gateway → Event → Gateway → Prop where
  | elapsed (state : Gateway) (duration : Nat) :
      Step config state (.elapsed duration)
        { state with now := state.now + duration }
  /-- The id is a fresh UUID: no attachment references it. -/
  | inserted (state : Gateway) (path : Path) (record : EmailRecord)
      (files : List String) (emails : Emails)
      (stage : state.requests record.id = .none)
      (fresh : ∀ row ∈ state.db.metas, record.id ∉ row.mails)
      (born : record.status = .readying ∧ record.createdAt = state.now)
      (json : record.attachments =
        if path = .api ∧ files ≠ [] then some files else none)
      (insertion : state.db.emails.insert? record = some emails) :
      Step config state (.inserted path record files)
        { state.setRequest record.id (.saving path files []) with
          db := { state.db with emails } }
  | saved (state : Gateway) (id sender : String) (path : Path) (file : String)
      (left saved : List String) (outcome : SaveOutcome)
      (stage : state.requests id = .saving path (file :: left) saved) :
      Step config state (.saved id outcome)
        { state.setRequest id (.saving path left
            (if outcome = .skipped then saved else saved ++ [file])) with
          db := if outcome = .registered then
              register path state.now sender file id state.db
            else state.db }
  | closed (state : Gateway) (id : String) (path : Path) (saved : List String)
      (written : Bool) (stage : state.requests id = .saving path [] saved) :
      Step config state (.closed id written)
        { state.setRequest id .waking with
          db := if written then closeRecord path saved id state.db
            else state.db }
  | woken (state : Gateway) (id : String) (dropped : Bool)
      (stage : state.requests id = .waking) :
      Step config state (.woken id)
        { state.setRequest id .triggered with
          channel := if dropped then state.channel else state.channel ++ [id] }
  | answered (state : Gateway) (id : String)
      (stage : state.requests id = .triggered) :
      Step config state (.answered id) (state.setRequest id .answered)
  | stopped (state : Gateway) (id : String)
      (stage : (state.requests id).isPreparing = true) :
      Step config state (.stopped id) (state.setRequest id .stopped)
  | crashed (state : Gateway) :
      Step config state .crashed
        { state with
          channel := []
          requests := fun id => (state.requests id).crash
          sweep := .idle }
  | claimed (state : Gateway) (id : String) (rest : List String)
      (head : state.channel = id :: rest) :
      Step config state .claimed
        { state with channel := rest, db := claimReady id state.db }
  | progressed (state : Gateway) (db : MailDb)
      (rows : ∀ row ∈ db.emails, row ∈ state.db.emails ∨
        (row.status ≠ .readying ∧ ∃ old ∈ state.db.emails, old.id = row.id ∧
          old.status ≠ .readying ∧ old.attachments = row.attachments))
      (mails : ∀ row ∈ db.metas, ∃ old ∈ state.db.metas,
        ∀ mail ∈ row.mails, mail ∈ old.mails) :
      Step config state .progressed { state with db := db }
  | swept (state : Gateway) (stage : state.sweep = .idle) :
      Step config state .swept
        { state with sweep := .going (getStuckReadying config state) }
  | inspected (state : Gateway) (record : EmailRecord)
      (rest : List EmailRecord) (failed : Bool)
      (stage : state.sweep = .going (record :: rest)) :
      Step config state (.inspected failed)
        { state with sweep := inspect state.db failed record rest }
  | finished (state : Gateway) (stage : state.sweep = .going []) :
      Step config state (.inspected false) { state with sweep := .idle }
  | flipped (state : Gateway) (record : EmailRecord)
      (rest : List EmailRecord) (failed : Bool)
      (stage : state.sweep = .flipping record rest) :
      Step config state (.flipped failed)
        { state with
          sweep := .going rest
          db := if failed then state.db
            else flipReadyingToReady record.id state.db }
  | cascaded (state : Gateway) (record : EmailRecord) (attachmentId : String)
      (others : List String) (rest : List EmailRecord) (failed : Bool)
      (stage : state.sweep =
        .discarding record (attachmentId :: others) rest) :
      Step config state (.cascaded failed)
        { state with
          sweep := .discarding record others rest
          db := if failed then state.db
            else state.db.cascaded record.id attachmentId }
  | deleted (state : Gateway) (record : EmailRecord)
      (rest : List EmailRecord) (failed : Bool)
      (stage : state.sweep = .discarding record [] rest) :
      Step config state (.deleted failed)
        { state with
          sweep := .going rest
          db := if failed then state.db else state.db.deleteEmail record.id }

/-! ## What the sweep must not do -/

/-- The email is still in `readying`, if it is still there. -/
def Unclaimed (db : MailDb) (id : String) : Prop :=
  ∀ row ∈ db.emails, row.id = id → row.status = .readying

/-- A record the sweep makes deliverable is not being prepared and unclaimed;
one it deletes was left by its request, which was never answered, and is
unclaimed. -/
structure SafeSweep (state : Gateway) : Prop where
  flips : ∀ record rest, state.sweep = .flipping record rest →
    ∀ row ∈ (flipReadyingToReady record.id state.db).emails,
      row ∉ state.db.emails → (state.requests row.id).isPreparing = false ∧
        ∃ old ∈ state.db.emails, old.id = row.id ∧ old.status = .readying
  discards : ∀ record rest, state.sweep = .discarding record [] rest →
    ∀ row ∈ state.db.emails, row ∉ (state.db.deleteEmail record.id).emails →
      state.requests row.id = .stopped ∧ row.status = .readying

/-- No email gets old enough for the sweep while its request still prepares it,
and the statement that writes the attachments does not fail once some are saved.
-/
def PreparedInTime (config : Config) (state : Gateway) : Event → Prop
  | .swept => ∀ record ∈ getStuckReadying config state,
      (state.requests record.id).isPreparing = false
  | .closed id written => written = false → ∀ path saved,
      state.requests id = .saving path [] saved → path = .receiver → saved = []
  | _ => True

/-! ## The invariant -/

/-- No attachment references the mail. -/
def Unlisted (db : MailDb) (id : String) : Prop :=
  ∀ row ∈ db.metas, id ∉ row.mails

def Written (db : MailDb) (id : String) : Prop :=
  ∀ row ∈ db.emails, row.id = id → row.attachments.isSome = true

/-- What a request has left in the database. -/
def Prepared (db : MailDb) (id : String) : Preparation → Prop
  | .none => ∀ row ∈ db.emails, row.id ≠ id
  | .saving .receiver _ saved => saved = [] → Unlisted db id
  | .saving .api left _ => (left = [] ∧ Unlisted db id) ∨ Written db id
  | .waking | .triggered | .answered => Unlisted db id ∨ Written db id
  | .stopped => True

/-- What is known of a record the sweep has listed. -/
structure Listed (state : Gateway) (record : EmailRecord) : Prop where
  left : (state.requests record.id).isPreparing = false
  begun : state.requests record.id ≠ .none
  partly : record.attachments = none →
    state.requests record.id = .stopped ∨ Unlisted state.db record.id
  unclaimed : state.requests record.id = .stopped →
    Unclaimed state.db record.id

/-- What every reachable state keeps. -/
structure ReadyingInvariant (state : Gateway) : Prop where
  prepared : ∀ id, Prepared state.db id (state.requests id)
  channel : ∀ id ∈ state.channel,
    state.requests id = .triggered ∨ state.requests id = .answered
  listed : ∀ record ∈ state.sweep.records, Listed state record
  apart : state.sweep.records.Pairwise fun first second =>
    first.id ≠ second.id
  discarding : ∀ record attachmentIds rest,
    state.sweep = .discarding record attachmentIds rest →
      state.requests record.id = .stopped

section Invariant

variable {config : Config} {state : Gateway}
  {id : String} {record : EmailRecord} {db : MailDb} {rest : List EmailRecord}
  {change : EmailRecord → EmailRecord} {path : Path} {failed : Bool}
  {statuses : List EmailStatus}
  {row : EmailRecord}

/-- The database after is the same for a mail, or has less of it. -/
structure Lessens (before after : MailDb) (id : String) : Prop where
  rows : ∀ row ∈ after.emails, row.id = id → ∃ old ∈ before.emails,
    old.id = id ∧ (old.attachments.isSome = true → row.attachments.isSome = true)
  unlisted : Unlisted before id → Unlisted after id

theorem Lessens.refl (db : MailDb) (id : String) : Lessens db db id :=
  ⟨fun row member same => ⟨row, member, same, fun done => done⟩, fun no => no⟩

theorem Lessens.written {before after : MailDb}
    (lessens : Lessens before after id) (written : Written before id) :
    Written after id := by
  intro row member same
  rcases lessens.rows row member same with ⟨old, there, named, done⟩
  exact done (written old there named)

theorem Lessens.prepared {before after : MailDb}
    {request : Preparation} (lessens : Lessens before after id)
    (prepared : Prepared before id request) : Prepared after id request := by
  cases request with
  | none =>
      intro row member same
      rcases lessens.rows row member same with ⟨old, there, named, _⟩
      exact prepared old there named
  | saving path left saved =>
      cases path with
      | receiver => exact fun nothing => lessens.unlisted (prepared nothing)
      | api =>
          exact prepared.imp (fun both => ⟨both.1, lessens.unlisted both.2⟩)
            lessens.written
  | waking | triggered | answered =>
      exact prepared.imp lessens.unlisted lessens.written
  | stopped => trivial

theorem ReadyingInvariant.moveRequest {request : Preparation}
    {channel : List String} (invariant : ReadyingInvariant state)
    (unseen : (state.requests id).isPreparing = true ∨
      state.requests id = .none ∨
      (state.requests id = .triggered ∧ request = .answered ∧ db = state.db))
    (prepared : Prepared db id request)
    (waiting : ∀ other ∈ channel, (other = id ∧
        (request = .triggered ∨ request = .answered)) ∨
      (other ≠ id ∧ other ∈ state.channel))
    (others : ∀ other ≠ id, Lessens state.db db other)
    (same : ∀ row ∈ db.emails, row.id ≠ id → row ∈ state.db.emails) :
    ReadyingInvariant
      { state.setRequest id request with db := db, channel := channel } where
  prepared := by
    intro other
    by_cases equal : other = id
    · subst equal
      simpa [Gateway.setRequest] using prepared
    · simpa [Gateway.setRequest, Function.update_of_ne equal] using
        (others other equal).prepared (invariant.prepared other)
  channel := by
    intro other member
    rcases waiting other member with ⟨rfl, woken⟩ | ⟨different, kept⟩
    · simpa [Gateway.setRequest] using woken
    · simpa [Gateway.setRequest, Function.update_of_ne different] using
        invariant.channel other kept
  listed := by
    intro record member
    have known := invariant.listed record member
    by_cases equal : record.id = id
    · rcases unseen with preparing | born | ⟨before, answered, untouched⟩
      · rw [← equal, known.left] at preparing
        cases preparing
      · rw [← equal] at born
        exact absurd born known.begun
      · subst answered untouched
        rw [← equal] at before
        refine ⟨?_, ?_, ?_, ?_⟩
        · simp [Gateway.setRequest, equal, Preparation.isPreparing]
        · simp [Gateway.setRequest, equal]
        · intro partly
          refine .inr ((known.partly partly).resolve_left ?_)
          rw [before]
          nofun
        · simp [Gateway.setRequest, equal]
    · have keep : (state.setRequest id request).requests record.id =
          state.requests record.id := Function.update_of_ne equal _ _
      refine ⟨?_, ?_, ?_, ?_⟩
      · simpa only [keep] using known.left
      · simpa only [keep] using known.begun
      · simp only [keep]
        exact fun partly => (known.partly partly).imp_right
          (others record.id equal).unlisted
      · simp only [keep]
        intro stopped row there named
        have other : row.id ≠ id := by
          rw [named]
          exact equal
        exact known.unclaimed stopped row (same row there other) named
  apart := invariant.apart
  discarding := by
    intro record attachmentIds rest stage
    have before := invariant.discarding record attachmentIds rest stage
    have different : record.id ≠ id := by
      rintro rfl
      rcases unseen with preparing | born | ⟨triggered, _⟩
      · rw [before] at preparing
        cases preparing
      · rw [before] at born
        cases born
      · rw [before] at triggered
        cases triggered
    simpa [Gateway.setRequest, Function.update_of_ne different] using before

/-- A step keeps the invariant if it lists no new record, wakes no new email and
writes no record that its request left behind. -/
theorem ReadyingInvariant.moveSweep {channel : List String}
    {sweep : Sweep} (invariant : ReadyingInvariant state)
    (fewer : sweep.records.Sublist state.sweep.records)
    (lessens : ∀ id, Lessens state.db db id)
    (untouched : ∀ record ∈ sweep.records,
      state.requests record.id = .stopped →
        ∀ row ∈ db.emails, row.id = record.id → row ∈ state.db.emails)
    (waiting : ∀ id ∈ channel, id ∈ state.channel)
    (discarding : ∀ record attachmentIds rest,
      sweep = .discarding record attachmentIds rest →
        state.requests record.id = .stopped) :
    ReadyingInvariant
      { state with db := db, channel := channel, sweep := sweep } where
  prepared := fun id => (lessens id).prepared (invariant.prepared id)
  channel := fun id member => invariant.channel id (waiting id member)
  listed := by
    intro record member
    have known := invariant.listed record (fewer.subset member)
    refine ⟨known.left, known.begun, ?_, ?_⟩
    · exact fun partly => (known.partly partly).imp_right
        (lessens record.id).unlisted
    · intro stopped row there named
      exact known.unclaimed stopped row
        (untouched record member stopped row there named) named
  apart := invariant.apart.sublist fewer
  discarding := discarding

/-! ### Statements -/

theorem mem_updateWhere {emails : Emails}
    (sameIds : ∀ row, (change row).id = row.id) :
    row ∈ updateWhere id statuses change emails ↔
      ∃ old ∈ emails, (if old.id == id && statuses.contains old.status
        then change old else old) = row := by
  rcases update?_of_sameIds emails
    (fun row => row.id == id && statuses.contains row.status) sameIds with
    ⟨after, updated, _⟩
  rw [updateWhere, updated, Option.getD_some]
  exact Table.mem_of_update? updated

theorem lessens_updateWhere (db : MailDb)
    (sameIds : ∀ row, (change row).id = row.id)
    (keeps : ∀ row, row.attachments.isSome = true →
      (change row).attachments.isSome = true) (other : String) :
    Lessens db { db with emails := updateWhere id statuses change db.emails }
      other where
  rows := by
    intro row member same
    rcases (mem_updateWhere sameIds).mp member with ⟨old, there, changed⟩
    split at changed
    · subst changed
      exact ⟨old, there, by rw [← same, sameIds], keeps old⟩
    · subst changed
      exact ⟨old, there, same, fun done => done⟩
  unlisted := fun unlisted => unlisted

theorem updateWhere_others {emails : Emails}
    (sameIds : ∀ row, (change row).id = row.id)
    (member : row ∈ updateWhere id statuses change emails)
    (other : row.id ≠ id) : row ∈ emails := by
  rcases (mem_updateWhere sameIds).mp member with ⟨old, there, changed⟩
  split at changed
  · next selected =>
      subst changed
      rw [Bool.and_eq_true, beq_iff_eq] at selected
      rw [sameIds] at other
      exact absurd selected.1 other
  · rwa [← changed]

theorem addMail_mails (attachmentId mailId : String) (row : AttachmentMeta)
    {mail : String} (member : mail ∈ (addMail attachmentId mailId row).mails) :
    mail ∈ row.mails ∨ mail = mailId := by
  unfold addMail at member
  split at member
  · simpa [AttachmentMeta.mails] using member
  · exact .inl member

theorem register_unlisted {now : Timestamp}
    {sender attachmentId mailId other : String}
    (different : other ≠ mailId) (unlisted : Unlisted db other) :
    Unlisted (register path now sender attachmentId mailId db) other := by
  intro row member
  cases path with
  | receiver =>
      rw [register] at member
      cases inserted : db.metas.insert?
          ⟨attachmentId, sender, some [mailId], now⟩ with
      | none =>
          simp only [inserted, Option.getD_none] at member
          exact unlisted row member
      | some metas =>
          simp only [inserted, Option.getD_some] at member
          rcases (Table.mem_of_insert? inserted).mp member with old | rfl
          · exact unlisted row old
          · simpa [AttachmentMeta.mails] using different
  | api =>
      simp only [register, Table.mem_mapRows] at member
      rcases member with ⟨old, there, rfl⟩
      intro listed
      rcases addMail_mails attachmentId mailId old listed with before | equal
      · exact unlisted old there before
      · exact different equal

theorem register_emails (path : Path) (now : Timestamp)
    (sender attachmentId mailId : String) (db : MailDb) :
    (register path now sender attachmentId mailId db).emails = db.emails := by
  cases path with
  | receiver => rfl
  | api => rfl

theorem lessens_register {now : Timestamp}
    {sender attachmentId mailId other : String} (db : MailDb)
    (different : other ≠ mailId) :
    Lessens db (register path now sender attachmentId mailId db) other where
  rows := by
    intro row member same
    rw [register_emails] at member
    exact ⟨row, member, same, fun done => done⟩
  unlisted := register_unlisted different

theorem lessens_closeRecord (path : Path) (saved : List String) (id : String)
    (db : MailDb) (other : String) :
    Lessens db (closeRecord path saved id db) other := by
  unfold closeRecord
  split
  · exact lessens_updateWhere db (setAttachments_id _) (fun _ _ => rfl) other
  · exact Lessens.refl db other

theorem closeRecord_others {saved : List String}
    (member : row ∈ (closeRecord path saved id db).emails)
    (other : row.id ≠ id) : row ∈ db.emails := by
  unfold closeRecord at member
  split at member
  · exact updateWhere_others (setAttachments_id _) member other
  · exact member

theorem closeRecord_written {saved : List String} {file : String} :
    Written (closeRecord .receiver (file :: saved) id db) id := by
  intro row member same
  rcases (mem_updateWhere (setAttachments_id _)).mp member with
    ⟨old, there, changed⟩
  split at changed
  · subst changed
    rfl
  · next missed =>
      subst changed
      refine absurd ?_ missed
      rw [Bool.and_eq_true, beq_iff_eq]
      refine ⟨same, ?_⟩
      cases old.status <;> rfl

/-! ### Steps of a request -/

theorem ReadyingInvariant.asleep (invariant : ReadyingInvariant state)
    (early : (state.requests id).isPreparing = true ∨
      state.requests id = .none) :
    ∀ other ∈ state.channel, other ≠ id := by
  rintro other member rfl
  rcases invariant.channel other member with triggered | answered
  · rw [triggered] at early
    simp [Preparation.isPreparing] at early
  · rw [answered] at early
    simp [Preparation.isPreparing] at early

theorem ReadyingInvariant.inserted {files : List String} {emails : Emails}
    (invariant : ReadyingInvariant state)
    (stage : state.requests record.id = .none)
    (fresh : ∀ row ∈ state.db.metas, record.id ∉ row.mails)
    (json : record.attachments =
      if path = .api ∧ files ≠ [] then some files else none)
    (insertion : state.db.emails.insert? record = some emails) :
    ReadyingInvariant
      { state.setRequest record.id (.saving path files []) with
        db := { state.db with emails } } := by
  have absent := invariant.prepared record.id
  rw [stage] at absent
  refine invariant.moveRequest (.inr (.inl stage)) ?_ ?_ ?_ ?_
  · cases path with
    | receiver => exact fun _ => fresh
    | api =>
        cases files with
        | nil => exact .inl ⟨rfl, fresh⟩
        | cons file files =>
            right
            intro row member same
            rcases (Table.mem_of_insert? insertion).mp member with old | rfl
            · exact absurd same (absent row old)
            · rw [json, if_pos ⟨rfl, List.cons_ne_nil _ _⟩]
              rfl
  · intro other member
    exact .inr ⟨invariant.asleep (.inr stage) other member, member⟩
  · intro other different
    refine ⟨?_, fun unlisted => unlisted⟩
    intro row member same
    rcases (Table.mem_of_insert? insertion).mp member with old | rfl
    · exact ⟨row, old, same, fun done => done⟩
    · exact absurd same.symm different
  · intro row member other
    rcases (Table.mem_of_insert? insertion).mp member with old | rfl
    · exact old
    · exact absurd rfl other

theorem ReadyingInvariant.saved {id sender file : String}
    {left saved : List String} {outcome : SaveOutcome}
    (invariant : ReadyingInvariant state)
    (stage : state.requests id = .saving path (file :: left) saved) :
    ReadyingInvariant
      { state.setRequest id (.saving path left
          (if outcome = .skipped then saved else saved ++ [file])) with
        db := if outcome = .registered then
            register path state.now sender file id state.db
          else state.db } := by
  have before := invariant.prepared id
  rw [stage] at before
  have preparing : (state.requests id).isPreparing = true := by
    rw [stage]
    rfl
  have emails : (if outcome = .registered then
      register path state.now sender file id state.db else state.db).emails =
        state.db.emails := by
    split
    · exact register_emails path state.now sender file id state.db
    · rfl
  refine invariant.moveRequest (.inl preparing) ?_ ?_ ?_ ?_
  · cases path with
    | receiver =>
        intro nothing
        cases outcome with
        | skipped => exact before nothing
        | unregistered => simp at nothing
        | registered => simp at nothing
    | api =>
        right
        rcases before with ⟨none, _⟩ | written
        · cases none
        · intro row member same
          rw [emails] at member
          exact written row member same
  · intro other member
    exact .inr ⟨invariant.asleep (.inl preparing) other member, member⟩
  · intro other different
    split
    · exact lessens_register state.db different
    · exact Lessens.refl state.db other
  · intro row member _
    rwa [emails] at member

theorem ReadyingInvariant.closed {saved : List String} {written : Bool}
    (invariant : ReadyingInvariant state)
    (stage : state.requests id = .saving path [] saved)
    (inTime : PreparedInTime config state (.closed id written)) :
    ReadyingInvariant
      { state.setRequest id .waking with
        db := if written then closeRecord path saved id state.db
          else state.db } := by
  have before := invariant.prepared id
  rw [stage] at before
  have preparing : (state.requests id).isPreparing = true := by
    rw [stage]
    rfl
  refine invariant.moveRequest (.inl preparing) ?_ ?_ ?_ ?_
  · cases path with
    | receiver =>
        cases saved with
        | nil =>
            left
            have unlisted : Unlisted state.db id := before rfl
            split <;> exact unlisted
        | cons file saved =>
            right
            cases written with
            | true => exact closeRecord_written
            | false => cases inTime rfl .receiver (file :: saved) stage rfl
    | api =>
        have same : (if written then closeRecord .api saved id state.db
            else state.db) = state.db := by
          split <;> rfl
        rw [same]
        exact before.imp_left fun both => both.2
  · intro other member
    exact .inr ⟨invariant.asleep (.inl preparing) other member, member⟩
  · intro other _
    split
    · exact lessens_closeRecord path saved id state.db other
    · exact Lessens.refl state.db other
  · intro row member other
    split at member
    · exact closeRecord_others member other
    · exact member

theorem ReadyingInvariant.woken {dropped : Bool}
    (invariant : ReadyingInvariant state)
    (stage : state.requests id = .waking) :
    ReadyingInvariant
      { state.setRequest id .triggered with
        channel := if dropped then state.channel
          else state.channel ++ [id] } := by
  have before := invariant.prepared id
  rw [stage] at before
  have preparing : (state.requests id).isPreparing = true := by
    rw [stage]
    rfl
  refine invariant.moveRequest (.inl preparing) before ?_
    (fun other _ => Lessens.refl state.db other) (fun _ member _ => member)
  have asleep := invariant.asleep (.inl preparing)
  intro other member
  split at member
  · exact .inr ⟨asleep other member, member⟩
  · rcases List.mem_append.mp member with old | last
    · exact .inr ⟨asleep other old, old⟩
    · exact .inl ⟨List.mem_singleton.mp last, .inl rfl⟩

theorem ReadyingInvariant.answered (invariant : ReadyingInvariant state)
    (stage : state.requests id = .triggered) :
    ReadyingInvariant (state.setRequest id .answered) := by
  have before := invariant.prepared id
  rw [stage] at before
  refine invariant.moveRequest (.inr (.inr ⟨stage, rfl, rfl⟩)) before ?_
    (fun other _ => Lessens.refl state.db other) (fun _ member _ => member)
  intro other member
  by_cases same : other = id
  · exact .inl ⟨same, .inr rfl⟩
  · exact .inr ⟨same, member⟩

theorem ReadyingInvariant.stopped (invariant : ReadyingInvariant state)
    (stage : (state.requests id).isPreparing = true) :
    ReadyingInvariant (state.setRequest id .stopped) := by
  refine invariant.moveRequest (.inl stage) trivial ?_
    (fun other _ => Lessens.refl state.db other) (fun _ member _ => member)
  intro other member
  exact .inr ⟨invariant.asleep (.inl stage) other member, member⟩

theorem ReadyingInvariant.crashed (invariant : ReadyingInvariant state) :
    ReadyingInvariant
      { state with
        channel := []
        requests := fun id => (state.requests id).crash
        sweep := .idle } where
  prepared := by
    intro id
    show Prepared state.db id (state.requests id).crash
    unfold Preparation.crash
    split
    · trivial
    · exact invariant.prepared id
  channel := by
    intro id member
    cases member
  listed := by
    intro record member
    cases member
  apart := List.Pairwise.nil
  discarding := by
    intro record attachmentIds rest stage
    cases stage

/-! ### Steps of the trigger, of deliveries and of the sweep -/

theorem lessens_setStatus (id : String) (statuses : List EmailStatus)
    (status : EmailStatus) (db : MailDb) (other : String) :
    Lessens db { db with
      emails := updateWhere id statuses (setStatus status) db.emails } other :=
  lessens_updateWhere db (setStatus_id status) (fun _ done => done) other

theorem ReadyingInvariant.claimed {rest : List String}
    (invariant : ReadyingInvariant state) (head : state.channel = id :: rest) :
    ReadyingInvariant
      { state with channel := rest, db := claimReady id state.db } := by
  have waiting : id ∈ state.channel := by
    rw [head]
    exact List.mem_cons_self
  refine invariant.moveSweep (List.Sublist.refl _)
    (lessens_setStatus id _ _ state.db) ?_ ?_ invariant.discarding
  · intro record _ stopped row there named
    refine updateWhere_others (setStatus_id _) there ?_
    rintro rfl
    rw [← named] at stopped
    rcases invariant.channel _ waiting with triggered | answered
    · rw [triggered] at stopped
      cases stopped
    · rw [answered] at stopped
      cases stopped
  · intro other member
    rw [head]
    exact List.mem_cons_of_mem _ member

theorem ReadyingInvariant.progressed (invariant : ReadyingInvariant state)
    (rows : ∀ row ∈ db.emails, row ∈ state.db.emails ∨
      (row.status ≠ .readying ∧ ∃ old ∈ state.db.emails, old.id = row.id ∧
        old.status ≠ .readying ∧ old.attachments = row.attachments))
    (mails : ∀ row ∈ db.metas, ∃ old ∈ state.db.metas,
      ∀ mail ∈ row.mails, mail ∈ old.mails) :
    ReadyingInvariant { state with db := db } := by
  refine invariant.moveSweep (List.Sublist.refl _) ?_ ?_ (fun _ => id)
    invariant.discarding
  · intro id
    constructor
    · intro row member same
      rcases rows row member with kept | ⟨_, old, there, named, _, equal⟩
      · exact ⟨row, kept, same, fun done => done⟩
      · exact ⟨old, there, named.trans same, by rw [equal]; exact fun done => done⟩
    · intro unlisted row member listed
      rcases mails row member with ⟨old, there, fewer⟩
      exact unlisted old there (fewer id listed)
  · intro record listed stopped row member same
    rcases rows row member with kept | ⟨_, old, there, named, moved, _⟩
    · exact kept
    · have readying := (invariant.listed record listed).unclaimed stopped old
        there (named.trans same)
      exact absurd readying moved

/-- The records the sweep lists are distinct rows in `readying`. -/
theorem mem_getStuckReadying (member : record ∈ getStuckReadying config state) :
    record ∈ state.db.emails ∧ record.status = .readying ∧
      record.createdAt < state.now - 1000 * config.readyingStuckSecs := by
  have sorted := List.mem_of_mem_take member
  rw [List.mem_mergeSort, Table.mem_select, Bool.and_eq_true,
    beq_iff_eq, decide_eq_true_eq] at sorted
  exact sorted

theorem getStuckReadying_apart :
    (getStuckReadying config state).Pairwise fun first second =>
      first.id ≠ second.id := by
  have rows : state.db.emails.rows.Pairwise fun first second =>
      first.id ≠ second.id := by
    refine state.db.emails.distinct.imp ?_
    intro first second apart
    rwa [EmailRecord.conflict, beq_eq_false_iff_ne] at apart
  have symmetric : Std.Symm fun first second : EmailRecord =>
      first.id ≠ second.id := ⟨fun _ _ => Ne.symm⟩
  refine List.Pairwise.sublist (List.take_sublist _ _) ?_
  exact ((List.mergeSort_perm _ _).pairwise_iff Ne.symm).mpr (rows.filter _)

theorem ReadyingInvariant.swept (invariant : ReadyingInvariant state)
    (inTime : PreparedInTime config state .swept) :
    ReadyingInvariant
      { state with sweep := .going (getStuckReadying config state) } where
  prepared := invariant.prepared
  channel := invariant.channel
  apart := getStuckReadying_apart
  discarding := by
    intro record attachmentIds rest stage
    cases stage
  listed := by
    intro record member
    rcases mem_getStuckReadying member with ⟨there, readying, _⟩
    have settled := inTime record member
    have before := invariant.prepared record.id
    have alone : Unclaimed state.db record.id := by
      intro row other same
      rwa [email_eq_of_id other there same]
    refine ⟨settled, ?_, ?_, fun _ => alone⟩
    · intro unborn
      rw [unborn] at before
      exact before record there rfl
    · intro partly
      have unwritten : ¬Written state.db record.id := by
        intro written
        have done := written record there rfl
        rw [partly] at done
        cases done
      cases stage : state.requests record.id with
      | none =>
          rw [stage] at before
          exact absurd rfl (before record there)
      | saving path left saved =>
          rw [stage] at settled
          cases settled
      | waking =>
          rw [stage] at settled
          cases settled
      | triggered | answered =>
          rw [stage] at before
          exact .inr (before.resolve_right unwritten)
      | stopped => exact .inl rfl

theorem inspect_records (db : MailDb) (failed : Bool) (record : EmailRecord)
    (rest : List EmailRecord) :
    (inspect db failed record rest).records = record :: rest := by
  unfold inspect
  split
  · rfl
  · split <;> rfl

theorem inspect_discarding
    {record chosen : EmailRecord} {rest others : List EmailRecord}
    {attachmentIds : List String}
    (stage : inspect db failed record rest =
      .discarding chosen attachmentIds others) :
    chosen = record ∧ record.attachments = none ∧ ¬Unlisted db record.id := by
  unfold inspect at stage
  split at stage
  · cases stage
  · next unwritten =>
      split at stage
      · cases stage
      · next attachmentId ids found =>
          injection stage with same _ _
          refine ⟨same.symm, by simpa using unwritten, ?_⟩
          intro unlisted
          have member : attachmentId ∈ attachmentId :: ids :=
            List.mem_cons_self
          rw [← found] at member
          cases failed with
          | true => cases member
          | false =>
              rcases List.mem_map.mp member with ⟨row, listed, _⟩
              rcases Table.mem_select.mp listed with ⟨there, holds⟩
              exact unlisted row there (List.contains_iff_mem.mp holds)

theorem ReadyingInvariant.inspected (invariant : ReadyingInvariant state)
    (stage : state.sweep = .going (record :: rest)) :
    ReadyingInvariant
      { state with sweep := inspect state.db failed record rest } := by
  have records : state.sweep.records = record :: rest := by
    rw [stage]
    rfl
  refine invariant.moveSweep ?_ (Lessens.refl state.db)
    (fun _ _ _ _ there _ => there) (fun _ => id) ?_
  · rw [inspect_records, records]
  · intro chosen attachmentIds others chosenStage
    rcases inspect_discarding chosenStage with ⟨rfl, partly, listed⟩
    have known := invariant.listed chosen (by rw [records]; exact List.mem_cons_self)
    exact (known.partly partly).resolve_right listed

theorem ReadyingInvariant.flipped (invariant : ReadyingInvariant state)
    (stage : state.sweep = .flipping record rest) :
    ReadyingInvariant
      { state with
        sweep := .going rest
        db := if failed then state.db
          else flipReadyingToReady record.id state.db } := by
  have records : state.sweep.records = record :: rest := by
    rw [stage]
    rfl
  have apart := invariant.apart
  rw [records, List.pairwise_cons] at apart
  refine invariant.moveSweep ?_ ?_ ?_ (fun _ => id) nofun
  · rw [records]
    exact List.sublist_cons_self record rest
  · intro id
    split
    · exact Lessens.refl state.db id
    · exact lessens_setStatus record.id _ _ state.db id
  · intro other listed _ row there named
    split at there
    · exact there
    · refine updateWhere_others (setStatus_id _) there ?_
      rw [named]
      exact (apart.1 other listed).symm

theorem ReadyingInvariant.cascaded
    {attachmentId : String} {others : List String}
    (invariant : ReadyingInvariant state)
    (stage : state.sweep = .discarding record (attachmentId :: others) rest) :
    ReadyingInvariant
      { state with
        sweep := .discarding record others rest
        db := if failed then state.db
          else state.db.cascaded record.id attachmentId } := by
  have trims := cascaded_trims state.db record.id attachmentId
  refine invariant.moveSweep ?_ ?_ ?_ (fun _ => id) ?_
  · rw [stage]
    exact List.Sublist.refl _
  · intro id
    split
    · exact Lessens.refl state.db id
    · constructor
      · intro row member same
        rw [trims.emails] at member
        exact ⟨row, member, same, fun done => done⟩
      · intro unlisted row member listed
        rcases trims.mails row member with ⟨old, there, _, fewer⟩
        exact unlisted old there (fewer id listed)
  · intro _ _ _ row there _
    split at there
    · exact there
    · rwa [trims.emails] at there
  · intro chosen attachmentIds left same
    injection same with equal _ _
    rw [← equal]
    exact invariant.discarding record _ rest stage

theorem ReadyingInvariant.deleted (invariant : ReadyingInvariant state)
    (stage : state.sweep = .discarding record [] rest) :
    ReadyingInvariant
      { state with
        sweep := .going rest
        db := if failed then state.db else state.db.deleteEmail record.id } := by
  have kept : ∀ row ∈ (if failed then state.db
      else state.db.deleteEmail record.id).emails, row ∈ state.db.emails := by
    intro row member
    split at member
    · exact member
    · exact (Table.mem_delete.mp member).1
  refine invariant.moveSweep ?_ ?_ (fun _ _ _ row there _ => kept row there)
    (fun _ => id) nofun
  · rw [stage]
    exact List.sublist_cons_self record rest
  · intro id
    constructor
    · intro row member same
      exact ⟨row, kept row member, same, fun done => done⟩
    · split
      · exact fun unlisted => unlisted
      · exact fun unlisted => unlisted

theorem ReadyingInvariant.step {next : Gateway} {event : Event}
    (invariant : ReadyingInvariant state)
    (inTime : PreparedInTime config state event)
    (moved : Step config state event next) : ReadyingInvariant next := by
  cases moved with
  | elapsed duration =>
      exact ⟨invariant.prepared, invariant.channel,
        fun record member => ⟨(invariant.listed record member).left,
          (invariant.listed record member).begun,
          (invariant.listed record member).partly,
          (invariant.listed record member).unclaimed⟩,
        invariant.apart, invariant.discarding⟩
  | inserted path record files emails stage fresh born json insertion =>
      exact invariant.inserted stage fresh json insertion
  | saved id sender path file left saved outcome stage =>
      exact invariant.saved stage
  | closed id path saved written stage => exact invariant.closed stage inTime
  | woken id dropped stage => exact invariant.woken stage
  | answered id stage => exact invariant.answered stage
  | stopped id stage => exact invariant.stopped stage
  | crashed => exact invariant.crashed
  | claimed id rest head => exact invariant.claimed head
  | progressed db rows mails => exact invariant.progressed rows mails
  | swept stage => exact invariant.swept inTime
  | inspected record rest failed stage => exact invariant.inspected stage
  | finished stage =>
      exact invariant.moveSweep (List.nil_sublist _) (Lessens.refl state.db)
        (fun _ _ _ _ there _ => there) (fun _ => id) nofun
  | flipped record rest failed stage => exact invariant.flipped stage
  | cascaded record attachmentId others rest failed stage =>
      exact invariant.cascaded stage
  | deleted record rest failed stage => exact invariant.deleted stage

theorem ReadyingInvariant.start
    (metas : Table AttachmentMeta AttachmentMeta.conflict)
    (permissions : List (String × String)) :
    ReadyingInvariant (Gateway.start metas permissions) where
  prepared := by
    intro id row member
    cases member
  channel := by
    intro id member
    cases member
  listed := by
    intro record member
    cases member
  apart := List.Pairwise.nil
  discarding := by
    intro record attachmentIds rest stage
    cases stage

theorem ReadyingInvariant.safeSweep (invariant : ReadyingInvariant state) :
    SafeSweep state where
  flips := by
    intro record rest stage row member changed
    have known := invariant.listed record (by
      rw [stage]
      exact List.mem_cons_self)
    rcases (mem_updateWhere (setStatus_id _)).mp member with
      ⟨old, there, written⟩
    split at written
    · next selected =>
        subst written
        rw [Bool.and_eq_true, beq_iff_eq] at selected
        have named : (setStatus .ready old).id = record.id := selected.1
        refine ⟨by rw [named]; exact known.left, old, there, rfl, ?_⟩
        simpa using selected.2
    · subst written
      exact absurd there changed
  discards := by
    intro record rest stage row there gone
    have stopped := invariant.discarding record [] rest stage
    have known := invariant.listed record (by
      rw [stage]
      exact List.mem_cons_self)
    have named : row.id = record.id := by
      by_contra other
      exact gone (Table.mem_delete.mpr ⟨there, beq_eq_false_iff_ne.mpr other⟩)
    exact ⟨by rw [named]; exact stopped, known.unclaimed stopped row there named⟩

end Invariant

/-- When every email is prepared before it is old enough, the sweep is safe in
every state. -/
theorem sweep_safe {config : Config}
    {metas : Table AttachmentMeta AttachmentMeta.conflict}
    {permissions : List (String × String)} {events : List Event}
    {last : Gateway}
    (run : Run (Guarded (PreparedInTime config) (Step config))
      (Gateway.start metas permissions) events last) : SafeSweep last := by
  have preserved : ∀ state event next, ReadyingInvariant state →
      Guarded (PreparedInTime config) (Step config) state event next →
        ReadyingInvariant next := by
    intro state event next invariant moved
    exact invariant.step moved.1 moved.2
  exact (run.invariant preserved (.start metas permissions)).safeSweep

def slowEmail : EmailRecord :=
  { waitingEmail with status := .readying, attachments := none }

/-- The email is inserted and the first of its two attachments is saved. -/
def halfSaved : MailDb where
  emails := ⟨[slowEmail], List.pairwise_singleton _ _⟩
  metas := ⟨[waitingAttachment "first" 0], List.pairwise_singleton _ _⟩
  permissions := []

theorem halfSaved_run :
    ∃ state, Run (Guarded (PreparedInTime sampleConfig) (Step sampleConfig))
      (.start .empty []) [.inserted .receiver slowEmail ["first", "second"],
        .saved "m" .registered] state ∧
      state.now = 0 ∧ state.db = halfSaved ∧ state.sweep = .idle ∧
      state.requests "m" = .saving .receiver ["second"] ["first"] := by
  have inserted : Step sampleConfig (.start .empty []) _ _ :=
    .inserted (.start .empty []) .receiver slowEmail ["first", "second"]
      ⟨[slowEmail], List.pairwise_singleton _ _⟩ rfl
      (fun row member => by cases member) ⟨rfl, rfl⟩ rfl rfl
  refine ⟨_, .cons ⟨trivial, inserted⟩ (.cons ⟨trivial, .saved _ "m"
    "bob@x.org" .receiver "first" ["second"] [] .registered ?_⟩ (.nil _)),
    rfl, rfl, rfl, ?_⟩
  · decide
  · decide

theorem discarding_run (condition : Gateway → Event → Prop) {state : Gateway}
    (begun : state.now = 0) (db : state.db = halfSaved)
    (idle : state.sweep = .idle)
    (others : ∀ state, ∀ event ∈ [.elapsed 60001, .inspected false,
      .cascaded false], condition state event)
    (sweeping : ∀ next, next.db = halfSaved → next.requests = state.requests →
      condition next .swept) :
    ∃ last, Run (Guarded condition (Step sampleConfig)) state
      [.elapsed 60001, .swept, .inspected false, .cascaded false] last ∧
      last.requests = state.requests ∧ last.sweep = .discarding slowEmail [] [] ∧
      last.db.emails = halfSaved.emails := by
  have listed : getStuckReadying sampleConfig
      { state with now := state.now + (60001 : Nat) } = [slowEmail] := by
    simp only [getStuckReadying, begun, db]
    decide +kernel
  have kept := (cascaded_trims halfSaved "m" "first").emails
  refine ⟨_, .cons ⟨others _ _ (by decide), .elapsed state 60001⟩
    (.cons ⟨sweeping _ db rfl, .swept _ idle⟩
      (.cons ⟨others _ _ (by decide), .inspected _ slowEmail [] false ?_⟩
        (.cons ⟨others _ _ (by decide), .cascaded _ slowEmail "first" [] [] false ?_⟩
          (.nil _)))), rfl, rfl, ?_⟩
  · simp only [listed]
  · simp only [db]
    decide +kernel
  · simp only [db]
    exact kept

/-- A slow receiver loses the email it is still saving attachments of. -/
theorem slowEmail_discarded :
    ¬∀ config metas permissions events last,
      Run (Step config) (Gateway.start metas permissions) events last →
        SafeSweep last := by
  intro all
  rcases halfSaved_run with ⟨state, saved, begun, db, idle, saving⟩
  rcases discarding_run (fun _ _ => True) begun db idle (fun _ _ _ => trivial)
    (fun _ _ _ => trivial) with ⟨last, swept, same, stage, emails⟩
  have safe := all _ _ _ _ _ ((Run.of_guarded saved).append
    (Run.of_guarded swept))
  have member : slowEmail ∈ last.db.emails := by
    rw [emails]
    exact List.mem_singleton_self _
  have gone : slowEmail ∉ (last.db.deleteEmail slowEmail.id).emails := by
    intro left
    have other := (Table.mem_delete.mp left).2
    rw [beq_self_eq_true] at other
    cases other
  have stopped := (safe.discards slowEmail [] stage slowEmail member gone).1
  rw [same] at stopped
  cases saving.symm.trans stopped

/-- A request that went away leaves a record the sweep may discard. -/
theorem slowEmail_stopped :
    ∃ last, Run (Guarded (PreparedInTime sampleConfig) (Step sampleConfig))
      (.start .empty []) [.inserted .receiver slowEmail ["first", "second"],
        .saved "m" .registered, .stopped "m", .elapsed 60001, .swept,
        .inspected false, .cascaded false] last ∧
      last.sweep = .discarding slowEmail [] [] ∧ SafeSweep last := by
  rcases halfSaved_run with ⟨state, saved, begun, db, idle, saving⟩
  have stops : Guarded (PreparedInTime sampleConfig) (Step sampleConfig) state
      (.stopped "m") (state.setRequest "m" .stopped) :=
    ⟨trivial, .stopped state "m" (by
      rw [saving]
      rfl)⟩
  have calm : ∀ state, ∀ event ∈ [.elapsed 60001, .inspected false,
      .cascaded false], PreparedInTime sampleConfig state event := by
    simp [PreparedInTime]
  have settled : ∀ next, next.db = halfSaved →
      next.requests = (state.setRequest "m" .stopped).requests →
        PreparedInTime sampleConfig next .swept := by
    intro next same requests record listed
    have member := (mem_getStuckReadying listed).1
    rw [same] at member
    rw [List.mem_singleton.mp member, requests]
    show (Function.update state.requests "m" .stopped "m").isPreparing = false
    rw [Function.update_self]
    rfl
  have now : (state.setRequest "m" .stopped).now = 0 := begun
  rcases discarding_run (PreparedInTime sampleConfig) now db idle calm settled
    with ⟨last, swept, _, stage, _⟩
  have run := saved.append (.cons stops swept)
  exact ⟨last, run, stage, sweep_safe run⟩

end AimailGateway.Readying
