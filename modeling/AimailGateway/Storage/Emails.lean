import AimailGateway.Storage.Call

/-! # Statements on `emails`

The columns `endpoints` and `sender_signature` are left out.
-/

namespace AimailGateway

open Library

namespace Storage

section Statements

variable (env : Surroundings)

/-- The row `insert_email` writes: every email is born `readying`. -/
def newEmail (id systemId : String) (direction : EmailDirection)
    (sender : String) (recipients : Recipients) (subject body : String)
    (attachments : Option (List String)) (headers : List (String × String))
    (maxAttempts : Int) (createdAt : Timestamp) : EmailRecord where
  id := id
  status := .readying
  systemId := systemId
  direction := direction
  sender := sender
  recipients := recipients
  subject := subject
  body := body
  headers := headers
  attachments := attachments
  sendCount := 0
  lastSentAt := createdAt
  nextRetryAt := none
  maxAttempts := maxAttempts
  createdAt := createdAt

def insertEmail (id systemId : String) (direction : EmailDirection)
    (sender : String) (recipients : Recipients) (subject body : String)
    (attachments : Option (List String)) (headers : List (String × String))
    (maxAttempts : Int) : Storage EmailRecord := do
  let createdAt ← now env
  call env fun db =>
    let record := newEmail id systemId direction sender recipients subject body
      attachments headers maxAttempts createdAt
    match db.emails.insert? record with
    | some emails => .ok (record, { db with emails })
    | none => .error constraintFailed

def getEmail (id : String) : Storage (Option EmailRecord) :=
  query env fun db => db.emails.find? (·.id == id)

/-- `UPDATE emails SET … WHERE selected`, answering whether a row was. -/
def updateEmails (selected : EmailRecord → Bool)
    (change : EmailRecord → EmailRecord) : Storage Bool :=
  call env fun db =>
    match db.emails.update? selected change with
    | some emails => .ok (db.emails.rows.any selected, { db with emails })
    | none => .error constraintFailed

/-- Read a row and change it, in one call. -/
def changeEmail (id : String) (change : EmailRecord → EmailRecord) :
    Storage (Option EmailRecord) :=
  call env fun db =>
    match db.emails.find? (·.id == id) with
    | none => .ok (none, db)
    | some row =>
        match db.emails.update? (·.id == id) change with
        | some emails => .ok (some (change row), { db with emails })
        | none => .error constraintFailed

def isClaimable (row : EmailRecord) : Bool :=
  row.status == .readying || row.status == .ready

def markSending (time : Timestamp) (row : EmailRecord) : EmailRecord :=
  { row with status := .sending, lastSentAt := time }

/-- Compare and swap: of all claims of an email only the first succeeds. -/
def claimReady (id : String) : Storage (Option EmailRecord) := do
  let time ← now env
  call env fun db =>
    match db.emails.find? fun row => row.id == id && isClaimable row with
    | none => .ok (none, db)
    | some row =>
        match db.emails.update? (fun row => row.id == id && isClaimable row)
            (markSending time) with
        | some emails => .ok (some (markSending time row), { db with emails })
        | none => .error constraintFailed

/-- `ORDER BY created_at ASC LIMIT limit`: emails whose preparation did not
end. -/
def stuckReadyingEmails (cutoff : Timestamp) (limit : Nat) (db : Database) :
    List EmailRecord :=
  ((db.emails.select fun row =>
    row.status == .readying && decide (row.createdAt < cutoff)).mergeSort
      fun first second => first.createdAt ≤ second.createdAt).take limit

def getStuckReadyingEmails (cutoff : Timestamp) (limit : Nat) :
    Storage (List EmailRecord) :=
  query env (stuckReadyingEmails cutoff limit)

/-- `NULL` comes first in ascending order. -/
def retriesBefore : Option Timestamp → Option Timestamp → Bool
  | none, _ => true
  | some _, none => false
  | some first, some second => first ≤ second

def endOfSecond (time : Timestamp) : Timestamp :=
  time / 1000 * 1000 + 999

def isRetryDue (time : Timestamp) (row : EmailRecord) : Bool :=
  match row.nextRetryAt with
  | none => true
  | some due => due ≤ endOfSecond time

def pendingRetryEmails (time : Timestamp) (limit : Nat) (db : Database) :
    List EmailRecord :=
  ((db.emails.select fun row =>
    row.status == .ready && decide (row.sendCount < row.maxAttempts) &&
      isRetryDue time row).mergeSort
        fun first second => retriesBefore first.nextRetryAt second.nextRetryAt).take
          limit

def getPendingRetryEmails (limit : Nat) : Storage (List EmailRecord) := do
  let time ← now env
  query env (pendingRetryEmails time limit)

def overlimitEmails (limit : Nat) (db : Database) : List EmailRecord :=
  ((db.emails.select fun row =>
    row.status == .ready && decide (row.maxAttempts ≤ row.sendCount)).mergeSort
      fun first second => first.lastSentAt ≤ second.lastSentAt).take limit

def getOverlimitEmails (limit : Nat) : Storage (List EmailRecord) :=
  query env (overlimitEmails limit)

def deliveredExpiredBefore (cutoff : Timestamp) (limit : Nat) (db : Database) :
    List EmailRecord :=
  ((db.emails.select fun row =>
    row.status == .delivered && decide (row.lastSentAt < cutoff)).mergeSort
      fun first second => first.lastSentAt ≤ second.lastSentAt).take limit

def getDeliveredExpiredBefore (cutoff : Timestamp) (limit : Nat) :
    Storage (List EmailRecord) :=
  query env (deliveredExpiredBefore cutoff limit)

def flipReadyingToReady (id : String) : Storage Bool :=
  updateEmails env (fun row => row.id == id && row.status == .readying)
    fun row => { row with status := .ready }

def markReadyRetry (sendCount : Int) (nextRetryAt time : Timestamp)
    (row : EmailRecord) : EmailRecord :=
  { row with
    status := .ready
    sendCount := sendCount
    nextRetryAt := some nextRetryAt
    lastSentAt := time }

def updateEmailReadyRetry (id : String) (sendCount : Int)
    (nextRetryAt : Timestamp) : Storage (Option EmailRecord) := do
  let time ← now env
  changeEmail env id (markReadyRetry sendCount nextRetryAt time)

def updateEmailSendCount (id : String) (sendCount : Int) : Storage Bool :=
  updateEmails env (·.id == id) fun row => { row with sendCount := sendCount }

def markCompleted (time : Timestamp) (row : EmailRecord) : EmailRecord :=
  { row with status := .completed, lastSentAt := time }

def updateEmailCompleted (id : String) : Storage (Option EmailRecord) := do
  let time ← now env
  changeEmail env id (markCompleted time)

def markDelivered (time : Timestamp) (row : EmailRecord) : EmailRecord :=
  { row with status := .delivered, lastSentAt := time }

def updateEmailDelivered (id : String) : Storage (Option EmailRecord) := do
  let time ← now env
  changeEmail env id (markDelivered time)

def updateEmailAttachments (id : String) (attachments : List String) :
    Storage Bool :=
  updateEmails env (·.id == id) fun row =>
    { row with attachments := some attachments }

def deleteEmail (id : String) : Storage Unit :=
  call env fun db =>
    .ok ((), { db with emails := db.emails.delete (·.id == id) })

/-- `ORDER BY created_at DESC LIMIT limit`. -/
def findEmailsBySenderDirection (sender : String) (direction : EmailDirection)
    (limit : Nat) : Storage (List EmailRecord) :=
  query env fun db =>
    ((db.emails.select fun row =>
      row.sender == sender && row.direction == direction).mergeSort
        fun first second => second.createdAt ≤ first.createdAt).take limit

end Statements

/-! ## What the statements do to the table -/

open Action

variable {env : Surroundings} {world : World}
  {failed : AppError → World → Prop} {change : EmailRecord → EmailRecord}
  {id systemId sender subject body : String} {ok : EmailRecord → World → Prop}
  {attachments : Option (List String)} {headers : List (String × String)}
  {selected : EmailRecord → Bool} {direction : EmailDirection}
  {recipients : Recipients} {maxAttempts : Int}

theorem le_endOfSecond (time : Nat) : time ≤ endOfSecond time := by
  change time ≤ time / 1000 * 1000 + 999
  omega

/-- The insertion of an email meets a storage fault or a taken id. -/
def RefusesEmail (env : Surroundings) (id : String) (world : World) : Prop :=
  env.fault (world.tick + 1) ≠ none ∨ ∃ row ∈ world.db.emails, row.id = id

theorem insertEmail_settles
    (refused : RefusesEmail env id world → ∀ error,
      failed error ⟨world.db, world.tick + 2⟩)
    (inserted : ¬ RefusesEmail env id world → ∀ createdAt emails,
      world.db.emails.insert? (newEmail id systemId direction sender recipients
        subject body attachments headers maxAttempts createdAt) = some emails →
      ok (newEmail id systemId direction sender recipients subject body
        attachments headers maxAttempts createdAt)
        ⟨{ world.db with emails }, world.tick + 2⟩) :
    (insertEmail env id systemId direction sender recipients subject body
      attachments headers maxAttempts).Ends ok failed world := by
  rw [insertEmail, ends_bind, ends_now, ends_call]
  refine ⟨fun fault failing => refused (.inl ?_) _, fun calm => ⟨?_, ?_⟩⟩
  · have failing' : env.fault (world.tick + 1) = some fault := failing
    rw [failing']
    exact Option.some_ne_none fault
  · intro error outcome
    refine refused (.inr ?_) error
    by_contra free
    rw [not_exists] at free
    have distinct : ∀ old ∈ world.db.emails, EmailRecord.conflict old
        (newEmail id systemId direction sender recipients subject body
          attachments headers maxAttempts (env.clock world.tick)) = false := by
      intro old member
      simpa [EmailRecord.conflict, newEmail] using
        fun same => free old ⟨member, same⟩
    rcases Table.insert?_isSome distinct with ⟨emails, insertion⟩
    simp only [World.later_db, insertion] at outcome
    cases outcome
  · intro record db outcome
    simp only [World.later_db] at outcome
    split at outcome
    · next emails insertion =>
        cases outcome
        refine inserted ?_ _ emails insertion
        rintro (fault | ⟨old, member, same⟩)
        · exact fault calm
        · have apart := Table.conflict_false_of_insert? insertion old member
          simp [EmailRecord.conflict, newEmail, same] at apart
    · cases outcome

theorem ends_insertEmail
    (fault : ¬ (env.Calm ∧ ∀ old ∈ world.db.emails, old.id ≠ id) →
      ∀ error later, later.db = world.db → failed error later)
    (inserted : ∀ createdAt emails later,
      world.db.emails.insert? (newEmail id systemId direction sender recipients
        subject body attachments headers maxAttempts createdAt) = some emails →
      later.db = { world.db with emails } →
      ok (newEmail id systemId direction sender recipients subject body
        attachments headers maxAttempts createdAt) later) :
    (insertEmail env id systemId direction sender recipients subject body
      attachments headers maxAttempts).Ends ok failed world := by
  refine insertEmail_settles (fun refuses _ => fault ?_ _ _ rfl)
    fun _ createdAt emails insertion => inserted createdAt emails _ insertion rfl
  rintro ⟨calm, free⟩
  rcases refuses with failing | ⟨row, member, same⟩
  · exact failing (calm _)
  · exact free row member same

theorem insertEmail_ends (fault : AllowsFailure failed world)
    (inserted : ∀ createdAt emails later,
      world.db.emails.insert? (newEmail id systemId direction sender recipients
        subject body attachments headers maxAttempts createdAt) = some emails →
      later.db = { world.db with emails } →
      ok (newEmail id systemId direction sender recipients subject body
        attachments headers maxAttempts createdAt) later) :
    (insertEmail env id systemId direction sender recipients subject body
      attachments headers maxAttempts).Ends ok failed world :=
  ends_insertEmail (fun _ => fault) inserted

theorem updateEmails_ends {ok : Bool → World → Prop}
    (fault : AllowsFailure failed world)
    (updated : ∀ emails later,
      world.db.emails.update? selected change = some emails →
      later.db = { world.db with emails } →
      ok (world.db.emails.rows.any selected) later) :
    (updateEmails env selected change).Ends ok failed world := by
  apply call_ends
  · exact fun error => fault error _ rfl
  · intro answer db outcome
    split at outcome
    · next emails update =>
        cases outcome
        exact updated emails _ update rfl
    · cases outcome

theorem changeEmail_ends {id : String} {ok : Option EmailRecord → World → Prop}
    (fault : AllowsFailure failed world)
    (missing : (∀ row ∈ world.db.emails, row.id ≠ id) →
      ∀ later, later.db = world.db → ok none later)
    (changed : ∀ row ∈ world.db.emails, row.id = id → ∀ emails later,
      world.db.emails.update? (·.id == id) change = some emails →
      later.db = { world.db with emails } → ok (some (change row)) later) :
    (changeEmail env id change).Ends ok failed world := by
  apply call_ends
  · exact fun error => fault error _ rfl
  · intro answer db outcome
    cases search : world.db.emails.find? (·.id == id) with
    | none =>
        simp only [search] at outcome
        cases outcome
        refine missing (fun row member => ?_) _ rfl
        simpa using Table.find?_eq_none.mp search row member
    | some row =>
        rcases Table.mem_of_find? search with ⟨member, selected⟩
        simp only [search] at outcome
        split at outcome
        · next emails update =>
            cases outcome
            exact changed row member (by simpa using selected) emails _ update
              rfl
        · cases outcome

theorem deleteEmail_ends {id : String} {ok : Unit → World → Prop}
    (fault : AllowsFailure failed world)
    (deleted : ∀ later,
      later.db = { world.db with emails := world.db.emails.delete (·.id == id) } →
      ok () later) :
    (deleteEmail env id).Ends ok failed world := by
  apply call_ends
  · exact fun error => fault error _ rfl
  · intro answer db outcome
    cases outcome
    exact deleted _ rfl

/-- The same email, as it was inserted: what no later statement changes. -/
structure SameOrigin (old row : EmailRecord) : Prop where
  id : old.id = row.id
  systemId : old.systemId = row.systemId
  direction : old.direction = row.direction
  sender : old.sender = row.sender
  recipients : old.recipients = row.recipients
  subject : old.subject = row.subject
  body : old.body = row.body
  headers : old.headers = row.headers

namespace SameOrigin

variable {first second third row : EmailRecord}

theorem refl (row : EmailRecord) : SameOrigin row row :=
  ⟨rfl, rfl, rfl, rfl, rfl, rfl, rfl, rfl⟩

theorem trans (earlier : SameOrigin first second)
    (later : SameOrigin second third) : SameOrigin first third where
  id := earlier.id.trans later.id
  systemId := earlier.systemId.trans later.systemId
  direction := earlier.direction.trans later.direction
  sender := earlier.sender.trans later.sender
  recipients := earlier.recipients.trans later.recipients
  subject := earlier.subject.trans later.subject
  body := earlier.body.trans later.body
  headers := earlier.headers.trans later.headers

end SameOrigin

/-- Every email is one that was there, as far as its origin goes. -/
def SameMails (before after : Database) : Prop :=
  ∀ row ∈ after.emails, ∃ old ∈ before.emails, SameOrigin old row

namespace SameMails

variable {db first second third : Database}

theorem of_eq (same : second.emails = first.emails) :
    SameMails first second := by
  intro row member
  rw [same] at member
  exact ⟨row, member, .refl row⟩

theorem refl (db : Database) : SameMails db db := of_eq rfl

theorem trans (earlier : SameMails first second)
    (later : SameMails second third) : SameMails first third := by
  intro row member
  rcases later row member with ⟨middle, stored, origin⟩
  rcases earlier middle stored with ⟨old, present, oldOrigin⟩
  exact ⟨old, present, oldOrigin.trans origin⟩

theorem of_update {emails : Emails} {selected : EmailRecord → Bool}
    {change : EmailRecord → EmailRecord}
    (updated : db.emails.update? selected change = some emails)
    (keeps : ∀ row, SameOrigin row (change row)) :
    SameMails db { db with emails } := by
  intro row member
  rcases (Table.mem_of_update? updated).mp member with ⟨old, stored, changed⟩
  refine ⟨old, stored, ?_⟩
  split at changed
  · rw [← changed]
    exact keeps old
  · rw [changed]
    exact .refl row

theorem of_delete {selected : EmailRecord → Bool} :
    SameMails db { db with emails := db.emails.delete selected } := by
  intro row member
  exact ⟨row, (Table.mem_delete.mp member).1, .refl row⟩

end SameMails

theorem moves_updateEmails (keeps : ∀ row, SameOrigin row (change row)) :
    (updateEmails env selected change).Moves (OnDb SameMails) := by
  rw [moves_iff_ends]
  intro world
  apply updateEmails_ends
  · exact fun _ _ same => .of_eq (by rw [same])
  · intro emails later updated same
    rw [OnDb, same]
    exact .of_update updated keeps

theorem moves_changeEmail {id : String}
    (keeps : ∀ row, SameOrigin row (change row)) :
    (changeEmail env id change).Moves (OnDb SameMails) := by
  rw [moves_iff_ends]
  intro world
  apply changeEmail_ends
  · exact fun _ _ same => .of_eq (by rw [same])
  · exact fun _ _ same => .of_eq (by rw [same])
  · intro row _ _ emails later updated same
    rw [OnDb, same]
    exact .of_update updated keeps

theorem moves_updateEmailCompleted {id : String} :
    (updateEmailCompleted env id).Moves (OnDb SameMails) := by
  rw [updateEmailCompleted]
  apply Moves.bind
  · exact fun earlier later => SameMails.trans earlier later
  · exact moves_now SameMails.refl
  · exact fun _ => moves_changeEmail fun row => { SameOrigin.refl row with }

theorem moves_updateEmailAttachments {id : String} {attachments : List String} :
    (updateEmailAttachments env id attachments).Moves (OnDb SameMails) :=
  moves_updateEmails fun row => { SameOrigin.refl row with }

theorem moves_deleteEmail {id : String} :
    (deleteEmail env id).Moves (OnDb SameMails) := by
  rw [moves_iff_ends]
  intro world
  apply deleteEmail_ends
  · exact fun _ _ same => .of_eq (by rw [same])
  · intro later same
    rw [OnDb, same]
    exact .of_delete

/-- An email that was there is still there. -/
def KeptMails (before after : Database) : Prop :=
  ∀ old ∈ before.emails, ∃ row ∈ after.emails, SameOrigin old row

theorem KeptMails.of_eq {first second : Database}
    (same : second.emails = first.emails) : KeptMails first second := by
  intro old member
  rw [← same] at member
  exact ⟨old, member, .refl old⟩

theorem KeptMails.of_update {db : Database} {emails : Emails}
    (updated : db.emails.update? selected change = some emails)
    (keeps : ∀ row, SameOrigin row (change row)) :
    KeptMails db { db with emails } := by
  intro old member
  have present : (if selected old then change old else old) ∈ emails :=
    (Table.mem_of_update? updated).mpr ⟨old, member, rfl⟩
  refine ⟨_, present, ?_⟩
  split
  · exact keeps old
  · exact .refl old

theorem updateEmailAttachments_keeps {id : String} {attachments : List String} :
    (updateEmailAttachments env id attachments).Moves (OnDb KeptMails) := by
  rw [moves_iff_ends]
  intro world
  apply updateEmails_ends
  · exact fun _ _ same => .of_eq (by rw [same])
  · intro emails later updated same
    rw [OnDb, same]
    exact .of_update updated fun row => { SameOrigin.refl row with }

def Created (before after : Database) (row : EmailRecord) : Prop :=
  row ∈ after.emails ∧ ∀ old ∈ before.emails, old.id ≠ row.id

namespace Created

variable {db before middle after : Database} {row : EmailRecord}

theorem of_insert {inserted : EmailRecord} {emails : Emails}
    (insertion : db.emails.insert? inserted = some emails)
    (created : Created db { db with emails } row) : row = inserted := by
  rcases (Table.mem_of_insert? insertion).mp created.1 with old | new
  · exact absurd rfl (created.2 row old)
  · exact new

theorem of_sameMails (same : SameMails middle after)
    (created : Created before after row) :
    ∃ old, Created before middle old ∧ SameOrigin old row := by
  rcases same row created.1 with ⟨old, stored, origin⟩
  refine ⟨old, ⟨stored, fun earlier member => ?_⟩, origin⟩
  rw [origin.id]
  exact created.2 earlier member

theorem false_of_sameMails (same : SameMails before after)
    (created : Created before after row) : False := by
  rcases same row created.1 with ⟨old, stored, origin⟩
  exact created.2 old stored origin.id

end Created

end Storage

end AimailGateway
