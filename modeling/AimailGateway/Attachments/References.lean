import AimailGateway.Attachments.Collection
import Mathlib.Logic.Function.Basic

/-! # References of emails to an attachment

Any number of calls that add a mail id to an attachment or strike one, with the
cleanups of emails and the expiry scan, taking turns request by request. A call
reads the column and writes it back; where nothing is written in between, no
reference is lost.
-/

namespace AimailGateway.Attachments

open Library
open Library.Program (Ensures Rule)

/-! ## Calls and jobs -/

inductive Call where
  | add (mailId : String)
  | remove (mailId : String)
  deriving DecidableEq

def edit (column : Option (List String)) : Call → Option (List String)
  | .add mailId =>
      if (column.getD []).contains mailId then column
      else some (column.getD [] ++ [mailId])
  | .remove mailId =>
      column.bind fun current =>
        if (current.filter (· != mailId)).isEmpty then none
        else some (current.filter (· != mailId))

def Call.flow (attachmentId : String) : Call → Flow (Except AppError Unit)
  | .add mailId => addMailId attachmentId mailId
  | .remove mailId => removeMailId attachmentId mailId

def Call.completed (call : Call) : Except AppError Unit → Option Call
  | .ok _ => some call
  | .error _ => none

/-- `cascadeDeleteAttachment`, with the call it completed. -/
def cascade (attachmentId extension senderEmail : String)
    (permCount mailCount : Nat) (mailId : String) : Flow (Option Call) := do
  if permCount = 0 ∧ mailCount ≤ 1 then
    let _ ← ask (.removeFile ⟨senderEmail, attachmentId, extension⟩)
    let _ ← ask (.revokeAll attachmentId)
    let _ ← ask (.deleteMeta attachmentId)
    pure none
  else
    let result ← removeMailId attachmentId mailId
    pure ((Call.remove mailId).completed result)

def extensionOf : Except AppError (Option AttachmentMetaRecord) → String
  | .ok (some row) => row.fileExtension
  | _ => "bin"

/-- `cleanupAttachment`, with the call it completed. -/
def cleaning (email : EmailRecord) (attachmentId : String) :
    Flow (Option Call) := do
  let found ← ask (.getMeta attachmentId)
  let permCount ← ask (.countPermissions attachmentId)
  let mailCount ← ask (.countMailIds attachmentId)
  cascade attachmentId (extensionOf found) email.sender (countOr 0 permCount)
    (countOr 0 mailCount) email.id

/-- The turn of an expired attachment, up to the calls of its loop: whether
they are made. -/
def turn (attachment : AttachmentMetaRecord) : Flow Bool := do
  let mailCount ← ask (.countMailIds attachment.id)
  let permCount ← ask (.countPermissions attachment.id)
  if countOr 0 permCount = 0 ∧ countOr 1 mailCount ≤ 1 then
    let _ ← cascade attachment.id attachment.fileExtension
      attachment.senderEmail (countOr 0 permCount) (countOr 1 mailCount)
      attachment.id
    pure false
  else
    pure true

variable {permCount mailCount : Nat}

theorem cascade_eq {attachmentId extension senderEmail mailId : String} :
    (do let _ ← cascade attachmentId extension senderEmail permCount mailCount mailId) =
      cascadeDeleteAttachment attachmentId extension senderEmail permCount
        mailCount mailId := by
  unfold cascade cascadeDeleteAttachment
  split <;> simp only [bind_assoc, pure_bind]

theorem cleaning_eq (email : EmailRecord) (attachmentId : String) :
    (do let _ ← cleaning email attachmentId) =
      cleanupAttachment email attachmentId := by
  unfold cleaning cleanupAttachment
  simp only [bind_assoc, cascade_eq]
  refine congrArg (ask (.getMeta attachmentId) >>= ·) (funext fun found => ?_)
  rcases found with error | _ | row <;> rfl

theorem turn_eq (attachment : AttachmentMetaRecord) :
    (do
      let loops ← turn attachment
      Program.when loops (Program.forEach (attachment.mailId.getD [])
        fun mailId => do let _ ← removeMailId attachment.id mailId)) =
      expireAttachment attachment := by
  unfold turn expireAttachment
  simp only [bind_assoc]
  refine congrArg (ask (.countMailIds attachment.id) >>= ·) (funext fun mailCount => ?_)
  refine congrArg (ask (.countPermissions attachment.id) >>= ·)
    (funext fun permCount => ?_)
  split
  · simp only [bind_assoc, pure_bind, Program.when, Bool.false_eq_true, if_false,
      cascade_eq]
  · simp only [pure_bind, Program.when, if_true]

/-! ## The system -/

inductive Job where
  | single (call : Call)
  | cleanup (email : EmailRecord)
  | expiry (attachment : AttachmentMetaRecord)

def Job.flow (attachmentId : String) : Job → Flow (Option Call)
  | .single call => do
      let result ← call.flow attachmentId
      pure (call.completed result)
  | .cleanup email => cleaning email attachmentId
  | .expiry attachment => do
      let _ ← turn attachment
      pure none

def Job.own : Job → Option Call
  | .single call => some call
  | .cleanup email => some (.remove email.id)
  | .expiry attachment => some (.remove attachment.id)

def Job.about (attachmentId : String) : Job → Bool
  | .expiry attachment => attachment.id == attachmentId
  | _ => true

/-- How far the call of a job has come. -/
inductive Phase where
  | waiting
  | read (column : Option (List String))
  | applied
  | failed

structure Seen where
  phase : Phase
  /-- The column whose ids the job counted. -/
  counted : Option (Option (List String))

def Seen.after (seen : Seen) (store : Store) :
    (question : Request) → question.Answer → Seen
  | .readMailIds _, .ok column => { seen with phase := .read column }
  | .readMailIds _, .error _ => { seen with phase := .failed }
  | .writeMailIds _ _, .ok _ => { seen with phase := .applied }
  | .writeMailIds _ _, .error _ => { seen with phase := .failed }
  | .countMailIds attachmentId, .ok _ =>
      { seen with counted := some (store.mailIds attachmentId) }
  | .countMailIds _, .error _ => { seen with counted := none }
  | _, _ => seen

structure Working where
  job : Job
  flow : Flow (Option Call)
  seen : Seen

instance (email : EmailRecord) : Decidable (Undelivered email) :=
  inferInstanceAs (Decidable (_ ∧ _))

def Store.awaiting (store : Store) (attachmentId : String) : List EmailRecord :=
  store.emails.rows.filter fun email =>
    decide (Undelivered email ∧ attachmentId ∈ email.attachments.getD [])

/-- The work on one attachment. -/
structure References where
  store : Store
  jobs : Nat → Option Working
  /-- The calls that succeeded, in the order of their ends. -/
  completed : List Call
  /-- The undelivered emails that listed the attachment at each removal of its
  file. -/
  removals : List (List EmailRecord)

def References.start (store : Store) : References :=
  ⟨store, fun _ => none, [], []⟩

def Store.present (store : Store) (attachmentId : String) : Bool :=
  store.metas.rows.any (·.id == attachmentId)

inductive Turn where
  | start (id : Nat) (job : Job)
  | advance (id : Nat) (outside : Outside)
  /-- Anything else happens to the store, but to the column. -/
  | elsewhere (later : Store)

def completedBy : Flow (Option Call) → List Call
  | .done (some call) => [call]
  | _ => []

def removedBy (attachmentId : String) (store : Store) :
    Request → List (List EmailRecord)
  | .removeFile _ => [store.awaiting attachmentId]
  | _ => []

namespace References

variable (attachmentId : String)

def step (state : References) : Turn → Option References
  | .start id job =>
      match state.jobs id, job.about attachmentId with
      | none, true => some { state with
          jobs := Function.update state.jobs id
            (some ⟨job, job.flow attachmentId, ⟨.waiting, none⟩⟩) }
      | _, _ => none
  | .advance id outside =>
      match state.jobs id with
      | some ⟨job, .request question next, seen⟩ =>
          let answer := (perform outside question state.store).1
          some {
            store := (perform outside question state.store).2
            jobs := Function.update state.jobs id
              (some ⟨job, next answer, seen.after state.store question answer⟩)
            completed := state.completed ++ completedBy (next answer)
            removals := removedBy attachmentId state.store question ++
              state.removals }
      | _ => none
  | .elsewhere later =>
      if later.mailIds attachmentId = state.store.mailIds attachmentId ∧
          later.present attachmentId = state.store.present attachmentId then
        some { state with store := later }
      else none

def Steps (state : References) (turn : Turn) (next : References) : Prop :=
  state.step attachmentId turn = some next

end References

/-! ## What the jobs ask -/

/-- A job reads the column before it writes the edit of its own call, writes at
most once, and removes the file only if it counted at most one id. -/
def keepsTo (attachmentId : String) (own : Option Call) :
    Rule Request Request.Answer Seen
  | .readMailIds other, seen, aim =>
      other = attachmentId ∧ seen.phase = .waiting ∧
        (∀ column, aim (.ok column) { seen with phase := .read column }) ∧
        ∀ error, aim (.error error) { seen with phase := .failed }
  | .writeMailIds other mailIds, seen, aim =>
      (other = attachmentId ∧ ∃ column call, seen.phase = .read column ∧
        own = some call ∧ mailIds = edit column call) ∧
        aim (.ok ()) { seen with phase := .applied } ∧
        ∀ error, aim (.error error) { seen with phase := .failed }
  | .countMailIds other, seen, aim =>
      other = attachmentId ∧ seen.phase = .waiting ∧
        (∀ column : Option (List String),
          aim (.ok (column.getD []).length) { seen with counted := some column }) ∧
        ∀ error, aim (.error error) { seen with counted := none }
  | .removeFile _, seen, aim =>
      (seen.phase = .waiting ∧ ∀ column, seen.counted = some column →
        (column.getD []).length ≤ 1) ∧ ∀ answer, aim answer seen
  | _, seen, aim => seen.phase = .waiting ∧ ∀ answer, aim answer seen

/-- A completed call has been applied, or its edit changes nothing. -/
def endsWith (own : Option Call) : Option Call → Seen → Prop
  | some call, seen => own = some call ∧
      (seen.phase = .applied ∨
        ∃ column, seen.phase = .read column ∧ edit column call = column)
  | none, seen => seen.phase ≠ .applied

variable {attachmentId : String} {own : Option Call} {seen : Seen}
  {question : Request} {mailId : String} {store : Store} {outside : Outside}
  {aim : question.Answer → Seen → Prop} {mailIds : Option (List String)}

theorem addMailId_ensures (waiting : seen.phase = .waiting) :
    Ensures (keepsTo attachmentId (some (.add mailId)))
      (addMailId attachmentId mailId)
      (fun result later =>
        endsWith (some (.add mailId)) ((Call.add mailId).completed result) later)
      seen := by
  refine ⟨rfl, waiting, ?_, fun error ended => nomatch ended⟩
  intro column
  change Ensures _ (if _ then _ else _) _ _
  split
  · rename_i contained
    exact ⟨rfl, .inr ⟨column, rfl, if_pos contained⟩⟩
  · rename_i absent
    exact ⟨⟨rfl, column, _, rfl, rfl, (if_neg absent).symm⟩, ⟨rfl, .inl rfl⟩,
      fun error ended => nomatch ended⟩

theorem removeMailId_ensures (waiting : seen.phase = .waiting) :
    Ensures (keepsTo attachmentId (some (.remove mailId)))
      (removeMailId attachmentId mailId)
      (fun result later => endsWith (some (.remove mailId))
        ((Call.remove mailId).completed result) later) seen := by
  refine ⟨rfl, waiting, ?_, fun error ended => nomatch ended⟩
  rintro (_ | current)
  · exact ⟨rfl, .inr ⟨none, rfl, rfl⟩⟩
  · exact ⟨⟨rfl, some current, _, rfl, rfl, rfl⟩, ⟨rfl, .inl rfl⟩,
      fun error ended => nomatch ended⟩

theorem cascade_ensures {extension senderEmail mailId : String}
    (waiting : seen.phase = .waiting)
    (counted : ∀ column, seen.counted = some column →
      mailCount = (column.getD []).length) :
    Ensures (keepsTo attachmentId (some (.remove mailId)))
      (cascade attachmentId extension senderEmail permCount mailCount mailId)
      (endsWith (some (.remove mailId))) seen := by
  unfold cascade
  split
  · rename_i alone
    have few : ∀ column, seen.counted = some column →
        (column.getD []).length ≤ 1 :=
      fun column same => counted column same ▸ alone.2
    have ended : seen.phase ≠ .applied := by
      rw [waiting]
      exact fun same => nomatch same
    exact ⟨⟨waiting, few⟩, fun _ => ⟨waiting, fun _ => ⟨waiting, fun _ => ended⟩⟩⟩
  · rw [Program.ensures_bind]
    exact removeMailId_ensures waiting

theorem cleaning_ensures (email : EmailRecord) (waiting : seen.phase = .waiting) :
    Ensures (keepsTo attachmentId (some (.remove email.id)))
      (cleaning email attachmentId) (endsWith (some (.remove email.id))) seen := by
  refine ⟨waiting, fun found => ⟨waiting, fun permCount => ⟨rfl, waiting, ?_, ?_⟩⟩⟩
  · intro column
    exact cascade_ensures waiting fun other same =>
      congrArg (fun column => (Option.getD column []).length) (Option.some.inj same)
  · intro error
    exact cascade_ensures waiting fun other same => nomatch same

theorem turn_ensures (attachment : AttachmentMetaRecord)
    (waiting : seen.phase = .waiting) :
    Ensures (keepsTo attachment.id (some (.remove attachment.id)))
      (turn attachment) (fun _ later => later.phase ≠ .applied) seen := by
  have decided : ∀ (seen : Seen) mailCount permCount, seen.phase = .waiting →
      (∀ column, seen.counted = some column →
        mailCount = (column.getD []).length) →
      Ensures (keepsTo attachment.id (some (.remove attachment.id)))
        (if permCount = 0 ∧ mailCount ≤ 1 then (do
          let _ ← cascade attachment.id attachment.fileExtension
            attachment.senderEmail permCount mailCount attachment.id
          pure false)
        else pure true)
        (fun _ later => later.phase ≠ .applied) seen := by
    intro seen mailCount permCount waiting counted
    have ended : seen.phase ≠ .applied := by
      rw [waiting]
      exact fun same => nomatch same
    split
    · rename_i alone
      have few : ∀ column, seen.counted = some column →
          (column.getD []).length ≤ 1 :=
        fun column same => counted column same ▸ alone.2
      rw [cascade, if_pos alone]
      exact ⟨⟨waiting, few⟩,
        fun _ => ⟨waiting, fun _ => ⟨waiting, fun _ => ended⟩⟩⟩
    · exact ended
  refine ⟨rfl, waiting, ?_, ?_⟩
  · intro column
    refine ⟨waiting, fun permCount => ?_⟩
    exact decided _ _ _ waiting fun other same =>
      congrArg (fun column => (Option.getD column []).length) (Option.some.inj same)
  · intro error
    refine ⟨waiting, fun permCount => ?_⟩
    exact decided _ _ _ waiting fun other same => nomatch same

theorem flow_ensures (job : Job) (about : job.about attachmentId = true)
    (waiting : seen.phase = .waiting) :
    Ensures (keepsTo attachmentId job.own) (job.flow attachmentId)
      (endsWith job.own) seen := by
  cases job with
  | single call =>
      rw [Job.flow, Program.ensures_bind]
      cases call with
      | add mailId => exact addMailId_ensures waiting
      | remove mailId => exact removeMailId_ensures waiting
  | cleanup email => exact cleaning_ensures email waiting
  | expiry attachment =>
      have same : attachment.id = attachmentId := beq_iff_eq.mp about
      rw [Job.flow, Program.ensures_bind, ← same]
      exact turn_ensures attachment waiting

/-! ## The column -/

theorem present_iff :
    store.present attachmentId = true ↔
      ∃ row ∈ store.metas, row.id = attachmentId := by
  rw [Store.present, List.any_eq_true]
  simp only [beq_iff_eq, Table.mem_rows]

theorem mailIds_eq {store later : Store}
    (rows : ∀ row ∈ later.metas, row ∈ store.metas)
    (present : later.present attachmentId = true) :
    later.mailIds attachmentId = store.mailIds attachmentId := by
  rcases present_iff.mp present with ⟨row, member, same⟩
  rw [← same, mailIds_of_mem member, mailIds_of_mem (rows row member)]

theorem mailIds_writeMailIds
    (present : (store.writeMailIds attachmentId mailIds).present attachmentId =
      true) :
    (store.writeMailIds attachmentId mailIds).mailIds attachmentId = mailIds := by
  rcases present_iff.mp present with ⟨row, member, same⟩
  have column : row.mailId = mailIds := by
    rcases mem_writeMailIds.mp member with ⟨old, -, made⟩
    rw [made] at same ⊢
    split at same
    · rw [if_pos ‹_›]
    · rename_i other
      exact absurd (beq_iff_eq.mpr same) other
  have own := (mailIds_of_mem member).trans column
  rw [same] at own
  exact own

theorem perform_metas (outside : Outside) (store : Store)
    (plain : ∀ other mailIds, question ≠ .writeMailIds other mailIds) :
    ∀ row ∈ (perform outside question store).2.metas, row ∈ store.metas := by
  intro row member
  cases question with
  | writeMailIds other mailIds => exact absurd rfl (plain other mailIds)
  | deleteMeta id =>
      unfold perform orFault at member
      dsimp only at member
      split at member
      · exact member
      · exact (Table.mem_delete.mp member).1
  | openFile path =>
      unfold perform orIoError at member
      dsimp only at member
      split at member
      · split at member <;> exact member
      · exact member
  | removeFile _ | fileMetadata =>
      unfold perform orIoError at member
      dsimp only at member
      split at member <;> exact member
  | utcNow => exact member
  | _ =>
      unfold perform orFault at member
      dsimp only at member
      split at member <;> exact member

/-! ## What is kept -/

theorem keepsTo_sound (holds : keepsTo attachmentId own question seen aim) :
    aim (perform outside question store).1
      (seen.after store question (perform outside question store).1) := by
  cases question with
  | readMailIds other =>
      unfold perform orFault
      dsimp only
      split
      · exact holds.2.2.2 _
      · exact holds.2.2.1 _
  | countMailIds other =>
      unfold perform orFault
      dsimp only
      split
      · exact holds.2.2.2 _
      · exact holds.2.2.1 _
  | writeMailIds other mailIds =>
      unfold perform orFault
      dsimp only
      split
      · exact holds.2.2 _
      · exact holds.2.1
  | _ => exact holds.2 _

theorem completedBy_cases {flow : Flow (Option Call)}
    (ensures : Ensures (keepsTo attachmentId own) flow (endsWith own) seen) :
    (completedBy flow = [] ∧ seen.phase ≠ .applied) ∨
      ∃ call, completedBy flow = [call] ∧ own = some call ∧
        (seen.phase = .applied ∨
          ∃ column, seen.phase = .read column ∧ edit column call = column) := by
  cases flow with
  | done value =>
      cases value with
      | none => exact .inl ⟨rfl, ensures⟩
      | some call => exact .inr ⟨call, rfl, ensures⟩
  | request question next =>
      refine .inl ⟨rfl, fun applied => ?_⟩
      cases question with
      | readMailIds other =>
          exact nomatch applied.symm.trans ensures.2.1
      | countMailIds other =>
          exact nomatch applied.symm.trans ensures.2.1
      | writeMailIds other mailIds =>
          rcases ensures.1.2 with ⟨column, call, read, -⟩
          exact nomatch applied.symm.trans read
      | removeFile path => exact nomatch applied.symm.trans ensures.1.1
      | _ => exact nomatch applied.symm.trans ensures.1

/-- The emails on whose account the job removes the file are delivered. -/
def Job.Settled (store : Store) (ids : List String) : Job → Prop
  | .cleanup email =>
      email.id ∈ ids ∧ ∀ row ∈ store.emails, row.id = email.id → ¬Undelivered row
  | _ => ∀ row ∈ store.emails, row.id ∈ ids → ¬Undelivered row

/-- The column has every undelivered email that lists the attachment and is the
one the job counted; an email cleaned up is delivered, and so is all of the
column of an expired attachment. -/
structure SafeRemoval (attachmentId : String) (store : Store) (job : Job)
    (seen : Seen) : Prop where
  registered : ∀ email ∈ store.awaiting attachmentId,
    email.id ∈ (store.mailIds attachmentId).getD []
  current : seen.counted = some (store.mailIds attachmentId)
  owner : job.Settled store ((store.mailIds attachmentId).getD [])

/-- A call writes the column only as it read it, and the file is removed only
safely. -/
def Undivided (attachmentId : String) (state : References) : Turn → Prop
  | .advance id outside =>
      match state.jobs id with
      | some ⟨_, .request (.writeMailIds _ _) _, seen⟩ =>
          outside.fault = none →
            seen.phase = .read (state.store.mailIds attachmentId)
      | some ⟨job, .request (.removeFile _) _, seen⟩ =>
          SafeRemoval attachmentId state.store job seen
      | _ => True
  | _ => True

theorem mem_awaiting {email : EmailRecord} :
    email ∈ store.awaiting attachmentId ↔ email ∈ store.emails ∧
      Undelivered email ∧ attachmentId ∈ email.attachments.getD [] := by
  rw [Store.awaiting, List.mem_filter, decide_eq_true_eq, Table.mem_rows]

theorem eq_of_few {ids : List String} (few : ids.length ≤ 1) {first second : String}
    (firstMember : first ∈ ids) (secondMember : second ∈ ids) : first = second := by
  cases ids with
  | nil => cases firstMember
  | cons head tail =>
      have none : tail = [] := by
        rw [List.length_cons] at few
        exact List.length_eq_zero_iff.mp (by omega)
      rw [none] at firstMember secondMember
      exact (List.mem_singleton.mp firstMember).trans
        (List.mem_singleton.mp secondMember).symm

variable {job : Job}

theorem SafeRemoval.awaiting (safe : SafeRemoval attachmentId store job seen)
    (few : ∀ column, seen.counted = some column → (column.getD []).length ≤ 1) :
    store.awaiting attachmentId = [] := by
  rw [List.eq_nil_iff_forall_not_mem]
  intro email member
  have listed := safe.registered email member
  rw [mem_awaiting] at member
  have owner := safe.owner
  cases job with
  | cleanup finished =>
      have one := few _ safe.current
      have same := eq_of_few one listed owner.1
      exact owner.2 email member.1 same member.2.1
  | single call => exact owner email member.1 listed member.2.1
  | expiry attachment => exact owner email member.1 listed member.2.1

/-- The column is what the completed calls made of it. -/
structure Tallied (attachmentId : String) (start : Store) (state : References) :
    Prop where
  column : state.store.present attachmentId = true →
    state.store.mailIds attachmentId =
      state.completed.foldl edit (start.mailIds attachmentId)
  jobs : ∀ id working, state.jobs id = some working →
    Ensures (keepsTo attachmentId working.job.own) working.flow
      (endsWith working.job.own) working.seen
  removals : ∀ still ∈ state.removals, still = []

variable {state next : References} {start : Store}
  {rest : question.Answer → Flow (Option Call)}
  {column : Option (List String)}

theorem phase_after (outside : Outside) (store : Store)
    (asked : keepsTo attachmentId own question seen aim)
    (plain : ∀ other mailIds, question ≠ .writeMailIds other mailIds) :
    (seen.after store question (perform outside question store).1).phase =
        .waiting ∨
      (seen.after store question (perform outside question store).1).phase =
        .failed ∨
      (seen.after store question (perform outside question store).1).phase =
        .read (store.mailIds attachmentId) := by
  cases question with
  | writeMailIds other mailIds => exact absurd rfl (plain other mailIds)
  | readMailIds other =>
      unfold perform orFault
      dsimp only
      split
      · exact .inr (.inl rfl)
      · exact .inr (.inr (asked.1 ▸ rfl))
  | countMailIds other =>
      left
      unfold perform orFault
      dsimp only
      split <;> exact asked.2.1
  | removeFile path => exact .inl asked.1.1
  | _ => exact .inl asked.1

theorem Tallied.asked (tallied : Tallied attachmentId start state) {id : Nat}
    (running : state.jobs id = some ⟨job, .request question rest, seen⟩)
    (plain : ∀ other mailIds, question ≠ .writeMailIds other mailIds)
    (present : (perform outside question state.store).2.present attachmentId =
      true) :
    (perform outside question state.store).2.mailIds attachmentId =
      (completedBy (rest (perform outside question state.store).1)).foldl edit
        (state.completed.foldl edit (start.mailIds attachmentId)) := by
  have asked : keepsTo attachmentId job.own question seen _ :=
    tallied.jobs id _ running
  have rows := perform_metas outside state.store plain
  have before : state.store.present attachmentId = true := by
    rcases present_iff.mp present with ⟨row, member, same⟩
    exact present_iff.mpr ⟨row, rows row member, same⟩
  rw [mailIds_eq rows present, ← tallied.column before]
  rcases completedBy_cases (keepsTo_sound asked) with
    ⟨none, -⟩ | ⟨call, one, -, settled⟩
  · rw [none]
    rfl
  · rw [one]
    rcases phase_after outside state.store asked plain with
      waiting | failed | read
    · rw [waiting] at settled
      rcases settled with applied | ⟨column, other, -⟩
      · exact nomatch applied
      · exact nomatch other
    · rw [failed] at settled
      rcases settled with applied | ⟨column, other, -⟩
      · exact nomatch applied
      · exact nomatch other
    · rw [read] at settled
      rcases settled with applied | ⟨column, other, kept⟩
      · exact nomatch applied
      · rw [← Phase.read.inj other] at kept
        exact kept.symm

theorem Tallied.written (tallied : Tallied attachmentId start state) {id : Nat}
    {other : String} {rest : Except AppError Unit → Flow (Option Call)}
    (running : state.jobs id =
      some ⟨job, .request (.writeMailIds other mailIds) rest, seen⟩)
    (undivided : Undivided attachmentId state (.advance id outside))
    (present : (perform outside (.writeMailIds other mailIds)
      state.store).2.present attachmentId = true) :
    (perform outside (.writeMailIds other mailIds) state.store).2.mailIds
        attachmentId =
      (completedBy (rest (perform outside (.writeMailIds other mailIds)
        state.store).1)).foldl edit
          (state.completed.foldl edit (start.mailIds attachmentId)) := by
  have asked : keepsTo attachmentId job.own (.writeMailIds other mailIds) seen _ :=
    tallied.jobs id _ running
  rcases asked with ⟨⟨rfl, column, call, read, own, made⟩, succeeds, fails⟩
  unfold perform orFault at present ⊢
  cases fault : outside.fault with
  | some error =>
      simp only [fault] at present ⊢
      rw [tallied.column present]
      rcases completedBy_cases (fails error) with
        ⟨none, -⟩ | ⟨call, -, -, applied | ⟨column, other, -⟩⟩
      · rw [none]
        rfl
      · exact nomatch applied
      · exact nomatch other
  | none =>
      simp only [fault] at present ⊢
      have current : seen.phase = .read (state.store.mailIds other) := by
        simp only [Undivided, running] at undivided
        exact undivided fault
      have before : state.store.present other = true := by
        rcases present_iff.mp present with ⟨row, member, same⟩
        rcases mem_writeMailIds.mp member with ⟨old, inside, kept⟩
        refine present_iff.mpr ⟨old, inside, ?_⟩
        rw [← same, kept]
        split <;> rfl
      have same := Phase.read.inj (read.symm.trans current)
      rw [mailIds_writeMailIds present, made, same, ← tallied.column before]
      rcases completedBy_cases succeeds with ⟨-, ended⟩ | ⟨only, one, its, -⟩
      · exact absurd rfl ended
      · rw [one, Option.some.inj (own.symm.trans its)]
        rfl

theorem Tallied.advanced (tallied : Tallied attachmentId start state) {id : Nat}
    (running : state.jobs id = some ⟨job, .request question rest, seen⟩)
    (undivided : Undivided attachmentId state (.advance id outside)) :
    Tallied attachmentId start
      { store := (perform outside question state.store).2
        jobs := Function.update state.jobs id (some ⟨job,
          rest (perform outside question state.store).1,
          seen.after state.store question (perform outside question state.store).1⟩)
        completed := state.completed ++
          completedBy (rest (perform outside question state.store).1)
        removals := removedBy attachmentId state.store question ++
          state.removals } where
  column := by
    intro present
    rw [List.foldl_append]
    by_cases plain : ∀ other mailIds, question ≠ .writeMailIds other mailIds
    · exact tallied.asked running plain present
    · simp only [not_forall, not_not] at plain
      rcases plain with ⟨other, mailIds, rfl⟩
      exact tallied.written running undivided present
  jobs := by
    intro other working found
    dsimp only at found
    by_cases same : other = id
    · rw [same, Function.update_self] at found
      rw [← Option.some.inj found]
      exact keepsTo_sound (tallied.jobs id _ running)
    · rw [Function.update_of_ne same] at found
      exact tallied.jobs other working found
  removals := by
    intro still member
    rcases List.mem_append.mp member with new | old
    · cases question with
      | removeFile path =>
          have asked : keepsTo attachmentId job.own (.removeFile path) seen _ :=
            tallied.jobs id _ running
          simp only [Undivided, running] at undivided
          rw [List.mem_singleton.mp new]
          exact undivided.awaiting asked.1.2
      | _ => cases new
    · exact tallied.removals still old

theorem Tallied.step {turn : Turn} (tallied : Tallied attachmentId start state)
    (moved : Guarded (Undivided attachmentId) (References.Steps attachmentId)
      state turn next) : Tallied attachmentId start next := by
  rcases moved with ⟨undivided, stepped⟩
  unfold References.Steps at stepped
  cases turn with
  | start id job =>
      simp only [References.step] at stepped
      split at stepped
      · rename_i about
        rw [← Option.some.inj stepped]
        refine ⟨tallied.column, ?_, tallied.removals⟩
        intro other working found
        dsimp only at found
        by_cases same : other = id
        · rw [same, Function.update_self] at found
          rw [← Option.some.inj found]
          exact flow_ensures job about rfl
        · rw [Function.update_of_ne same] at found
          exact tallied.jobs other working found
      · cases stepped
  | advance id outside =>
      simp only [References.step] at stepped
      split at stepped
      · rename_i running
        rw [← Option.some.inj stepped]
        exact tallied.advanced running undivided
      · cases stepped
  | elsewhere later =>
      simp only [References.step] at stepped
      split at stepped
      · rename_i kept
        rw [← Option.some.inj stepped]
        refine ⟨?_, tallied.jobs, tallied.removals⟩
        intro present
        rw [kept.1]
        exact tallied.column (kept.2 ▸ present)
      · cases stepped

/-! ## The ids that remain -/

/-- Added and not removed since, or there from the start and never removed. -/
def Remains (start : List String) (calls : List Call) (mailId : String) : Prop :=
  (∃ before after, calls = before ++ .add mailId :: after ∧
    .remove mailId ∉ after) ∨ (mailId ∈ start ∧ .remove mailId ∉ calls)

theorem mem_edit {call : Call} :
    mailId ∈ (edit column call).getD [] ↔
      call = .add mailId ∨ (mailId ∈ column.getD [] ∧ call ≠ .remove mailId) := by
  cases call with
  | add other =>
      rw [edit]
      split
      · rename_i contained
        rw [List.contains_iff_mem] at contained
        constructor
        · exact fun member => .inr ⟨member, fun same => nomatch same⟩
        · rintro (same | ⟨member, -⟩)
          · exact Call.add.inj same ▸ contained
          · exact member
      · rw [Option.getD_some, List.mem_append, List.mem_singleton]
        constructor
        · rintro (member | same)
          · exact .inr ⟨member, fun same => nomatch same⟩
          · exact .inl (congrArg Call.add same.symm)
        · rintro (same | ⟨member, -⟩)
          · exact .inr (Call.add.inj same).symm
          · exact .inl member
  | remove other =>
      have remaining : (edit column (.remove other)).getD [] =
          (column.getD []).filter (· != other) := by
        cases column with
        | none => rfl
        | some current =>
            rw [edit, Option.bind_some, Option.getD_some]
            split
            · rename_i empty
              rw [List.isEmpty_iff.mp empty]
              rfl
            · rfl
      rw [remaining, List.mem_filter, bne_iff_ne]
      constructor
      · rintro ⟨member, different⟩
        exact .inr ⟨member, fun same => different (Call.remove.inj same).symm⟩
      · rintro (same | ⟨member, different⟩)
        · exact nomatch same
        · exact ⟨member, fun same => different (congrArg Call.remove same.symm)⟩

theorem remains_concat {start : List String} {calls : List Call} {call : Call} :
    Remains start (calls ++ [call]) mailId ↔
      call = .add mailId ∨
        (Remains start calls mailId ∧ call ≠ .remove mailId) := by
  constructor
  · rintro (⟨before, after, split, kept⟩ | ⟨initial, kept⟩)
    · rcases List.eq_nil_or_concat after with rfl | ⟨front, last, rfl⟩
      · exact .inl (List.append_inj' split rfl |>.2 |> List.cons.inj |>.1)
      · rw [List.concat_eq_append, ← List.cons_append, ← List.append_assoc] at split
        have parts := List.append_inj' split rfl
        rw [List.concat_eq_append, List.mem_append, not_or,
          List.mem_singleton] at kept
        refine .inr ⟨.inl ⟨before, front, parts.1, kept.1⟩, fun same => kept.2 ?_⟩
        rw [← same]
        exact (List.cons.inj parts.2).1
    · rw [List.mem_append, not_or, List.mem_singleton] at kept
      exact .inr ⟨.inr ⟨initial, kept.1⟩, fun same => kept.2 same.symm⟩
  · rintro (rfl | ⟨⟨before, after, split, kept⟩ | ⟨initial, kept⟩, different⟩)
    · exact .inl ⟨calls, [], rfl, List.not_mem_nil⟩
    · refine .inl ⟨before, after ++ [call], ?_, ?_⟩
      · rw [split, List.append_assoc, List.cons_append]
      · rw [List.mem_append, not_or, List.mem_singleton]
        exact ⟨kept, fun same => different same.symm⟩
    · refine .inr ⟨initial, ?_⟩
      rw [List.mem_append, not_or, List.mem_singleton]
      exact ⟨kept, fun same => different same.symm⟩

theorem mem_edits {calls : List Call} :
    mailId ∈ (calls.foldl edit column).getD [] ↔
      Remains (column.getD []) calls mailId := by
  induction calls using List.reverseRecOn with
  | nil =>
      constructor
      · exact fun member => .inr ⟨member, List.not_mem_nil⟩
      · rintro (⟨before, after, split, -⟩ | ⟨member, -⟩)
        · exact absurd split (by simp)
        · exact member
  | append_singleton calls call induction =>
      rw [List.foldl_append, remains_concat, ← induction]
      exact mem_edit

/-- While the attachment is there its column holds the ids added and not
removed, and at each removal of its file no undelivered email listed it. -/
structure Exact (attachmentId : String) (start : Store) (state : References) :
    Prop where
  column : state.store.present attachmentId = true → ∀ mailId,
    mailId ∈ (state.store.mailIds attachmentId).getD [] ↔
      Remains ((start.mailIds attachmentId).getD []) state.completed mailId
  files : ∀ still ∈ state.removals, still = []

/-- References are exact in every state that a run of undivided calls and safe
removals reaches. -/
theorem references_exact {turns : List Turn}
    (run : Run (Guarded (Undivided attachmentId) (References.Steps attachmentId))
      (.start start) turns state) : Exact attachmentId start state := by
  have initial : Tallied attachmentId start (.start start) :=
    ⟨fun _ => rfl, fun _ _ found => (nomatch found),
      fun _ member => absurd member List.not_mem_nil⟩
  have tallied : Tallied attachmentId start state :=
    run.invariant (fun _ _ _ tallied moved => tallied.step moved) initial
  refine ⟨?_, tallied.removals⟩
  intro present mailId
  rw [tallied.column present, mem_edits]

def finished (id : String) (status : EmailStatus) : EmailRecord where
  id := id
  status := status
  systemId := "sys"
  direction := .outbound
  sender := "bob@x.com"
  recipients := ⟨[], [], []⟩
  subject := ""
  body := ""
  headers := []
  attachments := some ["a1"]
  sendCount := 0
  lastSentAt := 0
  nextRetryAt := none
  maxAttempts := 3
  createdAt := 0

def twoEmails : Store where
  metas := ⟨[⟨"a1", "report.pdf", "bob@x.com", none, 0⟩],
    List.pairwise_singleton _ _⟩
  permissions := .empty
  files := [⟨"bob@x.com", "a1", "pdf"⟩]
  emails := ⟨[finished "m1" .ready, finished "m2" .delivered], by decide⟩

/-- An email is added; then the cleanup of a delivered one, which keeps the file,
begins between the two statements that add another. -/
def inTurn : List Turn :=
  [.start 0 (.single (.add "m2")), .advance 0 (.calm 0), .advance 0 (.calm 0),
    .start 1 (.single (.add "m1")), .start 2 (.cleanup (finished "m2" .delivered)),
    .advance 1 (.calm 0), .advance 2 (.calm 0), .advance 1 (.calm 0),
    .advance 2 (.calm 0), .advance 2 (.calm 0), .advance 2 (.calm 0),
    .advance 2 (.calm 0)]

theorem inTurn_exact : ∃ last,
    Run (Guarded (Undivided "a1") (References.Steps "a1")) (.start twoEmails)
      inTurn last ∧
    Exact "a1" twoEmails last ∧
    last.completed = [.add "m2", .add "m1", .remove "m2"] := by
  have run : ∃ last,
      Run (Guarded (Undivided "a1") (References.Steps "a1")) (.start twoEmails)
        inTurn last ∧ last.completed = [.add "m2", .add "m1", .remove "m2"] :=
    ⟨_, .cons ⟨trivial, rfl⟩ (.cons ⟨trivial, rfl⟩ (.cons ⟨fun _ => rfl, rfl⟩
      (.cons ⟨trivial, rfl⟩ (.cons ⟨trivial, rfl⟩ (.cons ⟨trivial, rfl⟩
        (.cons ⟨trivial, rfl⟩ (.cons ⟨fun _ => rfl, rfl⟩ (.cons ⟨trivial, rfl⟩
          (.cons ⟨trivial, rfl⟩ (.cons ⟨trivial, rfl⟩
            (.cons ⟨fun _ => rfl, rfl⟩ (.nil _)))))))))))), rfl⟩
  rcases run with ⟨last, run, completed⟩
  exact ⟨last, run, references_exact run, completed⟩

/-- Both calls read the column before either writes it. -/
def bothReadFirst : List Turn :=
  [.start 0 (.single (.add "m1")), .start 1 (.single (.add "m2")),
    .advance 0 (.calm 0), .advance 1 (.calm 0),
    .advance 0 (.calm 0), .advance 1 (.calm 0),
    .start 2 (.cleanup (finished "m2" .delivered)), .advance 2 (.calm 0),
    .advance 2 (.calm 0), .advance 2 (.calm 0), .advance 2 (.calm 0)]

/-- The first id is lost, and the file goes with the second email although the
first is undelivered. -/
theorem bothReadFirst_inexact : ∃ last,
    Run (References.Steps "a1") (.start twoEmails) bothReadFirst last ∧
      last.completed = [.add "m1", .add "m2"] ∧
      last.store.mailIds "a1" = some ["m2"] ∧ last.store.files = [] ∧
      ¬Exact "a1" twoEmails last := by
  refine ⟨_, Run.of_foldlM (fun _ _ _ moved => moved)
    (show bothReadFirst.foldlM (References.step "a1") (.start twoEmails) = some _
      from rfl), rfl, rfl, rfl, ?_⟩
  intro exact_
  have kept := (exact_.column rfl "m1").mpr
    (.inl ⟨[], [.add "m2"], rfl, by decide⟩)
  exact absurd kept (by decide)

end AimailGateway.Attachments
