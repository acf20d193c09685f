import AimailGateway.Library.Action
import AimailGateway.Scheduler.Requests
import AimailGateway.Storage.Records

/-! # Expiry of attachments

The metadata and permissions of attachments with the cascade that expiry runs
over them, statement by statement. Files on disk and metrics are left out.
-/

namespace AimailGateway.Expiry

open Library Action Scheduler

structure AttachmentMeta where
  id : String
  senderEmail : String
  /-- The JSON list of the mails that reference the attachment. -/
  mailId : Option (List String)
  createdAt : Timestamp
  deriving DecidableEq, Repr

def AttachmentMeta.conflict (first second : AttachmentMeta) : Bool :=
  first.id == second.id

def AttachmentMeta.mails (attachment : AttachmentMeta) : List String :=
  attachment.mailId.getD []

structure MailDb where
  emails : Emails
  metas : Table AttachmentMeta AttachmentMeta.conflict
  /-- Attachment id and user of each download permission. -/
  permissions : List (String × String)

structure MailWorld where
  db : MailDb
  tick : Nat

/-- What decides that a statement fails, and the clock. -/
structure Machine where
  fails : Nat → Bool
  clock : Nat → Timestamp

def Machine.Calm (machine : Machine) : Prop :=
  ∀ tick, machine.fails tick = false

section Statements

variable (machine : Machine)

def statement (run : MailDb → α × MailDb) : Action MailWorld Unit α :=
  fun world =>
    if machine.fails world.tick then
      (.error (), { world with tick := world.tick + 1 })
    else (.ok (run world.db).1, ⟨(run world.db).2, world.tick + 1⟩)

def utcNow : Action MailWorld Unit Timestamp :=
  fun world => (.ok (machine.clock world.tick),
    { world with tick := world.tick + 1 })

/-- `unwrap_or`. -/
def unwrapOr (answer : Action MailWorld Unit α) (default : α) :
    Action MailWorld Unit α := do
  match ← answer.attempt with
  | .ok value => return value
  | .error _ => return default

def each : List β → (β → Action MailWorld Unit Unit) →
    Action MailWorld Unit Unit
  | [], _ => pure ()
  | head :: tail, body => do
      body head
      each tail body

namespace MailDb

def revokeAll (db : MailDb) (attachmentId : String) : MailDb :=
  { db with permissions := db.permissions.filter (·.1 != attachmentId) }

def deleteMeta (db : MailDb) (attachmentId : String) : MailDb :=
  { db with metas := db.metas.delete (·.id == attachmentId) }

/-- The row without one of its mails; an empty list is stored as `NULL`. -/
def dropMail (attachmentId mailId : String) (row : AttachmentMeta) :
    AttachmentMeta :=
  if row.id == attachmentId then
    match row.mailId.map (·.filter (· != mailId)) with
    | some [] => { row with mailId := none }
    | mails => { row with mailId := mails }
  else row

theorem dropMail_id (attachmentId mailId : String) (row : AttachmentMeta) :
    (dropMail attachmentId mailId row).id = row.id := by
  unfold dropMail
  split
  · split <;> rfl
  · rfl

def removeMailId (db : MailDb) (attachmentId mailId : String) : MailDb :=
  { db with metas := db.metas.mapRows (dropMail attachmentId mailId) (by
      intro first second
      rw [AttachmentMeta.conflict, dropMail_id, dropMail_id]
      rfl) }

def deleteEmail (db : MailDb) (id : String) : MailDb :=
  { db with emails := db.emails.delete (·.id == id) }

def countMailIds (db : MailDb) (attachmentId : String) : Nat :=
  match db.metas.find? (·.id == attachmentId) with
  | some row => row.mails.length
  | none => 0

def countPermissions (db : MailDb) (attachmentId : String) : Nat :=
  db.permissions.countP (·.1 == attachmentId)

def listByMailId (db : MailDb) (mailId : String) : List AttachmentMeta :=
  db.metas.select fun row => row.mails.contains mailId

/-- `ORDER BY created_at ASC LIMIT`. -/
def listExpiredBefore (db : MailDb) (before : Timestamp) (limit : Nat) :
    List AttachmentMeta :=
  ((db.metas.select fun row => decide (row.createdAt < before)).mergeSort
    fun first second => decide (first.createdAt ≤ second.createdAt)).take limit

end MailDb

def cascadeDeleteAttachment (attachmentId : String) (permCount mailCount : Nat)
    (mailId : String) : Action MailWorld Unit Unit := do
  if permCount = 0 ∧ mailCount ≤ 1 then
    (statement machine fun db => ((), db.revokeAll attachmentId)).ignore
    (statement machine fun db => ((), db.deleteMeta attachmentId)).ignore
  else
    (statement machine fun db => ((), db.removeMailId attachmentId mailId)).ignore

/-- Clean up one attachment of an email. -/
def cleanupAttachment (mailId attachmentId : String) :
    Action MailWorld Unit Unit := do
  let permCount ← unwrapOr
    (statement machine fun db => (db.countPermissions attachmentId, db)) 0
  let mailCount ← unwrapOr
    (statement machine fun db => (db.countMailIds attachmentId, db)) 0
  cascadeDeleteAttachment machine attachmentId permCount mailCount mailId

def cleanupCompletedEmail (record : EmailRecord) :
    Action MailWorld Unit Unit := do
  each (record.attachments.getD []) (cleanupAttachment machine record.id)
  (statement machine fun db => ((), db.deleteEmail record.id)).ignore

def expireAttachment (attachment : AttachmentMeta) :
    Action MailWorld Unit Unit := do
  let mailCount ← unwrapOr
    (statement machine fun db => (db.countMailIds attachment.id, db)) 1
  let permCount ← unwrapOr
    (statement machine fun db => (db.countPermissions attachment.id, db)) 0
  if permCount = 0 ∧ mailCount ≤ 1 then
    cascadeDeleteAttachment machine attachment.id permCount mailCount
      attachment.id
  else
    each attachment.mails fun mailId =>
      (statement machine fun db =>
        ((), db.removeMailId attachment.id mailId)).ignore

def touchedMailIds (expired : List AttachmentMeta) : List String :=
  (expired.flatMap (·.mails)).eraseDups

/-- Clean up a mail that no attachment references any more. -/
def cascadeEmail (mailId : String) : Action MailWorld Unit Unit := do
  match ← (statement machine fun db => (db.listByMailId mailId, db)).attempt with
  | .ok [] =>
      match ← (statement machine fun db =>
          (db.emails.find? (·.id == mailId), db)).attempt with
      | .ok (some record) => cleanupCompletedEmail machine record
      | _ => pure ()
  | _ => pure ()

/-- The moment before which attachments are expired. -/
def expiryCutoff (config : Config) (time : Timestamp) : Timestamp :=
  time - 3600000 * config.attachmentLifetimeHours

def processExpiredAttachments (config : Config) :
    Action MailWorld Unit Unit := do
  let time ← utcNow machine
  let listed ← (statement machine fun db =>
    (db.listExpiredBefore (expiryCutoff config time) config.batchSize,
      db)).attempt
  match listed with
  | .error _ => pure ()
  | .ok expired => do
      each expired (expireAttachment machine)
      each (touchedMailIds expired) (cascadeEmail machine)

end Statements

/-! ## What the statements do -/

/-- Only the given attachments change, and they only lose mails. -/
structure Trims (touched : String → Prop) (before after : MailDb) : Prop where
  emails : after.emails = before.emails
  others : ∀ row, ¬touched row.id → (row ∈ after.metas ↔ row ∈ before.metas)
  mails : ∀ row ∈ after.metas, ∃ old ∈ before.metas, row.id = old.id ∧
    ∀ mail ∈ row.mails, mail ∈ old.mails
  permissions : ∀ id, ¬touched id →
    after.countPermissions id = before.countPermissions id

namespace Trims

variable {touched : String → Prop} {first second third : MailDb}

theorem refl (db : MailDb) : Trims touched db db :=
  ⟨rfl, fun _ _ => Iff.rfl, fun row member => ⟨row, member, rfl, fun _ => id⟩,
    fun _ _ => rfl⟩

theorem trans (earlier : Trims touched first second)
    (later : Trims touched second third) : Trims touched first third where
  emails := later.emails.trans earlier.emails
  others := fun row outside =>
    (later.others row outside).trans (earlier.others row outside)
  mails := by
    intro row member
    rcases later.mails row member with ⟨middle, there, same, fewer⟩
    rcases earlier.mails middle there with ⟨old, begun, equal, less⟩
    exact ⟨old, begun, same.trans equal,
      fun mail listed => less mail (fewer mail listed)⟩
  permissions := fun id outside =>
    (later.permissions id outside).trans (earlier.permissions id outside)

end Trims

theorem dropMail_mails (attachmentId mailId : String) (row : AttachmentMeta) :
    (MailDb.dropMail attachmentId mailId row).mails =
      if row.id == attachmentId then row.mails.filter (· != mailId)
      else row.mails := by
  unfold MailDb.dropMail AttachmentMeta.mails
  split
  · cases stored : row.mailId with
    | none => simp
    | some mails =>
        rw [Option.map_some]
        split
        · next empty => simpa using (Option.some.inj empty).symm
        · simp
  · rfl

theorem removeMailId_trims (db : MailDb) (attachmentId mailId : String) :
    Trims (· = attachmentId) db (db.removeMailId attachmentId mailId) where
  emails := rfl
  others := by
    intro row other
    simp only [MailDb.removeMailId, Table.mem_mapRows]
    constructor
    · rintro ⟨old, member, same⟩
      have untouched : (old.id == attachmentId) = false := by
        rw [beq_eq_false_iff_ne, ← MailDb.dropMail_id attachmentId mailId old,
          same]
        exact other
      rw [MailDb.dropMail, untouched, if_neg Bool.false_ne_true] at same
      rwa [← same]
    · intro member
      refine ⟨row, member, ?_⟩
      rw [MailDb.dropMail, beq_eq_false_iff_ne.mpr other,
        if_neg Bool.false_ne_true]
  mails := by
    intro row member
    simp only [MailDb.removeMailId, Table.mem_mapRows] at member
    rcases member with ⟨old, there, same⟩
    refine ⟨old, there, ?_, ?_⟩
    · rw [← same, MailDb.dropMail_id]
    · intro mail listed
      rw [← same, dropMail_mails] at listed
      split at listed
      · exact (List.mem_filter.mp listed).1
      · exact listed
  permissions := fun _ _ => rfl

theorem countPermissions_revokeAll (db : MailDb) {attachmentId other : String}
    (different : other ≠ attachmentId) :
    (db.revokeAll attachmentId).countPermissions other =
      db.countPermissions other := by
  simp only [MailDb.countPermissions, MailDb.revokeAll, List.countP_filter]
  refine List.countP_congr fun pair _ => ?_
  rw [Bool.and_eq_true, beq_iff_eq, bne_iff_ne]
  exact ⟨fun both => both.1, fun same => ⟨same, same ▸ different⟩⟩

theorem deleteMeta_trims (db : MailDb) (attachmentId : String) :
    Trims (· = attachmentId) db
      ((db.revokeAll attachmentId).deleteMeta attachmentId) where
  emails := rfl
  others := by
    intro row other
    simp only [MailDb.deleteMeta, MailDb.revokeAll, Table.mem_delete]
    exact and_iff_left (beq_eq_false_iff_ne.mpr other)
  mails := by
    intro row member
    exact ⟨row, (Table.mem_delete.mp member).1, rfl, fun _ => id⟩
  permissions := fun _ different => countPermissions_revokeAll db different

/-- Attachments without permissions that at most one mail references are
deleted; of the others the mail is removed. -/
def MailDb.cascaded (db : MailDb) (mailId attachmentId : String) : MailDb :=
  if db.countPermissions attachmentId = 0 ∧ db.countMailIds attachmentId ≤ 1
  then (db.revokeAll attachmentId).deleteMeta attachmentId
  else db.removeMailId attachmentId mailId

theorem cascaded_trims (db : MailDb) (mailId attachmentId : String) :
    Trims (· = attachmentId) db (db.cascaded mailId attachmentId) := by
  unfold MailDb.cascaded
  split
  · exact deleteMeta_trims db attachmentId
  · exact removeMailId_trims db attachmentId mailId

/-- The attachment goes with the first email that lists it and is cleaned
up: nobody may download it, and at most one mail references it. -/
def Fragile (db : MailDb) (row : AttachmentMeta) : Prop :=
  db.countPermissions row.id = 0 ∧ row.mails.length ≤ 1

theorem meta_eq_of_id {db : MailDb} {first second : AttachmentMeta}
    (one : first ∈ db.metas) (two : second ∈ db.metas)
    (same : first.id = second.id) : first = second := by
  refine Table.eq_of_conflict ?_ one two (beq_iff_eq.mpr same)
  intro left right
  simp only [AttachmentMeta.conflict, Bool.beq_comm]

theorem countMailIds_of_mem {db : MailDb} {row : AttachmentMeta}
    (member : row ∈ db.metas) : db.countMailIds row.id = row.mails.length := by
  rw [MailDb.countMailIds]
  cases found : db.metas.find? (·.id == row.id) with
  | none =>
      have missed := Table.find?_eq_none.mp found row member
      simp at missed
  | some other =>
      have chosen := Table.mem_of_find? found
      rw [meta_eq_of_id chosen.1 member (by simpa using chosen.2)]

theorem dropMail_of_absent {attachmentId mailId : String} {row : AttachmentMeta}
    (absent : mailId ∉ row.mails) (some : row.mails ≠ []) :
    MailDb.dropMail attachmentId mailId row = row := by
  rw [MailDb.dropMail]
  split
  · rw [AttachmentMeta.mails] at absent some
    cases stored : row.mailId with
    | none =>
        rw [stored] at some
        exact absurd rfl some
    | some mails =>
        rw [stored, Option.getD_some] at absent some
        have same : mails.filter (· != mailId) = mails := by
          refine List.filter_eq_self.mpr fun mail listed => ?_
          rw [bne_iff_ne]
          exact fun equal => absent (equal ▸ listed)
        rw [Option.map_some, same, ← stored]
        split
        · next empty =>
            rw [stored] at empty
            exact absurd (Option.some.inj empty) some
        · rfl
  · rfl

/-- Which attachments with mails are left by the cleanup of an email that none
of them references. -/
structure Swept (gone : AttachmentMeta → Prop) (before after : MailDb) :
    Prop where
  emails : after.emails = before.emails
  rows : ∀ row, row.mails ≠ [] →
    (row ∈ after.metas ↔ row ∈ before.metas ∧ ¬ gone row)
  permissions : ∀ row ∈ after.metas, row.mails ≠ [] →
    after.countPermissions row.id = before.countPermissions row.id

theorem cascaded_swept {db : MailDb} {mailId : String}
    (bare : ∀ row ∈ db.metas, mailId ∉ row.mails) (attachmentId : String) :
    Swept (fun row => row.id = attachmentId ∧ Fragile db row) db
      (db.cascaded mailId attachmentId) := by
  rw [MailDb.cascaded]
  split
  · next alone =>
      refine ⟨rfl, fun row _ => ?_, fun row member _ => ?_⟩
      · simp only [MailDb.deleteMeta, MailDb.revokeAll, Table.mem_delete]
        refine and_congr_right fun member => ?_
        rw [beq_eq_false_iff_ne]
        refine not_congr ⟨fun same => ⟨same, ?_⟩, And.left⟩
        rw [Fragile, ← countMailIds_of_mem member, same]
        exact alone
      · have other := (Table.mem_delete.mp member).2
        exact countPermissions_revokeAll db (beq_eq_false_iff_ne.mp other)
  · next shared =>
      refine ⟨rfl, fun row listed => ?_, fun _ _ _ => rfl⟩
      simp only [MailDb.removeMailId, Table.mem_mapRows]
      constructor
      · rintro ⟨old, member, dropped⟩
        have some : old.mails ≠ [] := by
          intro none
          rw [← dropped, dropMail_mails, none] at listed
          simp at listed
        rw [dropMail_of_absent (bare old member) some] at dropped
        rw [← dropped]
        refine ⟨member, fun gone => shared ?_⟩
        rw [← gone.1, countMailIds_of_mem member]
        exact gone.2
      · rintro ⟨member, _⟩
        exact ⟨row, member, dropMail_of_absent (bare row member) listed⟩

theorem ends_each (kept : List β → MailWorld → Prop)
    {body : β → Action MailWorld Unit Unit}
    (round : ∀ head tail world, kept (head :: tail) world →
      (body head).Ends (fun _ later => kept tail later) (fun _ _ => False)
        world)
    {elements : List β} {world : MailWorld} (start : kept elements world) :
    (each elements body).Ends (fun _ later => kept [] later) (fun _ _ => False)
      world := by
  induction elements generalizing world with
  | nil => exact start
  | cons head tail induction =>
      rw [each, ends_bind]
      exact (round head tail world start).mono
        (fun _ _ later => induction later) fun _ _ impossible => impossible

/-! ## Without failing statements -/

section Calm

variable {machine : Machine} (calm : machine.Calm) {world : MailWorld}

include calm

theorem ends_statement {run : MailDb → α × MailDb}
    {ok : α → MailWorld → Prop} {failed : Unit → MailWorld → Prop} :
    (statement machine run).Ends ok failed world ↔
      ok (run world.db).1 ⟨(run world.db).2, world.tick + 1⟩ := by
  simp [Ends, statement, calm world.tick]

theorem ends_unwrapOr {run : MailDb → α × MailDb} {default : α}
    {ok : α → MailWorld → Prop} {failed : Unit → MailWorld → Prop} :
    (unwrapOr (statement machine run) default).Ends ok failed world ↔
      ok (run world.db).1 ⟨(run world.db).2, world.tick + 1⟩ := by
  rw [unwrapOr, ends_bind, ends_attempt, ends_statement calm]
  rfl

theorem ends_cleanupAttachment (mailId attachmentId : String) :
    (cleanupAttachment machine mailId attachmentId).Ends
      (fun _ later => later.db = world.db.cascaded mailId attachmentId)
      (fun _ _ => False) world := by
  rw [cleanupAttachment, ends_bind, ends_unwrapOr calm, ends_bind,
    ends_unwrapOr calm, cascadeDeleteAttachment, MailDb.cascaded]
  simp only
  split
  · rw [ends_bind, ends_ignore, ends_statement calm, ends_ignore,
      ends_statement calm]
  · rw [ends_ignore, ends_statement calm]

theorem ends_cleanupCompletedEmail (record : EmailRecord)
    (bare : ∀ row ∈ world.db.metas, record.id ∉ row.mails) :
    (cleanupCompletedEmail machine record).Ends
      (fun _ later => ∃ swept,
        Swept (fun row => row.id ∈ record.attachments.getD [] ∧
          Fragile world.db row) world.db swept ∧
        later.db = swept.deleteEmail record.id)
      (fun _ _ => False) world := by
  rw [cleanupCompletedEmail, ends_bind]
  let kept (rest : List String) (later : MailWorld) : Prop :=
    ∃ done, record.attachments.getD [] = done ++ rest ∧
      Swept (fun row => row.id ∈ done ∧ Fragile world.db row) world.db later.db
  refine (ends_each kept ?_ ⟨[], rfl, rfl, ?_, fun _ _ _ => rfl⟩).mono ?_
    fun _ _ impossible => impossible
  · rintro attachmentId rest current ⟨done, whole, swept⟩
    have none : ∀ row ∈ current.db.metas, record.id ∉ row.mails := by
      intro row member listed
      have some := List.ne_nil_of_mem listed
      exact bare row ((swept.rows row some).mp member).1 listed
    refine (ends_cleanupAttachment calm record.id attachmentId).mono ?_
      fun _ _ impossible => impossible
    intro _ later changed
    have step := cascaded_swept none attachmentId
    rw [← changed] at step
    refine ⟨done ++ [attachmentId], by rw [whole, List.append_assoc]; rfl,
      step.emails.trans swept.emails, fun row some => ?_, fun row member some => ?_⟩
    · rw [step.rows row some, swept.rows row some]
      constructor
      · rintro ⟨⟨member, stays⟩, left⟩
        have permissions := swept.permissions row
          ((swept.rows row some).mpr ⟨member, stays⟩) some
        refine ⟨member, fun gone => ?_⟩
        rcases List.mem_append.mp gone.1 with earlier | now
        · exact stays ⟨earlier, gone.2⟩
        · refine left ⟨List.mem_singleton.mp now, ?_⟩
          rw [Fragile, permissions]
          exact gone.2
      · rintro ⟨member, stays⟩
        have kept : ¬ (row.id ∈ done ∧ Fragile world.db row) := fun gone =>
          stays ⟨List.mem_append_left _ gone.1, gone.2⟩
        have permissions := swept.permissions row
          ((swept.rows row some).mpr ⟨member, kept⟩) some
        refine ⟨⟨member, kept⟩, fun gone => stays ⟨List.mem_append_right _
          (List.mem_singleton.mpr gone.1), ?_⟩⟩
        have fragile := gone.2
        rw [Fragile, permissions] at fragile
        exact fragile
    · have member' := ((step.rows row some).mp member).1
      exact (step.permissions row member some).trans
        (swept.permissions row member' some)
  · intro row _
    exact (and_iff_left fun gone => List.not_mem_nil gone.1).symm
  · rintro _ middle ⟨done, whole, swept⟩
    rw [List.append_nil] at whole
    rw [ends_ignore, ends_statement calm, whole]
    exact ⟨middle.db, swept, rfl⟩

theorem ends_expireAttachment (attachment : AttachmentMeta) :
    (expireAttachment machine attachment).Ends
      (fun _ later => Trims (· = attachment.id) world.db later.db ∧
        ∀ row ∈ later.db.metas, row.id = attachment.id →
          ∃ old ∈ world.db.metas, old.id = row.id ∧
            ∀ mail ∈ row.mails, mail ∈ old.mails ∧ mail ∉ attachment.mails)
      (fun _ _ => False) world := by
  rw [expireAttachment, ends_bind, ends_unwrapOr calm, ends_bind,
    ends_unwrapOr calm]
  simp only
  split
  · next alone =>
      rw [cascadeDeleteAttachment, if_pos alone, ends_bind, ends_ignore,
        ends_statement calm, ends_ignore, ends_statement calm]
      refine ⟨deleteMeta_trims _ _, ?_⟩
      intro row member same
      have other := (Table.mem_delete.mp member).2
      rw [same] at other
      simp at other
  · let kept (rest : List String) (later : MailWorld) : Prop :=
      Trims (· = attachment.id) world.db later.db ∧
        ∀ row ∈ later.db.metas, row.id = attachment.id →
          ∃ old ∈ world.db.metas, old.id = row.id ∧
            ∀ mail ∈ row.mails, mail ∈ old.mails ∧
              (mail ∈ attachment.mails → mail ∈ rest)
    refine (ends_each kept ?_ ?_).mono ?_ fun _ _ impossible => impossible
    · intro mailId rest current keeps
      rw [ends_ignore, ends_statement calm]
      refine ⟨keeps.1.trans (removeMailId_trims _ _ _), ?_⟩
      intro row member same
      simp only [MailDb.removeMailId, Table.mem_mapRows] at member
      rcases member with ⟨middle, there, equal⟩
      have middleId : middle.id = row.id := by
        rw [← equal, MailDb.dropMail_id]
      rcases keeps.2 middle there (middleId.trans same) with
        ⟨old, begun, sameId, fewer⟩
      refine ⟨old, begun, sameId.trans middleId, ?_⟩
      intro mail listed
      rw [← equal, dropMail_mails, if_pos (beq_iff_eq.mpr
        (middleId.trans same)), List.mem_filter] at listed
      have other : mail ≠ mailId := by simpa using listed.2
      refine ⟨(fewer mail listed.1).1, fun own => ?_⟩
      exact (List.mem_cons.mp ((fewer mail listed.1).2 own)).resolve_left other
    · refine ⟨.refl _, ?_⟩
      intro row member _
      exact ⟨row, member, rfl, fun mail listed => ⟨listed, id⟩⟩
    · intro _ later keeps
      refine ⟨keeps.1, ?_⟩
      intro row member same
      rcases keeps.2 row member same with ⟨old, begun, sameId, fewer⟩
      refine ⟨old, begun, sameId, fun mail listed => ⟨(fewer mail listed).1, ?_⟩⟩
      exact fun own => List.not_mem_nil ((fewer mail listed).2 own)

end Calm

/-! ## Undelivered mail -/

/-- Completed, or delivered with its time for bounces over. -/
def Finished (config : Config) (time : Timestamp) (row : EmailRecord) : Prop :=
  row.status = .completed ∨
    (row.status = .delivered ∧
      row.lastSentAt < time - 1000 * config.deliveryWindowSecs)

/-- Every email that is not finished is still there, with the same fields. -/
def SparesUnfinished (config : Config) (time : Timestamp)
    (before after : MailDb) : Prop :=
  ∀ row ∈ before.emails, ¬Finished config time row → row ∈ after.emails

/-- The attachments a run of the expiry takes up. -/
def expiredBatch (config : Config) (time : Timestamp) (db : MailDb) :
    List AttachmentMeta :=
  db.listExpiredBefore (expiryCutoff config time) config.batchSize

/-- The attachment is not one of the batch. -/
def Lives (config : Config) (time : Timestamp) (db : MailDb)
    (row : AttachmentMeta) : Prop :=
  row ∈ db.metas ∧ row ∉ expiredBatch config time db

/-- No attachment outside the batch is left that references the mail. -/
def Bare (config : Config) (time : Timestamp) (db : MailDb)
    (gone : String → Prop) (mail : String) : Prop :=
  ∀ row, Lives config time db row → mail ∈ row.mails → gone row.id

/-- The attachments that are gone after the turn of a mail: if it is bare, the
fragile ones that the email lists go with it. -/
def goneAfter (config : Config) (time : Timestamp) (db : MailDb)
    (gone : String → Prop) (mail : String) (id : String) : Prop :=
  gone id ∨ Bare config time db gone mail ∧
    ∃ email ∈ db.emails, email.id = mail ∧ id ∈ email.attachments.getD [] ∧
      ∃ row, Lives config time db row ∧ row.id = id ∧ Fragile db row

/-- The attachments that are gone after the turns of the mails. -/
def goneBefore (config : Config) (time : Timestamp) (db : MailDb)
    (mails : List String) : String → Prop :=
  mails.foldl (goneAfter config time db) fun _ => False

/-- At its turn each unfinished email that an expired attachment of the batch
references is still referenced by an attachment outside the batch. -/
def Shielded (config : Config) (time : Timestamp) (db : MailDb) : Prop :=
  ∀ earlier later email, email ∈ db.emails → ¬Finished config time email →
    touchedMailIds (expiredBatch config time db) =
      earlier ++ email.id :: later →
    ¬Bare config time db (goneBefore config time db earlier) email.id

/-- Every unfinished email that an expired attachment of the batch references
is also referenced by an attachment outside the batch. -/
def KeepsAttachment (config : Config) (time : Timestamp) (db : MailDb) : Prop :=
  ∀ email ∈ db.emails,
    email.id ∈ touchedMailIds (expiredBatch config time db) →
      ¬Finished config time email →
        ∃ row, Lives config time db row ∧ email.id ∈ row.mails

/-- Attachments that an email lists reference it back. -/
def Linked (db : MailDb) : Prop :=
  ∀ email ∈ db.emails, ∀ row ∈ db.metas,
    row.id ∈ email.attachments.getD [] → email.id ∈ row.mails

section Batch

variable {config : Config} {time : Timestamp} {db : MailDb}

theorem mem_expiredBatch {row : AttachmentMeta}
    (member : row ∈ expiredBatch config time db) : row ∈ db.metas := by
  have sorted := List.mem_of_mem_take member
  rw [List.mem_mergeSort] at sorted
  exact (Table.mem_select.mp sorted).1

theorem email_eq_of_id {emails : Emails} {first second : EmailRecord}
    (one : first ∈ emails) (two : second ∈ emails)
    (same : first.id = second.id) : first = second :=
  Table.eq_of_conflict EmailRecord.conflict_comm one two (beq_iff_eq.mpr same)

/-- The attachments after the batch is expired: those outside it as before,
those of it without mails. -/
structure Expired (config : Config) (time : Timestamp) (before after : MailDb) :
    Prop where
  emails : after.emails = before.emails
  kept : ∀ row, Lives config time before row → row ∈ after.metas
  listed : ∀ row ∈ after.metas, ∀ mail ∈ row.mails,
    Lives config time before row
  permissions : ∀ row, Lives config time before row →
    after.countPermissions row.id = before.countPermissions row.id

theorem shielded_iff_keepsAttachment (linked : Linked db) :
    Shielded config time db ↔ KeepsAttachment config time db := by
  have none (mails : List String) :
      ∀ id, ¬ goneBefore config time db mails id := by
    induction mails using List.reverseRecOn with
    | nil => exact fun _ => id
    | append_singleton mails mail induction =>
        rw [goneBefore, List.foldl_append]
        rintro id (gone | ⟨bare, email, member, same, listed, row, lives, rfl, _⟩)
        · exact induction id gone
        · have back := linked email member row lives.1 listed
          rw [same] at back
          exact induction row.id (bare row lives back)
  have bare (mails : List String) (mail : String) :
      ¬ Bare config time db (goneBefore config time db mails) mail ↔
        ∃ row, Lives config time db row ∧ mail ∈ row.mails := by
    simp only [Bare, none, imp_false, not_forall, not_not, exists_prop]
  constructor
  · intro shielded email member touched unfinished
    rcases List.append_of_mem touched with ⟨earlier, later, whole⟩
    exact (bare earlier email.id).mp
      (shielded earlier later email member unfinished whole)
  · intro keeps earlier later email member unfinished whole
    refine (bare earlier email.id).mpr (keeps email member ?_ unfinished)
    rw [whole]
    exact List.mem_append_right _ List.mem_cons_self

end Batch

section Calm

variable {machine : Machine} (calm : machine.Calm) {config : Config}
  {time : Timestamp} {world : MailWorld}
  {origin : MailDb}

include calm

theorem ends_expireBatch (same : world.db = origin) :
    (each (expiredBatch config time origin) (expireAttachment machine)).Ends
      (fun _ later => Expired config time origin later.db)
      (fun _ _ => False) world := by
  subst same
  let batch := expiredBatch config time world.db
  let kept (rest : List AttachmentMeta) (later : MailWorld) : Prop :=
    (∀ row ∈ rest, row ∈ batch) ∧ later.db.emails = world.db.emails ∧
      (∀ row, Lives config time world.db row → row ∈ later.db.metas ∧
        later.db.countPermissions row.id = world.db.countPermissions row.id) ∧
      ∀ row ∈ later.db.metas, ∃ old ∈ world.db.metas, old.id = row.id ∧
        (old ∉ batch → row = old) ∧
        ∀ mail ∈ row.mails, mail ∈ old.mails ∧ (old ∈ batch → old ∈ rest)
  refine (ends_each kept ?_ ?_).mono ?_ fun _ _ impossible => impossible
  · rintro head rest current ⟨inside, emails, lives, rows⟩
    have headBatch : head ∈ batch := inside head List.mem_cons_self
    have headMember := mem_expiredBatch headBatch
    refine (ends_expireAttachment calm head).mono ?_
      fun _ _ impossible => impossible
    rintro _ later ⟨trims, left⟩
    refine ⟨fun row member => inside row (List.mem_cons_of_mem _ member),
      trims.emails.trans emails, ?_, ?_⟩
    · intro row living
      have apart : row.id ≠ head.id := fun same =>
        living.2 (meta_eq_of_id living.1 headMember same ▸ headBatch)
      exact ⟨(trims.others row apart).mpr (lives row living).1,
        (trims.permissions row.id apart).trans (lives row living).2⟩
    · intro row member
      by_cases same : row.id = head.id
      · rcases left row member same with ⟨middle, there, middleId, fewer⟩
        rcases rows middle there with ⟨old, begun, oldId, _, listed⟩
        have equal : old = head := meta_eq_of_id begun headMember
          (oldId.trans (middleId.trans same))
        subst equal
        refine ⟨old, begun, same.symm, fun outside =>
          absurd headBatch outside, fun mail here => ?_⟩
        have gone := fewer mail here
        exact absurd (listed mail gone.1).1 gone.2
      · have before := (trims.others row same).mp member
        rcases rows row before with ⟨old, begun, oldId, equal, listed⟩
        refine ⟨old, begun, oldId, equal, fun mail here => ?_⟩
        refine ⟨(listed mail here).1, fun batched => ?_⟩
        have pending := (listed mail here).2 batched
        refine (List.mem_cons.mp pending).resolve_left fun first => ?_
        exact same (oldId.symm.trans (congrArg _ first))
  · refine ⟨fun _ => id, rfl, fun row living => ⟨living.1, rfl⟩, ?_⟩
    intro row member
    exact ⟨row, member, rfl, fun _ => rfl, fun mail here => ⟨here, id⟩⟩
  · rintro _ later ⟨_, emails, lives, rows⟩
    refine ⟨emails, fun row living => (lives row living).1, ?_,
      fun row living => (lives row living).2⟩
    intro row member mail here
    rcases rows row member with ⟨old, begun, _, equal, listed⟩
    have outside : old ∉ batch := fun batched =>
      List.not_mem_nil ((listed mail here).2 batched)
    rw [equal outside]
    exact ⟨begun, outside⟩

theorem ends_cascadeEmail {mailId : String} {ok : MailWorld → Prop}
    (stays : ((∃ row ∈ world.db.metas, mailId ∈ row.mails) ∨
        ∀ row ∈ world.db.emails, row.id ≠ mailId) →
      ∀ later, later.db = world.db → ok later)
    (cleaned : (∀ row ∈ world.db.metas, mailId ∉ row.mails) →
      ∀ record ∈ world.db.emails, record.id = mailId →
        ∀ swept later, Swept (fun row => row.id ∈ record.attachments.getD [] ∧
            Fragile world.db row) world.db swept →
          later.db = swept.deleteEmail record.id → ok later) :
    (cascadeEmail machine mailId).Ends (fun _ later => ok later)
      (fun _ _ => False) world := by
  rw [cascadeEmail, ends_bind, ends_attempt, ends_statement calm]
  cases listing : world.db.listByMailId mailId with
  | cons first rest =>
      refine stays (.inl ⟨first, ?_⟩) _ rfl
      have member : first ∈ world.db.listByMailId mailId := by
        rw [listing]
        exact List.mem_cons_self
      have chosen := Table.mem_select.mp member
      exact ⟨chosen.1, by simpa using chosen.2⟩
  | nil =>
      have none : ∀ row ∈ world.db.metas, mailId ∉ row.mails := by
        intro row member listed
        have chosen : row ∈ world.db.listByMailId mailId :=
          Table.mem_select.mpr ⟨member, by simpa using listed⟩
        rw [listing] at chosen
        exact List.not_mem_nil chosen
      simp only [ends_bind, ends_attempt]
      rw [ends_statement calm]
      cases found : world.db.emails.find? (·.id == mailId) with
      | none =>
          refine stays (.inr ?_) _ rfl
          intro row member
          simpa using Table.find?_eq_none.mp found row member
      | some record =>
          have chosen := Table.mem_of_find? found
          have same : record.id = mailId := by simpa using chosen.2
          refine (ends_cleanupCompletedEmail calm record ?_).mono ?_
            fun _ _ impossible => impossible
          · rw [same]
            exact none
          · rintro _ later ⟨swept, sweeps, changed⟩
            exact cleaned none record chosen.1 same swept later sweeps changed

/-- The database after the turns of the mails. -/
structure Cascaded (config : Config) (time : Timestamp) (origin : MailDb)
    (mails : List String) (db : MailDb) : Prop where
  emails : ∀ email, email ∈ db.emails ↔ email ∈ origin.emails ∧
    ¬ ∃ earlier later, mails = earlier ++ email.id :: later ∧
      Bare config time origin (goneBefore config time origin earlier) email.id
  rows : ∀ row, row.mails ≠ [] → (row ∈ db.metas ↔ Lives config time origin row ∧
    ¬ goneBefore config time origin mails row.id)
  permissions : ∀ row ∈ db.metas, row.mails ≠ [] →
    db.countPermissions row.id = origin.countPermissions row.id

omit calm in
theorem Cascaded.bare_iff {mails : List String} {db : MailDb}
    (cascaded : Cascaded config time origin mails db) {mail : String} :
    Bare config time origin (goneBefore config time origin mails) mail ↔
      ∀ row ∈ db.metas, mail ∉ row.mails := by
  constructor
  · intro bare row member listed
    have known := (cascaded.rows row (List.ne_nil_of_mem listed)).mp member
    exact known.2 (bare row known.1 listed)
  · intro none row lives listed
    by_contra left
    exact none row ((cascaded.rows row (List.ne_nil_of_mem listed)).mpr
      ⟨lives, left⟩) listed

omit calm in
theorem goneBefore_append (mails : List String) (mail : String) :
    goneBefore config time origin (mails ++ [mail]) =
      goneAfter config time origin (goneBefore config time origin mails)
        mail := by
  rw [goneBefore, List.foldl_append]
  rfl

omit calm in
theorem splits_append {mails : List String} {mail : String}
    {holds : List String → String → Prop} {id : String} :
    (∃ earlier later, mails ++ [mail] = earlier ++ id :: later ∧
        holds earlier id) ↔
      (∃ earlier later, mails = earlier ++ id :: later ∧ holds earlier id) ∨
        id = mail ∧ holds mails mail := by
  constructor
  · rintro ⟨earlier, later, whole, held⟩
    rcases List.eq_nil_or_concat later with none | ⟨front, last, later⟩
    · rw [none] at whole
      have ends := List.append_inj' whole rfl
      rw [← ends.1, ← List.singleton_inj.mp ends.2] at held
      exact .inr ⟨(List.singleton_inj.mp ends.2).symm, held⟩
    · rw [later, List.concat_eq_append, ← List.cons_append, ← List.append_assoc]
        at whole
      exact .inl ⟨earlier, front, (List.append_inj' whole rfl).1, held⟩
  · rintro (⟨earlier, later, whole, held⟩ | ⟨same, held⟩)
    · exact ⟨earlier, later ++ [mail], by rw [whole, List.append_assoc]; rfl, held⟩
    · exact ⟨mails, [], by rw [same], by rw [same]; exact held⟩

omit calm in
theorem Cascaded.stays {mails : List String} {mail : String} {db : MailDb}
    (cascaded : Cascaded config time origin mails db)
    (because : (∃ row ∈ db.metas, mail ∈ row.mails) ∨
      ∀ row ∈ db.emails, row.id ≠ mail)
    (once : mail ∉ mails) :
    Cascaded config time origin (mails ++ [mail]) db := by
  have absent (bare : Bare config time origin
      (goneBefore config time origin mails) mail) :
      ∀ email ∈ origin.emails, email.id ≠ mail := by
    intro email member same
    rcases because with ⟨row, member, listed⟩ | none
    · exact cascaded.bare_iff.mp bare row member listed
    · refine none email ((cascaded.emails email).mpr ⟨member, ?_⟩) same
      rintro ⟨earlier, later, whole, _⟩
      rw [same] at whole
      exact once (whole ▸ List.mem_append_right _ List.mem_cons_self)
  refine ⟨fun email => ?_, fun row some => ?_, cascaded.permissions⟩
  · rw [cascaded.emails, splits_append]
    refine and_congr_right fun member => not_congr ?_
    refine (or_iff_left ?_).symm
    rintro ⟨same, bare⟩
    exact absent bare email member same
  · rw [cascaded.rows row some, goneBefore_append]
    refine and_congr_right fun _ => not_congr ?_
    refine (or_iff_left ?_).symm
    rintro ⟨bare, email, member, same, _⟩
    exact absent bare email member same

omit calm in
theorem Cascaded.cleaned {mails : List String} {db swept : MailDb}
    {record : EmailRecord} (cascaded : Cascaded config time origin mails db)
    (none : ∀ row ∈ db.metas, record.id ∉ row.mails) (member : record ∈ db.emails)
    (sweeps : Swept (fun row => row.id ∈ record.attachments.getD [] ∧
      Fragile db row) db swept) :
    Cascaded config time origin (mails ++ [record.id])
      (swept.deleteEmail record.id) := by
  have bare := cascaded.bare_iff.mpr none
  have known := ((cascaded.emails record).mp member).1
  refine ⟨fun email => ?_, fun row some => ?_, fun row there some => ?_⟩
  · rw [MailDb.deleteEmail, Table.mem_delete, sweeps.emails, cascaded.emails,
      splits_append, and_assoc, not_or, beq_eq_false_iff_ne]
    refine and_congr_right fun _ => and_congr_right fun _ => ?_
    exact ⟨fun other both => other both.1, fun apart same => apart ⟨same, bare⟩⟩
  · change row ∈ swept.metas ↔ _
    rw [sweeps.rows row some, cascaded.rows row some, goneBefore_append, and_assoc]
    refine and_congr_right fun lives => ?_
    rw [← not_or]
    refine not_congr (or_congr_right' fun left => ?_)
    have there := (cascaded.rows row some).mpr ⟨lives, left⟩
    have permissions := cascaded.permissions row there some
    rw [Fragile, permissions]
    constructor
    · rintro ⟨listed, fragile⟩
      exact ⟨bare, record, known, rfl, listed, row, lives, rfl, fragile⟩
    · rintro ⟨_, email, begun, same, listed, other, lives', equal, fragile⟩
      rw [email_eq_of_id begun known same] at listed
      rw [meta_eq_of_id lives'.1 lives.1 equal] at fragile
      exact ⟨listed, fragile⟩
  · have before := ((sweeps.rows row some).mp there).1
    exact (sweeps.permissions row there some).trans
      (cascaded.permissions row before some)

theorem ends_cascade (expired : Expired config time origin world.db) :
    (each (touchedMailIds (expiredBatch config time origin))
      (cascadeEmail machine)).Ends
      (fun _ later => Cascaded config time origin
        (touchedMailIds (expiredBatch config time origin)) later.db)
      (fun _ _ => False) world := by
  have nodup : (touchedMailIds (expiredBatch config time origin)).Nodup :=
    nodup_eraseDups _
  let kept (rest : List String) (later : MailWorld) : Prop :=
    ∃ mails, touchedMailIds (expiredBatch config time origin) = mails ++ rest ∧
      Cascaded config time origin mails later.db
  refine (ends_each kept ?_ ⟨[], rfl, ?_, ?_, ?_⟩).mono ?_
    fun _ _ impossible => impossible
  · rintro mail rest current ⟨mails, whole, cascaded⟩
    have turn : touchedMailIds (expiredBatch config time origin) =
        mails ++ [mail] ++ rest := by
      rw [whole, List.append_assoc]
      rfl
    have once : mail ∉ mails := by
      rw [turn] at nodup
      have front := (List.nodup_append.mp nodup).1
      exact fun again =>
        (List.nodup_append.mp front).2.2 mail again mail (by simp) rfl
    apply ends_cascadeEmail calm
    · intro because later same
      refine ⟨mails ++ [mail], turn, ?_⟩
      rw [same]
      exact cascaded.stays because once
    · rintro none record member rfl swept later sweeps changed
      refine ⟨mails ++ [record.id], turn, ?_⟩
      rw [changed]
      exact cascaded.cleaned none member sweeps
  · intro email
    rw [expired.emails]
    refine (and_iff_left ?_).symm
    rintro ⟨earlier, later, whole, _⟩
    simp at whole
  · intro row some
    refine Iff.trans ⟨fun there => ?_, expired.kept row⟩ (and_iff_left id).symm
    rcases List.exists_mem_of_ne_nil _ some with ⟨mail, listed⟩
    exact expired.listed row there mail listed
  · intro row there some
    rcases List.exists_mem_of_ne_nil _ some with ⟨mail, listed⟩
    exact expired.permissions row (expired.listed row there mail listed)
  · rintro _ later ⟨mails, whole, cascaded⟩
    rw [whole, List.append_nil]
    exact cascaded

end Calm

def ExpirySpares (machine : Machine) (config : Config) (world : MailWorld) :
    Prop :=
  (processExpiredAttachments machine config).Ends
    (fun _ later => SparesUnfinished config (machine.clock world.tick) world.db
      later.db)
    (fun _ later => SparesUnfinished config (machine.clock world.tick) world.db
      later.db) world

theorem ends_processExpiredAttachments {machine : Machine}
    (calm : machine.Calm) {config : Config} {world : MailWorld}
    {ok : MailWorld → Prop} {failed : Unit → MailWorld → Prop}
    (cascade : ∀ expired,
      Expired config (machine.clock world.tick) world.db expired.db →
      (each (touchedMailIds (expiredBatch config (machine.clock world.tick)
        world.db)) (cascadeEmail machine)).Ends (fun _ later => ok later)
        (fun _ _ => False) expired) :
    (processExpiredAttachments machine config).Ends (fun _ later => ok later)
      failed world := by
  rw [processExpiredAttachments, ends_bind, Ends, utcNow]
  simp only [ends_bind, ends_attempt]
  rw [ends_statement calm]
  have batch : (each (expiredBatch config (machine.clock world.tick) world.db)
      (expireAttachment machine)).Ends
      (fun _ later => Expired config (machine.clock world.tick) world.db
        later.db) (fun _ _ => False) ⟨world.db, world.tick + 1 + 1⟩ :=
    ends_expireBatch calm rfl
  refine batch.mono ?_ fun _ _ impossible => impossible.elim
  intro _ middle expired
  exact (cascade middle expired).mono (fun _ _ => id)
    fun _ _ impossible => impossible.elim

/-! ## With failing statements -/

/-- Only emails of the given ids may go. -/
def Removes (ids : List String) (before after : MailWorld) : Prop :=
  ∀ row ∈ before.db.emails, row.id ∉ ids → row ∈ after.db.emails

section Removes

variable {machine : Machine} {ids : List String}

theorem ends_statement_any {run : MailDb → α × MailDb} {world : MailWorld}
    {ok : α → MailWorld → Prop} {failed : Unit → MailWorld → Prop}
    (fails : failed () { world with tick := world.tick + 1 })
    (succeeds : ok (run world.db).1 ⟨(run world.db).2, world.tick + 1⟩) :
    (statement machine run).Ends ok failed world := by
  unfold Ends statement
  by_cases failing : machine.fails world.tick = true
  · rw [if_pos failing]
    exact fails
  · rw [if_neg failing]
    exact succeeds

theorem Removes.refl (world : MailWorld) : Removes ids world world :=
  fun _ member _ => member

theorem Removes.trans {first second third : MailWorld}
    (early : Removes ids first second) (late : Removes ids second third) :
    Removes ids first third :=
  fun row member other => late row (early row member other) other

theorem removes_statement {run : MailDb → α × MailDb}
    (keeps : ∀ db, ∀ row ∈ db.emails, row.id ∉ ids → row ∈ (run db).2.emails) :
    (statement machine run).Moves (Removes ids) := by
  intro world
  simp only [Action.run, statement]
  split
  · exact .refl world
  · exact keeps world.db

theorem removes_bind {action : Action MailWorld Unit α}
    {rest : α → Action MailWorld Unit β} (moves : action.Moves (Removes ids))
    (restMoves : ∀ value, (rest value).Moves (Removes ids)) :
    (action >>= rest).Moves (Removes ids) :=
  Moves.bind (fun early late => early.trans late) moves restMoves

theorem removes_query {read : MailDb → α} :
    (statement machine fun db => (read db, db)).Moves (Removes ids) :=
  removes_statement fun _ _ member _ => member

theorem removes_unwrapOr {read : MailDb → α} {default : α} :
    (unwrapOr (statement machine fun db => (read db, db)) default).Moves
      (Removes ids) := by
  refine removes_bind removes_query.attempt fun answer => ?_
  cases answer <;> exact moves_pure .refl _

theorem removes_each {body : β → Action MailWorld Unit Unit}
    (elements : List β)
    (round : ∀ element ∈ elements, (body element).Moves (Removes ids)) :
    (each elements body).Moves (Removes ids) := by
  induction elements with
  | nil => exact moves_pure .refl ()
  | cons head tail induction =>
      exact removes_bind (round head List.mem_cons_self) fun _ =>
        induction fun element member => round element (List.mem_cons_of_mem _ member)

theorem removes_beside {run : MailDb → MailDb}
    (same : ∀ db, (run db).emails = db.emails) :
    ((statement machine fun db => ((), run db)).ignore :
      Action MailWorld Unit Unit).Moves (Removes ids) :=
  Moves.ignore (removes_statement fun db _ member _ =>
    (same db).symm ▸ member)

theorem removes_cascadeDeleteAttachment {attachmentId mailId : String}
    {permCount mailCount : Nat} :
    (cascadeDeleteAttachment machine attachmentId permCount mailCount
      mailId).Moves (Removes ids) := by
  rw [cascadeDeleteAttachment]
  split
  · have revoked : ∀ db : MailDb,
        (db.revokeAll attachmentId).emails = db.emails := fun _ => rfl
    have deleted : ∀ db : MailDb,
        (db.deleteMeta attachmentId).emails = db.emails := fun _ => rfl
    exact removes_bind (removes_beside revoked) fun _ => removes_beside deleted
  · have removed : ∀ db : MailDb,
        (db.removeMailId attachmentId mailId).emails = db.emails := fun _ => rfl
    exact removes_beside removed

theorem removes_expireAttachment (attachment : AttachmentMeta) :
    (expireAttachment machine attachment).Moves (Removes ids) := by
  rw [expireAttachment]
  refine removes_bind removes_unwrapOr fun mailCount =>
    removes_bind removes_unwrapOr fun permCount => ?_
  split
  · exact removes_cascadeDeleteAttachment
  · exact removes_each _ fun mailId _ =>
      Moves.ignore (removes_statement fun _ _ member _ => member)

theorem removes_cleanupCompletedEmail {record : EmailRecord}
    (known : record.id ∈ ids) :
    (cleanupCompletedEmail machine record).Moves (Removes ids) := by
  rw [cleanupCompletedEmail]
  refine removes_bind (removes_each _ fun attachmentId _ => ?_) fun _ => ?_
  · exact removes_bind removes_unwrapOr fun _ =>
      removes_bind removes_unwrapOr fun _ => removes_cascadeDeleteAttachment
  · refine Moves.ignore (removes_statement fun db row member other => ?_)
    refine Table.mem_delete.mpr ⟨member, beq_eq_false_iff_ne.mpr fun same => ?_⟩
    exact other (same ▸ known)

theorem removes_cascadeEmail {mailId : String} (touched : mailId ∈ ids) :
    (cascadeEmail machine mailId).Moves (Removes ids) := by
  rw [cascadeEmail]
  refine removes_bind removes_query.attempt fun listed => ?_
  rcases listed with error | _ | ⟨first, rest⟩
  · exact moves_pure .refl ()
  · rw [moves_iff_ends]
    intro world
    have found : (statement machine fun db =>
        (db.emails.find? (·.id == mailId), db)).Ends
        (fun value next => next.db = world.db ∧
          ∀ record ∈ value, record.id = mailId)
        (fun _ next => next.db = world.db) world := by
      refine ends_statement_any rfl ⟨rfl, fun record here => ?_⟩
      simpa using (Table.mem_of_find? here).2
    have same {next : MailWorld} (kept : next.db = world.db) :
        Removes ids world next := by
      intro row member _
      rw [kept]
      exact member
    simp only
    rw [ends_bind, ends_attempt]
    refine found.mono ?_ fun error next kept => same kept
    rintro (_ | record) next ⟨kept, named⟩
    · exact same kept
    · have known : record.id ∈ ids := by
        rw [named record rfl]
        exact touched
      have moves : (cleanupCompletedEmail machine record).Moves (Removes ids) :=
        removes_cleanupCompletedEmail known
      rw [moves_iff_ends] at moves
      exact (moves next).mono (fun _ _ late => (same kept).trans late)
        fun _ _ late => (same kept).trans late
  · exact moves_pure .refl ()

end Removes

def waitingEmail : EmailRecord where
  id := "m"
  status := .ready
  systemId := "a"
  direction := .outbound
  sender := "bob@x.org"
  recipients := ⟨[], [], []⟩
  subject := ""
  body := ""
  headers := []
  attachments := some ["old"]
  sendCount := 0
  lastSentAt := 0
  nextRetryAt := none
  maxAttempts := 1
  createdAt := 0

def waitingAttachment (id : String) (createdAt : Timestamp) : AttachmentMeta :=
  ⟨id, "bob@x.org", some ["m"], createdAt⟩

def waitingWorld (metas : Table AttachmentMeta AttachmentMeta.conflict) :
    MailWorld :=
  ⟨⟨⟨[waitingEmail], List.pairwise_singleton _ _⟩, metas, []⟩, 0⟩

def sampleMachine : Machine := ⟨fun _ => false, fun _ => 3600001⟩

def sampleConfig : Config where
  batchSize := 1
  readyingStuckSecs := 60
  initialBackoffSecs := 1
  multiplier := 2
  maxBackoffSecs := 60
  maxAttempts := 1
  maxAttempts_pos := by decide
  smtpServer := none
  deliveryWindowSecs := 60
  attachmentLifetimeHours := 1
  autoReplySubjectPrefix := ""
  autoReplyBody := none
  systemSender := ""
  channelCapacity := 1
  maxConcurrentDeliveries := 1

/-- A mail that was delivered. It lists both attachments. -/
def completedEmail : EmailRecord :=
  { waitingEmail with
    id := "done", status := .completed, attachments := some ["old", "new"] }

/-- Both emails share the expired attachment; the newer one, of the waiting
email, may be downloaded. -/
def sharedWorld : MailWorld where
  db := {
    emails := ⟨[completedEmail, waitingEmail], by decide⟩
    metas := ⟨[⟨"old", "bob@x.org", some ["done", "m"], 0⟩,
      waitingAttachment "new" 9], by decide⟩
    permissions := [("new", "ann@x.org")] }
  tick := 0

theorem sharedWorld_kept (mails : List String) :
    ¬ goneBefore sampleConfig 3600001 sharedWorld.db mails "new" := by
  induction mails using List.reverseRecOn with
  | nil => exact id
  | append_singleton mails mail induction =>
      rw [goneBefore_append]
      rintro (gone | ⟨_, _, _, _, _, row, _, named, fragile⟩)
      · exact induction gone
      · have permitted := fragile.1
        rw [named] at permitted
        exact absurd permitted (by decide)

end AimailGateway.Expiry
