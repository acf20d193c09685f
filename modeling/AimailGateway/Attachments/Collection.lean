import AimailGateway.Attachments.Flows
import AimailGateway.Library.Execution

/-! # The collection of expired attachments

Passes of the expiry scan that run alone. A pass removes every attachment of
its batch that has no permission and at most one mail id left; one that still
has a permission is never removed by a pass.
-/

namespace AimailGateway.Attachments

open Library
open Library.Program (run)

/-- Run a flow alone, without faults. -/
def execute (clock : Timestamp) (flow : Flow α) (store : Store) : α × Store :=
  run (perform (.calm clock)) flow store

variable {clock : Timestamp} {store : Store} {record : AttachmentMetaRecord}
  {question : Request} {attachment : AttachmentMetaRecord}

theorem execute_keeps (kept : Store → Prop)
    (step : ∀ question store, kept store →
      kept (perform (.calm clock) question store).2)
    (flow : Flow α) {store : Store} (start : kept store) :
    kept (execute clock flow store).2 :=
  Program.run_keeps step start

/-- File, permissions and metadata are gone. -/
structure Removed (record : AttachmentMetaRecord) (store : Store) : Prop where
  row : ∀ row ∈ store.metas, row.id ≠ record.id
  permission : ∀ entry ∈ store.permissions, entry.1 ≠ record.id
  file : record.path ∉ store.files

/-- Nothing but one email may still refer to it. -/
structure Unhindered (record : AttachmentMetaRecord) (store : Store) : Prop where
  present : record ∈ store.metas
  permission : ∀ entry ∈ store.permissions, entry.1 ≠ record.id
  mails : (record.mailId.getD []).length ≤ 1

theorem mem_writeMailIds {attachmentId : String} {mailIds : Option (List String)}
    {row : AttachmentMetaRecord} :
    row ∈ (store.writeMailIds attachmentId mailIds).metas ↔
      ∃ old ∈ store.metas, row = if old.id == attachmentId then
        { old with mailId := mailIds } else old := by
  rw [Store.writeMailIds, Table.mem_mapRows]
  simp only [eq_comm]

theorem perform_rows {row : AttachmentMetaRecord}
    (member : row ∈ (perform (.calm clock) question store).2.metas) :
    ∃ old ∈ store.metas, old.id = row.id ∧ old.createdAt = row.createdAt := by
  cases question with
  | writeMailIds attachmentId mailIds =>
      rcases mem_writeMailIds.mp member with ⟨old, present, same⟩
      refine ⟨old, present, ?_⟩
      rw [same]
      split <;> exact ⟨rfl, rfl⟩
  | deleteMeta id => exact ⟨row, (Table.mem_delete.mp member).1, rfl, rfl⟩
  | openFile path =>
      refine ⟨row, ?_, rfl, rfl⟩
      unfold perform at member
      dsimp only at member
      split at member <;> exact member
  | _ => exact ⟨row, member, rfl, rfl⟩

theorem perform_permissions {entry : String × String}
    (member : entry ∈ (perform (.calm clock) question store).2.permissions) :
    entry ∈ store.permissions := by
  cases question with
  | revokePermission attachmentId userEmail => exact (Table.mem_delete.mp member).1
  | revokeAll attachmentId => exact (Table.mem_delete.mp member).1
  | openFile path =>
      unfold perform at member
      dsimp only at member
      split at member <;> exact member
  | _ => exact member

theorem perform_files {path : FilePath}
    (member : path ∈ (perform (.calm clock) question store).2.files) :
    path ∈ store.files := by
  cases question with
  | removeFile other => exact List.mem_of_mem_filter member
  | openFile other =>
      unfold perform at member
      dsimp only at member
      split at member <;> exact member
  | _ => exact member

theorem Removed.step (removed : Removed record store) (question : Request) :
    Removed record (perform (.calm clock) question store).2 where
  row := by
    intro row member
    rcases perform_rows member with ⟨old, present, same, -⟩
    rw [← same]
    exact removed.row old present
  permission := fun entry member =>
    removed.permission entry (perform_permissions member)
  file := fun member => removed.file (perform_files member)

theorem Removed.through (removed : Removed record store) (flow : Flow α) :
    Removed record (execute clock flow store).2 :=
  execute_keeps (Removed record) (fun question _ kept => kept.step question)
    flow removed

/-! ## One attachment -/

def Request.Concerns (attachmentId : String) : Request → Prop
  | .getMeta other | .countMailIds other | .countPermissions other
  | .revokeAll other | .deleteMeta other | .readMailIds other
  | .writeMailIds other _ =>
      other = attachmentId
  | .removeFile path => path.attachmentId = attachmentId
  | _ => False

theorem removeMailId_asks (attachmentId mailId : String) :
    Program.Asks (Request.Concerns attachmentId) (removeMailId attachmentId mailId) := by
  refine ⟨rfl, ?_⟩
  rintro (error | _ | current)
  · trivial
  · trivial
  · exact ⟨rfl, fun _ => trivial⟩

theorem cascade_asks (attachmentId extension senderEmail mailId : String)
    (permCount mailCount : Nat) :
    Program.Asks (Request.Concerns attachmentId)
      (cascadeDeleteAttachment attachmentId extension senderEmail permCount
        mailCount mailId) := by
  unfold cascadeDeleteAttachment
  split
  · exact ⟨rfl, fun _ => ⟨rfl, fun _ => ⟨rfl, fun _ => trivial⟩⟩⟩
  · exact (removeMailId_asks attachmentId mailId).bind fun _ => trivial

theorem expireAttachment_asks (attachment : AttachmentMetaRecord) :
    Program.Asks (Request.Concerns attachment.id) (expireAttachment attachment) := by
  refine ⟨rfl, fun mailCount => ⟨rfl, fun permCount => ?_⟩⟩
  change Program.Asks _ (if _ then _ else _)
  split
  · exact cascade_asks _ _ _ _ _ _
  · exact Program.asks_forEach (fun mailId =>
      (removeMailId_asks attachment.id mailId).bind fun _ =>
        (show Program.Asks _ (pure () : Flow Unit) from trivial)) _

theorem Unhindered.step (unhindered : Unhindered record store)
    {other : String} (concerns : question.Concerns other)
    (different : other ≠ record.id) :
    Unhindered record (perform (.calm clock) question store).2 where
  present := by
    cases question with
    | writeMailIds attachmentId mailIds =>
        have apart : (record.id == attachmentId) = false :=
          beq_eq_false_iff_ne.mpr fun same => different (concerns ▸ same.symm)
        refine mem_writeMailIds.mpr ⟨record, unhindered.present, ?_⟩
        rw [apart, if_neg Bool.false_ne_true]
    | deleteMeta id =>
        have apart : (record.id == id) = false :=
          beq_eq_false_iff_ne.mpr fun same => different (concerns ▸ same.symm)
        exact Table.mem_delete.mpr ⟨unhindered.present, apart⟩
    | getMeta _ | countMailIds _ | countPermissions _ | revokeAll _
    | readMailIds _ | removeFile _ => exact unhindered.present
    | _ => exact concerns.elim
  permission := fun entry member =>
    unhindered.permission entry (perform_permissions member)
  mails := unhindered.mails

theorem mailIds_of_mem (member : record ∈ store.metas) :
    store.mailIds record.id = record.mailId := by
  have found : store.metas.find? (·.id == record.id) = some record := by
    apply Table.find?_eq_some_of_mem
    · intro left right
      exact Bool.beq_comm
    · intro other same
      exact same
    · exact member
    · exact beq_self_eq_true record.id
  rw [Store.mailIds, found]
  rfl

def Store.permissionCount (store : Store) (attachmentId : String) : Nat :=
  (store.permissions.select (·.1 == attachmentId)).length

def Store.mailCount (store : Store) (attachmentId : String) : Nat :=
  ((store.mailIds attachmentId).getD []).length

theorem expireAttachment_run (attachment : AttachmentMetaRecord) :
    execute clock (expireAttachment attachment) store =
      execute clock
        (if store.permissionCount attachment.id = 0 ∧
            store.mailCount attachment.id ≤ 1 then
          cascadeDeleteAttachment attachment.id attachment.fileExtension
            attachment.senderEmail (store.permissionCount attachment.id)
            (store.mailCount attachment.id) attachment.id
        else
          Program.forEach (attachment.mailId.getD []) fun mailId => do
            let _ ← removeMailId attachment.id mailId) store :=
  rfl

theorem Removed.of_cascade {extension senderEmail mailId : String}
    {permCount mailCount : Nat} (alone : permCount = 0 ∧ mailCount ≤ 1)
    (path : record.path = ⟨senderEmail, record.id, extension⟩) :
    Removed record (execute clock (cascadeDeleteAttachment record.id extension
      senderEmail permCount mailCount mailId) store).2 := by
  have ran : (execute clock (cascadeDeleteAttachment record.id extension
      senderEmail permCount mailCount mailId) store).2 =
      { store with
        files := store.files.filter (· != record.path)
        permissions := store.permissions.delete (·.1 == record.id)
        metas := store.metas.delete (·.id == record.id) } := by
    rw [cascadeDeleteAttachment, if_pos alone, path]
    rfl
  rw [ran]
  constructor
  · intro row member same
    have kept := (Table.mem_delete.mp member).2
    rw [same, beq_self_eq_true] at kept
    cases kept
  · intro entry member same
    have kept := (Table.mem_delete.mp member).2
    rw [same, beq_self_eq_true] at kept
    cases kept
  · intro member
    simpa using (List.mem_filter.mp member).2

theorem Unhindered.expired (unhindered : Unhindered record store) :
    Removed record (execute clock (expireAttachment record) store).2 := by
  have noPermission :
      store.permissions.select (·.1 == record.id) = [] := by
    rw [List.eq_nil_iff_forall_not_mem]
    intro entry member
    rw [Table.mem_select] at member
    exact unhindered.permission entry member.1 (beq_iff_eq.mp member.2)
  have few : ((store.mailIds record.id).getD []).length ≤ 1 := by
    rw [mailIds_of_mem unhindered.present]
    exact unhindered.mails
  have clear : store.permissionCount record.id = 0 ∧
      store.mailCount record.id ≤ 1 :=
    ⟨congrArg List.length noPermission, few⟩
  rw [expireAttachment_run, if_pos clear]
  exact Removed.of_cascade clear rfl

/-! ## A batch -/

theorem eq_of_id {first second : AttachmentMetaRecord}
    (firstMember : first ∈ store.metas) (secondMember : second ∈ store.metas)
    (same : first.id = second.id) : first = second :=
  Table.eq_of_conflict (fun _ _ => Bool.beq_comm) firstMember secondMember
    (beq_iff_eq.mpr same)

theorem expireAttachment_other (unhindered : Unhindered record store)
    (different : attachment.id ≠ record.id) :
    Unhindered record (execute clock (expireAttachment attachment) store).2 :=
  (expireAttachment_asks attachment).run_keeps
    (fun _ _ concerns kept => kept.step concerns different) unhindered

theorem expireAll_removes {batch : List AttachmentMetaRecord}
    (rows : ∀ attachment ∈ batch, attachment.id = record.id → attachment = record)
    (member : record ∈ batch) (unhindered : Unhindered record store) :
    Removed record
      (execute clock (Program.forEach batch expireAttachment) store).2 := by
  induction batch generalizing store with
  | nil => cases member
  | cons head batch induction =>
      rw [execute, Program.run_forEach_cons]
      by_cases same : head.id = record.id
      · have own := rows head List.mem_cons_self same
        rw [own]
        exact unhindered.expired.through _
      · have later : record ∈ batch := by
          rcases List.mem_cons.mp member with first | later
          · exact absurd (congrArg AttachmentMetaRecord.id first.symm) same
          · exact later
        exact induction
          (fun attachment inside => rows attachment (List.mem_cons_of_mem _ inside))
          later (expireAttachment_other unhindered same)

theorem mem_expiredBefore {cutoff : Timestamp} {limit : Nat}
    (member : record ∈ store.expiredBefore cutoff limit) :
    record ∈ store.metas ∧ record.createdAt < cutoff := by
  have sorted := List.mem_of_mem_take member
  rw [List.mem_mergeSort, Table.mem_select, decide_eq_true_eq] at sorted
  exact sorted

def cutoff (lifetimeHours : Nat) (clock : Timestamp) : Timestamp :=
  clock - 3600000 * lifetimeHours

def pass (lifetimeHours batchSize : Nat) (clock : Timestamp) (store : Store) :
    Store :=
  (execute clock (processExpiredAttachments lifetimeHours batchSize) store).2

variable {lifetimeHours batchSize : Nat}
  {clocks : List Timestamp}

theorem pass_eq :
    pass lifetimeHours batchSize clock store =
      (execute clock (Program.forEach
        (touchedMailIds (store.expiredBefore (cutoff lifetimeHours clock) batchSize))
        cascadeEmail)
        (execute clock (Program.forEach
          (store.expiredBefore (cutoff lifetimeHours clock) batchSize)
          expireAttachment) store).2).2 := by
  have split : ∀ first second : Flow Unit,
      execute clock (first >>= fun _ => second) store =
        execute clock second (execute clock first store).2 :=
    fun first second => Program.run_bind
  exact congrArg Prod.snd (split _ _)

theorem pass_removes
    (member : record ∈ store.expiredBefore (cutoff lifetimeHours clock) batchSize)
    (unhindered : Unhindered record store) :
    Removed record (pass lifetimeHours batchSize clock store) := by
  rw [pass_eq]
  apply Removed.through
  apply expireAll_removes _ member unhindered
  intro attachment inside same
  exact eq_of_id (mem_expiredBefore inside).1 unhindered.present same

/-! ## Progress -/

def Store.rowKeys (store : Store) : List (String × Timestamp) :=
  store.metas.rows.map fun row => (row.id, row.createdAt)

theorem perform_rowKeys (question : Request) :
    (perform (.calm clock) question store).2.rowKeys.Sublist store.rowKeys := by
  cases question with
  | writeMailIds attachmentId mailIds =>
      have same : (store.writeMailIds attachmentId mailIds).rowKeys =
          store.rowKeys := by
        rw [Store.rowKeys, Store.rowKeys, Store.writeMailIds, Table.mapRows,
          List.map_map]
        apply List.map_congr_left
        intro row _
        simp only [Function.comp_apply]
        split <;> rfl
      exact same ▸ List.Sublist.refl _
  | deleteMeta id => exact List.filter_sublist.map _
  | openFile path =>
      unfold perform
      dsimp only
      split <;> exact List.Sublist.refl _
  | _ => exact List.Sublist.refl _

theorem execute_rowKeys (flow : Flow α) :
    (execute clock flow store).2.rowKeys.Sublist store.rowKeys :=
  execute_keeps (fun later => later.rowKeys.Sublist store.rowKeys)
    (fun question _ kept => (perform_rowKeys question).trans kept)
    flow (List.Sublist.refl _)

/-! ## An attachment without emails -/

/-- The row, with none but mail ids the record has. -/
def SameRow (record row : AttachmentMetaRecord) : Prop :=
  row.id = record.id ∧ row.filename = record.filename ∧
    row.senderEmail = record.senderEmail ∧ row.createdAt = record.createdAt ∧
    ∀ mailId ∈ row.mailId.getD [], mailId ∈ record.mailId.getD []

/-- No email refers to the attachment. -/
def Unreferenced (record : AttachmentMetaRecord) (store : Store) : Prop :=
  ∀ email ∈ store.emails, record.id ∉ email.attachments.getD [] ∧
    email.id ∉ record.mailId.getD []

/-- An attachment that no email refers to is there or fully removed. -/
structure Tracked (record : AttachmentMetaRecord) (store : Store) : Prop where
  unreferenced : Unreferenced record store
  whole : Removed record store ∨ ∃ row ∈ store.metas, SameRow record row

theorem perform_emails {email : EmailRecord}
    (member : email ∈ (perform (.calm clock) question store).2.emails) :
    email ∈ store.emails := by
  cases question with
  | deleteEmail id => exact (Table.mem_delete.mp member).1
  | openFile path =>
      unfold perform at member
      dsimp only at member
      split at member <;> exact member
  | _ => exact member

theorem Unreferenced.step (unreferenced : Unreferenced record store)
    (question : Request) :
    Unreferenced record (perform (.calm clock) question store).2 :=
  fun email member => unreferenced email (perform_emails member)

/-- The request writes nothing, deletes an email or is about another
attachment. -/
def Request.Spares (attachmentId : String) (question : Request) : Prop :=
  (∃ other, other ≠ attachmentId ∧ question.Concerns other) ∨
    match question with
    | .utcNow | .getMeta _ | .listByMailId _ | .listExpiredBefore _ _
    | .countPermissions _ | .countMailIds _ | .readMailIds _ | .getEmail _
    | .deleteEmail _ => True
    | _ => False

theorem Tracked.step (tracked : Tracked record store)
    (spares : question.Spares record.id) :
    Tracked record (perform (.calm clock) question store).2 where
  unreferenced := tracked.unreferenced.step question
  whole := by
    rcases tracked.whole with removed | ⟨row, present, same⟩
    · exact .inl (removed.step question)
    · refine .inr ⟨row, ?_, same⟩
      rcases spares with ⟨other, different, concerns⟩ | plain
      · have apart : ∀ {id}, id = other → (row.id == id) = false :=
          fun equal => beq_eq_false_iff_ne.mpr fun self =>
            different (equal.symm.trans (self.symm.trans same.1))
        cases question with
        | writeMailIds attachmentId mailIds =>
            refine mem_writeMailIds.mpr ⟨row, present, ?_⟩
            rw [apart concerns, if_neg Bool.false_ne_true]
        | deleteMeta id =>
            exact Table.mem_delete.mpr ⟨present, apart concerns⟩
        | getMeta _ | countMailIds _ | countPermissions _ | revokeAll _
        | readMailIds _ | removeFile _ => exact present
        | _ => exact concerns.elim
      · cases question with
        | utcNow | getMeta _ | listByMailId _ | listExpiredBefore _ _
        | countPermissions _ | countMailIds _ | readMailIds _ | getEmail _
        | deleteEmail _ => exact present
        | _ => exact plain.elim

/-- The column without a mail id. -/
def Store.strike (store : Store) (attachmentId mailId : String) : Store :=
  match store.mailIds attachmentId with
  | none => store
  | some current =>
      store.writeMailIds attachmentId
        (if (current.filter (· != mailId)).isEmpty then none
          else some (current.filter (· != mailId)))

theorem removeMailId_run (attachmentId mailId : String) :
    (execute clock (removeMailId attachmentId mailId) store).2 =
      store.strike attachmentId mailId := by
  unfold removeMailId execute Store.strike
  rw [Program.run_bind, Program.run_ask]
  cases found : store.mailIds attachmentId with
  | none =>
      simp only [perform, orFault, Outside.calm, found]
      rfl
  | some current =>
      simp only [perform, orFault, Outside.calm, found]
      rfl

theorem Tracked.strike (tracked : Tracked record store) (mailId : String) :
    Tracked record (store.strike record.id mailId) := by
  unfold Store.strike
  cases found : store.mailIds record.id with
  | none => exact tracked
  | some current =>
      refine ⟨tracked.unreferenced, ?_⟩
      rcases tracked.whole with removed | ⟨row, present, same⟩
      · exact .inl (@Removed.step 0 _ _ removed (.writeMailIds record.id _))
      · right
        refine ⟨_, mem_writeMailIds.mpr ⟨row, present, rfl⟩, ?_⟩
        have own : (row.id == record.id) = true := beq_iff_eq.mpr same.1
        rw [if_pos own]
        refine ⟨same.1, same.2.1, same.2.2.1, same.2.2.2.1, ?_⟩
        have column : row.mailId = some current := by
          rw [← mailIds_of_mem present, same.1]
          exact found
        intro other member
        apply same.2.2.2.2
        rw [column]
        dsimp only at member
        split at member
        · cases member
        · exact List.mem_of_mem_filter member

theorem forEach_keeps {kept : Store → Prop} {body : β → Flow Unit}
    {elements : List β} {store : Store}
    (each : ∀ element ∈ elements, ∀ store, kept store →
      kept (execute clock (body element) store).2)
    (start : kept store) :
    kept (execute clock (Program.forEach elements body) store).2 := by
  induction elements generalizing store with
  | nil => exact start
  | cons head elements induction =>
      rw [execute, Program.run_forEach_cons]
      exact induction (fun element member =>
          each element (List.mem_cons_of_mem _ member))
        (each head List.mem_cons_self store start)

theorem strikeAll_run (attachmentId mailId : String) :
    (execute clock (do let _ ← removeMailId attachmentId mailId : Flow Unit)
      store).2 = store.strike attachmentId mailId := by
  rw [← @removeMailId_run clock, execute, Program.run_bind]
  rfl

theorem Tracked.expired (tracked : Tracked record store)
    (own : attachment.id = record.id)
    (named : attachment.filename = record.filename ∧
      attachment.senderEmail = record.senderEmail) :
    Tracked record (execute clock (expireAttachment attachment) store).2 := by
  rw [expireAttachment_run]
  have path : record.path =
      ⟨attachment.senderEmail, record.id, attachment.fileExtension⟩ := by
    rw [AttachmentMetaRecord.path, AttachmentMetaRecord.fileExtension,
      AttachmentMetaRecord.fileExtension, named.1, named.2]
  rw [own]
  split
  · rename_i alone
    refine ⟨?_, .inl (Removed.of_cascade alone path)⟩
    exact execute_keeps (Unreferenced record)
      (fun question _ kept => Unreferenced.step kept question)
      _ tracked.unreferenced
  · apply forEach_keeps _ tracked
    intro mailId _ store tracked
    rw [strikeAll_run]
    exact tracked.strike mailId

/-! ## The emails of a batch -/

theorem cleanupAttachment_asks (email : EmailRecord) (attachmentId : String) :
    Program.Asks (Request.Concerns attachmentId)
      (cleanupAttachment email attachmentId) :=
  ⟨rfl, fun _ => ⟨rfl, fun _ => ⟨rfl, fun _ => cascade_asks _ _ _ _ _ _⟩⟩⟩

/-- What a pass keeps of one attachment: where others are at work, at its own
turn, and when an email that lists it is cleaned up. -/
structure KeptByPass (clock : Timestamp) (attachmentId : String)
    (batch : List AttachmentMetaRecord) (kept : Store → Prop) : Prop where
  step : ∀ question store, question.Spares attachmentId → kept store →
    kept (perform (.calm clock) question store).2
  expired : ∀ attachment ∈ batch, attachment.id = attachmentId →
    ∀ store, kept store → kept (execute clock (expireAttachment attachment) store).2
  cleaned : ∀ email store, kept store → email ∈ store.emails →
    attachmentId ∈ email.attachments.getD [] →
    ∀ later, kept later →
      kept (execute clock (cleanupAttachment email attachmentId) later).2

section KeptByPass

variable {attachmentId : String} {batch : List AttachmentMetaRecord}
  {kept : Store → Prop} (keeps : KeptByPass clock attachmentId batch kept)

include keeps

theorem KeptByPass.through {flow : Flow α}
    (asks : Program.Asks (Request.Spares attachmentId) flow)
    (start : kept store) : kept (execute clock flow store).2 :=
  asks.run_keeps (fun question store => keeps.step question store) start

theorem KeptByPass.other {flow : Flow α} {other : String}
    (asks : Program.Asks (Request.Concerns other) flow)
    (different : other ≠ attachmentId) (start : kept store) :
    kept (execute clock flow store).2 :=
  keeps.through
    (asks.mono fun _ concerns => .inl ⟨other, different, concerns⟩) start

theorem KeptByPass.email {email : EmailRecord} (start : kept store)
    (member : email ∈ store.emails) :
    kept (execute clock (cleanupCompletedEmail email) store).2 := by
  have round : ∀ listed ∈ email.attachments.getD [], ∀ later, kept later →
      kept (execute clock (cleanupAttachment email listed) later).2 := by
    intro listed inside later holds
    by_cases own : listed = attachmentId
    · rw [own] at inside ⊢
      exact keeps.cleaned email store start member inside later holds
    · exact keeps.other (cleanupAttachment_asks email listed) own holds
  unfold cleanupCompletedEmail execute
  rw [Program.run_bind]
  exact keeps.step (.deleteEmail email.id) _ (.inr trivial)
    (forEach_keeps round start)

theorem KeptByPass.cascaded (mailId : String) (start : kept store) :
    kept (execute clock (cascadeEmail mailId) store).2 := by
  unfold cascadeEmail execute
  rw [Program.run_bind, Program.run_ask]
  simp only [perform, orFault]
  split
  · rw [Program.run_bind, Program.run_ask]
    simp only [perform, orFault]
    split
    · rename_i email found
      exact keeps.email start (Table.mem_of_find? (Except.ok.inj found)).1
    · exact start
  · exact start

theorem KeptByPass.loops (touched : List String) (start : kept store) :
    kept (execute clock (Program.forEach touched cascadeEmail)
      (execute clock (Program.forEach batch expireAttachment) store).2).2 := by
  have removals : ∀ attachment ∈ batch, ∀ store, kept store →
      kept (execute clock (expireAttachment attachment) store).2 := by
    intro attachment member store holds
    by_cases own : attachment.id = attachmentId
    · exact keeps.expired attachment member own store holds
    · exact keeps.other (expireAttachment_asks attachment) own holds
  exact forEach_keeps (fun mailId _ store => keeps.cascaded mailId)
    (forEach_keeps removals start)

end KeptByPass

theorem Tracked.named (tracked : Tracked record store)
    (member : attachment ∈ store.metas) (own : attachment.id = record.id) :
    attachment.filename = record.filename ∧
      attachment.senderEmail = record.senderEmail := by
  rcases tracked.whole with removed | ⟨row, present, same⟩
  · exact absurd own (removed.row attachment member)
  · have equal := eq_of_id member present (own.trans same.1.symm)
    rw [equal]
    exact ⟨same.2.1, same.2.2.1⟩

theorem Tracked.passed (tracked : Tracked record store) :
    Tracked record (pass lifetimeHours batchSize clock store) := by
  rw [pass_eq]
  have keeps : KeptByPass clock record.id
      (store.expiredBefore (cutoff lifetimeHours clock) batchSize)
      (Tracked record) :=
    { step := fun _ _ spares tracked => tracked.step spares
      expired := fun attachment member own _ later =>
        later.expired own (tracked.named (mem_expiredBefore member).1 own)
      cleaned := fun email _ tracked member listed =>
        absurd listed (tracked.unreferenced email member).1 }
  exact keeps.loops _ tracked

/-! ## A permission that is left -/

/-- The attachment is there, with a permission. -/
structure Held (attachmentId : String) (store : Store) : Prop where
  row : ∃ row ∈ store.metas, row.id = attachmentId
  permission : ∃ entry ∈ store.permissions, entry.1 = attachmentId

theorem Held.step {attachmentId : String} (held : Held attachmentId store)
    (spares : question.Spares attachmentId) :
    Held attachmentId (perform (.calm clock) question store).2 := by
  rcases held with ⟨⟨row, present, same⟩, ⟨entry, granted, own⟩⟩
  rcases spares with ⟨other, different, concerns⟩ | plain
  · cases question with
    | writeMailIds id mailIds =>
        refine ⟨⟨_, mem_writeMailIds.mpr ⟨row, present, rfl⟩, ?_⟩,
          ⟨entry, granted, own⟩⟩
        split <;> exact same
    | deleteMeta id =>
        have apart : (row.id == id) = false := by
          rw [beq_eq_false_iff_ne, same]
          exact fun equal => different (concerns.symm.trans equal.symm)
        exact ⟨⟨row, Table.mem_delete.mpr ⟨present, apart⟩, same⟩,
          ⟨entry, granted, own⟩⟩
    | revokeAll id =>
        have apart : (entry.1 == id) = false := by
          rw [beq_eq_false_iff_ne, own]
          exact fun equal => different (concerns.symm.trans equal.symm)
        exact ⟨⟨row, present, same⟩,
          ⟨entry, Table.mem_delete.mpr ⟨granted, apart⟩, own⟩⟩
    | getMeta _ | countMailIds _ | countPermissions _ | readMailIds _
    | removeFile _ => exact ⟨⟨row, present, same⟩, ⟨entry, granted, own⟩⟩
    | _ => exact concerns.elim
  · cases question with
    | utcNow | getMeta _ | listByMailId _ | listExpiredBefore _ _
    | countPermissions _ | countMailIds _ | readMailIds _ | getEmail _
    | deleteEmail _ => exact ⟨⟨row, present, same⟩, ⟨entry, granted, own⟩⟩
    | _ => exact plain.elim

theorem Held.strike {attachmentId : String} (held : Held attachmentId store)
    (mailId : String) : Held attachmentId (store.strike attachmentId mailId) := by
  unfold Store.strike
  split
  · exact held
  · rcases held with ⟨⟨row, present, same⟩, permission⟩
    refine ⟨⟨_, mem_writeMailIds.mpr ⟨row, present, rfl⟩, ?_⟩, permission⟩
    split <;> exact same

theorem Held.counted {attachmentId : String} (held : Held attachmentId store) :
    store.permissionCount attachmentId ≠ 0 := by
  rcases held.permission with ⟨entry, granted, own⟩
  have member : entry ∈ store.permissions.select (·.1 == attachmentId) :=
    Table.mem_select.mpr ⟨granted, beq_iff_eq.mpr own⟩
  exact (List.length_pos_of_mem member).ne'

theorem cascade_strikes {attachmentId extension senderEmail mailId : String}
    {permCount mailCount : Nat} (left : permCount ≠ 0) :
    (execute clock (cascadeDeleteAttachment attachmentId extension senderEmail
      permCount mailCount mailId) store).2 = store.strike attachmentId mailId := by
  rw [cascadeDeleteAttachment, if_neg fun alone => left alone.1]
  exact strikeAll_run attachmentId mailId

theorem cleanupAttachment_run (email : EmailRecord) (attachmentId : String) :
    ∃ extension, execute clock (cleanupAttachment email attachmentId) store =
      execute clock (cascadeDeleteAttachment attachmentId extension email.sender
        (store.permissionCount attachmentId) (store.mailCount attachmentId)
        email.id) store :=
  ⟨_, rfl⟩

theorem Held.passed {attachmentId : String} (held : Held attachmentId store) :
    Held attachmentId (pass lifetimeHours batchSize clock store) := by
  rw [pass_eq]
  have keeps : KeptByPass clock attachmentId
      (store.expiredBefore (cutoff lifetimeHours clock) batchSize)
      (Held attachmentId) :=
    { step := fun _ _ spares held => held.step spares
      expired := by
        intro attachment _ own store held
        rw [expireAttachment_run, own,
          if_neg fun alone => held.counted alone.1]
        apply forEach_keeps _ held
        intro mailId _ store held
        rw [strikeAll_run]
        exact held.strike mailId
      cleaned := by
        intro email _ _ _ _ store held
        rcases @cleanupAttachment_run clock store email attachmentId with ⟨extension, ran⟩
        rw [ran, cascade_strikes held.counted]
        exact held.strike email.id }
  exact keeps.loops _ held

/-! ## Runs of passes -/

/-- Passes at the moments given, one after the other. -/
def passes (lifetimeHours batchSize : Nat) (clocks : List Timestamp)
    (store : Store) : Store :=
  clocks.foldl (fun store clock => pass lifetimeHours batchSize clock store) store

def Undelivered (email : EmailRecord) : Prop :=
  email.status ≠ .delivered ∧ email.status ≠ .completed

/-- The email lists the attachment, or the attachment names the email. -/
def RefersTo (email : EmailRecord) (row : AttachmentMetaRecord) : Prop :=
  row.id ∈ email.attachments.getD [] ∨ email.id ∈ row.mailId.getD []

/-- Past retention, with no undelivered email. -/
structure Eligible (lifetimeHours : Nat) (clock : Timestamp) (store : Store)
    (row : AttachmentMetaRecord) : Prop where
  present : row ∈ store.metas
  expired : row.createdAt < cutoff lifetimeHours clock
  free : ∀ email ∈ store.emails, Undelivered email → ¬RefersTo email row

/-- Where an attachment is to be removed, one of the batch has no permission
left and names at most one email. -/
def NotBlocked (lifetimeHours batchSize : Nat) (clock : Timestamp)
    (store : Store) : Prop :=
  (∃ row, Eligible lifetimeHours clock store row) →
    ∃ row ∈ store.expiredBefore (cutoff lifetimeHours clock) batchSize,
      Eligible lifetimeHours clock store row ∧ Unhindered row store

def Unblocked (lifetimeHours batchSize : Nat) : List Timestamp → Store → Prop
  | [], _ => True
  | clock :: later, store =>
      NotBlocked lifetimeHours batchSize clock store ∧
        Unblocked lifetimeHours batchSize later
          (pass lifetimeHours batchSize clock store)

theorem NotBlocked.progress (free : NotBlocked lifetimeHours batchSize clock store)
    (eligible : ∃ row, Eligible lifetimeHours clock store row) :
    ∃ row, Eligible lifetimeHours clock store row ∧
      Removed row (pass lifetimeHours batchSize clock store) := by
  rcases free eligible with ⟨row, member, eligible, unhindered⟩
  exact ⟨row, eligible, pass_removes member unhindered⟩

theorem pass_fewer
    (removed : Removed record (pass lifetimeHours batchSize clock store))
    (present : record ∈ store.metas) :
    (pass lifetimeHours batchSize clock store).rowKeys.length <
      store.rowKeys.length := by
  have sublist : (pass lifetimeHours batchSize clock store).rowKeys.Sublist
      store.rowKeys :=
    execute_rowKeys (processExpiredAttachments lifetimeHours batchSize)
  have member : (record.id, record.createdAt) ∈ store.rowKeys :=
    List.mem_map_of_mem present
  have missing : (record.id, record.createdAt) ∉
      (pass lifetimeHours batchSize clock store).rowKeys := by
    intro inside
    rcases List.mem_map.mp inside with ⟨row, left, same⟩
    exact removed.row row left (congrArg Prod.fst same)
  apply Nat.lt_of_le_of_ne sublist.length_le
  intro same
  exact missing (sublist.eq_of_length same ▸ member)

theorem Unblocked.reaches
    (unblocked : Unblocked lifetimeHours batchSize clocks store)
    (long : store.rowKeys.length < clocks.length) :
    ∃ earlier clock later, clocks = earlier ++ clock :: later ∧
      ∀ row, ¬Eligible lifetimeHours clock
        (passes lifetimeHours batchSize earlier store) row := by
  induction clocks generalizing store with
  | nil => cases long
  | cons clock clocks induction =>
      by_cases none : ∃ row, Eligible lifetimeHours clock store row
      · rcases unblocked.1.progress none with ⟨row, eligible, removed⟩
        have fewer := pass_fewer removed eligible.present
        have shorter : (pass lifetimeHours batchSize clock store).rowKeys.length <
            clocks.length := by
          rw [List.length_cons] at long
          omega
        rcases induction unblocked.2 shorter with
          ⟨earlier, moment, later, split, reached⟩
        refine ⟨clock :: earlier, moment, later, ?_, reached⟩
        rw [split, List.cons_append]
      · exact ⟨[], clock, clocks, rfl, not_exists.mp none⟩

theorem Tracked.passes (tracked : Tracked record store) :
    Tracked record (passes lifetimeHours batchSize clocks store) := by
  induction clocks generalizing store with
  | nil => exact tracked
  | cons clock clocks induction => exact induction tracked.passed

theorem Tracked.removed (tracked : Tracked record store)
    (expired : record.createdAt < cutoff lifetimeHours clock)
    (none : ∀ row, ¬Eligible lifetimeHours clock store row) :
    Removed record store := by
  rcases tracked.whole with removed | ⟨row, present, same⟩
  · exact removed
  · refine absurd ⟨present, same.2.2.2.1 ▸ expired, ?_⟩ (none row)
    rintro email member - (listed | named)
    · rw [same.1] at listed
      exact (tracked.unreferenced email member).1 listed
    · exact (tracked.unreferenced email member).2 (same.2.2.2.2 _ named)

/-! ## An upload -/

/-- `save_attachment`, once size and type are allowed. -/
def saveAttachment (senderEmail attachmentId filename mailId recipientEmail : String)
    (clock : Timestamp) (store : Store) : Option Store := do
  let record : AttachmentMetaRecord :=
    ⟨attachmentId, filename, senderEmail, some [mailId], clock⟩
  let metas ← store.metas.insert? record
  let permissions ← store.permissions.insert? (attachmentId, recipientEmail)
  some { store with
    files := record.path :: store.files
    metas := metas
    permissions := permissions }

/-- An upload through the API: the mail id is empty and the uploader gets the
permission. -/
def upload (userEmail attachmentId filename : String) (clock : Timestamp)
    (store : Store) : Option Store :=
  saveAttachment userEmail attachmentId filename "" userEmail clock store

theorem upload_held {userEmail attachmentId filename : String} {later : Store}
    (uploaded : upload userEmail attachmentId filename clock store = some later) :
    Held attachmentId later := by
  unfold upload saveAttachment at uploaded
  rw [Option.bind_eq_bind, Option.bind_eq_some_iff] at uploaded
  rcases uploaded with ⟨metas, inserted, rest⟩
  rw [Option.bind_eq_bind, Option.bind_eq_some_iff] at rest
  rcases rest with ⟨permissions, granted, same⟩
  rw [← Option.some.inj same]
  exact ⟨⟨_, (Table.mem_of_insert? inserted).mpr (.inr rfl), rfl⟩,
    ⟨_, (Table.mem_of_insert? granted).mpr (.inr rfl), rfl⟩⟩

theorem Held.passes {attachmentId : String} (held : Held attachmentId store) :
    Held attachmentId (passes lifetimeHours batchSize clocks store) := by
  induction clocks generalizing store with
  | nil => exact held
  | cons clock clocks induction => exact induction held.passed

/-- Each pass removes an attachment where there is one to remove, a long
enough run of passes comes to where there is none, and an attachment past
retention that no email refers to is removed by then. -/
def MakesProgress (lifetimeHours batchSize : Nat) (clocks : List Timestamp)
    (store : Store) : Prop :=
  (∀ earlier clock later, clocks = earlier ++ clock :: later →
    (∃ row, Eligible lifetimeHours clock
      (passes lifetimeHours batchSize earlier store) row) →
    ∃ row, Eligible lifetimeHours clock
      (passes lifetimeHours batchSize earlier store) row ∧
      Removed row (passes lifetimeHours batchSize (earlier ++ [clock]) store)) ∧
  (store.rowKeys.length < clocks.length →
    ∃ earlier clock later, clocks = earlier ++ clock :: later ∧
      (∀ row, ¬Eligible lifetimeHours clock
        (passes lifetimeHours batchSize earlier store) row) ∧
      ∀ record ∈ store.metas, Unreferenced record store →
        record.createdAt < cutoff lifetimeHours clock →
          Removed record (passes lifetimeHours batchSize earlier store))

theorem Unblocked.each {clocks earlier later : List Timestamp}
    (unblocked : Unblocked lifetimeHours batchSize clocks store)
    (split : clocks = earlier ++ clock :: later) :
    NotBlocked lifetimeHours batchSize clock
      (passes lifetimeHours batchSize earlier store) := by
  induction earlier generalizing clocks store with
  | nil =>
      rw [split] at unblocked
      exact unblocked.1
  | cons first earlier induction =>
      rw [split] at unblocked
      exact induction unblocked.2 rfl

/-- The collection makes progress along every run whose passes are not
blocked. -/
theorem progress_of_unblocked (lifetimeHours batchSize : Nat)
    (clocks : List Timestamp) (store : Store)
    (unblocked : Unblocked lifetimeHours batchSize clocks store) :
    MakesProgress lifetimeHours batchSize clocks store := by
  refine ⟨?_, ?_⟩
  · intro earlier clock later split eligible
    rcases (unblocked.each split).progress eligible with ⟨row, eligible, removed⟩
    refine ⟨row, eligible, ?_⟩
    rw [Attachments.passes, List.foldl_append]
    exact removed
  · intro long
    rcases unblocked.reaches long with ⟨earlier, clock, later, split, reached⟩
    refine ⟨earlier, clock, later, split, reached, ?_⟩
    intro record present unreferenced expired
    have tracked : Tracked record store :=
      ⟨unreferenced, .inr ⟨record, present, rfl, rfl, rfl, rfl, fun _ => id⟩⟩
    exact tracked.passes.removed expired reached

def emptyStore : Store :=
  ⟨.empty, .empty, [], .empty⟩

def mailOf (id attachmentId : String) (status : EmailStatus) : EmailRecord where
  id := id
  status := status
  systemId := "sys"
  direction := .outbound
  sender := "bob@x.com"
  recipients := ⟨[], [], []⟩
  subject := ""
  body := ""
  headers := []
  attachments := some [attachmentId]
  sendCount := 0
  lastSentAt := 0
  nextRetryAt := none
  maxAttempts := 3
  createdAt := 0

def notes : AttachmentMetaRecord := ⟨"a1", "notes.txt", "bob@x.com", none, 0⟩

def uploaded : AttachmentMetaRecord :=
  ⟨"a2", "report.pdf", "bob@x.com", some [""], 1⟩

def photo : AttachmentMetaRecord := ⟨"a3", "photo.png", "bob@x.com", some ["m3"], 2⟩

/-- The oldest file waits for its reader and an undelivered email. -/
def oldestOnly : Store where
  metas := ⟨[notes], List.pairwise_singleton _ _⟩
  permissions := ⟨[("a1", "eve@y.com")], List.pairwise_singleton _ _⟩
  files := [notes.path]
  emails := ⟨[mailOf "m1" "a1" .ready], List.pairwise_singleton _ _⟩

/-- Another file belongs to a delivered email. -/
def twoFiles : Store where
  metas := ⟨[notes, photo], by decide⟩
  permissions := oldestOnly.permissions
  files := [notes.path, photo.path]
  emails := ⟨[mailOf "m1" "a1" .ready, mailOf "m3" "a3" .delivered], by decide⟩

/-- And an upload was downloaded by its uploader. -/
def threeFiles : Store :=
  { twoFiles with
    metas := ⟨[notes, uploaded, photo], by decide⟩
    files := [notes.path, uploaded.path, photo.path] }

theorem expiredBefore_of_sorted {cutoff : Timestamp} {limit : Nat}
    (sorted : (store.metas.select fun record =>
      decide (record.createdAt < cutoff)).Pairwise fun first second =>
        decide (first.createdAt ≤ second.createdAt) = true) :
    store.expiredBefore cutoff limit = (store.metas.select fun record =>
      decide (record.createdAt < cutoff)).take limit := by
  rw [Store.expiredBefore, List.mergeSort_of_pairwise sorted]

theorem threeFiles_pass : pass 24 2 100000000 threeFiles = twoFiles := by
  rw [pass_eq, expiredBefore_of_sorted (by decide)]
  rfl

theorem twoFiles_pass : pass 24 2 100000000 twoFiles = oldestOnly := by
  rw [pass_eq, expiredBefore_of_sorted (by decide)]
  rfl

theorem oldestOnly_pass : pass 24 2 100000000 oldestOnly = oldestOnly := by
  rw [pass_eq, expiredBefore_of_sorted (by decide)]
  rfl

theorem oldestOnly_idle : NotBlocked 24 2 100000000 oldestOnly := by
  rintro ⟨row, eligible⟩
  refine absurd ?_ (eligible.free (mailOf "m1" "a1" .ready)
    (List.mem_singleton_self _) ⟨by decide, by decide⟩)
  rw [List.mem_singleton.mp eligible.present]
  exact .inl (List.mem_singleton_self _)

theorem eligible_of {row : AttachmentMetaRecord} (present : row ∈ store.metas)
    (expired : row.createdAt < cutoff lifetimeHours clock)
    (free : ∀ email ∈ store.emails, email.status = .delivered ∨
      (row.id ∉ email.attachments.getD [] ∧ email.id ∉ row.mailId.getD [])) :
    Eligible lifetimeHours clock store row := by
  refine ⟨present, expired, fun email member waits => ?_⟩
  rcases free email member with delivered | ⟨unlisted, unnamed⟩
  · exact absurd delivered waits.1
  · rintro (listed | named)
    · exact unlisted listed
    · exact unnamed named

/-- The oldest row stays in the batch of two, and each of the first two passes
removes another one. -/
theorem threeFiles_makeProgress :
    MakesProgress 24 2 (List.replicate 4 100000000) threeFiles := by
  apply progress_of_unblocked
  refine ⟨fun _ => ⟨uploaded, ?_, eligible_of ?_ (by decide) ?_, ?_, ?_, by decide⟩,
    ?_⟩
  · rw [expiredBefore_of_sorted (by decide)]
    decide
  · decide
  · decide
  · decide
  · decide
  rw [threeFiles_pass]
  refine ⟨fun _ => ⟨photo, ?_, eligible_of ?_ (by decide) ?_, ?_, ?_, by decide⟩, ?_⟩
  · rw [expiredBefore_of_sorted (by decide)]
    decide
  · decide
  · decide
  · decide
  · decide
  rw [twoFiles_pass]
  refine ⟨oldestOnly_idle, ?_⟩
  rw [oldestOnly_pass]
  exact ⟨oldestOnly_idle, trivial⟩

/-- An upload that the uploader never downloads stays, however often the
collection passes. -/
theorem upload_blocks :
    ∃ store, upload "bob@x.com" "a1" "report.pdf" 0 emptyStore = some store ∧
      Unreferenced ⟨"a1", "report.pdf", "bob@x.com", some [""], 0⟩ store ∧
      ∀ clocks,
        ¬Removed ⟨"a1", "report.pdf", "bob@x.com", some [""], 0⟩
          (passes 24 100 clocks store) ∧
        ¬MakesProgress 24 100 (100000000 :: clocks) store := by
  refine ⟨_, rfl, fun email member => absurd member (List.not_mem_nil), ?_⟩
  intro clocks
  have held := upload_held
    (rfl : upload "bob@x.com" "a1" "report.pdf" 0 emptyStore = some _)
  refine ⟨?_, ?_⟩
  · intro removed
    rcases held.passes.row with ⟨row, present, same⟩
    exact removed.row row present same
  · intro progress
    rcases progress.1 [] 100000000 clocks rfl
      ⟨_, List.mem_singleton_self _, by decide, fun email member =>
        absurd member (List.not_mem_nil)⟩ with ⟨row, eligible, removed⟩
    rcases held.passed.row with ⟨other, present, same⟩
    have own : row.id = "a1" :=
      congrArg AttachmentMetaRecord.id (List.mem_singleton.mp eligible.present)
    exact removed.row other present (same.trans own.symm)

end AimailGateway.Attachments
