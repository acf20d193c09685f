import AimailGateway.Attachments.Flows
import AimailGateway.Library.Execution
import Mathlib.Data.List.Nodup
import Mathlib.Data.List.Perm.Subperm
import Mathlib.Logic.Function.Basic

/-! # One download for each permission

Any number of download requests that take turns request by request, while
permissions are granted and withdrawn and the disk changes. A request that
deletes the row it found, and whose file can then be read, uses up the
permission it downloads with.
-/

namespace AimailGateway.Attachments

open Library
open Library.Program (Ensures Rule)

/-! ## The system -/

/-- A request for an attachment by an address, and what is left of it. -/
structure Download where
  entry : String × String
  flow : Flow (Except HttpError AttachmentMetaRecord)

/-- What an observer notes. -/
inductive Note where
  | granted (entry : String × String)
  /-- The statement of the request deleted the row. -/
  | spent (request : Nat) (entry : String × String)
  | downloaded (request : Nat) (entry : String × String)
  | failed (request : Nat) (entry : String × String) (error : HttpError)
  deriving DecidableEq

structure Downloads where
  store : Store
  requests : Nat → Option Download
  /-- The notes, latest first. -/
  notes : List Note

/-- The permissions that are there have been granted. -/
def Downloads.start (store : Store) : Downloads where
  store := store
  requests := fun _ => none
  notes := store.permissions.rows.map .granted

inductive Event where
  | grant (entry : String × String)
  /-- All permissions of an attachment are deleted with it. -/
  | withdraw (attachmentId : String)
  | changeFiles (files : List FilePath)
  | changeMetas (metas : Metas)
  | arrive (request : Nat) (key : ApiKeyRecord) (attachmentId : String)
  | advance (request : Nat) (outside : Outside)

namespace Downloads

def noteEnd (request : Nat) (entry : String × String) :
    Flow (Except HttpError AttachmentMetaRecord) → List Note
  | .done (.ok _) => [.downloaded request entry]
  | .done (.error error) => [.failed request entry error]
  | .request _ _ => []

def noteSpent (request : Nat) (outside : Outside) (store : Store) :
    Request → List Note
  | .revokePermission attachmentId userEmail =>
      if outside.fault = none ∧ (attachmentId, userEmail) ∈ store.permissions then
        [.spent request (attachmentId, userEmail)]
      else []
  | _ => []

def setRequest (state : Downloads) (request : Nat) (download : Download) :
    Downloads :=
  { state with requests := Function.update state.requests request (some download) }

/-- A request goes on with what is left of it. -/
def goOn (state : Downloads) (request : Nat) (download : Download) :
    Downloads :=
  { state.setRequest request download with
    notes := noteEnd request download.entry download.flow ++ state.notes }

def step (state : Downloads) : Event → Option Downloads
  | .grant entry =>
      match state.store.permissions.insert? entry with
      | none => some state
      | some permissions =>
          some { state with
            store := { state.store with permissions }
            notes := .granted entry :: state.notes }
  | .withdraw attachmentId =>
      some { state with store := (perform (.calm 0) (.revokeAll attachmentId)
        state.store).2 }
  | .changeFiles files => some { state with store := { state.store with files } }
  | .changeMetas metas => some { state with store := { state.store with metas } }
  | .arrive request key attachmentId =>
      match state.requests request with
      | some _ => none
      | none => some (state.goOn request
          ⟨(attachmentId, key.emailAddress), downloadAttachment key attachmentId⟩)
  | .advance request outside =>
      match state.requests request with
      | some ⟨entry, .request question next⟩ =>
          some ({ state with
            store := (perform outside question state.store).2
            notes := noteSpent request outside state.store question ++
              state.notes }.goOn request
                ⟨entry, next (perform outside question state.store).1⟩)
      | _ => none

def Steps (state : Downloads) (event : Event) (next : Downloads) : Prop :=
  state.step event = some next

end Downloads

/-- The requests that downloaded an attachment for an address. -/
def downloadsOf (entry : String × String) (notes : List Note) : List Nat :=
  notes.filterMap fun note => match note with
    | .downloaded request other => if other = entry then some request else none
    | _ => none

/-- The requests that deleted the permission. -/
def spendersOf (entry : String × String) (notes : List Note) : List Nat :=
  notes.filterMap fun note => match note with
    | .spent request other => if other = entry then some request else none
    | _ => none

def grantsOf (entry : String × String) (notes : List Note) : Nat :=
  notes.count (.granted entry)

/-- No more downloads than permissions, and a request that failed has deleted
none. -/
structure Accounted (notes : List Note) : Prop where
  downloads : ∀ entry, (downloadsOf entry notes).length ≤ grantsOf entry notes
  failures : ∀ request entry error, .failed request entry error ∈ notes →
    .spent request entry ∉ notes

/-- A request about to delete its permission finds it, and a file about to be
read can be read. -/
def Undisturbed (state : Downloads) : Event → Prop
  | .advance request outside =>
      match state.requests request with
      | some ⟨_, .request (.revokePermission attachmentId userEmail) _⟩ =>
          (attachmentId, userEmail) ∈ state.store.permissions
      | some ⟨_, .request (.openFile path) _⟩ =>
          path ∈ state.store.files ∧ outside.ioError = none
      | some ⟨_, .request .fileMetadata _⟩ => outside.ioError = none
      | _ => True
  | _ => True

/-! ## What a request does -/

/-- The requests of a download for `entry`: whether it has spent the permission
is the ghost state. Without disturbance the file can be read. -/
def downloads (entry : String × String) : Rule Request Request.Answer Bool
  | .revokePermission attachmentId userEmail, spent, aim =>
      (attachmentId, userEmail) = entry ∧ spent = false ∧ aim (.ok ()) true ∧
        ∀ error, aim (.error error) false
  | .openFile _, spent, aim => aim (.ok ()) spent
  | .fileMetadata, spent, aim => aim (.ok ()) spent
  | .getMeta _, spent, aim => ∀ answer, aim answer spent
  | .listPermissions _, spent, aim => ∀ answer, aim answer spent
  | _, _, _ => False

/-- A request that succeeds has spent its permission, one that fails has not. -/
def settled : Except HttpError AttachmentMetaRecord → Bool → Prop
  | .ok _, spent => spent = true
  | .error _, spent => spent = false

theorem downloads_monotone (entry : String × String) :
    (downloads entry).Monotone := by
  intro question spent strong weak weaker holds
  cases question with
  | revokePermission attachmentId userEmail =>
      rcases holds with ⟨own, unspent, deleted, refused⟩
      exact ⟨own, unspent, weaker _ _ deleted, fun error =>
        weaker _ _ (refused error)⟩
  | openFile path => exact weaker _ _ holds
  | fileMetadata => exact weaker _ _ holds
  | getMeta id => exact fun answer => weaker _ _ (holds answer)
  | listPermissions id => exact fun answer => weaker _ _ (holds answer)
  | _ => exact holds

theorem checkPermission_ensures (entry : String × String)
    (attachmentId userEmail : String) :
    Ensures (downloads entry) (checkPermission attachmentId userEmail)
      (fun _ spent => spent = false) false := by
  rw [checkPermission, Program.ensures_bind, Program.ensures_ask]
  rintro (error | users)
  · exact rfl
  · exact rfl

theorem consumeDownload_ensures (attachmentId userEmail : String) :
    Ensures (downloads (attachmentId, userEmail))
      (consumeDownload attachmentId userEmail)
      (fun consumed spent => spent = consumed.isOk) false := by
  rw [consumeDownload, Program.ensures_bind]
  apply (checkPermission_ensures _ attachmentId userEmail).mono
    (downloads_monotone _)
  rintro (error | _ | _) spent unspent
  · exact unspent
  · exact unspent
  · exact ⟨rfl, unspent, rfl, fun _ => rfl⟩

theorem openAttachment_ensures (entry : String × String)
    (record : AttachmentMetaRecord) (id : String) :
    Ensures (downloads entry) (openAttachment record id) settled true :=
  rfl

theorem downloadAttachment_ensures (key : ApiKeyRecord) (id : String) :
    Ensures (downloads (id, key.emailAddress)) (downloadAttachment key id)
      settled false := by
  unfold downloadAttachment
  cases requireScope key "agent" with
  | error refused => exact rfl
  | ok admitted =>
      rintro (error | _ | record)
      · exact rfl
      · exact rfl
      · change Ensures _ (consumeDownload id key.emailAddress >>= _) _ _
        rw [Program.ensures_bind]
        apply (consumeDownload_ensures id key.emailAddress).mono
          (downloads_monotone _)
        rintro (error | consumed) spent same
        · exact same
        · rw [same]
          exact openAttachment_ensures _ record id

/-! ## The invariant -/

namespace Downloads

/-- What one request has done so far, and what it will do. -/
structure Proceeds (notes : List Note) (request : Nat) (download : Download) :
    Prop where
  ahead : ∃ spent : Bool,
    (spent = true ↔ .spent request download.entry ∈ notes) ∧
      Ensures (downloads download.entry) download.flow settled spent
  open_ : ∀ question next, download.flow = .request question next →
    (∀ entry, .downloaded request entry ∉ notes) ∧
      ∀ entry error, .failed request entry error ∉ notes

/-- The accounts of a reachable state. -/
structure Balanced (state : Downloads) : Prop where
  absent : ∀ request, state.requests request = none →
    ∀ entry, .spent request entry ∉ state.notes ∧
      .downloaded request entry ∉ state.notes ∧
      ∀ error, .failed request entry error ∉ state.notes
  proceeds : ∀ request download, state.requests request = some download →
    Proceeds state.notes request download
  own : ∀ request entry, .spent request entry ∈ state.notes →
    ∃ download, state.requests request = some download ∧ download.entry = entry
  once : ∀ entry, (downloadsOf entry state.notes).Nodup
  paid : ∀ request entry, .downloaded request entry ∈ state.notes →
    .spent request entry ∈ state.notes
  kept : ∀ request entry error, .failed request entry error ∈ state.notes →
    .spent request entry ∉ state.notes
  funds : ∀ entry, (spendersOf entry state.notes).length +
    (if entry ∈ state.store.permissions then 1 else 0) ≤ grantsOf entry state.notes

variable {state : Downloads} {request : Nat} {entry : String × String}
  {notes : List Note}
  {flow : Flow (Except HttpError AttachmentMetaRecord)}
  {otherEntry : String × String} {download : Download}

theorem mem_downloadsOf :
    request ∈ downloadsOf entry notes ↔ .downloaded request entry ∈ notes := by
  rw [downloadsOf, List.mem_filterMap]
  constructor
  · rintro ⟨note, member, same⟩
    cases note with
    | downloaded other otherEntry =>
        simp only [Option.ite_none_right_eq_some, Option.some.injEq] at same
        rw [← same.1, ← same.2]
        exact member
    | _ => cases same
  · intro member
    exact ⟨_, member, if_pos rfl⟩

theorem mem_spendersOf :
    request ∈ spendersOf entry notes ↔ .spent request entry ∈ notes := by
  rw [spendersOf, List.mem_filterMap]
  constructor
  · rintro ⟨note, member, same⟩
    cases note with
    | spent other otherEntry =>
        simp only [Option.ite_none_right_eq_some, Option.some.injEq] at same
        rw [← same.1, ← same.2]
        exact member
    | _ => cases same
  · intro member
    exact ⟨_, member, if_pos rfl⟩

theorem Balanced.accounted (balanced : Balanced state) :
    Accounted state.notes where
  downloads := by
    intro entry
    have paid : downloadsOf entry state.notes ⊆ spendersOf entry state.notes :=
      fun request member => mem_spendersOf.mpr
        (balanced.paid request entry (mem_downloadsOf.mp member))
    have fewer := ((balanced.once entry).subperm paid).length_le
    have funds := balanced.funds entry
    omega
  failures := balanced.kept

theorem balanced_start (store : Store) : Balanced (start store) := by
  have granted : ∀ note ∈ (start store).notes, ∃ entry, note = .granted entry := by
    intro note member
    rcases List.mem_map.mp member with ⟨entry, _, same⟩
    exact ⟨entry, same.symm⟩
  constructor
  · intro request none entry
    refine ⟨fun member => ?_, fun member => ?_, fun error member => ?_⟩
    all_goals
      rcases granted _ member with ⟨entry, same⟩
      cases same
  · intro request download found
    cases found
  · intro request entry member
    rcases granted _ member with ⟨entry, same⟩
    cases same
  · intro entry
    have none : downloadsOf entry (start store).notes = [] := by
      rw [List.eq_nil_iff_forall_not_mem]
      intro request member
      rcases granted _ (mem_downloadsOf.mp member) with ⟨entry, same⟩
      cases same
    rw [none]
    exact List.nodup_nil
  · intro request entry member
    rcases granted _ member with ⟨entry, same⟩
    cases same
  · intro request entry error member
    rcases granted _ member with ⟨entry, same⟩
    cases same
  · intro entry
    have none : spendersOf entry (start store).notes = [] := by
      rw [List.eq_nil_iff_forall_not_mem]
      intro request member
      rcases granted _ (mem_spendersOf.mp member) with ⟨entry, same⟩
      cases same
    rw [none]
    by_cases there : entry ∈ store.permissions
    · have counted : .granted entry ∈ (start store).notes :=
        List.mem_map_of_mem there
      rw [Downloads.start, if_pos there]
      exact List.count_pos_iff.mpr counted
    · rw [Downloads.start, if_neg there]
      exact Nat.zero_le _

def Unended (notes : List Note) (request : Nat) : Prop :=
  (∀ entry, .downloaded request entry ∉ notes) ∧
    ∀ entry error, .failed request entry error ∉ notes

theorem Balanced.withStore (balanced : Balanced state) {store : Store}
    (permissions : ∀ entry ∈ store.permissions, entry ∈ state.store.permissions) :
    Balanced { state with store } where
  absent := balanced.absent
  proceeds := balanced.proceeds
  own := balanced.own
  once := balanced.once
  paid := balanced.paid
  kept := balanced.kept
  funds := by
    intro entry
    have funds := balanced.funds entry
    have fewer : (if entry ∈ store.permissions then 1 else 0) ≤
        if entry ∈ state.store.permissions then 1 else 0 := by
      split
      · rename_i there
        rw [if_pos (permissions entry there)]
      · exact Nat.zero_le _
    exact Nat.le_trans (Nat.add_le_add_left fewer _) funds

theorem mem_noteEnd {note : Note} (member : note ∈ noteEnd request entry flow) :
    (∃ record, flow = .done (.ok record) ∧ note = .downloaded request entry) ∨
      ∃ error, flow = .done (.error error) ∧ note = .failed request entry error := by
  cases flow with
  | request question next => cases member
  | done value =>
      cases value with
      | ok record => exact .inl ⟨record, rfl, List.mem_singleton.mp member⟩
      | error error => exact .inr ⟨error, rfl, List.mem_singleton.mp member⟩

theorem spent_mem_noteEnd {other : Nat} :
    .spent other otherEntry ∈ noteEnd request entry flow ++ notes ↔
      .spent other otherEntry ∈ notes := by
  rw [List.mem_append]
  refine ⟨?_, .inr⟩
  rintro (new | old)
  · rcases mem_noteEnd new with ⟨record, -, same⟩ | ⟨error, -, same⟩
    · cases same
    · cases same
  · exact old

theorem spendersOf_noteEnd :
    spendersOf otherEntry (noteEnd request entry flow ++ notes) =
      spendersOf otherEntry notes := by
  cases flow with
  | request question next => rfl
  | done value => cases value <;> rfl

theorem spendersOf_spent :
    spendersOf otherEntry (.spent request entry :: notes) =
      (if entry = otherEntry then [request] else []) ++
        spendersOf otherEntry notes := by
  by_cases same : entry = otherEntry
  · simp [spendersOf, same]
  · simp [spendersOf, same]

theorem grantsOf_noteEnd :
    grantsOf otherEntry (noteEnd request entry flow ++ notes) =
      grantsOf otherEntry notes := by
  cases flow with
  | request question next => rfl
  | done value => cases value <;> exact List.count_cons_of_ne (by simp)

theorem Balanced.ended (balanced : Balanced state)
    (running : state.requests request = some download)
    (unended : Unended state.notes request) :
    Balanced { state with
      notes := noteEnd request download.entry download.flow ++ state.notes } := by
  rcases balanced.proceeds request download running with ⟨⟨spent, known, ahead⟩, -⟩
  have others : ∀ {note}, note ∈ noteEnd request download.entry download.flow →
      ∀ {other}, other ≠ request →
        (∀ otherEntry, note ≠ .downloaded other otherEntry) ∧
          ∀ otherEntry error, note ≠ .failed other otherEntry error := by
    intro note member other different
    rcases mem_noteEnd member with ⟨record, -, same⟩ | ⟨error, -, same⟩
    · rw [same]
      exact ⟨fun _ equal => different (Note.downloaded.inj equal).1.symm,
        fun _ _ equal => nomatch equal⟩
    · rw [same]
      exact ⟨fun _ equal => (nomatch equal),
        fun _ _ equal => different (Note.failed.inj equal).1.symm⟩
  constructor
  · intro other none otherEntry
    have different : other ≠ request := fun same => by
      rw [same, running] at none
      cases none
    rcases balanced.absent other none otherEntry with ⟨noSpent, noDownload, noFailure⟩
    refine ⟨fun member => noSpent (spent_mem_noteEnd.mp member), ?_, ?_⟩
    · intro member
      rcases List.mem_append.mp member with new | old
      · exact (others new different).1 otherEntry rfl
      · exact noDownload old
    · intro error member
      rcases List.mem_append.mp member with new | old
      · exact (others new different).2 otherEntry error rfl
      · exact noFailure error old
  · intro other otherDownload found
    rcases balanced.proceeds other otherDownload found with
      ⟨⟨otherSpent, otherKnown, otherAhead⟩, open_⟩
    refine ⟨⟨otherSpent, otherKnown.trans spent_mem_noteEnd.symm, otherAhead⟩, ?_⟩
    intro question next flow
    have different : other ≠ request ∨
        noteEnd request download.entry download.flow = [] := by
      by_cases same : other = request
      · subst same
        rw [running] at found
        cases found
        exact .inr (by rw [flow]; rfl)
      · exact .inl same
    rcases open_ question next flow with ⟨noDownload, noFailure⟩
    constructor
    · intro otherEntry member
      rcases List.mem_append.mp member with new | old
      · rcases different with different | empty
        · exact (others new different).1 otherEntry rfl
        · rw [empty] at new
          cases new
      · exact noDownload otherEntry old
    · intro otherEntry error member
      rcases List.mem_append.mp member with new | old
      · rcases different with different | empty
        · exact (others new different).2 otherEntry error rfl
        · rw [empty] at new
          cases new
      · exact noFailure otherEntry error old
  · intro other otherEntry member
    exact balanced.own other otherEntry (spent_mem_noteEnd.mp member)
  · intro otherEntry
    rw [downloadsOf, List.filterMap_append, ← downloadsOf, ← downloadsOf]
    rw [List.nodup_append]
    refine ⟨?_, balanced.once otherEntry, ?_⟩
    · cases download.flow with
      | request question next => exact List.nodup_nil
      | done value =>
          cases value with
          | ok record =>
              rw [noteEnd, downloadsOf, List.filterMap_cons]
              split
              · exact List.nodup_nil
              · exact List.nodup_singleton _
          | error error => exact List.nodup_nil
    · intro one new two old same
      rcases mem_noteEnd (mem_downloadsOf.mp new) with
        ⟨record, -, equal⟩ | ⟨error, -, equal⟩
      · cases equal
        rw [← same] at old
        exact unended.1 _ (mem_downloadsOf.mp old)
      · cases equal
  · intro other otherEntry member
    rw [spent_mem_noteEnd]
    rcases List.mem_append.mp member with new | old
    · rcases mem_noteEnd new with ⟨record, flow, same⟩ | ⟨error, flow, same⟩
      · cases same
        rw [flow] at ahead
        exact known.mp ahead
      · cases same
    · exact balanced.paid other otherEntry old
  · intro other otherEntry error member
    rw [spent_mem_noteEnd]
    rcases List.mem_append.mp member with new | old
    · rcases mem_noteEnd new with ⟨record, flow, same⟩ | ⟨reason, flow, same⟩
      · cases same
      · cases same
        rw [flow] at ahead
        intro contradiction
        have impossible : spent = true := known.mpr contradiction
        rw [ahead] at impossible
        cases impossible
    · exact balanced.kept other otherEntry error old
  · intro otherEntry
    rw [spendersOf_noteEnd, grantsOf_noteEnd]
    exact balanced.funds otherEntry

theorem setRequest_self :
    (state.setRequest request download).requests request = some download :=
  Function.update_self request _ state.requests

theorem setRequest_other {other : Nat} (different : other ≠ request) :
    (state.setRequest request download).requests other = state.requests other :=
  Function.update_of_ne different _ state.requests

theorem Balanced.arrived (balanced : Balanced state)
    (free : state.requests request = none) (key : ApiKeyRecord)
    (attachmentId : String) :
    Balanced (state.setRequest request ⟨(attachmentId, key.emailAddress),
      downloadAttachment key attachmentId⟩) := by
  constructor
  · intro other none otherEntry
    have different : other ≠ request := fun same => by
      rw [same, setRequest_self] at none
      cases none
    rw [setRequest_other different] at none
    exact balanced.absent other none otherEntry
  · intro other download found
    by_cases same : other = request
    · rw [same, setRequest_self] at found
      cases found
      rw [same]
      refine ⟨⟨false, ?_, downloadAttachment_ensures key attachmentId⟩, ?_⟩
      · have unspent := (balanced.absent request free
          (attachmentId, key.emailAddress)).1
        exact ⟨fun impossible => absurd impossible Bool.false_ne_true,
          fun member => absurd member unspent⟩
      · intro question next flow
        exact ⟨fun entry => (balanced.absent request free entry).2.1,
          fun entry => (balanced.absent request free entry).2.2⟩
    · rw [setRequest_other same] at found
      exact balanced.proceeds other download found
  · intro other otherEntry member
    rcases balanced.own other otherEntry member with ⟨download, found, own⟩
    have different : other ≠ request := fun same => by
      rw [same, free] at found
      cases found
    exact ⟨download, (setRequest_other different).trans found, own⟩
  · exact balanced.once
  · exact balanced.paid
  · exact balanced.kept
  · exact balanced.funds

theorem advance_cases {question : Request}
    {next : question.Answer → Flow (Except HttpError AttachmentMetaRecord)}
    {outside : Outside} {spent : Bool}
    (running : state.requests request = some ⟨entry, .request question next⟩)
    (undisturbed : Undisturbed state (.advance request outside))
    (ahead : Ensures (downloads entry) (.request question next) settled spent) :
    ((perform outside question state.store).2.permissions =
        state.store.permissions ∧
      noteSpent request outside state.store question = [] ∧
      Ensures (downloads entry) (next (perform outside question state.store).1)
        settled spent) ∨
    (spent = false ∧ entry ∈ state.store.permissions ∧
      noteSpent request outside state.store question = [.spent request entry] ∧
      (perform outside question state.store).2.permissions =
        state.store.permissions.delete (· == entry) ∧
      Ensures (downloads entry) (next (perform outside question state.store).1)
        settled true) := by
  rw [Undisturbed, running] at undisturbed
  cases question with
  | revokePermission attachmentId userEmail =>
      rcases ahead with ⟨own, unspent, deleted, refused⟩
      subst own unspent
      unfold perform orFault noteSpent
      cases outside.fault with
      | none =>
          right
          exact ⟨rfl, undisturbed, if_pos ⟨rfl, undisturbed⟩, rfl, deleted⟩
      | some error =>
          left
          exact ⟨rfl, if_neg (fun both => by cases both.1), refused error⟩
  | openFile path =>
      left
      have opened : perform outside (.openFile path) state.store =
          (.ok (), state.store) := by
        rw [perform, if_pos (List.contains_iff_mem.mpr undisturbed.1), orIoError,
          undisturbed.2]
      rw [opened]
      exact ⟨rfl, rfl, ahead⟩
  | fileMetadata =>
      left
      have answered : perform outside .fileMetadata state.store =
          (.ok (), state.store) := by
        rw [perform, orIoError, show outside.ioError = none from undisturbed]
      rw [answered]
      exact ⟨rfl, rfl, ahead⟩
  | getMeta id =>
      left
      refine ⟨?_, rfl, ahead _⟩
      unfold perform orFault
      cases outside.fault <;> rfl
  | listPermissions id =>
      left
      refine ⟨?_, rfl, ahead _⟩
      unfold perform orFault
      cases outside.fault <;> rfl
  | _ => exact ahead.elim

theorem Balanced.passed (balanced : Balanced state) {download later : Download}
    (running : state.requests request = some download)
    (entry : later.entry = download.entry)
    (ahead : ∃ spent : Bool,
      (spent = true ↔ .spent request download.entry ∈ state.notes) ∧
        Ensures (downloads download.entry) later.flow settled spent)
    (unended : Unended state.notes request) :
    Balanced (state.setRequest request later) where
  absent := by
    intro other none
    have different : other ≠ request := fun same => by
      rw [same, setRequest_self] at none
      cases none
    rw [setRequest_other different] at none
    exact balanced.absent other none
  proceeds := by
    intro other download' found
    by_cases same : other = request
    · rw [same, setRequest_self] at found
      cases found
      rw [same]
      exact ⟨by rw [entry]; exact ahead, fun _ _ _ => unended⟩
    · rw [setRequest_other same] at found
      exact balanced.proceeds other download' found
  own := by
    intro other otherEntry member
    rcases balanced.own other otherEntry member with ⟨download', found, own⟩
    by_cases same : other = request
    · rw [same, running] at found
      cases found
      exact ⟨later, same ▸ setRequest_self, entry.trans own⟩
    · exact ⟨download', (setRequest_other same).trans found, own⟩
  once := balanced.once
  paid := balanced.paid
  kept := balanced.kept
  funds := balanced.funds

theorem Balanced.spends (balanced : Balanced state)
    (running : state.requests request = some download)
    (unended : Unended state.notes request)
    (there : download.entry ∈ state.store.permissions) {store : Store}
    (permissions : store.permissions =
      state.store.permissions.delete (· == download.entry))
    (ahead : Ensures (downloads download.entry) flow settled true) :
    Balanced (Downloads.setRequest
      ⟨store, state.requests, .spent request download.entry :: state.notes⟩
      request ⟨download.entry, flow⟩) where
  absent := by
    intro other none otherEntry
    have different : other ≠ request := fun same => by
      rw [same, setRequest_self] at none
      cases none
    rw [setRequest_other different] at none
    rcases balanced.absent other none otherEntry with ⟨noSpent, noDownload, noFailure⟩
    refine ⟨fun member => ?_, fun member => ?_, fun error member => ?_⟩
    · rcases List.mem_cons.mp member with new | old
      · exact different (Note.spent.inj new).1
      · exact noSpent old
    · exact noDownload (List.mem_of_ne_of_mem (by simp) member)
    · exact noFailure error (List.mem_of_ne_of_mem (by simp) member)
  proceeds := by
    intro other download' found
    by_cases same : other = request
    · rw [same, setRequest_self] at found
      cases found
      rw [same]
      refine ⟨⟨true, iff_of_true rfl List.mem_cons_self, ahead⟩, fun _ _ _ => ?_⟩
      exact ⟨fun otherEntry member =>
          unended.1 otherEntry (List.mem_of_ne_of_mem (by simp) member),
        fun otherEntry error member =>
          unended.2 otherEntry error (List.mem_of_ne_of_mem (by simp) member)⟩
    · rw [setRequest_other same] at found
      rcases balanced.proceeds other download' found with
        ⟨⟨spent, known, rest⟩, open_⟩
      refine ⟨⟨spent, known.trans ⟨List.mem_cons_of_mem _, fun member => ?_⟩, rest⟩,
        fun question next flow => ?_⟩
      · rcases List.mem_cons.mp member with new | old
        · exact absurd (Note.spent.inj new).1 same
        · exact old
      · rcases open_ question next flow with ⟨noDownload, noFailure⟩
        exact ⟨fun otherEntry member =>
            noDownload otherEntry (List.mem_of_ne_of_mem (by simp) member),
          fun otherEntry error member =>
            noFailure otherEntry error (List.mem_of_ne_of_mem (by simp) member)⟩
  own := by
    intro other otherEntry member
    rcases List.mem_cons.mp member with new | old
    · cases new
      exact ⟨_, setRequest_self, rfl⟩
    · rcases balanced.own other otherEntry old with ⟨download', found, own⟩
      by_cases same : other = request
      · rw [same, running] at found
        cases found
        rw [same]
        exact ⟨⟨download.entry, flow⟩, setRequest_self, own⟩
      · exact ⟨download', (setRequest_other same).trans found, own⟩
  once := balanced.once
  paid := by
    intro other otherEntry member
    exact List.mem_cons_of_mem _
      (balanced.paid other otherEntry (List.mem_of_ne_of_mem (by simp) member))
  kept := by
    intro other otherEntry error member contradiction
    have old := List.mem_of_ne_of_mem (by simp) member
    rcases List.mem_cons.mp contradiction with new | earlier
    · cases new
      exact unended.2 _ error old
    · exact balanced.kept other otherEntry error old earlier
  funds := by
    intro otherEntry
    have funds := balanced.funds otherEntry
    have granted : grantsOf otherEntry
        (.spent request download.entry :: state.notes) =
          grantsOf otherEntry state.notes :=
      List.count_cons_of_ne (by simp)
    change (spendersOf otherEntry (.spent request download.entry :: state.notes)).length +
      (if otherEntry ∈ store.permissions then 1 else 0) ≤ _
    rw [permissions]
    by_cases same : download.entry = otherEntry
    · have grown : spendersOf otherEntry
          (.spent request download.entry :: state.notes) =
            request :: spendersOf otherEntry state.notes := by
        rw [spendersOf_spent, if_pos same]
        rfl
      rw [← same, if_pos there] at funds
      rw [grown, ← same, if_neg (by simp), List.length_cons]
      rw [← same] at granted
      exact Nat.le_trans funds (Nat.le_of_eq granted.symm)
    · have steady : spendersOf otherEntry
          (.spent request download.entry :: state.notes) =
            spendersOf otherEntry state.notes := by
        rw [spendersOf_spent, if_neg same]
        rfl
      have kept : otherEntry ∈ state.store.permissions.delete
          (· == download.entry) ↔ otherEntry ∈ state.store.permissions := by
        rw [Table.mem_delete]
        simpa using fun _ => Ne.symm same
      rw [steady]
      simp only [kept]
      exact Nat.le_trans funds (Nat.le_of_eq granted.symm)

theorem Balanced.grants (balanced : Balanced state) {permissions : Permissions}
    (inserted : state.store.permissions.insert? entry = some permissions) :
    Balanced { state with
      store := { state.store with permissions }
      notes := .granted entry :: state.notes } where
  absent := by
    intro request none otherEntry
    rcases balanced.absent request none otherEntry with
      ⟨noSpent, noDownload, noFailure⟩
    exact ⟨fun member => noSpent (List.mem_of_ne_of_mem (by simp) member),
      fun member => noDownload (List.mem_of_ne_of_mem (by simp) member),
      fun error member => noFailure error (List.mem_of_ne_of_mem (by simp) member)⟩
  proceeds := by
    intro request download found
    rcases balanced.proceeds request download found with
      ⟨⟨spent, known, rest⟩, open_⟩
    refine ⟨⟨spent, known.trans ⟨List.mem_cons_of_mem _,
      List.mem_of_ne_of_mem (by simp)⟩, rest⟩, fun question next flow => ?_⟩
    rcases open_ question next flow with ⟨noDownload, noFailure⟩
    exact ⟨fun otherEntry member =>
        noDownload otherEntry (List.mem_of_ne_of_mem (by simp) member),
      fun otherEntry error member =>
        noFailure otherEntry error (List.mem_of_ne_of_mem (by simp) member)⟩
  own := fun request otherEntry member =>
    balanced.own request otherEntry (List.mem_of_ne_of_mem (by simp) member)
  once := balanced.once
  paid := fun request otherEntry member => List.mem_cons_of_mem _
    (balanced.paid request otherEntry (List.mem_of_ne_of_mem (by simp) member))
  kept := fun request otherEntry error member spent =>
    balanced.kept request otherEntry error
      (List.mem_of_ne_of_mem (by simp) member)
      (List.mem_of_ne_of_mem (by simp) spent)
  funds := by
    intro otherEntry
    have funds := balanced.funds otherEntry
    change (spendersOf otherEntry state.notes).length +
      (if otherEntry ∈ permissions then 1 else 0) ≤
        grantsOf otherEntry (.granted entry :: state.notes)
    simp only [Table.mem_of_insert? inserted, grantsOf, List.count_cons]
    by_cases same : otherEntry = entry
    · simp only [same, or_true, if_true, beq_self_eq_true]
      rw [same, grantsOf] at funds
      omega
    · have different : (Note.granted entry == .granted otherEntry) = false :=
        beq_eq_false_iff_ne.mpr fun equal => same (Note.granted.inj equal).symm
      simp only [same, or_false, different]
      exact funds

/-! ## Runs -/

theorem Balanced.step {next : Downloads} {event : Event}
    (balanced : Balanced state) (undisturbed : Undisturbed state event)
    (stepped : Steps state event next) : Balanced next := by
  unfold Steps at stepped
  cases event with
  | grant entry =>
      rw [Downloads.step] at stepped
      cases insertion : state.store.permissions.insert? entry with
      | none =>
          rw [insertion] at stepped
          cases stepped
          exact balanced
      | some permissions =>
          rw [insertion] at stepped
          cases stepped
          exact balanced.grants insertion
  | withdraw attachmentId =>
      cases stepped
      exact balanced.withStore fun entry member =>
        (Table.mem_delete.mp member).1
  | changeFiles files =>
      cases stepped
      exact balanced.withStore fun entry member => member
  | changeMetas metas =>
      cases stepped
      exact balanced.withStore fun entry member => member
  | arrive request key attachmentId =>
      rw [Downloads.step] at stepped
      cases free : state.requests request with
      | some download =>
          rw [free] at stepped
          cases stepped
      | none =>
          rw [free] at stepped
          cases stepped
          apply (balanced.arrived free key attachmentId).ended setRequest_self
          exact ⟨fun entry => (balanced.absent request free entry).2.1,
            fun entry => (balanced.absent request free entry).2.2⟩
  | advance request outside =>
      rw [Downloads.step] at stepped
      rcases running : state.requests request with _ | ⟨entry, value | ⟨question, rest⟩⟩
      · rw [running] at stepped
        cases stepped
      · rw [running] at stepped
        cases stepped
      · rw [running] at stepped
        cases stepped
        rcases balanced.proceeds request _ running with
          ⟨⟨spent, known, ahead⟩, open_⟩
        have unended : Unended state.notes request := open_ question rest rfl
        rcases advance_cases running undisturbed ahead with
          ⟨permissions, silent, later⟩ |
          ⟨-, there, noted, permissions, later⟩
        · rw [silent]
          have passed : Balanced (state.setRequest request
              ⟨entry, rest (perform outside question state.store).1⟩) :=
            balanced.passed running rfl ⟨spent, known, later⟩ unended
          have moved := @Balanced.withStore _ passed
            (perform outside question state.store).2
            fun entry member => permissions ▸ member
          exact moved.ended setRequest_self unended
        · rw [noted]
          have moved := balanced.spends running unended there permissions later
          refine moved.ended setRequest_self ?_
          exact ⟨fun otherEntry member =>
              unended.1 otherEntry (List.mem_of_ne_of_mem (by simp) member),
            fun otherEntry error member => unended.2 otherEntry error
              (List.mem_of_ne_of_mem (by simp) member)⟩

end Downloads

def report : AttachmentMetaRecord where
  id := "att-1"
  filename := "report.pdf"
  senderEmail := "alice@a.test"
  mailId := some ["mail-1"]
  createdAt := 1000

/-- One attachment that one address may download. -/
def oneFile : Store where
  metas := Table.empty.insert report fun _ other => nomatch other
  permissions := Table.empty.insert ("att-1", "bob@a.test")
    fun _ other => nomatch other
  files := [report.path]
  emails := Table.empty

def bobKey : ApiKeyRecord where
  id := 1
  systemId := "sys1"
  emailAddress := "bob@a.test"
  keyHash := "hash"
  keyPrefix := "ak_"
  scopes := ["agent"]
  isActive := true
  createdAt := 0
  expiresAt := none
  lastUsedAt := none
  category := "agent"

def eveKey : ApiKeyRecord := { bobKey with id := 2, emailAddress := "eve@c.test" }

def faulty : Outside := ⟨2000, some (.internal "database is locked"), none⟩

/-- Requests of two addresses in turn: a second one of bob comes too late, and
one of eve meets a storage fault before she tries again. -/
def threeRequests : List Event :=
  [.grant ("att-1", "eve@c.test"), .arrive 0 bobKey "att-1",
    .arrive 1 bobKey "att-1", .arrive 2 eveKey "att-1",
    .advance 0 (.calm 2000), .advance 1 (.calm 2000), .advance 2 (.calm 2000),
    .advance 0 (.calm 2000), .advance 2 faulty, .advance 0 (.calm 2000),
    .advance 1 (.calm 2000), .arrive 3 eveKey "att-1",
    .advance 3 (.calm 2000), .advance 0 (.calm 2000), .advance 3 (.calm 2000),
    .advance 3 (.calm 2000), .advance 3 (.calm 2000), .advance 0 (.calm 2000),
    .advance 3 (.calm 2000)]

/-- Both requests list the permission before either deletes it. -/
def bothCheckFirst : List Event :=
  [.arrive 0 bobKey "att-1", .arrive 1 bobKey "att-1",
    .advance 0 (.calm 2000), .advance 0 (.calm 2000),
    .advance 1 (.calm 2000), .advance 1 (.calm 2000)] ++
  List.replicate 3 (.advance 0 (.calm 2000)) ++
  List.replicate 3 (.advance 1 (.calm 2000))

/-- The file is gone when the permission has been deleted. -/
def fileMissing : List Event :=
  .changeFiles [] :: .arrive 0 bobKey "att-1" ::
    List.replicate 4 (.advance 0 (.calm 2000))

end AimailGateway.Attachments
