import AimailGateway.Board.Completion
import AimailGateway.Board.ReviewGate

/-! # No orphaned duty

The assignee and the reviewer of an open task are members of its board, as long
as reviews name members and no task is created with an empty reviewer.
-/

namespace AimailGateway.Board

open Library BoardDb Commands

/-- Someone on the board can act on every open task. -/
def Staffed (db : BoardDb) : Prop :=
  ∀ row ∈ db.tasks.rows, row.status ≠ .done → row.status ≠ .cancelled →
    (db.findMember row.boardId row.assignee).isSome ∧
      ∀ reviewer ∈ row.reviewer, (db.findMember row.boardId reviewer).isSome

instance (db : BoardDb) : Decidable (Staffed db) :=
  inferInstanceAs (Decidable (∀ row ∈ db.tasks.rows, _))

/-- An authorised command that names a reviewer who is no member. -/
inductive Orphans (db : BoardDb) (notifier : Notifier) (cmd : A2aCommand)
    (sender : String) : Prop where
  | review {task : Task} {reviewer : String} (verb : cmd.verb = "review")
      (authority : Authority db notifier cmd sender task.boardId)
      (named : Names db cmd task)
      (given : strParam cmd "reviewer" = some reviewer)
      (stranger : db.findMember task.boardId reviewer = none)
  | create {boardId : String} {entries : List Json} {entry : Json}
      (verb : cmd.verb = "create")
      (authority : Authority db notifier cmd sender boardId)
      (given : cmd.params.bind (·.getArray? "tasks") = some entries)
      (member : entry ∈ entries) (empty : entry.getStr? "reviewer" = some "")
      (assigned : (db.findMember boardId (assigneeOf entry)).isSome)

/-- No mail carries such a command to a board that takes commands, and no
renamed address changes the text of the batch. -/
def KeepsDuties (settings : Settings) (gateway : Gateway) (event : Event) :
    Prop :=
  (∀ boardId mail cmd board, event = .mail mail →
    Carries settings mail boardId cmd →
    (gateway.files boardId).findBoard boardId = some board →
    Interceptor.isPast board = false →
    ¬ Orphans (gateway.files boardId) (Interceptor.notifierOf board) cmd
      mail.sender) ∧
  ∀ old new, event = .rename old new →
    Storage.breaksLiteral old = false ∧ Storage.breaksLiteral new = false

/-! ## Members -/

variable {settings : Settings} {boardId : String} {before after : BoardDb}
  {event : Event}
  {notifier : Notifier} {cmd : A2aCommand}

def OnBoard (db : BoardDb) (email : String) : Prop :=
  ∃ member ∈ db.members, member.email = email

/-- Whoever was a member is one. -/
def Retains (before after : BoardDb) : Prop :=
  ∀ email, OnBoard before email → OnBoard after email

theorem Retains.same (equal : after.members = before.members) :
    Retains before after := by
  intro email
  rw [OnBoard, OnBoard, equal]
  exact id

theorem Retains.trans {middle : BoardDb} (earlier : Retains before middle)
    (later : Retains middle after) : Retains before after :=
  fun email known => later email (earlier email known)

theorem upsertMember_retains {member : Member}
    (written : before.upsertMember member = .ok after) :
    Retains before after := by
  rintro email ⟨row, known, same⟩
  rw [upsertMember] at written
  split at written
  · split at written
    · cases written
      refine ⟨memberChange member row, ?_,
        (memberChange_email member row).trans same⟩
      change _ ∈ before.members.rows.map (memberChange member)
      exact List.mem_map.mpr ⟨row, known, rfl⟩
    · cases written
      refine ⟨row, ?_, same⟩
      change _ ∈ before.members.rows ++ [insertedMember member]
      exact List.mem_append_left _ known
  · cases written

theorem upsertMembers_retains {members : List Member}
    (written : before.upsertMembers members = .ok after) :
    Retains before after := by
  induction members generalizing before with
  | nil =>
      cases written
      exact .same rfl
  | cons head tail induction =>
      rw [upsertMembers] at written
      cases first : before.upsertMember head with
      | error error =>
          rw [first] at written
          cases written
      | ok next =>
          rw [first] at written
          exact (upsertMember_retains first).trans (induction written)

theorem Effect.retains {host : Host}
    {sender : String} (effect : Effect host notifier cmd sender before after) :
    Retains before after := by
  cases effect with
  | kept seeded => exact .same seeded.permitted.members
  | noted verb authority named seeded kind logged =>
      exact .same (logged.members.trans seeded.permitted.members)
  | moved authority named transition seeded mapped recorded =>
      have still := mapped.members.trans seeded.permitted.members
      cases recorded with
      | nothing same => exact .same (same ▸ still)
      | event kind logged => exact .same (logged.members.trans still)
  | finished authority named finish seeded mapped about typed log promoted =>
      exact .same (promoted.members.trans (log.members.trans
        (mapped.members.trans seeded.permitted.members)))
  | output verb authority named done complete seeded kind log found result =>
      rw [result]
      exact .same (log.members.trans seeded.permitted.members)
  | created verb authority seeded requested added =>
      exact .same (added.members.trans seeded.permitted.members)
  | refreshed verb authority found asked written permissions =>
      have earlier := upsertMembers_retains written
      exact earlier.trans (.same permissions.permitted.members)
  | reopened verb authority seeded found awaiting mapped others own result =>
      rw [result]
      exact .same (mapped.members.trans seeded.permitted.members)

theorem Founded.retains {mail : InboundMail}
    (founded : Founded settings mail boardId before after) :
    Retains before after := by
  rcases founded.stages with
    ⟨created, enrolled, members, opened, _, written, finish⟩
  have first : Retains before created := by
    rcases opened with same | ⟨board, _, _, inserted⟩
    · exact .same (same ▸ rfl)
    · exact .same (createBoard_tasks inserted).1
  have last : Retains enrolled after := by
    rcases finish with same | same
    · exact .same (same ▸ rfl)
    · rw [same]
      exact .same (initialised_permitted _ enrolled).members
  exact (first.trans (upsertMembers_retains written)).trans last

theorem Migrated.retains (migrated : Migrated before after) :
    Retains before after := by
  cases migrated with
  | kept same => exact .same (same ▸ rfl)
  | @hashed boardId address hashed salt same =>
      rw [same]
      rintro email ⟨row, known, equal⟩
      refine ⟨tokenChange boardId address hashed salt row, ?_,
        (tokenChange_email _ _ _ _ row).trans equal⟩
      change _ ∈ before.members.rows.map
        (tokenChange boardId address hashed salt)
      exact List.mem_map.mpr ⟨row, known, rfl⟩

theorem Touched.retains (touched : Touched settings event boardId before after)
    (unrenamed : ∀ old new, event ≠ .rename old new) : Retains before after := by
  cases touched with
  | idle => exact .same rfl
  | founded founded => exact founded.retains
  | commanded carried found current effect => exact effect.retains
  | confirmed confirms => exact .same rfl
  | requested migrated seeds effect =>
      exact (migrated.retains.trans (.same seeds.permitted.members)).trans
        effect.retains
  | swept swept =>
      rcases swept.mapped with ⟨change, mapped, _⟩
      exact .same mapped.members
  | archived archived => exact .same archived.members
  | renamed different => exact absurd rfl (unrenamed _ _)

theorem renamedMembers_retains {old new email : String} (different : old ≠ new)
    (known : OnBoard before email) :
    OnBoard (before.renameMember old new) (renamed old new email) := by
  rcases known with ⟨member, there, same⟩
  have copied : ∃ copy ∈ before.copiedMembers old new,
      copy.email = renamed old new email := by
    rw [renamed]
    split
    · next own => exact copiedMembers_new there (same.trans own)
    · exact ⟨member, mem_copiedMembers there, same⟩
  have gone : renamed old new email ≠ old := by
    rw [renamed]
    split
    · exact different.symm
    · next other => exact other
  rcases copied with ⟨copy, listed, equal⟩
  refine ⟨copy, ?_, equal⟩
  change copy ∈ before.renamedMembers old new
  rw [renamedMembers]
  split
  · exact listed
  · refine Table.mem_delete.mpr ⟨listed, ?_⟩
    rw [beq_eq_false_iff_ne, equal]
    exact gone

/-! ## Reviewers -/

/-- The reviewer of every task is a member. -/
def Reviewed (db : BoardDb) : Prop :=
  ∀ row ∈ db.tasks, ∀ reviewer, row.reviewer = some reviewer →
    OnBoard db reviewer

theorem findMember_of_onBoard (homed : Homed boardId before) {email : String}
    (known : OnBoard before email) :
    (before.findMember boardId email).isSome := by
  rcases known with ⟨member, there, same⟩
  cases search : before.findMember boardId email with
  | some found => rfl
  | none =>
      have absent := Table.find?_eq_none.mp search member there
      rw [homed.member there, same] at absent
      simp at absent

theorem onBoard_of_findMember {email : String}
    (found : (before.findMember boardId email).isSome) :
    OnBoard before email := by
  rcases Option.isSome_iff_exists.mp found with ⟨member, searched⟩
  have spec := findMember_spec searched
  exact ⟨member, spec.1, spec.2.2⟩

theorem Reviewed.staffed (homed : Homed boardId before)
    (reviewed : Reviewed before) : Staffed before := by
  intro row there _ _
  rw [homed.task there]
  refine ⟨findMember_of_onBoard homed (before.assigned row there), ?_⟩
  exact fun reviewer named =>
    findMember_of_onBoard homed (reviewed row there reviewer named)

theorem RowStep.reviewed
    {sender reviewer : String} {row row' : Task} (there : row ∈ before.tasks)
    (reviewed : Reviewed before)
    (adopts : ¬ Orphans before notifier cmd sender)
    (step : RowStep notifier cmd sender before after row row')
    (named : row'.reviewer = some reviewer) : OnBoard before reviewer := by
  have stays : row.reviewer = some reviewer → OnBoard before reviewer :=
    reviewed row there reviewer
  cases step with
  | kept => exact stays named
  | moved authority refers transition =>
      cases transition with
      | review verb chosen now given =>
          cases named
          by_contra absent
          refine adopts (@Orphans.review _ _ _ _ (taskFromRow row) _ verb
            authority refers given ?_)
          rw [← Option.not_isSome_iff_eq_none]
          exact fun found => absent (onBoard_of_findMember found)
      | _ => exact stays named
  | finished authority refers finish =>
      cases finish with
      | _ => exact stays named
  | promoted verb waits => exact stays named
  | reopened verb authority awaits moves => exact stays named

theorem CreatedRow.reviewed {host : Host}
    {sender reviewer : String} {row : Task}
    (homed : Homed boardId before) (there : row ∈ after.tasks)
    (adopts : ¬ Orphans before notifier cmd sender)
    (created : CreatedRow host notifier cmd before after sender row)
    (named : row.reviewer = some reviewer) : OnBoard before reviewer := by
  rcases created.requested with
    ⟨other, authority, entries, given, entry, listed, assignee, reviewers,
      shortId, ts, same⟩
  have asked : entry.getStr? "reviewer" = some reviewer := by
    rw [same] at named
    exact named
  rcases reviewers reviewer asked with empty | ⟨member, found⟩
  · -- An empty reviewer is orphaned if the task was created at all.
    have assigned : OnBoard before (assigneeOf entry) := by
      rcases after.assigned row there with ⟨member, known, equal⟩
      rw [created.members] at known
      rw [same] at equal
      exact ⟨member, known, equal⟩
    rw [empty] at asked
    have home : other = boardId := by
      cases authority with
      | board _ _ holds =>
          rcases holds with ⟨member, found, _⟩
          have spec := findMember_spec found
          rw [← spec.2.1]
          exact homed.member spec.1
      | _ => simp_all [created.verb]
    refine absurd (.create created.verb authority given listed asked ?_) adopts
    rw [home]
    exact findMember_of_onBoard homed assigned
  · exact onBoard_of_findMember (Option.isSome_iff_exists.mpr ⟨member, found⟩)

/-! ## Runs -/

theorem Touched.reviewed (touched : Touched settings event boardId before after)
    (homed : Homed boardId before) (reviewed : Reviewed before)
    (adopts : ∀ mail cmd board, event = .mail mail →
      Carries settings mail boardId cmd →
      before.findBoard boardId = some board →
      Interceptor.isPast board = false →
      ¬ Orphans before (Interceptor.notifierOf board) cmd mail.sender)
    (unrenamed : ∀ old new, event ≠ .rename old new) : Reviewed after := by
  intro row' there reviewer named
  refine touched.retains unrenamed reviewer ?_
  rcases touched.rows there with ⟨row, known, _, step⟩ | created
  · cases step with
    | kept => exact reviewed _ known reviewer named
    | commanded carried found current step =>
        exact step.reviewed known reviewed
          (adopts _ _ _ rfl carried found current) named
    | started runnable => exact reviewed row known reviewer named
    | swept running => exact reviewed row known reviewer named
    | renamed different same => exact absurd rfl (unrenamed _ _)
  · rcases created with ⟨mail, cmd, board, same, carried, found, current, asked⟩
    exact asked.reviewed homed there
      (adopts mail cmd board same carried found current) named

theorem renameMember_reviewed {old new : String} (different : old ≠ new)
    (reviewed : Reviewed before) : Reviewed (before.renameMember old new) := by
  intro row' there reviewer named
  change row' ∈ before.tasks.rows.map (renamedTask old new) at there
  rcases List.mem_map.mp there with ⟨row, known, equal⟩
  subst equal
  rcases Option.map_eq_some_iff.mp named with ⟨former, asked, same⟩
  rw [← same]
  exact renamedMembers_retains different (reviewed row known former asked)

theorem Touched.reviewed_renamed {old new : String}
    (touched : Touched settings (.rename old new) boardId before after)
    (plain : Storage.breaksLiteral old = false ∧
      Storage.breaksLiteral new = false)
    (reviewed : Reviewed before) : Reviewed after := by
  cases touched with
  | idle => exact reviewed
  | renamed different =>
      rw [renamedFile, if_neg (by simp [plain])]
      exact renameMember_reviewed different reviewed

theorem Step.reviewed {gateway next : Gateway}
    (keeps : KeepsDuties settings gateway event)
    (homed : ∀ boardId, Homed boardId (gateway.files boardId))
    (reviewed : ∀ boardId, Reviewed (gateway.files boardId))
    (step : Step settings gateway event next) (boardId : String) :
    Reviewed (next.files boardId) := by
  have touched := advance_touches settings event gateway boardId
  rw [show advance settings event gateway = next from step] at touched
  cases event with
  | rename old new =>
      exact touched.reviewed_renamed (keeps.2 old new rfl) (reviewed boardId)
  | _ =>
      exact touched.reviewed (homed boardId) (reviewed boardId)
        (fun mail cmd board => keeps.1 boardId mail cmd board) (by simp)

/-- Every open task has an assignee and a reviewer, if any, on its board, as
long as no command names a reviewer who is not. -/
theorem duties_run (settings : Settings) (main : World) {events : List Event}
    {gateway : Gateway}
    (run : Run (Guarded (KeepsDuties settings) (Step settings))
      (Gateway.start main) events gateway) :
    ∀ boardId, Staffed (gateway.files boardId) := by
  have start : ∀ boardId, Reviewed ((Gateway.start main).files boardId) :=
    fun _ _ absent => absurd absent List.not_mem_nil
  have homed := homed_start main
  generalize Gateway.start main = first at run start homed
  induction run with
  | nil state =>
      exact fun boardId => (start boardId).staffed (homed boardId)
  | cons moved rest induction =>
      have still := moved.2.boards homed
      exact induction (moved.2.reviewed moved.1 homed start)
        fun boardId => (still boardId).homed (homed boardId)

theorem keepsDuties_mail {gateway : Gateway} {mail : InboundMail}
    (verb : (commandWords mail).head? ≠ some "review")
    (filled : ∀ boardId,
      boardIdOf settings (Interceptor.recipient mail) = some boardId →
      ((Text.afterStart "[A2A] " (Text.trim mail.subject)).bind fun rest =>
        (Interceptor.commandOf settings boardId rest mail).bind fun cmd =>
          cmd.params.bind (·.getArray? "tasks")).all fun entries =>
            entries.all (·.getStr? "reviewer" != some "")) :
    KeepsDuties settings gateway (.mail mail) := by
  refine ⟨?_, fun _ _ renamed => nomatch renamed⟩
  rintro boardId sent cmd board same carried _ _ orphans
  cases same
  cases orphans with
  | review reviews =>
      have words := carried.words.1
      rw [reviews] at words
      cases head : (commandWords mail).head? with
      | none =>
          rw [head] at words
          exact absurd words (by simp)
      | some first =>
          rw [head] at words
          exact verb (head.trans (congrArg some words.symm))
  | create _ _ given member empty _ =>
      rcases carried with ⟨home, rest, read, asked⟩
      have each := filled boardId home
      rw [read, Option.bind_some, asked, Option.bind_some, given,
        Option.all_some, List.all_eq_true] at each
      exact absurd empty (by simpa using each _ member)

namespace Trial

/-- A review names somebody who is not on the board. -/
def strangerReviews : String × Json := fields [("reviewer", "ghost@y.org")]

def orphanedTask : List Event :=
  [creation teamDocument, toBoard "orch@x.org" "[A2A] create" reviewedTask,
    toBoard "orch@x.org" "[A2A] review T1" strangerReviews]

/-- A task with a reviewer is created, its worker completes it. -/
def reviewedDuty : List Event :=
  [creation teamDocument, toBoard "orch@x.org" "[A2A] create" reviewedTask,
    toBoard "work@x.org" "[A2A] complete T1" noDocument]

end Trial

open Trial in
/-- A task that waits for its reviewer has one who is on the board. -/
theorem duties_run_reviewed :
    ((reached [teamDocument, reviewedTask] reviewedDuty).files
        demoBoard).tasks.rows.map (fun row => (row.status, row.reviewer)) =
      [(TaskStatus.reviewing, some "ver@x.org")] ∧
    ∀ boardId, Staffed
      ((reached [teamDocument, reviewedTask] reviewedDuty).files boardId) := by
  refine ⟨by decide +kernel,
    @duties_run (configured [teamDocument, reviewedTask])
      (World.start Database.empty) reviewedDuty _ ?_⟩
  have sent : ∀ mail : InboundMail, Interceptor.recipient mail = demoBoard →
      ∀ boardId, boardIdOf (configured [teamDocument, reviewedTask])
        (Interceptor.recipient mail) = some boardId → boardId = demoBoard := by
    intro mail same boardId known
    have resolved : boardIdOf (configured [teamDocument, reviewedTask])
        demoBoard = some demoBoard := by decide +kernel
    rw [same, resolved] at known
    exact (Option.some.inj known).symm
  refine .cons ⟨keepsDuties_mail (by decide +kernel) ?_, rfl⟩
    (.cons ⟨keepsDuties_mail (by decide +kernel) ?_, rfl⟩
      (.cons ⟨keepsDuties_mail (by decide +kernel) ?_, rfl⟩ (.nil _)))
  · intro boardId known
    have nowhere : boardIdOf (configured [teamDocument, reviewedTask])
        "orch@x.org" = none := by decide +kernel
    exact absurd (nowhere.symm.trans known) (by simp)
  · intro boardId known
    rw [sent _ (by decide +kernel) boardId known]
    decide +kernel
  · intro boardId known
    rw [sent _ (by decide +kernel) boardId known]
    decide +kernel

open Trial in
/-- A reviewer who is not on the board is taken as given. -/
theorem duties_orphaned :
    ¬ ∀ (settings : Settings) (main : World) (events : List Event)
      (gateway : Gateway),
      Run (Step settings) (Gateway.start main) events gateway →
        ∀ boardId, Staffed (gateway.files boardId) := by
  intro claimed
  have staffed := claimed _ _ _ _
    (reached_run [teamDocument, reviewedTask, strangerReviews] orphanedTask)
    demoBoard
  have orphaned : ¬ Staffed
      ((reached [teamDocument, reviewedTask, strangerReviews] orphanedTask).files
        demoBoard) := by decide +kernel
  exact orphaned staffed

end AimailGateway.Board
