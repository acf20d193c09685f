import AimailGateway.Board.Tables

/-! # Renaming an address in a board database

The batch that follows an agent's address into every board file. An address
with a quote changes the text of the batch, so what it does then is open; in
any case its statements set columns that hold addresses and no others.
-/

namespace AimailGateway.Board

open Library

/-! ## What every batch leaves alone -/

def BoardRecord.SameButAddress (before after : BoardRecord) : Prop :=
  { after with boardEmail := before.boardEmail } = before

def Task.SameButAddresses (before after : Task) : Prop :=
  { after with
    assignee := before.assignee
    reviewer := before.reviewer
    createdBy := before.createdBy } = before

def TaskEvent.SameButActor (before after : TaskEvent) : Prop :=
  { after with actor := before.actor } = before

/-- Only columns that hold addresses differ, and rows of members. -/
structure Relabelled (before after : BoardDb) : Prop where
  boards : ∃ change : BoardRecord → BoardRecord,
    after.boards.rows = before.boards.rows.map change ∧
      ∀ row : BoardRecord, row.SameButAddress (change row)
  tasks : ∃ change : Task → Task,
    after.tasks.rows = before.tasks.rows.map change ∧
      ∀ row : Task, row.SameButAddresses (change row)
  taskEvents : ∃ change : TaskEvent → TaskEvent,
    after.taskEvents = before.taskEvents.map change ∧
      ∀ row : TaskEvent, row.SameButActor (change row)
  rolePermissions : after.rolePermissions = before.rolePermissions

namespace BoardDb

/-! ## The statements -/

def renamed (old new addr : String) : String :=
  if addr = old then new else addr

def renamedBoard (old new : String) (row : BoardRecord) : BoardRecord :=
  { row with boardEmail := renamed old new row.boardEmail }

def renamedTask (old new : String) (row : Task) : Task :=
  { row with
    assignee := renamed old new row.assignee
    reviewer := row.reviewer.map (renamed old new)
    createdBy := renamed old new row.createdBy }

def renamedEvent (old new : String) (row : TaskEvent) : TaskEvent :=
  { row with actor := renamed old new row.actor }

/-- `INSERT OR IGNORE INTO board_members … SELECT … WHERE email = old`: the salt
of the token is not copied. -/
def copiedMembers (db : BoardDb) (old new : String) : Members :=
  match db.members.find? (·.email == old) with
  | some row =>
      (db.members.insert? { row with email := new, boardTokenSalt := none }).getD
        db.members
  | none => db.members

/-- The members once the old row is deleted, which its tasks prevent. -/
def renamedMembers (db : BoardDb) (old new : String) : Members :=
  if (db.tasks.rows.map (renamedTask old new)).any (·.assignee == old) then
    db.copiedMembers old new
  else (db.copiedMembers old new).delete (·.email == old)

variable {db : BoardDb} {old new : String} {member : Member}

theorem mem_copiedMembers (there : member ∈ db.members) :
    member ∈ db.copiedMembers old new := by
  rw [copiedMembers]
  split
  · next row found =>
      cases inserted : db.members.insert?
          { row with email := new, boardTokenSalt := none } with
      | some after => exact (Table.mem_of_insert? inserted).mpr (Or.inl there)
      | none => exact there
  · exact there

theorem copiedMembers_spec (there : member ∈ db.copiedMembers old new) :
    member ∈ db.members ∨ member.email = new ∧
      ∃ row ∈ db.members, row.email = old ∧ row.boardId = member.boardId := by
  rw [copiedMembers] at there
  split at there
  · next row found =>
      cases inserted : db.members.insert?
          { row with email := new, boardTokenSalt := none } with
      | some after =>
          rw [inserted, Option.getD_some, Table.mem_of_insert? inserted] at there
          rcases there with kept | equal
          · exact Or.inl kept
          · have searched := Table.mem_of_find? found
            subst equal
            exact Or.inr ⟨rfl, row, searched.1, by simpa using searched.2, rfl⟩
      | none =>
          rw [inserted] at there
          exact Or.inl there
  · exact Or.inl there

theorem copiedMembers_new {row : Member} (there : row ∈ db.members)
    (same : row.email = old) :
    ∃ copy ∈ db.copiedMembers old new, copy.email = new := by
  have found : db.members.find? (·.email == old) = some row :=
    Table.find?_eq_some_of_mem Member.conflict_comm
      (fun _ _ => by simp_all [Member.conflict]) there (by simp [same])
  simp only [copiedMembers, found]
  cases inserted : db.members.insert?
      { row with email := new, boardTokenSalt := none } with
  | some after =>
      exact ⟨{ row with email := new, boardTokenSalt := none },
        (Table.mem_of_insert? inserted).mpr (Or.inr rfl), rfl⟩
  | none =>
      by_contra missing
      have free : ∀ other ∈ db.members, Member.conflict other
          { row with email := new, boardTokenSalt := none } = false := by
        intro other listed
        rw [Member.conflict, beq_eq_false_iff_ne]
        exact fun taken => missing ⟨other, listed, taken⟩
      rcases Table.insert?_isSome free with ⟨after, succeeds⟩
      rw [succeeds] at inserted
      cases inserted

theorem mem_copied_of_renamed (there : member ∈ db.renamedMembers old new) :
    member ∈ db.copiedMembers old new := by
  rw [renamedMembers] at there
  split at there
  · exact there
  · exact (Table.mem_delete.mp there).1

theorem renamedMembers_assigned {row : Task} (there : row ∈ db.tasks) :
    ∃ member ∈ db.renamedMembers old new,
      member.email = (renamedTask old new row).assignee := by
  have copied : ∃ member ∈ db.copiedMembers old new,
      member.email = (renamedTask old new row).assignee := by
    rcases db.assigned row there with ⟨member, known, same⟩
    by_cases own : row.assignee = old
    · rw [renamedTask, renamed, if_pos own]
      exact copiedMembers_new known (same.trans own)
    · rw [renamedTask, renamed, if_neg own]
      exact ⟨member, mem_copiedMembers known, same⟩
  rcases copied with ⟨member, known, same⟩
  refine ⟨member, ?_, same⟩
  rw [renamedMembers]
  split
  · exact known
  · next free =>
      refine Table.mem_delete.mpr ⟨known, ?_⟩
      rw [beq_eq_false_iff_ne, same]
      intro assigned
      refine free (List.any_eq_true.mpr ⟨renamedTask old new row, ?_, ?_⟩)
      · exact List.mem_map_of_mem there
      · rw [beq_iff_eq]
        exact assigned

def renameMember (db : BoardDb) (old new : String) : BoardDb :=
  { db with
    boards := db.boards.mapRows (renamedBoard old new) fun _ _ => rfl
    members := db.renamedMembers old new
    tasks := db.tasks.mapRows (renamedTask old new) fun _ _ => rfl
    taskEvents := db.taskEvents.map (renamedEvent old new)
    enrolled := fun member there => by
      have boards : ∃ row ∈ db.members, row.boardId = member.boardId := by
        rcases copiedMembers_spec (mem_copied_of_renamed there) with
          kept | ⟨_, row, known, _, same⟩
        · exact ⟨member, kept, rfl⟩
        · exact ⟨row, known, same⟩
      rcases boards with ⟨row, known, same⟩
      rcases db.enrolled row known with ⟨board, listed, equal⟩
      exact ⟨renamedBoard old new board,
        Table.mem_mapRows.mpr ⟨board, listed, rfl⟩, equal.trans same⟩
    owned := fun task there => by
      rcases Table.mem_mapRows.mp there with ⟨row, known, equal⟩
      subst equal
      rcases db.owned row known with ⟨board, listed, same⟩
      exact ⟨renamedBoard old new board,
        Table.mem_mapRows.mpr ⟨board, listed, rfl⟩, same⟩
    assigned := fun task there => by
      rcases Table.mem_mapRows.mp there with ⟨row, known, equal⟩
      subst equal
      exact renamedMembers_assigned known
    recorded := fun event there => by
      rcases List.mem_map.mp there with ⟨before, logged, equal⟩
      subst equal
      rcases db.recorded before logged with ⟨row, known, same⟩
      exact ⟨renamedTask old new row,
        Table.mem_mapRows.mpr ⟨row, known, rfl⟩, same⟩ }

theorem renameMember_relabelled (db : BoardDb) (old new : String) :
    Relabelled db (db.renameMember old new) where
  boards := ⟨renamedBoard old new, rfl, fun _ => rfl⟩
  tasks := ⟨renamedTask old new, rfl, fun _ => rfl⟩
  taskEvents := ⟨renamedEvent old new, rfl, fun _ => rfl⟩
  rolePermissions := rfl

end BoardDb

end AimailGateway.Board
