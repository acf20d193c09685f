import Mathlib.Data.List.Pairwise

/-! # Tables with uniqueness constraints

A table is a list of rows no two of which conflict; `conflict` is the
disjunction of its `PRIMARY KEY` and `UNIQUE` constraints. A statement that
would break a constraint fails and leaves the table as it was, so a value of
the type never holds conflicting rows.
-/

namespace AimailGateway.Library

structure Table (ρ : Type) (conflict : ρ → ρ → Bool) where
  rows : List ρ
  distinct : rows.Pairwise (fun first second => conflict first second = false)

namespace Table

variable {ρ : Type} {conflict : ρ → ρ → Bool}

instance : Membership ρ (Table ρ conflict) where
  mem table row := row ∈ table.rows

instance [DecidableEq ρ] (row : ρ) (table : Table ρ conflict) :
    Decidable (row ∈ table) :=
  inferInstanceAs (Decidable (row ∈ table.rows))

@[ext] theorem ext {first second : Table ρ conflict}
    (equal : first.rows = second.rows) : first = second := by
  cases first
  cases second
  subst equal
  rfl

def empty : Table ρ conflict :=
  ⟨[], List.Pairwise.nil⟩

/-- A table of the given rows, if they respect the constraints. -/
def ofRows? (rows : List ρ) : Option (Table ρ conflict) :=
  if distinct : rows.Pairwise
      (fun first second => conflict first second = false) then
    some ⟨rows, distinct⟩
  else
    none

/-- `INSERT`: fails when an existing row conflicts with the new one. -/
def insert? (table : Table ρ conflict) (row : ρ) : Option (Table ρ conflict) :=
  ofRows? (table.rows ++ [row])

/-- `INSERT` of a row that conflicts with none. -/
def insert (table : Table ρ conflict) (row : ρ)
    (free : ∀ other ∈ table.rows, conflict other row = false) :
    Table ρ conflict :=
  ⟨table.rows ++ [row], by
    rw [List.pairwise_append]
    refine ⟨table.distinct, List.pairwise_singleton _ _, ?_⟩
    intro other member inserted last
    rw [List.mem_singleton.mp last]
    exact free other member⟩

/-- `DELETE ... WHERE selected`. -/
def delete (table : Table ρ conflict) (selected : ρ → Bool) :
    Table ρ conflict :=
  ⟨table.rows.filter (fun row => !selected row), table.distinct.filter _⟩

/-- `UPDATE ... SET change WHERE selected`: fails when the changed rows
conflict. -/
def update? (table : Table ρ conflict) (selected : ρ → Bool) (change : ρ → ρ) :
    Option (Table ρ conflict) :=
  ofRows? (table.rows.map (fun row => if selected row then change row else row))

/-- An `UPDATE` that leaves the constrained columns as they are. -/
def mapRows (table : Table ρ conflict) (change : ρ → ρ)
    (keeps : ∀ first second,
      conflict (change first) (change second) = conflict first second) :
    Table ρ conflict :=
  ⟨table.rows.map change, by
    rw [List.pairwise_map]
    simp only [keeps]
    exact table.distinct⟩

/-- `INSERT ... ON CONFLICT DO UPDATE SET change`: change the rows that share
the key of the new one, or insert it. -/
def upsert? (table : Table ρ conflict) (sameKey : ρ → Bool) (change : ρ → ρ)
    (row : ρ) : Option (Table ρ conflict) :=
  if table.rows.any sameKey then table.update? sameKey change
  else table.insert? row

/-- `SELECT ... WHERE selected`. -/
def select (table : Table ρ conflict) (selected : ρ → Bool) : List ρ :=
  table.rows.filter selected

/-- `SELECT ... WHERE selected LIMIT 1`. -/
def find? (table : Table ρ conflict) (selected : ρ → Bool) : Option ρ :=
  table.rows.find? selected

/-! ## Rows after a statement -/

@[simp] theorem mem_rows {table : Table ρ conflict} {row : ρ} :
    row ∈ table.rows ↔ row ∈ table :=
  Iff.rfl

theorem ofRows?_eq_some {rows : List ρ} {table : Table ρ conflict}
    (built : ofRows? rows = some table) : table.rows = rows := by
  unfold ofRows? at built
  split at built
  · cases built
    rfl
  · cases built

theorem mem_of_insert? {table after : Table ρ conflict} {inserted row : ρ}
    (insertion : table.insert? inserted = some after) :
    row ∈ after ↔ row ∈ table ∨ row = inserted := by
  rw [← mem_rows, ofRows?_eq_some insertion]
  simp

@[simp] theorem mem_insert {table : Table ρ conflict} {inserted : ρ}
    {free : ∀ other ∈ table.rows, conflict other inserted = false} {row : ρ} :
    row ∈ table.insert inserted free ↔ row ∈ table ∨ row = inserted := by
  rw [← mem_rows, insert]
  simp

theorem insert?_isSome {table : Table ρ conflict} {row : ρ}
    (free : ∀ other ∈ table, conflict other row = false) :
    ∃ after, table.insert? row = some after := by
  have distinct : (table.rows ++ [row]).Pairwise
      (fun first second => conflict first second = false) := by
    rw [List.pairwise_append]
    refine ⟨table.distinct, List.pairwise_singleton _ _, ?_⟩
    intro other member inserted last
    rw [List.mem_singleton.mp last]
    exact free other member
  exact ⟨⟨_, distinct⟩, by rw [insert?, ofRows?, dif_pos distinct]⟩

theorem conflict_false_of_insert? {table after : Table ρ conflict} {row : ρ}
    (insertion : table.insert? row = some after) :
    ∀ other ∈ table, conflict other row = false := by
  intro other member
  have distinct := after.distinct
  rw [ofRows?_eq_some insertion, List.pairwise_append] at distinct
  exact distinct.2.2 other member row (List.mem_singleton_self row)

@[simp] theorem mem_delete {table : Table ρ conflict} {selected : ρ → Bool}
    {row : ρ} :
    row ∈ table.delete selected ↔ row ∈ table ∧ selected row = false := by
  rw [← mem_rows, delete]
  simp

theorem mem_of_update? {table after : Table ρ conflict} {selected : ρ → Bool}
    {change : ρ → ρ} {row : ρ}
    (updated : table.update? selected change = some after) :
    row ∈ after ↔
      ∃ before ∈ table,
        (if selected before then change before else before) = row := by
  rw [← mem_rows, ofRows?_eq_some updated]
  simp

@[simp] theorem mem_mapRows {table : Table ρ conflict} {change : ρ → ρ}
    {keeps : ∀ first second,
      conflict (change first) (change second) = conflict first second}
    {row : ρ} :
    row ∈ table.mapRows change keeps ↔ ∃ before ∈ table, change before = row := by
  rw [← mem_rows, mapRows]
  simp

theorem update?_isSome {table : Table ρ conflict} {selected : ρ → Bool}
    {change : ρ → ρ}
    (keeps : table.rows.Pairwise (fun first second =>
      conflict (if selected first then change first else first)
        (if selected second then change second else second) = false)) :
    ∃ after, table.update? selected change = some after := by
  have distinct : (table.rows.map
      (fun row => if selected row then change row else row)).Pairwise
      (fun first second => conflict first second = false) := by
    rw [List.pairwise_map]
    exact keeps
  exact ⟨⟨_, distinct⟩, by rw [update?, ofRows?, dif_pos distinct]⟩

theorem ne_of_insert? {table after : Table ρ conflict} {row : ρ}
    (insertion : table.insert? row = some after) : after ≠ table := by
  rintro rfl
  have longer := congrArg List.length (ofRows?_eq_some insertion)
  rw [List.length_append, List.length_singleton] at longer
  omega

theorem update?_eq_self_iff {table after : Table ρ conflict}
    {selected : ρ → Bool} {change : ρ → ρ}
    (updated : table.update? selected change = some after) :
    after = table ↔ ∀ row ∈ table, selected row = true → change row = row := by
  have rows := ofRows?_eq_some updated
  constructor
  · rintro rfl row member chosen
    have same := List.map_inj_left.mp (rows.symm.trans (List.map_id _).symm) row
      member
    rw [if_pos chosen] at same
    exact same
  · intro settled
    apply ext
    rw [rows]
    refine (List.map_congr_left fun row member => ?_).trans (List.map_id _)
    split
    · next chosen => exact settled row member chosen
    · rfl

@[simp] theorem mem_select {table : Table ρ conflict} {selected : ρ → Bool}
    {row : ρ} :
    row ∈ table.select selected ↔ row ∈ table ∧ selected row = true := by
  simp [select]

theorem mem_of_find? {table : Table ρ conflict} {selected : ρ → Bool} {row : ρ}
    (found : table.find? selected = some row) :
    row ∈ table ∧ selected row = true :=
  ⟨List.mem_of_find?_eq_some found, List.find?_some found⟩

theorem find?_eq_none {table : Table ρ conflict} {selected : ρ → Bool} :
    table.find? selected = none ↔ ∀ row ∈ table, selected row = false := by
  simp [find?]

theorem eq_of_conflict {table : Table ρ conflict} {first second : ρ}
    (symmetric : ∀ left right, conflict left right = conflict right left)
    (firstMember : first ∈ table) (secondMember : second ∈ table)
    (conflicts : conflict first second = true) :
    first = second := by
  by_contra different
  have symm : Std.Symm (fun left right => conflict left right = false) :=
    ⟨fun left right free => by rw [symmetric, free]⟩
  have free := table.distinct.forall firstMember secondMember different
  rw [conflicts] at free
  cases free

theorem find?_eq_some_of_mem {table : Table ρ conflict} {selected : ρ → Bool}
    {row : ρ}
    (symmetric : ∀ left right, conflict left right = conflict right left)
    (key : ∀ other, selected other = true → conflict other row = true)
    (member : row ∈ table) (chosen : selected row = true) :
    table.find? selected = some row := by
  cases search : table.find? selected with
  | none =>
      have missed := find?_eq_none.mp search row member
      rw [chosen] at missed
      cases missed
  | some found =>
      rcases mem_of_find? search with ⟨foundMember, foundSelected⟩
      rw [eq_of_conflict symmetric foundMember member (key found foundSelected)]

/-! ## Frames -/

/-- Only rows with the property `own` differ between two tables. -/
def ChangesOnly (own : ρ → Prop) (before after : Table ρ conflict) : Prop :=
  ∀ row, ¬ own row → (row ∈ before ↔ row ∈ after)

theorem ChangesOnly.refl (own : ρ → Prop) (table : Table ρ conflict) :
    ChangesOnly own table table :=
  fun _ _ => Iff.rfl

theorem ChangesOnly.trans {own : ρ → Prop}
    {first second third : Table ρ conflict}
    (earlier : ChangesOnly own first second)
    (later : ChangesOnly own second third) :
    ChangesOnly own first third :=
  fun row foreign => (earlier row foreign).trans (later row foreign)

theorem changesOnly_insert? {own : ρ → Prop} {table after : Table ρ conflict}
    {row : ρ} (insertion : table.insert? row = some after) (owned : own row) :
    ChangesOnly own table after := by
  intro other foreign
  rw [mem_of_insert? insertion]
  constructor
  · exact Or.inl
  · rintro (member | equal)
    · exact member
    · exact absurd (equal ▸ owned) foreign

theorem changesOnly_delete {own : ρ → Prop} {table : Table ρ conflict}
    {selected : ρ → Bool}
    (owned : ∀ row ∈ table, selected row = true → own row) :
    ChangesOnly own table (table.delete selected) := by
  intro row foreign
  rw [mem_delete]
  constructor
  · intro member
    refine ⟨member, ?_⟩
    rw [Bool.eq_false_iff]
    exact fun chosen => foreign (owned row member chosen)
  · exact fun ⟨member, _⟩ => member

theorem changesOnly_update? {own : ρ → Prop} {table after : Table ρ conflict}
    {selected : ρ → Bool} {change : ρ → ρ}
    (updated : table.update? selected change = some after)
    (ownedBefore : ∀ row ∈ table, selected row = true → own row)
    (ownedAfter : ∀ row ∈ table, selected row = true → own (change row)) :
    ChangesOnly own table after := by
  intro row foreign
  rw [mem_of_update? updated]
  constructor
  · intro member
    refine ⟨row, member, if_neg ?_⟩
    exact fun chosen => foreign (ownedBefore row member chosen)
  · rintro ⟨before, member, changed⟩
    by_cases chosen : selected before = true
    · rw [if_pos chosen] at changed
      subst changed
      exact absurd (ownedAfter before member chosen) foreign
    · rw [if_neg chosen] at changed
      subst changed
      exact member

theorem changesOnly_upsert? {own : ρ → Prop} {table after : Table ρ conflict}
    {sameKey : ρ → Bool} {change : ρ → ρ} {row : ρ}
    (upserted : table.upsert? sameKey change row = some after)
    (ownedBefore : ∀ row ∈ table, sameKey row = true → own row)
    (ownedAfter : ∀ row ∈ table, sameKey row = true → own (change row))
    (owned : own row) : ChangesOnly own table after := by
  rw [upsert?] at upserted
  split at upserted
  · exact changesOnly_update? upserted ownedBefore ownedAfter
  · exact changesOnly_insert? upserted owned

end Table

theorem nodup_eraseDups [BEq ρ] [LawfulBEq ρ] :
    ∀ elements : List ρ, elements.eraseDups.Nodup
  | [] => List.nodup_nil
  | head :: rest => by
      rw [List.eraseDups_cons, List.nodup_cons]
      refine ⟨fun member => ?_, nodup_eraseDups _⟩
      rw [List.mem_eraseDups, List.mem_filter] at member
      simp at member
termination_by elements => elements.length
decreasing_by
  simp only [List.length_cons]
  exact Nat.lt_succ_of_le (List.length_filter_le _ rest)

end AimailGateway.Library
