import AimailGateway.Errors
import AimailGateway.Library.Sql
import AimailGateway.Library.Table
import Mathlib.Data.List.Perm.Basic
import Mathlib.Tactic.Tauto

/-! # Acknowledging pending deliveries

The two acknowledgements number the parameters of their statements by hand.
The one for a single address counts the two parameters of its scope among the
ids, so that it also looks for rows whose id is the number that the text of the
system or of the address stands for.
-/

namespace AimailGateway

open Library Sql

structure PendingDeliveryRecord where
  id : Int
  systemId : String
  domainAddr : String
  email : String
  headers : String
  payload : String
  status : String
  createdAt : String
  deriving DecidableEq, Repr

/-- `id INTEGER PRIMARY KEY`. -/
def PendingDeliveryRecord.conflict (first second : PendingDeliveryRecord) :
    Bool :=
  first.id == second.id

abbrev PendingTable := Table PendingDeliveryRecord PendingDeliveryRecord.conflict

namespace PendingDeliveries

/-- `DELETE FROM pending_deliveries WHERE system_id = ? AND email = ? AND id IN
(?, ..)`, with the numbers of its parameters. -/
structure AckStatement where
  systemId : Nat
  email : Option Nat
  ids : List Nat
  deriving DecidableEq, Repr

def AckStatement.numbers (statement : AckStatement) : List Nat :=
  statement.systemId :: statement.email.toList ++ statement.ids

/-- The row satisfies the statement's condition. -/
def AckStatement.selects (statement : AckStatement) (engine : Engine)
    (params : List Value) (row : PendingDeliveryRecord) : Bool :=
  (parameter params statement.systemId).any (equalsText row.systemId) &&
    statement.email.all (fun number =>
      (parameter params number).any (equalsText row.email)) &&
    statement.ids.any fun number =>
      (parameter params number).any (engine.equalsInteger row.id)

def AckStatement.execute (statement : AckStatement) (engine : Engine)
    (params : List Value) (table : PendingTable) :
    Except AppError (Nat × PendingTable) :=
  match engine.bind statement.numbers params with
  | .error message => .error (.database message)
  | .ok _ =>
      .ok ((table.select (statement.selects engine params)).length,
        table.delete (statement.selects engine params))

/-- `?1` to `?(n+2)`, the parameters of the scope included. -/
def byEmailStatement (count : Nat) : AckStatement where
  systemId := 1
  email := some 2
  ids := List.range' 1 (count + 2)

/-- `?2` to `?(n+1)`. -/
def bySystemStatement (count : Nat) : AckStatement where
  systemId := 1
  email := none
  ids := List.range' 2 count

/-- `ack_pending_by_email`. -/
def ackPendingByEmail (engine : Engine) (systemId email : String)
    (ids : List Int) (table : PendingTable) :
    Except AppError (Nat × PendingTable) :=
  if ids.isEmpty then
    .ok (0, table)
  else
    (byEmailStatement ids.length).execute engine
      (.text systemId :: .text email :: ids.map .integer) table

/-- `ack_deliveries`. -/
def ackDeliveries (engine : Engine) (systemId : String) (ids : List Int)
    (table : PendingTable) : Except AppError (Nat × PendingTable) :=
  if ids.isEmpty then
    .ok (0, table)
  else
    (bySystemStatement ids.length).execute engine
      (.text systemId :: ids.map .integer) table

/-! ## What the statements select -/

variable {engine : Engine} {systemId email : String} {ids : List Int}
  {table : PendingTable} {row : PendingDeliveryRecord}

theorem foldl_max_range' (start count highest : Nat) (below : highest ≤ start) :
    (List.range' (start + 1) count).foldl max highest =
      if count = 0 then highest else start + count := by
  induction count generalizing start highest with
  | zero => rfl
  | succ count induction =>
      rw [List.range'_succ, List.foldl_cons, Nat.max_eq_right (by omega),
        induction (start + 1) (start + 1) (Nat.le_refl _)]
      split <;> simp <;> omega

theorem any_parameter (front : List Value) (ids : List Int)
    (passes : Value → Bool) :
    ((List.range' (front.length + 1) ids.length).any fun number =>
      (parameter (front ++ ids.map .integer) number).any passes) =
        ids.any fun id => passes (.integer id) := by
  induction ids generalizing front with
  | nil => rfl
  | cons id ids induction =>
      have first : parameter (front ++ (id :: ids).map .integer)
          (front.length + 1) = some (.integer id) := by
        simp [parameter]
      have rest := induction (front ++ [.integer id])
      rw [List.length_append, List.length_singleton, List.append_assoc] at rest
      rw [List.length_cons, List.range'_succ, List.any_cons, first, List.any_cons]
      exact congrArg _ rest

theorem bySystem_selects :
    (bySystemStatement ids.length).selects engine
      (.text systemId :: ids.map .integer) row =
        (row.systemId == systemId && ids.any (row.id == ·)) := by
  have listed := any_parameter [.text systemId] ids (engine.equalsInteger row.id)
  unfold AckStatement.selects
  simp only [bySystemStatement, Option.all_none, Bool.and_true]
  exact congrArg _ listed

theorem byEmail_selects :
    (byEmailStatement ids.length).selects engine
      (.text systemId :: .text email :: ids.map .integer) row =
        (row.systemId == systemId && row.email == email &&
          (engine.numeric systemId == some row.id ||
            (engine.numeric email == some row.id || ids.any (row.id == ·)))) := by
  have listed := any_parameter [.text systemId, .text email] ids
    (engine.equalsInteger row.id)
  unfold AckStatement.selects
  simp only [byEmailStatement, List.range'_succ, List.any_cons]
  exact congrArg _ (congrArg _ (congrArg _ listed))

/-! ## What is acknowledged -/

/-- A row the address may acknowledge. -/
def Acked (systemId email : String) (ids : List Int)
    (row : PendingDeliveryRecord) : Prop :=
  row.id ∈ ids ∧ row.systemId = systemId ∧ row.email = email

/-- The acknowledgement of an address succeeds, deletes its rows and no others,
counts them, and agrees with the acknowledgement of the system on the rows of
the address. -/
def AcksExactly (engine : Engine) (systemId email : String) (ids : List Int)
    (table : PendingTable) : Prop :=
  ∃ count after, ackPendingByEmail engine systemId email ids table =
      .ok (count, after) ∧
    (∀ row, row ∈ after ↔ row ∈ table ∧ ¬ Acked systemId email ids row) ∧
    count + after.rows.length = table.rows.length ∧
    ∃ acked bySystem, ackDeliveries engine systemId ids table =
        .ok (acked, bySystem) ∧
      ∀ row, row ∈ after ↔ row ∈ table ∧ ¬ (row.email = email ∧ row ∉ bySystem)

/-- A row of the address whose id the text of the system or of the address
stands for is to be acknowledged anyway. -/
def NoStrayRow (engine : Engine) (systemId email : String) (ids : List Int)
    (table : PendingTable) : Prop :=
  ∀ row ∈ table, row.systemId = systemId → row.email = email →
    (engine.numeric systemId = some row.id ∨
      engine.numeric email = some row.id) → row.id ∈ ids

theorem byEmail_bind (nonempty : ids ≠ []) :
    engine.bind (byEmailStatement ids.length).numbers
        (.text systemId :: .text email :: ids.map .integer) =
      if engine.variableLimit < ids.length + 2 then
        .error ("variable number must be between ?1 and ?" ++
          toString engine.variableLimit)
      else .ok () := by
  have needed : (byEmailStatement ids.length).numbers.foldl max 0 =
      ids.length + 2 := by
    have all := foldl_max_range' 2 ids.length 2 (Nat.le_refl 2)
    rw [if_neg (fun none => nonempty (List.length_eq_zero_iff.mp none))] at all
    simp only [byEmailStatement, AckStatement.numbers, List.range'_succ,
      Option.toList_some, List.cons_append, List.nil_append, List.foldl_cons]
    rw [Nat.add_comm ids.length 2]
    exact all
  rw [Engine.bind, needed]
  split
  · rfl
  · rw [if_neg (by simp)]

theorem bySystem_bind (nonempty : ids ≠ []) :
    engine.bind (bySystemStatement ids.length).numbers
        (.text systemId :: ids.map .integer) =
      if engine.variableLimit < ids.length + 1 then
        .error ("variable number must be between ?1 and ?" ++
          toString engine.variableLimit)
      else .ok () := by
  have needed : (bySystemStatement ids.length).numbers.foldl max 0 =
      ids.length + 1 := by
    have all := foldl_max_range' 1 ids.length 1 (Nat.le_refl 1)
    rw [if_neg (fun none => nonempty (List.length_eq_zero_iff.mp none))] at all
    simp only [bySystemStatement, AckStatement.numbers, Option.toList_none,
      List.cons_append, List.nil_append, List.foldl_cons]
    rw [Nat.add_comm ids.length 1]
    exact all
  rw [Engine.bind, needed]
  split
  · rfl
  · rw [if_neg (by simp)]

theorem ackPendingByEmail_ok (nonempty : ids ≠ [])
    (fits : ids.length + 2 ≤ engine.variableLimit) :
    ackPendingByEmail engine systemId email ids table =
      .ok ((table.select ((byEmailStatement ids.length).selects engine
          (.text systemId :: .text email :: ids.map .integer))).length,
        table.delete ((byEmailStatement ids.length).selects engine
          (.text systemId :: .text email :: ids.map .integer))) := by
  rw [ackPendingByEmail, List.isEmpty_eq_false_iff.mpr nonempty,
    if_neg Bool.false_ne_true, AckStatement.execute, byEmail_bind nonempty,
    if_neg (Nat.not_lt_of_le fits)]

theorem ackPendingByEmail_error (nonempty : ids ≠ [])
    (exceeds : engine.variableLimit < ids.length + 2) :
    ackPendingByEmail engine systemId email ids table =
      .error (.database ("variable number must be between ?1 and ?" ++
        toString engine.variableLimit)) := by
  rw [ackPendingByEmail, List.isEmpty_eq_false_iff.mpr nonempty,
    if_neg Bool.false_ne_true, AckStatement.execute, byEmail_bind nonempty,
    if_pos exceeds]

theorem ackDeliveries_ok (nonempty : ids ≠ [])
    (fits : ids.length + 1 ≤ engine.variableLimit) :
    ackDeliveries engine systemId ids table =
      .ok ((table.select ((bySystemStatement ids.length).selects engine
          (.text systemId :: ids.map .integer))).length,
        table.delete ((bySystemStatement ids.length).selects engine
          (.text systemId :: ids.map .integer))) := by
  rw [ackDeliveries, List.isEmpty_eq_false_iff.mpr nonempty,
    if_neg Bool.false_ne_true, AckStatement.execute, bySystem_bind nonempty,
    if_neg (Nat.not_lt_of_le fits)]

theorem mem_byEmail_delete :
    row ∈ table.delete ((byEmailStatement ids.length).selects engine
        (.text systemId :: .text email :: ids.map .integer)) ↔
      row ∈ table ∧ ¬ (row.systemId = systemId ∧ row.email = email ∧
        (engine.numeric systemId = some row.id ∨
          engine.numeric email = some row.id ∨ row.id ∈ ids)) := by
  rw [Table.mem_delete, byEmail_selects, ← Bool.not_eq_true]
  simp [and_assoc]

theorem mem_bySystem_delete :
    row ∈ table.delete ((bySystemStatement ids.length).selects engine
        (.text systemId :: ids.map .integer)) ↔
      row ∈ table ∧ ¬ (row.systemId = systemId ∧ row.id ∈ ids) := by
  rw [Table.mem_delete, bySystem_selects, ← Bool.not_eq_true]
  simp

theorem length_select_add_delete (selected : PendingDeliveryRecord → Bool) :
    (table.select selected).length + (table.delete selected).rows.length =
      table.rows.length := by
  have parts := (List.filter_append_perm selected table.rows).length_eq
  rw [List.length_append] at parts
  exact parts

theorem NoStrayRow.exact (noStray : NoStrayRow engine systemId email ids table)
    (row : PendingDeliveryRecord) :
    row ∈ table.delete ((byEmailStatement ids.length).selects engine
        (.text systemId :: .text email :: ids.map .integer)) ↔
      row ∈ table ∧ ¬ Acked systemId email ids row := by
  rw [mem_byEmail_delete]
  constructor
  · rintro ⟨member, kept⟩
    exact ⟨member, fun asked => kept
      ⟨asked.2.1, asked.2.2, .inr (.inr asked.1)⟩⟩
  · rintro ⟨member, notAsked⟩
    refine ⟨member, ?_⟩
    rintro ⟨system, address, stands⟩
    apply notAsked
    refine ⟨?_, system, address⟩
    rcases stands with stands | stands | asked
    · exact noStray row member system address (.inl stands)
    · exact noStray row member system address (.inr stands)
    · exact asked

/-- The acknowledgement of an address does what it should exactly when the
parameters fit into a statement and no row is meant by the text of the scope
alone. -/
theorem acksExactly_iff (engine : Engine) (systemId email : String)
    (ids : List Int) (table : PendingTable) :
    AcksExactly engine systemId email ids table ↔
      ids = [] ∨ ids.length + 2 ≤ engine.variableLimit ∧
        NoStrayRow engine systemId email ids table := by
  by_cases empty : ids = []
  · subst empty
    constructor
    · intro _
      exact .inl rfl
    · intro _
      refine ⟨0, table, rfl, ?_, Nat.zero_add _, 0, table, rfl, ?_⟩
      · intro row
        simp [Acked]
      · intro row
        constructor
        · intro member
          exact ⟨member, fun gone => gone.2 member⟩
        · exact fun kept => kept.1
  · constructor
    · rintro ⟨count, after, acked, exactRows, -⟩
      by_cases exceeds : engine.variableLimit < ids.length + 2
      · rw [ackPendingByEmail_error empty exceeds] at acked
        cases acked
      · rw [ackPendingByEmail_ok empty (Nat.le_of_not_lt exceeds)] at acked
        cases acked
        refine .inr ⟨Nat.le_of_not_lt exceeds, ?_⟩
        intro row member system address stands
        by_contra other
        have kept := (exactRows row).mpr ⟨member, fun asked => other asked.1⟩
        exact (mem_byEmail_delete.mp kept).2
          ⟨system, address, stands.imp_right .inl⟩
    · rintro (none | ⟨fits, noStray⟩)
      · exact absurd none empty
      · have exactRows := noStray.exact
        refine ⟨_, _, ackPendingByEmail_ok empty fits, exactRows,
          length_select_add_delete _, _, _,
          ackDeliveries_ok empty (Nat.le_of_succ_le fits), ?_⟩
        intro row
        rw [exactRows, mem_bySystem_delete]
        simp only [Acked]
        tauto

/-! ## A stray row -/

def sampleDelivery (id : Int) : PendingDeliveryRecord where
  id := id
  systemId := "7"
  domainAddr := "a.test"
  email := "bob@a.test"
  headers := "\x7b\x7d"
  payload := "\x7b\x7d"
  status := "pending"
  createdAt := "2026-01-01T00:00:00Z"

def sampleDeliveries : PendingTable :=
  Table.empty.insert (sampleDelivery 1) (fun _ other => by cases other)
    |>.insert (sampleDelivery 7) (by decide)

/-- SQLite as far as it reads numbers without sign, point and exponent. -/
def plainEngine : Engine where
  numeric := fun text =>
    if text.toList.isEmpty || !text.toList.all Char.isDigit then none
    else some (text.toList.foldl
      (fun value digit => 10 * value + (digit.toNat - '0'.toNat : Nat)) 0)
  variableLimit := 32766

/-- The acknowledgement of row 1 by an address of the system `7` deletes row 7
too. -/
theorem system_seven_loses_row :
    ¬ AcksExactly plainEngine "7" "bob@a.test" [1] sampleDeliveries := by
  rintro ⟨count, after, acked, exactly_, -⟩
  cases acked
  have kept := (exactly_ (sampleDelivery 7)).mpr ⟨by decide, fun asked =>
    absurd asked.1 (by decide)⟩
  exact (mem_byEmail_delete.mp kept).2 ⟨rfl, rfl, .inl (by decide +kernel)⟩

end PendingDeliveries

end AimailGateway
