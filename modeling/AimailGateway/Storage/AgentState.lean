import AimailGateway.Storage.Call

/-! # Statements on `agent_state` -/

namespace AimailGateway

open Library

namespace Storage

/-! ## The state of an agent -/

def isStateRow (agentAddr stateKey : String) (row : AgentStateRecord) : Bool :=
  row.agentAddr == agentAddr && row.stateKey == stateKey

section Statements

variable (env : Surroundings)

def agentStateGet (agentAddr stateKey : String) :
    Storage (Option (String × String)) :=
  query env fun db =>
    (db.agentState.find? (isStateRow agentAddr stateKey)).map fun row =>
      (row.stateKey, row.stateValue)

def newAgentState (agentAddr stateKey stateValue : String)
    (createdAt : Timestamp) : AgentStateRecord where
  agentAddr := agentAddr
  stateKey := stateKey
  stateValue := stateValue
  createdAt := createdAt
  updatedAt := createdAt

/-- `DO UPDATE SET state_value = excluded.state_value, …`: the creation time
stays. -/
def overwriteState (excluded row : AgentStateRecord) : AgentStateRecord :=
  { row with
    stateValue := excluded.stateValue
    updatedAt := excluded.updatedAt }

def agentStatePut (agentAddr stateKey stateValue : String) : Storage Unit := do
  let createdAt ← now env
  call env fun db =>
    let record := newAgentState agentAddr stateKey stateValue createdAt
    match db.agentState.upsert? (isStateRow agentAddr stateKey)
        (overwriteState record) record with
    | some agentState => .ok ((), { db with agentState })
    | none => .error constraintFailed

def agentStateDelete (agentAddr stateKey : String) : Storage Unit :=
  call env fun db =>
    .ok ((), { db with
      agentState := db.agentState.delete (isStateRow agentAddr stateKey) })

end Statements

end Storage

/-! ## What the statements do to the values -/

def Database.agentStateAt (db : Database) (agentAddr stateKey : String) :
    Option String :=
  (db.agentState.find? (Storage.isStateRow agentAddr stateKey)).map
    (·.stateValue)

namespace Storage

theorem isStateRow_iff {agentAddr stateKey : String} {row : AgentStateRecord} :
    isStateRow agentAddr stateKey row = true ↔
      row.agentAddr = agentAddr ∧ row.stateKey = stateKey := by
  simp [isStateRow]

theorem conflict_state_comm (first second : AgentStateRecord) :
    first.conflict second = second.conflict first := by
  simp only [AgentStateRecord.conflict, Bool.beq_comm]

theorem agentStateAt_eq_some {db : Database}
    {agentAddr stateKey value : String} :
    db.agentStateAt agentAddr stateKey = some value ↔
      ∃ row ∈ db.agentState, row.agentAddr = agentAddr ∧
        row.stateKey = stateKey ∧ row.stateValue = value := by
  rw [Database.agentStateAt, Option.map_eq_some_iff]
  constructor
  · rintro ⟨row, found, same⟩
    rcases Table.mem_of_find? found with ⟨member, chosen⟩
    rw [isStateRow_iff] at chosen
    exact ⟨row, member, chosen.1, chosen.2, same⟩
  · rintro ⟨row, member, agent, key, same⟩
    refine ⟨row, ?_, same⟩
    apply Table.find?_eq_some_of_mem conflict_state_comm _ member
    · simp [isStateRow, agent, key]
    · intro other chosen
      rw [isStateRow_iff] at chosen
      simp [AgentStateRecord.conflict, chosen, agent, key]

theorem upsertState_isSome (table : AgentState)
    (agentAddr stateKey stateValue : String) (createdAt : Timestamp) :
    ∃ after, table.upsert? (isStateRow agentAddr stateKey)
      (overwriteState (newAgentState agentAddr stateKey stateValue createdAt))
      (newAgentState agentAddr stateKey stateValue createdAt) = some after := by
  rw [Table.upsert?]
  split
  · apply Table.update?_isSome
    refine table.distinct.imp ?_
    intro first second free
    have kept : ∀ excluded row : AgentStateRecord,
        (if isStateRow agentAddr stateKey row then overwriteState excluded row
          else row).agentAddr = row.agentAddr ∧
        (if isStateRow agentAddr stateKey row then overwriteState excluded row
          else row).stateKey = row.stateKey := by
      intro excluded row
      split
      · exact ⟨rfl, rfl⟩
      · exact ⟨rfl, rfl⟩
    simp only [AgentStateRecord.conflict, kept] at free ⊢
    exact free
  · next absent =>
      apply Table.insert?_isSome
      intro other member
      rw [Bool.not_eq_true, List.any_eq_false] at absent
      have free := absent other member
      rw [Bool.not_eq_true] at free
      exact free

theorem agentStateAt_upsert {db : Database} {after : AgentState}
    {agentAddr stateKey stateValue : String} {createdAt : Timestamp}
    (upserted : db.agentState.upsert? (isStateRow agentAddr stateKey)
      (overwriteState (newAgentState agentAddr stateKey stateValue createdAt))
      (newAgentState agentAddr stateKey stateValue createdAt) = some after)
    (agent key : String) :
    ({ db with agentState := after } : Database).agentStateAt agent key =
      if agent = agentAddr ∧ key = stateKey then some stateValue
      else db.agentStateAt agent key := by
  rw [Table.upsert?] at upserted
  apply Option.ext
  intro value
  rw [agentStateAt_eq_some]
  split at upserted
  · next present =>
      simp only [Table.mem_of_update? upserted]
      rw [List.any_eq_true] at present
      rcases present with ⟨own, ownMember, ownKey⟩
      split
      · next same =>
          rcases same with ⟨rfl, rfl⟩
          constructor
          · rintro ⟨_, ⟨row, member, rfl⟩, sameAgent, sameKey, rfl⟩
            by_cases chosen : isStateRow agent key row
            · rw [if_pos chosen]
              rfl
            · rw [if_neg chosen] at sameAgent sameKey
              exact absurd (isStateRow_iff.mpr ⟨sameAgent, sameKey⟩) chosen
          · rintro ⟨⟩
            rw [isStateRow_iff] at ownKey
            refine ⟨_, ⟨own, ownMember, rfl⟩, ?_⟩
            rw [if_pos (isStateRow_iff.mpr ownKey)]
            exact ⟨ownKey.1, ownKey.2, rfl⟩
      · next different =>
          rw [agentStateAt_eq_some]
          constructor
          · rintro ⟨_, ⟨row, member, rfl⟩, sameAgent, sameKey, rfl⟩
            by_cases chosen : isStateRow agentAddr stateKey row
            · rw [if_pos chosen] at sameAgent sameKey
              rw [isStateRow_iff] at chosen
              exact absurd ⟨sameAgent.symm.trans chosen.1,
                sameKey.symm.trans chosen.2⟩ different
            · rw [if_neg chosen] at sameAgent sameKey ⊢
              exact ⟨row, member, sameAgent, sameKey, rfl⟩
          · rintro ⟨row, member, rfl, rfl, rfl⟩
            refine ⟨row, ⟨row, member, if_neg ?_⟩, rfl, rfl, rfl⟩
            rw [isStateRow_iff]
            exact different
  · next absent =>
      rw [Bool.not_eq_true, List.any_eq_false] at absent
      simp only [Table.mem_of_insert? upserted]
      split
      · next same =>
          rcases same with ⟨rfl, rfl⟩
          constructor
          · rintro ⟨row, member | rfl, sameAgent, sameKey, rfl⟩
            · exact absurd (isStateRow_iff.mpr ⟨sameAgent, sameKey⟩)
                (absent row member)
            · rfl
          · rintro ⟨⟩
            exact ⟨_, .inr rfl, rfl, rfl, rfl⟩
      · next different =>
          rw [agentStateAt_eq_some]
          constructor
          · rintro ⟨row, member | rfl, sameAgent, sameKey, rfl⟩
            · exact ⟨row, member, sameAgent, sameKey, rfl⟩
            · exact absurd ⟨sameAgent.symm, sameKey.symm⟩ different
          · rintro ⟨row, member, fields⟩
            exact ⟨row, .inl member, fields⟩

theorem agentStateAt_delete (db : Database)
    (agentAddr stateKey agent key : String) :
    ({ db with
        agentState := db.agentState.delete (isStateRow agentAddr stateKey) } :
      Database).agentStateAt agent key =
      if agent = agentAddr ∧ key = stateKey then none
      else db.agentStateAt agent key := by
  apply Option.ext
  intro value
  simp only [agentStateAt_eq_some, Table.mem_delete]
  split
  · next same =>
      rcases same with ⟨rfl, rfl⟩
      constructor
      · rintro ⟨row, ⟨-, free⟩, sameAgent, sameKey, -⟩
        rw [isStateRow_iff.mpr ⟨sameAgent, sameKey⟩] at free
        cases free
      · rintro ⟨⟩
  · next different =>
      rw [agentStateAt_eq_some]
      constructor
      · rintro ⟨row, ⟨member, -⟩, fields⟩
        exact ⟨row, member, fields⟩
      · rintro ⟨row, member, rfl, rfl, rfl⟩
        refine ⟨row, ⟨member, ?_⟩, rfl, rfl, rfl⟩
        rw [Bool.eq_false_iff, ne_eq, isStateRow_iff]
        exact different

/-! ## Calls without faults -/

section Calm

open Action

variable {env : Surroundings} {world : World}
  {failed : AppError → World → Prop}
  {ok : Unit → World → Prop} {agentAddr stateKey : String}

theorem agentStateGet_ends (calm : env.Calm)
    {ok : Option (String × String) → World → Prop} :
    (agentStateGet env agentAddr stateKey).Ends ok failed world ↔
      ok ((world.db.agentStateAt agentAddr stateKey).map (stateKey, ·))
        world.later := by
  rw [agentStateGet, calm.ends_query, Database.agentStateAt, Option.map_map]
  cases found : world.db.agentState.find? (isStateRow agentAddr stateKey) with
  | none => rfl
  | some row =>
      have key := (isStateRow_iff.mp (Table.mem_of_find? found).2).2
      simp [key]

theorem agentStatePut_ends (calm : env.Calm)
    {agentAddr stateKey stateValue : String}
    (stored : ∀ later : World, (∀ agent key,
      later.db.agentStateAt agent key =
        if agent = agentAddr ∧ key = stateKey then some stateValue
        else world.db.agentStateAt agent key) → ok () later) :
    (agentStatePut env agentAddr stateKey stateValue).Ends ok failed world := by
  rw [agentStatePut, ends_bind, ends_now]
  rcases upsertState_isSome world.db.agentState agentAddr stateKey stateValue
    (env.clock world.tick) with ⟨after, upserted⟩
  simp only [ends_call, calm world.later.tick, World.later_db, upserted]
  refine ⟨by rintro _ ⟨⟩, fun _ => ⟨by rintro _ ⟨⟩, ?_⟩⟩
  intro _ db executed
  cases executed
  apply stored
  exact agentStateAt_upsert upserted

theorem agentStateDelete_ends (calm : env.Calm)
    (stored : ∀ later : World, (∀ agent key,
      later.db.agentStateAt agent key =
        if agent = agentAddr ∧ key = stateKey then none
        else world.db.agentStateAt agent key) → ok () later) :
    (agentStateDelete env agentAddr stateKey).Ends ok failed world := by
  rw [agentStateDelete, calm.ends_call rfl]
  apply stored
  exact agentStateAt_delete world.db agentAddr stateKey

end Calm

end Storage

end AimailGateway
