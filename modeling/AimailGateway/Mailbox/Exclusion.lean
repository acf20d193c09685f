import AimailGateway.Mailbox.Connections
import Mathlib.Order.Basic

/-! # One client at a time

While a connection is served its client holds the slot; once its connections
are over the slot is free. Both need orderly steps.
-/

namespace AimailGateway.Mailbox

open Library SingleSlotLock

variable {state next : System} {event : Event} {now : Instant}
  {connection : Connection} {id : Nat} {claim : Claim}
  {holder : SlotHolder} {keyId : Int}

/-! ## What a connection stands for -/

namespace Connection

def stream : Connection → Option Claim
  | .opening claim | .streaming claim _ => some claim
  | _ => none

def poll : Connection → Option Claim
  | .polling claim | .pollEnded claim _ => some claim
  | _ => none

def gone : Connection → Option (Claim × Instant)
  | .rotated claim ended | .streamEnded claim ended => some (claim, ended)
  | _ => none

/-- The claim of a connection that has not ended, and the end of its lease. -/
def lease : Connection → Option (Claim × Instant)
  | .opening claim | .streaming claim _ =>
      some (claim, claim.acquired + slotStreamLease)
  | .polling claim => some (claim, claim.acquired + slotPollLease)
  | _ => none

theorem served_lease {connection : Connection} {claim : Claim}
    (young : ∀ claim, connection.stream = some claim →
      now < claim.acquired + slotStreamLease)
    (served : connection.served now = some claim) :
    ∃ deadline, connection.lease = some (claim, deadline) ∧
      now < deadline := by
  cases connection with
  | opening own =>
      cases served
      exact ⟨_, rfl, young _ rfl⟩
  | streaming own started =>
      cases served
      exact ⟨_, rfl, young _ rfl⟩
  | polling own =>
      simp only [Connection.served] at served
      split at served
      · cases served
        exact ⟨_, rfl, ‹_›⟩
      · cases served
  | _ => cases served

theorem lease_served {connection : Connection} {claim : Claim}
    {deadline : Instant} (lease : connection.lease = some (claim, deadline))
    (live : now < deadline) : connection.served now = some claim := by
  cases connection with
  | opening own =>
      cases lease
      rfl
  | streaming own started =>
      cases lease
      rfl
  | polling own =>
      cases lease
      simp only [Connection.served]
      rw [if_pos live]
  | _ => cases lease

end Connection

/-! ## The invariant -/

/-- The holder is active up to the deadline, in favour of the claim. -/
def Holds (lock : SingleSlotLock) (claim : Claim) (deadline : Instant) :
    Prop :=
  ∃ holder, lock claim.keyId = some holder ∧
    holder.clientId = claim.clientId ∧ holder.graceUntil = none ∧
    deadline ≤ holder.expiresAt

/-- Why a slot is held: its grace is that of a stream that has ended; or a
stream is still there; or its lease is that of a poll. -/
def Accounted (state : System) (keyId : Int) (holder : SlotHolder) : Prop :=
  (∃ grace, holder.graceUntil = some grace ∧
    (grace ≤ state.now ∨ ∃ id claim ended,
      (state.connections id).gone = some (claim, ended) ∧
        claim.keyId = keyId ∧ claim.clientId = holder.clientId ∧
        grace ≤ ended + slotGrace)) ∨
  (∃ id claim, (state.connections id).stream = some claim ∧
    claim.keyId = keyId ∧ claim.clientId = holder.clientId) ∨
  (holder.graceUntil = none ∧ ∃ id claim,
    (state.connections id).poll = some claim ∧
      claim.keyId = keyId ∧ claim.clientId = holder.clientId ∧
      holder.expiresAt ≤ claim.acquired + slotPollLease)

structure Sound (state : System) : Prop where
  young : ∀ id claim, (state.connections id).stream = some claim →
    state.now < claim.acquired + slotStreamLease
  past : ∀ id claim, (state.connections id).poll = some claim →
    claim.acquired ≤ state.now
  held : ∀ id claim deadline,
    (state.connections id).lease = some (claim, deadline) →
    state.now < deadline → Holds state.lock claim deadline
  accounted : ∀ keyId holder, state.lock keyId = some holder →
    Accounted state keyId holder

theorem start_sound : Sound .start where
  young _ _ found := by cases found
  past _ _ found := by cases found
  held _ _ _ found := by cases found
  accounted _ _ found := by cases found

theorem connections_moved (holds : Nat → Connection → Prop)
    (others : ∀ other, other ≠ id → holds other (state.connections other))
    (moved : holds id connection) (other : Nat) :
    holds other ((state.setConnection id connection).connections other) := by
  by_cases same : other = id
  · subst same
    rw [System.setConnection_self]
    exact moved
  · rw [System.setConnection_other _ _ same]
    exact others other same

/-- What a connection accounts for, its next stage accounts for. -/
structure Connection.Continues (connection later : Connection) : Prop where
  stream : ∀ claim, connection.stream = some claim → later.stream = some claim
  poll : ∀ claim, connection.poll = some claim → later.poll = some claim
  gone : ∀ ended, connection.gone = some ended → later.gone = some ended

theorem Connection.Continues.refl (connection : Connection) :
    connection.Continues connection :=
  ⟨fun _ found => found, fun _ found => found, fun _ found => found⟩

theorem Connection.fresh_continues (later : Connection) :
    Connection.fresh.Continues later :=
  ⟨fun _ found => (by cases found), fun _ found => (by cases found),
    fun _ found => (by cases found)⟩

theorem Accounted.continues
    (accounted : Accounted state keyId holder) (later : state.now ≤ next.now)
    (continues : ∀ id,
      (state.connections id).Continues (next.connections id)) :
    Accounted next keyId holder := by
  rcases accounted with ⟨grace, released, past | gone⟩ | stream | poll
  · exact .inl ⟨grace, released, .inl (Nat.le_trans past later)⟩
  · rcases gone with ⟨id, claim, ended, found, rest⟩
    exact .inl ⟨grace, released,
      .inr ⟨id, claim, ended, (continues id).gone _ found, rest⟩⟩
  · rcases stream with ⟨id, claim, found, rest⟩
    exact .inr (.inl ⟨id, claim, (continues id).stream _ found, rest⟩)
  · rcases poll with ⟨active, id, claim, found, rest⟩
    exact .inr (.inr ⟨active, id, claim, (continues id).poll _ found, rest⟩)

/-! ## Steps -/

theorem elapsed_sound {duration : Instant} (sound : Sound state)
    (orderly : Orderly state (.elapsed duration)) :
    Sound { state with now := state.now + duration } where
  young id claim found := by
    have lasts := orderly id claim
    cases stage : state.connections id with
    | opening own =>
        rw [stage] at found
        cases found
        exact lasts 0 (.inl stage)
    | streaming own started =>
        rw [stage] at found
        cases found
        exact lasts started (.inr stage)
    | _ =>
        rw [stage] at found
        cases found
  past id claim found :=
    Nat.le_trans (sound.past id claim found) (Nat.le_add_right _ _)
  held id claim deadline found live :=
    sound.held id claim deadline found
      (Nat.lt_of_le_of_lt (Nat.le_add_right _ _) live)
  accounted keyId holder found :=
    (sound.accounted keyId holder found).continues (Nat.le_add_right _ _)
      fun id => Connection.Continues.refl _

theorem setConnection_sound (sound : Sound state)
    (stream : ∀ claim, connection.stream = some claim →
      (state.connections id).stream = some claim)
    (poll : ∀ claim, connection.poll = some claim →
      (state.connections id).poll = some claim)
    (lease : ∀ claimed, connection.lease = some claimed →
      (state.connections id).lease = some claimed)
    (continues : (state.connections id).Continues connection) :
    Sound (state.setConnection id connection) where
  young := connections_moved
    (fun _ connection => ∀ claim, connection.stream = some claim →
      state.now < claim.acquired + slotStreamLease)
    (fun own _ => sound.young own)
    (fun claim found => sound.young id claim (stream claim found))
  past := connections_moved
    (fun _ connection => ∀ claim, connection.poll = some claim →
      claim.acquired ≤ state.now)
    (fun other _ => sound.past other)
    (fun claim found => sound.past id claim (poll claim found))
  held := connections_moved
    (fun _ connection => ∀ claim deadline,
      connection.lease = some (claim, deadline) → state.now < deadline →
        Holds state.lock claim deadline)
    (fun other _ => sound.held other)
    (fun claim deadline found =>
      sound.held id claim deadline (lease _ found))
  accounted keyId holder found :=
    (sound.accounted keyId holder found).continues (Nat.le_refl _)
      (connections_moved
        (fun other connection =>
          (state.connections other).Continues connection)
        (fun _ _ => Connection.Continues.refl _) continues)

theorem request_holds (claim : Claim) {other : Claim} (lease : Instant)
    {deadline : Instant} (holds : Holds state.lock other deadline) (live : state.now < deadline) :
    Holds (state.lock.tryAcquire state.now claim.keyId claim.clientId lease).2
      other deadline := by
  rcases holds with ⟨holder, held, client, active, lasts⟩
  cases granted : SingleSlotLock.claim state.now claim.clientId
      (state.now + lease) (state.lock claim.keyId) with
  | none =>
      simp only [tryAcquire, granted]
      exact ⟨holder, held, client, active, lasts⟩
  | some later =>
      simp only [tryAcquire, granted]
      by_cases key : other.keyId = claim.keyId
      · have slot : state.lock claim.keyId = some holder := key ▸ held
        rw [slot] at granted
        by_cases same : holder.clientId = claim.clientId
        · have known := claim_granted granted
          have longer := claim_refresh active same granted
          refine ⟨later, ?_, known.1.trans (same.symm.trans client),
            known.2.1, ?_⟩
          · rw [key, Function.update_self]
          · rw [longer]
            exact Nat.le_trans lasts (Nat.le_max_left _ _)
        · have refused : SingleSlotLock.claim state.now claim.clientId
              (state.now + lease) (some holder) = none :=
            claim_refused same active (Nat.lt_of_lt_of_le live lasts)
          rw [refused] at granted
          cases granted
      · refine ⟨holder, ?_, client, active, lasts⟩
        rw [Function.update_of_ne key]
        exact held

/-- What a request says about the connection it comes from. -/
structure Grants (claim : Claim) (lease : Instant)
    (connection : Connection) : Prop where
  leased : connection.lease = some (claim, claim.acquired + lease)
  kind : (connection.stream = some claim ∧ connection.poll = none ∧
      lease = slotStreamLease) ∨
    (connection.poll = some claim ∧ connection.stream = none ∧
      lease = slotPollLease)

theorem opening_grants (claim : Claim) :
    Grants claim slotStreamLease (.opening claim) :=
  ⟨rfl, .inl ⟨rfl, rfl, rfl⟩⟩

theorem polling_grants (claim : Claim) :
    Grants claim slotPollLease (.polling claim) :=
  ⟨rfl, .inr ⟨rfl, rfl, rfl⟩⟩

theorem poll_deadline {clientId : String}
    {holder later : SlotHolder} (sound : Sound state)
    (accounted : Accounted state keyId holder)
    (granted : SingleSlotLock.claim state.now clientId
      (state.now + slotPollLease) (some holder) = some later) :
    (∃ id claim, (state.connections id).stream = some claim ∧
      claim.keyId = keyId ∧ claim.clientId = later.clientId) ∨
    later.expiresAt ≤ state.now + slotPollLease := by
  by_cases same : holder.clientId = clientId
  · rcases accounted with ⟨grace, released, _⟩ | stream | poll
    · right
      have fresh := claim_fresh (.inr (by rw [released]; exact nofun)) granted
      exact Nat.le_of_eq fresh
    · left
      rcases stream with ⟨id, claim, found, key, client⟩
      exact ⟨id, claim, found, key,
        client.trans (same.trans (claim_granted granted).1.symm)⟩
    · right
      rcases poll with ⟨active, id, claim, found, _, _, short⟩
      rw [claim_refresh active same granted]
      have past := sound.past id claim found
      exact Nat.max_le.mpr ⟨Nat.le_trans short (Nat.add_le_add_right past _),
        Nat.le_refl _⟩
  · right
    exact Nat.le_of_eq (claim_fresh (.inl same) granted)

theorem request_accounted {lease : Instant}
    {later : SlotHolder} (sound : Sound state)
    (now : claim.acquired = state.now) (grants : Grants claim lease connection)
    (stage : state.connections id = .fresh)
    (granted : SingleSlotLock.claim state.now claim.clientId
      (state.now + lease) (state.lock claim.keyId) = some later) :
    Accounted (state.setConnection id connection) claim.keyId later := by
  have known := claim_granted granted
  have own := state.setConnection_self id connection
  rcases grants.kind with ⟨stream, _, _⟩ | ⟨poll, _, rfl⟩
  · refine .inr (.inl ⟨id, claim, ?_, rfl, known.1.symm⟩)
    rw [own, stream]
  · have polled (short : later.expiresAt ≤ state.now + slotPollLease) :
        Accounted (state.setConnection id connection) claim.keyId later := by
      refine .inr (.inr ⟨known.2.1, id, claim, ?_, rfl, known.1.symm, ?_⟩)
      · rw [own, poll]
      · rw [now]
        exact short
    cases slot : state.lock claim.keyId with
    | none =>
        rw [slot] at granted
        cases granted
        exact polled (Nat.le_refl _)
    | some holder =>
        rw [slot] at granted
        rcases poll_deadline sound (sound.accounted _ _ slot) granted with
          ⟨other, another, found, key, client⟩ | short
        · refine .inr (.inl ⟨other, another, ?_, key, client⟩)
          have different : other ≠ id := by
            rintro rfl
            rw [stage] at found
            cases found
          rw [System.setConnection_other _ _ different, found]
        · exact polled short

theorem fresh_moves_continue
    (stage : state.connections id = .fresh) (connection : Connection) :
    ∀ other, (state.connections other).Continues
      ((state.setConnection id connection).connections other) :=
  connections_moved
    (fun other connection => (state.connections other).Continues connection)
    (fun _ _ => Connection.Continues.refl _)
    (by rw [stage]; exact Connection.fresh_continues _)

theorem refused_sound (sound : Sound state)
    (stage : state.connections id = .fresh) :
    Sound (state.setConnection id .refused) := by
  refine setConnection_sound sound ?_ ?_ ?_ ?_
  · exact fun _ found => (by cases found)
  · exact fun _ found => (by cases found)
  · exact fun _ found => (by cases found)
  · rw [stage]
    exact Connection.fresh_continues _

theorem granted_sound {lease : Instant}
    {later : SlotHolder} (sound : Sound state)
    (now : claim.acquired = state.now) (grants : Grants claim lease connection)
    (stage : state.connections id = .fresh)
    (granted : SingleSlotLock.claim state.now claim.clientId
      (state.now + lease) (state.lock claim.keyId) = some later) :
    Sound { state.setConnection id connection with
      lock := Function.update state.lock claim.keyId (some later) } where
  young := by
    refine connections_moved
      (fun _ connection => ∀ claim, connection.stream = some claim →
        state.now < claim.acquired + slotStreamLease)
      (fun own _ => sound.young own) ?_
    intro other found
    rcases grants.kind with ⟨stream, _, _⟩ | ⟨_, none, _⟩
    · rw [stream] at found
      cases found
      rw [now]
      exact Nat.lt_add_of_pos_right (by decide)
    · rw [none] at found
      cases found
  past := by
    refine connections_moved
      (fun _ connection => ∀ claim, connection.poll = some claim →
        claim.acquired ≤ state.now)
      (fun own _ => sound.past own) ?_
    intro other found
    rcases grants.kind with ⟨_, none, _⟩ | ⟨poll, _, _⟩
    · rw [none] at found
      cases found
    · rw [poll] at found
      cases found
      exact Nat.le_of_eq now
  held := by
    refine connections_moved
      (fun _ connection => ∀ claim deadline,
        connection.lease = some (claim, deadline) → state.now < deadline →
          Holds _ claim deadline) ?_ ?_
    · intro other _ another deadline found live
      have kept := request_holds claim lease
        (sound.held other another deadline found live) live
      simpa only [tryAcquire, granted] using kept
    · intro another deadline found _
      rw [grants.leased] at found
      cases found
      have known := claim_granted granted
      refine ⟨later, Function.update_self _ _ _, known.1, known.2.1, ?_⟩
      rw [now]
      exact known.2.2
  accounted keyId holder found := by
    by_cases same : keyId = claim.keyId
    · subst same
      simp only [Function.update_self, Option.some.injEq] at found
      subst found
      exact request_accounted sound now grants stage granted
    · simp only [Function.update_of_ne same] at found
      exact (sound.accounted keyId holder found).continues (Nat.le_refl _)
        (fresh_moves_continue stage connection)

theorem request_sound {lease : Instant}
    {granted : Claim → Connection} (sound : Sound state)
    (now : claim.acquired = state.now)
    (grants : Grants claim lease (granted claim))
    (stage : state.connections id = .fresh) :
    Sound (state.request id claim lease granted) := by
  cases found : SingleSlotLock.claim state.now claim.clientId
      (state.now + lease) (state.lock claim.keyId) with
  | none =>
      simp only [System.request, tryAcquire, found]
      exact refused_sound sound stage
  | some later =>
      simp only [System.request, tryAcquire, found]
      exact granted_sound sound now grants stage found

theorem release_held {grace : Instant} (sound : Sound state)
    (ended : connection.lease = none)
    (alone : ∀ other another, other ≠ id →
      (state.connections other).served state.now = some another →
      ¬ claim.SameHolder another) :
    ∀ other another deadline,
      ((state.release id claim grace connection).connections other).lease =
        some (another, deadline) → state.now < deadline →
      Holds (state.release id claim grace connection).lock another
        deadline := by
  refine connections_moved
    (fun _ connection => ∀ another deadline,
      connection.lease = some (another, deadline) → state.now < deadline →
        Holds _ another deadline) ?_ ?_
  · intro other different another deadline found live
    rcases sound.held other another deadline found live with
      ⟨holder, held, client, active, lasts⟩
    have apart := alone other another different
      (Connection.lease_served found live)
    refine ⟨holder, ?_, client, active, lasts⟩
    by_cases key : another.keyId = claim.keyId
    · have stranger : holder.clientId ≠ claim.clientId := fun same =>
        apart ⟨key.symm, same.symm.trans client⟩
      have slot : state.lock claim.keyId = some holder := key ▸ held
      rw [key]
      exact release_stranger slot stranger
    · exact (release_other key).trans held
  · intro another deadline found
    rw [ended] at found
    cases found

theorem release_sound {grace : Instant} (sound : Sound state)
    (ended : connection.stream = none ∧ connection.poll = none ∧
      connection.lease = none)
    (alone : ∀ other another, other ≠ id →
      (state.connections other).served state.now = some another →
      ¬ claim.SameHolder another)
    (accounted : ∀ keyId holder,
      (state.release id claim grace connection).lock keyId = some holder →
      Accounted (state.release id claim grace connection) keyId holder) :
    Sound (state.release id claim grace connection) where
  young := connections_moved
    (fun _ connection => ∀ claim, connection.stream = some claim →
      state.now < claim.acquired + slotStreamLease)
    (fun own _ => sound.young own)
    (fun _ found => by rw [ended.1] at found; cases found)
  past := connections_moved
    (fun _ connection => ∀ claim, connection.poll = some claim →
      claim.acquired ≤ state.now)
    (fun own _ => sound.past own)
    (fun _ found => by rw [ended.2.1] at found; cases found)
  held := release_held sound ended.2.2 alone
  accounted := accounted

theorem release_accounted {grace : Instant}
    (accounted : Accounted state keyId holder)
    (continues : ((state.connections id).stream = some claim →
        ¬ (claim.keyId = keyId ∧ claim.clientId = holder.clientId)) ∧
      ∀ other, (state.connections id).stream = some other → other = claim)
    (polls : (state.connections id).poll = none)
    (ends : ∀ ended, (state.connections id).gone = some ended →
      connection.gone = some ended) :
    Accounted (state.release id claim grace connection) keyId holder := by
  have others : ∀ other, other ≠ id →
      (state.release id claim grace connection).connections other =
        state.connections other :=
    fun other different => state.setConnection_other connection different
  have own : (state.release id claim grace connection).connections id =
      connection := state.setConnection_self id connection
  rcases accounted with ⟨grace, released, past | gone⟩ | stream | poll
  · exact .inl ⟨grace, released, .inl past⟩
  · rcases gone with ⟨other, another, ended, found, rest⟩
    refine .inl ⟨grace, released, .inr ⟨other, another, ended, ?_, rest⟩⟩
    by_cases same : other = id
    · subst same
      rw [own]
      exact ends _ found
    · rw [others other same]
      exact found
  · rcases stream with ⟨other, another, found, key, client⟩
    have different : other ≠ id := by
      rintro rfl
      have same := continues.2 another found
      subst same
      exact continues.1 found ⟨key, client⟩
    refine .inr (.inl ⟨other, another, ?_, key, client⟩)
    rw [others other different]
    exact found
  · rcases poll with ⟨active, other, another, found, rest⟩
    have different : other ≠ id := by
      rintro rfl
      rw [polls] at found
      cases found
    refine .inr (.inr ⟨active, other, another, ?_, rest⟩)
    rw [others other different]
    exact found

theorem streamEnds_accounted {grace started : Instant} (sound : Sound state)
    (stage : state.connections id = .streaming claim started)
    (gone : connection.gone = some (claim, state.now))
    (window : grace ≤ slotGrace) (keyId : Int) (holder : SlotHolder)
    (found : (state.release id claim grace connection).lock keyId =
      some holder) :
    Accounted (state.release id claim grace connection) keyId holder := by
  by_cases same : keyId = claim.keyId
  · subst same
    have young := sound.young id claim (by rw [stage]; rfl)
    rcases sound.held id claim _ (by rw [stage]; rfl) young with
      ⟨own, held, client, active, _⟩
    have after : (state.release id claim grace connection).lock claim.keyId =
        some { own with graceUntil := some (state.now + grace) } :=
      release_own held client active
    rw [after] at found
    cases found
    refine .inl ⟨_, rfl, .inr ⟨id, claim, state.now, ?_, rfl, client.symm,
      Nat.add_le_add_left window _⟩⟩
    exact (congrArg _ (state.setConnection_self id connection)).trans gone
  · have held : state.lock keyId = some holder :=
      (release_other same).symm.trans found
    refine release_accounted (sound.accounted keyId holder held) ⟨?_, ?_⟩ ?_ ?_
    · exact fun _ own => same own.1.symm
    · intro other found
      rw [stage] at found
      cases found
      rfl
    · rw [stage]
      rfl
    · intro ended found
      rw [stage] at found
      cases found

theorem guardDropped_accounted {ended : Instant}
    (sound : Sound state) (stage : state.connections id = .rotated claim ended)
    (keyId : Int) (holder : SlotHolder)
    (found : (state.release id claim 0 (.streamEnded claim ended)).lock keyId =
      some holder) :
    Accounted (state.release id claim 0 (.streamEnded claim ended)) keyId
      holder := by
  have untouched (held : state.lock keyId = some holder) :
      Accounted (state.release id claim 0 (.streamEnded claim ended)) keyId
        holder := by
    refine release_accounted (sound.accounted keyId holder held) ⟨?_, ?_⟩ ?_ ?_
    · intro found
      rw [stage] at found
      cases found
    · intro other found
      rw [stage] at found
      cases found
    · rw [stage]
      rfl
    · intro gone found
      rw [stage] at found
      exact found
  by_cases same : keyId = claim.keyId
  · subst same
    cases held : state.lock claim.keyId with
    | none =>
        have after : (state.lock.release state.now claim.keyId claim.clientId
            0) claim.keyId = some holder := found
        simp only [SingleSlotLock.release, Function.update_self, held,
          Option.map_none] at after
        cases after
    | some own =>
        by_cases mine : own.clientId = claim.clientId ∧ own.graceUntil = none
        · have after : (state.release id claim 0
              (.streamEnded claim ended)).lock claim.keyId =
              some { own with graceUntil := some (state.now + 0) } :=
            release_own held mine.1 mine.2
          rw [after] at found
          cases found
          exact .inl ⟨_, rfl, .inl (Nat.le_refl _)⟩
        · have after : (state.release id claim 0
              (.streamEnded claim ended)).lock claim.keyId = some own := by
            by_cases client : own.clientId = claim.clientId
            · exact release_twice held fun active => mine ⟨client, active⟩
            · exact release_stranger held client
          rw [after] at found
          cases found
          exact untouched held
  · exact untouched ((release_other same).symm.trans found)

theorem step_sound (sound : Sound state) (orderly : Orderly state event)
    (moved : Step state event next) : Sound next := by
  cases moved with
  | elapsed duration => exact elapsed_sound sound orderly
  | streamRequested id keyId clientId stage =>
      exact request_sound sound rfl (opening_grants _) stage
  | opened id claim stage =>
      refine setConnection_sound sound ?_ ?_ ?_ ?_
      all_goals rw [stage]
      · exact fun _ found => found
      · exact fun _ found => found
      · exact fun _ found => found
      · exact ⟨fun _ found => found, fun _ found => found,
          fun _ found => found⟩
  | failed id claim stage => exact orderly.elim
  | rotated id claim started stage old =>
      have alone := orderly claim (by rw [stage]; rfl)
      exact release_sound sound ⟨rfl, rfl, rfl⟩ alone
        (streamEnds_accounted sound stage rfl (Nat.le_refl _))
  | dropped id claim started stage =>
      have alone := orderly claim (by rw [stage]; rfl)
      exact release_sound sound ⟨rfl, rfl, rfl⟩ alone
        (streamEnds_accounted sound stage rfl (Nat.zero_le _))
  | droppedRotated id claim ended stage =>
      have alone := orderly claim (by rw [stage]; rfl)
      exact release_sound sound ⟨rfl, rfl, rfl⟩ alone
        (guardDropped_accounted sound stage)
  | pollRequested id keyId clientId stage =>
      exact request_sound sound rfl (polling_grants _) stage
  | answered id claim stage =>
      refine setConnection_sound sound ?_ ?_ ?_ ?_
      all_goals rw [stage]
      · exact fun _ found => found
      · exact fun _ found => found
      · exact fun _ found => (by cases found)
      · exact ⟨fun _ found => found, fun _ found => found,
          fun _ found => found⟩

/-! ## Runs -/

theorem Sound.refuses (sound : Sound state)
    (served : (state.connections id).served state.now = some claim)
    {clientId : String} (other : clientId ≠ claim.clientId)
    (lease : Instant) :
    (state.lock.tryAcquire state.now claim.keyId clientId lease).1 =
      false := by
  rcases Connection.served_lease (fun claim => sound.young id claim) served
    with ⟨deadline, leased, live⟩
  rcases sound.held id claim deadline leased live with
    ⟨holder, held, client, active, lasts⟩
  have different : holder.clientId ≠ clientId := fun same =>
    other (same.symm.trans client)
  rw [tryAcquire_refused held different active
    (Nat.lt_of_lt_of_le live lasts)]

theorem Sound.frees (sound : Sound state)
    (held : state.lock keyId = some holder)
    (finishes : ∀ id, (state.connections id).Over state.now keyId holder.clientId)
    (clientId : String) (lease : Instant) :
    (state.lock.tryAcquire state.now keyId clientId lease).1 = true := by
  rcases sound.accounted keyId holder held with
    ⟨grace, released, past | gone⟩ | stream | poll
  · exact tryAcquire_grace held released past
  · rcases gone with ⟨id, claim, ended, found, key, client, window⟩
    have finished := finishes id
    cases stage : state.connections id with
    | rotated own moment =>
        rw [stage] at found finished
        cases found
        exact tryAcquire_grace held released
          (Nat.le_trans window (finished key client))
    | streamEnded own moment =>
        rw [stage] at found finished
        cases found
        exact tryAcquire_grace held released
          (Nat.le_trans window (finished key client))
    | _ =>
        rw [stage] at found
        cases found
  · rcases stream with ⟨id, claim, found, key, client⟩
    have finished := finishes id
    cases stage : state.connections id with
    | opening own =>
        rw [stage] at found finished
        cases found
        exact absurd ⟨key, client⟩ finished
    | streaming own started =>
        rw [stage] at found finished
        cases found
        exact absurd ⟨key, client⟩ finished
    | _ =>
        rw [stage] at found
        cases found
  · rcases poll with ⟨active, id, claim, found, key, client, short⟩
    have finished := finishes id
    cases stage : state.connections id with
    | polling own =>
        rw [stage] at found finished
        cases found
        exact absurd ⟨key, client⟩ finished
    | pollEnded own moment =>
        rw [stage] at found finished
        cases found
        exact tryAcquire_expired held active
          (Nat.le_trans short (finished key client))
    | _ =>
        rw [stage] at found
        cases found

/-- In every run of orderly steps a served slot is refused to every other
client, and once all its connections are over anybody gets it. -/
theorem mailbox_exclusive {events : List Event} {last : System}
    (run : Run (Guarded Orderly Step) .start events last) :
    (∀ id claim clientId lease,
      (last.connections id).served last.now = some claim →
      clientId ≠ claim.clientId →
      (last.lock.tryAcquire last.now claim.keyId clientId lease).1 = false) ∧
    ∀ keyId holder clientId lease, last.lock keyId = some holder →
      (∀ id, (last.connections id).Over last.now keyId holder.clientId) →
      (last.lock.tryAcquire last.now keyId clientId lease).1 = true := by
  have preserved : ∀ state event next, Sound state →
      Guarded Orderly Step state event next → Sound next :=
    fun _ _ _ sound moved => step_sound sound moved.1 moved.2
  have sound : Sound last := run.invariant preserved start_sound
  exact ⟨fun id claim clientId lease served other =>
      sound.refuses served other lease,
    fun keyId holder clientId lease held finished =>
      sound.frees held finished clientId lease⟩

/-- A stream in service, and the same stream a grace window after its end. -/
theorem mailbox_exclusive_sample :
    (∃ last : System,
      (last.connections 0).served last.now = some ⟨1, "c", 0⟩ ∧
        (last.lock.tryAcquire last.now 1 "d" slotStreamLease).1 = false) ∧
    ∃ last : System, (last.lock 1).isSome ∧
      (last.lock.tryAcquire last.now 1 "d" slotStreamLease).1 = true := by
  have serves : ∃ last, Run (Guarded Orderly Step) .start
      [.streamRequested 0 1 "c", .opened 0] last ∧
      last.connections 0 = .streaming ⟨1, "c", 0⟩ 0 :=
    ⟨_, .cons ⟨trivial, .streamRequested _ 0 1 "c" rfl⟩ <|
      .cons ⟨trivial, .opened _ 0 _ rfl⟩ <| .nil _, rfl⟩
  have ends : ∃ last, Run (Guarded Orderly Step) .start
      [.streamRequested 0 1 "c", .opened 0, .dropped 0, .elapsed slotGrace]
      last ∧ last.now = slotGrace ∧
      last.lock 1 = some ⟨"c", slotStreamLease, some 0⟩ ∧
      ∀ id, (last.connections id).Over slotGrace 1 "c" := by
    refine ⟨_, .cons ⟨trivial, .streamRequested _ 0 1 "c" rfl⟩ <|
      .cons ⟨trivial, .opened _ 0 _ rfl⟩ <|
      .cons ⟨?_, .dropped _ 0 _ _ rfl⟩ <|
      .cons ⟨?_, .elapsed _ slotGrace⟩ <| .nil _, rfl, rfl, ?_⟩
    · rintro claim _ (_ | other) another different served
      · exact absurd rfl different
      · cases served
    · rintro (_ | id) claim started (opening | streaming)
      · cases opening
      · cases streaming
      · cases opening
      · cases streaming
    · rintro (_ | id)
      · exact fun _ _ => Nat.le_refl _
      · trivial
  rcases serves with ⟨first, run, streaming⟩
  rcases ends with ⟨second, ended, now, held, finished⟩
  have served : (first.connections 0).served first.now =
      some ⟨1, "c", 0⟩ := by
    rw [streaming]
    rfl
  refine ⟨⟨first, served, ?_⟩, ⟨second, by rw [held]; rfl, ?_⟩⟩
  · exact (mailbox_exclusive run).1 0 _ "d" _ served (by decide)
  · exact (mailbox_exclusive ended).2 1 _ "d" _ held (by rwa [now])

/-- An older stream frees the slot under a newer one of its client; a handler
that fails after its claim keeps it beyond the grace window, and so does an
answered poll. -/
theorem old_stream_frees_new :
    (∃ last, Run Step .start [.streamRequested 0 1 "c", .opened 0,
        .streamRequested 1 1 "c", .opened 1, .dropped 0] last ∧
      (last.connections 1).served last.now = some ⟨1, "c", 0⟩ ∧
      (last.lock.tryAcquire last.now 1 "d" slotStreamLease).1 = true) ∧
    (∃ last, Run Step .start [.streamRequested 0 1 "c", .failed 0,
        .elapsed slotGrace] last ∧
      (∀ id, (last.connections id).served last.now = none) ∧
      (last.lock.tryAcquire last.now 1 "d" slotStreamLease).1 = false) ∧
    ∃ last, Run Step .start [.pollRequested 0 1 "c", .answered 0,
        .elapsed slotGrace] last ∧
      (∀ id, (last.connections id).served last.now = none) ∧
      (last.lock.tryAcquire last.now 1 "d" slotStreamLease).1 = false := by
  refine ⟨⟨_, .cons (.streamRequested _ 0 1 "c" rfl) <|
      .cons (.opened _ 0 _ rfl) <| .cons (.streamRequested _ 1 1 "c" rfl) <|
      .cons (.opened _ 1 _ rfl) <| .cons (.dropped _ 0 _ _ rfl) <| .nil _,
      rfl, by decide⟩,
    ⟨_, .cons (.streamRequested _ 0 1 "c" rfl) <|
      .cons (.failed _ 0 _ rfl) <| .cons (.elapsed _ slotGrace) <| .nil _,
      ?_, by decide⟩,
    ⟨_, .cons (.pollRequested _ 0 1 "c" rfl) <|
      .cons (.answered _ 0 _ rfl) <| .cons (.elapsed _ slotGrace) <| .nil _,
      ?_, by decide⟩⟩
  · rintro (_ | id)
    · rfl
    · rfl
  · rintro (_ | id)
    · rfl
    · rfl

end AimailGateway.Mailbox
