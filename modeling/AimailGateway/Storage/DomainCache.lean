import AimailGateway.Library.Execution
import AimailGateway.Storage.Domains
import AimailGateway.Storage.Rename

/-! # The cache of domain lookups

Positive lookups by name are cached for 30 s. A lookup reads the cache, asks
the database and stores the answer in three steps; a mutation commits and then
evicts. Time is in milliseconds.
-/

namespace AimailGateway.DomainCache

open Library Action Storage

/-- A statement that changes `system_domains`. -/
inductive Mutation where
  | insert (record : SystemDomainRecord)
  | update (id : String) (webhookUrl webhookSecret : Option String)
      (isActive : Option Bool) (updatedAt : Timestamp)
  | delete (id : String)
  | rename (old new : String)
  deriving DecidableEq, Repr

def setDomain (domain : String) (row : SystemDomainRecord) :
    SystemDomainRecord :=
  { row with domain := domain }

/-- The table after a mutation; none when the statement fails, or finds no row
to update, and the call ends without evicting. -/
def Mutation.apply (mutation : Mutation) (table : SystemDomains) :
    Option SystemDomains :=
  match mutation with
  | .insert record => table.insert? record
  | .update id webhookUrl webhookSecret isActive updatedAt =>
      if table.rows.any (·.id == id) then
        table.update? (·.id == id)
          (changeSystemDomain webhookUrl webhookSecret isActive updatedAt)
      else none
  | .delete id => some (table.delete (·.id == id))
  | .rename old new => table.update? (·.domain == old) (setDomain new)

/-! ### The statements behind the mutations -/

section Statements

variable {env : Surroundings} {world : World}

theorem insertSystemDomain_mutates {id systemId domain : String}
    {webhookUrl webhookSecret : Option String} :
    (insertSystemDomain env id systemId domain webhookUrl webhookSecret).Ends
      (fun record later =>
        (Mutation.insert record).apply world.db.systemDomains =
          some later.db.systemDomains)
      (fun _ later => later.db = world.db) world := by
  apply insertSystemDomain_ends
  · exact fun _ _ same => same
  · intro createdAt table later record insertion changed
    rw [changed]
    exact insertion

theorem updateSystemDomain_mutates {id : String}
    {webhookUrl webhookSecret : Option String} {isActive : Option Bool} :
    (updateSystemDomain env id webhookUrl webhookSecret isActive).Ends
      (fun answer later =>
        (answer = none ∧ later.db = world.db) ∨ ∃ updatedAt,
          (Mutation.update id webhookUrl webhookSecret isActive updatedAt).apply
            world.db.systemDomains = some later.db.systemDomains)
      (fun _ later => later.db = world.db) world := by
  apply updateSystemDomain_ends
  · exact fun _ _ same => same
  · exact fun _ _ same => .inl ⟨rfl, same⟩
  · intro row member named updatedAt table later change updated changed
    refine .inr ⟨updatedAt, ?_⟩
    have any : world.db.systemDomains.rows.any (·.id == id) = true :=
      List.any_eq_true.mpr ⟨row, member, beq_iff_eq.mpr named⟩
    rw [Mutation.apply, if_pos any, changed]
    exact updated

theorem deleteSystemDomain_mutates {id : String} :
    (deleteSystemDomain env id).Ends
      (fun _ later => (Mutation.delete id).apply world.db.systemDomains =
        some later.db.systemDomains)
      (fun _ later => later.db = world.db) world := by
  apply deleteSystemDomain_ends
  · exact fun _ _ same => same
  · intro later changed
    rw [changed]
    rfl

theorem renameAgentAddressRefs_mutates {old new : String}
    (intact : (breaksLiteral old || breaksLiteral new) = false) :
    (renameAgentAddressRefs env old new).Ends
      (fun _ later => (Mutation.rename old new).apply world.db.systemDomains =
        some later.db.systemDomains)
      (fun _ later => later.db = world.db) world := by
  rw [Ends, renameAgentAddressRefs]
  by_cases safe : (isSafe old && isSafe new) = true
  · rw [if_pos safe, intact]
    apply call_ends
    · exact fun _ => rfl
    · intro answer after outcome
      rw [if_neg Bool.false_ne_true] at outcome
      split at outcome
      · next changed batch =>
          cases outcome
          exact renameBatch_systemDomains batch
      · cases outcome
  · rw [if_neg safe]

end Statements

/-! ### Eviction -/

structure Entry where
  key : String
  stored : Nat
  record : SystemDomainRecord
  deriving DecidableEq, Repr

/-- The entries a mutation removes from the cache once it is committed. -/
def Mutation.evicts (mutation : Mutation) (entry : Entry) : Bool :=
  match mutation with
  | .insert record => entry.key == record.domain
  | .update id _ _ _ _ => entry.record.id == id
  | .delete id => entry.record.id == id
  | .rename old _ => entry.key == old || entry.record.domain == old

def cacheTtl : Nat := 30000

def cachePurgeAge : Nat := 60000

def cached (now : Nat) (cache : List Entry) (domain : String) :
    Option SystemDomainRecord :=
  (cache.find? fun entry =>
    entry.key == domain && decide (now - entry.stored < cacheTtl)).map
    (·.record)

/-- `HashMap::insert`, after a large cache is purged. -/
def store (now : Nat) (cache : List Entry) (domain : String)
    (record : SystemDomainRecord) : List Entry :=
  let kept := if 1000 < cache.length then
      cache.filter fun entry => decide (now - entry.stored < cachePurgeAge)
    else cache
  ⟨domain, now, record⟩ :: kept.filter (·.key != domain)

/-! ## Lookups and mutations side by side -/

/-- A call of `get_system_domain_by_name` between its steps, with the
mutations that had returned when it began. -/
inductive Lookup where
  | fresh
  | querying (domain : String) (seen : List Nat)
  | storing (domain : String) (record : SystemDomainRecord) (seen : List Nat)
  | answered (domain : String) (answer : Option SystemDomainRecord)
      (seen : List Nat)
  deriving DecidableEq, Repr

/-- The mutations that had returned when the call began. -/
def Lookup.seen : Lookup → List Nat
  | .fresh => []
  | .querying _ seen => seen
  | .storing _ _ seen => seen
  | .answered _ _ seen => seen

/-- A mutating call: committed as the given version of the table, and
returned. -/
inductive Writer where
  | fresh
  | evicting (mutation : Mutation) (version : Nat)
  | returned (version : Nat)
  deriving DecidableEq, Repr

/-- The table with its past versions, the cache and every call. -/
structure DomainStore where
  now : Nat
  versions : Nat → SystemDomains
  current : Nat
  cache : List Entry
  returned : List Nat
  lookups : Nat → Lookup
  writers : Nat → Writer

namespace DomainStore

def start (table : SystemDomains) : DomainStore where
  now := 0
  versions := fun _ => table
  current := 0
  cache := []
  returned := []
  lookups := fun _ => .fresh
  writers := fun _ => .fresh

def row (state : DomainStore) (version : Nat) (domain : String) :
    Option SystemDomainRecord :=
  (state.versions version).find? (·.domain == domain)

def setLookup (state : DomainStore) (id : Nat) (lookup : Lookup) :
    DomainStore :=
  { state with lookups := Function.update state.lookups id lookup }

def setWriter (state : DomainStore) (id : Nat) (writer : Writer) :
    DomainStore :=
  { state with writers := Function.update state.writers id writer }

/-- The lookup after it has read the cache. -/
def begin (state : DomainStore) (domain : String) : Lookup :=
  match cached state.now state.cache domain with
  | some record => .answered domain (some record) state.returned
  | none => .querying domain state.returned

def ask (state : DomainStore) (domain : String) (seen : List Nat) : Lookup :=
  match state.row state.current domain with
  | some record => .storing domain record seen
  | none => .answered domain none seen

end DomainStore

inductive Event where
  | elapsed (duration : Nat)
  | begun (id : Nat) (domain : String)
  | queried (id : Nat)
  | stored (id : Nat)
  | committed (id : Nat) (mutation : Mutation)
  | evicted (id : Nat)
  deriving DecidableEq, Repr

inductive Step : DomainStore → Event → DomainStore → Prop where
  | elapsed (state : DomainStore) (duration : Nat) :
      Step state (.elapsed duration)
        { state with now := state.now + duration }
  | begun (state : DomainStore) (id : Nat) (domain : String)
      (stage : state.lookups id = .fresh) :
      Step state (.begun id domain)
        (state.setLookup id (state.begin domain))
  | queried (state : DomainStore) (id : Nat) (domain : String)
      (seen : List Nat) (stage : state.lookups id = .querying domain seen) :
      Step state (.queried id)
        (state.setLookup id (state.ask domain seen))
  | stored (state : DomainStore) (id : Nat) (domain : String)
      (record : SystemDomainRecord) (seen : List Nat)
      (stage : state.lookups id = .storing domain record seen) :
      Step state (.stored id)
        { state.setLookup id (.answered domain (some record) seen) with
          cache := store state.now state.cache domain record }
  | committed (state : DomainStore) (id : Nat) (mutation : Mutation)
      (table : SystemDomains) (stage : state.writers id = .fresh)
      (applied : mutation.apply (state.versions state.current) = some table) :
      Step state (.committed id mutation)
        { state.setWriter id (.evicting mutation (state.current + 1)) with
          versions :=
            Function.update state.versions (state.current + 1) table
          current := state.current + 1 }
  | evicted (state : DomainStore) (id : Nat) (mutation : Mutation)
      (version : Nat) (stage : state.writers id = .evicting mutation version) :
      Step state (.evicted id)
        { state.setWriter id (.returned version) with
          cache := state.cache.filter (!mutation.evicts ·)
          returned := version :: state.returned }

/-! ## What coherence means -/

/-- None of the given mutations replaced the record under this address, unless
it has come back since. -/
def NotReplaced (state : DomainStore) (domain : String)
    (record : SystemDomainRecord) (mutations : List Nat) : Prop :=
  ∀ mutation ∈ mutations, state.row (mutation - 1) domain = some record →
    ∃ version, mutation ≤ version ∧ version ≤ state.current ∧
      state.row version domain = some record

/-- No lookup answers a record that a mutation had replaced which returned
before the lookup began. -/
def Coherent (state : DomainStore) : Prop :=
  ∀ id domain record seen,
    state.lookups id = .answered domain (some record) seen →
      NotReplaced state domain record seen

/-- The condition on the steps: what a lookup stores has not been replaced by
a mutation that has already evicted. -/
def StoresFresh (state : DomainStore) : Event → Prop
  | .stored id => ∀ domain record seen,
      state.lookups id = .storing domain record seen →
        NotReplaced state domain record state.returned
  | _ => True

/-! ## Mutations evict what they replace -/

theorem Mutation.keeps {mutation : Mutation} {table after : SystemDomains}
    {entry : Entry} (applied : mutation.apply table = some after)
    (spared : mutation.evicts entry = false)
    (found : table.find? (·.domain == entry.key) = some entry.record) :
    after.find? (·.domain == entry.key) = some entry.record := by
  rcases Table.mem_of_find? found with ⟨member, named⟩
  have named : entry.record.domain = entry.key := beq_iff_eq.mp named
  suffices kept : entry.record ∈ after by
    rw [← named]
    exact SystemDomains.find?_domain kept
  cases mutation with
  | insert record => exact (Table.mem_of_insert? applied).mpr (.inl member)
  | update id webhookUrl webhookSecret isActive updatedAt =>
      rw [Mutation.apply] at applied
      split at applied
      · refine (Table.mem_of_update? applied).mpr ⟨_, member, ?_⟩
        have other : (entry.record.id == id) = false := spared
        rw [other, if_neg Bool.false_ne_true]
      · cases applied
  | delete id =>
      cases applied
      exact Table.mem_delete.mpr ⟨member, spared⟩
  | rename old new =>
      refine (Table.mem_of_update? applied).mpr ⟨_, member, ?_⟩
      have other : (entry.record.domain == old) = false := by
        simp only [Mutation.evicts, Bool.or_eq_false_iff] at spared
        exact spared.2
      rw [other, if_neg Bool.false_ne_true]

/-! ## Coherence along runs -/

section Runs

variable {state : DomainStore} {domain : String} {record : SystemDomainRecord}
  {mutations : List Nat}
  {mutation : Mutation} {cache : List Entry}

theorem NotReplaced.of_current
    (found : state.row state.current domain = some record)
    (past : ∀ mutation ∈ mutations, mutation ≤ state.current) :
    NotReplaced state domain record mutations :=
  fun mutation member _ => ⟨state.current, past mutation member, le_rfl, found⟩

/-- A state with the same versions, or more. -/
structure Extends (before after : DomainStore) : Prop where
  current : before.current ≤ after.current
  versions : ∀ version ≤ before.current,
    after.versions version = before.versions version

theorem NotReplaced.extend {after : DomainStore}
    (kept : NotReplaced state domain record mutations)
    (past : ∀ mutation ∈ mutations, mutation ≤ state.current)
    (extension : Extends state after) :
    NotReplaced after domain record mutations := by
  intro mutation member replaced
  have earlier : mutation - 1 ≤ state.current := by
    have := past mutation member
    omega
  rw [DomainStore.row, extension.versions _ earlier] at replaced
  rcases kept mutation member replaced with ⟨version, later, bound, found⟩
  refine ⟨version, later, bound.trans extension.current, ?_⟩
  rw [DomainStore.row, extension.versions _ bound]
  exact found

/-- What a lookup carries to its end was not replaced. -/
def Lookup.Sound (state : DomainStore) : Lookup → Prop
  | .fresh => True
  | .querying _ _ => True
  | .storing domain record seen => NotReplaced state domain record seen
  | .answered domain answer seen =>
      ∀ record, answer = some record → NotReplaced state domain record seen

/-- What every state of a run keeps. -/
structure CacheInvariant (state : DomainStore) : Prop where
  entries : ∀ entry ∈ state.cache,
    NotReplaced state entry.key entry.record state.returned
  returned : ∀ version ∈ state.returned, version ≤ state.current
  seen : ∀ id, ∀ version ∈ (state.lookups id).seen, version ≤ state.current
  sound : ∀ id, (state.lookups id).Sound state
  evicting : ∀ id mutation version,
    state.writers id = .evicting mutation version →
      version ≤ state.current ∧ mutation.apply (state.versions (version - 1)) =
        some (state.versions version)

theorem Lookup.Sound.extend {after : DomainStore} {lookup : Lookup}
    (sound : lookup.Sound state)
    (past : ∀ version ∈ lookup.seen, version ≤ state.current)
    (extension : Extends state after) : lookup.Sound after := by
  cases lookup with
  | fresh => trivial
  | querying domain seen => trivial
  | storing domain record seen => exact NotReplaced.extend sound past extension
  | answered domain answer seen =>
      exact fun record same => (sound record same).extend past extension

theorem CacheInvariant.start (table : SystemDomains) :
    CacheInvariant (.start table) where
  entries := fun _ member => absurd member List.not_mem_nil
  returned := fun _ member => absurd member List.not_mem_nil
  seen := fun _ _ member => absurd member List.not_mem_nil
  sound := fun _ => trivial
  evicting := fun _ _ _ stage => nomatch stage

theorem CacheInvariant.coherent (invariant : CacheInvariant state) :
    Coherent state := by
  intro id domain record seen stage
  have sound := invariant.sound id
  rw [stage] at sound
  exact sound record rfl

theorem CacheInvariant.lookup {id : Nat} {lookup : Lookup}
    (invariant : CacheInvariant state)
    (entries : ∀ entry ∈ cache,
      NotReplaced state entry.key entry.record state.returned)
    (seen : ∀ version ∈ lookup.seen, version ≤ state.current)
    (sound : lookup.Sound state) :
    CacheInvariant { state.setLookup id lookup with cache := cache } where
  entries := entries
  returned := invariant.returned
  seen := by
    intro other
    by_cases same : other = id
    · subst same
      simpa [DomainStore.setLookup] using seen
    · simpa [DomainStore.setLookup, Function.update_of_ne same] using
        invariant.seen other
  sound := by
    have extension : Extends state
        { state.setLookup id lookup with cache := cache } :=
      ⟨le_rfl, fun _ _ => rfl⟩
    intro other
    by_cases same : other = id
    · subst same
      simpa [DomainStore.setLookup] using sound.extend seen extension
    · simpa [DomainStore.setLookup, Function.update_of_ne same] using
        (invariant.sound other).extend (invariant.seen other) extension
  evicting := invariant.evicting

theorem mem_of_cached {now : Nat}
    (hit : cached now cache domain = some record) :
    ∃ entry ∈ cache, entry.key = domain ∧ entry.record = record := by
  rcases Option.map_eq_some_iff.mp hit with ⟨entry, found, same⟩
  have chosen := List.find?_some found
  simp only [Bool.and_eq_true, beq_iff_eq] at chosen
  exact ⟨entry, List.mem_of_find?_eq_some found, chosen.1, same⟩

theorem mem_store {now : Nat} {entry : Entry}
    (member : entry ∈ store now cache domain record) :
    entry = ⟨domain, now, record⟩ ∨ entry ∈ cache := by
  rcases List.mem_cons.mp member with new | kept
  · exact .inl new
  · have old := (List.mem_filter.mp kept).1
    split at old
    · exact .inr (List.mem_filter.mp old).1
    · exact .inr old

theorem extends_commit {id : Nat} {table : SystemDomains} :
    Extends state
      { state.setWriter id (.evicting mutation (state.current + 1)) with
        versions := Function.update state.versions (state.current + 1) table
        current := state.current + 1 } where
  current := Nat.le_succ _
  versions := by
    intro version bound
    exact Function.update_of_ne (by omega) _ _

theorem CacheInvariant.commit {id : Nat}
    {table : SystemDomains} (invariant : CacheInvariant state)
    (applied : mutation.apply (state.versions state.current) = some table) :
    CacheInvariant
      { state.setWriter id (.evicting mutation (state.current + 1)) with
        versions := Function.update state.versions (state.current + 1) table
        current := state.current + 1 } where
  entries := fun entry member => (invariant.entries entry member).extend
    invariant.returned extends_commit
  returned := fun version member => Nat.le_succ_of_le
    (invariant.returned version member)
  seen := fun other version member => Nat.le_succ_of_le
    (invariant.seen other version member)
  sound := fun other => (invariant.sound other).extend (invariant.seen other)
    extends_commit
  evicting := by
    intro other committed version stage
    by_cases same : other = id
    · subst same
      simp only [DomainStore.setWriter, Function.update_self,
        Writer.evicting.injEq] at stage
      rcases stage with ⟨rfl, rfl⟩
      refine ⟨le_rfl, ?_⟩
      show mutation.apply (Function.update state.versions (state.current + 1)
          table state.current) =
        some (Function.update state.versions (state.current + 1) table
          (state.current + 1))
      rw [Function.update_self, Function.update_of_ne (by omega)]
      exact applied
    · simp only [DomainStore.setWriter, Function.update_of_ne same] at stage
      rcases invariant.evicting other committed version stage with
        ⟨bound, effect⟩
      refine ⟨Nat.le_succ_of_le bound, ?_⟩
      show committed.apply (Function.update state.versions (state.current + 1)
          table (version - 1)) =
        some (Function.update state.versions (state.current + 1) table version)
      rw [Function.update_of_ne (by omega), Function.update_of_ne (by omega)]
      exact effect

theorem CacheInvariant.evict {id : Nat} {version : Nat}
    (invariant : CacheInvariant state)
    (stage : state.writers id = .evicting mutation version) :
    CacheInvariant
      { state.setWriter id (.returned version) with
        cache := state.cache.filter (!mutation.evicts ·)
        returned := version :: state.returned } := by
  rcases invariant.evicting id mutation version stage with ⟨bound, effect⟩
  have extension : Extends state
      { state.setWriter id (.returned version) with
        cache := state.cache.filter (!mutation.evicts ·)
        returned := version :: state.returned } :=
    ⟨le_rfl, fun _ _ => rfl⟩
  exact {
    entries := by
      intro entry member
      rcases List.mem_filter.mp member with ⟨there, spared⟩
      rw [Bool.not_eq_true'] at spared
      intro other mutated replaced
      rcases List.mem_cons.mp mutated with same | before
      · subst same
        exact ⟨other, le_rfl, bound, Mutation.keeps effect spared replaced⟩
      · exact invariant.entries entry there other before replaced
    returned := by
      intro other member
      rcases List.mem_cons.mp member with same | before
      · rw [same]
        exact bound
      · exact invariant.returned other before
    seen := invariant.seen
    sound := fun other => (invariant.sound other).extend (invariant.seen other)
      extension
    evicting := by
      intro other pending since kept
      by_cases same : other = id
      · subst same
        simp only [DomainStore.setWriter, Function.update_self] at kept
        cases kept
      · simp only [DomainStore.setWriter, Function.update_of_ne same] at kept
        exact invariant.evicting other pending since kept }

theorem CacheInvariant.step {event : Event} {next : DomainStore}
    (invariant : CacheInvariant state) (fresh : StoresFresh state event)
    (step : Step state event next) : CacheInvariant next := by
  cases step with
  | elapsed duration =>
      have extension : Extends state
          { state with now := state.now + duration } :=
        ⟨le_rfl, fun _ _ => rfl⟩
      exact {
        entries := invariant.entries
        returned := invariant.returned
        seen := invariant.seen
        sound := fun id => (invariant.sound id).extend (invariant.seen id)
          extension
        evicting := invariant.evicting }
  | begun id domain stage =>
      apply invariant.lookup invariant.entries
      · unfold DomainStore.begin
        split <;> exact invariant.returned
      · unfold DomainStore.begin
        split
        · next record hit =>
            intro other same
            cases same
            rcases mem_of_cached hit with ⟨entry, member, rfl, rfl⟩
            exact invariant.entries entry member
        · trivial
  | queried id domain seen stage =>
      have past := invariant.seen id
      rw [stage] at past
      apply invariant.lookup invariant.entries
      · unfold DomainStore.ask
        split <;> exact past
      · unfold DomainStore.ask
        split
        · next record found => exact .of_current found past
        · exact fun record same => nomatch same
  | stored id domain record seen stage =>
      have past := invariant.seen id
      have sound := invariant.sound id
      rw [stage] at past sound
      refine invariant.lookup ?_ past ?_
      · intro entry member
        rcases mem_store member with new | old
        · rw [new]
          exact fresh domain record seen stage
        · exact invariant.entries entry old
      · intro other same
        cases same
        exact sound
  | committed id mutation table stage applied => exact invariant.commit applied
  | evicted id mutation version stage => exact invariant.evict stage

end Runs

/-- In every run whose lookups store nothing that a returned mutation has
replaced, no lookup answers a record replaced before it began. -/
theorem cache_coherent {table : SystemDomains} {events : List Event}
    {last : DomainStore}
    (run : Run (Guarded StoresFresh Step) (.start table) events last) :
    Coherent last := by
  have preserved : ∀ state event next, CacheInvariant state →
      Guarded StoresFresh Step state event next → CacheInvariant next :=
    fun _ _ _ invariant step => invariant.step step.1 step.2
  exact (run.invariant preserved (.start table)).coherent

/-! ## The stale store -/

def activeRow : SystemDomainRecord :=
  newSystemDomain "1" "a" "x.org" none none 0

def activeTable : SystemDomains := ⟨[activeRow], List.pairwise_singleton _ _⟩

def deactivation : Mutation := .update "1" none none (some false) 1

def inactiveTable : SystemDomains :=
  ⟨[{ activeRow with isActive := false, updatedAt := 1 }],
    List.pairwise_singleton _ _⟩

/-- A lookup that stores its answer after the eviction makes the next one
answer the deactivated row as active. -/
theorem stale_store :
    ¬∀ table events last, Run Step (.start table) events last →
      Coherent last := by
  intro all
  have run : Run Step (.start activeTable)
      [.begun 0 "x.org", .queried 0, .committed 0 deactivation, .evicted 0,
        .stored 0, .begun 1 "x.org"] _ :=
    .cons (.begun _ 0 "x.org" rfl)
      (.cons (.queried _ 0 "x.org" [] rfl)
        (.cons (.committed _ 0 deactivation inactiveTable rfl rfl)
          (.cons (.evicted _ 0 deactivation 1 rfl)
            (.cons (.stored _ 0 "x.org" activeRow [] rfl)
              (.cons (.begun _ 1 "x.org" rfl) (.nil _))))))
  have coherent := all activeTable _ _ run 1 "x.org" activeRow [1] (by decide)
  rcases coherent 1 (List.mem_singleton_self 1) (by decide) with
    ⟨version, later, bound, found⟩
  have only : version = 1 := Nat.le_antisymm bound later
  subst only
  exact absurd found (by decide)

/-- A lookup between mutations stores what the next one answers. -/
theorem fresh_store : ∃ last, Run (Guarded StoresFresh Step)
    (.start activeTable)
    [.committed 0 deactivation, .evicted 0, .begun 0 "x.org", .queried 0,
      .stored 0, .begun 1 "x.org"] last ∧ Coherent last := by
  let inactive := { activeRow with isActive := false, updatedAt := 1 }
  have run : Run (Guarded StoresFresh Step) (.start activeTable)
      [.committed 0 deactivation, .evicted 0, .begun 0 "x.org", .queried 0,
        .stored 0, .begun 1 "x.org"] _ :=
    .cons ⟨trivial, .committed _ 0 deactivation inactiveTable rfl rfl⟩
      (.cons ⟨trivial, .evicted _ 0 deactivation 1 rfl⟩
        (.cons ⟨trivial, .begun _ 0 "x.org" rfl⟩
          (.cons ⟨trivial, .queried _ 0 "x.org" [1] rfl⟩
            (.cons ⟨?_, .stored _ 0 "x.org" inactive [1] rfl⟩
              (.cons ⟨trivial, .begun _ 1 "x.org" rfl⟩ (.nil _))))))
  · exact ⟨_, run, cache_coherent run⟩
  · intro domain record seen stage
    have storing : Lookup.storing "x.org" inactive [1] =
        .storing domain record seen := stage
    cases storing
    apply NotReplaced.of_current
    · decide
    · intro mutation member
      rw [List.mem_singleton.mp member]
      decide

end AimailGateway.DomainCache
