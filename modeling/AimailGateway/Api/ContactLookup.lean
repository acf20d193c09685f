import AimailGateway.Api.ContactIndex
import AimailGateway.Library.Delimiters
import AimailGateway.Board.AddressForms

/-! # Looking up the contacts of a mail

A batch answers with the profile of the persona-stripped address before that of
the address itself, and with the first address of the list as the sender.
-/

namespace AimailGateway

open Library Action

/-- A text of lower-case letters is its own lower case. -/
def Library.CaseTables.Settles (tables : CaseTables) : Prop :=
  ∀ text other, (∀ letter ∈ text.toList,
    letter ∈ (tables.toLowercase other).toList) → tables.toLowercase text = text

namespace Contacts

/-! ## What a batch should answer -/

section Specification

variable (tables : CaseTables) (stored : Stored)

def StoredFor (address profile : String) : Prop :=
  ∃ spelling, tables.toLowercase spelling = tables.toLowercase address ∧
    stored (profileKey spelling) = some profile

/-- The profile of the base address, else that of the address itself. -/
def Answers (address profile : String) : Prop :=
  StoredFor tables stored (Email.stripPersona tables address).1 profile ∨
    (¬ ∃ other, StoredFor tables stored
      (Email.stripPersona tables address).1 other) ∧
      StoredFor tables stored address profile

/-- The profile of the address itself, else that of its base address. -/
def OwnFirst (address profile : String) : Prop :=
  StoredFor tables stored address profile ∨
    (¬ ∃ other, StoredFor tables stored address other) ∧
      StoredFor tables stored (Email.stripPersona tables address).1 profile

/-- The entries of a list that are not blank, in lower case. -/
def entries (raw : String) : List String :=
  ((Text.split ',' raw).map fun piece =>
    tables.toLowercase (Text.trim piece)).filter (· != "")

structure AnswersBatch (raw : String) (profiles : BatchProfiles) : Prop where
  answered : ∀ address ∈ entries tables raw, ∀ profile,
    (address, profile) ∈ profiles.results ↔ Answers tables stored address profile
  asked : ∀ result ∈ profiles.results, result.1 ∈ entries tables raw
  distinct : (profiles.results.map Prod.fst).Nodup
  sender : ∀ result, result ∈ profiles.senderProfile ↔
    result ∈ profiles.results ∧ (entries tables raw).head? = some result.1
  recipients : ∀ result, result ∈ profiles.recipientsProfile ↔
    result ∈ profiles.results ∧ (entries tables raw).head? ≠ some result.1

end Specification

/-! ## Distinct addresses -/

theorem mem_unseen {addr : String} (addresses seen : List String) :
    addr ∈ unseen seen addresses ↔ addr ∈ addresses ∧ addr ∉ seen := by
  induction addresses generalizing seen with
  | nil => simp [unseen]
  | cons head tail induction =>
      rw [unseen]
      split
      · next met =>
          rw [List.contains_iff_mem] at met
          rw [induction, List.mem_cons]
          constructor
          · exact fun ⟨member, new⟩ => ⟨.inr member, new⟩
          · rintro ⟨same | member, new⟩
            · exact absurd (same ▸ met) new
            · exact ⟨member, new⟩
      · next new =>
          rw [List.contains_iff_mem] at new
          rw [List.mem_cons, induction, List.mem_cons, List.mem_cons]
          by_cases same : addr = head
          · simp [same, new]
          · simp [same]

theorem nodup_unseen (addresses seen : List String) :
    (unseen seen addresses).Nodup := by
  induction addresses generalizing seen with
  | nil => exact List.nodup_nil
  | cons head tail induction =>
      rw [unseen]
      split
      · exact induction seen
      · rw [List.nodup_cons, mem_unseen]
        exact ⟨fun later => later.2 List.mem_cons_self, induction _⟩

theorem head?_unseen (addresses : List String) :
    (unseen [] addresses).head? = addresses.head? := by
  cases addresses with
  | nil => rfl
  | cons head tail => simp [unseen]

/-! ## The answer of the handler -/

section Handler

variable {state : HttpState} {world : World} {agent : String}

/-- The profile under the key of the base address, else under that of the
address. -/
def answerOf (tables : CaseTables) (stored : Stored) (addr : String) :
    Option String :=
  (stored (profileKey (Email.stripPersona tables addr).1)).or
    (stored (profileKey addr))

def answersOf (tables : CaseTables) (stored : Stored)
    (addresses : List String) : List (String × String) :=
  addresses.filterMap fun addr => (answerOf tables stored addr).map (addr, ·)

theorem fetchContactProfile_ends (calm : state.env.Calm) {addr : String}
    {ok : Option String → World → Prop} {failed : ε → World → Prop}
    (answer : ∀ later : World, later.db = world.db →
      ok (answerOf state.env.tables (world.db.agentStateAt agent) addr) later) :
    (fetchContactProfile state agent addr).Ends ok failed world := by
  rw [answerOf] at answer
  simp only [fetchContactProfile, ends_bind, ends_attempt,
    Storage.agentStateGet_ends calm]
  cases base : world.db.agentStateAt agent
      (profileKey (Email.stripPersona state.env.tables addr).1) with
  | some profile =>
      rw [base] at answer
      exact answer _ rfl
  | none =>
      rw [base, Option.none_or] at answer
      simp only [Option.map_none]
      split
      · simp only [ends_bind, ends_attempt, Storage.agentStateGet_ends calm,
          World.later_db]
        cases own : world.db.agentStateAt agent (profileKey addr) with
        | some profile =>
            rw [own] at answer
            exact answer _ rfl
        | none =>
            rw [own] at answer
            exact answer _ rfl
      · next same =>
          rw [not_not] at same
          rw [same] at base
          rw [base] at answer
          exact answer _ rfl

theorem fetchBatch_ends (calm : state.env.Calm) (addresses : List String)
    {position : Nat} {batch : BatchProfiles}
    {ok : BatchProfiles → World → Prop} {failed : ε → World → Prop}
    (later : 0 < position)
    (answer : ∀ after : World, ok ⟨batch.senderProfile,
        batch.recipientsProfile ++ answersOf state.env.tables
          (world.db.agentStateAt agent) addresses,
        batch.results ++ answersOf state.env.tables
          (world.db.agentStateAt agent) addresses⟩ after) :
    (fetchBatch state agent position addresses batch).Ends ok failed world := by
  induction addresses generalizing position batch world with
  | nil =>
      rw [fetchBatch, ends_pure]
      have same := answer world
      simpa [answersOf] using same
  | cons addr rest induction =>
      rw [fetchBatch, ends_bind]
      apply fetchContactProfile_ends calm
      intro fetched same
      rw [answersOf, List.filterMap_cons] at answer
      cases found : answerOf state.env.tables (world.db.agentStateAt agent)
          addr with
      | none =>
          rw [found] at answer
          apply induction (Nat.succ_pos position)
          rw [same]
          exact answer
      | some profile =>
          rw [found] at answer
          apply induction (Nat.succ_pos position)
          rw [same, BatchProfiles.insert, if_neg (Nat.ne_of_gt later)]
          simpa [answersOf] using answer

theorem fetchBatch_first (calm : state.env.Calm) (addresses : List String)
    {ok : BatchProfiles → World → Prop} {failed : ε → World → Prop}
    (answer : ∀ after : World, ok ⟨answersOf state.env.tables
          (world.db.agentStateAt agent) (addresses.take 1),
        answersOf state.env.tables (world.db.agentStateAt agent)
          (addresses.drop 1),
        answersOf state.env.tables (world.db.agentStateAt agent)
          addresses⟩ after) :
    (fetchBatch state agent 0 addresses ⟨[], [], []⟩).Ends ok failed world := by
  cases addresses with
  | nil =>
      rw [fetchBatch, ends_pure]
      exact answer world
  | cons addr rest =>
      rw [fetchBatch, ends_bind]
      apply fetchContactProfile_ends calm
      intro fetched same
      cases found : answerOf state.env.tables (world.db.agentStateAt agent)
          addr with
      | none =>
          apply fetchBatch_ends calm rest Nat.zero_lt_one
          intro after
          have settled := answer after
          rw [same]
          simpa [answersOf, found] using settled
      | some profile =>
          apply fetchBatch_ends calm rest Nat.zero_lt_one
          intro after
          have settled := answer after
          rw [same]
          simpa [answersOf, found, BatchProfiles.insert] using settled

theorem myProfile_ends (calm : state.env.Calm)
    {ok : Option (String × String) → World → Prop} {failed : ε → World → Prop}
    (answer : ∀ persona (later : World), later.db = world.db →
      ok persona later) :
    (myProfile state agent).Ends ok failed world := by
  rw [myProfile, ends_bind, ends_attempt, Storage.getDomainAddrMeta,
    calm.ends_query]
  split
  · split
    · exact answer _ _ rfl
    · exact answer _ _ rfl
  · exact answer _ _ rfl

theorem batchAnswer_ends (calm : state.env.Calm) {raw : String}
    (short : (queriedAddresses state raw).length ≤ 50)
    {ok : ContactsAnswer → World → Prop} {failed : HttpError → World → Prop}
    (answer : ∀ persona later, ok (.batch persona
      ⟨answersOf state.env.tables (world.db.agentStateAt agent)
          ((queriedAddresses state raw).take 1),
        answersOf state.env.tables (world.db.agentStateAt agent)
          ((queriedAddresses state raw).drop 1),
        answersOf state.env.tables (world.db.agentStateAt agent)
          (queriedAddresses state raw)⟩) later) :
    (batchAnswer state agent raw).Ends ok failed world := by
  rw [batchAnswer, if_neg (Nat.not_lt.mpr short), ends_bind, ends_check_ok,
    ends_bind]
  apply myProfile_ends calm
  intro persona asked same
  rw [ends_bind]
  apply fetchBatch_first calm
  intro after
  rw [ends_pure, same]
  exact answer persona after

theorem getContactsByName_ends (calm : state.env.Calm) {apiKey : ApiKeyRecord}
    (permitted : contactsOwner apiKey = .ok agent) {json : JsonText}
    {name : Option String} {list : String} (given : Text.trim list ≠ "")
    (short : (queriedAddresses state (Text.trim list)).length ≤ 50)
    {ok : ContactsAnswer → World → Prop} {failed : HttpError → World → Prop}
    (answer : ∀ persona later, ok (.batch persona
      ⟨answersOf state.env.tables (world.db.agentStateAt agent)
          ((queriedAddresses state (Text.trim list)).take 1),
        answersOf state.env.tables (world.db.agentStateAt agent)
          ((queriedAddresses state (Text.trim list)).drop 1),
        answersOf state.env.tables (world.db.agentStateAt agent)
          (queriedAddresses state (Text.trim list))⟩) later) :
    (getContactsByName state json apiKey name (some list)).Ends ok failed
      world := by
  have batch : ((some list).map Text.trim).filter (· != "") =
      some (Text.trim list) := by
    simp [Option.filter, given]
  have branch : getContactsByName state json apiKey name (some list) =
      check (contactsOwner apiKey) >>= fun owner =>
        batchAnswer state owner (Text.trim list) := by
    rw [getContactsByName, batch]
  rw [branch, ends_bind, permitted, ends_check_ok]
  -- the trimmed text would be computed when the two sides are unified
  clear branch batch
  generalize Text.trim list = raw at short answer ⊢
  exact batchAnswer_ends calm short answer

end Handler

/-! ## Addresses in lower case -/

section Letters

variable {tables : CaseTables} {stored : Stored}

def LowerKeys (tables : CaseTables) (stored : Stored) : Prop :=
  ∀ address profile, stored (profileKey address) = some profile →
    tables.toLowercase address = address

theorem storedFor_iff (lower : LowerKeys tables stored)
    {address profile : String} (own : tables.toLowercase address = address) :
    StoredFor tables stored address profile ↔
      stored (profileKey address) = some profile := by
  constructor
  · rintro ⟨spelling, same, found⟩
    have equal : spelling = address := by
      rw [← lower spelling profile found, same, own]
    rw [← equal]
    exact found
  · exact fun found => ⟨address, rfl, found⟩

theorem toLowercase_idem (settles : tables.Settles) (text : String) :
    tables.toLowercase (tables.toLowercase text) = tables.toLowercase text :=
  settles _ text fun _ letter => letter

theorem stripPersona_lower (settles : tables.Settles) {address : String}
    (own : tables.toLowercase address = address) :
    tables.toLowercase (Email.stripPersona tables address).1 =
      (Email.stripPersona tables address).1 := by
  rw [Email.stripPersona, own]
  split
  · exact own
  · next localPart domain cut =>
      split
      · exact own
      · next persona profile inner =>
          split
          · apply settles _ address
            intro letter member
            have outer := (Text.cut_of_splitOnce cut).1
            rw [(Text.cut_of_splitOnce inner).1] at outer
            rw [own, outer]
            simp only [String.toList_append, List.mem_append] at member
            rcases member with (inProfile | at_) | inDomain
            · simp [inProfile]
            · have sign : letter = '@' := by simpa using at_
              simp [sign]
            · simp [inDomain]
          · exact own

theorem answerOf_iff (settles : tables.Settles) (lower : LowerKeys tables stored)
    {address profile : String} (own : tables.toLowercase address = address) :
    answerOf tables stored address = some profile ↔
      Answers tables stored address profile := by
  have base := stripPersona_lower settles own
  simp only [Answers, storedFor_iff lower base, storedFor_iff lower own,
    answerOf]
  cases stored (profileKey (Email.stripPersona tables address).1) with
  | none => simp
  | some other => simp

theorem mem_answersOf {addresses : List String} {address profile : String} :
    (address, profile) ∈ answersOf tables stored addresses ↔
      address ∈ addresses ∧ answerOf tables stored address = some profile := by
  rw [answersOf, List.mem_filterMap]
  constructor
  · rintro ⟨queried, member, found⟩
    rw [Option.map_eq_some_iff] at found
    rcases found with ⟨text, found, same⟩
    cases same
    exact ⟨member, found⟩
  · rintro ⟨member, found⟩
    exact ⟨address, member, by rw [found, Option.map_some]⟩

theorem answersOf_fst (addresses : List String) :
    ((answersOf tables stored addresses).map Prod.fst).Sublist addresses := by
  induction addresses with
  | nil => exact List.Sublist.slnil
  | cons head tail induction =>
      rw [answersOf, List.filterMap_cons]
      cases answerOf tables stored head with
      | none => exact induction.cons head
      | some profile => exact induction.cons_cons head

theorem lower_of_mem_entries (settles : tables.Settles) {raw address : String}
    (member : address ∈ entries tables raw) :
    tables.toLowercase address = address := by
  rw [entries, List.mem_filter, List.mem_map] at member
  rcases member with ⟨⟨piece, -, same⟩, -⟩
  rw [← same, toLowercase_idem settles]

theorem answersBatch (settles : tables.Settles) (lower : LowerKeys tables stored)
    (raw : String) {addresses : List String}
    (queried : addresses = unseen [] (entries tables raw)) :
    AnswersBatch tables stored raw
      ⟨answersOf tables stored (addresses.take 1),
        answersOf tables stored (addresses.drop 1),
        answersOf tables stored addresses⟩ := by
  have listed : ∀ address, address ∈ addresses ↔ address ∈ entries tables raw := by
    intro address
    rw [queried, mem_unseen]
    simp
  have distinct : addresses.Nodup := queried ▸ nodup_unseen _ _
  have first : (entries tables raw).head? = addresses.head? := by
    rw [queried, head?_unseen]
  refine ⟨?_, ?_, ?_, ?_, ?_⟩
  · intro address member profile
    rw [mem_answersOf, listed, answerOf_iff settles lower
      (lower_of_mem_entries settles member)]
    exact and_iff_right member
  · rintro ⟨address, profile⟩ member
    rw [mem_answersOf, listed] at member
    exact member.1
  · exact distinct.sublist (answersOf_fst addresses)
  · rintro ⟨address, profile⟩
    rw [mem_answersOf, mem_answersOf, first]
    cases addresses with
    | nil => simp
    | cons head tail =>
        rw [List.take_succ_cons, List.take_zero, List.mem_singleton,
          List.head?_cons, Option.some_inj]
        constructor
        · rintro ⟨rfl, found⟩
          exact ⟨⟨List.mem_cons_self, found⟩, rfl⟩
        · rintro ⟨⟨-, found⟩, same⟩
          exact ⟨same.symm, found⟩
  · rintro ⟨address, profile⟩
    rw [mem_answersOf, mem_answersOf, first]
    cases addresses with
    | nil => simp
    | cons head tail =>
        rw [List.drop_succ_cons, List.drop_zero, List.mem_cons,
          List.head?_cons, ne_eq, Option.some_inj]
        have apart := (List.nodup_cons.mp distinct).1
        constructor
        · rintro ⟨member, found⟩
          refine ⟨⟨.inr member, found⟩, ?_⟩
          intro same
          exact apart (same ▸ member)
        · rintro ⟨⟨same | member, found⟩, different⟩
          · exact absurd same.symm different
          · exact ⟨member, found⟩

end Letters

/-! ## Runs of writes under addresses in lower case -/

section Runs

variable {state : HttpState} {json : JsonText} {world : World} {agent : String}

theorem LowerKeys.puts (calm : state.env.Calm) (requests : List PutRequest)
    (kept : LowerKeys state.env.tables (world.db.agentStateAt agent))
    (lower : ∀ request ∈ requests, contactsOwner request.apiKey = .ok agent →
      state.env.tables.toLowercase request.address = request.address) :
    LowerKeys state.env.tables
      ((afterPuts state json world requests).db.agentStateAt agent) := by
  induction requests generalizing world with
  | nil => exact kept
  | cons request rest induction =>
      rw [afterPuts, List.foldl_cons, ← afterPuts]
      rw [List.forall_mem_cons] at lower
      apply induction _ lower.2
      by_cases permitted : contactsOwner request.apiKey = .ok agent
      · rw [afterPut_own calm permitted]
        intro address profile found
        rw [putProfile_profile] at found
        split at found
        · next same =>
            rw [same]
            exact lower.1 permitted
        · exact kept address profile found
      · rw [afterPut_other calm permitted]
        exact kept

end Runs

/-- A list of at most 50 addresses is answered with the profile of the base
address of each, else with its own; the first that is not blank is the sender.
-/
theorem contactLookup_baseFirst (state : HttpState) (json : JsonText)
    (calm : state.env.Calm) (settles : state.env.tables.Settles)
    (agent : String) (world : World)
    (noProfile : ∀ address,
      world.db.agentStateAt agent (profileKey address) = none)
    (requests : List PutRequest)
    (lower : ∀ request ∈ requests, contactsOwner request.apiKey = .ok agent →
      state.env.tables.toLowercase request.address = request.address)
    (apiKey : ApiKeyRecord) (permitted : contactsOwner apiKey = .ok agent)
    (name : Option String) (list : String) (given : Text.trim list ≠ "")
    (short : (queriedAddresses state (Text.trim list)).length ≤ 50) :
    ∃ persona profiles later,
      (getContactsByName state json apiKey name (some list)).run
          (afterPuts state json world requests) =
        (.ok (.batch persona profiles), later) ∧
      AnswersBatch state.env.tables
        ((afterPuts state json world requests).db.agentStateAt agent)
        (Text.trim list) profiles := by
  have keys : LowerKeys state.env.tables
      ((afterPuts state json world requests).db.agentStateAt agent) := by
    apply LowerKeys.puts calm requests _ lower
    intro address profile found
    rw [noProfile] at found
    cases found
  have batch := answersBatch settles keys (Text.trim list) rfl
  have ends : (getContactsByName state json apiKey name (some list)).Ends
      (fun answer _ => ∃ persona profiles, answer = .batch persona profiles ∧
        AnswersBatch state.env.tables
          ((afterPuts state json world requests).db.agentStateAt agent)
          (Text.trim list) profiles)
      (fun _ _ => False) (afterPuts state json world requests) := by
    apply getContactsByName_ends calm permitted given short
    exact fun persona _ => ⟨persona, _, rfl, batch⟩
  rcases ran : (getContactsByName state json apiKey name (some list)).run
    (afterPuts state json world requests) with ⟨error | answer, later⟩
  · exact ((ends_iff_run.mp ends).2 error later ran).elim
  · rcases ends.of_ok ran with ⟨persona, profiles, rfl, answers⟩
    exact ⟨persona, profiles, later, rfl, answers⟩

/-! ## A contact that is taken for another one -/

def putDoe : PutRequest where
  apiKey := agentKey
  address := "doe@x.org"
  profile := bobProfile

def putJohnDoe : PutRequest where
  apiKey := agentKey
  address := "john.doe@x.org"
  profile := robProfile

def doeWorld : World :=
  afterPuts sampleState sampleJson (World.start Database.empty)
    [putDoe, putJohnDoe]

theorem ascii_settles : Text.asciiTables.Settles := by
  intro text other letters
  apply String.toList_injective
  simp only [Text.asciiTables, Text.toAsciiLowercase, String.toList_ofList]
    at letters ⊢
  have kept : ∀ letter ∈ text.toList, letter.toLower = id letter := by
    intro letter member
    rcases List.mem_map.mp (letters letter member) with ⟨upper, -, rfl⟩
    exact Board.AddressForms.toLower_toLower upper
  rw [List.map_congr_left kept, List.map_id]

theorem doeWorld_lower :
    ∀ request ∈ [putDoe, putJohnDoe],
      contactsOwner request.apiKey = .ok "ann@a.test" →
      sampleState.env.tables.toLowercase request.address = request.address := by
  intro request member _
  rcases List.mem_pair.mp member with rfl | rfl
  · decide
  · decide

theorem contactLookup_baseFirst_twice :
    ∃ persona profiles later,
      (getContactsByName sampleState sampleJson agentKey none
          (some " Bob@x.org,,bob@x.org,doe@x.org")).run
          (afterPuts sampleState sampleJson (World.start Database.empty)
            [putDoe, putJohnDoe]) =
        (.ok (.batch persona profiles), later) ∧
      AnswersBatch sampleState.env.tables
        ((afterPuts sampleState sampleJson (World.start Database.empty)
          [putDoe, putJohnDoe]).db.agentStateAt "ann@a.test")
        (Text.trim " Bob@x.org,,bob@x.org,doe@x.org") profiles :=
  contactLookup_baseFirst sampleState sampleJson
    (Surroundings.steady_calm 0 "0123456789abcdef") ascii_settles "ann@a.test"
    (World.start Database.empty) (fun _ => rfl) [putDoe, putJohnDoe]
    doeWorld_lower agentKey (by decide +kernel) none
    " Bob@x.org,,bob@x.org,doe@x.org" (by decide +kernel) (by decide +kernel)

/-- The query for one contact is answered with the profile of another one. -/
theorem johnDoe_gets_doe :
    ((getContactsByName sampleState sampleJson agentKey none
        (some "john.doe@x.org")).run doeWorld).1 =
      .ok (.batch none ⟨[("john.doe@x.org", bobProfile)], [],
        [("john.doe@x.org", bobProfile)]⟩) ∧
    ¬ OwnFirst sampleState.env.tables (doeWorld.db.agentStateAt "ann@a.test")
      "john.doe@x.org" bobProfile := by
  have keys : LowerKeys sampleState.env.tables
      (doeWorld.db.agentStateAt "ann@a.test") :=
    LowerKeys.puts (Surroundings.steady_calm 0 "0123456789abcdef")
      [putDoe, putJohnDoe] nofun doeWorld_lower
  have own : doeWorld.db.agentStateAt "ann@a.test"
      (profileKey "john.doe@x.org") = some robProfile := by
    decide +kernel
  have reads : ∀ profile, StoredFor sampleState.env.tables
      (doeWorld.db.agentStateAt "ann@a.test") "john.doe@x.org" profile ↔ _ :=
    fun profile => storedFor_iff keys (by decide +kernel)
  refine ⟨by decide +kernel, ?_⟩
  rintro (john | ⟨missing, -⟩)
  · rw [reads, own] at john
    exact absurd john (by decide)
  · exact missing ⟨robProfile, (reads robProfile).mpr own⟩

end Contacts

end AimailGateway
