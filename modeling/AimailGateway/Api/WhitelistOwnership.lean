import AimailGateway.Api.WhitelistOutcomes
import AimailGateway.Library.Execution

/-! # Who changes a whitelist rule

The whitelist endpoints as one request type and the runs of such requests. A
request respects ownership when it changes and deletes only rules its caller
owns, acts on the rule it names, and answers a creation with the rule it wrote.
-/

namespace AimailGateway.Api

open Library Action

inductive WhitelistRequest where
  | create (req : CreateWhitelistRequest)
  | list (domain : Option String)
  | check (query : CheckWhitelistQuery)
  | update (id : Int) (req : UpdateWhitelistRequest)
  | delete (id : Int)
  | updateByParams (query : WhitelistByParams) (req : UpdateWhitelistRequest)
  | deleteByParams (query : WhitelistByParams)
  deriving DecidableEq, Repr

namespace WhitelistRequest

/-- The handler of a request, answering with the rules it returns. -/
def handle (state : HttpState) (caller : ApiKeyRecord) :
    WhitelistRequest → Handler (List WhitelistResponse)
  | .create req => do
      let response ← createWhitelist state caller req
      return [response]
  | .list domain => listWhitelists state caller domain
  | .check query => do
      let _ ← checkWhitelist state caller query
      return []
  | .update id req => do
      let response ← updateWhitelist state caller id req
      return [response]
  | .delete id => do
      deleteWhitelist state caller id
      return []
  | .updateByParams query req => do
      let response ← updateWhitelistByParams state caller query req
      return [response]
  | .deleteByParams query => do
      deleteWhitelistByParams state caller query
      return []

/-- The parameters of a request that names its rule by them. -/
def params : WhitelistRequest → Option WhitelistByParams
  | .updateByParams query _ | .deleteByParams query => some query
  | _ => none

def isCreate : WhitelistRequest → Bool
  | .create _ => true
  | _ => false

end WhitelistRequest

/-- A request with its caller, the time it is served and the rules it was
answered with. -/
structure WhitelistEvent where
  caller : ApiKeyRecord
  request : WhitelistRequest
  tick : Nat
  responses : List WhitelistResponse

/-- The caller owns the rule: by the key that created it or, for an agent
admin, by managing its address. -/
def Owner (tables : CaseTables) (db : Database) (caller : ApiKeyRecord)
    (row : WhitelistRecord) : Prop :=
  (isAgentScope caller = true → isAgentAdminScope caller = false →
    row.apiKeyId = some caller.id) ∧
  (isAgentAdminScope caller = true →
    Manages tables db caller row.domainAddr)

/-- A rule that was there before a request and no longer is: it was changed or
deleted. -/
def Touched (first last : Database) (row : WhitelistRecord) : Prop :=
  row ∈ first.whitelists ∧ row ∉ last.whitelists

structure Respects (tables : CaseTables) (first : Database)
    (event : WhitelistEvent) (last : Database) : Prop where
  owner : ∀ row, Touched first last row → Owner tables first event.caller row
  /-- An admin deletes no rule of an agent, and edits none by parameters. -/
  admin : isPlatformAdminScope event.caller = true ∨
      isSystemAdminScope event.caller = true →
    ∀ row, Touched first last row → isAgentEntry row = true →
      event.request.params = none ∧
        ∃ kept ∈ last.whitelists, kept.id = row.id
  /-- A request by parameters acts on the rule it names. -/
  named : ∀ query, event.request.params = some query →
    ∀ row, Touched first last row →
      row.domainAddr = query.domainAddr ∧ row.value = query.value
  /-- A creation changes only a rule its caller could have updated. -/
  updatable : event.request.isCreate = true →
    ∀ row, Touched first last row → MayUpdate tables first event.caller row
  /-- A creation answers with the id of the rule it wrote. -/
  answered : event.request.isCreate = true →
    ∀ response ∈ event.responses, ∃ row ∈ last.whitelists,
      row.id = response.id ∧
        row.rule = (response.systemId, response.domainAddr, response.value)

/-- A creation finds its rule free, or held by a row the caller may update and,
when asked, inserted last; a request by parameters can match only rules of the
address it names and, from an admin, none of an agent. -/
def Orderly (state : HttpState) (db : Database) (caller : ApiKeyRecord)
    (tick : Nat) : WhitelistRequest → Prop
  | .create req =>
      MayCreate state.env.tables db caller req.domainAddr →
      (WhitelistDirection.parse req.direction).isSome →
      ∀ domain ∈ db.systemDomains, domain.domain = req.domainAddr →
      ∀ row ∈ db.whitelists,
        row.rule = (domain.systemId, req.domainAddr, req.value) →
        MayUpdate state.env.tables db caller row ∧
          state.env.lastInsertRowid
            (rowidTick state caller req.domainAddr ⟨db, tick⟩) = row.id
  | .updateByParams query _ | .deleteByParams query =>
      ∀ row, Matched state.env.tables db caller query row →
        row.domainAddr = query.domainAddr ∧
          (isPlatformAdminScope caller = true ∨
            isSystemAdminScope caller = true → isAgentEntry row = false)
  | .list _ | .check _ | .update _ _ | .delete _ => True

/-- The rules an outcome answers with; an error answers with none. -/
def answers : Except HttpError (List WhitelistResponse) →
    List WhitelistResponse
  | .ok responses => responses
  | .error _ => []

def Serves (state : HttpState) (first : Database) (event : WhitelistEvent)
    (last : Database) : Prop :=
  ∃ outcome world,
    event.request.handle state event.caller ⟨first, event.tick⟩ =
        (outcome, world) ∧
      world.db = last ∧ event.responses = answers outcome

section Ownership

variable {tables : CaseTables} {state : HttpState} {db : Database}
  {caller : ApiKeyRecord}
  {request : WhitelistRequest}
  {query : WhitelistByParams} {tick : Nat}
  {responses : List WhitelistResponse} {req : UpdateWhitelistRequest}
  {entry row : WhitelistRecord}

theorem respects_unchanged {last : Database}
    (same : last = db) (noAnswer : request.isCreate = true → responses = []) :
    Respects tables db ⟨caller, request, tick, responses⟩ last := by
  subst same
  have untouched (row : WhitelistRecord) : ¬Touched last last row :=
    fun touched => touched.2 touched.1
  exact
    { owner := fun row touched => absurd touched (untouched row)
      admin := fun _ row touched => absurd touched (untouched row)
      named := fun _ _ row touched => absurd touched (untouched row)
      updatable := fun _ row touched => absurd touched (untouched row)
      answered := fun isCreate response listed => by
        rw [noAnswer isCreate] at listed
        cases listed }

theorem touched_update {whitelists : Whitelists}
    {change : WhitelistRecord → WhitelistRecord}
    (member : entry ∈ db.whitelists)
    (updated : db.whitelists.update? (·.id == entry.id) change =
      some whitelists)
    (touched : Touched db { db with whitelists } row) :
    row = entry ∧ change entry ∈ whitelists := by
  have written : change entry ∈ whitelists :=
    (Table.mem_of_update? updated).mpr ⟨entry, member, by simp⟩
  refine ⟨?_, written⟩
  by_contra different
  apply touched.2
  refine (Table.mem_of_update? updated).mpr ⟨row, touched.1, if_neg ?_⟩
  intro sameId
  exact different (Whitelists.eq_of_id touched.1 member (by simpa using sameId))

theorem touched_delete (member : entry ∈ db.whitelists)
    (touched : Touched db
      { db with whitelists := db.whitelists.delete (·.id == entry.id) } row) :
    row = entry := by
  by_contra different
  apply touched.2
  refine Table.mem_delete.mpr ⟨touched.1, ?_⟩
  rw [beq_eq_false_iff_ne]
  exact fun sameId => different (Whitelists.eq_of_id touched.1 member sameId)

theorem owner_of_mayUpdate {row : WhitelistRecord}
    (may : MayUpdate tables db caller row) : Owner tables db caller row := by
  rw [MayUpdate] at may
  constructor
  · intro agent notManager
    rw [agent, Bool.true_or, if_pos rfl] at may
    have own := may.1
    rw [notManager] at own
    simpa using own
  · intro manager
    rw [manager, Bool.or_true, if_pos rfl] at may
    have own := may.1
    rw [manager] at own
    simpa using own

private theorem create_respects {req : CreateWhitelistRequest}
    (orderly : Orderly state db caller tick (.create req)) :
    (createWhitelist state caller req).Ends
      (fun response later =>
        Respects state.env.tables db ⟨caller, .create req, tick, [response]⟩ later.db)
      (fun _ later =>
        Respects state.env.tables db ⟨caller, .create req, tick, []⟩ later.db)
      ⟨db, tick⟩ := by
  apply createWhitelist_ends
  · exact fun _ _ same => respects_unchanged same fun _ => rfl
  · intro may domain member named parsed category apiKeyId createdAt answer
      later parsing executed
    have condition := orderly may (by rw [parsing]; rfl) domain member named
    rcases Storage.upsertWhitelist_ok executed with
      ⟨answerIs, free, whitelists, insertion, lastIs⟩ |
      ⟨answerIs, existing, stored, rule, whitelists, updated, lastIs⟩
    · -- A free rule: nothing that was there is touched.
      have untouched (row : WhitelistRecord)
          (touched : Touched db later.db row) : False := by
        apply touched.2
        rw [lastIs]
        exact (Table.mem_of_insert? insertion).mpr (Or.inl touched.1)
      rw [answerIs]
      exact
        { owner := fun row touched => (untouched row touched).elim
          admin := fun _ row touched => (untouched row touched).elim
          named := fun _ _ row touched => (untouched row touched).elim
          updatable := fun _ row touched => (untouched row touched).elim
          answered := fun _ response listed => by
            rw [List.mem_singleton] at listed
            subst listed
            rw [lastIs]
            exact ⟨_, (Table.mem_of_insert? insertion).mpr (Or.inr rfl), rfl,
              rfl⟩ }
    · -- The row that holds the rule is overwritten.
      rcases condition existing stored rule with ⟨update, lastRowid⟩
      have written : Storage.overwriteWhitelist _ existing ∈ whitelists :=
        (Table.mem_of_update? updated).mpr
          ⟨existing, stored, if_pos (by simpa using rule)⟩
      have only (row : WhitelistRecord)
          (touched : Touched db { db with whitelists } row) : row = existing := by
        by_contra different
        apply touched.2
        refine (Table.mem_of_update? updated).mpr ⟨row, touched.1, if_neg ?_⟩
        intro sameRule
        rw [beq_iff_eq] at sameRule
        exact different
          (Whitelists.eq_of_rule touched.1 stored (sameRule.trans rule.symm))
      rw [lastIs, answerIs]
      exact
        { owner := fun row touched => by
            rw [only row touched]
            exact owner_of_mayUpdate update
          admin := fun _ row touched _ => by
            rw [only row touched]
            exact ⟨rfl, _, written, rfl⟩
          named := fun query isParams => by cases isParams
          updatable := fun _ row touched => by
            rw [only row touched]
            exact update
          answered := fun _ response listed => by
            rw [List.mem_singleton] at listed
            subst listed
            exact ⟨_, written, lastRowid.symm, rule⟩ }

/-- What every request by id or by parameters comes down to: the one row it
touches is its caller's, and is not an agent's where an admin deletes it or
names it by parameters. -/
private theorem respects_one
    {last : Database}
    {entry : WhitelistRecord} (notCreate : request.isCreate = false)
    (only : ∀ row, Touched db last row → row = entry)
    (own : Owner tables db caller entry)
    (admin : isPlatformAdminScope caller = true ∨
        isSystemAdminScope caller = true → isAgentEntry entry = true →
      Touched db last entry → request.params = none ∧
        ∃ kept ∈ last.whitelists, kept.id = entry.id)
    (named : ∀ query, request.params = some query →
      entry.domainAddr = query.domainAddr ∧ entry.value = query.value) :
    Respects tables db ⟨caller, request, tick, responses⟩ last :=
  { owner := fun row touched => by
      rw [only row touched]
      exact own
    admin := fun scope row touched agent => by
      have equal := only row touched
      subst equal
      exact admin scope agent touched
    named := fun query isParams row touched => by
      rw [only row touched]
      exact named query isParams
    updatable := fun isCreate => by
      rw [notCreate] at isCreate
      cases isCreate
    answered := fun isCreate => by
      rw [notCreate] at isCreate
      cases isCreate }

private theorem update_respects {id : Int} :
    (updateWhitelist state caller id req).Ends
      (fun response later => Respects state.env.tables db
        ⟨caller, .update id req, tick, [response]⟩ later.db)
      (fun _ later =>
        Respects state.env.tables db ⟨caller, .update id req, tick, []⟩ later.db)
      ⟨db, tick⟩ := by
  apply updateWhitelist_ends
  · exact fun _ _ same => respects_unchanged same fun _ => rfl
  · intro _ entry member _ may parsed whitelists later updated changed
    rw [changed]
    apply respects_one rfl
    · exact fun row touched => (touched_update member updated touched).1
    · exact owner_of_mayUpdate may
    · intro _ _ touched
      exact ⟨rfl, _, (touched_update member updated touched).2, rfl⟩
    · exact fun query isParams => by cases isParams

private theorem delete_respects {id : Int} :
    (deleteWhitelist state caller id).Ends
      (fun _ later =>
        Respects state.env.tables db ⟨caller, .delete id, tick, []⟩ later.db)
      (fun _ later =>
        Respects state.env.tables db ⟨caller, .delete id, tick, []⟩ later.db)
      ⟨db, tick⟩ := by
  apply deleteWhitelist_ends
  · exact fun _ _ same => respects_unchanged same fun _ => rfl
  · intro entry member sameId may later deleted
    subst sameId
    rw [deleted]
    apply respects_one rfl
    · exact fun row => touched_delete member
    · exact owner_of_mayUpdate may.1
    · intro scope agent
      rw [may.2 scope] at agent
      cases agent
    · exact fun query isParams => by cases isParams

theorem owner_of_matched {entry : WhitelistRecord}
    (matched : Matched tables db caller query entry)
    (named : entry.domainAddr = query.domainAddr) :
    Owner tables db caller entry := by
  have own := matched.2.2.2
  constructor
  · intro agent notManager
    rw [agent, Bool.true_or, if_pos rfl, notManager] at own
    simpa using own
  · intro manager
    rw [manager, Bool.or_true, if_pos rfl, if_pos rfl] at own
    rw [named]
    exact own

private theorem updateByParams_respects
    (orderly : Orderly state db caller tick (.updateByParams query req)) :
    (updateWhitelistByParams state caller query req).Ends
      (fun response later => Respects state.env.tables db
        ⟨caller, .updateByParams query req, tick, [response]⟩ later.db)
      (fun _ later => Respects state.env.tables db
        ⟨caller, .updateByParams query req, tick, []⟩ later.db)
      ⟨db, tick⟩ := by
  apply updateWhitelistByParams_ends
  · exact fun _ _ same => respects_unchanged same fun _ => rfl
  · intro _ entry matched parsed whitelists later updated changed
    rcases orderly entry matched with ⟨named, notAgentEntry⟩
    rw [changed]
    apply respects_one rfl
    · exact fun row touched => (touched_update matched.1 updated touched).1
    · exact owner_of_matched matched named
    · intro scope agent
      rw [notAgentEntry scope] at agent
      cases agent
    · intro other isParams
      cases isParams
      exact ⟨named, matched.2.1⟩

private theorem deleteByParams_respects
    (orderly : Orderly state db caller tick (.deleteByParams query)) :
    (deleteWhitelistByParams state caller query).Ends
      (fun _ later => Respects state.env.tables db
        ⟨caller, .deleteByParams query, tick, []⟩ later.db)
      (fun _ later => Respects state.env.tables db
        ⟨caller, .deleteByParams query, tick, []⟩ later.db)
      ⟨db, tick⟩ := by
  apply deleteWhitelistByParams_ends
  · exact fun _ _ same => respects_unchanged same fun _ => rfl
  · intro entry matched later deleted
    rcases orderly entry matched with ⟨named, notAgentEntry⟩
    rw [deleted]
    apply respects_one rfl
    · exact fun row => touched_delete matched.1
    · exact owner_of_matched matched named
    · intro scope agent
      rw [notAgentEntry scope] at agent
      cases agent
    · intro other isParams
      cases isParams
      exact ⟨named, matched.2.1⟩

theorem handle_respects
    (orderly : Orderly state db caller tick request) :
    (request.handle state caller).Ends
      (fun responses later =>
        Respects state.env.tables db ⟨caller, request, tick, responses⟩ later.db)
      (fun _ later =>
        Respects state.env.tables db ⟨caller, request, tick, []⟩ later.db)
      ⟨db, tick⟩ := by
  cases request with
  | create req =>
      rw [WhitelistRequest.handle, ends_bind]
      exact create_respects orderly
  | list domain =>
      apply listWhitelists_ends
      · exact fun _ _ same => respects_unchanged same fun _ => rfl
      · intro rows later _ same
        exact respects_unchanged same fun isCreate => by cases isCreate
  | check query =>
      rw [WhitelistRequest.handle, ends_bind]
      apply checkWhitelist_ends
      · exact fun _ _ same => respects_unchanged same fun _ => rfl
      · exact fun _ _ same => respects_unchanged same fun _ => rfl
  | update id req =>
      rw [WhitelistRequest.handle, ends_bind]
      exact update_respects
  | delete id =>
      rw [WhitelistRequest.handle, ends_bind]
      exact delete_respects
  | updateByParams query req =>
      rw [WhitelistRequest.handle, ends_bind]
      exact updateByParams_respects orderly
  | deleteByParams query =>
      rw [WhitelistRequest.handle, ends_bind]
      exact deleteByParams_respects orderly

theorem handle_keepsMeta (state : HttpState) (caller : ApiKeyRecord)
    (db : Database) (request : WhitelistRequest) (tick : Nat) :
    (request.handle state caller).Ends
      (fun _ later => later.db.domainAddrMeta = db.domainAddrMeta)
      (fun _ later => later.db.domainAddrMeta = db.domainAddrMeta)
      ⟨db, tick⟩ := by
  have unchanged (later : World) (same : later.db = db) :
      later.db.domainAddrMeta = db.domainAddrMeta := by
    rw [same]
  cases request with
  | create req =>
      rw [WhitelistRequest.handle, ends_bind]
      apply createWhitelist_ends
      · exact fun _ => unchanged
      · intro _ _ _ _ parsed category apiKeyId createdAt answer later _ executed
        rcases Storage.upsertWhitelist_ok executed with
          ⟨_, _, whitelists, _, lastIs⟩ | ⟨_, _, _, _, whitelists, _, lastIs⟩
        · rw [ends_pure, lastIs]
        · rw [ends_pure, lastIs]
  | list domain =>
      apply listWhitelists_ends
      · exact fun _ => unchanged
      · exact fun _ later _ => unchanged later
  | check query =>
      rw [WhitelistRequest.handle, ends_bind]
      apply checkWhitelist_ends
      · exact fun _ => unchanged
      · exact fun _ => unchanged
  | update id req =>
      rw [WhitelistRequest.handle, ends_bind]
      apply updateWhitelist_ends
      · exact fun _ => unchanged
      · exact fun _ _ _ _ _ _ _ _ _ changed =>
          by rw [ends_pure, changed]
  | delete id =>
      rw [WhitelistRequest.handle, ends_bind]
      apply deleteWhitelist_ends
      · exact fun _ => unchanged
      · exact fun _ _ _ _ _ deleted => by rw [ends_pure, deleted]
  | updateByParams query req =>
      rw [WhitelistRequest.handle, ends_bind]
      apply updateWhitelistByParams_ends
      · exact fun _ => unchanged
      · exact fun _ _ _ _ _ _ _ changed =>
          by rw [ends_pure, changed]
  | deleteByParams query =>
      rw [WhitelistRequest.handle, ends_bind]
      apply deleteWhitelistByParams_ends
      · exact fun _ => unchanged
      · exact fun _ _ _ deleted => by rw [ends_pure, deleted]

end Ownership

/-! ## Runs -/

section Runs

variable {state : HttpState} {first last : Database} {event : WhitelistEvent}

theorem Serves.respects (served : Serves state first event last)
    (orderly : Orderly state first event.caller event.tick event.request) :
    Respects state.env.tables first event last := by
  rcases served with ⟨outcome, world, handled, lastIs, answered⟩
  have ends := handle_respects orderly
  rw [Ends, handled] at ends
  rcases event with ⟨caller, request, tick, responses⟩
  subst lastIs
  simp only at answered
  subst answered
  cases outcome with
  | ok answer => exact ends
  | error error => exact ends

theorem Serves.keepsMeta (served : Serves state first event last) :
    last.domainAddrMeta = first.domainAddrMeta := by
  rcases served with ⟨outcome, world, handled, lastIs, _⟩
  have ends := handle_keepsMeta state event.caller first event.request
    event.tick
  rw [Ends, handled] at ends
  rw [← lastIs]
  cases outcome with
  | ok answer => exact ends
  | error error => exact ends

/-- The steps whose request meets its condition. -/
def OrderlyStep (state : HttpState) :
    Database → WhitelistEvent → Database → Prop :=
  Guarded (fun db event =>
      Orderly state db event.caller event.tick event.request) (Serves state)

theorem touched_by_owner {events : List WhitelistEvent}
    (run : Run (OrderlyStep state) first events last) :
    ∀ row, Touched first last row →
      ∃ event ∈ events, Owner state.env.tables first event.caller row := by
  induction run with
  | nil db => exact fun row touched => absurd touched.1 touched.2
  | @cons first second last event events step rest induction =>
      intro row touched
      have respects := step.2.respects step.1
      by_cases kept : row ∈ second.whitelists
      · rcases induction row ⟨kept, touched.2⟩ with ⟨later, member, owner⟩
        refine ⟨later, List.mem_cons_of_mem _ member, owner.1, fun manager => ?_⟩
        have manages := owner.2 manager
        rw [Manages, step.2.keepsMeta] at manages
        exact manages
      · exact ⟨event, List.mem_cons_self,
          respects.owner row ⟨touched.1, kept⟩⟩

/-- In every run of requests that meet their condition each respects ownership,
and a rule is changed or deleted only by its owners. -/
theorem whitelist_rows_have_one_owner (state : HttpState)
    (first last : Database) (events : List WhitelistEvent)
    (run : Run (OrderlyStep state) first events last) :
    Run (fun db event next => Serves state db event next ∧
      Respects state.env.tables db event next) first events last ∧
    ∀ row, Touched first last row →
      ∃ event ∈ events, Owner state.env.tables first event.caller row := by
  refine ⟨?_, touched_by_owner run⟩
  induction run with
  | nil db => exact .nil db
  | cons step rest induction =>
      exact .cons ⟨step.2, step.2.respects step.1⟩ induction

end Runs

/-! ## Requests that reach another owner's rule -/

def sampleRule (id : Int) (domainAddr value category : String)
    (apiKeyId : Option Int) (isActive : Bool) : WhitelistRecord where
  id := id
  systemId := "sys-a"
  domainAddr := domainAddr
  direction := .dirAll
  value := value
  description := none
  isActive := isActive
  createdAt := 0
  category := category
  apiKeyId := apiKeyId

def sampleDomain (id domain : String) : SystemDomainRecord where
  id := id
  systemId := "sys-a"
  domain := domain
  webhookUrl := none
  webhookSecret := none
  isActive := true
  createdAt := 0
  updatedAt := 0

def sampleMeta (email managerAddress : String) : DomainAddrMetaRecord where
  emailAddress := email
  systemId := "sys-a"
  managerAddress := managerAddress
  agentSignature := ""
  agentPersona := ""
  isActive := true
  createdAt := 0
  updatedAt := 0

def annAgent : ApiKeyRecord :=
  sampleKey 1 "sys-a" "ann@a.test" "hash-1" ["agent"] "agent"

/-- An agent admin who manages `ann@a.test` and no other agent. -/
def annManager : ApiKeyRecord :=
  sampleKey 2 "sys-a" "mia@a.test" "hash-2" ["agent_admin"] "agent_admin"

/-- Two agents of one system. The rule of `ann@a.test` for its manager was
created with the address and deactivated by an administrator since; the other
two rules are each agent's own. -/
def twoAgents : Database :=
  { Database.empty with
    systemDomains := ⟨[sampleDomain "d1" "ann@a.test",
      sampleDomain "d2" "bob@a.test"], by decide⟩
    domainAddrMeta := ⟨[sampleMeta "ann@a.test" "mia@a.test",
      sampleMeta "bob@a.test" "zoe@a.test"], by decide⟩
    whitelists := ⟨[sampleRule 1 "ann@a.test" "mia@a.test" "system" none false,
      sampleRule 2 "bob@a.test" "pal@b.test" "agent" (some 3) true,
      sampleRule 3 "ann@a.test" "eve@b.test" "agent" (some 1) true], by decide⟩
    whitelistSequence := 3 }

def reactivateManagerRule : WhitelistRequest :=
  .create ⟨"sys-a", "ann@a.test", "all", "mia@a.test", none⟩

def deletePalOfAnn : WhitelistRequest :=
  .deleteByParams ⟨"ann@a.test", "pal@b.test"⟩

def afterRequest (state : HttpState) (tick : Nat) (db : Database)
    (caller : ApiKeyRecord) (request : WhitelistRequest) : Database :=
  (request.handle state caller ⟨db, tick⟩).2.db

def answersTo (state : HttpState) (tick : Nat) (db : Database)
    (caller : ApiKeyRecord) (request : WhitelistRequest) : WhitelistEvent :=
  ⟨caller, request, tick, answers (request.handle state caller ⟨db, tick⟩).1⟩

/-- An agent reactivates a rule that is not its own by creating it again, and
an agent admin deletes a rule of an agent it does not manage by naming its
value. -/
theorem whitelist_requests_cross_owners :
    (Serves sampleState twoAgents
        (answersTo sampleState 0 twoAgents annAgent reactivateManagerRule)
        (afterRequest sampleState 0 twoAgents annAgent reactivateManagerRule) ∧
      ¬Respects Text.asciiTables twoAgents
        (answersTo sampleState 0 twoAgents annAgent reactivateManagerRule)
        (afterRequest sampleState 0 twoAgents annAgent
          reactivateManagerRule)) ∧
    Serves sampleState twoAgents
        (answersTo sampleState 0 twoAgents annManager deletePalOfAnn)
        (afterRequest sampleState 0 twoAgents annManager deletePalOfAnn) ∧
      ¬Respects Text.asciiTables twoAgents
        (answersTo sampleState 0 twoAgents annManager deletePalOfAnn)
        (afterRequest sampleState 0 twoAgents annManager deletePalOfAnn) := by
  refine ⟨⟨⟨_, _, rfl, rfl, rfl⟩, fun respects => ?_⟩,
    ⟨_, _, rfl, rfl, rfl⟩, fun respects => ?_⟩
  · have touched : Touched twoAgents
        (afterRequest sampleState 0 twoAgents annAgent reactivateManagerRule)
        (sampleRule 1 "ann@a.test" "mia@a.test" "system" none false) :=
      ⟨by decide, by decide⟩
    have own := (respects.owner _ touched).1 (by decide) (by decide)
    cases own
  · have touched : Touched twoAgents
        (afterRequest sampleState 0 twoAgents annManager deletePalOfAnn)
        (sampleRule 2 "bob@a.test" "pal@b.test" "agent" (some 3) true) :=
      ⟨by decide, by decide⟩
    have named := respects.named ⟨"ann@a.test", "pal@b.test"⟩ rfl _ touched
    exact absurd named.1 (by decide)

/-! ## Two rules created again -/

def bobAgent : ApiKeyRecord :=
  sampleKey 3 "sys-a" "bob@a.test" "hash-3" ["agent"] "agent"

/-- The connection the first creation runs on has inserted row 3 last, the one
of the second row 2. -/
def twoConnections : HttpState :=
  .base { Surroundings.steady 0 "0123456789abcdef" with
    lastInsertRowid := fun tick => if tick < 10 then 3 else 2 } id id

def receiveEve : WhitelistRequest :=
  .create ⟨"sys-a", "ann@a.test", "from", "eve@b.test", none⟩

def receivePal : WhitelistRequest :=
  .create ⟨"sys-a", "bob@a.test", "from", "pal@b.test", none⟩

def deleteEveOfAnn : WhitelistRequest :=
  .deleteByParams ⟨"ann@a.test", "eve@b.test"⟩

def eveReceived : Database :=
  afterRequest twoConnections 0 twoAgents annAgent receiveEve

def palReceived : Database :=
  afterRequest twoConnections 10 eveReceived bobAgent receivePal

def eveDeleted : Database :=
  afterRequest twoConnections 20 palReceived annManager deleteEveOfAnn

/-- Ann's and Bob's agents create their own rules again with another direction,
then the manager of the first deletes its rule by address and value. -/
def recreations : List WhitelistEvent :=
  [answersTo twoConnections 0 twoAgents annAgent receiveEve,
    answersTo twoConnections 10 eveReceived bobAgent receivePal,
    answersTo twoConnections 20 palReceived annManager deleteEveOfAnn]

theorem orderly_receiveEve :
    Orderly twoConnections twoAgents annAgent 0 receiveEve := by
  intro _ _ domain _ _ row stored rule
  have own := (by decide : ∀ row ∈ twoAgents.whitelists.rows,
    row.value = "eve@b.test" → row.apiKeyId = some 1 ∧
      row.domainAddr = "ann@a.test" ∧ row.id = 3) row stored
        (congrArg (·.2.2) rule)
  rw [own.2.2]
  exact ⟨⟨own.1, Or.inr (Or.inr (Or.inr ⟨rfl, own.2.1.symm⟩))⟩, by decide⟩

theorem orderly_receivePal :
    Orderly twoConnections eveReceived bobAgent 10 receivePal := by
  intro _ _ domain _ _ row stored rule
  have own := (by decide : ∀ row ∈ eveReceived.whitelists.rows,
    row.value = "pal@b.test" → row.apiKeyId = some 3 ∧
      row.domainAddr = "bob@a.test" ∧ row.id = 2) row stored
        (congrArg (·.2.2) rule)
  rw [own.2.2]
  exact ⟨⟨own.1, Or.inr (Or.inr (Or.inr ⟨rfl, own.2.1.symm⟩))⟩, by decide⟩

theorem orderly_deleteEveOfAnn :
    Orderly twoConnections palReceived annManager 20 deleteEveOfAnn := by
  intro row matched
  have named := (by decide : ∀ row ∈ palReceived.whitelists.rows,
    row.value = "eve@b.test" → row.domainAddr = "ann@a.test") row matched.1
      matched.2.1
  exact ⟨named, fun admin => absurd admin (by decide)⟩

/-- The run of these three requests respects ownership, and deletes one of the
rules it changed. -/
theorem whitelist_rows_have_one_owner_recreated :
    Run (fun db event next => Serves twoConnections db event next ∧
        Respects twoConnections.env.tables db event next) twoAgents
      recreations eveDeleted ∧
    ∀ row, Touched twoAgents eveDeleted row →
      ∃ event ∈ recreations,
        Owner twoConnections.env.tables twoAgents event.caller row :=
  whitelist_rows_have_one_owner twoConnections twoAgents _ _
    (.cons ⟨orderly_receiveEve, _, _, rfl, rfl, rfl⟩
      (.cons ⟨orderly_receivePal, _, _, rfl, rfl, rfl⟩
        (.cons ⟨orderly_deleteEveOfAnn, _, _, rfl, rfl, rfl⟩ (.nil _))))

end AimailGateway.Api
