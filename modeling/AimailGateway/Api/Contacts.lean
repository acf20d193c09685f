import AimailGateway.Api.Auth
import AimailGateway.Api.State
import AimailGateway.Email.Utils
import AimailGateway.Library.Json
import AimailGateway.Storage.AgentState
import AimailGateway.Storage.Domains

/-! # Contact profiles

An agent keeps the profiles of its contacts, and an index from their names to
their addresses, as rows of its own state. The texts of both are JSON.
-/

namespace AimailGateway

open Library Action

structure JsonText where
  parse : String → Option Json
  print : Json → String

/-- The reader gives back what the writer is given. -/
def JsonText.ReadsBack (json : JsonText) (value : Json) : Prop :=
  json.parse (json.print value) = some value

namespace Contacts

def profileKey (address : String) : String := "profile:" ++ address

def nameKey (tables : CaseTables) (name : String) : String :=
  "name:" ++ tables.toLowercase name

/-! ## The texts of a profile and of an index entry -/

section Texts

variable (json : JsonText)

def profileName (profile : String) : String :=
  ((json.parse profile).bind (·.getStr? "name")).getD ""

/-- `merge_profile_json`: the fields of the new profile overwrite those of the
old one. -/
def mergedProfile (old new : String) : Json :=
  let base := (json.parse old).getD (.object [])
  let patch := (json.parse new).getD (.object [])
  match base, patch with
  | .object fields, .object changes => .object (Json.insertFields changes fields)
  | _, _ => base

def mergeProfileJson (old new : String) : String :=
  json.print (mergedProfile json old new)

def entryAddresses (entry : String) : List String :=
  ((json.parse entry).bind (·.getStrList? "addresses")).getD []

def entryJson (addresses : List String) : Json :=
  .object [("addresses", .array (addresses.map .string))]

def withoutAddress (entry address : String) : List String :=
  (entryAddresses json entry).filter (· != address)

def withAddress (entry : Option String) (address : String) : List String :=
  let addresses := (entry.map (entryAddresses json)).getD []
  if addresses.contains address then addresses else addresses ++ [address]

end Texts

/-! ## Writing a profile -/

section Handlers

variable (state : HttpState) (json : JsonText)

def removeFromNameIndex (agentAddr name address : String) :
    Action World ε Unit := do
  let key := nameKey state.env.tables name
  match ← (Storage.agentStateGet state.env agentAddr key).attempt with
  | .ok (some (_, entry)) =>
      let addresses := withoutAddress json entry address
      if addresses.isEmpty then
        (Storage.agentStateDelete state.env agentAddr key).ignore
      else
        (Storage.agentStatePut state.env agentAddr key
          (json.print (entryJson addresses))).ignore
  | _ => return ()

def addToNameIndex (agentAddr name address : String) :
    Action World ε Unit := do
  let key := nameKey state.env.tables name
  let found ← (Storage.agentStateGet state.env agentAddr key).attempt
  let entry := match found with
    | .ok (some (_, entry)) => some entry
    | _ => none
  (Storage.agentStatePut state.env agentAddr key
    (json.print (entryJson (withAddress json entry address)))).ignore

def noAgentAddress : HttpError :=
  ⟨.forbidden, "contacts require a non-empty email_address — system-level " ++
    "keys must use an agent-scoped key for this endpoint", none⟩

def contactsOwner (apiKey : ApiKeyRecord) : Except HttpError String := do
  requireScopeAny apiKey ["agent", "agent_admin", "system", "platform"]
  if apiKey.emailAddress = "" then .error noAgentAddress
  else .ok apiKey.emailAddress

def successAnswer : Json := .object [("success", .bool true)]

/-- `PUT /api/v1/contacts/:address`. -/
def putContactProfile (apiKey : ApiKeyRecord) (address profile : String) :
    Handler Json := do
  let agentAddr ← check (contactsOwner apiKey)
  let newName := profileName json profile
  let found ← (Storage.agentStateGet state.env agentAddr
    (profileKey address)).attempt
  let old := match found with
    | .ok (some (_, old)) => some old
    | _ => none
  let oldName := (old.map (profileName json)).getD ""
  let final := match old with
    | some old => mergeProfileJson json old profile
    | none => profile
  ((Storage.agentStatePut state.env agentAddr (profileKey address)
    final).mapError fun error =>
      ⟨.internalServerError, "database error", some error.toText⟩)
  (removeFromNameIndex state json agentAddr oldName address).when
    (oldName != "" && state.env.tables.toLowercase oldName !=
      state.env.tables.toLowercase newName)
  (addToNameIndex state json agentAddr newName address).when (newName != "")
  return successAnswer

/-! ## Looking contacts up -/

/-- The profile of the base address, else that of the address itself. -/
def fetchContactProfile (agentAddr addr : String) :
    Action World ε (Option String) := do
  let base := (Email.stripPersona state.env.tables addr).1
  match ← (Storage.agentStateGet state.env agentAddr
      (profileKey base)).attempt with
  | .ok (some (_, profile)) => return some profile
  | _ =>
      if base ≠ addr then
        match ← (Storage.agentStateGet state.env agentAddr
            (profileKey addr)).attempt with
        | .ok (some (_, profile)) => return some profile
        | _ => return none
      else return none

/-- The profiles found for a list of addresses, whose first is the sender's.
The maps of the answer are the lists of their pairs. -/
structure BatchProfiles where
  senderProfile : List (String × String)
  recipientsProfile : List (String × String)
  results : List (String × String)
  deriving DecidableEq, Repr

def BatchProfiles.insert (batch : BatchProfiles) (position : Nat)
    (addr profile : String) : BatchProfiles :=
  if position = 0 then
    { batch with
      senderProfile := batch.senderProfile ++ [(addr, profile)]
      results := batch.results ++ [(addr, profile)] }
  else
    { batch with
      recipientsProfile := batch.recipientsProfile ++ [(addr, profile)]
      results := batch.results ++ [(addr, profile)] }

def fetchBatch (agentAddr : String) :
    Nat → List String → BatchProfiles → Action World ε BatchProfiles
  | _, [], batch => return batch
  | position, addr :: rest, batch => do
      match ← fetchContactProfile state agentAddr addr with
      | some profile =>
          fetchBatch agentAddr (position + 1) rest
            (batch.insert position addr profile)
      | none => fetchBatch agentAddr (position + 1) rest batch

/-- The addresses not met before, in their order. -/
def unseen (seen : List String) : List String → List String
  | [] => []
  | addr :: rest =>
      if seen.contains addr then unseen seen rest
      else addr :: unseen (addr :: seen) rest

/-- The distinct addresses of a query, in lower case. -/
def queriedAddresses (raw : String) : List String :=
  unseen [] (((Text.split ',' raw).map fun piece =>
    state.env.tables.toLowercase (Text.trim piece)).filter (· != ""))

/-- The approved persona of the agent. -/
def myProfile (agentAddr : String) :
    Action World ε (Option (String × String)) := do
  match ← (Storage.getDomainAddrMeta state.env agentAddr).attempt with
  | .ok (some agentMeta) =>
      if agentMeta.agentPersona ≠ "" then
        return some (agentAddr, agentMeta.agentPersona)
      else return none
  | _ => return none

inductive ContactsAnswer where
  | batch (myProfile : Option (String × String)) (profiles : BatchProfiles)
  | search (results : List (String × String))
  deriving DecidableEq, Repr

def tooManyAddresses : HttpError :=
  ⟨.badRequest, "too many addresses (max 50)", none⟩

def batchAnswer (agentAddr raw : String) : Handler ContactsAnswer := do
  let addresses := queriedAddresses state raw
  check (if 50 < addresses.length then .error tooManyAddresses else .ok ())
  let persona ← myProfile state agentAddr
  let profiles ← fetchBatch state agentAddr 0 addresses ⟨[], [], []⟩
  return .batch persona profiles

/-- The profiles of the addresses of an index entry; those that are missing
are left out. -/
def searchProfiles (agentAddr : String) :
    List String → Action World ε (List (String × String))
  | [] => return []
  | addr :: rest => do
      let found ← (Storage.agentStateGet state.env agentAddr
        (profileKey addr)).attempt
      let later ← searchProfiles agentAddr rest
      match found with
      | .ok (some (_, profile)) => return (addr, profile) :: later
      | _ => return later

def nameOrAddresses : HttpError :=
  ⟨.badRequest, "either name or addresses query parameter is required", none⟩

def searchAnswer (agentAddr : String) (name : Option String) :
    Handler ContactsAnswer := do
  match (name.map Text.trim).filter (· != "") with
  | none => fail nameOrAddresses
  | some name =>
      match ← (Storage.agentStateGet state.env agentAddr
          (nameKey state.env.tables name)).attempt with
      | .ok (some (_, entry)) =>
          let results ← searchProfiles state agentAddr
            (entryAddresses json entry)
          return .search results
      | _ => return .search []

/-- `GET /api/v1/contacts`: a batch when addresses are given, else a search by
name. -/
def getContactsByName (apiKey : ApiKeyRecord) (name addresses : Option String) :
    Handler ContactsAnswer := do
  let agentAddr ← check (contactsOwner apiKey)
  match (addresses.map Text.trim).filter (· != "") with
  | some raw => batchAnswer state agentAddr raw
  | none => searchAnswer state json agentAddr name

end Handlers

end Contacts

end AimailGateway
