import AimailGateway.Api.Contacts
import Mathlib.Data.List.Nodup
import Mathlib.Logic.Function.Basic

/-! # The name index of the contacts

Writing a profile as one function of the values an agent has stored, and when
the index follows from the profiles.
-/

namespace AimailGateway

open Library Action

namespace Contacts

/-! ## The values an agent has stored -/

abbrev Stored := String → Option String

section Stored

variable (json : JsonText) (tables : CaseTables)

def unindex (stored : Stored) (key address : String) : Stored :=
  match stored key with
  | some entry =>
      let addresses := withoutAddress json entry address
      Function.update stored key (if addresses.isEmpty then none
        else some (json.print (entryJson addresses)))
  | none => stored

def index (stored : Stored) (key address : String) : Stored :=
  Function.update stored key
    (some (json.print (entryJson (withAddress json (stored key) address))))

def written (stored : Stored) (address profile : String) : String :=
  match stored (profileKey address) with
  | some old => mergeProfileJson json old profile
  | none => profile

def oldName (stored : Stored) (address : String) : String :=
  ((stored (profileKey address)).map (profileName json)).getD ""

def writeProfile (stored : Stored) (address profile : String) : Stored :=
  Function.update stored (profileKey address)
    (some (written json stored address profile))

def dropOldName (stored : Stored) (old new address : String) : Stored :=
  if old != "" && tables.toLowercase old != tables.toLowercase new then
    unindex json stored (nameKey tables old) address
  else stored

def addNewName (stored : Stored) (new address : String) : Stored :=
  if new != "" then index json stored (nameKey tables new) address else stored

def putProfile (stored : Stored) (address profile : String) : Stored :=
  addNewName json tables
    (dropOldName json tables (writeProfile json stored address profile)
      (oldName json stored address) (profileName json profile) address)
    (profileName json profile) address

end Stored

/-- The agent's values have become `stored`, those of other agents are as they
were. -/
def Becomes (agent : String) (stored : Stored) (before after : Database) :
    Prop :=
  ∀ other, after.agentStateAt other =
    if other = agent then stored else before.agentStateAt other

theorem Becomes.own {agent : String} {stored : Stored}
    {before after : Database} (becomes : Becomes agent stored before after) :
    after.agentStateAt agent = stored := by
  rw [becomes agent, if_pos rfl]

theorem Becomes.trans {agent : String} {first second : Stored}
    {before middle after : Database} (earlier : Becomes agent first before middle)
    (later : Becomes agent second middle after) :
    Becomes agent second before after := by
  intro other
  rw [later other]
  split
  · rfl
  · next different => rw [earlier other, if_neg different]

theorem Becomes.refl (agent : String) (db : Database) :
    Becomes agent (db.agentStateAt agent) db db := by
  intro other
  split
  · next own => rw [own]
  · rfl

/-! ## The handler writes what `putProfile` says -/

section Handler

variable {state : HttpState} {json : JsonText} {world : World}
  {ok : Unit → World → Prop}
  {failed : AppError → World → Prop} {agent name address : String}

theorem put_becomes (calm : state.env.Calm) {agent key value : String}
    (settled : ∀ later, Becomes agent
      (Function.update (world.db.agentStateAt agent) key (some value)) world.db
      later.db → ok () later) :
    (Storage.agentStatePut state.env agent key value).Ends ok failed world := by
  apply Storage.agentStatePut_ends calm
  intro later stored
  apply settled
  intro other
  funext other_key
  rw [stored]
  by_cases own : other = agent
  · subst own
    by_cases same : other_key = key
    · subst same
      simp
    · simp [same]
  · simp [own]

theorem delete_becomes (calm : state.env.Calm) {agent key : String}
    (settled : ∀ later, Becomes agent
      (Function.update (world.db.agentStateAt agent) key none) world.db
      later.db → ok () later) :
    (Storage.agentStateDelete state.env agent key).Ends ok failed world := by
  apply Storage.agentStateDelete_ends calm
  intro later stored
  apply settled
  intro other
  funext other_key
  rw [stored]
  by_cases own : other = agent
  · subst own
    by_cases same : other_key = key
    · subst same
      simp
    · simp [same]
  · simp [own]

theorem removeFromNameIndex_becomes (calm : state.env.Calm)
    {failed : ε → World → Prop}
    (settled : ∀ later, Becomes agent (unindex json
      (world.db.agentStateAt agent) (nameKey state.env.tables name) address)
      world.db later.db → ok () later) :
    (removeFromNameIndex state json agent name address).Ends ok failed
      world := by
  simp only [removeFromNameIndex, ends_bind, ends_attempt,
    Storage.agentStateGet_ends calm]
  cases found : world.db.agentStateAt agent (nameKey state.env.tables name) with
  | none =>
      apply settled
      rw [unindex, found]
      exact Becomes.refl agent world.db
  | some entry =>
      rw [unindex, found] at settled
      simp only [Option.map_some]
      split
      · next empty =>
          rw [ends_ignore]
          apply delete_becomes calm
          simpa [empty] using settled
      · next some =>
          rw [ends_ignore]
          apply put_becomes calm
          simpa [some] using settled

theorem addToNameIndex_becomes (calm : state.env.Calm)
    {failed : ε → World → Prop}
    (settled : ∀ later, Becomes agent (index json
      (world.db.agentStateAt agent) (nameKey state.env.tables name) address)
      world.db later.db → ok () later) :
    (addToNameIndex state json agent name address).Ends ok failed world := by
  simp only [addToNameIndex, ends_bind, ends_attempt,
    Storage.agentStateGet_ends calm, ends_ignore]
  apply put_becomes calm
  rw [index] at settled
  cases found : world.db.agentStateAt agent (nameKey state.env.tables name) with
  | none =>
      rw [found] at settled
      exact settled
  | some entry =>
      rw [found] at settled
      exact settled

theorem dropOldName_becomes (calm : state.env.Calm)
    {agent old new address : String} {failed : ε → World → Prop}
    (settled : ∀ later, Becomes agent (dropOldName json state.env.tables
      (world.db.agentStateAt agent) old new address) world.db later.db →
      ok () later) :
    ((removeFromNameIndex state json agent old address).when
      (old != "" && state.env.tables.toLowercase old !=
        state.env.tables.toLowercase new)).Ends ok failed world := by
  rw [dropOldName] at settled
  rw [ends_when]
  constructor
  · intro renamed
    rw [if_pos renamed] at settled
    exact removeFromNameIndex_becomes calm settled
  · intro kept
    rw [if_neg (by simp [kept])] at settled
    exact settled world (Becomes.refl agent world.db)

theorem addNewName_becomes (calm : state.env.Calm) {agent new address : String}
    {failed : ε → World → Prop}
    (settled : ∀ later, Becomes agent (addNewName json state.env.tables
      (world.db.agentStateAt agent) new address) world.db later.db →
      ok () later) :
    ((addToNameIndex state json agent new address).when (new != "")).Ends ok
      failed world := by
  rw [addNewName] at settled
  rw [ends_when]
  constructor
  · intro named
    rw [if_pos named] at settled
    exact addToNameIndex_becomes calm settled
  · intro unnamed
    rw [if_neg (by simp [unnamed])] at settled
    exact settled world (Becomes.refl agent world.db)

theorem putContactProfile_becomes (calm : state.env.Calm)
    {apiKey : ApiKeyRecord} {agent address profile : String}
    (permitted : contactsOwner apiKey = .ok agent) :
    (putContactProfile state json apiKey address profile).Ends
      (fun answer later => answer = successAnswer ∧ Becomes agent
        (putProfile json state.env.tables (world.db.agentStateAt agent) address
          profile) world.db later.db)
      (fun _ _ => False) world := by
  simp only [putContactProfile, permitted, ends_bind, ends_check_ok,
    ends_attempt, Storage.agentStateGet_ends calm, ends_mapError, ends_pure]
  apply put_becomes calm
  intro profiled wrote
  apply dropOldName_becomes calm
  intro unindexed dropped
  apply addNewName_becomes calm
  intro indexed added
  refine ⟨trivial, ?_⟩
  rw [dropped.own, wrote.own] at added
  rw [putProfile, writeProfile, written, oldName]
  have becomes := (wrote.trans dropped).trans added
  cases found : world.db.agentStateAt agent (profileKey address) with
  | none => simpa [found] using becomes
  | some old => simpa [found] using becomes

end Handler

/-! ## What the index and the profiles should be -/

section Specification

variable (json : JsonText) (tables : CaseTables)

def field (profile key : String) : Option Json :=
  (json.parse profile).bind (·.get? key)

def nameIn (profile : String) : Option String :=
  (field json profile "name").bind Json.asStr?

/-- The stored profile of the address has the name, up to letter case. -/
def HasName (stored : Stored) (name address : String) : Prop :=
  ∃ profile given, stored (profileKey address) = some profile ∧
    nameIn json profile = some given ∧
    tables.toLowercase given = tables.toLowercase name

/-- An index entry that lists the addresses with a property, if there are
any. -/
structure EntryFor (members : String → Prop) (entry : Option String) :
    Prop where
  present : entry ≠ none ↔ ∃ address, members address
  distinct : ∀ text, entry = some text → (entryAddresses json text).Nodup
  listed : ∀ text, entry = some text →
    ∀ address, address ∈ entryAddresses json text ↔ members address

def Mirrors (stored : Stored) : Prop :=
  ∀ name, EntryFor json (HasName json tables stored name)
    (stored (nameKey tables name))

def mergedField (profiles : List String) (key : String) : Option Json :=
  profiles.reverse.findSome? (field json · key)

def profilesFor (writes : List (String × String)) (address : String) :
    List String :=
  (writes.filter (·.1 == address)).map (·.2)

/-- The stored profiles are the field-wise merges of the written ones. -/
structure Merges (writes : List (String × String)) (stored : Stored) :
    Prop where
  present : ∀ address, stored (profileKey address) ≠ none ↔
    profilesFor writes address ≠ []
  fields : ∀ address profile, stored (profileKey address) = some profile →
    ∀ key, field json profile key =
      mergedField json (profilesFor writes address) key

/-! ## When a write keeps them so -/

/-- The reader gives back what the write makes of the stored values. -/
structure Legible (stored : Stored) (address profile : String) : Prop where
  merged : ∀ old, stored (profileKey address) = some old →
    json.ReadsBack (mergedProfile json old profile)
  dropped : ∀ entry,
    stored (nameKey tables (oldName json stored address)) = some entry →
    json.ReadsBack (entryJson (withoutAddress json entry address))
  added : json.ReadsBack (entryJson (withAddress json
    (stored (nameKey tables (profileName json profile))) address))

/-- The write names the contact, or the contact has no name; the name is not
empty; and no field is written over a document that is no object. -/
structure Complete (stored : Stored) (address profile : String) : Prop where
  named : nameIn json profile ≠ some ""
  renamed : field json profile "name" = none →
    ∀ old, stored (profileKey address) = some old → nameIn json old = none
  object : ∀ old value, stored (profileKey address) = some old →
    json.parse old = some value → (∀ fields, value ≠ .object fields) →
    ∀ key, field json profile key = none

end Specification

/-! ## Keys -/

theorem profileKey_inj {first second : String} :
    profileKey first = profileKey second ↔ first = second := by
  simp [profileKey]

theorem nameKey_inj {tables : CaseTables} {first second : String} :
    nameKey tables first = nameKey tables second ↔
      tables.toLowercase first = tables.toLowercase second := by
  simp [nameKey]

theorem nameKey_ne_profileKey (tables : CaseTables) (name address : String) :
    nameKey tables name ≠ profileKey address := by
  intro same
  have heads := congrArg (fun text : String => text.toList.head?) same
  simp [nameKey, profileKey] at heads

/-! ## The merge of two profiles -/

section Merge

variable {json : JsonText} {stored : Stored} {address profile : String}

theorem field_mergedProfile {old new : String}
    (object : ∀ value, json.parse old = some value →
      (∀ fields, value ≠ .object fields) →
      ∀ key, field json new key = none) (key : String) :
    (mergedProfile json old new).get? key =
      (field json new key).or (field json old key) := by
  rw [mergedProfile]
  by_cases shaped : ∃ fields, (json.parse old).getD (.object []) = .object fields
  · rcases shaped with ⟨fields, base⟩
    have before : field json old key = fields.lookup key := by
      rw [field]
      cases parsed : json.parse old with
      | none =>
          rw [parsed] at base
          cases base
          rfl
      | some value =>
          rw [parsed] at base
          cases base
          rfl
    rw [base, before, field]
    cases json.parse new with
    | none => exact Json.lookup_insertFields [] fields key
    | some value =>
        cases value with
        | object changes => exact Json.lookup_insertFields changes fields key
        | _ => rfl
  · cases parsed : json.parse old with
    | none =>
        rw [parsed] at shaped
        exact absurd ⟨[], rfl⟩ shaped
    | some value =>
        rw [parsed] at shaped
        have other : ∀ fields, value ≠ .object fields :=
          fun fields same => shaped ⟨fields, same⟩
        rw [object value parsed other key, field, parsed, Option.none_or]
        cases value with
        | object fields => exact absurd rfl (other fields)
        | _ => rfl

theorem field_written {tables : CaseTables}
    (legible : Legible json tables stored address profile)
    (complete : Complete json stored address profile) (key : String) :
    field json (written json stored address profile) key =
      (field json profile key).or
        ((stored (profileKey address)).bind (field json · key)) := by
  rw [written]
  cases found : stored (profileKey address) with
  | none => simp
  | some old =>
      have reads := legible.merged old found
      simp only [mergeProfileJson, Option.bind_some]
      rw [field, reads, Option.bind_some]
      exact field_mergedProfile (fun value => complete.object old value found)
        key

theorem nameIn_written {tables : CaseTables}
    (legible : Legible json tables stored address profile)
    (complete : Complete json stored address profile) :
    nameIn json (written json stored address profile) = nameIn json profile := by
  rw [nameIn, field_written legible complete]
  cases given : field json profile "name" with
  | some value => rw [nameIn, given, Option.some_or]
  | none =>
      rw [nameIn, given, Option.none_or, Option.bind_none]
      cases found : stored (profileKey address) with
      | none => rfl
      | some old => exact complete.renamed given old found

end Merge

/-! ## Index entries -/

section Entries

variable {json : JsonText} {stored : Stored} {key address : String}
  {members : String → Prop}

theorem mapM_asStr? (texts : List String) :
    (texts.map Json.string).mapM Json.asStr? = some texts := by
  induction texts with
  | nil => rfl
  | cons head tail induction =>
      rw [List.map_cons, List.mapM_cons, induction]
      rfl

theorem entryAddresses_print {addresses : List String}
    (reads : json.ReadsBack (entryJson addresses)) :
    entryAddresses json (json.print (entryJson addresses)) = addresses := by
  have texts : (entryJson addresses).getStrList? "addresses" =
      (addresses.map Json.string).mapM Json.asStr? :=
    rfl
  rw [entryAddresses, reads, Option.bind_some, texts, mapM_asStr?]
  rfl

theorem EntryFor.congr {others : String → Prop} {entry : Option String}
    (lists : EntryFor json members entry)
    (same : ∀ address, members address ↔ others address) :
    EntryFor json others entry := by
  have equal : members = others := funext fun address => propext (same address)
  rwa [← equal]

theorem EntryFor.unindex (lists : EntryFor json members (stored key))
    (reads : ∀ entry, stored key = some entry →
      json.ReadsBack (entryJson (withoutAddress json entry address))) :
    EntryFor json (fun other => members other ∧ other ≠ address)
      (unindex json stored key address key) := by
  rw [Contacts.unindex]
  cases found : stored key with
  | none =>
      have none := lists.present.not.mp (by simp [found])
      simp only [found]
      refine ⟨?_, nofun, nofun⟩
      simp only [ne_eq, not_true_eq_false, false_iff]
      exact fun ⟨other, member, _⟩ => none ⟨other, member⟩
  | some entry =>
      have rest : ∀ other, other ∈ withoutAddress json entry address ↔
          members other ∧ other ≠ address := by
        intro other
        rw [withoutAddress, List.mem_filter, lists.listed entry found]
        simp
      have printed := entryAddresses_print (reads entry found)
      simp only [Function.update_self]
      split
      · next empty =>
          rw [List.isEmpty_iff] at empty
          rw [empty] at rest
          refine ⟨?_, nofun, nofun⟩
          simp only [ne_eq, not_true_eq_false, false_iff]
          exact fun ⟨other, member⟩ => List.not_mem_nil ((rest other).mpr member)
      · next some =>
          rw [List.isEmpty_iff] at some
          refine ⟨?_, ?_, ?_⟩
          · simp only [ne_eq, reduceCtorEq, not_false_eq_true, true_iff]
            rcases List.exists_mem_of_ne_nil _ some with ⟨other, member⟩
            exact ⟨other, (rest other).mp member⟩
          · rintro _ ⟨⟩
            rw [printed]
            exact (lists.distinct entry found).filter _
          · rintro _ ⟨⟩
            rw [printed]
            exact rest

theorem EntryFor.index (lists : EntryFor json members (stored key))
    (reads : json.ReadsBack (entryJson
      (withAddress json (stored key) address))) :
    EntryFor json (fun other => members other ∨ other = address)
      (index json stored key address key) := by
  have before : (((stored key).map (entryAddresses json)).getD []).Nodup := by
    cases found : stored key with
    | none => simp
    | some entry => exact lists.distinct entry found
  have listed : ∀ other,
      other ∈ ((stored key).map (entryAddresses json)).getD [] ↔
        members other := by
    intro other
    cases found : stored key with
    | none =>
        have none := lists.present.not.mp (by simp [found])
        simp only [Option.map_none, Option.getD_none, List.not_mem_nil,
          false_iff]
        exact fun member => none ⟨other, member⟩
    | some entry => exact lists.listed entry found other
  have printed := entryAddresses_print reads
  rw [Contacts.index, Function.update_self]
  refine ⟨?_, ?_, ?_⟩
  · simp only [ne_eq, reduceCtorEq, not_false_eq_true, true_iff]
    exact ⟨address, .inr rfl⟩
  · rintro _ ⟨⟩
    rw [printed, withAddress]
    split
    · exact before
    · next absent =>
        rw [List.contains_iff_mem] at absent
        exact before.append (List.nodup_singleton address)
          (List.disjoint_singleton.mpr absent)
  · rintro _ ⟨⟩
    intro other
    rw [printed, withAddress]
    split
    · next present =>
        rw [List.contains_iff_mem, listed] at present
        rw [listed]
        constructor
        · exact .inl
        · rintro (member | own)
          · exact member
          · rw [own]
            exact present
    · rw [List.mem_append, List.mem_singleton, listed]

end Entries

/-! ## One write -/

section Write

variable {json : JsonText} {tables : CaseTables} {stored : Stored}
  {address profile : String}

theorem unindex_other {key other : String} (different : other ≠ key) :
    unindex json stored key address other = stored other := by
  rw [unindex]
  cases stored key with
  | none => rfl
  | some entry => exact Function.update_of_ne different _ _

theorem index_other {key other : String} (different : other ≠ key) :
    index json stored key address other = stored other :=
  Function.update_of_ne different _ _

theorem putProfile_profile (other : String) :
    putProfile json tables stored address profile (profileKey other) =
      if other = address then some (written json stored address profile)
      else stored (profileKey other) := by
  have kept : ∀ (before : Stored) name,
      addNewName json tables before name address (profileKey other) =
        before (profileKey other) := by
    intro before name
    rw [addNewName]
    split
    · exact index_other (nameKey_ne_profileKey tables name other).symm
    · rfl
  have dropped : ∀ (before : Stored) old new,
      dropOldName json tables before old new address (profileKey other) =
        before (profileKey other) := by
    intro before old new
    rw [dropOldName]
    split
    · exact unindex_other (nameKey_ne_profileKey tables old other).symm
    · rfl
  rw [putProfile, kept, dropped, writeProfile]
  split
  · next same =>
      subst same
      exact Function.update_self _ _ _
  · next different =>
      exact Function.update_of_ne (profileKey_inj.not.mpr different) _ _

theorem writeProfile_name (name : String) :
    writeProfile json stored address profile (nameKey tables name) =
      stored (nameKey tables name) :=
  Function.update_of_ne (nameKey_ne_profileKey tables name address) _ _

theorem hasName_putProfile (legible : Legible json tables stored address profile)
    (complete : Complete json stored address profile) (name other : String) :
    HasName json tables (putProfile json tables stored address profile) name
        other ↔
      (other = address ∧ ∃ given, nameIn json profile = some given ∧
          tables.toLowercase given = tables.toLowercase name) ∨
        (other ≠ address ∧ HasName json tables stored name other) := by
  simp only [HasName, putProfile_profile]
  by_cases own : other = address
  · simp [own, nameIn_written legible complete]
  · simp [own]

/-- The stored profiles carry no empty name. -/
def NoBlankName (json : JsonText) (stored : Stored) : Prop :=
  ∀ address profile, stored (profileKey address) = some profile →
    nameIn json profile ≠ some ""

theorem NoBlankName.put (named : NoBlankName json stored)
    (legible : Legible json tables stored address profile)
    (complete : Complete json stored address profile) :
    NoBlankName json (putProfile json tables stored address profile) := by
  intro other text found
  rw [putProfile_profile] at found
  split at found
  · cases found
    rw [nameIn_written legible complete]
    exact complete.named
  · exact named other text found

theorem profileName_eq (text : String) :
    profileName json text = (nameIn json text).getD "" := by
  rw [profileName, nameIn, field, Option.bind_assoc]
  rfl

theorem hasName_oldName_iff (named : NoBlankName json stored) (name : String) :
    HasName json tables stored name address ↔
      oldName json stored address ≠ "" ∧
        tables.toLowercase (oldName json stored address) =
          tables.toLowercase name := by
  rw [oldName, HasName]
  cases found : stored (profileKey address) with
  | none => simp
  | some old =>
      have given := named address old found
      rw [Option.map_some, Option.getD_some, profileName_eq]
      cases inside : nameIn json old with
      | none => simp [inside]
      | some text =>
          rw [inside] at given
          have nonempty : text ≠ "" := fun empty => given (by rw [empty])
          simp [inside, nonempty]

theorem newName_iff (complete : Complete json stored address profile)
    (name : String) :
    (∃ given, nameIn json profile = some given ∧
        tables.toLowercase given = tables.toLowercase name) ↔
      profileName json profile ≠ "" ∧
        tables.toLowercase (profileName json profile) =
          tables.toLowercase name := by
  have given := complete.named
  rw [profileName_eq]
  cases found : nameIn json profile with
  | none => simp
  | some text =>
      rw [found] at given
      have nonempty : text ≠ "" := fun empty => given (by rw [empty])
      simp [nonempty]

theorem dropOldName_entry {members : String → Prop} {name : String}
    (legible : Legible json tables stored address profile)
    (lists : EntryFor json members (stored (nameKey tables name))) :
    EntryFor json (fun other => members other ∧
        (other = address → ¬ (oldName json stored address ≠ "" ∧
          tables.toLowercase (oldName json stored address) ≠
            tables.toLowercase (profileName json profile) ∧
          tables.toLowercase (oldName json stored address) =
            tables.toLowercase name)))
      (dropOldName json tables (writeProfile json stored address profile)
        (oldName json stored address) (profileName json profile) address
        (nameKey tables name)) := by
  have kept : writeProfile json stored address profile (nameKey tables name) =
      stored (nameKey tables name) := writeProfile_name name
  rw [← kept] at lists
  rw [dropOldName]
  split
  · next renamed =>
      rw [Bool.and_eq_true, bne_iff_ne, bne_iff_ne] at renamed
      by_cases same : tables.toLowercase (oldName json stored address) =
          tables.toLowercase name
      · have differ : tables.toLowercase name ≠
            tables.toLowercase (profileName json profile) := same ▸ renamed.2
        rw [nameKey_inj.mpr same]
        apply (lists.unindex ?_).congr
        · intro other
          simp [renamed.1, same, differ]
        · intro entry found
          rw [← nameKey_inj.mpr same, writeProfile_name] at found
          exact legible.dropped entry found
      · rw [unindex_other (nameKey_inj.not.mpr (Ne.symm same))]
        exact lists.congr fun other => by simp [same]
  · next kept =>
      rw [Bool.and_eq_true, bne_iff_ne, bne_iff_ne] at kept
      apply lists.congr
      intro other
      constructor
      · exact fun member => ⟨member,
          fun _ changed => kept ⟨changed.1, changed.2.1⟩⟩
      · exact fun member => member.1

theorem dropOldName_newName :
    dropOldName json tables (writeProfile json stored address profile)
        (oldName json stored address) (profileName json profile) address
        (nameKey tables (profileName json profile)) =
      stored (nameKey tables (profileName json profile)) := by
  rw [dropOldName]
  split
  · next renamed =>
      rw [Bool.and_eq_true, bne_iff_ne, bne_iff_ne] at renamed
      rw [unindex_other (nameKey_inj.not.mpr (Ne.symm renamed.2)),
        writeProfile_name]
  · exact writeProfile_name _

theorem Mirrors.put (letters : ∀ text,
      tables.toLowercase text = tables.toLowercase "" → text = "")
    (mirrors : Mirrors json tables stored) (named : NoBlankName json stored)
    (legible : Legible json tables stored address profile)
    (complete : Complete json stored address profile) :
    Mirrors json tables (putProfile json tables stored address profile) := by
  intro name
  have after := hasName_putProfile legible complete name
  have before : HasName json tables stored name address ↔ _ :=
    hasName_oldName_iff named name
  have new : (∃ given, nameIn json profile = some given ∧
      tables.toLowercase given = tables.toLowercase name) ↔ _ :=
    newName_iff complete name
  have dropped := dropOldName_entry legible (mirrors name)
  suffices lists : EntryFor json
      (fun other => (other = address ∧ profileName json profile ≠ "" ∧
          tables.toLowercase (profileName json profile) =
            tables.toLowercase name) ∨
        (other ≠ address ∧ HasName json tables stored name other))
      (putProfile json tables stored address profile (nameKey tables name)) by
    apply lists.congr
    intro other
    rw [after, new]
  rw [putProfile, addNewName]
  by_cases given : profileName json profile ≠ "" ∧
      tables.toLowercase (profileName json profile) = tables.toLowercase name
  · rw [if_pos (by simp [given.1]), ← nameKey_inj.mpr given.2]
    rw [← nameKey_inj.mpr given.2] at dropped
    apply (dropped.index ?_).congr
    · intro other
      by_cases own : other = address
      · simp [own, given]
      · simp [own]
    · rw [dropOldName_newName]
      exact legible.added
  · have kept : ∀ before : Stored,
        (if (profileName json profile != "") = true then
          index json before (nameKey tables (profileName json profile)) address
        else before) (nameKey tables name) = before (nameKey tables name) := by
      intro before
      split
      · next nonempty =>
          rw [bne_iff_ne] at nonempty
          apply index_other
          rw [ne_eq, nameKey_inj]
          exact fun same => given ⟨nonempty, same.symm⟩
      · rfl
    rw [kept]
    apply dropped.congr
    intro other
    by_cases own : other = address
    · rw [own, before]
      constructor
      · rintro ⟨⟨nonempty, old⟩, stays⟩
        refine absurd ⟨nonempty, ?_, old⟩ (stays rfl)
        intro same
        by_cases blank : profileName json profile = ""
        · rw [blank] at same
          exact nonempty (letters _ same)
        · exact given ⟨blank, same.symm.trans old⟩
      · rintro (new | ⟨other, -⟩)
        · exact absurd new.2 given
        · exact absurd rfl other
    · simp [own]

theorem profilesFor_append (writes : List (String × String))
    (address profile other : String) :
    profilesFor (writes ++ [(address, profile)]) other =
      if other = address then profilesFor writes other ++ [profile]
      else profilesFor writes other := by
  rw [profilesFor, List.filter_append, List.map_append, ← profilesFor]
  split
  · next same => simp [same]
  · next different => simp [Ne.symm different]

theorem mergedField_append (profiles : List String) (profile key : String) :
    mergedField json (profiles ++ [profile]) key =
      (field json profile key).or (mergedField json profiles key) := by
  rw [mergedField, List.reverse_append, List.reverse_singleton,
    List.singleton_append, List.findSome?_cons, mergedField]
  cases field json profile key with
  | none => rfl
  | some value => rfl

theorem Merges.put {writes : List (String × String)}
    (merges : Merges json writes stored)
    (legible : Legible json tables stored address profile)
    (complete : Complete json stored address profile) :
    Merges json (writes ++ [(address, profile)])
      (putProfile json tables stored address profile) := by
  constructor
  · intro other
    rw [putProfile_profile, profilesFor_append]
    split
    · simp
    · exact merges.present other
  · intro other text found key
    rw [putProfile_profile] at found
    rw [profilesFor_append]
    split at found
    · next same =>
        cases found
        rw [if_pos same, mergedField_append,
          field_written legible complete, same]
        cases before : stored (profileKey address) with
        | none =>
            have none := (merges.present address).not.mp (by simp [before])
            rw [ne_eq, not_not] at none
            rw [none]
            rfl
        | some old =>
            rw [Option.bind_some, merges.fields address old before]
    · next different =>
        rw [if_neg different]
        exact merges.fields other text found key

end Write

/-! ## Runs of writes -/

structure PutRequest where
  apiKey : ApiKeyRecord
  address : String
  profile : String

section Runs

variable (state : HttpState) (json : JsonText)

def afterPut (world : World) (request : PutRequest) : World :=
  ((putContactProfile state json request.apiKey request.address
    request.profile).run world).2

def afterPuts (world : World) (requests : List PutRequest) : World :=
  requests.foldl (afterPut state json) world

/-- What the requests write for an agent, in their order. -/
def writesOf (agent : String) (requests : List PutRequest) :
    List (String × String) :=
  (requests.filter fun request =>
    decide (contactsOwner request.apiKey = .ok agent)).map fun request =>
      (request.address, request.profile)

/-- Each request for the agent finds a state in which its profile says the
whole name. -/
def EachComplete (agent : String) : World → List PutRequest → Prop
  | _, [] => True
  | world, request :: rest =>
      (contactsOwner request.apiKey = .ok agent →
        Legible json state.env.tables (world.db.agentStateAt agent)
            request.address request.profile ∧
          Complete json (world.db.agentStateAt agent) request.address
            request.profile) ∧
        EachComplete agent (afterPut state json world request) rest

end Runs

section Runs

variable {state : HttpState} {json : JsonText} {world : World} {agent : String}
  {request : PutRequest}

theorem afterPut_becomes (calm : state.env.Calm)
    (permitted : contactsOwner request.apiKey = .ok agent) :
    Becomes agent (putProfile json state.env.tables
        (world.db.agentStateAt agent) request.address request.profile) world.db
      (afterPut state json world request).db := by
  have ends : (putContactProfile state json request.apiKey request.address
      request.profile).Ends _ _ world := putContactProfile_becomes calm permitted
  exact (ends.mono (fun _ _ written => written.2)
    (fun _ _ never => never.elim)).after

theorem afterPut_own (calm : state.env.Calm)
    (permitted : contactsOwner request.apiKey = .ok agent) :
    (afterPut state json world request).db.agentStateAt agent =
      putProfile json state.env.tables (world.db.agentStateAt agent)
        request.address request.profile :=
  (afterPut_becomes calm permitted).own

theorem afterPut_other (calm : state.env.Calm)
    (other : contactsOwner request.apiKey ≠ .ok agent) :
    (afterPut state json world request).db.agentStateAt agent =
      world.db.agentStateAt agent := by
  cases owner : contactsOwner request.apiKey with
  | error refusal =>
      rw [afterPut, putContactProfile, owner]
      rfl
  | ok writer =>
      have different : agent ≠ writer := fun same => other (by rw [owner, same])
      rw [afterPut_becomes calm owner agent, if_neg different]

/-- Index and profiles as they should be after the writes of an agent. -/
structure Kept (json : JsonText) (tables : CaseTables)
    (writes : List (String × String)) (stored : Stored) : Prop where
  mirrors : Mirrors json tables stored
  named : NoBlankName json stored
  merges : Merges json writes stored

theorem Kept.puts (calm : state.env.Calm) (letters : ∀ text,
      state.env.tables.toLowercase text = state.env.tables.toLowercase "" →
      text = "")
    (requests : List PutRequest) {writes : List (String × String)}
    (kept : Kept json state.env.tables writes (world.db.agentStateAt agent))
    (complete : EachComplete state json agent world requests) :
    Kept json state.env.tables (writes ++ writesOf agent requests)
      ((afterPuts state json world requests).db.agentStateAt agent) := by
  induction requests generalizing world writes with
  | nil =>
      rw [writesOf, List.filter_nil, List.map_nil, List.append_nil]
      exact kept
  | cons request rest induction =>
      rw [afterPuts, List.foldl_cons, ← afterPuts]
      by_cases permitted : contactsOwner request.apiKey = .ok agent
      · rcases complete.1 permitted with ⟨legible, whole⟩
        have next : Kept json state.env.tables
            (writes ++ [(request.address, request.profile)])
            ((afterPut state json world request).db.agentStateAt agent) := by
          rw [afterPut_own calm permitted]
          exact ⟨kept.mirrors.put letters kept.named legible whole,
            kept.named.put legible whole, kept.merges.put legible whole⟩
        have later := induction next complete.2
        rw [List.append_assoc, List.singleton_append] at later
        rw [writesOf, List.filter_cons_of_pos (by simpa using permitted),
          List.map_cons, ← writesOf]
        exact later
      · have same : Kept json state.env.tables writes
            ((afterPut state json world request).db.agentStateAt agent) := by
          rw [afterPut_other calm permitted]
          exact kept
        rw [writesOf, List.filter_cons_of_neg (by simpa using permitted),
          ← writesOf]
        exact induction same complete.2

end Runs

/-- In a run of writes that each say the whole name of the contact, the index
mirrors the profiles, and each profile is the merge of those written for its
address. -/
theorem contactIndex_kept (state : HttpState) (json : JsonText)
    (calm : state.env.Calm) (letters : ∀ text,
      state.env.tables.toLowercase text = state.env.tables.toLowercase "" →
      text = "")
    (agent : String) (world : World)
    (noProfile : ∀ address,
      world.db.agentStateAt agent (profileKey address) = none)
    (noEntry : ∀ name,
      world.db.agentStateAt agent (nameKey state.env.tables name) = none)
    (requests : List PutRequest)
    (complete : EachComplete state json agent world requests) :
    Mirrors json state.env.tables
        ((afterPuts state json world requests).db.agentStateAt agent) ∧
      Merges json (writesOf agent requests)
        ((afterPuts state json world requests).db.agentStateAt agent) := by
  have fresh : Kept json state.env.tables [] (world.db.agentStateAt agent) := by
    refine ⟨?_, ?_, ?_, ?_⟩
    · intro name
      rw [noEntry name]
      refine ⟨?_, nofun, nofun⟩
      simp [HasName, noProfile]
    · intro address profile found
      rw [noProfile] at found
      cases found
    · intro address
      simp [noProfile, profilesFor]
    · intro address profile found
      rw [noProfile] at found
      cases found
  have kept := fresh.puts calm letters requests complete
  rw [List.nil_append] at kept
  exact ⟨kept.mirrors, kept.merges⟩

/-! ## A name that leaves the index -/

def bobProfile : String := "\x7b\"name\":\"Bob\"\x7d"

def robProfile : String := "\x7b\"name\":\"Rob\"\x7d"

def phoneProfile : String := "\x7b\"phone\":\"1\"\x7d"

def mergedText : String :=
  "\x7b\"name\":\"Bob\",\"phone\":\"1\"\x7d"

def bobEntry : String := "\x7b\"addresses\":[\"bob@x.org\"]\x7d"

def emptyEntry : String := "\x7b\"addresses\":[]\x7d"

/-- The JSON reader and writer on the texts of the samples. -/
def sampleJson : JsonText where
  parse text :=
    if text = bobProfile then some (.object [("name", .string "Bob")])
    else if text = robProfile then some (.object [("name", .string "Rob")])
    else if text = phoneProfile then some (.object [("phone", .string "1")])
    else if text = mergedText then
      some (.object [("name", .string "Bob"), ("phone", .string "1")])
    else if text = bobEntry then some (entryJson ["bob@x.org"])
    else if text = emptyEntry then some (entryJson [])
    else none
  print
    | .object [("name", .string "Bob"), ("phone", .string "1")] => mergedText
    | .object [("name", .string "Rob")] => robProfile
    | .object [("addresses", .array [.string "bob@x.org"])] => bobEntry
    | .object [("addresses", .array [])] => emptyEntry
    | _ => ""

def agentKey : ApiKeyRecord :=
  sampleKey 1 "sys-a" "ann@a.test" "0123456789" ["agent"] "agent"

def putBob (profile : String) : PutRequest where
  apiKey := agentKey
  address := "bob@x.org"
  profile := profile

theorem ascii_letters (text : String)
    (same : Text.asciiTables.toLowercase text =
      Text.asciiTables.toLowercase "") : text = "" := by
  have empty := congrArg String.toList same
  simpa [Text.asciiTables, Text.toAsciiLowercase] using empty

def renamedWorld : World :=
  afterPut sampleState sampleJson (World.start Database.empty)
    (putBob bobProfile)

theorem contactIndex_kept_renaming :
    Mirrors sampleJson sampleState.env.tables
        ((afterPuts sampleState sampleJson (World.start Database.empty)
          [putBob bobProfile, putBob robProfile]).db.agentStateAt
            "ann@a.test") ∧
      Merges sampleJson
        (writesOf "ann@a.test" [putBob bobProfile, putBob robProfile])
        ((afterPuts sampleState sampleJson (World.start Database.empty)
          [putBob bobProfile, putBob robProfile]).db.agentStateAt
            "ann@a.test") := by
  apply contactIndex_kept sampleState sampleJson
    (Surroundings.steady_calm 0 "0123456789abcdef") ascii_letters
    "ann@a.test" (World.start Database.empty) (fun _ => rfl) (fun _ => rfl)
  have profile : renamedWorld.db.agentStateAt "ann@a.test"
      (profileKey "bob@x.org") = some bobProfile := by
    decide +kernel
  have bob : renamedWorld.db.agentStateAt "ann@a.test"
      (nameKey sampleState.env.tables (oldName sampleJson
        (renamedWorld.db.agentStateAt "ann@a.test") "bob@x.org")) =
        some bobEntry := by
    decide +kernel
  have rob : renamedWorld.db.agentStateAt "ann@a.test"
      (nameKey sampleState.env.tables (profileName sampleJson robProfile)) =
        none := by
    decide +kernel
  have named : field sampleJson robProfile "name" = some (.string "Rob") := rfl
  refine ⟨fun _ => ⟨⟨nofun, nofun, rfl⟩, ⟨?_, ?_, nofun⟩⟩,
    fun _ => ⟨⟨?_, ?_, ?_⟩, ⟨?_, ?_, ?_⟩⟩, trivial⟩
  · decide +kernel
  · nofun
  · intro old found
    rw [← renamedWorld, putBob, profile] at found
    cases found
    rfl
  · intro entry found
    rw [← renamedWorld, putBob, bob] at found
    cases found
    rfl
  · rw [← renamedWorld, putBob, rob]
    rfl
  · decide +kernel
  · intro absent
    rw [putBob, named] at absent
    cases absent
  · intro old value found parsed other
    rw [← renamedWorld, putBob, profile] at found
    cases found
    cases parsed
    exact absurd rfl (other _)

/-- Adding a telephone number to a profile takes its name out of the index. -/
theorem phone_drops_name :
    ¬ Mirrors sampleJson sampleState.env.tables
      ((afterPuts sampleState sampleJson (World.start Database.empty)
        [putBob bobProfile, putBob phoneProfile]).db.agentStateAt
          "ann@a.test") := by
  intro mirrors
  have stored : (afterPuts sampleState sampleJson (World.start Database.empty)
      [putBob bobProfile, putBob phoneProfile]).db.agentStateAt "ann@a.test"
        (profileKey "bob@x.org") = some mergedText := by
    decide +kernel
  have missing : (afterPuts sampleState sampleJson (World.start Database.empty)
      [putBob bobProfile, putBob phoneProfile]).db.agentStateAt "ann@a.test"
        (nameKey sampleState.env.tables "Bob") = none := by
    decide +kernel
  exact (mirrors "Bob").present.mpr ⟨"bob@x.org", mergedText, "Bob", stored,
    by decide +kernel, rfl⟩ missing

end Contacts

end AimailGateway
