import AimailGateway.Api.SendHeaders

/-! # The spellings of a thread header

A header map is folded onto the three record keys of a thread. What is kept
depends on the values the spellings have, and on the order of the map only
where two of them differ.
-/

namespace AimailGateway.Api

open Library

def threadKeys : List String := ["message_id", "in_reply_to", "references"]

def recordKey (name : String) : String :=
  String.ofList ((Text.toAsciiLowercase name).toList.map fun character =>
    if character = '-' then '_' else character)

theorem isAlias_iff {canonical name : String} :
    isAlias canonical name = true ↔
      name ≠ canonical ∧ recordKey name = canonical := by
  rw [isAlias, recordKey, Bool.and_eq_true, bne_iff_ne, beq_iff_eq]

theorem recordKey_thread {canonical : String} (thread : canonical ∈ threadKeys) :
    recordKey canonical = canonical := by
  have each : ∀ key ∈ threadKeys, recordKey key = key := by decide +kernel
  exact each canonical thread

theorem alias_or_key {canonical name : String}
    (spelt : recordKey name = canonical) :
    name = canonical ∨ isAlias canonical name = true := by
  by_cases same : name = canonical
  · exact .inl same
  · exact .inr (isAlias_iff.mpr ⟨same, spelt⟩)

variable {headers first second : HeaderMap} {canonical name value : String}

/-! ## One key -/

theorem foldThreadHeader_idle
    (plain : ∀ name ∈ headers, isAlias canonical name = false) :
    foldThreadHeader headers canonical = headers := by
  have none : headers.keys.filter (isAlias canonical) = [] := by
    rw [List.filter_eq_nil_iff]
    intro name listed spelt
    rw [plain name (AList.mem_keys.mpr listed)] at spelt
    cases spelt
  rw [foldThreadHeader, none]
  rfl

theorem foldl_erase_mem {names : List String} {name : String}
    (listed : name ∈ names) (headers : HeaderMap) :
    (names.foldl (fun rest other => rest.erase other) headers).lookup name =
      none := by
  induction names generalizing headers with
  | nil => exact absurd listed List.not_mem_nil
  | cons other rest induction =>
      rw [List.foldl_cons]
      by_cases later : name ∈ rest
      · exact induction later (headers.erase other)
      · have here : name = other := (List.mem_cons.mp listed).resolve_right later
        rw [foldl_erase_lookup later, here, AList.lookup_erase]

theorem foldThreadHeader_alias (spelt : isAlias canonical name = true) :
    (foldThreadHeader headers canonical).lookup name = none := by
  have different : name ≠ canonical := (isAlias_iff.mp spelt).1
  have cleared : ((headers.keys.filter (isAlias canonical)).foldl
      (fun rest other => rest.erase other) headers).lookup name = none := by
    by_cases listed : name ∈ headers.keys
    · exact foldl_erase_mem (List.mem_filter.mpr ⟨listed, spelt⟩) headers
    · have absent : name ∉ headers.keys.filter (isAlias canonical) :=
        fun member => listed (List.mem_filter.mp member).1
      rw [foldl_erase_lookup absent, AList.lookup_eq_none]
      exact fun member => listed (AList.mem_keys.mp member)
  rw [foldThreadHeader]
  split
  · exact cleared
  · split
    · exact cleared
    · rw [AList.lookup_insert_ne different]
      exact cleared

/-- The spellings of a key have one value, where the key itself is not given. -/
def OneSpelling (headers : HeaderMap) (canonical : String) : Prop :=
  canonical ∈ headers ∨ ∀ one ∈ headers, ∀ other ∈ headers,
    isAlias canonical one = true → isAlias canonical other = true →
      headers.lookup one = headers.lookup other

/-- The key itself, else the value of its spellings. -/
def Spells (headers : HeaderMap) (canonical value : String) : Prop :=
  headers.lookup canonical = some value ∨ canonical ∉ headers ∧
    ∃ name, isAlias canonical name = true ∧ headers.lookup name = some value

theorem foldThreadHeader_key :
    (foldThreadHeader headers canonical).lookup canonical =
      (headers.lookup canonical).or
        ((headers.keys.filter (isAlias canonical)).head?.bind headers.lookup) := by
  have absent : canonical ∉ headers.keys.filter (isAlias canonical) :=
    fun member => (isAlias_iff.mp (List.mem_filter.mp member).2).1 rfl
  have cleared := foldl_erase_lookup absent headers
  rw [foldThreadHeader]
  split
  · next none =>
      rw [none, Option.or_none]
      exact cleared
  · next value found =>
      rw [found]
      split
      · next given =>
          have kept := AList.lookup_isSome.mpr given
          rw [cleared] at kept ⊢
          rcases Option.isSome_iff_exists.mp kept with ⟨own, known⟩
          rw [known]
          rfl
      · next missing =>
          have free := AList.lookup_eq_none.mpr missing
          rw [cleared] at free
          rw [AList.lookup_insert, free]
          rfl

theorem foldThreadHeader_spells (one : OneSpelling headers canonical) :
    (foldThreadHeader headers canonical).lookup canonical = some value ↔
      Spells headers canonical value := by
  rw [foldThreadHeader_key, Spells]
  cases own : headers.lookup canonical with
  | some kept =>
      have given : canonical ∈ headers := by
        rw [← AList.lookup_isSome, own]
        rfl
      exact ⟨.inl, fun spelt => spelt.resolve_right fun other => other.1 given⟩
  | none =>
      have missing : canonical ∉ headers := AList.lookup_eq_none.mp own
      have alike := one.resolve_left missing
      have member {name : String} {value : String}
          (found : headers.lookup name = some value) : name ∈ headers := by
        rw [← AList.lookup_isSome, found]
        rfl
      rw [Option.none_or]
      constructor
      · intro taken
        rcases Option.bind_eq_some_iff.mp taken with ⟨name, head, found⟩
        have listed := List.mem_filter.mp (List.mem_of_mem_head? head)
        exact .inr ⟨missing, name, listed.2, found⟩
      · rintro (never | ⟨_, name, spelt, found⟩)
        · cases never
        · have listed : name ∈ headers.keys.filter (isAlias canonical) :=
            List.mem_filter.mpr ⟨AList.mem_keys.mp (member found), spelt⟩
          cases spellings : headers.keys.filter (isAlias canonical) with
          | nil =>
              rw [spellings] at listed
              exact absurd listed List.not_mem_nil
          | cons head rest =>
              have first : head ∈ headers.keys.filter (isAlias canonical) := by
                rw [spellings]
                exact List.mem_cons_self
              rcases List.mem_filter.mp first with ⟨headListed, headSpelt⟩
              have same := alike head (AList.mem_keys.mpr headListed) name
                (member found) headSpelt spelt
              exact same.trans found

/-! ## All keys -/

theorem foldThreadHeader_other (apart : recordKey name ≠ canonical)
    (thread : canonical ∈ threadKeys) :
    (foldThreadHeader headers canonical).lookup name = headers.lookup name := by
  apply foldThreadHeader_lookup
  · intro same
    rw [same] at apart
    exact apart (recordKey_thread thread)
  · rw [Bool.eq_false_iff]
    exact fun spelt => apart (isAlias_iff.mp spelt).2

theorem foldl_foldThreadHeader_other {keys : List String}
    (threads : ∀ key ∈ keys, key ∈ threadKeys) (apart : recordKey name ∉ keys)
    (headers : HeaderMap) :
    (keys.foldl foldThreadHeader headers).lookup name = headers.lookup name := by
  induction keys generalizing headers with
  | nil => rfl
  | cons key rest induction =>
      rw [List.mem_cons, not_or] at apart
      have folded := induction (fun other listed =>
        threads other (List.mem_cons_of_mem key listed)) apart.2
        (foldThreadHeader headers key)
      rw [foldThreadHeader_other apart.1 (threads key List.mem_cons_self)] at folded
      exact folded

theorem normalize_around (thread : canonical ∈ threadKeys) (headers : HeaderMap) :
    ∃ before, (∀ name, recordKey name = canonical →
        before.lookup name = headers.lookup name) ∧
      ∀ name, recordKey name = canonical →
        (normalizeThreadHeaders headers).lookup name =
          (foldThreadHeader before canonical).lookup name := by
  have split : ∀ key ∈ threadKeys, ∃ early late, threadKeys = early ++ key :: late ∧
      key ∉ early ∧ key ∉ late := by
    intro key listed
    rcases List.append_of_mem listed with ⟨early, late, same⟩
    have distinct : threadKeys.Nodup := by decide
    rw [same, List.nodup_append] at distinct
    refine ⟨early, late, same, fun here => ?_, ?_⟩
    · exact distinct.2.2 key here key List.mem_cons_self rfl
    · exact (List.nodup_cons.mp distinct.2.1).1
  rcases split canonical thread with ⟨early, late, same, notEarly, notLate⟩
  have threads {part : List String} (within : ∀ key ∈ part,
      key ∈ early ++ canonical :: late) : ∀ key ∈ part, key ∈ threadKeys := by
    intro key listed
    rw [same]
    exact within key listed
  have whole : normalizeThreadHeaders headers = late.foldl foldThreadHeader
      (foldThreadHeader (early.foldl foldThreadHeader headers) canonical) := by
    have folded : normalizeThreadHeaders headers =
        threadKeys.foldl foldThreadHeader headers := rfl
    rw [folded, same, List.foldl_append, List.foldl_cons]
  refine ⟨early.foldl foldThreadHeader headers, fun name spelt => ?_,
    fun name spelt => ?_⟩
  · exact foldl_foldThreadHeader_other
      (threads fun key listed => List.mem_append_left _ listed)
      (by rw [spelt]; exact notEarly) headers
  · rw [whole]
    exact foldl_foldThreadHeader_other
      (threads fun key listed => List.mem_append_right _
        (List.mem_cons_of_mem _ listed))
      (by rw [spelt]; exact notLate) _

theorem normalize_alias (thread : canonical ∈ threadKeys)
    (spelt : isAlias canonical name = true) :
    (normalizeThreadHeaders headers).lookup name = none := by
  rcases normalize_around thread headers with ⟨before, _, after⟩
  rw [after name (isAlias_iff.mp spelt).2]
  exact foldThreadHeader_alias spelt

theorem normalize_given (thread : canonical ∈ threadKeys)
    (given : headers.lookup canonical = some value) :
    (normalizeThreadHeaders headers).lookup canonical = some value := by
  have itself := recordKey_thread thread
  rcases normalize_around thread headers with ⟨before, same, after⟩
  rw [after canonical itself, foldThreadHeader_key, same canonical itself, given]
  rfl

theorem normalize_other (apart : recordKey name ∉ threadKeys) :
    (normalizeThreadHeaders headers).lookup name = headers.lookup name :=
  foldl_foldThreadHeader_other (fun _ listed => listed) apart headers

theorem normalize_idempotent (headers : HeaderMap) :
    normalizeThreadHeaders (normalizeThreadHeaders headers) =
      normalizeThreadHeaders headers := by
  have idle : ∀ key ∈ threadKeys,
      foldThreadHeader (normalizeThreadHeaders headers) key =
        normalizeThreadHeaders headers := by
    intro key thread
    refine foldThreadHeader_idle fun name given => ?_
    rw [Bool.eq_false_iff]
    intro spelt
    have found := AList.lookup_isSome.mpr given
    rw [normalize_alias thread spelt] at found
    cases found
  have through {keys : List String} (threads : ∀ key ∈ keys, key ∈ threadKeys) :
      keys.foldl foldThreadHeader (normalizeThreadHeaders headers) =
        normalizeThreadHeaders headers := by
    induction keys with
    | nil => rfl
    | cons key rest induction =>
        rw [List.foldl_cons, idle key (threads key List.mem_cons_self)]
        exact induction fun other listed =>
          threads other (List.mem_cons_of_mem key listed)
  exact through fun _ listed => listed

/-! ## Maps that differ in their order -/

/-- The spellings of a key have the same values in both maps. -/
def SpeltAlike (canonical : String) (first second : HeaderMap) : Prop :=
  ∀ name, recordKey name = canonical → first.lookup name = second.lookup name

theorem SpeltAlike.mem (alike : SpeltAlike canonical first second)
    (spelt : recordKey name = canonical) : name ∈ first ↔ name ∈ second := by
  rw [← AList.lookup_isSome, ← AList.lookup_isSome, alike name spelt]

theorem SpeltAlike.one (alike : SpeltAlike canonical first second)
    (thread : canonical ∈ threadKeys) (one : OneSpelling first canonical) :
    OneSpelling second canonical := by
  refine one.imp (alike.mem (recordKey_thread thread)).mp
    fun same left here right there leftSpelt rightSpelt => ?_
  have leftKey := (isAlias_iff.mp leftSpelt).2
  have rightKey := (isAlias_iff.mp rightSpelt).2
  rw [← alike left leftKey, ← alike right rightKey]
  exact same left ((alike.mem leftKey).mpr here) right
    ((alike.mem rightKey).mpr there) leftSpelt rightSpelt

theorem SpeltAlike.spells (alike : SpeltAlike canonical first second)
    (thread : canonical ∈ threadKeys) :
    Spells first canonical value ↔ Spells second canonical value := by
  have itself := recordKey_thread thread
  rw [Spells, Spells, alike canonical itself, alike.mem itself]
  refine or_congr_right (and_congr_right fun _ => exists_congr fun name =>
    and_congr_right fun spelt => ?_)
  rw [alike name (isAlias_iff.mp spelt).2]

theorem normalize_spells (thread : canonical ∈ threadKeys)
    (one : OneSpelling headers canonical) :
    (normalizeThreadHeaders headers).lookup canonical = some value ↔
      Spells headers canonical value := by
  rcases normalize_around thread headers with ⟨before, same, after⟩
  have alike : SpeltAlike canonical before headers := same
  have back : SpeltAlike canonical headers before :=
    fun name spelt => (same name spelt).symm
  rw [after canonical (recordKey_thread thread),
    foldThreadHeader_spells (back.one thread one), alike.spells thread]

theorem SpeltAlike.normalize (alike : SpeltAlike canonical first second)
    (thread : canonical ∈ threadKeys) (one : OneSpelling first canonical) :
    SpeltAlike canonical (normalizeThreadHeaders first)
      (normalizeThreadHeaders second) := by
  intro name spelt
  rcases alias_or_key spelt with same | other
  · rw [same]
    refine Option.ext fun value => ?_
    rw [normalize_spells thread one,
      normalize_spells thread (alike.one thread one), alike.spells thread]
  · rw [normalize_alias thread other, normalize_alias thread other]

end AimailGateway.Api
