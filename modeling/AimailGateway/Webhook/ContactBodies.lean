import AimailGateway.Library.Utf8
import AimailGateway.Webhook.ManagerCommands

/-! # Contact commands in a body

The parsers look for their words in the lower-cased body and cut the body at
the offsets found there. This says what the words delimit in the body itself,
and when the offsets of both texts agree.
-/

namespace AimailGateway.Webhook

open Library

namespace ContactBodies

/-! ## The words in the body itself -/

section Words

variable (tables : CaseTables)

/-- The character is the letter in some letter case. -/
def spells (letter character : Char) : Bool :=
  tables.toLowercase (String.singleton character) == String.singleton letter

def afterWord : List Char → List Char → Option (List Char)
  | [], text => some text
  | _ :: _, [] => none
  | letter :: word, character :: text =>
      if spells tables letter character then afterWord word text else none

def cutAtWord (word : List Char) : List Char → Option (List Char × List Char)
  | [] => (afterWord tables word []).map fun after => ([], after)
  | character :: text =>
      match afterWord tables word (character :: text) with
      | some after => some ([], after)
      | none => (cutAtWord word text).map fun cut => (character :: cut.1, cut.2)

/-- The address up to the first of the keywords that follows one. -/
def namedBefore (rest : String) : List String → Option String
  | [] => none
  | keyword :: keywords =>
      match cutAtWord tables keyword.toList rest.toList with
      | none => namedBefore rest keywords
      | some cut =>
          let email := Text.trim (String.ofList cut.1)
          if email != "" && Text.containsChar '@' email then some email
          else namedBefore rest keywords

def namedBetween (body : String) (keywords : List String) :
    List String → Option String
  | [] => none
  | start :: prefixes =>
      match cutAtWord tables start.toList body.toList with
      | none => namedBetween body keywords prefixes
      | some cut =>
          match namedBefore tables (String.ofList cut.2) keywords with
          | none => namedBetween body keywords prefixes
          | some email => some email

def addKeywords : List String := [" to my contacts", " to contacts"]
def addPrefixes : List String := ["add ", "添加 ", "加入 "]
def removeKeywords : List String := [" from my contacts", " from contacts"]
def removePrefixes : List String := ["remove ", "delete ", "移除 ", "删除 "]

/-- The parsers answer with the addresses that the body names. -/
structure Exact (body : String) : Prop where
  add : parseAddContactBody tables body =
    .ok ((namedBetween tables body addKeywords addPrefixes).map fun email =>
      .addContact email (extractDescriptionFromBody body))
  remove : parseRemoveContactBody tables body =
    .ok ((namedBetween tables body removeKeywords removePrefixes).map
      .removeContact)

/-! ## Offsets of both texts -/

/-- The word is found in the lower-cased text where it stands in the text, and
takes as many bytes there. -/
structure SameOffset (word text : String) : Prop where
  found : Text.find word (tables.toLowercase text) =
    (cutAtWord tables word.toList text.toList).map fun cut =>
      Text.byteLength (String.ofList cut.1)
  whole : ∀ cut ∈ cutAtWord tables word.toList text.toList,
    Text.byteLength text = Text.byteLength (String.ofList cut.1) +
      Text.byteLength word + Text.byteLength (String.ofList cut.2)

/-- No keyword is shifted that is looked for in the text after a prefix: the
others follow one that names an address. -/
def EndsLevel (rest : String) : List String → Prop
  | [] => True
  | keyword :: keywords => SameOffset tables keyword rest ∧
      (namedBefore tables rest [keyword] = none → EndsLevel rest keywords)

/-- No word is shifted that a parser looks for: the prefixes up to the one that
names an address, and the keywords after each of them. -/
def Level (body : String) (keywords : List String) : List String → Prop
  | [] => True
  | start :: prefixes => SameOffset tables start body ∧
      (∀ cut ∈ cutAtWord tables start.toList body.toList,
        EndsLevel tables (String.ofList cut.2) keywords) ∧
      (namedBetween tables body keywords [start] = none →
        Level body keywords prefixes)

end Words

/-! ## Cuts -/

section Cuts

variable {tables : CaseTables}
  {cut : List Char × List Char}

theorem suffix_of_afterWord {word text after : List Char}
    (follows : afterWord tables word text = some after) :
    ∃ piece, text = piece ++ after ∧ List.Forall₂
      (fun letter character => spells tables letter character = true)
      word piece := by
  induction word generalizing text with
  | nil =>
      cases follows
      exact ⟨[], rfl, .nil⟩
  | cons letter word induction =>
      cases text with
      | nil => cases follows
      | cons character text =>
          rw [afterWord] at follows
          split at follows
          · next spelled =>
              obtain ⟨piece, whole, same⟩ := induction follows
              exact ⟨character :: piece, by rw [whole, List.cons_append],
                .cons spelled same⟩
          · cases follows

theorem parts_of_cutAtWord {word text : List Char}
    (found : cutAtWord tables word text = some cut) :
    ∃ piece, text = cut.1 ++ piece ++ cut.2 ∧ List.Forall₂
      (fun letter character => spells tables letter character = true)
      word piece := by
  induction text generalizing cut with
  | nil =>
      rw [cutAtWord, Option.map_eq_some_iff] at found
      obtain ⟨after, follows, rfl⟩ := found
      exact suffix_of_afterWord follows
  | cons character text induction =>
      rw [cutAtWord] at found
      split at found
      · next after follows =>
          cases found
          exact suffix_of_afterWord follows
      · rw [Option.map_eq_some_iff] at found
        obtain ⟨inner, later, rfl⟩ := found
        obtain ⟨piece, whole, same⟩ := induction later
        exact ⟨piece, by rw [whole]; rfl, same⟩

theorem SameOffset.after {word text : String}
    (same : SameOffset tables word text)
    (found : cutAtWord tables word.toList text.toList = some cut) :
    Text.sliceFrom (Text.byteLength (String.ofList cut.1) +
      Text.byteLength word) text = some (String.ofList cut.2) := by
  obtain ⟨piece, parts, -⟩ := parts_of_cutAtWord found
  have size : Text.byteLength (String.ofList cut.1) + Text.byteLength word =
      Text.byteLength (String.ofList (cut.1 ++ piece)) := by
    have whole := same.whole cut found
    have sum := Text.byteLength_append (cut.1 ++ piece) cut.2
    rw [← parts, String.ofList_toList] at sum
    omega
  rw [Text.sliceFrom, size, parts, Text.byteLength_ofList,
    Text.splitBytes_append]
  rfl

theorem sliceTo_of_cutAtWord {word : List Char} {text : String}
    (found : cutAtWord tables word text.toList = some cut) :
    Text.sliceTo (Text.byteLength (String.ofList cut.1)) text =
      some (String.ofList cut.1) := by
  obtain ⟨piece, parts, -⟩ := parts_of_cutAtWord found
  rw [Text.sliceTo, parts, List.append_assoc, Text.byteLength_ofList,
    Text.splitBytes_append]
  rfl

end Cuts

/-! ## Parsers on level bodies -/

section Level

variable {tables : CaseTables}

theorem addressBefore_named {rest : String} (keywords : List String)
    (level : EndsLevel tables rest keywords) :
    addressBefore rest (tables.toLowercase rest) keywords =
      .ok (namedBefore tables rest keywords) := by
  induction keywords with
  | nil => rfl
  | cons keyword keywords induction =>
      have same : SameOffset tables keyword rest := level.1
      have others (unnamed : namedBefore tables rest [keyword] = none) :=
        induction (level.2 unnamed)
      rw [namedBefore] at others
      rw [addressBefore, namedBefore, same.found]
      cases found : cutAtWord tables keyword.toList rest.toList with
      | none =>
          rw [found] at others
          exact others rfl
      | some cut =>
          simp only [found] at others
          simp only [Option.map_some, sliceTo_of_cutAtWord found]
          split
          · rfl
          · next invalid =>
              rw [if_neg invalid] at others
              exact others rfl

theorem addressBetween_named {body : String} {keywords : List String}
    (prefixes : List String) (level : Level tables body keywords prefixes) :
    addressBetween tables body keywords prefixes =
      .ok (namedBetween tables body keywords prefixes) := by
  induction prefixes with
  | nil => rfl
  | cons start prefixes induction =>
      have same : SameOffset tables start body := level.1
      have others (unnamed : namedBetween tables body keywords [start] = none) :=
        induction (level.2.2 unnamed)
      rw [namedBetween] at others
      rw [addressBetween, namedBetween, same.found]
      cases found : cutAtWord tables start.toList body.toList with
      | none =>
          rw [found] at others
          exact others rfl
      | some cut =>
          have before := addressBefore_named keywords (level.2.1 cut found)
          simp only [found] at others
          simp only [Option.map_some, same.after found, before]
          cases named : namedBefore tables (String.ofList cut.2) keywords with
          | none =>
              rw [named] at others
              exact others rfl
          | some email => rfl

end Level

/-! ## Letters that keep their bytes -/

/-- Every letter has one lower-case letter, of as many bytes. -/
structure KeepsBytes (tables : CaseTables) (lower : Char → Char) : Prop where
  each : ∀ text, tables.toLowercase text =
    String.ofList (text.toList.map lower)
  bytes : ∀ character, (lower character).utf8Size = character.utf8Size

section Bytes

variable {tables : CaseTables} {lower : Char → Char}

theorem KeepsBytes.spells_iff (keeps : KeepsBytes tables lower)
    {letter character : Char} :
    spells tables letter character = true ↔ lower character = letter := by
  rw [spells, beq_iff_eq, keeps.each]
  constructor
  · intro same
    have lists := congrArg String.toList same
    simpa using lists
  · intro same
    rw [same.symm, String.toList_singleton]
    rfl

theorem KeepsBytes.afterWord_isSome (keeps : KeepsBytes tables lower)
    (word text : List Char) :
    (afterWord tables word text).isSome = word.isPrefixOf (text.map lower) := by
  induction word generalizing text with
  | nil => simp [afterWord]
  | cons letter word induction =>
      cases text with
      | nil => rfl
      | cons character text =>
          rw [afterWord, List.map_cons, List.isPrefixOf_cons_cons]
          by_cases same : lower character = letter
          · rw [if_pos (keeps.spells_iff.mpr same), induction, same]
            simp
          · rw [if_neg (fun spelled => same (keeps.spells_iff.mp spelled))]
            simp [Ne.symm same]

theorem KeepsBytes.offsetOf (keeps : KeepsBytes tables lower)
    (word text : List Char) :
    Text.offsetOf word (text.map lower) =
      (cutAtWord tables word text).map fun cut =>
        Text.byteLength (String.ofList cut.1) := by
  induction text with
  | nil =>
      cases word with
      | nil => rfl
      | cons letter word => rfl
  | cons character text induction =>
      have start := keeps.afterWord_isSome word (character :: text)
      rw [List.map_cons] at start
      rw [List.map_cons, Text.offsetOf, ← start, cutAtWord]
      cases afterWord tables word (character :: text) with
      | some after => rfl
      | none =>
          rw [if_neg (by simp), induction, keeps.bytes]
          cases cutAtWord tables word text with
          | none => rfl
          | some cut =>
              simp only [Option.map_some, Text.byteLength_ofList,
                Text.utf8Length_cons, Nat.add_comm]

theorem KeepsBytes.spelled_bytes (keeps : KeepsBytes tables lower)
    {word piece : List Char} (spelled : List.Forall₂
      (fun letter character => spells tables letter character = true)
      word piece) :
    Text.byteLength (String.ofList word) =
      Text.byteLength (String.ofList piece) := by
  rw [Text.byteLength_ofList, Text.byteLength_ofList]
  induction spelled with
  | nil => rfl
  | cons same _ induction =>
      rw [Text.utf8Length_cons, Text.utf8Length_cons, induction, ← keeps.spells_iff.mp same, keeps.bytes]

theorem KeepsBytes.sameOffset (keeps : KeepsBytes tables lower)
    (word text : String) : SameOffset tables word text := by
  constructor
  · rw [Text.find, keeps.each, String.toList_ofList, keeps.offsetOf]
  · intro cut found
    obtain ⟨piece, parts, spelled⟩ := parts_of_cutAtWord found
    have size := keeps.spelled_bytes spelled
    rw [String.ofList_toList] at size
    have sum := Text.byteLength_append (cut.1 ++ piece) cut.2
    rw [← parts, String.ofList_toList, Text.byteLength_append] at sum
    omega

theorem KeepsBytes.endsLevel (keeps : KeepsBytes tables lower) (rest : String)
    (keywords : List String) : EndsLevel tables rest keywords := by
  induction keywords with
  | nil => trivial
  | cons keyword keywords induction =>
      exact ⟨keeps.sameOffset keyword rest, fun _ => induction⟩

theorem KeepsBytes.level (keeps : KeepsBytes tables lower) (body : String)
    (keywords prefixes : List String) : Level tables body keywords prefixes := by
  induction prefixes with
  | nil => trivial
  | cons start prefixes induction =>
      exact ⟨keeps.sameOffset start body, fun cut _ => keeps.endsLevel _ keywords,
        fun _ => induction⟩

theorem asciiTables_keepsBytes : KeepsBytes Text.asciiTables Char.toLower := by
  refine ⟨fun text => rfl, fun character => ?_⟩
  delta Char.toLower
  split
  · next capital =>
      have low : character.val.toNat ≤ 90 := capital.2
      have one : character.utf8Size = 1 :=
        Char.utf8Size_eq_one_iff.mpr (by
          rw [UInt32.le_iff_toNat_le]
          exact Nat.le_trans low (by decide))
      have sum : (character.val + ('a'.val - 'A'.val)).toNat =
          character.val.toNat + 32 := by
        rw [UInt32.toNat_add]
        exact Nat.mod_eq_of_lt (Nat.lt_of_le_of_lt
          (Nat.add_le_add_right low _) (by decide))
      rw [one, Char.utf8Size_eq_one_iff, UInt32.le_iff_toNat_le, sum]
      exact Nat.le_trans (Nat.add_le_add_right low 32) (by decide)
  · rfl

end Bytes

/-! ## What is named is in the body -/

section Named

variable {tables : CaseTables}

theorem trim_infix (text : String) :
    (Text.trim text).toList <:+: text.toList := by
  rw [Text.trim, String.toList_ofList]
  exact (List.rdropWhile_prefix _ _).isInfix.trans
    (List.dropWhile_suffix _).isInfix

theorem namedBefore_infix {rest email : String} (keywords : List String)
    (named : namedBefore tables rest keywords = some email) :
    email.toList <:+: rest.toList := by
  induction keywords with
  | nil => cases named
  | cons keyword keywords induction =>
      rw [namedBefore] at named
      cases found : cutAtWord tables keyword.toList rest.toList with
      | none =>
          rw [found] at named
          exact induction named
      | some cut =>
          simp only [found] at named
          split at named
          · cases named
            obtain ⟨piece, parts, -⟩ := parts_of_cutAtWord found
            have start := trim_infix (String.ofList cut.1)
            rw [String.toList_ofList] at start
            rw [parts, List.append_assoc]
            exact start.trans (List.prefix_append _ _).isInfix
          · exact induction named

theorem namedBetween_infix {body email : String} {keywords : List String}
    (prefixes : List String)
    (named : namedBetween tables body keywords prefixes = some email) :
    email.toList <:+: body.toList := by
  induction prefixes with
  | nil => cases named
  | cons start prefixes induction =>
      rw [namedBetween] at named
      cases found : cutAtWord tables start.toList body.toList with
      | none =>
          rw [found] at named
          exact induction named
      | some cut =>
          simp only [found] at named
          cases inner : namedBefore tables (String.ofList cut.2) keywords with
          | none =>
              rw [inner] at named
              exact induction named
          | some other =>
              rw [inner] at named
              cases named
              obtain ⟨piece, parts, -⟩ := parts_of_cutAtWord found
              have after := namedBefore_infix keywords inner
              rw [String.toList_ofList] at after
              rw [parts]
              exact after.trans (List.suffix_append _ _).isInfix

end Named

end ContactBodies

namespace ContactBodies

/-! A letter that takes two bytes, and three in lower case. -/

def lowerDotted (character : Char) : List Char :=
  if character = 'İ' then ['i', '\u0307'] else [character.toLower]

def dottedTables : CaseTables where
  toLowercase text := String.ofList (text.toList.flatMap lowerDotted)
  toUppercase := fun text => String.ofList (text.toList.map Char.toUpper)
  foldCase := Char.toLower

/-- The letter stands after the words that are looked for. -/
def dottedLater : String := "ADD ann@x.org to my contacts\nİ 添加 "

instance (tables : CaseTables) (word text : String) :
    Decidable (SameOffset tables word text) :=
  decidable_of_iff (_ ∧ _)
    ⟨fun both => ⟨both.1, both.2⟩, fun same => ⟨same.found, same.whole⟩⟩

theorem dottedLater_add :
    Level dottedTables dottedLater addKeywords addPrefixes := by
  have start : SameOffset dottedTables "add " dottedLater := by decide +kernel
  have cut : cutAtWord dottedTables "add ".toList dottedLater.toList =
      some ([], "ann@x.org to my contacts\nİ 添加 ".toList) := by decide +kernel
  have keyword : SameOffset dottedTables " to my contacts"
      "ann@x.org to my contacts\nİ 添加 " := by decide +kernel
  have address : namedBefore dottedTables "ann@x.org to my contacts\nİ 添加 "
      [" to my contacts"] ≠ none := by decide +kernel
  have named : namedBetween dottedTables dottedLater addKeywords ["add "] ≠
      none := by decide +kernel
  refine ⟨start, fun found here => ?_, fun unnamed => absurd unnamed named⟩
  rw [cut] at here
  cases here
  rw [String.ofList_toList]
  exact ⟨keyword, fun unnamed => absurd unnamed address⟩

theorem dottedLater_remove :
    Level dottedTables dottedLater removeKeywords removePrefixes := by
  have absent : ∀ start ∈ removePrefixes,
      SameOffset dottedTables start dottedLater ∧
        cutAtWord dottedTables start.toList dottedLater.toList = none := by
    decide +kernel
  have level : ∀ prefixes, (∀ start ∈ prefixes, start ∈ removePrefixes) →
      Level dottedTables dottedLater removeKeywords prefixes := by
    intro prefixes known
    induction prefixes with
    | nil => trivial
    | cons start prefixes induction =>
        have here := absent start (known start List.mem_cons_self)
        refine ⟨here.1, fun cut found => ?_, fun _ => induction fun other member =>
          known other (List.mem_cons_of_mem _ member)⟩
        rw [here.2] at found
        cases found
  exact level removePrefixes fun _ member => member

end ContactBodies

namespace ContactBodies

end ContactBodies

end AimailGateway.Webhook
