import AimailGateway.Api.SendHeaders
import AimailGateway.Library.Delimiters

/-! # The address in a display form

Several places take the address out of `Name <addr>`. Some look for the first
brackets, some for the last ones, and a slice between brackets in the wrong
order panics; nothing stands for a panic.
-/

namespace AimailGateway.AddressForms

open Library Smtp

/-! ## Receiving -/

section Receiver

variable (tables : CaseTables)

/-- `extract_email_for_envelope`: the address compared with the envelope. -/
def extractEmail (raw : String) : Option String :=
  (bracketed raw).map fun inner => tables.toLowercase (Text.trim inner)

/-- `strip_mime_display`. -/
def stripDisplay (raw : String) : Option String :=
  (bracketed raw).map (stripMimeDisplay raw)

end Receiver

/-! ## The sender of a delivery -/

def isMailbox (email : String) : Bool :=
  email != "" && Text.containsChar '@' email

/-- What follows the last `<` of a header, up to the last `>` or the end. -/
def headerInner (header : String) : Option String :=
  if Text.containsChar '>' header then bracketed header
  else some (Text.lastPiece '<' header)

def senderText (sender : String) : String :=
  let sender := Text.trim sender
  if Text.containsChar '<' sender && Text.containsChar '>' sender then
    -- no panic here: the slice is guarded by `pos + 1 < end`
    match bracketed sender with
    | some inner =>
        if isMailbox (Text.trim inner) then Text.trim inner else sender
    | none => sender
  else
    sender

/-- `resolve_sender`, up to the parsing of the text it takes. -/
def resolveSender (headers : Json) (sender : String) : Option String :=
  match (headers.getStr? "from").filter (Text.containsChar '<') with
  | some header =>
      (headerInner header).map fun inner =>
        if isMailbox (Text.trim inner) then Text.trim inner
        else senderText sender
  | none => some (senderText sender)

/-! ## Display names -/

section Names

variable (tables : CaseTables)

/-- The address and the display name of one part of a header, if it has
both. -/
def nameEntry (part : String) : Option (Option (String × String)) :=
  match Text.splitOnce '<' (Text.trim part) with
  | none => some none
  | some (before, rest) =>
      if Text.containsChar '>' before then none
      else
        match Text.splitOnce '>' rest with
        | none => some none
        | some (inner, _) =>
            let name := Text.trim before
            let email := tables.toLowercase (Text.trim inner)
            some (if name != "" && email != "" then some (email, name)
              else none)

/-- `HashMap::insert`. -/
def insertName (map : List (String × String)) (entry : String × String) :
    List (String × String) :=
  map.filter (·.1 != entry.1) ++ [entry]

def insertNames (map : List (String × String)) :
    List String → Option (List (String × String))
  | [] => some map
  | part :: rest =>
      match nameEntry tables part with
      | none => none
      | some none => insertNames map rest
      | some (some entry) => insertNames (insertName map entry) rest

def recipientTexts (headers : Json) : List String :=
  ["to", "cc"].filterMap headers.getStr?

def nameMap (headers : Json) : Option (List (String × String)) :=
  insertNames tables [] ((recipientTexts headers).flatMap (Text.split ','))

/-- `SmtpRelay::name_map_from_headers`. -/
def relayNameMap (headers : Json) : Option (List (String × String)) :=
  nameMap tables headers

/-- `name_map_from_headers` of the direct delivery. -/
def mxNameMap (headers : Json) : Option (List (String × String)) :=
  nameMap tables headers

end Names

/-! ## Brackets in order -/

/-- A `>` stands before the first `<`. -/
def closesFirst (text : String) : Bool :=
  Text.containsChar '<' text &&
    Text.containsChar '>' (Text.firstPiece '<' text)

/-- A `<` stands after the last `>`. -/
def opensLast (text : String) : Bool :=
  Text.containsChar '>' text &&
    Text.containsChar '<' (Text.lastPiece '>' text)

/-- No `>` before the first `<`, in the text and in each of its parts, and no
`<` after the last `>`. -/
structure InOrder (text : String) : Prop where
  whole : closesFirst text = false
  parts : ∀ part ∈ Text.split ',' text, closesFirst part = false
  last : opensLast text = false

/-- The first brackets of a text, what precedes them and what they hold. -/
def FirstPair (text shown inner : String) : Prop :=
  (∃ after, text.toList =
      shown.toList ++ '<' :: (inner.toList ++ '>' :: after)) ∧
    '<' ∉ shown.toList ∧ '>' ∉ shown.toList ∧ '>' ∉ inner.toList

theorem FirstPair.split {text shown inner : String}
    (first : FirstPair text shown inner) :
    ∃ rest after, Text.splitOnce '<' text = some (shown, rest) ∧
      Text.splitOnce '>' rest = some (inner, after) := by
  rcases first with ⟨⟨after, cut⟩, opened, -, closed⟩
  refine ⟨String.ofList (inner.toList ++ '>' :: after), String.ofList after,
    ?_, ?_⟩
  · rw [Text.splitOnce_cut cut opened, String.ofList_toList]
  · rw [Text.splitOnce_cut (String.toList_ofList ..) closed,
      String.ofList_toList]

theorem FirstPair.unique {text shown inner other held : String}
    (first : FirstPair text shown inner)
    (second : FirstPair text other held) :
    shown = other ∧ inner = held := by
  rcases first.split with ⟨rest, after, found, closed⟩
  rcases second.split with ⟨later, last, refound, reclosed⟩
  rw [found] at refound
  cases refound
  rw [closed] at reclosed
  cases reclosed
  exact ⟨rfl, rfl⟩

theorem FirstPair.ordered {text shown inner : String}
    (first : FirstPair text shown inner) : closesFirst text = false := by
  rcases first with ⟨⟨after, cut⟩, opened, unclosed, -⟩
  rw [closesFirst, Text.firstPiece_cut cut opened, String.ofList_toList,
    Text.containsChar_eq_false_iff.mpr unclosed, Bool.and_false]

theorem closesFirst_of_split {text before rest : String}
    (found : Text.splitOnce '<' text = some (before, rest)) :
    closesFirst text = Text.containsChar '>' before := by
  rcases Text.cut_of_splitOnce found with ⟨cut, opened⟩
  have opens : Text.containsChar '<' text = true := by
    rw [Text.containsChar_iff, cut]
    simp
  rw [closesFirst, opens, Bool.true_and, Text.firstPiece_cut cut opened,
    String.ofList_toList]

theorem closesFirst_of_unsplit {text : String}
    (missing : Text.splitOnce '<' text = none) : closesFirst text = false := by
  have absent : '<' ∉ text.toList := by
    intro present
    rcases List.eq_append_cons_of_mem present with ⟨before, after, cut, free⟩
    rw [Text.splitOnce_cut cut free] at missing
    cases missing
  rw [closesFirst, Text.containsChar_eq_false_iff.mpr absent, Bool.false_and]

theorem exists_firstPair {text before rest inner after : String}
    (found : Text.splitOnce '<' text = some (before, rest))
    (unclosed : Text.containsChar '>' before = false)
    (closed : Text.splitOnce '>' rest = some (inner, after)) :
    FirstPair text before inner := by
  rcases Text.cut_of_splitOnce found with ⟨cut, opened⟩
  rcases Text.cut_of_splitOnce closed with ⟨recut, free⟩
  refine ⟨⟨after.toList, ?_⟩, opened,
    Text.containsChar_eq_false_iff.mp unclosed, free⟩
  rw [cut, recut]

/-! ## Reading from the left -/

theorem contains_trimStart (text : String) :
    Text.containsChar '>' (Text.trimStart text) =
      Text.containsChar '>' text := by
  rw [Bool.eq_iff_iff, Text.containsChar_iff, Text.containsChar_iff,
    Text.trimStart, String.toList_ofList]
  exact Text.mem_dropWhile_solid (by decide)

section Left

variable (state : Api.SendState) {text shown inner : String}

/-- A recipient of a request panics on a `>` before the first `<`. -/
theorem parseOne_eq_none_iff :
    Api.parseOne state text = none ↔ closesFirst text = true := by
  cases found : Text.splitOnce '<' text with
  | none =>
      have kept := Text.splitOnce_trim_eq_none (by decide) found
      rw [Api.parseOne, kept, closesFirst_of_unsplit found]
      simp
  | some pieces =>
      rcases pieces with ⟨before, rest⟩
      have kept := Text.splitOnce_trim (by decide) found
      rw [Api.parseOne, kept, closesFirst_of_split found]
      simp only [contains_trimStart]
      cases Text.containsChar '>' before <;> simp

theorem parseOne_of_firstPair (first : FirstPair text shown inner) :
    Api.parseOne state text = some (Text.trim shown,
      state.env.tables.toLowercase (Text.trim inner)) := by
  rcases first.split with ⟨rest, after, found, closed⟩
  have kept := Text.splitOnce_trim (by decide) found
  have free := contains_trimStart shown
  rw [← closesFirst_of_split found, first.ordered] at free
  have ends := Text.splitOnce_trimEnd (by decide) closed
  rcases Text.cut_of_splitOnce ends with ⟨cut, absent⟩
  rw [Api.parseOne, kept]
  simp only [free, Bool.false_eq_true, if_false,
    Text.firstPiece_cut cut absent, String.ofList_toList,
    Text.trim_trimStart]

variable (tables : CaseTables)

theorem nameEntry_eq_none_iff :
    nameEntry tables text = none ↔ closesFirst text = true := by
  cases found : Text.splitOnce '<' text with
  | none =>
      have kept := Text.splitOnce_trim_eq_none (by decide) found
      rw [nameEntry, kept, closesFirst_of_unsplit found]
      simp
  | some pieces =>
      rcases pieces with ⟨before, rest⟩
      have kept := Text.splitOnce_trim (by decide) found
      rw [nameEntry, kept, closesFirst_of_split found]
      simp only [contains_trimStart]
      cases Text.containsChar '>' before with
      | true => simp
      | false =>
          cases Text.splitOnce '>' (Text.trimEnd rest) <;> simp

theorem nameEntry_of_firstPair (first : FirstPair text shown inner) :
    nameEntry tables text =
      some (if Text.trim shown != "" &&
          tables.toLowercase (Text.trim inner) != "" then
        some (tables.toLowercase (Text.trim inner), Text.trim shown)
      else none) := by
  rcases first.split with ⟨rest, after, found, closed⟩
  have kept := Text.splitOnce_trim (by decide) found
  have free := contains_trimStart shown
  rw [← closesFirst_of_split found, first.ordered] at free
  have ends := Text.splitOnce_trimEnd (by decide) closed
  rw [nameEntry, kept]
  simp only [free, Bool.false_eq_true, if_false, ends, Text.trim_trimStart]

theorem firstPair_of_nameEntry {email name : String}
    (entered : nameEntry tables text = some (some (email, name))) :
    ∃ shown inner, FirstPair text shown inner ∧ Text.trim shown ≠ "" ∧
      email = tables.toLowercase (Text.trim inner) ∧ email ≠ "" := by
  cases found : Text.splitOnce '<' text with
  | none =>
      have kept := Text.splitOnce_trim_eq_none (by decide) found
      rw [nameEntry, kept] at entered
      cases entered
  | some pieces =>
      rcases pieces with ⟨before, rest⟩
      cases closed : Text.splitOnce '>' rest with
      | none =>
          have kept := Text.splitOnce_trim (by decide) found
          have absent : '>' ∉ rest.toList := by
            intro present
            rcases List.eq_append_cons_of_mem present with
              ⟨front, back, cut, free⟩
            rw [Text.splitOnce_cut cut free] at closed
            cases closed
          rw [nameEntry, kept] at entered
          simp only [Text.splitOnce_trimEnd_eq_none absent] at entered
          split at entered <;> cases entered
      | some halves =>
          rcases halves with ⟨inner, after⟩
          have calm : closesFirst text = false := by
            rw [← Bool.not_eq_true, ← nameEntry_eq_none_iff tables, entered]
            simp
          rw [closesFirst_of_split found] at calm
          have first := exists_firstPair found calm closed
          rw [nameEntry_of_firstPair tables first] at entered
          split at entered
          · next kept =>
              cases entered
              rw [Bool.and_eq_true, bne_iff_ne, bne_iff_ne] at kept
              exact ⟨before, inner, first, kept.1, rfl, kept.2⟩
          · cases entered

end Left

/-! ## Reading from the right -/

/-- The slice of the receiver panics on a `<` after the last `>`. -/
theorem bracketed_eq_none_iff {text : String} :
    bracketed text = none ↔
      Text.containsChar '<' text = true ∧ opensLast text = true := by
  by_cases opened : '<' ∈ text.toList
  · rcases Text.exists_last_cut opened with ⟨before, after, cut, free⟩
    have last := Text.lastPiece_cut cut free
    by_cases closed : '>' ∈ after
    · rcases Text.exists_last_cut closed with ⟨front, back, recut, absent⟩
      have ends : text.toList = (before ++ '<' :: front) ++ '>' :: back := by
        rw [cut, recut, List.append_assoc, List.cons_append]
      have calm : '<' ∉ back := by
        intro member
        apply free
        rw [recut]
        simp [member]
      have shut : '>' ∈ text.toList := by
        rw [ends]
        simp
      simp [bracketed, opensLast, Text.containsChar, last,
        Text.lastPiece_cut ends absent, opened, shut, closed, calm]
    · by_cases early : '>' ∈ before
      · rcases Text.exists_last_cut early with ⟨front, back, recut, absent⟩
        have ends : text.toList = front ++ '>' :: (back ++ '<' :: after) := by
          rw [cut, recut, List.append_assoc, List.cons_append]
        have none : '>' ∉ back ++ '<' :: after := by
          simp [absent, closed]
        have shut : '>' ∈ text.toList := by
          rw [ends]
          simp
        simp [bracketed, opensLast, Text.containsChar, last,
          Text.lastPiece_cut ends none, opened, shut, closed]
      · have never : '>' ∉ text.toList := by
          rw [cut]
          simp [early, closed]
        simp [bracketed, opensLast, Text.containsChar, never]
  · simp [bracketed, Text.containsChar, opened]

/-- A text that ends in brackets around a text without `<`. -/
theorem bracketed_of_ends {text : String} {front inner : List Char}
    (ends : text.toList = front ++ '<' :: (inner ++ ['>']))
    (free : '<' ∉ inner) : bracketed text = some (String.ofList inner) := by
  have absent : '<' ∉ inner ++ ['>'] := by
    simp [free]
  have last := Text.lastPiece_cut ends absent
  have opened : Text.containsChar '<' text = true := by
    rw [Text.containsChar_iff, ends]
    simp
  have closed : Text.containsChar '>' text = true := by
    rw [Text.containsChar_iff, ends]
    simp
  have shut : Text.containsChar '>' (String.ofList (inner ++ ['>'])) = true := by
    rw [Text.containsChar_iff, String.toList_ofList]
    simp
  have kept : (inner ++ ['>']).rdropWhile (· != '>') = inner ++ ['>'] := by
    rw [List.rdropWhile_concat_neg]
    simp
  rw [bracketed, opened, closed, last]
  simp only [Bool.and_self, if_true, shut, String.toList_ofList, kept,
    List.dropLast_concat]

/-! ## Maps of names -/

section Maps

variable {tables : CaseTables}

theorem mem_insertName {map : List (String × String)}
    {entry : String × String} {email : String} :
    email ∈ (insertName map entry).map (·.1) ↔
      email = entry.1 ∨ email ∈ map.map (·.1) := by
  rw [insertName, List.map_append, List.mem_append, List.map_singleton,
    List.mem_singleton, or_comm]
  by_cases same : email = entry.1
  · simp [same]
  · rw [or_iff_right same, or_iff_right same, List.mem_map, List.mem_map]
    constructor
    · rintro ⟨kept, member, rfl⟩
      exact ⟨kept, (List.mem_filter.mp member).1, rfl⟩
    · rintro ⟨kept, member, rfl⟩
      exact ⟨kept, List.mem_filter.mpr ⟨member, by simpa using same⟩, rfl⟩

/-- A part gives the address a display name. -/
def Entered (tables : CaseTables) (parts : List String) (email : String) :
    Prop :=
  ∃ part ∈ parts, ∃ name, nameEntry tables part = some (some (email, name))

theorem insertNames_isSome {parts : List String}
    {map : List (String × String)} :
    (insertNames tables map parts).isSome = true ↔
      ∀ part ∈ parts, closesFirst part = false := by
  induction parts generalizing map with
  | nil => simp [insertNames]
  | cons part rest induction =>
      rw [insertNames, List.forall_mem_cons]
      have panics : nameEntry tables part = none ↔ closesFirst part = true :=
        nameEntry_eq_none_iff tables
      cases entry : nameEntry tables part with
      | none =>
          rw [entry] at panics
          simp [panics.mp rfl]
      | some found =>
          have calm : closesFirst part = false := by
            rw [← Bool.not_eq_true, ← panics, entry]
            simp
          cases found with
          | none => simp only [calm, true_and, induction]
          | some pair => simp only [calm, true_and, induction]

theorem mem_insertNames {parts : List String}
    {map final : List (String × String)} {email : String}
    (built : insertNames tables map parts = some final) :
    email ∈ final.map (·.1) ↔
      email ∈ map.map (·.1) ∨ Entered tables parts email := by
  induction parts generalizing map with
  | nil =>
      cases built
      simp [Entered]
  | cons part rest induction =>
      rw [insertNames] at built
      have splits : Entered tables (part :: rest) email ↔
          (∃ name, nameEntry tables part = some (some (email, name))) ∨
            Entered tables rest email := by
        simp [Entered]
      rw [splits]
      cases entry : nameEntry tables part with
      | none =>
          rw [entry] at built
          cases built
      | some found =>
          rw [entry] at built
          cases found with
          | none =>
              rw [induction built]
              simp
          | some pair =>
              rw [induction built, mem_insertName]
              rcases pair with ⟨address, name⟩
              simp only [Option.some.injEq, Prod.mk.injEq, exists_and_left,
                exists_eq', and_true]
              rw [eq_comm, or_assoc, or_left_comm]

end Maps

/-! ## Every string -/

section Totality

variable (state : Api.SendState)
  {text : String}

/-- Each of the places comes back from the text: as a recipient of a request, a
header, the sender of a delivery and its recipients. -/
structure Returns (text : String) : Prop where
  send : (Api.parseOne state text).isSome = true
  receiver : (extractEmail state.env.tables text).isSome = true
  stored : (stripDisplay text).isSome = true
  header : ∀ headers sender, headers.getStr? "from" = some text →
    (resolveSender headers sender).isSome = true
  sender : ∀ headers, headers.getStr? "from" = none →
    (resolveSender headers text).isSome = true
  relay : ∀ headers, recipientTexts headers = [text] →
    (relayNameMap state.env.tables headers).isSome = true
  exchanger : ∀ headers, recipientTexts headers = [text] →
    (mxNameMap state.env.tables headers).isSome = true

theorem nameMap_isSome {tables : CaseTables} {headers : Json}
    (listed : recipientTexts headers = [text]) :
    (nameMap tables headers).isSome = true ↔
      ∀ part ∈ Text.split ',' text, closesFirst part = false := by
  rw [nameMap, listed, List.flatMap_singleton, insertNames_isSome]

theorem headerInner_isSome (calm : opensLast text = false) :
    (headerInner text).isSome = true := by
  rw [headerInner]
  split
  · rw [Option.isSome_iff_ne_none, Ne, bracketed_eq_none_iff, calm]
    simp
  · rfl

theorem resolveSender_isSome {headers : Json} {text sender : String}
    (given : headers.getStr? "from" = some text)
    (calm : opensLast text = false) :
    (resolveSender headers sender).isSome = true := by
  rw [resolveSender, given]
  cases opened : Text.containsChar '<' text with
  | false => simp [Option.filter, opened]
  | true =>
      simp [Option.filter, opened, headerInner_isSome calm]

theorem bracketed_isSome (calm : opensLast text = false) :
    (bracketed text).isSome = true := by
  rw [Option.isSome_iff_ne_none, Ne, bracketed_eq_none_iff, calm]
  simp

theorem returns_iff : Returns state text ↔ InOrder text := by
  constructor
  · intro returns
    have listed : recipientTexts (.object [("to", .string text)]) = [text] :=
      rfl
    have named := returns.relay _ listed
    rw [relayNameMap, nameMap_isSome listed] at named
    refine ⟨?_, named, ?_⟩
    · have sent := returns.send
      rw [Option.isSome_iff_ne_none, Ne, parseOne_eq_none_iff,
        Bool.not_eq_true] at sent
      exact sent
    · have cut := returns.receiver
      rw [extractEmail, Option.isSome_map, Option.isSome_iff_ne_none, Ne,
        bracketed_eq_none_iff, not_and, Bool.not_eq_true] at cut
      cases opened : Text.containsChar '<' text with
      | true => exact cut opened
      | false =>
          rw [opensLast, Bool.and_eq_false_iff]
          right
          rw [Text.containsChar_eq_false_iff] at opened ⊢
          rw [Text.lastPiece, String.toList_ofList]
          exact fun member =>
            opened ((List.rtakeWhile_suffix _ _).subset member)
  · intro ordered
    have cut := bracketed_isSome ordered.last
    refine ⟨?_, ?_, ?_, ?_, ?_, ?_, ?_⟩
    · rw [Option.isSome_iff_ne_none, Ne, parseOne_eq_none_iff, ordered.whole]
      simp
    · rwa [extractEmail, Option.isSome_map]
    · rwa [stripDisplay, Option.isSome_map]
    · exact fun headers sender given => resolveSender_isSome given ordered.last
    · intro headers missing
      rw [resolveSender, missing]
      rfl
    · intro headers listed
      rw [relayNameMap, nameMap_isSome listed]
      exact ordered.parts
    · intro headers listed
      rw [mxNameMap, nameMap_isSome listed]
      exact ordered.parts

end Totality

/-! ## Display forms -/

/-- `Name <addr>`. -/
def form (name addr : String) : String :=
  name ++ " <" ++ addr ++ ">"

theorem toList_form (name addr : String) :
    (form name addr).toList =
      (name.toList ++ [' ']) ++ '<' :: (addr.toList ++ ['>']) := by
  simp [form]

def NamesOnly (map : List (String × String)) (addr : String) : Prop :=
  ∀ email, email ∈ map.map (·.1) ↔ email = addr

/-- The places take the same address out of a display form. -/
structure Agree (state : Api.SendState) (name addr : String) : Prop where
  send : ∃ shown, Api.parseOne state (form name addr) = some (shown, addr)
  receiver : extractEmail state.env.tables (form name addr) = some addr
  stored : stripDisplay (form name addr) = some addr
  header : ∀ headers sender,
    headers.getStr? "from" = some (form name addr) →
    resolveSender headers sender = some addr
  sender : ∀ headers, headers.getStr? "from" = none →
    resolveSender headers (form name addr) = some addr
  relay : ∀ headers, recipientTexts headers = [form name addr] →
    ∃ map, relayNameMap state.env.tables headers = some map ∧
      NamesOnly map addr
  exchanger : ∀ headers, recipientTexts headers = [form name addr] →
    ∃ map, mxNameMap state.env.tables headers = some map ∧ NamesOnly map addr

/-- The text is an address as the program keeps it. -/
structure Settled (tables : CaseTables) (addr : String) : Prop where
  trimmed : Text.trim addr = addr
  lowered : tables.toLowercase addr = addr
  mailbox : Text.containsChar '@' addr = true
  unopened : Text.containsChar '<' addr = false

/-- Read from the left, the first brackets of the text hold the address, and
so do those of each of its parts that has brackets behind a name. -/
structure ReadsAs (tables : CaseTables) (text addr : String) : Prop where
  whole : ∃ shown inner, FirstPair text shown inner ∧
    tables.toLowercase (Text.trim inner) = addr
  ordered : ∀ part ∈ Text.split ',' text, closesFirst part = false
  only : ∀ part ∈ Text.split ',' text, ∀ shown inner,
    FirstPair part shown inner → Text.trim shown ≠ "" →
    tables.toLowercase (Text.trim inner) ≠ "" →
    tables.toLowercase (Text.trim inner) = addr
  named : ∃ part ∈ Text.split ',' text, ∃ shown inner,
    FirstPair part shown inner ∧ Text.trim shown ≠ "" ∧
      tables.toLowercase (Text.trim inner) = addr

section Agreement

variable {state : Api.SendState} {tables : CaseTables} {name addr : String}

theorem Settled.isMailbox (settled : Settled tables addr) :
    isMailbox addr = true := by
  rw [AddressForms.isMailbox, settled.mailbox, Bool.and_true, bne_iff_ne]
  intro empty
  have none := settled.mailbox
  rw [empty] at none
  cases none

theorem Settled.filled (settled : Settled tables addr) : addr ≠ "" := by
  have mailbox := settled.isMailbox
  rw [AddressForms.isMailbox, Bool.and_eq_true, bne_iff_ne] at mailbox
  exact mailbox.1

theorem opened_form :
    Text.containsChar '<' (form name addr) = true := by
  rw [Text.containsChar_iff, toList_form]
  simp

theorem closed_form :
    Text.containsChar '>' (form name addr) = true := by
  rw [Text.containsChar_iff, toList_form]
  simp

theorem bracketed_form (unopened : Text.containsChar '<' addr = false) :
    bracketed (form name addr) = some addr := by
  rw [bracketed_of_ends (toList_form name addr)
    (Text.containsChar_eq_false_iff.mp unopened), String.ofList_toList]

theorem stripMimeDisplay_form (inner : String) :
    stripMimeDisplay (form name addr) inner = Text.trim inner := by
  rw [stripMimeDisplay, opened_form, closed_form, Bool.and_self, if_pos rfl]

/-- An address with a `<` in it is cut at the last one. -/
theorem unopened_of_stored (stored : stripDisplay (form name addr) = some addr) :
    Text.containsChar '<' addr = false := by
  rw [Text.containsChar_eq_false_iff]
  intro member
  rcases Text.exists_last_cut member with ⟨front, back, cut, free⟩
  have ends : (form name addr).toList =
      (name.toList ++ [' '] ++ '<' :: front) ++ '<' :: (back ++ ['>']) := by
    rw [toList_form, cut]
    simp
  rw [stripDisplay, bracketed_of_ends ends free, Option.map_some,
    stripMimeDisplay_form, Option.some.injEq] at stored
  have shorter := Text.length_trim_le (String.ofList back)
  rw [stored, ← String.length_toList, cut, ← String.length_toList,
    String.toList_ofList, List.length_append, List.length_cons] at shorter
  omega

theorem senderText_form (settled : Settled tables addr) :
    senderText (form name addr) = addr := by
  have solid : (addr.toList ++ ['>']).rdropWhile Text.isWhitespace =
      addr.toList ++ ['>'] := by
    rw [List.rdropWhile_concat_neg]
    decide
  have ends := Text.trim_cut (by decide) (toList_form name addr)
  rw [solid] at ends
  have cut := bracketed_of_ends ends
    (Text.containsChar_eq_false_iff.mp settled.unopened)
  have opened : Text.containsChar '<' (Text.trim (form name addr)) = true := by
    rw [Text.containsChar_iff, ends]
    simp
  have closed : Text.containsChar '>' (Text.trim (form name addr)) = true := by
    rw [Text.containsChar_iff, ends]
    simp
  rw [senderText]
  simp only [opened, closed, Bool.and_self, if_true, cut,
    String.ofList_toList, settled.trimmed, settled.isMailbox]

theorem firstPair_form (calm : closesFirst (form name addr) = false) :
    ∃ shown inner, FirstPair (form name addr) shown inner := by
  have opened : '<' ∈ (form name addr).toList := by
    rw [toList_form]
    simp
  rcases List.eq_append_cons_of_mem opened with ⟨before, after, cut, free⟩
  have found := Text.splitOnce_cut cut free
  rw [closesFirst_of_split found] at calm
  have closed : '>' ∈ (String.ofList after).toList := by
    have ends : '>' ∈ before ++ '<' :: after := by
      rw [← cut, toList_form]
      simp
    rw [Text.containsChar_eq_false_iff, String.toList_ofList] at calm
    rw [String.toList_ofList]
    simpa [calm] using ends
  rcases List.eq_append_cons_of_mem closed with ⟨front, back, recut, absent⟩
  exact ⟨_, _, exists_firstPair found calm (Text.splitOnce_cut recut absent)⟩

theorem entered_iff {parts : List String} {email : String} :
    Entered tables parts email ↔
      ∃ part ∈ parts, ∃ shown inner, FirstPair part shown inner ∧
        Text.trim shown ≠ "" ∧ email = tables.toLowercase (Text.trim inner) ∧
        email ≠ "" := by
  constructor
  · rintro ⟨part, listed, shownName, entered⟩
    exact ⟨part, listed, firstPair_of_nameEntry tables entered⟩
  · rintro ⟨part, listed, shown, inner, first, named, same, filled⟩
    refine ⟨part, listed, Text.trim shown, ?_⟩
    rw [nameEntry_of_firstPair tables first, ← same, if_pos]
    rw [Bool.and_eq_true, bne_iff_ne, bne_iff_ne]
    exact ⟨named, filled⟩

theorem nameMap_form_iff {headers : Json}
    (listed : recipientTexts headers = [form name addr]) :
    (∃ map, nameMap tables headers = some map ∧ NamesOnly map addr) ↔
      (∀ part ∈ Text.split ',' (form name addr), closesFirst part = false) ∧
        ∀ email, Entered tables (Text.split ',' (form name addr)) email ↔
          email = addr := by
  have shape : nameMap tables headers =
      insertNames tables [] (Text.split ',' (form name addr)) := by
    rw [nameMap, listed, List.flatMap_singleton]
  have counted : (insertNames tables []
      (Text.split ',' (form name addr))).isSome = true ↔ _ :=
    insertNames_isSome
  rw [shape, ← counted]
  constructor
  · rintro ⟨map, built, names⟩
    refine ⟨by rw [built]; rfl, ?_⟩
    intro email
    rw [← names email, mem_insertNames built]
    simp
  · rintro ⟨returned, entered⟩
    rcases Option.isSome_iff_exists.mp returned with ⟨map, built⟩
    refine ⟨map, built, ?_⟩
    intro email
    rw [mem_insertNames built, ← entered email]
    simp

theorem entered_only_iff {text : String} (filled : addr ≠ "") :
    (∀ email, Entered tables (Text.split ',' text) email ↔ email = addr) ↔
      (∀ part ∈ Text.split ',' text, ∀ shown inner,
        FirstPair part shown inner → Text.trim shown ≠ "" →
        tables.toLowercase (Text.trim inner) ≠ "" →
        tables.toLowercase (Text.trim inner) = addr) ∧
      ∃ part ∈ Text.split ',' text, ∃ shown inner,
        FirstPair part shown inner ∧ Text.trim shown ≠ "" ∧
          tables.toLowercase (Text.trim inner) = addr := by
  simp only [entered_iff]
  constructor
  · intro entered
    constructor
    · intro part listed shown inner first named full
      exact (entered _).mp ⟨part, listed, shown, inner, first, named, rfl, full⟩
    · rcases (entered addr).mpr rfl with
        ⟨part, listed, shown, inner, first, named, same, -⟩
      exact ⟨part, listed, shown, inner, first, named, same.symm⟩
  · rintro ⟨only, part, listed, shown, inner, first, named, same⟩ email
    constructor
    · rintro ⟨other, given, display, held, pair, shows, rfl, full⟩
      exact only other given display held pair shows full
    · intro equal
      rw [equal]
      exact ⟨part, listed, shown, inner, first, named, same.symm, filled⟩

theorem resolveSender_form {headers : Json} {sender : String}
    (settled : Settled tables addr)
    (given : headers.getStr? "from" = some (form name addr)) :
    resolveSender headers sender = some addr := by
  rw [resolveSender, given]
  simp only [Option.filter, opened_form, if_true, headerInner, closed_form,
    bracketed_form settled.unopened, Option.map_some, settled.trimmed,
    settled.isMailbox]

theorem mailbox_of_header (trimmed : Text.trim addr = addr)
    (unopened : Text.containsChar '<' addr = false)
    (header : ∀ headers sender,
      headers.getStr? "from" = some (form name addr) →
      resolveSender headers sender = some addr) :
    isMailbox addr = true := by
  by_contra stray
  have column : ∀ sender, senderText sender = addr := by
    intro sender
    have taken := header (.object [("from", .string (form name addr))]) sender
      rfl
    rw [resolveSender, show Json.getStr?
      (.object [("from", .string (form name addr))]) "from" =
        some (form name addr) from rfl] at taken
    simpa only [Option.filter, opened_form, if_true, headerInner, closed_form,
      bracketed_form unopened, Option.map_some, trimmed, stray,
      Bool.false_eq_true, if_false, Option.some.injEq] using taken
  have first : senderText "a" = "a" := by decide
  have second : senderText "b" = "b" := by decide
  have same := (column "a").trans (column "b").symm
  rw [first, second] at same
  exact absurd same (by decide)

theorem agree_iff : Agree state name addr ↔
    Settled state.env.tables addr ∧
      ReadsAs state.env.tables (form name addr) addr := by
  constructor
  · intro agree
    have unopened := unopened_of_stored agree.stored
    have trimmed : Text.trim addr = addr := by
      have stored := agree.stored
      rw [stripDisplay, bracketed_form unopened, Option.map_some,
        stripMimeDisplay_form, Option.some.injEq] at stored
      exact stored
    have lowered : state.env.tables.toLowercase addr = addr := by
      have taken := agree.receiver
      rw [extractEmail, bracketed_form unopened, Option.map_some, trimmed,
        Option.some.injEq] at taken
      exact taken
    have mailbox := mailbox_of_header trimmed unopened agree.header
    rw [isMailbox, Bool.and_eq_true] at mailbox
    have settled : Settled state.env.tables addr :=
      ⟨trimmed, lowered, mailbox.2, unopened⟩
    have listed : recipientTexts
        (.object [("to", .string (form name addr))]) = [form name addr] := rfl
    have mapped := (nameMap_form_iff listed).mp
      (agree.relay _ listed)
    rcases mapped with ⟨ordered, entered⟩
    rcases (entered_only_iff settled.filled).mp entered with ⟨only, named⟩
    refine ⟨settled, ?_, ordered, only, named⟩
    rcases agree.send with ⟨display, sent⟩
    have calm : closesFirst (form name addr) = false := by
      rw [← Bool.not_eq_true, ← parseOne_eq_none_iff state, sent]
      simp
    rcases firstPair_form calm with ⟨shown, inner, first⟩
    rw [parseOne_of_firstPair state first] at sent
    cases sent
    exact ⟨shown, inner, first, rfl⟩
  · rintro ⟨settled, reads⟩
    have mapped : ∀ headers, recipientTexts headers = [form name addr] →
        ∃ map, nameMap state.env.tables headers = some map ∧
          NamesOnly map addr := by
      intro headers listed
      rw [nameMap_form_iff listed]
      exact ⟨reads.ordered,
        (entered_only_iff settled.filled).mpr ⟨reads.only, reads.named⟩⟩
    refine ⟨?_, ?_, ?_, ?_, ?_, mapped, mapped⟩
    · rcases reads.whole with ⟨shown, inner, first, same⟩
      exact ⟨Text.trim shown, by rw [parseOne_of_firstPair state first, same]⟩
    · rw [extractEmail, bracketed_form settled.unopened, Option.map_some,
        settled.trimmed, settled.lowered]
    · rw [stripDisplay, bracketed_form settled.unopened, Option.map_some,
        stripMimeDisplay_form, settled.trimmed]
    · exact fun headers sender given => resolveSender_form settled given
    · intro headers missing
      rw [resolveSender, missing]
      exact congrArg some (senderText_form settled)

/-! ## Plain names and addresses -/

/-- A text without brackets. -/
def Unbracketed (text : String) : Prop :=
  '<' ∉ text.toList ∧ '>' ∉ text.toList

theorem toList_named (last addr : String) :
    (last ++ (" <" ++ addr ++ ">")).toList =
      (last ++ " ").toList ++ '<' :: (addr.toList ++ '>' :: []) := by
  simp

theorem firstPair_named {last : String} (plain : Unbracketed last)
    (bare : Unbracketed addr) :
    FirstPair (last ++ (" <" ++ addr ++ ">")) (last ++ " ") addr := by
  refine ⟨⟨[], toList_named last addr⟩, ?_, ?_, bare.2⟩
  · simpa using plain.1
  · simpa using plain.2

theorem trim_append_blank (text : String) :
    Text.trim (text ++ " ") = Text.trim text := by
  rw [← Text.trim_trimEnd (text ++ " "), ← Text.trim_trimEnd text,
    Text.trimEnd, Text.trimEnd, String.toList_append,
    show " ".toList = [' '] from rfl,
    List.rdropWhile_concat_pos _ _ _ (by decide)]

theorem split_form (unlisted : ',' ∉ addr.toList) :
    Text.split ',' (form name addr) =
      (Text.split ',' name).dropLast ++
        [Text.lastPiece ',' name ++ (" <" ++ addr ++ ">")] := by
  have absent : ',' ∉ (" <" ++ addr ++ ">").toList := by
    simp [unlisted]
  rw [← Text.split_append absent, form, String.append_assoc,
    String.append_assoc, String.append_assoc]

theorem unbracketed_of_mem_split {part : String} (plain : Unbracketed name)
    (listed : part ∈ Text.split ',' name) : Unbracketed part :=
  ⟨fun member => plain.1 (Text.mem_of_mem_split listed member),
    fun member => plain.2 (Text.mem_of_mem_split listed member)⟩

theorem unbracketed_lastPiece (plain : Unbracketed name) :
    Unbracketed (Text.lastPiece ',' name) := by
  constructor
  · intro member
    rw [Text.lastPiece, String.toList_ofList] at member
    exact plain.1 ((List.rtakeWhile_suffix _ _).subset member)
  · intro member
    rw [Text.lastPiece, String.toList_ofList] at member
    exact plain.2 ((List.rtakeWhile_suffix _ _).subset member)

theorem closesFirst_of_unbracketed {text : String} (plain : Unbracketed text) :
    closesFirst text = false := by
  rw [closesFirst, Text.containsChar_eq_false_iff.mpr plain.1, Bool.false_and]

theorem FirstPair.opened {text shown inner : String}
    (first : FirstPair text shown inner) : '<' ∈ text.toList := by
  rcases first with ⟨⟨after, cut⟩, -, -, -⟩
  rw [cut]
  simp

theorem FirstPair.closed {text shown inner : String}
    (first : FirstPair text shown inner) : '>' ∈ text.toList := by
  rcases first with ⟨⟨after, cut⟩, -, -, -⟩
  rw [cut]
  simp

theorem no_firstPair_of_comma (plain : Unbracketed name)
    (bare : Unbracketed addr) (comma : ',' ∈ addr.toList)
    {part shown inner : String}
    (listed : part ∈ Text.split ',' (form name addr)) :
    ¬ FirstPair part shown inner := by
  intro first
  rcases List.append_of_mem comma with ⟨front, back, cut⟩
  have torn : (form name addr).toList =
      (name.toList ++ " <".toList ++ front) ++ ',' :: (back ++ ['>']) := by
    simp [form, cut]
  rcases List.mem_map.mp listed with ⟨characters, member, rfl⟩
  rw [torn, List.splitOn_append_cons_self, List.mem_append] at member
  have opened := first.opened
  have closed := first.closed
  rw [String.toList_ofList] at opened closed
  rcases bare with ⟨unopened, unclosed⟩
  rw [cut] at unopened unclosed
  rcases member with early | late
  · have closes := Text.subset_of_mem_splitOn early closed
    simp [plain.2] at closes
    exact unclosed (by simp [closes])
  · have opens := Text.subset_of_mem_splitOn late opened
    simp at opens
    exact unopened (by simp [opens])

theorem readsAs_plain_iff (settled : Settled tables addr)
    (plain : Unbracketed name) (bare : Unbracketed addr) :
    ReadsAs tables (form name addr) addr ↔
      ',' ∉ addr.toList ∧ Text.trim (Text.lastPiece ',' name) ≠ "" := by
  have lastPair := firstPair_named (unbracketed_lastPiece plain) bare
  constructor
  · intro reads
    rcases reads.named with ⟨part, listed, shown, inner, first, named, -⟩
    have unlisted : ',' ∉ addr.toList :=
      fun comma => no_firstPair_of_comma plain bare comma listed first
    refine ⟨unlisted, ?_⟩
    rw [split_form unlisted, List.mem_append, List.mem_singleton] at listed
    rcases listed with early | last
    · have free := unbracketed_of_mem_split plain (List.dropLast_subset _ early)
      exact absurd first.opened free.1
    · rw [last] at first
      rw [(first.unique lastPair).1, trim_append_blank] at named
      exact named
  · rintro ⟨unlisted, named⟩
    have parts : Text.split ',' (form name addr) = _ := split_form unlisted
    have held : tables.toLowercase (Text.trim addr) = addr := by
      rw [settled.trimmed, settled.lowered]
    refine ⟨?_, ?_, ?_, ?_⟩
    · have whole := firstPair_named plain bare
      rw [← String.append_assoc, ← String.append_assoc] at whole
      exact ⟨name ++ " ", addr, whole, held⟩
    · intro part listed
      rw [parts, List.mem_append, List.mem_singleton] at listed
      rcases listed with early | last
      · exact closesFirst_of_unbracketed
          (unbracketed_of_mem_split plain (List.dropLast_subset _ early))
      · rw [last]
        exact lastPair.ordered
    · intro part listed shown inner first _ _
      rw [parts, List.mem_append, List.mem_singleton] at listed
      rcases listed with early | last
      · have free := unbracketed_of_mem_split plain (List.dropLast_subset _ early)
        exact absurd first.opened free.1
      · rw [last] at first
        rw [(first.unique lastPair).2, held]
    · refine ⟨_, ?_, _, _, lastPair, ?_, held⟩
      · rw [parts]
        exact List.mem_append_right _ (List.mem_singleton_self _)
      · rwa [trim_append_blank]

end Agreement

/-- The places come back from a text exactly when its brackets are in order, and
agree on a display form exactly when its address is settled. -/
theorem addressForms_exact (state : Api.SendState) :
    (∀ text, Returns state text ↔ InOrder text) ∧
    (∀ name addr, Agree state name addr ↔
      Settled state.env.tables addr ∧
        ReadsAs state.env.tables (form name addr) addr) ∧
    (∀ name addr, Unbracketed name → Unbracketed addr →
      (Agree state name addr ↔ Settled state.env.tables addr ∧
        ',' ∉ addr.toList ∧ Text.trim (Text.lastPiece ',' name) ≠ "")) := by
  refine ⟨fun text => returns_iff state, fun name addr => agree_iff, ?_⟩
  intro name addr plain bare
  rw [agree_iff]
  exact and_congr_right fun settled => readsAs_plain_iff settled plain bare

/-- A header with its brackets the wrong way round stops the delivery, and an
address in capitals is not the same everywhere. -/
theorem crossed_panics :
    Api.parseOne Api.plainSend "bob> <bob@x.org" = none ∧
      resolveSender (.object [("from", .string "bob> <bob@x.org")])
        "bob@x.org" = none ∧
      stripDisplay (form "Bob" "Bob@x.org") = some "Bob@x.org" ∧
      extractEmail Api.plainSend.env.tables (form "Bob" "Bob@x.org") =
        some "bob@x.org" ∧
      ¬ ((∀ text, Returns Api.plainSend text) ∧
        ∀ name addr, Agree Api.plainSend name addr) := by
  have panics : Api.parseOne Api.plainSend "bob> <bob@x.org" = none := by
    decide
  refine ⟨panics, by decide, by decide, by decide, ?_⟩
  intro claimed
  have returned := (claimed.1 "bob> <bob@x.org").send
  rw [panics] at returned
  cases returned

end AimailGateway.AddressForms
