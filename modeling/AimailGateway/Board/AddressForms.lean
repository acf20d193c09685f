import Mathlib.Data.List.Infix
import AimailGateway.Board.Runs
import AimailGateway.Library.Delimiters

/-! # Forms of a board address

One predicate looks for `.a2a@` in the lower-cased address, the parser splits
the address as it is spelled, and the tables are keyed by one spelling. This
compares them over the spellings of an address.
-/

namespace AimailGateway.Board

open Library

namespace AddressForms

/-- The local part without `.a2a`. -/
def bodyOf (localPart : String) : Option String :=
  if Text.endsWith ".a2a" localPart then
    some (String.ofList (localPart.toList.take (localPart.toList.length - 4)))
  else none

/-- `parse_board_email`: the short id, the board id and the domain. -/
def parsedBoard (settings : Settings) (addr : String) :
    Option (String × String × String) :=
  (Text.splitOnce '@' addr).bind fun parts =>
    (bodyOf parts.1).map fun body =>
      (Text.firstPiece '.' body, deriveBoardId settings addr, parts.2)

/-- `BoardRegistry::lookup`. -/
def lookup (settings : Settings) (boards : Boards) (addr : String) :
    Option (Option String) :=
  boards.registry (settings.env.tables.toLowercase addr)

/-- The answer of `is_board_member` on the rows of its table. -/
def isListed (rows : List (String × String)) (addr member : String) : Bool :=
  rows.contains (addr, member)

/-- The two layouts of a board address. -/
def addressOf (shortId : String) (system : Option String) (domain : String) :
    String :=
  shortId ++ system.elim "" ("." ++ ·) ++ ".a2a@" ++ domain

theorem boardAddress_eq (system orchEmail shortId : String) :
    Interceptor.boardAddress system orchEmail shortId =
      addressOf shortId
        (if Text.startsWith "shared-" system then
          some (Text.lastPiece '.' (Text.firstPiece '@' orchEmail)) else none)
        (((Text.split '@' orchEmail)[1]?).getD "") := by
  rw [Interceptor.boardAddress]
  split
  · simp [addressOf, String.append_assoc]
  · simp [addressOf]

/-- Two spellings of one address. -/
def SameLetters (first second : String) : Prop :=
  Text.toAsciiLowercase first = Text.toAsciiLowercase second

/-- What the predicates say of an address and its spellings. -/
structure Agree (settings : Settings) (boards : Boards)
    (rows : List (String × String)) (addr : String) : Prop where
  predicates : isBoardAddress addr = (parsedBoard settings addr).isSome
  parsed : ∀ spelling, SameLetters spelling addr →
    parsedBoard settings spelling = parsedBoard settings addr
  derived : ∀ spelling, SameLetters spelling addr →
    deriveBoardId settings spelling = deriveBoardId settings addr
  found : ∀ spelling, SameLetters spelling addr →
    lookup settings boards spelling = lookup settings boards addr
  listed : ∀ spelling member, SameLetters spelling addr →
    isListed rows spelling member = isListed rows addr member
  rebuilt : ∀ shortId boardId domain,
    parsedBoard settings addr = some (shortId, boardId, domain) →
      ∃ system, addressOf shortId system domain = addr ∧
        parsedBoard settings (addressOf shortId system domain) =
          some (shortId, boardId, domain)

/-- The address is in no letter case a board address, and a member listed under
one spelling of it is listed under every one. -/
structure Unboarded (rows : List (String × String)) (addr : String) : Prop where
  plain : isBoardAddress addr = false
  everySpelling : ∀ row ∈ rows, SameLetters row.1 addr →
    ∀ spelling, SameLetters spelling addr → (spelling, row.2) ∈ rows

/-! ## Parts of a parsed address -/

section Parts

variable {settings : Settings} {addr shortId boardId domain : String}

theorem body_of_bodyOf {localPart body : String}
    (found : bodyOf localPart = some body) :
    localPart.toList = body.toList ++ ".a2a".toList := by
  rw [bodyOf] at found
  split at found
  · next ends =>
      cases found
      rw [Text.endsWith, List.isSuffixOf_iff_suffix] at ends
      obtain ⟨start, whole⟩ := ends
      have size : localPart.toList.length - 4 = start.length := by
        rw [← whole, List.length_append]
        exact Nat.add_sub_cancel _ 4
      rw [String.toList_ofList, size, ← whole, List.take_left]
  · cases found

theorem body_parts (body : String) : ∃ system : Option String,
    body.toList = (Text.firstPiece '.' body).toList ++
      (system.elim "" ("." ++ ·)).toList := by
  have whole := List.takeWhile_append_dropWhile
    (p := fun character => character != '.') (l := body.toList)
  rw [Text.firstPiece, String.toList_ofList]
  cases rest : body.toList.dropWhile (· != '.') with
  | nil =>
      rw [rest] at whole
      exact ⟨none, whole.symm⟩
  | cons head tail =>
      have dot : head = '.' := by
        have fails := List.head_dropWhile_not (· != '.') (l := body.toList)
          (by rw [rest]; exact List.cons_ne_nil _ _)
        simpa [rest] using fails
      rw [rest, dot] at whole
      refine ⟨some (String.ofList tail), ?_⟩
      rw [Option.elim_some, String.toList_append, String.toList_ofList,
        String.toList_ofList]
      exact whole.symm

theorem parts_of_parsedBoard
    (parsed : parsedBoard settings addr = some (shortId, boardId, domain)) :
    ∃ system, addressOf shortId system domain = addr := by
  rw [parsedBoard, Option.bind_eq_some_iff] at parsed
  obtain ⟨⟨localPart, after⟩, cut, parsed⟩ := parsed
  rw [Option.map_eq_some_iff] at parsed
  obtain ⟨body, found, same⟩ := parsed
  cases same
  obtain ⟨system, parts⟩ := body_parts body
  refine ⟨system, ?_⟩
  apply String.toList_inj.mp
  rw [(Text.cut_of_splitOnce cut).1, body_of_bodyOf found, parts, addressOf]
  simp

theorem not_mem_firstPiece (separator : Char) (text : String) :
    separator ∉ (Text.firstPiece separator text).toList := by
  rw [Text.firstPiece, String.toList_ofList]
  intro member
  simpa using List.mem_takeWhile_imp member

theorem parsedBoard_addressOf (settings : Settings) {system : Option String}
    (domain : String) (noDot : '.' ∉ shortId.toList)
    (noAt : '@' ∉ shortId.toList)
    (systemNoAt : ∀ name ∈ system, '@' ∉ name.toList) :
    parsedBoard settings (addressOf shortId system domain) =
      some (shortId, deriveBoardId settings (addressOf shortId system domain),
        domain) := by
  generalize bodyText : shortId ++ system.elim "" ("." ++ ·) = body
  have bodyNoAt : '@' ∉ (body ++ ".a2a").toList := by
    rw [← bodyText]
    cases system with
    | none => simpa using noAt
    | some name =>
        have named := systemNoAt name rfl
        simpa using ⟨noAt, named⟩
  have cut : (addressOf shortId system domain).toList =
      (body ++ ".a2a").toList ++ '@' :: domain.toList := by
    rw [addressOf, bodyText]
    simp
  have found : bodyOf (body ++ ".a2a") = some body := by
    have ends : Text.endsWith ".a2a" (body ++ ".a2a") = true := by
      rw [Text.endsWith, List.isSuffixOf_iff_suffix, String.toList_append]
      exact List.suffix_append _ _
    rw [bodyOf, if_pos ends]
    simp
  have first : Text.firstPiece '.' body = shortId := by
    rw [← bodyText]
    cases system with
    | none =>
        rw [Option.elim_none, String.append_empty]
        exact Text.firstPiece_of_not_contains
          (Text.containsChar_eq_false_iff.mpr noDot)
    | some name =>
        have parts : (shortId ++ (some name).elim "" ("." ++ ·)).toList =
            shortId.toList ++ '.' :: name.toList := by
          simp
        rw [Text.firstPiece_cut parts noDot, String.ofList_toList]
  rw [parsedBoard, Text.splitOnce_cut cut bodyNoAt, Option.bind_some,
    String.ofList_toList, String.ofList_toList, found, Option.map_some, first]

end Parts

/-! ## Spellings -/

section Spellings

variable {settings : Settings} {addr : String}

theorem toLower_toUpper (character : Char) :
    character.toUpper.toLower = character.toLower := by
  delta Char.toUpper
  split
  · next small =>
      apply Char.ext
      delta Char.toLower
      split
      · split
        · grind
        · have back : 'A'.val - 'a'.val + ('a'.val - 'A'.val) = 0 := by decide
          have sum := UInt32.add_assoc character.val ('A'.val - 'a'.val)
            ('a'.val - 'A'.val)
          simp only [back, UInt32.add_zero] at sum
          exact sum
      · grind
  · rfl

theorem toUpper_ne_small (character : Char) : character.toUpper ≠ 'a' := by
  delta Char.toUpper
  split
  · intro same
    have values := congrArg Char.val same
    grind
  · next other =>
      intro same
      rw [same] at other
      exact other (by decide)

def upperSpelling (addr : String) : String :=
  String.ofList (addr.toList.map Char.toUpper)

theorem upperSpelling_same (addr : String) :
    SameLetters (upperSpelling addr) addr := by
  rw [SameLetters, Text.toAsciiLowercase, Text.toAsciiLowercase, upperSpelling,
    String.toList_ofList, List.map_map]
  congr 2
  funext character
  exact toLower_toUpper character

theorem parsedBoard_upper (settings : Settings) (addr : String) :
    parsedBoard settings (upperSpelling addr) = none := by
  cases parsed : parsedBoard settings (upperSpelling addr) with
  | none => rfl
  | some result =>
      obtain ⟨shortId, boardId, domain⟩ := result
      obtain ⟨system, whole⟩ := parts_of_parsedBoard parsed
      have small : 'a' ∈ (upperSpelling addr).toList := by
        rw [← whole, addressOf]
        simp
      rw [upperSpelling, String.toList_ofList, List.mem_map] at small
      obtain ⟨character, -, same⟩ := small
      exact absurd same (toUpper_ne_small character)

theorem isBoardAddress_iff_marked :
    isBoardAddress addr = true ↔
      ".a2a@".toList <:+: addr.toList.map Char.toLower := by
  rw [isBoardAddress, Text.containsText, List.any_eq_true, Text.toAsciiLowercase,
    String.toList_ofList]
  constructor
  · rintro ⟨suffix, member, starts⟩
    exact (List.isPrefixOf_iff_prefix.mp starts).isInfix.trans
      ((List.mem_tails _ _).mp member).isInfix
  · intro inside
    obtain ⟨suffix, starts, ends⟩ := List.infix_iff_prefix_suffix.mp inside
    exact ⟨suffix, (List.mem_tails _ _).mpr ends,
      List.isPrefixOf_iff_prefix.mpr starts⟩

theorem isBoardAddress_of_parsedBoard
    (parsed : (parsedBoard settings addr).isSome = true) :
    isBoardAddress addr = true := by
  obtain ⟨⟨shortId, boardId, domain⟩, found⟩ := Option.isSome_iff_exists.mp parsed
  obtain ⟨system, rfl⟩ := parts_of_parsedBoard found
  rw [isBoardAddress_iff_marked, addressOf, String.toList_append, List.map_append,
    String.toList_append, List.map_append]
  exact ⟨_, _, rfl⟩

theorem isBoardAddress_of_same {spelling : String}
    (same : SameLetters spelling addr) :
    isBoardAddress spelling = isBoardAddress addr := by
  rw [isBoardAddress, same, ← isBoardAddress]

end Spellings

/-! ## Agreement -/

section Agreement

variable {settings : Settings} {boards : Boards}
  {rows : List (String × String)} {addr : String}

theorem Agree.plain (agree : Agree settings boards rows addr) :
    isBoardAddress addr = false := by
  have unread := agree.parsed _ (upperSpelling_same addr)
  rw [parsedBoard_upper] at unread
  rw [agree.predicates, ← unread]
  rfl

theorem Agree.everySpelling (agree : Agree settings boards rows addr) :
    ∀ row ∈ rows, SameLetters row.1 addr →
      ∀ spelling, SameLetters spelling addr → (spelling, row.2) ∈ rows := by
  intro row member same spelling other
  have kept := agree.listed row.1 row.2 same
  have wanted := agree.listed spelling row.2 other
  rw [← kept] at wanted
  rw [isListed, isListed, List.contains_iff_mem.mpr member] at wanted
  exact List.contains_iff_mem.mp wanted

theorem parsedBoard_of_plain (plain : isBoardAddress addr = false) :
    parsedBoard settings addr = none := by
  cases parsed : parsedBoard settings addr with
  | none => rfl
  | some result =>
      have some : (parsedBoard settings addr).isSome = true := by
        rw [parsed]
        rfl
      rw [isBoardAddress_of_parsedBoard some] at plain
      cases plain

theorem Unboarded.agree (unboarded : Unboarded rows addr)
    (folds : ∀ text, settings.env.tables.toLowercase (Text.toAsciiLowercase text) =
      settings.env.tables.toLowercase text) :
    Agree settings boards rows addr := by
  have none : parsedBoard settings addr = none :=
    parsedBoard_of_plain unboarded.plain
  have lower : ∀ spelling, SameLetters spelling addr →
      settings.env.tables.toLowercase spelling =
        settings.env.tables.toLowercase addr := by
    intro spelling same
    rw [← folds spelling, same, folds]
  constructor
  · rw [none, unboarded.plain]
    rfl
  · intro spelling same
    have plain := unboarded.plain
    rw [← isBoardAddress_of_same same] at plain
    rw [none, parsedBoard_of_plain plain]
  · intro spelling same
    rw [deriveBoardId, lower spelling same, ← deriveBoardId]
  · intro spelling same
    rw [lookup, lower spelling same, ← lookup]
  · intro spelling member same
    rw [isListed, isListed, Bool.eq_iff_iff, List.contains_iff_mem,
      List.contains_iff_mem]
    constructor
    · intro inside
      exact unboarded.everySpelling _ inside same addr rfl
    · intro inside
      exact unboarded.everySpelling _ inside rfl spelling same
  · intro shortId boardId domain parsed
    rw [none] at parsed
    cases parsed

end Agreement

end AddressForms

open Board.AddressForms in
/-- The predicates agree exactly on what is no board address in any spelling;
the parts of an address are always read back. -/
theorem boardAddresses_exact (settings : Settings) (boards : Boards)
    (folds : ∀ text, settings.env.tables.toLowercase (Text.toAsciiLowercase text) =
      settings.env.tables.toLowercase text) :
    (∀ rows addr, Agree settings boards rows addr ↔ Unboarded rows addr) ∧
    ∀ system orchEmail shortId, '.' ∉ shortId.toList → '@' ∉ shortId.toList →
      parsedBoard settings
          (Interceptor.boardAddress system orchEmail shortId) =
        some (shortId, deriveBoardId settings
            (Interceptor.boardAddress system orchEmail shortId),
          ((Text.split '@' orchEmail)[1]?).getD "") := by
  constructor
  · intro rows addr
    exact ⟨fun agree => ⟨agree.plain, agree.everySpelling⟩,
      fun unboarded => unboarded.agree folds⟩
  · intro system orchEmail shortId noDot noAt
    rw [boardAddress_eq]
    apply parsedBoard_addressOf settings _ noDot noAt
    intro name member
    generalize Text.startsWith "shared-" system = shared at member
    cases shared with
    | false => cases member
    | true =>
        rw [if_pos rfl, Option.mem_some_iff] at member
        rw [← member, Text.lastPiece, String.toList_ofList]
        intro inside
        exact not_mem_firstPiece '@' orchEmail
          ((List.rtakeWhile_suffix _ _).subset inside)

namespace AddressForms

open Trial

theorem toLower_toLower (character : Char) :
    character.toLower.toLower = character.toLower := by
  delta Char.toLower
  split
  · split
    · grind
    · rfl
  · rfl

theorem ascii_folds (text : String) :
    Text.asciiTables.toLowercase (Text.toAsciiLowercase text) =
      Text.asciiTables.toLowercase text := by
  simp only [Text.asciiTables, Text.toAsciiLowercase, String.toList_ofList,
    List.map_map]
  congr 2
  funext character
  exact toLower_toLower character

def noBoards : Boards := ⟨fun _ => none, fun _ => none⟩

theorem boardAddresses_exact_ascii :
    (∀ rows addr, Agree (configured []) noBoards rows addr ↔
      Unboarded rows addr) ∧
    ∀ system orchEmail shortId, '.' ∉ shortId.toList → '@' ∉ shortId.toList →
      parsedBoard (configured [])
          (Interceptor.boardAddress system orchEmail shortId) =
        some (shortId, deriveBoardId (configured [])
            (Interceptor.boardAddress system orchEmail shortId),
          ((Text.split '@' orchEmail)[1]?).getD "") :=
  boardAddresses_exact (configured []) noBoards ascii_folds

/-- An address that is taken for a board and not parsed. -/
theorem upper_board_unparsed :
    isBoardAddress "b1.A2A@x.org" = true ∧
      parsedBoard (configured []) "b1.A2A@x.org" = none ∧
      ¬ ∀ rows addr, Agree (configured []) noBoards rows addr := by
  refine ⟨by decide +kernel, by decide +kernel, fun agree => ?_⟩
  have plain := (agree [] "b1.A2A@x.org").plain
  revert plain
  decide +kernel

end AddressForms

end AimailGateway.Board
