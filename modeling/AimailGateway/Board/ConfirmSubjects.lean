import AimailGateway.Board.Interceptor

/-! # Subjects of confirmations

The prompts ask for `[Confirm] output` with the board, the owners' guide for a
plan or criteria with a version, and a legacy form names the board first. This
compares what is read of a subject with these forms.
-/

namespace AimailGateway.Board

open Library

namespace Interceptor

/-! ## Documented forms -/

def isKindWord (token : String) : Bool :=
  (ConfirmType.parse? token).isSome

/-- `v{N}`. -/
def isVersion (token : String) : Bool :=
  match Text.afterStart "v" token with
  | some number => number != "" && number.toList.all Char.isDigit
  | none => false

/-- The board, the kind and a version. -/
def threeSegments (tokens : List String) :
    Option (ConfirmType × Option String × Option String) :=
  match tokens with
  | board :: word :: version :: _ =>
      if isVersion version then
        (ConfirmType.parse? word).map fun kind => (kind, some version, some board)
      else none
  | _ => none

/-- The kind and its version, or an output and its board. -/
def twoSegments (tokens : List String) :
    Option (ConfirmType × Option String × Option String) :=
  match tokens with
  | word :: after :: _ =>
      (ConfirmType.parse? word).bind fun kind =>
        if kind = .output ∨ isVersion after = true then some (kind, some after, none)
        else none
  | _ => none

def documentedForm (tokens : List String) :
    Option (ConfirmType × Option String × Option String) :=
  (threeSegments tokens).or (twoSegments tokens)

/-- What follows the word `confirm`, written with or without brackets. -/
def afterConfirm (subject : String) : Option String :=
  (Text.afterStart "[confirm]" subject).or (Text.afterStart "confirm" subject)

def isSeparated (rest : String) : Bool :=
  match rest.toList with
  | [] => false
  | next :: _ => Text.isWhitespace next

def tokensOf (rest : String) : List String :=
  Text.words (Text.trim rest)

/-- A subject in lower case read by the documented forms. -/
def documentedConfirm (subject : String) :
    Option (ConfirmType × Option String × Option String) :=
  (afterConfirm (Text.trim subject)).bind fun rest =>
    if isSeparated rest then documentedForm (tokensOf rest) else none

/-! ## Forms that are read -/

/-- The tokens are read as documented: there is no kind among them, or they are
one of the forms and the board is not itself a kind. -/
inductive Told (tokens : List String) : Prop where
  | nothing (unkind : ∀ token ∈ tokens, isKindWord token = false)
  | output (board : String) (rest : List String)
      (form : tokens = "output" :: board :: rest)
      (single : threeSegments tokens = none)
  | versioned (word version : String) (rest : List String)
      (form : tokens = word :: version :: rest) (kind : isKindWord word = true)
      (numbered : isVersion version = true)
      (single : threeSegments tokens = none)
  | legacy (board word version : String) (rest : List String)
      (form : tokens = board :: word :: version :: rest)
      (other : isKindWord board = false) (kind : isKindWord word = true)
      (numbered : isVersion version = true)

/-- A subject in lower case is not bracketed, unless it is in none of the forms,
and its tokens are read as documented. -/
structure Told.Subject (subject : String) : Prop where
  bracketed : ∀ rest, Text.afterStart "[confirm]" (Text.trim subject) = some rest →
    isSeparated rest = true → documentedForm (tokensOf rest) = none
  separated : ∀ rest, Text.afterStart "confirm" (Text.trim subject) = some rest →
    isSeparated rest = true → Told (tokensOf rest)
  glued : ∀ rest, Text.afterStart "confirm" (Text.trim subject) = some rest →
    isSeparated rest = false → ∀ token ∈ tokensOf rest, isKindWord token = false

/-! ## What is read of the tokens -/

/-- `parse_confirm` from the tokens on. -/
def readTokens (tokens : List String) :
    Option (ConfirmType × Option String × Option String) := do
  let typeIdx ← tokens.findIdx? isKindWord
  let kind ← (tokens[typeIdx]?).bind ConfirmType.parse?
  return (kind, tokens[typeIdx + 1]?,
    if typeIdx = 1 then tokens.head? else none)

theorem parseConfirm_eq (subject : String) :
    parseConfirm subject =
      (Text.afterStart "confirm" (Text.trim subject)).bind fun rest =>
        readTokens (tokensOf rest) :=
  rfl

theorem readTokens_eq_none_iff (tokens : List String) :
    readTokens tokens = none ↔ ∀ token ∈ tokens, isKindWord token = false := by
  rw [← List.findIdx?_eq_none_iff]
  rw [readTokens]
  cases found : tokens.findIdx? isKindWord with
  | none => exact iff_of_true rfl rfl
  | some index =>
      obtain ⟨bound, kind, -⟩ := List.findIdx?_eq_some_iff_getElem.mp found
      obtain ⟨type, parsed⟩ := Option.isSome_iff_exists.mp kind
      simp [bound, parsed]

theorem readTokens_first {word : String} (rest : List String)
    {kind : ConfirmType} (parsed : ConfirmType.parse? word = some kind) :
    readTokens (word :: rest) = some (kind, rest.head?, none) := by
  have known : isKindWord word = true := by rw [isKindWord, parsed]; rfl
  rw [readTokens, List.findIdx?_cons, if_pos known]
  simp [parsed, List.head?_eq_getElem?]

theorem readTokens_second {board word : String} (rest : List String)
    {kind : ConfirmType} (other : isKindWord board = false)
    (parsed : ConfirmType.parse? word = some kind) :
    readTokens (board :: word :: rest) =
      some (kind, rest.head?, some board) := by
  have known : isKindWord word = true := by rw [isKindWord, parsed]; rfl
  rw [readTokens, List.findIdx?_cons, other, List.findIdx?_cons, if_pos known]
  simp [parsed, List.head?_eq_getElem?]

/-! ## What the documented forms are -/

theorem isKindWord_eq_false_iff {token : String} :
    isKindWord token = false ↔ ConfirmType.parse? token = none := by
  rw [isKindWord, Option.isSome_eq_false_iff, Option.isNone_iff_eq_none]

theorem parse?_eq_output_iff {token : String} :
    ConfirmType.parse? token = some .output ↔ token = "output" := by
  constructor
  · intro parsed
    rw [ConfirmType.parse?] at parsed
    split at parsed
    · cases parsed
    · split at parsed
      · cases parsed
      · split at parsed
        · next same => exact same
        · cases parsed
  · rintro rfl
    rfl

variable {tokens : List String}

theorem board_of_threeSegments
    {form : ConfirmType × Option String × Option String}
    (three : threeSegments tokens = some form) : form.2.2.isSome = true := by
  unfold threeSegments at three
  split at three
  · split at three
    · rw [Option.map_eq_some_iff] at three
      obtain ⟨kind, -, rfl⟩ := three
      rfl
    · cases three
  · cases three

theorem threeSegments_of_unkind {board word : String} (rest : List String)
    (unkind : ConfirmType.parse? word = none) :
    threeSegments (board :: word :: rest) = none := by
  cases rest with
  | nil => rfl
  | cons version rest => simp [threeSegments, unkind]

theorem twoSegments_of_unkind {word : String} (rest : List String)
    (unkind : ConfirmType.parse? word = none) :
    twoSegments (word :: rest) = none := by
  cases rest with
  | nil => rfl
  | cons after rest => simp [twoSegments, unkind]

theorem told_of_agreement
    (agree : readTokens tokens = documentedForm tokens) : Told tokens := by
  match tokens with
  | [] => exact .nothing nofun
  | [word] => exact .nothing ((readTokens_eq_none_iff [word]).mp agree)
  | word :: after :: rest =>
      cases first : ConfirmType.parse? word with
      | some kind =>
          rw [readTokens_first _ first, documentedForm] at agree
          cases three : threeSegments (word :: after :: rest) with
          | some form =>
              rw [three, Option.some_or] at agree
              cases agree
              cases board_of_threeSegments three
          | none =>
              rw [three, Option.none_or] at agree
              simp only [twoSegments, first, Option.bind_some] at agree
              split at agree
              · next allowed =>
                  rcases allowed with output | numbered
                  · rw [output, parse?_eq_output_iff] at first
                    exact .output after rest (by rw [first]) three
                  · exact .versioned word after rest rfl
                      (by rw [isKindWord, first]; rfl) numbered three
              · cases agree
      | none =>
          have unkind := isKindWord_eq_false_iff.mpr first
          rw [documentedForm, twoSegments_of_unkind _ first, Option.or_none]
            at agree
          cases second : ConfirmType.parse? after with
          | some kind =>
              rw [readTokens_second _ unkind second] at agree
              match rest with
              | [] => cases agree
              | version :: rest =>
                  simp only [threeSegments] at agree
                  split at agree
                  · next numbered =>
                      exact .legacy word after version rest rfl unkind
                        (by rw [isKindWord, second]; rfl) numbered
                  · cases agree
          | none =>
              rw [threeSegments_of_unkind _ second] at agree
              exact .nothing ((readTokens_eq_none_iff _).mp agree)

theorem Told.agreement (told : Told tokens) :
    readTokens tokens = documentedForm tokens := by
  cases told with
  | nothing unkind =>
      rw [(readTokens_eq_none_iff tokens).mpr unkind]
      match tokens with
      | [] => rfl
      | [word] => rfl
      | word :: after :: rest =>
          have first := isKindWord_eq_false_iff.mp
            (unkind word List.mem_cons_self)
          have second := isKindWord_eq_false_iff.mp
            (unkind after (List.mem_cons_of_mem _ List.mem_cons_self))
          rw [documentedForm, twoSegments_of_unkind _ first,
            threeSegments_of_unkind _ second]
          rfl
  | output board rest form single =>
      rw [form] at single
      rw [form, documentedForm, single]
      have parsed : ConfirmType.parse? "output" = some .output := rfl
      rw [readTokens_first _ parsed]
      rfl
  | versioned word version rest form kind numbered single =>
      obtain ⟨type, parsed⟩ := Option.isSome_iff_exists.mp kind
      rw [form] at single
      rw [form, documentedForm, single, readTokens_first _ parsed]
      simp [twoSegments, parsed, numbered]
  | legacy board word version rest form other kind numbered =>
      obtain ⟨type, parsed⟩ := Option.isSome_iff_exists.mp kind
      rw [form, readTokens_second _ other parsed, documentedForm]
      simp [threeSegments, parsed, numbered]

/-! ## Subjects -/

variable {subject rest : String}

theorem unread_of_bracketed
    (bracketed : Text.afterStart "[confirm]" subject = some rest) :
    Text.afterStart "confirm" subject = none := by
  rw [Text.afterStart] at bracketed ⊢
  split at bracketed
  · next begins =>
      rw [if_neg]
      intro both
      rw [Text.startsWith, List.isPrefixOf_iff_prefix] at begins both
      obtain ⟨first, same⟩ := begins
      obtain ⟨second, other⟩ := both
      rw [← same] at other
      have heads := congrArg List.head? other
      cases heads
  · cases bracketed

theorem bracketed_told_iff
    (bracketed : Text.afterStart "[confirm]" (Text.trim subject) = some rest) :
    Told.Subject subject ↔
      (isSeparated rest = true → documentedForm (tokensOf rest) = none) := by
  have unread := unread_of_bracketed bracketed
  constructor
  · intro told
    exact told.bracketed rest bracketed
  · intro outside
    constructor
    · intro other same
      rw [bracketed, Option.some_inj] at same
      rw [← same]
      exact outside
    · intro other same
      rw [unread] at same
      cases same
    · intro other same
      rw [unread] at same
      cases same

theorem bare_told_iff
    (bare : Text.afterStart "[confirm]" (Text.trim subject) = none)
    (plain : Text.afterStart "confirm" (Text.trim subject) = some rest) :
    Told.Subject subject ↔
      (isSeparated rest = true → Told (tokensOf rest)) ∧
      (isSeparated rest = false →
        ∀ token ∈ tokensOf rest, isKindWord token = false) := by
  constructor
  · intro told
    exact ⟨told.separated rest plain, told.glued rest plain⟩
  · rintro ⟨separated, glued⟩
    constructor
    · intro other same
      rw [bare] at same
      cases same
    · intro other same
      rw [plain, Option.some_inj] at same
      rw [← same]
      exact separated
    · intro other same
      rw [plain, Option.some_inj] at same
      rw [← same]
      exact glued

theorem parseConfirm_documented_iff (subject : String) :
    parseConfirm subject = documentedConfirm subject ↔
      Told.Subject subject := by
  rw [parseConfirm_eq, documentedConfirm, afterConfirm]
  cases bracketed : Text.afterStart "[confirm]" (Text.trim subject) with
  | some rest =>
      rw [unread_of_bracketed bracketed, Option.some_or, Option.bind_none,
        Option.bind_some, bracketed_told_iff bracketed]
      cases separate : isSeparated rest with
      | true =>
          rw [if_pos rfl]
          exact ⟨fun agree _ => agree.symm, fun outside => (outside rfl).symm⟩
      | false =>
          rw [if_neg Bool.false_ne_true]
          exact iff_of_true rfl fun impossible =>
            absurd impossible Bool.false_ne_true
  | none =>
      rw [Option.none_or]
      cases plain : Text.afterStart "confirm" (Text.trim subject) with
      | none =>
          rw [Option.bind_none, Option.bind_none]
          refine iff_of_true rfl ⟨?_, ?_, ?_⟩
          · intro rest same
            rw [bracketed] at same
            cases same
          · intro rest same
            rw [plain] at same
            cases same
          · intro rest same
            rw [plain] at same
            cases same
      | some rest =>
          rw [Option.bind_some, Option.bind_some, bare_told_iff bracketed plain]
          cases separate : isSeparated rest with
          | true =>
              rw [if_pos rfl]
              exact ⟨fun agree => ⟨fun _ => told_of_agreement agree,
                  fun impossible => absurd impossible.symm Bool.false_ne_true⟩,
                fun told => (told.1 rfl).agreement⟩
          | false =>
              rw [if_neg Bool.false_ne_true, readTokens_eq_none_iff]
              exact ⟨fun unkind => ⟨fun impossible =>
                  absurd impossible Bool.false_ne_true, fun _ => unkind⟩,
                fun told => told.2 rfl⟩

/-- Every subject is read as documented exactly when it is told, and none that
the prompts ask for is. -/
theorem confirmSubjects_exact (tables : CaseTables) (subject : String) :
    (parseConfirm (tables.toLowercase subject) =
        documentedConfirm (tables.toLowercase subject) ↔
      Told.Subject (tables.toLowercase subject)) ∧
    ∀ rest, Text.afterStart "[confirm]"
        (Text.trim (tables.toLowercase subject)) = some rest →
      isSeparated rest = true →
      (documentedForm (tokensOf rest)).isSome = true →
      parseConfirm (tables.toLowercase subject) = none ∧
        ¬ Told.Subject (tables.toLowercase subject) := by
  refine ⟨parseConfirm_documented_iff _, ?_⟩
  intro rest bracketed separate form
  constructor
  · rw [parseConfirm_eq, unread_of_bracketed bracketed, Option.bind_none]
  · intro told
    rw [told.bracketed rest bracketed separate] at form
    cases form

theorem prompted_output_unread :
    documentedConfirm (Text.asciiTables.toLowercase
        "[Confirm] output web-redesign — Accepted") =
      some (.output, some "web-redesign", none) ∧
    parseConfirm (Text.asciiTables.toLowercase
      "[Confirm] output web-redesign — Accepted") = none ∧
    ¬ ∀ subject, parseConfirm (Text.asciiTables.toLowercase subject) =
      documentedConfirm (Text.asciiTables.toLowercase subject) := by
  have asked : documentedConfirm (Text.asciiTables.toLowercase
        "[Confirm] output web-redesign — Accepted") =
      some (.output, some "web-redesign", none) := by
    decide +kernel
  have unread : parseConfirm (Text.asciiTables.toLowercase
      "[Confirm] output web-redesign — Accepted") = none := by
    decide +kernel
  refine ⟨asked, unread, fun agree => ?_⟩
  have same := agree "[Confirm] output web-redesign — Accepted"
  rw [asked, unread] at same
  cases same

end Interceptor

end AimailGateway.Board
