import AimailGateway.Library.Delimiters
import AimailGateway.Webhook.ManagerCommands

/-! # The approval of a persona

The lines of an approval are read one by one, with the section they belong to
carried along. This says which lines of the body the stored texts are made of.
-/

namespace AimailGateway.Webhook

open Library

namespace PersonaApproval

/-! ## The command block -/

inductive Field where
  | persona
  | signature
  deriving DecidableEq, Repr

namespace Field

def keyword : Field → String
  | persona => "persona:"
  | signature => "signature:"

def part : Field → Section
  | persona => .persona
  | signature => .signature

def value (approval : Approval) : Field → String
  | persona => approval.persona
  | signature => approval.signature

end Field

def isHeader (line : String) : Bool :=
  Text.startsWith "persona:" line || Text.startsWith "signature:" line

def trimmedLines (body : String) : List String :=
  (Text.lines body).map Text.trim

/-- The lines from the first header to the terminator after it. -/
def commandBlock (tables : CaseTables) (lines : List String) : List String :=
  match lines.dropWhile fun line => !isHeader line with
  | [] => []
  | header :: rest => header :: rest.takeWhile fun line =>
      !payloadTerminator tables line

/-- The lines after a header that belong to it. -/
def continuation (more : List String) : List String :=
  (more.takeWhile fun line => !isHeader line).filter fun line =>
    !isPlaceholderLine line

/-- The lines that are captured for a field: of its last header, what follows
the keyword, and the continuation. -/
inductive Captured (field : Field) (block : List String) : List String → Prop where
  | nothing (absent : ∀ line ∈ block,
      Text.afterStart field.keyword line = none) : Captured field block []
  | lines (before more : List String) (header rest : String)
      (parts : block = before ++ header :: more)
      (opens : Text.afterStart field.keyword header = some rest)
      (last : ∀ line ∈ more, Text.afterStart field.keyword line = none) :
      Captured field block (Text.trim rest :: continuation more)

/-- The lines as one text; an empty first line is no line. -/
def joined (lines : List String) : String :=
  lines.foldl pushCapture ""

/-- A header or a placeholder is no content. -/
def isContent (line : String) : Bool :=
  !isPlaceholderLine line && !isHeader line

/-- A terminator follows the first header. -/
def Terminated (tables : CaseTables) (body : String) : Prop :=
  ∃ before terminator after,
    trimmedLines body = before ++ terminator :: after ∧
      before.any isHeader = true ∧ payloadTerminator tables terminator = true

/-- The stored texts are the whole of their sections, without anything else. -/
structure Delimited (tables : CaseTables) (body : String) : Prop where
  /-- What is appended after a terminator does not matter. -/
  ends : Terminated tables body → ∀ appended,
    parsePersonaApproval tables (body ++ "\n" ++ appended) =
      parsePersonaApproval tables body
  /-- The texts are the captured lines, in their order. -/
  whole : ∀ persona signature,
    Captured .persona (commandBlock tables (trimmedLines body)) persona →
    Captured .signature (commandBlock tables (trimmedLines body)) signature →
      parsePersonaApproval tables body =
        if joined persona = "" ∧ joined signature = "" then none
        else some (joined persona, joined signature)
  /-- No captured line is a header or a placeholder. -/
  content : ∀ field lines,
    Captured field (commandBlock tables (trimmedLines body)) lines →
      ∀ line ∈ lines, isContent line = true

/-- No text beside the last keyword of a field is itself a header or a
placeholder. -/
def HeadsContent (tables : CaseTables) (body : String) : Prop :=
  ∀ field before more header rest,
    commandBlock tables (trimmedLines body) = before ++ header :: more →
    Text.afterStart (Field.keyword field) header = some rest →
    (∀ line ∈ more, Text.afterStart (Field.keyword field) line = none) →
      isContent (Text.trim rest) = true

/-! ## One line -/

section Line

variable {tables : CaseTables} {approval : Approval} {line rest : String}
  {field : Field}

theorem startsWith_iff {start text : String} :
    Text.startsWith start text = true ↔ (Text.afterStart start text).isSome := by
  rw [Text.afterStart]
  split
  · next starts => exact iff_of_true starts rfl
  · next other => exact iff_of_false other (by rintro ⟨⟩)

theorem isHeader_eq_false_iff :
    isHeader line = false ↔ Text.afterStart "persona:" line = none ∧
      Text.afterStart "signature:" line = none := by
  rw [isHeader, Bool.or_eq_false_iff, ← Bool.not_eq_true, ← Bool.not_eq_true,
    startsWith_iff, startsWith_iff, Bool.not_eq_true, Bool.not_eq_true,
    Option.isSome_eq_false_iff, Option.isSome_eq_false_iff,
    Option.isNone_iff_eq_none, Option.isNone_iff_eq_none]

theorem unsigned_of_persona (opens : Text.afterStart "persona:" line = some rest) :
    Text.afterStart "signature:" line = none := by
  rw [Text.afterStart] at opens ⊢
  split at opens
  · next begins =>
      rw [if_neg]
      intro both
      rw [Text.startsWith, List.isPrefixOf_iff_prefix] at begins both
      obtain ⟨first, same⟩ := begins
      obtain ⟨second, other⟩ := both
      rw [← same] at other
      have heads := congrArg List.head? other
      cases heads
  · cases opens

theorem capture_opens (opens : Text.afterStart field.keyword line = some rest) :
    (approval.capture line).part = field.part ∧
      field.value (approval.capture line) = Text.trim rest := by
  cases field with
  | persona =>
      rw [Field.keyword] at opens
      rw [Approval.capture, opens]
      exact ⟨rfl, rfl⟩
  | signature =>
      rw [Field.keyword] at opens
      have unnamed : Text.afterStart "persona:" line = none := by
        cases named : Text.afterStart "persona:" line with
        | none => rfl
        | some other =>
            rw [unsigned_of_persona named] at opens
            cases opens
      rw [Approval.capture, unnamed, opens]
      exact ⟨rfl, rfl⟩

theorem capture_other (closed : approval.part ≠ field.part)
    (other : Text.afterStart field.keyword line = none) :
    field.value (approval.capture line) = field.value approval := by
  cases field with
  | persona =>
      rw [Field.keyword] at other
      rw [Approval.capture, other]
      split
      · next impossible => cases impossible
      · rfl
      · split
        · rfl
        · split
          · rfl
          · next part => exact absurd part closed
          · rfl
  | signature =>
      rw [Field.keyword] at other
      rw [Approval.capture, other]
      split
      · rfl
      · next impossible => cases impossible
      · split
        · rfl
        · split
          · rfl
          · rfl
          · next part => exact absurd part closed

theorem capture_closed (closed : approval.part ≠ field.part)
    (other : Text.afterStart field.keyword line = none) :
    (approval.capture line).part ≠ field.part := by
  rw [Approval.capture]
  split
  · next opens =>
      cases field with
      | persona =>
          rw [Field.keyword, opens] at other
          cases other
      | signature => rintro ⟨⟩
  · next opens =>
      cases field with
      | persona => rintro ⟨⟩
      | signature =>
          rw [Field.keyword, opens] at other
          cases other
  · split
    · exact closed
    · split
      · exact closed
      · exact closed
      · exact closed

theorem capture_header_other (header : isHeader line = true)
    (other : Text.afterStart field.keyword line = none) :
    (approval.capture line).part ≠ field.part ∧
      field.value (approval.capture line) = field.value approval := by
  rw [isHeader, Bool.or_eq_true, startsWith_iff, startsWith_iff,
    Option.isSome_iff_exists, Option.isSome_iff_exists] at header
  cases field with
  | persona =>
      rw [Field.keyword] at other
      rcases header with ⟨rest, opens⟩ | ⟨rest, opens⟩
      · rw [other] at opens
        cases opens
      · rw [Approval.capture, other, opens]
        exact ⟨by rintro ⟨⟩, rfl⟩
  | signature =>
      rw [Field.keyword] at other
      rcases header with ⟨rest, opens⟩ | ⟨rest, opens⟩
      · rw [Approval.capture, opens]
        exact ⟨by rintro ⟨⟩, rfl⟩
      · rw [other] at opens
        cases opens

theorem capture_continues (opened : approval.part = field.part)
    (plain : isHeader line = false) (filled : line ≠ "") :
    (approval.capture line).part = field.part ∧
      field.value (approval.capture line) =
        if isPlaceholderLine line then field.value approval
        else pushCapture (field.value approval) line := by
  obtain ⟨persona, signature⟩ := isHeader_eq_false_iff.mp plain
  rw [Approval.capture, persona, signature]
  cases placeholder : isPlaceholderLine line with
  | true => simp [opened]
  | false =>
      have blank : (line == "") = false := beq_false_of_ne filled
      simp only [blank, Bool.or_self, if_neg Bool.false_ne_true]
      rw [opened]
      cases field with
      | persona => exact ⟨rfl, rfl⟩
      | signature => exact ⟨rfl, rfl⟩

end Line

/-! ## The loop -/

section Loop

variable {tables : CaseTables} {approval : Approval} {field : Field}

theorem capture_opened (line : String) (opened : approval.part ≠ .preamble) :
    (approval.capture line).part ≠ .preamble := by
  rw [Approval.capture]
  split
  · rintro ⟨⟩
  · rintro ⟨⟩
  · split
    · exact opened
    · split
      · next part => exact absurd part opened
      · exact opened
      · exact opened

theorem captureLines_opened (lines : List String)
    (opened : approval.part ≠ .preamble) :
    captureLines tables lines approval =
      ((lines.map Text.trim).takeWhile fun line =>
        !payloadTerminator tables line).foldl Approval.capture approval := by
  induction lines generalizing approval with
  | nil => rfl
  | cons line rest induction =>
      have inside : (approval.part != .preamble) = true := bne_iff_ne.mpr opened
      rw [captureLines, inside, Bool.true_and, List.map_cons]
      cases stops : payloadTerminator tables (Text.trim line) with
      | true =>
          rw [List.takeWhile_cons_of_neg (by simp [stops])]
          rfl
      | false =>
          rw [List.takeWhile_cons_of_pos (by simp [stops]), List.foldl_cons,
            if_neg Bool.false_ne_true]
          exact induction (capture_opened _ opened)

def noApproval : Approval := ⟨.preamble, "", ""⟩

theorem capture_preamble {line : String} (plain : isHeader line = false) :
    noApproval.capture line = noApproval := by
  obtain ⟨persona, signature⟩ := isHeader_eq_false_iff.mp plain
  rw [Approval.capture, persona, signature]
  simp [noApproval]

theorem capture_header {line : String} (header : isHeader line = true) :
    (noApproval.capture line).part ≠ .preamble := by
  rw [isHeader, Bool.or_eq_true, startsWith_iff, startsWith_iff,
    Option.isSome_iff_exists, Option.isSome_iff_exists] at header
  rcases header with ⟨rest, opens⟩ | ⟨rest, opens⟩
  · have opened : Text.afterStart Field.persona.keyword line = some rest := opens
    have part : (noApproval.capture line).part = Field.persona.part :=
      (capture_opens opened).1
    rw [part]
    rintro ⟨⟩
  · have opened : Text.afterStart Field.signature.keyword line = some rest := opens
    have part : (noApproval.capture line).part = Field.signature.part :=
      (capture_opens opened).1
    rw [part]
    rintro ⟨⟩

theorem captureLines_block (lines : List String) :
    captureLines tables lines noApproval =
      (commandBlock tables (lines.map Text.trim)).foldl Approval.capture
        noApproval := by
  induction lines with
  | nil => rfl
  | cons line rest induction =>
      rw [captureLines, commandBlock, List.map_cons]
      have outside : (noApproval.part != .preamble) = false := rfl
      rw [outside, Bool.false_and, if_neg Bool.false_ne_true]
      cases header : isHeader (Text.trim line) with
      | false =>
          rw [capture_preamble header, List.dropWhile_cons_of_pos (by simp [header])]
          exact induction
      | true =>
          rw [List.dropWhile_cons_of_neg (by simp [header]),
            captureLines_opened rest (capture_header header), List.foldl_cons]

theorem parsePersonaApproval_eq (tables : CaseTables) (body : String) :
    parsePersonaApproval tables body =
      let approval := (commandBlock tables (trimmedLines body)).foldl
        Approval.capture noApproval
      if approval.persona = "" ∧ approval.signature = "" then none
      else some (approval.persona, approval.signature) := by
  rw [parsePersonaApproval]
  have loop : captureLines tables (Text.lines body) noApproval =
      (commandBlock tables ((Text.lines body).map Text.trim)).foldl
        Approval.capture noApproval :=
    captureLines_block (Text.lines body)
  rw [noApproval] at loop
  rw [loop, trimmedLines, noApproval]
  simp only [Bool.and_eq_true, beq_iff_eq]

/-! ## The value of a field -/

theorem value_unopened (lines : List String) (closed : approval.part ≠ field.part)
    (absent : ∀ line ∈ lines, Text.afterStart field.keyword line = none) :
    field.value (lines.foldl Approval.capture approval) = field.value approval := by
  induction lines generalizing approval with
  | nil => rfl
  | cons line rest induction =>
      have none := absent line List.mem_cons_self
      have kept : field.value (approval.capture line) = field.value approval :=
        capture_other closed none
      have still := capture_closed closed none
      rw [List.foldl_cons, induction still fun other member =>
        absent other (List.mem_cons_of_mem _ member), kept]

theorem value_opened (lines : List String) (opened : approval.part = field.part)
    (filled : ∀ line ∈ lines, line ≠ "")
    (last : ∀ line ∈ lines, Text.afterStart field.keyword line = none) :
    field.value (lines.foldl Approval.capture approval) =
      (continuation lines).foldl pushCapture (field.value approval) := by
  induction lines generalizing approval with
  | nil => rfl
  | cons line rest induction =>
      have others := fun other member => last other (List.mem_cons_of_mem line member)
      rw [List.foldl_cons, continuation]
      cases header : isHeader line with
      | true =>
          have passed : (approval.capture line).part ≠ field.part ∧
              field.value (approval.capture line) = field.value approval :=
            capture_header_other header (last line List.mem_cons_self)
          obtain ⟨closed, kept⟩ := passed
          rw [value_unopened rest closed others, kept,
            List.takeWhile_cons_of_neg (by simp [header])]
          rfl
      | false =>
          have step := capture_continues opened header
            (filled line List.mem_cons_self)
          rw [induction step.1 (fun other member =>
            filled other (List.mem_cons_of_mem _ member)) others, step.2,
            List.takeWhile_cons_of_pos (by simp [header]), continuation]
          cases placeholder : isPlaceholderLine line with
          | true => rw [List.filter_cons_of_neg (by simp [placeholder]), if_pos rfl]
          | false =>
              rw [List.filter_cons_of_pos (by simp [placeholder]),
                if_neg Bool.false_ne_true, List.foldl_cons]

end Loop

/-! ## The captured lines -/

section Block

variable {tables : CaseTables} {field : Field} {lines block : List String}

theorem filled_of_commandBlock {line : String}
    (inside : line ∈ commandBlock tables lines) : line ≠ "" := by
  rw [commandBlock] at inside
  cases started : lines.dropWhile fun line => !isHeader line with
  | nil =>
      rw [started] at inside
      cases inside
  | cons header rest =>
      rw [started] at inside
      have opens : isHeader header = true := by
        have fails := List.head_dropWhile_not (fun line => !isHeader line)
          (l := lines) (by rw [started]; exact List.cons_ne_nil _ _)
        simpa [started] using fails
      rintro rfl
      rcases List.mem_cons.mp inside with same | later
      · rw [← same] at opens
        cases opens
      · have passes := List.mem_takeWhile_imp later
        simp [payloadTerminator] at passes

theorem exists_captured (field : Field) (block : List String) :
    ∃ captured, Captured field block captured := by
  induction block with
  | nil => exact ⟨[], .nothing (by rintro _ ⟨⟩)⟩
  | cons line rest induction =>
      obtain ⟨captured, found⟩ := induction
      cases found with
      | lines before more header after parts opens last =>
          exact ⟨_, .lines (line :: before) more header after
            (by rw [parts, List.cons_append]) opens last⟩
      | nothing absent =>
          cases opens : Text.afterStart field.keyword line with
          | none =>
              refine ⟨[], .nothing fun other member => ?_⟩
              rcases List.mem_cons.mp member with rfl | later
              · exact opens
              · exact absent other later
          | some after =>
              exact ⟨_, .lines [] rest line after rfl opens absent⟩

theorem value_captured {captured : List String}
    (filled : ∀ line ∈ block, line ≠ "") (found : Captured field block captured) :
    field.value (block.foldl Approval.capture noApproval) = joined captured := by
  cases found with
  | nothing absent =>
      have closed : noApproval.part ≠ field.part := by
        cases field <;> rintro ⟨⟩
      rw [value_unopened block closed absent]
      cases field <;> rfl
  | lines before more header rest parts opens last =>
      rw [parts] at filled
      rw [parts, List.foldl_append, List.foldl_cons]
      generalize before.foldl Approval.capture noApproval = earlier
      have opened : (earlier.capture header).part = field.part ∧
          field.value (earlier.capture header) = Text.trim rest :=
        capture_opens opens
      obtain ⟨part, value⟩ := opened
      rw [value_opened more part (fun line member => filled line
        (List.mem_append_right _ (List.mem_cons_of_mem _ member))) last, value,
        joined, List.foldl_cons]
      rfl

theorem content_of_continuation {more : List String} {line : String}
    (inside : line ∈ continuation more) : isContent line = true := by
  obtain ⟨taken, kept⟩ := List.mem_filter.mp inside
  have plain := List.mem_takeWhile_imp taken
  rw [isContent, kept, plain]
  rfl

theorem commandBlock_terminated {before after other : List String}
    {terminator : String} (opened : before.any isHeader = true)
    (stops : payloadTerminator tables terminator = true) :
    commandBlock tables (before ++ terminator :: after) =
      commandBlock tables (before ++ terminator :: other) := by
  have shape : ∀ rest, commandBlock tables (before ++ terminator :: rest) =
      match before.dropWhile fun line => !isHeader line with
      | [] => []
      | header :: more => header :: more.takeWhile fun line =>
          !payloadTerminator tables line := by
    intro rest
    have some : before.dropWhile (fun line => !isHeader line) ≠ [] := by
      rw [Ne, List.dropWhile_eq_nil_iff]
      intro none
      obtain ⟨header, member, opens⟩ := List.any_eq_true.mp opened
      simpa [opens] using none header member
    rw [commandBlock, List.dropWhile_append, if_neg (by simpa using some)]
    cases started : before.dropWhile fun line => !isHeader line with
    | nil => exact absurd started some
    | cons header more =>
        simp only [List.cons_append, List.takeWhile_append]
        split
        · next all =>
            rw [List.takeWhile_cons_of_neg (by simp [stops]), List.append_nil]
            exact congrArg _ ((List.takeWhile_prefix _).eq_of_length all).symm
        · rfl
  rw [shape, shape]

end Block

/-! ## Appended text -/

section Appended

theorem trimmedLines_prefix (body appended : String) :
    trimmedLines body <+: trimmedLines (body ++ "\n" ++ appended) := by
  have pieces : (body ++ "\n" ++ appended).toList.splitOn '\n' =
      body.toList.splitOn '\n' ++ appended.toList.splitOn '\n' := by
    rw [String.toList_append, String.toList_append, List.append_assoc]
    exact List.splitOn_append_cons_self body.toList appended.toList
  have more : appended.toList.splitOn '\n' ≠ [] := List.splitOn_ne_nil _ _
  have there : body.toList.splitOn '\n' ≠ [] := List.splitOn_ne_nil _ _
  have trims : ∀ lines : List (List Char),
      ((lines.map Text.withoutReturn).map String.ofList).map Text.trim =
        (lines.map String.ofList).map Text.trim := by
    intro lines
    rw [List.map_map, List.map_map, List.map_map]
    apply List.map_congr_left
    intro line _
    exact HeaderBlock.trim_withoutReturn line
  rw [trimmedLines, trimmedLines, Text.lines, Text.lines, pieces,
    List.dropLast_append_of_ne_nil more]
  simp only [List.map_append, trims, List.append_assoc]
  obtain ⟨start, last, whole⟩ := List.eq_nil_or_concat _ |>.resolve_left there
  rw [whole, List.concat_eq_append, List.dropLast_concat, List.getLast?_concat, List.map_append,
    List.map_append, List.append_assoc]
  apply (List.prefix_append_right_inj _).mpr
  by_cases empty : last = []
  · rw [empty]
    exact List.nil_prefix
  · have kept : (some last).filter (· != []) = some last :=
      Option.filter_eq_some_iff.mpr ⟨rfl, bne_iff_ne.mpr empty⟩
    rw [kept]
    exact List.prefix_append _ _

end Appended

/-! ## Delimitation -/

section Exact

variable {tables : CaseTables} {body : String}

theorem parse_appended (terminated : Terminated tables body)
    (appended : String) :
    parsePersonaApproval tables (body ++ "\n" ++ appended) =
      parsePersonaApproval tables body := by
  obtain ⟨before, terminator, after, parts, opened, stops⟩ := terminated
  obtain ⟨more, longer⟩ := trimmedLines_prefix body appended
  have blocks : commandBlock tables (trimmedLines (body ++ "\n" ++ appended)) =
      commandBlock tables (trimmedLines body) := by
    rw [← longer, parts, List.append_assoc, List.cons_append]
    exact commandBlock_terminated opened stops
  rw [parsePersonaApproval_eq, parsePersonaApproval_eq, blocks]

theorem parse_captured {persona signature : List String}
    (first : Captured .persona (commandBlock tables (trimmedLines body)) persona)
    (second : Captured .signature (commandBlock tables (trimmedLines body))
      signature) :
    parsePersonaApproval tables body =
      if joined persona = "" ∧ joined signature = "" then none
      else some (joined persona, joined signature) := by
  have filled : ∀ line ∈ commandBlock tables (trimmedLines body), line ≠ "" :=
    fun line inside => filled_of_commandBlock inside
  have personaText : ((commandBlock tables (trimmedLines body)).foldl
      Approval.capture noApproval).persona = joined persona :=
    value_captured filled first
  have signatureText : ((commandBlock tables (trimmedLines body)).foldl
      Approval.capture noApproval).signature = joined signature :=
    value_captured filled second
  rw [parsePersonaApproval_eq]
  simp only [personaText, signatureText]

theorem delimited_iff : Delimited tables body ↔ HeadsContent tables body := by
  constructor
  · intro delimited field before more header rest parts opens last
    exact delimited.content field _ (.lines before more header rest parts opens
      last) _ List.mem_cons_self
  · intro heads
    refine ⟨parse_appended, fun _ _ => parse_captured, ?_⟩
    intro field lines captured line inside
    cases captured with
    | nothing absent => cases inside
    | lines before more header rest parts opens last =>
        rcases List.mem_cons.mp inside with rfl | continued
        · exact heads field before more header rest parts opens last
        · exact content_of_continuation continued

end Exact

end PersonaApproval

open PersonaApproval in
/-- Each field of an approval has captured lines, and the stored texts are
delimited exactly when nothing beside a keyword is a placeholder or header. -/
theorem personaApproval_exact (tables : CaseTables) (body : String) :
    (Delimited tables body ↔ HeadsContent tables body) ∧
      ∀ field, ∃ lines,
        Captured field (commandBlock tables (trimmedLines body)) lines :=
  ⟨delimited_iff, fun field => exists_captured field _⟩

namespace PersonaApproval

/-- The placeholder beside the keyword is stored. -/
theorem placeholder_stored :
    parsePersonaApproval Text.asciiTables
        "persona: <your persona>\nsignature: Ann" =
      some ("<your persona>", "Ann") ∧
    isPlaceholderLine "<your persona>" = true ∧
    ¬ ∀ body, Delimited Text.asciiTables body := by
  refine ⟨by decide +kernel, by decide +kernel, fun delimited => ?_⟩
  have block : commandBlock Text.asciiTables
      (trimmedLines "persona: <your persona>\nsignature: Ann") =
        [] ++ "persona: <your persona>" :: ["signature: Ann"] := by
    decide +kernel
  have content := (delimited "persona: <your persona>\nsignature: Ann").content
    .persona _ (.lines [] ["signature: Ann"] "persona: <your persona>"
      " <your persona>" block (by decide +kernel) (by decide +kernel)) _
    List.mem_cons_self
  revert content
  decide +kernel

end PersonaApproval

end AimailGateway.Webhook
