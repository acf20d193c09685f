import AimailGateway.Email.MarkdownPages

/-! # Lines of Markdown

The patterns for headings, list items and rules look at a whole text, so such a
line is converted where it is all there is of a body.
-/

namespace AimailGateway.Email

open Library Matches

namespace Markdown

variable {tags : List String} {linked quoted : Bool} {mode last : Mode}
  {text rest : List Char} {mark : Char} {spellings : List (List Char)}

/-! ## Characters that stay -/

theorem Respelt.mem {out : List Char} (respelt : Respelt mark spellings text out)
    {character : Char} (apart : character ≠ mark) (member : character ∈ text) :
    character ∈ out := by
  induction respelt with
  | done => exact member
  | keep head _ induction =>
      rcases List.mem_cons.mp member with here | later
      · rw [here]
        exact List.mem_cons_self
      · exact List.mem_cons_of_mem head (induction later)
  | spell spelling _ _ induction =>
      have later := (List.mem_cons.mp member).resolve_left apart
      exact List.mem_append_right spelling (induction later)

theorem Linked.mem {out : List Char} (linking : Linked quoted text out)
    (member : '\n' ∈ text) : '\n' ∈ out := by
  induction linking with
  | done => exact member
  | keep head _ induction =>
      rcases List.mem_cons.mp member with here | later
      · rw [here]
        exact List.mem_cons_self
      · exact List.mem_cons_of_mem head (induction later)
  | link link _ induction =>
      rw [link.whole] at member
      rw [anchor_append]
      simp only [List.mem_append, List.mem_cons, List.append_assoc,
        List.cons_append] at member ⊢
      rcases member with never | inside | never | never | within | never | later
      · exact absurd never (by decide)
      · exact .inr (.inr (.inr (.inl inside)))
      · exact absurd never (by decide)
      · exact absurd never (by decide)
      · exact .inr (.inl within)
      · exact absurd never (by decide)
      · exact .inr (.inr (.inr (.inr (.inr (induction later)))))

/-! ## Bodies of several lines -/

theorem lineAs_several {marker opening closing : String}
    (several : '\n' ∈ text) (plain : '\n' ∉ marker.toList) :
    lineAs marker opening closing text = text := by
  have none : wholeLine marker.toList text = none := by
    cases found : wholeLine marker.toList text with
    | none => rfl
    | some rest =>
        rcases wholeLine_spec found with ⟨same, _, line⟩
        rw [same] at several
        exact absurd several (fun member =>
          (List.mem_append.mp member).elim plain line)
  rw [lineAs, none]

theorem headings_several (several : '\n' ∈ text) : headings text = text := by
  rw [headings]
  simp only [lineAs_several several (show '\n' ∉ "###### ".toList by decide),
    lineAs_several several (show '\n' ∉ "##### ".toList by decide),
    lineAs_several several (show '\n' ∉ "#### ".toList by decide),
    lineAs_several several (show '\n' ∉ "### ".toList by decide),
    lineAs_several several (show '\n' ∉ "## ".toList by decide),
    lineAs_several several (show '\n' ∉ "# ".toList by decide)]

theorem escaped_several {markdown : String} (several : '\n' ∈ markdown.toList) :
    '\n' ∈ (Entities.markdownToHtmlEscape markdown).toList := by
  rw [Entities.escaped_toList]
  exact List.mem_flatMap.mpr ⟨'\n', several, by decide⟩

theorem emphasis_several (several : '\n' ∈ text) : '\n' ∈ emphasis text := by
  have pass {text : List Char} {stars opening closing : String} (count : Nat)
      (same : stars.toList = List.replicate (count + 1) '*') (several : '\n' ∈ text) :
      '\n' ∈ emphasised stars opening closing text :=
    (emphasised_respelt count same text).mem (by decide) several
  rw [emphasis]
  exact pass 0 rfl (pass 1 rfl (pass 2 rfl several))

theorem inlineBody_several {markdown : String} (several : '\n' ∈ markdown.toList) :
    '\n' ∈ inlineBody markdown := by
  have escaped := escaped_several several
  have emphasised : '\n' ∈ emphasisedBody markdown := by
    rw [emphasisedBody, headings_several escaped]
    exact emphasis_several escaped
  exact (codes_respelt _).mem (by decide) ((links_linked _).mem emphasised)

def severalTags : List String := inlineTags ++ paragraphTags

theorem several_page : ∀ tag ∈ severalTags, tag ∈ pageTags := by
  decide

theorem run_several {markdown : String} (several : '\n' ∈ markdown.toList) :
    ∃ quoted, Run severalTags true quoted .text (markdownToHtml markdown).toList
      .text := by
  have formed : Formed inlineTags := formed_pageTags.sublist (by decide)
  have plain := escaped_plain markdown
  have start : Run inlineTags false false .text
      (Entities.markdownToHtmlEscape markdown).toList .text :=
    run_plain plain.1 plain.2
  have emphasised : Run inlineTags false false .text (emphasisedBody markdown)
      .text := by
    rw [emphasisedBody, headings_several (escaped_several several)]
    exact start.emphasis (by decide) fun _ listed => listed
  have inline : Run inlineTags true (quotesTarget (emphasisedBody markdown)) .text
      (inlineBody markdown) .text :=
    Run.codes (by decide) (fun _ listed => listed)
      (emphasised.links formed (by decide)
        (List.all_iff_forall_prop.mp (by decide)) (links_linked _))
  have several' := inlineBody_several several
  have listless : Listless inlineTags :=
    fun tag listed => listless_early tag (inline_early tag listed)
  have blocks : blockBody markdown = inlineBody markdown := by
    have items : listItems (inlineBody markdown) = inlineBody markdown := by
      rw [listItems, lineAs_several several' (by decide),
        lineAs_several several' (by decide)]
    rw [blockBody, items, inline.lists_idle listless, rule, if_neg]
    intro dashes
    exact absurd (List.all_eq_true.mp dashes.2 '\n' several') (by decide)
  refine ⟨quotesTarget (emphasisedBody markdown), run_finish (formed_pageTags.sublist several_page)
    (fun _ listed => List.mem_append_right _ listed) (by decide) ?_⟩
  rw [blocks]
  exact inline.mono (fun _ listed => List.mem_append_left _ listed) fun _ => rfl

/-- A heading, a list or a rule begins. -/
def hasBlock : List Char → Bool
  | [] => false
  | head :: rest =>
      (head == '<' && (rest.head? == some 'h' || rest.head? == some 'u')) ||
        hasBlock rest

theorem hasBlock_kept {kept : List Char} (plain : '<' ∉ kept) :
    hasBlock (kept ++ rest) = hasBlock rest := by
  induction kept with
  | nil => rfl
  | cons head tail induction =>
      rw [List.mem_cons, not_or] at plain
      rw [List.cons_append, hasBlock, beq_false_of_ne fun same => plain.1 same.symm,
        Bool.false_and, Bool.false_or, induction plain.2]

theorem hasBlock_token {second : Char} {inner : List Char}
    (plain : '<' ∉ second :: inner) (apart : second ≠ 'h' ∧ second ≠ 'u') :
    hasBlock ('<' :: second :: inner ++ rest) = hasBlock rest := by
  have later : hasBlock (second :: inner ++ rest) = hasBlock rest :=
    hasBlock_kept plain
  rw [List.cons_append, hasBlock, later]
  simp [apart]

/-- Tags that begin no block. -/
def Blockless (tags : List String) : Prop :=
  ∀ tag ∈ tags, ∃ second inner, tag.toList = '<' :: second :: inner ∧
    '<' ∉ second :: inner ∧ second ≠ 'h' ∧ second ≠ 'u'

theorem blockless_several : Blockless severalTags := by
  have each : ∀ tag ∈ severalTags, tag.toList[0]? = some '<' ∧
      3 ≤ tag.toList.length ∧ '<' ∉ tag.toList.drop 1 ∧
      tag.toList[1]? ≠ some 'h' ∧ tag.toList[1]? ≠ some 'u' := by decide
  intro tag listed
  rcases each tag listed with ⟨opens, long, plain, noHeading, noList⟩
  rcases three_of_length long with ⟨first, second, third, inner, written⟩
  rw [written] at opens plain noHeading noList
  refine ⟨second, third :: inner, ?_, plain, fun same => noHeading (congrArg some same),
    fun same => noList (congrArg some same)⟩
  rw [written, Option.some.inj opens]

theorem Run.blockless (blockless : Blockless tags)
    (run : Run tags linked quoted mode text last) : hasBlock text = false := by
  induction run with
  | done => rfl
  | text head plain _ induction =>
      rw [hasBlock, beq_false_of_ne plain.1, induction]
      rfl
  | target head plain _ induction =>
      rw [hasBlock, beq_false_of_ne plain.1, induction]
      rfl
  | tag tag listed _ induction =>
      rcases blockless tag listed with ⟨second, inner, written, plain, apart⟩
      rw [written, hasBlock_token plain apart, induction]
  | opens _ _ induction =>
      have shape : linkStart = '<' :: 'a' :: " href=\"".toList := rfl
      rw [shape, hasBlock_token (by decide) (by decide), induction]
  | closes _ induction =>
      rw [hasBlock_kept (by decide), induction]

theorem hasBlock_within {before after : List Char} {second : Char}
    (block : second = 'h' ∨ second = 'u') :
    hasBlock (before ++ '<' :: second :: after) = true := by
  induction before with
  | nil =>
      rcases block with same | same <;> rw [same] <;> rfl
  | cons head tail induction =>
      rw [List.cons_append, hasBlock, induction, Bool.or_true]

/-! ## Blocks that are a whole body -/

/-- The text begins with the tag of a heading, a list or a rule. -/
def StartsBlock (text : List Char) : Prop :=
  ∃ second rest, text = '<' :: second :: rest ∧ (second = 'h' ∨ second = 'u')

theorem not_starts {second : Char} (block : second = 'h' ∨ second = 'u')
    {marker : Char} (apart : marker ∉ ['h', 'u']) : second ≠ marker := by
  rintro rfl
  exact apart (by simpa using block)

theorem StartsBlock.replaceAll {β : Type} {found : List Char → Option (β × Nat)}
    {render : β → List Char} (starts : StartsBlock text)
    (first : ∀ second rest, second = 'h' ∨ second = 'u' →
      found ('<' :: second :: rest) = none)
    (next : ∀ second rest, second = 'h' ∨ second = 'u' →
      found (second :: rest) = none) :
    StartsBlock (replaceAll found render text) := by
  rcases starts with ⟨second, rest, same, block⟩
  refine ⟨second, Matches.replaceAll found render rest, ?_, block⟩
  rw [same, replaceAll_none (first second rest block),
    replaceAll_none (next second rest block)]

theorem marked_other {head : Char} {mark rest : List Char} (apart : head ≠ '*') :
    marked ('*' :: mark) (head :: rest) = none := by
  rw [marked, if_neg]
  intro starts
  rcases List.isPrefixOf_iff_prefix.mp starts with ⟨after, same⟩
  exact apart (List.cons.inj same).1.symm

theorem codeAt_other {head : Char} (apart : head ≠ '\x60') :
    codeAt (head :: rest) = none := by
  simp [codeAt, apart]

theorem StartsBlock.inline (starts : StartsBlock text) :
    StartsBlock (codes (links (emphasis text))) := by
  have emphasised {text : List Char} (stars opening closing : String)
      (mark : List Char) (same : stars.toList = '*' :: mark)
      (starts : StartsBlock text) :
      StartsBlock (emphasised stars opening closing text) := by
    rw [Markdown.emphasised, same]
    exact starts.replaceAll (fun _ _ _ => marked_other (by decide))
      fun _ _ block => marked_other (not_starts block (by decide))
  have emphasis : StartsBlock (emphasis text) :=
    emphasised "*" _ _ [] rfl (emphasised "**" _ _ ['*'] rfl
      (emphasised "***" _ _ ['*', '*'] rfl starts))
  have links : StartsBlock (links (Markdown.emphasis text)) :=
    emphasis.replaceAll (fun _ _ _ => linkAt_other (by decide))
      fun _ _ block => linkAt_other (not_starts block (by decide))
  exact links.replaceAll (fun _ _ _ => codeAt_other (by decide))
    fun _ _ block => codeAt_other (not_starts block (by decide))

theorem lineAs_other {marker opening closing : String} {first : Char}
    {mark : List Char} {head : Char} (same : marker.toList = first :: mark)
    (apart : head ≠ first) :
    lineAs marker opening closing (head :: rest) = head :: rest := by
  have none : wholeLine marker.toList (head :: rest) = none := by
    cases found : wholeLine marker.toList (head :: rest) with
    | none => rfl
    | some after =>
        have whole := (wholeLine_spec found).1
        rw [same] at whole
        exact absurd (List.cons.inj whole).1 apart
  rw [lineAs, none]

theorem StartsBlock.lineAs {marker opening closing : String} {first : Char}
    {mark : List Char} (starts : StartsBlock text)
    (same : marker.toList = first :: mark) (apart : '<' ≠ first) :
    lineAs marker opening closing text = text := by
  rcases starts with ⟨second, rest, whole, _⟩
  rw [whole]
  exact lineAs_other same apart

theorem StartsBlock.lists (starts : StartsBlock text) :
    StartsBlock (rule (lists (listItems text))) := by
  have items : listItems text = text := by
    rw [listItems, starts.lineAs (show "- ".toList = '-' :: [' '] from rfl)
      (by decide), starts.lineAs (show "* ".toList = '*' :: [' '] from rfl)
      (by decide)]
  have listed : StartsBlock (Markdown.lists text) := by
    refine starts.replaceAll (fun second rest block => itemsAt_apart ?_)
      fun second rest block => itemsAt_apart
        (head_apart (not_starts block (by decide)))
    rintro ⟨after, same⟩
    exact not_starts block (by decide)
      (List.cons.inj (List.cons.inj same).2).1.symm
  rw [items]
  rcases listed with ⟨second, rest, whole, block⟩
  refine ⟨second, rest, ?_, block⟩
  rw [whole, rule, if_neg]
  exact fun dashes => absurd (List.all_eq_true.mp dashes.2 '<' List.mem_cons_self)
    (by decide)

theorem withoutReturn_start (head : Char) (rest : List Char) {second : Char}
    (inside : second ≠ '\r') :
    ∃ others, Text.withoutReturn (head :: second :: rest) = head :: second :: others := by
  rw [Text.withoutReturn]
  split
  · next returned =>
      cases rest with
      | nil =>
          simp only [List.getLast?_cons_cons, List.getLast?_singleton,
            beq_iff_eq, Option.some.injEq] at returned
          exact absurd returned inside
      | cons third others =>
          exact ⟨(third :: others).dropLast, rfl⟩
  · exact ⟨rest, rfl⟩

theorem trim_start (rest : List Char) {second : Char}
    (inside : Text.isWhitespace second = false) :
    ∃ others, (Text.trim (String.ofList ('<' :: second :: rest))).toList =
      '<' :: second :: others := by
  rw [Text.trim, String.toList_ofList, String.toList_ofList]
  have front : ('<' :: second :: rest).dropWhile Text.isWhitespace =
      '<' :: second :: rest := by
    rw [List.dropWhile_cons, if_neg (by decide)]
  rw [front]
  induction rest using List.reverseRecOn with
  | nil =>
      have whole : '<' :: second :: [] = ['<'] ++ [second] := rfl
      refine ⟨[], ?_⟩
      rw [whole, List.rdropWhile_concat_neg _ _ _ (by simp [inside])]
  | append_singleton start final induction =>
      have whole : '<' :: second :: (start ++ [final]) =
          ('<' :: second :: start) ++ [final] := rfl
      by_cases blank : Text.isWhitespace final = true
      · have front' : ('<' :: second :: start).dropWhile Text.isWhitespace =
            '<' :: second :: start := by
          rw [List.dropWhile_cons, if_neg (by decide)]
        rw [whole, List.rdropWhile_concat_pos _ _ _ blank]
        exact induction front'
      · rw [whole, List.rdropWhile_concat_neg _ _ _ blank]
        exact ⟨start ++ [final], rfl⟩

theorem paragraph_start {second : Char} {rest : List Char}
    (inside : Text.isWhitespace second = false) :
    (paragraph (String.ofList ('<' :: second :: rest))).toList =
      '<' :: second :: rest := by
  rcases trim_start rest inside with ⟨others, same⟩
  have starts : Text.startsWith "<" (Text.trim (String.ofList
      ('<' :: second :: rest))) = true := by
    rw [Text.startsWith, same]
    rfl
  have present : Text.trim (String.ofList ('<' :: second :: rest)) ≠ "" := by
    intro empty
    rw [empty] at same
    cases same
  simp only [paragraph]
  rw [if_neg present, if_pos starts, String.toList_ofList]

theorem StartsBlock.finish {markdown : String}
    (starts : StartsBlock (blockBody markdown)) :
    StartsBlock (markdownToHtml markdown).toList := by
  rcases starts with ⟨second, rest, whole, block⟩
  have unblank : Text.isWhitespace second = false := by
    rcases block with same | same <;> rw [same] <;> decide
  have unreturned : second ≠ '\r' := not_starts block (by decide)
  have unbroken : second ≠ '\n' := not_starts block (by decide)
  have lines : ∃ others, (paragraphs (String.ofList (blockBody markdown))).toList =
      '<' :: second :: others := by
    rw [paragraphs_toList, String.toList_ofList, whole]
    have split : ∃ first others, ('<' :: second :: rest).splitOn '\n' =
        ('<' :: second :: first) :: others := by
      cases pieces : rest.splitOn '\n' with
      | nil => exact absurd pieces (List.splitOn_ne_nil _ _)
      | cons first others =>
          refine ⟨first, others, ?_⟩
          rw [List.splitOn_cons_eq_if_modifyHead, if_neg (by decide),
            List.splitOn_cons_eq_if_modifyHead, if_neg (by simpa using unbroken),
            pieces]
          rfl
    rcases split with ⟨first, others, pieces⟩
    rw [pieces, joined]
    cases others with
    | nil =>
        rw [linesOf, if_neg (List.cons_ne_nil _ _), List.map_singleton,
          List.intercalate_singleton, paragraph_start unblank]
        exact ⟨first, rfl⟩
    | cons next more =>
        rcases withoutReturn_start '<' first unreturned with
          ⟨kept, bare⟩
        rw [linesOf, bare, List.map_cons, paragraph_start unblank]
        cases lines : linesOf (next :: more) with
        | nil =>
            rw [List.map_nil, List.intercalate_singleton]
            exact ⟨kept, rfl⟩
        | cons line later =>
            rw [List.map_cons, List.intercalate_cons_cons]
            exact ⟨_, rfl⟩
  rcases lines with ⟨others, same⟩
  have single {head : Char} {rest : List Char} (apart : head ≠ '\n') :
      newlinesAt (head :: rest) = none := by
    simp [newlinesAt, apart]
  have collapsed : collapse ('<' :: second :: others) =
      '<' :: second :: collapse others := by
    rw [collapse, replaceAll_none (single (by decide)),
      replaceAll_none (single unbroken)]
    rfl
  rw [markdownToHtml_eq, same, collapsed]
  rcases trim_start (collapse others) unblank with ⟨left, trimmed⟩
  exact ⟨second, left, trimmed, block⟩

/-! ## The lines that are blocks -/

def headingMarkers : List String :=
  ["###### ", "##### ", "#### ", "### ", "## ", "# "]

/-- A star begins an item if it is not taken for emphasis: the passes for strong
text leave no other one. -/
def strong (text : List Char) : List Char :=
  emphasised "**" "<strong>" "</strong>"
    (emphasised "***" "<strong><em>" "</em></strong>" text)

/-- A heading, a list item or a rule. -/
def isBlockLine (line : String) : Bool :=
  let text := (Entities.markdownToHtmlEscape line).toList
  headingMarkers.any (fun marker => (wholeLine marker.toList text).isSome) ||
    (wholeLine "- ".toList text).isSome ||
    (wholeLine "* ".toList text).any (fun rest => !(strong rest).contains '*') ||
    (decide (3 ≤ text.length) && text.all (· == '-'))

theorem wholeLine_marker {marker : List Char} (present : rest ≠ []) (line : '\n' ∉ rest) :
    wholeLine marker (marker ++ rest) = some rest := by
  have starts : marker.isPrefixOf (marker ++ rest) = true :=
    List.isPrefixOf_iff_prefix.mpr (List.prefix_append marker rest)
  simp [wholeLine, starts, present, line]

theorem headings_step (marker opening closing : String) {others : List String}
    {second : Char} {inner : List Char} (hash : marker.toList.head? = some '#')
    (opens : opening.toList = '<' :: second :: inner) (block : second = 'h')
    (some : StartsBlock text ∨ ∃ other ∈ marker :: others,
      (wholeLine other.toList text).isSome = true) :
    StartsBlock (lineAs marker opening closing text) ∨ ∃ other ∈ others,
      (wholeLine other.toList (lineAs marker opening closing text)).isSome = true := by
  rcases List.head?_eq_some_iff.mp hash with ⟨hashes, same⟩
  rcases some with starts | ⟨other, listed, found⟩
  · rw [starts.lineAs same (by decide)]
    exact .inl starts
  · cases here : wholeLine marker.toList text with
    | some rest =>
        refine .inl ⟨second, inner ++ rest ++ closing.toList, ?_, .inl block⟩
        rw [lineAs, here]
        simp only [wrap, opens, List.cons_append]
    | none =>
        have kept : lineAs marker opening closing text = text := by
          rw [lineAs, here]
        rcases List.mem_cons.mp listed with first | later
        · rw [first, here] at found
          cases found
        · rw [kept]
          exact .inr ⟨other, later, found⟩

theorem headings_block (found : ∃ marker ∈ headingMarkers,
    (wholeLine marker.toList text).isSome = true) : StartsBlock (headings text) := by
  have sixth := headings_step "###### " "<h6>" "</h6>" rfl rfl rfl (.inr found)
  have fifth := headings_step "##### " "<h5>" "</h5>" rfl rfl rfl sixth
  have fourth := headings_step "#### " "<h4>" "</h4>" rfl rfl rfl fifth
  have third := headings_step "### " "<h3>" "</h3>" rfl rfl rfl fourth
  have second := headings_step "## " "<h2>" "</h2>" rfl rfl rfl third
  have first := headings_step "# " "<h1>" "</h1>" rfl rfl rfl second
  rcases first with starts | ⟨other, listed, _⟩
  · exact starts
  · exact absurd listed List.not_mem_nil

theorem headings_other {head : Char} (apart : head ≠ '#') :
    headings (head :: rest) = head :: rest := by
  simp only [headings, lineAs_other (show "###### ".toList = '#' :: "##### ".toList
    from rfl) apart, lineAs_other (show "##### ".toList = '#' :: "#### ".toList
    from rfl) apart, lineAs_other (show "#### ".toList = '#' :: "### ".toList
    from rfl) apart, lineAs_other (show "### ".toList = '#' :: "## ".toList
    from rfl) apart, lineAs_other (show "## ".toList = '#' :: "# ".toList
    from rfl) apart, lineAs_other (show "# ".toList = '#' :: " ".toList
    from rfl) apart]

/-! ## What stays of a line -/

theorem replaceAll_present {β : Type} {found : List Char → Option (β × Nat)}
    {render : β → List Char} (fits : Fits found) (some : ∀ hit, render hit ≠ [])
    (present : text ≠ []) : replaceAll found render text ≠ [] := by
  refine replaceAll_induction (motive := fun text out => text ≠ [] → out ≠ []) fits
    (fun never => never) ?_ ?_ text present
  · exact fun head rest out _ _ _ => List.cons_ne_nil head out
  · intro passed rest hit out _ _ _ _ empty
    exact some hit (List.append_eq_nil_iff.mp empty).1

theorem wrap_present {opening closing : String} (some : opening.toList ≠ [])
    (content : List Char) : wrap opening closing content ≠ [] := by
  intro empty
  rw [wrap, List.append_assoc] at empty
  exact some (List.append_eq_nil_iff.mp empty).1

theorem Respelt.line {out : List Char} (respelt : Respelt mark spellings text out)
    (lines : ∀ spelling ∈ spellings, '\n' ∉ spelling) (line : '\n' ∉ text) :
    '\n' ∉ out := by
  induction respelt with
  | done => exact line
  | keep head _ induction =>
      rw [List.mem_cons, not_or] at line ⊢
      exact ⟨line.1, induction line.2⟩
  | spell spelling listed _ induction =>
      rw [List.mem_cons, not_or] at line
      rw [List.mem_append, not_or]
      exact ⟨lines spelling listed, induction line.2⟩

theorem Linked.line {quoted : Bool} {out : List Char}
    (linking : Linked quoted text out) (line : '\n' ∉ text) : '\n' ∉ out := by
  induction linking with
  | done => exact line
  | keep head _ induction =>
      rw [List.mem_cons, not_or] at line ⊢
      exact ⟨line.1, induction line.2⟩
  | link link _ induction =>
      rw [link.whole] at line
      rw [anchor_append]
      simp only [List.mem_append, List.mem_cons, List.append_assoc,
        List.cons_append, not_or] at line ⊢
      rcases line with ⟨_, inside, _, _, within, _, later⟩
      exact ⟨by decide, within, by decide, inside, by decide, induction later⟩

theorem emphasised_line {stars opening closing : String} (count : Nat)
    (same : stars.toList = List.replicate (count + 1) '*')
    (opens : '\n' ∉ opening.toList) (closes : '\n' ∉ closing.toList)
    (line : '\n' ∉ text) : '\n' ∉ emphasised stars opening closing text := by
  refine (emphasised_respelt count same text).line (fun spelling listed => ?_) line
  simp only [List.mem_cons, List.not_mem_nil, or_false] at listed
  rcases listed with first | second | third
  · rwa [first]
  · rwa [second]
  · rw [third]
    exact List.not_mem_nil

theorem emphasised_present {stars opening closing : String}
    (some : stars.toList ≠ []) (opens : opening.toList ≠ []) (present : text ≠ []) :
    emphasised stars opening closing text ≠ [] :=
  replaceAll_present (fits_marked some) (wrap_present opens) present

theorem inline_line (present : text ≠ []) (line : '\n' ∉ text) :
    codes (links text) ≠ [] ∧ '\n' ∉ codes (links text) := by
  constructor
  · refine replaceAll_present fits_codeAt (wrap_present (by decide))
      (replaceAll_present fits_linkAt (fun link empty => ?_) present)
    have whole := congrArg (· ++ []) empty
    simp only [anchor_append] at whole
    have start : linkStart ≠ [] := by decide
    exact start (List.append_eq_nil_iff.mp whole).1
  · refine (codes_respelt _).line (by decide) ((links_linked _).line line)

theorem strong_line (present : text ≠ []) (line : '\n' ∉ text) :
    strong text ≠ [] ∧ '\n' ∉ strong text := by
  constructor
  · exact emphasised_present (by decide) (by decide)
      (emphasised_present (by decide) (by decide) present)
  · exact emphasised_line 1 rfl (by decide) (by decide)
      (emphasised_line 2 rfl (by decide) (by decide) line)

theorem emphasis_line (present : text ≠ []) (line : '\n' ∉ text) :
    emphasis text ≠ [] ∧ '\n' ∉ emphasis text := by
  have strong := strong_line present line
  exact ⟨emphasised_present (by decide) (by decide) strong.1,
    emphasised_line 0 rfl (by decide) (by decide) strong.2⟩

theorem inline_other {head : Char} (apart : head ∉ ['[', '\x60']) :
    codes (links (head :: rest)) = head :: codes (links rest) := by
  simp only [List.mem_cons, List.not_mem_nil, or_false, not_or] at apart
  have linked : links (head :: rest) = head :: links rest :=
    replaceAll_none (linkAt_other apart.1)
  rw [linked]
  exact replaceAll_none (codeAt_other apart.2)

theorem emphasised_other {stars opening closing : String} {mark : List Char}
    {head : Char} (same : stars.toList = '*' :: mark) (apart : head ≠ '*') :
    emphasised stars opening closing (head :: rest) =
      head :: emphasised stars opening closing rest := by
  refine replaceAll_none ?_
  rw [same]
  exact marked_other apart

theorem emphasis_other {head : Char} (apart : head ≠ '*') :
    emphasis (head :: rest) = head :: emphasis rest := by
  simp only [emphasis, emphasised_other (show "***".toList = '*' :: ['*', '*'] from rfl)
    apart, emphasised_other (show "**".toList = '*' :: ['*'] from rfl) apart,
    emphasised_other (show "*".toList = '*' :: [] from rfl) apart]

end Markdown

end AimailGateway.Email
