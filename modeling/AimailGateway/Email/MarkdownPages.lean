import AimailGateway.Email.MarkdownTags

/-! # Pages from Markdown

A reader of the page finds the tags of the passes and no others, unless the
target of a link has a quotation mark. Headings, list items and rules are
converted where the body is one line.
-/

namespace AimailGateway.Email

open Library Matches

namespace Markdown

/-! ## The whole page -/

def inlineTags : List String :=
  ["<strong>", "</strong>", "<em>", "</em>", "</a>", "<code>", "</code>"]

def headingTags : List String :=
  ["<h1>", "</h1>", "<h2>", "</h2>", "<h3>", "</h3>", "<h4>", "</h4>", "<h5>",
    "</h5>", "<h6>", "</h6>"]

def listTags : List String := ["<li>", "</li>", "<ul>", "</ul>", "<hr>"]

def paragraphTags : List String := ["<p>", "</p>"]

/-- Every tag without attributes that the passes write. -/
def pageTags : List String :=
  inlineTags ++ headingTags ++ listTags ++ paragraphTags

/-- The text before the pass for links. -/
def emphasisedBody (markdown : String) : List Char :=
  emphasis (headings (Entities.markdownToHtmlEscape markdown).toList)

/-- The text before the passes for lists and rules. -/
def inlineBody (markdown : String) : List Char :=
  codes (links (emphasisedBody markdown))

/-- The text before the pass for paragraphs. -/
def blockBody (markdown : String) : List Char :=
  rule (lists (listItems (inlineBody markdown)))

theorem markdownToHtml_eq (markdown : String) :
    markdownToHtml markdown = Text.trim (String.ofList (collapse
      (paragraphs (String.ofList (blockBody markdown))).toList)) :=
  rfl

theorem formed_pageTags : Formed pageTags := by
  have all : pageTags.all isTag = true := by decide
  exact List.all_eq_true.mp all

theorem Formed.sublist {tags others : List String} (formed : Formed others)
    (within : ∀ tag ∈ tags, tag ∈ others) : Formed tags :=
  fun tag listed => formed tag (within tag listed)

variable {tags : List String} {linked quoted : Bool} {mode last : Mode}
  {text rest : List Char}

theorem run_plain : ∀ {text : List Char}, '<' ∉ text → '>' ∉ text →
    Run tags linked false .text text .text
  | [], _, _ => .done .text
  | head :: tail, opens, closes => by
      rw [List.mem_cons, not_or] at opens closes
      exact .text head ⟨fun same => opens.1 same.symm, fun same => closes.1 same.symm⟩
        (run_plain opens.2 closes.2)

theorem escaped_plain (markdown : String) :
    '<' ∉ (Entities.markdownToHtmlEscape markdown).toList ∧
      '>' ∉ (Entities.markdownToHtmlEscape markdown).toList := by
  have each (mark : Char) (bracket : mark = '<' ∨ mark = '>') (character : Char) :
      mark ∉ Entities.escapeChar true true true character := by
    induction character using Entities.forall_character with
    | ampersand => rcases bracket with same | same <;> rw [same] <;> decide
    | less => rcases bracket with same | same <;> rw [same] <;> decide
    | greater => rcases bracket with same | same <;> rw [same] <;> decide
    | other character notAmpersand notLess notGreater =>
        rw [Entities.escapeChar_other notAmpersand notLess notGreater,
          List.mem_singleton]
        rcases bracket with same | same <;> rw [same]
        · exact fun less => notLess less.symm
        · exact fun greater => notGreater greater.symm
  rw [Entities.escaped_toList]
  constructor
  · intro member
    rcases List.mem_flatMap.mp member with ⟨character, _, spelt⟩
    exact each '<' (.inl rfl) character spelt
  · intro member
    rcases List.mem_flatMap.mp member with ⟨character, _, spelt⟩
    exact each '>' (.inr rfl) character spelt

theorem Run.headings (formed : Formed tags) (within : ∀ tag ∈ headingTags, tag ∈ tags)
    (run : Run tags linked quoted .text text .text) :
    Run tags linked quoted .text (headings text) .text := by
  have level {text : List Char} (marker opening closing : String)
      (plain : '<' ∉ marker.toList) (opens : opening ∈ headingTags)
      (closes : closing ∈ headingTags)
      (run : Run tags linked quoted .text text .text) :
      Run tags linked quoted .text (Markdown.lineAs marker opening closing text)
        .text :=
    run.lineAs formed plain (within opening opens) (within closing closes)
  rw [Markdown.headings]
  refine level "# " _ _ (by decide) (by decide) (by decide) ?_
  refine level "## " _ _ (by decide) (by decide) (by decide) ?_
  refine level "### " _ _ (by decide) (by decide) (by decide) ?_
  refine level "#### " _ _ (by decide) (by decide) (by decide) ?_
  refine level "##### " _ _ (by decide) (by decide) (by decide) ?_
  exact level "###### " _ _ (by decide) (by decide) (by decide) run

theorem Run.emphasis (quiet : Quiet tags '*') (within : ∀ tag ∈ inlineTags, tag ∈ tags)
    (run : Run tags linked quoted .text text .text) :
    Run tags linked quoted .text (emphasis text) .text := by
  have one (tag : String) (listed : tag ∈ inlineTags) (mode : Mode) :
      Run tags linked false mode tag.toList mode :=
    .single tag (within tag listed) mode
  have two (first second : String) (listed : first ∈ inlineTags)
      (listed' : second ∈ inlineTags) (mode : Mode) :
      Run tags linked false mode (first.toList ++ second.toList) mode :=
    (one first listed mode).append (one second listed' mode)
  have strongEm : "<strong><em>".toList = "<strong>".toList ++ "<em>".toList := rfl
  have emStrong : "</em></strong>".toList =
      "</em>".toList ++ "</strong>".toList := rfl
  have spelt {text : List Char} (stars opening closing : String) (count : Nat)
      (same : stars.toList = List.replicate (count + 1) '*')
      (opens : ∀ mode, Run tags linked false mode opening.toList mode)
      (closes : ∀ mode, Run tags linked false mode closing.toList mode)
      (run : Run tags linked quoted .text text .text) :
      Run tags linked quoted .text (emphasised stars opening closing text) .text := by
    refine run.respell quiet (fun spelling listed mode => ?_)
      (emphasised_respelt count same text)
    simp only [List.mem_cons, List.not_mem_nil, or_false] at listed
    rcases listed with first | second | third
    · rw [first]
      exact opens mode
    · rw [second]
      exact closes mode
    · rw [third]
      exact .done mode
  rw [Markdown.emphasis]
  refine spelt "*" _ _ 0 rfl (one "<em>" (by decide)) (one "</em>" (by decide)) ?_
  refine spelt "**" _ _ 1 rfl (one "<strong>" (by decide))
    (one "</strong>" (by decide)) ?_
  refine spelt "***" _ _ 2 rfl ?_ ?_ run
  · rw [strongEm]
    exact two "<strong>" "<em>" (by decide) (by decide)
  · rw [emStrong]
    exact two "</em>" "</strong>" (by decide) (by decide)

theorem Run.codes (quiet : Quiet tags '\x60') (within : ∀ tag ∈ inlineTags, tag ∈ tags)
    (run : Run tags linked quoted .text text .text) :
    Run tags linked quoted .text (codes text) .text := by
  refine run.respell quiet (fun spelling listed mode => ?_) (codes_respelt text)
  simp only [List.mem_cons, List.not_mem_nil, or_false] at listed
  rcases listed with first | second
  · rw [first]
    exact .single "<code>" (within _ (by decide)) mode
  · rw [second]
    exact .single "</code>" (within _ (by decide)) mode

/-- The tags of the text before the passes for lists. -/
def earlyTags : List String := inlineTags ++ headingTags

theorem inline_early : ∀ tag ∈ inlineTags, tag ∈ earlyTags :=
  fun _ listed => List.mem_append_left _ listed

theorem early_page : ∀ tag ∈ earlyTags, tag ∈ pageTags := by
  decide

theorem run_inlineBody (markdown : String) :
    Run earlyTags true (quotesTarget (emphasisedBody markdown)) .text
      (inlineBody markdown) .text := by
  have formed := formed_pageTags.sublist early_page
  have plain := escaped_plain markdown
  have start : Run earlyTags false false .text
      (Entities.markdownToHtmlEscape markdown).toList .text :=
    run_plain plain.1 plain.2
  have emphasised : Run earlyTags false false .text (emphasisedBody markdown) .text :=
    (start.headings formed (fun _ listed => List.mem_append_right _ listed)).emphasis
      (by decide) inline_early
  refine Run.codes (by decide) inline_early ?_
  exact emphasised.links formed (by decide)
    (List.all_iff_forall_prop.mp (by decide)) (links_linked _)

theorem three_of_length {text : List Char} (long : 3 ≤ text.length) :
    ∃ first second third inner, text = first :: second :: third :: inner := by
  rcases text with _ | ⟨first, _ | ⟨second, _ | ⟨third, inner⟩⟩⟩
  · simp at long
  · simp at long
  · simp at long
  · exact ⟨first, second, third, inner, rfl⟩

theorem listless_early : Listless earlyTags := by
  have each : ∀ tag ∈ earlyTags, 3 ≤ tag.toList.length ∧
      '<' ∉ tag.toList.drop 1 ∧ '\n' ∉ tag.toList ∧
      tag.toList[1]? ≠ some 'l' ∧
      (tag.toList[1]? = some '/' → tag.toList[2]? ≠ some 'l') := by decide
  intro tag listed
  rcases each tag listed with ⟨long, plain, line, unlisted, unended⟩
  rcases three_of_length long with ⟨first, second, third, inner, written⟩
  rw [written] at plain line unlisted unended
  refine ⟨first, second, third, inner, written, plain, ?_, ?_, ?_⟩
  · rwa [written]
  · exact fun same => unlisted (congrArg some same)
  · exact fun same here => unended (congrArg some same) (congrArg some here)

theorem Run.item {marker : String} (run : Run earlyTags linked quoted .text text last)
    (plain : '<' ∉ marker.toList) (found : wholeLine marker.toList text = some rest) :
    lists (wrap "<li>" "</li>" rest) =
      wrap "<ul>" "</ul>" (wrap "<li>" "</li>" rest) := by
  rcases wholeLine_spec found with ⟨same, _, line⟩
  rw [same] at run
  exact (run.dropped (formed_pageTags.sublist early_page) plain).lists_item
    listless_early line

theorem listItems_dashed (found : wholeLine "- ".toList text = some rest) :
    listItems text = wrap "<li>" "</li>" rest := by
  have once : lineAs "- " "<li>" "</li>" text = wrap "<li>" "</li>" rest := by
    rw [lineAs, found]
  have starts : wrap "<li>" "</li>" rest = '<' :: ("li>".toList ++ rest ++
    "</li>".toList) := rfl
  have none : wholeLine "* ".toList (wrap "<li>" "</li>" rest) = none := by
    rw [starts]
    rfl
  rw [listItems, once, lineAs, none]

theorem listItems_starred (undashed : wholeLine "- ".toList text = none)
    (found : wholeLine "* ".toList text = some rest) :
    listItems text = wrap "<li>" "</li>" rest := by
  have once : lineAs "- " "<li>" "</li>" text = text := by
    rw [lineAs, undashed]
  rw [listItems, once, lineAs, found]

theorem listItems_none (undashed : wholeLine "- ".toList text = none)
    (unstarred : wholeLine "* ".toList text = none) : listItems text = text := by
  have once : lineAs "- " "<li>" "</li>" text = text := by
    rw [lineAs, undashed]
  rw [listItems, once, lineAs, unstarred]

theorem run_lists (run : Run earlyTags true quoted .text text .text) :
    Run pageTags true quoted .text (lists (listItems text)) .text := by
  have formed := formed_pageTags.sublist early_page
  have item {marker : String} {rest : List Char} (plain : '<' ∉ marker.toList)
      (found : wholeLine marker.toList text = some rest) :
      Run pageTags true quoted .text (lists (wrap "<li>" "</li>" rest)) .text := by
    have wrapped := run.item plain found
    rw [(wholeLine_spec found).1] at run
    have inner := (run.dropped formed plain).mono early_page fun _ => rfl
    rw [wrapped]
    exact (inner.wrapped (by decide) (by decide)).wrapped (by decide) (by decide)
  cases dashed : wholeLine "- ".toList text with
  | some rest =>
      rw [listItems_dashed dashed]
      exact item (by decide) dashed
  | none =>
      cases starred : wholeLine "* ".toList text with
      | some rest =>
          rw [listItems_starred dashed starred]
          exact item (by decide) starred
      | none =>
          rw [listItems_none dashed starred, run.lists_idle listless_early]
          exact run.mono early_page fun _ => rfl

theorem Run.rule (formed : Formed tags) (within : "<hr>" ∈ tags)
    (run : Run tags linked quoted .text text .text) :
    Run tags linked quoted .text (rule text) .text := by
  rw [Markdown.rule]
  split
  · next dashes =>
      have plain : '<' ∉ text := by
        intro member
        have same := List.all_eq_true.mp dashes.2 '<' member
        exact absurd same (by decide)
      rw [run.plain formed rfl plain]
      exact .single "<hr>" within .text
  · exact run

theorem run_finish {markdown : String} (formed : Formed tags)
    (within : ∀ tag ∈ paragraphTags, tag ∈ tags) (quiet : Quiet tags '\n')
    (blocks : Run tags linked quoted .text (blockBody markdown) .text) :
    Run tags linked quoted .text (markdownToHtml markdown).toList .text := by
  have lines : Run tags linked quoted .text
      (paragraphs (String.ofList (blockBody markdown))).toList .text := by
    rw [paragraphs_toList, String.toList_ofList]
    refine Run.joined formed (within _ (by decide)) (within _ (by decide)) quiet
      (List.splitOn_ne_nil _ _) ?_
    rwa [List.intercalate_splitOn]
  rw [markdownToHtml_eq]
  refine Run.trim formed ?_
  rw [String.toList_ofList]
  refine lines.respell quiet (fun spelling listed mode => ?_) (collapse_respelt _)
  rw [List.mem_singleton.mp listed]
  exact .done mode

theorem run_page (markdown : String) :
    Run pageTags true (quotesTarget (emphasisedBody markdown)) .text
      (markdownToHtml markdown).toList .text :=
  run_finish formed_pageTags (by decide) (by decide)
    ((run_lists (run_inlineBody markdown)).rule formed_pageTags (by decide))

/-! ## What a reader takes for a tag -/

/-- The tags of a page, without their brackets. A bracket in quotation marks ends
no tag; what is left open at the end is a tag too. -/
def tagsFrom : Option (List Char × Bool) → List Char → List (List Char)
  | none, [] => []
  | some (raw, _), [] => [raw]
  | none, head :: rest =>
      if head = '<' then tagsFrom (some ([], false)) rest else tagsFrom none rest
  | some (raw, inQuotes), head :: rest =>
      if head = '>' ∧ inQuotes = false then raw :: tagsFrom none rest
      else tagsFrom (some (raw ++ [head],
        if head = '"' then !inQuotes else inQuotes)) rest

def tagsOf (page : String) : List (List Char) := tagsFrom none page.toList

/-- The start of a link, read up to its target. -/
def linkRaw : List Char := "a href=\"".toList

/-- A tag the converter writes itself, with no quotation mark in its value. -/
def OwnTag (raw : List Char) : Prop :=
  '<' :: raw ++ ['>'] ∈ pageTags.map String.toList ∨
    ∃ target, '"' ∉ target ∧ raw = linkRaw ++ target ++ ['"']

theorem tagsFrom_inner {inner : List Char} (plain : '>' ∉ inner) (quiet : '"' ∉ inner)
    (raw rest : List Char) :
    tagsFrom (some (raw, false)) (inner ++ '>' :: rest) =
      (raw ++ inner) :: tagsFrom none rest := by
  induction inner generalizing raw with
  | nil => simp [tagsFrom]
  | cons head tail induction =>
      rw [List.mem_cons, not_or] at plain quiet
      rw [List.cons_append, tagsFrom, if_neg fun both => plain.1 both.1.symm,
        if_neg fun same => quiet.1 same.symm, induction plain.2 quiet.2,
        List.append_assoc]
      rfl

theorem tagsFrom_quoted {part : List Char} (quiet : '"' ∉ part)
    (raw rest : List Char) :
    tagsFrom (some (raw, true)) (part ++ rest) =
      tagsFrom (some (raw ++ part, true)) rest := by
  induction part generalizing raw with
  | nil => simp
  | cons head tail induction =>
      rw [List.mem_cons, not_or] at quiet
      rw [List.cons_append, tagsFrom, if_neg (by simp),
        if_neg fun same => quiet.1 same.symm, induction quiet.2, List.append_assoc]
      rfl

theorem Formed.inner (formed : Formed tags) {tag : String} (listed : tag ∈ tags) :
    ∃ inner, tag.toList = '<' :: inner ++ ['>'] ∧ '>' ∉ inner ∧ '"' ∉ inner := by
  have shape := formed tag listed
  simp only [isTag, Bool.and_eq_true, beq_iff_eq, List.all_eq_true, bne_iff_ne,
    ne_eq] at shape
  rcases shape with ⟨⟨first, ending⟩, plain⟩
  rcases List.head?_eq_some_iff.mp first with ⟨tail, written⟩
  rw [written] at ending plain
  rw [List.drop_one, List.tail_cons] at plain
  rcases List.eq_nil_or_concat tail with none | ⟨inner, final, cut⟩
  · rw [none] at ending
    exact absurd ending (by decide)
  · rw [cut, List.concat_eq_append, ← List.cons_append,
      List.getLast?_concat] at ending
    rw [cut, List.concat_eq_append, List.dropLast_concat] at plain
    refine ⟨inner, ?_, fun member => (plain '>' member).1.2 rfl,
      fun member => (plain '"' member).2 rfl⟩
    rw [written, cut, List.concat_eq_append, Option.some.inj ending]
    rfl

theorem tagsFrom_tag {inner : List Char} (plain : '>' ∉ inner) (quiet : '"' ∉ inner)
    (rest : List Char) :
    tagsFrom none ('<' :: inner ++ ['>'] ++ rest) = inner :: tagsFrom none rest := by
  have shape : '<' :: inner ++ ['>'] ++ rest = '<' :: (inner ++ '>' :: rest) := by
    simp
  rw [shape, tagsFrom, if_pos rfl, tagsFrom_inner plain quiet]
  rfl

theorem tagsFrom_opens (rest : List Char) :
    tagsFrom none (linkStart ++ rest) = tagsFrom (some (linkRaw, true)) rest :=
  rfl

theorem tagsFrom_closes (raw rest : List Char) :
    tagsFrom (some (raw, true)) (linkEnd ++ rest) =
      (raw ++ ['"']) :: tagsFrom none rest :=
  rfl

theorem Run.own (formed : Formed tags) (within : ∀ tag ∈ tags, tag ∈ pageTags)
    (run : Run tags linked quoted mode text last) (outside : last = .text)
    (unquoted : quoted = false) :
    (mode = .text → ∀ raw ∈ tagsFrom none text, OwnTag raw) ∧
    (mode = .target → ∀ target, '"' ∉ target →
      ∀ raw ∈ tagsFrom (some (linkRaw ++ target, true)) text, OwnTag raw) := by
  induction run with
  | done mode =>
      refine ⟨fun _ raw listed => absurd listed List.not_mem_nil, fun inside => ?_⟩
      rw [outside] at inside
      cases inside
  | text head plain _ induction =>
      refine ⟨fun _ => ?_, fun inside => by cases inside⟩
      rw [tagsFrom, if_neg plain.1]
      exact (induction outside unquoted).1 rfl
  | target head plain _ induction =>
      rw [Bool.or_eq_false_iff, beq_eq_false_iff_ne] at unquoted
      refine ⟨fun inside => absurd inside (by decide), fun _ target clean => ?_⟩
      have longer : '"' ∉ target ++ [head] := by
        rw [List.mem_append, List.mem_singleton, not_or]
        exact ⟨clean, fun same => unquoted.1 same.symm⟩
      rw [tagsFrom, if_neg (by simp), if_neg unquoted.1, List.append_assoc]
      exact (induction outside unquoted.2).2 rfl _ longer
  | tag tag listed _ induction =>
      rcases formed.inner listed with ⟨inner, written, plain, quiet⟩
      constructor
      · intro here
        have later := (induction outside unquoted).1 here
        rw [written, tagsFrom_tag plain quiet, List.forall_mem_cons]
        refine ⟨.inl ?_, later⟩
        rw [← written]
        exact List.mem_map_of_mem (within tag listed)
      · intro here target clean
        have whole := formed.unquoted listed
        rw [tagsFrom_quoted whole, List.append_assoc]
        refine (induction outside unquoted).2 here _ ?_
        rw [List.mem_append, not_or]
        exact ⟨clean, whole⟩
  | opens links _ induction =>
      refine ⟨fun _ => ?_, fun inside => by cases inside⟩
      rw [tagsFrom_opens]
      have inner := (induction outside unquoted).2 rfl [] List.not_mem_nil
      rwa [List.append_nil] at inner
  | closes _ induction =>
      refine ⟨fun inside => absurd inside (by decide), fun _ target clean => ?_⟩
      have later := (induction outside unquoted).1 rfl
      rw [tagsFrom_closes, List.forall_mem_cons]
      exact ⟨.inr ⟨target, clean, rfl⟩, later⟩

theorem tagsFrom_longer : ∀ (text raw : List Char) (inQuotes : Bool),
    ∃ listed ∈ tagsFrom (some (raw, inQuotes)) text, raw <+: listed
  | [], raw, inQuotes => ⟨raw, List.mem_cons_self, List.prefix_rfl⟩
  | head :: rest, raw, inQuotes => by
      rw [tagsFrom]
      split
      · exact ⟨raw, List.mem_cons_self, List.prefix_rfl⟩
      · rcases tagsFrom_longer rest (raw ++ [head])
          (if head = '"' then !inQuotes else inQuotes) with ⟨listed, member, longer⟩
        exact ⟨listed, member, (List.prefix_append raw [head]).trans longer⟩

theorem not_ownTag {target raw : List Char} {head : Char} (clean : '"' ∉ target)
    (longer : linkRaw ++ target ++ ['"'] ++ [head] <+: raw) : ¬ OwnTag raw := by
  rcases longer with ⟨more, same⟩
  rw [← same]
  rintro (simple | ⟨other, clean', whole⟩)
  · rcases List.mem_map.mp simple with ⟨tag, listed, written⟩
    refine formed_pageTags.unquoted listed ?_
    rw [written]
    simp
  · have shape : linkRaw ++ (target ++ '"' :: head :: more) =
        linkRaw ++ (other ++ '"' :: []) := by
      simpa only [List.append_assoc, List.cons_append, List.nil_append] using whole
    have inner := List.append_cancel_left shape
    have first := (takeWhile_until (head :: more) clean).2
    rw [inner, (takeWhile_until [] clean').2] at first
    cases first

theorem Run.next (formed : Formed tags)
    (run : Run tags linked quoted .target text .text) :
    ∃ head rest, text = head :: rest ∧ head ≠ '>' := by
  generalize start : Mode.target = mode at run
  generalize finish : Mode.text = last at run
  cases run with
  | done =>
      rw [← start] at finish
      cases finish
  | text => cases start
  | target head plain _ => exact ⟨head, _, rfl, plain.2⟩
  | tag tag listed _ =>
      rcases formed.head listed with ⟨inner, written⟩
      exact ⟨'<', _, by rw [written]; rfl, by decide⟩
  | opens => cases start
  | closes => exact ⟨'"', _, rfl, by decide⟩

theorem Run.foreign (formed : Formed tags)
    (run : Run tags linked quoted mode text last) (outside : last = .text)
    (marked : quoted = true) :
    (mode = .text → ∃ raw ∈ tagsFrom none text, ¬ OwnTag raw) ∧
    (mode = .target → ∀ target, '"' ∉ target →
      ∃ raw ∈ tagsFrom (some (linkRaw ++ target, true)) text, ¬ OwnTag raw) := by
  induction run with
  | done mode => cases marked
  | text head plain _ induction =>
      refine ⟨fun _ => ?_, fun inside => absurd inside (by decide)⟩
      rw [tagsFrom, if_neg plain.1]
      exact (induction outside marked).1 rfl
  | target head plain run induction =>
      refine ⟨fun inside => absurd inside (by decide), fun _ target clean => ?_⟩
      by_cases here : head = '"'
      · rw [outside] at run
        rcases run.next formed with ⟨next, rest, same, apart⟩
        rw [here, same, tagsFrom, if_neg (by simp), if_pos rfl, tagsFrom,
          if_neg fun both => apart both.1]
        rcases tagsFrom_longer rest (linkRaw ++ target ++ ['"'] ++ [next])
          (if next = '"' then !(!true) else !true) with ⟨raw, listed, longer⟩
        exact ⟨raw, listed, not_ownTag clean longer⟩
      · rw [beq_false_of_ne here, Bool.false_or] at marked
        have longer : '"' ∉ target ++ [head] := by
          rw [List.mem_append, List.mem_singleton, not_or]
          exact ⟨clean, fun same => here same.symm⟩
        rw [tagsFrom, if_neg (by simp), if_neg here, List.append_assoc]
        exact (induction outside marked).2 rfl _ longer
  | tag tag listed _ induction =>
      rcases formed.inner listed with ⟨inner, written, plain, quiet⟩
      constructor
      · intro here
        rcases (induction outside marked).1 here with ⟨raw, listed, foreign⟩
        rw [written, tagsFrom_tag plain quiet]
        exact ⟨raw, List.mem_cons_of_mem inner listed, foreign⟩
      · intro here target clean
        have whole := formed.unquoted listed
        rw [tagsFrom_quoted whole, List.append_assoc]
        refine (induction outside marked).2 here _ ?_
        rw [List.mem_append, not_or]
        exact ⟨clean, whole⟩
  | opens links _ induction =>
      refine ⟨fun _ => ?_, fun inside => absurd inside (by decide)⟩
      rw [tagsFrom_opens]
      have inner := (induction outside marked).2 rfl [] List.not_mem_nil
      rwa [List.append_nil] at inner
  | closes _ induction =>
      refine ⟨fun inside => absurd inside (by decide), fun _ target clean => ?_⟩
      rcases (induction outside marked).1 rfl with ⟨raw, listed, foreign⟩
      rw [tagsFrom_closes]
      exact ⟨raw, List.mem_cons_of_mem _ listed, foreign⟩

theorem own_iff (markdown : String) :
    (∀ raw ∈ tagsOf (markdownToHtml markdown), OwnTag raw) ↔
      quotesTarget (emphasisedBody markdown) = false := by
  have run := run_page markdown
  constructor
  · intro own
    rw [← Bool.not_eq_true]
    intro marked
    rcases (run.foreign formed_pageTags rfl marked).1 rfl with ⟨raw, listed, foreign⟩
    exact foreign (own raw listed)
  · intro unquoted
    exact (run.own formed_pageTags (fun _ listed => listed) rfl unquoted).1 rfl

/-! ## Links of the body -/

/-- Characters that make up no link. -/
def Unlinked (text : List Char) : Prop :=
  ∀ character ∈ text, character ∉ ['[', ']', '(', ')', '"']

instance (text : List Char) : Decidable (Unlinked text) :=
  List.decidableBAll _ text

/-- Stretches without such characters are written anew, none of them as
nothing. -/
inductive Reshaped : List Char → List Char → Prop
  | done (more : List Char) (plain : Unlinked more) : Reshaped [] more
  | keep {text out : List Char} (head : Char) (tail : Reshaped text out) :
      Reshaped (head :: text) (head :: out)
  | anew {text out : List Char} (old new : List Char) (plain : Unlinked old)
      (plain' : Unlinked new) (present : old ≠ []) (present' : new ≠ [])
      (tail : Reshaped text out) : Reshaped (old ++ text) (new ++ out)

theorem Reshaped.kept {text out : List Char} (kept : List Char)
    (tail : Reshaped text out) : Reshaped (kept ++ text) (kept ++ out) := by
  induction kept with
  | nil => exact tail
  | cons head _ induction => exact .keep head induction

theorem Reshaped.refl (text : List Char) : Reshaped text text := by
  have kept := Reshaped.kept text (.done [] (by decide))
  rwa [List.append_nil] at kept

theorem Unlinked.not_mem {text : List Char} (plain : Unlinked text) {mark : Char}
    (special : mark ∈ ['[', ']', '(', ')', '"']) : mark ∉ text :=
  fun member => plain mark member special

theorem Reshaped.first {text out : List Char} (reshaped : Reshaped text out)
    {mark : Char} (special : mark ∈ ['[', ']', '(', ')', '"']) :
    (∃ before before' after after', text = before ++ mark :: after ∧
      out = before' ++ mark :: after' ∧ mark ∉ before ∧ mark ∉ before' ∧
      (before = [] ↔ before' = []) ∧ ('"' ∈ before ↔ '"' ∈ before') ∧
      Reshaped after after') ∨ (mark ∉ text ∧ mark ∉ out) := by
  induction reshaped with
  | done more plain => exact .inr ⟨List.not_mem_nil, plain.not_mem special⟩
  | @keep text out head tail induction =>
      by_cases here : mark = head
      · rw [here]
        exact .inl ⟨[], [], text, out, rfl, rfl, List.not_mem_nil, List.not_mem_nil,
          Iff.rfl, Iff.rfl, tail⟩
      · rcases induction with ⟨before, before', after, after', same, same', none,
          none', _, quotes, later⟩ | ⟨absent, absent'⟩
        · refine .inl ⟨head :: before, head :: before', after, after', ?_, ?_, ?_, ?_,
            ?_, ?_, later⟩
          · rw [same]
            rfl
          · rw [same']
            rfl
          · exact fun member => (List.mem_cons.mp member).elim here none
          · exact fun member => (List.mem_cons.mp member).elim here none'
          · simp
          · rw [List.mem_cons, List.mem_cons, quotes]
        · exact .inr ⟨fun member => (List.mem_cons.mp member).elim here absent,
            fun member => (List.mem_cons.mp member).elim here absent'⟩
  | @anew text out old new plain plain' present present' tail induction =>
      have quote : '"' ∈ ['[', ']', '(', ')', '"'] := by decide
      rcases induction with ⟨before, before', after, after', same, same', none,
          none', _, quotes, later⟩ | ⟨absent, absent'⟩
      · refine .inl ⟨old ++ before, new ++ before', after, after', ?_, ?_, ?_, ?_, ?_,
          ?_, later⟩
        · rw [same, List.append_assoc]
        · rw [same', List.append_assoc]
        · rw [List.mem_append, not_or]
          exact ⟨plain.not_mem special, none⟩
        · rw [List.mem_append, not_or]
          exact ⟨plain'.not_mem special, none'⟩
        · simp [present, present']
        · rw [List.mem_append, List.mem_append, quotes]
          simp [plain.not_mem quote, plain'.not_mem quote]
      · rw [List.mem_append, List.mem_append, not_or, not_or]
        exact .inr ⟨⟨plain.not_mem special, absent⟩, plain'.not_mem special, absent'⟩

theorem Reshaped.next {text out : List Char} (reshaped : Reshaped text out) :
    (∃ after after', text = '(' :: after ∧ out = '(' :: after' ∧
      Reshaped after after') ∨ (text.head? ≠ some '(' ∧ out.head? ≠ some '(') := by
  have apart {text : List Char} (plain : Unlinked text) : text.head? ≠ some '(' :=
    fun same => plain.not_mem (by decide) (List.mem_of_mem_head? same)
  cases reshaped with
  | done more plain => exact .inr ⟨by simp, apart plain⟩
  | @keep text out head tail =>
      by_cases here : head = '('
      · rw [here]
        exact .inl ⟨text, out, rfl, rfl, tail⟩
      · exact .inr ⟨by simpa using here, by simpa using here⟩
  | anew old new plain plain' present present' tail =>
      rw [List.head?_append_of_ne_nil _ present,
        List.head?_append_of_ne_nil _ present']
      exact .inr ⟨apart plain, apart plain'⟩

theorem linkAt_other {head : Char} {rest : List Char} (apart : head ≠ '[') :
    linkAt (head :: rest) = none := by
  rw [linkAt]
  intro other same
  exact apart (List.cons.inj same).1

theorem quotesTarget_none {head : Char} {rest : List Char}
    (none : linkAt (head :: rest) = none) :
    quotesTarget (head :: rest) = quotesTarget rest := by
  rw [quotesTarget, pieces_none none]
  rfl

theorem quotesTarget_kept {kept rest : List Char} (plain : '[' ∉ kept) :
    quotesTarget (kept ++ rest) = quotesTarget rest := by
  induction kept with
  | nil => rfl
  | cons head tail induction =>
      rw [List.mem_cons, not_or] at plain
      rw [List.cons_append, quotesTarget_none
        (linkAt_other fun same => plain.1 same.symm), induction plain.2]

theorem quotesTarget_link {content target rest text : List Char}
    (link : IsLink content target rest text) :
    quotesTarget text = (target.contains '"' || quotesTarget rest) := by
  have whole : text = ('[' :: content ++ ']' :: '(' :: target ++ [')']) ++ rest := by
    rw [link.whole]
    simp
  have size : content.length + target.length + 4 =
      ('[' :: content ++ ']' :: '(' :: target ++ [')']).length := by
    simp only [List.length_append, List.length_cons, List.length_nil]
    omega
  have found := linkAt_of_isLink link
  rw [size, whole] at found
  rw [whole, quotesTarget, pieces_some (by simp) found]
  rfl

/-! The texts behind an opening bracket that begin no link, by what is missing. -/

theorem linkAt_unclosed {text : List Char} (absent : ']' ∉ text) :
    linkAt ('[' :: text) = none := by
  have ended : text.dropWhile (· != ']') = [] := by
    rw [List.dropWhile_eq_nil_iff]
    intro character member
    exact bne_iff_ne.mpr fun same => absent (same ▸ member)
  simp only [linkAt, ended]

theorem linkAt_unaimed {content after : List Char} (inside : ']' ∉ content)
    (apart : after.head? ≠ some '(') :
    linkAt ('[' :: (content ++ ']' :: after)) = none := by
  have cut : (content ++ ']' :: after).dropWhile (· != ']') = ']' :: after :=
    (takeWhile_until after inside).2
  simp only [linkAt, cut]
  split
  · next target same =>
      rw [(List.cons.inj same).2] at apart
      exact absurd rfl apart
  · rfl

theorem linkAt_open {content after : List Char} (inside : ']' ∉ content)
    (absent : ')' ∉ after) :
    linkAt ('[' :: (content ++ ']' :: '(' :: after)) = none := by
  have cut : (content ++ ']' :: '(' :: after).dropWhile (· != ']') =
      ']' :: '(' :: after := (takeWhile_until _ inside).2
  simp only [linkAt, cut]
  rw [if_pos]
  simp [absent]

theorem linkAt_empty {content target rest : List Char} (inside : ']' ∉ content)
    (within : ')' ∉ target) (empty : content = [] ∨ target = []) :
    linkAt ('[' :: (content ++ ']' :: '(' :: (target ++ ')' :: rest))) = none := by
  have first : (content ++ ']' :: '(' :: (target ++ ')' :: rest)).takeWhile
      (· != ']') = content ∧
      (content ++ ']' :: '(' :: (target ++ ')' :: rest)).dropWhile (· != ']') =
        ']' :: '(' :: (target ++ ')' :: rest) := takeWhile_until _ inside
  have second : (target ++ ')' :: rest).takeWhile (· != ')') = target :=
    (takeWhile_until rest within).1
  simp only [linkAt, first.1, first.2, second]
  rw [if_pos]
  rcases empty with same | same <;> simp [same]

theorem Reshaped.link {text out : List Char} (reshaped : Reshaped text out) :
    (∃ content content' target target' rest rest',
      IsLink content target rest ('[' :: text) ∧
      IsLink content' target' rest' ('[' :: out) ∧
      ('"' ∈ target ↔ '"' ∈ target') ∧ Reshaped rest rest') ∨
    (linkAt ('[' :: text) = none ∧ linkAt ('[' :: out) = none) := by
  rcases reshaped.first (show ']' ∈ ['[', ']', '(', ')', '"'] by decide) with
    ⟨content, content', after, after', same, same', inside, inside', named, _, behind⟩ |
      ⟨absent, absent'⟩
  · rw [same, same']
    rcases behind.next with ⟨aim, aim', opens, opens', goal⟩ | ⟨apart, apart'⟩
    · rw [opens, opens']
      rcases goal.first (show ')' ∈ ['[', ']', '(', ')', '"'] by decide) with
        ⟨target, target', rest, rest', ends, ends', within, within', aimed, quotes,
          later⟩ | ⟨absent, absent'⟩
      · rw [ends, ends']
        by_cases present : content ≠ [] ∧ target ≠ []
        · refine .inl ⟨content, content', target, target', rest, rest',
            ⟨?_, inside, within, present.1, present.2⟩,
            ⟨?_, inside', within', fun empty => present.1 (named.mpr empty),
              fun empty => present.2 (aimed.mpr empty)⟩, quotes, later⟩
          · simp
          · simp
        · have empty : content = [] ∨ target = [] := by
            by_contra never
            rw [not_or] at never
            exact present never
          exact .inr ⟨linkAt_empty inside within empty,
            linkAt_empty inside' within' (empty.imp named.mp aimed.mp)⟩
      · exact .inr ⟨linkAt_open inside absent, linkAt_open inside' absent'⟩
    · exact .inr ⟨linkAt_unaimed inside apart, linkAt_unaimed inside' apart'⟩
  · exact .inr ⟨linkAt_unclosed absent, linkAt_unclosed absent'⟩

theorem Reshaped.quotes {text out : List Char} (reshaped : Reshaped text out) :
    quotesTarget text = quotesTarget out := by
  generalize size : text.length = count
  induction count using Nat.strongRecOn generalizing text out with
  | ind count induction =>
      cases reshaped with
      | done _ plain =>
          have none : quotesTarget (out ++ []) = quotesTarget [] :=
            quotesTarget_kept (plain.not_mem (by decide))
          rw [List.append_nil] at none
          exact none.symm
      | @keep text out head tail =>
          rw [List.length_cons] at size
          by_cases here : head = '['
          · rw [here]
            rcases tail.link with ⟨content, content', target, target', rest, rest',
              link, link', quotes, later⟩ | ⟨none, none'⟩
            · have shorter : rest.length < count := by
                have whole := congrArg List.length link.whole
                simp only [List.length_append, List.length_cons] at whole
                omega
              have same : target.contains '"' = target'.contains '"' := by
                rw [Bool.eq_iff_iff, List.contains_iff_mem, List.contains_iff_mem,
                  quotes]
              rw [quotesTarget_link link, quotesTarget_link link', same,
                induction _ shorter later rfl]
            · rw [quotesTarget_none none, quotesTarget_none none']
              exact induction _ (by omega) tail rfl
          · rw [quotesTarget_none (linkAt_other here),
              quotesTarget_none (linkAt_other here)]
            exact induction _ (by omega) tail rfl
      | @anew text out old new plain plain' present present' tail =>
          have positive := List.length_pos_iff.mpr present
          rw [List.length_append] at size
          rw [quotesTarget_kept (plain.not_mem (by decide)),
            quotesTarget_kept (plain'.not_mem (by decide))]
          exact induction _ (by omega) tail rfl

/-! ## From the body to its links -/

theorem escaped_reshaped (markdown : String) :
    Reshaped markdown.toList (Entities.markdownToHtmlEscape markdown).toList := by
  rw [Entities.escaped_toList]
  induction markdown.toList with
  | nil => exact .refl []
  | cons head tail induction =>
      rw [List.flatMap_cons]
      have spelt (mark : Char) (plain : Unlinked [mark])
          (plain' : Unlinked (Entities.escapeChar true true true mark))
          (present : Entities.escapeChar true true true mark ≠ []) :
          Reshaped (mark :: tail) (Entities.escapeChar true true true mark ++
            tail.flatMap (Entities.escapeChar true true true)) :=
        .anew [mark] _ plain plain' (List.cons_ne_nil _ _) present induction
      induction head using Entities.forall_character with
      | ampersand => exact spelt '&' (by decide) (by decide) (by decide)
      | less => exact spelt '<' (by decide) (by decide) (by decide)
      | greater => exact spelt '>' (by decide) (by decide) (by decide)
      | other character notAmpersand notLess notGreater =>
          rw [Entities.escapeChar_other notAmpersand notLess notGreater]
          exact .keep character induction

theorem lineAs_reshaped {marker opening closing : String} (text : List Char)
    (plain : Unlinked marker.toList) (opens : Unlinked opening.toList)
    (closes : Unlinked closing.toList) (present : marker.toList ≠ [])
    (present' : opening.toList ≠ []) :
    Reshaped text (lineAs marker opening closing text) := by
  rw [lineAs]
  split
  · next rest found =>
      have inner : Reshaped rest (rest ++ closing.toList) := by
        have kept := Reshaped.kept rest (.done closing.toList closes)
        rwa [List.append_nil] at kept
      rw [(wholeLine_spec found).1, wrap, List.append_assoc]
      exact .anew _ _ plain opens present present' inner
  · exact .refl text

theorem emphasised_reshaped {stars opening closing : String} (text : List Char)
    (plain : Unlinked stars.toList) (opens : Unlinked opening.toList)
    (closes : Unlinked closing.toList) (present : stars.toList ≠ [])
    (present' : opening.toList ≠ []) (present'' : closing.toList ≠ []) :
    Reshaped text (emphasised stars opening closing text) := by
  refine replaceAll_induction (motive := Reshaped) (fits_marked present) (.refl [])
    ?_ ?_ text
  · exact fun head rest out _ tail => .keep head tail
  · intro passed rest content out _ found tail
    rcases marked_spec found with ⟨_, _, size, after, whole⟩
    rcases List.append_inj whole size with ⟨cut, later⟩
    have ended : Reshaped (stars.toList ++ rest) (closing.toList ++ out) :=
      .anew _ _ plain closes present present'' tail
    have outer : Reshaped (stars.toList ++ (content ++ (stars.toList ++ rest)))
        (opening.toList ++ (content ++ (closing.toList ++ out))) :=
      .anew _ _ plain opens present present' (ended.kept content)
    rw [cut, wrap]
    simpa only [List.append_assoc] using outer

theorem quotesTarget_body (markdown : String) :
    quotesTarget (emphasisedBody markdown) = quotesTarget markdown.toList := by
  have heading {marker opening closing : String} (text : List Char)
      (spelt : (Unlinked marker.toList ∧ Unlinked opening.toList ∧
        Unlinked closing.toList) ∧ marker.toList ≠ [] ∧ opening.toList ≠ []) :
      quotesTarget (lineAs marker opening closing text) = quotesTarget text :=
    (lineAs_reshaped text spelt.1.1 spelt.1.2.1 spelt.1.2.2 spelt.2.1
      spelt.2.2).quotes.symm
  have stars {stars opening closing : String} (text : List Char)
      (spelt : (Unlinked stars.toList ∧ Unlinked opening.toList ∧
        Unlinked closing.toList) ∧ stars.toList ≠ [] ∧ opening.toList ≠ [] ∧
        closing.toList ≠ []) :
      quotesTarget (emphasised stars opening closing text) = quotesTarget text :=
    (emphasised_reshaped text spelt.1.1 spelt.1.2.1 spelt.1.2.2 spelt.2.1
      spelt.2.2.1 spelt.2.2.2).quotes.symm
  simp only [emphasisedBody, emphasis, headings]
  rw [stars _ (by decide), stars _ (by decide),
    stars _ (by decide), heading _ (by decide),
    heading _ (by decide), heading _ (by decide),
    heading _ (by decide), heading _ (by decide),
    heading _ (by decide)]
  exact (escaped_reshaped markdown).quotes.symm

end Markdown

end AimailGateway.Email
