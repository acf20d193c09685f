import AimailGateway.Email.MarkdownLines

/-! # Blocks of Markdown

A page is safe, and its lines are converted one by one, exactly if no target of
a link has a quotation mark and the body is a single line or has no heading, list
item or rule.
-/

namespace AimailGateway.Email

open Library Matches

namespace Markdown

variable {text rest : List Char}

/-! ## Blocks alone -/

theorem replaceAll_idle {β : Type} {found : List Char → Option (β × Nat)}
    {render : β → List Char}
    (none : ∀ head ∈ text, ∀ rest, found (head :: rest) = none) :
    replaceAll found render text = text := by
  have kept : replaceAll found render (text ++ []) = text ++ [] :=
    replaceAll_kept fun head tail suffix => by
      rw [List.cons_append]
      exact none head (suffix.subset List.mem_cons_self) (tail ++ [])
  rwa [List.append_nil] at kept

theorem emphasised_plain {stars opening closing : String} {mark : List Char}
    (same : stars.toList = '*' :: mark) (plain : '*' ∉ text) :
    emphasised stars opening closing text = text := by
  refine replaceAll_idle fun head member rest => ?_
  rw [same]
  exact marked_other fun star => plain (star ▸ member)

theorem emphasis_plain (plain : '*' ∉ text) : emphasis text = text := by
  rw [emphasis]
  simp only [emphasised_plain (show "***".toList = '*' :: ['*', '*'] from rfl) plain,
    emphasised_plain (show "**".toList = '*' :: ['*'] from rfl) plain,
    emphasised_plain (show "*".toList = '*' :: [] from rfl) plain]

theorem inline_plain (plain : '[' ∉ text) (plain' : '\x60' ∉ text) :
    codes (links text) = text := by
  have linked : links text = text :=
    replaceAll_idle fun head member rest =>
      linkAt_other fun opens => plain (opens ▸ member)
  rw [linked]
  exact replaceAll_idle fun head member rest =>
    codeAt_other fun tick => plain' (tick ▸ member)

theorem emphasis_star (plain : '*' ∉ strong rest) :
    emphasis ('*' :: ' ' :: rest) = '*' :: ' ' :: strong rest := by
  have several {opening closing : String} (stars : String) {mark rest : List Char}
      (same : stars.toList = '*' :: '*' :: mark) :
      emphasised stars opening closing ('*' :: ' ' :: rest) =
        '*' :: ' ' :: emphasised stars opening closing rest := by
    have none : marked stars.toList ('*' :: ' ' :: rest) = none := by
      rw [marked, same, if_neg]
      intro starts
      rcases List.isPrefixOf_iff_prefix.mp starts with ⟨after, whole⟩
      cases whole
    have first : emphasised stars opening closing ('*' :: ' ' :: rest) =
        '*' :: emphasised stars opening closing (' ' :: rest) := replaceAll_none none
    rw [first, emphasised_other same (by decide)]
  have single : marked "*".toList ('*' :: ' ' :: strong rest) = none := by
    cases found : marked "*".toList ('*' :: ' ' :: strong rest) with
    | none => rfl
    | some both =>
        rcases both with ⟨content, length⟩
        rcases marked_spec found with ⟨_, _, _, after, whole⟩
        have cut : ' ' :: strong rest = content ++ '*' :: after := by
          have shape : "*".toList ++ content ++ "*".toList ++ after =
              '*' :: (content ++ '*' :: after) := by simp
          rw [shape] at whole
          exact (List.cons.inj whole).2
        have member : '*' ∈ ' ' :: strong rest := by
          rw [cut]
          exact List.mem_append_right content List.mem_cons_self
        exact absurd ((List.mem_cons.mp member).resolve_left (by decide)) plain
  have last : emphasised "*" "<em>" "</em>" ('*' :: ' ' :: strong rest) =
      '*' :: emphasised "*" "<em>" "</em>" (' ' :: strong rest) :=
    replaceAll_none single
  have kept : emphasised "*" "<em>" "</em>" (' ' :: strong rest) =
      ' ' :: strong rest := by
    refine emphasised_plain (show "*".toList = '*' :: [] from rfl) ?_
    rw [List.mem_cons, not_or]
    exact ⟨by decide, plain⟩
  rw [emphasis]
  simp only [several "***" (show "***".toList = '*' :: '*' :: ['*'] from rfl),
    several "**" (show "**".toList = '*' :: '*' :: [] from rfl)]
  rw [← kept, ← last]
  rfl

theorem item_starts {marker : String} {markdown : String}
    (plain : '<' ∉ marker.toList) (item : text ≠ [] ∧ '\n' ∉ text)
    (body : inlineBody markdown = marker.toList ++ codes (links text))
    (items : ∀ rest, wholeLine marker.toList (inlineBody markdown) = some rest →
      listItems (inlineBody markdown) = wrap "<li>" "</li>" rest) :
    StartsBlock (blockBody markdown) := by
  have inline := inline_line item.1 item.2
  have found : wholeLine marker.toList (inlineBody markdown) =
      some (codes (links text)) := by
    rw [body]
    exact wholeLine_marker inline.1 inline.2
  refine ⟨'u', "l>".toList ++ wrap "<li>" "</li>" (codes (links text)) ++
    "</ul>".toList, ?_, .inr rfl⟩
  rw [blockBody, items _ found, (run_inlineBody markdown).item plain found, rule,
    if_neg]
  · rfl
  · exact fun dashes => absurd (List.all_eq_true.mp dashes.2 '<' List.mem_cons_self)
      (by decide)

theorem dashed_starts {markdown : String} (found : wholeLine "- ".toList
    (Entities.markdownToHtmlEscape markdown).toList = some rest) :
    StartsBlock (blockBody markdown) := by
  rcases wholeLine_spec found with ⟨same, present, line⟩
  have shape : (Entities.markdownToHtmlEscape markdown).toList = '-' :: ' ' :: rest :=
    same
  refine item_starts (by decide) (emphasis_line present line) ?_
    fun _ once => listItems_dashed once
  rw [inlineBody, emphasisedBody, shape, headings_other (by decide),
    emphasis_other (by decide), emphasis_other (by decide),
    inline_other (by decide), inline_other (by decide)]
  rfl

theorem starred_starts {markdown : String} (found : wholeLine "* ".toList
    (Entities.markdownToHtmlEscape markdown).toList = some rest)
    (plain : '*' ∉ strong rest) : StartsBlock (blockBody markdown) := by
  rcases wholeLine_spec found with ⟨same, present, line⟩
  have shape : (Entities.markdownToHtmlEscape markdown).toList = '*' :: ' ' :: rest :=
    same
  have body : inlineBody markdown = "* ".toList ++ codes (links (strong rest)) := by
    rw [inlineBody, emphasisedBody, shape, headings_other (by decide),
      emphasis_star plain, inline_other (by decide), inline_other (by decide)]
    rfl
  have undashed : wholeLine "- ".toList (inlineBody markdown) = none := by
    rw [body]
    rfl
  exact item_starts (by decide) (strong_line present line) body
    fun _ once => listItems_starred undashed once

theorem inline_dashes (dashes : ∀ character ∈ text, character = '-') :
    codes (links (emphasis (headings text))) = text := by
  have without {character : Char} (apart : character ≠ '-') : character ∉ text :=
    fun member => apart (dashes character member)
  have kept : headings text = text := by
    cases text with
    | nil => rfl
    | cons head tail =>
        refine headings_other ?_
        rw [dashes head List.mem_cons_self]
        decide
  rw [kept, emphasis_plain (without (by decide)),
    inline_plain (without (by decide)) (without (by decide))]

theorem lists_dashes (dashes : ∀ character ∈ text, character = '-') :
    lists (listItems text) = text := by
  have unmarked {marker : String} (blank : ' ' ∈ marker.toList) :
      wholeLine marker.toList text = none := by
    cases found : wholeLine marker.toList text with
    | none => rfl
    | some rest =>
        have member : ' ' ∈ text := by
          rw [(wholeLine_spec found).1]
          exact List.mem_append_left rest blank
        exact absurd (dashes ' ' member) (by decide)
  rw [listItems_none (unmarked (by decide)) (unmarked (by decide))]
  refine replaceAll_idle fun head member rest => itemsAt_apart (head_apart ?_)
  rw [dashes head member]
  decide

theorem rule_starts {markdown : String}
    (long : 3 ≤ (Entities.markdownToHtmlEscape markdown).toList.length)
    (dashes : (Entities.markdownToHtmlEscape markdown).toList.all (· == '-') = true) :
    StartsBlock (blockBody markdown) := by
  have each (character : Char) (member : character ∈
      (Entities.markdownToHtmlEscape markdown).toList) : character = '-' := by
    simpa using List.all_eq_true.mp dashes character member
  refine ⟨'h', "r>".toList, ?_, .inl rfl⟩
  rw [blockBody, inlineBody, emphasisedBody, inline_dashes each, lists_dashes each,
    rule, if_pos ⟨long, dashes⟩]
  rfl

theorem block_starts {line : String} (block : isBlockLine line = true) :
    StartsBlock (markdownToHtml line).toList := by
  simp only [isBlockLine, Bool.or_eq_true] at block
  refine StartsBlock.finish ?_
  rcases block with ((heading | dashed) | starred) | dashes
  · exact (headings_block (List.any_eq_true.mp heading)).inline.lists
  · rcases Option.isSome_iff_exists.mp dashed with ⟨rest, found⟩
    exact dashed_starts found
  · cases found : wholeLine "* ".toList (Entities.markdownToHtmlEscape line).toList with
    | none =>
        rw [found] at starred
        cases starred
    | some rest =>
        rw [found] at starred
        exact starred_starts found (by simpa using starred)
  · rw [Bool.and_eq_true, decide_eq_true_eq] at dashes
    exact rule_starts dashes.1 dashes.2

/-! ## Blocks among other lines -/

/-- The part is some of the lines of the whole. -/
def StandsIn (part whole : List Char) : Prop :=
  ∃ before after, whole = before ++ part ++ after ∧
    (before = [] ∨ before.getLast? = some '\n') ∧
    (after = [] ∨ after.head? = some '\n')

/-- Headings, list items and rules are converted as they are when they are the
whole body. -/
def LineWise (markdown : String) : Prop :=
  ∀ line ∈ Text.lines markdown, isBlockLine line = true →
    StandsIn (markdownToHtml line).toList (markdownToHtml markdown).toList

theorem lines_single {markdown line : String} (single : '\n' ∉ markdown.toList)
    (listed : line ∈ Text.lines markdown) : line = markdown := by
  rw [Text.lines, List.splitOn_eq_singleton single] at listed
  rcases List.mem_map.mp listed with ⟨written, member, same⟩
  have whole : written = markdown.toList := by
    simpa using (Option.mem_toList.mp member |> Option.mem_filter_iff.mp).1.symm
  rw [← same, whole, String.ofList_toList]

theorem lineWise_single {markdown : String} (single : '\n' ∉ markdown.toList) :
    LineWise markdown := by
  intro line listed _
  rw [lines_single single listed]
  refine ⟨[], [], ?_, .inl rfl, .inl rfl⟩
  rw [List.nil_append, List.append_nil]

theorem several_unblocked {markdown line : String} (several : '\n' ∈ markdown.toList)
    (block : isBlockLine line = true) :
    ¬ StandsIn (markdownToHtml line).toList (markdownToHtml markdown).toList := by
  rintro ⟨before, after, whole, _⟩
  rcases block_starts block with ⟨second, rest, starts, kind⟩
  rcases run_several several with ⟨quoted, run⟩
  have inside : hasBlock (markdownToHtml markdown).toList = true := by
    rw [whole, starts, List.append_assoc]
    exact hasBlock_within kind
  rw [run.blockless blockless_several] at inside
  cases inside

theorem lineWise_iff (markdown : String) :
    LineWise markdown ↔ '\n' ∉ markdown.toList ∨
      ∀ line ∈ Text.lines markdown, isBlockLine line = false := by
  constructor
  · intro lineWise
    by_cases several : '\n' ∈ markdown.toList
    · refine .inr fun line listed => ?_
      by_contra block
      rw [Bool.not_eq_false] at block
      exact several_unblocked several block (lineWise line listed block)
    · exact .inl several
  · rintro (single | blockless)
    · exact lineWise_single single
    · intro line listed block
      rw [blockless line listed] at block
      cases block

/-- A page is safe and converted line by line under this condition only. -/
theorem safe_and_lineWise_iff (markdown : String) :
    (∀ raw ∈ tagsOf (markdownToHtml markdown), OwnTag raw) ∧ LineWise markdown ↔
      quotesTarget markdown.toList = false ∧ ('\n' ∉ markdown.toList ∨
        ∀ line ∈ Text.lines markdown, isBlockLine line = false) := by
  rw [own_iff, quotesTarget_body, lineWise_iff]

/-- A quotation mark in a target opens an attribute. -/
theorem target_event_handler : ¬ ∀ markdown : String,
    (∀ raw ∈ tagsOf (markdownToHtml markdown), OwnTag raw) ∧ LineWise markdown := by
  intro every
  have body (markdown : String) : quotesTarget markdown.toList = false := by
    rw [← quotesTarget_body]
    exact (own_iff markdown).mp (every markdown).1
  have quoted : quotesTarget "[x](\" onmouseover=\"y)".toList = true := by
    decide +kernel
  rw [body] at quoted
  cases quoted

end Markdown

end AimailGateway.Email
