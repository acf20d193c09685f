import AimailGateway.Email.Markdown

/-! # The tags of converted Markdown

The text between two passes is read as a run over characters and tags, in which
only the target of a link is more than a tag. Every pass keeps such a run, and
what a reader of the page takes for a tag is one of those the passes write.
-/

namespace AimailGateway.Email

open Library Matches

namespace Markdown

/-! ## Runs -/

/-- Outside of tags, or in the target of a link. -/
inductive Mode where
  | text
  | target
  deriving DecidableEq

/-- Tags without attributes, as they are written. -/
def isTag (tag : String) : Bool :=
  tag.toList.head? == some '<' && tag.toList.getLast? == some '>' &&
    ((tag.toList.drop 1).dropLast.all fun character =>
      character != '<' && character != '>' && character != '"')

def linkStart : List Char := "<a href=\"".toList

def linkEnd : List Char := "\">".toList

/-- A text read from one mode to another, over the given tags, with links or
without. The flag tells whether a quotation mark was read in a target. -/
inductive Run (tags : List String) (linked : Bool) :
    Bool → Mode → List Char → Mode → Prop
  | done (mode : Mode) : Run tags linked false mode [] mode
  | text {quoted : Bool} {rest : List Char} {last : Mode} (head : Char)
      (plain : head ≠ '<' ∧ head ≠ '>')
      (run : Run tags linked quoted .text rest last) :
      Run tags linked quoted .text (head :: rest) last
  | target {quoted : Bool} {rest : List Char} {last : Mode} (head : Char)
      (plain : head ≠ '<' ∧ head ≠ '>')
      (run : Run tags linked quoted .target rest last) :
      Run tags linked (head == '"' || quoted) .target (head :: rest) last
  | tag {quoted : Bool} {mode last : Mode} {rest : List Char} (tag : String)
      (listed : tag ∈ tags) (run : Run tags linked quoted mode rest last) :
      Run tags linked quoted mode (tag.toList ++ rest) last
  | opens {quoted : Bool} {rest : List Char} {last : Mode} (links : linked = true)
      (run : Run tags linked quoted .target rest last) :
      Run tags linked quoted .text (linkStart ++ rest) last
  | closes {quoted : Bool} {rest : List Char} {last : Mode}
      (run : Run tags linked quoted .text rest last) :
      Run tags linked quoted .target (linkEnd ++ rest) last

variable {tags : List String} {linked quoted : Bool} {mode last : Mode}
  {text rest : List Char}

theorem Run.append {middle : Mode} {quoted' : Bool} {first second : List Char}
    (left : Run tags linked quoted mode first middle)
    (right : Run tags linked quoted' middle second last) :
    Run tags linked (quoted || quoted') mode (first ++ second) last := by
  induction left with
  | done _ => exact right
  | text head plain _ induction => exact .text head plain (induction right)
  | target head plain _ induction =>
      rw [Bool.or_assoc]
      exact .target head plain (induction right)
  | tag tag listed _ induction =>
      rw [List.append_assoc]
      exact .tag tag listed (induction right)
  | opens links _ induction =>
      rw [List.append_assoc]
      exact .opens links (induction right)
  | closes _ induction =>
      rw [List.append_assoc]
      exact .closes (induction right)

theorem Run.mono {others : List String} {linked' : Bool}
    (run : Run tags linked quoted mode text last)
    (wider : ∀ tag ∈ tags, tag ∈ others) (links : linked = true → linked' = true) :
    Run others linked' quoted mode text last := by
  induction run with
  | done mode => exact .done mode
  | text head plain _ induction => exact .text head plain induction
  | target head plain _ induction => exact .target head plain induction
  | tag tag listed _ induction => exact .tag tag (wider tag listed) induction
  | opens linking _ induction => exact .opens (links linking) induction
  | closes _ induction => exact .closes induction

/-- A character that no tag is written with. -/
def Quiet (tags : List String) (mark : Char) : Prop :=
  mark ∉ ['<', '>', '"'] ∧ mark ∉ linkStart ∧ ∀ tag ∈ tags, mark ∉ tag.toList

instance (tags : List String) (mark : Char) : Decidable (Quiet tags mark) :=
  inferInstanceAs (Decidable (_ ∧ _ ∧ _))

theorem Quiet.linkEnd {mark : Char} (quiet : Quiet tags mark) :
    mark ∉ linkEnd := by
  have ends := quiet.1
  simp only [Markdown.linkEnd, List.mem_cons, List.not_mem_nil, or_false, not_or] at ends ⊢
  simp_all

theorem cut_behind {token text first second : List Char} {mark : Char}
    (quiet : mark ∉ token) (same : token ++ text = first ++ mark :: second) :
    ∃ between, first = token ++ between ∧ text = between ++ mark :: second := by
  rcases List.append_eq_append_iff.mp same with
    ⟨between, front, back⟩ | ⟨between, front, back⟩
  · exact ⟨between, front, back⟩
  · cases between with
    | nil => exact ⟨[], by simpa using front.symm, by simpa using back.symm⟩
    | cons head tail =>
        rw [List.cons_append, List.cons.injEq] at back
        rw [front, ← back.1] at quiet
        exact absurd (List.mem_append_right _ List.mem_cons_self) quiet

theorem Run.cut {mark : Char} {first second : List Char}
    (run : Run tags linked quoted mode (first ++ mark :: second) last)
    (quiet : Quiet tags mark) :
    ∃ left right middle, quoted = (left || right) ∧
      Run tags linked left mode first middle ∧
      Run tags linked right middle second last := by
  have unquoted : (mark == '"') = false := by
    have ends := quiet.1
    simp only [List.mem_cons, List.not_mem_nil, or_false, not_or] at ends
    exact beq_false_of_ne ends.2.2
  generalize whole : first ++ mark :: second = text at run
  induction run generalizing first with
  | done mode => exact absurd whole (by simp)
  | @text quoted rest last head plain run induction =>
      cases first with
      | nil =>
          cases whole
          exact ⟨false, quoted, .text, rfl, .done _, run⟩
      | cons other tail =>
          cases whole
          rcases induction rfl with ⟨left, right, middle, same, early, late⟩
          exact ⟨left, right, middle, same, .text head plain early, late⟩
  | @target quoted rest last head plain run induction =>
      cases first with
      | nil =>
          cases whole
          rw [unquoted]
          exact ⟨false, quoted, .target, rfl, .done _, run⟩
      | cons other tail =>
          cases whole
          rcases induction rfl with ⟨left, right, middle, same, early, late⟩
          rw [same, ← Bool.or_assoc]
          exact ⟨_, right, middle, rfl, .target head plain early, late⟩
  | tag tag listed run induction =>
      rcases cut_behind (quiet.2.2 tag listed) whole.symm with ⟨between, front, back⟩
      rcases induction back.symm with ⟨left, right, middle, same, early, late⟩
      rw [front]
      exact ⟨left, right, middle, same, .tag tag listed early, late⟩
  | opens links run induction =>
      rcases cut_behind quiet.2.1 whole.symm with ⟨between, front, back⟩
      rcases induction back.symm with ⟨left, right, middle, same, early, late⟩
      rw [front]
      exact ⟨left, right, middle, same, .opens links early, late⟩
  | closes run induction =>
      rcases cut_behind quiet.linkEnd whole.symm with ⟨between, front, back⟩
      rcases induction back.symm with ⟨left, right, middle, same, early, late⟩
      rw [front]
      exact ⟨left, right, middle, same, .closes early, late⟩

/-! ## Characters that are spelt anew -/

/-- Some of the marks are written as one of the spellings. -/
inductive Respelt (mark : Char) (spellings : List (List Char)) :
    List Char → List Char → Prop
  | done : Respelt mark spellings [] []
  | keep {rest out : List Char} (head : Char) (tail : Respelt mark spellings rest out) :
      Respelt mark spellings (head :: rest) (head :: out)
  | spell {rest out : List Char} (spelling : List Char) (listed : spelling ∈ spellings)
      (tail : Respelt mark spellings rest out) :
      Respelt mark spellings (mark :: rest) (spelling ++ out)

variable {mark : Char} {spellings : List (List Char)}
  {first second third : Char} {inner : List Char}

theorem Respelt.kept {out : List Char} (kept : List Char)
    (tail : Respelt mark spellings rest out) :
    Respelt mark spellings (kept ++ rest) (kept ++ out) := by
  induction kept with
  | nil => exact tail
  | cons head _ induction => exact .keep head induction

theorem Respelt.of_quiet {kept out : List Char} (quiet : mark ∉ kept)
    (respelt : Respelt mark spellings (kept ++ rest) out) :
    ∃ out', out = kept ++ out' ∧ Respelt mark spellings rest out' := by
  induction kept generalizing out with
  | nil => exact ⟨out, rfl, respelt⟩
  | cons head tail induction =>
      rw [List.mem_cons, not_or] at quiet
      rw [List.cons_append] at respelt
      cases respelt with
      | keep _ later =>
          rcases induction quiet.2 later with ⟨out', same, others⟩
          exact ⟨out', by rw [same, List.cons_append], others⟩
      | spell => exact absurd rfl quiet.1

theorem Run.respell {out : List Char} (run : Run tags linked quoted mode text last)
    (quiet : Quiet tags mark)
    (runs : ∀ spelling ∈ spellings, ∀ mode, Run tags linked false mode spelling mode)
    (respelt : Respelt mark spellings text out) :
    Run tags linked quoted mode out last := by
  have unquoted : (mark == '"') = false := by
    have ends := quiet.1
    simp only [List.mem_cons, List.not_mem_nil, or_false, not_or] at ends
    exact beq_false_of_ne ends.2.2
  induction run generalizing out with
  | done mode =>
      cases respelt
      exact .done mode
  | text head plain _ induction =>
      cases respelt with
      | keep _ tail => exact .text head plain (induction tail)
      | spell spelling listed tail =>
          exact (runs spelling listed .text).append (induction tail)
  | target head plain _ induction =>
      cases respelt with
      | keep _ tail => exact .target head plain (induction tail)
      | spell spelling listed tail =>
          rw [unquoted]
          exact (runs spelling listed .target).append (induction tail)
  | tag tag listed _ induction =>
      rcases respelt.of_quiet (quiet.2.2 tag listed) with ⟨out', same, tail⟩
      rw [same]
      exact .tag tag listed (induction tail)
  | opens links _ induction =>
      rcases respelt.of_quiet quiet.2.1 with ⟨out', same, tail⟩
      rw [same]
      exact .opens links (induction tail)
  | closes _ induction =>
      rcases respelt.of_quiet quiet.linkEnd with ⟨out', same, tail⟩
      rw [same]
      exact .closes (induction tail)

/-! ## What the patterns match -/

theorem lazyUntil_spec {mark : List Char} : ∀ {text content : List Char},
    lazyUntil mark text = some content →
      content ≠ [] ∧ '\n' ∉ content ∧ ∃ rest, text = content ++ mark ++ rest
  | [], _, found => by cases found
  | head :: rest, content, found => by
      rw [lazyUntil] at found
      split at found
      · cases found
      · next inside =>
          have apart : '\n' ≠ head := fun same => inside same.symm
          split at found
          · next ends =>
              cases found
              rcases List.isPrefixOf_iff_prefix.mp ends with ⟨after, same⟩
              refine ⟨List.cons_ne_nil _ _, ?_, after, ?_⟩
              · simpa using apart
              · rw [← same]
                rfl
          · rcases Option.map_eq_some_iff.mp found with ⟨tail, later, same⟩
            rcases lazyUntil_spec later with ⟨_, plain, after, cut⟩
            rw [← same]
            refine ⟨List.cons_ne_nil _ _, ?_, after, ?_⟩
            · rw [List.mem_cons, not_or]
              exact ⟨apart, plain⟩
            · rw [cut]
              rfl

theorem marked_spec {mark text content : List Char} {length : Nat}
    (found : marked mark text = some (content, length)) :
    content ≠ [] ∧ '\n' ∉ content ∧
      length = (mark ++ content ++ mark).length ∧
      ∃ rest, text = mark ++ content ++ mark ++ rest := by
  rw [marked] at found
  split at found
  · next starts =>
      rcases List.isPrefixOf_iff_prefix.mp starts with ⟨inner, same⟩
      rw [← same, List.drop_left] at found
      rcases Option.map_eq_some_iff.mp found with ⟨taken, inside, both⟩
      rcases Prod.mk.inj both with ⟨same', size⟩
      rw [same'] at inside size
      rcases lazyUntil_spec inside with ⟨some, plain, rest, cut⟩
      refine ⟨some, plain, ?_, rest, ?_⟩
      · rw [← size, List.length_append, List.length_append]
      · rw [← same, cut]
        simp only [List.append_assoc]
  · cases found

theorem takeWhile_until {mark : Char} {text : List Char} (rest : List Char)
    (plain : mark ∉ text) :
    (text ++ mark :: rest).takeWhile (· != mark) = text ∧
      (text ++ mark :: rest).dropWhile (· != mark) = mark :: rest := by
  induction text with
  | nil => simp
  | cons head tail induction =>
      rw [List.mem_cons, not_or] at plain
      have apart : (head != mark) = true := bne_iff_ne.mpr fun same => plain.1 same.symm
      rw [List.cons_append, List.takeWhile_cons, List.dropWhile_cons, apart]
      simp only [if_true, (induction plain.2).1, (induction plain.2).2, and_self]

theorem cut_at {mark : Char} {text : List Char} (listed : mark ∈ text) :
    ∃ before after, text = before ++ mark :: after ∧ mark ∉ before := by
  induction text with
  | nil => exact absurd listed List.not_mem_nil
  | cons head tail induction =>
      by_cases here : mark = head
      · exact ⟨[], tail, by rw [here]; rfl, List.not_mem_nil⟩
      · rcases induction ((List.mem_cons.mp listed).resolve_left here) with
          ⟨before, after, same, plain⟩
        refine ⟨head :: before, after, by rw [same]; rfl, ?_⟩
        rw [List.mem_cons, not_or]
        exact ⟨here, plain⟩

theorem codeAt_spec {text content : List Char} {length : Nat}
    (found : codeAt text = some (content, length)) :
    content ≠ [] ∧ length = ('\x60' :: content ++ ['\x60']).length ∧
      ∃ rest, text = '\x60' :: content ++ ['\x60'] ++ rest := by
  cases text with
  | nil => cases found
  | cons head text =>
      simp only [codeAt] at found
      split at found
      · cases found
      · next shape =>
          simp only [Bool.or_eq_true, not_or, bne_iff_ne, ne_eq, not_not,
            List.isEmpty_iff, Bool.not_eq_true', Bool.not_eq_false,
            List.contains_iff_mem] at shape
          rcases shape with ⟨⟨same, some⟩, closed⟩
          rcases cut_at closed with ⟨inner, rest, cut, plain⟩
          have first := (takeWhile_until rest plain).1
          rw [cut, first] at found some
          cases found
          refine ⟨some, by simp, rest, ?_⟩
          rw [same, cut]
          simp

structure IsLink (content target rest text : List Char) : Prop where
  whole : text = '[' :: content ++ ']' :: '(' :: target ++ ')' :: rest
  inside : ']' ∉ content
  within : ')' ∉ target
  named : content ≠ []
  aimed : target ≠ []

theorem linkAt_of_isLink {content target rest text : List Char}
    (link : IsLink content target rest text) :
    linkAt text = some ((content, target), content.length + target.length + 4) := by
  have first := takeWhile_until ('(' :: target ++ ')' :: rest) link.inside
  have second := takeWhile_until rest link.within
  have shape : text = '[' :: (content ++ ']' :: '(' :: (target ++ ')' :: rest)) := by
    rw [link.whole]
    simp
  have first' : (content ++ ']' :: '(' :: (target ++ ')' :: rest)).takeWhile
      (· != ']') = content ∧ (content ++ ']' :: '(' :: (target ++ ')' :: rest)).dropWhile
      (· != ']') = ']' :: '(' :: (target ++ ')' :: rest) := first
  rw [shape]
  simp only [linkAt, first'.1, first'.2, second.1]
  rw [if_neg]
  simp [link.named, link.aimed]

theorem isLink_of_linkAt {content target text : List Char} {length : Nat}
    (found : linkAt text = some ((content, target), length)) :
    length = content.length + target.length + 4 ∧
      ∃ rest, IsLink content target rest text := by
  cases text with
  | nil => cases found
  | cons head text =>
      by_cases opens : head = '['
      · rw [opens] at found ⊢
        by_cases closed : ']' ∈ text
        · rcases cut_at closed with ⟨inner, after, same, plain⟩
          have cut := takeWhile_until after plain
          rw [same] at found ⊢
          cases after with
          | nil =>
              simp only [linkAt, cut.2] at found
              cases found
          | cons second after =>
              by_cases aims : second = '('
              · rw [aims] at found cut ⊢
                simp only [linkAt, cut.1, cut.2] at found
                split at found
                · cases found
                · next shape =>
                    simp only [Bool.or_eq_true, not_or, List.isEmpty_iff,
                      Bool.not_eq_true', Bool.not_eq_false,
                      List.contains_iff_mem] at shape
                    rcases shape with ⟨⟨named, aimed⟩, ends⟩
                    rcases cut_at ends with ⟨goal, rest, same', plain'⟩
                    have cut' := takeWhile_until rest plain'
                    rw [same', cut'.1] at found aimed
                    cases found
                    refine ⟨rfl, rest, ?_, plain, plain', named, aimed⟩
                    rw [same']
                    simp
              · have none : linkAt ('[' :: (inner ++ ']' :: second :: after)) =
                    none := by
                  simp only [linkAt, cut.1, cut.2]
                  split
                  · next other => simp_all
                  · rfl
                rw [none] at found
                cases found
        · have none : text.dropWhile (· != ']') = [] := by
            rw [List.dropWhile_eq_nil_iff]
            intro character listed
            rw [bne_iff_ne]
            exact fun same => closed (same ▸ listed)
          simp only [linkAt, none] at found
          cases found
      · have none : linkAt (head :: text) = none := by
          rw [linkAt]
          intro other same
          exact opens (List.cons.inj same).1
        rw [none] at found
        cases found

/-! ## Passes over a run -/

theorem Respelt.marks {spelling out : List Char} (count : Nat)
    (listed : spelling ∈ spellings) (nothing : [] ∈ spellings)
    (tail : Respelt mark spellings rest out) :
    Respelt mark spellings (List.replicate (count + 1) mark ++ rest)
      (spelling ++ out) := by
  have dropped : ∀ count, Respelt mark spellings
      (List.replicate count mark ++ rest) out := by
    intro count
    induction count with
    | zero => exact tail
    | succ count induction => exact .spell [] nothing induction
  exact .spell spelling listed (dropped count)

theorem fits_marked {mark : List Char} (some : mark ≠ []) : Fits (marked mark) := by
  intro text content length found
  rcases marked_spec found with ⟨_, _, size, rest, same⟩
  have positive := List.length_pos_iff.mpr some
  rw [size, same]
  simp only [List.length_append]
  omega

theorem fits_codeAt : Fits codeAt := by
  intro text content length found
  rcases codeAt_spec found with ⟨_, size, rest, same⟩
  rw [size, same]
  simp only [List.length_append, List.length_cons]
  omega

theorem fits_linkAt : Fits linkAt := by
  rintro text ⟨content, target⟩ length found
  rcases isLink_of_linkAt found with ⟨size, rest, link⟩
  rw [size, link.whole]
  simp only [List.length_append, List.length_cons]
  omega

theorem newlinesAt_spec {length : Nat} (found : newlinesAt text = some ((), length)) :
    3 ≤ length ∧ ∃ rest, text = List.replicate length '\n' ++ rest := by
  simp only [newlinesAt] at found
  split at found
  · next enough =>
      cases found
      refine ⟨enough, text.dropWhile (· == '\n'), ?_⟩
      have all : text.takeWhile (· == '\n') = List.replicate
          (text.takeWhile (· == '\n')).length '\n' := by
        rw [List.eq_replicate_iff]
        refine ⟨rfl, fun character listed => ?_⟩
        have here := List.mem_takeWhile_imp listed
        simpa using here
      rw [← all, List.takeWhile_append_dropWhile]
  · cases found

theorem fits_newlinesAt : Fits newlinesAt := by
  intro text _ length found
  rcases newlinesAt_spec found with ⟨enough, rest, same⟩
  rw [same, List.length_append, List.length_replicate]
  omega

theorem emphasised_respelt {stars opening closing : String} (count : Nat)
    (same : stars.toList = List.replicate (count + 1) '*') (text : List Char) :
    Respelt '*' [opening.toList, closing.toList, []] text
      (emphasised stars opening closing text) := by
  have present : stars.toList ≠ [] := by
    rw [same]
    exact List.cons_ne_nil _ _
  refine replaceAll_induction (motive := Respelt '*' [opening.toList,
    closing.toList, []]) (fits_marked present) .done ?_ ?_ text
  · exact fun head rest out _ tail => .keep head tail
  · intro passed rest content out _ found tail
    rcases marked_spec found with ⟨_, _, size, after, whole⟩
    rcases List.append_inj whole size with ⟨cut, later⟩
    have inner : Respelt '*' [opening.toList, closing.toList, []]
        (List.replicate (count + 1) '*' ++ rest) (closing.toList ++ out) :=
      tail.marks count (by simp) (by simp)
    have outer := (inner.kept content).marks count
      (show opening.toList ∈ [opening.toList, closing.toList, []] by simp) (by simp)
    rw [cut, same, wrap]
    simpa only [List.append_assoc] using outer

theorem codes_respelt (text : List Char) :
    Respelt '\x60' ["<code>".toList, "</code>".toList] text (codes text) := by
  refine replaceAll_induction (motive := Respelt '\x60' ["<code>".toList,
    "</code>".toList]) fits_codeAt .done ?_ ?_ text
  · exact fun head rest out _ tail => .keep head tail
  · intro passed rest content out _ found tail
    rcases codeAt_spec found with ⟨_, size, after, whole⟩
    rcases List.append_inj whole size with ⟨cut, later⟩
    have inner : Respelt '\x60' ["<code>".toList, "</code>".toList]
        ('\x60' :: rest) ("</code>".toList ++ out) := .spell _ (by simp) tail
    have outer : Respelt '\x60' ["<code>".toList, "</code>".toList]
        ('\x60' :: (content ++ '\x60' :: rest))
        ("<code>".toList ++ (content ++ ("</code>".toList ++ out))) :=
      .spell _ (by simp) (inner.kept content)
    rw [cut, wrap]
    simpa only [List.append_assoc, List.cons_append, List.nil_append] using outer

theorem collapse_respelt (text : List Char) :
    Respelt '\n' [[]] text (collapse text) := by
  refine replaceAll_induction (motive := Respelt '\n' [[]]) fits_newlinesAt .done
    ?_ ?_ text
  · exact fun head rest out _ tail => .keep head tail
  · intro passed rest _ out _ found tail
    rcases newlinesAt_spec found with ⟨enough, after, whole⟩
    have size : passed.length = (List.replicate passed.length '\n').length := by
      rw [List.length_replicate]
    rcases List.append_inj whole size with ⟨cut, later⟩
    rcases Nat.exists_eq_add_of_le enough with ⟨more, count⟩
    rw [cut, count, show 3 + more = more + 1 + 1 + 1 by omega]
    have dropped : Respelt '\n' [[]] (List.replicate (more + 1) '\n' ++ rest)
        ([] ++ out) := tail.marks more (by simp) (by simp)
    exact .keep '\n' (.keep '\n' dropped)

def Formed (tags : List String) : Prop := ∀ tag ∈ tags, isTag tag = true

theorem Formed.head (formed : Formed tags) {tag : String} (listed : tag ∈ tags) :
    ∃ inner, tag.toList = '<' :: inner := by
  have shape := formed tag listed
  simp only [isTag, Bool.and_eq_true, beq_iff_eq] at shape
  exact List.head?_eq_some_iff.mp shape.1.1

theorem Run.tail {head : Char} (formed : Formed tags)
    (run : Run tags linked quoted .text (head :: rest) last) (plain : head ≠ '<') :
    Run tags linked quoted .text rest last := by
  generalize whole : head :: rest = text at run
  generalize start : Mode.text = mode at run
  cases run with
  | done => cases whole
  | text _ _ run =>
      cases whole
      exact run
  | target => cases start
  | tag tag listed run =>
      rcases formed.head listed with ⟨inner, same⟩
      rw [same] at whole
      cases whole
      exact absurd rfl plain
  | opens links run =>
      cases whole
      exact absurd rfl plain
  | closes => cases start

theorem Run.dropped {marker : List Char} (formed : Formed tags)
    (run : Run tags linked quoted .text (marker ++ rest) last)
    (plain : '<' ∉ marker) : Run tags linked quoted .text rest last := by
  induction marker with
  | nil => exact run
  | cons head tail induction =>
      rw [List.mem_cons, not_or] at plain
      exact induction (run.tail formed fun same => plain.1 same.symm) plain.2

theorem wholeLine_spec {marker : List Char} (found : wholeLine marker text = some rest) :
    text = marker ++ rest ∧ rest ≠ [] ∧ '\n' ∉ rest := by
  simp only [wholeLine] at found
  split at found
  · next shape =>
      simp only [Bool.and_eq_true, Bool.not_eq_true', ← Bool.not_eq_true,
        List.contains_iff_mem] at shape
      rcases shape with ⟨⟨starts, some⟩, line⟩
      rcases List.isPrefixOf_iff_prefix.mp starts with ⟨after, same⟩
      rw [← same, List.drop_left] at found some line
      cases found
      refine ⟨same.symm, fun none => some ?_, line⟩
      rw [none]
      rfl
  · cases found

theorem Run.wrapped {opening closing : String}
    (run : Run tags linked quoted mode text last) (opens : opening ∈ tags)
    (closes : closing ∈ tags) :
    Run tags linked quoted mode (wrap opening closing text) last := by
  have ending : Run tags linked false last (closing.toList ++ []) last :=
    .tag closing closes (.done last)
  have inner := run.append ending
  rw [List.append_nil, Bool.or_false] at inner
  rw [wrap, List.append_assoc]
  exact .tag opening opens inner

theorem Run.lineAs {marker opening closing : String} (formed : Formed tags)
    (run : Run tags linked quoted .text text last) (plain : '<' ∉ marker.toList)
    (opens : opening ∈ tags) (closes : closing ∈ tags) :
    Run tags linked quoted .text (lineAs marker opening closing text) last := by
  rw [Markdown.lineAs]
  split
  · next rest found =>
      rw [(wholeLine_spec found).1] at run
      exact (run.dropped formed plain).wrapped opens closes
  · exact run

/-! ## Links -/

def quotesTarget (text : List Char) : Bool :=
  (pieces linkAt text).any (Sum.elim (fun _ => false) fun link =>
    link.2.contains '"')

/-- How the pass for links rewrites a text. -/
inductive Linked : Bool → List Char → List Char → Prop
  | done : Linked false [] []
  | keep {quoted : Bool} {rest out : List Char} (head : Char)
      (tail : Linked quoted rest out) : Linked quoted (head :: rest) (head :: out)
  | link {quoted : Bool} {content target rest text out : List Char}
      (link : IsLink content target rest text) (tail : Linked quoted rest out) :
      Linked (target.contains '"' || quoted) text (anchor (content, target) ++ out)

theorem links_linked (text : List Char) :
    Linked (quotesTarget text) text (links text) := by
  refine pieces_induction (motive := fun text out => Linked
    (out.any (Sum.elim (fun _ => false) fun link => link.2.contains '"')) text
    (out.flatMap (Sum.elim (fun character => [character]) anchor)))
    fits_linkAt .done ?_ ?_ text
  · exact fun head rest out _ tail => .keep head tail
  · rintro passed rest ⟨content, target⟩ out _ found tail
    rcases isLink_of_linkAt found with ⟨size, after, link⟩
    have whole := link.whole
    have cut : passed ++ rest = ('[' :: content ++ ']' :: '(' :: target ++ [')']) ++
        after := by
      rw [whole]
      simp
    have same := (List.append_inj cut (by
      rw [size]
      simp only [List.length_append, List.length_cons, List.length_nil]
      omega)).2
    rw [← same] at link
    exact .link link tail

theorem Linked.of_quiet {kept out : List Char} (quiet : '[' ∉ kept)
    (linking : Linked quoted (kept ++ rest) out) :
    ∃ out', out = kept ++ out' ∧ Linked quoted rest out' := by
  induction kept generalizing out with
  | nil => exact ⟨out, rfl, linking⟩
  | cons head tail induction =>
      rw [List.mem_cons, not_or] at quiet
      rw [List.cons_append] at linking
      generalize whole : head :: (tail ++ rest) = text at linking
      cases linking with
      | done => cases whole
      | keep _ later =>
          cases whole
          rcases induction quiet.2 later with ⟨out', same, others⟩
          exact ⟨out', by rw [same, List.cons_append], others⟩
      | link link later =>
          have start := whole.trans link.whole
          rw [List.append_assoc, List.cons_append] at start
          exact absurd (List.cons.inj start).1.symm quiet.1

theorem Run.unlinked (run : Run tags false quoted mode text last)
    (outside : mode = .text) : last = .text ∧ quoted = false := by
  induction run with
  | done mode => exact ⟨outside, rfl⟩
  | text _ _ _ induction => exact induction rfl
  | target => cases outside
  | tag _ _ _ induction => exact induction outside
  | opens links => cases links
  | closes => cases outside

theorem Formed.unquoted (formed : Formed tags) {tag : String} (listed : tag ∈ tags) :
    '"' ∉ tag.toList := by
  have shape := formed tag listed
  simp only [isTag, Bool.and_eq_true, beq_iff_eq, List.all_eq_true, bne_iff_ne,
    ne_eq] at shape
  rcases shape with ⟨⟨first, ending⟩, inner⟩
  rcases List.head?_eq_some_iff.mp first with ⟨tail, same⟩
  rw [same] at ending inner ⊢
  rw [List.drop_one, List.tail_cons] at inner
  rw [List.mem_cons, not_or]
  refine ⟨by decide, fun member => ?_⟩
  rcases List.eq_nil_or_concat tail with none | ⟨start, final, cut⟩
  · rw [none] at member
    exact absurd member List.not_mem_nil
  · rw [cut, List.concat_eq_append] at inner member ending
    rw [List.dropLast_concat] at inner
    rcases List.mem_append.mp member with early | late
    · exact (inner '"' early).2 rfl
    · rw [← List.cons_append, List.getLast?_concat] at ending
      rw [← List.mem_singleton.mp late] at ending
      cases ending

theorem Run.toTarget (formed : Formed tags)
    (run : Run tags false quoted mode text last) (outside : mode = .text) :
    Run tags true (text.contains '"') .target text .target := by
  induction run with
  | done mode => exact .done .target
  | @text quoted rest last head plain _ induction =>
      have step := Run.target head plain (induction rfl)
      have same : (head :: rest).contains '"' =
          (head == '"' || rest.contains '"') := by
        rw [List.contains_cons]
        congr 1
        exact Bool.beq_comm
      rw [same]
      exact step
  | target => cases outside
  | @tag quoted mode last rest tag listed _ induction =>
      have none := formed.unquoted listed
      have same : (tag.toList ++ rest).contains '"' = rest.contains '"' := by
        rw [Bool.eq_iff_iff, List.contains_iff_mem, List.contains_iff_mem,
          List.mem_append]
        exact ⟨fun member => member.resolve_left none, .inr⟩
      rw [same]
      exact .tag tag listed (induction outside)
  | opens links => cases links
  | closes => cases outside

theorem Run.single (closing : String) (listed : closing ∈ tags) (mode : Mode) :
    Run tags linked false mode closing.toList mode := by
  have run : Run tags linked false mode (closing.toList ++ []) mode :=
    .tag closing listed (.done mode)
  rwa [List.append_nil] at run

theorem anchor_append (link : List Char × List Char) (out : List Char) :
    anchor link ++ out = linkStart ++ (link.2 ++ (linkEnd ++ (link.1 ++
      ("</a>".toList ++ out)))) := by
  have shape : anchor link =
      linkStart ++ link.2 ++ linkEnd ++ link.1 ++ "</a>".toList := rfl
  rw [shape, List.append_assoc, List.append_assoc, List.append_assoc,
    List.append_assoc]

theorem Run.links (formed : Formed tags) (closes : "</a>" ∈ tags)
    (quiet : ∀ mark ∈ ['[', ']', '(', ')'], Quiet tags mark) {out : List Char}
    {flag : Bool} (run : Run tags false flag .text text .text)
    (linking : Linked quoted text out) : Run tags true quoted .text out .text := by
  have widen {quoted : Bool} {mode last : Mode} {text : List Char}
      (run : Run tags false quoted mode text last) :
      Run tags true quoted mode text last := run.mono (fun _ listed => listed) fun _ => rfl
  generalize size : text.length = count
  induction count using Nat.strongRecOn generalizing text quoted out flag with
  | ind count induction =>
      cases linking with
      | done => exact .done .text
      | @keep quoted rest out head tail =>
          have linking : Linked quoted (head :: rest) (head :: out) := .keep head tail
          generalize whole : head :: rest = text at run linking size
          generalize start : Mode.text = mode at run
          cases run with
          | done => cases whole
          | text head' plain run =>
              cases whole
              cases start
              rw [List.length_cons] at size
              exact .text head plain (induction _ (by omega) run tail rfl)
          | target => cases start
          | @tag _ _ _ rest' tag listed run =>
              rcases linking.of_quiet ((quiet '[' (by simp)).2.2 tag listed) with
                ⟨out', same, later⟩
              rcases formed.head listed with ⟨inner, written⟩
              have shorter : rest'.length < count := by
                rw [← size, List.length_append, written, List.length_cons]
                omega
              rw [same]
              rw [← start] at run ⊢
              exact .tag tag listed (induction _ shorter run later rfl)
          | opens links => cases links
          | closes => cases start
      | @link quoted content target rest text out link tail =>
          have whole := link.whole
          have shape : text = '[' :: (content ++ ']' :: ('(' :: (target ++ ')' ::
              rest))) := by
            rw [whole]
            simp
          have shorter : rest.length < count := by
            rw [← size, shape]
            simp only [List.length_cons, List.length_append]
            omega
          rw [shape] at run
          have opened := run.tail formed (by decide)
          rcases opened.cut (quiet ']' (by simp)) with
            ⟨left, right, middle, both, named, opened⟩
          rcases named.unlinked rfl with ⟨outside, unquoted⟩
          rw [outside] at named opened
          have aimed := opened.tail formed (by decide)
          rcases aimed.cut (quiet ')' (by simp)) with
            ⟨left', right', middle', both', target', others⟩
          rcases target'.unlinked rfl with ⟨outside', _⟩
          rw [outside'] at target' others
          have plain := (others.unlinked rfl).2
          rw [plain] at others
          rw [unquoted] at named
          have final := induction _ shorter others tail rfl
          have close : Run tags true false .text "</a>".toList .text :=
            .single "</a>" closes .text
          have ended := close.append final
          have inner := (widen named).append ended
          have aim := target'.toTarget formed rfl
          have opens := Run.opens rfl (aim.append (Run.closes inner))
          rw [Bool.false_or, Bool.false_or] at opens
          rw [anchor_append]
          exact opens

/-! ## Lists and rules -/

theorem itemsAt_apart (apart : ¬ "<li>".toList <+: text) : itemsAt text = none := by
  have none : itemAt text = none := by
    rw [itemAt, if_neg]
    exact fun starts => apart (List.isPrefixOf_iff_prefix.mp starts)
  have empty : itemsLength text.length text = 0 := by
    cases text.length with
    | zero => rfl
    | succ fuel =>
        rw [itemsLength, none]
  simp only [itemsAt, empty, if_true]

/-- Tags that begin and end no list item. -/
def Listless (tags : List String) : Prop :=
  ∀ tag ∈ tags, ∃ first second third inner,
    tag.toList = first :: second :: third :: inner ∧ '<' ∉ second :: third :: inner ∧
      '\n' ∉ tag.toList ∧ second ≠ 'l' ∧ (second = '/' → third ≠ 'l')

theorem li_apart (apart : second ≠ 'l') :
    ¬ "<li>".toList <+: first :: second :: third :: inner := by
  rintro ⟨after, same⟩
  exact apart (List.cons.inj (List.cons.inj same).2).1.symm

theorem head_apart {head : Char} {tail marker : List Char} (apart : head ≠ '<') :
    ¬ '<' :: marker <+: head :: tail := by
  rintro ⟨after, same⟩
  exact apart (List.cons.inj same).1.symm

theorem end_apart (apart : second = '/' → third ≠ 'l') :
    ¬ "</li>".toList <+: first :: second :: third :: inner := by
  rintro ⟨after, same⟩
  have tail := (List.cons.inj same).2
  exact apart (List.cons.inj tail).1.symm
    (List.cons.inj (List.cons.inj tail).2).1.symm

theorem kept_token
    (plain : '<' ∉ second :: third :: inner) (apart : second ≠ 'l')
    (rest : List Char) :
    lists (first :: second :: third :: inner ++ rest) =
      first :: second :: third :: inner ++ lists rest := by
  have behind : lists (second :: third :: inner ++ rest) =
      second :: third :: inner ++ lists rest := by
    refine replaceAll_kept fun head tail suffix => itemsAt_apart (head_apart ?_)
    exact fun same => plain (same ▸ suffix.subset List.mem_cons_self)
  have here : lists (first :: (second :: third :: inner ++ rest)) =
      first :: lists (second :: third :: inner ++ rest) :=
    replaceAll_none (itemsAt_apart (li_apart apart))
  rw [List.cons_append, here, behind]
  rfl

theorem kept_plain {head : Char} (plain : head ≠ '<') (rest : List Char) :
    lists (head :: rest) = head :: lists rest :=
  replaceAll_none (itemsAt_apart (head_apart plain))

theorem Run.lists_idle (listless : Listless tags)
    (run : Run tags linked quoted mode text last) : lists text = text := by
  induction run with
  | done => rfl
  | text head plain _ induction =>
      rw [kept_plain plain.1, induction]
  | target head plain _ induction =>
      rw [kept_plain plain.1, induction]
  | tag tag listed _ induction =>
      rcases listless tag listed with
        ⟨first, second, third, inner, written, plain, _, apart, _⟩
      rw [written, kept_token plain apart, induction]
  | opens _ _ induction =>
      have shape : linkStart = '<' :: 'a' :: ' ' :: "href=\"".toList := rfl
      rw [shape, kept_token (by decide) (by decide), induction]
  | closes _ induction =>
      have shape : linkEnd = ['"', '>'] := rfl
      rw [shape, List.cons_append, List.cons_append, List.nil_append,
        kept_plain (by decide), kept_plain (by decide), induction]

theorem itemEnd_skip {head : Char} (apart : ¬ "</li>".toList <+: head :: rest)
    (inside : head ≠ '\n') : itemEnd (head :: rest) = (itemEnd rest).map (· + 1) := by
  rw [itemEnd, if_neg, if_neg inside]
  exact fun starts => apart (List.isPrefixOf_iff_prefix.mp starts)

theorem itemEnd_kept {kept : List Char} (plain : '<' ∉ kept) (line : '\n' ∉ kept) :
    itemEnd (kept ++ rest) = (itemEnd rest).map (· + kept.length) := by
  induction kept with
  | nil => simp
  | cons head tail induction =>
      rw [List.mem_cons, not_or] at plain line
      rw [List.cons_append, itemEnd_skip (head_apart fun same => plain.1 same.symm)
        fun same => line.1 same.symm, induction plain.2 line.2, Option.map_map]
      rfl

theorem itemEnd_token (plain : '<' ∉ second :: third :: inner)
    (line : '\n' ∉ first :: second :: third :: inner)
    (apart : second = '/' → third ≠ 'l') (rest : List Char) :
    itemEnd (first :: second :: third :: inner ++ rest) =
      (itemEnd rest).map (· + (first :: second :: third :: inner).length) := by
  rw [List.mem_cons, not_or] at line
  have behind : itemEnd (second :: third :: inner ++ rest) =
      (itemEnd rest).map (· + (second :: third :: inner).length) :=
    itemEnd_kept plain line.2
  have here : itemEnd (first :: (second :: third :: inner ++ rest)) =
      (itemEnd (second :: third :: inner ++ rest)).map (· + 1) :=
    itemEnd_skip (end_apart apart) fun same => line.1 same.symm
  rw [List.cons_append, here, behind, Option.map_map]
  rfl

theorem Run.itemEnd (listless : Listless tags)
    (run : Run tags linked quoted mode text last) (line : '\n' ∉ text) :
    itemEnd (text ++ "</li>".toList) = some (text.length + 5) := by
  induction run with
  | done => rfl
  | text head plain _ induction =>
      rw [List.mem_cons, not_or] at line
      rw [List.cons_append, itemEnd_skip (head_apart plain.1)
        fun same => line.1 same.symm, induction line.2, List.length_cons,
        Option.map_some, Option.some.injEq]
  | target head plain _ induction =>
      rw [List.mem_cons, not_or] at line
      rw [List.cons_append, itemEnd_skip (head_apart plain.1)
        fun same => line.1 same.symm, induction line.2, List.length_cons,
        Option.map_some, Option.some.injEq]
  | tag tag listed _ induction =>
      rcases listless tag listed with
        ⟨first, second, third, inner, written, plain, unbroken, _, apart⟩
      rw [List.mem_append, not_or] at line
      rw [written] at unbroken
      rw [written, List.append_assoc, itemEnd_token plain unbroken apart,
        induction line.2, List.length_append,
        Option.map_some, Option.some.injEq]
      omega
  | opens _ _ induction =>
      have shape : linkStart = '<' :: 'a' :: ' ' :: "href=\"".toList := rfl
      rw [List.mem_append, not_or] at line
      rw [shape, List.append_assoc, itemEnd_token (by decide) (by decide)
        (by decide), induction line.2, List.length_append,
        Option.map_some, Option.some.injEq]
      omega
  | closes _ induction =>
      rw [List.mem_append, not_or] at line
      have shape : linkEnd = ['"', '>'] := rfl
      rw [shape, List.append_assoc, itemEnd_kept (by decide) (by decide),
        induction line.2, List.length_append,
        Option.map_some, Option.some.injEq]
      omega

theorem Run.lists_item (listless : Listless tags)
    (run : Run tags linked quoted mode text last) (line : '\n' ∉ text) :
    lists (wrap "<li>" "</li>" text) =
      wrap "<ul>" "</ul>" (wrap "<li>" "</li>" text) := by
  have ends := run.itemEnd listless line
  have written : wrap "<li>" "</li>" text =
      "<li>".toList ++ (text ++ "</li>".toList) := by
    rw [wrap, List.append_assoc]
  have size : (wrap "<li>" "</li>" text).length = 4 + (text.length + 5) := by
    rw [written, List.length_append, List.length_append]
    rfl
  have item : itemAt (wrap "<li>" "</li>" text) = some (4 + (text.length + 5)) := by
    have starts : "<li>".toList.isPrefixOf (wrap "<li>" "</li>" text) = true := by
      rw [List.isPrefixOf_iff_prefix, written]
      exact List.prefix_append _ _
    have after : (wrap "<li>" "</li>" text).drop 4 = text ++ "</li>".toList := by
      rw [written]
      rfl
    have nothing : (wrap "<li>" "</li>" text).drop (4 + (text.length + 5)) = [] := by
      rw [List.drop_eq_nil_iff, size]
    rw [itemAt, if_pos starts, after, ends, Option.map_some, nothing]
    rfl
  have length : itemsLength (wrap "<li>" "</li>" text).length
      (wrap "<li>" "</li>" text) = (wrap "<li>" "</li>" text).length := by
    have nothing : (wrap "<li>" "</li>" text).drop (4 + (text.length + 5)) = [] := by
      rw [List.drop_eq_nil_iff, size]
    have done : ∀ fuel, itemsLength fuel [] = 0 := by
      intro fuel
      cases fuel <;> rfl
    have fuel : (wrap "<li>" "</li>" text).length = 4 + (text.length + 4) + 1 := by
      rw [size]
      omega
    rw [fuel, itemsLength, item]
    simp only [nothing, done]
    omega
  have present : wrap "<li>" "</li>" text ≠ [] := by
    rw [← List.length_pos_iff, size]
    omega
  have matched : itemsAt (wrap "<li>" "</li>" text ++ []) =
      some (wrap "<li>" "</li>" text, (wrap "<li>" "</li>" text).length) := by
    rw [List.append_nil]
    simp only [itemsAt, length, List.take_length]
    rw [if_neg]
    exact fun none => present (List.length_eq_zero_iff.mp none)
  have replaced : lists (wrap "<li>" "</li>" text ++ []) = _ ++ lists [] :=
    replaceAll_some present matched
  rw [List.append_nil] at replaced
  rw [replaced]
  exact List.append_nil _

/-! ## Lines and ends -/

theorem Run.plain (formed : Formed tags)
    (run : Run tags linked quoted mode text last) (outside : mode = .text)
    (plain : '<' ∉ text) : quoted = false := by
  induction run with
  | done => rfl
  | text head _ _ induction =>
      rw [List.mem_cons, not_or] at plain
      exact induction rfl plain.2
  | target => cases outside
  | tag tag listed _ _ =>
      rcases formed.head listed with ⟨inner, written⟩
      rw [written] at plain
      exact absurd List.mem_cons_self plain
  | opens _ _ _ => exact absurd List.mem_cons_self plain
  | closes => cases outside

theorem Run.blank (formed : Formed tags)
    (run : Run tags linked quoted mode text last)
    (blank : ∀ character ∈ text, Text.isWhitespace character = true) :
    quoted = false ∧ mode = last := by
  induction run with
  | done => exact ⟨rfl, rfl⟩
  | text head _ _ induction =>
      exact induction fun character listed =>
        blank character (List.mem_cons_of_mem head listed)
  | target head _ _ induction =>
      have here := blank head List.mem_cons_self
      have unquoted : (head == '"') = false := by
        refine beq_false_of_ne fun same => ?_
        rw [same] at here
        exact absurd here (by decide)
      have later := induction fun character listed =>
        blank character (List.mem_cons_of_mem head listed)
      rw [unquoted, later.1]
      exact ⟨rfl, later.2⟩
  | tag tag listed _ _ =>
      rcases formed.head listed with ⟨inner, written⟩
      have here := blank '<' (by rw [written]; exact List.mem_cons_self)
      exact absurd here (by decide)
  | opens _ _ _ => exact absurd (blank '<' List.mem_cons_self) (by decide)
  | closes _ _ => exact absurd (blank '"' List.mem_cons_self) (by decide)

theorem Run.paragraph (formed : Formed tags) (opens : "<p>" ∈ tags)
    (closes : "</p>" ∈ tags) {line : String}
    (run : Run tags linked quoted mode line.toList last) :
    Run tags linked quoted mode (paragraph line).toList last := by
  simp only [Markdown.paragraph]
  split
  · next empty =>
      have blank : ∀ character ∈ line.toList,
          Text.isWhitespace character = true := by
        have nothing := congrArg String.toList empty
        rw [Text.trim, String.toList_ofList] at nothing
        have front : line.toList.dropWhile Text.isWhitespace = [] := by
          by_contra some
          have head := List.head_dropWhile_not Text.isWhitespace some
          have all := List.rdropWhile_eq_nil_iff.mp nothing
          rw [all _ (List.head_mem some)] at head
          cases head
        rw [List.dropWhile_eq_nil_iff] at front
        exact front
      rcases run.blank formed blank with ⟨unquoted, same⟩
      rw [unquoted, same]
      exact .done last
  · split
    · exact run
    · rw [String.toList_append, String.toList_append]
      exact run.wrapped opens closes

def linesOf : List (List Char) → List (List Char)
  | [] => []
  | [final] => if final = [] then [] else [final]
  | line :: next :: rest => Text.withoutReturn line :: linesOf (next :: rest)

theorem linesOf_eq : ∀ pieces : List (List Char),
    pieces.dropLast.map Text.withoutReturn ++
      (pieces.getLast?.filter (· != [])).toList = linesOf pieces
  | [] => rfl
  | [final] => by
      rw [linesOf]
      by_cases empty : final = []
      · rw [empty]
        rfl
      · rw [if_neg empty]
        simp [Option.filter, empty]
  | line :: next :: rest => by
      rw [linesOf, ← linesOf_eq (next :: rest), List.dropLast_cons_cons,
        List.map_cons, List.getLast?_cons_cons, List.cons_append]

/-- The pieces of a text as the pass for paragraphs joins them. -/
def joined (pieces : List (List Char)) : List Char :=
  ['\n'].intercalate ((linesOf pieces).map fun line =>
    (paragraph (String.ofList line)).toList)

theorem paragraphs_toList (text : String) :
    (paragraphs text).toList = joined (text.toList.splitOn '\n') := by
  have split : Text.lines text =
      (linesOf (text.toList.splitOn '\n')).map String.ofList := by
    rw [Text.lines, ← linesOf_eq]
  rw [paragraphs, String.toList_intercalate, split, joined, List.map_map,
    List.map_map]
  rfl

theorem Run.init {final : Char} (formed : Formed tags)
    (run : Run tags linked quoted mode (text ++ [final]) last)
    (apart : final ∉ ['>', '"']) : Run tags linked quoted mode text last := by
  have ending {token : List Char} (ends : token.getLast? = some '>' ∨
      token.getLast? = some '"') {rest text : List Char}
      (whole : token ++ rest = text ++ [final]) :
      ∃ between, text = token ++ between ∧ rest = between ++ [final] := by
    rcases List.eq_nil_or_concat rest with none | ⟨start, final', same⟩
    · rw [none, List.append_nil] at whole
      rw [whole, List.getLast?_concat] at ends
      simp only [Option.some.injEq] at ends
      simp only [List.mem_cons, List.not_mem_nil, or_false] at apart
      exact absurd ends apart
    · rw [same, List.concat_eq_append, ← List.append_assoc] at whole
      rcases List.append_inj' whole rfl with ⟨front, back⟩
      exact ⟨start, front.symm, by rw [same, List.concat_eq_append, back]⟩
  have unquoted : (final == '"') = false := by
    simp only [List.mem_cons, List.not_mem_nil, or_false, not_or] at apart
    exact beq_false_of_ne apart.2
  generalize whole : text ++ [final] = full at run
  induction run generalizing text with
  | done => exact absurd whole (by simp)
  | @text quoted rest last head plain run induction =>
      cases text with
      | nil =>
          cases whole
          exact run
      | cons other tail =>
          cases whole
          exact .text head plain (induction rfl)
  | @target quoted rest last head plain run induction =>
      cases text with
      | nil =>
          cases whole
          rw [unquoted, Bool.false_or]
          exact run
      | cons other tail =>
          cases whole
          exact .target head plain (induction rfl)
  | tag tag listed run induction =>
      have shape := formed tag listed
      simp only [isTag, Bool.and_eq_true, beq_iff_eq] at shape
      rcases ending (.inl shape.1.2) whole.symm with ⟨between, front, back⟩
      rw [front]
      exact .tag tag listed (induction back.symm)
  | opens links run induction =>
      rcases ending (.inr (by decide)) whole.symm with ⟨between, front, back⟩
      rw [front]
      exact .opens links (induction back.symm)
  | closes run induction =>
      rcases ending (.inl (by decide)) whole.symm with ⟨between, front, back⟩
      rw [front]
      exact .closes (induction back.symm)

theorem Run.joined (formed : Formed tags) (opens : "<p>" ∈ tags)
    (closes : "</p>" ∈ tags) (quiet : Quiet tags '\n') :
    ∀ {pieces : List (List Char)} {quoted : Bool} {mode last : Mode},
    pieces ≠ [] → Run tags linked quoted mode (['\n'].intercalate pieces) last →
      Run tags linked quoted mode (joined pieces) last
  | [], _, _, _, present, _ => absurd rfl present
  | [final], quoted, mode, last, _, run => by
      rw [List.intercalate_singleton] at run
      rw [Markdown.joined, linesOf]
      split
      · next empty =>
          rw [empty] at run
          exact run
      · rw [List.map_singleton, List.intercalate_singleton]
        exact Run.paragraph formed opens closes (by rwa [String.toList_ofList])
  | line :: next :: rest, quoted, mode, last, _, run => by
      rw [List.intercalate_cons_cons, List.append_assoc, List.singleton_append] at run
      rcases run.cut quiet with ⟨left, right, middle, same, early, late⟩
      have others := Run.joined formed opens closes quiet (List.cons_ne_nil _ _) late
      have bare : Run tags linked left mode (Text.withoutReturn line) middle := by
        rw [Text.withoutReturn]
        split
        · next returned =>
            rw [beq_iff_eq] at returned
            rcases List.getLast?_eq_some_iff.mp returned with ⟨front, cut⟩
            rw [cut] at early ⊢
            rw [List.dropLast_concat]
            exact early.init formed (by decide)
        · exact early
      have here : Run tags linked left mode
          (Markdown.paragraph (String.ofList (Text.withoutReturn line))).toList
          middle := Run.paragraph formed opens closes (by rwa [String.toList_ofList])
      rw [same, Markdown.joined, linesOf, List.map_cons]
      rw [Markdown.joined] at others
      cases lines : linesOf (next :: rest) with
      | nil =>
          rw [lines, List.map_nil, List.intercalate_nil] at others
          rw [List.map_nil, List.intercalate_singleton]
          have both := here.append others
          rwa [List.append_nil] at both
      | cons head tail =>
          rw [lines, List.map_cons] at others
          rw [List.map_cons, List.intercalate_cons_cons, List.append_assoc,
            List.singleton_append]
          refine here.append ?_
          cases middle with
          | text => exact .text '\n' (by decide) others
          | target => exact .target '\n' (by decide) others

theorem Run.trim (formed : Formed tags) {text : String}
    (run : Run tags linked quoted .text text.toList .text) :
    Run tags linked quoted .text (Text.trim text).toList .text := by
  rw [Text.trim, String.toList_ofList]
  have front : Run tags linked quoted .text
      (text.toList.dropWhile Text.isWhitespace) .text := by
    generalize text.toList = characters at run
    induction characters with
    | nil => exact run
    | cons head tail induction =>
        rw [List.dropWhile_cons]
        split
        · next blank =>
            refine induction (run.tail formed fun same => ?_)
            rw [same] at blank
            exact absurd blank (by decide)
        · exact run
  generalize text.toList.dropWhile Text.isWhitespace = characters at front
  induction characters using List.reverseRecOn with
  | nil => exact front
  | append_singleton start final induction =>
      by_cases blank : Text.isWhitespace final = true
      · rw [List.rdropWhile_concat_pos _ _ _ blank]
        refine induction (front.init formed fun listed => ?_)
        have apart : ∀ character ∈ ['>', '"'],
            Text.isWhitespace character = false :=
          List.all_iff_forall_prop.mp (by decide)
        rw [apart final listed] at blank
        cases blank
      · rw [List.rdropWhile_concat_neg _ _ _ blank]
        exact front

end Markdown

end AimailGateway.Email
