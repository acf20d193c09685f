import Mathlib.Data.List.Basic

/-! # The tokens of a text of statements

How a text of SQL statements is cut: quoted tokens, in which a doubled quote
stands for one, comments, which count for nothing, and all other characters.
Brackets around identifiers are left out.
-/

namespace AimailGateway.Library.Sql

inductive Token where
  | symbol (character : Char)
  | quoted (quote : Char) (value : List Char)
  | unterminated
  deriving DecidableEq, Repr

/-- `'`, `"` and the backtick. -/
def isQuote (character : Char) : Bool :=
  character == '\'' || character == '\x22' || character == '\x60'

inductive Inside where
  | code
  | quoted (quote : Char) (value : List Char)
  | lineComment
  | blockComment

def tokens : Inside → List Char → List Token
  | .code, [] => []
  | .code, '-' :: '-' :: rest => tokens .lineComment rest
  | .code, '/' :: '*' :: rest => tokens .blockComment rest
  | .code, head :: rest =>
      if isQuote head then tokens (.quoted head []) rest
      else .symbol head :: tokens .code rest
  | .quoted _ _, [] => [.unterminated]
  | .quoted quote value, [last] =>
      if last = quote then [.quoted quote value] else [.unterminated]
  | .quoted quote value, head :: next :: rest =>
      if head = quote then
        if next = quote then tokens (.quoted quote (value ++ [quote])) rest
        else .quoted quote value :: tokens .code (next :: rest)
      else tokens (.quoted quote (value ++ [head])) (next :: rest)
  | .lineComment, [] => []
  | .lineComment, head :: rest =>
      tokens (if head = '\n' then .code else .lineComment) rest
  | .blockComment, [] => []
  | .blockComment, '*' :: '/' :: rest => tokens .code rest
  | .blockComment, _ :: rest => tokens .blockComment rest

example : tokens .code "a='it''s' --x'".toList =
    [.symbol 'a', .symbol '=', .quoted '\'' "it's".toList, .symbol ' '] := by
  decide

/-! ## Quoted values -/

section Quoted

variable {quote : Char}

theorem tokens_quoted {value : List Char} (plain : quote ∉ value)
    (before : List Char) {rest : List Char} (single : rest.head? ≠ some quote) :
    tokens (.quoted quote before) (value ++ quote :: rest) =
      .quoted quote (before ++ value) :: tokens .code rest := by
  induction value generalizing before with
  | nil =>
      cases rest with
      | nil => simp [tokens]
      | cons next rest =>
          have different : next ≠ quote := by
            intro same
            exact single (by rw [same, List.head?_cons])
          simp [tokens, different]
  | cons head tail induction =>
      rw [List.mem_cons, not_or] at plain
      have read : tokens (.quoted quote before) (head :: (tail ++ quote :: rest)) =
          tokens (.quoted quote (before ++ [head])) (tail ++ quote :: rest) := by
        cases tail with
        | nil =>
            rw [List.nil_append, tokens, if_neg (Ne.symm plain.1)]
        | cons next tail =>
            rw [List.cons_append, tokens, if_neg (Ne.symm plain.1)]
      rw [List.cons_append, read, induction plain.2, List.append_assoc,
        List.singleton_append]

/-- The value of the quoted token a text begins with. -/
def firstValue (quote : Char) : List Char → Option (List Char)
  | [] => none
  | [last] => if last = quote then some [] else none
  | head :: next :: rest =>
      if head = quote then
        if next = quote then (firstValue quote rest).map (quote :: ·)
        else some []
      else (firstValue quote (next :: rest)).map (head :: ·)

theorem firstValue_of_tokens {text : List Char} {before value : List Char}
    {later : List Token}
    (read : tokens (.quoted quote before) text = .quoted quote value :: later) :
    ∃ own, firstValue quote text = some own ∧ value = before ++ own := by
  fun_induction firstValue quote text generalizing before with
  | case1 =>
      rw [tokens] at read
      cases read
  | case2 =>
      rw [tokens, if_pos rfl] at read
      cases read
      exact ⟨[], rfl, (List.append_nil _).symm⟩
  | case3 last different =>
      rw [tokens, if_neg different] at read
      cases read
  | case4 rest induction =>
      rw [tokens, if_pos rfl, if_pos rfl] at read
      rcases induction read with ⟨own, first, same⟩
      exact ⟨quote :: own, by rw [first, Option.map_some], by simp [same]⟩
  | case5 next rest different =>
      rw [tokens, if_pos rfl, if_neg different] at read
      cases read
      exact ⟨[], rfl, (List.append_nil _).symm⟩
  | case6 head next rest different induction =>
      rw [tokens, if_neg different] at read
      rcases induction read with ⟨own, first, same⟩
      exact ⟨head :: own, by rw [first, Option.map_some], by simp [same]⟩

theorem firstValue_head {next : Char} (other : next ≠ quote)
    {rest value : List Char}
    (first : firstValue quote (next :: rest) = some value) :
    value.head? = some next := by
  cases rest with
  | nil =>
      rw [firstValue, if_neg other] at first
      cases first
  | cons second rest =>
      rw [firstValue, if_neg other, Option.map_eq_some_iff] at first
      rcases first with ⟨tail, -, rfl⟩
      rfl

theorem head?_replicate_append {count : Nat} (some_quote : 0 < count)
    (text : List Char) :
    (List.replicate count quote ++ text).head? = some quote := by
  cases count with
  | zero => exact absurd some_quote (Nat.lt_irrefl 0)
  | succ count => rfl

theorem firstValue_ne {next : Char} (other : next ≠ quote) {more : List Char} :
    ∀ (text : List Char) (count : Nat), 0 < count ∨ quote ∈ text →
      firstValue quote (text ++ quote :: next :: more) ≠
        some (List.replicate count quote ++ text)
  | [], count, some_quote => by
      have positive : 0 < count := some_quote.resolve_right List.not_mem_nil
      rw [List.nil_append, firstValue, if_pos rfl, if_neg other]
      intro same
      have heads := congrArg List.head? (Option.some_inj.mp same)
      rw [head?_replicate_append positive] at heads
      cases heads
  | [last], count, some_quote => by
      intro same
      by_cases closing : last = quote
      · subst closing
        rw [List.singleton_append, firstValue, if_pos rfl, if_pos rfl,
          Option.map_eq_some_iff] at same
        rcases same with ⟨rest, first, equal⟩
        have heads := firstValue_head other first
        rw [← List.replicate_succ', List.replicate_succ, List.cons.injEq] at equal
        rw [equal.2, List.head?_replicate] at heads
        split at heads
        · cases heads
        · exact other (Option.some_inj.mp heads).symm
      · have positive : 0 < count := by
          rcases some_quote with positive | member
          · exact positive
          · exact absurd (List.mem_singleton.mp member).symm closing
        rw [List.singleton_append] at same
        have heads := firstValue_head closing same
        rw [head?_replicate_append positive] at heads
        exact closing (Option.some_inj.mp heads).symm
  | head :: second :: text, count, some_quote => by
      intro same
      by_cases closing : head = quote
      · rw [closing, List.cons_append, List.cons_append, firstValue,
          if_pos rfl] at same
        split at same
        · next doubled =>
            rw [doubled, Option.map_eq_some_iff] at same
            rcases same with ⟨rest, first, equal⟩
            have shifted : List.replicate count quote ++
                quote :: quote :: text =
                quote :: (List.replicate (count + 1) quote ++ text) := by
              rw [List.append_cons, ← List.replicate_succ', List.append_cons,
                ← List.replicate_succ', List.replicate_succ, List.cons_append]
            rw [shifted, List.cons.injEq] at equal
            rw [equal.2] at first
            exact firstValue_ne other text (count + 1)
              (.inl (Nat.succ_pos count)) first
        · have empty := Option.some_inj.mp same
          have lengths := congrArg List.length empty
          simp at lengths
      · rw [List.cons_append] at same
        have heads := firstValue_head closing same
        cases count with
        | succ count =>
            rw [head?_replicate_append (Nat.succ_pos count)] at heads
            exact closing (Option.some_inj.mp heads).symm
        | zero =>
            have later : quote ∈ second :: text := by
              rcases some_quote with positive | member
              · exact absurd positive (Nat.lt_irrefl 0)
              · exact (List.mem_cons.mp member).resolve_left (Ne.symm closing)
            rw [List.cons_append, firstValue, if_neg closing,
              Option.map_eq_some_iff] at same
            rcases same with ⟨rest, first, equal⟩
            rw [List.replicate_zero, List.nil_append, List.cons.injEq] at equal
            rw [equal.2] at first
            exact firstValue_ne other (second :: text) 0 (.inr later) first

theorem plain_of_tokens {next : Char} (other : next ≠ quote)
    {value more : List Char} {later : List Token}
    (read : tokens (.quoted quote []) (value ++ quote :: next :: more) =
      .quoted quote value :: later) : quote ∉ value := by
  intro member
  rcases firstValue_of_tokens read with ⟨own, first, same⟩
  rw [List.nil_append] at same
  subst same
  exact firstValue_ne other value 0 (.inr member) first

end Quoted

/-! ## Templates

A text of statements with holes in its literals and comments, into which texts
are pasted.
-/

inductive Fragment (ι : Type) where
  | fixed (text : String)
  | hole (name : ι)

inductive Piece (ι : Type) where
  | code (text : String)
  | comment (fragments : List (Fragment ι))
  | literal (fragments : List (Fragment ι))

section Templates

variable {ι : Type} (values : ι → String)

def Fragment.fill : Fragment ι → List Char
  | .fixed text => text.toList
  | .hole name => (values name).toList

def fill (fragments : List (Fragment ι)) : List Char :=
  fragments.flatMap (Fragment.fill values)

/-- The text of a piece: a literal between apostrophes, a comment up to the end
of its line. -/
def Piece.render : Piece ι → List Char
  | .code text => text.toList
  | .comment fragments => '-' :: '-' :: (fill values fragments ++ ['\n'])
  | .literal fragments => '\'' :: (fill values fragments ++ ['\''])

def render (pieces : List (Piece ι)) : List Char :=
  pieces.flatMap (Piece.render values)

def Piece.meaning : Piece ι → List Token
  | .code text => text.toList.map .symbol
  | .comment _ => []
  | .literal fragments => [.quoted '\'' (fill values fragments)]

def meaning (pieces : List (Piece ι)) : List Token :=
  pieces.flatMap (Piece.meaning values)

/-- A character of code that begins neither a quoted token nor a comment. -/
def isPlainCode (character : Char) : Bool :=
  !isQuote character && character != '-' && character != '/'

def Fragment.avoids (character : Char) : Fragment ι → Bool
  | .fixed text => !text.toList.contains character
  | .hole _ => true

def beginsWithCode : List (Piece ι) → Bool
  | .code text :: _ => text != ""
  | _ => false

/-- The fixed parts of a template are code, comments and literals on their own,
and code follows each literal. -/
def wellFormed : List (Piece ι) → Bool
  | [] => true
  | .code text :: rest => text.toList.all isPlainCode && wellFormed rest
  | .comment fragments :: rest =>
      fragments.all (Fragment.avoids '\n') && wellFormed rest
  | .literal _ :: rest => beginsWithCode rest && wellFormed rest

end Templates

section Reading

variable {ι : Type} {values : ι → String}

theorem tokens_code {text : List Char} (plain : text.all isPlainCode = true)
    (rest : List Char) :
    tokens .code (text ++ rest) = text.map .symbol ++ tokens .code rest := by
  induction text with
  | nil => rfl
  | cons head tail induction =>
      rw [List.all_cons, Bool.and_eq_true] at plain
      have own := plain.1
      simp only [isPlainCode, Bool.and_eq_true, Bool.not_eq_true', bne_iff_ne]
        at own
      rw [List.cons_append, tokens, if_neg (by simp [own.1.1]),
        induction plain.2]
      · rfl
      · exact fun _ same _ => own.1.2 same
      · exact fun _ same _ => own.2 same

theorem tokens_comment {text : List Char} (line : '\n' ∉ text)
    (rest : List Char) :
    tokens .code ('-' :: '-' :: (text ++ '\n' :: rest)) = tokens .code rest := by
  have read : tokens .lineComment (text ++ '\n' :: rest) = tokens .code rest := by
    induction text with
    | nil => simp [tokens]
    | cons head tail induction =>
        rw [List.mem_cons, not_or] at line
        rw [List.cons_append, tokens, if_neg (Ne.symm line.1), induction line.2]
  rw [tokens, read]

theorem not_mem_fill {character : Char} {fragments : List (Fragment ι)}
    (fixed : fragments.all (Fragment.avoids character) = true)
    (holes : ∀ name, character ∉ (values name).toList) :
    character ∉ fill values fragments := by
  rw [fill, List.mem_flatMap]
  rintro ⟨fragment, member, inside⟩
  have avoids := List.all_eq_true.mp fixed fragment member
  cases fragment with
  | fixed text =>
      simp only [Fragment.avoids, Bool.not_eq_true', List.contains_eq_mem,
        decide_eq_false_iff_not] at avoids
      exact avoids inside
  | hole name => exact holes name inside

theorem render_head {rest : List (Piece ι)}
    (formed : beginsWithCode rest = true ∧ wellFormed rest = true) :
    ∃ next more, render values rest = next :: more ∧ next ≠ '\'' := by
  rcases formed with ⟨begins, formed⟩
  match rest, begins, formed with
  | .code text :: later, begins, formed =>
      rw [beginsWithCode, bne_iff_ne] at begins
      rw [wellFormed, Bool.and_eq_true] at formed
      cases letters : text.toList with
      | nil => exact absurd (String.toList_eq_nil_iff.mp letters) begins
      | cons next more =>
          refine ⟨next, more ++ render values later, ?_, ?_⟩
          · rw [render, List.flatMap_cons, ← render, Piece.render, letters,
              List.cons_append]
          · intro same
            have plain := List.all_eq_true.mp formed.1 next (by simp [letters])
            rw [same] at plain
            exact absurd plain (by decide)

theorem tokens_render_iff (lines : ∀ name, '\n' ∉ (values name).toList)
    (pieces : List (Piece ι)) (formed : wellFormed pieces = true) :
    tokens .code (render values pieces) = meaning values pieces ↔
      ∀ fragments, Piece.literal fragments ∈ pieces →
        '\'' ∉ fill values fragments := by
  induction pieces with
  | nil => simp [render, meaning, tokens]
  | cons piece rest induction =>
      rw [render, List.flatMap_cons, ← render, meaning, List.flatMap_cons,
        ← meaning]
      cases piece with
      | code text =>
          rw [wellFormed, Bool.and_eq_true] at formed
          rw [Piece.render, tokens_code formed.1, Piece.meaning,
            List.append_cancel_left_eq, induction formed.2]
          simp
      | comment fragments =>
          rw [wellFormed, Bool.and_eq_true] at formed
          rw [Piece.render, List.cons_append, List.cons_append,
            List.append_assoc, List.singleton_append,
            tokens_comment (not_mem_fill formed.1 lines), Piece.meaning,
            List.nil_append, induction formed.2]
          simp
      | literal fragments =>
          rw [wellFormed, Bool.and_eq_true] at formed
          rw [Piece.render, List.cons_append, List.append_assoc,
            List.singleton_append, Piece.meaning, List.singleton_append]
          have head : ∃ next more, render values rest = next :: more ∧
              next ≠ '\'' :=
            render_head formed
          rcases head with ⟨next, more, begins, other⟩
          have opened : tokens .code ('\'' :: (fill values fragments ++
              '\'' :: render values rest)) = tokens (.quoted '\'' [])
                (fill values fragments ++ '\'' :: render values rest) := by
            rw [tokens, if_pos (by decide)]
            · exact fun _ same _ => by cases same
            · exact fun _ same _ => by cases same
          have single : (render values rest).head? ≠ some '\'' := by
            rw [begins, List.head?_cons, ne_eq, Option.some_inj]
            exact other
          rw [opened]
          constructor
          · intro read
            have plain : '\'' ∉ fill values fragments := by
              rw [begins] at read
              exact plain_of_tokens other read
            rw [tokens_quoted plain [] single, List.nil_append,
              List.cons.injEq] at read
            intro literal member
            rcases List.mem_cons.mp member with same | later
            · cases same
              exact plain
            · exact (induction formed.2).mp read.2 literal later
          · intro plain
            have own := plain fragments List.mem_cons_self
            have others := (induction formed.2).mpr fun literal later =>
              plain literal (List.mem_cons_of_mem _ later)
            rw [tokens_quoted own [] single, List.nil_append, others]

end Reading

end AimailGateway.Library.Sql
