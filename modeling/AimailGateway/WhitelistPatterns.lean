import AimailGateway.Errors
import AimailGateway.Library.Regex
import AimailGateway.Library.Sql
import AimailGateway.Whitelist

/-! # Compiled whitelist patterns

A pattern becomes a regular expression, kept for a while under its text. The
expressions are what `matchesPattern` says, at any age of the cache.
-/

namespace AimailGateway

open Library

/-! ## Compilation -/

/-- Why the `regex` crate refuses an expression; none of those built here. -/
def regexRefused : String := "regex parse error"

def compileWhitelistPattern (value : String) : Except AppError Regex :=
  if maxPatternLen < Text.byteLength value then
    .error (.validation ("Whitelist pattern too long: " ++
      toString (Text.byteLength value) ++ " chars (max " ++
      toString maxPatternLen ++ ")"))
  else
    let escaped := Regex.escape value
    let pattern := Sql.replace escaped "\\*" ".*"
    let anchored := "^" ++ pattern ++ "$"
    match Regex.new? ("(?i)" ++ anchored) with
    | some regex => .ok regex
    | none => .error (.validation
        ("Invalid whitelist pattern '" ++ value ++ "': " ++ regexRefused))

/-! ## The cache -/

/-- 30 seconds, in nanoseconds. -/
def cacheTtl : Nat := 30000000000

/-- The expressions by pattern, each with the time it was stored. -/
structure WhitelistCache where
  entries : List (String × Regex × Nat)

/-- What the clock shows when a lookup reads, evicts and stores. -/
structure LookupTimes where
  readAt : Nat
  evictedAt : Nat
  storedAt : Nat

namespace WhitelistCache

def new : WhitelistCache := ⟨[]⟩

def cached (cache : WhitelistCache) (value : String) (time : Nat) :
    Option Regex :=
  match cache.entries.lookup value with
  | some (regex, created) =>
      if time - created < cacheTtl then some regex else none
  | none => none

/-- `HashMap::insert`, after the expired entries are dropped. -/
def store (cache : WhitelistCache) (value : String) (regex : Regex)
    (times : LookupTimes) : WhitelistCache :=
  ⟨(value, regex, times.storedAt) ::
    (cache.entries.filter fun entry =>
      times.evictedAt - entry.2.2 < cacheTtl).filter (·.1 != value)⟩

def getOrCompile (cache : WhitelistCache) (value : String)
    (times : LookupTimes) : Except AppError Regex × WhitelistCache :=
  match cache.cached value times.readAt with
  | some regex => (.ok regex, cache)
  | none =>
      match compileWhitelistPattern value with
      | .ok regex => (.ok regex, cache.store value regex times)
      | .error error => (.error error, cache)

def invalidate (cache : WhitelistCache) (value : String) : WhitelistCache :=
  ⟨cache.entries.filter (·.1 != value)⟩

end WhitelistCache

/-- `is_whitelisted_wildcard`, with the cache it reads and fills. -/
def isWhitelistedCached (foldCase : Char → Char) (target : String)
    (times : String → LookupTimes) :
    List String → WhitelistCache → Bool × WhitelistCache
  | [], cache => (false, cache)
  | value :: values, cache =>
      match cache.getOrCompile value (times value) with
      | (.ok regex, next) =>
          if regex.isMatch foldCase target then (true, next)
          else isWhitelistedCached foldCase target times values next
      | (.error _, next) => isWhitelistedCached foldCase target times values next

/-! ## The expression of a pattern -/

def patternItem (character : Char) : Regex.Item :=
  if character = '*' then .many .dot else .one (.literal character)

def patternText (character : Char) : List Char :=
  if character = '*' then ['.', '*'] else Regex.escapeChar character

theorem head?_flatMap_escapeChar (text : List Char) :
    (text.flatMap Regex.escapeChar).head? ≠ some '*' := by
  cases text with
  | nil => simp
  | cons head tail =>
      rw [List.flatMap_cons]
      exact Regex.head?_escapeChar head _

theorem head?_flatMap_patternText (text : List Char) :
    (text.flatMap patternText ++ ['$']).head? ≠ some '*' := by
  cases text with
  | nil => decide
  | cons head tail =>
      rw [List.flatMap_cons, patternText, List.append_assoc]
      split
      · simp
      · exact Regex.head?_escapeChar head _

theorem replaceFrom_cons (character : Char) {rest : List Char}
    (single : rest.head? ≠ some '*') :
    Sql.replaceFrom ['\\', '*'] ['.', '*'] 0 (character :: rest) =
      character :: Sql.replaceFrom ['\\', '*'] ['.', '*'] 0 rest := by
  rw [Sql.replaceFrom, if_neg]
  cases rest with
  | nil => simp [List.isPrefixOf]
  | cons head tail =>
      have different : '*' ≠ head := by
        intro same
        exact single (by rw [same, List.head?_cons])
      simp [List.isPrefixOf, different]

theorem replace_escaped (text : List Char) :
    Sql.replaceFrom ['\\', '*'] ['.', '*'] 0 (text.flatMap Regex.escapeChar) =
      text.flatMap patternText := by
  induction text with
  | nil => rfl
  | cons head tail induction =>
      have next := head?_flatMap_escapeChar tail
      rw [List.flatMap_cons, List.flatMap_cons, ← induction, patternText]
      by_cases star : head = '*'
      · subst star
        rfl
      · rw [if_neg star, Regex.escapeChar]
        split
        · rw [List.cons_append, List.cons_append, List.nil_append,
            replaceFrom_cons '\\' (by simpa using star),
            replaceFrom_cons head next]
          rfl
        · rw [List.cons_append, List.nil_append, replaceFrom_cons head next]
          rfl

theorem parseItems_pattern (text : List Char) :
    Regex.parseItems (text.flatMap patternText ++ ['$']) =
      some (text.map patternItem ++ [.finish]) := by
  induction text with
  | nil => rfl
  | cons head tail induction =>
      rw [List.flatMap_cons, List.append_assoc, patternText, List.map_cons,
        List.cons_append, patternItem]
      split
      · change (Regex.parseItems (tail.flatMap patternText ++ ['$'])).map _ = _
        rw [induction]
        rfl
      · rw [Regex.parseItems_escapeChar head (head?_flatMap_patternText tail),
          induction]
        rfl

theorem afterStart_append (start rest : String) :
    Text.afterStart start (start ++ rest) = some rest := by
  rw [Text.afterStart, Text.startsWith, String.toList_append, if_pos]
  · rw [List.drop_left, String.ofList_toList]
  · rw [List.isPrefixOf_iff_prefix]
    exact List.prefix_append _ _

theorem compileWhitelistPattern_ok {value : String}
    (short : Text.byteLength value ≤ maxPatternLen) :
    compileWhitelistPattern value = .ok ⟨true,
      .start :: (value.toList.map patternItem ++ [.finish])⟩ := by
  have text : Text.afterStart "(?i)" ("(?i)" ++ ("^" ++
      Sql.replace (Regex.escape value) "\\*" ".*" ++ "$")) =
      some ("^" ++ Sql.replace (Regex.escape value) "\\*" ".*" ++ "$") :=
    afterStart_append _ _
  have items : Regex.parseItems ("^" ++
      Sql.replace (Regex.escape value) "\\*" ".*" ++ "$").toList =
      some (.start :: (value.toList.map patternItem ++ [.finish])) := by
    have replaced : (Sql.replace (Regex.escape value) "\\*" ".*").toList =
        value.toList.flatMap patternText := by
      simp only [Sql.replace, Regex.escape, String.toList_ofList]
      exact replace_escaped value.toList
    rw [String.toList_append, String.toList_append, replaced]
    change (Regex.parseItems (value.toList.flatMap patternText ++ ['$'])).map _ = _
    rw [parseItems_pattern]
    rfl
  rw [compileWhitelistPattern, if_neg (Nat.not_lt.mpr short)]
  simp only [Regex.new?, text, items]
  rfl

/-! ## What the expression matches -/

section Matching

variable (tables : CaseTables)

theorem anyRun_dot {passes : List Char → Bool} {items : List Regex.Item}
    (same : ∀ atStart text,
      Regex.matchItems tables.foldCase items atStart text = passes text)
    (atStart : Bool) (text : List Char) :
    Regex.matchItems tables.foldCase (.many .dot :: items) atStart text =
      anyRest passes text := by
  rw [Regex.matchItems]
  induction text generalizing atStart with
  | nil => exact same atStart []
  | cons head tail induction =>
      rw [Regex.anyRun, anyRest, same, induction]
      rfl

theorem matchItems_pattern (pattern : List Char) (atStart : Bool)
    (text : List Char) :
    Regex.matchItems tables.foldCase (pattern.map patternItem ++ [.finish])
      atStart text = matchesPattern tables pattern text := by
  induction pattern generalizing atStart text with
  | nil =>
      rw [List.map_nil, List.nil_append, Regex.matchItems, Regex.matchItems,
        Bool.and_true, matchesPattern]
  | cons head tail induction =>
      rw [List.map_cons, List.cons_append, patternItem]
      split
      · next star =>
          subst star
          exact anyRun_dot tables induction atStart text
      · next plain =>
          cases text with
          | nil =>
              rw [Regex.matchItems, matchesPattern]
              exact plain
          | cons letter rest =>
              rw [Regex.matchItems, induction, matchesPattern]
              · rfl
              · exact plain

end Matching

/-! ## What a pattern should match -/

section Specification

variable (foldCase : Char → Char)

/-- Equality up to letter case. -/
def SameLetters (first second : List Char) : Prop :=
  first.map foldCase = second.map foldCase

def beforeStar (pattern : List Char) : List Char :=
  pattern.takeWhile (· != '*')

def afterStar (pattern : List Char) : List Char :=
  (pattern.dropWhile (· != '*')).drop 1

/-- What the first star of the pattern stands for in the value. -/
def starPart (pattern value : List Char) : List Char :=
  (value.drop (beforeStar pattern).length).take
    (value.length - (beforeStar pattern).length - (afterStar pattern).length)

/-- The value is the pattern up to letter case, its first star standing for any
string and every other character for itself. -/
def MatchesFirstStar (pattern value : List Char) : Prop :=
  ('*' ∉ pattern ∧ SameLetters foldCase pattern value) ∨
    ('*' ∈ pattern ∧ ∃ first middle last, value = first ++ middle ++ last ∧
      SameLetters foldCase (beforeStar pattern) first ∧
      SameLetters foldCase (afterStar pattern) last)

/-- A compiled entry answers for the value as it should. -/
def AnswersFirstStar (pattern value : String) : Prop :=
  (∃ regex, compileWhitelistPattern pattern = .ok regex ∧
      regex.isMatch foldCase value = true) ↔
    MatchesFirstStar foldCase pattern.toList value.toList

end Specification

/-! ## Literals, stars and rests -/

section Reading

variable {tables : CaseTables}
  {pattern : List Char}

theorem anyRest_iff {passes : List Char → Bool} (text : List Char) :
    anyRest passes text = true ↔ ∃ middle rest, text = middle ++ rest ∧
      '\n' ∉ middle ∧ passes rest = true := by
  induction text with
  | nil =>
      rw [anyRest]
      constructor
      · exact fun passed => ⟨[], [], rfl, nofun, passed⟩
      · rintro ⟨middle, rest, cut, -, passed⟩
        rw [(List.append_eq_nil_iff.mp cut.symm).2] at passed
        exact passed
  | cons head tail induction =>
      rw [anyRest, Bool.or_eq_true, Bool.and_eq_true, induction]
      constructor
      · rintro (passed | ⟨line, middle, rest, cut, lineless, passed⟩)
        · exact ⟨[], head :: tail, rfl, nofun, passed⟩
        · refine ⟨head :: middle, rest, by rw [cut, List.cons_append], ?_,
            passed⟩
          rw [List.mem_cons, not_or]
          exact ⟨fun same => bne_iff_ne.mp line same.symm, lineless⟩
      · rintro ⟨middle, rest, cut, lineless, passed⟩
        cases middle with
        | nil =>
            rw [cut]
            exact .inl passed
        | cons letter middle =>
            rw [List.cons_append] at cut
            cases cut
            rw [List.mem_cons, not_or] at lineless
            exact .inr ⟨bne_iff_ne.mpr fun same => lineless.1 same.symm,
              middle, rest, rfl, lineless.2, passed⟩

theorem matchesPattern_literal {head : Char} (plain : head ≠ '*')
    (pattern text : List Char) :
    matchesPattern tables (head :: pattern) text = true ↔
      ∃ letter rest, text = letter :: rest ∧
        tables.foldCase head = tables.foldCase letter ∧
        matchesPattern tables pattern rest = true := by
  cases text with
  | nil =>
      rw [matchesPattern]
      · simp
      · exact plain
  | cons letter rest =>
      rw [matchesPattern, Bool.and_eq_true, beq_iff_eq]
      · constructor
        · exact fun passed => ⟨letter, rest, rfl, passed⟩
        · rintro ⟨_, _, ⟨⟩, passed⟩
          exact passed
      · exact plain

theorem matchesPattern_append {literal : List Char} (plain : '*' ∉ literal)
    (pattern text : List Char) :
    matchesPattern tables (literal ++ pattern) text = true ↔
      ∃ first rest, text = first ++ rest ∧
        SameLetters tables.foldCase literal first ∧
        matchesPattern tables pattern rest = true := by
  induction literal generalizing text with
  | nil =>
      constructor
      · exact fun passed => ⟨[], text, rfl, rfl, passed⟩
      · rintro ⟨first, rest, rfl, same, passed⟩
        rw [SameLetters, List.map_nil, eq_comm, List.map_eq_nil_iff] at same
        rw [same]
        exact passed
  | cons head tail induction =>
      rw [List.mem_cons, not_or] at plain
      rw [List.cons_append, matchesPattern_literal (Ne.symm plain.1)]
      constructor
      · rintro ⟨letter, later, rfl, folded, passed⟩
        rcases (induction plain.2 later).mp passed with
          ⟨first, rest, rfl, same, passed⟩
        refine ⟨letter :: first, rest, rfl, ?_, passed⟩
        rw [SameLetters, List.map_cons, List.map_cons, folded, same]
      · rintro ⟨first, rest, rfl, same, passed⟩
        cases first with
        | nil => cases same
        | cons letter first =>
            rw [SameLetters, List.map_cons, List.map_cons, List.cons.injEq]
              at same
            exact ⟨letter, first ++ rest, rfl, same.1,
              (induction plain.2 _).mpr ⟨first, rest, rfl, same.2, passed⟩⟩

theorem matchesPattern_starless (pattern : List Char) :
    matchesPattern tables pattern (pattern.filter (· != '*')) = true := by
  induction pattern with
  | nil => rfl
  | cons head tail induction =>
      by_cases star : head = '*'
      · subst star
        rw [List.filter_cons_of_neg (by simp), matchesPattern, anyRest_iff]
        exact ⟨[], _, rfl, nofun, induction⟩
      · rw [List.filter_cons_of_pos (by simpa using star),
          matchesPattern_literal star]
        exact ⟨head, _, rfl, rfl, induction⟩

theorem cut_star (star : '*' ∈ pattern) :
    pattern = beforeStar pattern ++ '*' :: afterStar pattern ∧
      '*' ∉ beforeStar pattern := by
  rcases List.eq_append_cons_of_mem star with ⟨before, after, cut, absent⟩
  have kept : ∀ letter ∈ before, (letter != '*') = true := by
    intro letter member
    rw [bne_iff_ne]
    exact fun same => absent (same ▸ member)
  have first : beforeStar pattern = before := by
    rw [beforeStar, cut, List.takeWhile_append_of_pos kept]
    simp
  have last : afterStar pattern = after := by
    rw [afterStar, cut, List.dropWhile_append_of_pos kept]
    simp
  rw [first, last]
  exact ⟨cut, absent⟩

theorem matchesPattern_plain (plain : '*' ∉ pattern) (text : List Char) :
    matchesPattern tables pattern text = true ↔
      SameLetters tables.foldCase pattern text := by
  have parts : matchesPattern tables (pattern ++ []) text = true ↔ _ :=
    matchesPattern_append plain [] text
  rw [List.append_nil] at parts
  rw [parts]
  constructor
  · rintro ⟨first, rest, rfl, same, passed⟩
    rw [matchesPattern, List.isEmpty_iff] at passed
    rw [passed, List.append_nil]
    exact same
  · exact fun same => ⟨text, [], (List.append_nil text).symm, same, rfl⟩

theorem matchesPattern_star (star : '*' ∈ pattern) (text : List Char) :
    matchesPattern tables pattern text = true ↔
      ∃ first middle rest, text = first ++ (middle ++ rest) ∧
        SameLetters tables.foldCase (beforeStar pattern) first ∧
        '\n' ∉ middle ∧
        matchesPattern tables (afterStar pattern) rest = true := by
  rcases cut_star star with ⟨cut, plain⟩
  have parts : matchesPattern tables
      (beforeStar pattern ++ '*' :: afterStar pattern) text = true ↔ _ :=
    matchesPattern_append plain _ text
  rw [← cut] at parts
  rw [parts]
  simp only [matchesPattern, anyRest_iff]
  constructor
  · rintro ⟨first, _, rfl, same, middle, rest, rfl, lineless, passed⟩
    exact ⟨first, middle, rest, rfl, same, lineless, passed⟩
  · rintro ⟨first, middle, rest, rfl, same, lineless, passed⟩
    exact ⟨first, _, rfl, same, middle, rest, rfl, lineless, passed⟩

theorem SameLetters.length {foldCase : Char → Char} {first second : List Char}
    (same : SameLetters foldCase first second) :
    first.length = second.length := by
  have lengths := congrArg List.length same
  rwa [List.length_map, List.length_map] at lengths

theorem starPart_eq {foldCase : Char → Char} {pattern first middle last : List Char}
    (before : SameLetters foldCase (beforeStar pattern) first)
    (after : SameLetters foldCase (afterStar pattern) last) :
    starPart pattern (first ++ middle ++ last) = middle := by
  rw [starPart, before.length, after.length, List.append_assoc, List.drop_left]
  have count : (first ++ (middle ++ last)).length - first.length -
      last.length = middle.length := by
    simp only [List.length_append]
    omega
  rw [count, List.take_left]

theorem matchesPattern_iff
    (single : '*' ∉ afterStar pattern) (text : List Char) :
    matchesPattern tables pattern text = true ↔
      MatchesFirstStar tables.foldCase pattern text ∧
        ('*' ∈ pattern → '\n' ∉ starPart pattern text) := by
  by_cases star : '*' ∈ pattern
  · rw [matchesPattern_star star, MatchesFirstStar]
    simp only [matchesPattern_plain single]
    constructor
    · rintro ⟨first, middle, last, rfl, before, lineless, after⟩
      refine ⟨.inr ⟨star, first, middle, last, ?_, before, after⟩, ?_⟩
      · rw [List.append_assoc]
      · intro _
        rw [← List.append_assoc, starPart_eq before after]
        exact lineless
    · rintro ⟨⟨plain, -⟩ | ⟨-, first, middle, last, rfl, before, after⟩, lines⟩
      · exact absurd star plain
      · have lineless := lines star
        rw [starPart_eq before after] at lineless
        exact ⟨first, middle, last, List.append_assoc _ _ _, before, lineless,
          after⟩
  · rw [matchesPattern_plain star, MatchesFirstStar]
    simp [star]

end Reading

/-! ## Entries -/

section Entries

variable {tables : CaseTables}

theorem compiled_iff (pattern value : String) :
    (∃ regex, compileWhitelistPattern pattern = .ok regex ∧
        regex.isMatch tables.foldCase value = true) ↔
      Text.byteLength pattern ≤ maxPatternLen ∧
        matchesPattern tables pattern.toList value.toList = true := by
  by_cases short : Text.byteLength pattern ≤ maxPatternLen
  · rw [compileWhitelistPattern_ok short]
    simp only [Except.ok.injEq, exists_eq_left', Regex.isMatch,
      Regex.anyRun_start, if_true, matchItems_pattern, short, true_and]
  · rw [compileWhitelistPattern, if_pos (Nat.not_le.mp short)]
    simp [short]

theorem answersFirstStar_iff {pattern : String}
    (single : '*' ∉ afterStar pattern.toList) (value : String) :
    AnswersFirstStar tables.foldCase pattern value ↔
      (MatchesFirstStar tables.foldCase pattern.toList value.toList →
        Text.byteLength pattern ≤ maxPatternLen ∧
          ('*' ∈ pattern.toList →
            '\n' ∉ starPart pattern.toList value.toList)) := by
  rw [AnswersFirstStar, compiled_iff, matchesPattern_iff single]
  constructor
  · intro same matched
    have compiled := same.mpr matched
    exact ⟨compiled.1, compiled.2.2⟩
  · intro fits
    constructor
    · exact fun compiled => compiled.2.1
    · exact fun matched => ⟨(fits matched).1, matched, (fits matched).2⟩

theorem matchesFirstStar_self (pattern : List Char) :
    MatchesFirstStar tables.foldCase pattern pattern := by
  by_cases star : '*' ∈ pattern
  · refine .inr ⟨star, beforeStar pattern, ['*'], afterStar pattern, ?_, rfl,
      rfl⟩
    rw [List.append_assoc, List.singleton_append]
    exact (cut_star star).1
  · exact .inl ⟨star, rfl⟩

theorem starPart_self {pattern : List Char} (star : '*' ∈ pattern) :
    starPart pattern pattern = ['*'] := by
  have before : SameLetters id (beforeStar pattern) (beforeStar pattern) := rfl
  have after : SameLetters id (afterStar pattern) (afterStar pattern) := rfl
  have part : starPart pattern
      (beforeStar pattern ++ ['*'] ++ afterStar pattern) = ['*'] :=
    starPart_eq before after
  rw [List.append_assoc, List.singleton_append, ← (cut_star star).1] at part
  exact part

theorem not_matchesFirstStar_starless {pattern : List Char}
    (second : '*' ∈ afterStar pattern) :
    ¬ MatchesFirstStar tables.foldCase pattern
      (pattern.filter (· != '*')) := by
  have star : '*' ∈ pattern := by
    rw [afterStar] at second
    exact List.dropWhile_subset _ (List.mem_of_mem_drop second)
  rintro (⟨plain, -⟩ | ⟨-, first, middle, last, cut, before, after⟩)
  · exact plain star
  · have lengths := congrArg List.length cut
    have whole := (cut_star star).1
    have dropped : ((afterStar pattern).filter (· != '*')).length <
        (afterStar pattern).length := by
      rw [List.length_filter_lt_length_iff_exists]
      exact ⟨'*', second, by simp⟩
    have kept : ((beforeStar pattern).filter (· != '*')).length ≤
        (beforeStar pattern).length := List.length_filter_le _ _
    rw [whole, List.filter_append, List.filter_cons_of_neg (by simp)] at lengths
    simp only [List.length_append] at lengths
    have sameBefore := before.length
    have sameAfter := after.length
    omega

theorem answersFirstStar_all_iff (pattern : String) :
    (∀ value, (MatchesFirstStar tables.foldCase pattern.toList value.toList →
        '*' ∈ pattern.toList → '\n' ∉ starPart pattern.toList value.toList) →
      AnswersFirstStar tables.foldCase pattern value) ↔
      Text.byteLength pattern ≤ maxPatternLen ∧
        '*' ∉ afterStar pattern.toList := by
  constructor
  · intro answers
    have itself := answers pattern fun _ star => by
      rw [starPart_self star]
      decide
    rw [AnswersFirstStar, compiled_iff] at itself
    have short := (itself.mpr (matchesFirstStar_self _)).1
    refine ⟨short, ?_⟩
    intro second
    have refused : ¬ MatchesFirstStar tables.foldCase pattern.toList _ :=
      not_matchesFirstStar_starless second
    have starless := answers
      (String.ofList (pattern.toList.filter (· != '*')))
    rw [AnswersFirstStar, compiled_iff, String.toList_ofList] at starless
    exact refused ((starless fun matched => absurd matched refused).mp
      ⟨short, matchesPattern_starless _⟩)
  · rintro ⟨short, single⟩ value lineless
    rw [answersFirstStar_iff single]
    exact fun matched => ⟨short, lineless matched⟩

end Entries

/-! ## Runs of the cache -/

inductive CacheOp where
  | lookup (value : String) (times : LookupTimes)
  | invalidate (value : String)

namespace WhitelistCache

def apply (cache : WhitelistCache) : CacheOp → WhitelistCache
  | .lookup value times => (cache.getOrCompile value times).2
  | .invalidate value => cache.invalidate value

def after (ops : List CacheOp) : WhitelistCache :=
  ops.foldl apply new

/-- Every entry is the expression of its pattern. -/
def Sound (cache : WhitelistCache) : Prop :=
  ∀ entry ∈ cache.entries, compileWhitelistPattern entry.1 = .ok entry.2.1

variable {cache : WhitelistCache}

theorem Sound.cached (sound : cache.Sound)
    {value : String} {time : Nat} {regex : Regex}
    (found : cache.cached value time = some regex) :
    compileWhitelistPattern value = .ok regex := by
  rw [WhitelistCache.cached] at found
  cases looked : cache.entries.lookup value with
  | none =>
      rw [looked] at found
      cases found
  | some entry =>
      rw [looked] at found
      have kept : regex = entry.1 := by
        simp only at found
        split at found
        · cases found
          rfl
        · cases found
      rw [List.lookup_eq_some_iff] at looked
      rcases looked with ⟨before, later, cut, -⟩
      rw [kept]
      exact sound (value, entry) (by rw [cut]; simp)

theorem Sound.getOrCompile (sound : cache.Sound)
    (value : String) (times : LookupTimes) :
    (cache.getOrCompile value times).1 = compileWhitelistPattern value ∧
      (cache.getOrCompile value times).2.Sound := by
  rw [WhitelistCache.getOrCompile]
  cases found : cache.cached value times.readAt with
  | some regex => exact ⟨(sound.cached found).symm, sound⟩
  | none =>
      cases compiled : compileWhitelistPattern value with
      | error error => exact ⟨rfl, sound⟩
      | ok regex =>
          refine ⟨rfl, ?_⟩
          intro entry member
          rcases List.mem_cons.mp member with rfl | kept
          · exact compiled
          · exact sound entry (List.mem_of_mem_filter
              (List.mem_of_mem_filter kept))

theorem Sound.apply (sound : cache.Sound)
    (op : CacheOp) : (cache.apply op).Sound := by
  cases op with
  | lookup value times => exact (sound.getOrCompile value times).2
  | invalidate value =>
      exact fun entry member => sound entry (List.mem_of_mem_filter member)

theorem after_sound (ops : List CacheOp) : (after ops).Sound := by
  have run : ∀ (ops : List CacheOp) (cache : WhitelistCache), cache.Sound →
      (ops.foldl WhitelistCache.apply cache).Sound := by
    intro ops
    induction ops with
    | nil => exact fun _ sound => sound
    | cons op rest induction =>
        exact fun cache sound => induction _ (sound.apply op)
  exact run ops new nofun

end WhitelistCache

theorem isWhitelistedCached_eq {tables : CaseTables} (target : String)
    (times : String → LookupTimes) (values : List String)
    {cache : WhitelistCache} (sound : cache.Sound) :
    (isWhitelistedCached tables.foldCase target times values cache).1 =
      isWhitelistedWildcard tables values target := by
  induction values generalizing cache with
  | nil => rfl
  | cons value rest induction =>
      have lookup := sound.getOrCompile value (times value)
      have compiled : (∃ regex, compileWhitelistPattern value = .ok regex ∧
          regex.isMatch tables.foldCase target = true) ↔ _ :=
        compiled_iff value target
      rw [isWhitelistedCached, isWhitelistedWildcard, List.any_cons,
        ← isWhitelistedWildcard]
      rcases outcome : cache.getOrCompile value (times value) with
        ⟨error | regex, next⟩
      · rw [outcome] at lookup
        rw [← lookup.1] at compiled
        have refused : (decide (Text.byteLength value ≤ maxPatternLen) &&
            matchesPattern tables value.toList target.toList) = false := by
          rw [Bool.eq_false_iff, ne_eq, Bool.and_eq_true, decide_eq_true_iff,
            ← compiled]
          rintro ⟨regex, same, -⟩
          cases same
        rw [refused, Bool.false_or]
        exact induction lookup.2
      · rw [outcome] at lookup
        rw [← lookup.1] at compiled
        have answer : (decide (Text.byteLength value ≤ maxPatternLen) &&
            matchesPattern tables value.toList target.toList) =
            regex.isMatch tables.foldCase target := by
          rw [Bool.eq_iff_iff, Bool.and_eq_true, decide_eq_true_iff, ← compiled]
          simp
        rw [answer]
        simp only
        split
        · next matched => rw [matched, Bool.true_or]
        · next refused =>
            rw [Bool.eq_false_iff.mpr refused, Bool.false_or]
            exact induction lookup.2

/-- An entry with at most 128 bytes and one star answers as it should for values
of one line under the star, and only then; the cache answers like a fresh
compilation. -/
theorem whitelistPatterns_exact (tables : CaseTables) :
    (∀ pattern, (∀ value,
        (MatchesFirstStar tables.foldCase pattern.toList value.toList →
          '*' ∈ pattern.toList →
          '\n' ∉ starPart pattern.toList value.toList) →
        AnswersFirstStar tables.foldCase pattern value) ↔
      Text.byteLength pattern ≤ maxPatternLen ∧
        '*' ∉ afterStar pattern.toList) ∧
    (∀ pattern value, '*' ∉ afterStar pattern.toList →
      (AnswersFirstStar tables.foldCase pattern value ↔
        (MatchesFirstStar tables.foldCase pattern.toList value.toList →
          Text.byteLength pattern ≤ maxPatternLen ∧
            ('*' ∈ pattern.toList →
              '\n' ∉ starPart pattern.toList value.toList)))) ∧
    (∀ ops value times,
      ((WhitelistCache.after ops).getOrCompile value times).1 =
        compileWhitelistPattern value) ∧
    (∀ ops target times values,
      (isWhitelistedCached tables.foldCase target times values
        (WhitelistCache.after ops)).1 =
        isWhitelistedWildcard tables values target) := by
  refine ⟨answersFirstStar_all_iff, ?_, ?_, ?_⟩
  · exact fun pattern value single => answersFirstStar_iff single value
  · exact fun ops value times =>
      ((WhitelistCache.after_sound ops).getOrCompile value times).1
  · exact fun ops target times values => isWhitelistedCached_eq target times
      values (WhitelistCache.after_sound ops)

/-- The second star of a pattern is wild as well. -/
theorem second_star_wild :
    ¬ AnswersFirstStar Char.toLower "*@*.org" "ann@x.org" := by
  have compiled : ∃ regex, compileWhitelistPattern "*@*.org" = .ok regex ∧
      regex.isMatch Text.asciiTables.foldCase "ann@x.org" = true :=
    compiled_iff "*@*.org" "ann@x.org" |>.mpr (by decide)
  intro answers
  rcases answers.mp compiled with ⟨plain, -⟩ | ⟨-, first, middle, last, cut,
    -, after⟩
  · exact plain (by decide)
  · have lengths := congrArg List.length cut
    have six : last.length = 6 := after.length.symm
    have three : (first ++ middle).length = 3 := by
      rw [List.length_append, six] at lengths
      have nine : "ann@x.org".toList.length = 9 := rfl
      omega
    have ending : last = "ann@x.org".toList.drop 3 := by
      rw [cut, ← three, List.drop_left]
    rw [ending, SameLetters] at after
    exact absurd after (by decide)

end AimailGateway
