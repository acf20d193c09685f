import AimailGateway.Api.PullBatches
import AimailGateway.Library.Delimiters

/-! # Filters of a pull

A client names addresses and domains. They are sorted, turned into patterns with
one fixed start, and matched against the key that a row is stored under, which
is an address or a domain. This says which filters select by address.
-/

namespace AimailGateway

open Library Sql

namespace PullFilters

/-! ## Entries of a filter -/

/-- Domains and addresses, as the loop over the filter collects them. -/
structure Sorted where
  domains : List String
  remaining : List String

def sortEntry (sorted : Sorted) (raw : String) : Sorted :=
  let entry := Text.trim raw
  if entry = "" then sorted
  else if Text.containsChar '@' entry then
    { sorted with remaining := sorted.remaining ++ [entry] }
  else if entry ∈ sorted.domains then sorted
  else { sorted with domains := sorted.domains ++ [entry] }

/-- An address is kept when its domain is not there yet. -/
def absorb (result : List String) (entry : String) : List String :=
  if Text.lastPiece '@' entry ∈ result then result else result ++ [entry]

def preprocessPendingFilter (raw : List String) : List String :=
  let sorted := raw.foldl sortEntry ⟨[], []⟩
  if sorted.domains = [] then sorted.remaining
  else sorted.remaining.foldl absorb sorted.domains

structure PendingPollRequest where
  filter : List String
  emails : List String
  limit : Int

/-- The entries that become patterns; the addresses of `emails` count as their
domains. -/
def effectiveFilter (req : PendingPollRequest) : List String :=
  if req.filter ≠ [] then preprocessPendingFilter req.filter
  else (req.emails.map (Text.lastPiece '@')).eraseDups

/-! ## Rows -/

/-- `domain_addr LIKE '%@' || entry`. -/
def matchesKey (entry : String) (row : PendingDeliveryRecord) : Bool :=
  like ('%' :: '@' :: entry.toList) row.domainAddr.toList

def isOlder (first second : PendingDeliveryRecord) : Bool :=
  decide (first.createdAt ≤ second.createdAt)

/-- `LIMIT`; a negative one is none. -/
def limited (limit : Int) (rows : List PendingDeliveryRecord) :
    List PendingDeliveryRecord :=
  if limit < 0 then rows else rows.take limit.toNat

/-- The oldest rows of a system that a condition selects. -/
def oldest (table : PendingTable) (systemId : String) (limit : Int)
    (selects : PendingDeliveryRecord → Bool) : List PendingDeliveryRecord :=
  limited limit ((table.select fun row =>
    row.systemId == systemId && selects row).mergeSort isOlder)

section Query

-- Whether the engine takes a condition of so many alternatives, which its
-- limits of parameters and of nesting decide.
variable (accepts : Nat → Bool) (table : PendingTable) (systemId : String)

def listPendingDeliveries (limit : Int) (domains : Option (List String)) :
    Except AppError (List PendingDeliveryRecord) :=
  match domains with
  | some (entry :: entries) =>
      if accepts (entry :: entries).length then
        .ok (oldest table systemId limit fun row =>
          (entry :: entries).any (matchesKey · row))
      else .error (.database "Expression tree is too large")
  | _ => .ok (oldest table systemId limit fun _ => true)

/-- `pending_records_for` of a key that is not bound to an address. -/
def pendingRecordsFor (req : PendingPollRequest) :
    Except AppError (List PendingDeliveryRecord) :=
  let effective := effectiveFilter req
  listPendingDeliveries accepts table systemId req.limit
    (if effective = [] then none else some effective)

end Query

/-! ## Selection by address -/

def namedEntries (req : PendingPollRequest) : List String :=
  if req.filter ≠ [] then (req.filter.map Text.trim).filter (· != "")
  else req.emails

/-- The recipient is the address of the entry, or lies in its domain. -/
def isMeant (row : PendingDeliveryRecord) (entry : String) : Bool :=
  if Text.containsChar '@' entry then Text.eqIgnoreAsciiCase row.email entry
  else Text.eqIgnoreAsciiCase (Text.lastPiece '@' row.email) entry

def isMeantBy (entries : List String) (row : PendingDeliveryRecord) : Bool :=
  entries.isEmpty || entries.any (isMeant row)

def isSelectedBy (effective : List String) (row : PendingDeliveryRecord) : Bool :=
  effective.isEmpty || effective.any (matchesKey · row)

/-- With every limit, the oldest rows that the entries mean are returned. -/
def SelectsByAddress (accepts : Nat → Bool) (table : PendingTable)
    (systemId : String) (req : PendingPollRequest) : Prop :=
  ∀ limit, pendingRecordsFor accepts table systemId { req with limit } =
    .ok (oldest table systemId limit (isMeantBy (namedEntries req)))

/-! ## Keys of the rows -/

/-- `resolve_domain_from_address`: the registration of the address, else that of
its domain. -/
def resolveDomainFromAddress (domains : SystemDomains) (address : String) :
    Option SystemDomainRecord :=
  (domains.find? (·.domain == address)).or
    (domains.find? (·.domain == Text.lastPiece '@' address))

/-- The key of a row of `process_email_webhook`: the address when the mail has an
endpoint of its name, else what is registered. -/
def pendingKey (endpoints : List String) (address : String)
    (record : SystemDomainRecord) : String :=
  if address ∈ endpoints then address else record.domain

def Written (row : PendingDeliveryRecord) : Prop :=
  ∃ domains endpoints record,
    resolveDomainFromAddress domains row.email = some record ∧
    row.systemId = record.systemId ∧
    row.domainAddr = pendingKey endpoints row.email record

/-- What stands behind an `@` of the text. -/
def behindAt : List Char → List (List Char)
  | [] => []
  | head :: rest => if head = '@' then rest :: behindAt rest else behindAt rest

/-- The entry, as a pattern, matches what stands behind an `@` of the address. -/
def Covers (entry address : String) : Prop :=
  ∃ part ∈ behindAt address.toList, like entry.toList part = true

/-- A row is stored under its address and covered by an entry that is kept, if
the entries mean it, and is not covered under its address otherwise. -/
structure Reached (req : PendingPollRequest) (row : PendingDeliveryRecord) :
    Prop where
  keyed : isMeantBy (namedEntries req) row = true → row.domainAddr = row.email
  named : isMeantBy (namedEntries req) row = true →
    ∃ entry ∈ effectiveFilter req, Covers entry row.email
  strict : row.domainAddr = row.email →
    (∃ entry ∈ effectiveFilter req, Covers entry row.email) →
      isMeantBy (namedEntries req) row = true

/-- The request names no entry, or the engine takes the condition and the rows
of the system are reached. -/
def Reachable (accepts : Nat → Bool) (table : PendingTable) (systemId : String)
    (req : PendingPollRequest) : Prop :=
  namedEntries req = [] ∨ accepts (effectiveFilter req).length = true ∧
    ∀ row ∈ table, row.systemId = systemId → Reached req row

/-- The engine takes the condition, and the patterns match the keys of just the
rows that the entries mean. -/
structure Alike (accepts : Nat → Bool) (table : PendingTable)
    (systemId : String) (req : PendingPollRequest) : Prop where
  accepted : effectiveFilter req = [] ∨
    accepts (effectiveFilter req).length = true
  rows : ∀ row ∈ table, row.systemId = systemId →
    isSelectedBy (effectiveFilter req) row = isMeantBy (namedEntries req) row

/-! ## Queries and rows -/

section Selection

variable {accepts : Nat → Bool} {table : PendingTable} {systemId : String}
  {req : PendingPollRequest}
  {first second : PendingDeliveryRecord → Bool}

theorem pendingRecordsFor_eq
    (accepted : effectiveFilter req = [] ∨
      accepts (effectiveFilter req).length = true) (limit : Int) :
    pendingRecordsFor accepts table systemId { req with limit } =
      .ok (oldest table systemId limit (isSelectedBy (effectiveFilter req))) := by
  have same : effectiveFilter { req with limit } = effectiveFilter req := rfl
  rw [pendingRecordsFor, same]
  cases effective : effectiveFilter req with
  | nil => rfl
  | cons entry entries =>
      rw [effective] at accepted
      have taken := accepted.resolve_left (List.cons_ne_nil _ _)
      rw [if_neg (List.cons_ne_nil _ _), listPendingDeliveries, if_pos taken]
      rfl

theorem eq_of_oldest_eq
    (same : oldest table systemId (-1) first = oldest table systemId (-1) second) :
    ∀ row ∈ table, row.systemId = systemId → first row = second row := by
  intro row there own
  have members := congrArg (row ∈ ·) same
  simp only [oldest, limited, if_pos (by decide : (-1 : Int) < 0),
    List.mem_mergeSort, Table.mem_select, there, true_and, own, BEq.rfl,
    Bool.true_and, eq_iff_iff] at members
  exact Bool.eq_iff_iff.mpr members

theorem oldest_congr
    (agree : ∀ row ∈ table, row.systemId = systemId → first row = second row)
    (limit : Int) :
    oldest table systemId limit first = oldest table systemId limit second := by
  have selected : (table.select fun row =>
        row.systemId == systemId && first row) =
      table.select fun row => row.systemId == systemId && second row := by
    apply List.filter_congr
    intro row there
    by_cases own : row.systemId = systemId
    · rw [agree row there own]
    · rw [beq_false_of_ne own, Bool.false_and, Bool.false_and]
  rw [oldest, selected, ← oldest]

theorem selectsByAddress_iff :
    SelectsByAddress accepts table systemId req ↔
      Alike accepts table systemId req := by
  constructor
  · intro selects
    have accepted : effectiveFilter req = [] ∨
        accepts (effectiveFilter req).length = true := by
      have unlimited := selects (-1)
      have same : effectiveFilter { req with limit := -1 } = effectiveFilter req :=
        rfl
      rw [pendingRecordsFor, same] at unlimited
      cases effective : effectiveFilter req with
      | nil => exact .inl rfl
      | cons entry entries =>
          rw [effective, if_neg (List.cons_ne_nil _ _), listPendingDeliveries]
            at unlimited
          split at unlimited
          · next taken => exact .inr taken
          · cases unlimited
    refine ⟨accepted, eq_of_oldest_eq ?_⟩
    have unlimited := selects (-1)
    rw [pendingRecordsFor_eq accepted, Except.ok.injEq] at unlimited
    exact unlimited
  · rintro ⟨accepted, rows⟩ limit
    rw [pendingRecordsFor_eq accepted, oldest_congr rows]

end Selection

/-! ## What the sorting keeps -/

section Sorting

theorem sortEntry_append (raw : List String) (entry : String) :
    (raw ++ [entry]).foldl sortEntry ⟨[], []⟩ =
      sortEntry (raw.foldl sortEntry ⟨[], []⟩) entry := by
  rw [List.foldl_append]
  rfl

/-- The domains and the addresses are the entries without and with an `@`. -/
theorem mem_sorted (raw : List String) (entry : String) :
    (entry ∈ (raw.foldl sortEntry ⟨[], []⟩).domains ↔
      entry ∈ (raw.map Text.trim).filter (· != "") ∧
        Text.containsChar '@' entry = false) ∧
    (entry ∈ (raw.foldl sortEntry ⟨[], []⟩).remaining ↔
      entry ∈ (raw.map Text.trim).filter (· != "") ∧
        Text.containsChar '@' entry = true) := by
  induction raw using List.reverseRecOn with
  | nil => simp
  | append_singleton raw last induction =>
      rw [sortEntry_append, sortEntry, List.map_append, List.filter_append]
      generalize raw.foldl sortEntry ⟨[], []⟩ = sorted at induction ⊢
      generalize trimmed : Text.trim last = text
      obtain ⟨domains, remaining⟩ := induction
      have single : (List.map Text.trim [last]).filter (· != "") =
          if text = "" then [] else [text] := by
        rw [List.map_singleton, trimmed]
        by_cases empty : text = ""
        · simp [empty]
        · simp [empty]
      rw [single]
      by_cases empty : text = ""
      · simp only [if_pos empty, List.append_nil]
        exact ⟨domains, remaining⟩
      · simp only [if_neg empty, List.mem_append, List.mem_singleton]
        cases address : Text.containsChar '@' text with
        | true =>
            simp only [if_true, List.mem_append, List.mem_singleton]
            constructor
            · rw [domains]
              constructor
              · rintro ⟨inside, bare⟩
                exact ⟨.inl inside, bare⟩
              · rintro ⟨inside | rfl, bare⟩
                · exact ⟨inside, bare⟩
                · rw [address] at bare
                  cases bare
            · rw [remaining]
              constructor
              · rintro (⟨inside, full⟩ | rfl)
                · exact ⟨.inl inside, full⟩
                · exact ⟨.inr rfl, address⟩
              · rintro ⟨inside | rfl, full⟩
                · exact .inl ⟨inside, full⟩
                · exact .inr rfl
        | false =>
            have kept : entry ∈ (if text ∈ sorted.domains then sorted
                else { sorted with
                  domains := sorted.domains ++ [text] }).remaining ↔
                entry ∈ sorted.remaining := by
              split <;> rfl
            have added : entry ∈ (if text ∈ sorted.domains then sorted
                else { sorted with
                  domains := sorted.domains ++ [text] }).domains ↔
                entry ∈ sorted.domains ∨ entry = text := by
              split
              · next known =>
                  constructor
                  · exact .inl
                  · rintro (inside | rfl)
                    · exact inside
                    · exact known
              · simp
            simp only [if_neg Bool.false_ne_true]
            rw [kept, added]
            constructor
            · rw [domains]
              constructor
              · rintro (⟨inside, bare⟩ | rfl)
                · exact ⟨.inl inside, bare⟩
                · exact ⟨.inr rfl, address⟩
              · rintro ⟨inside | rfl, bare⟩
                · exact .inl ⟨inside, bare⟩
                · exact .inr rfl
            · rw [remaining]
              constructor
              · rintro ⟨inside, full⟩
                exact ⟨.inl inside, full⟩
              · rintro ⟨inside | rfl, full⟩
                · exact ⟨inside, full⟩
                · rw [address] at full
                  cases full

variable {remaining domains : List String}
  {entry : String}

theorem mem_absorbed (inside : entry ∈ remaining.foldl absorb domains) :
    entry ∈ domains ∨ entry ∈ remaining := by
  induction remaining using List.reverseRecOn with
  | nil => exact .inl inside
  | append_singleton remaining last induction =>
      rw [List.foldl_append, List.foldl_cons, List.foldl_nil, absorb] at inside
      split at inside
      · exact (induction inside).imp_right (List.mem_append_left _)
      · rcases List.mem_append.mp inside with before | same
        · exact (induction before).imp_right (List.mem_append_left _)
        · exact .inr (List.mem_append_right _ same)

theorem absorbed_keeps
    (inside : entry ∈ domains) : entry ∈ remaining.foldl absorb domains := by
  induction remaining using List.reverseRecOn with
  | nil => exact inside
  | append_singleton remaining last induction =>
      rw [List.foldl_append, List.foldl_cons, List.foldl_nil, absorb]
      split
      · exact induction
      · exact List.mem_append_left _ induction

theorem absorbed_covers (inside : entry ∈ remaining) :
    entry ∈ remaining.foldl absorb domains ∨
      Text.lastPiece '@' entry ∈ remaining.foldl absorb domains := by
  induction remaining using List.reverseRecOn with
  | nil => cases inside
  | append_singleton remaining last induction =>
      rw [List.foldl_append, List.foldl_cons, List.foldl_nil]
      have grows : ∀ other, other ∈ remaining.foldl absorb domains →
          other ∈ absorb (remaining.foldl absorb domains) last := by
        intro other there
        rw [absorb]
        split
        · exact there
        · exact List.mem_append_left _ there
      rcases List.mem_append.mp inside with before | same
      · exact (induction before).imp (grows _) (grows _)
      · rw [List.mem_singleton.mp same, absorb]
        split
        · next covered => exact .inr covered
        · exact .inl (List.mem_append_right _ (List.mem_singleton_self _))

end Sorting

/-! ## What the sorting means -/

section Meaning

variable {row : PendingDeliveryRecord}
  {entry : String}

theorem toLower_ne_at (character : Char) :
    (character.toLower != '@') = (character != '@') := by
  rw [bne, bne, Bool.not_inj_iff, Bool.eq_iff_iff, beq_iff_eq, beq_iff_eq]
  delta Char.toLower
  split
  · next capital =>
      constructor
      · intro same
        have values := congrArg Char.val same
        grind
      · intro same
        rw [same] at capital
        exact absurd capital (by decide)
  · rfl

theorem lower_lastPiece (text : String) :
    Text.toAsciiLowercase (Text.lastPiece '@' text) =
      Text.lastPiece '@' (Text.toAsciiLowercase text) := by
  have kept : ((· != '@') ∘ Char.toLower) = fun character : Char =>
      character != '@' := by
    funext character
    exact toLower_ne_at character
  simp only [Text.toAsciiLowercase, Text.lastPiece, String.toList_ofList,
    List.rtakeWhile, ← List.map_reverse, List.takeWhile_map, kept]

theorem lastPiece_bare (entry : String) :
    Text.containsChar '@' (Text.lastPiece '@' entry) = false := by
  rw [Text.containsChar_eq_false_iff]
  exact Text.not_mem_lastPiece

theorem isMeant_domain (address : Text.containsChar '@' entry = true)
    (meant : isMeant row entry = true) :
    isMeant row (Text.lastPiece '@' entry) = true := by
  rw [isMeant, if_pos address, Text.eqIgnoreAsciiCase, beq_iff_eq] at meant
  rw [isMeant, lastPiece_bare, if_neg Bool.false_ne_true, Text.eqIgnoreAsciiCase,
    beq_iff_eq, lower_lastPiece, lower_lastPiece, meant]

theorem mem_preprocess {raw : List String}
    (inside : entry ∈ preprocessPendingFilter raw) :
    entry ∈ (raw.map Text.trim).filter (· != "") := by
  rw [preprocessPendingFilter] at inside
  split at inside
  · exact ((mem_sorted raw entry).2.mp inside).1
  · rcases mem_absorbed inside with domain | address
    · exact ((mem_sorted raw entry).1.mp domain).1
    · exact ((mem_sorted raw entry).2.mp address).1

theorem preprocess_covers {raw : List String}
    (inside : entry ∈ (raw.map Text.trim).filter (· != "")) :
    entry ∈ preprocessPendingFilter raw ∨
      Text.containsChar '@' entry = true ∧
        Text.lastPiece '@' entry ∈ preprocessPendingFilter raw := by
  rw [preprocessPendingFilter]
  cases address : Text.containsChar '@' entry with
  | true =>
      have listed := (mem_sorted raw entry).2.mpr ⟨inside, address⟩
      split
      · exact .inl listed
      · exact (absorbed_covers listed).imp_right fun covered => ⟨rfl, covered⟩
  | false =>
      have listed := (mem_sorted raw entry).1.mpr ⟨inside, address⟩
      rw [if_neg (List.ne_nil_of_mem listed)]
      exact .inl (absorbed_keeps listed)

theorem preprocess_isEmpty (raw : List String) :
    (preprocessPendingFilter raw).isEmpty =
      ((raw.map Text.trim).filter (· != "")).isEmpty := by
  rw [Bool.eq_iff_iff, List.isEmpty_iff, List.isEmpty_iff]
  constructor
  · intro none
    rw [List.eq_nil_iff_forall_not_mem] at none ⊢
    intro entry inside
    rcases preprocess_covers inside with kept | ⟨-, covered⟩
    · exact none entry kept
    · exact none _ covered
  · intro none
    rw [List.eq_nil_iff_forall_not_mem] at none ⊢
    exact fun entry inside => none entry (mem_preprocess inside)

theorem preprocess_meant (raw : List String) (row : PendingDeliveryRecord) :
    isMeantBy (preprocessPendingFilter raw) row =
      isMeantBy ((raw.map Text.trim).filter (· != "")) row := by
  have some : (preprocessPendingFilter raw).any (isMeant row) =
      ((raw.map Text.trim).filter (· != "")).any (isMeant row) := by
    rw [Bool.eq_iff_iff, List.any_eq_true, List.any_eq_true]
    constructor
    · rintro ⟨entry, inside, meant⟩
      exact ⟨entry, mem_preprocess inside, meant⟩
    · rintro ⟨entry, inside, meant⟩
      rcases preprocess_covers inside with kept | ⟨address, covered⟩
      · exact ⟨entry, kept, meant⟩
      · exact ⟨_, covered, isMeant_domain address meant⟩
  rw [isMeantBy, preprocess_isEmpty, some, ← isMeantBy]

theorem effectiveFilter_eq_nil {req : PendingPollRequest} :
    effectiveFilter req = [] ↔ namedEntries req = [] := by
  rw [effectiveFilter, namedEntries]
  split
  · rw [← List.isEmpty_iff, preprocess_isEmpty, List.isEmpty_iff]
  · simp [List.eq_nil_iff_forall_not_mem, List.mem_eraseDups]

end Meaning

/-! ## Keys out of reach -/

section Reach

theorem exists_suffix_of_anySuffix {passes : List Char → Bool} {text : List Char}
    (some : anySuffix passes text = true) :
    ∃ suffix, suffix <:+ text ∧ passes suffix = true := by
  induction text with
  | nil => exact ⟨[], List.suffix_refl _, some⟩
  | cons head tail induction =>
      rw [anySuffix, Bool.or_eq_true] at some
      rcases some with whole | later
      · exact ⟨head :: tail, List.suffix_refl _, whole⟩
      · obtain ⟨suffix, ends, found⟩ := induction later
        exact ⟨suffix, ends.trans (List.suffix_cons _ _), found⟩

/-- A pattern asks for each of its `@`. -/
theorem count_le_of_like {pattern text : List Char}
    (found : like pattern text = true) : pattern.count '@' ≤ text.count '@' := by
  induction pattern generalizing text with
  | nil =>
      rw [List.count_nil]
      exact Nat.zero_le _
  | cons expected pattern induction =>
      by_cases wild : expected = '%'
      · rw [wild, like] at found
        obtain ⟨suffix, ends, rest⟩ := exists_suffix_of_anySuffix found
        rw [wild, List.count_cons_of_ne (by decide)]
        exact (induction rest).trans (ends.sublist.count_le '@')
      · cases text with
        | nil => simp [like] at found
        | cons head text =>
            by_cases any : expected = '_'
            · rw [any, like] at found
              rw [any, List.count_cons_of_ne (by decide), List.count_cons]
              exact (induction found).trans (Nat.le_add_right _ _)
            · rw [like, Bool.and_eq_true] at found
              · have inner := induction found.2
                rw [List.count_cons, List.count_cons]
                split
                · next at_sign =>
                    have same : head = '@' := by
                      have lower := beq_iff_eq.mp found.1
                      rw [beq_iff_eq.mp at_sign] at lower
                      have reading := toLower_ne_at head
                      rw [← lower] at reading
                      simpa using reading
                    rw [same, if_pos BEq.rfl]
                    omega
                · exact Nat.le_trans inner (Nat.le_add_right _ _)
              · exact wild
              · exact any

theorem mem_behindAt {text part : List Char} (inside : part ∈ behindAt text) :
    ('@' :: part) <:+ text := by
  induction text with
  | nil => cases inside
  | cons head rest induction =>
      rw [behindAt] at inside
      split at inside
      · next at_sign =>
          rcases List.mem_cons.mp inside with here | later
          · subst here at_sign
            exact List.suffix_refl _
          · exact (induction later).trans (List.suffix_cons _ _)
      · exact (induction inside).trans (List.suffix_cons _ _)

/-- An entry with as many `@` as the address, such as an address, covers
nothing. -/
theorem not_covers_of_count {entry address : String}
    (fewer : address.toList.count '@' ≤ entry.toList.count '@') :
    ¬ Covers entry address := by
  rintro ⟨part, inside, found⟩
  have needed := count_le_of_like found
  have sum := (mem_behindAt inside).sublist.count_le '@'
  rw [List.count_cons_self] at sum
  omega

theorem matchesKey_iff {entry : String} {row : PendingDeliveryRecord} :
    matchesKey entry row = true ↔ Covers entry row.domainAddr := by
  rw [matchesKey, like, Covers]
  induction row.domainAddr.toList with
  | nil =>
      refine iff_of_false ?_ ?_
      · rw [anySuffix, like]
        · exact Bool.false_ne_true
        · decide
      · rintro ⟨part, inside, _⟩
        cases inside
  | cons head rest induction =>
      rw [anySuffix, Bool.or_eq_true, induction, behindAt, like, Bool.and_eq_true]
      · by_cases at_sign : head = '@'
        · rw [if_pos at_sign, at_sign]
          simp only [BEq.rfl, true_and, List.mem_cons, exists_eq_or_imp]
        · have other : ('@'.toLower == head.toLower) = false := by
            have reading := toLower_ne_at head
            rw [bne_iff_ne.mpr at_sign, bne_iff_ne] at reading
            exact beq_false_of_ne fun same => reading same.symm
          rw [if_neg at_sign, other]
          simp only [Bool.false_eq_true, false_and, false_or]
      · decide
      · decide

theorem cut_mem_behindAt {text before after : List Char}
    (cut : text = before ++ '@' :: after) : after ∈ behindAt text := by
  subst cut
  induction before with
  | nil => exact List.mem_cons_self
  | cons head rest induction =>
      rw [List.cons_append, behindAt]
      split
      · exact List.mem_cons_of_mem _ induction
      · exact induction

theorem at_not_mem_of_lower {part entry : List Char}
    (same : part.map Char.toLower = entry.map Char.toLower)
    (domain : '@' ∉ entry) : '@' ∉ part := by
  intro inside
  have lowered : '@' ∈ entry.map Char.toLower := by
    rw [← same]
    exact List.mem_map.mpr ⟨'@', inside, by decide⟩
  rcases List.mem_map.mp lowered with ⟨character, member, lower⟩
  have reading := toLower_ne_at character
  rw [lower] at reading
  have found : character = '@' := by simpa using reading.symm
  exact domain (found ▸ member)

theorem behindAt_bare {text : List Char} (bare : '@' ∉ text) :
    behindAt text = [] := by
  induction text with
  | nil => rfl
  | cons head rest induction =>
      rw [List.mem_cons, not_or] at bare
      rw [behindAt, if_neg (Ne.symm bare.1), induction bare.2]

theorem like_plain {pattern text : List Char}
    (plain : '%' ∉ pattern ∧ '_' ∉ pattern) :
    like pattern text = true ↔ text.map Char.toLower = pattern.map Char.toLower := by
  induction pattern generalizing text with
  | nil => cases text <;> simp [like]
  | cons expected pattern induction =>
      simp only [List.mem_cons, not_or] at plain
      cases text with
      | nil =>
          rw [like]
          · simp
          · exact Ne.symm plain.1.1
      | cons head text =>
          rw [like, Bool.and_eq_true, induction ⟨plain.1.2, plain.2.2⟩, beq_iff_eq,
            List.map_cons, List.map_cons, List.cons.injEq, eq_comm]
          · exact Ne.symm plain.1.1
          · exact Ne.symm plain.2.1

theorem covers_domain {entry address : String}
    (plain : '%' ∉ entry.toList ∧ '_' ∉ entry.toList)
    (domain : '@' ∉ entry.toList) (located : '@' ∈ address.toList) :
    Covers entry address ↔
      Text.eqIgnoreAsciiCase (Text.lastPiece '@' address) entry = true := by
  have same (part : List Char) : like entry.toList part = true ↔
      Text.eqIgnoreAsciiCase (String.ofList part) entry = true := by
    rw [like_plain plain, Text.eqIgnoreAsciiCase, beq_iff_eq,
      Text.toAsciiLowercase, Text.toAsciiLowercase, String.toList_ofList,
      String.ofList_inj]
  constructor
  · rintro ⟨part, inside, found⟩
    have bare := at_not_mem_of_lower ((like_plain plain).mp found) domain
    rcases mem_behindAt inside with ⟨before, cut⟩
    rw [Text.lastPiece_cut cut.symm bare]
    exact (same part).mp found
  · intro equal
    rcases Text.exists_last_cut located with ⟨before, after, cut, bare⟩
    rw [Text.lastPiece_cut cut bare] at equal
    exact ⟨after, cut_mem_behindAt cut, (same after).mpr equal⟩

theorem Written.key {row : PendingDeliveryRecord} (written : Written row) :
    row.domainAddr = row.email ∨
      row.domainAddr = Text.lastPiece '@' row.email := by
  rcases written with ⟨domains, endpoints, record, resolved, _, key⟩
  rw [key, pendingKey]
  split
  · exact .inl rfl
  · rw [resolveDomainFromAddress, Option.or_eq_some_iff] at resolved
    rcases resolved with direct | ⟨_, fallback⟩
    · exact .inl (by simpa using (Table.mem_of_find? direct).2)
    · exact .inr (by simpa using (Table.mem_of_find? fallback).2)

theorem selected_iff_reached {req : PendingPollRequest}
    {row : PendingDeliveryRecord} (some : namedEntries req ≠ [])
    (written : Written row) :
    isSelectedBy (effectiveFilter req) row = isMeantBy (namedEntries req) row ↔
      Reached req row := by
  have entries : (effectiveFilter req).isEmpty = false := by
    rw [Bool.eq_false_iff, ne_eq, List.isEmpty_iff, effectiveFilter_eq_nil]
    exact some
  have selected : isSelectedBy (effectiveFilter req) row = true ↔
      row.domainAddr = row.email ∧
        ∃ entry ∈ effectiveFilter req, Covers entry row.email := by
    rw [isSelectedBy, entries, Bool.false_or, List.any_eq_true]
    simp only [matchesKey_iff]
    constructor
    · rintro ⟨entry, inside, covers⟩
      rcases written.key with own | bare
      · exact ⟨own, entry, inside, own ▸ covers⟩
      · rcases covers with ⟨part, behind, _⟩
        rw [bare, behindAt_bare Text.not_mem_lastPiece] at behind
        cases behind
    · rintro ⟨own, entry, inside, covers⟩
      exact ⟨entry, inside, own ▸ covers⟩
  rw [Bool.eq_iff_iff, selected]
  constructor
  · intro same
    exact ⟨fun meant => (same.mpr meant).1, fun meant => (same.mpr meant).2,
      fun own covered => same.mp ⟨own, covered⟩⟩
  · intro reached
    exact ⟨fun both => reached.strict both.1 both.2,
      fun meant => ⟨reached.keyed meant, reached.named meant⟩⟩

end Reach

end PullFilters

namespace PullFilters

/-! A row stored under its address, or under its domain. -/

def keyedRow (domainAddr : String) : PendingDeliveryRecord :=
  ⟨1, "sys-a", domainAddr, "ann@a.test", "\x7b\x7d", "\x7b\x7d", "pending",
    "2026-01-01 00:00:00"⟩

def keyedTable (domainAddr : String) : PendingTable where
  rows := [keyedRow domainAddr]
  distinct := List.pairwise_singleton _ _

def byAddress : PendingPollRequest := ⟨["ann@a.test"], [], 50⟩
def byDomain : PendingPollRequest := ⟨["a.test"], [], 50⟩

theorem keyedTable_written (registered : SystemDomains) {domainAddr : String}
    (endpoints : List String) {record : SystemDomainRecord}
    (resolved : resolveDomainFromAddress registered "ann@a.test" = some record)
    (own : record.systemId = "sys-a")
    (key : domainAddr = pendingKey endpoints "ann@a.test" record) :
    ∀ row ∈ keyedTable domainAddr, Written row := by
  intro row member
  rw [List.mem_singleton.mp member]
  exact ⟨registered, endpoints, record, resolved, own.symm, key⟩

/-- `a.test` is registered as a domain. -/
def registeredDomain : SystemDomains :=
  ⟨[⟨"d1", "sys-a", "a.test", none, none, true, 0, 0⟩],
    List.pairwise_singleton _ _⟩

/-- A row of another domain beside one under its address. -/
def mixedTable : PendingTable where
  rows := [keyedRow "ann@a.test", { keyedRow "b.test" with
    id := 2, email := "bob@b.test" }]
  distinct := by decide

def registeredBoth : SystemDomains :=
  ⟨[⟨"d1", "sys-a", "a.test", none, none, true, 0, 0⟩,
    ⟨"d2", "sys-a", "b.test", none, none, true, 0, 0⟩], by decide⟩

end PullFilters

end AimailGateway
