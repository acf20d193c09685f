import AimailGateway.Scheduler.Attempts

/-! # The counts over a run

What the threads know agrees with the rows and the notes, and no two threads
know of one email. One lemma for each kind of request carries this over a
step.
-/

namespace AimailGateway.Scheduler

open Library Program Storage

/-! ## Notes and other emails -/

section Notes

variable {thread other : Thread} {id emailId : String} {succeeded : Bool}
  {notes : List Note}

@[simp] theorem attempts_attempted :
    attempts (.attempted thread id succeeded :: notes) emailId =
      attempts notes emailId + if id = emailId then 1 else 0 := by
  rw [attempts, List.countP_cons]
  by_cases same : id = emailId <;> simp [Note.isAttempt, same, attempts]

@[simp] theorem attempts_recorded :
    attempts (.recorded thread id :: notes) emailId = attempts notes emailId := by
  simp [attempts, Note.isAttempt]

@[simp] theorem failures_attempted :
    failures (.attempted thread id succeeded :: notes) emailId =
      failures notes emailId +
        if id = emailId ∧ succeeded = false then 1 else 0 := by
  rw [failures, List.countP_cons]
  by_cases same : id = emailId <;> cases succeeded <;>
    simp [Note.isFailure, same, failures]

@[simp] theorem failures_recorded :
    failures (.recorded thread id :: notes) emailId = failures notes emailId := by
  simp [failures, Note.isFailure]

theorem unwritten_attempted_same :
    unwritten thread id (.attempted thread id succeeded :: notes) =
      some succeeded := by
  simp [unwritten]

theorem unwritten_attempted_other (different : ¬ (other = thread ∧ emailId = id)) :
    unwritten thread id (.attempted other emailId succeeded :: notes) =
      unwritten thread id notes := by
  rw [unwritten, if_neg different]

theorem unwritten_recorded_other (different : ¬ (other = thread ∧ emailId = id)) :
    unwritten thread id (.recorded other emailId :: notes) =
      unwritten thread id notes := by
  rw [unwritten, if_neg different]

end Notes

/-! ## The invariant -/

/-- Where an email is while a thread works on it. -/
def Placed (thread : Thread) (row : EmailRecord) : Prop :=
  row.status ≠ .readying ∧ (thread ≠ .batch → row.status ≠ .ready)

/-- What a thread knows of an email is so. -/
def Fits (notes : List Note) (thread : Thread) (row : EmailRecord) :
    Hold → Prop
  | .held count limit =>
      count < limit ∧ row.sendCount = count ∧ row.maxAttempts = limit ∧
        attempts notes row.id = count ∧ failures notes row.id = count ∧
          Placed thread row
  | .tried count limit succeeded =>
      count < limit ∧ row.sendCount = count ∧ row.maxAttempts = limit ∧
        attempts notes row.id = count + 1 ∧
          failures notes row.id = count + (if succeeded then 0 else 1) ∧
            unwritten thread row.id notes = some succeeded ∧ Placed thread row
  | .gone => False

/-- The count of an email no thread works on. -/
structure Settled (notes : List Note) (row : EmailRecord) : Prop where
  counted : (failures notes row.id : Int) = row.sendCount
  bounded : (attempts notes row.id : Int) ≤ row.maxAttempts
  retried : row.status = .readying ∨ row.status = .ready →
    (attempts notes row.id : Int) = row.sendCount

structure Tally (emails : Emails) (issued : List String) (notes : List Note)
    (views : Thread → View) : Prop where
  alone : ∀ first second id, views first id ≠ none → views second id ≠ none →
    first = second
  issuedRows : ∀ row ∈ emails, row.id ∈ issued
  limits : ∀ row ∈ emails, 0 < row.maxAttempts
  fresh : ∀ id, id ∉ issued → attempts notes id = 0 ∧ failures notes id = 0 ∧
    ∀ thread, views thread id = none
  held : ∀ row ∈ emails, ∀ thread hold, views thread row.id = some hold →
    Fits notes thread row hold
  free : ∀ row ∈ emails, (∀ thread, views thread row.id = none) →
    Settled notes row

/-- Emails that were there keep their count or get a larger one. -/
def Raised (issued : List String) (before after : Emails) : Prop :=
  ∀ row ∈ after, row.id ∈ issued →
    ∃ old ∈ before, old.id = row.id ∧ old.sendCount ≤ row.sendCount

/-- The notes about other emails stay as they are. -/
structure SameNotes (id : String) (before after : List Note) : Prop where
  attempts : ∀ other, other ≠ id →
    attempts after other = attempts before other
  failures : ∀ other, other ≠ id →
    failures after other = failures before other
  unwritten : ∀ thread other, other ≠ id →
    unwritten thread other after = unwritten thread other before

namespace SameNotes

variable {notes : List Note} {thread : Thread} {id : String} {succeeded : Bool}

theorem refl : SameNotes id notes notes :=
  ⟨fun _ _ => rfl, fun _ _ => rfl, fun _ _ _ => rfl⟩

theorem attempted :
    SameNotes id notes (.attempted thread id succeeded :: notes) where
  attempts other different := by
    rw [attempts_attempted, if_neg (Ne.symm different), Nat.add_zero]
  failures other different := by
    rw [failures_attempted, if_neg fun both => different both.1.symm,
      Nat.add_zero]
  unwritten _ other different :=
    unwritten_attempted_other fun both => different both.2.symm

theorem recorded : SameNotes id notes (.recorded thread id :: notes) where
  attempts _ _ := attempts_recorded
  failures _ _ := failures_recorded
  unwritten _ _ different :=
    unwritten_recorded_other fun both => different both.2.symm

variable {later : List Note} {row : EmailRecord} {hold : Hold}

theorem fits (same : SameNotes id notes later) (different : row.id ≠ id)
    (fits : Fits notes thread row hold) : Fits later thread row hold := by
  cases hold with
  | held count limit =>
      rw [Fits, same.attempts _ different, same.failures _ different]
      exact fits
  | tried count limit succeeded =>
      rw [Fits, same.attempts _ different, same.failures _ different,
        same.unwritten _ _ different]
      exact fits
  | gone => exact fits

theorem settled (same : SameNotes id notes later) (different : row.id ≠ id)
    (settled : Settled notes row) : Settled later row where
  counted := by
    rw [same.failures _ different]
    exact settled.counted
  bounded := by
    rw [same.attempts _ different]
    exact settled.bounded
  retried waiting := by
    rw [same.attempts _ different]
    exact settled.retried waiting

end SameNotes

section Steps

variable {emails after : Emails} {issued : List String} {notes later : List Note}
  {views : Thread → View} {thread : Thread} {view : View} {id : String}

theorem Tally.step (tally : Tally emails issued notes views)
    (rest : ∀ other, other ≠ id → view other = views thread other)
    (exclusive : view id ≠ none →
      ∀ other, other ≠ thread → views other id = none)
    (known : view id ≠ none → id ∈ issued)
    (sameNotes : SameNotes id notes later)
    (noted : id ∉ issued → attempts later id = 0 ∧ failures later id = 0)
    (origin : ∀ row ∈ after, ∃ old ∈ emails, old.id = row.id ∧
      old.maxAttempts = row.maxAttempts ∧ (row.id ≠ id → row = old))
    (target : ∀ row ∈ after, row.id = id →
      (∀ hold, view id = some hold → Fits later thread row hold) ∧
      (∀ other hold, other ≠ thread → views other id = some hold →
        Fits later other row hold) ∧
      (view id = none → (∀ other, other ≠ thread → views other id = none) →
        Settled later row)) :
    Tally after issued later (Function.update views thread view) := by
  have self : Function.update views thread view thread = view :=
    Function.update_self ..
  have others : ∀ other, other ≠ thread →
      Function.update views thread view other = views other :=
    fun other different => Function.update_of_ne different ..
  have away : ∀ other emailId, emailId ≠ id →
      Function.update views thread view other emailId = views other emailId := by
    intro other emailId different
    by_cases same : other = thread
    · subst same
      rw [self]
      exact rest emailId different
    · rw [others other same]
  constructor
  · intro first second emailId firstKnows secondKnows
    by_cases same : emailId = id
    · subst same
      by_cases firstSame : first = thread
      · by_cases secondSame : second = thread
        · exact firstSame.trans secondSame.symm
        · rw [firstSame, self] at firstKnows
          rw [others second secondSame] at secondKnows
          exact absurd (exclusive firstKnows second secondSame) secondKnows
      · rw [others first firstSame] at firstKnows
        by_cases secondSame : second = thread
        · rw [secondSame, self] at secondKnows
          exact absurd (exclusive secondKnows first firstSame) firstKnows
        · rw [others second secondSame] at secondKnows
          exact tally.alone first second emailId firstKnows secondKnows
    · rw [away first emailId same] at firstKnows
      rw [away second emailId same] at secondKnows
      exact tally.alone first second emailId firstKnows secondKnows
  · intro row member
    rcases origin row member with ⟨old, stored, sameId, _, _⟩
    rw [← sameId]
    exact tally.issuedRows old stored
  · intro row member
    rcases origin row member with ⟨old, stored, _, sameLimit, _⟩
    rw [← sameLimit]
    exact tally.limits old stored
  · intro emailId notIssued
    rcases tally.fresh emailId notIssued with ⟨noAttempt, noFailure, noView⟩
    by_cases same : emailId = id
    · subst same
      rcases noted notIssued with ⟨attempted, failed⟩
      refine ⟨attempted, failed, fun other => ?_⟩
      by_cases sameThread : other = thread
      · rw [sameThread, self]
        by_contra knows
        exact notIssued (known knows)
      · rw [others other sameThread]
        exact noView other
    · rw [sameNotes.attempts emailId same, sameNotes.failures emailId same]
      refine ⟨noAttempt, noFailure, fun other => ?_⟩
      rw [away other emailId same]
      exact noView other
  · intro row member other hold knows
    by_cases same : row.id = id
    · rcases target row member same with ⟨own, foreign, _⟩
      rw [same] at knows
      by_cases sameThread : other = thread
      · rw [sameThread, self] at knows
        rw [sameThread]
        exact own hold knows
      · rw [others other sameThread] at knows
        exact foreign other hold sameThread knows
    · rcases origin row member with ⟨old, stored, _, _, unchanged⟩
      have equal := unchanged same
      subst equal
      rw [away other row.id same] at knows
      exact sameNotes.fits same (tally.held row stored other hold knows)
  · intro row member unknown
    by_cases same : row.id = id
    · rcases target row member same with ⟨_, _, settled⟩
      have own := unknown thread
      rw [self, same] at own
      refine settled own fun other different => ?_
      have foreign := unknown other
      rw [others other different, same] at foreign
      exact foreign
    · rcases origin row member with ⟨old, stored, _, _, unchanged⟩
      have equal := unchanged same
      subst equal
      refine sameNotes.settled same (tally.free row stored fun other => ?_)
      rw [← away other row.id same]
      exact unknown other

structure Touches (id : String) (change : EmailRecord → EmailRecord) :
    Prop where
  others : ∀ row, row.id ≠ id → change row = row
  sameId : ∀ row, (change row).id = row.id
  sameLimit : ∀ row, (change row).maxAttempts = row.maxAttempts

theorem Touches.of_targeted {mark : EmailRecord → EmailRecord}
    (sameId : ∀ row, (mark row).id = row.id)
    (sameLimit : ∀ row, (mark row).maxAttempts = row.maxAttempts) :
    Touches id fun row => if row.id == id then mark row else row where
  others row different := if_neg fun equal => different (beq_iff_eq.mp equal)
  sameId row := by
    split
    · exact sameId row
    · rfl
  sameLimit row := by
    split
    · exact sameLimit row
    · rfl

variable {change : EmailRecord → EmailRecord}
  {row : EmailRecord} {hold : Hold}
  {other : Thread}

theorem mem_map_rows (rows : after.rows = emails.rows.map change)
    (member : row ∈ after) :
    ∃ old ∈ emails, change old = row := by
  rw [← Table.mem_rows, rows, List.mem_map] at member
  exact member

theorem Touches.origin (touches : Touches id change)
    (rows : after.rows = emails.rows.map change) :
    ∀ row ∈ after, ∃ old ∈ emails, old.id = row.id ∧
      old.maxAttempts = row.maxAttempts ∧ (row.id ≠ id → row = old) := by
  intro row member
  rcases mem_map_rows rows member with ⟨old, stored, rfl⟩
  refine ⟨old, stored, (touches.sameId old).symm, (touches.sameLimit old).symm,
    fun different => touches.others old ?_⟩
  rwa [touches.sameId] at different

theorem unchanged_origin : ∀ row ∈ emails, ∃ old ∈ emails, old.id = row.id ∧
    old.maxAttempts = row.maxAttempts ∧ (row.id ≠ id → row = old) :=
  fun row member => ⟨row, member, rfl, rfl, fun _ => rfl⟩

theorem raised_refl : Raised issued emails emails :=
  fun row member _ => ⟨row, member, rfl, Int.le_refl _⟩

theorem Tally.raised_map (touches : Touches id change)
    (rows : after.rows = emails.rows.map change)
    (counts : ∀ row ∈ emails, row.id = id →
      row.sendCount ≤ (change row).sendCount) :
    Raised issued emails after := by
  intro row member _
  rcases mem_map_rows rows member with ⟨old, stored, rfl⟩
  refine ⟨old, stored, (touches.sameId old).symm, ?_⟩
  by_cases same : old.id = id
  · exact counts old stored same
  · exact Int.le_of_eq (by rw [touches.others old same])

theorem Tally.unknown (tally : Tally emails issued notes views)
    (knows : views thread id ≠ none)
    (different : other ≠ thread) : views other id = none := by
  by_contra also
  exact different (tally.alone other thread id also knows)

theorem Tally.issued_of_known (tally : Tally emails issued notes views)
    (knows : views thread id ≠ none) : id ∈ issued := by
  by_contra notIssued
  exact knows ((tally.fresh id notIssued).2.2 thread)

theorem View.put_other {other : String}
    (different : other ≠ id) : view.put id hold other = view other := by
  simp only [View.put, Function.update_of_ne different]

theorem Tally.deliver {count limit : Int} {succeeded : Bool}
    (tally : Tally emails issued notes views)
    (knows : views thread id = some (.held count limit)) :
    Tally emails issued (.attempted thread id succeeded :: notes)
      (Function.update views thread
        ((views thread).put id (.tried count limit succeeded))) := by
  have known : views thread id ≠ none := by
    rw [knows]
    exact Option.some_ne_none _
  refine tally.step (fun other different => View.put_other different)
    (fun _ other different => tally.unknown known different)
    (fun _ => tally.issued_of_known known) .attempted
    (fun notIssued => absurd (tally.issued_of_known known) notIssued)
    unchanged_origin ?_
  intro row member same
  refine ⟨?_, ?_, ?_⟩
  · intro hold held
    rw [View.put_same] at held
    cases held
    subst same
    rcases tally.held row member thread _ knows with
      ⟨left, sameCount, sameLimit, attempted, failed, placed⟩
    refine ⟨left, sameCount, sameLimit, ?_, ?_, unwritten_attempted_same, placed⟩
    · rw [attempts_attempted, if_pos rfl]
      omega
    · rw [failures_attempted]
      cases succeeded with
      | true => simp [failed]
      | false => simp [failed]
  · intro other hold different held
    rw [tally.unknown known different] at held
    cases held
  · intro unknown
    rw [View.put_same] at unknown
    cases unknown

theorem Tally.absent (tally : Tally emails issued notes views)
    (missing : ∀ row ∈ emails, row.id ≠ id) (touches : Touches id change)
    (rows : after.rows = emails.rows.map change)
    (knows : views thread id ≠ none)
    (rest : ∀ other, other ≠ id → view other = views thread other)
    (sameNotes : SameNotes id notes later) :
    Tally after issued later (Function.update views thread view) ∧
      Raised issued emails after := by
  constructor
  · refine tally.step rest (fun _ other different => tally.unknown knows different)
      (fun _ => tally.issued_of_known knows) sameNotes
      (fun notIssued => absurd (tally.issued_of_known knows) notIssued)
      (touches.origin rows) ?_
    intro row member same
    rcases touches.origin rows row member with ⟨old, stored, sameId, _, _⟩
    exact absurd (sameId.trans same) (missing old stored)
  · exact Tally.raised_map touches rows fun row member same =>
      absurd same (missing row member)

theorem Tally.write {count limit : Int}
    (tally : Tally emails issued notes views)
    (knows : views thread id = some (.tried count limit false))
    (touches : Touches id change) (rows : after.rows = emails.rows.map change)
    (counts : ∀ row, row.id = id → (change row).sendCount = count + 1) :
    Tally after issued (.recorded thread id :: notes)
      (Function.update views thread ((views thread).drop id)) ∧
      Raised issued emails after := by
  have known : views thread id ≠ none := by
    rw [knows]
    exact Option.some_ne_none _
  have fits : ∀ row ∈ emails, row.id = id →
      Fits notes thread row (.tried count limit false) := by
    intro row member same
    rw [← same] at knows
    exact tally.held row member thread _ knows
  constructor
  · refine tally.step (fun other different => View.drop_other different)
      (fun _ other different => tally.unknown known different)
      (fun _ => tally.issued_of_known known) .recorded
      (fun notIssued => absurd (tally.issued_of_known known) notIssued)
      (touches.origin rows) ?_
    intro row member same
    rcases mem_map_rows rows member with ⟨old, stored, rfl⟩
    rw [touches.sameId] at same
    rcases fits old stored same with
      ⟨left, sameCount, sameLimit, attempted, failed, _, _⟩
    refine ⟨?_, ?_, ?_⟩
    · intro hold held
      rw [View.drop_same] at held
      cases held
    · intro other hold different held
      rw [tally.unknown known different] at held
      cases held
    · intro _ _
      constructor
      · rw [failures_recorded, touches.sameId, counts old same, failed]
        rfl
      · rw [attempts_recorded, touches.sameId, touches.sameLimit]
        omega
      · intro _
        rw [attempts_recorded, touches.sameId, counts old same]
        exact attempted
  · apply Tally.raised_map touches rows
    intro row member same
    rcases fits row member same with ⟨_, sameCount, _⟩
    rw [counts row same]
    omega

theorem Fits.counted (fits : Fits notes thread row hold)
    (written : ∀ count limit, hold ≠ .tried count limit false) :
    (failures notes row.id : Int) = row.sendCount ∧
      (attempts notes row.id : Int) ≤ row.maxAttempts ∧
        ((∀ count limit, hold ≠ .tried count limit true) →
          (attempts notes row.id : Int) = row.sendCount) := by
  cases hold with
  | held count limit =>
      rcases fits with ⟨left, sameCount, sameLimit, attempted, failed, _⟩
      exact ⟨by omega, by omega, fun _ => by omega⟩
  | tried count limit succeeded =>
      cases succeeded with
      | false => exact absurd rfl (written count limit)
      | true =>
          rcases fits with ⟨left, sameCount, sameLimit, attempted, failed, _⟩
          rw [if_pos rfl] at failed
          exact ⟨by omega, by omega, fun untried => absurd rfl
            (untried count limit)⟩
  | gone => exact absurd fits id

theorem Fits.settled (fits : Fits notes thread row hold)
    (written : ∀ count limit, hold ≠ .tried count limit false)
    (kept : ¬ Unwritten notes row) : Settled notes row := by
  rcases fits.counted written with ⟨failed, bounded, untried⟩
  refine ⟨failed, bounded, fun waiting => untried ?_⟩
  rintro count limit rfl
  rcases fits with ⟨_, _, _, _, _, unwritten, placed⟩
  rcases waiting with readying | ready
  · exact placed.1 readying
  · exact kept ⟨thread, true, unwritten, .inr ready⟩

theorem Fits.completed {row changed : EmailRecord}
    (fits : Fits notes other row hold)
    (different : other ≠ thread) (sameId : changed.id = row.id)
    (sameCount : changed.sendCount = row.sendCount)
    (sameLimit : changed.maxAttempts = row.maxAttempts)
    (left : changed.status ≠ .readying ∧ changed.status ≠ .ready) :
    Fits (.recorded thread id :: notes) other changed hold := by
  cases hold with
  | held count limit =>
      rw [Fits, attempts_recorded, failures_recorded, sameId, sameCount,
        sameLimit]
      rcases fits with ⟨below, count, limit, attempted, failed, _⟩
      exact ⟨below, count, limit, attempted, failed, left.1, fun _ => left.2⟩
  | tried count limit succeeded =>
      rw [Fits, attempts_recorded, failures_recorded, sameId, sameCount,
        sameLimit,
        unwritten_recorded_other fun both => different both.1.symm]
      rcases fits with ⟨below, count, limit, attempted, failed, unwritten, _⟩
      exact ⟨below, count, limit, attempted, failed, unwritten, left.1,
        fun _ => left.2⟩
  | gone => exact fits

theorem Tally.leave (tally : Tally emails issued notes views)
    (written : ∀ count limit, views thread id ≠ some (.tried count limit false))
    (touches : Touches id change) (rows : after.rows = emails.rows.map change)
    (sameCount : ∀ row, (change row).sendCount = row.sendCount)
    (left : ∀ row, row.id = id →
      (change row).status ≠ .readying ∧ (change row).status ≠ .ready) :
    Tally after issued (.recorded thread id :: notes)
      (Function.update views thread ((views thread).drop id)) ∧
      Raised issued emails after := by
  refine ⟨?_, Tally.raised_map touches rows fun row _ _ =>
    Int.le_of_eq (sameCount row).symm⟩
  refine tally.step (fun other different => View.drop_other different)
    (fun knows => absurd View.drop_same knows)
    (fun knows => absurd View.drop_same knows) .recorded ?_
    (touches.origin rows) ?_
  · intro notIssued
    rcases tally.fresh id notIssued with ⟨noAttempt, noFailure, _⟩
    rw [attempts_recorded, failures_recorded]
    exact ⟨noAttempt, noFailure⟩
  intro row member same
  rcases mem_map_rows rows member with ⟨old, stored, rfl⟩
  rw [touches.sameId] at same
  refine ⟨fun hold held => ?_, fun other hold different held => ?_,
    fun _ unknown => ?_⟩
  · rw [View.drop_same] at held
    cases held
  · rw [← same] at held
    exact (tally.held old stored other hold held).completed different
      (touches.sameId old) (sameCount old) (touches.sameLimit old)
      (left old same)
  · have counted : (failures notes old.id : Int) = old.sendCount ∧
        (attempts notes old.id : Int) ≤ old.maxAttempts := by
      cases knows : views thread id with
      | none =>
          have free := tally.free old stored fun other => by
            by_cases sameThread : other = thread
            · rw [sameThread, same, knows]
            · rw [same]
              exact unknown other sameThread
          exact ⟨free.counted, free.bounded⟩
      | some hold =>
          rw [← same] at knows
          have counted := (tally.held old stored thread hold knows).counted
            fun count limit tried => written count limit (by
              rw [← same, knows, tried])
          exact ⟨counted.1, counted.2.1⟩
    have status := left old same
    constructor
    · rw [failures_recorded, touches.sameId, sameCount]
      exact counted.1
    · rw [attempts_recorded, touches.sameId, touches.sameLimit]
      exact counted.2
    · rintro (readying | ready)
      · exact absurd readying status.1
      · exact absurd ready status.2

theorem Tally.giveUp (tally : Tally emails issued notes views)
    (written : ∀ count limit, views thread id ≠ some (.tried count limit false))
    (kept : ∀ row ∈ emails, row.id = id → ¬ Unwritten notes row) :
    Tally emails issued notes
      (Function.update views thread ((views thread).drop id)) := by
  refine tally.step (fun other different => View.drop_other different)
    (fun knows => absurd View.drop_same knows)
    (fun knows => absurd View.drop_same knows) .refl
    (fun notIssued => ?_) unchanged_origin ?_
  · rcases tally.fresh id notIssued with ⟨noAttempt, noFailure, _⟩
    exact ⟨noAttempt, noFailure⟩
  intro row member same
  refine ⟨fun hold held => ?_, fun other hold _ held => ?_,
    fun _ unknown => ?_⟩
  · rw [View.drop_same] at held
    cases held
  · rw [← same] at held
    exact tally.held row member other hold held
  · cases knows : views thread id with
    | none =>
        apply tally.free row member
        intro other
        by_cases sameThread : other = thread
        · rw [sameThread, same, knows]
        · rw [same]
          exact unknown other sameThread
    | some hold =>
        rw [← same] at knows
        exact (tally.held row member thread hold knows).settled
          (fun count limit tried => written count limit (by
            rw [← same, knows, tried])) (kept row member same)

theorem Fits.placed
    (fits : Fits notes thread row hold) : Placed thread row := by
  cases hold with
  | held count limit => exact fits.2.2.2.2.2
  | tried count limit succeeded => exact fits.2.2.2.2.2.2
  | gone => exact absurd fits not_false

/-- An email that no thread works on is flipped to `ready`. -/
theorem Tally.flip (tally : Tally emails issued notes views)
    (rows : after.rows = emails.rows.map fun row =>
      if row.id == id && row.status == .readying then
        { row with status := .ready }
      else row) :
    Tally after issued notes views ∧ Raised issued emails after := by
  have touches : Touches id fun row =>
      if row.id == id && row.status == .readying then
        { row with status := .ready }
      else row := by
    constructor
    · intro row different
      rw [if_neg]
      intro both
      exact different (beq_iff_eq.mp (Bool.and_eq_true_iff.mp both).1)
    · intro row
      split <;> rfl
    · intro row
      split <;> rfl
  constructor
  · have kept := tally.free
    refine ⟨tally.alone, ?_, ?_, tally.fresh, ?_, ?_⟩
    all_goals
      intro row member
      rcases mem_map_rows rows member with ⟨old, stored, rfl⟩
    · rw [touches.sameId]
      exact tally.issuedRows old stored
    · rw [touches.sameLimit]
      exact tally.limits old stored
    · intro thread hold knows
      rw [touches.sameId] at knows
      have fits := tally.held old stored thread hold knows
      rw [if_neg]
      · exact fits
      · intro both
        exact fits.placed.1 (beq_iff_eq.mp (Bool.and_eq_true_iff.mp both).2)
    · intro unknown
      simp only [touches.sameId] at unknown
      have settled := tally.free old stored unknown
      split
      · next flipped =>
          have readying := beq_iff_eq.mp (Bool.and_eq_true_iff.mp flipped).2
          exact ⟨settled.counted, settled.bounded,
            fun _ => settled.retried (.inl readying)⟩
      · exact settled
  · apply Tally.raised_map touches rows
    intro row _ _
    split <;> exact Int.le_refl _

theorem Tally.subset (tally : Tally emails issued notes views)
    (kept : ∀ row ∈ after, row ∈ emails) :
    Tally after issued notes views ∧ Raised issued emails after := by
  refine ⟨⟨tally.alone, fun row member => tally.issuedRows row (kept row member),
    fun row member => tally.limits row (kept row member), tally.fresh,
    fun row member => tally.held row (kept row member),
    fun row member => tally.free row (kept row member)⟩, ?_⟩
  exact fun row member _ => ⟨row, kept row member, rfl, Int.le_refl _⟩

theorem Tally.same (tally : Tally emails issued notes views)
    (rows : after.rows = emails.rows.map change)
    (sameId : ∀ row, (change row).id = row.id)
    (sameCount : ∀ row, (change row).sendCount = row.sendCount)
    (sameLimit : ∀ row, (change row).maxAttempts = row.maxAttempts)
    (sameStatus : ∀ row, (change row).status = row.status) :
    Tally after issued notes views ∧ Raised issued emails after := by
  constructor
  · refine ⟨tally.alone, ?_, ?_, tally.fresh, ?_, ?_⟩
    all_goals
      intro row member
      rcases mem_map_rows rows member with ⟨old, stored, rfl⟩
    · rw [sameId]
      exact tally.issuedRows old stored
    · rw [sameLimit]
      exact tally.limits old stored
    · intro thread hold knows
      rw [sameId] at knows
      have fits := tally.held old stored thread hold knows
      cases hold with
      | held count limit =>
          simpa only [Fits, Placed, sameId, sameCount, sameLimit, sameStatus]
            using fits
      | tried count limit succeeded =>
          simpa only [Fits, Placed, sameId, sameCount, sameLimit, sameStatus]
            using fits
      | gone => exact fits
    · intro unknown
      simp only [sameId] at unknown
      have settled := tally.free old stored unknown
      refine ⟨?_, ?_, ?_⟩
      · rw [sameId, sameCount]
        exact settled.counted
      · rw [sameId, sameLimit]
        exact settled.bounded
      · rw [sameId, sameCount, sameStatus]
        exact settled.retried
  · intro row member _
    rcases mem_map_rows rows member with ⟨old, stored, rfl⟩
    exact ⟨old, stored, (sameId old).symm, Int.le_of_eq (sameCount old).symm⟩

theorem Tally.issue (tally : Tally emails issued notes views) :
    Tally emails (id :: issued) notes views :=
  ⟨tally.alone, fun row member => List.mem_cons_of_mem id
      (tally.issuedRows row member), tally.limits,
    fun other unissued => tally.fresh other fun old => unissued
      (List.mem_cons_of_mem id old), tally.held, tally.free⟩

theorem Tally.create (tally : Tally emails issued notes views)
    (inserted : emails.insert? row = some after) (unissued : row.id ∉ issued)
    (untried : row.sendCount = 0) (limit : 0 < row.maxAttempts) :
    Tally after (row.id :: issued) notes views ∧ Raised issued emails after := by
  rcases tally.fresh row.id unissued with ⟨noAttempt, noFailure, unknown⟩
  have cases_row : ∀ other ∈ after, other ∈ emails ∨ other = row :=
    fun other => (Table.mem_of_insert? inserted).mp
  constructor
  · refine ⟨tally.alone, ?_, ?_, tally.issue.fresh, ?_, ?_⟩
    · intro other member
      rcases cases_row other member with old | rfl
      · exact List.mem_cons_of_mem _ (tally.issuedRows other old)
      · exact List.mem_cons_self
    · intro other member
      rcases cases_row other member with old | rfl
      · exact tally.limits other old
      · exact limit
    · intro other member
      rcases cases_row other member with old | rfl
      · exact tally.held other old
      · intro thread hold knows
        rw [unknown] at knows
        cases knows
    · intro other member
      rcases cases_row other member with old | rfl
      · exact tally.free other old
      · intro _
        exact ⟨by rw [noFailure, untried]; rfl, by rw [noAttempt]; exact Int.le_of_lt limit,
          fun _ => by rw [noAttempt, untried]; rfl⟩
  · intro other member known
    rcases cases_row other member with old | rfl
    · exact ⟨other, old, rfl, Int.le_refl _⟩
    · exact absurd known unissued

theorem Tally.unclaimed (tally : Tally emails issued notes views)
    (member : row ∈ emails) (claimable : isClaimable row = true)
    (different : other ≠ .batch) : views other row.id = none := by
  cases knows : views other row.id with
  | none => rfl
  | some hold =>
      have placed := (tally.held row member other hold knows).placed
      rw [isClaimable, Bool.or_eq_true, beq_iff_eq, beq_iff_eq] at claimable
      rcases claimable with readying | ready
      · exact absurd readying placed.1
      · exact absurd ready (placed.2 different)

theorem Tally.settled_of_claimable (tally : Tally emails issued notes views)
    (idle : views .batch = .nothing) (member : row ∈ emails)
    (claimable : isClaimable row = true) :
    (∀ other, views other row.id = none) ∧ Settled notes row := by
  have unknown : ∀ other, views other row.id = none := by
    intro other
    by_cases batch : other = .batch
    · rw [batch, idle]
      rfl
    · exact tally.unclaimed member claimable batch
  exact ⟨unknown, tally.free row member unknown⟩

theorem View.ofRows_eq_some {rows : List EmailRecord}
    (knows : View.ofRows rows id = some hold) :
    ∃ row ∈ rows, row.id = id ∧ hold = .held row.sendCount row.maxAttempts := by
  rcases Option.map_eq_some_iff.mp knows with ⟨row, found, rfl⟩
  have same : row.id = id := by simpa using List.find?_some found
  exact ⟨row, List.mem_of_find?_eq_some found, same, rfl⟩

/-- The batch takes on emails that are `ready`. -/
theorem Tally.take {rows : List EmailRecord}
    (tally : Tally emails issued notes views)
    (idle : views .batch = .nothing) (retriable : Retriable rows)
    (ready : ∀ row ∈ rows, row ∈ emails ∧ row.status = .ready) :
    Tally emails issued notes
      (Function.update views .batch (.ofRows rows)) := by
  have self : Function.update views .batch (.ofRows rows) .batch =
      View.ofRows rows := Function.update_self ..
  have others : ∀ other, other ≠ .batch →
      Function.update views .batch (.ofRows rows) other = views other :=
    fun other different => Function.update_of_ne different ..
  have claimable : ∀ row ∈ rows, isClaimable row = true := by
    intro row member
    rw [isClaimable, (ready row member).2]
    rfl
  have exclusive : ∀ other id, other ≠ .batch →
      View.ofRows rows id ≠ none → views other id = none := by
    intro other id different knows
    rcases Option.ne_none_iff_exists'.mp knows with ⟨hold, known⟩
    rcases View.ofRows_eq_some known with ⟨row, member, rfl, _⟩
    exact tally.unclaimed (ready row member).1 (claimable row member) different
  constructor
  · intro first second id firstKnows secondKnows
    by_cases firstBatch : first = .batch
    · by_cases secondBatch : second = .batch
      · exact firstBatch.trans secondBatch.symm
      · rw [firstBatch, self] at firstKnows
        rw [others second secondBatch] at secondKnows
        exact absurd (exclusive second id secondBatch firstKnows) secondKnows
    · rw [others first firstBatch] at firstKnows
      by_cases secondBatch : second = .batch
      · rw [secondBatch, self] at secondKnows
        exact absurd (exclusive first id firstBatch secondKnows) firstKnows
      · rw [others second secondBatch] at secondKnows
        exact tally.alone first second id firstKnows secondKnows
  · exact tally.issuedRows
  · exact tally.limits
  · intro id unissued
    rcases tally.fresh id unissued with ⟨noAttempt, noFailure, unknown⟩
    refine ⟨noAttempt, noFailure, fun other => ?_⟩
    by_cases batch : other = .batch
    · rw [batch, self]
      by_contra knows
      rcases Option.ne_none_iff_exists'.mp knows with ⟨hold, known⟩
      rcases View.ofRows_eq_some known with ⟨row, member, rfl, _⟩
      exact unissued (tally.issuedRows row (ready row member).1)
    · rw [others other batch]
      exact unknown other
  · intro row member other hold knows
    by_cases batch : other = .batch
    · rw [batch, self] at knows
      rcases View.ofRows_eq_some knows with ⟨taken, chosen, sameId, rfl⟩
      have same : taken = row :=
        Table.eq_of_conflict EmailRecord.conflict_comm (ready taken chosen).1
          member (by rw [EmailRecord.conflict, sameId, beq_self_eq_true])
      subst same
      have settled := (tally.settled_of_claimable idle member
        (claimable taken chosen)).2
      have status := (ready taken chosen).2
      have attempted := settled.retried (.inr status)
      rw [batch]
      exact ⟨retriable.left taken chosen, rfl, rfl, attempted, settled.counted,
        by rw [status]; decide, fun foreign => absurd rfl foreign⟩
    · rw [others other batch] at knows
      exact tally.held row member other hold knows
  · intro row member unknown
    apply tally.free row member
    intro other
    by_cases batch : other = .batch
    · rw [batch, idle]
      rfl
    · rw [← others other batch]
      exact unknown other

theorem Tally.claim {permit : Nat} {time : Timestamp}
    (tally : Tally emails issued notes views)
    (idle : views .batch = .nothing) (member : row ∈ emails) (sameId : row.id = id)
    (claimable : isClaimable row = true) (untried : row.sendCount = 0)
    (free : views (.delivery permit) = .nothing)
    (rows : after.rows = emails.rows.map fun row =>
      if row.id == id && isClaimable row then markSending time row else row) :
    Tally after issued notes (Function.update views (.delivery permit)
      (View.nothing.put id (.held 0 row.maxAttempts))) ∧
      Raised issued emails after := by
  have touches : Touches id fun row =>
      if row.id == id && isClaimable row then markSending time row else row := by
    constructor
    · intro other different
      rw [if_neg]
      intro both
      exact different (beq_iff_eq.mp (Bool.and_eq_true_iff.mp both).1)
    · intro other
      split <;> rfl
    · intro other
      split <;> rfl
  rcases tally.settled_of_claimable idle member claimable with
    ⟨unknown, settled⟩
  have issuedId : id ∈ issued := by
    rw [← sameId]
    exact tally.issuedRows row member
  have waiting : row.status = .readying ∨ row.status = .ready := by
    rw [isClaimable, Bool.or_eq_true, beq_iff_eq, beq_iff_eq] at claimable
    exact claimable
  constructor
  · refine tally.step (fun other different => ?_) (fun _ other _ => ?_)
      (fun _ => issuedId) .refl (fun unissued => absurd issuedId unissued)
      (touches.origin rows) ?_
    · rw [View.put_other different, free]
    · rw [← sameId]
      exact unknown other
    · intro changed changedMember same
      rcases mem_map_rows rows changedMember with ⟨old, stored, rfl⟩
      rw [touches.sameId] at same
      have equal : old = row :=
        Table.eq_of_conflict EmailRecord.conflict_comm stored member
          (by rw [EmailRecord.conflict, same, sameId, beq_self_eq_true])
      subst equal
      have selected : (old.id == id && isClaimable old) = true := by
        rw [same, beq_self_eq_true, claimable]
        rfl
      rw [if_pos selected]
      refine ⟨fun hold knows => ?_, fun other hold _ knows => ?_,
        fun unheld => ?_⟩
      · rw [View.put_same] at knows
        cases knows
        refine ⟨tally.limits old member, untried, rfl, ?_, ?_, ?_, ?_⟩
        · rw [← untried]
          exact settled.retried waiting
        · rw [← untried]
          exact settled.counted
        · exact fun status => by cases status
        · exact fun _ status => by cases status
      · rw [← sameId, unknown] at knows
        cases knows
      · rw [View.put_same] at unheld
        cases unheld
  · apply Tally.raised_map touches rows
    intro old _ _
    split <;> exact Int.le_refl _

theorem Tally.stop {threads : Thread → Prop} [DecidablePred threads]
    (tally : Tally emails issued notes views)
    (kept : ∀ row ∈ emails, ∀ thread, threads thread → ∀ count limit,
      views thread row.id ≠ some (.tried count limit false) ∧
        (row.status = .ready →
          views thread row.id ≠ some (.tried count limit true))) :
    Tally emails issued notes
      (fun thread => if threads thread then .nothing else views thread) := by
  have known : ∀ thread id,
      (if threads thread then View.nothing else views thread) id ≠ none →
        views thread id ≠ none := by
    intro thread id knows
    split at knows
    · exact absurd rfl knows
    · exact knows
  refine ⟨fun first second id firstKnows secondKnows =>
    tally.alone first second id (known first id firstKnows)
      (known second id secondKnows), tally.issuedRows, tally.limits, ?_, ?_, ?_⟩
  · intro id unissued
    rcases tally.fresh id unissued with ⟨noAttempt, noFailure, unknown⟩
    refine ⟨noAttempt, noFailure, fun thread => ?_⟩
    split
    · rfl
    · exact unknown thread
  · intro row member thread hold knows
    split at knows
    · cases knows
    · exact tally.held row member thread hold knows
  · intro row member unheld
    by_cases worked : ∃ thread, views thread row.id ≠ none
    · rcases worked with ⟨thread, knows⟩
      have stopped : threads thread := by
        by_contra going
        have unknown := unheld thread
        rw [if_neg going] at unknown
        exact knows unknown
      rcases Option.ne_none_iff_exists'.mp knows with ⟨hold, holds⟩
      have fits := tally.held row member thread hold holds
      have given := kept row member thread stopped
      have written : ∀ count limit, hold ≠ .tried count limit false := by
        rintro count limit rfl
        exact (given count limit).1 holds
      rcases fits.counted written with ⟨failed, bounded, untried⟩
      refine ⟨failed, bounded, fun waiting => untried ?_⟩
      rintro count limit rfl
      rcases waiting with readying | ready
      · exact fits.placed.1 readying
      · exact (given count limit).2 ready holds
    · apply tally.free row member
      intro thread
      by_contra knows
      exact worked ⟨thread, knows⟩

end Steps

end AimailGateway.Scheduler
