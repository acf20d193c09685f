import AimailGateway.Api.AddressResolution
import AimailGateway.Api.Domains
import AimailGateway.Board.AddressForms

/-! # Reaching a registered address

An address is stored as it is typed. RCPT looks for it in lower case, and the
send API takes what stands before the first `@` apart once more. This says which
addresses the two find again, and which can be registered twice.
-/

namespace AimailGateway.RegisteredReach

open Library Action Api

section Statement

variable (state : SendState) (db : Database) (row : SystemDomainRecord)

def SameText (first second : String) : Prop :=
  state.env.tables.toLowercase first = state.env.tables.toLowercase second

/-- RCPT resolves every spelling of the address to the row, and a key bound to
the address sends as the address. -/
structure Reachable : Prop where
  resolves : ∀ spelling, SameText state spelling row.domain →
    rcptRecord state db spelling = some row.domain
  sends : ∀ key : ApiKeyRecord, key.emailAddress = row.domain →
    key.systemId = row.systemId →
    (splitSender state (isShared key.systemId) key.emailAddress).1 =
      key.emailAddress

/-- No other registered address is a spelling of the address. -/
def Alone : Prop :=
  ∀ other ∈ db.systemDomains,
    checkAddressShape other.systemId other.domain = .ok () →
    SameText state other.domain row.domain → other = row

/-- The part before the first `@` has text on both sides of its first dot. -/
def Personal (email : String) : Prop :=
  ∃ localPart domain persona profile,
    Text.splitOnce '@' email = some (localPart, domain) ∧
    Text.splitOnce '.' localPart = some (persona, profile) ∧
    persona ≠ "" ∧ profile ≠ ""

/-- The address is in lower case, no spelling of it is that of a board, and the
part before the first `@` is neither a mailbox of a shared system nor one with a
persona. -/
structure Plain (tid email : String) : Prop where
  lower : state.env.tables.toLowercase email = email
  unmarked : ∀ spelling, SameText state spelling email →
    Board.isBoardAddress spelling = false
  agent : isShared tid = true →
    Text.containsChar '.' (Text.firstPiece '@' email) = true
  impersonal : Personal email → isShared tid = true ∧
    hasProfileDots email = false

end Statement

/-! ## Personas -/

section Personas

variable {tables : CaseTables} {email : String}

theorem stripPersona_iff (lower : tables.toLowercase email = email) :
    (Email.stripPersona tables email).1 = email ↔ ¬ Personal email := by
  rw [Email.stripPersona, lower]
  cases outer : Text.splitOnce '@' email with
  | none =>
      simp only
      refine ⟨fun _ => ?_, fun _ => trivial⟩
      rintro ⟨_, _, _, _, cut, _⟩
      rw [outer] at cut
      cases cut
  | some parts =>
      rcases parts with ⟨localPart, domain⟩
      cases inner : Text.splitOnce '.' localPart with
      | none =>
          simp only [inner]
          refine ⟨fun _ => ?_, fun _ => trivial⟩
          rintro ⟨_, _, _, _, cut, dotted, _⟩
          rw [outer] at cut
          cases cut
          rw [inner] at dotted
          cases dotted
      | some pieces =>
          rcases pieces with ⟨persona, profile⟩
          simp only [inner]
          split
          · next both =>
              refine ⟨fun same => ?_, fun other => ?_⟩
              · have whole := (Text.cut_of_splitOnce outer).1
                have front := (Text.cut_of_splitOnce inner).1
                have lengths := congrArg (fun text => text.toList.length) same
                simp only [whole, front, String.toList_append,
                  List.length_append, List.length_cons] at lengths
                have mark : "@".toList.length = 1 := rfl
                omega
              · exact absurd ⟨localPart, domain, persona, profile, outer, inner,
                  both⟩ other
          · next blank =>
              refine ⟨fun _ => ?_, fun _ => rfl⟩
              rintro ⟨_, _, _, _, cut, dotted, both⟩
              rw [outer] at cut
              cases cut
              rw [inner] at dotted
              cases dotted
              exact blank both

theorem splitSender_iff {state : SendState} {shared : Bool}
    (lower : state.env.tables.toLowercase email = email) :
    (splitSender state shared email).1 = email ↔
      (Personal email → shared = true ∧ hasProfileDots email = false) := by
  rw [splitSender]
  split
  · next kept =>
      rw [Bool.and_eq_true, Bool.not_eq_true'] at kept
      exact ⟨fun _ _ => kept, fun _ => lower⟩
  · next stripped =>
      rw [Bool.and_eq_true, Bool.not_eq_true'] at stripped
      rw [stripPersona_iff lower]
      constructor
      · exact fun plain personal => absurd personal plain
      · exact fun kept personal => stripped (kept personal)

end Personas

/-! ## Reaching a row -/

section Reaching

variable {state : SendState} {db : Database} {row : SystemDomainRecord}
  {tid email : String}

theorem isSystemAnchor_eq_false_iff :
    Smtp.isSystemAnchor row email = false ↔
      (isShared row.systemId = true →
        Text.containsChar '.' (Text.firstPiece '@' email) = true) := by
  rw [Smtp.isSystemAnchor, isShared]
  cases Text.startsWith "shared-" row.systemId <;> simp

theorem Plain.reachable (plain : Plain state row.systemId row.domain)
    (member : row ∈ db.systemDomains) : Reachable state db row := by
  constructor
  · intro spelling same
    have named : state.env.tables.toLowercase spelling = row.domain :=
      same.trans plain.lower
    apply rcptRecord_iff.mpr
    refine ⟨row, ⟨plain.unmarked spelling same, ⟨member, .inl named.symm⟩, ?_⟩, rfl⟩
    exact isSystemAnchor_eq_false_iff.mpr plain.agent
  · intro key bound system
    rw [bound, system]
    exact (splitSender_iff plain.lower).mpr plain.impersonal

theorem lower_of_resolved
    (idempotent : ∀ text, state.env.tables.toLowercase
      (state.env.tables.toLowercase text) = state.env.tables.toLowercase text)
    (resolved : rcptRecord state db row.domain = some row.domain) :
    state.env.tables.toLowercase row.domain = row.domain := by
  obtain ⟨found, takes, same⟩ := rcptRecord_iff.mp resolved
  rcases takes.looks.named with named | ⟨named, _⟩
  · rw [same] at named
    exact named.symm
  · rw [same] at named
    rw [named]
    exact idempotent _

theorem Reachable.plain
    (idempotent : ∀ text, state.env.tables.toLowercase
      (state.env.tables.toLowercase text) = state.env.tables.toLowercase text)
    (member : row ∈ db.systemDomains) (reachable : Reachable state db row) :
    Plain state row.systemId row.domain := by
  have lower : state.env.tables.toLowercase row.domain = row.domain :=
    lower_of_resolved idempotent (reachable.resolves row.domain rfl)
  obtain ⟨found, takes, same⟩ :=
    rcptRecord_iff.mp (reachable.resolves row.domain rfl)
  have own : found = row :=
    SystemDomains.eq_of_domain takes.looks.member member same
  constructor
  · exact lower
  · intro spelling spelled
    obtain ⟨_, taken, _⟩ :=
      rcptRecord_iff.mp (reachable.resolves spelling spelled)
    exact taken.agent
  · have deliverable := takes.deliverable
    rw [own] at deliverable
    exact isSystemAnchor_eq_false_iff.mp deliverable
  · apply (splitSender_iff lower).mp
    exact reachable.sends (sampleKey 1 row.systemId row.domain "" [] "") rfl rfl

end Reaching

/-- An address is found again in every later state exactly when it is plain, and
has no double exactly when no other spelling of it is accepted. -/
theorem registeredReach_exact (state : SendState)
    (idempotent : ∀ text, state.env.tables.toLowercase
      (state.env.tables.toLowercase text) = state.env.tables.toLowercase text)
    (tid email : String) :
    ((∀ (db : Database) (row : SystemDomainRecord), row ∈ db.systemDomains →
        row.domain = email → row.systemId = tid → Reachable state db row) ↔
      Plain state tid email) ∧
    ((∀ (db : Database) (row : SystemDomainRecord), row ∈ db.systemDomains →
        row.domain = email → row.systemId = tid → Alone state db row) ↔
      ∀ otherTid other, checkAddressShape otherTid other = .ok () →
        SameText state other email → other = email) := by
  refine ⟨⟨fun reachable => ?_, ?_⟩, fun alone => ?_, ?_⟩
  · have found := reachable { Database.empty with
      systemDomains := ⟨[Smtp.registration "d1" tid email],
        List.pairwise_singleton _ _⟩ }
      (Smtp.registration "d1" tid email) (List.mem_singleton_self _) rfl rfl
    exact found.plain idempotent (List.mem_singleton_self _)
  · rintro plain db row member rfl rfl
    exact plain.reachable member
  · intro otherTid other accepted same
    by_contra different
    have apart : [Smtp.registration "d1" tid email,
        Smtp.registration "d2" otherTid other].Pairwise
        (fun first second => SystemDomainRecord.conflict first second = false) := by
      apply List.pairwise_pair.mpr
      have named : (email == other) = false :=
        beq_eq_false_iff_ne.mpr (Ne.symm different)
      simp [SystemDomainRecord.conflict, Smtp.registration, named]
    have only := alone { Database.empty with systemDomains := ⟨_, apart⟩ }
      (Smtp.registration "d1" tid email) List.mem_cons_self rfl rfl
      (Smtp.registration "d2" otherTid other)
      (List.mem_cons_of_mem _ (List.mem_singleton_self _)) accepted same
    exact different (congrArg SystemDomainRecord.domain only)
  · rintro single db row member rfl rfl other there accepted same
    exact SystemDomains.eq_of_domain there member
      (single other.systemId other.domain accepted same)

/-! ## A capital letter -/

theorem registeredReach_exact_ann :
    ((∀ (db : Database) (row : SystemDomainRecord), row ∈ db.systemDomains →
        row.domain = "ann@a.test" → row.systemId = "sys-a" →
          Reachable plainSend db row) ↔
      Plain plainSend "sys-a" "ann@a.test") ∧
    ((∀ (db : Database) (row : SystemDomainRecord), row ∈ db.systemDomains →
        row.domain = "ann@a.test" → row.systemId = "sys-a" →
          Alone plainSend db row) ↔
      ∀ otherTid other, checkAddressShape otherTid other = .ok () →
        SameText plainSend other "ann@a.test" → other = "ann@a.test") :=
  registeredReach_exact plainSend Board.AddressForms.ascii_folds "sys-a"
    "ann@a.test"

def eveOfA : Database :=
  { Database.empty with
    systemDomains := ⟨[Smtp.registration "d1" "sys-a" "a.test",
      Smtp.registration "d2" "sys-a" "eve@a.test"], by decide⟩ }

/-- The registration of `Eve@a.test` next to `eve@a.test`. -/
def secondEve : Except HttpError RegisterAddressResponse × World :=
  registerAddress sampleState (sampleKey 1 "sys-a" "" "hash" ["system"] "system")
    "sys-a" false ⟨"d3", "Eve@a.test", none, none, none⟩ (World.start eveOfA)

/-- An address with a capital letter is registered next to its double, and RCPT
resolves it to the double. -/
theorem capital_unreachable :
    secondEve.1.isOk = true ∧
      secondEve.2.db.systemDomains.rows.map (·.domain) =
        ["a.test", "eve@a.test", "Eve@a.test"] ∧
      rcptRecord plainSend secondEve.2.db "Eve@a.test" = some "eve@a.test" ∧
      ¬ ∀ tid email, checkAddressShape tid email = .ok () →
        ∀ (db : Database) (row : SystemDomainRecord), row ∈ db.systemDomains →
          row.domain = email → row.systemId = tid →
            Reachable plainSend db row ∧ Alone plainSend db row := by
  have taken : rcptRecord plainSend secondEve.2.db "Eve@a.test" =
      some "eve@a.test" := by
    decide +kernel
  have member : Smtp.registration "d3" "sys-a" "Eve@a.test" ∈
      secondEve.2.db.systemDomains :=
    Table.mem_rows.mp (by decide +kernel)
  refine ⟨by decide +kernel, by decide +kernel, taken, fun claimed => ?_⟩
  have found := (claimed "sys-a" "Eve@a.test" (by decide +kernel) _ _ member rfl
    rfl).1.resolves "Eve@a.test" rfl
  rw [taken] at found
  exact absurd found (by decide)

end AimailGateway.RegisteredReach
