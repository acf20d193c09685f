import AimailGateway.Library.Text

/-! # Authorization scopes -/

namespace AimailGateway

inductive Scope where
  | platformAdmin
  | systemAdmin
  | agentAdmin
  | agent
  | bridge
  deriving DecidableEq, Repr

namespace Scope

def parseDb (text : String) : Option Scope :=
  match text with
  | "platform" | "admin" | "system_admin" => some .platformAdmin
  | "system" | "tenant_admin" => some .systemAdmin
  | "agent_admin" => some .agentAdmin
  | "agent" => some .agent
  | "bridge" | "pending" => some .bridge
  | _ => none

/-- The order of the permission hierarchy, highest first: platform, system,
agent_admin, agent, bridge. -/
def rank : Scope → Nat
  | .platformAdmin => 5
  | .systemAdmin => 4
  | .agentAdmin => 3
  | .agent => 2
  | .bridge => 1

/-- Some entry of a stored scope list resolves to `scope`. -/
def granted (scope : Scope) (scopes : List String) : Bool :=
  scopes.any fun text => parseDb text == some scope

/-- The rank of the scope a stored entry resolves to, `0` for none. -/
def textRank (text : String) : Nat :=
  match parseDb text with
  | some scope => scope.rank
  | none => 0

/-- The rank of the highest scope a stored scope list resolves to. -/
def highest : List String → Nat
  | [] => 0
  | text :: rest => max (textRank text) (highest rest)

variable {scopes : List String}

theorem granted_iff {scope : Scope} :
    scope.granted scopes = true ↔ ∃ text ∈ scopes, parseDb text = some scope := by
  simp [granted]

theorem textRank_le_highest {text : String}
    (member : text ∈ scopes) : textRank text ≤ highest scopes := by
  induction scopes with
  | nil => cases member
  | cons head tail induction =>
      simp only [highest]
      rcases List.mem_cons.mp member with equal | later
      · subst equal
        omega
      · have below := induction later
        omega

theorem rank_le_highest {scope : Scope}
    (grant : scope.granted scopes = true) : scope.rank ≤ highest scopes := by
  rcases granted_iff.mp grant with ⟨text, member, resolves⟩
  have below := textRank_le_highest member
  rw [textRank, resolves] at below
  exact below

theorem exists_granted_of_highest (positive : 0 < highest scopes) :
    ∃ scope : Scope, scope.granted scopes = true ∧ highest scopes = scope.rank := by
  suffices entry : ∃ text ∈ scopes, highest scopes = textRank text by
    rcases entry with ⟨text, member, equal⟩
    cases resolves : parseDb text with
    | none => simp [equal, textRank, resolves] at positive
    | some scope =>
        refine ⟨scope, granted_iff.mpr ⟨text, member, resolves⟩, ?_⟩
        rw [equal, textRank, resolves]
  induction scopes with
  | nil => simp [highest] at positive
  | cons head tail induction =>
      by_cases larger : highest tail ≤ textRank head
      · refine ⟨head, List.mem_cons_self, ?_⟩
        simp only [highest]
        omega
      · have tailPositive : 0 < highest tail := by omega
        rcases induction tailPositive with ⟨text, member, equal⟩
        refine ⟨text, List.mem_cons_of_mem _ member, ?_⟩
        simp only [highest]
        omega

end Scope

end AimailGateway
