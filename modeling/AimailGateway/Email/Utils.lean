import AimailGateway.Library.Text

/-! # Address helpers of the email module -/

namespace AimailGateway.Email

open Library

/-- `persona.profile@domain` becomes `(profile@domain, persona)`; any other
address is left as it is. -/
def stripPersona (tables : CaseTables) (address : String) : String × String :=
  match Text.splitOnce '@' (tables.toLowercase address) with
  | none => (address, "")
  | some (localPart, domain) =>
      match Text.splitOnce '.' localPart with
      | none => (address, "")
      | some (persona, profile) =>
          if persona ≠ "" ∧ profile ≠ "" then
            (profile ++ "@" ++ domain, persona)
          else
            (address, "")

example : stripPersona Text.asciiTables "Sales.Bob@x.org" =
    ("bob@x.org", "sales") := by decide

end AimailGateway.Email
