import AimailGateway.Storage.Call

/-! # The state handlers share

`HttpState` carries what the handlers use besides the database: the extension
points of the build (the system store and the admission gate), the digest and
sealing functions, and the surroundings of the storage calls.
-/

namespace AimailGateway

open Library

structure HttpState where
  env : Surroundings
  resolveSystem : String → Except AppError (Option SystemRecord)
  admitAddress : String → Except AppError Unit
  admitDomain : String → Except AppError Unit
  sha256Hex : String → String
  storeHash : String → String
  /-- `[admin] manager_default`. -/
  managerDefault : Option String
  /-- `[smtp] hostname`. -/
  smtpHostname : Option String

/-- The sender of the gateway's own mails. -/
def HttpState.systemSender (state : HttpState) : String :=
  "noreply@" ++
    ((state.smtpHostname.filter fun host => Text.trim host != "").getD
      "aimail-relay")

/-- The system record `BaseSystemStore` gives to every id. -/
def baseSystem (id : String) : SystemRecord where
  id := id
  adminEmail := "Admin"
  isActive := true
  managerAddress := ""

/-- The extension points of the base build, over given digest functions. -/
def HttpState.base (env : Surroundings) (sha256Hex storeHash : String → String) :
    HttpState where
  env := env
  resolveSystem := fun id => .ok (some (baseSystem id))
  admitAddress := fun _ => .ok ()
  admitDomain := fun _ => .ok ()
  sha256Hex := sha256Hex
  storeHash := storeHash
  managerDefault := none
  smtpHostname := none

def sampleState : HttpState := .base (.steady 0 "0123456789abcdef") id id

def sampleKey (id : Int) (systemId emailAddress hash : String)
    (scopes : List String) (category : String) : ApiKeyRecord where
  id := id
  systemId := systemId
  emailAddress := emailAddress
  keyHash := hash
  keyPrefix := Text.take 8 hash
  scopes := scopes
  isActive := true
  createdAt := 0
  expiresAt := none
  lastUsedAt := none
  category := category

end AimailGateway
