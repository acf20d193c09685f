import AimailGateway.Library.Table

/-! # Rows of the gateway's tables

One record type for each table, with its `PRIMARY KEY` and `UNIQUE`
constraints as a `conflict` relation. Times are milliseconds.
-/

namespace AimailGateway

open Library

abbrev Timestamp := Nat

structure SystemRecord where
  id : String
  adminEmail : String
  isActive : Bool
  managerAddress : String
  deriving DecidableEq, Repr

structure SystemDomainRecord where
  id : String
  systemId : String
  domain : String
  webhookUrl : Option String
  webhookSecret : Option String
  isActive : Bool
  createdAt : Timestamp
  updatedAt : Timestamp
  deriving DecidableEq, Repr

/-- `id TEXT PRIMARY KEY`, `domain_addr TEXT NOT NULL UNIQUE`. -/
def SystemDomainRecord.conflict (first second : SystemDomainRecord) : Bool :=
  first.id == second.id || first.domain == second.domain

structure DomainAddrMetaRecord where
  emailAddress : String
  systemId : String
  managerAddress : String
  agentSignature : String
  agentPersona : String
  isActive : Bool
  createdAt : Timestamp
  updatedAt : Timestamp
  deriving DecidableEq, Repr

def DomainAddrMetaRecord.conflict (first second : DomainAddrMetaRecord) : Bool :=
  first.emailAddress == second.emailAddress

/-- `CHECK(direction IN ('from','to','all'))`. -/
inductive WhitelistDirection where
  | dirFrom
  | dirTo
  | dirAll
  deriving DecidableEq, Repr

structure WhitelistRecord where
  id : Int
  systemId : String
  domainAddr : String
  direction : WhitelistDirection
  value : String
  description : Option String
  isActive : Bool
  createdAt : Timestamp
  category : String
  apiKeyId : Option Int
  deriving DecidableEq, Repr

/-- The columns of `UNIQUE(system_id, domain_addr, value)`. -/
def WhitelistRecord.rule (row : WhitelistRecord) : String × String × String :=
  (row.systemId, row.domainAddr, row.value)

def WhitelistRecord.conflict (first second : WhitelistRecord) : Bool :=
  first.id == second.id || first.rule == second.rule

structure ApiKeyRecord where
  id : Int
  systemId : String
  emailAddress : String
  keyHash : String
  keyPrefix : String
  scopes : List String
  isActive : Bool
  createdAt : Timestamp
  expiresAt : Option String
  lastUsedAt : Option Timestamp
  category : String
  deriving DecidableEq, Repr

/-- The columns of `UNIQUE(system_id, domain_addr)`. -/
def ApiKeyRecord.slot (row : ApiKeyRecord) : String × String :=
  (row.systemId, row.emailAddress)

def ApiKeyRecord.conflict (first second : ApiKeyRecord) : Bool :=
  first.id == second.id || first.keyHash == second.keyHash ||
    first.slot == second.slot

structure ActivationCodeRecord where
  codeHash : String
  codePrefix : String
  codeType : String
  systemId : String
  domain : String
  emailAddress : String
  claimed : Bool
  claimedAt : Option Timestamp
  claimedBy : Option String
  expiresAt : Option Timestamp
  isFrozen : Bool
  createdAt : Timestamp
  deriving DecidableEq, Repr

def ActivationCodeRecord.conflict (first second : ActivationCodeRecord) : Bool :=
  first.codeHash == second.codeHash

inductive EmailStatus where
  | readying
  | ready
  | sending
  | delivered
  | completed
  deriving DecidableEq, Repr

inductive EmailDirection where
  | inbound
  | outbound
  deriving DecidableEq, Repr

/-- Structured recipients. `toAddrs` and `cc` are what the headers show, `rcpt`
the addresses this record delivers to. -/
structure Recipients where
  toAddrs : List String
  cc : List String
  rcpt : List String
  deriving DecidableEq, Repr

namespace Recipients

/-- Full recipient list, for display. -/
def all (recipients : Recipients) : List String :=
  recipients.toAddrs ++ recipients.cc

/-- Delivery targets: `rcpt`, or everyone for a record without it. -/
def delivery (recipients : Recipients) : List String :=
  if recipients.rcpt.isEmpty then recipients.all else recipients.rcpt

end Recipients

structure EmailRecord where
  id : String
  status : EmailStatus
  systemId : String
  direction : EmailDirection
  sender : String
  recipients : Recipients
  subject : String
  body : String
  headers : List (String × String)
  /-- The attachment ids of the JSON column, once it is written. -/
  attachments : Option (List String)
  sendCount : Int
  lastSentAt : Timestamp
  nextRetryAt : Option Timestamp
  maxAttempts : Int
  createdAt : Timestamp
  deriving DecidableEq, Repr

def EmailRecord.conflict (first second : EmailRecord) : Bool :=
  first.id == second.id

structure AgentStateRecord where
  agentAddr : String
  stateKey : String
  stateValue : String
  createdAt : Timestamp
  updatedAt : Timestamp
  deriving DecidableEq, Repr

def AgentStateRecord.conflict (first second : AgentStateRecord) : Bool :=
  first.agentAddr == second.agentAddr && first.stateKey == second.stateKey

abbrev SystemDomains := Table SystemDomainRecord SystemDomainRecord.conflict
abbrev DomainAddrMeta := Table DomainAddrMetaRecord DomainAddrMetaRecord.conflict
abbrev Whitelists := Table WhitelistRecord WhitelistRecord.conflict
abbrev ApiKeys := Table ApiKeyRecord ApiKeyRecord.conflict
abbrev ActivationCodes := Table ActivationCodeRecord ActivationCodeRecord.conflict
abbrev Emails := Table EmailRecord EmailRecord.conflict
abbrev AgentState := Table AgentStateRecord AgentStateRecord.conflict

/-- `INTEGER PRIMARY KEY AUTOINCREMENT`: one more than the largest id the
table has or has had. -/
def nextRowid (sequence : Int) (ids : List Int) : Int :=
  ids.foldl max sequence + 1

private theorem le_foldl_max (ids : List Int) (sequence : Int) :
    sequence ≤ ids.foldl max sequence ∧
      ∀ id ∈ ids, id ≤ ids.foldl max sequence := by
  induction ids generalizing sequence with
  | nil => simp
  | cons head tail induction =>
      rcases induction (max sequence head) with ⟨fromStart, fromTail⟩
      simp only [List.foldl_cons]
      constructor
      · omega
      · intro id member
        rcases List.mem_cons.mp member with equal | later
        · omega
        · exact fromTail id later

theorem lt_nextRowid {sequence : Int} {ids : List Int} {id : Int}
    (member : id ∈ ids) : id < nextRowid sequence ids := by
  have largest := (le_foldl_max ids sequence).2 id member
  unfold nextRowid
  omega

theorem sequence_lt_nextRowid (sequence : Int) (ids : List Int) :
    sequence < nextRowid sequence ids := by
  have largest := (le_foldl_max ids sequence).1
  unfold nextRowid
  omega

structure Database where
  systemDomains : SystemDomains
  domainAddrMeta : DomainAddrMeta
  whitelists : Whitelists
  whitelistSequence : Int
  boardWhitelists : List (String × String)
  apiKeys : ApiKeys
  apiKeySequence : Int
  activationCodes : ActivationCodes
  agentState : AgentState
  emails : Emails

def Database.empty : Database where
  systemDomains := .empty
  domainAddrMeta := .empty
  whitelists := .empty
  whitelistSequence := 0
  boardWhitelists := []
  apiKeys := .empty
  apiKeySequence := 0
  activationCodes := .empty
  agentState := .empty
  emails := .empty

/-! ## Keys of the tables -/

theorem SystemDomainRecord.conflict_comm (first second : SystemDomainRecord) :
    conflict first second = conflict second first := by
  simp only [conflict, Bool.beq_comm]

theorem DomainAddrMetaRecord.conflict_comm (first second : DomainAddrMetaRecord) :
    conflict first second = conflict second first := by
  simp only [conflict, Bool.beq_comm]

theorem WhitelistRecord.conflict_comm (first second : WhitelistRecord) :
    conflict first second = conflict second first := by
  simp only [conflict, Bool.beq_comm]

theorem ApiKeyRecord.conflict_comm (first second : ApiKeyRecord) :
    conflict first second = conflict second first := by
  simp only [conflict, Bool.beq_comm]

theorem EmailRecord.conflict_comm (first second : EmailRecord) :
    conflict first second = conflict second first := by
  simp only [conflict, Bool.beq_comm]

variable {first second : SystemDomainRecord}

theorem SystemDomains.eq_of_domain {domains : SystemDomains}
    (firstMember : first ∈ domains) (secondMember : second ∈ domains)
    (same : first.domain = second.domain) : first = second :=
  Table.eq_of_conflict SystemDomainRecord.conflict_comm firstMember secondMember
    (by simp [SystemDomainRecord.conflict, same])

theorem SystemDomains.find?_id {domains : SystemDomains}
    {row : SystemDomainRecord} (member : row ∈ domains) :
    domains.find? (·.id == row.id) = some row :=
  Table.find?_eq_some_of_mem SystemDomainRecord.conflict_comm
    (fun other same => by
      rw [SystemDomainRecord.conflict, same, Bool.true_or]) member (by simp)

theorem SystemDomains.find?_domain {domains : SystemDomains}
    {row : SystemDomainRecord} (member : row ∈ domains) :
    domains.find? (·.domain == row.domain) = some row :=
  Table.find?_eq_some_of_mem SystemDomainRecord.conflict_comm
    (fun other chosen => by
      rw [beq_iff_eq] at chosen
      simp [SystemDomainRecord.conflict, chosen]) member (by simp)

theorem SystemDomains.eq_of_id {domains : SystemDomains}
    (firstMember : first ∈ domains) (secondMember : second ∈ domains)
    (same : first.id = second.id) : first = second :=
  Table.eq_of_conflict SystemDomainRecord.conflict_comm firstMember secondMember
    (by simp [SystemDomainRecord.conflict, same])

theorem DomainAddrMeta.eq_of_email {metas : DomainAddrMeta}
    {first second : DomainAddrMetaRecord}
    (firstMember : first ∈ metas) (secondMember : second ∈ metas)
    (same : first.emailAddress = second.emailAddress) : first = second :=
  Table.eq_of_conflict DomainAddrMetaRecord.conflict_comm firstMember
    secondMember (by simp [DomainAddrMetaRecord.conflict, same])

theorem ApiKeys.eq_of_id {keys : ApiKeys} {first second : ApiKeyRecord}
    (firstMember : first ∈ keys) (secondMember : second ∈ keys)
    (same : first.id = second.id) : first = second :=
  Table.eq_of_conflict ApiKeyRecord.conflict_comm firstMember secondMember
    (by simp [ApiKeyRecord.conflict, same])

theorem ApiKeys.eq_of_slot {keys : ApiKeys} {first second : ApiKeyRecord}
    (firstMember : first ∈ keys) (secondMember : second ∈ keys)
    (same : first.slot = second.slot) : first = second :=
  Table.eq_of_conflict ApiKeyRecord.conflict_comm firstMember secondMember
    (by simp [ApiKeyRecord.conflict, same])

theorem Whitelists.eq_of_id {entries : Whitelists}
    {first second : WhitelistRecord}
    (firstMember : first ∈ entries) (secondMember : second ∈ entries)
    (same : first.id = second.id) : first = second :=
  Table.eq_of_conflict WhitelistRecord.conflict_comm firstMember secondMember
    (by simp [WhitelistRecord.conflict, same])

theorem Whitelists.eq_of_rule {entries : Whitelists}
    {first second : WhitelistRecord}
    (firstMember : first ∈ entries) (secondMember : second ∈ entries)
    (same : first.rule = second.rule) : first = second :=
  Table.eq_of_conflict WhitelistRecord.conflict_comm firstMember secondMember
    (by simp [WhitelistRecord.conflict, same])

end AimailGateway
