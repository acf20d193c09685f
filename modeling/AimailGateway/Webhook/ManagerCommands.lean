import AimailGateway.Factory

/-! # Manager commands

A mail whose subject is a command is carried out instead of delivered, when it
comes from the manager of the agent it names. The mails that answer a command
are given as data; sending them is left out.
-/

namespace AimailGateway.Webhook

open Library Action

inductive ManagerCommand where
  | personaApproval (persona signature : String)
  | addContact (email : String) (description : Option String)
  | removeContact (email : String)
  | transferManager (newManager agent : String)
  deriving DecidableEq, Repr

inductive CommandKind where
  | approvePersona
  | addContact
  | removeContact
  | changeManager
  deriving DecidableEq, Repr

/-- A slice of the body that does not fall on its characters. -/
inductive CommandPanic where
  | sliced
  deriving DecidableEq, Repr

/-! ## Subject -/

def kindName : CommandKind → String
  | .approvePersona => "approve persona"
  | .addContact => "add contact"
  | .removeContact => "remove contact"
  | .changeManager => "change manager"

def matchesName (rest name : String) : Bool :=
  match Text.afterStart name rest with
  | none => false
  | some after =>
      match after.toList with
      | [] => true
      | next :: _ => Text.isWhitespace next || next == ':'

def triggers : List (String × CommandKind) :=
  [("approve persona", .approvePersona), ("批准角色", .approvePersona),
    ("add contact", .addContact), ("remove contact", .removeContact),
    ("change manager", .changeManager), ("更换安全员", .changeManager)]

def detectCommand (tables : CaseTables) (subject : String) :
    Option CommandKind :=
  match Text.afterStart "[cmd]" (tables.toLowercase (Text.trimStart subject)) with
  | none => none
  | some rest =>
      (triggers.find? fun trigger =>
        matchesName (Text.trimStart rest) trigger.1).map (·.2)

example : detectCommand Text.asciiTables " [CMD] Add contact: ann" =
    some .addContact := by
  decide +kernel

/-! ## Body -/

def payloadTerminator (tables : CaseTables) (line : String) : Bool :=
  let lower := tables.toLowercase line
  line == "" || Text.startsWith ">" line || line == "--" ||
    Text.startsWith "-- " line ||
    line.toList.all (['-', '—', '–', '_', ' '].contains ·) ||
    Text.containsText "original message" lower ||
    (Text.startsWith "on " lower && Text.containsText "wrote:" lower) ||
    Text.containsText "写道:" lower || Text.containsText "写道：" lower ||
    Text.startsWith "from:" lower || Text.startsWith "发件人" lower ||
    Text.startsWith "sent:" lower

def isPlaceholderLine (line : String) : Bool :=
  decide (2 ≤ Text.byteLength line) && Text.startsWith "<" line &&
    Text.endsWith ">" line

def pushCapture (target line : String) : String :=
  if target == "" then line else target ++ "\n" ++ line

inductive Section where
  | preamble
  | persona
  | signature
  deriving DecidableEq, Repr

structure Approval where
  part : Section
  persona : String
  signature : String

def Approval.capture (approval : Approval) (line : String) : Approval :=
  match Text.afterStart "persona:" line, Text.afterStart "signature:" line with
  | some rest, _ => { approval with part := .persona, persona := Text.trim rest }
  | none, some rest =>
      { approval with part := .signature, signature := Text.trim rest }
  | none, none =>
      if line == "" || isPlaceholderLine line then approval
      else match approval.part with
        | .preamble => approval
        | .persona =>
            { approval with persona := pushCapture approval.persona line }
        | .signature =>
            { approval with signature := pushCapture approval.signature line }

def captureLines (tables : CaseTables) : List String → Approval → Approval
  | [], approval => approval
  | line :: rest, approval =>
      if approval.part != .preamble && payloadTerminator tables (Text.trim line)
      then approval
      else captureLines tables rest (approval.capture (Text.trim line))

def parsePersonaApproval (tables : CaseTables) (body : String) :
    Option (String × String) :=
  let approval := captureLines tables (Text.lines body) ⟨.preamble, "", ""⟩
  if approval.persona == "" && approval.signature == "" then none
  else some (approval.persona, approval.signature)

def descriptionOf (line : String) : Option String :=
  let value := fun start =>
    ((Text.afterStart start (Text.trim line)).map Text.trim).filter (· != "")
  value "description:" <|> value "desc:"

def extractDescriptionFromBody (body : String) : Option String :=
  (Text.lines body).findSome? descriptionOf

def addressBefore (rest restLower : String) :
    List String → Except CommandPanic (Option String)
  | [] => .ok none
  | keyword :: keywords =>
      match Text.find keyword restLower with
      | none => addressBefore rest restLower keywords
      | some position =>
          match Text.sliceTo position rest with
          | none => .error .sliced
          | some start =>
              let email := Text.trim start
              if email != "" && Text.containsChar '@' email then .ok (some email)
              else addressBefore rest restLower keywords

/-- The address between one of the prefixes and one of the keywords. The
prefixes are found in the body in lower case, and cut from the body. -/
def addressBetween (tables : CaseTables) (body : String)
    (keywords : List String) : List String → Except CommandPanic (Option String)
  | [] => .ok none
  | start :: prefixes =>
      match Text.find start (tables.toLowercase body) with
      | none => addressBetween tables body keywords prefixes
      | some position =>
          match Text.sliceFrom (position + Text.byteLength start) body with
          | none => .error .sliced
          | some rest =>
              match addressBefore rest (tables.toLowercase rest) keywords with
              | .ok none => addressBetween tables body keywords prefixes
              | found => found

def parseAddContactBody (tables : CaseTables) (body : String) :
    Except CommandPanic (Option ManagerCommand) :=
  (addressBetween tables body [" to my contacts", " to contacts"]
    ["add ", "添加 ", "加入 "]).map fun found => found.map fun email =>
      .addContact email (extractDescriptionFromBody body)

example : parseAddContactBody Text.asciiTables
    "Please ADD ann@x.org to my contacts\ndesc: sales" =
      .ok (some (.addContact "ann@x.org" (some "sales"))) := by
  decide +kernel

def parseRemoveContactBody (tables : CaseTables) (body : String) :
    Except CommandPanic (Option ManagerCommand) :=
  (addressBetween tables body [" from my contacts", " from contacts"]
    ["remove ", "delete ", "移除 ", "删除 "]).map fun found =>
      found.map .removeContact

/-- The payload of a change of manager: the new manager in `To:`, the agent in
`Cc:`, and both in the body. -/
def matchTransfer (tables : CaseTables) (record : EmailRecord) :
    Except String ManagerCommand :=
  match record.recipients.toAddrs, record.recipients.cc with
  | [first], [second] =>
      let newManager := Text.trim first
      let agent := Text.trim second
      let body := tables.toLowercase record.body
      if !Text.containsChar '@' newManager then
        .error ("To: address '" ++ newManager ++ "' is not a valid email")
      else if !Text.containsChar '@' agent then
        .error ("Cc: address '" ++ agent ++ "' is not a valid email")
      else if !Text.containsText (tables.toLowercase newManager) body then
        .error ("body must name the new manager (" ++ newManager ++ ")")
      else if !Text.containsText (tables.toLowercase agent) body then
        .error ("body must name the managed agent (" ++ agent ++ ")")
      else if !Text.containsText "change manager" body &&
          !Text.containsText "更换安全员" body then
        .error "body must contain 'change manager' (or '更换安全员')"
      else .ok (.transferManager newManager agent)
  | [_], cc =>
      .error ("exactly one recipient in Cc: is required (the managed agent); " ++
        "found " ++ toString cc.length)
  | toAddrs, _ =>
      .error ("exactly one recipient in To: is required (the new manager); " ++
        "found " ++ toString toAddrs.length)

/-- A payload that must be there. -/
def required (found : Except CommandPanic (Option ManagerCommand))
    (reason : String) : Except CommandPanic (Except String ManagerCommand) :=
  found.map fun command => command.elim (.error reason) .ok

def matchPayload (tables : CaseTables) (kind : CommandKind)
    (record : EmailRecord) : Except CommandPanic (Except String ManagerCommand) :=
  match kind with
  | .approvePersona =>
      required (.ok ((parsePersonaApproval tables record.body).map fun both =>
          .personaApproval both.1 both.2))
        "no 'persona:' and/or 'signature:' section found in the body"
  | .addContact =>
      required (parseAddContactBody tables record.body)
        "body must be of the form 'add <email> to my contacts'"
  | .removeContact =>
      required (parseRemoveContactBody tables record.body)
        "body must be of the form 'remove <email> from my contacts'"
  | .changeManager => .ok (matchTransfer tables record)

/-! ## Execution -/

/-- The mails that answer a command. -/
inductive Ack where
  | failed (agent name reason : String)
  | command (agent sender systemId name applied : String)
      (error : Option String)
  | personaApplied (agent systemId persona signature : String)
  | newManager (newManager agent systemId : String)
  deriving DecidableEq, Repr

/-- Whether the mail is consumed, and what is sent. -/
structure Handled where
  consumed : Bool
  acks : List Ack
  deriving DecidableEq, Repr

def delivered : Handled := ⟨false, []⟩

def isManager (sender managerAddress : String) : Bool :=
  managerAddress != "" && Text.eqIgnoreAsciiCase sender managerAddress

section Handlers

variable (env : Surroundings)

/-- The change of the database, with the text of what was applied and the
mails to others. -/
def executeRegular (kind : CommandKind) (command : ManagerCommand)
    (agent : String) (row : DomainAddrMetaRecord) :
    Action World ε (Except String (String × List Ack)) :=
  match kind, command with
  | .approvePersona, .personaApproval persona signature => do
      let sig := if signature == "" then row.agentSignature else signature
      let per := if persona == "" then row.agentPersona else persona
      match ← (Storage.upsertDomainAddrMeta env agent row.systemId
          (some row.managerAddress) (some sig) (some per)).attempt with
      | .error error => return .error error.toText
      | .ok _ =>
          return .ok ("persona = " ++ per ++ "\n          signature = " ++ sig ++
            (if persona == "" || signature == "" then
              "\n          (unchanged: omitted section keeps its previous value)"
            else ""), [.personaApplied agent row.systemId per sig])
  | .addContact, .addContact email description => do
      match ← (EnvFactory.createWhitelistEntry env agent "all" email
          description).attempt with
      | .error error => return .error error.toText
      | .ok _ =>
          return .ok (email ++ " added to your contacts (direction: all)", [])
  | .removeContact, .removeContact email => do
      match ← (Storage.deleteWhitelistByDomainAndValue env agent
          email).attempt with
      | .error error => return .error error.toText
      | .ok _ => return .ok (email ++ " removed from your contacts", [])
  | _, _ => return .error "internal: command kind does not match payload"

def notTheManager (record : EmailRecord) (agent name : String) : Ack :=
  .failed agent name
    ("sender " ++ record.sender ++ " is not the manager of " ++ agent)

def handleRegularCommand (kind : CommandKind) (record : EmailRecord)
    (name : String) : Action World CommandPanic Handled :=
  match record.recipients.delivery with
  | [] => return delivered
  | agent :: _ => do
      match ← (Storage.getDomainAddrMeta env agent).attempt with
      | .ok (some row) =>
          match ← check (matchPayload env.tables kind record) with
          | .error reason => return ⟨true, [.failed agent name reason]⟩
          | .ok command =>
              if !isManager record.sender row.managerAddress then
                return ⟨false, [notTheManager record agent name]⟩
              else
                match ← executeRegular env kind command agent row with
                | .error error =>
                    return ⟨false, [.command agent record.sender row.systemId
                      name "" (some error)]⟩
                | .ok (applied, notices) =>
                    return ⟨true, notices ++ [.command agent record.sender
                      row.systemId name applied none]⟩
      | _ => return delivered

def agentIsRegistered (addr : String) : Action World ε Bool := do
  match ← (Storage.getDomainAddrMeta env addr).attempt with
  | .ok (some _) => return true
  | _ => return false

/-- A malformed change of manager: it is consumed only when the agent is
registered. -/
def refuseTransfer (record : EmailRecord) (name reason : String) :
    Action World ε Handled := do
  let label := record.recipients.cc.head?.getD ""
  if label == "" then return delivered
  else if ← agentIsRegistered env label then
    return ⟨true, [.failed label name reason]⟩
  else return delivered

def transferManager (record : EmailRecord) (name newManager agent : String) :
    Action World ε Handled := do
  match ← (Storage.getDomainAddrMeta env agent).attempt with
  | .ok (some row) =>
      if !isManager record.sender row.managerAddress then
        return ⟨false, [notTheManager record agent name]⟩
      else
        match ← (Storage.upsertDomainAddrMeta env agent row.systemId
            (some newManager) (some row.agentSignature)
            (some row.agentPersona)).attempt with
        | .error error =>
            return ⟨false, [.command agent record.sender row.systemId name ""
              (some error.toText)]⟩
        | .ok _ =>
            return ⟨true, [.command agent record.sender row.systemId name
                ("manager of " ++ agent ++ " changed: " ++ record.sender ++
                  " → " ++ newManager) none,
              .newManager newManager agent row.systemId]⟩
  | _ => return delivered

def handleChangeManager (record : EmailRecord) (name : String) :
    Action World CommandPanic Handled := do
  match ← check (matchPayload env.tables .changeManager record) with
  | .error reason => refuseTransfer env record name reason
  | .ok (.transferManager newManager agent) =>
      transferManager env record name newManager agent
  | .ok _ => return delivered

def handleManagerCommands (record : EmailRecord) :
    Action World CommandPanic Handled :=
  match detectCommand env.tables record.subject with
  | none => return delivered
  | some .changeManager =>
      handleChangeManager env record (kindName .changeManager)
  | some kind => handleRegularCommand env kind record (kindName kind)

end Handlers

/-! ## Whose agents a command changes -/

/-- The sender is the manager stored for the agent. -/
def ManagedBy (tables : CaseTables) (db : Database) (agent sender : String) :
    Prop :=
  ∃ row ∈ db.domainAddrMeta, row.emailAddress = tables.toLowercase agent ∧
    row.managerAddress ≠ "" ∧
    Text.eqIgnoreAsciiCase sender row.managerAddress = true

/-- The metadata and the rules of an agent are the same, whatever the letter
case its rules were written in. -/
structure SameAgent (tables : CaseTables) (before after : Database)
    (agent : String) : Prop where
  metadata : ∀ row : DomainAddrMetaRecord,
    row.emailAddress = tables.toLowercase agent →
      (row ∈ before.domainAddrMeta ↔ row ∈ after.domainAddrMeta)
  rules : ∀ row : WhitelistRecord,
    tables.toLowercase row.domainAddr = tables.toLowercase agent →
      (row ∈ before.whitelists ↔ row ∈ after.whitelists)

/-- Only the agent differs between two databases. -/
structure TouchesAgent (tables : CaseTables) (agent : String)
    (before after : Database) : Prop where
  metadata : Table.ChangesOnly
    (fun row : DomainAddrMetaRecord =>
      row.emailAddress = tables.toLowercase agent)
    before.domainAddrMeta after.domainAddrMeta
  rules : Table.ChangesOnly
    (fun row : WhitelistRecord => row.domainAddr = agent)
    before.whitelists after.whitelists

/-- What a mail of the sender leaves of the agents of others. -/
def ManagesOwn (tables : CaseTables) (sender : String)
    (before after : Database) : Prop :=
  ∀ agent, ManagedBy tables before agent sender ∨
    SameAgent tables before after agent

section Proofs

variable {env : Surroundings} {world : World} {record : EmailRecord}
  {tables : CaseTables} {sender agent : String}
  {failed : AppError → World → Prop}

theorem TouchesAgent.refl (tables : CaseTables) (agent : String)
    (db : Database) : TouchesAgent tables agent db db :=
  ⟨Table.ChangesOnly.refl _ _, Table.ChangesOnly.refl _ _⟩

theorem ManagesOwn.refl (tables : CaseTables) (sender : String)
    (db : Database) : ManagesOwn tables sender db db :=
  fun _ => .inr ⟨fun _ _ => Iff.rfl, fun _ _ => Iff.rfl⟩

theorem ManagesOwn.of_eq {before after : Database} (same : after = before) :
    ManagesOwn tables sender before after := by
  rw [same]
  exact ManagesOwn.refl tables sender before

theorem TouchesAgent.managesOwn {before after : Database}
    (touches : TouchesAgent tables agent before after)
    (managed : ManagedBy tables before agent sender) :
    ManagesOwn tables sender before after := by
  intro other
  by_cases same : tables.toLowercase other = tables.toLowercase agent
  · left
    rcases managed with ⟨row, member, named, manages⟩
    exact ⟨row, member, named.trans same.symm, manages⟩
  · right
    constructor
    · intro row named
      exact touches.metadata row fun own => same (named.symm.trans own)
    · intro row named
      refine touches.rules row ?_
      rintro rfl
      exact same named.symm

theorem upsertDomainAddrMeta_touches {systemId : String}
    {managerAddress agentSignature agentPersona : Option String}
    {ok : DomainAddrMetaRecord → World → Prop}
    (written : ∀ record later,
      TouchesAgent env.tables agent world.db later.db → ok record later)
    (fault : AllowsFailure failed world) :
    (Storage.upsertDomainAddrMeta env agent systemId managerAddress
      agentSignature agentPersona).Ends ok failed world := by
  apply Storage.upsertDomainAddrMeta_ends fault
  intro record domainAddrMeta later named _ upserted same
  refine written record later ?_
  rw [same]
  refine ⟨?_, Table.ChangesOnly.refl _ _⟩
  refine Table.changesOnly_upsert? upserted ?_ ?_ named
  · intro row _ chosen
    exact (beq_iff_eq.mp chosen).trans named
  · intro row _ _
    exact named

theorem createWhitelistEntry_touches {direction value : String}
    {description : Option String} {ok : WhitelistRecord → World → Prop}
    (written : ∀ record later,
      TouchesAgent env.tables agent world.db later.db → ok record later)
    (fault : AllowsFailure failed world) :
    (EnvFactory.createWhitelistEntry env agent direction value
      description).Ends ok failed world := by
  rw [EnvFactory.createWhitelistEntry]
  apply EnvFactory.createWhitelistEntryFull_ends fault
  intro row _ _ parsed createdAt answer later _ executed
  refine written answer later ?_
  rcases Storage.upsertWhitelist_ok executed with
    ⟨_, _, whitelists, inserted, same⟩ | ⟨_, _, _, _, whitelists, updated, same⟩
  · rw [same]
    exact ⟨Table.ChangesOnly.refl _ _, Table.changesOnly_insert? inserted rfl⟩
  · rw [same]
    refine ⟨Table.ChangesOnly.refl _ _, ?_⟩
    have own : ∀ rule : WhitelistRecord, (rule.rule == (Storage.newWhitelist
        world.db row.systemId agent parsed value "system" none description
          createdAt).rule) = true → rule.domainAddr = agent := by
      intro rule chosen
      exact (Prod.mk.inj (Prod.mk.inj (beq_iff_eq.mp chosen)).2).1
    refine Table.changesOnly_update? updated ?_ ?_
    · exact fun rule _ chosen => own rule chosen
    · exact fun rule _ chosen => own rule chosen

theorem deleteWhitelist_touches {value : String} {ok : Unit → World → Prop}
    (written : ∀ later, TouchesAgent env.tables agent world.db later.db →
      ok () later)
    (fault : AllowsFailure failed world) :
    (Storage.deleteWhitelistByDomainAndValue env agent value).Ends ok failed
      world := by
  apply call_ends
  · exact fun error => fault error _ rfl
  · intro answer db deleted
    cases deleted
    refine written _ ⟨Table.ChangesOnly.refl _ _, ?_⟩
    refine Table.changesOnly_delete ?_
    intro row _ chosen
    rw [Bool.and_eq_true, beq_iff_eq] at chosen
    exact chosen.1

theorem isManager_iff {managerAddress : String} :
    isManager sender managerAddress = true ↔ managerAddress ≠ "" ∧
      Text.eqIgnoreAsciiCase sender managerAddress = true := by
  simp [isManager]

theorem executeRegular_touches {kind : CommandKind} {command : ManagerCommand}
    {row : DomainAddrMetaRecord} {failed : ε → World → Prop} :
    (executeRegular env kind command agent row).Ends
      (fun _ later => TouchesAgent env.tables agent world.db later.db) failed
      world := by
  have kept : ∀ later : World, later.db = world.db →
      TouchesAgent env.tables agent world.db later.db := by
    intro later same
    rw [same]
    exact TouchesAgent.refl env.tables agent world.db
  unfold executeRegular
  split
  · rw [ends_bind, ends_attempt]
    exact upsertDomainAddrMeta_touches (fun _ _ touches => touches)
      fun _ later same => kept later same
  · rw [ends_bind, ends_attempt]
    exact createWhitelistEntry_touches (fun _ _ touches => touches)
      fun _ later same => kept later same
  · rw [ends_bind, ends_attempt]
    exact deleteWhitelist_touches (fun _ touches => touches)
      fun _ later same => kept later same
  · exact kept world rfl

theorem handleRegularCommand_ends {kind : CommandKind} {name : String} :
    (handleRegularCommand env kind record name).Ends
      (fun _ later => ManagesOwn env.tables record.sender world.db later.db)
      (fun _ later => ManagesOwn env.tables record.sender world.db later.db)
      world := by
  have kept : ∀ later : World, later.db = world.db →
      ManagesOwn env.tables record.sender world.db later.db :=
    fun _ same => .of_eq same
  unfold handleRegularCommand
  split
  · exact kept world rfl
  · next agent _ _ =>
      rw [ends_bind, ends_attempt]
      apply Storage.getDomainAddrMeta_ends
      · exact fun _ => kept world.later rfl
      · exact fun _ => kept world.later rfl
      · intro row member named
        show ((check (matchPayload env.tables kind record)) >>= _).Ends _ _ _
        rw [ends_bind, ends_check]
        refine ⟨fun payload _ => ?_, fun _ _ => kept world.later rfl⟩
        split
        · exact kept world.later rfl
        · next command =>
            split
            · exact kept world.later rfl
            · next manages =>
                have managed : ManagedBy env.tables world.db agent
                    record.sender :=
                  ⟨row, member, named, isManager_iff.mp (by simpa using manages)⟩
                rw [ends_bind]
                refine executeRegular_touches.mono ?_ fun _ _ => id
                intro outcome later touches
                have own : ManagesOwn env.tables record.sender world.db
                    later.db := touches.managesOwn managed
                split
                · exact own
                · exact own

theorem refuseTransfer_keeps {name reason : String} :
    (refuseTransfer env record name reason : Action World ε Handled).Ends
      (fun _ later => later.db = world.db) (fun _ later => later.db = world.db)
      world := by
  have asked : (agentIsRegistered env (record.recipients.cc.head?.getD "") :
      Action World ε Bool).Ends (fun _ later => later.db = world.db)
        (fun _ later => later.db = world.db) world := by
    rw [agentIsRegistered, ends_bind, ends_attempt]
    apply Storage.getDomainAddrMeta_ends
    · exact fun _ => rfl
    · exact fun _ => rfl
    · exact fun _ _ _ => rfl
  unfold refuseTransfer
  dsimp only
  split
  · exact rfl
  · rw [ends_bind]
    refine asked.mono ?_ fun _ _ same => same
    intro registered later same
    split
    · exact same
    · exact same

theorem transferManager_ends {name newManager agent : String} :
    (transferManager env record name newManager agent :
      Action World ε Handled).Ends
      (fun _ later => ManagesOwn env.tables record.sender world.db later.db)
      (fun _ later => ManagesOwn env.tables record.sender world.db later.db)
      world := by
  have kept : ∀ later : World, later.db = world.db →
      ManagesOwn env.tables record.sender world.db later.db :=
    fun _ same => .of_eq same
  rw [transferManager, ends_bind, ends_attempt]
  apply Storage.getDomainAddrMeta_ends
  · exact fun _ => kept world.later rfl
  · exact fun _ => kept world.later rfl
  · intro row member named
    dsimp only
    split
    · exact kept world.later rfl
    · next manages =>
        have managed : ManagedBy env.tables world.db agent record.sender :=
          ⟨row, member, named, isManager_iff.mp (by simpa using manages)⟩
        rw [ends_bind, ends_attempt]
        refine upsertDomainAddrMeta_touches (fun _ later touches => ?_)
          fun _ later same => kept later same
        exact touches.managesOwn managed

theorem handleChangeManager_ends {name : String} :
    (handleChangeManager env record name).Ends
      (fun _ later => ManagesOwn env.tables record.sender world.db later.db)
      (fun _ later => ManagesOwn env.tables record.sender world.db later.db)
      world := by
  rw [handleChangeManager, ends_bind, ends_check]
  refine ⟨fun payload _ => ?_, fun _ _ => ManagesOwn.refl _ _ _⟩
  split
  · exact refuseTransfer_keeps.mono (fun _ _ same => .of_eq same)
      fun _ _ same => .of_eq same
  · exact transferManager_ends
  · exact ManagesOwn.refl _ _ _

end Proofs

/-- A mail changes by command only the agents whose manager has sent it. -/
theorem managerCommands_manageOwn (env : Surroundings) (record : EmailRecord) :
    (handleManagerCommands env record).Moves fun before after =>
      ManagesOwn env.tables record.sender before.db after.db := by
  rw [moves_iff_ends]
  intro world
  unfold handleManagerCommands
  split
  · exact ManagesOwn.refl _ _ _
  · exact handleChangeManager_ends
  · exact handleRegularCommand_ends

end AimailGateway.Webhook
