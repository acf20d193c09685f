import AimailGateway.Api.AddressShape
import AimailGateway.Api.State
import AimailGateway.Board.Store
import AimailGateway.Library.Json
import AimailGateway.Smtp.Receiver
import Mathlib.Data.List.AList

/-! # The send API

`send_email_core`: the mail of an agent becomes one record for its external
and one for its internal recipients. The endpoints of a record, the channel
that triggers deliveries, the metrics and the scope check of the caller are
left out.
-/

namespace AimailGateway.Api

open Library Action

abbrev HeaderMap := AList fun _ : String => String

structure AttachmentRef where
  attachmentId : String
  filename : String
  contentType : String
  deriving DecidableEq, Repr

structure SendEmailRequest where
  sender : Option String
  toAddrs : String
  cc : Option (List String)
  subject : Option String
  markdown : String
  attachments : Option (List AttachmentRef)
  headers : Option HeaderMap

structure SendEmailResponse where
  status : StatusCode
  emailId : String
  outcome : String
  deriving DecidableEq, Repr

/-- The duplicate-send detector: the keys of the mails sent, each with its time
and its place in the order of insertion. -/
structure SendDeduper where
  entries : List (UInt64 × Timestamp × UInt64)
  seq : UInt64

namespace SendDeduper

/-- Entries older than the window are dropped by every check. -/
def purge (deduper : SendDeduper) (window : Nat) (time : Timestamp) :
    SendDeduper :=
  { deduper with
    entries := deduper.entries.filter fun entry => time - entry.2.1 < window }

/-- The entry that was inserted first. -/
def oldest (deduper : SendDeduper) : Option UInt64 :=
  (deduper.entries.minOn? fun entry => entry.2.2.toNat).map (·.1)

/-- Record a key, in place of the oldest one when the capacity is reached. -/
def mark (deduper : SendDeduper) (capacity : Nat) (key : UInt64)
    (time : Timestamp) : SendDeduper :=
  let seq := deduper.seq + 1
  let kept :=
    if capacity ≤ deduper.entries.length then
      deduper.entries.filter fun entry => some entry.1 != deduper.oldest
    else deduper.entries
  { entries := (kept.filter fun entry => entry.1 != key) ++ [(key, time, seq)]
    seq }

end SendDeduper

/-- What the send API uses besides the database. -/
structure SendState where
  /-- The surroundings, the boards and the configuration are those of the SMTP
  receiver. -/
  receiver : Smtp.Receiver
  /-- The first ten bytes of the SHA-256 of a text, in hexadecimal. -/
  digest : String → String
  /-- The database of a board, if it can be opened. -/
  openBoard : String → Option Board.BoardDb
  /-- `serde_json::from_str`. -/
  parseJson : String → Option Json
  /-- The order in which a hash set is iterated. -/
  hashOrder : Nat → List String → List String
  hashOrder_perm : ∀ tick elements, (hashOrder tick elements).Perm elements
  /-- `SendDeduper::hash_key`. -/
  dedupeKey : String → List String → List String → String → String → UInt64
  dedupeCapacity : Nat
  /-- `retry.send_dedupe_window_secs`. -/
  dedupeWindowSecs : Nat
  smtpHostname : Option String
  httpHostname : Option String
  /-- `relay.auto_reply_subject_prefix`. -/
  subjectPrefix : String

def SendState.env (state : SendState) : Surroundings := state.receiver.env

/-- The databases and the memory a send works on. -/
structure SendWorld where
  main : World
  deduper : SendDeduper
  /-- The rows of `attachment_permissions`. -/
  permissions : List (String × String)
  /-- The column `mail_id` of each row of `attachments_meta`. -/
  attachmentMails : List (String × List String)

abbrev Send := Action SendWorld HttpError

def onDatabase (action : Action World ε α) : Action SendWorld ε α :=
  fun world =>
    match action world.main with
    | (outcome, main) => (outcome, { world with main })

def updateWorld (change : SendWorld → SendWorld) : Action SendWorld ε Unit :=
  fun world => (.ok (), change world)

def deduperNow : Action SendWorld ε SendDeduper :=
  fun world => (.ok world.deduper, world)

/-- A slice of a text that begins behind its end ends the request without an
answer. -/
def panickedRequest : HttpError := ⟨.internalServerError, "", none⟩

section Handler

variable (state : SendState)

/-! ## Sender -/

/-- A local part with two dots or more. -/
def hasProfileDots (addr : String) : Bool :=
  2 ≤ (Text.firstPiece '@' addr).toList.count '.'

/-- The address without its persona, and the persona. Within a shared domain
one dot belongs to the address. -/
def splitSender (shared : Bool) (addr : String) : String × String :=
  if shared && !hasProfileDots addr then
    (state.env.tables.toLowercase addr, "")
  else
    Email.stripPersona state.env.tables addr

def senderMismatch (addr keyAddress : String) : HttpError :=
  ⟨.forbidden, "Sender mismatch", some ("The sender '" ++ addr ++
    "' must match the API key email '" ++ keyAddress ++ "'")⟩

def signedBody (sender markdown : String) : Action World ε String := do
  match ← (Storage.getDomainAddrMeta state.env sender).attempt with
  | .ok (some record) =>
      if record.agentSignature = "" then return markdown
      else return markdown ++ "\n\n-- \n" ++ record.agentSignature
  | .ok none => return markdown
  | .error (_ : AppError) => return markdown

/-! ## Duplicates -/

def dedupeTo (request : SendEmailRequest) : List String :=
  ((Text.split ',' request.toAddrs).map fun addr =>
    state.env.tables.toLowercase (Text.trim addr)).filter (· != "")

def dedupeCc (request : SendEmailRequest) : List String :=
  (request.cc.getD []).map fun addr =>
    state.env.tables.toLowercase (Text.trim addr)

def requestKey (request : SendEmailRequest) (sender body : String) : UInt64 :=
  state.dedupeKey sender (dedupeTo state request) (dedupeCc state request)
    (request.subject.getD "") body

def duplicateSend (windowSecs : Nat) : HttpError :=
  ⟨.conflict, "duplicate_send", some
    ("An identical email (same sender/to/cc/subject/body) was already sent within " ++
      toString windowSecs ++ "s. This is terminal — do not retry by any other " ++
      "means (no scripts, no direct API calls). If the original delivery " ++
      "matters, verify it arrived before acting.")⟩

/-- Whether the mail was sent within the window. -/
def isDuplicate (key : UInt64) : Action SendWorld ε Bool := do
  let time ← onDatabase (now state.env)
  updateWorld fun world => { world with
    deduper := world.deduper.purge (state.dedupeWindowSecs * 1000) time }
  let deduper ← deduperNow
  return deduper.entries.any (·.1 == key)

def checkDuplicate (request : SendEmailRequest) (sender body : String) :
    Send Unit := do
  if 0 < state.dedupeWindowSecs then
    if ← isDuplicate state (requestKey state request sender body) then
      fail (duplicateSend state.dedupeWindowSecs)
    else
      return ()
  else
    return ()

def markSent (request : SendEmailRequest) (sender body : String) :
    Send Unit := do
  if 0 < state.dedupeWindowSecs then
    let time ← onDatabase (now state.env)
    updateWorld fun world => { world with
      deduper := world.deduper.mark state.dedupeCapacity
        (requestKey state request sender body) time }
  else
    return ()

/-! ## Recipients -/

/-- `Name <email>` or a bare email; nothing if `>` is before `<`, where the
slice between them panics. -/
def parseOne (text : String) : Option (String × String) :=
  match Text.splitOnce '<' (Text.trim text) with
  | none => some ("", state.env.tables.toLowercase (Text.trim text))
  | some (name, rest) =>
      if Text.containsChar '>' name then none
      else some (Text.trim name,
        state.env.tables.toLowercase (Text.trim (Text.firstPiece '>' rest)))

def formatDisplay (name email : String) : String :=
  if name = "" then email else name ++ " <" ++ email ++ ">"

structure RecipientEntry where
  name : String
  base : String
  persona : String
  deriving DecidableEq, Repr

/-- Board addresses keep their dots. -/
def splitRecipient (shared : Bool) (email : String) : String × String :=
  if Board.isBoardAddress email || shared && !hasProfileDots email then
    (email, "")
  else
    Email.stripPersona state.env.tables email

def parseRecipients (shared : Bool) (texts : List String) :
    Option (List RecipientEntry) :=
  (texts.mapM (parseOne state)).map fun parsed =>
    (parsed.filter fun entry => entry.2 != "").map fun entry =>
      let (base, persona) := splitRecipient state shared entry.2
      ⟨entry.1, base, persona⟩

/-- The recipients of a request. -/
structure Addressees where
  toEntries : List RecipientEntry
  ccEntries : List RecipientEntry
  deriving DecidableEq, Repr

namespace Addressees

def toSet (addressees : Addressees) : List String :=
  (addressees.toEntries.map (·.base)).eraseDups

/-- A recipient in both slots stays in the first. -/
def ccRaw (addressees : Addressees) : List RecipientEntry :=
  addressees.ccEntries.filter fun entry =>
    !(addressees.toEntries.map (·.base)).contains entry.base

def ccSet (addressees : Addressees) : List String :=
  (addressees.ccRaw.map (·.base)).eraseDups

/-- The persona of a base address: the first one given. -/
def personaOf (addressees : Addressees) (base : String) : Option String :=
  (((addressees.toEntries ++ addressees.ccEntries).filter
    (·.persona != "")).find? (·.base == base)).map (·.persona)

/-- The address with its persona, as the client typed it. -/
def fullAddr (addressees : Addressees) (base : String) : String :=
  match addressees.personaOf base with
  | some persona => persona ++ "." ++ base
  | none => base

/-- The addresses that come without a name. -/
def bareEmails (addressees : Addressees) : List String :=
  (((addressees.toEntries ++ addressees.ccRaw).filter (·.name == "")).map
    (·.base)).eraseDups

end Addressees

def parseAddressees (shared : Bool) (request : SendEmailRequest) :
    Option Addressees := do
  let toEntries ← parseRecipients state shared (Text.split ',' request.toAddrs)
  let ccEntries ← parseRecipients state shared (request.cc.getD [])
  return ⟨toEntries, ccEntries⟩

/-- The elements of a hash set in the order of its iteration. -/
def iterate (elements : List String) : Action World ε (List String) :=
  fun world => (.ok (state.hashOrder world.tick elements), world.later)

/-! ## Display names -/

def domainFromEmail (addr : String) : String :=
  (Text.split '@' addr)[1]?.getD addr

def localPart (addr : String) : String := Text.firstPiece '@' addr

/-- The rules of each domain, none where they cannot be read. -/
def rulesOf : List String → Action World ε (List (String × List WhitelistRecord))
  | [] => return []
  | domain :: rest => do
      let rules ← (EnvFactory.listWhitelistEntries state.env domain).attempt
      let others ← rulesOf rest
      match rules with
      | .ok records => return (domain, records) :: others
      | .error (_ : AppError) => return (domain, []) :: others

/-- The name in the description of the rule for an address, if it has one. -/
def describedName (rules : List (String × List WhitelistRecord))
    (email : String) : Option String :=
  ((((rules.lookup (domainFromEmail email)).bind fun records =>
    (records.find? (·.value == email)).bind (·.description)).bind
      state.parseJson).bind (·.getStr? "name")).filter (· != "")

def nameMap (rules : List (String × List WhitelistRecord))
    (emails : List String) : List (String × String) :=
  emails.map fun email =>
    (email, (describedName state rules email).getD (localPart email))

def displayList (addressees : Addressees) (names : List (String × String))
    (entries : List RecipientEntry) : String :=
  ", ".intercalate (entries.map fun entry =>
    formatDisplay
      (if entry.name = "" then
        (names.lookup entry.base).getD (localPart entry.base)
      else entry.name)
      (addressees.fullAddr entry.base))

/-- The headers `to`, `cc` and `from` with their display names. -/
def displayHeaders (addressees : Addressees) (names : List (String × String))
    (sender senderDisplay : String) : List (String × String) :=
  (if addressees.toEntries.isEmpty then []
    else [("to", displayList addressees names addressees.toEntries)]) ++
  (if addressees.ccRaw.isEmpty then []
    else [("cc", displayList addressees names addressees.ccRaw)]) ++
  [("from", formatDisplay ((names.lookup sender).getD (localPart sender))
    senderDisplay)]

/-! ## Headers -/

/-- A header name that stands for a record key. -/
def isAlias (canonical name : String) : Bool :=
  name != canonical &&
    String.ofList ((Text.toAsciiLowercase name).toList.map fun character =>
      if character = '-' then '_' else character) == canonical

/-- Fold the spellings of a thread header onto its record key, which wins when
it is there. -/
def foldThreadHeader (headers : HeaderMap) (canonical : String) : HeaderMap :=
  let aliases := headers.keys.filter (isAlias canonical)
  let cleared := aliases.foldl (fun rest name => rest.erase name) headers
  match aliases.head?.bind headers.lookup with
  | none => cleared
  | some value =>
      if canonical ∈ cleared then cleared else cleared.insert canonical value

def normalizeThreadHeaders (headers : HeaderMap) : HeaderMap :=
  ["message_id", "in_reply_to", "references"].foldl foldThreadHeader headers

/-- The headers of a board in the CC slot: the first one, if the sender and the
first recipient are both its members. -/
def sessionFlow (request : SendEmailRequest) (sender : String)
    (toOrder : List String) : List (String × String) :=
  match ((request.cc.getD []).map fun addr =>
      state.env.tables.toLowercase (Text.trim addr)).find? fun addr =>
        (Board.parseBoardEmail addr).isSome with
  | none => []
  | some boardEmail =>
      let boardId := state.digest (state.env.tables.toLowercase boardEmail)
      match state.openBoard boardId with
      | none => []
      | some db =>
          match db.findMember boardId sender,
              db.findMember boardId (toOrder.headD "") with
          | some fromMember, some toMember =>
              [("X-Board-ID", boardId), ("X-Board-Role", toMember.role),
                ("X-From-Role", fromMember.role)]
          | _, _ => []

def resolveFallbackDomain (sender : String) : String :=
  let domain := if Text.containsChar '@' sender then Text.lastPiece '@' sender
    else ""
  if domain ≠ "" then domain
  else ((state.smtpHostname.or state.httpHostname).getD "aimail.local")

def insertAll (headers : HeaderMap) (entries : List (String × String)) :
    HeaderMap :=
  entries.foldl (fun map entry => map.insert entry.1 entry.2) headers

def mergedHeaders (client : Option HeaderMap)
    (display board : List (String × String)) (messageId : String) : HeaderMap :=
  let threaded := normalizeThreadHeaders (insertAll (client.getD ∅) display)
  let boarded := insertAll threaded board
  if "message_id" ∈ boarded then boarded
  else boarded.insert "message_id" messageId

/-- The headers of the inbound record: those of the mail and the markers of a
universal command. -/
def inboundHeaders (merged : HeaderMap) (subject : String) (known : Bool) :
    HeaderMap :=
  match Smtp.subjectCommand state.receiver subject with
  | none => merged
  | some command =>
      let marked :=
        if known = false ∧ "x-mail-stranger" ∉ merged then
          merged.insert "x-mail-stranger" "true"
        else merged
      marked.insert "x-mail-command" command

def headersJson (headers : HeaderMap) : List (String × String) :=
  headers.entries.map fun entry => (entry.1, entry.2)

/-! ## Who the mail may go to -/

def isSystemSink (recipient : String) : Bool :=
  state.env.tables.toLowercase recipient == state.receiver.config.systemSender

def systemLevelRecipient (recipient : String) : HttpError :=
  ⟨.badRequest, "invalid_recipient", some ("'" ++ recipient ++
    "' is a system-level address and cannot be a recipient")⟩

def refuseAnchors : List String → Action World HttpError Unit
  | [] => return ()
  | recipient :: rest => do
      if Text.containsChar '.' (localPart recipient) then
        refuseAnchors rest
      else
        match ← (Storage.getSystemDomainByName state.env recipient).attempt with
        | .ok (some row) =>
            if isShared row.systemId then fail (systemLevelRecipient recipient)
            else refuseAnchors rest
        | .ok none => refuseAnchors rest
        | .error (_ : AppError) => refuseAnchors rest

/-- A command that reaches a board without a whitelist. -/
def isBoardExempt (recipient subject : String) : Bool :=
  Board.isBoardAddress recipient &&
    Board.isStrangerCommand state.env.tables subject

/-- Whether the rules of the sender let the mail go to a recipient. -/
def isAllowed (sender subject recipient : String) : Action World ε Bool := do
  if isSystemSink state recipient then
    return true
  else
    match ← (EnvFactory.checkWhitelisted state.env sender recipient
      "to").attempt with
    | .ok true => return true
    | .ok false => return isBoardExempt state recipient subject
    | .error (_ : AppError) => return false

/-- The recipients that pass the rules of the sender, and the others. -/
def filterOutbound (sender subject : String) :
    List String → Action World ε (List String × List String)
  | [] => return ([], [])
  | recipient :: rest => do
      let allowed ← isAllowed state sender subject recipient
      let (valid, filtered) ← filterOutbound sender subject rest
      if allowed then return (recipient :: valid, filtered)
      else return (valid, recipient :: filtered)

/-- How the recipients are delivered. -/
structure Buckets where
  internal : List String
  external : List String
  unregistered : List String
  systemSink : List String
  filtered : List String
  /-- The system of the first board among the recipients. -/
  boardSystem : Option String
  deriving DecidableEq, Repr

def Buckets.empty : Buckets := ⟨[], [], [], [], [], none⟩

def splitRecipients (systemId : String) :
    List String → Action World ε Buckets
  | [] => return .empty
  | recipient :: rest => do
      if isSystemSink state recipient then
        let others ← splitRecipients systemId rest
        return { others with systemSink := recipient :: others.systemSink }
      else if Board.isBoardAddress recipient then
        match ← (Smtp.resolveBoardRecipient state.receiver recipient).attempt with
        | .ok (boardSystem, _) =>
            let others ← splitRecipients systemId rest
            return { others with
              internal := recipient :: others.internal
              boardSystem := some boardSystem }
        | .error _ =>
            let others ← splitRecipients systemId rest
            return { others with filtered := recipient :: others.filtered }
      else
        let registered ← (Storage.getSystemDomainByName state.env
          recipient).attempt
        let isInternal := match registered with
          | .ok (some row) => row.isActive &&
              (row.systemId == systemId || isShared row.systemId)
          | .ok none => false
          | .error (_ : AppError) => false
        if isInternal then
          let others ← splitRecipients systemId rest
          return { others with internal := recipient :: others.internal }
        else
          let fallback ← (Storage.getSystemDomainByName state.env
            (Text.lastPiece '@' recipient)).attempt
          let others ← splitRecipients systemId rest
          match fallback with
          | .ok (some row) =>
              if row.isActive && row.systemId == systemId then
                return { others with
                  unregistered := recipient :: others.unregistered }
              else
                return { others with external := recipient :: others.external }
          | .ok none =>
              return { others with external := recipient :: others.external }
          | .error (_ : AppError) =>
              return { others with external := recipient :: others.external }

/-- The verdict of the rules of the internal recipients. -/
structure Admission where
  internal : List String
  filtered : List String
  /-- A recipient lists the sender. -/
  known : Bool
  deriving DecidableEq, Repr

def filterInbound (sender subject : String) :
    List String → Action World ε Admission
  | [] => return ⟨[], [], false⟩
  | recipient :: rest => do
      let verdict ← (EnvFactory.checkWhitelisted state.env recipient sender
        "from").attempt
      let others ← filterInbound sender subject rest
      match verdict with
      | .ok true =>
          return { others with
            internal := recipient :: others.internal, known := true }
      | .ok false =>
          if isBoardExempt state recipient subject then
            return { others with internal := recipient :: others.internal }
          else
            return { others with filtered := recipient :: others.filtered }
      | .error (_ : AppError) =>
          return { others with filtered := recipient :: others.filtered }

/-! ## The plan of a send -/

/-- What is known of a mail when its records are created. The headers of the
client are no part of it. -/
structure SendPlan where
  systemId : String
  sender : String
  subject : String
  body : String
  attachments : Option (List AttachmentRef)
  addressees : Addressees
  display : List (String × String)
  board : List (String × String)
  messageId : String
  internal : List String
  external : List String
  unregistered : List String
  systemSink : List String
  filtered : List String
  boardSystem : Option String
  /-- An internal recipient lists the sender. -/
  known : Bool

def noRecipients : HttpError :=
  ⟨.badRequest, "No valid recipients provided",
    some "The 'to' field must contain at least one valid email address"⟩

def sendingDisabled : HttpError :=
  ⟨.forbidden, "Sending disabled",
    some "No outbound whitelist entries configured for this system/domain"⟩

/-- Boards in the CC slot are no recipients. -/
def deliverable (addressees : Addressees) (toOrder ccOrder : List String) :
    List String :=
  (toOrder ++ ccOrder).filter fun addr =>
    addressees.toSet.contains addr || !Board.isBoardAddress addr

def requireRules (sender : String) : Action World HttpError Unit := do
  let count ← (EnvFactory.countWhitelistEntries state.env sender
    [.dirTo, .dirAll]).mapError databaseError
  if count = 0 then fail sendingDisabled else return ()

/-- The buckets of the recipients, with the internal ones checked. -/
def routeRecipients (systemId sender subject : String)
    (recipients : List String) : Action World ε (Buckets × Admission) := do
  let (valid, refused) ← filterOutbound state sender subject recipients
  let buckets ← splitRecipients state systemId valid
  let admission ← filterInbound state sender subject buckets.internal
  return ({ buckets with
    filtered := refused ++ buckets.filtered ++ admission.filtered }, admission)

/-- The checks of a send, in the order of the source. The message id is drawn
in any case, which nothing can tell from one that is not drawn. -/
def planSend (key : ApiKeyRecord) (request : SendEmailRequest) :
    Send SendPlan := do
  let raw := request.sender.getD key.emailAddress
  let shared := isShared key.systemId
  let (sender, persona) := splitSender state shared raw
  if sender ≠ key.emailAddress then
    fail (senderMismatch raw key.emailAddress)
  else
    let body ← onDatabase (signedBody state sender request.markdown)
    checkDuplicate state request sender body
    match parseAddressees state shared request with
    | none => fail panickedRequest
    | some addressees =>
        let domains ← onDatabase (iterate state
          (addressees.bareEmails.map domainFromEmail).eraseDups)
        let rules ← onDatabase (rulesOf state domains)
        let toOrder ← onDatabase (iterate state addressees.toSet)
        let ccOrder ← onDatabase (iterate state addressees.ccSet)
        let drawn ← onDatabase (newUuid state.env)
        let recipients := deliverable addressees toOrder ccOrder
        if recipients = [] then fail noRecipients
        else
          onDatabase ((refuseAnchors state recipients).when shared)
          onDatabase (requireRules state sender)
          let subject := request.subject.getD ""
          let (buckets, admission) ← onDatabase (routeRecipients state
            key.systemId sender subject recipients)
          return {
            systemId := key.systemId
            sender, subject, body, addressees
            attachments := request.attachments
            display := displayHeaders addressees
              (nameMap state rules addressees.bareEmails) sender
              (if persona = "" then sender else raw)
            board := sessionFlow state request sender toOrder
            messageId := "<" ++ drawn ++ "@" ++
              resolveFallbackDomain state sender ++ ">"
            internal := admission.internal
            external := buckets.external
            unregistered := buckets.unregistered
            systemSink := buckets.systemSink
            filtered := buckets.filtered
            boardSystem := buckets.boardSystem
            known := admission.known }

/-! ## Records -/

namespace SendPlan

/-- Everyone who passed the checks. -/
def fullBases (plan : SendPlan) : List String :=
  (plan.external ++ plan.internal ++ plan.systemSink).eraseDups

/-- What both records show in `to` and `cc`. -/
def shown (plan : SendPlan) (rcpt : List String) : Recipients where
  toAddrs := (plan.fullBases.filter plan.addressees.toSet.contains).map
    plan.addressees.fullAddr
  cc := (plan.fullBases.filter plan.addressees.ccSet.contains).map
    plan.addressees.fullAddr
  rcpt := rcpt

def attachmentIds (plan : SendPlan) : Option (List String) :=
  plan.attachments.map fun refs => refs.map (·.attachmentId)

end SendPlan

def failedTo (what : String) (error : AppError) : HttpError :=
  ⟨.internalServerError, what, some error.toText⟩

def changeTables (change : SendWorld → Option SendWorld) :
    Action SendWorld AppError Unit :=
  fun world =>
    match change world with
    | some next => (.ok (), next)
    | none => (.error constraintFailed, world)

/-- A statement that touches only the tables of attachments. -/
def attachmentCall (change : SendWorld → Option SendWorld) :
    Action SendWorld AppError Unit := do
  onDatabase (query state.env fun _ => ())
  changeTables change

def addMailId (mailId attachmentId : String) : Action SendWorld AppError Unit :=
  attachmentCall state fun world => some { world with
    attachmentMails := world.attachmentMails.map fun row =>
      if row.1 = attachmentId ∧ mailId ∉ row.2 then (row.1, row.2 ++ [mailId])
      else row }

/-- `UNIQUE(attachment_id, user_email)`. -/
def createPermission (attachmentId userEmail : String) :
    Action SendWorld AppError Unit :=
  attachmentCall state fun world =>
    if world.permissions.contains (attachmentId, userEmail) then none
    else some { world with
      permissions := world.permissions ++ [(attachmentId, userEmail)] }

/-- Run an action for each element; what it ends with is ignored. -/
def forEach (action : α → Action SendWorld AppError Unit) :
    List α → Send Unit
  | [] => return ()
  | element :: rest => do
      (action element).ignore
      forEach action rest

/-- A pong goes back to the sender as if the first external recipient had sent
it. -/
def filePong (plan : SendPlan) (headers : HeaderMap) (recipient : String) :
    Send SendEmailResponse := do
  let id ← onDatabase (newUuid state.env)
  let _ ← onDatabase ((Storage.insertEmail state.env id plan.systemId .inbound
    recipient ⟨[plan.sender], [], [plan.sender]⟩ plan.subject plan.body none
    (headersJson headers) state.receiver.config.maxAttempts).mapError
      (failedTo "Pong redirect failed"))
  return ⟨.ok, id, "pong_redirected"⟩

/-- One record for all external recipients, if there are any. -/
def fileOutbound (plan : SendPlan) (headers : HeaderMap) :
    Send (List String) := do
  if plan.external = [] then
    return []
  else
    let id ← onDatabase (newUuid state.env)
    let record ← onDatabase ((Storage.insertEmail state.env id plan.systemId
      .outbound plan.sender
      (plan.shown (plan.external.map plan.addressees.fullAddr)) plan.subject
      plan.body plan.attachmentIds (headersJson headers)
      state.receiver.config.maxAttempts).mapError
        (failedTo "Failed to queue outbound email"))
    forEach (addMailId state record.id) (plan.attachmentIds.getD [])
    return [record.id]

/-- One record for all internal recipients, if there are any. Boards are no
delivery targets. -/
def fileInbound (plan : SendPlan) (headers : HeaderMap) :
    Send (List String) := do
  if plan.internal = [] then
    return []
  else
    let id ← onDatabase (newUuid state.env)
    let record ← onDatabase ((Storage.insertEmail state.env id
      (plan.boardSystem.getD plan.systemId) .inbound plan.sender
      (plan.shown (plan.internal.filter fun addr => !Board.isBoardAddress addr))
      plan.subject plan.body plan.attachmentIds (headersJson headers)
      state.receiver.config.maxAttempts).mapError
        (failedTo "Failed to queue internal email"))
    forEach (fun pair => createPermission state pair.2 pair.1)
      (plan.internal.product (plan.attachmentIds.getD []))
    forEach (addMailId state record.id) (plan.attachmentIds.getD [])
    return [record.id]

/-! ## Notices -/

def domainWebhook (addr : String) : Action World ε (Option String) := do
  match (Text.split '@' addr)[1]? with
  | none => return none
  | some domain =>
      match ← (Storage.getActiveSystemDomainByDomain state.env domain).attempt with
      | .ok (some row) => return row.webhookUrl.filter (· != "")
      | .ok none => return none
      | .error (_ : AppError) => return none

/-- The webhook of an active address, else of its active domain. -/
def resolveWebhookUrl (addr : String) : Action World ε (Option String) := do
  let lower := state.env.tables.toLowercase addr
  match ← (Storage.getActiveSystemDomainByDomain state.env lower).attempt with
  | .ok (some row) => return row.webhookUrl.filter (· != "")
  | .ok none => domainWebhook state lower
  | .error (_ : AppError) => domainWebhook state lower

/-- A mail of the gateway itself to one recipient. -/
def enqueueOutboundSimple (systemId sender recipient subject body : String) :
    Storage String := do
  let id ← newUuid state.env
  let url ← resolveWebhookUrl state (state.env.tables.toLowercase recipient)
  let drawn ← newUuid state.env
  let record ← Storage.insertEmail state.env id systemId .outbound sender
    ⟨[recipient], [], []⟩ subject body none
    ((if url.isSome then [("delivery_type", "webhook")] else []) ++
      [("message_id", "<" ++ drawn ++ "@" ++
        ((Text.split '@' sender)[1]?.getD "aimail-relay") ++ ">")])
    state.receiver.config.maxAttempts
  return record.id

def bulletList (addrs : List String) : String :=
  "\n".intercalate (addrs.map fun addr => "  • " ++ addr)

def noticeBody : String :=
  state.receiver.config.autoReplyBody.getD
    "This is an automated message from the aimail system."

/-- Tell the sender about recipients, if there are any. -/
def notifySender (plan : SendPlan) (addrs : List String)
    (subject body : String) : Send Unit := do
  if addrs = [] then
    return ()
  else
    (onDatabase (enqueueOutboundSimple state plan.systemId
      state.receiver.config.systemSender plan.sender subject body)).ignore

def sendFilteredNotification (plan : SendPlan) : Send Unit :=
  notifySender state plan plan.filtered
    (state.subjectPrefix ++ "[AimailGW] Filtered recipients: " ++
      toString plan.filtered.length ++ " recipient(s) not delivered")
    (noticeBody state ++
      "\n\n---\n\n**Filtered Recipients** (not in whitelist or blocked by policy):\n\n" ++
      bulletList plan.filtered ++
      "\n\nThese recipients will NOT receive your message. Please verify the " ++
      "addresses or contact your administrator to update whitelist settings.")

def sendUnregisteredNotification (plan : SendPlan) : Send Unit :=
  notifySender state plan plan.unregistered
    (state.subjectPrefix ++ "[AimailGW] Unregistered addresses: " ++
      toString plan.unregistered.length ++ " address(es) not deliverable")
    (noticeBody state ++
      "\n\n---\n\n**Unregistered Addresses** (domain exists but address not created):\n\n" ++
      bulletList plan.unregistered ++
      "\n\nThese addresses belong to your domain but have not been registered. " ++
      "Please create them via the Agent integration or contact your " ++
      "administrator to register these addresses.")

/-! ## The handler -/

/-- The records of a mail that is no pong, and the notices to its sender. -/
def fileMail (request : SendEmailRequest) (plan : SendPlan)
    (merged inbound : HeaderMap) : Send SendEmailResponse := do
  let outboundIds ← fileOutbound state plan merged
  let inboundIds ← fileInbound state plan inbound
  sendFilteredNotification state plan
  sendUnregisteredNotification state plan
  match outboundIds ++ inboundIds with
  | [] => return ⟨.created, "", "filtered"⟩
  | id :: _ =>
      markSent state request plan.sender plan.body
      return ⟨.created, id, "queued"⟩

def isPong (subject : String) : Bool :=
  Text.startsWith "__aimail_pong__:" subject

/-- `send_email_core`. -/
def sendEmailCore (key : ApiKeyRecord) (request : SendEmailRequest) :
    Send SendEmailResponse := do
  let plan ← planSend state key request
  let merged := mergedHeaders request.headers plan.display plan.board
    plan.messageId
  match isPong plan.subject, plan.external with
  | true, recipient :: _ => filePong state plan merged recipient
  | _, _ =>
      fileMail state request plan merged
        (inboundHeaders state merged plan.subject plan.known)

end Handler

end AimailGateway.Api
