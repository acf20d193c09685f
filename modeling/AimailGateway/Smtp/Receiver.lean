import AimailGateway.Email.Utils
import AimailGateway.Factory
import AimailGateway.Smtp.Message
import AimailGateway.Storage.Emails

/-! # The SMTP receiver

`ConnectionHandler`: the state of one SMTP session and what each command does
to it. The files of attachments, their metadata and the endpoints of a record
are left out.
-/

namespace AimailGateway.Smtp

open Library Action

structure ReceiverConfig where
  maxMessageSize : Nat
  attachmentLimits : AttachmentLimits
  deliveryWindowSecs : Nat
  autoReplyBody : Option String
  maxAttempts : Int
  systemSender : String

structure Receiver where
  env : Surroundings
  parser : MailParser
  boards : Board.Boards
  config : ReceiverConfig
  /-- Whether the file of an attachment can be saved. -/
  saves : String → Bool

structure Session where
  sender : Option String
  recipients : List String
  messageData : String
  domain : Option String
  systemId : Option String
  persona : Option String
  senderWhitelisted : Bool
  deriving DecidableEq, Repr

/-- The state of a new connection. -/
def Session.fresh : Session where
  sender := none
  recipients := []
  messageData := ""
  domain := none
  systemId := none
  persona := none
  senderWhitelisted := true

structure Connection where
  session : Session
  world : World

abbrev Handling := Action Connection Response

/-- An action on the database alone. -/
def onWorld (action : Action World ε α) : Action Connection ε α :=
  fun connection =>
    match action connection.world with
    | (outcome, world) => (outcome, { connection with world })

def current : Action Connection ε Session :=
  fun connection => (.ok connection.session, connection)

def storedSender : Action Connection ε (Option String) :=
  fun connection => (.ok connection.session.sender, connection)

def update (change : Session → Session) : Action Connection ε Unit :=
  fun connection =>
    (.ok (), { connection with session := change connection.session })

section Handlers

variable (receiver : Receiver)

/-! ## MAIL -/

/-- The sender is stored even when the command is refused. -/
def mail (sender : String) : Handling Unit := do
  update fun session => { session with sender := some sender }
  match ← (onWorld (Storage.getSystemDomainByName receiver.env
      (Text.lastPiece '@' sender))).attempt with
  | .ok (some _) =>
      fail (permFail "Internal sender address rejected on inbound path")
  | .ok none => return ()
  | .error (_ : AppError) =>
      fail (tempFail "Database error during domain lookup")

/-! ## RCPT -/

/-- The systems of the recipients so far, separated by `|`. -/
def joinSystem (systems : Option String) (systemId : String) : String :=
  match systems with
  | none => systemId
  | some systems =>
      if systems = systemId then systems else systems ++ "|" ++ systemId

/-- The mailbox of a shared system as a whole takes no mail. -/
def isSystemAnchor (row : SystemDomainRecord) (addr : String) : Bool :=
  Text.startsWith "shared-" row.systemId &&
    !Text.containsChar '.' (Text.firstPiece '@' addr)

/-- What a recipient is resolved to: the address that is checked, the address
that is added to the envelope, the owner and the persona. -/
structure Target where
  checked : String
  added : String
  systemId : String
  domain : String
  persona : String
  deriving DecidableEq, Repr

def Target.ofRow (row : SystemDomainRecord) (addr persona : String) : Target :=
  ⟨addr, addr, row.systemId, row.domain, persona⟩

def acceptRegistration (row : SystemDomainRecord) (addr persona : String) :
    Action World Response Target :=
  if isSystemAnchor row addr then fail (permFail "Recipient does not exist")
  else pure (.ofRow row addr persona)

/-- The registered address of a recipient and its persona: the address itself,
or the address without its persona prefix. -/
def resolveRecipient (recipient : String) : Action World Response Target := do
  let fullLower := receiver.env.tables.toLowercase recipient
  match ← (Storage.getSystemDomainByName receiver.env fullLower).attempt with
  | .ok (some row) => acceptRegistration row fullLower ""
  | .ok none =>
      let (base, persona) := Email.stripPersona receiver.env.tables recipient
      let baseLower := receiver.env.tables.toLowercase base
      if baseLower = fullLower then
        fail (permFail "Recipient domain not found")
      else
        match ← (Storage.getSystemDomainByName receiver.env
            baseLower).attempt with
        | .ok (some row) => acceptRegistration row baseLower persona
        | .ok none => fail (permFail "Recipient domain not found")
        | .error (_ : AppError) =>
            fail (tempFail "Database error during domain lookup")
  | .error (_ : AppError) =>
      fail (tempFail "Database error during domain lookup")

/-- The verdict of the recipient's whitelist overwrites that of the recipients
before it. -/
def checkSender (addr : String) : Handling Unit := do
  match ← storedSender with
  | none => return ()
  | some sender =>
      match ← (onWorld (EnvFactory.checkWhitelisted receiver.env addr sender
          "from")).attempt with
      | .ok verdict =>
          update fun session => { session with senderWhitelisted := verdict }
      | .error (_ : AppError) => fail (tempFail "Whitelist check failed")

def addRecipient (addr : String) : Handling Unit :=
  update fun session =>
    { session with recipients := session.recipients ++ [addr] }

def notePersona (persona : String) : Handling Unit :=
  (update fun session => { session with persona := some persona }).when
    (persona != "")

inductive BoardAddrError where
  | invalid
  | notFound
  | noSystem
  deriving DecidableEq, Repr

/-- The system of a board without one on record: that of its orchestrator. -/
def orchestratorSystem (addr : String) :
    Action World ε (Option String) := do
  match receiver.boards.orchestrator addr with
  | none => return none
  | some email =>
      match ← (Storage.getSystemDomainByName receiver.env email).attempt with
      | .ok (some row) => return some row.systemId
      | .ok none => return none
      | .error (_ : AppError) => return none

/-- The owning system and the domain of a board of this gateway. -/
def resolveBoardRecipient (addr : String) :
    Action World BoardAddrError (String × String) := do
  match Board.parseBoardEmail addr with
  | none => fail .invalid
  | some domain =>
      match receiver.boards.registry (receiver.env.tables.toLowercase addr) with
      | none => fail .notFound
      | some recorded =>
          match recorded.filter (· != "") with
          | some systemId => return (systemId, domain)
          | none =>
              match ← orchestratorSystem receiver addr with
              | some systemId =>
                  if systemId = "" then fail .noSystem
                  else return (systemId, domain)
              | none => fail .noSystem

def BoardAddrError.response : BoardAddrError → Response
  | .invalid => permFail "Invalid board address"
  | .notFound => permFail "Recipient does not exist"
  | .noSystem => tempFail "Board system not resolvable"

/-- A board's system replaces that of the recipients before it. -/
def rcptBoardAddr (recipient : String) : Handling Unit := do
  let (systemId, domain) ← (onWorld
    (resolveBoardRecipient receiver recipient)).mapError BoardAddrError.response
  update fun session => { session with
    systemId := some systemId
    domain := some domain }
  checkSender receiver recipient
  addRecipient (receiver.env.tables.toLowercase recipient)

@[irreducible] def rcpt (recipient : String) : Handling Unit := do
  if Board.isBoardAddress recipient then
    rcptBoardAddr receiver recipient
  else
    let target ← onWorld (resolveRecipient receiver recipient)
    update fun session => { session with
      systemId := some (joinSystem session.systemId target.systemId)
      domain := some target.domain }
    notePersona target.persona
    checkSender receiver target.checked
    addRecipient target.added

/-! ## DATA -/

def data (chunk : String) : Handling Unit := do
  let session ← current
  if receiver.config.maxMessageSize <
      Text.byteLength session.messageData + Text.byteLength chunk then
    fail (tempFail "Message too large")
  else
    update fun session =>
      { session with messageData := session.messageData ++ chunk }

def isStrangerMessage (messageData : String) : Bool :=
  match receiver.parser.parseHeaders messageData with
  | some headers =>
      Board.isStrangerCommand receiver.env.tables
        (headerValue headers "subject")
  | none => false

/-- The rejection deferred from RCPT. A blank sender passes: it may be a
bounce. -/
def checkDeferredWhitelist (session : Session) : Except Response Unit :=
  if session.senderWhitelisted then .ok ()
  else if session.sender.any fun sender => Text.trim sender == "" then .ok ()
  else if isStrangerMessage receiver session.messageData then .ok ()
  else .error (permFail "Sender not whitelisted")

/-- What the end of the data takes from the session. -/
structure Pending where
  sender : String
  recipients : List String
  systemId : String
  messageData : String
  persona : Option String
  senderWhitelisted : Bool
  deriving DecidableEq, Repr

/-- State extraction. The system, the domain and the persona stay behind. -/
def takePending : Handling Pending := do
  let session ← current
  match session.sender with
  | none => fail (tempFail "No sender")
  | some sender =>
      update fun session => { session with sender := none, recipients := [] }
      if session.recipients.isEmpty then
        fail (permFail "No recipients")
      else
        match session.systemId with
        | none => fail (tempFail "No system")
        | some systemId =>
            if session.domain.isNone then
              fail (tempFail "No domain")
            else
              update fun session => { session with messageData := "" }
              return ⟨sender, session.recipients, systemId, session.messageData,
                session.persona, session.senderWhitelisted⟩

/-! ### Bounces -/

/-- The outbound email a bounce is about: delivered within the window, with
the same subject and message id. -/
def bounceMatches (dsn : BounceDsn) (cutoff : Timestamp) (row : EmailRecord) :
    Bool :=
  let normalize (subject : String) :=
    receiver.env.tables.toLowercase (Text.trim subject)
  row.status == .delivered && cutoff ≤ row.lastSentAt &&
    normalize row.subject == normalize dsn.originalSubject &&
    (row.headers.lookup "message_id").getD "" == Text.trim dsn.origMessageId

def verifyBounce (dsn : BounceDsn) : Action World ε (Option String) := do
  match ← (Storage.findEmailsBySenderDirection receiver.env dsn.originalFrom
      .outbound 10).attempt with
  | .error (_ : AppError) => return none
  | .ok candidates =>
      let time ← now receiver.env
      let cutoff := time - receiver.config.deliveryWindowSecs * 1000
      return (candidates.find? (bounceMatches receiver dsn cutoff)).map (·.id)

def bounceBody (dsn : BounceDsn) : String :=
  receiver.config.autoReplyBody.getD "Your message could not be delivered." ++
    "\n---\nFrom: " ++ dsn.originalFrom ++ "\nTo: " ++ dsn.originalTo ++
    "\nSubject: " ++ dsn.originalSubject ++ "\nStatus: " ++ dsn.dsnStatus ++
    "\nDiagnostic: " ++ dsn.dsnDiagnostic

/-- Store the notification; the email it is about is then completed and
deleted. -/
def createBounceNotification (dsn : BounceDsn)
    (systemId bounceRecipient originalId : String) : Action World ε Unit := do
  let drawn ← newUuid receiver.env
  let id := "bn-" ++ drawn
  match ← (Storage.insertEmail receiver.env id systemId .inbound
      receiver.config.systemSender ⟨[bounceRecipient], [], [bounceRecipient]⟩
      "Mail delivery failed" (bounceBody receiver dsn) none
      [("message_id", id), ("original_message_id", dsn.origMessageId),
        ("bounce_status", dsn.dsnStatus),
        ("bounce_diagnostic", dsn.dsnDiagnostic)]
      receiver.config.maxAttempts).attempt with
  | .ok _ =>
      (Storage.updateEmailCompleted receiver.env originalId).ignore
      (Storage.deleteEmail receiver.env originalId).ignore
  | .error (_ : AppError) => return ()

/-- A message without a sender is answered with success and never stored
itself. -/
def processBounce (pending : Pending) : Action World Response Unit := do
  match parseBounceDsn receiver.parser pending.messageData with
  | none => return ()
  | some dsn =>
      match ← verifyBounce receiver dsn with
      | none => return ()
      | some originalId =>
          createBounceNotification receiver dsn pending.systemId
            (pending.recipients.headD "") originalId

/-! ### Messages -/

/-- The members a board's notification announces in its `X-Board-Members`
line. -/
def announcedMembers (sender messageData : String) :
    Option (String × List String) := do
  let value ← (Text.split '\n' messageData).findSome? fun line =>
    Text.afterStart "X-Board-Members:" (Text.trim line)
  let (board, members) ← Text.splitOnce ';' (Text.trim value)
  if Text.eqIgnoreAsciiCase (Text.trim board) sender then
    some (Text.trim board, ((Text.split ',' members).map Text.trim).filter
      fun member => member != "" && Text.containsChar '@' member &&
        !Text.startsWith "@" member && !Text.endsWith "@" member)
  else
    none

@[irreducible] def learnBoardMembers (sender subject messageData : String) :
    Action World ε Unit := do
  if Board.isBoardAddress sender && Text.startsWith "[A2A]" subject &&
      (Board.parseBoardEmail sender).isSome then
    match announcedMembers sender messageData with
    | none => return ()
    | some (board, members) =>
        (Storage.replaceBoardMembers receiver.env board members).ignore.when
          (!members.isEmpty)
  else
    return ()

def threadHeader (key value : String) : List (String × String) :=
  if value = "" then [] else [(key, value)]

/-- The stored value of an address header: the first that is not empty. -/
def rawHeader (headers : List MailHeader) (name : String) :
    List (String × String) :=
  match headers.find? fun header =>
      isHeader name header && header.value != "" with
  | some header => [(name, header.value)]
  | none => []

def subjectCommand (subject : String) : Option String :=
  (Board.strangerCommands.find? fun command =>
    Text.startsWith command (receiver.env.tables.toUppercase subject)).map
    fun command => receiver.env.tables.toLowercase
      (String.ofList ((command.toList.dropWhile (· == '[')).rdropWhile
        (· == ']')))

def commandHeaders (subject : String) (senderWhitelisted : Bool) :
    List (String × String) :=
  match subjectCommand receiver subject with
  | none => []
  | some command =>
      (if senderWhitelisted then [] else [("x-mail-stranger", "true")]) ++
        [("x-mail-command", command)]

def messageHeaders (pending : Pending) (headers : List MailHeader) :
    List (String × String) :=
  threadHeader "message_id" (lastHeaderValue headers "message-id") ++
    threadHeader "in_reply_to" (lastHeaderValue headers "in-reply-to") ++
    threadHeader "references" (lastHeaderValue headers "references") ++
    rawHeader headers "to" ++ rawHeader headers "cc" ++
    rawHeader headers "from" ++
    (pending.persona.map fun persona => ("_persona", persona)).toList ++
    commandHeaders receiver (lastHeaderValue headers "subject")
      pending.senderWhitelisted

/-- The recipients of the record: the header entries that match the envelope.
Boards are no delivery targets. -/
def messageRecipients (pending : Pending) (headers : List MailHeader) :
    Except Response Recipients := do
  let envelope := pending.recipients.map receiver.env.tables.toLowercase
  let toAddrs ← filterRecipients receiver.env.tables envelope
    (addressEntries headers "to")
  let cc ← filterRecipients receiver.env.tables envelope
    (addressEntries headers "cc")
  if toAddrs.isEmpty && cc.isEmpty then
    .error (permFail "No recipients match between envelope and email headers")
  else
    .ok ⟨toAddrs, cc,
      (toAddrs ++ cc).filter fun addr => !Board.isBoardAddress addr⟩

/-- One id for each attachment. -/
def drawIds : Nat → Action World ε (List String)
  | 0 => return []
  | count + 1 => do
      let id ← newUuid receiver.env
      let ids ← drawIds count
      return id :: ids

def checkMessage (pending : Pending) (attCount attSize : Option Nat) :
    Except Response (List MailHeader × String × Nat × Recipients) := do
  match receiver.parser.parseMail pending.messageData with
  | none => .error (tempFail "MIME parse error")
  | some parsed =>
      let (body, attachments) := receiver.parser.content parsed
      match validateAttachments receiver.config.attachmentLimits attachments
          attCount attSize with
      | .error error => .error (permFail error.toText)
      | .ok () =>
          let recipients ← messageRecipients receiver pending parsed.headers
          return (parsed.headers, body, attachments.length, recipients)

def primarySystem (systemId : String) : String := Text.firstPiece '|' systemId

@[irreducible] def processMessage (pending : Pending) (attCount attSize : Option Nat) :
    Action World Response Unit := do
  let (headers, body, attachments, recipients) ←
    check (checkMessage receiver pending attCount attSize)
  let subject := lastHeaderValue headers "subject"
  learnBoardMembers receiver pending.sender subject pending.messageData
  let mailId ← newUuid receiver.env
  let attachmentIds ← drawIds receiver attachments
  let record ← (Storage.insertEmail receiver.env mailId
    (primarySystem pending.systemId) .inbound pending.sender recipients subject
    body none (messageHeaders receiver pending headers)
    receiver.config.maxAttempts).mapError fun (_ : AppError) =>
      tempFail "Database insert failed"
  let saved := attachmentIds.filter receiver.saves
  (Storage.updateEmailAttachments receiver.env record.id saved).ignore.when
    (!saved.isEmpty)

def processPending (pending : Pending) (attCount attSize : Option Nat) :
    Action World Response Unit :=
  if pending.sender = "" then processBounce receiver pending
  else processMessage receiver pending attCount attSize

def processDataEndPost (attCount attSize : Option Nat) : Handling Unit := do
  let pending ← takePending
  onWorld (processPending receiver pending attCount attSize)

def dataEnd : Handling Unit := do
  let session ← current
  check (checkDeferredWhitelist receiver session)
  processDataEndPost receiver none none

end Handlers

end AimailGateway.Smtp
