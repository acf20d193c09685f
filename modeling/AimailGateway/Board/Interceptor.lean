import AimailGateway.Board.Commands
import AimailGateway.Board.Gateway
import AimailGateway.Storage.Domains
import AimailGateway.Storage.Whitelists

/-! # Interception of inbound mail

A mail to an orchestrator can create a board, one to a board can carry a
command or the owner's confirmation. The mails and log lines that follow are
left out, and what is added to the payload of a mail that goes on.
-/

namespace AimailGateway.Board

open Library Fallible

/-- What the interceptor reads of the payload of a mail. -/
structure InboundMail where
  subject : String
  sender : String
  toArr : List String
  ccArr : List String
  body : String
  attachments : Option Json

inductive InterceptorDecision where
  | handled
  | passThrough
  deriving DecidableEq, Repr

namespace Interceptor

/-- The first board address among the recipients, or the first recipient. -/
def recipient (mail : InboundMail) : String :=
  ((mail.toArr.find? isBoardAddress).or mail.toArr.head?).getD ""

/-! ## Creation of a board -/

def padding (settings : Settings) (tick : Nat) : Char :=
  let idx := settings.random tick
  if idx < 10 then Char.ofNat (48 + idx) else Char.ofNat (97 + (idx - 10))

def isShortIdChar (character : Char) : Bool :=
  character.isAlphanum || character == '-' || character == '_'

/-- Filter to `[a-zA-Z0-9_-]`, truncate to 16, pad to 5. -/
@[irreducible] def sanitizeShortId (settings : Settings) (raw : String) :
    Action Gateway AppError String :=
  fun gateway =>
    let filtered := (raw.toList.filter isShortIdChar).take 16
    let pad := (List.range (5 - filtered.length)).map fun position =>
      padding settings (gateway.tick + position)
    (.ok (String.ofList (filtered ++ pad)),
      { gateway with tick := gateway.tick + pad.length })

def hasRole (role : String) (entry : Json) : Bool :=
  entry.getStr? "role" == some role

def orchestratorOf (members : List Json) : String :=
  ((members.find? (hasRole "orchestrator")).bind (·.getStr? "email")).getD ""

/-- At least one verifier is among the recipients of the mail. -/
def verifierAddressed (tables : CaseTables) (members : List Json)
    (toArr ccArr : List String) : Bool :=
  ((members.filter (hasRole "verifier")).filterMap (·.getStr? "email")).any
    fun email => ((toArr ++ ccArr).map tables.toLowercase).contains
      (tables.toLowercase email)

/-- The conditions on the members a creation mail lists. -/
def isAnnounced (tables : CaseTables) (mail : InboundMail)
    (members : List Json) : Bool :=
  members.any (hasRole "orchestrator") && members.any (hasRole "verifier") &&
    orchestratorOf members == recipient mail &&
    verifierAddressed tables members mail.toArr mail.ccArr

def declaresOwner (members : List Json) (sender : String) : Bool :=
  members.any fun entry =>
    hasRole "owner" entry && entry.getStr? "email" == some sender

def boardAddress (system orchEmail shortId : String) : String :=
  let orchDomain := ((Text.split '@' orchEmail)[1]?).getD ""
  if Text.startsWith "shared-" system then
    let sysName := Text.lastPiece '.' (Text.firstPiece '@' orchEmail)
    shortId ++ "." ++ sysName ++ ".a2a@" ++ orchDomain
  else shortId ++ ".a2a@" ++ orchDomain

def orchestratorSystem (settings : Settings) (orchEmail : String) :
    Action Gateway AppError String := do
  match ← (onMain (Storage.getSystemDomainByName settings.env orchEmail)).attempt
  with
  | .ok found => return (found.map (·.systemId)).getD ""
  | .error _ => return ""

def admitBoard (settings : Settings) (system : String) :
    Action Gateway AppError Bool :=
  fun gateway =>
    (.ok (settings.admitBoard gateway.tick system),
      { gateway with tick := gateway.tick + 1 })

def newBoard (id shortId boardEmail description system createdAt : String) :
    BoardRecord where
  id := id
  shortId := shortId
  boardEmail := boardEmail
  goal := if description = "" then none else some description
  status := .active
  outputTaskId := none
  planVersion := none
  planText := none
  planConfirmedAt := none
  criteriaVersion := none
  criteriaText := none
  criteriaConfirmedAt := none
  createdAt := createdAt
  completedAt := none
  systemId := if system = "" then none else some system

def insertBoard (id shortId boardEmail description system : String) :
    Command Unit := do
  let createdAt ← Store.utcNow
  ignore (Store.createBoard
    (newBoard id shortId boardEmail description system createdAt))

/-- Create the board if it does not exist and is admitted. -/
def ensureBoard (settings : Settings)
    (id shortId boardEmail description system : String) :
    Action Gateway AppError Bool := do
  match ← onBoard settings id (Store.selectBoard id) with
  | some _ => return true
  | none =>
      if ← admitBoard settings system then
        onBoard settings id
          (insertBoard id shortId boardEmail description system)
        return true
      else return false

/-- A member that exists keeps the token. -/
def registerMember (host : Host) (boardId email role displayName : String) :
    Command Unit := do
  match ← Store.getMember boardId email with
  | some _ => return ()
  | none =>
      let token ← Store.generateBoardToken
      let joinedAt ← Store.utcNow
      ignore (Store.addMember host
        { email
          role
          displayName
          boardId
          boardToken := some token
          boardTokenSalt := none
          joinedAt := some joinedAt
          domains := none
          capabilitySnapshot := none })

/-- Register the members in order, up to the first unknown role. The addresses
of all of them are the group whitelist. -/
def registerMembers (host : Host) (boardId : String) :
    List Json → Command (Option (List String))
  | [] => return some []
  | entry :: rest => do
      let email := (entry.getStr? "email").getD ""
      let role := (entry.getStr? "role").getD "worker"
      if Store.knownRoles.contains role = false then return none
      else if email = "" then registerMembers host boardId rest
      else
        registerMember host boardId email role
          ((entry.getStr? "display_name").getD email)
        let later ← registerMembers host boardId rest
        return later.map (email :: ·)

/-- The overrides a mail gives, as they are. -/
def givenPermissions (params : Option Json) :
    Option (List (String × List String)) :=
  (params.bind (·.getArray? "role_permissions")).map
    fun entries => entries.filterMap Commands.permissionEntry

def initPermissions (given : Option (List (String × List String))) :
    Command Unit := do
  match given with
  | some permissions => ignore (Store.insertRolePermissions permissions)
  | none => pure ()
  ignore Store.seedDefaultRolePermissions

/-- The members, the group whitelist and the permissions of a board. -/
def populateBoard (settings : Settings) (boardId boardEmail : String)
    (params : Option Json) (members : List Json) :
    Action Gateway AppError Unit := do
  match ← onBoard settings boardId
    (registerMembers settings.host boardId members) with
  | none => return ()
  | some emails =>
      (onMain
        (Storage.replaceBoardMembers settings.env boardEmail emails)).ignore
      onBoard settings boardId (initPermissions (givenPermissions params))

/-- `[A2A] new` to an orchestrator. -/
def receiveNew (settings : Settings) (mail : InboundMail) :
    Action Gateway AppError InterceptorDecision := do
  let subject := Text.trim mail.subject
  let rest := Text.trim ((Text.afterStart "[A2A] new " subject).getD "")
  let parts := (Text.splitOnce ':' rest).getD (rest, "")
  let shortId ← sanitizeShortId settings (Text.trim parts.1)
  let description := Text.trim parts.2
  if shortId = "" then return .passThrough
  else
    let params := settings.parseJson mail.body
    let members := (params.bind (·.getArray? "members")).getD []
    if isAnnounced settings.env.tables mail members = false then
      return .passThrough
    else
      let orchEmail := orchestratorOf members
      let system ← orchestratorSystem settings orchEmail
      let boardEmail := boardAddress system orchEmail shortId
      let boardId := deriveBoardId settings boardEmail
      if declaresOwner members mail.sender = false then return .passThrough
      else
        if ← ensureBoard settings boardId shortId boardEmail description system
        then
          populateBoard settings boardId boardEmail params members
          return .passThrough
        else return .passThrough

/-! ## Commands -/

/-- `value[key] = field`, which panics on a value that is no object. -/
def indexAssign (value : Json) (key : String) (field : Json) : Option Json :=
  match value with
  | .object fields => some (.object (fields ++ [(key, field)]))
  | .null => some (.object [(key, field)])
  | _ => none

/-- Add a field unless it is there. -/
def inject (key : String) (field : Json) (value : Json) : Option Json :=
  if (value.get? key).isSome then some value else indexAssign value key field

def commandOf (settings : Settings) (boardId rest : String)
    (mail : InboundMail) : Option A2aCommand := do
  let words := Text.words rest
  let params := (settings.parseJson mail.body).getD
    (.object [("body", .string mail.body)])
  let identified ← inject "board_id" (.string boardId) params
  let attached ← mail.attachments.elim (some identified)
    fun attachments => inject "_attachments" attachments identified
  return {
    verb := words.head?.getD ""
    taskId := words[1]?
    params := some attached }

def notifierOf (board : BoardRecord) : Notifier where
  boardId := board.id
  boardShortId := board.shortId
  boardEmail := board.boardEmail

/-- A board past its active life takes no commands. -/
def isPast (board : BoardRecord) : Bool :=
  board.status = .archived || board.status = .frozen

def receiveCommand (settings : Settings) (mail : InboundMail)
    (boardId rest : String) : Action Gateway AppError InterceptorDecision := do
  match ← onBoard settings boardId (Store.selectBoard boardId) with
  | none => return .passThrough
  | some board =>
      if Text.eqIgnoreAsciiCase board.boardEmail (recipient mail) = false then
        return .passThrough
      else if isPast board then return .passThrough
      else
        match commandOf settings boardId rest mail with
        | none => Action.fail (.internal "cannot access key")
        | some cmd =>
            (onBoard settings boardId (Commands.executeCommand settings.host
              (notifierOf board) cmd mail.sender)).ignore
            return .handled

/-! ## Confirmation by the owner -/

inductive ConfirmType where
  | plan
  | criteria
  | output
  deriving DecidableEq, Repr

namespace ConfirmType

def parse? (token : String) : Option ConfirmType :=
  if token = "plan" then some plan
  else if token = "criteria" then some criteria
  else if token = "output" then some output
  else none

end ConfirmType

/-- The kind of a confirmation, the word after it and the word before it. -/
def parseConfirm (subject : String) :
    Option (ConfirmType × Option String × Option String) := do
  let rest ← Text.afterStart "confirm" (Text.trim subject)
  let tokens := Text.words (Text.trim rest)
  let typeIdx ← tokens.findIdx? fun token => (ConfirmType.parse? token).isSome
  let kind ← (tokens[typeIdx]?).bind ConfirmType.parse?
  return (kind, tokens[typeIdx + 1]?,
    if typeIdx = 1 then tokens.head? else none)

def confirmedBoard (kind : ConfirmType) (version body now : String)
    (row : BoardRecord) : BoardRecord :=
  match kind with
  | .plan =>
      { row with
        planVersion := some version
        planText := some body
        planConfirmedAt := some now }
  | .criteria =>
      { row with
        criteriaVersion := some version
        criteriaText := some body
        criteriaConfirmedAt := some now }
  | .output => { row with status := .completed, completedAt := some now }

def setConfirmed (boardId body version : String) (kind : ConfirmType) :
    Command Unit := do
  let now ← Store.utcNow
  Store.send (.setBoard boardId (confirmedBoard kind version body now))

/-- A plan or criteria need a version, the output does not. -/
def confirm (boardId body : String) (kind : ConfirmType)
    (after : Option String) : Command Unit :=
  let version := (after.map (Text.dropStart 'v')).getD ""
  if kind = .output ∨ version ≠ "" then setConfirmed boardId body version kind
  else return ()

def isOwner (member : Option Member) : Bool := member.any (·.role == "owner")

/-- Only the owner's confirmation counts. -/
def confirmAs (boardId sender body : String) (kind : ConfirmType)
    (after : Option String) : Command Unit := do
  let member ← Store.getMember boardId sender
  if isOwner member then confirm boardId body kind after else return ()

/-- The board and the kind of confirmation a mail is about. -/
def confirmationOf (settings : Settings) (mail : InboundMail) :
    Option (String × ConfirmType × Option String) := do
  let boardId ← mail.toArr.findSome? (boardIdOf settings)
  let parsed ← parseConfirm
    (settings.env.tables.toLowercase (Text.trim mail.subject))
  return (boardId, parsed.1, parsed.2.1)

def receiveConfirmation (settings : Settings) (mail : InboundMail) :
    Action Gateway AppError InterceptorDecision := do
  match confirmationOf settings mail with
  | some (boardId, kind, after) =>
      onBoard settings boardId
        (confirmAs boardId mail.sender mail.body kind after)
      return .passThrough
  | none => return .passThrough

/-! ## Interception -/

@[irreducible] def intercept (settings : Settings) (mail : InboundMail) :
    Action Gateway AppError InterceptorDecision :=
  let subject := Text.trim mail.subject
  if Text.startsWith "[A2A] new " subject = true ∧
      isBoardAddress (recipient mail) = false then
    receiveNew settings mail
  else
    match boardIdOf settings (recipient mail) with
    | none => return .passThrough
    | some boardId =>
        match Text.afterStart "[A2A] " subject with
        | some rest => receiveCommand settings mail boardId rest
        | none => receiveConfirmation settings mail

end Interceptor

end AimailGateway.Board
