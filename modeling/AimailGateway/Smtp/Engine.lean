import AimailGateway.Smtp.Commands

/-! # The protocol engine

The state machine that reads the lines of a session. The gateway offers neither
authentication nor TLS, so the states that lead to them are left out.
-/

namespace AimailGateway.Smtp

open Library Action

inductive Cmd where
  | ehlo (domain : String)
  | helo (domain : String)
  | mail (reversePath : String) (is8bit : Bool)
  | rcpt (forwardPath : String)
  | data
  | rset
  | noop
  | startTls
  | quit
  | vrfy
  | auth
  | dataEnd
  deriving DecidableEq, Repr

/-! ## Replies -/

inductive ReplyAction where
  | close
  /-- The handler has panicked. -/
  | unwinds
  | upgradeTls
  | noReply
  | reply
  deriving DecidableEq, Repr

/-- A response without its text. -/
structure Reply where
  code : Nat
  isError : Bool
  action : ReplyAction
  deriving DecidableEq, Repr

namespace Reply

def custom (code : Nat) : Reply where
  code := code
  isError := code < 200 || 400 ≤ code
  action := if code = 221 ∨ code = 421 then .close else .reply

/-- The thread of the session ends. -/
def panicked : Reply := ⟨0, true, .unwinds⟩

/-- The reply for what a handler answers, if it answers. -/
def of : Option Nat → Reply
  | some code => custom code
  | none => panicked

/-- Nothing is sent. -/
def empty : Reply := ⟨0, false, .noReply⟩

def goodbye : Reply := custom 221

def ok : Reply := custom 250

def verifyResponse : Reply := custom 252

def startData : Reply := custom 354

def invalidState : Reply := custom 421

def syntaxError : Reply := custom 500

def badSequenceCommands : Reply := custom 503

def transactionFailed : Reply := custom 554

end Reply

/-! ## Parser -/

namespace Parse

def tag (text : String) (input : List Char) : Option (List Char) :=
  if text.toList.isPrefixOf input then some (input.drop text.toList.length)
  else none

def tagNoCase (text : String) (input : List Char) : Option (List Char) :=
  if (input.take text.toList.length).map Char.toLower =
      text.toList.map Char.toLower then
    some (input.drop text.toList.length)
  else none

def takeWhile1 (keeps : Char → Bool) (input : List Char) :
    Option (String × List Char) :=
  match input.takeWhile keeps with
  | [] => none
  | taken => some (String.ofList taken, input.dropWhile keeps)

def space (input : List Char) : Option (List Char) :=
  (takeWhile1 (· == ' ') input).map (·.2)

/-- A keyword and at least one space. -/
def cmd (keyword : String) (input : List Char) : Option (List Char) :=
  (tagNoCase keyword input).bind space

def isNot (excluded : String) (input : List Char) :
    Option (String × List Char) :=
  takeWhile1 (fun character => !Text.containsChar character excluded) input

def hello (keyword : String) (result : String → Cmd) (input : List Char) :
    Option (Cmd × List Char) :=
  ((cmd keyword input).bind (isNot " \t\r\n")).map fun parsed =>
    (result parsed.1, parsed.2)

/-- The path of a bounce is empty. -/
def mailPath (input : List Char) : Option (String × List Char) :=
  if input.head? = some '>' then some ("", input)
  else isNot " <>\t\r\n" input

def bodyEq8bit (input : List Char) : Option (Bool × List Char) :=
  ((space input).bind (tagNoCase "body=")).bind fun rest =>
    ((tagNoCase "8bitmime" rest).map (true, ·)).or
      ((tagNoCase "7bit" rest).map (false, ·))

def skipOneEsmtpParam (input : List Char) : Option (List Char) :=
  ((space input).bind (takeWhile1 fun character =>
    character != ' ' && character != '\r' && character != '\n')).map (·.2)

/-- Every parameter takes a character at least. -/
def mailParams : Nat → Bool → List Char → Bool × List Char
  | 0, is8bit, input => (is8bit, input)
  | fuel + 1, is8bit, input =>
      match bodyEq8bit input with
      | some (value, rest) => mailParams fuel value rest
      | none =>
          match skipOneEsmtpParam input with
          | some rest => mailParams fuel is8bit rest
          | none => (is8bit, input)

def skipEsmtpParams : Nat → List Char → List Char
  | 0, input => input
  | fuel + 1, input =>
      match skipOneEsmtpParam input with
      | some rest => skipEsmtpParams fuel rest
      | none => input

/-- `FROM:<path>` or `TO:<path>`. -/
def pathAfter (keyword slot : String) (input : List Char) :
    Option (String × List Char) := do
  let rest ← (cmd keyword input).bind (tagNoCase slot)
  let rest ← tag "<" ((space rest).getD rest)
  let (path, rest) ← mailPath rest
  let rest ← tag ">" rest
  return (path, rest)

def mail (input : List Char) : Option (Cmd × List Char) :=
  (pathAfter "mail" "from:" input).map fun parsed =>
    let (is8bit, rest) := mailParams parsed.2.length false parsed.2
    (.mail parsed.1 is8bit, rest)

def rcpt (input : List Char) : Option (Cmd × List Char) :=
  (pathAfter "rcpt" "to:" input).map fun parsed =>
    (.rcpt parsed.1, skipEsmtpParams parsed.2.length parsed.2)

def keyword (text : String) (result : Cmd) (input : List Char) :
    Option (Cmd × List Char) :=
  (tagNoCase text input).map (result, ·)

def vrfy (input : List Char) : Option (Cmd × List Char) :=
  ((cmd "vrfy" input).bind (isNot "\r\n")).map fun parsed => (.vrfy, parsed.2)

def isBase64 (character : Char) : Bool :=
  character.isAlphanum || character == '+' || character == '/' ||
    character == '='

def authInitial (input : List Char) : Option (List Char) :=
  ((space input).bind (takeWhile1 isBase64)).map (·.2)

def auth (input : List Char) : Option (Cmd × List Char) :=
  (cmd "auth" input).bind fun rest =>
    ((tagNoCase "plain" rest).or (tagNoCase "login" rest)).map fun rest =>
      (.auth, (authInitial rest).getD rest)

def command (input : List Char) : Option (Cmd × List Char) :=
  [hello "helo" .helo, hello "ehlo" .ehlo, mail, rcpt, keyword "data" .data,
    keyword "rset" .rset, keyword "quit" .quit, vrfy, keyword "noop" .noop,
    keyword "starttls" .startTls, auth].findSome? (· input)

end Parse

/-- A command is followed by the end of its line. -/
def parse (line : String) : Option Cmd :=
  match Parse.command line.toList with
  | some (cmd, rest) => (Parse.tag "\r\n" rest).map fun _ => cmd
  | none => none

/-! ## States -/

/-- The decisions of a session, as response codes, or panics. -/
structure Handler (σ : Type) where
  helo : String → σ → Option Nat × σ
  mail : String → String → σ → Option Nat × σ
  rcpt : String → σ → Option Nat × σ
  dataStart : String → String → Bool → List String → σ → Option Nat × σ
  data : String → σ → Bool × σ
  dataEnd : σ → Option Nat × σ

inductive State where
  | idle
  | hello (domain : String)
  | mail (domain reversePath : String) (is8bit : Bool)
  | rcpt (domain reversePath : String) (is8bit : Bool)
      (forwardPath : List String)
  | data (domain : String)
  deriving DecidableEq, Repr

/-- The state machine, which no longer has a state once it has closed, and the
state of its handler. -/
structure Fsm (σ : Type) where
  smtp : Option State
  handler : σ

def Fsm.start (handler : σ) : Fsm σ := ⟨some .idle, handler⟩

section Fsm

variable (handler : Handler σ)

def transformState (current : State) (res : Reply) (next : State) :
    Reply × Option State :=
  if res.action = .close ∨ res.action = .unwinds then (res, none)
  else if res.isError then (res, some current)
  else (res, some next)

def handleHelo (current : State) (domain : String) (state : σ) :
    Reply × Fsm σ :=
  match handler.helo domain state with
  | (code, state) =>
      match transformState current (.of code) (.hello domain) with
      | (res, smtp) => (res, ⟨smtp, state⟩)

/-- An accepted EHLO is answered with the extensions, as `250`. -/
def handleEhlo (current : State) (domain : String) (state : σ) :
    Reply × Fsm σ :=
  handleHelo handler current domain state

def defaultHandler (current : State) (state : σ) : Cmd → Reply × Fsm σ
  | .quit => (.goodbye, ⟨none, state⟩)
  | .helo domain => handleHelo handler current domain state
  | .ehlo domain => handleEhlo handler current domain state
  | .noop => (.ok, ⟨some current, state⟩)
  | _ => (.badSequenceCommands, ⟨some current, state⟩)

def handleRcpt (current : State) (domain reversePath : String) (is8bit : Bool)
    (before : List String) (forwardPath : String) (state : σ) :
    Reply × Fsm σ :=
  match handler.rcpt forwardPath state with
  | (code, state) =>
      match transformState current (.of code)
          (.rcpt domain reversePath is8bit (before ++ [forwardPath])) with
      | (res, smtp) => (res, ⟨smtp, state⟩)

def handle (current : State) (state : σ) (cmd : Cmd) : Reply × Fsm σ :=
  match current, cmd with
  | .idle, .rset => (.ok, ⟨some .idle, state⟩)
  | .hello domain, .mail reversePath is8bit =>
      match handler.mail domain reversePath state with
      | (code, state) =>
          match transformState current (.of code)
              (.mail domain reversePath is8bit) with
          | (res, smtp) => (res, ⟨smtp, state⟩)
  | .hello _, .vrfy => (.verifyResponse, ⟨some current, state⟩)
  | .hello domain, .rset => (.ok, ⟨some (.hello domain), state⟩)
  | .mail domain reversePath is8bit, .rcpt forwardPath =>
      handleRcpt handler current domain reversePath is8bit [] forwardPath state
  | .mail domain _ _, .rset => (.ok, ⟨some (.hello domain), state⟩)
  | .rcpt domain reversePath is8bit forwardPath, .data =>
      match handler.dataStart domain reversePath is8bit forwardPath state with
      | (code, state) =>
          let res := if (Reply.of code).isError then .of code
            else .startData
          match transformState current res (.data domain) with
          | (res, smtp) => (res, ⟨smtp, state⟩)
  | .rcpt domain reversePath is8bit before, .rcpt forwardPath =>
      handleRcpt handler current domain reversePath is8bit before forwardPath
        state
  | .rcpt domain _ _ _, .rset => (.ok, ⟨some (.hello domain), state⟩)
  | .data domain, .dataEnd =>
      match handler.dataEnd state with
      | (code, state) =>
          match transformState current (.of code) (.hello domain) with
          | (res, smtp) => (res, ⟨smtp, state⟩)
  | .data _, _ => (.badSequenceCommands, ⟨some current, state⟩)
  | _, _ => defaultHandler handler current state cmd

/-- One line of a message. -/
def processData (domain line : String) (state : σ) : Reply × Fsm σ :=
  if line = ".\r\n" then
    handle handler (.data domain) state .dataEnd
  else
    match handler.data ((Text.afterStart "." line).getD line) state with
    | (true, state) => (.empty, ⟨some (.data domain), state⟩)
    | (false, state) => (.transactionFailed, ⟨some (.data domain), state⟩)

/-- `Session::process`. -/
def process (fsm : Fsm σ) (line : String) : Reply × Fsm σ :=
  match fsm.smtp with
  | none => (.invalidState, fsm)
  | some (.data domain) => processData handler domain line fsm.handler
  | some current =>
      match parse line with
      | some cmd => handle handler current fsm.handler cmd
      | none => (.syntaxError, fsm)

end Fsm

/-! ## The handler of the gateway -/

def answerCode (action : Handling Unit) (connection : Connection) :
    Option Nat × Connection :=
  match action.run connection with
  | (.ok (), next) => (some 250, next)
  | (.error response, next) =>
      (if response = panicked then none else some response.code, next)

/-- `ConnectionHandler`. -/
def connectionHandler (receiver : Receiver) : Handler Connection where
  helo := fun _ connection => (some 250, connection)
  mail := fun _ sender => answerCode (mail receiver sender)
  rcpt := fun recipient => answerCode (rcpt receiver recipient)
  dataStart := fun _ _ _ _ connection => (some 250, connection)
  data := fun chunk connection =>
    match (data receiver chunk).run connection with
    | (.ok (), next) => (true, next)
    | (.error _, next) => (false, next)
  dataEnd := answerCode (dataEnd receiver)

end AimailGateway.Smtp
