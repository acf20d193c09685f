import AimailGateway.Library.Coupling
import AimailGateway.Library.Execution
import AimailGateway.Smtp.Receiver

/-! # Commands on a connection

What the protocol engine admits: MAIL opens a transaction, RCPT adds to it,
DATA needs an accepted RCPT and ends it, if the message is accepted. After a
message that is refused the engine takes whatever the client sends for more of
it. RSET, HELO and EHLO end a transaction too, without a call of the receiver
that would change its state.
-/

namespace AimailGateway.Smtp

open Library Action

inductive Command where
  | mail (sender : String)
  | rcpt (recipient : String)
  | data (chunks : List String)
  | reset
  deriving DecidableEq, Repr

def Command.lines : Command → List String
  | .mail sender => ["MAIL FROM:<" ++ sender ++ ">\r\n"]
  | .rcpt recipient => ["RCPT TO:<" ++ recipient ++ ">\r\n"]
  | .data chunks => "DATA\r\n" :: chunks
  | .reset => ["RSET\r\n"]

inductive Phase where
  | idle
  | mail
  | rcpt
  /-- Within a message whose end was refused. -/
  | data
  | closed
  deriving DecidableEq, Repr

/-- The engine and the receiver of one connection. -/
structure Peer where
  phase : Phase
  session : Session
  deriving DecidableEq, Repr

def Peer.connected : Peer := ⟨.idle, Session.fresh⟩

/-- One command with the database it met, its answer and the database it
left. -/
structure Event where
  command : Command
  before : World
  outcome : Except Response Unit
  after : World

def Event.accepted (event : Event) : Prop := event.outcome = .ok ()

instance (event : Event) : Decidable event.accepted :=
  inferInstanceAs (Decidable (event.outcome = .ok ()))

def badSequence : Response := ⟨503, "Bad sequence of commands"⟩

/-- Nothing is sent. -/
def unanswered : Response := ⟨0, ""⟩

section Serve

variable (receiver : Receiver)

/-- The lines of a message and its end. A line that does not fit is refused
and the message goes on without it. -/
def receiveData : List String → Handling Unit
  | [] => dataEnd receiver
  | chunk :: rest => do
      (data receiver chunk).ignore
      receiveData rest

/-- Lines of a message that are not followed by its end. -/
def receiveText : List String → Handling Unit
  | [] => fail unanswered
  | line :: rest => do
      (data receiver line).ignore
      receiveText rest

/-- A handler run by the engine, which goes on to the phase the outcome
leads to. -/
def handled (handler : Handling Unit) (accepted : Phase)
    (refused : Response → Phase) (session : Session) (world : World) :
    Except Response Unit × Peer × World :=
  match handler.run ⟨session, world⟩ with
  | (.ok (), next) => (.ok (), ⟨accepted, next.session⟩, next.world)
  | (.error response, next) =>
      (.error response, ⟨refused response, next.session⟩, next.world)

/-- A panic ends the connection. -/
def afterRefusal (response : Response) : Phase :=
  if response = panicked then .closed else .data

def serve (peer : Peer) (world : World) (command : Command) :
    Except Response Unit × Peer × World :=
  match peer.phase, command with
  | .closed, _ => (.error unanswered, peer, world)
  | .data, .data chunks =>
      handled (receiveData receiver ("DATA\r\n" :: chunks)) .idle afterRefusal
        peer.session world
  | .data, command =>
      handled (receiveText receiver command.lines) .data (fun _ => .data)
        peer.session world
  | .idle, .mail sender =>
      handled (mail receiver sender) .mail (fun _ => .idle) peer.session world
  | .mail, .rcpt recipient =>
      handled (rcpt receiver recipient) .rcpt (fun _ => .mail) peer.session
        world
  | .rcpt, .rcpt recipient =>
      handled (rcpt receiver recipient) .rcpt (fun _ => .rcpt) peer.session
        world
  | .rcpt, .data chunks =>
      handled (receiveData receiver chunks) .idle afterRefusal peer.session
        world
  | _, .reset => (.ok (), { peer with phase := .idle }, world)
  | _, _ => (.error badSequence, peer, world)

/-- The event is what the command does. Between two events anyone may change
the database. -/
def Serves (peer : Peer) (event : Event) (next : Peer) : Prop :=
  serve receiver peer event.before event.command =
    (event.outcome, next, event.after)

end Serve

/-- A client's commands, one after the other, with nobody else at work. -/
def converse (receiver : Receiver) (peer : Peer) (world : World) :
    List Command → List Event × Peer
  | [] => ([], peer)
  | command :: rest =>
      match serve receiver peer world command with
      | (outcome, next, later) =>
          match converse receiver next later rest with
          | (events, last) => (⟨command, world, outcome, later⟩ :: events, last)

theorem converse_run (receiver : Receiver) (peer : Peer) (world : World)
    (commands : List Command) :
    Run (Serves receiver) peer (converse receiver peer world commands).1
      (converse receiver peer world commands).2 := by
  induction commands generalizing peer world with
  | nil => exact .nil peer
  | cons command rest induction =>
      rw [converse]
      rcases served : serve receiver peer world command with
        ⟨outcome, next, later⟩
      exact .cons served (induction next later)

/-- The condition holds before each of the commands. -/
def Along (condition : Peer → Event → Prop) (receiver : Receiver) (peer : Peer)
    (world : World) : List Command → Prop
  | [] => True
  | command :: rest =>
      let served := serve receiver peer world command
      condition peer ⟨command, world, served.1, served.2.2⟩ ∧
        Along condition receiver served.2.1 served.2.2 rest

instance (condition : Peer → Event → Prop)
    [∀ peer event, Decidable (condition peer event)] (receiver : Receiver) :
    (peer : Peer) → (world : World) → (commands : List Command) →
      Decidable (Along condition receiver peer world commands)
  | _, _, [] => inferInstanceAs (Decidable True)
  | _, _, _ :: rest =>
      have := fun peer world => instDecidableAlong condition receiver peer world
        rest
      inferInstanceAs (Decidable (_ ∧ _))

theorem converse_guarded {condition : Peer → Event → Prop} (receiver : Receiver)
    (peer : Peer) (world : World) (commands : List Command)
    (along : Along condition receiver peer world commands) :
    Run (Guarded condition (Serves receiver)) peer
      (converse receiver peer world commands).1
      (converse receiver peer world commands).2 := by
  induction commands generalizing peer world with
  | nil => exact .nil peer
  | cons command rest induction =>
      rw [Along] at along
      rw [converse]
      rcases served : serve receiver peer world command with
        ⟨outcome, next, later⟩
      rw [served] at along
      exact .cons ⟨along.1, served⟩ (induction next later along.2)

theorem accepted_of_toOption {event : Event}
    (accepted : event.outcome.toOption = some ()) : event.accepted := by
  rw [Event.accepted]
  cases outcome : event.outcome with
  | error response =>
      rw [outcome] at accepted
      cases accepted
  | ok value => rfl

/-! ## Rules of the receiver's actions -/

section Rules

variable {connection : Connection}

@[simp] theorem ends_onWorld {action : Action World ε α}
    {ok : α → Connection → Prop} {failed : ε → Connection → Prop} :
    (onWorld action).Ends ok failed connection ↔
      action.Ends (fun value world => ok value { connection with world })
        (fun error world => failed error { connection with world })
        connection.world := by
  simp only [Ends, onWorld]
  rcases action connection.world with ⟨_ | _, world⟩ <;> rfl

@[simp] theorem ends_update {change : Session → Session}
    {ok : Unit → Connection → Prop} {failed : ε → Connection → Prop} :
    (update change).Ends ok failed connection ↔
      ok () { connection with session := change connection.session } :=
  Iff.rfl

@[simp] theorem ends_current
    {ok : Session → Connection → Prop} {failed : ε → Connection → Prop} :
    current.Ends ok failed connection ↔ ok connection.session connection :=
  Iff.rfl

@[simp] theorem ends_storedSender
    {ok : Option String → Connection → Prop} {failed : ε → Connection → Prop} :
    storedSender.Ends ok failed connection ↔
      ok connection.session.sender connection :=
  Iff.rfl

/-- Two connections over one database whose sessions are related. -/
def Beside (related : Session → Session → Prop) (first second : Connection) :
    Prop :=
  first.world = second.world ∧ related first.session second.session

variable {related : Session → Session → Prop}

theorem coupled_onWorld {action : Action World ε α} :
    (onWorld action).Coupled (Beside related) (fun _ => Beside related)
      (fun _ => Beside related) := by
  rintro ⟨session, world⟩ ⟨other, otherWorld⟩ ⟨sameWorld, relation⟩
  simp only at sameWorld relation
  subst sameWorld
  rw [ends_onWorld, ends_iff_run]
  constructor
  · intro value next ran
    refine ⟨⟨other, next⟩, ?_, rfl, relation⟩
    simp only [run, onWorld] at ran ⊢
    rw [ran]
  · intro error next ran
    refine ⟨⟨other, next⟩, ?_, rfl, relation⟩
    simp only [run, onWorld] at ran ⊢
    rw [ran]

theorem coupled_attempted {action : Action World δ α}
    {failed : ε → Connection → Connection → Prop} :
    ((onWorld action).attempt : Action Connection ε (Except δ α)).Coupled
      (Beside related) (fun _ => Beside related) failed := by
  apply Coupled.attempt
  exact coupled_onWorld

theorem coupled_translated {action : Action World δ α} {translate : δ → ε} :
    ((onWorld action).mapError translate).Coupled (Beside related)
      (fun _ => Beside related) (fun _ => Beside related) := by
  apply Coupled.mapError
  exact coupled_onWorld

theorem coupled_update (related' : Session → Session → Prop)
    {change : Session → Session}
    {failed : ε → Connection → Connection → Prop}
    (keeps : ∀ first second, related first second →
      related' (change first) (change second)) :
    (update change).Coupled (Beside related) (fun _ => Beside related')
      failed := by
  rintro ⟨session, world⟩ ⟨other, otherWorld⟩ ⟨sameWorld, relation⟩
  exact ⟨_, rfl, sameWorld, keeps _ _ relation⟩

theorem coupled_storedSender {failed : ε → Connection → Connection → Prop}
    (same : ∀ first second, related first second →
      first.sender = second.sender) :
    storedSender.Coupled (Beside related)
      (fun sender => Beside fun first second =>
        related first second ∧ first.sender = sender) failed := by
  rintro ⟨session, world⟩ ⟨other, otherWorld⟩ ⟨sameWorld, relation⟩
  refine ⟨⟨other, otherWorld⟩, ?_, sameWorld, relation, rfl⟩
  simp only [run, storedSender]
  rw [same _ _ relation]

end Rules

/-- A parser for messages of one part: `Name: value` lines, then the body
after an empty line. -/
def plainHeaders (message : String) : List MailHeader :=
  ((Text.split '\n' message).takeWhile (· != "")).filterMap fun line =>
    (Text.splitOnce ':' line).map fun parts => ⟨parts.1, Text.trim parts.2⟩

def plainParser : MailParser where
  parseHeaders := fun message => some (plainHeaders message)
  parseMail := fun message =>
    some (.part "text/plain" (plainHeaders message) (some message) none [])
  content := fun parsed => (parsed.body.getD "", [])

def plainReceiver : Receiver where
  env := .steady 0 "0123456789abcdef"
  parser := plainParser
  boards := ⟨fun _ => none, fun _ => none⟩
  config := {
    maxMessageSize := 1000
    attachmentLimits := ⟨10, 1000, []⟩
    deliveryWindowSecs := 3600
    autoReplyBody := none
    maxAttempts := 3
    systemSender := "postmaster@a.test" }
  saves := fun _ => true

def registration (id systemId domain : String) : SystemDomainRecord where
  id := id
  systemId := systemId
  domain := domain
  webhookUrl := none
  webhookSecret := none
  isActive := true
  createdAt := 0
  updatedAt := 0

/-- A rule that lets the sender write to the address. -/
def welcome (id : Int) (systemId domainAddr sender : String) :
    WhitelistRecord where
  id := id
  systemId := systemId
  domainAddr := domainAddr
  direction := .dirFrom
  value := sender
  description := none
  isActive := true
  createdAt := 0
  category := "system"
  apiKeyId := none

/-- `alice@a.test` of `sys-a` and `bob@b.test` of `sys-b`. Both welcome
`pal@c.test`, and `bob@b.test` also `eve@c.test`. -/
def aliceAndBob : Database :=
  { Database.empty with
    systemDomains := ⟨[registration "d1" "sys-a" "alice@a.test",
      registration "d2" "sys-b" "bob@b.test"], by decide⟩
    whitelists := ⟨[welcome 1 "sys-a" "alice@a.test" "pal@c.test",
      welcome 2 "sys-b" "bob@b.test" "pal@c.test",
      welcome 3 "sys-b" "bob@b.test" "eve@c.test"], by decide⟩
    whitelistSequence := 3 }

def talk (commands : List Command) : List Event :=
  (converse plainReceiver .connected (World.start aliceAndBob) commands).1

end AimailGateway.Smtp
