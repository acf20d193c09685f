import AimailGateway.Scheduler.Effects
import AimailGateway.Scheduler.Flows
import Mathlib.Logic.Function.Basic

/-! # The running server

The scheduler's loop, the deliveries it spawned and the receivers' threads, as
programs that take turns request by request; the trigger channel between them;
and what happens around them: mail comes in, threads panic, the process
crashes and starts again.
-/

namespace AimailGateway.Scheduler

open Library

inductive Thread where
  /-- The scheduler's loop, while it runs the batch of a tick. -/
  | batch
  /-- A spawned delivery. There are as many as the semaphore has permits. -/
  | delivery (permit : Nat)
  /-- An SMTP session that handles a verified bounce. -/
  | receiver (session : Nat)
  deriving DecidableEq

/-- What an observer notes: the attempts that were made, and when the thread
that made one has written it down. -/
inductive Note where
  | attempted (thread : Thread) (emailId : String) (succeeded : Bool)
  | recorded (thread : Thread) (emailId : String)
  deriving DecidableEq

structure Server where
  world : World
  /-- The trigger channel. -/
  channel : List String
  threads : Thread → Flow Unit
  /-- The ids given to emails so far. -/
  issued : List String
  /-- The notes, latest first. -/
  notes : List Note

def Server.boot (world : World) (issued : List String) : Server where
  world := world
  channel := []
  threads := fun _ => pure ()
  issued := issued
  notes := []

/-- What completes and deletes the email a verified bounce is about. -/
def settleBounced (originalId : String) : Flow Unit := do
  let _ ← ask (.complete originalId)
  let _ ← ask (.delete originalId)

inductive Event where
  /-- Mail is stored by a receiver or the API. -/
  | insert (mail : NewMail)
  /-- The receiver records the attachments it saved. -/
  | saveAttachments (emailId : String) (attachmentIds : List String)
  /-- Whoever stored an email wakes the scheduler for it. -/
  | wake (emailId : String)
  | tick
  /-- The loop takes an id from the channel and claims the email. -/
  | claim (permit : Nat)
  | bounce (session : Nat) (originalId : String)
  /-- A thread's next request is executed. -/
  | advance (thread : Thread) (outside : Outside)
  /-- A spawned delivery panics. -/
  | panic (permit : Nat)
  /-- The process dies and is started again. -/
  | crash

namespace Server

def isIdle (server : Server) (thread : Thread) : Bool :=
  match server.threads thread with
  | .done _ => true
  | .request _ _ => false

def setThread (server : Server) (thread : Thread) (program : Flow Unit) :
    Server :=
  { server with threads := Function.update server.threads thread program }

/-- `try_send` on the trigger channel: a full channel drops the id. -/
def wake (server : Server) (config : Config) (emailId : String) : Server :=
  if server.channel.length < config.channelCapacity then
    { server with channel := server.channel ++ [emailId] }
  else server

/-- An email is given an id that was never given before: `Uuid::new_v4`. -/
def creates : Request → Option String
  | .create mail => some mail.id
  | _ => none

def repeatsId (server : Server) (question : Request) : Bool :=
  match creates question with
  | some id => server.issued.contains id
  | none => false

def noted (thread : Thread) (question : Request) (answer : question.Answer) :
    List Note :=
  match question.attempts with
  | some emailId => [.attempted thread emailId (question.isOk answer)]
  | none =>
      if question.isOk answer then question.records.toList.map (.recorded thread)
      else []

/-- The effect of a request on the trigger channel. -/
def wakes (server : Server) (config : Config) : Request → Server
  | .wake emailId => server.wake config emailId
  | _ => server

/-- Execute a request of a thread, and let the thread go on with `next`. -/
def execute (server : Server) (env : Surroundings) (config : Config)
    (thread : Thread) (outside : Outside) (question : Request)
    (next : question.Answer → Flow Unit) : Server :=
  let outcome := perform env outside question server.world
  { (server.wakes config question).setThread thread (next outcome.1) with
    world := outcome.2
    issued := (creates question).toList ++ server.issued
    notes := noted thread question outcome.1 ++ server.notes }

/-- The loop claims the email and spawns its delivery. An email that was
consumed, or a claim that fails, is passed over. -/
def claim (server : Server) (env : Surroundings) (config : Config)
    (permit : Nat) (emailId : String) : Server :=
  match (Storage.claimReady env emailId).run server.world with
  | (.ok (some record), world) =>
      { server with world }.setThread (.delivery permit)
        (immediateForward config record)
  | (_, world) => { server with world }

/-- One event, if it can happen. -/
def step (env : Surroundings) (config : Config) (server : Server) :
    Event → Option Server
  | .insert mail =>
      if server.issued.contains mail.id || mail.maxAttempts != config.maxAttempts
      then none
      else
        some { server with
          world := ((createEmail env mail).run server.world).2
          issued := mail.id :: server.issued }
  | .saveAttachments emailId attachmentIds =>
      some { server with
        world := ((Storage.updateEmailAttachments env emailId attachmentIds).run
          server.world).2 }
  | .wake emailId =>
      if server.issued.contains emailId then some (server.wake config emailId)
      else none
  | .tick =>
      if server.isIdle .batch then
        some (server.setThread .batch (processBatch config))
      else none
  | .claim permit =>
      match server.channel with
      | [] => none
      | emailId :: channel =>
          if server.isIdle .batch && server.isIdle (.delivery permit) &&
              decide (permit < config.maxConcurrentDeliveries) then
            some ({ server with channel }.claim env config permit emailId)
          else none
  | .bounce session originalId =>
      if server.isIdle (.receiver session) then
        some (server.setThread (.receiver session) (settleBounced originalId))
      else none
  | .advance thread outside =>
      match server.threads thread with
      | .done _ => none
      | .request question next =>
          if server.repeatsId question then none
          else some (server.execute env config thread outside question next)
  | .panic permit => some (server.setThread (.delivery permit) (pure ()))
  | .crash =>
      some { server with channel := [], threads := fun _ => pure () }

/-- One event takes the server to another. -/
def Steps (env : Surroundings) (config : Config) (server : Server)
    (event : Event) (next : Server) : Prop :=
  server.step env config event = some next

/-- The events in order, if each can happen. -/
def runs (env : Surroundings) (config : Config) (server : Server)
    (events : List Event) : Option Server :=
  events.foldlM (step env config) server

variable {server : Server} {env : Surroundings} {config : Config}
  {thread : Thread} {program : Flow Unit}

theorem run_of_runs {events : List Event} {last : Server}
    (ran : server.runs env config events = some last) :
    Run (Steps env config) server events last :=
  Run.of_foldlM (fun _ _ _ moved => moved) ran

@[simp] theorem setThread_world :
    (server.setThread thread program).world = server.world := rfl

@[simp] theorem setThread_self :
    (server.setThread thread program).threads thread = program := by
  simp only [setThread, Function.update_self]

theorem setThread_other {other : Thread} (different : other ≠ thread) :
    (server.setThread thread program).threads other = server.threads other := by
  simp only [setThread, Function.update_of_ne different]

@[simp] theorem wake_world {emailId : String} :
    (server.wake config emailId).world = server.world := by
  rw [wake]
  split <;> rfl

@[simp] theorem wake_threads {emailId : String} :
    (server.wake config emailId).threads = server.threads := by
  rw [wake]
  split <;> rfl

@[simp] theorem wakes_threads {question : Request} :
    (server.wakes config question).threads = server.threads := by
  cases question <;> first | rfl | exact wake_threads

theorem isIdle_iff :
    server.isIdle thread = true ↔ server.threads thread = pure () := by
  unfold isIdle
  cases server.threads thread with
  | done value => simp only [true_iff]; rfl
  | request question next => exact ⟨fun idle => (by cases idle), fun done => (by cases done)⟩

section Execute

variable {outside : Outside} {question : Request}
  {next : question.Answer → Flow Unit}

@[simp] theorem execute_world :
    (server.execute env config thread outside question next).world =
      (perform env outside question server.world).2 := rfl

theorem execute_self :
    (server.execute env config thread outside question next).threads thread =
      next (perform env outside question server.world).1 := by
  simp only [execute, setThread, Function.update_self]

theorem execute_other {other : Thread} (different : other ≠ thread) :
    (server.execute env config thread outside question next).threads other =
      server.threads other := by
  have kept : ((server.wakes config question).setThread thread
      (next (perform env outside question server.world).1)).threads other =
        (server.wakes config question).threads other :=
    setThread_other different
  rw [wakes_threads] at kept
  exact kept

end Execute

section Noted

variable {question : Request} {answer : question.Answer} {emailId : String}

theorem noted_plain (attempts : question.attempts = none)
    (records : question.records = none) : noted thread question answer = [] := by
  rw [noted, attempts, records]
  exact ite_self []

theorem noted_failed (attempts : question.attempts = none)
    (failed : question.isOk answer = false) :
    noted thread question answer = [] := by
  rw [noted, attempts, failed]
  rfl

theorem noted_recorded (attempts : question.attempts = none)
    (records : question.records = some emailId)
    (ok : question.isOk answer = true) :
    noted thread question answer = [.recorded thread emailId] := by
  rw [noted, attempts, records, ok]
  rfl

end Noted

/-- How a claim ends: the server is as it was, or the email is `sending` and
its delivery is spawned. -/
theorem claim_cases (server : Server) (env : Surroundings) (config : Config)
    (permit : Nat) (emailId : String) :
    (∃ world, world.db = server.world.db ∧
      server.claim env config permit emailId = { server with world }) ∨
    ∃ row ∈ server.world.db.emails, row.id = emailId ∧
      Storage.isClaimable row = true ∧ ∃ time emails world,
        emails.rows = server.world.db.emails.rows.map (fun row =>
          if row.id == emailId && Storage.isClaimable row then
            Storage.markSending time row
          else row) ∧
        world.db = { server.world.db with emails } ∧
        server.claim env config permit emailId =
          { server with world }.setThread (.delivery permit)
            (immediateForward config (Storage.markSending time row)) := by
  have ends : (Storage.claimReady env emailId).Ends
      (fun answer world => answer = none ∧ world.db = server.world.db ∨
        ∃ row ∈ server.world.db.emails, row.id = emailId ∧
          Storage.isClaimable row = true ∧ ∃ time emails,
            answer = some (Storage.markSending time row) ∧
            emails.rows = server.world.db.emails.rows.map (fun row =>
              if row.id == emailId && Storage.isClaimable row then
                Storage.markSending time row
              else row) ∧
            world.db = { server.world.db with emails })
      (fun _ world => world.db = server.world.db) server.world := by
    apply claimReady_ends
    · exact fun _ _ same => same
    · exact fun _ same => .inl ⟨rfl, same⟩
    · intro row member sameId claimable time emails after rows same
      exact .inr ⟨row, member, sameId, claimable, time, emails, rfl, rows, same⟩
  rw [Action.ends_iff_run] at ends
  rw [claim]
  rcases outcome : (Storage.claimReady env emailId).run server.world with
    ⟨error | answer, world⟩
  · exact .inl ⟨world, ends.2 error world outcome, rfl⟩
  · rcases ends.1 answer world outcome with
      ⟨missing, same⟩ |
      ⟨row, member, sameId, claimable, time, emails, answered, rows, same⟩
    · rw [missing]
      exact .inl ⟨world, same, rfl⟩
    · rw [answered]
      exact .inr ⟨row, member, sameId, claimable, time, emails, world, rows,
        same, rfl⟩

end Server

def plainConfig : Config where
  batchSize := 10
  readyingStuckSecs := 30
  initialBackoffSecs := 60
  multiplier := 2
  maxBackoffSecs := 3600
  maxAttempts := 3
  maxAttempts_pos := by decide
  smtpServer := none
  deliveryWindowSecs := 7200
  attachmentLifetimeHours := 72
  autoReplySubjectPrefix := "Re: "
  autoReplyBody := none
  systemSender := "noreply@a.test"
  channelCapacity := 100
  maxConcurrentDeliveries := 4

def report : NewMail where
  id := "out-1"
  systemId := "sys1"
  direction := .outbound
  sender := "worker@a.test"
  recipients := ⟨["ext@b.test"], [], ["ext@b.test"]⟩
  subject := "Report"
  body := "See below."
  headers := []
  attachments := none
  maxAttempts := 3

def unreachable : Outside :=
  { Outside.quiet with deliveryError := some "smtp error: no route" }

end AimailGateway.Scheduler
