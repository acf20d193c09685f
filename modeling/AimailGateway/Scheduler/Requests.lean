import AimailGateway.Library.Program
import AimailGateway.Storage.Emails

/-! # What the scheduler's flows ask for

A flow is a program over these requests: the statements on `emails`, each one
atomic, and what lies outside that table (a delivery attempt, the clock, the
attachments, the domains). Other threads run between any two of them.
-/

namespace AimailGateway.Scheduler

open Library

/-- The parts of the configuration the scheduler reads. -/
structure Config where
  batchSize : Nat
  readyingStuckSecs : Nat
  initialBackoffSecs : Nat
  multiplier : Nat
  maxBackoffSecs : Nat
  maxAttempts : Int
  /-- `Config::validate` refuses a configuration without attempts. -/
  maxAttempts_pos : 0 < maxAttempts
  smtpServer : Option String
  deliveryWindowSecs : Nat
  attachmentLifetimeHours : Nat
  autoReplySubjectPrefix : String
  autoReplyBody : Option String
  systemSender : String
  channelCapacity : Nat
  maxConcurrentDeliveries : Nat

inductive DeliveryType where
  | smtp
  | webhook
  deriving DecidableEq, Repr

/-- The values of an email about to be created. -/
structure NewMail where
  id : String
  systemId : String
  direction : EmailDirection
  sender : String
  recipients : Recipients
  subject : String
  body : String
  headers : List (String × String)
  attachments : Option (List String)
  maxAttempts : Int

inductive Request where
  | utcNow
  | newUuid
  /-- `thread_rng().gen::<f64>()`, in thousandths. -/
  | random
  | deliver (record : EmailRecord) (deliveryType : DeliveryType)
  | resolveWebhookUrl (sender : String)
  | attachmentDisplayList (attachmentIds : List String)
  /-- The attachments that name an email. -/
  | listByMailId (mailId : String)
  /-- The emails each expired attachment names. -/
  | listExpiredBefore (cutoff : Timestamp) (limit : Nat)
  /-- `trigger.try_send`. -/
  | wake (emailId : String)
  | getEmail (id : String)
  | getStuckReadying (cutoff : Timestamp) (limit : Nat)
  | getOverlimit (limit : Nat)
  | getPendingRetry (limit : Nat)
  | getExpiredDelivered (cutoff : Timestamp) (limit : Nat)
  | create (mail : NewMail)
  | flipReadyingToReady (id : String)
  | readyRetry (id : String) (sendCount : Int) (nextRetryAt : Timestamp)
  | updateSendCount (id : String) (sendCount : Int)
  | complete (id : String)
  | markDelivered (id : String)
  | delete (id : String)

abbrev Request.Answer : Request → Type
  | .utcNow => Timestamp
  | .newUuid => String
  | .random => Nat
  | .deliver _ _ => Option String
  | .resolveWebhookUrl _ => Option String
  | .attachmentDisplayList _ => List String
  | .listByMailId _ => Except AppError (List String)
  | .listExpiredBefore _ _ => Except AppError (List (List String))
  | .wake _ => Unit
  | .getEmail _ => Except AppError (Option EmailRecord)
  | .getStuckReadying _ _ => Except AppError (List EmailRecord)
  | .getOverlimit _ => Except AppError (List EmailRecord)
  | .getPendingRetry _ => Except AppError (List EmailRecord)
  | .getExpiredDelivered _ _ => Except AppError (List EmailRecord)
  | .create _ => Except AppError EmailRecord
  | .flipReadyingToReady _ => Except AppError Bool
  | .readyRetry _ _ _ => Except AppError (Option EmailRecord)
  | .updateSendCount _ _ => Except AppError Bool
  | .complete _ => Except AppError (Option EmailRecord)
  | .markDelivered _ => Except AppError (Option EmailRecord)
  | .delete _ => Except AppError Unit

namespace Request

/-- Whether a request was answered without an error. -/
def isOk : (question : Request) → question.Answer → Bool
  | .deliver _ _, error => error.isNone
  | .listByMailId _, answer => answer.isOk
  | .listExpiredBefore _ _, answer => answer.isOk
  | .getEmail _, answer => answer.isOk
  | .getStuckReadying _ _, answer => answer.isOk
  | .getOverlimit _, answer => answer.isOk
  | .getPendingRetry _, answer => answer.isOk
  | .getExpiredDelivered _ _, answer => answer.isOk
  | .create _, answer => answer.isOk
  | .flipReadyingToReady _, answer => answer.isOk
  | .readyRetry _ _ _, answer => answer.isOk
  | .updateSendCount _ _, answer => answer.isOk
  | .complete _, answer => answer.isOk
  | .markDelivered _, answer => answer.isOk
  | .delete _, answer => answer.isOk
  | .utcNow, _ | .newUuid, _ | .random, _ | .resolveWebhookUrl _, _
  | .attachmentDisplayList _, _ | .wake _, _ => true

def attempts : Request → Option String
  | .deliver record _ => some record.id
  | _ => none

/-- The email whose last attempt a request writes down. -/
def records : Request → Option String
  | .readyRetry id _ _ => some id
  | .updateSendCount id _ => some id
  | .complete id => some id
  | .markDelivered id => some id
  | _ => none

/-- Whether the statement of a request comes after a look at the clock. -/
def readsClock : Request → Bool
  | .readyRetry _ _ _ => true
  | .complete _ => true
  | .markDelivered _ => true
  | _ => false

def Fails (env : Surroundings) (world : World) (question : Request) : Prop :=
  env.fault (world.tick + question.readsClock.toNat) ≠ none

end Request

abbrev Flow := Program Request Request.Answer

abbrev ask (question : Request) : Flow question.Answer :=
  Program.ask question

/-- What is answered from outside of `emails`, at the moment it is asked. -/
structure Outside where
  random : Nat
  /-- Why the delivery attempt failed, if it did. -/
  deliveryError : Option String
  webhookUrl : Option String
  attachmentNames : List String
  attachments : Except AppError (List String)
  expired : Except AppError (List (List String))

/-- Nothing is there and nothing fails. -/
def Outside.quiet : Outside where
  random := 0
  deliveryError := none
  webhookUrl := none
  attachmentNames := []
  attachments := .ok []
  expired := .ok []

def createEmail (env : Surroundings) (mail : NewMail) : Storage EmailRecord :=
  Storage.insertEmail env mail.id mail.systemId mail.direction mail.sender
    mail.recipients mail.subject mail.body mail.attachments mail.headers
    mail.maxAttempts

/-- Execute one request. -/
def perform (env : Surroundings) (outside : Outside) :
    (question : Request) → World → question.Answer × World
  | .utcNow, world => (env.clock world.tick, world.later)
  | .newUuid, world => (env.uuid world.tick, world.later)
  | .random, world => (outside.random, world)
  | .deliver _ _, world => (outside.deliveryError, world)
  | .resolveWebhookUrl _, world => (outside.webhookUrl, world)
  | .attachmentDisplayList _, world => (outside.attachmentNames, world)
  | .listByMailId _, world => (outside.attachments, world)
  | .listExpiredBefore _ _, world => (outside.expired, world)
  | .wake _, world => ((), world)
  | .getEmail id, world => (Storage.getEmail env id).run world
  | .getStuckReadying cutoff limit, world =>
      (Storage.getStuckReadyingEmails env cutoff limit).run world
  | .getOverlimit limit, world =>
      (Storage.getOverlimitEmails env limit).run world
  | .getPendingRetry limit, world =>
      (Storage.getPendingRetryEmails env limit).run world
  | .getExpiredDelivered cutoff limit, world =>
      (Storage.getDeliveredExpiredBefore env cutoff limit).run world
  | .create mail, world => (createEmail env mail).run world
  | .flipReadyingToReady id, world =>
      (Storage.flipReadyingToReady env id).run world
  | .readyRetry id sendCount nextRetryAt, world =>
      (Storage.updateEmailReadyRetry env id sendCount nextRetryAt).run world
  | .updateSendCount id sendCount, world =>
      (Storage.updateEmailSendCount env id sendCount).run world
  | .complete id, world => (Storage.updateEmailCompleted env id).run world
  | .markDelivered id, world => (Storage.updateEmailDelivered env id).run world
  | .delete id, world => (Storage.deleteEmail env id).run world

end AimailGateway.Scheduler
