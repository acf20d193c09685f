import AimailGateway.Email.Recipients
import AimailGateway.Scheduler.Requests

/-! # Retry times, delivery types and exhaustion mails -/

namespace AimailGateway

open Library

namespace EmailRecord

/-- `delivery_type_from_headers`. -/
def headerDeliveryType (record : EmailRecord) : Option String :=
  record.headers.lookup "delivery_type"

/-- `message_id_from_headers`. -/
def headerMessageId (record : EmailRecord) : Option String :=
  record.headers.lookup "message_id"

end EmailRecord

namespace Scheduler

/-- Exponential backoff in seconds, with a jitter of half either way. -/
def calculateBackoff (config : Config) (attempt random : Nat) : Nat :=
  min (config.initialBackoffSecs * Nat.pow config.multiplier (attempt - 1))
    config.maxBackoffSecs * (500 + random) / 1000

/-- Inbound emails always go through the webhook; outbound ones as their
headers say, else by whether they have a body. -/
def detectDeliveryType (record : EmailRecord) : DeliveryType :=
  match record.direction with
  | .inbound => .webhook
  | .outbound =>
      if record.headerDeliveryType == some "smtp" then .smtp
      else if record.headerDeliveryType == some "webhook" then .webhook
      else if record.body == "" then .webhook
      else .smtp

/-- The mail answers to no mail of the system itself. -/
def suppressesAutoReply (record : EmailRecord) : Bool :=
  ["ar-", "wn-", "bn-", "sr-", "exp-"].any (Text.startsWith · record.id) ||
    ["[Overlimit]", "[AimailGW]"].any (Text.containsText · record.subject) ||
    Text.startsWith "__aimail_pong__:" record.subject

def suppressesNotification (record : EmailRecord) : Bool :=
  ["[Overlimit]", "[AimailGW]"].any (Text.containsText · record.subject) ||
    Text.startsWith "wn-" record.id

def autoReplyHeaders (record : EmailRecord) : List (String × String) :=
  match record.headerMessageId with
  | some messageId =>
      [("In-Reply-To", messageId), ("References", messageId),
        ("X-AIMail-AutoReply", "1")]
  | none => [("X-AIMail-AutoReply", "1")]

def onlyTo (address : String) : Recipients :=
  ⟨[address], [], [address]⟩

def autoReplyMail (config : Config) (record : EmailRecord) (uuid : String) :
    NewMail where
  id := "ar-" ++ uuid
  systemId := record.systemId
  direction := .outbound
  sender := config.systemSender
  recipients := onlyTo record.sender
  subject := config.autoReplySubjectPrefix ++ record.subject
  body := config.autoReplyBody.getD
    ("Your request could not be processed after multiple attempts. " ++
      "Please try again later.")
  headers := autoReplyHeaders record
  attachments := none
  maxAttempts := config.maxAttempts

def insertExhaustionAutoReply (config : Config) (record : EmailRecord) :
    Flow Unit := do
  if suppressesAutoReply record then pure ()
  else
    let uuid ← ask .newUuid
    let mail := autoReplyMail config record uuid
    match ← ask (.create mail) with
    | .error _ => pure ()
    | .ok _ => ask (.wake mail.id)

def attachmentsLine (names : List String) : String :=
  if names.isEmpty then ""
  else "\n**Attachments**: " ++ String.intercalate ", " names ++ "\n"

def notificationBody (config : Config) (record : EmailRecord)
    (names : List String) : String :=
  config.autoReplyBody.getD
      ("This is an automated message from the aimail system. " ++
        "The delivery could not be completed after all retry attempts.") ++
    "\n\n---\n\n**Event**: delivery_exhausted\n**Email ID**: " ++ record.id ++
    "\n**Original Subject**: " ++ record.subject ++
    "\n**Original Recipients**: " ++ record.recipients.toJson ++
    "\n**Attempts**: " ++ toString record.sendCount ++ "/" ++
    toString record.maxAttempts ++ "\n" ++ attachmentsLine names ++
    "---\n\n**Original Message**:\n\n" ++ record.body

def notificationMail (config : Config) (record : EmailRecord) (uuid : String)
    (names : List String) : NewMail where
  id := "wn-" ++ uuid
  systemId := record.systemId
  direction := .inbound
  sender := config.systemSender
  recipients := onlyTo record.sender
  subject := config.autoReplySubjectPrefix ++ "[Overlimit] " ++ record.subject
  body := notificationBody config record names
  headers := autoReplyHeaders record
  attachments := none
  maxAttempts := config.maxAttempts

/-- Tell the agent that an outbound email exhausted its attempts, by a mail to
its webhook. -/
def insertExhaustionNotification (config : Config) (record : EmailRecord) :
    Flow Unit := do
  if suppressesNotification record then pure ()
  else
    match ← ask (.resolveWebhookUrl record.sender) with
    | none => pure ()
    | some _ =>
        let uuid ← ask .newUuid
        let names ←
          ask (.attachmentDisplayList (record.attachments.getD []))
        let mail := notificationMail config record uuid names
        match ← ask (.create mail) with
        | .error _ => pure ()
        | .ok _ => ask (.wake mail.id)

end Scheduler

end AimailGateway
