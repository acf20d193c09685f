import AimailGateway.Email.BodyProc
import AimailGateway.Library.Json
import AimailGateway.Library.Text
import AimailGateway.Storage.Records

/-! # Retried deliveries

The first attempt that passes the interceptors saves the processed body and
the signature in the record, and later attempts build their payload from what
was saved.
-/

namespace AimailGateway.Webhook

open Library

open Email.BodyProc (processEmailBody)

namespace Retries

/-- The row of an email with its signature column: null before the first save,
empty where no signature was found. -/
structure StoredEmail where
  mail : EmailRecord
  senderSignature : Option String

/-- What a payload takes from around the record. -/
structure PayloadEnv where
  engine : Email.BodyProc.Engine
  timeText : Timestamp → String
  forwarder : String

/-! ## The payload -/

section Payload

variable (env : PayloadEnv)

def bodyAndSignature (body : String) :
    Option String → String × Option String
  | none =>
      let processed := processEmailBody env.engine body
      (processed.body,
        (processed.signature.filter (65 ≤ ·.confidence)).map (·.raw))
  | some cached =>
      if cached = "" then (body, none) else (body, some cached)

def texts (elements : List String) : Json :=
  .array (elements.map .string)

def headersParsed (record : StoredEmail) : List (String × Json) :=
  record.mail.headers.map fun header => (header.1, .string header.2)

/-- `to_webhook_payload` with the signature column as its cache. -/
def toWebhookPayload (record : StoredEmail) (forwardAt : String) : Json :=
  let recipients := record.mail.recipients
  let read := bodyAndSignature env record.mail.body record.senderSignature
  let messageId := record.mail.headers.lookup "message_id"
  let references :=
    Text.words ((record.mail.headers.lookup "references").getD "")
  let payload : List (String × Json) := [
    ("attachments", texts (record.mail.attachments.getD [])),
    ("body", .string read.1),
    ("cc", texts recipients.cc),
    ("created_at", .string (env.timeText record.mail.createdAt)),
    ("forward_at", .string forwardAt),
    ("forwarder", .string env.forwarder),
    ("from", .string record.mail.sender),
    ("headers", .object (headersParsed record)),
    ("mail_id", .string record.mail.id),
    ("signature", Json.ofStr? read.2),
    ("subject", .string record.mail.subject),
    ("to", texts recipients.toAddrs)]
  let payload :=
    match messageId with
    | some id => Json.insertField "message_id" (.string id) payload
    | none => payload
  let payload :=
    if references = [] then payload
    else Json.insertField "references" (texts references) payload
  match read.2 with
  | some signature =>
      .object (Json.insertField "signature" (.string signature) payload)
  | none => .object payload

end Payload

/-! ## Attempts -/

/-- An interceptor may take the email or edit the payload. -/
abbrev Interceptor := StoredEmail → Json → Bool × Json

def runChain (record : StoredEmail) : List Interceptor → Json → Option Json
  | [], payload => some payload
  | interceptor :: rest, payload =>
      match interceptor record payload with
      | (true, _) => none
      | (false, edited) => runChain record rest edited

/-- `update_email_body_and_signature` with the body and the signature of a
payload. -/
def saveCleaned (record : StoredEmail) (payload : Json) : StoredEmail where
  mail := { record.mail with
    body := (payload.getStr? "body").getD record.mail.body }
  senderSignature := some ((payload.getStr? "signature").getD "")

section Attempts

variable (env : PayloadEnv) (chains : Nat → List Interceptor)
  (forwardAt : Nat → String)

/-- The record after an attempt whose save succeeds or fails. -/
def attempt (record : StoredEmail) (number : Nat) (saved : Bool) :
    StoredEmail :=
  match runChain record (chains number)
      (toWebhookPayload env record (forwardAt number)) with
  | none => record
  | some payload =>
      if record.senderSignature.isNone ∧ saved = true then
        saveCleaned record payload
      else record

def recordAt (record : StoredEmail) (saves : Nat → Bool) : Nat → StoredEmail
  | 0 => record
  | number + 1 =>
      attempt env chains forwardAt (recordAt record saves number) number
        (saves number)

def payloadAt (record : StoredEmail) (saves : Nat → Bool) (number : Nat) :
    Json :=
  toWebhookPayload env (recordAt env chains forwardAt record saves number)
    (forwardAt number)

/-- The fields of the body and the signature. -/
def reading (payload : Json) : Option Json × Option Json :=
  (payload.get? "body", payload.get? "signature")

/-- If the chain of an attempt passes the email on, its edits leave the body
and the signature. -/
def LeavesText (record : StoredEmail) (number : Nat) : Prop :=
  ∀ edited, runChain record (chains number)
      (toWebhookPayload env record (forwardAt number)) = some edited →
    (edited.getStr? "body").getD record.mail.body =
        (bodyAndSignature env record.mail.body record.senderSignature).1 ∧
      (edited.getStr? "signature").getD "" =
        (bodyAndSignature env record.mail.body
          record.senderSignature).2.getD ""

end Attempts

/-! ## What a payload reads -/

section Reading

variable {env : PayloadEnv} {chains : Nat → List Interceptor}
  {forwardAt : Nat → String} {record : StoredEmail}

theorem reading_payload (env : PayloadEnv) (record : StoredEmail)
    (time : String) :
    reading (toWebhookPayload env record time) =
      (some (.string
        (bodyAndSignature env record.mail.body record.senderSignature).1),
        some (Json.ofStr?
          (bodyAndSignature env record.mail.body
            record.senderSignature).2)) := by
  simp only [reading, toWebhookPayload]
  cases bodyAndSignature env record.mail.body record.senderSignature with
  | mk body signature =>
      cases signature <;> cases record.mail.headers.lookup "message_id" <;>
        by_cases none : Text.words
            ((record.mail.headers.lookup "references").getD "") = [] <;>
          simp [Json.get?, none, Json.lookup_insertField, Json.ofStr?,
            List.lookup_cons]

theorem signature_ne_empty {body signature : String} {cached : Option String}
    (read : (bodyAndSignature env body cached).2 = some signature) :
    signature ≠ "" := by
  cases cached with
  | none =>
      simp only [bodyAndSignature, Option.map_eq_some_iff,
        Option.filter_eq_some_iff] at read
      obtain ⟨extracted, ⟨found, -⟩, raw⟩ := read
      rw [← raw]
      exact Email.BodyProc.processEmailBody_signature_ne_empty found
  | some cached =>
      rw [bodyAndSignature] at read
      split at read
      · cases read
      · next filled =>
          cases read
          exact filled

theorem bodyAndSignature_saved (body : String) (signature : String) :
    bodyAndSignature env body (some signature) =
      (body, if signature = "" then none else some signature) := by
  rw [bodyAndSignature]
  split <;> rfl

theorem reading_saved_iff {edited : Json} {time later : String} :
    reading (toWebhookPayload env (saveCleaned record edited) later) =
        reading (toWebhookPayload env record time) ↔
      (edited.getStr? "body").getD record.mail.body =
          (bodyAndSignature env record.mail.body record.senderSignature).1 ∧
        (edited.getStr? "signature").getD "" =
          (bodyAndSignature env record.mail.body
            record.senderSignature).2.getD "" := by
  rw [reading_payload, reading_payload, saveCleaned, bodyAndSignature_saved]
  generalize (edited.getStr? "signature").getD "" = saved
  cases read : (bodyAndSignature env record.mail.body
      record.senderSignature).2 with
  | none =>
      by_cases empty : saved = ""
      · simp [empty, Json.ofStr?]
      · simp [empty, Json.ofStr?]
  | some signature =>
      have filled := signature_ne_empty read
      by_cases empty : saved = ""
      · simp [empty, Json.ofStr?, filled.symm]
      · simp [empty, Json.ofStr?]

end Reading

/-! ## Runs of attempts -/

section Runs

variable {env : PayloadEnv} {chains : Nat → List Interceptor}
  {forwardAt : Nat → String} {record : StoredEmail}

/-- Two records that differ in the body and the signature alone. -/
def SameMail (first second : StoredEmail) : Prop :=
  { first.mail with body := second.mail.body } = second.mail

theorem SameMail.trans {first second third : StoredEmail}
    (early : SameMail first second) (late : SameMail second third) :
    SameMail first third := by
  rw [SameMail] at early late ⊢
  rw [← late, ← early]

theorem attempt_sameMail (record : StoredEmail) (number : Nat) (saved : Bool) :
    SameMail record (attempt env chains forwardAt record number saved) := by
  rw [attempt]
  cases runChain record (chains number)
      (toWebhookPayload env record (forwardAt number)) with
  | none => rfl
  | some payload =>
      dsimp only
      split <;> rfl

theorem recordAt_sameMail (saves : Nat → Bool) (number : Nat) :
    SameMail record (recordAt env chains forwardAt record saves number) := by
  induction number with
  | zero => rfl
  | succ number induction => exact induction.trans (attempt_sameMail _ _ _)

theorem attempt_cached {number : Nat} {saved : Bool}
    (cached : record.senderSignature ≠ none) :
    attempt env chains forwardAt record number saved = record := by
  rw [attempt]
  cases runChain record (chains number)
      (toWebhookPayload env record (forwardAt number)) with
  | none => rfl
  | some payload =>
      have filled : ¬ (record.senderSignature.isNone = true ∧
          saved = true) := by
        simp [cached]
      simp only [if_neg filled]

theorem recordAt_cases (saves : Nat → Bool) (number : Nat) :
    recordAt env chains forwardAt record saves number = record ∨
      ∃ earlier edited, record.senderSignature = none ∧
        runChain record (chains earlier)
          (toWebhookPayload env record (forwardAt earlier)) = some edited ∧
        recordAt env chains forwardAt record saves number =
          saveCleaned record edited := by
  induction number with
  | zero => exact .inl rfl
  | succ number induction =>
      rw [recordAt]
      cases induction with
      | inl same =>
          rw [same, attempt]
          cases passed : runChain record (chains number)
              (toWebhookPayload env record (forwardAt number)) with
          | none => exact .inl rfl
          | some edited =>
              by_cases saves : record.senderSignature.isNone = true ∧
                  saves number = true
              · have first : record.senderSignature = none := by
                  simpa using saves.1
                simp only [if_pos saves]
                exact .inr ⟨number, edited, first, passed, rfl⟩
              · simp only [if_neg saves, true_or]
      | inr saved =>
          obtain ⟨earlier, edited, first, passed, same⟩ := saved
          rw [same, attempt_cached (by simp [saveCleaned])]
          exact .inr ⟨earlier, edited, first, passed, rfl⟩

theorem recordAt_unsaved {saves : Nat → Bool} {number : Nat}
    (fails : ∀ earlier < number, saves earlier = false) :
    recordAt env chains forwardAt record saves number = record := by
  induction number with
  | zero => rfl
  | succ number induction =>
      have failed := fails number (Nat.lt_succ_self number)
      rw [recordAt, induction fun earlier before =>
        fails earlier (Nat.lt_succ_of_lt before), attempt]
      cases runChain record (chains number)
          (toWebhookPayload env record (forwardAt number)) with
      | none => rfl
      | some payload => simp [failed]

/-- Saving changes only the body and the signature, and every attempt reads
what the first one does exactly if each chain that passes an unsaved email on
leaves its texts. -/
theorem retries_read_same_iff (env : PayloadEnv)
    (chains : Nat → List Interceptor) (forwardAt : Nat → String)
    (record : StoredEmail) :
    (∀ saves number,
      SameMail record (recordAt env chains forwardAt record saves number)) ∧
    ((∀ saves number,
        reading (payloadAt env chains forwardAt record saves number) =
          reading (payloadAt env chains forwardAt record saves 0)) ↔
      (record.senderSignature = none →
        ∀ number, LeavesText env chains forwardAt record number)) := by
  refine ⟨recordAt_sameMail, ?_⟩
  constructor
  · intro same first number edited passed
    have saved : recordAt env chains forwardAt record (· == number)
        (number + 1) = saveCleaned record edited := by
      have unsaved : recordAt env chains forwardAt record (· == number)
          number = record := by
        apply recordAt_unsaved
        intro earlier before
        simpa using before.ne
      rw [recordAt, unsaved, attempt, passed]
      simp [first]
    have reads := same (· == number) (number + 1)
    rw [payloadAt, payloadAt, saved] at reads
    exact reading_saved_iff.mp reads
  · intro leaves saves number
    rw [payloadAt, payloadAt, recordAt]
    cases recordAt_cases saves number with
    | inl same => rw [same, reading_payload, reading_payload]
    | inr saved =>
        obtain ⟨earlier, edited, first, passed, same⟩ := saved
        rw [same]
        exact reading_saved_iff.mpr (leaves first earlier edited passed)

end Runs

/-! ## Chains that keep the texts -/

theorem reading_runChain {record : StoredEmail} {chain : List Interceptor}
    {payload edited : Json}
    (keeps : ∀ interceptor ∈ chain, ∀ payload,
      reading (interceptor record payload).2 = reading payload)
    (passed : runChain record chain payload = some edited) :
    reading edited = reading payload := by
  induction chain generalizing payload with
  | nil =>
      cases passed
      rfl
  | cons interceptor rest induction =>
      rw [List.forall_mem_cons] at keeps
      rw [runChain] at passed
      split at passed
      · cases passed
      · next further kept =>
          have same := keeps.1 payload
          rw [kept] at same
          exact (induction keeps.2 passed).trans same

theorem leavesText_of_keeps {env : PayloadEnv}
    {chains : Nat → List Interceptor} {forwardAt : Nat → String}
    {record : StoredEmail} {number : Nat}
    (keeps : ∀ interceptor ∈ chains number, ∀ payload,
      reading (interceptor record payload).2 = reading payload) :
    LeavesText env chains forwardAt record number := by
  intro edited passed
  have same := reading_runChain keeps passed
  rw [reading_payload, reading, Prod.mk.injEq] at same
  simp only [Json.getStr?, same]
  cases (bodyAndSignature env record.mail.body record.senderSignature).2 <;>
    simp [Json.ofStr?, Json.asStr?]

/-! ## A chain that adds a note -/

def plainEnv : PayloadEnv where
  engine := Email.BodyProc.silentEngine
  timeText := toString
  forwarder := "relay@aimail-relay.local"

def hello : StoredEmail where
  mail := {
    id := "m1"
    status := .ready
    systemId := "sys-a"
    direction := .inbound
    sender := "pal@c.test"
    recipients := ⟨["ann@a.test"], [], ["ann@a.test"]⟩
    subject := "hello"
    body := "hi"
    headers := []
    attachments := none
    sendCount := 0
    lastSentAt := 0
    nextRetryAt := none
    maxAttempts := 3
    createdAt := 0 }
  senderSignature := none

example : bodyAndSignature plainEnv "hi\n-- \nAnn\nCTO" none =
    ("hi\n-- \nAnn\nCTO\n\n---\n\n**Sender Signature:** Ann | CTO",
      some "Ann | CTO") := by
  decide +kernel

def addNote : Interceptor := fun _ payload =>
  (false, .object [("body",
    .string ((payload.getStr? "body").getD "" ++ "\nnote"))])

/-- A note that an interceptor adds is in the body of the second attempt. -/
theorem note_read_on_retry :
    ¬ ∀ (env : PayloadEnv) (chains : Nat → List Interceptor)
        (forwardAt : Nat → String) (record : StoredEmail)
        (saves : Nat → Bool) (number : Nat),
        (∀ number record payload, (runChain record (chains number)
          payload).isSome = true) →
        reading (payloadAt env chains forwardAt record saves number) =
          reading (payloadAt env chains forwardAt record saves 0) := by
  intro same
  have reads := same plainEnv (fun _ => [addNote]) (fun _ => "") hello
    (fun _ => true) 1 fun _ _ _ => rfl
  have second : (reading (payloadAt plainEnv (fun _ => [addNote])
      (fun _ => "") hello (fun _ => true) 1)).1.bind Json.asStr? =
      some "hi\nnote" := by
    decide +kernel
  have first : (reading (payloadAt plainEnv (fun _ => [addNote])
      (fun _ => "") hello (fun _ => true) 0)).1.bind Json.asStr? =
      some "hi" := by
    decide +kernel
  rw [reads, first] at second
  exact absurd second (by decide)

end Retries

end AimailGateway.Webhook
