import AimailGateway.Scheduler.Exhaustion

/-! # The scheduler's flows

What the scheduler does with an email on each path, and the batch of a tick.
The files and metadata of attachments, the metrics and the log are left out.
-/

namespace AimailGateway.Scheduler

open Library
open Library.Program (forEach)

def forSelected (selection : Flow (Except AppError (List EmailRecord)))
    (flow : EmailRecord → Flow Unit) : Flow Unit := do
  match ← selection with
  | .error _ => pure ()
  | .ok records => forEach records flow

def cleanupCompletedEmail (record : EmailRecord) : Flow Unit := do
  let _ ← ask (.delete record.id)

/-- Without an upstream server a delivered email is kept for the bounces that
may follow; through one, or by webhook, it is completed at once. -/
def isDirectDelivery (config : Config) (deliveryType : DeliveryType) : Bool :=
  (match config.smtpServer with
  | some server => server == ""
  | none => true) && deliveryType != .webhook

def finalizeAfterDelivery (config : Config) (record : EmailRecord)
    (deliveryType : DeliveryType) : Flow Unit := do
  if isDirectDelivery config deliveryType then
    let _ ← ask (.markDelivered record.id)
  else
    match ← ask (.complete record.id) with
    | .error _ => pure ()
    | .ok _ => cleanupCompletedEmail record

def exhaustEmail (config : Config) (record : EmailRecord)
    (finalSendCount : Option Int) : Flow Unit := do
  match finalSendCount with
  | some count =>
      let _ ← ask (.updateSendCount record.id count)
  | none => pure ()
  match record.direction with
  | .inbound => insertExhaustionAutoReply config record
  | .outbound => insertExhaustionNotification config record
  match ← ask (.complete record.id) with
  | .ok (some _) => cleanupCompletedEmail record
  | _ => pure ()

def handleOverlimit (config : Config) (record : EmailRecord) : Flow Unit :=
  exhaustEmail config record none

/-- The time of the retry after attempt number `sendCount`. -/
def nextRetryTime (config : Config) (sendCount : Int) : Flow Timestamp := do
  let random ← ask .random
  let time ← ask .utcNow
  pure (time + 1000 * calculateBackoff config sendCount.toNat random)

/-- Attempt a retry that is due. -/
def periodicInspection (config : Config) (record : EmailRecord) :
    Flow Unit := do
  let deliveryType := detectDeliveryType record
  let newSendCount := record.sendCount + 1
  match ← ask (.deliver record deliveryType) with
  | none => finalizeAfterDelivery config record deliveryType
  | some _ =>
      if newSendCount ≥ record.maxAttempts then
        exhaustEmail config record (some newSendCount)
      else
        let nextRetry ← nextRetryTime config newSendCount
        match ← ask (.readyRetry record.id newSendCount nextRetry) with
        | .ok _ => pure ()
        | .error _ =>
            -- The fallback writes the count without this attempt.
            let time ← ask .utcNow
            let _ ← ask
              (.readyRetry record.id record.sendCount (time + 60000))

/-- Deliver an email that a trigger claimed. -/
def immediateForward (config : Config) (record : EmailRecord) : Flow Unit := do
  let deliveryType := detectDeliveryType record
  match ← ask (.deliver record deliveryType) with
  | none => finalizeAfterDelivery config record deliveryType
  | some _ =>
      let newSendCount : Int := 1
      if newSendCount ≥ record.maxAttempts then
        exhaustEmail config record (some newSendCount)
      else
        let nextRetry ← nextRetryTime config newSendCount
        let _ ← ask (.readyRetry record.id newSendCount nextRetry)

/-- Clean up an email none of whose attachments is left. -/
def cascadeEmail (mailId : String) : Flow Unit := do
  match ← ask (.listByMailId mailId) with
  | .ok [] =>
      match ← ask (.getEmail mailId) with
      | .ok (some record) => cleanupCompletedEmail record
      | _ => pure ()
  | _ => pure ()

/-- Expire attachments, then the emails that have none left. -/
def processExpiredAttachments (config : Config) : Flow Unit := do
  let time ← ask .utcNow
  match ← ask (.listExpiredBefore
      (time - 3600000 * config.attachmentLifetimeHours) config.batchSize) with
  | .error _ => pure ()
  | .ok expired => forEach expired.flatten.eraseDups cascadeEmail

/-- An email whose attachments are recorded, or which has none, is flipped to
`ready`; one whose attachments were saved in part is discarded. -/
def recoverStuckReadying (record : EmailRecord) : Flow Unit := do
  match record.attachments with
  | some _ =>
      let _ ← ask (.flipReadyingToReady record.id)
  | none =>
      match ← ask (.listByMailId record.id) with
      | .ok (_ :: _) =>
          let _ ← ask (.delete record.id)
      | _ =>
          let _ ← ask (.flipReadyingToReady record.id)

def sweepStuckReadying (config : Config) : Flow Unit := do
  let time ← ask .utcNow
  let cutoff := time - 1000 * config.readyingStuckSecs
  forSelected (ask (.getStuckReadying cutoff config.batchSize))
    recoverStuckReadying

def finalizeExpiredDelivered (record : EmailRecord) : Flow Unit := do
  match ← ask (.complete record.id) with
  | .error _ => pure ()
  | .ok _ => cleanupCompletedEmail record

/-- All flows of one tick, in order. -/
def processBatch (config : Config) : Flow Unit := do
  sweepStuckReadying config
  forSelected (ask (.getOverlimit config.batchSize)) (handleOverlimit config)
  forSelected (ask (.getPendingRetry config.batchSize))
    (periodicInspection config)
  processExpiredAttachments config
  let time ← ask .utcNow
  let cutoff := time - 1000 * config.deliveryWindowSecs
  forSelected (ask (.getExpiredDelivered cutoff config.batchSize))
    finalizeExpiredDelivered

/-! ## Flows that stand aside -/

open Library.Program (Asks asks_forEach)

variable {config : Config} {record : EmailRecord}

/-- Requests that take on no email, attempt none and write no attempt down. -/
def Request.StandsAside : Request → Prop
  | .deliver _ _ | .getPendingRetry _ | .readyRetry _ _ _
  | .updateSendCount _ _ | .complete _ | .markDelivered _ => False
  | .create mail => 0 < mail.maxAttempts
  | _ => True

theorem insertExhaustionAutoReply_asks :
    Asks Request.StandsAside (insertExhaustionAutoReply config record) := by
  unfold insertExhaustionAutoReply
  split
  · trivial
  · refine ⟨trivial, fun uuid => ⟨config.maxAttempts_pos, ?_⟩⟩
    rintro (error | created)
    · trivial
    · exact ⟨trivial, fun _ => trivial⟩

theorem insertExhaustionNotification_asks :
    Asks Request.StandsAside (insertExhaustionNotification config record) := by
  unfold insertExhaustionNotification
  split
  · trivial
  · refine ⟨trivial, ?_⟩
    rintro (_ | url)
    · trivial
    · refine ⟨trivial, fun uuid => ⟨trivial, fun names =>
        ⟨config.maxAttempts_pos, ?_⟩⟩⟩
      rintro (error | created)
      · trivial
      · exact ⟨trivial, fun _ => trivial⟩

theorem cascadeEmail_asks (mailId : String) :
    Asks Request.StandsAside (cascadeEmail mailId) := by
  refine ⟨trivial, ?_⟩
  rintro (error | _ | _)
  · trivial
  · refine ⟨trivial, ?_⟩
    rintro (error | _ | row)
    · trivial
    · trivial
    · exact ⟨trivial, fun _ => trivial⟩
  · trivial

theorem processExpiredAttachments_asks :
    Asks Request.StandsAside (processExpiredAttachments config) := by
  refine ⟨trivial, fun time => ⟨trivial, ?_⟩⟩
  rintro (error | expired)
  · trivial
  · exact asks_forEach cascadeEmail_asks _

theorem recoverStuckReadying_asks (record : EmailRecord) :
    Asks Request.StandsAside (recoverStuckReadying record) := by
  unfold recoverStuckReadying
  cases record.attachments with
  | some ids => exact ⟨trivial, fun _ => trivial⟩
  | none =>
      refine ⟨trivial, ?_⟩
      rintro (error | _ | _)
      · exact ⟨trivial, fun _ => trivial⟩
      · exact ⟨trivial, fun _ => trivial⟩
      · exact ⟨trivial, fun _ => trivial⟩

theorem sweepStuckReadying_asks :
    Asks Request.StandsAside (sweepStuckReadying config) := by
  refine ⟨trivial, fun time => ⟨trivial, ?_⟩⟩
  rintro (error | records)
  · trivial
  · exact asks_forEach recoverStuckReadying_asks records

end AimailGateway.Scheduler
