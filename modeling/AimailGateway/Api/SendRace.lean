import AimailGateway.Api.SendRecords
import AimailGateway.Library.Execution
import Mathlib.Logic.Function.Basic

/-! # Identical sends at the same time

Any number of sends that take turns stage by stage. The detector of duplicates
is asked in one stage and told in a later one, and the records are created in
between.
-/

namespace AimailGateway.Api

open Library Action

/-! ## The stages of a send -/

/-- What is known when the detector is asked. -/
structure Opened where
  raw : String
  sender : String
  persona : String
  body : String

section Stages

variable (state : SendState) (key : ApiKeyRecord) (request : SendEmailRequest)

def openSend : Send Opened := do
  let raw := request.sender.getD key.emailAddress
  let (sender, persona) := splitSender state (isShared key.systemId) raw
  if sender ≠ key.emailAddress then
    fail (senderMismatch raw key.emailAddress)
  else
    let body ← onDatabase (signedBody state sender request.markdown)
    return ⟨raw, sender, persona, body⟩

/-- What follows the check for duplicates. -/
def routeSend (opened : Opened) : Send SendPlan := do
  let shared := isShared key.systemId
  match parseAddressees state shared request with
  | none => fail panickedRequest
  | some addressees =>
      let domains ← onDatabase (iterate state
        (addressees.bareEmails.map domainFromEmail).eraseDups)
      let rules ← onDatabase (rulesOf state domains)
      let toOrder ← onDatabase (iterate state addressees.toSet)
      let ccOrder ← onDatabase (iterate state addressees.ccSet)
      let drawn ← onDatabase (newUuid state.env)
      let recipients := deliverable addressees toOrder ccOrder
      if recipients = [] then fail noRecipients
      else
        onDatabase ((refuseAnchors state recipients).when shared)
        onDatabase (requireRules state opened.sender)
        let subject := request.subject.getD ""
        let (buckets, admission) ← onDatabase (routeRecipients state
          key.systemId opened.sender subject recipients)
        return {
          systemId := key.systemId
          sender := opened.sender
          subject
          body := opened.body
          addressees
          attachments := request.attachments
          display := displayHeaders addressees
            (nameMap state rules addressees.bareEmails) opened.sender
            (if opened.persona = "" then opened.sender else opened.raw)
          board := sessionFlow state request opened.sender toOrder
          messageId := "<" ++ drawn ++ "@" ++
            resolveFallbackDomain state opened.sender ++ ">"
          internal := admission.internal
          external := buckets.external
          unregistered := buckets.unregistered
          systemSink := buckets.systemSink
          filtered := buckets.filtered
          boardSystem := buckets.boardSystem
          known := admission.known }

theorem planSend_stages :
    planSend state key request = (do
      let opened ← openSend state key request
      checkDuplicate state request opened.sender opened.body
      routeSend state key request opened) := by
  rw [planSend, openSend]
  dsimp only
  split
  · rfl
  · simp only [bind_assoc, pure_bind]
    rfl

inductive Stage where
  | opening
  | checking (opened : Opened)
  | routing (opened : Opened)
  | outbound (plan : SendPlan)
  | inbound (plan : SendPlan) (ids : List String)
  | noticing (plan : SendPlan) (ids : List String)
  | marking (plan : SendPlan) (ids : List String)
  | ended (answer : Except HttpError SendEmailResponse) (ids : List String)

/-- The records of the send created so far. -/
def Stage.created : Stage → List String
  | .inbound _ ids | .noticing _ ids | .marking _ ids | .ended _ ids => ids
  | _ => []

def SendPlan.merged (plan : SendPlan) : HeaderMap :=
  mergedHeaders request.headers plan.display plan.board plan.messageId

def Stage.next : Stage → Send Stage
  | .opening => do return .checking (← openSend state key request)
  | .checking opened => do
      checkDuplicate state request opened.sender opened.body
      return .routing opened
  | .routing opened => do return .outbound (← routeSend state key request opened)
  | .outbound plan =>
      match isPong plan.subject, plan.external with
      | true, recipient :: _ => do
          let response ← filePong state plan (plan.merged request) recipient
          return .ended (.ok response) [response.emailId]
      | _, _ => do
          return .inbound plan (← fileOutbound state plan (plan.merged request))
  | .inbound plan ids => do
      let more ← fileInbound state plan
        (inboundHeaders state (plan.merged request) plan.subject plan.known)
      return .noticing plan (ids ++ more)
  | .noticing plan ids => do
      sendFilteredNotification state plan
      sendUnregisteredNotification state plan
      return .marking plan ids
  | .marking _ [] => return .ended (.ok ⟨.created, "", "filtered"⟩) []
  | .marking plan (id :: more) => do
      markSent state request plan.sender plan.body
      return .ended (.ok ⟨.created, id, "queued"⟩) (id :: more)
  | .ended answer ids => return .ended answer ids

def Stage.answer : Stage → Send SendEmailResponse
  | .ended answer _ => check answer
  | _ => fail panickedRequest

/-- The stages, one after the other, are `sendEmailCore`. -/
theorem sendEmailCore_stages :
    sendEmailCore state key request = (do
      let checking ← Stage.next state key request .opening
      let routing ← checking.next state key request
      let outbound ← routing.next state key request
      let inbound ← outbound.next state key request
      let noticing ← inbound.next state key request
      let marking ← noticing.next state key request
      let ended ← marking.next state key request
      ended.answer) := by
  rw [sendEmailCore, planSend_stages]
  simp only [Stage.next, bind_assoc, pure_bind]
  refine congrArg (openSend state key request >>= ·) (funext fun opened => ?_)
  refine congrArg (checkDuplicate state request opened.sender opened.body >>= ·)
    (funext fun _ => ?_)
  refine congrArg (routeSend state key request opened >>= ·) (funext fun plan => ?_)
  have mail : fileMail state request plan (plan.merged request)
      (inboundHeaders state (plan.merged request) plan.subject plan.known) = (do
        let noticing ← Stage.next state key request (.inbound plan
          (← fileOutbound state plan (plan.merged request)))
        let marking ← noticing.next state key request
        let ended ← marking.next state key request
        ended.answer) := by
    rw [fileMail]
    simp only [Stage.next, bind_assoc, pure_bind]
    refine congrArg (fileOutbound state plan (plan.merged request) >>= ·)
      (funext fun outboundIds => ?_)
    refine congrArg (fileInbound state plan _ >>= ·) (funext fun inboundIds => ?_)
    refine congrArg (sendFilteredNotification state plan >>= ·) (funext fun _ => ?_)
    refine congrArg (sendUnregisteredNotification state plan >>= ·)
      (funext fun _ => ?_)
    cases outboundIds ++ inboundIds with
    | nil => rfl
    | cons id more =>
        simp only [bind_assoc, pure_bind]
        rfl
  simp only [Stage.next, bind_assoc, pure_bind] at mail
  cases pong : isPong plan.subject with
  | false =>
      simp only [bind_assoc, pure_bind]
      exact mail
  | true =>
      cases external : plan.external with
      | nil =>
          simp only [bind_assoc, pure_bind]
          exact mail
      | cons recipient rest =>
          simp only [bind_assoc, pure_bind]
          exact (bind_pure _).symm

end Stages

/-! ## The system -/

/-- A send under way, with the times it asked and told the detector. -/
structure Sending where
  key : ApiKeyRecord
  request : SendEmailRequest
  stage : Stage
  /-- The key of the content that passed the check. -/
  content : Option UInt64
  checked : Option Timestamp
  marked : Option Timestamp

structure Sends where
  world : SendWorld
  sends : Nat → Option Sending
  /-- When the detector was asked or told last. -/
  latest : Timestamp

def Sends.start (world : SendWorld) : Sends :=
  ⟨world, fun _ => none, 0⟩

inductive SendEvent where
  | arrive (id : Nat) (key : ApiKeyRecord) (request : SendEmailRequest)
  | advance (id : Nat)
  /-- Anything else happens, but to the detector. -/
  | elsewhere (world : SendWorld)

/-- The stage reads the clock of the detector. -/
def Stage.asks : Stage → Bool
  | .checking _ | .marking _ (_ :: _) => true
  | _ => false

variable (state : SendState)

def SendWorld.time (world : SendWorld) : Timestamp :=
  state.env.clock world.main.tick

def Sending.after (sending : Sending) (world : SendWorld) :
    Except HttpError Stage → Sending
  | .error error =>
      { sending with stage := .ended (.error error) sending.stage.created }
  | .ok next =>
      match sending.stage with
      | .checking opened => { sending with
          stage := next
          content := some
            (requestKey state sending.request opened.sender opened.body)
          checked := some (world.time state) }
      | .marking _ (_ :: _) => { sending with
          stage := next, marked := some (world.time state) }
      | _ => { sending with stage := next }

def Sending.run (sending : Sending) (world : SendWorld) :
    Except HttpError Stage × SendWorld :=
  (sending.stage.next state sending.key sending.request).run world

def Sends.step (system : Sends) : SendEvent → Option Sends
  | .arrive id key request =>
      match system.sends id with
      | some _ => none
      | none => some { system with
          sends := Function.update system.sends id
            (some ⟨key, request, .opening, none, none, none⟩) }
  | .advance id =>
      match system.sends id with
      | none => none
      | some sending => some {
          world := (sending.run state system.world).2
          sends := Function.update system.sends id (some (sending.after state
            system.world (sending.run state system.world).1))
          latest := if sending.stage.asks then system.world.time state
            else system.latest }
  | .elsewhere world =>
      some { system with world := { world with deduper := system.world.deduper } }

def Sends.Steps (system : Sends) (event : SendEvent) (next : Sends) : Prop :=
  system.step state event = some next

/-- The key the stage has passed the check with. -/
def Stage.content (request : SendEmailRequest) : Stage → Option UInt64
  | .routing opened => some (requestKey state request opened.sender opened.body)
  | .outbound plan | .inbound plan _ | .noticing plan _ | .marking plan _ =>
      some (requestKey state request plan.sender plan.body)
  | _ => none

/-- Past the check, and not ended. -/
def Stage.underWay (stage : Stage) : Prop :=
  match stage with
  | .opening | .checking _ | .ended _ _ => False
  | _ => True

/-- One send with the key at a time, which creates no pong, is refused no
record after its first, and is not displaced from the detector within the
window. -/
def Serial (key : UInt64) (system : Sends) : SendEvent → Prop
  | .advance id => ∀ sending, system.sends id = some sending →
      match sending.stage with
      | .checking opened =>
          system.latest ≤ system.world.time state ∧
          (requestKey state sending.request opened.sender opened.body = key →
            ∀ other one, system.sends other = some one →
              one.content = some key → ¬one.stage.underWay)
      | .outbound plan => sending.content = some key →
          isPong plan.subject = true → plan.external = []
      | .inbound plan ids => sending.content = some key → ids ≠ [] →
          plan.internal ≠ [] → ¬RefusesRecord state.env system.world.main
      | .marking plan (_ :: _) =>
          system.latest ≤ system.world.time state ∧
          (requestKey state sending.request plan.sender plan.body ≠ key →
            state.dedupeCapacity ≤ system.world.deduper.entries.length →
            system.world.deduper.oldest = some key →
            ∀ entry ∈ system.world.deduper.entries, entry.1 = key →
              entry.2.1 + state.dedupeWindowSecs * 1000 ≤
                system.world.time state)
      | _ => True
  | _ => True

/-- The first send was marked the whole window before the second was
checked. -/
def Sending.Before (first second : Sending) : Prop :=
  ∃ marked checked, first.marked = some marked ∧ second.checked = some checked ∧
    marked + state.dedupeWindowSecs * 1000 ≤ checked

/-- Two sends with the key that create records are a window apart, and a send
that fails leaves no mark. -/
structure RaceFree (key : UInt64) (system : Sends) : Prop where
  once : ∀ first second one two, first ≠ second →
    system.sends first = some one → system.sends second = some two →
    one.content = some key → two.content = some key →
    one.stage.created ≠ [] → two.stage.created ≠ [] →
    one.Before state two ∨ two.Before state one
  unmarked : ∀ id sending error ids, system.sends id = some sending →
    sending.stage = .ended (.error error) ids → sending.marked = none

/-! ## What a stage does to the detector -/

variable {state} {key : ApiKeyRecord} {request : SendEmailRequest}
  {world : SendWorld} {plan : SendPlan}
  {opened : Opened} {headers : HeaderMap}

def KeepsDetector (action : Action SendWorld ε α) : Prop :=
  action.Moves fun before after => after.deduper = before.deduper

theorem KeepsDetector.bind {action : Action SendWorld ε α}
    {rest : α → Action SendWorld ε β} (keeps : KeepsDetector action)
    (restKeeps : ∀ value, KeepsDetector (rest value)) :
    KeepsDetector (action >>= rest) :=
  Moves.bind (fun first second => second.trans first) keeps restKeeps

theorem keepsDetector_pure (value : α) :
    KeepsDetector (pure value : Action SendWorld ε α) :=
  fun _ => rfl

theorem keepsDetector_fail (error : ε) :
    KeepsDetector (fail error : Action SendWorld ε α) :=
  fun _ => rfl

theorem keepsDetector_onDatabase (action : Action World ε α) :
    KeepsDetector (onDatabase action) := by
  rw [KeepsDetector, moves_iff_ends]
  intro world
  rw [ends_onDatabase]
  exact ends_any (fun _ _ => rfl) fun _ _ => rfl

theorem keepsDetector_forEach {action : α → Action SendWorld AppError Unit}
    (keeps : ∀ element, KeepsDetector (action element)) (elements : List α) :
    KeepsDetector (forEach action elements) := by
  induction elements with
  | nil => exact keepsDetector_pure ()
  | cons element rest induction =>
      exact KeepsDetector.bind (Moves.ignore (keeps element)) fun _ => induction

theorem keepsDetector_attachmentCall {change : SendWorld → Option SendWorld}
    (beside : ∀ before after, change before = some after →
      after.deduper = before.deduper) :
    KeepsDetector (attachmentCall state change) := by
  refine (keepsDetector_onDatabase _).bind fun _ => ?_
  intro world
  unfold changeTables Action.run
  dsimp only
  cases changed : change world with
  | none => rfl
  | some after => exact beside world after changed

theorem keepsDetector_addMailId {mailId attachmentId : String} :
    KeepsDetector (addMailId state mailId attachmentId) :=
  keepsDetector_attachmentCall fun before after changed => by
    cases changed
    rfl

theorem keepsDetector_createPermission {attachmentId userEmail : String} :
    KeepsDetector (createPermission state attachmentId userEmail) :=
  keepsDetector_attachmentCall fun before after changed => by
    split at changed
    · cases changed
    · cases changed
      rfl

theorem keepsDetector_openSend : KeepsDetector (openSend state key request) := by
  rw [openSend]
  dsimp only
  split
  · exact keepsDetector_fail _
  · exact (keepsDetector_onDatabase _).bind fun _ => keepsDetector_pure _

theorem keepsDetector_routeSend :
    KeepsDetector (routeSend state key request opened) := by
  rw [routeSend]
  dsimp only
  split
  · exact keepsDetector_fail _
  · refine (keepsDetector_onDatabase _).bind fun domains => ?_
    refine (keepsDetector_onDatabase _).bind fun rules => ?_
    refine (keepsDetector_onDatabase _).bind fun toOrder => ?_
    refine (keepsDetector_onDatabase _).bind fun ccOrder => ?_
    refine (keepsDetector_onDatabase _).bind fun drawn => ?_
    split
    · exact keepsDetector_fail _
    · refine (keepsDetector_onDatabase _).bind fun _ => ?_
      refine (keepsDetector_onDatabase _).bind fun _ => ?_
      exact (keepsDetector_onDatabase _).bind fun _ => keepsDetector_pure _

theorem keepsDetector_filePong {recipient : String} :
    KeepsDetector (filePong state plan headers recipient) := by
  rw [filePong]
  refine (keepsDetector_onDatabase _).bind fun id => ?_
  exact (keepsDetector_onDatabase _).bind fun _ => keepsDetector_pure _

theorem keepsDetector_fileOutbound :
    KeepsDetector (fileOutbound state plan headers) := by
  rw [fileOutbound]
  split
  · exact keepsDetector_pure _
  · refine (keepsDetector_onDatabase _).bind fun id => ?_
    refine (keepsDetector_onDatabase _).bind fun record => ?_
    refine (keepsDetector_forEach (fun _ => keepsDetector_addMailId) _).bind
      fun _ => ?_
    exact keepsDetector_pure _

theorem keepsDetector_fileInbound :
    KeepsDetector (fileInbound state plan headers) := by
  rw [fileInbound]
  split
  · exact keepsDetector_pure _
  · refine (keepsDetector_onDatabase _).bind fun id => ?_
    refine (keepsDetector_onDatabase _).bind fun record => ?_
    refine (keepsDetector_forEach
      (fun _ => keepsDetector_createPermission) _).bind fun _ => ?_
    refine (keepsDetector_forEach (fun _ => keepsDetector_addMailId) _).bind
      fun _ => ?_
    exact keepsDetector_pure _

theorem keepsDetector_notifySender {addrs : List String} {subject body : String} :
    KeepsDetector (notifySender state plan addrs subject body) := by
  rw [notifySender]
  split
  · exact keepsDetector_pure _
  · exact Moves.ignore (keepsDetector_onDatabase _)

theorem keepsDetector_stage {stage : Stage} (silent : stage.asks = false) :
    KeepsDetector (stage.next state key request) := by
  cases stage with
  | opening => exact keepsDetector_openSend.bind fun _ => keepsDetector_pure _
  | checking opened => cases silent
  | routing opened =>
      exact keepsDetector_routeSend.bind fun _ => keepsDetector_pure _
  | outbound plan =>
      simp only [Stage.next]
      split
      · exact keepsDetector_filePong.bind fun _ => keepsDetector_pure _
      · exact keepsDetector_fileOutbound.bind fun _ => keepsDetector_pure _
  | inbound plan ids =>
      exact keepsDetector_fileInbound.bind fun _ => keepsDetector_pure _
  | noticing plan ids =>
      refine keepsDetector_notifySender.bind fun _ => ?_
      exact keepsDetector_notifySender.bind fun _ => keepsDetector_pure _
  | marking plan ids =>
      cases ids with
      | nil => exact keepsDetector_pure _
      | cons id more => cases silent
  | ended answer ids => exact keepsDetector_pure _

/-! ## What a stage comes to -/

/-- A stage that does not ask the detector keeps the key of its content, and
ends with records only as a pong. -/
structure Follows (state : SendState) (request : SendEmailRequest)
    (stage next : Stage) : Prop where
  passed : stage.underWay → next.underWay ∨ ∃ answer ids, next = .ended answer ids
  content : ∀ key, next.content state request = some key →
    stage.content state request = some key
  created : next.created ≠ [] →
    stage.content state request ≠ none ∨ stage.created ≠ []
  ended : ∀ answer ids, stage = .ended answer ids → next = stage
  finished : ∀ answer ids, next = .ended answer ids → ids ≠ [] →
    next = stage ∨ ∃ plan, stage = .outbound plan ∧
      isPong plan.subject = true ∧ plan.external ≠ []

/-- Where a stage fails: only a refused record comes after another one. -/
structure Breaks (state : SendState) (world : SendWorld) (stage : Stage) : Prop where
  alive : ∀ answer ids, stage ≠ .ended answer ids
  refused : stage.created ≠ [] → ∃ plan ids, stage = .inbound plan ids ∧
    plan.internal ≠ [] ∧ RefusesRecord state.env world.main

theorem ends_of_rest {action : Action SendWorld ε α}
    {rest : α → Action SendWorld ε β} {ok : β → SendWorld → Prop}
    (ends : ∀ value next, (rest value).Ends ok (fun _ _ => True) next) :
    (action >>= rest).Ends ok (fun _ _ => True) world := by
  rw [ends_bind]
  exact ends_any ends fun _ _ => trivial

theorem routeSend_ends :
    (routeSend state key request opened).Ends
      (fun plan _ => plan.sender = opened.sender ∧ plan.body = opened.body)
      (fun _ _ => True) world := by
  rw [routeSend]
  dsimp only
  split
  · trivial
  · refine ends_of_rest fun domains _ => ?_
    refine ends_of_rest fun rules _ => ?_
    refine ends_of_rest fun toOrder _ => ?_
    refine ends_of_rest fun ccOrder _ => ?_
    refine ends_of_rest fun drawn next => ?_
    split
    · trivial
    · refine ends_of_rest fun _ _ => ?_
      refine ends_of_rest fun _ _ => ?_
      exact ends_of_rest fun _ _ => ⟨rfl, rfl⟩

theorem notifySender_succeeds {addrs : List String} {subject body : String}
    {ok : Unit → SendWorld → Prop} (sent : ∀ next, ok () next)
    {failed : HttpError → SendWorld → Prop} :
    (notifySender state plan addrs subject body).Ends ok failed world := by
  rw [notifySender]
  split
  · exact sent _
  · rw [ends_ignore]
    exact ends_any (fun _ => sent) fun _ => sent

theorem stage_ends {stage : Stage} (silent : stage.asks = false) :
    (stage.next state key request).Ends
      (fun next _ => Follows state request stage next)
      (fun _ _ => Breaks state world stage) world := by
  have early : ∀ {stage : Stage}, stage.created = [] →
      (∀ answer ids, stage ≠ .ended answer ids) → Breaks state world stage :=
    fun none alive => ⟨alive, fun some => absurd none some⟩
  cases stage with
  | opening =>
      rw [Stage.next, ends_bind]
      refine ends_any (fun opened _ => ?_) fun _ _ => early rfl fun _ _ => nofun
      exact ⟨False.elim, nofun, fun some => absurd rfl some, nofun, nofun⟩
  | checking opened => cases silent
  | routing opened =>
      rw [Stage.next, ends_bind]
      refine (routeSend_ends).mono ?_ fun _ _ _ => early rfl fun _ _ => nofun
      intro plan _ same
      refine ⟨fun _ => .inl trivial, ?_, fun some => absurd rfl some, nofun, nofun⟩
      intro key own
      rw [← own, Stage.content, Stage.content, same.1, same.2]
  | outbound plan =>
      simp only [Stage.next]
      split
      · rename_i recipient rest pong external
        rw [ends_bind]
        refine ends_any (fun response _ => ?_) fun _ _ => early rfl fun _ _ => nofun
        refine ⟨fun _ => .inr ⟨_, _, rfl⟩, nofun, fun _ => .inl nofun, nofun,
          fun _ _ _ _ => .inr ?_⟩
        refine ⟨plan, rfl, pong, ?_⟩
        rw [external]
        exact List.cons_ne_nil _ _
      · rw [ends_bind]
        refine ends_any (fun ids _ => ?_) fun _ _ => early rfl fun _ _ => nofun
        exact ⟨fun _ => .inl trivial, fun _ own => own, fun _ => .inl nofun, nofun,
          nofun⟩
  | inbound plan ids =>
      rw [Stage.next, ends_bind]
      have follows : ∀ more, Follows state request (.inbound plan ids)
          (.noticing plan (ids ++ more)) :=
        fun more => ⟨fun _ => .inl trivial, fun _ own => own, fun _ => .inl nofun,
          nofun, nofun⟩
      apply fileInbound_ends
      · exact fun _ => follows []
      · exact fun present refuses error next _ =>
          ⟨nofun, fun _ => ⟨plan, ids, rfl, present, refuses⟩⟩
      · exact fun _ _ row next _ _ _ _ => follows [row.id]
  | noticing plan ids =>
      rw [Stage.next, ends_bind]
      refine notifySender_succeeds fun next => ?_
      rw [ends_bind]
      refine notifySender_succeeds fun next => ?_
      exact ⟨fun _ => .inl trivial, fun _ own => own, fun _ => .inl nofun, nofun,
        nofun⟩
  | marking plan ids =>
      cases ids with
      | nil =>
          refine ⟨fun _ => .inr ⟨_, _, rfl⟩, nofun, fun some => absurd rfl some,
            nofun, ?_⟩
          intro answer ids same some
          cases same
          exact absurd rfl some
      | cons id more => cases silent
  | ended answer ids =>
      exact ⟨False.elim, fun _ own => own, .inr, fun _ _ _ => rfl,
        fun _ _ _ _ => .inl rfl⟩

theorem checkDuplicate_run (positive : 0 < state.dedupeWindowSecs)
    {sender body : String} :
    (checkDuplicate state request sender body).run world =
      (if (world.deduper.purge (state.dedupeWindowSecs * 1000)
          (world.time state)).entries.any
            (·.1 == requestKey state request sender body) then
        .error (duplicateSend state.dedupeWindowSecs) else .ok (),
        { world with
          main := world.main.later
          deduper := world.deduper.purge (state.dedupeWindowSecs * 1000)
            (world.time state) }) := by
  have asked : (isDuplicate state (requestKey state request sender body)
      (ε := HttpError)) world =
      (.ok ((world.deduper.purge (state.dedupeWindowSecs * 1000)
          (world.time state)).entries.any
            (·.1 == requestKey state request sender body)),
        { world with
          main := world.main.later
          deduper := world.deduper.purge (state.dedupeWindowSecs * 1000)
            (world.time state) }) :=
    rfl
  rw [checkDuplicate, if_pos positive]
  simp only [Action.run, Bind.bind, asked]
  split <;> rfl

theorem markSent_run (positive : 0 < state.dedupeWindowSecs)
    {sender body : String} :
    (markSent state request sender body).run world =
      (.ok (), { world with
        main := world.main.later
        deduper := world.deduper.mark state.dedupeCapacity
          (requestKey state request sender body) (world.time state) }) := by
  rw [markSent, if_pos positive]
  rfl

theorem checking_run (positive : 0 < state.dedupeWindowSecs) :
    (Stage.next state key request (.checking opened)).run world =
      (if (world.deduper.purge (state.dedupeWindowSecs * 1000)
          (world.time state)).entries.any (·.1 ==
            requestKey state request opened.sender opened.body) then
        .error (duplicateSend state.dedupeWindowSecs) else .ok (.routing opened),
        { world with
          main := world.main.later
          deduper := world.deduper.purge (state.dedupeWindowSecs * 1000)
            (world.time state) }) := by
  have ran := @checkDuplicate_run state request world positive opened.sender
    opened.body
  rw [Action.run] at ran
  simp only [Stage.next, Action.run, Bind.bind, ran]
  cases (world.deduper.purge (state.dedupeWindowSecs * 1000)
    (world.time state)).entries.any
      (·.1 == requestKey state request opened.sender opened.body) <;> rfl

theorem marking_run (positive : 0 < state.dedupeWindowSecs) {first : String}
    {more : List String} :
    (Stage.next state key request (.marking plan (first :: more))).run world =
      (.ok (.ended (.ok ⟨.created, first, "queued"⟩) (first :: more)),
        { world with
          main := world.main.later
          deduper := world.deduper.mark state.dedupeCapacity
            (requestKey state request plan.sender plan.body)
              (world.time state) }) := by
  have ran := @markSent_run state request world positive plan.sender plan.body
  rw [Action.run] at ran
  simp only [Stage.next, Action.run, Bind.bind, ran]
  rfl

/-! ## The invariant -/

/-- The send has ended without a record. -/
def Sending.Barren (sending : Sending) : Prop :=
  ∃ answer, sending.stage = .ended answer []

/-- The detector still knows of a mark, or the window is over. -/
def Held (state : SendState) (key : UInt64) (deduper : SendDeduper)
    (latest marked : Timestamp) : Prop :=
  (∃ entry ∈ deduper.entries, entry.1 = key ∧ marked ≤ entry.2.1) ∨
    marked + state.dedupeWindowSecs * 1000 ≤ latest

/-- What holds of a send by itself. -/
structure Sending.Sound (state : SendState) (key : UInt64)
    (deduper : SendDeduper) (latest : Timestamp) (sending : Sending) : Prop where
  content : ∀ own, sending.stage.content state sending.request = some own →
    sending.content = some own
  checked : sending.content ≠ none → sending.checked ≠ none
  passed : sending.content ≠ none → sending.stage.underWay ∨
    ∃ answer ids, sending.stage = .ended answer ids
  marked : sending.marked ≠ none →
    ∃ response ids, sending.stage = .ended (.ok response) ids
  complete : sending.content = some key → ∀ answer ids,
    sending.stage = .ended answer ids → ids ≠ [] → sending.marked ≠ none
  held : sending.content = some key → ∀ marked, sending.marked = some marked →
    marked ≤ latest ∧ Held state key deduper latest marked

structure Sends.Sound (state : SendState) (key : UInt64) (system : Sends) :
    Prop where
  each : ∀ id sending, system.sends id = some sending →
    sending.Sound state key system.world.deduper system.latest
  apart : ∀ first second one two, first ≠ second →
    system.sends first = some one → system.sends second = some two →
    one.content = some key → two.content = some key →
    one.Before state two ∨ two.Before state one ∨ one.Barren ∨ two.Barren

variable {content : UInt64} {system : Sends}
  {sending : Sending} {deduper : SendDeduper}

theorem Sends.Sound.raceFree (sound : system.Sound state content) :
    RaceFree state content system where
  once first second one two different firstFound secondFound oneContent
      twoContent oneCreated twoCreated := by
    rcases sound.apart first second one two different firstFound secondFound
      oneContent twoContent with before | after | ⟨answer, barren⟩ | ⟨answer, barren⟩
    · exact .inl before
    · exact .inr after
    · rw [barren] at oneCreated
      exact absurd rfl oneCreated
    · rw [barren] at twoCreated
      exact absurd rfl twoCreated
  unmarked id sending error ids found ended := by
    by_contra marked
    rcases (sound.each id sending found).marked marked with ⟨response, own, ok⟩
    rw [ended] at ok
    cases ok

theorem Sends.Sound.replace (sound : system.Sound state content) {id : Nat}
    {next : Sending} {world : SendWorld} {latest : Timestamp}
    (later : system.latest ≤ latest)
    (keeps : ∀ marked ≤ system.latest,
      Held state content system.world.deduper system.latest marked →
        Held state content world.deduper latest marked)
    (own : next.Sound state content world.deduper latest)
    (apart : next.content = some content → ∀ other one, other ≠ id →
      system.sends other = some one → one.content = some content →
      one.Before state next ∨ next.Before state one ∨ one.Barren ∨ next.Barren) :
    Sends.Sound state content
      ⟨world, Function.update system.sends id (some next), latest⟩ where
  each other sending found := by
    dsimp only at found
    by_cases same : other = id
    · rw [same, Function.update_self] at found
      rw [← Option.some.inj found]
      exact own
    · rw [Function.update_of_ne same] at found
      have each := sound.each other sending found
      refine ⟨each.content, each.checked, each.passed, each.marked, each.complete, ?_⟩
      intro named marked told
      have held := each.held named marked told
      exact ⟨held.1.trans later, keeps marked held.1 held.2⟩
  apart first second one two different firstFound secondFound oneContent
      twoContent := by
    dsimp only at firstFound secondFound
    by_cases firstSame : first = id
    · have secondOther : second ≠ id := fun same =>
        different (firstSame.trans same.symm)
      rw [firstSame, Function.update_self] at firstFound
      rw [Function.update_of_ne secondOther] at secondFound
      rw [← Option.some.inj firstFound] at oneContent ⊢
      rcases apart oneContent second two secondOther secondFound twoContent with
        before | after | barren | barren
      · exact .inr (.inl before)
      · exact .inl after
      · exact .inr (.inr (.inr barren))
      · exact .inr (.inr (.inl barren))
    · rw [Function.update_of_ne firstSame] at firstFound
      by_cases secondSame : second = id
      · rw [secondSame, Function.update_self] at secondFound
        rw [← Option.some.inj secondFound] at twoContent ⊢
        exact apart twoContent first one firstSame firstFound oneContent
      · rw [Function.update_of_ne secondSame] at secondFound
        exact sound.apart first second one two different firstFound secondFound
          oneContent twoContent

theorem window_over {marked latest now entry window : Nat} (past : marked ≤ latest)
    (later : latest ≤ now) (known : marked ≤ entry) (dead : ¬now - entry < window) :
    marked + window ≤ now := by
  omega

theorem held_purge {latest now marked : Timestamp}
    (later : latest ≤ now) (past : marked ≤ latest) (held : Held state content deduper latest marked) :
    Held state content
      (deduper.purge (state.dedupeWindowSecs * 1000) now) now marked := by
  rcases held with ⟨entry, member, own, known⟩ | ended
  · by_cases live : now - entry.2.1 < state.dedupeWindowSecs * 1000
    · exact .inl ⟨entry, List.mem_filter.mpr ⟨member, decide_eq_true live⟩, own,
        known⟩
    · exact .inr (window_over past later known live)
  · exact .inr (ended.trans later)

theorem held_mark {latest now marked : Timestamp}
    {other : UInt64} (later : latest ≤ now) (past : marked ≤ latest)
    (live : other ≠ content → state.dedupeCapacity ≤ deduper.entries.length →
      deduper.oldest = some content → ∀ entry ∈ deduper.entries,
        entry.1 = content → entry.2.1 + state.dedupeWindowSecs * 1000 ≤ now)
    (held : Held state content deduper latest marked) :
    Held state content (deduper.mark state.dedupeCapacity other now) now marked := by
  by_cases same : other = content
  · refine .inl ⟨(other, now, deduper.seq + 1), ?_, same, past.trans later⟩
    exact List.mem_append_right _ (List.mem_singleton_self _)
  · rcases held with ⟨entry, member, own, known⟩ | ended
    · by_cases displaced : state.dedupeCapacity ≤ deduper.entries.length ∧
          deduper.oldest = some content
      · have old := live same displaced.1 displaced.2 entry member own
        exact .inr ((Nat.add_le_add_right known _).trans old)
      · refine .inl ⟨entry, List.mem_append_left _ (List.mem_filter.mpr ⟨?_, ?_⟩),
          own, known⟩
        · split
          · rename_i full
            refine List.mem_filter.mpr ⟨member, ?_⟩
            rw [bne_iff_ne, own]
            exact fun oldest => displaced ⟨full, oldest.symm⟩
          · exact member
        · rw [bne_iff_ne, own]
          exact fun equal => same equal.symm
    · exact .inr (ended.trans later)

theorem Sending.Sound.silent
    {latest : Timestamp} (sound : sending.Sound state content deduper latest)
    (silent : sending.stage.asks = false)
    (pong : ∀ plan, sending.stage = .outbound plan →
      sending.content = some content → isPong plan.subject = true →
        plan.external = [])
    (refused : ∀ plan ids, sending.stage = .inbound plan ids →
      sending.content = some content → ids ≠ [] → plan.internal ≠ [] →
        ¬RefusesRecord state.env world.main) :
    (sending.after state world (sending.run state world).1).Sound state content
        deduper latest ∧
      (sending.after state world (sending.run state world).1).content =
        sending.content ∧
      (sending.after state world (sending.run state world).1).checked =
        sending.checked ∧
      (sending.after state world (sending.run state world).1).marked =
        sending.marked ∧
      (sending.Barren →
        (sending.after state world (sending.run state world).1).Barren) := by
  have staged : (sending.stage.next state sending.key sending.request).Ends
      (fun next _ => Follows state sending.request sending.stage next)
      (fun _ _ => Breaks state world sending.stage) world := stage_ends silent
  have ends := ends_iff_run.mp staged
  rcases outcome : sending.run state world with ⟨error | next, after⟩
  · have breaks := ends.2 error after outcome
    refine ⟨⟨nofun, sound.checked, fun _ => .inr ⟨_, _, rfl⟩, ?_, ?_, sound.held⟩,
      rfl, rfl, rfl, ?_⟩
    · intro marked
      rcases sound.marked marked with ⟨response, ids, ended⟩
      exact absurd ended (breaks.alive _ _)
    · intro own answer ids same some
      cases same
      rcases breaks.refused some with ⟨plan, ids, stage, present, refuses⟩
      have more : ids ≠ [] := by
        rw [stage] at some
        exact some
      exact absurd refuses (refused plan ids stage own more present)
    · rintro ⟨answer, ended⟩
      exact absurd ended (breaks.alive _ _)
  · have follows := ends.1 next after outcome
    have made : sending.after state world (.ok next) =
        { sending with stage := next } := by
      rw [Sending.after]
      split
      · rename_i stage
        rw [stage] at silent
        cases silent
      · rename_i stage
        rw [stage] at silent
        cases silent
      · rfl
    rw [made]
    refine ⟨⟨?_, sound.checked, ?_, ?_, ?_, sound.held⟩, rfl, rfl, rfl, ?_⟩
    · exact fun own named => sound.content own (follows.content own named)
    · intro passed
      rcases sound.passed passed with under | ⟨answer, ids, ended⟩
      · exact follows.passed under
      · exact .inr ⟨answer, ids, (follows.ended answer ids ended).trans ended⟩
    · intro marked
      rcases sound.marked marked with ⟨response, ids, ended⟩
      exact ⟨response, ids, (follows.ended _ _ ended).trans ended⟩
    · intro own answer ids ended some
      rcases follows.finished answer ids ended some with same | ⟨plan, stage, is, external⟩
      · exact sound.complete own answer ids (same ▸ ended) some
      · exact absurd (pong plan stage own is) external
    · rintro ⟨answer, ended⟩
      exact ⟨answer, (follows.ended _ _ ended).trans ended⟩

theorem Sends.Sound.silent (sound : system.Sound state content) {id : Nat}
    (found : system.sends id = some sending)
    (silent : sending.stage.asks = false)
    (pong : ∀ plan, sending.stage = .outbound plan →
      sending.content = some content → isPong plan.subject = true →
        plan.external = [])
    (refused : ∀ plan ids, sending.stage = .inbound plan ids →
      sending.content = some content → ids ≠ [] → plan.internal ≠ [] →
        ¬RefusesRecord state.env system.world.main) :
    Sends.Sound state content
      ⟨(sending.run state system.world).2, Function.update system.sends id
        (some (sending.after state system.world
          (sending.run state system.world).1)), system.latest⟩ := by
  have detector : (sending.run state system.world).2.deduper =
      system.world.deduper :=
    keepsDetector_stage silent system.world
  rcases (sound.each id sending found).silent silent pong refused with
    ⟨own, same, checked, marked, barren⟩
  apply sound.replace (Nat.le_refl _)
  · intro told _ held
    rw [detector]
    exact held
  · rw [detector]
    exact own
  · intro named other one different otherFound otherContent
    rw [same] at named
    rcases sound.apart other id one sending different otherFound found
      otherContent named with before | after | none | none
    · rcases before with ⟨told, asked, first, second, apart⟩
      exact .inl ⟨told, asked, first, checked.trans second, apart⟩
    · rcases after with ⟨told, asked, first, second, apart⟩
      exact .inr (.inl ⟨told, asked, marked.trans first, second, apart⟩)
    · exact .inr (.inr (.inl none))
    · exact .inr (.inr (.inr (barren none)))

theorem Sends.Sound.checks (sound : system.Sound state content)
    (positive : 0 < state.dedupeWindowSecs) {id : Nat}
    (found : system.sends id = some sending)
    (stage : sending.stage = .checking opened)
    (later : system.latest ≤ system.world.time state)
    (alone : requestKey state sending.request opened.sender opened.body = content →
      ∀ other one, system.sends other = some one →
        one.content = some content → ¬one.stage.underWay) :
    Sends.Sound state content
      ⟨(sending.run state system.world).2, Function.update system.sends id
        (some (sending.after state system.world
          (sending.run state system.world).1)), system.world.time state⟩ := by
  have each := sound.each id sending found
  have unmarked : sending.marked = none := by
    by_contra marked
    rcases each.marked marked with ⟨response, ids, ended⟩
    rw [stage] at ended
    cases ended
  have ran := @checking_run state sending.key sending.request system.world
    opened positive
  rw [← stage] at ran
  change sending.run state system.world = _ at ran
  have keeps : ∀ marked ≤ system.latest,
      Held state content system.world.deduper system.latest marked →
        Held state content (system.world.deduper.purge
          (state.dedupeWindowSecs * 1000) (system.world.time state))
            (system.world.time state) marked :=
    fun marked past held => held_purge later past held
  cases duplicate : (system.world.deduper.purge (state.dedupeWindowSecs * 1000)
      (system.world.time state)).entries.any
        (·.1 == requestKey state sending.request opened.sender opened.body) with
  | true =>
      rw [duplicate, if_pos rfl] at ran
      rw [ran]
      apply sound.replace later keeps
      · refine ⟨nofun, each.checked, fun _ => .inr ⟨_, _, rfl⟩,
          fun marked => absurd unmarked marked, ?_, ?_⟩
        · intro _ answer ids same some
          cases same
          rw [stage] at some
          exact absurd rfl some
        · intro _ marked told
          exact nomatch unmarked.symm.trans told
      · intro _ other one _ _ _
        refine .inr (.inr (.inr ⟨.error (duplicateSend state.dedupeWindowSecs), ?_⟩))
        rw [Sending.after, stage]
        rfl
  | false =>
      rw [duplicate, if_neg Bool.false_ne_true] at ran
      have next : sending.after state system.world (.ok (.routing opened)) =
          { sending with
            stage := .routing opened
            content := some
              (requestKey state sending.request opened.sender opened.body)
            checked := some (system.world.time state) } := by
        rw [Sending.after, stage]
      rw [ran]
      dsimp only
      rw [next]
      apply sound.replace later keeps
      · refine ⟨fun own same => same, fun _ => nofun, fun _ => .inl trivial,
          fun marked => absurd unmarked marked, fun _ => nofun, ?_⟩
        intro _ marked told
        exact nomatch unmarked.symm.trans told
      · intro named other one different otherFound otherContent
        have same := Option.some.inj named
        have old := sound.each other one otherFound
        have ended := (old.passed (by rw [otherContent]; exact nofun)).resolve_left
          (alone same other one otherFound otherContent)
        rcases ended with ⟨answer, ids, ended⟩
        by_cases none : ids = []
        · rw [none] at ended
          exact .inr (.inr (.inl ⟨answer, ended⟩))
        · rcases Option.ne_none_iff_exists'.mp
            (old.complete otherContent answer ids ended none) with ⟨marked, told⟩
          have held := old.held otherContent marked told
          rcases keeps marked held.1 held.2 with ⟨entry, member, own, -⟩ | ended
          · rw [List.any_eq_false] at duplicate
            exact absurd (beq_iff_eq.mpr (own.trans same.symm))
              (duplicate entry member)
          · exact .inl ⟨marked, system.world.time state, told, rfl, ended⟩

theorem Sends.Sound.marks (sound : system.Sound state content)
    (positive : 0 < state.dedupeWindowSecs) {id : Nat}
    {plan : SendPlan} {first : String} {more : List String}
    (found : system.sends id = some sending)
    (stage : sending.stage = .marking plan (first :: more))
    (later : system.latest ≤ system.world.time state)
    (live : requestKey state sending.request plan.sender plan.body ≠ content →
      state.dedupeCapacity ≤ system.world.deduper.entries.length →
      system.world.deduper.oldest = some content →
      ∀ entry ∈ system.world.deduper.entries, entry.1 = content →
        entry.2.1 + state.dedupeWindowSecs * 1000 ≤ system.world.time state) :
    Sends.Sound state content
      ⟨(sending.run state system.world).2, Function.update system.sends id
        (some (sending.after state system.world
          (sending.run state system.world).1)), system.world.time state⟩ := by
  have each := sound.each id sending found
  have unmarked : sending.marked = none := by
    by_contra marked
    rcases each.marked marked with ⟨response, ids, ended⟩
    rw [stage] at ended
    cases ended
  have own : sending.content =
      some (requestKey state sending.request plan.sender plan.body) := by
    apply each.content
    rw [stage]
    rfl
  have ran := @marking_run state sending.key sending.request system.world plan
    positive first more
  rw [← stage] at ran
  change sending.run state system.world = _ at ran
  have next : sending.after state system.world
      (.ok (.ended (.ok ⟨.created, first, "queued"⟩) (first :: more))) =
      { sending with
        stage := .ended (.ok ⟨.created, first, "queued"⟩) (first :: more)
        marked := some (system.world.time state) } := by
    rw [Sending.after, stage]
  rw [ran]
  dsimp only
  rw [next]
  apply sound.replace later fun marked past held => held_mark later past live held
  · refine ⟨nofun, each.checked, fun _ => .inr ⟨_, _, rfl⟩,
      fun _ => ⟨_, _, rfl⟩, fun _ _ _ _ _ => nofun, ?_⟩
    intro named marked told
    rw [← Option.some.inj told]
    refine ⟨Nat.le_refl _, .inl ⟨(_, system.world.time state,
      system.world.deduper.seq + 1), ?_,
      Option.some.inj (own.symm.trans named), Nat.le_refl _⟩⟩
    exact List.mem_append_right _ (List.mem_singleton_self _)
  · intro named other one different otherFound otherContent
    rcases sound.apart other id one sending different otherFound found
      otherContent named with before | after | none | ⟨answer, ended⟩
    · exact .inl before
    · rcases after with ⟨marked, checked, told, -⟩
      exact nomatch unmarked.symm.trans told
    · exact .inr (.inr (.inl none))
    · rw [stage] at ended
      cases ended

theorem Sends.Sound.step (sound : system.Sound state content)
    (positive : 0 < state.dedupeWindowSecs) {event : SendEvent} {next : Sends}
    (moved : Guarded (Serial state content) (Sends.Steps state) system event next) :
    next.Sound state content := by
  rcases moved with ⟨serial, stepped⟩
  unfold Sends.Steps at stepped
  cases event with
  | arrive id key request =>
      simp only [Sends.step] at stepped
      split at stepped
      · cases stepped
      · rw [← Option.some.inj stepped]
        apply sound.replace (Nat.le_refl _) fun _ _ held => held
        · exact ⟨nofun, fun some => absurd rfl some, fun some => absurd rfl some,
            fun some => absurd rfl some, nofun, nofun⟩
        · exact nofun
  | advance id =>
      simp only [Sends.step] at stepped
      split at stepped
      · cases stepped
      · rename_i sending found
        rw [← Option.some.inj stepped]
        have serial := serial sending found
        cases asks : sending.stage.asks with
        | false =>
            apply sound.silent found asks
            · intro plan stage
              rw [stage] at serial
              exact serial
            · intro plan ids stage
              rw [stage] at serial
              exact serial
        | true =>
            cases stage : sending.stage with
            | checking opened =>
                rw [stage] at serial
                exact sound.checks positive found stage serial.1 serial.2
            | marking plan ids =>
                cases ids with
                | nil =>
                    rw [stage] at asks
                    cases asks
                | cons first more =>
                    rw [stage] at serial
                    exact sound.marks positive found stage serial.1 serial.2
            | _ =>
                rw [stage] at asks
                cases asks
  | elsewhere world =>
      simp only [Sends.step] at stepped
      rw [← Option.some.inj stepped]
      exact ⟨sound.each, sound.apart⟩

/-- Sends with one key are free of the race in every state of a run in which
they come one after the other. -/
theorem sends_raceFree (state : SendState) (positive : 0 < state.dedupeWindowSecs)
    (content : UInt64) {world : SendWorld} {events : List SendEvent}
    {last : Sends}
    (run : Run (Guarded (Serial state content) (Sends.Steps state)) (.start world)
      events last) : RaceFree state content last := by
  have initial : (Sends.start world).Sound state content :=
    ⟨fun _ _ found => (nomatch found), fun _ _ _ _ _ found => (nomatch found)⟩
  have sound : last.Sound state content :=
    run.invariant (fun _ _ _ sound moved => sound.step positive moved) initial
  exact sound.raceFree

/-- Duplicates are suppressed for ten minutes. -/
def dedupingSend : SendState :=
  { plainSend with
    dedupeWindowSecs := 600
    receiver := { Smtp.plainReceiver with
      env := { Smtp.plainReceiver.env with uuid := fun asked => toString asked } } }

/-! ## Runs on samples -/

instance : DecidablePred Stage.underWay
  | .opening | .checking _ | .ended _ _ => inferInstanceAs (Decidable False)
  | .routing _ | .outbound _ | .inbound _ _ | .noticing _ _ | .marking _ _ =>
      inferInstanceAs (Decidable True)

section Samples

variable (state : SendState) (key : UInt64) (ids : List Nat)

/-- Enough for `Serial`, of the sends that are listed. -/
def mayAdvance (system : Sends) (sending : Sending) : Bool :=
  match sending.stage with
  | .checking _ => decide (system.latest ≤ system.world.time state ∧
      ∀ other ∈ ids, ∀ one ∈ system.sends other,
        one.content = some key → ¬one.stage.underWay)
  | .outbound plan => !isPong plan.subject
  | .inbound plan _ => plan.internal.isEmpty
  | .marking plan _ => decide (system.latest ≤ system.world.time state ∧
      requestKey state sending.request plan.sender plan.body = key)
  | _ => true

def serialStep (system : Sends) (event : SendEvent) : Option Sends :=
  match event with
  | .arrive id _ _ => if id ∈ ids then system.step state event else none
  | .advance id =>
      if (system.sends id).all (mayAdvance state key ids system) then
        system.step state event
      else none
  | .elsewhere _ => none

variable {state key ids}

theorem serial_of_mayAdvance {system : Sends} {id : Nat}
    (absent : ∀ other, other ∉ ids → system.sends other = none)
    (may : (system.sends id).all (mayAdvance state key ids system) = true) :
    Serial state key system (.advance id) := by
  intro sending found
  rw [found, Option.all_some, mayAdvance] at may
  split
  · next stage =>
      rw [stage, decide_eq_true_eq] at may
      refine ⟨may.1, fun _ other one otherFound passed => ?_⟩
      by_cases listed : other ∈ ids
      · exact may.2 other listed one otherFound passed
      · exact nomatch (absent other listed).symm.trans otherFound
  · next stage =>
      rw [stage] at may
      change (!isPong _) = true at may
      intro _ pong
      rw [pong] at may
      cases may
  · next stage =>
      rw [stage] at may
      exact fun _ _ some => absurd (List.isEmpty_iff.mp may) some
  · next stage =>
      rw [stage, decide_eq_true_eq] at may
      exact ⟨may.1, fun other => absurd may.2 other⟩
  · trivial

theorem serialStep_spec {system next : Sends} {event : SendEvent}
    (absent : ∀ other, other ∉ ids → system.sends other = none)
    (moved : serialStep state key ids system event = some next) :
    Guarded (Serial state key) (Sends.Steps state) system event next ∧
      ∀ other, other ∉ ids → next.sends other = none := by
  cases event with
  | arrive id caller request =>
      rw [serialStep] at moved
      split at moved
      · next listed =>
          refine ⟨⟨trivial, moved⟩, fun other unlisted => ?_⟩
          have apart : other ≠ id := fun same => unlisted (same ▸ listed)
          rw [Sends.step] at moved
          split at moved
          · cases moved
          · cases moved
            simp only [Function.update_of_ne apart, absent other unlisted]
      · cases moved
  | advance id =>
      rw [serialStep] at moved
      split at moved
      · next may =>
          refine ⟨⟨serial_of_mayAdvance absent may, moved⟩,
            fun other unlisted => ?_⟩
          rw [Sends.step] at moved
          split at moved
          · cases moved
          · next sending found =>
              cases moved
              have apart : other ≠ id := by
                intro same
                rw [← same, absent other unlisted] at found
                cases found
              simp only [Function.update_of_ne apart, absent other unlisted]
      · cases moved
  | elsewhere world => cases moved

theorem serial_run {system last : Sends} {events : List SendEvent}
    (absent : ∀ other, other ∉ ids → system.sends other = none)
    (moved : events.foldlM (serialStep state key ids) system = some last) :
    Run (Guarded (Serial state key) (Sends.Steps state)) system events last := by
  induction events generalizing system with
  | nil =>
      cases moved
      exact .nil _
  | cons event rest induction =>
      rw [List.foldlM_cons, Option.bind_eq_bind, Option.bind_eq_some_iff] at moved
      rcases moved with ⟨next, taken, tail⟩
      have step := serialStep_spec absent taken
      exact .cons step.1 (induction step.2 tail)

end Samples

/-- The first send has ended when the second is checked, in one run with a
third, which arrives while the second is past its opening. -/
def oneChecked : List SendEvent :=
  .arrive 0 aliceKey helloPal :: List.replicate 7 (.advance 0) ++
    [.arrive 1 aliceKey helloPal, .advance 1, .arrive 2 aliceKey helloPal,
      .advance 1, .advance 2, .advance 2]

/-- The key, the times and the records of a send. -/
def outcomes (id : Nat) (system : Sends) :
    Option (Option UInt64 × Option Timestamp × Option Timestamp × List String) :=
  (system.sends id).map fun sending =>
    (sending.content, sending.checked, sending.marked, sending.stage.created)

/-- What a send has recorded, and when it was marked. -/
def traces (system : Sends) (id : Nat) : Option (List String × Option Timestamp) :=
  (system.sends id).map fun sending => (sending.stage.created, sending.marked)

/-- The first send is recorded, marked and ended, the others are refused. -/
theorem oneChecked_raceFree : ∃ last,
    Run (Guarded (Serial dedupingSend 0) (Sends.Steps dedupingSend))
      (.start aliceWorld) oneChecked last ∧ RaceFree dedupingSend 0 last ∧
      [0, 1, 2].map (traces last) =
        [some (["13"], some 0), some ([], none), some ([], none)] := by
  have seen : (oneChecked.foldlM (serialStep dedupingSend 0 [0, 1, 2])
      (.start aliceWorld)).map (fun last => [0, 1, 2].map (traces last)) =
        some [some (["13"], some 0), some ([], none), some ([], none)] := by
    decide +kernel
  rcases Option.map_eq_some_iff.mp seen with ⟨last, moved, recorded⟩
  have run := serial_run (fun _ _ => rfl) moved
  exact ⟨last, run, sends_raceFree dedupingSend (by decide) 0 run, recorded⟩

/-- Both sends pass the check before either is marked. -/
def bothChecked : List SendEvent :=
  [.arrive 0 aliceKey helloPal, .arrive 1 aliceKey helloPal, .advance 0,
    .advance 0, .advance 1, .advance 1] ++
    List.replicate 5 (.advance 0) ++ List.replicate 5 (.advance 1)

/-- Two identical sends at the same moment both create a record. -/
theorem bothChecked_race : ∃ last,
    Run (Sends.Steps dedupingSend) (.start aliceWorld) bothChecked last ∧
      ¬RaceFree dedupingSend 0 last := by
  have first : (bothChecked.foldlM (Sends.step dedupingSend)
      (.start aliceWorld)).map (outcomes 0) =
        some (some (some 0, some 0, some 0, ["15"])) := by
    decide +kernel
  have second : (bothChecked.foldlM (Sends.step dedupingSend)
      (.start aliceWorld)).map (outcomes 1) =
        some (some (some 0, some 0, some 0, ["30"])) := by
    decide +kernel
  rcases Option.map_eq_some_iff.mp first with ⟨last, ran, firstSeen⟩
  rw [ran] at second
  have secondSeen := Option.some.inj second
  rcases Option.map_eq_some_iff.mp firstSeen with ⟨one, oneFound, oneIs⟩
  rcases Option.map_eq_some_iff.mp secondSeen with ⟨two, twoFound, twoIs⟩
  rw [Prod.mk.injEq, Prod.mk.injEq, Prod.mk.injEq] at oneIs twoIs
  refine ⟨last, Run.of_foldlM (fun _ _ _ moved => moved) ran, ?_⟩
  intro free
  rcases free.once 0 1 one two (by decide) oneFound twoFound oneIs.1 twoIs.1
    (by rw [oneIs.2.2.2]; decide) (by rw [twoIs.2.2.2]; decide) with
      ⟨marked, checked, told, asked, apart⟩ | ⟨marked, checked, told, asked, apart⟩
  · rw [Option.some.inj (oneIs.2.2.1.symm.trans told).symm,
      Option.some.inj (twoIs.2.1.symm.trans asked).symm] at apart
    exact absurd apart (by decide)
  · rw [Option.some.inj (twoIs.2.2.1.symm.trans told).symm,
      Option.some.inj (oneIs.2.1.symm.trans asked).symm] at apart
    exact absurd apart (by decide)

end AimailGateway.Api
