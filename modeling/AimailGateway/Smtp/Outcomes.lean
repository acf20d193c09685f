import AimailGateway.Smtp.Commands

/-! # How the receiver's handlers end

What MAIL and RCPT make of the session, and which rows the end of the data
creates.
-/

namespace AimailGateway.Smtp

open Library Action

/-! ## RCPT -/

section Targets

variable (receiver : Receiver) (db : Database)

def rowNamed (domain : String) : Option SystemDomainRecord :=
  db.systemDomains.find? (·.domain == domain)

/-- The registration of the address, else that of the address without its
persona. -/
def registeredTarget (recipient : String) : Option Target :=
  let fullLower := receiver.env.tables.toLowercase recipient
  match rowNamed db fullLower with
  | some row => some (.ofRow row fullLower "")
  | none =>
      let stripped := Email.stripPersona receiver.env.tables recipient
      let baseLower := receiver.env.tables.toLowercase stripped.1
      if baseLower = fullLower then none
      else (rowNamed db baseLower).map fun row => .ofRow row baseLower stripped.2

/-- The system of a board: the recorded one, else its orchestrator's. -/
def boardSystem (addr : String) (recorded : Option String) : Option String :=
  match recorded.filter (· != "") with
  | some systemId => some systemId
  | none => do
      let email ← receiver.boards.orchestrator addr
      let row ← rowNamed db email
      if row.systemId = "" then none else some row.systemId

def boardTarget (recipient : String) : Option Target := do
  let domain ← Board.parseBoardEmail recipient
  let fullLower := receiver.env.tables.toLowercase recipient
  let recorded ← receiver.boards.registry fullLower
  let systemId ← boardSystem receiver db recipient recorded
  return ⟨recipient, fullLower, systemId, domain, ""⟩

def target (recipient : String) : Option Target :=
  if Board.isBoardAddress recipient then boardTarget receiver db recipient
  else registeredTarget receiver db recipient

end Targets

/-- The systems of the session once the target is resolved. A board's system
replaces the others. -/
def systemsAfter (recipient : String) (systems : Option String)
    (resolved : Target) : String :=
  if Board.isBoardAddress recipient then resolved.systemId
  else joinSystem systems resolved.systemId

/-- The session with the target's system and domain. -/
def Session.resolved (session : Session) (recipient : String)
    (resolved : Target) : Session :=
  { session with
    systemId := some (systemsAfter recipient session.systemId resolved)
    domain := some resolved.domain }

def Session.accepted (session : Session) (recipient : String)
    (resolved : Target) (verdict : Bool) : Session :=
  { session.resolved recipient resolved with
    persona := if resolved.persona = "" then session.persona
      else some resolved.persona
    senderWhitelisted := verdict
    recipients := session.recipients ++ [resolved.added] }

/-- A refused RCPT leaves the transaction as it was, but for the systems, the
domain and the persona. -/
structure Refused (receiver : Receiver) (db : Database) (recipient : String)
    (first last : Session) : Prop where
  sender : last.sender = first.sender
  recipients : last.recipients = first.recipients
  messageData : last.messageData = first.messageData
  senderWhitelisted : last.senderWhitelisted = first.senderWhitelisted
  domain : first.domain ≠ none → last.domain ≠ none
  systemId : last.systemId = first.systemId ∨
    ∃ resolved, target receiver db recipient = some resolved ∧
      last.systemId = some (systemsAfter recipient first.systemId resolved)

/-- The whitelist of the address answered so about the sender. -/
def Answered (receiver : Receiver) (db : Database) (addr sender : String)
    (verdict : Bool) : Prop :=
  ∃ tick, ((EnvFactory.checkWhitelisted receiver.env addr sender "from").run
    ⟨db, tick⟩).1 = .ok verdict

def Event.Opens (event : Event) : Prop :=
  event.accepted ∧ ∃ sender, event.command = .mail sender

def Event.Adds (receiver : Receiver) (event : Event) (resolved : Target) :
    Prop :=
  event.accepted ∧ ∃ recipient, event.command = .rcpt recipient ∧
    target receiver event.before.db recipient = some resolved

theorem Answered.verdict {receiver : Receiver} {db : Database}
    {addr sender : String} {verdict : Bool}
    (answered : Answered receiver db addr sender verdict) :
    verdict =
      EnvFactory.whitelistVerdict receiver.env db addr sender "from" := by
  rcases answered with ⟨tick, outcome⟩
  have ends : (EnvFactory.checkWhitelisted receiver.env addr sender
      "from").Ends (fun answer _ => answer =
        EnvFactory.whitelistVerdict receiver.env db addr sender "from")
      (fun _ _ => True) ⟨db, tick⟩ :=
    EnvFactory.checkWhitelisted_ends (fun _ _ _ => trivial) fun _ _ => rfl
  rw [ends_iff_run] at ends
  exact ends.1 verdict _ (Prod.ext outcome rfl)

section Outcomes

variable {receiver : Receiver} {session : Session} {world : World}
  {failed : Response → Connection → Prop} {ok : Unit → Connection → Prop}
  {recipient : String} {holds : EmailRecord → Prop}

theorem Refused.refl {db : Database} :
    Refused receiver db recipient session session :=
  ⟨rfl, rfl, rfl, rfl, id, .inl rfl⟩

theorem mail_ends {sender : String}
    (refused : ∀ response, failed response
      ⟨{ session with sender := some sender }, world.later⟩)
    (accepted : (∀ row ∈ world.db.systemDomains,
        row.domain ≠ Text.lastPiece '@' sender) →
      ok () ⟨{ session with sender := some sender }, world.later⟩) :
    (mail receiver sender).Ends ok failed ⟨session, world⟩ := by
  rw [mail, ends_bind, ends_update, ends_bind, ends_attempt, ends_onWorld]
  apply Storage.getSystemDomainByName_ends
  · exact fun _ => refused _
  · exact fun free => accepted free
  · exact fun _ _ _ => refused _

theorem rowNamed_ends {domain : String}
    {ok : Option SystemDomainRecord → World → Prop}
    {failed : AppError → World → Prop}
    (fault : ∀ error, failed error world.later)
    (answer : ok (rowNamed world.db domain) world.later) :
    (Storage.getSystemDomainByName receiver.env domain).Ends ok failed world :=
  query_ends fault answer

theorem acceptRegistration_ends {row : SystemDomainRecord}
    {addr persona : String}
    {ok : Target → World → Prop} {failed : Response → World → Prop}
    (refused : ∀ response, failed response world)
    (passed : ok (.ofRow row addr persona) world) :
    (acceptRegistration row addr persona).Ends ok failed world := by
  rw [acceptRegistration]
  split
  · exact refused _
  · exact passed

theorem resolveRecipient_ends
    {ok : Target → World → Prop} {failed : Response → World → Prop}
    (refused : AllowsFailure failed world)
    (passed : ∀ resolved later, later.db = world.db →
      registeredTarget receiver world.db recipient = some resolved →
      ok resolved later) :
    (resolveRecipient receiver recipient).Ends ok failed world := by
  rw [resolveRecipient, ends_bind, ends_attempt]
  apply rowNamed_ends
  · exact fun _ => refused _ _ rfl
  cases found : rowNamed world.db
      (receiver.env.tables.toLowercase recipient) with
  | some row =>
      apply acceptRegistration_ends
      · exact fun response => refused response _ rfl
      · refine passed _ _ rfl ?_
        simp only [registeredTarget, found]
  | none =>
      simp only
      split
      · exact refused _ _ rfl
      · next stripped =>
          rw [ends_bind, ends_attempt]
          apply rowNamed_ends
          · exact fun _ => refused _ _ rfl
          rw [World.later_db]
          cases base : rowNamed world.db (receiver.env.tables.toLowercase
              (Email.stripPersona receiver.env.tables recipient).1) with
          | some row =>
              apply acceptRegistration_ends
              · exact fun response => refused response _ rfl
              · refine passed _ _ rfl ?_
                simp only [registeredTarget, found, base, stripped, if_false,
                  Option.map_some]
          | none => exact refused _ _ rfl

theorem checkSender_ends {addr sender : String}
    (opened : session.sender = some sender)
    (refused : ∀ response later, later.db = world.db →
      failed response ⟨session, later⟩)
    (answered : ∀ verdict later, later.db = world.db →
      Answered receiver world.db addr sender verdict →
      ok () ⟨{ session with senderWhitelisted := verdict }, later⟩) :
    (checkSender receiver addr).Ends ok failed ⟨session, world⟩ := by
  rw [checkSender, ends_bind, ends_storedSender]
  simp only [opened, ends_bind, ends_attempt, ends_onWorld]
  have unchanged : (EnvFactory.checkWhitelisted receiver.env addr sender
      "from").Ends (fun _ later => later.db = world.db)
      (fun _ later => later.db = world.db) world :=
    EnvFactory.checkWhitelisted_ends (fun _ _ same => same)
      (fun _ same => same)
  rw [ends_iff_run] at unchanged ⊢
  constructor
  · intro verdict later ran
    refine answered verdict later (unchanged.1 verdict later ran)
      ⟨world.tick, ?_⟩
    exact congrArg Prod.fst ran
  · intro error later ran
    exact refused _ later (unchanged.2 error later ran)

theorem orchestratorSystem_ends {addr : String}
    {ok : Option String → World → Prop} {failed : ε → World → Prop}
    (unknown : ∀ later, later.db = world.db → ok none later)
    (known : ∀ email row later, later.db = world.db →
      receiver.boards.orchestrator addr = some email →
      rowNamed world.db email = some row → ok (some row.systemId) later) :
    (orchestratorSystem receiver addr).Ends ok failed world := by
  rw [orchestratorSystem]
  cases leader : receiver.boards.orchestrator addr with
  | none => exact unknown _ rfl
  | some email =>
      simp only [ends_bind, ends_attempt]
      apply rowNamed_ends
      · exact fun _ => unknown _ rfl
      cases found : rowNamed world.db email with
      | none => exact unknown _ rfl
      | some row => exact known email row _ rfl leader found

theorem resolveBoardRecipient_ends {ok : String × String → World → Prop}
    {failed : BoardAddrError → World → Prop}
    (refused : AllowsFailure failed world)
    (passed : ∀ systemId domain later, later.db = world.db →
      boardTarget receiver world.db recipient = some ⟨recipient,
        receiver.env.tables.toLowercase recipient, systemId, domain, ""⟩ →
      ok (systemId, domain) later) :
    (resolveBoardRecipient receiver recipient).Ends ok failed world := by
  rw [resolveBoardRecipient]
  cases form : Board.parseBoardEmail recipient with
  | none => exact refused _ _ rfl
  | some domain =>
      simp only
      cases entry : receiver.boards.registry
          (receiver.env.tables.toLowercase recipient) with
      | none => exact refused _ _ rfl
      | some recorded =>
          simp only
          cases owner : recorded.filter (· != "") with
          | some systemId =>
              refine passed systemId domain _ rfl ?_
              simp [boardTarget, form, entry, boardSystem, owner]
          | none =>
              simp only [ends_bind]
              apply orchestratorSystem_ends
              · exact fun later same => refused _ later same
              intro email row later same leader found
              simp only
              split
              · exact refused _ later same
              · next named =>
                  refine passed row.systemId domain later same ?_
                  simp [boardTarget, form, entry, boardSystem, owner, leader,
                    found, named]

theorem target_checked {db : Database}
    (board : Board.isBoardAddress recipient = false) :
    target receiver db recipient = registeredTarget receiver db recipient := by
  rw [target, board]
  rfl

/-- What RCPT does: a refused recipient is `Refused`, an accepted one is added
with the verdict of its own whitelist. -/
theorem rcpt_ends {recipient sender : String}
    (opened : session.sender = some sender)
    (refused : ∀ response last later, later.db = world.db →
      Refused receiver world.db recipient session last →
      failed response ⟨last, later⟩)
    (accepted : ∀ resolved verdict later, later.db = world.db →
      target receiver world.db recipient = some resolved →
      Answered receiver world.db resolved.checked sender verdict →
      ok () ⟨session.accepted recipient resolved verdict, later⟩) :
    (rcpt receiver recipient).Ends ok failed ⟨session, world⟩ := by
  rw [rcpt]
  cases board : Board.isBoardAddress recipient with
  | true =>
      simp only [if_true, rcptBoardAddr, ends_bind, ends_mapError, ends_onWorld,
        ends_update]
      apply resolveBoardRecipient_ends
      · exact fun error later same => refused _ _ _ same .refl
      intro systemId domain later same found
      have resolved : target receiver world.db recipient = some ⟨recipient,
          receiver.env.tables.toLowercase recipient, systemId, domain, ""⟩ := by
        rw [target, board]
        exact found
      apply checkSender_ends
      · exact opened
      · intro response last unchanged
        refine refused response _ _ (unchanged.trans same)
          ⟨rfl, rfl, rfl, rfl, fun _ => Option.some_ne_none _,
            .inr ⟨_, resolved, ?_⟩⟩
        simp only [systemsAfter, board, if_true]
      · intro verdict last unchanged answered
        rw [addRecipient, ends_update]
        have ended := accepted _ verdict last (unchanged.trans same) resolved
          (by rwa [← same])
        simpa only [Session.accepted, Session.resolved, systemsAfter, board,
          if_true] using ended
  | false =>
      simp only [Bool.false_eq_true, if_false, ends_bind, ends_onWorld]
      apply resolveRecipient_ends
      · exact fun response later same => refused _ _ _ same .refl
      intro resolved later same found
      have chosen : target receiver world.db recipient = some resolved := by
        rw [target_checked board]
        exact found
      have joined : joinSystem session.systemId resolved.systemId =
          systemsAfter recipient session.systemId resolved := by
        simp only [systemsAfter, board, Bool.false_eq_true, if_false]
      have checks : (checkSender receiver resolved.checked).Ends
          (fun _ next => (addRecipient resolved.added).Ends ok failed next)
          failed ⟨{ session.resolved recipient resolved with
            persona := if resolved.persona = "" then session.persona
              else some resolved.persona }, later⟩ := by
        apply checkSender_ends
        · exact opened
        · intro response last unchanged
          exact refused response _ _ (unchanged.trans same)
            ⟨rfl, rfl, rfl, rfl, fun _ => Option.some_ne_none _,
              .inr ⟨_, chosen, rfl⟩⟩
        · intro verdict last unchanged answered
          exact accepted _ verdict last (unchanged.trans same) chosen
            (by rwa [← same])
      rw [ends_update, joined, notePersona, ends_when]
      constructor
      · intro dynamic
        have named : resolved.persona ≠ "" := by simpa using dynamic
        simpa only [ends_update, Session.resolved, named, if_false] using checks
      · intro plain
        have unnamed : resolved.persona = "" := by simpa using plain
        simpa only [Session.resolved, unnamed, if_true] using checks

/-! ## The end of the data -/

/-- The text of the message: a line that does not fit is left out. -/
def collected (limit : Nat) (start : String) (chunks : List String) : String :=
  chunks.foldl (fun text chunk =>
    if limit < Text.byteLength text + Text.byteLength chunk then text
    else text ++ chunk) start

/-- The session once the lines of a message are in. -/
def Session.loaded (receiver : Receiver) (session : Session)
    (chunks : List String) : Session :=
  { session with
    messageData := collected receiver.config.maxMessageSize session.messageData
      chunks }

theorem data_loads {chunk : String} :
    ((data receiver chunk).run ⟨session, world⟩).2 =
      ⟨session.loaded receiver [chunk], world⟩ := by
  refine (@ends_settled _ _ _ _ _ (· = _)).mp ?_
  rw [data, ends_bind, ends_current]
  by_cases long : receiver.config.maxMessageSize <
      Text.byteLength session.messageData + Text.byteLength chunk
  · simp only [long, if_true, ends_fail, Session.loaded, collected,
      List.foldl_cons, List.foldl_nil]
  · simp only [long, if_false, ends_update, Session.loaded, collected,
      List.foldl_cons, List.foldl_nil]

theorem receiveData_ends {chunks : List String} :
    (receiveData receiver chunks).Ends ok failed ⟨session, world⟩ ↔
      (dataEnd receiver).Ends ok failed
        ⟨session.loaded receiver chunks, world⟩ := by
  induction chunks generalizing session with
  | nil => rfl
  | cons chunk rest induction =>
      rw [receiveData, ends_bind, ends_ignore, ends_settled, data_loads, induction]
      rfl

theorem receiveData_run {chunks : List String} :
    (receiveData receiver chunks).run ⟨session, world⟩ =
      (dataEnd receiver).run ⟨session.loaded receiver chunks, world⟩ := by
  have same : (receiveData receiver chunks).Ends
      (fun value last => (dataEnd receiver).run
        ⟨session.loaded receiver chunks, world⟩ = (.ok value, last))
      (fun response last => (dataEnd receiver).run
        ⟨session.loaded receiver chunks, world⟩ = (.error response, last))
      ⟨session, world⟩ := by
    rw [receiveData_ends, ends_iff_run]
    exact ⟨fun _ _ ran => ran, fun _ _ ran => ran⟩
  rw [ends_iff_run] at same
  rcases result : (receiveData receiver chunks).run ⟨session, world⟩ with
    ⟨response | value, last⟩
  · exact (same.2 response last result).symm
  · exact (same.1 value last result).symm

theorem receiveText_ends {lines : List String} :
    (receiveText receiver lines).Ends ok failed ⟨session, world⟩ ↔
      failed unanswered ⟨session.loaded receiver lines, world⟩ := by
  induction lines generalizing session with
  | nil => rfl
  | cons line rest induction =>
      rw [receiveText, ends_bind, ends_ignore, ends_settled, data_loads, induction]
      rfl

/-- What the session has ready for the end of the data. -/
def Session.pending (session : Session) : Option Pending :=
  match session.sender, session.systemId with
  | some sender, some systemId =>
      if session.recipients.isEmpty || session.domain.isNone then none
      else some ⟨sender, session.recipients, systemId, session.messageData,
        session.persona, session.senderWhitelisted⟩
  | _, _ => none

/-- What is ready is what the session holds. -/
structure Taken (session : Session) (pending : Pending) : Prop where
  sender : session.sender = some pending.sender
  systemId : session.systemId = some pending.systemId
  recipients : pending.recipients = session.recipients
  messageData : pending.messageData = session.messageData
  persona : pending.persona = session.persona
  senderWhitelisted : pending.senderWhitelisted = session.senderWhitelisted

theorem pending_taken {pending : Pending}
    (ready : session.pending = some pending) : Taken session pending := by
  rw [Session.pending] at ready
  split at ready
  · next sender systemId opened owned =>
      split at ready
      · cases ready
      · cases ready
        exact ⟨opened, owned, rfl, rfl, rfl, rfl⟩
  · cases ready

theorem takePending_ends {ok : Pending → Connection → Prop}
    (refused : session.pending = none →
      ∀ response last, failed response ⟨last, world⟩)
    (taken : ∀ pending last, session.pending = some pending →
      ok pending ⟨last, world⟩) :
    takePending.Ends ok failed ⟨session, world⟩ := by
  rw [takePending, ends_bind, ends_current]
  cases opened : session.sender with
  | none => exact refused (by simp [Session.pending, opened]) _ _
  | some sender =>
      simp only [ends_bind, ends_update]
      cases addressed : session.recipients.isEmpty with
      | true =>
          refine refused ?_ _ _
          cases system : session.systemId <;>
            simp [Session.pending, opened, system, addressed]
      | false =>
          simp only [Bool.false_eq_true, if_false]
          cases system : session.systemId with
          | none => exact refused (by simp [Session.pending, opened, system]) _ _
          | some systemId =>
              cases domain : session.domain.isNone with
              | true =>
                  exact refused
                    (by simp [Session.pending, opened, system, domain]) _ _
              | false =>
                  refine taken _ _ ?_
                  simp [Session.pending, opened, system, addressed, domain]

/-- The row the end of the data writes: the notification of a bounce, or the
message. -/
inductive Filed (receiver : Receiver) (pending : Pending) (row : EmailRecord) :
    Prop where
  | notice (blank : pending.sender = "")
      (owned : row.systemId = pending.systemId)
      (labelled : (row.headers.lookup "bounce_status").isSome)
  | message (named : pending.sender ≠ "") (headers : List MailHeader)
      (body : String) (attachments : Nat) (recipients : Recipients)
      (checked : checkMessage receiver pending none none =
        .ok (headers, body, attachments, recipients))
      (owned : row.systemId = primarySystem pending.systemId)
      (sent : row.sender = pending.sender)
      (delivered : row.recipients = recipients)
      (titled : row.subject = lastHeaderValue headers "subject")
      (labelled : row.headers = messageHeaders receiver pending headers)

/-- Every email created satisfies the property. -/
def Creates (holds : EmailRecord → Prop) (before after : World) : Prop :=
  ∀ row, Storage.Created before.db after.db row → holds row

theorem Creates.of_same {later : World}
    (same : later.db.emails = world.db.emails) : Creates holds world later :=
  fun _ created => (created.false_of_sameMails (.of_eq same)).elim

theorem Creates.of_insert {inserted : EmailRecord}
    {emails : Emails} {earlier middle later : World}
    (unchanged : earlier.db.emails = world.db.emails)
    (insertion : earlier.db.emails.insert? inserted = some emails)
    (stored : middle.db = { earlier.db with emails })
    (same : Storage.SameMails middle.db later.db)
    (origin : ∀ row, Storage.SameOrigin inserted row → holds row) :
    Creates holds world later := by
  intro row created
  rcases created.of_sameMails same with ⟨old, createdOld, sameOrigin⟩
  have createdSince : Storage.Created earlier.db { earlier.db with emails }
      old := by
    rw [← stored, Storage.Created, unchanged]
    exact createdOld
  have equal := createdSince.of_insert insertion
  subst equal
  exact origin row sameOrigin

theorem verifyBounce_ends {dsn : BounceDsn}
    {ok : Option String → World → Prop} {failed : ε → World → Prop}
    (verified : ∀ originalId later, later.db = world.db → ok originalId later) :
    (verifyBounce receiver dsn).Ends ok failed world := by
  rw [verifyBounce, ends_bind, ends_attempt]
  apply query_ends
  · exact fun _ => verified _ _ rfl
  · simp only [ends_bind, ends_now]
    exact verified _ _ rfl

theorem createBounceNotification_moves {dsn : BounceDsn}
    {systemId bounceRecipient originalId : String}
    (owned : ∀ row, row.systemId = systemId →
      (row.headers.lookup "bounce_status").isSome → holds row) :
    (createBounceNotification receiver dsn systemId bounceRecipient
      originalId : Action World ε Unit).Moves (Creates holds) := by
  rw [moves_iff_ends]
  intro world
  rw [createBounceNotification, ends_bind, ends_newUuid, ends_bind, ends_attempt]
  apply Storage.insertEmail_ends
  · intro _ later same
    exact Creates.of_same (by rw [same, World.later_db])
  · intro createdAt emails middle insertion stored
    have settles : (do
        (Storage.updateEmailCompleted receiver.env originalId).ignore
        (Storage.deleteEmail receiver.env originalId).ignore :
        Action World ε Unit).Moves (OnDb Storage.SameMails) := by
      apply Moves.bind
      · exact fun earlier later => Storage.SameMails.trans earlier later
      · exact Moves.ignore Storage.moves_updateEmailCompleted
      · exact fun _ => Moves.ignore Storage.moves_deleteEmail
    have keeps : ∀ last, OnDb Storage.SameMails middle last →
        Creates holds world last :=
      fun _ same => Creates.of_insert rfl insertion stored same
        fun row origin => owned row origin.systemId.symm (by
          rw [← origin.headers]
          rfl)
    rw [moves_iff_ends] at settles
    exact (settles middle).mono (fun _ => keeps) (fun _ => keeps)

theorem processBounce_moves {pending : Pending} (blank : pending.sender = "") :
    (processBounce receiver pending).Moves
      (Creates (Filed receiver pending)) := by
  rw [moves_iff_ends]
  intro world
  rw [processBounce]
  cases parseBounceDsn receiver.parser pending.messageData with
  | none => exact Creates.of_same rfl
  | some dsn =>
      simp only [ends_bind]
      apply verifyBounce_ends
      intro verified later same
      cases verified with
      | none => exact Creates.of_same (by rw [same])
      | some originalId =>
          have notified : (createBounceNotification receiver dsn
              pending.systemId (pending.recipients.headD "") originalId :
              Action World Response Unit).Moves
                (Creates (Filed receiver pending)) :=
            createBounceNotification_moves fun row owned labelled =>
              .notice blank owned labelled
          rw [moves_iff_ends] at notified
          simpa only [Creates, same] using notified later

theorem learnBoardMembers_ends {sender subject messageData : String}
    {ok : Unit → World → Prop} {failed : ε → World → Prop}
    (learnt : ∀ later, later.db.emails = world.db.emails → ok () later) :
    (learnBoardMembers receiver sender subject messageData).Ends ok failed
      world := by
  rw [learnBoardMembers]
  split
  · split
    · exact learnt _ rfl
    · rw [ends_when, ends_ignore]
      refine ⟨fun _ => ?_, fun _ => learnt _ rfl⟩
      apply call_ends
      · exact fun _ => learnt _ rfl
      · intro answer db outcome
        cases outcome
        exact learnt _ rfl
  · exact learnt _ rfl

theorem drawIds_ends {count : Nat}
    {ok : List String → World → Prop} {failed : ε → World → Prop}
    (drawn : ∀ ids later, later.db = world.db → ok ids later) :
    (drawIds receiver count).Ends ok failed world := by
  induction count generalizing world ok with
  | zero => exact drawn _ _ rfl
  | succ count induction =>
      rw [drawIds, ends_bind, ends_newUuid, ends_bind]
      exact induction fun ids later same => drawn _ later same

theorem processMessage_moves {pending : Pending}
    (named : pending.sender ≠ "") :
    (processMessage receiver pending none none).Moves
      (Creates (Filed receiver pending)) := by
  rw [moves_iff_ends]
  intro world
  rw [processMessage, ends_bind, ends_check]
  constructor
  · rintro ⟨headers, body, attachments, recipients⟩ checked
    rw [ends_bind]
    apply learnBoardMembers_ends
    intro taught unchanged
    rw [ends_bind, ends_newUuid, ends_bind]
    apply drawIds_ends
    intro ids earlier same
    have before : earlier.db.emails = world.db.emails := by
      rw [same]
      exact unchanged
    simp only [ends_bind, ends_mapError]
    apply Storage.insertEmail_ends
    · intro _ later kept
      exact Creates.of_same (by rw [kept, before])
    · intro createdAt emails middle insertion stored
      have files (last : World) (kept : OnDb Storage.SameMails middle last) :
          Creates (Filed receiver pending) world last :=
        Creates.of_insert before insertion stored kept fun row origin =>
          .message named headers body attachments recipients checked
            origin.systemId.symm origin.sender.symm origin.recipients.symm
            origin.subject.symm origin.headers.symm
      rw [ends_when, ends_ignore]
      constructor
      · intro _
        have saved : (Storage.updateEmailAttachments receiver.env
            (Storage.newEmail (receiver.env.uuid taught.tick)
              (primarySystem pending.systemId) .inbound pending.sender
              recipients (lastHeaderValue headers "subject") body none
              (messageHeaders receiver pending headers)
              receiver.config.maxAttempts createdAt).id
            (ids.filter receiver.saves)).Moves (OnDb Storage.SameMails) :=
          Storage.moves_updateEmailAttachments
        rw [moves_iff_ends] at saved
        exact (saved middle).mono (fun _ => files) (fun _ => files)
      · exact fun _ => files middle (Storage.SameMails.refl _)
  · exact fun _ _ => Creates.of_same rfl

theorem processPending_moves {pending : Pending} :
    (processPending receiver pending none none).Moves
      (Creates (Filed receiver pending)) := by
  rw [processPending]
  split
  · next blank => exact processBounce_moves blank
  · next named => exact processMessage_moves named

theorem dataEnd_ends (stopped : ∀ response last, failed response ⟨last, world⟩)
    (passed : ∀ pending outcome last later,
      checkDeferredWhitelist receiver session = .ok () →
      session.pending = some pending →
      (processPending receiver pending none none).run world =
        (outcome, later) →
      Creates (Filed receiver pending) world later →
      (∀ value, outcome = .ok value → ok value ⟨last, later⟩) ∧
        (∀ response, outcome = .error response →
          failed response ⟨last, later⟩)) :
    (dataEnd receiver).Ends ok failed ⟨session, world⟩ := by
  rw [dataEnd, ends_bind, ends_current, ends_bind, ends_check]
  constructor
  · intro _ gate
    rw [processDataEndPost, ends_bind]
    apply takePending_ends
    · exact fun _ => stopped
    · intro pending last ready
      have files : (processPending receiver pending none none).Moves
          (Creates (Filed receiver pending)) := processPending_moves
      have creates := files world
      rw [ends_onWorld, ends_iff_run]
      constructor
      · intro value later ran
        rw [ran] at creates
        exact (passed pending _ last later gate ready ran creates).1 value rfl
      · intro response later ran
        rw [ran] at creates
        exact (passed pending _ last later gate ready ran creates).2 response
          rfl
  · exact fun response _ => stopped response _

/-! ## Events -/

theorem handled_ends {handler : Handling Unit} {accepted : Phase}
    {refused : Response → Phase}
    {outcome : Except Response Unit} {next : Peer} {later : World}
    (ends : handler.Ends ok failed ⟨session, world⟩)
    (ran : handled handler accepted refused session world =
      (outcome, next, later)) :
    (outcome = .ok () ∧ next.phase = accepted ∧ ok () ⟨next.session, later⟩) ∨
      ∃ response, outcome = .error response ∧ next.phase = refused response ∧
        failed response ⟨next.session, later⟩ := by
  rw [ends_iff_run] at ends
  rw [handled] at ran
  rcases result : handler.run ⟨session, world⟩ with ⟨response | value, last⟩
  · rw [result] at ran
    cases ran
    exact .inr ⟨response, rfl, rfl, ends.2 response last result⟩
  · rw [result] at ran
    cases ran
    exact .inl ⟨rfl, rfl, ends.1 value last result⟩

structure MailServed (peer : Peer) (event : Event) (sender : String)
    (next : Peer) : Prop where
  unchanged : event.after.db = event.before.db
  session : next.session = { peer.session with sender := some sender }
  outcome : (event.accepted ∧ next.phase = .mail) ∨
    (¬ event.accepted ∧ next.phase = .idle)

structure RcptServed (receiver : Receiver) (peer : Peer) (event : Event)
    (recipient sender : String) (next : Peer) : Prop where
  unchanged : event.after.db = event.before.db
  outcome : (event.accepted ∧ next.phase = .rcpt ∧ ∃ resolved verdict,
      target receiver event.before.db recipient = some resolved ∧
      Answered receiver event.before.db resolved.checked sender verdict ∧
      next.session = peer.session.accepted recipient resolved verdict) ∨
    (¬ event.accepted ∧ next.phase = peer.phase ∧
      Refused receiver event.before.db recipient peer.session next.session)

structure DataServed (receiver : Receiver) (loaded : Session)
    (row : EmailRecord) : Prop where
  gate : checkDeferredWhitelist receiver loaded = .ok ()
  filed : ∃ pending, loaded.pending = some pending ∧ Filed receiver pending row

/-- Between MAIL and the message. -/
def Peer.Addressing (peer : Peer) : Prop :=
  peer.phase = .mail ∨ peer.phase = .rcpt

def Peer.message (peer : Peer) : Command → Option (List String)
  | .data chunks =>
      match peer.phase with
      | .rcpt => some chunks
      | .data => some (Command.data chunks).lines
      | _ => none
  | _ => none

/-- A message is read or the connection is over. -/
def Peer.Stuck (peer : Peer) : Prop :=
  peer.phase = .data ∨ peer.phase = .closed

/-- The end of the data. -/
structure MessageServed (receiver : Receiver) (peer : Peer) (event : Event)
    (text : List String) (next : Peer) : Prop where
  phase : next.phase = .idle ∨ next.Stuck
  systemId : next.session.systemId = peer.session.systemId
  creates : Creates (DataServed receiver (peer.session.loaded receiver text))
    event.before event.after

/-- What else a command can do. -/
structure Unserved (peer : Peer) (event : Event) (next : Peer) : Prop where
  refused : ¬ event.accepted
  unchanged : event.after = event.before
  phase : next.phase = peer.phase
  session : next = peer ∨ peer.phase = .data ∧
    next.session.systemId = peer.session.systemId

variable {peer next : Peer} {event : Event}

theorem Serves.mail {sender : String} (serves : Serves receiver peer event next)
    (command : event.command = .mail sender) (idle : peer.phase = .idle) :
    MailServed peer event sender next := by
  simp only [Serves, command, serve, idle] at serves
  have ends : (Smtp.mail receiver sender).Ends
      (fun _ last => last.world.db = event.before.db ∧
        last.session = { peer.session with sender := some sender })
      (fun _ last => last.world.db = event.before.db ∧
        last.session = { peer.session with sender := some sender })
      ⟨peer.session, event.before⟩ :=
    mail_ends (fun _ => ⟨rfl, rfl⟩) fun _ => ⟨rfl, rfl⟩
  rcases handled_ends ends serves with
    ⟨outcome, phase, unchanged, session⟩ |
    ⟨response, outcome, phase, unchanged, session⟩
  · exact ⟨unchanged, session, .inl ⟨outcome, phase⟩⟩
  · refine ⟨unchanged, session, .inr ⟨fun accepted => ?_, phase⟩⟩
    rw [Event.accepted, outcome] at accepted
    cases accepted

theorem Serves.rcpt {recipient sender : String}
    (serves : Serves receiver peer event next)
    (command : event.command = .rcpt recipient) (addressing : peer.Addressing)
    (opened : peer.session.sender = some sender) :
    RcptServed receiver peer event recipient sender next := by
  have runs : handled (Smtp.rcpt receiver recipient) .rcpt
      (fun _ => peer.phase) peer.session event.before =
      (event.outcome, next, event.after) := by
    rw [Serves, command] at serves
    rcases addressing with phase | phase <;>
      simpa only [serve, phase] using serves
  have ends : (Smtp.rcpt receiver recipient).Ends
      (fun _ last => last.world.db = event.before.db ∧ ∃ resolved verdict,
        target receiver event.before.db recipient = some resolved ∧
        Answered receiver event.before.db resolved.checked sender verdict ∧
        last.session = peer.session.accepted recipient resolved verdict)
      (fun _ last => last.world.db = event.before.db ∧
        Refused receiver event.before.db recipient peer.session last.session)
      ⟨peer.session, event.before⟩ :=
    rcpt_ends opened (fun _ _ _ same refused => ⟨same, refused⟩)
      fun resolved verdict _ same found answered =>
        ⟨same, resolved, verdict, found, answered, rfl⟩
  rcases handled_ends ends runs with
    ⟨outcome, phase, unchanged, added⟩ |
    ⟨response, outcome, phase, unchanged, refused⟩
  · exact ⟨unchanged, .inl ⟨outcome, phase, added⟩⟩
  · refine ⟨unchanged, .inr ⟨fun accepted => ?_, phase, refused⟩⟩
    rw [Event.accepted, outcome] at accepted
    cases accepted

theorem dataEnd_system (session : Session) (world : World) :
    (dataEnd receiver).Ends
      (fun _ last => last.session.systemId = session.systemId)
      (fun _ last => last.session.systemId = session.systemId)
      ⟨session, world⟩ := by
  have kept : ∀ pending last, last.systemId = session.systemId →
      (onWorld (processPending receiver pending none none) : Handling Unit).Ends
        (fun _ last => last.session.systemId = session.systemId)
        (fun _ last => last.session.systemId = session.systemId)
        ⟨last, world⟩ := by
    intro pending last same
    rw [ends_onWorld, ends_iff_run]
    exact ⟨fun _ _ _ => same, fun _ _ _ => same⟩
  rw [dataEnd, ends_bind, ends_current, ends_bind, ends_check]
  refine ⟨fun _ _ => ?_, fun _ _ => rfl⟩
  rw [processDataEndPost, ends_bind, takePending, ends_bind, ends_current]
  cases session.sender with
  | none => rfl
  | some sender =>
      simp only [ends_bind, ends_update]
      cases session.recipients.isEmpty with
      | true => rfl
      | false =>
          simp only [Bool.false_eq_true, if_false]
          cases system : session.systemId with
          | none => rfl
          | some systemId =>
              rw [system] at kept
              cases session.domain.isNone with
              | true => rfl
              | false => exact kept _ _ rfl

theorem Serves.receives {text : List String}
    (serves : Serves receiver peer event next)
    (command : peer.message event.command = some text) :
    handled (receiveData receiver text) .idle afterRefusal peer.session
      event.before = (event.outcome, next, event.after) := by
  rw [Serves] at serves
  cases sent : event.command with
  | data chunks =>
      rw [sent] at serves command
      rw [Peer.message] at command
      cases phase : peer.phase <;> rw [phase] at command <;> cases command <;>
        simpa only [serve, phase, Command.lines] using serves
  | _ =>
      rw [sent] at command
      cases command

theorem Serves.message {text : List String}
    (serves : Serves receiver peer event next)
    (command : peer.message event.command = some text) :
    MessageServed receiver peer event text next := by
  have runs := serves.receives command
  have ends : (receiveData receiver text).Ends
      (fun _ last => Creates
        (DataServed receiver (peer.session.loaded receiver text))
        event.before last.world)
      (fun _ last => Creates
        (DataServed receiver (peer.session.loaded receiver text))
        event.before last.world)
      ⟨peer.session, event.before⟩ := by
    rw [receiveData_ends]
    apply dataEnd_ends
    · exact fun _ _ => Creates.of_same rfl
    · intro pending outcome last later gate ready ran files
      have served : Creates
          (DataServed receiver (peer.session.loaded receiver text))
          event.before later :=
        fun row created => ⟨gate, pending, ready, files row created⟩
      exact ⟨fun _ _ => served, fun _ _ => served⟩
  have system : (receiveData receiver text).Ends
      (fun _ last => last.session.systemId = peer.session.systemId)
      (fun _ last => last.session.systemId = peer.session.systemId)
      ⟨peer.session, event.before⟩ := by
    rw [receiveData_ends]
    exact dataEnd_system _ _
  constructor
  · rcases handled_ends ends runs with ⟨_, phase, _⟩ | ⟨response, _, phase, _⟩
    · exact .inl phase
    · rw [afterRefusal] at phase
      split at phase
      · exact .inr (.inr phase)
      · exact .inr (.inl phase)
  · rcases handled_ends system runs with ⟨_, _, same⟩ | ⟨_, _, _, same⟩ <;>
      exact same
  · rcases handled_ends ends runs with ⟨_, _, creates⟩ | ⟨_, _, _, creates⟩ <;>
      exact creates

theorem Serves.reset (serves : Serves receiver peer event next)
    (command : event.command = .reset) (free : ¬ peer.Stuck) :
    next = { peer with phase := .idle } ∧ event.after = event.before := by
  rw [Peer.Stuck, not_or] at free
  have same : ((.ok (), { peer with phase := .idle }, event.before) :
      Except Response Unit × Peer × World) =
      (event.outcome, next, event.after) := by
    rw [Serves, command] at serves
    cases phase : peer.phase with
    | data => exact absurd phase free.1
    | closed => exact absurd phase free.2
    | _ => simpa only [serve, phase] using serves
  rw [Prod.mk.injEq, Prod.mk.injEq] at same
  exact ⟨same.2.1.symm, same.2.2.symm⟩

def Peer.Admits (peer : Peer) (command : Command) : Prop :=
  (peer.phase = .idle ∧ ∃ sender, command = .mail sender) ∨
    (peer.Addressing ∧ ∃ recipient, command = .rcpt recipient) ∨
    (∃ text, peer.message command = some text) ∨
    (¬ peer.Stuck ∧ command = .reset)

theorem Serves.unserved (serves : Serves receiver peer event next)
    (refused : ¬ peer.Admits event.command) : Unserved peer event next := by
  rcases event with ⟨command, before, outcome, after⟩
  rcases peer with ⟨phase, session⟩
  have nothing (response : Response)
      (same : (.error response, ⟨phase, session⟩, before) =
        (outcome, next, after)) :
      Unserved ⟨phase, session⟩ ⟨command, before, outcome, after⟩ next := by
    cases same
    refine ⟨fun accepted => ?_, rfl, rfl, .inl rfl⟩
    cases accepted
  have text (within : phase = .data)
      (ran : handled (receiveText receiver command.lines) .data
        (fun _ => .data) session before = (outcome, next, after)) :
      Unserved ⟨phase, session⟩ ⟨command, before, outcome, after⟩ next := by
    have ends : (receiveText receiver command.lines).Ends
        (fun _ _ => False)
        (fun _ last => last.world = before ∧
          last.session.systemId = session.systemId) ⟨session, before⟩ :=
      receiveText_ends.mpr ⟨rfl, rfl⟩
    rcases handled_ends ends ran with ⟨_, _, never⟩ |
      ⟨response, error, same, unchanged, system⟩
    · exact never.elim
    · refine ⟨fun accepted => ?_, unchanged, same.trans within.symm,
        .inr ⟨within, system⟩⟩
      rw [Event.accepted, error] at accepted
      cases accepted
  simp only [Serves, serve] at serves
  simp only [Peer.Admits, Peer.Addressing, Peer.Stuck, Peer.message,
    not_or] at refused
  cases phase with
  | closed => exact nothing unanswered serves
  | data =>
      cases command with
      | data chunks => exact absurd ⟨_, rfl⟩ refused.2.2.1
      | _ => exact text rfl serves
  | idle =>
      cases command with
      | mail sender => exact absurd ⟨rfl, _, rfl⟩ refused.1
      | reset => exact absurd ⟨by simp, rfl⟩ refused.2.2.2
      | _ => exact nothing badSequence serves
  | mail =>
      cases command with
      | rcpt recipient => exact absurd ⟨.inl rfl, _, rfl⟩ refused.2.1
      | reset => exact absurd ⟨by simp, rfl⟩ refused.2.2.2
      | _ => exact nothing badSequence serves
  | rcpt =>
      cases command with
      | rcpt recipient => exact absurd ⟨.inr rfl, _, rfl⟩ refused.2.1
      | data chunks => exact absurd ⟨_, rfl⟩ refused.2.2.1
      | reset => exact absurd ⟨by simp, rfl⟩ refused.2.2.2
      | _ => exact nothing badSequence serves

/-- Between MAIL and the message a sender is stored. -/
def Peer.Opened (peer : Peer) : Prop :=
  peer.Addressing → ∃ sender, peer.session.sender = some sender

theorem Peer.Addressing.free {peer : Peer} (addressing : peer.Addressing) :
    peer.phase ≠ .idle ∧ ¬ peer.Stuck := by
  rcases addressing with phase | phase <;> simp [Peer.Stuck, phase]

theorem Peer.Opened.step (opened : peer.Opened)
    (serves : Serves receiver peer event next) : next.Opened := by
  by_cases admits : peer.Admits event.command
  · rcases admits with ⟨idle, sender, command⟩ | ⟨addressing, recipient, command⟩ |
      ⟨text, command⟩ | ⟨free, command⟩
    · intro _
      exact ⟨sender, by rw [(serves.mail command idle).session]⟩
    · intro _
      rcases opened addressing with ⟨sender, stored⟩
      refine ⟨sender, ?_⟩
      rcases (serves.rcpt command addressing stored).outcome with
        ⟨_, _, resolved, verdict, _, _, session⟩ | ⟨_, _, refused⟩
      · rw [session]
        exact stored
      · rw [refused.sender]
        exact stored
    · intro addressing
      rcases (serves.message command).phase with idle | stuck
      · exact absurd idle addressing.free.1
      · exact absurd stuck addressing.free.2
    · intro addressing
      rw [(serves.reset command free).1] at addressing
      exact absurd rfl addressing.free.1
  · have unserved := serves.unserved admits
    intro addressing
    rcases unserved.session with same | ⟨within, _⟩
    · rw [same] at addressing ⊢
      exact opened addressing
    · exact absurd (.inl (unserved.phase.trans within)) addressing.free.2

theorem idle_step (serves : Serves receiver peer event next)
    (within : ¬ event.Opens) (idle : peer.phase = .idle) :
    next.phase = .idle := by
  by_cases admits : peer.Admits event.command
  · rcases admits with ⟨_, sender, command⟩ | ⟨addressing, _⟩ | ⟨text, command⟩ |
      ⟨free, command⟩
    · rcases (serves.mail command idle).outcome with ⟨accepted, _⟩ | ⟨_, phase⟩
      · exact absurd ⟨accepted, sender, command⟩ within
      · exact phase
    · exact absurd idle addressing.free.1
    · cases sent : event.command <;> rw [sent] at command <;>
        simp [Peer.message, idle] at command
    · rw [(serves.reset command free).1]
  · rw [(serves.unserved admits).phase, idle]

theorem idle_run {first last : Peer} {events : List Event}
    (run : Run (Serves receiver) first events last)
    (within : ∀ event ∈ events, ¬ event.Opens) (idle : first.phase = .idle) :
    last.phase = .idle := by
  induction run with
  | nil peer => exact idle
  | cons moved rest induction =>
      exact induction (fun event member =>
        within event (List.mem_cons_of_mem _ member))
        (idle_step moved (within _ List.mem_cons_self) idle)

end Outcomes

end AimailGateway.Smtp
