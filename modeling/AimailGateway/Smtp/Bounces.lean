import AimailGateway.Smtp.Outcomes

/-! # Which email a bounce touches

A bounce is verified against one email of the sender its embedded original
names. Of the emails there are, that one at most is changed, and the
notification is the only new one.
-/

namespace AimailGateway.Smtp

open Library Action

section Verified

variable (receiver : Receiver)

/-- The newest emails of the sender that the embedded original names. -/
def bounceCandidates (db : Database) (dsn : BounceDsn) : List EmailRecord :=
  ((db.emails.select fun row =>
    row.sender == dsn.originalFrom && row.direction == .outbound).mergeSort
      fun first second => second.createdAt ≤ first.createdAt).take 10

/-- The beginning of the window in which bounces are accepted. -/
def bounceCutoff (world : World) : Timestamp :=
  receiver.env.clock (world.tick + 1) -
    receiver.config.deliveryWindowSecs * 1000

def verifiedEmail (dsn : BounceDsn) (world : World) : Option EmailRecord :=
  if receiver.env.fault world.tick = none then
    (bounceCandidates world.db dsn).find?
      (bounceMatches receiver dsn (bounceCutoff receiver world))
  else none

/-- The insertion of the notification meets a storage fault or a taken id. -/
def RefusesNotice (world : World) : Prop :=
  Storage.RefusesEmail receiver.env
    ("bn-" ++ receiver.env.uuid (world.tick + 2)) ⟨world.db, world.tick + 3⟩

/-- The email that a bounce is about: it was delivered in time, and the message
the bounce returns names its sender, its subject up to case and blanks, and its
message id. -/
structure BouncedBy (dsn : BounceDsn) (cutoff : Timestamp) (row : EmailRecord) :
    Prop where
  outbound : row.direction = .outbound
  delivered : row.status = .delivered
  recent : cutoff ≤ row.lastSentAt
  sender : row.sender = dsn.originalFrom
  subject : receiver.env.tables.toLowercase (Text.trim row.subject) =
    receiver.env.tables.toLowercase (Text.trim dsn.originalSubject)
  identified : Text.trim dsn.origMessageId ≠ ""
  messageId : row.headers.lookup "message_id" =
    some (Text.trim dsn.origMessageId)

structure NotifiesSender (row notice : EmailRecord) : Prop where
  addressed : notice.recipients = ⟨[row.sender], [], [row.sender]⟩
  attributed : notice.systemId = row.systemId

end Verified

variable {receiver : Receiver} {dsn : BounceDsn} {world : World}
  {ok : Unit → World → Prop}
  {id : String}

theorem verifyBounce_answers {ok : Option String → World → Prop}
    {failed : ε → World → Prop}
    (unmatched : verifiedEmail receiver dsn world = none →
      ∀ later, later.db = world.db → ok none later)
    (matched : ∀ row, verifiedEmail receiver dsn world = some row →
      ok (some row.id) ⟨world.db, world.tick + 2⟩) :
    (verifyBounce receiver dsn).Ends ok failed world := by
  rw [verifyBounce, ends_bind, ends_attempt, Storage.findEmailsBySenderDirection,
    ends_query]
  constructor
  · intro fault failing
    refine unmatched ?_ _ rfl
    rw [verifiedEmail, if_neg]
    rw [failing]
    exact Option.some_ne_none fault
  · intro calm
    simp only [ends_bind, ends_now]
    have verified : verifiedEmail receiver dsn world =
        (bounceCandidates world.db dsn).find?
          (bounceMatches receiver dsn (bounceCutoff receiver world)) :=
      if_pos calm
    cases found : verifiedEmail receiver dsn world with
    | none =>
        rw [verified] at found
        have search : (Option.map EmailRecord.id
            ((bounceCandidates world.db dsn).find?
              (bounceMatches receiver dsn (bounceCutoff receiver world)))) =
            none := by
          rw [found]
          rfl
        exact search ▸ unmatched (by rw [verified, found]) _ rfl
    | some row =>
        have search : (Option.map EmailRecord.id
            ((bounceCandidates world.db dsn).find?
              (bounceMatches receiver dsn (bounceCutoff receiver world)))) =
            some row.id := by
          rw [← verified, found]
          rfl
        exact search ▸ matched row found

theorem bouncedBy_of_verified {row : EmailRecord}
    (verified : verifiedEmail receiver dsn world = some row) :
    row ∈ world.db.emails ∧
      (BouncedBy receiver dsn (bounceCutoff receiver world) row ↔
        Text.trim dsn.origMessageId ≠ "") := by
  rw [verifiedEmail] at verified
  split at verified
  · have chosen := List.find?_some verified
    have member := List.mem_of_mem_take (List.mem_of_find?_eq_some verified)
    rw [List.mem_mergeSort, Table.mem_select] at member
    simp only [Bool.and_eq_true, beq_iff_eq] at member
    simp only [bounceMatches, Bool.and_eq_true, beq_iff_eq,
      decide_eq_true_eq] at chosen
    rcases member with ⟨stored, sender, outbound⟩
    rcases chosen with ⟨⟨⟨delivered, recent⟩, subject⟩, messageId⟩
    refine ⟨stored, fun bounced => bounced.identified, fun identified =>
      ⟨outbound, delivered, recent, sender, subject, identified, ?_⟩⟩
    cases recorded : row.headers.lookup "message_id" with
    | none =>
        rw [recorded] at messageId
        exact absurd messageId.symm identified
    | some value =>
        rw [recorded] at messageId
        exact congrArg some messageId
  · cases verified

/-- Nothing but the rows with one id differs. -/
def OnlyEmail (id : String) (before after : Database) : Prop :=
  Table.ChangesOnly (fun row => row.id = id) before.emails after.emails ∧
    Storage.SameMails before after

theorem OnlyEmail.trans {first second third : Database}
    (earlier : OnlyEmail id first second) (later : OnlyEmail id second third) :
    OnlyEmail id first third :=
  ⟨earlier.1.trans later.1, earlier.2.trans later.2⟩

theorem OnlyEmail.refl (id : String) (db : Database) : OnlyEmail id db db :=
  ⟨.refl _ _, .refl db⟩

theorem moves_completeOnly :
    (Storage.updateEmailCompleted receiver.env id).Moves
      (OnDb (OnlyEmail id)) := by
  rw [Storage.updateEmailCompleted]
  refine Moves.bind ?_ (moves_now (OnlyEmail.refl id)) fun time => ?_
  · exact fun early late => early.trans late
  · rw [moves_iff_ends]
    intro before
    have unchanged {later : World} (same : later.db = before.db) :
        OnDb (OnlyEmail id) before later := by
      rw [OnDb, same]
      exact .refl id before.db
    apply Storage.changeEmail_ends
    · exact fun _ _ => unchanged
    · exact fun _ _ => unchanged
    · intro row _ _ emails later updated same
      rw [OnDb, same]
      refine ⟨Table.changesOnly_update? updated ?_ ?_, .of_update updated
        fun row => { Storage.SameOrigin.refl row with }⟩
      · exact fun row _ chosen => beq_iff_eq.mp chosen
      · exact fun row _ chosen => beq_iff_eq.mp chosen

theorem moves_deleteOnly :
    (Storage.deleteEmail receiver.env id).Moves (OnDb (OnlyEmail id)) := by
  rw [moves_iff_ends]
  intro before
  apply Storage.deleteEmail_ends
  · intro _ later same
    rw [OnDb, same]
    exact .refl id before.db
  · intro later same
    rw [OnDb, same]
    exact ⟨Table.changesOnly_delete fun row _ chosen => beq_iff_eq.mp chosen,
      .of_delete⟩

theorem settle_ends {failed : ε → World → Prop}
    (settled : ∀ next, OnlyEmail id world.db next.db → ok () next) :
    (do
      (Storage.updateEmailCompleted receiver.env id).ignore
      (Storage.deleteEmail receiver.env id).ignore :
      Action World ε Unit).Ends ok failed world := by
  have deleted {middle : World} (completed : OnlyEmail id world.db middle.db) :
      ((Storage.deleteEmail receiver.env id).ignore : Action World ε Unit).Ends
        ok failed middle := by
    rw [ends_ignore]
    exact (moves_iff_ends.mp moves_deleteOnly middle).mono
      (fun _ next only => settled next (completed.trans only))
      fun _ next only => settled next (completed.trans only)
  rw [ends_bind, ends_ignore]
  exact (moves_iff_ends.mp moves_completeOnly world).mono
    (fun _ _ => deleted) fun _ _ => deleted

structure IsNotification (receiver : Receiver) (systemId bounceRecipient : String)
    (row : EmailRecord) : Prop where
  systemId : row.systemId = systemId
  sender : row.sender = receiver.config.systemSender
  recipients : row.recipients = ⟨[bounceRecipient], [], [bounceRecipient]⟩

/-- The rows after a notification was stored: those before it, the notification,
and nothing else but for the bounced email. -/
structure Replaces (originalId : String) (notice : EmailRecord)
    (before after : Database) : Prop where
  fresh : ∀ old ∈ before.emails, old.id ≠ notice.id
  others : ∀ row, row.id ≠ originalId →
    (row ∈ after.emails ↔ row ∈ before.emails ∨ row = notice)
  origins : ∀ row ∈ after.emails, row.id = notice.id ∨
    ∃ old ∈ before.emails, old.id = row.id

theorem replaces_of_insert {originalId : String} {notice : EmailRecord}
    {db after : Database} {emails : Emails}
    (insertion : db.emails.insert? notice = some emails)
    (only : OnlyEmail originalId { db with emails } after) :
    Replaces originalId notice db after where
  fresh old member := by
    have apart := Table.conflict_false_of_insert? insertion old member
    simpa [EmailRecord.conflict] using apart
  others row foreign := by
    rw [← only.1 row foreign]
    exact Table.mem_of_insert? insertion
  origins row member := by
    rcases only.2 row member with ⟨old, present, origin⟩
    rcases (Table.mem_of_insert? insertion).mp present with before | new
    · exact .inr ⟨old, before, origin.id⟩
    · rw [new] at origin
      exact .inl origin.id.symm

theorem createBounceNotification_ends {systemId bounceRecipient originalId : String}
    {failed : ε → World → Prop}
    (refused : Storage.RefusesEmail receiver.env
        ("bn-" ++ receiver.env.uuid world.tick) world.later →
      ∀ next, next.db = world.db → ok () next)
    (created : ¬ Storage.RefusesEmail receiver.env
        ("bn-" ++ receiver.env.uuid world.tick) world.later →
      ∀ notice next, IsNotification receiver systemId bounceRecipient notice →
      Replaces originalId notice world.db next.db → ok () next) :
    (createBounceNotification receiver dsn systemId bounceRecipient originalId :
      Action World ε Unit).Ends ok failed world := by
  rw [createBounceNotification, ends_bind, ends_newUuid, ends_bind, ends_attempt]
  refine Storage.insertEmail_settles ?_ fun accepted createdAt emails insertion => ?_
  · exact fun refuses _ => refused refuses _ rfl
  · refine settle_ends fun next only => ?_
    refine created accepted _ next ?_ (replaces_of_insert insertion only)
    exact ⟨rfl, rfl, rfl⟩

theorem processBounce_ends {pending : Pending}
    {failed : Response → World → Prop}
    (parsed : parseBounceDsn receiver.parser pending.messageData = some dsn)
    (unmatched : verifiedEmail receiver dsn world = none →
      ∀ next, next.db = world.db → ok () next)
    (refused : ∀ row, verifiedEmail receiver dsn world = some row →
      RefusesNotice receiver world → ∀ next, next.db = world.db → ok () next)
    (created : ∀ row, verifiedEmail receiver dsn world = some row →
      ¬ RefusesNotice receiver world → ∀ notice next,
      IsNotification receiver pending.systemId (pending.recipients.headD "")
        notice →
      Replaces row.id notice world.db next.db → ok () next) :
    (processBounce receiver pending).Ends ok failed world := by
  rw [processBounce, parsed]
  simp only
  rw [ends_bind]
  apply verifyBounce_answers
  · exact unmatched
  · intro row verified
    apply createBounceNotification_ends
    · exact refused row verified
    · exact created row verified

/-! ## Bounces that touch only what they are about -/

/-- What a bounce may do: without an email to be about, nothing; else it is
that email that changes, and the notification goes to its sender in its
system. -/
structure Contained (receiver : Receiver) (dsn : BounceDsn) (world : World)
    (after : Database) : Prop where
  unmatched : verifiedEmail receiver dsn world = none →
    after.emails = world.db.emails
  matched : ∀ row, verifiedEmail receiver dsn world = some row →
    BouncedBy receiver dsn (bounceCutoff receiver world) row
  others : ∀ row, verifiedEmail receiver dsn world = some row →
    ∀ old ∈ world.db.emails, old.id ≠ row.id → old ∈ after.emails
  notices : ∀ row, verifiedEmail receiver dsn world = some row →
    ∀ notice, Storage.Created world.db after notice → NotifiesSender row notice

/-- The email a bounce is verified against has the message id that the bounce
names, and the bounce came to its sender, in its system, if the notification is
stored. -/
def RightlyAddressed (receiver : Receiver) (pending : Pending) (dsn : BounceDsn)
    (world : World) : Prop :=
  ∀ row, verifiedEmail receiver dsn world = some row →
    Text.trim dsn.origMessageId ≠ "" ∧
      (RefusesNotice receiver world ∨
        pending.recipients.headD "" = row.sender ∧
          pending.systemId = row.systemId)

theorem Replaces.eq_of_created {originalId : String} {notice row : EmailRecord}
    {before after : Database} (replaces : Replaces originalId notice before after)
    (known : ∃ original ∈ before.emails, original.id = originalId) :
    Storage.Created before after row ↔ row = notice := by
  rcases known with ⟨original, member, same⟩
  constructor
  · rintro ⟨present, fresh⟩
    have foreign : row.id ≠ originalId := by
      rw [← same]
      exact (fresh original member).symm
    rcases (replaces.others row foreign).mp present with old | new
    · exact absurd rfl (fresh row old)
    · exact new
  · intro new
    have foreign : row.id ≠ originalId := by
      rw [new, ← same]
      exact (replaces.fresh original member).symm
    refine ⟨(replaces.others row foreign).mpr (.inr new), ?_⟩
    rw [new]
    exact replaces.fresh

/-- A bounce touches only the email it is about exactly when it is rightly
addressed. -/
theorem bounce_contained_iff (receiver : Receiver) (pending : Pending)
    (dsn : BounceDsn) (world : World) (bounce : pending.sender = "")
    (parsed : parseBounceDsn receiver.parser pending.messageData = some dsn) :
    Contained receiver dsn world
        ((processPending receiver pending none none).run world).2.db ↔
      RightlyAddressed receiver pending dsn world := by
  have ends : (processBounce receiver pending).Ends
      (fun _ next => Contained receiver dsn world next.db ↔
        RightlyAddressed receiver pending dsn world)
      (fun _ next => Contained receiver dsn world next.db ↔
        RightlyAddressed receiver pending dsn world) world := by
    apply processBounce_ends parsed
    · intro none next same
      have nothing (row : EmailRecord) :
          verifiedEmail receiver dsn world ≠ some row := by
        rw [none]
        exact (Option.some_ne_none row).symm
      refine ⟨fun _ row verified => absurd verified (nothing row), fun _ =>
        ⟨fun _ => by rw [same], fun row verified => absurd verified (nothing row),
          fun row verified => absurd verified (nothing row),
          fun row verified => absurd verified (nothing row)⟩⟩
    · intro row verified refuses next same
      have bounced := (bouncedBy_of_verified verified).2
      have only {other : EmailRecord}
          (again : verifiedEmail receiver dsn world = some other) :
          other = row := Option.some.inj (again.symm.trans verified)
      constructor
      · intro contained other again
        rw [only again]
        exact ⟨bounced.mp (contained.matched row verified), .inl refuses⟩
      · intro right
        have identified := (right row verified).1
        refine ⟨fun none => absurd (none.symm.trans verified) nofun, ?_, ?_, ?_⟩
        · intro other again
          rw [only again]
          exact bounced.mpr identified
        · intro other _ old member _
          rw [same]
          exact member
        · intro other _ notice created
          rw [same] at created
          exact absurd rfl (created.2 notice created.1)
    · intro row verified accepts notice next isNotice replaces
      have bounced := bouncedBy_of_verified verified
      have only {other : EmailRecord}
          (again : verifiedEmail receiver dsn world = some other) :
          other = row := Option.some.inj (again.symm.trans verified)
      have created (other : EmailRecord) :
          Storage.Created world.db next.db other ↔ other = notice :=
        replaces.eq_of_created ⟨row, bounced.1, rfl⟩
      have notifies : NotifiesSender row notice ↔
          pending.recipients.headD "" = row.sender ∧
            pending.systemId = row.systemId := by
        constructor
        · rintro ⟨addressed, attributed⟩
          rw [isNotice.recipients] at addressed
          rw [isNotice.systemId] at attributed
          injection addressed with headers
          exact ⟨(List.cons.inj headers).1, attributed⟩
        · rintro ⟨addressed, attributed⟩
          refine ⟨?_, isNotice.systemId.trans attributed⟩
          rw [isNotice.recipients, addressed]
      constructor
      · intro contained other again
        rw [only again]
        exact ⟨bounced.2.mp (contained.matched row verified),
          .inr (notifies.mp (contained.notices row verified notice
            ((created notice).mpr rfl)))⟩
      · intro right
        have rightly := right row verified
        refine ⟨fun none => absurd (none.symm.trans verified) nofun, ?_, ?_, ?_⟩
        · intro other again
          rw [only again]
          exact bounced.2.mpr rightly.1
        · intro other again old member foreign
          rw [only again] at foreign
          exact (replaces.others old foreign).mpr (.inl member)
        · intro other again new stored
          rw [only again, (created new).mp stored]
          exact notifies.mpr (rightly.2.resolve_left accepts)
  rw [processPending, if_pos bounce]
  exact ends.after

/-! ## The notification -/

theorem notice_of_created {pending : Pending} {row : EmailRecord}
    (bounce : pending.sender = "")
    (created : Storage.Created world.db
      ((processPending receiver pending none none).run world).2.db row) :
    row.recipients = ⟨[pending.recipients.headD ""], [],
      [pending.recipients.headD ""]⟩ := by
  have ends : (processBounce receiver pending).Ends
      (fun _ next => ∀ row, Storage.Created world.db next.db row →
        row.recipients = ⟨[pending.recipients.headD ""], [],
          [pending.recipients.headD ""]⟩)
      (fun _ next => ∀ row, Storage.Created world.db next.db row →
        row.recipients = ⟨[pending.recipients.headD ""], [],
          [pending.recipients.headD ""]⟩) world := by
    have unchanged {next : World} (same : next.db = world.db) (row : EmailRecord)
        (created : Storage.Created world.db next.db row) :
        row.recipients = ⟨[pending.recipients.headD ""], [],
          [pending.recipients.headD ""]⟩ := by
      rw [same] at created
      exact absurd rfl (created.2 row created.1)
    cases parsed : parseBounceDsn receiver.parser pending.messageData with
    | none =>
        rw [processBounce, parsed]
        exact unchanged rfl
    | some dsn =>
        apply processBounce_ends parsed
        · exact fun _ next => unchanged
        · exact fun _ _ _ next => unchanged
        · intro original verified _ notice next isNotice replaces row created
          have known := (bouncedBy_of_verified verified).1
          rw [(replaces.eq_of_created ⟨original, known, rfl⟩).mp created]
          exact isNotice.recipients
  rw [processPending, if_pos bounce] at created
  exact ends.after row created

/-- A parser that takes one message for a bounce of a mail of
`alice@a.test`. -/
def bounceParser : MailParser :=
  { plainParser with
    parseMail := fun message =>
      if message = "bounce" then
        some (.part "multipart/report" [] none none [
          .part "message/delivery-status" [] (some "Status: 5.1.1") none [],
          .part "message/rfc822" [] none
            (some "From: alice@a.test\nSubject: hello\nMessage-ID: <m1@a.test>\n")
            []])
      else plainParser.parseMail message }

def bounceReceiver : Receiver := { plainReceiver with parser := bounceParser }

def returnedMail : BounceDsn where
  originalFrom := "alice@a.test"
  originalTo := ""
  originalSubject := "hello"
  origMessageId := "<m1@a.test>"
  dsnStatus := "5.1.1"
  dsnDiagnostic := ""

/-- The mail of `alice@a.test`, as it was delivered. -/
def deliveredMail : EmailRecord :=
  { Storage.newEmail "m1" "sys-a" .outbound "alice@a.test"
      ⟨["pal@c.test"], [], ["pal@c.test"]⟩ "hello" "hi" none
      [("message_id", "<m1@a.test>")] 3 0 with status := .delivered }

def afterDelivery : World :=
  World.start { Database.empty with emails := ⟨[deliveredMail], by decide⟩ }

def bounceTo (recipient systemId : String) : Pending where
  sender := ""
  recipients := [recipient]
  systemId := systemId
  messageData := "bounce"
  persona := none
  senderWhitelisted := false

theorem verified_deliveredMail :
    verifiedEmail bounceReceiver returnedMail afterDelivery =
      some deliveredMail := by
  decide +kernel

/-- A bounce that comes to the sender of the mail. -/
theorem bounce_contained_alice :
    Contained bounceReceiver returnedMail afterDelivery
      ((processPending bounceReceiver (bounceTo "alice@a.test" "sys-a") none
        none).run afterDelivery).2.db := by
  refine (bounce_contained_iff bounceReceiver (bounceTo "alice@a.test" "sys-a")
    returnedMail afterDelivery rfl (by decide +kernel)).mpr ?_
  intro row verified
  rw [verified_deliveredMail] at verified
  cases verified
  exact ⟨by decide, .inr ⟨rfl, rfl⟩⟩

/-- A bounce of the same mail that comes to an agent of another system. -/
theorem bounce_redirected :
    ¬ ∀ (receiver : Receiver) (pending : Pending) (dsn : BounceDsn)
      (world : World), pending.sender = "" →
      parseBounceDsn receiver.parser pending.messageData = some dsn →
      Contained receiver dsn world
        ((processPending receiver pending none none).run world).2.db := by
  intro claimed
  have contained := claimed bounceReceiver (bounceTo "bob@b.test" "sys-b")
    returnedMail afterDelivery rfl (by decide +kernel)
  have stored : (((processPending bounceReceiver (bounceTo "bob@b.test" "sys-b")
      none none).run afterDelivery).2.db.emails.rows.map fun row =>
        (row.id, row.systemId, row.recipients.rcpt)) =
      [("bn-0123456789abcdef", "sys-b", ["bob@b.test"])] := by decide +kernel
  rcases List.map_eq_singleton_iff.mp stored with ⟨notice, rows, fields⟩
  have created : Storage.Created afterDelivery.db
      ((processPending bounceReceiver (bounceTo "bob@b.test" "sys-b") none
        none).run afterDelivery).2.db notice := by
    constructor
    · rw [← Table.mem_rows, rows]
      exact List.mem_singleton_self notice
    · intro old member
      have known : old = deliveredMail := List.mem_singleton.mp member
      rw [known, (Prod.mk.inj fields).1]
      decide
  have notifies := contained.notices deliveredMail verified_deliveredMail notice
    created
  have attributed := notifies.attributed
  rw [(Prod.mk.inj (Prod.mk.inj fields).2).1] at attributed
  exact absurd attributed (by decide)

end AimailGateway.Smtp
