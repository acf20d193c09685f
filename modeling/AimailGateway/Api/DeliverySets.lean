import AimailGateway.Api.SendRecords
import AimailGateway.Email.Recipients
import AimailGateway.Smtp.Bounces
import AimailGateway.Smtp.Filing

/-! # Whom each record is delivered to

Every record a send or an SMTP message creates is meant for certain targets,
and `Recipients.delivery` answers them. A record without delivery targets falls
back to what it shows.
-/

namespace AimailGateway.Api

open Library Action

/-! ## The records of a send -/

variable {state : SendState} {key : ApiKeyRecord} {request : SendEmailRequest}
  {plan : SendPlan} {merged inbound : HeaderMap} {world planned : SendWorld}

structure IsPongRecord (plan : SendPlan) (row : EmailRecord) : Prop where
  direction : row.direction = .inbound
  recipients : row.recipients = ⟨[plan.sender], [], [plan.sender]⟩

inductive SendRecord (plan : SendPlan) (row : EmailRecord) : Prop where
  | outbound (kind : IsOutbound plan row)
  | inbound (kind : IsInbound plan row)
  | notice (kind : IsNotice plan row)
  | pong (kind : IsPongRecord plan row)

/-- Only such records are new. -/
def CreatesOnly (plan : SendPlan) (before after : SendWorld) : Prop :=
  ∀ row ∈ after.main.db.emails,
    row ∈ before.main.db.emails ∨ SendRecord plan row

theorem CreatesOnly.trans {first second third : SendWorld}
    (early : CreatesOnly plan first second)
    (late : CreatesOnly plan second third) : CreatesOnly plan first third :=
  fun row member => (late row member).elim (early row) .inr

theorem CreatesOnly.of_db {before after : SendWorld}
    (same : after.main.db = before.main.db) : CreatesOnly plan before after := by
  intro row member
  rw [same] at member
  exact .inl member

theorem CreatesOnly.of_inserted {row : EmailRecord} {before after : SendWorld}
    (inserted : Inserted row before after) (kind : SendRecord plan row) :
    CreatesOnly plan before after := by
  intro other member
  rcases (inserted.rows other).mp member with old | new
  · exact .inl old
  · rw [new]
    exact .inr kind

theorem filePong_creates {recipient : String} :
    (filePong state plan merged recipient).Moves (CreatesOnly plan) := by
  rw [moves_iff_ends]
  intro before
  rw [filePong, ends_bind, ends_onDatabase, ends_newUuid, ends_bind,
    ends_onDatabase, ends_mapError]
  refine Storage.insertEmail_settles ?_ fun _ createdAt emails insertion => ?_
  · exact fun _ _ => .of_db rfl
  · rw [ends_pure]
    refine .of_inserted (inserted_of_insert? insertion ?_) (.pong ⟨?_, ?_⟩)
    · rfl
    · rfl
    · rfl

theorem fileOutbound_creates :
    (fileOutbound state plan merged).Moves (CreatesOnly plan) := by
  rw [moves_iff_ends]
  intro before
  apply fileOutbound_ends
  · exact fun _ => .of_db rfl
  · exact fun _ _ _ _ same => .of_db same.db
  · exact fun _ _ _ _ kind _ _ inserted _ =>
      .of_inserted inserted (.outbound kind)

theorem fileInbound_creates :
    (fileInbound state plan inbound).Moves (CreatesOnly plan) := by
  rw [moves_iff_ends]
  intro before
  apply fileInbound_ends
  · exact fun _ => .of_db rfl
  · exact fun _ _ _ _ same => .of_db same.db
  · exact fun _ _ _ _ kind _ _ inserted =>
      .of_inserted inserted (.inbound kind)

theorem notifySender_creates {addrs : List String} {subject body : String} :
    (notifySender state plan addrs subject body).Moves (CreatesOnly plan) := by
  rw [moves_iff_ends]
  intro before
  exact notifySender_ends fun next notified row member =>
    (notified.added row member).imp_right .notice

theorem markSent_creates {sender body : String} :
    (markSent state request sender body).Moves (CreatesOnly plan) := by
  rw [moves_iff_ends]
  intro before
  exact markSent_ends fun next same => .of_db same

theorem fileMail_creates :
    (fileMail state request plan merged inbound).Moves (CreatesOnly plan) := by
  have step {α β : Type} {action : Send α} {rest : α → Send β}
      (first : action.Moves (CreatesOnly plan))
      (others : ∀ value, (rest value).Moves (CreatesOnly plan)) :
      (action >>= rest).Moves (CreatesOnly plan) := by
    refine Moves.bind ?_ first others
    exact fun early late => early.trans late
  rw [fileMail]
  refine step fileOutbound_creates fun outboundIds =>
    step fileInbound_creates fun inboundIds =>
    step notifySender_creates fun _ => step notifySender_creates fun _ => ?_
  split
  · exact fun _ => .of_db rfl
  · exact step markSent_creates fun _ _ => .of_db rfl

theorem sendRecord_of_created {row : EmailRecord}
    (created : Storage.Created world.main.db
      ((sendEmailCore state key request).run world).2.main.db row) :
    ∃ plan planned, (planSend state key request).run world =
      (.ok plan, planned) ∧ SendRecord plan row := by
  have ends : (sendEmailCore state key request).Ends
      (fun _ next => Storage.Created world.main.db next.main.db row →
        ∃ plan planned, (planSend state key request).run world =
          (.ok plan, planned) ∧ SendRecord plan row)
      (fun _ next => Storage.Created world.main.db next.main.db row →
        ∃ plan planned, (planSend state key request).run world =
          (.ok plan, planned) ∧ SendRecord plan row) world := by
    have found {plan : SendPlan} {planned next : SendWorld}
        (ran : (planSend state key request).run world = (.ok plan, planned))
        (kept : NothingCreated world planned)
        (creates : CreatesOnly plan planned next)
        (created : Storage.Created world.main.db next.main.db row) :
        ∃ plan planned, (planSend state key request).run world =
          (.ok plan, planned) ∧ SendRecord plan row := by
      rcases creates row created.1 with old | kind
      · rw [kept.db] at old
        exact absurd rfl (created.2 row old)
      · exact ⟨plan, planned, ran, kind⟩
    apply sendEmailCore_ends
    · intro _ next _ same created
      rw [same.db] at created
      exact absurd rfl (created.2 row created.1)
    · intro plan planned recipient rest ran kept _ _
      exact (moves_iff_ends.mp filePong_creates planned).mono
        (fun _ _ => found ran kept) fun _ _ => found ran kept
    · intro plan planned inbound ran kept _
      exact (moves_iff_ends.mp fileMail_creates planned).mono
        (fun _ _ => found ran kept) fun _ _ => found ran kept
  exact ends.after created

/-! ## Delivery sets -/

/-- A record reaches its targets and nobody else. One without targets may
name boards, which are delivered to by their commands. -/
structure DeliversTo (recipients : Recipients) (isTarget : String → Prop) :
    Prop where
  all : ∀ addr, isTarget addr → addr ∈ recipients.delivery
  only : ∀ addr ∈ recipients.delivery, isTarget addr ∨
    (∀ other, ¬ isTarget other) ∧ Board.isBoardAddress addr = true

theorem deliversTo_rcpt {toAddrs cc rcpt : List String} (some : rcpt ≠ []) :
    DeliversTo ⟨toAddrs, cc, rcpt⟩ (· ∈ rcpt) := by
  have delivery : (⟨toAddrs, cc, rcpt⟩ : Recipients).delivery = rcpt := by
    rw [Recipients.delivery, if_neg]
    rwa [List.isEmpty_iff]
  constructor
  · intro addr member
    rw [delivery]
    exact member
  · intro addr member
    rw [delivery] at member
    exact .inl member

theorem deliversTo_one {recipients : Recipients} {addr : String}
    (one : recipients.delivery = [addr]) :
    DeliversTo recipients (· = addr) := by
  constructor
  · intro other target
    rw [one, target]
    exact List.mem_singleton_self _
  · intro other member
    rw [one] at member
    exact .inl (List.mem_singleton.mp member)

/-- The agents among the internal recipients. -/
def SendPlan.agents (plan : SendPlan) : List String :=
  plan.internal.filter fun addr => !Board.isBoardAddress addr

/-- What a record is meant for: the external recipients, the agents among the
internal ones, or the sender. -/
inductive MeantFor (plan : SendPlan) (row : EmailRecord) : Prop where
  | external (kind : IsOutbound plan row)
      (delivers : DeliversTo row.recipients
        (· ∈ plan.external.map plan.addressees.fullAddr))
  | internal (kind : IsInbound plan row)
      (delivers : DeliversTo row.recipients (· ∈ plan.agents))
  | notice (kind : IsNotice plan row)
      (delivers : DeliversTo row.recipients (· = plan.sender))
  | pong (kind : IsPongRecord plan row)
      (delivers : DeliversTo row.recipients (· = plan.sender))

/-- The internal record of a send without agents among its internal recipients
shows an address that is no board. -/
structure Collides (plan : SendPlan) (row : EmailRecord) : Prop where
  kind : IsInbound plan row
  boards : ∀ addr ∈ plan.internal, Board.isBoardAddress addr = true
  shown : ∃ addr ∈ (plan.shown []).all, Board.isBoardAddress addr = false

theorem agents_eq_nil : plan.agents = [] ↔
    ∀ addr ∈ plan.internal, Board.isBoardAddress addr = true := by
  simp [SendPlan.agents, List.filter_eq_nil_iff]

theorem deliversTo_nil_iff {toAddrs cc : List String} :
    DeliversTo ⟨toAddrs, cc, []⟩ (· ∈ ([] : List String)) ↔
      ∀ addr ∈ toAddrs ++ cc, Board.isBoardAddress addr = true := by
  constructor
  · intro delivers addr member
    rcases delivers.only addr member with target | board
    · exact absurd target List.not_mem_nil
    · exact board.2
  · intro boards
    exact ⟨fun addr target => absurd target List.not_mem_nil, fun addr member =>
      .inr ⟨fun _ => List.not_mem_nil, boards addr member⟩⟩

theorem IsInbound.delivers_iff {row : EmailRecord} (kind : IsInbound plan row) :
    DeliversTo row.recipients (· ∈ plan.agents) ↔ ¬ Collides plan row := by
  have shown : row.recipients = plan.shown plan.agents := kind.recipients
  rw [shown]
  by_cases boards : plan.agents = []
  · rw [boards, SendPlan.shown, deliversTo_nil_iff]
    constructor
    · intro covered collides
      rcases collides.shown with ⟨addr, member, agent⟩
      rw [covered addr member] at agent
      cases agent
    · intro clear addr member
      by_contra agent
      exact clear ⟨kind, agents_eq_nil.mp boards, addr, member,
        Bool.eq_false_iff.mpr agent⟩
  · constructor
    · intro _ collides
      exact boards (agents_eq_nil.mpr collides.boards)
    · exact fun _ => deliversTo_rcpt boards

theorem meantFor_iff {row : EmailRecord} (record : SendRecord plan row) :
    MeantFor plan row ↔ ¬ Collides plan row := by
  constructor
  · intro meant collides
    cases meant with
    | external kind _ =>
        have both := collides.kind.direction.symm.trans kind.direction
        cases both
    | internal kind delivers => exact kind.delivers_iff.mp delivers collides
    | notice kind _ =>
        have both := collides.kind.direction.symm.trans kind.direction
        cases both
    | pong kind _ =>
        have both := collides.kind.recipients.symm.trans kind.recipients
        have none : plan.agents = [plan.sender] := congrArg Recipients.rcpt both
        rw [agents_eq_nil.mpr collides.boards] at none
        cases none
  · intro clear
    cases record with
    | outbound kind =>
        refine .external kind ?_
        rw [kind.recipients]
        exact deliversTo_rcpt fun none => kind.present (List.map_eq_nil_iff.mp none)
    | inbound kind => exact .internal kind (kind.delivers_iff.mpr clear)
    | notice kind =>
        refine .notice kind ?_
        rw [kind.recipients]
        exact deliversTo_one rfl
    | pong kind =>
        refine .pong kind ?_
        rw [kind.recipients]
        exact deliversTo_one rfl

/-! ## The records of SMTP messages -/

section Received

open Smtp

variable {receiver : Receiver} {pending : Pending} {headers : List MailHeader}
  {session : Session} {before : World} {row : EmailRecord}

/-- An address of the headers that stands for an envelope address and is no
board. -/
def IsReceived (receiver : Receiver) (pending : Pending)
    (headers : List MailHeader) (addr : String) : Prop :=
  (∃ matched, Smtp.StoredFor receiver pending headers matched addr) ∧
    Board.isBoardAddress addr = false

theorem messageRecipients_rcpt {recipients : Recipients}
    (accepted : messageRecipients receiver pending headers = .ok recipients) :
    recipients.rcpt =
      recipients.all.filter fun addr => !Board.isBoardAddress addr :=
  (Smtp.messageRecipients_filtered accepted).2.2.2

theorem messageRecipients_delivers {recipients : Recipients}
    (accepted : messageRecipients receiver pending headers = .ok recipients) :
    DeliversTo recipients (IsReceived receiver pending headers) := by
  have targets (addr : String) :
      addr ∈ recipients.rcpt ↔ IsReceived receiver pending headers addr :=
    mem_messageRecipients accepted
  have agents := messageRecipients_rcpt accepted
  by_cases none : recipients.rcpt = []
  · have nobody (addr : String) : ¬ IsReceived receiver pending headers addr := by
      rw [← targets, none]
      exact List.not_mem_nil
    have everyone : recipients.delivery = recipients.all := by
      rw [Recipients.delivery, none]
      rfl
    refine ⟨fun addr target => absurd target (nobody addr), fun addr member =>
      .inr ⟨nobody, ?_⟩⟩
    rw [everyone] at member
    rw [agents, List.filter_eq_nil_iff] at none
    simpa using none addr member
  · rcases recipients with ⟨toAddrs, cc, rcpt⟩
    have delivers : DeliversTo ⟨toAddrs, cc, rcpt⟩ (· ∈ rcpt) :=
      deliversTo_rcpt none
    refine ⟨fun addr target => delivers.all addr ((targets addr).mpr target),
      fun addr member => ?_⟩
    rcases delivers.only addr member with target | ⟨nobody, board⟩
    · exact .inl ((targets addr).mp target)
    · exact .inr ⟨fun other target => nobody other ((targets other).mpr target),
        board⟩

/-- What an SMTP message is filed as: the notification of a bounce, or the
message for those of its recipients that the headers name. -/
inductive ReceivedRecord (receiver : Receiver) (pending : Pending)
    (row : EmailRecord) : Prop where
  | notice (bounce : pending.sender = "")
      (delivers : DeliversTo row.recipients (· = pending.recipients.headD ""))
  | message (headers : List MailHeader) (body : String) (attachments : Nat)
      (readable : Readable receiver pending.messageData headers body attachments)
      (delivers : DeliversTo row.recipients (IsReceived receiver pending headers))

theorem receivedRecord_of_created
    (created : Storage.Created before.db
      ((dataEnd receiver).run ⟨session, before⟩).2.world.db row) :
    ∃ pending, session.pending = some pending ∧
      ReceivedRecord receiver pending row := by
  have ends : (dataEnd receiver).Ends
      (fun _ last => Storage.Created before.db last.world.db row →
        ∃ pending, session.pending = some pending ∧
          ReceivedRecord receiver pending row)
      (fun _ last => Storage.Created before.db last.world.db row →
        ∃ pending, session.pending = some pending ∧
          ReceivedRecord receiver pending row) ⟨session, before⟩ := by
    apply dataEnd_ends
    · intro _ _ nothing
      exact absurd rfl (nothing.2 row nothing.1)
    · intro pending outcome last later _ ready ran files
      have received (new : Storage.Created before.db later.db row) :
          ∃ pending, session.pending = some pending ∧
            ReceivedRecord receiver pending row := by
        refine ⟨pending, ready, ?_⟩
        cases files row new with
        | notice blank _ _ =>
            have here : later = ((processPending receiver pending none none).run
                before).2 := by rw [ran]
            rw [here] at new
            refine .notice blank ?_
            rw [notice_of_created blank new]
            exact deliversTo_one rfl
        | message named headers body attachments recipients checked _ _ delivered
            _ _ =>
            have accepted := checkMessage_ok.mp checked
            refine .message headers body attachments accepted.1 ?_
            rw [delivered]
            exact messageRecipients_delivers accepted.2
      exact ⟨fun _ _ => received, fun _ _ => received⟩
  exact ends.after created

end Received

/-! ## All records -/

/-- Each record of a send delivers to its targets unless it collides, each
record of an SMTP message does, and the recipients column keeps the set. -/
theorem delivery_sets (state : SendState) (key : ApiKeyRecord)
    (request : SendEmailRequest) (world : SendWorld) (receiver : Smtp.Receiver)
    (session : Smtp.Session) (before : World) (parse : String → Option Json)
    (recipients : Recipients)
    (parses : parse recipients.toJson = some recipients.document) :
    (∀ row, Storage.Created world.main.db
        ((sendEmailCore state key request).run world).2.main.db row →
      ∃ plan planned, (planSend state key request).run world =
        (.ok plan, planned) ∧ SendRecord plan row ∧
          (MeantFor plan row ↔ ¬ Collides plan row)) ∧
    (∀ row, Storage.Created before.db
        ((Smtp.dataEnd receiver).run ⟨session, before⟩).2.world.db row →
      ∃ pending, session.pending = some pending ∧
        ReceivedRecord receiver pending row) ∧
    (Recipients.ofJson parse recipients.toJson).delivery =
      recipients.delivery := by
  refine ⟨fun row created => ?_, fun row => receivedRecord_of_created, ?_⟩
  · rcases sendRecord_of_created created with ⟨plan, planned, ran, record⟩
    exact ⟨plan, planned, ran, record, meantFor_iff record⟩
  · rw [Recipients.ofJson_toJson parses]

def toAnnAndBob : Recipients := ⟨["ann@x.org", "bob@x.org"], [], ["bob@x.org"]⟩

/-- A parser of one text. -/
def parseAnnAndBob (text : String) : Option Json :=
  if text = "\x7b\"to\":[\"ann@x.org\",\"bob@x.org\"],\"rcpt\":[\"bob@x.org\"]\x7d"
  then some toAnnAndBob.document
  else none

theorem delivery_sets_bob :
    (Recipients.ofJson parseAnnAndBob toAnnAndBob.toJson).delivery =
      ["bob@x.org"] :=
  (delivery_sets plainSend aliceKey helloPal aliceWorld Smtp.plainReceiver .fresh
    (World.start Database.empty) parseAnnAndBob toAnnAndBob
    (if_pos (by decide))).2.2

/-- `alice@a.test` is a member of a board of her system. -/
def boardMember : SendWorld :=
  { aliceWorld with main := World.start { aliceWorld.main.db with
    boardWhitelists := [("b1.a2a@a.test", "alice@a.test")] } }

def boardSend : SendState :=
  { plainSend with receiver := { Smtp.plainReceiver with
    env := { Smtp.plainReceiver.env with uuid := fun asked => toString asked }
    boards := ⟨fun addr => if addr = "b1.a2a@a.test" then some (some "sys-a")
      else none, fun _ => none⟩ } }

def helloBoard : SendEmailRequest :=
  { helloPal with toAddrs := "pal@c.test, b1.a2a@a.test" }

/-- The internal record for a board delivers to the external recipient. -/
theorem delivery_set_mixed :
    ¬ ∀ (state : SendState) (key : ApiKeyRecord) (request : SendEmailRequest)
      (world : SendWorld) (row : EmailRecord),
      Storage.Created world.main.db
        ((sendEmailCore state key request).run world).2.main.db row →
      ∃ plan planned, (planSend state key request).run world =
        (.ok plan, planned) ∧ MeantFor plan row := by
  intro claimed
  have stored : (((sendEmailCore boardSend aliceKey helloBoard).run
      boardMember).2.main.db.emails.rows.any fun row =>
        row.direction == .inbound && row.recipients ==
          ⟨["pal@c.test", "b1.a2a@a.test"], [], []⟩) = true := by decide +kernel
  rcases List.any_eq_true.mp stored with ⟨row, member, fields⟩
  rw [Bool.and_eq_true, beq_iff_eq, beq_iff_eq] at fields
  rcases fields with ⟨direction, recipients⟩
  rcases claimed boardSend aliceKey helloBoard boardMember row
    ⟨member, fun old present => absurd present List.not_mem_nil⟩ with
    ⟨plan, _, _, meant⟩
  cases meant with
  | external kind _ =>
      cases kind.direction.symm.trans direction
  | notice kind _ => cases kind.direction.symm.trans direction
  | pong kind _ =>
      have both := kind.recipients.symm.trans recipients
      injection both with _ _ none
      cases none
  | internal kind delivers =>
      have none : plan.agents = [] :=
        congrArg Recipients.rcpt (kind.recipients.symm.trans recipients)
      rw [recipients, none] at delivers
      have board := deliversTo_nil_iff.mp delivers "pal@c.test" (by decide)
      exact absurd board (by decide)

end AimailGateway.Api
