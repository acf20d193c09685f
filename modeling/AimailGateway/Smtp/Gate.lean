import AimailGateway.Smtp.Transactions

/-! # The deferred whitelist check

RCPT notes the verdict of the recipient's whitelist and the end of the data
consults what is noted.
-/

namespace AimailGateway.Smtp

open Library Action

variable {receiver : Receiver} {session : Session}

/-! ## The gate per recipient -/

section PerRecipient

variable {start : Session} {sender : String} {events : List Event}

/-- Some RCPT of the transaction added the envelope address, and the whitelist
it asked passed the sender. -/
def PassedFor (receiver : Receiver) (sender : String) (events : List Event)
    (matched : String) : Prop :=
  ∃ event ∈ events, ∃ resolved, Passed receiver sender event resolved ∧
    receiver.env.tables.toLowercase resolved.added = matched

/-- Every recipient of an email that is no bounce and no command of a stranger
stands for an envelope address whose own whitelist passed the sender. -/
def GateKept (receiver : Receiver) (sender : String) (events : List Event)
    (session : Session) (chunks : List String) : Prop :=
  sender ≠ "" →
  isStrangerMessage receiver (session.loaded receiver chunks).messageData =
    false →
  ∀ row, Delivers receiver session chunks row →
  ∀ addr ∈ row.recipients.rcpt,
  ∃ matched, envelopeMatch (session.envelope receiver)
      (receiver.env.tables.toLowercase (Text.trim addr)) = some matched ∧
    PassedFor receiver sender events matched

/-- When the last recipient to be accepted passed the sender, so did every
recipient the headers of the message name. -/
def VerdictsAgree (receiver : Receiver) (sender : String) (events : List Event)
    (session : Session) (chunks : List String) : Prop :=
  sender ≠ "" →
  isStrangerMessage receiver (session.loaded receiver chunks).messageData =
    false →
  (LastPassed receiver sender events ∨ Text.trim sender = "") →
  ∀ headers body attachments, Readable receiver
      (session.loaded receiver chunks).messageData headers body attachments →
  ∀ entry matched addr, HeaderEntry headers entry →
    Names receiver.env.tables (session.envelope receiver) entry matched addr →
    Board.isBoardAddress addr = false →
    PassedFor receiver sender events matched

theorem checkDeferredWhitelist_ok (opened : session.sender = some sender)
    (plain : isStrangerMessage receiver session.messageData = false) :
    checkDeferredWhitelist receiver session = .ok () ↔
      session.senderWhitelisted = true ∨ Text.trim sender = "" := by
  rw [checkDeferredWhitelist, opened, plain]
  cases session.senderWhitelisted with
  | true => simp
  | false => by_cases blank : Text.trim sender = "" <;> simp [blank]

/-- The gate is kept exactly when the last verdict, the one that is consulted,
agrees with those of the recipients the headers name. -/
theorem gate_kept_iff
    (transaction : Transaction receiver start sender events session)
    (chunks : List String) :
    GateKept receiver sender events session chunks ↔
      VerdictsAgree receiver sender events session chunks := by
  have collected := transaction.collected
  rcases transaction.pending chunks with
    ⟨pending, ready, same, envelope, messageData⟩
  have gate (plain : isStrangerMessage receiver
      (session.loaded receiver chunks).messageData = false) :
      checkDeferredWhitelist receiver (session.loaded receiver chunks) =
        .ok () ↔
      LastPassed receiver sender events ∨ Text.trim sender = "" := by
    rw [← collected.verdict rfl]
    exact checkDeferredWhitelist_ok collected.opened plain
  constructor
  · intro kept named plain passed headers body attachments readable entry
      matched addr member names agent
    have stored : StoredFor receiver pending headers matched addr := by
      refine ⟨entry, member, ?_⟩
      rw [envelope]
      exact names
    rcases messageRecipients_ok readable.wellFormed stored with
      ⟨listed, accepted⟩
    rw [← messageData] at readable
    rcases Session.Files.of_accepted ((gate plain).mpr passed) ready
      (by rwa [same]) readable accepted with ⟨row, files, filed⟩
    have present : addr ∈ row.recipients.rcpt := by
      rw [filed.recipients]
      exact (mem_messageRecipients accepted).mpr ⟨⟨matched, stored⟩, agent⟩
    rcases kept named plain row (delivers_iff_files.mpr files) addr present with
      ⟨other, found, passedFor⟩
    rw [names.matched] at found
    cases found
    exact passedFor
  · intro agree named plain row delivers addr member
    rcases (delivers_iff_files.mp delivers).accepted with
      ⟨passed, taken, extracted, filed⟩
    rw [ready] at extracted
    cases extracted
    rcases filed with ⟨blank, _⟩ | ⟨_, headers, body, attachments, listed,
      readable, accepted, filed⟩
    · rw [same] at blank
      exact absurd blank named
    · rw [filed.recipients] at member
      rcases (mem_messageRecipients accepted).mp member with
        ⟨⟨matched, entry, present, names⟩, agent⟩
      rw [envelope] at names
      rw [messageData] at readable
      exact ⟨matched, names.matched, agree named plain ((gate plain).mp passed)
        headers body attachments readable entry matched addr present names
        agent⟩

end PerRecipient

/-- Eve writes to `alice@a.test`, who refuses her, and to `bob@b.test`. -/
def eveToBoth : List Event × Peer :=
  addressed plainReceiver .fresh "eve@c.test" (World.start aliceAndBob)
    ["alice@a.test", "bob@b.test"]

def toBoth : List String :=
  ["To: alice@a.test, bob@b.test\n", "\n", "hello"]

/-- The whitelist of `alice@a.test` passes nobody the event is about. -/
def Event.refusesAlice (event : Event) : Bool :=
  match event.command with
  | .rcpt recipient =>
      (target plainReceiver event.before.db recipient).all fun resolved =>
        Text.toAsciiLowercase resolved.added != "alice@a.test" ||
          !EnvFactory.whitelistVerdict plainReceiver.env event.before.db
            resolved.checked "eve@c.test" "from"
  | _ => true

theorem eve_passes_gate :
    ¬ ∀ receiver start sender events session chunks,
      Transaction receiver start sender events session →
        GateKept receiver sender events session chunks := by
  intro claim
  have kept := claim plainReceiver .fresh "eve@c.test" eveToBoth.1
    eveToBoth.2.session toBoth (addressed_transaction (by decide +kernel))
  have session : eveToBoth.2.session = ⟨some "eve@c.test",
      ["alice@a.test", "bob@b.test"], "", some "bob@b.test",
      some "sys-a|sys-b", none, true⟩ := by decide +kernel
  rw [session] at kept
  have ready : (Session.loaded plainReceiver ⟨some "eve@c.test",
      ["alice@a.test", "bob@b.test"], "", some "bob@b.test",
      some "sys-a|sys-b", none, true⟩ toBoth).pending =
      some ⟨"eve@c.test", ["alice@a.test", "bob@b.test"], "sys-a|sys-b",
        "To: alice@a.test, bob@b.test\n\nhello", none, true⟩ := by
    decide +kernel
  have readable : Readable plainReceiver
      "To: alice@a.test, bob@b.test\n\nhello"
      [⟨"To", "alice@a.test, bob@b.test"⟩]
      "To: alice@a.test, bob@b.test\n\nhello" 0 :=
    plain_readable (by decide +kernel) (by decide +kernel)
  have accepted : messageRecipients plainReceiver ⟨"eve@c.test",
      ["alice@a.test", "bob@b.test"], "sys-a|sys-b",
      "To: alice@a.test, bob@b.test\n\nhello", none, true⟩
      [⟨"To", "alice@a.test, bob@b.test"⟩] =
      .ok ⟨["alice@a.test", "bob@b.test"], [],
        ["alice@a.test", "bob@b.test"]⟩ := by decide +kernel
  rcases Session.Files.of_accepted rfl ready (by decide) readable accepted with
    ⟨row, files, filed⟩
  have listed : "alice@a.test" ∈ row.recipients.rcpt := by
    rw [filed.recipients]
    exact List.mem_cons_self
  rcases kept (by decide) (by decide +kernel) row (delivers_iff_files.mpr files)
    "alice@a.test" listed with
    ⟨matched, found, event, member, resolved, ⟨⟨_, recipient, command, target⟩,
      passed⟩, added⟩
  have alice : matched = "alice@a.test" := by
    have expected : envelopeMatch (Session.envelope plainReceiver
        ⟨some "eve@c.test", ["alice@a.test", "bob@b.test"], "",
          some "bob@b.test", some "sys-a|sys-b", none, true⟩)
        (Text.toAsciiLowercase (Text.trim "alice@a.test")) =
        some "alice@a.test" := by decide +kernel
    exact Option.some.inj (found.symm.trans expected)
  have refuses : ∀ event ∈ eveToBoth.1, event.refusesAlice = true :=
    List.all_eq_true.mp (by decide +kernel)
  have refused := refuses event member
  rw [Event.refusesAlice, command] at refused
  simp only [target, Option.all_some] at refused
  rw [alice] at added
  have verdict := passed.verdict
  simp [← verdict, show Text.toAsciiLowercase resolved.added = "alice@a.test"
    from added] at refused

theorem gate_kept_iff_sample :
    GateKept plainReceiver "eve@c.test" eveToBoth.1 eveToBoth.2.session toBoth ↔
      VerdictsAgree plainReceiver "eve@c.test" eveToBoth.1 eveToBoth.2.session
        toBoth :=
  gate_kept_iff (addressed_transaction (by decide +kernel)) toBoth

/-! ## The empty envelope -/

/-- A transaction the check lets pass only because its sender is blank. -/
structure Exempted (receiver : Receiver) (session : Session)
    (sender : String) : Prop where
  opened : session.sender = some sender
  unwelcome : session.senderWhitelisted = false
  plain : isStrangerMessage receiver session.messageData = false
  passed : checkDeferredWhitelist receiver session = .ok ()

/-- What the exempted transactions of the sender file is a notification of a
bounce, never the message. -/
def AdmitsOnlyBounces (sender : String) : Prop :=
  ∀ receiver session row, Exempted receiver session sender →
    session.Files receiver row → (row.headers.lookup "bounce_status").isSome

theorem exempted_blank {sender : String}
    (exempted : Exempted receiver session sender) : Text.trim sender = "" := by
  have passed := exempted.passed
  rw [checkDeferredWhitelist, exempted.unwelcome, exempted.opened,
    exempted.plain] at passed
  by_contra full
  simp [full] at passed

/-- A message to `bob@b.test`, whose whitelist refused the sender. -/
def unwelcomePending (sender : String) : Pending where
  sender := sender
  recipients := ["bob@b.test"]
  systemId := "sys-b"
  messageData := "To: bob@b.test\n\nhello"
  persona := none
  senderWhitelisted := false

def Pending.asSession (pending : Pending) : Session where
  sender := some pending.sender
  recipients := pending.recipients
  messageData := pending.messageData
  domain := some ""
  systemId := some pending.systemId
  persona := pending.persona
  senderWhitelisted := pending.senderWhitelisted

theorem unwelcome_readable :
    Readable plainReceiver "To: bob@b.test\n\nhello" [⟨"To", "bob@b.test"⟩]
      "To: bob@b.test\n\nhello" 0 :=
  plain_readable (by decide +kernel) (by decide +kernel)

theorem unwelcome_accepted (sender : String) :
    messageRecipients plainReceiver (unwelcomePending sender)
      [⟨"To", "bob@b.test"⟩] = .ok ⟨["bob@b.test"], [], ["bob@b.test"]⟩ := by
  have accepted : messageRecipients plainReceiver (unwelcomePending "")
      [⟨"To", "bob@b.test"⟩] = .ok ⟨["bob@b.test"], [], ["bob@b.test"]⟩ := by
    decide +kernel
  rw [← accepted]
  exact messageRecipients_congr rfl

theorem blank_files_message {sender : String} (blank : Text.trim sender = "")
    (named : sender ≠ "") : ¬ AdmitsOnlyBounces sender := by
  intro admits
  have passed : checkDeferredWhitelist plainReceiver
      (unwelcomePending sender).asSession = .ok () := by
    rw [checkDeferredWhitelist]
    simp [unwelcomePending, Pending.asSession, blank]
  have plain : isStrangerMessage plainReceiver "To: bob@b.test\n\nhello" =
      false := by decide +kernel
  have exempted : Exempted plainReceiver (unwelcomePending sender).asSession
      sender := ⟨rfl, rfl, plain, passed⟩
  rcases Session.Files.of_accepted passed rfl named unwelcome_readable
    (unwelcome_accepted sender) with ⟨row, files, filed⟩
  have notice := admits _ _ row exempted files
  rw [filed.headers, messageHeaders_notice] at notice
  cases notice

/-- Exactly a sender that is blank but not empty delivers a message. -/
theorem blank_admits_only_bounces (sender : String) :
    AdmitsOnlyBounces sender ↔ (Text.trim sender = "" → sender = "") := by
  constructor
  · intro admits blank
    by_contra named
    exact blank_files_message blank named admits
  · intro empty receiver session row exempted files
    rcases files.accepted with ⟨_, pending, ready, ⟨_, notice⟩ | ⟨named, _⟩⟩
    · exact notice
    · have stored := (pending_taken ready).sender
      rw [exempted.opened] at stored
      cases stored
      exact absurd (empty (exempted_blank exempted)) named

/-- The reverse paths the command parser hands over. -/
def ReversePath (sender : String) : Prop :=
  ∀ character ∈ sender.toList,
    character ∉ [' ', '\t', '\r', '\n', '<', '>']

/-- A no-break space is trimmed away, and is not empty. -/
theorem blank_delivers_message :
    ¬ ∀ sender, ReversePath sender → AdmitsOnlyBounces sender := by
  intro claim
  have path : ReversePath "\u00a0" := by
    have characters : "\u00a0".toList = ['\u00a0'] := by decide
    intro character member
    rw [characters] at member
    rw [List.mem_singleton.mp member]
    decide
  exact blank_files_message (by decide) (by decide) (claim _ path)

end AimailGateway.Smtp
