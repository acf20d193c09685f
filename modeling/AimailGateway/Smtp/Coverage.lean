import AimailGateway.Smtp.Transactions

/-! # Recipients a message does not name

RCPT accepts a recipient by its envelope address, the email is filed for the
recipients of the headers.
-/

namespace AimailGateway.Smtp

open Library Action

variable {receiver : Receiver} {start session : Session} {sender : String}
  {events : List Event} {chunks : List String}

/-- The address is the target, or the target behind a persona. -/
def StandsFor (email target : String) : Prop :=
  email = target ∨ Text.containsChar '@' target = true ∧
    ∃ persona, Text.splitOnce '.' email = some (persona, target)

/-- Every address RCPT accepted, boards apart, is among the recipients of the
email once DATA is answered with success. -/
def AllRecorded (receiver : Receiver) (sender : String) (events : List Event)
    (session : Session) (chunks : List String) : Prop :=
  sender ≠ "" →
  ∀ env event next, Serves (receiver.placed env) ⟨.rcpt, session⟩ event next →
  event.command = .data chunks → event.accepted →
  ∃ row, Storage.Created event.before.db event.after.db row ∧
    ∀ adding ∈ events, ∀ resolved, adding.Adds receiver resolved →
      Board.isBoardAddress resolved.added = false →
      ∃ addr ∈ row.recipients.rcpt,
        StandsFor (receiver.env.tables.toLowercase (Text.trim addr))
          (receiver.env.tables.toLowercase resolved.added)

/-- An entry of the headers is the address of the target, and is no board. -/
def NamedIn (receiver : Receiver) (headers : List MailHeader)
    (resolved : Target) : Prop :=
  ∃ entry inner, HeaderEntry headers entry ∧ bracketed entry = some inner ∧
    StandsFor (receiver.env.tables.toLowercase (Text.trim inner))
      (receiver.env.tables.toLowercase resolved.added) ∧
    Board.isBoardAddress (stripMimeDisplay entry inner) = false

/-- A message that passes the gate and names some recipient of the envelope
names all of them. -/
def AllNamed (receiver : Receiver) (sender : String) (events : List Event)
    (session : Session) (chunks : List String) : Prop :=
  sender ≠ "" →
  checkDeferredWhitelist receiver (session.loaded receiver chunks) = .ok () →
  ∀ headers body attachments, Readable receiver
      (session.loaded receiver chunks).messageData headers body attachments →
  (∃ entry matched addr, HeaderEntry headers entry ∧
    Names receiver.env.tables (session.envelope receiver) entry matched addr) →
  ∀ adding ∈ events, ∀ resolved, adding.Adds receiver resolved →
    Board.isBoardAddress resolved.added = false →
    NamedIn receiver headers resolved

theorem StandsFor.matches {envelope : List String} {email target : String}
    (stands : StandsFor email target) (listed : target ∈ envelope) :
    ∃ matched, envelopeMatch envelope email = some matched := by
  rw [envelopeMatch]
  split
  · exact ⟨_, rfl⟩
  · next missing =>
      rcases stands with same | ⟨address, persona, parts⟩
      · rw [← same] at listed
        exact absurd (by simpa using listed) missing
      · rw [parts]
        have contained : envelope.contains target = true := by simpa using listed
        simp only [address, contained, Bool.and_self, if_true]
        exact ⟨_, rfl⟩

theorem named_of_recorded
    (transaction : Transaction receiver start sender events session) :
    AllRecorded receiver sender events session chunks →
      AllNamed receiver sender events session chunks := by
  rcases transaction.pending chunks with
    ⟨pending, ready, same, envelope, messageData⟩
  intro recorded named gate headers body attachments readable
    matching adding member resolved adds agent
  rcases matching with ⟨first, matched, kept, present, names⟩
  rw [← envelope] at names
  rcases messageRecipients_ok readable.wellFormed
    ⟨first, present, names⟩ with ⟨listed, accepts⟩
  rw [← messageData] at readable
  rcases files_accepted gate ready (by rwa [same]) readable accepts with
    ⟨env, event, next, serves, command, accepted⟩
  rcases recorded named env event next serves command accepted with
    ⟨row, created, covers⟩
  rcases covers adding member resolved adds agent with
    ⟨addr, delivered, stands⟩
  have files : (session.loaded receiver chunks).Files receiver row :=
    delivers_iff_files.mp ⟨env, event, next, serves, command, created⟩
  rcases files.accepted with ⟨_, taken, extracted, filed⟩
  rw [ready] at extracted
  cases extracted
  rcases filed with ⟨blank, _⟩ | ⟨_, others, _, _, _, again, agrees, filed⟩
  · rw [same] at blank
    exact absurd blank named
  · have unique := readable.unique again
    subst unique
    rw [filed.recipients, mem_messageRecipients agrees] at delivered
    rcases delivered with
      ⟨⟨_, entry, entered, inner, opened, _, shown⟩, plain⟩
    rw [shown, trim_stripMimeDisplay opened] at stands
    rw [shown] at plain
    exact ⟨entry, inner, entered, opened, stands, plain⟩

theorem recorded_of_named
    (transaction : Transaction receiver start sender events session) :
    AllNamed receiver sender events session chunks →
      AllRecorded receiver sender events session chunks := by
  have collected := transaction.collected
  rcases transaction.pending chunks with
    ⟨pending, ready, same, envelope, messageData⟩
  intro all named env event next serves command accepted
  have loaded : session.loaded (receiver.placed env) chunks =
      session.loaded receiver chunks := rfl
  rcases accepted_files serves command accepted (by rwa [loaded])
    (by rwa [same]) with
    ⟨gate, headers, body, attachments, listed, row, readable, accepts, filed,
      created⟩
  refine ⟨row, created, fun adding member resolved adds agent => ?_⟩
  have reads : Readable receiver (session.loaded receiver chunks).messageData
      headers body attachments := by
    rw [← messageData]
    exact readable.elsewhere rfl rfl
  have somebody : ∃ entry matched addr, HeaderEntry headers entry ∧
      Names receiver.env.tables (session.envelope receiver) entry matched
        addr := by
    rcases storedFor_of_accepted accepts with ⟨matched, addr, entry, entered,
      names⟩
    rw [← envelope]
    exact ⟨entry, matched, addr, entered, names⟩
  rcases all named gate headers body attachments reads somebody adding member
    resolved adds agent with ⟨entry, inner, entered, opened, stands, plain⟩
  have added : receiver.env.tables.toLowercase resolved.added ∈
      pending.envelope receiver := by
    rw [envelope]
    exact List.mem_map_of_mem (collected.added adding member resolved adds)
  rcases stands.matches added with ⟨matched, found⟩
  refine ⟨stripMimeDisplay entry inner, ?_, ?_⟩
  · rw [filed.recipients, mem_messageRecipients accepts]
    exact ⟨⟨matched, entry, entered, inner, opened, found, rfl⟩, plain⟩
  · rw [trim_stripMimeDisplay opened]
    exact stands

/-- All recipients are recorded exactly when the message names them all. -/
theorem all_recorded_iff
    (transaction : Transaction receiver start sender events session)
    (chunks : List String) :
    AllRecorded receiver sender events session chunks ↔
      AllNamed receiver sender events session chunks :=
  ⟨named_of_recorded transaction, recorded_of_named transaction⟩

/-- Pal writes to `alice@a.test` and, in a blind copy, to `bob@b.test`. -/
def palToBoth : List Event × Peer :=
  addressed plainReceiver .fresh "pal@c.test" (World.start aliceAndBob)
    ["alice@a.test", "bob@b.test"]

def toAlice : List String := ["To: alice@a.test\n", "\n", "hello"]

theorem blind_copy_dropped :
    ¬ ∀ receiver start sender events session chunks,
      Transaction receiver start sender events session →
        AllRecorded receiver sender events session chunks := by
  intro claim
  have transaction : Transaction plainReceiver .fresh "pal@c.test" palToBoth.1
      palToBoth.2.session := addressed_transaction (by decide +kernel)
  have named := named_of_recorded transaction
    (claim plainReceiver .fresh "pal@c.test" palToBoth.1 palToBoth.2.session
      toAlice transaction)
  have session : palToBoth.2.session = ⟨some "pal@c.test",
      ["alice@a.test", "bob@b.test"], "", some "bob@b.test",
      some "sys-a|sys-b", none, true⟩ := by decide +kernel
  rw [session] at named
  have adding : ∃ event ∈ palToBoth.1, event.Adds plainReceiver
      ⟨"bob@b.test", "bob@b.test", "sys-b", "bob@b.test", ""⟩ := by
    have outlines : palToBoth.1.map (fun event =>
        (event.command, event.outcome.toOption,
          target plainReceiver event.before.db "bob@b.test")) =
        [(.rcpt "alice@a.test", some (),
            some ⟨"bob@b.test", "bob@b.test", "sys-b", "bob@b.test", ""⟩),
          (.rcpt "bob@b.test", some (),
            some ⟨"bob@b.test", "bob@b.test", "sys-b", "bob@b.test", ""⟩)] := by
      decide +kernel
    have last : (Command.rcpt "bob@b.test", some (),
        some (Target.mk "bob@b.test" "bob@b.test" "sys-b" "bob@b.test" "")) ∈
        palToBoth.1.map (fun event =>
          (event.command, event.outcome.toOption,
            target plainReceiver event.before.db "bob@b.test")) := by
      rw [outlines]
      simp
    rcases List.mem_map.mp last with ⟨event, member, same⟩
    simp only [Prod.mk.injEq] at same
    exact ⟨event, member, accepted_of_toOption same.2.1, _, same.1, same.2.2⟩
  rcases adding with ⟨event, member, adds⟩
  have readable : Readable plainReceiver "To: alice@a.test\n\nhello"
      [⟨"To", "alice@a.test"⟩] "To: alice@a.test\n\nhello" 0 :=
    plain_readable (by decide +kernel) (by decide +kernel)
  have alice : Names plainReceiver.env.tables
      ["alice@a.test", "bob@b.test"] "alice@a.test" "alice@a.test"
      "alice@a.test" :=
    ⟨"alice@a.test", by decide +kernel, by decide +kernel, by decide +kernel⟩
  have direct : addressEntries [⟨"To", "alice@a.test"⟩] "to" =
      ["alice@a.test"] := by decide +kernel
  have copies : addressEntries [⟨"To", "alice@a.test"⟩] "cc" = [] := by
    decide +kernel
  have entered : HeaderEntry [⟨"To", "alice@a.test"⟩] "alice@a.test" := by
    rw [HeaderEntry, direct]
    exact .inl List.mem_cons_self
  rcases named (by decide) rfl _ _ _ readable
    ⟨"alice@a.test", _, _, entered, alice⟩ event member _ adds
    (by decide +kernel) with ⟨entry, inner, listed, opened, stands, _⟩
  have only : entry = "alice@a.test" := by
    rw [HeaderEntry, direct, copies] at listed
    simpa using listed
  subst only
  have whole : bracketed "alice@a.test" = some "alice@a.test" := by
    decide +kernel
  rw [whole] at opened
  cases opened
  rcases stands with same | ⟨_, persona, parts⟩
  · exact absurd same (by decide +kernel)
  · have none : Text.splitOnce '.' (Text.toAsciiLowercase (Text.trim
        "alice@a.test")) = some ("alice@a", "test") := by decide +kernel
    have equal := parts.symm.trans none
    simp only [Option.some.injEq, Prod.mk.injEq] at equal
    exact absurd equal.2 (by decide +kernel)

theorem all_recorded_iff_sample :
    AllRecorded plainReceiver "pal@c.test" palToBoth.1 palToBoth.2.session
        toAlice ↔
      AllNamed plainReceiver "pal@c.test" palToBoth.1 palToBoth.2.session
        toAlice :=
  all_recorded_iff (addressed_transaction (by decide +kernel)) toAlice

end AimailGateway.Smtp
