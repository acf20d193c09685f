import AimailGateway.Smtp.Outcomes

/-! # The email a message is filed as

Which messages the end of the data accepts, and whom the stored email names.
-/

namespace AimailGateway.Smtp

open Library Action

/-! ## Recipients of the headers -/

def HeaderEntry (headers : List MailHeader) (entry : String) : Prop :=
  entry ∈ addressEntries headers "to" ∨ entry ∈ addressEntries headers "cc"

/-- The entry stands for the envelope address and is stored as `addr`. -/
def Names (tables : CaseTables) (envelope : List String)
    (entry matched addr : String) : Prop :=
  ∃ inner, bracketed entry = some inner ∧
    envelopeMatch envelope (tables.toLowercase (Text.trim inner)) =
      some matched ∧
    addr = stripMimeDisplay entry inner

theorem trim_stripMimeDisplay {entry inner : String}
    (opened : bracketed entry = some inner) :
    Text.trim (stripMimeDisplay entry inner) = Text.trim inner := by
  rw [bracketed] at opened
  rw [stripMimeDisplay]
  split
  · exact Text.trim_trim inner
  · next plain =>
      rw [if_neg plain] at opened
      cases opened
      rfl

theorem Names.matched {tables : CaseTables} {envelope : List String}
    {entry matched addr : String} (names : Names tables envelope entry matched addr) :
    envelopeMatch envelope (tables.toLowercase (Text.trim addr)) =
      some matched := by
  rcases names with ⟨inner, opened, found, rfl⟩
  rw [trim_stripMimeDisplay opened]
  exact found

section Filter

variable {tables : CaseTables} {envelope entries kept : List String}

theorem filterRecipients_cons {entry : String} {rest : List String}
    (filtered : filterRecipients tables envelope (entry :: rest) = .ok kept) :
    ∃ inner more, bracketed entry = some inner ∧
      filterRecipients tables envelope rest = .ok more ∧
      kept = if (envelopeMatch envelope
          (tables.toLowercase (Text.trim inner))).isSome
        then stripMimeDisplay entry inner :: more else more := by
  rw [filterRecipients] at filtered
  cases opened : bracketed entry with
  | none =>
      rw [opened] at filtered
      cases filtered
  | some inner =>
      simp only [opened] at filtered
      cases others : filterRecipients tables envelope rest with
      | error response =>
          rw [others] at filtered
          cases filtered
      | ok more =>
          rw [others] at filtered
          simp only [bind, Except.bind, pure, Except.pure] at filtered
          refine ⟨inner, more, rfl, rfl, ?_⟩
          split at filtered
          · next stands =>
              cases filtered
              rw [if_pos stands]
          · next misses =>
              cases filtered
              rw [if_neg misses]

theorem mem_filterRecipients
    (filtered : filterRecipients tables envelope entries = .ok kept)
    {addr : String} :
    addr ∈ kept ↔
      ∃ entry ∈ entries, ∃ matched, Names tables envelope entry matched addr := by
  induction entries generalizing kept with
  | nil =>
      cases filtered
      simp
  | cons entry rest induction =>
      rcases filterRecipients_cons filtered with ⟨inner, more, opened, others, same⟩
      have first : (∃ matched, Names tables envelope entry matched addr) ↔
          (envelopeMatch envelope (tables.toLowercase
            (Text.trim inner))).isSome = true ∧
          addr = stripMimeDisplay entry inner := by
        simp [Names, opened, Option.isSome_iff_exists]
      rw [List.exists_mem_cons_iff, first, ← induction others, same]
      split
      · next stands => simp [stands]
      · next misses => simp [misses]

theorem filterRecipients_ok
    (wellFormed : ∀ entry ∈ entries, bracketed entry ≠ none) :
    ∃ kept, filterRecipients tables envelope entries = .ok kept := by
  induction entries with
  | nil => exact ⟨[], rfl⟩
  | cons entry rest induction =>
      rcases induction fun other member =>
        wellFormed other (List.mem_cons_of_mem _ member) with ⟨more, others⟩
      rw [filterRecipients]
      cases opened : bracketed entry with
      | none => exact absurd opened (wellFormed entry List.mem_cons_self)
      | some inner =>
          simp only [others, bind, Except.bind, pure, Except.pure]
          split
          · exact ⟨_, rfl⟩
          · exact ⟨_, rfl⟩

theorem wellFormed_of_filtered
    (filtered : filterRecipients tables envelope entries = .ok kept) :
    ∀ entry ∈ entries, bracketed entry ≠ none := by
  induction entries generalizing kept with
  | nil => exact fun _ member => absurd member List.not_mem_nil
  | cons entry rest induction =>
      rcases filterRecipients_cons filtered with ⟨inner, more, opened, others, _⟩
      intro other member
      rcases List.mem_cons.mp member with same | member
      · rw [same, opened]
        exact Option.some_ne_none inner
      · exact induction others other member

end Filter

/-! ## Messages that are accepted -/

section Accepted

variable {receiver : Receiver} {pending : Pending} {headers : List MailHeader}

/-- The envelope addresses the headers are compared with. -/
def Pending.envelope (receiver : Receiver) (pending : Pending) : List String :=
  pending.recipients.map receiver.env.tables.toLowercase

/-- Some entry of the headers is stored as `addr`, for the envelope address. -/
def StoredFor (receiver : Receiver) (pending : Pending)
    (headers : List MailHeader) (matched addr : String) : Prop :=
  ∃ entry, HeaderEntry headers entry ∧
    Names receiver.env.tables (pending.envelope receiver) entry matched addr

theorem messageRecipients_filtered {recipients : Recipients}
    (accepted : messageRecipients receiver pending headers = .ok recipients) :
    filterRecipients receiver.env.tables (pending.envelope receiver)
      (addressEntries headers "to") = .ok recipients.toAddrs ∧
    filterRecipients receiver.env.tables (pending.envelope receiver)
      (addressEntries headers "cc") = .ok recipients.cc ∧
    recipients.toAddrs ++ recipients.cc ≠ [] ∧
    recipients.rcpt = (recipients.toAddrs ++ recipients.cc).filter
      fun addr => !Board.isBoardAddress addr := by
  rw [messageRecipients] at accepted
  cases direct : filterRecipients receiver.env.tables
      (pending.recipients.map receiver.env.tables.toLowercase)
      (addressEntries headers "to") with
  | error response =>
      rw [direct] at accepted
      cases accepted
  | ok toAddrs =>
      cases copies : filterRecipients receiver.env.tables
          (pending.recipients.map receiver.env.tables.toLowercase)
          (addressEntries headers "cc") with
      | error response =>
          rw [direct, copies] at accepted
          cases accepted
      | ok cc =>
          rw [direct, copies] at accepted
          simp only [bind, Except.bind] at accepted
          split at accepted
          · cases accepted
          · next present =>
              cases accepted
              refine ⟨direct, copies, fun empty => present ?_, rfl⟩
              simpa using List.append_eq_nil_iff.mp empty

/-- What is shown in `to` and `cc` stands for envelope addresses. What is
delivered are the agents among it. -/
theorem messageRecipients_spec {recipients : Recipients}
    (accepted : messageRecipients receiver pending headers = .ok recipients) :
    (∀ addr, addr ∈ recipients.toAddrs ++ recipients.cc ↔
      ∃ matched, StoredFor receiver pending headers matched addr) ∧
    recipients.rcpt = (recipients.toAddrs ++ recipients.cc).filter
      fun addr => !Board.isBoardAddress addr := by
  rcases messageRecipients_filtered accepted with ⟨direct, copies, _, targets⟩
  refine ⟨fun addr => ?_, targets⟩
  rw [List.mem_append, mem_filterRecipients direct, mem_filterRecipients copies]
  constructor
  · rintro (⟨entry, member, matched, names⟩ | ⟨entry, member, matched, names⟩)
    · exact ⟨matched, entry, .inl member, names⟩
    · exact ⟨matched, entry, .inr member, names⟩
  · rintro ⟨matched, entry, member | member, names⟩
    · exact .inl ⟨entry, member, matched, names⟩
    · exact .inr ⟨entry, member, matched, names⟩

theorem mem_shown {recipients : Recipients}
    (accepted : messageRecipients receiver pending headers = .ok recipients)
    {addr : String} : addr ∈ recipients.toAddrs ++ recipients.cc ↔
      ∃ matched, StoredFor receiver pending headers matched addr :=
  (messageRecipients_spec accepted).1 addr

theorem mem_messageRecipients {recipients : Recipients}
    (accepted : messageRecipients receiver pending headers = .ok recipients)
    {addr : String} :
    addr ∈ recipients.rcpt ↔
      (∃ matched, StoredFor receiver pending headers matched addr) ∧
        Board.isBoardAddress addr = false := by
  rw [(messageRecipients_spec accepted).2, List.mem_filter, mem_shown accepted,
    Bool.not_eq_true']

theorem messageRecipients_ok
    (wellFormed : ∀ entry, HeaderEntry headers entry → bracketed entry ≠ none)
    {matched addr : String} (stored : StoredFor receiver pending headers matched addr) :
    ∃ recipients, messageRecipients receiver pending headers =
      .ok recipients := by
  have directs : ∃ kept, filterRecipients receiver.env.tables
      (pending.recipients.map receiver.env.tables.toLowercase)
      (addressEntries headers "to") = .ok kept :=
    filterRecipients_ok fun entry member => wellFormed entry (.inl member)
  have copied : ∃ kept, filterRecipients receiver.env.tables
      (pending.recipients.map receiver.env.tables.toLowercase)
      (addressEntries headers "cc") = .ok kept :=
    filterRecipients_ok fun entry member => wellFormed entry (.inr member)
  rcases directs with ⟨toAddrs, direct⟩
  rcases copied with ⟨cc, copies⟩
  rw [messageRecipients, direct, copies]
  simp only [bind, Except.bind]
  split
  · next empty =>
      simp only [Bool.and_eq_true, List.isEmpty_iff] at empty
      rcases stored with ⟨entry, member | member, names⟩
      · have kept : addr ∈ toAddrs :=
          (mem_filterRecipients direct).mpr ⟨entry, member, matched, names⟩
        rw [empty.1] at kept
        exact absurd kept List.not_mem_nil
      · have kept : addr ∈ cc :=
          (mem_filterRecipients copies).mpr ⟨entry, member, matched, names⟩
        rw [empty.2] at kept
        exact absurd kept List.not_mem_nil
  · exact ⟨_, rfl⟩

theorem wellFormed_of_accepted {recipients : Recipients}
    (accepted : messageRecipients receiver pending headers = .ok recipients)
    (entry : String) (member : HeaderEntry headers entry) :
    bracketed entry ≠ none := by
  rcases messageRecipients_filtered accepted with ⟨direct, copies, _⟩
  rcases member with member | member
  · exact wellFormed_of_filtered direct entry member
  · exact wellFormed_of_filtered copies entry member

theorem storedFor_of_accepted {recipients : Recipients}
    (accepted : messageRecipients receiver pending headers = .ok recipients) :
    ∃ matched addr, StoredFor receiver pending headers matched addr := by
  have present := (messageRecipients_filtered accepted).2.2.1
  rcases List.exists_mem_of_ne_nil _ present with ⟨addr, member⟩
  rcases (mem_shown accepted).mp member with ⟨matched, stored⟩
  exact ⟨matched, addr, stored⟩

theorem messageRecipients_congr {other : Pending}
    (same : other.recipients = pending.recipients) :
    messageRecipients receiver other headers =
      messageRecipients receiver pending headers := by
  rw [messageRecipients, messageRecipients, same]

/-- The message parses, its attachments are within the limits and no entry of
its headers has misplaced brackets. -/
structure Readable (receiver : Receiver) (messageData : String)
    (headers : List MailHeader) (body : String) (attachments : Nat) : Prop where
  parses : ∃ parsed, receiver.parser.parseMail messageData = some parsed ∧
    parsed.headers = headers ∧
    (receiver.parser.content parsed).1 = body ∧
    (receiver.parser.content parsed).2.length = attachments ∧
    validateAttachments receiver.config.attachmentLimits
      (receiver.parser.content parsed).2 none none = .ok ()
  wellFormed : ∀ entry, HeaderEntry headers entry → bracketed entry ≠ none

variable {body : String} {attachments : Nat} {recipients : Recipients}

theorem checkMessage_parses {attCount attSize : Option Nat}
    (checked : checkMessage receiver pending attCount attSize =
      .ok (headers, body, attachments, recipients)) :
    ∃ parsed, receiver.parser.parseMail pending.messageData = some parsed ∧
      parsed.headers = headers ∧
      (receiver.parser.content parsed).1 = body ∧
      (receiver.parser.content parsed).2.length = attachments ∧
      validateAttachments receiver.config.attachmentLimits
        (receiver.parser.content parsed).2 attCount attSize = .ok () ∧
      messageRecipients receiver pending headers = .ok recipients := by
  rw [checkMessage] at checked
  cases parse : receiver.parser.parseMail pending.messageData with
  | none =>
      rw [parse] at checked
      cases checked
  | some parsed =>
      rw [parse] at checked
      simp only at checked
      split at checked
      · cases checked
      · next valid =>
          cases named : messageRecipients receiver pending parsed.headers with
          | error response =>
              rw [named] at checked
              cases checked
          | ok accepted =>
              rw [named] at checked
              cases checked
              exact ⟨parsed, rfl, rfl, rfl, rfl, valid, named⟩

theorem checkMessage_ok :
    checkMessage receiver pending none none =
        .ok (headers, body, attachments, recipients) ↔
      Readable receiver pending.messageData headers body attachments ∧
        messageRecipients receiver pending headers = .ok recipients := by
  constructor
  · intro checked
    rcases checkMessage_parses checked with
      ⟨parsed, parse, head, text, count, valid, named⟩
    exact ⟨⟨⟨parsed, parse, head, text, count, valid⟩,
      wellFormed_of_accepted named⟩, named⟩
  · rintro ⟨⟨⟨parsed, parse, rfl, rfl, rfl, valid⟩, wellFormed⟩, named⟩
    simp only [checkMessage, parse, valid, named]
    rfl

/-- The email of an accepted message. -/
structure FiledAs (receiver : Receiver) (pending : Pending)
    (headers : List MailHeader) (recipients : Recipients) (row : EmailRecord) :
    Prop where
  systemId : row.systemId = primarySystem pending.systemId
  sender : row.sender = pending.sender
  recipients : row.recipients = recipients
  subject : row.subject = lastHeaderValue headers "subject"
  headers : row.headers = messageHeaders receiver pending headers

theorem processMessage_files {world : World}
    (readable : Readable receiver pending.messageData headers body attachments)
    (accepted : messageRecipients receiver pending headers = .ok recipients) :
    (processMessage receiver pending none none).Ends
      (fun _ later => ∃ row, Storage.Created world.db later.db row ∧
        FiledAs receiver pending headers recipients row)
      (fun _ _ => ¬ (receiver.env.Calm ∧ world.db.emails = .empty)) world := by
  have checked := checkMessage_ok.mpr ⟨readable, accepted⟩
  rw [processMessage, checked, ends_bind, ends_check_ok, ends_bind]
  apply learnBoardMembers_ends
  intro taught unchanged
  rw [ends_bind, ends_newUuid, ends_bind]
  apply drawIds_ends
  intro ids earlier same
  have before : earlier.db.emails = world.db.emails := by
    rw [same]
    exact unchanged
  simp only [ends_bind, ends_mapError]
  apply Storage.ends_insertEmail
  · intro failing _ _ _ calm
    refine failing ⟨calm.1, fun old member => ?_⟩
    rw [before, calm.2] at member
    exact absurd member List.not_mem_nil
  · intro createdAt emails middle insertion stored
    have inserted : Storage.newEmail (receiver.env.uuid taught.tick)
        (primarySystem pending.systemId) .inbound pending.sender recipients
        (lastHeaderValue headers "subject") body Option.none
        (messageHeaders receiver pending headers) receiver.config.maxAttempts
        createdAt ∈ middle.db.emails := by
      rw [stored]
      exact (Table.mem_of_insert? insertion).mpr (.inr rfl)
    have files (last : World) (kept : OnDb Storage.KeptMails middle last) :
        ∃ row, Storage.Created world.db last.db row ∧
          FiledAs receiver pending headers recipients row := by
      rcases kept _ inserted with ⟨row, member, origin⟩
      refine ⟨row, ⟨member, fun old present => ?_⟩,
        origin.systemId.symm, origin.sender.symm, origin.recipients.symm,
        origin.subject.symm, origin.headers.symm⟩
      rw [← before] at present
      have free := Table.conflict_false_of_insert? insertion old present
      rw [← origin.id]
      simpa [EmailRecord.conflict] using free
    rw [ends_when, ends_ignore]
    constructor
    · intro _
      have saved : (Storage.updateEmailAttachments receiver.env
          (receiver.env.uuid taught.tick) (ids.filter receiver.saves)).Moves
          (OnDb Storage.KeptMails) := Storage.updateEmailAttachments_keeps
      rw [moves_iff_ends] at saved
      exact (saved middle).mono (fun _ => files) (fun _ => files)
    · exact fun _ => files middle (.of_eq rfl)

theorem dataEnd_files {session : Session} {world : World}
    (gate : checkDeferredWhitelist receiver session = .ok ())
    (ready : session.pending = some pending) (named : pending.sender ≠ "")
    (readable : Readable receiver pending.messageData headers body attachments)
    (accepted : messageRecipients receiver pending headers = .ok recipients) :
    (dataEnd receiver).Ends
      (fun _ last => ∃ row, Storage.Created world.db last.world.db row ∧
        FiledAs receiver pending headers recipients row)
      (fun _ _ => ¬ (receiver.env.Calm ∧ world.db.emails = .empty))
      ⟨session, world⟩ := by
  rw [dataEnd, ends_bind, ends_current, gate, ends_bind, ends_check_ok,
    processDataEndPost, ends_bind]
  apply takePending_ends
  · intro missing
    rw [ready] at missing
    cases missing
  · intro taken last extracted
    rw [ready] at extracted
    cases extracted
    rw [ends_onWorld, processPending, if_neg named]
    exact processMessage_files readable accepted

/-! ## Headers of the email -/

theorem threadHeader_lookup {key other value : String} (differs : other ≠ key) :
    (threadHeader key value).lookup other = none := by
  rw [threadHeader]
  split
  · rfl
  · rw [List.lookup_cons, beq_eq_false_iff_ne.mpr differs]
    rfl

theorem rawHeader_lookup {name other : String} (differs : other ≠ name) :
    (rawHeader headers name).lookup other = none := by
  rw [rawHeader]
  split
  · rw [List.lookup_cons, beq_eq_false_iff_ne.mpr differs]
    rfl
  · rfl

theorem messageHeaders_lookup {key : String}
    (apart : key ∉ ["message_id", "in_reply_to", "references", "to", "cc",
      "from"]) :
    (messageHeaders receiver pending headers).lookup key =
      ((pending.persona.map fun persona => ("_persona", persona)).toList ++
        commandHeaders receiver (lastHeaderValue headers "subject")
          pending.senderWhitelisted).lookup key := by
  simp only [List.mem_cons, List.not_mem_nil, or_false, not_or] at apart
  rcases apart with ⟨messageId, inReplyTo, references, direct, copy, origin⟩
  rw [messageHeaders]
  simp only [List.lookup_append, threadHeader_lookup messageId,
    threadHeader_lookup inReplyTo, threadHeader_lookup references,
    rawHeader_lookup direct, rawHeader_lookup copy, rawHeader_lookup origin,
    Option.none_or]

theorem commandHeaders_lookup {subject key : String} {verdict : Bool}
    (stranger : key ≠ "x-mail-stranger") (command : key ≠ "x-mail-command") :
    (commandHeaders receiver subject verdict).lookup key = none := by
  rw [commandHeaders]
  split
  · rfl
  · cases verdict <;>
      simp [List.lookup_cons, beq_eq_false_iff_ne.mpr stranger,
        beq_eq_false_iff_ne.mpr command]

theorem messageHeaders_notice :
    (messageHeaders receiver pending headers).lookup "bounce_status" = none := by
  rw [messageHeaders_lookup (by decide), List.lookup_append,
    commandHeaders_lookup (by decide) (by decide)]
  cases pending.persona <;> simp [List.lookup_cons]

/-! ## Acceptance -/

theorem ends_of_fact {action : Action σ ε α} {state : σ} {fact : Prop}
    (holds : fact) : action.Ends (fun _ _ => fact) (fun _ _ => True) state := by
  rw [ends_iff_run]
  exact ⟨fun _ _ _ => holds, fun _ _ _ => trivial⟩

theorem dataEnd_accepts {session : Session} {world : World} :
    (dataEnd receiver).Ends
      (fun _ _ => checkDeferredWhitelist receiver session = .ok () ∧
        ∃ pending, session.pending = some pending ∧
          (pending.sender ≠ "" → ∃ headers body attachments recipients,
            Readable receiver pending.messageData headers body attachments ∧
            messageRecipients receiver pending headers = .ok recipients))
      (fun _ _ => True) ⟨session, world⟩ := by
  rw [dataEnd, ends_bind, ends_current, ends_bind, ends_check]
  refine ⟨fun _ gate => ?_, fun _ _ => trivial⟩
  rw [processDataEndPost, ends_bind]
  apply takePending_ends
  · exact fun _ _ _ => trivial
  · intro pending last ready
    rw [ends_onWorld, processPending]
    split
    · next blank =>
        exact ends_of_fact
          ⟨gate, pending, ready, fun named => absurd blank named⟩
    · rw [processMessage, ends_bind, ends_check]
      refine ⟨?_, fun _ _ => trivial⟩
      rintro ⟨headers, body, attachments, recipients⟩ checked
      exact ends_of_fact ⟨gate, pending, ready, fun _ => ⟨headers, body,
        attachments, recipients, checkMessage_ok.mp checked⟩⟩

theorem Readable.unique {messageData : String} {others : List MailHeader}
    {otherBody : String} {otherAttachments : Nat}
    (first : Readable receiver messageData headers body attachments)
    (second : Readable receiver messageData others otherBody otherAttachments) :
    headers = others := by
  rcases first.parses with ⟨parsed, parse, same, _⟩
  rcases second.parses with ⟨other, again, also, _⟩
  rw [parse] at again
  cases again
  rw [← same, ← also]

/-! ## What a session can file -/

def Receiver.placed (receiver : Receiver) (env : Surroundings) : Receiver :=
  { receiver with env := { env with tables := receiver.env.tables } }

theorem Readable.elsewhere {other : Receiver} {messageData : String}
    (readable : Readable receiver messageData headers body attachments)
    (parser : other.parser = receiver.parser)
    (config : other.config = receiver.config) :
    Readable other messageData headers body attachments := by
  refine ⟨?_, readable.wellFormed⟩
  rw [parser, config]
  exact readable.parses

/-- At the end of the data, in some surroundings and over some database, the
session can create the email. -/
def Session.Files (receiver : Receiver) (session : Session)
    (row : EmailRecord) : Prop :=
  ∃ env world, Storage.Created world.db
    ((dataEnd (receiver.placed env)).run ⟨session, world⟩).2.world.db row

variable {session : Session} {row : EmailRecord}

theorem Session.Files.accepted (files : session.Files receiver row) :
    checkDeferredWhitelist receiver session = .ok () ∧
      ∃ pending, session.pending = some pending ∧
        (pending.sender = "" ∧ (row.headers.lookup "bounce_status").isSome ∨
          pending.sender ≠ "" ∧ ∃ headers body attachments recipients,
            Readable receiver pending.messageData headers body attachments ∧
            messageRecipients receiver pending headers = .ok recipients ∧
            FiledAs receiver pending headers recipients row) := by
  rcases files with ⟨env, world, created⟩
  have ends : (dataEnd (receiver.placed env)).Ends
      (fun _ last => Creates (DataServed (receiver.placed env) session) world
        last.world)
      (fun _ last => Creates (DataServed (receiver.placed env) session) world
        last.world) ⟨session, world⟩ := by
    apply dataEnd_ends
    · exact fun _ _ => Creates.of_same rfl
    · intro pending outcome last later gate ready ran files
      have served : Creates (DataServed (receiver.placed env) session) world
          later := fun row created => ⟨gate, pending, ready, files row created⟩
      exact ⟨fun _ _ => served, fun _ _ => served⟩
  have served : DataServed (receiver.placed env) session row := by
    rw [ends_iff_run] at ends
    rcases result : (dataEnd (receiver.placed env)).run ⟨session, world⟩ with
      ⟨response | value, last⟩
    · rw [result] at created
      exact ends.2 response last result row created
    · rw [result] at created
      exact ends.1 value last result row created
  rcases served.filed with ⟨pending, ready, filed⟩
  refine ⟨served.gate, pending, ready, ?_⟩
  cases filed with
  | notice blank owned labelled => exact .inl ⟨blank, labelled⟩
  | message named headers body attachments recipients checked owned sent
      delivered titled labelled =>
      have accepted := checkMessage_ok.mp checked
      exact .inr ⟨named, headers, body, attachments, recipients,
        accepted.1.elsewhere rfl rfl, accepted.2, owned, sent, delivered, titled, labelled⟩

theorem Session.Files.of_accepted
    (gate : checkDeferredWhitelist receiver session = .ok ())
    (ready : session.pending = some pending) (named : pending.sender ≠ "")
    (readable : Readable receiver pending.messageData headers body attachments)
    (accepted : messageRecipients receiver pending headers = .ok recipients) :
    ∃ row, session.Files receiver row ∧
      FiledAs receiver pending headers recipients row := by
  have ends : (dataEnd (receiver.placed (.steady 0 ""))).Ends
      (fun _ last => ∃ row, Storage.Created Database.empty last.world.db row ∧
        FiledAs (receiver.placed (.steady 0 "")) pending headers recipients row)
      (fun _ _ => ¬ ((receiver.placed (.steady 0 "")).env.Calm ∧
        Database.empty.emails = .empty))
      ⟨session, World.start Database.empty⟩ :=
    dataEnd_files gate ready named (readable.elsewhere rfl rfl) accepted
  rw [ends_iff_run] at ends
  rcases result : (dataEnd (receiver.placed (.steady 0 ""))).run
      ⟨session, World.start Database.empty⟩ with ⟨response | value, last⟩
  · exact (ends.2 response last result ⟨fun _ => rfl, rfl⟩).elim
  · rcases ends.1 value last result with ⟨row, created, filed⟩
    refine ⟨row, ⟨.steady 0 "", World.start Database.empty, ?_⟩, filed.systemId,
      filed.sender, filed.recipients, filed.subject, filed.headers⟩
    rw [result]
    exact created

end Accepted

end AimailGateway.Smtp
