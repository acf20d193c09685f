import AimailGateway.Smtp.Filing
import AimailGateway.Webhook.ManagerCommands

/-! # The change of a manager

The command is read from the To and Cc of the stored email, of which the
receiver has kept the entries that stand for an envelope recipient. This says
which requests of a manager are carried out, and which other mails change one.
-/

namespace AimailGateway.Webhook.ManagerChange

open Library Action Smtp

section Statement

variable (receiver : Receiver) (pending : Pending) (parsed : ParsedMail)

def headerAddresses (name : String) : List String :=
  (addressEntries parsed.headers name).filterMap fun entry =>
    (bracketed entry).map Text.trim

/-- The address, or what is left of it without its persona, is an envelope
recipient. -/
def standsFor (addr : String) : Bool :=
  (envelopeMatch (pending.envelope receiver)
    (receiver.env.tables.toLowercase addr)).isSome

/-- The addresses of a header the receiver keeps. -/
def keptAddresses (name : String) : List String :=
  (headerAddresses parsed name).filter (standsFor receiver pending)

def bodyOf : String := (receiver.parser.content parsed).1

def commandOf : Option CommandKind :=
  detectCommand receiver.env.tables (lastHeaderValue parsed.headers "subject")

def namesBoth (tables : CaseTables) (body newManager agent : String) : Bool :=
  Text.containsChar '@' newManager && Text.containsChar '@' agent &&
    Text.containsText (tables.toLowercase newManager) (tables.toLowercase body) &&
    Text.containsText (tables.toLowercase agent) (tables.toLowercase body) &&
    (Text.containsText "change manager" (tables.toLowercase body) ||
      Text.containsText "更换安全员" (tables.toLowercase body))

/-- The mail asks to make `newManager` the manager of an envelope recipient. -/
structure Asks (agent newManager : String) : Prop where
  envelope : receiver.env.tables.toLowercase agent ∈ pending.envelope receiver
  command : commandOf receiver parsed = some .changeManager
  direct : headerAddresses parsed "to" = [newManager]
  copy : headerAddresses parsed "cc" = [agent]
  body : namesBoth receiver.env.tables (bodyOf receiver parsed) newManager agent =
    true

structure KeepsAsking (agent newManager : String) : Prop where
  direct : keptAddresses receiver pending parsed "to" = [newManager]
  copy : keptAddresses receiver pending parsed "cc" = [agent]
  body : namesBoth receiver.env.tables (bodyOf receiver parsed) newManager agent =
    true

structure Manages (env : Surroundings) (db : Database) (sender agent : String)
    (row : DomainAddrMetaRecord) : Prop where
  member : row ∈ db.domainAddrMeta
  named : row.emailAddress = env.tables.toLowercase agent
  manages : isManager sender row.managerAddress = true

/-- What is stored about an agent, times and flags apart. -/
def profile (row : DomainAddrMetaRecord) :
    String × String × String × String × String :=
  (row.emailAddress, row.systemId, row.managerAddress, row.agentSignature,
    row.agentPersona)

def SameProfiles (before after : Database) : Prop :=
  ∀ stored, (∃ row ∈ before.domainAddrMeta, profile row = stored) ↔
    ∃ row ∈ after.domainAddrMeta, profile row = stored

/-- What the command layer makes of the filed email. -/
structure Works (world filed : World) (record : EmailRecord) : Prop where
  asked : ∀ agent newManager row,
    Asks receiver pending parsed agent newManager →
    Manages receiver.env world.db pending.sender agent row →
      ∃ acks later, handleManagerCommands receiver.env record filed =
          (.ok ⟨true, acks⟩, later) ∧
        ∃ next ∈ later.db.domainAddrMeta, profile next = profile { row with
          managerAddress := receiver.env.tables.toLowercase newManager }
  unasked : commandOf receiver parsed ∈ [none, some .changeManager] →
    (∀ agent newManager row, Asks receiver pending parsed agent newManager →
      ¬ Manages receiver.env world.db pending.sender agent row) →
    SameProfiles world.db
      ((handleManagerCommands receiver.env record).run filed).2.db

/-- The new manager stands for an envelope recipient, or is the manager
already; and no other mail keeps asking for a change. -/
structure Reaches (world filed : World) : Prop where
  asked : ∀ agent newManager row,
    Asks receiver pending parsed agent newManager →
    Manages receiver.env world.db pending.sender agent row →
      receiver.env.fault filed.tick = none ∧
      (standsFor receiver pending newManager = true →
        receiver.env.fault (filed.tick + 2) = none) ∧
      (standsFor receiver pending newManager = false →
        row.managerAddress = receiver.env.tables.toLowercase newManager)
  unasked : commandOf receiver parsed = some .changeManager →
    (∀ agent newManager row, Asks receiver pending parsed agent newManager →
      ¬ Manages receiver.env world.db pending.sender agent row) →
    ∀ agent newManager row, KeepsAsking receiver pending parsed agent newManager →
      Manages receiver.env world.db pending.sender agent row →
      receiver.env.fault filed.tick = none →
      receiver.env.fault (filed.tick + 2) = none →
        row.managerAddress = receiver.env.tables.toLowercase newManager

end Statement

/-! ## Recipients that are kept -/

section Kept

variable {tables : CaseTables} {envelope entries kept : List String}

theorem trim_stored {entry inner : String} (trimmed : Text.trim entry = entry)
    (opened : bracketed entry = some inner) :
    stripMimeDisplay entry inner = Text.trim inner := by
  rw [← trim_stripMimeDisplay opened, stripMimeDisplay]
  split
  · exact (Text.trim_trim inner).symm
  · exact trimmed.symm

theorem filterRecipients_kept
    (trimmed : ∀ entry ∈ entries, Text.trim entry = entry)
    (filtered : filterRecipients tables envelope entries = .ok kept) :
    kept = (entries.filterMap fun entry =>
        (bracketed entry).map Text.trim).filter fun addr =>
      (envelopeMatch envelope (tables.toLowercase addr)).isSome := by
  induction entries generalizing kept with
  | nil =>
      cases filtered
      rfl
  | cons entry rest induction =>
      rcases filterRecipients_cons filtered with ⟨inner, more, opened, others, same⟩
      have inherits := induction (fun other member =>
        trimmed other (List.mem_cons_of_mem _ member)) others
      have stored : stripMimeDisplay entry inner = Text.trim inner :=
        trim_stored (trimmed entry List.mem_cons_self) opened
      have first : (fun entry => (bracketed entry).map Text.trim) entry =
          some (Text.trim inner) := by simp only [opened, Option.map_some]
      rw [List.filterMap_cons_some (l := rest) first, List.filter_cons, ← inherits,
        same, stored]

theorem trim_of_addressEntries {headers : List MailHeader} {name entry : String}
    (member : entry ∈ addressEntries headers name) :
    Text.trim entry = entry := by
  have there := (List.mem_filter.mp member).1
  rcases List.mem_flatMap.mp there with ⟨header, _, inside⟩
  rcases List.mem_map.mp inside with ⟨piece, _, rfl⟩
  exact Text.trim_trim piece

variable {receiver : Receiver} {pending : Pending} {parsed : ParsedMail}

theorem messageRecipients_kept {recipients : Recipients}
    (accepted : messageRecipients receiver pending parsed.headers =
      .ok recipients) :
    recipients.toAddrs = keptAddresses receiver pending parsed "to" ∧
      recipients.cc = keptAddresses receiver pending parsed "cc" := by
  rcases messageRecipients_filtered accepted with ⟨direct, copies, _⟩
  exact ⟨filterRecipients_kept (fun _ => trim_of_addressEntries) direct,
    filterRecipients_kept (fun _ => trim_of_addressEntries) copies⟩

theorem Asks.keeps {agent newManager : String}
    (asks : Asks receiver pending parsed agent newManager) :
    keptAddresses receiver pending parsed "cc" = [agent] ∧
      keptAddresses receiver pending parsed "to" =
        if standsFor receiver pending newManager then [newManager] else [] := by
  have own : standsFor receiver pending agent = true := by
    rw [standsFor, envelopeMatch, if_pos (List.contains_iff_mem.mpr asks.envelope)]
    rfl
  constructor
  · rw [keptAddresses, asks.copy, List.filter_cons, if_pos own, List.filter_nil]
  · rw [keptAddresses, asks.direct, List.filter_cons, List.filter_nil]

end Kept

/-! ## The email that is filed -/

section Filed

variable {receiver : Receiver} {pending : Pending} {parsed : ParsedMail}
  {attCount attSize : Option Nat} {world : World}

/-- What the command layer reads of the stored email. -/
structure FiledFrom (receiver : Receiver) (pending : Pending)
    (parsed : ParsedMail) (record : EmailRecord) : Prop where
  sender : record.sender = pending.sender
  subject : record.subject = lastHeaderValue parsed.headers "subject"
  body : record.body = bodyOf receiver parsed
  direct : record.recipients.toAddrs = keptAddresses receiver pending parsed "to"
  copy : record.recipients.cc = keptAddresses receiver pending parsed "cc"

theorem learnBoardMembers_frame {sender subject messageData : String}
    {ok : Unit → World → Prop} {failed : ε → World → Prop}
    (learnt : ∀ later, later.db.emails = world.db.emails →
      later.db.domainAddrMeta = world.db.domainAddrMeta → ok () later) :
    (learnBoardMembers receiver sender subject messageData).Ends ok failed
      world := by
  rw [learnBoardMembers]
  split
  · split
    · exact learnt _ rfl rfl
    · rw [ends_when, ends_ignore]
      refine ⟨fun _ => ?_, fun _ => learnt _ rfl rfl⟩
      apply call_ends
      · exact fun _ => learnt _ rfl rfl
      · intro answer db outcome
        cases outcome
        exact learnt _ rfl rfl
  · exact learnt _ rfl rfl

theorem processMessage_filed
    (parse : receiver.parser.parseMail pending.messageData = some parsed) :
    (processMessage receiver pending attCount attSize).Ends
      (fun _ later => later.db.domainAddrMeta = world.db.domainAddrMeta ∧
        ∀ record, Storage.Created world.db later.db record →
          FiledFrom receiver pending parsed record)
      (fun _ _ => True) world := by
  rw [processMessage, ends_bind, ends_check]
  refine ⟨?_, fun _ _ => trivial⟩
  rintro ⟨headers, body, attachments, recipients⟩ checked
  rcases checkMessage_parses checked with
    ⟨_, known, rfl, rfl, _, _, accepted⟩
  rw [parse] at known
  cases known
  have kept := messageRecipients_kept accepted
  rw [ends_bind]
  apply learnBoardMembers_frame
  intro taught unchanged agents
  rw [ends_bind, ends_newUuid, ends_bind]
  apply drawIds_ends
  intro ids earlier same
  have before : earlier.db.emails = world.db.emails := by
    rw [same]
    exact unchanged
  have still : earlier.db.domainAddrMeta = world.db.domainAddrMeta := by
    rw [same]
    exact agents
  simp only [ends_bind, ends_mapError]
  apply Storage.insertEmail_ends
  · exact fun _ _ _ => trivial
  · intro createdAt emails middle insertion stored
    have fresh : ∀ record ∈ middle.db.emails,
        (∀ old ∈ world.db.emails, old.id ≠ record.id) →
          FiledFrom receiver pending parsed record := by
      intro record member new
      rw [stored] at member
      rcases (Table.mem_of_insert? insertion).mp member with old | rfl
      · rw [before] at old
        exact absurd rfl (new record old)
      · exact ⟨rfl, rfl, rfl, kept.1, kept.2⟩
    have filed : middle.db.domainAddrMeta = world.db.domainAddrMeta ∧
        ∀ record, Storage.Created world.db middle.db record →
          FiledFrom receiver pending parsed record := by
      rw [stored]
      refine ⟨still, fun record created => ?_⟩
      have member := created.1
      rw [← stored] at member
      exact fresh record member created.2
    rw [ends_when, ends_ignore]
    refine ⟨fun _ => ?_, fun _ => filed⟩
    apply Storage.updateEmails_ends
    · intro _ later unchanged
      rw [unchanged]
      exact filed
    · intro emails later updated changed
      rw [changed]
      refine ⟨filed.1, fun record created => ?_⟩
      rcases (Table.mem_of_update? updated).mp created.1 with
        ⟨old, member, rfl⟩
      have new := created.2
      split at new
      · next own =>
          rw [if_pos own]
          have origin := fresh old member new
          exact { origin with }
      · next other =>
          rw [if_neg other]
          exact fresh old member new

theorem processDataEndPost_filed {session : Session}
    (ready : session.pending = some pending) (named : pending.sender ≠ "")
    (parse : receiver.parser.parseMail pending.messageData = some parsed) :
    (processDataEndPost receiver attCount attSize).Ends
      (fun _ last => last.world.db.domainAddrMeta = world.db.domainAddrMeta ∧
        ∀ record, Storage.Created world.db last.world.db record →
          FiledFrom receiver pending parsed record)
      (fun _ _ => True) ⟨session, world⟩ := by
  rw [processDataEndPost, ends_bind]
  apply takePending_ends
  · exact fun _ _ _ => trivial
  · intro taken last extracted
    rw [ready] at extracted
    cases extracted
    rw [ends_onWorld, processPending, if_neg named]
    exact processMessage_filed parse

end Filed

/-! ## Rows of agents -/

section Rows

variable {env : Surroundings} {db : Database} {sender agent : String}
  {row : DomainAddrMetaRecord}

theorem Manages.congr {other : Database}
    (same : other.domainAddrMeta = db.domainAddrMeta) :
    Manages env other sender agent row ↔ Manages env db sender agent row := by
  constructor
  · rintro ⟨member, named, manages⟩
    rw [same] at member
    exact ⟨member, named, manages⟩
  · rintro ⟨member, named, manages⟩
    rw [← same] at member
    exact ⟨member, named, manages⟩

theorem Manages.found (manages : Manages env db sender agent row) :
    db.domainAddrMeta.find? (·.emailAddress == env.tables.toLowercase agent) =
      some row := by
  apply Table.find?_eq_some_of_mem DomainAddrMetaRecord.conflict_comm
  · intro other chosen
    rw [DomainAddrMetaRecord.conflict, manages.named]
    exact chosen
  · exact manages.member
  · exact beq_iff_eq.mpr manages.named

theorem eq_of_address {first second : DomainAddrMetaRecord}
    (there : first ∈ db.domainAddrMeta) (member : second ∈ db.domainAddrMeta)
    (same : first.emailAddress = second.emailAddress) : first = second :=
  Table.eq_of_conflict DomainAddrMetaRecord.conflict_comm there member
    (beq_iff_eq.mpr same)

theorem upsert_existing {record : DomainAddrMetaRecord}
    (member : row ∈ db.domainAddrMeta)
    (named : row.emailAddress = record.emailAddress) :
    ∃ after, db.domainAddrMeta.upsert? (·.emailAddress == record.emailAddress)
        (Storage.overwriteMeta record) record = some after ∧
      ∀ next, next ∈ after ↔ next = Storage.overwriteMeta record row ∨
        next ∈ db.domainAddrMeta ∧ next.emailAddress ≠ record.emailAddress := by
  have present : db.domainAddrMeta.rows.any
      (·.emailAddress == record.emailAddress) = true :=
    List.any_eq_true.mpr ⟨row, member, beq_iff_eq.mpr named⟩
  have address : ∀ old : DomainAddrMetaRecord,
      (if (old.emailAddress == record.emailAddress) = true
        then Storage.overwriteMeta record old else old).emailAddress =
          old.emailAddress := by
    intro old
    split
    · next own => exact (beq_iff_eq.mp own).symm
    · rfl
  have succeeds : ∃ after, db.domainAddrMeta.update?
      (·.emailAddress == record.emailAddress) (Storage.overwriteMeta record) =
        some after := by
    apply Table.update?_isSome
    apply db.domainAddrMeta.distinct.imp
    intro first second free
    rw [DomainAddrMetaRecord.conflict] at free ⊢
    rw [address, address, free]
  obtain ⟨after, updated⟩ := succeeds
  refine ⟨after, ?_, fun next => ?_⟩
  · rw [Table.upsert?, if_pos present, updated]
  · rw [Table.mem_of_update? updated]
    constructor
    · rintro ⟨old, there, rfl⟩
      split
      · next own =>
          left
          rw [eq_of_address there member ((beq_iff_eq.mp own).trans named.symm)]
      · next other =>
          exact .inr ⟨there, fun same => other (beq_iff_eq.mpr same)⟩
    · rintro (rfl | ⟨there, other⟩)
      · exact ⟨row, member, if_pos (beq_iff_eq.mpr named)⟩
      · exact ⟨next, there, if_neg fun same => other (beq_iff_eq.mp same)⟩

end Rows

/-! ## Runs of the command -/

section Runs

variable {receiver : Receiver} {pending : Pending} {parsed : ParsedMail}
  {record : EmailRecord} {filed : World} {agent newManager : String}
  {row : DomainAddrMetaRecord}
  {env : Surroundings}

theorem trim_of_kept {name addr : String}
    (kept : addr ∈ keptAddresses receiver pending parsed name) :
    Text.trim addr = addr := by
  have member := (List.mem_filter.mp kept).1
  rcases List.mem_filterMap.mp member with ⟨entry, _, opened⟩
  rcases Option.map_eq_some_iff.mp opened with ⟨inner, _, rfl⟩
  exact Text.trim_trim inner

theorem matchTransfer_pair {tables : CaseTables} {first second : String}
    (direct : record.recipients.toAddrs = [first])
    (copy : record.recipients.cc = [second]) (one : Text.trim first = first)
    (two : Text.trim second = second) {command : ManagerCommand} :
    matchTransfer tables record = .ok command ↔
      namesBoth tables record.body first second = true ∧
        command = .transferManager first second := by
  rw [matchTransfer, direct, copy, namesBoth]
  simp only [one, two]
  generalize Text.containsChar '@' first = firstAt
  generalize Text.containsChar '@' second = secondAt
  generalize Text.containsText (tables.toLowercase first) _ = namesFirst
  generalize Text.containsText (tables.toLowercase second) _ = namesSecond
  generalize Text.containsText "change manager" _ = english
  generalize Text.containsText "更换安全员" _ = chinese
  grind

theorem matchTransfer_iff (origin : FiledFrom receiver pending parsed record)
    {command : ManagerCommand} :
    matchTransfer receiver.env.tables record = .ok command ↔
      ∃ agent newManager, KeepsAsking receiver pending parsed agent newManager ∧
        command = .transferManager newManager agent := by
  have trimmed {name addr : String}
      (kept : keptAddresses receiver pending parsed name = [addr]) :
      Text.trim addr = addr :=
    trim_of_kept (by rw [kept]; exact List.mem_singleton_self addr)
  constructor
  · intro taken
    have whole := taken
    rw [matchTransfer] at taken
    split at taken
    · next first second direct copy =>
        have keptTo := origin.direct.symm.trans direct
        have keptCc := origin.copy.symm.trans copy
        rw [matchTransfer_pair direct copy (trimmed keptTo) (trimmed keptCc),
          origin.body] at whole
        exact ⟨second, first, ⟨keptTo, keptCc, whole.1⟩, whole.2⟩
    · cases taken
    · cases taken
  · rintro ⟨agent, newManager, keeps, rfl⟩
    rw [matchTransfer_pair (origin.direct.trans keeps.direct)
      (origin.copy.trans keeps.copy) (trimmed keeps.direct) (trimmed keeps.copy),
      origin.body]
    exact ⟨keeps.body, rfl⟩

theorem handle_change (origin : FiledFrom receiver pending parsed record)
    (command : commandOf receiver parsed = some .changeManager) :
    handleManagerCommands receiver.env record =
      handleChangeManager receiver.env record (kindName .changeManager) := by
  rw [commandOf, ← origin.subject] at command
  rw [handleManagerCommands, command]

theorem attempt_bind_run {action : Action World ε α}
    {rest : Except ε α → Action World δ β} {outcome : Except ε α}
    {world later : World} (ran : action world = (outcome, later)) :
    (action.attempt >>= rest) world = rest outcome later := by
  simp only [bind, attempt, ran]

theorem getDomainAddrMeta_run {sender : String}
    (lookup : env.fault filed.tick = none)
    (manages : Manages env filed.db sender agent row) :
    Storage.getDomainAddrMeta env agent filed =
      (.ok (some row), filed.later) := by
  simp only [Storage.getDomainAddrMeta, query, call, lookup, manages.found]
  rfl

theorem transferManager_run {ε : Type} {name : String}
    (trimmed : Text.trim newManager = newManager)
    (manages : Manages env filed.db record.sender agent row) :
    ∃ acks later,
      (transferManager env record name newManager agent : Action World ε Handled)
        filed = (.ok ⟨(env.fault filed.tick).isNone &&
          (env.fault (filed.tick + 2)).isNone, acks⟩, later) ∧
      if env.fault filed.tick = none ∧ env.fault (filed.tick + 2) = none then
        ∃ changed, profile changed = profile { row with
            managerAddress := env.tables.toLowercase newManager } ∧
          ∀ next, next ∈ later.db.domainAddrMeta ↔ next = changed ∨
            next ∈ filed.db.domainAddrMeta ∧
              next.emailAddress ≠ env.tables.toLowercase agent
      else later.db = filed.db := by
  have manager : ¬ (!isManager record.sender row.managerAddress) = true := by
    rw [manages.manages]
    decide
  cases lookup : env.fault filed.tick with
  | some fault =>
      have asked : Storage.getDomainAddrMeta env agent filed =
          (.error fault.error, filed.later) := by
        simp only [Storage.getDomainAddrMeta, query, call, lookup]
      refine ⟨[], filed.later, ?_, ?_⟩
      · rw [transferManager, attempt_bind_run asked]
        rfl
      · rw [if_neg (by simp)]
        rfl
  | none =>
      have asked := getDomainAddrMeta_run lookup manages
      cases write : env.fault (filed.tick + 2) with
      | some fault =>
          have written : Storage.upsertDomainAddrMeta env agent row.systemId
              (some newManager) (some row.agentSignature) (some row.agentPersona)
              filed.later = (.error fault.error, ⟨filed.db, filed.tick + 3⟩) := by
            simp only [Storage.upsertDomainAddrMeta, bind, now, World.later, call,
              write]
          refine ⟨[.command agent record.sender row.systemId name ""
            (some fault.error.toText)], ⟨filed.db, filed.tick + 3⟩, ?_, ?_⟩
          · rw [transferManager, attempt_bind_run asked]
            simp only
            rw [if_neg manager, attempt_bind_run written]
            rfl
          · rw [if_neg (by simp)]
      | none =>
          obtain ⟨after, upserted, rows⟩ := @upsert_existing filed.db row
            (Storage.newDomainAddrMeta (env.tables.toLowercase agent)
              row.systemId (env.tables.toLowercase (Text.trim newManager))
              row.agentSignature row.agentPersona (env.clock (filed.tick + 1)))
            manages.member manages.named
          have written : Storage.upsertDomainAddrMeta env agent row.systemId
              (some newManager) (some row.agentSignature) (some row.agentPersona)
              filed.later = (.ok (Storage.newDomainAddrMeta
                (env.tables.toLowercase agent) row.systemId
                (env.tables.toLowercase (Text.trim newManager))
                row.agentSignature row.agentPersona (env.clock (filed.tick + 1))),
              ⟨{ filed.db with domainAddrMeta := after }, filed.tick + 3⟩) := by
            simp only [Storage.upsertDomainAddrMeta, bind, now, World.later, call,
              write, Option.getD_some, upserted]
            rfl
          refine ⟨[.command agent record.sender row.systemId name
              ("manager of " ++ agent ++ " changed: " ++ record.sender ++
                " → " ++ newManager) none,
            .newManager newManager agent row.systemId],
            ⟨{ filed.db with domainAddrMeta := after }, filed.tick + 3⟩, ?_, ?_⟩
          · rw [transferManager, attempt_bind_run asked]
            simp only
            rw [if_neg manager, attempt_bind_run written]
            rfl
          · rw [if_pos ⟨rfl, rfl⟩]
            refine ⟨_, ?_, rows⟩
            simp only [profile, Storage.overwriteMeta, Storage.newDomainAddrMeta,
              trimmed, manages.named]

theorem agentIsRegistered_run {ε : Type} {sender : String}
    (manages : Manages env filed.db sender agent row) :
    (agentIsRegistered env agent : Action World ε Bool) filed =
      (.ok (env.fault filed.tick).isNone, filed.later) := by
  cases lookup : env.fault filed.tick with
  | some fault =>
      have asked : Storage.getDomainAddrMeta env agent filed =
          (.error fault.error, filed.later) := by
        simp only [Storage.getDomainAddrMeta, query, call, lookup]
      rw [agentIsRegistered, attempt_bind_run asked]
      rfl
  | none =>
      rw [agentIsRegistered, attempt_bind_run (getDomainAddrMeta_run lookup manages)]
      rfl

theorem refuseTransfer_run {ε : Type}
    {name reason sender : String} (copy : record.recipients.cc = [agent])
    (there : agent ≠ "") (manages : Manages env filed.db sender agent row) :
    ∃ acks, (refuseTransfer env record name reason : Action World ε Handled)
      filed = (.ok ⟨(env.fault filed.tick).isNone, acks⟩, filed.later) := by
  have label : record.recipients.cc.head?.getD "" = agent := by
    rw [copy]
    rfl
  have named : ¬ (agent == "") = true := fun same => there (beq_iff_eq.mp same)
  have registered : (agentIsRegistered env agent : Action World ε Bool) filed =
      (.ok (env.fault filed.tick).isNone, filed.later) :=
    agentIsRegistered_run manages
  rw [refuseTransfer]
  simp only [label]
  rw [if_neg named]
  simp only [bind, registered]
  cases env.fault filed.tick with
  | some fault => exact ⟨[], rfl⟩
  | none => exact ⟨[.failed agent name reason], rfl⟩

theorem keepsAsking_run (origin : FiledFrom receiver pending parsed record)
    (command : commandOf receiver parsed = some .changeManager)
    (keeps : KeepsAsking receiver pending parsed agent newManager)
    (manages : Manages receiver.env filed.db pending.sender agent row) :
    ∃ acks later, handleManagerCommands receiver.env record filed =
        (.ok ⟨(receiver.env.fault filed.tick).isNone &&
          (receiver.env.fault (filed.tick + 2)).isNone, acks⟩, later) ∧
      if receiver.env.fault filed.tick = none ∧
          receiver.env.fault (filed.tick + 2) = none then
        ∃ changed, profile changed = profile { row with
            managerAddress := receiver.env.tables.toLowercase newManager } ∧
          ∀ next, next ∈ later.db.domainAddrMeta ↔ next = changed ∨
            next ∈ filed.db.domainAddrMeta ∧
              next.emailAddress ≠ receiver.env.tables.toLowercase agent
      else later.db = filed.db := by
  have payload : matchPayload receiver.env.tables .changeManager record =
      .ok (.ok (.transferManager newManager agent)) :=
    congrArg Except.ok ((matchTransfer_iff origin).mpr ⟨agent, newManager, keeps, rfl⟩)
  have trimmed : Text.trim newManager = newManager :=
    trim_of_kept (by rw [keeps.direct]; exact List.mem_singleton_self newManager)
  rw [← origin.sender] at manages
  rw [handle_change origin command, handleChangeManager, payload]
  exact transferManager_run trimmed manages

theorem notKept_run (origin : FiledFrom receiver pending parsed record)
    (asks : Asks receiver pending parsed agent newManager)
    (other : standsFor receiver pending newManager = false)
    (manages : Manages receiver.env filed.db pending.sender agent row) :
    ∃ acks, handleManagerCommands receiver.env record filed =
      (.ok ⟨(receiver.env.fault filed.tick).isNone, acks⟩, filed.later) := by
  have nobody : keptAddresses receiver pending parsed "to" = [] := by
    rw [asks.keeps.2, other]
    rfl
  have there : agent ≠ "" := by
    rintro rfl
    have body := asks.body
    simp [namesBoth, Text.containsChar] at body
  have copy : record.recipients.cc = [agent] := origin.copy.trans asks.keeps.1
  cases payload : matchTransfer receiver.env.tables record with
  | ok command =>
      rcases (matchTransfer_iff origin).mp payload with
        ⟨otherAgent, someone, keeps, rfl⟩
      have kept := keeps.direct
      rw [nobody] at kept
      cases kept
  | error reason =>
      have refused : matchPayload receiver.env.tables .changeManager record =
          .ok (.error reason) := congrArg Except.ok payload
      rw [handle_change origin asks.command, handleChangeManager, refused]
      exact refuseTransfer_run copy there manages

theorem unasked_run (origin : FiledFrom receiver pending parsed record)
    (command : commandOf receiver parsed ∈ [none, some .changeManager])
    (others : commandOf receiver parsed = some .changeManager →
      ∀ agent newManager row,
        KeepsAsking receiver pending parsed agent newManager →
          ¬ Manages receiver.env filed.db pending.sender agent row) :
    ((handleManagerCommands receiver.env record).run filed).2.db = filed.db := by
  have ends : (handleManagerCommands receiver.env record).Ends
      (fun _ later => later.db = filed.db) (fun _ later => later.db = filed.db)
      filed := by
    rcases List.mem_cons.mp command with none' | change
    · have silent : detectCommand receiver.env.tables record.subject = none := by
        rw [origin.subject]
        exact none'
      rw [handleManagerCommands, silent]
      exact rfl
    · have change := List.mem_singleton.mp change
      rw [handle_change origin change, handleChangeManager, ends_bind, ends_check]
      refine ⟨fun payload taken => ?_, fun _ _ => rfl⟩
      cases taken
      cases payload : matchTransfer receiver.env.tables record with
      | error reason => exact refuseTransfer_keeps
      | ok command =>
          rcases (matchTransfer_iff origin).mp payload with
            ⟨agent, newManager, keeps, rfl⟩
          show (transferManager _ _ _ _ _).Ends _ _ _
          rw [transferManager, ends_bind, ends_attempt]
          apply Storage.getDomainAddrMeta_ends
          · exact fun _ => rfl
          · exact fun _ => rfl
          · intro row member named
            dsimp only
            split
            · exact rfl
            · next manages =>
                refine absurd ?_ (others change agent newManager row keeps)
                refine ⟨member, named, ?_⟩
                rw [← origin.sender]
                simpa using manages
  rw [ends_iff_run] at ends
  rcases ran : (handleManagerCommands receiver.env record).run filed with
    ⟨error | value, later⟩
  · exact ends.2 error later ran
  · exact ends.1 value later ran

end Runs

/-! ## Profiles -/

section Profiles

variable {env : Surroundings} {before after : Database} {sender agent : String}
  {newManager : String} {row changed : DomainAddrMetaRecord}

theorem SameProfiles.of_eq (same : after.domainAddrMeta = before.domainAddrMeta) :
    SameProfiles before after := by
  intro stored
  rw [same]

theorem manager_of_profile (manages : Manages env before sender agent row)
    (same : profile changed = profile { row with managerAddress := newManager })
    (member : changed ∈ before.domainAddrMeta) :
    row.managerAddress = newManager := by
  have address : changed.emailAddress = row.emailAddress :=
    congrArg Prod.fst same
  have manager : changed.managerAddress = newManager :=
    congrArg (fun stored => stored.2.2.1) same
  rw [← eq_of_address member manages.member address, manager]

theorem SameProfiles.of_change (manages : Manages env before sender agent row)
    (already : row.managerAddress = newManager)
    (same : profile changed = profile { row with managerAddress := newManager })
    (rows : ∀ next, next ∈ after.domainAddrMeta ↔ next = changed ∨
      next ∈ before.domainAddrMeta ∧
        next.emailAddress ≠ env.tables.toLowercase agent) :
    SameProfiles before after := by
  have kept : profile changed = profile row := by rw [same, ← already]
  intro stored
  constructor
  · rintro ⟨old, there, rfl⟩
    by_cases own : old.emailAddress = env.tables.toLowercase agent
    · rw [eq_of_address there manages.member (own.trans manages.named.symm)]
      exact ⟨changed, (rows changed).mpr (.inl rfl), kept⟩
    · exact ⟨old, (rows old).mpr (.inr ⟨there, own⟩), rfl⟩
  · rintro ⟨next, there, rfl⟩
    rcases (rows next).mp there with rfl | ⟨old, _⟩
    · exact ⟨row, manages.member, kept.symm⟩
    · exact ⟨next, old, rfl⟩

end Profiles

section Exact

variable {receiver : Receiver} {pending : Pending} {parsed : ParsedMail}
  {world filed : World} {record : EmailRecord}

theorem Asks.keepsAsking {agent newManager : String}
    (asks : Asks receiver pending parsed agent newManager)
    (stands : standsFor receiver pending newManager = true) :
    KeepsAsking receiver pending parsed agent newManager :=
  ⟨by rw [asks.keeps.2, if_pos stands], asks.keeps.1, asks.body⟩

theorem Works.reaches (agents : filed.db.domainAddrMeta = world.db.domainAddrMeta)
    (origin : FiledFrom receiver pending parsed record)
    (works : Works receiver pending parsed world filed record) :
    Reaches receiver pending parsed world filed := by
  constructor
  · intro agent newManager row asks manages
    obtain ⟨acks, later, ran, next, member, same⟩ :=
      works.asked agent newManager row asks manages
    have there := (Manages.congr agents).mpr manages
    cases stands : standsFor receiver pending newManager with
    | true =>
        obtain ⟨_, _, runs, _⟩ := keepsAsking_run origin asks.command
          (asks.keepsAsking stands) there
        rw [runs] at ran
        have consumed := congrArg Handled.consumed
          (Except.ok.inj (Prod.mk.inj ran).1)
        simp only [Bool.and_eq_true, Option.isNone_iff_eq_none] at consumed
        exact ⟨consumed.1, fun _ => consumed.2, by rintro ⟨⟩⟩
    | false =>
        obtain ⟨_, runs⟩ := notKept_run origin asks stands there
        rw [runs] at ran
        have consumed := congrArg Handled.consumed
          (Except.ok.inj (Prod.mk.inj ran).1)
        have ended := (Prod.mk.inj ran).2
        rw [← ended, World.later_db, agents] at member
        exact ⟨Option.isNone_iff_eq_none.mp consumed, by rintro ⟨⟩,
          fun _ => manager_of_profile manages same member⟩
  · intro command unasked agent newManager row keeps manages lookup write
    obtain ⟨acks, later, runs, changes⟩ := keepsAsking_run origin command keeps
      ((Manages.congr agents).mpr manages)
    rw [if_pos ⟨lookup, write⟩] at changes
    obtain ⟨changed, same, rows⟩ := changes
    have profiles := works.unasked
      (List.mem_cons_of_mem _ (List.mem_singleton.mpr command)) unasked
    rw [run, runs] at profiles
    obtain ⟨old, member, kept⟩ := (profiles (profile changed)).mpr
      ⟨changed, (rows changed).mpr (.inl rfl), rfl⟩
    exact manager_of_profile manages (kept.trans same) member

theorem Reaches.works (agents : filed.db.domainAddrMeta = world.db.domainAddrMeta)
    (origin : FiledFrom receiver pending parsed record)
    (reaches : Reaches receiver pending parsed world filed) :
    Works receiver pending parsed world filed record := by
  constructor
  · intro agent newManager row asks manages
    have there := (Manages.congr agents).mpr manages
    obtain ⟨lookup, kept, already⟩ :=
      reaches.asked agent newManager row asks manages
    cases stands : standsFor receiver pending newManager with
    | true =>
        obtain ⟨acks, later, runs, changes⟩ := keepsAsking_run origin
          asks.command (asks.keepsAsking stands) there
        rw [if_pos ⟨lookup, kept stands⟩] at changes
        obtain ⟨changed, same, rows⟩ := changes
        rw [lookup, kept stands] at runs
        exact ⟨acks, later, runs, changed, (rows changed).mpr (.inl rfl), same⟩
    | false =>
        obtain ⟨acks, runs⟩ := notKept_run origin asks stands there
        rw [lookup] at runs
        refine ⟨acks, filed.later, runs, row, there.member, ?_⟩
        rw [← already stands]
  · intro command unasked
    by_cases asking : ∃ agent newManager row,
        commandOf receiver parsed = some .changeManager ∧
        KeepsAsking receiver pending parsed agent newManager ∧
        Manages receiver.env world.db pending.sender agent row
    · obtain ⟨agent, newManager, row, change, keeps, manages⟩ := asking
      obtain ⟨acks, later, runs, changes⟩ := keepsAsking_run origin change keeps
        ((Manages.congr agents).mpr manages)
      rw [run, runs]
      split at changes
      · next calm =>
          obtain ⟨changed, same, rows⟩ := changes
          rw [agents] at rows
          exact .of_change manages (reaches.unasked change unasked agent
            newManager row keeps manages calm.1 calm.2) same rows
      · exact .of_eq (by rw [changes, agents])
    · apply SameProfiles.of_eq
      rw [unasked_run origin command fun change agent newManager row keeps there =>
        asking ⟨agent, newManager, row, change, keeps,
          (Manages.congr agents).mp there⟩]
      exact agents

end Exact

/-- The command works exactly for requests whose new manager stands for an
envelope recipient, or is the manager already, and the headers of no other mail
shrink to a request of the manager. -/
theorem managerChange_exact (receiver : Receiver) (pending : Pending)
    (parsed : ParsedMail) (attCount attSize : Option Nat)
    (session last : Session) (world filed : World) (record : EmailRecord)
    (ready : session.pending = some pending) (named : pending.sender ≠ "")
    (parse : receiver.parser.parseMail pending.messageData = some parsed)
    (accepted : (processDataEndPost receiver attCount attSize).run
      ⟨session, world⟩ = (.ok (), ⟨last, filed⟩))
    (created : Storage.Created world.db filed.db record) :
    Works receiver pending parsed world filed record ↔
      Reaches receiver pending parsed world filed := by
  have ends : (processDataEndPost receiver attCount attSize).Ends _ _
      ⟨session, world⟩ := processDataEndPost_filed ready named parse
  rw [ends_iff_run] at ends
  obtain ⟨agents, files⟩ := ends.1 () _ accepted
  have origin := files record created
  constructor
  · exact fun works => works.reaches agents origin
  · exact fun reaches => reaches.works agents origin

/-! ## A new manager elsewhere -/

/-- The agent of the samples, managed from another gateway. -/
def annOfMia : DomainAddrMetaRecord :=
  Storage.newDomainAddrMeta "ann@a.test" "sys-a" "mia@c.test" "Ann" "sales" 0

def agentOfMia : World :=
  World.start { Database.empty with
    systemDomains := ⟨[registration "d1" "sys-a" "ann@a.test"], by decide⟩
    domainAddrMeta := ⟨[annOfMia], by decide⟩ }

/-- Mia asks to make an address of a third gateway the manager. -/
def requestOfMia : Pending where
  sender := "mia@c.test"
  recipients := ["ann@a.test"]
  systemId := "sys-a"
  messageData := "Subject: [CMD] change manager\nTo: new@b.test\n" ++
    "Cc: ann@a.test\n\nchange manager: new@b.test for ann@a.test"
  persona := none
  senderWhitelisted := true

def mailOfMia : ParsedMail :=
  .part "text/plain" [⟨"Subject", "[CMD] change manager"⟩,
    ⟨"To", "new@b.test"⟩, ⟨"Cc", "ann@a.test"⟩]
    (some "change manager: new@b.test for ann@a.test") none []

/-- A gateway that has received this message. -/
def receiverOfMia : Receiver :=
  { plainReceiver with parser := {
      plainParser with parseMail := fun _ => some mailOfMia } }

def sessionOfMia : Session where
  sender := some requestOfMia.sender
  recipients := requestOfMia.recipients
  messageData := requestOfMia.messageData
  domain := some "a.test"
  systemId := some requestOfMia.systemId
  persona := none
  senderWhitelisted := true

def afterRequest : Connection :=
  ((processDataEndPost receiverOfMia none none).run ⟨sessionOfMia, agentOfMia⟩).2

def filedRequest : EmailRecord :=
  Storage.newEmail "0123456789abcdef" "sys-a" .inbound "mia@c.test"
    ⟨[], ["ann@a.test"], ["ann@a.test"]⟩ "[CMD] change manager"
    "change manager: new@b.test for ann@a.test" none
    (messageHeaders receiverOfMia requestOfMia mailOfMia.headers) 3 0

theorem managerChange_exact_mia :
    Works receiverOfMia requestOfMia mailOfMia agentOfMia afterRequest.world
        filedRequest ↔
      Reaches receiverOfMia requestOfMia mailOfMia agentOfMia
        afterRequest.world :=
  managerChange_exact receiverOfMia requestOfMia mailOfMia none none sessionOfMia
    afterRequest.session agentOfMia afterRequest.world filedRequest rfl
    (by decide) rfl
    (Prod.ext (by decide +kernel) rfl)
    ⟨Table.mem_rows.mp (by decide +kernel),
      fun _ member => absurd member List.not_mem_nil⟩

/-- The request is accepted and consumed, but its To is empty by then: the
manager stays. -/
theorem external_manager_refused :
    ((processDataEndPost receiverOfMia none none).run
        ⟨sessionOfMia, agentOfMia⟩).1 = .ok () ∧
      Asks receiverOfMia requestOfMia mailOfMia "ann@a.test" "new@b.test" ∧
      Manages receiverOfMia.env agentOfMia.db "mia@c.test" "ann@a.test"
        annOfMia ∧
      ((handleManagerCommands receiverOfMia.env filedRequest).run
          afterRequest.world).1 = .ok ⟨true, [.failed "ann@a.test"
            "change manager" ("exactly one recipient in To: is required " ++
              "(the new manager); found 0")]⟩ ∧
      ¬ Works receiverOfMia requestOfMia mailOfMia agentOfMia
        afterRequest.world filedRequest := by
  have asks : Asks receiverOfMia requestOfMia mailOfMia "ann@a.test"
      "new@b.test" :=
    ⟨by decide +kernel, by decide +kernel, by decide +kernel, by decide +kernel,
      by decide +kernel⟩
  have manages : Manages receiverOfMia.env agentOfMia.db "mia@c.test"
      "ann@a.test" annOfMia :=
    ⟨List.mem_singleton_self annOfMia, by decide +kernel, by decide +kernel⟩
  have unchanged : ((handleManagerCommands receiverOfMia.env filedRequest).run
      afterRequest.world).2.db.domainAddrMeta.rows = [annOfMia] := by
    decide +kernel
  refine ⟨by decide +kernel, asks, manages, by decide +kernel, fun works => ?_⟩
  obtain ⟨acks, later, ran, next, member, same⟩ :=
    works.asked "ann@a.test" "new@b.test" annOfMia asks manages
  rw [run, ran] at unchanged
  have own : next = annOfMia := by
    rw [← Table.mem_rows, unchanged] at member
    exact List.mem_singleton.mp member
  rw [own] at same
  exact absurd same (by decide +kernel)

end AimailGateway.Webhook.ManagerChange
