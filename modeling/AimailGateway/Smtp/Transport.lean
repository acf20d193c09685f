import AimailGateway.Smtp.Engine
import AimailGateway.Smtp.Outcomes

/-! # The transport loop

`handle_smtp_session_blocking` reads the lines of a connection. Before a line
reaches the engine, the loop counts the bytes of messages and looks for the
size that a MAIL command declares. A slice of a line that ends inside a
character ends the connection with a panic, and so does a panic of the handler.
-/

namespace AimailGateway.Smtp

open Library Action

/-! ## The loop -/

/-- What the loop keeps between two lines. -/
structure Transport (σ : Type) where
  session : Fsm σ
  inDataPhase : Bool
  dataBytesTotal : Nat
  declaredSize : Option Nat

/-- A new connection. -/
def Transport.start (handler : σ) : Transport σ :=
  ⟨.start handler, false, 0, none⟩

/-- What a line comes to, with the code that is written. -/
inductive Handled (σ : Type) where
  | panicked
  | stopped (answer : Option Nat)
  | goesOn (answer : Option Nat) (next : Transport σ)

section Loop

variable (tables : CaseTables) (maxMsgSize : Nat) (handler : Handler σ)

/-- `str::parse::<u64>` of decimal digits. -/
def parseU64 (digits : List Char) : Option Nat :=
  if digits = [] then none
  else
    let value := digits.foldl (fun total digit =>
      total * 10 + (digit.toNat - '0'.toNat)) 0
    if value < Nat.pow 2 64 then some value else none

/-- `MAIL FROM` interception: the size declared after the line, or nothing if
a slice panics. -/
def interceptSize (line : String) (declaredSize : Option Nat) :
    Option (Option Nat) :=
  if 6 < Text.byteLength line then
    match Text.sliceTo 6 line with
    | none => none
    | some head =>
        if Text.eqIgnoreAsciiCase head "MAIL FR" then
          match Text.find " SIZE=" (tables.toUppercase line) with
          | none => some none
          | some pos =>
              (Text.sliceFrom (pos + 6) line).map fun rest =>
                parseU64 (rest.toList.takeWhile Char.isDigit)
        else some declaredSize
  else some declaredSize

/-- The engine processes the line. An answer that cannot be written ends the
connection. -/
def converseLine (transport : Transport σ) (line : String) (writable : Bool) :
    Handled σ :=
  match process handler transport.session line with
  | (response, session) =>
      let next : Transport σ := {
        session
        inDataPhase := transport.inDataPhase || response.code == 354
        dataBytesTotal := if response.code = 354 then 0
          else transport.dataBytesTotal
        declaredSize := if transport.inDataPhase ∧ response.code = 250 then none
          else transport.declaredSize }
      match response.action with
      | .close => .stopped (some response.code)
      | .reply =>
          if writable then .goesOn (some response.code) next
          else .stopped (some response.code)
      | .noReply => .goesOn none next
      | .upgradeTls => .stopped none
      | .unwinds => .panicked

/-- One turn of the loop. -/
def handleLine (transport : Transport σ) (line : String) (writable : Bool) :
    Handled σ :=
  let counted := if transport.inDataPhase then
      transport.dataBytesTotal + Text.byteLength line
    else transport.dataBytesTotal
  if transport.inDataPhase ∧ maxMsgSize < counted then
    .stopped (some 552)
  else
    match interceptSize tables line transport.declaredSize with
    | none => .panicked
    | some declaredSize =>
        let trimmed := Text.trim line
        let asksForData := transport.inDataPhase = false ∧
          Text.byteLength trimmed = 4 ∧ Text.eqIgnoreAsciiCase trimmed "data"
        match declaredSize with
        | some size =>
            if asksForData then
              if maxMsgSize < size then
                .goesOn (some 552) { transport with
                  dataBytesTotal := counted, declaredSize := none }
              else
                converseLine handler { transport with
                  dataBytesTotal := counted, declaredSize := none } line writable
            else
              converseLine handler { transport with
                dataBytesTotal := counted, declaredSize } line writable
        | none =>
            converseLine handler { transport with
              dataBytesTotal := counted, declaredSize := none } line writable

/-- A line, with what the loop knew before it and the code it wrote. -/
structure Exchange (σ : Type) where
  before : Transport σ
  line : String
  answer : Option Nat

/-- The exchanges of a connection and whether it ended with a panic. Each line
comes with whether an answer to it can be written; the client may stop after
any line. -/
def handleSmtpSessionBlocking (transport : Transport σ) :
    List (String × Bool) → List (Exchange σ) × Bool
  | [] => ([], false)
  | (line, writable) :: rest =>
      match handleLine tables maxMsgSize handler transport line writable with
      | .panicked => ([⟨transport, line, none⟩], true)
      | .stopped answer => ([⟨transport, line, answer⟩], false)
      | .goesOn answer next =>
          match handleSmtpSessionBlocking next rest with
          | (exchanges, panicked) =>
              (⟨transport, line, answer⟩ :: exchanges, panicked)

end Loop

/-! ## What a client may rely on -/

/-- The property holds of each element with those before it. -/
def AtEach (holds : List α → α → Prop) : List α → List α → Prop
  | _, [] => True
  | past, element :: rest =>
      holds past element ∧ AtEach holds (past ++ [element]) rest

instance (holds : List α → α → Prop)
    [∀ past element, Decidable (holds past element)] :
    (past rest : List α) → Decidable (AtEach holds past rest)
  | _, [] => inferInstanceAs (Decidable True)
  | past, element :: rest =>
      have := instDecidableAtEach holds (past ++ [element]) rest
      inferInstanceAs (Decidable (_ ∧ _))

def sizeDeclared (line : String) : Option Nat :=
  ((Text.words line).find? fun word =>
    Text.startsWith "size=" (Text.toAsciiLowercase word)).map fun word =>
      ((word.toList.drop 5).takeWhile Char.isDigit).foldl (fun total digit =>
        total * 10 + (digit.toNat - '0'.toNat)) 0

namespace Exchange

variable (handler : Handler σ) (maxMsgSize : Nat)

/-- What the engine replies to the line. -/
def reply (exchange : Exchange σ) : Reply :=
  (process handler exchange.before.session exchange.line).1

/-- A MAIL command that opens a transaction. -/
def opens (exchange : Exchange σ) : Bool :=
  match exchange.before.session.smtp, parse exchange.line with
  | some (.hello _), some (.mail _ _) => !(exchange.reply handler).isError
  | _, _ => false

/-- A DATA command in a transaction with recipients. -/
def asksForData (exchange : Exchange σ) : Bool :=
  match exchange.before.session.smtp, parse exchange.line with
  | some (.rcpt _ _ _ _), some .data => true
  | _, _ => false

/-- The transaction was opened with a size that exceeds the maximum. -/
def oversize (past : List (Exchange σ)) (exchange : Exchange σ) : Bool :=
  exchange.asksForData && (((past.reverse.find? (·.opens handler)).bind
    (sizeDeclared ·.line)).any (maxMsgSize < ·))

def Refused (past : List (Exchange σ)) (exchange : Exchange σ) : Prop :=
  exchange.oversize handler maxMsgSize past = true → exchange.answer = some 552

instance (past : List (Exchange σ)) (exchange : Exchange σ) :
    Decidable (exchange.Refused handler maxMsgSize past) :=
  inferInstanceAs (Decidable (_ → _))

/-- The line exceeds the bytes that a message may have, counted from the last
DATA on. -/
def Exhausted (exchange : Exchange σ) : Prop :=
  exchange.before.inDataPhase = true ∧
    maxMsgSize < exchange.before.dataBytesTotal + Text.byteLength exchange.line

/-- The sixth byte of the line is the end of a character, if the line is
longer. -/
def Sliceable (line : String) : Prop :=
  6 < Text.byteLength line → (Text.sliceTo 6 line).isSome = true

instance (line : String) : Decidable (Sliceable line) :=
  inferInstanceAs (Decidable (_ → _))

/-- The line is sliced where a character ends, the handler does not panic on
it, and it is no DATA of an oversize transaction that the engine admits. -/
def Harmless (past : List (Exchange σ)) (exchange : Exchange σ) : Prop :=
  exchange.Exhausted maxMsgSize ∨ Sliceable exchange.line ∧
    (exchange.reply handler).action ≠ .unwinds ∧
    (exchange.oversize handler maxMsgSize past = true →
      (exchange.reply handler).code = 552)

end Exchange

/-- No line ends the connection with a panic, and an oversize message is refused
in whichever transaction it is declared. -/
def Survives (tables : CaseTables) (maxMsgSize : Nat) (handler : Handler σ)
    (start : σ) (lines : List (String × Bool)) : Prop :=
  (handleSmtpSessionBlocking tables maxMsgSize handler (.start start) lines).2 =
      false ∧
    AtEach (Exchange.Refused handler maxMsgSize) []
      (handleSmtpSessionBlocking tables maxMsgSize handler (.start start) lines).1

instance (tables : CaseTables) (maxMsgSize : Nat) (handler : Handler σ)
    (start : σ) (lines : List (String × Bool)) :
    Decidable (Survives tables maxMsgSize handler start lines) :=
  inferInstanceAs (Decidable (_ ∧ _))

/-! ## One line -/

section Line

variable {tables : CaseTables} {maxMsgSize : Nat} {handler : Handler σ}
  {transport : Transport σ} {line : String} {writable : Bool}

theorem length_of_splitBytes {text first rest : List Char} {count : Nat}
    (split : Text.splitBytes text count = some (first, rest)) :
    first.length ≤ count := by
  induction text generalizing first count with
  | nil =>
      cases count with
      | zero =>
          cases split
          exact Nat.le_refl _
      | succ count => cases split
  | cons head tail induction =>
      cases count with
      | zero =>
          cases split
          exact Nat.zero_le _
      | succ count =>
          rw [Text.splitBytes] at split
          split at split
          · cases others : Text.splitBytes tail (count + 1 - head.utf8Size) with
            | none =>
                rw [others] at split
                cases split
            | some both =>
                rw [others] at split
                cases split
                have shorter := induction others
                have wide : 0 < head.utf8Size := Char.utf8Size_pos head
                rw [List.length_cons]
                omega
          · cases split

theorem intercept_unmatched {head : String}
    (sliced : Text.sliceTo 6 line = some head) :
    Text.eqIgnoreAsciiCase head "MAIL FR" = false := by
  rw [Text.sliceTo] at sliced
  cases both : Text.splitBytes line.toList 6 with
  | none =>
      rw [both] at sliced
      cases sliced
  | some pair =>
      rw [both] at sliced
      cases sliced
      have short := length_of_splitBytes both
      rw [Text.eqIgnoreAsciiCase, beq_eq_false_iff_ne]
      intro same
      have lengths := congrArg (fun text => text.toList.length) same
      simp only [Text.toAsciiLowercase, String.toList_ofList, List.length_map]
        at lengths
      have seven : "MAIL FR".toList.length = 7 := rfl
      omega

theorem interceptSize_none :
    interceptSize tables line none =
      if Exchange.Sliceable line then some none else none := by
  rw [interceptSize]
  split
  · next long =>
      cases sliced : Text.sliceTo 6 line with
      | none =>
          have breaks : ¬ Exchange.Sliceable line := by
            intro sliceable
            have some := sliceable long
            rw [sliced] at some
            cases some
          rw [if_neg breaks]
      | some head =>
          have sliceable : Exchange.Sliceable line := by
            intro _
            rw [sliced]
            rfl
          rw [if_pos sliceable]
          simp [intercept_unmatched sliced]
  · next short =>
      have sliceable : Exchange.Sliceable line := fun long => absurd long short
      rw [if_pos sliceable]

def Reply.written (reply : Reply) : Option Nat :=
  match reply.action with
  | .close | .reply => some reply.code
  | .noReply | .upgradeTls | .unwinds => none

/-- What the engine makes of a line ends the connection or leaves no size
noted. -/
inductive Converses (reply : Reply) : Handled σ → Prop where
  | unwound (unwinds : reply.action = .unwinds) : Converses reply .panicked
  | stopped (answers : reply.action ≠ .unwinds) :
      Converses reply (.stopped reply.written)
  | goesOn (answers : reply.action ≠ .unwinds) (next : Transport σ)
      (unnoted : next.declaredSize = none) :
      Converses reply (.goesOn reply.written next)

theorem converseLine_converses {reply : Reply}
    (same : reply = (process handler transport.session line).1)
    (unnoted : transport.declaredSize = none) :
    Converses reply (converseLine handler transport line writable) := by
  rw [same, converseLine]
  rcases process handler transport.session line with ⟨⟨code, isError, action⟩, session⟩
  cases action with
  | unwinds => exact .unwound rfl
  | close => exact .stopped (by simp)
  | upgradeTls => exact .stopped (by simp)
  | noReply =>
      refine .goesOn (by simp) _ ?_
      simp [unnoted]
  | reply =>
      simp only
      split
      · refine .goesOn (by simp) _ ?_
        simp [unnoted]
      · exact .stopped (by simp)

/-- What a line comes to while no size is noted. -/
inductive Outcome (maxMsgSize : Nat) (handler : Handler σ)
    (exchange : Exchange σ) : Handled σ → Prop where
  | exhausted (counted : exchange.Exhausted maxMsgSize) :
      Outcome maxMsgSize handler exchange (.stopped (some 552))
  | panicked (counted : ¬ exchange.Exhausted maxMsgSize)
      (breaks : ¬ Exchange.Sliceable exchange.line) :
      Outcome maxMsgSize handler exchange .panicked
  | conversed {handled : Handled σ} (counted : ¬ exchange.Exhausted maxMsgSize)
      (sliceable : Exchange.Sliceable exchange.line)
      (converses : Converses (exchange.reply handler) handled) :
      Outcome maxMsgSize handler exchange handled

theorem handleLine_outcome (unnoted : transport.declaredSize = none)
    (answer : Option Nat) :
    Outcome maxMsgSize handler ⟨transport, line, answer⟩
      (handleLine tables maxMsgSize handler transport line writable) := by
  have exhausted_iff : Exchange.Exhausted maxMsgSize ⟨transport, line, answer⟩ ↔
      transport.inDataPhase = true ∧ maxMsgSize <
        if transport.inDataPhase then
          transport.dataBytesTotal + Text.byteLength line
        else transport.dataBytesTotal := by
    rw [Exchange.Exhausted]
    refine and_congr_right fun receiving => ?_
    rw [if_pos receiving]
  rw [handleLine, unnoted]
  simp only
  by_cases counted : Exchange.Exhausted maxMsgSize ⟨transport, line, answer⟩
  · rw [if_pos (exhausted_iff.mp counted)]
    exact .exhausted counted
  · rw [if_neg fun counts => counted (exhausted_iff.mpr counts),
      interceptSize_none]
    by_cases sliceable : Exchange.Sliceable line
    · rw [if_pos sliceable]
      exact .conversed counted sliceable (converseLine_converses rfl rfl)
    · rw [if_neg sliceable]
      exact .panicked counted sliceable

end Line

/-! ## Every line of a connection -/

section Lines

variable {tables : CaseTables} {maxMsgSize : Nat} {handler : Handler σ}

theorem transformState_fst {current next : State} {res : Reply} :
    (transformState current res next).1 = res := by
  rw [transformState]
  split
  · rfl
  · split <;> rfl

theorem written_of_asksForData {exchange : Exchange σ}
    (asks : exchange.asksForData = true)
    (answers : (exchange.reply handler).action ≠ .unwinds) :
    (exchange.reply handler).written = some (exchange.reply handler).code := by
  rw [Exchange.asksForData] at asks
  split at asks
  · next domain reversePath is8bit forwardPath phase command =>
      have custom (code : Nat) :
          (Reply.custom code).written = some (Reply.custom code).code := by
        by_cases closing : code = 221 ∨ code = 421 <;>
          simp [Reply.custom, Reply.written, closing]
      have replied : ∃ answer, exchange.reply handler =
          if (Reply.of answer).isError then Reply.of answer
          else Reply.startData := by
        rw [Exchange.reply, process, phase]
        simp only [command, handle]
        refine ⟨(handler.dataStart domain reversePath is8bit forwardPath
          exchange.before.session.handler).1, ?_⟩
        rw [transformState_fst]
      obtain ⟨answer, same⟩ := replied
      rw [same] at answers ⊢
      cases answer with
      | none => exact absurd rfl answers
      | some code => split <;> exact custom _
  · cases asks

theorem refused_iff_harmless {past : List (Exchange σ)} {exchange : Exchange σ}
    (counted : ¬ exchange.Exhausted maxMsgSize)
    (sliceable : Exchange.Sliceable exchange.line)
    (answers : (exchange.reply handler).action ≠ .unwinds)
    (answered : exchange.answer = (exchange.reply handler).written) :
    exchange.Refused handler maxMsgSize past ↔
      exchange.Harmless handler maxMsgSize past := by
  have same : exchange.Refused handler maxMsgSize past ↔
      (exchange.oversize handler maxMsgSize past = true →
        (exchange.reply handler).code = 552) := by
    refine forall_congr' fun oversize => ?_
    have asks : exchange.asksForData = true := by
      rw [Exchange.oversize, Bool.and_eq_true] at oversize
      exact oversize.1
    rw [answered, written_of_asksForData asks answers, Option.some.injEq]
  rw [same]
  constructor
  · exact fun refuses => .inr ⟨sliceable, answers, refuses⟩
  · rintro (exhausted | ⟨_, _, refuses⟩)
    · exact absurd exhausted counted
    · exact refuses

theorem survives_from {transport : Transport σ} {past : List (Exchange σ)}
    {lines : List (String × Bool)} (unnoted : transport.declaredSize = none) :
    ((handleSmtpSessionBlocking tables maxMsgSize handler transport lines).2 =
        false ∧
      AtEach (Exchange.Refused handler maxMsgSize) past
        (handleSmtpSessionBlocking tables maxMsgSize handler transport lines).1) ↔
      AtEach (Exchange.Harmless handler maxMsgSize) past
        (handleSmtpSessionBlocking tables maxMsgSize handler transport lines).1 := by
  induction lines generalizing transport past with
  | nil => exact iff_of_true ⟨rfl, trivial⟩ trivial
  | cons entry rest induction =>
      rcases entry with ⟨line, writable⟩
      have outcome (answer : Option Nat) : Outcome maxMsgSize handler
          ⟨transport, line, answer⟩
          (handleLine tables maxMsgSize handler transport line writable) :=
        handleLine_outcome unnoted answer
      rw [handleSmtpSessionBlocking]
      cases handled : handleLine tables maxMsgSize handler transport line writable with
      | panicked =>
          have breaks := outcome none
          rw [handled] at breaks
          refine iff_of_false (fun survives => by cases survives.1) ?_
          rintro ⟨harmless, _⟩
          cases breaks with
          | panicked counted breaks =>
              rcases harmless with exhausted | ⟨sliceable, _⟩
              · exact counted exhausted
              · exact breaks sliceable
          | conversed counted _ converses =>
              cases converses with
              | unwound unwinds =>
                  rcases harmless with exhausted | ⟨_, answers, _⟩
                  · exact counted exhausted
                  · exact answers unwinds
      | stopped answer =>
          have stops := outcome answer
          rw [handled] at stops
          simp only [AtEach, and_true, true_and]
          generalize reached : (Handled.stopped answer : Handled σ) = result at stops
          cases stops with
          | exhausted counted =>
              cases reached
              exact iff_of_true (fun _ => rfl) (.inl counted)
          | panicked _ _ => cases reached
          | conversed counted sliceable converses =>
              cases converses with
              | unwound _ => cases reached
              | stopped answers =>
                  exact refused_iff_harmless counted sliceable answers
                    (Handled.stopped.inj reached)
              | goesOn _ next _ => cases reached
      | goesOn answer next =>
          have goes := outcome answer
          rw [handled] at goes
          simp only
          generalize reached : (Handled.goesOn answer next : Handled σ) = result
            at goes
          cases goes with
          | exhausted _ => cases reached
          | panicked _ _ => cases reached
          | conversed counted sliceable converses =>
              cases converses with
              | unwound _ => cases reached
              | stopped _ => cases reached
              | goesOn answers later unnoted =>
                  rcases Handled.goesOn.inj reached with ⟨answered, same⟩
                  rw [← same] at unnoted
                  rw [AtEach, AtEach, ← induction unnoted,
                    ← refused_iff_harmless counted sliceable answers answered]
                  exact and_left_comm

end Lines

/-! ## The messages on which the gateway panics -/

/-- A To or Cc header has an entry with its last `>` before its last `<`, and
nothing is refused before the entries are read. -/
def breaksEntry (receiver : Receiver) (messageData : String) : Bool :=
  match receiver.parser.parseMail messageData with
  | none => false
  | some parsed =>
      match validateAttachments receiver.config.attachmentLimits
          (receiver.parser.content parsed).2 none none with
      | .error _ => false
      | .ok () =>
          (addressEntries parsed.headers "to" ++
            addressEntries parsed.headers "cc").any fun entry =>
              (bracketed entry).isNone

/-- The message of the session has such an entry and is read at its end. -/
def Session.unwinds (receiver : Receiver) (session : Session) : Bool :=
  match checkDeferredWhitelist receiver session, session.pending with
  | .ok (), some pending =>
      pending.sender != "" && breaksEntry receiver pending.messageData
  | _, _ => false

/-- The line ends such a message. -/
def Exchange.breaks (receiver : Receiver) (exchange : Exchange Connection) :
    Bool :=
  match exchange.before.session.smtp with
  | some (.data _) =>
      exchange.line == ".\r\n" &&
        exchange.before.session.handler.session.unwinds receiver
  | _ => false

/-- A refusal of the receiver's own. -/
def Response.Refuses (response : Response) : Prop :=
  response.code = 550 ∨ response.code = 451

/-- A broken message ends in a panic, any other at most in a refusal. -/
def Response.Settles (response : Response) : Bool → Prop
  | true => response = panicked
  | false => response.Refuses

theorem permFail_refuses (message : String) : (permFail message).Refuses :=
  .inl rfl

theorem tempFail_refuses (message : String) : (tempFail message).Refuses :=
  .inr rfl

theorem Response.Refuses.answers {response : Response}
    (refuses : response.Refuses) : response ≠ panicked := by
  rintro rfl
  simp [Refuses, panicked] at refuses

section Panics

variable {receiver : Receiver} {session : Session} {world : World}

theorem filterRecipients_eq (tables : CaseTables) (envelope entries : List String) :
    ∃ kept, filterRecipients tables envelope entries =
      if entries.any fun entry => (bracketed entry).isNone then .error panicked
      else .ok kept := by
  induction entries with
  | nil => exact ⟨[], rfl⟩
  | cons entry rest induction =>
      rcases induction with ⟨kept, same⟩
      rw [filterRecipients]
      cases opened : bracketed entry with
      | none => exact ⟨[], by simp [opened]⟩
      | some inner =>
          rw [same]
          cases broken : rest.any fun entry => (bracketed entry).isNone with
          | true => exact ⟨[], by simp [opened, broken, bind, Except.bind]⟩
          | false =>
              refine ⟨if (envelopeMatch envelope
                (tables.toLowercase (Text.trim inner))).isSome then
                  stripMimeDisplay entry inner :: kept else kept, ?_⟩
              simp only [bind, Except.bind, pure, Except.pure, List.any_cons,
                opened, broken, Option.isNone_some, Bool.or_self,
                Bool.false_eq_true, if_false]
              split <;> rfl

theorem checkMessage_settles (pending : Pending) :
    (∀ message, checkMessage receiver pending none none = .ok message →
      breaksEntry receiver pending.messageData = false) ∧
    ∀ response, checkMessage receiver pending none none = .error response →
      response.Settles (breaksEntry receiver pending.messageData) := by
  rw [checkMessage, breaksEntry]
  cases receiver.parser.parseMail pending.messageData with
  | none => simp [Response.Settles, tempFail_refuses]
  | some parsed =>
      simp only
      cases validateAttachments receiver.config.attachmentLimits
          (receiver.parser.content parsed).2 none none with
      | error error => simp [Response.Settles, permFail_refuses]
      | ok valid =>
          obtain ⟨toAddrs, toFiltered⟩ := filterRecipients_eq receiver.env.tables
            (pending.recipients.map receiver.env.tables.toLowercase)
            (addressEntries parsed.headers "to")
          obtain ⟨cc, ccFiltered⟩ := filterRecipients_eq receiver.env.tables
            (pending.recipients.map receiver.env.tables.toLowercase)
            (addressEntries parsed.headers "cc")
          simp only [messageRecipients, toFiltered, ccFiltered, List.any_append]
          cases (addressEntries parsed.headers "to").any fun entry =>
              (bracketed entry).isNone with
          | true => simp [bind, Except.bind, Response.Settles]
          | false =>
              cases (addressEntries parsed.headers "cc").any fun entry =>
                  (bracketed entry).isNone with
              | true => simp [bind, Except.bind, Response.Settles]
              | false =>
                  by_cases unmatched : toAddrs = [] ∧ cc = []
                  · simp [unmatched, bind, Except.bind, Response.Settles,
                      permFail_refuses]
                  · simp [unmatched, bind, Except.bind, pure, Except.pure]

theorem processMessage_answers {pending : Pending} :
    (processMessage receiver pending none none).Ends
      (fun _ _ => breaksEntry receiver pending.messageData = false)
      (fun response _ => response.Settles
        (breaksEntry receiver pending.messageData)) world := by
  have settles := @checkMessage_settles receiver pending
  rw [processMessage, ends_bind, ends_check]
  constructor
  · rintro ⟨headers, body, attachments, recipients⟩ checked
    rw [settles.1 _ checked, ends_bind]
    apply learnBoardMembers_ends
    intro taught _
    rw [ends_bind, ends_newUuid, ends_bind]
    apply drawIds_ends
    intro ids earlier _
    rw [ends_bind, ends_mapError, ends_iff_run]
    constructor
    · intro record later _
      rw [ends_when, ends_ignore, ends_iff_run]
      exact ⟨fun _ => ⟨fun _ _ _ => rfl, fun _ _ _ => rfl⟩, fun _ => rfl⟩
    · exact fun error _ _ => tempFail_refuses _
  · exact settles.2

theorem processBounce_answers {pending : Pending} :
    (processBounce receiver pending).Ends (fun _ _ => True)
      (fun _ _ => False) world := by
  rw [processBounce]
  cases parseBounceDsn receiver.parser pending.messageData with
  | none => trivial
  | some dsn =>
      simp only [ends_bind]
      apply verifyBounce_ends
      intro found later _
      cases found with
      | none => trivial
      | some originalId =>
          change (createBounceNotification receiver dsn pending.systemId
            (pending.recipients.headD "") originalId :
              Action World Response Unit).Ends _ _ later
          rw [createBounceNotification, ends_bind, ends_newUuid, ends_bind,
            ends_attempt, ends_iff_run]
          constructor
          · intro record stored _
            have deletes (completed : World) :
                ((Storage.deleteEmail receiver.env originalId).ignore :
                  Action World Response Unit).Ends (fun _ _ => True)
                  (fun _ _ => False) completed := by
              rw [ends_ignore, ends_iff_run]
              exact ⟨fun _ _ _ => trivial, fun _ _ _ => trivial⟩
            dsimp only
            rw [ends_bind, ends_ignore, ends_iff_run]
            exact ⟨fun _ completed _ => deletes completed,
              fun _ completed _ => deletes completed⟩
          · intro error stored _
            trivial

theorem dataEnd_answers :
    (dataEnd receiver).Ends (fun _ _ => session.unwinds receiver = false)
      (fun response _ => response.Settles (session.unwinds receiver))
      ⟨session, world⟩ := by
  rw [dataEnd, ends_bind, ends_current, ends_bind, ends_check]
  constructor
  · intro _ gate
    have unready (none : session.pending = none) :
        session.unwinds receiver = false := by
      rw [Session.unwinds, gate, none]
    rw [processDataEndPost, ends_bind, takePending, ends_bind, ends_current]
    cases opened : session.sender with
    | none =>
        have whole := unready (by simp [Session.pending, opened])
        rw [whole]
        exact tempFail_refuses _
    | some sender =>
        simp only [ends_bind, ends_update]
        cases addressed : session.recipients.isEmpty with
        | true =>
            have whole := unready (by
              cases system : session.systemId <;>
                simp [Session.pending, opened, system, addressed])
            rw [whole]
            exact permFail_refuses _
        | false =>
            simp only [Bool.false_eq_true, if_false]
            cases system : session.systemId with
            | none =>
                have whole := unready
                  (by simp [Session.pending, opened, system])
                rw [whole]
                exact tempFail_refuses _
            | some systemId =>
                cases domain : session.domain.isNone with
                | true =>
                    have whole := unready
                      (by simp [Session.pending, opened, system, domain])
                    rw [whole]
                    exact tempFail_refuses _
                | false =>
                    have ready : session.pending = some ⟨sender,
                        session.recipients, systemId, session.messageData,
                        session.persona, session.senderWhitelisted⟩ := by
                      simp [Session.pending, opened, system, addressed, domain]
                    rw [Session.unwinds, gate, ready]
                    simp only [Bool.false_eq_true, if_false, ends_bind,
                      ends_update, ends_pure]
                    rw [ends_onWorld, processPending]
                    by_cases blank : sender = ""
                    · simp only [blank, if_true]
                      exact processBounce_answers.mono (fun _ _ _ => by simp)
                        fun _ _ never => never.elim
                    · simp only [if_neg blank, bne_iff_ne.mpr blank,
                        Bool.true_and]
                      exact processMessage_answers
  · intro response refused
    rw [Session.unwinds, refused]
    rw [checkDeferredWhitelist] at refused
    split at refused
    · cases refused
    · split at refused
      · cases refused
      · split at refused
        · cases refused
        · cases refused
          exact permFail_refuses _

/-- The action never panics. -/
def Answers {state : Type} {α : Type} (action : Action state Response α) :
    Prop :=
  ∀ start, action.Ends (fun _ _ => True)
    (fun response _ => response.Refuses) start

theorem Answers.bind {state : Type} {α β : Type}
    {action : Action state Response β} {rest : β → Action state Response α}
    (first : Answers action) (others : ∀ value, Answers (rest value)) :
    Answers (action >>= rest) := by
  intro start
  rw [ends_bind]
  exact (first start).mono (fun value next _ => others value next)
    fun _ _ refused => refused

theorem Answers.pure {state : Type} {α : Type} (value : α) :
    Answers (Pure.pure value : Action state Response α) :=
  fun _ => trivial

theorem Answers.fail {state : Type} {α : Type} {response : Response}
    (answers : response.Refuses) :
    Answers (Action.fail response : Action state Response α) :=
  fun _ => answers

theorem Answers.attempt {state : Type} {α δ : Type} {action : Action state δ α} :
    Answers action.attempt := by
  intro start
  rw [ends_attempt, ends_iff_run]
  exact ⟨fun _ _ _ => trivial, fun _ _ _ => trivial⟩

theorem Answers.onWorld {α : Type} {action : Action World Response α}
    (answers : Answers action) : Answers (Smtp.onWorld action) := by
  intro connection
  rw [ends_onWorld]
  exact answers connection.world

theorem Answers.update {change : Session → Session} :
    Answers (Smtp.update change) :=
  fun _ => trivial

theorem mail_answers (sender : String) : Answers (mail receiver sender) := by
  refine .bind .update fun _ => .bind .attempt fun found => ?_
  rcases found with error | none | row
  · exact .fail (tempFail_refuses _)
  · exact .pure _
  · exact .fail (permFail_refuses _)

theorem resolveRecipient_answers (recipient : String) :
    Answers (resolveRecipient receiver recipient) := by
  have accepts (row : SystemDomainRecord) (addr persona : String) :
      Answers (acceptRegistration row addr persona) := by
    rw [acceptRegistration]
    split
    · exact .fail (permFail_refuses _)
    · exact .pure _
  refine .bind .attempt fun found => ?_
  rcases found with error | none | row
  · exact .fail (tempFail_refuses _)
  · dsimp only
    split
    · exact .fail (permFail_refuses _)
    · refine .bind .attempt fun found => ?_
      rcases found with error | none | row
      · exact .fail (tempFail_refuses _)
      · exact .fail (permFail_refuses _)
      · exact accepts _ _ _
  · exact accepts _ _ _

theorem checkSender_answers (addr : String) :
    Answers (checkSender receiver addr) := by
  have stored : Answers (storedSender : Action Connection Response _) :=
    fun _ => trivial
  refine .bind stored fun sender => ?_
  cases sender with
  | none => exact .pure _
  | some sender =>
      refine .bind .attempt fun verdict => ?_
      cases verdict with
      | error error => exact .fail (tempFail_refuses _)
      | ok verdict => exact .update

theorem rcpt_answers (recipient : String) :
    Answers (rcpt receiver recipient) := by
  have board : Answers ((onWorld
      (resolveBoardRecipient receiver recipient)).mapError
        BoardAddrError.response) := by
    intro connection
    rw [ends_mapError, ends_iff_run]
    refine ⟨fun _ _ _ => trivial, fun error _ _ => ?_⟩
    cases error with
    | noSystem => exact tempFail_refuses _
    | _ => exact permFail_refuses _
  rw [rcpt]
  split
  · rw [rcptBoardAddr]
    exact .bind board fun _ => .bind .update fun _ =>
      .bind (checkSender_answers _) fun _ => .update
  · refine .bind (resolveRecipient_answers _).onWorld fun target =>
      .bind .update fun _ => .bind ?_ fun _ =>
        .bind (checkSender_answers _) fun _ => .update
    intro connection
    rw [notePersona, ends_when]
    exact ⟨fun _ => trivial, fun _ => trivial⟩

theorem answerCode_of_answers {action : Handling Unit} (answers : Answers action)
    (connection : Connection) : (answerCode action connection).1 ≠ none := by
  have ends := ends_iff_run.mp (answers connection)
  rw [answerCode]
  rcases ran : action.run connection with ⟨response | value, next⟩
  · simpa using (ends.2 response next ran).answers
  · simp

theorem of_unwinds_iff (answer : Option Nat) :
    (Reply.of answer).action = .unwinds ↔ answer = none := by
  cases answer with
  | none => exact iff_of_true rfl rfl
  | some code =>
      by_cases closing : code = 221 ∨ code = 421 <;>
        simp [Reply.of, Reply.custom, closing]

theorem handle_answers {current : State} (between : ∀ domain,
    current ≠ .data domain) (connection : Connection) (cmd : Cmd) :
    (handle (connectionHandler receiver) current connection cmd).1.action ≠
      .unwinds := by
  have answered (answer : Option Nat) (next : State) (some : answer ≠ none) :
      (transformState current (.of answer) next).1.action ≠ .unwinds := by
    rw [transformState_fst]
    exact fun unwinds => some ((of_unwinds_iff _).mp unwinds)
  have greeted (domain : String) :
      (handleHelo (connectionHandler receiver) current domain
        connection).1.action ≠ .unwinds :=
    answered (some 250) (.hello domain) (by simp)
  have default : ∀ cmd, (defaultHandler (connectionHandler receiver) current
      connection cmd).1.action ≠ .unwinds := by
    intro cmd
    cases cmd with
    | helo domain => exact greeted domain
    | ehlo domain => exact greeted domain
    | _ => simp [defaultHandler, Reply.goodbye, Reply.ok, Reply.custom,
        Reply.badSequenceCommands]
  have mailed (sender : String) := answerCode_of_answers
    (@mail_answers receiver sender) connection
  have addressed (recipient : String) := answerCode_of_answers
    (@rcpt_answers receiver recipient) connection
  have fine : Reply.ok.action ≠ .unwinds := by simp [Reply.ok, Reply.custom]
  cases current with
  | idle =>
      cases cmd with
      | rset => exact fine
      | _ => exact default _
  | hello domain =>
      cases cmd with
      | mail reversePath is8bit => exact answered _ _ (mailed reversePath)
      | vrfy => simp [handle, Reply.verifyResponse, Reply.custom]
      | rset => exact fine
      | _ => exact default _
  | mail domain reversePath is8bit =>
      cases cmd with
      | rcpt forwardPath => exact answered _ _ (addressed forwardPath)
      | rset => exact fine
      | _ => exact default _
  | rcpt domain reversePath is8bit before =>
      cases cmd with
      | rcpt forwardPath => exact answered _ _ (addressed forwardPath)
      | data =>
          have started : (if (Reply.of (some 250)).isError then
              Reply.of (some 250) else Reply.startData).action ≠ .unwinds := by
            decide
          simp only [handle, connectionHandler, transformState_fst]
          exact started
      | rset => exact fine
      | _ => exact default _
  | data domain => exact absurd rfl (between domain)

theorem answerCode_dataEnd (connection : Connection) :
    (answerCode (dataEnd receiver) connection).1 = none ↔
      connection.session.unwinds receiver = true := by
  rcases connection with ⟨session, world⟩
  have ends := ends_iff_run.mp (@dataEnd_answers receiver session world)
  rw [answerCode]
  rcases ran : (dataEnd receiver).run ⟨session, world⟩ with
    ⟨response | value, next⟩
  · have settles := ends.2 response next ran
    cases broken : session.unwinds receiver <;> rw [broken] at settles
    · simpa using settles.answers
    · simpa [Response.Settles] using settles
  · simpa using ends.1 value next ran

theorem reply_unwinds_iff (exchange : Exchange Connection) :
    (exchange.reply (connectionHandler receiver)).action = .unwinds ↔
      exchange.breaks receiver = true := by
  rcases exchange with ⟨⟨⟨smtp, connection⟩, _, _, _⟩, line, _⟩
  rw [Exchange.reply, Exchange.breaks]
  cases smtp with
  | none => simp [process, Reply.invalidState, Reply.custom]
  | some current =>
      cases current with
      | data domain =>
          simp only [process, processData]
          by_cases ends : line = ".\r\n"
          · simp only [ends, if_true, beq_self_eq_true, Bool.true_and, handle,
              transformState_fst, of_unwinds_iff]
            exact answerCode_dataEnd connection
          · simp only [if_neg ends, beq_eq_false_iff_ne.mpr ends,
              Bool.false_and, Bool.false_eq_true, iff_false]
            split <;> simp [Reply.empty, Reply.transactionFailed, Reply.custom]
      | _ =>
          simp only [process, Bool.false_eq_true, iff_false]
          cases parse line with
          | none => simp [Reply.syntaxError, Reply.custom]
          | some cmd => exact handle_answers (by simp) connection cmd

/-- A line that the connection survives: no slice of it panics, it does not end
a message that breaks an address, and it is no DATA of an oversize
transaction. -/
def Exchange.Survivable (receiver : Receiver) (past : List (Exchange Connection))
    (exchange : Exchange Connection) : Prop :=
  exchange.Exhausted receiver.config.maxMessageSize ∨
    Exchange.Sliceable exchange.line ∧ exchange.breaks receiver = false ∧
    exchange.oversize (connectionHandler receiver)
      receiver.config.maxMessageSize past = false

theorem harmless_iff_survivable {past : List (Exchange Connection)}
    {exchange : Exchange Connection} :
    exchange.Harmless (connectionHandler receiver)
        receiver.config.maxMessageSize past ↔
      exchange.Survivable receiver past := by
  have started (asks : exchange.asksForData = true) :
      (exchange.reply (connectionHandler receiver)).code ≠ 552 := by
    rw [Exchange.asksForData] at asks
    split at asks
    · next domain reversePath is8bit forwardPath phase command =>
        rw [Exchange.reply, process, phase]
        simp only [command, handle, connectionHandler, transformState_fst]
        simp [Reply.of, Reply.custom, Reply.startData]
    · cases asks
  have refused : (exchange.oversize (connectionHandler receiver)
        receiver.config.maxMessageSize past = true →
      (exchange.reply (connectionHandler receiver)).code = 552) ↔
      exchange.oversize (connectionHandler receiver)
        receiver.config.maxMessageSize past = false := by
    cases oversize : exchange.oversize (connectionHandler receiver)
        receiver.config.maxMessageSize past with
    | false => simp
    | true =>
        rw [Exchange.oversize, Bool.and_eq_true] at oversize
        simp [started oversize.1]
  rw [Exchange.Harmless, Exchange.Survivable, refused, Ne, reply_unwinds_iff,
    Bool.not_eq_true]

theorem atEach_congr {holds others : List α → α → Prop}
    (same : ∀ past element, holds past element ↔ others past element)
    (past elements : List α) :
    AtEach holds past elements ↔ AtEach others past elements := by
  induction elements generalizing past with
  | nil => rfl
  | cons element rest induction =>
      rw [AtEach, AtEach, same, induction]

end Panics

/-- The connection survives while every line is survivable, and no longer. -/
theorem session_survives_iff (tables : CaseTables) (receiver : Receiver)
    (start : Connection) (lines : List (String × Bool)) :
    Survives tables receiver.config.maxMessageSize (connectionHandler receiver)
        start lines ↔
      AtEach (Exchange.Survivable receiver) []
        (handleSmtpSessionBlocking tables receiver.config.maxMessageSize
          (connectionHandler receiver) (.start start) lines).1 :=
  (survives_from rfl).trans
    (atEach_congr (fun _ _ => harmless_iff_survivable) _ _)

/-- A connection to the gateway of the samples. -/
def sampleSurvives (lines : List String) : Prop :=
  Survives Text.asciiTables plainReceiver.config.maxMessageSize
    (connectionHandler plainReceiver) ⟨Session.fresh, World.start aliceAndBob⟩
    (lines.map (·, true))

instance (lines : List String) : Decidable (sampleSurvives lines) :=
  inferInstanceAs (Decidable (Survives _ _ _ _ _))

/-- A character over the sixth byte, a header entry that closes a bracket
before it opens one, and a declared size of which the loop takes no notice. -/
theorem session_fails :
    ¬ sampleSurvives ["MAIL é\r\n"] ∧
      ¬ sampleSurvives ["HELO c.test\r\n", "MAIL FROM:<pal@c.test>\r\n",
        "RCPT TO:<bob@b.test>\r\n", "DATA\r\n",
        "To: bob> <bob@b.test\n", "\n", ".\r\n"] ∧
      ¬ sampleSurvives ["HELO c.test\r\n",
        "MAIL FROM:<pal@c.test> SIZE=5000\r\n", "RCPT TO:<alice@a.test>\r\n",
        "DATA\r\n"] := by
  decide +kernel

end AimailGateway.Smtp
