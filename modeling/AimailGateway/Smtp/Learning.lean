import AimailGateway.Library.HeaderBlock
import AimailGateway.Smtp.Outcomes

/-! # Learning the members of a board

What a message makes of the members of boards that the gateway knows: it goes
by the header of the message exactly if the first line that looks like the
header announces what the header does.
-/

namespace AimailGateway.Smtp

open Library Action HeaderBlock

def membersHeader : String := "X-Board-Members"

/-- What a value of the header announces when the sender is its board. -/
def membersOf (sender value : String) : Option (String × List String) := do
  let (board, members) ← Text.splitOnce ';' value
  if Text.eqIgnoreAsciiCase (Text.trim board) sender then
    some (Text.trim board, ((Text.split ',' members).map Text.trim).filter
      fun member => member != "" && Text.containsChar '@' member &&
        !Text.startsWith "@" member && !Text.endsWith "@" member)
  else
    none

def replaced (board : String) (members : List String)
    (table : List (String × String)) : List (String × String) :=
  table.filter (·.1 != board) ++
    (members.map fun member => (board, member)).eraseDups

variable {receiver : Receiver} {pending : Pending} {world : World}
  {sender subject messageData : String}

theorem membersHeader_named : FieldName membersHeader := by
  have begins : (membersHeader ++ ":").toList.head? = some 'X' := by decide
  constructor
  · intro head member
    rw [begins] at member
    rw [← Option.mem_some.mp member]
    decide
  · decide

theorem announcedMembers_header (plain : OnOneLine membersHeader messageData) :
    announcedMembers sender messageData =
      (value membersHeader messageData).bind (membersOf sender) := by
  rw [← plain.value_eq membersHeader_named]
  have reads : (fun line => Text.afterStart "X-Board-Members:" (Text.trim line)) =
      lineValue membersHeader := by
    have prefixed : membersHeader ++ ":" = "X-Board-Members:" := by decide
    funext line
    rw [lineValue, prefixed]
  rw [announcedMembers, reads]
  cases (Text.split '\n' messageData).findSome? (lineValue membersHeader) with
  | none => simp only [Option.bind_eq_bind, Option.bind_none, Option.map_none]
  | some text =>
      simp only [Option.bind_eq_bind, Option.bind_some, Option.map_some,
        membersOf]

/-- The first line that looks like the header announces members, to a message
of a board. -/
def taken (sender subject messageData : String) :
    Option (String × List String) :=
  if Board.isBoardAddress sender && Text.startsWith "[A2A]" subject &&
      (Board.parseBoardEmail sender).isSome then
    (announcedMembers sender messageData).filter (!·.2.isEmpty)
  else none

def stored (table : List (String × String)) :
    Option (String × List String) → List (String × String)
  | none => table
  | some (board, members) => replaced board members table

theorem learnBoardMembers_table {ε : Type} :
    ((learnBoardMembers receiver sender subject messageData :
      Action World ε Unit).run world).2.db.boardWhitelists =
      if (receiver.env.fault world.tick).isSome then world.db.boardWhitelists
      else stored world.db.boardWhitelists
        (taken sender subject messageData) := by
  rw [learnBoardMembers, taken]
  split
  · cases announcedMembers sender messageData with
    | none => exact (ite_self _).symm
    | some both =>
        rcases both with ⟨board, members⟩
        cases empty : members.isEmpty with
        | true =>
            simp only [Option.filter, empty, Bool.not_true, Bool.false_eq_true,
              if_false, stored, ite_self]
            rfl
        | false =>
            simp only [Option.filter, empty, Bool.not_false, if_true, stored,
              Action.when, Action.ignore, Storage.replaceBoardMembers, run,
              call]
            cases receiver.env.fault world.tick with
            | some fault => rfl
            | none => rfl
  · exact (ite_self _).symm

theorem processMessage_table {headers : List MailHeader} {body : String}
    {attachments : Nat} {recipients : Recipients}
    (checked : checkMessage receiver pending none none =
      .ok (headers, body, attachments, recipients))
    (holds : List (String × String) → Prop)
    (learnt : (learnBoardMembers receiver pending.sender
        (lastHeaderValue headers "subject") pending.messageData :
        Action World Response Unit).Ends
      (fun _ later => holds later.db.boardWhitelists)
      (fun _ later => holds later.db.boardWhitelists) world) :
    (processMessage receiver pending none none).Ends
      (fun _ later => holds later.db.boardWhitelists)
      (fun _ later => holds later.db.boardWhitelists) world := by
  rw [processMessage, checked, ends_bind, ends_check_ok, ends_bind]
  refine learnt.mono ?_ fun _ _ failed => failed
  intro _ taught known
  rw [ends_bind, ends_newUuid, ends_bind]
  apply drawIds_ends
  intro ids earlier same
  have before : holds earlier.db.boardWhitelists := by
    rw [same]
    exact known
  simp only [ends_bind, ends_mapError]
  apply Storage.insertEmail_ends
  · intro _ later kept
    rw [kept]
    exact before
  · intro createdAt emails middle insertion stored
    have still : holds middle.db.boardWhitelists := by
      rw [stored]
      exact before
    rw [ends_when, ends_ignore]
    refine ⟨fun _ => ?_, fun _ => still⟩
    apply Storage.updateEmails_ends
    · intro _ later kept
      rw [kept]
      exact still
    · intro _ later _ updated
      rw [updated]
      exact still

theorem processMessage_refused {error : Response}
    (checked : checkMessage receiver pending none none = .error error) :
    ((processMessage receiver pending none none).run world).2 = world := by
  rw [processMessage, checked]
  rfl

/-! ## Messages -/

def tableAfter (receiver : Receiver) (world : World) (pending : Pending) :
    List (String × String) :=
  ((processMessage receiver pending none none).run world).2.db.boardWhitelists

def acceptedHeaders (receiver : Receiver) (pending : Pending) :
    Option (List MailHeader) :=
  (checkMessage receiver pending none none).toOption.map (·.1)

/-- Two messages of one sender with the same header, which are both accepted or
both refused. -/
structure SameHeader (receiver : Receiver) (first second : Pending) : Prop where
  sender : second.sender = first.sender
  lines : headerLines second.messageData = headerLines first.messageData
  headers : acceptedHeaders receiver second = acceptedHeaders receiver first

/-- The members of a board are learnt from the header: the table changes only
to what its value announces, so not without the header. -/
structure TrustsHeader (receiver : Receiver) (world : World) (pending : Pending) :
    Prop where
  announced : tableAfter receiver world pending = world.db.boardWhitelists ∨
    ∃ text board members, value membersHeader pending.messageData = some text ∧
      membersOf pending.sender text = some (board, members) ∧
      tableAfter receiver world pending =
        replaced board members world.db.boardWhitelists
  silent : value membersHeader pending.messageData = none →
    tableAfter receiver world pending = world.db.boardWhitelists

/-- What an accepted message gives to the learning. -/
def takenOf (receiver : Receiver) (pending : Pending) :
    Option (String × List String) :=
  (acceptedHeaders receiver pending).bind fun headers =>
    taken pending.sender (lastHeaderValue headers "subject")
      pending.messageData

theorem tableAfter_eq (receiver : Receiver) (world : World)
    (pending : Pending) :
    tableAfter receiver world pending =
      if (receiver.env.fault world.tick).isSome then world.db.boardWhitelists
      else stored world.db.boardWhitelists (takenOf receiver pending) := by
  cases checked : checkMessage receiver pending none none with
  | error error =>
      rw [tableAfter, processMessage_refused checked, takenOf, acceptedHeaders,
        checked]
      exact (ite_self _).symm
  | ok read =>
      rcases read with ⟨headers, body, attachments, recipients⟩
      let learnt := (learnBoardMembers receiver pending.sender
        (lastHeaderValue headers "subject") pending.messageData :
        Action World Response Unit).run world
      have ran : (learnBoardMembers receiver pending.sender
          (lastHeaderValue headers "subject") pending.messageData :
          Action World Response Unit).Ends
          (fun _ later => later.db.boardWhitelists =
            learnt.2.db.boardWhitelists)
          (fun _ later => later.db.boardWhitelists =
            learnt.2.db.boardWhitelists) world := by
        refine ends_iff_run.mpr ⟨fun _ next ended => ?_, fun _ next ended => ?_⟩
        · exact (congrArg (·.2.db.boardWhitelists) ended).symm
        · exact (congrArg (·.2.db.boardWhitelists) ended).symm
      rw [show tableAfter receiver world pending =
        learnt.2.db.boardWhitelists from Action.Ends.after
          (processMessage_table checked (· = learnt.2.db.boardWhitelists) ran),
        learnBoardMembers_table, takenOf, acceptedHeaders, checked]
      rfl

/-- What the message gives to the learning is nothing, is stored already, is not
stored because the statement fails, or is what the header announces. -/
def HeaderRead (receiver : Receiver) (world : World) (pending : Pending) :
    Prop :=
  (receiver.env.fault world.tick).isSome = true ∨
    stored world.db.boardWhitelists (takenOf receiver pending) =
      world.db.boardWhitelists ∨
    ∃ text both, value membersHeader pending.messageData = some text ∧
      membersOf pending.sender text = some both ∧
      stored world.db.boardWhitelists (takenOf receiver pending) =
        stored world.db.boardWhitelists (some both)

theorem headerRead_of_onOneLine (receiver : Receiver) (world : World)
    {pending : Pending} (plain : OnOneLine membersHeader pending.messageData) :
    HeaderRead receiver world pending := by
  cases given : takenOf receiver pending with
  | none => exact .inr (.inl (by rw [given, stored]))
  | some both =>
      have announced : announcedMembers pending.sender pending.messageData =
          some both := by
        rw [takenOf, Option.bind_eq_some_iff] at given
        obtain ⟨headers, -, learnt⟩ := given
        rw [taken] at learnt
        split at learnt
        · exact (Option.filter_eq_some_iff.mp learnt).1
        · cases learnt
      rw [announcedMembers_header plain, Option.bind_eq_some_iff] at announced
      obtain ⟨text, named, read⟩ := announced
      exact .inr (.inr ⟨text, both, named, read, by rw [given]⟩)

/-- A mail of a board to Bob with the given lines after the subject. -/
def notification (lines : String) : Pending where
  sender := "p.a2a@b.test"
  recipients := ["bob@b.test"]
  systemId := "sys-b"
  messageData := "To: bob@b.test\nSubject: [A2A] comment\n" ++ lines
  persona := none
  senderWhitelisted := true

/-- The header announces Ann, a line of the body somebody else. -/
def announcement : Pending :=
  notification ("X-Board-Members: p.a2a@b.test;ann@b.test\n\n" ++
    "X-Board-Members: p.a2a@b.test;eve@c.test\n")

/-- A quoted line in the body, and no such header. -/
def quotation : Pending :=
  notification "\nX-Board-Members: p.a2a@b.test;eve@c.test\n"

/-- The same header above another body. -/
def otherBody : Pending :=
  notification "X-Board-Members: p.a2a@b.test;ann@b.test\n\nhello\n"

example : tableAfter plainReceiver (World.start Database.empty) announcement =
    [("p.a2a@b.test", "ann@b.test")] := by decide +kernel

end AimailGateway.Smtp
