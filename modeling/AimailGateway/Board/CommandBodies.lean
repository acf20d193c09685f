import AimailGateway.Board.Permissions
import AimailGateway.Board.Runs

/-! # Bodies of command mails

The body of a command mail becomes the parameters of the command, whatever JSON
value it is, and the interceptor assigns fields to it. Assigning a field to a
value that is no object panics. This says which mails of a batch are answered.
-/

namespace AimailGateway.Board

open Library Fallible

namespace Interceptor

/-! ## Acknowledgements -/

/-- What `notify_command_result` is given. It mails members of the board only,
as far as the reply policy allows. -/
structure CommandResult where
  sentTo : String
  verb : String
  ok : Bool
  summary : String
  data : Option Json
  isMember : Bool

def responseLine (response : CommandResponse) : String :=
  "status=" ++ response.status ++ response.task.elim "" fun task =>
    " task=" ++ task.shortId ++ " summary=" ++ task.summary

def commandResult (cmd : A2aCommand) (sender : String) (isMember : Bool) :
    Except AppError CommandResponse → CommandResult
  | .ok response =>
      ⟨sender, cmd.verb, true, responseLine response, response.data, isMember⟩
  | .error error =>
      ⟨sender, cmd.verb, false, error.toText, none, isMember⟩

/-- Execute a command and report its outcome to the sender. -/
def answerCommand (settings : Settings) (boardId : String)
    (board : BoardRecord) (cmd : A2aCommand) (sender : String) :
    Action Gateway AppError CommandResult := do
  let outcome ← (onBoard settings boardId (Commands.executeCommand
    settings.host (notifierOf board) cmd sender)).attempt
  let member ← (onBoard settings boardId
    (Store.getMember boardId sender)).attempt
  return commandResult cmd sender member.toOption.join.isSome outcome

abbrev Answer := InterceptorDecision × Option CommandResult

/-- A command to a board that exists, with the result it reports. -/
def receiveAnswered (settings : Settings) (mail : InboundMail)
    (boardId rest : String) : Action Gateway AppError Answer := do
  match ← onBoard settings boardId (Store.selectBoard boardId) with
  | none => return (.passThrough, none)
  | some board =>
      if Text.eqIgnoreAsciiCase board.boardEmail (recipient mail) = false then
        return (.passThrough, none)
      else if isPast board then return (.passThrough, none)
      else
        match commandOf settings boardId rest mail with
        | none => Action.fail (.internal "cannot access key")
        | some cmd =>
            let result ← answerCommand settings boardId board cmd mail.sender
            return (.handled, some result)

/-- `intercept`, with the result a command reports. -/
@[irreducible] def interceptAnswered (settings : Settings) (mail : InboundMail) :
    Action Gateway AppError Answer :=
  let subject := Text.trim mail.subject
  if Text.startsWith "[A2A] new " subject = true ∧
      isBoardAddress (recipient mail) = false then
    (·, none) <$> receiveNew settings mail
  else
    match boardIdOf settings (recipient mail) with
    | none => return (.passThrough, none)
    | some boardId =>
        match Text.afterStart "[A2A] " subject with
        | some rest => receiveAnswered settings mail boardId rest
        | none => (·, none) <$> receiveConfirmation settings mail

/-- The mails of a batch, one after the other, up to a panic. -/
def interceptAll (settings : Settings) :
    List InboundMail → Action Gateway AppError (List Answer)
  | [] => return []
  | mail :: rest => do
      let answer ← interceptAnswered settings mail
      let later ← interceptAll settings rest
      return answer :: later

/-- The mail brings a command to a board that is there, is the one addressed and
is in its active life. -/
structure Brings (settings : Settings) (mail : InboundMail) (gateway : Gateway)
    (boardId rest : String) (board : BoardRecord) : Prop where
  kind : ¬ creates mail
  sent : boardIdOf settings (recipient mail) = some boardId
  read : Text.afterStart "[A2A] " (Text.trim mail.subject) = some rest
  found : (gateway.files boardId).findBoard boardId = some board
  addressed : Text.eqIgnoreAsciiCase board.boardEmail (recipient mail) = true
  current : isPast board = false

/-- The command is executed and its outcome, value or error, is reported. -/
structure Acknowledges (settings : Settings) (mail : InboundMail)
    (gateway : Gateway) (boardId : String) (board : BoardRecord)
    (cmd : A2aCommand) (answer : Answer) (after : Gateway) : Prop where
  decision : answer.1 = .handled
  executed : after = gateway.withBoard boardId
    (Command.run settings.host (Commands.executeCommand settings.host
      (notifierOf board) cmd mail.sender) (gateway.boardWorld boardId)).2
  reported : ∃ isMember, answer.2 = some (commandResult cmd mail.sender isMember
    (Command.run settings.host (Commands.executeCommand settings.host
      (notifierOf board) cmd mail.sender) (gateway.boardWorld boardId)).1)

/-- The interceptor ends with a decision, and acknowledges the command the mail
brings. -/
def Answers (settings : Settings) (mail : InboundMail) (gateway : Gateway) :
    Prop :=
  (interceptAnswered settings mail).Ends
    (fun answer after => ∀ boardId rest board,
      Brings settings mail gateway boardId rest board →
      ∃ cmd, cmd.verb = (Text.words rest).head?.getD "" ∧
        cmd.taskId = (Text.words rest)[1]? ∧
        Acknowledges settings mail gateway boardId board cmd answer after)
    (fun _ _ => False) gateway

/-- The mails before one of a batch have been intercepted. -/
def Passed (settings : Settings) (before : List InboundMail)
    (gateway between : Gateway) : Prop :=
  ∃ answers, interceptAll settings before gateway = (.ok answers, between)

/-- Every mail of a batch is reached and answered. -/
def AnswersAll (settings : Settings) (mails : List InboundMail)
    (gateway : Gateway) : Prop :=
  ∀ before mail rest, mails = before ++ mail :: rest →
    ∃ between, Passed settings before gateway between ∧
      Answers settings mail between

/-- `value[key] = …` does not panic. -/
def isIndexable : Json → Bool
  | .null | .object _ => true
  | _ => false

/-- The body of a mail that brings a command is no JSON text, null or an
object. -/
def Indexable (settings : Settings) (mail : InboundMail) (gateway : Gateway) :
    Prop :=
  ∀ boardId rest board, Brings settings mail gateway boardId rest board →
    ∀ value, settings.parseJson mail.body = some value →
      isIndexable value = true

/-! ## Parameters -/

section Parameters

variable {settings : Settings} {mail : InboundMail} {boardId rest : String}
  {key : String} {field value : Json}

theorem inject_indexable (indexable : isIndexable value = true) :
    ∃ injected, inject key field value = some injected ∧
      isIndexable injected = true := by
  rw [inject]
  split
  · exact ⟨value, rfl, indexable⟩
  · cases value with
    | null => exact ⟨_, rfl, rfl⟩
    | object fields => exact ⟨_, rfl, rfl⟩
    | bool | number | string | array => cases indexable

theorem inject_unindexable (unindexable : isIndexable value = false) :
    inject key field value = none := by
  cases value with
  | null | object => cases unindexable
  | bool | number | string | array => rfl

/-- The parameters before fields are added. -/
def bodyParams (settings : Settings) (mail : InboundMail) : Json :=
  (settings.parseJson mail.body).getD (.object [("body", .string mail.body)])

theorem commandOf_indexable
    (indexable : isIndexable (bodyParams settings mail) = true) :
    ∃ cmd, commandOf settings boardId rest mail = some cmd ∧
      cmd.verb = (Text.words rest).head?.getD "" ∧
      cmd.taskId = (Text.words rest)[1]? := by
  obtain ⟨identified, named, still⟩ :=
    @inject_indexable "board_id" (.string boardId) _ indexable
  rw [bodyParams] at named
  rw [commandOf]
  simp only [named, Option.bind_eq_bind, Option.bind_some]
  cases mail.attachments with
  | none => exact ⟨_, rfl, rfl, rfl⟩
  | some attachments =>
      obtain ⟨attached, given, -⟩ :=
        @inject_indexable "_attachments" attachments _ still
      simp only [Option.elim_some, given]
      exact ⟨_, rfl, rfl, rfl⟩

theorem commandOf_unindexable
    (unindexable : isIndexable (bodyParams settings mail) = false) :
    commandOf settings boardId rest mail = none := by
  have failed := @inject_unindexable "board_id" (.string boardId) _ unindexable
  rw [bodyParams] at failed
  rw [commandOf]
  simp only [failed]
  rfl

theorem bodyParams_indexable_iff :
    isIndexable (bodyParams settings mail) = true ↔
      ∀ value, settings.parseJson mail.body = some value →
        isIndexable value = true := by
  rw [bodyParams]
  cases settings.parseJson mail.body with
  | none => exact ⟨by rintro _ _ ⟨⟩, fun _ => rfl⟩
  | some value =>
      constructor
      · rintro indexable _ ⟨⟩
        exact indexable
      · exact fun all => all value rfl

end Parameters

/-! ## Mails without a command -/

section Mail

variable {settings : Settings} {mail : InboundMail} {gateway : Gateway}
  {boardId rest : String} {board : BoardRecord}

theorem populateBoard_total {boardEmail : String} {params : Option Json}
    {members : List Json} :
    (populateBoard settings boardId boardEmail params members).Ends
      (fun _ _ => True) (fun _ _ => False) gateway := by
  have nobody : ∀ member ∈ ([] : List Member), Registers boardId member :=
    fun _ impossible => absurd impossible List.not_mem_nil
  rw [populateBoard, Action.ends_bind, ends_onBoard]
  refine (registerMembers_ends nobody rfl).mono ?_
    fun _ _ impossible => impossible.elim
  intro emails world _
  cases emails with
  | none => trivial
  | some emails =>
      simp only
      rw [Action.ends_bind, Action.ends_ignore]
      have last : ∀ main : World, (onBoard settings boardId
          (initPermissions (givenPermissions params))).Ends (fun _ _ => True)
          (fun _ _ => False) { gateway.withBoard boardId world with main } := by
        intro main
        rw [ends_onBoard]
        exact initPermissions_ends.mono (fun _ _ _ => trivial)
          fun _ _ impossible => impossible
      exact onMain_ends (fun _ main _ => last main) fun _ main _ => last main

theorem receiveNew_total :
    (receiveNew settings mail).Ends (fun _ _ => True) (fun _ _ => False)
      gateway := by
  rw [receiveNew]
  simp only
  rw [Action.ends_bind]
  apply sanitizeShortId_ends
  intro shortId tick
  split
  · trivial
  · split
    · trivial
    · rw [Action.ends_bind]
      apply orchestratorSystem_ends
      intro system main
      split
      · trivial
      · rw [Action.ends_bind]
        have untouched : ∀ boardId, AtStage boardId
            (· = gateway.files boardId) gateway { gateway with tick, main } :=
          fun _ => ⟨rfl, fun _ _ => rfl⟩
        refine (ensureBoard_ends (untouched _)).mono ?_
          fun _ _ impossible => impossible.elim
        intro opened next _
        cases opened with
        | true =>
            simp only [if_true]
            rw [Action.ends_bind]
            exact populateBoard_total
        | false => trivial

theorem receiveConfirmation_total :
    (receiveConfirmation settings mail).Ends (fun _ _ => True)
      (fun _ _ => False) gateway := by
  rw [receiveConfirmation]
  cases confirmationOf settings mail with
  | none => trivial
  | some parsed =>
      rcases parsed with ⟨boardId, kind, after⟩
      simp only
      rw [Action.ends_bind, ends_onBoard, confirmAs, Command.ends_sequence,
        Store.ends_getMember]
      split
      · rw [confirm]
        split
        · trivial
        · trivial
      · trivial

theorem ends_tagged {action : Action Gateway AppError InterceptorDecision}
    (total : action.Ends (fun _ _ => True) (fun _ _ => False) gateway) :
    ((·, none) <$> action : Action Gateway AppError Answer).Ends
      (fun _ _ => True) (fun _ _ => False) gateway := by
  rw [map_eq_pure_bind, Action.ends_bind]
  exact total

/-! ## Mails with a command -/

theorem onBoard_selectBoard :
    onBoard settings boardId (Store.selectBoard boardId) gateway =
      (.ok ((gateway.files boardId).findBoard boardId), gateway) :=
  Prod.ext rfl (Gateway.withBoard_self gateway boardId)

theorem onBoard_getMember {sender : String} :
    onBoard settings boardId (Store.getMember boardId sender) gateway =
      (.ok ((gateway.files boardId).findMember boardId sender), gateway) :=
  Prod.ext rfl (Gateway.withBoard_self gateway boardId)

theorem answerCommand_run {cmd : A2aCommand} {sender : String} :
    ∃ isMember, answerCommand settings boardId board cmd sender gateway =
      (.ok (commandResult cmd sender isMember
        (Command.run settings.host (Commands.executeCommand settings.host
          (notifierOf board) cmd sender) (gateway.boardWorld boardId)).1),
      gateway.withBoard boardId
        (Command.run settings.host (Commands.executeCommand settings.host
          (notifierOf board) cmd sender) (gateway.boardWorld boardId)).2) := by
  refine ⟨(((gateway.withBoard boardId (Command.run settings.host
    (Commands.executeCommand settings.host (notifierOf board) cmd sender)
    (gateway.boardWorld boardId)).2).files boardId).findMember boardId
      sender).isSome, ?_⟩
  simp only [answerCommand, bind, Action.attempt, onBoard_getMember]
  rfl

theorem interceptAnswered_brought
    (brings : Brings settings mail gateway boardId rest board) :
    interceptAnswered settings mail gateway =
      receiveAnswered settings mail boardId rest gateway := by
  have kind := brings.kind
  rw [creates] at kind
  rw [interceptAnswered, if_neg kind, brings.sent]
  simp only
  rw [brings.read]

theorem interceptAnswered_executes {cmd : A2aCommand}
    (brings : Brings settings mail gateway boardId rest board)
    (given : commandOf settings boardId rest mail = some cmd) :
    ∃ answer after, interceptAnswered settings mail gateway =
        (.ok answer, after) ∧
      Acknowledges settings mail gateway boardId board cmd answer after := by
  obtain ⟨isMember, ran⟩ :=
    @answerCommand_run settings gateway boardId board cmd mail.sender
  refine ⟨(.handled, some _), _, ?_, ⟨rfl, rfl, isMember, rfl⟩⟩
  rw [interceptAnswered_brought brings]
  simp only [receiveAnswered, bind, onBoard_selectBoard, brings.found]
  rw [if_neg (by simp [brings.addressed]), if_neg (by simp [brings.current])]
  simp only [given, ran]
  rfl

theorem interceptAnswered_panics
    (brings : Brings settings mail gateway boardId rest board)
    (given : commandOf settings boardId rest mail = none) :
    interceptAnswered settings mail gateway =
      (.error (.internal "cannot access key"), gateway) := by
  rw [interceptAnswered_brought brings]
  simp only [receiveAnswered, bind, onBoard_selectBoard, brings.found]
  rw [if_neg (by simp [brings.addressed]), if_neg (by simp [brings.current]),
    given]
  rfl

theorem interceptAnswered_idle
    (nothing : ∀ boardId rest board,
      ¬ Brings settings mail gateway boardId rest board) :
    (interceptAnswered settings mail).Ends (fun _ _ => True)
      (fun _ _ => False) gateway := by
  rw [interceptAnswered]
  split
  · exact ends_tagged receiveNew_total
  · next kind =>
      cases sent : boardIdOf settings (recipient mail) with
      | none => trivial
      | some boardId =>
          simp only
          cases read : Text.afterStart "[A2A] " (Text.trim mail.subject) with
          | none => exact ends_tagged receiveConfirmation_total
          | some rest =>
              simp only
              rw [receiveAnswered, Action.ends_bind, Action.Ends,
                onBoard_selectBoard]
              simp only
              cases found : (gateway.files boardId).findBoard boardId with
              | none => trivial
              | some board =>
                  simp only
                  split
                  · trivial
                  · next addressed =>
                      split
                      · trivial
                      · next current =>
                          exact absurd ⟨kind, sent, read, found,
                            by simpa using addressed, by simpa using current⟩
                            (nothing boardId rest board)

theorem Brings.unique {otherId otherRest : String} {other : BoardRecord}
    (first : Brings settings mail gateway boardId rest board)
    (second : Brings settings mail gateway otherId otherRest other) :
    boardId = otherId ∧ rest = otherRest ∧ board = other := by
  have boards := Option.some.inj (first.sent.symm.trans second.sent)
  have rests := Option.some.inj (first.read.symm.trans second.read)
  subst boards
  exact ⟨rfl, rests, Option.some.inj (first.found.symm.trans second.found)⟩

theorem answers_iff :
    Answers settings mail gateway ↔ Indexable settings mail gateway := by
  constructor
  · intro answers boardId rest board brings
    rw [← bodyParams_indexable_iff]
    cases indexable : isIndexable (bodyParams settings mail) with
    | true => rfl
    | false =>
        have panics := interceptAnswered_panics brings
          (commandOf_unindexable indexable)
        rw [Answers, Action.Ends, panics] at answers
        exact answers.elim
  · intro formed
    rw [Answers]
    by_cases brought : ∃ boardId rest board,
        Brings settings mail gateway boardId rest board
    · obtain ⟨boardId, rest, board, brings⟩ := brought
      have indexable : isIndexable (bodyParams settings mail) = true :=
        bodyParams_indexable_iff.mpr (formed boardId rest board brings)
      obtain ⟨cmd, given, verb, taskId⟩ :=
        @commandOf_indexable settings mail boardId rest indexable
      obtain ⟨answer, after, ran, acknowledged⟩ :=
        interceptAnswered_executes brings given
      rw [Action.Ends, ran]
      intro otherId otherRest other again
      obtain ⟨rfl, rfl, rfl⟩ := brings.unique again
      exact ⟨cmd, verb, taskId, acknowledged⟩
    · refine (interceptAnswered_idle fun boardId rest board brings =>
        brought ⟨boardId, rest, board, brings⟩).mono ?_
        fun _ _ impossible => impossible
      intro _ _ _ boardId rest board brings
      exact absurd ⟨boardId, rest, board, brings⟩ brought

theorem interceptAnswered_decision :
    Prod.fst <$> interceptAnswered settings mail = intercept settings mail := by
  rw [interceptAnswered, intercept]
  split
  · rw [Functor.map_map]
    exact id_map _
  · cases boardIdOf settings (recipient mail) with
    | none => rfl
    | some boardId =>
        simp only
        cases Text.afterStart "[A2A] " (Text.trim mail.subject) with
        | none =>
            simp only
            rw [Functor.map_map]
            exact id_map _
        | some rest =>
            simp only
            funext state
            rw [map_eq_pure_bind]
            simp only [receiveAnswered, receiveCommand, bind,
              onBoard_selectBoard]
            cases (state.files boardId).findBoard boardId with
            | none => rfl
            | some board =>
                simp only
                cases Text.eqIgnoreAsciiCase board.boardEmail
                    (recipient mail) with
                | false => rfl
                | true =>
                    cases isPast board with
                    | true => rfl
                    | false =>
                        cases commandOf settings boardId rest mail with
                        | none => rfl
                        | some cmd =>
                            obtain ⟨isMember, ran⟩ := @answerCommand_run
                              settings state boardId board cmd mail.sender
                            have unlike : ¬ true = false := by decide
                            rw [if_neg unlike, if_neg unlike,
                              if_neg Bool.false_ne_true,
                              if_neg Bool.false_ne_true]
                            simp only [ran]
                            rfl

end Mail

/-! ## Batches -/

section Batch

variable {settings : Settings} {mail : InboundMail}
  {mails before : List InboundMail} {gateway between after : Gateway}

theorem Passed.unique {other : Gateway}
    (first : Passed settings before gateway between)
    (second : Passed settings before gateway other) : between = other := by
  obtain ⟨answers, ran⟩ := first
  obtain ⟨others, again⟩ := second
  exact congrArg Prod.snd (ran.symm.trans again)

theorem Passed.concat {answer : Answer}
    (passed : Passed settings before gateway between)
    (ran : interceptAnswered settings mail between = (.ok answer, after)) :
    Passed settings (before ++ [mail]) gateway after := by
  induction before generalizing gateway with
  | nil =>
      obtain ⟨answers, done⟩ := passed
      cases done
      refine ⟨[answer], ?_⟩
      rw [List.nil_append]
      simp only [interceptAll, bind, ran]
      rfl
  | cons first rest induction =>
      obtain ⟨answers, done⟩ := passed
      simp only [interceptAll, bind] at done
      rcases head : interceptAnswered settings first gateway with
        ⟨error | answered, next⟩
      · rw [head] at done
        cases done
      · rw [head] at done
        simp only at done
        rcases tail : interceptAll settings rest next with ⟨error | later, last⟩
        · rw [tail] at done
          cases done
        · rw [tail] at done
          cases done
          obtain ⟨all, done⟩ := induction ⟨later, tail⟩
          refine ⟨answered :: all, ?_⟩
          rw [List.cons_append]
          simp only [interceptAll, bind, head, done]
          rfl

theorem Answers.run (answers : Answers settings mail gateway) :
    ∃ answer after, interceptAnswered settings mail gateway =
      (.ok answer, after) := by
  rw [Answers, Action.Ends] at answers
  rcases ran : interceptAnswered settings mail gateway with ⟨error | answer, next⟩
  · rw [ran] at answers
    exact answers.elim
  · exact ⟨answer, next, rfl⟩

theorem answersAll_iff :
    AnswersAll settings mails gateway ↔
      ∀ before mail rest between, mails = before ++ mail :: rest →
        Passed settings before gateway between →
        Indexable settings mail between := by
  constructor
  · intro answers before mail rest between parts passed
    obtain ⟨other, reached, answered⟩ := answers before mail rest parts
    cases passed.unique reached
    exact answers_iff.mp answered
  · intro formed before mail rest parts
    have reached : ∃ between, Passed settings before gateway between := by
      induction before using List.reverseRecOn generalizing mail rest with
      | nil => exact ⟨gateway, [], rfl⟩
      | append_singleton earlier last induction =>
          rw [List.append_assoc, List.singleton_append] at parts
          obtain ⟨between, passed⟩ := induction last (mail :: rest) parts
          have answered : Answers settings last between :=
            answers_iff.mpr (formed earlier last _ between parts passed)
          obtain ⟨answer, after, ran⟩ := answered.run
          exact ⟨after, passed.concat ran⟩
    obtain ⟨between, passed⟩ := reached
    exact ⟨between, passed, answers_iff.mpr
      (formed before mail rest between parts passed)⟩

end Batch

/-- A mail is answered exactly when its body is well formed, and so is a batch. -/
theorem commandBodies_exact (settings : Settings) :
    (∀ mail gateway, Answers settings mail gateway ↔
      Indexable settings mail gateway) ∧
    ∀ mails gateway, AnswersAll settings mails gateway ↔
      ∀ before mail rest between, mails = before ++ mail :: rest →
        Passed settings before gateway between →
        Indexable settings mail between :=
  ⟨fun _ _ => answers_iff, fun _ _ => answersAll_iff⟩

def demoGateway : Gateway :=
  Trial.reached [Trial.listed "members" Trial.team]
    [Trial.creation (Trial.listed "members" Trial.team)]

/-- A command whose body is an empty list. -/
def listMail : InboundMail where
  subject := "[A2A] list"
  sender := "work@x.org"
  toArr := [Trial.demoBoard]
  ccArr := []
  body := "[]"
  attachments := none

theorem array_body_panics :
    (interceptAnswered (Trial.configured [("[]", .array [])]) listMail
        demoGateway).1.isOk = false ∧
      ¬ ∀ settings mail gateway, Answers settings mail gateway := by
  have panics : (interceptAnswered (Trial.configured [("[]", .array [])])
      listMail demoGateway).1.isOk = false := by
    decide +kernel
  refine ⟨panics, fun all => ?_⟩
  obtain ⟨answer, after, ran⟩ := (all _ _ _).run
  rw [ran] at panics
  cases panics

end Interceptor

end AimailGateway.Board
