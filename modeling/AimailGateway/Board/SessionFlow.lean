import AimailGateway.Api.SendHeaders
import AimailGateway.Board.CommandBodies

/-! # The board context of session mails

A mail between two members with the board in copy is annotated with the board
and the two roles. The interceptor does so in its last branch, sending over the
interface beforehand. This says for which mails the two do as documented.
-/

namespace AimailGateway.Board

open Library Fallible

namespace Interceptor

/-- The fields that are added to a payload, and the headers of a sent mail. -/
structure BoardContext where
  boardId : String
  boardRole : String
  fromRole : Option String
  deriving DecidableEq

/-! ## The interceptor -/

def sessionContext (boardId : String) :
    Option Member → Option Member → Option BoardContext
  | some sender, some addressee =>
      some ⟨boardId, addressee.role, some sender.role⟩
  | _, _ => none

def sessionFlow (settings : Settings) (mail : InboundMail) :
    Action Gateway AppError (Option BoardContext) :=
  match mail.ccArr.findSome? (boardIdOf settings) with
  | none => return none
  | some boardId => do
      let sender ← onBoard settings boardId
        (Store.getMember boardId mail.sender)
      let addressee ← onBoard settings boardId
        (Store.getMember boardId (recipient mail))
      return sessionContext boardId sender addressee

/-- A mail that is no command: it is for the first board it is addressed to, or
it may belong to a session. -/
def receiveOther (settings : Settings) (mail : InboundMail) :
    Action Gateway AppError (Option BoardContext) :=
  match mail.toArr.findSome? (boardIdOf settings) with
  | none => sessionFlow settings mail
  | some boardId => do
      let _ ← receiveConfirmation settings mail
      let sender ← onBoard settings boardId
        (Store.getMember boardId mail.sender)
      return sender.map fun member => ⟨boardId, member.role, some member.role⟩

/-- `populateBoard`, with the fields the creation adds. -/
def populateAnnotated (settings : Settings) (boardId boardEmail : String)
    (params : Option Json) (members : List Json) (sender : String) :
    Action Gateway AppError (Option BoardContext) := do
  match ← onBoard settings boardId
    (registerMembers settings.host boardId members) with
  | none => return none
  | some emails =>
      (onMain
        (Storage.replaceBoardMembers settings.env boardEmail emails)).ignore
      onBoard settings boardId (initPermissions (givenPermissions params))
      let member ← onBoard settings boardId (Store.getMember boardId sender)
      return some ⟨boardId, (member.map (·.role)).getD "owner", none⟩

/-- `receiveNew`, with the fields it adds. -/
def receiveNewAnnotated (settings : Settings) (mail : InboundMail) :
    Action Gateway AppError (Option BoardContext) := do
  let subject := Text.trim mail.subject
  let rest := Text.trim ((Text.afterStart "[A2A] new " subject).getD "")
  let parts := (Text.splitOnce ':' rest).getD (rest, "")
  let shortId ← sanitizeShortId settings (Text.trim parts.1)
  let description := Text.trim parts.2
  if shortId = "" then return none
  else
    let params := settings.parseJson mail.body
    let members := (params.bind (·.getArray? "members")).getD []
    if isAnnounced settings.env.tables mail members = false then return none
    else
      let orchEmail := orchestratorOf members
      let system ← orchestratorSystem settings orchEmail
      let boardEmail := boardAddress system orchEmail shortId
      let boardId := deriveBoardId settings boardEmail
      if declaresOwner members mail.sender = false then return none
      else
        if ← ensureBoard settings boardId shortId boardEmail description system
        then
          populateAnnotated settings boardId boardEmail params members
            mail.sender
        else return none

/-- `intercept`, with the fields it adds to the payload. -/
@[irreducible] def interceptAnnotated (settings : Settings)
    (mail : InboundMail) :
    Action Gateway AppError (InterceptorDecision × Option BoardContext) :=
  let subject := Text.trim mail.subject
  if Text.startsWith "[A2A] new " subject = true ∧
      isBoardAddress (recipient mail) = false then
    (.passThrough, ·) <$> receiveNewAnnotated settings mail
  else
    match boardIdOf settings (recipient mail) with
    | none => return (.passThrough, none)
    | some boardId =>
        match Text.afterStart "[A2A] " subject with
        | some rest => (·, none) <$> receiveCommand settings mail boardId rest
        | none => (.passThrough, ·) <$> receiveOther settings mail

/-! ## Sending over the interface -/

def contextHeaders : Option BoardContext → List (String × String)
  | none => []
  | some context =>
      [("X-Board-ID", context.boardId), ("X-Board-Role", context.boardRole)] ++
        (context.fromRole.map fun role => ("X-From-Role", role)).toList

theorem contextHeaders_inj {first second : Option BoardContext} :
    contextHeaders first = contextHeaders second ↔ first = second := by
  refine ⟨fun same => ?_, fun same => by rw [same]⟩
  rcases first with _ | ⟨boardId, boardRole, _ | fromRole⟩ <;>
    rcases second with _ | ⟨boardId', boardRole', _ | fromRole'⟩ <;>
    simp_all [contextHeaders]

/-- The request sends the mail over the interface of the same gateway, by an
agent of a shared domain or another. -/
structure Submits (settings : Settings) (mail : InboundMail) (gateway : Gateway)
    (state : Api.SendState) (shared : Bool) (request : Api.SendEmailRequest)
    (addressees : Api.Addressees) : Prop where
  tables : state.env.tables = settings.env.tables
  digest : state.digest = settings.digest
  boards : ∀ boardId, state.openBoard boardId = some (gateway.files boardId)
  parsed : Api.parseAddressees state shared request = some addressees
  recipients : mail.toArr.Perm (addressees.toSet.map addressees.fullAddr)
  copies : mail.ccArr = request.cc.getD []

/-- The first board in copy, trimmed and in lower case. -/
def firstCopied (settings : Settings) (mail : InboundMail) : Option String :=
  (mail.ccArr.map fun addr =>
    settings.env.tables.toLowercase (Text.trim addr)).findSome?
      (boardIdOf settings)

/-- The context added to a sent mail whose hash set of recipients gives `first`
first. -/
def sentContext (settings : Settings) (mail : InboundMail) (first : String)
    (gateway : Gateway) : Option BoardContext :=
  (firstCopied settings mail).bind fun boardId =>
    sessionContext boardId
      ((gateway.files boardId).findMember boardId mail.sender)
      ((gateway.files boardId).findMember boardId first)

/-- An address the hash set of recipients may give first. -/
def ComesFirst (recipients : List String) (first : String) : Prop :=
  first ∈ recipients ∨ recipients = [] ∧ first = ""

theorem comesFirst_iff {recipients : List String} {first : String} :
    ComesFirst recipients first ↔
      ∃ order : List String, order.Perm recipients ∧ order.headD "" = first := by
  constructor
  · rintro (member | ⟨none, same⟩)
    · exact ⟨first :: recipients.erase first,
        (List.perm_cons_erase member).symm, rfl⟩
    · exact ⟨[], by rw [none], same.symm⟩
  · rintro ⟨order, perm, same⟩
    cases order with
    | nil => exact .inr ⟨List.nil_perm.mp perm, same.symm⟩
    | cons head rest =>
        exact .inl (same ▸ perm.mem_iff.mp List.mem_cons_self)

theorem findSome_boardIdOf (settings : Settings) (addrs : List String) :
    addrs.findSome? (boardIdOf settings) =
      (addrs.find? fun addr => (parseBoardEmail addr).isSome).map
        (deriveBoardId settings) := by
  induction addrs with
  | nil => rfl
  | cons addr rest induction =>
      rw [List.findSome?_cons, List.find?_cons, boardIdOf]
      cases parseBoardEmail addr with
      | none => exact induction
      | some domain => rfl

/-- `send_email_core` adds the headers of the context. -/
theorem Submits.sessionFlow {settings : Settings} {mail : InboundMail}
    {gateway : Gateway} {state : Api.SendState} {shared : Bool}
    {request : Api.SendEmailRequest} {addressees : Api.Addressees}
    (submits : Submits settings mail gateway state shared request addressees)
    (order : List String) :
    Api.sessionFlow state request mail.sender order =
      contextHeaders (sentContext settings mail (order.headD "") gateway) := by
  rw [Api.sessionFlow, sentContext, firstCopied, findSome_boardIdOf,
    submits.copies, submits.tables]
  cases (((request.cc.getD []).map fun addr =>
      settings.env.tables.toLowercase (Text.trim addr)).find? fun addr =>
        (parseBoardEmail addr).isSome) with
  | none => rfl
  | some boardEmail =>
      simp only [Option.map_some, Option.bind_some, deriveBoardId, submits.digest,
        submits.boards]
      cases (gateway.files (settings.digest (settings.env.tables.toLowercase
          boardEmail))).findMember (settings.digest
            (settings.env.tables.toLowercase boardEmail)) mail.sender with
      | none => rfl
      | some sender =>
          cases (gateway.files (settings.digest (settings.env.tables.toLowercase
              boardEmail))).findMember (settings.digest
                (settings.env.tables.toLowercase boardEmail)) (order.headD "") with
          | none => rfl
          | some addressee => rfl

/-- A board is in copy, and the sender and the first recipient are members of
it. -/
def IsSession (settings : Settings) (mail : InboundMail) (gateway : Gateway)
    (context : BoardContext) : Prop :=
  ∃ addr ∈ mail.ccArr, ∃ sender addressee,
    boardIdOf settings addr = some context.boardId ∧
    (gateway.files context.boardId).findMember context.boardId
      mail.sender = some sender ∧
    (gateway.files context.boardId).findMember context.boardId
      (mail.toArr.head?.getD "") = some addressee ∧
    context.boardRole = addressee.role ∧
    context.fromRole = some sender.role

/-- What a mail is annotated with when it is intercepted. -/
def contextOf (settings : Settings) (mail : InboundMail)
    (gateway : Gateway) : Option BoardContext :=
  (interceptAnnotated settings mail gateway).1.toOption.bind (·.2)

/-- Session mails are annotated and pass, no other mail is annotated, and
sending decides the same, whatever order the recipients have. -/
structure AnnotatesSessions (settings : Settings) (mail : InboundMail)
    (gateway : Gateway) (state : Api.SendState) (request : Api.SendEmailRequest)
    (addressees : Api.Addressees) : Prop where
  session : (∃ context, IsSession settings mail gateway context) →
    ∃ context, IsSession settings mail gateway context ∧
      (interceptAnnotated settings mail gateway).1 =
        .ok (.passThrough, some context)
  other : (∀ context, ¬ IsSession settings mail gateway context) →
    contextOf settings mail gateway = none
  sent : ∀ order : List String, order.Perm addressees.toSet →
    Api.sessionFlow state request mail.sender order =
      contextHeaders (contextOf settings mail gateway)

/-- The mail is no command and is addressed to a board of which its sender is a
member. -/
def ToOwnBoard (settings : Settings) (mail : InboundMail) (gateway : Gateway)
    (context : BoardContext) : Prop :=
  ¬ creates mail ∧ (boardIdOf settings (recipient mail)).isSome ∧
    Text.afterStart "[A2A] " (Text.trim mail.subject) = none ∧
    mail.toArr.findSome? (boardIdOf settings) = some context.boardId ∧
    ∃ member, (gateway.files context.boardId).findMember context.boardId
        mail.sender = some member ∧
      context.boardRole = member.role ∧
      context.fromRole = some member.role

/-- The name a creation mail gives the board, sanitized. -/
def newShortId (settings : Settings) (mail : InboundMail) :
    Action Gateway AppError String :=
  let rest := Text.trim
    ((Text.afterStart "[A2A] new " (Text.trim mail.subject)).getD "")
  let parts := (Text.splitOnce ':' rest).getD (rest, "")
  sanitizeShortId settings (Text.trim parts.1)

def listedMembers (settings : Settings) (mail : InboundMail) : List Json :=
  ((settings.parseJson mail.body).bind (·.getArray? "members")).getD []

/-- The board of a creation mail is there already or is admitted. -/
def Opens (settings : Settings) (mail : InboundMail) (gateway : Gateway) :
    Prop :=
  let orchEmail := orchestratorOf (listedMembers settings mail)
  ∃ shortId named system found,
    newShortId settings mail gateway = (.ok shortId, named) ∧ shortId ≠ "" ∧
    orchestratorSystem settings orchEmail named = (.ok system, found) ∧
    let boardId := deriveBoardId settings (boardAddress system orchEmail shortId)
    (((gateway.files boardId).findBoard boardId).isSome ∨
      settings.admitBoard found.tick system = true)

/-- A creation mail that goes through. -/
structure Founds (settings : Settings) (mail : InboundMail) (gateway : Gateway) :
    Prop where
  kind : creates mail
  announced : isAnnounced settings.env.tables mail
    (listedMembers settings mail) = true
  owned : declaresOwner (listedMembers settings mail) mail.sender = true
  known : ∀ entry ∈ listedMembers settings mail,
    Store.knownRoles.contains ((entry.getStr? "role").getD "worker") = true
  opens : Opens settings mail gateway

/-- Nobody annotates a mail that belongs to no session, or both give the mail to
a board the context of its session. -/
inductive Annotatable (settings : Settings) (mail : InboundMail)
    (gateway : Gateway) (addressees : Api.Addressees) : Prop where
  | plain (nobody : ∀ context, ¬ IsSession settings mail gateway context)
      (unfounded : ¬ Founds settings mail gateway)
      (elsewhere : ∀ context,
        ¬ ToOwnBoard settings mail gateway context)
      (strangers : ∀ boardId, firstCopied settings mail = some boardId →
        ∀ first, ComesFirst addressees.toSet first →
          ((gateway.files boardId).findMember boardId mail.sender).isSome →
            (gateway.files boardId).findMember boardId first = none)
  | coincident (context : BoardContext)
      (session : IsSession settings mail gateway context)
      (own : ToOwnBoard settings mail gateway context)
      (copied : firstCopied settings mail = some context.boardId)
      (members : ∀ first, ComesFirst addressees.toSet first → ∃ member,
        (gateway.files context.boardId).findMember context.boardId first =
            some member ∧
          member.role = context.boardRole)

/-! ## Recipients -/

section Contexts

variable {settings : Settings} {mail : InboundMail} {gateway : Gateway}
  {context : BoardContext}
  {boardId : String}

theorem recipient_mem
    (sent : boardIdOf settings (recipient mail) = some boardId) :
    recipient mail ∈ mail.toArr := by
  rw [recipient] at sent ⊢
  cases found : mail.toArr.find? isBoardAddress with
  | some addr => exact List.mem_of_find?_eq_some found
  | none =>
      rw [found] at sent
      cases parts : mail.toArr with
      | nil =>
          rw [parts] at sent
          cases sent
      | cons first rest => exact List.mem_cons_self

theorem findSome_recipient
    (sent : boardIdOf settings (recipient mail) = some boardId) :
    ∃ first, mail.toArr.findSome? (boardIdOf settings) = some first := by
  rw [← Option.isSome_iff_exists, List.findSome?_isSome_iff]
  exact ⟨recipient mail, recipient_mem sent, by rw [sent]; rfl⟩

/-! ## Mails to a board -/

theorem receiveConfirmation_keeps :
    (receiveConfirmation settings mail).Ends
      (fun decision after => decision = .passThrough ∧ ∀ boardId email,
        (after.files boardId).findMember boardId email =
          (gateway.files boardId).findMember boardId email)
      (fun _ _ => False) gateway := by
  rw [receiveConfirmation]
  cases confirmationOf settings mail with
  | none => exact ⟨rfl, fun _ _ => rfl⟩
  | some parsed =>
      rcases parsed with ⟨boardId, kind, version⟩
      have keeps : ∀ world : BoardWorld,
          world.db.members = (gateway.files boardId).members →
          ∀ other email,
            ((gateway.withBoard boardId world).files other).findMember other
              email = (gateway.files other).findMember other email := by
        intro world same other email
        by_cases own : other = boardId
        · subst own
          rw [Gateway.withBoard_own, BoardDb.findMember, BoardDb.findMember, same]
        · rw [Gateway.withBoard_other gateway world own]
      simp only
      rw [Action.ends_bind, ends_onBoard, confirmAs, Command.ends_sequence,
        Store.ends_getMember]
      split
      · rw [confirm]
        split
        · exact ⟨rfl, keeps _ rfl⟩
        · exact ⟨rfl, keeps _ rfl⟩
      · exact ⟨rfl, keeps _ rfl⟩

theorem receiveOther_ends
    (addressed : mail.toArr.findSome? (boardIdOf settings) = some boardId) :
    (receiveOther settings mail).Ends
      (fun answer _ => answer =
        ((gateway.files boardId).findMember boardId mail.sender).map
          fun member => ⟨boardId, member.role, some member.role⟩)
      (fun _ _ => False) gateway := by
  rw [receiveOther, addressed]
  simp only
  rw [Action.ends_bind]
  refine receiveConfirmation_keeps.mono ?_ fun _ _ impossible => impossible
  intro _ after kept
  rw [Action.ends_bind, ends_onBoard, Store.ends_getMember, Action.ends_pure]
  exact congrArg _ (kept.2 boardId mail.sender)

theorem toOwnBoard_iff (kind : ¬ creates mail)
    (sent : (boardIdOf settings (recipient mail)).isSome)
    (read : Text.afterStart "[A2A] " (Text.trim mail.subject) = none)
    (addressed : mail.toArr.findSome? (boardIdOf settings) = some boardId) :
    ToOwnBoard settings mail gateway context ↔
      ((gateway.files boardId).findMember boardId mail.sender).map
        (fun member => ⟨boardId, member.role, some member.role⟩) =
          some context := by
  constructor
  · rintro ⟨-, -, -, same, member, found, boardRole, fromRole⟩
    rw [addressed] at same
    rcases context with ⟨ownId, role, origin⟩
    cases same
    cases boardRole
    cases fromRole
    exact congrArg (Option.map _) found
  · intro made
    obtain ⟨member, found, whole⟩ := Option.map_eq_some_iff.mp made
    subst whole
    exact ⟨kind, sent, read, addressed, member, found, rfl, rfl⟩

theorem interceptAnnotated_other (kind : ¬ creates mail) :
    (interceptAnnotated settings mail).Ends
      (fun answer _ => ∀ context,
        (answer.2 = some context ↔
          ToOwnBoard settings mail gateway context) ∧
        (answer.2 = some context → answer.1 = .passThrough))
      (fun _ _ => ∀ context, ¬ ToOwnBoard settings mail gateway context)
      gateway := by
  have raw := kind
  rw [creates] at raw
  rw [interceptAnnotated, if_neg raw]
  cases sent : boardIdOf settings (recipient mail) with
  | none =>
      intro context
      refine ⟨⟨by rintro ⟨⟩, fun own => ?_⟩, by rintro ⟨⟩⟩
      have some := own.2.1
      rw [sent] at some
      cases some
  | some first =>
      simp only
      cases read : Text.afterStart "[A2A] " (Text.trim mail.subject) with
      | some rest =>
          have unowned : ∀ context,
              ¬ ToOwnBoard settings mail gateway context := by
            intro context own
            have none := own.2.2.1
            rw [read] at none
            cases none
          simp only
          rw [map_eq_pure_bind, Action.ends_bind]
          refine Action.ends_any (fun _ _ context => ?_) fun _ _ => unowned
          exact ⟨⟨by rintro ⟨⟩, fun own => absurd own (unowned context)⟩,
            by rintro ⟨⟩⟩
      | none =>
          simp only
          obtain ⟨boardId, addressed⟩ := findSome_recipient sent
          rw [map_eq_pure_bind, Action.ends_bind]
          refine (receiveOther_ends addressed).mono ?_
            fun _ _ impossible => impossible.elim
          rintro answer _ rfl context
          refine ⟨?_, fun _ => rfl⟩
          exact (toOwnBoard_iff kind (by rw [sent]; rfl) read addressed).symm

/-! ## Creation mails -/

theorem registerMembers_known {host : Host}
    {entries : List Json} {world : BoardWorld} :
    (Command.run host (registerMembers host boardId entries)).Ends
      (fun emails _ => emails.isSome = true ↔ ∀ entry ∈ entries,
        Store.knownRoles.contains ((entry.getStr? "role").getD "worker") = true)
      (fun _ _ => False) world := by
  induction entries generalizing world with
  | nil => exact ⟨by rintro _ _ ⟨⟩, fun _ => rfl⟩
  | cons entry rest induction =>
      simp only [registerMembers, List.forall_mem_cons]
      rw [Command.ends_ite]
      constructor
      · intro unknown
        rw [unknown]
        exact ⟨by rintro ⟨⟩, fun known => absurd known.1 Bool.false_ne_true⟩
      · intro role
        have known := Bool.not_eq_false _ ▸ role
        simp only [known, true_and]
        rw [Command.ends_ite]
        refine ⟨fun _ => induction, fun named => ?_⟩
        rw [Command.ends_sequence]
        have rest : ∀ later : BoardWorld, (Command.run host (do
            let emails ← registerMembers host boardId rest
            return emails.map ((entry.getStr? "email").getD "" :: ·) :
              Command (Option (List String)))).Ends
            (fun emails _ => emails.isSome = true ↔ ∀ entry ∈ rest,
              Store.knownRoles.contains
                ((entry.getStr? "role").getD "worker") = true)
            (fun _ _ => False) later := by
          intro later
          rw [Command.ends_sequence]
          refine induction.mono ?_ fun _ _ impossible => impossible
          intro emails _ all
          have same : (emails.map
              ((entry.getStr? "email").getD "" :: ·)).isSome = emails.isSome :=
            Option.isSome_map
          exact (iff_of_eq (congrArg (· = true) same)).trans all
        exact registerMember_ends named (List.contains_iff_mem.mp known)
          (fun later _ => rest later) fun _ later _ _ => rest later

theorem ensureBoard_opened {id shortId boardEmail description system : String} :
    (ensureBoard settings id shortId boardEmail description system).Ends
      (fun opened _ => opened = true ↔
        ((gateway.files id).findBoard id).isSome ∨
          settings.admitBoard gateway.tick system = true)
      (fun _ _ => False) gateway := by
  rw [ensureBoard, Action.ends_bind, ends_onBoard, Store.ends_selectBoard]
  simp only [Gateway.boardWorld_db, Gateway.withBoard_self]
  cases (gateway.files id).findBoard id with
  | some board => exact ⟨fun _ => .inl rfl, fun _ => rfl⟩
  | none =>
      simp only
      rw [Action.ends_bind, Action.Ends, admitBoard]
      simp only
      cases settings.admitBoard gateway.tick system with
      | true =>
          rw [if_pos rfl, Action.ends_bind, ends_onBoard, insertBoard,
            Command.ends_sequence, Store.ends_utcNow, Command.ends_ignored,
            Store.createBoard, Command.ends_sequence, Store.ends_send]
          refine Command.ends_commit.mpr ⟨fun _ _ => ?_, fun _ _ => ?_⟩
          · exact ⟨fun _ => .inr rfl, fun _ => rfl⟩
          · exact ⟨fun _ => .inr rfl, fun _ => rfl⟩
      | false =>
          rw [if_neg Bool.false_ne_true]
          exact ⟨by rintro ⟨⟩, by rintro (⟨⟨⟩⟩ | ⟨⟨⟩⟩)⟩

theorem populateAnnotated_ends {boardId boardEmail sender : String}
    {params : Option Json} {members : List Json} :
    (populateAnnotated settings boardId boardEmail params members sender).Ends
      (fun answer _ =>
        (∀ context, answer = some context → context.fromRole = none) ∧
        (answer.isSome = true ↔ ∀ entry ∈ members, Store.knownRoles.contains
          ((entry.getStr? "role").getD "worker") = true))
      (fun _ _ => False) gateway := by
  rw [populateAnnotated, Action.ends_bind, ends_onBoard]
  refine registerMembers_known.mono ?_ fun _ _ impossible => impossible
  intro emails world known
  cases emails with
  | none => exact ⟨by rintro _ ⟨⟩, known⟩
  | some emails =>
      simp only
      rw [Action.ends_bind, Action.ends_ignore]
      have last : ∀ main : World, Action.Ends (do
          onBoard settings boardId (initPermissions (givenPermissions params))
          let member ← onBoard settings boardId
            (Store.getMember boardId sender)
          return some ⟨boardId, (member.map (·.role)).getD "owner", none⟩ :
            Action Gateway AppError (Option BoardContext))
          (fun answer _ =>
            (∀ context, answer = some context →
              context.fromRole = none) ∧
            (answer.isSome = true ↔ ∀ entry ∈ members,
              Store.knownRoles.contains
                ((entry.getStr? "role").getD "worker") = true))
          (fun _ _ => False)
          { gateway.withBoard boardId world with main } := by
        intro main
        rw [Action.ends_bind, ends_onBoard]
        refine initPermissions_ends.mono ?_ fun _ _ impossible => impossible
        intro _ _ _
        rw [Action.ends_bind, ends_onBoard, Store.ends_getMember,
          Action.ends_pure]
        refine ⟨?_, known⟩
        rintro _ ⟨⟩
        rfl
      exact onMain_ends (fun _ main _ => last main) fun _ main _ => last main

theorem newShortId_run : ∃ shortId tick,
    newShortId settings mail gateway =
      (.ok shortId, { gateway with tick }) := by
  rw [newShortId]
  unfold sanitizeShortId
  exact ⟨_, _, rfl⟩

theorem orchestratorSystem_run (orchEmail : String) : ∃ system main,
    orchestratorSystem settings orchEmail gateway =
      (.ok system, { gateway with main }) := by
  have ends : (orchestratorSystem settings orchEmail).Ends
      (fun _ after => ∃ main, after = { gateway with main })
      (fun _ _ => False) gateway :=
    orchestratorSystem_ends fun _ main => ⟨main, rfl⟩
  rcases ran : orchestratorSystem settings orchEmail gateway with
    ⟨error | system, after⟩
  · rw [Action.Ends, ran] at ends
    exact ends.elim
  · rw [Action.Ends, ran] at ends
    obtain ⟨main, rfl⟩ := ends
    exact ⟨system, main, rfl⟩

theorem receiveNewAnnotated_ends (kind : creates mail) :
    (receiveNewAnnotated settings mail).Ends
      (fun answer _ =>
        (∀ context, answer = some context → context.fromRole = none) ∧
        (answer.isSome = true ↔ Founds settings mail gateway))
      (fun _ _ => False) gateway := by
  obtain ⟨shortId, tick, named⟩ := @newShortId_run settings mail gateway
  obtain ⟨system, main, found⟩ := @orchestratorSystem_run settings
    { gateway with tick } (orchestratorOf (listedMembers settings mail))
  have opens_iff : Opens settings mail gateway ↔ shortId ≠ "" ∧
      (((gateway.files (deriveBoardId settings (boardAddress system
        (orchestratorOf (listedMembers settings mail)) shortId))).findBoard
        (deriveBoardId settings (boardAddress system
          (orchestratorOf (listedMembers settings mail)) shortId))).isSome ∨
        settings.admitBoard tick system = true) := by
    constructor
    · rintro ⟨otherId, otherNamed, otherSystem, otherFound, ran, filled, read,
        opened⟩
      rw [named] at ran
      cases ran
      rw [found] at read
      cases read
      exact ⟨filled, opened⟩
    · rintro ⟨filled, opened⟩
      exact ⟨shortId, _, system, _, named, filled, found, opened⟩
  have refused : ¬ Founds settings mail gateway →
      (∀ context : BoardContext, none = some context →
        context.fromRole = none) ∧
      ((none : Option BoardContext).isSome = true ↔
        Founds settings mail gateway) :=
    fun unfounded => ⟨by rintro _ ⟨⟩, by rintro ⟨⟩, fun founds => absurd founds unfounded⟩
  rw [newShortId] at named
  rw [receiveNewAnnotated]
  simp only
  rw [Action.ends_bind, Action.Ends, named]
  simp only
  split
  · next empty =>
      exact refused fun founds => (opens_iff.mp founds.opens).1 empty
  · next filled =>
      split
      · next unannounced =>
          refine refused fun founds => ?_
          have announced := founds.announced
          rw [listedMembers, unannounced] at announced
          cases announced
      · next announced =>
          rw [listedMembers] at found
          rw [Action.ends_bind, Action.Ends, found]
          simp only
          split
          · next unowned =>
              refine refused fun founds => ?_
              have owned := founds.owned
              rw [listedMembers, unowned] at owned
              cases owned
          · next owned =>
              rw [Action.ends_bind]
              refine ensureBoard_opened.mono ?_
                fun _ _ impossible => impossible
              intro opened next ready
              cases opened with
              | true =>
                  rw [if_pos rfl]
                  refine populateAnnotated_ends.mono ?_
                    fun _ _ impossible => impossible
                  rintro answer _ ⟨origin, all⟩
                  refine ⟨origin, all.trans ⟨fun known => ?_, fun founds =>
                    founds.known⟩⟩
                  exact ⟨kind, Bool.not_eq_false _ ▸ announced,
                    Bool.not_eq_false _ ▸ owned, known,
                    opens_iff.mpr ⟨filled, ready.mp rfl⟩⟩
              | false =>
                  rw [if_neg Bool.false_ne_true]
                  refine refused fun founds => ?_
                  exact Bool.false_ne_true
                    (ready.mpr (opens_iff.mp founds.opens).2)

/-! ## What is added -/

theorem contextOf_ok {answer : InterceptorDecision × Option BoardContext}
    (ran : (interceptAnnotated settings mail gateway).1 = .ok answer) :
    contextOf settings mail gateway = answer.2 := by
  rw [contextOf, ran]
  rfl

theorem annotated_creation (kind : creates mail) :
    ∃ answer, (interceptAnnotated settings mail gateway).1 =
        .ok (.passThrough, answer) ∧
      (∀ context, answer = some context → context.fromRole = none) ∧
      (answer.isSome = true ↔ Founds settings mail gateway) := by
  have ends := @receiveNewAnnotated_ends settings mail gateway kind
  rw [creates] at kind
  rw [interceptAnnotated, if_pos kind, map_eq_pure_bind]
  simp only [bind]
  rw [Action.Ends] at ends
  rcases ran : receiveNewAnnotated settings mail gateway with
    ⟨error | answer, after⟩
  · rw [ran] at ends
    exact ends.elim
  · rw [ran] at ends
    exact ⟨answer, rfl, ends⟩

theorem annotated_founded (founds : Founds settings mail gateway) :
    ∃ context, (interceptAnnotated settings mail gateway).1 =
        .ok (.passThrough, some context) ∧ context.fromRole = none := by
  obtain ⟨answer, ran, origin, all⟩ :=
    @annotated_creation settings mail gateway founds.kind
  obtain ⟨context, whole⟩ := Option.isSome_iff_exists.mp (all.mpr founds)
  rw [whole] at ran
  exact ⟨context, ran, origin context whole⟩

theorem annotated_own (own : ToOwnBoard settings mail gateway context) :
    (interceptAnnotated settings mail gateway).1 =
      .ok (.passThrough, some context) := by
  have ends := @interceptAnnotated_other settings mail gateway own.1
  rw [Action.Ends] at ends
  rcases ran : interceptAnnotated settings mail gateway with
    ⟨error | ⟨decision, answer⟩, after⟩
  · rw [ran] at ends
    exact absurd own (ends context)
  · rw [ran] at ends
    obtain ⟨whole, passes⟩ := ends context
    have given : answer = some context := whole.mpr own
    have passed : decision = .passThrough := passes given
    rw [given, passed]

theorem contextOf_none (unfounded : ¬ Founds settings mail gateway)
    (elsewhere : ∀ context, ¬ ToOwnBoard settings mail gateway context) :
    contextOf settings mail gateway = none := by
  by_cases kind : creates mail
  · obtain ⟨answer, ran, -, all⟩ := @annotated_creation settings mail gateway kind
    rw [contextOf_ok ran, ← Option.not_isSome_iff_eq_none]
    exact fun there => unfounded (all.mp there)
  · have ends := @interceptAnnotated_other settings mail gateway kind
    rw [Action.Ends] at ends
    rw [contextOf]
    rcases ran : interceptAnnotated settings mail gateway with
      ⟨error | ⟨decision, answer⟩, after⟩
    · rfl
    · rw [ran] at ends
      rw [Except.toOption, Option.bind_some, Option.eq_none_iff_forall_ne_some]
      exact fun context given =>
        elsewhere context ((ends context).1.mp given)

/-! ## The decision -/

/-- An outcome that is dropped. -/
def passing {α : Type} (_ : α) : InterceptorDecision := .passThrough

theorem populateAnnotated_decision {boardId boardEmail sender : String}
    {params : Option Json} {members : List Json} :
    passing <$>
        populateAnnotated settings boardId boardEmail params members sender =
      (do
        populateBoard settings boardId boardEmail params members
        return .passThrough) := by
  rw [populateAnnotated, populateBoard, map_bind, bind_assoc]
  refine bind_congr fun emails => ?_
  cases emails with
  | none => rfl
  | some emails =>
      simp only
      rw [map_bind, bind_assoc]
      refine bind_congr fun _ => ?_
      rw [map_bind]
      refine bind_congr fun _ => ?_
      funext state
      rw [map_eq_pure_bind]
      simp only [bind, onBoard_getMember]
      rfl

theorem receiveNewAnnotated_decision :
    passing <$> receiveNewAnnotated settings mail =
      receiveNew settings mail := by
  rw [receiveNewAnnotated, receiveNew]
  simp only [map_bind]
  refine bind_congr fun shortId => ?_
  by_cases empty : shortId = ""
  · rw [if_pos empty, if_pos empty]
    rfl
  · rw [if_neg empty, if_neg empty]
    split
    · rfl
    · rw [map_bind]
      refine bind_congr fun system => ?_
      split
      · rfl
      · rw [map_bind]
        refine bind_congr fun opened => ?_
        cases opened with
        | true => exact populateAnnotated_decision
        | false => rfl

theorem receiveOther_decision
    (addressed : mail.toArr.findSome? (boardIdOf settings) = some boardId) :
    passing <$> receiveOther settings mail =
      receiveConfirmation settings mail := by
  funext state
  rw [receiveOther, addressed, map_eq_pure_bind]
  simp only [bind]
  have ends := @receiveConfirmation_keeps settings mail state
  rw [Action.Ends] at ends
  rcases ran : receiveConfirmation settings mail state with
    ⟨error | decision, after⟩
  · rw [ran] at ends
  · rw [ran] at ends
    have passes : decision = .passThrough := ends.1
    simp only [onBoard_getMember, passes]
    rfl

theorem interceptAnnotated_decision :
    Prod.fst <$> interceptAnnotated settings mail = intercept settings mail := by
  rw [interceptAnnotated, intercept]
  split
  · rw [Functor.map_map]
    exact receiveNewAnnotated_decision
  · cases sent : boardIdOf settings (recipient mail) with
    | none => rfl
    | some first =>
        simp only
        cases Text.afterStart "[A2A] " (Text.trim mail.subject) with
        | some rest =>
            simp only
            rw [Functor.map_map]
            exact id_map _
        | none =>
            simp only
            obtain ⟨boardId, addressed⟩ := findSome_recipient sent
            rw [Functor.map_map]
            exact receiveOther_decision addressed

/-! ## Sessions -/

theorem IsSession.fromRole (session : IsSession settings mail gateway context) :
    context.fromRole ≠ none := by
  obtain ⟨_, _, _, _, _, _, _, _, origin⟩ := session
  rw [origin]
  rintro ⟨⟩

theorem sentContext_eq_none {first : String} :
    sentContext settings mail first gateway = none ↔
      ∀ boardId, firstCopied settings mail = some boardId →
        ((gateway.files boardId).findMember boardId mail.sender).isSome →
          (gateway.files boardId).findMember boardId first = none := by
  rw [sentContext]
  cases firstCopied settings mail with
  | none => exact iff_of_true rfl fun _ none => (by cases none)
  | some boardId =>
      simp only [Option.bind_some, Option.some.injEq, forall_eq']
      cases (gateway.files boardId).findMember boardId mail.sender with
      | none => exact iff_of_true rfl fun absent => (by cases absent)
      | some sender =>
          cases (gateway.files boardId).findMember boardId first with
          | none => exact iff_of_true rfl fun _ => rfl
          | some member =>
              exact iff_of_false (by rintro ⟨⟩) fun absent =>
                (by cases absent rfl)

theorem sentContext_eq_own (own : ToOwnBoard settings mail gateway context)
    {first : String} :
    sentContext settings mail first gateway = some context ↔
      firstCopied settings mail = some context.boardId ∧ ∃ member,
        (gateway.files context.boardId).findMember context.boardId first =
            some member ∧
          member.role = context.boardRole := by
  obtain ⟨-, -, -, -, sender, found, boardRole, fromRole⟩ := own
  rw [sentContext]
  constructor
  · intro sent
    obtain ⟨boardId, copied, made⟩ := Option.bind_eq_some_iff.mp sent
    cases known : (gateway.files boardId).findMember boardId mail.sender with
    | none =>
        rw [known] at made
        cases made
    | some sender =>
        cases named : (gateway.files boardId).findMember boardId first with
        | none =>
            rw [known, named] at made
            cases made
        | some member =>
            rw [known, named] at made
            cases made
            exact ⟨copied, member, named, rfl⟩
  · rintro ⟨copied, member, named, role⟩
    rw [copied, Option.bind_some, found, named, sessionContext, role, ← fromRole]

/-- A mail is annotated as documented exactly when it belongs to no session and
is not annotated otherwise, or goes to the board in copy with its roles. -/
theorem sessionFlow_exact (settings : Settings) (mail : InboundMail)
    (gateway : Gateway) (state : Api.SendState) (shared : Bool)
    (request : Api.SendEmailRequest) (addressees : Api.Addressees)
    (submits : Submits settings mail gateway state shared request addressees) :
    AnnotatesSessions settings mail gateway state request addressees ↔
      Annotatable settings mail gateway addressees := by
  have sent_iff {answer : Option BoardContext} :
      (∀ order : List String, order.Perm addressees.toSet →
        Api.sessionFlow state request mail.sender order =
          contextHeaders answer) ↔
      ∀ first, ComesFirst addressees.toSet first →
        sentContext settings mail first gateway = answer := by
    constructor
    · intro sent first comes
      obtain ⟨order, perm, rfl⟩ := comesFirst_iff.mp comes
      have headers := sent order perm
      rw [submits.sessionFlow] at headers
      exact contextHeaders_inj.mp headers
    · intro sent order perm
      rw [submits.sessionFlow, sent _ (comesFirst_iff.mpr ⟨order, perm, rfl⟩)]
  constructor
  · intro annotates
    have same := sent_iff.mp annotates.sent
    by_cases founds : Founds settings mail gateway
    · obtain ⟨context, ran, origin⟩ := annotated_founded founds
      by_cases some : ∃ context, IsSession settings mail gateway context
      · obtain ⟨expected, session, given⟩ := annotates.session some
        rw [ran] at given
        cases given
        exact absurd origin session.fromRole
      · have nothing := annotates.other fun context session =>
          some ⟨context, session⟩
        rw [contextOf_ok ran] at nothing
        cases nothing
    · by_cases own : ∃ context, ToOwnBoard settings mail gateway context
      · obtain ⟨context, own⟩ := own
        have ran := annotated_own own
        rw [contextOf_ok ran] at same
        by_cases some : ∃ context, IsSession settings mail gateway context
        · obtain ⟨expected, session, given⟩ := annotates.session some
          rw [ran] at given
          cases given
          obtain ⟨head, comes⟩ : ∃ first, ComesFirst addressees.toSet first :=
            ⟨_, comesFirst_iff.mpr ⟨_, .refl _, rfl⟩⟩
          exact .coincident context session own
            ((sentContext_eq_own own).mp (same head comes)).1 fun first comes =>
              ((sentContext_eq_own own).mp (same first comes)).2
        · have nothing := annotates.other fun context session =>
            some ⟨context, session⟩
          rw [contextOf_ok ran] at nothing
          cases nothing
      · have elsewhere := not_exists.mp own
        have nothing := contextOf_none founds elsewhere
        rw [nothing] at same
        refine .plain (fun context session => ?_) founds elsewhere
          fun boardId copied first comes =>
            sentContext_eq_none.mp (same first comes) boardId copied
        obtain ⟨expected, -, given⟩ := annotates.session ⟨context, session⟩
        rw [contextOf_ok given] at nothing
        cases nothing
  · rintro (⟨nobody, unfounded, elsewhere, strangers⟩ |
      ⟨context, session, own, copied, members⟩)
    · have nothing := contextOf_none unfounded elsewhere
      refine ⟨fun ⟨context, session⟩ => absurd session (nobody context),
        fun _ => nothing, sent_iff.mpr fun first comes => ?_⟩
      rw [nothing, sentContext_eq_none]
      exact fun boardId copied => strangers boardId copied first comes
    · have ran := annotated_own own
      refine ⟨fun _ => ⟨context, session, ran⟩,
        fun nobody => absurd session (nobody context),
        sent_iff.mpr fun first comes => ?_⟩
      rw [contextOf_ok ran, sentContext_eq_own own]
      exact ⟨copied, members first comes⟩

end Contexts

/-- A worker's mail to the verifier, with the board in copy. -/
def sessionMail : InboundMail where
  subject := "Results"
  sender := "work@x.org"
  toArr := ["ver@x.org"]
  ccArr := [Trial.demoBoard]
  body := ""
  attachments := none

def sessionSender : Api.SendState :=
  { Api.plainSend with
    receiver := { Smtp.plainReceiver with env := (Trial.configured []).env }
    digest := (Trial.configured []).digest
    openBoard := fun boardId => some (demoGateway.files boardId) }

def sessionRequest (toAddrs : String) : Api.SendEmailRequest :=
  { Api.helloPal with toAddrs, cc := some [Trial.demoBoard] }

def sessionAddressees (addressee : String) : Api.Addressees :=
  ⟨[⟨"", addressee, ""⟩], [⟨"", Trial.demoBoard, ""⟩]⟩

theorem sessionMail_submits : Submits (Trial.configured []) sessionMail demoGateway
    sessionSender false (sessionRequest "ver@x.org")
    (sessionAddressees "ver@x.org") where
  tables := rfl
  digest := rfl
  boards := fun _ => rfl
  parsed := by decide +kernel
  recipients := by decide +kernel
  copies := rfl

theorem session_unannotated :
    contextOf (Trial.configured []) sessionMail demoGateway = none ∧
      Api.sessionFlow sessionSender (sessionRequest "ver@x.org")
          "work@x.org" ["ver@x.org"] =
        [("X-Board-ID", Trial.demoBoard), ("X-Board-Role", "verifier"),
          ("X-From-Role", "worker")] ∧
      ¬ ∀ settings mail gateway state shared request addressees,
        Submits settings mail gateway state shared request addressees →
          AnnotatesSessions settings mail gateway state request addressees := by
  have unannotated :
      contextOf (Trial.configured []) sessionMail demoGateway = none := by
    decide +kernel
  have sent : Api.sessionFlow sessionSender (sessionRequest "ver@x.org")
      "work@x.org" ["ver@x.org"] =
      [("X-Board-ID", Trial.demoBoard), ("X-Board-Role", "verifier"),
        ("X-From-Role", "worker")] := by
    decide +kernel
  refine ⟨unannotated, sent, fun all => ?_⟩
  have same := (all _ _ _ _ _ _ _ sessionMail_submits).sent ["ver@x.org"]
    (by decide +kernel)
  rw [unannotated] at same
  exact absurd (sent.symm.trans same) (by decide)

/-- A worker's mail to somebody outside the board, with the board in copy. -/
def outsideMail : InboundMail := { sessionMail with toArr := ["out@x.org"] }

/-- Neither the interceptor nor the interface annotates it. -/
theorem sessionFlow_exact_outside :
    AnnotatesSessions (Trial.configured []) outsideMail demoGateway sessionSender
      (sessionRequest "out@x.org") (sessionAddressees "out@x.org") := by
  refine (sessionFlow_exact (Trial.configured []) outsideMail demoGateway
    sessionSender false (sessionRequest "out@x.org") (sessionAddressees "out@x.org")
    ⟨rfl, rfl, fun _ => rfl, by decide +kernel, by decide +kernel, rfl⟩).mpr ?_
  have elsewhere : outsideMail.toArr.findSome?
      (boardIdOf (Trial.configured [])) = none := by decide +kernel
  have copied : firstCopied (Trial.configured []) outsideMail =
      some Trial.demoBoard := by decide +kernel
  have board : boardIdOf (Trial.configured []) Trial.demoBoard =
      some Trial.demoBoard := by decide +kernel
  have outside : (demoGateway.files Trial.demoBoard).findMember Trial.demoBoard
      "out@x.org" = none := by decide +kernel
  refine .plain ?_ (fun founds => ?_) (fun context own => ?_) ?_
  · rintro ⟨boardId, boardRole, fromRole⟩ ⟨addr, listed, _, _, named, _, found, _⟩
    rw [List.mem_singleton.mp listed, board] at named
    cases named
    have absent := outside.symm.trans found
    cases absent
  · exact absurd founds.kind (by unfold creates; decide +kernel)
  · have own := own.2.2.2.1
    rw [elsewhere] at own
    cases own
  · intro boardId named first comes _
    rw [copied] at named
    cases named
    have listed : first ∈ ["out@x.org"] := by
      rcases comes with member | ⟨none, _⟩
      · have set : (sessionAddressees "out@x.org").toSet = ["out@x.org"] := by
          decide
        exact set ▸ member
      · exact absurd none (by decide)
    rw [List.mem_singleton.mp listed]
    exact outside

end Interceptor

end AimailGateway.Board
