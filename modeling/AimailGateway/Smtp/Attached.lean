import AimailGateway.Smtp.Filing

/-! # The attachments of a message

Each file of an accepted message is noted with a permission for each recipient
of the stored email, under the address the headers gave. A download asks for
the permission of the address of its key.
-/

namespace AimailGateway.Smtp

open Library Action

/-! ## Permissions -/

/-- The database and the rows of `attachment_permissions`. -/
structure Attached where
  main : World
  permissions : List (String × String)

/-- An action on the other tables. -/
def onMain (action : Action World ε α) : Action Attached ε α :=
  fun state =>
    match action state.main with
    | (outcome, main) => (outcome, { state with main })

/-- `check_permission`. -/
def checkPermission (permissions : List (String × String))
    (attachmentId userEmail : String) : Bool :=
  permissions.contains (attachmentId, userEmail)

/-- `UNIQUE(attachment_id, user_email)`. -/
def insertPermission (entry : String × String) :
    Action Attached AppError Unit :=
  fun state =>
    if state.permissions.contains entry then (.error constraintFailed, state)
    else (.ok (), { state with permissions := state.permissions ++ [entry] })

section Process

variable (receiver : Receiver)

/-- `create_permission`. -/
def grantPermission (entry : String × String) : Action Attached AppError Unit := do
  onMain (query receiver.env fun _ => ())
  insertPermission entry

/-- A permission that cannot be noted is passed over. -/
def grantPermissions : List (String × String) → Action Attached ε Unit
  | [] => return ()
  | entry :: rest => do
      (grantPermission receiver entry).ignore
      grantPermissions rest

/-- `processMessage` with the permissions it grants. The files that were saved
are returned. -/
def processAttached (pending : Pending) (attCount attSize : Option Nat) :
    Action Attached Response (List String) := do
  let (headers, body, attachments, recipients) ←
    check (checkMessage receiver pending attCount attSize)
  let subject := lastHeaderValue headers "subject"
  onMain (learnBoardMembers receiver pending.sender subject pending.messageData)
  let mailId ← onMain (newUuid receiver.env)
  let attachmentIds ← onMain (drawIds receiver attachments)
  let record ← onMain ((Storage.insertEmail receiver.env mailId
    (primarySystem pending.systemId) .inbound pending.sender recipients subject
    body none (messageHeaders receiver pending headers)
    receiver.config.maxAttempts).mapError fun (_ : AppError) =>
      tempFail "Database insert failed")
  let saved := attachmentIds.filter receiver.saves
  grantPermissions receiver (saved.product (recipients.toAddrs ++ recipients.cc))
  onMain ((Storage.updateEmailAttachments receiver.env record.id
    saved).ignore.when (!saved.isEmpty))
  return saved

end Process

variable {receiver : Receiver} {state before after : Attached}

@[simp] theorem ends_onMain {action : Action World ε α}
    {ok : α → Attached → Prop} {failed : ε → Attached → Prop} :
    (onMain action).Ends ok failed state ↔
      action.Ends (fun value main => ok value { state with main })
        (fun error main => failed error { state with main }) state.main := by
  simp only [Ends, onMain]
  rcases action state.main with ⟨_ | _, main⟩ <;> rfl

/-- The permission is there afterwards, and no other one is new. -/
def Grants (entries : List (String × String)) (before after : Attached) : Prop :=
  ∀ entry, entry ∈ after.permissions ↔
    entry ∈ before.permissions ∨ entry ∈ entries

theorem insertPermission_ends {entry : String × String} :
    (insertPermission entry).Ends (fun _ later => Grants [entry] state later)
      (fun _ later => Grants [entry] state later) state := by
  by_cases noted : state.permissions.contains entry = true
  · have ran : insertPermission entry state = (.error constraintFailed, state) :=
      if_pos noted
    rw [Ends, ran]
    intro other
    rw [List.mem_singleton]
    refine ⟨.inl, ?_⟩
    rintro (old | same)
    · exact old
    · rw [same]
      exact List.contains_iff_mem.mp noted
  · have ran : insertPermission entry state = (.ok (), { state with
        permissions := state.permissions ++ [entry] }) := if_neg noted
    rw [Ends, ran]
    exact fun other => List.mem_append

theorem grantPermissions_ends (calm : receiver.env.Calm)
    (entries : List (String × String)) (state : Attached) :
    (grantPermissions receiver entries : Action Attached ε Unit).Ends
      (fun _ later => Grants entries state later) (fun _ _ => False) state := by
  induction entries generalizing state with
  | nil =>
      intro entry
      simp
  | cons head rest induction =>
      have follows (middle : Attached) (first : Grants [head] state middle) :
          (grantPermissions receiver rest : Action Attached ε Unit).Ends
            (fun _ later => Grants (head :: rest) state later)
            (fun _ _ => False) middle := by
        refine (induction middle).mono (fun _ last others entry => ?_)
          fun _ _ never => never
        rw [others, first, List.mem_singleton, List.mem_cons, or_assoc]
      rw [grantPermissions, ends_bind, ends_ignore, grantPermission, ends_bind,
        ends_onMain, calm.ends_query]
      exact insertPermission_ends.mono (fun _ => follows) fun _ => follows

/-! ## Downloads -/

variable {pending : Pending} {attCount attSize : Option Nat}
  {headers : List MailHeader} {body : String} {attachments : Nat}
  {recipients : Recipients} {saved : List String}

theorem recipients_of_checked (checked : checkMessage receiver pending attCount
      attSize = .ok (headers, body, attachments, recipients)) :
    messageRecipients receiver pending headers = .ok recipients := by
  rcases checkMessage_parses checked with ⟨_, _, _, _, _, _, accepted⟩
  exact accepted

theorem processAttached_ends (calm : receiver.env.Calm)
    (checked : checkMessage receiver pending attCount attSize =
      .ok (headers, body, attachments, recipients)) :
    (processAttached receiver pending attCount attSize).Ends
      (fun saved later => Grants
        (saved.product (recipients.toAddrs ++ recipients.cc)) before later)
      (fun _ _ => True) before := by
  have along {α : Type} {action : Action World Response α}
      {ok : α → Attached → Prop} {start : Attached} (same : start.permissions = before.permissions)
      (goes : ∀ value later, later.permissions = before.permissions →
        ok value later) :
      (onMain action).Ends ok (fun _ _ => True) start := by
    rw [ends_onMain]
    exact ends_any (fun value main => goes value _ same) fun _ _ => trivial
  rw [processAttached, checked, ends_bind, ends_check_ok]
  simp only
  rw [ends_bind]
  refine along rfl fun _ _ same => ?_
  rw [ends_bind]
  refine along same fun mailId _ same => ?_
  rw [ends_bind]
  refine along same fun ids _ same => ?_
  rw [ends_bind]
  refine along same fun record middle same => ?_
  rw [ends_bind]
  refine (grantPermissions_ends calm _ middle).mono ?_ fun _ _ never => never.elim
  intro _ later granted
  rw [ends_bind, ends_onMain]
  refine ends_any (fun _ _ entry => ?_) fun _ _ => trivial
  rw [← same]
  exact granted entry

/-- Every agent of the envelope that the record stands for may download the
files, and nobody else may. -/
structure Downloadable (receiver : Receiver) (pending : Pending)
    (headers : List MailHeader) (saved : List String) (before after : Attached) :
    Prop where
  granted : ∀ attachmentId ∈ saved, ∀ addr stored,
    StoredFor receiver pending headers addr stored →
    Board.isBoardAddress addr = false →
    checkPermission after.permissions attachmentId addr = true
  contained : ∀ attachmentId addr,
    checkPermission after.permissions attachmentId addr = true →
    checkPermission before.permissions attachmentId addr = false →
    addr ∈ pending.envelope receiver

/-- The entries of the headers that stand for envelope addresses are stored as
such, and each agent they stand for is among what is stored. -/
structure SpelledAsEnvelope (receiver : Receiver) (pending : Pending)
    (headers : List MailHeader) : Prop where
  stored : ∀ addr stored, StoredFor receiver pending headers addr stored →
    stored ∈ pending.envelope receiver
  each : ∀ addr stored, StoredFor receiver pending headers addr stored →
    Board.isBoardAddress addr = false →
    ∃ other, StoredFor receiver pending headers other addr

/-- The files can be downloaded as they should if the headers spell the
addresses as the envelope does, and only then. -/
theorem attachments_downloadable_iff (receiver : Receiver) (pending : Pending)
    (attCount attSize : Option Nat) (headers : List MailHeader) (body : String)
    (attachments : Nat) (recipients : Recipients) (before after : Attached)
    (saved : List String) (calm : receiver.env.Calm)
    (checked : checkMessage receiver pending attCount attSize =
      .ok (headers, body, attachments, recipients))
    (ran : (processAttached receiver pending attCount attSize).run before =
      (.ok saved, after))
    (written : saved ≠ [])
    (fresh : ∀ attachmentId ∈ saved, ∀ entry ∈ before.permissions,
      entry.1 ≠ attachmentId) :
    Downloadable receiver pending headers saved before after ↔
      SpelledAsEnvelope receiver pending headers := by
  have ends : (processAttached receiver pending attCount attSize).Ends
      (fun saved later => Grants
        (saved.product (recipients.toAddrs ++ recipients.cc)) before later)
      (fun _ _ => True) before :=
    processAttached_ends calm checked
  rw [ends_iff_run] at ends
  have grants := ends.1 saved after ran
  have accepted := recipients_of_checked checked
  have passes {attachmentId addr : String} (member : attachmentId ∈ saved) :
      checkPermission after.permissions attachmentId addr = true ↔
        ∃ matched, StoredFor receiver pending headers matched addr := by
    rw [checkPermission, List.contains_iff_mem, grants, List.pair_mem_product,
      mem_shown accepted]
    constructor
    · rintro (old | ⟨_, stored⟩)
      · exact absurd rfl (fresh attachmentId member _ old)
      · exact stored
    · exact fun stored => .inr ⟨member, stored⟩
  constructor
  · intro downloads
    rcases List.exists_mem_of_ne_nil saved written with ⟨attachmentId, member⟩
    constructor
    · intro addr stored named
      refine downloads.contained attachmentId stored
        ((passes member).mpr ⟨addr, named⟩) ?_
      rw [checkPermission, Bool.eq_false_iff]
      intro old
      exact fresh attachmentId member _ (List.contains_iff_mem.mp old) rfl
    · intro addr stored named agent
      exact (passes member).mp
        (downloads.granted attachmentId member addr stored named agent)
  · intro spelled
    constructor
    · intro attachmentId member addr stored named agent
      exact (passes member).mpr (spelled.each addr stored named agent)
    · intro attachmentId addr allowed denied
      rw [checkPermission, List.contains_iff_mem, grants, List.pair_mem_product,
        mem_shown accepted] at allowed
      rcases allowed with old | ⟨_, matched, named⟩
      · rw [checkPermission, Bool.eq_false_iff] at denied
        exact absurd (List.contains_iff_mem.mpr old) denied
      · exact spelled.stored matched addr named

/-- A message for `bob@b.test` with one file. -/
def withFile (recipient : String) : Pending where
  sender := "pal@c.test"
  recipients := ["bob@b.test"]
  systemId := "sys-b"
  messageData := "From: pal@c.test\nTo: " ++ recipient ++ "\nSubject: report\n" ++
    "Content-Type: multipart/mixed; boundary=B\n\n--B\n" ++
    "Content-Type: text/plain\n\nhi\n--B\nContent-Type: text/plain\n" ++
    "Content-Disposition: attachment; filename=a.txt\n\nabc\n--B--\n"
  persona := none
  senderWhitelisted := true

def fileHeaders (recipient : String) : List MailHeader :=
  [⟨"From", "pal@c.test"⟩, ⟨"To", recipient⟩, ⟨"Subject", "report"⟩,
    ⟨"Content-Type", "multipart/mixed; boundary=B"⟩]

/-- The gateway of the samples, with what the parser finds in that message. -/
def fileReceiver (recipient : String) : Receiver :=
  { plainReceiver with parser := {
      parseHeaders := fun _ => some (fileHeaders recipient)
      parseMail := fun message => some (.part "multipart/mixed"
        (fileHeaders recipient) (some message) none [])
      content := fun _ => ("hi", [⟨"a.txt", "text/plain", 3⟩]) } }

def noFiles : Attached := ⟨World.start aliceAndBob, []⟩

def received (recipient : String) : Except Response (List String) × Attached :=
  (processAttached (fileReceiver recipient) (withFile recipient) none none).run noFiles

theorem answered {outcome : Except Response (List String) × Attached}
    {answer : Except Response (List String)} (same : outcome.1 = answer) :
    outcome = (answer, outcome.2) := by
  rw [← same]

theorem attachments_downloadable_bob :
    (received "bob@b.test").1 = .ok ["0123456789abcdef"] ∧
      Downloadable (fileReceiver "bob@b.test") (withFile "bob@b.test")
        (fileHeaders "bob@b.test") ["0123456789abcdef"] noFiles
        (received "bob@b.test").2 := by
  have ran : (received "bob@b.test").1 = .ok ["0123456789abcdef"] := by
    decide +kernel
  have whole := answered ran
  have checked : checkMessage (fileReceiver "bob@b.test")
      (withFile "bob@b.test") none none =
      .ok (fileHeaders "bob@b.test", "hi", 1,
        ⟨["bob@b.test"], [], ["bob@b.test"]⟩) := by
    decide +kernel
  refine ⟨ran, (attachments_downloadable_iff (fileReceiver "bob@b.test")
    (withFile "bob@b.test") none none _ _ _ _ noFiles _ _ (fun _ => rfl)
    checked whole (by decide) (by decide)).mpr ?_⟩
  have plain (addr stored : String) (named : StoredFor (fileReceiver "bob@b.test")
      (withFile "bob@b.test") (fileHeaders "bob@b.test") addr stored) :
      addr = "bob@b.test" ∧ stored = "bob@b.test" := by
    rcases named with ⟨entry, listed, inner, opened, found, same⟩
    have direct : addressEntries (fileHeaders "bob@b.test") "to" =
        ["bob@b.test"] := by decide +kernel
    have copies : addressEntries (fileHeaders "bob@b.test") "cc" = [] := by
      decide +kernel
    rw [HeaderEntry, direct, copies] at listed
    have entryIs : entry = "bob@b.test" := by simpa using listed
    have whole : bracketed "bob@b.test" = some "bob@b.test" := by decide
    rw [entryIs, whole] at opened
    cases opened
    rw [entryIs] at same
    have matched : envelopeMatch
        ((withFile "bob@b.test").envelope (fileReceiver "bob@b.test"))
        ((fileReceiver "bob@b.test").env.tables.toLowercase
          (Text.trim "bob@b.test")) = some "bob@b.test" := by
      decide +kernel
    rw [matched] at found
    have bare : stripMimeDisplay "bob@b.test" "bob@b.test" = "bob@b.test" := by
      decide +kernel
    exact ⟨(Option.some.inj found).symm, same.trans bare⟩
  constructor
  · intro addr stored named
    rw [(plain addr stored named).2]
    decide +kernel
  · intro addr stored named _
    rcases plain addr stored named with ⟨sameAddr, sameStored⟩
    rw [sameStored] at named
    rw [sameAddr] at named ⊢
    exact ⟨_, named⟩

/-- Bob may not download the file of a message to `BOB@b.test`. -/
theorem capital_letters_denied :
    ¬ ∀ (receiver : Receiver) (pending : Pending) (headers : List MailHeader)
      (body : String) (attachments : Nat) (recipients : Recipients)
      (before after : Attached) (saved : List String), receiver.env.Calm →
      checkMessage receiver pending none none =
        .ok (headers, body, attachments, recipients) →
      (processAttached receiver pending none none).run before =
        (.ok saved, after) →
      Downloadable receiver pending headers saved before after := by
  intro claimed
  have ran : (received "BOB@b.test").1 = .ok ["0123456789abcdef"] := by
    decide +kernel
  have whole := answered ran
  have checked : checkMessage (fileReceiver "BOB@b.test")
      (withFile "BOB@b.test") none none =
      .ok (fileHeaders "BOB@b.test", "hi", 1,
        ⟨["BOB@b.test"], [], ["BOB@b.test"]⟩) := by
    decide +kernel
  have downloads := claimed (fileReceiver "BOB@b.test") (withFile "BOB@b.test")
    _ _ _ _ noFiles (received "BOB@b.test").2 _ (fun _ => rfl) checked whole
  have named : StoredFor (fileReceiver "BOB@b.test") (withFile "BOB@b.test")
      (fileHeaders "BOB@b.test") "bob@b.test" "BOB@b.test" :=
    ⟨"BOB@b.test", .inl (by decide +kernel), "BOB@b.test", by decide,
      by decide +kernel, by decide +kernel⟩
  have allowed := downloads.granted "0123456789abcdef" List.mem_cons_self
    "bob@b.test" "BOB@b.test" named (by decide)
  have denied : checkPermission (received "BOB@b.test").2.permissions
      "0123456789abcdef" "bob@b.test" = false := by decide +kernel
  rw [denied] at allowed
  cases allowed

end AimailGateway.Smtp
