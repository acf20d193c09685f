import AimailGateway.Api.SendRecords

/-! # Headers a client cannot forge

Two requests that differ in their headers create records that agree on the
owned headers exactly if the clients give alike what the gateway leaves to them
on the records that are created.
-/

namespace AimailGateway.Api

open Library Action

variable {state : SendState} {key : ApiKeyRecord} {request : SendEmailRequest}
  {plan : SendPlan} {world : SendWorld} {first second : Option HeaderMap}
  {merged merged' inbound inbound' : HeaderMap} {names : List String}

/-! ## Insertions that are refused -/

theorem Alike.eq_of_emails {left right : SendWorld}
    (alike : Alike names left right)
    (same : right.main.db.emails = left.main.db.emails) : right = left := by
  rcases left with ⟨⟨leftDb, leftTick⟩, leftDeduper, leftPermissions, leftMails⟩
  rcases right with ⟨⟨rightDb, rightTick⟩, rightDeduper, rightPermissions,
    rightMails⟩
  have tick : rightTick = leftTick := alike.main.tick
  have rest : { rightDb with emails := .empty } =
      { leftDb with emails := .empty } := alike.main.rest
  have db : rightDb = leftDb := by
    have restored := congrArg
      (fun db : Database => { db with emails := leftDb.emails }) rest
    have emails : rightDb.emails = leftDb.emails := same
    calc rightDb = { rightDb with emails := leftDb.emails } := by rw [← emails]
      _ = leftDb := restored
  rw [db, tick, show rightDeduper = leftDeduper from alike.deduper,
    show rightPermissions = leftPermissions from alike.permissions,
    show rightMails = leftMails from alike.attachmentMails]

theorem agreeOn_nil (left right : List (String × String)) :
    AgreeOn [] left right :=
  fun _ given => absurd given List.not_mem_nil

theorem run_eq_of_refused {first second : Send α}
    (twins : Twins [] first second)
    (refused : first.Ends (fun _ _ => False)
      (fun _ next => NothingCreated world next) world)
    (refused' : second.Ends (fun _ _ => False)
      (fun _ next => NothingCreated world next) world) :
    second.run world = first.run world := by
  have paired := twins world world (.refl [] world)
  rw [ends_iff_run] at paired refused refused'
  rcases outcome : first.run world with ⟨error | value, next⟩
  · rcases paired.2 error next outcome with ⟨next', ran, alike⟩
    have kept := (refused.2 error next outcome).db
    have kept' := (refused'.2 error next' ran).db
    rw [ran, alike.eq_of_emails (by rw [kept, kept'])]
  · exact (refused.1 value next outcome).elim

theorem filePong_refused {recipient : String}
    (refuses : RefusesRecord state.env world.main) (merged merged' : HeaderMap) :
    (filePong state plan merged' recipient).run world =
      (filePong state plan merged recipient).run world := by
  have refused (headers : HeaderMap) :
      (filePong state plan headers recipient).Ends (fun _ _ => False)
        (fun _ next => NothingCreated world next) world :=
    filePong_ends (fun _ _ _ kept => kept) fun accepts => absurd refuses accepts
  exact run_eq_of_refused (twins_filePong (agreeOn_nil _ _)) (refused merged)
    (refused merged')

theorem fileOutbound_refused (present : plan.external ≠ [])
    (refuses : RefusesRecord state.env world.main) (merged merged' : HeaderMap) :
    (fileOutbound state plan merged').run world =
      (fileOutbound state plan merged).run world := by
  have refused (headers : HeaderMap) :
      (fileOutbound state plan headers).Ends (fun _ _ => False)
        (fun _ next => NothingCreated world next) world :=
    fileOutbound_ends (fun none => present none) (fun _ _ _ _ kept => kept)
      fun _ accepts => absurd refuses accepts
  exact run_eq_of_refused (twins_fileOutbound (agreeOn_nil _ _)) (refused merged)
    (refused merged')

theorem fileInbound_refused (present : plan.internal ≠ [])
    (refuses : RefusesRecord state.env world.main) (inbound inbound' : HeaderMap) :
    (fileInbound state plan inbound').run world =
      (fileInbound state plan inbound).run world := by
  have refused (headers : HeaderMap) :
      (fileInbound state plan headers).Ends (fun _ _ => False)
        (fun _ next => NothingCreated world next) world :=
    fileInbound_ends (fun none => present none) (fun _ _ _ _ kept => kept)
      fun _ accepts => absurd refuses accepts
  exact run_eq_of_refused (twins_fileInbound (agreeOn_nil _ _)) (refused inbound)
    (refused inbound')

theorem fileMail_without_outbound
    (unfiled : plan.external ≠ [] → RefusesRecord state.env world.main) :
    (fileMail state request plan merged' inbound).run world =
      (fileMail state request plan merged inbound).run world := by
  have same : (fileOutbound state plan merged').run world =
      (fileOutbound state plan merged).run world := by
    by_cases present : plan.external = []
    · rw [fileOutbound, fileOutbound, if_pos present, if_pos present]
    · exact fileOutbound_refused present (unfiled present) merged merged'
  simp only [run] at same ⊢
  simp only [fileMail, Bind.bind, same]

theorem fileMail_without_inbound (unfiled : ¬ FilesInbound state plan world) :
    (fileMail state request plan merged inbound').run world =
      (fileMail state request plan merged inbound).run world := by
  have same (next : SendWorld)
      (refused : plan.internal ≠ [] → RefusesRecord state.env next.main) :
      (fileInbound state plan inbound').run next =
        (fileInbound state plan inbound).run next := by
    by_cases present : plan.internal = []
    · rw [fileInbound, fileInbound, if_pos present, if_pos present]
    · exact fileInbound_refused present (refused present) inbound inbound'
  have rest (tail : List String → Send SendEmailResponse) (next : SendWorld)
      (refused : plan.internal ≠ [] → RefusesRecord state.env next.main) :
      (fileInbound state plan inbound' >>= tail).run next =
        (fileInbound state plan inbound >>= tail).run next := by
    have both := same next refused
    simp only [run] at both ⊢
    simp only [Bind.bind, both]
  rw [fileMail, fileMail]
  apply run_bind_congr
  apply fileOutbound_ends
  · intro none
    refine rest _ world fun present => ?_
    by_contra accepts
    exact unfiled ⟨present, accepts, fun cutOff => cutOff.external none⟩
  · exact fun _ _ _ _ _ => trivial
  · intro external created row next _ named _ inserted reached
    refine rest _ next fun present => ?_
    rw [refuses_after inserted named reached]
    by_contra accepts
    exact unfiled ⟨present, created, fun cutOff => accepts cutOff.refused⟩

/-! ## What the gateway leaves to the client -/

/-- The clients give the owned headers alike that the session flow does not
set. -/
def GivenAlike (plan : SendPlan) (first second : Option HeaderMap) : Prop :=
  ∀ name ∈ ownedHeaders, name ∉ plan.board.map (·.1) →
    givenValue first name = givenValue second name

/-- The same for an inbound record: the gateway names a universal command, and
a sender no recipient lists is a stranger unless the client says otherwise. -/
def MarkedAlike (state : SendState) (plan : SendPlan)
    (first second : Option HeaderMap) : Prop :=
  match Smtp.subjectCommand state.receiver plan.subject with
  | none => GivenAlike plan first second
  | some _ => ∀ name ∈ ownedHeaders, name ∉ plan.board.map (·.1) →
      name ≠ "x-mail-command" →
      if name = "x-mail-stranger" ∧ plan.known = false then
        (givenValue first name).getD "true" =
          (givenValue second name).getD "true"
      else givenValue first name = givenValue second name

theorem inboundHeaders_lookup {subject command name : String} {known : Bool}
    (universal : Smtp.subjectCommand state.receiver subject = some command) :
    (inboundHeaders state merged subject known).lookup name =
      if name = "x-mail-command" then some command
      else if name = "x-mail-stranger" ∧ known = false then
        some ((merged.lookup name).getD "true")
      else merged.lookup name := by
  rw [inboundHeaders, universal]
  by_cases commanded : name = "x-mail-command"
  · rw [commanded, if_pos rfl, AList.lookup_insert]
  · rw [if_neg commanded]
    simp only
    rw [AList.lookup_insert_ne commanded]
    by_cases stranger : name = "x-mail-stranger"
    · rw [stranger]
      by_cases absent : known = false ∧ "x-mail-stranger" ∉ merged
      · rw [if_pos absent, AList.lookup_insert, if_pos ⟨rfl, absent.1⟩]
        rw [AList.lookup_eq_none.mpr absent.2]
        rfl
      · rw [if_neg absent]
        split
        · next unknown =>
            have given : "x-mail-stranger" ∈ merged :=
              not_not.mp fun missing => absent ⟨unknown.2, missing⟩
            rcases Option.isSome_iff_exists.mp
              (AList.lookup_isSome.mpr given) with ⟨value, found⟩
            rw [found]
            rfl
        · rfl
    · rw [if_neg (fun both => stranger both.1 :
        ¬ (name = "x-mail-stranger" ∧ known = false))]
      split
      · rw [AList.lookup_insert_ne stranger]
      · rfl

theorem inboundHeaders_agree_iff
    (hidden : ∀ name ∈ ownedHeaders, name ∉ plan.display.map (·.1)) :
    AgreeOn ownedHeaders
      (headersJson (inboundHeaders state (mergedHeaders first plan.display
        plan.board plan.messageId) plan.subject plan.known))
      (headersJson (inboundHeaders state (mergedHeaders second plan.display
        plan.board plan.messageId) plan.subject plan.known)) ↔
    MarkedAlike state plan first second := by
  rw [MarkedAlike]
  split
  · next plain =>
      simp only [inboundHeaders, plain]
      exact mergedHeaders_agree_iff hidden
  · next command universal =>
      refine forall₂_congr fun name owned => ?_
      rw [headersJson_lookup, headersJson_lookup,
        inboundHeaders_lookup universal, inboundHeaders_lookup universal,
        mergedHeaders_lookup (ownedHeaders_plain name owned) (hidden name owned),
        mergedHeaders_lookup (ownedHeaders_plain name owned) (hidden name owned)]
      by_cases commanded : name = "x-mail-command"
      · rw [if_pos commanded, if_pos commanded]
        exact iff_of_true rfl fun _ other => absurd commanded other
      · rw [if_neg commanded, if_neg commanded]
        by_cases flows : name ∈ plan.board.map (·.1)
        · rcases Option.isSome_iff_exists.mp (insertAll_isSome flows ∅) with
            ⟨value, found⟩
          rw [found]
          refine iff_of_true ?_ fun free => absurd flows free
          rfl
        · have unset : (insertAll ∅ plan.board).lookup name = none := by
            rw [insertAll_other flows, AList.lookup_empty]
          rw [unset, Option.none_or, Option.none_or]
          simp only [flows, commanded, not_false_eq_true, forall_true_left,
            ne_eq, givenValue]
          split
          · rw [Option.some.injEq]
          · rfl

structure HeadersAlike (state : SendState) (plan : SendPlan)
    (planned : SendWorld) (first second : Option HeaderMap) : Prop where
  /-- The outbound record, or the pong. -/
  outbound : plan.external ≠ [] → ¬ RefusesRecord state.env planned.main →
    GivenAlike plan first second
  inbound : ¬ (isPong plan.subject = true ∧ plan.external ≠ []) →
    FilesInbound state plan planned → MarkedAlike state plan first second

/-! ## Two requests -/

theorem exists_sameMail {left right : List EmailRecord}
    (mails : List.Forall₂ (SameMail names) left right) {row : EmailRecord}
    (member : row ∈ left) : ∃ partner ∈ right, SameMail names row partner := by
  induction mails with
  | nil => exact absurd member List.not_mem_nil
  | cons same _ induction =>
      rcases List.mem_cons.mp member with here | later
      · rw [here]
        exact ⟨_, List.mem_cons_self, same⟩
      · rcases induction later with ⟨partner, found, related⟩
        exact ⟨partner, List.mem_cons_of_mem _ found, related⟩

theorem Alike.agree {left right : SendWorld} {row row' : EmailRecord}
    (alike : Alike names left right) (member : row ∈ left.main.db.emails)
    (member' : row' ∈ right.main.db.emails) (same : row'.id = row.id) :
    AgreeOn names row.headers row'.headers := by
  rcases exists_sameMail alike.main.mails member with ⟨partner, found, related⟩
  have one : partner = row' := by
    refine Table.eq_of_conflict (fun left right => ?_) found member' ?_
    · exact Bool.beq_comm
    · exact beq_iff_eq.mpr (related.id.trans same.symm)
  rw [← one]
  exact related.headers

theorem Alike.entered {left right : SendWorld} {kind : EmailRecord → Prop}
    {id : String} (alike : Alike names left right)
    (entered : Entered kind id merged world left)
    (entered' : Entered kind id merged' world right) :
    AgreeOn names (headersJson merged) (headersJson merged') := by
  rcases entered with ⟨row, member, _, _, named, headed⟩
  rcases entered' with ⟨row', member', _, _, named', headed'⟩
  rw [← headed, ← headed']
  exact alike.agree member member' (named'.trans named.symm)

/-- The records of a mail that are not refused are in the tables. -/
structure Enters (state : SendState) (plan : SendPlan)
    (merged inbound : HeaderMap) (before after : SendWorld) : Prop where
  outbound : plan.external ≠ [] → ¬ RefusesRecord state.env before.main →
    Entered (IsOutbound plan) (state.env.uuid before.main.tick) merged before after
  inbound : FilesInbound state plan before → Entered (IsInbound plan)
    (state.env.uuid (before.main.tick + plan.inboundTicks)) inbound before after

theorem fileMail_enters (state : SendState) (request : SendEmailRequest)
    (plan : SendPlan) (merged inbound : HeaderMap) (world : SendWorld) :
    Enters state plan merged inbound world
      ((fileMail state request plan merged inbound).run world).2 := by
  have ends : (fileMail state request plan merged inbound).Ends
      (fun _ => Enters state plan merged inbound world)
      (fun _ => Enters state plan merged inbound world) world := by
    apply fileMail_ends
    · exact fun _ refuses unfiled _ _ _ =>
        ⟨fun some accepts => absurd (refuses some) accepts,
          fun files => absurd files unfiled⟩
    · exact fun cutOff _ _ entered =>
        ⟨fun _ _ => entered, fun files => absurd cutOff files.whole⟩
    · exact fun _ _ _ filed => ⟨fun some _ => filed.external some,
        fun files => filed.internal files.internal⟩
  exact ends.after

theorem filePong_enters {recipient : String} (merged : HeaderMap)
    (accepts : ¬ RefusesRecord state.env world.main) :
    Entered (IsPong plan recipient) (state.env.uuid world.main.tick) merged world
      ((filePong state plan merged recipient).run world).2 := by
  have ends : (filePong state plan merged recipient).Ends
      (fun _ => Entered (IsPong plan recipient) (state.env.uuid world.main.tick)
        merged world)
      (fun _ => Entered (IsPong plan recipient) (state.env.uuid world.main.tick)
        merged world) world :=
    filePong_ends (fun refuses => absurd refuses accepts)
      fun _ _ _ _ entered => entered
  exact ends.after

theorem Twins.alike {first second : Send α} (twins : Twins names first second)
    (world : SendWorld) :
    Alike names (first.run world).2 (second.run world).2 := by
  have paired := twins world world (.refl names world)
  rw [ends_iff_run] at paired
  rcases outcome : first.run world with ⟨error | value, next⟩
  · rcases paired.2 error next outcome with ⟨next', ran, alike⟩
    rw [ran]
    exact alike
  · rcases paired.1 value next outcome with ⟨value', next', ran, _, alike⟩
    rw [ran]
    exact alike

theorem fileMail_alike_iff {other : SendEmailRequest}
    (marks : markSent state other plan.sender plan.body =
      markSent state request plan.sender plan.body) :
    Alike names ((fileMail state request plan merged inbound).run world).2
        ((fileMail state other plan merged' inbound').run world).2 ↔
      (plan.external ≠ [] → ¬ RefusesRecord state.env world.main →
        AgreeOn names (headersJson merged) (headersJson merged')) ∧
      (FilesInbound state plan world →
        AgreeOn names (headersJson inbound) (headersJson inbound')) := by
  constructor
  · intro alike
    have left := fileMail_enters state request plan merged inbound world
    have right := fileMail_enters state other plan merged' inbound' world
    exact ⟨fun some accepts => alike.entered (left.outbound some accepts)
      (right.outbound some accepts),
      fun files => alike.entered (left.inbound files) (right.inbound files)⟩
  · rintro ⟨outboundAgree, inboundAgree⟩
    -- Headers of a record that is not created are replaced by those of the
    -- other mail.
    have outbound : ∃ headers, (fileMail state other plan merged' inbound').run
          world = (fileMail state other plan headers inbound').run world ∧
        AgreeOn names (headersJson merged) (headersJson headers) := by
      by_cases files : plan.external ≠ [] ∧ ¬ RefusesRecord state.env world.main
      · exact ⟨merged', rfl, outboundAgree files.1 files.2⟩
      · refine ⟨merged, fileMail_without_outbound fun some => ?_, .refl names _⟩
        by_contra accepts
        exact files ⟨some, accepts⟩
    rcases outbound with ⟨headers, same, agree⟩
    have inbound : ∃ marked, (fileMail state other plan headers inbound').run
          world = (fileMail state other plan headers marked).run world ∧
        AgreeOn names (headersJson inbound) (headersJson marked) := by
      by_cases files : FilesInbound state plan world
      · exact ⟨inbound', rfl, inboundAgree files⟩
      · exact ⟨inbound, fileMail_without_inbound files, .refl names _⟩
    rcases inbound with ⟨marked, same', agree'⟩
    rw [same, same']
    exact (twins_fileMail marks agree agree').alike world

theorem filePong_alike_iff {recipient : String} :
    Alike names ((filePong state plan merged recipient).run world).2
        ((filePong state plan merged' recipient).run world).2 ↔
      (¬ RefusesRecord state.env world.main →
        AgreeOn names (headersJson merged) (headersJson merged')) := by
  constructor
  · exact fun alike accepts => alike.entered (filePong_enters merged accepts)
      (filePong_enters merged' accepts)
  · intro agree
    by_cases refuses : RefusesRecord state.env world.main
    · rw [filePong_refused refuses merged merged']
      exact .refl names _
    · exact (twins_filePong (agree refuses)).alike world

theorem sendEmailCore_answers (state : SendState) (key : ApiKeyRecord)
    (request : SendEmailRequest) (first second : Option HeaderMap)
    (world : SendWorld) :
    ((sendEmailCore state key { request with headers := second }).run world).1 =
      ((sendEmailCore state key { request with headers := first }).run
        world).1 := by
  have plans : Paired Eq (planSend state key request) (planSend state key request)
      (fun plan plan' left right => plan' = plan ∧ Alike [] left right)
      fun _ => Alike [] := by
    intro left right start
    subst start
    exact ends_iff_run.mpr ⟨fun plan next ran =>
      ⟨plan, next, ran, rfl, .refl [] next⟩, fun error next ran =>
      ⟨next, ran, .refl [] next⟩⟩
  have paired : Paired Eq
      (sendEmailCore state key { request with headers := first })
      (sendEmailCore state key { request with headers := second })
      (fun answer answer' left right => answer' = answer ∧ Alike [] left right)
      fun _ => Alike [] := by
    rw [sendEmailCore, sendEmailCore]
    refine Paired.bind plans fun plan plan' => Paired.assuming fun same => ?_
    rw [same]
    simp only
    split
    · exact twins_filePong (agreeOn_nil _ _)
    · exact twins_fileMail rfl (agreeOn_nil _ _) (agreeOn_nil _ _)
  have both := paired world world rfl
  rw [ends_iff_run] at both
  rcases outcome : (sendEmailCore state key
    { request with headers := first }).run world with ⟨error | answer, next⟩
  · rcases both.2 error next outcome with ⟨next', ran, _⟩
    rw [ran]
  · rcases both.1 answer next outcome with ⟨answer', next', ran, same, _⟩
    rw [ran, same]

theorem planSend_headers (client : Option HeaderMap) :
    planSend state key { request with headers := client } =
      planSend state key request :=
  rfl

def filePlanned (state : SendState) (request : SendEmailRequest) (plan : SendPlan)
    (client : Option HeaderMap) : Send SendEmailResponse :=
  match isPong plan.subject, plan.external with
  | true, recipient :: _ => filePong state plan
      (mergedHeaders client plan.display plan.board plan.messageId) recipient
  | _, _ => fileMail state { request with headers := client } plan
      (mergedHeaders client plan.display plan.board plan.messageId)
      (inboundHeaders state (mergedHeaders client plan.display plan.board
        plan.messageId) plan.subject plan.known)

theorem sendEmailCore_planned {planned : SendWorld}
    (ran : (planSend state key request).run world = (.ok plan, planned))
    (client : Option HeaderMap) :
    (sendEmailCore state key { request with headers := client }).run world =
      (filePlanned state request plan client).run planned := by
  simp only [run, sendEmailCore, Bind.bind] at ran ⊢
  rw [planSend_headers, ran]
  rfl

theorem filePlanned_mail (mail : ¬ (isPong plan.subject = true ∧
      plan.external ≠ [])) (client : Option HeaderMap) :
    filePlanned state request plan client =
      fileMail state { request with headers := client } plan
        (mergedHeaders client plan.display plan.board plan.messageId)
        (inboundHeaders state (mergedHeaders client plan.display plan.board
          plan.messageId) plan.subject plan.known) := by
  rw [filePlanned]
  split
  · next recipient rest subject external =>
      exact absurd ⟨subject, by rw [external]; exact List.cons_ne_nil _ _⟩ mail
  · rfl

/-- Requests that differ in their headers only are answered alike; their records
agree on the owned headers exactly if what the gateway leaves to the clients is
given alike. -/
theorem owned_headers_agree_iff (state : SendState) (key : ApiKeyRecord)
    (request : SendEmailRequest) (first second : Option HeaderMap)
    (world : SendWorld) :
    ((sendEmailCore state key { request with headers := second }).run world).1 =
        ((sendEmailCore state key { request with headers := first }).run
          world).1 ∧
      (Alike ownedHeaders
        ((sendEmailCore state key { request with headers := first }).run world).2
        ((sendEmailCore state key { request with headers := second }).run
          world).2 ↔
      ∀ plan planned, (planSend state key request).run world =
        (.ok plan, planned) → HeadersAlike state plan planned first second) := by
  refine ⟨sendEmailCore_answers state key request first second world, ?_⟩
  rcases ran : (planSend state key request).run world with ⟨error | plan, planned⟩
  · have unplanned (client : Option HeaderMap) :
        (sendEmailCore state key { request with headers := client }).run world =
          (.error error, planned) := by
      simp only [run, sendEmailCore, Bind.bind] at ran ⊢
      rw [planSend_headers, ran]
    rw [unplanned first, unplanned second]
    exact iff_of_true (.refl ownedHeaders planned) fun plan planned outcome =>
      (by cases outcome)
  · have hidden := planSend_hidden.of_ok ran
    have headersAlike : (∀ plan' planned', ((.ok plan, planned) :
          Except HttpError SendPlan × SendWorld) = (.ok plan', planned') →
        HeadersAlike state plan' planned' first second) ↔
        HeadersAlike state plan planned first second :=
      ⟨fun all => all plan planned rfl, fun alike plan' planned' same => by
        cases same
        exact alike⟩
    rw [headersAlike, sendEmailCore_planned ran, sendEmailCore_planned ran]
    by_cases pong : isPong plan.subject = true ∧ plan.external ≠ []
    · rcases List.exists_cons_of_ne_nil pong.2 with ⟨recipient, rest, external⟩
      have filed (client : Option HeaderMap) : filePlanned state request plan
          client = filePong state plan (mergedHeaders client plan.display
            plan.board plan.messageId) recipient := by
        rw [filePlanned, pong.1, external]
      rw [filed, filed]
      refine filePong_alike_iff.trans ⟨fun agree => ⟨fun _ accepts => ?_,
        fun mail => absurd pong mail⟩, fun alike accepts => ?_⟩
      · exact (mergedHeaders_agree_iff hidden).mp (agree accepts)
      · exact (mergedHeaders_agree_iff hidden).mpr (alike.outbound pong.2 accepts)
    · rw [filePlanned_mail pong, filePlanned_mail pong]
      refine (fileMail_alike_iff rfl).trans ⟨fun agree => ⟨fun some accepts => ?_,
        fun _ files => ?_⟩, fun alike => ⟨fun some accepts => ?_, fun files => ?_⟩⟩
      · exact (mergedHeaders_agree_iff hidden).mp (agree.1 some accepts)
      · exact (inboundHeaders_agree_iff hidden).mp (agree.2 files)
      · exact (mergedHeaders_agree_iff hidden).mpr (alike.outbound some accepts)
      · exact (inboundHeaders_agree_iff hidden).mpr (alike.inbound pong files)

/-! ## Two requests to try -/

/-- A header of the client's own changes none of the owned ones. -/
theorem owned_headers_agree_reply :
    valuesSent (withHeader "Reply-To" "alice@a.test") "Reply-To" =
        [some "alice@a.test"] ∧
      Alike ownedHeaders
        ((sendEmailCore plainSend aliceKey { helloPal with
          headers := none }).run aliceWorld).2
        ((sendEmailCore plainSend aliceKey { helloPal with
          headers := withHeader "Reply-To" "alice@a.test" }).run
            aliceWorld).2 := by
  have given : ∀ name ∈ ownedHeaders, givenValue none name =
      givenValue (withHeader "Reply-To" "alice@a.test") name := by
    decide +kernel
  refine ⟨by decide +kernel, (owned_headers_agree_iff plainSend aliceKey helloPal
    none (withHeader "Reply-To" "alice@a.test") aliceWorld).2.mpr ?_⟩
  intro plan planned _
  refine ⟨fun _ _ name owned _ => given name owned, fun _ _ => ?_⟩
  rw [MarkedAlike]
  split
  · exact fun name owned _ => given name owned
  · intro name owned _ _
    rw [given name owned]
    split <;> rfl

/-- A client gives itself a role on a board. -/
theorem owned_headers_forged :
    ¬ ∀ (state : SendState) (key : ApiKeyRecord) (request : SendEmailRequest)
      (first second : Option HeaderMap) (world : SendWorld),
      Alike ownedHeaders
        ((sendEmailCore state key { request with headers := first }).run world).2
        ((sendEmailCore state key { request with headers := second }).run
          world).2 := by
  intro claimed
  have alike := claimed plainSend aliceKey helloPal none
    (withHeader "X-Board-Role" "owner") aliceWorld
  have values := sameMails_values alike.main.mails
    (show "X-Board-Role" ∈ ownedHeaders by decide)
  have forged : valuesSent (withHeader "X-Board-Role" "owner") "X-Board-Role" =
      [some "owner"] := by decide +kernel
  have honest : valuesSent none "X-Board-Role" = [none] := by decide +kernel
  rw [valuesSent] at forged honest
  rw [forged, honest] at values
  exact absurd values (by decide)

end AimailGateway.Api
