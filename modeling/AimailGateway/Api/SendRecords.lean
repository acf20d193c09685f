import AimailGateway.Api.SendHeaders
import AimailGateway.Smtp.Outcomes

/-! # What a send creates

The checks of a send create nothing. What follows them creates an outbound
record, an inbound one and notices to the sender, or one pong; a failed request
is one that a record was refused to.
-/

namespace AimailGateway.Api

open Library Action

/-! ## Steps that create nothing -/

def ReadsMain (action : Action World ε α) : Prop :=
  action.Moves (OnDb fun before after => after = before)

section Reads

variable {env : Surroundings}

theorem readsMain_pure (value : α) :
    ReadsMain (pure value : Action World ε α) :=
  fun _ => rfl

theorem readsMain_fail (error : ε) :
    ReadsMain (fail error : Action World ε α) :=
  fun _ => rfl

theorem readsMain_query {read : Database → α} : ReadsMain (query env read) :=
  moves_query fun _ => rfl

theorem readsMain_now : ReadsMain (now env : Action World ε Timestamp) :=
  fun _ => rfl

theorem readsMain_newUuid : ReadsMain (newUuid env : Action World ε String) :=
  fun _ => rfl

theorem ReadsMain.bind {action : Action World ε α} {rest : α → Action World ε β}
    (reads : ReadsMain action) (restReads : ∀ value, ReadsMain (rest value)) :
    ReadsMain (action >>= rest) := by
  refine Moves.bind ?_ reads restReads
  exact fun first second => Eq.trans second first

theorem ReadsMain.attempt {action : Action World ε α} (reads : ReadsMain action) :
    ReadsMain (action.attempt : Action World δ (Except ε α)) :=
  Moves.attempt reads

theorem ReadsMain.mapError {action : Action World ε α} {translate : ε → δ}
    (reads : ReadsMain action) : ReadsMain (action.mapError translate) :=
  Moves.mapError reads

theorem ReadsMain.attempted {action : Action World δ α}
    {rest : Except δ α → Action World ε β} (reads : ReadsMain action)
    (restReads : ∀ outcome, ReadsMain (rest outcome)) :
    ReadsMain (action.attempt >>= rest) :=
  reads.attempt.bind restReads

theorem readsMain_resolveSystemId {domain : String} :
    ReadsMain (EnvFactory.resolveSystemIdFromDomain env domain) := by
  refine readsMain_query.bind fun found => ?_
  cases found with
  | none => exact readsMain_fail _
  | some row => exact readsMain_pure _

theorem readsMain_checkWhitelisted {domainAddr value direction : String} :
    ReadsMain (EnvFactory.checkWhitelisted env domainAddr value direction) := by
  rw [EnvFactory.checkWhitelisted]
  split
  · exact readsMain_query
  · refine readsMain_resolveSystemId.bind fun systemId =>
      readsMain_query.bind fun verdict => ?_
    split
    · exact readsMain_pure _
    · split
      · exact readsMain_query
      · exact readsMain_pure _

theorem readsMain_resolveBoardRecipient {receiver : Smtp.Receiver}
    {addr : String} :
    ReadsMain (Smtp.resolveBoardRecipient receiver addr) := by
  refine moves_iff_ends.mpr fun world => Smtp.resolveBoardRecipient_ends ?_ ?_
  · exact fun _ later same => same
  · exact fun _ _ later same _ => same

end Reads

variable {state : SendState} {key : ApiKeyRecord} {request : SendEmailRequest}
  {plan : SendPlan} {merged inbound : HeaderMap} {world planned : SendWorld}
  {failed : HttpError → SendWorld → Prop} {before after : SendWorld}
  {ok : SendEmailResponse → SendWorld → Prop} {row : EmailRecord}
  {first second third : SendWorld} {systemId recipient : String}

theorem readsMain_signedBody {sender markdown : String} :
    ReadsMain (signedBody state sender markdown : Action World ε String) := by
  refine ReadsMain.attempted readsMain_query fun outcome => ?_
  rcases outcome with error | _ | record
  · exact readsMain_pure _
  · exact readsMain_pure _
  · simp only
    split <;> exact readsMain_pure _

theorem readsMain_iterate {elements : List String} :
    ReadsMain (iterate state elements : Action World ε (List String)) :=
  fun _ => rfl

theorem readsMain_listWhitelists {systemId : String} :
    ReadsMain (Storage.listWhitelists state.env systemId) := by
  intro world
  have reads : ReadsMain (query state.env fun db =>
      state.env.listed world.tick (db.whitelists.select
        (·.systemId == systemId))) := readsMain_query
  exact reads world

theorem readsMain_rulesOf : ∀ domains : List String,
    ReadsMain (rulesOf state domains :
      Action World ε (List (String × List WhitelistRecord)))
  | [] => readsMain_pure _
  | domain :: rest => by
      rw [rulesOf]
      refine ReadsMain.attempted ?_ fun outcome =>
        (readsMain_rulesOf rest).bind fun others => ?_
      · refine ReadsMain.attempted readsMain_resolveSystemId fun found => ?_
        cases found with
        | error _ => exact readsMain_pure _
        | ok systemId => exact readsMain_listWhitelists
      · cases outcome <;> exact readsMain_pure _

theorem readsMain_refuseAnchors : ∀ recipients : List String,
    ReadsMain (refuseAnchors state recipients)
  | [] => readsMain_pure _
  | recipient :: rest => by
      rw [refuseAnchors]
      split
      · exact readsMain_refuseAnchors rest
      · refine ReadsMain.attempted readsMain_query fun found => ?_
        rcases found with error | _ | row
        · exact readsMain_refuseAnchors rest
        · exact readsMain_refuseAnchors rest
        · simp only
          split
          · exact readsMain_fail _
          · exact readsMain_refuseAnchors rest

theorem readsMain_requireRules {sender : String} :
    ReadsMain (requireRules state sender) := by
  refine (ReadsMain.mapError (readsMain_resolveSystemId.bind fun _ =>
    readsMain_query)).bind fun count => ?_
  split
  · exact readsMain_fail _
  · exact readsMain_pure _

theorem readsMain_isAllowed {sender subject recipient : String} :
    ReadsMain (isAllowed state sender subject recipient : Action World ε Bool) := by
  rw [isAllowed]
  split
  · exact readsMain_pure _
  · refine ReadsMain.attempted readsMain_checkWhitelisted fun verdict => ?_
    rcases verdict with error | _ | _ <;> exact readsMain_pure _

theorem readsMain_filterOutbound {sender subject : String} :
    ∀ recipients : List String,
    ReadsMain (filterOutbound state sender subject recipients :
      Action World ε (List String × List String))
  | [] => readsMain_pure _
  | recipient :: rest => by
      rw [filterOutbound]
      refine readsMain_isAllowed.bind fun allowed =>
        (readsMain_filterOutbound rest).bind fun others => ?_
      rcases others with ⟨valid, filtered⟩
      simp only
      split <;> exact readsMain_pure _

section Placing

variable (state : SendState)

/-- Where a recipient that the sender may write to is sorted. -/
inductive Place where
  | board (systemId : String)
  | internal
  | external
  | unregistered
  | sink
  | filtered
  deriving DecidableEq, Repr

/-- A registration that internal delivery may use. -/
def isInternal (systemId : String) :
    Except AppError (Option SystemDomainRecord) → Bool
  | .ok (some row) => row.isActive &&
      (row.systemId == systemId || isShared row.systemId)
  | .ok none => false
  | .error _ => false

def isOwnDomain (systemId : String) :
    Except AppError (Option SystemDomainRecord) → Bool
  | .ok (some row) => row.isActive && row.systemId == systemId
  | .ok none => false
  | .error _ => false

/-- How `splitRecipients` sorts one recipient. -/
def place (systemId recipient : String) : Action World ε Place := do
  if isSystemSink state recipient then
    return .sink
  else if Board.isBoardAddress recipient then
    match ← (Smtp.resolveBoardRecipient state.receiver recipient).attempt with
    | .ok (boardSystem, _) => return .board boardSystem
    | .error _ => return .filtered
  else
    let registered ← (Storage.getSystemDomainByName state.env recipient).attempt
    if isInternal systemId registered then
      return .internal
    else
      let fallback ← (Storage.getSystemDomainByName state.env
        (Text.lastPiece '@' recipient)).attempt
      if isOwnDomain systemId fallback then return .unregistered
      else return .external

end Placing

def Buckets.add (buckets : Buckets) (recipient : String) : Place → Buckets
  | .board boardSystem => { buckets with
      internal := recipient :: buckets.internal, boardSystem := some boardSystem }
  | .internal => { buckets with internal := recipient :: buckets.internal }
  | .external => { buckets with external := recipient :: buckets.external }
  | .unregistered => { buckets with
      unregistered := recipient :: buckets.unregistered }
  | .sink => { buckets with systemSink := recipient :: buckets.systemSink }
  | .filtered => { buckets with filtered := recipient :: buckets.filtered }

theorem splitRecipients_cons {state : SendState} {rest : List String} :
    (splitRecipients state systemId (recipient :: rest) :
      Action World ε Buckets) =
      place state systemId recipient >>= fun sorted =>
        splitRecipients state systemId rest >>= fun buckets =>
          pure (buckets.add recipient sorted) := by
  rw [splitRecipients, place]
  split
  · rfl
  · split
    · rw [bind_assoc]
      refine congrArg _ (funext fun found => ?_)
      rcases found with error | ⟨boardSystem, domain⟩ <;> rfl
    · rw [bind_assoc]
      refine congrArg _ (funext fun registered => ?_)
      have outside {sort : Except AppError (Option SystemDomainRecord) →
          Buckets → Action World ε Buckets}
          (owned : ∀ fallback, isOwnDomain systemId fallback = true →
            ∀ buckets, sort fallback buckets =
              pure (buckets.add recipient .unregistered))
          (foreign : ∀ fallback, isOwnDomain systemId fallback = false →
            ∀ buckets, sort fallback buckets =
              pure (buckets.add recipient .external)) :
          ((Storage.getSystemDomainByName state.env
            (Text.lastPiece '@' recipient)).attempt >>= fun fallback =>
              splitRecipients state systemId rest >>= sort fallback) =
          ((Storage.getSystemDomainByName state.env
            (Text.lastPiece '@' recipient)).attempt >>= fun fallback =>
              if isOwnDomain systemId fallback then pure .unregistered
              else pure .external) >>= fun sorted =>
                splitRecipients state systemId rest >>= fun buckets =>
                  pure (buckets.add recipient sorted) := by
        rw [bind_assoc]
        refine congrArg _ (funext fun fallback => ?_)
        cases mine : isOwnDomain systemId fallback with
        | true => exact congrArg _ (funext (owned fallback mine))
        | false => exact congrArg _ (funext (foreign fallback mine))
      change (if isInternal systemId registered then _ else _) =
        (if isInternal systemId registered then _ else _) >>= _
      split
      · rfl
      · refine outside (fun fallback mine buckets => ?_)
          fun fallback other buckets => ?_
        · rcases fallback with error | _ | found
          · cases mine
          · cases mine
          · exact if_pos mine
        · rcases fallback with error | _ | found
          · rfl
          · rfl
          · exact if_neg (Bool.eq_false_iff.mp other)

theorem readsMain_place :
    ReadsMain (place state systemId recipient : Action World ε Place) := by
  rw [place]
  split
  · exact readsMain_pure _
  · split
    · refine ReadsMain.attempted readsMain_resolveBoardRecipient fun found => ?_
      rcases found with error | ⟨boardSystem, domain⟩ <;> exact readsMain_pure _
    · refine ReadsMain.attempted readsMain_query fun registered => ?_
      split
      · exact readsMain_pure _
      · refine ReadsMain.attempted readsMain_query fun fallback => ?_
        split <;> exact readsMain_pure _

theorem readsMain_splitRecipients {systemId : String} :
    ∀ recipients : List String,
    ReadsMain (splitRecipients state systemId recipients : Action World ε Buckets)
  | [] => readsMain_pure _
  | recipient :: rest => by
      rw [splitRecipients_cons]
      exact readsMain_place.bind fun sorted =>
        (readsMain_splitRecipients rest).bind fun buckets => readsMain_pure _

theorem readsMain_filterInbound {sender subject : String} :
    ∀ recipients : List String,
    ReadsMain (filterInbound state sender subject recipients :
      Action World ε Admission)
  | [] => readsMain_pure _
  | recipient :: rest => by
      rw [filterInbound]
      refine ReadsMain.attempted readsMain_checkWhitelisted fun verdict =>
        (readsMain_filterInbound rest).bind fun others => ?_
      rcases verdict with error | _ | _
      · exact readsMain_pure _
      · simp only
        split <;> exact readsMain_pure _
      · exact readsMain_pure _

theorem readsMain_routeRecipients {systemId sender subject : String}
    {recipients : List String} :
    ReadsMain (routeRecipients state systemId sender subject recipients :
      Action World ε (Buckets × Admission)) := by
  refine (readsMain_filterOutbound recipients).bind fun pair => ?_
  rcases pair with ⟨valid, refused⟩
  exact (readsMain_splitRecipients valid).bind fun buckets =>
    (readsMain_filterInbound buckets.internal).bind fun _ => readsMain_pure _

/-- The tables a send could write are as they were. -/
structure NothingCreated (before after : SendWorld) : Prop where
  db : after.main.db = before.main.db
  permissions : after.permissions = before.permissions
  attachmentMails : after.attachmentMails = before.attachmentMails

theorem NothingCreated.trans
    (early : NothingCreated first second) (late : NothingCreated second third) :
    NothingCreated first third where
  db := late.db.trans early.db
  permissions := late.permissions.trans early.permissions
  attachmentMails := late.attachmentMails.trans early.attachmentMails

def ReadsOnly (action : Action SendWorld ε α) : Prop :=
  action.Moves NothingCreated

theorem readsOnly_still (action : Action SendWorld ε α)
    (still : ∀ world, (action.run world).2 = world) : ReadsOnly action := by
  intro world
  rw [still world]
  exact ⟨rfl, rfl, rfl⟩

theorem ReadsOnly.bind {action : Action SendWorld ε α}
    {rest : α → Action SendWorld ε β} (reads : ReadsOnly action)
    (restReads : ∀ value, ReadsOnly (rest value)) :
    ReadsOnly (action >>= rest) := by
  refine Moves.bind ?_ reads restReads
  exact fun early late => early.trans late

theorem ReadsMain.onDatabase {action : Action World ε α}
    (reads : ReadsMain action) : ReadsOnly (onDatabase action) :=
  fun world => ⟨reads world.main, rfl, rfl⟩

theorem readsOnly_checkDuplicate {sender body : String} :
    ReadsOnly (checkDuplicate state request sender body) := by
  rw [checkDuplicate]
  split
  · refine ReadsOnly.bind ?_ fun duplicate => ?_
    · refine (ReadsMain.onDatabase readsMain_now).bind fun time => ?_
      exact ReadsOnly.bind (fun _ => ⟨rfl, rfl, rfl⟩) fun _ =>
        (readsOnly_still _ fun _ => rfl).bind fun _ =>
          readsOnly_still _ fun _ => rfl
    · cases duplicate <;> exact readsOnly_still _ fun _ => rfl
  · exact readsOnly_still _ fun _ => rfl

theorem planSend_readsOnly : ReadsOnly (planSend state key request) := by
  rw [planSend]
  simp only
  split
  · exact readsOnly_still _ fun _ => rfl
  · refine readsMain_signedBody.onDatabase.bind fun body =>
      readsOnly_checkDuplicate.bind fun _ => ?_
    cases parseAddressees state (isShared key.systemId) request with
    | none => exact readsOnly_still _ fun _ => rfl
    | some addressees =>
        refine readsMain_iterate.onDatabase.bind fun domains =>
          (readsMain_rulesOf domains).onDatabase.bind fun rules =>
          readsMain_iterate.onDatabase.bind fun toOrder =>
          readsMain_iterate.onDatabase.bind fun ccOrder =>
          readsMain_newUuid.onDatabase.bind fun drawn => ?_
        split
        · exact readsOnly_still _ fun _ => rfl
        · have anchors : ReadsMain ((refuseAnchors state (deliverable addressees
              toOrder ccOrder)).when (isShared key.systemId)) := by
            rw [Action.when]
            split
            · exact readsMain_refuseAnchors _
            · exact readsMain_pure _
          exact anchors.onDatabase.bind fun _ =>
            readsMain_requireRules.onDatabase.bind fun _ =>
            readsMain_routeRecipients.onDatabase.bind fun _ =>
            readsOnly_still _ fun _ => rfl

/-! ## The records -/

def RefusesRecord (env : Surroundings) (world : World) : Prop :=
  Storage.RefusesEmail env (env.uuid world.tick) world.later

theorem ends_onDatabase {action : Action World ε α}
    {ok : α → SendWorld → Prop} {failed : ε → SendWorld → Prop} :
    (onDatabase action).Ends ok failed world ↔
      action.Ends (fun value main => ok value { world with main })
        (fun error main => failed error { world with main }) world.main := by
  simp only [Ends, onDatabase]
  rcases action world.main with ⟨_ | _, next⟩ <;> rfl

theorem attachmentCall_main {change : SendWorld → Option SendWorld}
    (beside : ∀ before after, change before = some after →
      after.main = before.main) :
    ((attachmentCall state change).run world).2.main = world.main.later := by
  have ended : (attachmentCall state change).Ends
      (fun _ next => next.main = world.main.later)
      (fun _ next => next.main = world.main.later) world := by
    rw [attachmentCall, ends_bind, ends_onDatabase, ends_query]
    refine ⟨fun _ _ => rfl, fun _ => ?_⟩
    simp only [Ends, changeTables]
    cases changed : change { world with main := world.main.later } with
    | none => rfl
    | some next => exact beside _ _ changed
  exact ended.after

theorem addMailId_main {mailId attachmentId : String} :
    ((addMailId state mailId attachmentId).run world).2.main =
      world.main.later :=
  attachmentCall_main fun before after changed => by
    cases changed
    rfl

theorem createPermission_main {attachmentId userEmail : String} :
    ((createPermission state attachmentId userEmail).run world).2.main =
      world.main.later :=
  attachmentCall_main fun before after changed => by
    split at changed
    · cases changed
    · cases changed
      rfl

theorem ends_forEach {action : α → Action SendWorld AppError Unit}
    (beside : ∀ element world,
      ((action element).run world).2.main = world.main.later)
    (elements : List α) (world : SendWorld) {ok : Unit → SendWorld → Prop}
    (ended : ∀ next, next.main =
      ⟨world.main.db, world.main.tick + elements.length⟩ → ok () next) :
    (forEach action elements).Ends ok failed world := by
  induction elements generalizing world with
  | nil => exact ended world rfl
  | cons element rest induction =>
      have first : (action element world).2.main = world.main.later :=
        beside element world
      rw [forEach, ends_bind]
      refine induction _ fun next reached => ended next ?_
      rw [reached, first]
      simp only [World.later, List.length_cons]
      congr 1
      omega

/-- The record for the external recipients. -/
structure IsOutbound (plan : SendPlan) (row : EmailRecord) : Prop where
  present : plan.external ≠ []
  direction : row.direction = .outbound
  recipients : row.recipients =
    plan.shown (plan.external.map plan.addressees.fullAddr)

/-- The record for the internal recipients. -/
structure IsInbound (plan : SendPlan) (row : EmailRecord) : Prop where
  present : plan.internal ≠ []
  direction : row.direction = .inbound
  recipients : row.recipients = plan.shown
    (plan.internal.filter fun addr => !Board.isBoardAddress addr)

/-- A row that an insertion adds. -/
structure Inserted (row : EmailRecord) (before after : SendWorld) : Prop where
  fresh : ∀ old ∈ before.main.db.emails, old.id ≠ row.id
  rows : ∀ other, other ∈ after.main.db.emails ↔
    other ∈ before.main.db.emails ∨ other = row

theorem inserted_of_insert? {emails : Emails}
    (insertion : before.main.db.emails.insert? row = some emails)
    (reached : after.main.db.emails = emails) : Inserted row before after where
  fresh old member := by
    have apart := Table.conflict_false_of_insert? insertion old member
    simpa [EmailRecord.conflict] using apart
  rows other := by
    rw [reached]
    exact Table.mem_of_insert? insertion

/-- The questions asked for the outbound record: three for the insertion and
one for each attachment. -/
def SendPlan.outboundTicks (plan : SendPlan) : Nat :=
  3 + (plan.attachmentIds.getD []).length

theorem fileOutbound_ends {ok : List String → SendWorld → Prop}
    (idle : plan.external = [] → ok [] world)
    (refused : plan.external ≠ [] → RefusesRecord state.env world.main →
      ∀ error next, NothingCreated world next → failed error next)
    (created : plan.external ≠ [] → ¬ RefusesRecord state.env world.main →
      ∀ row next, IsOutbound plan row → row.id = state.env.uuid world.main.tick →
      row.headers = headersJson merged → Inserted row world next →
      next.main.tick = world.main.tick + plan.outboundTicks → ok [row.id] next) :
    (fileOutbound state plan merged).Ends ok failed world := by
  rw [fileOutbound]
  split
  · next none => exact idle none
  · next present =>
      rw [ends_bind, ends_onDatabase, ends_newUuid, ends_bind, ends_onDatabase,
        ends_mapError]
      refine Storage.insertEmail_settles ?_ fun free createdAt emails insertion => ?_
      · exact fun refuses error => refused present refuses _ _ ⟨rfl, rfl, rfl⟩
      · rw [ends_bind]
        refine ends_forEach (fun _ _ => addMailId_main) _ _ fun next reached => ?_
        refine created present free _ next ⟨present, rfl, rfl⟩ rfl rfl
          (inserted_of_insert? insertion ?_) ?_
        · rw [reached]
        · rw [reached, SendPlan.outboundTicks]
          simp only [World.later]
          omega

theorem fileInbound_ends {ok : List String → SendWorld → Prop}
    (idle : plan.internal = [] → ok [] world)
    (refused : plan.internal ≠ [] → RefusesRecord state.env world.main →
      ∀ error next, NothingCreated world next → failed error next)
    (created : plan.internal ≠ [] → ¬ RefusesRecord state.env world.main →
      ∀ row next, IsInbound plan row → row.id = state.env.uuid world.main.tick →
      row.headers = headersJson inbound → Inserted row world next →
      ok [row.id] next) :
    (fileInbound state plan inbound).Ends ok failed world := by
  rw [fileInbound]
  split
  · next none => exact idle none
  · next present =>
      rw [ends_bind, ends_onDatabase, ends_newUuid, ends_bind, ends_onDatabase,
        ends_mapError]
      refine Storage.insertEmail_settles ?_ fun free createdAt emails insertion => ?_
      · exact fun refuses error => refused present refuses _ _ ⟨rfl, rfl, rfl⟩
      · rw [ends_bind]
        refine ends_forEach (fun _ _ => createPermission_main) _ _
          fun middle permitted => ?_
        rw [ends_bind]
        refine ends_forEach (fun _ _ => addMailId_main) _ _ fun next reached => ?_
        refine created present free _ next ⟨present, rfl, rfl⟩ rfl rfl
          (inserted_of_insert? insertion ?_)
        rw [reached, permitted]

structure IsNotice (plan : SendPlan) (row : EmailRecord) : Prop where
  direction : row.direction = .outbound
  recipients : row.recipients = ⟨[plan.sender], [], []⟩

/-- Notices may be added. -/
structure Notified (plan : SendPlan) (before after : SendWorld) : Prop where
  kept : ∀ row ∈ before.main.db.emails, row ∈ after.main.db.emails
  added : ∀ row ∈ after.main.db.emails,
    row ∈ before.main.db.emails ∨ IsNotice plan row

theorem Notified.of_db
    (same : after.main.db = before.main.db) : Notified plan before after := by
  constructor
  · intro row member
    rw [same]
    exact member
  · intro row member
    rw [same] at member
    exact .inl member

theorem Notified.trans
    (early : Notified plan first second) (late : Notified plan second third) :
    Notified plan first third where
  kept row member := late.kept row (early.kept row member)
  added row member := (late.added row member).elim (early.added row) .inr

theorem readsMain_domainWebhook {addr : String} :
    ReadsMain (domainWebhook state addr : Action World ε (Option String)) := by
  rw [domainWebhook]
  split
  · exact readsMain_pure _
  · refine ReadsMain.attempted readsMain_query fun found => ?_
    rcases found with error | _ | row <;> exact readsMain_pure _

theorem readsMain_resolveWebhookUrl {addr : String} :
    ReadsMain (resolveWebhookUrl state addr : Action World ε (Option String)) := by
  refine ReadsMain.attempted readsMain_query fun found => ?_
  rcases found with error | _ | row
  · exact readsMain_domainWebhook
  · exact readsMain_domainWebhook
  · exact readsMain_pure _

theorem notifySender_ends {addrs : List String} {subject body : String}
    {ok : Unit → SendWorld → Prop}
    (ended : ∀ next, Notified plan world next → ok () next) :
    (notifySender state plan addrs subject body).Ends ok failed world := by
  rw [notifySender]
  split
  · exact ended world (.of_db rfl)
  · rw [ends_ignore]
    refine Ends.mono ?_ (fun _ => ended) fun _ => ended
    rw [ends_onDatabase, enqueueOutboundSimple, ends_bind, ends_newUuid, ends_bind]
    have reads : ReadsMain (resolveWebhookUrl state
        (state.env.tables.toLowercase plan.sender) : Storage (Option String)) :=
      readsMain_resolveWebhookUrl
    refine (moves_iff_ends.mp reads world.main.later).mono (fun url middle same => ?_)
      fun error middle same => .of_db same
    have untouched : middle.db = world.main.db := same
    rw [ends_bind, ends_newUuid, ends_bind]
    refine Storage.insertEmail_ends ?_ fun createdAt emails later insertion
      reached => ?_
    · exact fun error later unchanged => .of_db (unchanged.trans untouched)
    · rw [World.later_db, untouched] at insertion
      have inserted : Inserted _ world { world with main := later } :=
        inserted_of_insert? insertion (by rw [reached])
      refine ⟨fun row member => (inserted.rows row).mpr (.inl member),
        fun row member => ?_⟩
      rcases (inserted.rows row).mp member with old | new
      · exact .inl old
      · exact .inr (by rw [new]; exact ⟨rfl, rfl⟩)

theorem markSent_ends {sender body : String} {ok : Unit → SendWorld → Prop}
    (ended : ∀ next, next.main.db = world.main.db → ok () next) :
    (markSent state request sender body).Ends ok failed world := by
  rw [markSent]
  split
  · exact ended _ rfl
  · exact ended _ rfl

/-! ## Filing a mail -/

/-- The insertion of the inbound record is refused after the outbound one was
created. -/
structure CutOff (state : SendState) (plan : SendPlan) (planned : SendWorld) :
    Prop where
  external : plan.external ≠ []
  internal : plan.internal ≠ []
  created : ¬ RefusesRecord state.env planned.main
  refused : state.env.fault (planned.main.tick + plan.outboundTicks + 2) ≠ none ∨
    state.env.uuid (planned.main.tick + plan.outboundTicks) =
      state.env.uuid planned.main.tick ∨
    ∃ row ∈ planned.main.db.emails, row.id =
      state.env.uuid (planned.main.tick + plan.outboundTicks)

/-- The inbound record of a mail is created: its insertion is reached and not
refused. -/
structure FilesInbound (state : SendState) (plan : SendPlan)
    (planned : SendWorld) : Prop where
  internal : plan.internal ≠ []
  created : ¬ RefusesRecord state.env planned.main
  whole : ¬ CutOff state plan planned

/-- The questions asked before the inbound record. -/
def SendPlan.inboundTicks (plan : SendPlan) : Nat :=
  if plan.external = [] then 0 else plan.outboundTicks

/-- A new row of a kind, with its id and headers. -/
def Entered (kind : EmailRecord → Prop) (id : String) (headers : HeaderMap)
    (before after : SendWorld) : Prop :=
  ∃ row ∈ after.main.db.emails, row ∉ before.main.db.emails ∧ kind row ∧
    row.id = id ∧ row.headers = headersJson headers

/-- The records a plan asks for. -/
structure Filed (plan : SendPlan) (before after : SendWorld) : Prop where
  external : plan.external ≠ [] → ∃ row ∈ after.main.db.emails,
    row ∉ before.main.db.emails ∧ IsOutbound plan row
  internal : plan.internal ≠ [] → ∃ row ∈ after.main.db.emails,
    row ∉ before.main.db.emails ∧ IsInbound plan row

theorem Inserted.not_mem
    (inserted : Inserted row before after) : row ∉ before.main.db.emails :=
  fun member => inserted.fresh row member rfl

theorem Inserted.mem
    (inserted : Inserted row before after) : row ∈ after.main.db.emails :=
  (inserted.rows row).mpr (.inr rfl)

theorem refuses_after {ticks : Nat} (inserted : Inserted row before after)
    (named : row.id = state.env.uuid before.main.tick)
    (reached : after.main.tick = before.main.tick + ticks) :
    RefusesRecord state.env after.main ↔
      state.env.fault (before.main.tick + ticks + 2) ≠ none ∨
      state.env.uuid (before.main.tick + ticks) =
        state.env.uuid before.main.tick ∨
      ∃ old ∈ before.main.db.emails, old.id =
        state.env.uuid (before.main.tick + ticks) := by
  rw [RefusesRecord, Storage.RefusesEmail]
  simp only [World.later, reached]
  refine or_congr Iff.rfl ⟨?_, ?_⟩
  · rintro ⟨old, member, same⟩
    rcases (inserted.rows old).mp member with before | new
    · exact .inr ⟨old, before, same⟩
    · rw [new, named] at same
      exact .inl same.symm
  · rintro (same | ⟨old, member, same⟩)
    · exact ⟨row, inserted.mem, named.trans same.symm⟩
    · exact ⟨old, (inserted.rows old).mpr (.inl member), same⟩

/-- The records of a mail, with their ids and headers. -/
structure FiledWith (state : SendState) (plan : SendPlan)
    (merged inbound : HeaderMap) (before after : SendWorld) : Prop where
  external : plan.external ≠ [] → Entered (IsOutbound plan)
    (state.env.uuid before.main.tick) merged before after
  internal : plan.internal ≠ [] → Entered (IsInbound plan)
    (state.env.uuid (before.main.tick + plan.inboundTicks)) inbound before after

theorem FiledWith.filed (filed : FiledWith state plan merged inbound before after) :
    Filed plan before after where
  external some := by
    rcases filed.external some with ⟨row, present, fresh, kind, _⟩
    exact ⟨row, present, fresh, kind⟩
  internal some := by
    rcases filed.internal some with ⟨row, present, fresh, kind, _⟩
    exact ⟨row, present, fresh, kind⟩

theorem fileMail_ends
    (refused : ¬ CutOff state plan world →
      (plan.external ≠ [] → RefusesRecord state.env world.main) →
      ¬ FilesInbound state plan world → ∀ error next,
      NothingCreated world next → failed error next)
    (cut : CutOff state plan world → ∀ error next, Entered (IsOutbound plan)
      (state.env.uuid world.main.tick) merged world next → failed error next)
    (filed : ¬ CutOff state plan world → ∀ response next,
      FiledWith state plan merged inbound world next → ok response next) :
    (fileMail state request plan merged inbound).Ends ok failed world := by
  have notices {before : SendWorld} {rest : Send SendEmailResponse}
      (sofar : ∀ next, Notified plan before next →
        FiledWith state plan merged inbound world next)
      (restEnds : ∀ next, FiledWith state plan merged inbound world next →
        rest.Ends ok failed next) :
      (do
        sendFilteredNotification state plan
        sendUnregisteredNotification state plan
        rest : Send SendEmailResponse).Ends ok failed before := by
    rw [ends_bind]
    refine notifySender_ends fun middle first => ?_
    rw [ends_bind]
    exact notifySender_ends fun next second =>
      restEnds next (sofar next (first.trans second))
  have sent {id : String} {next : SendWorld}
      (reached : FiledWith state plan merged inbound world next)
      (free : ¬ CutOff state plan world) :
      (do
        markSent state request plan.sender plan.body
        return ⟨.created, id, "queued"⟩ : Send SendEmailResponse).Ends ok failed
        next := by
    rw [ends_bind]
    refine markSent_ends fun last same => filed free _ last ?_
    constructor
    · rw [Entered, same]
      exact reached.external
    · rw [Entered, same]
      exact reached.internal
  rw [fileMail, ends_bind]
  apply fileOutbound_ends
  · intro none
    have free : ¬ CutOff state plan world := fun cutOff => cutOff.external none
    have ticks : plan.inboundTicks = 0 := if_pos none
    rw [ends_bind]
    apply fileInbound_ends
    · intro idle
      refine notices (fun _ _ => ⟨fun some => absurd none some,
        fun some => absurd idle some⟩) fun next reached => ?_
      exact filed free _ next reached
    · exact fun _ refuses => refused free (fun some => absurd none some)
        fun files => files.created refuses
    · intro _ _ row next isInbound named headed inserted
      refine notices (fun last added => ⟨fun some => absurd none some, fun _ =>
        ⟨row, added.kept row inserted.mem, inserted.not_mem, isInbound, ?_,
          headed⟩⟩) fun next reached => ?_
      · rw [ticks]
        exact named
      · exact sent reached free
  · intro _ refuses
    exact refused (fun cutOff => cutOff.created refuses) (fun _ => refuses)
      fun files => files.created refuses
  · intro external created outbound middle isOutbound named headed filedOut reached
    have outboundIn {last : SendWorld}
        (kept : ∀ row ∈ middle.main.db.emails, row ∈ last.main.db.emails) :
        Entered (IsOutbound plan) (state.env.uuid world.main.tick) merged world
          last :=
      ⟨outbound, kept outbound filedOut.mem, filedOut.not_mem, isOutbound, named,
        headed⟩
    have meets := refuses_after filedOut named reached
    have ticks : plan.inboundTicks = plan.outboundTicks := if_neg external
    rw [ends_bind]
    apply fileInbound_ends
    · intro idle
      refine notices (fun last added => ⟨fun _ => outboundIn added.kept,
        fun some => absurd idle some⟩) fun next reached => ?_
      exact sent reached fun cutOff => cutOff.internal idle
    · intro internal refuses error next same
      refine cut ⟨external, internal, created, meets.mp refuses⟩ error next
        (outboundIn fun row member => ?_)
      rw [same.db]
      exact member
    · intro internal accepts row next isInbound named headed inserted
      refine notices (fun last added => ⟨fun _ => outboundIn fun old member =>
          added.kept old ((inserted.rows old).mpr (.inl member)), fun _ =>
        ⟨row, added.kept row inserted.mem, fun member => inserted.not_mem
          ((filedOut.rows row).mpr (.inl member)), isInbound, ?_, headed⟩⟩)
        fun next reached => ?_
      · rw [ticks, ← reached]
        exact named
      · exact sent reached fun cutOff => accepts (meets.mpr cutOff.refused)

/-- A pong, answered to its sender. -/
structure IsPong (plan : SendPlan) (recipient : String) (row : EmailRecord) :
    Prop where
  direction : row.direction = .inbound
  sender : row.sender = recipient
  recipients : row.recipients = ⟨[plan.sender], [], [plan.sender]⟩

theorem filePong_ends {recipient : String}
    (refused : RefusesRecord state.env world.main → ∀ error next,
      NothingCreated world next → failed error next)
    (created : ¬ RefusesRecord state.env world.main → ∀ response next,
      response.outcome ≠ "queued" → Entered (IsPong plan recipient)
        (state.env.uuid world.main.tick) merged world next → ok response next) :
    (filePong state plan merged recipient).Ends ok failed world := by
  rw [filePong, ends_bind, ends_onDatabase, ends_newUuid, ends_bind,
    ends_onDatabase, ends_mapError]
  refine Storage.insertEmail_settles ?_ fun free createdAt emails insertion => ?_
  · exact fun refuses error => refused refuses _ _ ⟨rfl, rfl, rfl⟩
  · have unqueued : "pong_redirected" ≠ "queued" := by decide
    have inserted : Inserted _ world { world with main :=
        ⟨{ world.main.db with emails }, world.main.tick + 3⟩ } :=
      inserted_of_insert? insertion rfl
    exact created free _ _ unqueued ⟨_, inserted.mem, inserted.not_mem,
      ⟨rfl, rfl, rfl⟩, rfl, rfl⟩

theorem sendEmailCore_ends
    (unplanned : ∀ error next, (planSend state key request).run world =
      (.error error, next) → NothingCreated world next → failed error next)
    (pong : ∀ plan planned recipient rest, (planSend state key request).run
        world = (.ok plan, planned) → NothingCreated world planned →
      isPong plan.subject = true → plan.external = recipient :: rest →
      (filePong state plan (mergedHeaders request.headers plan.display
        plan.board plan.messageId) recipient).Ends ok failed planned)
    (mail : ∀ plan planned inbound, (planSend state key request).run world =
        (.ok plan, planned) → NothingCreated world planned →
      (plan.external ≠ [] → isPong plan.subject = false) →
      (fileMail state request plan (mergedHeaders request.headers plan.display
        plan.board plan.messageId) inbound).Ends ok failed planned) :
    (sendEmailCore state key request).Ends ok failed world := by
  have kept : NothingCreated world ((planSend state key request).run world).2 :=
    planSend_readsOnly world
  rw [sendEmailCore, ends_bind, ends_iff_run]
  constructor
  · intro plan planned ran
    rw [ran] at kept
    cases subject : isPong plan.subject with
    | false => exact mail plan planned _ ran kept fun _ => subject
    | true =>
        cases external : plan.external with
        | nil => exact mail plan planned _ ran kept fun some => absurd external some
        | cons recipient rest =>
            exact pong plan planned recipient rest ran kept subject external
  · intro error next ran
    rw [ran] at kept
    exact unplanned error next ran kept

/-! ## Atomic sends -/

/-- A send that fails creates nothing, and one that is queued has created a
record for each kind of its recipients. -/
structure Atomic (state : SendState) (key : ApiKeyRecord)
    (request : SendEmailRequest) (world : SendWorld) : Prop where
  failed : ∀ error after, (sendEmailCore state key request).run world =
    (.error error, after) → NothingCreated world after
  queued : ∀ response after, (sendEmailCore state key request).run world =
      (.ok response, after) → response.outcome = "queued" →
    ∀ plan planned, (planSend state key request).run world =
      (.ok plan, planned) → Filed plan world after

theorem NothingCreated.filed {after : SendWorld}
    (kept : NothingCreated world planned) (filed : Filed plan planned after) :
    Filed plan world after := by
  constructor
  · rw [← kept.db]
    exact filed.external
  · rw [← kept.db]
    exact filed.internal

/-- A send is atomic unless its internal record is refused after the external
one was created. -/
theorem send_atomic_iff (state : SendState) (key : ApiKeyRecord)
    (request : SendEmailRequest) (world : SendWorld) :
    Atomic state key request world ↔
      ∀ plan planned, (planSend state key request).run world =
        (.ok plan, planned) → isPong plan.subject = false →
        ¬ CutOff state plan planned := by
  constructor
  · intro atomic plan planned ran subject cutOff
    have ends : (sendEmailCore state key request).Ends (fun _ _ => False)
        (fun _ next => ¬ NothingCreated world next) world := by
      apply sendEmailCore_ends
      · intro error next failure
        rw [ran] at failure
        cases failure
      · intro plan' planned' recipient rest again kept pong _
        rw [ran] at again
        cases again
        rw [subject] at pong
        cases pong
      · intro plan' planned' inbound again kept _
        rw [ran] at again
        cases again
        apply fileMail_ends
        · exact fun free => absurd cutOff free
        · rintro _ error next ⟨row, present, fresh, _⟩ same
          rw [same.db, ← kept.db] at present
          exact fresh present
        · exact fun free => absurd cutOff free
    rw [ends_iff_run] at ends
    rcases outcome : (sendEmailCore state key request).run world with
      ⟨error | response, after⟩
    · exact ends.2 error after outcome (atomic.failed error after outcome)
    · exact ends.1 response after outcome
  · intro free
    have ends : (sendEmailCore state key request).Ends
        (fun response next => response.outcome = "queued" →
          ∀ plan planned, (planSend state key request).run world =
            (.ok plan, planned) → Filed plan world next)
        (fun _ next => NothingCreated world next) world := by
      apply sendEmailCore_ends
      · exact fun _ _ _ kept => kept
      · intro plan planned recipient rest ran kept _ _
        exact filePong_ends (fun _ _ _ => kept.trans)
          fun _ response _ unqueued _ queued => absurd queued unqueued
      · intro plan planned inbound ran kept subject
        apply fileMail_ends
        · exact fun _ _ _ _ _ => kept.trans
        · intro cutOff
          exact absurd cutOff (free plan planned ran (subject cutOff.external))
        · intro _ response next filed _ plan' planned' again
          rw [ran] at again
          cases again
          exact kept.filed filed.filed
    rw [ends_iff_run] at ends
    exact ⟨ends.2, ends.1⟩

def faultAt (tick : Nat) : SendState :=
  { plainSend with receiver := { Smtp.plainReceiver with
    env := { Smtp.plainReceiver.env with
      fault := fun asked => if asked = tick then some (.statement "disk full")
        else none
      uuid := fun asked => toString asked } } }

/-- `alice@a.test` and `bob@a.test` of one system may write to each other, and
`alice@a.test` to `pal@c.test`. -/
def colleagues : SendWorld :=
  { aliceWorld with main := World.start { Database.empty with
    systemDomains := ⟨[Smtp.registration "d1" "sys-a" "alice@a.test",
      Smtp.registration "d2" "sys-a" "bob@a.test"], by decide⟩
    whitelists := ⟨[
      { Smtp.welcome 1 "sys-a" "alice@a.test" "pal@c.test" with
        direction := .dirTo },
      { Smtp.welcome 2 "sys-a" "alice@a.test" "bob@a.test" with
        direction := .dirTo },
      Smtp.welcome 3 "sys-a" "bob@a.test" "alice@a.test"], by decide⟩
    whitelistSequence := 3 } }

def helloBoth : SendEmailRequest :=
  { helloPal with toAddrs := "pal@c.test, bob@a.test" }

/-- The copy for `pal@c.test` stays while the answer is an error. -/
theorem send_cut_off :
    ¬ ∀ (state : SendState) (key : ApiKeyRecord) (request : SendEmailRequest)
      (world : SendWorld), Atomic state key request world := by
  intro claimed
  have created := (claimed (faultAt 23) aliceKey helloBoth colleagues).failed
  have answered : ((sendEmailCore (faultAt 23) aliceKey helloBoth).run
      colleagues).1 = .error (failedTo "Failed to queue internal email"
        (StorageFault.statement "disk full").error) := by decide +kernel
  have left : (((sendEmailCore (faultAt 23) aliceKey helloBoth).run
      colleagues).2.main.db.emails.rows.map (·.recipients.rcpt)) =
        [["pal@c.test"]] := by decide +kernel
  have same := (created _ _ (Prod.ext answered rfl)).db
  rw [same] at left
  exact absurd left (by decide)

end AimailGateway.Api
