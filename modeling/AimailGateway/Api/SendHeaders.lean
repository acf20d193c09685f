import AimailGateway.Api.Send
import AimailGateway.Library.Coupling
import AimailGateway.Smtp.Commands

/-! # Headers of the client and headers of the gateway

Two requests that differ in their headers only are followed side by side: they
are planned alike, and their records differ in the headers only.
-/

namespace AimailGateway.Api

open Library Action

/-! ## Records that differ in their headers -/

/-- The names are given alike. -/
def AgreeOn (names : List String) (left right : List (String × String)) : Prop :=
  ∀ name ∈ names, left.lookup name = right.lookup name

theorem AgreeOn.refl (names : List String) (headers : List (String × String)) :
    AgreeOn names headers headers :=
  fun _ _ => rfl

/-- Two records that differ in their headers only, and there not in the given
names. -/
structure SameMail (names : List String) (left right : EmailRecord) : Prop where
  fields : { right with headers := left.headers } = left
  headers : AgreeOn names left.headers right.headers

theorem SameMail.refl (names : List String) (row : EmailRecord) :
    SameMail names row row :=
  ⟨rfl, .refl names row.headers⟩

theorem SameMail.id {names : List String} {left right : EmailRecord}
    (same : SameMail names left right) : right.id = left.id := by
  have fields := congrArg EmailRecord.id same.fields
  exact fields

/-- Two databases whose emails are the same in this sense. -/
structure AlikeMain (names : List String) (left right : World) : Prop where
  tick : right.tick = left.tick
  rest : { right.db with emails := .empty } = { left.db with emails := .empty }
  mails : List.Forall₂ (SameMail names) left.db.emails.rows right.db.emails.rows

/-- Two worlds of the send API whose emails are the same in this sense. -/
structure Alike (names : List String) (left right : SendWorld) : Prop where
  main : AlikeMain names left.main right.main
  deduper : right.deduper = left.deduper
  permissions : right.permissions = left.permissions
  attachmentMails : right.attachmentMails = left.attachmentMails

theorem AlikeMain.refl (names : List String) (world : World) :
    AlikeMain names world world :=
  ⟨rfl, rfl, List.forall₂_same.mpr fun row _ => .refl names row⟩

theorem Alike.refl (names : List String) (world : SendWorld) :
    Alike names world world :=
  ⟨.refl names world.main, rfl, rfl, rfl⟩

variable {names : List String} {state : SendState}
  {env : Surroundings}
  {attachments : Option (List String)} {left right : List EmailRecord}
  {direction : EmailDirection}

/-- The two actions end with the same value or error in databases that are
alike. -/
def TwinsMain (names : List String) (first second : Action World ε α) : Prop :=
  Paired (AlikeMain names) first second
    (fun value value' left right => value' = value ∧ AlikeMain names left right)
    fun _ => AlikeMain names

def Twins (names : List String) (first second : Action SendWorld ε α) : Prop :=
  Paired (Alike names) first second
    (fun value value' left right => value' = value ∧ Alike names left right)
    fun _ => Alike names

theorem twinsMain_pure (value : α) :
    TwinsMain names (pure value : Action World ε α) (pure value) :=
  paired_pure fun _ _ start => ⟨rfl, start⟩

theorem TwinsMain.bind {first second : Action World ε α}
    {rest others : α → Action World ε β} (twins : TwinsMain names first second)
    (restTwins : ∀ value, TwinsMain names (rest value) (others value)) :
    TwinsMain names (first >>= rest) (second >>= others) := by
  refine Paired.bind twins fun value value' => ?_
  refine Paired.assuming fun same => ?_
  rw [same]
  exact restTwins value

theorem twins_pure (value : α) :
    Twins names (pure value : Action SendWorld ε α) (pure value) :=
  paired_pure fun _ _ start => ⟨rfl, start⟩

theorem Twins.bind {first second : Action SendWorld ε α}
    {rest others : α → Action SendWorld ε β} (twins : Twins names first second)
    (restTwins : ∀ value, Twins names (rest value) (others value)) :
    Twins names (first >>= rest) (second >>= others) := by
  refine Paired.bind twins fun value value' => ?_
  refine Paired.assuming fun same => ?_
  rw [same]
  exact restTwins value

theorem twins_ignored {first second : Action SendWorld δ α}
    (paired : Paired (Alike names) first second (fun _ _ => Alike names)
      fun _ => Alike names) :
    Twins names (first.ignore : Action SendWorld ε Unit) second.ignore := by
  apply Paired.ignore
  refine paired.mono ?_ ?_
  · exact fun _ _ _ _ same => ⟨rfl, same⟩
  · exact fun _ _ _ same => ⟨rfl, same⟩

theorem Twins.ignored {first second : Action SendWorld δ α}
    (twins : Twins names first second) :
    Twins names (first.ignore : Action SendWorld ε Unit) second.ignore :=
  twins_ignored (twins.mono (fun _ _ _ _ same => same.2) fun _ _ _ same => same)

theorem paired_onDatabase {first : Action World ε α} {second : Action World ε β}
    {ok : α → β → World → World → Prop}
    (paired : Paired (AlikeMain names) first second ok fun _ =>
      AlikeMain names)
    (alike : ∀ value value' left right, ok value value' left right →
      AlikeMain names left right) :
    Paired (Alike names) (onDatabase first) (onDatabase second)
      (fun value value' left right =>
        ok value value' left.main right.main ∧ Alike names left right)
      fun _ => Alike names := by
  intro left right start
  have each := paired left.main right.main start.main
  rw [ends_iff_run] at each ⊢
  constructor
  · intro value next ran
    simp only [run, onDatabase] at ran
    rcases outcome : first left.main with ⟨error | found, main⟩
    · rw [outcome] at ran
      cases ran
    · rw [outcome] at ran
      cases ran
      rcases each.1 value main outcome with ⟨value', main', other, related⟩
      refine ⟨value', { right with main := main' }, ?_, related,
        alike _ _ _ _ related, start.deduper, start.permissions,
        start.attachmentMails⟩
      simp only [run, onDatabase] at other ⊢
      rw [other]
  · intro error next ran
    simp only [run, onDatabase] at ran
    rcases outcome : first left.main with ⟨found | value, main⟩
    · rw [outcome] at ran
      cases ran
      rcases each.2 error main outcome with ⟨main', other, related⟩
      refine ⟨{ right with main := main' }, ?_, related, start.deduper,
        start.permissions, start.attachmentMails⟩
      simp only [run, onDatabase] at other ⊢
      rw [other]
    · rw [outcome] at ran
      cases ran

theorem twins_onDatabase {first second : Action World ε α}
    (twins : TwinsMain names first second) :
    Twins names (onDatabase first) (onDatabase second) :=
  (paired_onDatabase twins fun _ _ _ _ same => same.2).mono
    (fun _ _ _ _ both => ⟨both.1.1, both.2⟩) fun _ _ _ same => same

/-! ## Storage calls -/

theorem twinsMain_newUuid :
    TwinsMain names (newUuid env : Action World ε String) (newUuid env) := by
  intro left right start
  refine ⟨env.uuid right.tick, right.later, rfl, ?_, ?_, start.rest, start.mails⟩
  · rw [start.tick]
  · change right.tick + 1 = left.tick + 1
    rw [start.tick]

theorem twinsMain_now :
    TwinsMain names (now env : Action World ε Timestamp) (now env) := by
  intro left right start
  refine ⟨env.clock right.tick, right.later, rfl, ?_, ?_, start.rest, start.mails⟩
  · rw [start.tick]
  · change right.tick + 1 = left.tick + 1
    rw [start.tick]

theorem AlikeMain.later {left right : World} (alike : AlikeMain names left right) :
    AlikeMain names left.later right.later := by
  refine ⟨?_, alike.rest, alike.mails⟩
  change right.tick + 1 = left.tick + 1
  rw [alike.tick]

theorem paired_call {first : Database → Except AppError (α × Database)}
    {second : Database → Except AppError (β × Database)}
    {related : α → β → Prop}
    (each : ∀ left right : World, AlikeMain names left right →
      (∃ error, first left.db = .error error ∧
        second right.db = .error error) ∨
      ∃ value value' db db', first left.db = .ok (value, db) ∧
        second right.db = .ok (value', db') ∧ related value value' ∧
        AlikeMain names (left.withDb db) (right.withDb db')) :
    Paired (AlikeMain names) (call env first) (call env second)
      (fun value value' left right => related value value' ∧
        AlikeMain names left right)
      fun _ => AlikeMain names := by
  intro left right start
  rw [ends_iff_run]
  simp only [run, call, start.tick]
  cases env.fault left.tick with
  | some fault =>
      refine ⟨fun _ _ ran => (by cases ran), fun error next ran => ?_⟩
      cases ran
      exact ⟨right.later, rfl, start.later⟩
  | none =>
      rcases each left right start with ⟨reason, failed, failed'⟩ |
        ⟨found, found', db, db', done, done', same, alike⟩
      · rw [failed, failed']
        refine ⟨fun _ _ ran => (by cases ran), fun error next ran => ?_⟩
        cases ran
        exact ⟨right.later, rfl, start.later⟩
      · rw [done, done']
        refine ⟨fun value next ran => ?_, fun _ _ ran => (by cases ran)⟩
        cases ran
        exact ⟨found', right.withDb db', rfl, same, alike⟩

theorem twinsMain_query {read : Database → α}
    (same : ∀ db : Database, read { db with emails := .empty } = read db) :
    TwinsMain names (query env read) (query env read) := by
  apply paired_call
  intro left right start
  refine .inr ⟨_, _, _, _, rfl, rfl, ?_, ?_⟩
  · rw [← same left.db, ← same right.db, start.rest]
  · exact start.later

theorem map_id_of_sameMails (mails : List.Forall₂ (SameMail names) left right) :
    right.map (·.id) = left.map (·.id) := by
  induction mails with
  | nil => rfl
  | cons same _ induction =>
      rw [List.map_cons, List.map_cons, same.id, induction]

theorem pairwise_conflict_iff {rows : List EmailRecord} :
    rows.Pairwise (fun first second => EmailRecord.conflict first second = false) ↔
      (rows.map (·.id)).Pairwise fun first second => (first == second) = false :=
  by
  rw [List.pairwise_map]
  rfl

theorem insert?_alike {left right : Emails} {row row' : EmailRecord}
    (mails : List.Forall₂ (SameMail names) left.rows right.rows)
    (same : SameMail names row row') :
    (left.insert? row = none ∧ right.insert? row' = none) ∨
      ∃ after after', left.insert? row = some after ∧
        right.insert? row' = some after' ∧
        List.Forall₂ (SameMail names) after.rows after'.rows := by
  have both : List.Forall₂ (SameMail names) (left.rows ++ [row])
      (right.rows ++ [row']) :=
    List.rel_append mails (.cons same .nil)
  have distinct : (right.rows ++ [row']).Pairwise (fun first second =>
        EmailRecord.conflict first second = false) ↔
      (left.rows ++ [row]).Pairwise (fun first second =>
        EmailRecord.conflict first second = false) := by
    rw [pairwise_conflict_iff, pairwise_conflict_iff, map_id_of_sameMails both]
  simp only [Table.insert?, Table.ofRows?, distinct]
  by_cases fits : (left.rows ++ [row]).Pairwise (fun first second =>
      EmailRecord.conflict first second = false)
  · refine .inr ⟨_, _, dif_pos fits, dif_pos fits, both⟩
  · exact .inl ⟨dif_neg fits, dif_neg fits⟩

theorem paired_insertEmail {id systemId sender subject
      body : String} {recipients : Recipients}
    {maxAttempts : Int} {headers headers' : List (String × String)}
    (agree : AgreeOn names headers headers') :
    Paired (AlikeMain names)
      (Storage.insertEmail env id systemId direction sender recipients subject
        body attachments headers maxAttempts)
      (Storage.insertEmail env id systemId direction sender recipients subject
        body attachments headers' maxAttempts)
      (fun record record' left right => record'.id = record.id ∧
        AlikeMain names left right)
      fun _ => AlikeMain names := by
  rw [Storage.insertEmail, Storage.insertEmail]
  refine Paired.bind twinsMain_now fun time time' => Paired.assuming fun same => ?_
  rw [same]
  apply paired_call
  intro left right start
  have both : SameMail names
      (Storage.newEmail id systemId direction sender recipients subject body
        attachments headers maxAttempts time)
      (Storage.newEmail id systemId direction sender recipients subject body
        attachments headers' maxAttempts time) :=
    ⟨rfl, agree⟩
  simp only
  rcases insert?_alike start.mails both with
    ⟨failed, failed'⟩ | ⟨after, after', done, done', mails⟩
  · rw [failed, failed']
    exact .inl ⟨_, rfl, rfl⟩
  · rw [done, done']
    refine .inr ⟨_, _, _, _, rfl, rfl, rfl, ?_, start.rest, mails⟩
    change right.tick + 1 = left.tick + 1
    rw [start.tick]

/-! ## The records of a send -/

theorem twins_attachmentCall {change : SendWorld → Option SendWorld}
    (each : ∀ left right, Alike names left right →
      (change left = none ∧ change right = none) ∨
      ∃ next next', change left = some next ∧ change right = some next' ∧
        Alike names next next') :
    Twins names (attachmentCall state change) (attachmentCall state change) := by
  rw [attachmentCall]
  refine Twins.bind (twins_onDatabase (twinsMain_query fun _ => rfl))
    fun _ left right start => ?_
  rw [ends_iff_run]
  simp only [run, changeTables]
  rcases each left right start with ⟨failed, failed'⟩ |
    ⟨next, next', done, done', alike⟩
  · rw [failed, failed']
    refine ⟨fun _ _ ran => (by cases ran), fun error after ran => ?_⟩
    cases ran
    exact ⟨right, rfl, start⟩
  · rw [done, done']
    refine ⟨fun value after ran => ?_, fun _ _ ran => (by cases ran)⟩
    cases ran
    exact ⟨(), next', rfl, trivial, alike⟩

theorem twins_addMailId {mailId attachmentId : String} :
    Twins names (addMailId state mailId attachmentId)
      (addMailId state mailId attachmentId) := by
  apply twins_attachmentCall
  intro left right start
  refine .inr ⟨_, _, rfl, rfl, start.main, start.deduper, start.permissions, ?_⟩
  rw [start.attachmentMails]

theorem twins_createPermission {attachmentId userEmail : String} :
    Twins names (createPermission state attachmentId userEmail)
      (createPermission state attachmentId userEmail) := by
  apply twins_attachmentCall
  intro left right start
  rw [start.permissions]
  by_cases taken : left.permissions.contains (attachmentId, userEmail) = true
  · exact .inl ⟨if_pos taken, if_pos taken⟩
  · refine .inr ⟨_, _, if_neg taken, if_neg taken, start.main, start.deduper, ?_,
      start.attachmentMails⟩
    rfl

theorem twins_forEach {action : α → Action SendWorld AppError Unit}
    (each : ∀ element, Twins names (action element) (action element))
    (elements : List α) :
    Twins names (forEach action elements) (forEach action elements) := by
  induction elements with
  | nil => exact twins_pure ()
  | cons element rest induction =>
      rw [forEach]
      exact Twins.bind (each element).ignored fun _ => induction

variable {key : ApiKeyRecord} {request : SendEmailRequest} {plan : SendPlan}
  {merged merged' inbound inbound' : HeaderMap}
  {name : String}
  {display board : List (String × String)} {entries : List (String × String)}

theorem paired_record {id systemId sender subject body what : String}
    {recipients : Recipients}
    (agree : AgreeOn names (headersJson merged) (headersJson merged')) :
    Paired (Alike names)
      (onDatabase ((Storage.insertEmail state.env id systemId direction sender
        recipients subject body attachments (headersJson merged)
        state.receiver.config.maxAttempts).mapError (failedTo what)))
      (onDatabase ((Storage.insertEmail state.env id systemId direction sender
        recipients subject body attachments (headersJson merged')
        state.receiver.config.maxAttempts).mapError (failedTo what)))
      (fun record record' left right => record'.id = record.id ∧
        Alike names left right)
      fun _ => Alike names :=
  (paired_onDatabase (Paired.mapError (paired_insertEmail agree))
    fun _ _ _ _ same => same.2).mono (fun _ _ _ _ both => ⟨both.1.1, both.2⟩)
      fun _ _ _ same => same

theorem twins_filePong {recipient : String}
    (agree : AgreeOn names (headersJson merged) (headersJson merged')) :
    Twins names (filePong state plan merged recipient)
      (filePong state plan merged' recipient) := by
  rw [filePong, filePong]
  refine Twins.bind (twins_onDatabase twinsMain_newUuid) fun id => ?_
  refine Paired.bind (paired_record agree) fun _ _ => ?_
  exact paired_pure fun _ _ same => ⟨rfl, same.2⟩

theorem twins_fileOutbound
    (agree : AgreeOn names (headersJson merged) (headersJson merged')) :
    Twins names (fileOutbound state plan merged)
      (fileOutbound state plan merged') := by
  rw [fileOutbound, fileOutbound]
  split
  · exact twins_pure []
  · refine Twins.bind (twins_onDatabase twinsMain_newUuid) fun id => ?_
    refine Paired.bind (paired_record agree) fun record record' =>
      Paired.assuming fun same => ?_
    rw [same]
    refine Twins.bind (twins_forEach (fun _ => twins_addMailId) _) fun _ => ?_
    exact twins_pure [record.id]

theorem twins_fileInbound
    (agree : AgreeOn names (headersJson merged) (headersJson merged')) :
    Twins names (fileInbound state plan merged)
      (fileInbound state plan merged') := by
  rw [fileInbound, fileInbound]
  split
  · exact twins_pure []
  · refine Twins.bind (twins_onDatabase twinsMain_newUuid) fun id => ?_
    refine Paired.bind (paired_record agree) fun record record' =>
      Paired.assuming fun same => ?_
    rw [same]
    refine Twins.bind (twins_forEach (fun _ => twins_createPermission) _)
      fun _ => ?_
    refine Twins.bind (twins_forEach (fun _ => twins_addMailId) _) fun _ => ?_
    exact twins_pure [record.id]

/-! ## Notices -/

theorem TwinsMain.attempted {first second : Action World δ α}
    (twins : TwinsMain names first second) :
    TwinsMain names (first.attempt : Action World ε (Except δ α))
      second.attempt := by
  apply Paired.attempt
  refine twins.mono ?_ ?_
  · exact fun _ _ _ _ same => ⟨by rw [same.1], same.2⟩
  · exact fun _ _ _ same => ⟨rfl, same⟩

theorem twinsMain_domainWebhook {addr : String} :
    TwinsMain names (domainWebhook state addr : Action World ε (Option String))
      (domainWebhook state addr) := by
  rw [domainWebhook]
  cases (Text.split '@' addr)[1]? with
  | none => exact twinsMain_pure none
  | some domain =>
      refine TwinsMain.bind (twinsMain_query fun _ => rfl).attempted
        fun outcome => ?_
      rcases outcome with error | _ | row
      · exact twinsMain_pure none
      · exact twinsMain_pure none
      · exact twinsMain_pure _

theorem twinsMain_resolveWebhookUrl {addr : String} :
    TwinsMain names
      (resolveWebhookUrl state addr : Action World ε (Option String))
      (resolveWebhookUrl state addr) := by
  rw [resolveWebhookUrl]
  refine TwinsMain.bind (twinsMain_query fun _ => rfl).attempted
    fun outcome => ?_
  rcases outcome with error | _ | row
  · exact twinsMain_domainWebhook
  · exact twinsMain_domainWebhook
  · exact twinsMain_pure _

theorem paired_enqueueOutboundSimple {systemId sender recipient subject
    body : String} :
    Paired (AlikeMain names)
      (enqueueOutboundSimple state systemId sender recipient subject body)
      (enqueueOutboundSimple state systemId sender recipient subject body)
      (fun _ _ => AlikeMain names) fun _ => AlikeMain names := by
  rw [enqueueOutboundSimple]
  refine Paired.bind twinsMain_newUuid fun id id' => Paired.assuming fun same => ?_
  rw [same]
  refine Paired.bind twinsMain_resolveWebhookUrl fun url url' =>
    Paired.assuming fun same => ?_
  rw [same]
  refine Paired.bind twinsMain_newUuid fun drawn drawn' =>
    Paired.assuming fun same => ?_
  rw [same]
  refine Paired.bind (paired_insertEmail (.refl names _)) fun record record' => ?_
  exact paired_pure fun _ _ both => both.2

theorem twins_notifySender {addrs : List String} {subject body : String} :
    Twins names (notifySender state plan addrs subject body)
      (notifySender state plan addrs subject body) := by
  rw [notifySender]
  split
  · exact twins_pure ()
  · apply twins_ignored
    refine (paired_onDatabase paired_enqueueOutboundSimple
      fun _ _ _ _ alike => alike).mono ?_ ?_
    · exact fun _ _ _ _ both => both.2
    · exact fun _ _ _ alike => alike

theorem twins_markSent {sender body : String} :
    Twins names (markSent state request sender body)
      (markSent state request sender body) := by
  rw [markSent]
  split
  · refine Twins.bind (twins_onDatabase twinsMain_now) fun time left right start => ?_
    refine ⟨(), _, rfl, rfl, start.main, ?_, start.permissions,
      start.attachmentMails⟩
    simp only [start.deduper]
  · exact twins_pure ()

theorem twins_fileMail {other : SendEmailRequest}
    (marks : markSent state other plan.sender plan.body =
      markSent state request plan.sender plan.body)
    (agree : AgreeOn names (headersJson merged) (headersJson merged'))
    (agreeInbound : AgreeOn names (headersJson inbound) (headersJson inbound')) :
    Twins names (fileMail state request plan merged inbound)
      (fileMail state other plan merged' inbound') := by
  rw [fileMail, fileMail, marks]
  refine Twins.bind (twins_fileOutbound agree) fun outboundIds => ?_
  refine Twins.bind (twins_fileInbound agreeInbound) fun inboundIds => ?_
  refine Twins.bind twins_notifySender fun _ => ?_
  refine Twins.bind twins_notifySender fun _ => ?_
  cases outboundIds ++ inboundIds with
  | nil => exact twins_pure _
  | cons id rest =>
      exact Twins.bind twins_markSent fun _ => twins_pure _

/-! ## Header maps -/

theorem headersJson_lookup (headers : HeaderMap) (name : String) :
    (headersJson headers).lookup name = headers.lookup name := by
  rw [headersJson, AList.lookup]
  induction headers.entries with
  | nil => rfl
  | cons entry rest induction =>
      rw [List.map_cons]
      by_cases same : name = entry.1
      · subst same
        rw [List.lookup_cons_self, List.dlookup_cons_eq]
      · have different : (name == entry.1) = false := beq_false_of_ne same
        rw [List.lookup_cons, different, List.dlookup_cons_ne _ _ same]
        exact induction

theorem insertAll_lookup (entries : List (String × String)) (headers : HeaderMap)
    (name : String) :
    (insertAll headers entries).lookup name =
      ((insertAll ∅ entries).lookup name).or (headers.lookup name) := by
  induction entries using List.reverseRecOn with
  | nil => rfl
  | append_singleton rest entry induction =>
      simp only [insertAll, List.foldl_append, List.foldl_cons, List.foldl_nil]
        at induction ⊢
      by_cases same : name = entry.1
      · subst same
        rw [AList.lookup_insert, AList.lookup_insert]
        rfl
      · rw [AList.lookup_insert_ne same, AList.lookup_insert_ne same]
        exact induction

theorem insertAll_isSome
    (given : name ∈ entries.map (·.1)) (headers : HeaderMap) :
    ((insertAll headers entries).lookup name).isSome := by
  induction entries using List.reverseRecOn with
  | nil => exact absurd given List.not_mem_nil
  | append_singleton rest entry induction =>
      simp only [insertAll, List.foldl_append, List.foldl_cons, List.foldl_nil]
        at induction ⊢
      by_cases same : name = entry.1
      · subst same
        rw [AList.lookup_insert]
        rfl
      · rw [AList.lookup_insert_ne same]
        rw [List.map_append, List.mem_append, List.map_singleton,
          List.mem_singleton] at given
        exact induction (given.resolve_right same)

theorem insertAll_other
    (absent : name ∉ entries.map (·.1)) (headers : HeaderMap) :
    (insertAll headers entries).lookup name = headers.lookup name := by
  induction entries generalizing headers with
  | nil => rfl
  | cons entry rest induction =>
      rw [List.map_cons, List.mem_cons, not_or] at absent
      have inserted := induction absent.2 (headers.insert entry.1 entry.2)
      rw [AList.lookup_insert_ne absent.1] at inserted
      exact inserted

theorem foldl_erase_lookup {names : List String}
    (absent : name ∉ names) (headers : HeaderMap) :
    (names.foldl (fun rest other => rest.erase other) headers).lookup name =
      headers.lookup name := by
  induction names generalizing headers with
  | nil => rfl
  | cons other rest induction =>
      rw [List.mem_cons, not_or] at absent
      have erased := induction absent.2 (headers.erase other)
      rw [AList.lookup_erase_ne absent.1] at erased
      exact erased

theorem foldThreadHeader_lookup {canonical name : String}
    (different : name ≠ canonical) (plain : isAlias canonical name = false)
    (headers : HeaderMap) :
    (foldThreadHeader headers canonical).lookup name = headers.lookup name := by
  have absent : name ∉ headers.keys.filter (isAlias canonical) := by
    rw [List.mem_filter, plain]
    exact fun both => absurd both.2 (by simp)
  have cleared := foldl_erase_lookup absent headers
  rw [foldThreadHeader]
  split
  · exact cleared
  · split
    · exact cleared
    · rw [AList.lookup_insert_ne different]
      exact cleared

/-- A name that is no record key of the gateway's own. -/
def isPlainName (name : String) : Bool :=
  name != "to" && name != "cc" && name != "from" &&
    ["message_id", "in_reply_to", "references"].all fun canonical =>
      name != canonical && !isAlias canonical name

theorem normalizeThreadHeaders_lookup
    (plain : isPlainName name = true) (headers : HeaderMap) :
    (normalizeThreadHeaders headers).lookup name = headers.lookup name := by
  simp only [isPlainName, List.all_cons, List.all_nil, Bool.and_true,
    Bool.and_eq_true, bne_iff_ne, Bool.not_eq_true'] at plain
  rcases plain with ⟨_, ⟨first, firstPlain⟩, ⟨second, secondPlain⟩, third,
    thirdPlain⟩
  simp only [normalizeThreadHeaders, List.foldl_cons, List.foldl_nil]
  rw [foldThreadHeader_lookup third thirdPlain,
    foldThreadHeader_lookup second secondPlain,
    foldThreadHeader_lookup first firstPlain]

theorem displayHeaders_names {addressees : Addressees}
    {known : List (String × String)} {sender shown name : String}
    (plain : isPlainName name = true) :
    name ∉ (displayHeaders addressees known sender shown).map (·.1) := by
  simp only [isPlainName, Bool.and_eq_true, bne_iff_ne] at plain
  rcases plain with ⟨⟨⟨notTo, notCc⟩, notFrom⟩, _⟩
  rw [displayHeaders]
  split <;> split <;> simp [notTo, notCc, notFrom]

theorem mergedHeaders_lookup
    {messageId name : String} (plain : isPlainName name = true)
    (hidden : name ∉ display.map (·.1)) (client : Option HeaderMap) :
    (mergedHeaders client display board messageId).lookup name =
      ((insertAll ∅ board).lookup name).or
        ((client.getD ∅).lookup name) := by
  have different : name ≠ "message_id" := by
    intro same
    rw [same] at plain
    exact absurd plain (by decide +kernel)
  have boarded := insertAll_lookup board
    (normalizeThreadHeaders (insertAll (client.getD ∅) display)) name
  rw [normalizeThreadHeaders_lookup plain, insertAll_other hidden] at boarded
  rw [mergedHeaders]
  split
  · exact boarded
  · rw [AList.lookup_insert_ne different]
    exact boarded

/-! ## Headers the gateway owns -/

def ownedHeaders : List String :=
  ["x-mail-stranger", "x-mail-command", "X-Board-ID", "X-Board-Role",
    "X-From-Role", "X-Board-Members", "_persona"]

theorem ownedHeaders_plain :
    ∀ name ∈ ownedHeaders, isPlainName name = true := by decide +kernel

def givenValue (client : Option HeaderMap) (name : String) : Option String :=
  (client.getD ∅).lookup name

theorem mergedHeaders_agree_iff
    {messageId : String} {first second : Option HeaderMap}
    (hidden : ∀ name ∈ ownedHeaders, name ∉ display.map (·.1)) :
    AgreeOn ownedHeaders
      (headersJson (mergedHeaders first display board messageId))
      (headersJson (mergedHeaders second display board messageId)) ↔
    ∀ name ∈ ownedHeaders, name ∉ board.map (·.1) →
      givenValue first name = givenValue second name := by
  constructor
  · intro agree name owned free
    have values := agree name owned
    rw [headersJson_lookup, headersJson_lookup,
      mergedHeaders_lookup (ownedHeaders_plain name owned) (hidden name owned),
      mergedHeaders_lookup (ownedHeaders_plain name owned) (hidden name owned),
      insertAll_other free, AList.lookup_empty] at values
    exact values
  · intro given name owned
    rw [headersJson_lookup, headersJson_lookup,
      mergedHeaders_lookup (ownedHeaders_plain name owned) (hidden name owned),
      mergedHeaders_lookup (ownedHeaders_plain name owned) (hidden name owned)]
    by_cases flows : name ∈ board.map (·.1)
    · rcases Option.isSome_iff_exists.mp (insertAll_isSome flows ∅) with
        ⟨value, found⟩
      rw [found]
      rfl
    · have same := given name owned flows
      rw [givenValue, givenValue] at same
      rw [same]

theorem planSend_hidden {state : SendState} {key : ApiKeyRecord}
    {request : SendEmailRequest} {world : SendWorld} :
    (planSend state key request).Ends
      (fun plan _ => ∀ name ∈ ownedHeaders, name ∉ plan.display.map (·.1))
      (fun _ _ => True) world := by
  rw [planSend]
  simp only
  split
  · trivial
  · refine ends_next fun body _ => ?_
    refine ends_next fun _ _ => ?_
    cases parseAddressees state (isShared key.systemId) request with
    | none => trivial
    | some addressees =>
        simp only
        refine ends_next fun _ _ => ?_
        refine ends_next fun _ _ => ?_
        refine ends_next fun _ _ => ?_
        refine ends_next fun _ _ => ?_
        refine ends_next fun _ _ => ?_
        split
        · trivial
        · refine ends_next fun _ _ => ?_
          refine ends_next fun _ _ => ?_
          refine ends_next fun _ _ => ?_
          intro name owned
          exact displayHeaders_names (ownedHeaders_plain name owned)

theorem sameMails_values {names : List String}
    (mails : List.Forall₂ (SameMail names) left right) (owned : name ∈ names) :
    right.map (·.headers.lookup name) = left.map (·.headers.lookup name) := by
  induction mails with
  | nil => rfl
  | cons same _ induction =>
      rw [List.map_cons, List.map_cons, induction, same.headers name owned]

/-! ## A request to try -/

/-- A send API with constant answers and no boards. -/
def plainSend : SendState where
  receiver := Smtp.plainReceiver
  digest := id
  openBoard := fun _ => none
  parseJson := fun _ => none
  hashOrder := fun _ elements => elements
  hashOrder_perm := fun _ elements => .refl elements
  dedupeKey := fun _ _ _ _ _ => 0
  dedupeCapacity := 4096
  dedupeWindowSecs := 0
  smtpHostname := none
  httpHostname := none
  subjectPrefix := ""

def aliceKey : ApiKeyRecord :=
  sampleKey 1 "sys-a" "alice@a.test" "hash-a" ["agent"] "agent"

/-- `alice@a.test` may write to `pal@c.test`. -/
def aliceWorld : SendWorld where
  main := World.start { Database.empty with
    systemDomains := ⟨[Smtp.registration "d1" "sys-a" "alice@a.test"], by decide⟩
    whitelists := ⟨[{ Smtp.welcome 1 "sys-a" "alice@a.test" "pal@c.test" with
      direction := .dirTo }], by decide⟩
    whitelistSequence := 1 }
  deduper := ⟨[], 0⟩
  permissions := []
  attachmentMails := []

def helloPal : SendEmailRequest where
  sender := none
  toAddrs := "pal@c.test"
  cc := none
  subject := some "hello"
  markdown := "hi"
  attachments := none
  headers := none

def withHeader (name value : String) : Option HeaderMap :=
  some ((∅ : HeaderMap).insert name value)

/-- The records of a mail of the agent, by the values of a header. -/
def valuesSent (client : Option HeaderMap) (name : String) :
    List (Option String) :=
  ((sendEmailCore plainSend aliceKey { helloPal with headers := client }).run
    aliceWorld).2.main.db.emails.rows.map (·.headers.lookup name)

end AimailGateway.Api
