import AimailGateway.Library.JsonPath
import AimailGateway.Library.Text

/-! # Endpoint statuses of an email

The endpoints column holds an object with an entry for each address. A
delivery sets the status of its entry through a JSON path that is put together
from the address, and the email is complete when no entry has another status
than success.
-/

namespace AimailGateway.Email

open Library

namespace Endpoints

structure EmailRow where
  endpoints : Option Json

/-! ## Creation -/

section Creation

variable (tables : CaseTables) (resolveWebhookUrl : String → Option String)

/-- One recipient with a webhook is pending at its address. -/
def addWebhook (map : List (String × Json)) (email : String) :
    List (String × Json) :=
  let lower := tables.toLowercase email
  match map.lookup lower with
  | some _ => map
  | none =>
      match resolveWebhookUrl lower with
      | none => map
      | some url =>
          Json.insertField lower (.object
            [("status", .string "pending"), ("url", .string url)]) map

/-- `build_endpoints_for_recipients`. -/
def buildEndpointsForRecipients (recipients : List String) : Json :=
  .object (recipients.foldl (addWebhook tables resolveWebhookUrl) [])

/-- The endpoints of an outbound record: its external recipients. -/
def mxEndpoints (external : List String) : Json :=
  .object (external.foldl (fun eps addr =>
    Json.insertField (tables.toLowercase addr) (.object
      [("protocol", .string "mx"), ("status", .string "pending")]) eps) [])

def notificationEndpoints (sender url : String) : Json :=
  .object [(tables.toLowercase sender, .object
    [("status", .string "pending"), ("url", .string url)])]

inductive Created : Option Json → Prop where
  | absent : Created none
  | webhooks (recipients : List String) :
      Created (some
        (buildEndpointsForRecipients tables resolveWebhookUrl recipients))
  | mx (external : List String) :
      Created (some (mxEndpoints tables external))
  | notification (sender url : String) :
      Created (some (notificationEndpoints tables sender url))

end Creation

/-! ## Updates and the test -/

section Statements

variable (reader : Json.Reader)

/-- The path to the status of a domain's entry, quoted but not escaped. -/
def statusPath (domain : String) : String :=
  "$.\"" ++ domain ++ "\".status"

/-- `update_email_endpoint_status`: the row after it and whether there was
one. The error of a malformed path leaves the row as it is. -/
def updateEmailEndpointStatus (domain newStatus : String) :
    Option EmailRow → Option (Option EmailRow × Bool)
  | none => some (none, false)
  | some row =>
      (Json.jsonSet reader (row.endpoints.getD (.object []))
        (statusPath domain) (.string newStatus)).map fun endpoints =>
          (some { row with endpoints := some endpoints }, true)

/-- `status != 'success'` on an extracted value; `none` is SQL's null. -/
def differs : Option Json → Option Bool
  | none => none
  | some .null => none
  | some (.string status) => some (status != "success")
  | some _ => some true

/-- `json_extract(value, '$.status') != 'success'`; the outer `none` is the
error of a text that is no document. -/
def statusDiffers : Json → Option (Option Bool)
  | .string text =>
      (reader.parse text).map fun document => differs (document.get? "status")
  | value => some (differs (value.get? "status"))

/-- `EXISTS` over the rows: the first row for which the condition is true ends
the search, null is not true. -/
def anyDiffers : List Json → Option Bool
  | [] => some false
  | value :: rest =>
      match statusDiffers reader value with
      | none => none
      | some (some true) => some true
      | some _ => anyDiffers rest

/-- `check_all_endpoints_completed`; `none` is an error of the query. -/
def checkAllEndpointsCompleted : Option EmailRow → Option Bool
  | none => some false
  | some row =>
      match row.endpoints with
      | none => some false
      | some (.object []) => some false
      | some endpoints =>
          (anyDiffers reader (Json.jsonEach endpoints)).map not

/-- The row after several updates; one that fails changes nothing. -/
def updates (row : Option EmailRow) (calls : List (String × String)) :
    Option EmailRow :=
  calls.foldl (fun row call =>
    match updateEmailEndpointStatus reader call.1 call.2 row with
    | none => row
    | some (next, _) => next) row

end Statements

/-- The endpoints are an object with entries, all of them with the status
success. -/
def Completed : Option Json → Prop
  | some (.object entries) => entries ≠ [] ∧
      ∀ entry ∈ entries, entry.2.getStr? "status" = some "success"
  | _ => False

def entryOf (row : Option EmailRow) (key : String) : Option Json :=
  row.bind fun row => row.endpoints.bind fun endpoints => endpoints.get? key

/-! ## Rows whose entries have a status -/

/-- Every entry is an object with a text as its status. -/
def Tracked (entries : List (String × Json)) : Prop :=
  ∀ entry ∈ entries, ∃ fields status,
    entry.2 = .object fields ∧ fields.lookup "status" = some (.string status)

theorem Tracked.nil : Tracked [] := by
  intro entry inside
  cases inside

variable {fields : List (String × Json)}
  {entries : List (String × Json)} {key : String}

theorem mem_insertField {value : Json} {field : String × Json}
    (inside : field ∈ Json.insertField key value fields) :
    field = (key, value) ∨ field ∈ fields := by
  induction fields with
  | nil => exact .inl (List.mem_singleton.mp inside)
  | cons head rest induction =>
      rcases head with ⟨name, previous⟩
      rw [Json.insertField] at inside
      by_cases same : key = name
      · rw [if_pos same, List.mem_cons] at inside
        exact inside.imp_right (List.mem_cons_of_mem _)
      · rw [if_neg same] at inside
        by_cases before : key < name
        · rw [if_pos before, List.mem_cons] at inside
          exact inside
        · rw [if_neg before, List.mem_cons] at inside
          cases inside with
          | inl here => exact .inr (here ▸ List.mem_cons_self)
          | inr later =>
              exact (induction later).imp_right (List.mem_cons_of_mem _)

theorem Tracked.insertField {status : String} (tracked : Tracked entries)
    (own : fields.lookup "status" = some (.string status)) :
    Tracked (Json.insertField key (.object fields) entries) := by
  intro entry inside
  cases mem_insertField inside with
  | inl new => exact ⟨fields, status, by rw [new], own⟩
  | inr old => exact tracked entry old

theorem Tracked.setField {status : String} (tracked : Tracked entries)
    (own : fields.lookup "status" = some (.string status)) :
    Tracked (Json.setField key (.object fields) entries) := by
  intro entry inside
  cases Json.mem_setField inside with
  | inl new => exact ⟨fields, status, by rw [new], own⟩
  | inr old => exact tracked entry old

/-- A record without endpoints, or with an object of tracked entries. -/
def TrackedRow (row : EmailRow) : Prop :=
  row.endpoints = none ∨
    ∃ entries, row.endpoints = some (.object entries) ∧ Tracked entries

section Created

variable {tables : CaseTables} {resolveWebhookUrl : String → Option String}

theorem tracked_webhooks (recipients : List String) :
    ∀ {map : List (String × Json)}, Tracked map →
      Tracked (recipients.foldl (addWebhook tables resolveWebhookUrl) map) := by
  induction recipients with
  | nil =>
      intro map tracked
      exact tracked
  | cons email rest induction =>
      intro map tracked
      rw [List.foldl_cons]
      apply induction
      rw [addWebhook]
      split
      · exact tracked
      · split
        · exact tracked
        · exact tracked.insertField rfl

theorem tracked_mx (external : List String) :
    ∀ {eps : List (String × Json)}, Tracked eps →
      Tracked (external.foldl (fun eps addr =>
        Json.insertField (tables.toLowercase addr) (.object
          [("protocol", .string "mx"), ("status", .string "pending")])
          eps) eps) := by
  induction external with
  | nil =>
      intro eps tracked
      exact tracked
  | cons addr rest induction =>
      intro eps tracked
      rw [List.foldl_cons]
      apply induction
      apply tracked.insertField
      rfl

theorem Created.tracked {endpoints : Option Json}
    (created : Created tables resolveWebhookUrl endpoints) :
    TrackedRow ⟨endpoints⟩ := by
  cases created with
  | absent => exact .inl rfl
  | webhooks recipients =>
      exact .inr ⟨_, rfl, tracked_webhooks recipients .nil⟩
  | mx external => exact .inr ⟨_, rfl, tracked_mx external .nil⟩
  | notification sender url =>
      refine .inr ⟨_, rfl, ?_⟩
      intro entry inside
      rw [List.mem_singleton] at inside
      exact ⟨_, "pending", by rw [inside], rfl⟩

end Created

/-! ## One update -/

section Update

variable (reader : Json.Reader) {domain : String} (newStatus : String)
  {entries : List (String × Json)}

/-- The entry of a domain after its update. -/
def updatedEntry : Option Json → Json
  | some (.object fields) =>
      .object (Json.setField "status" (.string newStatus) fields)
  | _ => .object [("status", .string newStatus)]

theorem editPath_status (fuel : Nat) (fields : List (String × Json)) :
    Json.editPath reader (.string newStatus) (fuel + 1) ".status".toList
        (.object fields) =
      .done (.object
        (Json.setField "status" (.string newStatus) fields)) := by
  have last (value : Json) :
      Json.editPath reader (.string newStatus) fuel [] value =
        .done (.string newStatus) := by
    rw [Json.editPath]
  have label : "status".toList.takeWhile (fun character =>
      character != '.' && character != '[') = "status".toList := by decide
  have rest : "status".toList.dropWhile (fun character =>
      character != '.' && character != '[') = [] := by decide
  have step : Json.editPath reader (.string newStatus) (fuel + 1)
      ".status".toList (.object fields) =
      Json.editField (String.ofList "status".toList)
        (Json.editPath reader (.string newStatus) fuel []) []
        (.object fields) := by
    rw [show ".status".toList = '.' :: "status".toList from rfl,
      Json.editPath, label, rest, if_neg (by decide)]
    intro text same
    exact absurd (List.cons.inj same).1 (by decide)
  rw [step, Json.editField, String.ofList_toList]
  cases fields.lookup "status" with
  | none => simp only [last, Json.Edit.map]
  | some child => simp only [last, Json.Edit.map]

theorem jsonSet_status
    (tracked : Tracked entries) (plain : Json.PlainLabel domain) :
    Json.jsonSet reader (.object entries) (statusPath domain)
        (.string newStatus) =
      some (.object (Json.setField domain
        (updatedEntry newStatus (entries.lookup domain)) entries)) := by
  have path : (statusPath domain).toList =
      '$' :: '.' :: '"' :: (domain.toList ++ '"' :: ".status".toList) := by
    simp [statusPath]
  have whole : (statusPath domain).toList.takeWhile (· != Char.ofNat 0) =
      (statusPath domain).toList := by
    rw [List.takeWhile_eq_self_iff]
    intro character inside
    have different : character ≠ Char.ofNat 0 := by
      rintro rfl
      rw [path] at inside
      simp only [List.mem_cons, List.mem_append] at inside
      obtain same | same | same | inside | same | inside := inside
      · exact absurd same (by decide)
      · exact absurd same (by decide)
      · exact absurd same (by decide)
      · exact plain.2.2 inside
      · exact absurd same (by decide)
      · exact absurd inside (by decide)
    simpa using different
  obtain ⟨fuel, size⟩ : ∃ fuel, ('.' :: '"' ::
      (domain.toList ++ '"' :: ".status".toList)).length = fuel + 1 + 1 :=
    ⟨_, rfl⟩
  apply Json.jsonSet_of_done reader (whole.trans path)
  rw [size, Json.editPath_quoted reader plain, Json.editField]
  cases found : entries.lookup domain with
  | none =>
      have new : Json.emptyFor ".status".toList = .object [] := rfl
      simp only [new, editPath_status, Json.Edit.map, updatedEntry,
        Json.setField]
  | some entry =>
      have inside : (domain, entry) ∈ entries := Json.mem_of_lookup found
      obtain ⟨fields, status, object, own⟩ := tracked (domain, entry) inside
      dsimp only at object
      subst object
      simp only [editPath_status, Json.Edit.map, updatedEntry]

theorem lookup_updatedEntry (domain : String) (tracked : Tracked entries) :
    ∃ fields, updatedEntry newStatus (entries.lookup domain) = .object fields ∧
      fields.lookup "status" = some (.string newStatus) := by
  cases found : entries.lookup domain with
  | none => exact ⟨_, rfl, rfl⟩
  | some entry =>
      have inside : (domain, entry) ∈ entries := Json.mem_of_lookup found
      obtain ⟨fields, status, object, own⟩ := tracked (domain, entry) inside
      dsimp only at object
      subst object
      refine ⟨_, rfl, ?_⟩
      rw [Json.lookup_setField, if_pos rfl]

theorem update_of_plain {row : EmailRow} (tracked : TrackedRow row)
    (plain : Json.PlainLabel domain) :
    ∃ next, updateEmailEndpointStatus reader domain newStatus (some row) =
        some (some next, true) ∧ TrackedRow next ∧
      ∀ other, other ≠ domain →
        entryOf (some next) other = entryOf (some row) other := by
  obtain ⟨entries, before, own, keys⟩ : ∃ entries,
      row.endpoints.getD (.object []) = .object entries ∧ Tracked entries ∧
      ∀ other, entryOf (some row) other = entries.lookup other := by
    cases tracked with
    | inl absent =>
        refine ⟨[], by rw [absent]; rfl, .nil, ?_⟩
        intro other
        simp [entryOf, absent]
    | inr present =>
        obtain ⟨entries, object, own⟩ := present
        refine ⟨entries, by rw [object]; rfl, own, ?_⟩
        intro other
        simp [entryOf, object, Json.get?]
  obtain ⟨fields, entry, status⟩ :=
    lookup_updatedEntry newStatus domain own
  refine ⟨⟨some (.object (Json.setField domain
    (updatedEntry newStatus (entries.lookup domain)) entries))⟩, ?_, ?_, ?_⟩
  · rw [updateEmailEndpointStatus, before,
      jsonSet_status reader newStatus own plain]
    rfl
  · refine .inr ⟨_, rfl, ?_⟩
    rw [entry]
    exact own.setField status
  · intro other different
    rw [keys]
    simp only [entryOf, Option.bind_some, Json.get?]
    rw [Json.lookup_setField, if_neg different]

end Update

/-! ## The test on tracked rows -/

section Test

variable (reader : Json.Reader)
  {entries : List (String × Json)}

theorem Tracked.tail {entry : String × Json} {rest : List (String × Json)}
    (tracked : Tracked (entry :: rest)) : Tracked rest :=
  fun other inside => tracked other (List.mem_cons_of_mem entry inside)

theorem anyDiffers_iff (tracked : Tracked entries) :
    anyDiffers reader (entries.map (·.2)) = some false ↔
      ∀ entry ∈ entries, entry.2.getStr? "status" = some "success" := by
  induction entries with
  | nil => simp [anyDiffers]
  | cons entry rest induction =>
      obtain ⟨fields, status, object, own⟩ :=
        tracked entry List.mem_cons_self
      have extracted : statusDiffers reader entry.2 =
          some (some (status != "success")) := by
        simp only [object, statusDiffers, Json.get?, own, differs]
      have text : entry.2.getStr? "status" = some status := by
        simp only [object, Json.getStr?, Json.get?, own, Option.bind_some,
          Json.asStr?]
      rw [List.map_cons, anyDiffers, extracted, List.forall_mem_cons, text]
      cases differing : status != "success" with
      | true =>
          have other : status ≠ "success" := by simpa using differing
          simp [other]
      | false =>
          have success : status = "success" := by simpa using differing
          simp [success, induction tracked.tail]

theorem anyDiffers_isSome (tracked : Tracked entries) :
    (anyDiffers reader (entries.map (·.2))).isSome = true := by
  induction entries with
  | nil => rfl
  | cons entry rest induction =>
      obtain ⟨fields, status, object, own⟩ :=
        tracked entry List.mem_cons_self
      rw [List.map_cons, anyDiffers, object, statusDiffers]
      simp only [Json.get?, own, differs]
      cases status != "success" with
      | true => rfl
      | false => exact induction tracked.tail
      intro text different
      cases different

theorem check_of_tracked {row : EmailRow} (tracked : TrackedRow row) :
    ∃ completed,
      checkAllEndpointsCompleted reader (some row) = some completed ∧
      (completed = true ↔ Completed row.endpoints) := by
  cases tracked with
  | inl absent =>
      exact ⟨false, by rw [checkAllEndpointsCompleted, absent], by
        simp [absent, Completed]⟩
  | inr present =>
      obtain ⟨entries, object, own⟩ := present
      cases entries with
      | nil =>
          exact ⟨false, by rw [checkAllEndpointsCompleted, object], by
            simp [object, Completed]⟩
      | cons entry rest =>
          obtain ⟨found, search⟩ := Option.isSome_iff_exists.mp
            (anyDiffers_isSome reader own)
          refine ⟨!found, ?_, ?_⟩
          · simp only [checkAllEndpointsCompleted, object, Json.jsonEach,
              search, Option.map_some]
          · simp only [object, Completed]
            rw [← anyDiffers_iff reader own, search]
            simp

end Test

/-! ## Runs of updates -/

section Runs

variable (reader : Json.Reader) {tables : CaseTables}
  {resolveWebhookUrl : String → Option String}

theorem updates_tracked {calls : List (String × String)} {row : EmailRow}
    (plain : ∀ call ∈ calls, Json.PlainLabel call.1)
    (tracked : TrackedRow row) :
    ∃ last, updates reader (some row) calls = some last ∧ TrackedRow last := by
  induction calls generalizing row with
  | nil => exact ⟨row, rfl, tracked⟩
  | cons call rest induction =>
      obtain ⟨next, updated, still, -⟩ := update_of_plain
        reader call.2 tracked
        (plain call List.mem_cons_self)
      obtain ⟨last, run, holds⟩ := induction (fun other inside =>
        plain other (List.mem_cons_of_mem call inside)) still
      refine ⟨last, ?_, holds⟩
      rw [← run, updates, List.foldl_cons, updated]
      rfl

/-- With addresses that need no escape, the test is true exactly when there
are endpoints and all have the status success, and an update changes its own
key alone. -/
theorem endpoints_exact {endpoints : Option Json}
    {calls : List (String × String)}
    (created : Created tables resolveWebhookUrl endpoints)
    (plain : ∀ call ∈ calls, Json.PlainLabel call.1) :
    ∃ row, updates reader (some ⟨endpoints⟩) calls = some row ∧
      (∃ completed,
        checkAllEndpointsCompleted reader (some row) = some completed ∧
        (completed = true ↔ Completed row.endpoints)) ∧
      ∀ domain newStatus, Json.PlainLabel domain →
        ∃ next, updateEmailEndpointStatus reader domain newStatus (some row) =
            some (some next, true) ∧
          ∀ other, other ≠ domain →
            entryOf (some next) other = entryOf (some row) other := by
  obtain ⟨row, run, tracked⟩ :=
    updates_tracked reader plain created.tracked
  refine ⟨row, run, check_of_tracked reader tracked, ?_⟩
  intro domain newStatus own
  obtain ⟨next, updated, -, others⟩ :=
    update_of_plain reader newStatus tracked own
  exact ⟨next, updated, others⟩

end Runs

/-- A reader for documents in which nothing is escaped. -/
def plainReader : Json.Reader where
  unescape := String.ofList
  parse := fun _ => none

theorem endpoints_bob_created :
    Created Text.asciiTables (fun _ => none)
      (some (mxEndpoints Text.asciiTables ["Bob@x.org", "ann@y.org"])) :=
  .mx ["Bob@x.org", "ann@y.org"]

/-- Of two endpoints one is done. -/
theorem endpoints_exact_bob :
    ∃ row, updates plainReader (some ⟨some (mxEndpoints Text.asciiTables
          ["Bob@x.org", "ann@y.org"])⟩)
        [("bob@x.org", "success"), ("ann@y.org", "failed")] = some row ∧
      (∃ completed,
        checkAllEndpointsCompleted plainReader (some row) = some completed ∧
        (completed = true ↔ Completed row.endpoints)) ∧
      ∀ domain newStatus, Json.PlainLabel domain →
        ∃ next,
          updateEmailEndpointStatus plainReader domain newStatus (some row) =
            some (some next, true) ∧
          ∀ other, other ≠ domain →
            entryOf (some next) other = entryOf (some row) other :=
  endpoints_exact plainReader endpoints_bob_created (by decide)

/-- The address `a"."b` writes into an entry `a`, which then has no status and
counts as completed. -/
theorem quoted_address_completes :
    ¬ ∀ (reader : Json.Reader) (tables : CaseTables)
        (resolveWebhookUrl : String → Option String) (endpoints : Option Json)
        (calls : List (String × String)),
        Created tables resolveWebhookUrl endpoints →
        ∀ row, updates reader (some ⟨endpoints⟩) calls = some row →
          ∃ completed,
            checkAllEndpointsCompleted reader (some row) = some completed ∧
            (completed = true ↔ Completed row.endpoints) := by
  intro exact
  have run : updates plainReader (some ⟨none⟩) [("a\".\"b", "success")] =
      some ⟨some (.object [("a", .object [("b", .object
        [("status", .string "success")])])])⟩ := by
    rfl
  obtain ⟨completed, test, both⟩ := exact plainReader Text.asciiTables
    (fun _ => none) none _ .absent _ run
  have checked : Completed (some (.object [("a", .object [("b", .object
      [("status", .string "success")])])])) := by
    apply both.mp
    exact (Option.some.inj test).symm
  have status := checked.2 _ List.mem_cons_self
  simp [Json.getStr?, Json.get?, List.lookup_cons] at status

end Endpoints

end AimailGateway.Email
