import Mathlib.Data.List.Nodup
import Mathlib.Data.List.Perm.Basic
import AimailGateway.Api.Contacts
import AimailGateway.Storage.PendingDeliveries

/-! # Batches of a pull response

Pending records with one payload share one body. Bodies and deliveries are
collected under the hash of the payload and joined at the end.
-/

namespace AimailGateway

open Library

namespace PullBatches

structure Delivery where
  id : Int
  email : String
  headers : Json

structure Batch where
  body : Json
  deliveries : List Delivery

def Delivery.toJson (delivery : Delivery) : Json :=
  .object [("id", .number (toString delivery.id)),
    ("email", .string delivery.email), ("headers", delivery.headers)]

def Batch.toJson (batch : Batch) : Json :=
  .object [("body", batch.body),
    ("deliveries", .array (batch.deliveries.map Delivery.toJson))]

/-- The two containers of `group_pending_batches`: the entries by hash, each
hash once, and the bodies in their order. -/
structure Collected where
  batchesMap : List (Int × List (Int × String × String))
  batchOrder : List (Int × String)

section Grouping

variable (json : JsonText) (hash : String → Int)

/-- `serde_json::from_str(text).unwrap_or(Value::Null)`. -/
def parsed (text : String) : Json :=
  (json.parse text).getD .null

/-- One turn of the loop: the entry of the hash, made with its body when it is
not there yet, takes the record. -/
def collect (collected : Collected) (record : PendingDeliveryRecord) :
    Collected :=
  let h := hash record.payload
  let known := collected.batchesMap.lookup h
  { batchesMap :=
      (h, known.getD [] ++ [(record.id, record.email, record.headers)]) ::
        collected.batchesMap.filter (·.1 != h)
    batchOrder :=
      if known.isSome then collected.batchOrder
      else collected.batchOrder ++ [(h, json.print (parsed json record.payload))] }

def deliveryOf (entry : Int × String × String) : Delivery :=
  ⟨entry.1, entry.2.1, parsed json entry.2.2⟩

/-- The batch of a hash; there is none, and the program panics, when the hash
is not in the map. -/
def batchFor (collected : Collected) (ordered : Int × String) : Option Batch :=
  (collected.batchesMap.lookup ordered.1).map fun entries =>
    ⟨parsed json ordered.2, entries.map (deliveryOf json)⟩

def batchesOf (records : List PendingDeliveryRecord) : Option (List Batch) :=
  let collected := records.foldl (collect json hash) ⟨[], []⟩
  collected.batchOrder.mapM (batchFor json collected)

def groupPendingBatches (records : List PendingDeliveryRecord) : Option Json :=
  (batchesOf json hash records).map fun batches =>
    .object [("batches", .array (batches.map Batch.toJson))]

end Grouping

/-! ## Payloads in their order -/

def keepIfNew (seen : List String) (payload : String) : List String :=
  if payload ∈ seen then seen else seen ++ [payload]

def firstPayloads (records : List PendingDeliveryRecord) : List String :=
  (records.map (·.payload)).foldl keepIfNew []

theorem firstPayloads_append (records : List PendingDeliveryRecord)
    (record : PendingDeliveryRecord) :
    firstPayloads (records ++ [record]) =
      keepIfNew (firstPayloads records) record.payload := by
  rw [firstPayloads, List.map_append, List.foldl_append, ← firstPayloads]
  rfl

theorem mem_firstPayloads {payload : String}
    (records : List PendingDeliveryRecord) :
    payload ∈ firstPayloads records ↔
      ∃ record ∈ records, record.payload = payload := by
  induction records using List.reverseRecOn with
  | nil => simp [firstPayloads]
  | append_singleton records record induction =>
      rw [firstPayloads_append, keepIfNew]
      split
      · next known =>
          rw [induction]
          constructor
          · rintro ⟨other, member, same⟩
            exact ⟨other, List.mem_append_left _ member, same⟩
          · rintro ⟨other, member, same⟩
            rcases List.mem_append.mp member with before | last
            · exact ⟨other, before, same⟩
            · rw [List.mem_singleton.mp last] at same
              rw [same] at known
              exact induction.mp known
      · rw [List.mem_append, List.mem_singleton, induction]
        constructor
        · rintro (⟨other, member, same⟩ | same)
          · exact ⟨other, List.mem_append_left _ member, same⟩
          · exact ⟨record, List.mem_append_right _ (List.mem_singleton_self _),
              same.symm⟩
        · rintro ⟨other, member, same⟩
          rcases List.mem_append.mp member with before | last
          · exact .inl ⟨other, before, same⟩
          · rw [List.mem_singleton.mp last] at same
            exact .inr same.symm

theorem nodup_firstPayloads (records : List PendingDeliveryRecord) :
    (firstPayloads records).Nodup := by
  induction records using List.reverseRecOn with
  | nil => exact List.nodup_nil
  | append_singleton records record induction =>
      rw [firstPayloads_append, keepIfNew]
      split
      · exact induction
      · next new =>
          exact induction.append (List.nodup_singleton _)
            (List.disjoint_singleton.mpr new)

/-! ## What the loop collects -/

section Loop

variable {json : JsonText} {hash : String → Int}
  {records : List PendingDeliveryRecord} {record : PendingDeliveryRecord}

def entryOf (record : PendingDeliveryRecord) : Int × String × String :=
  (record.id, record.email, record.headers)

def withPayload (payload : String) (records : List PendingDeliveryRecord) :
    List PendingDeliveryRecord :=
  records.filter (·.payload == payload)

/-- Different payloads of the list have different hashes. -/
def NoCollision (hash : String → Int) (records : List PendingDeliveryRecord) :
    Prop :=
  ∀ first ∈ records, ∀ second ∈ records,
    hash first.payload = hash second.payload → first.payload = second.payload

/-- The containers after some records: one body for each payload, and under its
hash the entries of its records. -/
structure Holds (json : JsonText) (hash : String → Int)
    (records : List PendingDeliveryRecord) (collected : Collected) : Prop where
  order : collected.batchOrder = (firstPayloads records).map fun payload =>
    (hash payload, json.print (parsed json payload))
  entries : ∀ payload ∈ firstPayloads records,
    collected.batchesMap.lookup (hash payload) =
      some ((withPayload payload records).map entryOf)
  absent : ∀ h, (∀ payload ∈ firstPayloads records, hash payload ≠ h) →
    collected.batchesMap.lookup h = none

theorem lookup_filter_ne {entries : List (Int × α)} {h other : Int}
    (different : other ≠ h) :
    (entries.filter (·.1 != h)).lookup other = entries.lookup other := by
  induction entries with
  | nil => rfl
  | cons entry rest induction =>
      rcases entry with ⟨key, value⟩
      by_cases same : key = h
      · rw [List.filter_cons_of_neg (by simp [same]), induction,
          List.lookup_cons, beq_false_of_ne (same ▸ different)]
      · rw [List.filter_cons_of_pos (by simp [same]), List.lookup_cons,
          List.lookup_cons, induction]

theorem withPayload_append (payload : String)
    (records : List PendingDeliveryRecord) (record : PendingDeliveryRecord) :
    withPayload payload (records ++ [record]) =
      withPayload payload records ++
        if record.payload = payload then [record] else [] := by
  rw [withPayload, List.filter_append, ← withPayload]
  split
  · next same => rw [List.filter_cons_of_pos (by simp [same]), List.filter_nil]
  · next other => rw [List.filter_cons_of_neg (by simp [other]), List.filter_nil]

theorem lookup_collect_self (collected : Collected)
    (record : PendingDeliveryRecord) :
    (collect json hash collected record).batchesMap.lookup
        (hash record.payload) =
      some ((collected.batchesMap.lookup (hash record.payload)).getD [] ++
        [entryOf record]) :=
  List.lookup_cons_self

theorem lookup_collect_other (collected : Collected)
    (record : PendingDeliveryRecord) {h : Int}
    (other : h ≠ hash record.payload) :
    (collect json hash collected record).batchesMap.lookup h =
      collected.batchesMap.lookup h := by
  rw [collect]
  simp only [List.lookup_cons, beq_false_of_ne other]
  exact lookup_filter_ne other

theorem Holds.before {collected : Collected}
    (holds : Holds json hash records collected)
    (distinct : NoCollision hash (records ++ [record])) :
    (collected.batchesMap.lookup (hash record.payload)).getD [] =
        (withPayload record.payload records).map entryOf ∧
      ((collected.batchesMap.lookup (hash record.payload)).isSome ↔
        record.payload ∈ firstPayloads records) := by
  by_cases known : record.payload ∈ firstPayloads records
  · rw [holds.entries _ known]
    exact ⟨rfl, by simp [known]⟩
  · have missing : collected.batchesMap.lookup (hash record.payload) = none := by
      apply holds.absent
      intro payload member same
      obtain ⟨other, inside, rfl⟩ := (mem_firstPayloads records).mp member
      apply known
      rwa [← distinct other (List.mem_append_left _ inside) record
        (List.mem_append_right _ (List.mem_singleton_self _)) same]
    have none : withPayload record.payload records = [] := by
      apply List.filter_eq_nil_iff.mpr
      intro other inside same
      exact known ((mem_firstPayloads records).mpr
        ⟨other, inside, by simpa using same⟩)
    rw [missing, none]
    exact ⟨rfl, by simp [known]⟩

theorem Holds.collect {collected : Collected}
    (holds : Holds json hash records collected)
    (distinct : NoCollision hash (records ++ [record])) :
    Holds json hash (records ++ [record])
      (collect json hash collected record) := by
  obtain ⟨before, present⟩ := holds.before distinct
  have apart : ∀ payload ∈ firstPayloads (records ++ [record]),
      payload ≠ record.payload → hash payload ≠ hash record.payload := by
    intro payload member different same
    obtain ⟨other, inside, rfl⟩ := (mem_firstPayloads _).mp member
    exact different (distinct other inside record
      (List.mem_append_right _ (List.mem_singleton_self _)) same)
  constructor
  · rw [firstPayloads_append, keepIfNew, PullBatches.collect]
    dsimp only
    split
    · next known =>
        rw [if_pos (present.mp known), holds.order]
    · next unknown =>
        rw [if_neg (fun known => unknown (present.mpr known)), holds.order,
          List.map_append]
        rfl
  · intro payload member
    rw [withPayload_append]
    by_cases same : payload = record.payload
    · rw [same, lookup_collect_self, before, if_pos rfl, List.map_append]
      rfl
    · rw [lookup_collect_other _ _ (apart payload member same),
        if_neg (Ne.symm same), List.append_nil]
      apply holds.entries
      obtain ⟨other, inside, rfl⟩ := (mem_firstPayloads _).mp member
      rcases List.mem_append.mp inside with earlier | last
      · exact (mem_firstPayloads _).mpr ⟨other, earlier, rfl⟩
      · rw [List.mem_singleton.mp last] at same
        exact absurd rfl same
  · intro h away
    have self : record.payload ∈ firstPayloads (records ++ [record]) :=
      (mem_firstPayloads _).mpr ⟨record,
        List.mem_append_right _ (List.mem_singleton_self _), rfl⟩
    rw [lookup_collect_other _ _ (Ne.symm (away _ self))]
    apply holds.absent
    intro payload member
    obtain ⟨other, inside, rfl⟩ := (mem_firstPayloads records).mp member
    exact away _ ((mem_firstPayloads _).mpr
      ⟨other, List.mem_append_left _ inside, rfl⟩)

theorem collected_holds (records : List PendingDeliveryRecord)
    (distinct : NoCollision hash records) :
    Holds json hash records (records.foldl (collect json hash) ⟨[], []⟩) := by
  induction records using List.reverseRecOn with
  | nil => exact ⟨rfl, nofun, fun _ _ => rfl⟩
  | append_singleton records record induction =>
      rw [List.foldl_append, List.foldl_cons, List.foldl_nil]
      apply Holds.collect (induction ?_) distinct
      exact fun first inFirst second inSecond =>
        distinct first (List.mem_append_left _ inFirst) second
          (List.mem_append_left _ inSecond)

/-! ## The batches of the loop -/

theorem mapM_total {f : α → Option β} {g : α → β} (elements : List α)
    (total : ∀ element ∈ elements, f element = some (g element)) :
    elements.mapM f = some (elements.map g) := by
  induction elements with
  | nil => rfl
  | cons element rest induction =>
      rw [List.mapM_cons, total element List.mem_cons_self,
        induction fun other member => total other (List.mem_cons_of_mem _ member)]
      rfl

def recordDelivery (json : JsonText) (record : PendingDeliveryRecord) :
    Delivery :=
  deliveryOf json (entryOf record)

def payloadBatch (json : JsonText) (records : List PendingDeliveryRecord)
    (payload : String) : Batch :=
  ⟨parsed json payload,
    (withPayload payload records).map (recordDelivery json)⟩

/-- The body a batch is sent with: the value of its payload, printed and parsed
again. -/
def sentBody (json : JsonText) (payload : String) : Json :=
  parsed json (json.print (parsed json payload))

def sentBatch (json : JsonText) (records : List PendingDeliveryRecord)
    (payload : String) : Batch :=
  { payloadBatch json records payload with body := sentBody json payload }

theorem batchesOf_eq (records : List PendingDeliveryRecord)
    (distinct : NoCollision hash records) :
    batchesOf json hash records =
      some ((firstPayloads records).map (sentBatch json records)) := by
  have holds : Holds json hash records
      (records.foldl (collect json hash) ⟨[], []⟩) :=
    collected_holds records distinct
  rw [batchesOf, holds.order]
  have each : ∀ payload ∈ firstPayloads records,
      batchFor json (records.foldl (collect json hash) ⟨[], []⟩)
          (hash payload, json.print (parsed json payload)) =
        some (sentBatch json records payload) := by
    intro payload member
    rw [batchFor, holds.entries _ member, Option.map_some, List.map_map]
    rfl
  have mapped := mapM_total
    (f := fun payload => batchFor json
      (records.foldl (collect json hash) ⟨[], []⟩)
        (hash payload, json.print (parsed json payload)))
    (firstPayloads records) each
  rw [← mapped]
  exact List.mapM_map

end Loop

/-! ## What the batches say about the records -/

theorem flatMap_filter_perm [DecidableEq κ] {keys : List κ} (key : α → κ)
    (nodup : keys.Nodup) (values : List α)
    (covers : ∀ value ∈ values, key value ∈ keys) :
    (keys.flatMap fun k => values.filter (key · == k)).Perm values := by
  induction values with
  | nil => simp
  | cons value rest induction =>
      have single : (keys.flatMap fun k => if key value = k then [value] else []) =
          [value] := by
        have member := covers value List.mem_cons_self
        clear induction covers
        induction keys with
        | nil => simp at member
        | cons k others ih =>
            obtain ⟨absent, tail⟩ := List.nodup_cons.mp nodup
            rw [List.flatMap_cons]
            by_cases same : key value = k
            · have nowhere : (others.flatMap fun k =>
                  if key value = k then [value] else []) = [] := by
                rw [List.flatMap_eq_nil_iff]
                intro other inside
                rw [if_neg (fun equal => absent (by rwa [← same, equal]))]
              rw [if_pos same, nowhere, List.append_nil]
            · rw [if_neg same, List.nil_append]
              exact ih tail ((List.mem_cons.mp member).resolve_left same)
      have split : (fun k => (value :: rest).filter (key · == k)) = fun k =>
          (if key value = k then [value] else []) ++ rest.filter (key · == k) := by
        funext k
        by_cases same : key value = k <;> simp [same]
      rw [split]
      apply (List.flatMap_append_perm keys _ _).symm.trans
      rw [single]
      exact (induction fun other member =>
        covers other (List.mem_cons_of_mem _ member)).cons value

theorem firstRecords_sublist (json : JsonText)
    (records : List PendingDeliveryRecord) :
    ((firstPayloads records).map fun payload =>
        (payloadBatch json records payload).deliveries.head?).Sublist
      (records.map fun record => some (recordDelivery json record)) := by
  induction records using List.reverseRecOn with
  | nil => exact List.Sublist.refl _
  | append_singleton records record induction =>
      have kept : ∀ payload ∈ firstPayloads records,
          (payloadBatch json (records ++ [record]) payload).deliveries.head? =
            (payloadBatch json records payload).deliveries.head? := by
        intro payload member
        obtain ⟨other, inside, same⟩ := (mem_firstPayloads records).mp member
        have listed : other ∈ withPayload payload records :=
          List.mem_filter.mpr ⟨inside, by simp [same]⟩
        rw [payloadBatch, payloadBatch, withPayload_append, List.map_append]
        exact List.head?_append_of_ne_nil _
          (List.ne_nil_of_mem (List.mem_map_of_mem listed))
      rw [firstPayloads_append, keepIfNew, List.map_append]
      split
      · rw [List.map_congr_left kept]
        exact induction.trans (List.sublist_append_left _ _)
      · next unseen =>
          have none : withPayload record.payload records = [] := by
            apply List.filter_eq_nil_iff.mpr
            intro other inside same
            exact unseen ((mem_firstPayloads records).mpr
              ⟨other, inside, by simpa using same⟩)
          have first : (payloadBatch json (records ++ [record])
              record.payload).deliveries.head? =
                some (recordDelivery json record) := by
            rw [payloadBatch, withPayload_append, none, if_pos rfl]
            rfl
          rw [List.map_append, List.map_congr_left kept, List.map_cons,
            List.map_nil, first]
          exact induction.append (List.Sublist.refl _)

/-- What a response keeps of the records it was made from. -/
structure Conserves (json : JsonText) (records : List PendingDeliveryRecord)
    (batches : List Batch) : Prop where
  /-- Every delivery belongs to one record, with its own body. -/
  own : (batches.flatMap fun batch =>
      batch.deliveries.map fun delivery => (batch.body, delivery)).Perm
    (records.map fun record =>
      (parsed json record.payload, recordDelivery json record))
  /-- Every record is in exactly one batch. -/
  once : ∀ record ∈ records, ∃! index : Nat, ∃ batch,
    batches[index]? = some batch ∧
      record.id ∈ batch.deliveries.map Delivery.id
  /-- Two records share a batch exactly when they share their payload. -/
  shared : ∀ first ∈ records, ∀ second ∈ records,
    ((∃ batch ∈ batches, first.id ∈ batch.deliveries.map Delivery.id ∧
        second.id ∈ batch.deliveries.map Delivery.id) ↔
      first.payload = second.payload)
  /-- The batches are in the order of their first records. -/
  heads : (batches.map (·.deliveries.head?)).Sublist
    (records.map fun record => some (recordDelivery json record))
  /-- Inside a batch the records keep their order. -/
  inside : ∀ batch ∈ batches, batch.deliveries.Sublist
    (records.map (recordDelivery json))

section Batches

variable {json : JsonText} {records : List PendingDeliveryRecord}

theorem eq_of_id (ids : (records.map (·.id)).Nodup)
    {first second : PendingDeliveryRecord} (inFirst : first ∈ records)
    (inSecond : second ∈ records) (same : first.id = second.id) :
    first = second :=
  List.inj_on_of_nodup_map ids inFirst inSecond same

theorem id_mem_payloadBatch (ids : (records.map (·.id)).Nodup)
    {record : PendingDeliveryRecord} (inside : record ∈ records)
    (payload : String) :
    record.id ∈ (payloadBatch json records payload).deliveries.map Delivery.id ↔
      record.payload = payload := by
  rw [payloadBatch, List.map_map, List.mem_map]
  constructor
  · rintro ⟨other, member, same⟩
    obtain ⟨listed, equal⟩ := List.mem_filter.mp member
    rw [← eq_of_id ids listed inside same]
    simpa using equal
  · intro equal
    exact ⟨record, List.mem_filter.mpr ⟨inside, by simp [equal]⟩, rfl⟩

theorem conserves_payloadBatches (ids : (records.map (·.id)).Nodup) :
    Conserves json records
      ((firstPayloads records).map (payloadBatch json records)) := by
  have seen : ∀ record ∈ records, record.payload ∈ firstPayloads records :=
    fun record inside => (mem_firstPayloads records).mpr ⟨record, inside, rfl⟩
  constructor
  · have sorted := flatMap_filter_perm (fun r : PendingDeliveryRecord => r.payload)
      (nodup_firstPayloads records) records seen
    have mapped := sorted.map fun record =>
      (parsed json record.payload, recordDelivery json record)
    rw [List.map_flatMap] at mapped
    rw [List.flatMap_map]
    convert mapped using 2
    funext payload
    rw [payloadBatch, List.map_map]
    apply List.map_congr_left
    intro record member
    have same : record.payload = payload := by
      simpa using (List.mem_filter.mp member).2
    rw [same]
    rfl
  · intro record inside
    obtain ⟨index, bound, found⟩ := List.getElem_of_mem (seen record inside)
    refine ⟨index, ⟨payloadBatch json records record.payload, ?_, ?_⟩, ?_⟩
    · rw [List.getElem?_map, List.getElem?_eq_getElem bound, found]
      rfl
    · exact (id_mem_payloadBatch ids inside _).mpr rfl
    · rintro other ⟨batch, place, listed⟩
      rw [List.getElem?_map, Option.map_eq_some_iff] at place
      obtain ⟨payload, place, rfl⟩ := place
      obtain ⟨otherBound, other_eq⟩ := List.getElem?_eq_some_iff.mp place
      have same := (id_mem_payloadBatch ids inside payload).mp listed
      rw [← same, ← found] at other_eq
      exact (List.Nodup.getElem_inj_iff (nodup_firstPayloads records)).mp other_eq
  · intro first inFirst second inSecond
    constructor
    · rintro ⟨batch, member, listedFirst, listedSecond⟩
      obtain ⟨payload, -, rfl⟩ := List.mem_map.mp member
      rw [(id_mem_payloadBatch ids inFirst payload).mp listedFirst,
        (id_mem_payloadBatch ids inSecond payload).mp listedSecond]
    · intro same
      exact ⟨_, List.mem_map_of_mem (seen first inFirst),
        (id_mem_payloadBatch ids inFirst _).mpr rfl,
        (id_mem_payloadBatch ids inSecond _).mpr same.symm⟩
  · rw [List.map_map]
    exact firstRecords_sublist json records
  · intro batch member
    obtain ⟨payload, -, rfl⟩ := List.mem_map.mp member
    exact List.filter_sublist.map _

theorem sentBody_of_conserves (ids : (records.map (·.id)).Nodup)
    (conserves : Conserves json records
      ((firstPayloads records).map (sentBatch json records)))
    {record : PendingDeliveryRecord} (inside : record ∈ records) :
    sentBody json record.payload = parsed json record.payload := by
  have listed : (sentBody json record.payload, recordDelivery json record) ∈
      ((firstPayloads records).map (sentBatch json records)).flatMap fun batch =>
        batch.deliveries.map fun delivery => (batch.body, delivery) := by
    rw [List.flatMap_map, List.mem_flatMap]
    refine ⟨record.payload, (mem_firstPayloads records).mpr ⟨record, inside, rfl⟩,
      List.mem_map_of_mem (List.mem_map_of_mem ?_)⟩
    exact List.mem_filter.mpr ⟨inside, beq_self_eq_true record.payload⟩
  obtain ⟨other, there, same⟩ :=
    List.mem_map.mp (conserves.own.mem_iff.mp listed)
  have own : other = record :=
    eq_of_id ids there inside (congrArg (·.2.id) same)
  rw [own] at same
  exact (congrArg Prod.fst same).symm

end Batches

/-- The reader and the writer on two numbers: the first reads as its neighbour,
whose text reads as the next one. -/
def roundingText : JsonText where
  parse text :=
    if text = "6.761866670223123e-10" then
      some (.number "6.761866670223122e-10")
    else if text = "6.761866670223122e-10" then
      some (.number "6.761866670223121e-10")
    else if text = "2" then some (.number "2")
    else none
  print
    | .number text => text
    | _ => ""

def sampleRecord (id : Int) (email payload : String) : PendingDeliveryRecord :=
  ⟨id, "sys-a", email, email, "2", payload, "pending", "2026-01-01 00:00:00"⟩

/-- A list whose first and last records share a payload. -/
def sampleRecords : List PendingDeliveryRecord :=
  [sampleRecord 7 "ann@a.test" "6.761866670223123e-10",
    sampleRecord 8 "bob@a.test" "2",
    sampleRecord 9 "eve@a.test" "6.761866670223123e-10"]

def sampleHash (payload : String) : Int :=
  if payload = "2" then 12 else 11

end PullBatches

end AimailGateway
