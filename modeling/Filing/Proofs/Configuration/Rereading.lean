import Filing.Configuration.Json
import Filing.Configuration.Reading
import Filing.Document
import Filing.Fingerprint
import Filing.Proofs.Condition.Rereading

/-!
# Configurations and documents read again

A record may be read from an object with its members in any order and with others among them, or from an array, and
its defaults may be left out. It is written with all of its parts in order. What has been written reads the same.
-/

namespace Filing

open Node

theorem IdSet.stable : Stable IdSet.read? fun s => .ints s.items := by
  intro v s hv h
  obtain ⟨xs, hxs, rfl⟩ := Option.map_eq_some_iff.mp h
  have hids : ∀ n ∈ (Index.ofList xs : IdSet).items, (Json.int n).Proper ∧ id? (ofJson (.int n)) = some n := by
    intro n hn
    obtain ⟨w, hw, hread⟩ := exists_of_list? hv hxs n (Index.mem_of_mem_ofList hn)
    exact stable_id w n hw hread
  obtain ⟨hproper, hread⟩ := list?_map hids
  refine ⟨hproper, ?_⟩
  unfold IdSet.read? Json.ints
  rw [hread, Option.map_some, Index.ofList_items]

theorem IdSet.stable_orEmpty : StablePart (withDefault IdSet.read? .empty) fun s => some (.ints s.items) :=
  IdSet.stable.withDefault Json.Proper.empty rfl

def Entry.slots : List (Slot Entry) :=
  [.of "order" (required rank?) (some <| .int ·) order,
    .of "stop_on_match" (withDefault bool? false) (some <| .bool ·) stopOnMatch,
    .of "collection_ids" (required IdSet.read?) (some <| .ints ·.items) collectionIds,
    .of "default_collection_id" (withDefault (optional? id?) none) (·.map .int) defaultCollectionId]

theorem Entry.isRecord : IsRecord Entry.slots Entry.read? Entry.toJson where
  nodup := by decide
  read_iff := read_iff_of_make (fun _ => rfl) fun parts e h => by
    match parts, h with
    | [order, stopOnMatch, collectionIds, defaultCollectionId], _ =>
      cases e
      simp [slots, Slot.of, Option.bind_eq_some_iff, -Bool.exists_bool]
  write_eq e := by
    unfold toJson
    cases h : e.defaultCollectionId <;> simp [Json.present, Json.optionalMember, slots, Slot.of, h]

theorem Entry.stable : Stable Entry.read? Entry.toJson :=
  isRecord.stable fun e => by
    simp only [slots, List.forall_mem_cons]
    exact ⟨stable_rank.required.keeps e, stable_bool_orFalse.keeps e, IdSet.stable.required.keeps e,
      stable_optional_id.keeps e, nofun⟩

def Sequence.slots : List (Slot Sequence) :=
  [.of "id" (required id?) (some <| .int ·) id,
    .of "name" (required text?) (some <| .string ·) name,
    .of "description" (withDefault (optional? text?) none) (·.map .string) description,
    .of "entries" (withDefault (list? Entry.read?) []) (some <| .array <| ·.map Entry.toJson) entries]

theorem Sequence.isRecord : IsRecord Sequence.slots Sequence.read? Sequence.toJson where
  nodup := by decide
  read_iff := read_iff_of_make (fun _ => rfl) fun parts q h => by
    match parts, h with
    | [id, name, description, entries], _ =>
      cases q
      simp [slots, Slot.of, Option.bind_eq_some_iff]
  write_eq q := by
    unfold toJson
    cases h : q.description <;> simp [Json.present, Json.optionalMember, slots, Slot.of, h]

theorem Sequence.stable : Stable Sequence.read? Sequence.toJson :=
  isRecord.stable fun q => by
    simp only [slots, List.forall_mem_cons]
    exact ⟨stable_id.required.keeps q, stable_text.required.keeps q, stable_optional_text.keeps q,
      Entry.stable.orEmpty.keeps q, nofun⟩

def Collection.slots : List (Slot Collection) :=
  [.of "id" (required id?) (some <| .int ·) id,
    .of "name" (required text?) (some <| .string ·) name,
    .of "description" (withDefault (optional? text?) none) (·.map .string) description,
    .of "condition" (required Condition.read?) (some ·.toJson) condition,
    .of "policy_ids" (withDefault IdSet.read? .empty) (some <| .ints ·.items) policyIds]

theorem Collection.isRecord : IsRecord Collection.slots Collection.read? Collection.toJson where
  nodup := by decide
  read_iff := read_iff_of_make (fun _ => rfl) fun parts c h => by
    match parts, h with
    | [id, name, description, condition, policyIds], _ =>
      cases c
      simp [slots, Slot.of, Option.bind_eq_some_iff]
  write_eq c := by
    unfold toJson
    cases h : c.description <;> simp [Json.present, Json.optionalMember, slots, Slot.of, h]

theorem Collection.stable : Stable Collection.read? Collection.toJson :=
  isRecord.stable fun c => by
    simp only [slots, List.forall_mem_cons]
    exact ⟨stable_id.required.keeps c, stable_text.required.keeps c, stable_optional_text.keeps c,
      Condition.stable_condition.required.keeps c, IdSet.stable_orEmpty.keeps c, nofun⟩

def SharedCondition.slots : List (Slot SharedCondition) :=
  [.of "id" (required id?) (some <| .int ·) id,
    .of "name" (withDefault text? "") (some <| .string ·) name,
    .of "condition" (required Condition.read?) (some ·.toJson) condition]

theorem SharedCondition.isRecord : IsRecord SharedCondition.slots SharedCondition.read? SharedCondition.toJson where
  nodup := by decide
  read_iff := read_iff_of_make (fun _ => rfl) fun parts c h => by
    match parts, h with
    | [id, name, condition], _ =>
      cases c
      simp [slots, Slot.of, Option.bind_eq_some_iff]
  write_eq _ := rfl

theorem SharedCondition.stable : Stable SharedCondition.read? SharedCondition.toJson :=
  isRecord.stable fun c => by
    simp only [slots, List.forall_mem_cons]
    exact ⟨stable_id.required.keeps c, stable_text_orEmpty.keeps c, Condition.stable_condition.required.keeps c, nofun⟩

def FieldLabel.slots : List (Slot FieldLabel) :=
  [.of "name" (required text?) (some <| .string ·) name,
    .of "fields" (required (list? text?)) (some <| .strings ·) fields]

theorem FieldLabel.isRecord : IsRecord FieldLabel.slots FieldLabel.read? FieldLabel.toJson where
  nodup := by decide
  read_iff := read_iff_of_make (fun _ => rfl) fun parts l h => by
    match parts, h with
    | [name, fields], _ =>
      cases l
      simp [slots, Slot.of, Option.bind_eq_some_iff]
  write_eq _ := rfl

theorem FieldLabel.stable : Stable FieldLabel.read? FieldLabel.toJson :=
  isRecord.stable fun l => by
    simp only [slots, List.forall_mem_cons]
    exact ⟨stable_text.required.keeps l, stable_texts.required.keeps l, nofun⟩

def Lexicon.slots : List (Slot Lexicon) :=
  [.of "id" (required id?) (some <| .int ·) id,
    .of "name" (withDefault text? "") (some <| .string ·) name,
    .of "terms" (withDefault (list? text?) []) (some <| .strings ·) terms]

theorem Lexicon.isRecord : IsRecord Lexicon.slots Lexicon.read? Lexicon.toJson where
  nodup := by decide
  read_iff := read_iff_of_make (fun _ => rfl) fun parts l h => by
    match parts, h with
    | [id, name, terms], _ =>
      cases l
      simp [slots, Slot.of, Option.bind_eq_some_iff]
  write_eq _ := rfl

theorem Lexicon.stable : Stable Lexicon.read? Lexicon.toJson :=
  isRecord.stable fun l => by
    simp only [slots, List.forall_mem_cons]
    exact ⟨stable_id.required.keeps l, stable_text_orEmpty.keeps l, stable_texts_orEmpty.keeps l, nofun⟩

def Policy.slots : List (Slot Policy) :=
  [.of "id" (required id?) (some <| .int ·) id,
    .of "name" (withDefault text? "") (some <| .string ·) name,
    .of "description" (withDefault (optional? text?) none) (·.map .string) description,
    .of "type_id" (required id?) (some <| .int ·) typeId,
    .of "priority" (withDefault rank? 0) (some <| .int ·) priority,
    .of "details" (withDefault json? .null) some details]

theorem Policy.isRecord : IsRecord Policy.slots Policy.read? Policy.toJson where
  nodup := by decide
  read_iff := read_iff_of_make (fun _ => rfl) fun parts p h => by
    match parts, h with
    | [id, name, description, typeId, priority, details], _ =>
      cases p
      simp [slots, Slot.of, Option.bind_eq_some_iff]
  write_eq p := by
    unfold toJson
    cases h : p.description <;> simp [Json.present, Json.optionalMember, slots, Slot.of, h]

theorem Policy.stable : Stable Policy.read? Policy.toJson :=
  isRecord.stable fun p => by
    simp only [slots, List.forall_mem_cons]
    exact ⟨stable_id.required.keeps p, stable_text_orEmpty.keeps p, stable_optional_text.keeps p,
      stable_id.required.keeps p, stable_rank_orZero.keeps p, stable_json_orNull.keeps p, nofun⟩

def PolicyType.slots : List (Slot PolicyType) :=
  [.of "id" (required id?) (some <| .int ·) id,
    .of "short_name" (required text?) (some <| .string ·) shortName,
    .of "name" (withDefault text? "") (some <| .string ·) name,
    .of "description" (withDefault (optional? text?) none) (·.map .string) description,
    .of "definition" (withDefault (optional? json?) none) (fun x => x) definition,
    .of "handler" (required text?) (some <| .string ·) handler]

theorem PolicyType.isRecord : IsRecord PolicyType.slots PolicyType.read? PolicyType.toJson where
  nodup := by decide
  read_iff := read_iff_of_make (fun _ => rfl) fun parts t h => by
    match parts, h with
    | [id, shortName, name, description, definition, handler], _ =>
      cases t
      simp [slots, Slot.of, Option.bind_eq_some_iff]
  write_eq t := by
    unfold toJson
    cases hdescription : t.description <;> cases hdefinition : t.definition <;>
      simp [Json.present, Json.optionalMember, slots, Slot.of, hdescription, hdefinition]

theorem PolicyType.stable : Stable PolicyType.read? PolicyType.toJson :=
  isRecord.stable fun t => by
    simp only [slots, List.forall_mem_cons]
    exact ⟨stable_id.required.keeps t, stable_text.required.keeps t, stable_text_orEmpty.keeps t,
      stable_optional_text.keeps t, stable_optional_json.keeps t, stable_text.required.keeps t, nofun⟩

namespace Document

theorem readValues?_strings (vs : List String) : readValues? (ofJson (.strings vs)) = some vs := by
  have htexts : list? text? (ofJson (.strings vs)) = some vs := (list?_map fun s _ => ⟨.string s, rfl⟩).2
  rw [readValues?, settle_ofJson]
  exact htexts

theorem stable_fields : Stable readFields? fieldsJson := by
  intro v fields hv h
  refine ⟨.object fun m hm => ?_, ?_⟩
  · obtain ⟨f, -, rfl⟩ := List.mem_map.mp hm
    exact .strings f.2
  · have hmembers : (ofJson (fieldsJson fields)).members? =
        some (fields.items.map fun f => (f.1, ofJson (.strings f.2))) := by
      rw [fieldsJson, members?_ofJson, List.map_map]
      rfl
    have hvalues : (fields.items.map fun f => (f.1, ofJson (.strings f.2))).mapM
        (fun m => (readValues? m.2).map (m.1, ·)) = some fields.items := by
      refine mapM_eq_some fun f hf => ?_
      rw [readValues?_strings]
      rfl
    unfold readFields?
    rw [hmembers]
    simp only [Option.bind_eq_bind, Option.bind_some, hvalues, Index.ofList_items]
    rfl

theorem stable_fields_orEmpty : StablePart (withDefault readFields? .empty) fun fields => some (fieldsJson fields) :=
  stable_fields.withDefault Json.Proper.empty_object rfl

def slots : List (Slot Document) :=
  [.of "reference" (withDefault text? "") (some <| .string ·) reference,
    .of "fields" (withDefault readFields? .empty) (some <| fieldsJson ·) fields]

theorem isRecord : IsRecord slots Document.read? toJson where
  nodup := by decide
  read_iff := read_iff_of_make (fun _ => rfl) fun parts d h => by
    match parts, h with
    | [reference, fields], _ =>
      cases d
      simp [slots, Slot.of, Option.bind_eq_some_iff]
  write_eq _ := rfl

theorem stable : Stable Document.read? Document.toJson :=
  isRecord.stable fun d => by
    simp only [slots, List.forall_mem_cons]
    exact ⟨stable_text_orEmpty.keeps d, stable_fields_orEmpty.keeps d, nofun⟩

end Document

namespace Configuration

def slots : List (Slot Configuration) :=
  [.of "last_modified" (withDefault (optional? Instant.read?) none) (·.map fun t => .string t.text) lastModified,
    .of "sequences" (withDefault (list? Sequence.read?) []) (some <| .array <| ·.map Sequence.toJson) sequences,
    .of "collections" (withDefault (list? Collection.read?) []) (some <| .array <| ·.map Collection.toJson)
      collections,
    .of "conditions" (withDefault (list? SharedCondition.read?) []) (some <| .array <| ·.map SharedCondition.toJson)
      conditions,
    .of "field_labels" (withDefault (list? FieldLabel.read?) []) (some <| .array <| ·.map FieldLabel.toJson)
      fieldLabels,
    .of "lexicons" (withDefault (list? Lexicon.read?) []) (some <| .array <| ·.map Lexicon.toJson) lexicons,
    .of "policies" (withDefault (list? Policy.read?) []) (some <| .array <| ·.map Policy.toJson) policies,
    .of "policy_types" (withDefault (list? PolicyType.read?) []) (some <| .array <| ·.map PolicyType.toJson)
      policyTypes]

theorem isRecord : IsRecord slots Configuration.read? toJson where
  nodup := by decide
  read_iff := read_iff_of_make (fun _ => rfl) fun parts c h => by
    match parts, h with
    | [lastModified, sequences, collections, conditions, fieldLabels, lexicons, policies, policyTypes], _ =>
      cases c
      simp [slots, Slot.of, Option.bind_eq_some_iff]
  write_eq c := by
    unfold toJson
    cases h : c.lastModified <;> simp [Json.present, Json.optionalMember, slots, Slot.of, h]

theorem read_lastModified {date : Option Instant}
    (h : ∀ t, date = some t → Instant.ofText? t.text.toList = some t) :
    (∀ w ∈ date.map fun t => Json.string t.text, w.Proper) ∧
      withDefault (optional? Instant.read?) none ((date.map fun t => Json.string t.text).map ofJson) = some date := by
  cases date with
  | none => exact ⟨fun w hw => absurd hw (Option.not_mem_none w), rfl⟩
  | some t =>
    refine ⟨fun w hw => ?_, ?_⟩
    · obtain rfl := Option.some.inj hw
      exact .string _
    · have hread : Instant.read? (ofJson (.string t.text)) = some t := by
        rw [Instant.read?, ofJson, text?, Option.bind_some]
        exact h t rfl
      have htext : Json.string t.text ≠ .null := by simp
      simp only [Option.map_some, withDefault, optional?_ofJson htext, hread]

theorem read_toJson {v : Json} {c : Configuration} (hv : v.Proper) (h : read? (ofJson v) = some c)
    (hdate : ∀ t, c.lastModified = some t → Instant.ofText? t.text.toList = some t) :
    c.toJson.Proper ∧ read? (ofJson c.toJson) = some c := by
  refine isRecord.read_write ?_ hv h
  simp only [slots, List.forall_mem_cons]
  exact ⟨fun _ _ _ => read_lastModified hdate, Sequence.stable.orEmpty.keeps c, Collection.stable.orEmpty.keeps c,
    SharedCondition.stable.orEmpty.keeps c, FieldLabel.stable.orEmpty.keeps c, Lexicon.stable.orEmpty.keeps c,
    Policy.stable.orEmpty.keeps c, PolicyType.stable.orEmpty.keeps c, nofun⟩

/-- What a value says as a configuration or as a list of documents, it says again when it has been read and written.
The date of a configuration has to be such that its text is read as it. -/
theorem read_written {v : Json} (hv : v.Proper) :
    (∀ c, read? (ofJson v) = some c → (∀ t, c.lastModified = some t → Instant.ofText? t.text.toList = some t) →
        read? (ofJson c.toJson.written) = some c ∧
          ∀ c', read? (ofJson c.toJson.written) = some c' → c'.fingerprint = c.fingerprint) ∧
      ∀ ds, Document.readList? (ofJson v) = some ds →
        Document.readList? (ofJson (Json.array (ds.map Document.toJson)).written) = some ds := by
  constructor
  · intro c h hdate
    obtain ⟨hproper, hread⟩ := read_toJson hv h hdate
    rw [hproper.written_eq, hread]
    refine ⟨rfl, fun c' hc' => ?_⟩
    rw [Option.some.inj hc']
  · intro ds h
    obtain ⟨hproper, hread⟩ := Document.stable.list v ds hv h
    rw [hproper.written_eq]
    exact hread

def mixedRules : Json :=
  .object [
    ("policies", .array [.object [("details", .object [("b", .int 1), ("a", .null), ("b", .double ⟨0⟩)]),
      ("type_id", .int 10), ("unknown", .bool true), ("id", .int 3)]]),
    ("collections", .array [
      .array [.int 1, .string "large", .null, .object [("operator", .string "ge"), ("value", .int 5),
        ("type", .string "number"), ("field", .string "pages")]],
      .object [("name", .string "any"), ("policy_ids", .ints [3, 1, 3]), ("id", .int 2),
        ("condition", .object [("type", .string "or"), ("conditions", .array [
          .array [.string "reference", .int 7], .object [("type", .string "text"), ("value", .string "x"),
            ("field", .string "title")]])])]]),
    ("last_modified", .string "2024-5-01 10:30:00.5 +02:00")]

def mixedDocuments : Json :=
  .array [.object [("fields", .object [("title", .string "a"), ("kind", .strings ["b", "c"])])],
    .array [.string "second", .object [("kind", .strings [])]]]

theorem read_written_of_mixed :
    (∃ c, read? (ofJson mixedRules) = some c ∧ c.lastModified.isSome = true ∧
        c.collections.map Collection.policyIds = [.empty, .ofList [1, 3]] ∧
        read? (ofJson c.toJson.written) = some c) ∧
      ∃ ds, Document.readList? (ofJson mixedDocuments) = some ds ∧
        ds.map (Document.values · "kind") = [["b", "c"], []] ∧
        Document.readList? (ofJson (Json.array (ds.map Document.toJson)).written) = some ds := by
  constructor
  · have hproper : mixedRules.Proper := Json.proper_of_isProper _ (by decide)
    obtain ⟨c, hc⟩ : ∃ c, read? (ofJson mixedRules) = some c := Option.isSome_iff_exists.mp (by decide +kernel)
    have hseen : (read? (ofJson mixedRules)).all (fun c => c.lastModified.isSome &&
        c.lastModified.all (fun t => Instant.ofText? t.text.toList = some t) &&
        c.collections.map Collection.policyIds = [.empty, .ofList [1, 3]]) = true := by
      decide +kernel
    simp only [hc, Option.all_some, Bool.and_eq_true, decide_eq_true_eq] at hseen
    obtain ⟨⟨hsome, hdate⟩, hids⟩ := hseen
    have hdate : ∀ t, c.lastModified = some t → Instant.ofText? t.text.toList = some t := by
      intro t ht
      rw [ht] at hdate
      simpa using hdate
    exact ⟨c, hc, hsome, hids, ((read_written hproper).1 c hc hdate).1⟩
  · have hproper : mixedDocuments.Proper := Json.proper_of_isProper _ (by decide)
    obtain ⟨ds, hds⟩ : ∃ ds, Document.readList? (ofJson mixedDocuments) = some ds :=
      Option.isSome_iff_exists.mp (by decide +kernel)
    have hseen : (Document.readList? (ofJson mixedDocuments)).all (fun ds =>
        ds.map (Document.values · "kind") = [["b", "c"], []]) = true := by
      decide +kernel
    simp only [hds, Option.all_some, decide_eq_true_eq] at hseen
    exact ⟨ds, hds, hseen, (read_written hproper).2 ds hds⟩

end Configuration

end Filing
