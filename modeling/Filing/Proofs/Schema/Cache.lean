import Filing.Proofs.Index
import Filing.Proofs.Json.Text
import Filing.Schema.Checking
import Mathlib.Data.List.Dedup
import Mathlib.Data.List.Induction

/-!
# A cache that is not noticed

After any calls a cache holds what compiling each of their schemas gives, under the text of the schema. The text of
a schema is that of no other one, as long as all doubles are finite. So every answer is that of a cache without
entries, and there are as many entries as there are texts.
-/

namespace Filing

structure SchemaCall where
  details : Json
  schema : Json

namespace SchemaCacheOf
variable {σ : Type} {library : SchemaLibrary σ} {cache : SchemaCacheOf σ} {schemas : List Json} {schema : Json}

def after (library : SchemaLibrary σ) (calls : List SchemaCall) : SchemaCacheOf σ :=
  calls.foldl (fun cache call => (validate library cache call.details call.schema).2) .empty

theorem after_append_singleton (calls : List SchemaCall) (call : SchemaCall) :
    after library (calls ++ [call]) = (validate library (after library calls) call.details call.schema).2 := by
  simp only [after, List.foldl_append, List.foldl_cons, List.foldl_nil]

/-- The entries of the cache are those of the schemas, each under the text of its schema. -/
def Keeps (library : SchemaLibrary σ) (cache : SchemaCacheOf σ) (schemas : List Json) : Prop :=
  ∀ e, e ∈ cache.items ↔ ∃ s ∈ schemas, e = (s.text, library.entry s)

theorem Keeps.of_get? (h : Keeps library cache schemas) (hschemas : ∀ s ∈ schemas, s.written = s)
    (hschema : schema.written = schema) {e : String × Except String σ} (he : cache.get? schema.text = some e) :
    schema ∈ schemas ∧ e = (schema.text, library.entry schema) := by
  obtain ⟨hmem, hkey⟩ := Index.get?_eq_some_iff.mp he
  obtain ⟨s, hs, rfl⟩ := (h e).mp hmem
  obtain rfl := (Json.text_inj (hschemas s hs) hschema).mp hkey
  exact ⟨hs, rfl⟩

/-- Compiling or not, the cache finds what compiling gives, and keeps it. -/
theorem Keeps.compile (h : Keeps library cache schemas) (hschemas : ∀ s ∈ schemas, s.written = s)
    (hschema : schema.written = schema) :
    (compile library cache schema).1 = library.entry schema ∧
      Keeps library (compile library cache schema).2 (schemas ++ [schema]) := by
  unfold SchemaCacheOf.compile
  cases hget : cache.get? schema.text with
  | some e =>
    obtain ⟨hmem, rfl⟩ := h.of_get? hschemas hschema hget
    refine ⟨rfl, fun e => (h e).trans ?_⟩
    have hsame (s : Json) : s ∈ schemas ++ [schema] ↔ s ∈ schemas := by
      rw [List.mem_append, List.mem_singleton, or_iff_left_of_imp]
      rintro rfl
      exact hmem
    simp only [hsame]
  | none =>
    refine ⟨rfl, fun e => ?_⟩
    have hnew : cache.contains (Prod.fst (schema.text, library.entry schema)) = false := by
      rw [Index.contains, hget, Option.isSome_none]
    refine (Index.mem_insert_of_not_contains hnew).trans ?_
    rw [h e]
    simp [or_and_right, exists_or, or_comm]

theorem keeps_after (library : SchemaLibrary σ) (calls : List SchemaCall)
    (hcalls : ∀ call ∈ calls, call.schema.written = call.schema) :
    Keeps library (after library calls) (calls.map SchemaCall.schema) := by
  induction calls using List.reverseRecOn with
  | nil => exact fun e => by simp [after, Index.empty]
  | append_singleton calls call ih =>
    rw [List.forall_mem_append] at hcalls
    obtain ⟨hcalls, hcall⟩ := hcalls
    rw [after_append_singleton, List.map_append]
    exact ((ih hcalls).compile (List.forall_mem_map.mpr hcalls) (hcall call (List.mem_singleton_self call))).2

theorem errors_after (calls : List SchemaCall) (hcalls : ∀ call ∈ calls, call.schema.written = call.schema)
    (details : Json) (hschema : schema.written = schema) :
    (validate library (after library calls) details schema).1 = library.check details (library.entry schema) := by
  have hkeeps := keeps_after library calls hcalls
  have hentry := (hkeeps.compile (List.forall_mem_map.mpr hcalls) hschema).1
  exact congrArg (library.check details) hentry

theorem check_builtIn (details schema : Json) :
    SchemaLibrary.builtIn.check details (SchemaLibrary.builtIn.entry schema) = Schema.validate details schema := by
  simp only [SchemaLibrary.entry, SchemaLibrary.builtIn, Schema.validate]
  cases Schema.compile? schema <;> rfl

/-- Each schema has an entry, which is what compiling it gives. No entry could be that of another schema, and there
are as many entries as texts. -/
structure Remembers (library : SchemaLibrary σ) (cache : SchemaCacheOf σ) (schemas : List Json) : Prop where
  found : ∀ s ∈ schemas, cache.get? s.text = some (s.text, library.entry s)
  unshared : ∀ e ∈ cache.items, ∃ s ∈ schemas, s.text = e.1 ∧ ∀ t : Json, t.written = t → t.text = e.1 → t = s
  size : cache.size = (schemas.map Json.text).dedup.length

theorem Keeps.remembers (h : Keeps library cache schemas) (hschemas : ∀ s ∈ schemas, s.written = s) :
    Remembers library cache schemas := by
  refine ⟨fun s hs => ?_, fun e he => ?_, ?_⟩
  · exact Index.get?_eq_some_iff.mpr ⟨(h _).mpr ⟨s, hs, rfl⟩, rfl⟩
  · obtain ⟨s, hs, rfl⟩ := (h e).mp he
    exact ⟨s, hs, rfl, fun t ht htext => (Json.text_inj ht (hschemas s hs)).mp htext⟩
  · have hmem (text : String) : text ∈ cache.items.map Prod.fst ↔ text ∈ (schemas.map Json.text).dedup := by
      simp only [List.mem_dedup, List.mem_map, h _]
      constructor
      · rintro ⟨_, ⟨s, hs, rfl⟩, rfl⟩
        exact ⟨s, hs, rfl⟩
      · rintro ⟨s, hs, rfl⟩
        exact ⟨_, ⟨s, hs, rfl⟩, rfl⟩
    have hperm := (List.perm_ext_iff_of_nodup cache.keys_nodup (List.nodup_dedup _)).mpr hmem
    calc cache.size = (cache.items.map Prod.fst).length := (List.length_map Prod.fst).symm
      _ = (schemas.map Json.text).dedup.length := hperm.length_eq

/-- Whatever a cache has been used for, it answers as a cache without entries does, and it remembers the schemas of all
calls: two schemas never have one entry, and there is an entry for each text that was seen, compiled or not. The
doubles in the schemas are finite, as they are in all that was read. -/
theorem validate_after (library : SchemaLibrary σ) (calls : List SchemaCall) (call : SchemaCall)
    (hcalls : ∀ c ∈ calls ++ [call], c.schema.written = c.schema) :
    (validate library (after library calls) call.details call.schema).1 =
        (validate library .empty call.details call.schema).1 ∧
      Remembers library (after library (calls ++ [call])) ((calls ++ [call]).map SchemaCall.schema) := by
  refine ⟨?_, (keeps_after library _ hcalls).remembers (List.forall_mem_map.mpr hcalls)⟩
  rw [List.forall_mem_append, List.forall_mem_singleton] at hcalls
  exact errors_after calls hcalls.1 call.details hcalls.2

def mixed : List SchemaCall := [
  ⟨.null, .object [("type", .int 12)]⟩,
  ⟨.int 2, .object [("maximum", .int 1)]⟩,
  ⟨.int 2, .object [("type", .int 12)]⟩]

theorem validate_after_mixed :
    let call : SchemaCall := ⟨.int 2, .object [("maximum", .double (.ofInt 1))]⟩
    (∀ c ∈ mixed ++ [call], c.schema.written = c.schema) ∧
      (validate .builtIn (after .builtIn mixed) call.details call.schema).1 =
        ["2 is greater than the maximum of 1.0 at ''"] ∧
      Remembers .builtIn (after .builtIn (mixed ++ [call])) ((mixed ++ [call]).map SchemaCall.schema) ∧
      (after .builtIn (mixed ++ [call])).size = 3 := by
  intro call
  have hcalls : ∀ c ∈ mixed ++ [call], c.schema.written = c.schema := by decide +kernel
  obtain ⟨herrors, hremembers⟩ := validate_after .builtIn mixed call hcalls
  refine ⟨hcalls, herrors.trans ?_, hremembers, hremembers.size.trans ?_⟩
  · decide +kernel
  · decide +kernel

end SchemaCacheOf

end Filing
