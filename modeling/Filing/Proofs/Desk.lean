import Filing.Proofs.Condition.Memory
import Filing.Proofs.Inquiry
import Filing.Proofs.Schema.Cache
import Filing.Proofs.Store.Run

/-!
# Documents in progress do not disturb each other

The memory that documents share answers every question truly, and does so after every answer. So each step of a desk
keeps what its inquiries come to, at whatever place it is made. A document that is finished has come to what it is
classified as alone, and each document is finished once it has had enough turns. Digests must not collide: terms are
kept under the fingerprint of a snapshot.
-/

namespace Filing

variable {known : List Snapshot} {cs : List Configuration}

/-- What a memory may be asked: leaves about known snapshots, and schemas that their text tells. -/
def Query.Among (known : List Snapshot) : Query → Prop
  | .leaf s _ _ => s ∈ known
  | .details _ schema => schema.written = schema

structure Memory.Honest (known : List Snapshot) (m : Memory) : Prop where
  leaves : m.leaves.Honest known
  schemas : ∃ seen, (∀ schema ∈ seen, schema.written = schema) ∧ SchemaCacheOf.Keeps .builtIn m.schemas seen

namespace Memory

theorem honest_empty (known : List Snapshot) : Honest known {} :=
  ⟨LeafMemory.honest_empty known, [], nofun, fun e => by simp [Index.empty]⟩

theorem Honest.answer {m : Memory} (h : m.Honest known) (htold : Snapshot.Told known) {q : Query}
    (hq : q.Among known) : (m.answer q).1 = q.answer ∧ (m.answer q).2.Honest known := by
  cases q with
  | leaf s d l =>
    obtain ⟨hverdict, hleaves⟩ := h.leaves.evaluate htold hq d l
    exact ⟨hverdict, { h with leaves := hleaves }⟩
  | details value schema =>
    obtain ⟨seen, hseen, hkeeps⟩ := h.schemas
    obtain ⟨hentry, hkept⟩ := hkeeps.compile hseen hq
    refine ⟨(congrArg _ hentry).trans (SchemaCacheOf.check_builtIn value schema), { h with schemas := ?_ }⟩
    exact ⟨seen ++ [schema], List.forall_mem_append.mpr ⟨hseen, List.forall_mem_singleton.mpr hq⟩, hkept⟩

end Memory

theorem Inquiry.ComesTo.run {α : Type} {x : Inquiry α} {a : α} (hx : x.ComesTo (Query.Among known) a)
    (htold : Snapshot.Told known) :
    ∀ {m : Memory}, m.Honest known → (x.run m).1 = a ∧ (x.run m).2.Honest known := by
  induction hx with
  | done => exact fun hm => ⟨rfl, hm⟩
  | @ask q next a hq _ ih =>
    intro m hm
    obtain ⟨hanswer, hmemory⟩ := hm.answer htold hq
    have hrun : (Inquiry.ask q next).run m = (next (m.answer q).1).run (m.answer q).2 := rfl
    rw [hrun, hanswer]
    exact ih hmemory

theorem Inquiry.runAll_of_comesTo {α : Type} (htold : Snapshot.Told known) {xs : List (Inquiry α)} {results : List α}
    (h : List.Forall₂ (Inquiry.ComesTo (Query.Among known)) xs results) :
    ∀ {m : Memory}, m.Honest known → (Inquiry.runAll xs m).1 = results ∧ (Inquiry.runAll xs m).2.Honest known := by
  induction h with
  | nil => exact fun hm => ⟨rfl, hm⟩
  | @cons x a xs results hx _ ih =>
    intro m hm
    obtain ⟨hfirst, hmemory⟩ := hx.run htold hm
    obtain ⟨hrest, hhonest⟩ := ih hmemory
    refine ⟨?_, hhonest⟩
    have hall : (Inquiry.runAll (x :: xs) m).1 = (x.run m).1 :: (Inquiry.runAll xs (x.run m).2).1 := rfl
    rw [hall, hfirst, hrest]

/-- What is at a place has a counterpart, and whatever agrees with that may be put there. -/
theorem forall₂_set {α β : Type} {R : α → β → Prop} {xs : List α} {ys : List β} (h : List.Forall₂ R xs ys) :
    ∀ {place : Nat} {x : α}, xs[place]? = some x →
      ∃ y, ys[place]? = some y ∧ R x y ∧ ∀ x', R x' y → List.Forall₂ R (xs.set place x') ys := by
  induction h with
  | nil => nofun
  | @cons _ y _ _ hxy hrest ih =>
    intro place x hx
    cases place with
    | zero =>
      obtain rfl := Option.some.inj hx
      exact ⟨y, rfl, hxy, fun x' hx' => .cons hx' hrest⟩
    | succ place =>
      obtain ⟨z, hz, hrel, hset⟩ := ih hx
      exact ⟨z, hz, hrel, fun x' hx' => .cons hxy (hset x' hx')⟩

namespace Desk
variable {α : Type} {desk : Desk α} {results : List α} {place : Nat}

/-- The memory is honest, and each inquiry comes to the result at its place. -/
structure Leads (known : List Snapshot) (results : List α) (desk : Desk α) : Prop where
  memory : desk.memory.Honest known
  inquiries : List.Forall₂ (Inquiry.ComesTo (Query.Among known)) desk.inquiries results

theorem step_of_ask {q : Query} {next : q.Answer → Inquiry α} (h : desk.inquiries[place]? = some (.ask q next)) :
    desk.step place = ⟨(desk.memory.answer q).2, desk.inquiries.set place (next (desk.memory.answer q).1)⟩ := by
  simp only [step, h]

/-- An inquiry waits at the place, or the step does nothing. -/
theorem step_cases (desk : Desk α) (place : Nat) :
    (∃ q next, desk.inquiries[place]? = some (.ask q next)) ∨ desk.step place = desk := by
  unfold step
  split
  · rename_i q next hplace
    exact .inl ⟨q, next, hplace⟩
  · exact .inr rfl

theorem run_append (places more : List Nat) : desk.run (places ++ more) = (desk.run places).run more :=
  List.foldl_append

theorem inquiries_step_of_ne (desk : Desk α) {other : Nat} (hne : other ≠ place) :
    (desk.step other).inquiries[place]? = desk.inquiries[place]? := by
  rcases desk.step_cases other with ⟨q, next, hother⟩ | hstep
  · rw [step_of_ask hother, List.getElem?_set_ne hne]
  · rw [hstep]

theorem inquiries_run_of_not_mem (desk : Desk α) {places : List Nat} (h : place ∉ places) :
    (desk.run places).inquiries[place]? = desk.inquiries[place]? := by
  induction places generalizing desk with
  | nil => rfl
  | cons other places ih =>
    rw [List.mem_cons, not_or] at h
    exact (ih (desk.step other) h.2).trans (desk.inquiries_step_of_ne (Ne.symm h.1))

theorem run_of_done {a : α} (h : desk.inquiries[place]? = some (.done a)) (places : List Nat) :
    (desk.run places).inquiries[place]? = some (.done a) := by
  induction places generalizing desk with
  | nil => exact h
  | cons other places ih =>
    refine ih ?_
    rcases desk.step_cases other with ⟨q, next, hother⟩ | hstep
    · have hne : other ≠ place := by
        rintro rfl
        rw [h] at hother
        cases hother
      rw [inquiries_step_of_ne desk hne]
      exact h
    · rw [hstep]
      exact h

variable (htold : Snapshot.Told known)
include htold

theorem Leads.step (h : desk.Leads known results) (place : Nat) : (desk.step place).Leads known results := by
  rcases desk.step_cases place with ⟨q, next, hplace⟩ | hstep
  · obtain ⟨a, -, hcomes, hset⟩ := forall₂_set h.inquiries hplace
    cases hcomes with
    | ask hq hnext =>
      obtain ⟨hanswer, hmemory⟩ := h.memory.answer htold hq
      rw [step_of_ask hplace, hanswer]
      exact ⟨hmemory, hset _ hnext⟩
  · rw [hstep]
    exact h

theorem Leads.run (places : List Nat) : ∀ {desk : Desk α}, desk.Leads known results →
    (desk.run places).Leads known results := by
  induction places with
  | nil => exact fun h => h
  | cons place places ih => exact fun h => ih (h.step htold place)

omit htold in
theorem Leads.result (h : desk.Leads known results) {a : α} (ha : desk.results[place]? = some (some a)) :
    results[place]? = some a := by
  rw [Desk.results, List.getElem?_map, Option.map_eq_some_iff] at ha
  obtain ⟨x, hplace, hx⟩ := ha
  obtain ⟨b, hb, hcomes, -⟩ := forall₂_set h.inquiries hplace
  cases hcomes with
  | done =>
    obtain rfl := Option.some.inj hx
    exact hb
  | ask => cases hx

omit htold in
theorem Leads.eq_of_finished (h : desk.Leads known results) {finished : List α}
    (hfinished : desk.results = finished.map some) : finished = results := by
  have hlength : finished.length = results.length := by
    have hsame := congrArg List.length hfinished
    rw [Desk.results, List.length_map, List.length_map, h.inquiries.length_eq] at hsame
    exact hsame.symm
  refine List.ext_getElem? fun place => ?_
  cases hplace : finished[place]? with
  | none =>
    rw [List.getElem?_eq_none_iff, hlength] at hplace
    exact (List.getElem?_eq_none hplace).symm
  | some a =>
    have hdone : desk.results[place]? = some (some a) := by
      rw [hfinished, List.getElem?_map, hplace]
      rfl
    exact (h.result hdone).symm

/-- An inquiry has come to its result as soon as it has had enough turns, whatever is done at other places. -/
theorem exists_turns_of_comesTo {x : Inquiry α} {a : α} (hx : x.ComesTo (Query.Among known) a) :
    ∃ turns, ∀ {desk : Desk α}, desk.Leads known results → desk.inquiries[place]? = some x →
      ∀ places : List Nat, turns ≤ places.count place → (desk.run places).inquiries[place]? = some (.done a) := by
  induction hx with
  | done => exact ⟨0, fun _ hplace places _ => run_of_done hplace places⟩
  | @ask q next a hq _ ih =>
    obtain ⟨turns, hturns⟩ := ih
    refine ⟨turns + 1, fun {desk} h hplace places hcount => ?_⟩
    have hmem : place ∈ places := List.count_pos_iff.mp (Nat.lt_of_lt_of_le (Nat.succ_pos turns) hcount)
    obtain ⟨before, after, rfl, hbefore⟩ := List.eq_append_cons_of_mem hmem
    have hrun := h.run htold before
    have hkept := (inquiries_run_of_not_mem desk hbefore).trans hplace
    have hanswer := (hrun.memory.answer htold hq).1
    have hstep : ((desk.run before).step place).inquiries[place]? = some (next q.answer) := by
      rw [step_of_ask hkept, hanswer]
      exact List.getElem?_set_self (List.getElem?_eq_some_iff.mp hkept).1
    rw [run_append]
    refine hturns (hrun.step htold place) hstep after ?_
    rw [List.count_append, List.count_eq_zero_of_not_mem hbefore, List.count_cons_self] at hcount
    omega

theorem Leads.exists_turns (h : desk.Leads known results) {a : α} (ha : results[place]? = some a) :
    ∃ turns, ∀ places : List Nat, turns ≤ places.count place →
      (desk.run places).results[place]? = some (some a) := by
  have hlt : place < desk.inquiries.length := by
    rw [h.inquiries.length_eq]
    exact (List.getElem?_eq_some_iff.mp ha).1
  have hplace := List.getElem?_eq_getElem hlt
  obtain ⟨b, hb, hcomes, -⟩ := forall₂_set h.inquiries hplace
  obtain rfl := Option.some.inj (ha.symm.trans hb)
  obtain ⟨turns, hturns⟩ := exists_turns_of_comesTo htold hcomes
  refine ⟨turns, fun places hcount => ?_⟩
  rw [Desk.results, List.getElem?_map, hturns h hplace places hcount]
  rfl

end Desk

theorem Snapshot.told_of_built (hfree : CollisionFree cs)
    (hbuilt : ∀ s ∈ known, ∃ c ∈ cs, ∃ stored, Snapshot.build c stored = .ok s) : Snapshot.Told known := by
  intro s hs t ht hfingerprint
  obtain ⟨c, hc, _, hbuildc⟩ := hbuilt s hs
  obtain ⟨d, hd, _, hbuildd⟩ := hbuilt t ht
  rw [← (Snapshot.build_eq_ok_iff.mp hbuildc).fingerprint, ← (Snapshot.build_eq_ok_iff.mp hbuildd).fingerprint]
    at hfingerprint
  exact Snapshot.lexicons_eq_of_canonicalBytes hbuildc hbuildd (hfree c hc d hd hfingerprint)

theorem Snapshot.mayAsk_of_built {c : Configuration} {s : Snapshot} {stored : Option Instant} {id : Int}
    {t : PolicyType} (hplain : c.Plain) (hs : Snapshot.build c stored = .ok s) (ht : s.policyType? id = some t) :
    t.MayAsk (Query.Among known) := by
  intro schema hschema details
  have hmem := (Index.get?_eq_some_iff.mp ht).1
  have htype := (Index.ofDistinct_eq_ok_iff.mp (Snapshot.build_eq_ok_iff.mp hs).policyTypes).2 t |>.mp hmem
  have hwritten := hplain.definitions t htype
  rw [hschema] at hwritten
  exact Option.some.inj hwritten

/-- What a document is classified as where there are no others and nothing is remembered. -/
def Assignment.alone (registry : Registry) (settings : Settings) (a : Assignment) : DocumentResult × List Attempt :=
  (Pipeline.builtIn registry Schema.validate settings).classifyDocument a.snapshot a.sequence a.document

namespace Desk
variable {assignments : List Assignment} (registry : Registry) (settings : Settings)

section Built
variable (hfree : CollisionFree cs) (hplain : ∀ c ∈ cs, c.Plain)
  (hbuilt : ∀ a ∈ assignments, ∃ c ∈ cs, ∃ stored, Snapshot.build c stored = .ok a.snapshot)
include hplain hbuilt

theorem leads_start : (start registry settings assignments).Leads (assignments.map Assignment.snapshot)
    (assignments.map (Assignment.alone registry settings)) := by
  refine ⟨Memory.honest_empty _, ?_⟩
  rw [start, List.forall₂_map_left_iff, List.forall₂_map_right_iff, List.forall₂_same]
  intro a ha
  obtain ⟨c, hc, stored, hbuild⟩ := hbuilt a ha
  have hleaf (l : Leaf) : Query.Among (assignments.map Assignment.snapshot) (.leaf a.snapshot a.document l) :=
    List.mem_map_of_mem ha
  rw [Assignment.alone, Pipeline.classifyDocument_builtIn]
  exact Inquiry.comesTo_ofDocument hleaf (fun _ _ => Snapshot.mayAsk_of_built (hplain c hc) hbuild) registry settings
    a.sequence

include hfree

theorem leads_run (places : List Nat) :
    ((start registry settings assignments).run places).Leads (assignments.map Assignment.snapshot)
        (assignments.map (Assignment.alone registry settings)) ∧
      Snapshot.Told (assignments.map Assignment.snapshot) := by
  have htold : Snapshot.Told (assignments.map Assignment.snapshot) :=
    Snapshot.told_of_built hfree (List.forall_mem_map.mpr hbuilt)
  exact ⟨(leads_start registry settings hplain hbuilt).run htold places, htold⟩

/-- In whatever order documents go on, each one that is finished has come to what it is classified as alone, and each
one that has had enough turns is finished. -/
theorem results_run (places : List Nat) (place : Nat) :
    (∀ r, ((start registry settings assignments).run places).results[place]? = some (some r) →
        ∃ a, assignments[place]? = some a ∧ r = a.alone registry settings) ∧
      ∀ a, assignments[place]? = some a → ∃ turns, ∀ more : List Nat, turns ≤ more.count place →
        ((start registry settings assignments).run (places ++ more)).results[place]? =
          some (some (a.alone registry settings)) := by
  obtain ⟨hleads, htold⟩ := leads_run registry settings hfree hplain hbuilt places
  constructor
  · intro r hr
    have hresult := hleads.result hr
    rw [List.getElem?_map, Option.map_eq_some_iff] at hresult
    obtain ⟨a, ha, rfl⟩ := hresult
    exact ⟨a, ha, rfl⟩
  · intro a ha
    obtain ⟨turns, hturns⟩ := hleads.exists_turns htold (by rw [List.getElem?_map, ha]; rfl)
    refine ⟨turns, fun more hcount => ?_⟩
    rw [run_append]
    exact hturns more hcount

end Built

section Batch
variable {s : Snapshot} {c : Configuration} {stored : Option Instant} (hplain : c.Plain)
  (hs : Snapshot.build c stored = .ok s) (q : Sequence) (documents : List Document)
include hplain hs

theorem leads_run_batch (places : List Nat) :
    let assignments := documents.map (Assignment.mk s q)
    ((start registry settings assignments).run places).Leads (assignments.map Assignment.snapshot)
        ((Pipeline.builtIn registry Schema.validate settings).classifyAll s q false
          (documents.map fun d => (d, false))) ∧
      Snapshot.Told (assignments.map Assignment.snapshot) := by
  intro assignments
  have hbuilt : ∀ a ∈ assignments, ∃ c' ∈ [c], ∃ stored, Snapshot.build c' stored = .ok a.snapshot :=
    List.forall_mem_map.mpr fun d _ => ⟨c, List.mem_singleton_self c, stored, hs⟩
  have hfree : CollisionFree [c] := by
    rintro c hc d hd -
    rw [List.mem_singleton.mp hc, List.mem_singleton.mp hd]
  have halone : assignments.map (Assignment.alone registry settings) =
      documents.map ((Pipeline.builtIn registry Schema.validate settings).classifyDocument s q) := List.map_map
  rw [Pipeline.classifyAll_of_uncancelled, ← halone]
  exact leads_run registry settings hfree (List.forall_mem_singleton.mpr hplain) hbuilt places

/-- The documents of a batch that is not cancelled are classified as without a memory, however they go on. -/
theorem results_run_batch (places : List Nat) {finished : List (DocumentResult × List Attempt)}
    (hfinished : ((start registry settings (documents.map (Assignment.mk s q))).run places).results =
      finished.map some) :
    finished = (Pipeline.builtIn registry Schema.validate settings).classifyAll s q false
      (documents.map fun d => (d, false)) :=
  (leads_run_batch registry settings hplain hs q documents places).1.eq_of_finished hfinished

theorem runAll_batch :
    (Inquiry.runAll (documents.map (Inquiry.ofDocument registry settings s q)) {}).1 =
      (Pipeline.builtIn registry Schema.validate settings).classifyAll s q false
        (documents.map fun d => (d, false)) := by
  obtain ⟨hleads, htold⟩ := leads_run_batch registry settings hplain hs q documents []
  have hinquiries : (start registry settings (documents.map (Assignment.mk s q))).inquiries =
      documents.map (Inquiry.ofDocument registry settings s q) := List.map_map
  rw [← hinquiries]
  exact (Inquiry.runAll_of_comesTo htold hleads.inquiries hleads.memory).1

end Batch

def rulesAbout (term : String) : Snapshot where
  fingerprint := term
  persisted := none
  lastModified := none
  sequences := .empty
  collections := .ofList [⟨1, "term", none, .leaf ⟨"subject", .lexicon 1 false⟩, .empty⟩]
  conditions := .empty
  fieldLabels := .empty
  lexicons := .ofList [⟨1, "terms", [term]⟩]
  policies := .empty
  policyTypes := .empty

/-- Two versions are in use at the same time, and the terms of one push out those of the other. -/
example :
    let letter : Document := { Document.new "a" with fields := .ofList [("subject", ["tax for March"])] }
    let twice := ["tax", "rent"].map fun term =>
      Assignment.mk (rulesAbout term) ⟨1, "terms", none, [⟨1, false, .ofList [1], none⟩]⟩ letter
    ((start .defaults {} twice).run [1, 0]).results.map
      (Option.map fun r => r.1.matched.items) = [some [1], some []] := by
  decide +kernel

end Desk

end Filing
