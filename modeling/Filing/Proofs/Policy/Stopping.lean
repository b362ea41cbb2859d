import Filing.Proofs.Policy.Stage

/-!
# Handlers that stop

Any handlers may be bound, as long as each of them resolves policies by priority. As long as none of them stops,
the application goes through all visits, whatever fails on the way. With the first policy whose handler stops it
is over: that policy is the last one that is applied, nothing is called or told of any later one, and nothing
would be different if all the later ones were others.
-/

namespace Filing

/-- The order in which policies are applied: by their types, and within a type by their identifiers. -/
def Policy.Before (p q : Policy) : Prop := p.typeId < q.typeId ∨ p.typeId = q.typeId ∧ p.id < q.id

theorem Policy.before_irrefl (p : Policy) : ¬ p.Before p := by
  rintro (h | ⟨-, h⟩)
  · exact Int.lt_irrefl _ h
  · exact Int.lt_irrefl _ h

theorem Policy.Before.asymm {p q : Policy} (h : p.Before q) : ¬ q.Before p := by
  unfold Before at h ⊢
  omega

namespace Registry

def Binds (r : Registry) (t : PolicyType) : Prop := (r.handler? t.handler).isSome = true

instance (r : Registry) : DecidablePred r.Binds := fun t =>
  inferInstanceAs (Decidable ((r.handler? t.handler).isSome = true))

def ResolvesByPriority (r : Registry) : Prop :=
  ∀ binding h, r.handler? binding = some h → ∀ d policies, h.resolve d policies = Policy.resolve policies

variable {r : Registry} {t : PolicyType}

theorem exists_of_binds (h : r.Binds t) : ∃ handler, r.handler? t.handler = some handler :=
  Option.isSome_iff_exists.mp h

theorem handler?_of_not_binds (h : ¬ r.Binds t) : r.handler? t.handler = none := by
  unfold Binds at h
  simpa using h

theorem handlerFor_of_some {handler : Handler} (h : r.handler? t.handler = some handler) :
    r.handlerFor t = .ok handler := by
  simp only [handlerFor, h]

theorem handlerFor_of_none (h : r.handler? t.handler = none) :
    r.handlerFor t = .error (.handlerNotFound t.handler) := by
  simp only [handlerFor, h]

theorem handler?_bind {binding name : String} {h handler : Handler}
    (he : (r.bind binding h).handler? name = some handler) : handler = h ∨ r.handler? name = some handler := by
  rw [handler?, bind, Index.get?_insert] at he
  by_cases hname : name = binding
  · rw [if_pos hname] at he
    exact .inl (Option.some.inj he).symm
  · rw [if_neg hname] at he
    exact .inr he

theorem ResolvesByPriority.register (hr : r.ResolvesByPriority) {h : Handler}
    (hresolve : ∀ d policies, h.resolve d policies = Policy.resolve policies) :
    (r.register h).ResolvesByPriority := by
  intro name handler he
  rcases handler?_bind he with rfl | he
  · exact hresolve
  · exact hr name handler he

theorem defaults_resolvesByPriority : defaults.ResolvesByPriority := by
  have hempty : ResolvesByPriority .empty := fun _ _ he => nomatch he
  exact (hempty.register fun _ _ => rfl).register fun _ _ => rfl

end Registry

def Visit.Binding (r : Registry) : Visit → Prop
  | .unbound t => ¬ r.Binds t
  | .attempt t _ => r.Binds t

namespace Application

def called (a : Application) (t : PolicyType) (p : Policy) (sequence : Int) : Application :=
  { a with attempts := a.attempts ++ [Attempt.mk t.handler p.id sequence] }

variable (registry : Registry) (validator : Validator) (sequence : Int)

inductive Continues (a : Application) : Visit → Application → Prop where
  | unbound {t : PolicyType} (missing : registry.handler? t.handler = none) :
      Continues a (.unbound t) (a.report (.policyType t.id) (.handlerNotFound t.handler))
  | invalid {t : PolicyType} {p : Policy} {h : Handler} {e : Error}
      (handler : registry.handler? t.handler = some h) (invalid : p.validate validator t = .error e) :
      Continues a (.attempt t p) (a.report (.policy p.id) e)
  | failed {t : PolicyType} {p : Policy} {h : Handler} {d : Document} {e : Error}
      (handler : registry.handler? t.handler = some h) (valid : p.validate validator t = .ok ())
      (fails : h.apply a.document p sequence = (d, .error e)) :
      Continues a (.attempt t p) ({ a.called t p sequence with document := d }.report (.policy p.id) e)
  | applied {t : PolicyType} {p : Policy} {h : Handler} {d : Document}
      (handler : registry.handler? t.handler = some h) (valid : p.validate validator t = .ok ())
      (applies : h.apply a.document p sequence = (d, .ok .goOn)) :
      Continues a (.attempt t p)
        { a.called t p sequence with document := d, applied := a.applied ++ [p.id], stopped := false }

inductive Stops (a : Application) (t : PolicyType) (p : Policy) : Application → Prop where
  | stop {h : Handler} {d : Document} (handler : registry.handler? t.handler = some h)
      (valid : p.validate validator t = .ok ()) (stops : h.apply a.document p sequence = (d, .ok .stop)) :
      Stops a t p
        { a.called t p sequence with document := d, applied := a.applied ++ [p.id], stopped := true }

/-- Visits one after the other, and the application goes on after each of them. -/
inductive Runs : Application → List Visit → Application → Prop where
  | nil (a : Application) : Runs a [] a
  | cons {a b c : Application} {v : Visit} {visits : List Visit}
      (first : Continues registry validator sequence a v b) (rest : Runs b visits c) : Runs a (v :: visits) c

def advance (a : Application) (v : Visit) : Application :=
  if a.stopped then a
  else
    match v with
    | .unbound t => a.report (.policyType t.id) (.handlerNotFound t.handler)
    | .attempt t p =>
      match registry.handler? t.handler with
      | none => a
      | some h => step validator h t sequence a p

variable {registry validator sequence} {a b c : Application}

theorem Continues.stopped_eq {v : Visit} (h : Continues registry validator sequence a v b)
    (ha : a.stopped = false) : b.stopped = false := by
  cases h with
  | unbound missing => exact ha
  | invalid handler invalid => exact ha
  | failed handler valid fails => exact ha
  | applied handler valid applies => rfl

theorem Stops.stopped_eq {t : PolicyType} {p : Policy} (h : Stops registry validator sequence a t p b) :
    b.stopped = true := by
  cases h with
  | stop handler valid stops => rfl

theorem advance_of_stopped (h : a.stopped = true) (v : Visit) :
    a.advance registry validator sequence v = a := by
  unfold advance
  rw [if_pos h]

theorem foldl_advance_of_stopped (visits : List Visit) (h : a.stopped = true) :
    visits.foldl (advance registry validator sequence) a = a := by
  induction visits with
  | nil => rfl
  | cons v visits ih => rw [List.foldl_cons, advance_of_stopped h, ih]

theorem Continues.advance_eq {v : Visit} (h : Continues registry validator sequence a v b) (ha : a.stopped = false) :
    a.advance registry validator sequence v = b := by
  have hgoes : ¬ a.stopped = true := by simp [ha]
  unfold advance
  rw [if_neg hgoes]
  cases h with
  | unbound missing => rfl
  | invalid handler invalid => simp only [handler, step, if_neg hgoes, invalid]
  | failed handler valid fails => simp only [handler, step, if_neg hgoes, valid, attempt, fails, called]
  | applied handler valid applies => simp only [handler, step, if_neg hgoes, valid, attempt, applies, called]; rfl

theorem Stops.advance_eq {t : PolicyType} {p : Policy} (h : Stops registry validator sequence a t p b)
    (ha : a.stopped = false) : a.advance registry validator sequence (.attempt t p) = b := by
  have hgoes : ¬ a.stopped = true := by simp [ha]
  unfold advance
  rw [if_neg hgoes]
  cases h with
  | stop handler valid stops => simp only [handler, step, if_neg hgoes, valid, attempt, stops, called]; rfl

theorem continues_or_stops (ha : a.stopped = false) {v : Visit} (hv : v.Binding registry) :
    Continues registry validator sequence a v (a.advance registry validator sequence v) ∨
      ∃ t p, v = .attempt t p ∧
        Stops registry validator sequence a t p (a.advance registry validator sequence v) := by
  have hgoes : ¬ a.stopped = true := by simp [ha]
  unfold advance
  rw [if_neg hgoes]
  cases v with
  | unbound t => exact .inl (.unbound (Registry.handler?_of_not_binds hv))
  | attempt t p =>
    obtain ⟨h, hh⟩ := Registry.exists_of_binds hv
    simp only [hh]
    unfold step
    rw [if_neg hgoes]
    cases hvalid : p.validate validator t with
    | error e => exact .inl (.invalid hh hvalid)
    | ok u =>
      rcases happly : h.apply a.document p sequence with ⟨d, outcome⟩
      simp only [attempt, happly]
      cases outcome with
      | error e => exact .inl (.failed hh hvalid happly)
      | ok outcome =>
        cases outcome with
        | goOn => exact .inl (.applied hh hvalid happly)
        | stop => exact .inr ⟨t, p, rfl, .stop hh hvalid happly⟩

/-- From any application that has not been stopped, the visits are made to the end, or up to one that stops it. -/
theorem runs_or_stops (visits : List Visit) (hbinding : ∀ v ∈ visits, v.Binding registry) :
    ∀ {a : Application}, a.stopped = false →
      Runs registry validator sequence a visits (visits.foldl (advance registry validator sequence) a) ∨
        ∃ before t p after b, visits = before ++ .attempt t p :: after ∧
          Runs registry validator sequence a before b ∧
          Stops registry validator sequence b t p (visits.foldl (advance registry validator sequence) a) := by
  induction visits with
  | nil => exact fun _ => .inl (.nil _)
  | cons v visits ih =>
    intro a ha
    have hrest := fun w hw => hbinding w (List.mem_cons_of_mem v hw)
    rw [List.foldl_cons]
    rcases continues_or_stops ha (hbinding v List.mem_cons_self) with hv | ⟨t, p, rfl, hstops⟩
    · rcases ih hrest (hv.stopped_eq ha) with hruns | ⟨before, t, p, after, b, hsplit, hruns, hstops⟩
      · exact .inl (.cons hv hruns)
      · refine .inr ⟨v :: before, t, p, after, b, ?_, .cons hv hruns, hstops⟩
        rw [hsplit, List.cons_append]
    · refine .inr ⟨[], t, p, visits, a, rfl, .nil a, ?_⟩
      rw [foldl_advance_of_stopped visits hstops.stopped_eq]
      exact hstops

end Application

namespace Visit
variable (validator : Validator) (sequence : Int)

def call? : Visit → Option Attempt
  | .unbound _ => none
  | .attempt t p =>
    match p.validate validator t with
    | .ok () => some ⟨t.handler, p.id, sequence⟩
    | .error _ => none

/-- The visit has been made: the handler has been asked and the policy either is applied or has a diagnostic, or
else the diagnostic says why nobody was asked. -/
def Made (a : Application) : Visit → Prop
  | .unbound t => Diagnostic.mk (.policyType t.id) (.handlerNotFound t.handler) ∈ a.diagnostics
  | .attempt t p =>
    match p.validate validator t with
    | .error e => Diagnostic.mk (.policy p.id) e ∈ a.diagnostics
    | .ok () =>
      Attempt.mk t.handler p.id sequence ∈ a.attempts ∧
        (p.id ∈ a.applied ∨ ∃ e, Diagnostic.mk (.policy p.id) e ∈ a.diagnostics)

end Visit

namespace Application
variable (validator : Validator) (sequence : Int)

/-- From one application to the other the visits have been made, and nothing else has been done. -/
structure Records (a : Application) (visits : List Visit) (b : Application) : Prop where
  attempts : b.attempts = a.attempts ++ visits.filterMap (Visit.call? validator sequence)
  applied : a.applied ⊆ b.applied
  diagnostics : ∃ told, b.diagnostics = a.diagnostics ++ told ∧
    (told.map Diagnostic.scope).Sublist (visits.map Visit.scope)
  made : ∀ v ∈ visits, v.Made validator sequence b

variable {registry : Registry} {validator sequence} {a b c : Application}

theorem Records.refl (a : Application) : Records validator sequence a [] a where
  attempts := (List.append_nil _).symm
  applied := List.Subset.refl _
  diagnostics := ⟨[], (List.append_nil _).symm, .slnil⟩
  made _ hv := nomatch hv

theorem Records.made_mono {visits : List Visit} (h : Records validator sequence a visits b) {v : Visit}
    (hv : v.Made validator sequence a) : v.Made validator sequence b := by
  have hattempts {x : Attempt} (hx : x ∈ a.attempts) : x ∈ b.attempts := by
    rw [h.attempts]
    exact List.mem_append_left _ hx
  have hdiagnostics {r : Diagnostic} (hr : r ∈ a.diagnostics) : r ∈ b.diagnostics := by
    obtain ⟨told, he, -⟩ := h.diagnostics
    rw [he]
    exact List.mem_append_left _ hr
  cases v with
  | unbound t => exact hdiagnostics hv
  | attempt t p =>
    simp only [Visit.Made] at hv ⊢
    cases hvalid : p.validate validator t with
    | error e =>
      rw [hvalid] at hv
      exact hdiagnostics hv
    | ok u =>
      rw [hvalid] at hv
      exact ⟨hattempts hv.1, hv.2.imp (fun hp => h.applied hp) fun ⟨e, he⟩ => ⟨e, hdiagnostics he⟩⟩

theorem Records.trans {vs ws : List Visit} (h : Records validator sequence a vs b)
    (h' : Records validator sequence b ws c) : Records validator sequence a (vs ++ ws) c where
  attempts := by rw [h'.attempts, h.attempts, List.filterMap_append, List.append_assoc]
  applied := List.Subset.trans h.applied h'.applied
  diagnostics := by
    obtain ⟨told, he, hs⟩ := h.diagnostics
    obtain ⟨told', he', hs'⟩ := h'.diagnostics
    refine ⟨told ++ told', by rw [he', he, List.append_assoc], ?_⟩
    rw [List.map_append, List.map_append]
    exact hs.append hs'
  made v hv := by
    rcases List.mem_append.mp hv with hv | hv
    · exact h'.made_mono (h.made v hv)
    · exact h'.made v hv

theorem Continues.records {v : Visit} (h : Continues registry validator sequence a v b) :
    Records validator sequence a [v] b := by
  cases h with
  | unbound missing =>
    refine ⟨(List.append_nil _).symm, List.Subset.refl _, ⟨[_], rfl, .refl _⟩, fun w hw => ?_⟩
    rw [List.mem_singleton.mp hw]
    exact List.mem_append_right _ List.mem_cons_self
  | invalid handler invalid =>
    refine ⟨?_, List.Subset.refl _, ⟨[_], rfl, .refl _⟩, fun w hw => ?_⟩
    · simp [Visit.call?, invalid, report]
    · rw [List.mem_singleton.mp hw]
      simp [Visit.Made, invalid, report]
  | failed handler valid fails =>
    refine ⟨?_, List.Subset.refl _, ⟨[_], rfl, .refl _⟩, fun w hw => ?_⟩
    · simp [Visit.call?, valid, report, called]
    · rw [List.mem_singleton.mp hw]
      simp [Visit.Made, valid, report, called]
  | applied handler valid applies =>
    refine ⟨?_, List.subset_append_left _ _, ⟨[], (List.append_nil _).symm, List.nil_sublist _⟩, fun w hw => ?_⟩
    · simp [Visit.call?, valid, called]
    · rw [List.mem_singleton.mp hw]
      simp [Visit.Made, valid, called]

theorem Stops.records {t : PolicyType} {p : Policy} (h : Stops registry validator sequence a t p b) :
    Records validator sequence a [.attempt t p] b ∧ b.diagnostics = a.diagnostics ∧
      b.applied.getLast? = some p.id := by
  cases h with
  | stop handler valid stops =>
    refine ⟨⟨?_, List.subset_append_left _ _, ⟨[], (List.append_nil _).symm, List.nil_sublist _⟩, fun w hw => ?_⟩,
      rfl, List.getLast?_concat⟩
    · simp [Visit.call?, valid, called]
    · rw [List.mem_singleton.mp hw]
      simp [Visit.Made, valid, called]

theorem Runs.records {visits : List Visit} (h : Runs registry validator sequence a visits b) :
    Records validator sequence a visits b := by
  induction h with
  | nil a => exact .refl a
  | cons first rest ih => exact first.records.trans ih

theorem Runs.stopped_eq {visits : List Visit} (h : Runs registry validator sequence a visits b)
    (ha : a.stopped = false) : b.stopped = false := by
  induction h with
  | nil a => exact ha
  | cons first rest ih => exact ih (first.stopped_eq ha)

theorem Runs.foldl_advance {visits : List Visit} (h : Runs registry validator sequence a visits b)
    (ha : a.stopped = false) : visits.foldl (advance registry validator sequence) a = b := by
  induction h with
  | nil a => rfl
  | cons first rest ih => rw [List.foldl_cons, first.advance_eq ha, ih (first.stopped_eq ha)]

variable {s : Snapshot} {matched : IdSet}

theorem applyGroup_eq_foldl_advance (hr : registry.ResolvesByPriority)
    (htypes : ∀ id p, s.policy? id = some p → ∃ t, s.policyType? p.typeId = some t)
    {group : Int × List Policy} (hg : group ∈ s.policyGroups matched) :
    applyGroup registry validator s sequence a group =
      (s.planOfType registry.Binds group).foldl (advance registry validator sequence) a := by
  by_cases ha : a.stopped = true
  · rw [foldl_advance_of_stopped _ ha]
    unfold applyGroup
    rw [if_pos ha]
  obtain ⟨⟨p, hp, hpt⟩, hps⟩ := Snapshot.mem_policyGroups.mp hg
  obtain ⟨t, ht⟩ := htypes _ _ (Snapshot.mem_policiesOf.mp hp).2
  rw [hpt] at ht
  have hone : ∀ q ∈ group.2, q.typeId = group.1 := by
    intro q hq
    rw [hps] at hq
    exact eq_of_beq (List.mem_filter.mp hq).2
  unfold applyGroup Snapshot.planOfType
  rw [if_neg ha]
  simp only [ht]
  by_cases hb : registry.Binds t
  · obtain ⟨h, hh⟩ := Registry.exists_of_binds hb
    have hstep : (fun a p => advance registry validator sequence a (.attempt t p)) = step validator h t sequence := by
      funext a p
      unfold advance
      simp only [hh]
      split
      · rename_i hstopped
        unfold step
        rw [if_pos hstopped]
      · rfl
    simp only [if_pos hb, Registry.handlerFor_of_some hh, hr _ _ hh, Policy.resolve_of_oneType hone, sortOn_sortOn,
      List.foldl_map, hstep]
  · have hn := Registry.handler?_of_not_binds hb
    simp only [if_neg hb, Registry.handlerFor_of_none hn, List.foldl_cons, List.foldl_nil, advance, if_neg ha,
      Snapshot.id_of_policyType? ht]

theorem run_eq_foldl_advance (hr : registry.ResolvesByPriority)
    (htypes : ∀ id p, s.policy? id = some p → ∃ t, s.policyType? p.typeId = some t) (d : Document) :
    run registry validator s sequence d matched =
      (s.planFor registry.Binds matched).foldl (advance registry validator sequence) (start d) := by
  have go : ∀ (groups : List (Int × List Policy)), (∀ g ∈ groups, g ∈ s.policyGroups matched) →
      ∀ a : Application, groups.foldl (applyGroup registry validator s sequence) a =
        (groups.flatMap (s.planOfType registry.Binds)).foldl (advance registry validator sequence) a := by
    intro groups
    induction groups with
    | nil => exact fun _ _ => rfl
    | cons g groups ih =>
      intro hg a
      rw [List.foldl_cons, List.flatMap_cons, List.foldl_append,
        applyGroup_eq_foldl_advance hr htypes (hg g List.mem_cons_self)]
      exact ih (fun g' hg' => hg g' (List.mem_cons_of_mem g hg')) _
  exact go _ (fun _ hg => hg) _

end Application

end Filing
