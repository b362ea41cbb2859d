import Filing.Policy.Application
import Filing.Proofs.Json.Distinct
import Filing.Proofs.Snapshot.Build
import Mathlib.Data.List.Forall2

/-!
# The grammar of details

Details and the actions in them are spelled as objects or as arrays, and kinds as names or as objects. What is
read are the values with such a spelling, as the actions that they spell. All other values are refused before
anything is changed.
-/

namespace Filing

/-- The name of the kind, or an object with this name as the only key and null as the value. -/
inductive ActionKind.SpelledAs (kind : ActionKind) : Json → Prop where
  | name : kind.SpelledAs (.string kind.name)
  | key : kind.SpelledAs (.object [(kind.name, .null)])

namespace FieldAction

/-- An object with the three members of the action, which may have others, or an array of its three parts. -/
inductive SpelledAs (a : FieldAction) : Json → Prop where
  | object {ms : List (String × Json)} {x : Json} (name : ("name", .string a.name) ∈ ms)
      (action : ("action", x) ∈ ms) (kind : a.kind.SpelledAs x) (value : ("value", .string a.value) ∈ ms) :
      a.SpelledAs (.object ms)
  | array {x : Json} (kind : a.kind.SpelledAs x) : a.SpelledAs (.array [.string a.name, x, .string a.value])

/-- An object with a list, which may have other members, or an array of the list alone. The list has one element
for each action, in order. -/
inductive AllSpelledAs (actions : List FieldAction) : Json → Prop where
  | object {ms : List (String × Json)} {items : List Json} (list : ("fieldActions", .array items) ∈ ms)
      (each : List.Forall₂ SpelledAs actions items) : AllSpelledAs actions (.object ms)
  | array {items : List Json} (each : List.Forall₂ SpelledAs actions items) :
      AllSpelledAs actions (.array [.array items])

end FieldAction

namespace ActionKind
variable {kind : ActionKind} {x : Json}

theorem ofName_eq_ok_iff {name : String} : ofName name = .ok kind ↔ name = kind.name := by
  unfold ofName
  split
  · rename_i h
    subst h
    cases kind <;> simp [ActionKind.name]
  split
  · rename_i h
    subst h
    cases kind <;> simp [ActionKind.name]
  · rename_i hset hadd
    constructor
    · exact fun h => nomatch h
    · rintro rfl
      cases kind
      · exact absurd rfl hset
      · exact absurd rfl hadd

theorem parse_eq_ok_iff : parse x = .ok kind ↔ kind.SpelledAs x := by
  constructor
  · intro h
    unfold parse at h
    split at h
    · obtain rfl := ofName_eq_ok_iff.mp h
      exact .name
    · rw [except_bind_eq_ok] at h
      obtain ⟨k, hk, h⟩ := h
      obtain rfl := ofName_eq_ok_iff.mp hk
      split at h
      · rename_i hnull
        obtain rfl := Except.ok.inj h
        subst hnull
        exact .key
      · cases h
    · cases h
    · cases h
  · intro h
    cases h <;> cases kind <;> rfl

end ActionKind

namespace FieldAction

theorem parseText_eq_ok_iff {x : Json} {s : String} : parseText x = .ok s ↔ x = .string s := by
  cases x <;> simp [parseText]

namespace Parts

inductive Takes (parts : Parts) : String → Json → Parts → Prop where
  | name (s : String) : parts.Takes "name" (.string s) { parts with name := some s }
  | action {kind : ActionKind} {x : Json} (h : kind.SpelledAs x) :
      parts.Takes "action" x { parts with kind := some kind }
  | value (s : String) : parts.Takes "value" (.string s) { parts with value := some s }
  | other {key : String} {x : Json} (hn : key ≠ "name") (ha : key ≠ "action") (hv : key ≠ "value") :
      parts.Takes key x parts

structure SpelledIn (parts : Parts) (ms : List (String × Json)) : Prop where
  name : ∀ s, parts.name = some s → ("name", .string s) ∈ ms
  kind : ∀ kind, parts.kind = some kind → ∃ x, ("action", x) ∈ ms ∧ kind.SpelledAs x
  value : ∀ s, parts.value = some s → ("value", .string s) ∈ ms

variable {parts parts' : Parts} {key : String} {x : Json} {ms : List (String × Json)}

theorem SpelledIn.start (ms : List (String × Json)) : SpelledIn {} ms :=
  ⟨(fun _ h => nomatch h), (fun _ h => nomatch h), fun _ h => nomatch h⟩

theorem SpelledIn.takes (h : parts.SpelledIn ms) (hm : (key, x) ∈ ms) (ht : parts.Takes key x parts') :
    parts'.SpelledIn ms := by
  cases ht with
  | name s => exact { h with name := fun t ht => Option.some.inj ht ▸ hm }
  | action hx => exact { h with kind := fun k hk => ⟨x, hm, Option.some.inj hk ▸ hx⟩ }
  | value s => exact { h with value := fun t ht => Option.some.inj ht ▸ hm }
  | other => exact h

end Parts

theorem parseMembers_cons_eq_ok_iff {parts parts' : Parts} {key : String} {x : Json} {rest : List (String × Json)} :
    parseMembers parts ((key, x) :: rest) = .ok parts' ↔
      ∃ next, parts.Takes key x next ∧ parseMembers next rest = .ok parts' := by
  rw [parseMembers]
  constructor
  · intro h
    split at h
    · rename_i hkey
      subst hkey
      obtain ⟨s, hs, hnext⟩ := except_bind_eq_ok.mp h
      obtain rfl := parseText_eq_ok_iff.mp hs
      exact ⟨_, .name s, hnext⟩
    split at h
    · rename_i hkey
      subst hkey
      obtain ⟨kind, hkind, hnext⟩ := except_bind_eq_ok.mp h
      exact ⟨_, .action (ActionKind.parse_eq_ok_iff.mp hkind), hnext⟩
    split at h
    · rename_i hkey
      subst hkey
      obtain ⟨s, hs, hnext⟩ := except_bind_eq_ok.mp h
      obtain rfl := parseText_eq_ok_iff.mp hs
      exact ⟨_, .value s, hnext⟩
    · rename_i hn ha hv
      exact ⟨_, .other hn ha hv, h⟩
  · rintro ⟨next, htakes, hnext⟩
    cases htakes with
    | name s =>
      rw [if_pos rfl]
      exact hnext
    | action hkind =>
      rw [if_neg (by decide), if_pos rfl, ActionKind.parse_eq_ok_iff.mpr hkind]
      exact hnext
    | value s =>
      rw [if_neg (by decide), if_neg (by decide), if_pos rfl]
      exact hnext
    | other hn ha hv =>
      rw [if_neg hn, if_neg ha, if_neg hv]
      exact hnext

theorem Parts.SpelledIn.parseMembers {ms rest : List (String × Json)} {parts parts' : Parts}
    (h : parts.SpelledIn ms) (hrest : ∀ m ∈ rest, m ∈ ms) (hread : parseMembers parts rest = .ok parts') :
    parts'.SpelledIn ms := by
  induction rest generalizing parts with
  | nil =>
    obtain rfl := Except.ok.inj hread
    exact h
  | cons m rest ih =>
    obtain ⟨next, htakes, hnext⟩ := parseMembers_cons_eq_ok_iff.mp hread
    exact ih (h.takes (hrest _ List.mem_cons_self) htakes) (fun m hm => hrest m (List.mem_cons_of_mem _ hm)) hnext

theorem parseMembers_of_forall {a : FieldAction} {ms : List (String × Json)}
    (hname : ∀ x, ("name", x) ∈ ms → x = .string a.name)
    (haction : ∀ x, ("action", x) ∈ ms → a.kind.SpelledAs x)
    (hvalue : ∀ x, ("value", x) ∈ ms → x = .string a.value) (parts : Parts) :
    parseMembers parts ms = .ok {
      name := if "name" ∈ ms.map Prod.fst then some a.name else parts.name
      kind := if "action" ∈ ms.map Prod.fst then some a.kind else parts.kind
      value := if "value" ∈ ms.map Prod.fst then some a.value else parts.value } := by
  induction ms generalizing parts with
  | nil => rfl
  | cons m ms ih =>
    obtain ⟨key, x⟩ := m
    have ih := ih (fun y hy => hname y (List.mem_cons_of_mem _ hy))
      (fun y hy => haction y (List.mem_cons_of_mem _ hy)) fun y hy => hvalue y (List.mem_cons_of_mem _ hy)
    rw [parseMembers_cons_eq_ok_iff]
    simp only [List.map_cons, List.mem_cons]
    by_cases hn : key = "name"
    · subst hn
      obtain rfl := hname x List.mem_cons_self
      refine ⟨_, .name a.name, (ih _).trans ?_⟩
      simp only [String.reduceEq, true_or, false_or, if_true, ite_self]
    by_cases ha : key = "action"
    · subst ha
      refine ⟨_, .action (haction x List.mem_cons_self), (ih _).trans ?_⟩
      simp only [String.reduceEq, true_or, false_or, if_true, ite_self]
    by_cases hv : key = "value"
    · subst hv
      obtain rfl := hvalue x List.mem_cons_self
      refine ⟨_, .value a.value, (ih _).trans ?_⟩
      simp only [String.reduceEq, true_or, false_or, if_true, ite_self]
    · refine ⟨_, .other hn ha hv, (ih _).trans ?_⟩
      simp only [Ne.symm hn, Ne.symm ha, Ne.symm hv, false_or]

theorem ofParts_eq_ok_iff {parts : Parts} {a : FieldAction} :
    ofParts parts = .ok a ↔ parts = ⟨some a.name, some a.kind, some a.value⟩ := by
  constructor
  · intro h
    obtain ⟨name | name, kind | kind, value | value⟩ := parts <;> cases h
    rfl
  · rintro rfl
    rfl

variable {a : FieldAction} {actions : List FieldAction} {item d : Json} {items : List Json}

theorem spelledAs_of_parse (h : parse item = .ok a) : a.SpelledAs item := by
  unfold parse at h
  split at h
  case h_1 ms =>
    obtain ⟨parts, hparts, h⟩ := except_bind_eq_ok.mp h
    obtain rfl := ofParts_eq_ok_iff.mp h
    have hspelled := (Parts.SpelledIn.start ms).parseMembers (fun _ hm => hm) hparts
    obtain ⟨x, hx, hkind⟩ := hspelled.kind a.kind rfl
    exact .object (hspelled.name a.name rfl) hx hkind (hspelled.value a.value rfl)
  case h_5 name kind value rest =>
    simp only [except_bind_eq_ok] at h
    obtain ⟨s, hs, k, hk, t, ht, h⟩ := h
    obtain rfl := parseText_eq_ok_iff.mp hs
    obtain rfl := parseText_eq_ok_iff.mp ht
    split at h
    · rename_i hrest
      obtain rfl := List.isEmpty_iff.mp hrest
      obtain rfl := Except.ok.inj h
      exact .array (ActionKind.parse_eq_ok_iff.mp hk)
    · cases h
  case h_3 name =>
    obtain ⟨_, -, h⟩ := except_bind_eq_ok.mp h
    cases h
  case h_4 name kind =>
    obtain ⟨_, -, h⟩ := except_bind_eq_ok.mp h
    obtain ⟨_, -, h⟩ := except_bind_eq_ok.mp h
    cases h
  all_goals cases h

theorem parse_of_spelledAs (h : a.SpelledAs item) (hd : item.Distinct) : parse item = .ok a := by
  cases h with
  | object name action kind value =>
    cases hd with
    | object names members =>
      have hread := parseMembers_of_forall (fun x => Json.eq_of_mem names name)
        (fun x hx => Json.eq_of_mem names action hx ▸ kind) (fun x => Json.eq_of_mem names value) {}
      rw [if_pos (List.mem_map_of_mem name), if_pos (List.mem_map_of_mem action),
        if_pos (List.mem_map_of_mem value)] at hread
      rw [parse, hread]
      rfl
  | array kind =>
    have hread := ActionKind.parse_eq_ok_iff.mpr kind
    simp only [parse, parseText, hread]
    rfl

theorem parse_eq_ok_iff (hd : item.Distinct) : parse item = .ok a ↔ a.SpelledAs item :=
  ⟨spelledAs_of_parse, fun h => parse_of_spelledAs h hd⟩

theorem mapM_parse_eq_ok_iff (hd : ∀ x ∈ items, x.Distinct) :
    items.mapM parse = .ok actions ↔ List.Forall₂ SpelledAs actions items := by
  induction items generalizing actions with
  | nil =>
    rw [List.forall₂_nil_right_iff]
    constructor
    · exact fun h => (Except.ok.inj h).symm
    · rintro rfl
      rfl
  | cons x items ih =>
    obtain ⟨hx, hitems⟩ := List.forall_mem_cons.mp hd
    simp only [List.mapM_cons, except_bind_eq_ok, parse_eq_ok_iff hx, ih hitems]
    constructor
    · rintro ⟨a, ha, rest, hrest, h⟩
      obtain rfl := Except.ok.inj h
      exact .cons ha hrest
    · rintro (_ | ⟨ha, hrest⟩)
      exact ⟨_, ha, _, hrest, rfl⟩

theorem parseList_eq_ok_iff (hd : item.Distinct) :
    parseList item = .ok actions ↔ ∃ items, item = .array items ∧ List.Forall₂ SpelledAs actions items := by
  cases hd with
  | array each => simp [parseList, mapM_parse_eq_ok_iff each]
  | _ => simp [parseList]

/-- Among the members of details only lists of actions count, and of these the last. -/
theorem exists_list_of_parseDetailsMembers {found : Option (List FieldAction)} {ms : List (String × Json)}
    (h : parseDetailsMembers found ms = .ok (some actions)) :
    found = some actions ∨ ∃ x, ("fieldActions", x) ∈ ms ∧ parseList x = .ok actions := by
  induction ms generalizing found with
  | nil => exact .inl (Except.ok.inj h)
  | cons m ms ih =>
    obtain ⟨key, x⟩ := m
    rw [parseDetailsMembers] at h
    split at h
    · rename_i hkey
      subst hkey
      obtain ⟨listed, hlisted, h⟩ := except_bind_eq_ok.mp h
      rcases ih h with hfound | ⟨y, hy, hread⟩
      · obtain rfl := Option.some.inj hfound
        exact .inr ⟨x, List.mem_cons_self, hlisted⟩
      · exact .inr ⟨y, List.mem_cons_of_mem _ hy, hread⟩
    · exact (ih h).imp_right fun ⟨y, hy, hread⟩ => ⟨y, List.mem_cons_of_mem _ hy, hread⟩

theorem parseDetailsMembers_of_forall {ms : List (String × Json)}
    (h : ∀ x, ("fieldActions", x) ∈ ms → parseList x = .ok actions) (found : Option (List FieldAction)) :
    parseDetailsMembers found ms =
      .ok (if "fieldActions" ∈ ms.map Prod.fst then some actions else found) := by
  induction ms generalizing found with
  | nil => rfl
  | cons m ms ih =>
    obtain ⟨key, x⟩ := m
    have ih := ih fun y hy => h y (List.mem_cons_of_mem _ hy)
    rw [parseDetailsMembers]
    by_cases hk : key = "fieldActions"
    · subst hk
      rw [if_pos rfl, h x List.mem_cons_self]
      exact (ih (some actions)).trans (by simp)
    · rw [if_neg hk, ih]
      simp only [List.map_cons, List.mem_cons, Ne.symm hk, false_or]

theorem parseDetails_object_eq_ok_iff {ms : List (String × Json)} (hd : (Json.object ms).Distinct) :
    parseDetails (.object ms) = .ok actions ↔
      ∃ items, ("fieldActions", .array items) ∈ ms ∧ List.Forall₂ SpelledAs actions items := by
  cases hd with
  | object names members =>
    constructor
    · intro h
      rw [parseDetails, except_bind_eq_ok] at h
      obtain ⟨found, hfound, h⟩ := h
      cases found with
      | none => cases h
      | some listed =>
        obtain rfl := Except.ok.inj h
        rcases exists_list_of_parseDetailsMembers hfound with hnone | ⟨x, hx, hread⟩
        · cases hnone
        · obtain ⟨items, rfl, each⟩ := (parseList_eq_ok_iff (members _ hx)).mp hread
          exact ⟨items, hx, each⟩
    · rintro ⟨items, hlist, each⟩
      have hread := (parseList_eq_ok_iff (members _ hlist)).mpr ⟨items, rfl, each⟩
      have honly : ∀ x, ("fieldActions", x) ∈ ms → parseList x = .ok actions := by
        intro x hx
        rw [Json.eq_of_mem names hlist hx, hread]
      rw [parseDetails, parseDetailsMembers_of_forall honly, if_pos (List.mem_map_of_mem hlist)]
      rfl

theorem parseDetails_array_eq_ok_iff {xs : List Json} (hd : ∀ x ∈ xs, x.Distinct) :
    parseDetails (.array xs) = .ok actions ↔
      ∃ items, xs = [.array items] ∧ List.Forall₂ SpelledAs actions items := by
  cases xs with
  | nil => simp [parseDetails]
  | cons x rest =>
    rw [parseDetails, except_bind_eq_ok]
    simp only [parseList_eq_ok_iff (hd x List.mem_cons_self), List.cons.injEq]
    constructor
    · rintro ⟨listed, ⟨items, rfl, each⟩, h⟩
      split at h
      · rename_i hrest
        obtain rfl := Except.ok.inj h
        exact ⟨items, ⟨rfl, List.isEmpty_iff.mp hrest⟩, each⟩
      · cases h
    · rintro ⟨items, ⟨rfl, rfl⟩, each⟩
      exact ⟨actions, ⟨items, rfl, each⟩, rfl⟩

theorem parseDetails_eq_ok_iff (hd : d.Distinct) : parseDetails d = .ok actions ↔ AllSpelledAs actions d := by
  constructor
  · intro h
    cases d with
    | object ms =>
      obtain ⟨items, hlist, each⟩ := (parseDetails_object_eq_ok_iff hd).mp h
      exact .object hlist each
    | array xs =>
      cases hd with
      | array hxs =>
        obtain ⟨items, rfl, each⟩ := (parseDetails_array_eq_ok_iff hxs).mp h
        exact .array each
    | _ => cases h
  · intro h
    cases h with
    | object hlist each => exact (parseDetails_object_eq_ok_iff hd).mpr ⟨_, hlist, each⟩
    | array each =>
      cases hd with
      | array hxs => exact (parseDetails_array_eq_ok_iff hxs).mpr ⟨_, rfl, each⟩

/-- Details are read exactly where they have a spelling, as the actions that they spell, and the built-in handlers
apply these. All other details are refused with an error for the policy. The handlers give the same error, and of
an application nothing changes but that it has one diagnostic more. -/
theorem read_iff_spelled (p : Policy) (hd : p.details.Distinct) :
    (∀ actions, p.fieldActions = .ok actions ↔ AllSpelledAs actions p.details) ∧
      (∀ actions, AllSpelledAs actions p.details → ∀ h ∈ [Handler.metadata, Handler.tag],
        ∀ document sequence, h.apply document p sequence = (applyAll document actions, .ok .goOn)) ∧
      ((∀ actions, ¬ AllSpelledAs actions p.details) →
        ∃ e, e.kind = "policy_details_parse" ∧ (∃ fault, e = .policyDetails p.id fault) ∧ p.fieldActions = .error e ∧
          ∀ h ∈ [Handler.metadata, Handler.tag],
            (∀ document sequence, h.apply document p sequence = (document, .error e)) ∧
            ∀ (a : Application) binding sequence, a.attempt h binding sequence p =
              { a with attempts := a.attempts ++ [Attempt.mk binding p.id sequence] }.report (.policy p.id) e) := by
  have hread (actions : List FieldAction) : p.fieldActions = .ok actions ↔ AllSpelledAs actions p.details := by
    rw [← parseDetails_eq_ok_iff hd, Policy.fieldActions]
    cases parseDetails p.details <;> simp
  have hhandler : ∀ h ∈ [Handler.metadata, Handler.tag], ∃ name, h = Handler.fieldActions name := by
    simp [Handler.metadata, Handler.tag]
  refine ⟨hread, fun actions hspelled h hh document sequence => ?_, fun hnone => ?_⟩
  · obtain ⟨name, rfl⟩ := hhandler h hh
    simp only [Handler.fieldActions, (hread actions).mpr hspelled]
  · obtain ⟨fault, hfault⟩ : ∃ fault, p.fieldActions = .error (.policyDetails p.id fault) := by
      cases hdetails : parseDetails p.details with
      | ok actions => exact absurd ((parseDetails_eq_ok_iff hd).mp hdetails) (hnone actions)
      | error fault => exact ⟨fault, by rw [Policy.fieldActions, hdetails]⟩
    refine ⟨_, rfl, ⟨fault, rfl⟩, hfault, fun h hh => ?_⟩
    obtain ⟨name, rfl⟩ := hhandler h hh
    have happly (document : Document) (sequence : Int) :
        (Handler.fieldActions name).apply document p sequence = (document, .error (.policyDetails p.id fault)) := by
      simp only [Handler.fieldActions, hfault]
    refine ⟨happly, fun a binding sequence => ?_⟩
    rw [Application.attempt]
    simp only [happly]

def terse : Policy where
  id := 4
  name := "terse"
  description := none
  typeId := 7
  priority := 0
  details := .array [.array [
    .object [("action", .object [("ADD_FIELD_VALUE", .null)]), ("name", .string "tag"), ("note", .int 1),
      ("value", .string "")],
    .array [.string "status", .string "SET_FIELD_VALUE", .string "filed"]]]

def overlong : Policy where
  id := 5
  name := "overlong"
  description := none
  typeId := 7
  priority := 0
  details := .array [.array [
    .object [("action", .object [("ADD_FIELD_VALUE", .null)]), ("name", .string "tag"), ("value", .string "")],
    .array [.string "status", .string "SET_FIELD_VALUE", .string "filed", .null]]]

theorem read_iff_spelled_of_terse :
    terse.details.Distinct ∧ AllSpelledAs [⟨"tag", .add, ""⟩, ⟨"status", .set, "filed"⟩] terse.details ∧
      (∀ h ∈ [Handler.metadata, Handler.tag], ∀ document sequence, h.apply document terse sequence =
        (applyAll document [⟨"tag", .add, ""⟩, ⟨"status", .set, "filed"⟩], .ok .goOn)) ∧
      overlong.details.Distinct ∧ (∀ actions, ¬ AllSpelledAs actions overlong.details) ∧
      ∃ e, e.kind = "policy_details_parse" ∧ overlong.fieldActions = .error e ∧
        ∀ document sequence, Handler.tag.apply document overlong sequence = (document, .error e) := by
  have hterse : terse.details.Distinct := Node.distinct_of_json? (Node.ofJson terse.details) _ (by decide +kernel)
  have hoverlong : overlong.details.Distinct :=
    Node.distinct_of_json? (Node.ofJson overlong.details) _ (by decide +kernel)
  obtain ⟨hread, happly, -⟩ := read_iff_spelled terse hterse
  have hspelled := (hread [⟨"tag", .add, ""⟩, ⟨"status", .set, "filed"⟩]).mp (by decide +kernel)
  obtain ⟨hread', -, hrefused⟩ := read_iff_spelled overlong hoverlong
  have hfault : overlong.fieldActions = .error (.policyDetails 5 (.tooLong 4)) := by decide +kernel
  have hnone : ∀ actions, ¬ AllSpelledAs actions overlong.details := by
    intro actions h
    have hok := (hread' actions).mpr h
    rw [hfault] at hok
    cases hok
  obtain ⟨e, hkind, -, he, hhandlers⟩ := hrefused hnone
  exact ⟨hterse, hspelled, happly _ hspelled, hoverlong, hnone, e, hkind, he, (hhandlers .tag (by simp)).1⟩

end FieldAction

end Filing
