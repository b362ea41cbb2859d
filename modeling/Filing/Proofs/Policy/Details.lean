import Filing.Proofs.Policy.Grammar
import Filing.Proofs.Policy.Stage
import Filing.Proofs.Schema.Decision

/-!
# Details of the built-in types

What details of a built-in type look like is said twice, by the schema of the type and by the reading of field
actions. Here it is said once more, as `FieldAction.ListedIn`. The schema accepts the details that list actions
with names that are not empty, and those are the actions that are read.
-/

namespace Filing

namespace FieldAction

/-- An object with the three members of the action; it may have others. -/
def WrittenAs (a : FieldAction) (item : Json) : Prop :=
  ∃ ms, item = .object ms ∧ ms.lookup "name" = some (.string a.name) ∧
    ms.lookup "action" = some (.string a.kind.name) ∧ ms.lookup "value" = some (.string a.value)

/-- An object with a list that has one element for each action, in order. -/
def ListedIn (actions : List FieldAction) (details : Json) : Prop :=
  ∃ ms items, details = .object ms ∧ ms.lookup "fieldActions" = some (.array items) ∧
    List.Forall₂ WrittenAs actions items

theorem exists_written_iff {items : List Json} :
    (∃ actions : List FieldAction, List.Forall₂ WrittenAs actions items ∧ ∀ a ∈ actions, a.name ≠ "") ↔
      ∀ x ∈ items, ∃ a : FieldAction, a.WrittenAs x ∧ a.name ≠ "" := by
  induction items with
  | nil => simp
  | cons x items ih =>
    rw [List.forall_mem_cons, ← ih]
    constructor
    · rintro ⟨actions, hwritten, hnames⟩
      cases hwritten with
      | @cons a _ actions _ ha hwritten =>
        obtain ⟨hname, hnames⟩ := List.forall_mem_cons.mp hnames
        exact ⟨⟨a, ha, hname⟩, actions, hwritten, hnames⟩
    · rintro ⟨⟨a, ha, hname⟩, actions, hwritten, hnames⟩
      exact ⟨a :: actions, .cons ha hwritten, List.forall_mem_cons.mpr ⟨hname, hnames⟩⟩

end FieldAction

namespace TypeName
variable {value : Json}

theorem admits_string_iff : string.admits value = true ↔ ∃ s, value = .string s := by
  cases value <;> simp [admits]

theorem admits_array_iff : array.admits value = true ↔ ∃ xs, value = .array xs := by
  cases value <;> simp [admits]

theorem admits_object_iff : object.admits value = true ↔ ∃ ms, value = .object ms := by
  cases value <;> simp [admits]

end TypeName

namespace Schema

def text : Schema := .keywords [.types [.string]]

def fieldName : Schema := .keywords [.least .characters 1, .types [.string]]

def actionName : Schema :=
  .keywords [.enumeration [.string "SET_FIELD_VALUE", .string "ADD_FIELD_VALUE"], .types [.string]]

def fieldAction : Schema :=
  .keywords [
    .properties [("action", actionName), ("name", fieldName), ("value", text)],
    .required ["name", "action", "value"],
    .types [.object]]

def fieldActions : Schema :=
  .keywords [
    .properties [("fieldActions", .keywords [.items fieldAction, .types [.array]])],
    .required ["fieldActions"],
    .types [.object]]

theorem compile?_fieldActionsSchema : compile? PolicyType.fieldActionsSchema = some fieldActions := by rfl

variable {root : Json} {fuel : Nat}

theorem decides_text : text.Decides root (fuel + 2) fun value => ∃ s, value = .string s := by
  refine (decides_cons (Keyword.decides_types _) decides_nil).congr fun value => ?_
  rw [and_true, TypeName.admits_string_iff]

theorem decides_fieldName : fieldName.Decides root (fuel + 2) fun value => ∃ s, value = .string s ∧ s ≠ "" := by
  refine (decides_cons (Keyword.decides_least _ _)
    (decides_cons (Keyword.decides_types _) decides_nil)).congr fun value => ?_
  rw [and_true, TypeName.admits_string_iff]
  constructor
  · rintro ⟨hlength, s, rfl⟩
    have hpos : 1 ≤ s.length := hlength s.length rfl
    refine ⟨s, rfl, ?_⟩
    rintro rfl
    simp at hpos
  · rintro ⟨s, rfl, hs⟩
    refine ⟨fun n hn => ?_, s, rfl⟩
    obtain rfl : s.length = n := Option.some.inj hn
    have hne : s.length ≠ 0 := fun h => hs (String.length_eq_zero_iff.mp h)
    omega

theorem decides_actionName :
    actionName.Decides root (fuel + 2) fun value => ∃ kind : ActionKind, value = .string kind.name := by
  refine (decides_cons (Keyword.decides_enumeration _)
    (decides_cons (Keyword.decides_types _) decides_nil)).congr fun value => ?_
  rw [and_true, TypeName.admits_string_iff]
  constructor
  · rintro ⟨⟨o, ho, hsame⟩, s, rfl⟩
    rcases List.mem_cons.mp ho with rfl | ho
    · obtain rfl : "SET_FIELD_VALUE" = s := by simpa [Json.same] using hsame
      exact ⟨.set, rfl⟩
    · obtain rfl := List.mem_singleton.mp ho
      obtain rfl : "ADD_FIELD_VALUE" = s := by simpa [Json.same] using hsame
      exact ⟨.add, rfl⟩
  · rintro ⟨kind, rfl⟩
    refine ⟨?_, _, rfl⟩
    cases kind <;> simp [Json.same, ActionKind.name]

theorem decides_fieldAction : fieldAction.Decides root (fuel + 4) fun value =>
    ∃ a : FieldAction, a.WrittenAs value ∧ a.name ≠ "" := by
  refine (decides_cons
    (Keyword.decides_properties_cons decides_actionName <|
      Keyword.decides_properties_cons decides_fieldName <|
        Keyword.decides_properties_cons decides_text Keyword.decides_properties_nil)
    (decides_cons (Keyword.decides_required _)
      (decides_cons (Keyword.decides_types _) decides_nil))).congr fun value => ?_
  rw [TypeName.admits_object_iff]
  constructor
  · rintro ⟨⟨haction, hname, hvalue, -⟩, hrequired, ⟨ms, rfl⟩, -⟩
    obtain ⟨x, hx⟩ := hrequired ms rfl "name" (by simp)
    obtain ⟨y, hy⟩ := hrequired ms rfl "action" (by simp)
    obtain ⟨z, hz⟩ := hrequired ms rfl "value" (by simp)
    obtain ⟨name, rfl, hne⟩ := hname x hx
    obtain ⟨kind, rfl⟩ := haction y hy
    obtain ⟨text, rfl⟩ := hvalue z hz
    exact ⟨⟨name, kind, text⟩, ⟨ms, rfl, hx, hy, hz⟩, hne⟩
  · rintro ⟨a, ⟨ms, rfl, hname, haction, hvalue⟩, hne⟩
    simp [membersOf, hname, haction, hvalue, hne]

theorem decides_fieldActions : fieldActions.Decides root (fuel + 8) fun value =>
    ∃ actions, FieldAction.ListedIn actions value ∧ ∀ a ∈ actions, a.name ≠ "" := by
  refine (decides_cons
    (Keyword.decides_properties_cons
      (decides_cons (Keyword.decides_items decides_fieldAction) (decides_cons (Keyword.decides_types _) decides_nil))
      Keyword.decides_properties_nil)
    (decides_cons (Keyword.decides_required _)
      (decides_cons (Keyword.decides_types _) decides_nil))).congr fun value => ?_
  simp only [TypeName.admits_object_iff, TypeName.admits_array_iff, and_true]
  constructor
  · rintro ⟨hlist, hrequired, ms, rfl⟩
    obtain ⟨x, hx⟩ := hrequired ms rfl "fieldActions" (by simp)
    obtain ⟨hitems, items, rfl⟩ := hlist x hx
    obtain ⟨actions, hwritten, hnames⟩ := FieldAction.exists_written_iff.mpr hitems
    exact ⟨actions, ⟨ms, items, rfl, hx, hwritten⟩, hnames⟩
  · rintro ⟨actions, ⟨ms, items, rfl, hx, hwritten⟩, hnames⟩
    refine ⟨fun x hx' => ?_, fun ms' hms => ?_, ms, rfl⟩
    · obtain rfl : Json.array items = x := Option.some.inj (hx.symm.trans hx')
      exact ⟨FieldAction.exists_written_iff.mp ⟨actions, hwritten, hnames⟩, items, rfl⟩
    · obtain rfl := Json.object.inj hms
      simp [hx]

/-- The schema of the built-in types accepts the details that list actions with names. -/
theorem validate_fieldActions_iff {d : Json} : validate d PolicyType.fieldActionsSchema = [] ↔
    ∃ actions, FieldAction.ListedIn actions d ∧ ∀ a ∈ actions, a.name ≠ "" := by
  obtain ⟨fuel, hfuel⟩ : ∃ fuel, fuelFor PolicyType.fieldActionsSchema d = fuel + 8 := by
    have hcount : 3 ≤ PolicyType.fieldActionsSchema.count := by decide
    refine Nat.exists_eq_add_of_le' ?_
    calc 8 ≤ 2 * (PolicyType.fieldActionsSchema.count + 1) := by omega
      _ ≤ fuelFor PolicyType.fieldActionsSchema d := Nat.le_mul_of_pos_right _ (Nat.succ_pos _)
  rw [validate, compile?_fieldActionsSchema]
  dsimp only
  rw [errors, List.map_eq_nil_iff, hfuel]
  exact decides_fieldActions [] d

end Schema

namespace FieldAction

theorem WrittenAs.spelledAs {a : FieldAction} {item : Json} (h : a.WrittenAs item) : a.SpelledAs item := by
  obtain ⟨ms, rfl, hname, haction, hvalue⟩ := h
  exact .object (mem_of_lookup hname) (mem_of_lookup haction) .name (mem_of_lookup hvalue)

theorem ListedIn.allSpelledAs {actions : List FieldAction} {d : Json} (h : ListedIn actions d) :
    AllSpelledAs actions d := by
  obtain ⟨ms, items, rfl, hx, hwritten⟩ := h
  exact .object (mem_of_lookup hx) (hwritten.imp fun _ _ => WrittenAs.spelledAs)

theorem parseDetails_of_listedIn {actions : List FieldAction} {d : Json} (h : ListedIn actions d)
    (hd : d.Distinct) : parseDetails d = .ok actions :=
  (parseDetails_eq_ok_iff hd).mpr h.allSpelledAs

theorem listedIn_detailsJson (actions : List FieldAction) : ListedIn actions (detailsJson actions) := by
  refine ⟨_, _, rfl, rfl, List.forall₂_map_right_iff.mpr (List.forall₂_same.mpr fun a _ => ?_)⟩
  exact ⟨_, rfl, rfl, rfl, rfl⟩

theorem distinct_detailsJson (actions : List FieldAction) : (detailsJson actions).Distinct := by
  have hitems : (Json.array (actions.map toJson)).Distinct := by
    refine .array fun x hx => ?_
    obtain ⟨a, -, rfl⟩ := List.mem_map.mp hx
    refine .object (by simp) fun m hm => ?_
    simp only [List.mem_cons, List.not_mem_nil, or_false] at hm
    obtain rfl | rfl | rfl := hm <;> exact .string _
  refine .object (List.nodup_singleton _) fun m hm => ?_
  obtain rfl := List.mem_singleton.mp hm
  exact hitems

def members (a : FieldAction) : List (String × Json) :=
  [("action", .string a.kind.name), ("name", .string a.name), ("value", .string a.value)]

theorem json?_ofJson_toJson (a : FieldAction) : (Node.ofJson a.toJson).json? = some (.object a.members) := by
  have hsorted : Json.ofMembers [("name", .string a.name), ("action", .string a.kind.name),
      ("value", .string a.value)] = .object a.members := by
    cbv
  rw [← hsorted]
  rfl

theorem jsonItems?_ofItems (actions : List FieldAction) :
    Node.jsonItems? (Node.ofItems (actions.map toJson)) = some (actions.map fun a => .object a.members) := by
  induction actions with
  | nil => rfl
  | cons a actions ih =>
    rw [List.map_cons, Node.ofItems, Node.jsonItems?, ih, json?_ofJson_toJson]
    rfl

theorem exists_read_detailsJson (actions : List FieldAction) :
    ∃ d, (Node.ofJson (detailsJson actions)).json? = some d ∧ ListedIn actions d := by
  refine ⟨.object [("fieldActions", .array (actions.map fun a => .object a.members))], ?_, _, _, rfl, rfl, ?_⟩
  · rw [detailsJson, Node.ofJson, Node.ofMembers, Node.ofMembers, Node.json?, Node.jsonMembers?, Node.jsonMembers?,
      Node.ofJson, Node.json?, jsonItems?_ofItems]
    rfl
  · refine List.forall₂_map_right_iff.mpr (List.forall₂_same.mpr fun a _ => ?_)
    exact ⟨_, rfl, rfl, rfl, rfl⟩

end FieldAction

/-- Details that the schema of a built-in type does not reject are applied by the handler of the type. -/
theorem Policy.exists_apply_of_validate {p : Policy} {t : PolicyType} {id : Int}
    (ht : t = .metadata id ∨ t = .tag id) (hd : p.details.Distinct) (hvalid : p.validate Schema.validate t = .ok ()) :
    ∃ h actions, Registry.defaults.handlerFor t = .ok h ∧ FieldAction.ListedIn actions p.details ∧
      (∀ a ∈ actions, a.name ≠ "") ∧
      ∀ document sequence, h.apply document p sequence = (FieldAction.applyAll document actions, .ok .goOn) := by
  have hbound : t.Bound := by
    rcases ht with rfl | rfl
    · exact .inl rfl
    · exact .inr rfl
  have hdefinition : t.definition = some PolicyType.fieldActionsSchema := by
    rcases ht with rfl | rfl <;> rfl
  have haccepted : Schema.validate p.details PolicyType.fieldActionsSchema = [] := by
    rw [validate, hdefinition] at hvalid
    dsimp only at hvalid
    split at hvalid
    · assumption
    · cases hvalid
  obtain ⟨actions, hlisted, hnames⟩ := Schema.validate_fieldActions_iff.mp haccepted
  refine ⟨Handler.fieldActions t.handler, actions, ?_, hlisted, hnames, fun document sequence => ?_⟩
  · rw [Registry.defaults_handlerFor, if_pos hbound]
  · have hread : p.fieldActions = .ok actions := by
      rw [fieldActions, FieldAction.parseDetails_of_listedIn hlisted hd]
    simp [Handler.fieldActions, hread]

namespace FieldAction

/-- The schema of the built-in types and the reading of field actions agree. Details that the schema accepts are
read as the actions that they list, one for each element, and the handler of the type applies them. Actions with
names are written as details that the schema accepts and that are read as the same actions, before and after
the members have been put in order. -/
theorem schema_agrees_with_reading :
    (∀ p : Policy, p.details.Distinct → Schema.validate p.details PolicyType.fieldActionsSchema = [] →
      ∃ actions, ListedIn actions p.details ∧ (∀ a ∈ actions, a.name ≠ "") ∧ p.fieldActions = .ok actions) ∧
    (∀ (p : Policy) (t : PolicyType) (id : Int), t = .metadata id ∨ t = .tag id → p.details.Distinct →
      p.validate Schema.validate t = .ok () → ∃ h actions, Registry.defaults.handlerFor t = .ok h ∧
        p.fieldActions = .ok actions ∧
        ∀ document sequence, h.apply document p sequence = (applyAll document actions, .ok .goOn)) ∧
    ∀ actions : List FieldAction, (∀ a ∈ actions, a.name ≠ "") →
      ∃ d, (Node.ofJson (detailsJson actions)).json? = some d ∧ ∀ x ∈ [detailsJson actions, d],
        Schema.validate x PolicyType.fieldActionsSchema = [] ∧ parseDetails x = .ok actions := by
  have hread {p : Policy} {actions : List FieldAction} (h : ListedIn actions p.details) (hd : p.details.Distinct) :
      p.fieldActions = .ok actions := by
    rw [Policy.fieldActions, parseDetails_of_listedIn h hd]
  refine ⟨fun p hd haccepted => ?_, fun p t id ht hd hvalid => ?_, fun actions hnames => ?_⟩
  · obtain ⟨actions, hlisted, hnames⟩ := Schema.validate_fieldActions_iff.mp haccepted
    exact ⟨actions, hlisted, hnames, hread hlisted hd⟩
  · obtain ⟨h, actions, hhandler, hlisted, -, happly⟩ := Policy.exists_apply_of_validate ht hd hvalid
    exact ⟨h, actions, hhandler, hread hlisted hd, happly⟩
  · obtain ⟨d, hd, hlisted⟩ := exists_read_detailsJson actions
    refine ⟨d, hd, fun x hx => ?_⟩
    have hx : ListedIn actions x ∧ x.Distinct := by
      rcases List.mem_cons.mp hx with rfl | hx
      · exact ⟨listedIn_detailsJson actions, distinct_detailsJson actions⟩
      · obtain rfl := List.mem_singleton.mp hx
        exact ⟨hlisted, Node.distinct_of_json? _ _ hd⟩
    exact ⟨Schema.validate_fieldActions_iff.mpr ⟨actions, hx.1, hnames⟩, parseDetails_of_listedIn hx.1 hx.2⟩

def annotated : Policy where
  id := 1
  name := "annotated"
  description := none
  typeId := 7
  priority := 0
  details := .object [
    ("comment", .null),
    ("fieldActions", .array [
      .object [
        ("action", .string "ADD_FIELD_VALUE"), ("name", .string "größe"), ("note", .int 1), ("value", .string "")],
      .object [("action", .string "SET_FIELD_VALUE"), ("name", .string "a"), ("value", .string "b")]])]

theorem schema_agrees_with_reading_of_annotated :
    annotated.details.Distinct ∧ annotated.validate Schema.validate (.tag 7) = .ok () ∧
      (∃ actions, ListedIn actions annotated.details ∧ (∀ a ∈ actions, a.name ≠ "") ∧
        annotated.fieldActions = .ok actions) ∧
      (∃ h actions, Registry.defaults.handlerFor (.tag 7) = .ok h ∧ annotated.fieldActions = .ok actions ∧
        ∀ document sequence, h.apply document annotated sequence = (applyAll document actions, .ok .goOn)) ∧
      annotated.fieldActions = .ok [⟨"größe", .add, ""⟩, ⟨"a", .set, "b"⟩] ∧
      ∃ d, (Node.ofJson (detailsJson [⟨"größe", .add, ""⟩])).json? = some d ∧
        ∀ x ∈ [detailsJson [⟨"größe", .add, ""⟩], d],
          Schema.validate x PolicyType.fieldActionsSchema = [] ∧ parseDetails x = .ok [⟨"größe", .add, ""⟩] := by
  have hd : annotated.details.Distinct :=
    Node.distinct_of_json? (Node.ofJson annotated.details) _ (by decide +kernel)
  have hvalid : annotated.validate Schema.validate (.tag 7) = .ok () := by rfl
  obtain ⟨hread, hhandled, hwritten⟩ := schema_agrees_with_reading
  refine ⟨hd, hvalid, hread annotated hd ?_, hhandled annotated (.tag 7) 7 (.inr rfl) hd hvalid, ?_,
    hwritten [⟨"größe", .add, ""⟩] ?_⟩
  · decide +kernel
  · rfl
  · decide

end FieldAction

end Filing
