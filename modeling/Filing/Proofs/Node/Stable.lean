import Filing.Node.Reading
import Filing.Proofs.Index
import Filing.Proofs.Json.Proper

/-!
# Reading what has been written

A reader accepts many forms of one value, and a writer has one form. Together they are stable if what has been read
is written in a form that reads the same again. The parts of a record are stable on their own, whether they have to be
there or not, and so a record is stable if its parts are.
-/

namespace Filing

namespace Node

@[simp] theorem ofItems_eq_map (xs : List Json) : ofItems xs = xs.map ofJson := by
  induction xs with
  | nil => rfl
  | cons x xs ih => rw [ofItems, ih, List.map_cons]

@[simp] theorem ofMembers_eq_map (ms : List (String × Json)) :
    ofMembers ms = ms.map fun m => (.text m.1, ofJson m.2) := by
  induction ms with
  | nil => rfl
  | cons m ms ih => rw [ofMembers, ih, List.map_cons]

def Given (part : Option Node) : Prop := ∀ node ∈ part, ∃ v : Json, v.Proper ∧ node = ofJson v

theorem Given.none : Given none := fun _ h => nomatch h

theorem Given.some {v : Json} (h : v.Proper) : Given (some (ofJson v)) := by
  intro node hnode
  obtain rfl := Option.some.inj hnode
  exact ⟨v, h, rfl⟩

theorem given_of_placeMembers {names : List String} {ms : List (String × Json)} (hms : ∀ m ∈ ms, m.2.Proper) :
    ∀ {slots parts : List (Option Node)}, (∀ part ∈ slots, Given part) →
      placeMembers names slots (ofMembers ms) = some parts → ∀ part ∈ parts, Given part := by
  induction ms with
  | nil =>
    intro slots parts hslots h
    obtain rfl := Option.some.inj h
    exact hslots
  | cons m ms ih =>
    replace ih {slots parts} := @ih (fun m' hm' => hms m' (List.mem_cons_of_mem m hm')) slots parts
    intro slots parts hslots h
    simp only [ofMembers, placeMembers, fieldPlace?] at h
    split at h
    · cases h
    · exact ih hslots h
    · split at h
      · refine ih (fun part hpart => ?_) h
        rcases List.mem_or_eq_of_mem_set hpart with hpart | rfl
        · exact hslots part hpart
        · exact .some (hms m List.mem_cons_self)
      · cases h

theorem given_of_fields? {v : Json} (hv : v.Proper) {names : List String} {parts : List (Option Node)}
    (h : (ofJson v).fields? names = some parts) : ∀ part ∈ parts, Given part := by
  cases v with
  | object ms =>
    refine given_of_placeMembers (fun m hm => hv.member hm) (fun part hpart => ?_) h
    obtain ⟨_, -, rfl⟩ := List.mem_map.mp hpart
    exact .none
  | array xs =>
    simp only [ofJson, fields?, ofItems_eq_map] at h
    split at h
    · obtain rfl := Option.some.inj h
      intro part hpart
      rcases List.mem_append.mp hpart with hpart | hpart
      · rw [List.map_map] at hpart
        obtain ⟨x, hx, rfl⟩ := List.mem_map.mp hpart
        exact .some (hv.item hx)
      · rw [List.eq_of_mem_replicate hpart]
        exact .none
    · cases h
  | null => cases h
  | bool b => cases h
  | int n => cases h
  | double x => cases h
  | string s => cases h

theorem length_placeMembers {names : List String} {ms : List (Node × Node)} :
    ∀ {slots parts : List (Option Node)}, placeMembers names slots ms = some parts → parts.length = slots.length := by
  induction ms with
  | nil =>
    intro slots parts h
    obtain rfl := Option.some.inj h
    rfl
  | cons m ms ih =>
    intro slots parts h
    unfold placeMembers at h
    split at h
    · cases h
    · exact ih h
    · split at h
      · rw [ih h, List.length_set]
      · cases h

theorem length_of_fields? {names : List String} {node : Node} {parts : List (Option Node)}
    (h : node.fields? names = some parts) : parts.length = names.length := by
  unfold fields? at h
  split at h
  · rw [length_placeMembers h, List.length_map]
  · split at h
    · obtain rfl := Option.some.inj h
      simp only [List.length_append, List.length_map, List.length_replicate]
      omega
    · cases h
  · split at h
    · obtain rfl := Option.some.inj h
      rw [List.length_map]
    · cases h
  · cases h

theorem idxOf?_append {name : String} {before after : List String} (h : name ∉ before) :
    (before ++ name :: after).idxOf? name = some before.length := by
  induction before with
  | nil => simp [List.idxOf?_cons]
  | cons other before ih =>
    have ⟨hne, hout⟩ := List.ne_and_not_mem_of_not_mem_cons h
    simp [List.idxOf?_cons, ih hout, Ne.symm hne]

theorem placeMembers_present {names : List String} {rest : List (String × Option Json)} :
    ∀ {before : List String} {slots : List (Option Node)}, names = before ++ rest.map Prod.fst → names.Nodup →
      slots.length = before.length →
      placeMembers names (slots ++ rest.map fun _ => none) (ofMembers (Json.present rest)) =
        some (slots ++ rest.map fun f => f.2.map ofJson) := by
  induction rest with
  | nil => exact fun _ _ _ => rfl
  | cons f rest ih =>
    obtain ⟨name, part⟩ := f
    intro before slots hnames hn hlength
    have hnames' : names = (before ++ [name]) ++ rest.map Prod.fst := by
      rw [hnames, List.map_cons, List.append_assoc, List.singleton_append]
    have hnext (part : Option Node) := @ih _ (slots ++ [part]) hnames' hn (by simp [hlength])
    cases part with
    | none =>
      have h := hnext none
      rw [List.append_assoc, List.append_assoc] at h
      exact h
    | some x =>
      have hout : name ∉ before := by
        rw [hnames] at hn
        exact fun hm => (List.nodup_append.mp hn).2.2 name hm name List.mem_cons_self rfl
      have hplace : names.idxOf? name = some slots.length := by
        rw [hnames, hlength]
        exact idxOf?_append hout
      have hfree : (slots ++ ((name, some x) :: rest).map fun _ => (none : Option Node))[slots.length]? =
          some none := by simp
      have hset : (slots ++ ((name, some x) :: rest).map fun _ => (none : Option Node)).set slots.length
          (some (ofJson x)) = (slots ++ [some (ofJson x)]) ++ rest.map fun _ => none := by simp
      have hpresent : Json.present ((name, some x) :: rest) = (name, x) :: Json.present rest := rfl
      rw [hpresent, ofMembers, placeMembers, fieldPlace?, hplace]
      simp only [hfree, hset, hnext]
      simp

theorem fields?_present {fields : List (String × Option Json)} (hn : (fields.map Prod.fst).Nodup) :
    (ofJson (.object (Json.present fields))).fields? (fields.map Prod.fst) =
      some (fields.map fun f => f.2.map ofJson) := by
  have h := @placeMembers_present _ fields [] [] rfl hn rfl
  rw [ofJson, fields?, List.map_map]
  exact h

theorem mem_of_mapM {α β : Type} {f : α → Option β} : ∀ {xs : List α} {ys : List β},
    xs.mapM f = some ys → ∀ y ∈ ys, ∃ x ∈ xs, f x = some y := by
  intro xs
  induction xs with
  | nil =>
    intro ys h
    obtain rfl := Option.some.inj h
    exact fun y hy => nomatch hy
  | cons x xs ih =>
    intro ys h
    simp only [List.mapM_cons, Option.bind_eq_bind, Option.bind_eq_some_iff] at h
    obtain ⟨z, hz, zs, hzs, he⟩ := h
    obtain rfl := Option.some.inj he
    intro y hy
    rcases List.mem_cons.mp hy with rfl | hy
    · exact ⟨x, List.mem_cons_self, hz⟩
    · obtain ⟨w, hw, hwy⟩ := ih hzs y hy
      exact ⟨w, List.mem_cons_of_mem x hw, hwy⟩

theorem mapM_eq_some {α β : Type} {f : α → Option β} {g : β → α} {ys : List β} (h : ∀ y ∈ ys, f (g y) = some y) :
    (ys.map g).mapM f = some ys := by
  induction ys with
  | nil => rfl
  | cons y ys ih =>
    rw [List.map_cons, List.mapM_cons, h y List.mem_cons_self, ih fun z hz => h z (List.mem_cons_of_mem y hz)]
    rfl

theorem members?_ofJson (ms : List (String × Json)) :
    (ofJson (.object ms)).members? = some (ms.map fun m => (m.1, ofJson m.2)) := by
  have h : ((ms.map fun m => (m.1, ofJson m.2)).map fun m => (text m.1, m.2)).mapM
      (fun m : Node × Node => m.1.text?.map (·, m.2)) = some (ms.map fun m => (m.1, ofJson m.2)) :=
    mapM_eq_some fun _ _ => rfl
  rw [List.map_map] at h
  rw [ofJson, ofMembers_eq_map]
  exact h

section Stable
variable {α : Type} {read : Node → Option α} {write : α → Json}

/-- What is read of a value is written as a value that reads the same again. -/
def Stable (read : Node → Option α) (write : α → Json) : Prop :=
  ∀ v x, v.Proper → read (ofJson v) = some x → (write x).Proper ∧ read (ofJson (write x)) = some x

def StablePart (read : Option Node → Option α) (write : α → Option Json) : Prop :=
  ∀ part x, Given part → read part = some x →
    (∀ v ∈ write x, v.Proper) ∧ read ((write x).map ofJson) = some x

theorem Stable.required (h : Stable read write) : StablePart (required read) fun x => some (write x) := by
  intro part x hpart hx
  obtain ⟨node, rfl, hx⟩ := Option.bind_eq_some_iff.mp hx
  obtain ⟨v, hv, rfl⟩ := hpart node rfl
  obtain ⟨hproper, hread⟩ := h v x hv hx
  refine ⟨fun w hw => ?_, hread⟩
  obtain rfl := Option.some.inj hw
  exact hproper

theorem Stable.withDefault (h : Stable read write) {default : α} (hproper : (write default).Proper)
    (hread : read (ofJson (write default)) = some default) :
    StablePart (withDefault read default) fun x => some (write x) := by
  intro part x hpart hx
  cases part with
  | none =>
    obtain rfl := Option.some.inj hx
    refine ⟨fun w hw => ?_, hread⟩
    obtain rfl := Option.some.inj hw
    exact hproper
  | some node => exact h.required (some node) x hpart hx

theorem optional?_ofJson {v : Json} (h : v ≠ .null) : optional? read (ofJson v) = (read (ofJson v)).map some := by
  cases v with
  | null => exact absurd rfl h
  | _ =>
    simp only [ofJson, optional?, Option.bind_eq_bind, Option.map_eq_bind]
    rfl

theorem Stable.optional (h : Stable read write)
    (hnull : ∀ v x, v.Proper → v ≠ .null → read (ofJson v) = some x → write x ≠ .null) :
    StablePart (Node.withDefault (optional? read) none) fun x => x.map write := by
  have habsent : (∀ v ∈ (none : Option α).map write, v.Proper) ∧
      Node.withDefault (optional? read) none (((none : Option α).map write).map ofJson) = some none :=
    ⟨fun _ hw => (nomatch hw), rfl⟩
  intro part x hpart hx
  cases part with
  | none =>
    obtain rfl := Option.some.inj hx
    exact habsent
  | some node =>
    obtain ⟨v, hv, rfl⟩ := hpart node rfl
    by_cases hne : v = .null
    · subst hne
      obtain rfl := Option.some.inj hx
      exact habsent
    · rw [Node.withDefault, optional?_ofJson hne] at hx
      obtain ⟨y, hy, rfl⟩ := Option.map_eq_some_iff.mp hx
      obtain ⟨hproper, hread⟩ := h v y hv hy
      refine ⟨fun w hw => ?_, ?_⟩
      · obtain rfl := Option.some.inj hw
        exact hproper
      · simp only [Option.map_some, Node.withDefault, optional?_ofJson (hnull v y hv hne hy), hread]

theorem exists_of_list? {v : Json} (hv : v.Proper) {xs : List α} (h : list? read (ofJson v) = some xs) :
    ∀ x ∈ xs, ∃ w : Json, w.Proper ∧ read (ofJson w) = some x := by
  cases v with
  | array vs =>
    simp only [ofJson, list?, items?, Option.bind_eq_bind, Option.bind_some, ofItems_eq_map] at h
    intro x hx
    obtain ⟨node, hnode, hread⟩ := mem_of_mapM h x hx
    obtain ⟨w, hw, rfl⟩ := List.mem_map.mp hnode
    exact ⟨w, hv.item hw, hread⟩
  | null => cases h
  | bool b => cases h
  | int n => cases h
  | double x => cases h
  | string s => cases h
  | object ms => cases h

theorem list?_map {xs : List α} (h : ∀ x ∈ xs, (write x).Proper ∧ read (ofJson (write x)) = some x) :
    (Json.array (xs.map write)).Proper ∧ list? read (ofJson (.array (xs.map write))) = some xs := by
  refine ⟨.array fun w hw => ?_, ?_⟩
  · obtain ⟨x, hx, rfl⟩ := List.mem_map.mp hw
    exact (h x hx).1
  · simp only [ofJson, list?, items?, Option.bind_eq_bind, Option.bind_some, ofItems_eq_map, List.map_map]
    exact mapM_eq_some fun x hx => (h x hx).2

theorem Stable.list (h : Stable read write) : Stable (list? read) fun xs => .array (xs.map write) := by
  intro v xs hv hxs
  refine list?_map fun x hx => ?_
  obtain ⟨w, hw, hread⟩ := exists_of_list? hv hxs x hx
  exact h w x hw hread

theorem Stable.orEmpty (h : Stable read write) :
    StablePart (Node.withDefault (list? read) []) fun xs => some (.array (xs.map write)) :=
  h.list.withDefault .empty rfl

end Stable

/-- A part of a record: its name, what it may be read as, and what is written of it. -/
structure Slot (α : Type) where
  name : String
  Reads : Option Node → α → Prop
  write : α → Option Json

def Slot.of {α β : Type} (name : String) (read : Option Node → Option β) (write : β → Option Json) (get : α → β) :
    Slot α where
  name
  Reads part x := read part = some (get x)
  write x := write (get x)

def Slot.Keeps {α : Type} (slot : Slot α) (x : α) : Prop :=
  ∀ part, Given part → slot.Reads part x →
    (∀ v ∈ slot.write x, v.Proper) ∧ slot.Reads ((slot.write x).map ofJson) x

theorem StablePart.keeps {α β : Type} {read : Option Node → Option β} {write : β → Option Json} {get : α → β}
    {name : String} (h : StablePart read write) (x : α) : (Slot.of name read write get).Keeps x :=
  fun part => h part (get x)

theorem reads_written {α : Type} {x : α} {slots : List (Slot α)} (hkeeps : ∀ slot ∈ slots, slot.Keeps x) :
    ∀ {parts : List (Option Node)}, (∀ part ∈ parts, Given part) → List.Forall₂ (·.Reads · x) slots parts →
      (∀ slot ∈ slots, ∀ v ∈ slot.write x, v.Proper) ∧
        List.Forall₂ (·.Reads · x) slots (slots.map fun slot => (slot.write x).map ofJson) := by
  induction slots with
  | nil => exact fun _ _ => ⟨nofun, .nil⟩
  | cons slot slots ih =>
    intro parts hgiven hreads
    cases hreads with
    | @cons _ part _ parts hpart hparts =>
      obtain ⟨hslot, hslots⟩ := List.forall_mem_cons.mp hkeeps
      obtain ⟨hfirst, hrest⟩ := List.forall_mem_cons.mp hgiven
      obtain ⟨hproper, hread⟩ := hslot part hfirst hpart
      obtain ⟨hpropers, hreads⟩ := ih hslots hrest hparts
      exact ⟨List.forall_mem_cons.mpr ⟨hproper, hpropers⟩, .cons hread hreads⟩

section IsRecord
variable {α : Type} {slots : List (Slot α)} {make : List (Option Node) → Option α} {read : Node → Option α}
  {write : α → Json}

/-- The reader and the writer go through the same parts in the same order. -/
structure IsRecord (slots : List (Slot α)) (read : Node → Option α) (write : α → Json) : Prop where
  nodup : (slots.map Slot.name).Nodup
  read_iff : ∀ node x, read node = some x ↔
    ∃ parts, node.fields? (slots.map Slot.name) = some parts ∧ List.Forall₂ (·.Reads · x) slots parts
  write_eq : ∀ x, write x = .object (Json.present (slots.map fun slot => (slot.name, slot.write x)))

theorem read_iff_of_make (hread : ∀ node, read node = (node.fields? (slots.map Slot.name)).bind make)
    (hmake : ∀ parts x, parts.length = slots.length →
      (make parts = some x ↔ List.Forall₂ (·.Reads · x) slots parts)) (node : Node) (x : α) :
    read node = some x ↔
      ∃ parts, node.fields? (slots.map Slot.name) = some parts ∧ List.Forall₂ (·.Reads · x) slots parts := by
  rw [hread, Option.bind_eq_some_iff]
  refine exists_congr fun parts => and_congr_right fun hparts => hmake parts x ?_
  rw [length_of_fields? hparts, List.length_map]

/-- A record reads the same if its parts do. -/
theorem IsRecord.read_write (h : IsRecord slots read write) {v : Json} {x : α}
    (hkeeps : ∀ slot ∈ slots, slot.Keeps x) (hv : v.Proper) (hx : read (ofJson v) = some x) :
    (write x).Proper ∧ read (ofJson (write x)) = some x := by
  obtain ⟨parts, hfields, hparts⟩ := (h.read_iff _ x).mp hx
  obtain ⟨hproper, hreads⟩ := reads_written hkeeps (given_of_fields? hv hfields) hparts
  have hnames : (slots.map fun slot => (slot.name, slot.write x)).map Prod.fst = slots.map Slot.name := by
    rw [List.map_map]
    rfl
  have hwritten := fields?_present (hnames ▸ h.nodup)
  rw [hnames, List.map_map] at hwritten
  rw [h.write_eq]
  exact ⟨.present (List.forall_mem_map.mpr hproper), (h.read_iff _ x).mpr ⟨_, hwritten, hreads⟩⟩

theorem IsRecord.stable (h : IsRecord slots read write) (hkeeps : ∀ x, ∀ slot ∈ slots, slot.Keeps x) :
    Stable read write :=
  fun _ x hv hx => h.read_write (hkeeps x) hv hx

end IsRecord

theorem stable_text : Stable text? .string := by
  intro v s hv h
  exact ⟨.string s, rfl⟩

theorem stable_texts : Stable (list? text?) .strings := stable_text.list

theorem stable_bool : Stable bool? .bool := by
  intro v b hv h
  exact ⟨.bool b, rfl⟩

theorem isSigned_of_id? {v : Json} {n : Int} (h : (ofJson v).id? = some n) : isSigned 64 n = true :=
  (Option.filter_eq_some_iff.mp h).2

theorem stable_id : Stable id? .int := by
  intro v n hv h
  have hsigned := isSigned_of_id? h
  exact ⟨.int (.inl hsigned), Option.filter_eq_some_iff.mpr ⟨rfl, hsigned⟩⟩

theorem stable_rank : Stable rank? .int := by
  intro v n hv h
  have hsigned := (Option.filter_eq_some_iff.mp h).2
  refine ⟨.int (.inl ?_), Option.filter_eq_some_iff.mpr ⟨rfl, hsigned⟩⟩
  simp only [isSigned, Bool.and_eq_true, decide_eq_true_eq] at hsigned ⊢
  have hshort : (Nat.pow 2 (32 - 1) : Int) = 2147483648 := rfl
  have hlong : (Nat.pow 2 (64 - 1) : Int) = 9223372036854775808 := rfl
  omega

theorem jsonItems?_eq_mapM (nodes : List Node) : jsonItems? nodes = nodes.mapM json? := by
  induction nodes with
  | nil => rfl
  | cons node nodes ih =>
    rw [jsonItems?, ih, List.mapM_cons]

def jsonMember? (m : Node × Node) : Option (String × Json) := do return (← m.1.text?, ← m.2.json?)

theorem jsonMembers?_eq_mapM (nodes : List (Node × Node)) : jsonMembers? nodes = nodes.mapM jsonMember? := by
  induction nodes with
  | nil => rfl
  | cons m nodes ih =>
    rw [jsonMembers?, ih, List.mapM_cons, jsonMember?]
    simp only [Option.bind_eq_bind, Option.pure_def, Option.bind_assoc, Option.bind_some]

theorem jsonMember?_ofJson {name : String} {v x : Json} {k : String} :
    jsonMember? (.text name, ofJson v) = some (k, x) ↔ name = k ∧ json? (ofJson v) = some x := by
  simp only [jsonMember?, text?, Option.bind_eq_bind, Option.pure_def, Option.bind_some, Option.bind_eq_some_iff,
    Option.some.injEq, Prod.mk.injEq]
  constructor
  · rintro ⟨y, hy, rfl, rfl⟩
    exact ⟨rfl, hy⟩
  · rintro ⟨rfl, hx⟩
    exact ⟨x, hx, rfl, rfl⟩

/-- A free value is read with its members in order and without the doubled ones, and it stays so. -/
theorem stable_json : Stable json? fun x => x := by
  intro v x hv
  induction hv generalizing x with
  | null =>
    intro h
    obtain rfl := Option.some.inj h
    exact ⟨.null, rfl⟩
  | bool b =>
    intro h
    obtain rfl := Option.some.inj h
    exact ⟨.bool b, rfl⟩
  | int fits =>
    intro h
    obtain rfl := Option.some.inj h
    exact ⟨.int fits, rfl⟩
  | string s =>
    intro h
    obtain rfl := Option.some.inj h
    exact ⟨.string s, rfl⟩
  | double finite =>
    intro h
    rw [ofJson, json?, if_pos finite] at h
    obtain rfl := Option.some.inj h
    refine ⟨.double finite, ?_⟩
    rw [ofJson, json?, if_pos finite]
  | array items ih =>
    intro h
    rw [ofJson, json?, jsonItems?_eq_mapM, ofItems_eq_map] at h
    obtain ⟨ys, hys, rfl⟩ := Option.map_eq_some_iff.mp h
    have hitems : ∀ y ∈ ys, y.Proper ∧ json? (ofJson y) = some y := by
      intro y hy
      obtain ⟨node, hnode, hread⟩ := mem_of_mapM hys y hy
      obtain ⟨w, hw, rfl⟩ := List.mem_map.mp hnode
      exact ih w hw y hread
    refine ⟨.array fun y hy => (hitems y hy).1, ?_⟩
    rw [ofJson, json?, jsonItems?_eq_mapM, ofItems_eq_map, mapM_eq_some fun y hy => (hitems y hy).2,
      Option.map_some]
  | object members ih =>
    intro h
    rw [ofJson, json?, jsonMembers?_eq_mapM, ofMembers_eq_map] at h
    obtain ⟨ns, hns, rfl⟩ := Option.map_eq_some_iff.mp h
    have hmembers : ∀ m ∈ ns, m.2.Proper ∧ json? (ofJson m.2) = some m.2 := by
      intro m hm
      obtain ⟨node, hnode, hread⟩ := mem_of_mapM hns m hm
      obtain ⟨w, hw, rfl⟩ := List.mem_map.mp hnode
      exact ih w hw m.2 (jsonMember?_ofJson.mp hread).2
    have hread (m : String × Json)
        (hm : m ∈ (Index.ofList ns : Index (Prod.fst : String × Json → String)).items) :=
      hmembers m (Index.mem_of_mem_ofList hm)
    refine ⟨.object fun m hm => (hread m hm).1, ?_⟩
    rw [Json.ofMembers, ofJson, json?, jsonMembers?_eq_mapM, ofMembers_eq_map,
      mapM_eq_some fun m hm => jsonMember?_ofJson.mpr ⟨rfl, (hread m hm).2⟩, Option.map_some, Json.ofMembers,
      Index.ofList_items]

theorem ne_null_of_json? {v x : Json} (hv : v.Proper) (hne : v ≠ .null) (h : json? (ofJson v) = some x) :
    x ≠ .null := by
  rintro rfl
  cases hv with
  | null => exact hne rfl
  | double finite =>
    rw [ofJson, json?, if_pos finite] at h
    cases h
  | array items =>
    obtain ⟨ys, -, he⟩ := Option.map_eq_some_iff.mp h
    cases he
  | object members =>
    obtain ⟨ns, -, he⟩ := Option.map_eq_some_iff.mp h
    cases he
  | bool b => cases h
  | int fits => cases h
  | string s => cases h

theorem stable_text_orEmpty : StablePart (withDefault text? "") fun s => some (.string s) :=
  stable_text.withDefault (.string "") rfl

theorem stable_texts_orEmpty : StablePart (withDefault (list? text?) []) fun xs => some (.strings xs) :=
  stable_texts.withDefault .empty rfl

theorem stable_bool_orFalse : StablePart (withDefault bool? false) fun b => some (.bool b) :=
  stable_bool.withDefault (.bool false) rfl

theorem stable_rank_orZero : StablePart (withDefault rank? 0) fun n => some (.int n) :=
  stable_rank.withDefault (.int (.inl rfl)) rfl

theorem stable_json_orNull : StablePart (withDefault json? .null) some :=
  stable_json.withDefault .null rfl

theorem stable_optional_text : StablePart (withDefault (optional? text?) none) fun x => x.map .string :=
  stable_text.optional fun _ _ _ _ _ => nofun

theorem stable_optional_id : StablePart (withDefault (optional? id?) none) fun x => x.map .int :=
  stable_id.optional fun _ _ _ _ _ => nofun

theorem stable_optional_json : StablePart (withDefault (optional? json?) none) fun x => x := by
  have h : StablePart (withDefault (optional? json?) none) fun x => x.map fun x => x :=
    stable_json.optional fun _ _ => ne_null_of_json?
  simp only [Option.map_id'] at h
  exact h

end Node

end Filing
