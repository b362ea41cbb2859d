import Filing.Condition.Json
import Filing.Condition.Reading
import Filing.Proofs.Node.Stable

/-!
# Conditions read again

A condition may be read from a mapping or from a sequence, with its kind by name or by number, with its defaults left
out, and with an integer where a double is meant. It is written in one form only. That form reads the same at any
depth that is enough for it, and inside of other conditions as well.
-/

namespace Filing

namespace Node

mutual

theorem settle_ofJson : ∀ v : Json, (ofJson v).settle = some (ofJson v)
  | .null => rfl
  | .bool _ => rfl
  | .int _ => rfl
  | .double _ => rfl
  | .string _ => rfl
  | .array xs => by rw [ofJson, settle, settleItems_ofItems xs, Option.map_some]
  | .object ms => by rw [ofJson, settle, settleMembers_ofMembers ms, Option.map_some]

theorem settleItems_ofItems : ∀ xs : List Json, settleItems (ofItems xs) = some (ofItems xs)
  | [] => rfl
  | x :: xs => by
    rw [ofItems, settleItems, settle_ofJson x, settleItems_ofItems xs]
    rfl

theorem settleMembers_ofMembers : ∀ ms : List (String × Json), settleMembers (ofMembers ms) = some (ofMembers ms)
  | [] => rfl
  | (k, x) :: ms => by
    rw [ofMembers, settleMembers, settle_ofJson x, settleMembers_ofMembers ms]
    rfl

end

theorem depth_le_depthItems {nodes : List Node} {node : Node} (h : node ∈ nodes) : node.depth ≤ depthItems nodes := by
  induction nodes with
  | nil => cases h
  | cons other nodes ih =>
    rw [depthItems]
    rcases List.mem_cons.mp h with rfl | h
    · omega
    · have hrest := ih h
      omega

theorem depth_pos (node : Node) : 0 < node.depth := by
  cases node <;> simp [depth]

end Node

namespace Condition
open Node

theorem splitKind_ofMembers {byNumber : Bool} {ms : List (String × Json)} (h : ∀ m ∈ ms, m.1 ≠ "type") :
    splitKind byNumber (ofMembers ms) = some (none, ofMembers ms) := by
  induction ms with
  | nil => rfl
  | cons m ms ih =>
    have hm := h m List.mem_cons_self
    rw [ofMembers, splitKind, ih fun m' hm' => h m' (List.mem_cons_of_mem m hm')]
    simp only [Option.bind_eq_bind, Option.bind_some]
    split
    · rename_i he
      exact absurd (Node.text.inj he) hm
    · rfl

theorem parts?_present {kind : String} {names : List String} {i : Nat} (byNumber : Bool)
    (fields : List (String × Option Json)) (hplace : (kinds.map Prod.fst).idxOf? kind = some i)
    (hkind : kinds[i]? = some (kind, names)) (hnames : fields.map Prod.fst = names) (hn : names.Nodup)
    (htype : "type" ∉ names) :
    parts? byNumber (ofJson (.object (("type", .string kind) :: Json.present fields))) =
      some (kind, fields.map fun f => f.2.map ofJson) := by
  have hother : ∀ m ∈ Json.present fields, m.1 ≠ "type" := by
    intro m hm he
    obtain ⟨f, hf, hfm⟩ := List.mem_filterMap.mp hm
    obtain ⟨x, -, rfl⟩ := Option.map_eq_some_iff.mp hfm
    apply htype
    rw [← hnames, ← he]
    exact List.mem_map_of_mem hf
  have hsplit : splitKind byNumber (ofMembers (("type", .string kind) :: Json.present fields)) =
      some (some i, ofMembers (Json.present fields)) := by
    rw [ofMembers, splitKind, splitKind_ofMembers hother]
    simp only [Option.bind_eq_bind, Option.bind_some, ofJson, position?, hplace]
    rfl
  have hfields := fields?_present (hnames ▸ hn)
  rw [ofJson, hnames] at hfields
  rw [ofJson, parts?, hsplit]
  simp only [Option.bind_eq_bind, Option.bind_some, hkind, hfields]
  rfl

/-- What has been read reads the same when it is written, as far down as it goes. -/
structure Kept (c : Condition) : Prop where
  proper : c.toJson.Proper
  read : ∀ fuel byNumber, (ofJson c.toJson).depth ≤ fuel →
    readSettled? fuel byNumber (ofJson c.toJson) = some c

def SoundTest : Test → Prop
  | .number _ x => x.isFinite = true
  | .lexicon id _ => isSigned 64 id = true
  | _ => True

theorem choice?_modes (mode : TextMode) : choice? modes (ofJson (.string mode.name)) = some mode := by
  cases mode <;> rfl

theorem choice?_dateOperators (operator : DateOperator) :
    choice? dateOperators (ofJson (.string operator.name)) = some operator := by
  cases operator <;> rfl

theorem choice?_numberOperators (operator : NumberOperator) :
    choice? numberOperators (ofJson (.string operator.name)) = some operator := by
  cases operator <;> rfl

def leafFields (l : Leaf) : List (String × Option Json) :=
  ("field", some (.string l.field)) :: l.test.members.map fun m => (m.1, some m.2)

theorem toJson_leaf (l : Leaf) :
    (leaf l).toJson = .object (("type", .string l.test.kind) :: Json.present (leafFields l)) := by
  obtain ⟨field, test⟩ := l
  cases test <;> rfl

theorem parts?_leaf (byNumber : Bool) (l : Leaf) : parts? byNumber (ofJson (leaf l).toJson) =
    some (l.test.kind, (leafFields l).map fun f => f.2.map ofJson) := by
  rw [toJson_leaf]
  obtain ⟨field, test⟩ := l
  cases test <;> exact parts?_present byNumber _ rfl rfl rfl (by decide) (by decide)

theorem readLeaf?_leafFields {l : Leaf} (h : SoundTest l.test) :
    readLeaf? l.test.kind ((leafFields l).map fun f => f.2.map ofJson) = some l := by
  obtain ⟨field, test⟩ := l
  cases test with
  | text value mode caseSensitive =>
    have hmode := choice?_modes mode
    simp only [leafFields, Test.members, Test.kind, readLeaf?, List.map_cons, List.map_nil, Option.map_some, required,
      withDefault, Option.bind_some, hmode]
    rfl
  | regex pattern => rfl
  | date operator value =>
    have hoperator := choice?_dateOperators operator
    simp only [leafFields, Test.members, Test.kind, readLeaf?, List.map_cons, List.map_nil, Option.map_some, required,
      Option.bind_some, hoperator]
    rfl
  | number operator value =>
    have hoperator := choice?_numberOperators operator
    simp only [leafFields, Test.members, Test.kind, readLeaf?, List.map_cons, List.map_nil, Option.map_some, required,
      Option.bind_some, hoperator]
    rfl
  | present => rfl
  | lexicon id wholeValue =>
    have hid : (ofJson (.int id)).id? = some id := Option.filter_eq_some_iff.mpr ⟨rfl, h⟩
    simp only [leafFields, Test.members, Test.kind, readLeaf?, List.map_cons, List.map_nil, Option.map_some, required,
      withDefault, Option.bind_some, hid]
    rfl
  | expression words => rfl

theorem proper_leaf {l : Leaf} (h : SoundTest l.test) : (leaf l).toJson.Proper := by
  obtain ⟨field, test⟩ := l
  refine .object fun m hm => ?_
  rcases List.mem_cons.mp hm with rfl | hm
  · exact .string _
  rcases List.mem_cons.mp hm with rfl | hm
  · exact .string _
  cases test with
  | text value mode caseSensitive =>
    simp only [Test.members, List.mem_cons, List.not_mem_nil, or_false] at hm
    rcases hm with rfl | rfl | rfl
    · exact .string _
    · exact .string _
    · exact .bool _
  | regex pattern =>
    obtain rfl := List.mem_singleton.mp hm
    exact .string _
  | date operator value =>
    simp only [Test.members, List.mem_cons, List.not_mem_nil, or_false] at hm
    rcases hm with rfl | rfl
    · exact .string _
    · exact .string _
  | number operator value =>
    simp only [Test.members, List.mem_cons, List.not_mem_nil, or_false] at hm
    rcases hm with rfl | rfl
    · exact .string _
    · exact .double h
  | present => exact absurd hm List.not_mem_nil
  | lexicon id wholeValue =>
    simp only [Test.members, List.mem_cons, List.not_mem_nil, or_false] at hm
    rcases hm with rfl | rfl
    · exact .int (.inl h)
    · exact .bool _
  | expression words =>
    obtain rfl := List.mem_singleton.mp hm
    exact .string _

theorem exists_fuel {node : Node} {fuel : Nat} (h : node.depth ≤ fuel) : ∃ n, fuel = n + 1 :=
  Nat.exists_eq_succ_of_ne_zero (Nat.ne_of_gt (Nat.lt_of_lt_of_le node.depth_pos h))

theorem kept_leaf {l : Leaf} (h : SoundTest l.test) : Kept (.leaf l) := by
  refine ⟨proper_leaf h, fun fuel byNumber hfuel => ?_⟩
  obtain ⟨fuel, rfl⟩ := exists_fuel hfuel
  have hleaf : (readLeaf? l.test.kind ((leafFields l).map fun f => f.2.map ofJson)).bind (fun l => some (leaf l)) =
      some (leaf l) := by
    rw [readLeaf?_leafFields h]
    rfl
  rw [readSettled?, parts?_leaf]
  obtain ⟨field, test⟩ := l
  cases test <;> exact hleaf

theorem kept_reference {id : Int} (h : isSigned 64 id = true) : Kept (.reference id) := by
  have hparts (byNumber : Bool) : parts? byNumber (ofJson (reference id).toJson) =
      some ("reference", [some (ofJson (.int id))]) :=
    parts?_present byNumber [("condition_id", some (.int id))] rfl rfl rfl (by decide) (by decide)
  refine ⟨?_, fun fuel byNumber hfuel => ?_⟩
  · refine .object fun m hm => ?_
    simp only [List.mem_cons, List.not_mem_nil, or_false] at hm
    rcases hm with rfl | rfl
    · exact .string _
    · exact .int (.inl h)
  · obtain ⟨fuel, rfl⟩ := exists_fuel hfuel
    have hid : (ofJson (.int id)).id? = some id := Option.filter_eq_some_iff.mpr ⟨rfl, h⟩
    rw [readSettled?, hparts]
    simp only [Option.bind_eq_bind, Option.bind_some, required, hid]
    rfl

theorem kept_not {c : Condition} (h : Kept c) : Kept (.not c) := by
  have hparts (byNumber : Bool) : parts? byNumber (ofJson (Condition.not c).toJson) =
      some ("not", [some (ofJson c.toJson)]) :=
    parts?_present byNumber [("condition", some c.toJson)] rfl rfl rfl (by decide) (by decide)
  refine ⟨?_, fun fuel byNumber hfuel => ?_⟩
  · refine .object fun m hm => ?_
    simp only [List.mem_cons, List.not_mem_nil, or_false] at hm
    rcases hm with rfl | rfl
    · exact .string _
    · exact h.proper
  · obtain ⟨fuel, rfl⟩ := exists_fuel hfuel
    have hdepth : (ofJson c.toJson).depth ≤ fuel := by
      simp only [toJson, ofJson, ofMembers, Node.depth, depthMembers] at hfuel
      omega
    rw [readSettled?, hparts]
    simp only [Option.bind_eq_bind, Option.bind_some, h.read fuel true hdepth]
    rfl

theorem toJsonAll_eq_map (cs : List Condition) : toJsonAll cs = cs.map toJson := by
  induction cs with
  | nil => rfl
  | cons c cs ih => rw [toJsonAll, ih, List.map_cons]

theorem mapM_readSettled? {cs : List Condition} (h : ∀ c ∈ cs, Kept c) {fuel : Nat}
    (hfuel : depthItems (ofItems (toJsonAll cs)) ≤ fuel) :
    (ofItems (toJsonAll cs)).mapM (readSettled? fuel true) = some cs := by
  rw [toJsonAll_eq_map, ofItems_eq_map, List.map_map] at hfuel ⊢
  refine mapM_eq_some fun c hc => (h c hc).read fuel true ?_
  have hmem : ofJson c.toJson ∈ cs.map (ofJson ∘ toJson) := List.mem_map.mpr ⟨c, hc, rfl⟩
  exact Nat.le_trans (depth_le_depthItems hmem) hfuel

theorem proper_list {kind : String} {cs : List Condition} (h : ∀ c ∈ cs, Kept c) :
    (Json.object [("type", .string kind), ("conditions", .array (toJsonAll cs))]).Proper := by
  refine .object fun m hm => ?_
  simp only [List.mem_cons, List.not_mem_nil, or_false] at hm
  rcases hm with rfl | rfl
  · exact .string _
  · refine .array fun x hx => ?_
    rw [toJsonAll_eq_map] at hx
    obtain ⟨c, hc, rfl⟩ := List.mem_map.mp hx
    exact (h c hc).proper

theorem depth_list {kind : String} {cs : List Condition} {fuel : Nat}
    (h : (ofJson (.object [("type", .string kind), ("conditions", .array (toJsonAll cs))])).depth ≤ fuel + 1) :
    depthItems (ofItems (toJsonAll cs)) ≤ fuel := by
  simp only [ofJson, ofMembers, Node.depth, depthMembers] at h
  omega

theorem kept_of_list {kind : String} {i : Nat} {make : List Condition → Condition}
    (hplace : (kinds.map Prod.fst).idxOf? kind = some i) (hkind : kinds[i]? = some (kind, ["conditions"]))
    (hwrite : ∀ cs, (make cs).toJson = .object [("type", .string kind), ("conditions", .array (toJsonAll cs))])
    (hread : ∀ fuel byNumber node tagged positional nodes,
      parts? byNumber node = some (kind, [some (.sequence tagged positional nodes)]) →
        readSettled? (fuel + 1) byNumber node = (nodes.mapM (readSettled? fuel true)).map make)
    {cs : List Condition} (h : ∀ c ∈ cs, Kept c) : Kept (make cs) := by
  have hparts (byNumber : Bool) :
      parts? byNumber (ofJson (.object [("type", .string kind), ("conditions", .array (toJsonAll cs))])) =
        some (kind, [some (ofJson (.array (toJsonAll cs)))]) :=
    parts?_present byNumber [("conditions", some (.array (toJsonAll cs)))] hplace hkind rfl (by decide) (by decide)
  constructor
  · rw [hwrite]
    exact proper_list h
  · intro fuel byNumber hfuel
    obtain ⟨fuel, rfl⟩ := exists_fuel hfuel
    rw [hwrite] at hfuel ⊢
    rw [hread fuel byNumber _ _ _ _ (hparts byNumber), mapM_readSettled? h (depth_list hfuel), Option.map_some]

theorem kept_and {cs : List Condition} (h : ∀ c ∈ cs, Kept c) : Kept (.and cs) := by
  refine kept_of_list rfl rfl (fun _ => rfl) (fun fuel byNumber node tagged positional nodes hparts => ?_) h
  rw [readSettled?, hparts]
  exact (Option.map_eq_bind ..).symm

theorem kept_or {cs : List Condition} (h : ∀ c ∈ cs, Kept c) : Kept (.or cs) := by
  refine kept_of_list rfl rfl (fun _ => rfl) (fun fuel byNumber node tagged positional nodes hparts => ?_) h
  rw [readSettled?, hparts]
  exact (Option.map_eq_bind ..).symm

theorem exists_of_splitKind {byNumber : Bool} {ms : List (String × Json)} : ∀ {found : Option Nat}
    {rest : List (Node × Node)}, splitKind byNumber (ofMembers ms) = some (found, rest) →
      ∃ ms', rest = ofMembers ms' ∧ ∀ m ∈ ms', m ∈ ms := by
  induction ms with
  | nil =>
    intro found rest h
    obtain ⟨-, rfl⟩ := Prod.mk.inj (Option.some.inj h)
    exact ⟨[], rfl, fun m hm => hm⟩
  | cons m ms ih =>
    intro found rest h
    rw [ofMembers, splitKind] at h
    obtain ⟨⟨found', rest'⟩, hsplit, h⟩ := Option.bind_eq_some_iff.mp h
    obtain ⟨ms', rfl, hms'⟩ := ih hsplit
    simp only at h
    split at h
    · split at h
      · cases h
      · obtain ⟨i, -, h⟩ := Option.bind_eq_some_iff.mp h
        obtain ⟨-, rfl⟩ := Prod.mk.inj (Option.some.inj h)
        exact ⟨ms', rfl, fun m' hm' => List.mem_cons_of_mem m (hms' m' hm')⟩
    · obtain ⟨-, rfl⟩ := Prod.mk.inj (Option.some.inj h)
      refine ⟨m :: ms', rfl, fun m' hm' => ?_⟩
      rcases List.mem_cons.mp hm' with rfl | hm'
      · exact List.mem_cons_self
      · exact List.mem_cons_of_mem m (hms' m' hm')

theorem given_of_parts? {byNumber : Bool} {v : Json} (hv : v.Proper) {kind : String} {parts : List (Option Node)}
    (h : parts? byNumber (ofJson v) = some (kind, parts)) : ∀ part ∈ parts, Given part := by
  cases v with
  | object ms =>
    obtain ⟨⟨found, rest⟩, hsplit, h⟩ := Option.bind_eq_some_iff.mp h
    obtain ⟨ms', rfl, hms'⟩ := exists_of_splitKind hsplit
    simp only [Option.bind_eq_bind, Option.bind_eq_some_iff] at h
    obtain ⟨i, -, ⟨kind', names⟩, -, parts', hfields, he⟩ := h
    obtain ⟨-, rfl⟩ := Prod.mk.inj (Option.some.inj he)
    have hproper : (Json.object ms').Proper := .object fun m hm => hv.member (hms' m hm)
    exact given_of_fields? hproper hfields
  | array xs =>
    cases xs with
    | nil => cases h
    | cons x xs =>
      simp only [ofJson, ofItems, parts?, Option.bind_eq_bind, Option.bind_eq_some_iff] at h
      obtain ⟨i, -, ⟨kind', names⟩, -, parts', hfields, he⟩ := h
      obtain ⟨-, rfl⟩ := Prod.mk.inj (Option.some.inj he)
      have hproper : (Json.array xs).Proper := .array fun y hy => hv.item (List.mem_cons_of_mem x hy)
      exact given_of_fields? hproper hfields
  | null => cases h
  | bool b => cases h
  | int n => cases h
  | double x => cases h
  | string s => cases h

theorem isFinite_of_double? {part : Option Node} (hpart : Given part) {x : Double}
    (h : required double? part = some x) : x.isFinite = true := by
  obtain ⟨node, rfl, h⟩ := Option.bind_eq_some_iff.mp h
  obtain ⟨v, hv, rfl⟩ := hpart node rfl
  cases v with
  | int n =>
    obtain rfl := Option.some.inj h
    exact hv.isFinite_ofInt
  | double y =>
    obtain rfl := Option.some.inj h
    cases hv with
    | double finite => exact finite
  | null => cases h
  | bool b => cases h
  | string s => cases h
  | array xs => cases h
  | object ms => cases h

theorem isSigned_of_part {part : Option Node} (hpart : Given part) {n : Int} (h : required id? part = some n) :
    isSigned 64 n = true := by
  obtain ⟨node, rfl, h⟩ := Option.bind_eq_some_iff.mp h
  obtain ⟨v, -, rfl⟩ := hpart node rfl
  exact isSigned_of_id? h

theorem soundTest_of_readLeaf? {kind : String} {parts : List (Option Node)} (hparts : ∀ part ∈ parts, Given part)
    {l : Leaf} (h : readLeaf? kind parts = some l) : SoundTest l.test := by
  unfold readLeaf? at h
  split at h <;> simp only [Option.bind_eq_bind, Option.bind_eq_some_iff, reduceCtorEq] at h
  · obtain ⟨_, -, _, -, _, -, _, -, he⟩ := h
    obtain rfl := Option.some.inj he
    trivial
  · obtain ⟨_, -, _, -, he⟩ := h
    obtain rfl := Option.some.inj he
    trivial
  · obtain ⟨_, -, _, -, _, -, he⟩ := h
    obtain rfl := Option.some.inj he
    trivial
  · obtain ⟨_, -, _, -, x, hx, he⟩ := h
    obtain rfl := Option.some.inj he
    exact isFinite_of_double? (hparts _ (by simp)) hx
  · obtain ⟨_, -, he⟩ := h
    obtain rfl := Option.some.inj he
    trivial
  · obtain ⟨_, -, id, hid, _, -, he⟩ := h
    obtain rfl := Option.some.inj he
    exact isSigned_of_part (hparts _ (by simp)) hid
  · obtain ⟨_, -, _, -, he⟩ := h
    obtain rfl := Option.some.inj he
    trivial

theorem exists_items {tagged positional : Bool} {nodes : List Node}
    (h : Given (some (.sequence tagged positional nodes))) :
    ∃ vs : List Json, nodes = vs.map ofJson ∧ ∀ v ∈ vs, v.Proper := by
  obtain ⟨v, hv, he⟩ := h _ rfl
  cases v with
  | array vs =>
    rw [ofJson, ofItems_eq_map] at he
    exact ⟨vs, (Node.sequence.inj he).2.2, fun w hw => hv.item hw⟩
  | null => cases he
  | bool b => cases he
  | int n => cases he
  | double x => cases he
  | string s => cases he
  | object ms => cases he

/-- Whatever condition is read from a value, it is kept when it is written. -/
theorem kept_of_readSettled? : ∀ (fuel : Nat) {byNumber : Bool} {v : Json} {c : Condition}, v.Proper →
    readSettled? fuel byNumber (ofJson v) = some c → Kept c := by
  intro fuel
  induction fuel with
  | zero =>
    intro byNumber v c hv h
    cases h
  | succ fuel ih =>
    intro byNumber v c hv h
    rw [readSettled?] at h
    obtain ⟨⟨kind, parts⟩, hparts, h⟩ := Option.bind_eq_some_iff.mp h
    have hgiven := given_of_parts? hv hparts
    have hall {tagged positional : Bool} {nodes : List Node} {cs : List Condition}
        (hlist : Given (some (.sequence tagged positional nodes)))
        (hcs : nodes.mapM (readSettled? fuel true) = some cs) : ∀ c ∈ cs, Kept c := by
      obtain ⟨vs, rfl, hvs⟩ := exists_items hlist
      intro c hc
      obtain ⟨node, hnode, hread⟩ := mem_of_mapM hcs c hc
      obtain ⟨w, hw, rfl⟩ := List.mem_map.mp hnode
      exact ih (hvs w hw) hread
    simp only at h
    split at h <;> simp only [Option.bind_eq_bind, Option.bind_eq_some_iff] at h
    · obtain ⟨cs, hcs, he⟩ := h
      obtain rfl := Option.some.inj he
      exact kept_and (hall (hgiven _ List.mem_cons_self) hcs)
    · obtain ⟨cs, hcs, he⟩ := h
      obtain rfl := Option.some.inj he
      exact kept_or (hall (hgiven _ List.mem_cons_self) hcs)
    · obtain ⟨c', hc', he⟩ := h
      obtain rfl := Option.some.inj he
      obtain ⟨w, hw, rfl⟩ := hgiven _ List.mem_cons_self _ rfl
      exact kept_not (ih hw hc')
    · obtain ⟨id, hid, he⟩ := h
      obtain rfl := Option.some.inj he
      exact kept_reference (isSigned_of_part (hgiven _ List.mem_cons_self) hid)
    · obtain ⟨l, hl, he⟩ := h
      obtain rfl := Option.some.inj he
      exact kept_leaf (soundTest_of_readLeaf? hgiven hl)

theorem stable_condition : Stable Condition.read? Condition.toJson := by
  intro v c hv h
  rw [Condition.read?, settle_ofJson] at h
  have hkept := kept_of_readSettled? _ hv h
  refine ⟨hkept.proper, ?_⟩
  rw [Condition.read?, settle_ofJson]
  exact hkept.read _ false (Nat.le_refl _)

end Condition

end Filing
