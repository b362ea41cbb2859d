import Filing.Configuration.Text
import Filing.Proofs.Node.Stable
import Filing.Proofs.Snapshot.Canonical

/-!
# What is read is written the same

The free values of a configuration that was read from a text, the details of policies and the definitions
of their types, hold no double that is not finite: a reader of such values puts null in its place.
-/

namespace Filing

theorem Json.writtenMembers_eq_self {ms : List (String × Json)} (h : ∀ m ∈ ms, m.2.written = m.2) :
    writtenMembers ms = ms := by
  induction ms with
  | nil => rfl
  | cons m ms ih =>
    rw [writtenMembers, h m List.mem_cons_self, ih fun n hn => h n (List.mem_cons_of_mem m hn)]

theorem Json.written_ofMembers {ms : List (String × Json)} (h : ∀ m ∈ ms, m.2.written = m.2) :
    (ofMembers ms).written = ofMembers ms := by
  rw [ofMembers, written_object, writtenMembers_eq_self fun m hm => h m (Index.mem_of_mem_ofList hm)]

theorem Json.written_double (x : Double) :
    (if x.isFinite then double x else null).written = if x.isFinite then double x else null := by
  by_cases hx : x.isFinite <;> simp [written, hx]

namespace Node

mutual

theorem written_of_json? : ∀ (node : Node) (x : Json), node.json? = some x → x.written = x := by
  intro node x h
  match node with
  | .scalar y =>
    simp only [json?] at h
    split at h <;> first
      | cases h; done
      | obtain rfl := Option.some.inj h
        first | rfl | exact Json.written_double _
  | .sequence false positional xs =>
    obtain ⟨ys, hys, rfl⟩ := Option.map_eq_some_iff.mp h
    rw [Json.written_array, written_of_jsonItems? xs ys hys]
  | .mapping false ms =>
    obtain ⟨ns, hns, rfl⟩ := Option.map_eq_some_iff.mp h
    exact Json.written_ofMembers (written_of_jsonMembers? ms ns hns)
  | .sequence true _ _ | .mapping true _ | .unreadable => cases h
  | .null | .bool _ | .int _ | .text _ =>
    obtain rfl := Option.some.inj h
    rfl
  | .double y =>
    obtain rfl := Option.some.inj h
    exact Json.written_double y

theorem written_of_jsonItems? : ∀ (nodes : List Node) (xs : List Json), jsonItems? nodes = some xs →
    Json.writtenItems xs = xs := by
  intro nodes xs h
  match nodes with
  | [] =>
    obtain rfl := Option.some.inj h
    rfl
  | node :: nodes =>
    simp only [jsonItems?, Option.bind_eq_bind, Option.bind_eq_some_iff] at h
    obtain ⟨y, hy, ys, hys, he⟩ := h
    obtain rfl := Option.some.inj he
    rw [Json.writtenItems, written_of_json? node y hy, written_of_jsonItems? nodes ys hys]

theorem written_of_jsonMembers? : ∀ (nodes : List (Node × Node)) (ms : List (String × Json)),
    jsonMembers? nodes = some ms → ∀ m ∈ ms, m.2.written = m.2 := by
  intro nodes ms h
  match nodes with
  | [] =>
    obtain rfl := Option.some.inj h
    exact fun m hm => nomatch hm
  | (k, node) :: nodes =>
    simp only [jsonMembers?, Option.bind_eq_bind, Option.bind_eq_some_iff] at h
    obtain ⟨name, _, y, hy, ns, hns, he⟩ := h
    obtain rfl := Option.some.inj he
    intro m hm
    rcases List.mem_cons.mp hm with rfl | hm
    · exact written_of_json? node y hy
    · exact written_of_jsonMembers? nodes ns hns m hm

end

variable {α : Type} {read : Node → Option α}

theorem read_of_mem_list {part : Option Node} {ys : List α}
    (h : withDefault (list? read) [] part = some ys) : ∀ y ∈ ys, ∃ node, read node = some y := by
  cases part with
  | none =>
    obtain rfl := Option.some.inj h
    exact fun y hy => nomatch hy
  | some node =>
    simp only [withDefault, list?, Option.bind_eq_bind, Option.bind_eq_some_iff] at h
    obtain ⟨xs, -, hxs⟩ := h
    intro y hy
    obtain ⟨x, -, hx⟩ := mem_of_mapM hxs y hy
    exact ⟨x, hx⟩

theorem holds_of_withDefault {P : α → Prop} (hread : ∀ node x, read node = some x → P x) {default : α}
    (hdefault : P default) {part : Option Node} {x : α} (h : withDefault read default part = some x) :
    P x := by
  cases part with
  | none =>
    obtain rfl := Option.some.inj h
    exact hdefault
  | some node => exact hread node x h

theorem read_of_optional? {node : Node} {x : α} (h : optional? read node = some (some x)) :
    read node = some x := by
  unfold optional? at h
  split at h
  · cases h
  · simp only [Option.bind_eq_bind, Option.bind_eq_some_iff] at h
    obtain ⟨absent, -, h⟩ := h
    cases absent with
    | true => cases h
    | false =>
      simp only [Bool.false_eq_true, if_false, Option.bind_eq_some_iff] at h
      obtain ⟨y, hy, he⟩ := h
      obtain rfl := Option.some.inj (Option.some.inj he)
      exact hy
  · simp only [Option.bind_eq_bind, Option.bind_eq_some_iff] at h
    obtain ⟨y, hy, he⟩ := h
    obtain rfl := Option.some.inj (Option.some.inj he)
    exact hy

theorem written_of_optional? {node : Node} {x : Option Json} (h : optional? json? node = some x) :
    x.map Json.written = x := by
  cases x with
  | none => rfl
  | some y => exact congrArg some (written_of_json? node y (read_of_optional? h))

end Node

theorem Policy.written_of_read? {node : Node} {p : Policy} (h : Policy.read? node = some p) :
    p.details.written = p.details := by
  simp only [read?, Option.bind_eq_bind, Option.bind_eq_some_iff] at h
  obtain ⟨parts, -, h⟩ := h
  split at h
  case h_1 =>
    simp only [Option.pure_def, Option.bind_eq_some_iff] at h
    obtain ⟨_, -, _, -, _, -, _, -, _, -, details, hdetails, he⟩ := h
    obtain rfl := Option.some.inj he
    exact Node.holds_of_withDefault Node.written_of_json? Json.written_null hdetails
  case h_2 => cases h

theorem PolicyType.written_of_read? {node : Node} {t : PolicyType} (h : PolicyType.read? node = some t) :
    t.definition.map Json.written = t.definition := by
  simp only [read?, Option.bind_eq_bind, Option.bind_eq_some_iff] at h
  obtain ⟨parts, -, h⟩ := h
  split at h
  case h_1 =>
    simp only [Option.pure_def, Option.bind_eq_some_iff] at h
    obtain ⟨_, -, _, -, _, -, _, -, definition, hdefinition, _, -, he⟩ := h
    obtain rfl := Option.some.inj he
    exact Node.holds_of_withDefault (P := fun x => x.map Json.written = x)
      (fun _ _ => Node.written_of_optional?) rfl hdefinition
  case h_2 => cases h

namespace Configuration

theorem plain_of_read? {node : Node} {c : Configuration} (h : read? node = some c) : c.Plain := by
  simp only [read?, Option.bind_eq_bind, Option.bind_eq_some_iff] at h
  obtain ⟨parts, -, h⟩ := h
  split at h
  case h_1 =>
    simp only [Option.pure_def, Option.bind_eq_some_iff] at h
    obtain ⟨_, -, _, -, _, -, _, -, _, -, _, -, policies, hpolicies, types, htypes, he⟩ := h
    obtain rfl := Option.some.inj he
    refine ⟨fun p hp => ?_, fun t ht => ?_⟩
    · obtain ⟨x, hx⟩ := Node.read_of_mem_list hpolicies p hp
      exact Policy.written_of_read? hx
    · obtain ⟨x, hx⟩ := Node.read_of_mem_list htypes t ht
      exact PolicyType.written_of_read? hx
  case h_2 => cases h

/-- A text in one of the two formats reads as the configuration. -/
def Readable (c : Configuration) : Prop := ∃ text, ofYaml text = .ok c ∨ ofJson text = .ok c

theorem Readable.plain {c : Configuration} (h : c.Readable) : c.Plain := by
  obtain ⟨text, h | h⟩ := h
  · unfold ofYaml at h
    split at h
    · rename_i d hd
      obtain rfl := Except.ok.inj h
      obtain ⟨node, -, hnode⟩ := Option.bind_eq_some_iff.mp hd
      exact plain_of_read? hnode
    · cases h
  · unfold ofJson at h
    split at h
    · rename_i d hd
      obtain rfl := Except.ok.inj h
      obtain ⟨node, -, hnode⟩ := Option.bind_eq_some_iff.mp hd
      exact plain_of_read? hnode
    · cases h

end Configuration

end Filing
