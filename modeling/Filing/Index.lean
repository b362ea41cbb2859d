/-!
# Items in ascending order of a key

An `Index key` holds items whose keys strictly ascend, so it is at once a set (the key is the item),
a map (the key is the first component) and a table of records by identifier. Two indexes with the
same items are equal, because the order of the items is fixed by the keys. `sortOn` is the stable
sort that the canonical form of a configuration uses.
-/

namespace Filing

class KeyOrder (κ : Type) [LT κ] : Prop where
  irrefl (a : κ) : ¬ a < a
  trans {a b c : κ} : a < b → b < c → a < c
  eq_of_not_lt {a b : κ} : ¬ a < b → ¬ b < a → a = b

instance : KeyOrder Int where
  irrefl := Int.lt_irrefl
  trans := Int.lt_trans
  eq_of_not_lt h h' := Int.le_antisymm (Int.not_lt.1 h') (Int.not_lt.1 h)

instance : KeyOrder String where
  irrefl := String.lt_irrefl
  trans := String.lt_trans
  eq_of_not_lt h h' := String.le_antisymm (String.not_lt.1 h') (String.not_lt.1 h)

variable {α κ : Type} [LT κ] [DecidableLT κ]

def insertBefore (key : α → κ) (x : α) : List α → List α
  | [] => [x]
  | y :: ys => if key y < key x then y :: insertBefore key x ys else x :: y :: ys

/-- The items in ascending order of their keys; items with equal keys keep their order. -/
def sortOn (key : α → κ) (xs : List α) : List α :=
  xs.foldr (insertBefore key) []

/-- Puts an item at the place of its key, in the place of an item with that key. -/
def insertAscending (key : α → κ) (x : α) : List α → List α
  | [] => [x]
  | y :: ys =>
    if key x < key y then x :: y :: ys
    else if key y < key x then y :: insertAscending key x ys
    else x :: ys

structure Index (key : α → κ) where
  items : List α
  ascending : items.Pairwise fun a b => key a < key b

namespace Index

variable {key : α → κ}

omit [DecidableLT κ] in
theorem ext {s t : Index key} (h : s.items = t.items) : s = t := by
  cases s; cases t; cases h; rfl

instance [DecidableEq α] : DecidableEq (Index key) := fun s t =>
  decidable_of_iff (s.items = t.items) ⟨ext, fun h => h ▸ rfl⟩

def empty : Index key := ⟨[], .nil⟩

instance : Inhabited (Index key) := ⟨empty⟩

def get? (s : Index key) (k : κ) : Option α :=
  s.items.find? fun x => !decide (key x < k) && !decide (k < key x)

def contains (s : Index key) (k : κ) : Bool := (s.get? k).isSome

def keys (s : Index key) : List κ := s.items.map key

def size (s : Index key) : Nat := s.items.length

theorem mem_insertAscending {x z : α} {ys : List α} (h : z ∈ insertAscending key x ys) :
    z = x ∨ z ∈ ys := by
  induction ys with
  | nil => simpa [insertAscending] using h
  | cons y ys ih =>
    unfold insertAscending at h
    split at h
    · simpa using h
    · split at h
      · rcases List.mem_cons.1 h with h | h
        · exact .inr (h ▸ List.mem_cons_self)
        · exact (ih h).imp_right (List.mem_cons_of_mem _)
      · rcases List.mem_cons.1 h with h | h
        · exact .inl h
        · exact .inr (List.mem_cons_of_mem _ h)

theorem pairwise_insertAscending [KeyOrder κ] (x : α) {ys : List α}
    (h : ys.Pairwise fun a b => key a < key b) :
    (insertAscending key x ys).Pairwise fun a b => key a < key b := by
  induction ys with
  | nil => simp [insertAscending]
  | cons y ys ih =>
    have ⟨hy, hys⟩ := List.pairwise_cons.1 h
    unfold insertAscending
    split
    · rename_i hxy
      refine List.pairwise_cons.2 ⟨fun z hz => ?_, h⟩
      rcases List.mem_cons.1 hz with rfl | hz
      · exact hxy
      · exact KeyOrder.trans hxy (hy z hz)
    · split
      · rename_i hyx
        refine List.pairwise_cons.2 ⟨fun z hz => ?_, ih hys⟩
        rcases mem_insertAscending hz with rfl | hz
        · exact hyx
        · exact hy z hz
      · rename_i hxy hyx
        have : key x = key y := KeyOrder.eq_of_not_lt hxy hyx
        exact List.pairwise_cons.2 ⟨fun z hz => this ▸ hy z hz, hys⟩

def insert [KeyOrder κ] (s : Index key) (x : α) : Index key :=
  ⟨insertAscending key x s.items, pairwise_insertAscending x s.ascending⟩

def filter (s : Index key) (p : α → Bool) : Index key :=
  ⟨s.items.filter p, s.ascending.filter p⟩

def erase (s : Index key) (k : κ) : Index key :=
  s.filter fun x => decide (key x < k) || decide (k < key x)

/-- All items of a list; of items with equal keys the last one is kept. -/
def ofList [KeyOrder κ] (xs : List α) : Index key := xs.foldl insert empty

/-- All items of a list, or the first key that comes a second time. -/
def ofDistinct [KeyOrder κ] (xs : List α) : Except κ (Index key) :=
  xs.foldlM (fun s x => if s.contains (key x) then .error (key x) else .ok (s.insert x)) empty

/-- The items of both; an item of the second one replaces one of the first with the same key. -/
def union [KeyOrder κ] (s t : Index key) : Index key := t.items.foldl insert s

end Index

abbrev IdSet := Index (fun id : Int => id)

end Filing
