import Filing.Json.Reading
import Filing.Json.Text
import Filing.Proofs.Double.Text

/-!
# What a JSON text determines

The text of a value without space determines the value, but for doubles that are not finite, which are
written `null`. `Json.written` puts null in their places, and two values have the same text exactly when
they are the same written values. Each piece of a text ends where it must: a string at its quote, a number
before a character of no numeral, and anything else by its brackets.
-/

namespace Filing.Json

mutual

/-- The value with null in the place of all doubles that are not finite. -/
def written : Json → Json
  | .double x => if x.isFinite then .double x else .null
  | .array xs => .array (writtenItems xs)
  | .object ms => .object (writtenMembers ms)
  | x => x

def writtenItems : List Json → List Json
  | [] => []
  | x :: xs => written x :: writtenItems xs

def writtenMembers : List (String × Json) → List (String × Json)
  | [] => []
  | (k, x) :: ms => (k, written x) :: writtenMembers ms

end

@[simp] theorem written_null : null.written = null := rfl

@[simp] theorem written_bool (b : Bool) : (bool b).written = bool b := rfl

@[simp] theorem written_int (n : Int) : (int n).written = int n := rfl

@[simp] theorem written_string (s : String) : (string s).written = string s := rfl

@[simp] theorem written_array (xs : List Json) : (array xs).written = array (writtenItems xs) := by
  rw [written]

@[simp] theorem written_object (ms : List (String × Json)) :
    (object ms).written = object (writtenMembers ms) := by
  rw [written]

theorem writtenItems_eq_map (xs : List Json) : writtenItems xs = xs.map written := by
  induction xs with
  | nil => rfl
  | cons x xs ih => rw [writtenItems, ih, List.map_cons]

mutual

theorem written_written : ∀ x : Json, x.written.written = x.written
  | .null | .bool _ | .int _ | .string _ => rfl
  | .double x => by
    by_cases hx : x.isFinite <;> simp [written, hx]
  | .array xs => by rw [written, written, writtenItems_written xs]
  | .object ms => by rw [written, written, writtenMembers_written ms]

theorem writtenItems_written : ∀ xs : List Json, writtenItems (writtenItems xs) = writtenItems xs
  | [] => rfl
  | x :: xs => by rw [writtenItems, writtenItems, written_written x, writtenItems_written xs]

theorem writtenMembers_written :
    ∀ ms : List (String × Json), writtenMembers (writtenMembers ms) = writtenMembers ms
  | [] => rfl
  | (_, x) :: ms => by rw [writtenMembers, writtenMembers, written_written x, writtenMembers_written ms]

end

mutual

theorem chars_written : ∀ x : Json, x.written.chars = x.chars
  | .null | .bool _ | .int _ | .string _ => rfl
  | .double x => by
    by_cases hx : x.isFinite <;> simp [written, chars, doubleChars, hx]
  | .array [] => rfl
  | .array (x :: xs) => by
    rw [written, writtenItems, chars, chars, chars_written x, itemsChars_written xs]
  | .object [] => rfl
  | .object ((k, x) :: ms) => by
    rw [written, writtenMembers, chars, chars, chars_written x, membersChars_written ms]

theorem itemsChars_written : ∀ xs : List Json, itemsChars (writtenItems xs) = itemsChars xs
  | [] => rfl
  | x :: xs => by rw [writtenItems, itemsChars, itemsChars, chars_written x, itemsChars_written xs]

theorem membersChars_written :
    ∀ ms : List (String × Json), membersChars (writtenMembers ms) = membersChars ms
  | [] => rfl
  | (k, x) :: ms => by
    rw [writtenMembers, membersChars, membersChars, chars_written x, membersChars_written ms]

end

section
open Reading

def partOf (c : Char) : Part :=
  if 0x20 ≤ c.toNat ∨ c.toNat = 0x08 ∨ c.toNat = 0x0C ∨ c = '\n' ∨ c = '\r' ∨ c = '\t' then .char c
  else .unit c.toNat

theorem hex4?_control {n : Nat} (h : n < 0x20) (rest : List Char) :
    hex4? ('0' :: '0' :: hexDigit (n / 16) :: hexDigit n :: rest) = some (n, rest) := by
  have hn : ∀ n < 0x20, Scalar.natInBase? 16 ['0', '0', hexDigit (n / 16), hexDigit n] = some n := by
    decide
  rw [hex4?, hn n h, Option.map_some]

theorem eq_of_toNat_eq {c : Char} {n : Nat} (h : c.toNat = n) : c = Char.ofNat n := by
  rw [← h, Char.ofNat_toNat]

theorem stringParts_escape (c : Char) (fuel : Nat) (rest : List Char) :
    stringParts (fuel + 1) (escape c ++ rest) =
      (stringParts fuel rest).map fun (parts, rest) => (partOf c :: parts, rest) := by
  unfold escape
  split
  · rename_i hc
    subst hc
    rfl
  split
  · rename_i hc
    subst hc
    rfl
  split
  · rename_i hquote hslash hc
    have hpart : partOf c = .char c := if_pos (.inl hc)
    rw [hpart, List.singleton_append, stringParts, if_neg (Nat.not_lt.mpr hc)]
    · exact fun h => hquote h
    · exact fun _ h _ => hslash h
    · exact fun _ _ h _ => hslash h
  split
  · rename_i hc
    rw [eq_of_toNat_eq hc]
    rfl
  split
  · rename_i hc
    rw [eq_of_toNat_eq hc]
    rfl
  split
  · rename_i hc
    subst hc
    rfl
  split
  · rename_i hc
    subst hc
    rfl
  split
  · rename_i hc
    subst hc
    rfl
  · rename_i hlow h8 h12 hn hr ht
    have hpart : partOf c = .unit c.toNat := if_neg (by simp [hlow, h8, h12, hn, hr, ht])
    have hread := hex4?_control (Nat.lt_of_not_le hlow) rest
    simp only [hpart, List.cons_append, List.nil_append, stringParts, hread]
    rfl

theorem joinParts_unit {n : Nat} (h : n < 0xD800) (parts : List Part) :
    joinParts (.unit n :: parts) = (joinParts parts).map (Char.ofNat n :: ·) := by
  have hs : ¬ 0xD800 ≤ n := Nat.not_le.mpr h
  have hl : ¬ 0xDC00 ≤ n := fun hn => hs (Nat.le_trans (by omega) hn)
  match parts with
  | .unit b :: parts => simp [joinParts, hs, hl]
  | .char b :: parts => simp [joinParts, hs]
  | [] => simp [joinParts, hs]

theorem joinParts_partOf (cs : List Char) : joinParts (cs.map partOf) = some cs := by
  induction cs with
  | nil => rfl
  | cons c cs ih =>
    rw [List.map_cons, partOf]
    split
    · rw [joinParts, ih, Option.map_some]
    · rename_i hc
      rw [joinParts_unit (by omega), ih, Option.map_some, Char.ofNat_toNat]

theorem escape_ne_nil (c : Char) : escape c ≠ [] := by
  unfold escape
  repeat' split
  all_goals exact List.cons_ne_nil _ _

theorem length_le_escaped (cs : List Char) : cs.length ≤ (cs.flatMap escape).length := by
  induction cs with
  | nil => exact Nat.le_refl 0
  | cons c cs ih =>
    have hc := List.length_pos_iff.mpr (escape_ne_nil c)
    rw [List.flatMap_cons, List.length_cons, List.length_append]
    omega

theorem stringParts_quote (cs rest : List Char) : ∀ fuel, cs.length < fuel →
    stringParts fuel (cs.flatMap escape ++ '"' :: rest) = some (cs.map partOf, rest) := by
  induction cs with
  | nil =>
    intro fuel hf
    obtain ⟨fuel, rfl⟩ := Nat.exists_eq_succ_of_ne_zero (Nat.ne_of_gt hf)
    rfl
  | cons c cs ih =>
    intro fuel hf
    obtain ⟨fuel, rfl⟩ := Nat.exists_eq_succ_of_ne_zero (Nat.ne_zero_of_lt hf)
    rw [List.flatMap_cons, List.append_assoc, stringParts_escape, ih fuel (Nat.lt_of_succ_lt_succ hf)]
    rfl

theorem readString_quote (s : String) (rest : List Char) :
    readString (s.toList.flatMap escape ++ '"' :: rest) = some (.text s, rest) := by
  have hlen := length_le_escaped s.toList
  have hparts := stringParts_quote s.toList rest ((s.toList.flatMap escape ++ '"' :: rest).length + 1)
    (by rw [List.length_append]; omega)
  simp only [readString, hparts, Option.bind_eq_bind, Option.bind_some]
  rw [joinParts_partOf]
  simp only [String.ofList_toList]
  rfl

theorem quote_inj {s t : String} {r u : List Char} (h : quote s ++ r = quote t ++ u) : s = t ∧ r = u := by
  have hread (w : String) (v : List Char) :
      readString (quote w ++ v).tail = some (.text w, v) := by
    rw [quote, List.append_assoc]
    exact readString_quote w v
  have heq := hread s r
  rw [h, hread] at heq
  obtain ⟨htext, hrest⟩ := Prod.mk.inj (Option.some.inj heq)
  exact ⟨(Node.text.inj htext).symm, hrest.symm⟩

end

section
open Double

theorem append_inj_of_stop {p : Char → Bool} {as bs r u : List Char} (ha : ∀ c ∈ as, p c)
    (hb : ∀ c ∈ bs, p c) (hr : ∀ c ∈ r.head?, ¬ p c) (hu : ∀ c ∈ u.head?, ¬ p c)
    (h : as ++ r = bs ++ u) : as = bs ∧ r = u := by
  have take {cs v : List Char} (hc : ∀ c ∈ cs, p c) (hv : ∀ c ∈ v.head?, ¬ p c) :
      (cs ++ v).takeWhile p = cs := by
    rw [List.takeWhile_append_of_pos hc]
    cases v with
    | nil => simp
    | cons c v =>
      have hp : p c = false := Bool.eq_false_iff.mpr (hv c rfl)
      simp [hp]
  have he : as = bs := by rw [← take ha hr, h, take hb hu]
  subst he
  exact ⟨rfl, List.append_cancel_left h⟩

theorem intChars_cons (n : Int) :
    ∃ c cs, intChars n = c :: cs ∧ (c = '-' ∨ isDigit c) ∧ ∀ x ∈ cs, isDigit x := by
  have hd : ∀ c ∈ digitChars n.natAbs, isDigit c := fun c hc => isDigit_of_mem_digitChars hc
  unfold intChars
  split
  · exact ⟨'-', _, rfl, .inl rfl, hd⟩
  · obtain ⟨c, cs, he⟩ := List.exists_cons_of_ne_nil (digitChars_ne_nil (n := n.natAbs))
    rw [he] at hd ⊢
    exact ⟨c, cs, rfl, .inr (hd c List.mem_cons_self), fun x hx => hd x (List.mem_cons_of_mem c hx)⟩

theorem intChars_inj {n m : Int} (h : intChars n = intChars m) : n = m := by
  have hnat {a b : Nat} (he : digitChars a = digitChars b) : a = b := by
    rw [← natOfDigits_digitChars a, he, natOfDigits_digitChars]
  have hsign (a b : Nat) : '-' :: digitChars a ≠ digitChars b := by
    intro he
    have hd := isDigit_of_mem_digitChars (n := b) (he ▸ List.mem_cons_self)
    cases hd
  unfold intChars at h
  split at h <;> split at h
  · have := hnat (List.cons.inj h).2
    omega
  · exact absurd h (hsign _ _)
  · exact absurd h.symm (hsign _ _)
  · have := hnat h
    omega

theorem doubleChars_cons (x : Double) :
    ∃ c cs, x.chars = c :: cs ∧ (c = '-' ∨ isDigit c) ∧ (∀ y ∈ cs, isNumeral y) ∧
      ∃ y ∈ cs, ¬ isDigit y := by
  obtain ⟨c, cs, he, hc, hcs, hpoint⟩ := decimal_chars x.shortest .standard
  have hmark : ∃ y ∈ cs, ¬ isDigit y := by
    rcases hpoint with hy | hy
    · exact ⟨'.', hy, by decide⟩
    · exact ⟨'e', hy, by decide⟩
  rw [Double.chars, he]
  cases x.isNegative with
  | false => exact ⟨c, cs, rfl, .inr hc, hcs, hmark⟩
  | true =>
    obtain ⟨y, hy, hyd⟩ := hmark
    exact ⟨'-', c :: cs, rfl, .inl rfl, numeral_of_mem_cons (isNumeral_of_isDigit hc) hcs,
      y, List.mem_cons_of_mem c hy, hyd⟩

theorem intChars_ne_doubleChars (n : Int) (x : Double) : intChars n ≠ x.chars := by
  intro h
  obtain ⟨c, cs, hn, -, hd⟩ := intChars_cons n
  obtain ⟨c', cs', hx, -, -, y, hy, hyd⟩ := doubleChars_cons x
  rw [hn, hx] at h
  obtain ⟨-, rfl⟩ := List.cons.inj h
  exact hyd (hd y hy)

end

theorem chars_array_cons (x : Json) (xs : List Json) (r : List Char) :
    (array (x :: xs)).chars ++ r = '[' :: (x.chars ++ (itemsChars xs ++ ']' :: r)) := by
  simp [chars]

theorem itemsChars_cons (x : Json) (xs : List Json) (r : List Char) :
    itemsChars (x :: xs) ++ r = ',' :: (x.chars ++ (itemsChars xs ++ r)) := by
  simp [itemsChars]

theorem chars_object_cons (k : String) (x : Json) (ms : List (String × Json)) (r : List Char) :
    (object ((k, x) :: ms)).chars ++ r =
      '{' :: (quote k ++ ':' :: (x.chars ++ (membersChars ms ++ '}' :: r))) := by
  simp [chars]

theorem membersChars_cons (k : String) (x : Json) (ms : List (String × Json)) (r : List Char) :
    membersChars ((k, x) :: ms) ++ r =
      ',' :: (quote k ++ ':' :: (x.chars ++ (membersChars ms ++ r))) := by
  simp [membersChars]

/-- What a value is told by: the character that its text begins with, where the texts of numbers begin
with a digit or a sign. -/
def lead : Json → Char
  | .null => 'n'
  | .bool true => 't'
  | .bool false => 'f'
  | .int _ => '0'
  | .double _ => '0'
  | .string _ => '"'
  | .array _ => '['
  | .object _ => '{'

def leadOf (c : Char) : Char := if c = '-' ∨ Double.isDigit c then '0' else c

theorem exists_chars {x : Json} (hx : x.written = x) :
    ∃ c cs, x.chars = c :: cs ∧ leadOf c = x.lead := by
  match x, hx with
  | .null, _ | .bool true, _ | .bool false, _ => exact ⟨_, _, rfl, by decide⟩
  | .int n, _ =>
    obtain ⟨c, cs, he, hc, -⟩ := intChars_cons n
    exact ⟨c, cs, he, if_pos hc⟩
  | .double y, hy =>
    have hfin : y.isFinite := by
      by_contra hn
      simp [written, hn] at hy
    obtain ⟨c, cs, he, hc, -⟩ := doubleChars_cons y
    exact ⟨c, cs, by rw [chars, doubleChars, if_pos hfin, he], if_pos hc⟩
  | .string s, _ => exact ⟨_, _, rfl, (by decide : leadOf '"' = '"')⟩
  | .array [], _ => exact ⟨_, _, rfl, (by decide : leadOf '[' = '[')⟩
  | .array (x :: xs), _ =>
    have he := chars_array_cons x xs []
    rw [List.append_nil] at he
    exact ⟨_, _, he, (by decide : leadOf '[' = '[')⟩
  | .object [], _ => exact ⟨_, _, rfl, (by decide : leadOf '{' = '{')⟩
  | .object ((k, x) :: ms), _ =>
    have he := chars_object_cons k x ms []
    rw [List.append_nil] at he
    exact ⟨_, _, he, (by decide : leadOf '{' = '{')⟩

theorem lead_eq_of_chars {x y : Json} (hx : x.written = x) (hy : y.written = y) {r u : List Char}
    (h : x.chars ++ r = y.chars ++ u) : x.lead = y.lead := by
  obtain ⟨c, cs, hc, hcl⟩ := exists_chars hx
  obtain ⟨c', cs', hc', hcl'⟩ := exists_chars hy
  rw [hc, hc'] at h
  obtain ⟨rfl, -⟩ := List.cons.inj h
  rw [← hcl, hcl']

def Ends (r : List Char) : Prop := ∀ c ∈ r.head?, ¬ Double.isNumeral c

theorem number_inj {as bs r u : List Char} (ha : ∀ c ∈ as, Double.isNumeral c)
    (hb : ∀ c ∈ bs, Double.isNumeral c) (hr : Ends r) (hu : Ends u) (h : as ++ r = bs ++ u) :
    as = bs ∧ r = u := append_inj_of_stop ha hb hr hu h

theorem ends_items (xs : List Json) (r : List Char) : Ends (itemsChars xs ++ ']' :: r) := by
  cases xs <;> simp [Ends, itemsChars, Double.isNumeral, Double.isDigit]

theorem ends_members (ms : List (String × Json)) (r : List Char) :
    Ends (membersChars ms ++ '}' :: r) := by
  cases ms <;> simp [Ends, membersChars, Double.isNumeral, Double.isDigit]

theorem isFinite_of_written {x : Double} (h : (double x).written = double x) : x.isFinite := by
  by_contra hn
  simp [written, hn] at h

theorem numeral_intChars (n : Int) : ∀ c ∈ intChars n, Double.isNumeral c := by
  obtain ⟨c, cs, he, hc, hcs⟩ := intChars_cons n
  rw [he]
  refine Double.numeral_of_mem_cons ?_ (Double.numeral_of_mem hcs)
  rcases hc with rfl | hc
  · decide
  · exact Double.isNumeral_of_isDigit hc

theorem numeral_doubleChars (x : Double) : ∀ c ∈ x.chars, Double.isNumeral c := by
  obtain ⟨c, cs, he, hc, hcs, -⟩ := doubleChars_cons x
  rw [he]
  refine Double.numeral_of_mem_cons ?_ hcs
  rcases hc with rfl | hc
  · decide
  · exact Double.isNumeral_of_isDigit hc

theorem chars_double {x : Double} (h : (double x).written = double x) : (double x).chars = x.chars :=
  if_pos (isFinite_of_written h)

theorem written_array_cons {x : Json} {xs : List Json} :
    (array (x :: xs)).written = array (x :: xs) ↔ x.written = x ∧ writtenItems xs = xs := by
  simp [written, writtenItems]

theorem written_object_cons {k : String} {x : Json} {ms : List (String × Json)} :
    (object ((k, x) :: ms)).written = object ((k, x) :: ms) ↔
      x.written = x ∧ writtenMembers ms = ms := by
  simp [written, writtenMembers]

theorem chars_ne_close {x : Json} (hx : x.written = x) (r u : List Char) : x.chars ++ r ≠ ']' :: u := by
  intro h
  obtain ⟨c, cs, hc, hl⟩ := exists_chars hx
  rw [hc] at h
  obtain ⟨rfl, -⟩ := List.cons.inj h
  have hclose : leadOf ']' = ']' := by decide
  rw [hclose] at hl
  unfold lead at hl
  split at hl <;> cases hl

mutual

theorem chars_inj : ∀ (x y : Json) {r u : List Char}, x.written = x → y.written = y → Ends r → Ends u →
    x.chars ++ r = y.chars ++ u → x = y ∧ r = u := by
  intro x y r u hx hy hr hu h
  have hlead := lead_eq_of_chars hx hy h
  match x, y, hx, hy, hlead with
  | .null, .null, _, _, _ | .bool true, .bool true, _, _, _ | .bool false, .bool false, _, _, _ =>
    exact ⟨rfl, List.append_cancel_left h⟩
  | .int n, .int m, _, _, _ =>
    obtain ⟨he, hrest⟩ := number_inj (numeral_intChars n) (numeral_intChars m) hr hu h
    exact ⟨congrArg int (intChars_inj he), hrest⟩
  | .int n, .double w, _, hw, _ =>
    rw [chars_double hw] at h
    obtain ⟨he, -⟩ := number_inj (numeral_intChars n) (numeral_doubleChars w) hr hu h
    exact absurd he (intChars_ne_doubleChars n w)
  | .double z, .int m, hz, _, _ =>
    rw [chars_double hz] at h
    obtain ⟨he, -⟩ := number_inj (numeral_doubleChars z) (numeral_intChars m) hr hu h
    exact absurd he.symm (intChars_ne_doubleChars m z)
  | .double z, .double w, hz, hw, _ =>
    rw [chars_double hz, chars_double hw] at h
    obtain ⟨he, hrest⟩ := number_inj (numeral_doubleChars z) (numeral_doubleChars w) hr hu h
    exact ⟨congrArg double (Double.chars_inj (isFinite_of_written hz) (isFinite_of_written hw) he), hrest⟩
  | .string s, .string t, _, _, _ =>
    obtain ⟨rfl, hrest⟩ := quote_inj h
    exact ⟨rfl, hrest⟩
  | .array [], .array [], _, _, _ | .object [], .object [], _, _, _ =>
    exact ⟨rfl, List.append_cancel_left h⟩
  | .array (x :: xs), .array (y :: ys), hx, hy, _ =>
    obtain ⟨hx', hxs⟩ := written_array_cons.mp hx
    obtain ⟨hy', hys⟩ := written_array_cons.mp hy
    rw [chars_array_cons, chars_array_cons] at h
    obtain ⟨rfl, hrest⟩ := chars_inj x y hx' hy' (ends_items _ _) (ends_items _ _) (List.cons.inj h).2
    obtain ⟨rfl, hend⟩ := itemsChars_inj xs ys hxs hys hrest
    exact ⟨rfl, hend⟩
  | .array [], .array (y :: ys), _, hy, _ =>
    rw [chars_array_cons] at h
    exact absurd (List.cons.inj h).2.symm (chars_ne_close (written_array_cons.mp hy).1 _ _)
  | .array (x :: xs), .array [], hx, _, _ =>
    rw [chars_array_cons] at h
    exact absurd (List.cons.inj h).2 (chars_ne_close (written_array_cons.mp hx).1 _ _)
  | .object ((k, x) :: ms), .object ((l, y) :: ns), hx, hy, _ =>
    obtain ⟨hx', hms⟩ := written_object_cons.mp hx
    obtain ⟨hy', hns⟩ := written_object_cons.mp hy
    rw [chars_object_cons, chars_object_cons] at h
    obtain ⟨rfl, hvalue⟩ := quote_inj (List.cons.inj h).2
    obtain ⟨rfl, hrest⟩ :=
      chars_inj x y hx' hy' (ends_members _ _) (ends_members _ _) (List.cons.inj hvalue).2
    obtain ⟨rfl, hend⟩ := membersChars_inj ms ns hms hns hrest
    exact ⟨rfl, hend⟩
  | .object [], .object ((l, y) :: ns), _, _, _ =>
    rw [chars_object_cons] at h
    cases (List.cons.inj (List.cons.inj h).2).1
  | .object ((k, x) :: ms), .object [], _, _, _ =>
    rw [chars_object_cons] at h
    cases (List.cons.inj (List.cons.inj h).2).1

theorem itemsChars_inj : ∀ (xs ys : List Json) {r u : List Char}, writtenItems xs = xs →
    writtenItems ys = ys → itemsChars xs ++ ']' :: r = itemsChars ys ++ ']' :: u → xs = ys ∧ r = u := by
  intro xs ys r u hxs hys h
  match xs, ys, hxs, hys with
  | [], [], _, _ => exact ⟨rfl, (List.cons.inj h).2⟩
  | [], y :: ys, _, _ =>
    rw [itemsChars_cons] at h
    cases (List.cons.inj h).1
  | x :: xs, [], _, _ =>
    rw [itemsChars_cons] at h
    cases (List.cons.inj h).1
  | x :: xs, y :: ys, hx, hy =>
    obtain ⟨hx, hxs⟩ := List.cons.inj hx
    obtain ⟨hy, hys⟩ := List.cons.inj hy
    rw [itemsChars_cons, itemsChars_cons] at h
    obtain ⟨rfl, hrest⟩ := chars_inj x y hx hy (ends_items _ _) (ends_items _ _) (List.cons.inj h).2
    obtain ⟨rfl, hend⟩ := itemsChars_inj xs ys hxs hys hrest
    exact ⟨rfl, hend⟩

theorem membersChars_inj : ∀ (ms ns : List (String × Json)) {r u : List Char}, writtenMembers ms = ms →
    writtenMembers ns = ns → membersChars ms ++ '}' :: r = membersChars ns ++ '}' :: u →
    ms = ns ∧ r = u := by
  intro ms ns r u hms hns h
  match ms, ns, hms, hns with
  | [], [], _, _ => exact ⟨rfl, (List.cons.inj h).2⟩
  | [], (l, y) :: ns, _, _ =>
    rw [membersChars_cons] at h
    cases (List.cons.inj h).1
  | (k, x) :: ms, [], _, _ =>
    rw [membersChars_cons] at h
    cases (List.cons.inj h).1
  | (k, x) :: ms, (l, y) :: ns, hx, hy =>
    obtain ⟨hx, hms⟩ := List.cons.inj hx
    obtain ⟨hy, hns⟩ := List.cons.inj hy
    rw [membersChars_cons, membersChars_cons] at h
    obtain ⟨rfl, hvalue⟩ := quote_inj (List.cons.inj h).2
    obtain ⟨rfl, hrest⟩ := chars_inj x y (Prod.mk.inj hx).2 (Prod.mk.inj hy).2 (ends_members _ _)
      (ends_members _ _) (List.cons.inj hvalue).2
    obtain ⟨rfl, hend⟩ := membersChars_inj ms ns hms hns hrest
    exact ⟨rfl, hend⟩

end

/-- Two values have the same text exactly when they are written the same. -/
theorem text_eq_iff {x y : Json} : x.text = y.text ↔ x.written = y.written := by
  rw [text, text, String.ofList_inj]
  constructor
  · intro h
    refine (chars_inj _ _ x.written_written y.written_written (r := []) (u := []) ?_ ?_ ?_).1
    · exact fun _ hc => nomatch hc
    · exact fun _ hc => nomatch hc
    · rw [chars_written, chars_written, h]
  · intro h
    rw [← chars_written x, h, chars_written]

theorem text_inj {x y : Json} (hx : x.written = x) (hy : y.written = y) : x.text = y.text ↔ x = y := by
  rw [text_eq_iff, hx, hy]

end Filing.Json
