import Filing.Condition.Evaluation
import Filing.Proofs.Condition.Reaching

/-!
# Comparing evaluations

Two evaluations of one condition go side by side: with other answers of its leaves, or with other things said by its
references. If a relation of judgements is kept when a conjunction or a disjunction goes on to its next part, and
when a verdict is turned around, then it holds of the two evaluations as soon as it holds of what the leaves and the
references in the condition say. A judgement is a verdict with the leaves that were asked for it.
-/

namespace Filing

structure Judgement where
  verdict : Verdict
  asked : List Leaf

namespace Judgement

def goOn (b : Bool) (x next : Judgement) : Judgement :=
  match x.verdict with
  | .ok a => if a = b then ⟨next.verdict, x.asked ++ next.asked⟩ else x
  | .error _ => x

def negate (x : Judgement) : Judgement := ⟨x.verdict.negate, x.asked⟩

def fault (f : ConditionFault) : Judgement := ⟨.fault f, []⟩

theorem goOn_of_eq {b : Bool} {x next : Judgement} (h : x.verdict = .ok b) :
    x.goOn b next = ⟨next.verdict, x.asked ++ next.asked⟩ := by
  simp only [goOn, h, if_true]

theorem goOn_of_ne {b : Bool} {x next : Judgement} (h : x.verdict ≠ .ok b) : x.goOn b next = x := by
  rw [goOn]
  cases hx : x.verdict with
  | ok a =>
    have hab : a ≠ b := fun hab => h (hab ▸ hx)
    exact if_neg hab
  | error e => rfl

/-- A relation that two evaluations keep while they go on. -/
structure Kept (R : Judgement → Judgement → Prop) : Prop where
  verdict (b : Bool) : R ⟨.ok b, []⟩ ⟨.ok b, []⟩
  goOn (b : Bool) {x x' y y' : Judgement} : R x x' → R y y' → R (x.goOn b y) (x'.goOn b y')

end Judgement

namespace Condition

section
variable (leaf : Leaf → Verdict) (refer : Int → Judgement)

def judgementWith (c : Condition) : Judgement :=
  ⟨c.evaluateWith leaf fun id => (refer id).verdict,
    c.askedWith leaf (fun id => (refer id).verdict) fun id => (refer id).asked⟩

def judgementAll (cs : List Condition) : Judgement :=
  ⟨evaluateAll leaf (fun id => (refer id).verdict) cs,
    askedAll leaf (fun id => (refer id).verdict) (fun id => (refer id).asked) cs⟩

def judgementAny (cs : List Condition) : Judgement :=
  ⟨evaluateAny leaf (fun id => (refer id).verdict) cs,
    askedAny leaf (fun id => (refer id).verdict) (fun id => (refer id).asked) cs⟩

theorem judgementAll_cons (c : Condition) (cs : List Condition) :
    judgementAll leaf refer (c :: cs) = (c.judgementWith leaf refer).goOn true (judgementAll leaf refer cs) := by
  simp only [judgementAll, judgementWith, evaluateAll, askedAll, Judgement.goOn]
  match evaluateWith leaf (fun id => (refer id).verdict) c with
  | .ok true | .ok false | .error _ => simp [Verdict.andThen]

theorem judgementAny_cons (c : Condition) (cs : List Condition) :
    judgementAny leaf refer (c :: cs) = (c.judgementWith leaf refer).goOn false (judgementAny leaf refer cs) := by
  simp only [judgementAny, judgementWith, evaluateAny, askedAny, Judgement.goOn]
  match evaluateWith leaf (fun id => (refer id).verdict) c with
  | .ok true | .ok false | .error _ => simp [Verdict.orElse]

end

section
variable (leaf : Leaf → Verdict) (s : Snapshot) (limit : Nat)

def judgementAt (left : Nat) (c : Condition) : Judgement :=
  ⟨c.evaluateAt leaf s limit left, c.askedAt leaf s limit left⟩

def told : Nat → Int → Judgement
  | 0, id => .fault (.tooDeep id limit)
  | left + 1, id =>
    match s.condition? id with
    | some target => target.judgementAt leaf s limit left
    | none => .fault (.conditionNotFound id)

theorem judgementAt_eq (left : Nat) (c : Condition) :
    c.judgementAt leaf s limit left = c.judgementWith leaf (told leaf s limit left) := by
  cases left with
  | zero => rfl
  | succ left =>
    have hverdict : (fun id => (told leaf s limit (left + 1) id).verdict) = fun id =>
        match s.condition? id with
        | some target => target.evaluateAt leaf s limit left
        | none => .fault (.conditionNotFound id) := by
      funext id
      cases h : s.condition? id <;> simp [told, h, judgementAt, Judgement.fault]
    have hasked : (fun id => (told leaf s limit (left + 1) id).asked) = fun id =>
        match s.condition? id with
        | some target => target.askedAt leaf s limit left
        | none => [] := by
      funext id
      cases h : s.condition? id <;> simp [told, h, judgementAt, Judgement.fault]
    rw [judgementWith, hverdict, hasked]
    rfl

theorem evaluateAt_eq (left : Nat) (c : Condition) : c.evaluateAt leaf s limit left =
    c.evaluateWith leaf fun id => (told leaf s limit left id).verdict :=
  congrArg Judgement.verdict (judgementAt_eq leaf s limit left c)

end

section
variable {R : Judgement → Judgement → Prop} {leaf leaf' : Leaf → Verdict} {refer refer' : Int → Judgement}

/-- What is said of the leaves and references in a condition is related; and so is what is said the other way round,
if the condition turns a verdict around. -/
structure Alike (R : Judgement → Judgement → Prop) (leaf leaf' : Leaf → Verdict) (refer refer' : Int → Judgement)
    (c : Condition) : Prop where
  leaves : ∀ l, (Condition.leaf l).PartOf c → R ⟨leaf l, [l]⟩ ⟨leaf' l, [l]⟩
  references : ∀ id, (Condition.reference id).PartOf c → R (refer id) (refer' id)
  negations : ∀ d, (Condition.not d).PartOf c → ∀ x x', R x x' → R x.negate x'.negate

theorem Alike.part {c d : Condition} (h : Alike R leaf leaf' refer refer' c) (hd : d.PartOf c) :
    Alike R leaf leaf' refer refer' d where
  leaves l hl := h.leaves l (hl.trans hd)
  references id hid := h.references id (hid.trans hd)
  negations x hx := h.negations x (hx.trans hd)

mutual

theorem judgementWith_related (hR : Judgement.Kept R) : ∀ c : Condition, Alike R leaf leaf' refer refer' c →
    R (c.judgementWith leaf refer) (c.judgementWith leaf' refer')
  | .leaf l, h => h.leaves l (.self _)
  | .and cs, h => judgementAll_related hR cs fun c hc => h.part (.and hc (.self c))
  | .or cs, h => judgementAny_related hR cs fun c hc => h.part (.or hc (.self c))
  | .not c, h => h.negations c (.self _) _ _ (judgementWith_related hR c (h.part (.not (.self c))))
  | .reference id, h => h.references id (.self _)

theorem judgementAll_related (hR : Judgement.Kept R) : ∀ cs : List Condition,
    (∀ c ∈ cs, Alike R leaf leaf' refer refer' c) → R (judgementAll leaf refer cs) (judgementAll leaf' refer' cs)
  | [], _ => hR.verdict true
  | c :: cs, h => by
    rw [judgementAll_cons, judgementAll_cons]
    apply hR.goOn
    · exact judgementWith_related hR c (h c List.mem_cons_self)
    · exact judgementAll_related hR cs fun d hd => h d (List.mem_cons_of_mem c hd)

theorem judgementAny_related (hR : Judgement.Kept R) : ∀ cs : List Condition,
    (∀ c ∈ cs, Alike R leaf leaf' refer refer' c) → R (judgementAny leaf refer cs) (judgementAny leaf' refer' cs)
  | [], _ => hR.verdict false
  | c :: cs, h => by
    rw [judgementAny_cons, judgementAny_cons]
    apply hR.goOn
    · exact judgementWith_related hR c (h c List.mem_cons_self)
    · exact judgementAny_related hR cs fun d hd => h d (List.mem_cons_of_mem c hd)

end

end

end Condition

end Filing
