import Filing.Inquiry
import Filing.Proofs.Classification

/-!
# What inquiries come to

Each question has a true answer, which needs no memory. An inquiry comes to a result when true answers lead to it and
all questions on the way are of a kind that may be asked. The inquiry of a document comes to what the document is
classified as, and asks about its own snapshot only.
-/

namespace Filing

def Query.answer : (q : Query) → q.Answer
  | .leaf s d l => l.evaluate s d
  | .details value schema => Schema.validate value schema

variable {may : Query → Prop}

inductive Inquiry.ComesTo {α : Type} (may : Query → Prop) : Inquiry α → α → Prop where
  | done {a : α} : ComesTo may (.done a) a
  | ask {q : Query} {next : q.Answer → Inquiry α} {a : α} :
      may q → ComesTo may (next q.answer) a → ComesTo may (.ask q next) a

theorem Inquiry.ComesTo.bind {α β : Type} {x : Inquiry α} {f : α → Inquiry β} {a : α} {b : β}
    (hx : x.ComesTo may a) (hf : (f a).ComesTo may b) : (x >>= f).ComesTo may b := by
  induction hx with
  | done => exact hf
  | ask hq _ ih => exact .ask hq (ih hf)

open Inquiry (ComesTo)

theorem Inquiry.comesTo_leaf {s : Snapshot} {d : Document} {l : Leaf} (h : may (.leaf s d l)) :
    (Inquiry.leaf s d l).ComesTo may (l.evaluate s d) := .ask h .done

theorem Inquiry.comesTo_details {value schema : Json} (h : may (.details value schema)) :
    (Inquiry.details value schema).ComesTo may (Schema.validate value schema) := .ask h .done

namespace Condition
variable {leaf : Leaf → Inquiry Verdict} {refer : Int → Inquiry Verdict} {verdict : Leaf → Verdict}
  {said : Int → Verdict}

mutual

theorem comesTo_inquireWith (hleaf : ∀ l, (leaf l).ComesTo may (verdict l))
    (hrefer : ∀ id, (refer id).ComesTo may (said id)) : ∀ c : Condition,
    (c.inquireWith leaf refer).ComesTo may (c.evaluateWith verdict said)
  | .leaf l => hleaf l
  | .and cs => comesTo_inquireAll hleaf hrefer cs
  | .or cs => comesTo_inquireAny hleaf hrefer cs
  | .not c => (comesTo_inquireWith hleaf hrefer c).bind .done
  | .reference id => hrefer id

theorem comesTo_inquireAll (hleaf : ∀ l, (leaf l).ComesTo may (verdict l))
    (hrefer : ∀ id, (refer id).ComesTo may (said id)) : ∀ cs : List Condition,
    (inquireAll leaf refer cs).ComesTo may (evaluateAll verdict said cs)
  | [] => .done
  | c :: cs => by
    refine (comesTo_inquireWith hleaf hrefer c).bind ?_
    rw [evaluateAll]
    match c.evaluateWith verdict said with
    | .ok true => exact comesTo_inquireAll hleaf hrefer cs
    | .ok false => exact .done
    | .error _ => exact .done

theorem comesTo_inquireAny (hleaf : ∀ l, (leaf l).ComesTo may (verdict l))
    (hrefer : ∀ id, (refer id).ComesTo may (said id)) : ∀ cs : List Condition,
    (inquireAny leaf refer cs).ComesTo may (evaluateAny verdict said cs)
  | [] => .done
  | c :: cs => by
    refine (comesTo_inquireWith hleaf hrefer c).bind ?_
    rw [evaluateAny]
    match c.evaluateWith verdict said with
    | .ok false => exact comesTo_inquireAny hleaf hrefer cs
    | .ok true => exact .done
    | .error _ => exact .done

end

theorem comesTo_inquireAt (hleaf : ∀ l, (leaf l).ComesTo may (verdict l)) (s : Snapshot) (limit : Nat) :
    ∀ (left : Nat) (c : Condition),
      (c.inquireAt leaf s limit left).ComesTo may (c.evaluateAt verdict s limit left) := by
  intro left
  induction left with
  | zero => exact comesTo_inquireWith hleaf fun _ => .done
  | succ left ih =>
    refine comesTo_inquireWith hleaf fun id => ?_
    cases s.condition? id with
    | none => exact .done
    | some target => exact ih target

end Condition

variable {s : Snapshot} {d : Document} {limit : Nat}

theorem Collection.comesTo_inquire (hleaf : ∀ l, may (.leaf s d l)) (c : Collection) :
    (c.inquire s d limit).ComesTo may (c.evaluate (Leaf.evaluate s d) s limit) := by
  refine (Condition.comesTo_inquireAt (fun l => Inquiry.comesTo_leaf (hleaf l)) s limit limit c.condition).bind ?_
  rw [Collection.evaluate, Condition.evaluate]
  cases c.condition.evaluateAt (Leaf.evaluate s d) s limit limit <;> exact .done

theorem Findings.comesTo_inquire {judge : Collection → Inquiry Verdict} {verdict : Collection → Verdict}
    (hjudge : ∀ c, (judge c).ComesTo may (verdict c)) (cs : List Collection) :
    (Findings.inquire judge cs).ComesTo may (cs.map fun c => (c.id, verdict c)) := by
  induction cs with
  | nil => exact .done
  | cons c cs ih => exact (hjudge c).bind (ih.bind .done)

theorem Walk.comesTo_inquire {tieBreak : TieBreak} {look : Entry → Inquiry Findings} {found : Entry → Findings}
    (hlook : ∀ e, (look e).ComesTo may (found e)) (es : List Entry) :
    ∀ w : Walk, (w.inquire tieBreak look es).ComesTo may (w.through tieBreak found es) := by
  induction es with
  | nil => exact fun _ => .done
  | cons e es ih =>
    intro w
    refine (hlook e).bind ?_
    rw [Walk.through]
    split
    · exact .done
    · exact ih _

theorem Sequence.comesTo_inquire (hleaf : ∀ l, may (.leaf s d l)) (tieBreak : TieBreak) (q : Sequence) :
    (q.inquire tieBreak limit s d).ComesTo may (q.walk tieBreak (Leaf.evaluate s d) limit s) :=
  Walk.comesTo_inquire (fun e => Findings.comesTo_inquire (Collection.comesTo_inquire hleaf) (e.collections s))
    q.entries Walk.start

/-- What is wrong with details may be asked of the schemas of these types. -/
def PolicyType.MayAsk (may : Query → Prop) (t : PolicyType) : Prop :=
  ∀ schema, t.definition = some schema → ∀ details, may (.details details schema)

theorem Policy.comesTo_inquire {t : PolicyType} (ht : t.MayAsk may) (p : Policy) :
    (p.inquire t).ComesTo may (p.validate Schema.validate t) := by
  unfold Policy.inquire Policy.validate
  cases hschema : t.definition with
  | none => exact .done
  | some schema =>
    refine (Inquiry.comesTo_details (ht schema hschema p.details)).bind ?_
    dsimp only
    cases Schema.validate p.details schema <;> exact .done

namespace Application
variable {h : Handler} {t : PolicyType} {sequence : Int} {registry : Registry}

theorem comesTo_inquireStep (ht : t.MayAsk may) (a : Application) (p : Policy) :
    (a.inquireStep h t sequence p).ComesTo may (a.step Schema.validate h t sequence p) := by
  unfold inquireStep step
  split
  · exact .done
  · refine (p.comesTo_inquire ht).bind ?_
    cases p.validate Schema.validate t <;> exact .done

theorem comesTo_inquireSteps (ht : t.MayAsk may) (ps : List Policy) : ∀ a : Application,
    (a.inquireSteps h t sequence ps).ComesTo may (ps.foldl (step Schema.validate h t sequence) a) := by
  induction ps with
  | nil => exact fun _ => .done
  | cons p ps ih => exact fun a => (a.comesTo_inquireStep ht p).bind (ih _)

theorem comesTo_inquireGroup (hs : ∀ id t, s.policyType? id = some t → t.MayAsk may) (a : Application)
    (group : Int × List Policy) :
    (a.inquireGroup registry s sequence group).ComesTo may
      (a.applyGroup registry Schema.validate s sequence group) := by
  unfold inquireGroup applyGroup
  split
  · exact .done
  · cases htype : s.policyType? group.1 with
    | none => exact .done
    | some t =>
      dsimp only
      cases registry.handlerFor t with
      | error e => exact .done
      | ok h =>
        dsimp only
        cases h.resolve a.document group.2 with
        | error e => exact .done
        | ok policies => exact comesTo_inquireSteps (hs _ t htype) _ a

theorem comesTo_inquireGroups (hs : ∀ id t, s.policyType? id = some t → t.MayAsk may)
    (groups : List (Int × List Policy)) : ∀ a : Application,
    (a.inquireGroups registry s sequence groups).ComesTo may
      (groups.foldl (applyGroup registry Schema.validate s sequence) a) := by
  induction groups with
  | nil => exact fun _ => .done
  | cons group groups ih => exact fun a => (a.comesTo_inquireGroup hs group).bind (ih _)

end Application

theorem Inquiry.comesTo_ofDocument (hleaf : ∀ l, may (.leaf s d l))
    (hs : ∀ id t, s.policyType? id = some t → t.MayAsk may) (registry : Registry) (settings : Settings)
    (q : Sequence) : (Inquiry.ofDocument registry settings s q d).ComesTo may
      ((Pipeline.builtIn registry Schema.validate settings).process s q d) :=
  (Sequence.comesTo_inquire hleaf settings.tieBreak q).bind
    ((Application.comesTo_inquireGroups hs (s.policyGroups _) (.start d)).bind .done)

end Filing
