import Hindsight.Proofs.Dict
import Hindsight.Proofs.Eval.Membership

/-!
# Pinned event types

Comparisons of the event type with literal texts, joined by `and` and `or`, pin the types of the
events on which a condition can hold. The rule for `and` takes what both sides pin, or what one side
pins alone, and the rule for `or` takes what either side pins if both pin something. Where a
condition holds, the type of the event is among those it pins (`Formula.contains_of_holds`).
-/

namespace Hindsight

/-- Texts are equal as a comparison has it just if they are the same. No text is read as anything
else beside a text. -/
theorem Value.equals_text_iff {s t : String} : (text s).equals (text t) = true ↔ s = t := by
  show (true && true && s == t) = true ↔ s = t
  simp

namespace Formula

variable {ctx : EvalContext} {e : Event} {f left right : Formula} {types : NameSet}

section Connectives

/-- A formula holds if it has a value that counts as true. One that fails does not hold. -/
theorem holds_iff : f.holds ctx = .ok true ↔ ∃ v, f.evaluate ctx = .ok v ∧ v.isTrue = true := by
  rw [holds, bind_eq_ok_iff]
  simp [pure, Except.pure]

/-- Both sides of a conjunction hold where it does. So it pins what either of them pins. -/
theorem holds_and (h : (binary left (.connect .and) right).holds ctx = .ok true) :
    left.holds ctx = .ok true ∧ right.holds ctx = .ok true := by
  obtain ⟨v, value, holds⟩ := holds_iff.1 h
  rw [evaluate] at value
  obtain ⟨l, hl, value⟩ := bind_eq_ok_iff.1 value
  cases first : l.isTrue with
  | false =>
    simp only [Operator.shortCut?, first, pure, Except.pure] at value
    cases value
    cases holds
  | true =>
    simp only [Operator.shortCut?, first] at value
    obtain ⟨r, hr, value⟩ := bind_eq_ok_iff.1 value
    obtain rfl := Except.ok.inj value
    rw [Value.isTrue, Connective.apply, first] at holds
    exact ⟨holds_iff.2 ⟨l, hl, first⟩, holds_iff.2 ⟨r, hr, holds⟩⟩

/-- One side of a disjunction holds where it does. So it pins a type only if both of them pin
some. -/
theorem holds_or (h : (binary left (.connect .or) right).holds ctx = .ok true) :
    left.holds ctx = .ok true ∨ right.holds ctx = .ok true := by
  obtain ⟨v, value, holds⟩ := holds_iff.1 h
  rw [evaluate] at value
  obtain ⟨l, hl, value⟩ := bind_eq_ok_iff.1 value
  cases first : l.isTrue with
  | true => exact .inl (holds_iff.2 ⟨l, hl, first⟩)
  | false =>
    simp only [Operator.shortCut?, first] at value
    obtain ⟨r, hr, value⟩ := bind_eq_ok_iff.1 value
    obtain rfl := Except.ok.inj value
    rw [Value.isTrue, Connective.apply, first] at holds
    exact .inr (holds_iff.2 ⟨r, hr, holds⟩)

end Connectives

section Literals

/-- The type of the event at hand is a text, whichever event it is. -/
theorem evaluate_of_isEventType (atHand : ctx.event = some e) (h : f.isEventType = true) :
    f.evaluate ctx = .ok (.text e.type) := by
  cases f with
  | field field =>
    cases field with
    | type =>
      rw [evaluate, atHand]
      rfl
    | _ => cases h
  | _ => cases h

/-- A literal text comes to that text, in every context. -/
theorem evaluate_of_literalText? {s : String} (h : f.literalText? = some s) :
    f.evaluate ctx = .ok (.text s) := by
  cases f with
  | literal v =>
    cases v with
    | text t =>
      obtain rfl := Option.some.inj h
      rfl
    | _ => cases h
  | _ => cases h

/-- Literal texts come to these texts, by induction on the items. -/
theorem evaluateAll_of_literalTexts? {items : List Formula} {ss : List String}
    (h : literalTexts? items = some ss) : evaluateAll ctx items = .ok (ss.map .text) := by
  induction items generalizing ss with
  | nil =>
    obtain rfl := Option.some.inj h
    rfl
  | cons item items ih =>
    rw [literalTexts?] at h
    split at h
    · next s rest first others =>
      obtain rfl := Option.some.inj h
      rw [evaluateAll, evaluate_of_literalText? first, ok_bind, ih others]
      rfl
    · cases h

/-- A comparison for equality holds where the two sides come to equal texts. -/
theorem eq_of_holds_equals {s t : String} (hl : left.evaluate ctx = .ok (.text s))
    (hr : right.evaluate ctx = .ok (.text t))
    (h : (binary left (.compare .eq) right).holds ctx = .ok true) : s = t := by
  obtain ⟨v, value, holds⟩ := holds_iff.1 h
  rw [evaluate_equals hl, hr] at value
  obtain rfl := Except.ok.inj value
  exact Value.equals_text_iff.1 holds

/-- A test for membership among texts holds where the other side comes to one of them. Between texts
the two rules for equality agree. -/
theorem mem_of_holds_isIn {s : String} {items : List Formula} {ss : List String}
    (hl : left.evaluate ctx = .ok (.text s)) (hr : evaluateAll ctx items = .ok (ss.map .text))
    (h : (binary left .isIn (list items)).holds ctx = .ok true) : s ∈ ss := by
  rw [holds_isIn hl hr] at h
  obtain ⟨x, hx, same, -⟩ := isMember_list_iff.1 h
  obtain ⟨t, ht, rfl⟩ := List.mem_map.1 hx
  rwa [Value.equals_text_iff.1 same]

end Literals

/-- **Where a condition holds,** the type of the event is among those it pins. By recursion on
formulas, in the cases in which types are pinned at all. -/
theorem contains_of_holds (atHand : ctx.event = some e) (pins : f.pinnedTypes = some types)
    (h : f.holds ctx = .ok true) : types.contains e.type = true := by
  have single {s : String} (same : e.type = s) :
      (NameSet.empty.insert s).contains e.type = true :=
    NameSet.contains_insert.2 (.inl same)
  -- one case for each way in which a formula pins types, and at the end those in which it pins none
  fun_induction pinnedTypes f generalizing types with
  | case1 left right first =>
    obtain ⟨s, literal, rfl⟩ := Option.map_eq_some_iff.1 pins
    exact single (eq_of_holds_equals (evaluate_of_isEventType atHand first)
      (evaluate_of_literalText? literal) h)
  | case2 left right _ second =>
    obtain ⟨s, literal, rfl⟩ := Option.map_eq_some_iff.1 pins
    exact single (eq_of_holds_equals (evaluate_of_literalText? literal)
      (evaluate_of_isEventType atHand second) h).symm
  | case4 left items first =>
    obtain ⟨ss, literals, rfl⟩ := Option.map_eq_some_iff.1 pins
    exact NameSet.contains_ofList.2 (mem_of_holds_isIn (evaluate_of_isEventType atHand first)
      (evaluateAll_of_literalTexts? literals) h)
  | case6 left right l r second first ofLeft ofRight =>
    obtain rfl := Option.some.inj pins
    obtain ⟨hl, hr⟩ := holds_and h
    exact NameSet.contains_inter.2 ⟨ofLeft first hl, ofRight second hr⟩
  | case7 left right l _ first ofLeft _ =>
    obtain rfl := Option.some.inj pins
    exact ofLeft first (holds_and h).1
  | case8 left right _ _ ofRight => exact ofRight pins (holds_and h).2
  | case9 left right l r second first ofLeft ofRight =>
    obtain rfl := Option.some.inj pins
    exact NameSet.contains_union.2 ((holds_or h).imp (ofLeft first) (ofRight second))
  | case3 | case5 | case10 | case11 => cases pins

end Formula
end Hindsight
