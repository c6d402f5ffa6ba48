import Hindsight.Proofs.Eval.Parts
import Hindsight.Proofs.Expr.Canonical
import Hindsight.Proofs.Plan.Compile

/-!
# The literals of what is compiled

A text writes null, truth values, integers of a word, numbers with a fraction and texts
(`Value.Written`), and the literals of a formula that is compiled from it are of these kinds, in the
formula of a feature or a condition as well as in the aggregates (`Formula.IsCompiled.written`).
Lowering walks over the expression and appends aggregates to those before it; each walk keeps to
literals that can be written, in what it makes and in what it appends (`Expr.Keeps`), by induction
on the trees that texts have.
-/

namespace Hindsight

/-- A value that a text can write. -/
def Value.Written : Value → Prop
  | null | bool _ | float _ | text _ => True
  | int n => Number.fitsWord n = true
  | negativeNaN | instant _ | list _ | map _ => False

/-- A formula whose literals a text can write. -/
def Formula.Written (f : Formula) : Prop := ∀ v, .literal v ∈ f.parts → v.Written

/-- The argument and the clauses of an aggregate. -/
def Aggregate.formulas (a : Aggregate) : List Formula := a.argument :: a.clauses

/-- The formula of a feature and those of its aggregates. -/
def Feature.formulas (f : Feature) : List Formula :=
  f.formula :: f.aggregates.flatMap Aggregate.formulas

/-- A formula of a compiled feature or condition. -/
def Formula.IsCompiled (g : Formula) : Prop :=
  (∃ f : Feature, f.FromText ∧ g ∈ f.formulas) ∨ ∃ c : Condition, c.FromText ∧ g = c.formula

/-- Aggregates whose literals a text can write. -/
def AllWritten (slots : List Aggregate) : Prop := ∀ a ∈ slots, ∀ f ∈ a.formulas, f.Written

namespace Formula

/-- The literals in the parts of several formulas can be written just if those of each formula
can. -/
theorem written_all_iff {fs : List Formula} :
    (∀ v, .literal v ∈ partsOfAll fs → v.Written) ↔ ∀ f ∈ fs, f.Written := by
  simp only [mem_partsOfAll_iff]
  exact ⟨fun h f hf v hv => h v ⟨f, hf, hv⟩, fun h v ⟨f, hf, hv⟩ => h f hf v hv⟩

/-- The literals of a list are those of its items, so a list may be looked at item by item. -/
theorem written_list_iff {items : List Formula} :
    (list items).Written ↔ ∀ f ∈ items, f.Written := by
  rw [← written_all_iff]
  simp [Written, parts]

/-- The literals of a call are those of its arguments. The function has none of its own. -/
theorem written_call_iff {f : ScalarFunction} {args : List Formula} :
    (call f args).Written ↔ ∀ g ∈ args, g.Written := by
  rw [← written_all_iff]
  simp [Written, parts]

/-- The literals under an operator with one operand are those of the operand, since the operator
holds no value. -/
theorem written_unary_iff {op : UnaryOperator} {f : Formula} :
    (unary op f).Written ↔ f.Written := by
  simp [Written, parts]

/-- The literals under an operator with two operands are those of both, since the operator holds no
value. -/
theorem written_binary_iff {op : Operator} {l r : Formula} :
    (binary l op r).Written ↔ l.Written ∧ r.Written := by
  simp only [Written, parts, List.mem_cons, reduceCtorEq, false_or, List.mem_append]
  exact ⟨fun h => ⟨fun v hv => h v (.inl hv), fun v hv => h v (.inr hv)⟩,
    fun h v hv => hv.elim (h.1 v) (h.2 v)⟩

end Formula

namespace Expr

/-- **A walk keeps to literals that can be written:** what it makes has a property, and with the
aggregates before it those behind it are such. -/
def Keeps {α : Type} (walk : List Aggregate → Except CompileError (α × List Aggregate))
    (P : α → Prop) : Prop :=
  ∀ before a after, AllWritten before → walk before = .ok (a, after) → P a ∧ AllWritten after

section Walks

variable {α β : Type} {walk : List Aggregate → Except CompileError (α × List Aggregate)}
  {P : α → Prop}

/-- What a walk makes is handed to what goes on from there: if the two together come to something,
the first one has made something of its kind and kept to aggregates with such literals. -/
theorem Keeps.next (h : Keeps walk P) {before : List Aggregate} (written : AllWritten before)
    {f : α × List Aggregate → Except CompileError β} {b : β} (walked : walk before >>= f = .ok b) :
    ∃ a after, P a ∧ AllWritten after ∧ f (a, after) = .ok b := by
  obtain ⟨⟨a, after⟩, first, walked⟩ := bind_eq_ok_iff.1 walked
  obtain ⟨here, written'⟩ := h _ _ _ written first
  exact ⟨a, after, here, written', walked⟩

/-- A walk that appends nothing keeps to literals that can be written, if what it makes has the
property. -/
theorem keeps_pure {a : α} (h : P a) : Keeps (fun slots => .ok (a, slots)) P := by
  intro before b after written walked
  cases walked
  exact ⟨h, written⟩

/-- **Lowering several expressions keeps to literals that can be written if lowering each of them
does**, by induction on the expressions: the aggregates of each stand before those of the next. -/
theorem keeps_lowerAll {items : List Expr}
    (each : ∀ e ∈ items, Keeps (fun slots => e.lower slots) Formula.Written) :
    Keeps (fun slots => lowerAll slots items) fun fs => ∀ f ∈ fs, f.Written := by
  induction items with
  | nil => exact keeps_pure (List.forall_mem_nil _)
  | cons e rest ih =>
    obtain ⟨first, later⟩ := List.forall_mem_cons.1 each
    intro before fs after written walked
    simp only [lowerAll] at walked
    obtain ⟨f, slots, hf, written, walked⟩ := first.next written walked
    obtain ⟨fs, slots, hfs, written, walked⟩ := (ih later).next written walked
    cases walked
    exact ⟨List.forall_mem_cons.2 ⟨hf, hfs⟩, written⟩

/-- Lowering a part that may be absent keeps to such literals: where it is absent there is nothing
to lower. -/
theorem keeps_lowerOption {e : Option Expr}
    (each : ∀ e' ∈ e, Keeps (fun slots => e'.lower slots) Formula.Written) :
    Keeps (fun slots => lowerOption slots e) fun f => ∀ g ∈ f, g.Written := by
  cases e with
  | none => exact keeps_pure (by simp)
  | some e =>
    intro before f after written walked
    simp only [lowerOption] at walked
    obtain ⟨g, slots, hg, written, walked⟩ := (each e rfl).next written walked
    cases walked
    exact ⟨by simpa using hg, written⟩

/-- Lowering a grouping or a selection keeps to such literals, in the key as well as in the rank. A
selection that is absent has neither. -/
theorem keeps_lowerSelection {s : Selection}
    (each : ∀ e ∈ s.expr?, Keeps (fun slots => e.lower slots) Formula.Written) :
    Keeps (fun slots => lowerSelection slots s) fun made =>
      (∀ g ∈ made.1, g.Written) ∧ ∀ r ∈ made.2, r.rank.Written := by
  cases s with
  | all => exact keeps_pure ⟨by simp, by simp⟩
  | groupBy key =>
    intro before made after written walked
    simp only [lowerSelection] at walked
    obtain ⟨g, slots, hg, written, walked⟩ := (each key rfl).next written walked
    cases walked
    exact ⟨⟨by simpa using hg, by simp⟩, written⟩
  | having extreme rank =>
    intro before made after written walked
    simp only [lowerSelection] at walked
    obtain ⟨g, slots, hg, written, walked⟩ := (each rank rfl).next written walked
    cases walked
    exact ⟨⟨by simp, by simpa using hg⟩, written⟩

end Walks

section Nodes

variable {e l r : Expr}

/-- A literal is lowered to itself, so it is enough that the text wrote it. -/
theorem keeps_lower_literal {v : Value} (h : v.Written) :
    Keeps (fun slots => (literal v).lower slots) Formula.Written :=
  keeps_pure fun w hw => by
    obtain rfl : w = v := by simpa [Formula.parts] using hw
    exact h

/-- A list is lowered item by item, and the aggregates of each item are lifted before those of the
next. -/
theorem keeps_lower_list {items : List Expr}
    (each : ∀ e ∈ items, Keeps (fun slots => e.lower slots) Formula.Written) :
    Keeps (fun slots => (list items).lower slots) Formula.Written := by
  intro before f after written walked
  simp only [lower] at walked
  obtain ⟨fs, slots, hfs, written, walked⟩ := (keeps_lowerAll each).next written walked
  cases walked
  exact ⟨Formula.written_list_iff.2 hfs, written⟩

/-- An operator with one operand is lowered with its operand, and adds nothing to what that
lifts. -/
theorem keeps_lower_unary {op : UnaryOperator}
    (operand : Keeps (fun slots => e.lower slots) Formula.Written) :
    Keeps (fun slots => (unary op e).lower slots) Formula.Written := by
  intro before f after written walked
  simp only [lower] at walked
  obtain ⟨g, slots, hg, written, walked⟩ := operand.next written walked
  cases walked
  exact ⟨Formula.written_unary_iff.2 hg, written⟩

/-- An operator is lowered with its left operand first, whose aggregates come before those of the
right one. -/
theorem keeps_lower_binary {op : Operator}
    (left : Keeps (fun slots => l.lower slots) Formula.Written)
    (right : Keeps (fun slots => r.lower slots) Formula.Written) :
    Keeps (fun slots => (binary l op r).lower slots) Formula.Written := by
  intro before f after written walked
  simp only [lower] at walked
  obtain ⟨g, slots, hg, written, walked⟩ := left.next written walked
  obtain ⟨h, slots, hh, written, walked⟩ := right.next written walked
  cases walked
  exact ⟨Formula.written_binary_iff.2 ⟨hg, hh⟩, written⟩

/-- A call is lowered with its arguments, once it is accepted; the call itself holds no literal. A
call that is refused has nothing to keep to. -/
theorem keeps_lower_call {name : String} {args : List Expr}
    (each : ∀ e ∈ args, Keeps (fun slots => e.lower slots) Formula.Written) :
    Keeps (fun slots => (call name args).lower slots) Formula.Written := by
  intro before f after written walked
  simp only [lower] at walked
  obtain ⟨g, -, walked⟩ := bind_eq_ok_iff.1 walked
  obtain ⟨fs, slots, hfs, written, walked⟩ := (keeps_lowerAll each).next written walked
  cases walked
  exact ⟨Formula.written_call_iff.2 hfs, written⟩

/-- **An aggregate is lowered to a slot, and is appended itself**: its argument and its clauses are
lowered first, and their literals are those of the aggregate. The slot itself holds none. -/
theorem keeps_lower_aggregate {name : String} {argument : Expr} {parameter filter : Option Expr}
    {window : Time.Window} {selection : Selection}
    (hargument : Keeps (fun slots => argument.lower slots) Formula.Written)
    (hfilter : ∀ e ∈ filter, Keeps (fun slots => e.lower slots) Formula.Written)
    (hselection : ∀ e ∈ selection.expr?, Keeps (fun slots => e.lower slots) Formula.Written) :
    Keeps (fun slots => (aggregate name argument parameter window filter selection).lower slots)
      Formula.Written := by
  intro before f after written walked
  simp only [lower] at walked
  obtain ⟨g, -, walked⟩ := bind_eq_ok_iff.1 walked
  obtain ⟨a, slots, ha, written, walked⟩ := hargument.next written walked
  obtain ⟨c, slots, hc, written, walked⟩ := (keeps_lowerOption hfilter).next written walked
  obtain ⟨⟨key, ranking⟩, slots, ⟨hkey, hranking⟩, written, walked⟩ :=
    (keeps_lowerSelection hselection).next written walked
  cases walked
  refine ⟨fun v hv => by simp [Formula.parts] at hv, ?_⟩
  refine List.forall_mem_append.2 ⟨written, List.forall_mem_singleton.2 ?_⟩
  rw [Aggregate.formulas, Aggregate.clauses, List.forall_mem_cons, List.forall_mem_append,
    List.forall_mem_append]
  refine ⟨ha,
    ⟨fun f hf => hc f (Option.mem_toList.1 hf), fun f hf => hkey f (Option.mem_toList.1 hf)⟩,
    fun f hf => ?_⟩
  obtain ⟨r, hr, rfl⟩ := Option.map_eq_some_iff.1 (Option.mem_toList.1 hf)
  exact hranking r hr

/-- **Lowering a tree that a text has** keeps to literals that can be written. By induction on the
tree: each of the cases above is one of its constructors. -/
theorem Canonical.keeps_lower (h : e.Canonical) :
    Keeps (fun slots => e.lower slots) Formula.Written := by
  induction h with
  | null | bool _ | float _ | text _ => exact keeps_lower_literal trivial
  | int large small =>
    have least : Number.minWord ≤ -Number.maxWord := by decide
    have fits := Bool.and_eq_true_iff.2
      ⟨decide_eq_true (least.trans large), decide_eq_true small⟩
    exact keeps_lower_literal fits
  | attr | sourceAttr | field | entity | observationTime | wildcard =>
    exact keeps_pure fun v hv => by simp [Formula.parts] at hv
  | list _ _ ih => exact keeps_lower_list ih
  | not _ ih => exact keeps_lower_unary ih
  | negate _ _ _ ih => exact keeps_lower_unary ih
  | binary _ _ _ ihl ihr => exact keeps_lower_binary ihl ihr
  | isIn _ _ _ _ ihl ih => exact keeps_lower_binary ihl (keeps_lower_list ih)
  | call _ _ ih => exact keeps_lower_call ih
  | aggregate _ _ _ _ _ _ iha _ ihf ihs => exact keeps_lower_aggregate iha ihf ihs

end Nodes

end Expr

/-- Lowering starts without aggregates, so at first there is no literal at all. This is where the
induction over a feature begins. -/
theorem allWritten_nil : AllWritten [] := fun _ none => absurd none List.not_mem_nil

/-- **The literals of what is compiled** are values that a text can write. So whatever is proved of
such literals holds of every formula that a query can run. -/
theorem Formula.IsCompiled.written {g : Formula} (h : g.IsCompiled) : g.Written := by
  rcases h with ⟨f, compiled, member⟩ | ⟨c, compiled, rfl⟩
  · obtain ⟨text, t, parsed, -, lowered, -⟩ := Feature.exists_of_fromText compiled
    obtain ⟨formula, aggregates, walked, rfl⟩ := FeatureText.exists_of_lower lowered
    obtain ⟨here, inside⟩ :=
      (FeatureText.canonical_of_parse parsed).keeps_lower _ _ _ allWritten_nil walked
    rcases List.mem_cons.1 member with rfl | member
    · exact here
    · obtain ⟨a, ha, hg⟩ := List.mem_flatMap.1 member
      exact inside a ha g hg
  · obtain ⟨text, e, parsed, lowered⟩ := Condition.exists_of_fromText compiled
    obtain ⟨⟨formula, aggregates⟩, walked, made⟩ := bind_eq_ok_iff.1 lowered
    cases made
    exact ((Expr.canonical_of_parse parsed).keeps_lower _ _ _ allWritten_nil walked).1

end Hindsight
