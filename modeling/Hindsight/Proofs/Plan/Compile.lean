import Hindsight.Plan.Compile
import Hindsight.Proofs.Expr.Margins
import Mathlib.Data.List.Nodup

/-!
# What is compiled depends on the text alone

A compiled feature or condition keeps the text it was compiled from, without the blanks around it.
That text decides what was compiled: **features of one text are one feature**
(`Feature.eq_of_raw_eq`) and conditions of one text are one condition (`Condition.eq_of_raw_eq`),
whether types were checked or not and whichever names were taken. The features of one query have
different names (`FeatureSet.FromTexts.nodup_names`).
-/

namespace Hindsight

/-- A feature that was compiled from a text. -/
def Feature.FromText (f : Feature) : Prop :=
  ∃ checkTypes taken text, Feature.compile checkTypes taken text = .ok f

/-- A query that was compiled from texts. -/
def FeatureSet.FromTexts (q : FeatureSet) : Prop :=
  ∃ checkTypes texts, FeatureSet.compile checkTypes texts = .ok q

/-- A condition that was compiled from a text. -/
def Condition.FromText (c : Condition) : Prop :=
  ∃ checkTypes text, Condition.compile checkTypes text = .ok c

/-- A feature that is lowered is named like its text and has the formula of its expression. Lowering
starts without aggregates, so those of the feature are its own. -/
theorem FeatureText.exists_of_lower {t : FeatureText} {f : Feature} (h : t.lower = .ok f) :
    ∃ formula aggregates, t.expr.lower [] = .ok (formula, aggregates) ∧
      f = ⟨t.name, t.raw, formula, aggregates⟩ := by
  obtain ⟨⟨formula, aggregates⟩, lowered, made⟩ := bind_eq_ok_iff.1 h
  cases made
  exact ⟨formula, aggregates, lowered, rfl⟩

/-- A feature has the name that its text gives it, by an alias or from its expression. -/
theorem FeatureText.name_of_lower {t : FeatureText} {f : Feature} (h : t.lower = .ok f) :
    f.name = t.name := by
  obtain ⟨formula, aggregates, -, rfl⟩ := FeatureText.exists_of_lower h
  rfl

/-- A compiled feature was parsed, placed and lowered, and its name was not taken. These are all the
steps, in the order in which they can fail. -/
theorem Feature.exists_of_compile {checkTypes : Bool} {taken : List String} {text : String}
    {f : Feature} (h : Feature.compile checkTypes taken text = .ok f) :
    ∃ t, FeatureText.parse text = .ok t ∧ t.expr.permit .projection = .ok () ∧
      t.lower = .ok f ∧ f.name ∉ taken := by
  obtain ⟨t, parsed, h⟩ := bind_eq_ok_iff.1 h
  dsimp only at h
  split at h
  · cases h
  rename_i free
  obtain ⟨⟨⟩, placed, h⟩ := bind_eq_ok_iff.1 h
  obtain ⟨f', lowered, h⟩ := bind_eq_ok_iff.1 h
  obtain rfl : f' = f := by
    split at h
    · obtain ⟨⟨⟩, -, h⟩ := bind_eq_ok_iff.1 h
      exact Except.ok.inj h
    · exact Except.ok.inj h
  refine ⟨t, mapError_eq_ok_iff.1 parsed, placed, lowered, ?_⟩
  rw [FeatureText.name_of_lower lowered]
  simpa using free

/-- The text of a parsed feature is the text that was parsed, without the blanks around it. -/
theorem FeatureText.raw_of_parse {s : String} {t : FeatureText} (h : FeatureText.parse s = .ok t) :
    t.raw = Text.trim s := by
  obtain ⟨ls, -, h⟩ := bind_eq_ok_iff.1 h
  obtain ⟨⟨e, rest⟩, -, h⟩ := bind_eq_ok_iff.1 h
  obtain ⟨⟨name, rest'⟩, -, h⟩ := bind_eq_ok_iff.1 h
  obtain ⟨⟨⟩, -, h⟩ := bind_eq_ok_iff.1 h
  cases h
  rfl

/-- What a compiled feature comes from: a text that is read, whose aggregates stand where they may,
and that is lowered to the feature. -/
theorem Feature.exists_of_fromText {f : Feature} (h : f.FromText) :
    ∃ text t, FeatureText.parse text = .ok t ∧ t.expr.permit .projection = .ok () ∧
      t.lower = .ok f ∧ f.raw = Text.trim text := by
  obtain ⟨checkTypes, taken, text, compiled⟩ := h
  obtain ⟨t, parsed, placed, lowered, -⟩ := Feature.exists_of_compile compiled
  refine ⟨text, t, parsed, placed, lowered, ?_⟩
  rw [← FeatureText.raw_of_parse parsed]
  obtain ⟨formula, aggregates, -, rfl⟩ := FeatureText.exists_of_lower lowered
  rfl

/-- **Features of one text are one feature.** Nothing but the text goes into compiling it, so a text
may stand for a feature. -/
theorem Feature.eq_of_raw_eq {f g : Feature} (hf : f.FromText) (hg : g.FromText)
    (same : f.raw = g.raw) : f = g := by
  obtain ⟨text, t, parsed, -, lowered, raw⟩ := Feature.exists_of_fromText hf
  obtain ⟨text', t', parsed', -, lowered', raw'⟩ := Feature.exists_of_fromText hg
  have read := FeatureText.related_parse (raw.symm.trans (same.trans raw'))
  rw [parsed, parsed'] at read
  obtain ⟨rfl⟩ := read
  exact Except.ok.inj (lowered.symm.trans lowered')

/-- A compiled condition was parsed, placed and lowered. Where it is placed keeps aggregates out of
it. -/
theorem Condition.exists_of_compile {checkTypes : Bool} {text : String} {c : Condition}
    (h : Condition.compile checkTypes text = .ok c) :
    ∃ e, Expr.parse text = .ok e ∧ e.permit .condition = .ok () ∧
      Condition.ofExpr text e = .ok c := by
  obtain ⟨e, parsed, h⟩ := bind_eq_ok_iff.1 h
  obtain ⟨⟨⟩, placed, h⟩ := bind_eq_ok_iff.1 h
  obtain ⟨c', lowered, h⟩ := bind_eq_ok_iff.1 h
  obtain rfl : c' = c := by
    split at h
    · obtain ⟨t, -, h⟩ := bind_eq_ok_iff.1 h
      obtain ⟨⟨⟩, -, h⟩ := bind_eq_ok_iff.1 h
      exact Except.ok.inj h
    · exact Except.ok.inj h
  exact ⟨e, mapError_eq_ok_iff.1 parsed, placed, lowered⟩

/-- What a compiled condition comes from: a text that is read, without aggregates. -/
theorem Condition.exists_of_fromText {c : Condition} (h : c.FromText) :
    ∃ text e, Expr.parse text = .ok e ∧ Condition.ofExpr text e = .ok c := by
  obtain ⟨checkTypes, text, compiled⟩ := h
  obtain ⟨e, parsed, -, lowered⟩ := Condition.exists_of_compile compiled
  exact ⟨text, e, parsed, lowered⟩

/-- **Conditions of one text are one condition,** since it is determined by the text it was read
from. So what is remembered under the text of a condition is about the condition itself. -/
theorem Condition.eq_of_raw_eq {c d : Condition} (hc : c.FromText) (hd : d.FromText)
    (same : c.raw = d.raw) : c = d := by
  obtain ⟨text, e, parsed, lowered⟩ := Condition.exists_of_fromText hc
  obtain ⟨text', e', parsed', lowered'⟩ := Condition.exists_of_fromText hd
  obtain ⟨⟨f, slots⟩, read, made⟩ := bind_eq_ok_iff.1 lowered
  obtain ⟨⟨f', slots'⟩, read', made'⟩ := bind_eq_ok_iff.1 lowered'
  cases made
  cases made'
  have trimmed : Text.trim text = Text.trim text' := same
  have trees := Expr.related_parse trimmed
  rw [parsed, parsed'] at trees
  obtain ⟨rfl⟩ := trees
  rw [read] at read'
  cases read'
  rw [trimmed]

/-- The features of a query were compiled each from its text, under names that were not taken. By
induction on the texts, each of which takes a name. -/
theorem compileFeatures_spec {checkTypes : Bool} {taken texts : List String} {fs : List Feature}
    (h : compileFeatures checkTypes taken texts = .ok fs) :
    (∀ f ∈ fs, f.FromText ∧ f.name ∉ taken) ∧ (fs.map Feature.name).Nodup := by
  induction texts generalizing taken fs with
  | nil =>
    cases h
    simp
  | cons text texts ih =>
    obtain ⟨f, compiled, h⟩ := bind_eq_ok_iff.1 h
    obtain ⟨rest, compiledRest, h⟩ := bind_eq_ok_iff.1 h
    cases h
    obtain ⟨each, nodup⟩ := ih compiledRest
    obtain ⟨t, -, -, -, free⟩ := Feature.exists_of_compile compiled
    have later : ∀ g ∈ rest, g.name ≠ f.name ∧ g.name ∉ taken := fun g hg => by
      simpa using (each g hg).2
    refine ⟨List.forall_mem_cons.2 ⟨⟨⟨_, _, _, compiled⟩, free⟩, fun g hg =>
      ⟨(each g hg).1, (later g hg).2⟩⟩, ?_⟩
    rw [List.map_cons, List.nodup_cons]
    refine ⟨fun taken => ?_, nodup⟩
    obtain ⟨g, hg, same⟩ := List.mem_map.1 taken
    exact (later g hg).1 same

/-- Each feature of a query was parsed and lowered from the text at its place, so texts and features
correspond. -/
theorem compileFeatures_each {checkTypes : Bool} {taken texts : List String} {fs : List Feature}
    (h : compileFeatures checkTypes taken texts = .ok fs) :
    List.Forall₂ (fun text f => ∃ t, FeatureText.parse text = .ok t ∧ t.lower = .ok f)
      texts fs := by
  induction texts generalizing taken fs with
  | nil =>
    cases h
    exact .nil
  | cons text texts ih =>
    obtain ⟨f, compiled, h⟩ := bind_eq_ok_iff.1 h
    obtain ⟨rest, compiledRest, h⟩ := bind_eq_ok_iff.1 h
    cases h
    obtain ⟨t, parsed, -, lowered, -⟩ := Feature.exists_of_compile compiled
    exact .cons ⟨t, parsed, lowered⟩ (ih compiledRest)

/-- A feature whose text is parsed, placed, lowered and typed is compiled. Examples are compiled by
this, step by step. -/
theorem Feature.compile_eq_ok {text : String} {taken : List String} {t : FeatureText} {f : Feature}
    (parsed : FeatureText.parse text = .ok t) (free : taken.contains t.name = false)
    (placed : t.expr.permit .projection = .ok ()) (lowered : t.lower = .ok f)
    (typed : discard (f.infer .empty) = .ok ()) : Feature.compile true taken text = .ok f := by
  rw [Feature.compile, parsedAs, parsed]
  simp only [Except.mapError, ok_bind, free, placed, lowered, typed]
  rfl

/-- Features that are parsed, placed, lowered and typed one by one, under different names, are
compiled together. -/
theorem compileFeatures_eq_ok {taken : List String} {ts : List FeatureText} {fs : List Feature}
    (free : ∀ t ∈ ts, t.name ∉ taken) (nodup : (ts.map FeatureText.name).Nodup)
    (each : List.Forall₂ (fun (t : FeatureText) f => FeatureText.parse t.raw = .ok t ∧
      t.expr.permit .projection = .ok () ∧ t.lower = .ok f ∧
        discard (f.infer .empty) = .ok ()) ts fs) :
    compileFeatures true taken (ts.map FeatureText.raw) = .ok fs := by
  induction each generalizing taken with
  | nil => rfl
  | @cons t f ts fs here _ ih =>
    obtain ⟨parsed, placed, lowered, typed⟩ := here
    obtain ⟨first, others⟩ := List.nodup_cons.1 nodup
    have name : f.name = t.name := FeatureText.name_of_lower lowered
    have untaken : taken.contains t.name = false := by
      simpa using free t List.mem_cons_self
    have later : ∀ u ∈ ts, u.name ∉ f.name :: taken := by
      intro u hu
      rw [List.mem_cons, not_or, name]
      exact ⟨fun same => first (same ▸ List.mem_map_of_mem hu), free u (List.mem_cons_of_mem _ hu)⟩
    rw [List.map_cons, compileFeatures,
      Feature.compile_eq_ok parsed untaken placed lowered typed, ok_bind, ih later others]
    rfl

namespace FeatureSet.FromTexts

variable {q : FeatureSet}

/-- The features of a compiled query are compiled from texts, each from the one at its place. -/
theorem fromText (h : q.FromTexts) : ∀ f ∈ q.features, f.FromText := by
  obtain ⟨checkTypes, texts, h⟩ := h
  obtain ⟨fs, compiled, h⟩ := bind_eq_ok_iff.1 h
  cases h
  exact fun f hf => ((compileFeatures_spec compiled).1 f hf).1

/-- **The features of a query have different names.** A name that is taken is refused when its text
is compiled. -/
theorem nodup_names (h : q.FromTexts) : (q.features.map Feature.name).Nodup := by
  obtain ⟨checkTypes, texts, h⟩ := h
  obtain ⟨fs, compiled, h⟩ := bind_eq_ok_iff.1 h
  cases h
  exact (compileFeatures_spec compiled).2

/-- Names tell the features of a compiled query apart, so a column belongs to one feature. -/
theorem eq_of_name_eq (h : q.FromTexts) {f g : Feature} (hf : f ∈ q.features)
    (hg : g ∈ q.features) (same : f.name = g.name) : f = g :=
  List.inj_on_of_nodup_map h.nodup_names hf hg same

end FeatureSet.FromTexts
end Hindsight
