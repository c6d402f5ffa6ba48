import Hindsight.Proofs.Query.Entries
import Hindsight.Proofs.Store.Growth
import Hindsight.Proofs.Time.Window
import Hindsight.Query.Slide

/-!
# Aggregates do not look ahead

An aggregate whose window looks back comes to the same outcomes over two lists of candidates that
are the same up to an instant, at the points that are not later than the instant
(`WindowedAggregate.evaluate_take_eq`). The frames of these points are the same and lie in the
common part of the candidates (`WindowedAggregate.frame_eq_of_upTo`). A slide to them reads no other
entry, so what later points and later candidates do to it cannot show.
-/

namespace Hindsight

open Time (Bounds Instant)

namespace Timeline

variable {T : Instant} {t t' : Timeline}

/-- What satisfies a test only up to an instant is counted up to the instant. Events behind it never
pass. -/
theorem leading_upTo {test : StoredEvent → Bool} (early : ∀ x, test x = true → x.event.time ≤ T)
    (t : Timeline) : leading test (t.upTo T) = leading test t := by
  induction t with
  | nil => rfl
  | cons x t ih =>
    by_cases passes : test x = true
    · rw [upTo_cons_of_le (early x passes), leading, leading, ih]
    · rcases le_or_gt x.event.time T with before | after
      · rw [upTo_cons_of_le before, leading, leading, if_neg passes, if_neg passes]
      · rw [upTo_cons_of_lt after, leading, leading, if_neg passes]

/-- Bounds that do not go beyond an instant have their frame in the part up to it, with the same two
ends. -/
theorem frame_upTo {b : Bounds} (before : ∀ u, b.isBefore u = true → u ≤ T)
    (reached : ∀ u, b.reaches u = true → u ≤ T) (t : Timeline) :
    (t.upTo T).frame b = t.frame b := by
  simp only [frame, leading_upTo (fun x => before x.event.time),
    leading_upTo (fun x => reached x.event.time)]

/-- The events up to a time stand in front of a timeline. -/
theorem take_length_upTo (t : Timeline) : t.take (t.upTo T).length = t.upTo T :=
  (List.prefix_iff_eq_take.1 (List.takeWhile_prefix _)).symm

end Timeline

namespace WindowedAggregate

variable {a : Aggregate} {t t' : Timeline} {inclusive : Bool} {T : Instant} {p : SourcedPoint}
  {ps : List SourcedPoint}

/-- **The frame of a point** is the same over candidates that are the same up to an instant, and
lies in their common part. -/
theorem frame_eq_of_upTo (inclusive : Bool) (looksBack : a.window.LooksBack)
    (agree : t.upTo T = t'.upTo T) {p : ObservationPoint} (early : p.instant ≤ T) :
    (mk a t inclusive).frame p = (mk a t' inclusive).frame p ∧
      ((mk a t inclusive).frame p).stop ≤ (t.upTo T).length := by
  have before : ∀ u, (a.window.bounds p.instant inclusive).isBefore u = true → u ≤ T :=
    fun u h => (Time.Window.not_later_of_isBefore looksBack h).trans early
  have reached : ∀ u, (a.window.bounds p.instant inclusive).reaches u = true → u ≤ T :=
    fun u h => (Time.Window.not_later_of_reaches looksBack h).trans early
  have here := Timeline.frame_upTo before reached t
  have there := Timeline.frame_upTo before reached t'
  rw [frame, frame]
  dsimp only
  rw [← here, ← there, agree]
  exact ⟨rfl, Timeline.stop_frame_le _ _⟩

/-- A frame in the common part holds the same events, whatever the two timelines have behind it. -/
theorem of_eq_of_upTo (agree : t.upTo T = t'.upTo T) {f : Frame}
    (inside : f.stop ≤ (t.upTo T).length) : f.of t = f.of t' := by
  have common : t.take (t.upTo T).length = t'.take (t.upTo T).length := by
    rw [Timeline.take_length_upTo, agree, Timeline.take_length_upTo]
  rw [Frame.of, Frame.of, ← segment_take inside t, common, segment_take inside]

/-- **A window that looks back comes to the same over timelines that agree up to a time**, at points
that are not later: it ends before anything in which they differ. -/
theorem rescanAt_eq_of_upTo (looksBack : a.window.LooksBack) (agree : t.upTo T = t'.upTo T)
    (early : p.point.instant ≤ T) :
    (mk a t inclusive).rescanAt p = (mk a t' inclusive).rescanAt p := by
  obtain ⟨same, inside⟩ := frame_eq_of_upTo inclusive looksBack agree early
  rw [rescanAt, rescanAt, ← same, of_eq_of_upTo agree inside]

/-- The entries of the common part are the same, since each is made of its own candidate at one
point. -/
theorem getElem?_entries_eq (agree : t.upTo T = t'.upTo T) {es es' : List Entry}
    (h : (mk a t inclusive).entries p = .ok es) (h' : (mk a t' inclusive).entries p = .ok es')
    {n : Nat} (inside : n < (t.upTo T).length) : es[n]? = es'[n]? := by
  obtain ⟨holds, numbered⟩ := entries_spec h
  obtain ⟨holds', numbered'⟩ := entries_spec h'
  have common (s : Timeline) (hs : s.upTo T = t.upTo T) : s[n]? = (t.upTo T)[n]? := by
    rw [← hs, ← Timeline.take_length_upTo, List.getElem?_take, if_pos (by rwa [hs])]
  have here := List.getElem?_eq_getElem inside
  obtain ⟨e, he, holds⟩ := exists_getElem?_of_forall₂ holds ((common t rfl).trans here)
  obtain ⟨e', he', holds'⟩ := exists_getElem?_of_forall₂ holds' ((common t' agree.symm).trans here)
  have number := (numbered n e he).trans (numbered' n e' he').symm
  have time := holds.time.trans holds'.time.symm
  have contribution := Except.ok.inj (holds.contribution.symm.trans holds'.contribution)
  rw [he, he']
  obtain ⟨n, u, c⟩ := e
  obtain ⟨n', u', c'⟩ := e'
  cases number
  cases time
  cases contribution
  rfl

/-- A slide over candidates that are the same up to an instant comes to the same outcomes at the
points at its front that are not later. -/
theorem slide_take_eq (looksBack : a.window.LooksBack) (agree : t.upTo T = t'.upTo T)
    {content : Sliding} {outs outs' : List Outcome}
    (h : (mk a t inclusive).slide content ps = .ok outs)
    (h' : (mk a t' inclusive).slide content ps = .ok outs') {n : Nat}
    (early : ∀ p ∈ ps.take n, p.point.instant ≤ T) : outs.take n = outs'.take n := by
  cases ps with
  | nil =>
    cases h
    cases h'
    rfl
  | cons first rest =>
    obtain ⟨es, hes, slid⟩ := bind_eq_ok_iff.1 h
    obtain ⟨es', hes', slid'⟩ := bind_eq_ok_iff.1 h'
    have hes := mapError_eq_ok_iff.1 hes
    have hes' := mapError_eq_ok_iff.1 hes'
    have slid := SlidingWindow.slide_take slid n
    have slid' := SlidingWindow.slide_take slid' n
    have frames : ((first :: rest).take n).map (fun p => (mk a t inclusive).frame p.point) =
        ((first :: rest).take n).map fun p => (mk a t' inclusive).frame p.point :=
      List.map_congr_left fun p hp => (frame_eq_of_upTo inclusive looksBack agree (early p hp)).1
    rw [← List.map_take] at slid slid'
    rw [← frames] at slid'
    have read : ∀ place ∈ SlidingWindow.places ⟨content, 0, 0⟩
        (((first :: rest).take n).map fun p => (mk a t inclusive).frame p.point),
        es[place]? = es'[place]? := by
      intro place hplace
      obtain ⟨f, hf, before⟩ := SlidingWindow.exists_lt_stop hplace
      obtain ⟨p, hp, rfl⟩ := List.mem_map.1 hf
      have inside := (frame_eq_of_upTo inclusive looksBack agree (early p hp)).2
      exact getElem?_entries_eq agree hes hes' (lt_of_lt_of_le before inside)
    rw [SlidingWindow.slide_congr read, slid', Except.ok.injEq] at slid
    exact slid.symm

/-- **An aggregate that looks back does not look ahead.** Over candidates that are the same up to an
instant it comes to the same outcomes at the points at the front that are not later. -/
theorem evaluate_take_eq (looksBack : a.window.LooksBack) (agree : t.upTo T = t'.upTo T)
    {s : Strategy} {outs outs' : List Outcome} (h : (mk a t inclusive).evaluate s ps = .ok outs)
    (h' : (mk a t' inclusive).evaluate s ps = .ok outs') {n : Nat}
    (early : ∀ p ∈ ps.take n, p.point.instant ≤ T) : outs.take n = outs'.take n := by
  cases s with
  | incremental => exact slide_take_eq looksBack agree h h' early
  | deque => exact slide_take_eq looksBack agree h h' early
  | rescan =>
    have each := List.forall₂_take n (mapM_eq_ok_iff.1 (mapError_eq_ok_iff.1 h))
    have each' := List.forall₂_take n (mapM_eq_ok_iff.1 (mapError_eq_ok_iff.1 h'))
    refine eq_of_forall₂ (fun p hp o o' ho ho' => ?_) each each'
    rw [rescanAt_eq_of_upTo looksBack agree (early p hp), ho', Except.ok.injEq] at ho
    exact ho.symm

end WindowedAggregate
end Hindsight
