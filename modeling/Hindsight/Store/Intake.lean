import Hindsight.Store.Index

/-!
# Taking events in

An index is changed structure by structure. An event first asks for its id to be free, then its
kinds are written into the schema one after the other, then it goes into the arena, to the
timelines and into the catalogue entity by entity, onto the timeline of all events and under its id.
A refusal stops the intake where it is, and what was written before it stays. An event comes in as a
whole or not at all because no step that can refuse it comes after one that writes.
-/

namespace Hindsight

/-- A change of an index in steps, which may be refused on the way. The steps before a refusal are
not taken back. -/
abbrev Intake := ExceptT EventError (StateM EventIndex)

namespace Intake

/-- What comes of an intake, and the index after it. -/
def on {α : Type} (p : Intake α) (x : EventIndex) : Except EventError α × EventIndex :=
  (p.run.run x).run

/-- Change the index. -/
def write (f : EventIndex → EventIndex) : Intake Unit := modify f

/-- What comes of an intake as a value, so that a refusal does not stop what follows. -/
def attempt {α : Type} (p : Intake α) : Intake (Except EventError α) := ExceptT.lift p.run

section Steps

variable {α β : Type}

/-- A result leaves the index as it is. -/
@[simp] theorem on_pure (a : α) (x : EventIndex) : (pure a : Intake α).on x = (.ok a, x) := rfl

/-- Reading the index leaves it as it is. -/
@[simp] theorem on_get (x : EventIndex) : (get : Intake EventIndex).on x = (.ok x, x) := rfl

/-- A fault leaves the index as it is at that moment, with all that was written before. -/
@[simp] theorem on_throw (fault : EventError) (x : EventIndex) :
    (throw fault : Intake α).on x = (.error fault, x) := rfl

/-- A write changes the index and cannot fail. -/
@[simp] theorem on_write (f : EventIndex → EventIndex) (x : EventIndex) :
    (write f).on x = (.ok (), f x) := rfl

/-- An attempt hands its fault on as a result, and keeps what was written before the fault. -/
@[simp] theorem on_attempt (p : Intake α) (x : EventIndex) :
    (attempt p).on x = (.ok (p.on x).1, (p.on x).2) := rfl

/-- **Of two intakes in a row** the second goes on from where the first stopped, unless that was
refused. -/
theorem on_bind (p : Intake α) (f : α → Intake β) (x : EventIndex) :
    (p >>= f).on x = match p.on x with
      | (.ok a, y) => (f a).on y
      | (.error fault, y) => (.error fault, y) := by
  show (let (r, y) := p.on x; (ExceptT.bindCont f r).run y) = _
  rcases p.on x with ⟨fault | a, y⟩
  · rfl
  · rfl

/-- Writing once for each item of a list. -/
theorem on_forM_write (f : α → EventIndex → EventIndex) (as : List α) (x : EventIndex) :
    (forM as fun a => write (f a)).on x = (.ok (), as.foldl (fun x a => f a x) x) := by
  induction as generalizing x with
  | nil => rfl
  | cons a as ih =>
    rw [List.forM_cons, on_bind, on_write]
    exact ih _

end Steps

/-- Ask for the id of an event to be free. -/
def askForId (e : Event) : Intake Unit := do
  if let some id := (← get).takenId? e then
    throw (.invalidEvent (.duplicateId id))

/-- Check all attributes of an event, then record their kinds one by one. -/
def learn (e : Event) : Intake Unit := do
  match (← get).schema.check e with
  | .error fault => throw fault
  | .ok updates =>
    write fun x => { x with schema := x.schema.update e.type .empty id }
    forM updates fun u => write fun x => x.declare e.type u.1 u.2

/-- Learn from an event. An index that does not validate goes on where this is refused. -/
def learnOrPass (e : Event) : Intake Unit := do
  match ← attempt (learn e) with
  | .ok () => pure ()
  | .error fault => if (← get).validates then throw fault

/-- List a stored event with one of its entities. -/
def list (x : StoredEvent) (entity : String × String) : Intake Unit := do
  write fun i => { i with series := EventIndex.insertSeries x i.series entity }
  write fun i => { i with catalogue := EventIndex.insertEntity i.catalogue entity }

/-- Take in an event. The result is the number under which it is stored. -/
def store (e : Event) : Intake Nat := do
  askForId e
  learnOrPass e
  let slot := (← get).arena.size
  write fun i => { i with arena := i.arena.push e }
  forM e.entities.entries (list ⟨slot, e⟩)
  write fun i => { i with timeline := i.timeline.insert ⟨slot, e⟩ }
  match e.id with
  | some id => write fun i => { i with byId := i.byId.insert id ⟨slot, e⟩ }
  | none => pure ()
  return slot

/-- Take in events up to the first that is refused, and count them. -/
def storeAll (es : List Event) : Intake Nat :=
  es.foldlM (fun stored e => do
    let _ ← store e
    return stored + 1) 0

end Intake
end Hindsight
