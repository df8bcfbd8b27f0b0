import PathTemplate.Proofs.Precedence

/-!
# What runs print

The error stream is made of events: errors are always shown, records from some level on. So a run
and its level determine which of its events are shown.

## Main definitions

* `Event.isShown`: whether an event is shown on the error stream.
* `Run.shown`: the events that the error stream shows.
* `recordLines`: records as they are shown.

## Main statements

* `Run.stderr_eq`: the error stream is what its events look like.
* `stdout_after`, `stderr_after`: the streams with records in front.
* `stdout_noting`, `stderr_noting`: the streams with notices in front.
-/

namespace PathTemplate.Command

/-! ## Texts in a row -/

theorem intercalate_cons (x : String) (xs : List String) :
    "".intercalate (x :: xs) = x ++ "".intercalate xs := by
  cases xs <;> simp

theorem intercalate_append (xs ys : List String) :
    "".intercalate (xs ++ ys) = "".intercalate xs ++ "".intercalate ys := by
  induction xs with
  | nil => simp
  | cons x xs ih => rw [List.cons_append, intercalate_cons, ih, intercalate_cons, String.append_assoc]

/-! ## Events -/

def Event.isShown (level : Level) : Event → Bool
  | .out _ => false
  | .err _ => true
  | .record r => level.number ≤ r.level.number

def Event.line : Event → String
  | .out _ => ""
  | .err text => text
  | .record r => r.line

def Run.shown (r : Run) : List Event :=
  r.events.filter (Event.isShown r.level)

theorem Event.stderr_eq (level : Level) (event : Event) :
    event.stderr level = if event.isShown level then event.line else "" := by
  cases event with
  | out text => rfl
  | err text => rfl
  | record r => simp [Event.stderr, isShown, line]

theorem Run.stderr_eq (r : Run) : r.stderr = "".intercalate (r.shown.map Event.line) := by
  obtain ⟨level, events, ending⟩ := r
  simp only [Run.stderr, Run.shown]
  induction events with
  | nil => rfl
  | cons event events ih =>
    rw [List.map_cons, intercalate_cons, ih, Event.stderr_eq, List.filter_cons]
    by_cases h : event.isShown level = true
    · simp [h, intercalate_cons]
    · simp [h]

/-! ## Records -/

def recordLines (records : List Record) : String :=
  "".intercalate (records.map Record.line)

theorem recordLines_append (records others : List Record) :
    recordLines (records ++ others) = recordLines records ++ recordLines others := by
  rw [recordLines, List.map_append, intercalate_append]
  rfl

variable (level : Level) (records : List Record) (e : Effects)

theorem stdout_after : ((e.after records).run level).stdout = (e.run level).stdout := by
  have hrecords : "".intercalate ((records.map Event.record).map Event.stdout) = "" := by
    induction records with
    | nil => rfl
    | cons r records ih => simpa [intercalate_cons, Event.stdout] using ih
  simp only [Run.stdout, Effects.run, Effects.after, List.map_append, intercalate_append, hrecords,
    String.empty_append]

theorem stderr_after : ((e.after records).run level).stderr =
    recordLines (records.filter fun r => level.number ≤ r.level.number) ++ (e.run level).stderr := by
  have hshown : ((e.after records).run level).shown =
      (records.filter fun r => level.number ≤ r.level.number).map .record ++ (e.run level).shown := by
    simp only [Run.shown, Effects.run, Effects.after, List.filter_append, List.filter_map]
    rfl
  rw [Run.stderr_eq, Run.stderr_eq, hshown, List.map_append, intercalate_append, List.map_map]
  rfl

/-! ## Notices -/

variable (notes : List String)

theorem stdout_noting : ((e.noting notes).run level).stdout = (e.run level).stdout := by
  have hnotes : "".intercalate ((notes.map Event.err).map Event.stdout) = "" := by
    induction notes with
    | nil => rfl
    | cons note notes ih => simpa [intercalate_cons, Event.stdout] using ih
  simp only [Run.stdout, Effects.run, Effects.noting, List.map_append, intercalate_append, hnotes,
    String.empty_append]

theorem stderr_noting :
    ((e.noting notes).run level).stderr = "".intercalate notes ++ (e.run level).stderr := by
  have htexts : (notes.map Event.err).map (Event.stderr level) = notes := by
    rw [List.map_map]
    exact List.map_id notes
  simp only [Run.stderr, Effects.run, Effects.noting, List.map_append, intercalate_append, htexts]

end PathTemplate.Command
