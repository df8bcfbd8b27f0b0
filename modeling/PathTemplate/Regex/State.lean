import PathTemplate.Regex.Expr

/-!
# States of a match

A match is at a place in the text and remembers where the groups began and ended last.

## Main definitions

* `Marks`: where each group was opened and closed last.
* `State`: a place in the text, as the characters in front of it and behind it, with the marks.
* `State.captured?`: the text of a group.
* `Anchor.holds`: whether an anchor holds at a place.
-/

namespace PathTemplate.Regex

/-- Where a group was opened and closed last. A group that is open again keeps the place of its
last closing. -/
structure Mark where
  opened : Option Nat
  closed : Option Nat
deriving DecidableEq, Repr

/-- The stretch of a group: it has taken part if its last closing is not in front of its last
opening. -/
def Mark.span? (m : Mark) : Option (Nat × Nat) :=
  match m.opened, m.closed with
  | some start, some stop => if start ≤ stop then some (start, stop) else none
  | _, _ => none

abbrev Marks := List Mark

def Marks.none (count : Nat) : Marks :=
  List.replicate count ⟨Option.none, Option.none⟩

/-- A place in the text, with the marks. -/
structure State where
  position : Nat
  /-- The characters in front of the place, nearest first. -/
  before : List Char
  after : List Char
  marks : Marks
deriving DecidableEq, Repr

namespace State

def start (text : List Char) (groupCount : Nat) : State :=
  ⟨0, [], text, Marks.none groupCount⟩

def advance? (s : State) (test : CharTest) : Option State :=
  match s.after with
  | [] => none
  | c :: rest =>
    if test.accepts c then some { s with position := s.position + 1, before := c :: s.before,
                                         after := rest }
    else none

def skip? (s : State) : List Char → Option State
  | [] => some s
  | c :: rest => (s.advance? (.code c.toNat)).bind (·.skip? rest)

def back? (s : State) : Nat → Option State
  | 0 => some s
  | n + 1 =>
    match s.before with
    | [] => none
    | c :: rest =>
      { s with position := s.position - 1, before := rest, after := c :: s.after }.back? n

def mark (s : State) (number : Nat) : Mark :=
  if number = 0 then ⟨none, none⟩ else s.marks.getD (number - 1) ⟨none, none⟩

def openGroup (s : State) (number : Nat) : State :=
  { s with marks := s.marks.modify (number - 1) ({ · with opened := some s.position }) }

def closeGroup (s : State) (number : Nat) : State :=
  { s with marks := s.marks.modify (number - 1) ({ · with closed := some s.position }) }

def slice (s : State) (start stop : Nat) : List Char :=
  ((s.before.reverse ++ s.after).drop start).take (stop - start)

def sliceOf? (s : State) (m : Mark) : Option (List Char) :=
  m.span?.map fun (start, stop) => s.slice start stop

def captured? (s : State) (number : Nat) : Option (List Char) :=
  s.sliceOf? (s.mark number)

def captures (s : State) : List (Option (List Char)) :=
  s.marks.map s.sliceOf?

/-- Whether the character on a side of the place is a word character. -/
def wordAt (side : List Char) : Bool :=
  side.head?.any Text.isWord

end State

/-- Whether an anchor holds at a place. In an empty text there is no edge of a word, nor a place
without one. -/
def Anchor.holds (s : State) : Anchor → Bool
  | textStart => s.before.isEmpty
  | textEnd => s.after.isEmpty
  | lastLineEnd => s.after.isEmpty || s.after == ['\n']
  | wordEdge => State.wordAt s.before != State.wordAt s.after
  | noWordEdge =>
    !(s.before.isEmpty && s.after.isEmpty) && State.wordAt s.before == State.wordAt s.after

end PathTemplate.Regex
