import PathTemplate.Regex.Compile
import PathTemplate.Regex.State

/-!
# Matching

An expression is matched by trying its choices in order and going back to the last one when what
follows fails. What follows is passed along as a function, so a choice is taken back by calling it
again with another state.

Repetitions are bounded by the text: a repetition goes on only if its last round took at least one
character, so there are at most as many rounds as characters, and one round that takes none.

## Main definitions

* `Expr.run`: the first way in which an expression and what follows it match.
* `Regex.fullMatch?`: the groups of the first match that takes the whole text.

## Main statements

* one equation for each kind of expression, `Expr.run_char` and those behind it.
-/

namespace PathTemplate.Regex

/-- What follows an expression: it may end the match or fail. -/
abbrev Rest := State → Option State

def rounds (round : Rest → Rest) : Nat → Rest → Rest
  | 0, k => k
  | n + 1, k => fun s => round (rounds round n k) s

/-- Any number of rounds up to a limit, as many as possible, and then the rest. Behind a round that
took nothing there is no other. -/
def most (round : Rest → Rest) (k : Rest) : (limit : Nat) → Rest
  | 0, s => k s
  | n + 1, s =>
    match round (fun t => if t.position = s.position then k t else most round k n t) s with
    | some result => some result
    | none => k s

def fewest (round : Rest → Rest) (k : Rest) : (limit : Nat) → Rest
  | 0, s => k s
  | n + 1, s =>
    match k s with
    | some result => some result
    | none => round (fun t => if t.position = s.position then k t else fewest round k n t) s

/-- A given number of rounds, none of which is taken back. -/
def roundsOnce (round : Rest → Rest) : Nat → Rest
  | 0, s => some s
  | n + 1, s => (round some s).bind (roundsOnce round n)

def mostOnce (round : Rest → Rest) : (limit : Nat) → State → State
  | 0, s => s
  | n + 1, s =>
    match round some s with
    | none => s
    | some t => if t.position = s.position then t else mostOnce round n t

/-- How many rounds may still follow the least number: never more than there are characters, and
one that takes none. -/
def roundLimit (least : Nat) (greatest : Option Nat) (s : State) : Nat :=
  match greatest with
  | none => s.after.length + 1
  | some n => min (n - least) (s.after.length + 1)

def repeated (manner : Manner) (least : Nat) (greatest : Option Nat) (round : Rest → Rest)
    (k : Rest) : Rest :=
  match manner with
  | .greedy => rounds round least fun s => most round k (roundLimit least greatest s) s
  | .lazy => rounds round least fun s => fewest round k (roundLimit least greatest s) s
  | .possessive => fun s =>
    (roundsOnce round least s).bind fun t =>
      k (mostOnce round (roundLimit least greatest t) t)

/-- A look at the text from some place: the groups found on the way are kept, the place is not. -/
def look (negated : Bool) (found : Option State) (k : Rest) (s : State) : Option State :=
  match found, negated with
  | some t, false => k { s with marks := t.marks }
  | some _, true => none
  | none, false => none
  | none, true => k s

/-- The first way in which an expression matches at a state and the rest matches behind it. -/
def Expr.run : Expr → Rest → Rest
  | empty, k => k
  | char test, k => fun s => (s.advance? test).bind k
  | anchor a, k => fun s => if a.holds s then k s else none
  | seq a b, k => a.run (b.run k)
  | alt a b, k => fun s =>
    match a.run k s with
    | some result => some result
    | none => b.run k s
  | iterate manner least greatest body, k => repeated manner least greatest body.run k
  | group n body, k => fun s => body.run (fun t => k (t.closeGroup n)) (s.openGroup n)
  | atomic body, k => fun s => (body.run some s).bind k
  | lookahead negated body, k => fun s => look negated (body.run some s) k s
  | lookbehind negated width body, k => fun s =>
    look negated ((s.back? width.least).bind (body.run some)) k s
  | backref n, k => fun s => ((s.captured? n).bind s.skip?).bind k
  | ifGroup n yes no, k => fun s =>
    if (s.mark n).span?.isSome then yes.run k s else no.run k s

namespace Expr

theorem run_empty (k : Rest) : empty.run k = k := rfl

theorem run_char (test : CharTest) (k : Rest) (s : State) :
    (char test).run k s = (s.advance? test).bind k := rfl

theorem run_anchor (a : Anchor) (k : Rest) (s : State) :
    (anchor a).run k s = if a.holds s then k s else none := rfl

theorem run_seq (a b : Expr) (k : Rest) : (seq a b).run k = a.run (b.run k) := rfl

theorem run_alt (a b : Expr) (k : Rest) (s : State) :
    (alt a b).run k s = (a.run k s).or (b.run k s) := by
  simp only [run]
  cases a.run k s <;> rfl

theorem run_iterate (manner : Manner) (least : Nat) (greatest : Option Nat) (body : Expr)
    (k : Rest) :
    (iterate manner least greatest body).run k = repeated manner least greatest body.run k := rfl

theorem run_group (n : Nat) (body : Expr) (k : Rest) (s : State) :
    (group n body).run k s = body.run (fun t => k (t.closeGroup n)) (s.openGroup n) := rfl

theorem run_atomic (body : Expr) (k : Rest) (s : State) :
    (atomic body).run k s = (body.run some s).bind k := rfl

theorem run_lookahead (negated : Bool) (body : Expr) (k : Rest) (s : State) :
    (lookahead negated body).run k s = look negated (body.run some s) k s := rfl

theorem run_lookbehind (negated : Bool) (width : Width) (body : Expr) (k : Rest) (s : State) :
    (lookbehind negated width body).run k s =
      look negated ((s.back? width.least).bind (body.run some)) k s := rfl

theorem run_backref (n : Nat) (k : Rest) (s : State) :
    (backref n).run k s = ((s.captured? n).bind s.skip?).bind k := rfl

theorem run_ifGroup (n : Nat) (yes no : Expr) (k : Rest) (s : State) :
    (ifGroup n yes no).run k s =
      if (s.mark n).span?.isSome then yes.run k s else no.run k s := rfl

end Expr

def atEnd : Rest := fun s =>
  if s.after.isEmpty then some s else none

end Regex

/-- The texts of the groups in the first match that takes the whole text. A group that took no part
has none. -/
def Regex.fullMatch? (r : Regex) (text : List Char) : Option (List (Option (List Char))) :=
  (r.body.run Regex.atEnd (Regex.State.start text r.groupCount)).map (·.captures)

end PathTemplate
