import PathTemplate.Regex.Header
import PathTemplate.Regex.SetReader
import PathTemplate.Regex.Width
import PathTemplate.Text.Digit

/-!
# Reading expressions

The source of an expression is read one token at a time. What has been read is kept in a `Reader`:
the groups that are open, the alternatives and items of the innermost one, and the construct that
the last token left unfinished. Reading is a fold over the tokens, so that reading one source after
another is reading both.

## Main definitions

* `Mode`: the construct that is unfinished.
* `Frame`: an open group.
* `Reader.feed`, `Reader.settle`, `Reader.result`: the next token, and the end of the source.
* `Reader.readAll`: a list of tokens.

## Main statements

* `Reader.readAll_append`: reading goes on where it stopped.
-/

namespace PathTemplate.Regex

/-- The bounds of a repetition as far as they have been read. Digits are in order. -/
structure Bounds where
  start : Nat
  least : List Char
  most : Option (List Char)

/-- The construct that the reader is in the middle of. -/
inductive Mode where
  /-- Between two items. -/
  | item
  /-- Directly behind a repetition, the manner of which may follow. -/
  | repeated
  | bounds (b : Bounds)
  | escape (start : Nat) (e : Escape)
  | set (s : SetReader)
  | header (start : Nat) (h : Header)

inductive FrameKind where
  | capture (number : Nat)
  | atomic
  | lookahead (negated : Bool)
  /-- The outermost look-behind is marked. -/
  | lookbehind (negated outermost : Bool)
  | conditional (number : Nat)

/-- An open group: its kind, the place of its parenthesis, and what was read around it before. -/
structure Frame where
  kind : FrameKind
  start : Nat
  branches : List Expr
  items : List Expr

/-- What has been read of a source. Branches, items and frames are in reverse order of reading. -/
structure Reader where
  /-- The number of characters read. -/
  position : Nat
  mode : Mode
  frames : List Frame
  /-- The finished alternatives of the innermost open group. -/
  branches : List Expr
  /-- The items of its current alternative. -/
  items : List Expr
  /-- The widths of the groups, the first group first; an open group has none yet. -/
  groups : List (Option Width)
  names : List (List Char × Nat)
  /-- The number of groups that were begun in front of the outermost open look-behind. -/
  behind : Option Nat
  /-- The groups that conditions ask for, each with the place of its first mention. -/
  conditions : List (Nat × Nat)

namespace Reader

def empty : Reader :=
  ⟨0, .item, [], [], [], [], [], none, []⟩

def groupCount (r : Reader) : Nat :=
  r.groups.length

def closedWidth? (r : Reader) (number : Nat) : Option Width :=
  if number = 0 then none else (r.groups[number - 1]?).join

def push (r : Reader) (e : Expr) : Reader :=
  { r with items := e :: r.items, mode := .item }

/-- The expression that the current alternative has come to. -/
def branch (r : Reader) : Expr :=
  .ofItems r.items.reverse

def alternatives (r : Reader) : List Expr :=
  (r.branch :: r.branches).reverse

def openFrame (r : Reader) (kind : FrameKind) (start : Nat) : Reader :=
  { r with
    frames := ⟨kind, start, r.branches, r.items⟩ :: r.frames
    branches := []
    items := []
    mode := .item }

def openCapture (r : Reader) (start : Nat) : Reader :=
  { r with groups := r.groups ++ [none] }.openFrame (.capture (r.groupCount + 1)) start

/-- Inside a look-behind, a group can be referred to only if it was closed in front of it. -/
def checkBehind (r : Reader) (number position : Nat) : Except Failure Unit :=
  match r.behind with
  | none => .ok ()
  | some count =>
    if (r.closedWidth? number).isNone then .error (.at .openGroup position)
    else if count < number then .error (.at .groupInSameLookbehind position)
    else .ok ()

/-- The text of a group once more. A group that is still open is refused at `start`, one that the
look-behind forbids at `stop`. -/
def pushBackref (r : Reader) (number start stop : Nat) : Except Failure Reader :=
  if (r.closedWidth? number).isNone then .error (.at .openGroup start)
  else (r.checkBehind number stop).map fun _ => r.push (.backref number)

/-- What an escape adds. It began at `start` and ended in front of `stop`. -/
def placeEscape (r : Reader) (start stop : Nat) : Escaped → Except Failure Reader
  | .code n => .ok (r.push (.literal n))
  | .cls k negated => .ok (r.push (.char (.set false [.cls k negated])))
  | .anchor a => .ok (r.push (.anchor a))
  | .reference number _ =>
    if number ≤ r.groupCount then r.pushBackref number start stop
    else .error (.at (.invalidReference number) (start + 1))

/-- The last item is repeated. The repetition begins at `start`. -/
def repeatLast (r : Reader) (least : Nat) (most : Option Nat) (start : Nat) :
    Except Failure Reader :=
  match r.items with
  | [] => .error (.at .nothingToRepeat start)
  | .anchor _ :: _ => .error (.at .nothingToRepeat start)
  | .iterate _ _ _ _ :: _ => .error (.at .multipleRepeat start)
  | item :: items =>
    .ok { r with items := .iterate .greedy least most item :: items, mode := .repeated }

def setManner (r : Reader) (manner : Manner) : Reader :=
  match r.items with
  | .iterate _ least most body :: items =>
    { r with items := .iterate manner least most body :: items, mode := .item }
  | _ => { r with mode := .item }

def boundOf (digits : List Char) : Except Failure Nat :=
  if Text.digitLimit < digits.length then .error (.tooManyDigits digits.length)
  else
    let n := Escape.ofDecimal digits
    if repeatLimit ≤ n then .error .tooManyTimes else .ok n

/-- The closing brace of bounds. Without digits the lower bound is zero and the upper one missing;
without a comma both are the same. -/
def closeBounds (r : Reader) (b : Bounds) : Except Failure Reader := do
  let least ← if b.least.isEmpty then .ok 0 else boundOf b.least
  let upper := b.most.getD b.least
  let most ← if upper.isEmpty then .ok none else (boundOf upper).map some
  if most.any (· < least) then .error (.at .boundsReversed (b.start + 1))
  else r.repeatLast least most b.start

/-- The lower bound is read before the upper one, and both before they are compared. -/
theorem closeBounds_eq (r : Reader) (b : Bounds) :
    r.closeBounds b =
      (if b.least.isEmpty then .ok 0 else boundOf b.least).bind fun least =>
        (if (b.most.getD b.least).isEmpty then .ok none
          else (boundOf (b.most.getD b.least)).map some).bind fun most =>
            if most.any (· < least) then .error (.at .boundsReversed (b.start + 1))
            else r.repeatLast least most b.start := by
  unfold closeBounds
  dsimp only
  cases b.least.isEmpty <;> cases (b.most.getD b.least).isEmpty <;> rfl

/-- Bounds that turned out to be plain characters. -/
def flushBounds (r : Reader) (b : Bounds) : Reader :=
  let text := '\x7b' :: b.least ++ (b.most.map (',' :: ·)).getD []
  { r with items := text.reverse.map (fun c => .literal c.toNat) ++ r.items, mode := .item }

def frameExpr (r : Reader) (alternatives : List Expr) : FrameKind → Expr
  | .capture number => .group number (.ofBranches alternatives)
  | .atomic => .atomic (.ofBranches alternatives)
  | .lookahead negated => .lookahead negated (.ofBranches alternatives)
  | .lookbehind negated _ =>
    let body := Expr.ofBranches alternatives
    .lookbehind negated (body.width fun n => (r.closedWidth? n).getD (.exactly 0)) body
  | .conditional number =>
    .ifGroup number (alternatives.headD .empty) (alternatives.tail.headD .empty)

def closeGroup (r : Reader) (number : Nat) (body : Expr) : List (Option Width) :=
  let width := body.width fun n => (r.closedWidth? n).getD (.exactly 0)
  r.groups.set (number - 1) (some width)

def closeFrame (r : Reader) : Except Failure Reader :=
  match r.frames with
  | [] => .error (.at .unbalancedGroup r.position)
  | frame :: frames =>
    let e := r.frameExpr r.alternatives frame.kind
    let groups :=
      match frame.kind with
      | .capture number => r.closeGroup number e
      | _ => r.groups
    let behind :=
      match frame.kind with
      | .lookbehind _ true => none
      | _ => r.behind
    .ok { r with
      frames := frames
      branches := frame.branches
      items := e :: frame.items
      groups := groups
      behind := behind
      mode := .item }

/-- The current alternative ends and another begins. A condition has at most two. -/
def nextBranch (r : Reader) : Except Failure Reader :=
  match r.frames, r.branches with
  | ⟨.conditional _, _, _, _⟩ :: _, _ :: _ => .error (.at .thirdBranch r.position)
  | _, branches => .ok { r with branches := r.branch :: branches, items := [], mode := .item }

/-- The group that a condition names by a number: decimal digits of any script, with a sign and
single underscores between them, and blanks around it. -/
def groupNumber? (name : List Char) : Option Int :=
  let blank (c : Char) : Bool := Text.isSpace c && !(28 ≤ c.toNat && c.toNat ≤ 31)
  let body := ((name.dropWhile blank).reverse.dropWhile blank).reverse
  let (negative, body) :=
    match body with
    | '-' :: rest => (true, rest)
    | '+' :: rest => (false, rest)
    | body => (false, body)
  let parts := body.splitOn '_'
  let digits := parts.flatten.filterMap Text.digitValue?
  if parts.all (fun part => !part.isEmpty && part.all Text.isDigit) && digits.length ≤ Text.digitLimit
  then
    some (if negative then -(Text.ofDigits digits : Int) else Text.ofDigits digits)
  else none

def groupLimit : Nat := 1073741823

/-- The group that a condition asks for, by name or number; its name begins at `position`. -/
def conditionGroup (r : Reader) (name : List Char) (position : Nat) : Except Failure Nat :=
  if Text.isIdentifier name then
    match r.names.lookup name with
    | some number => .ok number
    | none => .error (.at (.unknownGroupName name) position)
  else
    match groupNumber? name with
    | some (.ofNat 0) => .error (.at .groupZero position)
    | some (.ofNat number) =>
      if groupLimit ≤ number then .error (.at (.invalidReference number) position) else .ok number
    | _ => .error (.at (.badGroupName name) position)

/-- A condition opens its group. Numbers are remembered, since the group may come later. -/
def openConditional (r : Reader) (name : List Char) (position start : Nat) :
    Except Failure Reader := do
  let number ← r.conditionGroup name position
  r.checkBehind number (position + name.length + 1)
  let known := Text.isIdentifier name || r.conditions.any (·.1 == number)
  let conditions := if known then r.conditions else (number, position) :: r.conditions
  return { r with conditions := conditions }.openFrame (.conditional number) start

def openNamed (r : Reader) (name : List Char) (position start : Nat) : Except Failure Reader :=
  if !Text.isIdentifier name then .error (.at (.badGroupName name) position)
  else
    match r.names.lookup name with
    | some earlier => .error (.at (.groupNameTaken name (r.groupCount + 1) earlier) position)
    | none => .ok ({ r with names := (name, r.groupCount + 1) :: r.names }.openCapture start)

def namedBackref (r : Reader) (name : List Char) (position : Nat) : Except Failure Reader :=
  if !Text.isIdentifier name then .error (.at (.badGroupName name) position)
  else
    match r.names.lookup name with
    | some number => r.pushBackref number position (position + name.length + 1)
    | none => .error (.at (.unknownGroupName name) position)

def openGroup (r : Reader) (start : Nat) : Opening → Except Failure Reader
  | .capture => .ok (r.openCapture start)
  | .named name position => r.openNamed name position start
  | .atomic => .ok (r.openFrame .atomic start)
  | .lookahead negated => .ok (r.openFrame (.lookahead negated) start)
  | .lookbehind negated =>
    let outermost := r.behind.isNone
    let behind := some (r.behind.getD r.groupCount)
    .ok ({ r with behind := behind }.openFrame (.lookbehind negated outermost) start)
  | .conditional name position => r.openConditional name position start
  | .backref name position => r.namedBackref name position
  | .comment => .ok { r with mode := .item }

def feedItem (r : Reader) (t : Token) : Except Failure Reader :=
  match t with
  | .escaped c =>
    (Escape.begin false r.position c).bind fun
      | .more e => .ok { r with mode := .escape r.position e }
      | .done e => r.placeEscape r.position (r.position + 2) e
      | .before e => r.placeEscape r.position r.position e
  | .plain '|' => r.nextBranch
  | .plain ')' => r.closeFrame
  | .plain '[' => .ok { r with mode := .set (.opening r.position) }
  | .plain '(' => .ok { r with mode := .header r.position .opened }
  | .plain '\x7b' => .ok { r with mode := .bounds ⟨r.position, [], none⟩ }
  | .plain '?' => r.repeatLast 0 (some 1) r.position
  | .plain '*' => r.repeatLast 0 none r.position
  | .plain '+' => r.repeatLast 1 none r.position
  | .plain '.' => .ok (r.push (.char .any))
  | .plain '^' => .ok (r.push (.anchor .textStart))
  | .plain '$' => .ok (r.push (.anchor .lastLineEnd))
  | .plain c => .ok (r.push (.literal c.toNat))

def feedRepeated (r : Reader) (t : Token) : Except Failure Reader :=
  match t with
  | .plain '?' => .ok (r.setManner .lazy)
  | .plain '+' => .ok (r.setManner .possessive)
  | t => { r with mode := .item }.feedItem t

def feedBounds (r : Reader) (b : Bounds) (t : Token) : Except Failure Reader :=
  match t with
  | .plain '\x7d' =>
    if b.least.isEmpty ∧ b.most.isNone then .ok ((r.flushBounds b).push (.literal '\x7d'.toNat))
    else r.closeBounds b
  | .plain ',' =>
    match b.most with
    | none => .ok { r with mode := .bounds { b with most := some [] } }
    | some _ => (r.flushBounds b).feedItem t
  | .plain c =>
    if c.isDigit then
      match b.most with
      | none => .ok { r with mode := .bounds { b with least := b.least ++ [c] } }
      | some digits => .ok { r with mode := .bounds { b with most := some (digits ++ [c]) } }
    else (r.flushBounds b).feedItem t
  | t => (r.flushBounds b).feedItem t

/-- What a token changes, but for the position. -/
def step (r : Reader) (t : Token) : Except Failure Reader :=
  match r.mode with
  | .item => r.feedItem t
  | .repeated => r.feedRepeated t
  | .bounds b => r.feedBounds b t
  | .escape start e =>
    (e.feed start r.position t).bind fun
      | .more e => .ok { r with mode := .escape start e }
      | .done e => r.placeEscape start (r.position + t.width) e
      | .before e => (r.placeEscape start r.position e).bind (·.feedItem t)
  | .set s =>
    (s.feed r.position t).bind fun
      | .more s => .ok { r with mode := .set s }
      | .done test => .ok (r.push (.char test))
      | .before test => (r.push (.char test)).feedItem t
  | .header start h =>
    (h.feed start r.position t).bind fun
      | .more h => .ok { r with mode := .header start h }
      | .done opening => r.openGroup start opening
      | .before opening => (r.openGroup start opening).bind (·.feedItem t)

def feed (r : Reader) (t : Token) : Except Failure Reader :=
  (r.step t).map fun next => { next with position := r.position + t.width }

/-- The end of the source, as far as the construct in the middle is concerned. -/
def settle (r : Reader) : Except Failure Reader :=
  match r.mode with
  | .item | .repeated => .ok r
  | .bounds b => .ok (r.flushBounds b)
  | .escape start e => (e.finish start r.position).bind (r.placeEscape start r.position)
  | .set s => .error (s.finish r.position)
  | .header start h => .error (h.finish start r.position)

/-- The whole expression: every group has been closed, and the conditions ask for groups that
exist. -/
def result (r : Reader) : Except Failure Expr :=
  match r.frames with
  | frame :: _ => .error (.at .unterminatedGroup frame.start)
  | [] =>
    match r.conditions.reverse.find? (fun c => r.groupCount < c.1) with
    | some (number, position) => .error (.at (.invalidReference number) position)
    | none => .ok (.ofBranches r.alternatives)

def readAll (r : Reader) : List Token → Except Failure Reader
  | [] => .ok r
  | t :: ts => (r.feed t).bind (·.readAll ts)

@[simp] theorem readAll_nil (r : Reader) : r.readAll [] = .ok r := rfl

theorem readAll_cons (r : Reader) (t : Token) (ts : List Token) :
    r.readAll (t :: ts) = (r.feed t).bind (·.readAll ts) := rfl

theorem readAll_append (r : Reader) (ts us : List Token) :
    r.readAll (ts ++ us) = (r.readAll ts).bind (·.readAll us) := by
  induction ts generalizing r with
  | nil => rfl
  | cons t ts ih =>
    rw [List.cons_append, readAll_cons, readAll_cons]
    cases r.feed t with
    | error _ => rfl
    | ok next => exact ih next

end Reader

end PathTemplate.Regex
