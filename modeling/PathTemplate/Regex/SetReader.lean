import PathTemplate.Regex.Escape

/-!
# Reading character sets

A set stands in square brackets. A caret directly behind the opening bracket negates it, a closing
bracket that would leave it empty is a member, and a hyphen between two characters makes a range.

## Main definitions

* `SetReader`: a set of which the beginning has been read.
* `SetReader.feed`, `SetReader.finish`: the next token, and the end of the source.
-/

namespace PathTemplate.Regex

/-- A member as it was read, with the token that began it. -/
structure SetMember where
  item : SetItem
  token : Token

inductive SetPart where
  /-- Directly behind the opening bracket. -/
  | opened
  /-- In front of a member or of the closing bracket. -/
  | member
  /-- Behind a member that a hyphen may make a range. -/
  | low (low : SetMember)
  /-- Behind that hyphen. -/
  | hyphen (low : SetMember)
  /-- Inside an escape that began with a token, as the end of a range if there is a beginning. -/
  | escape (e : Escape) (token : Token) (start : Nat) (low : Option SetMember)

/-- A set of which the beginning has been read; the members are in reverse order. -/
structure SetReader where
  start : Nat
  negated : Bool
  members : List SetItem
  part : SetPart

namespace SetReader

def opening (start : Nat) : SetReader :=
  ⟨start, false, [], .opened⟩

def add (r : SetReader) (item : SetItem) : SetReader :=
  { r with members := item :: r.members, part := .member }

/-- The test that a closed set makes. A lone character needs no set. -/
def close (r : SetReader) : CharTest :=
  match r.negated, r.members with
  | false, [.code n] => .code n
  | negated, members => .set negated members.reverse

/-- The range between two members, the last of which ends in front of `stop`. -/
def range (low high : SetMember) (stop : Nat) : Except Failure SetItem :=
  let refused : Except Failure SetItem :=
    .error (.at (.badRange low.token.text high.token.text)
      (stop - (low.token.width + 1 + high.token.width)))
  match low.item, high.item with
  | .code first, .code last => if last < first then refused else .ok (.range first last)
  | _, _ => refused

/-- A complete character or class: the end of a range, or something a hyphen may follow. -/
def place (r : SetReader) (m : SetMember) (low : Option SetMember) (stop : Nat) :
    Except Failure SetReader :=
  match low with
  | none => .ok { r with part := .low m }
  | some l => (range l m stop).map r.add

def itemOf : Escaped → SetItem
  | .code n => .code n
  | .cls k negated => .cls k negated
  | .anchor _ => .code 0
  | .reference n _ => .code n

def beginMember (r : SetReader) (position : Nat) (t : Token) (low : Option SetMember) :
    Except Failure SetReader :=
  match t with
  | .plain c => r.place ⟨.code c.toNat, t⟩ low (position + 1)
  | .escaped c =>
    (Escape.begin true position c).bind fun
      | .more e => .ok { r with part := .escape e t position low }
      | .done e => r.place ⟨itemOf e, t⟩ low (position + 2)
      | .before e => r.place ⟨itemOf e, t⟩ low position

/-- A token in front of which a member may begin or the set may close. -/
def feedMember (r : SetReader) (position : Nat) (t : Token) :
    Except Failure (Progress SetReader CharTest) :=
  if t = .plain ']' ∧ ¬r.members.isEmpty then .ok (.done r.close)
  else (r.beginMember position t none).map .more

/-- A token behind a member that no range has taken up yet. -/
def feedLow (r : SetReader) (position : Nat) (t : Token) (low : SetMember) :
    Except Failure (Progress SetReader CharTest) :=
  if t = .plain '-' then .ok (.more { r with part := .hyphen low })
  else (r.add low.item).feedMember position t

def feed (r : SetReader) (position : Nat) (t : Token) :
    Except Failure (Progress SetReader CharTest) :=
  match r.part with
  | .opened =>
    if t = .plain '^' then .ok (.more { r with negated := true, part := .member })
    else r.feedMember position t
  | .member => r.feedMember position t
  | .low low => r.feedLow position t low
  | .hyphen low =>
    if t = .plain ']' then .ok (.done ((r.add low.item).add (.code '-'.toNat)).close)
    else (r.beginMember position t (some low)).map .more
  | .escape e token start low =>
    (e.feed start position t).bind fun
      | .more e => .ok (.more { r with part := .escape e token start low })
      | .done e => (r.place ⟨itemOf e, token⟩ low (position + t.width)).map .more
      | .before e =>
        (r.place ⟨itemOf e, token⟩ low position).bind fun r =>
          match r.part with
          | .low low => r.feedLow position t low
          | _ => r.feedMember position t

/-- The end of the source inside a set: nothing can complete it. -/
def finish (r : SetReader) (position : Nat) : Failure :=
  let unterminated := Failure.at .unterminatedSet r.start
  match r.part with
  | .escape e token start low =>
    match e.finish start position with
    | .error failure => failure
    | .ok e =>
      match r.place ⟨itemOf e, token⟩ low position with
      | .error failure => failure
      | .ok _ => unterminated
  | _ => unterminated

end SetReader

end PathTemplate.Regex
