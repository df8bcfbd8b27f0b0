import PathTemplate.Proofs.FirstMatch

/-!
# Reading the group of a hole

The group that stands for a hole is read the same way wherever an item of the expression may begin:
its parenthesis opens a group with the next number, and its last character closes that group.

## Main definitions

* `Reader.between?`: the reader in front of a token that begins an item of its own.
* `Reader.insideHole`, `Reader.pushHole`: the reader in front of the last character of a hole's
  group, and behind it.

## Main statements

* `Reader.step_of_between?`: a token that begins an item is read as one.
* `Reader.readAll_hole`: reading the group of a hole.
* `compile_eq_ok_iff`: the expression of a source that was read up to the end.
-/

namespace PathTemplate

open Regex (Expr Reader Token Width)

def Hole.tokens (hole : Hole) : List Token :=
  hole.groupSource.map .plain

theorem Hole.ofSource?_groupSource (hole : Hole) :
    Token.ofSource? hole.groupSource = some hole.tokens := by
  cases hole <;> rfl

def Hole.width (hole : Hole) : Width :=
  ⟨hole.least, none⟩

@[simp] theorem Hole.length_groupSource (hole : Hole) : hole.groupSource.length = 5 := by
  cases hole <;> rfl

namespace Regex

section Except

variable {ε α β : Type}

theorem bind_eq_ok {x : Except ε α} {f : α → Except ε β} {b : β} :
    x.bind f = .ok b ↔ ∃ a, x = .ok a ∧ f a = .ok b := by
  cases x <;> simp [Except.bind]

theorem map_eq_ok {x : Except ε α} {f : α → β} {b : β} :
    x.map f = .ok b ↔ ∃ a, x = .ok a ∧ f a = b := by
  cases x <;> simp [Except.map]

theorem toOption_eq_some {x : Except ε α} {a : α} : x.toOption = some a ↔ x = .ok a := by
  cases x <;> simp [Except.toOption]

theorem map_toOption_eq_some {x : Except ε α} {f : α → β} {b : β} :
    x.toOption.map f = some b ↔ ∃ a, x = .ok a ∧ f a = b := by
  cases x <;> simp [Except.toOption]

end Except

namespace Reader

/-! ## The beginning of an item -/

/-- The reader behind bounds that a token does not continue. -/
def leaveBounds? (r : Reader) (b : Bounds) (t : Token) : Option Reader :=
  match t with
  | .plain '\x7d' => none
  | .plain ',' => if b.most.isSome then some (r.flushBounds b) else none
  | .plain c => if c.isDigit then none else some (r.flushBounds b)
  | _ => some (r.flushBounds b)

/-- The reader between two items in front of a token; none if the token belongs to a construct that
began before it. -/
def between? (r : Reader) (t : Token) : Option Reader :=
  match r.mode with
  | .item => some r
  | .repeated =>
    if t = .plain '?' ∨ t = .plain '+' then none else some { r with mode := .item }
  | .bounds b => r.leaveBounds? b t
  | .escape start e =>
    match e.feed start r.position t with
    | .ok (.before e) => (r.placeEscape start r.position e).toOption
    | _ => none
  | .set s =>
    match s.feed r.position t with
    | .ok (.before test) => some (r.push (.char test))
    | _ => none
  | .header start h =>
    match h.feed start r.position t with
    | .ok (.before opening) => (r.openGroup start opening).toOption
    | _ => none

theorem between?_item {r : Reader} (h : r.mode = .item) (t : Token) : r.between? t = some r := by
  rw [between?, h]

/-- Bounds that a token does not continue are plain characters. -/
theorem eq_of_leaveBounds? {r r₀ : Reader} {b : Bounds} {t : Token}
    (h : r.leaveBounds? b t = some r₀) : r₀ = r.flushBounds b := by
  unfold leaveBounds? at h
  split at h
  · simp at h
  · split at h
    · exact (Option.some.inj h).symm
    · simp at h
  · split at h
    · simp at h
    · exact (Option.some.inj h).symm
  · exact (Option.some.inj h).symm

theorem feedBounds_of_leaveBounds? {r r₀ : Reader} {b : Bounds} {t : Token}
    (h : r.leaveBounds? b t = some r₀) : r.feedBounds b t = r₀.feedItem t := by
  unfold leaveBounds? at h
  split at h
  · simp at h
  · split at h
    · next hb =>
      obtain rfl := Option.some.inj h
      obtain ⟨digits, hd⟩ := Option.isSome_iff_exists.1 hb
      simp [feedBounds, hd]
    · simp at h
  · next c _ hcomma =>
    split at h
    · simp at h
    · next hd =>
      obtain rfl := Option.some.inj h
      simp [feedBounds, hd]
  · obtain rfl := Option.some.inj h
    unfold feedBounds
    split <;> simp_all

theorem step_of_between? {r r₀ : Reader} {t : Token} (h : r.between? t = some r₀) :
    r.step t = r₀.feedItem t := by
  unfold between? at h
  split at h
  · next hm => rw [step, hm, Option.some.inj h]
  · next hm =>
    rw [step, hm]
    split at h
    · simp at h
    · next ht =>
      obtain rfl := Option.some.inj h
      simp only [not_or] at ht
      unfold feedRepeated
      split <;> simp_all
  · next b hm =>
    rw [step, hm]
    exact feedBounds_of_leaveBounds? h
  · next start e hm =>
    rw [step, hm]
    split at h
    · next e' he =>
      have := toOption_eq_some.1 h
      simp [he, this, Except.bind]
    · simp at h
  · next s hm =>
    rw [step, hm]
    split at h
    · next test ht =>
      obtain rfl := Option.some.inj h
      simp [ht, Except.bind]
    · simp at h
  · next start hd hm =>
    rw [step, hm]
    split at h
    · next opening ho =>
      have := toOption_eq_some.1 h
      simp [ho, this, Except.bind]
    · simp at h

/-! ## The group of a hole -/

/-- The reader in front of the last character of a hole's group. -/
def insideHole (r : Reader) (hole : Hole) : Reader :=
  { r with
    position := r.position + 4
    mode := .item
    frames := ⟨.capture (r.groupCount + 1), r.position, r.branches, r.items⟩ :: r.frames
    branches := []
    items := [.iterate .lazy hole.least none (.char .any)]
    groups := r.groups ++ [none] }

def pushHole (r : Reader) (hole : Hole) : Reader :=
  { r with
    position := r.position + 5
    mode := .item
    items := .group (r.groupCount + 1) hole.body :: r.items
    groups := r.groups ++ [some hole.width] }

/-- Behind the parenthesis of a hole's group comes what the hole repeats. -/
theorem readAll_insideHole (r : Reader) (hole : Hole) :
    ({ r with position := r.position + 1, mode := .header r.position .opened }).readAll
      (hole.tokens.tail.take 3) = .ok (r.insideHole hole) := by
  cases hole <;> rfl

theorem feed_insideHole (r : Reader) (hole : Hole) :
    (r.insideHole hole).feed (.plain ')') = .ok (r.pushHole hole) := by
  have hset : (r.groups ++ [none]).set r.groups.length (some hole.width) =
      r.groups ++ [some hole.width] := by simp
  cases hole with
  | wildcard => exact congrArg (fun g => Except.ok { r.pushHole .wildcard with groups := g }) hset
  | param name =>
    exact congrArg (fun g => Except.ok { r.pushHole (.param name) with groups := g }) hset

theorem feed_open {r r₀ : Reader} (h : r.between? (.plain '(') = some r₀)
    (hp : r₀.position = r.position) :
    r.feed (.plain '(') =
      .ok { r₀ with position := r₀.position + 1, mode := .header r₀.position .opened } := by
  rw [feed, step_of_between? h, ← hp]
  rfl

theorem tokens_hole (hole : Hole) :
    hole.tokens = .plain '(' :: (hole.tokens.tail.take 3 ++ [.plain ')']) := by
  cases hole <;> rfl

theorem readAll_hole {r r₀ : Reader} (h : r.between? (.plain '(') = some r₀)
    (hp : r₀.position = r.position) (hole : Hole) :
    r.readAll hole.tokens = .ok (r₀.pushHole hole) := by
  rw [tokens_hole, readAll_cons, feed_open h hp, Except.bind, readAll_append, readAll_insideHole,
    Except.bind, readAll_cons, feed_insideHole]
  rfl

/-! ## The end of a source -/

theorem result_eq_ok_iff {r : Reader} {e : Expr} :
    r.result = .ok e ↔ r.frames = [] ∧
      r.conditions.reverse.find? (fun c => r.groupCount < c.1) = none ∧
        e = .ofBranches r.alternatives := by
  unfold result
  split
  · simp_all
  · split
    · simp_all
    · simp_all [eq_comm]

end Reader

/-- An expression is what was read of its source up to the end, if it is whole and its look-behinds
can be stepped back to. -/
theorem compile_eq_ok_iff {source : List Char} {regex : Regex} :
    compile source = .ok regex ↔ ∃ tokens reader settled, Token.ofSource? source = some tokens ∧
      Reader.empty.readAll tokens = .ok reader ∧ reader.settle = .ok settled ∧
      settled.result = .ok regex.body ∧ checkLookbehinds regex.body = .ok () ∧
      regex.source = source ∧ regex.groupCount = settled.groupCount := by
  unfold compile readSource
  constructor
  · intro h
    obtain ⟨reader, hread, h⟩ := bind_eq_ok.1 h
    obtain ⟨settled, hsettle, h⟩ := bind_eq_ok.1 h
    obtain ⟨body, hresult, h⟩ := bind_eq_ok.1 h
    obtain ⟨_, hcheck, h⟩ := bind_eq_ok.1 h
    obtain rfl := Except.ok.inj h
    split at hread
    · simp at hread
    · next tokens htokens =>
      exact ⟨tokens, reader, settled, htokens, hread, hsettle, hresult, hcheck, rfl, rfl⟩
  · rintro ⟨tokens, reader, settled, htokens, hread, hsettle, hresult, hcheck, rfl, hcount⟩
    rw [htokens]
    refine bind_eq_ok.2 ⟨reader, hread, bind_eq_ok.2 ⟨settled, hsettle, bind_eq_ok.2
      ⟨regex.body, hresult, bind_eq_ok.2 ⟨(), hcheck, ?_⟩⟩⟩⟩
    rw [← hcount]
    rfl

end Regex

end PathTemplate
