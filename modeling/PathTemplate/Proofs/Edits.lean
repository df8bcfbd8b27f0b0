import Mathlib.Logic.Relation
import PathTemplate.Proofs.Reading

/-!
# What a token changes

Whatever a token does to a reader, it changes the open groups and the items in one of a few ways:
items are added or repeated without any group of their own, an alternative begins, a group opens, or
a group closes. What all of these keep is kept by reading.

## Main definitions

* `Expr.captures`: the groups of an expression.
* `Reader.captures`, `Reader.openNumbers`: the groups that have been closed, and the numbers of those
  that are open.
* `Reader.Edit`: one change.
* `Reader.HeaderAt`: the reader is in the middle of a head that began at some place.

## Main statements

* `Reader.feed_edits`: a token amounts to such changes.
-/

namespace PathTemplate.Regex

/-- The groups of an expression, each with its number and what it holds. -/
def Expr.captures : Expr → List (Nat × Expr)
  | .empty => []
  | .char _ => []
  | .anchor _ => []
  | .seq a b => a.captures ++ b.captures
  | .alt a b => a.captures ++ b.captures
  | .iterate _ _ _ body => body.captures
  | .group n body => (n, body) :: body.captures
  | .atomic body => body.captures
  | .lookahead _ body => body.captures
  | .lookbehind _ _ body => body.captures
  | .backref _ => []
  | .ifGroup _ yes no => yes.captures ++ no.captures

def capturesOf (es : List Expr) : List (Nat × Expr) :=
  es.flatMap Expr.captures

@[simp] theorem capturesOf_nil : capturesOf [] = [] := rfl

@[simp] theorem capturesOf_cons (e : Expr) (es : List Expr) :
    capturesOf (e :: es) = e.captures ++ capturesOf es := rfl

@[simp] theorem capturesOf_append (es others : List Expr) :
    capturesOf (es ++ others) = capturesOf es ++ capturesOf others :=
  List.flatMap_append

theorem capturesOf_reverse (es : List Expr) : (capturesOf es.reverse).Perm (capturesOf es) :=
  (List.reverse_perm es).flatMap_right _

@[simp] theorem captures_ofItems (items : List Expr) :
    (Expr.ofItems items).captures = capturesOf items := by
  induction items with
  | nil => rfl
  | cons item items ih => rw [Expr.ofItems_cons, Expr.captures, ih, capturesOf_cons]

@[simp] theorem captures_ofBranches (branches : List Expr) :
    (Expr.ofBranches branches).captures = capturesOf branches := by
  induction branches with
  | nil => rfl
  | cons branch branches ih =>
    cases branches with
    | nil => simp
    | cons next branches => exact congrArg (branch.captures ++ ·) ih

theorem capturesOf_literals (text : List Char) :
    capturesOf (text.map fun c => .literal c.toNat) = [] := by
  induction text with
  | nil => rfl
  | cons c text ih => exact ih

def FrameKind.number? : FrameKind → Option Nat
  | .capture number => some number
  | _ => none

namespace Reader

/-- The numbers of the capturing groups that are open, the innermost first. -/
def openNumbers (r : Reader) : List Nat :=
  r.frames.filterMap (·.kind.number?)

/-- The groups in what was read around an open group. -/
def frameCaptures (f : Frame) : List (Nat × Expr) :=
  capturesOf f.items ++ capturesOf f.branches

def captures (r : Reader) : List (Nat × Expr) :=
  capturesOf r.items ++ capturesOf r.branches ++ r.frames.flatMap frameCaptures

/-- The reader is in the middle of a head that began at a place. -/
def HeaderAt (r : Reader) (start : Nat) : Prop :=
  ∃ h, r.mode = .header start h

/-- One change of the open groups and the items. Groups open only at the places allowed. -/
inductive Edit (allowed : Nat → Prop) : Reader → Reader → Prop where
  /-- The items hold the same groups as before. -/
  | keep {r r' : Reader} (frames : r'.frames = r.frames) (branches : r'.branches = r.branches)
      (count : r'.groupCount = r.groupCount)
      (items : (capturesOf r'.items).Perm (capturesOf r.items)) : Edit allowed r r'
  | branch {r r' : Reader} (h : r.nextBranch = .ok r') : Edit allowed r r'
  /-- A group opens that captures nothing. -/
  | openFrame {r r' : Reader} {kind : FrameKind} {start : Nat} (hs : allowed start)
      (hkind : kind.number? = none)
      (frames : r'.frames = ⟨kind, start, r.branches, r.items⟩ :: r.frames)
      (branches : r'.branches = []) (items : r'.items = [])
      (count : r'.groupCount = r.groupCount) : Edit allowed r r'
  | openCapture {r r' : Reader} {start : Nat} (hs : allowed start)
      (frames : r'.frames =
        ⟨.capture (r.groupCount + 1), start, r.branches, r.items⟩ :: r.frames)
      (branches : r'.branches = []) (items : r'.items = [])
      (count : r'.groupCount = r.groupCount + 1) : Edit allowed r r'
  | close {r r' : Reader} (h : r.closeFrame = .ok r') : Edit allowed r r'

abbrev Edits (allowed : Nat → Prop) : Reader → Reader → Prop :=
  Relation.ReflTransGen (Edit allowed)

section

variable {allowed : Nat → Prop} {r r' : Reader}

/-- A change of anything but open groups, items and the number of groups. -/
theorem edit_of_eq (frames : r'.frames = r.frames) (branches : r'.branches = r.branches)
    (items : r'.items = r.items) (groups : r'.groups = r.groups) : Edit allowed r r' :=
  .keep frames branches (congrArg List.length groups) (items ▸ .refl _)

theorem edit_push (r : Reader) {e : Expr} (h : e.captures = []) : Edit allowed r (r.push e) := by
  refine .keep rfl rfl rfl ?_
  rw [push, capturesOf_cons, h]
  exact .refl _

theorem edit_flushBounds (r : Reader) (b : Bounds) : Edit allowed r (r.flushBounds b) := by
  refine .keep rfl rfl rfl ?_
  rw [flushBounds, capturesOf_append, capturesOf_literals]
  exact .refl _

theorem eq_of_pushBackref {number start stop : Nat}
    (h : r.pushBackref number start stop = .ok r') : r' = r.push (.backref number) := by
  unfold pushBackref at h
  split at h
  · simp at h
  · obtain ⟨_, -, rfl⟩ := map_eq_ok.1 h
    rfl

theorem exists_push_of_placeEscape {start stop : Nat} {e : Escaped}
    (h : r.placeEscape start stop e = .ok r') : ∃ item, item.captures = [] ∧ r' = r.push item := by
  cases e with
  | code n => exact ⟨_, rfl, (Except.ok.inj h).symm⟩
  | cls k negated => exact ⟨_, rfl, (Except.ok.inj h).symm⟩
  | anchor a => exact ⟨_, rfl, (Except.ok.inj h).symm⟩
  | reference number length =>
    simp only [placeEscape] at h
    split at h
    · exact ⟨_, rfl, eq_of_pushBackref h⟩
    · simp at h

theorem edit_placeEscape {start stop : Nat} {e : Escaped}
    (h : r.placeEscape start stop e = .ok r') : Edit allowed r r' := by
  obtain ⟨item, hitem, rfl⟩ := exists_push_of_placeEscape h
  exact edit_push r hitem

theorem repeatLast_eq_ok {least : Nat} {most : Option Nat} {start : Nat}
    (h : r.repeatLast least most start = .ok r') : ∃ item items, r.items = item :: items ∧
      r' = { r with items := .iterate .greedy least most item :: items, mode := .repeated } := by
  unfold repeatLast at h
  split at h
  · simp at h
  · simp at h
  · simp at h
  · next hitems => exact ⟨_, _, hitems, (Except.ok.inj h).symm⟩

theorem edit_repeatLast {least : Nat} {most : Option Nat} {start : Nat}
    (h : r.repeatLast least most start = .ok r') : Edit allowed r r' := by
  obtain ⟨item, items, hitems, rfl⟩ := repeatLast_eq_ok h
  refine .keep rfl rfl rfl ?_
  rw [hitems]
  exact .refl _

/-- Another alternative begins, in a condition only if it is the second. -/
theorem nextBranch_eq_ok (h : r.nextBranch = .ok r') :
    r' = { r with branches := r.branch :: r.branches, items := [], mode := .item } ∧
      ∀ frame frames number, r.frames = frame :: frames → frame.kind = .conditional number →
        r.branches = [] := by
  unfold nextBranch at h
  split at h
  · simp at h
  · next hcond =>
    refine ⟨(Except.ok.inj h).symm, fun frame frames number hframes hkind => ?_⟩
    obtain ⟨_, start, before, items⟩ := frame
    obtain rfl : _ = FrameKind.conditional number := hkind
    exact List.eq_nil_iff_forall_not_mem.2 fun branch hm => by
      obtain ⟨first, rest, hbranches⟩ := List.exists_cons_of_ne_nil (List.ne_nil_of_mem hm)
      exact hcond _ _ _ _ _ _ _ hframes hbranches

/-- What a group captured takes its place among the items around it. -/
theorem closeFrame_eq_ok (h : r.closeFrame = .ok r') :
    ∃ frame frames, r.frames = frame :: frames ∧ r'.frames = frames ∧
      r'.branches = frame.branches ∧
      r'.items = r.frameExpr r.alternatives frame.kind :: frame.items ∧
      r'.groupCount = r.groupCount ∧ r'.mode = .item := by
  unfold closeFrame at h
  split at h
  · simp at h
  · next frame frames hframes =>
    obtain rfl := Except.ok.inj h
    refine ⟨frame, frames, hframes, rfl, rfl, rfl, ?_, rfl⟩
    simp only [groupCount]
    split
    · simp [closeGroup]
    · rfl

theorem Edit.groupCount_le (h : Edit allowed r r') : r.groupCount ≤ r'.groupCount := by
  cases h with
  | keep _ _ count _ => exact Nat.le_of_eq count.symm
  | branch h =>
    obtain ⟨rfl, -⟩ := nextBranch_eq_ok h
    exact Nat.le_refl _
  | openFrame _ _ _ _ _ count => exact Nat.le_of_eq count.symm
  | openCapture _ _ _ _ count => exact count ▸ Nat.le_succ _
  | close h =>
    obtain ⟨_, _, -, -, -, -, count, -⟩ := closeFrame_eq_ok h
    exact Nat.le_of_eq count.symm

theorem Edits.groupCount_le (h : Edits allowed r r') : r.groupCount ≤ r'.groupCount := by
  induction h with
  | refl => exact Nat.le_refl _
  | tail _ hedit ih => exact Nat.le_trans ih hedit.groupCount_le

theorem edit_setManner (r : Reader) (manner : Manner) : Edit allowed r (r.setManner manner) := by
  unfold setManner
  split
  · next hitems =>
    refine .keep rfl rfl rfl ?_
    rw [hitems]
    exact .refl _
  · exact edit_of_eq rfl rfl rfl rfl

theorem repeatLast_of_closeBounds {b : Bounds} (h : r.closeBounds b = .ok r') :
    ∃ least most, r.repeatLast least most b.start = .ok r' := by
  rw [closeBounds_eq] at h
  obtain ⟨least, -, h⟩ := bind_eq_ok.1 h
  obtain ⟨most, -, h⟩ := bind_eq_ok.1 h
  split at h
  · simp at h
  · exact ⟨least, most, h⟩

/-- A complete head opens a group where it began, or adds an item. -/
theorem edit_openGroup {start : Nat} {opening : Opening} (hs : allowed start)
    (h : r.openGroup start opening = .ok r') : Edit allowed r r' := by
  cases opening with
  | capture =>
    obtain rfl := Except.ok.inj h
    exact .openCapture hs rfl rfl rfl (by simp [openCapture, openFrame, groupCount])
  | named name position =>
    simp only [openGroup, openNamed] at h
    split at h
    · simp at h
    · split at h
      · simp at h
      · obtain rfl := Except.ok.inj h
        exact .openCapture hs rfl rfl rfl (by simp [openCapture, openFrame, groupCount])
  | atomic =>
    obtain rfl := Except.ok.inj h
    exact .openFrame hs rfl rfl rfl rfl rfl
  | lookahead negated =>
    obtain rfl := Except.ok.inj h
    exact .openFrame hs rfl rfl rfl rfl rfl
  | lookbehind negated =>
    obtain rfl := Except.ok.inj h
    exact .openFrame hs rfl rfl rfl rfl rfl
  | conditional name position =>
    obtain ⟨number, -, h⟩ := bind_eq_ok.1 h
    obtain ⟨_, -, h⟩ := bind_eq_ok.1 h
    obtain rfl := Except.ok.inj h
    exact .openFrame hs rfl rfl rfl rfl rfl
  | backref name position =>
    simp only [openGroup, namedBackref] at h
    split at h
    · simp at h
    · split at h
      · exact eq_of_pushBackref h ▸ edit_push r rfl
      · simp at h
  | comment =>
    obtain rfl := Except.ok.inj h
    exact edit_of_eq rfl rfl rfl rfl

theorem edit_feedItem {t : Token} (h : r.feedItem t = .ok r') : Edit allowed r r' := by
  unfold feedItem at h
  split at h
  · obtain ⟨progress, -, h⟩ := bind_eq_ok.1 h
    cases progress with
    | more e =>
      obtain rfl := Except.ok.inj h
      exact edit_of_eq rfl rfl rfl rfl
    | done e => exact edit_placeEscape h
    | before e => exact edit_placeEscape h
  · exact .branch h
  · exact .close h
  · obtain rfl := Except.ok.inj h
    exact edit_of_eq rfl rfl rfl rfl
  · obtain rfl := Except.ok.inj h
    exact edit_of_eq rfl rfl rfl rfl
  · obtain rfl := Except.ok.inj h
    exact edit_of_eq rfl rfl rfl rfl
  · exact edit_repeatLast h
  · exact edit_repeatLast h
  · exact edit_repeatLast h
  all_goals
    obtain rfl := Except.ok.inj h
    exact edit_push r rfl

end

/-! ## A whole token -/

/-- Leaving the construct in the middle makes at most one change. -/
theorem edits_between? {r r₀ : Reader} {t : Token} (h : r.between? t = some r₀) :
    Edit r.HeaderAt r r₀ := by
  unfold between? at h
  split at h
  · obtain rfl := Option.some.inj h
    exact edit_of_eq rfl rfl rfl rfl
  · split at h
    · simp at h
    · obtain rfl := Option.some.inj h
      exact edit_of_eq rfl rfl rfl rfl
  · next b hm => exact eq_of_leaveBounds? h ▸ edit_flushBounds r b
  · split at h
    · exact edit_placeEscape (toOption_eq_some.1 h)
    · simp at h
  · split at h
    · obtain rfl := Option.some.inj h
      exact edit_push r rfl
    · simp at h
  · next start hd hm =>
    split at h
    · exact edit_openGroup ⟨hd, hm⟩ (toOption_eq_some.1 h)
    · simp at h

theorem edits_of_before {r r₀ r' : Reader} (hleave : Edit r.HeaderAt r r₀) {t : Token}
    (h : r₀.feedItem t = .ok r') : Edits r.HeaderAt r r' :=
  .tail (.single hleave) (edit_feedItem h)

/-- What a token changes but for the position. -/
theorem step_edits {r r' : Reader} {t : Token} (h : r.step t = .ok r') :
    Edits r.HeaderAt r r' := by
  unfold step at h
  split at h
  · exact .single (edit_feedItem h)
  · unfold feedRepeated at h
    split at h
    · obtain rfl := Except.ok.inj h
      exact .single (edit_setManner r _)
    · obtain rfl := Except.ok.inj h
      exact .single (edit_setManner r _)
    · exact edits_of_before (edit_of_eq rfl rfl rfl rfl) h
  · next b hm =>
    unfold feedBounds at h
    split at h
    · split at h
      · obtain rfl := Except.ok.inj h
        exact .tail (.single (edit_flushBounds r b)) (edit_push _ rfl)
      · obtain ⟨least, most, h⟩ := repeatLast_of_closeBounds h
        exact .single (edit_repeatLast h)
    · split at h
      · obtain rfl := Except.ok.inj h
        exact .single (edit_of_eq rfl rfl rfl rfl)
      · exact edits_of_before (edit_flushBounds r b) h
    · split at h
      · split at h
        · obtain rfl := Except.ok.inj h
          exact .single (edit_of_eq rfl rfl rfl rfl)
        · obtain rfl := Except.ok.inj h
          exact .single (edit_of_eq rfl rfl rfl rfl)
      · exact edits_of_before (edit_flushBounds r b) h
    · exact edits_of_before (edit_flushBounds r b) h
  · obtain ⟨progress, -, h⟩ := bind_eq_ok.1 h
    cases progress with
    | more e =>
      obtain rfl := Except.ok.inj h
      exact .single (edit_of_eq rfl rfl rfl rfl)
    | done e => exact .single (edit_placeEscape h)
    | before e =>
      obtain ⟨r₀, hplace, h⟩ := bind_eq_ok.1 h
      exact edits_of_before (edit_placeEscape hplace) h
  · obtain ⟨progress, -, h⟩ := bind_eq_ok.1 h
    cases progress with
    | more s =>
      obtain rfl := Except.ok.inj h
      exact .single (edit_of_eq rfl rfl rfl rfl)
    | done test =>
      obtain rfl := Except.ok.inj h
      exact .single (edit_push r rfl)
    | before test => exact edits_of_before (edit_push r rfl) h
  · next start hd hm =>
    obtain ⟨progress, -, h⟩ := bind_eq_ok.1 h
    cases progress with
    | more hd =>
      obtain rfl := Except.ok.inj h
      exact .single (edit_of_eq rfl rfl rfl rfl)
    | done opening => exact .single (edit_openGroup ⟨hd, hm⟩ h)
    | before opening =>
      obtain ⟨r₀, hopen, h⟩ := bind_eq_ok.1 h
      exact edits_of_before (edit_openGroup ⟨hd, hm⟩ hopen) h

theorem feed_edits {r r' : Reader} {t : Token} (h : r.feed t = .ok r') :
    Edits r.HeaderAt r r' := by
  obtain ⟨next, hstep, rfl⟩ := map_eq_ok.1 h
  exact .tail (step_edits hstep) (edit_of_eq rfl rfl rfl rfl)

theorem Edit.anywhere {allowed : Nat → Prop} {r r' : Reader} (h : Edit allowed r r') :
    Edit (fun _ => True) r r' := by
  cases h with
  | keep frames branches count items => exact .keep frames branches count items
  | branch h => exact .branch h
  | openFrame hs hkind frames branches items count =>
    exact .openFrame trivial hkind frames branches items count
  | openCapture hs frames branches items count =>
    exact .openCapture trivial frames branches items count
  | close h => exact .close h

theorem Edits.anywhere {allowed : Nat → Prop} {r r' : Reader} (h : Edits allowed r r') :
    Edits (fun _ => True) r r' := by
  induction h with
  | refl => exact .refl
  | tail _ hedit ih => exact ih.tail hedit.anywhere

theorem readAll_edits {r r' : Reader} {tokens : List Token} (h : r.readAll tokens = .ok r') :
    Edits (fun _ => True) r r' := by
  induction tokens generalizing r with
  | nil =>
    obtain rfl := Except.ok.inj h
    exact .refl
  | cons t tokens ih =>
    obtain ⟨next, hfeed, hrest⟩ := bind_eq_ok.1 h
    exact (feed_edits hfeed).anywhere.trans (ih hrest)

theorem settle_edits {r r' : Reader} (h : r.settle = .ok r') : Edits r.HeaderAt r r' := by
  unfold settle at h
  split at h
  · obtain rfl := Except.ok.inj h
    exact .refl
  · obtain rfl := Except.ok.inj h
    exact .refl
  · obtain rfl := Except.ok.inj h
    exact .single (edit_flushBounds r _)
  · obtain ⟨e, -, h⟩ := bind_eq_ok.1 h
    exact .single (edit_placeEscape h)
  · simp at h
  · simp at h

end Reader

end PathTemplate.Regex
