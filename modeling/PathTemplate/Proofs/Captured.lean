import PathTemplate.Proofs.Edits
import PathTemplate.Proofs.Ways

/-!
# Groups that every way captures

A group stays captured once a way has passed it. Whether a way can avoid a group shows in the
expression: it stands in a repetition that may have no rounds, in a negative look, or in a branch
that need not be taken.

## Main definitions

* `State.Captured`: a group has taken part.
* `Expr.Distinct`: no two groups have the same number.
* `Expr.canSkip`: a way through the expression may leave a group out.

## Main statements

* `Leads.mark_eq`: a way changes only the marks of the groups it passes.
* `Leads.captured_mono`: a group stays captured.
* `Leads.captured`: a group that no way can leave out is captured behind every way.
-/

namespace PathTemplate.Regex

/-! ## Marks -/

namespace State

def Captured (s : State) (n : Nat) : Prop :=
  (s.mark n).span?.isSome = true

theorem mark_congr {s t : State} (h : t.marks = s.marks) (n : Nat) : t.mark n = s.mark n := by
  rw [mark, mark, h]

theorem mark_openGroup_of_ne {m n : Nat} (hm : 1 ≤ m) (h : m ≠ n) (s : State) :
    (s.openGroup m).mark n = s.mark n := by
  unfold mark
  split
  · rfl
  · have hne : m - 1 ≠ n - 1 := by omega
    simp [openGroup, hne]

theorem mark_closeGroup_of_ne {m n : Nat} (hm : 1 ≤ m) (h : m ≠ n) (s : State) :
    (s.closeGroup m).mark n = s.mark n := by
  unfold mark
  split
  · rfl
  · have hne : m - 1 ≠ n - 1 := by omega
    simp [closeGroup, hne]

variable {n : Nat} {s : State}

theorem mark_openGroup_self (hn : 1 ≤ n) (hlength : n ≤ s.marks.length) :
    (s.openGroup n).mark n = { s.mark n with opened := some s.position } := by
  have hlt : n - 1 < s.marks.length := by omega
  simp [mark, openGroup, show n ≠ 0 by omega, hlt]

theorem mark_closeGroup_self (hn : 1 ≤ n) (hlength : n ≤ s.marks.length) :
    (s.closeGroup n).mark n = { s.mark n with closed := some s.position } := by
  have hlt : n - 1 < s.marks.length := by omega
  simp [mark, closeGroup, show n ≠ 0 by omega, hlt]

/-- Only groups of the expression are ever captured. -/
theorem Captured.range (h : s.Captured n) : 1 ≤ n ∧ n ≤ s.marks.length := by
  unfold Captured mark at h
  split at h
  · simp [Mark.span?] at h
  · refine ⟨by omega, Nat.le_of_not_lt fun hlt => ?_⟩
    rw [List.getD_eq_getElem?_getD, List.getElem?_eq_none (by omega)] at h
    simp [Mark.span?] at h

end State

namespace Expr

/-- The groups of an expression have different numbers, from one on. -/
def Distinct (e : Expr) : Prop :=
  (e.captures.map Prod.fst).Nodup ∧ ∀ p ∈ e.captures, 1 ≤ p.1

/-- A way through the expression may leave out a group. A reference passes only behind its own
group, and so does the first branch of a condition. -/
def canSkip (n : Nat) : Expr → Bool
  | empty => true
  | char _ => true
  | anchor _ => true
  | seq a b => a.canSkip n && b.canSkip n
  | alt a b => a.canSkip n || b.canSkip n
  | iterate _ least _ body => least == 0 || body.canSkip n
  | group m body => m != n && body.canSkip n
  | atomic body => body.canSkip n
  | lookahead negated body => negated || body.canSkip n
  | lookbehind negated _ body => negated || body.canSkip n
  | backref m => m != n
  | ifGroup m yes no => if m = n then no.canSkip n else yes.canSkip n || no.canSkip n

theorem Distinct.seq {a b : Expr} (h : (seq a b).Distinct) : a.Distinct ∧ b.Distinct := by
  obtain ⟨hnodup, hpos⟩ := h
  rw [captures, List.map_append, List.nodup_append] at hnodup
  exact ⟨⟨hnodup.1, fun p hp => hpos p (List.mem_append_left _ hp)⟩,
    hnodup.2.1, fun p hp => hpos p (List.mem_append_right _ hp)⟩

theorem Distinct.alt {a b : Expr} (h : (alt a b).Distinct) : a.Distinct ∧ b.Distinct :=
  Distinct.seq h

theorem Distinct.ifGroup {n : Nat} {yes no : Expr} (h : (ifGroup n yes no).Distinct) :
    yes.Distinct ∧ no.Distinct :=
  Distinct.seq h

theorem Distinct.group {n : Nat} {body : Expr} (h : (group n body).Distinct) :
    1 ≤ n ∧ body.Distinct ∧ ∀ p ∈ body.captures, p.1 ≠ n := by
  obtain ⟨hnodup, hpos⟩ := h
  rw [captures, List.map_cons, List.nodup_cons] at hnodup
  refine ⟨hpos _ (List.mem_cons_self ..),
    ⟨hnodup.2, fun p hp => hpos p (List.mem_cons_of_mem _ hp)⟩, fun p hp heq => hnodup.1 ?_⟩
  exact List.mem_map.2 ⟨p, hp, heq⟩

end Expr

/-! ## Ways and groups -/

namespace Expr.Leads

variable {e : Expr} {s t : State} {n : Nat}

/-- A way changes no mark but those of the groups it passes. -/
theorem mark_eq (h : e.Leads s t) (hpos : ∀ p ∈ e.captures, 1 ≤ p.1)
    (hn : ∀ p ∈ e.captures, p.1 ≠ n) : t.mark n = s.mark n := by
  induction h with
  | char h =>
    obtain ⟨_, _, -, -, rfl⟩ := State.advance?_eq_some h
    rfl
  | seq _ _ first second =>
    simp only [captures, List.forall_mem_append] at hpos hn
    exact (second hpos.2 hn.2).trans (first hpos.1 hn.1)
  | left _ ih =>
    simp only [captures, List.forall_mem_append] at hpos hn
    exact ih hpos.1 hn.1
  | right _ ih =>
    simp only [captures, List.forall_mem_append] at hpos hn
    exact ih hpos.2 hn.2
  | round _ _ first rest => exact (rest hpos hn).trans (first hpos hn)
  | group _ ih =>
    simp only [captures, List.forall_mem_cons] at hpos hn
    rw [State.mark_closeGroup_of_ne hpos.1 hn.1, ih hpos.2 hn.2,
      State.mark_openGroup_of_ne hpos.1 hn.1]
  | atomic _ ih => exact ih hpos hn
  | ahead _ ih => exact ih hpos hn
  | behind back _ ih => exact (ih hpos hn).trans (State.mark_congr (State.marks_back? back) n)
  | backref _ h => exact State.mark_congr (State.skip?_eq_some h).1 n
  | yes _ _ ih =>
    simp only [captures, List.forall_mem_append] at hpos hn
    exact ih hpos.1 hn.1
  | no _ ih =>
    simp only [captures, List.forall_mem_append] at hpos hn
    exact ih hpos.2 hn.2
  | _ => rfl

theorem captured_group {body : Expr} (h : body.Leads (s.openGroup n) t)
    (hd : (Expr.group n body).Distinct) (hlength : n ≤ s.marks.length) :
    (t.closeGroup n).Captured n := by
  obtain ⟨hn, hbody, havoid⟩ := hd.group
  have hopened : (t.mark n).opened = some s.position := by
    rw [h.mark_eq hbody.2 havoid, State.mark_openGroup_self hn hlength]
  have hposition : s.position ≤ t.position := h.position_le
  have hmarks : n ≤ t.marks.length := by
    rw [h.length_marks]
    simpa [State.openGroup] using hlength
  rw [State.Captured, State.mark_closeGroup_self hn hmarks, Mark.span?]
  simp [hopened, hposition]

theorem captured_mono (h : e.Leads s t) (hd : e.Distinct) (hs : s.Captured n) : t.Captured n := by
  induction h with
  | char h =>
    obtain ⟨_, _, -, -, rfl⟩ := State.advance?_eq_some h
    exact hs
  | seq _ _ first second => exact second hd.seq.2 (first hd.seq.1 hs)
  | left _ ih => exact ih hd.alt.1 hs
  | right _ ih => exact ih hd.alt.2 hs
  | round _ _ first rest => exact rest hd (first hd hs)
  | @group m body s t h ih =>
    obtain ⟨hm, hbody, -⟩ := hd.group
    by_cases hmn : m = n
    · subst hmn
      exact captured_group h hd hs.range.2
    · rw [State.Captured, ← State.mark_openGroup_of_ne hm hmn] at hs
      rw [State.Captured, State.mark_closeGroup_of_ne hm hmn]
      exact ih hbody hs
  | atomic _ ih => exact ih hd hs
  | ahead _ ih => exact ih hd hs
  | behind back _ ih =>
    refine ih hd ?_
    rwa [State.Captured, State.mark_congr (State.marks_back? back)]
  | backref _ h => rwa [State.Captured, State.mark_congr (State.skip?_eq_some h).1]
  | yes _ _ ih => exact ih hd.ifGroup.1 hs
  | no _ ih => exact ih hd.ifGroup.2 hs
  | _ => exact hs

/-- A group that no way can leave out is captured behind every way. -/
theorem captured (h : e.Leads s t) (hd : e.Distinct) (hn : 1 ≤ n) (hlength : n ≤ s.marks.length)
    (hskip : e.canSkip n = false) : t.Captured n := by
  induction h with
  | @seq a b s t u first second ihfirst ihsecond =>
    have hmarks := first.length_marks
    rw [canSkip, Bool.and_eq_false_iff] at hskip
    rcases hskip with ha | hb
    · exact second.captured_mono hd.seq.2 (ihfirst hd.seq.1 hlength ha)
    · exact ihsecond hd.seq.2 (by omega) hb
  | left _ ih =>
    rw [canSkip, Bool.or_eq_false_iff] at hskip
    exact ih hd.alt.1 hlength hskip.1
  | right _ ih =>
    rw [canSkip, Bool.or_eq_false_iff] at hskip
    exact ih hd.alt.2 hlength hskip.2
  | @round manner least most body s t u first rest ihfirst =>
    rw [canSkip, Bool.or_eq_false_iff] at hskip
    exact rest.captured_mono hd (ihfirst hd hlength hskip.2)
  | @group m body s t h ih =>
    obtain ⟨hm, hbody, -⟩ := hd.group
    by_cases hmn : m = n
    · subst hmn
      exact captured_group h hd hlength
    · rw [canSkip, Bool.and_eq_false_iff] at hskip
      have hbodySkip := hskip.resolve_left (by simpa using hmn)
      rw [State.Captured, State.mark_closeGroup_of_ne hm hmn]
      exact ih hbody (by simpa [State.openGroup] using hlength) hbodySkip
  | atomic _ ih => exact ih hd hlength hskip
  | ahead _ ih =>
    rw [canSkip, Bool.or_eq_false_iff] at hskip
    exact ih hd hlength hskip.2
  | behind back _ ih =>
    rw [canSkip, Bool.or_eq_false_iff] at hskip
    exact ih hd (by rwa [State.marks_back? back]) hskip.2
  | @backref m text s t captured h =>
    have hmn : m = n := by simpa [canSkip] using hskip
    subst hmn
    obtain ⟨span, hspan, -⟩ := Option.map_eq_some_iff.1 captured
    rw [State.Captured, State.mark_congr (State.skip?_eq_some h).1, hspan]
    rfl
  | @yes m yes no s t captured h ih =>
    rw [canSkip] at hskip
    split at hskip
    · next hmn => exact h.captured_mono hd.ifGroup.1 (hmn ▸ captured)
    · rw [Bool.or_eq_false_iff] at hskip
      exact ih hd.ifGroup.1 hlength hskip.1
  | no _ ih =>
    rw [canSkip] at hskip
    split at hskip
    · exact ih hd.ifGroup.2 hlength hskip
    · rw [Bool.or_eq_false_iff] at hskip
      exact ih hd.ifGroup.2 hlength hskip.2
  | _ => simp [canSkip] at hskip

end Expr.Leads

end PathTemplate.Regex
