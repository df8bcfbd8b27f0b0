import PathTemplate.Regex.Match

/-!
# Ways through an expression

A match of an expression takes one of the ways that lead through it. Which one is a question of the
order in which they are tried; that a way exists does not depend on it, so what holds of every way
holds of the match.

## Main definitions

* `Expr.Leads`: a way through an expression, from one state to another.

## Main statements

* `run_sound`: a match takes a way through the expression and what follows it.
* `Leads.width_le`: a way takes at least as many characters as the width says.
* `Leads.span`: a way takes its characters from those behind the place.
* `fullMatch?_leads`: the groups of a full match are those behind a way to the end.
-/

namespace PathTemplate.Regex

/-- A way through an expression. A repetition goes on for at least its least number of rounds. -/
inductive Expr.Leads : Expr → State → State → Prop where
  | empty {s : State} : Leads .empty s s
  | char {test : CharTest} {s t : State} (h : s.advance? test = some t) : Leads (.char test) s t
  | anchor {a : Anchor} {s : State} (h : a.holds s = true) : Leads (.anchor a) s s
  | seq {a b : Expr} {s t u : State} (first : Leads a s t) (second : Leads b t u) :
    Leads (.seq a b) s u
  | left {a b : Expr} {s t : State} (h : Leads a s t) : Leads (.alt a b) s t
  | right {a b : Expr} {s t : State} (h : Leads b s t) : Leads (.alt a b) s t
  | stop {manner : Manner} {most : Option Nat} {body : Expr} {s : State} :
    Leads (.iterate manner 0 most body) s s
  | round {manner : Manner} {least : Nat} {most : Option Nat} {body : Expr} {s t u : State}
    (first : Leads body s t) (rest : Leads (.iterate manner (least - 1) most body) t u) :
    Leads (.iterate manner least most body) s u
  | group {n : Nat} {body : Expr} {s t : State} (h : Leads body (s.openGroup n) t) :
    Leads (.group n body) s (t.closeGroup n)
  | atomic {body : Expr} {s t : State} (h : Leads body s t) : Leads (.atomic body) s t
  | ahead {body : Expr} {s t : State} (h : Leads body s t) :
    Leads (.lookahead false body) s { s with marks := t.marks }
  | notAhead {body : Expr} {s : State} : Leads (.lookahead true body) s s
  | behind {width : Width} {body : Expr} {s s' t : State} (back : s.back? width.least = some s')
    (h : Leads body s' t) : Leads (.lookbehind false width body) s { s with marks := t.marks }
  | notBehind {width : Width} {body : Expr} {s : State} : Leads (.lookbehind true width body) s s
  | backref {n : Nat} {text : List Char} {s t : State} (captured : s.captured? n = some text)
    (h : s.skip? text = some t) : Leads (.backref n) s t
  | yes {n : Nat} {yes no : Expr} {s t : State} (captured : (s.mark n).span?.isSome = true)
    (h : Leads yes s t) : Leads (.ifGroup n yes no) s t
  | no {n : Nat} {yes no : Expr} {s t : State} (h : Leads no s t) : Leads (.ifGroup n yes no) s t

/-! ## A match takes a way -/

section Rounds

variable {manner : Manner} {greatest : Option Nat} {body : Expr}

/-- Whatever makes a round succeed takes a way through the body. -/
def RoundSound (body : Expr) : Prop :=
  ∀ (k : Rest) (s r : State), body.run k s = some r → ∃ t, body.Leads s t ∧ k t = some r

theorem most_sound (hbody : RoundSound body) {k : Rest} {limit : Nat} {s r : State}
    (h : most body.run k limit s = some r) :
    ∃ t, (Expr.iterate manner 0 greatest body).Leads s t ∧ k t = some r := by
  induction limit generalizing s with
  | zero => exact ⟨s, .stop, h⟩
  | succ limit ih =>
    rw [most] at h
    split at h
    · next result hround =>
      obtain rfl := Option.some.inj h
      obtain ⟨t, hfirst, hk⟩ := hbody _ _ _ hround
      split at hk
      · exact ⟨t, .round hfirst .stop, hk⟩
      · obtain ⟨u, hrest, hu⟩ := ih hk
        exact ⟨u, .round hfirst hrest, hu⟩
    · exact ⟨s, .stop, h⟩

theorem fewest_sound (hbody : RoundSound body) {k : Rest} {limit : Nat} {s r : State}
    (h : fewest body.run k limit s = some r) :
    ∃ t, (Expr.iterate manner 0 greatest body).Leads s t ∧ k t = some r := by
  induction limit generalizing s with
  | zero => exact ⟨s, .stop, h⟩
  | succ limit ih =>
    rw [fewest] at h
    split at h
    · next result hk =>
      exact ⟨s, .stop, hk.trans h⟩
    · obtain ⟨t, hfirst, hk⟩ := hbody _ _ _ h
      split at hk
      · exact ⟨t, .round hfirst .stop, hk⟩
      · obtain ⟨u, hrest, hu⟩ := ih hk
        exact ⟨u, .round hfirst hrest, hu⟩

theorem rounds_sound (hbody : RoundSound body) {k k' : Rest} {least : Nat} {s r : State}
    (h : rounds body.run least k s = some r)
    (hk : ∀ t, k t = some r →
      ∃ u, (Expr.iterate manner 0 greatest body).Leads t u ∧ k' u = some r) :
    ∃ u, (Expr.iterate manner least greatest body).Leads s u ∧ k' u = some r := by
  induction least generalizing s with
  | zero => exact hk s h
  | succ least ih =>
    obtain ⟨t, hfirst, hrest⟩ := hbody _ _ _ h
    obtain ⟨u, hu, hr⟩ := ih hrest
    exact ⟨u, .round hfirst hu, hr⟩

theorem mostOnce_leads (hbody : RoundSound body) (limit : Nat) (s : State) :
    (Expr.iterate manner 0 greatest body).Leads s (mostOnce body.run limit s) := by
  induction limit generalizing s with
  | zero => exact .stop
  | succ limit ih =>
    rw [mostOnce]
    split
    · exact .stop
    · next t hround =>
      obtain ⟨t, hfirst, ht⟩ := hbody _ _ _ hround
      obtain rfl := Option.some.inj ht
      split
      · exact .round hfirst .stop
      · exact .round hfirst (ih _)

theorem roundsOnce_leads (hbody : RoundSound body) {least : Nat} {s t u : State}
    (h : roundsOnce body.run least s = some t)
    (hrest : (Expr.iterate manner 0 greatest body).Leads t u) :
    (Expr.iterate manner least greatest body).Leads s u := by
  induction least generalizing s with
  | zero =>
    obtain rfl := Option.some.inj h
    exact hrest
  | succ least ih =>
    obtain ⟨v, hround, hv⟩ := Option.bind_eq_some_iff.1 h
    obtain ⟨v, hfirst, hv'⟩ := hbody _ _ _ hround
    obtain rfl := Option.some.inj hv'
    exact .round hfirst (ih hv)

theorem repeated_sound (hbody : RoundSound body) {least : Nat} {k : Rest} {s r : State}
    (h : repeated manner least greatest body.run k s = some r) :
    ∃ t, (Expr.iterate manner least greatest body).Leads s t ∧ k t = some r := by
  cases manner with
  | greedy => exact rounds_sound hbody h fun t ht => most_sound hbody ht
  | lazy => exact rounds_sound hbody h fun t ht => fewest_sound hbody ht
  | possessive =>
    obtain ⟨t, hrounds, hk⟩ := Option.bind_eq_some_iff.1 h
    exact ⟨_, roundsOnce_leads hbody hrounds (mostOnce_leads hbody _ t), hk⟩

end Rounds

/-- A match takes a way through the expression, and then what follows it goes on. -/
theorem run_sound {e : Expr} {k : Rest} {s r : State} (h : e.run k s = some r) :
    ∃ t, e.Leads s t ∧ k t = some r := by
  induction e generalizing k s r with
  | empty => exact ⟨s, .empty, h⟩
  | char test =>
    obtain ⟨t, ht, hk⟩ := Option.bind_eq_some_iff.1 h
    exact ⟨t, .char ht, hk⟩
  | anchor a =>
    rw [Expr.run_anchor] at h
    split at h
    · next ha => exact ⟨s, .anchor ha, h⟩
    · simp at h
  | seq a b iha ihb =>
    obtain ⟨t, hfirst, hb⟩ := iha h
    obtain ⟨u, hsecond, hk⟩ := ihb hb
    exact ⟨u, .seq hfirst hsecond, hk⟩
  | alt a b iha ihb =>
    rw [Expr.run_alt, Option.or_eq_some_iff] at h
    rcases h with ha | ⟨-, hb⟩
    · obtain ⟨t, ht, hk⟩ := iha ha
      exact ⟨t, .left ht, hk⟩
    · obtain ⟨t, ht, hk⟩ := ihb hb
      exact ⟨t, .right ht, hk⟩
  | iterate manner least greatest body ih => exact repeated_sound (fun k s r => ih) h
  | group n body ih =>
    obtain ⟨t, ht, hk⟩ := ih h
    exact ⟨_, .group ht, hk⟩
  | atomic body ih =>
    obtain ⟨u, hbody, hk⟩ := Option.bind_eq_some_iff.1 h
    obtain ⟨t, ht, htu⟩ := ih hbody
    obtain rfl := Option.some.inj htu
    exact ⟨t, .atomic ht, hk⟩
  | lookahead negated body ih =>
    rw [Expr.run_lookahead] at h
    unfold look at h
    split at h
    · next u hbody =>
      obtain ⟨t, ht, htu⟩ := ih hbody
      obtain rfl := Option.some.inj htu
      exact ⟨_, .ahead ht, h⟩
    · simp at h
    · simp at h
    · exact ⟨s, .notAhead, h⟩
  | lookbehind negated width body ih =>
    rw [Expr.run_lookbehind] at h
    unfold look at h
    split at h
    · next u hbody =>
      obtain ⟨s', hback, hrun⟩ := Option.bind_eq_some_iff.1 hbody
      obtain ⟨t, ht, htu⟩ := ih hrun
      obtain rfl := Option.some.inj htu
      exact ⟨_, .behind hback ht, h⟩
    · simp at h
    · simp at h
    · exact ⟨s, .notBehind, h⟩
  | backref n =>
    obtain ⟨t, hskip, hk⟩ := Option.bind_eq_some_iff.1 h
    obtain ⟨text, hcaptured, ht⟩ := Option.bind_eq_some_iff.1 hskip
    exact ⟨t, .backref hcaptured ht, hk⟩
  | ifGroup n yes no ihyes ihno =>
    rw [Expr.run_ifGroup] at h
    split at h
    · next hcaptured =>
      obtain ⟨t, ht, hk⟩ := ihyes h
      exact ⟨t, .yes hcaptured ht, hk⟩
    · obtain ⟨t, ht, hk⟩ := ihno h
      exact ⟨t, .no ht, hk⟩

/-! ## What a way takes -/

namespace State

theorem advance?_eq_some {s t : State} {test : CharTest} (h : s.advance? test = some t) :
    ∃ c rest, s.after = c :: rest ∧ test.accepts c = true ∧
      t = { s with position := s.position + 1, before := c :: s.before, after := rest } := by
  unfold advance? at h
  split at h
  · simp at h
  · next c rest hs =>
    split at h
    · next hc => exact ⟨c, rest, hs, hc, (Option.some.inj h).symm⟩
    · simp at h

theorem marks_back? {s t : State} {n : Nat} (h : s.back? n = some t) : t.marks = s.marks := by
  induction n generalizing s with
  | zero =>
    obtain rfl := Option.some.inj h
    rfl
  | succ n ih =>
    rw [back?] at h
    split at h
    · simp at h
    · have hmarks := ih h
      exact hmarks

theorem skip?_eq_some {s t : State} {text : List Char} (h : s.skip? text = some t) :
    t.marks = s.marks ∧ t.position = s.position + text.length ∧
      t.position + t.after.length = s.position + s.after.length := by
  induction text generalizing s with
  | nil =>
    obtain rfl := Option.some.inj h
    exact ⟨rfl, rfl, rfl⟩
  | cons c text ih =>
    obtain ⟨u, hu, ht⟩ := Option.bind_eq_some_iff.1 h
    obtain ⟨_, rest, hs, -, rfl⟩ := advance?_eq_some hu
    obtain ⟨hmarks, hposition, htotal⟩ := ih ht
    rw [hs]
    refine ⟨hmarks, ?_, ?_⟩
    · rw [hposition, List.length_cons]
      dsimp only
      omega
    · rw [htotal, List.length_cons]
      dsimp only
      omega

end State

namespace Expr.Leads

variable {e : Expr} {s t : State}

/-- What lies behind the place grows less as the place moves on. -/
theorem span (h : e.Leads s t) :
    t.position + t.after.length = s.position + s.after.length := by
  induction h with
  | char h =>
    obtain ⟨c, rest, hs, -, rfl⟩ := State.advance?_eq_some h
    rw [hs, List.length_cons]
    dsimp only
    omega
  | seq _ _ first second => exact second.trans first
  | round _ _ first rest => exact rest.trans first
  | backref _ h => exact (State.skip?_eq_some h).2.2
  | left _ ih => exact ih
  | right _ ih => exact ih
  | group _ ih => exact ih
  | atomic _ ih => exact ih
  | yes _ _ ih => exact ih
  | no _ ih => exact ih
  | _ => rfl

theorem width_le (h : e.Leads s t) :
    s.position + (e.width fun _ => .exactly 0).least ≤ t.position := by
  induction h with
  | char h =>
    obtain ⟨c, rest, hs, -, rfl⟩ := State.advance?_eq_some h
    exact Nat.le_refl _
  | seq _ _ first second =>
    simp only [width, Width.add]
    omega
  | left _ ih =>
    simp only [width, Width.union]
    omega
  | right _ ih =>
    simp only [width, Width.union]
    omega
  | stop => simp [width, Width.times]
  | @round manner least most body s t u _ _ first rest =>
    simp only [width, Width.times] at rest ⊢
    cases least with
    | zero => omega
    | succ least =>
      rw [Nat.add_sub_cancel] at rest
      rw [Nat.succ_mul]
      omega
  | group _ ih => exact ih
  | atomic _ ih => exact ih
  | backref _ h =>
    rw [(State.skip?_eq_some h).2.1]
    exact Nat.le_add_right ..
  | yes _ _ ih =>
    simp only [width, Width.union]
    omega
  | no _ ih =>
    simp only [width, Width.union]
    omega
  | _ => exact Nat.le_refl _

theorem position_le (h : e.Leads s t) : s.position ≤ t.position :=
  Nat.le_trans (Nat.le_add_right ..) h.width_le

theorem length_marks (h : e.Leads s t) : t.marks.length = s.marks.length := by
  induction h with
  | char h =>
    obtain ⟨_, _, -, -, rfl⟩ := State.advance?_eq_some h
    rfl
  | seq _ _ first second => exact second.trans first
  | round _ _ first rest => exact rest.trans first
  | left _ ih => exact ih
  | right _ ih => exact ih
  | group _ ih => simpa [State.openGroup, State.closeGroup] using ih
  | atomic _ ih => exact ih
  | ahead _ ih => exact ih
  | behind back _ ih => exact ih.trans (congrArg List.length (State.marks_back? back))
  | backref _ h => exact congrArg List.length (State.skip?_eq_some h).1
  | yes _ _ ih => exact ih
  | no _ ih => exact ih
  | _ => rfl

end Expr.Leads

/-! ## Full matches -/

theorem State.length_marks_start (text : List Char) (groupCount : Nat) :
    (State.start text groupCount).marks.length = groupCount := by
  simp [State.start, Marks.none]

theorem State.getElem?_captures {s : State} {i : Nat} (hi : i < s.marks.length) :
    s.captures[i]? = some (s.captured? (i + 1)) := by
  simp [State.captures, State.captured?, State.mark, hi]

/-- The groups of a match are those behind a way to the end of the text. -/
theorem fullMatch?_leads {regex : Regex} {text : List Char} {captures : List (Option (List Char))}
    (h : regex.fullMatch? text = some captures) :
    ∃ t : State, regex.body.Leads (.start text regex.groupCount) t ∧ t.after = [] ∧
      t.marks.length = regex.groupCount ∧ captures = t.captures := by
  obtain ⟨r, hr, rfl⟩ := Option.map_eq_some_iff.1 h
  obtain ⟨t, ht, hend⟩ := run_sound hr
  unfold atEnd at hend
  split at hend
  · next hafter =>
    obtain rfl := Option.some.inj hend
    exact ⟨t, ht, List.isEmpty_iff.1 hafter, ht.length_marks.trans (State.length_marks_start _ _),
      rfl⟩
  · simp at hend

end PathTemplate.Regex
