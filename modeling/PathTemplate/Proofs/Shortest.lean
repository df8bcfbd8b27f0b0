import PathTemplate.Proofs.Captured
import PathTemplate.Proofs.FirstMatch

/-!
# Shortest matches

A text of the least length that an expression can match leaves its repetitions no choice: each has
its least number of rounds. So a group that can be left out is left out of the match of such a text,
and a text like this exists if nothing in the expression looks around or refuses to go back.

## Main definitions

* `Expr.least`: the least number of characters an expression takes.
* `Expr.Flat`: an expression without alternatives, conditions, and looks.
* `Expr.Plain`: an expression that matches some text of the least length.
* `Expr.PlainItems`: plain and flat items up to the anchor for the end.

## Main statements

* `Leads.mark_eq_of_least`: a shortest way leaves out what can be left out.
* `exists_run_of_plainItems`: there is a shortest text that matches.
-/

namespace PathTemplate.Regex

namespace Expr

/-- The least number of characters that an expression takes. -/
def least (e : Expr) : Nat :=
  (e.width fun _ => .exactly 0).least

/-- There are no alternatives, no conditions, and no looks. -/
def Flat : Expr → Prop
  | seq a b => a.Flat ∧ b.Flat
  | iterate _ _ _ body => body.Flat
  | group _ body => body.Flat
  | atomic body => body.Flat
  | alt _ _ => False
  | lookahead _ _ => False
  | lookbehind _ _ _ => False
  | ifGroup _ _ _ => False
  | _ => True

/-- Tests that some character passes, in sequences, groups, and repetitions that can be taken back.
What need not be done at all may be anything. -/
def Plain : Expr → Prop
  | empty => True
  | char test => ∃ c, test.accepts c = true
  | seq a b => a.Plain ∧ b.Plain
  | iterate manner least _ body => manner ≠ .possessive ∧ (least = 0 ∨ body.Plain)
  | group _ body => body.Plain
  | _ => False

/-- Plain and flat items, and the anchor for the end. -/
def PlainItems (e : Expr) : Prop :=
  ∃ items, e = .ofItems (items ++ [.anchor .lastLineEnd]) ∧
    ∀ item ∈ items, item.Plain ∧ item.Flat

@[simp] theorem least_seq (a b : Expr) : (seq a b).least = a.least + b.least := rfl

@[simp] theorem least_group (n : Nat) (body : Expr) : (group n body).least = body.least := rfl

@[simp] theorem least_iterate (manner : Manner) (n : Nat) (most : Option Nat) (body : Expr) :
    (iterate manner n most body).least = n * body.least := rfl

/-! ## Shortest ways -/

namespace Leads

variable {e : Expr} {s t : State} {n : Nat}

theorem least_le (h : e.Leads s t) : s.position + e.least ≤ t.position :=
  h.width_le

/-- A way that takes nothing passes no group that needs a character. -/
theorem mark_eq_of_stay (h : e.Leads s t) (hflat : e.Flat) (hd : e.Distinct)
    (hbody : ∀ body, (n, body) ∈ e.captures → 1 ≤ body.least) (hstay : t.position = s.position) :
    t.mark n = s.mark n := by
  induction h with
  | char h =>
    obtain ⟨_, _, -, -, rfl⟩ := State.advance?_eq_some h
    rfl
  | seq first second ihfirst ihsecond =>
    have hfirst := first.position_le
    have hsecond := second.position_le
    rw [ihsecond hflat.2 hd.seq.2 (fun body hm => hbody body (List.mem_append_right _ hm))
      (by omega),
      ihfirst hflat.1 hd.seq.1 (fun body hm => hbody body (List.mem_append_left _ hm)) (by omega)]
  | round first rest ihfirst ihrest =>
    have hfirst := first.position_le
    have hrest := rest.position_le
    rw [ihrest hflat hd hbody (by omega), ihfirst hflat hd hbody (by omega)]
  | @group m body s t h ih =>
    obtain ⟨hm, hdbody, -⟩ := hd.group
    by_cases hmn : m = n
    · subst hmn
      have hneeds := hbody body (List.mem_cons_self ..)
      have hle : s.position + body.least ≤ t.position := h.least_le
      have hsame : t.position = s.position := hstay
      omega
    · rw [State.mark_closeGroup_of_ne hm hmn,
        ih hflat hdbody (fun body hm => hbody body (List.mem_cons_of_mem _ hm)) hstay,
        State.mark_openGroup_of_ne hm hmn]
  | atomic _ ih => exact ih hflat hd hbody hstay
  | backref _ h => exact State.mark_congr (State.skip?_eq_some h).1 n
  | empty => rfl
  | anchor => rfl
  | stop => rfl
  | _ => exact hflat.elim

/-- A shortest way leaves out every group that can be left out, if it needs a character. -/
theorem mark_eq_of_least (h : e.Leads s t) (hflat : e.Flat) (hd : e.Distinct)
    (hbody : ∀ body, (n, body) ∈ e.captures → 1 ≤ body.least) (hskip : e.canSkip n = true)
    (hleast : t.position = s.position + e.least) : t.mark n = s.mark n := by
  induction h with
  | char h =>
    obtain ⟨_, _, -, -, rfl⟩ := State.advance?_eq_some h
    rfl
  | @seq a b s t u first second ihfirst ihsecond =>
    have hfirst := first.least_le
    have hsecond := second.least_le
    rw [least_seq] at hleast
    rw [canSkip, Bool.and_eq_true] at hskip
    rw [ihsecond hflat.2 hd.seq.2 (fun body hm => hbody body (List.mem_append_right _ hm)) hskip.2
        (by omega),
      ihfirst hflat.1 hd.seq.1 (fun body hm => hbody body (List.mem_append_left _ hm)) hskip.1
        (by omega)]
  | @round manner least most body s t u first rest ihfirst ihrest =>
    have hfirst := first.least_le
    have hrest := rest.least_le
    rw [least_iterate] at hleast hrest
    cases least with
    | zero =>
      -- Nothing is taken at all, so neither the round nor those behind it pass the group.
      have hposition := rest.position_le
      rw [Nat.zero_mul] at hleast
      rw [rest.mark_eq_of_stay hflat hd hbody (by omega),
        first.mark_eq_of_stay hflat hd hbody (by omega)]
    | succ least =>
      rw [Nat.add_sub_cancel] at hrest
      rw [Nat.succ_mul] at hleast
      have hskipBody : body.canSkip n = true := by simpa [canSkip] using hskip
      rw [ihrest hflat hd hbody (by simp [canSkip, hskipBody])
          (by rw [least_iterate, Nat.add_sub_cancel]; omega),
        ihfirst hflat hd hbody hskipBody (by omega)]
  | @group m body s t h ih =>
    obtain ⟨hm, hdbody, -⟩ := hd.group
    rw [canSkip, Bool.and_eq_true, bne_iff_ne] at hskip
    rw [State.mark_closeGroup_of_ne hm hskip.1,
      ih hflat hdbody (fun body hm => hbody body (List.mem_cons_of_mem _ hm)) hskip.2 hleast,
      State.mark_openGroup_of_ne hm hskip.1]
  | atomic _ ih => exact ih hflat hd hbody hskip hleast
  | backref _ h => exact State.mark_congr (State.skip?_eq_some h).1 n
  | empty => rfl
  | anchor => rfl
  | stop => rfl
  | _ => exact hflat.elim

end Leads

end Expr

/-! ## Shortest texts -/

theorem most_ne_none {round : Rest → Rest} {k : Rest} {s : State} (h : k s ≠ none)
    (limit : Nat) : most round k limit s ≠ none := by
  cases limit with
  | zero => exact h
  | succ limit =>
    rw [most]
    split
    · simp
    · exact h

theorem fewest_ne_none {round : Rest → Rest} {k : Rest} {s : State} (h : k s ≠ none)
    (limit : Nat) : fewest round k limit s ≠ none := by
  cases limit with
  | zero => exact h
  | succ limit =>
    rw [fewest]
    split
    · simp
    · next hk => exact absurd hk h

/-- A text behind which whatever succeeds on the rest succeeds. -/
def Accepts (e : Expr) (text : List Char) : Prop :=
  ∀ (rest : List Char) (k : Rest) (s : State), s.after = text ++ rest →
    (∀ t : State, t.after = rest → k t ≠ none) → e.run k s ≠ none

theorem rounds_ne_none {e : Expr} {text : List Char} (h : Accepts e text) {n : Nat}
    {rest : List Char} {k : Rest} {s : State}
    (hs : s.after = (List.replicate n text).flatten ++ rest)
    (hk : ∀ t : State, t.after = rest → k t ≠ none) : rounds e.run n k s ≠ none := by
  induction n generalizing s with
  | zero => exact hk s (by simpa using hs)
  | succ n ih =>
    rw [List.replicate_succ, List.flatten_cons, List.append_assoc] at hs
    exact h _ _ s hs fun t ht => ih ht

theorem accepts_iterate {manner : Manner} {n : Nat} {greatest : Option Nat} {body : Expr}
    {text : List Char} (hmanner : manner ≠ .possessive) (h : n = 0 ∨ Accepts body text) :
    Accepts (.iterate manner n greatest body) (List.replicate n text).flatten := by
  intro rest k s hs hk
  have hrounds : ∀ k' : Rest, (∀ t : State, t.after = rest → k' t ≠ none) →
      rounds body.run n k' s ≠ none := by
    intro k' hk'
    rcases h with rfl | h
    · exact hk' s (by simpa using hs)
    · exact rounds_ne_none h hs hk'
  rw [Expr.run_iterate]
  cases manner with
  | greedy => exact hrounds _ fun t ht => most_ne_none (hk t ht) _
  | lazy => exact hrounds _ fun t ht => fewest_ne_none (hk t ht) _
  | possessive => exact absurd rfl hmanner

theorem exists_accepts {e : Expr} (h : e.Plain) :
    ∃ text : List Char, text.length = e.least ∧ Accepts e text := by
  induction e with
  | empty => exact ⟨[], rfl, fun rest k s hs hk => hk s hs⟩
  | char test =>
    obtain ⟨c, hc⟩ := h
    refine ⟨[c], rfl, fun rest k s hs hk => ?_⟩
    rw [Expr.run_char, State.advance?_cons hs, if_pos hc]
    exact hk _ (by simp [hs])
  | seq a b iha ihb =>
    obtain ⟨text, hlength, ha⟩ := iha h.1
    obtain ⟨more, hlength', hb⟩ := ihb h.2
    refine ⟨text ++ more, by rw [List.length_append, hlength, hlength', Expr.least_seq],
      fun rest k s hs hk => ?_⟩
    rw [List.append_assoc] at hs
    exact ha _ _ s hs fun t ht => hb _ _ t ht hk
  | iterate manner n greatest body ih =>
    obtain ⟨hmanner, hbody⟩ := h
    have htext : ∃ text : List Char, n * text.length = n * body.least ∧
        (n = 0 ∨ Accepts body text) := by
      rcases hbody with rfl | hbody
      · exact ⟨[], by simp, .inl rfl⟩
      · obtain ⟨text, hlength, haccepts⟩ := ih hbody
        exact ⟨text, by rw [hlength], .inr haccepts⟩
    obtain ⟨text, hlength, haccepts⟩ := htext
    exact ⟨_, by simpa using hlength, accepts_iterate hmanner haccepts⟩
  | group n body ih =>
    obtain ⟨text, hlength, haccepts⟩ := ih h
    exact ⟨text, hlength, fun rest k s hs hk =>
      haccepts rest _ (s.openGroup n) hs fun t ht => hk (t.closeGroup n) ht⟩
  | _ => exact h.elim

theorem plain_ofItems {items : List Expr} (h : ∀ item ∈ items, item.Plain) :
    (Expr.ofItems items).Plain := by
  induction items with
  | nil => trivial
  | cons item items ih =>
    exact ⟨h _ (List.mem_cons_self ..), ih fun item hm => h item (List.mem_cons_of_mem _ hm)⟩

theorem flat_ofItems {items : List Expr} (h : ∀ item ∈ items, item.Flat) :
    (Expr.ofItems items).Flat := by
  induction items with
  | nil => trivial
  | cons item items ih =>
    exact ⟨h _ (List.mem_cons_self ..), ih fun item hm => h item (List.mem_cons_of_mem _ hm)⟩

theorem run_ofItems_append (items more : List Expr) (k : Rest) :
    (Expr.ofItems (items ++ more)).run k = (Expr.ofItems items).run ((Expr.ofItems more).run k) := by
  induction items with
  | nil => rfl
  | cons item items ih => rw [List.cons_append, Expr.ofItems_cons, Expr.ofItems_cons, Expr.run_seq,
      Expr.run_seq, ih]

theorem least_ofItems_append (items more : List Expr) :
    (Expr.ofItems (items ++ more)).least =
      (Expr.ofItems items).least + (Expr.ofItems more).least := by
  induction items with
  | nil => exact (Nat.zero_add _).symm
  | cons item items ih =>
    rw [List.cons_append, Expr.ofItems_cons, Expr.ofItems_cons, Expr.least_seq, Expr.least_seq, ih,
      Nat.add_assoc]

theorem Expr.PlainItems.flat {e : Expr} (h : e.PlainItems) : e.Flat := by
  obtain ⟨items, rfl, hitems⟩ := h
  refine flat_ofItems fun item hm => ?_
  rcases List.mem_append.1 hm with hm | hm
  · exact (hitems item hm).2
  · rw [List.mem_singleton.1 hm]
    trivial

/-- Plain items up to the end match some text of the least length. -/
theorem exists_run_of_plainItems {e : Expr} (h : e.PlainItems) (count : Nat) :
    ∃ path : List Char, path.length = e.least ∧ e.run atEnd (.start path count) ≠ none := by
  obtain ⟨items, rfl, hitems⟩ := h
  obtain ⟨path, hlength, haccepts⟩ :=
    exists_accepts (plain_ofItems fun item hm => (hitems item hm).1)
  refine ⟨path, by rw [least_ofItems_append, hlength]; rfl, ?_⟩
  rw [run_ofItems_append]
  refine haccepts [] _ _ (by simp [State.start]) fun t ht => ?_
  rw [Expr.ofItems_cons, Expr.run_seq, Expr.run_anchor, if_pos (by simp [Anchor.holds, ht])]
  simp [Expr.run_empty, atEnd, ht]

end PathTemplate.Regex
