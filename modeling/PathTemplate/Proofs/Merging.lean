import PathTemplate.Proofs.Weaving

/-!
# One scan for two kinds of token

A rule that finds what either of two others finds makes one pass over a text where they make one
each. The tokens of the one pass are those of the other two in order, provided that a token of either
kind hides none of the other: inside it, the other rule finds nothing. Stars and names in braces are
such kinds, since no name has a star and no star begins a name.

## Main definitions

* `Text.Find.map`: another value for a token at the same place.
* `Text.mergeFinds`: two lists of tokens as one, by where they start.
* `Text.Unites`: a rule finds what either of two others finds, and they hide nothing from each other.

## Main statements

* `Text.pairwise_findsFrom`: no two tokens of a scan overlap.
* `Text.Unites.finds_eq`: the tokens of the united rule.
* `unites_holeRule`: holes are stars and names in braces.
* `finds_holeRule_eq_merge`: the holes of a text.
-/

namespace PathTemplate

namespace Text

variable {α β γ : Type} {rule : Rule α} {start : Nat} {c : Char} {rest : List Char}

def Find.map (f : α → β) (x : Find α) : Find β :=
  ⟨x.start, x.stop, f x.value⟩

/-! ## The tokens of one scan -/

/-- A stretch in which nothing is found is passed by. -/
theorem findsFrom_append_of_none {lead : List Char}
    (h : ∀ i < lead.length, rule ((lead ++ rest).drop i) = none) :
    findsFrom start (pieces rule (lead ++ rest)) =
      findsFrom (start + lead.length) (pieces rule rest) := by
  induction lead generalizing start with
  | nil => rfl
  | cons c lead ih =>
    have hfirst : rule (c :: (lead ++ rest)) = none := h 0 (by simp)
    have hothers : ∀ i < lead.length, rule ((lead ++ rest).drop i) = none := by
      intro i hi
      exact h (i + 1) (by simpa using hi)
    rw [List.cons_append, findsFrom_pieces_of_none hfirst, ih hothers, List.length_cons,
      Nat.add_assoc, Nat.add_comm 1]

/-- A rule that finds nothing inside a token of another rule goes on behind it. -/
theorem findsFrom_pieces_of_clear {more : Nat}
    (h : ∀ i ≤ more, rule ((c :: rest).drop i) = none) :
    findsFrom start (pieces rule (c :: rest)) =
      findsFrom (start + (c :: rest.take more).length) (pieces rule (rest.drop more)) := by
  have htext : c :: rest = (c :: rest.take more) ++ rest.drop more := by simp
  rw [htext] at h
  conv_lhs => rw [htext]
  refine findsFrom_append_of_none fun i hi => h i ?_
  rw [List.length_cons, List.length_take] at hi
  omega

theorem le_start_of_mem_findsFrom {ps : List (Piece α)} {x : Find α} (h : x ∈ findsFrom start ps) :
    start ≤ x.start := by
  fun_induction findsFrom start ps with
  | case1 => simp at h
  | case2 start _ rest ih => exact Nat.le_of_succ_le (ih h)
  | case3 start value text rest ih =>
    rcases List.mem_cons.1 h with rfl | h
    · exact Nat.le_refl start
    · exact Nat.le_trans (Nat.le_add_right ..) (ih h)

theorem pairwise_findsFrom (start : Nat) (ps : List (Piece α)) :
    (findsFrom start ps).Pairwise fun x y => x.stop ≤ y.start := by
  fun_induction findsFrom start ps with
  | case1 => exact .nil
  | case2 start _ rest ih => exact ih
  | case3 start value text rest ih =>
    exact .cons (fun _ hy => le_start_of_mem_findsFrom hy) ih

theorem start_lt_stop_of_mem_finds {text : List Char} {x : Find α} (h : x ∈ finds rule text) :
    x.start < x.stop := by
  revert h
  rw [finds]
  generalize 0 = start
  revert start
  refine pieces_induction
    (P := fun _ ps => ∀ start, x ∈ findsFrom start ps → x.start < x.stop) ?_ ?_ ?_ text
  · intro start h
    simp [findsFrom] at h
  · intro c rest _ ih start h
    exact ih (start + 1) h
  · intro c rest value more _ ih start h
    rcases List.mem_cons.1 h with rfl | h
    · simp
    · exact ih _ h

/-! ## The tokens of two scans -/

def mergeFinds (xs ys : List (Find α)) : List (Find α) :=
  List.merge xs ys fun x y => x.start ≤ y.start

theorem mergeFinds_cons_left {x : Find α} {xs ys : List (Find α)}
    (h : ∀ y ∈ ys, x.start ≤ y.start) : mergeFinds (x :: xs) ys = x :: mergeFinds xs ys := by
  cases ys with
  | nil => simp [mergeFinds]
  | cons y ys =>
    have hle : decide (x.start ≤ y.start) = true := by simpa using h y (List.mem_cons_self ..)
    exact List.cons_merge_cons_pos _ _ _ hle

theorem mergeFinds_cons_right {y : Find α} {xs ys : List (Find α)}
    (h : ∀ x ∈ xs, y.start < x.start) : mergeFinds xs (y :: ys) = y :: mergeFinds xs ys := by
  cases xs with
  | nil => simp [mergeFinds]
  | cons x xs =>
    have hlt : ¬decide (x.start ≤ y.start) = true := by simpa using h x (List.mem_cons_self ..)
    exact List.cons_merge_cons_neg _ _ _ hlt

/-- A rule finds what either of two others finds. Inside a token of one of them the other finds
nothing. -/
structure Unites (both : Rule γ) (first : Rule α) (second : Rule β) (f : α → γ) (g : β → γ) :
    Prop where
  eq_or : ∀ text, both text =
    ((first text).map fun found => (f found.1, found.2)).or
      ((second text).map fun found => (g found.1, found.2))
  second_clear : ∀ {text value more}, first text = some (value, more) →
    ∀ i ≤ more, second (text.drop i) = none
  first_clear : ∀ {text value more}, second text = some (value, more) →
    ∀ i ≤ more, first (text.drop i) = none

variable {both : Rule γ} {first : Rule α} {second : Rule β} {f : α → γ} {g : β → γ}

theorem Unites.eq_none (h : Unites both first second f g) {text : List Char}
    (hnone : both text = none) : first text = none ∧ second text = none := by
  rw [h.eq_or, Option.or_eq_none_iff] at hnone
  simpa using hnone

/-- What the united rule finds is a token of one of the others, which the other goes past. -/
theorem Unites.eq_some (h : Unites both first second f g) {text : List Char} {value : γ}
    {more : Nat} (hsome : both text = some (value, more)) :
    (∃ v, first text = some (v, more) ∧ f v = value ∧ ∀ i ≤ more, second (text.drop i) = none) ∨
      ∃ v, second text = some (v, more) ∧ g v = value ∧ ∀ i ≤ more, first (text.drop i) = none := by
  rw [h.eq_or, Option.or_eq_some_iff] at hsome
  rcases hsome with hfirst | ⟨-, hsecond⟩
  · obtain ⟨⟨v, n⟩, hfound, heq⟩ := Option.map_eq_some_iff.1 hfirst
    obtain ⟨rfl, rfl⟩ := Prod.mk.inj heq
    exact .inl ⟨v, hfound, rfl, h.second_clear hfound⟩
  · obtain ⟨⟨v, n⟩, hfound, heq⟩ := Option.map_eq_some_iff.1 hsecond
    obtain ⟨rfl, rfl⟩ := Prod.mk.inj heq
    exact .inr ⟨v, hfound, rfl, h.first_clear hfound⟩

/-- The tokens of the united rule are those of the two others in order. -/
theorem Unites.finds_eq (h : Unites both first second f g) (text : List Char) :
    finds both text =
      mergeFinds ((finds first text).map (Find.map f)) ((finds second text).map (Find.map g)) := by
  -- The induction is on the pass of the united rule. A token of one kind is the next of its own pass,
  -- and the other pass has come no further than behind it.
  simp only [finds]
  generalize 0 = start
  revert start
  refine pieces_induction (P := fun text ps => ∀ start, findsFrom start ps =
    mergeFinds ((findsFrom start (pieces first text)).map (Find.map f))
      ((findsFrom start (pieces second text)).map (Find.map g))) ?_ ?_ ?_ text
  · intro start
    simp [findsFrom, mergeFinds]
  · intro c rest hnone ih start
    obtain ⟨hfirst, hsecond⟩ := h.eq_none hnone
    rw [findsFrom_pieces_of_none hfirst, findsFrom_pieces_of_none hsecond, findsFrom]
    exact ih (start + 1)
  · intro c rest value more hsome ih start
    have hpos : start < start + (c :: rest.take more).length := by
      rw [List.length_cons]
      omega
    rw [findsFrom, ih]
    rcases h.eq_some hsome with ⟨v, hfound, rfl, hclear⟩ | ⟨v, hfound, rfl, hclear⟩
    · rw [findsFrom_pieces_of_some hfound, findsFrom_pieces_of_clear hclear, List.map_cons,
        mergeFinds_cons_left]
      · rfl
      · intro y hy
        obtain ⟨x, hx, rfl⟩ := List.mem_map.1 hy
        have hbehind := le_start_of_mem_findsFrom hx
        exact Nat.le_trans (Nat.le_of_lt hpos) hbehind
    · rw [findsFrom_pieces_of_some hfound, findsFrom_pieces_of_clear hclear, List.map_cons,
        mergeFinds_cons_right]
      · rfl
      · intro x hx
        obtain ⟨y, hy, rfl⟩ := List.mem_map.1 hx
        have hbehind := le_start_of_mem_findsFrom hy
        exact Nat.lt_of_lt_of_le hpos hbehind

end Text

open Text (finds Find Unites isWord)

/-! ## Stars and names in braces -/

theorem star_not_mem_token {name : List Char} (h : name.all isWord = true) :
    '*' ∉ (Hole.param name).token := by
  have hstar : '*' ∉ name := not_mem_of_all_isWord h (by decide)
  simpa [Hole.token] using hstar

theorem wildcardRule_drop {lead : List Char} (h : '*' ∉ lead) (rest : List Char) {i : Nat}
    (hi : i < lead.length) : wildcardRule ((lead ++ rest).drop i) = none := by
  rw [List.drop_append_of_le_length (Nat.le_of_lt hi), List.drop_eq_getElem_cons hi,
    List.cons_append]
  exact wildcardRule_eq_none (ne_of_mem_of_not_mem (List.getElem_mem hi) h) _

theorem holeRule_of_paramRule {text name : List Char} {more : Nat}
    (h : paramRule text = some (name, more)) : holeRule text = some (.param name, more) := by
  have htake := (delimitedRule_eq_some h).1
  cases text with
  | nil => simp at htake
  | cons c rest =>
    obtain ⟨rfl, -⟩ := List.cons.inj htake
    rw [holeRule_of_ne_star (by decide), h]
    rfl

/-- Holes are stars and names in braces. Neither hides the other. -/
theorem unites_holeRule :
    Unites holeRule wildcardRule paramRule (fun _ => .wildcard) .param where
  eq_or text := by
    unfold holeRule
    cases wildcardRule text <;> rfl
  second_clear {text value more} h i hi := by
    unfold wildcardRule at h
    split at h
    · obtain ⟨-, rfl⟩ := Prod.mk.inj (Option.some.inj h)
      obtain rfl := Nat.le_zero.1 hi
      rfl
    · simp at h
  first_clear {text name more} h i hi := by
    obtain ⟨hproper, ⟨rest, rfl⟩, rfl⟩ := holeRule_eq_some_iff.1 (holeRule_of_paramRule h)
    refine wildcardRule_drop (star_not_mem_token hproper.2) rest ?_
    simp only [Hole.token, List.length_cons, List.length_append] at hi ⊢
    omega

/-- The holes of a text are its names in braces and its stars, in order. No two of them overlap. -/
theorem finds_holeRule_eq_merge (text : List Char) :
    finds holeRule text =
      List.merge ((finds wildcardRule text).map (Find.map fun _ => .wildcard))
        ((finds paramRule text).map (Find.map .param)) (fun x y => x.start ≤ y.start) ∧
    (finds holeRule text).Pairwise (fun x y => x.stop ≤ y.start) ∧
    ∀ x ∈ finds holeRule text, x.start < x.stop :=
  ⟨unites_holeRule.finds_eq text, Text.pairwise_findsFrom .., fun _ hx =>
    Text.start_lt_stop_of_mem_finds hx⟩

/-- Braces that enclose more than a word hide nothing. -/
example : (finds holeRule "{*{a}*}".toList).map (fun x => (x.start, x.stop, x.value)) =
    [(1, 2, .wildcard), (2, 5, .param ['a']), (5, 6, .wildcard)] := by
  decide +kernel

end PathTemplate
