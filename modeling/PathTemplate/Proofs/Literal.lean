import PathTemplate.Proofs.Reading

/-!
# Literals that stand for plain text

The literals of a template are source of an expression. A literal without any construct, in which
special characters occur only behind a backslash, stands for just one text.

## Main definitions

* `Literal.isSpecial`: the characters with a meaning in an expression.
* `Literal.denotes?`: the text that a literal stands for, if it has no construct.
* `Skeleton.Denotes`: all literals of a skeleton stand for texts.

## Main statements

* `Literal.readAll_tokens`: reading such a literal adds the tests of its text.
* `compile_source`: the expression of a skeleton with such literals.
-/

namespace PathTemplate

open Regex (Expr Reader Token literalItems holeItems skeletonBody)

namespace Literal

/-- A character with a meaning in an expression. The star is none of these, since it is a hole. -/
def isSpecial (c : Char) : Bool :=
  ['\\', '.', '^', '$', '+', '?', '{', '}', '[', ']', '|', '(', ')'].contains c

/-- The text that a literal stands for, if it consists of ordinary characters and of special ones
behind a backslash. -/
def denotes? : List Char → Option (List Char)
  | [] => some []
  | '\\' :: c :: rest => if isSpecial c then (denotes? rest).map (c :: ·) else none
  | c :: rest =>
    if isSpecial c || c == '*' || c == ':' then none else (denotes? rest).map (c :: ·)

/-- An ordinary character is none of the characters that a reader treats in a way of their own. -/
theorem feedItem_ordinary {c : Char} (hs : isSpecial c = false) (hstar : c ≠ '*') (r : Reader) :
    r.feedItem (.plain c) = .ok (r.push (.literal c.toNat)) := by
  simp only [isSpecial, List.contains_eq_mem, List.mem_cons, List.not_mem_nil, or_false,
    decide_eq_false_iff_not, not_or] at hs
  unfold Reader.feedItem
  split <;> simp_all

theorem feedItem_escaped {c : Char} (hs : isSpecial c = true) (r : Reader) :
    r.feedItem (.escaped c) = .ok (r.push (.literal c.toNat)) := by
  simp only [isSpecial, List.contains_eq_mem, List.mem_cons, List.not_mem_nil, or_false,
    decide_eq_true_eq] at hs
  rcases hs with rfl | rfl | rfl | rfl | rfl | rfl | rfl | rfl | rfl | rfl | rfl | rfl | rfl <;> rfl

/-- Reading a literal that stands for a text adds the tests of the text. -/
theorem readAll_tokens {literal text : List Char} (h : denotes? literal = some text) :
    ∃ tokens, Token.ofSource? literal = some tokens ∧ ∀ r : Reader, r.mode = .item →
      r.readAll tokens = .ok { r with
        position := r.position + literal.length
        items := (literalItems text).reverse ++ r.items } := by
  fun_induction denotes? literal generalizing text with
  | case1 =>
    obtain rfl := Option.some.inj h
    exact ⟨[], rfl, fun r _ => rfl⟩
  | case2 c rest hc ih =>
    obtain ⟨text, ht, rfl⟩ := Option.map_eq_some_iff.1 h
    obtain ⟨tokens, htokens, hread⟩ := ih ht
    refine ⟨.escaped c :: tokens, by simp [Token.ofSource?_escaped, htokens], fun r hr => ?_⟩
    have hfeed : r.feed (.escaped c) =
        .ok { r.push (.literal c.toNat) with position := r.position + 2 } := by
      rw [Reader.feed, Reader.step, hr]
      exact congrArg _ (feedItem_escaped hc r)
    rw [Reader.readAll_cons, hfeed, Except.bind, hread _ rfl]
    simp [literalItems, Reader.push, hr]
    omega
  | case3 => simp at h
  | case4 => simp at h
  | case5 c rest hbs hc ih =>
    obtain ⟨text, ht, rfl⟩ := Option.map_eq_some_iff.1 h
    obtain ⟨tokens, htokens, hread⟩ := ih ht
    simp only [Bool.or_eq_true, beq_iff_eq, not_or, Bool.not_eq_true] at hc
    have hback : c ≠ '\\' := by
      rintro rfl
      exact absurd hc.1.1 (by decide)
    refine ⟨.plain c :: tokens, by simp [Token.ofSource?_plain hback, htokens], fun r hr => ?_⟩
    have hfeed : r.feed (.plain c) =
        .ok { r.push (.literal c.toNat) with position := r.position + 1 } := by
      rw [Reader.feed, Reader.step, hr]
      exact congrArg _ (feedItem_ordinary hc.1.1 hc.1.2 r)
    rw [Reader.readAll_cons, hfeed, Except.bind, hread _ rfl]
    simp [literalItems, Reader.push, hr]
    omega

theorem denotes?_self {literal : List Char}
    (h : ∀ c ∈ literal, isSpecial c = false ∧ c ≠ '*' ∧ c ≠ ':') :
    denotes? literal = some literal := by
  induction literal with
  | nil => rfl
  | cons c rest ih =>
    obtain ⟨hspecial, hstar, hcolon⟩ := h c (List.mem_cons_self ..)
    have hback : c ≠ '\\' := by
      rintro rfl
      exact absurd hspecial (by decide)
    rw [denotes?.eq_def]
    split
    · simp_all
    · simp_all
    · simp_all

theorem beginsWithQuantifier_eq_false {literal text : List Char}
    (h : denotes? literal = some text) : beginsWithQuantifier literal = false := by
  unfold denotes? at h
  unfold beginsWithQuantifier
  split at h <;> split <;> simp_all [isSpecial]

theorem hasAlternation_cons {c : Char} (hbar : c ≠ '|') (hback : c ≠ '\\') (rest : List Char) :
    hasAlternation (c :: rest) = hasAlternation rest := by
  rw [hasAlternation.eq_def]
  split <;> simp_all

theorem hasAlternation_eq_false {literal text : List Char} (h : denotes? literal = some text) :
    hasAlternation literal = false := by
  fun_induction denotes? literal generalizing text with
  | case1 => rfl
  | case2 c rest hc ih =>
    obtain ⟨text, ht, -⟩ := Option.map_eq_some_iff.1 h
    simpa [hasAlternation] using ih ht
  | case3 => simp at h
  | case4 => simp at h
  | case5 c rest hbs hc ih =>
    obtain ⟨text, ht, -⟩ := Option.map_eq_some_iff.1 h
    rw [hasAlternation_cons, ih ht]
    all_goals
      rintro rfl
      exact hc (by decide)

theorem literalFlaw?_eq_none {literal text : List Char} (h : denotes? literal = some text) :
    literalFlaw? literal = none := by
  simp [literalFlaw?, beginsWithQuantifier_eq_false h, hasAlternation_eq_false h]

theorem colon_not_mem {literal text : List Char} (h : denotes? literal = some text) :
    ':' ∉ literal := by
  fun_induction denotes? literal generalizing text with
  | case1 => simp
  | case2 c rest hc ih =>
    obtain ⟨text, ht, -⟩ := Option.map_eq_some_iff.1 h
    have hcolon : ':' ≠ c := by
      rintro rfl
      exact absurd hc (by decide)
    simp [hcolon, ih ht]
  | case3 => simp at h
  | case4 => simp at h
  | case5 c rest hbs hc ih =>
    obtain ⟨text, ht, -⟩ := Option.map_eq_some_iff.1 h
    simp only [Bool.or_eq_true, beq_iff_eq, not_or] at hc
    simp [Ne.symm hc.2, ih ht]

end Literal

namespace Skeleton

/-- The literals of the one skeleton stand for the texts that are the literals of the other. -/
def Denotes (s d : Skeleton) : Prop :=
  Literal.denotes? s.lead = some d.lead ∧
    List.Forall₂ (fun a b => a.1 = b.1 ∧ Literal.denotes? a.2 = some b.2) s.holes d.holes

theorem Denotes.segments {s d : Skeleton} (h : s.Denotes d) {literal : List Char}
    (hl : literal ∈ s.segments) : ∃ text, Literal.denotes? literal = some text := by
  rcases List.mem_cons.1 hl with rfl | hl
  · exact ⟨_, h.1⟩
  · obtain ⟨hole, hmem, rfl⟩ := List.mem_map.1 hl
    obtain ⟨i, hi, rfl⟩ := List.getElem_of_mem hmem
    exact ⟨_, (h.2.get hi (h.2.length_eq ▸ hi)).2⟩

theorem Denotes.length_holes {s d : Skeleton} (h : s.Denotes d) :
    s.holes.length = d.holes.length :=
  h.2.length_eq

theorem Denotes.optionalHole? {s d : Skeleton} (h : s.Denotes d) : s.optionalHole? = none := by
  have halt := Literal.hasAlternation_eq_false h.1
  simp only [Skeleton.optionalHole?, halt, Bool.false_eq_true, if_false, List.findSome?_eq_none_iff]
  intro hole hmem
  obtain ⟨text, ht⟩ := h.segments (List.mem_cons_of_mem _ (List.mem_map_of_mem hmem))
  exact Literal.literalFlaw?_eq_none ht

end Skeleton

/-- Reading the holes of a skeleton with such literals, and the anchor behind them. -/
theorem readAll_holes {holes texts : List (Hole × List Char)}
    (h : List.Forall₂ (fun a b => a.1 = b.1 ∧ Literal.denotes? a.2 = some b.2) holes texts) :
    ∃ tokens, Token.ofSource?
        ((holes.flatMap fun hole => hole.1.groupSource ++ hole.2) ++ ['$']) = some tokens ∧
      ∀ r : Reader, r.mode = .item → ∃ position, r.readAll tokens = .ok { r with
        position := position
        items := (holeItems r.groupCount texts).reverse ++ r.items
        groups := r.groups ++ texts.map fun text => some text.1.width } := by
  induction h with
  | nil =>
    refine ⟨[.plain '$'], rfl, fun r hr => ⟨r.position + 1, ?_⟩⟩
    rw [Reader.readAll_cons, Reader.feed, Reader.step, hr]
    simp [Reader.feedItem, Reader.push, Except.map, Except.bind, holeItems, Token.width]
  | @cons hole text holes texts hht _ ih =>
    obtain ⟨hole, literal⟩ := hole
    obtain ⟨_, text⟩ := text
    obtain ⟨rfl, hd⟩ := hht
    obtain ⟨more, hmore, hreadMore⟩ := ih
    obtain ⟨tokens, htokens, hread⟩ := Literal.readAll_tokens hd
    refine ⟨hole.tokens ++ (tokens ++ more), ?_, fun r hr => ?_⟩
    · rw [List.flatMap_cons, List.append_assoc, List.append_assoc,
        Token.ofSource?_append hole.ofSource?_groupSource, Token.ofSource?_append htokens, hmore]
      rfl
    · obtain ⟨position, hp⟩ := hreadMore { (r.pushHole hole) with
        position := r.position + 5 + literal.length
        items := (literalItems text).reverse ++ (r.pushHole hole).items } rfl
      refine ⟨position, ?_⟩
      rw [Reader.readAll_append, Reader.readAll_hole (Reader.between?_item hr _) rfl, Except.bind,
        Reader.readAll_append, hread _ rfl, Except.bind]
      refine hp.trans ?_
      simp [Reader.pushHole, Reader.groupCount, holeItems, hr]

@[simp] theorem lookbehinds_ofItems (items : List Expr) :
    (Expr.ofItems items).lookbehinds = items.flatMap Expr.lookbehinds := by
  induction items with
  | nil => rfl
  | cons e items ih => rw [Expr.ofItems_cons, Expr.lookbehinds, ih, List.flatMap_cons]

theorem lookbehinds_skeletonBody (d : Skeleton) : (skeletonBody d).lookbehinds = [] := by
  have hliteral : ∀ text, ∀ e ∈ literalItems text, e.lookbehinds = [] := by
    intro text e he
    obtain ⟨c, -, rfl⟩ := List.mem_map.1 he
    rfl
  have hholes : ∀ holes count, ∀ e ∈ holeItems count holes, e.lookbehinds = [] := by
    intro holes
    induction holes with
    | nil => simp [holeItems, Expr.lookbehinds]
    | cons hole holes ih =>
      intro count e he
      simp only [holeItems, List.mem_cons, List.mem_append] at he
      rcases he with rfl | he | he
      · cases hole.1 <;> rfl
      · exact hliteral _ _ he
      · exact ih _ _ he
  refine (lookbehinds_ofItems _).trans (List.flatMap_eq_nil_iff.2 fun e he => ?_)
  rcases List.mem_append.1 he with he | he
  · exact hliteral _ _ he
  · exact hholes _ _ _ he

/-- The expression of a skeleton of which the literals stand for texts. -/
theorem compile_source {s d : Skeleton} (h : s.Denotes d) :
    Regex.compile s.source = .ok ⟨s.source, d.holes.length, skeletonBody d⟩ := by
  obtain ⟨first, hfirst, hread⟩ := Literal.readAll_tokens h.1
  obtain ⟨more, hmore, hreadMore⟩ := readAll_holes h.2
  have htokens : Token.ofSource? s.source = some (first ++ more) := by
    rw [Skeleton.source, Skeleton.weave, List.append_assoc, Token.ofSource?_append hfirst, hmore]
    rfl
  obtain ⟨position, hp⟩ := hreadMore { Reader.empty with
    position := s.lead.length
    items := (literalItems d.lead).reverse } rfl
  have hcheck : Regex.checkLookbehinds (skeletonBody d) = .ok () := by
    rw [Regex.checkLookbehinds, lookbehinds_skeletonBody]
    rfl
  have hread : Reader.empty.readAll (first ++ more) = .ok { Reader.empty with
      position := position
      items := (literalItems d.lead ++ holeItems 0 d.holes).reverse
      groups := d.holes.map fun text => some text.1.width } := by
    rw [Reader.readAll_append, hread _ rfl, Except.bind]
    refine Eq.trans ?_ (hp.trans ?_)
    · simp [Reader.empty]
    · simp [Reader.empty, Reader.groupCount]
  refine Regex.compile_eq_ok_iff.2 ⟨_, _, _, htokens, hread, rfl, ?_, hcheck, rfl, ?_⟩
  · rw [Reader.result_eq_ok_iff, skeletonBody, Reader.alternatives, Reader.branch,
      List.reverse_reverse]
    exact ⟨rfl, rfl, rfl⟩
  · simp [Reader.groupCount]

end PathTemplate
