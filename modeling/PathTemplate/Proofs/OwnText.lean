import PathTemplate.Proofs.Building
import PathTemplate.Proofs.FirstMatch
import PathTemplate.Proofs.Shortest
import PathTemplate.Proofs.Standalone

/-!
# Literals that match their own text

A path is built with the literals as they are, and matched with the literals as source of an
expression. So a path that was built matches if each literal, as an expression, takes its own text,
or a part of it that leaves the rest to the holes beside the literal.

## Main definitions

* `Literal.Takes`: the part of its own text that a literal takes as an expression.
* `Literal.MatchesItself`: a literal takes some part of its own text.

## Main statements

* `accepts_of_splits`: a path that is made of such literals and of pieces for the holes matches.
* `build_accepts`: a path that was built matches.
* `optional_literal_not_accepted`: a path that was built and does not match.
-/

namespace PathTemplate

open Regex (Expr Rest State accepts_code_iff run_ofItems_append run_group_eq_none)

/-! ## One literal -/

/-- Compiled on its own, the literal is an expression without groups. Where its text stands, `e` takes
the middle part of it, whatever follows. The parts in front and behind hold no newline and border on
a hole: nothing is in front of the part that the first literal takes, nor behind that of the last. -/
structure Literal.Takes (isFirst isLast : Bool) (literal : List Char) (e : Expr)
    (front middle back : List Char) : Prop where
  compiled : Regex.compile literal = .ok ⟨literal, 0, e⟩
  text : literal = front ++ middle ++ back
  front_newline : '\n' ∉ front
  back_newline : '\n' ∉ back
  front_eq_nil : isFirst = true → front = []
  back_eq_nil : isLast = true → back = []
  run_ne_none : ∀ (k : Rest) (s : State), front.reverse <+: s.before → middle ++ back <+: s.after →
    (isFirst = true → s.before = []) → (isLast = true → s.after = middle) →
      k (s.past middle) ≠ none → e.run k s ≠ none

/-- As an expression, the literal takes some part of its own text. -/
def Literal.MatchesItself (isFirst isLast : Bool) (literal : List Char) : Prop :=
  ∃ e front middle back, Literal.Takes isFirst isLast literal e front middle back

theorem Hole.Admits.surround {hole : Hole} {value : List Char} (h : hole.Admits value)
    {front back : List Char} (hfront : '\n' ∉ front) (hback : '\n' ∉ back) :
    hole.Admits (front ++ value ++ back) := by
  rw [Hole.admits_iff] at h ⊢
  simp only [List.mem_append, hfront, hback, h.1, List.length_append, or_self, not_false_eq_true,
    true_and]
  omega

/-- A hole takes its piece and what the literals beside it leave to it. -/
theorem run_part_ne_none {hole : Hole} {isLast : Bool} {literal : List Char} {items : List Expr}
    {front middle back before value rest : List Char} {number : Nat} {k : Rest} {s : State}
    (h : Literal.Takes false isLast literal (.ofItems items) front middle back)
    (hs : s.after = before ++ (value ++ literal ++ rest)) (hbefore : '\n' ∉ before)
    (hvalue : hole.Admits value) (hlast : isLast = true → rest = [])
    (hk : k ((s.take number (before ++ value ++ front)).past middle) ≠ none) :
    (Expr.group number hole.body).run ((Expr.ofItems items).run k) s ≠ none := by
  intro hnone
  have hafter : s.after = (before ++ value ++ front) ++ (middle ++ back ++ rest) := by
    simp [hs, h.text]
  have hrun := run_group_eq_none hnone ⟨_, hafter.symm⟩ (hvalue.surround hbefore h.front_newline)
  have hafter' : (s.take number (before ++ value ++ front)).after = middle ++ back ++ rest := by
    simp [hafter]
  have hbehind : (s.take number (before ++ value ++ front)).before =
      (before ++ value ++ front).reverse ++ s.before := rfl
  refine h.run_ne_none k _ ?_ ?_ nofun (fun hl => ?_) hk hrun
  · rw [hbehind, List.reverse_append, List.append_assoc]
    exact List.prefix_append _ _
  · rw [hafter']
    exact List.prefix_append _ _
  · rw [hafter', h.back_eq_nil hl, hlast hl]
    simp

/-! ## All literals -/

/-- Literals that stand between holes or behind the last one match themselves. -/
def HolesMatch (holes : List (Hole × List Char)) : Prop :=
  ∀ before literal after, holes.map (·.2) = before ++ literal :: after →
    Literal.MatchesItself false after.isEmpty literal

/-- The holes have the items of their literals, and these match what the holes are split into. -/
theorem exists_parts {holes : List (Hole × List Char)} (h : HolesMatch holes)
    (halternation : ∀ hole ∈ holes, hasAlternation hole.2 = false) :
    ∃ parts, ReadAsParts holes parts ∧ ∀ (count : Nat) (s : State) (back text : List Char)
      (pieces : List (List Char)), Skeleton.HolesSplit holes text pieces → s.after = back ++ text →
        '\n' ∉ back → (holes = [] → back = []) →
          (Expr.ofItems (partItems count parts)).run Regex.atEnd s ≠ none := by
  induction holes with
  | nil =>
    refine ⟨[], .nil, fun count s back text pieces hsplit hs _ hback => ?_⟩
    rw [(Skeleton.holesSplit_nil_iff.1 hsplit).2, hback rfl] at hs
    rw [partItems, Regex.run_lastLineEnd_atEnd, if_pos (by simpa using hs)]
    simp
  | cons hole holes ih =>
    obtain ⟨hole, literal⟩ := hole
    obtain ⟨e, front, middle, back, htakes⟩ := h [] literal (holes.map (·.2)) rfl
    obtain ⟨items, rfl, hreads⟩ := Literal.exists_readsAs htakes.compiled
      (halternation _ (List.mem_cons_self ..))
    obtain ⟨parts, hparts, hrun⟩ := ih
      (fun before literal' after hsplit => h (literal :: before) literal' after (by simp [hsplit]))
      fun hole hm => halternation hole (List.mem_cons_of_mem _ hm)
    refine ⟨(hole, items) :: parts, .cons ⟨rfl, hreads⟩ hparts,
      fun count s before text pieces hsplit hs hbefore _ => ?_⟩
    obtain ⟨value, rest, others, rfl, rfl, hvalue, hrest⟩ := Skeleton.holesSplit_cons_iff.1 hsplit
    rw [partItems, Expr.ofItems_cons, Expr.run_seq, run_ofItems_append]
    refine run_part_ne_none htakes hs hbefore hvalue (fun hl => ?_) ?_
    · obtain rfl : holes = [] := by simpa using hl
      exact (Skeleton.holesSplit_nil_iff.1 hrest).2
    · refine hrun _ _ back rest others hrest ?_ htakes.back_newline fun hnil => ?_
      · simp [hs, htakes.text]
      · exact htakes.back_eq_nil (by simp [hnil])

theorem Skeleton.hasAlternation_eq_false {s : Skeleton} (h : s.optionalHole? = none) :
    hasAlternation s.lead = false ∧ ∀ hole ∈ s.holes, hasAlternation hole.2 = false := by
  unfold Skeleton.optionalHole? at h
  split at h
  · simp at h
  · next hlead =>
    refine ⟨by simpa using hlead, fun hole hm => ?_⟩
    have hliteral := List.findSome?_eq_none_iff.1 h hole hm
    unfold literalFlaw? at hliteral
    split at hliteral
    · simp at hliteral
    · split at hliteral
      · simp at hliteral
      · next hnone => simpa using hnone

/-- All literals of a skeleton match their own text, the first and the last one where they stand. -/
def Skeleton.MatchesItself (s : Skeleton) : Prop :=
  ∀ before literal after, s.segments = before ++ literal :: after →
    Literal.MatchesItself before.isEmpty after.isEmpty literal

/-- A path that is made of literals that match themselves and of pieces for the holes matches the
expression. -/
theorem Regex.fullMatch?_isSome_of_splits {s : Skeleton} {regex : Regex}
    (h : Template.compileSkeleton s = .ok regex) (hholes : s.holes ≠ []) (hmatches : s.MatchesItself)
    {path : List Char} {pieces : List (List Char)} (hsplit : s.Splits path pieces) :
    (regex.fullMatch? path).isSome := by
  obtain ⟨hcompile, -, hoptional⟩ := Template.compileSkeleton_eq_ok h
  obtain ⟨hlead, hrest⟩ := Skeleton.hasAlternation_eq_false hoptional
  obtain ⟨e, front, middle, back, htakes⟩ := hmatches [] s.lead (s.holes.map (·.2)) rfl
  obtain ⟨items, rfl, hreads⟩ := Literal.exists_readsAs htakes.compiled hlead
  obtain ⟨parts, hparts, hrun⟩ := exists_parts
    (fun before literal after hsegments =>
      hmatches (s.lead :: before) literal after (by simp [Skeleton.segments, hsegments])) hrest
  obtain ⟨text, rfl, hpieces⟩ := Skeleton.splits_iff.1 hsplit
  obtain rfl : front = [] := htakes.front_eq_nil rfl
  have hafter : (State.start (s.lead ++ text) regex.groupCount).after =
      middle ++ back ++ text := by
    simp [State.start, htakes.text]
  rw [Regex.fullMatch?, Option.isSome_map, Option.isSome_iff_ne_none,
    body_eq_of_readsAs hcompile hreads hparts, run_ofItems_append]
  refine htakes.run_ne_none _ _ List.nil_prefix ?_ (fun _ => rfl) (fun hl => ?_) ?_
  · rw [hafter]
    exact List.prefix_append _ _
  · exact absurd hl (by simpa using hholes)
  · exact hrun 0 _ back text pieces hpieces (by simp [hafter]) htakes.back_newline
      fun hnil => absurd hnil hholes

theorem accepts_of_splits {text : String} {t : Template} (ht : Template.compile? text = .ok t)
    (hmatches : t.skeleton.holes ≠ [] → t.skeleton.MatchesItself) {path : String}
    {pieces : List (List Char)} (hsplit : t.skeleton.Splits path.toList pieces) :
    t.accepts path = true := by
  obtain ⟨htext, hskeleton, hexpression⟩ := Template.compile?_eq_ok ht
  cases hregex : t.expression with
  | none =>
    have hholes := (Template.expression_eq_none_iff ht).1 hregex
    have hplain : path.toList = text.toList := by
      rw [← hsplit.2, ← Skeleton.weave_token_scan text.toList, ← hskeleton, Skeleton.thread,
        Skeleton.weave, hholes]
      rfl
    rw [Template.accepts, hregex, htext, String.toList_inj.1 hplain]
    exact beq_self_eq_true text
  | some regex =>
    have hholes : t.skeleton.holes ≠ [] := fun hnil => by
      rw [(Template.expression_eq_none_iff ht).2 hnil] at hregex
      simp at hregex
    rw [Template.accepts, hregex]
    exact Regex.fullMatch?_isSome_of_splits (hexpression regex hregex) hholes (hmatches hholes) hsplit

/-- The path that is built from values with a text and without newlines is made of the literals and
of pieces that the holes admit. -/
theorem exists_splits_of_build {text : String} {t : Template}
    (ht : Template.compile? text = .ok t) {args : Supplied} {entries : List (Value × Value)}
    (hargs : args.Gives entries)
    (hvalues : ∀ pair ∈ args.pairsOf entries,
      pair.2.toText.toList ≠ [] ∧ '\n' ∉ pair.2.toText.toList)
    {path : String} (hpath : (t.build args).result = .ok path) :
    ∃ pieces, t.skeleton.Splits path.toList pieces := by
  obtain ⟨htext, -, -⟩ := Template.compile?_eq_ok ht
  obtain ⟨⟨hwildcard, hperm⟩, -⟩ := (result_build_eq_ok_iff hargs).1 hpath
  have hstar : '*' ∉ text.toList := by simpa [Template.hasWildcard, htext] using hwildcard
  obtain ⟨v, hv, hthread⟩ := toList_of_build ht hargs hpath
  refine ⟨_, ?_, hthread.symm⟩
  rw [Template.parameterNames, Skeleton.names, List.map_map, List.map_map, List.forall₂_map_right_iff,
    List.forall₂_same]
  intro hole hm
  obtain ⟨hnamed, pair, hp, hname⟩ := exists_supplied ht hstar hperm hm
  have hvalue := hvalues pair hp
  rw [← hv pair hp, hname] at hvalue
  rw [hnamed]
  exact ⟨hvalue.2, hvalue.1⟩

/-- A path that was built from values with a text and without newlines matches its template, if the
literals of the template, where it has a hole, match their own text. -/
theorem build_accepts {text : String} {t : Template} (ht : Template.compile? text = .ok t)
    (hmatches : t.skeleton.holes ≠ [] → t.skeleton.MatchesItself) {args : Supplied}
    {entries : List (Value × Value)} (hargs : args.Gives entries)
    (hvalues : ∀ pair ∈ args.pairsOf entries,
      pair.2.toText.toList ≠ [] ∧ '\n' ∉ pair.2.toText.toList)
    {path : String} (hpath : (t.build args).result = .ok path) : t.accepts path = true := by
  obtain ⟨pieces, hsplit⟩ := exists_splits_of_build ht hargs hvalues hpath
  exact accepts_of_splits ht hmatches hsplit

/-- A path in which an optional character is written out, with its mark, does not match. -/
theorem optional_literal_not_accepted :
    ∃ t, Template.compile? "/v1?/{x}" = .ok t ∧
      Supplied.Gives ⟨[], [("x", .text "5")]⟩ [] ∧
      (∀ pair ∈ Supplied.pairsOf ⟨[], [("x", .text "5")]⟩ [],
        pair.2.toText.toList ≠ [] ∧ '\n' ∉ pair.2.toText.toList) ∧
      ∃ path, (t.build ⟨[], [("x", .text "5")]⟩).result = .ok path ∧ t.accepts path = false := by
  have hfacts : (Template.compile? "/v1?/{x}").toOption.map (fun t =>
      ((t.build ⟨[], [("x", .text "5")]⟩).result.toOption, t.accepts "/v1?/5")) =
        some (some "/v1?/5", false) := by
    decide +kernel
  obtain ⟨t, ht, hfacts⟩ := Regex.map_toOption_eq_some.1 hfacts
  obtain ⟨hbuild, haccepts⟩ := Prod.mk.inj hfacts
  rw [Regex.toOption_eq_some] at hbuild
  exact ⟨t, ht, ⟨.pairs [], by simp, by decide⟩, by decide, _, hbuild, haccepts⟩

/-! ## Ordinary characters and dots -/

namespace Literal

def itemOf (c : Char) : Expr :=
  if c = '.' then .char .any else .literal c.toNat

theorem readAll_dotted {literal : List Char}
    (h : ∀ c ∈ literal, isSpecial c = false ∧ c ≠ '*' ∨ c = '.') :
    ∃ tokens, Regex.Token.ofSource? literal = some tokens ∧ ∀ r : Regex.Reader, r.mode = .item →
      r.readAll tokens = .ok { r with
        position := r.position + literal.length
        items := (literal.map itemOf).reverse ++ r.items } := by
  induction literal with
  | nil => exact ⟨[], rfl, fun r _ => rfl⟩
  | cons c rest ih =>
    obtain ⟨tokens, htokens, hread⟩ := ih fun c hc => h c (List.mem_cons_of_mem _ hc)
    have hc := h c (List.mem_cons_self ..)
    have hback : c ≠ '\\' := by
      rintro rfl
      exact absurd hc (by decide)
    have hitem : ∀ r : Regex.Reader, r.feedItem (.plain c) = .ok (r.push (itemOf c)) := by
      intro r
      rcases hc with ⟨hspecial, hstar⟩ | rfl
      · have hdot : c ≠ '.' := by
          rintro rfl
          exact absurd hspecial (by decide)
        rw [itemOf, if_neg hdot]
        exact feedItem_ordinary hspecial hstar r
      · rfl
    refine ⟨.plain c :: tokens, by simp [Regex.Token.ofSource?_plain hback, htokens], fun r hr => ?_⟩
    have hfeed : r.feed (.plain c) =
        .ok { r.push (itemOf c) with position := r.position + 1 } := by
      rw [Regex.Reader.feed, Regex.Reader.step, hr]
      exact congrArg _ (hitem r)
    rw [Regex.Reader.readAll_cons, hfeed, Except.bind, hread _ rfl]
    simp [Regex.Reader.push, hr]
    omega

theorem compile_dotted {literal : List Char}
    (h : ∀ c ∈ literal, isSpecial c = false ∧ c ≠ '*' ∨ c = '.') :
    Regex.compile literal = .ok ⟨literal, 0, .ofItems (literal.map itemOf)⟩ := by
  obtain ⟨tokens, htokens, hread⟩ := readAll_dotted h
  have hcheck : Regex.checkLookbehinds (.ofItems (literal.map itemOf)) = .ok () := by
    rw [Regex.checkLookbehinds, lookbehinds_ofItems, List.flatMap_eq_nil_iff.2]
    · rfl
    · intro e he
      obtain ⟨c, -, rfl⟩ := List.mem_map.1 he
      rw [itemOf]
      split <;> rfl
  refine Regex.compile_eq_ok_iff.2 ⟨tokens, _, _, htokens, hread _ rfl, rfl, ?_, hcheck, rfl, rfl⟩
  rw [Regex.Reader.result_eq_ok_iff, Regex.Reader.alternatives, Regex.Reader.branch,
    Regex.Reader.empty, List.append_nil, List.reverse_reverse]
  exact ⟨rfl, rfl, rfl⟩

theorem run_dotted {literal : List Char} {k : Rest} {s : State} (hs : literal <+: s.after) :
    (Expr.ofItems (literal.map itemOf)).run k s = k (s.past literal) := by
  induction literal generalizing s with
  | nil => rfl
  | cons c rest ih =>
    obtain ⟨tail, htail⟩ := hs
    have ha : s.after = c :: (rest ++ tail) := by simpa using htail.symm
    have hitem : ∀ k : Rest, (itemOf c).run k s = k (s.past [c]) := by
      intro k
      rw [itemOf]
      split
      · next hdot => exact Regex.run_any_cons ha (by simp [hdot]) k
      · rw [Expr.literal, Expr.run_char, State.advance?_cons ha, if_pos (accepts_code_iff.2 rfl)]
        rfl
    rw [List.map_cons, Expr.ofItems_cons, Expr.run_seq, hitem, ih (by simp [ha]), State.past_past,
      List.singleton_append]

theorem matchesItself_of_dotted {literal : List Char}
    (h : ∀ c ∈ literal, isSpecial c = false ∧ c ≠ '*' ∨ c = '.') (isFirst isLast : Bool) :
    MatchesItself isFirst isLast literal := by
  refine ⟨.ofItems (literal.map itemOf), [], literal, [], compile_dotted h, by simp, by simp, by simp,
    fun _ => rfl, fun _ => rfl, fun k s _ hs _ _ hk => ?_⟩
  rwa [run_dotted (by simpa using hs)]

end Literal

/-- A dot that takes itself, and an optional slash at the end that the hole in front of it takes. -/
theorem build_accepts_optional_slash :
    ∃ t, Template.compile? "/a.b/{x}/?" = .ok t ∧ t.skeleton.MatchesItself ∧
      ∃ path, (t.build ⟨[], [("x", .text "5")]⟩).result = .ok path ∧ t.accepts path = true := by
  have hfacts : (Template.compile? "/a.b/{x}/?").toOption.map (fun t =>
      ((t.build ⟨[], [("x", .text "5")]⟩).result.toOption, t.skeleton.segments)) =
        some (some "/a.b/5/?", [['/', 'a', '.', 'b', '/'], ['/', '?']]) := by
    decide +kernel
  obtain ⟨t, ht, hfacts⟩ := Regex.map_toOption_eq_some.1 hfacts
  obtain ⟨hbuild, hsegments⟩ := Prod.mk.inj hfacts
  rw [Regex.toOption_eq_some] at hbuild
  have hslash : Literal.MatchesItself false true ['/', '?'] := by
    refine ⟨.ofItems [.iterate .greedy 0 (some 1) (.literal '/'.toNat)], ['/', '?'], [], [], rfl, rfl,
      by decide, by decide, nofun, fun _ => rfl, fun k s _ _ _ _ hk => ?_⟩
    exact Regex.most_ne_none hk _
  have hmatches : t.skeleton.MatchesItself := by
    intro before literal after h
    rw [hsegments] at h
    rcases before with _ | ⟨_, _ | ⟨_, before⟩⟩
    · obtain ⟨rfl, rfl⟩ := List.cons.inj h
      exact Literal.matchesItself_of_dotted (by simp [Literal.isSpecial]) true false
    · simp only [List.cons_append, List.nil_append, List.cons.injEq] at h
      obtain ⟨rfl, rfl, rfl⟩ := h
      exact hslash
    · simp at h
  exact ⟨t, ht, hmatches, _, hbuild, build_accepts ht (fun _ => hmatches)
    ⟨.pairs [], by simp, by decide⟩ (by decide) hbuild⟩

end PathTemplate
