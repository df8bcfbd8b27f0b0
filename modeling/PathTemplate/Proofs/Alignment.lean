import Mathlib.Data.List.Nodup
import Mathlib.Data.List.Perm.Subperm
import PathTemplate.Proofs.Acceptance
import PathTemplate.Proofs.Names
import PathTemplate.Proofs.Spans

/-!
# Groups and holes

The names of a template are paired with the groups of its expression by number. It is checked that
there are as many groups as holes, but not that the groups are those of the holes: a literal can
swallow the group of a hole, and another can open a group of its own. If no literal swallows a
group, their count leaves no room for groups of literals, and each group is that of its hole.

## Main definitions

* `Skeleton.holeSpans`, `Skeleton.holeStarts`: where the groups of the holes stand in the source.
* `Skeleton.holeGroups`: the groups of the holes, by number.
* `Skeleton.Aligned`: each group is that of its hole.

## Main statements

* `Skeleton.slice_holeSpans`: what stands in the source there.
* `Reader.ReadsHoles.exists_split`: reading up to a hole whose group opens, and through its group.
* `Reader.ReadsHoles.closing_eq`: the groups that close are those of the holes.
* `groups_aligned_iff`: when each group is that of its hole.
* `swallowed_hole_misaligned`: a template for which one is not.
-/

namespace PathTemplate

open Regex (Expr Reader Span Token captures_perm_range sourceSpans sourceOpenings)

namespace Skeleton

/-- The groups of holes, the first of which begins at `start`, numbered from `count + 1`. -/
def holeSpansFrom (count start : Nat) : List (Hole × List Char) → List Span
  | [] => []
  | (hole, literal) :: holes =>
    let stop := start + hole.groupSource.length
    ⟨count + 1, start, stop⟩ :: holeSpansFrom (count + 1) (stop + literal.length) holes

def holeSpans (s : Skeleton) : List Span :=
  holeSpansFrom 0 s.lead.length s.holes

def holeStartsFrom (start : Nat) : List (Hole × List Char) → List Nat
  | [] => []
  | (hole, literal) :: holes =>
    start :: holeStartsFrom (start + hole.groupSource.length + literal.length) holes

def holeStarts (s : Skeleton) : List Nat :=
  holeStartsFrom s.lead.length s.holes

/-- The source behind a literal: the groups of the holes, and the anchor. -/
def holesSource (holes : List (Hole × List Char)) : List Char :=
  (holes.flatMap fun hole => hole.1.groupSource ++ hole.2) ++ ['$']

theorem source_eq (s : Skeleton) : s.source = s.lead ++ holesSource s.holes := by
  rw [source, weave, holesSource, List.append_assoc]

theorem holesSource_cons (hole : Hole) (literal : List Char) (holes : List (Hole × List Char)) :
    holesSource ((hole, literal) :: holes) =
      hole.groupSource ++ (literal ++ holesSource holes) := by
  simp [holesSource]

theorem map_start_holeSpansFrom (count start : Nat) (holes : List (Hole × List Char)) :
    (holeSpansFrom count start holes).map (·.start) = holeStartsFrom start holes := by
  induction holes generalizing count start with
  | nil => rfl
  | cons hole holes ih => rw [holeSpansFrom, holeStartsFrom, List.map_cons, ih]

def holeGroupsFrom (count : Nat) : List (Hole × List Char) → List (Nat × Expr)
  | [] => []
  | (hole, _) :: holes => (count + 1, hole.body) :: holeGroupsFrom (count + 1) holes

def holeGroups (s : Skeleton) : List (Nat × Expr) :=
  holeGroupsFrom 0 s.holes

theorem map_fst_holeGroupsFrom (count : Nat) (holes : List (Hole × List Char)) :
    (holeGroupsFrom count holes).map (·.1) = List.range' (count + 1) holes.length := by
  induction holes generalizing count with
  | nil => rfl
  | cons hole holes ih =>
    rw [holeGroupsFrom, List.map_cons, ih, List.length_cons, List.range'_succ]

theorem slice_holeSpansFrom (count : Nat) (before : List Char)
    (holes : List (Hole × List Char)) :
    (holeSpansFrom count before.length holes).map
        (fun span => ((before ++ holesSource holes).drop span.start).take (span.stop - span.start)) =
      holes.map (·.1.groupSource) := by
  induction holes generalizing count before with
  | nil => rfl
  | cons head holes ih =>
    obtain ⟨hole, literal⟩ := head
    have hlater := ih (count + 1) (before ++ hole.groupSource ++ literal)
    rw [List.length_append, List.length_append] at hlater
    rw [holeSpansFrom, List.map_cons, List.map_cons, ← hlater, holesSource_cons,
      List.drop_left, Nat.add_sub_cancel_left, List.take_left]
    simp only [List.append_assoc]

/-- The source has the groups of the holes where they are said to stand. -/
theorem slice_holeSpans (s : Skeleton) :
    s.holeSpans.map (fun span => (s.source.drop span.start).take (span.stop - span.start)) =
      s.holes.map (·.1.groupSource) := by
  rw [source_eq]
  exact slice_holeSpansFrom 0 s.lead s.holes

theorem le_of_mem_holeStartsFrom {start place : Nat} {holes : List (Hole × List Char)}
    (h : place ∈ holeStartsFrom start holes) : start ≤ place := by
  induction holes generalizing start with
  | nil => simp [holeStartsFrom] at h
  | cons hole holes ih =>
    rcases List.mem_cons.1 h with rfl | h
    · exact Nat.le_refl _
    · have hle := ih h
      omega

end Skeleton

open Skeleton (holesSource holeSpansFrom holeStartsFrom holeGroupsFrom)

namespace Regex.Reader

variable {r r₁ r₀ final : Reader} {tokens : List Token}

/-- Behind its first parenthesis a hole's group has no other that opens, and none that closes before
the last character. -/
theorem ne_of_mem_tail_tokens (hole : Hole) :
    ∀ t ∈ hole.tokens.tail.take 3, t ≠ .plain '(' ∧ t ≠ .plain ')' := by
  cases hole with
  | wildcard => decide
  | param name =>
    change ∀ t ∈ [Token.plain '.', .plain '+', .plain '?'], t ≠ .plain '(' ∧ t ≠ .plain ')'
    decide

theorem trace_closing?_hole (h : r₁.between? (.plain '(') = some r₀) (hole : Hole) :
    r₁.trace closing? hole.tokens = [⟨r₀.groupCount + 1, r₁.position, r₁.position + 5⟩] := by
  have hp := (position_between? h).1
  have hmiddle : ∀ t ∈ hole.tokens.tail.take 3, ∀ r : Reader, r.closing? t = none :=
    fun t ht r => if_neg (ne_of_mem_tail_tokens hole t ht).2
  have hclosing : (r₀.insideHole hole).closing? (.plain ')') =
      some ⟨r₀.groupCount + 1, r₀.position, r₀.position + 5⟩ := rfl
  rw [tokens_hole, trace_cons (feed_open h hp), trace_append (readAll_insideHole r₀ hole),
    trace_eq_nil hmiddle, trace_cons (feed_insideHole r₀ hole), hclosing, hp]
  rfl

theorem trace_opening?_hole (h : r₁.between? (.plain '(') = some r₀) (hole : Hole) :
    r₁.trace opening? hole.tokens = [r₁.position] := by
  have hp := (position_between? h).1
  have hopening : r₁.opening? (.plain '(') = some r₁.position := by
    rw [opening?, if_pos rfl, h]
    rfl
  rw [tokens_hole, trace_cons (feed_open h hp), trace_eq_nil, hopening]
  · rfl
  · intro t ht r
    rcases List.mem_append.1 ht with ht | ht
    · exact if_neg (ne_of_mem_tail_tokens hole t ht).1
    · rw [List.mem_singleton.1 ht]
      rfl

/-- Reading a literal and the holes behind it, each of whose groups opens. -/
structure ReadsHoles (r final : Reader) (lead : List Char) (holes : List (Hole × List Char))
    (tokens : List Token) : Prop where
  source : Token.ofSource? (lead ++ holesSource holes) = some tokens
  read : r.readAll tokens = .ok final
  fit : r.BranchesFit
  opens : ∀ place ∈ holeStartsFrom (r.position + lead.length) holes,
    place ∈ r.trace opening? tokens

namespace ReadsHoles

variable {lead literal : List Char} {hole : Hole} {holes : List (Hole × List Char)}

/-- Reading up to a hole whose group opens, and through its group. -/
theorem exists_split (h : ReadsHoles r final lead ((hole, literal) :: holes) tokens) :
    ∃ before rest r₁ r₀, tokens = before ++ (hole.tokens ++ rest) ∧ r.readAll before = .ok r₁ ∧
      r₁.position = r.position + lead.length ∧ r₁.between? (.plain '(') = some r₀ ∧
      ReadsHoles (r₀.pushHole hole) final literal holes rest := by
  have hfirst : r.position + lead.length ∈ r.trace opening? tokens :=
    h.opens _ (List.mem_cons_self ..)
  obtain ⟨before, t, behind, r₁, rfl, hbefore, ho⟩ := exists_split_of_mem_trace h.read hfirst
  obtain ⟨rfl, hplace, r₀, hb⟩ := opening?_eq_some ho
  obtain ⟨hp, -⟩ := position_between? hb
  obtain ⟨suffix, hsource, hsuffix⟩ := Token.ofSource?_suffix h.source
  have hlength : lead.length = (before.flatMap Token.text).length := by
    have hposition := position_readAll hbefore
    omega
  obtain ⟨-, rfl⟩ := List.append_inj hsource hlength
  rw [Skeleton.holesSource_cons, Token.ofSource?_append hole.ofSource?_groupSource] at hsuffix
  obtain ⟨rest, hrest, heq⟩ := Option.map_eq_some_iff.1 hsuffix
  have hread := h.read
  have hopens := h.opens
  rw [← heq, readAll_append, hbefore, Except.bind, readAll_append, readAll_hole hb hp] at hread
  rw [← heq, trace_append hbefore, trace_append (readAll_hole hb hp hole),
    trace_opening?_hole hb] at hopens
  refine ⟨before, rest, r₁, r₀, by rw [heq], hbefore, hplace.symm, hb, hrest, hread, ?_, ?_⟩
  · have hedits : Edits (fun _ => True) r r₀ :=
      (readAll_edits hbefore).tail (edits_between? hb).anywhere
    exact hedits.branchesFit h.fit
  · -- The later groups stand behind this one, so it is there that they open.
    intro place hmem
    have hposition : (r₀.pushHole hole).position = r.position + lead.length + 5 := by
      rw [pushHole, hp, ← hplace]
    rw [hposition] at hmem
    have hlater := Skeleton.le_of_mem_holeStartsFrom hmem
    have hin := hopens place (List.mem_cons_of_mem _ (by rwa [hole.length_groupSource]))
    rcases List.mem_append.1 hin with hin | hin
    · have hbounds := bounds_of_opening hbefore hin
      omega
    · rcases List.mem_cons.1 hin with rfl | hin
      · omega
      · exact hin

/-- Where groups are opened up to a hole, and by it. -/
theorem groupCount_pushHole {before : List Token} (hbefore : r.readAll before = .ok r₁)
    (hb : r₁.between? (.plain '(') = some r₀) (hole : Hole) :
    r.groupCount ≤ r₁.groupCount ∧ r₁.groupCount ≤ r₀.groupCount ∧
      (r₀.pushHole hole).groupCount = r₀.groupCount + 1 := by
  have hedits := readAll_edits hbefore
  have hleave : Edits r₁.HeaderAt r₁ r₀ := .single (edits_between? hb)
  refine ⟨hedits.groupCount_le, hleave.groupCount_le, ?_⟩
  simp [pushHole, groupCount]

/-- There are at least as many groups as holes. -/
theorem groupCount_add_le (h : ReadsHoles r final lead holes tokens) :
    r.groupCount + holes.length ≤ final.groupCount := by
  induction holes generalizing r lead tokens with
  | nil => exact (readAll_edits h.read).groupCount_le
  | cons head holes ih =>
    obtain ⟨before, rest, r₁, r₀, -, hbefore, -, hb, hrest⟩ := h.exists_split
    have hcount := groupCount_pushHole hbefore hb head.1
    have hlater := ih hrest
    rw [List.length_cons]
    omega

/-- If there are no more groups than holes, the groups that close are those of the holes. -/
theorem closing_eq (h : ReadsHoles r final lead holes tokens) (hopen : r.openNumbers = [])
    (hcount : final.groupCount = r.groupCount + holes.length) :
    r.trace closing? tokens = holeSpansFrom r.groupCount (r.position + lead.length) holes ∧
      holeGroupsFrom r.groupCount holes ⊆ final.captures := by
  induction holes generalizing r lead tokens with
  | nil =>
    exact ⟨trace_closing?_eq_nil h.fit hopen h.read hcount, List.nil_subset _⟩
  | cons head holes ih =>
    obtain ⟨hole, literal⟩ := head
    obtain ⟨before, rest, r₁, r₀, rfl, hbefore, hplace, hb, hrest⟩ := h.exists_split
    obtain ⟨hle₁, hle₀, hpush⟩ := groupCount_pushHole hbefore hb hole
    have hlater := hrest.groupCount_add_le
    rw [List.length_cons] at hcount
    -- The holes that follow need the groups that are left, so none was opened on the way here.
    have hcount₁ : r₁.groupCount = r.groupCount := by omega
    have hcount₀ : r₀.groupCount = r.groupCount := by omega
    have hedits := readAll_edits hbefore
    have hleave : Edits r₁.HeaderAt r₁ r₀ := .single (edits_between? hb)
    have hfit₁ := hedits.branchesFit h.fit
    have hopen₁ := hedits.openNumbers_eq_nil h.fit hopen hcount₁
    have hopen₀ := hleave.openNumbers_eq_nil hfit₁ hopen₁ (by omega)
    obtain ⟨hp, -⟩ := position_between? hb
    obtain ⟨hspans, hgroups⟩ := ih hrest hopen₀ (by omega)
    rw [hpush, hcount₀] at hspans hgroups
    constructor
    · have hposition : (r₀.pushHole hole).position = r.position + lead.length + 5 := by
        rw [pushHole, hp, hplace]
      rw [trace_append hbefore, trace_closing?_eq_nil h.fit hopen hbefore hcount₁,
        trace_append (readAll_hole hb hp hole), trace_closing?_hole hb, hspans, hposition,
        holeSpansFrom, hole.length_groupSource, hplace, hcount₀]
      rfl
    · refine List.cons_subset.2 ⟨?_, hgroups⟩
      refine (readAll_edits hrest.read).captures_subset hrest.fit ?_
      rw [captures, pushHole, capturesOf_cons, Expr.captures, hcount₀]
      exact List.mem_append_left _ (List.mem_append_left _ (List.mem_cons_self ..))

end ReadsHoles

end Regex.Reader

namespace Regex

/-- A group begins at a parenthesis that opens something. -/
theorem start_mem_sourceOpenings {source : List Char} {tokens : List Token} {final : Reader}
    (htokens : Token.ofSource? source = some tokens)
    (hread : Reader.empty.readAll tokens = .ok final) {span : Span}
    (h : span ∈ sourceSpans source) : span.start ∈ sourceOpenings source := by
  have hnone : Reader.empty.StartsIn fun _ => False :=
    ⟨fun _ hf => (List.not_mem_nil hf).elim, fun _ ⟨_, hm⟩ => by simp [Reader.empty] at hm⟩
  rw [sourceSpans, htokens] at h
  rw [sourceOpenings, htokens]
  exact (Reader.start_of_closing hnone hread h).resolve_left id

end Regex

/-- The groups of an expression are those of the holes if they include them and are no more. -/
theorem Regex.captures_perm_holeGroups {s : Skeleton} {source : List Char} {regex : Regex}
    (h : Regex.compile source = .ok regex) (hcount : regex.groupCount = s.holes.length)
    (hsubset : s.holeGroups ⊆ regex.body.captures) : regex.body.captures.Perm s.holeGroups := by
  have hnumbers := Skeleton.map_fst_holeGroupsFrom 0 s.holes
  have hnodup : s.holeGroups.Nodup := by
    refine List.Nodup.of_map Prod.fst ?_
    rw [Skeleton.holeGroups, hnumbers]
    exact List.nodup_range'
  have hlength : regex.body.captures.length ≤ s.holeGroups.length := by
    have hrange := (captures_perm_range h).length_eq
    have hlist := congrArg List.length hnumbers
    rw [List.length_map, List.length_range'] at hrange hlist
    exact Nat.le_of_eq ((hrange.trans hcount).trans hlist.symm)
  exact ((hnodup.subperm hsubset).perm_of_length_le hlength).symm

namespace Skeleton

/-- The groups of an expression are those of the holes, each with the number of its hole, where it
stands in the source, and what it holds. -/
structure Aligned (s : Skeleton) (regex : Regex) : Prop where
  spans : sourceSpans regex.source = s.holeSpans
  groups : regex.body.captures.Perm s.holeGroups

/-- If there are as many groups as holes, the groups are those of the holes just if each of these
opens. -/
theorem aligned_iff {s : Skeleton} {regex : Regex} (h : Regex.compile s.source = .ok regex)
    (hholes : regex.groupCount = s.holes.length) :
    s.Aligned regex ↔ ∀ place ∈ s.holeStarts, place ∈ sourceOpenings regex.source := by
  obtain ⟨tokens, reader, settled, hsource, htokens, hread, hsettle, hframes, hcount, hbody⟩ :=
    Regex.compile_eq_ok h
  have hcaptures : regex.body.captures.Perm settled.captures :=
    hbody ▸ Reader.captures_alternatives hframes
  constructor
  · intro haligned place hplace
    rw [holeStarts, ← map_start_holeSpansFrom 0] at hplace
    obtain ⟨span, hspan, rfl⟩ := List.mem_map.1 hplace
    refine Regex.start_mem_sourceOpenings (hsource ▸ htokens) hread ?_
    rw [haligned.spans]
    exact hspan
  · intro hopens
    rw [hsource, sourceOpenings, htokens] at hopens
    have hreads : Reader.empty.ReadsHoles reader s.lead s.holes tokens := by
      refine ⟨by rw [← source_eq, htokens], hread, Reader.empty_branchesFit, ?_⟩
      rwa [show Reader.empty.position = 0 from rfl, Nat.zero_add]
    have hfit := (Regex.Reader.readAll_edits hread).branchesFit Reader.empty_branchesFit
    have hsettled := Regex.Reader.settle_edits hsettle
    have hle := hsettled.groupCount_le
    have hall := hreads.groupCount_add_le
    have hempty : Reader.empty.groupCount = 0 := rfl
    obtain ⟨hspans, hgroups⟩ := hreads.closing_eq rfl (by omega)
    rw [hempty] at hspans hgroups
    have hsubset : s.holeGroups ⊆ regex.body.captures := fun p hp =>
      hcaptures.symm.subset (hsettled.captures_subset hfit (hgroups hp))
    constructor
    · rw [hsource, sourceSpans, htokens, holeSpans, ← Nat.zero_add s.lead.length]
      exact hspans
    · exact Regex.captures_perm_holeGroups h hholes hsubset

end Skeleton

/-- Each group of the expression is that of its hole just if the parenthesis of every hole opens
something, so that no literal swallows it. A name is paired, either way, with what the group captured
that has the number of the last hole with that name. -/
theorem groups_aligned_iff {text : String} {t : Template} {regex : Regex}
    (ht : Template.compile? text = .ok t) (hregex : t.expression = some regex) :
    (t.skeleton.Aligned regex ↔
      ∀ place ∈ t.skeleton.holeStarts, place ∈ sourceOpenings regex.source) ∧
    ∀ path bindings, t.extract path = .ok bindings →
      ∃ s : Regex.State, regex.body.Leads (.start path.toList regex.groupCount) s ∧ s.after = [] ∧
        ∀ name value, (name, value) ∈ bindings ↔
          ∃ i, LastNamed (t.skeleton.holes.map (·.1)) i name.toList ∧
            value = (s.captured? (i + 1)).map String.ofList := by
  obtain ⟨-, -, hexpression⟩ := Template.compile?_eq_ok ht
  obtain ⟨hcompile, hholes, -⟩ := Template.compileSkeleton_eq_ok (hexpression regex hregex)
  exact ⟨Skeleton.aligned_iff hcompile hholes,
    fun path bindings h => Template.mem_bindings_iff hregex hholes h⟩

/-- A literal swallows the parenthesis of the hole, and its own group takes the hole's number. -/
theorem swallowed_hole_misaligned :
    ∃ t regex, Template.compile? "/(b\\{x}" = .ok t ∧ t.expression = some regex ∧
      sourceSpans regex.source = [⟨1, 1, 9⟩] ∧ t.skeleton.holeSpans = [⟨1, 4, 9⟩] ∧
      ¬t.skeleton.Aligned regex ∧ t.extract "/b(zz" = .ok [("x", some "b(zz")] := by
  have hspans : (Template.compile? "/(b\\{x}").toOption.map (fun t =>
      (t.expression.map fun regex => sourceSpans regex.source, t.skeleton.holeSpans)) =
        some (some [⟨1, 1, 9⟩], [⟨1, 4, 9⟩]) := by
    decide +kernel
  have hextract : (Template.compile? "/(b\\{x}").toOption.map (·.extract "/b(zz") =
      some (.ok [("x", some "b(zz")]) := by
    decide +kernel
  obtain ⟨t, ht, hspans⟩ := Regex.map_toOption_eq_some.1 hspans
  obtain ⟨hspans, hholes⟩ := Prod.mk.inj hspans
  obtain ⟨regex, hregex, hspans⟩ := Option.map_eq_some_iff.1 hspans
  rw [ht] at hextract
  refine ⟨t, regex, ht, hregex, hspans, hholes, fun haligned => ?_, Option.some.inj hextract⟩
  have hsame := haligned.spans
  rw [hspans, hholes] at hsame
  exact absurd hsame (by decide)

/-- Parentheses of literals that open nothing leave the groups of the holes alone. -/
theorem groups_aligned_parentheses :
    ∃ t regex, Template.compile? "/{a}[(]{b}\\)" = .ok t ∧ t.expression = some regex ∧
      t.skeleton.Aligned regex := by
  have hfacts : (Template.compile? "/{a}[(]{b}\\)").toOption.map (fun t =>
      t.expression.map fun regex =>
        decide (∀ place ∈ t.skeleton.holeStarts, place ∈ sourceOpenings regex.source)) =
          some (some true) := by
    decide +kernel
  obtain ⟨t, ht, hfacts⟩ := Regex.map_toOption_eq_some.1 hfacts
  obtain ⟨regex, hregex, hopens⟩ := Option.map_eq_some_iff.1 hfacts
  exact ⟨t, regex, ht, hregex, (groups_aligned_iff ht hregex).1.2 (of_decide_eq_true hopens)⟩

end PathTemplate
