import PathTemplate.Proofs.Alignment
import PathTemplate.Proofs.InContext
import PathTemplate.Proofs.Literal

/-!
# Literals that are expressions of their own

A literal without alternatives that can be compiled on its own, without groups, is read in the same
way between the holes of a template. If all literals are such, the expression of the template is
made of theirs and of the groups of the holes.

## Main definitions

* `Literal.ReadsAs`: a literal that adds the same items wherever an item may begin.
* `partItems`: the items behind the first literal, given those of the literals.

## Main statements

* `Literal.exists_readsAs`: a literal that is compiled on its own is such a literal.
* `body_eq_of_readsAs`: the expression of a skeleton of such literals.
-/

namespace PathTemplate

open Regex (Expr Reader Token)

theorem bar_not_mem {literal : List Char} {tokens : List Token}
    (h : Token.ofSource? literal = some tokens) (halternation : hasAlternation literal = false) :
    .plain '|' ∉ tokens := by
  fun_induction Token.ofSource? literal generalizing tokens with
  | case1 =>
    obtain rfl := Option.some.inj h
    simp
  | case2 c rest ih =>
    obtain ⟨ts, hts, rfl⟩ := Option.map_eq_some_iff.1 h
    simpa using ih hts (by simpa [hasAlternation] using halternation)
  | case3 => simp at h
  | case4 c rest hback hc ih =>
    obtain ⟨ts, hts, rfl⟩ := Option.map_eq_some_iff.1 h
    have hbar : c ≠ '|' := by
      rintro rfl
      simp [hasAlternation] at halternation
    rw [Literal.hasAlternation_cons hbar hc] at halternation
    simpa [Ne.symm hbar] using ih hts halternation

namespace Regex

namespace Reader

/-- The reader has gone on from between two items to between two others, and has added some. -/
structure Adds (base : Reader) (items : List Expr) (r : Reader) : Prop where
  mode : r.mode = .item
  items : r.items = items.reverse ++ base.items
  branches : r.branches = base.branches
  frames : r.frames = base.frames

/-- The reader has come to where the group of a hole and the anchor are items of their own, and has
added some items and no group. -/
def StandsBehind (base : Reader) (items : List Expr) (r : Reader) : Prop :=
  ∀ c, c = '(' ∨ c = '$' →
    ∃ r₀, r.between? (.plain c) = some r₀ ∧ base.Adds items r₀ ∧ r₀.groups = base.groups

theorem follows_empty {base : Reader} (h : base.mode = .item) : Follows base empty base :=
  ⟨h ▸ .item, .bottom (List.forall_mem_nil _), rfl, rfl, rfl, nofun⟩

/-- A reader that is done on its own, with no group open, has added its items. -/
theorem Follows.adds {base own r : Reader} (h : Follows base own r) (hmode : own.mode = .item)
    (hframes : own.frames = []) : base.Adds own.items.reverse r := by
  obtain ⟨-, hbranches, hitems, hframes'⟩ := h.nest.of_frames_eq_nil hframes
  refine ⟨?_, ?_, hbranches, hframes'⟩
  · have halike := h.mode
    rw [hmode] at halike
    generalize r.mode = mode at halike ⊢
    cases halike
    rfl
  · rw [List.reverse_reverse]
    exact hitems

end Reader

end Regex

namespace Literal

/-- A literal that adds the same items wherever an item may begin. -/
def ReadsAs (literal : List Char) (items : List Expr) : Prop :=
  ∃ tokens, Token.ofSource? literal = some tokens ∧ ∀ base r : Reader, base.mode = .item →
    base.readAll tokens = .ok r → base.StandsBehind items r

/-- A literal that can be compiled on its own, without groups or alternatives, has the same items
wherever it stands. -/
theorem exists_readsAs {literal : List Char} {e : Expr}
    (h : Regex.compile literal = .ok ⟨literal, 0, e⟩)
    (halternation : hasAlternation literal = false) :
    ∃ items, e = .ofItems items ∧ ReadsAs literal items := by
  obtain ⟨tokens, own, settled, -, htokens, hread, hsettle, hframes, hcount, hbody⟩ :=
    Regex.compile_eq_ok h
  have hsettled : settled.groups = [] := List.eq_nil_of_length_eq_zero hcount.symm
  have hown : own.groups = [] :=
    Reader.groups_eq_nil (Reader.settle_edits hsettle).groupCount_le hsettled
  have hfollows : ∀ base r : Reader, base.mode = .item → base.readAll tokens = .ok r →
      base.Follows own r := fun base r hbase hr =>
    Reader.agree_readAll (Reader.follows_empty hbase) (bar_not_mem htokens halternation) own r hread
      hr hown
  refine ⟨settled.items.reverse, ?_, tokens, htokens, fun base r hbase hr c hc => ?_⟩
  · -- The literal behind nothing at all shows that it has one alternative.
    obtain ⟨_, -, hnest⟩ := Reader.exists_between? (hfollows .empty own rfl hread) hsettle (.inl rfl)
    obtain ⟨hbranches, -⟩ := hnest.nest.of_frames_eq_nil hframes
    have hbranches : settled.branches = [] := hbranches
    change e = _ at hbody
    rw [hbody, Reader.alternatives, hbranches]
    rfl
  · obtain ⟨r₀, hbetween, hr₀⟩ := Reader.exists_between? (hfollows base r hbase hr) hsettle hc
    exact ⟨r₀, hbetween, hr₀.adds rfl hframes, hr₀.groups⟩

end Literal

/-! ## The expression of a template -/

/-- The items of an expression behind those of its first literal: a group for each hole, numbered
from `count + 1`, the items of the literal behind it, and the anchor for the end. -/
def partItems (count : Nat) : List (Hole × List Expr) → List Expr
  | [] => [.anchor .lastLineEnd]
  | (hole, items) :: parts => .group (count + 1) hole.body :: (items ++ partItems (count + 1) parts)

/-- The holes of the parts are those of a skeleton, and their items are those of its literals. -/
def ReadAsParts (holes : List (Hole × List Char)) (parts : List (Hole × List Expr)) : Prop :=
  List.Forall₂ (fun hole part => hole.1 = part.1 ∧ Literal.ReadsAs hole.2 part.2) holes parts

theorem readAll_parts {holes : List (Hole × List Char)} {parts : List (Hole × List Expr)}
    (h : ReadAsParts holes parts) :
    ∃ tokens, Token.ofSource? (Skeleton.holesSource holes) = some tokens ∧
      ∀ (base r final : Reader) (lead : List Expr), base.StandsBehind lead r →
        r.readAll tokens = .ok final →
          base.Adds (lead ++ partItems base.groupCount parts) final := by
  induction h with
  | nil =>
    refine ⟨[.plain '$'], rfl, fun base r final lead hlead hread => ?_⟩
    obtain ⟨r₀, hbetween, hadds, -⟩ := hlead '$' (.inr rfl)
    obtain ⟨next, hfeed, hfinal⟩ := Regex.bind_eq_ok.1 hread
    obtain rfl := Except.ok.inj hfinal
    obtain ⟨stepped, hstep, rfl⟩ := Regex.map_eq_ok.1 hfeed
    rw [Reader.step_of_between? hbetween] at hstep
    obtain rfl := Except.ok.inj hstep
    refine ⟨rfl, ?_, hadds.branches, hadds.frames⟩
    simp [Reader.push, partItems, hadds.items]
  | @cons hole part holes parts hpart _ ih =>
    obtain ⟨hole, literal⟩ := hole
    obtain ⟨_, items⟩ := part
    obtain ⟨rfl, own, hown, hreads⟩ := hpart
    obtain ⟨more, hmore, hrest⟩ := ih
    refine ⟨hole.tokens ++ (own ++ more), ?_, fun base r final lead hlead hread => ?_⟩
    · rw [Skeleton.holesSource_cons, Token.ofSource?_append hole.ofSource?_groupSource,
        Token.ofSource?_append hown, hmore]
      rfl
    · obtain ⟨r₀, hbetween, hadds, hgroups⟩ := hlead '(' (.inl rfl)
      rw [Reader.readAll_append, Reader.readAll_hole hbetween (Reader.position_between? hbetween).1,
        Except.bind, Reader.readAll_append] at hread
      obtain ⟨middle, hmiddle, hfinal⟩ := Regex.bind_eq_ok.1 hread
      have hall := hrest _ _ _ _ (hreads (r₀.pushHole hole) middle rfl hmiddle) hfinal
      have hcount : (r₀.pushHole hole).groupCount = base.groupCount + 1 := by
        simp [Reader.pushHole, Reader.groupCount, hgroups]
      rw [hcount] at hall
      refine ⟨hall.mode, ?_, hall.branches.trans hadds.branches, hall.frames.trans hadds.frames⟩
      rw [hall.items]
      simp [Reader.pushHole, partItems, hadds.items, Reader.groupCount, hgroups]

/-- The expression of a skeleton is made of the items of its literals and of the groups of its holes,
if each literal has the same items wherever it stands. -/
theorem body_eq_of_readsAs {s : Skeleton} {regex : Regex}
    (h : Regex.compile s.source = .ok regex) {lead : List Expr} {parts : List (Hole × List Expr)}
    (hlead : Literal.ReadsAs s.lead lead) (hparts : ReadAsParts s.holes parts) :
    regex.body = .ofItems (lead ++ partItems 0 parts) := by
  obtain ⟨tokens, reader, settled, -, htokens, hread, hsettle, -, -, hbody⟩ := Regex.compile_eq_ok h
  obtain ⟨own, hown, hreads⟩ := hlead
  obtain ⟨more, hmore, hrest⟩ := readAll_parts hparts
  rw [Skeleton.source_eq, Token.ofSource?_append hown, hmore] at htokens
  obtain rfl := Option.some.inj htokens
  rw [Reader.readAll_append] at hread
  obtain ⟨middle, hmiddle, hfinal⟩ := Regex.bind_eq_ok.1 hread
  have hadds := hrest _ _ _ _ (hreads .empty middle rfl hmiddle) hfinal
  rw [Reader.settle, hadds.mode] at hsettle
  obtain rfl := Except.ok.inj hsettle
  rw [hbody, Reader.alternatives, hadds.branches, Reader.branch, hadds.items]
  simp [Reader.empty, Reader.groupCount]

end PathTemplate
