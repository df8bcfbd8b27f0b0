import PathTemplate.Proofs.Edits

/-!
# The numbers of the groups

Groups are numbered from one in the order in which they open. At any time each number given so far
belongs to exactly one group, which is open or has been closed, so the groups of an expression have
just the numbers up to their count.

## Main definitions

* `Reader.BranchesFit`: no condition has more than one finished alternative.
* `Reader.Numbered`: each number given so far belongs to one group.

## Main statements

* `Reader.Edit.outcome`: what a change does to the groups.
* `Reader.Edits.numbered`: reading keeps both.
* `compile_eq_ok`: an expression is made of what its reader has read.
* `captures_perm_range`: the numbers of the groups of an expression.
-/

namespace PathTemplate.Regex

namespace Reader

/-- A condition has at most one finished alternative, and so have those around it. -/
def branchesFit : List Frame → List Expr → Prop
  | [], _ => True
  | frame :: frames, branches =>
    (∀ number, frame.kind = .conditional number → branches.length ≤ 1) ∧
      branchesFit frames frame.branches

def BranchesFit (r : Reader) : Prop :=
  branchesFit r.frames r.branches

/-- Each number given so far belongs to one group, which has been closed or is open. -/
def Numbered (r : Reader) : Prop :=
  (r.captures.map Prod.fst ++ r.openNumbers).Perm (List.range' 1 r.groupCount)

theorem captures_branch (r : Reader) : r.branch.captures = capturesOf r.items.reverse :=
  captures_ofItems _

theorem capturesOf_alternatives (r : Reader) :
    (capturesOf r.alternatives).Perm (capturesOf r.items ++ capturesOf r.branches) := by
  refine (capturesOf_reverse _).trans ?_
  rw [capturesOf_cons, captures_branch]
  exact (capturesOf_reverse _).append_right _

/-- A closed group holds the groups of its alternatives, and is one itself if it captures. -/
theorem captures_frameExpr (r : Reader) {es : List Expr} {kind : FrameKind}
    (h : ∀ number, kind = .conditional number → es.length ≤ 2) :
    (r.frameExpr es kind).captures =
      (kind.number?.map fun number => (number, Expr.ofBranches es)).toList ++ capturesOf es := by
  cases kind with
  | capture number => simp [frameExpr, FrameKind.number?, Expr.captures]
  | atomic => simp [frameExpr, FrameKind.number?, Expr.captures]
  | lookahead negated => simp [frameExpr, FrameKind.number?, Expr.captures]
  | lookbehind negated outermost => simp [frameExpr, FrameKind.number?, Expr.captures]
  | conditional number =>
    have hlength := h number rfl
    rcases es with _ | ⟨yes, _ | ⟨no, _ | ⟨more, es⟩⟩⟩
    · rfl
    · simp [frameExpr, FrameKind.number?, Expr.captures]
    · simp [frameExpr, FrameKind.number?, Expr.captures]
    · simp at hlength

variable {allowed : Nat → Prop} {r r' : Reader}

theorem captures_closeFrame (h : r.closeFrame = .ok r') (hfit : r.BranchesFit) :
    ∃ frame frames, r.frames = frame :: frames ∧ r'.frames = frames ∧
      r'.branches = frame.branches ∧ r'.groupCount = r.groupCount ∧
      r'.captures.Perm ((frame.kind.number?.map fun number =>
        (number, Expr.ofBranches r.alternatives)).toList ++ r.captures) := by
  obtain ⟨frame, frames, hframes, hframes', hbranches, hitems, hcount, -⟩ := closeFrame_eq_ok h
  refine ⟨frame, frames, hframes, hframes', hbranches, hcount, ?_⟩
  have halternatives : ∀ number, frame.kind = .conditional number →
      r.alternatives.length ≤ 2 := by
    rw [BranchesFit, hframes] at hfit
    intro number hkind
    simpa [alternatives] using hfit.1 number hkind
  rw [captures, captures, hitems, hbranches, hframes', capturesOf_cons,
    captures_frameExpr r halternatives, hframes, List.flatMap_cons, frameCaptures]
  have hperm := (capturesOf_alternatives r).append_right
    (capturesOf frame.items ++ capturesOf frame.branches ++ frames.flatMap frameCaptures)
  simpa only [List.append_assoc] using hperm.append_left _

/-- What a change does to the groups: nothing, or it opens the group with the next number, or it
closes the innermost group. -/
theorem Edit.outcome (h : Edit allowed r r') (hfit : r.BranchesFit) :
    (r'.captures.Perm r.captures ∧ r'.openNumbers = r.openNumbers ∧
      r'.groupCount = r.groupCount) ∨
    (r'.captures.Perm r.captures ∧ r'.openNumbers = (r.groupCount + 1) :: r.openNumbers ∧
      r'.groupCount = r.groupCount + 1) ∨
    (∃ number body, r'.captures.Perm ((number, body) :: r.captures) ∧
      r.openNumbers = number :: r'.openNumbers ∧ r'.groupCount = r.groupCount) := by
  cases h with
  | keep frames branches count items =>
    refine .inl ⟨?_, ?_, count⟩
    · rw [captures, captures, frames, branches]
      exact (items.append_right _).append_right _
    · rw [openNumbers, openNumbers, frames]
  | branch h =>
    obtain ⟨rfl, -⟩ := nextBranch_eq_ok h
    refine .inl ⟨?_, rfl, rfl⟩
    rw [captures, captures, capturesOf_nil, List.nil_append, capturesOf_cons, captures_branch]
    exact ((capturesOf_reverse _).append_right _).append_right _
  | openFrame hs hkind frames branches items count =>
    refine .inl ⟨?_, ?_, count⟩
    · rw [captures, captures, frames, branches, items]
      exact .refl _
    · rw [openNumbers, openNumbers, frames, List.filterMap_cons, hkind]
  | openCapture hs frames branches items count =>
    refine .inr (.inl ⟨?_, ?_, count⟩)
    · rw [captures, captures, frames, branches, items]
      exact .refl _
    · rw [openNumbers, openNumbers, frames]
      rfl
  | close h =>
    obtain ⟨frame, frames, hframes, hframes', -, hcount, hcaptures⟩ := captures_closeFrame h hfit
    rw [openNumbers, openNumbers, hframes, hframes', List.filterMap_cons]
    cases hkind : frame.kind.number? with
    | none =>
      rw [hkind] at hcaptures
      exact .inl ⟨hcaptures, rfl, hcount⟩
    | some number =>
      rw [hkind] at hcaptures
      exact .inr (.inr ⟨number, _, hcaptures, rfl, hcount⟩)

theorem Edit.branchesFit (h : Edit allowed r r') (hfit : r.BranchesFit) : r'.BranchesFit := by
  cases h with
  | keep frames branches _ _ => rwa [BranchesFit, frames, branches]
  | branch h =>
    obtain ⟨rfl, hcond⟩ := nextBranch_eq_ok h
    rw [BranchesFit] at hfit ⊢
    cases hframes : r.frames with
    | nil => trivial
    | cons frame frames =>
      rw [hframes] at hfit
      refine ⟨fun number hkind => ?_, hfit.2⟩
      rw [hcond frame frames number hframes hkind]
      exact Nat.le_refl _
  | openFrame _ _ frames branches _ _ =>
    rw [BranchesFit, frames, branches]
    exact ⟨fun _ _ => Nat.zero_le _, hfit⟩
  | openCapture _ frames branches _ _ =>
    rw [BranchesFit, frames, branches]
    exact ⟨fun _ _ => Nat.zero_le _, hfit⟩
  | close h =>
    obtain ⟨frame, frames, hframes, hframes', hbranches, -⟩ := captures_closeFrame h hfit
    rw [BranchesFit, hframes] at hfit
    rw [BranchesFit, hframes', hbranches]
    exact hfit.2

theorem Edit.numbered (h : Edit allowed r r') (hfit : r.BranchesFit) (hr : r.Numbered) :
    r'.Numbered := by
  rw [Numbered] at hr ⊢
  rcases h.outcome hfit with ⟨hc, ho, hn⟩ | ⟨hc, ho, hn⟩ | ⟨number, body, hc, ho, hn⟩
  · rw [ho, hn]
    exact ((hc.map _).append_right _).trans hr
  · have hnew := (hc.map Prod.fst).append_right ((r.groupCount + 1) :: r.openNumbers)
    rw [ho, hn, List.range'_1_concat, Nat.add_comm 1]
    exact (hnew.trans List.perm_middle).trans ((hr.cons _).trans (List.perm_append_singleton _ _).symm)
  · rw [hn]
    have hclosed := (hc.map Prod.fst).append_right r'.openNumbers
    rw [ho] at hr
    exact (hclosed.trans List.perm_middle.symm).trans hr

theorem Edits.numbered (h : Edits allowed r r') (hfit : r.BranchesFit) (hr : r.Numbered) :
    r'.BranchesFit ∧ r'.Numbered := by
  induction h with
  | refl => exact ⟨hfit, hr⟩
  | tail _ hedit ih => exact ⟨hedit.branchesFit ih.1, hedit.numbered ih.1 ih.2⟩

theorem Edits.branchesFit (h : Edits allowed r r') (hfit : r.BranchesFit) : r'.BranchesFit := by
  induction h with
  | refl => exact hfit
  | tail _ hedit ih => exact hedit.branchesFit ih

theorem Edits.captures_subset (h : Edits allowed r r') (hfit : r.BranchesFit) :
    r.captures ⊆ r'.captures := by
  induction h with
  | refl => exact fun _ hp => hp
  | tail hedits hedit ih =>
    intro p hp
    rcases hedit.outcome (Edits.branchesFit hedits hfit) with ⟨hc, -⟩ | ⟨hc, -⟩ | ⟨_, _, hc, -⟩
    · exact hc.symm.subset (ih hp)
    · exact hc.symm.subset (ih hp)
    · exact hc.symm.subset (List.mem_cons_of_mem _ (ih hp))

theorem Edits.openNumbers_eq_nil (h : Edits allowed r r') (hfit : r.BranchesFit)
    (hopen : r.openNumbers = []) (hcount : r'.groupCount = r.groupCount) :
    r'.openNumbers = [] := by
  induction h with
  | refl => exact hopen
  | tail hedits hedit ih =>
    have hle := Edits.groupCount_le hedits
    have hmiddle := Edits.branchesFit hedits hfit
    rcases hedit.outcome hmiddle with ⟨-, ho, hn⟩ | ⟨-, -, hn⟩ | ⟨_, _, -, ho, hn⟩
    · rw [ho]
      exact ih (by omega)
    · omega
    · rw [ih (by omega)] at ho
      simp at ho

theorem captures_alternatives (hframes : r.frames = []) :
    (Expr.ofBranches r.alternatives).captures.Perm r.captures := by
  rw [captures_ofBranches, captures, hframes, List.flatMap_nil, List.append_nil]
  exact capturesOf_alternatives r

theorem empty_branchesFit : empty.BranchesFit := trivial

theorem empty_numbered : empty.Numbered := .refl _

end Reader

theorem compile_eq_ok {source : List Char} {regex : Regex} (h : compile source = .ok regex) :
    ∃ tokens reader settled, regex.source = source ∧ Token.ofSource? source = some tokens ∧
      Reader.empty.readAll tokens = .ok reader ∧ reader.settle = .ok settled ∧
      settled.frames = [] ∧ regex.groupCount = settled.groupCount ∧
      regex.body = .ofBranches settled.alternatives := by
  obtain ⟨tokens, reader, settled, htokens, hread, hsettle, hresult, -, hsource, hcount⟩ :=
    compile_eq_ok_iff.1 h
  obtain ⟨hframes, -, hbody⟩ := Reader.result_eq_ok_iff.1 hresult
  exact ⟨tokens, reader, settled, hsource, htokens, hread, hsettle, hframes, hcount, hbody⟩

/-- The groups of an expression have the numbers from one to their count. -/
theorem captures_perm_range {source : List Char} {regex : Regex}
    (h : compile source = .ok regex) :
    (regex.body.captures.map Prod.fst).Perm (List.range' 1 regex.groupCount) := by
  obtain ⟨tokens, reader, settled, -, -, hread, hsettle, hframes, hcount, hbody⟩ :=
    compile_eq_ok h
  obtain ⟨hfit, hr⟩ :=
    (Reader.readAll_edits hread).numbered Reader.empty_branchesFit Reader.empty_numbered
  obtain ⟨-, hs⟩ := (Reader.settle_edits hsettle).numbered hfit hr
  rw [Reader.Numbered, Reader.openNumbers, hframes, List.filterMap_nil, List.append_nil] at hs
  rw [hcount]
  rw [hbody]
  exact ((Reader.captures_alternatives hframes).map _).trans hs

end PathTemplate.Regex
