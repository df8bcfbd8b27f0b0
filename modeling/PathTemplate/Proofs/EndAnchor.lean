import Mathlib.Algebra.Group.Nat.Even
import PathTemplate.Proofs.Acceptance
import PathTemplate.Proofs.Literal
import PathTemplate.Proofs.Shortest

/-!
# The anchor for the end

A dollar is put behind the literals and groups of a template. It is an item of its own whatever the
last literal leaves unfinished, since nothing that a dollar would go on with can be completed by the
end of the source. It is no anchor, however, if a backslash in front of it escapes it.

## Main definitions

* `trailingBackslashes`: how many backslashes end a text.
* `Regex.Dollar`: a dollar as a token, and the item that it is.
* `Template.Anchored`: the expression without the anchor matches the same paths.

## Main statements

* `Token.ofSource?_dollar`: whether a dollar behind a source is escaped.
* `Reader.exists_settle_of_dollar`: a dollar at the end is an item of its own.
* `compile_append_dollar`: the expression of a source with a dollar behind it.
* `end_anchored_iff`: when the dollar is the anchor for the end.
* `escaped_anchor_literal`: a template for which it is not.
-/

namespace PathTemplate

def trailingBackslashes (text : List Char) : Nat :=
  (text.reverse.takeWhile fun c => c = '\\').length

theorem trailingBackslashes_le (text : List Char) : trailingBackslashes text ≤ text.length := by
  simpa [trailingBackslashes] using (List.takeWhile_prefix (l := text.reverse) _).length_le

theorem trailingBackslashes_cons (c : Char) (text : List Char) :
    trailingBackslashes (c :: text) =
      if c = '\\' ∧ trailingBackslashes text = text.length then text.length + 1
      else trailingBackslashes text := by
  simp only [trailingBackslashes, List.reverse_cons, List.takeWhile_append, List.takeWhile_cons,
    List.takeWhile_nil, List.length_reverse]
  grind

theorem trailingBackslashes_append_cons {c : Char} (hc : c ≠ '\\') (front text : List Char) :
    trailingBackslashes (front ++ c :: text) = trailingBackslashes text := by
  have hle := trailingBackslashes_le text
  induction front with
  | nil => rw [List.nil_append, trailingBackslashes_cons, if_neg fun h => hc h.1]
  | cons d front ih =>
    rw [List.cons_append, trailingBackslashes_cons, ih, if_neg]
    simp only [List.length_append, List.length_cons]
    omega

/-- A backslash and the character that it escapes do not matter for the parity. -/
theorem even_trailingBackslashes_escaped (c : Char) (text : List Char) :
    Even (trailingBackslashes ('\\' :: c :: text)) ↔ Even (trailingBackslashes text) := by
  have hle := trailingBackslashes_le text
  rw [trailingBackslashes_cons, trailingBackslashes_cons c]
  grind

namespace Regex

/-- Whether a dollar behind a source is escaped depends on the number of backslashes in front of
it. -/
theorem Token.ofSource?_dollar (source : List Char) :
    (Even (trailingBackslashes source) ∧ ∃ tokens, ofSource? source = some tokens ∧
      ofSource? (source ++ ['$']) = some (tokens ++ [.plain '$'])) ∨
    (¬Even (trailingBackslashes source) ∧ ofSource? source = none ∧ ∃ tokens,
      ofSource? (source ++ ['$']) = some (tokens ++ [.escaped '$'])) := by
  fun_induction ofSource? source with
  | case1 => exact .inl ⟨by decide, [], rfl, rfl⟩
  | case2 c rest ih =>
    rw [even_trailingBackslashes_escaped, List.cons_append, List.cons_append, ofSource?_escaped]
    refine ih.imp ?_ ?_
    · rintro ⟨heven, tokens, hrest, hdollar⟩
      exact ⟨heven, .escaped c :: tokens, by rw [hrest]; rfl, by rw [hdollar]; rfl⟩
    · rintro ⟨hodd, hrest, tokens, hdollar⟩
      exact ⟨hodd, by rw [hrest]; rfl, .escaped c :: tokens, by rw [hdollar]; rfl⟩
  | case3 rest hne =>
    obtain rfl : rest = [] := List.eq_nil_iff_forall_not_mem.2 fun c hc => by
      obtain ⟨d, more, rfl⟩ := List.exists_cons_of_ne_nil (List.ne_nil_of_mem hc)
      exact hne d more rfl rfl
    exact .inr ⟨by decide, rfl, [], rfl⟩
  | case4 c rest _ hc ih =>
    rw [trailingBackslashes_cons, if_neg fun h => hc h.1, List.cons_append, ofSource?_plain hc]
    refine ih.imp ?_ ?_
    · rintro ⟨heven, tokens, hrest, hdollar⟩
      exact ⟨heven, .plain c :: tokens, by rw [hrest]; rfl, by rw [hdollar]; rfl⟩
    · rintro ⟨hodd, hrest, tokens, hdollar⟩
      exact ⟨hodd, by rw [hrest]; rfl, .plain c :: tokens, by rw [hdollar]; rfl⟩

/-! ## Reading a dollar at the end -/

/-- A dollar as a token, and the item that it is where an item may begin. -/
inductive Dollar : Token → Expr → Prop where
  | anchor : Dollar (.plain '$') (.anchor .lastLineEnd)
  | literal : Dollar (.escaped '$') (.literal '$'.toNat)

section Dollar

variable {t : Token} {item : Expr} (ht : Dollar t item)

include ht

theorem Dollar.feedItem (r : Reader) : r.feedItem t = .ok (r.push item) := by
  cases ht <;> rfl

/-- A dollar goes on with a name, which the end of the source cuts off, or stands behind an escape
that the end would complete as well. -/
theorem Escape.feed_dollar {e : Escape} {start position : Nat} {progress : Progress Escape Escaped}
    (h : e.feed start position t = .ok progress) :
    (∃ read, progress = .more (.name read)) ∨
      ∃ escaped, progress = .before escaped ∧ e.finish start position = .ok escaped := by
  cases ht <;> cases e with
  | hex => simp [feed, Token.plain?, Text.hexValue?] at h
  | octal digits =>
    obtain ⟨escaped, hcode, rfl⟩ := map_eq_ok.1 h
    exact .inr ⟨escaped, rfl, hcode⟩
  | number digits =>
    obtain rfl : progress = .before (groupReference digits) := by
      simpa [feed, Token.plain?, isOctal, Char.isDigit] using h.symm
    exact .inr ⟨_, rfl, rfl⟩
  | nameOpen => simp [feed] at h
  | name read =>
    obtain rfl := Except.ok.inj h
    exact .inl ⟨_, rfl⟩

theorem SetReader.feed_dollar {s : SetReader} {position : Nat}
    {progress : Progress SetReader CharTest} (h : s.feed position t = .ok progress) :
    ∃ next, progress = .more next := by
  have hclose : t ≠ .plain ']' := by cases ht <;> decide
  have hmember : ∀ {s : SetReader}, s.feedMember position t = .ok progress →
      ∃ next, progress = .more next := by
    intro s h
    rw [feedMember, if_neg fun hc => hclose hc.1] at h
    obtain ⟨next, -, rfl⟩ := map_eq_ok.1 h
    exact ⟨next, rfl⟩
  have hlow : ∀ {s : SetReader} {low : SetMember}, s.feedLow position t low = .ok progress →
      ∃ next, progress = .more next := by
    intro s low h
    rw [feedLow, if_neg (by cases ht <;> decide)] at h
    exact hmember h
  unfold feed at h
  split at h
  · rw [if_neg (by cases ht <;> decide)] at h
    exact hmember h
  · exact hmember h
  · exact hlow h
  · rw [if_neg hclose] at h
    obtain ⟨next, -, rfl⟩ := map_eq_ok.1 h
    exact ⟨next, rfl⟩
  · obtain ⟨step, hstep, h⟩ := bind_eq_ok.1 h
    obtain ⟨read, rfl⟩ | ⟨escaped, rfl, -⟩ := Escape.feed_dollar ht hstep
    · exact ⟨_, (Except.ok.inj h).symm⟩
    · obtain ⟨placed, -, h⟩ := bind_eq_ok.1 h
      split at h
      · exact hlow h
      · exact hmember h

/-- No dollar completes a head, but a group may begin with one. -/
theorem Header.feed_dollar {head : Header} {start position : Nat}
    {progress : Progress Header Opening} (h : head.feed start position t = .ok progress) :
    (∃ next, progress = .more next) ∨ progress = .before .capture := by
  have hflag : flag? t = none := by cases ht <;> rfl
  cases ht <;> cases head with
  | opened =>
    obtain rfl := Except.ok.inj h
    exact .inr rfl
  | groupName | backrefName | comment | condition =>
    obtain rfl := Except.ok.inj h
    exact .inl ⟨_, rfl⟩
  | extension | names | behind | flagsOn | flagsOff =>
    simp [feed, feedExtension, feedFlagsOn, feedFlagsOff, hflag] at h

namespace Reader

variable {r next settled : Reader}

/-- A dollar at the end of a source is an item of its own, and the source without it could end as
well. -/
theorem exists_settle_of_dollar (h : r.feed t = .ok next) (hsettle : next.settle = .ok settled)
    (hframes : settled.frames = []) :
    ∃ before, r.settle = .ok before ∧
      settled = { before.push item with position := r.position + t.width } := by
  obtain ⟨stepped, hstep, rfl⟩ := map_eq_ok.1 h
  -- In every mode either the end of the source fails behind the dollar, or the dollar is an item.
  suffices ∃ before, r.settle = .ok before ∧ stepped = before.push item by
    obtain ⟨before, hbefore, rfl⟩ := this
    exact ⟨before, hbefore, (Except.ok.inj hsettle).symm⟩
  unfold step at hstep
  unfold settle
  split at hstep
  · exact ⟨r, rfl, Except.ok.inj (hstep.symm.trans (ht.feedItem r))⟩
  · refine ⟨r, rfl, ?_⟩
    cases ht <;> exact (Except.ok.inj hstep).symm
  · refine ⟨_, rfl, ?_⟩
    cases ht <;> exact (Except.ok.inj hstep).symm
  · obtain ⟨progress, hfeed, hstep⟩ := bind_eq_ok.1 hstep
    obtain ⟨read, rfl⟩ | ⟨escaped, rfl, hfinish⟩ := Escape.feed_dollar ht hfeed
    · obtain rfl := Except.ok.inj hstep
      obtain ⟨escaped, hescaped, -⟩ := bind_eq_ok.1 hsettle
      simp only [Escape.finish] at hescaped
      split at hescaped <;> simp at hescaped
    · obtain ⟨before, hplace, hstep⟩ := bind_eq_ok.1 hstep
      refine ⟨before, bind_eq_ok.2 ⟨escaped, hfinish, hplace⟩, ?_⟩
      exact Except.ok.inj (hstep.symm.trans (ht.feedItem before))
  · obtain ⟨progress, hfeed, hstep⟩ := bind_eq_ok.1 hstep
    obtain ⟨next, rfl⟩ := SetReader.feed_dollar ht hfeed
    obtain rfl := Except.ok.inj hstep
    simp [settle] at hsettle
  · obtain ⟨progress, hfeed, hstep⟩ := bind_eq_ok.1 hstep
    obtain ⟨head, rfl⟩ | rfl := Header.feed_dollar ht hfeed
    · obtain rfl := Except.ok.inj hstep
      simp [settle] at hsettle
    · obtain ⟨opened, hopen, hstep⟩ := bind_eq_ok.1 hstep
      obtain rfl := Except.ok.inj hopen
      obtain rfl := Except.ok.inj ((ht.feedItem _).symm.trans hstep)
      obtain rfl := Except.ok.inj hsettle
      simp [push, openCapture, openFrame] at hframes

end Reader

end Dollar

/-! ## Expressions with a dollar behind them -/

theorem Reader.alternatives_eq (r : Reader) :
    r.alternatives = r.branches.reverse ++ [.ofItems r.items.reverse] :=
  List.reverse_cons

theorem lookbehinds_ofBranches_concat (branches : List Expr) (branch : Expr) :
    (Expr.ofBranches (branches ++ [branch])).lookbehinds =
      branches.flatMap Expr.lookbehinds ++ branch.lookbehinds := by
  induction branches with
  | nil => rfl
  | cons first branches ih =>
    obtain ⟨next, more, hmore⟩ := List.exists_cons_of_ne_nil (l := branches ++ [branch]) (by simp)
    rw [hmore] at ih
    rw [List.cons_append, hmore, List.flatMap_cons, List.append_assoc, ← ih]
    rfl

/-- The last alternative decides what all of them match with, as far as it is concerned. -/
theorem run_ofBranches_concat_congr {last last' : Expr} {k : Rest} (h : last.run k = last'.run k)
    (branches : List Expr) :
    (Expr.ofBranches (branches ++ [last])).run k = (Expr.ofBranches (branches ++ [last'])).run k := by
  induction branches with
  | nil => exact h
  | cons first branches ih =>
    obtain ⟨next, more, hmore⟩ := List.exists_cons_of_ne_nil (l := branches ++ [last]) (by simp)
    obtain ⟨next', more', hmore'⟩ := List.exists_cons_of_ne_nil (l := branches ++ [last']) (by simp)
    rw [hmore, hmore'] at ih
    rw [List.cons_append, List.cons_append, hmore, hmore']
    funext s
    exact (Expr.run_alt ..).trans ((congrArg _ (congrFun ih s)).trans (Expr.run_alt ..).symm)

/-- An anchor for the end in front of the end changes nothing. -/
theorem run_concat_lastLineEnd (items : List Expr) :
    (Expr.ofItems (items ++ [.anchor .lastLineEnd])).run atEnd = (Expr.ofItems items).run atEnd := by
  rw [run_ofItems_append]
  congr 1
  funext s
  rw [run_lastLineEnd_atEnd, atEnd]
  simp only [List.isEmpty_iff]

/-- The expression of a source with a dollar behind it ends in the dollar. It is an anchor, and the
source an expression of its own, if an even number of backslashes stands in front of it; otherwise
it is a character, and the source ends in the middle of an escape. -/
theorem compile_append_dollar {source : List Char} {regex : Regex}
    (h : compile (source ++ ['$']) = .ok regex) :
    ∃ branches items,
      (Even (trailingBackslashes source) ∧
        regex.body = .ofBranches (branches ++ [.ofItems (items ++ [.anchor .lastLineEnd])]) ∧
        compile source =
          .ok ⟨source, regex.groupCount, .ofBranches (branches ++ [.ofItems items])⟩) ∨
      (¬Even (trailingBackslashes source) ∧
        regex.body = .ofBranches (branches ++ [.ofItems (items ++ [.literal '$'.toNat])]) ∧
        compile source = .error (.at .escapeAtEnd (source.length - 1))) := by
  obtain ⟨tokens, reader, settled, htokens, hread, hsettle, hresult, hcheck, -, hcount⟩ :=
    compile_eq_ok_iff.1 h
  obtain ⟨hframes, hconditions, hwhole⟩ := Reader.result_eq_ok_iff.1 hresult
  -- Whatever the last token is, the reader in front of it could have settled.
  have hlast : ∀ {front t item}, Dollar t item →
      Token.ofSource? (source ++ ['$']) = some (front ++ [t]) →
        ∃ r before, Reader.empty.readAll front = .ok r ∧ r.settle = .ok before ∧
          settled = { before.push item with position := r.position + t.width } ∧
          regex.body = .ofBranches (before.branches.reverse ++
            [.ofItems (before.items.reverse ++ [item])]) := by
    intro front t item ht hfront
    obtain rfl := Option.some.inj (htokens.symm.trans hfront)
    rw [Reader.readAll_append] at hread
    obtain ⟨r, hr, hread⟩ := bind_eq_ok.1 hread
    obtain ⟨next, hfeed, hnext⟩ := bind_eq_ok.1 hread
    obtain rfl := Except.ok.inj hnext
    obtain ⟨before, hbefore, rfl⟩ := Reader.exists_settle_of_dollar ht hfeed hsettle hframes
    refine ⟨r, before, hr, hbefore, rfl, ?_⟩
    rw [hwhole, Reader.alternatives_eq]
    simp only [Reader.push, List.reverse_cons]
  obtain ⟨heven, front, hfront, hdollar⟩ | ⟨hodd, hnone, front, hdollar⟩ :=
    Token.ofSource?_dollar source
  · obtain ⟨r, before, hr, hbefore, rfl, hbody⟩ := hlast .anchor hdollar
    refine ⟨_, _, .inl ⟨heven, hbody, ?_⟩⟩
    refine compile_eq_ok_iff.2 ⟨front, r, before, hfront, hr, hbefore, ?_, ?_, rfl, hcount⟩
    · rw [Reader.result_eq_ok_iff, Reader.alternatives_eq]
      exact ⟨hframes, hconditions, rfl⟩
    · rw [hbody, checkLookbehinds, lookbehinds_ofBranches_concat] at hcheck
      rw [checkLookbehinds, lookbehinds_ofBranches_concat]
      simpa [Expr.lookbehinds] using hcheck
  · obtain ⟨r, before, -, -, -, hbody⟩ := hlast .literal hdollar
    refine ⟨_, _, .inr ⟨hodd, hbody, ?_⟩⟩
    rw [compile, readSource, hnone]
    rfl

end Regex

/-! ## Templates -/

/-- What the holes stand for in a source does not matter, as long as it ends in no backslash. -/
theorem Skeleton.trailingBackslashes_weave {fill fill' : Hole → List Char}
    (hfill : ∀ hole, ∃ front c, c ≠ '\\' ∧ fill hole = front ++ [c])
    (hfill' : ∀ hole, ∃ front c, c ≠ '\\' ∧ fill' hole = front ++ [c]) (s : Skeleton) :
    trailingBackslashes (s.weave fill) = trailingBackslashes (s.weave fill') := by
  obtain ⟨lead, holes⟩ := s
  induction holes generalizing lead with
  | nil => rw [weave_nil, weave_nil]
  | cons hole holes ih =>
    obtain ⟨hole, literal⟩ := hole
    obtain ⟨front, c, hc, hf⟩ := hfill hole
    obtain ⟨front', c', hc', hf'⟩ := hfill' hole
    rw [weave_cons, weave_cons, hf, hf']
    simp only [List.append_assoc, List.singleton_append]
    rw [← List.append_assoc, trailingBackslashes_append_cons hc, ← List.append_assoc,
      trailingBackslashes_append_cons hc', ih]

/-- A template ends in as many backslashes as the source of its expression in front of the
dollar. -/
theorem trailingBackslashes_weave_scan (text : List Char) :
    trailingBackslashes ((Skeleton.scan text).weave Hole.groupSource) =
      trailingBackslashes text := by
  conv_rhs => rw [← Skeleton.weave_token_scan text]
  refine Skeleton.trailingBackslashes_weave (fun hole => ?_) (fun hole => ?_) _
  · cases hole with
    | wildcard => exact ⟨['(', '.', '*', '?'], ')', by decide, rfl⟩
    | param name => exact ⟨['(', '.', '+', '?'], ')', by decide, rfl⟩
  · cases hole with
    | wildcard => exact ⟨[], '*', by decide, rfl⟩
    | param name => exact ⟨'\x7b' :: name, '\x7d', by decide, rfl⟩

/-- The dollar that ends the source of an expression is the anchor for the end: the source without
it is an expression as well, which has the same groups, matches the same paths and is the same up to
the anchor behind its last alternative. -/
structure Template.Anchored (t : Template) (regex plain : Regex) : Prop where
  compiled : Regex.compile (t.skeleton.weave Hole.groupSource) = .ok plain
  body : ∃ branches items, plain.body = .ofBranches (branches ++ [.ofItems items]) ∧
    regex.body = .ofBranches (branches ++ [.ofItems (items ++ [.anchor .lastLineEnd])])
  groupCount : plain.groupCount = regex.groupCount
  captures : plain.body.captures = regex.body.captures
  accepts : ∀ path, t.accepts path = (plain.fullMatch? path.toList).isSome

/-- The dollar that ends the source of an expression is the anchor for the end if the template ends
in an even number of backslashes. Otherwise it is a character, and the source without it is no
expression. -/
theorem end_anchored_iff {text : String} {t : Template} {regex : Regex}
    (ht : Template.compile? text = .ok t) (hregex : t.expression = some regex) :
    ((∃ plain, t.Anchored regex plain) ↔ Even (trailingBackslashes text.toList)) ∧
    (¬Even (trailingBackslashes text.toList) →
      (∃ branches items,
        regex.body = .ofBranches (branches ++ [.ofItems (items ++ [.literal '$'.toNat])])) ∧
      Regex.compile (t.skeleton.weave Hole.groupSource) =
        .error (.at .escapeAtEnd ((t.skeleton.weave Hole.groupSource).length - 1))) := by
  obtain ⟨-, hskeleton, hexpression⟩ := Template.compile?_eq_ok ht
  obtain ⟨hcompile, -, -⟩ := Template.compileSkeleton_eq_ok (hexpression regex hregex)
  have htrailing := trailingBackslashes_weave_scan text.toList
  rw [← hskeleton] at htrailing
  obtain ⟨branches, items, ⟨heven, hbody, hplain⟩ | ⟨hodd, hbody, hfails⟩⟩ :=
    Regex.compile_append_dollar hcompile
  · rw [htrailing] at heven
    refine ⟨iff_of_true ⟨_, hplain, ⟨branches, items, rfl, hbody⟩, rfl, ?_, fun path => ?_⟩ heven,
      fun hodd => absurd heven hodd⟩
    · simp [hbody, Regex.Expr.captures]
    · rw [Template.accepts, hregex]
      dsimp only
      rw [Regex.fullMatch?, Regex.fullMatch?, hbody,
        Regex.run_ofBranches_concat_congr (Regex.run_concat_lastLineEnd items)]
  · rw [htrailing] at hodd
    refine ⟨iff_of_false ?_ hodd, fun _ => ⟨⟨branches, items, hbody⟩, hfails⟩⟩
    rintro ⟨plain, hanchored⟩
    have hcompiled := hanchored.compiled
    rw [hfails] at hcompiled
    simp at hcompiled

/-- A backslash at the end of a template escapes the dollar, so that a path has to end in one. -/
theorem escaped_anchor_literal :
    (Template.compile? "/{x}\\").toOption.map (fun t =>
      (t.accepts "/a$", t.accepts "/a",
        (Regex.compile (t.skeleton.weave Hole.groupSource)).toOption.isSome)) =
          some (true, false, false) := by
  decide +kernel

/-- A backslash that is escaped itself leaves the dollar alone. -/
theorem end_anchored_backslash :
    ∃ t regex plain, Template.compile? "/{x}\\\\" = .ok t ∧ t.expression = some regex ∧
      t.Anchored regex plain := by
  have hfacts : (Template.compile? "/{x}\\\\").toOption.map (·.expression.isSome) = some true := by
    decide +kernel
  obtain ⟨t, ht, hsome⟩ := Regex.map_toOption_eq_some.1 hfacts
  obtain ⟨regex, hregex⟩ := Option.isSome_iff_exists.1 hsome
  obtain ⟨plain, hanchored⟩ := (end_anchored_iff ht hregex).1.2 (by decide)
  exact ⟨t, regex, plain, ht, hregex, hanchored⟩

end PathTemplate
