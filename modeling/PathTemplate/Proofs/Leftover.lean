import PathTemplate.Proofs.Building
import PathTemplate.Proofs.Weaving

/-!
# Holes in a path that was built

Values are written between the literals as they are, and literals may have braces of their own. So
a path that was built can have a word in braces although no value has a brace: an opening brace of
one literal and a closing brace of a later one then enclose values. Nothing else leaves a hole.

## Main definitions

* `Strip`: a value and the literal behind it.
* `Skeleton.strips`: the literals of a skeleton, each with the value in front of it.
* `Bridges`: a word stands between braces of two literals.

## Main statements

* `finds_holeRule_eq_nil_iff`: nothing is found in a text without holes.
* `exists_strip_of_flatMap_eq`: where a character stands that no value has.
* `token_infix_iff_bridges`: a word in braces stands between braces of two literals.
* `finds_build_eq_nil_iff`: when a path that was built has no holes.
* `stray_braces_leave_hole`: a path that has one.
-/

namespace PathTemplate

open Text (isWord)

theorem finds_holeRule_eq_nil_iff {text : List Char} :
    Text.finds holeRule text = [] ↔ TokenFree text := by
  rw [Text.finds]
  generalize 0 = start
  induction text generalizing start with
  | nil => simp [Text.findsFrom, tokenFree_nil]
  | cons c text ih =>
    rw [tokenFree_cons_iff]
    cases hrule : holeRule (c :: text) with
    | none => simp [Text.findsFrom_pieces_of_none hrule, ih]
    | some found => simp [Text.findsFrom_pieces_of_some hrule]

/-! ## Values and literals in turn -/

/-- A value and the literal behind it. -/
structure Strip where
  value : List Char
  literal : List Char

def Strip.text (strip : Strip) : List Char :=
  strip.value ++ strip.literal

/-- The literals of a skeleton, each with the value in front of it, of which the first has none. -/
def Skeleton.strips (s : Skeleton) (values : List (List Char)) : List Strip :=
  ⟨[], s.lead⟩ :: List.zipWith (fun value hole => ⟨value, hole.2⟩) values s.holes

theorem Skeleton.flatMap_strips (s : Skeleton) (values : List (List Char)) :
    (s.strips values).flatMap Strip.text = s.thread values := by
  rw [strips, List.flatMap_cons, thread]
  congr 1
  induction s.holes generalizing values with
  | nil => cases values <;> rfl
  | cons hole holes ih =>
    cases values with
    | nil => rfl
    | cons value values =>
      rw [List.zipWith_cons_cons, List.flatMap_cons, threadHoles, ih]
      rfl

theorem Skeleton.mem_strips {s : Skeleton} {values : List (List Char)} {strip : Strip}
    (h : strip ∈ s.strips values) :
    (strip.value = [] ∨ strip.value ∈ values) ∧ strip.literal ∈ s.segments := by
  rcases List.mem_cons.1 h with rfl | h
  · exact ⟨.inl rfl, List.mem_cons_self ..⟩
  · rw [← List.map_uncurry_zip_eq_zipWith] at h
    obtain ⟨⟨value, hole⟩, hm, rfl⟩ := List.mem_map.1 h
    obtain ⟨hvalue, hhole⟩ := List.of_mem_zip hm
    exact ⟨.inr hvalue, List.mem_cons_of_mem _ (List.mem_map_of_mem hhole)⟩

/-- A word stands between braces of two literals: it is what the first has behind its brace, the
values and literals in between, and what the second has in front of its own. -/
def Bridges (strips : List Strip) (name : List Char) : Prop :=
  ∃ (before between after : List Strip) (first last : Strip) (front start finish back : List Char),
    strips = before ++ first :: (between ++ last :: after) ∧
    first.literal = front ++ '{' :: start ∧ last.literal = finish ++ '}' :: back ∧
    name = start ++ between.flatMap Strip.text ++ last.value ++ finish

theorem append_eq_append_cons {α : Type} {first second left right : List α} {a : α}
    (h : first ++ second = left ++ a :: right) :
    (∃ back, first = left ++ a :: back ∧ right = back ++ second) ∨
      ∃ front, left = first ++ front ∧ second = front ++ a :: right := by
  rcases List.append_eq_append_iff.1 h with hlater | ⟨back, hfirst, hright⟩
  · exact .inr hlater
  · cases back with
    | nil => exact .inr ⟨[], by simpa using hfirst.symm, by simpa using hright.symm⟩
    | cons b back =>
      obtain ⟨rfl, rfl⟩ := List.cons.inj hright
      exact .inl ⟨back, hfirst, rfl⟩

theorem exists_strip_of_flatMap_eq {c : Char} {strips : List Strip}
    (hvalues : ∀ strip ∈ strips, c ∉ strip.value) {left right : List Char}
    (h : strips.flatMap Strip.text = left ++ c :: right) :
    ∃ before strip after front back, strips = before ++ strip :: after ∧
      strip.literal = front ++ c :: back ∧
      left = before.flatMap Strip.text ++ strip.value ++ front ∧
      right = back ++ after.flatMap Strip.text := by
  induction strips generalizing left with
  | nil => simp at h
  | cons strip strips ih =>
    have hvalue := hvalues strip (List.mem_cons_self ..)
    rw [List.flatMap_cons, Strip.text, List.append_assoc] at h
    rcases append_eq_append_cons h with ⟨back, hin, -⟩ | ⟨inner, rfl, hrest⟩
    · simp [hin] at hvalue
    · rcases append_eq_append_cons hrest with ⟨back, hin, rfl⟩ | ⟨later, rfl, hlater⟩
      · exact ⟨[], strip, strips, inner, back, rfl, hin, rfl, rfl⟩
      · obtain ⟨before, found, after, front, back, rfl, hfound, rfl, rfl⟩ :=
          ih (fun strip hm => hvalues strip (List.mem_cons_of_mem _ hm)) hlater
        exact ⟨strip :: before, found, after, front, back, rfl, hfound, by simp [Strip.text], rfl⟩

/-- Where values have no braces and literals no holes, a word in braces stands between braces of two
literals. -/
theorem token_infix_iff_bridges {strips : List Strip}
    (hvalues : ∀ strip ∈ strips, '{' ∉ strip.value ∧ '}' ∉ strip.value)
    (hliterals : ∀ strip ∈ strips, TokenFree strip.literal) {name : List Char} (hne : name ≠ [])
    (hword : name.all isWord = true) :
    (Hole.param name).token <:+: strips.flatMap Strip.text ↔ Bridges strips name := by
  constructor
  · rintro ⟨left, right, h⟩
    have hopening : strips.flatMap Strip.text = left ++ '{' :: (name ++ '}' :: right) := by
      simpa [Hole.token] using h.symm
    obtain ⟨before, first, rest, front, start, rfl, hfirst, -, hclosing⟩ :=
      exists_strip_of_flatMap_eq (fun strip hm => (hvalues strip hm).1) hopening
    rcases append_eq_append_cons hclosing.symm with ⟨back, rfl, -⟩ | ⟨inner, rfl, hrest⟩
    · -- Both braces stand in one literal, which would have a hole then.
      refine absurd ?_ (hliterals first (by simp) (.param name) ⟨hne, hword⟩)
      exact ⟨front, back, by simp [hfirst, Hole.token]⟩
    · obtain ⟨between, last, after, finish, back, rfl, hlast, rfl, -⟩ :=
        exists_strip_of_flatMap_eq
          (fun strip hm => (hvalues strip (by simp [hm])).2) hrest
      exact ⟨before, between, after, first, last, front, start, finish, back, rfl, hfirst, hlast,
        by simp⟩
  · rintro ⟨before, between, after, first, last, front, start, finish, back, rfl, hfirst, hlast,
      rfl⟩
    exact ⟨before.flatMap Strip.text ++ first.value ++ front, back ++ after.flatMap Strip.text,
      by simp [Strip.text, hfirst, hlast, Hole.token]⟩

/-! ## The path that was built -/

/-- A text of values and literals has no hole if it has no star and no word stands between braces of
two literals. -/
theorem tokenFree_flatMap_iff {strips : List Strip}
    (hvalues : ∀ strip ∈ strips, ∀ c ∈ ['{', '}', '*'], c ∉ strip.value)
    (hliterals : ∀ strip ∈ strips, TokenFree strip.literal) :
    TokenFree (strips.flatMap Strip.text) ↔
      ∀ name, name ≠ [] → name.all isWord = true → ¬Bridges strips name := by
  have hbraces : ∀ strip ∈ strips, '{' ∉ strip.value ∧ '}' ∉ strip.value := fun strip hm =>
    ⟨hvalues strip hm '{' (by decide), hvalues strip hm '}' (by decide)⟩
  constructor
  · intro h name hne hword hbridges
    exact h (.param name) ⟨hne, hword⟩
      ((token_infix_iff_bridges hbraces hliterals hne hword).2 hbridges)
  · intro h hole hproper htoken
    cases hole with
    | wildcard =>
      have hstar := (List.singleton_infix_iff _ _).1 htoken
      obtain ⟨strip, hm, hin⟩ := List.mem_flatMap.1 hstar
      rcases List.mem_append.1 hin with hvalue | hliteral
      · exact hvalues strip hm '*' (by decide) hvalue
      · exact (tokenFree_iff.1 (hliterals strip hm)).1 hliteral
    | param name =>
      exact h name hproper.1 hproper.2
        ((token_infix_iff_bridges hbraces hliterals hproper.1 hproper.2).1 htoken)

/-- Where values have no braces and no stars, a path that was built has no hole if and only if no
word stands between braces of two literals. -/
theorem finds_build_eq_nil_iff {text : String} {t : Template}
    (ht : Template.compile? text = .ok t) {args : Supplied} {entries : List (Value × Value)}
    (hargs : args.Gives entries)
    (hvalues : ∀ pair ∈ args.pairsOf entries, ∀ c ∈ ['{', '}', '*'], c ∉ pair.2.toText.toList)
    {path : String} (hpath : (t.build args).result = .ok path) :
    ∃ v : String → Value, (∀ pair ∈ args.pairsOf entries, v pair.1 = pair.2) ∧
      let strips := t.skeleton.strips (t.parameterNames.map fun name => (v name).toText.toList)
      strips.flatMap Strip.text = path.toList ∧
        (Text.finds holeRule path.toList = [] ↔
          ∀ name, name ≠ [] → name.all isWord = true → ¬Bridges strips name) := by
  obtain ⟨htext, hskeleton, -⟩ := Template.compile?_eq_ok ht
  obtain ⟨⟨hwildcard, hperm⟩, -⟩ := (result_build_eq_ok_iff hargs).1 hpath
  have hstar : '*' ∉ text.toList := by simpa [Template.hasWildcard, htext] using hwildcard
  obtain ⟨v, hv, hthread⟩ := toList_of_build ht hargs hpath
  refine ⟨v, hv, ?_⟩
  intro strips
  have hflat : strips.flatMap Strip.text = path.toList :=
    (Skeleton.flatMap_strips _ _).trans hthread.symm
  have hplain : ∀ strip ∈ strips, ∀ c ∈ ['{', '}', '*'], c ∉ strip.value := by
    intro strip hm c hc
    rcases (Skeleton.mem_strips hm).1 with hnil | hvalue
    · simp [hnil]
    · rw [Template.parameterNames, Skeleton.names, List.map_map, List.map_map] at hvalue
      obtain ⟨hole, hhole, heq⟩ := List.mem_map.1 hvalue
      obtain ⟨-, pair, hp, hname⟩ := exists_supplied ht hstar hperm hhole
      have hvalue : pair.2.toText.toList = strip.value := by rw [← hv pair hp, hname, ← heq]; rfl
      exact hvalue ▸ hvalues pair hp c hc
  have hfree : ∀ strip ∈ strips, TokenFree strip.literal := fun strip hm =>
    (hskeleton ▸ Skeleton.wellFormed_scan text.toList).tokenFree _ (Skeleton.mem_strips hm).2
  refine ⟨hflat, ?_⟩
  rw [finds_holeRule_eq_nil_iff, ← hflat]
  exact tokenFree_flatMap_iff hplain hfree

/-- Braces of two literals with a slash between them leave no hole. -/
theorem finds_build_eq_nil_iff_slash :
    ∃ t, Template.compile? "/\x7b{x}/\x7d" = .ok t ∧
      (t.build ⟨[], [("x", .text "y")]⟩).result = .ok "/\x7by/\x7d" ∧
      Text.finds holeRule "/\x7by/\x7d".toList = [] ∧
      ∃ v : String → Value, v "x" = .text "y" ∧ ∀ name, name ≠ [] → name.all isWord = true →
        ¬Bridges (t.skeleton.strips (t.parameterNames.map fun name => (v name).toText.toList))
          name := by
  have hbuild : (Template.compile? "/\x7b{x}/\x7d").toOption.map (fun t =>
      (t.build ⟨[], [("x", .text "y")]⟩).result.toOption) = some (some "/\x7by/\x7d") := by
    decide +kernel
  obtain ⟨t, ht, hbuild⟩ := Regex.map_toOption_eq_some.1 hbuild
  rw [Regex.toOption_eq_some] at hbuild
  have hfinds : Text.finds holeRule "/\x7by/\x7d".toList = [] :=
    List.isEmpty_iff.1 (by decide)
  obtain ⟨v, hv, -, hiff⟩ := finds_build_eq_nil_iff ht ⟨.pairs [], by simp, by decide⟩
    (by simp [Supplied.pairsOf, namedEntries]) hbuild
  exact ⟨t, ht, hbuild, hfinds, v, hv _ (List.mem_singleton_self _), hiff.1 hfinds⟩

/-- Braces of two literals with nothing but a value between them leave a hole, though the value has
no brace. -/
theorem stray_braces_leave_hole :
    ∃ t, Template.compile? "/\x7b{x}\x7d" = .ok t ∧
      Supplied.Gives ⟨[], [("x", .text "y")]⟩ [] ∧
      (∀ pair ∈ Supplied.pairsOf ⟨[], [("x", .text "y")]⟩ [],
        ∀ c ∈ ['{', '}', '*'], c ∉ pair.2.toText.toList) ∧
      ∃ path, (t.build ⟨[], [("x", .text "y")]⟩).result = .ok path ∧
        Text.finds holeRule path.toList ≠ [] := by
  have hbuild : (Template.compile? "/\x7b{x}\x7d").toOption.map (fun t =>
      (t.build ⟨[], [("x", .text "y")]⟩).result.toOption) = some (some "/{y}") := by
    decide +kernel
  obtain ⟨t, ht, hbuild⟩ := Regex.map_toOption_eq_some.1 hbuild
  rw [Regex.toOption_eq_some] at hbuild
  refine ⟨t, ht, ⟨.pairs [], by simp, by decide⟩, by simp [Supplied.pairsOf, namedEntries], _,
    hbuild, ?_⟩
  exact mt List.isEmpty_iff.2 (by decide)

end PathTemplate
