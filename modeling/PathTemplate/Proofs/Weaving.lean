import Mathlib.Data.List.Infix
import PathTemplate.Proofs.Scanning

/-!
# Texts and skeletons

The holes of a text are found where they are written and nowhere else: no word in braces arises
between a literal and a hole beside it, however many braces the literal has. So scanning a text and
writing the holes of a skeleton undo each other, for skeletons whose literals have no holes.

## Main definitions

* `Hole.IsProper`: a hole that can be written.
* `TokenFree`: a text in which no hole is written.
* `Skeleton.WellFormed`: a skeleton of proper holes and literals without any.
* `Skeleton.interleave`: literals with something written for each name in between.

## Main statements

* `holeRule_eq_some_iff`, `holeRule_eq_none_iff`: which hole is found at a place.
* `prefix_of_prefix_append_token`: a hole that begins in front of another ends in front of it.
* `Skeleton.scan_eq_iff`: the skeleton of a text is the well-formed one that is written so.
* `Skeleton.scan_eq_iff_interleave`: the same for names and literals.
-/

namespace PathTemplate

open Text (isWord)

/-! ## Holes as they are written -/

namespace Hole

/-- A hole that can be written: a star, or a name that is a word. -/
def IsProper : Hole → Prop
  | wildcard => True
  | param name => name ≠ [] ∧ name.all isWord = true

/-- The hole with a name; one with the empty name is a star. -/
def ofName : List Char → Hole
  | [] => wildcard
  | name => param name

@[simp] theorem name_ofName (name : List Char) : (ofName name).name = name := by
  cases name <;> rfl

theorem ofName_name {hole : Hole} (h : hole.IsProper) : ofName hole.name = hole := by
  cases hole with
  | wildcard => rfl
  | param name =>
    obtain ⟨c, rest, rfl⟩ := List.exists_cons_of_ne_nil h.1
    rfl

theorem isProper_ofName {name : List Char} (h : name.all isWord = true) :
    (ofName name).IsProper := by
  cases name with
  | nil => trivial
  | cons c rest => exact ⟨List.cons_ne_nil c rest, h⟩

theorem all_isWord_name {hole : Hole} (h : hole.IsProper) : hole.name.all isWord = true := by
  cases hole with
  | wildcard => rfl
  | param name => exact h.2

/-- A hole begins with a star or a brace, neither of which another hole has behind its first
character. -/
theorem token_eq_cons (hole : Hole) :
    ∃ c rest, hole.token = c :: rest ∧ (c = '*' ∨ c = '{') := by
  cases hole with
  | wildcard => exact ⟨'*', [], rfl, .inl rfl⟩
  | param name => exact ⟨'{', name ++ ['}'], rfl, .inr rfl⟩

theorem not_mem_tail_token {hole : Hole} (h : hole.IsProper) {c : Char} (hc : c = '*' ∨ c = '{') :
    c ∉ hole.token.tail := by
  cases hole with
  | wildcard => exact List.not_mem_nil
  | param name =>
    intro hm
    rcases List.mem_append.1 (show c ∈ name ++ ['}'] from hm) with hm | hm
    · rcases hc with rfl | rfl <;> exact not_mem_of_all_isWord h.2 (by decide) hm
    · rcases hc with rfl | rfl <;> exact absurd hm (by decide)

end Hole

/-! ## Finding a hole -/

theorem nameLength?_of_all_isWord {name : List Char} (hne : name ≠ []) (h : name.all isWord = true)
    (rest : List Char) :
    nameLength? ['}'] (name ++ '}' :: rest)
      ((name ++ '}' :: rest).takeWhile isWord).length = some name.length := by
  have hlimit : ((name ++ '}' :: rest).takeWhile isWord).length = name.length := by
    rw [List.takeWhile_append_of_pos (List.all_eq_true.1 h), List.takeWhile_cons_of_neg (by decide),
      List.append_nil]
  have hbrace : ['}'].isPrefixOf ((name ++ '}' :: rest).drop name.length) = true := by
    rw [List.drop_left]
    rfl
  rw [hlimit]
  obtain ⟨c, others, rfl⟩ := List.exists_cons_of_ne_nil hne
  exact if_pos hbrace

theorem holeRule_token {hole : Hole} (h : hole.IsProper) (rest : List Char) :
    holeRule (hole.token ++ rest) = some (hole, hole.token.length - 1) := by
  cases hole with
  | wildcard => rfl
  | param name =>
    have htext : (Hole.param name).token ++ rest = '{' :: (name ++ '}' :: rest) := by
      simp [Hole.token]
    have hparam : paramRule ('{' :: (name ++ '}' :: rest)) = some (name, name.length + 1) := by
      simp only [paramRule, delimitedRule, List.isPrefixOf, BEq.rfl, Bool.true_and, if_true,
        List.length_singleton, List.drop_succ_cons, List.drop_zero,
        nameLength?_of_all_isWord h.1 h.2, Option.map_some, List.take_left]
      congr 2
      omega
    have hrule : holeRule ('{' :: (name ++ '}' :: rest)) =
        (paramRule ('{' :: (name ++ '}' :: rest))).map fun found => (.param found.1, found.2) := rfl
    rw [htext, hrule, hparam]
    simp [Hole.token]

theorem holeRule_eq_some_iff {text : List Char} {hole : Hole} {more : Nat} :
    holeRule text = some (hole, more) ↔
      hole.IsProper ∧ hole.token <+: text ∧ more = hole.token.length - 1 := by
  constructor
  · intro h
    have hproper : hole.IsProper := by
      rcases holeRule_eq_some_cases h with rfl | ⟨name, rfl, hne, hword⟩
      · trivial
      · exact ⟨hne, hword⟩
    cases text with
    | nil => simp [holeRule, wildcardRule, paramRule, delimitedRule] at h
    | cons c text =>
      have htoken : hole.token <+: c :: text := by
        rw [← holeRule_eq_some h]
        exact List.prefix_cons_inj c |>.2 (List.take_prefix more text)
      obtain ⟨rest, hrest⟩ := htoken
      have hfound := holeRule_token hproper rest
      rw [hrest, h, Option.some.injEq, Prod.mk.injEq] at hfound
      exact ⟨hproper, ⟨rest, hrest⟩, hfound.2⟩
  · rintro ⟨hproper, ⟨rest, rfl⟩, rfl⟩
    exact holeRule_token hproper rest

theorem holeRule_eq_none_iff {text : List Char} :
    holeRule text = none ↔ ∀ hole : Hole, hole.IsProper → ¬hole.token <+: text := by
  rw [Option.eq_none_iff_forall_ne_some]
  constructor
  · intro h hole hproper htoken
    exact h _ (holeRule_eq_some_iff.2 ⟨hproper, htoken, rfl⟩)
  · rintro h ⟨hole, more⟩ hfound
    obtain ⟨hproper, htoken, -⟩ := holeRule_eq_some_iff.1 hfound
    exact h hole hproper htoken

/-! ## Texts without holes -/

def TokenFree (text : List Char) : Prop :=
  ∀ hole : Hole, hole.IsProper → ¬hole.token <:+: text

/-- A text has no hole if it has no star and no word in braces. -/
theorem tokenFree_iff {text : List Char} :
    TokenFree text ↔ '*' ∉ text ∧
      ∀ name, name ≠ [] → name.all isWord = true → ¬ '{' :: (name ++ ['}']) <:+: text := by
  constructor
  · intro h
    exact ⟨fun hstar => h .wildcard trivial ((List.singleton_infix_iff _ _).2 hstar),
      fun name hne hword => h (.param name) ⟨hne, hword⟩⟩
  · rintro ⟨hstar, hname⟩ (_ | name) hproper htoken
    · exact hstar ((List.singleton_infix_iff _ _).1 htoken)
    · exact hname name hproper.1 hproper.2 htoken

theorem tokenFree_nil : TokenFree [] := by
  intro hole _ htoken
  obtain ⟨c, rest, heq, -⟩ := hole.token_eq_cons
  simp [heq] at htoken

theorem tokenFree_cons_iff {c : Char} {text : List Char} :
    TokenFree (c :: text) ↔ holeRule (c :: text) = none ∧ TokenFree text := by
  simp only [TokenFree, holeRule_eq_none_iff, List.infix_cons_iff, not_or]
  exact ⟨fun h => ⟨fun hole hp => (h hole hp).1, fun hole hp => (h hole hp).2⟩,
    fun h hole hp => ⟨h.1 hole hp, h.2 hole hp⟩⟩

/-- A hole that begins in front of another ends in front of it. -/
theorem prefix_of_prefix_append_token {hole other : Hole} (hother : other.IsProper)
    {lead rest : List Char} (hlead : lead ≠ [])
    (h : other.token <+: lead ++ (hole.token ++ rest)) : other.token <+: lead := by
  rcases List.prefix_or_prefix_of_prefix h (List.prefix_append ..) with hin | hout
  · exact hin
  · obtain ⟨tail, htail⟩ := hout
    cases tail with
    | nil => simp [← htail]
    | cons c tail =>
      -- The first character of the hole would stand behind the first character of the other.
      obtain ⟨first, behind, hhole, hfirst⟩ := hole.token_eq_cons
      have hc : c = first := by
        rw [← htail, hhole, List.prefix_append_right_inj] at h
        exact (List.cons_prefix_cons.1 h).1
      have hmem : c ∈ other.token.tail := by
        rw [← htail, List.tail_append_of_ne_nil hlead]
        exact List.mem_append_right _ (List.mem_cons_self ..)
      exact absurd hmem (Hole.not_mem_tail_token hother (hc ▸ hfirst))

namespace Skeleton

/-! ## Scanning what was written -/

theorem scan_of_tokenFree {text : List Char} (h : TokenFree text) : scan text = ⟨text, []⟩ := by
  induction text with
  | nil => rfl
  | cons c text ih =>
    obtain ⟨hnone, htext⟩ := tokenFree_cons_iff.1 h
    rw [scan_of_none hnone, ih htext]
    rfl

/-- A literal without holes and the hole behind it are found as they were written. -/
theorem scan_append_token {lead : List Char} (hlead : TokenFree lead) {hole : Hole}
    (hhole : hole.IsProper) (rest : List Char) :
    scan (lead ++ (hole.token ++ rest)) =
      ⟨lead, (hole, (scan rest).lead) :: (scan rest).holes⟩ := by
  induction lead with
  | nil =>
    obtain ⟨c, behind, heq, -⟩ := hole.token_eq_cons
    have hfound := holeRule_token hhole rest
    rw [heq, List.cons_append, List.length_cons, Nat.add_sub_cancel] at hfound
    rw [List.nil_append, heq, List.cons_append, scan_of_some hfound, List.drop_left]
    rfl
  | cons c lead ih =>
    obtain ⟨-, hfree⟩ := tokenFree_cons_iff.1 hlead
    have hnone : holeRule (c :: (lead ++ (hole.token ++ rest))) = none := by
      rw [holeRule_eq_none_iff]
      intro other hother htoken
      have hin := prefix_of_prefix_append_token hother (List.cons_ne_nil c lead) htoken
      exact hlead other hother hin.isInfix
    rw [List.cons_append, scan_of_none hnone, ih hfree]
    rfl

/-- A skeleton of proper holes and literals without holes. -/
structure WellFormed (s : Skeleton) : Prop where
  isProper : ∀ hole ∈ s.holes, hole.1.IsProper
  tokenFree : ∀ literal ∈ s.segments, TokenFree literal

/-- Scanning undoes writing. -/
theorem scan_weave_token {s : Skeleton} (h : s.WellFormed) : scan (s.weave Hole.token) = s := by
  obtain ⟨lead, holes⟩ := s
  induction holes generalizing lead with
  | nil =>
    rw [weave_nil]
    exact scan_of_tokenFree (h.tokenFree lead (List.mem_cons_self ..))
  | cons head holes ih =>
    obtain ⟨hole, literal⟩ := head
    have hlead : TokenFree lead := h.tokenFree lead (List.mem_cons_self ..)
    have hhole : hole.IsProper := h.isProper (hole, literal) (List.mem_cons_self ..)
    have hrest : WellFormed ⟨literal, holes⟩ :=
      ⟨fun hole hm => h.isProper hole (List.mem_cons_of_mem _ hm),
        fun literal hm => h.tokenFree literal (List.mem_cons_of_mem _ hm)⟩
    rw [weave_cons, List.append_assoc, scan_append_token hlead hhole, ih literal hrest]

theorem isPrefix_lead (text : List Char) : (scan text).lead <+: text := by
  conv_rhs => rw [← weave_token_scan text]
  exact List.prefix_append ..

theorem wellFormed_scan (text : List Char) : (scan text).WellFormed := by
  refine scan_induction (P := fun _ s => s.WellFormed) ?_ ?_ ?_ text
  · refine ⟨fun hole hm => (List.not_mem_nil hm).elim, fun literal hm => ?_⟩
    obtain rfl := List.mem_singleton.1 hm
    exact tokenFree_nil
  · intro c rest hnone ih
    refine ⟨ih.isProper, fun literal hm => ?_⟩
    rcases List.mem_cons.1 hm with rfl | hm
    · refine tokenFree_cons_iff.2 ⟨?_, ih.tokenFree _ (List.mem_cons_self ..)⟩
      rw [holeRule_eq_none_iff] at hnone ⊢
      intro hole hproper htoken
      exact hnone hole hproper
        (htoken.trans ((List.prefix_cons_inj c).2 (isPrefix_lead rest)))
    · exact ih.tokenFree literal (List.mem_cons_of_mem _ hm)
  · intro c rest hole more hfound ih
    refine ⟨fun other hm => ?_, fun literal hm => ?_⟩
    · rcases List.mem_cons.1 hm with rfl | hm
      · exact (holeRule_eq_some_iff.1 hfound).1
      · exact ih.isProper other hm
    · rcases List.mem_cons.1 hm with rfl | hm
      · exact tokenFree_nil
      · exact ih.tokenFree literal hm

/-- The skeleton of a text is the well-formed one that is written so. -/
theorem scan_eq_iff {text : List Char} {s : Skeleton} :
    scan text = s ↔ s.WellFormed ∧ s.weave Hole.token = text := by
  constructor
  · rintro rfl
    exact ⟨wellFormed_scan text, weave_token_scan text⟩
  · rintro ⟨hs, rfl⟩
    exact scan_weave_token hs

/-! ## Names and literals -/

/-- Literals in order, with something written for each name in between. -/
def interleave (write : List Char → List Char) : (segments names : List (List Char)) → List Char
  | segment :: segments, name :: names => segment ++ write name ++ interleave write segments names
  | segments, _ => segments.flatten

theorem weave_eq_interleave {s : Skeleton} (h : ∀ hole ∈ s.holes, hole.1.IsProper)
    (fill : Hole → List Char) :
    s.weave fill = interleave (fun name => fill (.ofName name)) s.segments s.names := by
  obtain ⟨lead, holes⟩ := s
  induction holes generalizing lead with
  | nil => simp [segments, names, interleave]
  | cons head holes ih =>
    obtain ⟨hole, literal⟩ := head
    have hhole : hole.IsProper := h (hole, literal) (List.mem_cons_self ..)
    have hrest := ih literal fun hole hm => h hole (List.mem_cons_of_mem _ hm)
    rw [weave_cons, hrest]
    simp only [segments, names, List.map_cons, interleave, Hole.ofName_name hhole]

theorem exists_of_length {segments names : List (List Char)}
    (h : segments.length = names.length + 1) :
    ∃ s : Skeleton, s.segments = segments ∧ s.names = names ∧
      ∀ hole ∈ s.holes, ∃ name ∈ names, hole.1 = .ofName name := by
  obtain ⟨lead, literals, rfl⟩ := List.exists_cons_of_length_eq_add_one h
  have hlength : literals.length = names.length := Nat.succ.inj h
  refine ⟨⟨lead, (names.map Hole.ofName).zip literals⟩, ?_, ?_, fun hole hm => ?_⟩
  · rw [Skeleton.segments, List.map_snd_zip (by simp [hlength])]
  · rw [Skeleton.names, ← Function.comp_def Hole.name, ← List.map_map,
      List.map_fst_zip (by simp [hlength]), List.map_map]
    simp [Function.comp_def]
  · obtain ⟨name, hname, heq⟩ := List.mem_map.1 (List.of_mem_zip hm).1
    exact ⟨name, hname, heq.symm⟩

/-- The names and literals of a text are those that it is written with, which are unique if every
name is made of word characters and no literal has a hole. The source of its expression is written
with groups in place of the holes. -/
theorem scan_eq_iff_interleave (text : List Char) (segments names : List (List Char)) :
    ((scan text).segments = segments ∧ (scan text).names = names ↔
      segments.length = names.length + 1 ∧
        interleave (fun name => (Hole.ofName name).token) segments names = text ∧
        (∀ name ∈ names, name.all isWord = true) ∧ ∀ segment ∈ segments, TokenFree segment) ∧
    (scan text).source =
      interleave (fun name => (Hole.ofName name).groupSource) (scan text).segments
        (scan text).names ++ ['$'] := by
  have hscan := wellFormed_scan text
  refine ⟨⟨?_, ?_⟩, ?_⟩
  · rintro ⟨rfl, rfl⟩
    refine ⟨length_segments _, ?_, fun name hm => ?_, hscan.tokenFree⟩
    · rw [← weave_eq_interleave hscan.isProper, weave_token_scan]
    · obtain ⟨hole, hhole, rfl⟩ := List.mem_map.1 hm
      exact Hole.all_isWord_name (hscan.isProper hole hhole)
  · rintro ⟨hlength, htext, hwords, hfree⟩
    obtain ⟨s, rfl, rfl, hholes⟩ := exists_of_length hlength
    have hproper : ∀ hole ∈ s.holes, hole.1.IsProper := by
      intro hole hm
      obtain ⟨name, hname, heq⟩ := hholes hole hm
      exact heq ▸ Hole.isProper_ofName (hwords name hname)
    rw [← weave_eq_interleave hproper] at htext
    rw [scan_eq_iff.2 ⟨⟨hproper, hfree⟩, htext⟩]
    exact ⟨rfl, rfl⟩
  · rw [source, weave_eq_interleave hscan.isProper]

end Skeleton

end PathTemplate
