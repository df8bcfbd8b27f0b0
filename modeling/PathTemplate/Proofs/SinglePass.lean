import Mathlib.Data.List.Infix
import PathTemplate.Build
import PathTemplate.Proofs.Scanning

/-!
# Filling in a single pass

The definition of filling a text is by a rule that tries names from the longest one down. What it
comes to can be said without the rule: at the first place where a name stands between the
delimiters, the longest such name counts, and its last value is written, or the token as it was.
The pass goes on behind the token, so nothing that was written is looked at again.

## Main definitions

* `DelimitedAt`: a name between delimiters begins a text.
* `LongestAt`: the longest such name.
* `LastSupplied`: the last value that is supplied for a name.
* `Filled`: the text that a single pass makes of another.

## Main statements

* `delimitedRule_eq_some_iff`, `delimitedRule_eq_none_iff`: the rule finds the longest name.
* `filled_flatMap`, `Filled.eq_flatMap`: a single pass makes one text, and filling makes it, too.
* `flatMap_fillPiece_congr`: only values for names with a token in the text matter.
* `fill_single_pass`: both of these about filling.
* `unused_value_fails`: a value that matters although its name has no token.
-/

namespace PathTemplate

open Text (isWord pieces pieces_of_some pieces_of_none)

variable {opening closing text name : List Char}

/-! ## Names between delimiters -/

structure DelimitedAt (opening closing text name : List Char) : Prop where
  ne_nil : name ≠ []
  isWord : name.all isWord = true
  isPrefix : opening ++ name ++ closing <+: text

structure LongestAt (opening closing text name : List Char) : Prop
    extends DelimitedAt opening closing text name where
  longest : ∀ other, DelimitedAt opening closing text other → other.length ≤ name.length

theorem nameLength?_eq_some_iff {after : List Char} {limit n : Nat} :
    nameLength? after text limit = some n ↔
      (1 ≤ n ∧ n ≤ limit ∧ after <+: text.drop n) ∧
        ∀ m, n < m → m ≤ limit → ¬after <+: text.drop m := by
  fun_induction nameLength? after text limit with
  | case1 => simp; omega
  | case2 k hbegins =>
    rw [List.isPrefixOf_iff_prefix] at hbegins
    grind
  | case3 k hbegins ih =>
    rw [List.isPrefixOf_iff_prefix] at hbegins
    grind

theorem nameLength?_eq_none_iff {after : List Char} {limit : Nat} :
    nameLength? after text limit = none ↔ ∀ m, 1 ≤ m → m ≤ limit → ¬after <+: text.drop m := by
  fun_induction nameLength? after text limit with
  | case1 => simp; omega
  | case2 k hbegins =>
    rw [List.isPrefixOf_iff_prefix] at hbegins
    grind
  | case3 k hbegins ih =>
    rw [List.isPrefixOf_iff_prefix] at hbegins
    grind

/-- Behind the opening delimiter, a name is as many characters as the closing one and the run of
word characters allow. -/
theorem delimitedAt_append_iff {rest : List Char} :
    DelimitedAt opening closing (opening ++ rest) name ↔
      ∃ n, (1 ≤ n ∧ n ≤ (rest.takeWhile isWord).length ∧ closing <+: rest.drop n) ∧
        rest.take n = name := by
  constructor
  · rintro ⟨hne, hword, hbegins⟩
    rw [List.append_assoc, List.prefix_append_right_inj] at hbegins
    obtain ⟨tail, rfl⟩ := hbegins
    have hrun : name.length ≤ ((name ++ closing ++ tail).takeWhile isWord).length := by
      rw [List.append_assoc, List.takeWhile_append_of_pos (List.all_eq_true.1 hword)]
      simp
    refine ⟨name.length, ⟨List.length_pos_iff.2 hne, hrun, ?_⟩, ?_⟩
    · simp
    · simp
  · rintro ⟨n, ⟨hpos, hrun, hclosing⟩, rfl⟩
    have hlength := (List.takeWhile_prefix (l := rest) isWord).length_le
    have hne : rest.take n ≠ [] := by
      rw [← List.length_pos_iff, List.length_take]
      omega
    refine ⟨hne, all_isWord_take hrun, ?_⟩
    obtain ⟨tail, htail⟩ := hclosing
    refine ⟨tail, ?_⟩
    rw [List.append_assoc, List.append_assoc, htail, List.take_append_drop]

theorem DelimitedAt.opening_isPrefix (h : DelimitedAt opening closing text name) :
    opening <+: text := by
  have hopening := List.prefix_append opening (name ++ closing)
  rw [← List.append_assoc] at hopening
  exact hopening.trans h.isPrefix

theorem delimitedRule_eq_some_iff {more : Nat} :
    delimitedRule opening closing text = some (name, more) ↔
      LongestAt opening closing text name ∧ more = (opening ++ name ++ closing).length - 1 := by
  unfold delimitedRule
  split
  · next hopening =>
    obtain ⟨rest, rfl⟩ := List.isPrefixOf_iff_prefix.1 hopening
    have hlength := (List.takeWhile_prefix (l := rest) isWord).length_le
    simp only [List.drop_left, Option.map_eq_some_iff, nameLength?_eq_some_iff, Prod.mk.injEq]
    constructor
    · rintro ⟨n, ⟨hn, hgreatest⟩, rfl, rfl⟩
      have hlen : (rest.take n).length = n := by
        rw [List.length_take]
        omega
      refine ⟨⟨delimitedAt_append_iff.2 ⟨n, hn, rfl⟩, fun other hother => ?_⟩, ?_⟩
      · obtain ⟨m, hm, rfl⟩ := delimitedAt_append_iff.1 hother
        have hle : ¬n < m := fun hlt => hgreatest m hlt hm.2.1 hm.2.2
        rw [List.length_take]
        omega
      · simp only [List.length_append, hlen]
    · rintro ⟨hlongest, rfl⟩
      obtain ⟨n, hn, rfl⟩ := delimitedAt_append_iff.1 hlongest.toDelimitedAt
      have hlen : (rest.take n).length = n := by
        rw [List.length_take]
        omega
      refine ⟨n, ⟨hn, fun m hlt hle hclosing => ?_⟩, rfl, ?_⟩
      · have hother := hlongest.longest _
          (delimitedAt_append_iff.2 ⟨m, ⟨by omega, hle, hclosing⟩, rfl⟩)
        rw [hlen, List.length_take] at hother
        omega
      · simp only [List.length_append, hlen]
  · next hopening =>
    rw [List.isPrefixOf_iff_prefix] at hopening
    simpa using fun hlongest : LongestAt opening closing text name =>
      absurd hlongest.toDelimitedAt.opening_isPrefix hopening

theorem delimitedRule_eq_none_iff :
    delimitedRule opening closing text = none ↔ ∀ name, ¬DelimitedAt opening closing text name := by
  unfold delimitedRule
  split
  · next hopening =>
    obtain ⟨rest, rfl⟩ := List.isPrefixOf_iff_prefix.1 hopening
    simp only [List.drop_left, Option.map_eq_none_iff, nameLength?_eq_none_iff,
      delimitedAt_append_iff]
    constructor
    · rintro h name ⟨n, ⟨hpos, hrun, hclosing⟩, -⟩
      exact h n hpos hrun hclosing
    · intro h n hpos hrun hclosing
      exact h _ ⟨n, ⟨hpos, hrun, hclosing⟩, rfl⟩
  · next hopening =>
    rw [List.isPrefixOf_iff_prefix] at hopening
    simpa using fun name h => hopening (DelimitedAt.opening_isPrefix h)

theorem pieces_of_longestAt {rest : List Char}
    (h : LongestAt opening closing (opening ++ name ++ closing ++ rest) name) :
    pieces (delimitedRule opening closing) (opening ++ name ++ closing ++ rest) =
      .token name (opening ++ name ++ closing) :: pieces (delimitedRule opening closing) rest := by
  have hfound := delimitedRule_eq_some_iff.2 ⟨h, rfl⟩
  have hlength : 1 ≤ (opening ++ name ++ closing).length := by
    have hname := List.length_pos_iff.2 h.ne_nil
    simp only [List.length_append]
    omega
  generalize opening ++ name ++ closing = token at hfound hlength ⊢
  obtain ⟨c, token, rfl⟩ := List.exists_cons_of_length_pos hlength
  rw [List.cons_append] at hfound ⊢
  rw [pieces_of_some hfound]
  simp

/-! ## The single pass -/

variable {supplied : List (String × Value)}

def LastSupplied (supplied : List (String × Value)) (name : String) (value : Value) : Prop :=
  ∃ before after, supplied = before ++ (name, value) :: after ∧ ∀ pair ∈ after, pair.1 ≠ name

/-- The text that a single pass over another text makes of it. At each place the longest name
between delimiters counts, and the pass goes on behind it. -/
inductive Filled (opening closing : List Char) (supplied : List (String × Value)) :
    List Char → List Char → Prop where
  | done : Filled opening closing supplied [] []
  | copy {c : Char} {rest out : List Char}
      (hnone : ∀ name, ¬DelimitedAt opening closing (c :: rest) name)
      (hrest : Filled opening closing supplied rest out) :
      Filled opening closing supplied (c :: rest) (c :: out)
  | replace {name rest out : List Char} {value : Value}
      (hname : LongestAt opening closing (opening ++ name ++ closing ++ rest) name)
      (hvalue : LastSupplied supplied (String.ofList name) value)
      (hrest : Filled opening closing supplied rest out) :
      Filled opening closing supplied (opening ++ name ++ closing ++ rest)
        (value.toText.toList ++ out)
  | keep {name rest out : List Char}
      (hname : LongestAt opening closing (opening ++ name ++ closing ++ rest) name)
      (hnone : ∀ pair ∈ supplied, pair.1 ≠ String.ofList name)
      (hrest : Filled opening closing supplied rest out) :
      Filled opening closing supplied (opening ++ name ++ closing ++ rest)
        (opening ++ name ++ closing ++ out)

def valueTexts (supplied : List (String × Value)) : Bindings String String :=
  .ofList (supplied.map fun (name, value) => (name, value.toText))

theorem lookup_valueTexts_eq_some_iff {name text : String} :
    List.lookup name (valueTexts supplied) = some text ↔
      ∃ value, LastSupplied supplied name value ∧ value.toText = text := by
  rw [valueTexts, Bindings.lookup_ofList, List.lookup_eq_some_iff]
  constructor
  · rintro ⟨after, before, heq, hafter⟩
    rw [List.reverse_eq_append_iff, List.reverse_cons, List.append_assoc, List.singleton_append,
      List.map_eq_append_iff] at heq
    obtain ⟨before', rest, rfl, -, hrest⟩ := heq
    obtain ⟨⟨other, value⟩, after', rfl, hpair, hmap⟩ := List.map_eq_cons_iff.1 hrest
    obtain ⟨rfl, rfl⟩ := Prod.mk.inj hpair
    refine ⟨value, ⟨before', after', rfl, fun pair hm => ?_⟩, rfl⟩
    have hmem : (pair.1, pair.2.toText) ∈ after := by
      rw [← List.mem_reverse, ← hmap]
      exact List.mem_map.2 ⟨pair, hm, rfl⟩
    have hne := hafter _ hmem
    grind
  · rintro ⟨value, ⟨before, after, rfl, hafter⟩, rfl⟩
    refine ⟨(after.map fun pair => (pair.1, pair.2.toText)).reverse,
      (before.map fun pair => (pair.1, pair.2.toText)).reverse, by simp, fun pair hm => ?_⟩
    obtain ⟨other, ho, rfl⟩ := List.mem_map.1 (List.mem_reverse.1 hm)
    have hne := hafter other ho
    grind

theorem lookup_valueTexts_eq_none_iff {name : String} :
    List.lookup name (valueTexts supplied) = none ↔ ∀ pair ∈ supplied, pair.1 ≠ name := by
  rw [valueTexts, Bindings.lookup_ofList, List.lookup_eq_none_iff]
  simp only [List.mem_reverse, List.forall_mem_map, bne_iff_ne]
  exact forall₂_congr fun _ _ => ne_comm

theorem toList_fillTexts_eq (text opening closing : String) (supplied : List (String × Value)) :
    (fillTexts text opening closing supplied).toList =
      (pieces (delimitedRule opening.toList closing.toList) text.toList).flatMap
        (fillPiece (valueTexts supplied)) := by
  rw [fillTexts, String.toList_ofList]
  rfl

/-- A single pass can be made over every text, and filling the text gives what the pass makes. -/
theorem filled_flatMap (opening closing text : List Char) (supplied : List (String × Value)) :
    Filled opening closing supplied text
      ((pieces (delimitedRule opening closing) text).flatMap (fillPiece (valueTexts supplied))) := by
  refine Text.pieces_induction (P := fun text pieces => Filled opening closing supplied text
    (pieces.flatMap (fillPiece (valueTexts supplied)))) .done ?_ ?_ text
  · intro c rest hnone ih
    exact .copy (delimitedRule_eq_none_iff.1 hnone) ih
  · intro c rest name more hsome ih
    have htoken := (delimitedRule_eq_some hsome).1
    rw [List.take_succ_cons] at htoken
    have htext : c :: rest = opening ++ name ++ closing ++ rest.drop more := by
      rw [← htoken, List.cons_append, List.take_append_drop]
    have hlongest := (delimitedRule_eq_some_iff.1 hsome).1
    rw [List.flatMap_cons, htoken]
    rw [htext] at hlongest ⊢
    cases hlookup : List.lookup (String.ofList name) (valueTexts supplied) with
    | some written =>
      obtain ⟨value, hvalue, rfl⟩ := lookup_valueTexts_eq_some_iff.1 hlookup
      simpa only [fillPiece, hlookup] using Filled.replace hlongest hvalue ih
    | none =>
      simpa only [fillPiece, hlookup] using
        Filled.keep hlongest (lookup_valueTexts_eq_none_iff.1 hlookup) ih

theorem Filled.eq_flatMap {out : List Char} (h : Filled opening closing supplied text out) :
    out = (pieces (delimitedRule opening closing) text).flatMap
      (fillPiece (valueTexts supplied)) := by
  induction h with
  | done => rfl
  | copy hnone _ ih =>
    rw [pieces_of_none (delimitedRule_eq_none_iff.2 hnone), List.flatMap_cons, ← ih]
    rfl
  | @replace name rest out value hname hvalue _ ih =>
    have hlookup := lookup_valueTexts_eq_some_iff.2 ⟨value, hvalue, rfl⟩
    rw [pieces_of_longestAt hname, List.flatMap_cons, ← ih, fillPiece, hlookup]
  | @keep name rest out hname hnone _ ih =>
    have hlookup := lookup_valueTexts_eq_none_iff.2 hnone
    rw [pieces_of_longestAt hname, List.flatMap_cons, ← ih, fillPiece, hlookup]

/-! ## Names without a token -/

/-- What a text is filled with depends on the values for names with a token in the text. -/
theorem flatMap_fillPiece_congr {values others : Bindings String String}
    (h : ∀ name, opening ++ name ++ closing <:+: text →
      List.lookup (String.ofList name) values = List.lookup (String.ofList name) others) :
    (pieces (delimitedRule opening closing) text).flatMap (fillPiece values) =
      (pieces (delimitedRule opening closing) text).flatMap (fillPiece others) := by
  revert h
  refine Text.pieces_induction (P := fun text pieces =>
    (∀ name, opening ++ name ++ closing <:+: text →
      List.lookup (String.ofList name) values = List.lookup (String.ofList name) others) →
    pieces.flatMap (fillPiece values) = pieces.flatMap (fillPiece others)) (fun _ => rfl) ?_ ?_ text
  · intro c rest _ ih h
    have hrest := ih fun name hname => h name (hname.trans (List.suffix_cons c rest).isInfix)
    simp only [List.flatMap_cons, hrest, fillPiece]
  · intro c rest name more hsome ih h
    have hlongest := (delimitedRule_eq_some_iff.1 hsome).1
    have hbehind : rest.drop more <:+: c :: rest :=
      ((List.drop_suffix more rest).trans (List.suffix_cons c rest)).isInfix
    have hrest := ih fun name hname => h name (hname.trans hbehind)
    simp only [List.flatMap_cons, hrest, fillPiece, h name hlongest.isPrefix.isInfix]

theorem lookup_valueTexts_filter {keep : String × Value → Bool} {name : String}
    (h : ∀ pair ∈ supplied, pair.1 = name → keep pair = true) :
    List.lookup name (valueTexts (supplied.filter keep)) =
      List.lookup name (valueTexts supplied) := by
  rw [valueTexts, valueTexts, Bindings.lookup_ofList, Bindings.lookup_ofList, ← List.map_reverse,
    ← List.map_reverse, ← List.filter_reverse]
  replace h : ∀ pair ∈ supplied.reverse, pair.1 = name → keep pair = true :=
    fun pair hm => h pair (List.mem_reverse.1 hm)
  generalize supplied.reverse = latest at h
  induction latest with
  | nil => rfl
  | cons pair latest ih =>
    rw [List.forall_mem_cons] at h
    by_cases hkeep : keep pair = true
    · rw [List.filter_cons_of_pos hkeep, List.map_cons, List.map_cons, List.lookup_cons,
        List.lookup_cons, ih h.2]
    · have hne : (name == pair.1) = false :=
        beq_eq_false_iff_ne.2 fun hname => hkeep (h.1 hname.symm)
      rw [List.filter_cons_of_neg hkeep, List.map_cons, List.lookup_cons, ih h.2, hne]

theorem fillTexts_filter {text opening closing : String} {keep : String × Value → Bool}
    (h : ∀ pair ∈ supplied,
      opening.toList ++ pair.1.toList ++ closing.toList <:+: text.toList → keep pair = true) :
    fillTexts text opening closing (supplied.filter keep) =
      fillTexts text opening closing supplied := by
  rw [← String.toList_inj, toList_fillTexts_eq, toList_fillTexts_eq]
  refine flatMap_fillPiece_congr fun name hname =>
    lookup_valueTexts_filter fun pair hm hpair => h pair hm ?_
  rwa [hpair, String.toList_ofList]

/-- Filling a text gives what a single pass over it makes, and nothing else, unless a value cannot be
written. Values that can be written have no effect under names without a token in the text. -/
theorem fill_single_pass (text opening closing : String) (supplied : List (String × Value)) :
    (∀ out, fill text opening closing supplied = some out ↔
      (∀ pair ∈ supplied, pair.2.isWritable = true) ∧
        Filled opening.toList closing.toList supplied text.toList out.toList) ∧
    (fill text opening closing supplied = none ↔
      ∃ pair ∈ supplied, pair.2.isWritable = false) ∧
    fill text opening closing (supplied.filter fun pair => !pair.2.isWritable ||
        decide (opening.toList ++ pair.1.toList ++ closing.toList <:+: text.toList)) =
      fill text opening closing supplied := by
  refine ⟨fun out => ?_, fill_eq_none_iff, ?_⟩
  · rw [fill_eq_some_iff, ← String.toList_inj, toList_fillTexts_eq]
    refine and_congr_right fun _ => ⟨fun h => ?_, fun h => h.eq_flatMap.symm⟩
    rw [← h]
    exact filled_flatMap ..
  · have hwritable (token : String × Value → Bool) :
        (supplied.filter fun pair => !pair.2.isWritable || token pair).all (·.2.isWritable) =
          supplied.all (·.2.isWritable) := by
      rw [List.all_filter]
      refine congrArg supplied.all (funext fun pair => ?_)
      cases pair.2.isWritable <;> simp
    rw [fill, fill, hwritable, fillTexts_filter]
    intro pair _ htoken
    rw [decide_eq_true htoken, Bool.or_true]

/-- A name without a token in the text is not left aside if its value cannot be written: a single
pass makes a text, and filling makes none. -/
theorem unused_value_fails :
    Filled ['{'] ['}'] [("y", .int (Int.ofNat (Nat.pow 10 Text.digitLimit)))] "/a".toList
        "/a".toList ∧
      fill "/a" "\x7b" "\x7d" [("y", .int (Int.ofNat (Nat.pow 10 Text.digitLimit)))] = none := by
  constructor
  · exact filled_flatMap ['{'] ['}'] "/a".toList _
  · rw [fill_eq_none_iff]
    exact ⟨_, List.mem_singleton_self _, Value.isWritable_pow⟩

/-- Delimiters that are word characters: the longest name counts, and what it hides is no token. -/
example : fill "aaaa-aba" "a" "a" [("a", .text "?"), ("aa", .text "a-a"), ("b", .int 5)] =
    some "a-a-5" := by
  decide +kernel

end PathTemplate
