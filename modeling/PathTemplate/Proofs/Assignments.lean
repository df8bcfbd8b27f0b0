import Mathlib.Data.List.Forall2
import PathTemplate.Assignment

/-!
# Lists of assignments

A list of assignments is read one by one, up to the first that is none.

## Main definitions

* `Assignment.Writes`: a text is a name, an equals sign and a value.

## Main statements

* `Assignment.parseAll_eq_ok_iff`: what is read is what was written.
* `Assignment.parseAll_eq_error_iff`: the first text that is no assignment is the one complained of.
* `Assignment.parseAll_inverts_joining`: both in terms of the texts themselves.
-/

namespace PathTemplate.Assignment

/-- A text is a name, the first equals sign in it, and a value. The name is not empty. -/
def Writes (item : String) (pair : String × String) : Prop :=
  item = pair.1 ++ "=" ++ pair.2 ∧ pair.1 ≠ "" ∧ '=' ∉ pair.1.toList

theorem parse?_toList_eq_some_iff {item : String} {name value : List Char} :
    parse? item.toList = some (name, value) ↔
      Writes item (String.ofList name, String.ofList value) := by
  have hjoin : item.toList = join (name, value) ↔
      item = String.ofList name ++ "=" ++ String.ofList value := by
    rw [← String.toList_inj]
    simp [join]
  rw [parse?_eq_some_iff, hjoin, Writes]
  simp

/-- What was written from a name and a value is read so, and from no others. -/
theorem Writes.parse? {item : String} {pair : String × String} (h : Writes item pair) :
    parse? item.toList = some (pair.1.toList, pair.2.toList) := by
  rw [parse?_toList_eq_some_iff]
  simpa using h

theorem parse?_toList_eq_none_iff {item : String} :
    parse? item.toList = none ↔ ∀ pair, ¬Writes item pair := by
  constructor
  · intro h pair hwrites
    simp [hwrites.parse?] at h
  · intro h
    cases hpair : parse? item.toList with
    | none => rfl
    | some pair => exact absurd (parse?_toList_eq_some_iff.1 hpair) (h _)

theorem parseAll_cons_cases (item : String) (items : List String) :
    (∀ pair, ¬Writes item pair) ∧ parseAll (item :: items) = .error item ∨
      ∃ pair, Writes item pair ∧
        parseAll (item :: items) = (parseAll items).map (pair :: ·) := by
  cases h : parse? item.toList with
  | none => exact .inl ⟨parse?_toList_eq_none_iff.1 h, by rw [parseAll, h]⟩
  | some pair => exact .inr ⟨_, parse?_toList_eq_some_iff.1 h, by rw [parseAll, h]⟩

theorem Writes.unique {item : String} {pair other : String × String} (h : Writes item pair)
    (h' : Writes item other) : pair = other := by
  obtain ⟨hname, hvalue⟩ := Prod.mk.inj (Option.some.inj (h.parse?.symm.trans h'.parse?))
  exact Prod.ext (String.toList_inj.1 hname) (String.toList_inj.1 hvalue)

/-- A list is read if each of its texts is an assignment, and as what it was written from. -/
theorem parseAll_eq_ok_iff {items : List String} {pairs : List (String × String)} :
    parseAll items = .ok pairs ↔ List.Forall₂ Writes items pairs := by
  induction items generalizing pairs with
  | nil =>
    rw [List.forall₂_nil_left_iff, parseAll, Except.ok.injEq, eq_comm]
  | cons item items ih =>
    rw [List.forall₂_cons_left_iff]
    rcases parseAll_cons_cases item items with ⟨hno, h⟩ | ⟨pair, hwrites, h⟩
    · rw [h]
      constructor
      · simp
      · rintro ⟨other, -, hother, -⟩
        exact absurd hother (hno other)
    · rw [h]
      constructor
      · intro hmap
        cases hrest : parseAll items with
        | error bad => simp [hrest, Except.map] at hmap
        | ok others =>
          refine ⟨pair, others, hwrites, ih.1 hrest, ?_⟩
          simpa [hrest, Except.map, eq_comm] using hmap
      · rintro ⟨other, others, hother, hrest, rfl⟩
        rw [ih.2 hrest, hwrites.unique hother]
        rfl

/-- The first text that is no assignment is complained of. -/
theorem parseAll_eq_error_iff {items : List String} {bad : String} :
    parseAll items = .error bad ↔
      ∃ before after, items = before ++ bad :: after ∧
        (∀ item ∈ before, ∃ pair, Writes item pair) ∧ ∀ pair, ¬Writes bad pair := by
  induction items with
  | nil => simp [parseAll]
  | cons item items ih =>
    rcases parseAll_cons_cases item items with ⟨hno, h⟩ | ⟨pair, hwrites, h⟩
    · rw [h]
      constructor
      · intro heq
        obtain rfl := Except.error.inj heq
        exact ⟨[], items, rfl, by simp, hno⟩
      · rintro ⟨before, after, hitems, hgood, hbad⟩
        cases before with
        | nil => rw [(List.cons.inj hitems).1]
        | cons first before =>
          obtain ⟨pair, hpair⟩ := hgood first (List.mem_cons_self ..)
          exact absurd ((List.cons.inj hitems).1 ▸ hpair) (hno pair)
    · have hmap : (parseAll items).map (pair :: ·) = .error bad ↔ parseAll items = .error bad := by
        cases parseAll items <;> simp [Except.map]
      rw [h, hmap, ih]
      constructor
      · rintro ⟨before, after, rfl, hgood, hbad⟩
        exact ⟨item :: before, after, rfl, List.forall_mem_cons.2 ⟨⟨pair, hwrites⟩, hgood⟩, hbad⟩
      · rintro ⟨before, after, hitems, hgood, hbad⟩
        cases before with
        | nil =>
          obtain ⟨rfl, -⟩ := List.cons.inj hitems
          exact absurd hwrites (hbad pair)
        | cons first before =>
          obtain ⟨rfl, rfl⟩ := List.cons.inj hitems
          exact ⟨before, after, rfl, fun i hi => hgood i (List.mem_cons_of_mem _ hi), hbad⟩

/-- A text is an assignment if there is an equals sign in it, but not at its beginning. -/
theorem exists_writes_iff {item : String} :
    (∃ pair, Writes item pair) ↔ '=' ∈ item.toList ∧ item.toList.head? ≠ some '=' := by
  constructor
  · rintro ⟨pair, rfl, hne, hname⟩
    obtain ⟨c, rest, hcons⟩ := List.exists_cons_of_ne_nil (String.toList_eq_nil_iff.not.2 hne)
    have hc : c ≠ '=' := by
      rintro rfl
      simp [hcons] at hname
    simp [hcons, hc]
  · rintro ⟨hmem, hhead⟩
    obtain ⟨name, value, hitem, hname⟩ := List.eq_append_cons_of_mem hmem
    have hne : name ≠ [] := by
      rintro rfl
      simp [hitem] at hhead
    exact ⟨_, parse?_toList_eq_some_iff.1 (parse?_eq_some_iff.2 ⟨hitem, hne, hname⟩)⟩

theorem forall₂_writes_iff {items : List String} {pairs : List (String × String)} :
    List.Forall₂ Writes items pairs ↔
      items = pairs.map (fun pair => pair.1 ++ "=" ++ pair.2) ∧
        ∀ pair ∈ pairs, pair.1 ≠ "" ∧ '=' ∉ pair.1.toList := by
  induction pairs generalizing items with
  | nil => simp
  | cons pair pairs ih =>
    rw [List.forall₂_cons_right_iff, List.map_cons, List.forall_mem_cons]
    constructor
    · rintro ⟨item, others, ⟨hitem, hname⟩, hothers, rfl⟩
      obtain ⟨rfl, hnames⟩ := ih.1 hothers
      exact ⟨by rw [hitem], hname, hnames⟩
    · rintro ⟨rfl, hname, hnames⟩
      exact ⟨_, _, ⟨rfl, hname⟩, ih.2 ⟨rfl, hnames⟩, rfl⟩

/-- The first text that has no equals sign, or has one at its beginning, is complained of. -/
theorem parseAll_eq_error_iff_head? {items : List String} {bad : String} :
    parseAll items = .error bad ↔
      ∃ before after, items = before ++ bad :: after ∧
        (∀ item ∈ before, '=' ∈ item.toList ∧ item.toList.head? ≠ some '=') ∧
        ¬('=' ∈ bad.toList ∧ bad.toList.head? ≠ some '=') := by
  simp only [parseAll_eq_error_iff, ← exists_writes_iff, not_exists]

/-- Reading a list of assignments undoes joining names and values, and joining undoes reading. It
fails just if a text has no equals sign, or has one at its beginning; the first such text is shown
in quotes. -/
theorem parseAll_inverts_joining (items : List String) :
    (∀ pairs, parseAll items = .ok pairs ↔
      items = pairs.map (fun pair => pair.1 ++ "=" ++ pair.2) ∧
        ∀ pair ∈ pairs, pair.1 ≠ "" ∧ '=' ∉ pair.1.toList) ∧
    ((∃ pairs, parseAll items = .ok pairs) ↔
      ∀ item ∈ items, '=' ∈ item.toList ∧ item.toList.head? ≠ some '=') ∧
    (∀ bad, parseAll items = .error bad ↔
      ∃ before after, items = before ++ bad :: after ∧
        (∀ item ∈ before, '=' ∈ item.toList ∧ item.toList.head? ≠ some '=') ∧
        ¬('=' ∈ bad.toList ∧ bad.toList.head? ≠ some '=')) ∧
    ∀ bad, message bad = "Expected name=value, got " ++ Text.quote bad := by
  refine ⟨fun pairs => parseAll_eq_ok_iff.trans forall₂_writes_iff, ⟨?_, ?_⟩,
    fun bad => parseAll_eq_error_iff_head?, fun bad => rfl⟩
  · rintro ⟨pairs, hpairs⟩ item hitem
    obtain ⟨rfl, hnames⟩ := forall₂_writes_iff.1 (parseAll_eq_ok_iff.1 hpairs)
    obtain ⟨pair, hpair, rfl⟩ := List.mem_map.1 hitem
    exact exists_writes_iff.1 ⟨pair, rfl, hnames pair hpair⟩
  · intro hitems
    cases hread : parseAll items with
    | ok pairs => exact ⟨pairs, rfl⟩
    | error bad =>
      obtain ⟨before, after, rfl, -, hbad⟩ := parseAll_eq_error_iff_head?.1 hread
      exact absurd (hitems bad (by simp)) hbad

/-- The first equals sign counts, so that a text may not begin with one. -/
example : parseAll ["q=a=b", "n=", "=a=b", "c"] = .error "=a=b" := by
  decide +kernel

end PathTemplate.Assignment
