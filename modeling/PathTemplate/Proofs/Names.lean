import Mathlib.Data.List.Nodup
import PathTemplate.Proofs.Ways
import PathTemplate.Template

/-!
# What names stand for

Each group of a match belongs to the hole with its number. A name that several holes have stands for
what the last of them captured, and holes without a name are left out.

## Main definitions

* `lastOf?`: what the last hole with a name is paired with.
* `LastNamed`: a hole has a name that no later hole has.

## Main statements

* `Skeleton.map_parameters`: the distinct names of a skeleton, in the order of its holes.
* `Template.extract_eq_ok_iff`: what is extracted from a path.
* `lookup_bindCaptures`, `keys_bindCaptures`: what names stand for, and in which order.
* `mem_bindCaptures_iff`: what is bound was captured by the last hole with its name.
* `Template.mem_bindings_iff`: what is extracted was captured on a way through the expression.
* `bindCaptures_of_nodup`: distinct names stand for their texts in order.
-/

namespace PathTemplate

theorem Template.extract_eq_ok_iff {t : Template} {regex : Regex}
    (h : t.expression = some regex) {path : String} {bindings : Bindings String (Option String)} :
    t.extract path = .ok bindings ↔ ∃ captures, regex.fullMatch? path.toList = some captures ∧
      bindings = bindCaptures (t.skeleton.holes.map (·.1)) captures := by
  rw [extract, extract?, h]
  dsimp only
  cases regex.fullMatch? path.toList with
  | none => simp
  | some captures => simp [eq_comm]

/-- What the last hole with a name is paired with. -/
def lastOf? {α : Type} (holes : List Hole) (items : List α) (name : List Char) : Option α :=
  List.lookup (some name) ((holes.map Hole.name?).zip items).reverse

theorem lastOf?_map {α β : Type} (f : α → β) (holes : List Hole) (items : List α)
    (name : List Char) : lastOf? holes (items.map f) name = (lastOf? holes items name).map f := by
  rw [lastOf?, lastOf?, List.zip_map_right, ← List.map_reverse]
  induction ((holes.map Hole.name?).zip items).reverse with
  | nil => rfl
  | cons pair pairs ih =>
    have hfst : (Prod.map id f pair).1 = pair.1 := rfl
    rw [List.map_cons, List.lookup_cons, List.lookup_cons, hfst]
    cases some name == pair.1 with
    | true => rfl
    | false => exact ih

theorem lookup_filterMap_name? (pairs : List (Hole × Option (List Char)))
    (name : String) :
    List.lookup name (pairs.filterMap fun (hole, capture) =>
        hole.name?.map fun n => (String.ofList n, capture.map String.ofList)) =
      (List.lookup (some name.toList) (pairs.map fun pair => (pair.1.name?, pair.2))).map
        (·.map String.ofList) := by
  induction pairs with
  | nil => rfl
  | cons pair pairs ih =>
    obtain ⟨hole, capture⟩ := pair
    cases hole with
    | wildcard => exact ih
    | param other =>
      have hbeq : (name == String.ofList other) = (some name.toList == some other) := by
        rw [Bool.eq_iff_iff, beq_iff_eq, beq_iff_eq, Option.some.injEq]
        constructor
        · rintro rfl
          exact String.toList_ofList
        · rintro rfl
          exact String.ofList_toList.symm
      change List.lookup name ((String.ofList other, capture.map String.ofList) :: _) =
        (List.lookup (some name.toList) ((some other, capture) :: _)).map _
      rw [List.lookup_cons, List.lookup_cons, hbeq]
      cases some name.toList == some other with
      | true => rfl
      | false => exact ih

/-- A name stands for what its last hole captured. -/
theorem lookup_bindCaptures (holes : List Hole) (captures : List (Option (List Char)))
    (name : String) :
    List.lookup name (Template.bindCaptures holes captures) =
      (lastOf? holes captures name.toList).map (·.map String.ofList) := by
  rw [Template.bindCaptures, Bindings.lookup_ofList, ← List.filterMap_reverse,
    lookup_filterMap_name?, lastOf?, List.zip_map_left, List.map_reverse]
  rfl

/-- A hole has a name that no later hole has. -/
def LastNamed (holes : List Hole) (i : Nat) (name : List Char) : Prop :=
  holes[i]? = some (.param name) ∧ ∀ j, i < j → holes[j]? ≠ some (.param name)

theorem getElem?_concat_eq_some_iff {α : Type} {xs : List α} {x y : α} {i : Nat} :
    (xs ++ [x])[i]? = some y ↔ xs[i]? = some y ∨ i = xs.length ∧ x = y := by
  rw [List.getElem?_append]
  split
  · next hi =>
    have hne : i ≠ xs.length := by omega
    simp [hne]
  · next hi =>
    rw [List.getElem?_eq_none (by omega : xs.length ≤ i), List.getElem?_singleton]
    by_cases heq : i = xs.length
    · simp [heq]
    · rw [if_neg (by omega)]
      simp [heq]

/-- The first pair with a key in a reversed list is the last one. -/
theorem lookup_reverse_eq_some_iff {κ α : Type} [BEq κ] [LawfulBEq κ] {pairs : List (κ × α)}
    {key : κ} {value : α} :
    List.lookup key pairs.reverse = some value ↔
      ∃ i : Nat, pairs[i]? = some (key, value) ∧
        ∀ j, i < j → ∀ other, pairs[j]? ≠ some (key, other) := by
  obtain ⟨pairs, rfl⟩ : ∃ l, pairs = l.reverse := ⟨pairs.reverse, by simp⟩
  rw [List.reverse_reverse]
  induction pairs with
  | nil => simp
  | cons pair pairs ih =>
    obtain ⟨k, v⟩ := pair
    have hlength : ∀ (j : Nat) p, pairs.reverse[j]? = some p → j < pairs.reverse.length :=
      fun j p hj => (List.getElem?_eq_some_iff.1 hj).1
    simp only [List.reverse_cons, List.lookup_cons, ne_eq, getElem?_concat_eq_some_iff, not_or,
      not_and, Prod.mk.injEq]
    by_cases hk : key = k
    · subst hk
      rw [beq_self_eq_true]
      constructor
      · rintro hv
        obtain rfl := Option.some.inj hv
        refine ⟨pairs.reverse.length, .inr ⟨rfl, rfl, rfl⟩, fun j hj other => ⟨fun h => ?_, ?_⟩⟩
        · exact absurd (hlength _ _ h) (by omega)
        · omega
      · rintro ⟨i, hi | ⟨rfl, -, rfl⟩, hlast⟩
        · have hend := (hlast pairs.reverse.length (hlength _ _ hi) v).2 rfl rfl
          exact absurd rfl hend
        · rfl
    · rw [beq_eq_false_iff_ne.2 hk, ih]
      constructor
      · rintro ⟨i, hi, hlast⟩
        exact ⟨i, .inl hi, fun j hj other => ⟨hlast j hj other, fun _ h => absurd h.symm hk⟩⟩
      · rintro ⟨i, hi | ⟨-, h, -⟩, hlast⟩
        · exact ⟨i, hi, fun j hj other => (hlast j hj other).1⟩
        · exact absurd h.symm hk

theorem lastOf?_eq_some_iff {α : Type} {holes : List Hole} {items : List α}
    (hlength : holes.length = items.length) {name : List Char} {item : α} :
    lastOf? holes items name = some item ↔
      ∃ i : Nat, LastNamed holes i name ∧ items[i]? = some item := by
  rw [lastOf?, lookup_reverse_eq_some_iff]
  have hpair : ∀ (i : Nat) x, ((holes.map Hole.name?).zip items)[i]? = some (some name, x) ↔
      holes[i]? = some (.param name) ∧ items[i]? = some x := by
    intro i x
    rw [List.getElem?_zip_eq_some, List.getElem?_map, Option.map_eq_some_iff]
    refine and_congr_left fun _ => ⟨?_, fun h => ⟨_, h, rfl⟩⟩
    rintro ⟨hole, hhole, hname⟩
    cases hole with
    | wildcard => simp [Hole.name?] at hname
    | param other =>
      rw [hhole, Option.some.inj hname]
  constructor
  · rintro ⟨i, hi, hlast⟩
    obtain ⟨hhole, hitem⟩ := (hpair i item).1 hi
    refine ⟨i, ⟨hhole, fun j hj hh => ?_⟩, hitem⟩
    have hj' : j < items.length := hlength ▸ (List.getElem?_eq_some_iff.1 hh).1
    exact hlast j hj items[j] ((hpair j _).2 ⟨hh, List.getElem?_eq_getElem hj'⟩)
  · rintro ⟨i, ⟨hhole, hlast⟩, hitem⟩
    exact ⟨i, (hpair i item).2 ⟨hhole, hitem⟩, fun j hj x h => hlast j hj ((hpair j x).1 h).1⟩

theorem Skeleton.map_parameters (s : Skeleton) :
    s.parameters.map String.ofList =
      (s.holes.filterMap fun hole => hole.1.name?.map String.ofList).eraseDups := by
  rw [parameters, map_eraseDups fun a _ b _ h => String.ofList_injective h, List.map_filterMap]

theorem keys_bindCaptures {s : Skeleton} {captures : List (Option (List Char))}
    (h : captures.length = s.holes.length) :
    Bindings.keys (Template.bindCaptures (s.holes.map (·.1)) captures) =
      s.parameters.map String.ofList := by
  rw [Template.bindCaptures, Bindings.keys_ofList, s.map_parameters, List.map_filterMap]
  congr 1
  generalize s.holes = holes at h
  induction holes generalizing captures with
  | nil => rfl
  | cons hole holes ih =>
    obtain ⟨capture, captures, rfl⟩ := List.exists_cons_of_length_eq_add_one h
    have hrest := ih (Nat.succ.inj h)
    cases hn : hole.1.name? <;> simp_all

/-- What is bound to a name was captured by the last hole with that name. -/
theorem mem_bindCaptures_iff {holes : List Hole} {captures : List (Option (List Char))}
    (hlength : holes.length = captures.length) {name : String} {value : Option String} :
    (name, value) ∈ Template.bindCaptures holes captures ↔
      ∃ i : Nat, LastNamed holes i name.toList ∧
        ∃ capture, captures[i]? = some capture ∧ value = capture.map String.ofList := by
  have hnodup : (Bindings.keys (Template.bindCaptures holes captures)).Nodup := by
    rw [Template.bindCaptures, Bindings.keys_ofList]
    exact nodup_eraseDups _
  rw [← Bindings.lookup_eq_some_iff hnodup, lookup_bindCaptures, Option.map_eq_some_iff]
  constructor
  · rintro ⟨capture, hlast, rfl⟩
    obtain ⟨i, hi, hcapture⟩ := (lastOf?_eq_some_iff hlength).1 hlast
    exact ⟨i, hi, capture, hcapture, rfl⟩
  · rintro ⟨i, hi, capture, hcapture, rfl⟩
    exact ⟨capture, (lastOf?_eq_some_iff hlength).2 ⟨i, hi, hcapture⟩, rfl⟩

/-- What is extracted was captured, on some way through the expression to the end of the path, by
the group with the number of the last hole with its name. -/
theorem Template.mem_bindings_iff {t : Template} {regex : Regex}
    (hexpression : t.expression = some regex)
    (hcount : regex.groupCount = t.skeleton.holes.length) {path : String}
    {bindings : Bindings String (Option String)} (h : t.extract path = .ok bindings) :
    ∃ s : Regex.State, regex.body.Leads (.start path.toList regex.groupCount) s ∧ s.after = [] ∧
      ∀ name value, (name, value) ∈ bindings ↔
        ∃ i, LastNamed (t.skeleton.holes.map (·.1)) i name.toList ∧
          value = (s.captured? (i + 1)).map String.ofList := by
  obtain ⟨captures, hmatch, rfl⟩ := (extract_eq_ok_iff hexpression).1 h
  obtain ⟨s, hs, hend, hlength, rfl⟩ := Regex.fullMatch?_leads hmatch
  have hcaptures : (t.skeleton.holes.map (·.1)).length = s.captures.length := by
    rw [Regex.State.captures, List.length_map, List.length_map, hlength, hcount]
  refine ⟨s, hs, hend, fun name value => (mem_bindCaptures_iff hcaptures).trans ?_⟩
  refine exists_congr fun i => and_congr_right fun hlast => ?_
  have hi : i < s.marks.length := by
    have hlt := (List.getElem?_eq_some_iff.1 hlast.1).1
    rwa [List.length_map, ← hcount, ← hlength] at hlt
  rw [Regex.State.getElem?_captures hi]
  simp

theorem filterMap_name?_of_named {holes : List (Hole × List Char)}
    (hnamed : ∀ hole ∈ holes, hole.1 = .param hole.1.name) (pieces : List (List Char)) :
    (((holes.map (·.1)).zip (pieces.map some)).filterMap fun (hole, capture) =>
        hole.name?.map fun name => (String.ofList name, capture.map String.ofList)) =
      ((holes.map fun hole => String.ofList hole.1.name).zip (pieces.map String.ofList)).map
        fun (name, text) => (name, some text) := by
  induction holes generalizing pieces with
  | nil => rfl
  | cons hole holes ih =>
    cases pieces with
    | nil => rfl
    | cons piece pieces =>
      have hhole := hnamed hole (List.mem_cons_self ..)
      have hrest := ih (fun hole hm => hnamed hole (List.mem_cons_of_mem _ hm)) pieces
      simp only [List.map_cons, List.zip_cons_cons]
      rw [List.filterMap_cons, hrest, hhole]
      rfl

/-- Distinct names stand for the texts of their groups, in order. -/
theorem bindCaptures_of_nodup {holes : List (Hole × List Char)}
    (hnamed : ∀ hole ∈ holes, hole.1 = .param hole.1.name)
    (hnodup : (holes.map (·.1.name)).Nodup) {pieces : List (List Char)}
    (hlength : pieces.length = holes.length) :
    Template.bindCaptures (holes.map (·.1)) (pieces.map some) =
      ((holes.map fun hole => String.ofList hole.1.name).zip (pieces.map String.ofList)).map
        fun (name, text) => (name, some text) := by
  rw [Template.bindCaptures, filterMap_name?_of_named hnamed, Bindings.ofList_of_nodup]
  have hkeys : (((holes.map fun hole => String.ofList hole.1.name).zip
        (pieces.map String.ofList)).map fun (name, text) => (name, some text)).map Prod.fst =
      (holes.map (·.1.name)).map String.ofList := by
    rw [List.map_map, List.map_map]
    exact List.map_fst_zip (by simp [hlength])
  rw [hkeys]
  exact List.Nodup.map (fun _ _ => String.ofList_injective) hnodup

end PathTemplate
