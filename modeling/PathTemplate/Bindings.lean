/-!
# Bindings in order of first mention

A finite map that remembers the order in which its keys were first bound. Binding a key again
replaces the value and keeps the place.

## Main definitions

* `Bindings`: the map, as a list of pairs.
* `Bindings.insert`, `Bindings.ofList`: binding one key, and the pairs of a list one after another.

## Main statements

* `Bindings.lookup_insert`: what is bound after one more binding.
* `Bindings.keys_insert`: a new key comes last, and a known one changes no order.
* `Bindings.lookup_ofList`: the last pair with a key counts.
* `Bindings.keys_ofList`: each key once, in the order of first mention.
* `Bindings.lookup_perm`: the order of pairs with distinct keys does not matter.
* `Bindings.ofList_of_nodup`: pairs with distinct keys stay as they are.
* `Bindings.ofList_map`: other keys are bound in the same way.
-/

namespace PathTemplate

/-- A map from keys to values, in the order of the first binding of each key. -/
abbrev Bindings (κ α : Type) := List (κ × α)

/-! ## Lists without repetition -/

section Distinct

variable {α β : Type} [BEq α] [LawfulBEq α]

theorem nodup_eraseDups (as : List α) : as.eraseDups.Nodup := by
  induction hn : as.length using Nat.strongRecOn generalizing as with
  | ind n ih =>
    cases as with
    | nil => simp
    | cons b as =>
      have hlen : (as.filter fun c => !c == b).length < n :=
        hn ▸ Nat.lt_succ_of_le (List.length_filter_le ..)
      rw [List.eraseDups_cons, List.nodup_cons, List.mem_eraseDups]
      exact ⟨by simp, ih _ hlen _ rfl⟩

theorem eraseDups_of_nodup {as : List α} (h : as.Nodup) : as.eraseDups = as := by
  induction as with
  | nil => rfl
  | cons a as ih =>
    obtain ⟨ha, has⟩ := List.nodup_cons.1 h
    have hfilter : (as.filter fun c => !c == a) = as := by
      rw [List.filter_eq_self]
      intro c hc
      have : c ≠ a := fun h => ha (h ▸ hc)
      simp [this]
    rw [List.eraseDups_cons, hfilter, ih has]

/-- A function that keeps the elements of a list apart keeps what stands there once. -/
theorem map_eraseDups [BEq β] [LawfulBEq β] {f : α → β} {as : List α}
    (hf : ∀ a ∈ as, ∀ b ∈ as, f a = f b → a = b) : as.eraseDups.map f = (as.map f).eraseDups := by
  induction hn : as.length using Nat.strongRecOn generalizing as with
  | ind n ih =>
    cases as with
    | nil => rfl
    | cons b as =>
      have hlen : (as.filter fun c => !c == b).length < n :=
        hn ▸ Nat.lt_succ_of_le (List.length_filter_le ..)
      have hsame : ∀ c ∈ as, (!f c == f b) = (!c == b) := by
        intro c hc
        have := hf c (List.mem_cons_of_mem _ hc) b (List.mem_cons_self ..)
        grind
      have hrest : ∀ c ∈ as.filter fun c => !c == b, c ∈ b :: as := fun c hc =>
        List.mem_cons_of_mem _ (List.mem_filter.1 hc).1
      rw [List.eraseDups_cons, List.map_cons, List.map_cons, List.eraseDups_cons,
        ih _ hlen (fun c hc d hd => hf c (hrest c hc) d (hrest d hd)) rfl, List.filter_map]
      simp only [Function.comp_def, List.filter_congr hsame]

end Distinct

namespace Bindings

variable {κ α : Type} [BEq κ]

/-- Binds a key: in its place if it is known, else at the end. -/
def insert (key : κ) (value : α) : Bindings κ α → Bindings κ α
  | [] => [(key, value)]
  | (k, v) :: rest => if k == key then (k, value) :: rest else (k, v) :: insert key value rest

def ofList (pairs : List (κ × α)) : Bindings κ α :=
  pairs.foldl (fun b pair => b.insert pair.1 pair.2) []

def keys (b : Bindings κ α) : List κ :=
  b.map Prod.fst

omit [BEq κ] in
@[simp] theorem keys_nil : keys ([] : Bindings κ α) = [] := rfl

omit [BEq κ] in
@[simp] theorem keys_cons (pair : κ × α) (b : Bindings κ α) : keys (pair :: b) = pair.1 :: keys b :=
  rfl

@[simp] theorem ofList_nil : ofList ([] : List (κ × α)) = [] := rfl

theorem ofList_concat (pairs : List (κ × α)) (pair : κ × α) :
    ofList (pairs ++ [pair]) = (ofList pairs).insert pair.1 pair.2 := by
  simp [ofList]

theorem lookup_insert [LawfulBEq κ] (key : κ) (value : α) (b : Bindings κ α) (other : κ) :
    List.lookup other (b.insert key value) =
      if other == key then some value else List.lookup other b := by
  induction b with
  | nil =>
    cases h : other == key <;> simp [insert, List.lookup_cons, h]
  | cons pair rest ih =>
    obtain ⟨k, v⟩ := pair
    by_cases hk : k == key
    · obtain rfl := eq_of_beq hk
      cases ho : other == k <;> simp [insert, List.lookup_cons, ho]
    · cases ho : other == k with
      | true =>
        obtain rfl := eq_of_beq ho
        simp [insert, hk]
      | false => simp [insert, List.lookup_cons, hk, ho, ih]

theorem keys_insert [LawfulBEq κ] (key : κ) (value : α) (b : Bindings κ α) :
    keys (b.insert key value) = if key ∈ keys b then keys b else keys b ++ [key] := by
  induction b with
  | nil => simp [insert]
  | cons pair rest ih =>
    obtain ⟨k, v⟩ := pair
    by_cases hk : k == key
    · obtain rfl := eq_of_beq hk
      simp [insert]
    · have hne : key ≠ k := fun h => hk (by simp [h])
      simp only [insert, hk, Bool.false_eq_true, if_false, keys_cons, ih, List.mem_cons, hne,
        false_or]
      split <;> simp

/-- The last pair with a key counts. -/
theorem lookup_ofList [LawfulBEq κ] (pairs : List (κ × α)) (key : κ) :
    List.lookup key (ofList pairs) = List.lookup key pairs.reverse := by
  obtain ⟨pairs, rfl⟩ : ∃ l, pairs = l.reverse := ⟨pairs.reverse, by simp⟩
  rw [List.reverse_reverse]
  induction pairs with
  | nil => rfl
  | cons pair pairs ih =>
    rw [List.reverse_cons, ofList_concat, lookup_insert, ih, List.lookup_cons]
    cases key == pair.1 <;> rfl

theorem keys_ofList [LawfulBEq κ] (pairs : List (κ × α)) :
    keys (ofList pairs) = (pairs.map Prod.fst).eraseDups := by
  obtain ⟨pairs, rfl⟩ : ∃ l, pairs = l.reverse := ⟨pairs.reverse, by simp⟩
  induction pairs with
  | nil => rfl
  | cons pair pairs ih =>
    rw [List.reverse_cons, ofList_concat, keys_insert, ih, List.map_append, List.eraseDups_append]
    by_cases hmem : pair.1 ∈ pairs.reverse.map Prod.fst
    · rw [if_pos (List.mem_eraseDups.2 hmem)]
      simp_all [List.removeAll]
    · rw [if_neg fun h => hmem (List.mem_eraseDups.1 h)]
      simp_all [List.removeAll, List.eraseDups_cons]

theorem lookup_eq_some_of_mem [LawfulBEq κ] {pairs : List (κ × α)}
    (h : (pairs.map Prod.fst).Nodup) {key : κ} {value : α} (hm : (key, value) ∈ pairs) :
    List.lookup key pairs = some value := by
  induction pairs with
  | nil => simp at hm
  | cons pair pairs ih =>
    obtain ⟨hnew, hrest⟩ := List.nodup_cons.1 h
    rcases List.mem_cons.1 hm with rfl | hm
    · simp
    · have hne : (key == pair.1) = false := by
        rw [beq_eq_false_iff_ne]
        rintro rfl
        exact hnew (List.mem_map.2 ⟨_, hm, rfl⟩)
      rw [List.lookup_cons, hne]
      exact ih hrest hm

theorem lookup_eq_some_iff [LawfulBEq κ] {pairs : List (κ × α)} (h : (pairs.map Prod.fst).Nodup)
    {key : κ} {value : α} : List.lookup key pairs = some value ↔ (key, value) ∈ pairs := by
  refine ⟨fun hlookup => ?_, lookup_eq_some_of_mem h⟩
  obtain ⟨before, after, rfl, -⟩ := List.lookup_eq_some_iff.1 hlookup
  simp

theorem lookup_perm [LawfulBEq κ] {pairs others : List (κ × α)} (hperm : pairs.Perm others)
    (h : (pairs.map Prod.fst).Nodup) (key : κ) :
    List.lookup key pairs = List.lookup key others := by
  apply Option.ext
  intro value
  rw [lookup_eq_some_iff h, lookup_eq_some_iff ((hperm.map Prod.fst).nodup_iff.1 h),
    hperm.mem_iff]

theorem insert_of_not_mem [LawfulBEq κ] {b : Bindings κ α} {key : κ} (h : key ∉ b.keys)
    (value : α) : b.insert key value = b ++ [(key, value)] := by
  induction b with
  | nil => rfl
  | cons pair b ih =>
    obtain ⟨hne, hrest⟩ := List.ne_and_not_mem_of_not_mem_cons h
    have hbeq : (pair.1 == key) = false := beq_eq_false_iff_ne.2 (Ne.symm hne)
    simp [insert, hbeq, ih hrest]

theorem ofList_of_nodup [LawfulBEq κ] {pairs : List (κ × α)} (h : (pairs.map Prod.fst).Nodup) :
    ofList pairs = pairs := by
  obtain ⟨pairs, rfl⟩ : ∃ l, pairs = l.reverse := ⟨pairs.reverse, by simp⟩
  induction pairs with
  | nil => rfl
  | cons pair pairs ih =>
    rw [List.reverse_cons, List.map_append, List.nodup_append] at h
    rw [List.reverse_cons, ofList_concat, ih h.1]
    exact insert_of_not_mem (fun hm => h.2.2 _ hm _ (List.mem_singleton_self _) rfl) _

/-! ## Other keys -/

variable {κ' : Type} [BEq κ'] {f : κ → κ'}

/-- Keys can be replaced after a binding or before, if the replacements are the same just where the
keys are. -/
theorem insert_map {b : Bindings κ α} {key : κ}
    (h : ∀ other ∈ b.keys, (f other == f key) = (other == key)) (value : α) :
    Bindings.insert (f key) value (b.map (Prod.map f id)) =
      (b.insert key value).map (Prod.map f id) := by
  induction b with
  | nil => rfl
  | cons pair b ih =>
    obtain ⟨other, bound⟩ := pair
    have hother := h other (List.mem_cons_self ..)
    have hrest := ih fun other hm => h other (List.mem_cons_of_mem _ hm)
    cases hkey : other == key <;> simp [insert, hother, hkey, hrest]

/-- Keys can be replaced after all bindings or before. -/
theorem ofList_map [LawfulBEq κ] {pairs : List (κ × α)}
    (h : ∀ a ∈ pairs.map Prod.fst, ∀ b ∈ pairs.map Prod.fst, (f a == f b) = (a == b)) :
    ofList (pairs.map (Prod.map f id)) = (ofList pairs).map (Prod.map f id) := by
  obtain ⟨pairs, rfl⟩ : ∃ l, pairs = l.reverse := ⟨pairs.reverse, by simp⟩
  induction pairs with
  | nil => rfl
  | cons pair pairs ih =>
    rw [List.reverse_cons] at h ⊢
    have hkeys : pairs.reverse.map Prod.fst ⊆ (pairs.reverse ++ [pair]).map Prod.fst :=
      List.map_subset _ (List.subset_append_left ..)
    have hpairs := ih fun a ha b hb => h a (hkeys ha) b (hkeys hb)
    rw [List.map_append, List.map_singleton, ofList_concat, hpairs, ofList_concat]
    refine insert_map (f := f) (fun other hm => ?_) pair.2
    rw [keys_ofList, List.mem_eraseDups] at hm
    exact h other (hkeys hm) pair.1 (by simp)

end Bindings

end PathTemplate
