import Mathlib.Data.List.Forall2
import PathTemplate.Proofs.Precedence

/-!
# Names of levels

A name is checked by its lower-case form, and its number is looked up by its upper-case form. The two
never disagree: outside ASCII, the only character that becomes a letter of ASCII in lower case is the
Kelvin sign, and no level has a `k`. So the names that are accepted are those of the levels, in small
and capital letters of ASCII, and each has the number of its level.

## Main definitions

* `Text.Spells`: a text is a name in small and capital letters.

## Main statements

* `Text.exists_mem_lowerChar`: what becomes of characters outside ASCII in lower case.
* `Text.lower_eq_iff`, `Text.Spells.upper_eq`: the two forms of a text that spells a name.
* `Settings.knownLevel_iff`, `Settings.numberOf?_of_spells`: what is checked, and what is looked up.
* `Settings.accepted_level_resolves`: which names are accepted, and with which number.
-/

namespace PathTemplate

namespace Text

/-- A text is a name of small letters, each of which may also be written as a capital. -/
def Spells (text name : List Char) : Prop :=
  List.Forall₂ (fun c letter => c = letter ∨ c = letter.toUpper) text name

/-! ## Letters of ASCII -/

theorem isLower_iff {c : Char} : c.isLower = true ↔ 97 ≤ c.toNat ∧ c.toNat ≤ 122 := by
  change (decide (c.val ≥ 'a'.val) && decide (c.val ≤ 'z'.val)) = true ↔ _
  simp only [Bool.and_eq_true, decide_eq_true_eq, ge_iff_le, UInt32.le_iff_toNat_le, Char.toNat_val]
  exact Iff.rfl

theorem isUpper_iff {c : Char} : c.isUpper = true ↔ 65 ≤ c.toNat ∧ c.toNat ≤ 90 := by
  change decide (c.val ≥ 'A'.val ∧ c.val ≤ 'Z'.val) = true ↔ _
  simp only [decide_eq_true_eq, ge_iff_le, UInt32.le_iff_toNat_le, Char.toNat_val]
  exact Iff.rfl

theorem isAlpha_iff {c : Char} : c.isAlpha = true ↔ c.isUpper = true ∨ c.isLower = true := by
  change (c.isUpper || c.isLower) = true ↔ _
  rw [Bool.or_eq_true]

theorem toNat_toLower (c : Char) :
    c.toLower.toNat = if 65 ≤ c.toNat ∧ c.toNat ≤ 90 then c.toNat + 32 else c.toNat := by
  change Char.toNat (if h : 'A'.toNat ≤ c.toNat ∧ c.toNat ≤ 'Z'.toNat then _ else c) = _
  split
  · next h =>
    have hadd : (c.val + 32).toNat = c.toNat + 32 := by
      rw [UInt32.toNat_add, Char.toNat_val]
      exact Nat.mod_eq_of_lt (Nat.lt_of_le_of_lt (Nat.add_le_add_right h.2 32) (by decide))
    exact hadd.trans (if_pos h).symm
  · next h => exact (if_neg h).symm

theorem toNat_toUpper (c : Char) :
    c.toUpper.toNat = if 97 ≤ c.toNat ∧ c.toNat ≤ 122 then c.toNat - 32 else c.toNat := by
  change Char.toNat (if h : 'a'.toNat ≤ c.toNat ∧ c.toNat ≤ 'z'.toNat then _ else c) = _
  split
  · next h =>
    -- The distance is negative, so the sum wraps around.
    have hsub : (c.val + ('A'.val - 'a'.val)).toNat = c.toNat - 32 := by
      have hle : 97 ≤ c.toNat := h.1
      have hge : c.toNat ≤ 122 := h.2
      have hdistance : ('A'.val - 'a'.val).toNat = 4294967264 := rfl
      rw [UInt32.toNat_add, Char.toNat_val, hdistance]
      omega
    exact hsub.trans (if_pos h).symm
  · next h => exact (if_neg h).symm

theorem toNat_lt_of_isAlpha {c : Char} (h : c.isAlpha = true) : c.toNat < 128 := by
  rw [isAlpha_iff, isUpper_iff, isLower_iff] at h
  omega

/-! ## Characters outside ASCII -/

theorem isAlpha_of_le {c : Char} (h : 128 ≤ c.toNat) : c.isAlpha = false := by
  rw [← Bool.not_eq_true]
  exact fun halpha => absurd (toNat_lt_of_isAlpha halpha) (Nat.not_lt.2 h)

/-- A code outside ASCII is that of no letter of ASCII, also if it is that of no character. -/
theorem isAlpha_ofNat {code : Nat} (h : 128 ≤ code) : (Char.ofNat code).isAlpha = false := by
  by_cases hvalid : code.isValidChar
  · have hcode : Char.ofNat code = Char.ofNatAux code hvalid := dif_pos hvalid
    rw [hcode]
    exact isAlpha_of_le h
  · have hcode : Char.ofNat code = '\x00' := dif_neg hvalid
    rw [hcode]
    rfl

/-- The first character of a run stays outside ASCII, except for the Kelvin sign. -/
theorem le_shift_of_mem_lowerRuns : ∀ r ∈ lowerRuns,
    128 ≤ (r.first : Int) + r.shift ∨ r.first = r.last ∧ (r.first : Int) + r.shift = 'k'.toNat := by
  decide +kernel

/-- A run takes characters outside ASCII to others, or the Kelvin sign to a small `k`. -/
theorem le_target_of_mem_lowerRuns {r : CaseRun} (hr : r ∈ lowerRuns) {code target : Nat}
    (h : r.target? code = some target) : 128 ≤ target ∨ target = 'k'.toNat := by
  unfold CaseRun.target? at h
  split at h
  · next hrange =>
    obtain rfl := Option.some.inj h
    -- All characters of a run move by the same distance, so the first of them decides.
    have hfirst := le_shift_of_mem_lowerRuns r hr
    omega
  · simp at h

theorem exists_le_of_mem_lowerExpansions : ∀ e ∈ lowerExpansions, ∃ code ∈ e.2, 128 ≤ code := by
  decide

/-- A character outside ASCII becomes a small `k` in lower case, or something that has more than
letters of ASCII. -/
theorem exists_mem_lowerChar {c : Char} (h : 128 ≤ c.toNat) :
    ∃ d ∈ lowerChar c, d.isAlpha = false ∨ d = 'k' := by
  rw [lowerChar, if_neg (Nat.not_lt.2 h), mapCase]
  split
  · next codes hcodes =>
    obtain ⟨before, after, heq, -⟩ := List.lookup_eq_some_iff.1 hcodes
    have hmem : (c.toNat, codes) ∈ lowerExpansions := by simp [heq]
    obtain ⟨code, hcode, hle⟩ := exists_le_of_mem_lowerExpansions _ hmem
    exact ⟨_, List.mem_map.2 ⟨code, hcode, rfl⟩, .inl (isAlpha_ofNat hle)⟩
  · split
    · next target htarget =>
      refine ⟨_, List.mem_singleton_self _, ?_⟩
      obtain ⟨r, hr, hr'⟩ := List.exists_of_findSome?_eq_some htarget
      rcases le_target_of_mem_lowerRuns hr hr' with hle | rfl
      · exact .inl (isAlpha_ofNat hle)
      · exact .inr (Char.ofNat_toNat 'k')
    · exact ⟨c, List.mem_singleton_self c, .inl (isAlpha_of_le h)⟩

/-! ## Small and capital letters -/

variable {text name : List Char}

theorem toLower_eq_iff {c letter : Char} (h : letter.isLower = true) :
    c.toLower = letter ↔ c = letter ∨ c = letter.toUpper := by
  rw [isLower_iff] at h
  simp only [← Char.toNat_inj, toNat_toLower, toNat_toUpper]
  grind

/-- What spells a small letter is in ASCII, and has the same capital. -/
theorem lt_and_toUpper_of_spells {c letter : Char} (h : letter.isLower = true)
    (hc : c = letter ∨ c = letter.toUpper) : c.toNat < 128 ∧ c.toUpper = letter.toUpper := by
  rw [isLower_iff] at h
  simp only [← Char.toNat_inj, toNat_toUpper] at hc ⊢
  grind

/-- A text has a name without `k` as its lower-case form just if it spells the name. -/
theorem lower_eq_iff (hname : ∀ letter ∈ name, letter.isLower = true ∧ letter ≠ 'k') :
    lower text = name ↔ Spells text name := by
  induction text generalizing name with
  | nil => rw [lower_nil, Spells, List.forall₂_nil_left_iff, eq_comm]
  | cons c text ih =>
    rw [lower_cons, Spells, List.forall₂_cons_left_iff]
    by_cases hc : c.toNat < 128
    · rw [lowerChar, if_pos hc, List.singleton_append]
      constructor
      · rintro rfl
        obtain ⟨hletter, hrest⟩ := List.forall_mem_cons.1 hname
        exact ⟨_, _, (toLower_eq_iff hletter.1).1 rfl, (ih hrest).1 rfl, rfl⟩
      · rintro ⟨letter, rest, hletter, hrest, rfl⟩
        obtain ⟨hlower, hname⟩ := List.forall_mem_cons.1 hname
        rw [(toLower_eq_iff hlower.1).2 hletter, (ih hname).2 hrest]
    · -- Neither side holds: the character is no letter of ASCII, and does not become one but `k`.
      constructor
      · rintro rfl
        obtain ⟨d, hd, hforeign⟩ := exists_mem_lowerChar (Nat.not_lt.1 hc)
        obtain ⟨hlower, hk⟩ := hname d (List.mem_append_left _ hd)
        rcases hforeign with halpha | rfl
        · exact absurd (isAlpha_iff.2 (.inr hlower)) (by simp [halpha])
        · exact absurd rfl hk
      · rintro ⟨letter, rest, hletter, -, rfl⟩
        exact absurd (lt_and_toUpper_of_spells (hname letter (List.mem_cons_self ..)).1 hletter).1 hc

/-- All texts that spell a name have the same upper-case form. -/
theorem Spells.upper_eq (h : Spells text name) (hname : ∀ letter ∈ name, letter.isLower = true) :
    upper text = name.map Char.toUpper := by
  induction h with
  | nil => rfl
  | @cons c letter text name hc _ ih =>
    obtain ⟨hletter, hrest⟩ := List.forall_mem_cons.1 hname
    obtain ⟨hlt, hupper⟩ := lt_and_toUpper_of_spells hletter hc
    rw [upper_cons, upperChar, if_pos hlt, ih hrest, hupper]
    rfl

end Text

namespace Settings

open Text (Spells)

/-! ## Levels -/

theorem letters_of_level (level : Level) :
    ∀ letter ∈ level.name.toList, letter.isLower = true ∧ letter ≠ 'k' := by
  have hall : level.name.toList.all (fun letter => letter.isLower && letter != 'k') = true := by
    cases level <;> decide
  simpa using hall

theorem lower_eq_name_iff {name : String} {level : Level} :
    Text.lower name.toList = level.name.toList ↔ Spells name.toList level.name.toList :=
  Text.lower_eq_iff (letters_of_level level)

theorem knownLevel_iff {name : String} :
    knownLevel name = true ↔ ∃ level : Level, Spells name.toList level.name.toList := by
  have hall : ∀ level : Level, level ∈ Level.all := by
    intro level
    cases level <;> decide
  simp only [knownLevel, List.any_eq_true, beq_iff_eq, lower_eq_name_iff]
  exact ⟨fun ⟨level, _, h⟩ => ⟨level, h⟩, fun ⟨level, h⟩ => ⟨level, hall level, h⟩⟩

theorem numberOf?_of_spells {name : String} {level : Level}
    (h : Spells name.toList level.name.toList) : numberOf? name = some level.number := by
  have hupper := h.upper_eq fun letter hletter => (letters_of_level level letter hletter).1
  rw [numberOf?, hupper]
  cases level <;> decide

theorem level_of_spells {s : Settings} {level : Level}
    (h : Spells s.levelName.toList level.name.toList) : s.level = level := by
  rw [Settings.level, lower_eq_name_iff.2 h]
  cases level <;> decide

theorem ofFields_level (name : String) :
    ofFields [(levelField, .text name)] =
      if knownLevel name then .ok ⟨name, .text defaultFormat, .bool false⟩
      else .error (.unknownLevel (.text name)) :=
  ofFields_of_level rfl rfl

/-- A name is accepted just if it spells a level. It then has the number of that level, in whatever
letters it is written. All other names are refused. -/
theorem accepted_level_resolves (name : String) :
    ((∃ s, ofFields [(levelField, .text name)] = .ok s) ↔
      ∃ level : Level, Spells name.toList level.name.toList) ∧
    (∀ level : Level, Spells name.toList level.name.toList →
      ∃ s, ofFields [(levelField, .text name)] = .ok s ∧
        s.levelNumber? = some level.number ∧ s.level = level) ∧
    ((∀ level : Level, ¬Spells name.toList level.name.toList) →
      ofFields [(levelField, .text name)] = .error (.unknownLevel (.text name))) := by
  rw [ofFields_level, ← knownLevel_iff]
  refine ⟨?_, fun level hspells => ?_, fun hnone => ?_⟩
  · by_cases hknown : knownLevel name = true <;> simp [hknown]
  · rw [if_pos (knownLevel_iff.2 ⟨level, hspells⟩)]
    exact ⟨_, rfl, numberOf?_of_spells hspells, level_of_spells hspells⟩
  · rw [if_neg fun hknown => (knownLevel_iff.1 hknown).elim hnone]

/-- A name in mixed letters has the number of its level. -/
theorem accepted_level_resolves_mixed :
    Spells "wArNING".toList Level.warning.name.toList ∧
      ∃ s, ofFields [(levelField, .text "wArNING")] = .ok s ∧ s.levelNumber? = some 30 := by
  have hspells : Spells "wArNING".toList Level.warning.name.toList := by
    simp [Spells, Level.name]
  obtain ⟨s, hs, hnumber, -⟩ := (accepted_level_resolves "wArNING").2.1 .warning hspells
  exact ⟨hspells, s, hs, hnumber⟩

/-- A capital I with a dot becomes two characters, of which one is the dot. -/
example : knownLevel "\u0130nfo" = false := by
  decide +kernel

end Settings

end PathTemplate
