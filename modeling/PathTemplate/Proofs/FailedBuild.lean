import PathTemplate.Proofs.Building
import PathTemplate.Proofs.Extraction

/-!
# Why a build fails

A build that fails for its names says which of them are missing, how many values were supplied and
how many were expected, and leaves one record with the two numbers. Without wildcards, names are
missing unless there are more values than names, since as many values as names that cover all names
would fit.

## Main definitions

* `BuildError.Diagnoses`: an error that accounts for names that do not fit.

## Main statements

* `pairwise_idxOf_eraseDups`: removing repetitions keeps the order of first mention.
* `Template.length_parameters_lt`: more values than names, if no name is missing.
* `Template.diagnoses_buildFrom`: the error of a build that fails.
* `failed_build_diagnosed`: the error and the record of a build that fails.
-/

namespace PathTemplate

/-! ## The order of first mention -/

section FirstMention

variable {α : Type} [BEq α] [LawfulBEq α] {as : List α} {a b : α}

/-- Leaving out others keeps the order of first mention. -/
theorem idxOf_lt_of_filter (keep : α → Bool) (ha : keep a = true) (hb : keep b = true)
    (h : (as.filter keep).idxOf a < (as.filter keep).idxOf b) : as.idxOf a < as.idxOf b := by
  induction as with
  | nil => simp at h
  | cons c as ih =>
    by_cases hc : keep c = true
    · rw [List.filter_cons_of_pos hc, List.idxOf_cons, List.idxOf_cons] at h
      rw [List.idxOf_cons, List.idxOf_cons]
      grind
    · rw [List.filter_cons_of_neg hc] at h
      have hlt := ih h
      rw [List.idxOf_cons, List.idxOf_cons]
      grind

/-- Without repetitions, elements stand in the order of first mention. -/
theorem pairwise_idxOf_eraseDups (as : List α) :
    as.eraseDups.Pairwise fun a b => as.idxOf a < as.idxOf b := by
  induction hn : as.length using Nat.strongRecOn generalizing as with
  | ind n ih =>
    cases as with
    | nil => simp
    | cons c as =>
      have hlen : (as.filter fun d => !d == c).length < n :=
        hn ▸ Nat.lt_succ_of_le (List.length_filter_le ..)
      have hne : ∀ d ∈ (as.filter fun d => !d == c).eraseDups, (!d == c) = true := fun d hd =>
        (List.mem_filter.1 (List.mem_eraseDups.1 hd)).2
      rw [List.eraseDups_cons, List.pairwise_cons]
      constructor
      · intro d hd
        have := hne d hd
        rw [List.idxOf_cons, List.idxOf_cons]
        grind
      · refine (ih _ hlen _ rfl).imp_of_mem fun {a b} ha hb hlt => ?_
        have hlater := idxOf_lt_of_filter (fun d => !d == c) (hne a ha) (hne b hb) hlt
        have ha' := hne a ha
        have hb' := hne b hb
        rw [List.idxOf_cons, List.idxOf_cons]
        grind

end FirstMention

/-! ## The error -/

/-- An error accounts for the names that were supplied to a template and do not fit: it lists the
names that are missing in order of first mention, and counts the values. -/
structure BuildError.Diagnoses (e : BuildError) (t : Template) (pairs : List (String × Value)) :
    Prop where
  pattern : e.pattern = t.text
  nodup : e.missing.Nodup
  order : e.missing.Pairwise fun a b => t.parameterNames.idxOf a < t.parameterNames.idxOf b
  mem_missing_iff : ∀ name, name ∈ e.missing ↔
    (name ∈ t.parameterNames ∧ name ≠ "") ∧ ∀ pair ∈ pairs, pair.1 ≠ name
  actual : e.actual = pairs.length
  expected_of_wildcard : t.hasWildcard = true →
    e.expected = if ∃ name ∈ t.parameterNames, name ≠ "" then t.parameterNames.length else 0
  expected : t.hasWildcard = false →
    e.expected = (t.parameterNames.filter (· ≠ "")).eraseDups.length
  lt_of_missing : t.hasWildcard = false → e.missing = [] → e.expected < e.actual

namespace Template

variable {text : String} {t : Template} {pairs : List (String × Value)}

/-- If no name is missing and the names do not fit, there are more values than names. -/
theorem length_parameters_lt (hw : t.hasWildcard = false) (hfits : t.fits pairs = false)
    (hmissing : t.missing pairs = []) : t.parameters.length < pairs.length := by
  have hsub := t.nodup_parameters.subperm (missing_eq_nil_iff.1 hmissing)
  have hle : t.parameters.length ≤ pairs.length := by
    simpa using hsub.length_le
  by_contra hlt
  have hperm : (pairs.map Prod.fst).Perm t.parameters :=
    (hsub.perm_of_length_le (by simpa using hlt)).symm
  simp [fits_of_perm hw hperm] at hfits

theorem pairwise_missing (ht : compile? text = .ok t) (pairs : List (String × Value)) :
    (t.missing pairs).Pairwise fun a b =>
      t.parameterNames.idxOf a < t.parameterNames.idxOf b := by
  have hmem : ∀ name ∈ t.parameters, (decide (name ≠ "")) = true := by
    intro name hm
    rw [parameters_eq ht, List.mem_eraseDups] at hm
    exact (List.mem_filter.1 hm).2
  have hnames := pairwise_idxOf_eraseDups (t.parameterNames.filter (· ≠ ""))
  rw [← parameters_eq ht] at hnames
  refine .filter _ (hnames.imp_of_mem fun {a b} ha hb hlt => ?_)
  exact idxOf_lt_of_filter _ (hmem a ha) (hmem b hb) hlt

theorem mem_missing_iff (ht : compile? text = .ok t) {name : String} :
    name ∈ t.missing pairs ↔
      (name ∈ t.parameterNames ∧ name ≠ "") ∧ ∀ pair ∈ pairs, pair.1 ≠ name := by
  rw [missing, List.mem_filter, parameters_eq ht, List.mem_eraseDups, List.mem_filter]
  simp

theorem diagnoses_buildFrom (ht : compile? text = .ok t) {e : BuildError}
    (h : t.buildFrom pairs = .error (.names e)) : e.Diagnoses t pairs := by
  obtain ⟨hfits, rfl⟩ := buildFrom_eq_names_iff.1 h
  refine ⟨rfl, .filter _ t.nodup_parameters, pairwise_missing ht pairs,
    fun _ => mem_missing_iff ht, rfl, fun hw => ?_, fun hw => ?_, fun hw hmissing => ?_⟩
  · have hparameters := t.hasParameters_iff
    by_cases hp : t.hasParameters = true
    · simp [expectedCount, hw, hp, if_pos (hparameters.1 hp)]
    · simp [expectedCount, hw, hp, if_neg (hparameters.not.1 hp)]
  · simp [expectedCount, hw, parameters_eq ht]
  · have hlt := length_parameters_lt hw hfits hmissing
    simpa [expectedCount, hw] using hlt

end Template

variable {text : String} {t : Template} {args : Supplied} {entries : List (Value × Value)}

theorem BuildError.record_eq (e : BuildError) :
    e.record = ⟨.error, "perch.routing",
      "Path has wildcards or different parameters: " ++ toString e.expected ++ "/" ++
        toString e.actual ++ " (" ++ e.pattern ++ ")"⟩ := by
  unfold record counts Template.logger
  rfl

/-- With well-formed arguments, a build succeeds and leaves no record, or it fails with an error that
accounts for the names that do not fit, and leaves one record with the same two numbers. If the names
fit and a value cannot be written, it fails without a record. -/
theorem failed_build_diagnosed (ht : Template.compile? text = .ok t) (hargs : args.Gives entries) :
    (∃ path, t.build args = ⟨[], .ok path⟩) ∨
    (∃ e : BuildError, e.Diagnoses t (args.pairsOf entries) ∧
      t.build args = ⟨[⟨.error, "perch.routing",
        "Path has wildcards or different parameters: " ++ toString e.expected ++ "/" ++
          toString e.actual ++ " (" ++ text ++ ")"⟩], .error (.names e)⟩) ∨
    (t.fits (args.pairsOf entries) = true ∧
      (∃ pair ∈ args.pairsOf entries, pair.2.isWritable = false) ∧
        t.build args = ⟨[], .error .unwritable⟩) := by
  obtain ⟨htext, -, -⟩ := Template.compile?_eq_ok ht
  rw [build_of_gives hargs]
  cases hbuild : t.buildFrom (args.pairsOf entries) with
  | ok path => exact .inl ⟨path, rfl⟩
  | error failure =>
    cases failure with
    | arguments e => exact absurd hbuild buildFrom_ne_arguments
    | names e =>
      have hdiagnoses := Template.diagnoses_buildFrom ht hbuild
      refine .inr (.inl ⟨e, hdiagnoses, ?_⟩)
      rw [← htext, ← hdiagnoses.pattern, ← BuildError.record_eq]
      rfl
    | unwritable =>
      obtain ⟨hfits, hfill⟩ := buildFrom_eq_unwritable_iff.1 hbuild
      exact .inr (.inr ⟨hfits, fill_eq_none_iff.1 hfill, rfl⟩)

/-- A name that is supplied twice: none is missing, and there are more values than names. -/
theorem failed_build_diagnosed_twice :
    ∃ t, Template.compile? "/{x}/{y}" = .ok t ∧
      ∃ e : BuildError,
        e.Diagnoses t [("x", .int 1), ("y", .int 2), ("x", .int 3)] ∧
        t.build ⟨[.tuple [.text "x", .int 1], .tuple [.text "y", .int 2]], [("x", .int 3)]⟩ =
          ⟨[⟨.error, "perch.routing",
            "Path has wildcards or different parameters: " ++ toString e.expected ++ "/" ++
              toString e.actual ++ " (" ++ "/{x}/{y}" ++ ")"⟩], .error (.names e)⟩ ∧
        e = ⟨"/{x}/{y}", 2, 3, []⟩ := by
  have hfacts : (Template.compile? "/{x}/{y}").toOption.map (fun t =>
      (t.text, t.expectedCount, t.fits [("x", .int 1), ("y", .int 2), ("x", .int 3)],
        t.missing [("x", .int 1), ("y", .int 2), ("x", .int 3)])) =
        some ("/{x}/{y}", 2, false, []) := by
    decide +kernel
  obtain ⟨t, ht, hfacts⟩ := Regex.map_toOption_eq_some.1 hfacts
  simp only [Prod.mk.injEq] at hfacts
  obtain ⟨htext, hcount, hfits, hmissing⟩ := hfacts
  have hbuild : t.buildFrom [("x", .int 1), ("y", .int 2), ("x", .int 3)] =
      .error (.names ⟨"/{x}/{y}", 2, 3, []⟩) := by
    rw [buildFrom_eq_names_iff, htext, hcount, hmissing]
    exact ⟨hfits, rfl⟩
  have hargs : Supplied.Gives
      ⟨[.tuple [.text "x", .int 1], .tuple [.text "y", .int 2]], [("x", .int 3)]⟩
      [(.text "x", .int 1), (.text "y", .int 2)] :=
    ⟨.pairs [(.text "x", .int 1), (.text "y", .int 2)], by simp, by simp [receiver]⟩
  have hfails := (result_build_of_gives hargs).trans hbuild
  obtain ⟨path, hok⟩ | ⟨e, hdiagnoses, he⟩ | ⟨-, -, hunwritable⟩ := failed_build_diagnosed ht hargs
  · rw [hok] at hfails
    simp at hfails
  · refine ⟨t, ht, e, hdiagnoses, he, ?_⟩
    rw [he] at hfails
    simpa using hfails
  · rw [hunwritable] at hfails
    simp at hfails

end PathTemplate
