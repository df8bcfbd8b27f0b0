import PathTemplate.Proofs.Acceptance
import PathTemplate.Proofs.Names

/-!
# Taking a path apart

The parts of an accepted template agree with each other: its text has a star just if one of its names
is empty, and it has an expression just if it has a name at all, with a group for each. So every path
that matches can be taken apart, and the distinct names that are not empty stand for what the last of
their holes captured.

## Main definitions

* `Template.LastAt`: a name stands at a place and at no later one.

## Main statements

* `Template.parameters_eq`: the names to be supplied, in terms of the names of all holes.
* `Template.extract_eq_error_iff`: the paths of which nothing is extracted.
* `extraction_total`: the parts of a template, and what is extracted from any path.
-/

namespace PathTemplate

namespace Template

/-- A name stands at a place among the names of the holes, and at no later place. -/
def LastAt (t : Template) (i : Nat) (name : String) : Prop :=
  t.parameterNames[i]? = some name ∧ ∀ j, i < j → t.parameterNames[j]? ≠ some name

variable {text : String} {t : Template}

theorem length_parameterNames (t : Template) : t.parameterNames.length = t.skeleton.holes.length := by
  simp [parameterNames, Skeleton.names]

/-! ## Names and holes -/

theorem eq_param_iff (ht : compile? text = .ok t) {hole : Hole × List Char}
    (hm : hole ∈ t.skeleton.holes) (name : String) :
    hole.1 = .param name.toList ↔ String.ofList hole.1.name = name ∧ name ≠ "" := by
  obtain ⟨-, hskeleton, -⟩ := compile?_eq_ok ht
  rcases Skeleton.cases_of_mem_scan (hskeleton ▸ hm) with hw | ⟨other, hp, hne, -⟩
  · rw [hw]
    constructor
    · intro h
      cases h
    · rintro ⟨rfl, h⟩
      exact absurd rfl h
  · rw [hp, Hole.name]
    constructor
    · intro h
      obtain rfl := Hole.param.inj h
      exact ⟨String.ofList_toList, fun hempty => hne (by simp [hempty])⟩
    · rintro ⟨rfl, -⟩
      rw [String.toList_ofList]

theorem parameters_eq (ht : compile? text = .ok t) :
    t.parameters = (t.parameterNames.filter (· ≠ "")).eraseDups := by
  rw [parameters, Skeleton.map_parameters, parameterNames, Skeleton.names, List.map_map,
    ← List.filterMap_eq_filter, List.filterMap_map]
  congr 1
  refine List.filterMap_congr fun hole hm => ?_
  have hname := eq_param_iff ht hm
  cases hhole : hole.1 with
  | wildcard => simp [hhole, Hole.name?, Hole.name, Option.guard]
  | param name =>
    have hne := ((hname (String.ofList name)).1 (by rw [hhole, String.toList_ofList])).2
    simp [hhole, Hole.name?, Hole.name, Option.guard, hne]

/-- The places where names stand last are the same for names and for holes. -/
theorem lastNamed_iff (ht : compile? text = .ok t) {i : Nat} {name : String} :
    LastNamed (t.skeleton.holes.map (·.1)) i name.toList ↔ name ≠ "" ∧ t.LastAt i name := by
  have hplace : ∀ j : Nat, (t.skeleton.holes.map (·.1))[j]? = some (.param name.toList) ↔
      name ≠ "" ∧ t.parameterNames[j]? = some name := by
    intro j
    rw [parameterNames, Skeleton.names, List.map_map, List.getElem?_map, List.getElem?_map]
    cases hj : t.skeleton.holes[j]? with
    | none => simp
    | some hole =>
      have := eq_param_iff ht (List.mem_of_getElem? hj) name
      simp [this, and_comm]
  unfold LastNamed LastAt
  grind

/-! ## Expressions -/

theorem expression_ne_none_iff (ht : compile? text = .ok t) :
    t.expression ≠ none ↔ t.parameterNames ≠ [] := by
  rw [Ne, expression_eq_none_iff ht, ← List.length_eq_zero_iff, ← t.length_parameterNames,
    List.length_eq_zero_iff]

theorem hasWildcard_iff (ht : compile? text = .ok t) :
    t.hasWildcard = true ↔ "" ∈ t.parameterNames := by
  obtain ⟨htext, hskeleton, -⟩ := compile?_eq_ok ht
  have hstar : t.hasWildcard = true ↔ '*' ∈ text.toList := by simp [hasWildcard, htext]
  rw [hstar, Skeleton.star_mem_iff, ← hskeleton, parameterNames, Skeleton.names, List.map_map,
    List.mem_map]
  refine exists_congr fun hole => and_congr_right fun hm => ?_
  rcases Skeleton.cases_of_mem_scan (hskeleton ▸ hm) with hw | ⟨name, hp, hne, -⟩
  · simp [hw, Hole.name]
  · simp [hp, Hole.name, hne]

theorem hasParameters_iff (t : Template) :
    t.hasParameters = true ↔ ∃ name ∈ t.parameterNames, name ≠ "" := by
  simp [hasParameters, parameterNames]

theorem groupCount_eq (ht : compile? text = .ok t) {regex : Regex}
    (hregex : t.expression = some regex) : regex.groupCount = t.parameterNames.length := by
  obtain ⟨-, -, hexpression⟩ := compile?_eq_ok ht
  rw [length_parameterNames]
  exact (compileSkeleton_eq_ok (hexpression regex hregex)).2.1

theorem length_captures (ht : compile? text = .ok t) {regex : Regex}
    (hregex : t.expression = some regex) {path : List Char}
    {captures : List (Option (List Char))} (h : regex.fullMatch? path = some captures) :
    captures.length = t.parameterNames.length := by
  obtain ⟨s, -, -, hlength, rfl⟩ := Regex.fullMatch?_leads h
  rw [Regex.State.captures, List.length_map, hlength, groupCount_eq ht hregex]

/-! ## What is extracted -/

theorem extract_eq_error_iff (t : Template) {path : String} {e : Mismatch} :
    t.extract path = .error e ↔ t.accepts path = false ∧ e = ⟨t.text, path⟩ := by
  have hsome : (t.extract? path).isSome = t.accepts path := by
    unfold extract? accepts
    cases t.expression with
    | none => by_cases h : path = t.text <;> simp [h]
    | some regex => simp
  rw [extract, ← hsome]
  cases t.extract? path <;> simp [eq_comm]

theorem keys_of_extract (ht : compile? text = .ok t) {path : String}
    {bindings : Bindings String (Option String)} (h : t.extract path = .ok bindings) :
    Bindings.keys bindings = (t.parameterNames.filter (· ≠ "")).eraseDups := by
  cases hexpression : t.expression with
  | none =>
    have hnames : t.parameterNames = [] := by
      by_contra hne
      exact (expression_ne_none_iff ht).2 hne hexpression
    have hbindings : bindings = [] := by
      unfold extract extract? at h
      rw [hexpression] at h
      by_cases hpath : path = t.text <;> simp [hpath] at h
      exact h
    rw [hnames, hbindings]
    rfl
  | some regex =>
    obtain ⟨captures, hmatch, rfl⟩ := (extract_eq_ok_iff hexpression).1 h
    rw [← parameters_eq ht, parameters]
    refine keys_bindCaptures ?_
    rw [length_captures ht hexpression hmatch, length_parameterNames]

/-- What is extracted under a name is what the last hole with the name captured. -/
theorem lookup_of_extract (ht : compile? text = .ok t) {regex : Regex}
    (hregex : t.expression = some regex) {path : String}
    {bindings : Bindings String (Option String)} (h : t.extract path = .ok bindings) :
    ∃ captures, regex.fullMatch? path.toList = some captures ∧
      captures.length = t.parameterNames.length ∧
      ∀ i name, name ≠ "" → t.LastAt i name → ∃ capture, captures[i]? = some capture ∧
        List.lookup name bindings = some (capture.map String.ofList) := by
  obtain ⟨captures, hmatch, rfl⟩ := (extract_eq_ok_iff hregex).1 h
  have hlength := length_captures ht hregex hmatch
  have hholes : (t.skeleton.holes.map (·.1)).length = captures.length := by
    rw [List.length_map, hlength, length_parameterNames]
  refine ⟨captures, hmatch, hlength, fun i name hne hlast => ?_⟩
  have hi : i < captures.length := hlength ▸ (List.getElem?_eq_some_iff.1 hlast.1).1
  refine ⟨captures[i], List.getElem?_eq_getElem hi, ?_⟩
  rw [lookup_bindCaptures, (lastOf?_eq_some_iff hholes).2
    ⟨i, (lastNamed_iff ht).2 ⟨hne, hlast⟩, List.getElem?_eq_getElem hi⟩, Option.map_some]

end Template

/-- A template has a wildcard if and only if one of its names is empty, it has an expression if and
only if it has a name at all, and the expression has a group for each name. A path can be taken
apart if and only if it matches, and there is no other error. Then each distinct name that is not
empty stands, in the order of first mention, for the capture of its last hole. -/
theorem extraction_total {text : String} {t : Template} (ht : Template.compile? text = .ok t) :
    (t.hasWildcard = true ↔ "" ∈ t.parameterNames) ∧
    (t.hasParameters = true ↔ ∃ name ∈ t.parameterNames, name ≠ "") ∧
    (t.expression ≠ none ↔ t.parameterNames ≠ []) ∧
    (∀ regex, t.expression = some regex → regex.groupCount = t.parameterNames.length) ∧
    ∀ path : String,
      ((∃ bindings, t.extract path = .ok bindings) ↔ t.accepts path = true) ∧
      (t.accepts path = false → t.extract path = .error ⟨text, path⟩) ∧
      ∀ bindings, t.extract path = .ok bindings →
        Bindings.keys bindings = (t.parameterNames.filter (· ≠ "")).eraseDups ∧
        ∀ regex, t.expression = some regex →
          ∃ captures, regex.fullMatch? path.toList = some captures ∧
            captures.length = t.parameterNames.length ∧
            ∀ i name, name ≠ "" → t.LastAt i name → ∃ capture, captures[i]? = some capture ∧
              List.lookup name bindings = some (capture.map String.ofList) := by
  obtain ⟨htext, -, -⟩ := Template.compile?_eq_ok ht
  refine ⟨Template.hasWildcard_iff ht, t.hasParameters_iff, Template.expression_ne_none_iff ht,
    fun regex hregex => Template.groupCount_eq ht hregex, fun path => ⟨?_, fun hno => ?_, ?_⟩⟩
  · have herror : ∀ e, t.extract path = .error e ↔ t.accepts path = false ∧ e = ⟨t.text, path⟩ :=
      fun _ => t.extract_eq_error_iff
    cases hextract : t.extract path with
    | ok bindings =>
      have hno := (herror ⟨t.text, path⟩).not.1 (by simp [hextract])
      simpa using hno
    | error e => simp [((herror e).1 hextract).1]
  · exact t.extract_eq_error_iff.2 ⟨hno, by rw [htext]⟩
  · intro bindings hbindings
    exact ⟨Template.keys_of_extract ht hbindings,
      fun regex hregex => Template.lookup_of_extract ht hregex hbindings⟩

/-- A name that stands in front of a wildcard and behind it. -/
theorem extraction_total_repeated :
    ∃ t, Template.compile? "/{x}/*/{y}/{x}" = .ok t ∧ t.accepts "/a//b/c" = true ∧
      t.parameterNames = ["x", "", "y", "x"] ∧
      ∃ bindings, t.extract "/a//b/c" = .ok bindings ∧ Bindings.keys bindings = ["x", "y"] ∧
        List.lookup "x" bindings = some (some "c") := by
  have hfacts : (Template.compile? "/{x}/*/{y}/{x}").toOption.map (fun t =>
      (t.parameterNames, t.expression.bind fun regex => regex.fullMatch? "/a//b/c".toList)) =
        some (["x", "", "y", "x"], some [some ['a'], some [], some ['b'], some ['c']]) := by
    decide +kernel
  obtain ⟨t, ht, hfacts⟩ := Regex.map_toOption_eq_some.1 hfacts
  obtain ⟨hnames, hmatch⟩ := Prod.mk.inj hfacts
  obtain ⟨regex, hregex, hmatch⟩ := Option.bind_eq_some_iff.1 hmatch
  have haccepts : t.accepts "/a//b/c" = true := by
    rw [Template.accepts, hregex]
    simp only [hmatch, Option.isSome_some]
  obtain ⟨-, -, -, -, hpaths⟩ := extraction_total ht
  obtain ⟨hiff, -, hbindings⟩ := hpaths "/a//b/c"
  obtain ⟨bindings, hextract⟩ := hiff.2 haccepts
  obtain ⟨hkeys, hcaptures⟩ := hbindings bindings hextract
  refine ⟨t, ht, haccepts, hnames, bindings, hextract, ?_, ?_⟩
  · rw [hkeys, hnames]
    decide
  · obtain ⟨captures, hfound, -, hlookup⟩ := hcaptures regex hregex
    obtain rfl := Option.some.inj (hmatch.symm.trans hfound)
    obtain ⟨capture, hcapture, hx⟩ := hlookup 3 "x" (by decide) ⟨by rw [hnames]; rfl, by
      intro j hj
      rw [hnames, List.getElem?_eq_none (Nat.succ_le_of_lt hj)]
      simp⟩
    obtain rfl := Option.some.inj hcapture
    exact hx

end PathTemplate
