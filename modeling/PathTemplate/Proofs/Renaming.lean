import PathTemplate.Proofs.Passing
import PathTemplate.Proofs.Weaving

/-!
# Other names

The names of a template are bound by it: with other words in their place, as long as different names
stay different, it is compiled to the same expression, and what it extracts and builds differs in
the names alone.

## Main definitions

* `IsRenaming`: words in place of names, different ones for different names.
* `Hole.rename`, `Skeleton.rename`, `renameText`, `Template.rename`: with other names.

## Main statements

* `scan_renameText`: the skeleton of a text with other names.
* `compile?_renameText`: the template that it denotes.
* `Template.extract?_rename`, `Template.result_build_rename`: what it extracts and builds.
* `names_are_bound`: all of this.
-/

namespace PathTemplate

open Text (isWord)

/-- Words in place of the names of a skeleton, different ones for different names. -/
structure IsRenaming (r : String → String) (s : Skeleton) : Prop where
  isWord : ∀ name ∈ s.parameters.map String.ofList,
    r name ≠ "" ∧ (r name).toList.all isWord = true
  injective : ∀ a ∈ s.parameters.map String.ofList, ∀ b ∈ s.parameters.map String.ofList,
    r a = r b → a = b

def Hole.rename (r : String → String) : Hole → Hole
  | wildcard => wildcard
  | param name => param (r (.ofList name)).toList

def Skeleton.rename (r : String → String) (s : Skeleton) : Skeleton :=
  ⟨s.lead, s.holes.map fun (hole, literal) => (hole.rename r, literal)⟩

/-- The text in which every name in braces is replaced with another. -/
def renameText (r : String → String) (text : String) : String :=
  .ofList ((Skeleton.scan text.toList).weave fun hole => (hole.rename r).token)

def Template.rename (r : String → String) (t : Template) : Template :=
  ⟨renameText r t.text, t.skeleton.rename r, t.expression⟩

variable {r : String → String}

/-! ## Skeletons -/

namespace Skeleton

theorem weave_rename (s : Skeleton) (fill : Hole → List Char) :
    (s.rename r).weave fill = s.weave fun hole => fill (hole.rename r) := by
  simp [weave, rename, List.flatMap_map]

theorem segments_rename (s : Skeleton) : (s.rename r).segments = s.segments := by
  simp [segments, rename]

theorem source_rename (s : Skeleton) : (s.rename r).source = s.source := by
  have hgroup : ∀ hole : Hole, (hole.rename r).groupSource = hole.groupSource := by
    intro hole
    cases hole <;> rfl
  simp only [source, weave_rename, hgroup]

theorem optionalHole?_rename (s : Skeleton) : (s.rename r).optionalHole? = s.optionalHole? := by
  simp [optionalHole?, rename, List.findSome?_map, Function.comp_def]

theorem compileSkeleton_rename (s : Skeleton) :
    Template.compileSkeleton (s.rename r) = Template.compileSkeleton s := by
  simp only [Template.compileSkeleton, source_rename, optionalHole?_rename]
  simp [rename]

theorem mem_map_parameters {s : Skeleton} {name literal : List Char}
    (h : (Hole.param name, literal) ∈ s.holes) :
    String.ofList name ∈ s.parameters.map String.ofList := by
  rw [map_parameters, List.mem_eraseDups, List.mem_filterMap]
  exact ⟨_, h, rfl⟩

theorem map_parameters_rename {s : Skeleton} (h : IsRenaming r s) :
    (s.rename r).parameters.map String.ofList = (s.parameters.map String.ofList).map r := by
  have hnames : (s.rename r).holes.filterMap (fun hole => hole.1.name?.map String.ofList) =
      (s.holes.filterMap fun hole => hole.1.name?.map String.ofList).map r := by
    rw [rename, List.filterMap_map, List.map_filterMap]
    refine List.filterMap_congr fun hole _ => ?_
    rcases hole with ⟨_ | name, literal⟩ <;> simp [Hole.rename, Hole.name?]
  have hinjective := h.injective
  rw [map_parameters] at hinjective
  rw [map_parameters, map_parameters, hnames, map_eraseDups]
  intro a ha b hb
  exact hinjective a (List.mem_eraseDups.2 ha) b (List.mem_eraseDups.2 hb)

theorem WellFormed.rename {s : Skeleton} (hs : s.WellFormed) (h : IsRenaming r s) :
    (s.rename r).WellFormed := by
  constructor
  · intro renamed hm
    obtain ⟨⟨hole, literal⟩, hhole, rfl⟩ := List.mem_map.1 hm
    cases hole with
    | wildcard => trivial
    | param name =>
      obtain ⟨hne, hword⟩ := h.isWord _ (mem_map_parameters hhole)
      exact ⟨fun hnil => hne (String.toList_eq_nil_iff.1 hnil), hword⟩
  · rw [segments_rename]
    exact hs.tokenFree

/-- A hole of a well-formed skeleton has a name just if the skeleton has a parameter. -/
theorem any_names_iff {s : Skeleton} (hs : s.WellFormed) :
    (s.names.any fun name => !name.isEmpty) = true ↔ s.parameters.map String.ofList ≠ [] := by
  rw [List.any_eq_true]
  constructor
  · rintro ⟨name, hm, hne⟩
    obtain ⟨⟨hole, literal⟩, hhole, rfl⟩ := List.mem_map.1 hm
    cases hole with
    | wildcard => simp [Hole.name] at hne
    | param name => exact List.ne_nil_of_mem (mem_map_parameters hhole)
  · intro hne
    obtain ⟨name, hm⟩ := List.exists_mem_of_ne_nil _ hne
    rw [map_parameters, List.mem_eraseDups, List.mem_filterMap] at hm
    obtain ⟨⟨hole, literal⟩, hhole, hname⟩ := hm
    cases hole with
    | wildcard => simp [Hole.name?] at hname
    | param other =>
      refine ⟨other, List.mem_map.2 ⟨_, hhole, rfl⟩, ?_⟩
      simpa using (hs.isProper _ hhole).1

theorem thread_rename (s : Skeleton) (pieces : List (List Char)) :
    (s.rename r).thread pieces = s.thread pieces := by
  simp only [thread, rename]
  congr 1
  induction s.holes generalizing pieces with
  | nil => rfl
  | cons hole holes ih =>
    cases pieces with
    | nil => rfl
    | cons piece pieces => simp only [List.map_cons, threadHoles, ih]

theorem head?_weave_rename (s : Skeleton) :
    ((s.rename r).weave Hole.token).head? = (s.weave Hole.token).head? := by
  obtain ⟨_ | ⟨c, lead⟩, _ | ⟨⟨_ | name, literal⟩, holes⟩⟩ := s <;>
    simp [rename, weave, Hole.rename, Hole.token]

end Skeleton

/-! ## Texts -/

section

variable {text : String}

/-- The skeleton of a text with other names is the skeleton of the text with those names. -/
theorem scan_renameText (h : IsRenaming r (Skeleton.scan text.toList)) :
    Skeleton.scan (renameText r text).toList = (Skeleton.scan text.toList).rename r := by
  refine Skeleton.scan_eq_iff.2 ⟨(Skeleton.wellFormed_scan _).rename h, ?_⟩
  rw [Skeleton.weave_rename, renameText, String.toList_ofList]

theorem renameText_of_holes_eq_nil (hholes : (Skeleton.scan text.toList).holes = []) :
    renameText r text = text := by
  have hweave := Skeleton.weave_token_scan text.toList
  rw [Skeleton.weave, hholes] at hweave
  rw [renameText, Skeleton.weave, hholes, ← String.toList_inj, String.toList_ofList]
  exact hweave

theorem checkText_renameText (h : IsRenaming r (Skeleton.scan text.toList)) :
    Template.checkText (renameText r text).toList = Template.checkText text.toList := by
  have hcolon : (renameText r text).toList.contains ':' = text.toList.contains ':' := by
    rw [Bool.eq_iff_iff, List.contains_iff_mem, List.contains_iff_mem, Skeleton.colon_mem_iff,
      scan_renameText h, Skeleton.segments_rename, ← Skeleton.colon_mem_iff]
  have hhead : (renameText r text).toList.head? = text.toList.head? := by
    rw [renameText, String.toList_ofList, ← Skeleton.weave_rename, Skeleton.head?_weave_rename,
      Skeleton.weave_token_scan]
  simp only [Template.checkText, hhead, hcolon]

/-- A text with other names denotes the template with those names, and is refused just as the text
itself is. -/
theorem compile?_renameText (h : IsRenaming r (Skeleton.scan text.toList)) :
    Template.compile? (renameText r text) = (Template.compile? text).map (Template.rename r) := by
  rw [Template.compile?_eq, Template.compile?_eq, checkText_renameText h, scan_renameText h,
    Skeleton.compileSkeleton_rename]
  have hholes : ((Skeleton.scan text.toList).rename r).holes = [] ↔
      (Skeleton.scan text.toList).holes = [] := List.map_eq_nil_iff
  simp only [hholes]
  cases Template.checkText text.toList with
  | error e => rfl
  | ok _ =>
    dsimp only [Except.bind]
    split
    · rfl
    · cases Template.compileSkeleton (Skeleton.scan text.toList) <;> rfl

end

/-! ## Templates -/

theorem IsRenaming.beq {s : Skeleton} (h : IsRenaming r s) {a b : String}
    (ha : a ∈ s.parameters.map String.ofList) (hb : b ∈ s.parameters.map String.ofList) :
    (r a == r b) = (a == b) := by
  have := h.injective a ha b hb
  grind

def BuildError.rename (r : String → String) (e : BuildError) : BuildError :=
  { e with pattern := renameText r e.pattern, missing := e.missing.map r }

def BuildFailure.rename (r : String → String) : BuildFailure → BuildFailure
  | arguments e => .arguments e
  | names e => .names (e.rename r)
  | unwritable => .unwritable

namespace Template

theorem bindCaptures_rename {s : Skeleton} (h : IsRenaming r s)
    (captures : List (Option (List Char))) :
    bindCaptures ((s.rename r).holes.map (·.1)) captures =
      (bindCaptures (s.holes.map (·.1)) captures).map (Prod.map r id) := by
  have hholes : (s.rename r).holes.map (·.1) = (s.holes.map (·.1)).map (Hole.rename r) := by
    simp [Skeleton.rename]
  rw [bindCaptures, bindCaptures, hholes, List.zip_map_left, List.filterMap_map,
    ← Bindings.ofList_map]
  · rw [List.map_filterMap]
    congr 1
    refine List.filterMap_congr fun pair _ => ?_
    rcases pair with ⟨_ | name, capture⟩ <;> simp [Hole.rename, Hole.name?]
  · have hkeys : ∀ name ∈ (((s.holes.map (·.1)).zip captures).filterMap fun pair =>
        pair.1.name?.map fun n => (String.ofList n, pair.2.map String.ofList)).map Prod.fst,
          name ∈ s.parameters.map String.ofList := by
      intro name hm
      obtain ⟨_, hbound, rfl⟩ := List.mem_map.1 hm
      obtain ⟨⟨hole, capture⟩, hpair, hname⟩ := List.mem_filterMap.1 hbound
      obtain ⟨n, hn, rfl⟩ := Option.map_eq_some_iff.1 hname
      obtain ⟨⟨hole, literal⟩, hhole, rfl⟩ := List.mem_map.1 (List.of_mem_zip hpair).1
      cases hole with
      | wildcard => simp [Hole.name?] at hn
      | param other =>
        obtain rfl := Option.some.inj hn
        exact Skeleton.mem_map_parameters hhole
    exact fun a ha b hb => h.beq (hkeys a ha) (hkeys b hb)

variable {text : String} {t : Template}

/-- What is supplied for the holes with other names is what is supplied for the holes. -/
theorem map_parameterNames_rename {α : Type} {f g : String → α}
    (h : ∀ hole ∈ t.skeleton.holes,
      f (.ofList (hole.1.rename r).name) = g (.ofList hole.1.name)) :
    (t.rename r).parameterNames.map f = t.parameterNames.map g := by
  simp only [parameterNames, Skeleton.names, rename, Skeleton.rename, List.map_map]
  exact List.map_congr_left fun hole hm => h hole hm

theorem hasWildcard_rename (ht : compile? text = .ok t) (h : IsRenaming r t.skeleton) :
    (t.rename r).hasWildcard = t.hasWildcard := by
  obtain ⟨htext, hskeleton, -⟩ := compile?_eq_ok ht
  simp only [hasWildcard, rename, htext]
  rw [Bool.eq_iff_iff, List.contains_iff_mem, List.contains_iff_mem, Skeleton.star_mem_iff,
    scan_renameText (hskeleton ▸ h), Skeleton.star_mem_iff]
  simp only [Skeleton.rename, List.mem_map]
  constructor
  · rintro ⟨_, ⟨⟨hole, literal⟩, hm, rfl⟩, hw⟩
    cases hole with
    | wildcard => exact ⟨_, hm, rfl⟩
    | param name => cases hw
  · rintro ⟨⟨hole, literal⟩, hm, rfl⟩
    exact ⟨_, ⟨_, hm, rfl⟩, rfl⟩

theorem parameters_rename (h : IsRenaming r t.skeleton) :
    (t.rename r).parameters = t.parameters.map r :=
  Skeleton.map_parameters_rename h

theorem hasParameters_rename (ht : compile? text = .ok t) (h : IsRenaming r t.skeleton) :
    (t.rename r).hasParameters = t.hasParameters := by
  obtain ⟨-, hskeleton, -⟩ := compile?_eq_ok ht
  have hs : t.skeleton.WellFormed := hskeleton ▸ Skeleton.wellFormed_scan _
  rw [Bool.eq_iff_iff]
  refine (Skeleton.any_names_iff (hs.rename h)).trans ?_
  rw [Skeleton.map_parameters_rename h, ne_eq, List.map_eq_nil_iff]
  exact (Skeleton.any_names_iff hs).symm

theorem text_rename_of_expression_eq_none (ht : compile? text = .ok t)
    (hexpression : t.expression = none) : (t.rename r).text = t.text := by
  obtain ⟨htext, hskeleton, -⟩ := compile?_eq_ok ht
  rw [rename, htext]
  exact renameText_of_holes_eq_nil (hskeleton ▸ (expression_eq_none_iff ht).1 hexpression)

theorem accepts_rename (ht : compile? text = .ok t) (path : String) :
    (t.rename r).accepts path = t.accepts path := by
  cases hexpression : t.expression with
  | none =>
    simp only [accepts, text_rename_of_expression_eq_none ht hexpression]
    simp only [rename, hexpression]
  | some regex => simp only [accepts, rename, hexpression]

theorem extract?_rename (ht : compile? text = .ok t) (h : IsRenaming r t.skeleton)
    (path : String) :
    (t.rename r).extract? path = (t.extract? path).map (List.map (Prod.map r id)) := by
  cases hexpression : t.expression with
  | none =>
    simp only [extract?, text_rename_of_expression_eq_none ht hexpression]
    simp only [rename, hexpression]
    split <;> rfl
  | some regex =>
    simp only [extract?, rename, hexpression, Option.map_map]
    congr 1
    funext captures
    exact bindCaptures_rename h captures

section

variable {pairs : List (String × Value)} (hknown : ∀ pair ∈ pairs, pair.1 ∈ t.parameters)
include hknown

theorem missing_rename (h : IsRenaming r t.skeleton) :
    (t.rename r).missing (pairs.map (Prod.map r id)) = (t.missing pairs).map r := by
  rw [missing, parameters_rename h, List.filter_map, missing]
  congr 1
  refine List.filter_congr fun name hname => ?_
  simp only [Function.comp_apply, List.any_map]
  congr 1
  rw [Bool.eq_iff_iff, List.any_eq_true, List.any_eq_true]
  refine exists_congr fun pair => and_congr_right fun hpair => ?_
  rw [Function.comp_apply, Prod.map_fst, h.beq (hknown pair hpair) hname]

theorem fits_rename (ht : compile? text = .ok t) (h : IsRenaming r t.skeleton) :
    (t.rename r).fits (pairs.map (Prod.map r id)) = t.fits pairs := by
  have hall : (pairs.all fun pair => t.parameters.contains pair.1) = true := by
    simpa using hknown
  have hall' : ((pairs.map (Prod.map r id)).all fun pair =>
      (t.parameters.map r).contains pair.1) = true := by
    simp only [List.all_map, List.all_eq_true, Function.comp_apply, List.contains_iff_mem]
    exact fun pair hm => List.mem_map_of_mem (hknown pair hm)
  simp only [fits, hasWildcard_rename ht h, missing_rename hknown h, parameters_rename h, hall,
    hall', List.length_map, List.isEmpty_map]

omit hknown in
theorem fillTexts_rename (ht : compile? text = .ok t) (h : IsRenaming r t.skeleton)
    (hfits : t.fits pairs = true)
    (hfits' : (t.rename r).fits (pairs.map (Prod.map r id)) = true) :
    fillTexts (t.rename r).text "\x7b" "\x7d" (pairs.map (Prod.map r id)) =
      fillTexts t.text "\x7b" "\x7d" pairs := by
  obtain ⟨htext, hskeleton, -⟩ := compile?_eq_ok ht
  have hu : compile? (renameText r text) = .ok (t.rename r) := by
    rw [compile?_renameText (hskeleton ▸ h), ht]
    rfl
  obtain ⟨hwildcard, hperm⟩ := fits_iff.1 hfits
  obtain ⟨hwildcard', hperm'⟩ := fits_iff.1 hfits'
  have hstar : '*' ∉ text.toList := by simpa [hasWildcard, htext] using hwildcard
  have hstar' : '*' ∉ (renameText r text).toList := by
    simpa [hasWildcard, rename, htext] using hwildcard'
  obtain ⟨v, hv⟩ := exists_assignment (hperm.nodup_iff.2 t.nodup_parameters)
  obtain ⟨v', hv'⟩ := exists_assignment (hperm'.nodup_iff.2 (t.rename r).nodup_parameters)
  have hvalues : (t.rename r).parameterNames.map (fun name => (v' name).toText.toList) =
      t.parameterNames.map fun name => (v name).toText.toList := by
    refine map_parameterNames_rename fun hole hm => ?_
    obtain ⟨hnamed, pair, hp, hname⟩ := exists_supplied ht hstar hperm hm
    have hother : String.ofList (hole.1.rename r).name = (Prod.map r id pair).1 := by
      rw [hnamed, Prod.map_fst, hname]
      exact String.ofList_toList
    rw [hother, hv' _ (List.mem_map_of_mem hp), ← hname, hv pair hp]
    rfl
  have htext' : (t.rename r).text = renameText r text := by rw [rename, htext]
  rw [← String.toList_inj, htext', toList_fillTexts_of_perm hu hstar' hperm' hv', htext,
    toList_fillTexts_of_perm ht hstar hperm hv, hvalues]
  exact Skeleton.thread_rename t.skeleton _

theorem buildFrom_rename (ht : compile? text = .ok t) (h : IsRenaming r t.skeleton) :
    (t.rename r).buildFrom (pairs.map (Prod.map r id)) =
      (t.buildFrom pairs).mapError (BuildFailure.rename r) := by
  have hcount : (t.rename r).expectedCount = t.expectedCount := by
    simp only [expectedCount, hasWildcard_rename ht h, hasParameters_rename ht h,
      parameters_rename h, List.length_map]
    simp [parameterNames, Skeleton.names, rename, Skeleton.rename]
  have hfits := fits_rename hknown ht h
  rw [buildFrom, buildFrom, hfits]
  cases hfit : t.fits pairs with
  | true =>
    have hfill : fill (t.rename r).text "\x7b" "\x7d" (pairs.map (Prod.map r id)) =
        fill t.text "\x7b" "\x7d" pairs := by
      rw [fill, fill, fillTexts_rename ht h hfit (hfits.trans hfit), List.all_map]
      rfl
    rw [if_pos rfl, if_pos rfl, hfill]
    cases fill t.text "\x7b" "\x7d" pairs <;> rfl
  | false =>
    rw [if_neg (by simp), if_neg (by simp), missing_rename hknown h, List.length_map, hcount]
    rfl

/-- With values for known names, a template with other names makes the same path, or fails with the
same error for these. -/
theorem result_build_rename (ht : compile? text = .ok t) (h : IsRenaming r t.skeleton) :
    ((t.rename r).build (.ofPairs (pairs.map (Prod.map r id)))).result =
      (t.build (.ofPairs pairs)).result.mapError (BuildFailure.rename r) := by
  have hpairs : ∀ pairs, (Supplied.ofPairs pairs).pairsOf (pairs.map Value.entry) = pairs := by
    intro pairs
    rw [Supplied.pairsOf_map_entry]
    exact List.append_nil pairs
  rw [result_build_of_gives (Supplied.gives_ofPairs _),
    result_build_of_gives (Supplied.gives_ofPairs _), hpairs, hpairs,
    buildFrom_rename hknown ht h]

end

end Template

/-- With other names in place of the names of a text, different ones for different names, the text
is refused for the same flaw, or it denotes a template with the same literals and the same
expression that matches the same paths. Then names are bound to the same pieces in the same order,
and values for them make the same path, or are refused with the same error, but for the names in
it, or cannot be written in both. -/
theorem names_are_bound {text : String} (h : IsRenaming r (Skeleton.scan text.toList)) :
    (∀ e, Template.compile? (renameText r text) = .error e ↔ Template.compile? text = .error e) ∧
    ∀ t, Template.compile? text = .ok t →
      ∃ u, Template.compile? (renameText r text) = .ok u ∧ u.segments = t.segments ∧
        u.hasWildcard = t.hasWildcard ∧ u.hasParameters = t.hasParameters ∧
        u.expression = t.expression ∧
        (∀ path, u.accepts path = t.accepts path) ∧
        (∀ path, u.extract path =
          ((t.extract path).map fun bindings => bindings.map (Prod.map r id)).mapError
            fun mismatch => ⟨u.text, mismatch.path⟩) ∧
        ∀ pairs, (∀ pair ∈ pairs, pair.1 ∈ t.parameters) →
          (u.build (.ofPairs (pairs.map (Prod.map r id)))).result =
            (t.build (.ofPairs pairs)).result.mapError (BuildFailure.rename r) := by
  have hcompile := compile?_renameText h
  refine ⟨fun e => ?_, fun t ht => ?_⟩
  · rw [hcompile]
    cases Template.compile? text <;> simp [Except.map]
  · obtain ⟨-, hskeleton, -⟩ := Template.compile?_eq_ok ht
    have hs : IsRenaming r t.skeleton := hskeleton ▸ h
    refine ⟨t.rename r, by rw [hcompile, ht]; rfl, ?_, Template.hasWildcard_rename ht hs,
      Template.hasParameters_rename ht hs, rfl, Template.accepts_rename ht, fun path => ?_,
      fun pairs hknown => Template.result_build_rename hknown ht hs⟩
    · exact congrArg (List.map String.ofList) (Skeleton.segments_rename t.skeleton)
    · rw [Template.extract, Template.extract, Template.extract?_rename ht hs]
      cases t.extract? path <;> rfl

/-- Two names that are swapped, one of which stands beside a brace and stands twice. -/
theorem names_are_bound_swapped :
    let r := fun name => if name = "a" then "b" else "a"
    IsRenaming r (Skeleton.scan "/\x7b{a}-{b}.{a}".toList) ∧
      renameText r "/\x7b{a}-{b}.{a}" = "/\x7b{b}-{a}.{b}" ∧
      ∃ t u, Template.compile? "/\x7b{a}-{b}.{a}" = .ok t ∧
        Template.compile? "/\x7b{b}-{a}.{b}" = .ok u ∧
        t.extract "/\x7b1-2.3" = .ok [("a", some "3"), ("b", some "2")] ∧
        u.extract "/\x7b1-2.3" = .ok [("b", some "3"), ("a", some "2")] := by
  intro r
  have hnames : (Skeleton.scan "/\x7b{a}-{b}.{a}".toList).parameters.map String.ofList =
      ["a", "b"] := by
    decide +kernel
  have hr : IsRenaming r (Skeleton.scan "/\x7b{a}-{b}.{a}".toList) := by
    constructor <;> rw [hnames] <;> decide
  have htext : renameText r "/\x7b{a}-{b}.{a}" = "/\x7b{b}-{a}.{b}" := by
    decide +kernel
  have hextract : (Template.compile? "/\x7b{a}-{b}.{a}").toOption.map (·.extract "/\x7b1-2.3") =
      some (.ok [("a", some "3"), ("b", some "2")]) := by
    decide +kernel
  obtain ⟨t, ht, hextract⟩ := Regex.map_toOption_eq_some.1 hextract
  obtain ⟨u, hu, -, -, -, -, -, hbindings, -⟩ := (names_are_bound hr).2 t ht
  refine ⟨hr, htext, t, u, ht, htext ▸ hu, hextract, ?_⟩
  rw [hbindings, hextract]
  rfl

end PathTemplate
