import PathTemplate.Proofs.Outcomes

/-!
# Building from what was printed

The lines that are printed about a path name what it is built from. Passed to the command that
builds paths, they give the path back, whatever characters stand in its pieces: a name holds no
equals sign, a piece no newline, and no line begins with a hyphen.

## Main definitions

* `outputLines`: the lines of an output.
* `assignmentLine`: a name and a text as an assignment.

## Main statements

* `outputLines_intercalate`: the lines of lines that were printed.
* `build_outputLines`: building from the lines that were printed about a path.
-/

namespace PathTemplate

/-! ## Names and pieces -/

theorem newline_not_mem_of_splits {s : Skeleton} {path : List Char} {pieces : List (List Char)}
    (h : s.Splits path pieces) : ∀ piece ∈ pieces, '\n' ∉ piece := by
  obtain ⟨hadmits, -⟩ := h
  generalize s.holes = holes at hadmits
  induction hadmits with
  | nil => simp
  | cons hadmit _ ih => simpa [(Hole.admits_iff.1 hadmit).1] using ih

section

variable {text : String} {t : Template} (ht : Template.compile? text = .ok t)
  (hstar : '*' ∉ text.toList)

include ht hstar

/-- A template without stars begins with a slash, which stands in its first literal. -/
theorem exists_lead : ∃ rest lead, text.toList = '/' :: rest ∧ t.skeleton.lead = '/' :: lead := by
  obtain ⟨-, hskeleton, -⟩ := Template.compile?_eq_ok ht
  obtain ⟨hstart, -⟩ := Template.head?_of_compile? ht
  cases hchars : text.toList with
  | nil => simp [hchars] at hstart
  | cons c rest =>
    obtain rfl : c = '/' := by
      rw [hchars] at hstart hstar
      grind
    have hrule : holeRule ('/' :: rest) = none := rfl
    refine ⟨rest, (Skeleton.scan rest).lead, rfl, ?_⟩
    rw [hskeleton, hchars, Skeleton.scan_of_none hrule]
    rfl

theorem word_of_mem_names {name : String} (h : name ∈ t.skeleton.names.map String.ofList) :
    name ≠ "" ∧ ∀ c ∈ name.toList, Text.isWord c = true := by
  obtain ⟨-, hskeleton, -⟩ := Template.compile?_eq_ok ht
  obtain ⟨chars, hchars, rfl⟩ := List.mem_map.1 h
  obtain ⟨⟨hole, literal⟩, hm, rfl⟩ := List.mem_map.1 hchars
  rw [hskeleton] at hm
  rcases Skeleton.cases_of_mem_scan hm with hw | ⟨name, hp, hne, hword⟩
  · exact absurd (Skeleton.star_mem_iff.2 ⟨_, hm, hw⟩) hstar
  · simpa [hp, Hole.name, hne] using hword

/-- Texts for the distinct names of a template without stars make a path when they are passed as
pairs. -/
theorem build_textPairs (hnodup : t.skeleton.names.Nodup) {texts : List String}
    (hlength : texts.length = t.skeleton.holes.length) :
    (t.build (Command.textPairs ((t.skeleton.names.map String.ofList).zip texts))).result =
      .ok (String.ofList (t.skeleton.thread (texts.map String.toList))) := by
  have hbuild := build_texts ht hstar hnodup hlength
  rw [result_build_eq_ok_iff ⟨.dictionary _,
    List.forall_mem_map.2 fun _ _ => Value.isWritable_text _, by simp⟩] at hbuild
  rw [Command.textPairs, result_build_eq_ok_iff (Supplied.gives_ofPairs _)]
  simpa [Supplied.pairsOf, Supplied.ofPairs, namedEntries, Value.entry, Function.comp_def,
    Value.toText_text] using hbuild

end

namespace Command

/-! ## Lines -/

/-- The lines of an output: the texts in front of its newlines. -/
def outputLines (text : String) : List String :=
  (text.toList.splitOn '\n').dropLast.map String.ofList

theorem toList_intercalate_lines (lines : List String) :
    ("".intercalate (lines.map (· ++ "\n"))).toList =
      ['\n'].intercalate (lines.map String.toList ++ [[]]) := by
  induction lines with
  | nil => simp
  | cons line lines ih =>
    have hne : lines.map String.toList ++ [[]] ≠ [] := by simp
    rw [List.map_cons, intercalate_cons, String.toList_append, ih, List.map_cons, List.cons_append,
      List.intercalate_cons_of_ne_nil hne]
    simp

/-- Lines that hold no newlines are read again from the output in which they are printed. -/
theorem outputLines_intercalate {lines : List String} (h : ∀ line ∈ lines, '\n' ∉ line.toList) :
    outputLines ("".intercalate (lines.map (· ++ "\n"))) = lines := by
  have hlines : ∀ line ∈ lines.map String.toList ++ [[]], '\n' ∉ line := by
    simpa [or_imp, forall_and] using h
  rw [outputLines, toList_intercalate_lines, List.splitOn_intercalate _ hlines (by simp),
    List.dropLast_concat, List.map_map]
  simp [Function.comp_def]

/-! ## Assignments -/

def assignmentLine (pair : String × String) : String :=
  pair.1 ++ "=" ++ pair.2

section

variable {pair : String × String} (hname : pair.1 ≠ "")
  (hword : ∀ c ∈ pair.1.toList, Text.isWord c = true)

include hword

theorem newline_not_mem_assignmentLine (hvalue : '\n' ∉ pair.2.toList) :
    '\n' ∉ (assignmentLine pair).toList := by
  have hnewline : '\n' ∉ pair.1.toList := fun h => absurd (hword _ h) (by decide)
  simp [assignmentLine, hnewline, hvalue]

include hname

theorem writes_assignmentLine : Assignment.Writes (assignmentLine pair) pair :=
  ⟨rfl, hname, fun h => absurd (hword _ h) (by decide)⟩

theorem positional_assignmentLine : Positional (assignmentLine pair) := by
  have hne : pair.1.toList ≠ [] := by simpa using hname
  have hhead : (assignmentLine pair).toList.head? = some (pair.1.toList.head hne) := by
    rw [assignmentLine, String.append_assoc, String.toList_append, List.head?_append_of_ne_nil _ hne,
      List.head?_eq_some_head hne]
  rw [Positional, hhead]
  intro h
  have hhyphen := hword _ (List.head_mem hne)
  rw [Option.some.inj h] at hhyphen
  exact absurd hhyphen (by decide)

end

/-- The lines that are printed about a path that matches a template without stars, with distinct
names and ordinary literals, are assignments. Passed on as they are, they build the path. -/
theorem build_outputLines {pattern path : String} {t : Template}
    (ht : Template.compile? pattern = .ok t) (hstar : '*' ∉ pattern.toList)
    (hnodup : t.skeleton.names.Nodup)
    (hliterals : ∀ literal ∈ t.skeleton.segments, ∀ c ∈ literal, Literal.isSpecial c = false)
    (haccepts : t.accepts path = true) {environment : List (String × String)}
    (hlevel : Settings.LevelKnown environment)
    (hjson : Settings.environmentJson environment = false) (notices : Notices) :
    (run notices ["extract", pattern, path] environment).ending = .exit 0 ∧
      (run notices ("build" :: pattern ::
          outputLines (run notices ["extract", pattern, path] environment).stdout)
        environment).Prints (notices.about pattern) (path ++ "\n") 0 := by
  obtain ⟨pieces, hsplits, hextract⟩ := exists_splits ht hstar hnodup hliterals haccepts
  let pairs := (t.skeleton.names.map String.ofList).zip pieces
  have hlength : pieces.length = t.skeleton.holes.length := by
    simpa using hsplits.1.length_eq.symm
  have hname : ∀ pair ∈ pairs, pair.1 ≠ "" ∧ ∀ c ∈ pair.1.toList, Text.isWord c = true :=
    fun pair hm => word_of_mem_names ht hstar (List.of_mem_zip hm).1
  have hvalue : ∀ pair ∈ pairs, '\n' ∉ pair.2.toList := fun pair hm =>
    newline_not_mem_of_splits hsplits _ (List.mem_map_of_mem (List.of_mem_zip hm).2)
  -- Both arguments begin with a slash, so neither is taken for an option.
  obtain ⟨rest, lead, htext, hlead⟩ := exists_lead ht hstar
  have hpattern : Positional pattern := by simp [Positional, htext]
  have hpath : Positional path := by simp [Positional, ← hsplits.2, Skeleton.thread, hlead]
  have hprints : (run notices ["extract", pattern, path] environment).Prints
      (notices.about pattern) ("".intercalate ((pairs.map assignmentLine).map (· ++ "\n"))) 0 := by
    have htaken := (extractOutcome_run ht hpattern hlevel notices hpath false).prints _ hextract
    rw [hjson] at htaken
    simpa [jsonWords, assignmentLine, Function.comp_def] using htaken
  refine ⟨hprints.ending, ?_⟩
  -- Only a newline in a name or a piece could make other lines of these.
  rw [hprints.stdout, outputLines_intercalate]
  · have hassignments : ∀ line ∈ pairs.map assignmentLine, Positional line := by
      intro line hm
      obtain ⟨pair, hp, rfl⟩ := List.mem_map.1 hm
      exact positional_assignmentLine (hname pair hp).1 (hname pair hp).2
    have hwrites : List.Forall₂ Assignment.Writes (pairs.map assignmentLine) pairs := by
      rw [List.forall₂_map_left_iff, List.forall₂_same]
      exact fun pair hp => writes_assignmentLine (hname pair hp).1 (hname pair hp).2
    have hbuild := build_textPairs ht hstar hnodup hlength
    rw [hsplits.2, String.ofList_toList] at hbuild
    exact (buildOutcome_run ht hpattern hlevel notices hassignments).prints _ _ hwrites hbuild
  · intro line hm
    obtain ⟨pair, hp, rfl⟩ := List.mem_map.1 hm
    exact newline_not_mem_assignmentLine (hname pair hp).2 (hvalue pair hp)

/-- Pieces with an equals sign, a blank, a return and a hyphen in front. -/
theorem build_outputLines_hyphen :
    (run .silent ["extract", "/\x7ba\x7d-\x7bb\x7d", "/=\r--b y"] [("PERCH_JSON", "no")]).ending =
        .exit 0 ∧
      (run .silent ("build" :: "/\x7ba\x7d-\x7bb\x7d" :: outputLines
          (run .silent ["extract", "/\x7ba\x7d-\x7bb\x7d", "/=\r--b y"]
            [("PERCH_JSON", "no")]).stdout)
        [("PERCH_JSON", "no")]).Prints [] ("/=\r--b y" ++ "\n") 0 := by
  have hfacts : (Template.compile? "/\x7ba\x7d-\x7bb\x7d").toOption.map (fun t =>
      (t.accepts "/=\r--b y", t.skeleton.names, t.skeleton.segments)) =
        some (true, [['a'], ['b']], [['/'], ['-'], []]) := by
    decide +kernel
  obtain ⟨t, ht, hfacts⟩ := Regex.map_toOption_eq_some.1 hfacts
  obtain ⟨haccepts, hrest⟩ := Prod.mk.inj hfacts
  obtain ⟨hnames, hsegments⟩ := Prod.mk.inj hrest
  have hlevel : Settings.LevelKnown [("PERCH_JSON", "no")] := by
    intro name h
    cases h
  refine build_outputLines ht (by decide) (by rw [hnames]; decide) ?_ haccepts hlevel (by decide)
    .silent
  rw [hsegments]
  simp [Literal.isSpecial]

end Command

end PathTemplate
