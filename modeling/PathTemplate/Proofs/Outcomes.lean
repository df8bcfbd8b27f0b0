import PathTemplate.Proofs.Assignments
import PathTemplate.Proofs.Passing
import PathTemplate.Proofs.PlainArguments
import PathTemplate.Proofs.Refusals
import PathTemplate.Proofs.Streams

/-!
# What commands print and how they end

A command does what the function of the same name does, and prints the result or the error. Nothing
is printed on the output stream by a command that fails, and the error comes behind all notices and
records.

## Main definitions

* `Run.Ends`: what a run prints and how it ends, apart from records.
* `Run.Prints`: a run that prints a text and nothing but notices and records besides.
* `Run.Fails`: a run that prints nothing but notices, records and an error.
* `ExtractOutcome`, `BuildOutcome`: what a run makes of the results of the function.

## Main statements

* `run_arguments`: the run of a task whose arguments are no options.
* `commands_refine`: the runs of all commands, in terms of the functions.
-/

namespace PathTemplate.Command

/-! ## Runs -/

/-- A run that prints a text, ends with a code, and has another text on the error stream, behind
notices and all records. -/
structure Run.Ends (r : Run) (notes : List String) (out : String) (code : Nat) (err : String) :
    Prop where
  stdout : r.stdout = out
  ending : r.ending = .exit code
  stderr : ∃ records, r.stderr = "".intercalate notes ++ (recordLines records ++ err)

/-- A run that prints a text and ends with a code. On the error stream there are only notices and
records. -/
def Run.Prints (r : Run) (notes : List String) (text : String) (code : Nat) : Prop :=
  r.Ends notes text code ""

/-- A run that prints nothing on the output stream and fails. On the error stream there is an error
behind the notices and the records. -/
def Run.Fails (r : Run) (notes : List String) (message : String) : Prop :=
  r.Ends notes "" 1 ("Error: " ++ message ++ "\n")

theorem Run.Ends.after {level : Level} {e : Effects} {out err : String} {code : Nat}
    (h : (e.run level).Ends [] out code err) (records : List Record) :
    ((e.after records).run level).Ends [] out code err where
  stdout := (stdout_after ..).trans h.stdout
  ending := h.ending
  stderr := by
    obtain ⟨others, hothers⟩ := h.stderr
    refine ⟨records.filter (fun r => level.number ≤ r.level.number) ++ others, ?_⟩
    rw [String.intercalate_nil, String.empty_append] at hothers ⊢
    rw [stderr_after, hothers, recordLines_append, String.append_assoc]

theorem Run.Ends.noting {level : Level} {e : Effects} {out err : String} {code : Nat}
    (h : (e.run level).Ends [] out code err) (notes : List String) :
    ((e.noting notes).run level).Ends notes out code err where
  stdout := (stdout_noting ..).trans h.stdout
  ending := h.ending
  stderr := by
    obtain ⟨records, hrecords⟩ := h.stderr
    rw [String.intercalate_nil, String.empty_append] at hrecords
    exact ⟨records, by rw [stderr_noting, hrecords]⟩

theorem prints_printed (level : Level) (text : String) (code : Nat) :
    ((Effects.printed text code).run level).Prints [] text code := by
  constructor
  · by_cases h : text = "" <;> simp [Run.stdout, Effects.run, Effects.printed, h, Event.stdout]
  · rfl
  · refine ⟨[], ?_⟩
    by_cases h : text = "" <;>
      simp [Run.stderr, Effects.run, Effects.printed, h, Event.stderr, recordLines]

theorem fails_failed (level : Level) (records : List Record) (message : String) :
    ((Effects.failed records message).run level).Fails [] message := by
  have hfailed : Effects.failed records message = (Effects.failed [] message).after records := rfl
  have hfails : ((Effects.failed [] message).run level).Fails [] message := by
    constructor
    · simp [Run.stdout, Effects.run, Effects.failed, Event.stdout]
    · rfl
    · exact ⟨[], by simp [Run.stderr, Effects.run, Effects.failed, Event.stderr, recordLines]⟩
  exact hfailed ▸ hfails.after records

theorem Run.Fails.ending_ne {r : Run} {notes : List String} {message : String}
    (h : r.Fails notes message) :
    r.ending ≠ .exit 0 := by
  rw [h.ending]
  decide

/-! ## Tasks -/

/-- The run of a task whose arguments are no options, in an environment with a known level. -/
theorem run_arguments (notices : Notices) {task : Task} (h : task.Plain) {json : Bool}
    (hjson : json = true → task.command.hasJson = true) {environment : List (String × String)}
    (hlevel : Settings.LevelKnown environment) :
    run notices (task.arguments json) environment =
      (runTask notices (json || Settings.environmentJson environment) task).run
        (Settings.environmentLevel environment) := by
  have hname : (⟨none, false, json, task⟩ : Invocation).levelName? = none := rfl
  unfold run
  rw [Invocation.read_arguments h hjson]
  dsimp only
  rw [Invocation.run_eq, hname]
  exact if_pos hlevel.knownLevel

theorem afterCompiling_of_ok {pattern : String} {t : Template}
    (h : Template.compile? pattern = .ok t) (go : Template → Effects) :
    afterCompiling pattern go = (go t).after (t.expression.map t.compiledRecord).toList := by
  unfold afterCompiling Template.compile
  rw [h]

theorem afterCompiling_of_flaw {pattern : String} {flaw : TemplateFlaw}
    (h : Template.compile? pattern = .error (.flaw flaw)) (go : Template → Effects) :
    afterCompiling pattern go =
      .failed [rejectedRecord (flaw.report pattern)] (flaw.detail pattern) := by
  unfold afterCompiling Template.compile
  rw [h]
  rfl

theorem ends_withTemplate {pattern : String} {t : Template} (h : Template.compile? pattern = .ok t)
    {go : Template → Effects} {level : Level} {out err : String} {code : Nat}
    (hgo : ((go t).run level).Ends [] out code err) (notices : Notices) :
    ((withTemplate notices pattern go).run level).Ends (notices.about pattern) out code err := by
  rw [withTemplate, afterCompiling_of_ok h]
  exact (hgo.after _).noting _

theorem fails_runTask {task : Task} {flaw : TemplateFlaw}
    (h : Template.compile? task.pattern = .error (.flaw flaw)) (notices : Notices) (json : Bool)
    (level : Level) : ((runTask notices json task).run level).Fails (notices.about task.pattern)
      (flaw.detail task.pattern) := by
  have hfails : ∀ go, ((withTemplate notices task.pattern go).run level).Fails
      (notices.about task.pattern) (flaw.detail task.pattern) := by
    intro go
    rw [withTemplate, afterCompiling_of_flaw h]
    exact (fails_failed ..).noting _
  cases task <;> exact hfails _

/-! ## Commands -/

def textPairs (pairs : List (String × String)) : Supplied :=
  .ofPairs (pairs.map fun pair => (pair.1, .text pair.2))

/-- What a run that takes a path apart makes of it: it succeeds just if the path can be taken apart,
and prints the names and what they stand for in order, as lines or as an object. -/
structure ExtractOutcome (t : Template) (path : String) (json : Bool) (notes : List String)
    (r : Run) : Prop where
  success_iff : r.ending = .exit 0 ↔ ∃ bindings, t.extract path = .ok bindings
  prints : ∀ bindings, t.extract path = .ok bindings → r.Prints notes
    (if json then
      (Text.Json.object (bindings.map fun b => (b.1, (b.2.map .text).getD .null))).compact ++ "\n"
    else "".intercalate (bindings.map fun b => b.1 ++ "=" ++ b.2.getD "None" ++ "\n")) 0
  fails : ∀ e, t.extract path = .error e → r.Fails notes e.message

/-- What a run that builds a path makes of its assignments: it succeeds just if each is a name and a
value and the names fit, and prints the path. -/
structure BuildOutcome (t : Template) (assignments : List String) (notes : List String) (r : Run) :
    Prop where
  success_iff : r.ending = .exit 0 ↔ ∃ pairs path,
    List.Forall₂ Assignment.Writes assignments pairs ∧
      (t.build (textPairs pairs)).result = .ok path
  prints : ∀ pairs path, List.Forall₂ Assignment.Writes assignments pairs →
    (t.build (textPairs pairs)).result = .ok path → r.Prints notes (path ++ "\n") 0
  fails : ∀ pairs failure, List.Forall₂ Assignment.Writes assignments pairs →
    (t.build (textPairs pairs)).result = .error failure → r.Fails notes failure.message
  fails_assignment : ∀ before item after, assignments = before ++ item :: after →
    (∀ i ∈ before, ∃ pair, Assignment.Writes i pair) → (∀ pair, ¬Assignment.Writes item pair) →
      r.Fails notes ("Expected name=value, got " ++ Text.quote item)

theorem textPairs_eq (pairs : List (String × String)) :
    textPairs pairs = ⟨pairs.map fun (name, value) => .tuple [.text name, .text value], []⟩ := by
  rw [textPairs, Supplied.ofPairs, List.map_map]
  rfl

section

variable (t : Template)

theorem runCheck_some (path : String) :
    runCheck (some path) t =
      .printed (if t.accepts path then "true\n" else "false\n")
        (if t.accepts path then 0 else 1) := by
  have hsplit : runCheck (some path) t =
      if t.accepts path then .printed "true\n" 0 else .printed "false\n" 1 := by
    unfold runCheck
    cases t.expression <;> rfl
  by_cases h : t.accepts path = true <;> simp [hsplit, h]

theorem runExtract_of_ok {path : String} {bindings : Bindings String (Option String)}
    (h : t.extract path = .ok bindings) (json : Bool) :
    runExtract json (some path) t =
      .printed (if json then (bindingsJson bindings).compact ++ "\n"
        else "".intercalate (bindings.map bindingLine)) 0 := by
  simp only [runExtract, h]
  cases json <;> rfl

theorem runExtract_of_error {path : String} {e : Mismatch} (h : t.extract path = .error e)
    (json : Bool) : runExtract json (some path) t = .failed [] e.message := by
  simp only [runExtract, h]

variable {assignments : List String} {pairs : List (String × String)}

theorem runBuild_of_ok (hpairs : List.Forall₂ Assignment.Writes assignments pairs) {path : String}
    (h : (t.build (textPairs pairs)).result = .ok path) :
    runBuild assignments t =
      (Effects.printed (path ++ "\n") 0).after (t.build (textPairs pairs)).records := by
  rw [textPairs_eq] at h ⊢
  simp only [runBuild, Assignment.parseAll_eq_ok_iff.2 hpairs, h]

theorem runBuild_of_error (hpairs : List.Forall₂ Assignment.Writes assignments pairs)
    {failure : BuildFailure} (h : (t.build (textPairs pairs)).result = .error failure) :
    runBuild assignments t = .failed (t.build (textPairs pairs)).records failure.message := by
  rw [textPairs_eq] at h ⊢
  simp only [runBuild, Assignment.parseAll_eq_ok_iff.2 hpairs, h]

theorem runBuild_of_item {item : String} (h : Assignment.parseAll assignments = .error item) :
    runBuild assignments t = .failed [] (Assignment.message item) := by
  simp only [runBuild, h]

end

section

variable {pattern : String} {t : Template} (ht : Template.compile? pattern = .ok t)
  (notices : Notices) (level : Level)

include ht

theorem prints_check (json : Bool) (path : String) :
    ((runTask notices json (.check pattern (some path))).run level).Prints (notices.about pattern)
      (if t.accepts path then "true\n" else "false\n") (if t.accepts path then 0 else 1) := by
  refine ends_withTemplate ht ?_ notices
  rw [runCheck_some]
  exact prints_printed ..

theorem extractOutcome (json : Bool) (path : String) :
    ExtractOutcome t path json (notices.about pattern)
      ((runTask notices json (.extract pattern (some path))).run level) := by
  have hprints : ∀ bindings, t.extract path = .ok bindings →
      ((runTask notices json (.extract pattern (some path))).run level).Prints
        (notices.about pattern) (if json then (bindingsJson bindings).compact ++ "\n"
          else "".intercalate (bindings.map bindingLine)) 0 := by
    intro bindings h
    refine ends_withTemplate ht ?_ notices
    rw [runExtract_of_ok t h]
    exact prints_printed ..
  have hfails : ∀ e, t.extract path = .error e →
      ((runTask notices json (.extract pattern (some path))).run level).Fails
        (notices.about pattern) e.message := by
    intro e h
    refine ends_withTemplate ht ?_ notices
    rw [runExtract_of_error t h]
    exact fails_failed ..
  refine ⟨?_, hprints, hfails⟩
  cases h : t.extract path with
  | ok bindings => simp [(hprints bindings h).ending]
  | error e => simp [(hfails e h).ending]

theorem buildOutcome (json : Bool) (assignments : List String) :
    BuildOutcome t assignments (notices.about pattern)
      ((runTask notices json (.build pattern assignments)).run level) := by
  have hprints : ∀ pairs path, List.Forall₂ Assignment.Writes assignments pairs →
      (t.build (textPairs pairs)).result = .ok path →
        ((runTask notices json (.build pattern assignments)).run level).Prints
          (notices.about pattern) (path ++ "\n") 0 := by
    intro pairs path hpairs hbuild
    refine ends_withTemplate ht ?_ notices
    rw [runBuild_of_ok t hpairs hbuild]
    exact (prints_printed ..).after _
  have hfails : ∀ pairs failure, List.Forall₂ Assignment.Writes assignments pairs →
      (t.build (textPairs pairs)).result = .error failure →
        ((runTask notices json (.build pattern assignments)).run level).Fails
          (notices.about pattern) failure.message := by
    intro pairs failure hpairs hbuild
    refine ends_withTemplate ht ?_ notices
    rw [runBuild_of_error t hpairs hbuild]
    exact fails_failed ..
  have hitem : ∀ item, Assignment.parseAll assignments = .error item →
      ((runTask notices json (.build pattern assignments)).run level).Fails
        (notices.about pattern) (Assignment.message item) := by
    intro item h
    refine ends_withTemplate ht ?_ notices
    rw [runBuild_of_item t h]
    exact fails_failed ..
  refine ⟨⟨fun hending => ?_, ?_⟩, hprints, hfails, ?_⟩
  · -- Of the three ways to end, two are failures.
    cases hparse : Assignment.parseAll assignments with
    | error item => exact absurd hending (hitem item hparse).ending_ne
    | ok pairs =>
      have hpairs := Assignment.parseAll_eq_ok_iff.1 hparse
      cases hbuild : (t.build (textPairs pairs)).result with
      | error failure => exact absurd hending (hfails pairs failure hpairs hbuild).ending_ne
      | ok path => exact ⟨pairs, path, hpairs, hbuild⟩
  · rintro ⟨pairs, path, hpairs, hbuild⟩
    exact (hprints pairs path hpairs hbuild).ending
  · intro before item after hitems hbefore hnone
    exact hitem item (Assignment.parseAll_eq_error_iff.2 ⟨before, after, hitems, hbefore, hnone⟩)

end

theorem fails_flaw (notices : Notices) {task : Task} (h : task.Plain) {json : Bool}
    (hjson : json = true → task.command.hasJson = true) {environment : List (String × String)}
    (hlevel : Settings.LevelKnown environment) {flaw : TemplateFlaw}
    (hflaw : Template.compile? task.pattern = .error (.flaw flaw)) :
    (run notices (task.arguments json) environment).Fails (notices.about task.pattern)
      (flaw.detail task.pattern) := by
  rw [run_arguments notices h hjson hlevel]
  exact fails_runTask hflaw ..

theorem arguments_build (pattern : String) (assignments : List String) :
    (Task.build pattern assignments).arguments false = "build" :: pattern :: assignments := by
  simp [Task.arguments, Task.filled, Task.command, CommandKind.word, jsonWords]

section

variable {pattern path : String} {assignments : List String} {environment : List (String × String)}
  {t : Template} (ht : Template.compile? pattern = .ok t) (hpattern : Positional pattern)
  (hlevel : Settings.LevelKnown environment) (notices : Notices)

include ht hpattern hlevel

theorem prints_run_check (hpath : Positional path) :
    (run notices ["match", pattern, path] environment).Prints (notices.about pattern)
      (if t.accepts path then "true\n" else "false\n") (if t.accepts path then 0 else 1) := by
  have hplain : (Task.check pattern (some path)).Plain := ⟨hpattern, path, rfl, hpath⟩
  have hrun := run_arguments notices hplain (fun h : false = true => nomatch h) hlevel
  exact hrun ▸ prints_check ht ..

theorem extractOutcome_run (hpath : Positional path) (json : Bool) :
    ExtractOutcome t path (json || Settings.environmentJson environment) (notices.about pattern)
      (run notices ("extract" :: (jsonWords json ++ [pattern, path])) environment) := by
  have hplain : (Task.extract pattern (some path)).Plain := ⟨hpattern, path, rfl, hpath⟩
  have hrun := run_arguments notices hplain (fun _ : json = true => rfl) hlevel
  exact hrun ▸ extractOutcome ht ..

theorem buildOutcome_run (hassignments : ∀ item ∈ assignments, Positional item) :
    BuildOutcome t assignments (notices.about pattern)
      (run notices ("build" :: pattern :: assignments) environment) := by
  have hplain : (Task.build pattern assignments).Plain := ⟨hpattern, hassignments⟩
  rw [← arguments_build, run_arguments notices hplain (fun h : false = true => nomatch h) hlevel]
  exact buildOutcome ht ..

end

/-- Commands do what the functions of their names do. If the text is no template, all of them fail
with the error of the template. Otherwise a match is told by a word and by the ending, a path is
taken apart or built, and what comes of it is printed, or the error. -/
theorem commands_refine {pattern path : String} {assignments : List String}
    {environment : List (String × String)} (hpattern : Positional pattern)
    (hpath : Positional path) (hassignments : ∀ item ∈ assignments, Positional item)
    (hlevel : Settings.LevelKnown environment) (notices : Notices) :
    (∀ flaw, Template.compile? pattern = .error (.flaw flaw) →
      (run notices ["match", pattern, path] environment).Fails (notices.about pattern)
        (flaw.detail pattern) ∧
      (∀ json, (run notices ("extract" :: (jsonWords json ++ [pattern, path])) environment).Fails
        (notices.about pattern) (flaw.detail pattern)) ∧
      (run notices ("build" :: pattern :: assignments) environment).Fails (notices.about pattern)
        (flaw.detail pattern) ∧
      ∀ json, (run notices ("inspect" :: (jsonWords json ++ [pattern])) environment).Fails
        (notices.about pattern) (flaw.detail pattern)) ∧
    ∀ t, Template.compile? pattern = .ok t →
      (run notices ["match", pattern, path] environment).Prints (notices.about pattern)
        (if t.accepts path then "true\n" else "false\n") (if t.accepts path then 0 else 1) ∧
      (∀ json, ExtractOutcome t path (json || Settings.environmentJson environment)
        (notices.about pattern)
        (run notices ("extract" :: (jsonWords json ++ [pattern, path])) environment)) ∧
      BuildOutcome t assignments (notices.about pattern)
        (run notices ("build" :: pattern :: assignments) environment) := by
  have hcheck : (Task.check pattern (some path)).Plain := ⟨hpattern, path, rfl, hpath⟩
  have hextract : (Task.extract pattern (some path)).Plain := ⟨hpattern, path, rfl, hpath⟩
  have hbuild : (Task.build pattern assignments).Plain := ⟨hpattern, hassignments⟩
  have hinspect : (Task.inspect pattern).Plain := hpattern
  constructor
  · intro flaw hflaw
    refine ⟨?_, fun json => ?_, ?_, fun json => ?_⟩
    · exact fails_flaw notices hcheck (fun h : false = true => nomatch h) hlevel hflaw
    · exact fails_flaw notices hextract (fun _ => rfl) hlevel hflaw
    · exact arguments_build pattern assignments ▸
        fails_flaw notices hbuild (fun h : false = true => nomatch h) hlevel hflaw
    · exact fails_flaw notices hinspect (fun _ => rfl) hlevel hflaw
  · intro t ht
    exact ⟨prints_run_check ht hpattern hlevel notices hpath,
      extractOutcome_run ht hpattern hlevel notices hpath,
      buildOutcome_run ht hpattern hlevel notices hassignments⟩

/-- A name that stands for nothing, since its hole is repeated no times, as a line and in an object;
and an assignment with two equals signs. -/
theorem commands_refine_null :
    (run .silent ["extract", "/a\x7bx\x7d\x7b,2\x7d", "/a"] [("PERCH_LOG_LEVEL", "Debug")]).Prints
        [] "x=None\n" 0 ∧
      (run .silent ["extract", "--json", "/a\x7bx\x7d\x7b,2\x7d", "/a"]
          [("PERCH_LOG_LEVEL", "Debug")]).Prints [] "\x7b\"x\": null\x7d\n" 0 ∧
      (run .silent ["build", "/a\x7bx\x7d\x7b,2\x7d", "x=1=2"]
          [("PERCH_LOG_LEVEL", "Debug")]).Prints [] "/a1=2\x7b,2\x7d\n" 0 := by
  have hfacts : (Template.compile? "/a\x7bx\x7d\x7b,2\x7d").toOption.map (fun t =>
      ((t.extract "/a").toOption, (t.build (textPairs [("x", "1=2")])).result.toOption)) =
        some (some [("x", none)], some "/a1=2\x7b,2\x7d") := by
    decide +kernel
  obtain ⟨t, ht, hfacts⟩ := Regex.map_toOption_eq_some.1 hfacts
  obtain ⟨hextract, hbuild⟩ := Prod.mk.inj hfacts
  rw [Regex.toOption_eq_some] at hextract hbuild
  have hlevel : Settings.LevelKnown [("PERCH_LOG_LEVEL", "Debug")] := by
    intro name h
    obtain rfl := Option.some.inj h
    decide +kernel
  have hwrites : List.Forall₂ Assignment.Writes ["x=1=2"] [("x", "1=2")] :=
    .cons ⟨by decide, by decide, by decide⟩ .nil
  obtain ⟨-, hcommands⟩ := commands_refine (by decide : Positional "/a\x7bx\x7d\x7b,2\x7d")
    (by decide : Positional "/a") (by decide : ∀ item ∈ ["x=1=2"], Positional item) hlevel
    .silent
  obtain ⟨-, hextracts, hbuilds⟩ := hcommands t ht
  exact ⟨(hextracts false).prints _ hextract, (hextracts true).prints _ hextract,
    hbuilds.prints _ _ hwrites hbuild⟩

end PathTemplate.Command
