import PathTemplate.Command.Run
import PathTemplate.Proofs.Acceptance
import PathTemplate.Proofs.SyntaxErrors

/-!
# Why a text is no template

A text that is no template violates one of three rules, with one exception: a literal can have a
number beyond the limits of expressions, as a bound of a repetition or as the code of a character.
The program ends without an exit code for the same reason.

Expressions are read by descending into their groups, and how far a stack lets one descend is not
part of the definitions here. So what is said of the rule about expressions is said of texts whose
groups are not nested too deep.

## Main definitions

* `CompileError.IsFlaw`: an error that names a rule.
* `Regex.nesting`: how deep the groups of a source are nested.
* `Template.BeyondLimits`: the texts that violate no rule and are no templates either.
* `Command.Task.pattern`: the text that a task takes for a template.

## Main statements

* `Template.compile?_not_flaw_iff`: the texts that are refused without a rule.
* `Command.run_notCompiled_iff`: the runs that end for that reason.
* `compile_failures`: the rules in order, and what escapes them.
-/

namespace PathTemplate

open Regex (bind_eq_ok map_eq_ok)

def CompileError.IsFlaw (e : CompileError) : Prop :=
  ∃ flaw, e = .flaw flaw

namespace Regex

/-- The number of groups that are open at once, at most, while tokens are read. -/
def Reader.depth (r : Reader) : List Token → Nat
  | [] => r.frames.length
  | t :: ts =>
    match r.feed t with
    | .ok next => max r.frames.length (next.depth ts)
    | .error _ => r.frames.length

/-- How deep the groups of a source are nested, as far as it can be read. -/
def nesting (source : List Char) : Nat :=
  ((Token.ofSource? source).map Reader.empty.depth).getD 0

/-- Every stack is deep enough for groups that are nested no deeper than this. -/
def nestingLimit : Nat := 100

end Regex

namespace Template

/-! ## Expressions -/

theorem isFlaw_ofFailure {failure : Regex.Failure} :
    (ofFailure failure).IsFlaw ↔ failure.IsSyntax := by
  cases failure <;> simp [ofFailure, CompileError.IsFlaw, Regex.Failure.IsSyntax]

/-- A skeleton is refused without a flaw if a number in its source is beyond the limits. -/
theorem compileSkeleton_not_flaw_iff {s : Skeleton} :
    (∃ e, compileSkeleton s = .error e ∧ ¬e.IsFlaw) ↔ Regex.NumberBeyond s.source := by
  rw [← not_iff_not, ← Regex.syntaxOnly_compile_iff]
  unfold compileSkeleton
  split
  · next failure h => simp [h, isFlaw_ofFailure]
  · next regex h =>
    have hflaws : ∀ flaw, CompileError.IsFlaw (.flaw flaw) := fun flaw => ⟨flaw, rfl⟩
    rw [h]
    repeat' split
    all_goals simp [hflaws]

theorem rule_of_compileSkeleton {s : Skeleton} {flaw : TemplateFlaw}
    (h : compileSkeleton s = .error (.flaw flaw)) : flaw.rule = "regex" := by
  have hliteral : ∀ literal f, literalFlaw? literal = some f → f.rule = "regex" := by
    intro literal f hf
    unfold literalFlaw? at hf
    repeat' split at hf
    all_goals simp at hf
    all_goals subst hf; rfl
  unfold compileSkeleton at h
  split at h
  · next failure _ =>
    cases failure with
    | syntaxError e =>
      obtain rfl := CompileError.flaw.inj (Except.error.inj h)
      rfl
    | _ => simp [ofFailure] at h
  · split at h
    · obtain rfl := CompileError.flaw.inj (Except.error.inj h)
      rfl
    · split at h
      · next f hf =>
        obtain rfl := CompileError.flaw.inj (Except.error.inj h)
        unfold Skeleton.optionalHole? at hf
        split at hf
        · obtain rfl := Option.some.inj hf
          rfl
        · obtain ⟨hole, -, hfound⟩ := List.exists_of_findSome?_eq_some hf
          exact hliteral _ _ hfound
      · simp at h

/-! ## Texts -/

/-- A text with the right start, without a colon and with a hole, of which the expression has a
number beyond the limits. -/
structure BeyondLimits (text : List Char) : Prop where
  checked : checkText text = .ok ()
  holes : (Skeleton.scan text).holes ≠ []
  beyond : Regex.NumberBeyond (Skeleton.scan text).source

theorem checkText_cases (text : List Char) :
    (¬(text.head? = some '/' ∨ text.head? = some '*') ∧
        checkText text = .error (.flaw .start)) ∨
      ((text.head? = some '/' ∨ text.head? = some '*') ∧ ':' ∈ text ∧
        checkText text = .error (.flaw .colon)) ∨
      ((text.head? = some '/' ∨ text.head? = some '*') ∧ ':' ∉ text ∧
        checkText text = .ok ()) := by
  unfold checkText
  split
  · next h => exact .inl ⟨not_or.2 h, rfl⟩
  · next h =>
    rw [← or_iff_not_and_not] at h
    split
    · next hc => exact .inr (.inl ⟨h, by simpa using hc, rfl⟩)
    · next hc => exact .inr (.inr ⟨h, by simpa using hc, rfl⟩)

theorem compile?_eq_error {text : String} {e : CompileError} :
    compile? text = .error e ↔ checkText text.toList = .error e ∨
      checkText text.toList = .ok () ∧ (Skeleton.scan text.toList).holes ≠ [] ∧
        compileSkeleton (Skeleton.scan text.toList) = .error e := by
  rw [compile?_eq]
  cases checkText text.toList with
  | error e' => simp [Except.bind]
  | ok _ =>
    by_cases h : (Skeleton.scan text.toList).holes = []
    · simp [Except.bind, h]
    · cases compileSkeleton (Skeleton.scan text.toList) <;> simp [Except.bind, Except.map, h]

theorem compile?_not_flaw_iff {text : String} :
    (∃ e, compile? text = .error e ∧ ¬e.IsFlaw) ↔ BeyondLimits text.toList := by
  have hcheck : ∀ e, checkText text.toList = .error e → e.IsFlaw := by
    intro e h
    rcases checkText_cases text.toList with ⟨-, h'⟩ | ⟨-, -, h'⟩ | ⟨-, -, h'⟩
    · exact ⟨_, Except.error.inj (h.symm.trans h')⟩
    · exact ⟨_, Except.error.inj (h.symm.trans h')⟩
    · simp [h'] at h
  constructor
  · rintro ⟨e, he, hflaw⟩
    rcases compile?_eq_error.1 he with h | ⟨h, hholes, hs⟩
    · exact absurd (hcheck e h) hflaw
    · exact ⟨h, hholes, compileSkeleton_not_flaw_iff.1 ⟨e, hs, hflaw⟩⟩
  · rintro ⟨h, hholes, hbeyond⟩
    obtain ⟨e, hs, hflaw⟩ := compileSkeleton_not_flaw_iff.2 hbeyond
    exact ⟨e, compile?_eq_error.2 (.inr ⟨h, hholes, hs⟩), hflaw⟩

/-! ## Rules -/

/-- A text has a flaw by a rule. -/
def Violates (text : String) (rule : String) : Prop :=
  ∃ flaw, compile? text = .error (.flaw flaw) ∧ flaw.rule = rule

/-- The rule that a text violates, and what is known of the text then. -/
theorem cases_of_flaw {text : String} {flaw : TemplateFlaw}
    (h : compile? text = .error (.flaw flaw)) :
    (¬(text.toList.head? = some '/' ∨ text.toList.head? = some '*') ∧ flaw = .start) ∨
      ((text.toList.head? = some '/' ∨ text.toList.head? = some '*') ∧ ':' ∈ text.toList ∧
        flaw = .colon) ∨
      ((text.toList.head? = some '/' ∨ text.toList.head? = some '*') ∧ ':' ∉ text.toList ∧
        (Skeleton.scan text.toList).holes ≠ [] ∧ flaw.rule = "regex") := by
  rcases compile?_eq_error.1 h with hcheck | ⟨hcheck, hholes, hs⟩
  · rcases checkText_cases text.toList with ⟨hstart, h'⟩ | ⟨hstart, hcolon, h'⟩ | ⟨-, -, h'⟩
    · exact .inl ⟨hstart, CompileError.flaw.inj (Except.error.inj (hcheck.symm.trans h'))⟩
    · exact .inr (.inl ⟨hstart, hcolon,
        CompileError.flaw.inj (Except.error.inj (hcheck.symm.trans h'))⟩)
    · simp [h'] at hcheck
  · obtain ⟨hstart, hcolon⟩ := checkText_eq_ok_iff.1 hcheck
    exact .inr (.inr ⟨hstart, hcolon, hholes, rule_of_compileSkeleton hs⟩)

theorem violates_prefix_iff {text : String} :
    Violates text "prefix" ↔
      ¬(text.toList.head? = some '/' ∨ text.toList.head? = some '*') := by
  constructor
  · rintro ⟨flaw, h, hrule⟩
    rcases cases_of_flaw h with ⟨hstart, -⟩ | ⟨-, -, rfl⟩ | ⟨-, -, -, hregex⟩
    · exact hstart
    · simp [TemplateFlaw.rule] at hrule
    · simp [hregex] at hrule
  · intro hstart
    rcases checkText_cases text.toList with ⟨-, h⟩ | ⟨hright, -⟩ | ⟨hright, -⟩
    · exact ⟨.start, compile?_eq_error.2 (.inl h), rfl⟩
    · exact absurd hright hstart
    · exact absurd hright hstart

theorem violates_colon_iff {text : String} :
    Violates text "colon" ↔
      (text.toList.head? = some '/' ∨ text.toList.head? = some '*') ∧ ':' ∈ text.toList := by
  constructor
  · rintro ⟨flaw, h, hrule⟩
    rcases cases_of_flaw h with ⟨-, rfl⟩ | ⟨hstart, hcolon, -⟩ | ⟨-, -, -, hregex⟩
    · simp [TemplateFlaw.rule] at hrule
    · exact ⟨hstart, hcolon⟩
    · simp [hregex] at hrule
  · rintro ⟨hstart, hcolon⟩
    rcases checkText_cases text.toList with ⟨hwrong, -⟩ | ⟨-, -, h⟩ | ⟨-, hnone, -⟩
    · exact absurd hstart hwrong
    · exact ⟨.colon, compile?_eq_error.2 (.inl h), rfl⟩
    · exact absurd hcolon hnone

/-- The rule about expressions is for texts with a hole that pass the first check. It is violated by
those that are neither templates nor beyond the limits. -/
theorem violates_regex_iff {text : String} :
    Violates text "regex" ↔
      (text.toList.head? = some '/' ∨ text.toList.head? = some '*') ∧ ':' ∉ text.toList ∧
        (Skeleton.scan text.toList).holes ≠ [] ∧ (∀ t, compile? text ≠ .ok t) ∧
          ¬BeyondLimits text.toList := by
  constructor
  · rintro ⟨flaw, h, hrule⟩
    rcases cases_of_flaw h with ⟨-, rfl⟩ | ⟨-, -, rfl⟩ | ⟨hstart, hcolon, hholes, -⟩
    · simp [TemplateFlaw.rule] at hrule
    · simp [TemplateFlaw.rule] at hrule
    · refine ⟨hstart, hcolon, hholes, by simp [h], fun hbeyond => ?_⟩
      obtain ⟨e, he, hflaw⟩ := compile?_not_flaw_iff.2 hbeyond
      exact hflaw ⟨flaw, Except.error.inj (he.symm.trans h)⟩
  · rintro ⟨hstart, hcolon, -, hno, hwithin⟩
    cases h : compile? text with
    | ok t => exact absurd h (hno t)
    | error e =>
      obtain ⟨flaw, rfl⟩ : e.IsFlaw := by
        by_contra hflaw
        exact hwithin (compile?_not_flaw_iff.1 ⟨e, h, hflaw⟩)
      rcases cases_of_flaw h with ⟨hwrong, -⟩ | ⟨-, hin, -⟩ | ⟨-, -, -, hregex⟩
      · exact absurd hstart hwrong
      · exact absurd hin hcolon
      · exact ⟨flaw, h, hregex⟩

end Template

/-! ## Runs -/

namespace Command

def Task.pattern : Task → String
  | check pattern _ => pattern
  | extract pattern _ => pattern
  | build pattern _ => pattern
  | inspect pattern => pattern

/-- A template that is refused without a flaw ends the run, as long as nothing else ends it so. -/
theorem ending_withTemplate {notices : Notices} {pattern text : String} {e : CompileError}
    {go : Template → Effects} (hgo : ∀ t, (go t).ending ≠ .notCompiled text e) :
    (withTemplate notices pattern go).ending = .notCompiled text e ↔
      pattern = text ∧ Template.compile? pattern = .error e ∧ ¬e.IsFlaw := by
  have hnoting : (withTemplate notices pattern go).ending = (afterCompiling pattern go).ending := rfl
  rw [hnoting, afterCompiling, Template.compile]
  cases h : Template.compile? pattern with
  | ok t => simpa [Effects.after] using hgo t
  | error e' =>
    by_cases hflaw : e'.IsFlaw
    · obtain ⟨flaw, rfl⟩ := hflaw
      have hne : ¬(CompileError.flaw flaw = e ∧ ¬e.IsFlaw) := fun ⟨he, hno⟩ => hno ⟨flaw, he.symm⟩
      simpa [Traced.silent, Effects.failed] using fun _ he => not_not.1 fun hno => hne ⟨he, hno⟩
    · have hending : ∀ flaw, e' ≠ .flaw flaw := fun flaw he => hflaw ⟨flaw, he⟩
      cases e' with
      | flaw flaw => exact absurd rfl (hending flaw)
      | _ =>
        simp only [Traced.silent, Ending.notCompiled.injEq, Except.error.injEq]
        exact and_congr_right fun _ => (and_iff_left_of_imp fun he => he ▸ hflaw).symm

theorem ending_runCheck (path : Option String) (t : Template) (text : String) (e : CompileError) :
    (runCheck path t).ending ≠ .notCompiled text e := by
  unfold runCheck
  repeat' split
  all_goals simp [Effects.printed]

theorem ending_runExtract (json : Bool) (path : Option String) (t : Template) (text : String)
    (e : CompileError) : (runExtract json path t).ending ≠ .notCompiled text e := by
  unfold runExtract
  repeat' split
  all_goals simp [Effects.printed, Effects.failed]

theorem ending_runBuild (assignments : List String) (t : Template) (text : String)
    (e : CompileError) : (runBuild assignments t).ending ≠ .notCompiled text e := by
  unfold runBuild
  split
  · simp [Effects.failed]
  · dsimp only
    split <;> simp [Effects.failed, Effects.printed, Effects.after]

theorem ending_runInspect (json : Bool) (t : Template) (text : String) (e : CompileError) :
    (runInspect json t).ending ≠ .notCompiled text e := by
  unfold runInspect
  dsimp only
  split <;> simp [Effects.printed]

theorem ending_runTask {notices : Notices} {json : Bool} {task : Task} {text : String}
    {e : CompileError} :
    (runTask notices json task).ending = .notCompiled text e ↔
      task.pattern = text ∧ Template.compile? task.pattern = .error e ∧ ¬e.IsFlaw := by
  cases task with
  | check pattern path => exact ending_withTemplate fun t => ending_runCheck path t text e
  | extract pattern path => exact ending_withTemplate fun t => ending_runExtract json path t text e
  | build pattern assignments =>
    exact ending_withTemplate fun t => ending_runBuild assignments t text e
  | inspect pattern => exact ending_withTemplate fun t => ending_runInspect json t text e

theorem Invocation.ending_run {notices : Notices} {invocation : Invocation}
    {environment : List (String × String)} {text : String} {e : CompileError} :
    (invocation.run notices environment).ending = .notCompiled text e ↔
      (∃ settings, Settings.ofEnvironment environment invocation.explicit = .ok settings) ∧
        invocation.task.pattern = text ∧ Template.compile? text = .error e ∧ ¬e.IsFlaw := by
  unfold Invocation.run
  cases Settings.ofEnvironment environment invocation.explicit with
  | error _ => simp [Effects.failed]
  | ok settings =>
    refine ending_runTask.trans ?_
    constructor
    · rintro ⟨rfl, h⟩
      exact ⟨⟨settings, rfl⟩, rfl, h⟩
    · rintro ⟨-, rfl, h⟩
      exact ⟨rfl, h⟩

/-- Arguments that are read and settings that are right lead to a task. -/
def Reaches (arguments : List String) (environment : List (String × String)) (task : Task) : Prop :=
  ∃ invocation, Invocation.read arguments = .ok invocation ∧ invocation.task = task ∧
    ∃ settings, Settings.ofEnvironment environment invocation.explicit = .ok settings

/-- A run that comes to a task ends without an exit code for want of a template if the text is
beyond the limits. -/
theorem run_notCompiled_iff {notices : Notices} {arguments : List String}
    {environment : List (String × String)} {text : String} :
    (∃ e, (run notices arguments environment).ending = .notCompiled text e) ↔
      (∃ task, Reaches arguments environment task ∧ task.pattern = text) ∧
        Template.BeyondLimits text.toList := by
  unfold run
  rw [← Template.compile?_not_flaw_iff]
  cases hread : Invocation.read arguments with
  | error refusal => cases refusal <;> simp [Reaches, hread]
  | ok invocation =>
    constructor
    · rintro ⟨e, h⟩
      obtain ⟨hsettings, hpattern, herror⟩ := Invocation.ending_run.1 h
      exact ⟨⟨_, ⟨invocation, hread, rfl, hsettings⟩, hpattern⟩, e, herror⟩
    · rintro ⟨⟨_, ⟨invocation', hread', rfl, hsettings⟩, hpattern⟩, e, herror⟩
      obtain rfl := Except.ok.inj (hread.symm.trans hread')
      exact ⟨e, Invocation.ending_run.2 ⟨hsettings, hpattern, herror⟩⟩

end Command

/-! ## All failures -/

/-- A text violates the first rule that forbids it: the one about the start, the one about colons,
or, if it has a hole, the one about expressions. If its groups are not nested too deep, what is
refused otherwise is beyond the limits, and then, and only then, a run that comes to a task with
this text ends without an exit code for its sake. -/
theorem compile_failures (text : String) (notices : Command.Notices) (arguments : List String)
    (environment : List (String × String)) :
    (Template.Violates text "prefix" ↔
      ¬(text.toList.head? = some '/' ∨ text.toList.head? = some '*')) ∧
    (Template.Violates text "colon" ↔
      (text.toList.head? = some '/' ∨ text.toList.head? = some '*') ∧ ':' ∈ text.toList) ∧
    (Regex.nesting (Skeleton.scan text.toList).source ≤ Regex.nestingLimit →
      (Template.Violates text "regex" ↔
        (text.toList.head? = some '/' ∨ text.toList.head? = some '*') ∧ ':' ∉ text.toList ∧
          (Skeleton.scan text.toList).holes ≠ [] ∧ (∀ t, Template.compile? text ≠ .ok t) ∧
            ¬Template.BeyondLimits text.toList) ∧
      ((∃ e, Template.compile? text = .error e ∧ ¬e.IsFlaw) ↔ Template.BeyondLimits text.toList) ∧
      ((∃ e, (Command.run notices arguments environment).ending = .notCompiled text e) ↔
        (∃ task, Command.Reaches arguments environment task ∧ task.pattern = text) ∧
          Template.BeyondLimits text.toList)) :=
  ⟨Template.violates_prefix_iff, Template.violates_colon_iff, fun _ =>
    ⟨Template.violates_regex_iff, Template.compile?_not_flaw_iff, Command.run_notCompiled_iff⟩⟩

/-- A code that is too large, in a set inside groups: no rule is violated, and yet there is no
template. -/
theorem compile_failures_large_code :
    Regex.nesting (Skeleton.scan "/((a[\\UFFFFFFFF]))\x7bx\x7d".toList).source ≤
        Regex.nestingLimit ∧
      Template.BeyondLimits "/((a[\\UFFFFFFFF]))\x7bx\x7d".toList ∧
      ¬Template.Violates "/((a[\\UFFFFFFFF]))\x7bx\x7d" "regex" := by
  have hnesting : Regex.nesting (Skeleton.scan "/((a[\\UFFFFFFFF]))\x7bx\x7d".toList).source ≤
      Regex.nestingLimit := by
    decide +kernel
  have hcompile : Template.compile? "/((a[\\UFFFFFFFF]))\x7bx\x7d" = .error .codeTooLarge := by
    rfl
  have hnot : ¬CompileError.codeTooLarge.IsFlaw := by
    simp [CompileError.IsFlaw]
  obtain ⟨hregex, hbeyond, -⟩ :=
    (compile_failures "/((a[\\UFFFFFFFF]))\x7bx\x7d" .silent [] []).2.2 hnesting
  have hlimits := hbeyond.1 ⟨_, hcompile, hnot⟩
  exact ⟨hnesting, hlimits, fun h => (hregex.1 h).2.2.2.2 hlimits⟩

/-- A bound that is too large is no error in the syntax, and the program has no exit code for it. -/
theorem bound_too_large_escapes :
    Template.compile? "/a{4294967295,}{x}" = .error .tooManyTimes ∧
      (Command.run .silent ["inspect", "/a{4294967295,}{x}"] []).ending =
        .notCompiled "/a{4294967295,}{x}" .tooManyTimes := by
  constructor
  · rfl
  · decide +kernel

end PathTemplate
