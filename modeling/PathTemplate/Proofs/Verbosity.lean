import PathTemplate.Proofs.Streams

/-!
# Verbosity

A level decides which records are shown, and nothing else. Runs that differ only in the level of the
environment do and print the same, and the error stream at the graver level is the other one without
the records below that level.

## Main definitions

* `Event.isBelow`: whether an event is a record below a level.
* `levelInForce`: the level that arguments choose, or else the environment.

## Main statements

* `exists_effects`: what arguments bring about, whatever the level.
* `runs_differ_in_records`: the runs of the same arguments in two environments.
-/

namespace PathTemplate.Command

/-! ## Levels of events -/

def Event.isBelow (level : Level) : Event → Bool
  | .record r => r.level.number < level.number
  | _ => false

/-- A graver level shows what the other one shows, but for the records below it. -/
theorem Event.isShown_eq {level graver : Level} (h : level.number ≤ graver.number) (event : Event) :
    event.isShown graver = (!event.isBelow graver && event.isShown level) := by
  cases event with
  | out text => rfl
  | err text => rfl
  | record r =>
    simp only [isShown, isBelow]
    grind

theorem Event.isBelow_of_isShown {level : Level} {event : Event} (h : event.isShown level = true) :
    event.isBelow level = false := by
  have hsame := event.isShown_eq (Nat.le_refl level.number)
  simpa [h] using hsame

/-! ## The level in force -/

def chosenLevelName? (arguments : List String) : Option String :=
  match Invocation.read arguments with
  | .ok i => i.levelName?
  | .error _ => none

/-- The level that counts: the one that arguments choose, or else the one of the environment. -/
def levelInForce (arguments : List String) (environment : List (String × String)) : Level :=
  Settings.levelNamed
    ((chosenLevelName? arguments).getD (Settings.environmentLevelName environment))

theorem levelInForce_le (arguments : List String) {e₁ e₂ : List (String × String)}
    (h : (Settings.environmentLevel e₁).number ≤ (Settings.environmentLevel e₂).number) :
    (levelInForce arguments e₁).number ≤ (levelInForce arguments e₂).number := by
  unfold levelInForce
  cases chosenLevelName? arguments with
  | some name => exact Nat.le_refl _
  | none => exact h

/-- In environments with known levels, the arguments and the form of the output decide what happens.
What is shown of it depends on the level in force. -/
theorem exists_effects (notices : Notices) (arguments : List String) (json : Bool) :
    ∃ e : Effects, ∀ environment, Settings.LevelKnown environment →
      Settings.environmentJson environment = json →
        (run notices arguments environment).events = e.events ∧
        (run notices arguments environment).ending = e.ending ∧
        (run notices arguments environment).shown =
          e.events.filter (Event.isShown (levelInForce arguments environment)) := by
  unfold run levelInForce chosenLevelName?
  cases Invocation.read arguments with
  | error refusal =>
    cases refusal with
    | help text => exact ⟨⟨[.out text], .exit 0⟩, fun _ _ _ => ⟨rfl, rfl, rfl⟩⟩
    | complaint text => exact ⟨⟨[.err text], .exit 2⟩, fun _ _ _ => ⟨rfl, rfl, rfl⟩⟩
  | ok i =>
    dsimp only
    by_cases hknown : ∀ name, i.levelName? = some name → Settings.knownLevel name = true
    · refine ⟨runTask notices (i.json || json) i.task, fun environment hlevel hjson => ?_⟩
      have hcounts : Settings.knownLevel
          (i.levelName?.getD (Settings.environmentLevelName environment)) = true := by
        cases hname : i.levelName? with
        | none => exact hlevel.knownLevel
        | some name => exact hknown name hname
      rw [i.run_eq]
      dsimp only
      rw [if_pos hcounts, hjson]
      exact ⟨rfl, rfl, rfl⟩
    · -- The level is refused before anything else happens, and the error is always shown.
      simp only [Classical.not_forall] at hknown
      obtain ⟨name, hname, hunknown⟩ := hknown
      refine ⟨.failed [] (SettingsError.unknownLevel (.text name)).message,
        fun environment _ _ => ?_⟩
      rw [i.run_eq, hname]
      dsimp only [Option.getD_some]
      rw [if_neg hunknown]
      exact ⟨rfl, rfl, rfl⟩

/-- The same arguments print the same and end alike in two environments with known levels that agree
on the form of the output. If the level of the second is at least as grave as that of the first, the
second error stream is the first one without the records below the level in force. All of these are
below the level of the second environment, too. -/
theorem runs_differ_in_records (notices : Notices) (arguments : List String)
    {e₁ e₂ : List (String × String)}
    (hjson : e₁.lookup Settings.jsonVariable = e₂.lookup Settings.jsonVariable)
    (h₁ : Settings.LevelKnown e₁) (h₂ : Settings.LevelKnown e₂) :
    (run notices arguments e₁).stdout = (run notices arguments e₂).stdout ∧
    (run notices arguments e₁).ending = (run notices arguments e₂).ending ∧
    (run notices arguments e₁).stderr =
      "".intercalate ((run notices arguments e₁).shown.map Event.line) ∧
    ((Settings.environmentLevel e₁).number ≤ (Settings.environmentLevel e₂).number →
      (run notices arguments e₂).stderr = "".intercalate
        (((run notices arguments e₁).shown.filter fun event =>
          !event.isBelow (levelInForce arguments e₂)).map Event.line) ∧
      ∀ event ∈ (run notices arguments e₁).shown, event.isBelow (levelInForce arguments e₂) = true →
        event.isBelow (Settings.environmentLevel e₂) = true) := by
  have hsame : Settings.environmentJson e₂ = Settings.environmentJson e₁ := by
    rw [Settings.environmentJson, ← hjson]
    rfl
  obtain ⟨e, he⟩ := exists_effects notices arguments (Settings.environmentJson e₁)
  obtain ⟨hevents₁, hending₁, hshown₁⟩ := he e₁ h₁ rfl
  obtain ⟨hevents₂, hending₂, hshown₂⟩ := he e₂ h₂ hsame
  refine ⟨?_, hending₁.trans hending₂.symm, Run.stderr_eq _, fun hle => ⟨?_, ?_⟩⟩
  · rw [Run.stdout, Run.stdout, hevents₁, hevents₂]
  · have hforce := levelInForce_le arguments hle
    have hfilter : e.events.filter (Event.isShown (levelInForce arguments e₂)) =
        (e.events.filter (Event.isShown (levelInForce arguments e₁))).filter fun event =>
          !event.isBelow (levelInForce arguments e₂) := by
      rw [List.filter_filter]
      exact List.filter_congr fun event _ => event.isShown_eq hforce
    rw [Run.stderr_eq, hshown₁, hshown₂, hfilter]
  · intro event hm hbelow
    rw [hshown₁, List.mem_filter] at hm
    cases hchosen : chosenLevelName? arguments with
    | none => simpa [levelInForce, hchosen, Settings.environmentLevel] using hbelow
    | some name =>
      -- Both runs have the same level in force, so nothing that one shows is below it.
      have hsame : levelInForce arguments e₁ = levelInForce arguments e₂ := by
        simp [levelInForce, hchosen]
      simp [← hsame, Event.isBelow_of_isShown hm.2] at hbelow

/-- A build that fails is reported by a record that stays and by one that does not. -/
theorem runs_differ_in_records_build :
    (run .silent ["build", "/\x7ba\x7d"] [("PERCH_LOG_LEVEL", "debug")]).shown.length = 3 ∧
      (run .silent ["build", "/\x7ba\x7d"] [("PERCH_LOG_LEVEL", "ERROR")]).shown.length = 2 ∧
      (run .silent ["build", "/\x7ba\x7d"] [("PERCH_LOG_LEVEL", "debug")]).ending =
        (run .silent ["build", "/\x7ba\x7d"] [("PERCH_LOG_LEVEL", "ERROR")]).ending ∧
      (run .silent ["build", "/\x7ba\x7d"] [("PERCH_LOG_LEVEL", "ERROR")]).stderr = "".intercalate
        (((run .silent ["build", "/\x7ba\x7d"] [("PERCH_LOG_LEVEL", "debug")]).shown.filter fun event =>
          !event.isBelow .error).map Event.line) := by
  have hlevel : ∀ level, Settings.knownLevel level = true →
      Settings.LevelKnown [("PERCH_LOG_LEVEL", level)] := by
    intro level hknown name h
    exact Option.some.inj h ▸ hknown
  have hforce : levelInForce ["build", "/\x7ba\x7d"] [("PERCH_LOG_LEVEL", "ERROR")] = .error := by
    decide +kernel
  have hjson : [("PERCH_LOG_LEVEL", "debug")].lookup Settings.jsonVariable =
      [("PERCH_LOG_LEVEL", "ERROR")].lookup Settings.jsonVariable := rfl
  obtain ⟨-, hending, -, hfilter⟩ := runs_differ_in_records .silent ["build", "/\x7ba\x7d"] hjson
    (hlevel "debug" (by decide +kernel)) (hlevel "ERROR" (by decide +kernel))
  obtain ⟨hstderr, -⟩ := hfilter (by decide +kernel)
  rw [hforce] at hstderr
  exact ⟨by decide +kernel, by decide +kernel, hending, hstderr⟩

end PathTemplate.Command
