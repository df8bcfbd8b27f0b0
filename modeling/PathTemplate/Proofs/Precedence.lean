import PathTemplate.Command.Run

/-!
# Which settings count

The level and the form of the output that arguments choose count, and those of the environment only
where the arguments choose none. Settings are wrong just if the level that counts is unknown.

## Main definitions

* `Settings.levelNamed`: the level that a name chooses.
* `Settings.LevelKnown`: an environment that chooses a known level, or none.
* `Command.Invocation.levelName?`: the level that arguments choose.
* `Command.Effects.run`: the run in which a task has some effects.

## Main statements

* `Settings.ofEnvironment_explicit`: the settings of an invocation.
* `Command.Invocation.run_eq`: the run of an invocation, in terms of the level that counts.
-/

namespace PathTemplate

namespace Settings

/-- The level that a name chooses; a name of no level chooses the usual one. -/
def levelNamed (name : String) : Level :=
  (Level.all.find? fun level => Text.lower name.toList == level.name.toList).getD defaultLevel

def environmentLevelName (environment : List (String × String)) : String :=
  (environment.lookup levelVariable).getD defaultLevel.name

def environmentLevel (environment : List (String × String)) : Level :=
  levelNamed (environmentLevelName environment)

def LevelKnown (environment : List (String × String)) : Prop :=
  ∀ name, environment.lookup levelVariable = some name → knownLevel name = true

def environmentJson (environment : List (String × String)) : Bool :=
  isTruthy ((environment.lookup jsonVariable).getD "")

theorem LevelKnown.knownLevel {environment : List (String × String)} (h : LevelKnown environment) :
    knownLevel (environmentLevelName environment) = true := by
  unfold environmentLevelName
  cases hname : environment.lookup levelVariable with
  | none => decide
  | some name => exact h name hname

variable {environment other : List (String × String)}

theorem environmentLevelName_congr
    (h : environment.lookup levelVariable = other.lookup levelVariable) :
    environmentLevelName environment = environmentLevelName other := by
  unfold environmentLevelName
  rw [h]

theorem environmentJson_congr
    (h : environment.lookup jsonVariable = other.lookup jsonVariable) :
    environmentJson environment = environmentJson other := by
  unfold environmentJson
  rw [h]

end Settings

namespace Command

def Invocation.levelName? (i : Invocation) : Option String :=
  if i.verbose then some Level.debug.name else i.level

theorem Invocation.levelName?_isSome_iff (i : Invocation) :
    i.levelName?.isSome = true ↔ i.verbose = true ∨ i.level.isSome = true := by
  unfold levelName?
  split <;> simp_all

end Command

namespace Settings

variable (environment : List (String × String)) (i : Command.Invocation)

theorem explicit_eq :
    i.explicit = (i.levelName?.map fun name => (levelField, Value.text name)).toList ++
      (if i.json then [(jsonField, Value.bool true)] else []) := rfl

/-- What arguments choose takes the place of what the environment says. -/
theorem foldl_explicit :
    i.explicit.foldl (fun fields (name, value) => Bindings.insert name value fields)
        (environmentFields environment) =
      [(levelField, .text (i.levelName?.getD (environmentLevelName environment))),
        (jsonField, .bool (i.json || environmentJson environment))] := by
  have hfields : environmentFields environment =
      [(levelField, .text (environmentLevelName environment)),
        (jsonField, .bool (environmentJson environment))] := rfl
  rw [explicit_eq, hfields]
  cases i.levelName? <;> cases i.json <;> simp [Bindings.insert, levelField, jsonField]

/-- Fields that can be set make settings if the level among them is known. -/
theorem ofFields_of_level {fields : Bindings String Value} {name : String}
    (hrefused : refusedField? fields = none)
    (hlevel : (List.lookup levelField fields).getD (.text defaultLevel.name) = .text name) :
    ofFields fields =
      if knownLevel name then
        .ok ⟨name, (List.lookup formatField fields).getD (.text defaultFormat),
          (List.lookup jsonField fields).getD (.bool false)⟩
      else .error (.unknownLevel (.text name)) := by
  unfold ofFields
  rw [hrefused]
  simp only [hlevel, checkLevel]
  split <;> rfl

/-- The settings of an invocation: the level that counts has to be known. -/
theorem ofEnvironment_explicit :
    ofEnvironment environment i.explicit =
      let name := i.levelName?.getD (environmentLevelName environment)
      if knownLevel name then
        .ok ⟨name, .text defaultFormat, .bool (i.json || environmentJson environment)⟩
      else .error (.unknownLevel (.text name)) := by
  have hfind : i.explicit.find? (fun (name, _) => environmentArguments.contains name) = none := by
    rw [explicit_eq]
    cases i.levelName? <;> cases i.json <;> rfl
  unfold ofEnvironment
  rw [hfind, foldl_explicit]
  exact ofFields_of_level rfl rfl

end Settings

namespace Command

def Effects.run (level : Level) (e : Effects) : Run :=
  ⟨level, e.events, e.ending⟩

/-- The run of an invocation: a level that is unknown is complained about, and otherwise the task is
done. -/
theorem Invocation.run_eq (notices : Notices) (i : Invocation)
    (environment : List (String × String)) :
    i.run notices environment =
      let name := i.levelName?.getD (Settings.environmentLevelName environment)
      if Settings.knownLevel name then
        (runTask notices (i.json || Settings.environmentJson environment) i.task).run
          (Settings.levelNamed name)
      else
        (Effects.failed [] (SettingsError.unknownLevel (.text name)).message).run
          Settings.defaultLevel := by
  have hjson : ∀ name format b, Settings.wantsJson ⟨name, format, .bool b⟩ = b := by
    intro name format b
    cases b <;> rfl
  unfold Invocation.run
  rw [Settings.ofEnvironment_explicit]
  dsimp only
  generalize i.levelName?.getD (Settings.environmentLevelName environment) = name
  by_cases h : Settings.knownLevel name = true
  · simp only [h, if_true, hjson]
    rfl
  · simp only [h]
    rfl

end Command

end PathTemplate
