import PathTemplate.Proofs.LeadingOptions
import PathTemplate.Proofs.Precedence

/-!
# What the environment cannot change

A level that arguments choose hides the level of the environment, whether that is known or not, and
an option for machine-readable output hides the variable for it. An unknown level that nothing hides
is refused before any template is compiled.

## Main definitions

* `RecognisedInFront`, `RecognisedByCommand`: an option is found in front of the command word, or
  behind it.
* `MasksEnvironment`: what accepted arguments hide of the environment.

## Main statements

* `Invocation.read_eq_ok_iff`: the arguments that are accepted with a command.
* `Invocation.run_congr`: runs in two environments that agree on what is not hidden.
* `masksEnvironment`: accepted arguments hide what they choose.
-/

namespace PathTemplate.Command

open Regex (bind_eq_ok)

/-- An option is found in front of the command word, in whatever way it is written. -/
def RecognisedInFront (o : OptionSpec) (arguments : List String) : Prop :=
  ∃ main, mainGrammar.parse arguments = .ok main ∧ main.has o = true

/-- An option is found by the command behind its word, in whatever way it is written. -/
def RecognisedByCommand (o : OptionSpec) (arguments : List String) : Prop :=
  ∃ main c rest parsed, mainGrammar.parse arguments = .ok main ∧
    main.command? = some (c, rest) ∧ c.grammar.parse rest = .ok parsed ∧ parsed.has o = true

theorem checkExtras_eq_ok_iff {extras : List String} :
    checkExtras extras = .ok () ↔ extras = [] := by
  unfold checkExtras
  split <;> simp_all

theorem CommandKind.command_task (c : CommandKind) (parsed : Parsed) :
    (c.task parsed).command = c := by
  cases c <;> rfl

namespace Invocation

/-- Arguments are accepted with a command if both it and the program can read them, and nothing is
left over. -/
theorem read_eq_ok_iff {arguments : List String} {i : Invocation} :
    read arguments = .ok i ↔ ∃ main c rest parsed, mainGrammar.parse arguments = .ok main ∧
      main.command? = some (c, rest) ∧ c.grammar.parse rest = .ok parsed ∧
      main.extras = [] ∧ parsed.extras = [] ∧
      i = ⟨main.lastValue? levelOption, main.has verboseOption, parsed.has jsonOption,
        c.task parsed⟩ := by
  unfold read
  constructor
  · intro h
    obtain ⟨main, hmain, h⟩ := bind_eq_ok.1 h
    split at h
    · obtain ⟨_, -, h⟩ := bind_eq_ok.1 h
      simp at h
    · next c rest hcommand =>
      obtain ⟨parsed, hparsed, h⟩ := bind_eq_ok.1 h
      obtain ⟨_, hextras, h⟩ := bind_eq_ok.1 h
      obtain ⟨hextras, hextras'⟩ := List.append_eq_nil_iff.1 (checkExtras_eq_ok_iff.1 hextras)
      exact ⟨main, c, rest, parsed, Grammar.read_eq_ok_iff.1 hmain, hcommand,
        Grammar.read_eq_ok_iff.1 hparsed, hextras, hextras', (Except.ok.inj h).symm⟩
  · rintro ⟨main, c, rest, parsed, hmain, hcommand, hparsed, hextras, hextras', rfl⟩
    refine bind_eq_ok.2 ⟨main, Grammar.read_eq_ok_iff.2 hmain, ?_⟩
    simp only [hcommand]
    refine bind_eq_ok.2 ⟨parsed, Grammar.read_eq_ok_iff.2 hparsed, bind_eq_ok.2 ⟨(), ?_, rfl⟩⟩
    rw [checkExtras_eq_ok_iff, hextras, hextras']
    rfl

section Recognised

variable {arguments : List String} {i : Invocation}

theorem verbose_iff (h : read arguments = .ok i) :
    i.verbose = true ↔ RecognisedInFront verboseOption arguments := by
  obtain ⟨main, c, rest, parsed, hmain, -, -, -, -, rfl⟩ := read_eq_ok_iff.1 h
  simp [RecognisedInFront, hmain]

/-- A level counts as chosen if the option for it was found, since it never comes without a value. -/
theorem level_isSome_iff (h : read arguments = .ok i) :
    i.level.isSome = true ↔ RecognisedInFront levelOption arguments := by
  obtain ⟨main, c, rest, parsed, hmain, -, -, -, -, rfl⟩ := read_eq_ok_iff.1 h
  constructor
  · intro hlevel
    obtain ⟨value, hvalue⟩ := Option.isSome_iff_exists.1 hlevel
    exact ⟨main, hmain, Parsed.has_of_lastValue? hvalue⟩
  · rintro ⟨main', hmain', hhas⟩
    obtain rfl := Except.ok.inj (hmain.symm.trans hmain')
    obtain ⟨value, -, hvalue⟩ :=
      Parsed.lastValue?_of_has rfl (Grammar.chosen_of_parse hmain) hhas
    exact Option.isSome_iff_exists.2 ⟨value, hvalue⟩

theorem chosenLevel_iff (h : read arguments = .ok i) :
    i.levelName?.isSome = true ↔
      RecognisedInFront verboseOption arguments ∨ RecognisedInFront levelOption arguments := by
  rw [levelName?_isSome_iff, verbose_iff h, level_isSome_iff h]

theorem json_iff (h : read arguments = .ok i) :
    i.json = true ↔ RecognisedByCommand jsonOption arguments := by
  obtain ⟨main, c, rest, parsed, hmain, hcommand, hparsed, -, -, rfl⟩ := read_eq_ok_iff.1 h
  simp [RecognisedByCommand, hmain, hcommand, hparsed]

/-- Accepted arguments have options in front of a command word. Whatever other options are put in
their place, the same task is asked for in the same form. -/
theorem exists_read_leads (h : read arguments = .ok i) :
    ∃ front rest, arguments = front ++ i.task.command.word :: rest ∧ ∀ leads : List Lead,
      ∃ level, read (leads.flatMap Lead.arguments ++ i.task.command.word :: rest) =
        .ok ⟨level, leads.contains .verbose, i.json, i.task⟩ := by
  obtain ⟨main, c, rest, parsed, hmain, hcommand, hparsed, hextras, hextras', rfl⟩ :=
    read_eq_ok_iff.1 h
  rw [CommandKind.command_task]
  obtain ⟨front, words, rfl, hwords⟩ := exists_front_of_parse hmain hextras hcommand
  refine ⟨front, rest, rfl, fun leads => ?_⟩
  have hverbose : Parsed.has ⟨leads.map Lead.option, [(commandPosition, c.word :: rest)], []⟩
      verboseOption = leads.contains .verbose := by
    rw [Bool.eq_iff_iff, List.contains_iff_mem, Parsed.has, List.any_map, List.any_eq_true]
    constructor
    · rintro ⟨lead, hmem, hlead⟩
      exact Lead.eq_verbose_of_option (beq_iff_eq.1 hlead) ▸ hmem
    · exact fun hmem => ⟨_, hmem, beq_self_eq_true _⟩
  rw [← hverbose]
  exact ⟨_, read_eq_ok_iff.2 ⟨_, c, rest, parsed, parse_leads (c := c) leads hwords,
    by simp [Parsed.command?, CommandKind.ofWord?_word], hparsed, rfl, hextras', rfl⟩⟩

end Recognised

theorem run_congr {notices : Notices} {i i' : Invocation} {e e' : List (String × String)}
    (htask : i.task = i'.task)
    (hlevel : i.levelName?.getD (Settings.environmentLevelName e) =
      i'.levelName?.getD (Settings.environmentLevelName e'))
    (hjson : runTask notices (i.json || Settings.environmentJson e) i.task =
      runTask notices (i'.json || Settings.environmentJson e') i.task) :
    i.run notices e = i'.run notices e' := by
  rw [run_eq, run_eq, hlevel, hjson, htask]

theorem run_of_unknown {notices : Notices} {i : Invocation}
    {environment : List (String × String)} {name : String}
    (hlevel : i.levelName? = none) (hname : environment.lookup Settings.levelVariable = some name)
    (hunknown : Settings.knownLevel name = false) :
    i.run notices environment = ⟨Settings.defaultLevel,
      [.err ("Error: " ++ (SettingsError.unknownLevel (.text name)).message ++ "\n")],
      .exit 1⟩ := by
  rw [run_eq, hlevel, Settings.environmentLevelName, hname]
  simp only [Option.getD_some, Option.getD_none, hunknown, Bool.false_eq_true, if_false]
  rfl

end Invocation

theorem runTask_of_not_hasJson {notices : Notices} {task : Task}
    (h : task.command.hasJson = false) (json json' : Bool) :
    runTask notices json task = runTask notices json' task := by
  cases task with
  | check | build => rfl
  | extract | inspect => simp [Task.command, CommandKind.hasJson] at h

/-- What arguments that are accepted with a command hide of the environment. -/
structure MasksEnvironment (notices : Notices) (arguments : List String) (i : Invocation) :
    Prop where
  /-- A level that is chosen hides the one of the environment. -/
  level : RecognisedInFront verboseOption arguments ∨ RecognisedInFront levelOption arguments →
    ∀ {e e' : List (String × String)},
      e.lookup Settings.jsonVariable = e'.lookup Settings.jsonVariable →
        run notices arguments e = run notices arguments e'
  /-- The option for machine-readable output hides the variable for it. -/
  json : RecognisedByCommand jsonOption arguments → ∀ {e e' : List (String × String)},
    e.lookup Settings.levelVariable = e'.lookup Settings.levelVariable →
      run notices arguments e = run notices arguments e'
  /-- A check or a build has no machine-readable output. -/
  text : i.task.command = .check ∨ i.task.command = .build → ∀ {e e' : List (String × String)},
    e.lookup Settings.levelVariable = e'.lookup Settings.levelVariable →
      run notices arguments e = run notices arguments e'
  /-- The lowest level hides all others that are chosen, in whatever order. -/
  verbose : RecognisedInFront verboseOption arguments →
    ∃ front rest, arguments = front ++ i.task.command.word :: rest ∧
      ∀ leads : List Lead, .verbose ∈ leads → ∀ environment,
        run notices (leads.flatMap Lead.arguments ++ i.task.command.word :: rest) environment =
          run notices arguments environment
  /-- An unknown level that is not hidden is all that is printed. -/
  unknownLevel : ¬RecognisedInFront verboseOption arguments →
    ¬RecognisedInFront levelOption arguments → ∀ {environment name},
      environment.lookup Settings.levelVariable = some name → Settings.knownLevel name = false →
        run notices arguments environment = ⟨Settings.defaultLevel,
          [.err ("Error: " ++ (SettingsError.unknownLevel (.text name)).message ++ "\n")],
          .exit 1⟩ ∧
        (run notices arguments environment).stdout = ""

/-- Arguments that are accepted with a command hide what they choose. -/
theorem masksEnvironment {arguments : List String} {i : Invocation}
    (h : Invocation.read arguments = .ok i) (notices : Notices) :
    MasksEnvironment notices arguments i := by
  have hrun : ∀ e, run notices arguments e = i.run notices e := fun e => by rw [run, h]
  constructor
  case level =>
    intro hlevel e e' he
    obtain ⟨name, hname⟩ := Option.isSome_iff_exists.1 ((Invocation.chosenLevel_iff h).2 hlevel)
    rw [hrun, hrun]
    refine Invocation.run_congr rfl ?_ ?_
    · rw [hname, Option.getD_some, Option.getD_some]
    · rw [Settings.environmentJson_congr he]
  case json =>
    intro hjson e e' he
    rw [← Invocation.json_iff h] at hjson
    rw [hrun, hrun]
    refine Invocation.run_congr rfl ?_ ?_
    · rw [Settings.environmentLevelName_congr he]
    · rw [hjson, Bool.true_or, Bool.true_or]
  case text =>
    intro hcommand e e' he
    rw [hrun, hrun]
    refine Invocation.run_congr rfl ?_ (runTask_of_not_hasJson ?_ _ _)
    · rw [Settings.environmentLevelName_congr he]
    · rcases hcommand with hc | hc <;> rw [hc] <;> rfl
  case verbose =>
    intro hverbose
    obtain ⟨front, rest, harguments, hleads⟩ := Invocation.exists_read_leads h
    refine ⟨front, rest, harguments, fun leads hmem environment => ?_⟩
    obtain ⟨level, hread⟩ := hleads leads
    rw [← Invocation.verbose_iff h] at hverbose
    rw [hrun, run, hread]
    refine Invocation.run_congr rfl ?_ rfl
    rw [Invocation.levelName?, Invocation.levelName?, if_pos (List.contains_iff_mem.2 hmem),
      if_pos hverbose]
  case unknownLevel =>
    intro hverbose hlevel environment name hname hunknown
    have hnone : i.levelName? = none := by
      rw [← Option.not_isSome_iff_eq_none, Invocation.chosenLevel_iff h]
      exact not_or.2 ⟨hverbose, hlevel⟩
    have hrefused := (hrun environment).trans (Invocation.run_of_unknown hnone hname hunknown)
    refine ⟨hrefused, ?_⟩
    rw [hrefused]
    rfl

/-- An unknown level is hidden by an option, and refused without one. -/
theorem masksEnvironment_unknown :
    run .silent ["-v", "match", "/\x7bx\x7d", "/a"] [("PERCH_LOG_LEVEL", "loud")] =
        run .silent ["-v", "match", "/\x7bx\x7d", "/a"] [] ∧
      (run .silent ["match", "/\x7bx\x7d", "/a"] [("PERCH_LOG_LEVEL", "loud")]).stdout = "" := by
  have hverbose : Invocation.read ["-v", "match", "/\x7bx\x7d", "/a"] =
      .ok ⟨none, true, false, .check "/\x7bx\x7d" (some "/a")⟩ := by
    decide +kernel
  have hplain : Invocation.read ["match", "/\x7bx\x7d", "/a"] =
      .ok ⟨none, false, false, .check "/\x7bx\x7d" (some "/a")⟩ := by
    decide +kernel
  refine ⟨(masksEnvironment hverbose .silent).level (.inl ?_) rfl,
    ((masksEnvironment hplain .silent).unknownLevel ?_ ?_ rfl (by decide +kernel)).2⟩
  · exact (Invocation.verbose_iff hverbose).1 rfl
  · exact fun hv => Bool.false_ne_true ((Invocation.verbose_iff hplain).2 hv)
  · exact fun hl => Bool.false_ne_true ((Invocation.level_isSome_iff hplain).2 hl)

end PathTemplate.Command
