import PathTemplate.Command.Invocation

/-!
# Reading arguments that are no options

Arguments that do not begin with a hyphen are positional whatever a grammar has for options. If there
are as many as a command asks for, each position gets its own, nothing is left over, and no setting
is chosen.

## Main definitions

* `Task.arguments`: the arguments that ask for a task.
* `Task.Plain`: a task none of whose arguments begins with a hyphen.

## Main statements

* `Grammar.classify_plain`: what is no option is positional.
* `Reading.readWords_plain`: positional arguments fill the positions.
* `Invocation.read_arguments`: reading the arguments of a task gives the task.
-/

namespace PathTemplate.Command

/-- An argument that is no option and no separator. -/
def Positional (text : String) : Prop :=
  text.toList.head? ≠ some '-'

instance (text : String) : Decidable (Positional text) :=
  inferInstanceAs (Decidable (text.toList.head? ≠ some '-'))

def jsonWords (json : Bool) : List String :=
  if json then ["--json"] else []

namespace Task

def command : Task → CommandKind
  | check _ _ => .check
  | extract _ _ => .extract
  | build _ _ => .build
  | inspect _ => .inspect

def filled : Task → List (Position × List String)
  | check pattern path => [(patternPosition, [pattern]), (pathPosition, path.toList)]
  | extract pattern path => [(patternPosition, [pattern]), (pathPosition, path.toList)]
  | build pattern assignments => [(patternPosition, [pattern]), (valuesPosition, assignments)]
  | inspect pattern => [(patternPosition, [pattern])]

/-- The arguments that ask for a task, with machine-readable output or without. -/
def arguments (json : Bool) (task : Task) : List String :=
  task.command.word :: (jsonWords json ++ task.filled.flatMap (·.2))

end Task

/-! ## Words -/

namespace Grammar

theorem classifyOne_plain (g : Grammar) {text : String} (h : Positional text) :
    g.classifyOne text = .ok (.plain text) := by
  unfold classifyOne
  exact if_pos h

theorem classify_cons (g : Grammar) {text : String} {rest : List String} (h : text ≠ "--") :
    g.classify (text :: rest) =
      (g.classifyOne text).bind fun word => (g.classify rest).map (word :: ·) := by
  rw [classify]
  · rfl
  · exact h

theorem classify_plain (g : Grammar) {texts : List String} (h : ∀ text ∈ texts, Positional text) :
    g.classify texts = .ok (texts.map .plain) := by
  induction texts with
  | nil => rfl
  | cons text rest ih =>
    have htext := h text (List.mem_cons_self ..)
    have hne : text ≠ "--" := by
      rintro rfl
      exact htext (by decide)
    rw [classify_cons g hne, classifyOne_plain g htext, ih fun t ht => h t (List.mem_cons_of_mem _ ht)]
    rfl

end Grammar

/-! ## Positions -/

theorem takeMost_of_takeAll? {positions : List Position} {words : List Word} {counts : List Nat}
    (h : takeAll? positions words = some counts) :
    takeMost positions words positions.length = counts := by
  cases positions with
  | nil =>
    obtain rfl := Option.some.inj h
    rfl
  | cons p ps =>
    rw [List.length_cons, takeMost, ← List.length_cons (a := p), List.take_length, h]

namespace Reading

/-- Positional arguments fill the positions, as far as they go, and the others are left over. -/
theorem readWords_plain (g : Grammar) (fuel : Nat) (r : Reading) (texts : List String) :
    readWords g (fuel + 1) r (texts.map .plain) =
      (r.fillPositions (texts.map .plain)).map fun (r, rest) => r.addExtras (rest.map Word.text) := by
  have hany : (texts.map Word.plain).any (·.isOption) = false := by
    rw [List.any_map, List.any_eq_false]
    exact fun _ _ => Bool.false_ne_true
  unfold readWords
  rw [hany]
  rfl

/-- Positions that take all words leave nothing to read. -/
theorem readWords_of_fillPositions (g : Grammar) (fuel : Nat) {r : Reading} {found : Parsed}
    {text : String} {words : List Word}
    (h : r.fillPositions (.plain text :: words) = .ok (⟨found, []⟩, [])) :
    readWords g (fuel + 2) r (.plain text :: words) = .ok ⟨found, []⟩ := by
  have hdone : readWords g (fuel + 1) ⟨found, []⟩ [] = .ok ⟨found, []⟩ := by
    have hextras : (⟨found, []⟩ : Reading).addExtras [] = ⟨found, []⟩ := by simp [addExtras]
    exact (readWords_plain g fuel ⟨found, []⟩ []).trans (congrArg Except.ok hextras)
  unfold readWords
  by_cases hany : (Word.plain text :: words).any (·.isOption) = true
  · rw [if_pos hany]
    dsimp only
    rw [h]
    exact hdone
  · rw [if_neg hany, h]
    simp [Except.map, addExtras]

theorem readWords_option (g : Grammar) (fuel : Nat) {r next : Reading} {text : String}
    {use : Option Use} {words rest : List Word}
    (h : feedOption g r text use words = .ok (next, rest)) :
    readWords g (fuel + 1) r (.option text use :: words) = readWords g fuel next rest := by
  rw [readWords]
  simp only [List.any_cons, Word.isOption, Bool.true_or, if_true, h]
  rfl

theorem readWords_flag (g : Grammar) (fuel : Nat) (r : Reading) {o : OptionSpec} {name : String}
    (h : o.effect = .flag) (words : List Word) :
    readWords g (fuel + 1) r (.option name (some ⟨o, name, none⟩) :: words) =
      readWords g fuel (r.addOption o none) words := by
  apply readWords_option
  simp [feedOption, useOption, apply, h, Except.map]

end Reading

theorem Grammar.parse_of_readWords {g : Grammar} {arguments : List String} {words : List Word}
    {found : Parsed} (hwords : g.classify arguments = .ok words)
    (hread : Reading.readWords g (words.length + 1) ⟨⟨[], [], []⟩, g.positions⟩ words =
      .ok ⟨found, []⟩) : g.parse arguments = .ok found := by
  unfold Grammar.parse
  rw [hwords]
  simp only [bind, Except.bind, hread]
  rfl

theorem Position.arguments_plain {p : Position} (harity : p.arity = .one ∨ p.arity = .many)
    {texts : List String} (h : ∀ text ∈ texts, Positional text) : p.arguments texts = .ok texts := by
  have hseparator : "--" ∉ texts := fun hm => h _ hm (by decide)
  unfold Position.arguments
  rcases harity with ha | ha <;> simp [ha, List.erase_of_not_mem hseparator]

/-! ## The command word -/

def commandPosition : Position := ⟨"command", .command (CommandKind.all.map CommandKind.word)⟩

theorem Grammar.classifyOne_text {g : Grammar} {text : String} {word : Word}
    (h : g.classifyOne text = .ok word) : word.text = text := by
  unfold Grammar.classifyOne at h
  dsimp only at h
  repeat' split at h
  all_goals first
    | (obtain rfl := Except.ok.inj h; rfl)
    | simp at h

/-- Words are written as the arguments that they are. -/
theorem Grammar.classify_text {g : Grammar} {texts : List String} {words : List Word}
    (h : g.classify texts = .ok words) : words.map Word.text = texts := by
  induction texts generalizing words with
  | nil =>
    obtain rfl := Except.ok.inj h
    rfl
  | cons text rest ih =>
    by_cases hseparator : text = "--"
    · subst hseparator
      obtain rfl := Except.ok.inj h
      have htext : Word.text ∘ Word.plain = id := rfl
      rw [List.map_cons, List.map_map, htext, List.map_id]
      rfl
    · rw [classify_cons g hseparator] at h
      cases hword : g.classifyOne text with
      | error e => simp [hword, Except.bind] at h
      | ok word =>
        cases hrest : g.classify rest with
        | error e => simp [hword, hrest, Except.bind, Except.map] at h
        | ok others =>
          simp only [hword, hrest, Except.bind, Except.map, Except.ok.injEq] at h
          subst h
          rw [List.map_cons, classifyOne_text hword, ih hrest]

theorem CommandKind.positional_word (c : CommandKind) : Positional c.word := by
  cases c <;> decide

theorem CommandKind.ofWord?_word (c : CommandKind) : ofWord? c.word = some c := by
  cases c <;> decide

/-- A command word takes everything behind it. -/
theorem fillPositions_command (c : CommandKind) (words : List Word) (found : Parsed) :
    Reading.fillPositions ⟨found, [commandPosition]⟩ (.plain c.word :: words) =
      .ok (⟨{ found with
        filled := found.filled ++ [(commandPosition, c.word :: words.map Word.text)] }, []⟩, []) := by
  have htake : takeAll? [commandPosition] (.plain c.word :: words) = some [words.length + 1] := rfl
  have hmost := takeMost_of_takeAll? htake
  have harguments : commandPosition.arguments ((Word.plain c.word :: words).map Word.text) =
      .ok (c.word :: words.map Word.text) := by
    cases c <;> rfl
  unfold Reading.fillPositions
  rw [hmost, Reading.fill]
  simp only [← List.length_cons (a := Word.plain c.word), List.take_length, List.drop_length,
    harguments]
  rfl

/-- The program takes a command word and everything behind it, whatever it is. -/
theorem parse_mainGrammar {c : CommandKind} {rest : List String} {words : List Word}
    (h : mainGrammar.classify rest = .ok words) :
    mainGrammar.parse (c.word :: rest) = .ok ⟨[], [(commandPosition, c.word :: rest)], []⟩ := by
  have hne : c.word ≠ "--" := by cases c <;> decide
  have hwords : mainGrammar.classify (c.word :: rest) = .ok (.plain c.word :: words) := by
    rw [Grammar.classify_cons _ hne, Grammar.classifyOne_plain _ c.positional_word, h]
    rfl
  have hfill := fillPositions_command c words ⟨[], [], []⟩
  rw [Grammar.classify_text h] at hfill
  exact Grammar.parse_of_readWords hwords
    (Reading.readWords_of_fillPositions mainGrammar words.length hfill)

/-! ## Tasks -/

namespace Task

/-- The arguments are all there, and none begins with a hyphen. -/
def Plain : Task → Prop
  | check pattern path => Positional pattern ∧ ∃ given, path = some given ∧ Positional given
  | extract pattern path => Positional pattern ∧ ∃ given, path = some given ∧ Positional given
  | build pattern assignments => Positional pattern ∧ ∀ item ∈ assignments, Positional item
  | inspect pattern => Positional pattern

theorem Plain.positional {task : Task} (h : task.Plain) :
    ∀ text ∈ task.filled.flatMap (·.2), Positional text := by
  cases task with
  | check pattern path =>
    obtain ⟨hpattern, given, rfl, hgiven⟩ := h
    simp [filled, hpattern, hgiven]
  | extract pattern path =>
    obtain ⟨hpattern, given, rfl, hgiven⟩ := h
    simp [filled, hpattern, hgiven]
  | build pattern assignments =>
    obtain ⟨hpattern, hassignments⟩ := h
    simpa [filled, hpattern] using hassignments
  | inspect pattern =>
    have hpattern : Positional pattern := h
    simp [filled, hpattern]

theorem map_fst_filled (task : Task) : task.filled.map (·.1) = task.command.positions := by
  cases task <;> rfl

theorem Plain.takeAll? {task : Task} (h : task.Plain) :
    takeAll? task.command.positions ((task.filled.flatMap (·.2)).map .plain) =
      some (task.filled.map (·.2.length)) := by
  cases task with
  | check pattern path =>
    obtain ⟨-, given, rfl, -⟩ := h
    rfl
  | extract pattern path =>
    obtain ⟨-, given, rfl, -⟩ := h
    rfl
  | build pattern assignments =>
    have hone : patternPosition.arity.take? (.plain pattern :: assignments.map .plain) = some 1 := by
      have hfirst : (Word.plain pattern).isSeparator = false := rfl
      have hnone : (assignments.map Word.plain).takeWhile (·.isSeparator) = [] := by
        cases assignments <;> rfl
      simp [patternPosition, Arity.take?, hfirst, hnone]
    have hmany : valuesPosition.arity.take? (assignments.map .plain) = some assignments.length := by
      have hall : ∀ items : List String,
          (items.map Word.plain).takeWhile (!·.isOption) = items.map .plain := by
        intro items
        induction items with
        | nil => rfl
        | cons item items ih => exact congrArg (Word.plain item :: ·) ih
      simp [valuesPosition, Arity.take?, hall]
    have htexts : ((build pattern assignments).filled.flatMap (·.2)).map Word.plain =
        .plain pattern :: assignments.map .plain := by
      simp [filled]
    have hpositions : (build pattern assignments).command.positions =
        [patternPosition, valuesPosition] := rfl
    rw [htexts, hpositions, Command.takeAll?, hone]
    simp [Command.takeAll?, hmany, filled]
  | inspect pattern => rfl

theorem fill_filled (found : Parsed) {filled : List (Position × List String)}
    (harity : ∀ pair ∈ filled, pair.1.arity = .one ∨ pair.1.arity = .many)
    (h : ∀ text ∈ filled.flatMap (·.2), Positional text) :
    Reading.fill ⟨found, filled.map (·.1)⟩ ((filled.flatMap (·.2)).map .plain)
        (filled.map (·.2.length)) =
      .ok (⟨{ found with filled := found.filled ++ filled }, []⟩, []) := by
  induction filled generalizing found with
  | nil => simp [Reading.fill]
  | cons pair pairs ih =>
    obtain ⟨position, texts⟩ := pair
    have htexts : ((texts ++ pairs.flatMap (·.2)).map Word.plain).take texts.length =
        texts.map .plain := by
      simp
    have hown : position.arguments ((texts.map Word.plain).map Word.text) = .ok texts := by
      have hid : Word.text ∘ Word.plain = id := rfl
      rw [List.map_map, hid, List.map_id]
      exact Position.arguments_plain (harity _ (List.mem_cons_self ..)) fun text ht =>
        h text (by simp [ht])
    have hrest := ih { found with filled := found.filled ++ [(position, texts)] }
      (fun pair hm => harity pair (List.mem_cons_of_mem _ hm)) fun text ht =>
        h text (List.mem_append_right _ ht)
    simp only [List.map_cons, List.flatMap_cons, Reading.fill, htexts, hown, Except.bind]
    simpa using hrest

theorem Plain.fillPositions {task : Task} (h : task.Plain) (found : Parsed) :
    Reading.fillPositions ⟨found, task.command.positions⟩
        ((task.filled.flatMap (·.2)).map .plain) =
      .ok (⟨{ found with filled := found.filled ++ task.filled }, []⟩, []) := by
  have harity : ∀ pair ∈ task.filled, pair.1.arity = .one ∨ pair.1.arity = .many := by
    cases task <;> simp [filled, patternPosition, pathPosition, valuesPosition]
  unfold Reading.fillPositions
  rw [takeMost_of_takeAll? h.takeAll?, ← map_fst_filled]
  exact fill_filled found harity h.positional

end Task

theorem classifyOne_json {c : CommandKind} (h : c.hasJson = true) :
    c.grammar.classifyOne "--json" =
      .ok (.option "--json" (some ⟨jsonOption, "--json", none⟩)) := by
  cases c with
  | extract => rfl
  | inspect => rfl
  | check => simp [CommandKind.hasJson] at h
  | build => simp [CommandKind.hasJson] at h

/-- A command reads the arguments of its tasks, and whether machine-readable output is wanted. -/
theorem parse_grammar {task : Task} (h : task.Plain) {json : Bool}
    (hjson : json = true → task.command.hasJson = true) :
    task.command.grammar.parse (jsonWords json ++ task.filled.flatMap (·.2)) =
      .ok ⟨if json then [(jsonOption, none)] else [], task.filled, []⟩ := by
  have hwords := task.command.grammar.classify_plain h.positional
  have hfill := fun found => h.fillPositions found
  obtain ⟨first, rest, htexts⟩ : ∃ first rest, task.filled.flatMap (·.2) = first :: rest := by
    cases task <;> exact ⟨_, _, rfl⟩
  rw [htexts] at hwords hfill ⊢
  cases json with
  | false =>
    exact Grammar.parse_of_readWords hwords
      (Reading.readWords_of_fillPositions _ _ (hfill ⟨[], [], []⟩))
  | true =>
    have hall : task.command.grammar.classify ("--json" :: first :: rest) =
        .ok (.option "--json" (some ⟨jsonOption, "--json", none⟩) :: (first :: rest).map .plain) := by
      rw [Grammar.classify_cons _ (by decide), classifyOne_json (hjson rfl), hwords]
      rfl
    refine Grammar.parse_of_readWords hall ?_
    rw [List.length_cons, Reading.readWords_flag _ _ _ rfl]
    exact Reading.readWords_of_fillPositions _ _ (hfill ⟨[(jsonOption, none)], [], []⟩)

theorem parse_arguments {task : Task} (h : task.Plain) (json : Bool) :
    mainGrammar.parse (task.arguments json) =
      .ok ⟨[], [(commandPosition, task.arguments json)], []⟩ := by
  have hwords := mainGrammar.classify_plain h.positional
  cases json with
  | false => exact parse_mainGrammar hwords
  | true =>
    have hunknown : mainGrammar.classifyOne "--json" = .ok (.option "--json" none) := rfl
    have hall : mainGrammar.classify (jsonWords true ++ task.filled.flatMap (·.2)) =
        .ok (.option "--json" none :: (task.filled.flatMap (·.2)).map .plain) := by
      change mainGrammar.classify ("--json" :: task.filled.flatMap (·.2)) = _
      rw [Grammar.classify_cons _ (by decide), hunknown, hwords]
      rfl
    exact parse_mainGrammar hall

theorem Grammar.read_eq_ok_iff {g : Grammar} {arguments : List String} {parsed : Parsed} :
    g.read arguments = .ok parsed ↔ g.parse arguments = .ok parsed := by
  unfold Grammar.read
  split <;> simp_all

theorem task_filled {task : Task} (h : task.Plain) (options : List (OptionSpec × Option String)) :
    task.command.task ⟨options, task.filled, []⟩ = task := by
  cases task with
  | check pattern path =>
    obtain ⟨-, given, rfl, -⟩ := h
    rfl
  | extract pattern path =>
    obtain ⟨-, given, rfl, -⟩ := h
    rfl
  | build pattern assignments => rfl
  | inspect pattern => rfl

/-- Reading the arguments of a task gives the task, without a level. -/
theorem Invocation.read_arguments {task : Task} (h : task.Plain) {json : Bool}
    (hjson : json = true → task.command.hasJson = true) :
    Invocation.read (task.arguments json) = .ok ⟨none, false, json, task⟩ := by
  have hmain := Grammar.read_eq_ok_iff.2 (parse_arguments h json)
  have hcommand : Parsed.command? ⟨[], [(commandPosition, task.arguments json)], []⟩ =
      some (task.command, jsonWords json ++ task.filled.flatMap (·.2)) := by
    simp [Parsed.command?, Task.arguments, CommandKind.ofWord?_word]
  have hparsed := Grammar.read_eq_ok_iff.2 (parse_grammar h hjson)
  have hhas : Parsed.has ⟨if json then [(jsonOption, none)] else [], task.filled, []⟩ jsonOption =
      json := by
    cases json <;> rfl
  unfold Invocation.read
  rw [hmain]
  simp only [bind, Except.bind, hcommand, hparsed, hhas, task_filled h]
  rfl

end PathTemplate.Command
