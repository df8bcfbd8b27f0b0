import PathTemplate.Proofs.PlainArguments
import PathTemplate.Proofs.Reading

/-!
# Options in front of a command

Whatever options are found, what is left over stays left over, and an option that has to have a value
has one of its choices. So arguments that are accepted with a command consist of options, the command
word and everything behind it.

## Main definitions

* `Chosen`: an option with a value that it can have.
* `Reading.Extends`: options have been added with such values, and nothing was taken back.
* `Reading.Notes`: nothing else has changed.
* `Reading.Reads`: what reading words does, one step after another.
* `Lead`: an option in front of a command, written in full.

## Main statements

* `Reading.notes_feedOption`: what an option changes, and the words that it takes.
* `Reading.Reads.adds`: what reading words does to the options and to what is left over.
* `Reading.Reads.exists_front`: the words in front of a command word.
* `exists_front_of_parse`: the arguments in front of a command word.
* `parse_leads`: reading options that are written in full.
-/

namespace PathTemplate.Command

open Regex (bind_eq_ok map_eq_ok)

/-- An option has a value if it needs one, and the value is one of its choices. -/
def Chosen (use : OptionSpec × Option String) : Prop :=
  ∀ choices, use.1.effect = .choice choices → ∃ value ∈ choices, use.2 = some value

namespace Parsed

variable {p : Parsed} {o : OptionSpec}

theorem mem_of_lookup_reverse {value : Option String}
    (h : p.options.reverse.lookup o = some value) : (o, value) ∈ p.options := by
  obtain ⟨before, after, hsplit, -⟩ := List.lookup_eq_some_iff.1 h
  exact List.mem_reverse.1 (hsplit ▸ by simp)

theorem has_of_lastValue? {value : String} (h : p.lastValue? o = some value) : p.has o = true := by
  have hmem := mem_of_lookup_reverse (Option.join_eq_some_iff.1 h)
  exact List.any_eq_true.2 ⟨_, hmem, beq_self_eq_true o⟩

theorem lastValue?_of_has {choices : List String} (ho : o.effect = .choice choices)
    (hchosen : ∀ use ∈ p.options, Chosen use) (h : p.has o = true) :
    ∃ value ∈ choices, p.lastValue? o = some value := by
  obtain ⟨use, hu, huse⟩ := List.any_eq_true.1 h
  obtain ⟨value, hvalue⟩ : ∃ value, p.options.reverse.lookup o = some value := by
    rw [← Option.isSome_iff_exists, List.lookup_isSome_iff]
    exact ⟨use, List.mem_reverse.2 hu, BEq.symm huse⟩
  obtain ⟨v, hv, rfl⟩ := hchosen _ (mem_of_lookup_reverse hvalue) choices ho
  exact ⟨v, hv, by rw [lastValue?, hvalue, Option.join_some]⟩

end Parsed

namespace Reading

variable {g : Grammar} {r r' : Reading}

/-- Options may have been added with values that they can have, and more may be left over. -/
structure Extends (r r' : Reading) : Prop where
  options : ∀ use ∈ r'.found.options, use ∈ r.found.options ∨ Chosen use
  extras : r.found.extras <+: r'.found.extras

namespace Extends

theorem refl (r : Reading) : r.Extends r :=
  ⟨fun _ h => .inl h, List.prefix_refl _⟩

theorem trans {r'' : Reading} (h : r.Extends r') (h' : r'.Extends r'') : r.Extends r'' :=
  ⟨fun use hu => (h'.options use hu).elim (h.options use) .inr, h.extras.trans h'.extras⟩

end Extends

/-- An option concerns nothing but the options and what is left over. -/
structure Notes (r r' : Reading) : Prop extends r.Extends r' where
  filled : r'.found.filled = r.found.filled
  positions : r'.positions = r.positions

theorem Notes.refl (r : Reading) : r.Notes r :=
  ⟨.refl r, rfl, rfl⟩

theorem Notes.trans {r'' : Reading} (h : r.Notes r') (h' : r'.Notes r'') : r.Notes r'' :=
  ⟨h.toExtends.trans h'.toExtends, h'.filled.trans h.filled, h'.positions.trans h.positions⟩

theorem notes_addOption {o : OptionSpec} {value : Option String} (h : Chosen (o, value)) :
    r.Notes (r.addOption o value) := by
  refine ⟨⟨fun use hu => ?_, List.prefix_refl _⟩, rfl, rfl⟩
  rcases List.mem_append.1 hu with hu | hu
  · exact .inl hu
  · exact .inr (List.mem_singleton.1 hu ▸ h)

theorem notes_addExtras (texts : List String) : r.Notes (r.addExtras texts) :=
  ⟨⟨fun _ hu => .inl hu, List.prefix_append _ _⟩, rfl, rfl⟩

theorem notes_apply {o : OptionSpec} {value : Option String} (h : r.apply o value = .ok r') :
    r.Notes r' := by
  unfold apply at h
  split at h
  · simp at h
  · next heffect =>
    obtain rfl := Except.ok.inj h
    exact notes_addOption fun choices hchoices => by simp [heffect] at hchoices
  · next choices v heffect =>
    split at h
    · next hv =>
      obtain rfl := Except.ok.inj h
      refine notes_addOption fun choices' hchoices => ⟨v, ?_, rfl⟩
      obtain rfl := Effect.choice.inj (heffect.symm.trans hchoices)
      simpa using hv
    · simp at h
  · simp at h

/-- Options that are run together are noted one after another. -/
theorem notes_foldlM {specs : List OptionSpec}
    (h : specs.foldlM (fun r o => r.apply o none) r = .ok r') : r.Notes r' := by
  induction specs generalizing r with
  | nil =>
    obtain rfl := Except.ok.inj h
    exact .refl r
  | cons o specs ih =>
    rw [List.foldlM_cons] at h
    obtain ⟨next, hnext, hrest⟩ := bind_eq_ok.1 h
    exact (notes_apply hnext).trans (ih hrest)

theorem notes_useOption {use : Use} {words : List Word} {n : Nat}
    (h : useOption g r use words = .ok (r', n)) :
    r.Notes r' ∧ (n = 0 ∨ n = 1 ∧ ∃ text rest, words = .plain text :: rest) := by
  unfold useOption at h
  split at h
  · obtain ⟨next, hnext, heq⟩ := map_eq_ok.1 h
    obtain ⟨rfl, rfl⟩ := Prod.mk.inj heq
    exact ⟨notes_apply hnext, .inl rfl⟩
  · split at h
    · next text rest =>
      obtain ⟨next, hnext, heq⟩ := map_eq_ok.1 h
      obtain ⟨rfl, rfl⟩ := Prod.mk.inj heq
      exact ⟨notes_apply hnext, .inr ⟨rfl, text, rest, rfl⟩⟩
    · simp at h
  · obtain ⟨next, hnext, heq⟩ := map_eq_ok.1 h
    obtain ⟨rfl, rfl⟩ := Prod.mk.inj heq
    exact ⟨notes_apply hnext, .inl rfl⟩
  · split at h
    · simp at h
    · obtain ⟨⟨specs, extras⟩, -, h⟩ := bind_eq_ok.1 h
      obtain ⟨next, hnext, h⟩ := bind_eq_ok.1 h
      obtain ⟨rfl, rfl⟩ := Prod.mk.inj (Except.ok.inj h)
      exact ⟨(notes_addExtras extras).trans (notes_foldlM hnext), .inl rfl⟩

theorem notes_feedOption {text : String} {use : Option Use} {words rest : List Word}
    (h : feedOption g r text use words = .ok (r', rest)) :
    r.Notes r' ∧ (rest = words ∨ ∃ value, words = .plain value :: rest) := by
  unfold feedOption at h
  split at h
  · obtain ⟨rfl, rfl⟩ := Prod.mk.inj (Except.ok.inj h)
    exact ⟨notes_addExtras _, .inl rfl⟩
  · obtain ⟨⟨next, n⟩, huse, heq⟩ := map_eq_ok.1 h
    obtain ⟨rfl, rfl⟩ := Prod.mk.inj heq
    obtain ⟨hnotes, rfl | ⟨rfl, value, rest, rfl⟩⟩ := notes_useOption huse
    · exact ⟨hnotes, .inl rfl⟩
    · exact ⟨hnotes, .inr ⟨value, rfl⟩⟩

theorem extends_fill {words rest : List Word} {counts : List Nat}
    (h : r.fill words counts = .ok (r', rest)) : r.Extends r' := by
  induction counts generalizing r words with
  | nil =>
    obtain ⟨rfl, -⟩ := Prod.mk.inj (Except.ok.inj h)
    exact .refl r
  | cons n counts ih =>
    unfold fill at h
    split at h
    · obtain ⟨rfl, -⟩ := Prod.mk.inj (Except.ok.inj h)
      exact .refl r
    · obtain ⟨arguments, -, h⟩ := bind_eq_ok.1 h
      dsimp only at h
      have hrest := ih h
      exact ⟨hrest.options, hrest.extras⟩

/-- What reading words does, one step after another. -/
inductive Reads (g : Grammar) : Reading → List Word → Reading → Prop where
  | stop (r : Reading) (words : List Word) : Reads g r words r
  | option {r next r' : Reading} {text : String} {use : Option Use} {words rest : List Word}
      (hfeed : feedOption g r text use words = .ok (next, rest)) (hrest : Reads g next rest r') :
      Reads g r (.option text use :: words) r'
  | fill {r next r' : Reading} {words rest : List Word}
      (hfill : r.fillPositions words = .ok (next, rest)) (hlength : rest.length < words.length)
      (hrest : Reads g next rest r') : Reads g r words r'
  /-- Words in front of an option are left over. -/
  | skip {r next r' : Reading} {words rest more : List Word} {texts : List String}
      (hfill : r.fillPositions words = .ok (next, rest)) (hlength : ¬rest.length < words.length)
      (htexts : texts ≠ []) (hrest : Reads g (next.addExtras texts) more r') : Reads g r words r'
  | last {r next : Reading} {words rest : List Word}
      (hfill : r.fillPositions words = .ok (next, rest)) :
      Reads g r words (next.addExtras (rest.map Word.text))

theorem reads_readWords {fuel : Nat} {words : List Word}
    (h : readWords g fuel r words = .ok r') : Reads g r words r' := by
  induction fuel generalizing r words with
  | zero =>
    obtain rfl := Except.ok.inj h
    exact .stop r words
  | succ fuel ih =>
    unfold readWords at h
    split at h
    · next hany =>
      split at h
      · obtain ⟨⟨next, rest⟩, hfeed, h⟩ := bind_eq_ok.1 h
        exact .option hfeed (ih h)
      · next hfirst =>
        obtain ⟨⟨next, rest⟩, hfill, h⟩ := bind_eq_ok.1 h
        dsimp only at h
        split at h
        · next hlength => exact .fill hfill hlength (ih h)
        · next hlength =>
          have htexts : (words.takeWhile (!·.isOption)).map Word.text ≠ [] := by
            cases words with
            | nil => simp at hany
            | cons w words =>
              cases w with
              | option text use => exact absurd rfl (hfirst text use words)
              | separator | plain => simp [Word.isOption]
          refine .skip hfill hlength htexts (?_ : Reads g _ (words.dropWhile (!·.isOption)) r')
          split at h
          · next hdrop =>
            obtain ⟨⟨fed, more⟩, hfeed, h⟩ := bind_eq_ok.1 h
            rw [hdrop]
            exact .option hfeed (ih h)
          · obtain rfl := Except.ok.inj h
            exact .stop _ _
    · obtain ⟨⟨next, rest⟩, hfill, rfl⟩ := map_eq_ok.1 h
      exact .last hfill

/-- Reading words adds options with values that they can have, and takes back nothing that is left
over. -/
theorem Reads.adds {words : List Word} (h : Reads g r words r') : r.Extends r' := by
  induction h with
  | stop r words => exact .refl r
  | option hfeed _ ih => exact (notes_feedOption hfeed).1.toExtends.trans ih
  | fill hfill _ _ ih => exact (extends_fill hfill).trans ih
  | skip hfill _ _ _ ih =>
    exact (extends_fill hfill).trans ((notes_addExtras _).toExtends.trans ih)
  | last hfill => exact (extends_fill hfill).trans (notes_addExtras _).toExtends

theorem fillPositions_of_nil {words rest : List Word} (hr : r.positions = [])
    (h : r.fillPositions words = .ok (r', rest)) : r' = r := by
  obtain ⟨found, positions⟩ := r
  obtain rfl : positions = [] := hr
  exact (Prod.mk.inj (Except.ok.inj h)).1.symm

theorem Reads.filled_eq {words : List Word} (h : Reads g r words r') (hr : r.positions = []) :
    r'.found.filled = r.found.filled := by
  induction h with
  | stop r words => rfl
  | option hfeed _ ih =>
    have hnotes := (notes_feedOption hfeed).1
    exact (ih (hnotes.positions.trans hr)).trans hnotes.filled
  | fill hfill _ _ ih =>
    obtain rfl := fillPositions_of_nil hr hfill
    exact ih hr
  | skip hfill _ _ _ ih =>
    obtain rfl := fillPositions_of_nil hr hfill
    exact ih hr
  | last hfill =>
    obtain rfl := fillPositions_of_nil hr hfill
    rfl

/-! ## The command word -/

theorem exists_word_of_contains {text : String}
    (h : (CommandKind.all.map CommandKind.word).contains text = true) :
    ∃ c : CommandKind, c.word = text := by
  obtain ⟨c, -, hc⟩ := List.mem_map.1 (List.contains_iff_mem.1 h)
  exact ⟨c, hc⟩

/-- The command position takes all words or none, and the first one that it takes is positional, or a
separator. -/
theorem take?_commandPosition (words : List Word) :
    commandPosition.arity.take? words = none ∨
      commandPosition.arity.take? words = some words.length ∧
        ∃ word tail, words = word :: tail ∧ word.isOption = false := by
  simp only [commandPosition, Arity.take?]
  split
  · next hdrop =>
    refine .inr ⟨rfl, ?_⟩
    cases words with
    | nil => simp at hdrop
    | cons word tail =>
      refine ⟨word, tail, rfl, ?_⟩
      cases word with
      | option text use => simp [Word.isSeparator] at hdrop
      | separator | plain => rfl
  · exact .inl rfl

theorem fillPositions_commandPosition {words rest : List Word}
    (hr : r.positions = [commandPosition]) (h : r.fillPositions words = .ok (r', rest)) :
    r' = r ∧ rest = words ∨
    ∃ (c : CommandKind) (tail : List Word), words = .plain c.word :: tail ∧ rest = [] ∧
      r' = ⟨{ r.found with
        filled := r.found.filled ++ [(commandPosition, c.word :: tail.map Word.text)] }, []⟩ := by
  obtain ⟨found, positions⟩ := r
  obtain rfl : positions = [commandPosition] := hr
  obtain htake | ⟨htake, word, tail, rfl, hoption⟩ := take?_commandPosition words
  · have hmost : takeMost [commandPosition] words [commandPosition].length = [] := by
      simp [takeMost, takeAll?, htake]
    rw [fillPositions, hmost] at h
    obtain ⟨rfl, rfl⟩ := Prod.mk.inj (Except.ok.inj h)
    exact .inl ⟨rfl, rfl⟩
  · right
    have hall : takeAll? [commandPosition] (word :: tail) = some [(word :: tail).length] := by
      simp [takeAll?, htake]
    rw [fillPositions, takeMost_of_takeAll? hall, fill] at h
    obtain ⟨arguments, harguments, h⟩ := bind_eq_ok.1 h
    rw [List.take_length] at harguments
    rw [List.drop_length] at h
    obtain ⟨rfl, rfl⟩ := Prod.mk.inj (Except.ok.inj h)
    simp only [Position.arguments, commandPosition] at harguments
    split at harguments
    · next hcontains =>
      obtain rfl := Except.ok.inj harguments
      obtain ⟨c, hc⟩ := exists_word_of_contains hcontains
      have htext : c.word = word.text := hc
      refine ⟨c, tail, ?_, rfl, ?_⟩
      · cases word with
        | plain text => rw [htext]; rfl
        | separator => cases c <;> simp [CommandKind.word, Word.text] at htext
        | option text use => simp [Word.isOption] at hoption
      · rw [List.map_cons, ← htext]
    · simp at harguments

/-- A command word that was found stands behind options and takes everything behind it. -/
theorem Reads.exists_front {words : List Word} (h : Reads g r words r')
    (hpositions : r.positions = [commandPosition]) (hfilled : r.found.filled = [])
    (hextras : r'.found.extras = []) (hfound : r'.found.filled ≠ []) :
    ∃ (c : CommandKind) (front tail : List Word), words = front ++ .plain c.word :: tail ∧
      .separator ∉ front ∧
        r'.found.filled = [(commandPosition, c.word :: tail.map Word.text)] := by
  induction h with
  | stop r words => exact absurd hfilled hfound
  | @option _ _ _ text use _ _ hfeed _ ih =>
    obtain ⟨hnotes, hrest⟩ := notes_feedOption hfeed
    obtain ⟨c, front, tail, rfl, hseparator, hcommand⟩ := ih (hnotes.positions.trans hpositions)
      (hnotes.filled.trans hfilled) hextras hfound
    rcases hrest with rfl | ⟨value, rfl⟩
    · exact ⟨c, .option text use :: front, tail, rfl, by simpa using hseparator, hcommand⟩
    · exact ⟨c, .option text use :: .plain value :: front, tail, rfl, by simpa using hseparator,
        hcommand⟩
  | fill hfill hlength hrest _ =>
    obtain ⟨rfl, rfl⟩ | ⟨c, tail, rfl, rfl, rfl⟩ := fillPositions_commandPosition hpositions hfill
    · exact absurd hlength (Nat.lt_irrefl _)
    · refine ⟨c, [], tail, rfl, List.not_mem_nil, ?_⟩
      rw [hrest.filled_eq rfl, hfilled]
      rfl
  | skip hfill hlength htexts hrest _ =>
    obtain ⟨rfl, rfl⟩ | ⟨c, tail, rfl, rfl, rfl⟩ := fillPositions_commandPosition hpositions hfill
    · -- What is skipped is left over, and nothing takes it back.
      have hbegins := hrest.adds.extras
      rw [hextras, List.prefix_nil] at hbegins
      exact absurd (List.append_eq_nil_iff.1 hbegins).2 htexts
    · simp at hlength
  | last hfill =>
    obtain ⟨rfl, rfl⟩ | ⟨c, tail, rfl, rfl, rfl⟩ := fillPositions_commandPosition hpositions hfill
    · exact absurd hfilled hfound
    · refine ⟨c, [], tail, rfl, List.not_mem_nil, ?_⟩
      rw [addExtras, hfilled]
      rfl

end Reading

namespace Grammar

/-- Arguments are read in words, and some positions may stay open. -/
theorem reads_of_parse {g : Grammar} {arguments : List String} {parsed : Parsed}
    (h : g.parse arguments = .ok parsed) :
    ∃ words positions, g.classify arguments = .ok words ∧
      Reading.Reads g ⟨⟨[], [], []⟩, g.positions⟩ words ⟨parsed, positions⟩ := by
  obtain ⟨words, hwords, h⟩ := bind_eq_ok.1 h
  obtain ⟨r, hread, h⟩ := bind_eq_ok.1 h
  dsimp only at h
  split at h
  · obtain rfl := Except.ok.inj h
    exact ⟨words, r.positions, hwords, Reading.reads_readWords hread⟩
  · simp at h

theorem chosen_of_parse {g : Grammar} {arguments : List String} {parsed : Parsed}
    (h : g.parse arguments = .ok parsed) : ∀ use ∈ parsed.options, Chosen use := by
  obtain ⟨words, positions, -, hreads⟩ := reads_of_parse h
  intro use hu
  exact (hreads.adds.options use hu).resolve_left List.not_mem_nil

/-- What stands behind words without a separator is made of the arguments behind them. -/
theorem classify_suffix {g : Grammar} {texts : List String} {front tail : List Word}
    (h : g.classify texts = .ok (front ++ tail)) (hfront : .separator ∉ front) :
    ∃ before behind, texts = before ++ behind ∧ g.classify behind = .ok tail := by
  induction front generalizing texts with
  | nil => exact ⟨[], texts, rfl, h⟩
  | cons word front ih =>
    obtain ⟨hword, hfront⟩ := not_or.1 (List.mem_cons.not.1 hfront)
    cases texts with
    | nil => simp [classify] at h
    | cons text rest =>
      have hne : text ≠ "--" := by
        rintro rfl
        exact hword (List.cons.inj (Except.ok.inj h)).1
      rw [classify_cons g hne] at h
      obtain ⟨first, -, h⟩ := bind_eq_ok.1 h
      obtain ⟨others, hrest, heq⟩ := map_eq_ok.1 h
      obtain ⟨-, rfl⟩ := List.cons.inj heq
      obtain ⟨before, behind, rfl, hbehind⟩ := ih hrest hfront
      exact ⟨text :: before, behind, rfl, hbehind⟩

/-- A word that is positional is the argument itself, unless a separator stands in front of it. -/
theorem classify_plain_cons {g : Grammar} {texts : List String} {text : String} {tail : List Word}
    (h : g.classify texts = .ok (.plain text :: tail)) :
    ∃ rest, texts = text :: rest ∧ g.classify rest = .ok tail := by
  cases texts with
  | nil => simp [classify] at h
  | cons first rest =>
    have hne : first ≠ "--" := by
      rintro rfl
      simpa using (List.cons.inj (Except.ok.inj h)).1
    rw [classify_cons g hne] at h
    obtain ⟨word, hword, h⟩ := bind_eq_ok.1 h
    obtain ⟨others, hrest, heq⟩ := map_eq_ok.1 h
    obtain ⟨rfl, rfl⟩ := List.cons.inj heq
    exact ⟨rest, by rw [← classifyOne_text hword]; rfl, hrest⟩

end Grammar

/-- Arguments that are accepted with a command have options in front of the command word, and
everything behind it is for the command. -/
theorem exists_front_of_parse {arguments rest : List String} {main : Parsed} {c : CommandKind}
    (h : mainGrammar.parse arguments = .ok main) (hextras : main.extras = [])
    (hcommand : main.command? = some (c, rest)) :
    ∃ front words, arguments = front ++ c.word :: rest ∧
      mainGrammar.classify rest = .ok words := by
  obtain ⟨words, positions, hwords, hreads⟩ := Grammar.reads_of_parse h
  have hfound : main.filled ≠ [] := by
    rintro hnil
    simp [Parsed.command?, hnil] at hcommand
  obtain ⟨c', front, tail, rfl, hseparator, hfilled⟩ := hreads.exists_front rfl rfl hextras hfound
  obtain ⟨before, behind, rfl, hbehind⟩ := Grammar.classify_suffix hwords hseparator
  obtain ⟨texts, rfl, htexts⟩ := Grammar.classify_plain_cons hbehind
  have hfilled : main.filled = [(commandPosition, c'.word :: tail.map Word.text)] := hfilled
  rw [Parsed.command?, hfilled] at hcommand
  obtain ⟨rfl, rfl⟩ : c' = c ∧ tail.map Word.text = rest := by
    simpa [CommandKind.ofWord?_word] using hcommand
  refine ⟨before, tail, ?_, ?_⟩
  · rw [Grammar.classify_text htexts]
  · rw [Grammar.classify_text htexts, htexts]

/-! ## Options that are written in full -/

/-- An option in front of a command: the lowest level, or one that is named. -/
inductive Lead where
  | verbose
  | level (level : Level)
deriving DecidableEq, Repr

namespace Lead

def arguments : Lead → List String
  | verbose => ["--verbose"]
  | level l => ["--log-level", l.name]

def option : Lead → OptionSpec × Option String
  | verbose => (verboseOption, none)
  | level l => (levelOption, some l.name)

def words : Lead → List Word
  | verbose => [.option "--verbose" (some ⟨verboseOption, "--verbose", none⟩)]
  | level l => [.option "--log-level" (some ⟨levelOption, "--log-level", none⟩), .plain l.name]

theorem eq_verbose_of_option {lead : Lead} (h : lead.option.1 = verboseOption) :
    lead = .verbose := by
  cases lead with
  | verbose => rfl
  | level l => simp [option, verboseOption, levelOption] at h

theorem classify_arguments (lead : Lead) {texts : List String} {tail : List Word}
    (h : mainGrammar.classify texts = .ok tail) :
    mainGrammar.classify (lead.arguments ++ texts) = .ok (lead.words ++ tail) := by
  cases lead with
  | verbose =>
    have hword : mainGrammar.classifyOne "--verbose" =
        .ok (.option "--verbose" (some ⟨verboseOption, "--verbose", none⟩)) := rfl
    rw [arguments, List.singleton_append, Grammar.classify_cons _ (by decide), hword, h]
    rfl
  | level l =>
    have hword : mainGrammar.classifyOne "--log-level" =
        .ok (.option "--log-level" (some ⟨levelOption, "--log-level", none⟩)) := rfl
    have hname : Positional l.name ∧ l.name ≠ "--" := by cases l <;> decide
    rw [arguments, List.cons_append, List.singleton_append, Grammar.classify_cons _ (by decide),
      hword, Grammar.classify_cons _ hname.2, Grammar.classifyOne_plain _ hname.1, h]
    rfl

theorem readWords_words (lead : Lead) (fuel : Nat) (r : Reading) (tail : List Word) :
    Reading.readWords mainGrammar (fuel + 1) r (lead.words ++ tail) =
      Reading.readWords mainGrammar fuel (r.addOption lead.option.1 lead.option.2) tail := by
  cases lead with
  | verbose => exact Reading.readWords_flag _ _ _ rfl _
  | level l =>
    refine Reading.readWords_option _ _ ?_
    cases l <;> rfl

end Lead

theorem classify_leads (leads : List Lead) {texts : List String} {tail : List Word}
    (h : mainGrammar.classify texts = .ok tail) :
    mainGrammar.classify (leads.flatMap Lead.arguments ++ texts) =
      .ok (leads.flatMap Lead.words ++ tail) := by
  induction leads with
  | nil => exact h
  | cons lead leads ih =>
    rw [List.flatMap_cons, List.flatMap_cons, List.append_assoc, List.append_assoc]
    exact lead.classify_arguments ih

theorem readWords_leads (leads : List Lead) (fuel : Nat) (r : Reading) (tail : List Word) :
    Reading.readWords mainGrammar (fuel + leads.length) r (leads.flatMap Lead.words ++ tail) =
      Reading.readWords mainGrammar fuel
        { r with found := { r.found with options := r.found.options ++ leads.map Lead.option } }
        tail := by
  induction leads generalizing r with
  | nil => simp
  | cons lead leads ih =>
    rw [List.flatMap_cons, List.append_assoc, List.length_cons, ← Nat.add_assoc,
      Lead.readWords_words, ih]
    simp [Reading.addOption]

theorem length_le_words (leads : List Lead) :
    leads.length ≤ (leads.flatMap Lead.words).length := by
  induction leads with
  | nil => exact Nat.le_refl _
  | cons lead leads ih =>
    rw [List.flatMap_cons, List.length_append, List.length_cons]
    cases lead <;> grind [Lead.words]

/-- Options that are written in full are read in order, and the command word takes everything behind
it. -/
theorem parse_leads (leads : List Lead) {c : CommandKind} {rest : List String} {words : List Word}
    (h : mainGrammar.classify rest = .ok words) :
    mainGrammar.parse (leads.flatMap Lead.arguments ++ c.word :: rest) =
      .ok ⟨leads.map Lead.option, [(commandPosition, c.word :: rest)], []⟩ := by
  have hne : c.word ≠ "--" := by cases c <;> decide
  have hwords : mainGrammar.classify (c.word :: rest) = .ok (.plain c.word :: words) := by
    rw [Grammar.classify_cons _ hne, Grammar.classifyOne_plain _ c.positional_word, h]
    rfl
  have hfill := fillPositions_command c words ⟨leads.map Lead.option, [], []⟩
  rw [Grammar.classify_text h] at hfill
  have hlength := length_le_words leads
  refine Grammar.parse_of_readWords (classify_leads leads hwords) ?_
  obtain ⟨fuel, hfuel⟩ : ∃ fuel, (leads.flatMap Lead.words ++ .plain c.word :: words).length + 1 =
      fuel + 2 + leads.length := by
    rw [List.length_append, List.length_cons]
    exact ⟨(leads.flatMap Lead.words).length - leads.length + words.length, by omega⟩
  rw [hfuel, readWords_leads]
  exact Reading.readWords_of_fillPositions mainGrammar fuel hfill

end PathTemplate.Command
