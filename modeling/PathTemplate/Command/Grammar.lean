import PathTemplate.Text.Digit
import PathTemplate.Text.Quoted

/-!
# Command lines

Options and positional arguments are told apart by a grammar. Options may be shortened as long as
one is meant, short ones may be run together, and behind a double hyphen everything is positional.
What fits nowhere is left over, so that another grammar may have it.

## Main definitions

* `Grammar`: the options and positional arguments of a command.
* `Word`: an argument as a grammar sees it, with `Grammar.classify`.
* `Parsed`: what the arguments amount to.
* `Grammar.parse`: reading arguments.
-/

namespace PathTemplate.Command

inductive Effect where
  /-- It asks for help, and nothing else is done. -/
  | help
  | flag
  /-- It takes one of several values. -/
  | choice (choices : List String)
deriving DecidableEq, Repr

structure OptionSpec where
  names : List String
  effect : Effect
deriving DecidableEq, Repr

inductive Arity where
  | one
  | many
  /-- One of several commands, with everything behind it. -/
  | command (choices : List String)
deriving DecidableEq, Repr

structure Position where
  label : String
  arity : Arity
deriving DecidableEq, Repr

structure Grammar where
  program : String
  usage : String
  help : String
  options : List OptionSpec
  positions : List Position

/-- The value that is written together with an option: behind an equals sign, or run on. -/
structure Attached where
  equals : Bool
  text : String
deriving DecidableEq, Repr

structure Use where
  spec : OptionSpec
  name : String
  attached : Option Attached
deriving DecidableEq, Repr

/-- An argument as a grammar sees it. -/
inductive Word where
  /-- The double hyphen behind which everything is positional. -/
  | separator
  | plain (text : String)
  /-- An option; an unknown one has no use. -/
  | option (text : String) (use : Option Use)
deriving DecidableEq, Repr

namespace Word

def text : Word → String
  | separator => "--"
  | plain text => text
  | option text _ => text

def isOption : Word → Bool
  | option _ _ => true
  | _ => false

def isSeparator (w : Word) : Bool :=
  w == separator

end Word

/-- Why reading arguments ended early. -/
inductive Stop where
  | help
  | wrong (message : String)
deriving DecidableEq, Repr

namespace OptionSpec

/-- An option in messages: all ways to write it. -/
def label (o : OptionSpec) : String :=
  "/".intercalate o.names

def complaint (o : OptionSpec) (text : String) : Stop :=
  .wrong ("argument " ++ o.label ++ ": " ++ text)

end OptionSpec

def invalidChoice (value : String) (choices : List String) : String :=
  "invalid choice: " ++ Text.quote value ++ " (choose from " ++
    ", ".intercalate (choices.map Text.quote) ++ ")"

/-- A negative number, which is positional as long as no option looks like one. -/
def looksNegative (text : List Char) : Bool :=
  match text with
  | '-' :: rest =>
    let rest := if rest.getLast? = some '\n' then rest.dropLast else rest
    let fraction := rest.dropWhile Text.isDigit
    match fraction with
    | [] => !rest.isEmpty
    | '.' :: digits => !digits.isEmpty && digits.all Text.isDigit
    | _ => false
  | _ => false

def splitEquals (text : List Char) : String × Option String :=
  let name := String.ofList (text.takeWhile (· != '='))
  match text.dropWhile (· != '=') with
  | [] => (name, none)
  | _ :: value => (name, some (String.ofList value))

namespace Grammar

/-- The options with each way to write them. -/
def named (g : Grammar) : List (String × OptionSpec) :=
  g.options.flatMap fun o => o.names.map (·, o)

/-- The options that an argument may be short for. Behind two hyphens, a name may be cut anywhere;
behind one, the rest of the argument may also be run on to a name of one letter. -/
def candidates (g : Grammar) (text : String) : List Use :=
  match text.toList with
  | '-' :: '-' :: _ =>
    let (start, value) := splitEquals text.toList
    g.named.filterMap fun (name, o) =>
      if start.toList.isPrefixOf name.toList then some ⟨o, name, value.map (⟨true, ·⟩)⟩ else none
  | first :: second :: rest =>
    g.named.filterMap fun (name, o) =>
      if name.toList = [first, second] then some ⟨o, name, some ⟨false, String.ofList rest⟩⟩
      else if text.toList.isPrefixOf name.toList then some ⟨o, name, none⟩
      else none
  | _ => []

/-- An argument in front of any separator. -/
def classifyOne (g : Grammar) (text : String) : Except Stop Word :=
  if text.toList.head? ≠ some '-' then .ok (.plain text)
  else
    match g.named.lookup text with
    | some o => .ok (.option text (some ⟨o, text, none⟩))
    | none =>
      if text.toList.length = 1 then .ok (.plain text)
      else
        let (name, value) := splitEquals text.toList
        match value.bind fun v => (g.named.lookup name).map fun o => Use.mk o name (some ⟨true, v⟩)
        with
        | some use => .ok (.option text (some use))
        | none =>
          match g.candidates text with
          | [use] => .ok (.option text (some use))
          | [] =>
            if looksNegative text.toList || text.toList.contains ' ' then .ok (.plain text)
            else .ok (.option text none)
          | uses =>
            .error <| .wrong <| "ambiguous option: " ++ text ++ " could match " ++
              ", ".intercalate (uses.map (·.name))

def classify (g : Grammar) : List String → Except Stop (List Word)
  | [] => .ok []
  | "--" :: rest => .ok (.separator :: rest.map .plain)
  | text :: rest => do
    let word ← g.classifyOne text
    return word :: (← g.classify rest)

end Grammar

/-- What the arguments amount to: the options in order, with their values, the arguments of each
position that was filled, and what is left over. -/
structure Parsed where
  options : List (OptionSpec × Option String)
  filled : List (Position × List String)
  extras : List String

/-- The state of reading: what has been found, and the positions that are still open. -/
structure Reading where
  found : Parsed
  positions : List Position

namespace Reading

def addOption (r : Reading) (o : OptionSpec) (value : Option String) : Reading :=
  { r with found := { r.found with options := r.found.options ++ [(o, value)] } }

def addExtras (r : Reading) (texts : List String) : Reading :=
  { r with found := { r.found with extras := r.found.extras ++ texts } }

end Reading

/-- How many words a position takes at the beginning of a list. Separators around a positional
argument are taken with it. -/
def Arity.take? (words : List Word) : Arity → Option Nat
  | .one =>
    let rest := words.dropWhile (·.isSeparator)
    match rest with
    | .plain _ :: rest =>
      some (words.length - rest.length + (rest.takeWhile (·.isSeparator)).length)
    | _ => none
  | .many => some (words.takeWhile (!·.isOption)).length
  | .command _ =>
    match words.dropWhile (·.isSeparator) with
    | .plain _ :: _ => some words.length
    | _ => none

def takeAll? : List Position → List Word → Option (List Nat)
  | [], _ => some []
  | p :: ps, words => do
    let n ← p.arity.take? words
    let ns ← takeAll? ps (words.drop n)
    return n :: ns

/-- As many positions as can be filled, with the numbers of words they take. -/
def takeMost (positions : List Position) (words : List Word) : (count : Nat) → List Nat
  | 0 => []
  | n + 1 =>
    match takeAll? (positions.take (n + 1)) words with
    | some counts => counts
    | none => takeMost positions words n

/-- The arguments of a position: the first separator among them is dropped, except in front of a
command, which has to be one of its choices. -/
def Position.arguments (p : Position) (texts : List String) : Except Stop (List String) :=
  match p.arity with
  | .command choices =>
    let name := texts.headD ""
    if choices.contains name then .ok texts
    else .error (.wrong ("argument " ++ p.label ++ ": " ++ invalidChoice name choices))
  | _ => .ok (texts.erase "--")

namespace Reading

/-- The positions get the words that the counts say. -/
def fill (r : Reading) (words : List Word) : List Nat → Except Stop (Reading × List Word)
  | [] => .ok (r, words)
  | n :: counts =>
    match r.positions with
    | [] => .ok (r, words)
    | p :: ps =>
      (p.arguments ((words.take n).map Word.text)).bind fun arguments =>
        let found := { r.found with filled := r.found.filled ++ [(p, arguments)] }
        fill ⟨found, ps⟩ (words.drop n) counts

def fillPositions (r : Reading) (words : List Word) : Except Stop (Reading × List Word) :=
  r.fill words (takeMost r.positions words r.positions.length)

def apply (r : Reading) (o : OptionSpec) (value : Option String) : Except Stop Reading :=
  match o.effect, value with
  | .help, _ => .error .help
  | .flag, _ => .ok (r.addOption o none)
  | .choice choices, some v =>
    if choices.contains v then .ok (r.addOption o (some v))
    else .error (o.complaint (invalidChoice v choices))
  | .choice _, none => .error (o.complaint "expected one argument")

/-- The options of an argument in which short ones may be run together, in order, and what is left
over of it. The characters behind the current option are `rest`. -/
def cluster (g : Grammar) (o : OptionSpec) : List Char → Except Stop (List OptionSpec × List String)
  | [] => .ok ([o], [])
  | c :: rest =>
    if c = '-' then
      .error (o.complaint ("ignored explicit argument " ++ String.ofList (Text.quoted (c :: rest))))
    else
      match g.named.lookup (String.ofList ['-', c]) with
      | none => .ok ([o], [String.ofList ('-' :: c :: rest)])
      | some next =>
        match rest with
        | '=' :: value =>
          .error (next.complaint
            ("ignored explicit argument " ++ String.ofList (Text.quoted value)))
        | rest => (cluster g next rest).map fun (os, extras) => (o :: os, extras)

/-- An option with the words behind it, and how many of those it takes. -/
def useOption (g : Grammar) (r : Reading) (use : Use) (words : List Word) :
    Except Stop (Reading × Nat) :=
  match use.spec.effect, use.attached with
  | .choice _, some attached => (r.apply use.spec (some attached.text)).map (·, 0)
  | .choice _, none =>
    match words with
    | .plain text :: _ => (r.apply use.spec (some text)).map (·, 1)
    | _ => .error (use.spec.complaint "expected one argument")
  | _, none => (r.apply use.spec none).map (·, 0)
  | _, some attached =>
    if use.name.toList[1]? = some '-' ∨ attached.text = "" ∨ attached.equals then
      .error (use.spec.complaint ("ignored explicit argument " ++ Text.quote attached.text))
    else do
      let (specs, extras) ← cluster g use.spec attached.text.toList
      let r ← specs.foldlM (fun r o => r.apply o none) (r.addExtras extras)
      return (r, 0)

def feedOption (g : Grammar) (r : Reading) (text : String) (use : Option Use)
    (words : List Word) : Except Stop (Reading × List Word) :=
  match use with
  | none => .ok (r.addExtras [text], words)
  | some use => (useOption g r use words).map fun (r, n) => (r, words.drop n)

/-- Options and positions in turn: positions are filled as far as possible in front of each option,
and what they do not take is left over. Each round takes at least one word. -/
def readWords (g : Grammar) : (fuel : Nat) → Reading → List Word → Except Stop Reading
  | 0, r, _ => .ok r
  | fuel + 1, r, words =>
    if words.any (·.isOption) then
      match words with
      | .option text use :: rest =>
        (feedOption g r text use rest).bind fun (r, rest) => readWords g fuel r rest
      | words =>
        (r.fillPositions words).bind fun (r, rest) =>
          if rest.length < words.length then readWords g fuel r rest
          else
            let r := r.addExtras ((words.takeWhile (!·.isOption)).map Word.text)
            match words.dropWhile (!·.isOption) with
            | .option text use :: rest =>
              (feedOption g r text use rest).bind fun (r, rest) => readWords g fuel r rest
            | _ => .ok r
    else
      (r.fillPositions words).map fun (r, rest) => r.addExtras (rest.map Word.text)

end Reading

/-- Reads arguments. Positions that stay open are complained about, but for a command. -/
def Grammar.parse (g : Grammar) (arguments : List String) : Except Stop Parsed := do
  let words ← g.classify arguments
  let r ← Reading.readWords g (words.length + 1) ⟨⟨[], [], []⟩, g.positions⟩ words
  let missing := r.positions.filter fun p =>
    match p.arity with
    | .command _ => false
    | _ => true
  if missing.isEmpty then return r.found
  else
    .error <| .wrong <| "the following arguments are required: " ++
      ", ".intercalate (missing.map (·.label))

def Grammar.complaint (g : Grammar) (message : String) : String :=
  g.usage ++ g.program ++ ": error: " ++ message ++ "\n"

end PathTemplate.Command
