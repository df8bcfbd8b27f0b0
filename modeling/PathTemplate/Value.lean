import PathTemplate.Bindings
import PathTemplate.Number.Shortest
import PathTemplate.Text.Digit
import PathTemplate.Text.Quoted

/-!
# Argument values

The values that callers supply for the holes of a template and for settings, and how they are
written into a path or a message. A value with a whole number of too many digits cannot be
written.

## Main definitions

* `Value`: the values.
* `Value.isWritable`: the values that can be written.
* `Value.literal`, `Value.literal?`: a value as it stands in a message, with texts in quotes.
* `Value.toText`, `Value.toText?`: a value as it stands in a path, with a text as it is.
* `Value.same`: equality, which compares numbers by what they denote.
-/

namespace PathTemplate

inductive Value where
  | none
  | bool (b : Bool)
  | int (n : Int)
  | float (x : Binary64)
  | text (s : String)
  | bytes (b : List UInt8)
  | list (items : List Value)
  | tuple (items : List Value)
  | dict (entries : List (Value × Value))

namespace Value

/-- Items in brackets; a lone item is followed by a comma if `lone` says so. -/
def bracketed (opening closing : String) (lone : Bool) (items : List String) : String :=
  let inner := ", ".intercalate items
  opening ++ (if lone && items.length == 1 then inner ++ "," else inner) ++ closing

mutual

def literal : Value → String
  | none => "None"
  | bool b => if b then "True" else "False"
  | int n => toString n
  | float x => x.render
  | text s => Text.quote s
  | bytes b => String.ofList (Text.quotedBytes b)
  | list items => bracketed "[" "]" false (literals items)
  | tuple items => bracketed "(" ")" true (literals items)
  | dict entries => bracketed "\x7b" "\x7d" false (entryLiterals entries)

def literals : List Value → List String
  | [] => []
  | item :: items => literal item :: literals items

def entryLiterals : List (Value × Value) → List String
  | [] => []
  | (key, value) :: entries => (literal key ++ ": " ++ literal value) :: entryLiterals entries

end

/-- The value as it stands in a path: a text as it is, anything else as its literal. -/
def toText : Value → String
  | text s => s
  | value => value.literal

@[simp] theorem toText_text (s : String) : toText (text s) = s := rfl

mutual

/-- Whether a value can be written: no whole number in it has too many digits. -/
def isWritable : Value → Bool
  | int n => (Nat.toDigits 10 n.natAbs).length ≤ Text.digitLimit
  | list items => areWritable items
  | tuple items => areWritable items
  | dict entries => areWritableEntries entries
  | _ => true

def areWritable : List Value → Bool
  | [] => true
  | item :: items => isWritable item && areWritable items

def areWritableEntries : List (Value × Value) → Bool
  | [] => true
  | (key, value) :: entries => isWritable key && isWritable value && areWritableEntries entries

end

@[simp] theorem isWritable_text (s : String) : isWritable (text s) = true := by
  rw [isWritable] <;> simp

theorem isWritable_ofNat_iff {n : Nat} :
    isWritable (int (Int.ofNat n)) = true ↔ n < Nat.pow 10 Text.digitLimit := by
  -- The limit is kept as a variable here, so that nothing works out its power of ten.
  have hlength {limit : Nat} (h : 0 < limit) :
      (Nat.toDigits 10 n).length ≤ limit ↔ n < Nat.pow 10 limit :=
    Nat.length_toDigits_le_iff (by decide) h
  rw [isWritable, decide_eq_true_iff]
  exact hlength (by decide)

/-- The least of the whole numbers with too many digits. -/
theorem isWritable_pow : isWritable (int (Int.ofNat (Nat.pow 10 Text.digitLimit))) = false := by
  rw [← Bool.not_eq_true, isWritable_ofNat_iff]
  exact Nat.lt_irrefl _

def literal? (v : Value) : Option String :=
  if v.isWritable then some v.literal else Option.none

def toText? (v : Value) : Option String :=
  if v.isWritable then some v.toText else Option.none

theorem toText?_eq_some_iff {v : Value} {text : String} :
    v.toText? = some text ↔ v.isWritable = true ∧ v.toText = text := by
  simp [toText?]

def unwritableMessage : String :=
  Text.digitLimitMessage ""

def kind : Value → String
  | none => "NoneType"
  | bool _ => "bool"
  | int _ => "int"
  | float _ => "float"
  | text _ => "str"
  | bytes _ => "bytes"
  | list _ => "list"
  | tuple _ => "tuple"
  | dict _ => "dict"

/-- The whole number that a value denotes, truth counting one and falsity zero. -/
def whole? : Value → Option Int
  | bool b => some (if b then 1 else 0)
  | int n => some n
  | _ => Option.none

def sameNumber (a b : Value) : Bool :=
  match a, b with
  | float x, float y => x.same y
  | float x, b => b.whole?.any x.sameInt
  | a, float y => a.whole?.any y.sameInt
  | a, b =>
    match a.whole?, b.whole? with
    | some m, some n => m == n
    | _, _ => false

mutual

/-- Equality: numbers are compared by what they denote, and dictionaries without regard to order. -/
def same : Value → Value → Bool
  | none, none => true
  | text s, text t => s == t
  | bytes a, bytes b => a == b
  | list a, list b => sameItems a b
  | tuple a, tuple b => sameItems a b
  | dict a, dict b => a.length == b.length && sameEntries a b
  | a, b => sameNumber a b

def sameItems : List Value → List Value → Bool
  | [], [] => true
  | a :: as, b :: bs => same a b && sameItems as bs
  | _, _ => false

/-- Every entry of the first list is one of the second. -/
def sameEntries : List (Value × Value) → List (Value × Value) → Bool
  | [], _ => true
  | (key, value) :: rest, entries =>
    entries.any (fun (k, v) => same key k && same value v) && sameEntries rest entries

end

instance : BEq Value := ⟨same⟩

def ofEntries (entries : List (Value × Value)) : Value :=
  dict (Bindings.ofList entries)

def ofNamed (entries : List (String × Value)) : Value :=
  ofEntries (entries.map fun (name, value) => (text name, value))

end Value

end PathTemplate
