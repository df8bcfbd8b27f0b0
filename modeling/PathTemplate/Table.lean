import PathTemplate.Template

/-!
# Tables of templates

A list of templates is searched for the first that a path matches.

## Main definitions

* `Template.same`: two templates are the same if they were written the same.
* `Table.first?`: the first template that a path matches, with what its holes stand for.
* `Table.distinctCount`: how many templates of a table differ.
-/

namespace PathTemplate

def Template.same (a b : Template) : Bool :=
  a.text == b.text

/-- Templates in the order in which they are tried. -/
abbrev Table := List Template

namespace Table

/-- The place of the first template that the path matches, counted from a number on. -/
def firstFrom? (path : String) : Nat → Table → Option (Nat × Bindings String (Option String))
  | _, [] => none
  | index, t :: rest =>
    match t.extract? path with
    | some bindings => some (index, bindings)
    | none => firstFrom? path (index + 1) rest

def first? (table : Table) (path : String) : Option (Nat × Bindings String (Option String)) :=
  firstFrom? path 0 table

def distinctCount (table : Table) : Nat :=
  (table.map (·.text)).eraseDups.length

end Table

end PathTemplate
