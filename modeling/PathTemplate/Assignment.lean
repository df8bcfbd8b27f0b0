import PathTemplate.Text.Quoted

/-!
# Assignments

Names and values as they are written on a command line, with an equals sign between them.

## Main definitions

* `Assignment.parse?`: the name and the value of one assignment.
* `Assignment.parseAll`: those of several, up to the first that is none.
* `Assignment.join`: how a name and a value are written.

## Main statements

* `Assignment.parse?_eq_some_iff`: reading undoes writing, for names that are not empty and hold no
  equals sign.
-/

namespace PathTemplate.Assignment

def join (pair : List Char × List Char) : List Char :=
  pair.1 ++ '=' :: pair.2

/-- The name in front of the first equals sign and the value behind it. The name is not empty; the
value may be, and may hold further equals signs. -/
def parse? (item : List Char) : Option (List Char × List Char) :=
  let name := item.takeWhile (· != '=')
  match item.dropWhile (· != '=') with
  | _ :: value => if name.isEmpty then none else some (name, value)
  | [] => none

/-- The pairs of a list of assignments, or the first item that is none. -/
def parseAll : List String → Except String (List (String × String))
  | [] => .ok []
  | item :: items =>
    match parse? item.toList with
    | none => .error item
    | some (name, value) =>
      (parseAll items).map ((String.ofList name, String.ofList value) :: ·)

def message (item : String) : String :=
  "Expected name=value, got " ++ Text.quote item

theorem parse?_eq_some_iff {item name value : List Char} :
    parse? item = some (name, value) ↔ item = join (name, value) ∧ name ≠ [] ∧ '=' ∉ name := by
  have key : item.takeWhile (· != '=') ++ item.dropWhile (· != '=') = item :=
    List.takeWhile_append_dropWhile
  constructor
  · intro h
    simp only [parse?] at h
    split at h
    · next c rest hd =>
      split at h
      · simp at h
      · next hne =>
        obtain ⟨rfl, rfl⟩ := by simpa using h
        have hc : c = '=' := by
          have := List.head?_dropWhile_not (· != '=') item
          simpa [hd] using this
        subst hc
        refine ⟨?_, by simpa using hne, ?_⟩
        · simp only [join]
          rw [← hd, key]
        · intro hm
          have := List.all_takeWhile (p := (· != '=')) (l := item)
          simpa using List.all_eq_true.1 this _ hm
    · simp at h
  · rintro ⟨rfl, hne, hmem⟩
    have hall : ∀ c ∈ name, (c != '=') = true := by
      intro c hc
      simp only [bne_iff_ne]
      rintro rfl
      exact hmem hc
    simp [parse?, join, List.takeWhile_append_of_pos hall, List.dropWhile_append_of_pos hall, hne]

end PathTemplate.Assignment
