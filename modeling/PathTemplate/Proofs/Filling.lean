import Mathlib.Data.List.Nodup
import PathTemplate.Build
import PathTemplate.Proofs.Scanning
import PathTemplate.Proofs.Split

/-!
# Filling the holes of a text

A text without stars is filled by replacing its holes one by one and keeping its literals, so the
path that is built threads the values through the literals of the skeleton.

## Main definitions

* `Hole.filled`: what a hole is replaced with.

## Main statements

* `toList_fillTexts`: filling a text fills the holes of its skeleton.
* `fits_of_perm`: a value for each of the distinct names fits.
* `lookup_texts`: what a name is replaced with.
* `map_filled_of_perm`: the path that such values make.
-/

namespace PathTemplate

/-- What a hole is replaced with: the value of its name, or itself if the name has none. -/
def Hole.filled (values : Bindings String String) (hole : Hole) : List Char :=
  match List.lookup (String.ofList hole.name) values with
  | some value => value.toList
  | none => hole.token

/-- The text that results is the skeleton with its holes filled. -/
theorem flatMap_fillPiece (values : Bindings String String) {text : List Char} (h : '*' ∉ text) :
    (Text.pieces paramRule text).flatMap (fillPiece values) =
      (Skeleton.scan text).weave (Hole.filled values) := by
  revert h
  refine Skeleton.scan_induction (P := fun text s => '*' ∉ text →
    (Text.pieces paramRule text).flatMap (fillPiece values) = s.weave (Hole.filled values))
    ?_ ?_ ?_ text
  · intro _
    rfl
  · intro c rest hr ih h
    obtain ⟨hne, hrest⟩ := List.ne_and_not_mem_of_not_mem_cons h
    rw [holeRule_of_ne_star (Ne.symm hne), Option.map_eq_none_iff] at hr
    rw [Text.pieces_of_none hr, List.flatMap_cons, ih hrest]
    rfl
  · intro c rest hole more hr ih h
    obtain ⟨hne, hrest⟩ := List.ne_and_not_mem_of_not_mem_cons h
    have htoken := holeRule_eq_some hr
    rw [holeRule_of_ne_star (Ne.symm hne)] at hr
    obtain ⟨⟨name, length⟩, hp, hh⟩ := Option.map_eq_some_iff.1 hr
    obtain ⟨rfl, rfl⟩ := Prod.mk.inj hh
    have hdrop : '*' ∉ rest.drop length := fun hm => hrest (List.mem_of_mem_drop hm)
    rw [Text.pieces_of_some hp, List.flatMap_cons, ih hdrop, Skeleton.weave_addHole, htoken]
    rfl

/-- Filling a text without stars fills the holes of its skeleton. -/
theorem toList_fillTexts {text : String} (h : '*' ∉ text.toList)
    (supplied : List (String × Value)) :
    (fillTexts text "\x7b" "\x7d" supplied).toList = (Skeleton.scan text.toList).weave
      (Hole.filled (.ofList (supplied.map fun (name, value) => (name, value.toText)))) := by
  rw [fillTexts, String.toList_ofList, ← flatMap_fillPiece _ h]
  rfl

namespace Skeleton

/-- Filling each hole is threading the texts for the holes. -/
theorem weave_eq_thread (fill : Hole → List Char) (s : Skeleton) :
    s.weave fill = s.thread (s.holes.map fun hole => fill hole.1) := by
  rw [weave, thread]
  congr 1
  induction s.holes with
  | nil => rfl
  | cons hole holes ih => rw [List.flatMap_cons, ih, List.map_cons, threadHoles]

theorem eq_param_of_mem_scan {text : List Char} (h : '*' ∉ text) {hole : Hole × List Char}
    (hm : hole ∈ (scan text).holes) : hole.1 = .param hole.1.name ∧ hole.1.name ≠ [] := by
  obtain ⟨hole, literal⟩ := hole
  rcases cases_of_mem_scan hm with rfl | ⟨name, rfl, hne, -⟩
  · exact absurd (star_mem_iff.2 ⟨_, hm, rfl⟩) h
  · exact ⟨rfl, hne⟩

theorem parameters_scan {text : List Char} (h : '*' ∉ text) (hnodup : (scan text).names.Nodup) :
    (scan text).parameters = (scan text).names := by
  have hnames : (scan text).holes.filterMap (·.1.name?) = (scan text).names := by
    rw [names, ← List.filterMap_eq_map]
    refine List.filterMap_congr fun hole hm => ?_
    rw [(eq_param_of_mem_scan h hm).1]
    rfl
  rw [parameters, hnames, eraseDups_of_nodup hnodup]

end Skeleton

theorem fits_of_perm {t : Template} (hw : t.hasWildcard = false) {pairs : List (String × Value)}
    (h : (pairs.map Prod.fst).Perm t.parameters) : t.fits pairs = true := by
  have hlength : pairs.length = t.parameters.length := by
    simpa using h.length_eq
  have hknown : (pairs.all fun pair => t.parameters.contains pair.1) = true := by
    rw [List.all_eq_true]
    intro pair hm
    exact List.contains_iff_mem.2 (h.subset (List.mem_map_of_mem hm))
  have hmissing : t.missing pairs = [] := by
    rw [Template.missing, List.filter_eq_nil_iff]
    intro name hm
    obtain ⟨pair, hp, rfl⟩ := List.mem_map.1 (h.symm.subset hm)
    simpa using ⟨pair.2, hp⟩
  rw [Template.fits, hw, hknown, hmissing, hlength]
  simp

theorem map_fst_texts (pairs : List (String × Value)) :
    (pairs.map fun (name, value) => (name, value.toText)).map Prod.fst = pairs.map Prod.fst := by
  rw [List.map_map]
  rfl

section

variable {text : String} {pairs : List (String × Value)} {texts : List String}

theorem lookup_texts (hnodup : (pairs.map Prod.fst).Nodup) {pair : String × Value}
    (hp : pair ∈ pairs) :
    List.lookup pair.1 (Bindings.ofList (pairs.map fun (name, value) => (name, value.toText))) =
      some pair.2.toText := by
  rw [← map_fst_texts] at hnodup
  rw [Bindings.ofList_of_nodup hnodup]
  exact Bindings.lookup_eq_some_of_mem hnodup (List.mem_map.2 ⟨pair, hp, rfl⟩)

/-- Values for distinct names fill the holes with their texts. -/
theorem map_filled_of_perm (hnodup : (Skeleton.scan text.toList).names.Nodup)
    (hlength : texts.length = (Skeleton.scan text.toList).holes.length)
    (hpairs : (pairs.map fun (name, value) => (name, value.toText)).Perm
      (((Skeleton.scan text.toList).names.map String.ofList).zip texts)) :
    ((Skeleton.scan text.toList).holes.map fun hole =>
        hole.1.filled (.ofList (pairs.map fun (name, value) => (name, value.toText)))) =
      texts.map String.toList := by
  have hkeys : ((((Skeleton.scan text.toList).names.map String.ofList).zip texts).map
      Prod.fst).Nodup := by
    rw [List.map_fst_zip (by simp [Skeleton.names, hlength])]
    exact List.Nodup.map (fun _ _ => String.ofList_injective) hnodup
  have hdistinct := ((hpairs.map Prod.fst).nodup_iff).2 hkeys
  rw [Bindings.ofList_of_nodup hdistinct]
  have hfilled : ∀ pair ∈ (Skeleton.scan text.toList).holes.zip texts,
      pair.1.1.filled (pairs.map fun (name, value) => (name, value.toText)) = pair.2.toList := by
    intro pair hm
    have hsupplied := hpairs.symm.subset (a := (String.ofList pair.1.1.name, pair.2)) <| by
      rw [Skeleton.names, List.map_map, List.zip_map_left]
      exact List.mem_map.2 ⟨pair, hm, rfl⟩
    rw [Hole.filled, Bindings.lookup_eq_some_of_mem hdistinct hsupplied]
  calc
    _ = (((Skeleton.scan text.toList).holes.zip texts).map Prod.fst).map fun hole =>
          hole.1.filled (pairs.map fun (name, value) => (name, value.toText)) := by
      rw [List.map_fst_zip (Nat.le_of_eq hlength.symm)]
    _ = (((Skeleton.scan text.toList).holes.zip texts).map Prod.snd).map String.toList := by
      rw [List.map_map, List.map_map]
      exact List.map_congr_left hfilled
    _ = texts.map String.toList := by
      rw [List.map_snd_zip (Nat.le_of_eq hlength)]

end

end PathTemplate
