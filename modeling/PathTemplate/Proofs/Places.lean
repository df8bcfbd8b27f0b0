import PathTemplate.Regex.Reader

/-!
# Places do not matter

A place in the source is noted for the errors only. A construct that begins at one place is read to
its end as at any other, as long as neither reading fails.

## Main definitions

* `Agree`: two results that are related if both are there.
* `SetReader.Alike`, `Opening.Alike`: what was read, up to places.

## Main statements

* `Escape.agree_feed`, `SetReader.agree_feed`, `Header.agree_feed`: the next token of an escape, of a
  set and of the head of a group.
-/

namespace PathTemplate.Regex

/-! ## Results that agree -/

/-- Two results that are related if both are there. -/
def Agree {α β : Type} (R : α → β → Prop) (x : Except Failure α) (y : Except Failure β) : Prop :=
  ∀ a b, x = .ok a → y = .ok b → R a b

namespace Agree

variable {α β γ δ : Type} {R : α → β → Prop} {S : γ → δ → Prop}

@[simp] theorem ok_iff {a : α} {b : β} : Agree R (.ok a) (.ok b) ↔ R a b := by
  simp [Agree]

@[simp] theorem error_left (f : Failure) (y : Except Failure β) : Agree R (.error f) y := by
  simp [Agree]

@[simp] theorem error_right (x : Except Failure α) (f : Failure) : Agree R x (.error f) := by
  simp [Agree]

theorem bind {x : Except Failure α} {y : Except Failure β} {f : α → Except Failure γ}
    {g : β → Except Failure δ} (h : Agree R x y) (hfg : ∀ a b, R a b → Agree S (f a) (g b)) :
    Agree S (x.bind f) (y.bind g) := by
  cases x with
  | error _ => exact error_left _ _
  | ok a =>
    cases y with
    | error _ => exact error_right _ _
    | ok b => exact hfg a b (ok_iff.1 h)

theorem map {x : Except Failure α} {y : Except Failure β} {f : α → γ} {g : β → δ}
    (h : Agree R x y) (hfg : ∀ a b, R a b → S (f a) (g b)) : Agree S (x.map f) (y.map g) := by
  cases x with
  | error _ => exact error_left _ _
  | ok a =>
    cases y with
    | error _ => exact error_right _ _
    | ok b => exact ok_iff.2 (hfg a b (ok_iff.1 h))

theorem ite {c : Prop} [Decidable c] {x x' : Except Failure α} {y y' : Except Failure β}
    (h : c → Agree R x y) (h' : ¬c → Agree R x' y') :
    Agree R (if c then x else x') (if c then y else y') := by
  by_cases hc : c
  · rw [if_pos hc, if_pos hc]
    exact h hc
  · rw [if_neg hc, if_neg hc]
    exact h' hc

theorem rfl {x : Except Failure α} : Agree Eq x x := by
  intro a b ha hb
  exact Except.ok.inj (ha.symm.trans hb)

end Agree

/-! ## Constructs in the middle -/

namespace Escape

variable {start start' position position' : Nat} {digits : List Char}

theorem agree_begin {inSet : Bool} {c : Char} :
    Agree Eq (begin inSet start c) (begin inSet start' c) := by
  unfold begin
  repeat' split
  all_goals simp

theorem agree_octalCode : Agree Eq (octalCode start digits) (octalCode start' digits) := by
  unfold octalCode
  split <;> simp

theorem agree_hexCode {mark : Char} :
    Agree Eq (hexCode start mark digits) (hexCode start' mark digits) := by
  unfold hexCode
  repeat' split
  all_goals simp

theorem agree_namedCode {name : List Char} :
    Agree Eq (namedCode start position name) (namedCode start' position' name) := by
  unfold namedCode
  split
  · simp
  · split <;> simp

theorem agree_feed {e : Escape} {t : Token} :
    Agree Eq (e.feed start position t) (e.feed start' position' t) := by
  cases e with
  | hex mark digits missing =>
    simp only [feed]
    split
    · refine .ite (fun _ => .ite (fun _ => ?_) fun _ => by simp) fun _ => by simp
      exact agree_hexCode.map fun _ _ h => congrArg _ h
    · simp
  | octal digits =>
    simp only [feed]
    split
    · refine .ite (fun _ => .ite (fun _ => ?_) fun _ => by simp) fun _ => ?_
      · exact agree_octalCode.map fun _ _ h => congrArg _ h
      · exact agree_octalCode.map fun _ _ h => congrArg _ h
    · exact agree_octalCode.map fun _ _ h => congrArg _ h
  | number digits =>
    simp only [feed]
    split
    · refine .ite (fun _ => .ite (fun _ => ?_) fun _ => by simp) fun _ => .rfl
      exact agree_octalCode.map fun _ _ h => congrArg _ h
    · simp
  | nameOpen => exact .ite (fun _ => by simp) fun _ => by simp
  | name read =>
    exact .ite (fun _ => agree_namedCode.map fun _ _ h => congrArg _ h) fun _ => by simp

end Escape

/-- Steps of reading that come to the same, up to what each has read and what each results in. -/
inductive Progress.Alike {σ α : Type} (R : σ → σ → Prop) (S : α → α → Prop) :
    Progress σ α → Progress σ α → Prop where
  | more {s s' : σ} (h : R s s') : Alike R S (.more s) (.more s')
  | done {a a' : α} (h : S a a') : Alike R S (.done a) (.done a')
  | before {a a' : α} (h : S a a') : Alike R S (.before a) (.before a')

inductive SetPart.Alike : SetPart → SetPart → Prop where
  | opened : Alike .opened .opened
  | member : Alike .member .member
  | low (low : SetMember) : Alike (.low low) (.low low)
  | hyphen (low : SetMember) : Alike (.hyphen low) (.hyphen low)
  | escape (e : Escape) (token : Token) (start start' : Nat) (low : Option SetMember) :
    Alike (.escape e token start low) (.escape e token start' low)

namespace SetReader

structure Alike (r r' : SetReader) : Prop where
  negated : r.negated = r'.negated
  members : r.members = r'.members
  part : r.part.Alike r'.part

variable {r r' : SetReader} {low : Option SetMember} {t : Token} {position position' : Nat}

theorem Alike.add (h : r.Alike r') (item : SetItem) : (r.add item).Alike (r'.add item) :=
  ⟨h.negated, congrArg (item :: ·) h.members, .member⟩

theorem Alike.close (h : r.Alike r') : r.close = r'.close := by
  rw [SetReader.close, SetReader.close, h.negated, h.members]

theorem agree_range {low high : SetMember} {stop stop' : Nat} :
    Agree Eq (range low high stop) (range low high stop') := by
  unfold range
  dsimp only
  repeat' split
  all_goals simp

theorem agree_place (h : r.Alike r') {m : SetMember} {stop stop' : Nat} :
    Agree Alike (r.place m low stop) (r'.place m low stop') := by
  cases low with
  | none => exact Agree.ok_iff.2 ⟨h.negated, h.members, .low m⟩
  | some l =>
    refine agree_range.map fun item item' hitem => ?_
    subst hitem
    exact h.add item

theorem agree_beginMember (h : r.Alike r') :
    Agree Alike (r.beginMember position t low) (r'.beginMember position' t low) := by
  cases t with
  | plain c => exact agree_place h
  | escaped c =>
    refine Escape.agree_begin.bind fun progress _ hprogress => ?_
    subst hprogress
    cases progress with
    | more e => exact Agree.ok_iff.2 ⟨h.negated, h.members, .escape ..⟩
    | done e => exact agree_place h
    | before e => exact agree_place h

theorem agree_feedMember (h : r.Alike r') :
    Agree (Progress.Alike Alike Eq) (r.feedMember position t) (r'.feedMember position' t) := by
  unfold feedMember
  rw [h.members, h.close]
  exact .ite (fun _ => Agree.ok_iff.2 (.done rfl)) fun _ =>
    (agree_beginMember h).map fun _ _ h => .more h

theorem agree_feedLow (h : r.Alike r') {low : SetMember} :
    Agree (Progress.Alike Alike Eq) (r.feedLow position t low) (r'.feedLow position' t low) := by
  unfold feedLow
  exact .ite (fun _ => Agree.ok_iff.2 (.more ⟨h.negated, h.members, .hyphen low⟩)) fun _ =>
    agree_feedMember (h.add low.item)

theorem agree_feed (h : r.Alike r') :
    Agree (Progress.Alike Alike Eq) (r.feed position t) (r'.feed position' t) := by
  obtain ⟨start, negated, members, part⟩ := r
  obtain ⟨start', negated', members', part'⟩ := r'
  obtain rfl : negated = negated' := h.negated
  obtain rfl : members = members' := h.members
  have hpart : part.Alike part' := h.part
  cases hpart with
  | escape e token start start' low =>
    refine Escape.agree_feed.bind fun progress _ hprogress => ?_
    subst hprogress
    cases progress with
    | more e => exact Agree.ok_iff.2 (.more ⟨rfl, rfl, .escape ..⟩)
    | done e => exact (agree_place h).map fun _ _ h => .more h
    | before e =>
      refine (agree_place h).bind fun r r' hr => ?_
      obtain ⟨start, negated, members, part⟩ := r
      obtain ⟨start', negated', members', part'⟩ := r'
      have hpart : part.Alike part' := hr.part
      cases hpart with
      | low low => exact agree_feedLow hr
      | _ => exact agree_feedMember hr
  | opened =>
    exact .ite (fun _ => Agree.ok_iff.2 (.more ⟨rfl, rfl, .member⟩)) fun _ => agree_feedMember h
  | member => exact agree_feedMember h
  | low low => exact agree_feedLow h
  | hyphen low =>
    exact .ite (fun _ => Agree.ok_iff.2 (.done rfl)) fun _ =>
      (agree_beginMember h).map fun _ _ h => .more h

end SetReader

inductive Opening.Alike : Opening → Opening → Prop where
  | capture : Alike .capture .capture
  | named (name : List Char) (position position' : Nat) :
    Alike (.named name position) (.named name position')
  | atomic : Alike .atomic .atomic
  | lookahead (negated : Bool) : Alike (.lookahead negated) (.lookahead negated)
  | lookbehind (negated : Bool) : Alike (.lookbehind negated) (.lookbehind negated)
  | conditional (name : List Char) (position position' : Nat) :
    Alike (.conditional name position) (.conditional name position')
  | backref (name : List Char) (position position' : Nat) :
    Alike (.backref name position) (.backref name position')
  | comment : Alike .comment .comment

namespace Header

variable {start start' position position' : Nat} {t : Token} {read : List Char}

/-- What a token of a head comes to, wherever the head stands. -/
abbrev Agrees (x y : Except Failure (Progress Header Opening)) : Prop :=
  Agree (Progress.Alike Eq Opening.Alike) x y

theorem agree_turnOn {flag : Char} :
    Agree Eq (turnOn read flag position) (turnOn read flag position') := by
  unfold turnOn
  repeat' split
  all_goals simp

theorem agree_turnOff {flag : Char} :
    Agree Eq (turnOff read flag position) (turnOff read flag position') := by
  unfold turnOff
  split <;> simp

theorem agree_endName {make : List Char → Nat → Opening}
    (hmake : ∀ place place', (make read place).Alike (make read place')) :
    Agrees (endName read position make) (endName read position' make) :=
  .ite (fun _ => by simp) fun _ => Agree.ok_iff.2 (.done (hmake _ _))

theorem agree_feedExtension : Agrees (feedExtension position t) (feedExtension position' t) := by
  unfold feedExtension
  split
  · exact Agree.ok_iff.2 (.more rfl)
  · exact Agree.ok_iff.2 (.more rfl)
  · exact Agree.ok_iff.2 (.done (.lookahead _))
  · exact Agree.ok_iff.2 (.done (.lookahead _))
  · exact Agree.ok_iff.2 (.more rfl)
  · exact Agree.ok_iff.2 (.more rfl)
  · exact Agree.ok_iff.2 (.done .atomic)
  · exact Agree.ok_iff.2 (.more rfl)
  · split
    · exact agree_turnOn.map fun _ _ h => .more h
    · simp

theorem agree_feedFlagsOn :
    Agrees (feedFlagsOn start position t read) (feedFlagsOn start' position' t read) := by
  unfold feedFlagsOn
  refine .ite (fun _ => by simp) fun _ => .ite (fun _ => .ite (fun _ => by simp) fun _ => ?_)
    fun _ => ?_
  · exact Agree.ok_iff.2 (.more rfl)
  · split
    · exact agree_turnOn.map fun _ _ h => .more h
    · simp

theorem agree_feedFlagsOff :
    Agrees (feedFlagsOff position t read) (feedFlagsOff position' t read) := by
  unfold feedFlagsOff
  split
  · exact agree_turnOff.map fun _ _ h => .more h
  · simp

theorem agree_feed {h : Header} :
    Agrees (h.feed start position t) (h.feed start' position' t) := by
  have more : ∀ next : Header, Agrees (.ok (.more next)) (.ok (.more next)) :=
    fun next => Agree.ok_iff.2 (.more rfl)
  cases h with
  | opened => exact .ite (fun _ => more _) fun _ => Agree.ok_iff.2 (.before .capture)
  | extension => exact agree_feedExtension
  | names => exact .ite (fun _ => more _) fun _ => .ite (fun _ => more _) fun _ => by simp
  | groupName read => exact .ite (fun _ => agree_endName (.named read)) fun _ => more _
  | backrefName read => exact .ite (fun _ => agree_endName (.backref read)) fun _ => more _
  | behind =>
    exact .ite (fun _ => Agree.ok_iff.2 (.done (.lookbehind _))) fun _ =>
      .ite (fun _ => Agree.ok_iff.2 (.done (.lookbehind _))) fun _ => by simp
  | comment => exact .ite (fun _ => Agree.ok_iff.2 (.done .comment)) fun _ => more _
  | condition read => exact .ite (fun _ => agree_endName (.conditional read)) fun _ => more _
  | flagsOn read => exact agree_feedFlagsOn
  | flagsOff read => exact agree_feedFlagsOff

end Header

end PathTemplate.Regex
