import PathTemplate.Proofs.Reading
import PathTemplate.Regex.Compile

/-!
# The failures of reading

Reading the source of an expression fails with a syntax error, with two exceptions: the closing
brace of a repetition of which a bound is larger than can be counted, or has more digits than can be
read as a number, and the last digit of a code that is too large for a machine number.

## Main definitions

* `SyntaxOnly`: a result that can fail with a syntax error only.
* `Bounds.Beyond`: bounds of which one is beyond the limits.
* `Escape.CompletesBeyond`: a token that completes a code beyond the limits.
* `NumberBeyond`: a source in which the reader comes to the end of such a number.

## Main statements

* `Reader.syntaxOnly_feed_iff`: the failures of one token.
* `Reader.syntaxOnly_readAll_iff`: the failures of several.
* `syntaxOnly_compile_iff`: the failures of a whole source.
-/

namespace PathTemplate.Regex

def Failure.IsSyntax (f : Failure) : Prop :=
  ∃ e, f = .syntaxError e

@[simp] theorem Failure.isSyntax_at (flaw : Flaw) (position : Nat) :
    (Failure.at flaw position).IsSyntax :=
  ⟨_, rfl⟩

/-- A result that fails, if it does, with a syntax error. -/
def SyntaxOnly {α : Type} (x : Except Failure α) : Prop :=
  ∀ f, x = .error f → f.IsSyntax

namespace SyntaxOnly

variable {α β : Type}

@[simp] theorem ok (a : α) : SyntaxOnly (.ok a : Except Failure α) := by
  simp [SyntaxOnly]

@[simp] theorem error_iff {f : Failure} :
    SyntaxOnly (.error f : Except Failure α) ↔ f.IsSyntax := by
  simp [SyntaxOnly]

@[simp] theorem map_iff {x : Except Failure α} {g : α → β} :
    SyntaxOnly (x.map g) ↔ SyntaxOnly x := by
  cases x <;> simp [Except.map]

/-- A first step can fail in its own way, and otherwise the second in the way that is left to it. -/
theorem bind_iff {x : Except Failure α} {g : α → Except Failure β} :
    SyntaxOnly (x.bind g) ↔ SyntaxOnly x ∧ ∀ a, x = .ok a → SyntaxOnly (g a) := by
  cases x <;> simp [Except.bind]

theorem bind {x : Except Failure α} {g : α → Except Failure β} (hx : SyntaxOnly x)
    (hg : ∀ a, SyntaxOnly (g a)) : SyntaxOnly (x.bind g) :=
  bind_iff.2 ⟨hx, fun a _ => hg a⟩

end SyntaxOnly

/-! ## Escapes -/

namespace Escape

@[simp] theorem syntaxOnly_begin (inSet : Bool) (start : Nat) (c : Char) :
    SyntaxOnly (begin inSet start c) := by
  unfold begin
  repeat' split
  all_goals simp

@[simp] theorem syntaxOnly_octalCode (start : Nat) (digits : List Char) :
    SyntaxOnly (octalCode start digits) := by
  unfold octalCode
  split <;> simp

@[simp] theorem syntaxOnly_hexCode_iff {start : Nat} {mark : Char} {digits : List Char} :
    SyntaxOnly (hexCode start mark digits) ↔ Text.ofHex digits < codeLimit := by
  unfold hexCode
  split
  · next h => simp [Failure.IsSyntax, Nat.not_lt.2 h]
  · next h =>
    rw [Nat.not_le] at h
    split <;> simp [h]

@[simp] theorem syntaxOnly_namedCode (start position : Nat) (name : List Char) :
    SyntaxOnly (namedCode start position name) := by
  unfold namedCode
  split
  · simp
  · split <;> simp

/-- A token that is the last digit of a code beyond the limits. -/
def CompletesBeyond (e : Escape) (t : Token) : Prop :=
  ∃ mark digits missing c, e = hex mark digits missing ∧ t.plain? = some c ∧
    (Text.hexValue? c).isSome ∧ missing ≤ 1 ∧ codeLimit ≤ Text.ofHex (digits ++ [c])

theorem syntaxOnly_feed_iff {start position : Nat} {e : Escape} {t : Token} :
    SyntaxOnly (e.feed start position t) ↔ ¬e.CompletesBeyond t := by
  cases e with
  | hex mark digits missing =>
    have hcompletes (c : Char) (hc : t.plain? = some c) :
        (hex mark digits missing).CompletesBeyond t ↔ (Text.hexValue? c).isSome ∧ missing ≤ 1 ∧
          codeLimit ≤ Text.ofHex (digits ++ [c]) := by
      simp [CompletesBeyond, hc]
    simp only [feed]
    split
    · next c hc =>
      rw [hcompletes c hc]
      repeat' split
      all_goals simp [*]
    · next hc => simp [CompletesBeyond, hc]
  | _ =>
    simp only [CompletesBeyond, reduceCtorEq, false_and, exists_false, not_false_eq_true, iff_true,
      feed]
    repeat' split
    all_goals simp

@[simp] theorem syntaxOnly_finish (start position : Nat) (e : Escape) :
    SyntaxOnly (e.finish start position) := by
  unfold finish
  repeat' split
  all_goals simp

end Escape

/-! ## Character sets -/

namespace SetReader

@[simp] theorem syntaxOnly_range (low high : SetMember) (stop : Nat) :
    SyntaxOnly (range low high stop) := by
  unfold range
  dsimp only
  repeat' split
  all_goals simp

@[simp] theorem syntaxOnly_place (r : SetReader) (m : SetMember) (low : Option SetMember)
    (stop : Nat) : SyntaxOnly (r.place m low stop) := by
  unfold place
  split <;> simp

@[simp] theorem syntaxOnly_beginMember (r : SetReader) (position : Nat) (t : Token)
    (low : Option SetMember) : SyntaxOnly (r.beginMember position t low) := by
  unfold beginMember
  split
  · simp
  · exact .bind (by simp) fun progress => by cases progress <;> simp

@[simp] theorem syntaxOnly_feedMember (r : SetReader) (position : Nat) (t : Token) :
    SyntaxOnly (r.feedMember position t) := by
  unfold feedMember
  split <;> simp

@[simp] theorem syntaxOnly_feedLow (r : SetReader) (position : Nat) (t : Token)
    (low : SetMember) : SyntaxOnly (r.feedLow position t low) := by
  unfold feedLow
  split <;> simp

def CompletesBeyond (r : SetReader) (t : Token) : Prop :=
  ∃ e token start low, r.part = .escape e token start low ∧ e.CompletesBeyond t

theorem syntaxOnly_feed_iff {r : SetReader} {position : Nat} {t : Token} :
    SyntaxOnly (r.feed position t) ↔ ¬r.CompletesBeyond t := by
  unfold feed CompletesBeyond
  split
  · next h => split <;> simp [h]
  · next h => simp [h]
  · next h => simp [h]
  · next h => split <;> simp [h]
  · next e token start low h =>
    have hcompletes : (∃ e' token' start' low', r.part = .escape e' token' start' low' ∧
        e'.CompletesBeyond t) ↔ e.CompletesBeyond t := by
      simp [h]
    rw [hcompletes, ← Escape.syntaxOnly_feed_iff]
    refine SyntaxOnly.bind_iff.trans (and_iff_left fun progress _ => ?_)
    cases progress with
    | more e => simp
    | done e => simp
    | before e =>
      refine .bind (by simp) fun r => ?_
      split <;> simp

@[simp] theorem isSyntax_finish (r : SetReader) (position : Nat) :
    (r.finish position).IsSyntax := by
  unfold finish
  dsimp only
  split
  · split
    · next h => exact Escape.syntaxOnly_finish _ _ _ _ h
    · split
      · next h => exact syntaxOnly_place _ _ _ _ _ h
      · simp
  · simp

end SetReader

/-! ## Heads of groups -/

namespace Header

@[simp] theorem syntaxOnly_turnOn (read : List Char) (flag : Char) (position : Nat) :
    SyntaxOnly (turnOn read flag position) := by
  unfold turnOn
  repeat' split
  all_goals simp

@[simp] theorem syntaxOnly_turnOff (read : List Char) (flag : Char) (position : Nat) :
    SyntaxOnly (turnOff read flag position) := by
  unfold turnOff
  split <;> simp

@[simp] theorem isSyntax_notAFlag (t : Token) (position : Nat) (otherwise : Flaw) :
    (notAFlag t position otherwise).IsSyntax :=
  Failure.isSyntax_at ..

@[simp] theorem syntaxOnly_endName (read : List Char) (position : Nat)
    (make : List Char → Nat → Opening) : SyntaxOnly (endName read position make) := by
  unfold endName
  split <;> simp

@[simp] theorem syntaxOnly_feedExtension (position : Nat) (t : Token) :
    SyntaxOnly (feedExtension position t) := by
  unfold feedExtension
  repeat' split
  all_goals simp

@[simp] theorem syntaxOnly_feed (start position : Nat) (h : Header) (t : Token) :
    SyntaxOnly (h.feed start position t) := by
  unfold feed feedFlagsOn feedFlagsOff
  repeat' split
  all_goals simp

@[simp] theorem isSyntax_finish (start position : Nat) (h : Header) :
    (h.finish start position).IsSyntax := by
  unfold finish unfinishedName
  repeat' split
  all_goals simp

end Header

/-! ## Items and groups -/

namespace Reader

@[simp] theorem syntaxOnly_checkBehind (r : Reader) (number position : Nat) :
    SyntaxOnly (r.checkBehind number position) := by
  unfold checkBehind
  repeat' split
  all_goals simp

@[simp] theorem syntaxOnly_pushBackref (r : Reader) (number start stop : Nat) :
    SyntaxOnly (r.pushBackref number start stop) := by
  unfold pushBackref
  split <;> simp

@[simp] theorem syntaxOnly_placeEscape (r : Reader) (start stop : Nat) (e : Escaped) :
    SyntaxOnly (r.placeEscape start stop e) := by
  unfold placeEscape
  repeat' split
  all_goals simp

@[simp] theorem syntaxOnly_repeatLast (r : Reader) (least : Nat) (most : Option Nat)
    (start : Nat) : SyntaxOnly (r.repeatLast least most start) := by
  unfold repeatLast
  split <;> simp

@[simp] theorem syntaxOnly_closeFrame (r : Reader) : SyntaxOnly r.closeFrame := by
  unfold closeFrame
  split <;> simp

@[simp] theorem syntaxOnly_nextBranch (r : Reader) : SyntaxOnly r.nextBranch := by
  unfold nextBranch
  split <;> simp

@[simp] theorem syntaxOnly_conditionGroup (r : Reader) (name : List Char) (position : Nat) :
    SyntaxOnly (r.conditionGroup name position) := by
  unfold conditionGroup
  repeat' split
  all_goals simp

@[simp] theorem syntaxOnly_openGroup (r : Reader) (start : Nat) (opening : Opening) :
    SyntaxOnly (r.openGroup start opening) := by
  cases opening with
  | conditional name position =>
    refine .bind (by simp) fun number => ?_
    exact .bind (by simp) fun _ => .ok _
  | named name position =>
    simp only [openGroup, openNamed]
    repeat' split
    all_goals simp
  | backref name position =>
    simp only [openGroup, namedBackref]
    repeat' split
    all_goals simp
  | _ => exact .ok _

@[simp] theorem syntaxOnly_feedItem (r : Reader) (t : Token) : SyntaxOnly (r.feedItem t) := by
  unfold feedItem
  split
  · exact .bind (by simp) fun progress => by cases progress <;> simp
  all_goals simp

@[simp] theorem syntaxOnly_feedRepeated (r : Reader) (t : Token) :
    SyntaxOnly (r.feedRepeated t) := by
  unfold feedRepeated
  split <;> simp

end Reader

/-! ## Bounds -/

def BoundBeyond (digits : List Char) : Prop :=
  Text.digitLimit < digits.length ∨ repeatLimit ≤ Escape.ofDecimal digits

/-- Bounds of which one is too long or too large. Without a comma, the lower one is also the upper
one. -/
def Bounds.Beyond (b : Bounds) : Prop :=
  BoundBeyond b.least ∨ BoundBeyond (b.most.getD b.least)

theorem not_boundBeyond_nil : ¬BoundBeyond [] := by
  simp [BoundBeyond, Text.digitLimit, repeatLimit, Escape.ofDecimal]

namespace Reader

theorem boundOf_eq (digits : List Char) :
    (BoundBeyond digits ∧ ∃ f, boundOf digits = .error f ∧ ¬f.IsSyntax) ∨
      (¬BoundBeyond digits ∧ ∃ n, boundOf digits = .ok n) := by
  unfold boundOf BoundBeyond
  split
  · next h => exact .inl ⟨.inl h, _, rfl, by simp [Failure.IsSyntax]⟩
  · next h =>
    dsimp only
    split
    · next hn => exact .inl ⟨.inr hn, _, rfl, by simp [Failure.IsSyntax]⟩
    · next hn => exact .inr ⟨by simp [h, hn], _, rfl⟩

theorem syntaxOnly_boundOf_iff {digits : List Char} :
    SyntaxOnly (boundOf digits) ↔ ¬BoundBeyond digits := by
  rcases boundOf_eq digits with ⟨hb, f, hf, hs⟩ | ⟨hb, n, hn⟩
  · simp [hf, hs, hb]
  · simp [hn, hb]

/-- A bound that may be missing is refused as one that is there, since no digits are no bound
beyond the limits. -/
theorem syntaxOnly_unless_empty {α : Type} {digits : List Char} {a : α} {x : Except Failure α}
    (h : SyntaxOnly x ↔ ¬BoundBeyond digits) :
    SyntaxOnly (if digits.isEmpty then .ok a else x) ↔ ¬BoundBeyond digits := by
  cases digits with
  | nil => simpa using not_boundBeyond_nil
  | cons c digits => simpa using h

theorem syntaxOnly_closeBounds_iff {r : Reader} {b : Bounds} :
    SyntaxOnly (r.closeBounds b) ↔ ¬b.Beyond := by
  have hmost : SyntaxOnly (if (b.most.getD b.least).isEmpty then .ok none
      else (boundOf (b.most.getD b.least)).map some) ↔ ¬BoundBeyond (b.most.getD b.least) :=
    syntaxOnly_unless_empty (SyntaxOnly.map_iff.trans syntaxOnly_boundOf_iff)
  rw [closeBounds_eq, SyntaxOnly.bind_iff, syntaxOnly_unless_empty syntaxOnly_boundOf_iff,
    Bounds.Beyond, not_or]
  refine and_congr_right fun hleast => ⟨fun h => ?_, fun hm least _ => ?_⟩
  · obtain ⟨least, hok⟩ :
        ∃ least, (if b.least.isEmpty then .ok 0 else boundOf b.least) = .ok least := by
      split
      · exact ⟨0, rfl⟩
      · exact ((boundOf_eq b.least).resolve_left fun hb => hleast hb.1).2
    exact hmost.1 (SyntaxOnly.bind_iff.1 (h least hok)).1
  · refine SyntaxOnly.bind_iff.2 ⟨hmost.2 hm, fun most _ => ?_⟩
    split <;> simp

/-! ## Tokens -/

/-- A token that completes a number beyond the limits: the closing brace of bounds, or the last
digit of a code, inside a set or not. -/
inductive CompletesBeyond (r : Reader) (t : Token) : Prop where
  | bounds (b : Bounds) (hmode : r.mode = .bounds b) (hclose : t = .plain '\x7d')
    (hbeyond : b.Beyond)
  | code (start : Nat) (e : Escape) (hmode : r.mode = .escape start e)
    (hbeyond : e.CompletesBeyond t)
  | codeInSet (s : SetReader) (hmode : r.mode = .set s) (hbeyond : s.CompletesBeyond t)

theorem not_beyond_of_empty {b : Bounds} (h : b.least.isEmpty ∧ b.most.isNone) : ¬b.Beyond := by
  obtain ⟨hleast, hmost⟩ := h
  rw [List.isEmpty_iff] at hleast
  rw [Option.isNone_iff_eq_none] at hmost
  simpa [Bounds.Beyond, hleast, hmost] using not_boundBeyond_nil

theorem syntaxOnly_feedBounds_iff {r : Reader} {b : Bounds} {t : Token} :
    SyntaxOnly (r.feedBounds b t) ↔ ¬(t = .plain '\x7d' ∧ b.Beyond) := by
  unfold feedBounds
  split
  · split
    · next h => simpa using not_beyond_of_empty h
    · simpa using syntaxOnly_closeBounds_iff
  · split <;> simp
  · next c hclose _ =>
    have hne : c ≠ '\x7d' := fun h => hclose (h ▸ rfl)
    repeat' split
    all_goals simp [hne]
  · next hclose _ _ => simpa using fun h => absurd h hclose

/-- Which number a token can complete depends on the construct in the middle. -/
theorem completesBeyond_iff {r : Reader} {t : Token} :
    r.CompletesBeyond t ↔
      match r.mode with
      | .bounds b => t = .plain '\x7d' ∧ b.Beyond
      | .escape _ e => e.CompletesBeyond t
      | .set s => s.CompletesBeyond t
      | _ => False := by
  constructor
  · rintro (⟨b, hmode, hclose, hbeyond⟩ | ⟨start, e, hmode, hbeyond⟩ | ⟨s, hmode, hbeyond⟩)
    all_goals rw [hmode]
    · exact ⟨hclose, hbeyond⟩
    · exact hbeyond
    · exact hbeyond
  · intro h
    split at h
    · next b hmode => exact .bounds b hmode h.1 h.2
    · next start e hmode => exact .code start e hmode h
    · next s hmode => exact .codeInSet s hmode h
    · exact h.elim

theorem syntaxOnly_step_iff {r : Reader} {t : Token} :
    SyntaxOnly (r.step t) ↔ ¬r.CompletesBeyond t := by
  rw [completesBeyond_iff]
  unfold step
  cases hmode : r.mode with
  | item => simp
  | repeated => simp
  | bounds b => exact syntaxOnly_feedBounds_iff
  | escape start e =>
    refine (SyntaxOnly.bind_iff.trans (and_iff_left fun progress _ => ?_)).trans
      Escape.syntaxOnly_feed_iff
    cases progress with
    | before e => exact .bind (by simp) (by simp)
    | _ => simp
  | set s =>
    refine (SyntaxOnly.bind_iff.trans (and_iff_left fun progress _ => ?_)).trans
      SetReader.syntaxOnly_feed_iff
    cases progress <;> simp
  | header start head =>
    simp only [not_false_eq_true, iff_true]
    refine .bind (by simp) fun progress => ?_
    cases progress with
    | before opening => exact .bind (by simp) (by simp)
    | _ => simp

/-- One token fails with a syntax error only, unless it completes a number beyond the limits. -/
theorem syntaxOnly_feed_iff {r : Reader} {t : Token} :
    SyntaxOnly (r.feed t) ↔ ¬r.CompletesBeyond t := by
  rw [feed, SyntaxOnly.map_iff, syntaxOnly_step_iff]

/-- Among tokens there is one that completes a number beyond the limits, and the reader comes to
it. -/
def ReachesBeyond (r : Reader) (ts : List Token) : Prop :=
  ∃ front t rest reached,
    ts = front ++ t :: rest ∧ r.readAll front = .ok reached ∧ reached.CompletesBeyond t

theorem not_reachesBeyond_nil (r : Reader) : ¬r.ReachesBeyond [] := by
  rintro ⟨front, t, rest, -, h, -⟩
  simp at h

theorem reachesBeyond_cons {r : Reader} {t : Token} {ts : List Token} :
    r.ReachesBeyond (t :: ts) ↔
      r.CompletesBeyond t ∨ ∃ next, r.feed t = .ok next ∧ next.ReachesBeyond ts := by
  constructor
  · rintro ⟨front, u, rest, reached, hts, hread, hcloses⟩
    cases front with
    | nil =>
      obtain ⟨rfl, -⟩ := List.cons.inj hts
      obtain rfl := Except.ok.inj hread
      exact .inl hcloses
    | cons t' front =>
      obtain ⟨rfl, rfl⟩ := List.cons.inj hts
      obtain ⟨next, hnext, hread⟩ := bind_eq_ok.1 hread
      exact .inr ⟨next, hnext, front, u, rest, reached, rfl, hread, hcloses⟩
  · rintro (hcloses | ⟨next, hnext, front, u, rest, reached, rfl, hread, hcloses⟩)
    · exact ⟨[], t, ts, r, rfl, rfl, hcloses⟩
    · refine ⟨t :: front, u, rest, reached, rfl, ?_, hcloses⟩
      rw [readAll_cons, hnext]
      exact hread

/-- Tokens are read with nothing but a syntax error, unless the reader comes to the end of a number
beyond the limits. -/
theorem syntaxOnly_readAll_iff {r : Reader} {ts : List Token} :
    SyntaxOnly (r.readAll ts) ↔ ¬r.ReachesBeyond ts := by
  induction ts generalizing r with
  | nil => simpa using r.not_reachesBeyond_nil
  | cons t ts ih =>
    rw [readAll_cons, SyntaxOnly.bind_iff, syntaxOnly_feed_iff, reachesBeyond_cons, not_or,
      not_exists]
    simp only [ih, not_and]

@[simp] theorem syntaxOnly_settle (r : Reader) : SyntaxOnly r.settle := by
  unfold settle
  split
  · simp
  · simp
  · simp
  · exact .bind (by simp) (by simp)
  · simp
  · simp

@[simp] theorem syntaxOnly_result (r : Reader) : SyntaxOnly r.result := by
  unfold result
  split
  · simp
  · split <;> simp

end Reader

/-! ## Sources -/

@[simp] theorem syntaxOnly_checkLookbehind (w : Width) : SyntaxOnly (checkLookbehind w) := by
  unfold checkLookbehind
  repeat' split
  all_goals simp [Failure.IsSyntax]

@[simp] theorem syntaxOnly_checkLookbehinds (e : Expr) : SyntaxOnly (checkLookbehinds e) := by
  unfold checkLookbehinds
  induction e.lookbehinds with
  | nil => exact .ok ()
  | cons w ws ih => exact .bind (syntaxOnly_checkLookbehind w) fun _ => ih

def NumberBeyond (source : List Char) : Prop :=
  ∃ tokens, Token.ofSource? source = some tokens ∧ Reader.empty.ReachesBeyond tokens

theorem syntaxOnly_readSource_iff {source : List Char} :
    SyntaxOnly (readSource source) ↔ ¬NumberBeyond source := by
  unfold readSource NumberBeyond
  split
  · next h => simp [h]
  · next tokens h => simp [h, Reader.syntaxOnly_readAll_iff]

/-- A source is compiled with nothing but a syntax error, unless the reader comes to the end of a
number beyond the limits. -/
theorem syntaxOnly_compile_iff {source : List Char} :
    SyntaxOnly (compile source) ↔ ¬NumberBeyond source := by
  refine Iff.trans ?_ syntaxOnly_readSource_iff
  refine SyntaxOnly.bind_iff.trans (and_iff_left fun reader _ => ?_)
  refine .bind (by simp) fun settled => .bind (by simp) fun body => ?_
  exact .bind (by simp) fun _ => .ok _

end PathTemplate.Regex
