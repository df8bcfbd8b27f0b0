import PathTemplate.Proofs.Numbering

/-!
# Where groups stand in a source

Reading notes of each group where its parentheses stand. A group spans the source from the
parenthesis that opened it to the one that closed it, and a parenthesis opens something only if it
is read between two items.

## Main definitions

* `Span`: a group with its number and the places where it begins and ends.
* `Reader.closing?`, `Reader.opening?`: what a token closes, and where one opens something.
* `Reader.trace`: what is noted of each token while a source is read.
* `sourceSpans`, `sourceOpenings`: the groups of a source, and the parentheses that open something.

## Main statements

* `Reader.trace_append`: reading goes on where it stopped, and so do the notes.
* `Reader.exists_split_of_mem_trace`: a note splits the tokens where it was made.
* `Reader.start_of_closing`: a group begins at a parenthesis that opened something.
* `Reader.trace_closing?_eq_nil`: no group closes where none is open and none opens.
-/

namespace PathTemplate.Regex

/-- A capturing group of a source, and the places in front of it and behind it. -/
structure Span where
  number : Nat
  start : Nat
  stop : Nat
deriving DecidableEq, Repr

/-- Tokens that are read in the middle of a source are the tokens of what follows. -/
theorem Token.ofSource?_suffix {source : List Char} {tokens more : List Token}
    (h : Token.ofSource? source = some (tokens ++ more)) :
    ∃ rest, source = tokens.flatMap Token.text ++ rest ∧ Token.ofSource? rest = some more := by
  fun_induction Token.ofSource? source generalizing tokens with
  | case1 =>
    obtain ⟨rfl, rfl⟩ := List.append_eq_nil_iff.1 (Option.some.inj h).symm
    exact ⟨[], rfl, rfl⟩
  | case2 c rest ih =>
    obtain ⟨ts, hts, heq⟩ := Option.map_eq_some_iff.1 h
    cases tokens with
    | nil => exact ⟨_, rfl, by rw [Token.ofSource?_escaped, hts, Option.map_some, heq]; rfl⟩
    | cons t tokens =>
      obtain ⟨rfl, rfl⟩ := List.cons.inj heq
      obtain ⟨more, rfl, hmore⟩ := ih hts
      exact ⟨more, by simp [Token.text], hmore⟩
  | case3 => simp at h
  | case4 c rest hback hc ih =>
    obtain ⟨ts, hts, heq⟩ := Option.map_eq_some_iff.1 h
    cases tokens with
    | nil => exact ⟨_, rfl, by rw [Token.ofSource?_plain hc, hts, Option.map_some, heq]; rfl⟩
    | cons t tokens =>
      obtain ⟨rfl, rfl⟩ := List.cons.inj heq
      obtain ⟨more, rfl, hmore⟩ := ih hts
      exact ⟨more, by simp [Token.text], hmore⟩

namespace Reader

/-- The capturing group that a token closes. -/
def closing? (r : Reader) (t : Token) : Option Span :=
  if t = .plain ')' then
    (r.between? t).bind fun r₀ => r₀.frames.head?.bind fun frame =>
      frame.kind.number?.map fun number => ⟨number, frame.start, r.position + 1⟩
  else none

/-- The place of a parenthesis that opens something. -/
def opening? (r : Reader) (t : Token) : Option Nat :=
  if t = .plain '(' then (r.between? t).map fun _ => r.position else none

section

variable {α : Type}

/-- What is noted of each token, up to the first that is refused. -/
def trace (note : Reader → Token → Option α) (r : Reader) : List Token → List α
  | [] => []
  | t :: tokens =>
    (note r t).toList ++
      match r.feed t with
      | .ok next => next.trace note tokens
      | .error _ => []

variable {note : Reader → Token → Option α} {r r' : Reader} {tokens more : List Token}

theorem trace_cons {t : Token} (h : r.feed t = .ok r') :
    r.trace note (t :: tokens) = (note r t).toList ++ r'.trace note tokens := by
  rw [trace, h]

theorem trace_eq_nil (h : ∀ t ∈ tokens, ∀ r, note r t = none) (r : Reader) :
    r.trace note tokens = [] := by
  induction tokens generalizing r with
  | nil => rfl
  | cons t tokens ih =>
    rw [trace, h t (List.mem_cons_self ..)]
    split
    · exact ih (fun u hu => h u (List.mem_cons_of_mem _ hu)) _
    · rfl

/-- Reading goes on where it stopped, and so do the notes. -/
theorem trace_append (h : r.readAll tokens = .ok r') :
    r.trace note (tokens ++ more) = r.trace note tokens ++ r'.trace note more := by
  induction tokens generalizing r with
  | nil =>
    obtain rfl := Except.ok.inj h
    rfl
  | cons t tokens ih =>
    obtain ⟨next, hfeed, hrest⟩ := bind_eq_ok.1 h
    rw [List.cons_append, trace_cons hfeed, trace_cons hfeed, ih hrest, List.append_assoc]

/-- A note splits the tokens where it was made. -/
theorem exists_split_of_mem_trace (h : r.readAll tokens = .ok r') {x : α}
    (hx : x ∈ r.trace note tokens) :
    ∃ before t rest next, tokens = before ++ t :: rest ∧ r.readAll before = .ok next ∧
      note next t = some x := by
  induction tokens generalizing r with
  | nil => simp [trace] at hx
  | cons t tokens ih =>
    obtain ⟨next, hfeed, hrest⟩ := bind_eq_ok.1 h
    rw [trace_cons hfeed, List.mem_append, Option.mem_toList] at hx
    rcases hx with hx | hx
    · exact ⟨[], t, tokens, r, rfl, rfl, hx⟩
    · obtain ⟨before, u, rest, last, rfl, hread, hnote⟩ := ih hrest hx
      refine ⟨t :: before, u, rest, last, rfl, ?_, hnote⟩
      rw [readAll_cons, hfeed]
      exact hread

end

/-! ## Places -/

section

variable {r r' r₀ : Reader} {t : Token} {tokens : List Token}

theorem position_readAll (h : r.readAll tokens = .ok r') :
    r'.position = r.position + (tokens.flatMap Token.text).length := by
  induction tokens generalizing r with
  | nil =>
    obtain rfl := Except.ok.inj h
    rfl
  | cons t tokens ih =>
    obtain ⟨next, hfeed, hrest⟩ := bind_eq_ok.1 h
    obtain ⟨_, -, rfl⟩ := map_eq_ok.1 hfeed
    rw [ih hrest, List.flatMap_cons, List.length_append, Token.length_text, Nat.add_assoc]

theorem position_placeEscape {start stop : Nat} {e : Escaped}
    (h : r.placeEscape start stop e = .ok r') :
    r'.position = r.position ∧ r'.mode = .item := by
  obtain ⟨item, -, rfl⟩ := exists_push_of_placeEscape h
  exact ⟨rfl, rfl⟩

theorem position_openGroup {start : Nat} {opening : Opening}
    (h : r.openGroup start opening = .ok r') : r'.position = r.position ∧ r'.mode = .item := by
  cases opening with
  | named name position =>
    simp only [openGroup, openNamed] at h
    split at h
    · simp at h
    · split at h
      · simp at h
      · obtain rfl := Except.ok.inj h
        exact ⟨rfl, rfl⟩
  | conditional name position =>
    obtain ⟨number, -, h⟩ := bind_eq_ok.1 h
    obtain ⟨_, -, h⟩ := bind_eq_ok.1 h
    obtain rfl := Except.ok.inj h
    exact ⟨rfl, rfl⟩
  | backref name position =>
    simp only [openGroup, namedBackref] at h
    split at h
    · simp at h
    · split at h
      · obtain rfl := eq_of_pushBackref h
        exact ⟨rfl, rfl⟩
      · simp at h
  | _ =>
    obtain rfl := Except.ok.inj h
    exact ⟨rfl, rfl⟩

theorem position_between? (h : r.between? t = some r₀) :
    r₀.position = r.position ∧ r₀.mode = .item := by
  unfold between? at h
  split at h
  · next hm =>
    obtain rfl := Option.some.inj h
    exact ⟨rfl, hm⟩
  · split at h
    · simp at h
    · obtain rfl := Option.some.inj h
      exact ⟨rfl, rfl⟩
  · obtain rfl := eq_of_leaveBounds? h
    exact ⟨rfl, rfl⟩
  · split at h
    · exact position_placeEscape (toOption_eq_some.1 h)
    · simp at h
  · split at h
    · obtain rfl := Option.some.inj h
      exact ⟨rfl, rfl⟩
    · simp at h
  · split at h
    · exact position_openGroup (toOption_eq_some.1 h)
    · simp at h

theorem mode_setManner (r : Reader) (manner : Manner) : (r.setManner manner).mode = .item := by
  unfold setManner
  split <;> rfl

/-- Between two items only a parenthesis begins a head, and it begins where it stands. -/
theorem header_of_feedItem (h : r.feedItem t = .ok r') {start : Nat} (hm : r'.HeaderAt start) :
    t = .plain '(' ∧ start = r.position := by
  obtain ⟨head, hm⟩ := hm
  unfold feedItem at h
  split at h
  · obtain ⟨progress, -, h⟩ := bind_eq_ok.1 h
    cases progress with
    | more e =>
      obtain rfl := Except.ok.inj h
      cases hm
    | done e => simp [(position_placeEscape h).2] at hm
    | before e => simp [(position_placeEscape h).2] at hm
  · obtain ⟨rfl, -⟩ := nextBranch_eq_ok h
    cases hm
  · obtain ⟨_, _, -, -, -, -, -, hmode⟩ := closeFrame_eq_ok h
    simp [hmode] at hm
  · obtain rfl := Except.ok.inj h
    cases hm
  · obtain rfl := Except.ok.inj h
    cases hm
    exact ⟨rfl, rfl⟩
  · obtain rfl := Except.ok.inj h
    cases hm
  · obtain ⟨_, _, -, rfl⟩ := repeatLast_eq_ok h
    cases hm
  · obtain ⟨_, _, -, rfl⟩ := repeatLast_eq_ok h
    cases hm
  · obtain ⟨_, _, -, rfl⟩ := repeatLast_eq_ok h
    cases hm
  all_goals
    obtain rfl := Except.ok.inj h
    cases hm

theorem not_header_of_feedBounds {b : Bounds} (hnone : r.leaveBounds? b t = none)
    (h : r.feedBounds b t = .ok r') (start : Nat) : ¬r'.HeaderAt start := by
  rintro ⟨head, hm⟩
  unfold feedBounds at h
  split at h
  · split at h
    · obtain rfl := Except.ok.inj h
      cases hm
    · obtain ⟨least, most, h⟩ := repeatLast_of_closeBounds h
      obtain ⟨_, _, -, rfl⟩ := repeatLast_eq_ok h
      cases hm
  · split at h
    · obtain rfl := Except.ok.inj h
      cases hm
    · next hmost => simp [leaveBounds?, hmost] at hnone
  · split at h
    · split at h
      · obtain rfl := Except.ok.inj h
        cases hm
      · obtain rfl := Except.ok.inj h
        cases hm
    · next hdigit => simp [leaveBounds?, hdigit] at hnone
  · unfold leaveBounds? at hnone
    split at hnone <;> simp_all

theorem header_of_between?_eq_none (hnone : r.between? t = none) (h : r.step t = .ok r')
    {start : Nat} (hm : r'.HeaderAt start) : r.HeaderAt start := by
  obtain ⟨head, hm⟩ := hm
  unfold step at h
  unfold between? at hnone
  split at h
  · next hmode => simp [hmode] at hnone
  · next hmode =>
    rw [hmode] at hnone
    dsimp only at hnone
    split at hnone
    · next ht =>
      rcases ht with rfl | rfl
      · obtain rfl := Except.ok.inj h
        simp [mode_setManner] at hm
      · obtain rfl := Except.ok.inj h
        simp [mode_setManner] at hm
    · simp at hnone
  · next b hmode =>
    rw [hmode] at hnone
    exact absurd ⟨head, hm⟩ (not_header_of_feedBounds hnone h start)
  · next start' e hmode =>
    rw [hmode] at hnone
    obtain ⟨progress, hfeed, h⟩ := bind_eq_ok.1 h
    dsimp only at hnone
    rw [hfeed] at hnone
    cases progress with
    | more e =>
      obtain rfl := Except.ok.inj h
      cases hm
    | done e => simp [(position_placeEscape h).2] at hm
    | before e =>
      obtain ⟨r₀, hplace, -⟩ := bind_eq_ok.1 h
      simp [hplace, Except.toOption] at hnone
  · next s hmode =>
    rw [hmode] at hnone
    obtain ⟨progress, hfeed, h⟩ := bind_eq_ok.1 h
    dsimp only at hnone
    rw [hfeed] at hnone
    cases progress with
    | more s =>
      obtain rfl := Except.ok.inj h
      cases hm
    | done test =>
      obtain rfl := Except.ok.inj h
      cases hm
    | before test => simp at hnone
  · next start' hd hmode =>
    rw [hmode] at hnone
    obtain ⟨progress, hfeed, h⟩ := bind_eq_ok.1 h
    dsimp only at hnone
    rw [hfeed] at hnone
    cases progress with
    | more hd' =>
      obtain rfl := Except.ok.inj h
      cases hm
      exact ⟨hd, hmode⟩
    | done opening => simp [(position_openGroup h).2] at hm
    | before opening =>
      obtain ⟨r₀, hopen, -⟩ := bind_eq_ok.1 h
      simp [hopen, Except.toOption] at hnone

/-! ## Where groups begin -/

/-- Every open group, and the head in the middle, began at one of some places. -/
def StartsIn (r : Reader) (places : Nat → Prop) : Prop :=
  (∀ frame ∈ r.frames, places frame.start) ∧ ∀ start, r.HeaderAt start → places start

theorem Edit.mem_frames {allowed : Nat → Prop} (h : Edit allowed r r') {frame : Frame}
    (hf : frame ∈ r'.frames) : frame ∈ r.frames ∨ allowed frame.start := by
  cases h with
  | keep frames _ _ _ => exact .inl (frames ▸ hf)
  | branch h =>
    obtain ⟨rfl, -⟩ := nextBranch_eq_ok h
    exact .inl hf
  | openFrame hs _ frames _ _ _ =>
    rw [frames] at hf
    rcases List.mem_cons.1 hf with rfl | hf
    · exact .inr hs
    · exact .inl hf
  | openCapture hs frames _ _ _ =>
    rw [frames] at hf
    rcases List.mem_cons.1 hf with rfl | hf
    · exact .inr hs
    · exact .inl hf
  | close h =>
    obtain ⟨frame', frames, hframes, hframes', -⟩ := closeFrame_eq_ok h
    rw [hframes'] at hf
    exact .inl (hframes ▸ List.mem_cons_of_mem _ hf)

theorem Edits.mem_frames {allowed : Nat → Prop} (h : Edits allowed r r') {frame : Frame}
    (hf : frame ∈ r'.frames) : frame ∈ r.frames ∨ allowed frame.start := by
  induction h with
  | refl => exact .inl hf
  | tail _ hedit ih =>
    rcases hedit.mem_frames hf with hf | hs
    · exact ih hf
    · exact .inr hs

theorem header_of_feed (h : r.feed t = .ok r') {start : Nat} (hm : r'.HeaderAt start) :
    r.HeaderAt start ∨ r.opening? t = some start := by
  obtain ⟨next, hstep, rfl⟩ := map_eq_ok.1 h
  cases hb : r.between? t with
  | none => exact .inl (header_of_between?_eq_none hb hstep hm)
  | some r₀ =>
    rw [step_of_between? hb] at hstep
    obtain ⟨rfl, rfl⟩ := header_of_feedItem hstep hm
    right
    rw [opening?, if_pos rfl, hb, (position_between? hb).1]
    rfl

/-- Groups and heads begin where a parenthesis opens something. -/
theorem StartsIn.feed {places : Nat → Prop} (hr : r.StartsIn places) (h : r.feed t = .ok r') :
    r'.StartsIn fun start => places start ∨ r.opening? t = some start := by
  constructor
  · intro frame hf
    rcases (feed_edits h).mem_frames hf with hf | hs
    · exact .inl (hr.1 frame hf)
    · exact .inl (hr.2 _ hs)
  · intro start hm
    rcases header_of_feed h hm with hm | hs
    · exact .inl (hr.2 start hm)
    · exact .inr hs

theorem closing?_eq_some {span : Span} (h : r.closing? t = some span) :
    t = .plain ')' ∧ ∃ r₀ frame frames, r.between? t = some r₀ ∧ r₀.frames = frame :: frames ∧
      frame.kind.number? = some span.number ∧ frame.start = span.start := by
  unfold closing? at h
  split at h
  · next ht =>
    obtain ⟨r₀, hb, h⟩ := Option.bind_eq_some_iff.1 h
    obtain ⟨frame, hhead, h⟩ := Option.bind_eq_some_iff.1 h
    obtain ⟨number, hnumber, rfl⟩ := Option.map_eq_some_iff.1 h
    obtain ⟨frames, hframes⟩ := List.head?_eq_some_iff.1 hhead
    exact ⟨ht, r₀, frame, frames, hb, hframes, hnumber, rfl⟩
  · simp at h

theorem opening?_eq_some {place : Nat} (h : r.opening? t = some place) :
    t = .plain '(' ∧ place = r.position ∧ ∃ r₀, r.between? t = some r₀ := by
  unfold opening? at h
  split at h
  · next ht =>
    obtain ⟨r₀, hb, rfl⟩ := Option.map_eq_some_iff.1 h
    exact ⟨ht, rfl, r₀, hb⟩
  · simp at h

theorem StartsIn.closing {places : Nat → Prop} (hr : r.StartsIn places) {span : Span}
    (h : r.closing? t = some span) : places span.start := by
  obtain ⟨-, r₀, frame, frames, hb, hframes, -, hstart⟩ := closing?_eq_some h
  have hmem : frame ∈ r₀.frames := hframes ▸ List.mem_cons_self ..
  rw [← hstart]
  rcases (edits_between? hb).mem_frames hmem with hf | hs
  · exact hr.1 frame hf
  · exact hr.2 _ hs

theorem start_of_closing {places : Nat → Prop} (hr : r.StartsIn places)
    (h : r.readAll tokens = .ok r') {span : Span} (hs : span ∈ r.trace closing? tokens) :
    places span.start ∨ span.start ∈ r.trace opening? tokens := by
  induction tokens generalizing r places with
  | nil => simp [trace] at hs
  | cons t tokens ih =>
    obtain ⟨next, hfeed, hrest⟩ := bind_eq_ok.1 h
    rw [trace_cons hfeed, List.mem_append, Option.mem_toList] at hs
    rw [trace_cons hfeed, List.mem_append, Option.mem_toList]
    rcases hs with hs | hs
    · exact .inl (hr.closing hs)
    · rcases ih (hr.feed hfeed) hrest hs with (hp | ho) | hmem
      · exact .inl hp
      · exact .inr (.inl ho)
      · exact .inr (.inr hmem)

theorem bounds_of_opening (h : r.readAll tokens = .ok r') {place : Nat}
    (hp : place ∈ r.trace opening? tokens) : r.position ≤ place ∧ place < r'.position := by
  obtain ⟨before, t, rest, next, rfl, hread, ho⟩ := exists_split_of_mem_trace h hp
  obtain ⟨rfl, rfl, -⟩ := opening?_eq_some ho
  have hnext := position_readAll hread
  have hend := position_readAll h
  rw [List.flatMap_append, List.flatMap_cons, List.length_append, List.length_append] at hend
  simp only [Token.text, List.length_singleton] at hend
  omega

/-! ## Where no group opens -/

theorem closing?_eq_none (hfit : r.BranchesFit) (hopen : r.openNumbers = [])
    (h : r.feed t = .ok r') (hcount : r'.groupCount = r.groupCount) : r.closing? t = none := by
  rw [Option.eq_none_iff_forall_ne_some]
  intro span hspan
  obtain ⟨-, r₀, frame, frames, hb, hframes, hnumber, -⟩ := closing?_eq_some hspan
  obtain ⟨next, hstep, rfl⟩ := map_eq_ok.1 h
  rw [step_of_between? hb] at hstep
  have hleave : Edits r.HeaderAt r r₀ := .single (edits_between? hb)
  have hitem : Edits r.HeaderAt r₀ next := .single (edit_feedItem hstep)
  have hle := hleave.groupCount_le
  have hle' := hitem.groupCount_le
  have hsame : next.groupCount = r.groupCount := hcount
  have hnil := hleave.openNumbers_eq_nil hfit hopen (by omega)
  rw [openNumbers, hframes, List.filterMap_cons, hnumber] at hnil
  simp at hnil

theorem trace_closing?_eq_nil (hfit : r.BranchesFit) (hopen : r.openNumbers = [])
    (h : r.readAll tokens = .ok r') (hcount : r'.groupCount = r.groupCount) :
    r.trace closing? tokens = [] := by
  induction tokens generalizing r with
  | nil => rfl
  | cons t tokens ih =>
    obtain ⟨next, hfeed, hrest⟩ := bind_eq_ok.1 h
    have hedits := feed_edits hfeed
    have hfit' := hedits.branchesFit hfit
    have hle := hedits.groupCount_le
    have hle' := (readAll_edits hrest).groupCount_le
    have hopen' := hedits.openNumbers_eq_nil hfit hopen (by omega)
    rw [trace_cons hfeed, closing?_eq_none hfit hopen hfeed (by omega),
      ih hfit' hopen' hrest (by omega)]
    rfl

end

end Reader

/-- The capturing groups of a source, in the order in which they close. -/
def sourceSpans (source : List Char) : List Span :=
  match Token.ofSource? source with
  | none => []
  | some tokens => Reader.empty.trace Reader.closing? tokens

/-- The places of the parentheses that open something. -/
def sourceOpenings (source : List Char) : List Nat :=
  match Token.ofSource? source with
  | none => []
  | some tokens => Reader.empty.trace Reader.opening? tokens

end PathTemplate.Regex
