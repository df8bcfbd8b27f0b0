import PathTemplate.Proofs.Numbering
import PathTemplate.Proofs.Places

/-!
# Reading a source behind another

A source that can be read on its own and has no groups and no alternatives is read in the same way
behind another source: it adds the same items.

## Main definitions

* `Expr.Independent`: an expression of which the width does not depend on groups.
* `Nest`, `Nest.Behind`: what is open in a reader, and the same behind what was there before.
* `Reader.Follows`: a reader that has read behind another what a reader has read on its own.

## Main statements

* `Reader.agree_feed`, `Reader.agree_readAll`: the readers go in step.
* `Reader.exists_between?`: they leave the last construct in the same way.
-/

namespace PathTemplate.Regex

/-! ## Widths without groups -/

/-- An expression of which the width does not depend on the widths of groups. -/
def Expr.Independent (e : Expr) : Prop :=
  ∀ f g, e.width f = e.width g

theorem independent_literal (n : Nat) : (Expr.literal n).Independent := fun _ _ => rfl

theorem independent_char (test : CharTest) : (Expr.char test).Independent := fun _ _ => rfl

theorem independent_anchor (a : Anchor) : (Expr.anchor a).Independent := fun _ _ => rfl

theorem independent_ofItems {items : List Expr} (h : ∀ e ∈ items, e.Independent) :
    (Expr.ofItems items).Independent := by
  induction items with
  | nil => exact fun _ _ => rfl
  | cons e items ih =>
    intro f g
    rw [Expr.ofItems_cons, Expr.width, Expr.width, h e (List.mem_cons_self ..) f g,
      ih (fun e he => h e (List.mem_cons_of_mem _ he)) f g]

/-! ## What is open -/

/-- What is open in a reader: the alternatives and items of the innermost group, and the groups
around it. -/
structure Nest where
  branches : List Expr
  items : List Expr
  frames : List Frame

/-- Groups of the same kind that capture nothing. Which look-behind is the outermost depends on what
is around it. -/
inductive FrameKind.Alike : FrameKind → FrameKind → Prop where
  | atomic : Alike .atomic .atomic
  | lookahead (negated : Bool) : Alike (.lookahead negated) (.lookahead negated)
  | lookbehind (negated outermost outermost' : Bool) :
    Alike (.lookbehind negated outermost) (.lookbehind negated outermost')
  | conditional (number : Nat) : Alike (.conditional number) (.conditional number)

namespace Nest

def add (n : Nest) (e : Expr) : Nest :=
  { n with items := e :: n.items }

/-- What is open, without alternatives, and the same with other items in front of it and other
groups around it. -/
inductive Behind (base : Nest) : Nest → Nest → Prop where
  | bottom {items : List Expr} (hitems : ∀ e ∈ items, e.Independent) :
    Behind base ⟨[], items, []⟩ ⟨base.branches, items ++ base.items, base.frames⟩
  | inner {items : List Expr} {kind kind' : FrameKind} {start start' : Nat} {n n' : Nest}
    (hitems : ∀ e ∈ items, e.Independent) (hkind : kind.Alike kind') (h : Behind base n n') :
    Behind base ⟨[], items, ⟨kind, start, n.branches, n.items⟩ :: n.frames⟩
      ⟨[], items, ⟨kind', start', n'.branches, n'.items⟩ :: n'.frames⟩

namespace Behind

variable {base n n' : Nest} {e : Expr} {items : List Expr}

theorem add (h : Behind base n n') (he : e.Independent) : Behind base (n.add e) (n'.add e) := by
  have hadd : ∀ items : List Expr, (∀ e ∈ items, e.Independent) →
      ∀ e' ∈ e :: items, e'.Independent := fun items hitems e' he' => by
    rcases List.mem_cons.1 he' with rfl | he'
    · exact he
    · exact hitems e' he'
  cases h with
  | bottom hitems => exact .bottom (hadd _ hitems)
  | inner hitems hkind h => exact .inner (hadd _ hitems) hkind h

theorem addAll (h : Behind base n n') (hitems : ∀ e ∈ items, e.Independent) :
    Behind base { n with items := items ++ n.items } { n' with items := items ++ n'.items } := by
  induction items with
  | nil => exact h
  | cons e items ih =>
    exact (ih fun e he => hitems e (List.mem_cons_of_mem _ he)).add (hitems e (List.mem_cons_self ..))

/-- The last item is the same, and so is what is open without it. -/
theorem last (h : Behind base n n') (hn : n.items = e :: items) :
    ∃ items', n'.items = e :: items' ∧ e.Independent ∧
      Behind base { n with items := items } { n' with items := items' } := by
  cases h with
  | bottom hitems =>
    obtain rfl : _ = e :: items := hn
    exact ⟨items ++ base.items, rfl, hitems e (List.mem_cons_self ..),
      .bottom fun e he => hitems e (List.mem_cons_of_mem _ he)⟩
  | inner hitems hkind h =>
    obtain rfl : _ = e :: items := hn
    exact ⟨items, rfl, hitems e (List.mem_cons_self ..),
      .inner (fun e he => hitems e (List.mem_cons_of_mem _ he)) hkind h⟩

theorem of_frames_eq_nil (h : Behind base n n') (hframes : n.frames = []) :
    n.branches = [] ∧ n'.branches = base.branches ∧ n'.items = n.items ++ base.items ∧
      n'.frames = base.frames := by
  cases h with
  | bottom => exact ⟨rfl, rfl, rfl, rfl⟩
  | inner => simp at hframes

end Behind

end Nest

/-! ## Readers in step -/

inductive Mode.Alike : Mode → Mode → Prop where
  | item : Alike .item .item
  | repeated : Alike .repeated .repeated
  | bounds (start start' : Nat) (least : List Char) (most : Option (List Char)) :
    Alike (.bounds ⟨start, least, most⟩) (.bounds ⟨start', least, most⟩)
  | escape (start start' : Nat) (e : Escape) : Alike (.escape start e) (.escape start' e)
  | set {s s' : SetReader} (h : s.Alike s') : Alike (.set s) (.set s')
  | header (start start' : Nat) (h : Header) : Alike (.header start h) (.header start' h)

namespace Reader

def nest (r : Reader) : Nest :=
  ⟨r.branches, r.items, r.frames⟩

/-- The one reader has read on its own, without groups, what the other has read behind a third. -/
structure Follows (base own reader : Reader) : Prop where
  mode : own.mode.Alike reader.mode
  nest : base.nest.Behind own.nest reader.nest
  ownGroups : own.groups = []
  groups : reader.groups = base.groups
  names : own.names = []
  repeated : own.mode = .repeated → own.items ≠ []

variable {base own reader : Reader}

namespace Follows

theorem enter (h : Follows base own reader) {mode mode' : Mode} (hmode : mode.Alike mode')
    (hrepeated : mode ≠ .repeated) :
    Follows base { own with mode := mode } { reader with mode := mode' } :=
  ⟨hmode, h.nest, h.ownGroups, h.groups, h.names, fun hm => absurd hm hrepeated⟩

/-- Whether a look-behind is open and what conditions ask for does not matter. -/
theorem context (h : Follows base own reader) (behind behind' : Option Nat)
    (conditions conditions' : List (Nat × Nat)) :
    Follows base { own with behind := behind, conditions := conditions }
      { reader with behind := behind', conditions := conditions' } :=
  ⟨h.mode, h.nest, h.ownGroups, h.groups, h.names, h.repeated⟩

theorem push (h : Follows base own reader) {e : Expr} (he : e.Independent) :
    Follows base (own.push e) (reader.push e) :=
  ⟨.item, h.nest.add he, h.ownGroups, h.groups, h.names, nofun⟩

theorem flushBounds (h : Follows base own reader) {b b' : Bounds} (hleast : b.least = b'.least)
    (hmost : b.most = b'.most) : Follows base (own.flushBounds b) (reader.flushBounds b') := by
  refine ⟨.item, ?_, h.ownGroups, h.groups, h.names, nofun⟩
  have hliterals : ∀ e ∈ ('\x7b' :: b.least ++ (b.most.map (',' :: ·)).getD []).reverse.map
      (fun c => Expr.literal c.toNat), e.Independent := by
    intro e he
    obtain ⟨c, -, rfl⟩ := List.mem_map.1 he
    exact independent_literal _
  have hnest := h.nest.addAll hliterals
  rw [Reader.nest, Reader.nest, Reader.flushBounds, Reader.flushBounds, ← hleast, ← hmost]
  exact hnest

end Follows

/-- What an escape adds on its own, it also adds behind another source. No group has been closed on
its own, so it refers to none. -/
theorem exists_placeEscape (h : Follows base own reader) {own' : Reader}
    {start start' stop stop' : Nat} {e : Escaped} (hown : own.placeEscape start stop e = .ok own') :
    ∃ reader', reader.placeEscape start' stop' e = .ok reader' ∧ Follows base own' reader' := by
  cases e with
  | code n =>
    obtain rfl := Except.ok.inj hown
    exact ⟨_, rfl, h.push (independent_literal n)⟩
  | cls k negated =>
    obtain rfl := Except.ok.inj hown
    exact ⟨_, rfl, h.push (independent_char _)⟩
  | anchor a =>
    obtain rfl := Except.ok.inj hown
    exact ⟨_, rfl, h.push (independent_anchor a)⟩
  | reference number length =>
    have hclosed : own.closedWidth? number = none := by simp [closedWidth?, h.ownGroups]
    rw [placeEscape, pushBackref, hclosed] at hown
    split at hown <;> simp at hown

theorem agree_placeEscape (h : Follows base own reader) {start start' stop stop' : Nat}
    {e : Escaped} :
    Agree (Follows base) (own.placeEscape start stop e) (reader.placeEscape start' stop' e) := by
  intro own' reader' hown hreader
  obtain ⟨_, hplace, hfollows⟩ := exists_placeEscape h hown
  obtain rfl := Except.ok.inj (hplace.symm.trans hreader)
  exact hfollows

theorem agree_repeatLast (h : Follows base own reader) {least : Nat} {most : Option Nat}
    {start start' : Nat} :
    Agree (Follows base) (own.repeatLast least most start) (reader.repeatLast least most start') := by
  intro own' reader' hown hreader
  obtain ⟨item, items, hitems, rfl⟩ := repeatLast_eq_ok hown
  obtain ⟨items', hitems', hitem, hnest⟩ := h.nest.last hitems
  obtain ⟨item', items'', hitems'', rfl⟩ := repeatLast_eq_ok hreader
  obtain ⟨rfl, rfl⟩ := List.cons.inj (hitems'.symm.trans hitems'')
  have hrepeat : (Expr.iterate .greedy least most item).Independent := fun f g => by
    rw [Expr.width, Expr.width, hitem f g]
  exact ⟨.repeated, hnest.add hrepeat, h.ownGroups, h.groups, h.names, fun _ => by simp⟩

theorem Follows.setManner (h : Follows base own reader) (hitems : own.items ≠ [])
    (manner : Manner) : Follows base (own.setManner manner) (reader.setManner manner) := by
  obtain ⟨item, items, hown⟩ := List.exists_cons_of_ne_nil hitems
  obtain ⟨items', hreader, hitem, hnest⟩ := h.nest.last hown
  have hreader : reader.items = item :: items' := hreader
  unfold Reader.setManner
  rw [hown, hreader]
  cases item with
  | iterate _ least most body =>
    have hrepeat : (Expr.iterate manner least most body).Independent := fun f g => hitem f g
    exact ⟨.item, hnest.add hrepeat, h.ownGroups, h.groups, h.names, nofun⟩
  | _ => exact ⟨.item, hnest.add hitem, h.ownGroups, h.groups, h.names, nofun⟩

theorem agree_closeBounds (h : Follows base own reader) {start start' : Nat} {least : List Char}
    {most : Option (List Char)} :
    Agree (Follows base) (own.closeBounds ⟨start, least, most⟩)
      (reader.closeBounds ⟨start', least, most⟩) := by
  rw [closeBounds_eq, closeBounds_eq]
  refine Agree.rfl.bind fun lower _ hlower => Agree.rfl.bind fun upper _ hupper => ?_
  subst hlower hupper
  exact .ite (fun _ => by simp) fun _ => agree_repeatLast h

theorem exists_frameExpr {kind kind' : FrameKind} (hkind : kind.Alike kind') {branch : Expr}
    (hbranch : branch.Independent) :
    ∃ e, e.Independent ∧ ∀ r : Reader,
      r.frameExpr [branch] kind = e ∧ r.frameExpr [branch] kind' = e := by
  cases hkind with
  | atomic => exact ⟨.atomic branch, hbranch, fun _ => ⟨rfl, rfl⟩⟩
  | lookahead negated => exact ⟨.lookahead negated branch, fun _ _ => rfl, fun _ => ⟨rfl, rfl⟩⟩
  | lookbehind negated =>
    have hwidth : ∀ f, Expr.lookbehind negated (branch.width f) branch =
        .lookbehind negated (branch.width fun _ => .exactly 0) branch := fun f => by
      rw [hbranch f]
    exact ⟨_, fun _ _ => rfl, fun _ => ⟨hwidth _, hwidth _⟩⟩
  | conditional number =>
    refine ⟨.ifGroup number branch .empty, fun f g => ?_, fun _ => ⟨rfl, rfl⟩⟩
    rw [Expr.width, Expr.width, hbranch f g]
    rfl

theorem agree_closeFrame (h : Follows base own reader) :
    Agree (Follows base) own.closeFrame reader.closeFrame := by
  obtain ⟨position, mode, frames, branches, items, groups, names, behind, conditions⟩ := own
  obtain ⟨position', mode', frames', branches', items', groups', names', behind', conditions'⟩ :=
    reader
  obtain ⟨-, hnest, hown, hgroups, hnames, -⟩ := h
  simp only [nest] at hnest hown hgroups hnames
  cases hnest with
  | bottom => exact Agree.error_left _ _
  | @inner _ kind kind' _ _ n n' hitems hkind hnest =>
    have hbranch : (Expr.ofItems items.reverse).Independent :=
      independent_ofItems fun e he => hitems e (List.mem_reverse.1 he)
    obtain ⟨e, he, hexpr⟩ := exists_frameExpr hkind hbranch
    intro own' reader' hown' hreader'
    obtain rfl := Except.ok.inj hown'
    obtain rfl := Except.ok.inj hreader'
    refine ⟨.item, ?_, by cases hkind <;> exact hown, by cases hkind <;> exact hgroups, hnames,
      nofun⟩
    change base.nest.Behind (n.add (frameExpr _ [.ofItems items.reverse] kind))
      (n'.add (frameExpr _ [.ofItems items.reverse] kind'))
    rw [(hexpr _).1, (hexpr _).2]
    exact hnest.add he

/-- If the number of groups is zero in the end, it has been so all the time. -/
theorem groups_eq_nil {r r' : Reader} (h : r.groupCount ≤ r'.groupCount) (hnone : r'.groups = []) :
    r.groups = [] := by
  rw [groupCount, groupCount, hnone] at h
  exact List.eq_nil_of_length_eq_zero (Nat.le_zero.1 h)

/-- The readers are in step unless a group has been opened. -/
def StaysBehind (base own reader : Reader) : Prop :=
  own.groups = [] → Follows base own reader

theorem Follows.openFrame (h : Follows base own reader) {kind kind' : FrameKind}
    (hkind : kind.Alike kind') {start start' : Nat} :
    Follows base (own.openFrame kind start) (reader.openFrame kind' start') :=
  ⟨.item, .inner (List.forall_mem_nil _) hkind h.nest, h.ownGroups, h.groups, h.names, nofun⟩

theorem Follows.stays (h : Follows base own reader) : StaysBehind base own reader := fun _ => h

/-- A number that a condition asks for is the same in both; a name is not known on its own. -/
theorem agree_conditionGroup (h : Follows base own reader) {name : List Char}
    {position position' : Nat} :
    Agree Eq (own.conditionGroup name position) (reader.conditionGroup name position') := by
  unfold conditionGroup
  refine .ite (fun _ => ?_) fun _ => ?_
  · rw [h.names]
    exact Agree.error_left _ _
  · repeat' split
    all_goals simp

/-- A head that is complete opens the same group in both. On its own, it opens none that captures,
and there is no name to refer to. -/
theorem agree_openGroup (h : Follows base own reader) {start start' : Nat}
    {opening opening' : Opening} (hopening : opening.Alike opening') :
    Agree (StaysBehind base) (own.openGroup start opening) (reader.openGroup start' opening') := by
  cases hopening with
  | capture =>
    refine Agree.ok_iff.2 fun hgroups => ?_
    simp [openCapture, openFrame] at hgroups
  | named name position position' =>
    intro own' _ hown _ hgroups
    simp only [openGroup, openNamed] at hown
    repeat' split at hown
    · simp at hown
    · simp at hown
    · obtain rfl := Except.ok.inj hown
      simp [openCapture, openFrame] at hgroups
  | atomic => exact Agree.ok_iff.2 (h.openFrame .atomic).stays
  | lookahead negated => exact Agree.ok_iff.2 (h.openFrame (.lookahead negated)).stays
  | lookbehind negated =>
    exact Agree.ok_iff.2 ((h.context ..).openFrame (.lookbehind negated _ _)).stays
  | conditional name position position' =>
    refine (agree_conditionGroup h).bind fun number _ hnumber => ?_
    subst hnumber
    refine Agree.bind (R := fun _ _ => True) (fun _ _ _ _ => trivial) fun _ _ _ => ?_
    exact Agree.ok_iff.2 ((h.context ..).openFrame (.conditional number)).stays
  | backref name position position' =>
    intro own' _ hown
    simp only [openGroup, namedBackref, h.names, List.lookup_nil] at hown
    split at hown <;> simp at hown
  | comment => exact Agree.ok_iff.2 (h.enter .item (by simp)).stays

/-- A token between two items does the same in both, unless it begins another alternative. -/
theorem agree_feedItem (h : Follows base own reader) {t : Token} (ht : t ≠ .plain '|') :
    Agree (Follows base) (own.feedItem t) (reader.feedItem t) := by
  unfold feedItem
  split
  · refine Escape.agree_begin.bind fun progress _ hprogress => ?_
    subst hprogress
    cases progress with
    | more e => exact Agree.ok_iff.2 (h.enter (.escape _ _ e) nofun)
    | done e => exact agree_placeEscape h
    | before e => exact agree_placeEscape h
  · exact absurd rfl ht
  · exact agree_closeFrame h
  · exact Agree.ok_iff.2 (h.enter (.set ⟨rfl, rfl, .opened⟩) nofun)
  · exact Agree.ok_iff.2 (h.enter (.header _ _ .opened) nofun)
  · exact Agree.ok_iff.2 (h.enter (.bounds _ _ [] none) nofun)
  · exact agree_repeatLast h
  · exact agree_repeatLast h
  · exact agree_repeatLast h
  · exact Agree.ok_iff.2 (h.push (independent_char _))
  · exact Agree.ok_iff.2 (h.push (independent_anchor _))
  · exact Agree.ok_iff.2 (h.push (independent_anchor _))
  · exact Agree.ok_iff.2 (h.push (independent_literal _))

theorem agree_feedRepeated (h : Follows base own reader) (hitems : own.items ≠ []) {t : Token}
    (ht : t ≠ .plain '|') :
    Agree (Follows base) (own.feedRepeated t) (reader.feedRepeated t) := by
  unfold feedRepeated
  split
  · exact Agree.ok_iff.2 (h.setManner hitems .lazy)
  · exact Agree.ok_iff.2 (h.setManner hitems .possessive)
  · exact agree_feedItem (h.enter .item nofun) ht

theorem agree_feedBounds (h : Follows base own reader) {start start' : Nat} {least : List Char}
    {most : Option (List Char)} {t : Token} (ht : t ≠ .plain '|') :
    Agree (Follows base) (own.feedBounds ⟨start, least, most⟩ t)
      (reader.feedBounds ⟨start', least, most⟩ t) := by
  have hflush : Follows base (own.flushBounds ⟨start, least, most⟩)
      (reader.flushBounds ⟨start', least, most⟩) := h.flushBounds rfl rfl
  unfold feedBounds
  split
  · exact .ite (fun _ => Agree.ok_iff.2 (hflush.push (independent_literal _))) fun _ =>
      agree_closeBounds h
  · cases most with
    | none => exact Agree.ok_iff.2 (h.enter (.bounds _ _ _ _) nofun)
    | some _ => exact agree_feedItem hflush ht
  · refine .ite (fun _ => ?_) fun _ => agree_feedItem hflush ht
    cases most with
    | none => exact Agree.ok_iff.2 (h.enter (.bounds _ _ _ _) nofun)
    | some _ => exact Agree.ok_iff.2 (h.enter (.bounds _ _ _ _) nofun)
  · exact agree_feedItem hflush ht

theorem agree_step (h : Follows base own reader) {t : Token} (ht : t ≠ .plain '|') :
    Agree (StaysBehind base) (own.step t) (reader.step t) := by
  have stays : ∀ {x y : Except Failure Reader}, Agree (Follows base) x y →
      Agree (StaysBehind base) x y := fun hxy a b ha hb _ => hxy a b ha hb
  have hmode := h.mode
  unfold step
  generalize hown : own.mode = mode at hmode ⊢
  generalize reader.mode = mode' at hmode ⊢
  cases hmode with
  | item => exact stays (agree_feedItem h ht)
  | repeated => exact stays (agree_feedRepeated h (h.repeated hown) ht)
  | bounds => exact stays (agree_feedBounds h ht)
  | escape start start' e =>
    refine stays (Escape.agree_feed.bind fun progress _ hprogress => ?_)
    subst hprogress
    cases progress with
    | more e => exact Agree.ok_iff.2 (h.enter (.escape _ _ e) nofun)
    | done e => exact agree_placeEscape h
    | before e => exact (agree_placeEscape h).bind fun _ _ h => agree_feedItem h ht
  | set hset =>
    refine stays ((SetReader.agree_feed hset).bind fun progress progress' hprogress => ?_)
    cases hprogress with
    | more hset => exact Agree.ok_iff.2 (h.enter (.set hset) nofun)
    | done htest => exact Agree.ok_iff.2 (htest ▸ h.push (independent_char _))
    | before htest => exact htest ▸ agree_feedItem (h.push (independent_char _)) ht
  | header start start' head =>
    refine Header.agree_feed.bind fun progress progress' hprogress => ?_
    cases hprogress with
    | more hhead =>
      subst hhead
      exact Agree.ok_iff.2 (h.enter (.header _ _ _) nofun).stays
    | done hopening => exact agree_openGroup h hopening
    | before hopening =>
      refine (agree_openGroup h hopening).bind fun opened opened' hopened => ?_
      intro own' reader' hown' hreader' hgroups
      have hedit : Edit (fun _ => True) opened own' := edit_feedItem hown'
      have hnone := groups_eq_nil hedit.groupCount_le hgroups
      exact agree_feedItem (hopened hnone) ht own' reader' hown' hreader'

theorem agree_feed (h : Follows base own reader) {t : Token} (ht : t ≠ .plain '|') :
    Agree (StaysBehind base) (own.feed t) (reader.feed t) := by
  refine (agree_step h ht).map fun own' reader' hstays hgroups => ?_
  obtain ⟨hmode, hnest, hown, hreader, hnames, hrepeated⟩ := hstays hgroups
  exact ⟨hmode, hnest, hown, hreader, hnames, hrepeated⟩

/-- Tokens without a bar are read in the same way on their own and behind another source, as long as
they open no group that captures. -/
theorem agree_readAll (h : Follows base own reader) {ts : List Token} (hts : .plain '|' ∉ ts) :
    Agree (StaysBehind base) (own.readAll ts) (reader.readAll ts) := by
  induction ts generalizing own reader with
  | nil => exact Agree.ok_iff.2 h.stays
  | cons t ts ih =>
    rw [List.mem_cons, not_or] at hts
    intro own' reader' hown hreader hgroups
    obtain ⟨next, hfeed, hrest⟩ := bind_eq_ok.1 hown
    obtain ⟨next', hfeed', hrest'⟩ := bind_eq_ok.1 hreader
    have hnone := groups_eq_nil (readAll_edits hrest).groupCount_le hgroups
    have hnext := agree_feed h (Ne.symm hts.1) next next' hfeed hfeed' hnone
    exact ih hnext hts.2 own' reader' hrest hrest' hgroups

/-! ## The end of a source -/

end Reader

/-- An escape that the end of a source completes is also complete in front of a parenthesis that
opens, and in front of the anchor for the end. -/
theorem Escape.feed_of_finish {e : Escape} {escaped : Escaped} {start start' position position' : Nat}
    (h : e.finish start position = .ok escaped) {c : Char} (hc : c = '(' ∨ c = '$') :
    e.feed start' position' (.plain c) = .ok (.before escaped) := by
  have hdigit : c.isDigit = false := by rcases hc with rfl | rfl <;> rfl
  have hoctal : isOctal c = false := by rcases hc with rfl | rfl <;> rfl
  cases e with
  | octal digits =>
    have hcode : octalCode start' digits = .ok escaped := by
      simp only [finish, octalCode] at h ⊢
      split at h
      · simp at h
      · next hle => rw [if_neg hle, h]
    simp [feed, Token.plain?, hoctal, hcode, Except.map]
  | number digits =>
    obtain rfl := Except.ok.inj h
    simp [feed, Token.plain?, hoctal, hdigit]
  | name read =>
    simp only [finish] at h
    split at h <;> simp at h
  | _ => simp [finish] at h

namespace Reader

variable {base own reader : Reader}

theorem exists_between? (h : Follows base own reader) {settled : Reader}
    (hsettle : own.settle = .ok settled) {c : Char} (hc : c = '(' ∨ c = '$') :
    ∃ r₀, reader.between? (.plain c) = some r₀ ∧
      Follows base { settled with mode := .item } r₀ := by
  have hmode := h.mode
  unfold settle at hsettle
  unfold between?
  generalize own.mode = mode at hmode hsettle
  generalize hreader : reader.mode = mode' at hmode ⊢
  cases hmode with
  | item =>
    obtain rfl := Except.ok.inj hsettle
    exact ⟨reader, rfl, hreader ▸ .item, h.nest, h.ownGroups, h.groups, h.names, nofun⟩
  | repeated =>
    obtain rfl := Except.ok.inj hsettle
    refine ⟨{ reader with mode := .item }, ?_, h.enter .item nofun⟩
    rcases hc with rfl | rfl <;> rfl
  | bounds start start' least most =>
    obtain rfl := Except.ok.inj hsettle
    refine ⟨reader.flushBounds ⟨start', least, most⟩, ?_, h.flushBounds rfl rfl⟩
    rcases hc with rfl | rfl <;> rfl
  | escape start start' e =>
    obtain ⟨escaped, hfinish, hplace⟩ := bind_eq_ok.1 hsettle
    obtain ⟨r₀, hr₀, hfollows⟩ : ∃ r₀, reader.placeEscape start' reader.position escaped = .ok r₀ ∧
        Follows base settled r₀ :=
      exists_placeEscape h hplace
    have hitem : r₀.mode = .item := by
      obtain ⟨item, -, rfl⟩ := exists_push_of_placeEscape hr₀
      rfl
    refine ⟨r₀, ?_, hitem ▸ .item, hfollows.nest, hfollows.ownGroups, hfollows.groups,
      hfollows.names, nofun⟩
    dsimp only
    rw [Escape.feed_of_finish hfinish hc]
    exact toOption_eq_some.2 hr₀
  | set hset => simp at hsettle
  | header => simp at hsettle

end Reader

end PathTemplate.Regex
