import PersonalNames.Proofs.Pattern.Reading

/-! # What the beginning of a pattern leaves open

A beginning of a pattern may end in a condition or modifier that still waits for
its token, or in a backslash that waits for a character, and it may stand inside
groups.  Here this is said of the text alone: `signs` blanks out the escaped
characters, and all else is read off the signs, groups by counting parentheses.

`Tracks` relates a beginning to the state of the pass behind it.  Every lexeme
that the pass accepts keeps the relation (`Tracks.step`), so what the state
knows about marks and groups is what the text shows.
-/
namespace PersonalNames
namespace Pattern

/-! ## The signs of a text -/

/-- The characters of a text, with `none` for a backslash and the character that
it escapes. -/
def signs : List Char → List (Option Char)
  | [] => []
  | '\\' :: _ :: rest => none :: signs rest
  | c :: rest => some c :: signs rest

/-- Whether a character is the code of a condition or of a modifier. -/
def isMark (c : Char) : Bool :=
  (Condition.ofCode? c).isSome || (Modifier.ofCode? c).isSome

/-- Whether the last sign is a condition or a modifier. -/
def LastIsMark (s : List (Option Char)) : Prop :=
  ∃ c, s.getLast? = some (some c) ∧ isMark c = true

/-- The text ends in a backslash that escapes nothing. -/
def EndsInEscape (text : List Char) : Prop :=
  (signs text).getLast? = some (some '\\')

/-- The text ends in a condition or modifier that is not escaped. -/
def EndsInMark (text : List Char) : Prop :=
  LastIsMark (signs text)

/-- The number of parentheses opened less those closed. -/
def depth (s : List (Option Char)) : Int :=
  s.count (some '(') - s.count (some ')')

/-- No more parentheses are ever closed than have been opened: a group that was
open before these signs is open behind them. -/
def StaysOpen (s : List (Option Char)) : Prop :=
  ∀ n, 0 ≤ depth (s.take n)

/-- The end of the text lies inside a group that stands right behind a condition
or modifier. -/
def InMarkedGroup (text : List Char) : Prop :=
  ∃ before mark inside, signs text = before ++ some mark :: some '(' :: inside ∧
    isMark mark = true ∧ StaysOpen inside

theorem signs_cons {c : Char} (h : c ≠ '\\') (rest : List Char) :
    signs (c :: rest) = some c :: signs rest := by
  rw [signs.eq_def]
  split
  · next heq => cases heq
  · next heq =>
    cases heq
    exact absurd rfl h
  · next heq =>
    cases heq
    rfl

theorem signs_of_no_backslash {text : List Char} (h : ∀ c ∈ text, c ≠ '\\') :
    signs text = text.map some := by
  induction text with
  | nil => rfl
  | cons c rest ih =>
    rw [signs_cons (h c List.mem_cons_self), ih fun d hd => h d (List.mem_cons_of_mem c hd),
      List.map_cons]

theorem getLast?_cons_of_some {α : Type} {l : List α} {a b : α} (h : l.getLast? = some b) :
    (a :: l).getLast? = some b := by
  simp [List.getLast?_cons, h]

/-- Signs of a text that ends in no open escape do not depend on what follows. -/
theorem signs_append {text : List Char} (h : ¬ EndsInEscape text) (rest : List Char) :
    signs (text ++ rest) = signs text ++ signs rest := by
  unfold EndsInEscape at h
  fun_induction signs text with
  | case1 => rfl
  | case2 d text ih =>
    rw [List.cons_append, List.cons_append, signs, ih fun ht => h (getLast?_cons_of_some ht),
      List.cons_append]
  | case3 c text hc ih =>
    have hne : c ≠ '\\' := by
      rintro rfl
      cases text with
      | nil => exact h rfl
      | cons d text => exact hc d text rfl rfl
    rw [List.cons_append, signs_cons hne, ih fun ht => h (getLast?_cons_of_some ht),
      List.cons_append]

/-! ## Depth -/

theorem depth_append (s t : List (Option Char)) : depth (s ++ t) = depth s + depth t := by
  simp only [depth, List.count_append]
  omega

theorem depth_opening (s : List (Option Char)) : depth (some '(' :: s) = 1 + depth s := by
  have hne : some '(' ≠ some ')' := by decide
  simp only [depth, List.count_cons_self, List.count_cons_of_ne hne]
  omega

theorem depth_closing : depth [some ')'] = -1 := by
  decide

theorem StaysOpen.depth_nonneg {s : List (Option Char)} (h : StaysOpen s) : 0 ≤ depth s := by
  simpa using h s.length

theorem StaysOpen.append {s t : List (Option Char)} (hs : StaysOpen s) (ht : StaysOpen t) :
    StaysOpen (s ++ t) := by
  intro n
  have h₁ := hs n
  have h₂ := ht (n - s.length)
  rw [List.take_append, depth_append]
  omega

theorem StaysOpen.left {s t : List (Option Char)} (h : StaysOpen (s ++ t)) : StaysOpen s := by
  intro n
  have hn := h (min n s.length)
  rwa [List.take_append_of_le_length (Nat.min_le_right n s.length), ← List.take_eq_take_min] at hn

theorem StaysOpen.opening {s : List (Option Char)} (h : StaysOpen s) :
    StaysOpen (some '(' :: s) := by
  intro n
  cases n with
  | zero => exact Int.le_refl 0
  | succ n =>
    have hn := h n
    rw [List.take_succ_cons, depth_opening]
    omega

/-- Signs that close every parenthesis they open, and no other. -/
structure Settled (s : List (Option Char)) : Prop where
  staysOpen : StaysOpen s
  depth : depth s = 0

theorem settled_nil : Settled [] where
  staysOpen := fun n => by simp [Pattern.depth]
  depth := rfl

theorem Settled.append {s t : List (Option Char)} (hs : Settled s) (ht : Settled t) :
    Settled (s ++ t) where
  staysOpen := hs.staysOpen.append ht.staysOpen
  depth := by rw [depth_append, hs.depth, ht.depth]; rfl

theorem Settled.of_no_parenthesis {s : List (Option Char)}
    (h : ∀ x ∈ s, x ≠ some '(' ∧ x ≠ some ')') : Settled s := by
  have hdepth : ∀ t : List (Option Char), (∀ x ∈ t, x ∈ s) → Pattern.depth t = 0 := by
    intro t ht
    have h₁ : t.count (some '(') = 0 := List.count_eq_zero.mpr fun hm => (h _ (ht _ hm)).1 rfl
    have h₂ : t.count (some ')') = 0 := List.count_eq_zero.mpr fun hm => (h _ (ht _ hm)).2 rfl
    simp [Pattern.depth, h₁, h₂]
  exact ⟨fun n => Int.le_of_eq (hdepth _ fun x hx => List.mem_of_mem_take hx).symm,
    hdepth s fun x hx => hx⟩

theorem Settled.group {s : List (Option Char)} (h : Settled s) :
    Settled (some '(' :: (s ++ [some ')'])) where
  staysOpen := by
    intro n
    cases n with
    | zero => exact Int.le_refl 0
    | succ n =>
      have hs := h.staysOpen n
      have hclose : -1 ≤ Pattern.depth ([some ')'].take (n - s.length)) := by
        cases n - s.length with
        | zero => decide
        | succ k => simp [depth_closing]
      rw [List.take_succ_cons, depth_opening, List.take_append, depth_append]
      omega
  depth := by
    rw [depth_opening, depth_append, h.depth, depth_closing]
    rfl

/-- Behind an opening parenthesis that settled signs contain, the group does not
stay open. -/
theorem Settled.not_staysOpen {s t : List (Option Char)} (h : Settled (s ++ some '(' :: t)) :
    ¬ StaysOpen t := by
  intro ht
  have hs := h.staysOpen.left.depth_nonneg
  have htotal := h.depth
  have hdepth := ht.depth_nonneg
  rw [depth_append, depth_opening] at htotal
  omega

/-! ## Open groups -/

/-- `Nested s marked`: the groups that are open behind the signs `s`, the innermost
first; for each, whether it stands behind a mark. -/
inductive Nested : List (Option Char) → List Bool → Prop
  | flat {s : List (Option Char)} : Settled s → Nested s []
  | group {s inside : List (Option Char)} {marked : Bool} {outer : List Bool} :
      Nested s outer → (marked = true ↔ LastIsMark s) → Settled inside →
        Nested (s ++ some '(' :: inside) (marked :: outer)

theorem Nested.append {s t : List (Option Char)} {marked : List Bool} (h : Nested s marked)
    (ht : Settled t) : Nested (s ++ t) marked := by
  cases h with
  | flat hs => exact .flat (hs.append ht)
  | group hs hmark hinside =>
    rw [List.append_assoc, List.cons_append]
    exact .group hs hmark (hinside.append ht)

theorem Nested.opening {s : List (Option Char)} {marked : Bool} {outer : List Bool}
    (h : Nested s outer) (hmark : marked = true ↔ LastIsMark s) :
    Nested (s ++ [some '(']) (marked :: outer) :=
  .group h hmark settled_nil

theorem Nested.closing {s : List (Option Char)} {marked : Bool} {outer : List Bool}
    (h : Nested s (marked :: outer)) : Nested (s ++ [some ')']) outer := by
  cases h with
  | group hs hmark hinside =>
    rw [List.append_assoc, List.cons_append]
    exact hs.append hinside.group

/-- **The open groups are those that the signs show**: one of them stands behind a
mark exactly if the signs have a mark, an opening parenthesis and then signs that
stay open. -/
theorem Nested.mem_true_iff {s : List (Option Char)} {marked : List Bool} (h : Nested s marked) :
    true ∈ marked ↔ ∃ before mark inside, s = before ++ some mark :: some '(' :: inside ∧
      isMark mark = true ∧ StaysOpen inside := by
  induction h with
  | flat hs =>
    constructor
    · intro h
      cases h
    · rintro ⟨before, mark, inside, rfl, _, hopen⟩
      rw [List.append_cons] at hs
      exact absurd hopen hs.not_staysOpen
  | @group s inside marked outer hs hmark hinside ih =>
    rw [List.mem_cons, ih]
    constructor
    · rintro (hm | ⟨before, mark, rest, rfl, hm, hopen⟩)
      · obtain ⟨c, hlast, hc⟩ := hmark.mp hm.symm
        obtain ⟨before, rfl⟩ := List.getLast?_eq_some_iff.mp hlast
        exact ⟨before, c, inside, by simp, hc, hinside.staysOpen⟩
      · exact ⟨before, mark, rest ++ some '(' :: inside, by simp, hm,
          hopen.append hinside.staysOpen.opening⟩
    · rintro ⟨before, mark, rest, heq, hm, hopen⟩
      have hends : s = before ++ [some mark] → true = marked := fun hs =>
        (hmark.mpr ⟨mark, by rw [hs, List.getLast?_concat], hm⟩).symm
      rw [List.append_cons before] at heq
      rcases List.append_eq_append_iff.mp heq with ⟨z, hz, hz'⟩ | ⟨z, hz, hz'⟩
      · cases z with
        | nil => exact Or.inl (hends (by rw [hz, List.append_nil]))
        | cons x z =>
          -- the parenthesis would lie inside the innermost group, which is settled
          rw [List.cons_append, List.cons.injEq] at hz'
          rw [hz'.2] at hinside
          exact absurd hopen hinside.not_staysOpen
      · cases z with
        | nil => exact Or.inl (hends (by rw [hz, List.append_nil]))
        | cons x z =>
          rw [List.cons_append, List.cons.injEq] at hz'
          obtain ⟨rfl, rfl⟩ := hz'
          exact Or.inr ⟨before, mark, z, by simp [hz], hm, hopen.left⟩

/-! ## The signs of a lexeme -/

/-- Signs that neither mark nor group nor escape. -/
def IsPlain (x : Option Char) : Prop :=
  ∀ c, x = some c → isMark c = false ∧ c ≠ '(' ∧ c ≠ ')' ∧ c ≠ '\\'

/-- A character whose lexeme is no mark and no parenthesis is plain. -/
theorem isPlain_of_ofChar {c : Char} {lexeme : Lexeme} (h : Lexeme.ofChar c = lexeme)
    (hcondition : ∀ k, lexeme ≠ .condition k) (hmodifier : ∀ m, lexeme ≠ .modifier m)
    (hopening : lexeme ≠ .opening) (hclosing : lexeme ≠ .closing) (hrun : lexeme ≠ .run ['\\']) :
    IsPlain (some c) := by
  rintro d hd
  cases hd
  refine ⟨?_, ?_, ?_, ?_⟩
  · rw [isMark, Bool.or_eq_false_iff, Option.isSome_eq_false_iff, Option.isNone_iff_eq_none,
      Option.isSome_eq_false_iff, Option.isNone_iff_eq_none, Option.eq_none_iff_forall_ne_some,
      Option.eq_none_iff_forall_ne_some]
    constructor
    · intro k hk
      rw [← Condition.code_of_ofCode? hk, Lexeme.ofChar_code] at h
      exact hcondition k h.symm
    · intro m hm
      rw [← Modifier.code_of_ofCode? hm, Lexeme.ofChar_modifierCode] at h
      exact hmodifier m h.symm
  · rintro rfl
    exact hopening (h.symm.trans (by decide))
  · rintro rfl
    exact hclosing (h.symm.trans (by decide))
  · rintro rfl
    exact hrun (h.symm.trans Lexeme.ofChar_backslash)

theorem isPlain_none : IsPlain none := by
  intro c h
  cases h

theorem isPlain_of_not_isReserved {c : Char} (h : Lexeme.isReserved c = false) :
    IsPlain (some c) :=
  isPlain_of_ofChar (Lexeme.ofChar_of_not_isReserved h) (by simp) (by simp) (by simp) (by simp)
    (by simpa using Lexeme.ne_backslash_of_not_isReserved h)

theorem not_lastIsMark_of_isPlain {s : List (Option Char)} (h : ∀ x ∈ s, IsPlain x) :
    ¬ LastIsMark s := by
  rintro ⟨c, hlast, hc⟩
  have := (h _ (List.mem_of_getLast? hlast) c rfl).1
  rw [hc] at this
  cases this

theorem settled_of_isPlain {s : List (Option Char)} (h : ∀ x ∈ s, IsPlain x) : Settled s := by
  refine .of_no_parenthesis fun x hx => ⟨?_, ?_⟩
  · rintro rfl
    exact (h _ hx _ rfl).2.1 rfl
  · rintro rfl
    exact (h _ hx _ rfl).2.2.1 rfl

/-! ## The state of the pass shows what the text leaves open -/

/-- What a beginning of a pattern has in common with the state of the pass behind
it. -/
structure Tracks (before : List Char) (s : State) : Prop where
  /-- A backslash is read together with its character. -/
  complete : ¬ EndsInEscape before
  marks : s.inner.marks.isEmpty = false ↔ EndsInMark before
  groups : Nested (signs before) (s.outer.map fun level => !level.marks.isEmpty)

theorem tracks_nil : Tracks [] {} where
  complete := by
    intro h
    cases h
  marks := by
    refine iff_of_false (by simp) ?_
    rintro ⟨_, h, _⟩
    cases h
  groups := .flat settled_nil

section
variable {before text : List Char} {s : State}

/-- One of the groups around the end of the text is marked exactly if one of the
open sequences waits behind marks. -/
theorem Tracks.inMarkedGroup_iff (h : Tracks before s) :
    (∃ level ∈ s.outer, level.marks.isEmpty = false) ↔ InMarkedGroup before := by
  rw [InMarkedGroup, ← h.groups.mem_true_iff, List.mem_map]
  simp only [Bool.not_eq_true']

theorem Tracks.isMarked_iff (h : Tracks before s) :
    s.isMarked = true ↔ EndsInMark before ∨ InMarkedGroup before := by
  rw [← h.marks, ← h.inMarkedGroup_iff]
  simp [State.isMarked]

theorem getLast?_append_signs (h : ¬ EndsInEscape before) (hne : signs text ≠ []) :
    (signs (before ++ text)).getLast? = (signs text).getLast? := by
  rw [signs_append h, List.getLast?_append, Option.or_of_isSome (by simpa using hne)]

/-- Plain text leaves a token behind, and no mark. -/
theorem Tracks.push (h : Tracks before s) (hne : signs text ≠ [])
    (hplain : ∀ x ∈ signs text, IsPlain x) (t : Token) : Tracks (before ++ text) (s.push t) where
  complete := by
    rw [EndsInEscape, getLast?_append_signs h.complete hne]
    intro hlast
    exact (hplain _ (List.mem_of_getLast? hlast) _ rfl).2.2.2 rfl
  marks := by
    rw [EndsInMark, LastIsMark, getLast?_append_signs h.complete hne]
    exact iff_of_false (by simp) (not_lastIsMark_of_isPlain hplain)
  groups := by
    rw [signs_append h.complete]
    exact h.groups.append (settled_of_isPlain hplain)

theorem Tracks.push_text (h : Tracks before s) (hne : text ≠ [])
    (hplain : ∀ c ∈ text, IsPlain (some c)) (t : Token) : Tracks (before ++ text) (s.push t) := by
  have hsigns : signs text = text.map some :=
    signs_of_no_backslash fun c hc => (hplain c hc c rfl).2.2.2
  refine h.push ?_ ?_ t
  · rw [hsigns]
    simpa using hne
  · rw [hsigns]
    intro x hx
    obtain ⟨c, hc, rfl⟩ := List.mem_map.mp hx
    exact hplain c hc

/-- One sign that is no backslash escapes nothing. -/
theorem not_endsInEscape_concat (h : ¬ EndsInEscape before) {c : Char} (hc : c ≠ '\\') :
    ¬ EndsInEscape (before ++ [c]) := by
  rw [EndsInEscape, signs_append h, signs_cons hc, signs, List.getLast?_concat]
  simpa using hc

theorem lastIsMark_concat_iff (h : ¬ EndsInEscape before) {c : Char} (hc : c ≠ '\\') :
    EndsInMark (before ++ [c]) ↔ isMark c = true := by
  rw [EndsInMark, LastIsMark, signs_append h, signs_cons hc, signs, List.getLast?_concat]
  simp

/-- A mark waits for its token. -/
theorem Tracks.mark (h : Tracks before s) {c : Char} (hc : isMark c = true) {marks : Marks}
    (hmarks : marks.isEmpty = false) : Tracks (before ++ [c]) (s.mark marks) := by
  have hescape : c ≠ '\\' := by
    rintro rfl
    exact absurd hc (by decide)
  have hsettled : Settled [some c] := by
    refine .of_no_parenthesis fun x hx => ?_
    rw [List.mem_singleton.mp hx]
    refine ⟨?_, ?_⟩
    all_goals
      rintro heq
      cases heq
      exact absurd hc (by decide)
  refine ⟨not_endsInEscape_concat h.complete hescape, ?_, ?_⟩
  · rw [lastIsMark_concat_iff h.complete hescape]
    exact iff_of_true hmarks hc
  · rw [signs_append h.complete, signs_cons hescape]
    exact h.groups.append hsettled

/-- An opening parenthesis opens a group behind the marks in front of it. -/
theorem Tracks.opening (h : Tracks before s) :
    Tracks (before ++ ['(']) { inner := {}, outer := s.inner :: s.outer } where
  complete := not_endsInEscape_concat h.complete (by decide)
  marks := by
    rw [lastIsMark_concat_iff h.complete (by decide)]
    exact iff_of_false (by simp) (by decide)
  groups := by
    rw [signs_append h.complete]
    refine h.groups.opening ?_
    rw [Bool.not_eq_true']
    exact h.marks

/-- A closing parenthesis closes the innermost group. -/
theorem Tracks.closing (h : Tracks before s) {level : OpenSequence} {outer : List OpenSequence}
    (houter : s.outer = level :: outer) (t : Token) :
    Tracks (before ++ [')']) { inner := level.push t, outer } where
  complete := not_endsInEscape_concat h.complete (by decide)
  marks := by
    rw [lastIsMark_concat_iff h.complete (by decide)]
    exact iff_of_false (by simp [OpenSequence.push]) (by decide)
  groups := by
    have hgroups := h.groups
    rw [houter] at hgroups
    rw [signs_append h.complete]
    exact hgroups.closing

/-- **The state of the pass tracks the text**: every lexeme that is accepted keeps
the relation between the beginning and the state. -/
theorem Tracks.step {s' : State} {lexeme : Lexeme} {rest : List Char} (h : Tracks before s)
    (hfits : lexeme.Fits rest) (hread : s.read lexeme = .ok s') :
    Tracks (before ++ lexeme.spelling) s' := by
  cases accepts_of_read hread with
  | condition c _ => exact h.mark (by cases c <;> decide) rfl
  | modifier m => exact h.mark (by cases m <;> decide) (by simp [Marks.isEmpty])
  | opening => exact h.opening
  | closing _ houter => exact h.closing houter _
  | separator index =>
    obtain ⟨c, hc⟩ := hfits
    rw [Lexeme.spelling_of_ofChar hc]
    refine h.push_text (by simp) (fun d hd => ?_) _
    rw [List.mem_singleton.mp hd]
    exact isPlain_of_ofChar hc (by simp) (by simp) (by simp) (by simp) (by simp)
  | @component code _ starred _ =>
    have hplain : IsPlain (some code) :=
      isPlain_of_ofChar hfits.ofChar_component (by simp) (by simp) (by simp) (by simp) (by simp)
    have hstar : IsPlain (some '*') := isPlain_of_not_isReserved (by decide)
    cases starred with
    | true =>
      refine h.push_text (by simp [Lexeme.spelling]) ?_ _
      simp [Lexeme.spelling, hplain, hstar]
    | false =>
      refine h.push_text (by simp [Lexeme.spelling]) ?_ _
      simp [Lexeme.spelling, hplain]
  | escaped c =>
    refine h.push (by simp [Lexeme.spelling, signs]) ?_ _
    simp [Lexeme.spelling, signs, isPlain_none]
  | run text =>
    exact h.push_text hfits.1 (fun c hc => isPlain_of_not_isReserved (hfits.2.1 c hc)) _

end

end Pattern
end PersonalNames
