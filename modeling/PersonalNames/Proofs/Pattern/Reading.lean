import PersonalNames.Pattern.Compile
import PersonalNames.Proofs.Pattern.Scanning

/-! # Reading a stretch of a pattern

`Pattern.readFrom` consumes a whole list of lexemes.  Here its runs are cut into
stretches of text: `Reads s text rest s'` says that reading `text` in front of
`rest` takes the state `s` to `s'` and then goes on with `rest`.  Stretches
compose (`Reads.trans`), one lexeme is a stretch (`Reads.lexeme`), and so are the
marks in front of a token (`reads_codes`).

`Accepts` and `Refuses` list all that the pass can do with one lexeme, so that an
invariant of the pass goes through these cases and does not open `State.read`.
-/
namespace PersonalNames

/-! ## Marks and open sequences -/

namespace Marks

/-- The codes of marks, in the order in which a pattern writes them. -/
def codes (m : Marks) : List Char :=
  m.condition.toList.map Condition.code ++ m.modifiers.map Modifier.code

theorem isEmpty_iff (m : Marks) : m.isEmpty = true ↔ m = {} := by
  obtain ⟨condition, modifiers⟩ := m
  cases condition <;> simp [isEmpty]

@[simp] theorem isEmpty_default : ({} : Marks).isEmpty = true := rfl

@[simp] theorem codes_default : ({} : Marks).codes = [] := rfl

@[simp] theorem wrap_default (t : Token) : ({} : Marks).wrap t = t := rfl

/-- One more modifier is one more code. -/
theorem codes_concat (m : Marks) (change : Modifier) :
    ({ m with modifiers := m.modifiers ++ [change] } : Marks).codes = m.codes ++ [change.code] := by
  simp [codes]

end Marks

namespace Lexeme

theorem ofChar_code (c : Condition) : ofChar c.code = condition c := by
  cases c <;> decide

theorem ofChar_modifierCode (m : Modifier) : ofChar m.code = modifier m := by
  cases m <;> decide

theorem fits_condition (c : Condition) (rest : List Char) : (condition c).Fits rest :=
  ⟨c.code, ofChar_code c⟩

theorem fits_modifier (m : Modifier) (rest : List Char) : (modifier m).Fits rest :=
  ⟨m.code, ofChar_modifierCode m⟩

theorem fits_opening (rest : List Char) : opening.Fits rest :=
  ⟨'(', by decide⟩

theorem fits_closing (rest : List Char) : closing.Fits rest :=
  ⟨')', by decide⟩

end Lexeme

namespace Pattern

@[simp] theorem State.mark_inner_marks (s : State) (m : Marks) : (s.mark m).inner.marks = m := rfl

@[simp] theorem State.push_inner_marks (s : State) (t : Token) : (s.push t).inner.marks = {} := rfl

theorem State.mark_mark (s : State) (m m' : Marks) : (s.mark m).mark m' = s.mark m' := rfl

/-- A token under marks that have been read is the marked token. -/
theorem State.push_mark {s : State} (h : s.inner.marks = {}) (m : Marks) (t : Token) :
    (s.mark m).push t = s.push (m.wrap t) := by
  obtain ⟨⟨tokens, marks⟩, outer⟩ := s
  cases h
  rfl

/-! ## What the pass does with a lexeme -/

/-- `Accepts s lexeme s'`: in the state `s` the lexeme is read and gives `s'`. -/
inductive Accepts (s : State) : Lexeme → State → Prop
  | condition (c : Condition) : s.inner.marks = {} →
      Accepts s (.condition c) (s.mark { condition := some c })
  | modifier (m : Modifier) : Accepts s (.modifier m)
      (s.mark { s.inner.marks with modifiers := s.inner.marks.modifiers ++ [m] })
  | opening : Accepts s .opening { inner := {}, outer := s.inner :: s.outer }
  | closing {level : OpenSequence} {outer : List OpenSequence} : s.inner.marks = {} →
      s.outer = level :: outer →
        Accepts s .closing { inner := level.push (.group s.inner.tokens), outer }
  | separator (index : Nat) : Accepts s (.separator index) (s.push (.separator index))
  | component {code : Char} {source : Source} (starred : Bool) :
      Lexeme.source? code = some source → Accepts s (.component code starred)
        (s.push (.component ⟨source, starred || Lexeme.isInitialCode code⟩))
  | escaped (c : Char) : Accepts s (.escaped c) (s.push (.literal (String.ofList [c])))
  | run (text : List Char) : Accepts s (.run text) (s.push (.literal (String.ofList text)))

/-- `Refuses s lexeme fault`: in the state `s` the lexeme is a fault. -/
inductive Refuses (s : State) : Lexeme → Fault → Prop
  | condition (c : Condition) : s.inner.marks.isEmpty = false →
      Refuses s (.condition c) .danglingMark
  | closingMark : s.inner.marks.isEmpty = false → Refuses s .closing .danglingMark
  | closing : s.inner.marks.isEmpty = true → s.outer = [] → Refuses s .closing .unexpectedClose
  | component {code : Char} (starred : Bool) : Lexeme.source? code = none →
      Refuses s (.component code starred) (.unknownComponent code)
  | unknown (c : Char) :
      Refuses s (.unknown c) (if s.isMarked then .danglingMark else .unknownComponent c)
  | danglingEscape : Refuses s .danglingEscape .danglingEscape

theorem accepts_of_read {s s' : State} {lexeme : Lexeme} (h : s.read lexeme = .ok s') :
    Accepts s lexeme s' := by
  cases lexeme with
  | condition c =>
    simp only [State.read] at h
    split at h
    · next hmarks =>
      cases h
      exact .condition c ((Marks.isEmpty_iff _).mp hmarks)
    · cases h
  | closing =>
    simp only [State.read] at h
    split at h
    · cases h
    · next hmarks =>
      rw [Bool.not_eq_true, Bool.not_eq_false', Marks.isEmpty_iff] at hmarks
      split at h
      · cases h
      · next houter =>
        cases h
        exact .closing hmarks houter
  | component code starred =>
    simp only [State.read, componentToken] at h
    split at h
    · next htoken =>
      cases h
      obtain ⟨source, hsource, rfl⟩ := Option.map_eq_some_iff.mp htoken
      exact .component starred hsource
    · cases h
  | modifier m =>
    cases h
    exact .modifier m
  | opening =>
    cases h
    exact .opening
  | separator index =>
    cases h
    exact .separator index
  | escaped c =>
    cases h
    exact .escaped c
  | run text =>
    cases h
    exact .run text
  | unknown c => cases h
  | danglingEscape => cases h

theorem refuses_of_read {s : State} {lexeme : Lexeme} {fault : Fault}
    (h : s.read lexeme = .error fault) : Refuses s lexeme fault := by
  cases lexeme with
  | condition c =>
    simp only [State.read] at h
    split at h
    · cases h
    · next hmarks =>
      cases h
      exact .condition c (Bool.eq_false_iff.mpr hmarks)
  | closing =>
    simp only [State.read] at h
    split at h
    · next hmarks =>
      cases h
      exact .closingMark (Bool.not_eq_true' _ ▸ hmarks)
    · next hmarks =>
      rw [Bool.not_eq_true, Bool.not_eq_false'] at hmarks
      split at h
      · next houter =>
        cases h
        exact .closing hmarks houter
      · cases h
  | component code starred =>
    simp only [State.read, componentToken] at h
    split at h
    · cases h
    · next htoken =>
      cases h
      exact .component starred (Option.map_eq_none_iff.mp htoken)
  | unknown c =>
    cases h
    exact .unknown c
  | danglingEscape =>
    cases h
    exact .danglingEscape
  | modifier m => cases h
  | opening => cases h
  | separator index => cases h
  | escaped c => cases h
  | run text => cases h

/-! ## Stretches of text -/

/-- Reading `text` in front of `rest` takes `s` to `s'`. -/
def Reads (s : State) (text rest : List Char) (s' : State) : Prop :=
  ∀ offset, readFrom offset s (Lexeme.scan (text ++ rest)) =
    readFrom (offset + Text.byteCount text) s' (Lexeme.scan rest)

theorem Reads.refl (s : State) (rest : List Char) : Reads s [] rest s :=
  fun _ => rfl

theorem Reads.trans {s s' s'' : State} {a b rest : List Char} (h : Reads s a (b ++ rest) s')
    (h' : Reads s' b rest s'') : Reads s (a ++ b) rest s'' := by
  intro offset
  rw [List.append_assoc, h offset, h' (offset + Text.byteCount a), Text.byteCount_append,
    Nat.add_assoc]

/-- A lexeme that fits and is accepted is a stretch of its own. -/
theorem Reads.lexeme {s s' : State} (lexeme : Lexeme) {rest : List Char} (h : lexeme.Fits rest)
    (hread : s.read lexeme = .ok s') : Reads s lexeme.spelling rest s' := by
  intro offset
  rw [Lexeme.scan_spelling_append h, readFrom, hread]
  rfl

theorem reads_modifiers (s : State) (ms : List Modifier) (rest : List Char) :
    Reads s (ms.map Modifier.code) rest
      (s.mark { s.inner.marks with modifiers := s.inner.marks.modifiers ++ ms }) := by
  -- The marks in the state grow at their end, the list of modifiers shrinks at its front.
  induction ms generalizing s with
  | nil =>
    rw [List.append_nil]
    exact Reads.refl s rest
  | cons m ms ih =>
    have hfirst : Reads s [m.code] (ms.map Modifier.code ++ rest)
        (s.mark { s.inner.marks with modifiers := s.inner.marks.modifiers ++ [m] }) :=
      Reads.lexeme (.modifier m) (Lexeme.fits_modifier m _) rfl
    have hrest := ih (s.mark { s.inner.marks with modifiers := s.inner.marks.modifiers ++ [m] })
    simp only [State.mark_inner_marks, State.mark_mark, List.append_assoc,
      List.singleton_append] at hrest
    exact hfirst.trans hrest

/-- The marks in front of a token are read as they are written. -/
theorem reads_codes {s : State} (h : s.inner.marks = {}) (m : Marks) (rest : List Char) :
    Reads s m.codes rest (s.mark m) := by
  obtain ⟨condition, modifiers⟩ := m
  cases condition with
  | none =>
    have hms := reads_modifiers s modifiers rest
    rw [h, List.nil_append] at hms
    exact hms
  | some c =>
    have hread : s.read (.condition c) = .ok (s.mark { condition := some c }) := by
      simp [State.read, h]
    have hc : Reads s [c.code] (modifiers.map Modifier.code ++ rest)
        (s.mark { condition := some c }) :=
      Reads.lexeme (.condition c) (Lexeme.fits_condition c _) hread
    exact hc.trans (reads_modifiers (s.mark { condition := some c }) modifiers rest)

end Pattern
end PersonalNames
