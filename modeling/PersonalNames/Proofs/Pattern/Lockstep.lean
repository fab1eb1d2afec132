import PersonalNames.Proofs.Pattern.Viability

/-! # Passes in lockstep

Two texts that differ in one place have a beginning and an end in common.  The pass
reads the common beginning in the same way (`exists_state_of_scan`), and comes to the
common end in two states that differ in what was read in between.

All that the pass looks at is where marks wait.  A relation between states *keeps pace*
with it (`KeepsPace`) if related states have marks in the same open sequences and if it is
kept by all that the pass does to a state.  From related states the same lexemes are
accepted, and a fault comes at the same place and is the same (`KeepsPace.readFrom`).
Most relations keep the marks themselves, and are then in *lockstep* (`Lockstep`).
-/
namespace PersonalNames

namespace Lexeme

/-- The lexemes behind a place of a scanned text are scanned by themselves. -/
theorem scan_flatMap_spelling {text : List Char} {lexemes more : List Lexeme}
    (h : scan text = lexemes ++ more) : scan (more.flatMap spelling) = more := by
  induction text using scan_induction generalizing lexemes with
  | nil =>
    rw [scan, eq_comm, List.append_eq_nil_iff] at h
    rw [h.2]
    rfl
  | cons lexeme rest hfits ih =>
    rw [scan_spelling_append hfits] at h
    cases lexemes with
    | nil =>
      rw [← List.nil_append more, ← h, List.flatMap_cons, flatMap_spelling_scan,
        scan_spelling_append hfits]
    | cons first others => exact ih (List.cons.inj h).2

theorem scan_behind {text : List Char} {before after : List Lexeme} {lexeme : Lexeme}
    (h : scan text = before ++ lexeme :: after) : scan (after.flatMap spelling) = after := by
  have hscan : scan text = (before ++ [lexeme]) ++ after := by
    rw [h, List.append_assoc]
    rfl
  exact scan_flatMap_spelling hscan

/-- A lexeme that is scanned first fits in front of the others. -/
theorem fits_of_scan {text : List Char} {lexeme : Lexeme} {more : List Lexeme}
    (h : scan text = lexeme :: more) : lexeme.Fits (more.flatMap spelling) := by
  induction text using scan_induction with
  | nil => cases h
  | cons first rest hfits _ =>
    rw [scan_spelling_append hfits] at h
    cases h
    rwa [flatMap_spelling_scan]

/-- Whether a lexeme is a condition or a modifier. -/
def isMark : Lexeme → Bool
  | condition _ | modifier _ => true
  | _ => false

end Lexeme

namespace Pattern

open Lexeme (EndsRun)

/-! ## The state at a place of a text -/

/-- `AfterLast last s`: the pass can be in the state `s` behind the lexeme `last`, or at
the beginning of a text. -/
inductive AfterLast : Option Lexeme → State → Prop
  | start : AfterLast none {}
  | behind {before s : State} {lexeme : Lexeme} :
      before.read lexeme = .ok s → AfterLast (some lexeme) s

/-- Marks wait behind a mark, and behind nothing else. -/
theorem AfterLast.marks_eq_iff {last : Option Lexeme} {s : State} (h : AfterLast last s) :
    s.inner.marks = {} ↔ ∀ lexeme ∈ last, lexeme.isMark = false := by
  cases h with
  | start => simp
  | @behind _ _ lexeme hread =>
    simp only [Option.mem_some_iff, forall_eq']
    cases accepts_of_read hread with
    | condition c _ => simp [Lexeme.isMark]
    | modifier m => simp [Lexeme.isMark]
    | _ => exact iff_of_true rfl rfl

/-- No modifiers wait behind a lexeme that is none. -/
theorem AfterLast.modifiers_eq {last : Option Lexeme} {s : State} (h : AfterLast last s)
    (hlast : ∀ m, last ≠ some (.modifier m)) : s.inner.marks.modifiers = [] := by
  cases h with
  | start => rfl
  | behind hread =>
    cases accepts_of_read hread with
    | modifier m => exact absurd rfl (hlast m)
    | _ => rfl

/-- **A text is read up to any of its lexemes**, and what stands in front of that lexeme is
read in the same way in front of all that starts with a reserved character or as the
lexeme does. -/
theorem exists_state_of_scan {text : List Char} {lexemes more : List Lexeme} {offset : Nat}
    {s : State} {last : Option Lexeme} {tokens : List Token}
    (hscan : Lexeme.scan text = lexemes ++ more) (hlast : AfterLast last s)
    (h : readFrom offset s (Lexeme.scan text) = .ok tokens) :
    ∃ s', (∀ rest, EndsRun rest ∨ rest.head? = (more.flatMap Lexeme.spelling).head? →
        Reads s (lexemes.flatMap Lexeme.spelling) rest s') ∧
      AfterLast (lexemes.getLast?.or last) s' ∧
      ∃ offset', readFrom offset' s' more = .ok tokens := by
  induction text using Lexeme.scan_induction generalizing lexemes offset s last with
  | nil =>
    rw [Lexeme.scan] at hscan h
    obtain ⟨rfl, rfl⟩ := List.append_eq_nil_iff.mp hscan.symm
    exact ⟨s, fun rest _ => Reads.refl s rest, hlast, offset, h⟩
  | cons lexeme rest hfits ih =>
    rw [Lexeme.scan_spelling_append hfits] at hscan h
    cases lexemes with
    | nil =>
      rw [List.nil_append] at hscan
      rw [hscan] at h
      exact ⟨s, fun rest _ => Reads.refl s rest, hlast, offset, h⟩
    | cons first others =>
      rw [List.cons_append, List.cons.injEq] at hscan
      obtain ⟨rfl, hothers⟩ := hscan
      rw [readFrom] at h
      split at h
      · next s₁ hread =>
        obtain ⟨s', hreads, hafter, hok⟩ := ih hothers (.behind hread) h
        refine ⟨s', fun rest' hrest' => ?_, ?_, hok⟩
        · have htext : rest = others.flatMap Lexeme.spelling ++ more.flatMap Lexeme.spelling := by
            rw [← List.flatMap_append, ← hothers, Lexeme.flatMap_spelling_scan]
          have hescape : lexeme ≠ .danglingEscape := by
            rintro rfl
            cases hread
          have hfits' : lexeme.Fits (others.flatMap Lexeme.spelling ++ rest') := by
            refine hfits.of_head hescape ?_
            rw [htext]
            cases others.flatMap Lexeme.spelling with
            | nil => exact hrest'
            | cons c text => exact Or.inr rfl
          exact (Reads.lexeme lexeme hfits' hread).trans (hreads rest' hrest')
        · cases others with
          | nil => exact hafter
          | cons second others =>
            rw [List.getLast?_cons_cons]
            rwa [Option.or_of_isSome (by simp)] at hafter ⊢
      · cases h
      · cases h

/-- In a text that compiles, each lexeme is read in a state to which what stands in front
of it has led. -/
theorem exists_read_of_scan {text : List Char} {before after : List Lexeme} {lexeme : Lexeme}
    {tokens : List Token} (hscan : Lexeme.scan text = before ++ lexeme :: after)
    (h : readFrom 0 {} (Lexeme.scan text) = .ok tokens) :
    ∃ s next, AfterLast before.getLast? s ∧ s.read lexeme = .ok next ∧
      (∃ offset, readFrom offset next after = .ok tokens) ∧
      ∀ rest, EndsRun rest ∨ rest.head? = ((lexeme :: after).flatMap Lexeme.spelling).head? →
        Reads {} (before.flatMap Lexeme.spelling) rest s := by
  obtain ⟨s, hreads, hafter, offset, hok⟩ := exists_state_of_scan hscan .start h
  rw [Option.or_none] at hafter
  rw [readFrom] at hok
  split at hok
  · next next hread => exact ⟨s, next, hafter, hread, ⟨_, hok⟩, hreads⟩
  · cases hok
  · cases hok

/-! ## Related states -/

/-- The marks of the open sequences, the innermost first. -/
def State.openMarks (s : State) : List Marks :=
  (s.inner :: s.outer).map OpenSequence.marks

/-- A relation between states that the pass keeps. -/
structure Lockstep (Q : State → State → Prop) : Prop where
  openMarks {s s' : State} : Q s s' → s.openMarks = s'.openMarks
  mark {s s' : State} (marks : Marks) : Q s s' → Q (s.mark marks) (s'.mark marks)
  push {s s' : State} (t : Token) : Q s s' → Q (s.push t) (s'.push t)
  opening {s s' : State} : Q s s' → Q ⟨{}, s.inner :: s.outer⟩ ⟨{}, s'.inner :: s'.outer⟩
  closing {inner inner' level level' : OpenSequence} {outer outer' : List OpenSequence} :
    Q ⟨inner, level :: outer⟩ ⟨inner', level' :: outer'⟩ →
      Q ⟨level.push (.group inner.tokens), outer⟩ ⟨level'.push (.group inner'.tokens), outer'⟩

/-- A relation between states that the pass keeps, though the marks may differ: there are
marks in the same places. -/
structure KeepsPace (Q : State → State → Prop) : Prop where
  isEmpty {s s' : State} : Q s s' →
    s.openMarks.map Marks.isEmpty = s'.openMarks.map Marks.isEmpty
  condition {s s' : State} (c : Condition) : Q s s' →
    Q (s.mark { condition := some c }) (s'.mark { condition := some c })
  modifier {s s' : State} (m : Modifier) : Q s s' →
    Q (s.mark { s.inner.marks with modifiers := s.inner.marks.modifiers ++ [m] })
      (s'.mark { s'.inner.marks with modifiers := s'.inner.marks.modifiers ++ [m] })
  push {s s' : State} (t : Token) : Q s s' → Q (s.push t) (s'.push t)
  opening {s s' : State} : Q s s' → Q ⟨{}, s.inner :: s.outer⟩ ⟨{}, s'.inner :: s'.outer⟩
  closing {inner inner' level level' : OpenSequence} {outer outer' : List OpenSequence} :
    Q ⟨inner, level :: outer⟩ ⟨inner', level' :: outer'⟩ →
      Q ⟨level.push (.group inner.tokens), outer⟩ ⟨level'.push (.group inner'.tokens), outer'⟩

/-- Two results that are related: both are values, or both are faults. -/
inductive Alike {ε α : Type} (F : ε → ε → Prop) (R : α → α → Prop) :
    Except ε α → Except ε α → Prop
  | ok {a b : α} : R a b → Alike F R (.ok a) (.ok b)
  | error {e f : ε} : F e f → Alike F R (.error e) (.error f)

/-- Tokens in which the pass may end from related states. -/
def EndsAlike (Q : State → State → Prop) (tokens tokens' : List Token) : Prop :=
  Q { inner := { tokens } } { inner := { tokens := tokens' } }

section
variable {Q : State → State → Prop} {s s' : State}

theorem inner_marks_eq_of_openMarks (h : s.openMarks = s'.openMarks) :
    s.inner.marks = s'.inner.marks :=
  (List.cons.inj h).1

/-- What keeps the marks keeps the places where they are. -/
theorem Lockstep.keepsPace (h : Lockstep Q) : KeepsPace Q where
  isEmpty hs := congrArg (List.map Marks.isEmpty) (h.openMarks hs)
  condition c hs := h.mark { condition := some c } hs
  modifier m hs := by
    rw [inner_marks_eq_of_openMarks (h.openMarks hs)]
    exact h.mark _ hs
  push t hs := h.push t hs
  opening hs := h.opening hs
  closing hs := h.closing hs

theorem KeepsPace.inner_isEmpty (h : KeepsPace Q) (hs : Q s s') :
    s.inner.marks.isEmpty = s'.inner.marks.isEmpty :=
  (List.cons.inj (h.isEmpty hs)).1

theorem KeepsPace.outer_length (h : KeepsPace Q) (hs : Q s s') :
    s.outer.length = s'.outer.length := by
  have hlength := congrArg List.length (List.cons.inj (h.isEmpty hs)).2
  simpa using hlength

theorem isMarked_eq_any (s : State) :
    s.isMarked = (s.openMarks.map Marks.isEmpty).any (!·) := by
  simp only [State.isMarked, State.openMarks, List.map_map, List.any_map]
  rfl

/-- **One lexeme**: from related states it is read to related states, or it is the same
fault. -/
theorem KeepsPace.read (h : KeepsPace Q) (hs : Q s s') (lexeme : Lexeme) :
    Alike Eq Q (s.read lexeme) (s'.read lexeme) := by
  have hmarks := h.inner_isEmpty hs
  cases lexeme with
  | condition c =>
    simp only [State.read, hmarks]
    split
    · exact .ok (h.condition c hs)
    · exact .error rfl
  | modifier m => exact .ok (h.modifier m hs)
  | opening => exact .ok (h.opening hs)
  | closing =>
    simp only [State.read, hmarks]
    split
    · exact .error rfl
    · have hlength := h.outer_length hs
      obtain ⟨inner, outer⟩ := s
      obtain ⟨inner', outer'⟩ := s'
      -- Either state has a sequence around the innermost one, or none has.
      cases outer <;> cases outer'
      case nil.nil => exact .error rfl
      case cons.cons => exact .ok (h.closing hs)
      all_goals cases hlength
  | component code starred =>
    simp only [State.read]
    split
    · exact .ok (h.push _ hs)
    · exact .error rfl
  | unknown c =>
    simp only [State.read, isMarked_eq_any, h.isEmpty hs]
    exact .error rfl
  | danglingEscape => exact .error rfl
  | separator index => exact .ok (h.push _ hs)
  | escaped c => exact .ok (h.push _ hs)
  | run text => exact .ok (h.push _ hs)

theorem KeepsPace.finish (h : KeepsPace Q) (hs : Q s s') :
    Alike Eq (EndsAlike Q) s.finish s'.finish := by
  have hmarks : s.inner.marks.isEmpty = s'.inner.marks.isEmpty := h.inner_isEmpty hs
  have hlength : s.outer.length = s'.outer.length := h.outer_length hs
  obtain ⟨⟨tokens, marks⟩, outer⟩ := s
  obtain ⟨⟨tokens', marks'⟩, outer'⟩ := s'
  dsimp only at hmarks hlength
  by_cases hnone : marks.isEmpty = true
  · obtain rfl := (Marks.isEmpty_iff marks).mp hnone
    obtain rfl := (Marks.isEmpty_iff marks').mp (hmarks.symm.trans hnone)
    cases outer <;> cases outer'
    case nil.nil => exact .ok hs
    case cons.cons => exact .error rfl
    all_goals cases hlength
  · simp only [State.finish, ← hmarks, hnone]
    exact .error rfl

/-- **A whole run**: from related states the same lexemes are accepted.  If they are
not, then the fault is the same, at the same distance from where the lexemes start. -/
theorem KeepsPace.readFrom (h : KeepsPace Q) (hs : Q s s') (offset offset' : Nat)
    (lexemes : List Lexeme) :
    Alike (fun e e' => e.1 + offset' = e'.1 + offset ∧ e.2 = e'.2) (EndsAlike Q)
      (readFrom offset s lexemes) (readFrom offset' s' lexemes) := by
  induction lexemes generalizing s s' offset offset' with
  | nil =>
    have hfinish := h.finish hs
    unfold Pattern.readFrom
    generalize s.finish = result at hfinish ⊢
    generalize s'.finish = result' at hfinish ⊢
    cases hfinish with
    | ok htokens => exact .ok htokens
    | error hfault => exact .error ⟨Nat.add_comm _ _, hfault⟩
  | cons lexeme lexemes ih =>
    have hread := h.read hs lexeme
    unfold Pattern.readFrom
    generalize s.read lexeme = result at hread ⊢
    generalize s'.read lexeme = result' at hread ⊢
    cases hread with
    | @ok next next' hnext =>
      have hrest := ih hnext (offset + lexeme.size) (offset' + lexeme.size)
      simp only
      generalize Pattern.readFrom _ next lexemes = rest at hrest ⊢
      generalize Pattern.readFrom _ next' lexemes = rest' at hrest ⊢
      cases hrest with
      | ok htokens => exact .ok htokens
      | error hfault => exact .error ⟨by omega, hfault.2⟩
    | @error fault fault' hfault =>
      obtain rfl := hfault
      cases fault with
      | danglingEscape => exact .error ⟨by omega, rfl⟩
      | _ => exact .error ⟨Nat.add_comm _ _, rfl⟩

/-- What one run accepts the other accepts, wherever the lexemes start. -/
theorem KeepsPace.exists_tokens (h : KeepsPace Q) (hs : Q s s') {offset : Nat}
    {lexemes : List Lexeme} {tokens : List Token}
    (hread : Pattern.readFrom offset s lexemes = .ok tokens) (offset' : Nat) :
    ∃ tokens', Pattern.readFrom offset' s' lexemes = .ok tokens' ∧ EndsAlike Q tokens tokens' := by
  have halike := h.readFrom hs offset offset' lexemes
  rw [hread] at halike
  generalize hresult : Pattern.readFrom offset' s' lexemes = result at halike
  cases halike with
  | ok htokens => exact ⟨_, rfl, htokens⟩

end

/-- The pass does not depend on where it starts to count. -/
theorem lockstep_eq : Lockstep Eq where
  openMarks := by
    rintro s _ rfl
    rfl
  mark := by
    rintro s _ marks rfl
    rfl
  push := by
    rintro s _ t rfl
    rfl
  opening := by
    rintro s _ rfl
    rfl
  closing := by
    intro inner inner' level level' outer outer' h
    cases h
    rfl

end Pattern
end PersonalNames
