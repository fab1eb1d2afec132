import PersonalNames.Pattern.Lexeme

/-! # What a lexeme needs of the text behind it

`Lexeme.scan` reads a maximal run of literal characters and takes a star with
the component code in front of it, so whether a piece of text is one lexeme
depends on what follows.  `Fits` states that dependence once: a lexeme *fits* in
front of a text when scanning its spelling there gives back the lexeme and then
the lexemes of the text (`scan_spelling_append`).  Conversely every text is empty
or the spelling of a lexeme in front of a text where it fits (`scan_induction`),
so an argument about a scanned text goes lexeme by lexeme and never opens `scan`.
-/
namespace PersonalNames
namespace Lexeme

/-- Whether a text is empty or starts with a reserved character, so that a
literal run in front of it is maximal. -/
def EndsRun (rest : List Char) : Prop :=
  ∀ c, rest.head? = some c → isReserved c = true

theorem endsRun_nil : EndsRun [] := by
  intro c h
  cases h

theorem endsRun_cons {c : Char} (h : isReserved c = true) (rest : List Char) :
    EndsRun (c :: rest) := by
  intro d hd
  cases hd
  exact h

theorem EndsRun.head?_ne_star {rest : List Char} (h : EndsRun rest) : rest.head? ≠ some '*' := by
  intro hstar
  exact absurd (h '*' hstar) (by decide)

/-- Whether the spelling of a lexeme is scanned as that lexeme in front of a
text. -/
def Fits : Lexeme → List Char → Prop
  | run text, rest => text ≠ [] ∧ (∀ c ∈ text, isReserved c = false) ∧ EndsRun rest
  | component code true, _ => ofChar code = component code false
  | component code false, rest => ofChar code = component code false ∧ rest.head? ≠ some '*'
  | escaped _, _ => True
  | danglingEscape, rest => rest = []
  | lexeme, _ => ∃ c, ofChar c = lexeme

/-! ## Lexemes of one character -/

/-- The lexemes that a single character can give, each with what it says of the
character. -/
inductive Single (c : Char) : Lexeme → Prop
  | condition {sign : Condition} : Condition.ofCode? c = some sign → Single c (.condition sign)
  | modifier {change : Modifier} : Modifier.ofCode? c = some change → Single c (.modifier change)
  | separator {index : Nat} : separator? c = some index → Single c (.separator index)
  | opening : c = '(' → Single c .opening
  | closing : c = ')' → Single c .closing
  | component : (source? c).isSome = true → Single c (.component c false)
  | unknown : c.isAlpha = true → Single c (.unknown c)
  | run : c = '\\' ∨ isReserved c = false → Single c (.run [c])

/-- **What a character gives**, so that `ofChar` need not be opened again. -/
theorem single_of_ofChar {c : Char} {lexeme : Lexeme} (h : ofChar c = lexeme) :
    Single c lexeme := by
  subst h
  unfold ofChar
  split
  · next hsign => exact .condition hsign
  · next hchange => exact .modifier hchange
  · next hindex => exact .separator hindex
  · next hsign hchange hindex =>
    by_cases hopen : c = '('
    · rw [if_pos hopen]
      exact .opening hopen
    by_cases hclose : c = ')'
    · rw [if_neg hopen, if_pos hclose]
      exact .closing hclose
    by_cases hsource : (source? c).isSome = true
    · rw [if_neg hopen, if_neg hclose, if_pos hsource]
      exact .component hsource
    by_cases halpha : c.isAlpha = true
    · rw [if_neg hopen, if_neg hclose, if_neg hsource, if_pos halpha]
      exact .unknown halpha
    · rw [if_neg hopen, if_neg hclose, if_neg hsource, if_neg halpha]
      refine .run ?_
      by_cases hb : c = '\\'
      · exact Or.inl hb
      · exact Or.inr (by simp [isReserved, hopen, hclose, hb, halpha, hsign])

theorem ofChar_backslash : ofChar '\\' = run ['\\'] := by
  decide

theorem spelling_of_ofChar {c : Char} {lexeme : Lexeme} (h : ofChar c = lexeme) :
    lexeme.spelling = [c] := by
  rw [← h, spelling_ofChar]

theorem ofChar_ne_escaped (c d : Char) : ofChar c ≠ escaped d := by
  intro h
  cases single_of_ofChar h

theorem ofChar_ne_danglingEscape (c : Char) : ofChar c ≠ danglingEscape := by
  intro h
  cases single_of_ofChar h

/-- A single character is a component without a star, under its own code. -/
theorem ofChar_eq_component {c code : Char} {starred : Bool}
    (h : ofChar c = component code starred) : code = c ∧ starred = false := by
  cases single_of_ofChar h with
  | component _ => exact ⟨rfl, rfl⟩

theorem Fits.ofChar_component {code : Char} {starred : Bool} {rest : List Char}
    (h : (component code starred).Fits rest) : ofChar code = component code false := by
  cases starred with
  | true => exact h
  | false => exact h.1

/-- Only the backslash and the characters that are not reserved give a run. -/
theorem not_isReserved_of_ofChar {c : Char} {text : List Char} (h : ofChar c = run text)
    (hc : c ≠ '\\') : isReserved c = false := by
  cases single_of_ofChar h with
  | run hrun => exact hrun.resolve_left hc

theorem ne_backslash_of_not_isReserved {c : Char} (h : isReserved c = false) : c ≠ '\\' := by
  rintro rfl
  exact absurd h (by decide)

/-! ## Scanning the spelling of a lexeme -/

theorem scan_escaped (c : Char) (rest : List Char) :
    scan ('\\' :: c :: rest) = escaped c :: scan rest := by
  simp [scan]

/-- A lexeme of one character that nothing behind it can extend. -/
theorem scan_cons_of_ofChar {c : Char} {lexeme : Lexeme} (h : ofChar c = lexeme)
    (hrun : ∀ text, lexeme ≠ run text)
    (hcomponent : ∀ code starred, lexeme ≠ component code starred) (rest : List Char) :
    scan (c :: rest) = lexeme :: scan rest := by
  have hc : c ≠ '\\' := by
    rintro rfl
    exact hrun _ (h.symm.trans ofChar_backslash)
  rw [scan.eq_def]
  simp only [hc, ite_false, h]

theorem scan_component_starred {code : Char} (h : ofChar code = component code false)
    (rest : List Char) : scan (code :: '*' :: rest) = component code true :: scan rest := by
  have hc : code ≠ '\\' := by
    rintro rfl
    simp [ofChar_backslash] at h
  rw [scan.eq_def]
  simp only [hc, ite_false, h]

theorem scan_component {code : Char} (h : ofChar code = component code false) {rest : List Char}
    (hrest : rest.head? ≠ some '*') : scan (code :: rest) = component code false :: scan rest := by
  have hc : code ≠ '\\' := by
    rintro rfl
    simp [ofChar_backslash] at h
  rw [scan.eq_def]
  simp only [hc, ite_false, h]
  split
  · simp at hrest
  · rfl

/-- Behind the end of a run no further run is scanned. -/
theorem scan_ne_run {rest : List Char} (h : EndsRun rest) (text : List Char)
    (lexemes : List Lexeme) : scan rest ≠ run text :: lexemes := by
  cases rest with
  | nil => simp [scan]
  | cons c rest =>
    have hc : isReserved c = true := h c rfl
    rw [scan.eq_def]
    by_cases hb : c = '\\'
    · subst hb
      simp only [ite_true]
      split <;> simp
    · simp only [hb, ite_false]
      split
      · split <;> simp
      · next htext =>
        rw [not_isReserved_of_ofChar htext hb] at hc
        cases hc
      · next hother => simpa using fun he _ => hother text he

/-- A character that is not reserved joins the run behind it. -/
theorem scan_cons_run {c : Char} (h : isReserved c = false) {rest more : List Char}
    {lexemes : List Lexeme} (hrest : scan rest = run more :: lexemes) :
    scan (c :: rest) = run (c :: more) :: lexemes := by
  rw [scan.eq_def]
  simp only [ne_backslash_of_not_isReserved h, ite_false, ofChar_of_not_isReserved h, hrest]
  rfl

theorem scan_run {text rest : List Char} (hne : text ≠ [])
    (htext : ∀ c ∈ text, isReserved c = false) (hrest : EndsRun rest) :
    scan (text ++ rest) = run text :: scan rest := by
  induction text with
  | nil => exact absurd rfl hne
  | cons c text ih =>
    have hc : isReserved c = false := htext c List.mem_cons_self
    cases text with
    | nil =>
      rw [List.singleton_append, scan.eq_def]
      simp only [ne_backslash_of_not_isReserved hc, ite_false, ofChar_of_not_isReserved hc]
      split
      · next hscan => exact absurd hscan (scan_ne_run hrest _ _)
      · rfl
    | cons d text =>
      exact scan_cons_run hc (ih (List.cons_ne_nil d text)
        fun x hx => htext x (List.mem_cons_of_mem c hx))

/-- **A lexeme that fits is scanned first.** -/
theorem scan_spelling_append {lexeme : Lexeme} {rest : List Char} (h : lexeme.Fits rest) :
    scan (lexeme.spelling ++ rest) = lexeme :: scan rest := by
  cases lexeme with
  | run text => exact scan_run h.1 h.2.1 h.2.2
  | component code starred =>
    cases starred with
    | true => exact scan_component_starred h rest
    | false => exact scan_component h.1 h.2
  | escaped c => exact scan_escaped c rest
  | danglingEscape =>
    have hrest : rest = [] := h
    subst hrest
    rfl
  | _ =>
    obtain ⟨c, hc⟩ := h
    rw [spelling_of_ofChar hc]
    exact scan_cons_of_ofChar hc (by simp) (by simp) rest

/-! ## Every text is made of lexemes that fit -/

theorem endsRun_dropWhile (text : List Char) :
    EndsRun (text.dropWhile fun c => !isReserved c) := by
  intro c hc
  have hd := List.head?_dropWhile_not (fun c => !isReserved c) text
  rw [hc] at hd
  simpa using hd

/-- A text that is not empty starts with a lexeme that fits there. -/
theorem exists_fits_of_cons (c : Char) (text : List Char) :
    ∃ (lexeme : Lexeme) (rest : List Char),
      c :: text = lexeme.spelling ++ rest ∧ lexeme.Fits rest ∧
        rest.length < (c :: text).length := by
  by_cases hc : c = '\\'
  · subst hc
    cases text with
    | nil => exact ⟨danglingEscape, [], rfl, rfl, by simp⟩
    | cons d text => exact ⟨escaped d, text, rfl, trivial, by simp only [List.length_cons]; omega⟩
  cases h : ofChar c with
  | run first =>
    -- The run goes on to the next reserved character.
    refine ⟨run (c :: text.takeWhile fun c => !isReserved c),
      text.dropWhile fun c => !isReserved c, ?_, ⟨by simp, ?_, endsRun_dropWhile text⟩, ?_⟩
    · simp [spelling]
    · intro d hd
      rcases List.mem_cons.mp hd with rfl | hd
      · exact not_isReserved_of_ofChar h hc
      · simpa using List.all_eq_true.mp List.all_takeWhile d hd
    · exact Nat.lt_succ_of_le (List.dropWhile_sublist _).length_le
  | component code starred =>
    obtain ⟨rfl, rfl⟩ := ofChar_eq_component h
    by_cases hstar : text.head? = some '*'
    · obtain ⟨rest, rfl⟩ := List.head?_eq_some_iff.mp hstar
      exact ⟨component code true, rest, rfl, h, by simp only [List.length_cons]; omega⟩
    · exact ⟨component code false, text, rfl, ⟨h, hstar⟩, by simp⟩
  | escaped d => exact absurd h (ofChar_ne_escaped c d)
  | danglingEscape => exact absurd h (ofChar_ne_danglingEscape c)
  | _ =>
    exact ⟨ofChar c, text, by rw [spelling_ofChar]; rfl, by rw [h]; exact ⟨c, h⟩, by simp⟩

/-- Induction over the lexemes of a text. -/
@[elab_as_elim]
theorem scan_induction {motive : List Char → Prop} (text : List Char) (nil : motive [])
    (cons : ∀ (lexeme : Lexeme) (rest : List Char), lexeme.Fits rest → motive rest →
      motive (lexeme.spelling ++ rest)) : motive text := by
  -- What stands behind a lexeme is shorter.
  induction hn : text.length using Nat.strongRecOn generalizing text with
  | ind n ih =>
    cases text with
    | nil => exact nil
    | cons c text =>
      obtain ⟨lexeme, rest, heq, hfits, hlt⟩ := exists_fits_of_cons c text
      rw [heq]
      exact cons lexeme rest hfits (ih rest.length (hn ▸ hlt) rest rfl)

end Lexeme
end PersonalNames
