import PersonalNames.Text.Quoted

/-! # Quoted text says what it quotes

A quoted text stands on one line, whatever is in it, and no two texts are quoted alike
(`quoted_inj`).  Between the quotes each character is written for itself, in one of three
ways: by a letter behind a backslash, as it is, or by its number in braces (`QuotedForm`).
The first signs of a character tell which way it is written and where it ends, so it may be
taken off the front of a quoted text (`quoteChar_append_inj`), and then the next one.
-/
namespace PersonalNames
namespace Text

/-! ## Lines -/

/-- The characters that end a line. -/
def lineBreaks : List Char :=
  ['\n', '\x0b', '\x0c', '\r', '\x85', '\u2028', '\u2029']

/-- A text that stands on one line. -/
def IsLine (s : List Char) : Prop :=
  ∀ c ∈ s, c ∉ lineBreaks

instance (s : List Char) : Decidable (IsLine s) :=
  List.decidableBAll (fun c => c ∉ lineBreaks) s

theorem IsLine.append {s t : List Char} (hs : IsLine s) (ht : IsLine t) : IsLine (s ++ t) :=
  List.forall_mem_append.2 ⟨hs, ht⟩

theorem isLine_toList_append {s t : String} (hs : IsLine s.toList) (ht : IsLine t.toList) :
    IsLine (s ++ t).toList := by
  rw [String.toList_append]
  exact hs.append ht

/-! ## Digits -/

/-- What holds of every digit holds of every character of a number. -/
theorem forall_mem_toDigits {P : Char → Prop} {base : Nat} (hbase : 1 < base)
    (h : ∀ n < base, P n.digitChar) (n : Nat) : ∀ c ∈ Nat.toDigits base n, P c := by
  induction n using Nat.strongRecOn with
  | ind n ih =>
    rw [Nat.toDigits_eq_if hbase]
    by_cases hsmall : n < base
    · rw [if_pos hsmall]
      simpa using h n hsmall
    · rw [if_neg hsmall]
      have hshorter := ih (n / base) (Nat.div_lt_self (by omega) hbase)
      have hlast := h (n % base) (Nat.mod_lt n (by omega))
      simpa [or_imp, forall_and] using ⟨hshorter, hlast⟩

theorem isLine_repr (n : Nat) : IsLine n.repr.toList := by
  rw [Nat.toList_repr]
  exact forall_mem_toDigits (by decide) (by decide) n

/-- Numbers that are written alike are equal. -/
theorem toDigits_inj {base m n : Nat} (hbase : 1 < base) (hdigits : base ≤ 16)
    (h : Nat.toDigits base m = Nat.toDigits base n) : m = n := by
  have hdigit : ∀ i < 16, ∀ j < 16, i.digitChar = j.digitChar → i = j := by decide
  have hlength (k : Nat) : (Nat.toDigits base k).length ≤ 1 ↔ k < base := by
    simpa using Nat.length_toDigits_le_iff (n := k) (k := 1) hbase (by decide)
  induction m using Nat.strongRecOn generalizing n with
  | ind m ih =>
    have hboth : m < base ↔ n < base := by rw [← hlength, ← hlength, h]
    rw [Nat.toDigits_eq_if hbase, Nat.toDigits_eq_if (n := n) hbase] at h
    by_cases hm : m < base
    · have hn := hboth.1 hm
      rw [if_pos hm, if_pos hn] at h
      exact hdigit m (by omega) n (by omega) (List.cons.inj h).1
    · rw [if_neg hm, if_neg (mt hboth.2 hm)] at h
      obtain ⟨hfront, hlast⟩ := List.append_inj' h rfl
      have hquotient := ih (m / base) (Nat.div_lt_self (by omega) hbase) hfront
      have hsmall (k : Nat) : k % base < 16 := Nat.lt_of_lt_of_le (Nat.mod_lt k (by omega)) hdigits
      have hrest := hdigit _ (hsmall m) _ (hsmall n) (List.cons.inj hlast).1
      rw [← Nat.div_add_mod m base, hquotient, hrest, Nat.div_add_mod]

/-! ## Quoted characters -/

/-- The characters that are written by a letter, with their letters. -/
def escapes : List (Char × Char) :=
  [('\x00', '0'), ('\t', 't'), ('\n', 'n'), ('\r', 'r'), ('"', '"'), ('\\', '\\')]

/-- The ways in which a character is written between quotes. -/
inductive QuotedForm (c : Char) : List Char → Prop
  | letter {l : Char} (h : (c, l) ∈ escapes) : QuotedForm c ['\\', l]
  | plain (hescape : c ≠ '\\') (hbreak : c ∉ lineBreaks) : QuotedForm c [c]
  | number : QuotedForm c
      ('\\' :: 'u' :: '\x7b' :: (Nat.toDigits 16 c.toNat ++ ['\x7d']))

theorem not_mem_lineBreaks_of_isPlainlyVisible {c : Char} (h : isPlainlyVisible c = true) :
    c ∉ lineBreaks := by
  have hbreaks : lineBreaks.all (fun d => !isPlainlyVisible d) = true := by decide +kernel
  intro hmem
  have hhidden := List.all_eq_true.1 hbreaks c hmem
  rw [h] at hhidden
  cases hhidden

theorem quotedForm (c : Char) : QuotedForm c (quoteChar c) := by
  unfold quoteChar
  split
  · exact .letter (by decide)
  · exact .letter (by decide)
  · exact .letter (by decide)
  · exact .letter (by decide)
  · exact .letter (by decide)
  · exact .letter (by decide)
  · next hbackslash =>
    split
    · next hvisible =>
      exact .plain hbackslash (not_mem_lineBreaks_of_isPlainlyVisible hvisible)
    · exact .number

theorem QuotedForm.ne_nil {c : Char} {s : List Char} (h : QuotedForm c s) : s ≠ [] := by
  cases h <;> exact List.cons_ne_nil _ _

theorem QuotedForm.isLine {c : Char} {s : List Char} (h : QuotedForm c s) : IsLine s := by
  cases h with
  | @letter l hmem =>
    have hletters : ∀ pair ∈ escapes, IsLine ['\\', pair.2] := by decide
    exact hletters _ hmem
  | plain _ hbreak => exact fun d hd => List.mem_singleton.1 hd ▸ hbreak
  | number =>
    have hdigits : IsLine (Nat.toDigits 16 c.toNat) :=
      forall_mem_toDigits (by decide) (by decide) c.toNat
    have hopening : IsLine ['\\', 'u', '\x7b'] := by decide
    exact hopening.append (hdigits.append (by decide))

/-- Two texts that are cut at the same kind of character: what is in front of the first one
is the same, and so is the rest. -/
theorem append_inj_of_stop (stop : Char → Bool) {s t x y : List Char}
    (hs : ∀ c ∈ s, stop c = false) (ht : ∀ c ∈ t, stop c = false)
    (hx : ∀ c ∈ x.head?, stop c = true) (hy : ∀ c ∈ y.head?, stop c = true)
    (h : s ++ x = t ++ y) : s = t ∧ x = y := by
  induction s generalizing t with
  | nil =>
    cases t with
    | nil => exact ⟨rfl, h⟩
    | cons d t =>
      subst h
      have hclash := hx d rfl
      rw [ht d List.mem_cons_self] at hclash
      cases hclash
  | cons c s ih =>
    obtain ⟨hc, hmore⟩ := List.forall_mem_cons.1 hs
    cases t with
    | nil =>
      rw [List.nil_append] at h
      subst h
      have hclash := hy c rfl
      rw [hc] at hclash
      cases hclash
    | cons d t =>
      obtain ⟨rfl, hrest⟩ := List.cons.inj h
      obtain ⟨rfl, hend⟩ := ih hmore (List.forall_mem_cons.1 ht).2 hrest
      exact ⟨rfl, hend⟩

/-- What a character is written as tells the character and where it ends. -/
theorem QuotedForm.append_inj {c d : Char} {s t x y : List Char} (hs : QuotedForm c s)
    (ht : QuotedForm d t) (h : s ++ x = t ++ y) : c = d ∧ x = y := by
  have hnotU : ∀ pair ∈ escapes, pair.2 ≠ 'u' := by decide
  have hapart : ∀ pair ∈ escapes, ∀ other ∈ escapes, pair.2 = other.2 → pair.1 = other.1 := by
    decide
  cases hs with
  | letter hc =>
    cases ht with
    | letter hd =>
      injection h with _ h
      injection h with hletter hrest
      exact ⟨hapart _ hc _ hd hletter, hrest⟩
    | plain hescape _ =>
      injection h with hfirst _
      exact absurd hfirst.symm hescape
    | number =>
      injection h with _ h
      injection h with hletter _
      exact absurd hletter (hnotU _ hc)
  | plain hescape _ =>
    cases ht with
    | plain _ _ => exact List.cons.inj h
    | letter _ =>
      injection h with hfirst _
      exact absurd hfirst hescape
    | number =>
      injection h with hfirst _
      exact absurd hfirst hescape
  | number =>
    cases ht with
    | letter hd =>
      injection h with _ h
      injection h with hletter _
      exact absurd hletter.symm (hnotU _ hd)
    | plain hescape _ =>
      injection h with hfirst _
      exact absurd hfirst.symm hescape
    | number =>
      -- The digits end at the closing brace.
      have hdigits (n : Nat) : ∀ e ∈ Nat.toDigits 16 n, (e == '\x7d') = false :=
        forall_mem_toDigits (by decide) (by decide) n
      simp only [List.cons_append, List.append_assoc, List.cons.injEq, true_and] at h
      obtain ⟨hnumber, hrest⟩ := append_inj_of_stop (· == '\x7d') (hdigits c.toNat)
        (hdigits d.toNat) (by rintro e ⟨⟩; rfl) (by rintro e ⟨⟩; rfl) h
      exact ⟨Char.toNat_inj.1 (toDigits_inj (by decide) (by decide) hnumber), (List.cons.inj hrest).2⟩

theorem quoteChar_append_inj {c d : Char} {x y : List Char}
    (h : quoteChar c ++ x = quoteChar d ++ y) : c = d ∧ x = y :=
  (quotedForm c).append_inj (quotedForm d) h

/-! ## Quoted texts -/

theorem flatMap_quoteChar_inj {s t : List Char} (h : s.flatMap quoteChar = t.flatMap quoteChar) :
    s = t := by
  induction s generalizing t with
  | nil =>
    cases t with
    | nil => rfl
    | cons d t =>
      have hnil := List.append_eq_nil_iff.1 h.symm
      exact absurd hnil.1 (quotedForm d).ne_nil
  | cons c s ih =>
    cases t with
    | nil =>
      have hnil := List.append_eq_nil_iff.1 h
      exact absurd hnil.1 (quotedForm c).ne_nil
    | cons d t =>
      rw [List.flatMap_cons, List.flatMap_cons] at h
      obtain ⟨rfl, hrest⟩ := quoteChar_append_inj h
      rw [ih hrest]

/-- **No two texts are quoted alike.** -/
theorem quoted_inj {s t : String} : quoted s = quoted t ↔ s = t := by
  constructor
  · intro h
    rw [quoted, quoted, String.ofList_inj, List.cons_append, List.cons_append] at h
    obtain ⟨-, hinner⟩ := List.cons.inj h
    exact String.toList_inj.1 (flatMap_quoteChar_inj (List.append_cancel_right hinner))
  · rintro rfl
    rfl

/-- **A quoted text stands on one line.** -/
theorem isLine_quoted (s : String) : IsLine (quoted s).toList := by
  have hinner : IsLine (s.toList.flatMap quoteChar) := by
    intro d hd
    obtain ⟨c, -, himage⟩ := List.mem_flatMap.1 hd
    exact (quotedForm c).isLine d himage
  have hquote : IsLine ['"'] := by decide
  rw [quoted, String.toList_ofList]
  exact (hquote.append hinner).append hquote

end Text
end PersonalNames
