import PersonalNames.Text.Blank

/-! # Words and the blanks around them

A text is a row of words with blanks around them.  `wordwise_induction` takes a text apart
in this way, a blank or a whole word at a time, so that what is said of a text is said of
its words.  The blanks are what `gaps` lists, and words and gaps together are the text
(`interleave_gaps_words`).

A mapping is wordwise if it leaves the blanks as they are and makes a word of each word,
whatever stands around it.  Then it may be applied before or after the text is trimmed or
split into words (`IsWordwise.words_eq`, `IsWordwise.trim_eq`).
-/
namespace PersonalNames
namespace Text

/-- A text without blanks that is not empty. -/
def IsWord (s : List Char) : Prop :=
  s ≠ [] ∧ ∀ c ∈ s, isBlank c = false

/-- What may follow a word: nothing, or a text that starts with a blank. -/
def AtBreak (s : List Char) : Prop :=
  ∀ c ∈ s.head?, isBlank c = true

theorem isWord_singleton {c : Char} (h : isBlank c = false) : IsWord [c] := by
  refine ⟨List.cons_ne_nil _ _, ?_⟩
  intro d hd
  rwa [List.mem_singleton.1 hd]

theorem IsWord.append {w s : List Char} (hword : IsWord w) (hsolid : ∀ c ∈ s, isBlank c = false) :
    IsWord (w ++ s) :=
  ⟨List.append_ne_nil_of_left_ne_nil hword.1 s, List.forall_mem_append.2 ⟨hword.2, hsolid⟩⟩

theorem IsWord.not_blank {w : List Char} (h : IsWord w) : ¬ ∀ c ∈ w, isBlank c = true := by
  obtain ⟨c, hc⟩ := List.exists_mem_of_ne_nil w h.1
  intro hblank
  have hclash := hblank c hc
  rw [h.2 c hc] at hclash
  cases hclash

theorem atBreak_nil : AtBreak [] :=
  fun _ h => nomatch h

theorem atBreak_cons {c : Char} (h : isBlank c = true) (s : List Char) : AtBreak (c :: s) := by
  rintro d ⟨⟩
  exact h

/-- **Induction over blanks and words.**  A text is empty, or starts with a blank, or with a
word that ends where it ends or in front of a blank. -/
@[elab_as_elim]
theorem wordwise_induction {P : List Char → Prop} (nil : P [])
    (blank : ∀ c s, isBlank c = true → P s → P (c :: s))
    (word : ∀ w s, IsWord w → AtBreak s → P s → P (w ++ s)) (s : List Char) : P s := by
  match s with
  | [] => exact nil
  | c :: rest =>
    by_cases hblank : isBlank c = true
    · exact blank c rest hblank (wordwise_induction nil blank word rest)
    · have hsplit : c :: rest = (c :: rest.takeWhile fun d => !isBlank d) ++
          rest.dropWhile fun d => !isBlank d := by
        rw [List.cons_append, List.takeWhile_append_dropWhile]
      have hword : IsWord (c :: rest.takeWhile fun d => !isBlank d) := by
        refine ⟨List.cons_ne_nil _ _, ?_⟩
        intro d hd
        rcases List.mem_cons.1 hd with rfl | hd
        · exact Bool.eq_false_iff.2 hblank
        · simpa using List.all_eq_true.1 List.all_takeWhile d hd
      have hbreak : AtBreak (rest.dropWhile fun d => !isBlank d) := by
        intro d hd
        have hhead := List.head?_dropWhile_not (fun d => !isBlank d) rest
        rw [Option.mem_def.1 hd] at hhead
        simpa using hhead
      rw [hsplit]
      exact word _ _ hword hbreak (wordwise_induction nil blank word _)
termination_by s.length
decreasing_by
  · simp
  · have hlength := (List.dropWhile_sublist (l := rest) fun d => !isBlank d).length_le
    simp only [List.length_cons]
    omega

/-! ## Words -/

theorem words_cons_of_blank {c : Char} (h : isBlank c = true) (s : List Char) :
    words (c :: s) = words s := by
  rw [words.eq_def]
  simp [h]

theorem words_cons_at_break {c : Char} (h : isBlank c = false) {s : List Char}
    (hbreak : AtBreak s) : words (c :: s) = [c] :: words s := by
  cases s with
  | nil =>
    have hwhole : words [c] = if isBlank c then [] else [[c]] := rfl
    rw [hwhole, h]
    rfl
  | cons d s =>
    rw [words.eq_def]
    simp [h, hbreak d rfl]

theorem words_cons_inside {c d : Char} (hc : isBlank c = false) (hd : isBlank d = false)
    {w s : List Char} {others : List (List Char)} (h : words (d :: s) = w :: others) :
    words (c :: d :: s) = (c :: w) :: others := by
  rw [words.eq_def]
  simp [hc, hd, h]

theorem words_append {w s : List Char} (hword : IsWord w) (hbreak : AtBreak s) :
    words (w ++ s) = w :: words s := by
  obtain ⟨hne, hsolid⟩ := hword
  induction w with
  | nil => exact absurd rfl hne
  | cons c w ih =>
    obtain ⟨hc, hrest⟩ := List.forall_mem_cons.1 hsolid
    cases w with
    | nil => exact words_cons_at_break hc hbreak
    | cons d w =>
      exact words_cons_inside hc (hrest d List.mem_cons_self) (ih (List.cons_ne_nil _ _) hrest)

theorem isWord_of_mem_words {s w : List Char} (h : w ∈ words s) : IsWord w := by
  induction s using wordwise_induction with
  | nil => cases h
  | blank c s hblank ih =>
    rw [words_cons_of_blank hblank] at h
    exact ih h
  | word v s hword hbreak ih =>
    rw [words_append hword hbreak] at h
    rcases List.mem_cons.1 h with rfl | h
    · exact hword
    · exact ih h

/-- A text has no words exactly if all of it is blank. -/
theorem words_eq_nil_iff {s : List Char} : words s = [] ↔ ∀ c ∈ s, isBlank c = true := by
  induction s using wordwise_induction with
  | nil => exact iff_of_true rfl fun _ h => nomatch h
  | blank c s hblank ih =>
    rw [words_cons_of_blank hblank, ih, List.forall_mem_cons, and_iff_right hblank]
  | word w s hword hbreak ih =>
    rw [words_append hword hbreak]
    refine iff_of_false (List.cons_ne_nil _ _) ?_
    intro hblank
    exact hword.not_blank (List.forall_mem_append.1 hblank).1

/-! ## Gaps -/

/-- The blanks in front of, between and behind the words of a text, in order.  There is one
gap more than there are words; the first and the last may be empty. -/
def gaps : List Char → List (List Char)
  | [] => [[]]
  | c :: rest =>
    if isBlank c then (gaps rest).modifyHead (c :: ·)
    else if rest.head?.all isBlank then [] :: gaps rest
    else gaps rest

/-- Gaps with words between them. -/
def interleave : List (List Char) → List (List Char) → List Char
  | gap :: gaps, word :: words => gap ++ word ++ interleave gaps words
  | gap :: _, [] => gap
  | [], _ => []

theorem gaps_cons_of_blank {c : Char} (h : isBlank c = true) (s : List Char) :
    gaps (c :: s) = (gaps s).modifyHead (c :: ·) := by
  rw [gaps, if_pos h]

theorem gaps_append {w s : List Char} (hword : IsWord w) (hbreak : AtBreak s) :
    gaps (w ++ s) = [] :: gaps s := by
  obtain ⟨hne, hsolid⟩ := hword
  induction w with
  | nil => exact absurd rfl hne
  | cons c w ih =>
    obtain ⟨hc, hrest⟩ := List.forall_mem_cons.1 hsolid
    rw [List.cons_append, gaps, hc, if_neg Bool.false_ne_true]
    cases w with
    | nil =>
      have hhead : s.head?.all isBlank = true := by
        cases s with
        | nil => rfl
        | cons d s => exact hbreak d rfl
      rw [List.nil_append, if_pos hhead]
    | cons d w =>
      have hinside : ¬ (d :: w ++ s).head?.all isBlank = true := by
        simp [hrest d List.mem_cons_self]
      rw [if_neg hinside]
      exact ih (List.cons_ne_nil _ _) hrest

theorem gaps_ne_nil (s : List Char) : gaps s ≠ [] := by
  induction s using wordwise_induction with
  | nil => exact List.cons_ne_nil _ _
  | blank c s hblank ih =>
    rw [gaps_cons_of_blank hblank]
    exact mt List.modifyHead_eq_nil_iff.1 ih
  | word w s hword hbreak _ =>
    rw [gaps_append hword hbreak]
    exact List.cons_ne_nil _ _

/-- A text is its words with its gaps around them. -/
theorem interleave_gaps_words (s : List Char) : interleave (gaps s) (words s) = s := by
  induction s using wordwise_induction with
  | nil => rfl
  | blank c s hblank ih =>
    rw [gaps_cons_of_blank hblank, words_cons_of_blank hblank]
    obtain ⟨gap, others, hgaps⟩ := List.exists_cons_of_ne_nil (gaps_ne_nil s)
    rw [hgaps] at ih ⊢
    cases hwords : words s with
    | nil => rw [hwords] at ih; exact congrArg (c :: ·) ih
    | cons word more => rw [hwords] at ih; exact congrArg (c :: ·) ih
  | word w s hword hbreak ih =>
    rw [gaps_append hword hbreak, words_append hword hbreak, interleave, ih, List.nil_append]

/-! ## The characters in front of words -/

/-- The characters in front of the words of a text that stands behind `before`; there is
none where nothing stands in front. -/
def frontsAfter (before : Option Char) : List Char → List (Option Char)
  | [] => []
  | c :: rest =>
    if isBlank c || before.any (!isBlank ·) then frontsAfter (some c) rest
    else before :: frontsAfter (some c) rest

/-- For each word of a text, the character in front of it.  Only the first word may have
none. -/
def fronts (s : List Char) : List (Option Char) :=
  frontsAfter none s

theorem frontsAfter_cons_of_blank {c : Char} (h : isBlank c = true) (before : Option Char)
    (s : List Char) : frontsAfter before (c :: s) = frontsAfter (some c) s := by
  rw [frontsAfter, h, Bool.true_or, if_pos rfl]

/-- In front of a blank it does not matter what came before. -/
theorem frontsAfter_of_atBreak {s : List Char} (h : AtBreak s) (before other : Option Char) :
    frontsAfter before s = frontsAfter other s := by
  cases s with
  | nil => rfl
  | cons c s => rw [frontsAfter_cons_of_blank (h c rfl), frontsAfter_cons_of_blank (h c rfl)]

/-- Inside a word no other word begins. -/
theorem frontsAfter_inside {c : Char} (hc : isBlank c = false) {w s : List Char}
    (hsolid : ∀ d ∈ w, isBlank d = false) (hbreak : AtBreak s) :
    frontsAfter (some c) (w ++ s) = frontsAfter none s := by
  induction w generalizing c with
  | nil => exact frontsAfter_of_atBreak hbreak _ _
  | cons d w ih =>
    rw [List.cons_append, frontsAfter, Option.any_some, hc, Bool.not_false, Bool.or_true,
      if_pos rfl]
    exact ih (hsolid d List.mem_cons_self) fun e he => hsolid e (List.mem_cons_of_mem _ he)

theorem frontsAfter_append {w s : List Char} (hword : IsWord w) (hbreak : AtBreak s)
    {before : Option Char} (hbefore : ∀ c ∈ before, isBlank c = true) :
    frontsAfter before (w ++ s) = before :: frontsAfter none s := by
  obtain ⟨hne, hsolid⟩ := hword
  cases w with
  | nil => exact absurd rfl hne
  | cons c w =>
    have hc := hsolid c List.mem_cons_self
    have houtside : before.any (!isBlank ·) = false := by
      cases before with
      | none => rfl
      | some d => rw [Option.any_some, hbefore d rfl, Bool.not_true]
    rw [List.cons_append, frontsAfter, hc, houtside, Bool.or_false, if_neg Bool.false_ne_true]
    have hinside := frontsAfter_inside hc (fun d hd => hsolid d (List.mem_cons_of_mem _ hd)) hbreak
    rw [hinside]

theorem length_frontsAfter {before : Option Char} (hbefore : ∀ c ∈ before, isBlank c = true)
    (s : List Char) : (frontsAfter before s).length = (words s).length := by
  induction s using wordwise_induction generalizing before with
  | nil => rfl
  | blank c s hblank ih =>
    rw [frontsAfter_cons_of_blank hblank, words_cons_of_blank hblank]
    exact ih (by rintro d ⟨⟩; exact hblank)
  | word w s hword hbreak ih =>
    rw [frontsAfter_append hword hbreak hbefore, words_append hword hbreak, List.length_cons,
      List.length_cons, ih (by simp)]

/-! ## Trimming -/

theorem trimStart_append {w : List Char} (h : IsWord w) (s : List Char) :
    trimStart (w ++ s) = w ++ s := by
  obtain ⟨hne, hsolid⟩ := h
  cases w with
  | nil => exact absurd rfl hne
  | cons c w =>
    exact trimStart_cons_of_not_blank (by simp [hsolid c List.mem_cons_self]) (w ++ s)

theorem trimEnd_append {w : List Char} (h : IsWord w) (s : List Char) :
    trimEnd (w ++ s) = w ++ trimEnd s := by
  have hkept : w.reverse.dropWhile isBlank = w.reverse := by
    have hlast : IsWord w.reverse := ⟨by simpa using h.1, by simpa using h.2⟩
    have htrim := trimStart_append hlast []
    rwa [List.append_nil] at htrim
  unfold trimEnd
  rw [List.reverse_append, List.dropWhile_append, hkept]
  cases s.reverse.dropWhile isBlank <;> simp

/-- A blank in front stays if anything is left behind it. -/
theorem trimEnd_cons_of_blank {c : Char} (h : isBlank c = true) (s : List Char) :
    trimEnd (c :: s) = if trimEnd s = [] then [] else c :: trimEnd s := by
  unfold trimEnd
  rw [List.reverse_cons, List.dropWhile_append]
  cases s.reverse.dropWhile isBlank <;> simp [h]

theorem trimEnd_nil : trimEnd [] = [] :=
  rfl

theorem AtBreak.trimEnd {s : List Char} (h : AtBreak s) : AtBreak (trimEnd s) := by
  cases s with
  | nil => exact atBreak_nil
  | cons c s =>
    have hc := h c rfl
    rw [trimEnd_cons_of_blank hc]
    split
    · exact atBreak_nil
    · exact atBreak_cons hc _

theorem words_trimStart (s : List Char) : words (trimStart s) = words s := by
  induction s using wordwise_induction with
  | nil => rfl
  | blank c s hblank ih => rw [trimStart_cons_of_blank hblank, words_cons_of_blank hblank, ih]
  | word w s hword _ _ => rw [trimStart_append hword]

theorem words_trimEnd (s : List Char) : words (trimEnd s) = words s := by
  induction s using wordwise_induction with
  | nil => rfl
  | blank c s hblank ih =>
    rw [trimEnd_cons_of_blank hblank, words_cons_of_blank hblank, ← ih]
    by_cases hnil : trimEnd s = []
    · rw [if_pos hnil, hnil]
    · rw [if_neg hnil, words_cons_of_blank hblank]
  | word w s hword hbreak ih =>
    rw [trimEnd_append hword, words_append hword hbreak.trimEnd, words_append hword hbreak, ih]

/-- Trimming keeps the words. -/
theorem words_trim (s : List Char) : words (trim s) = words s := by
  rw [trim, words_trimEnd, words_trimStart]

/-! ## Wordwise mappings -/

/-- A mapping of texts that leaves blanks as they are and changes each word by itself. -/
structure IsWordwise (f : List Char → List Char) : Prop where
  nil : f [] = []
  blank {c : Char} (h : isBlank c = true) (s : List Char) : f (c :: s) = c :: f s
  append {w s : List Char} (hword : IsWord w) (hbreak : AtBreak s) : f (w ++ s) = f w ++ f s
  isWord {w : List Char} (h : IsWord w) : IsWord (f w)

namespace IsWordwise

variable {f : List Char → List Char} (h : IsWordwise f)
include h

theorem atBreak {s : List Char} (hbreak : AtBreak s) : AtBreak (f s) := by
  cases s with
  | nil => rw [h.nil]; exact atBreak_nil
  | cons c s =>
    rw [h.blank (hbreak c rfl)]
    exact atBreak_cons (hbreak c rfl) _

theorem eq_nil_iff {s : List Char} : f s = [] ↔ s = [] := by
  induction s using wordwise_induction with
  | nil => exact iff_of_true h.nil rfl
  | blank c s hblank _ =>
    rw [h.blank hblank]
    exact iff_of_false (List.cons_ne_nil _ _) (List.cons_ne_nil _ _)
  | word w s hword hbreak _ =>
    rw [h.append hword hbreak]
    refine iff_of_false ?_ ?_
    · exact List.append_ne_nil_of_left_ne_nil (h.isWord hword).1 _
    · exact List.append_ne_nil_of_left_ne_nil hword.1 _

/-- **The words of the changed text are the changed words.** -/
theorem words_eq (s : List Char) : words (f s) = (words s).map f := by
  induction s using wordwise_induction with
  | nil => rw [h.nil]; rfl
  | blank c s hblank ih =>
    rw [h.blank hblank, words_cons_of_blank hblank, words_cons_of_blank hblank, ih]
  | word w s hword hbreak ih =>
    rw [h.append hword hbreak, words_append (h.isWord hword) (h.atBreak hbreak), ih,
      words_append hword hbreak, List.map_cons]

theorem trimStart_eq (s : List Char) : trimStart (f s) = f (trimStart s) := by
  induction s using wordwise_induction with
  | nil => rw [h.nil, trimStart, List.dropWhile_nil, h.nil]
  | blank c s hblank ih =>
    rw [h.blank hblank, trimStart_cons_of_blank hblank, trimStart_cons_of_blank hblank, ih]
  | word w s hword hbreak _ =>
    rw [h.append hword hbreak, trimStart_append (h.isWord hword), trimStart_append hword,
      h.append hword hbreak]

theorem trimEnd_eq (s : List Char) : trimEnd (f s) = f (trimEnd s) := by
  induction s using wordwise_induction with
  | nil => rw [trimEnd_nil, h.nil, trimEnd_nil]
  | blank c s hblank ih =>
    rw [h.blank hblank, trimEnd_cons_of_blank hblank, trimEnd_cons_of_blank hblank, ih]
    by_cases hnil : trimEnd s = []
    · rw [if_pos (h.eq_nil_iff.2 hnil), if_pos hnil, h.nil]
    · rw [if_neg (mt h.eq_nil_iff.1 hnil), if_neg hnil, h.blank hblank]
  | word w s hword hbreak ih =>
    rw [h.append hword hbreak, trimEnd_append (h.isWord hword), ih, trimEnd_append hword,
      h.append hword hbreak.trimEnd]

/-- **The trimmed text may be changed, or the changed text trimmed.** -/
theorem trim_eq (s : List Char) : trim (f s) = f (trim s) := by
  rw [trim, h.trimStart_eq, h.trimEnd_eq]
  rfl

end IsWordwise

end Text
end PersonalNames
