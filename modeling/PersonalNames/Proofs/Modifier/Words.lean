import PersonalNames.Modifier
import PersonalNames.Proofs.Text.CaseMapping

/-! # What modifiers do to words

To a modifier a text is its words.  `firstWord` and `lastWord` choose one of them, `trim`
keeps them all, and upper and lower case change each by itself.  So it does not matter
whether the case is changed before or after a text is cut (`case_change_commutes_with_cut`),
and no modifier leaves a text without words that had some (`words_change_eq_nil_iff`).

`capitalizeWords` is the exception.  It begins a word at the start of the text and behind
a space, but all other modifiers know more blanks than the space.  A word behind another
blank, such as a tab or a no-break space, keeps its first letter (`words_capitalizeWords`).
-/
namespace PersonalNames
namespace Text

/-! ## Capitals -/

theorem isWord_capitalize {w : List Char} (h : IsWord w) : IsWord (capitalize w) := by
  obtain ⟨hne, hsolid⟩ := h
  cases w with
  | nil => exact absurd rfl hne
  | cons c w =>
    obtain ⟨hc, hrest⟩ := List.forall_mem_cons.1 hsolid
    exact (isWord_upperChar hc).append hrest

/-- Whether a word behind a character is capitalized together with all words: where nothing
stands in front of it, or a space. -/
def isCapitalizedBehind (front : Option Char) : Bool :=
  front.all (· == ' ')

/-- A word as it is capitalized together with all words. -/
def capitalizeBehind (front : Option Char) (word : List Char) : List Char :=
  if isCapitalizedBehind front then capitalize word else word

theorem isWord_capitalizeBehind {w : List Char} (h : IsWord w) (front : Option Char) :
    IsWord (capitalizeBehind front w) := by
  unfold capitalizeBehind
  split
  · exact isWord_capitalize h
  · exact h

theorem beq_space_of_not_blank {c : Char} (h : isBlank c = false) : (c == ' ') = false := by
  apply beq_false_of_ne
  rintro rfl
  cases h

open capitalizeAfterSpaces (go)

theorem go_cons_of_blank {c : Char} (h : isBlank c = true) (fresh : Bool) (s : List Char) :
    go fresh (c :: s) = c :: go (c == ' ') s := by
  rw [go, upperChar_of_blank h, ite_self, List.singleton_append]

/-- In front of a blank it does not matter what came before. -/
theorem go_of_atBreak {s : List Char} (h : AtBreak s) (fresh other : Bool) :
    go fresh s = go other s := by
  cases s with
  | nil => rfl
  | cons c s => rw [go_cons_of_blank (h c rfl), go_cons_of_blank (h c rfl)]

theorem atBreak_go {s : List Char} (h : AtBreak s) (fresh : Bool) : AtBreak (go fresh s) := by
  cases s with
  | nil => exact atBreak_nil
  | cons c s =>
    rw [go_cons_of_blank (h c rfl)]
    exact atBreak_cons (h c rfl) _

/-- Up to the next space nothing changes. -/
theorem go_append_of_no_space {w : List Char} (h : ∀ c ∈ w, (c == ' ') = false) (s : List Char) :
    go false (w ++ s) = w ++ go false s := by
  induction w with
  | nil => rfl
  | cons c w ih =>
    obtain ⟨hc, hrest⟩ := List.forall_mem_cons.1 h
    rw [List.cons_append, go, hc, ih hrest]
    rfl

/-- Inside a word nothing changes. -/
theorem go_inside {w s : List Char} (hsolid : ∀ c ∈ w, isBlank c = false) (hbreak : AtBreak s) :
    go false (w ++ s) = w ++ go true s := by
  rw [go_append_of_no_space (fun c hc => beq_space_of_not_blank (hsolid c hc)),
    go_of_atBreak hbreak false true]

theorem go_append {w s : List Char} (hword : IsWord w) (hbreak : AtBreak s)
    (front : Option Char) :
    go (isCapitalizedBehind front) (w ++ s) = capitalizeBehind front w ++ go true s := by
  obtain ⟨hne, hsolid⟩ := hword
  cases w with
  | nil => exact absurd rfl hne
  | cons c w =>
    obtain ⟨hc, hrest⟩ := List.forall_mem_cons.1 hsolid
    rw [List.cons_append, go, beq_space_of_not_blank hc, go_inside hrest hbreak,
      ← List.append_assoc]
    unfold capitalizeBehind
    split <;> rfl

/-- Behind a character, each word is capitalized by what stands in front of it. -/
theorem words_go {front : Option Char} (hfront : ∀ c ∈ front, isBlank c = true) (s : List Char) :
    words (go (isCapitalizedBehind front) s) =
      List.zipWith capitalizeBehind (frontsAfter front s) (words s) := by
  induction s using wordwise_induction generalizing front with
  | nil => rfl
  | blank c s hblank ih =>
    rw [go_cons_of_blank hblank, words_cons_of_blank hblank, words_cons_of_blank hblank,
      frontsAfter_cons_of_blank hblank]
    exact @ih (some c) (by rintro d ⟨⟩; exact hblank)
  | word w s hword hbreak ih =>
    rw [go_append hword hbreak,
      words_append (isWord_capitalizeBehind hword front) (atBreak_go hbreak true),
      words_append hword hbreak, frontsAfter_append hword hbreak hfront, List.zipWith_cons_cons]
    exact congrArg (_ :: ·) (@ih none (by simp))

/-- The blanks between the words stay. -/
theorem gaps_go (fresh : Bool) (s : List Char) : gaps (go fresh s) = gaps s := by
  induction s using wordwise_induction generalizing fresh with
  | nil => rfl
  | blank c s hblank ih =>
    rw [go_cons_of_blank hblank, gaps_cons_of_blank hblank, gaps_cons_of_blank hblank, ih]
  | word w s hword hbreak ih =>
    obtain ⟨front, rfl⟩ : ∃ front, fresh = isCapitalizedBehind front := by
      cases fresh with
      | true => exact ⟨none, rfl⟩
      | false => exact ⟨some '\t', rfl⟩
    rw [go_append hword hbreak,
      gaps_append (isWord_capitalizeBehind hword front) (atBreak_go hbreak true),
      gaps_append hword hbreak, ih]

theorem words_capitalizeAfterSpaces (s : List Char) :
    words (capitalizeAfterSpaces s) = List.zipWith capitalizeBehind (fronts s) (words s) :=
  @words_go none (by simp) s

theorem length_fronts (s : List Char) : (fronts s).length = (words s).length :=
  length_frontsAfter (by simp) s

/-- All words are capitalized exactly if none is left that capitalizing would change. -/
theorem zipWith_capitalizeBehind_eq_iff {fronts : List (Option Char)} {words : List (List Char)}
    (h : fronts.length = words.length) :
    List.zipWith capitalizeBehind fronts words = words.map capitalize ↔
      ∀ pair ∈ fronts.zip words,
        pair.1 = none ∨ pair.1 = some ' ' ∨ capitalize pair.2 = pair.2 := by
  induction fronts generalizing words with
  | nil =>
    cases words with
    | nil => simp
    | cons word words => cases h
  | cons front fronts ih =>
    cases words with
    | nil => cases h
    | cons word words =>
      have hword : capitalizeBehind front word = capitalize word ↔
          front = none ∨ front = some ' ' ∨ capitalize word = word := by
        unfold capitalizeBehind isCapitalizedBehind
        cases front with
        | none => simp
        | some c =>
          by_cases hc : c = ' '
          · simp [hc]
          · simpa [hc] using eq_comm
      rw [List.zipWith_cons_cons, List.map_cons, List.cons.injEq, hword,
        ih (Nat.succ.inj h), List.zip_cons_cons, List.forall_mem_cons]

end Text

namespace Modifier

open Text (words gaps fronts capitalizeBehind IsWordwise)

theorem toList_apply (m : Modifier) (s : String) : (m.apply s).toList = m.change s.toList :=
  String.toList_ofList

/-- **Which words `capitalizeWords` capitalizes.**  The blanks of a text stay, and each of
its words at the start or behind a space is capitalized; a word behind another blank is
left as it is.  So the words of the result are the capitalized words exactly if each word
behind a blank other than the space is as it would be when capitalized. -/
theorem words_capitalizeWords (s : String) :
    gaps (capitalizeWords.apply s).toList = gaps s.toList ∧
      words (capitalizeWords.apply s).toList =
        List.zipWith capitalizeBehind (fronts s.toList) (words s.toList) ∧
      (words (capitalizeWords.apply s).toList = (words s.toList).map capitalize.change ↔
        ∀ pair ∈ (fronts s.toList).zip (words s.toList),
          pair.1 = none ∨ pair.1 = some ' ' ∨ capitalize.change pair.2 = pair.2) := by
  have hresult : (capitalizeWords.apply s).toList = Text.capitalizeAfterSpaces s.toList :=
    toList_apply capitalizeWords s
  have hwords := Text.words_capitalizeAfterSpaces s.toList
  rw [hresult]
  refine ⟨Text.gaps_go true s.toList, hwords, ?_⟩
  rw [hwords]
  exact Text.zipWith_capitalizeBehind_eq_iff (Text.length_fronts s.toList)

/-- A tab separates two words, of which the second is not capitalized. -/
theorem not_words_capitalizeWords_behind_tab :
    let whole := "van\tgogh".toList
    let result := (capitalizeWords.apply "van\tgogh").toList
    words whole = ["van".toList, "gogh".toList] ∧
      words result = ["Van".toList, "gogh".toList] ∧
      (words whole).map capitalize.change = ["Van".toList, "Gogh".toList] ∧
      ¬ words result = (words whole).map capitalize.change := by
  decide +kernel

/-! ## Changing the case and cutting -/

/-- Whether a modifier changes the case of a whole text. -/
def changesCase : Modifier → Bool
  | lowercase | uppercase => true
  | _ => false

/-- Whether a modifier keeps a part of a text and cuts off the rest. -/
def cuts : Modifier → Bool
  | trim | firstWord | lastWord => true
  | _ => false

theorem isWordwise_change {m : Modifier} (h : m.changesCase = true) : IsWordwise m.change := by
  cases m with
  | lowercase => exact Text.isWordwise_lower
  | uppercase => exact Text.isWordwise_upper
  | _ => cases h

/-- A text may be cut before or after its words are changed one by one. -/
theorem cut_change_comm {f : List Char → List Char} (hf : IsWordwise f) {cut : Modifier}
    (h : cut.cuts = true) (s : List Char) : f (cut.change s) = cut.change (f s) := by
  cases cut with
  | trim => exact (hf.trim_eq s).symm
  | firstWord =>
    simp only [change]
    rw [hf.words_eq]
    cases words s with
    | nil => exact hf.nil
    | cons word others => rfl
  | lastWord =>
    simp only [change]
    rw [hf.words_eq, List.getLast?_map]
    cases (words s).getLast? with
    | none => exact hf.nil
    | some word => rfl
  | _ => cases h

/-- **The case may be changed before or after a text is cut**, whatever the text, and so
the two modifiers may be exchanged wherever they stand next to each other among others. -/
theorem case_change_commutes_with_cut {m cut : Modifier} (hm : m.changesCase = true)
    (hcut : cut.cuts = true) :
    (∀ s, m.apply (cut.apply s) = cut.apply (m.apply s)) ∧
      ∀ (before behind : List Modifier) (s : String),
        applyAll (before ++ cut :: m :: behind) s = applyAll (before ++ m :: cut :: behind) s := by
  have hswap (s : String) : m.apply (cut.apply s) = cut.apply (m.apply s) := by
    rw [← String.toList_inj]
    simp only [toList_apply]
    exact cut_change_comm (isWordwise_change hm) hcut s.toList
  refine ⟨hswap, ?_⟩
  intro before behind s
  unfold applyAll
  simp only [List.foldl_append, List.foldl_cons, hswap]

/-- The sigma at the end of the first word is final in the word and in the text. -/
theorem case_change_commutes_with_cut_sigma :
    lowercase.changesCase = true ∧ firstWord.cuts = true ∧
      lowercase.apply (firstWord.apply " ΟΔΟΣ ΣΑΣ") = "οδος" ∧
      firstWord.apply (lowercase.apply " ΟΔΟΣ ΣΑΣ") = "οδος" := by
  have hfirst : lowercase.apply (firstWord.apply " ΟΔΟΣ ΣΑΣ") = "οδος" := by decide +kernel
  have hswap := (@case_change_commutes_with_cut lowercase firstWord rfl rfl).1
  exact ⟨rfl, rfl, hfirst, (hswap _).symm.trans hfirst⟩

/-! ## Words that are left -/

/-- A text that is cut to one of its words has that word. -/
theorem words_getD_eq_nil_iff {s : List Char} {choice : Option (List Char)}
    (hchosen : ∀ w ∈ choice, w ∈ words s) (hnone : choice = none ↔ words s = []) :
    words (choice.getD []) = [] ↔ words s = [] := by
  cases choice with
  | none => exact iff_of_true rfl (hnone.1 rfl)
  | some w =>
    have hword := Text.isWord_of_mem_words (hchosen w rfl)
    refine iff_of_false ?_ (mt hnone.2 (Option.some_ne_none w))
    intro hnil
    exact hword.not_blank (Text.words_eq_nil_iff.1 hnil)

/-- **No modifier takes all words away**, and none brings a word into a blank text. -/
theorem words_change_eq_nil_iff (m : Modifier) (s : List Char) :
    words (m.change s) = [] ↔ words s = [] := by
  cases m with
  | lowercase =>
    simp only [change]
    rw [Text.isWordwise_lower.words_eq, List.map_eq_nil_iff]
  | uppercase =>
    simp only [change]
    rw [Text.isWordwise_upper.words_eq, List.map_eq_nil_iff]
  | capitalize =>
    cases s with
    | nil => exact Iff.rfl
    | cons c rest =>
      have hfirst : (∀ d ∈ Text.upperChar c, Text.isBlank d = true) ↔ Text.isBlank c = true := by
        by_cases hc : Text.isBlank c = true
        · simp [Text.upperChar_of_blank hc]
        · exact iff_of_false (Text.isWord_upperChar (Bool.eq_false_iff.2 hc)).not_blank hc
      simp only [change, Text.capitalize]
      rw [Text.words_eq_nil_iff, Text.words_eq_nil_iff, List.forall_mem_append,
        List.forall_mem_cons, hfirst]
  | capitalizeWords =>
    simp only [change]
    rw [Text.words_capitalizeAfterSpaces, ← List.length_eq_zero_iff, List.length_zipWith,
      Text.length_fronts, Nat.min_self, List.length_eq_zero_iff]
  | trim =>
    simp only [change]
    rw [Text.words_trim]
  | firstWord =>
    exact words_getD_eq_nil_iff (fun w h => List.mem_of_head? h) List.head?_eq_none_iff
  | lastWord =>
    exact words_getD_eq_nil_iff (fun w h => List.mem_of_getLast? h) List.getLast?_eq_none_iff

/-- Nor do several modifiers. -/
theorem words_applyAll_eq_nil_iff (ms : List Modifier) (s : String) :
    words (applyAll ms s).toList = [] ↔ words s.toList = [] := by
  induction ms generalizing s with
  | nil => rfl
  | cons m ms ih =>
    rw [applyAll_cons, ih, toList_apply, words_change_eq_nil_iff]

end Modifier
end PersonalNames
