import Mathlib.Data.List.Basic
import PersonalNames.Proofs.Text.Words
import PersonalNames.Text.Casing

/-! # Case mapping, word by word

Blanks have no case.  Both case mappings leave a blank as it is, and of any other
character they make at least one character and never a blank.  Nor is a blank cased or
looked through when a cased neighbour is sought, so a sigma looks no further than to the
ends of its word.  Therefore the upper and the lower case of a text are those of its words
(`isWordwise_upper`, `isWordwise_lower`).

What is said of characters is read off the tables.  A table may be long, but it consists of
ranges, and there are few ranges of blanks: `avoidsBlanks` compares a range with each of
them, and one pass over each table settles the matter for every character.
-/
namespace PersonalNames
namespace Text

/-! ## Ranges without blanks -/

/-- The codes of the blanks. -/
def blankRanges : List (Nat × Nat) :=
  [(0x9, 0xD), (0x20, 0x20), (0x85, 0x85), (0xA0, 0xA0), (0x1680, 0x1680), (0x2000, 0x200A),
    (0x2028, 0x2029), (0x202F, 0x202F), (0x205F, 0x205F), (0x3000, 0x3000)]

/-- Whether no code from `first` to `last` is that of a blank. -/
def avoidsBlanks (first last : Nat) : Bool :=
  blankRanges.all fun range => last < range.1 || range.2 < first

theorem isBlank_iff (c : Char) :
    isBlank c = true ↔ ∃ range ∈ blankRanges, range.1 ≤ c.toNat ∧ c.toNat ≤ range.2 := by
  simp only [isBlank, blankRanges, List.exists_mem_cons_iff, List.not_mem_nil, false_and,
    exists_false, or_false, Bool.or_eq_true, Bool.and_eq_true, decide_eq_true_eq, beq_iff_eq]
  omega

theorem isBlank_of_avoidsBlanks {first last : Nat} (h : avoidsBlanks first last = true) {c : Char}
    (hfirst : first ≤ c.toNat) (hlast : c.toNat ≤ last) : isBlank c = false := by
  rw [Bool.eq_false_iff]
  intro hblank
  obtain ⟨range, hmem, hlow, hhigh⟩ := (isBlank_iff c).1 hblank
  have hapart := List.all_eq_true.1 h range hmem
  simp only [Bool.or_eq_true, decide_eq_true_eq] at hapart
  omega

/-- A character that is made from a code has that code, or is the null character where the
code is that of no character. -/
theorem toNat_ofNat (code : Nat) : (Char.ofNat code).toNat = code ∨ (Char.ofNat code).toNat = 0 := by
  by_cases hvalid : code.isValidChar
  · left
    rw [Char.ofNat, dif_pos hvalid]
    rfl
  · right
    rw [Char.ofNat, dif_neg hvalid]
    rfl

/-- The null character is no blank either. -/
theorem isBlank_ofNat {first last : Nat} (h : avoidsBlanks first last = true) {code : Nat}
    (hfirst : first ≤ code) (hlast : code ≤ last) : isBlank (Char.ofNat code) = false := by
  rcases toNat_ofNat code with hcode | hnull
  · exact isBlank_of_avoidsBlanks h (by omega) (by omega)
  · have havoids : avoidsBlanks 0 0 = true := by decide
    exact isBlank_of_avoidsBlanks havoids (by omega) (by omega)

/-- A character in a table of ranges lies in one of them. -/
theorem exists_of_inRanges {ranges : List (Nat × Nat)} {code : Nat}
    (h : inRanges ranges code = true) :
    ∃ range ∈ ranges, range.1 ≤ code ∧ code ≤ range.2 := by
  induction ranges with
  | nil => cases h
  | cons range ranges ih =>
    obtain ⟨first, last⟩ := range
    rw [inRanges] at h
    by_cases hfirst : code < first
    · rw [if_pos hfirst] at h
      cases h
    · rw [if_neg hfirst] at h
      by_cases hlast : code ≤ last
      · exact ⟨(first, last), List.mem_cons_self, by omega, hlast⟩
      · rw [if_neg hlast] at h
        obtain ⟨range, hmem, hrange⟩ := ih h
        exact ⟨range, List.mem_cons_of_mem _ hmem, hrange⟩

/-- A table of ranges that avoid the blanks holds no blank. -/
theorem inRanges_of_blank {ranges : List (Nat × Nat)}
    (h : ranges.all (fun range => avoidsBlanks range.1 range.2) = true) {c : Char}
    (hc : isBlank c = true) : inRanges ranges c.toNat = false := by
  rw [Bool.eq_false_iff]
  intro hin
  obtain ⟨range, hmem, hfirst, hlast⟩ := exists_of_inRanges hin
  rw [isBlank_of_avoidsBlanks (List.all_eq_true.1 h range hmem) hfirst hlast] at hc
  cases hc

theorem isCased_of_blank {c : Char} (h : isBlank c = true) : isCased c = false :=
  inRanges_of_blank (by decide +kernel) h

theorem isCaseIgnorable_of_blank {c : Char} (h : isBlank c = true) : isCaseIgnorable c = false :=
  inRanges_of_blank (by decide +kernel) h

/-! ## Mapping one character -/

/-- Whether a table of runs and a table of expansions leave the blanks alone: no blank
has an image in them, and no image in them is a blank or empty. -/
def sparesBlanks (runs : List CaseRun) (expansions : List (Nat × List Nat)) : Bool :=
  (runs.all fun run => avoidsBlanks run.first run.last &&
    avoidsBlanks run.target (run.target + (run.last - run.first))) &&
  expansions.all fun (code, images) => avoidsBlanks code code && !images.isEmpty &&
    images.all fun image => avoidsBlanks image image

theorem CaseRun.exists_of_image? {runs : List CaseRun} {code image : Nat}
    (h : CaseRun.image? runs code = some image) :
    ∃ run ∈ runs, run.first ≤ code ∧ code ≤ run.last ∧ (code - run.first) % run.step = 0 ∧
      image = run.target + (code - run.first) := by
  induction runs with
  | nil => cases h
  | cons run runs ih =>
    rw [image?] at h
    by_cases hfirst : code < run.first
    · rw [if_pos hfirst] at h
      cases h
    · rw [if_neg hfirst] at h
      by_cases hlast : code ≤ run.last
      · rw [if_pos hlast] at h
        obtain ⟨hstep, himage⟩ := Option.ite_none_right_eq_some.1 h
        cases himage
        exact ⟨run, List.mem_cons_self, by omega, hlast, hstep, rfl⟩
      · rw [if_neg hlast] at h
        obtain ⟨run, hmem, hrun⟩ := ih h
        exact ⟨run, List.mem_cons_of_mem _ hmem, hrun⟩

/-- What is found in a table of expansions is an entry of it. -/
theorem mem_of_lookup {expansions : List (Nat × List Nat)} {code : Nat} {images : List Nat}
    (h : expansions.lookup code = some images) : (code, images) ∈ expansions := by
  obtain ⟨before, behind, rfl, -⟩ := List.lookup_eq_some_iff.1 h
  simp

section
variable {runs : List CaseRun} {expansions : List (Nat × List Nat)}
  (h : sparesBlanks runs expansions = true) {c : Char}
include h

theorem sparesBlanks_run {run : CaseRun} (hmem : run ∈ runs) :
    avoidsBlanks run.first run.last = true ∧
      avoidsBlanks run.target (run.target + (run.last - run.first)) = true := by
  have hruns := (Bool.and_eq_true_iff.1 h).1
  exact Bool.and_eq_true_iff.1 (List.all_eq_true.1 hruns run hmem)

theorem sparesBlanks_expansion {code : Nat} {images : List Nat}
    (hfound : expansions.lookup code = some images) :
    avoidsBlanks code code = true ∧ images ≠ [] ∧
      ∀ image ∈ images, avoidsBlanks image image = true := by
  have hentry := List.all_eq_true.1 (Bool.and_eq_true_iff.1 h).2 _ (mem_of_lookup hfound)
  simpa [and_assoc] using hentry

/-- A blank stays as it is. -/
theorem mapCase_of_blank (hc : isBlank c = true) : mapCase runs expansions c = [c] := by
  have hclash {first last : Nat} (havoids : avoidsBlanks first last = true)
      (hfirst : first ≤ c.toNat) (hlast : c.toNat ≤ last) : False := by
    rw [isBlank_of_avoidsBlanks havoids hfirst hlast] at hc
    cases hc
  unfold mapCase
  cases hrun : CaseRun.image? runs c.toNat with
  | some image =>
    obtain ⟨run, hmem, hfirst, hlast, -, -⟩ := CaseRun.exists_of_image? hrun
    exact (hclash (sparesBlanks_run h hmem).1 hfirst hlast).elim
  | none =>
    cases hfound : expansions.lookup c.toNat with
    | some images =>
      exact (hclash (sparesBlanks_expansion h hfound).1 (Nat.le_refl _) (Nat.le_refl _)).elim
    | none => rfl

/-- Of any other character a word is made. -/
theorem isWord_mapCase (hc : isBlank c = false) : IsWord (mapCase runs expansions c) := by
  unfold mapCase
  cases hrun : CaseRun.image? runs c.toNat with
  | some image =>
    obtain ⟨run, hmem, hfirst, hlast, -, rfl⟩ := CaseRun.exists_of_image? hrun
    exact isWord_singleton (isBlank_ofNat (sparesBlanks_run h hmem).2 (by omega) (by omega))
  | none =>
    cases hfound : expansions.lookup c.toNat with
    | some images =>
      obtain ⟨-, himages, havoids⟩ := sparesBlanks_expansion h hfound
      refine ⟨mt List.map_eq_nil_iff.1 himages, ?_⟩
      intro d hd
      obtain ⟨image, hmem, rfl⟩ := List.mem_map.1 hd
      exact isBlank_ofNat (havoids image hmem) (Nat.le_refl _) (Nat.le_refl _)
    | none => exact isWord_singleton hc

end

theorem sparesBlanks_upper : sparesBlanks upperRuns upperExpansions = true := by
  decide +kernel

theorem sparesBlanks_lower : sparesBlanks lowerRuns lowerExpansions = true := by
  decide +kernel

theorem upperChar_of_blank {c : Char} (h : isBlank c = true) : upperChar c = [c] :=
  mapCase_of_blank sparesBlanks_upper h

theorem isWord_upperChar {c : Char} (h : isBlank c = false) : IsWord (upperChar c) :=
  isWord_mapCase sparesBlanks_upper h

theorem lowerBetween_of_blank {c : Char} (h : isBlank c = true) (before after : List Char) :
    lowerBetween before c after = [c] := by
  have hsigma : c ≠ 'Σ' := by
    rintro rfl
    exact absurd h (by decide)
  rw [lowerBetween, if_neg hsigma]
  exact mapCase_of_blank sparesBlanks_lower h

theorem isWord_lowerBetween {c : Char} (h : isBlank c = false) (before after : List Char) :
    IsWord (lowerBetween before c after) := by
  unfold lowerBetween
  by_cases hsigma : c = 'Σ'
  · rw [if_pos hsigma]
    split <;> exact isWord_singleton (by decide)
  · rw [if_neg hsigma]
    exact isWord_mapCase sparesBlanks_lower h

/-! ## Mapping texts -/

theorem isWordwise_upper : IsWordwise upper where
  nil := rfl
  blank h s := by rw [upper, List.flatMap_cons, upperChar_of_blank h]; rfl
  append _ _ := List.flatMap_append
  isWord := by
    rintro w ⟨hne, hsolid⟩
    constructor
    · intro hnil
      obtain ⟨c, hc⟩ := List.exists_mem_of_ne_nil w hne
      exact (isWord_upperChar (hsolid c hc)).1 (List.flatMap_eq_nil_iff.1 hnil c hc)
    · intro d hd
      obtain ⟨c, hc, himage⟩ := List.mem_flatMap.1 hd
      exact (isWord_upperChar (hsolid c hc)).2 d himage

/-- What is behind a break is not reached from in front of it. -/
theorem reachesCased_append {s : List Char} (h : AtBreak s) (near : List Char) :
    reachesCased (near ++ s) = reachesCased near := by
  induction near with
  | nil =>
    cases s with
    | nil => rfl
    | cons c s =>
      have hc := h c rfl
      simp [reachesCased, isCaseIgnorable_of_blank hc, isCased_of_blank hc]
  | cons d near ih =>
    by_cases hd : isCaseIgnorable d = true
    · have hskip (more : List Char) : reachesCased (d :: more) = reachesCased more := by
        rw [reachesCased, List.dropWhile_cons_of_pos hd]
        rfl
      rw [List.cons_append, hskip, hskip, ih]
    · have hstop (more : List Char) : reachesCased (d :: more) = isCased d := by
        rw [reachesCased, List.dropWhile_cons_of_neg hd]
      rw [List.cons_append, hstop, hstop]

/-- A character looks no further than to the breaks before and behind it. -/
theorem lowerBetween_append {before after : List Char} (hbefore : AtBreak before)
    (hafter : AtBreak after) (near : List Char) (c : Char) (ahead : List Char) :
    lowerBetween (near ++ before) c (ahead ++ after) = lowerBetween near c ahead := by
  unfold lowerBetween
  rw [reachesCased_append hbefore, reachesCased_append hafter]

/-- The lower case of a text does not depend on what stands in front of a break. -/
theorem lowerAfter_append {before : List Char} (hbefore : AtBreak before)
    (near s : List Char) : lowerAfter (near ++ before) s = lowerAfter near s := by
  induction s generalizing near with
  | nil => rfl
  | cons c s ih =>
    have hhere := lowerBetween_append hbefore atBreak_nil near c s
    rw [List.append_nil] at hhere
    rw [lowerAfter, lowerAfter, hhere, ← List.cons_append, ih]

/-- Behind a blank the text starts anew. -/
theorem lowerAfter_cons_of_blank {c : Char} (h : isBlank c = true) (before s : List Char) :
    lowerAfter before (c :: s) = c :: lower s := by
  have hanew := lowerAfter_append (atBreak_cons h before) [] s
  rw [lowerAfter, lowerBetween_of_blank h, List.singleton_append]
  exact congrArg (c :: ·) hanew

/-- A text in front of a break is put in lower case by itself. -/
theorem lowerAfter_append_of_atBreak {s : List Char} (h : AtBreak s) (before w : List Char) :
    lowerAfter before (w ++ s) = lowerAfter before w ++ lower s := by
  induction w generalizing before with
  | nil =>
    cases s with
    | nil => rfl
    | cons c s =>
      have hanew : lower (c :: s) = c :: lower s := lowerAfter_cons_of_blank (h c rfl) [] s
      rw [List.nil_append, lowerAfter_cons_of_blank (h c rfl), hanew, lowerAfter, List.nil_append]
  | cons c w ih =>
    have hhere := lowerBetween_append atBreak_nil h before c w
    rw [List.append_nil] at hhere
    rw [List.cons_append, lowerAfter, lowerAfter, hhere, ih, List.append_assoc]

theorem isWord_lowerAfter {w : List Char} (h : IsWord w) (before : List Char) :
    IsWord (lowerAfter before w) := by
  obtain ⟨hne, hsolid⟩ := h
  induction w generalizing before with
  | nil => exact absurd rfl hne
  | cons c w ih =>
    obtain ⟨hc, hrest⟩ := List.forall_mem_cons.1 hsolid
    rw [lowerAfter]
    apply (isWord_lowerBetween hc before w).append
    cases w with
    | nil => exact fun _ hd => nomatch hd
    | cons d w => exact (ih (c :: before) (List.cons_ne_nil _ _) hrest).2

theorem isWordwise_lower : IsWordwise lower where
  nil := rfl
  blank h s := lowerAfter_cons_of_blank h [] s
  append _ hbreak := lowerAfter_append_of_atBreak hbreak [] _
  isWord h := isWord_lowerAfter h []

end Text
end PersonalNames
