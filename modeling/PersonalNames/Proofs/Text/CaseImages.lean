import Mathlib.Data.Nat.ModEq
import PersonalNames.Proofs.Text.CaseMapping

/-! # Case mapping a second time

A character that a case mapping makes is left alone by the same mapping: an upper-case
image has no upper-case image but itself, and a lower-case image no lower-case one.  Hence
a text in upper case stays as it is when it is put in upper case, and likewise for lower
case (`upper_upper`, `lower_lower`).  A sigma makes no difference, for neither of its small
forms is a capital.

The tables decide this entry by entry.  The images of a run are codes at equal distances,
and another run meets none of them if it lies apart, or if it takes every second code and
they are the codes in between.
-/
namespace PersonalNames
namespace Text

/-! ## Codes without an image -/

/-- Whether the runs of a table meet none of the codes `first, first + step, …, last`.  As
in the search for an image, the runs ascend, so none behind a later run is looked at. -/
def CaseRun.missAll (first last step : Nat) : List CaseRun → Bool
  | [] => true
  | run :: runs =>
    last.blt run.first ||
      (run.last.blt first ||
        (first.beq last || (step % run.step).beq 0) &&
          !(first % run.step).beq (run.first % run.step)) && missAll first last step runs

/-- Codes at a distance that is a multiple of the step leave the same remainder. -/
theorem mod_eq_of_step {first code step modulus : Nat} (hfirst : first ≤ code)
    (hstep : (code - first) % step = 0) (hmodulus : step % modulus = 0) :
    code % modulus = first % modulus := by
  have hdvd : modulus ∣ code - first :=
    (Nat.dvd_of_mod_eq_zero hmodulus).trans (Nat.dvd_of_mod_eq_zero hstep)
  exact ((Nat.modEq_iff_dvd' hfirst).2 hdvd).symm

theorem CaseRun.missAll_cons {first last step : Nat} {run : CaseRun} {runs : List CaseRun} :
    missAll first last step (run :: runs) = true ↔
      last < run.first ∨
        (run.last < first ∨
          (first = last ∨ step % run.step = 0) ∧ first % run.step ≠ run.first % run.step) ∧
          missAll first last step runs = true := by
  have hremainder : (!(first % run.step).beq (run.first % run.step)) = true ↔
      first % run.step ≠ run.first % run.step := by
    rw [Bool.not_eq_true', ← Bool.not_eq_true, Nat.beq_eq]
  simp only [missAll, Bool.or_eq_true, Bool.and_eq_true, Nat.blt_eq, Nat.beq_eq, hremainder]

theorem CaseRun.image?_eq_none {runs : List CaseRun} {first last step code : Nat}
    (h : missAll first last step runs = true) (hfirst : first ≤ code) (hlast : code ≤ last)
    (hstep : (code - first) % step = 0) : image? runs code = none := by
  induction runs with
  | nil => rfl
  | cons run runs ih =>
    rw [image?]
    by_cases hbefore : code < run.first
    · rw [if_pos hbefore]
    obtain ⟨hapart, hrest⟩ := (missAll_cons.1 h).resolve_left (by omega)
    rw [if_neg hbefore]
    by_cases hbehind : run.last < code
    · rw [if_neg (Nat.not_le.2 hbehind)]
      exact ih hrest
    -- The code lies between the ends of the run, and so the run steps over it.
    rw [if_pos (Nat.not_lt.1 hbehind), if_neg]
    intro hmet
    obtain ⟨hdistance, hremainder⟩ := hapart.resolve_left (by omega)
    have hrun : code % run.step = run.first % run.step :=
      mod_eq_of_step (by omega) hmet (Nat.mod_self _)
    have hcodes : code % run.step = first % run.step := by
      rcases hdistance with hsingle | hmultiple
      · rw [show code = first by omega]
      · exact mod_eq_of_step hfirst hstep hmultiple
    exact hremainder (hcodes.symm.trans hrun)

/-- Whether a table of runs and a table of expansions hold none of the codes `first,
first + step, …, last`. -/
def areFree (runs : List CaseRun) (expansions : List (Nat × List Nat))
    (first last step : Nat) : Bool :=
  CaseRun.missAll first last step runs &&
    expansions.all fun (code, _) => last.blt code || code.blt first

section
variable {runs : List CaseRun} {expansions : List (Nat × List Nat)}

theorem mapCase_of_areFree {first last step : Nat}
    (h : areFree runs expansions first last step = true) {c : Char} (hfirst : first ≤ c.toNat)
    (hlast : c.toNat ≤ last) (hstep : (c.toNat - first) % step = 0) :
    mapCase runs expansions c = [c] := by
  obtain ⟨hruns, hexpansions⟩ := Bool.and_eq_true_iff.1 h
  have hlookup : expansions.lookup c.toNat = none := by
    rw [List.lookup_eq_none_iff]
    intro entry hmem
    have hapart := List.all_eq_true.1 hexpansions entry hmem
    rw [Bool.or_eq_true, Nat.blt_eq, Nat.blt_eq] at hapart
    rw [bne_iff_ne]
    omega
  unfold mapCase
  rw [CaseRun.image?_eq_none hruns hfirst hlast hstep, hlookup]

/-- The character of a free code, or the null character if that is free too. -/
theorem mapCase_ofNat (hnull : areFree runs expansions 0 0 1 = true) {first last step code : Nat}
    (h : areFree runs expansions first last step = true) (hfirst : first ≤ code)
    (hlast : code ≤ last) (hstep : (code - first) % step = 0) :
    mapCase runs expansions (Char.ofNat code) = [Char.ofNat code] := by
  rcases toNat_ofNat code with hcode | hcode
  · exact mapCase_of_areFree h (by omega) (by omega) (by rwa [hcode])
  · exact mapCase_of_areFree hnull (Nat.zero_le _) (Nat.le_of_eq hcode) (Nat.mod_one _)

/-! ## Images of images -/

/-- Whether two tables hold no image of theirs.  The null character stands for codes that
are those of no character. -/
def freesImages (runs : List CaseRun) (expansions : List (Nat × List Nat)) : Bool :=
  areFree runs expansions 0 0 1 &&
    (runs.all fun run =>
      areFree runs expansions run.target (run.target + (run.last - run.first)) run.step) &&
    expansions.all fun (_, images) => images.all fun image => areFree runs expansions image image 1

/-- **What a case mapping makes it leaves alone.** -/
theorem mapCase_of_mem_mapCase (h : freesImages runs expansions = true) {c d : Char}
    (hd : d ∈ mapCase runs expansions c) : mapCase runs expansions d = [d] := by
  rw [freesImages, Bool.and_eq_true, Bool.and_eq_true] at h
  obtain ⟨⟨hnull, hruns⟩, hexpansions⟩ := h
  unfold mapCase at hd
  cases hrun : CaseRun.image? runs c.toNat with
  | some image =>
    simp only [hrun] at hd
    obtain rfl := List.mem_singleton.1 hd
    obtain ⟨run, hmem, hfirst, hlast, hstep, rfl⟩ := CaseRun.exists_of_image? hrun
    refine mapCase_ofNat hnull (List.all_eq_true.1 hruns run hmem) (by omega) (by omega) ?_
    rwa [Nat.add_sub_cancel_left]
  | none =>
    cases hfound : expansions.lookup c.toNat with
    | some images =>
      simp only [hrun, hfound] at hd
      obtain ⟨image, hmem, rfl⟩ := List.mem_map.1 hd
      have hentry := List.all_eq_true.1 hexpansions _ (mem_of_lookup hfound)
      have hfree := List.all_eq_true.1 hentry image hmem
      exact mapCase_ofNat hnull hfree (Nat.le_refl _) (Nat.le_refl _) (Nat.mod_one _)
    | none =>
      simp only [hrun, hfound] at hd
      obtain rfl := List.mem_singleton.1 hd
      unfold mapCase
      rw [hrun, hfound]

end

theorem upperChar_of_mem {c d : Char} (h : d ∈ upperChar c) : upperChar d = [d] :=
  mapCase_of_mem_mapCase (by decide +kernel) h

theorem lowerChar_of_mem {c d : Char} (h : d ∈ lowerChar c) : lowerChar d = [d] :=
  mapCase_of_mem_mapCase (by decide +kernel) h

/-- The upper-case image of a character starts with a character that is its own image. -/
theorem exists_upperChar_eq_cons (c : Char) :
    ∃ first more, upperChar c = first :: more ∧ upperChar first = [first] := by
  have hne : upperChar c ≠ [] := by
    by_cases hc : isBlank c = true
    · rw [upperChar_of_blank hc]
      exact List.cons_ne_nil _ _
    · exact (isWord_upperChar (Bool.eq_false_iff.2 hc)).1
  obtain ⟨first, more, himage⟩ := List.exists_cons_of_ne_nil hne
  refine ⟨first, more, himage, upperChar_of_mem (c := c) ?_⟩
  rw [himage]
  exact List.mem_cons_self

/-! ## Texts a second time -/

/-- **Upper case is settled by the first pass.** -/
theorem upper_upper (s : List Char) : upper (upper s) = upper s := by
  have hfixed : ∀ d ∈ upper s, upperChar d = [d] := by
    intro d hd
    obtain ⟨c, -, himage⟩ := List.mem_flatMap.1 hd
    exact upperChar_of_mem himage
  calc upper (upper s) = (upper s).flatMap fun d => [d] := List.flatMap_congr hfixed
    _ = upper s := List.flatMap_singleton' _

/-- Every character that lower case makes is its own lower-case image, small sigmas
included. -/
theorem lowerChar_of_mem_lowerBetween {before after : List Char} {c d : Char}
    (h : d ∈ lowerBetween before c after) : lowerChar d = [d] := by
  unfold lowerBetween at h
  split at h
  · split at h <;>
    · obtain rfl := List.mem_singleton.1 h
      decide +kernel
  · exact lowerChar_of_mem h

theorem lowerChar_of_mem_lowerAfter {before s : List Char} {d : Char}
    (h : d ∈ lowerAfter before s) : lowerChar d = [d] := by
  induction s generalizing before with
  | nil => cases h
  | cons c s ih =>
    rcases List.mem_append.1 h with hhere | hbehind
    · exact lowerChar_of_mem_lowerBetween hhere
    · exact ih hbehind

/-- A text of which each character is its own lower-case image has no capital sigma, and
stays as it is wherever it stands. -/
theorem lowerAfter_eq_self {s : List Char} (h : ∀ c ∈ s, lowerChar c = [c])
    (before : List Char) : lowerAfter before s = s := by
  induction s generalizing before with
  | nil => rfl
  | cons c s ih =>
    obtain ⟨hc, hrest⟩ := List.forall_mem_cons.1 h
    have hsigma : c ≠ 'Σ' := by
      rintro rfl
      revert hc
      decide +kernel
    rw [lowerAfter, lowerBetween, if_neg hsigma, hc, ih hrest, List.singleton_append]

/-- **Lower case is settled by the first pass.** -/
theorem lower_lower (s : List Char) : lower (lower s) = lower s :=
  lowerAfter_eq_self (fun _ h => lowerChar_of_mem_lowerAfter h) []

end Text
end PersonalNames
