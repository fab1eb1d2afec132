import Mathlib.Data.List.Destutter
import Mathlib.Data.List.DropRight
import PersonalNames.Proofs.Modifier.Words
import PersonalNames.Proofs.Text.CaseImages

/-! # Modifiers applied twice

Each modifier has done all it can after one pass (`apply_apply`).  A change of case makes
characters that it leaves alone, so the first character of a capitalized word is its own
capital even where one letter has become several, and no image of another character is a
space at which a word could begin.  A text that has been cut has nothing left to cut off.

So in a list of modifiers one that stands directly behind itself may go, and a list does
what it does without repeats (`applyAll_withoutRepeats`).
-/
namespace PersonalNames
namespace Text

/-! ## Capitals -/

theorem capitalize_capitalize (s : List Char) : capitalize (capitalize s) = capitalize s := by
  cases s with
  | nil => rfl
  | cons c rest =>
    obtain ⟨first, more, himage, hfirst⟩ := exists_upperChar_eq_cons c
    rw [capitalize, himage, List.cons_append, capitalize, hfirst, List.singleton_append]

open capitalizeAfterSpaces (go)

/-- The image of a character that is no space holds no space. -/
theorem beq_space_of_mem_upperChar {c d : Char} (hc : (c == ' ') = false) (hd : d ∈ upperChar c) :
    (d == ' ') = false := by
  by_cases hblank : isBlank c = true
  · rw [upperChar_of_blank hblank] at hd
    rwa [List.mem_singleton.1 hd]
  · exact beq_space_of_not_blank ((isWord_upperChar (Bool.eq_false_iff.2 hblank)).2 d hd)

theorem go_go (fresh : Bool) (s : List Char) : go fresh (go fresh s) = go fresh s := by
  induction s generalizing fresh with
  | nil => rfl
  | cons c s ih =>
    by_cases hspace : (c == ' ') = true
    · have hblank : isBlank c = true := by
        rw [beq_iff_eq.1 hspace]
        rfl
      rw [go_cons_of_blank hblank, go_cons_of_blank hblank, ih]
    rw [Bool.not_eq_true] at hspace
    cases fresh with
    | false =>
      have hkept (more : List Char) : go false (c :: more) = c :: go false more := by
        rw [go, hspace]
        rfl
      rw [hkept, hkept, ih]
    | true =>
      obtain ⟨first, more, himage, hfirst⟩ := exists_upperChar_eq_cons c
      have hnoSpace : ∀ d ∈ first :: more, (d == ' ') = false := fun d hd =>
        beq_space_of_mem_upperChar hspace (himage ▸ hd)
      obtain ⟨hfirstNoSpace, hmoreNoSpace⟩ := List.forall_mem_cons.1 hnoSpace
      -- Only the first character of the image is in a place to be capitalized again.
      calc go true (go true (c :: s))
          = go true (first :: (more ++ go false s)) := by
            rw [go, hspace, if_pos rfl, himage, List.cons_append]
        _ = first :: go false (more ++ go false s) := by
            rw [go, hfirstNoSpace, if_pos rfl, hfirst, List.singleton_append]
        _ = first :: (more ++ go false s) := by rw [go_append_of_no_space hmoreNoSpace, ih]
        _ = go true (c :: s) := by
            rw [go, hspace, if_pos rfl, himage, List.cons_append]

/-! ## Cutting -/

theorem trimEnd_trimEnd (s : List Char) : trimEnd (trimEnd s) = trimEnd s := by
  unfold trimEnd
  rw [List.reverse_reverse, List.dropWhile_idempotent]

theorem trim_trim (s : List Char) : trim (trim s) = trim s := by
  induction s using wordwise_induction with
  | nil => rfl
  | blank c s hblank ih =>
    have hcut : trim (c :: s) = trim s := congrArg trimEnd (trimStart_cons_of_blank hblank s)
    rw [hcut, ih]
  | word w s hword hbreak _ =>
    have hcut (more : List Char) : trim (w ++ more) = w ++ trimEnd more := by
      rw [trim, trimStart_append hword, trimEnd_append hword]
    rw [hcut, hcut, trimEnd_trimEnd]

theorem words_of_isWord {w : List Char} (h : IsWord w) : words w = [w] := by
  have halone := words_append h atBreak_nil
  rwa [List.append_nil] at halone

end Text

namespace Modifier

/-! ## Twice the same -/

/-- A text that has been cut to one of its words is cut to that word again. -/
theorem chosen_chosen {choose : List (List Char) → Option (List Char)}
    (hmem : ∀ words, ∀ w ∈ choose words, w ∈ words) (hnil : choose [] = none)
    (hone : ∀ w, choose [w] = some w) (s : List Char) :
    (choose (Text.words ((choose (Text.words s)).getD []))).getD [] =
      (choose (Text.words s)).getD [] := by
  cases h : choose (Text.words s) with
  | none =>
    have hnone : choose (Text.words []) = none := hnil
    rw [Option.getD_none, hnone, Option.getD_none]
  | some w =>
    have hword : Text.IsWord w := Text.isWord_of_mem_words (hmem _ w h)
    rw [Option.getD_some, Text.words_of_isWord hword, hone, Option.getD_some]

theorem change_change (m : Modifier) (s : List Char) : m.change (m.change s) = m.change s := by
  cases m with
  | lowercase => exact Text.lower_lower s
  | uppercase => exact Text.upper_upper s
  | capitalize => exact Text.capitalize_capitalize s
  | capitalizeWords => exact Text.go_go true s
  | trim => exact Text.trim_trim s
  | firstWord => exact chosen_chosen (fun _ _ => List.mem_of_head?) rfl (fun _ => rfl) s
  | lastWord => exact chosen_chosen (fun _ _ => List.mem_of_getLast?) rfl (fun _ => rfl) s

/-- **No modifier changes what it has changed.** -/
theorem apply_apply (m : Modifier) (s : String) : m.apply (m.apply s) = m.apply s := by
  rw [← String.toList_inj]
  simp only [toList_apply]
  exact m.change_change s.toList

/-! ## Lists without repeats -/

/-- The modifiers without those that stand directly behind themselves. -/
def withoutRepeats (ms : List Modifier) : List Modifier :=
  ms.destutter (· ≠ ·)

theorem withoutRepeats_eq_nil_iff {ms : List Modifier} : withoutRepeats ms = [] ↔ ms = [] :=
  List.destutter_eq_nil _

theorem applyAll_destutter' (m : Modifier) (ms : List Modifier) (s : String) :
    applyAll (ms.destutter' (· ≠ ·) m) s = applyAll (m :: ms) s := by
  induction ms generalizing m s with
  | nil => rfl
  | cons next ms ih =>
    by_cases h : m = next
    · subst h
      rw [List.destutter'_cons_neg _ (not_not.2 rfl), ih, applyAll_cons, applyAll_cons,
        applyAll_cons, apply_apply]
    · rw [List.destutter'_cons_pos _ h, applyAll_cons, ih, applyAll_cons m]

/-- **Without repeats a list of modifiers does the same.** -/
theorem applyAll_withoutRepeats (ms : List Modifier) (s : String) :
    applyAll (withoutRepeats ms) s = applyAll ms s := by
  cases ms with
  | nil => rfl
  | cons m ms => exact applyAll_destutter' m ms s

theorem destutter'_concat (first : Modifier) (ms : List Modifier) (m : Modifier) :
    (ms ++ [m]).destutter' (· ≠ ·) first =
      if (ms.destutter' (· ≠ ·) first).getLast? = some m then ms.destutter' (· ≠ ·) first
      else ms.destutter' (· ≠ ·) first ++ [m] := by
  induction ms generalizing first with
  | nil => by_cases h : first = m <;> simp [List.destutter', h]
  | cons next ms ih =>
    by_cases h : first = next
    · subst h
      rw [List.cons_append, List.destutter'_cons_neg _ (not_not.2 rfl), ih,
        List.destutter'_cons_neg _ (not_not.2 rfl)]
    · obtain ⟨second, more, hmore⟩ :=
        List.exists_cons_of_ne_nil (List.destutter'_ne_nil ms (· ≠ ·) (a := next))
      rw [List.cons_append, List.destutter'_cons_pos _ h, ih, List.destutter'_cons_pos _ h, hmore,
        List.getLast?_cons_cons]
      split <;> rfl

/-- One more modifier is one more without repeats, unless it is the last already. -/
theorem withoutRepeats_concat (ms : List Modifier) (m : Modifier) :
    withoutRepeats (ms ++ [m]) =
      if (withoutRepeats ms).getLast? = some m then withoutRepeats ms
      else withoutRepeats ms ++ [m] := by
  cases ms with
  | nil => rfl
  | cons first ms => exact destutter'_concat first ms m

theorem withoutRepeats_concat_concat (ms : List Modifier) (m : Modifier) :
    withoutRepeats (ms ++ [m] ++ [m]) = withoutRepeats (ms ++ [m]) := by
  have hlast : (withoutRepeats (ms ++ [m])).getLast? = some m := by
    rw [withoutRepeats_concat]
    split
    · assumption
    · exact List.getLast?_concat
  rw [withoutRepeats_concat (ms ++ [m]), if_pos hlast]

end Modifier
end PersonalNames
