/-! # Blank characters, trimming and words

`isBlank` is the property `White_Space`.  Trimming removes blanks at the ends
of a text, and the words of a text are its maximal runs without blanks. -/
namespace PersonalNames
namespace Text

/-- The characters with the property `White_Space`. -/
def isBlank (c : Char) : Bool :=
  let n := c.toNat
  (0x9 ≤ n && n ≤ 0xD) || n == 0x20 || n == 0x85 || n == 0xA0 || n == 0x1680 ||
    (0x2000 ≤ n && n ≤ 0x200A) || n == 0x2028 || n == 0x2029 || n == 0x202F ||
    n == 0x205F || n == 0x3000

/-- A text without the blanks in front. -/
def trimStart (s : List Char) : List Char :=
  s.dropWhile isBlank

/-- A text without the blanks behind. -/
def trimEnd (s : List Char) : List Char :=
  (s.reverse.dropWhile isBlank).reverse

/-- A text without the blanks at either end. -/
def trim (s : List Char) : List Char :=
  trimEnd (trimStart s)

/-- A blank in front goes. -/
theorem trimStart_cons_of_blank {c : Char} (h : isBlank c = true) (rest : List Char) :
    trimStart (c :: rest) = trimStart rest :=
  List.dropWhile_cons_of_pos h

/-- A text that starts with something else stays. -/
theorem trimStart_cons_of_not_blank {c : Char} (h : ¬ isBlank c = true) (rest : List Char) :
    trimStart (c :: rest) = c :: rest :=
  List.dropWhile_cons_of_neg h

theorem trimStart_eq_nil_iff {s : List Char} :
    trimStart s = [] ↔ ∀ c ∈ s, isBlank c = true := by
  induction s with
  | nil => simp [trimStart]
  | cons c rest ih =>
    rw [List.forall_mem_cons]
    by_cases h : isBlank c = true
    · rw [trimStart_cons_of_blank h, ih, and_iff_right h]
    · simp [trimStart_cons_of_not_blank h, h]

theorem forall_mem_trimStart_iff {s : List Char} :
    (∀ c ∈ trimStart s, isBlank c = true) ↔ ∀ c ∈ s, isBlank c = true := by
  induction s with
  | nil => rfl
  | cons c rest ih =>
    by_cases h : isBlank c = true
    · rw [trimStart_cons_of_blank h, ih, List.forall_mem_cons, and_iff_right h]
    · rw [trimStart_cons_of_not_blank h]

/-- Trimming leaves nothing of a text exactly if all of it is blank. -/
theorem trim_eq_nil_iff {s : List Char} : trim s = [] ↔ ∀ c ∈ s, isBlank c = true := by
  rw [trim, trimEnd, List.reverse_eq_nil_iff]
  calc trimStart (trimStart s).reverse = []
      ↔ ∀ c ∈ (trimStart s).reverse, isBlank c = true := trimStart_eq_nil_iff
    _ ↔ ∀ c ∈ trimStart s, isBlank c = true := by simp only [List.mem_reverse]
    _ ↔ ∀ c ∈ s, isBlank c = true := forall_mem_trimStart_iff

/-- The words of a text, in order: its maximal runs without blanks. -/
def words : List Char → List (List Char)
  | [] => []
  | c :: rest =>
    if isBlank c then words rest
    else
      match rest with
      | [] => [[c]]
      | d :: _ =>
        if isBlank d then [c] :: words rest
        else
          match words rest with
          | [] => [[c]]
          | word :: others => (c :: word) :: others

end Text
end PersonalNames
