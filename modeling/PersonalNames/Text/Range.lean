/-! # Membership in a list of code ranges

Character properties are kept as ascending lists of inclusive code ranges. -/
namespace PersonalNames
namespace Text

/-- Whether a code lies in one of the ranges.  The ranges ascend, so the search
ends at the first range that starts above the code. -/
def inRanges : List (Nat × Nat) → Nat → Bool
  | [], _ => false
  | (first, last) :: ranges, code =>
    if code < first then false
    else if code ≤ last then true
    else inRanges ranges code

end Text
end PersonalNames
