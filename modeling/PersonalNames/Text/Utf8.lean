/-! # Text as bytes

The length of a text in UTF-8, and reading UTF-8 with two attitudes to
ill-formed input: `decode?` refuses it, and `decodeLossy` puts the replacement
character for each ill-formed stretch, a stretch being the longest start of a
character that the bytes break off. -/
namespace PersonalNames
namespace Text

/-- The number of bytes that characters take. -/
def byteCount : List Char → Nat
  | [] => 0
  | c :: rest => c.utf8Size + byteCount rest

theorem byteCount_append (s t : List Char) : byteCount (s ++ t) = byteCount s + byteCount t := by
  induction s with
  | nil => simp [byteCount]
  | cons c rest ih => simp [byteCount, ih, Nat.add_assoc]

theorem byteCount_eq_utf8ByteSize (s : List Char) :
    byteCount s = (String.ofList s).utf8ByteSize := by
  induction s with
  | nil => rfl
  | cons c rest ih =>
    rw [byteCount, ih, String.ofList_cons, String.utf8ByteSize_append, String.utf8ByteSize_singleton]

/-- Whether a byte continues a character. -/
def isContinuation (b : UInt8) : Bool :=
  0x80 ≤ b && b ≤ 0xBF

/-- The bytes that may stand second after a given first byte, as a range, and
the number of bytes after the first.  No range means that the first byte starts
no character of several bytes. -/
def leadByte? (b : UInt8) : Option (UInt8 × UInt8 × Nat) :=
  if 0xC2 ≤ b && b ≤ 0xDF then some (0x80, 0xBF, 1)
  else if b = 0xE0 then some (0xA0, 0xBF, 2)
  else if b = 0xED then some (0x80, 0x9F, 2)
  else if 0xE1 ≤ b && b ≤ 0xEF then some (0x80, 0xBF, 2)
  else if b = 0xF0 then some (0x90, 0xBF, 3)
  else if 0xF1 ≤ b && b ≤ 0xF3 then some (0x80, 0xBF, 3)
  else if b = 0xF4 then some (0x80, 0x8F, 3)
  else none

/-- The six payload bits of a continuation byte. -/
def payload (b : UInt8) : Nat :=
  (b &&& 0x3F).toNat

/-- Reads the character that a first byte starts.  The answer is the character,
if it is complete, and the number of bytes used after the first. -/
def decodeChar (first : UInt8) (rest : List UInt8) : Option Char × Nat :=
  if first < 0x80 then (some (Char.ofNat first.toNat), 0)
  else
    match leadByte? first with
    | none => (none, 0)
    | some (low, high, count) =>
      match rest with
      | second :: others =>
        if low ≤ second && second ≤ high then
          let tail := (others.take (count - 1)).takeWhile isContinuation
          if tail.length = count - 1 then
            let lead := first.toNat % Nat.pow 2 (6 - count)
            let code := (second :: tail).foldl (fun acc b => acc * 64 + payload b) lead
            (some (Char.ofNat code), count)
          else (none, 1 + tail.length)
        else (none, 0)
      | [] => (none, 0)

/-- The characters of a byte sequence; `none` stands for an ill-formed stretch. -/
def decodeChars : List UInt8 → List (Option Char)
  | [] => []
  | first :: rest =>
    (decodeChar first rest).1 :: decodeChars (rest.drop (decodeChar first rest).2)
termination_by bytes => bytes.length
decreasing_by simp only [List.length_drop, List.length_cons]; omega

/-- The text of a well-formed byte sequence. -/
def decode? (bytes : List UInt8) : Option String :=
  ((decodeChars bytes).mapM id).map String.ofList

/-- The text of any byte sequence. -/
def decodeLossy (bytes : List UInt8) : String :=
  String.ofList ((decodeChars bytes).map (·.getD '\ufffd'))

end Text
end PersonalNames
