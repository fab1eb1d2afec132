import PersonalNames.Text.Range
import PersonalNames.Text.ExtendTable
import PersonalNames.Text.ClusterTable

/-! # Extended grapheme clusters

A grapheme cluster is what a reader takes for one character: a letter with its
combining marks, a Hangul syllable, a joined pictograph, a pair of regional
indicators.  `firstCluster` splits off the first cluster of a text. -/
namespace PersonalNames
namespace Text

/-- The class of a character in the segmentation into clusters. -/
inductive ClusterClass where
  | carriageReturn
  | lineFeed
  | control
  | extend
  | joiner
  | regional
  | prepend
  | spacingMark
  | leading
  | vowel
  | trailing
  | openSyllable
  | closedSyllable
  | other
deriving DecidableEq, Repr

/-- Whether a code is an emoji skin tone, which extends the pictograph before it. -/
def isSkinTone (code : Nat) : Bool :=
  0x1F3FB ≤ code && code ≤ 0x1F3FF

/-- The class of a character. -/
def clusterClass (c : Char) : ClusterClass :=
  let n := c.toNat
  if n = 0xD then .carriageReturn
  else if n = 0xA then .lineFeed
  else if n = 0x200D then .joiner
  else if 0x1F1E6 ≤ n && n ≤ 0x1F1FF then .regional
  else if 0xAC00 ≤ n && n ≤ 0xD7A3 then
    if (n - 0xAC00) % 28 = 0 then .openSyllable else .closedSyllable
  else if inRanges controlRanges n then .control
  else if inRanges extendRanges n || isSkinTone n then .extend
  else if inRanges prependRanges n then .prepend
  else if inRanges spacingMarkRanges n then .spacingMark
  else if inRanges leadingJamoRanges n then .leading
  else if inRanges vowelJamoRanges n then .vowel
  else if inRanges trailingJamoRanges n then .trailing
  else .other

/-- How far a conjunct of two consonants has got. -/
inductive Conjunct where
  | none
  | consonant
  | linked
deriving DecidableEq, Repr

/-- What the characters of a cluster so far say about the next boundary. -/
structure ClusterTail where
  /-- The class of the last character. -/
  last : ClusterClass
  /-- Whether the last character is the first half of a pair of regional indicators. -/
  halfPair : Bool
  /-- Whether a pictograph and extending characters end the text. -/
  pictograph : Bool
  /-- Whether a joiner follows such a pictograph. -/
  joined : Bool
  /-- The conjunct that ends the text. -/
  conjunct : Conjunct

namespace ClusterTail

/-- The tail of a cluster with one more character. -/
def push (tail : Option ClusterTail) (c : Char) : ClusterTail :=
  let cls := clusterClass c
  let was : ClusterTail := tail.getD ⟨.other, false, false, false, .none⟩
  { last := cls
    halfPair := cls = .regional && !was.halfPair
    pictograph := inRanges pictographRanges c.toNat || (was.pictograph && cls = .extend)
    joined := was.pictograph && cls = .joiner
    conjunct :=
      if inRanges conjunctConsonantRanges c.toNat then .consonant
      else if was.conjunct = .none then .none
      else if inRanges conjunctLinkerRanges c.toNat then .linked
      else if cls = .joiner || (cls = .extend && c.toNat ≠ 0x200C) then was.conjunct
      else .none }

/-- Whether the next character still belongs to the cluster. -/
def joins (tail : ClusterTail) (c : Char) : Bool :=
  match tail.last, clusterClass c with
  | .carriageReturn, .lineFeed => true
  | .carriageReturn, _ | .lineFeed, _ | .control, _ => false
  | _, .carriageReturn | _, .lineFeed | _, .control => false
  | .leading, .leading | .leading, .vowel | .leading, .openSyllable
  | .leading, .closedSyllable => true
  | .openSyllable, .vowel | .openSyllable, .trailing | .vowel, .vowel | .vowel, .trailing => true
  | .closedSyllable, .trailing | .trailing, .trailing => true
  | _, .extend | _, .joiner | _, .spacingMark => true
  | .prepend, _ => true
  | _, .regional => tail.halfPair
  | _, _ =>
    (tail.joined && inRanges pictographRanges c.toNat) ||
      (tail.conjunct = .linked && inRanges conjunctConsonantRanges c.toNat)

end ClusterTail

/-- The characters of a text that continue a cluster with the given tail. -/
def clusterRest (tail : ClusterTail) : List Char → List Char
  | [] => []
  | c :: rest =>
    if tail.joins c then c :: clusterRest (ClusterTail.push (some tail) c) rest else []

/-- The first grapheme cluster of a text; empty only for the empty text. -/
def firstCluster : List Char → List Char
  | [] => []
  | c :: rest => c :: clusterRest (ClusterTail.push none c) rest

end Text
end PersonalNames
