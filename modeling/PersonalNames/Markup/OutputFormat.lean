/-! # Output formats

An output format says how text, emphasis, classes and links are written.  There
are three: plain text, HTML, and HTML in which the components of a name carry
classes. -/
namespace PersonalNames

/-- The ways in which a format writes the elements of a markup tree. -/
structure OutputFormat where
  /-- Text that may hold any character. -/
  text : String → String
  /-- Content that is written in the format already. -/
  raw : String → String
  /-- Emphasized content. -/
  emphasis : String → String
  /-- Content of a class. -/
  semantic : (className : String) → String → String
  /-- Content that links to a URL. -/
  link : (url : String) → String → String
  /-- Contents with a delimiter text between them. -/
  join : (delimiter : String) → List String → String

namespace Html

/-- A character as it stands in HTML content or in an attribute value. -/
def escapeChar (c : Char) : List Char :=
  match c with
  | '&' => ['&', 'a', 'm', 'p', ';']
  | '<' => ['&', 'l', 't', ';']
  | '>' => ['&', 'g', 't', ';']
  | '"' => ['&', 'q', 'u', 'o', 't', ';']
  | '\'' => ['&', '#', '3', '9', ';']
  | c => [c]

/-- A text as it stands in HTML content or in an attribute value. -/
def escape (s : String) : String :=
  String.ofList (s.toList.flatMap escapeChar)

theorem escape_append (s t : String) : escape (s ++ t) = escape s ++ escape t := by
  simp [escape]

theorem escapeChar_ne_nil (c : Char) : escapeChar c ≠ [] := by
  unfold escapeChar
  split <;> simp

/-- Escaping leaves no text empty and makes none empty. -/
theorem escape_eq_empty_iff (s : String) : escape s = "" ↔ s = "" := by
  rw [← String.toList_inj, ← String.toList_inj]
  cases h : s.toList with
  | nil => simp [escape, h]
  | cons c rest => simp [escape, h, escapeChar_ne_nil]

/-- Content between an opening and a closing tag; no content needs no tags. -/
def enclose (opening closing content : String) : String :=
  if content = "" then "" else opening ++ content ++ closing

/-- The tag that opens a span of a class. -/
def spanTag (className : String) : String :=
  "<span class=\"" ++ className ++ "\">"

/-- The tag that opens a link. -/
def linkTag (url : String) : String :=
  "<a href=\"" ++ escape url ++ "\">"

end Html

namespace OutputFormat

/-- Plain text: everything is written as it is, and marks are left out. -/
def plain : OutputFormat where
  text s := s
  raw s := s
  emphasis content := content
  semantic _ content := content
  link _ content := content
  join delimiter items := String.intercalate delimiter items

/-- HTML; whether classes are written is a choice. -/
def htmlWith (classes : Bool) : OutputFormat where
  text := Html.escape
  raw s := s
  emphasis content := Html.enclose "<em>" "</em>" content
  semantic className content :=
    if classes then Html.enclose (Html.spanTag className) "</span>" content else content
  link url content := Html.enclose (Html.linkTag url) "</a>" content
  join delimiter items := String.intercalate (Html.escape delimiter) items

/-- HTML without classes. -/
def html : OutputFormat :=
  htmlWith false

/-- HTML with classes. -/
def semanticHtml : OutputFormat :=
  htmlWith true

end OutputFormat
end PersonalNames
