import PersonalNames.Markup.OutputFormat

/-! # Markup trees

What formatting a name or a list of names gives: text and markup put together
from parts, to be written in any output format later.  `concat` puts parts
together and joins plain text with plain text. -/
namespace PersonalNames

/-- Formatted text. -/
inductive Markup where
  /-- Text that has still to be escaped. -/
  | plain (text : String)
  /-- Text that is written in the output format already. -/
  | escaped (text : String)
  | hyperlink (url : String) (content : Markup)
  | emphasis (content : Markup)
  | concat (parts : List Markup)
deriving Repr

namespace Markup

/-- No text. -/
def empty : Markup :=
  plain ""

instance : Inhabited Markup := ⟨empty⟩

/-- Parts with one more part behind them: empty text is dropped, plain text
joins plain text, and the parts of a sequence are taken over one by one. -/
def absorb (parts : List Markup) (part : Markup) : List Markup :=
  match part with
  | plain text =>
    if text = "" then parts
    else
      match parts.getLast? with
      | some (plain before) => parts.dropLast ++ [plain (before ++ text)]
      | _ => parts ++ [plain text]
  | concat inner => parts ++ inner
  | part => parts ++ [part]

/-- Parts as one markup: none is empty text, and a single one is itself. -/
def ofParts : List Markup → Markup
  | [] => empty
  | [part] => part
  | parts => concat parts

/-- The markup of several parts in their order. -/
def concatAll (parts : List Markup) : Markup :=
  ofParts (parts.foldl absorb [])

mutual

/-- Whether there is no text in the markup. -/
def isEmpty : Markup → Bool
  | plain text => text = ""
  | escaped text => text = ""
  | hyperlink _ content => isEmpty content
  | emphasis content => isEmpty content
  | concat parts => allEmpty parts

/-- Whether there is no text in any of the parts. -/
def allEmpty : List Markup → Bool
  | [] => true
  | part :: parts => isEmpty part && allEmpty parts

end

mutual

/-- The markup in an output format. -/
def render (format : OutputFormat) : Markup → String
  | plain text => format.text text
  | escaped text => format.raw text
  | hyperlink url content => format.link url (render format content)
  | emphasis content => format.emphasis (render format content)
  | concat parts => format.join "" (renderAll format parts)

/-- The parts in an output format. -/
def renderAll (format : OutputFormat) : List Markup → List String
  | [] => []
  | part :: parts => render format part :: renderAll format parts

end

/-- The markup as plain text. -/
def toText (m : Markup) : String :=
  m.render .plain

/-- The markup as HTML. -/
def toHtml (m : Markup) : String :=
  m.render .html

end Markup
end PersonalNames
