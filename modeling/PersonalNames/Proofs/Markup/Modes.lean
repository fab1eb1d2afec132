import PersonalNames.Proofs.Markup.Content
import PersonalNames.Proofs.Markup.Rendering
import PersonalNames.Proofs.Pattern.Simulation

/-! # The markup modes agree

The modes `none`, `simple` and `html` evaluate a pattern in three formats, and
every condition looks at the output of the format at hand.  Escaping leaves
nothing empty and makes nothing empty, and neither does the deletion of the tags
of spans (`withoutSpans`); so the three formats show the same tokens, and their
outputs differ by escaping and by these tags alone. -/
namespace PersonalNames

namespace Html

/-! ## Deleting the tags of spans -/

/-- Whether a tag that opens or closes the span of a component starts here. -/
def startsSpanTag (s : List Char) : Bool :=
  "<span class=\"name-".toList.isPrefixOf s || "</span>".toList.isPrefixOf s

/-- Drops every tag of a span, up to the bracket that ends it.  `inside` says that
the text starts within such a tag. -/
def dropSpanTags (inside : Bool) : List Char → List Char
  | [] => []
  | c :: rest =>
    if inside then dropSpanTags (c != '>') rest
    else if startsSpanTag (c :: rest) then dropSpanTags true rest
    else c :: dropSpanTags false rest

/-- HTML without the tags of spans. -/
def withoutSpans (s : String) : String :=
  String.ofList (dropSpanTags false s.toList)

/-- Without the tags of spans, `a` is `b`, whatever stands behind it. -/
def DropsTo (a b : String) : Prop :=
  ∀ rest, dropSpanTags false (a.toList ++ rest) = b.toList ++ dropSpanTags false rest

theorem DropsTo.withoutSpans_eq {a b : String} (h : DropsTo a b) : withoutSpans a = b := by
  have hall := h []
  simp only [List.append_nil, dropSpanTags] at hall
  unfold withoutSpans
  rw [hall, String.ofList_toList]

theorem dropsTo_empty : DropsTo "" "" := by
  intro rest
  rfl

theorem DropsTo.append {a b c d : String} (hab : DropsTo a b) (hcd : DropsTo c d) :
    DropsTo (a ++ c) (b ++ d) := by
  intro rest
  rw [String.toList_append, String.toList_append, List.append_assoc, hab, hcd, List.append_assoc]

theorem startsSpanTag_of_ne {c : Char} (h : c ≠ '<') (rest : List Char) :
    startsSpanTag (c :: rest) = false := by
  have hbeq : ('<' == c) = false := beq_false_of_ne h.symm
  simp [startsSpanTag, List.isPrefixOf, hbeq]

/-- Text without an angle bracket stays as it is. -/
theorem dropSpanTags_of_not_mem {s : List Char} (h : '<' ∉ s) (rest : List Char) :
    dropSpanTags false (s ++ rest) = s ++ dropSpanTags false rest := by
  induction s with
  | nil => rfl
  | cons c s ih =>
    obtain ⟨hc, hs⟩ := not_or.1 (mt List.mem_cons.2 h)
    rw [List.cons_append, List.cons_append, ← ih hs]
    simp only [dropSpanTags]
    rw [startsSpanTag_of_ne (Ne.symm hc)]
    rfl

theorem dropsTo_escape (s : String) : DropsTo (escape s) (escape s) :=
  dropSpanTags_of_not_mem (isText_escape s).not_mem.1

theorem dropSpanTags_opening (rest : List Char) :
    dropSpanTags false ("<span class=\"name-".toList ++ rest) = dropSpanTags true rest :=
  rfl

/-- A tag ends at its first closing bracket. -/
theorem dropSpanTags_inside {s : List Char} (h : '>' ∉ s) (rest : List Char) :
    dropSpanTags true (s ++ '>' :: rest) = dropSpanTags false rest := by
  induction s with
  | nil => rfl
  | cons c s ih =>
    obtain ⟨hc, hs⟩ := not_or.1 (mt List.mem_cons.2 h)
    have hne : (c != '>') = true := bne_iff_ne.2 (Ne.symm hc)
    rw [List.cons_append]
    simp only [dropSpanTags, hne, if_true]
    exact ih hs

/-- The tag that opens the span of a component is dropped. -/
theorem dropsTo_spanTag (kind : Component) : DropsTo (spanTag (Scene.className kind)) "" := by
  intro rest
  have hname : '>' ∉ kind.id.toList ++ ['"'] := by cases kind <;> decide
  rw [spanTag_className, String.toList_append, String.toList_append, List.append_assoc,
    List.append_assoc]
  calc
    _ = dropSpanTags true (kind.id.toList ++ (['"'] ++ '>' :: rest)) := dropSpanTags_opening _
    _ = dropSpanTags true ((kind.id.toList ++ ['"']) ++ '>' :: rest) := by rw [List.append_assoc]
    _ = dropSpanTags false rest := dropSpanTags_inside hname rest

theorem dropsTo_closingSpan : DropsTo "</span>" "" := by
  intro rest
  rfl

theorem dropsTo_linkTag (url : String) : DropsTo (linkTag url) (linkTag url) := by
  have hopen : DropsTo "<a href=\"" "<a href=\"" := fun rest => rfl
  have hend : DropsTo "\">" "\">" := fun rest => rfl
  exact (hopen.append (dropsTo_escape url)).append hend

/-- The same content but for the tags of spans, and empty together. -/
structure SameContent (a b : String) : Prop where
  empty_iff : a = "" ↔ b = ""
  dropsTo : DropsTo a b

theorem SameContent.append {a b c d : String} (hab : SameContent a b) (hcd : SameContent c d) :
    SameContent (a ++ c) (b ++ d) := by
  constructor
  · rw [String.append_eq_empty_iff, String.append_eq_empty_iff, hab.empty_iff, hcd.empty_iff]
  · exact hab.dropsTo.append hcd.dropsTo

/-- A span around content adds nothing but its tags. -/
theorem sameContent_span (kind : Component) (s : String) :
    SameContent (enclose (spanTag (Scene.className kind)) "</span>" (escape s)) (escape s) := by
  unfold enclose
  by_cases hempty : escape s = ""
  · rw [if_pos hempty, hempty]
    exact ⟨Iff.rfl, dropsTo_empty⟩
  · rw [if_neg hempty]
    constructor
    · simp [hempty]
    · have hdrop := ((dropsTo_spanTag kind).append (dropsTo_escape s)).append dropsTo_closingSpan
      rwa [String.empty_append, String.append_empty] at hdrop

/-- Links around the same content. -/
theorem SameContent.link {a b : String} (h : SameContent a b) (url : String) :
    DropsTo (enclose (linkTag url) "</a>" a) (enclose (linkTag url) "</a>" b) := by
  unfold enclose
  by_cases hempty : b = ""
  · rw [if_pos (h.empty_iff.2 hempty), if_pos hempty]
    exact dropsTo_empty
  · rw [if_neg (mt h.empty_iff.1 hempty), if_neg hempty]
    have hclose : DropsTo "</a>" "</a>" := fun rest => rfl
    exact ((dropsTo_linkTag url).append h.dropsTo).append hclose

end Html

/-! ## The formats -/

namespace OutputFormat

open Html

theorem plain_relates_html : plain.Relates (fun a b => b = escape a) html := by
  constructor
  · rfl
  · rintro a _ c _ rfl rfl
    rw [escape_append]
  · rintro a _ rfl
    exact (escape_eq_empty_iff a).symm
  · intro s
    rfl
  · intro kind s
    rfl

theorem semanticHtml_relates_html : semanticHtml.Relates SameContent html := by
  constructor
  · exact ⟨Iff.rfl, dropsTo_empty⟩
  · intro a b c d hab hcd
    exact hab.append hcd
  · intro a b hab
    exact hab.empty_iff
  · intro s
    exact ⟨Iff.rfl, dropsTo_escape s⟩
  · intro kind s
    simp only [semanticHtml, html, htmlWith, if_true, Bool.false_eq_true, if_false]
    exact sameContent_span kind s

end OutputFormat

namespace Pattern

open Html

variable (tokens : List Token) (name : PersonName)

theorem output_html_eq_escape {settings settings' : Settings}
    (h : ∀ index, settings.separator index = settings'.separator index) :
    output .html tokens name settings' = escape (output .plain tokens name settings) :=
  output_related OutputFormat.plain_relates_html tokens name h

theorem sameContent_output {settings settings' : Settings}
    (h : ∀ index, settings.separator index = settings'.separator index) :
    SameContent (output .semanticHtml tokens name settings) (output .html tokens name settings') :=
  output_related OutputFormat.semanticHtml_relates_html tokens name h

/-- The HTML of a name from the HTML of its content. -/
def linked (name : PersonName) (html : String) : String :=
  if name.isEmpty then ""
  else
    match name.target? with
    | some url => enclose (linkTag url) "</a>" html
    | none => html

theorem linked_dropsTo {a b : String} (h : SameContent a b) :
    DropsTo (linked name a) (linked name b) := by
  unfold linked
  split
  · exact dropsTo_empty
  · split
    · next url _ => exact h.link url
    · exact h.dropsTo

theorem toHtml_formatTokens (settings : Settings) :
    (formatTokens tokens name settings).toHtml =
      linked name (content tokens name settings).toHtml := by
  have hiff := Markup.isEmpty_iff (OutputFormat.htmlWith_lawful false)
    (content tokens name settings)
  unfold formatTokens linked
  by_cases hname : name.isEmpty
  · rw [if_pos hname, if_pos hname]
    exact (escape_eq_empty_iff "").2 rfl
  · rw [if_neg hname, if_neg hname]
    simp only
    cases name.target? with
    | none => rfl
    | some url =>
      simp only
      by_cases hempty : (content tokens name settings).isEmpty
      · -- Neither the markup nor the HTML has a link around nothing.
        have hhtml : (content tokens name settings).toHtml = "" := hiff.1 hempty
        rw [if_pos hempty, hhtml]
        rfl
      · rw [if_neg hempty]
        rfl

/-- **The markup modes agree.**  The HTML of a token sequence is its plain text
escaped, and without the tags of spans the HTML with classes is the same.  So is
the HTML of a formatted name in the modes `none` and `simple`, and in the mode
`html` without the tags of spans; links are the same in all three. -/
theorem markup_modes_agree (settings : Settings) (pattern : Pattern) :
    (output .html tokens name settings = escape (output .plain tokens name settings) ∧
      withoutSpans (output .semanticHtml tokens name settings) =
        output .html tokens name settings) ∧
    (format pattern name { settings with markup := .simple }).toHtml =
      (format pattern name { settings with markup := .none }).toHtml ∧
    withoutSpans (format pattern name { settings with markup := .html }).toHtml =
      (format pattern name { settings with markup := .none }).toHtml := by
  -- The separators, which patterns show, are the same in all modes.
  have hsep (mode mode' : MarkupMode) (index : Nat) :
      { settings with markup := mode }.separator index =
        { settings with markup := mode' }.separator index := rfl
  have hsimple : (content pattern.tokens name { settings with markup := .simple }).toHtml =
      (content pattern.tokens name { settings with markup := .none }).toHtml :=
    output_html_eq_escape pattern.tokens name (hsep .none .simple)
  have hhtml : SameContent (content pattern.tokens name { settings with markup := .html }).toHtml
      (content pattern.tokens name { settings with markup := .simple }).toHtml :=
    sameContent_output pattern.tokens name (hsep .html .simple)
  refine ⟨⟨?_, ?_⟩, ?_, ?_⟩
  · exact output_html_eq_escape tokens name fun _ => rfl
  · exact (sameContent_output tokens name fun _ => rfl).dropsTo.withoutSpans_eq
  · unfold format
    rw [toHtml_formatTokens, toHtml_formatTokens, hsimple]
  · unfold format
    rw [toHtml_formatTokens, toHtml_formatTokens, ← hsimple]
    exact (linked_dropsTo name hhtml).withoutSpans_eq

end Pattern
end PersonalNames
