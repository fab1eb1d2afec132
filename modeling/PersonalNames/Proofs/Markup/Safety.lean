import PersonalNames.Proofs.Markup.Content
import PersonalNames.Proofs.NameList.Joining
import PersonalNames.Proofs.Pattern.Simulation

/-! # Formatted names are HTML content

In every mode but the raw one, the texts of a name, of its link, of a pattern, of
settings, of a list style and of terms reach HTML as text only.  The mode `none`
escapes when the markup is written, the modes `simple` and `html` when the pattern
is evaluated; a link and the mark of a cut list are put around content later. -/
namespace PersonalNames

open Html

variable {settings : Settings}

namespace Pattern

theorem isContent_output (classes : Bool) (tokens : List Token) (name : PersonName)
    (settings : Settings) : IsContent (output (.htmlWith classes) tokens name settings) := by
  apply output_induction
  · exact .nil
  · intro a b ha hb
    exact ha.append hb
  · intro s
    exact OutputFormat.isContent_text s
  · intro kind s
    exact OutputFormat.isContent_semantic kind (OutputFormat.isContent_text s)

theorem isContent_content (h : settings.markup ≠ .raw) (tokens : List Token) (name : PersonName) :
    IsContent (content tokens name settings).toHtml := by
  unfold content
  -- In the mode `none` the text is escaped as a whole, in the others piece by piece.
  cases hmode : settings.markup with
  | none => exact OutputFormat.isContent_text _
  | simple => exact isContent_output false tokens name settings
  | html => exact isContent_output true tokens name settings
  | raw => exact absurd hmode h

theorem isContent_formatTokens (h : settings.markup ≠ .raw) (tokens : List Token)
    (name : PersonName) : IsContent (formatTokens tokens name settings).toHtml := by
  have hcontent := isContent_content h tokens name
  exact formatTokens_cases (P := fun m => IsContent m.toHtml) (OutputFormat.isContent_text "")
    hcontent fun url => OutputFormat.isContent_link url hcontent

end Pattern

namespace NameList

theorem isContent_plain (s : String) : IsContent (Markup.plain s).toHtml :=
  OutputFormat.isContent_text s

theorem isContent_cutMark (terms : Terms) (mode : MarkupMode) :
    IsContent (cutMark terms mode).toHtml := by
  unfold cutMark
  split
  · exact isContent_plain terms.others
  · exact OutputFormat.isContent_emphasis (isContent_plain terms.others)

theorem isContent_concatAll {parts : List Markup} (h : ∀ part ∈ parts, IsContent part.toHtml) :
    IsContent (Markup.concatAll parts).toHtml := by
  unfold Markup.toHtml
  rw [Markup.render_concatAll OutputFormat.html_lawful, Markup.renderAll_eq_map]
  apply isContent_join
  intro item hitem
  obtain ⟨part, hpart, rfl⟩ := List.mem_map.1 hitem
  exact h part hpart

theorem isContent_formatTokens (h : settings.markup ≠ .raw) (tokens : List Token)
    (names : List PersonName) (style : ListStyle) (terms : Terms) :
    IsContent (formatTokens tokens names style settings terms).toHtml := by
  have hname := Pattern.isContent_formatTokens h tokens
  have hmark := isContent_cutMark terms settings.markup
  exact formatTokens_induction tokens settings terms isContent_plain hmark hname
    (fun _ hpart => hpart) (fun _ => isContent_concatAll) names

end NameList

/-- **What formatting gives is HTML content.**  In every mode but the raw one,
whatever stands in a name, a pattern, settings, a list style or terms, a
formatted name and a formatted list are text and properly nested elements. -/
theorem toHtml_format_isContent (h : settings.markup ≠ .raw) (pattern : Pattern)
    (style : ListStyle) (terms : Terms) :
    (∀ name, IsContent (Pattern.format pattern name settings).toHtml) ∧
      ∀ names, IsContent (NameList.format pattern names style settings terms).toHtml := by
  constructor
  · intro name
    exact Pattern.isContent_formatTokens h pattern.tokens name
  · intro names
    exact NameList.isContent_formatTokens h pattern.tokens names style terms

/-- A name and a link made of characters with a meaning in HTML. -/
theorem toHtml_format_of_marks :
    MarkupMode.html ≠ .raw ∧
      IsContent "<a href=\"&quot;&gt;\"><span class=\"name-family\">&lt;b&gt;</span></a>" := by
  refine ⟨by decide, ?_⟩
  have h := (@toHtml_format_isContent { markup := .html } (by decide)
    ⟨"f", [.component ⟨.single .family, false⟩]⟩ {} {}).1
      { family := some "<b>", link := some "\">" }
  have hhtml : (Pattern.format ⟨"f", [.component ⟨.single .family, false⟩]⟩
      { family := some "<b>", link := some "\">" } { markup := .html }).toHtml =
        "<a href=\"&quot;&gt;\"><span class=\"name-family\">&lt;b&gt;</span></a>" := by rfl
  rwa [hhtml] at h

end PersonalNames
