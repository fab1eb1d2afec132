import PersonalNames.Proofs.Markup.Content
import PersonalNames.Proofs.NameList.Joining

/-! # The text of HTML

HTML is read back by dropping its tags and decoding its entities, in one pass each
(`withoutTags`, `decoded`).  For a tree in which no text is written in the format
already, this gives what is written as plain text (`decoded_withoutTags_toHtml`):
tags are put around content only, and text and URLs are escaped exactly once, so
that text that looks like a tag or an entity comes back as it was.
-/
namespace PersonalNames

namespace Html

/-! ## Dropping tags -/

/-- Drops every tag, from an opening bracket up to the next closing one.  `inside`
says that the text starts within a tag. -/
def dropTags (inside : Bool) : List Char → List Char
  | [] => []
  | c :: rest =>
    if inside then dropTags (c != '>') rest
    else if c = '<' then dropTags true rest
    else c :: dropTags false rest

/-- HTML without its tags. -/
def withoutTags (s : String) : String :=
  String.ofList (dropTags false s.toList)

/-- Text without an angle bracket stays as it is. -/
theorem dropTags_of_not_mem {s : List Char} (h : '<' ∉ s) (rest : List Char) :
    dropTags false (s ++ rest) = s ++ dropTags false rest := by
  induction s with
  | nil => rfl
  | cons c s ih =>
    obtain ⟨hc, hs⟩ := not_or.1 (mt List.mem_cons.2 h)
    rw [List.cons_append, dropTags, if_neg Bool.false_ne_true, if_neg (Ne.symm hc), ih hs]
    rfl

/-- A tag ends at its first closing bracket. -/
theorem dropTags_inside {s : List Char} (h : '>' ∉ s) (rest : List Char) :
    dropTags true (s ++ '>' :: rest) = dropTags false rest := by
  induction s with
  | nil => rfl
  | cons c s ih =>
    obtain ⟨hc, hs⟩ := not_or.1 (mt List.mem_cons.2 h)
    have hne : (c != '>') = true := bne_iff_ne.2 (Ne.symm hc)
    rw [List.cons_append, dropTags, if_pos rfl, hne, ih hs]

/-- A text that is one tag, up to its first closing bracket. -/
def IsTag (s : String) : Prop :=
  ∃ name, s.toList = '<' :: (name ++ ['>']) ∧ '>' ∉ name

theorem IsTag.dropTags {s : String} (h : IsTag s) (rest : List Char) :
    dropTags false (s.toList ++ rest) = dropTags false rest := by
  obtain ⟨name, hs, hname⟩ := h
  rw [hs, List.cons_append, List.append_assoc]
  exact dropTags_inside hname rest

/-- No URL ends the tag of its link. -/
theorem isTag_linkTag (url : String) : IsTag (linkTag url) := by
  have hurl : '>' ∉ (escape url).toList := (isText_escape url).not_mem.2.1
  refine ⟨"a href=\"".toList ++ (escape url).toList ++ ['"'], ?_, ?_⟩
  · simp [linkTag]
  · simp [hurl]

/-! ## Decoding entities -/

/-- Replaces every entity by its character, from left to right; what an entity gave is
not looked at again. -/
def decode : List Char → List Char
  | '&' :: 'a' :: 'm' :: 'p' :: ';' :: rest => '&' :: decode rest
  | '&' :: 'l' :: 't' :: ';' :: rest => '<' :: decode rest
  | '&' :: 'g' :: 't' :: ';' :: rest => '>' :: decode rest
  | '&' :: 'q' :: 'u' :: 'o' :: 't' :: ';' :: rest => '"' :: decode rest
  | '&' :: '#' :: '3' :: '9' :: ';' :: rest => '\'' :: decode rest
  | c :: rest => c :: decode rest
  | [] => []

/-- A text with its entities replaced. -/
def decoded (s : String) : String :=
  String.ofList (decode s.toList)

/-- Only an ampersand starts an entity. -/
theorem decode_cons {c : Char} (h : c ≠ '&') (rest : List Char) :
    decode (c :: rest) = c :: decode rest := by
  rw [decode]
  all_goals
    rintro _ rfl
    exact absurd rfl h

theorem decode_escapeChar (c : Char) (rest : List Char) :
    decode (escapeChar c ++ rest) = c :: decode rest := by
  unfold escapeChar
  split
  · rfl
  · rfl
  · rfl
  · rfl
  · rfl
  · next hamp _ _ _ _ => exact decode_cons hamp rest

/-- **Decoding undoes escaping.** -/
theorem decoded_escape (s : String) : decoded (escape s) = s := by
  unfold decoded escape
  rw [String.toList_ofList]
  suffices h : ∀ text : List Char, decode (text.flatMap escapeChar) = text by
    rw [h, String.ofList_toList]
  intro text
  induction text with
  | nil => rfl
  | cons c text ih => rw [List.flatMap_cons, decode_escapeChar, ih]

/-! ## The text behind the tags -/

/-- Without its tags, `html` is `text` escaped, whatever stands behind it. -/
def HasText (html text : String) : Prop :=
  ∀ rest, dropTags false (html.toList ++ rest) = (escape text).toList ++ dropTags false rest

/-- What is read back from HTML is the text that it has. -/
theorem HasText.decoded_eq {html text : String} (h : HasText html text) :
    decoded (withoutTags html) = text := by
  have hall := h []
  rw [List.append_nil, dropTags, List.append_nil] at hall
  rw [withoutTags, hall, String.ofList_toList, decoded_escape]

theorem hasText_escape (s : String) : HasText (escape s) s :=
  dropTags_of_not_mem (isText_escape s).not_mem.1

theorem HasText.append {html more text others : String} (h : HasText html text)
    (hmore : HasText more others) : HasText (html ++ more) (text ++ others) := by
  intro rest
  rw [String.toList_append, List.append_assoc, h, hmore, escape_append, String.toList_append,
    List.append_assoc]

/-- Tags around content leave its text as it is, and so does leaving them out where there
is no content. -/
theorem HasText.enclose {content text opening closing : String} (h : HasText content text)
    (hopening : IsTag opening) (hclosing : IsTag closing) :
    HasText (enclose opening closing content) text := by
  unfold Html.enclose
  split
  · next hempty => rwa [hempty] at h
  · intro rest
    rw [String.toList_append, String.toList_append, List.append_assoc, List.append_assoc,
      hopening.dropTags, h, hclosing.dropTags]

end Html

/-! ## Trees -/

namespace Markup

open Html

/-- The trees in which no text is written in the output format already. -/
inductive IsUnescaped : Markup → Prop
  | plain (text : String) : IsUnescaped (.plain text)
  | hyperlink (url : String) {content : Markup} :
      IsUnescaped content → IsUnescaped (.hyperlink url content)
  | emphasis {content : Markup} : IsUnescaped content → IsUnescaped (.emphasis content)
  | concat {parts : List Markup} :
      (∀ part ∈ parts, IsUnescaped part) → IsUnescaped (.concat parts)

/-- Parts whose HTML has their text are written so one behind the other. -/
theorem hasText_join {parts : List Markup} (h : ∀ part ∈ parts, HasText part.toHtml part.toText) :
    HasText (String.join (renderAll .html parts)) (String.join (renderAll .plain parts)) := by
  induction parts with
  | nil => exact hasText_escape ""
  | cons part parts ih =>
    simp only [renderAll, String.join_cons]
    exact (h part List.mem_cons_self).append (ih fun other hmem => h other (.tail _ hmem))

theorem IsUnescaped.hasText {m : Markup} (h : m.IsUnescaped) : HasText m.toHtml m.toText := by
  induction h with
  | plain text => exact hasText_escape text
  | hyperlink url _ ih => exact ih.enclose (isTag_linkTag url) ⟨"/a".toList, rfl, by decide⟩
  | emphasis _ ih => exact ih.enclose ⟨"em".toList, rfl, by decide⟩ ⟨"/em".toList, rfl, by decide⟩
  | concat _ ih =>
    unfold toHtml toText
    rw [render_concat OutputFormat.html_lawful, render_concat OutputFormat.plain_lawful]
    exact hasText_join ih

/-- **HTML carries the text.**  Of a tree in which nothing is written in the format
already, the HTML without its tags, and with its entities decoded, is the plain text. -/
theorem decoded_withoutTags_toHtml {m : Markup} (h : m.IsUnescaped) :
    decoded (withoutTags m.toHtml) = m.toText :=
  h.hasText.decoded_eq

/-- Text and a URL that look like tags and entities, and emphasis around nothing. -/
theorem decoded_withoutTags_toHtml_of_marks :
    let m := concat [hyperlink "\"></a>" (emphasis (plain "&lt;b>")), emphasis (plain ""),
      plain "<i>&amp;amp;</i>"]
    m.IsUnescaped ∧
      m.toHtml = "<a href=\"&quot;&gt;&lt;/a&gt;\"><em>&amp;lt;b&gt;</em></a>" ++
        "&lt;i&gt;&amp;amp;amp;&lt;/i&gt;" ∧
      decoded (withoutTags m.toHtml) = "&lt;b><i>&amp;amp;</i>" := by
  intro m
  have hunescaped : m.IsUnescaped := by
    refine .concat fun part hmem => ?_
    simp only [List.mem_cons, List.not_mem_nil, or_false] at hmem
    rcases hmem with rfl | rfl | rfl
    · exact .hyperlink _ (.emphasis (.plain _))
    · exact .emphasis (.plain _)
    · exact .plain _
  exact ⟨hunescaped, by decide, (decoded_withoutTags_toHtml hunescaped).trans (by decide)⟩

end Markup

/-! ## Formatted names -/

section
variable {settings : Settings} (h : settings.markup = .none)
include h

theorem Pattern.isUnescaped_formatTokens (tokens : List Token) (name : PersonName) :
    (formatTokens tokens name settings).IsUnescaped := by
  have hcontent : (content tokens name settings).IsUnescaped := by
    unfold content
    rw [h]
    exact .plain _
  exact formatTokens_cases (.plain "") hcontent fun url => .hyperlink url hcontent

/-- In the mode `none`, the HTML of a formatted name or list carries its text. -/
theorem decoded_withoutTags_format (pattern : Pattern) :
    (∀ name, Html.decoded (Html.withoutTags (Pattern.format pattern name settings).toHtml) =
      (Pattern.format pattern name settings).toText) ∧
      ∀ names style terms,
        Html.decoded (Html.withoutTags
          (NameList.format pattern names style settings terms).toHtml) =
            (NameList.format pattern names style settings terms).toText := by
  have hname (name : PersonName) := (Pattern.isUnescaped_formatTokens h pattern.tokens name).hasText
  refine ⟨fun name => (hname name).decoded_eq, ?_⟩
  intro names style terms
  have hmark : (NameList.cutMark terms settings.markup).IsUnescaped := by
    rw [h]
    exact .plain _
  have hconcat (parts : List Markup) (hparts : ∀ m ∈ parts, Html.HasText m.toHtml m.toText) :
      Html.HasText (Markup.concatAll parts).toHtml (Markup.concatAll parts).toText := by
    unfold Markup.toHtml Markup.toText
    rw [Markup.render_concatAll OutputFormat.html_lawful,
      Markup.render_concatAll OutputFormat.plain_lawful]
    exact Markup.hasText_join hparts
  refine Html.HasText.decoded_eq (NameList.formatTokens_induction pattern.tokens settings terms
    (fun text => Html.hasText_escape text) hmark.hasText hname (fun _ hpart => hpart) hconcat names)

end

end PersonalNames
