import PersonalNames.NameList
import PersonalNames.Proofs.Markup.Rendering

/-! # What is written for a list of names

A list is put together as a markup tree, whose parts are dropped, merged and
taken apart on the way.  `joined` says what is written for it in the end, from
nothing but what is written for its names: the entries in their order, a
delimiter at each boundary, and a text of its own at the last one or before the
mark of a cut.  `format_joins` says that this is what is written, as plain text
and as HTML.  What is not about writing goes over to lists by `formatTokens_induction`. -/
namespace PersonalNames
namespace NameList

/-! ## The text of a list -/

/-- Whether a rule puts the delimiter at a boundary behind which a term stands. -/
def Precedes (rule : DelimiterRule) (count threshold : Nat) : Prop :=
  rule = .always ∨ rule = .contextual ∧ threshold ≤ count

instance (rule : DelimiterRule) (count threshold : Nat) :
    Decidable (Precedes rule count threshold) :=
  inferInstanceAs (Decidable (_ ∨ _))

/-- How many names a list of `count` names shows before its mark, if it is cut. -/
def cutAt? (style : ListStyle) (count : Nat) : Option Nat :=
  style.cut.bind fun cut =>
    if cut.least ≤ count ∧ max 1 cut.shown < count then some (max 1 cut.shown) else none

/-- The text at the last boundary of a list of `count` names that is not cut. -/
def lastText (style : ListStyle) (terms : Terms) (count : Nat) : String :=
  let opening := if Precedes style.delimiterBeforeLast count 3 then style.delimiter else " "
  match style.conjunction with
  | .inherit => style.delimiter
  | .text => opening ++ terms.and.getD "and" ++ " "
  | .symbol => opening ++ terms.andSymbol.getD "&" ++ " "

/-- What is written for all entries of a list that is not cut. -/
def joinedWhole (f : OutputFormat) (style : ListStyle) (terms : Terms)
    (entries : List String) : String :=
  String.intercalate (f.text style.delimiter) entries.dropLast ++
    f.text (lastText style terms entries.length) ++ entries.getLast?.getD ""

/-- What is written for the entries that a cut list shows, and for its mark. -/
def joinedCut (f : OutputFormat) (style : ListStyle) (terms : Terms) (mode : MarkupMode)
    (entries : List String) : String :=
  let mark := f.text (terms.etAl.getD "et al")
  String.intercalate (f.text style.delimiter) entries ++
    (if Precedes style.delimiterBeforeCut entries.length 2 then f.text style.delimiter else " ") ++
    if mode = .none then mark else f.emphasis mark

/-- What is written for a list, from what is written for each of its names. -/
def joined (f : OutputFormat) (style : ListStyle) (terms : Terms) (mode : MarkupMode) :
    List String → String
  | [] => ""
  | [entry] => entry
  | entries =>
    match cutAt? style entries.length with
    | some shown => joinedCut f style terms mode (entries.take shown)
    | none => joinedWhole f style terms entries

/-- A list of two names and more is cut or shown as a whole. -/
theorem joined_of_two_le {f : OutputFormat} {style : ListStyle} {terms : Terms}
    {mode : MarkupMode} {entries : List String} (h : 2 ≤ entries.length) :
    joined f style terms mode entries =
      match cutAt? style entries.length with
      | some shown => joinedCut f style terms mode (entries.take shown)
      | none => joinedWhole f style terms entries := by
  match entries, h with
  | _ :: _ :: _, _ => rfl

/-! ## The parts of a list -/

theorem shownCount_eq (style : ListStyle) (count : Nat) :
    shownCount style count = (cutAt? style count).getD count := by
  unfold shownCount cutAt?
  cases style.cut with
  | none => rfl
  | some cut =>
    simp only [Option.bind_some, Nat.max_comm 1]
    split <;> rfl

/-- A list that is cut shows a name and hides one. -/
theorem cutAt?_bounds {style : ListStyle} {count shown : Nat}
    (h : cutAt? style count = some shown) : 1 ≤ shown ∧ shown < count := by
  obtain ⟨cut, -, hcut⟩ := Option.bind_eq_some_iff.1 h
  split at hcut
  · next hcount =>
    cases hcut
    exact ⟨Nat.le_max_left 1 cut.shown, hcount.2⟩
  · cases hcut

/-- A list with fewer than two names is not cut. -/
theorem cutAt?_eq_none {style : ListStyle} {count : Nat} (h : count < 2) :
    cutAt? style count = none := by
  cases hcut : cutAt? style count with
  | none => rfl
  | some shown =>
    obtain ⟨hshown, hcount⟩ := cutAt?_bounds hcut
    omega

/-- A list never shows more names than it has. -/
theorem shownCount_le (style : ListStyle) (count : Nat) : shownCount style count ≤ count := by
  rw [shownCount_eq]
  cases h : cutAt? style count with
  | none => exact Nat.le_refl count
  | some shown => exact Nat.le_of_lt (cutAt?_bounds h).2

theorem applies_eq (rule : DelimiterRule) (count threshold : Nat) :
    rule.applies count threshold = decide (Precedes rule count threshold) := by
  cases rule <;> simp [DelimiterRule.applies, Precedes]

theorem lastBoundary_eq (style : ListStyle) (terms : Terms) (count : Nat) :
    lastBoundary style terms count = lastText style terms count := by
  unfold lastBoundary lastText
  rw [applies_eq]
  by_cases h : Precedes style.delimiterBeforeLast count 3 <;>
    cases style.conjunction <;> simp [h, Terms.conjunction]

section
variable {f : OutputFormat} (h : f.Lawful)

/-- Entries with a boundary between any two are written with its text between them. -/
theorem join_renderAll_between (delimiter : String) (entries : List Markup) :
    String.join (Markup.renderAll f (between (.plain delimiter) entries)) =
      String.intercalate (f.text delimiter) (entries.map (Markup.render f)) := by
  match entries with
  | [] => rfl
  | [entry] => simp [between, Markup.renderAll]
  | entry :: next :: rest =>
    have ih := join_renderAll_between delimiter (next :: rest)
    simp only [between, Markup.renderAll, String.join_cons, Markup.render, List.map_cons]
    rw [ih, List.map_cons, String.intercalate_cons_cons, String.append_assoc]

theorem render_cutMark (terms : Terms) (mode : MarkupMode) :
    (cutMark terms mode).render f =
      if mode = .none then f.text (terms.etAl.getD "et al")
      else f.emphasis (f.text (terms.etAl.getD "et al")) := by
  cases mode <;> rfl

include h

theorem render_wholeParts (style : ListStyle) (terms : Terms) {entries : List Markup}
    (hne : entries ≠ []) :
    (Markup.concatAll (wholeParts style terms entries)).render f =
      joinedWhole f style terms (entries.map (Markup.render f)) := by
  obtain ⟨front, last, rfl⟩ : ∃ front last, entries = front ++ [last] :=
    ⟨_, _, (List.dropLast_concat_getLast hne).symm⟩
  have hparts : wholeParts style terms (front ++ [last]) =
      between (.plain style.delimiter) front ++
        [.plain (lastText style terms (front.length + 1)), last] := by
    simp [wholeParts, lastBoundary_eq]
  rw [Markup.render_concatAll h, hparts, Markup.join_renderAll_append, join_renderAll_between]
  simp [joinedWhole, Markup.renderAll, Markup.render, String.append_assoc]

theorem render_cutParts (hspace : f.text " " = " ") (style : ListStyle) (terms : Terms)
    (mode : MarkupMode) (entries : List Markup) :
    (Markup.concatAll (cutParts style terms mode entries)).render f =
      joinedCut f style terms mode (entries.map (Markup.render f)) := by
  have hboundary : f.text (if style.delimiterBeforeCut.applies entries.length 2 then
      style.delimiter else " ") =
        if Precedes style.delimiterBeforeCut entries.length 2 then f.text style.delimiter
        else " " := by
    rw [applies_eq]
    by_cases hrule : Precedes style.delimiterBeforeCut entries.length 2 <;> simp [hrule, hspace]
  rw [Markup.render_concatAll h]
  unfold cutParts joinedCut
  simp only [Markup.join_renderAll_append, join_renderAll_between, Markup.renderAll,
    Markup.render, hboundary, render_cutMark, List.length_map, String.join_cons, String.join_nil,
    String.append_empty, String.append_assoc]

end

/-- A part of a list with boundaries is an entry or the boundary. -/
theorem mem_between {boundary part : Markup} {entries : List Markup}
    (h : part ∈ between boundary entries) : part = boundary ∨ part ∈ entries := by
  fun_induction between boundary entries with
  | case1 => cases h
  | case2 entry => exact .inr h
  | case3 entry entries hentries ih =>
    rcases List.mem_cons.1 h with rfl | h
    · exact .inr (.head _)
    · rcases List.mem_cons.1 h with rfl | h
      · exact .inl rfl
      · exact (ih h).imp_right (.tail _)

section
variable {P : Markup → Prop} (hplain : ∀ text, P (.plain text))
include hplain

theorem forall_mem_cutParts {terms : Terms} {mode : MarkupMode} (hmark : P (cutMark terms mode))
    (style : ListStyle) {entries : List Markup} (h : ∀ entry ∈ entries, P entry) :
    ∀ part ∈ cutParts style terms mode entries, P part := by
  intro part hpart
  rcases List.mem_append.1 hpart with hpart | hpart
  · rcases mem_between hpart with rfl | hentry
    · exact hplain _
    · exact h part hentry
  · simp only [List.mem_cons, List.not_mem_nil, or_false] at hpart
    rcases hpart with rfl | rfl
    · exact hplain _
    · exact hmark

theorem forall_mem_wholeParts (style : ListStyle) (terms : Terms) {entries : List Markup}
    (h : ∀ entry ∈ entries, P entry) : ∀ part ∈ wholeParts style terms entries, P part := by
  intro part hpart
  unfold wholeParts at hpart
  split at hpart
  · cases hpart
  · next last hlast =>
    rcases List.mem_append.1 hpart with hpart | hpart
    · rcases mem_between hpart with rfl | hentry
      · exact hplain _
      · exact h part (List.dropLast_subset _ hentry)
    · simp only [List.mem_cons, List.not_mem_nil, or_false] at hpart
      rcases hpart with rfl | rfl
      · exact hplain _
      · exact h part (List.mem_of_getLast? hlast)

end

/-! ## The formatted list -/

section
variable (tokens : List Token) {names : List PersonName} {style : ListStyle} (settings : Settings)
  (terms : Terms)

/-- A list that is cut is made of its first names and the mark. -/
theorem formatTokens_of_cut {shown : Nat} (h : cutAt? style names.length = some shown) :
    formatTokens tokens names style settings terms =
      .concatAll (cutParts style terms settings.markup
        ((names.map fun name => Pattern.formatTokens tokens name settings).take shown)) := by
  have hshown : shown < names.length := (cutAt?_bounds h).2
  simp [formatTokens, shownCount_eq, h, hshown, List.map_take]

/-- A list of two names and more that is not cut is made of all of them. -/
theorem formatTokens_of_whole (hcut : cutAt? style names.length = none)
    (hnames : 2 ≤ names.length) :
    formatTokens tokens names style settings terms =
      .concatAll (wholeParts style terms
        (names.map fun name => Pattern.formatTokens tokens name settings)) := by
  match names, hnames with
  | first :: second :: others, _ =>
    simp only [List.length_cons] at hcut
    simp [formatTokens, shownCount_eq, hcut]

/-- A list of one name is the name. -/
theorem formatTokens_singleton (name : PersonName) :
    formatTokens tokens [name] style settings terms =
      Pattern.formatTokens tokens name settings := by
  have hcut : cutAt? style 1 = none := cutAt?_eq_none (by omega)
  simp [formatTokens, shownCount_eq, hcut]

/-- A list of no names is empty. -/
theorem formatTokens_nil : formatTokens tokens [] style settings terms = .empty := by
  have hcut : cutAt? style 0 = none := cutAt?_eq_none (by omega)
  simp [formatTokens, shownCount_eq, hcut]

/-- A formatted list is plain text or a formatted name, or put together from plain
texts, formatted names and the mark of a cut.  So what these have in common carries over. -/
theorem formatTokens_induction {part whole : Markup → Prop} (hplain : ∀ text, part (.plain text))
    (hmark : part (cutMark terms settings.markup))
    (hname : ∀ name, part (Pattern.formatTokens tokens name settings))
    (hpart : ∀ m, part m → whole m)
    (hconcat : ∀ parts, (∀ m ∈ parts, part m) → whole (.concatAll parts))
    (names : List PersonName) :
    whole (formatTokens tokens names style settings terms) := by
  match names with
  | [] =>
    rw [formatTokens_nil]
    exact hpart _ (hplain "")
  | [name] =>
    rw [formatTokens_singleton]
    exact hpart _ (hname name)
  | first :: second :: others =>
    have htwo : 2 ≤ (first :: second :: others).length := by simp
    generalize first :: second :: others = names at htwo
    have hentries : ∀ entry ∈ names.map (fun name => Pattern.formatTokens tokens name settings),
        part entry := by
      intro entry hentry
      obtain ⟨name, -, rfl⟩ := List.mem_map.1 hentry
      exact hname name
    cases hcut : cutAt? style names.length with
    | some shown =>
      rw [formatTokens_of_cut tokens settings terms hcut]
      exact hconcat _ (forall_mem_cutParts hplain hmark style fun entry hentry =>
        hentries entry (List.mem_of_mem_take hentry))
    | none =>
      rw [formatTokens_of_whole tokens settings terms hcut htwo]
      exact hconcat _ (forall_mem_wholeParts hplain style terms hentries)

/-- What is written for a formatted list is joined from what is written for its
names. -/
theorem render_formatTokens {f : OutputFormat} (h : f.Lawful) (hspace : f.text " " = " ")
    (names : List PersonName) :
    (formatTokens tokens names style settings terms).render f =
      joined f style terms settings.markup
        (names.map fun name => (Pattern.formatTokens tokens name settings).render f) := by
  match names with
  | [] =>
    rw [formatTokens_nil]
    exact (h.text_eq_empty_iff "").2 rfl
  | [name] =>
    rw [formatTokens_singleton]
    rfl
  | first :: second :: others =>
    have htwo : 2 ≤ (first :: second :: others).length := by simp
    generalize first :: second :: others = names at htwo
    rw [joined_of_two_le (by simpa using htwo), List.length_map]
    cases hcut : cutAt? style names.length with
    | some shown =>
      rw [formatTokens_of_cut tokens settings terms hcut, render_cutParts h hspace]
      simp [List.map_take, Function.comp_def]
    | none =>
      have hne : names ≠ [] := List.ne_nil_of_length_pos (by omega)
      rw [formatTokens_of_whole tokens settings terms hcut htwo,
        render_wholeParts h style terms (by simpa using hne)]
      simp [Function.comp_def]

end

/-- **A list is written as its style says.** -/
theorem format_joins (pattern : Pattern) (names : List PersonName) (style : ListStyle)
    (settings : Settings) (terms : Terms) :
    (format pattern names style settings terms).toText =
        joined .plain style terms settings.markup
          (names.map fun name => (Pattern.format pattern name settings).toText) ∧
      (format pattern names style settings terms).toHtml =
        joined .html style terms settings.markup
          (names.map fun name => (Pattern.format pattern name settings).toHtml) ∧
      (∀ name, format pattern [name] style settings terms = Pattern.format pattern name settings) ∧
      shownCount style names.length ≤ names.length := by
  refine ⟨?_, ?_, ?_, shownCount_le style names.length⟩
  · exact render_formatTokens pattern.tokens settings terms OutputFormat.plain_lawful rfl names
  · exact render_formatTokens pattern.tokens settings terms (OutputFormat.htmlWith_lawful false)
      (by decide) names
  · intro name
    exact formatTokens_singleton pattern.tokens settings terms name

-- An entry without text keeps its place, and counts where the rules count.
example : joined .html { delimiterBeforeLast := .contextual } {} .simple ["A", "", "C"] =
    "A, , and C" := by
  decide

end NameList
end PersonalNames
