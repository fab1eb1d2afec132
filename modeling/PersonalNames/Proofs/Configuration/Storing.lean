import PersonalNames.Configuration.Written
import PersonalNames.Proofs.Document.Records

/-! # Storing configurations

A configuration is written as a JSON value and read from a document.  What is written
is read back as it was, the order of formats and of further settings included
(`read?_toJson`).

The one condition is that no further setting goes by the key of a setting with a
meaning: beside that one it would be an entry too many.  Reading never gives such
settings (`keepsApart_of_read?`), so every configuration that comes from a document
can be stored (`stored_as_read`).
-/
namespace PersonalNames

open Document (present named)

/-! ## Records of texts and choices -/

theorem MarkupMode.read?_id (r : Reading) (mode : MarkupMode) :
    MarkupMode.read? r (.text mode.id) = some mode := by
  cases mode <;> rfl

theorem Conjunction.read?_id (r : Reading) (c : Conjunction) :
    Conjunction.read? r (.text c.id) = some c := by
  cases c <;> rfl

theorem DelimiterRule.read?_id (r : Reading) (rule : DelimiterRule) :
    DelimiterRule.read? r (.text rule.id) = some rule := by
  cases rule <;> rfl

/-- The fields of a named pattern as they are written. -/
def NameFormat.written (f : NameFormat) : List (String × Option Document) :=
  [("label", f.label.map .text), ("pattern", some (.text f.pattern))]

theorem NameFormat.read?_toJson (f : NameFormat) (room : Nat) :
    NameFormat.read? ⟨.json, room + 1⟩ f.toJson.toDocument = some f := by
  obtain ⟨label, pattern⟩ := f
  have hdocument : (NameFormat.toJson ⟨label, pattern⟩).toDocument =
      .map (present (NameFormat.written ⟨label, pattern⟩)) := by
    cases label <;> rfl
  have hrecord : Document.record? ⟨.json, room + 1⟩ (NameFormat.keys.map ([·]))
      (.map (present (NameFormat.written ⟨label, pattern⟩))) =
        some ⟨false, [label.map .text, some (.text pattern)]⟩ :=
    Document.record?_present (NameFormat.written ⟨label, pattern⟩) (by simp [NameFormat.written]) _
  rw [hdocument, NameFormat.read?, hrecord]
  cases label <;> rfl

/-- The fields of terms as they are written. -/
def Terms.written (t : Terms) : List (String × Option Document) :=
  [("and", t.and.map .text), ("and-symbol", t.andSymbol.map .text), ("et-al", t.etAl.map .text)]

theorem Terms.read?_toJson (t : Terms) (room : Nat) :
    Terms.read? ⟨.json, room + 1⟩ t.toJson.toDocument = some t := by
  obtain ⟨and, andSymbol, etAl⟩ := t
  have hdocument : (Terms.toJson ⟨and, andSymbol, etAl⟩).toDocument =
      .map (present (Terms.written ⟨and, andSymbol, etAl⟩)) := by
    cases and <;> cases andSymbol <;> cases etAl <;> rfl
  have hrecord : Document.record? ⟨.json, room + 1⟩ (Terms.keys.map ([·]))
      (.map (present (Terms.written ⟨and, andSymbol, etAl⟩))) =
        some ⟨false, [and.map .text, andSymbol.map .text, etAl.map .text]⟩ :=
    Document.record?_present (Terms.written ⟨and, andSymbol, etAl⟩) (by simp [Terms.written]) _
  rw [hdocument, Terms.read?, hrecord]
  cases and <;> cases andSymbol <;> cases etAl <;> rfl

/-! ## List formats -/

theorem Cut.read?_toJson (c : Cut) : Cut.read? .settled c.toJson.toDocument = some c := by
  obtain ⟨least, shown⟩ := c
  have hrecord : Document.record? .settled [["min"], ["use-first"]]
      (Cut.toJson ⟨least, shown⟩).toDocument =
        some ⟨false, [some (.number (.int least)), some (.number (.int shown))]⟩ :=
    Document.record?_present [("min", some (.number (.int least))),
      ("use-first", some (.number (.int shown)))] (by simp) _
  rw [Cut.read?, hrecord]
  rfl

/-- The fields of a list style as they are written. -/
def ListStyle.written (s : ListStyle) : List (String × Option Document) :=
  [("delimiter", some (.text s.delimiter)), ("and", some (.text s.conjunction.id)),
    ("delimiter-precedes-last", some (.text s.delimiterBeforeLast.id)),
    ("et-al", s.cut.map fun cut => cut.toJson.toDocument),
    ("delimiter-precedes-et-al", some (.text s.delimiterBeforeCut.id))]

theorem ListStyle.read?_toJson (s : ListStyle) :
    ListStyle.read? .settled s.toJson.toDocument = some s := by
  have hdocument : s.toJson.toDocument = .map (present s.written) := by
    obtain ⟨_, _, _, cut, _⟩ := s
    cases cut <;> rfl
  have hrecord : Document.record? .settled (ListStyle.keys.map ([·])) s.toJson.toDocument =
      some ⟨false, s.written.map Prod.snd⟩ := by
    rw [hdocument]
    exact Document.record?_present s.written (by simp [ListStyle.written]) _
  have hcut : Document.Record.withDefault? ⟨false, s.written.map Prod.snd⟩ 3 none
      (Document.optional? (Cut.read? .settled)) = some s.cut := by
    obtain ⟨_, _, _, cut, _⟩ := s
    cases cut with
    | none => rfl
    | some cut => exact congrArg (Option.map some) cut.read?_toJson
  rw [ListStyle.read?]
  show (Document.record? .settled (ListStyle.keys.map ([·])) _).bind _ = _
  rw [hrecord, Option.bind_some, ListStyle.ofRecord?, hcut]
  simp [ListStyle.written, Document.Record.withDefault?, Document.Record.value?,
    Document.text?, Conjunction.read?_id, DelimiterRule.read?_id]

/-- The values of a list style have their types already. -/
theorem ListStyle.settle?_entries {s : ListStyle} {room : Nat} {entry : String × Json}
    (h : entry ∈ s.entries) :
    entry.2.toDocument.settle? (room + 1) = some entry.2.toDocument := by
  obtain ⟨_, _, _, cut, _⟩ := s
  cases cut with
  | none =>
    simp only [ListStyle.entries, List.append_nil, List.cons_append, List.nil_append,
      List.mem_cons, List.not_mem_nil, or_false] at h
    rcases h with rfl | rfl | rfl | rfl <;> rfl
  | some cut =>
    simp only [ListStyle.entries, List.cons_append, List.nil_append,
      List.mem_cons, List.not_mem_nil, or_false] at h
    rcases h with rfl | rfl | rfl | rfl | rfl <;> rfl

theorem ListStyle.label_not_mem_keys (s : ListStyle) : "label" ∉ s.entries.map Prod.fst := by
  obtain ⟨_, _, _, cut, _⟩ := s
  cases cut <;> simp [ListStyle.entries]

/-- A list format is read from its label and from the style in the further entries. -/
theorem ListFormat.read?_map {entries : List (Document × Document)}
    {others : List (String × Document)} {label : Option String} {style : ListStyle} {room : Nat}
    (hlabel : Document.ownFields? ["label"] entries = some ⟨false, [label.map .text]⟩)
    (hothers : Document.otherFields? ⟨.json, room⟩ ["label"] entries = some others)
    (hstyle : ListStyle.read? .settled (.map (named others)) = some style) :
    ListFormat.read? ⟨.json, room + 1⟩ (.map entries) = some ⟨label, style⟩ := by
  have hfield : Document.Record.withDefault? ⟨false, [label.map .text]⟩ 0 none
      (Document.optional? Document.text?) = some label := by
    cases label <;> rfl
  rw [named] at hstyle
  simp only [ListFormat.read?, Reading.enter?, Document.entries?, Option.bind_eq_bind,
    Option.bind_some, hlabel, hothers, hfield, hstyle, Option.pure_def]

theorem ListFormat.read?_toJson (f : ListFormat) (room : Nat) :
    ListFormat.read? ⟨.json, room + 2⟩ f.toJson.toDocument = some f := by
  let others := f.style.entries.map fun entry => (entry.1, entry.2.toDocument)
  have hdocument : f.toJson.toDocument =
      .map (present [("label", f.label.map .text)] ++ named others) := by
    rw [ListFormat.toJson, Json.toDocument, Json.entriesToDocuments_append,
      Json.entriesToDocuments_textEntry, Json.entriesToDocuments_eq_named]
  have hkeys : ∀ other ∈ others, other.1 ∉ ["label"] := by
    intro other hother hlabel
    obtain ⟨entry, hentry, rfl⟩ := List.mem_map.mp hother
    rw [List.mem_singleton] at hlabel
    exact f.style.label_not_mem_keys (hlabel ▸ List.mem_map_of_mem hentry)
  have htyped : ∀ other ∈ others, other.2.settle? (room + 1) = some other.2 := by
    intro other hother
    obtain ⟨entry, hentry, rfl⟩ := List.mem_map.mp hother
    exact ListStyle.settle?_entries hentry
  rw [hdocument]
  apply ListFormat.read?_map
  · exact Document.ownFields?_append [("label", f.label.map .text)] (by simp) hkeys
  · exact Document.otherFields?_append [("label", f.label.map .text)] (by simp) hkeys htyped
  · -- The style is read from what is left of the map, as if it were written alone.
    rw [← Json.entriesToDocuments_eq_named]
    exact f.style.read?_toJson

/-! ## Settings -/

namespace Settings

/-- No further setting goes by the key of a setting with a meaning. -/
def KeepsApart (s : Settings) : Prop :=
  ∀ key ∈ s.extra.keys, key ∉ ownKeys

/-- The further settings are texts, all of which are kept. -/
theorem extra_texts (extra : Catalog String) :
    (Catalog.ofList (extra.entries.map fun entry => (entry.1, Json.text entry.2))).filterMap
      Json.scalarText? = extra := by
  have hdistinct : ((extra.entries.map fun entry => (entry.1, Json.text entry.2)).map
      Prod.fst).Nodup := by
    rw [List.map_map]
    exact extra.distinct
  have htexts : (extra.entries.map fun entry => (entry.1, Json.text entry.2)).filterMap
      (fun entry => entry.2.scalarText?.map (entry.1, ·)) = extra.entries := by
    rw [List.filterMap_map]
    exact List.filterMap_some
  rw [Catalog.filterMap, Catalog.entries_ofList hdistinct, htexts, Catalog.ofList_entries]

/-- Settings are read from those with a meaning and from the texts under other keys. -/
theorem read?_map {entries : List (Document × Document)} {s : Settings} {room : Nat}
    (hown : Document.ownFields? ownKeys entries =
      some ⟨false, [some (.text s.sep1), some (.text s.sep2), some (.text s.sep3),
        some (.text s.markup.id)]⟩)
    (hothers : Document.otherFields? ⟨.json, room⟩ ownKeys entries =
      some (s.extra.entries.map fun entry => (entry.1, .text entry.2))) :
    Settings.read? ⟨.json, room + 1⟩ (.map entries) = some s := by
  have hvalues : (s.extra.entries.map fun entry => (entry.1, Document.text entry.2)).mapM
      (fun entry => (entry.2.toJson? room).bind fun value => some (entry.1, value)) =
        some (s.extra.entries.map fun entry => (entry.1, Json.text entry.2)) := by
    rw [List.mapM_map]
    exact List.mapM_pure
  simp only [Settings.read?, Reading.enter?, Document.entries?, Option.bind_eq_bind,
    Option.bind_some, hown, hothers, hvalues, Option.pure_def, extra_texts]
  show (MarkupMode.read? ⟨.json, room⟩ (.text s.markup.id)).bind
    (fun markup => some { s with markup }) = some s
  rw [MarkupMode.read?_id, Option.bind_some]

/-- The settings with a meaning as they are written. -/
def written (s : Settings) : List (String × Option Document) :=
  [("sep1", some (.text s.sep1)), ("sep2", some (.text s.sep2)), ("sep3", some (.text s.sep3)),
    ("markup", some (.text s.markup.id))]

theorem read?_toJson {s : Settings} (h : s.KeepsApart) (room : Nat) :
    Settings.read? ⟨.json, room + 1⟩ s.toJson.toDocument = some s := by
  let others := s.extra.entries.map fun entry => (entry.1, Document.text entry.2)
  have hdocument : s.toJson.toDocument = .map (present s.written ++ named others) := by
    rw [toJson, Json.toDocument, Json.entriesToDocuments_append, Json.entriesToDocuments_eq_named
      (s.extra.entries.map _), List.map_map]
    rfl
  have hkeys : ∀ other ∈ others, other.1 ∉ ownKeys := by
    intro other hother
    obtain ⟨entry, hentry, rfl⟩ := List.mem_map.mp hother
    exact h entry.1 (List.mem_map_of_mem hentry)
  rw [hdocument]
  apply read?_map
  · exact Document.ownFields?_append s.written (by simp [written]) hkeys
  · apply Document.otherFields?_append s.written (by simp [written, ownKeys]) hkeys
    intro other hother
    obtain ⟨entry, _, rfl⟩ := List.mem_map.mp hother
    rfl

/-- Reading the values of entries leaves their keys. -/
theorem keys_mapM {read : Document → Option Json} {others : List (String × Document)}
    {values : List (String × Json)}
    (h : others.mapM (fun other => (read other.2).bind fun value => some (other.1, value)) =
      some values) : values.map Prod.fst = others.map Prod.fst := by
  induction others generalizing values with
  | nil =>
    cases h
    rfl
  | cons other others ih =>
    simp only [List.mapM_cons, Option.bind_eq_bind, Option.bind_eq_some_iff, Option.pure_def]
      at h
    obtain ⟨_, ⟨_, _, hpair⟩, rest, hrest, hvalues⟩ := h
    cases hpair
    cases hvalues
    rw [List.map_cons, List.map_cons, ih hrest]

/-- Settings that were read keep the further ones apart. -/
theorem keepsApart_of_read? {r : Reading} {d : Document} {s : Settings}
    (h : Settings.read? r d = some s) : s.KeepsApart := by
  simp only [Settings.read?, Option.bind_eq_bind, Option.bind_eq_some_iff, Option.pure_def] at h
  obtain ⟨r, _, entries, _, record, _, others, hothers, values, hvalues, _, _, _, _, _, _, _, _,
    hsettings⟩ := h
  cases hsettings
  -- The key of a further setting is followed back to an entry of the document.
  intro key hkey
  obtain ⟨⟨_, text⟩, htext, rfl⟩ := List.mem_map.mp (Catalog.mem_keys_ofList hkey)
  obtain ⟨entry, hentry, hpair⟩ := List.mem_filterMap.mp htext
  obtain ⟨_, _, hpair⟩ := Option.map_eq_some_iff.mp hpair
  cases hpair
  have hvalue : entry.1 ∈ values.map Prod.fst :=
    Catalog.mem_keys_ofList (List.mem_map_of_mem hentry)
  rw [keys_mapM hvalues] at hvalue
  obtain ⟨other, hother, hkey⟩ := List.mem_map.mp hvalue
  exact hkey ▸ Document.not_mem_of_otherFields? hothers other hother

end Settings

/-! ## Configurations -/

namespace Configuration

/-- Named formats are read as they were if each of them is. -/
theorem readFormats?_formatsToJson {α : Type} {toJson : α → Json}
    {read? : Reading → Document → Option α} {room : Nat}
    (h : ∀ format, read? ⟨.json, room⟩ (toJson format).toDocument = some format)
    (formats : Catalog α) :
    readFormats? ⟨.json, room + 1⟩ read? (formatsToJson toJson formats).toDocument =
      some formats := by
  have hentries : formats.entries.mapM (fun entry => some (entry.1, entry.2)) =
      some formats.entries :=
    List.mapM_pure.trans (by simp)
  simp only [readFormats?, formatsToJson, Json.toDocument, Json.entriesToDocuments_eq_named, named,
    List.map_map, List.mapM_map, Function.comp_def, Reading.enter?, Document.entries?,
    Document.text?, h, hentries, Option.bind_eq_bind, Option.bind_some, Option.pure_def,
    Catalog.ofList_entries]

/-- No further setting goes by the key of a setting with a meaning. -/
def KeepsApart (c : Configuration) : Prop :=
  ∀ settings, c.settings = some settings → settings.KeepsApart

/-- The fields of a configuration as they are written. -/
def written (c : Configuration) : List (String × Option Document) :=
  [("name-formats", if c.nameFormats.isEmpty then none
      else some (formatsToJson NameFormat.toJson c.nameFormats).toDocument),
    ("list-formats", if c.listFormats.isEmpty then none
      else some (formatsToJson ListFormat.toJson c.listFormats).toDocument),
    ("settings", c.settings.map fun settings => settings.toJson.toDocument),
    ("terms", some c.terms.toJson.toDocument)]

theorem toDocument_toJson (c : Configuration) :
    c.toJson.toDocument = .map (present c.written) := by
  obtain ⟨nameFormats, listFormats, settings, terms⟩ := c
  rw [toJson, written, Json.toDocument]
  congr 1
  cases settings <;> split <;> split <;> rfl

/-- Formats that are left out where there are none are read as they were. -/
theorem readFormats?_written {α : Type} {toJson : α → Json}
    {read? : Reading → Document → Option α} {room : Nat}
    (h : ∀ format, read? ⟨.json, room⟩ (toJson format).toDocument = some format)
    (formats : Catalog α) {record : Document.Record} {index : Nat}
    (hvalue : record.value? index = if formats.isEmpty then none
      else some (formatsToJson toJson formats).toDocument) :
    record.withDefault? index .empty (readFormats? ⟨.json, room + 1⟩ read?) = some formats := by
  rw [Document.Record.withDefault?, hvalue]
  by_cases hempty : formats.isEmpty = true
  · have hentries : formats.entries = [] := List.isEmpty_iff.mp hempty
    rw [if_pos hempty]
    exact congrArg some (Catalog.eq_of_entries hentries.symm)
  · rw [if_neg hempty]
    exact readFormats?_formatsToJson h formats

theorem read?_toJson {c : Configuration} (h : c.KeepsApart) :
    Configuration.read? .json c.toJson.toDocument = some c := by
  have hrecord : Document.record? ⟨.json, 126⟩ (fields.map fun field => [field.1])
      c.toJson.toDocument = some ⟨false, c.written.map Prod.snd⟩ := by
    rw [toDocument_toJson]
    exact Document.record?_present c.written (by simp [written]) _
  have hnames : Document.Record.withDefault? ⟨false, c.written.map Prod.snd⟩ 0 .empty
      (readFormats? ⟨.json, 126⟩ NameFormat.read?) = some c.nameFormats :=
    readFormats?_written (NameFormat.read?_toJson · 124) c.nameFormats rfl
  have hlists : Document.Record.withDefault? ⟨false, c.written.map Prod.snd⟩ 1 .empty
      (readFormats? ⟨.json, 126⟩ ListFormat.read?) = some c.listFormats :=
    readFormats?_written (ListFormat.read?_toJson · 123) c.listFormats rfl
  have hsettings : Document.Record.withDefault? ⟨false, c.written.map Prod.snd⟩ 2 none
      (Document.optional? (Settings.read? ⟨.json, 126⟩)) = some c.settings := by
    obtain ⟨_, _, settings, _⟩ := c
    cases settings with
    | none => rfl
    | some settings => exact congrArg (Option.map some) (Settings.read?_toJson (h settings rfl) 125)
  have hterms : Document.Record.withDefault? ⟨false, c.written.map Prod.snd⟩ 3 {}
      (Terms.read? ⟨.json, 126⟩) = some c.terms :=
    Terms.read?_toJson c.terms 125
  simp only [Configuration.read?, Reading.json, Reading.enter?, Option.bind_eq_bind,
    Option.bind_some, hrecord, hnames, hlists, hsettings, hterms, Option.pure_def]

/-- A configuration that was read keeps the further settings apart. -/
theorem keepsApart_of_read? {r : Reading} {d : Document} {c : Configuration}
    (h : Configuration.read? r d = some c) : c.KeepsApart := by
  simp only [Configuration.read?, Option.bind_eq_bind, Option.bind_eq_some_iff,
    Option.pure_def] at h
  obtain ⟨r, _, record, _, _, _, _, _, settings, hsettings, _, _, hconfiguration⟩ := h
  cases hconfiguration
  rintro settings rfl
  rw [Document.Record.withDefault?] at hsettings
  split at hsettings
  · exact Settings.keepsApart_of_read? (Document.eq_some_of_optional? hsettings)
  · cases hsettings

/-- **A configuration can be stored exactly if its further settings keep apart.**  What
is then written as JSON is read as the same configuration, with name formats, list
formats and further settings in the same order.  All configurations that come from a
document can be stored. -/
theorem stored_as_read :
    (∀ c : Configuration, Configuration.read? .json c.toJson.toDocument = some c ↔ c.KeepsApart) ∧
    ∀ (r : Reading) (d : Document) (c : Configuration), Configuration.read? r d = some c →
      c.KeepsApart ∧ Configuration.read? .json c.toJson.toDocument = some c :=
  ⟨fun _ => ⟨keepsApart_of_read?, read?_toJson⟩,
    fun _ _ _ h => ⟨keepsApart_of_read? h, read?_toJson (keepsApart_of_read? h)⟩⟩

/-- A number among the settings is kept as a text and stored as such, and a cut of a
list stays as it is. -/
theorem stored_as_read_settings_and_cut :
    let d : Document := .map
      [(.text "settings", .map [(.text "width", .number (.int 3)), (.text "sep1", .text "_")]),
        (.text "list-formats", .map [(.text "short", .map [(.text "label", .text "Short"),
          (.text "et-al", .map [(.text "use-first", .number (.int 1)),
            (.text "min", .number (.int 4))])])])]
    let c : Configuration := {
      listFormats := .ofList [("short", ⟨some "Short", { cut := some ⟨4, 1⟩ }⟩)]
      settings := some { sep1 := "_", extra := .ofList [("width", "3")] } }
    Configuration.read? .json d = some c ∧ c.KeepsApart ∧
      Configuration.read? .json c.toJson.toDocument = some c := by
  intro d c
  have hread : Configuration.read? .json d = some c := by decide
  exact ⟨hread, stored_as_read.2 .json d c hread⟩

end Configuration
end PersonalNames
