import PersonalNames.Pattern.Compile
import PersonalNames.Proofs.Configuration.Layers
import PersonalNames.Proofs.Configuration.Storing
import PersonalNames.Proofs.Formatter.Service

/-! # Settings as a store of texts

Settings hold four values with a meaning, one of them a mode, and further texts in a
catalog.  `get?` and `set?` show all of them as one store of texts under keys.  `Sets`
says what a value that is set changes, one case for each place where it may go; it is
refused only if it should be a mode and names none (`set?_eq_none_iff`).

From single attempts to set a value this carries over to runs of them, from default
settings or from any that were read.  Under every key stands the value of the last
success, or what stood there at the start (`get?_after`).  The further settings never go
by a key with a meaning, and their keys stand in the order of their first entry
(`keys_extra_after`), which for settings that were read starts with the order of the
document (`keys_extra_sublist`).
-/
namespace PersonalNames

/-! ## Entries in order -/

namespace Catalog

variable {α : Type}

theorem find?_append (key : String) (entries others : List (String × α)) :
    find? key (entries ++ others) = (find? key entries).or (find? key others) := by
  induction entries with
  | nil => rfl
  | cons entry entries ih =>
    rw [List.cons_append, find?, find?, ih]
    split
    · rfl
    · rfl

theorem keys_ofList (entries : List (String × α)) :
    (ofList entries).keys = (entries.map Prod.fst).eraseDups := by
  have hempty : (empty : Catalog α).keys = [].eraseDups := rfl
  exact keys_foldl_insert hempty entries

/-- The entries that are kept keep their order. -/
theorem keys_filterMap {β : Type} (f : α → Option β) (c : Catalog α) :
    (c.filterMap f).keys.Sublist c.keys := by
  have hsublist (entries : List (String × α)) :
      ((entries.filterMap fun entry => (f entry.2).map (entry.1, ·)).map Prod.fst).Sublist
        (entries.map Prod.fst) := by
    induction entries with
    | nil => exact .slnil
    | cons entry entries ih =>
      cases h : f entry.2 with
      | none => simpa [h] using ih.cons entry.1
      | some value => simpa [h] using ih
  have hdistinct := (hsublist c.entries).nodup c.distinct
  rw [filterMap, keys, entries_ofList hdistinct]
  exact hsublist c.entries

end Catalog

/-- The value of the last of some entries under a key. -/
def lastValue? (key : String) (entries : List (String × String)) : Option String :=
  Catalog.find? key entries.reverse

theorem lastValue?_cons (key : String) (entry : String × String)
    (entries : List (String × String)) :
    lastValue? key (entry :: entries) =
      (lastValue? key entries).or (if entry.1 = key then some entry.2 else none) := by
  rw [lastValue?, List.reverse_cons, Catalog.find?_append]
  rfl

/-! ## Setting one value -/

theorem MarkupMode.id_of_ofId? {s : String} {mode : MarkupMode} (h : ofId? s = some mode) :
    mode.id = s := by
  simpa using List.find?_some h

theorem MarkupMode.ofId?_eq_none_iff {s : String} :
    ofId? s = Option.none ↔ s ∉ ["none", "simple", "html", "raw"] := by
  rw [ofId?, List.find?_eq_none]
  simp [all, MarkupMode.id, @eq_comm _ s]

namespace Settings

/-- What settings become by a value that is set under a key. -/
inductive Sets (s : Settings) : String → String → Settings → Prop
  | sep1 (value : String) : Sets s "sep1" value { s with sep1 := value }
  | sep2 (value : String) : Sets s "sep2" value { s with sep2 := value }
  | sep3 (value : String) : Sets s "sep3" value { s with sep3 := value }
  | markup (mode : MarkupMode) : Sets s "markup" mode.id { s with markup := mode }
  | further {key : String} (h : key ∉ ownKeys) (value : String) :
      Sets s key value { s with extra := s.extra.insert key value }

variable {s t : Settings} {key value : String}

theorem not_mem_ownKeys_iff :
    key ∉ ownKeys ↔ key ≠ "sep1" ∧ key ≠ "sep2" ∧ key ≠ "sep3" ∧ key ≠ "markup" := by
  simp [ownKeys]

/-- **Everything that setting a value can do.** -/
theorem sets_of_set? (h : s.set? key value = some t) : Sets s key value t := by
  unfold set? at h
  split at h
  · next hkey =>
    subst hkey
    cases h
    exact .sep1 value
  split at h
  · next hkey =>
    subst hkey
    cases h
    exact .sep2 value
  split at h
  · next hkey =>
    subst hkey
    cases h
    exact .sep3 value
  split at h
  · next hkey =>
    subst hkey
    obtain ⟨mode, hmode, rfl⟩ := Option.map_eq_some_iff.1 h
    rw [← MarkupMode.id_of_ofId? hmode]
    exact .markup mode
  · next h1 h2 h3 h4 =>
    cases h
    exact .further (not_mem_ownKeys_iff.2 ⟨h1, h2, h3, h4⟩) value

/-- **A value is refused only as a markup**, if it names no mode. -/
theorem set?_eq_none_iff :
    s.set? key value = none ↔ key = "markup" ∧ value ∉ ["none", "simple", "html", "raw"] := by
  by_cases hkey : key = "markup"
  · subst hkey
    simp only [set?, String.reduceEq, if_false, if_true, Option.map_eq_none_iff, true_and]
    exact MarkupMode.ofId?_eq_none_iff
  · unfold set?
    rw [if_neg hkey]
    split
    · simp [hkey]
    split
    · simp [hkey]
    split
    · simp [hkey]
    · simp [hkey]

theorem get?_of_not_mem_ownKeys (h : key ∉ ownKeys) : s.get? key = s.extra.get? key := by
  obtain ⟨h1, h2, h3, h4⟩ := not_mem_ownKeys_iff.1 h
  rw [get?, if_neg h1, if_neg h2, if_neg h3, if_neg h4]

/-- **A value that is set is got under its key**, and under no other. -/
theorem Sets.get?_eq (h : Sets s key value t) (other : String) :
    t.get? other = if key = other then some value else s.get? other := by
  by_cases hother : key = other
  · subst hother
    rw [if_pos rfl]
    cases h with
    | sep1 | sep2 | sep3 | markup => rfl
    | further hkey =>
      rw [get?_of_not_mem_ownKeys hkey]
      exact (Catalog.get?_insert s.extra key key value).trans (if_pos rfl)
  · have hne : other ≠ key := Ne.symm hother
    rw [if_neg hother]
    cases h with
    | sep1 | sep2 | sep3 | markup => simp only [get?, if_neg hne]
    | further hkey =>
      by_cases hown : other ∈ ownKeys
      · simp only [ownKeys, List.mem_cons, List.not_mem_nil, or_false] at hown
        rcases hown with rfl | rfl | rfl | rfl <;> rfl
      · rw [get?_of_not_mem_ownKeys hown, get?_of_not_mem_ownKeys hown]
        exact (Catalog.get?_insert s.extra key other value).trans (if_neg hother)

theorem Sets.extra_eq (h : Sets s key value t) :
    t.extra = if key ∈ ownKeys then s.extra else s.extra.insert key value := by
  cases h with
  | sep1 | sep2 | sep3 | markup => exact (if_pos (by decide)).symm
  | further hkey => exact (if_neg hkey).symm

/-! ## Runs -/

/-- The settings behind an attempt to set a value under a key, which changes nothing where
it fails. -/
def attempt (s : Settings) (entry : String × String) : Settings :=
  (s.set? entry.1 entry.2).getD s

/-- The settings behind attempts, one after the other. -/
def after (s : Settings) (attempts : List (String × String)) : Settings :=
  attempts.foldl attempt s

/-- The attempts that succeed, each in the settings that those before it leave. -/
def successes (s : Settings) : List (String × String) → List (String × String)
  | [] => []
  | entry :: attempts =>
    if (s.set? entry.1 entry.2).isSome then entry :: successes (s.attempt entry) attempts
    else successes (s.attempt entry) attempts

theorem after_cons (s : Settings) (entry : String × String) (attempts : List (String × String)) :
    s.after (entry :: attempts) = (s.attempt entry).after attempts := rfl

theorem attempt_of_success {entry : String × String} (h : s.set? entry.1 entry.2 = some t) :
    s.attempt entry = t := by
  rw [attempt, h, Option.getD_some]

theorem attempt_of_failure {entry : String × String} (h : s.set? entry.1 entry.2 = none) :
    s.attempt entry = s := by
  rw [attempt, h, Option.getD_none]

/-- **Behind a run stands what was set last**, or else what stood there before. -/
theorem get?_after (s : Settings) (attempts : List (String × String)) (key : String) :
    (s.after attempts).get? key = (lastValue? key (s.successes attempts)).or (s.get? key) := by
  induction attempts generalizing s with
  | nil => rfl
  | cons entry attempts ih =>
    rw [after_cons, ih]
    cases h : s.set? entry.1 entry.2 with
    | none => simp [successes, h, attempt_of_failure h]
    | some t =>
      have hsuccesses : s.successes (entry :: attempts) = entry :: t.successes attempts := by
        simp [successes, h, attempt_of_success h]
      rw [attempt_of_success h, hsuccesses, lastValue?_cons, Option.or_assoc,
        (sets_of_set? h).get?_eq]
      split
      · rfl
      · rfl

theorem extra_attempt (s : Settings) (entry : String × String) :
    (s.attempt entry).extra =
      if entry.1 ∈ ownKeys then s.extra else s.extra.insert entry.1 entry.2 := by
  cases h : s.set? entry.1 entry.2 with
  | none =>
    have hown : entry.1 ∈ ownKeys := by
      rw [(set?_eq_none_iff.1 h).1]
      decide
    rw [attempt_of_failure h, if_pos hown]
  | some t => rw [attempt_of_success h, (sets_of_set? h).extra_eq]

theorem extra_after (s : Settings) (attempts : List (String × String)) :
    (s.after attempts).extra =
      (attempts.filter fun entry => entry.1 ∉ ownKeys).foldl
        (fun extra entry => extra.insert entry.1 entry.2) s.extra := by
  induction attempts generalizing s with
  | nil => rfl
  | cons entry attempts ih =>
    rw [after_cons, ih, extra_attempt]
    by_cases h : entry.1 ∈ ownKeys
    · simp [h]
    · simp [h]

/-- **Further keys stand in the order of their first entry**: those from the start, and
behind them those that are set. -/
theorem keys_extra_after (s : Settings) (attempts : List (String × String)) :
    (s.after attempts).extra.keys =
      (s.extra.keys ++
        (attempts.filter fun entry => entry.1 ∉ ownKeys).map Prod.fst).eraseDups := by
  rw [extra_after]
  exact Catalog.keys_foldl_insert (Catalog.eraseDups_of_nodup s.extra.distinct).symm _

theorem KeepsApart.after (h : s.KeepsApart) (attempts : List (String × String)) :
    (s.after attempts).KeepsApart := by
  intro key hkey
  rw [keys_extra_after, List.mem_eraseDups, List.mem_append] at hkey
  rcases hkey with hkey | hkey
  · exact h key hkey
  · obtain ⟨entry, hentry, rfl⟩ := List.mem_map.1 hkey
    simpa using (List.mem_filter.1 hentry).2

/-! ## Settings that were read -/

/-- The further keys among those of a map. -/
def furtherKeys (entries : List (Document × Document)) : List String :=
  (entries.filterMap fun entry => entry.1.text?).filter fun key => key ∉ ownKeys

theorem map_fst_otherFields? {r : Reading} {entries : List (Document × Document)}
    {others : List (String × Document)}
    (h : Document.otherFields? r ownKeys entries = some others) :
    others.map Prod.fst = furtherKeys entries := by
  unfold Document.otherFields? at h
  induction entries generalizing others with
  | nil =>
    cases h
    rfl
  | cons entry entries ih =>
    rw [List.foldrM_cons] at h
    obtain ⟨rest, hrest, hentry⟩ := Option.bind_eq_some_iff.mp h
    obtain ⟨key, htext, hkey⟩ := Option.bind_eq_some_iff.mp hentry
    have hkeys := ih hrest
    split at hkey
    · next hown =>
      cases hkey
      simpa [furtherKeys, htext, List.contains_iff_mem.1 hown] using hkeys
    · next hown =>
      obtain ⟨value, _, hvalue⟩ := Option.bind_eq_some_iff.mp hkey
      cases hvalue
      have hnot : key ∉ ownKeys := by simpa using hown
      simpa [furtherKeys, htext, hnot] using hkeys

/-- **Further settings that were read stand in the order of the document.** -/
theorem keys_extra_sublist {r : Reading} {d : Document} (h : Settings.read? r d = some s) :
    ∃ entries, d.entries? = some entries ∧
      s.extra.keys.Sublist (furtherKeys entries).eraseDups := by
  simp only [Settings.read?, Option.bind_eq_bind, Option.bind_eq_some_iff, Option.pure_def] at h
  obtain ⟨r, _, entries, hentries, record, _, others, hothers, values, hvalues, _, _, _, _, _, _,
    _, _, hsettings⟩ := h
  cases hsettings
  refine ⟨entries, hentries, ?_⟩
  have hkeys : (Catalog.ofList values).keys = (furtherKeys entries).eraseDups := by
    rw [Catalog.keys_ofList, keys_mapM hvalues, map_fst_otherFields? hothers]
  rw [← hkeys]
  exact Catalog.keys_filterMap Json.scalarText? (Catalog.ofList values)

/-- The settings from which a run starts: the default ones, and all that can be read. -/
def IsInitial (s : Settings) : Prop :=
  s = {} ∨ ∃ r d, Settings.read? r d = some s

theorem IsInitial.keepsApart (h : s.IsInitial) : s.KeepsApart := by
  rcases h with rfl | ⟨r, d, hread⟩
  · intro key hkey
    cases hkey
  · exact keepsApart_of_read? hread

/-! ## The store -/

/-- The codes of the separators in patterns, each with the number of the separator and the
key of its setting. -/
def separatorCodes : List (Char × Nat × String) :=
  [('i', 1, "sep1"), ('j', 2, "sep2"), ('k', 3, "sep3")]

theorem separator_of_mem {code : Char} {index : Nat} (s : Settings)
    (h : (code, index, key) ∈ separatorCodes) :
    s.get? key = some (s.separator index) ∧
      Pattern.compile (String.singleton code) =
        .ok ⟨String.singleton code, [.separator index]⟩ := by
  simp only [separatorCodes, List.mem_cons, Prod.mk.injEq, List.not_mem_nil, or_false] at h
  rcases h with ⟨rfl, rfl, rfl⟩ | ⟨rfl, rfl, rfl⟩ | ⟨rfl, rfl, rfl⟩
  · exact ⟨rfl, rfl⟩
  · exact ⟨rfl, rfl⟩
  · exact ⟨rfl, rfl⟩

/-- What is true of settings behind any run of attempts to set values. -/
structure IsStore (initial : Settings) (attempts : List (String × String)) : Prop where
  /-- A further attempt fails exactly if it should set the markup to what is no mode. -/
  fails_iff (key value : String) : (initial.after attempts).set? key value = none ↔
    key = "markup" ∧ value ∉ ["none", "simple", "html", "raw"]
  /-- An attempt that fails changes nothing. -/
  unchanged (key value : String) : (initial.after attempts).set? key value = none →
    initial.after (attempts ++ [(key, value)]) = initial.after attempts
  /-- Under every key stands the value of the last success, or what stood there at the
  start. -/
  get?_eq (key : String) : (initial.after attempts).get? key =
    (lastValue? key (initial.successes attempts)).or (initial.get? key)
  /-- No further setting goes by a key with a meaning. -/
  apart (key : String) : key ∈ (initial.after attempts).extra.keys → key ∉ ownKeys
  /-- The further keys stand in the order of their first entry. -/
  keys_eq : (initial.after attempts).extra.keys = (initial.extra.keys ++
    (attempts.filter fun entry => entry.1 ∉ ownKeys).map Prod.fst).eraseDups
  /-- The separators in patterns are the values under their keys. -/
  separators (code : Char) (index : Nat) (key : String) :
    (code, index, key) ∈ separatorCodes → ∃ text,
      (initial.after attempts).get? key = some text ∧
      Pattern.compile (String.singleton code) =
        .ok ⟨String.singleton code, [.separator index]⟩ ∧
      ∀ format name, Scene.piece ⟨format, name, initial.after attempts⟩ (.separator index) =
        Scene.textPiece ⟨format, name, initial.after attempts⟩ text

theorem IsInitial.isStore {initial : Settings} (h : initial.IsInitial)
    (attempts : List (String × String)) : IsStore initial attempts where
  fails_iff _ _ := set?_eq_none_iff
  unchanged key value hfails := by
    rw [after, List.foldl_append]
    exact attempt_of_failure hfails
  get?_eq := get?_after initial attempts
  apart := h.keepsApart.after attempts
  keys_eq := keys_extra_after initial attempts
  separators code index key hcode := by
    obtain ⟨hget, hcompile⟩ := (initial.after attempts).separator_of_mem hcode
    exact ⟨_, hget, hcompile, fun _ _ => rfl⟩

end Settings

/-! ## Formatters -/

/-- The attempt to set a value that a call makes, if it makes one. -/
def Call.attempt? : Call → Option (String × String)
  | .set key value => some (key, value)
  | _ => none

namespace Formatter

/-- **The settings of a formatter** are those behind the attempts among its calls. -/
theorem settings_after {f : Formatter} (h : f.IsSound) (calls : List Call) :
    (f.after calls).settings = f.settings.after (calls.filterMap Call.attempt?) := by
  induction calls generalizing f with
  | nil => rfl
  | cons call calls ih =>
    obtain ⟨-, hservice, hsound⟩ := call_meets h call
    have hsettings : (f.next call).settings = (f.service.next call).settings :=
      congrArg Service.settings hservice
    have hrest : (f.after (call :: calls)).settings =
        (f.next call).settings.after (calls.filterMap Call.attempt?) := ih hsound
    rw [hrest, hsettings]
    cases call with
    | set key value => rfl
    | format | formatList | compile | setting => rfl

theorem set_eq_error_iff {f : Formatter} {key value : String} {e : Failure} :
    f.set key value = .error e ↔
      e = .setting key value ∧ f.settings.set? key value = none := by
  unfold set
  cases f.settings.set? key value with
  | none => simp [eq_comm]
  | some settings => simp

end Formatter

namespace Settings

/-- **Settings are a store of texts over all runs.**  From default settings, or from any
that were read, each run of attempts to set values keeps what `IsStore` says; and settings
that were read hold their further keys in the order of the document.  The settings of a
formatter are such a store, whatever else is called in between: it shows the last value
set, and refuses only a markup that is no mode. -/
theorem store_over_runs :
    (∀ s : Settings, s.IsInitial → ∀ attempts, IsStore s attempts) ∧
    (∀ (r : Reading) (d : Document) (s : Settings), Settings.read? r d = some s →
      ∃ entries, d.entries? = some entries ∧
        s.extra.keys.Sublist (furtherKeys entries).eraseDups) ∧
    ∀ (c : Configuration) (calls : List Call),
      let f := (Formatter.ofConfiguration c).after calls
      let attempts := calls.filterMap Call.attempt?
      f.settings = c.effectiveSettings.after attempts ∧
      (∀ key, f.setting? key = (lastValue? key (c.effectiveSettings.successes attempts)).or
        (c.effectiveSettings.get? key)) ∧
      ∀ key value e, f.set key value = .error e ↔ e = .setting key value ∧
        key = "markup" ∧ value ∉ ["none", "simple", "html", "raw"] := by
  refine ⟨fun s h => h.isStore, fun r d s h => keys_extra_sublist h, ?_⟩
  intro c calls f attempts
  have hsettings : f.settings = c.effectiveSettings.after attempts :=
    Formatter.settings_after (Formatter.isSound_ofConfiguration c) calls
  refine ⟨hsettings, ?_, ?_⟩
  · intro key
    rw [Formatter.setting?, hsettings, get?_after]
  · intro key value e
    rw [Formatter.set_eq_error_iff, set?_eq_none_iff]

/-- A null among the settings that are read is dropped, and its key enters later, behind
all others.  Modes that do not exist are refused, and the mode set in between stays. -/
theorem store_over_runs_refused :
    let d : Document := .map [(.text "width", .number (.int 3)), (.text "note", .null),
      (.text "sep1", .text "_"), (.text "lang", .text "en")]
    let s : Settings := { sep1 := "_", extra := .ofList [("width", "3"), ("lang", "en")] }
    let attempts : List (String × String) := [("markup", "bold"), ("note", "x"),
      ("markup", "html"), ("width", "4"), ("markup", "Html")]
    Settings.read? .json d = some s ∧ IsStore s attempts ∧
      s.successes attempts = [("note", "x"), ("markup", "html"), ("width", "4")] ∧
      (s.after attempts).get? "markup" = some "html" ∧
      (s.after attempts).set? "markup" "bold" = none ∧
      s.after (attempts ++ [("markup", "bold")]) = s.after attempts ∧
      (s.after attempts).extra.keys = ["width", "lang", "note"] := by
  intro d s attempts
  have hread : Settings.read? .json d = some s := by decide
  have hstore : IsStore s attempts := store_over_runs.1 s (.inr ⟨.json, d, hread⟩) attempts
  have hfails : (s.after attempts).set? "markup" "bold" = none :=
    (hstore.fails_iff "markup" "bold").2 ⟨rfl, by decide⟩
  have hsuccesses : s.successes attempts =
      [("note", "x"), ("markup", "html"), ("width", "4")] := by decide
  refine ⟨hread, hstore, hsuccesses, ?_, hfails, hstore.unchanged "markup" "bold" hfails, ?_⟩
  · rw [hstore.get?_eq, hsuccesses]
    rfl
  · rw [hstore.keys_eq]
    decide

end Settings
end PersonalNames
