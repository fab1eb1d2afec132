import PersonalNames.Configuration.Basic

/-! # Looking up in layers of configurations

Configurations are laid over each other one by one, and formats, settings and terms
each by a rule of their own.  Whatever a layer may set or leave open, the layers
together set as the last one does that sets it (`stack_eq_lastSet?`): the format of
an identifier, the settings as a whole, each term.  The format `default` comes in
only behind all layers, so an identifier of an early layer goes before a default of
a later one (`lookUp_in_layers`). -/
namespace PersonalNames

/-! ## Catalogs laid over each other -/

namespace Catalog

variable {α : Type}

/-- The values of an upper catalog go before those of a lower one. -/
theorem get?_overlay (c upper : Catalog α) (key : String) :
    (c.overlay upper).get? key = (upper.get? key).or (c.get? key) := by
  obtain ⟨entries, hdistinct⟩ := upper
  unfold overlay
  show get? (entries.foldl _ c) key = (find? key entries).or (c.get? key)
  induction entries generalizing c with
  | nil => rfl
  | cons entry entries ih =>
    obtain ⟨hentry, hentries⟩ := List.nodup_cons.1 hdistinct
    rw [List.foldl_cons, ih _ hentries, get?_insert, find?]
    by_cases hkey : entry.1 = key
    · rw [if_pos hkey, if_pos hkey, find?_eq_none_iff.2 (hkey ▸ hentry)]
      rfl
    · rw [if_neg hkey, if_neg hkey]

theorem eraseDups_of_nodup {keys : List String} (h : keys.Nodup) : keys.eraseDups = keys := by
  induction keys with
  | nil => rfl
  | cons key keys ih =>
    obtain ⟨hkey, hkeys⟩ := List.nodup_cons.1 h
    have hfilter : keys.filter (fun other => !other == key) = keys := by
      rw [List.filter_eq_self]
      intro other hother
      have hne : other ≠ key := fun heq => hkey (heq ▸ hother)
      simpa using hne
    rw [List.eraseDups_cons, hfilter, ih hkeys]

/-- One more key stands at the end, if it was not there before. -/
theorem eraseDups_concat (keys : List String) (key : String) :
    (keys ++ [key]).eraseDups =
      if key ∈ keys.eraseDups then keys.eraseDups else keys.eraseDups ++ [key] := by
  rw [List.eraseDups_append, List.cons_removeAll, List.nil_removeAll]
  by_cases hkey : key ∈ keys
  · simp [hkey]
  · simp [hkey, List.eraseDups_cons]

/-- **Keys stand in the order of their first entry.**  If those of a catalog do so
among some keys, then those of values entered later come in behind them. -/
theorem keys_foldl_insert {c : Catalog α} {keys : List String} (h : c.keys = keys.eraseDups)
    (entries : List (String × α)) :
    (entries.foldl (fun c entry => c.insert entry.1 entry.2) c).keys =
      (keys ++ entries.map Prod.fst).eraseDups := by
  induction entries generalizing c keys with
  | nil => simpa using h
  | cons entry entries ih =>
    have hinsert : (c.insert entry.1 entry.2).keys = (keys ++ [entry.1]).eraseDups := by
      rw [keys_insert, eraseDups_concat, h]
    rw [List.foldl_cons, ih hinsert, List.map_cons, List.append_assoc, List.singleton_append]

theorem keys_overlay {c : Catalog α} {keys : List String} (h : c.keys = keys.eraseDups)
    (upper : Catalog α) : (c.overlay upper).keys = (keys ++ upper.keys).eraseDups :=
  keys_foldl_insert h upper.entries

end Catalog

/-! ## The last layer that sets something -/

namespace Configuration

variable {α : Type}

/-- Layers laid over each other from the first one on. -/
def stack (first : Configuration) (others : List Configuration) : Configuration :=
  others.foldl overlay first

/-- What the last of some layers sets that sets it. -/
def lastSet? (f : Configuration → Option α) (layers : List Configuration) : Option α :=
  layers.reverse.findSome? f

theorem lastSet?_cons (f : Configuration → Option α) (first : Configuration)
    (others : List Configuration) :
    lastSet? f (first :: others) = (lastSet? f others).or (f first) := by
  simp [lastSet?, List.findSome?_append]

/-- Nothing is set exactly if no layer sets it. -/
theorem lastSet?_eq_none_iff (f : Configuration → Option α) (layers : List Configuration) :
    lastSet? f layers = none ↔ ∀ layer ∈ layers, f layer = none := by
  simp [lastSet?]

/-- **Layers set what the last one sets that sets it**, wherever an upper layer goes
before a lower one. -/
theorem stack_eq_lastSet? (f : Configuration → Option α)
    (h : ∀ lower upper, f (lower.overlay upper) = (f upper).or (f lower)) (first : Configuration)
    (others : List Configuration) : f (stack first others) = lastSet? f (first :: others) := by
  unfold stack
  induction others generalizing first with
  | nil => simp [lastSet?]
  | cons next others ih =>
    rw [List.foldl_cons, ih, lastSet?_cons, lastSet?_cons, lastSet?_cons, h, Option.or_assoc]

/-- The format of an identifier in layers: that of the last layer that has the
identifier, or else of the last layer that has a default. -/
def lookUp (kind : FormatKind) (formats : Configuration → Catalog α)
    (layers : List Configuration) (id : String) : Except MissingFormat (String × α) :=
  match lastSet? (fun layer => (formats layer).get? id) layers with
  | some format => .ok (id, format)
  | none =>
    match lastSet? (fun layer => (formats layer).get? defaultId) layers with
    | some format => .ok (defaultId, format)
    | none => .error ⟨kind, id⟩

/-- Nothing is found exactly if no layer has the identifier or a default. -/
theorem lookUp_eq_error_iff (kind : FormatKind) (formats : Configuration → Catalog α)
    (layers : List Configuration) (id : String) (missing : MissingFormat) :
    lookUp kind formats layers id = .error missing ↔ missing = ⟨kind, id⟩ ∧
      ∀ layer ∈ layers, (formats layer).get? id = none ∧ (formats layer).get? defaultId = none := by
  have hnone : (∀ layer ∈ layers,
      (formats layer).get? id = none ∧ (formats layer).get? defaultId = none) ↔
        lastSet? (fun layer => (formats layer).get? id) layers = none ∧
          lastSet? (fun layer => (formats layer).get? defaultId) layers = none := by
    rw [lastSet?_eq_none_iff, lastSet?_eq_none_iff]
    constructor
    · intro h
      exact ⟨fun layer hlayer => (h layer hlayer).1, fun layer hlayer => (h layer hlayer).2⟩
    · rintro ⟨hid, hdefault⟩ layer hlayer
      exact ⟨hid layer hlayer, hdefault layer hlayer⟩
  rw [hnone]
  unfold lookUp
  cases lastSet? (fun layer => (formats layer).get? id) layers with
  | some format => simp
  | none =>
    cases lastSet? (fun layer => (formats layer).get? defaultId) layers with
    | some format => simp
    | none => simp [eq_comm]

section
variable {formats : Configuration → Catalog α}
  (h : ∀ lower upper, formats (lower.overlay upper) = (formats lower).overlay (formats upper))
include h

theorem get?_stack (first : Configuration) (others : List Configuration) (id : String) :
    (formats (stack first others)).get? id =
      lastSet? (fun layer => (formats layer).get? id) (first :: others) := by
  apply stack_eq_lastSet? fun layer => (formats layer).get? id
  intro lower upper
  rw [h, Catalog.get?_overlay]

theorem resolve_stack (kind : FormatKind) (first : Configuration) (others : List Configuration)
    (id : String) :
    resolve kind (formats (stack first others)) id = lookUp kind formats (first :: others) id := by
  unfold resolve
  rw [get?_stack h, get?_stack h]
  rfl

theorem keys_stack (first : Configuration) (others : List Configuration) :
    (formats (stack first others)).keys =
      ((first :: others).flatMap fun layer => (formats layer).keys).eraseDups := by
  have hfrom (keys : List String) (hkeys : (formats first).keys = keys.eraseDups) :
      (formats (stack first others)).keys =
        (keys ++ others.flatMap fun layer => (formats layer).keys).eraseDups := by
    unfold stack
    induction others generalizing first keys with
    | nil => simpa using hkeys
    | cons next others ih =>
      have hnext : (formats (first.overlay next)).keys =
          (keys ++ (formats next).keys).eraseDups := by
        rw [h, Catalog.keys_overlay hkeys]
      rw [List.foldl_cons, ih _ _ hnext, List.flatMap_cons, List.append_assoc]
  exact hfrom _ (Catalog.eraseDups_of_nodup (formats first).distinct).symm

end

/-- **Looking up in layers.**  A format is that of the last layer that has its
identifier, or else a default, of which again the last layer's counts; none is
missing unless all layers lack both.  The settings are those of one layer as a whole,
each term is looked up for itself, and identifiers stand in the order in which the
layers name them first. -/
theorem lookUp_in_layers (first : Configuration) (others : List Configuration) :
    (∀ id, (stack first others).resolveName id = lookUp .name nameFormats (first :: others) id) ∧
    (∀ id, (stack first others).resolveList id = lookUp .list listFormats (first :: others) id) ∧
    (∀ id missing, (stack first others).resolveName id = .error missing ↔
      missing = ⟨.name, id⟩ ∧ ∀ layer ∈ first :: others,
        layer.nameFormats.get? id = none ∧ layer.nameFormats.get? defaultId = none) ∧
    (∀ id missing, (stack first others).resolveList id = .error missing ↔
      missing = ⟨.list, id⟩ ∧ ∀ layer ∈ first :: others,
        layer.listFormats.get? id = none ∧ layer.listFormats.get? defaultId = none) ∧
    (stack first others).effectiveSettings = (lastSet? settings (first :: others)).getD {} ∧
    (stack first others).terms =
      { and := lastSet? (fun layer => layer.terms.and) (first :: others)
        andSymbol := lastSet? (fun layer => layer.terms.andSymbol) (first :: others)
        etAl := lastSet? (fun layer => layer.terms.etAl) (first :: others) } ∧
    (stack first others).nameFormats.keys =
      ((first :: others).flatMap fun layer => layer.nameFormats.keys).eraseDups ∧
    (stack first others).listFormats.keys =
      ((first :: others).flatMap fun layer => layer.listFormats.keys).eraseDups := by
  have hnames (lower upper : Configuration) : (lower.overlay upper).nameFormats =
      lower.nameFormats.overlay upper.nameFormats := rfl
  have hlists (lower upper : Configuration) : (lower.overlay upper).listFormats =
      lower.listFormats.overlay upper.listFormats := rfl
  have hresolveName (id : String) : (stack first others).resolveName id =
      lookUp .name nameFormats (first :: others) id := resolve_stack hnames .name first others id
  have hresolveList (id : String) : (stack first others).resolveList id =
      lookUp .list listFormats (first :: others) id := resolve_stack hlists .list first others id
  refine ⟨hresolveName, hresolveList, ?_, ?_, ?_, ?_, keys_stack hnames first others,
    keys_stack hlists first others⟩
  · intro id missing
    rw [hresolveName, lookUp_eq_error_iff]
  · intro id missing
    rw [hresolveList, lookUp_eq_error_iff]
  · unfold effectiveSettings
    rw [stack_eq_lastSet? settings fun _ _ => rfl]
  · rw [← stack_eq_lastSet? (fun layer => layer.terms.and) fun _ _ => rfl,
      ← stack_eq_lastSet? (fun layer => layer.terms.andSymbol) fun _ _ => rfl,
      ← stack_eq_lastSet? (fun layer => layer.terms.etAl) fun _ _ => rfl]

-- An identifier of a lower layer goes before the default of an upper one.
example : (stack { nameFormats := .ofList [("given", { pattern := "g" })] }
    [{ nameFormats := .ofList [("default", { pattern := "f" })] }]).resolveName "given" =
      .ok ("given", { pattern := "g" }) := by
  rfl

end Configuration
end PersonalNames
