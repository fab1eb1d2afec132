import PersonalNames.NameList
import PersonalNames.Proofs.Pattern.Mentions

/-! # Names and their maps

The map of a name has a text for each of the six kinds, the empty one where the component
counts as absent.  So the name that is read from the map has every component, and none as
it was given where that did not count.  `get?` sees no difference (`get?_reread`), and
neither does anything that looks at components through it: the map itself, whether the
name is empty, and formatting, where the map lacks nothing but the link
(`reread_keeps_formatting`).
-/
namespace PersonalNames
namespace PersonName

/-- The map of the components as a JSON object. -/
def mapToJson (n : PersonName) : Json :=
  .object (n.toMap.map fun entry => (entry.1, .text entry.2))

/-- The name that is read from the map of a name. -/
def reread (n : PersonName) : PersonName :=
  ofJson n.mapToJson

/-- The name that is read from the map, with the link in its place again. -/
def normalized (n : PersonName) : PersonName :=
  { n.reread with link := n.link }

theorem part_reread (n : PersonName) (kind : Component) :
    n.reread.part kind = some ((n.get? kind).getD "") := by
  cases kind <;> rfl

/-- **The map keeps every component that counts**, and no other. -/
theorem get?_reread (n : PersonName) (kind : Component) : n.reread.get? kind = n.get? kind := by
  cases h : n.get? kind with
  | none =>
    rw [get?_eq_none_iff, part_reread, h]
    exact .blank (by simp)
  | some value =>
    have husable : isUsable value = true := (Option.filter_eq_some_iff.1 h).2
    rw [get?, part_reread, h]
    exact Option.filter_eq_some_iff.2 ⟨rfl, husable⟩

theorem get?_normalized (n : PersonName) (kind : Component) :
    n.normalized.get? kind = n.get? kind := by
  have hpart : n.normalized.part kind = n.reread.part kind := by
    cases kind <;> rfl
  rw [← n.get?_reread, get?, get?, hpart]

theorem toMap_eq_of_get? {n n' : PersonName} (h : ∀ kind, n.get? kind = n'.get? kind) :
    n.toMap = n'.toMap := by
  simp only [toMap, h]

end PersonName

/-! ## Formatting -/

theorem Pattern.formatTokens_normalized (tokens : List Token) (n : PersonName)
    (settings : Settings) :
    formatTokens tokens n.normalized settings = formatTokens tokens n settings :=
  formatTokens_eq_of_agreeOn (fun kind _ => n.get?_normalized kind)
    (PersonName.isEmpty_eq_of_get? n.get?_normalized) rfl settings

/-- Of its names a formatted list has nothing but how each is formatted. -/
theorem NameList.formatTokens_eq_of_entries {tokens : List Token} {settings : Settings}
    {names names' : List PersonName}
    (h : names.map (Pattern.formatTokens tokens · settings) =
      names'.map (Pattern.formatTokens tokens · settings)) (style : ListStyle) (terms : Terms) :
    formatTokens tokens names style settings terms =
      formatTokens tokens names' style settings terms := by
  have hlength : names.length = names'.length := by
    simpa using congrArg List.length h
  unfold formatTokens
  simp only [List.map_take, h, hlength]

namespace PersonName

/-- **The map of a name loses nothing that formatting uses.**  The name that is read from
it has the same components and the same map, is empty or not like the name, and has no
link; with the link restored, it is formatted as the name is, by itself and in a list. -/
theorem reread_keeps_formatting :
    (∀ n : PersonName, (∀ kind, n.reread.get? kind = n.get? kind) ∧ n.reread.toMap = n.toMap ∧
      n.reread.isEmpty = n.isEmpty ∧ n.reread.link = none) ∧
    (∀ (n : PersonName) (pattern : Pattern) (settings : Settings),
      pattern.format n.normalized settings = pattern.format n settings) ∧
    ∀ (names : List PersonName) (pattern : Pattern) (style : ListStyle) (settings : Settings)
      (terms : Terms), NameList.format pattern (names.map normalized) style settings terms =
        NameList.format pattern names style settings terms := by
  refine ⟨?_, ?_, ?_⟩
  · intro n
    exact ⟨n.get?_reread, toMap_eq_of_get? n.get?_reread, isEmpty_eq_of_get? n.get?_reread, rfl⟩
  · intro n pattern settings
    exact Pattern.formatTokens_normalized pattern.tokens n settings
  · intro names pattern style settings terms
    apply NameList.formatTokens_eq_of_entries
    rw [List.map_map]
    exact List.map_congr_left fun n _ => Pattern.formatTokens_normalized pattern.tokens n settings

-- A blank middle name and the mark of an absent title become empty texts.
example : reread { title := "_none", given := "Ann", middle := " ", link := "https://a.example" } =
    { title := "", given := "Ann", middle := "", family := "", generational := "",
      credentials := "" } := by
  decide

end PersonName
end PersonalNames
