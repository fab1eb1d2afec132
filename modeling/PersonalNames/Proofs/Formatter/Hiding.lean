import Mathlib.Data.List.Forall2
import PersonalNames.Proofs.Formatter.Service
import PersonalNames.Proofs.NameList.Joining

/-! # What a cut list hides

A list that is cut shows its first names and a mark that stands for all others.
Lists that are cut and show the same names may hide whatever names they like, and as
many as they like (`Cut.Alike`).

`formatList_hides_others` says that no formatter tells such lists apart: it gives them
the same markup or the same failure, and the formatter behind the call is the same, so
that no later call tells them apart either.  Over a whole run this means that calls
which differ in hidden names alone get the same answers.
-/
namespace PersonalNames

/-! ## Lists that show the same names -/

namespace Cut

/-- A list of names is cut if it is long enough and has a name to hide. -/
def Applies (cut : Cut) (names : List PersonName) : Prop :=
  cut.least ≤ names.length ∧ max 1 cut.shown < names.length

/-- Lists that are cut and show the same names. -/
structure Alike (cut : Cut) (xs ys : List PersonName) : Prop where
  left : cut.Applies xs
  right : cut.Applies ys
  shown : xs.take (max 1 cut.shown) = ys.take (max 1 cut.shown)

end Cut

namespace NameList

variable {style : ListStyle} {cut : Cut}

theorem cutAt?_of_applies (hcut : style.cut = some cut) {names : List PersonName}
    (h : cut.Applies names) : cutAt? style names.length = some (max 1 cut.shown) := by
  obtain ⟨hleast, hshown⟩ := h
  rw [cutAt?, hcut, Option.bind_some, if_pos ⟨hleast, hshown⟩]

/-- Of a list that is cut only the names shown are formatted. -/
theorem formatTokens_eq_of_alike (hcut : style.cut = some cut) {xs ys : List PersonName}
    (h : cut.Alike xs ys) (tokens : List Token) (settings : Settings) (terms : Terms) :
    formatTokens tokens xs style settings terms = formatTokens tokens ys style settings terms := by
  rw [formatTokens_of_cut tokens settings terms (cutAt?_of_applies hcut h.left),
    formatTokens_of_cut tokens settings terms (cutAt?_of_applies hcut h.right),
    ← List.map_take, ← List.map_take, h.shown]

end NameList

/-! ## Calls to a formatter -/

/-- Calls that differ at most in names that a cut list hides. -/
inductive Call.Alike (c : Configuration) : Call → Call → Prop where
  | same (call : Call) : Alike c call call
  | formatList {listId : Option String} {found : String} {list : ListFormat} {cut : Cut}
      {xs ys : List PersonName} (id : Option String)
      (hlist : c.resolveList (listId.getD defaultId) = .ok (found, list))
      (hcut : list.style.cut = some cut) (h : cut.Alike xs ys) :
      Alike c (.formatList xs id listId) (.formatList ys id listId)

namespace Formatter

variable (f : Formatter)

theorem configuration_compile (source : String) :
    (f.compile source).2.configuration = f.configuration := by
  unfold compile
  split
  · rfl
  · split <;> rfl

theorem configuration_patternOf (id : Option String) :
    (f.patternOf id).2.configuration = f.configuration := by
  unfold patternOf
  split
  · rfl
  · exact f.configuration_compile _

/-- Formatting a list leaves what looking up its pattern leaves. -/
theorem snd_formatList (names : List PersonName) (id listId : Option String) :
    (f.formatList names id listId).2 = (f.patternOf id).2 := by
  unfold formatList
  cases f.patternOf id with
  | mk result f' =>
    cases result with
    | error e => rfl
    | ok pattern =>
      dsimp only
      split <;> rfl

/-- No call changes the configuration. -/
theorem configuration_next (call : Call) : (f.next call).configuration = f.configuration := by
  cases call with
  | format name id =>
    have hpattern : (f.format name id).2 = (f.patternOf id).2 := by
      unfold format
      split
      · next h => rw [h]
      · next h => rw [h]
    exact (congrArg configuration hpattern).trans (f.configuration_patternOf id)
  | formatList names id listId =>
    exact (congrArg configuration (f.snd_formatList names id listId)).trans
      (f.configuration_patternOf id)
  | compile source => exact f.configuration_compile source
  | setting key => rfl
  | set key value =>
    unfold next set
    dsimp only
    split <;> rfl

variable {f}

section
variable {listId : Option String} {found : String} {list : ListFormat} {cut : Cut}
  {xs ys : List PersonName}

theorem formatList_eq_of_alike
    (hlist : f.configuration.resolveList (listId.getD defaultId) = .ok (found, list))
    (hcut : list.style.cut = some cut) (h : cut.Alike xs ys) (id : Option String) :
    f.formatList xs id listId = f.formatList ys id listId := by
  have hconfiguration := f.configuration_patternOf id
  unfold formatList
  cases hpattern : f.patternOf id with
  | mk result f' =>
    rw [hpattern] at hconfiguration
    cases result with
    | error e => rfl
    | ok pattern =>
      -- the style that is found behind the look-up of the pattern is the one in front of it
      dsimp only at hconfiguration ⊢
      rw [hconfiguration, hlist]
      dsimp only [NameList.format]
      rw [NameList.formatTokens_eq_of_alike hcut h]

end

/-- **One call**: calls that are alike get the same answer and leave the same
formatter behind. -/
theorem call_eq_of_alike {call call' : Call} (h : Call.Alike f.configuration call call') :
    f.answer call = f.answer call' ∧ f.next call = f.next call' := by
  cases h with
  | same call => exact ⟨rfl, rfl⟩
  | formatList id hlist hcut h =>
    have heq := formatList_eq_of_alike hlist hcut h id
    exact ⟨congrArg (fun result => result.1.map Answer.markup) heq, congrArg Prod.snd heq⟩

/-- **All calls**: runs of calls that are alike one by one get the same answers. -/
theorem answers_eq_of_alike {c : Configuration} {calls calls' : List Call}
    (h : List.Forall₂ (Call.Alike c) calls calls') (hf : f.configuration = c) :
    f.answers calls = f.answers calls' := by
  unfold answers
  induction h generalizing f with
  | nil => rfl
  | cons hcall _ ih =>
    subst hf
    obtain ⟨hanswer, hnext⟩ := call_eq_of_alike hcall
    rw [answersFrom, answersFrom, hanswer, hnext, ih (f.configuration_next _)]

/-- **Hidden names leave no trace.**  In every state, two lists of names that the
style found for them cuts, and that agree in the names shown, get the same markup or
the same failure, and leave the same formatter behind.  So runs of calls that differ
in hidden names alone get the same answers throughout. -/
theorem formatList_hides_others (f : Formatter) :
    (∀ (id listId : Option String) (found : String) (list : ListFormat) (cut : Cut),
      f.configuration.resolveList (listId.getD defaultId) = .ok (found, list) →
      list.style.cut = some cut →
      ∀ xs ys : List PersonName,
        cut.least ≤ xs.length → max 1 cut.shown < xs.length →
        cut.least ≤ ys.length → max 1 cut.shown < ys.length →
        xs.take (max 1 cut.shown) = ys.take (max 1 cut.shown) →
        f.formatList xs id listId = f.formatList ys id listId) ∧
    ∀ calls calls', List.Forall₂ (Call.Alike f.configuration) calls calls' →
      f.answers calls = f.answers calls' := by
  constructor
  · intro id listId found list cut hlist hcut xs ys hx hx' hy hy' hshown
    exact formatList_eq_of_alike hlist hcut ⟨⟨hx, hx'⟩, ⟨hy, hy'⟩, hshown⟩ id
  · intro calls calls' h
    exact answers_eq_of_alike h rfl

/-- Of two names and of three, the first is shown; how many others there are, what
they are called and where they link to does not show, now or in a later call. -/
theorem formatList_hides_others_short :
    let style : ListStyle := { cut := some ⟨2, 0⟩ }
    let f := ofConfiguration {
      nameFormats := .ofList [("default", { pattern := "g+if" })]
      listFormats := .ofList [("short", { style })] }
    let xs : List PersonName := [.ofGivenFamily "Ann" "Lee", .ofGivenFamily "Bob" "Ray"]
    let ys : List PersonName :=
      [.ofGivenFamily "Ann" "Lee", { link := some "x" }, { title := some "Dr" }]
    let later : Call := .format (.ofGivenFamily "Bob" "Ray") none
    (f.formatList xs none (some "short")).1 = .ok (.plain "Ann Lee, et al") ∧
      f.formatList xs none (some "short") = f.formatList ys none (some "short") ∧
      f.answers [.formatList xs none (some "short"), later] =
        f.answers [.formatList ys none (some "short"), later] := by
  intro style f xs ys later
  have hfound : f.configuration.resolveList "short" = .ok ("short", { style }) := rfl
  have halike : Cut.Alike ⟨2, 0⟩ xs ys :=
    ⟨⟨by decide, by decide⟩, ⟨by decide, by decide⟩, rfl⟩
  obtain ⟨hcall, hrun⟩ := formatList_hides_others f
  refine ⟨by rfl, ?_, ?_⟩
  · exact hcall none (some "short") "short" { style } ⟨2, 0⟩ hfound rfl xs ys
      halike.left.1 halike.left.2 halike.right.1 halike.right.2 halike.shown
  · exact hrun _ _ (.cons (.formatList none hfound rfl halike) (.cons (.same later) .nil))

end Formatter
end PersonalNames
