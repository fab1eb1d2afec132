import PersonalNames.Proofs.Pattern.Dissolving

/-! # What a pattern reads of a name

A pattern reads the components that it mentions, and of each only whether it counts and
with which text.  So names that agree in these give the same output in every format,
whatever conditions, fallbacks, groups and modifiers look at (`output_eq_of_agreeOn`).

Formatting asks two things of a name as a whole: whether any component counts, and where
the name links to.  Names that agree in these too are formatted alike in every mode
(`formatTokens_eq_of_agreeOn`).  In which way a component is absent never matters, as all
ways look the same to `get?` (`get?_eq_none_iff`).
-/
namespace PersonalNames

/-! ## Mentioned components -/

/-- The kinds among which a source finds its value. -/
def Source.kinds : Source → List Component
  | .single kind => [kind]
  | .either first second => [first, second]

namespace Token

mutual

/-- The kinds of components that a token mentions, at any depth. -/
def kinds : Token → List Component
  | .component reference => reference.source.kinds
  | .literal _ => []
  | .separator _ => []
  | .group tokens => kindsAll tokens
  | .modified _ token => kinds token
  | .conditional _ token => kinds token

/-- The kinds of components that the tokens of a sequence mention. -/
def kindsAll : List Token → List Component
  | [] => []
  | token :: tokens => kinds token ++ kindsAll tokens

end

end Token

namespace PersonName

/-- Names with the same components of some kinds. -/
def AgreeOn (kinds : List Component) (n n' : PersonName) : Prop :=
  ∀ kind ∈ kinds, n.get? kind = n'.get? kind

theorem agreeOn_append {kinds others : List Component} {n n' : PersonName} :
    AgreeOn (kinds ++ others) n n' ↔ AgreeOn kinds n n' ∧ AgreeOn others n n' :=
  List.forall_mem_append

end PersonName

/-! ## Evaluation for names that agree -/

namespace Scene

open PersonName (AgreeOn)

variable {format : OutputFormat} {settings : Settings} {n n' : PersonName}

theorem resolve?_eq_of_agreeOn {source : Source} (h : AgreeOn source.kinds n n') :
    resolve? ⟨format, n, settings⟩ source = resolve? ⟨format, n', settings⟩ source := by
  cases source with
  | single kind =>
    have hkind : n.get? kind = n'.get? kind := h kind (.head _)
    simp only [resolve?, hkind]
  | either first second =>
    have hfirst : n.get? first = n'.get? first := h first (.head _)
    have hsecond : n.get? second = n'.get? second := h second (.tail _ (.head _))
    simp only [resolve?, hfirst, hsecond]

theorem componentPiece_eq_of_agreeOn {reference : Reference}
    (h : AgreeOn reference.source.kinds n n') (modifiers : List Modifier) :
    componentPiece ⟨format, n, settings⟩ reference modifiers =
      componentPiece ⟨format, n', settings⟩ reference modifiers := by
  unfold componentPiece
  rw [resolve?_eq_of_agreeOn h]

mutual

theorem piece_eq_of_agreeOn : ∀ token : Token, AgreeOn token.kinds n n' →
    piece ⟨format, n, settings⟩ token = piece ⟨format, n', settings⟩ token
  | .component _, h => componentPiece_eq_of_agreeOn h []
  | .literal _, _ => rfl
  | .separator _, _ => rfl
  | .group tokens, h => congrArg Piece.assemble (pieces_eq_of_agreeOn tokens h)
  | .modified modifiers token, h => by
    rcases token.component_or_other with ⟨reference, rfl⟩ | hother
    · exact componentPiece_eq_of_agreeOn h modifiers
    · rw [piece_modified _ hother, piece_modified _ hother, piece_eq_of_agreeOn token h]
      rfl
  | .conditional _ token, h => piece_eq_of_agreeOn token h

/-- A sequence gives names that agree on what it mentions the same pieces, so that all
conditions find the same neighbours. -/
theorem pieces_eq_of_agreeOn : ∀ tokens : List Token, AgreeOn (Token.kindsAll tokens) n n' →
    pieces ⟨format, n, settings⟩ tokens = pieces ⟨format, n', settings⟩ tokens
  | [], _ => rfl
  | token :: tokens, h => by
    obtain ⟨htoken, htokens⟩ := PersonName.agreeOn_append.1 h
    rw [pieces, pieces, piece_eq_of_agreeOn token htoken, pieces_eq_of_agreeOn tokens htokens]

end

end Scene

namespace Pattern

open PersonName (AgreeOn)

variable {tokens : List Token} {n n' : PersonName}

/-- **Output depends on the mentioned components only.** -/
theorem output_eq_of_agreeOn (h : AgreeOn (Token.kindsAll tokens) n n') (f : OutputFormat)
    (settings : Settings) : output f tokens n settings = output f tokens n' settings := by
  unfold output Scene.sequence
  rw [Scene.pieces_eq_of_agreeOn tokens h]

/-- Formatting also asks whether the name is empty and where it links to. -/
theorem formatTokens_eq_of_agreeOn (h : AgreeOn (Token.kindsAll tokens) n n')
    (hempty : n.isEmpty = n'.isEmpty) (htarget : n.target? = n'.target?) (settings : Settings) :
    formatTokens tokens n settings = formatTokens tokens n' settings := by
  have hcontent : content tokens n settings = content tokens n' settings := by
    unfold content
    simp only [output_eq_of_agreeOn h]
  unfold formatTokens
  rw [hempty, htarget, hcontent]

end Pattern

/-! ## Absent components -/

namespace PersonName

/-- The values of a component that count as absent: none, a blank text, and the word that
marks an absent value. -/
inductive CountsAsAbsent : Option String → Prop
  | missing : CountsAsAbsent none
  | blank {s : String} (h : ∀ c ∈ s.toList, Text.isBlank c = true) : CountsAsAbsent (some s)
  | marked : CountsAsAbsent (some "_none")

theorem isUsable_iff {s : String} :
    isUsable s = true ↔ ¬ (∀ c ∈ s.toList, Text.isBlank c = true) ∧ s ≠ "_none" := by
  rw [← Text.trim_eq_nil_iff]
  simp [isUsable]

/-- **Nothing is got exactly where the value counts as absent.** -/
theorem get?_eq_none_iff {n : PersonName} {kind : Component} :
    n.get? kind = none ↔ CountsAsAbsent (n.part kind) := by
  unfold get?
  cases n.part kind with
  | none => exact iff_of_true rfl .missing
  | some s =>
    rw [Option.filter_eq_none_iff]
    constructor
    · intro h
      have husable := h s rfl
      rw [isUsable_iff, Classical.not_and_iff_not_or_not, Classical.not_not,
        Classical.not_not] at husable
      rcases husable with hblank | rfl
      · exact .blank hblank
      · exact .marked
    · rintro h _ ⟨⟩ husable
      obtain ⟨hnotBlank, hnotMarked⟩ := isUsable_iff.1 husable
      cases h with
      | blank hblank => exact hnotBlank hblank
      | marked => exact hnotMarked rfl

theorem part_withPart (n : PersonName) (kind other : Component) (value : Option String) :
    (n.withPart kind value).part other = if other = kind then value else n.part other := by
  cases kind <;> cases other <;> rfl

theorem target?_withPart (n : PersonName) (kind : Component) (value : Option String) :
    (n.withPart kind value).target? = n.target? := by
  cases kind <;> rfl

theorem isEmpty_eq_of_get? {n n' : PersonName} (h : ∀ kind, n.get? kind = n'.get? kind) :
    n.isEmpty = n'.isEmpty := by
  simp only [isEmpty, h]

/-- In place of a value that counts as absent any other one may stand. -/
theorem get?_withPart_of_absent {v v' : Option String} (h : CountsAsAbsent v)
    (h' : CountsAsAbsent v') (n : PersonName) (kind other : Component) :
    (n.withPart kind v).get? other = (n.withPart kind v').get? other := by
  by_cases hother : other = kind
  · have hnone : (n.withPart kind v).get? other = none := by
      rwa [get?_eq_none_iff, part_withPart, if_pos hother]
    have hnone' : (n.withPart kind v').get? other = none := by
      rwa [get?_eq_none_iff, part_withPart, if_pos hother]
    rw [hnone, hnone']
  · unfold get?
    rw [part_withPart, part_withPart, if_neg hother, if_neg hother]

end PersonName

namespace Pattern

open PersonName (AgreeOn CountsAsAbsent)

/-- **A pattern reads nothing of a name but what it mentions.**  Names that agree on the
mentioned components give the same output in every format; if they are both empty or both
not, and link to the same target, then they are formatted alike in every mode.  A
component counts as absent if it is missing, blank or marked as absent, and such values
may stand for one another. -/
theorem output_reads_mentioned :
    (∀ (f : OutputFormat) (tokens : List Token) (settings : Settings) (n n' : PersonName),
      AgreeOn (Token.kindsAll tokens) n n' →
        output f tokens n settings = output f tokens n' settings) ∧
    (∀ (tokens : List Token) (settings : Settings) (n n' : PersonName),
      AgreeOn (Token.kindsAll tokens) n n' → n.isEmpty = n'.isEmpty → n.target? = n'.target? →
        formatTokens tokens n settings = formatTokens tokens n' settings) ∧
    (∀ (n : PersonName) (kind : Component),
      n.get? kind = none ↔ CountsAsAbsent (n.part kind)) ∧
    ∀ (n : PersonName) (kind : Component) (v v' : Option String),
      CountsAsAbsent v → CountsAsAbsent v' → ∀ (tokens : List Token) (settings : Settings),
        (∀ f, output f tokens (n.withPart kind v) settings =
          output f tokens (n.withPart kind v') settings) ∧
        formatTokens tokens (n.withPart kind v) settings =
          formatTokens tokens (n.withPart kind v') settings := by
  refine ⟨fun f tokens settings n n' h => output_eq_of_agreeOn h f settings,
    fun tokens settings n n' h hempty htarget =>
      formatTokens_eq_of_agreeOn h hempty htarget settings,
    fun n kind => PersonName.get?_eq_none_iff, ?_⟩
  intro n kind v v' h h' tokens settings
  have hget := PersonName.get?_withPart_of_absent h h' n kind
  have hagree : AgreeOn (Token.kindsAll tokens) (n.withPart kind v) (n.withPart kind v') :=
    fun other _ => hget other
  have htarget : (n.withPart kind v).target? = (n.withPart kind v').target? := by
    rw [PersonName.target?_withPart, PersonName.target?_withPart]
  exact ⟨fun f => output_eq_of_agreeOn hagree f settings,
    formatTokens_eq_of_agreeOn hagree (PersonName.isEmpty_eq_of_get? hget) htarget settings⟩

/-- The pattern `e+i(m|c)` does not mention the title; the absent given and middle names
of the two names are absent in different ways. -/
theorem output_reads_mentioned_absent :
    let tokens : List Token :=
      [.component ⟨.either .given .family, false⟩, .conditional .both (.separator 1),
        .group [.component ⟨.single .middle, false⟩,
          .conditional .alternative (.component ⟨.single .credentials, false⟩)]]
    let n : PersonName :=
      { title := "Dr", given := "_none", middle := "", family := "Lee", credentials := "PhD" }
    let n' : PersonName :=
      { title := " ", middle := "\t ", family := "Lee", credentials := "PhD" }
    compile "e+i(m|c)" = .ok ⟨"e+i(m|c)", tokens⟩ ∧
      Token.kindsAll tokens = [.given, .family, .middle, .credentials] ∧
      AgreeOn (Token.kindsAll tokens) n n' ∧ n.isEmpty = n'.isEmpty ∧ n.target? = n'.target? ∧
      (∀ f settings, output f tokens n settings = output f tokens n' settings) ∧
      (∀ settings, formatTokens tokens n settings = formatTokens tokens n' settings) ∧
      CountsAsAbsent (some "_none") ∧ CountsAsAbsent none ∧
      ∀ settings, formatTokens tokens (n.withPart .given (some "_none")) settings =
        formatTokens tokens (n.withPart .given none) settings := by
  intro tokens n n'
  have hscan : Lexeme.scan "e+i(m|c)".toList =
      [.component 'e' false, .condition .both, .separator 1, .opening, .component 'm' false,
        .condition .alternative, .component 'c' false, .closing] := by
    decide +kernel
  have hcompile : compile "e+i(m|c)" = .ok ⟨"e+i(m|c)", tokens⟩ := by
    rw [compile, hscan]
    rfl
  have hkinds : Token.kindsAll tokens = [.given, .family, .middle, .credentials] := rfl
  have hagree : AgreeOn (Token.kindsAll tokens) n n' := by
    rw [hkinds]
    unfold AgreeOn
    decide
  have hempty : n.isEmpty = n'.isEmpty := by decide
  have htarget : n.target? = n'.target? := rfl
  obtain ⟨houtput, hformat, -, habsent⟩ := output_reads_mentioned
  refine ⟨hcompile, hkinds, hagree, hempty, htarget, ?_, ?_, .marked, .missing, ?_⟩
  · intro f settings
    exact houtput f tokens settings n n' hagree
  · intro settings
    exact hformat tokens settings n n' hagree hempty htarget
  · intro settings
    exact (habsent n .given _ _ .marked .missing tokens settings).2

end Pattern
end PersonalNames
