import PersonalNames.Proofs.Markup.Rendering
import PersonalNames.Proofs.Pattern.Composition
import PersonalNames.Proofs.Pattern.Dissolving

/-! # Fallbacks are alternatives

A fallback shows its first component, or its second where the first is absent.  So does
the group of the first component and, under `|`, the second: a component that is present
is never written as nothing, so the second is shown exactly if the first is absent.
Fallbacks may be replaced by such groups throughout a pattern, with the same output in
every format (`Scene.sequence_expandAll`), except directly under modifiers, where a group
loses its classes.

In the text of a pattern `e` may be replaced by `(g|f)` and `E` by `(f|g)` wherever no
modifier stands directly in front.  The pass reads what follows in lockstep: once their
fallbacks are replaced, the tokens read so far are the same (`lockstep_expand`).
-/
namespace PersonalNames

/-! ## A component that is present has content -/

/-- In the formats at hand a component is written as nothing exactly if it has no text. -/
theorem OutputFormat.component_eq_empty_iff {f : OutputFormat} (h : f ∈ all)
    (className text : String) : f.semantic className (f.text text) = "" ↔ text = "" := by
  have htext := (lawful_of_mem_all h).text_eq_empty_iff text
  simp only [all, List.mem_cons, List.not_mem_nil, or_false] at h
  rcases h with rfl | rfl | rfl
  · exact htext
  · exact htext
  · have htag : Html.spanTag className ≠ "" := by simp [Html.spanTag]
    exact (enclose_eq_empty_iff htag).trans htext

theorem trimStart_ne_nil_of_isUsable {value : String} (h : PersonName.isUsable value = true) :
    Text.trimStart value.toList ≠ [] := by
  intro hnil
  simp [PersonName.isUsable, Text.trim, Text.trimEnd, hnil] at h

theorem ne_empty_of_isUsable {value : String} (h : PersonName.isUsable value = true) :
    value ≠ "" := by
  rintro rfl
  exact trimStart_ne_nil_of_isUsable h rfl

/-- A text that is not blank has an initial. -/
theorem initial_ne_empty {text : String} (h : Text.trimStart text.toList ≠ []) :
    initial text ≠ "" := by
  unfold initial
  cases htrim : Text.trimStart text.toList with
  | nil => exact absurd htrim h
  | cons c rest => simp [Text.firstCluster]

namespace Scene

variable (scene : Scene)

theorem componentPiece_of_absent {kind : Component} (h : scene.name.get? kind = none)
    (isInitial : Bool) (modifiers : List Modifier) :
    scene.componentPiece ⟨.single kind, isInitial⟩ modifiers = .empty := by
  simp [componentPiece, resolve?, h]

/-- **A component that is present has content.** -/
theorem isEmpty_componentPiece_of_present (hformat : scene.format ∈ OutputFormat.all)
    {kind : Component} {value : String} (h : scene.name.get? kind = some value)
    (isInitial : Bool) :
    (scene.componentPiece ⟨.single kind, isInitial⟩ []).isEmpty = false := by
  have husable : PersonName.isUsable value = true := (Option.filter_eq_some_iff.1 h).2
  have htext : (if isInitial then initial value else value) ≠ "" := by
    cases isInitial with
    | true => exact initial_ne_empty (trimStart_ne_nil_of_isUsable husable)
    | false => exact ne_empty_of_isUsable husable
  have houtput := mt (OutputFormat.component_eq_empty_iff hformat (className kind) _).1 htext
  simpa [componentPiece, resolve?, h, Piece.isEmpty, Modifier.applyAll] using houtput

/-- A fallback gives what the component gives that it falls back to. -/
theorem componentPiece_either (first second : Component) (isInitial : Bool)
    (modifiers : List Modifier) :
    scene.componentPiece ⟨.either first second, isInitial⟩ modifiers =
      if (scene.name.get? first).isNone then
        scene.componentPiece ⟨.single second, isInitial⟩ modifiers
      else scene.componentPiece ⟨.single first, isInitial⟩ modifiers := by
  cases hfirst : scene.name.get? first <;> simp [componentPiece, resolve?, hfirst]

end Scene

/-- A piece and, as its alternative, another. -/
theorem Piece.assemble_alternative (p q : Piece) :
    assemble [(none, p), (some .alternative, q)] = if p.isEmpty then p.append q else p := by
  have hfirst : assemble [(none, p), (some .alternative, q)] =
      assembleFrom p p.isEmpty [(some .alternative, q)] :=
    congrArg (assembleFrom · p.isEmpty _) p.empty_append
  rw [hfirst]
  rfl

/-! ## Replacing fallbacks -/

namespace Token

/-- The group of a component and, as its alternative, another. -/
def alternatives (first second : Component) (isInitial : Bool) : Token :=
  .group [.component ⟨.single first, isInitial⟩,
    .conditional .alternative (.component ⟨.single second, isInitial⟩)]

mutual

/-- The token with alternatives in the place of the fallbacks in it, but not of those
directly under modifiers. -/
def expand : Token → Token
  | .component ⟨.either first second, isInitial⟩ => alternatives first second isInitial
  | .component reference => .component reference
  | .literal text => .literal text
  | .separator index => .separator index
  | .group tokens => .group (expandAll tokens)
  | .modified modifiers (.component reference) => .modified modifiers (.component reference)
  | .modified modifiers token => .modified modifiers (expand token)
  | .conditional condition token => .conditional condition (expand token)

/-- The sequence with alternatives in the place of fallbacks. -/
def expandAll : List Token → List Token
  | [] => []
  | token :: tokens => expand token :: expandAll tokens

end

theorem condition?_expand (token : Token) : token.expand.condition? = token.condition? := by
  cases token with
  | component reference =>
    obtain ⟨source, isInitial⟩ := reference
    cases source <;> rfl
  | modified modifiers token => cases token <;> rfl
  | _ => rfl

theorem expand_modified {token : Token} (h : ∀ reference, token ≠ .component reference)
    (modifiers : List Modifier) :
    expand (.modified modifiers token) = .modified modifiers token.expand := by
  cases token with
  | component reference => exact absurd rfl (h reference)
  | _ => rfl

theorem expand_ne_component {token : Token} (h : ∀ reference, token ≠ .component reference)
    (reference : Reference) : token.expand ≠ .component reference := by
  intro heq
  cases token with
  | component reference => exact h reference rfl
  | modified modifiers token => cases token <;> cases heq
  | _ => cases heq

theorem eq_literal_of_expand {token : Token} {text : String} (h : token.expand = .literal text) :
    token = .literal text := by
  cases token with
  | component reference =>
    obtain ⟨source, isInitial⟩ := reference
    cases source <;> cases h
  | literal other => exact h
  | modified modifiers token => cases token <;> cases h
  | _ => cases h

end Token

namespace Scene

variable {scene : Scene}

/-- Alternatives give what the fallback gives. -/
theorem piece_alternatives (hformat : scene.format ∈ OutputFormat.all)
    (first second : Component) (isInitial : Bool) :
    scene.piece (.alternatives first second isInitial) =
      scene.componentPiece ⟨.either first second, isInitial⟩ [] := by
  rw [componentPiece_either]
  refine (Piece.assemble_alternative (scene.componentPiece ⟨.single first, isInitial⟩ [])
    (scene.componentPiece ⟨.single second, isInitial⟩ [])).trans ?_
  cases hfirst : scene.name.get? first with
  | none =>
    rw [scene.componentPiece_of_absent hfirst, Piece.empty_append]
    rfl
  | some value =>
    rw [scene.isEmpty_componentPiece_of_present hformat hfirst]
    rfl

mutual

theorem piece_expand (hformat : scene.format ∈ OutputFormat.all) :
    ∀ token : Token, scene.piece token.expand = scene.piece token
  | .component ⟨.either first second, isInitial⟩ =>
    piece_alternatives hformat first second isInitial
  | .component ⟨.single _, _⟩ => rfl
  | .literal _ => rfl
  | .separator _ => rfl
  | .group tokens => congrArg Piece.assemble (pieces_expandAll hformat tokens)
  | .modified modifiers token => by
    rcases token.component_or_other with ⟨reference, rfl⟩ | hnot
    · rfl
    · rw [Token.expand_modified hnot, scene.piece_modified (Token.expand_ne_component hnot),
        scene.piece_modified hnot, piece_expand hformat token]
  | .conditional _ token => piece_expand hformat token

theorem pieces_expandAll (hformat : scene.format ∈ OutputFormat.all) :
    ∀ tokens : List Token, scene.pieces (Token.expandAll tokens) = scene.pieces tokens
  | [] => rfl
  | token :: tokens => by
    rw [Token.expandAll, pieces, pieces, Token.condition?_expand, piece_expand hformat token,
      pieces_expandAll hformat tokens]

end

/-- **Fallbacks may be replaced by alternatives throughout a sequence.** -/
theorem sequence_expandAll (hformat : scene.format ∈ OutputFormat.all) (tokens : List Token) :
    scene.sequence (Token.expandAll tokens) = scene.sequence tokens :=
  congrArg Piece.assemble (pieces_expandAll hformat tokens)

end Scene

/-! ## Replacing a fallback in a text -/

namespace Token

theorem expandAll_eq_map (tokens : List Token) : expandAll tokens = tokens.map expand := by
  induction tokens with
  | nil => rfl
  | cons token tokens ih => rw [expandAll, ih, List.map_cons]

/-- Fallbacks and alternatives are never fused with their neighbours. -/
theorem expandAll_appendToken (tokens : List Token) (token : Token) :
    expandAll (OpenSequence.append tokens token) =
      OpenSequence.append (expandAll tokens) token.expand := by
  rw [expandAll_eq_map, expandAll_eq_map]
  exact OpenSequence.map_append (fun _ => rfl) eq_literal_of_expand tokens token

theorem expand_wrap_group (m : Marks) (tokens : List Token) :
    expand (m.wrap (.group tokens)) = m.wrap (.group (expandAll tokens)) := by
  obtain ⟨condition, modifiers⟩ := m
  cases condition <;> cases modifiers <;> rfl

/-- Without modifiers in front, alternatives are what replaces the fallback. -/
theorem expand_wrap_alternatives {m : Marks} (h : m.modifiers = []) (first second : Component)
    (isInitial : Bool) : expand (m.wrap (.component ⟨.either first second, isInitial⟩)) =
      expand (m.wrap (alternatives first second isInitial)) := by
  obtain ⟨condition, modifiers⟩ := m
  cases h
  cases condition <;> rfl

end Token

/-- The open sequence with alternatives in the place of fallbacks. -/
def OpenSequence.expand (level : OpenSequence) : OpenSequence :=
  { level with tokens := Token.expandAll level.tokens }

theorem OpenSequence.expand_push (level : OpenSequence) (token : Token) :
    (level.push token).expand =
      { tokens := append level.expand.tokens (level.expand.marks.wrap token).expand } :=
  congrArg (OpenSequence.mk · {}) (Token.expandAll_appendToken level.tokens _)

namespace Pattern

/-- The state with alternatives in the place of the fallbacks that have been read. -/
def State.expand (s : State) : State :=
  ⟨s.inner.expand, s.outer.map OpenSequence.expand⟩

theorem State.openMarks_expand (s : State) : s.expand.openMarks = s.openMarks := by
  simp only [State.openMarks, State.expand, List.map_cons, List.map_map]
  rfl

theorem State.expand_push (s : State) (t : Token) :
    (s.push t).expand =
      ⟨{ tokens := OpenSequence.append s.expand.inner.tokens
          (s.expand.inner.marks.wrap t).expand }, s.expand.outer⟩ :=
  congrArg (State.mk · _) (s.inner.expand_push t)

/-- The pass treats alike what is the same once fallbacks have been replaced. -/
theorem lockstep_expand : Lockstep fun s s' => s.expand = s'.expand where
  openMarks {s s'} h := by
    rw [← s.openMarks_expand, h, s'.openMarks_expand]
  mark marks h := congrArg (State.mark · marks) h
  push t h := by rw [State.expand_push, State.expand_push, h]
  opening h := congrArg (fun s : State => (⟨{}, s.inner :: s.outer⟩ : State)) h
  closing {inner inner' level level' outer outer'} h := by
    obtain ⟨hinner, houter⟩ := State.mk.inj h
    obtain ⟨hlevel, houter⟩ := List.cons.inj houter
    have htokens : Token.expandAll inner.tokens = Token.expandAll inner'.tokens :=
      congrArg OpenSequence.tokens hinner
    simp only [State.expand, OpenSequence.expand_push, Token.expand_wrap_group, htokens, hlevel,
      houter]

end Pattern

namespace Lexeme

/-- The codes of the components of a fallback, by its code. -/
def fallback? : Char → Option (Char × Char)
  | 'e' => some ('g', 'f')
  | 'E' => some ('f', 'g')
  | _ => none

/-- A component and, as its alternative, another, in parentheses. -/
def alternatives (first second : Char) (starred : Bool) : List Lexeme :=
  [.opening, .component first starred, .condition .alternative, .component second starred,
    .closing]

end Lexeme

namespace Grammar

/-- A component code derives its component in front of a reserved character. -/
theorem base_code {code : Char} {kind : Component}
    (h : (code, ⟨.single kind, false⟩) ∈ components) (starred : Bool) {rest : List Char}
    (hrest : Lexeme.EndsRun rest) :
    Base (Lexeme.component code starred).spelling rest (.component ⟨.single kind, starred⟩) := by
  cases starred with
  | true => exact .starred rest h
  | false => exact .component h hrest.head?_ne_star

theorem base_alternatives {first second : Char} {kind other : Component}
    (hfirst : (first, ⟨.single kind, false⟩) ∈ components)
    (hsecond : (second, ⟨.single other, false⟩) ∈ components) (starred : Bool) (rest : List Char) :
    Base ((Lexeme.alternatives first second starred).flatMap Lexeme.spelling) rest
      (.alternatives kind other starred) := by
  have hclosing : Lexeme.EndsRun (')' :: rest) := Lexeme.endsRun_cons (by decide) rest
  have hbehind := (Item.conditional .alternative (base_code hsecond starred hclosing)).sequence
  have hcondition (more : List Char) : Lexeme.EndsRun (Condition.alternative.code :: more) :=
    Lexeme.endsRun_cons (by decide) more
  have hseq := Sequence.cons (.bare (base_code hfirst starred (hcondition _))) hbehind
  have htext : (Lexeme.alternatives first second starred).flatMap Lexeme.spelling =
      '(' :: ((Lexeme.component first starred).spelling ++
        (Condition.alternative.code :: (Lexeme.component second starred).spelling) ++ [')']) := by
    simp [Lexeme.alternatives, Lexeme.spelling]
  rw [htext]
  exact .group hseq

end Grammar

namespace Pattern

/-- What a fallback code and the codes in its place stand for. -/
theorem components_of_fallback? {code first second : Char}
    (h : Lexeme.fallback? code = some (first, second)) :
    ∃ kind other, Lexeme.source? code = some (.either kind other) ∧
      Lexeme.isInitialCode code = false ∧
      (first, ⟨.single kind, false⟩) ∈ Grammar.components ∧
      (second, ⟨.single other, false⟩) ∈ Grammar.components := by
  unfold Lexeme.fallback? at h
  split at h
  · cases h
    exact ⟨.given, .family, by decide⟩
  · cases h
    exact ⟨.family, .given, by decide⟩
  · cases h

/-- Alternatives in the place of a fallback are read as well, to the same tokens once
fallbacks have been replaced. -/
theorem readFrom_alternatives {text : List Char} {before after : List Lexeme}
    {code first second : Char} {starred : Bool} {tokens : List Token}
    (hcode : Lexeme.fallback? code = some (first, second))
    (hscan : Lexeme.scan text = before ++ .component code starred :: after)
    (hlast : ∀ m, before.getLast? ≠ some (.modifier m))
    (h : readFrom 0 {} (Lexeme.scan text) = .ok tokens) :
    ∃ tokens', readFrom 0 {} (Lexeme.scan ((before ++ Lexeme.alternatives first second starred ++
        after).flatMap Lexeme.spelling)) = .ok tokens' ∧
      Token.expandAll tokens = Token.expandAll tokens' := by
  obtain ⟨kind, other, hsource, hinitial, hfirst, hsecond⟩ := components_of_fallback? hcode
  obtain ⟨s, next, hafter, hnext, ⟨offset, hok⟩, hbefore⟩ := exists_read_of_scan hscan h
  have hread : s.read (.component code starred) =
      .ok (s.push (.component ⟨.either kind other, starred⟩)) := by
    simp [State.read, componentToken, hsource, hinitial]
  rw [hread] at hnext
  cases hnext
  have hsame : (s.push (.component ⟨.either kind other, starred⟩)).expand =
      (s.push (.alternatives kind other starred)).expand := by
    have hmodifiers : s.expand.inner.marks.modifiers = [] := hafter.modifiers_eq hlast
    rw [State.expand_push, State.expand_push, Token.expand_wrap_alternatives hmodifiers]
  have hgroup := (Grammar.base_alternatives hfirst hsecond starred
    (after.flatMap Lexeme.spelling)).reads s
  have hreads := (hbefore _ (Or.inl (Lexeme.endsRun_cons (by decide) _))).trans hgroup
  rw [List.flatMap_append, List.flatMap_append, hreads 0, Lexeme.scan_behind hscan]
  obtain ⟨tokens', hok', halike⟩ := lockstep_expand.keepsPace.exists_tokens hsame hok _
  exact ⟨tokens', hok', congrArg (fun s : State => s.inner.tokens) halike⟩

/-- **Fallbacks are alternatives.**  With every fallback of a sequence replaced by
alternatives, except directly under modifiers, the output is the same in every format.  And
in the text of a pattern the code of a fallback that does not stand directly behind a
modifier may be replaced by alternatives in parentheses. -/
theorem fallbacks_are_alternatives :
    (∀ f ∈ OutputFormat.all, ∀ tokens name settings,
      output f (Token.expandAll tokens) name settings = output f tokens name settings) ∧
    ∀ (text : String) (before after : List Lexeme) (code first second : Char) (starred : Bool)
      (pattern : Pattern), Lexeme.fallback? code = some (first, second) →
      Lexeme.scan text.toList = before ++ .component code starred :: after →
      (∀ m, before.getLast? ≠ some (.modifier m)) → compile text = .ok pattern →
      ∃ other, compile (String.ofList ((before ++ Lexeme.alternatives first second starred ++
          after).flatMap Lexeme.spelling)) = .ok other ∧
        ∀ f ∈ OutputFormat.all, ∀ name settings,
          output f other.tokens name settings = output f pattern.tokens name settings := by
  have hexpand : ∀ f ∈ OutputFormat.all, ∀ tokens name settings,
      output f (Token.expandAll tokens) name settings = output f tokens name settings := by
    intro f hf tokens name settings
    have hscene : (⟨f, name, settings⟩ : Scene).format ∈ OutputFormat.all := hf
    exact congrArg Piece.output (Scene.sequence_expandAll hscene tokens)
  refine ⟨hexpand, fun text _ _ _ _ _ _ pattern hcode hscan hlast h => ?_⟩
  rw [← String.ofList_toList (s := text)] at h
  obtain ⟨tokens', hok, hsame⟩ :=
    readFrom_alternatives hcode hscan hlast (readFrom_of_compile h)
  refine ⟨_, compile_of_readFrom hok, fun f hf name settings => ?_⟩
  calc output f tokens' name settings
      = output f (Token.expandAll tokens') name settings := (hexpand f hf _ _ _).symm
    _ = output f (Token.expandAll pattern.tokens) name settings := by rw [hsame]
    _ = output f pattern.tokens name settings := hexpand f hf _ _ _

/-- In `t-e*` the fallback stands behind a condition, and `t-(g*|f*)` gives the same. -/
theorem fallbacks_are_alternatives_behind_condition :
    let title : Token := .component ⟨.single .title, false⟩
    let fallback : Token := .component ⟨.either .given .family, true⟩
    compile "t-e*" = .ok ⟨"t-e*", [title, .conditional .afterContent fallback]⟩ ∧
      compile "t-(g*|f*)" = .ok ⟨"t-(g*|f*)",
        [title, .conditional .afterContent (.alternatives .given .family true)]⟩ ∧
      ∀ f ∈ OutputFormat.all, ∀ name settings,
        output f [title, .conditional .afterContent (.alternatives .given .family true)]
            name settings =
          output f [title, .conditional .afterContent fallback] name settings := by
  intro title fallback
  have hscan : Lexeme.scan "t-e*".toList =
      [.component 't' false, .condition .afterContent] ++ .component 'e' true :: [] := by
    decide +kernel
  have hscanOther : Lexeme.scan "t-(g*|f*)".toList =
      [.component 't' false, .condition .afterContent] ++
        Lexeme.alternatives 'g' 'f' true := by
    decide +kernel
  have h : compile "t-e*" = .ok ⟨"t-e*", [title, .conditional .afterContent fallback]⟩ := by
    rw [compile, hscan]
    rfl
  have hother : compile "t-(g*|f*)" = .ok ⟨"t-(g*|f*)",
      [title, .conditional .afterContent (.alternatives .given .family true)]⟩ := by
    rw [compile, hscanOther]
    rfl
  obtain ⟨other, (hcompile : compile "t-(g*|f*)" = .ok other), hsame⟩ :=
    fallbacks_are_alternatives.2 "t-e*" [.component 't' false, .condition .afterContent] []
      'e' 'g' 'f' true _ rfl hscan (by simp) h
  rw [hother] at hcompile
  cases hcompile
  exact ⟨h, hother, hsame⟩

end Pattern
end PersonalNames
