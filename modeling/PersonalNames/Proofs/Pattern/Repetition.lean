import PersonalNames.NameList
import PersonalNames.Proofs.Modifier.Idempotence
import PersonalNames.Proofs.Pattern.Composition

/-! # Repeated modifiers

No modifier changes what it has changed, so a modifier that stands directly behind itself
does nothing.  Without such repeats, at whatever depth they stand, a sequence of tokens
gives the same text and the same output in every format (`Scene.sequence_withoutRepeatsAll`).

In the text of a pattern the code of a modifier may therefore be written twice.  The marks
in front of the next token are then others, and stay so until a group that follows them is
closed, but they are the same without repeats.  The pass keeps pace with that
(`keepsPace_withoutRepeats`), so it accepts one text where it accepts the other.
-/
namespace PersonalNames

/-! ## Tokens without repeats -/

namespace Token

mutual

/-- The token without modifiers that stand directly behind themselves, in it or within. -/
def withoutRepeats : Token → Token
  | .component reference => .component reference
  | .literal text => .literal text
  | .separator index => .separator index
  | .group tokens => .group (withoutRepeatsAll tokens)
  | .modified modifiers token => .modified (Modifier.withoutRepeats modifiers) (withoutRepeats token)
  | .conditional condition token => .conditional condition (withoutRepeats token)

/-- The sequence without modifiers that stand directly behind themselves. -/
def withoutRepeatsAll : List Token → List Token
  | [] => []
  | token :: tokens => withoutRepeats token :: withoutRepeatsAll tokens

end

theorem withoutRepeatsAll_eq_map (tokens : List Token) :
    withoutRepeatsAll tokens = tokens.map withoutRepeats := by
  induction tokens with
  | nil => rfl
  | cons token tokens ih => rw [withoutRepeatsAll, ih, List.map_cons]

theorem condition?_withoutRepeats (token : Token) :
    token.withoutRepeats.condition? = token.condition? := by
  cases token <;> rfl

theorem withoutRepeats_ne_component {token : Token} (h : ∀ reference, token ≠ .component reference)
    (reference : Reference) : token.withoutRepeats ≠ .component reference := by
  intro heq
  cases token with
  | component reference => exact h reference rfl
  | _ => cases heq

theorem eq_literal_of_withoutRepeats {token : Token} {text : String}
    (h : token.withoutRepeats = .literal text) : token = .literal text := by
  cases token with
  | literal other => exact h
  | _ => cases h

theorem withoutRepeatsAll_appendToken (tokens : List Token) (token : Token) :
    withoutRepeatsAll (OpenSequence.append tokens token) =
      OpenSequence.append (withoutRepeatsAll tokens) token.withoutRepeats := by
  rw [withoutRepeatsAll_eq_map, withoutRepeatsAll_eq_map]
  exact OpenSequence.map_append (fun _ => rfl) eq_literal_of_withoutRepeats tokens token

end Token

namespace Scene

variable (scene : Scene)

theorem componentPiece_withoutRepeats (reference : Reference) (modifiers : List Modifier) :
    scene.componentPiece reference (Modifier.withoutRepeats modifiers) =
      scene.componentPiece reference modifiers := by
  unfold componentPiece
  simp only [Modifier.applyAll_withoutRepeats]

mutual

theorem piece_withoutRepeats : ∀ token : Token, scene.piece token.withoutRepeats = scene.piece token
  | .modified modifiers token => by
    rcases token.component_or_other with ⟨reference, rfl⟩ | hother
    · exact scene.componentPiece_withoutRepeats reference modifiers
    · rw [Token.withoutRepeats, scene.piece_modified (Token.withoutRepeats_ne_component hother),
        scene.piece_modified hother, piece_withoutRepeats token, Modifier.applyAll_withoutRepeats]
  | .group tokens => congrArg Piece.assemble (pieces_withoutRepeatsAll tokens)
  | .conditional _ token => piece_withoutRepeats token
  | .component _ | .literal _ | .separator _ => rfl

theorem pieces_withoutRepeatsAll :
    ∀ tokens : List Token, scene.pieces (Token.withoutRepeatsAll tokens) = scene.pieces tokens
  | [] => rfl
  | token :: tokens => by
    rw [Token.withoutRepeatsAll, pieces, pieces, Token.condition?_withoutRepeats,
      piece_withoutRepeats token, pieces_withoutRepeatsAll tokens]

end

/-- **Without repeats a sequence gives the same**, in text and in output. -/
theorem sequence_withoutRepeatsAll (tokens : List Token) :
    scene.sequence (Token.withoutRepeatsAll tokens) = scene.sequence tokens :=
  congrArg Piece.assemble (scene.pieces_withoutRepeatsAll tokens)

end Scene

theorem Pattern.formatTokens_withoutRepeatsAll (tokens : List Token) (name : PersonName)
    (settings : Settings) :
    formatTokens (Token.withoutRepeatsAll tokens) name settings =
      formatTokens tokens name settings := by
  unfold formatTokens content output
  simp only [Scene.sequence_withoutRepeatsAll]

theorem NameList.formatTokens_withoutRepeatsAll (tokens : List Token) (names : List PersonName)
    (style : ListStyle) (settings : Settings) (terms : Terms) :
    formatTokens (Token.withoutRepeatsAll tokens) names style settings terms =
      formatTokens tokens names style settings terms := by
  unfold formatTokens
  simp only [Pattern.formatTokens_withoutRepeatsAll]

/-! ## States without repeats -/

/-- The marks without modifiers that stand directly behind themselves. -/
def Marks.withoutRepeats (m : Marks) : Marks :=
  { m with modifiers := Modifier.withoutRepeats m.modifiers }

/-- The open sequence without repeats in its tokens and marks. -/
def OpenSequence.withoutRepeats (level : OpenSequence) : OpenSequence :=
  ⟨Token.withoutRepeatsAll level.tokens, level.marks.withoutRepeats⟩

/-- The state without repeats in what has been read. -/
def Pattern.State.withoutRepeats (s : State) : State :=
  ⟨s.inner.withoutRepeats, s.outer.map OpenSequence.withoutRepeats⟩

namespace Marks

theorem isEmpty_withoutRepeats (m : Marks) : m.withoutRepeats.isEmpty = m.isEmpty := by
  rw [Bool.eq_iff_iff]
  simp only [isEmpty, withoutRepeats, Bool.and_eq_true, List.isEmpty_iff,
    Modifier.withoutRepeats_eq_nil_iff]

/-- Marks without repeats go in front of a token without repeats. -/
theorem withoutRepeats_wrap (m : Marks) (t : Token) :
    (m.wrap t).withoutRepeats = m.withoutRepeats.wrap t.withoutRepeats := by
  obtain ⟨condition, modifiers⟩ := m
  have hmodifiers : (Modifier.withoutRepeats modifiers).isEmpty = modifiers.isEmpty := by
    rw [Bool.eq_iff_iff, List.isEmpty_iff, List.isEmpty_iff, Modifier.withoutRepeats_eq_nil_iff]
  simp only [wrap, withoutRepeats, hmodifiers]
  cases condition <;> cases modifiers <;> rfl

/-- One more modifier behind marks that are the same without repeats. -/
theorem withoutRepeats_concat_congr {m m' : Marks} (h : m.withoutRepeats = m'.withoutRepeats)
    (change : Modifier) :
    ({ m with modifiers := m.modifiers ++ [change] } : Marks).withoutRepeats =
      ({ m' with modifiers := m'.modifiers ++ [change] } : Marks).withoutRepeats := by
  obtain ⟨hcondition, hmodifiers⟩ := Marks.mk.inj h
  simp only [withoutRepeats, Modifier.withoutRepeats_concat, hcondition, hmodifiers]

end Marks

namespace Pattern

theorem State.withoutRepeats_push (s : State) (t : Token) :
    (s.push t).withoutRepeats = s.withoutRepeats.push t.withoutRepeats := by
  simp only [State.withoutRepeats, State.push, OpenSequence.withoutRepeats, OpenSequence.push,
    Token.withoutRepeatsAll_appendToken, Marks.withoutRepeats_wrap]
  rfl

theorem State.isEmpty_openMarks_withoutRepeats (s : State) :
    s.withoutRepeats.openMarks.map Marks.isEmpty = s.openMarks.map Marks.isEmpty := by
  simp [State.openMarks, State.withoutRepeats, OpenSequence.withoutRepeats,
    Marks.isEmpty_withoutRepeats]

/-- **The pass treats alike what is the same without repeats.** -/
theorem keepsPace_withoutRepeats :
    KeepsPace fun s s' => s.withoutRepeats = s'.withoutRepeats where
  isEmpty {s s'} h := by
    rw [← s.isEmpty_openMarks_withoutRepeats, h, s'.isEmpty_openMarks_withoutRepeats]
  condition c h := congrArg (State.mark · { condition := some c }) h
  modifier {s s'} m h := by
    have hmarks : s.inner.marks.withoutRepeats = s'.inner.marks.withoutRepeats :=
      congrArg (fun s : State => s.inner.marks) h
    have hmarked := Marks.withoutRepeats_concat_congr hmarks m
    exact congrArg₂ State.mark h hmarked
  push t h := by rw [State.withoutRepeats_push, State.withoutRepeats_push, h]
  opening h := congrArg (fun s : State => (⟨{}, s.inner :: s.outer⟩ : State)) h
  closing {inner inner' level level' outer outer'} h := by
    obtain ⟨hinner, houter⟩ := State.mk.inj h
    obtain ⟨hlevel, houter⟩ := List.cons.inj houter
    have htokens : Token.withoutRepeatsAll inner.tokens = Token.withoutRepeatsAll inner'.tokens :=
      congrArg OpenSequence.tokens hinner
    have hbelow : (⟨level, outer⟩ : State).withoutRepeats =
        (⟨level', outer'⟩ : State).withoutRepeats :=
      congrArg₂ State.mk hlevel houter
    calc (⟨level.push (.group inner.tokens), outer⟩ : State).withoutRepeats
        = (⟨level, outer⟩ : State).withoutRepeats.push
            (.group (Token.withoutRepeatsAll inner.tokens)) :=
          State.withoutRepeats_push ⟨level, outer⟩ (.group inner.tokens)
      _ = (⟨level', outer'⟩ : State).withoutRepeats.push
            (.group (Token.withoutRepeatsAll inner'.tokens)) := by rw [hbelow, htokens]
      _ = (⟨level'.push (.group inner'.tokens), outer'⟩ : State).withoutRepeats :=
          (State.withoutRepeats_push ⟨level', outer'⟩ (.group inner'.tokens)).symm

/-! ## Repeating a code -/

/-- Behind a modifier and behind the same modifier twice the state is the same without
repeats. -/
theorem State.withoutRepeats_mark_twice (s : State) (m : Modifier) :
    (s.mark { s.inner.marks with
      modifiers := s.inner.marks.modifiers ++ [m] }).withoutRepeats =
      (s.mark { s.inner.marks with
        modifiers := s.inner.marks.modifiers ++ [m, m] }).withoutRepeats := by
  have hmodifiers := Modifier.withoutRepeats_concat_concat s.inner.marks.modifiers m
  rw [List.append_assoc, List.singleton_append] at hmodifiers
  simp only [State.withoutRepeats, State.mark, OpenSequence.withoutRepeats, Marks.withoutRepeats,
    hmodifiers]

/-- A text in which the code of a modifier is repeated is read as well, to tokens that are
the same without repeats. -/
theorem readFrom_repeated {text : List Char} {before after : List Lexeme} {m : Modifier}
    {tokens : List Token} (hscan : Lexeme.scan text = before ++ .modifier m :: after)
    (h : readFrom 0 {} (Lexeme.scan text) = .ok tokens) :
    ∃ tokens', readFrom 0 {} (Lexeme.scan ((before ++ .modifier m :: .modifier m :: after).flatMap
        Lexeme.spelling)) = .ok tokens' ∧
      Token.withoutRepeatsAll tokens = Token.withoutRepeatsAll tokens' := by
  obtain ⟨s, next, -, hnext, ⟨offset, hok⟩, hbefore⟩ := exists_read_of_scan hscan h
  cases hnext
  have hfront := hbefore ([m, m].map Modifier.code ++ after.flatMap Lexeme.spelling) (Or.inr rfl)
  have hreads := hfront.trans (reads_modifiers s [m, m] (after.flatMap Lexeme.spelling))
  have htext : (before ++ .modifier m :: .modifier m :: after).flatMap Lexeme.spelling =
      before.flatMap Lexeme.spelling ++ [m, m].map Modifier.code ++
        after.flatMap Lexeme.spelling := by
    simp [Lexeme.spelling]
  rw [htext, hreads 0, Lexeme.scan_behind hscan]
  obtain ⟨tokens', hok', halike⟩ :=
    keepsPace_withoutRepeats.exists_tokens (s.withoutRepeats_mark_twice m) hok _
  exact ⟨tokens', hok', congrArg (fun s : State => s.inner.tokens) halike⟩

/-- **A modifier repeated changes nothing.**  Applied a second time, no modifier changes a
text, and so the same list with a modifier directly behind itself does the same to every
text.  A sequence of tokens gives the same, in text and in output, without the repeats in it
or in any of its groups.  And in the text of a pattern the code of a modifier may be written
twice: the text compiles as well, and formats every name and every list in the same way. -/
theorem repeated_modifier_changes_nothing :
    (∀ (m : Modifier) (s : String), m.apply (m.apply s) = m.apply s) ∧
    (∀ (before behind : List Modifier) (m : Modifier) (s : String),
      Modifier.applyAll (before ++ m :: m :: behind) s =
        Modifier.applyAll (before ++ m :: behind) s) ∧
    (∀ (scene : Scene) (tokens : List Token),
      scene.sequence (Token.withoutRepeatsAll tokens) = scene.sequence tokens) ∧
    ∀ (text : String) (before after : List Lexeme) (m : Modifier) (pattern : Pattern),
      Lexeme.scan text.toList = before ++ .modifier m :: after → compile text = .ok pattern →
      ∃ other, compile (String.ofList ((before ++ .modifier m :: .modifier m :: after).flatMap
          Lexeme.spelling)) = .ok other ∧
        (∀ name settings, other.format name settings = pattern.format name settings) ∧
        ∀ names style settings terms,
          NameList.format other names style settings terms =
            NameList.format pattern names style settings terms := by
  refine ⟨Modifier.apply_apply, ?_, Scene.sequence_withoutRepeatsAll, ?_⟩
  · intro before behind m s
    simp only [Modifier.applyAll_append, Modifier.applyAll_cons, Modifier.apply_apply]
  · intro text before after m pattern hscan h
    rw [← String.ofList_toList (s := text)] at h
    obtain ⟨tokens', hok, hsame⟩ := readFrom_repeated hscan (readFrom_of_compile h)
    refine ⟨_, compile_of_readFrom hok, ?_, ?_⟩
    · intro name settings
      calc formatTokens tokens' name settings
          = formatTokens (Token.withoutRepeatsAll tokens') name settings :=
            (formatTokens_withoutRepeatsAll tokens' name settings).symm
        _ = formatTokens (Token.withoutRepeatsAll pattern.tokens) name settings := by rw [hsame]
        _ = formatTokens pattern.tokens name settings :=
            formatTokens_withoutRepeatsAll pattern.tokens name settings
    · intro names style settings terms
      calc NameList.formatTokens tokens' names style settings terms
          = NameList.formatTokens (Token.withoutRepeatsAll tokens') names style settings terms :=
            (NameList.formatTokens_withoutRepeatsAll tokens' names style settings terms).symm
        _ = NameList.formatTokens (Token.withoutRepeatsAll pattern.tokens) names style settings
              terms := by rw [hsame]
        _ = NameList.formatTokens pattern.tokens names style settings terms :=
            NameList.formatTokens_withoutRepeatsAll pattern.tokens names style settings terms

/-- In `t-F(g)` a group is capitalized behind a condition, and `t-FF(g)` gives the same.  The
first capital of `ŉo` makes two characters, and the second makes none. -/
theorem repeated_modifier_changes_nothing_before_group :
    let title : Token := .component ⟨.single .title, false⟩
    let given : Token := .group [.component ⟨.single .given, false⟩]
    let once : Pattern :=
      ⟨"t-F(g)", [title, .conditional .afterContent (.modified [.capitalize] given)]⟩
    let twice : Pattern :=
      ⟨"t-FF(g)", [title, .conditional .afterContent (.modified [.capitalize, .capitalize] given)]⟩
    compile "t-F(g)" = .ok once ∧ compile "t-FF(g)" = .ok twice ∧
      (∀ name settings, twice.format name settings = once.format name settings) ∧
      Modifier.capitalize.apply "ŉo" = "ʼNo" ∧
      Modifier.capitalize.apply (Modifier.capitalize.apply "ŉo") = "ʼNo" := by
  intro title given once twice
  have hscan : Lexeme.scan "t-F(g)".toList = [.component 't' false, .condition .afterContent] ++
      .modifier .capitalize :: [.opening, .component 'g' false, .closing] := by
    decide +kernel
  have hscanTwice : Lexeme.scan "t-FF(g)".toList =
      [.component 't' false, .condition .afterContent, .modifier .capitalize,
        .modifier .capitalize, .opening, .component 'g' false, .closing] := by
    decide +kernel
  have honce : compile "t-F(g)" = .ok once := by
    rw [compile, hscan]
    rfl
  have htwice : compile "t-FF(g)" = .ok twice := by
    rw [compile, hscanTwice]
    rfl
  obtain ⟨htext, -, -, hpattern⟩ := repeated_modifier_changes_nothing
  obtain ⟨other, (hother : compile "t-FF(g)" = .ok other), hformat, -⟩ :=
    hpattern "t-F(g)" _ _ _ once hscan honce
  rw [htwice] at hother
  cases hother
  have hcapital : Modifier.capitalize.apply "ŉo" = "ʼNo" := by decide +kernel
  exact ⟨honce, htwice, hformat, hcapital, (htext _ _).trans hcapital⟩

end Pattern
end PersonalNames
