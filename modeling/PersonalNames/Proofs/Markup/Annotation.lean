import PersonalNames.Proofs.Markup.Modes
import PersonalNames.Proofs.Pattern.Decisions

/-! # The spans of components

In the mode `html` the components of a name are annotated: each stands in a span of
its class.  `Html.spans` reads the spans off an HTML text, and `Scene.shown` follows
the tokens of a sequence and lists the components that are shown.

A group under modifiers is rewritten: the modifiers take its text, and the spans in it
are lost.  `spans_toHtml_format` says that this is the only way to lose a span.  The
spans in the HTML of a formatted name are, in order, those of the components shown
outside of rewritten groups, each with the class of the kind that was found and with
the text of the component.  So there is one span for each component shown exactly if
none is shown in a rewritten group. -/
namespace PersonalNames

/-! ## Reading spans -/

namespace Html

/-- The text in front of a mark; all of it where the mark does not occur. -/
def before (mark : List Char) : List Char → List Char
  | [] => []
  | c :: rest => if mark.isPrefixOf (c :: rest) then [] else c :: before mark rest

/-- The beginning of a tag that opens a span of a class. -/
def spanOpening : List Char :=
  '<' :: "span class=\"".toList

/-- The tag that closes a span. -/
def spanClosing : List Char :=
  '<' :: "/span>".toList

/-- The class and the content of the span that opens here, if one does. -/
def spanAt? (s : List Char) : Option (String × String) :=
  if spanOpening.isPrefixOf s then
    let tag := s.drop spanOpening.length
    let className := before ['"'] tag
    let content := before spanClosing (tag.drop (className.length + 2))
    some (String.ofList className, String.ofList content)
  else none

/-- The spans of a text, given by its characters. -/
def spansFrom : List Char → List (String × String)
  | [] => []
  | c :: rest => (spanAt? (c :: rest)).toList ++ spansFrom rest

/-- The spans of an HTML text in the order in which they open, each with its class
and its content. -/
def spans (s : String) : List (String × String) :=
  spansFrom s.toList

/-- A mark ends the text in front of it if that text lacks the mark's first character. -/
theorem before_append {c : Char} {a : List Char} (h : c ∉ a) (mark rest : List Char) :
    before (c :: mark) (a ++ (c :: mark ++ rest)) = a := by
  induction a with
  | nil => simp [before]
  | cons d a ih =>
    obtain ⟨hd, ha⟩ := not_or.1 (mt List.mem_cons.2 h)
    have hnot : (c :: mark).isPrefixOf (d :: (a ++ (c :: mark ++ rest))) = false := by
      simp [List.isPrefixOf, hd]
    rw [List.cons_append, before, hnot, ih ha]
    rfl

/-- A text has the given spans, whatever stands behind it. -/
def HasSpans (s : String) (found : List (String × String)) : Prop :=
  ∀ rest, spansFrom (s.toList ++ rest) = found ++ spansFrom rest

theorem HasSpans.spans_eq {s : String} {found : List (String × String)} (h : HasSpans s found) :
    spans s = found := by
  have hall := h []
  rwa [List.append_nil, spansFrom, List.append_nil] at hall

theorem hasSpans_empty : HasSpans "" [] := by
  intro rest
  rfl

theorem HasSpans.append {s t : String} {found others : List (String × String)}
    (hs : HasSpans s found) (ht : HasSpans t others) : HasSpans (s ++ t) (found ++ others) := by
  intro rest
  rw [String.toList_append, List.append_assoc, hs, ht, List.append_assoc]

/-- Where there is no angle bracket in front of an `s`, no span opens. -/
theorem spanAt?_of_not_prefix {s : List Char} (h : ¬ ['<', 's'] <+: s) : spanAt? s = none := by
  have hnot : ¬ spanOpening <+: s := fun hbegin =>
    h (List.IsPrefix.trans ⟨"pan class=\"".toList, rfl⟩ hbegin)
  rw [spanAt?, if_neg (mt List.isPrefixOf_iff_prefix.1 hnot)]

/-- No span opens where there is no angle bracket. -/
theorem spansFrom_of_not_mem {s : List Char} (h : '<' ∉ s) (rest : List Char) :
    spansFrom (s ++ rest) = spansFrom rest := by
  induction s with
  | nil => rfl
  | cons c s ih =>
    obtain ⟨hc, hs⟩ := not_or.1 (mt List.mem_cons.2 h)
    have hnone : spanAt? (c :: (s ++ rest)) = none :=
      spanAt?_of_not_prefix fun hbegin => hc (List.cons_prefix_cons.1 hbegin).1
    rw [List.cons_append, spansFrom, hnone, ih hs]
    rfl

theorem hasSpans_escape (s : String) : HasSpans (escape s) [] :=
  spansFrom_of_not_mem (isText_escape s).not_mem.1

/-- A tag whose name does not start with an `s` opens no span. -/
theorem hasSpans_tag {s : String} {c : Char} {tag : List Char} (hs : s.toList = '<' :: c :: tag)
    (hc : 's' ≠ c) (htag : '<' ∉ c :: tag) : HasSpans s [] := by
  intro rest
  have hnone : spanAt? ('<' :: (c :: tag ++ rest)) = none :=
    spanAt?_of_not_prefix fun hbegin =>
      hc (List.cons_prefix_cons.1 (List.cons_prefix_cons.1 hbegin).2).1
  rw [hs, List.cons_append, spansFrom, hnone, spansFrom_of_not_mem htag]
  rfl

theorem hasSpans_linkTag (url : String) : HasSpans (linkTag url) [] := by
  have hopen : HasSpans "<a href=\"" [] := hasSpans_tag rfl (by decide) (by decide)
  have hend : HasSpans "\">" [] := spansFrom_of_not_mem (by decide)
  exact (hopen.append (hasSpans_escape url)).append hend

section
variable {className content : List Char} (hclass : '"' ∉ className) (hcontent : '<' ∉ content)
include hclass hcontent

/-- The span that opens in front of a class, a content and a closing tag. -/
theorem spanAt?_span (rest : List Char) :
    spanAt? (spanOpening ++ (className ++ ('"' :: '>' :: (content ++ (spanClosing ++ rest))))) =
      some (String.ofList className, String.ofList content) := by
  have hbegin (tag : List Char) : spanOpening.isPrefixOf (spanOpening ++ tag) = true :=
    List.isPrefixOf_iff_prefix.2 (List.prefix_append _ _)
  have hname : before ['"'] (className ++ ('"' :: '>' :: (content ++ (spanClosing ++ rest)))) =
      className := before_append hclass [] _
  have hinner : before spanClosing (content ++ (spanClosing ++ rest)) = content :=
    before_append hcontent "/span>".toList rest
  have htag : (className ++ ('"' :: '>' :: (content ++ (spanClosing ++ rest)))).drop
      (className.length + 2) = content ++ (spanClosing ++ rest) := by
    rw [← List.drop_drop, List.drop_left]
    rfl
  rw [spanAt?, if_pos (hbegin _)]
  simp only [List.drop_left, hname, htag, hinner]

/-- Class, content and closing tag make one span: no other opens up to its end. -/
theorem spansFrom_span (hname : '<' ∉ className) (rest : List Char) :
    spansFrom (spanOpening ++ (className ++ ('"' :: '>' :: (content ++ (spanClosing ++ rest))))) =
      (String.ofList className, String.ofList content) :: spansFrom rest := by
  let behind := "span class=\"".toList ++ className ++ ['"', '>'] ++ content
  have hbehind : '<' ∉ behind := by
    have htag : '<' ∉ "span class=\"".toList ++ ['"', '>'] := by decide
    simp only [behind, List.mem_append, not_or] at htag ⊢
    exact ⟨⟨⟨htag.1, hname⟩, htag.2⟩, hcontent⟩
  have hclosing : spansFrom (spanClosing ++ rest) = spansFrom rest :=
    hasSpans_tag (s := "</span>") rfl (by decide) (by decide) rest
  have htext : spanOpening ++ (className ++ ('"' :: '>' :: (content ++ (spanClosing ++ rest)))) =
      '<' :: (behind ++ (spanClosing ++ rest)) := by
    simp [spanOpening, behind]
  have hspan := spanAt?_span hclass hcontent rest
  rw [htext] at hspan ⊢
  rw [spansFrom, hspan, spansFrom_of_not_mem hbehind, hclosing]
  rfl

end

/-- Text in the span of a component is one span. -/
theorem hasSpans_span (kind : Component) {content : String} (h : IsText content) :
    HasSpans (spanTag (Scene.className kind) ++ content ++ "</span>")
      [(Scene.className kind, content)] := by
  intro rest
  have hclass : '"' ∉ (Scene.className kind).toList := by cases kind <;> decide
  have hname : '<' ∉ (Scene.className kind).toList := by cases kind <;> decide
  have hspan := spansFrom_span hclass h.not_mem.1 hname rest
  rw [String.ofList_toList, String.ofList_toList] at hspan
  have htext : (spanTag (Scene.className kind) ++ content ++ "</span>").toList ++ rest =
      spanOpening ++ ((Scene.className kind).toList ++
        ('"' :: '>' :: (content.toList ++ (spanClosing ++ rest)))) := by
    simp only [spanTag, String.toList_append, List.append_assoc]
    rfl
  rw [htext, hspan]
  rfl

end Html

/-! ## The components that are shown -/

/-- A component that is shown, with its kind and its text. -/
structure ShownComponent where
  kind : Component
  text : String
  /-- Whether it is shown in a group under modifiers. -/
  isRewritten : Bool := false
deriving DecidableEq, Repr

namespace ShownComponent

/-- The component as part of a group that is rewritten. -/
def rewritten (c : ShownComponent) : ShownComponent :=
  { c with isRewritten := true }

/-- The span of a component: its class, and its text in HTML. -/
def span (c : ShownComponent) : String × String :=
  (Scene.className c.kind, Html.escape c.text)

/-- The spans of the components that are not part of a rewritten group. -/
def spans (shown : List ShownComponent) : List (String × String) :=
  (shown.filter fun c => !c.isRewritten).map span

theorem spans_append (shown others : List ShownComponent) :
    spans (shown ++ others) = spans shown ++ spans others := by
  simp [spans]

theorem spans_rewritten (shown : List ShownComponent) : spans (shown.map rewritten) = [] := by
  simp [spans, rewritten]

/-- There is a span for each component if none is part of a rewritten group. -/
theorem length_spans_eq_iff (shown : List ShownComponent) :
    (spans shown).length = shown.length ↔ ∀ c ∈ shown, c.isRewritten = false := by
  rw [spans, List.length_map, List.length_filter_eq_length_iff]
  simp

end ShownComponent

namespace Scene

variable (scene : Scene)

/-- The component that a reference under modifiers shows, if it gives any text. -/
def shownComponent (reference : Reference) (modifiers : List Modifier) : List ShownComponent :=
  match scene.resolve? reference.source with
  | none => []
  | some (kind, _) =>
    let text := (scene.componentPiece reference modifiers).text
    if text = "" then [] else [{ kind, text }]

mutual

/-- The components that a token shows where it is shown itself. -/
def shownBy : Token → List ShownComponent
  | .component reference => scene.shownComponent reference []
  | .literal _ => []
  | .separator _ => []
  | .group tokens => shownAmong (scene.decisions tokens) tokens
  | .modified modifiers (.component reference) => scene.shownComponent reference modifiers
  | .modified _ token => (shownBy token).map ShownComponent.rewritten
  | .conditional _ token => shownBy token

/-- The components that tokens show of which some are shown. -/
def shownAmong : List Bool → List Token → List ShownComponent
  | true :: decisions, token :: tokens => shownBy token ++ shownAmong decisions tokens
  | false :: decisions, _ :: tokens => shownAmong decisions tokens
  | _, _ => []

end

theorem shownBy_modified {token : Token} (h : ∀ reference, token ≠ .component reference)
    (modifiers : List Modifier) :
    scene.shownBy (.modified modifiers token) =
      (scene.shownBy token).map ShownComponent.rewritten := by
  cases token with
  | component reference => exact absurd rfl (h reference)
  | _ => rfl

/-- The components that a sequence of tokens shows, at any depth and in order. -/
def shown (tokens : List Token) : List ShownComponent :=
  scene.shownAmong (scene.decisions tokens) tokens

/-! ## Shown components are present -/

/-- The kind that a source finds is one that the name has. -/
theorem get?_of_resolve? {source : Source} {kind : Component} {value : String}
    (h : scene.resolve? source = some (kind, value)) : scene.name.get? kind = some value := by
  have honly {only : Component}
      (hfound : (scene.name.get? only).map (only, ·) = some (kind, value)) :
      scene.name.get? kind = some value := by
    obtain ⟨_, hvalue, hpair⟩ := Option.map_eq_some_iff.1 hfound
    cases hpair
    exact hvalue
  cases source with
  | single only => exact honly h
  | either first second =>
    rcases Option.or_eq_some_iff.1 h with h | ⟨-, h⟩
    · exact honly h
    · exact honly h

theorem isSome_of_mem_shownComponent {reference : Reference} {modifiers : List Modifier}
    {c : ShownComponent} (h : c ∈ scene.shownComponent reference modifiers) :
    (scene.name.get? c.kind).isSome := by
  unfold shownComponent at h
  split at h
  · cases h
  · next kind value hfound =>
    dsimp only at h
    split at h
    · cases h
    · cases List.mem_singleton.1 h
      rw [scene.get?_of_resolve? hfound]
      rfl

theorem isSome_of_mem_rewritten {shown : List ShownComponent}
    (h : ∀ c ∈ shown, (scene.name.get? c.kind).isSome) :
    ∀ c ∈ shown.map ShownComponent.rewritten, (scene.name.get? c.kind).isSome := by
  intro c hmem
  obtain ⟨inner, hinner, rfl⟩ := List.mem_map.1 hmem
  exact h inner hinner

mutual

theorem isSome_of_mem_shownBy (token : Token) :
    ∀ c ∈ scene.shownBy token, (scene.name.get? c.kind).isSome := by
  cases token with
  | component reference => exact fun c h => scene.isSome_of_mem_shownComponent h
  | literal text => exact fun c h => absurd h List.not_mem_nil
  | separator index => exact fun c h => absurd h List.not_mem_nil
  | group tokens => exact isSome_of_mem_shownAmong (scene.decisions tokens) tokens
  | modified modifiers token =>
    rcases token.component_or_other with ⟨reference, rfl⟩ | hother
    · exact fun c h => scene.isSome_of_mem_shownComponent h
    · rw [scene.shownBy_modified hother]
      exact scene.isSome_of_mem_rewritten (isSome_of_mem_shownBy token)
  | conditional condition token => exact isSome_of_mem_shownBy token

theorem isSome_of_mem_shownAmong (decisions : List Bool) (tokens : List Token) :
    ∀ c ∈ scene.shownAmong decisions tokens, (scene.name.get? c.kind).isSome := by
  match decisions, tokens with
  | [], [] => exact fun c h => absurd h List.not_mem_nil
  | [], _ :: _ => exact fun c h => absurd h List.not_mem_nil
  | true :: _, [] => exact fun c h => absurd h List.not_mem_nil
  | false :: _, [] => exact fun c h => absurd h List.not_mem_nil
  | true :: decisions, token :: tokens =>
    intro c h
    rcases List.mem_append.1 h with h | h
    · exact isSome_of_mem_shownBy token c h
    · exact isSome_of_mem_shownAmong decisions tokens c h
  | false :: decisions, _ :: tokens => exact isSome_of_mem_shownAmong decisions tokens

end

/-- A name without components shows none. -/
theorem shown_of_isEmpty (h : scene.name.isEmpty = true) (tokens : List Token) :
    scene.shown tokens = [] := by
  rw [List.eq_nil_iff_forall_not_mem]
  intro c hmem
  have hsome := scene.isSome_of_mem_shownAmong _ tokens c hmem
  have hnone := List.all_eq_true.1 h c.kind (by cases c.kind <;> decide)
  rw [Option.isNone_iff_eq_none] at hnone
  rw [hnone] at hsome
  cases hsome

end Scene

/-! ## The spans of a sequence -/

namespace Scene

open Html

section
variable {scene : Scene} (h : scene.format = .semanticHtml)
include h

theorem hasSpans_textPiece (text : String) : HasSpans (scene.textPiece text).output [] := by
  rw [textPiece, h]
  exact hasSpans_escape text

/-- A component is one span if it has text. -/
theorem hasSpans_componentPiece (reference : Reference) (modifiers : List Modifier) :
    HasSpans (scene.componentPiece reference modifiers).output
      (ShownComponent.spans (scene.shownComponent reference modifiers)) := by
  unfold shownComponent componentPiece
  cases scene.resolve? reference.source with
  | none => exact hasSpans_empty
  | some found =>
    obtain ⟨kind, value⟩ := found
    have houtput (text : String) : scene.format.semantic (className kind)
        (scene.format.text text) = enclose (spanTag (className kind)) "</span>" (escape text) := by
      rw [h]
      rfl
    dsimp only
    rw [houtput]
    generalize (if reference.isInitial then _ else _ : String) = text
    by_cases htext : text = ""
    · rw [if_pos htext, enclose, if_pos ((escape_eq_empty_iff text).2 htext)]
      exact hasSpans_empty
    · rw [if_neg htext, enclose, if_neg (mt (escape_eq_empty_iff text).1 htext)]
      exact hasSpans_span kind (isText_escape text)

/-- A token that is rewritten as a whole has no spans. -/
theorem hasSpans_rewritten (text : String) (shown : List ShownComponent) :
    HasSpans (scene.textPiece text).output
      (ShownComponent.spans (shown.map ShownComponent.rewritten)) := by
  rw [ShownComponent.spans_rewritten]
  exact hasSpans_textPiece h text

end

mutual

/-- **One token**: its output has the spans of the components that it shows. -/
theorem hasSpans_piece {scene : Scene} (h : scene.format = .semanticHtml) (token : Token) :
    HasSpans (scene.piece token).output (ShownComponent.spans (scene.shownBy token)) := by
  cases token with
  | component reference => exact hasSpans_componentPiece h reference []
  | literal text => exact hasSpans_textPiece h text
  | separator index => exact hasSpans_textPiece h _
  | group tokens =>
    have hkeep := hasSpans_keep h (scene.decisions tokens) tokens
    rw [← scene.sequence_eq_keep] at hkeep
    exact hkeep
  | modified modifiers token =>
    -- A component takes its modifiers itself; of all else only the text is used.
    rcases token.component_or_other with ⟨reference, rfl⟩ | hother
    · exact hasSpans_componentPiece h reference modifiers
    · rw [scene.piece_modified hother, scene.shownBy_modified hother]
      exact hasSpans_rewritten h _ _
  | conditional condition token => exact hasSpans_piece h token

/-- **All tokens of a sequence**: what is kept of them has the spans of the components
that are shown among them. -/
theorem hasSpans_keep {scene : Scene} (h : scene.format = .semanticHtml)
    (decisions : List Bool) (tokens : List Token) :
    HasSpans (Piece.keep decisions (scene.pieces tokens)).output
      (ShownComponent.spans (scene.shownAmong decisions tokens)) := by
  match decisions, tokens with
  | [], [] => exact hasSpans_empty
  | [], _ :: _ => exact hasSpans_empty
  | true :: _, [] => exact hasSpans_empty
  | false :: _, [] => exact hasSpans_empty
  | true :: decisions, token :: tokens =>
    rw [shownAmong, ShownComponent.spans_append]
    exact (hasSpans_piece h token).append (hasSpans_keep h decisions tokens)
  | false :: decisions, _ :: tokens => exact hasSpans_keep h decisions tokens

end

end Scene

/-! ## The spans of a formatted name -/

namespace Pattern

open Html

/-- A link adds no spans to its content. -/
theorem hasSpans_linked {name : PersonName} {html : String} {found : List (String × String)}
    (h : HasSpans html found) (hempty : name.isEmpty = true → found = []) :
    HasSpans (linked name html) found := by
  unfold linked
  split
  · next hname =>
    rw [hempty hname]
    exact hasSpans_empty
  · split
    · next url _ =>
      unfold enclose
      split
      · next hhtml => rwa [hhtml] at h
      · have hclose : HasSpans "</a>" [] := hasSpans_tag rfl (by decide) (by decide)
        have hlink := ((hasSpans_linkTag url).append h).append hclose
        rwa [List.nil_append, List.append_nil] at hlink
    · exact h

/-- **Every component is annotated that is not rewritten with its group.**  In the
mode `html` the spans of a formatted name are those of the components shown outside
of groups under modifiers, in order, each with its class and text; and there are as
many spans as components shown exactly if no component is shown in such a group. -/
theorem spans_toHtml_format {settings : Settings} (h : settings.markup = .html)
    (pattern : Pattern) (name : PersonName) :
    let shown := Scene.shown ⟨.semanticHtml, name, settings⟩ pattern.tokens
    spans (format pattern name settings).toHtml =
        (shown.filter fun c => !c.isRewritten).map ShownComponent.span ∧
      ((spans (format pattern name settings).toHtml).length = shown.length ↔
        ∀ c ∈ shown, c.isRewritten = false) ∧
      ((∀ c ∈ shown, c.isRewritten = false) →
        spans (format pattern name settings).toHtml = shown.map ShownComponent.span) := by
  intro shown
  have hcontent : HasSpans (content pattern.tokens name settings).toHtml
      (ShownComponent.spans shown) := by
    let scene : Scene := ⟨.semanticHtml, name, settings⟩
    have hsequence := @Scene.hasSpans_keep scene rfl (scene.decisions pattern.tokens) pattern.tokens
    rw [← Scene.sequence_eq_keep] at hsequence
    unfold content
    rw [h]
    exact hsequence
  have hnone : name.isEmpty = true → ShownComponent.spans shown = [] := fun hname =>
    congrArg ShownComponent.spans (Scene.shown_of_isEmpty _ hname pattern.tokens)
  have hspans : spans (format pattern name settings).toHtml = ShownComponent.spans shown := by
    rw [format, toHtml_formatTokens]
    exact (hasSpans_linked hcontent hnone).spans_eq
  refine ⟨hspans, ?_, ?_⟩
  · rw [hspans]
    exact ShownComponent.length_spans_eq_iff shown
  · intro hall
    rw [hspans, ShownComponent.spans, List.filter_eq_self.2]
    intro c hmem
    rw [hall c hmem]
    rfl

/-- In `(t+iTE)` the name stands in the span of the given name, which stands in for the
family name. -/
theorem spans_toHtml_format_fallback :
    let tokens : List Token := [.group [.component ⟨.single .title, false⟩,
      .conditional .both (.separator 1),
      .modified [.trim] (.component ⟨.either .family .given, false⟩)]]
    let name : PersonName := { title := some "Dr", given := some " Tom" }
    let settings : Settings := { markup := .html }
    compile "(t+iTE)" = .ok ⟨"(t+iTE)", tokens⟩ ∧ settings.markup = .html ∧
      spans (format ⟨"(t+iTE)", tokens⟩ name settings).toHtml =
        [("name-title", "Dr"), ("name-given", "Tom")] := by
  intro tokens name settings
  have hshown : Scene.shown ⟨.semanticHtml, name, settings⟩ tokens =
      [{ kind := .title, text := "Dr" }, { kind := .given, text := "Tom" }] := by decide +kernel
  have hmarkup : settings.markup = .html := rfl
  have hspans := (spans_toHtml_format hmarkup ⟨"(t+iTE)", tokens⟩ name).1
  refine ⟨rfl, hmarkup, ?_⟩
  rw [hspans, hshown]
  decide

/-- In `T(g)` the given name is shown, and there is no span. -/
theorem not_spans_of_rewritten_group :
    let pattern : Pattern :=
      ⟨"T(g)", [.modified [.trim] (.group [.component ⟨.single .given, false⟩])]⟩
    let name : PersonName := { given := some "John" }
    let settings : Settings := { markup := .html }
    compile "T(g)" = .ok pattern ∧
      Scene.shown ⟨.semanticHtml, name, settings⟩ pattern.tokens =
        [{ kind := .given, text := "John", isRewritten := true }] ∧
      (format pattern name settings).toHtml = "John" ∧
      (spans (format pattern name settings).toHtml).length ≠
        (Scene.shown ⟨.semanticHtml, name, settings⟩ pattern.tokens).length := by
  intro pattern name settings
  have hhtml : (format pattern name settings).toHtml = "John" := by decide +kernel
  refine ⟨rfl, by decide +kernel, hhtml, ?_⟩
  rw [hhtml]
  decide +kernel

end Pattern
end PersonalNames
