import PersonalNames.Configuration.Builtin
import PersonalNames.Proofs.Pattern.Grammar
import PersonalNames.Pattern.Evaluation

/-! # Chains of joined components

A chain is a component followed by links, each of which is a separator under `+`
and a component.  It is written flat, as in `t+ig+if`, or with all but its last
link in parentheses, as in `(t+ig)+if`; the builtin patterns are written in the
second way.  Either way it shows its components one after the other with their
separators between those that have a text (`joined`), so that no separator stands
at an end or beside another one (`joinParts_eq`). -/
namespace PersonalNames
namespace Pattern

/-! ## Chains and how they are written -/

/-- A name in plain text. -/
abbrev plainScene (name : PersonName) (settings : Settings) : Scene :=
  ⟨.plain, name, settings⟩

/-- A component as a pattern writes it. -/
structure WrittenComponent where
  code : Char
  reference : Reference
  known : (code, reference) ∈ Grammar.components := by decide
  /-- Whether a star asks for the initial. -/
  starred : Bool := false
  modifiers : List Modifier := []

namespace WrittenComponent

variable (c : WrittenComponent)

/-- The text of a component in a pattern. -/
def text : List Char :=
  c.modifiers.map Modifier.code ++ c.code :: if c.starred then ['*'] else []

/-- The component that is shown, or its initial. -/
def shown : Reference :=
  { c.reference with isInitial := c.starred || c.reference.isInitial }

/-- The token of a component. -/
def token : Token :=
  ({ modifiers := c.modifiers } : Marks).wrap (.component c.shown)

/-- The text that a component shows of a name. -/
def value (name : PersonName) : String :=
  ((plainScene name {}).componentPiece c.shown c.modifiers).text

end WrittenComponent

/-- A component with the separator that joins it to those before it. -/
structure Link where
  separator : Char
  index : Nat
  separator_known : (separator, index) ∈ Grammar.separators := by decide
  component : WrittenComponent

namespace Link

variable (link : Link)

/-- The text of a link in a pattern. -/
def text : List Char :=
  '+' :: link.separator :: link.component.text

/-- The tokens of a link. -/
def tokens : List Token :=
  [.conditional .both (.separator link.index), link.component.token]

end Link

/-- A component and the links behind it. -/
structure Chain where
  first : WrittenComponent
  links : List Link

namespace Chain

/-- Text with links behind it, where all but the last link stand in parentheses
with what is before them. -/
def nestText (inner : List Char) : List Link → List Char
  | [] => inner
  | [link] => inner ++ link.text
  | link :: next :: links => nestText ('(' :: ((inner ++ link.text) ++ [')'])) (next :: links)

/-- A token with links behind it, where all but the last link stand in a group with
what is before them. -/
def nestTokens (inner : Token) : List Link → List Token
  | [] => [inner]
  | [link] => inner :: link.tokens
  | link :: next :: links => nestTokens (.group (inner :: link.tokens)) (next :: links)

variable (chain : Chain)

/-- The text of a chain without parentheses. -/
def flatText : String :=
  String.ofList (chain.first.text ++ chain.links.flatMap Link.text)

/-- The tokens of a chain without groups. -/
def flatTokens : List Token :=
  chain.first.token :: chain.links.flatMap Link.tokens

/-- The text of a chain that is nested to the left. -/
def nestedText : String :=
  String.ofList (nestText chain.first.text chain.links)

/-- The tokens of a chain that is nested to the left. -/
def nestedTokens : List Token :=
  nestTokens chain.first.token chain.links

end Chain

/-! ## What a chain shows -/

/-- A text joined to what is before it.  No text changes nothing, and the separator is
put between two texts only. -/
def joinText (soFar separator value : String) : String :=
  if value = "" then soFar
  else if soFar = "" then value
  else soFar ++ separator ++ value

/-- Separators and texts, joined one by one to what is before them. -/
def joinParts (soFar : String) (parts : List (String × String)) : String :=
  parts.foldl (fun soFar part => joinText soFar part.1 part.2) soFar

/-- The separator of a link and the text of its component. -/
def Link.part (link : Link) (name : PersonName) (settings : Settings) : String × String :=
  (settings.separator link.index, link.component.value name)

namespace Chain

/-- The texts of the components of a chain, with the separators in front of them. -/
def parts (chain : Chain) (name : PersonName) (settings : Settings) : List (String × String) :=
  ("", chain.first.value name) :: chain.links.map fun link => link.part name settings

/-- The texts of the components of a chain, joined from the left. -/
def joined (chain : Chain) (name : PersonName) (settings : Settings) : String :=
  joinParts "" (chain.parts name settings)

end Chain

theorem joinParts_cons (soFar : String) (part : String × String) (parts : List (String × String)) :
    joinParts soFar (part :: parts) = joinParts (joinText soFar part.1 part.2) parts :=
  rfl

/-- Behind a text, each part that has a text shows its separator and its text. -/
theorem joinParts_of_ne_empty {soFar : String} (h : soFar ≠ "") (parts : List (String × String)) :
    joinParts soFar parts = soFar ++
      String.join ((parts.filter fun part => part.2 ≠ "").map fun part => part.1 ++ part.2) := by
  induction parts generalizing soFar with
  | nil => simp [joinParts]
  | cons part parts ih =>
    rw [joinParts_cons]
    by_cases hpart : part.2 = ""
    · simp [joinText, hpart, ih h]
    · have hne : soFar ++ part.1 ++ part.2 ≠ "" :=
        mt (fun h => (String.append_eq_empty_iff.1 h).2) hpart
      rw [joinText, if_neg hpart, if_neg h, ih hne]
      simp [hpart, String.append_assoc]

/-- **Separators stand between texts only**: of the parts that have a text, the first
shows its text, and each other one its separator and its text. -/
theorem joinParts_eq (parts : List (String × String)) :
    joinParts "" parts =
      match parts.filter fun part => part.2 ≠ "" with
      | [] => ""
      | first :: others => first.2 ++ String.join (others.map fun part => part.1 ++ part.2) := by
  induction parts with
  | nil => rfl
  | cons part parts ih =>
    rw [joinParts_cons]
    by_cases hpart : part.2 = ""
    · simp [joinText, hpart, ih]
    · simp [joinText, hpart, joinParts_of_ne_empty hpart]

-- Whatever is missing, what is left is joined by one separator at a time.
example : joinParts "" [("", ""), (" ", "John"), (" ", ""), (" ", "Smith"), (", ", "")] =
    "John Smith" := by
  rfl

/-! ## Chains are compiled as they are written -/

namespace Chain

open Grammar

theorem item_text (c : WrittenComponent) {rest : List Char} (h : rest.head? ≠ some '*') :
    Item c.text rest c.token := by
  have hbase : Base (c.code :: if c.starred then ['*'] else []) rest (.component c.shown) := by
    unfold WrittenComponent.shown
    cases hstar : c.starred with
    | true => exact .starred rest c.known
    | false => exact .component c.known h
  exact item_of_base hbase { modifiers := c.modifiers }

/-- A link in front of a sequence. -/
theorem sequence_link (link : Link) {more rest : List Char} {tokens : List Token}
    (hstar : (more ++ rest).head? ≠ some '*') (h : Sequence more rest tokens) :
    Sequence (link.text ++ more) rest (link.tokens ++ tokens) := by
  have hseparator : Item ['+', link.separator] ((link.component.text ++ more) ++ rest)
      (.conditional .both (.separator link.index)) :=
    .conditional .both (.separator _ link.separator_known)
  have hcomponent : Item link.component.text (more ++ rest) link.component.token :=
    item_text link.component hstar
  have hlink : Sequence (['+', link.separator] ++ (link.component.text ++ more)) rest
      (link.tokens ++ tokens) := .cons hseparator (.cons hcomponent h)
  exact hlink

theorem head?_flatMap_text (links : List Link) : (links.flatMap Link.text).head? ≠ some '*' := by
  cases links with
  | nil => simp
  | cons link links => simp [Link.text]

theorem sequence_links (links : List Link) :
    Sequence (links.flatMap Link.text) [] (links.flatMap Link.tokens) := by
  induction links with
  | nil => exact .nil []
  | cons link links ih =>
    have hstar : (links.flatMap Link.text ++ []).head? ≠ some '*' := by
      rw [List.append_nil]
      exact head?_flatMap_text links
    exact sequence_link link hstar ih

theorem token_ne_literal (c : WrittenComponent) (text : String) : c.token ≠ .literal text := by
  unfold WrittenComponent.token Marks.wrap
  by_cases h : c.modifiers.isEmpty <;> simp [h]

theorem fuse_cons_links {inner : Token} (hinner : ∀ text, inner ≠ .literal text)
    (links : List Link) :
    fuse (inner :: links.flatMap Link.tokens) = inner :: links.flatMap Link.tokens := by
  apply fuse_eq_self
  intro token htoken text
  rcases List.mem_cons.1 htoken with rfl | htoken
  · exact hinner text
  · obtain ⟨link, -, hlink⟩ := List.mem_flatMap.1 htoken
    simp only [Link.tokens, List.mem_cons, List.not_mem_nil, or_false] at hlink
    rcases hlink with rfl | rfl
    · intro h
      cases h
    · exact token_ne_literal link.component text

/-- One link behind an item. -/
theorem sequence_cons_link {inner : List Char} {token : Token}
    (hitem : ∀ rest, rest.head? ≠ some '*' → Item inner rest token) (link : Link)
    {rest : List Char} (hstar : rest.head? ≠ some '*') :
    Sequence (inner ++ link.text) rest (token :: link.tokens) := by
  have hlink : Sequence (link.text ++ []) rest (link.tokens ++ []) :=
    sequence_link link hstar (.nil rest)
  rw [List.append_nil, List.append_nil] at hlink
  exact .cons (hitem (link.text ++ rest) (by simp [Link.text])) hlink

/-- What is nested around an item is a sequence that needs no fusing. -/
theorem sequence_nest {inner : List Char} {token : Token} (links : List Link)
    (hitem : ∀ rest, rest.head? ≠ some '*' → Item inner rest token)
    (htoken : ∀ text, token ≠ .literal text) :
    Sequence (nestText inner links) [] (nestTokens token links) ∧
      fuse (nestTokens token links) = nestTokens token links := by
  fun_induction nestTokens token links generalizing inner with
  | case1 token =>
    have hsingle := Sequence.cons (hitem ([] ++ []) (by simp)) (.nil [])
    rw [List.append_nil] at hsingle
    exact ⟨hsingle, fuse_cons_links htoken []⟩
  | case2 token link =>
    refine ⟨sequence_cons_link hitem link (by simp), ?_⟩
    simpa using fuse_cons_links htoken [link]
  | case3 token link next links ih =>
    have hgroup (rest : List Char) :
        Item ('(' :: ((inner ++ link.text) ++ [')'])) rest (.group (token :: link.tokens)) := by
      have hinside : Sequence (inner ++ link.text) (')' :: rest) (token :: link.tokens) :=
        sequence_cons_link hitem link (by simp)
      have hfuse : fuse (token :: link.tokens) = token :: link.tokens := by
        simpa using fuse_cons_links htoken [link]
      rw [← hfuse]
      exact .bare (.group hinside)
    exact ih (fun rest _ => hgroup rest) (by simp)

/-- **A chain is compiled as it is written**, flat or nested. -/
theorem compile_chain (chain : Chain) :
    Pattern.compile chain.flatText = .ok ⟨chain.flatText, chain.flatTokens⟩ ∧
      Pattern.compile chain.nestedText = .ok ⟨chain.nestedText, chain.nestedTokens⟩ := by
  have hfirst (rest : List Char) (hstar : rest.head? ≠ some '*') :
      Item chain.first.text rest chain.first.token := item_text chain.first hstar
  constructor
  · apply compile_of_derives
    refine ⟨chain.flatTokens, ?_, (fuse_cons_links (token_ne_literal chain.first) _).symm⟩
    have hstar : (chain.links.flatMap Link.text ++ []).head? ≠ some '*' := by
      rw [List.append_nil]
      exact head?_flatMap_text chain.links
    rw [flatText, String.toList_ofList]
    exact .cons (hfirst _ hstar) (sequence_links chain.links)
  · apply compile_of_derives
    obtain ⟨hsequence, hfuse⟩ := sequence_nest chain.links hfirst (token_ne_literal chain.first)
    refine ⟨chain.nestedTokens, ?_, hfuse.symm⟩
    rw [nestedText, String.toList_ofList]
    exact hsequence

end Chain

/-! ## Chains are evaluated as joins -/

/-- A piece of plain text. -/
def plainPiece (s : String) : Piece :=
  ⟨s, s⟩

namespace Chain

variable (name : PersonName) (settings : Settings)

/-- The text of a component does not depend on the settings. -/
theorem componentPiece_eq (reference : Reference) (modifiers : List Modifier) :
    (plainScene name settings).componentPiece reference modifiers =
      plainPiece ((plainScene name {}).componentPiece reference modifiers).text := by
  have hresolve : (plainScene name settings).resolve? reference.source =
      (plainScene name {}).resolve? reference.source := rfl
  unfold Scene.componentPiece
  rw [hresolve]
  cases (plainScene name {}).resolve? reference.source with
  | none => rfl
  | some found => rfl

theorem piece_token (c : WrittenComponent) :
    (plainScene name settings).piece c.token = plainPiece (c.value name) := by
  have hpiece : (plainScene name settings).componentPiece c.shown c.modifiers =
      plainPiece (c.value name) := componentPiece_eq name settings c.shown c.modifiers
  rw [← hpiece]
  unfold WrittenComponent.token Marks.wrap
  by_cases h : c.modifiers = [] <;> simp [h, Scene.piece]

theorem condition?_token (c : WrittenComponent) : c.token.condition? = none := by
  unfold WrittenComponent.token Marks.wrap
  by_cases h : c.modifiers.isEmpty <;> simp [h, Token.condition?]

/-- **One link at a time**: the separator is shown between two texts only. -/
theorem assembleFrom_link (soFar separator value : String) (previousEmpty : Bool)
    (rest : List (Option Condition × Piece)) :
    Piece.assembleFrom (plainPiece soFar) previousEmpty
        ((some .both, plainPiece separator) :: (none, plainPiece value) :: rest) =
      Piece.assembleFrom (plainPiece (joinText soFar separator value)) (value = "") rest := by
  unfold joinText
  by_cases hvalue : value = ""
  · simp [Piece.assembleFrom, Piece.isShown, Condition.holds, Piece.headHasContent, Piece.isEmpty,
      plainPiece, Piece.append, hvalue]
  · by_cases hsoFar : soFar = ""
    · simp [Piece.assembleFrom, Piece.isShown, Condition.holds, Piece.headHasContent,
        Piece.isEmpty, plainPiece, Piece.append, hvalue, hsoFar]
    · simp [Piece.assembleFrom, Piece.isShown, Condition.holds, Piece.headHasContent,
        Piece.isEmpty, plainPiece, Piece.append, hvalue, hsoFar]

/-- **All links**, behind what has been put together so far. -/
theorem assembleFrom_links (soFar : String) (previousEmpty : Bool) (links : List Link) :
    Piece.assembleFrom (plainPiece soFar) previousEmpty
        ((plainScene name settings).pieces (links.flatMap Link.tokens)) =
      plainPiece (joinParts soFar (links.map fun link => link.part name settings)) := by
  induction links generalizing soFar previousEmpty with
  | nil => rfl
  | cons link links ih =>
    have hpieces : (plainScene name settings).pieces ((link :: links).flatMap Link.tokens) =
        (some .both, plainPiece (settings.separator link.index)) ::
          (none, plainPiece (link.component.value name)) ::
            (plainScene name settings).pieces (links.flatMap Link.tokens) := by
      simp only [List.flatMap_cons, Link.tokens, List.cons_append, List.nil_append, Scene.pieces,
        condition?_token, piece_token]
      rfl
    rw [hpieces, assembleFrom_link, ih]
    rfl

/-- A token without a condition and the links behind it. -/
theorem sequence_cons_links {token : Token} (links : List Link) {s : String}
    (hcondition : token.condition? = none)
    (hpiece : (plainScene name settings).piece token = plainPiece s) :
    (plainScene name settings).sequence (token :: links.flatMap Link.tokens) =
      plainPiece (joinParts s (links.map fun link => link.part name settings)) := by
  have hfirst : (plainScene name settings).sequence (token :: links.flatMap Link.tokens) =
      Piece.assembleFrom (Piece.empty.append (plainPiece s)) (plainPiece s).isEmpty
        ((plainScene name settings).pieces (links.flatMap Link.tokens)) := by
    unfold Scene.sequence Piece.assemble
    rw [Scene.pieces, hcondition, hpiece]
    rfl
  rw [hfirst, Piece.empty_append, assembleFrom_links]

theorem sequence_nestTokens {token : Token} (links : List Link) {s : String}
    (hcondition : token.condition? = none)
    (hpiece : (plainScene name settings).piece token = plainPiece s) :
    (plainScene name settings).sequence (nestTokens token links) =
      plainPiece (joinParts s (links.map fun link => link.part name settings)) := by
  fun_induction nestTokens token links generalizing s with
  | case1 token => exact sequence_cons_links name settings [] hcondition hpiece
  | case2 token link =>
    have hlink := sequence_cons_links name settings [link] hcondition hpiece
    rwa [List.flatMap_singleton] at hlink
  | case3 token link next links ih =>
    have hlink := sequence_cons_links name settings [link] hcondition hpiece
    rw [List.flatMap_singleton] at hlink
    -- The group has the text of the sequence inside it.
    exact ih rfl hlink

/-- The first text is joined to nothing. -/
theorem joined_eq (chain : Chain) :
    chain.joined name settings = joinParts (chain.first.value name)
      (chain.links.map fun link => link.part name settings) := by
  have hfirst (value : String) : joinText "" "" value = value := by
    by_cases h : value = "" <;> simp [joinText, h]
  rw [joined, parts, joinParts_cons, hfirst]

theorem sequence_flatTokens (chain : Chain) :
    (plainScene name settings).sequence chain.flatTokens =
      plainPiece (chain.joined name settings) := by
  rw [joined_eq]
  exact sequence_cons_links name settings chain.links (condition?_token chain.first)
    (piece_token name settings chain.first)

theorem sequence_nestedTokens (chain : Chain) :
    (plainScene name settings).sequence chain.nestedTokens =
      plainPiece (chain.joined name settings) := by
  rw [joined_eq]
  exact sequence_nestTokens name settings chain.links (condition?_token chain.first)
    (piece_token name settings chain.first)

end Chain

/-! ## Formatting by a chain -/

/-- A text as the markup of a name: plain, with the link of the name around it if
there is one, and if there is text. -/
def linkedText (name : PersonName) (text : String) : Markup :=
  match name.target? with
  | some url => if text = "" then .plain text else .hyperlink url (.plain text)
  | none => .plain text

theorem toText_linkedText (name : PersonName) (text : String) :
    (linkedText name text).toText = text := by
  unfold linkedText
  split
  · split <;> rfl
  · rfl

/-- In the mode `none` a name is its plain output. -/
theorem formatTokens_none (tokens : List Token) (name : PersonName) (settings : Settings)
    (h : name.isEmpty = true → (output .plain tokens name { settings with markup := .none }) = "") :
    formatTokens tokens name { settings with markup := .none } =
      linkedText name (output .plain tokens name { settings with markup := .none }) := by
  unfold formatTokens linkedText
  by_cases hname : name.isEmpty = true
  · rw [if_pos hname, h hname]
    split <;> rfl
  · rw [if_neg hname]
    cases name.target? with
    | none => rfl
    | some url => simp [content, Markup.isEmpty]

namespace Chain

theorem value_of_isEmpty {name : PersonName} (h : name.isEmpty = true) (c : WrittenComponent) :
    c.value name = "" := by
  have hget (kind : Component) : name.get? kind = none := by
    have hkind := List.all_eq_true.1 h kind (by cases kind <;> decide)
    simpa using hkind
  have hresolve : (plainScene name {}).resolve? c.shown.source = none := by
    cases c.shown.source <;> simp [Scene.resolve?, hget]
  unfold WrittenComponent.value Scene.componentPiece
  rw [hresolve]
  rfl

theorem joined_of_isEmpty {name : PersonName} (h : name.isEmpty = true) (chain : Chain)
    (settings : Settings) : chain.joined name settings = "" := by
  have hnone : (chain.parts name settings).filter (fun part => part.2 ≠ "") = [] := by
    simp [parts, Link.part, value_of_isEmpty h]
  rw [joined, joinParts_eq, hnone]

/-- A pattern that shows what a chain shows formats a name to it. -/
theorem format_of_sequence {chain : Chain} {name : PersonName} {settings : Settings}
    {pattern : Pattern}
    (h : (plainScene name { settings with markup := .none }).sequence pattern.tokens =
      plainPiece (chain.joined name settings)) :
    pattern.format name { settings with markup := .none } =
        linkedText name (chain.joined name settings) ∧
      (pattern.format name { settings with markup := .none }).toText =
        chain.joined name settings := by
  have houtput : output .plain pattern.tokens name { settings with markup := .none } =
      chain.joined name settings := congrArg Piece.output h
  have hformat : pattern.format name { settings with markup := .none } =
      linkedText name (chain.joined name settings) := by
    unfold Pattern.format
    rw [formatTokens_none, houtput]
    intro hname
    rw [houtput, joined_of_isEmpty hname]
  exact ⟨hformat, by rw [hformat, toText_linkedText]⟩

/-- The builtin patterns as chains. -/
def builtin : List Chain :=
  let title : WrittenComponent := { code := 't', reference := ⟨.single .title, false⟩ }
  let given : WrittenComponent := { code := 'g', reference := ⟨.single .given, false⟩ }
  let middle : WrittenComponent := { code := 'm', reference := ⟨.single .middle, false⟩ }
  let family : WrittenComponent := { code := 'f', reference := ⟨.single .family, false⟩ }
  let generational : WrittenComponent :=
    { code := 's', reference := ⟨.single .generational, false⟩ }
  let credentials : WrittenComponent := { code := 'c', reference := ⟨.single .credentials, false⟩ }
  let givenInitial : WrittenComponent := { code := 'x', reference := ⟨.single .given, true⟩ }
  let middleInitial : WrittenComponent := { code := 'y', reference := ⟨.single .middle, true⟩ }
  let familyInitial : WrittenComponent := { code := 'z', reference := ⟨.single .family, true⟩ }
  let first (c : WrittenComponent) : Link := { separator := 'i', index := 1, component := c }
  let second (c : WrittenComponent) : Link := { separator := 'j', index := 2, component := c }
  let full : Chain := ⟨title, [first given, first middle, first family, first generational,
    second credentials]⟩
  [full, full, ⟨family, []⟩, ⟨given, []⟩, ⟨given, [first family, first generational]⟩,
    ⟨title, [first family]⟩, ⟨title, [first given, first family, first generational]⟩,
    ⟨givenInitial, [first middleInitial, first familyInitial]⟩]

/-- **Formatting by a chain joins the texts of its components.**  The chain may be
written flat or nested to the left, and every builtin pattern is a nested chain. -/
theorem format_chain (chain : Chain) (name : PersonName) (settings : Settings) :
    (∃ pattern, Pattern.compile chain.flatText = .ok pattern ∧
      pattern.format name { settings with markup := .none } =
        linkedText name (chain.joined name settings) ∧
      (pattern.format name { settings with markup := .none }).toText =
        chain.joined name settings) ∧
    (∃ pattern, Pattern.compile chain.nestedText = .ok pattern ∧
      pattern.format name { settings with markup := .none } =
        linkedText name (chain.joined name settings) ∧
      (pattern.format name { settings with markup := .none }).toText =
        chain.joined name settings) ∧
    (chain.joined name settings =
      match (chain.parts name settings).filter fun part => part.2 ≠ "" with
      | [] => ""
      | first :: others => first.2 ++ String.join (others.map fun part => part.1 ++ part.2)) ∧
    Configuration.builtin.nameFormats.entries.map (fun entry => entry.2.pattern) =
      builtin.map nestedText := by
  obtain ⟨hflat, hnested⟩ := compile_chain chain
  -- The separators are the same in all modes.
  have hjoined : chain.joined name { settings with markup := .none } =
      chain.joined name settings := rfl
  refine ⟨⟨_, hflat, format_of_sequence ?_⟩, ⟨_, hnested, format_of_sequence ?_⟩,
    joinParts_eq _, by rfl⟩
  · rw [← hjoined]
    exact sequence_flatTokens name _ chain
  · rw [← hjoined]
    exact sequence_nestedTokens name _ chain

end Chain
end Pattern
end PersonalNames
