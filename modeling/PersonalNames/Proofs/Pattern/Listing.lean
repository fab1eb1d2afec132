import Mathlib.Data.List.Basic
import PersonalNames.Pattern.Listing
import PersonalNames.Proofs.Text.Quoting

/-! # A listing tells the tokens

A listing writes a tree of tokens as lines, and the tree can be read off them.  A line tells
the depth of its token, since no label starts with a space, and from the label what the token
is, but for the tokens inside it (`head_eq_of_label_eq`).  These follow on deeper lines, up to
the first line that is not deeper; so the lines of a token are told from what follows them,
also where a group is empty (`eq_of_nodes_append`).

A literal is quoted, so whatever it holds, it does not begin another line: there are as many
lines as there are tokens in the tree.
-/
namespace PersonalNames

/-! ## Names -/

theorem Modifier.ofName?_name (m : Modifier) : ofName? m.name = some m := by
  cases m <;> decide

theorem Condition.ofName?_name (c : Condition) : ofName? c.name = some c := by
  cases c <;> decide

theorem Component.id_inj {kind other : Component} (h : kind.id = other.id) : kind = other := by
  have hback := ofId?_id kind
  rw [h, ofId?_id] at hback
  exact (Option.some.inj hback).symm

theorem Modifier.name_inj {m other : Modifier} (h : m.name = other.name) : m = other := by
  have hback := ofName?_name m
  rw [h, ofName?_name] at hback
  exact (Option.some.inj hback).symm

theorem Condition.name_inj {c other : Condition} (h : c.name = other.name) : c = other := by
  have hback := ofName?_name c
  rw [h, ofName?_name] at hback
  exact (Option.some.inj hback).symm

namespace Text

/-- A text of letters. -/
def IsLetters (s : String) : Prop :=
  ∀ c ∈ s.toList, c.isAlpha = true

/-- What may follow letters: nothing, or a text that starts with another sign. -/
def EndsLetters (s : String) : Prop :=
  ∀ c ∈ s.toList.head?, c.isAlpha = false

instance (s : String) : Decidable (IsLetters s) :=
  List.decidableBAll (fun c : Char => c.isAlpha = true) s.toList

instance (s : String) : Decidable (EndsLetters s) :=
  Option.decidableForallMem s.toList.head?

theorem head?_toList_append {s : String} (h : s.toList ≠ []) (t : String) :
    (s ++ t).toList.head? = s.toList.head? := by
  obtain ⟨c, rest, hs⟩ := List.exists_cons_of_ne_nil h
  rw [String.toList_append, hs]
  rfl

theorem EndsLetters.append {s : String} (h : EndsLetters s) (hne : s.toList ≠ []) (t : String) :
    EndsLetters (s ++ t) := by
  unfold EndsLetters
  rwa [head?_toList_append hne]

/-- A text that does not begin with another differs from whatever does. -/
theorem ne_append_of_not_prefix {s t : String} (h : ¬ t.toList <+: s.toList) (rest : String) :
    s ≠ t ++ rest := by
  rintro rfl
  rw [String.toList_append] at h
  exact h (List.prefix_append _ _)

/-- Letters are told from what follows them. -/
theorem letters_append_inj {s t x y : String} (hs : IsLetters s) (ht : IsLetters t)
    (hx : EndsLetters x) (hy : EndsLetters y) (h : s ++ x = t ++ y) : s = t ∧ x = y := by
  rw [← String.toList_inj, String.toList_append, String.toList_append] at h
  have hcut := append_inj_of_stop (fun c => !c.isAlpha) (by simpa [IsLetters] using hs)
    (by simpa [IsLetters] using ht) (by simpa [EndsLetters] using hx)
    (by simpa [EndsLetters] using hy) h
  exact ⟨String.toList_inj.1 hcut.1, String.toList_inj.1 hcut.2⟩

theorem isLine_of_isLetters {s : String} (h : IsLetters s) : IsLine s.toList := by
  have hbreaks : lineBreaks.all (fun c => !c.isAlpha) = true := by decide
  intro c hc hbreak
  have hother := List.all_eq_true.1 hbreaks c hbreak
  rw [h c hc] at hother
  cases hother

end Text

/-! ## Labels -/

theorem Component.isLetters_id (kind : Component) : Text.IsLetters kind.id := by
  cases kind <;> decide

theorem Modifier.isLetters_name (m : Modifier) : Text.IsLetters m.name := by
  cases m <;> decide

theorem Condition.isLetters_name (c : Condition) : Text.IsLetters c.name := by
  cases c <;> decide

/-- How it is shown that a component stands as its initial. -/
def Reference.suffix (reference : Reference) : String :=
  if reference.isInitial then " (initial)" else ""

namespace Reference

open Text

theorem endsLetters_suffix (reference : Reference) : EndsLetters reference.suffix := by
  unfold suffix
  split <;> decide

theorem isInitial_of_suffix {reference other : Reference} (h : reference.suffix = other.suffix) :
    reference.isInitial = other.isInitial := by
  unfold suffix at h
  cases hfirst : reference.isInitial <;> cases hsecond : other.isInitial <;>
    simp [hfirst, hsecond] at h ⊢

theorem isLine_suffix (reference : Reference) : IsLine reference.suffix.toList := by
  unfold suffix
  split <;> decide

/-- One kind is told from two: what follows the first is not the same. -/
theorem suffix_ne_or (reference : Reference) (rest : String) :
    reference.suffix ≠ " or " ++ rest := by
  unfold suffix
  split <;> exact ne_append_of_not_prefix (by decide) rest

/-- The kind that the words for a component start with. -/
def first (reference : Reference) : Component :=
  match reference.source with
  | .single kind => kind
  | .either first _ => first

/-- What stands behind the first kind in the words for a component. -/
def behindFirst (reference : Reference) : String :=
  match reference.source with
  | .single _ => reference.suffix
  | .either _ second => " or " ++ (second.id ++ reference.suffix)

theorem words_suffix (reference : Reference) :
    reference.source.words ++ reference.suffix = reference.first.id ++ reference.behindFirst := by
  unfold first behindFirst
  cases reference.source with
  | single kind => rfl
  | either first second => rw [Source.words, String.append_assoc, String.append_assoc]

theorem endsLetters_behindFirst (reference : Reference) : EndsLetters reference.behindFirst := by
  unfold behindFirst
  split
  · exact reference.endsLetters_suffix
  · exact EndsLetters.append (by decide) (by decide) _

theorem isLine_behindFirst (reference : Reference) : IsLine reference.behindFirst.toList := by
  unfold behindFirst
  split
  · exact reference.isLine_suffix
  · next second _ =>
    have hsecond := isLine_of_isLetters second.isLetters_id
    exact isLine_toList_append (by decide) (isLine_toList_append hsecond reference.isLine_suffix)

theorem isLine_words (reference : Reference) :
    IsLine (reference.source.words ++ reference.suffix).toList := by
  rw [words_suffix]
  have hfirst := isLine_of_isLetters reference.first.isLetters_id
  exact isLine_toList_append hfirst reference.isLine_behindFirst

/-- The words for a component tell it. -/
theorem eq_of_words {reference other : Reference}
    (h : reference.source.words ++ reference.suffix = other.source.words ++ other.suffix) :
    reference = other := by
  rw [words_suffix, words_suffix] at h
  obtain ⟨hid, hbehind⟩ := letters_append_inj (Component.isLetters_id _) (Component.isLetters_id _)
    reference.endsLetters_behindFirst other.endsLetters_behindFirst h
  have hfirst := Component.id_inj hid
  have hsuffix := reference.endsLetters_suffix
  have hsuffix' := other.endsLetters_suffix
  obtain ⟨source, isInitial⟩ := reference
  obtain ⟨source', isInitial'⟩ := other
  cases source with
  | single kind =>
    cases source' with
    | single kind' =>
      obtain rfl : kind = kind' := hfirst
      obtain rfl : isInitial = isInitial' := isInitial_of_suffix hbehind
      rfl
    | either first second => exact absurd hbehind (suffix_ne_or _ _)
  | either first second =>
    cases source' with
    | single kind => exact absurd hbehind.symm (suffix_ne_or _ _)
    | either first' second' =>
      obtain ⟨hsecond, hend⟩ := letters_append_inj second.isLetters_id second'.isLetters_id
        hsuffix hsuffix' ((String.append_right_inj _).1 hbehind)
      obtain rfl : first = first' := hfirst
      obtain rfl : second = second' := Component.id_inj hsecond
      obtain rfl : isInitial = isInitial' := isInitial_of_suffix hend
      rfl

end Reference

namespace Modifier

open Text

/-- What stands behind a modifier in a list of modifiers. -/
def closing : List Modifier → String
  | [] => "]"
  | m :: ms => ", " ++ (m.name ++ closing ms)

theorem intercalate_names (m : Modifier) (ms : List Modifier) :
    String.intercalate ", " ((m :: ms).map name) ++ "]" = m.name ++ closing ms := by
  induction ms generalizing m with
  | nil => rw [List.map_singleton, String.intercalate_singleton, closing]
  | cons next ms ih =>
    have hne : (next :: ms).map name ≠ [] := List.cons_ne_nil _ _
    rw [List.map_cons, String.intercalate_cons_of_ne_nil hne, String.append_assoc, ih,
      String.append_assoc, closing]

theorem endsLetters_closing (ms : List Modifier) : EndsLetters (closing ms) := by
  cases ms with
  | nil => decide
  | cons m ms => exact EndsLetters.append (by decide) (by decide) _

theorem isLine_closing (ms : List Modifier) : IsLine (closing ms).toList := by
  induction ms with
  | nil => decide
  | cons m ms ih =>
    have hname := isLine_of_isLetters m.isLetters_name
    exact isLine_toList_append (by decide) (isLine_toList_append hname ih)

theorem isLine_names (ms : List Modifier) :
    IsLine (String.intercalate ", " (ms.map name) ++ "]").toList := by
  cases ms with
  | nil => decide
  | cons m ms =>
    rw [intercalate_names]
    have hname := isLine_of_isLetters m.isLetters_name
    exact isLine_toList_append hname (isLine_closing ms)

theorem closing_inj {ms others : List Modifier} (h : closing ms = closing others) :
    ms = others := by
  have hapart := ne_append_of_not_prefix (by decide : ¬ ", ".toList <+: "]".toList)
  induction ms generalizing others with
  | nil =>
    cases others with
    | nil => rfl
    | cons other others => exact absurd h (hapart _)
  | cons m ms ih =>
    cases others with
    | nil => exact absurd h.symm (hapart _)
    | cons other others =>
      obtain ⟨hname, hrest⟩ := letters_append_inj m.isLetters_name other.isLetters_name
        (endsLetters_closing ms) (endsLetters_closing others) ((String.append_right_inj _).1 h)
      rw [name_inj hname, ih hrest]

/-- The list of their names tells the modifiers. -/
theorem eq_of_names {ms others : List Modifier}
    (h : String.intercalate ", " (ms.map name) ++ "]" =
      String.intercalate ", " (others.map name) ++ "]") : ms = others := by
  have hapart (m : Modifier) (ms : List Modifier) : "]" ≠ m.name ++ closing ms :=
    ne_append_of_not_prefix (by cases m <;> decide) _
  cases ms with
  | nil =>
    cases others with
    | nil => rfl
    | cons other others =>
      rw [intercalate_names] at h
      exact absurd h (hapart other others)
  | cons m ms =>
    rw [intercalate_names] at h
    cases others with
    | nil => exact absurd h.symm (hapart m ms)
    | cons other others =>
      rw [intercalate_names] at h
      obtain ⟨hname, hrest⟩ := letters_append_inj m.isLetters_name other.isLetters_name
        (endsLetters_closing ms) (endsLetters_closing others) h
      rw [name_inj hname, closing_inj hrest]

end Modifier

/-- A token without the tokens inside it. -/
inductive Head where
  | component (reference : Reference)
  | literal (text : String)
  | separator (index : Nat)
  | group
  | modified (modifiers : List Modifier)
  | conditional (condition : Condition)

instance : Inhabited Head :=
  ⟨.group⟩

/-- The letter that the label of a token begins with. -/
def Head.letter : Head → Char
  | component _ => 'c'
  | literal _ => 'l'
  | separator _ => 's'
  | group => 'g'
  | modified _ => 'm'
  | conditional _ => 'i'

namespace Token

open Text

/-- What a token is, apart from the tokens inside it. -/
def head : Token → Head
  | .component reference => .component reference
  | .literal text => .literal text
  | .separator index => .separator index
  | .group _ => .group
  | .modified modifiers _ => .modified modifiers
  | .conditional condition _ => .conditional condition

theorem label_component (reference : Reference) :
    label (.component reference) =
      "component " ++ (reference.source.words ++ reference.suffix) :=
  String.append_assoc

theorem label_modified (modifiers : List Modifier) (token : Token) :
    label (.modified modifiers token) =
      "modified [" ++ (String.intercalate ", " (modifiers.map Modifier.name) ++ "]") :=
  String.append_assoc

theorem head?_label (token : Token) : token.label.toList.head? = some token.head.letter := by
  cases token with
  | component reference =>
    rw [label_component]
    exact head?_toList_append (by decide) _
  | literal text => exact head?_toList_append (by decide) _
  | separator index => exact head?_toList_append (by decide) _
  | group tokens => exact (by decide : "group".toList.head? = some 'g')
  | modified modifiers token =>
    rw [label_modified]
    exact head?_toList_append (by decide) _
  | conditional condition token => exact head?_toList_append (by decide) _

/-- **A label tells what a token is.** -/
theorem head_eq_of_label_eq {token other : Token} (h : token.label = other.label) :
    token.head = other.head := by
  have hletter : token.head.letter = other.head.letter := by
    rw [← Option.some_inj, ← head?_label, ← head?_label, h]
  cases token with
  | component reference =>
    cases other with
    | component reference' =>
      rw [label_component, label_component, String.append_right_inj] at h
      exact congrArg Head.component (Reference.eq_of_words h)
    | _ => simp [head, Head.letter] at hletter
  | literal text =>
    cases other with
    | literal text' =>
      exact congrArg Head.literal (quoted_inj.1 ((String.append_right_inj _).1 h))
    | _ => simp [head, Head.letter] at hletter
  | separator index =>
    cases other with
    | separator index' =>
      have hindex : index.repr = index'.repr := (String.append_right_inj _).1 h
      rw [← String.toList_inj, Nat.toList_repr, Nat.toList_repr] at hindex
      exact congrArg Head.separator (toDigits_inj (by decide) (by decide) hindex)
    | _ => simp [head, Head.letter] at hletter
  | group tokens =>
    cases other with
    | group tokens' => rfl
    | _ => simp [head, Head.letter] at hletter
  | modified modifiers token =>
    cases other with
    | modified modifiers' token' =>
      rw [label_modified, label_modified, String.append_right_inj] at h
      exact congrArg Head.modified (Modifier.eq_of_names h)
    | _ => simp [head, Head.letter] at hletter
  | conditional condition token =>
    cases other with
    | conditional condition' token' =>
      have hname : condition.name = condition'.name := (String.append_right_inj _).1 h
      exact congrArg Head.conditional (Condition.name_inj hname)
    | _ => simp [head, Head.letter] at hletter

/-- A label stands on one line, also where it shows a literal. -/
theorem isLine_label (token : Token) : IsLine token.label.toList := by
  cases token with
  | component reference =>
    rw [label_component]
    exact isLine_toList_append (by decide) reference.isLine_words
  | literal text => exact isLine_toList_append (by decide) (isLine_quoted text)
  | separator index => exact isLine_toList_append (by decide) (isLine_repr index)
  | group tokens => exact (by decide : IsLine "group".toList)
  | modified modifiers token =>
    rw [label_modified]
    exact isLine_toList_append (by decide) (Modifier.isLine_names modifiers)
  | conditional condition token =>
    exact isLine_toList_append (by decide) (isLine_of_isLetters condition.isLetters_name)

/-! ## Lines -/

/-- The line of a node. -/
def line (node : Nat × Token) : String :=
  String.ofList (List.replicate (2 * node.1) ' ') ++ node.2.label

theorem isLine_line (node : Nat × Token) : IsLine (line node).toList := by
  apply isLine_toList_append _ node.2.isLine_label
  rw [String.toList_ofList]
  intro c hc
  rw [List.eq_of_mem_replicate hc]
  decide

/-- A node as its line shows it. -/
def shown (node : Nat × Token) : Nat × Head :=
  (node.1, node.2.head)

theorem listing_eq_map (depth : Nat) (tokens : List Token) :
    listing depth tokens = (nodesOfAll depth tokens).map line :=
  rfl

theorem isLine_of_mem_listing {depth : Nat} {tokens : List Token} :
    ∀ l ∈ listing depth tokens, IsLine l.toList := by
  rw [listing_eq_map]
  intro l hl
  obtain ⟨node, -, rfl⟩ := List.mem_map.1 hl
  exact isLine_line node

/-- A line tells the depth of a token and what the token is. -/
theorem shown_eq_of_line_eq {node other : Nat × Token} (h : line node = line other) :
    shown node = shown other := by
  have hindent (n : Nat) : ∀ c ∈ List.replicate n ' ', (c != ' ') = false := by
    intro c hc
    rw [List.eq_of_mem_replicate hc]
    rfl
  have hlabel (token : Token) : ∀ c ∈ token.label.toList.head?, (c != ' ') = true := by
    intro c hc
    rw [head?_label] at hc
    cases hc
    cases token <;> rfl
  unfold line at h
  rw [← String.toList_inj, String.toList_append, String.toList_append, String.toList_ofList,
    String.toList_ofList] at h
  obtain ⟨hspaces, hrest⟩ := append_inj_of_stop (· != ' ') (hindent _) (hindent _)
    (hlabel node.2) (hlabel other.2) h
  have hlength := congrArg List.length hspaces
  simp only [List.length_replicate] at hlength
  have hdepth : node.1 = other.1 := by omega
  exact Prod.ext hdepth (head_eq_of_label_eq (String.toList_inj.1 hrest))

/-- Listings that are equal show the same nodes. -/
theorem map_shown_eq_of_listing_eq {depth depth' : Nat} {tokens others : List Token}
    (h : listing depth tokens = listing depth' others) :
    (nodesOfAll depth tokens).map shown = (nodesOfAll depth' others).map shown := by
  have hfactors : Function.FactorsThrough shown line := fun _ _ => shown_eq_of_line_eq
  obtain ⟨read, hread⟩ := (Function.factorsThrough_iff shown).1 hfactors
  rw [hread, ← List.map_map, ← List.map_map, ← listing_eq_map, ← listing_eq_map, h]

/-! ## Trees -/

/-- The nodes inside a token. -/
def inside (depth : Nat) : Token → List (Nat × Token)
  | .group tokens => nodesOfAll (depth + 1) tokens
  | .modified _ token => nodes (depth + 1) token
  | .conditional _ token => nodes (depth + 1) token
  | _ => []

theorem nodes_eq_cons (depth : Nat) (token : Token) :
    nodes depth token = (depth, token) :: inside depth token := by
  cases token <;> rfl

/-- What may follow the tokens at a depth: nothing, or a node that is less deep. -/
def Leaves (depth : Nat) (rest : List (Nat × Head)) : Prop :=
  ∀ node ∈ rest.head?, node.1 < depth

theorem Leaves.succ {depth : Nat} {rest : List (Nat × Head)} (h : Leaves depth rest) :
    Leaves (depth + 1) rest :=
  fun node hnode => Nat.lt_succ_of_lt (h node hnode)

/-- Behind a token come others of its depth, or what is less deep. -/
theorem leaves_nodesOfAll {depth : Nat} {rest : List (Nat × Head)} (h : Leaves depth rest)
    (tokens : List Token) :
    Leaves (depth + 1) ((nodesOfAll depth tokens).map shown ++ rest) := by
  cases tokens with
  | nil => exact h.succ
  | cons token tokens =>
    rw [nodesOfAll, nodes_eq_cons]
    rintro node ⟨⟩
    exact Nat.lt_succ_self depth

mutual

/-- The nodes of a token tell it, and where they end. -/
theorem eq_of_nodes_append : ∀ (token other : Token) {depth : Nat} {rest rest' : List (Nat × Head)},
    Leaves (depth + 1) rest → Leaves (depth + 1) rest' →
    (nodes depth token).map shown ++ rest = (nodes depth other).map shown ++ rest' →
      token = other ∧ rest = rest'
  | .component reference, other, depth, rest, rest', _, _, h => by
    rw [nodes_eq_cons depth other] at h
    obtain ⟨hnode, hrest⟩ := List.cons.inj h
    cases other with
    | component reference' =>
      cases hnode
      exact ⟨rfl, hrest⟩
    | _ => cases hnode
  | .literal text, other, depth, rest, rest', _, _, h => by
    rw [nodes_eq_cons depth other] at h
    obtain ⟨hnode, hrest⟩ := List.cons.inj h
    cases other with
    | literal text' =>
      cases hnode
      exact ⟨rfl, hrest⟩
    | _ => cases hnode
  | .separator index, other, depth, rest, rest', _, _, h => by
    rw [nodes_eq_cons depth other] at h
    obtain ⟨hnode, hrest⟩ := List.cons.inj h
    cases other with
    | separator index' =>
      cases hnode
      exact ⟨rfl, hrest⟩
    | _ => cases hnode
  | .group tokens, other, depth, rest, rest', hleaves, hleaves', h => by
    rw [nodes_eq_cons depth other] at h
    obtain ⟨hnode, hrest⟩ := List.cons.inj h
    cases other with
    | group others =>
      obtain ⟨rfl, rfl⟩ := eq_of_nodesOfAll_append tokens others hleaves hleaves' hrest
      exact ⟨rfl, rfl⟩
    | _ => cases hnode
  | .modified modifiers token, other, depth, rest, rest', hleaves, hleaves', h => by
    rw [nodes_eq_cons depth other] at h
    obtain ⟨hnode, hrest⟩ := List.cons.inj h
    cases other with
    | modified modifiers' other =>
      cases hnode
      obtain ⟨rfl, rfl⟩ := eq_of_nodes_append token other hleaves.succ hleaves'.succ hrest
      exact ⟨rfl, rfl⟩
    | _ => cases hnode
  | .conditional condition token, other, depth, rest, rest', hleaves, hleaves', h => by
    rw [nodes_eq_cons depth other] at h
    obtain ⟨hnode, hrest⟩ := List.cons.inj h
    cases other with
    | conditional condition' other =>
      cases hnode
      obtain ⟨rfl, rfl⟩ := eq_of_nodes_append token other hleaves.succ hleaves'.succ hrest
      exact ⟨rfl, rfl⟩
    | _ => cases hnode

/-- So do the nodes of several tokens. -/
theorem eq_of_nodesOfAll_append : ∀ (tokens others : List Token) {depth : Nat}
    {rest rest' : List (Nat × Head)}, Leaves depth rest → Leaves depth rest' →
    (nodesOfAll depth tokens).map shown ++ rest = (nodesOfAll depth others).map shown ++ rest' →
      tokens = others ∧ rest = rest'
  | [], [], _, _, _, _, _, h => ⟨rfl, h⟩
  | [], other :: others, depth, rest, rest', hleaves, _, h => by
    rw [nodesOfAll, nodesOfAll, nodes_eq_cons, List.map_nil, List.nil_append] at h
    subst h
    exact absurd (hleaves _ rfl) (Nat.lt_irrefl depth)
  | token :: tokens, [], depth, rest, rest', _, hleaves', h => by
    rw [nodesOfAll, nodesOfAll, nodes_eq_cons, List.map_nil, List.nil_append] at h
    subst h
    exact absurd (hleaves' _ rfl) (Nat.lt_irrefl depth)
  | token :: tokens, other :: others, depth, rest, rest', hleaves, hleaves', h => by
    rw [nodesOfAll, nodesOfAll, List.map_append, List.map_append, List.append_assoc,
      List.append_assoc] at h
    obtain ⟨rfl, hbehind⟩ := eq_of_nodes_append token other (leaves_nodesOfAll hleaves tokens)
      (leaves_nodesOfAll hleaves' others) h
    obtain ⟨rfl, rfl⟩ := eq_of_nodesOfAll_append tokens others hleaves hleaves' hbehind
    exact ⟨rfl, rfl⟩

end

/-- **No two sequences of tokens have the same listing.** -/
theorem listing_inj {depth : Nat} {tokens others : List Token} :
    listing depth tokens = listing depth others ↔ tokens = others := by
  constructor
  · intro h
    have hleaves : Leaves depth [] := fun _ hnode => nomatch hnode
    have hnodes := congrArg (· ++ []) (map_shown_eq_of_listing_eq h)
    exact (eq_of_nodesOfAll_append tokens others hleaves hleaves hnodes).1
  · rintro rfl
    rfl

/-! ## The number of lines -/

mutual

/-- The number of tokens in a token, itself included. -/
def size : Token → Nat
  | .group tokens => sizeAll tokens + 1
  | .modified _ token => size token + 1
  | .conditional _ token => size token + 1
  | _ => 1

/-- The number of tokens in a sequence, at any depth. -/
def sizeAll : List Token → Nat
  | [] => 0
  | token :: tokens => size token + sizeAll tokens

end

mutual

theorem length_nodes : ∀ (depth : Nat) (token : Token), (nodes depth token).length = token.size
  | _, .component _ | _, .literal _ | _, .separator _ => rfl
  | depth, .group tokens => congrArg (· + 1) (length_nodesOfAll (depth + 1) tokens)
  | depth, .modified _ token => congrArg (· + 1) (length_nodes (depth + 1) token)
  | depth, .conditional _ token => congrArg (· + 1) (length_nodes (depth + 1) token)

theorem length_nodesOfAll : ∀ (depth : Nat) (tokens : List Token),
    (nodesOfAll depth tokens).length = sizeAll tokens
  | _, [] => rfl
  | depth, token :: tokens => by
    rw [nodesOfAll, List.length_append, length_nodes depth token, length_nodesOfAll depth tokens,
      sizeAll]

end

/-- A listing has one line for each token, at any depth. -/
theorem length_listing (depth : Nat) (tokens : List Token) :
    (listing depth tokens).length = sizeAll tokens := by
  rw [listing_eq_map, List.length_map, length_nodesOfAll]

end Token
end PersonalNames
