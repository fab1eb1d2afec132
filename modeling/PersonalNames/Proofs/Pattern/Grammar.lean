import PersonalNames.Proofs.Pattern.Reading

/-! # The grammar of patterns

The pattern language as a grammar over characters, with the token that each
phrase stands for:

* a *sequence* is any number of items;
* an *item* is a condition or none, any number of modifiers, and a base;
* a *base* is a group in parentheses, an escaped character, a separator code, a
  component code with or without a star, or a run of characters that are not
  reserved.

Runs are maximal and a star belongs to the component code in front of it, so a
phrase is derived in front of the text that follows it.  Adjacent literals of a
sequence are fused afterwards (`fuse`).

`compile_eq_ok_iff_derives` says that compiling accepts exactly this language
and gives the tokens that the grammar derives, and that these are unique.  One
direction follows a derivation (`Sequence.reads`); the other takes the state of
the pass apart into the sequences that are still open, and says what the rest of
the text must derive to complete them (`Completes`).
-/
namespace PersonalNames
namespace Grammar

/-! ## Phrases and what they stand for -/

/-- The component codes. -/
def components : List (Char × Reference) :=
  [('t', ⟨.single .title, false⟩), ('g', ⟨.single .given, false⟩), ('m', ⟨.single .middle, false⟩),
    ('f', ⟨.single .family, false⟩), ('s', ⟨.single .generational, false⟩),
    ('c', ⟨.single .credentials, false⟩), ('x', ⟨.single .given, true⟩),
    ('y', ⟨.single .middle, true⟩), ('z', ⟨.single .family, true⟩),
    ('e', ⟨.either .given .family, false⟩), ('E', ⟨.either .family .given, false⟩)]

/-- The separator codes. -/
def separators : List (Char × Nat) :=
  [('i', 1), ('j', 2), ('k', 3)]

/-- A token in front of tokens that are fused already: a literal joins a literal
behind it. -/
def join : Token → List Token → List Token
  | .literal text, .literal more :: tokens => .literal (text ++ more) :: tokens
  | token, tokens => token :: tokens

/-- Tokens with adjacent literals joined to one. -/
def fuse : List Token → List Token
  | [] => []
  | token :: tokens => join token (fuse tokens)

mutual

/-- `Base text rest token`: in front of `rest`, `text` is the base `token`. -/
inductive Base : List Char → List Char → Token → Prop
  | group {text rest : List Char} {tokens : List Token} :
      Sequence text (')' :: rest) tokens → Base ('(' :: (text ++ [')'])) rest (.group (fuse tokens))
  | escaped (c : Char) (rest : List Char) : Base ['\\', c] rest (.literal (String.ofList [c]))
  | separator {code : Char} {index : Nat} (rest : List Char) :
      (code, index) ∈ separators → Base [code] rest (.separator index)
  | component {code : Char} {reference : Reference} {rest : List Char} :
      (code, reference) ∈ components → rest.head? ≠ some '*' →
        Base [code] rest (.component reference)
  | starred {code : Char} {reference : Reference} (rest : List Char) :
      (code, reference) ∈ components →
        Base [code, '*'] rest (.component { reference with isInitial := true })
  | run {text rest : List Char} :
      text ≠ [] → (∀ c ∈ text, Lexeme.isReserved c = false) → Lexeme.EndsRun rest →
        Base text rest (.literal (String.ofList text))

/-- `Item text rest token`: in front of `rest`, `text` is a base with its
condition and its modifiers. -/
inductive Item : List Char → List Char → Token → Prop
  | bare {text rest : List Char} {token : Token} : Base text rest token → Item text rest token
  | modified {text rest : List Char} {token : Token} {modifiers : List Modifier} :
      modifiers ≠ [] → Base text rest token →
        Item (modifiers.map Modifier.code ++ text) rest (.modified modifiers token)
  | conditional {text rest : List Char} {token : Token} (condition : Condition) :
      Base text rest token → Item (condition.code :: text) rest (.conditional condition token)
  | conditionalModified {text rest : List Char} {token : Token} {modifiers : List Modifier}
      (condition : Condition) : modifiers ≠ [] → Base text rest token →
        Item (condition.code :: (modifiers.map Modifier.code ++ text)) rest
          (.conditional condition (.modified modifiers token))

/-- `Sequence text rest tokens`: in front of `rest`, `text` is a sequence of the
items `tokens`. -/
inductive Sequence : List Char → List Char → List Token → Prop
  | nil (rest : List Char) : Sequence [] rest []
  | cons {text more rest : List Char} {token : Token} {tokens : List Token} :
      Item text (more ++ rest) token → Sequence more rest tokens →
        Sequence (text ++ more) rest (token :: tokens)

end

/-- A whole text derives the fused tokens of its sequence. -/
def Derives (text : List Char) (tokens : List Token) : Prop :=
  ∃ items, Sequence text [] items ∧ tokens = fuse items

/-! ## Fusing from the left

The pass appends tokens one by one at the end; the grammar fuses from the front.
-/

theorem append_cons_cons (first second next : Token) (tokens : List Token) :
    OpenSequence.append (first :: second :: tokens) next =
      first :: OpenSequence.append (second :: tokens) next := by
  unfold OpenSequence.append
  rw [List.getLast?_cons_cons]
  split <;> rfl

/-- Appending happens at the far end of a joined token. -/
theorem append_join (token next : Token) (tokens : List Token) :
    OpenSequence.append (join token tokens) next =
      join token (OpenSequence.append tokens next) := by
  cases tokens with
  | nil => cases token <;> cases next <;> rfl
  | cons head tail =>
    cases tail with
    | nil =>
      cases token <;> cases head <;> cases next <;>
        simp [join, OpenSequence.append, String.append_assoc]
    | cons second tail =>
      rw [append_cons_cons head]
      cases token <;> cases head <;> simp [join, append_cons_cons]

theorem append_fuse (tokens : List Token) (next : Token) :
    OpenSequence.append (fuse tokens) next = fuse (tokens ++ [next]) := by
  induction tokens with
  | nil => cases next <;> rfl
  | cons token tokens ih => rw [fuse, append_join, ih, List.cons_append, fuse]

theorem foldl_append_fuse (tokens more : List Token) :
    more.foldl OpenSequence.append (fuse tokens) = fuse (tokens ++ more) := by
  induction more generalizing tokens with
  | nil => simp
  | cons token more ih =>
    rw [List.foldl_cons, append_fuse, ih, List.append_assoc, List.singleton_append]

/-- Without literals there is nothing to fuse. -/
theorem fuse_eq_self {tokens : List Token} (h : ∀ token ∈ tokens, ∀ text, token ≠ .literal text) :
    fuse tokens = tokens := by
  induction tokens with
  | nil => rfl
  | cons token tokens ih =>
    have htoken := h token (.head _)
    rw [fuse, ih fun other hother => h other (.tail _ hother)]
    cases token with
    | literal text => exact absurd rfl (htoken text)
    | _ => rfl

/-! ## The codes of the grammar are those of the scanner -/

theorem ofChar_of_mem_components {code : Char} {reference : Reference}
    (h : (code, reference) ∈ components) :
    Lexeme.ofChar code = .component code false ∧ Lexeme.source? code = some reference.source ∧
      Lexeme.isInitialCode code = reference.isInitial := by
  simp only [components, List.mem_cons, Prod.mk.injEq, List.not_mem_nil, or_false] at h
  rcases h with h | h | h | h | h | h | h | h | h | h | h
  all_goals
    obtain ⟨rfl, rfl⟩ := h
    decide

theorem mem_components_of_source? {code : Char} {source : Source}
    (h : Lexeme.source? code = some source) :
    (code, ⟨source, Lexeme.isInitialCode code⟩) ∈ components := by
  unfold Lexeme.source? at h
  split at h <;> cases h <;> decide

theorem ofChar_of_mem_separators {code : Char} {index : Nat} (h : (code, index) ∈ separators) :
    Lexeme.ofChar code = .separator index := by
  simp only [separators, List.mem_cons, Prod.mk.injEq, List.not_mem_nil, or_false] at h
  rcases h with h | h | h
  all_goals
    obtain ⟨rfl, rfl⟩ := h
    decide

theorem mem_separators_of_ofChar {code : Char} {index : Nat}
    (h : Lexeme.ofChar code = .separator index) : (code, index) ∈ separators := by
  cases Lexeme.single_of_ofChar h with
  | separator hs =>
    unfold Lexeme.separator? at hs
    split at hs <;> cases hs <;> decide

/-! ## A derived text is read -/

open Pattern

/-- Without marks, tokens that are pushed one by one are appended. -/
theorem foldl_push {s : State} (h : s.inner.marks = {}) (tokens : List Token) :
    tokens.foldl State.push s =
      { s with inner := { tokens := tokens.foldl OpenSequence.append s.inner.tokens } } := by
  induction tokens generalizing s with
  | nil =>
    obtain ⟨⟨_, marks⟩, _⟩ := s
    cases h
    rfl
  | cons token tokens ih =>
    rw [List.foldl_cons, List.foldl_cons, ih (State.push_inner_marks s token)]
    simp [State.push, OpenSequence.push, h]

/-- A base behind its marks is read as the item. -/
theorem reads_item {text rest : List Char} {token : Token}
    (hbase : ∀ s, Reads s text rest (s.push token)) {s : State} (h : s.inner.marks = {})
    (m : Marks) : Reads s (m.codes ++ text) rest (s.push (m.wrap token)) := by
  have hcodes := reads_codes h m (text ++ rest)
  have htoken := hbase (s.mark m)
  rw [State.push_mark h] at htoken
  exact hcodes.trans htoken

theorem reads_component {code : Char} {reference : Reference}
    (h : (code, reference) ∈ components) (starred : Bool) (s : State) :
    s.read (.component code starred) =
      .ok (s.push (.component { reference with isInitial := starred || reference.isInitial })) := by
  obtain ⟨_, hsource, hinitial⟩ := ofChar_of_mem_components h
  simp [State.read, componentToken, hsource, hinitial]

mutual

/-- Reading a base adds its token to the innermost sequence. -/
theorem Base.reads {text rest : List Char} {token : Token} :
    Base text rest token → ∀ s, Reads s text rest (s.push token)
  | @Base.group text _ tokens h, s => by
    have hopen : Reads s ['('] (text ++ [')'] ++ rest) ⟨{}, s.inner :: s.outer⟩ :=
      Reads.lexeme .opening (Lexeme.fits_opening _) rfl
    have hinside := h.reads ⟨{}, s.inner :: s.outer⟩ rfl
    rw [foldl_push rfl] at hinside
    have hclose : Reads ⟨{ tokens := tokens.foldl OpenSequence.append [] }, s.inner :: s.outer⟩
        [')'] rest (s.push (.group (fuse tokens))) := by
      refine Reads.lexeme .closing (Lexeme.fits_closing rest) ?_
      rw [← List.nil_append tokens, ← foldl_append_fuse [] tokens]
      rfl
    exact hopen.trans (hinside.trans hclose)
  | .escaped c rest, s => Reads.lexeme (.escaped c) trivial rfl
  | @Base.separator code index rest h, s => by
    have hcode := ofChar_of_mem_separators h
    rw [← Lexeme.spelling_of_ofChar hcode]
    exact Reads.lexeme (.separator index) ⟨code, hcode⟩ rfl
  | .component h hrest, s =>
    Reads.lexeme (.component _ false) ⟨(ofChar_of_mem_components h).1, hrest⟩
      (reads_component h false s)
  | .starred rest h, s =>
    Reads.lexeme (.component _ true) (ofChar_of_mem_components h).1
      (reads_component h true s)
  | .run hne htext hrest, s => Reads.lexeme (.run _) ⟨hne, htext, hrest⟩ rfl

theorem Item.reads {text rest : List Char} {token : Token} :
    Item text rest token → ∀ s : State, s.inner.marks = {} → Reads s text rest (s.push token)
  | .bare h, s, _ => h.reads s
  | @Item.modified _ _ _ modifiers hne h, s, hs => by
    have hitem := reads_item h.reads hs ⟨none, modifiers⟩
    simpa [Marks.codes, Marks.wrap, hne] using hitem
  | .conditional condition h, s, hs => reads_item h.reads hs ⟨some condition, []⟩
  | @Item.conditionalModified _ _ _ modifiers condition hne h, s, hs => by
    have hitem := reads_item h.reads hs ⟨some condition, modifiers⟩
    simpa [Marks.codes, Marks.wrap, hne] using hitem

theorem Sequence.reads {text rest : List Char} {tokens : List Token} :
    Sequence text rest tokens → ∀ s : State, s.inner.marks = {} →
      Reads s text rest (tokens.foldl State.push s)
  | .nil rest, s, _ => Reads.refl s rest
  | @Sequence.cons _ _ _ token _ hitem h, s, hs =>
    (hitem.reads s hs).trans (h.reads (s.push token) (State.push_inner_marks s token))

end

/-! ## A text that is read has a derivation -/

/-- What a text must derive to complete the open sequences to `result`: the
innermost one, with the marks that stand before its next token, ends at a closing
parenthesis, and the group is a token of the next one; the outermost ends with
the text. -/
def Completes (result : List Token) : OpenSequence → List OpenSequence → List Char → Prop
  | level, [], text => ∃ tokens, Sequence (level.marks.codes ++ text) [] tokens ∧
      result = tokens.foldl OpenSequence.append level.tokens
  | level, outer :: others, text => ∃ inside rest tokens, text = inside ++ ')' :: rest ∧
      Sequence (level.marks.codes ++ inside) (')' :: rest) tokens ∧
      Completes result
        (outer.push (.group (tokens.foldl OpenSequence.append level.tokens))) others rest

/-- Marks in front of a base make an item of it. -/
theorem item_of_base {text rest : List Char} {token : Token} (h : Base text rest token)
    (m : Marks) : Item (m.codes ++ text) rest (m.wrap token) := by
  obtain ⟨condition, modifiers⟩ := m
  by_cases hne : modifiers = []
  · subst hne
    cases condition with
    | none => exact .bare h
    | some c => exact .conditional c h
  · cases condition with
    | none => simpa [Marks.codes, Marks.wrap, hne] using Item.modified hne h
    | some c => simpa [Marks.codes, Marks.wrap, hne] using Item.conditionalModified c hne h

/-- A base in front of what completes the sequences with its token completes them. -/
theorem completes_of_push {result : List Token} {level : OpenSequence}
    {others : List OpenSequence} {text rest : List Char} {token : Token}
    (hbase : Base text rest token) (h : Completes result (level.push token) others rest) :
    Completes result level others (text ++ rest) := by
  have hitem := item_of_base hbase level.marks
  cases others with
  | nil =>
    obtain ⟨tokens, hseq, rfl⟩ := h
    refine ⟨level.marks.wrap token :: tokens, ?_, rfl⟩
    rw [← List.append_nil rest] at hitem
    rw [← List.append_assoc]
    exact .cons hitem hseq
  | cons outer others =>
    obtain ⟨inside, rest, tokens, rfl, hseq, hrest⟩ := h
    refine ⟨text ++ inside, rest, level.marks.wrap token :: tokens, ?_, ?_, hrest⟩
    · rw [List.append_assoc]
    · rw [← List.append_assoc]
      exact .cons hitem hseq

/-- Marks that have been read may be put back in front of the text. -/
theorem completes_of_marks {result : List Token} {level : OpenSequence} {marks : Marks}
    {others : List OpenSequence} {code : Char} {rest : List Char}
    (hcodes : marks.codes = level.marks.codes ++ [code])
    (h : Completes result { level with marks } others rest) :
    Completes result level others (code :: rest) := by
  cases others with
  | nil =>
    obtain ⟨tokens, hseq, hresult⟩ := h
    refine ⟨tokens, ?_, hresult⟩
    rw [hcodes, List.append_assoc] at hseq
    exact hseq
  | cons outer others =>
    obtain ⟨inside, rest, tokens, rfl, hseq, hrest⟩ := h
    refine ⟨code :: inside, rest, tokens, rfl, ?_, hrest⟩
    rw [hcodes, List.append_assoc] at hseq
    exact hseq

/-- A group in front of what completes the sequences around it is a base there. -/
theorem completes_of_opening {result : List Token} {level : OpenSequence}
    {others : List OpenSequence} {rest : List Char}
    (h : Completes result {} (level :: others) rest) :
    Completes result level others ('(' :: rest) := by
  obtain ⟨inside, rest, tokens, rfl, hseq, hrest⟩ := h
  rw [show tokens.foldl OpenSequence.append [] = fuse tokens from foldl_append_fuse [] tokens]
    at hrest
  have hgroup := completes_of_push (.group hseq) hrest
  simpa using hgroup

/-- **One lexeme at a time**: if the pass accepts a lexeme, and the text behind it
completes the state that it gives, then the text with the lexeme completes the
state before it. -/
theorem completes_step {result : List Token} {s s' : State} {lexeme : Lexeme} {rest : List Char}
    (hfits : lexeme.Fits rest) (hread : s.read lexeme = .ok s')
    (h : Completes result s'.inner s'.outer rest) :
    Completes result s.inner s.outer (lexeme.spelling ++ rest) := by
  cases accepts_of_read hread with
  | condition c hmarks => exact completes_of_marks (by rw [hmarks]; rfl) h
  | modifier m => exact completes_of_marks (Marks.codes_concat s.inner.marks m) h
  | opening => exact completes_of_opening h
  | closing hmarks houter =>
    rw [houter]
    exact ⟨[], rest, [], rfl, by rw [hmarks]; exact .nil _, h⟩
  | separator index =>
    obtain ⟨c, hc⟩ := hfits
    rw [Lexeme.spelling_of_ofChar hc]
    exact completes_of_push (.separator rest (mem_separators_of_ofChar hc)) h
  | component starred hsource =>
    have hmem := mem_components_of_source? hsource
    cases starred with
    | true => exact completes_of_push (.starred rest hmem) h
    | false => exact completes_of_push (.component hmem hfits.2) h
  | escaped c => exact completes_of_push (.escaped c rest) h
  | run text => exact completes_of_push (.run hfits.1 hfits.2.1 hfits.2.2) h

theorem completes_of_finish {s : State} {result : List Token} (h : s.finish = .ok result) :
    Completes result s.inner s.outer [] := by
  simp only [State.finish] at h
  split at h
  · cases h
  · next hmarks =>
    rw [Bool.not_eq_true, Bool.not_eq_false', Marks.isEmpty_iff] at hmarks
    split at h
    · next houter =>
      cases h
      rw [List.isEmpty_iff.mp houter]
      exact ⟨[], by rw [hmarks]; exact .nil [], rfl⟩
    · cases h

/-- **A whole run**: a text that the pass accepts from some state on completes the
sequences that are open there. -/
theorem completes_of_readFrom {text : List Char} {offset : Nat} {s : State} {result : List Token}
    (h : readFrom offset s (Lexeme.scan text) = .ok result) :
    Completes result s.inner s.outer text := by
  induction text using Lexeme.scan_induction generalizing offset s with
  | nil =>
    rw [Lexeme.scan, readFrom] at h
    cases hfinish : s.finish with
    | ok tokens =>
      rw [hfinish] at h
      cases h
      exact completes_of_finish hfinish
    | error fault =>
      rw [hfinish] at h
      cases h
  | cons lexeme rest hfits ih =>
    rw [Lexeme.scan_spelling_append hfits, readFrom] at h
    split at h
    · next s' hread => exact completes_step hfits hread (ih h)
    · cases h
    · cases h

/-! ## Compiling and deriving -/

theorem derives_of_compile {source : String} {pattern : Pattern}
    (h : Pattern.compile source = .ok pattern) :
    pattern.source = source ∧ Derives source.toList pattern.tokens := by
  unfold Pattern.compile at h
  split at h
  · next result hread =>
    cases h
    obtain ⟨items, hseq, htokens⟩ := completes_of_readFrom hread
    exact ⟨rfl, items, hseq, htokens.trans (foldl_append_fuse [] items)⟩
  · cases h

theorem compile_of_derives {source : String} {tokens : List Token}
    (h : Derives source.toList tokens) : Pattern.compile source = .ok ⟨source, tokens⟩ := by
  obtain ⟨items, hseq, rfl⟩ := h
  have hread := hseq.reads {} rfl 0
  rw [foldl_push rfl, List.append_nil] at hread
  have hfuse : items.foldl OpenSequence.append [] = fuse items := foldl_append_fuse [] items
  unfold Pattern.compile
  rw [hread, ← hfuse]
  rfl

/-- **Compiling accepts exactly the language of the grammar and gives the tokens
that it derives**, and a text derives one list of tokens at most. -/
theorem compile_eq_ok_iff_derives (source : String) :
    (∀ pattern, Pattern.compile source = .ok pattern ↔
      pattern.source = source ∧ Derives source.toList pattern.tokens) ∧
    ∀ tokens others, Derives source.toList tokens → Derives source.toList others →
      tokens = others := by
  refine ⟨fun pattern => ⟨derives_of_compile, ?_⟩, ?_⟩
  · obtain ⟨_, tokens⟩ := pattern
    rintro ⟨rfl, h⟩
    exact compile_of_derives h
  · intro tokens others h h'
    have heq := (compile_of_derives h).symm.trans (compile_of_derives h')
    cases heq
    rfl

end Grammar
end PersonalNames
