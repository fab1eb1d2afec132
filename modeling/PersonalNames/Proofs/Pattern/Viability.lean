import PersonalNames.Proofs.Pattern.Faults

/-! # Where a rejected pattern goes wrong

A text is *viable* if some text behind it makes a pattern of it.  If a text does not
compile, then the reported offset is the length in bytes of its longest viable
beginning (`offset_of_compile_error`).

Two facts carry this.  A stretch of text is read in the same way in front of
everything that starts with a reserved character (`ReadsOn`), and from every state of
the pass a component code and closing parentheses lead to an end
(`ReadsOn.viable`).  So all that has been read is viable; and a character that is
refused is a lexeme by itself, which no text behind it can change
(`ReadsOn.not_viable`).
-/
namespace PersonalNames

namespace Lexeme

/-- A character that is no run by itself is reserved. -/
theorem isReserved_of_ofChar {c : Char} (h : ∀ text, ofChar c ≠ run text) :
    isReserved c = true := by
  cases hc : isReserved c with
  | true => rfl
  | false => exact absurd (ofChar_of_not_isReserved hc) (h [c])

/-- Whether a lexeme fits depends on the first character behind it, and every
reserved character will do.  Only an escape that lacks its character needs the end of
the text. -/
theorem Fits.of_head {lexeme : Lexeme} {rest rest' : List Char} (h : lexeme.Fits rest)
    (hescape : lexeme ≠ danglingEscape) (hrest : EndsRun rest' ∨ rest'.head? = rest.head?) :
    lexeme.Fits rest' := by
  cases lexeme with
  | run text =>
    refine ⟨h.1, h.2.1, ?_⟩
    rcases hrest with hrest | hrest
    · exact hrest
    · intro c hc
      exact h.2.2 c (hrest ▸ hc)
  | component code starred =>
    cases starred with
    | true => exact h
    | false =>
      refine ⟨h.1, ?_⟩
      rcases hrest with hrest | hrest
      · exact hrest.head?_ne_star
      · rw [hrest]
        exact h.2
  | danglingEscape => exact absurd rfl hescape
  | _ => exact h

end Lexeme

namespace Pattern

open Lexeme (EndsRun)

/-! ## Stretches that do not depend on what follows -/

/-- Reading `text` takes `s` to `s'` in front of everything that does not go on with
the last lexeme. -/
def ReadsOn (s : State) (text : List Char) (s' : State) : Prop :=
  ∀ rest, EndsRun rest → Reads s text rest s'

section
variable {s s' s'' : State} {text : List Char}

theorem ReadsOn.refl (s : State) : ReadsOn s [] s :=
  fun rest _ => Reads.refl s rest

/-- A lexeme that is accepted comes in front of a stretch. -/
theorem ReadsOn.cons {lexeme : Lexeme} {after : List Char} (hfits : lexeme.Fits (text ++ after))
    (hread : s.read lexeme = .ok s') (h : ReadsOn s' text s'') :
    ReadsOn s (lexeme.spelling ++ text) s'' := by
  intro rest hrest
  have hescape : lexeme ≠ .danglingEscape := by
    rintro rfl
    cases hread
  have hfits' : lexeme.Fits (text ++ rest) := by
    refine hfits.of_head hescape ?_
    cases text with
    | nil => exact Or.inl hrest
    | cons c text => exact Or.inr rfl
  exact (Reads.lexeme lexeme hfits' hread).trans (h rest hrest)

/-! ## Completing a beginning -/

theorem reads_component_code (s : State) {rest : List Char} (hrest : EndsRun rest) :
    Reads s ['g'] rest (s.push (.component ⟨.single .given, false⟩)) :=
  Reads.lexeme (.component 'g' false) ⟨by decide, hrest.head?_ne_star⟩ rfl

theorem reads_escaped (s : State) (c : Char) (rest : List Char) :
    Reads s ['\\', c] rest (s.push (.literal (String.ofList [c]))) :=
  Reads.lexeme (.escaped c) trivial rfl

theorem endsRun_closers (n : Nat) : EndsRun (List.replicate n ')') := by
  cases n with
  | zero => exact Lexeme.endsRun_nil
  | succ n => exact Lexeme.endsRun_cons (by decide) _

/-- Without marks the open groups can be closed, and then the pass may end. -/
theorem readFrom_closers (h : s.inner.marks = {}) (offset : Nat) :
    ∃ tokens, readFrom offset s (Lexeme.scan (List.replicate s.outer.length ')')) =
      .ok tokens := by
  obtain ⟨inner, outer⟩ := s
  induction outer generalizing inner offset with
  | nil =>
    refine ⟨inner.tokens, ?_⟩
    have hfinish : State.finish ⟨inner, []⟩ = .ok inner.tokens := by
      simp [State.finish, show inner.marks = {} from h]
    show (State.finish ⟨inner, []⟩).mapError _ = _
    rw [hfinish]
    rfl
  | cons level outer ih =>
    have hread : State.read ⟨inner, level :: outer⟩ .closing =
        .ok ⟨level.push (.group inner.tokens), outer⟩ := by
      simp [State.read, show inner.marks = {} from h]
    have hclose : Reads ⟨inner, level :: outer⟩ [')'] (List.replicate outer.length ')')
        ⟨level.push (.group inner.tokens), outer⟩ :=
      Reads.lexeme .closing (Lexeme.fits_closing _) hread
    obtain ⟨tokens, htokens⟩ := ih (offset + 1) (level.push (.group inner.tokens)) rfl
    exact ⟨tokens, (hclose offset).trans htokens⟩

/-- A text is viable if some text behind it makes a pattern of it. -/
def Viable (text : String) : Prop :=
  ∃ extension pattern, Pattern.compile (text ++ extension) = .ok pattern

theorem Viable.of_append {text more : String} (h : Viable (text ++ more)) : Viable text := by
  obtain ⟨extension, pattern, h⟩ := h
  refine ⟨more ++ extension, pattern, ?_⟩
  rw [← String.append_assoc]
  exact h

theorem compile_of_readFrom {tokens : List Token}
    (h : readFrom 0 {} (Lexeme.scan text) = .ok tokens) :
    Pattern.compile (String.ofList text) = .ok ⟨String.ofList text, tokens⟩ := by
  unfold Pattern.compile
  rw [String.toList_ofList, h]

theorem readFrom_of_compile {pattern : Pattern}
    (h : Pattern.compile (String.ofList text) = .ok pattern) :
    readFrom 0 {} (Lexeme.scan text) = .ok pattern.tokens := by
  unfold Pattern.compile at h
  rw [String.toList_ofList] at h
  split at h
  · next tokens hread =>
    cases h
    exact hread
  · cases h

/-- What has been read becomes a pattern with one more token and the groups closed. -/
theorem viable_of_token {token : List Char} {t : Token} (h : ReadsOn {} text s)
    (hreserved : ∀ rest, EndsRun (token ++ rest))
    (htoken : ∀ rest, EndsRun rest → Reads s token rest (s.push t)) :
    Viable (String.ofList (text ++ token)) := by
  have hclosers := endsRun_closers (s.push t).outer.length
  obtain ⟨tokens, htokens⟩ :=
    readFrom_closers (State.push_inner_marks s t) (0 + Text.byteCount (text ++ token))
  have hread := (h _ (hreserved _)).trans (htoken _ hclosers)
  have hcompile := compile_of_readFrom ((hread 0).trans htokens)
  rw [String.ofList_append] at hcompile
  exact ⟨_, _, hcompile⟩

/-- **What has been read is viable.** -/
theorem ReadsOn.viable (h : ReadsOn {} text s) : Viable (String.ofList text) := by
  have hcode : Viable (String.ofList (text ++ ['g'])) :=
    viable_of_token h (fun rest => Lexeme.endsRun_cons (by decide) rest)
      fun _ hrest => reads_component_code s hrest
  rw [String.ofList_append] at hcode
  exact hcode.of_append

/-- So is what has been read with a backslash behind it. -/
theorem ReadsOn.viable_backslash (h : ReadsOn {} text s) :
    Viable (String.ofList (text ++ ['\\'])) := by
  have hescape : Viable (String.ofList (text ++ ['\\', 'g'])) :=
    viable_of_token h (fun rest => Lexeme.endsRun_cons (by decide) _)
      fun rest _ => reads_escaped s 'g' rest
  rw [List.append_cons, String.ofList_append] at hescape
  exact hescape.of_append

/-! ## Where the pass stops -/

/-- `Stops s after n`: in the state `s` the pass does not get through `after`, and
reports a fault `n` bytes further on. -/
inductive Stops (s : State) : List Char → Nat → Prop
  | finish : Stops s [] 0
  | escape : Stops s ['\\'] 1
  /-- The character is a lexeme by itself and is refused. -/
  | refused {c : Char} {lexeme : Lexeme} {fault : Fault} (rest : List Char) :
      Lexeme.ofChar c = lexeme → (∀ text, lexeme ≠ .run text) →
      (∀ code starred, lexeme ≠ .component code starred) → s.read lexeme = .error fault →
        Stops s (c :: rest) 0

/-- **A refused character is never the next one of a viable text.** -/
theorem ReadsOn.not_viable {c : Char} {lexeme : Lexeme} {fault : Fault} (h : ReadsOn {} text s)
    (hc : Lexeme.ofChar c = lexeme) (hrun : ∀ text, lexeme ≠ .run text)
    (hcomponent : ∀ code starred, lexeme ≠ .component code starred)
    (hread : s.read lexeme = .error fault) : ¬ Viable (String.ofList (text ++ [c])) := by
  rintro ⟨extension, pattern, hcompile⟩
  rw [← String.ofList_toList (s := extension), ← String.ofList_append] at hcompile
  have hok := readFrom_of_compile hcompile
  have hreserved : Lexeme.isReserved c = true := Lexeme.isReserved_of_ofChar (hc ▸ hrun)
  have hends : EndsRun (c :: extension.toList) := Lexeme.endsRun_cons hreserved _
  rw [List.append_assoc, List.singleton_append, h _ hends 0,
    Lexeme.scan_cons_of_ofChar hc hrun hcomponent, readFrom, hread] at hok
  split at hok
  · next heq => cases heq
  · cases hok
  · cases hok

theorem Stops.of_single {lexeme : Lexeme} {fault : Fault} {rest : List Char}
    (h : ∃ c, Lexeme.ofChar c = lexeme) (hrun : ∀ text, lexeme ≠ .run text)
    (hcomponent : ∀ code starred, lexeme ≠ .component code starred)
    (hread : s.read lexeme = .error fault) : Stops s (lexeme.spelling ++ rest) 0 := by
  obtain ⟨c, hc⟩ := h
  rw [Lexeme.spelling_of_ofChar hc]
  exact .refused rest hc hrun hcomponent hread

/-- A lexeme that is refused stops the pass in front of it. -/
theorem stops_of_read {lexeme : Lexeme} {rest : List Char} {fault : Fault}
    (hfits : lexeme.Fits rest) (hread : s.read lexeme = .error fault)
    (hescape : lexeme ≠ .danglingEscape) : Stops s (lexeme.spelling ++ rest) 0 := by
  cases refuses_of_read hread with
  | component starred hnone =>
    have hsource := source?_isSome_of_ofChar hfits.ofChar_component
    rw [hnone] at hsource
    cases hsource
  | danglingEscape => exact absurd rfl hescape
  | condition c _ => exact .of_single hfits (by simp) (by simp) hread
  | closingMark _ => exact .of_single hfits (by simp) (by simp) hread
  | closing _ _ => exact .of_single hfits (by simp) (by simp) hread
  | unknown c => exact .of_single hfits (by simp) (by simp) hread

/-- **A whole run**: if the pass fails on a text, then it has read a beginning that
reads on, and stops behind it. -/
theorem stops_of_readFrom {offset place : Nat} {fault : Fault}
    (h : readFrom offset s (Lexeme.scan text) = .error (place, fault)) :
    ∃ seen after s' n, text = seen ++ after ∧ ReadsOn s seen s' ∧ Stops s' after n ∧
      place = offset + Text.byteCount seen + n := by
  induction text using Lexeme.scan_induction generalizing offset s with
  | nil =>
    rw [Lexeme.scan, readFrom] at h
    cases hfinish : s.finish with
    | ok tokens =>
      rw [hfinish] at h
      cases h
    | error fault =>
      rw [hfinish] at h
      cases h
      exact ⟨[], [], s, 0, rfl, .refl s, .finish, rfl⟩
  | cons lexeme rest hfits ih =>
    rw [Lexeme.scan_spelling_append hfits, readFrom] at h
    split at h
    · next s' hread =>
      obtain ⟨seen, after, s'', n, rfl, hseen, hstops, hplace⟩ := ih h
      refine ⟨lexeme.spelling ++ seen, after, s'', n, by rw [List.append_assoc],
        hseen.cons hfits hread, hstops, ?_⟩
      rw [hplace, Text.byteCount_append, Lexeme.size]
      omega
    · next hread =>
      cases h
      -- A backslash alone is reported behind it.
      have hlexeme := eq_danglingEscape_of_read hread
      subst hlexeme
      have hrest : rest = [] := hfits
      subst hrest
      exact ⟨[], ['\\'], s, 1, rfl, .refl s, .escape, rfl⟩
    · next fault' hne hread =>
      cases h
      refine ⟨[], lexeme.spelling ++ rest, s, 0, rfl, .refl s, stops_of_read hfits hread ?_, rfl⟩
      rintro rfl
      cases hread
      exact hne rfl

end

/-! ## The reported offset -/

/-- The reported offset splits a text into a viable beginning and a rest whose first
character makes it one no more. -/
theorem viable_before_offset {source : String} {e : PatternError}
    (h : Pattern.compile source = .error e) :
    ∃ before after : List Char, source.toList = before ++ after ∧
      e.offset = Text.byteCount before ∧ Viable (String.ofList before) ∧
      ∀ c rest, after = c :: rest → ¬ Viable (String.ofList (before ++ [c])) := by
  unfold Pattern.compile at h
  split at h
  · cases h
  · next place fault hread =>
    cases h
    obtain ⟨seen, after, s, n, htext, hseen, hstops, hplace⟩ := stops_of_readFrom hread
    cases hstops with
    | finish =>
      exact ⟨seen, [], htext, by simpa using hplace, hseen.viable, fun c rest heq => by cases heq⟩
    | escape =>
      refine ⟨seen ++ ['\\'], [], by simpa using htext, ?_, hseen.viable_backslash,
        fun c rest heq => by cases heq⟩
      rw [hplace, Text.byteCount_append, Nat.zero_add]
      rfl
    | @refused c lexeme fault rest hc hrun hcomponent hread =>
      refine ⟨seen, c :: rest, htext, by simpa using hplace, hseen.viable, ?_⟩
      rintro d _ heq
      cases heq
      exact hseen.not_viable hc hrun hcomponent hread

/-- A viable beginning of a text ends where viability ends, or before. -/
theorem prefix_of_viable {before after longer : List Char} (h : longer <+: before ++ after)
    (hviable : Viable (String.ofList longer))
    (hstop : ∀ c rest, after = c :: rest → ¬ Viable (String.ofList (before ++ [c]))) :
    longer <+: before := by
  rcases List.prefix_or_prefix_of_prefix h (List.prefix_append before after) with h' | ⟨more, rfl⟩
  · exact h'
  · cases more with
    | nil => simp
    | cons c more =>
      obtain ⟨rest, hrest⟩ := h
      rw [List.append_assoc, List.append_cancel_left_eq] at hrest
      rw [List.append_cons, String.ofList_append] at hviable
      exact absurd hviable.of_append (hstop c (more ++ rest) hrest.symm)

/-- **The reported offset is the length of the longest viable beginning.**  It stands
between two characters of the text; the text in front of it is viable, and no longer
so with the next character; and no viable beginning is longer. -/
theorem offset_of_compile_error {source : String} {e : PatternError}
    (h : Pattern.compile source = .error e) :
    e.offset ≤ source.utf8ByteSize ∧ String.Pos.Raw.IsValid source ⟨e.offset⟩ ∧
    (∃ before after, source = before ++ after ∧ e.offset = before.utf8ByteSize ∧
      Viable before ∧ ∀ c rest, after = String.singleton c ++ rest →
        ¬ Viable (before ++ String.singleton c)) ∧
    ∀ longer rest, source = longer ++ rest → Viable longer → longer.utf8ByteSize ≤ e.offset := by
  obtain ⟨before, after, htext, hoffset, hviable, hstop⟩ := viable_before_offset h
  have hsource : source = String.ofList before ++ String.ofList after := by
    rw [← String.ofList_append, ← htext, String.ofList_toList]
  have hsize : e.offset = (String.ofList before).utf8ByteSize := by
    rw [hoffset, Text.byteCount_eq_utf8ByteSize]
  refine ⟨?_, ?_, ⟨String.ofList before, String.ofList after, hsource, hsize, hviable, ?_⟩, ?_⟩
  · rw [hsource, String.utf8ByteSize_append, hsize]
    exact Nat.le_add_right _ _
  · rw [String.Pos.Raw.isValid_iff_exists_append]
    exact ⟨_, _, hsource, by rw [hsize]; rfl⟩
  · intro c rest hafter
    rw [String.singleton_eq_ofList, ← String.ofList_append]
    refine hstop c rest.toList ?_
    rw [← String.toList_ofList (l := after), hafter, String.toList_append]
    simp
  · intro longer rest hlonger hviable'
    have hbegin : longer.toList <+: before ++ after := by
      rw [← htext, hlonger, String.toList_append]
      exact List.prefix_append _ _
    rw [← String.ofList_toList (s := longer)] at hviable'
    obtain ⟨more, hmore⟩ := prefix_of_viable hbegin hviable' hstop
    rw [hoffset, ← hmore, Text.byteCount_append, Text.byteCount_eq_utf8ByteSize,
      String.ofList_toList]
    exact Nat.le_add_right _ _

/-- Behind a character of two bytes and in an open group, a mark waits for its token
when the group is closed. -/
theorem offset_of_compile_error_closing :
    Pattern.compile "é(+)" = .error ⟨"é(+)", 4, .danglingMark⟩ ∧
      (∃ before after, "é(+)" = before ++ after ∧ 4 = before.utf8ByteSize ∧ Viable before ∧
        ∀ c rest, after = String.singleton c ++ rest →
          ¬ Viable (before ++ String.singleton c)) ∧
      ∀ longer rest, "é(+)" = longer ++ rest → Viable longer → longer.utf8ByteSize ≤ 4 := by
  have h : Pattern.compile "é(+)" = .error ⟨"é(+)", 4, .danglingMark⟩ := rfl
  obtain ⟨_, _, hsplit, hlongest⟩ := offset_of_compile_error h
  exact ⟨h, hsplit, hlongest⟩

end Pattern
end PersonalNames
