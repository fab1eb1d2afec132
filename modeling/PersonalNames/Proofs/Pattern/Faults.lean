import PersonalNames.Proofs.Pattern.Beginning

/-! # What a rejected pattern is reported for

Where a text does not compile, the fault is reported at an offset that splits the
text into a beginning and what stands behind it.  `Documented` lists the fault
that belongs to each such split, by the character behind the offset and by what
the beginning leaves open.

`fault_of_compile_error` says that the reported fault is the documented one with
one exception: a letter that is no code, behind a condition or modifier or inside
a group that stands behind one, is reported as a mark without a token
(`BehindMark`).  The letter `q` of `+(q)` is such a letter.
-/
namespace PersonalNames
namespace Pattern

/-- `Documented before after fault`: the fault that belongs to a text which fails
between `before` and `after`. -/
inductive Documented (before : List Char) : List Char → Fault → Prop
  | letter {c : Char} {rest : List Char} :
      c.isAlpha = true → Documented before (c :: rest) (.unknownComponent c)
  | close {rest : List Char} :
      ¬ EndsInMark before → Documented before (')' :: rest) .unexpectedClose
  | mark {c : Char} {rest : List Char} :
      EndsInMark before → c = ')' ∨ (Condition.ofCode? c).isSome = true →
        Documented before (c :: rest) .danglingMark
  | endEscape : EndsInEscape before → Documented before [] .danglingEscape
  | endMark : EndsInMark before → Documented before [] .danglingMark
  | endGroup : ¬ EndsInEscape before → ¬ EndsInMark before → Documented before [] .unclosedGroup

/-- The text fails at a letter that stands behind a mark or inside a group behind
one. -/
def BehindMark (before after : List Char) : Prop :=
  (∃ c, after.head? = some c ∧ c.isAlpha = true) ∧ (EndsInMark before ∨ InMarkedGroup before)

/-- The fault of a text that fails between `before` and `after`. -/
def Reported (before after : List Char) (fault : Fault) : Prop :=
  (¬ BehindMark before after ∧ Documented before after fault) ∨
    (BehindMark before after ∧ fault = .danglingMark)

theorem not_behindMark_nil (before : List Char) : ¬ BehindMark before [] := by
  rintro ⟨⟨c, hc, _⟩, _⟩
  cases hc

theorem not_behindMark_cons {c : Char} (hc : c.isAlpha = false) (before rest : List Char) :
    ¬ BehindMark before (c :: rest) := by
  rintro ⟨⟨d, hd, halpha⟩, _⟩
  cases hd
  rw [hc] at halpha
  cases halpha

/-- At a letter a mark without a token is not the documented fault. -/
theorem not_documented_of_behindMark {before after : List Char} (h : BehindMark before after) :
    ¬ Documented before after .danglingMark := by
  obtain ⟨⟨c, hc, halpha⟩, _⟩ := h
  intro hdocumented
  cases hdocumented with
  | mark _ hsign =>
    cases hc
    rcases hsign with rfl | hsign
    · exact absurd halpha (by decide)
    · obtain ⟨k, hk⟩ := Option.isSome_iff_exists.mp hsign
      rw [← Condition.code_of_ofCode? hk] at halpha
      cases k <;> exact absurd halpha (by decide)
  | endMark => cases hc

theorem isAlpha_of_ofChar_unknown {c d : Char} (h : Lexeme.ofChar c = .unknown d) :
    d = c ∧ c.isAlpha = true := by
  cases Lexeme.single_of_ofChar h with
  | unknown halpha => exact ⟨rfl, halpha⟩

theorem source?_isSome_of_ofChar {c code : Char} {starred : Bool}
    (h : Lexeme.ofChar c = .component code starred) : (Lexeme.source? code).isSome = true := by
  cases Lexeme.single_of_ofChar h with
  | component hsource => exact hsource

/-- A letter that is no code is reported as such unless a mark is open. -/
theorem reported_unknown {before rest : List Char} {s : State} {c : Char} (h : Tracks before s)
    (hc : c.isAlpha = true) :
    Reported before (c :: rest) (if s.isMarked then .danglingMark else .unknownComponent c) := by
  by_cases hmarked : s.isMarked = true
  · rw [if_pos hmarked]
    exact Or.inr ⟨⟨⟨c, rfl, hc⟩, h.isMarked_iff.mp hmarked⟩, rfl⟩
  · rw [if_neg hmarked]
    exact Or.inl ⟨fun hbehind => hmarked (h.isMarked_iff.mpr hbehind.2), .letter hc⟩

/-- The fault of a lexeme that is not accepted, in front of it. -/
theorem reported_of_read {before rest : List Char} {s : State} {lexeme : Lexeme} {fault : Fault}
    (h : Tracks before s) (hfits : lexeme.Fits rest) (hread : s.read lexeme = .error fault)
    (hescape : lexeme ≠ .danglingEscape) :
    Reported before (lexeme.spelling ++ rest) fault := by
  cases refuses_of_read hread with
  | condition c hmarks =>
    have hsign : (Condition.ofCode? c.code).isSome = true := by
      rw [Condition.ofCode?_code]
      rfl
    refine Or.inl ⟨not_behindMark_cons (by cases c <;> decide) _ _, ?_⟩
    exact .mark (h.marks.mp hmarks) (Or.inr hsign)
  | closingMark hmarks =>
    refine Or.inl ⟨not_behindMark_cons (by decide) _ _, ?_⟩
    exact .mark (h.marks.mp hmarks) (Or.inl rfl)
  | closing hmarks _ =>
    refine Or.inl ⟨not_behindMark_cons (by decide) _ _, ?_⟩
    refine .close fun hends => ?_
    rw [h.marks.mpr hends] at hmarks
    cases hmarks
  | component starred hnone =>
    -- A component lexeme has a code with a source.
    have hsource := source?_isSome_of_ofChar hfits.ofChar_component
    rw [hnone] at hsource
    cases hsource
  | unknown c =>
    obtain ⟨d, hd⟩ := hfits
    obtain ⟨rfl, hc⟩ := isAlpha_of_ofChar_unknown hd
    exact reported_unknown h hc
  | danglingEscape => exact absurd rfl hescape

theorem eq_danglingEscape_of_read {s : State} {lexeme : Lexeme}
    (h : s.read lexeme = .error .danglingEscape) : lexeme = .danglingEscape := by
  generalize hfault : Fault.danglingEscape = fault at h
  cases refuses_of_read h with
  | danglingEscape => rfl
  | unknown c =>
    split at hfault
    · cases hfault
    · cases hfault
  | condition c _ => cases hfault
  | closingMark _ => cases hfault
  | closing _ _ => cases hfault
  | component starred _ => cases hfault

/-- The fault at the end of a text that leaves something open. -/
theorem reported_of_finish {before : List Char} {s : State} {fault : Fault} (h : Tracks before s)
    (hfinish : s.finish = .error fault) : Reported before [] fault := by
  refine Or.inl ⟨not_behindMark_nil before, ?_⟩
  simp only [State.finish] at hfinish
  split at hfinish
  · next hmarks =>
    cases hfinish
    exact .endMark (h.marks.mp (by simpa using hmarks))
  · next hmarks =>
    split at hfinish
    · cases hfinish
    · cases hfinish
      exact .endGroup h.complete fun hends => hmarks (by simpa using h.marks.mpr hends)

theorem endsInEscape_backslash {before : List Char} (h : ¬ EndsInEscape before) :
    EndsInEscape (before ++ ['\\']) := by
  rw [EndsInEscape, signs_append h]
  exact List.getLast?_concat

/-- **A whole run**: if the pass fails on a text behind a beginning that it has
read, the fault is the one of the place where it stops. -/
theorem reported_of_readFrom {before text : List Char} {s : State} {offset : Nat} {fault : Fault}
    (h : Tracks before s)
    (hread : readFrom (Text.byteCount before) s (Lexeme.scan text) = .error (offset, fault)) :
    ∃ seen after, text = seen ++ after ∧ offset = Text.byteCount (before ++ seen) ∧
      Reported (before ++ seen) after fault := by
  induction text using Lexeme.scan_induction generalizing before s with
  | nil =>
    rw [Lexeme.scan, readFrom] at hread
    cases hfinish : s.finish with
    | ok tokens =>
      rw [hfinish] at hread
      cases hread
    | error fault =>
      rw [hfinish] at hread
      cases hread
      exact ⟨[], [], rfl, by rw [List.append_nil], by
        rw [List.append_nil]
        exact reported_of_finish h hfinish⟩
  | cons lexeme rest hfits ih =>
    rw [Lexeme.scan_spelling_append hfits, readFrom] at hread
    split at hread
    · next s' hstep =>
      rw [Lexeme.size, ← Text.byteCount_append] at hread
      obtain ⟨seen, after, rfl, hoffset, hreported⟩ := ih (h.step hfits hstep) hread
      rw [List.append_assoc] at hoffset hreported
      exact ⟨lexeme.spelling ++ seen, after, by rw [List.append_assoc], hoffset, hreported⟩
    · next hstep =>
      cases hread
      -- This fault alone is reported behind the lexeme, at the end of the text.
      have hlexeme := eq_danglingEscape_of_read hstep
      subst hlexeme
      have hrest : rest = [] := hfits
      subst hrest
      exact ⟨['\\'], [], rfl, (Text.byteCount_append _ _).symm, Or.inl
        ⟨not_behindMark_nil _, .endEscape (endsInEscape_backslash h.complete)⟩⟩
    · next fault' hne hstep =>
      cases hread
      refine ⟨[], lexeme.spelling ++ rest, rfl, by rw [List.append_nil], ?_⟩
      rw [List.append_nil]
      refine reported_of_read h hfits hstep ?_
      rintro rfl
      cases hstep
      exact hne rfl

/-- **The reported fault is the documented one except at a letter behind an open
mark**, which is always reported as a mark without a token. -/
theorem fault_of_compile_error {source : String} {e : PatternError}
    (h : Pattern.compile source = .error e) :
    ∃ before after, source.toList = before ++ after ∧ e.offset = Text.byteCount before ∧
      (¬ BehindMark before after → Documented before after e.fault) ∧
      (BehindMark before after → e.fault = .danglingMark ∧ ¬ Documented before after e.fault) := by
  unfold Pattern.compile at h
  split at h
  · cases h
  · next offset fault hread =>
    cases h
    obtain ⟨before, after, htext, hoffset, hreported⟩ := reported_of_readFrom tracks_nil hread
    refine ⟨before, after, htext, hoffset, ?_⟩
    rcases hreported with ⟨hbehind, hdocumented⟩ | ⟨hbehind, rfl⟩
    · exact ⟨fun _ => hdocumented, fun h => absurd h hbehind⟩
    · exact ⟨fun h => absurd hbehind h, fun _ => ⟨rfl, not_documented_of_behindMark hbehind⟩⟩

/-- Behind a closed group its mark is no longer open, and the letter is reported as
unknown. -/
theorem unknownComponent_behind_marked_group :
    Pattern.compile "+(g)q" = .error ⟨"+(g)q", 4, .unknownComponent 'q'⟩ ∧
      ∃ before after, "+(g)q".toList = before ++ after ∧ 4 = Text.byteCount before ∧
        (¬ BehindMark before after → Documented before after (.unknownComponent 'q')) ∧
        (BehindMark before after → Fault.unknownComponent 'q' = .danglingMark ∧
          ¬ Documented before after (.unknownComponent 'q')) := by
  have h : Pattern.compile "+(g)q" = .error ⟨"+(g)q", 4, .unknownComponent 'q'⟩ := rfl
  exact ⟨h, fault_of_compile_error h⟩

/-- Inside a marked group an unknown letter is not reported as documented. -/
theorem danglingMark_inside_marked_group :
    Pattern.compile "+(q)" = .error ⟨"+(q)", 2, .danglingMark⟩ ∧
      ¬ Documented ['+', '('] ['q', ')'] .danglingMark := by
  refine ⟨rfl, not_documented_of_behindMark ⟨⟨'q', rfl, by decide⟩, Or.inr ?_⟩⟩
  exact ⟨[], '+', [], rfl, by decide, settled_nil.staysOpen⟩

end Pattern
end PersonalNames
