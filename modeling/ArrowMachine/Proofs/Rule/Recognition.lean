import ArrowMachine.Proofs.Rule.Arrow

/-!
Reading finds exactly the rules of the grammar.

From arrows and states up to whole texts, what is returned is written there, and what is written there
is returned. `spelled_of_spellings` and `exists_spellings` say so of a text, and a text is faulty exactly
when it spells no rules (`spellings_eq_error_iff`).
-/
namespace ArrowMachine.Rule

/-! ## Legs -/

theorem arrowLexemes_cons (a : ArrowSpelling) (arrows : List ArrowSpelling) (target : StateSpelling) :
    arrowLexemes (a :: arrows) target =
      .sign a.direction.opener :: (a.shaft ++ arrowLexemes arrows target) := by
  simp [arrowLexemes, ArrowSpelling.lexemes]

theorem readArrows_sound {c : Cursor} {done : List ArrowSpelling}
    {r : Read (List ArrowSpelling × StateSpelling) c.rest.length} (h : readArrows c done = .ok r) :
    ∃ arrows, r.value.1 = done ++ arrows ∧ c.Reads (arrowLexemes arrows r.value.2) r.after := by
  induction c, done using readArrows.induct with
  | case1 c done ih =>
    rw [readArrows] at h
    obtain ⟨t, ht, h⟩ := bind_eq_ok h
    obtain ⟨hexp, ht⟩ := take_sound ht
    split at h
    · next hopener =>
      obtain ⟨a, ha, h⟩ := bind_eq_ok h
      obtain ⟨r', hr', h⟩ := bind_eq_ok h
      cases h
      obtain ⟨hdir, hshaft⟩ := readArrow_sound hopener ha
      obtain ⟨arrows, hvalue, hrest⟩ := ih t a hr'
      refine ⟨a.value :: arrows, by simp [Read.widen, hvalue], ?_⟩
      rw [arrowLexemes_cons, hdir]
      exact .cons ht (Token.fits_sign rfl) (Cursor.reads_append.2 ⟨_, hshaft, hrest⟩)
    · next hopener =>
      obtain ⟨s, hs, h⟩ := bind_eq_ok h
      cases h
      have hstart := (List.mem_append.1 hexp).resolve_left hopener
      exact ⟨[], (List.append_nil _).symm, readStateFrom_sound ht hstart hs⟩

theorem readArrows_complete {arrows : List ArrowSpelling} {target : StateSpelling}
    (done : List ArrowSpelling) {c d : Cursor}
    (h : c.Reads ((arrowLexemes arrows target).map Lexeme.bare) d) :
    ∃ arrows' target', Delivers (readArrows c done) (done ++ arrows', target') d ∧
      arrows'.map ArrowSpelling.bare = arrows.map ArrowSpelling.bare ∧
      target'.bare = target.bare := by
  induction arrows generalizing done c with
  | nil =>
    obtain ⟨t, e, s, ht, hstart, hs, hbare⟩ := readStateFrom_complete h
    refine ⟨[], s, ?_, rfl, hbare⟩
    rw [readArrows]
    refine (take_complete (by decide) (List.mem_append_right _ hstart) rfl ht).bind fun _ => ?_
    have hopener : t.kind ∉ openers := by
      intro hopener
      revert hopener hstart
      cases t.kind <;> decide
    rw [if_neg hopener, List.append_nil]
    exact hs.bind fun _ => ⟨_, rfl⟩
  | cons a arrows ih =>
    rw [arrowLexemes_cons] at h
    simp only [List.map_cons, List.map_append, Cursor.reads_cons, Cursor.reads_append,
      Token.fits_bare_sign] at h
    obtain ⟨t, e, ht, hopener, f, hshaft, hrest⟩ := h
    obtain ⟨a', ha', habare⟩ := readArrow_complete hshaft
    obtain ⟨arrows', target', hrest, hbare, htarget⟩ := ih (done ++ [a']) hrest
    refine ⟨a' :: arrows', target', ?_, by simp [habare, hbare], htarget⟩
    have hmem := a.direction.opener_mem
    rw [readArrows]
    refine (take_complete (by decide) (List.mem_append_left _ hmem) hopener ht).bind fun _ => ?_
    dsimp only
    rw [if_pos (hopener ▸ hmem), hopener]
    refine ha'.bind fun _ => hrest.bind fun _ => ?_
    rw [List.append_assoc]
    exact ⟨_, rfl⟩

/-- The leg behind the sign that opens its first arrow. -/
def Leg.behind (l : Leg) : List Lexeme := l.arrow.shaft ++ arrowLexemes l.moreArrows l.target

theorem Leg.lexemes_eq (l : Leg) : l.lexemes = .sign l.arrow.direction.opener :: l.behind :=
  arrowLexemes_cons l.arrow l.moreArrows l.target

theorem readLeg_sound {opener : Terminal} (hopener : opener ∈ openers) {c : Cursor}
    {r : Read Leg c.rest.length} (h : readLeg opener c = .ok r) :
    r.value.arrow.direction.opener = opener ∧ c.Reads r.value.behind r.after := by
  obtain ⟨a, ha, h⟩ := bind_eq_ok h
  obtain ⟨r', hr', h⟩ := bind_eq_ok h
  cases h
  obtain ⟨hdir, hshaft⟩ := readArrow_sound hopener ha
  obtain ⟨arrows, hvalue, hrest⟩ := readArrows_sound hr'
  rw [List.nil_append] at hvalue
  refine ⟨hdir, Cursor.reads_append.2 ⟨_, hshaft, ?_⟩⟩
  rw [hvalue]
  exact hrest

theorem readLeg_complete {l : Leg} {c d : Cursor} (h : c.Reads (l.behind.map Lexeme.bare) d) :
    ∃ l', Delivers (readLeg l.arrow.direction.opener c) l' d ∧ l'.bare = l.bare := by
  rw [Leg.behind, List.map_append, Cursor.reads_append] at h
  obtain ⟨e, hshaft, hrest⟩ := h
  obtain ⟨a', ha', habare⟩ := readArrow_complete hshaft
  obtain ⟨arrows', target', hrest, hbare, htarget⟩ := readArrows_complete [] hrest
  refine ⟨⟨a', arrows', target'⟩, ha'.bind fun _ => hrest.bind fun _ => ⟨_, rfl⟩, ?_⟩
  simp [Leg.bare, habare, hbare, htarget]

theorem legLexemes_cons (l : Leg) (legs : List Leg) :
    legLexemes (l :: legs) =
      .sign l.arrow.direction.opener :: (l.behind ++ legLexemes legs) := by
  simp [legLexemes, Leg.lexemes_eq]

theorem readLegs_sound {c : Cursor} {done : List Leg} {r : Read (List Leg) c.rest.length}
    (h : readLegs c done = .ok r) :
    ∃ legs, r.value = done ++ legs ∧ c.Reads (legLexemes legs) r.after := by
  induction c, done using readLegs.induct with
  | case1 c done ih =>
    rw [readLegs] at h
    obtain ⟨t, ht, h⟩ := bind_eq_ok h
    obtain ⟨hexp, ht⟩ := take_sound ht
    split at h
    · next hend =>
      cases h
      exact ⟨[], (List.append_nil _).symm, .cons ht (Token.fits_sign hend) .nil⟩
    · next hend =>
      obtain ⟨l, hl, h⟩ := bind_eq_ok h
      obtain ⟨r', hr', h⟩ := bind_eq_ok h
      cases h
      have hopener : t.value.kind ∈ openers := by simpa [hend] using hexp
      obtain ⟨hdir, hbehind⟩ := readLeg_sound hopener hl
      obtain ⟨legs, hvalue, hrest⟩ := ih t l hr'
      refine ⟨l.value :: legs, by simp [Read.widen, hvalue], ?_⟩
      rw [legLexemes_cons, hdir]
      exact .cons ht (Token.fits_sign rfl) (Cursor.reads_append.2 ⟨_, hbehind, hrest⟩)

theorem readLegs_complete {legs : List Leg} (done : List Leg) {c d : Cursor}
    (h : c.Reads ((legLexemes legs).map Lexeme.bare) d) :
    ∃ legs', Delivers (readLegs c done) (done ++ legs') d ∧
      legs'.map Leg.bare = legs.map Leg.bare := by
  induction legs generalizing done c with
  | nil =>
    simp only [legLexemes, List.flatMap_nil, List.nil_append, List.map_cons, List.map_nil,
      Cursor.reads_cons, Cursor.reads_nil, Token.fits_bare_sign] at h
    obtain ⟨t, e, ht, hend, rfl⟩ := h
    refine ⟨[], ?_, rfl⟩
    rw [readLegs]
    refine (take_complete (by decide) (by decide) hend ht).bind fun _ => ?_
    rw [if_pos hend, List.append_nil]
    exact ⟨_, rfl⟩
  | cons l legs ih =>
    rw [legLexemes_cons] at h
    simp only [List.map_cons, List.map_append, Cursor.reads_cons, Cursor.reads_append,
      Token.fits_bare_sign] at h
    obtain ⟨t, e, ht, hopener, f, hbehind, hrest⟩ := h
    obtain ⟨l', hl', hlbare⟩ := readLeg_complete hbehind
    obtain ⟨legs', hrest, hbare⟩ := ih (done ++ [l']) hrest
    refine ⟨l' :: legs', ?_, by simp [hlbare, hbare]⟩
    have hmem := l.arrow.direction.opener_mem
    have hend : t.kind ≠ .semicolon := by
      rw [hopener]
      cases l.arrow.direction <;> decide
    rw [readLegs]
    refine (take_complete (by decide) (List.mem_append_left _ hmem) hopener ht).bind fun _ => ?_
    dsimp only
    rw [if_neg hend, hopener]
    refine hl'.bind fun _ => hrest.bind fun _ => ?_
    rw [List.append_assoc]
    exact ⟨_, rfl⟩

/-! ## Rules -/

theorem readSource_sound {c : Cursor} {r : Read SourceSpelling c.rest.length}
    (h : readSource c = .ok r) : c.Reads r.value.lexemes r.after := by
  obtain ⟨t, ht, h⟩ := bind_eq_ok h
  obtain ⟨hexp, ht⟩ := take_sound ht
  split at h
  · next hregex =>
    cases h
    exact .cons ht (Token.fits_word hregex) .nil
  · next hregex =>
    split at h
    · next hstar =>
      cases h
      exact .cons ht (Token.fits_sign_pos hstar) .nil
    · next hstar =>
      obtain ⟨s, hs, h⟩ := bind_eq_ok h
      cases h
      have hstart : t.value.kind ∈ stateStarts := by simpa [hregex, hstar] using hexp
      exact readStateFrom_sound ht hstart hs

theorem readSource_complete {s : SourceSpelling} {c d : Cursor}
    (h : c.Reads (s.lexemes.map Lexeme.bare) d) :
    ∃ s', Delivers (readSource c) s' d ∧ s'.bare = s.bare := by
  cases s with
  | state s =>
    obtain ⟨t, e, s', ht, hstart, hs, hbare⟩ := readStateFrom_complete h
    refine ⟨.state s', ?_, congrArg SourceSpelling.state hbare⟩
    refine (take_complete (by decide) (List.mem_append_left _ hstart) rfl ht).bind fun _ => ?_
    have hother : t.kind ≠ .regex ∧ t.kind ≠ .star := by
      revert hstart
      cases t.kind <;> decide
    rw [if_neg hother.1, if_neg hother.2]
    exact hs.bind fun _ => ⟨_, rfl⟩
  | pattern l =>
    simp only [SourceSpelling.lexemes, List.map_cons, List.map_nil, Cursor.reads_cons,
      Cursor.reads_nil, Token.fits_bare_word] at h
    obtain ⟨t, e, ht, ⟨hregex, htext⟩, rfl⟩ := h
    refine ⟨.pattern t.word, ?_, congrArg SourceSpelling.pattern (Token.word_bare htext)⟩
    refine (take_complete (by decide) (by decide) hregex ht).bind fun _ => ?_
    rw [if_pos hregex]
    exact ⟨_, rfl⟩
  | any p =>
    simp only [SourceSpelling.lexemes, List.map_cons, List.map_nil, Cursor.reads_cons,
      Cursor.reads_nil, Token.fits_bare_sign] at h
    obtain ⟨t, e, ht, hstar, rfl⟩ := h
    refine ⟨.any t.pos, ?_, rfl⟩
    refine (take_complete (by decide) (by decide) hstar ht).bind fun _ => ?_
    rw [if_neg (by simp [hstar]), if_pos hstar]
    exact ⟨_, rfl⟩

theorem readSpelling_sound {c : Cursor} {r : Read Spelling c.rest.length}
    (h : readSpelling c = .ok r) : c.Reads r.value.lexemes r.after := by
  obtain ⟨s, hs, h⟩ := bind_eq_ok h
  obtain ⟨t, ht, h⟩ := bind_eq_ok h
  obtain ⟨l, hl, h⟩ := bind_eq_ok h
  obtain ⟨r', hr', h⟩ := bind_eq_ok h
  cases h
  obtain ⟨hopener, ht⟩ := take_sound ht
  obtain ⟨hdir, hbehind⟩ := readLeg_sound hopener hl
  obtain ⟨legs, hvalue, hrest⟩ := readLegs_sound hr'
  rw [List.nil_append] at hvalue
  refine Cursor.reads_append.2 ⟨_, readSource_sound hs, ?_⟩
  rw [Spelling.legs, legLexemes_cons, hdir, hvalue]
  exact .cons ht (Token.fits_sign rfl) (Cursor.reads_append.2 ⟨_, hbehind, hrest⟩)

theorem readSpelling_complete {s : Spelling} {c d : Cursor}
    (h : c.Reads (s.lexemes.map Lexeme.bare) d) :
    ∃ s', Delivers (readSpelling c) s' d ∧ s'.bare = s.bare := by
  rw [Spelling.lexemes, Spelling.legs, legLexemes_cons] at h
  simp only [List.map_append, List.map_cons, Cursor.reads_append, Cursor.reads_cons,
    Token.fits_bare_sign] at h
  obtain ⟨e, hsource, t, f, ht, hopener, g, hbehind, hrest⟩ := h
  obtain ⟨source', hsource', hsbare⟩ := readSource_complete hsource
  obtain ⟨l', hl', hlbare⟩ := readLeg_complete hbehind
  obtain ⟨legs', hrest, hbare⟩ := readLegs_complete [] hrest
  refine ⟨⟨source', l', legs'⟩, ?_, by simp [Spelling.bare, hsbare, hlbare, hbare]⟩
  refine hsource'.bind fun _ => ?_
  refine (take_complete (by decide) s.leg.arrow.direction.opener_mem hopener ht).bind fun _ => ?_
  dsimp only
  rw [hopener]
  exact hl'.bind fun _ => hrest.bind fun _ => ⟨_, rfl⟩

/-! ## Texts -/

theorem Cursor.Takes.not_atEnd {c d : Cursor} {t : Token} (h : c.Takes t d) : ¬ c.atEnd = true := by
  intro hend
  obtain ⟨hspells, hcs, _⟩ := munch?_eq_some_iff.1 h.munched
  obtain ⟨a, w, hw, _⟩ := opens_of_spells hspells
  rw [atEnd_iff.1 hend, hw] at hcs
  cases hcs

theorem Spelling.not_atEnd {s : Spelling} {c d : Cursor}
    (h : c.Reads (s.lexemes.map Lexeme.bare) d) : ¬ c.atEnd = true := by
  have hne : s.lexemes.map Lexeme.bare ≠ [] := by simp [Spelling.lexemes, legLexemes]
  obtain ⟨l, ls, hls⟩ := List.exists_cons_of_ne_nil hne
  rw [hls, Cursor.reads_cons] at h
  obtain ⟨t, e, ht, _⟩ := h
  exact ht.not_atEnd

theorem readSpellings_sound {c : Cursor} {rules : List Spelling} (h : readSpellings c = .ok rules) :
    ∃ d, c.Reads (rules.flatMap Spelling.lexemes) d ∧ d.atEnd = true := by
  induction c using readSpellings.induct generalizing rules with
  | case1 c hend =>
    rw [readSpellings, if_pos hend] at h
    cases h
    exact ⟨c, .nil, hend⟩
  | case2 c hend ih =>
    rw [readSpellings, if_neg hend] at h
    obtain ⟨r, hr, h⟩ := bind_eq_ok h
    obtain ⟨rest, hrest, h⟩ := bind_eq_ok h
    cases h
    obtain ⟨d, hreads, hend⟩ := ih r hrest
    exact ⟨d, Cursor.reads_append.2 ⟨_, readSpelling_sound hr, hreads⟩, hend⟩

theorem readSpellings_complete {rules : List Spelling} {c d : Cursor}
    (h : c.Reads ((rules.flatMap Spelling.lexemes).map Lexeme.bare) d) (hend : d.atEnd = true) :
    ∃ rs, readSpellings c = .ok rs ∧ rs.map Spelling.bare = rules.map Spelling.bare := by
  induction rules generalizing c with
  | nil =>
    obtain rfl := Cursor.reads_nil.1 h
    refine ⟨[], ?_, rfl⟩
    rw [readSpellings, if_pos hend]
    rfl
  | cons s rules ih =>
    rw [List.flatMap_cons, List.map_append, Cursor.reads_append] at h
    obtain ⟨e, hs, hrest⟩ := h
    obtain ⟨s', ⟨hlt, hs'⟩, hbare⟩ := readSpelling_complete hs
    obtain ⟨rs, hrs, hrest⟩ := ih hrest
    refine ⟨s' :: rs, ?_, by simp [hbare, hrest]⟩
    rw [readSpellings, if_neg (Spelling.not_atEnd hs), hs']
    change (readSpellings e >>= fun rest => pure (s' :: rest)) = _
    rw [hrs]
    rfl

/-- **A text that is read spells the rules it is read as.** -/
theorem spelled_of_spellings {source : String} {rules : List Spelling}
    (h : spellings source = .ok rules) :
    Spelled source.toList (rules.flatMap Spelling.lexemes) := by
  obtain ⟨d, hreads, hend⟩ := readSpellings_sound h
  exact hreads.spelled hend

/-- **A text that spells rules is read as those.** -/
theorem exists_spellings {source : String} {rules : List Spelling}
    (h : Spelled source.toList (rules.flatMap Spelling.lexemes)) :
    ∃ rs, spellings source = .ok rs ∧ rs.map Spelling.bare = rules.map Spelling.bare := by
  obtain ⟨d, hreads, hend⟩ := h.exists_reads (parted_rules rules) (c := .ofText source.toList) rfl
  exact readSpellings_complete hreads hend

theorem spellings_eq_error_iff {source : String} :
    (∃ fault, spellings source = .error fault) ↔
      ¬ ∃ rules : List Spelling, Spelled source.toList (rules.flatMap Spelling.lexemes) := by
  constructor
  · rintro ⟨fault, hfault⟩ ⟨rules, hspelled⟩
    obtain ⟨rs, hrs, _⟩ := exists_spellings hspelled
    rw [hfault] at hrs
    cases hrs
  · intro hno
    cases h : spellings source with
    | error fault => exact ⟨fault, rfl⟩
    | ok rules => exact absurd ⟨rules, spelled_of_spellings h⟩ hno

end ArrowMachine.Rule
