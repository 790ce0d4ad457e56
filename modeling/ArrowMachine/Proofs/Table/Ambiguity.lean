import ArrowMachine.Proofs.Table.Rows

/-!
When a program is ambiguous.

Two statements clash if they have edges from one state with one filter key, or wildcard edges of one label
that cover one state, which has no edge of that label. Merging refuses a program as ambiguous exactly if
two statements clash and wildcards are tried far enough to notice (`ambiguous_iff_clash`). They are tried
to the end unless the search for a pattern goes wrong, which can hide a clash
(`crossing_hides_clash`).
-/
namespace ArrowMachine

/-- A program is refused because two statements claim one transition. -/
def IsAmbiguous (result : Except CompileError Compiled) : Prop :=
  ∃ state label places, result = .error (.refused ⟨.ambiguous state label, places⟩)

theorem isAmbiguous_conflictError (o c : Claim) : IsAmbiguous (.error (conflictError o c)) :=
  ⟨c.state, c.entry.label, _, rfl⟩

namespace Program

variable {p : Program}

theorem not_isAmbiguous_initialState {e : CompileError} (h : p.initialState = .error e) :
    ¬ IsAmbiguous (.error e) := by
  rintro ⟨state, label, places, herror⟩
  obtain rfl : e = _ := Except.error.inj herror
  unfold initialState at h
  split at h <;> cases h

/-- Two statements have edges from one state with one filter key. -/
def EdgesClash (p : Program) : Prop :=
  ∃ i j e f state, i ≠ j ∧ p.Has i e ∧ p.Has j f ∧ e.origin = .state state ∧
    f.origin = .state state ∧ e.entry.filter.key = f.entry.filter.key

/-- No edge from the state has the label. -/
def Lacks (p : Program) (state label : String) : Prop :=
  ∀ i e, p.Has i e → e.origin = .state state → e.entry.label ≠ label

/-- Two statements have wildcard edges of one label that cover one state, which has no edge of that
label. -/
def WildcardsClash (p : Program) : Prop :=
  ∃ i j e f k v l w, ∃ state ∈ p.states, i ≠ j ∧ p.Has i e ∧ p.Has j f ∧
    e.origin = .wildcard k v ∧ f.origin = .wildcard l w ∧ e.entry.label = f.entry.label ∧
    v.covers state = true ∧ w.covers state = true ∧ p.Lacks state e.entry.label

/-- Two statements clash by wildcard edges that are tried on a state before a search goes wrong. -/
def TriedClash (p : Program) : Prop :=
  ∃ t ∈ p.tried, ∃ u ∈ p.tried, t.claim.rule ≠ u.claim.rule ∧ t.claim.state = u.claim.state ∧
    t.claim.entry.label = u.claim.entry.label ∧ t.wildcard.covers t.claim.state = true ∧
    u.wildcard.covers u.claim.state = true ∧ p.Lacks t.claim.state t.claim.entry.label

theorem lacks_iff {c : Claim} :
    p.Lacks c.state c.entry.label ↔ c.labelPlace ∉ p.claims.map Claim.labelPlace := by
  rw [List.mem_map]
  constructor
  · rintro h ⟨d, hd, hplace⟩
    obtain ⟨e, he, horigin, hentry⟩ := mem_claims.1 hd
    obtain ⟨hstate, hlabel⟩ : d.state = c.state ∧ d.entry.label = c.entry.label := by
      simpa [Claim.labelPlace] using hplace
    refine h _ e he (hstate ▸ horigin) ?_
    rw [hentry, hlabel]
  · intro h i e he horigin hlabel
    refine h ⟨⟨i, c.state, e.entry⟩, mem_claims.2 ⟨e, he, horigin, rfl⟩, ?_⟩
    simp [Claim.labelPlace, hlabel]

theorem edgesClash_iff : p.EdgesClash ↔ ¬ Peaceful Claim.filterPlace p.claims := by
  constructor
  · rintro ⟨i, j, e, f, state, hij, he, hf, heorigin, hforigin, hkey⟩ hpeaceful
    refine hij (hpeaceful ⟨i, state, e.entry⟩ (mem_claims.2 ⟨e, he, heorigin, rfl⟩)
      ⟨j, state, f.entry⟩ (mem_claims.2 ⟨f, hf, hforigin, rfl⟩) ?_)
    simp [Claim.filterPlace, hkey]
  · intro h
    simp only [Peaceful, not_forall] at h
    obtain ⟨c, hc, d, hd, hplace, hrule⟩ := h
    obtain ⟨e, he, heorigin, hentry⟩ := mem_claims.1 hc
    obtain ⟨f, hf, hforigin, hfentry⟩ := mem_claims.1 hd
    obtain ⟨hstate, hkey⟩ : c.state = d.state ∧ c.entry.filter.key = d.entry.filter.key := by
      simpa [Claim.filterPlace] using hplace
    refine ⟨c.rule, d.rule, e, f, c.state, hrule, he, hf, heorigin, hstate ▸ hforigin, ?_⟩
    rw [hentry, hfentry, hkey]

theorem triedClash_iff : p.TriedClash ↔ ¬ Peaceful Claim.labelPlace p.bids := by
  constructor
  · rintro ⟨t, ht, u, hu, hrule, hstate, hlabel, htcovers, hucovers, hlacks⟩ hpeaceful
    have hplace : t.claim.labelPlace = u.claim.labelPlace := by
      simp [Claim.labelPlace, hstate, hlabel]
    have hnew := lacks_iff.1 hlacks
    exact hrule (hpeaceful t.claim (mem_bids.2 ⟨t, ht, rfl, htcovers, hnew⟩)
      u.claim (mem_bids.2 ⟨u, hu, rfl, hucovers, hplace ▸ hnew⟩) hplace)
  · intro h
    simp only [Peaceful, not_forall] at h
    obtain ⟨c, hc, d, hd, hplace, hrule⟩ := h
    obtain ⟨t, ht, rfl, htcovers, hnew⟩ := mem_bids.1 hc
    obtain ⟨u, hu, rfl, hucovers, _⟩ := mem_bids.1 hd
    obtain ⟨hstate, hlabel⟩ : t.claim.state = u.claim.state ∧
        t.claim.entry.label = u.claim.entry.label := by simpa [Claim.labelPlace] using hplace
    exact ⟨t, ht, u, hu, hrule, hstate, hlabel, htcovers, hucovers, lacks_iff.2 hnew⟩

/-- Where no search goes wrong, every clash of wildcards is noticed. -/
theorem Answers.triedClash_iff (h : p.Answers) : p.TriedClash ↔ p.WildcardsClash := by
  unfold TriedClash
  rw [h.tried_eq]
  constructor
  · rintro ⟨t, ht, u, hu, hrule, hstate, hlabel, htcovers, hucovers, hlacks⟩
    obtain ⟨e, k, he, heorigin, hmem, hentry⟩ := mem_trials.1 ht
    obtain ⟨f, l, hf, hforigin, _, hfentry⟩ := mem_trials.1 hu
    rw [← hentry] at hlabel hlacks
    rw [← hfentry] at hlabel
    exact ⟨_, _, e, f, k, _, l, _, _, hmem, hrule, he, hf, heorigin, hforigin, hlabel, htcovers,
      hstate ▸ hucovers, hlacks⟩
  · rintro ⟨i, j, e, f, k, v, l, w, state, hstate, hij, he, hf, heorigin, hforigin, hlabel, hv, hw,
      hlacks⟩
    exact ⟨⟨v, ⟨i, state, e.entry⟩⟩, mem_trials.2 ⟨e, k, he, heorigin, hstate, rfl⟩,
      ⟨w, ⟨j, state, f.entry⟩⟩, mem_trials.2 ⟨f, l, hf, hforigin, hstate, rfl⟩, hij, rfl, hlabel, hv,
      hw, hlacks⟩

/-! ## What merging reports -/

variable {cap : Capacity} {settings : Settings} {result : Except CompileError Compiled}

theorem Merges.not_isAmbiguous (h : p.Merges cap settings result)
    (hclaims : Peaceful Claim.filterPlace p.claims) (hbids : Peaceful Claim.labelPlace p.bids) :
    ¬ IsAmbiguous result := by
  cases h with
  | explicit hconflict => exact absurd hclaims hconflict.not_peaceful
  | wildcards _ hconflict => exact absurd hbids hconflict.not_peaceful
  | crosses => simp [IsAmbiguous]
  | unsettled _ _ _ hinitial => exact not_isAmbiguous_initialState hinitial
  | tooWide => simp [IsAmbiguous]
  | table => simp [IsAmbiguous]

theorem Merges.of_edgesClash (h : p.Merges cap settings result) (hclash : p.EdgesClash) :
    ∃ o c, FirstConflict Claim.filterPlace p.claims o c ∧ result = .error (conflictError o c) := by
  rw [edgesClash_iff] at hclash
  cases h with
  | explicit hconflict => exact ⟨_, _, hconflict, rfl⟩
  | wildcards hclaims => exact absurd hclaims hclash
  | crosses hclaims => exact absurd hclaims hclash
  | unsettled hclaims => exact absurd hclaims hclash
  | tooWide hclaims => exact absurd hclaims hclash
  | table hclaims => exact absurd hclaims hclash

theorem Merges.of_triedClash (h : p.Merges cap settings result) (hnone : ¬ p.EdgesClash)
    (hclash : p.TriedClash) :
    ∃ o c, FirstConflict Claim.labelPlace p.bids o c ∧ result = .error (conflictError o c) := by
  rw [triedClash_iff] at hclash
  cases h with
  | explicit hconflict => exact absurd (edgesClash_iff.2 hconflict.not_peaceful) hnone
  | wildcards _ hconflict => exact ⟨_, _, hconflict, rfl⟩
  | crosses _ hbids => exact absurd hbids hclash
  | unsettled _ hbids => exact absurd hbids hclash
  | tooWide _ hbids => exact absurd hbids hclash
  | table _ hbids => exact absurd hbids hclash

end Program

/-- **When a program is ambiguous.** Statements that expand are refused as ambiguous exactly if two of
them clash by edges from one state, or by wildcard edges that are tried before a search goes wrong; if no
search goes wrong, these are all wildcard edges. A clash of edges is reported first. What is reported is
the first claim, in order, to a place that another statement claimed before, behind the first claim to
that place. -/
theorem ambiguous_iff_clash (settings : Settings) {ss : List Statement} {rules : List Expansion}
    (h : ss.mapM Statement.expand = .ok rules) :
    let p : Program := ⟨rules⟩
    let result := (compileStatements cap settings ss).result
    (IsAmbiguous result ↔ p.EdgesClash ∨ p.TriedClash) ∧
    (p.Answers → (p.TriedClash ↔ p.WildcardsClash)) ∧
    (p.EdgesClash → ∃ o c, FirstConflict Claim.filterPlace p.claims o c ∧
      result = .error (.of (.ambiguous c.state c.entry.label) [o.entry.pos, c.entry.pos])) ∧
    (¬ p.EdgesClash → p.TriedClash → ∃ o c, FirstConflict Claim.labelPlace p.bids o c ∧
      result = .error (.of (.ambiguous c.state c.entry.label) [o.entry.pos, c.entry.pos])) := by
  intro p result
  have hmerges : p.Merges cap settings result := by
    rw [show result = (p.merge cap settings).result from compileStatements_result h]
    exact p.merges cap settings
  refine ⟨⟨?_, ?_⟩, Program.Answers.triedClash_iff, hmerges.of_edgesClash, hmerges.of_triedClash⟩
  · intro hambiguous
    by_contra hnone
    rw [Program.edgesClash_iff, Program.triedClash_iff, not_or, not_not, not_not] at hnone
    exact hmerges.not_isAmbiguous hnone.1 hnone.2 hambiguous
  · intro hclash
    have hconflict : ∃ o c, result = .error (conflictError o c) := by
      by_cases hedges : p.EdgesClash
      · obtain ⟨o, c, _, hresult⟩ := hmerges.of_edgesClash hedges
        exact ⟨o, c, hresult⟩
      · obtain ⟨o, c, _, hresult⟩ := hmerges.of_triedClash hedges (hclash.resolve_left hedges)
        exact ⟨o, c, hresult⟩
    obtain ⟨o, c, hresult⟩ := hconflict
    rw [hresult]
    exact isAmbiguous_conflictError o c

/-! ## Two wildcards of one label -/

/-- The statements of `.xyz -g> t; * -f> t; * -f> t;`, with others behind the first. -/
def starred (others : List Statement) : List Statement :=
  let star : Statement := ⟨[.wildcard ⟨none, none⟩, .transition ⟨"f", .right, [], none⟩,
    .state ⟨"t", false, false, none⟩], none⟩
  ⟨[.state ⟨"xyz", true, false, none⟩, .transition ⟨"g", .right, [], none⟩,
    .state ⟨"t", false, false, none⟩], none⟩ :: others ++ [star, star]

/-- What the two wildcards of `starred` expand to. -/
def star : Expansion where
  edges := [⟨.wildcard 0 ⟨none, none⟩, ⟨"f", ⟨"f", []⟩, ⟨"t", [.consume, .set "t"]⟩, none⟩⟩]
  states := ["t"]
  labels := ["f"]
  initial := []
  accepting := []

/-- What `starred` expands to. -/
def starredRules (others : List Expansion) : List Expansion :=
  ⟨[⟨.state "xyz", ⟨"g", ⟨"g", []⟩, ⟨"t", [.consume, .set "t"]⟩, none⟩⟩], ["xyz", "t"], ["g"],
    [⟨"xyz", true, false, none⟩], []⟩ :: others ++ [star, star]

theorem starred_wildcardsClash {others : List Expansion}
    (h : (⟨starredRules others⟩ : Program).Lacks "t" "f") :
    (⟨starredRules others⟩ : Program).WildcardsClash := by
  have hstate : "t" ∈ (⟨starredRules others⟩ : Program).states := by
    simp [Program.states, starredRules, List.mem_eraseDups]
  have hfirst : (starredRules others)[others.length + 1]? = some star := by simp [starredRules]
  have hsecond : (starredRules others)[others.length + 2]? = some star := by simp [starredRules]
  exact ⟨_, _, _, _, 0, _, 0, _, "t", hstate, by omega, ⟨star, hfirst, List.mem_singleton_self _⟩,
    ⟨star, hsecond, List.mem_singleton_self _⟩, rfl, rfl, rfl, rfl, rfl, h⟩

/-- The two wildcards of `starred` make it ambiguous. -/
theorem starred_isAmbiguous : (starred []).mapM Statement.expand = .ok (starredRules []) ∧
    IsAmbiguous (compileStatements .ample {} (starred [])).result := by
  have h : (starred []).mapM Statement.expand = .ok (starredRules []) := rfl
  have hanswers : (⟨starredRules []⟩ : Program).Answers := by
    unfold Program.Answers
    decide
  have hlacks : (⟨starredRules []⟩ : Program).Lacks "t" "f" :=
    (Program.lacks_iff (c := ⟨0, "t", ⟨"f", ⟨"f", []⟩, ⟨"t", []⟩, none⟩⟩)).2 (by decide)
  obtain ⟨hiff, hall, _, _⟩ := ambiguous_iff_clash {} h
  exact ⟨h, hiff.2 (Or.inr ((hall hanswers).2 (starred_wildcardsClash hlacks)))⟩

/-- The statement of `/((x)|y|z)*+/ -a> t;`: in `xyz` the match leaves a group that ends before it
begins. -/
def crossing : Statement := ⟨[.wildcard ⟨(Pattern.ofText .ample "((x)|y|z)*+").toOption, none⟩,
  .transition ⟨"a", .right, [], none⟩, .state ⟨"t", false, false, none⟩], none⟩

/-- With `crossing` before them the wildcards of `starred` clash as before, and yet the program is not
refused as ambiguous: the search for the pattern goes wrong first. -/
theorem crossing_hides_clash : ∃ rules,
    (starred [crossing]).mapM Statement.expand = .ok rules ∧
    (⟨rules⟩ : Program).WildcardsClash ∧
    (compileStatements .ample {} (starred [crossing])).result =
      .error (.crossedGroup "/((x)|y|z)*+/" "xyz") ∧
    ¬ IsAmbiguous (compileStatements .ample {} (starred [crossing])).result := by
  have hresult : (compileStatements .ample {} (starred [crossing])).result =
      .error (.crossedGroup "/((x)|y|z)*+/" "xyz") := by decide +kernel
  have h : (starred [crossing]).mapM Statement.expand = .ok (starredRules [
      { edges := [⟨.wildcard 0 ⟨(Pattern.ofText .ample "((x)|y|z)*+").toOption, none⟩,
          ⟨"a", ⟨"a", []⟩, ⟨"t", [.consume, .set "t"]⟩, none⟩⟩]
        states := ["t"]
        labels := ["a"]
        initial := []
        accepting := [] }]) := rfl
  refine ⟨_, h, starred_wildcardsClash ?_, hresult, ?_⟩
  · exact (Program.lacks_iff (c := ⟨0, "t", ⟨"f", ⟨"f", []⟩, ⟨"t", []⟩, none⟩⟩)).2 (by decide)
  · rw [hresult]
    simp [IsAmbiguous]

end ArrowMachine
