import ArrowMachine.Proofs.Pattern.Sufficing
import ArrowMachine.Proofs.Table.Compiling
import ArrowMachine.Proofs.Text.Quoting

/-!
How compiling a text may end.

A text is compiled, or it is refused for places that the message shows with lines of the text, or it asks
for something that cannot be handled at all: a pattern that cannot be kept or takes too much of the stack, a
search that goes wrong, or a row that is wider than there is room for. `Overtaxes` names these, and each shows
as itself and not as a refusal (`compile_ends`).
-/
namespace ArrowMachine

/-- An element is the first of a list to have a property. -/
def IsFirst {α : Type} (P : α → Prop) (l : List α) (a : α) : Prop :=
  ∃ before after, l = before ++ a :: after ∧ P a ∧ ∀ b ∈ before, ¬ P b

theorem find?_eq_some_iff_isFirst {α : Type} {p : α → Bool} {l : List α} {a : α} :
    l.find? p = some a ↔ IsFirst (p · = true) l a := by
  rw [List.find?_eq_some_iff_append]
  constructor
  · rintro ⟨ha, before, after, hl, hbefore⟩
    exact ⟨before, after, hl, ha, fun b hb => by simpa using hbefore b hb⟩
  · rintro ⟨before, after, hl, ha, hbefore⟩
    exact ⟨ha, before, after, hl, fun b hb => by simpa using hbefore b hb⟩

namespace Program

variable {p : Program} {cap : Capacity} {settings : Settings} {missing : Nat}

/-- How many reads a claim lacks for its row. -/
def lacking (p : Program) (settings : Settings) (c : Claim) : Nat :=
  c.entry.filter.missing (p.channelCount settings.stackCount).toNat

theorem excess?_eq_some_iff {cs : List Claim} : p.excess? cap settings cs = some missing ↔
    ∃ c, IsFirst (cap.room < p.lacking settings ·) cs c ∧
      p.lacking settings c = missing := by
  unfold excess?
  rw [List.find?_map, Option.map_eq_some_iff]
  refine exists_congr fun c => and_congr_left fun _ => ?_
  rw [find?_eq_some_iff_isFirst]
  simp only [Function.comp_apply, decide_eq_true_eq]
  rfl

end Program

/-! ## Texts that ask too much -/

/-- A text asks for what cannot be handled, although nothing is wrong with it that it could be refused for.
The first rule that does not make a statement has a pattern that cannot be kept, or read; or no statements clash,
and of all searches for a pattern one is the first to go wrong; or all searches answer and one state is marked
as initial, and of all rows one is the first that lacks more reads than can be added. -/
inductive Overtaxes (cap : Capacity) (settings : Settings) (source : String) : CompileError → Prop
  | pattern {before after : List Rule.Spelling} {s : Rule.Spelling} {failure : Pattern.Failure}
      (hread : Rule.spellings source = .ok (before ++ s :: after))
      (hbefore : ∀ r ∈ before, ∃ st, r.Says cap st) (hunkept : s.Unkept cap failure) :
      Overtaxes cap settings source (.pattern failure)
  | search {ss : List Statement} {p : Program} {t : Trial} (hread : statementsOf cap source = .ok ss)
      (hexpand : ss.mapM Statement.expand = .ok p.rules) (hedges : ¬ p.EdgesClash)
      (htried : ¬ p.TriedClash) (ht : IsFirst (·.crosses = true) p.trials t) :
      Overtaxes cap settings source (.crossedGroup t.wildcard.text t.claim.state)
  | width {ss : List Statement} {p : Program} {initial : String} {c : Claim}
      (hread : statementsOf cap source = .ok ss) (hexpand : ss.mapM Statement.expand = .ok p.rules)
      (hedges : ¬ p.EdgesClash) (hwildcards : ¬ p.WildcardsClash) (hanswers : p.Answers)
      (hinitial : ∀ name, name ∈ p.initial.map (·.name) ↔ name = initial)
      (hc : IsFirst (cap.room < p.lacking settings ·) (p.claims ++ p.bids) c) :
      Overtaxes cap settings source (.tooWide (p.lacking settings c))

variable {cap : Capacity} {settings : Settings} {source : String} {e : CompileError}

/-! ## Patterns that cannot be kept -/

theorem Rule.Spelling.Unkept.statement_eq {s : Rule.Spelling} {failure : Pattern.Failure}
    (h : s.Unkept cap failure) : s.statement cap = .error (.pattern failure) := by
  obtain ⟨l, body, hsource, hbody, hp, hvalid⟩ := h
  have hpart : s.source.part cap = .error (.pattern failure) := by
    rw [hsource, Rule.SourceSpelling.part, Rule.patternOf, Rule.dropLast_drop_of_slashed hbody, hp]
    cases failure with
    | invalid problem place => exact absurd rfl (hvalid problem place)
    | _ => rfl
  rw [Rule.Spelling.statement, hpart]
  rfl

/-- The rules of a text make statements one after the other, up to the first that does not. -/
theorem statementsOf_eq_pattern_iff {failure : Pattern.Failure} :
    statementsOf cap source = .error (.pattern failure) ↔ ∃ before s after,
      Rule.spellings source = .ok (before ++ s :: after) ∧ (∀ r ∈ before, ∃ st, r.Says cap st) ∧
        s.Unkept cap failure := by
  cases hrules : Rule.spellings source with
  | error fault =>
    rw [statementsOf, hrules]
    constructor
    · intro h
      cases h
    · rintro ⟨_, _, _, h, _⟩
      cases h
  | ok rules =>
    have hslashed : ∀ r ∈ rules, r.Slashed := fun r => (Rule.spelled_of_spellings hrules).slashed
    rw [Rule.statementsOf_eq hrules, mapM_eq_error_iff]
    constructor
    · rintro ⟨before, s, after, rfl, hbefore, hs⟩
      refine ⟨before, s, after, rfl, fun r hr => ?_, ?_⟩
      · obtain ⟨st, hst⟩ := hbefore r hr
        exact ⟨st, Rule.Spelling.statement_eq_ok (hslashed r (List.mem_append_left _ hr)) hst⟩
      · rcases Rule.Spelling.statement_eq_error (hslashed s (by simp)) hs with hrefused | ⟨_, hunkept, heq⟩
        · obtain ⟨_, heq, _⟩ := hrefused.refusedFor
          cases heq
        · rwa [CompileError.pattern.inj heq]
    · rintro ⟨before, s, after, heq, hbefore, hs⟩
      obtain rfl := Except.ok.inj heq
      refine ⟨before, s, after, rfl, fun r hr => ?_, hs.statement_eq⟩
      obtain ⟨st, hst⟩ := hbefore r hr
      exact ⟨st, (Rule.Spelling.statement_eq_ok_iff (hslashed r (List.mem_append_left _ hr))).2 hst⟩

/-! ## Programs that ask too much -/

namespace Program

variable {p : Program} {result : Except CompileError Compiled}

theorem Merges.eq_of_crosses (h : p.Merges cap settings result) (hedges : ¬ p.EdgesClash)
    (htried : ¬ p.TriedClash) {t : Trial} (ht : IsFirst (·.crosses = true) p.trials t) :
    result = .error (.crossedGroup t.wildcard.text t.claim.state) := by
  have hmem : t ∈ p.trials ∧ t.crosses = true := by
    obtain ⟨before, after, hl, ht, _⟩ := ht
    exact ⟨hl ▸ List.mem_append_right _ List.mem_cons_self, ht⟩
  -- All that would be looked at behind the searches needs them to answer.
  have hnot : ¬ p.Answers := fun hanswers => by simpa [hmem.2] using hanswers t hmem.1
  cases h with
  | explicit hconflict => exact absurd (edgesClash_iff.2 hconflict.not_peaceful) hedges
  | wildcards _ hconflict => exact absurd (triedClash_iff.2 hconflict.not_peaceful) htried
  | crosses _ _ hfirst =>
    rw [find?_eq_some_iff_isFirst.2 ht] at hfirst
    rw [Option.some.inj hfirst]
  | unsettled _ _ hanswers => exact absurd hanswers hnot
  | tooWide _ _ hanswers => exact absurd hanswers hnot
  | table _ _ hanswers => exact absurd hanswers hnot

theorem Merges.eq_of_tooWide (h : p.Merges cap settings result) (hedges : ¬ p.EdgesClash)
    (hwildcards : ¬ p.WildcardsClash) (hanswers : p.Answers) {initial : String}
    (hinitial : ∀ name, name ∈ p.initial.map (·.name) ↔ name = initial) {c : Claim}
    (hc : IsFirst (cap.room < p.lacking settings ·) (p.claims ++ p.bids) c) :
    result = .error (.tooWide (p.lacking settings c)) := by
  have hexcess : p.excess? cap settings (p.claims ++ p.bids) = some (p.lacking settings c) :=
    excess?_eq_some_iff.2 ⟨c, hc, rfl⟩
  have hstate : p.initialState = .ok initial := initialState_eq_ok_iff.2 hinitial
  cases h with
  | explicit hconflict => exact absurd (edgesClash_iff.2 hconflict.not_peaceful) hedges
  | wildcards _ hconflict =>
    rw [← hanswers.triedClash_iff] at hwildcards
    exact absurd (triedClash_iff.2 hconflict.not_peaceful) hwildcards
  | crosses _ _ ht =>
    have hcrosses := hanswers _ (List.mem_of_find?_eq_some ht)
    rw [List.find?_some ht] at hcrosses
    cases hcrosses
  | unsettled _ _ _ herror =>
    rw [hstate] at herror
    cases herror
  | tooWide _ _ _ _ hwidth =>
    rw [hexcess] at hwidth
    rw [Option.some.inj hwidth]
  | table _ _ _ _ hwidth =>
    rw [hexcess] at hwidth
    cases hwidth

end Program

/-! ## Ends -/

theorem Overtaxes.result (h : Overtaxes cap settings source e) :
    (compile cap settings source).result = .error e := by
  cases h with
  | pattern hread hbefore hunkept =>
    rw [compile, statementsOf_eq_pattern_iff.2 ⟨_, _, _, hread, hbefore, hunkept⟩]
  | @search ss p t hread hexpand hedges htried ht =>
    rw [compile, hread]
    have hmerges := p.merges cap settings
    rw [← compileStatements_result hexpand] at hmerges
    exact hmerges.eq_of_crosses hedges htried ht
  | @width ss p initial c hread hexpand hedges hwildcards hanswers hinitial hc =>
    rw [compile, hread]
    have hmerges := p.merges cap settings
    rw [← compileStatements_result hexpand] at hmerges
    exact hmerges.eq_of_tooWide hedges hwildcards hanswers hinitial hc

/-- A program that is neither merged nor refused asks too much. -/
theorem overtaxes_of_merges {ss : List Statement} {p : Program} (hread : statementsOf cap source = .ok ss)
    (hexpand : ss.mapM Statement.expand = .ok p.rules) (h : p.Merges cap settings (.error e))
    (hrefused : ∀ r, e ≠ .refused r) : Overtaxes cap settings source e := by
  cases h with
  | explicit hconflict => exact absurd rfl (hrefused _)
  | wildcards _ hconflict => exact absurd rfl (hrefused _)
  | crosses hclaims hbids ht =>
    refine .search hread hexpand ?_ ?_ (find?_eq_some_iff_isFirst.1 ht)
    · rwa [Program.edgesClash_iff, not_not]
    · rwa [Program.triedClash_iff, not_not]
  | unsettled _ _ _ hinitial =>
    obtain ⟨r, hr, _⟩ := Program.refusedFor_of_initialState hexpand hinitial
    exact absurd hr (hrefused r)
  | tooWide hclaims hbids hanswers hinitial hwidth =>
    obtain ⟨c, hc, rfl⟩ := Program.excess?_eq_some_iff.1 hwidth
    refine .width hread hexpand ?_ ?_ hanswers (Program.initialState_eq_ok_iff.1 hinitial) hc
    · rwa [Program.edgesClash_iff, not_not]
    · rwa [← hanswers.triedClash_iff, Program.triedClash_iff, not_not]

theorem overtaxes_of_result (h : (compile cap settings source).result = .error e)
    (hrefused : ∀ r, e ≠ .refused r) : Overtaxes cap settings source e := by
  cases hread : statementsOf cap source with
  | error e' =>
    rw [compile, hread] at h
    obtain rfl := Except.error.inj h
    rcases Rule.refusedFor_of_statementsOf hread with ⟨r, hr, _⟩ | ⟨failure, rfl⟩
    · exact absurd hr (hrefused r)
    · obtain ⟨_, _, _, hspellings, hbefore, hunkept⟩ := statementsOf_eq_pattern_iff.1 hread
      exact .pattern hspellings hbefore hunkept
  | ok ss =>
    rw [compile, hread] at h
    change (compileStatements cap settings ss).result = .error e at h
    cases hexpand : ss.mapM Statement.expand with
    | error e' =>
      rw [compileStatements, hexpand] at h
      obtain rfl := Except.error.inj h
      obtain ⟨r, hr, _⟩ := refusedFor_of_mapM_expand hexpand
      exact absurd hr (hrefused r)
    | ok rules =>
      have hmerges := (⟨rules⟩ : Program).merges cap settings
      rw [← compileStatements_result hexpand] at hmerges
      exact overtaxes_of_merges hread hexpand (h ▸ hmerges) hrefused

/-- Whatever a text asks too much of, it is not the calls that are counted out for reading a pattern. -/
theorem Overtaxes.not_outOfCalls : ¬ Overtaxes cap settings source (.pattern .outOfCalls) := by
  rintro (⟨_, _, l, body, _, _, hp, _⟩ | _ | _)
  exact Pattern.ofText_eq_error.2 hp

/-- **How compiling a text ends.** It makes a table, or it ends with a refusal, all of whose places are shown
with lines of the text, exactly if the text does not ask too much; and if it does, compiling ends with what it
asked too much of, and that is no refusal. -/
theorem compile_ends (cap : Capacity) (settings : Settings) (source : String) :
    ((∃ t, (compile cap settings source).result = .ok t) ∨
      (∃ r, (compile cap settings source).result = .error (.refused r) ∧ ∀ p ∈ r.places,
        ∃ line ∈ Text.lines source.toList,
          (r.diagnostic.attach source).placeText? p.place = some (Diagnostic.quote p line)) ↔
      ¬ ∃ e, Overtaxes cap settings source e) ∧
    (∀ e, Overtaxes cap settings source e ↔
      (compile cap settings source).result = .error e ∧ ∀ r, e ≠ .refused r) ∧
    ¬ Overtaxes cap settings source (.pattern .outOfCalls) := by
  have hiff : ∀ e, Overtaxes cap settings source e ↔
      (compile cap settings source).result = .error e ∧ ∀ r, e ≠ .refused r := by
    refine fun e => ⟨fun h => ⟨h.result, ?_⟩, fun h => overtaxes_of_result h.1 h.2⟩
    rintro r rfl
    cases h
  refine ⟨⟨?_, fun hnone => ?_⟩, hiff, Overtaxes.not_outOfCalls⟩
  · rintro (⟨t, ht⟩ | ⟨r, hr, _⟩) ⟨e, he⟩
    · cases he.result.symm.trans ht
    · obtain rfl := Except.error.inj (he.result.symm.trans hr)
      exact ((hiff _).1 he).2 r rfl
  · cases hresult : (compile cap settings source).result with
    | ok t => exact Or.inl ⟨t, rfl⟩
    | error e =>
      by_cases hrefused : ∃ r, e = .refused r
      · obtain ⟨r, rfl⟩ := hrefused
        refine Or.inr ⟨r, rfl, fun p hp => ?_⟩
        obtain ⟨shown, hshown, hpointed⟩ := exists_pointed r.diagnostic (Rule.occupied_of_compile hresult hp)
        obtain ⟨line, hline, rfl⟩ := hpointed.quoted
        exact ⟨line, hline, hshown⟩
      · exact absurd ⟨e, overtaxes_of_result hresult fun r hr => hrefused ⟨r, hr⟩⟩ hnone

/-- A repetition that is counted too far ends neither with a table nor with a refusal. -/
theorem overflow_is_no_refusal :
    (compile .ample {} "/a\x7b4294967295\x7d/ -f> b;").result = .error (.pattern .countTooLarge) ∧
      ¬ ((∃ t, (compile .ample {} "/a\x7b4294967295\x7d/ -f> b;").result = .ok t) ∨
        ∃ r, (compile .ample {} "/a\x7b4294967295\x7d/ -f> b;").result = .error (.refused r)) := by
  have h : (compile .ample {} "/a\x7b4294967295\x7d/ -f> b;").result = .error (.pattern .countTooLarge) := by
    decide +kernel
  rw [h]
  exact ⟨rfl, by rintro (⟨_, h⟩ | ⟨_, h⟩) <;> cases h⟩

end ArrowMachine
