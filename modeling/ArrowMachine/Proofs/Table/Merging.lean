import ArrowMachine.Proofs.Outcome
import ArrowMachine.Proofs.Table.Settling
import Mathlib.Data.List.TakeWhile

/-!
How a program is merged.

`Program.Merges` lists the ways in which merging can end: two explicit edges conflict, two wildcard edges
conflict, the search for a pattern goes wrong, the initial state is not settled, a row is too wide, or
there is a table. `Program.merges` says that merging always ends in one of these ways, and all that is
proved of tables goes through it.
-/
namespace ArrowMachine

namespace Program

variable {p : Program}

/-- Statement number `i` has the edge `e`. -/
def Has (p : Program) (i : Nat) (e : Edge) : Prop := ∃ x, p.rules[i]? = some x ∧ e ∈ x.edges

/-- No search for a pattern in the name of a state goes wrong. -/
def Answers (p : Program) : Prop := ∀ t ∈ p.trials, t.crosses = false

/-- The claims of the wildcard edges, in order. -/
def bids (p : Program) : List Claim := p.offers.filterMap Offer.claim?

theorem mem_zipIdx_rules {x : Expansion} {i : Nat} :
    (x, i) ∈ p.rules.zipIdx ↔ p.rules[i]? = some x :=
  List.mk_mem_zipIdx_iff_getElem?

theorem mem_claims {c : Claim} :
    c ∈ p.claims ↔ ∃ e, p.Has c.rule e ∧ e.origin = .state c.state ∧ e.entry = c.entry := by
  unfold claims
  simp only [List.mem_flatMap, List.mem_filterMap, Prod.exists, mem_zipIdx_rules]
  constructor
  · rintro ⟨x, i, hx, e, he, hclaim⟩
    split at hclaim
    · next name horigin =>
      obtain rfl := Option.some.inj hclaim
      exact ⟨e, ⟨x, hx, he⟩, horigin, rfl⟩
    · cases hclaim
  · rintro ⟨e, ⟨x, hx, he⟩, horigin, hentry⟩
    refine ⟨x, c.rule, hx, e, he, ?_⟩
    rw [horigin, hentry]

theorem mem_trials {t : Trial} :
    t ∈ p.trials ↔ ∃ e seat, p.Has t.claim.rule e ∧ e.origin = .wildcard seat t.wildcard ∧
      t.claim.state ∈ p.states ∧ e.entry = t.claim.entry := by
  unfold trials
  simp only [List.mem_flatMap, Prod.exists, mem_zipIdx_rules]
  constructor
  · rintro ⟨x, i, hx, e, he, ht⟩
    split at ht
    · cases ht
    · next seat w horigin =>
      obtain ⟨state, hstate, rfl⟩ := List.mem_map.1 ht
      exact ⟨e, seat, ⟨x, hx, he⟩, horigin, hstate, rfl⟩
  · rintro ⟨e, seat, ⟨x, hx, he⟩, horigin, hstate, hentry⟩
    refine ⟨x, t.claim.rule, hx, e, he, ?_⟩
    rw [horigin, hentry]
    exact List.mem_map.2 ⟨t.claim.state, hstate, rfl⟩

/-- The wildcard edges that are tried on states, up to the first search that goes wrong. -/
def tried (p : Program) : List Trial := p.trials.takeWhile fun t => !t.crosses

theorem Answers.tried_eq (h : p.Answers) : p.tried = p.trials :=
  List.takeWhile_eq_self_iff.2 fun t ht => by simp [h t ht]

theorem answers_of_find?_eq_none (h : p.trials.find? (·.crosses) = none) : p.Answers :=
  fun t ht => by simpa using List.find?_eq_none.1 h t ht

/-- What a trial claims, if it claims anything. -/
def bid? (p : Program) (t : Trial) : Option Claim :=
  (t.offer? (p.claims.map Claim.labelPlace)).bind Offer.claim?

theorem bids_eq (p : Program) : p.bids = p.tried.filterMap p.bid? := by
  unfold bids offers tried
  rw [List.filterMap_filterMap]
  rfl

/-- A trial that covers its state makes its claim unless the label is explicit there. -/
theorem bid?_eq_ite (t : Trial) :
    p.bid? t = if t.wildcard.covers t.claim.state = true ∧
      t.claim.labelPlace ∉ p.claims.map Claim.labelPlace then some t.claim else none := by
  unfold bid? Trial.offer?
  by_cases hcovers : t.wildcard.covers t.claim.state = true
  · by_cases hexplicit : t.claim.labelPlace ∈ p.claims.map Claim.labelPlace
    · simp [hcovers, hexplicit, Offer.claim?]
    · simp [hcovers, hexplicit, Offer.claim?]
  · simp [hcovers]

theorem bid?_eq_some_iff {t : Trial} {c : Claim} :
    p.bid? t = some c ↔ t.claim = c ∧ t.wildcard.covers t.claim.state = true ∧
      t.claim.labelPlace ∉ p.claims.map Claim.labelPlace := by
  rw [bid?_eq_ite]
  simp [and_comm]

theorem mem_bids {c : Claim} :
    c ∈ p.bids ↔ ∃ t ∈ p.tried, t.claim = c ∧ t.wildcard.covers c.state = true ∧
      c.labelPlace ∉ p.claims.map Claim.labelPlace := by
  rw [bids_eq, List.mem_filterMap]
  refine exists_congr fun t => and_congr_right fun _ => ?_
  rw [bid?_eq_some_iff]
  exact and_congr_right fun hclaim => by rw [hclaim]

/-- The ways in which merging ends. -/
inductive Merges (p : Program) (cap : Capacity) (settings : Settings) : Except CompileError Compiled → Prop
  | explicit {o c : Claim} (hconflict : FirstConflict Claim.filterPlace p.claims o c) :
      Merges p cap settings (.error (conflictError o c))
  | wildcards {o c : Claim} (hclaims : Peaceful Claim.filterPlace p.claims)
      (hconflict : FirstConflict Claim.labelPlace p.bids o c) :
      Merges p cap settings (.error (conflictError o c))
  | crosses {t : Trial} (hclaims : Peaceful Claim.filterPlace p.claims)
      (hbids : Peaceful Claim.labelPlace p.bids) (ht : p.trials.find? (·.crosses) = some t) :
      Merges p cap settings (.error (.crossedGroup t.wildcard.text t.claim.state))
  | unsettled {e : CompileError} (hclaims : Peaceful Claim.filterPlace p.claims)
      (hbids : Peaceful Claim.labelPlace p.bids) (hanswers : p.Answers)
      (hinitial : p.initialState = .error e) : Merges p cap settings (.error e)
  | tooWide {initial : String} {missing : Nat} (hclaims : Peaceful Claim.filterPlace p.claims)
      (hbids : Peaceful Claim.labelPlace p.bids) (hanswers : p.Answers)
      (hinitial : p.initialState = .ok initial)
      (hwidth : p.excess? cap settings (p.claims ++ p.bids) = some missing) :
      Merges p cap settings (.error (.tooWide missing))
  | table {initial : String} (hclaims : Peaceful Claim.filterPlace p.claims)
      (hbids : Peaceful Claim.labelPlace p.bids) (hanswers : p.Answers)
      (hinitial : p.initialState = .ok initial)
      (hwidth : p.excess? cap settings (p.claims ++ p.bids) = none) :
      Merges p cap settings (.ok (p.table settings initial (p.claims ++ p.bids)))

/-- **Merging ends in one of these ways.** -/
theorem merges (p : Program) (cap : Capacity) (settings : Settings) :
    p.Merges cap settings (p.merge cap settings).result := by
  by_cases hclaims : Peaceful Claim.filterPlace p.claims
  · have hexplicit : settle Claim.filterPlace some [] p.claims = ⟨p.claims, none⟩ :=
      settle_of_peaceful some (by simpa using hclaims)
    by_cases hbids : Peaceful Claim.labelPlace p.bids
    · have hoffered : settle Claim.labelPlace Offer.claim? [] p.offers = ⟨p.offers, none⟩ :=
        settle_of_peaceful Offer.claim? hbids
      unfold merge
      simp only [hexplicit, hoffered]
      cases hcross : p.trials.find? (·.crosses) with
      | some t => exact .crosses hclaims hbids hcross
      | none =>
        have hanswers := answers_of_find?_eq_none hcross
        simp only
        cases hinitial : p.initialState with
        | error e => exact .unsettled hclaims hbids hanswers hinitial
        | ok initial =>
          simp only
          cases hwidth : p.excess? cap settings (p.claims ++ p.offers.filterMap Offer.claim?) with
          | some missing => exact .tooWide hclaims hbids hanswers hinitial hwidth
          | none => exact .table hclaims hbids hanswers hinitial hwidth
    · obtain ⟨o, c, hconflict, hsettle⟩ := settle_of_not_peaceful Offer.claim? hbids
      unfold merge
      simp only [hexplicit, hsettle]
      exact .wildcards hclaims hconflict
  · have hclaims' : ¬ Peaceful Claim.filterPlace (p.claims.filterMap some) := by simpa using hclaims
    obtain ⟨o, c, hconflict, hsettle⟩ := settle_of_not_peaceful some hclaims'
    rw [List.filterMap_some] at hconflict
    unfold merge
    simp only [hsettle]
    exact .explicit hconflict

end Program

/-! ## Statements -/

variable {cap : Capacity} {settings : Settings} {ss : List Statement} {rules : List Expansion} {t : Compiled}

theorem exists_of_mem_expanded (h : ss.mapM Statement.expand = .ok rules) {x : Expansion}
    (hx : x ∈ rules) : ∃ s ∈ ss, s.expand = .ok x := exists_of_mem_right (forall₂_of_mapM h) hx

theorem exists_expanded_of_mem (h : ss.mapM Statement.expand = .ok rules) {s : Statement}
    (hs : s ∈ ss) : ∃ x ∈ rules, s.expand = .ok x := exists_of_mem_left (forall₂_of_mapM h) hs

theorem compileStatements_result (h : ss.mapM Statement.expand = .ok rules) :
    (compileStatements cap settings ss).result = ((⟨rules⟩ : Program).merge cap settings).result := by
  rw [compileStatements, h]

/-- What is compiled has been expanded and merged. -/
theorem merged_of_compiled (h : (compileStatements cap settings ss).result = .ok t) :
    ∃ rules initial, ss.mapM Statement.expand = .ok rules ∧ (⟨rules⟩ : Program).Answers ∧
      (⟨rules⟩ : Program).initialState = .ok initial ∧
      t = (⟨rules⟩ : Program).table settings initial
        ((⟨rules⟩ : Program).claims ++ (⟨rules⟩ : Program).bids) := by
  cases hrules : ss.mapM Statement.expand with
  | error e =>
    rw [compileStatements, hrules] at h
    cases h
  | ok rules =>
    rw [compileStatements_result hrules] at h
    have hmerges := (⟨rules⟩ : Program).merges cap settings
    rw [h] at hmerges
    cases hmerges with
    | @table initial hclaims hbids hanswers hinitial hwidth =>
      exact ⟨rules, initial, rfl, hanswers, hinitial, rfl⟩

end ArrowMachine
