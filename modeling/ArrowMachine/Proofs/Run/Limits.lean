import ArrowMachine.Proofs.Run.Calls
import ArrowMachine.Proofs.Run.Replay

/-!
What a looser limit changes.

A search under a looser budget begins with all the rounds that it makes under its own
(`Rounds.within`). If these find a run that accepts, then it is found in the same round, and the search is
the same (`start_within_of_accepted`). If not, the search goes on from where it was cut short, and what it
settles on, unless it accepts, is the lightest of all that was made, earlier and since
(`workload_le_of_loosened`). A machine that has taken over the same snapshot tells its listeners the same,
and whatever they dispatch comes to the same, for a limit matters to nothing but a search
(`notifyAll_limited`). Together this is `Machine.consume_limited`.
-/
namespace ArrowMachine

open Search (Plan Branch State Verdict Rounds)

namespace Search

variable {plan : Plan} {s r r' : Snapshot} {bs bs' : List Branch} {st st' st'' : State} {n n' : Nat}
  {fuel fuel' : Nat} {v v' : Verdict} {told told' : List String} {budget : Int}

/-! ## Rounds under a looser budget -/

/-- Rounds that have come to an end begin with any others from the same state. -/
theorem Rounds.exists_rest (h : Rounds plan n st bs st') (h' : Rounds plan n' st bs' st'')
    (hend : ∀ x, st''.advance plan ≠ .ok x) :
    ∃ k cs, Rounds plan k st' cs st'' ∧ bs' = bs ++ cs := by
  induction h generalizing n' bs' with
  | refl st => exact ⟨n', bs', h', rfl⟩
  | @round n st st₁ st' bs hadvance _ ih =>
    cases h' with
    | refl => exact absurd hadvance (hend st₁)
    | @round n' _ st₂ _ cs hadvance' hrest =>
      obtain rfl : st₁ = st₂ := Except.ok.inj (hadvance.symm.trans hadvance')
      obtain ⟨k, ds, hrounds, rfl⟩ := ih hrest
      exact ⟨k, ds, hrounds, (List.append_assoc _ _ _).symm⟩

/-- A search that accepts nothing goes as far as it can and settles on the best branch. -/
theorem exists_rounds_of_start (hs : s.halted = false)
    (h : start plan fuel s = some ⟨.settled v r, told⟩) (hv : v ≠ .accepted) :
    plan.table.isFinal s.config = false ∧ ∃ n bs st, Rounds plan n (State.seed s) bs st ∧
      (∀ x, st.advance plan ≠ .ok x) ∧ r = st.best.shot := by
  unfold start at h
  split at h
  · cases h
    exact absurd rfl hv
  · next haccepts =>
    obtain ⟨n, bs, st, _, hrounds, herror, _⟩ := State.run_eq_some h
    have hround := State.round_advance plan (hrounds.logged hs).pending_halted
    have hend : ∀ x, st.advance plan ≠ .ok x := by
      intro x hx
      rw [herror] at hx
      cases hx
    rw [herror] at hround
    refine ⟨?_, n, bs, st, hrounds, hend, ?_⟩
    · rw [← Snapshot.accepts_of_not_halted hs]
      simpa using haccepts
    · cases hround with
      | ranDry told hpending => rfl
      | cutShort told hpending hspent => rfl
      | finds told hpicks hchoices hpasses happly hfinal => exact absurd rfl hv

/-- A search has accepted exactly if what it settles on is final. -/
theorem accepted_iff_final (hs : s.halted = false)
    (h : start plan fuel s = some ⟨.settled v r, told⟩) :
    v = .accepted ↔ plan.table.isFinal r.config = true := by
  constructor
  · rintro rfl
    cases settling_of_start hs h with
    | atOnce hfinal => exact hfinal
    | accepted hn hrounds hpicks hchoices hpasses happly hfinal => exact hfinal
  · intro hfinal
    by_contra hv
    obtain ⟨hstart, n, bs, st, hrounds, _, rfl⟩ := exists_rounds_of_start hs h hv
    have hlogged := hrounds.logged hs
    have hnot := hlogged.not_final hstart _ (List.mem_of_getElem? hlogged.best.at_place)
    rw [Snapshot.unmarked_config, hfinal] at hnot
    cases hnot

/-- **What is accepted under a budget is accepted under a looser one,** by the same search. -/
theorem start_within_of_accepted (hbudget : plan.Loosened budget) (hs : s.halted = false)
    (h : start plan fuel s = some ⟨.settled .accepted r, told⟩) :
    start (plan.within budget) fuel s = some ⟨.settled .accepted r, told⟩ := by
  unfold start at h ⊢
  change (if accepts plan.table s then _ else _) = _
  split at h
  · next haccepts => rw [if_pos haccepts, h]
  · next haccepts =>
    rw [if_neg haccepts]
    obtain ⟨n, bs, st, hn, hrounds, herror, _⟩ := State.run_eq_some h
    have hround := State.round_advance plan (hrounds.logged hs).pending_halted
    rw [herror] at hround
    cases hround with
    | finds _ hpicks hchoices hpasses happly hfinal =>
      have hsame := advance_within hbudget hpicks.unspent
      exact (hrounds.within hbudget).run_eq (hsame.trans herror) hn

/-- **Under a looser budget a search that accepts nothing settles on nothing heavier.** -/
theorem workload_le_of_loosened (hbudget : plan.Loosened budget) (hs : s.halted = false)
    (h : start plan fuel s = some ⟨.settled v r, told⟩) (hv : v ≠ .accepted)
    (h' : start (plan.within budget) fuel' s = some ⟨.settled v' r', told'⟩)
    (hv' : v' ≠ .accepted) : r'.workload ≤ r.workload := by
  obtain ⟨_, n, bs, st, hrounds, _, rfl⟩ := exists_rounds_of_start hs h hv
  obtain ⟨_, n', bs', st', hrounds', hend, rfl⟩ := exists_rounds_of_start hs h' hv'
  obtain ⟨_, cs, _, rfl⟩ := (hrounds.within hbudget).exists_rest hrounds' hend
  -- What the first search settles on was made by the second one, too.
  have hmade : st.best.shot.unmarked ∈ madeBy plan.table s (bs ++ cs) := by
    rw [madeBy_append]
    exact List.mem_append_left _ (List.mem_of_getElem? (hrounds.logged hs).best.at_place)
  have hle := (hrounds'.logged hs).best.lightest _ hmade
  simpa using hle

end Search

/-! ## Machines under another limit -/

/-- A machine with another limit to its searches. -/
def Machine.limited (m : Machine) (limit : Int) : Machine := { m with maxSteps := limit }

/-- A turn that leaves its machine with another limit. -/
def Turn.limited (turn : Turn) (limit : Int) : Turn := { turn with machine := turn.machine.limited limit }

namespace Machine

variable {m : Machine} {w : List String} {limit : Int} {fuel depth : Nat} {v : Verdict} {s : Snapshot}

@[simp] theorem limited_config (m : Machine) (limit : Int) : (m.limited limit).config = m.config := rfl

theorem listening_limited (limit : Int) : Listening fun m n => n = m.limited limit where
  listeners := by
    rintro m _ rfl
    rfl
  subscribed := by
    rintro m _ rfl
    rfl
  hears := by
    rintro m _ event rfl
    rfl
  leaves := by
    rintro m _ id rfl
    rfl

theorem tell_limited (m : Machine) (limit : Int) (switch : Switch) (line : Unit → String) :
    (m.limited limit).tell switch line = (m.tell switch line).limited limit := by
  unfold tell
  change (if m.settings.isOn switch then _ else _) = _
  split <;> rfl

theorem refuse_limited (m : Machine) (limit : Int) (label : String) :
    (m.limited limit).refuse label = (m.refuse label).limited limit := by
  unfold refuse
  rw [tell_limited]
  change (if m.strict then _ else _) = _
  split <;> rfl

theorem firesAlike_limited (limit : Int) : FiresAlike Eq fun m n => n = m.limited limit := by
  rintro label m _ rfl
  rw [fired, fired, show (m.limited limit).firing? label = m.firing? label from rfl]
  cases m.firing? label with
  | none =>
    simp only [refuse_limited]
    exact ⟨⟨rfl, rfl⟩, .nil⟩
  | some e =>
    obtain ⟨told, htold⟩ := tell_eq m .verboseDispatch fun _ =>
      "dispatch '" ++ label ++ "': " ++ m.config.state ++ " -> " ++ e.action.target
    simp only [tell_limited, limited_config, htold]
    cases e.action.apply false m.config with
    | error fault => exact ⟨⟨rfl, rfl⟩, .nil⟩
    | ok c => exact ⟨⟨rfl, rfl⟩, .cons rfl .nil⟩

/-- What comes of telling listeners does not depend on the limit of a search. -/
theorem notifyAll_limited (depth : Nat) (steps : List Step) (m : Machine) (limit : Int) :
    notifyAll (dispatch depth) steps (m.limited limit) =
      (notifyAll (dispatch depth) steps m).limited limit := by
  have hanswers := (listening_limited limit).tuned.dispatch (firesAlike_limited limit) depth
  have hblind : Blind (fun m n => n = m.limited limit) (dispatch depth) :=
    ⟨listening_limited limit, hanswers⟩
  obtain ⟨hmachine, herror⟩ := hblind.notifyAll (m := m) rfl steps
  generalize notifyAll (dispatch depth) steps (m.limited limit) = turn at hmachine herror ⊢
  obtain ⟨machine, error⟩ := turn
  exact congrArg₂ Turn.mk hmachine herror.symm

theorem plan_limited (m : Machine) (limit : Int) : (m.limited limit).plan = m.plan.within limit := rfl

/-- A search that accepts is the same under a looser limit, and so is the turn it makes. -/
theorem Settles.adopts_limited (hloosened : m.plan.Loosened limit)
    (h : m.Settles fuel w .accepted s) :
    (m.limited limit).consume fuel depth w = (m.consume fuel depth w).limited limit := by
  obtain ⟨told, hstart⟩ := h
  have hsame := Search.start_within_of_accepted hloosened rfl hstart
  rw [consume_eq, consume_eq, plan_limited,
    show (m.limited limit).seed w = m.seed w from rfl, hsame, hstart]
  exact notifyAll_limited depth s.history ({ m with told := m.told ++ told }.takeOver s) limit

theorem inAcceptState_iff_accepted (h : m.Settles fuel w v s) :
    (m.takeOver s).inAcceptState = true ↔ v = .accepted := by
  obtain ⟨told, hstart⟩ := h
  rw [inAcceptState_takeOver]
  exact (Search.accepted_iff_final rfl hstart).symm

/-- **A looser limit neither loses nor changes an accepting run.** With a limit of one expansion or more
`consume` settles on a snapshot and takes it over, and unless listeners dispatch in turn, that is how it
leaves the machine. If the snapshot is accepting, then under every larger limit and under none the whole
call comes to the same. If it is not, then under every larger limit `consume` settles on a snapshot, too,
and that one accepts or has no more work left; and so it is without a limit, as long as the search ends. -/
theorem consume_limited {cap : Capacity} (m : Machine) (w : List String) {settings : Settings} {ss : List Statement}
    (hcompiled : (compileStatements cap settings ss).result = .ok m.table) (hlimit : 1 ≤ m.maxSteps) :
    (m.table.Fits m.config → ∃ v s, m.Ends w v s) ∧
    ∀ fuel depth v s, m.Settles fuel w v s →
      m.Adopts fuel depth w s ∧
      (m.Quiet → (m.consume fuel depth w).error = none ∧
        (m.consume fuel depth w).machine.config = s.config ∧
        (m.consume fuel depth w).machine.halted = s.halted ∧
        (m.consume fuel depth w).machine.inAcceptState = (m.takeOver s).inAcceptState) ∧
      ∀ limit, m.maxSteps ≤ limit ∨ limit = 0 →
        ((m.takeOver s).inAcceptState = true →
          (m.limited limit).consume fuel depth w = (m.consume fuel depth w).limited limit) ∧
        ((m.takeOver s).inAcceptState = false →
          (limit ≠ 0 → m.table.Fits m.config → ∃ v' s', (m.limited limit).Ends w v' s') ∧
          ∀ fuel' v' s', (m.limited limit).Settles fuel' w v' s' →
            (m.limited limit).Adopts fuel' depth w s' ∧
            (((m.limited limit).takeOver s').inAcceptState = true ∨
              s'.workload ≤ s.workload)) := by
  have ht := isLowered_of_compiled hcompiled
  refine ⟨fun hfits => ends_of_budget ht hfits (by omega), ?_⟩
  intro fuel depth v s h
  refine ⟨h.adopts depth, fun hm => ?_, fun limit hlooser => ?_⟩
  · obtain ⟨herror, htable, hconfig, hhalted⟩ := consume_of_quiet depth hm h
    refine ⟨herror, hconfig, hhalted, ?_⟩
    rw [inAcceptState, htable, hconfig]
    rfl
  have hloosened : m.plan.Loosened limit := by
    change limit = 0 ∨ m.maxSteps ≠ 0 ∧ m.maxSteps ≤ limit
    omega
  refine ⟨fun haccepts => ?_, fun hnot => ⟨fun hne hfits => ?_, fun fuel' v' s' h' => ?_⟩⟩
  · obtain rfl := (inAcceptState_iff_accepted h).1 haccepts
    exact h.adopts_limited hloosened
  · exact ends_of_budget (m := m.limited limit) ht hfits (show 0 < limit by omega)
  · refine ⟨h'.adopts depth, ?_⟩
    by_cases haccepts : ((m.limited limit).takeOver s').inAcceptState = true
    · exact Or.inl haccepts
    right
    have hv : v ≠ .accepted := (inAcceptState_iff_accepted h).not.1 (by simp [hnot])
    have hv' : v' ≠ .accepted := (inAcceptState_iff_accepted h').not.1 haccepts
    obtain ⟨told, hstart⟩ := h
    obtain ⟨told', hstart'⟩ := h'
    exact Search.workload_le_of_loosened hloosened rfl hstart hv hstart' hv'

/-- Over `anbn` four expansions are enough for `ab`, and then it comes to the same without a limit. One is
too few for `aab`, and leaves it as it was; two end it, too, and leave no more than three to be done. -/
theorem anbn_limited :
    ((Machine.new anbn {} none (some 4)).limited 0).consume 10 0 ["a", "b"] =
      ((Machine.new anbn {} none (some 4)).consume 10 0 ["a", "b"]).limited 0 ∧
    ∃ v s, ((Machine.new anbn {} none (some 1)).limited 2).Ends ["a", "a", "b"] v s ∧
      (((Machine.new anbn {} none (some 1)).takeOver s).inAcceptState = true ∨ s.workload ≤ 3) := by
  have hcompiled : (compileStatements .ample {} counting).result = .ok anbn := by cbv
  have haccepted : (Machine.new anbn {} none (some 4)).Settles 10 ["a", "b"] .accepted
      ⟨⟨"q1", [[]], []⟩, false, [], false⟩ := by
    refine ⟨[], ?_⟩
    cbv
  have hcut : (Machine.new anbn {} none (some 1)).Settles 10 ["a", "a", "b"] .cutShort
      ⟨⟨"q0", [[]], ["a", "a", "b"]⟩, false, [], false⟩ := by
    refine ⟨[], ?_⟩
    cbv
  obtain ⟨_, _, hlimits⟩ := (consume_limited (Machine.new anbn {} none (some 4)) ["a", "b"] hcompiled
    (by decide)).2 10 0 _ _ haccepted
  obtain ⟨_, _, hlimits'⟩ := (consume_limited (Machine.new anbn {} none (some 1)) ["a", "a", "b"]
    hcompiled (by decide)).2 10 0 _ _ hcut
  refine ⟨(hlimits 0 (Or.inr rfl)).1 rfl, ?_⟩
  obtain ⟨hends, hsettles⟩ := (hlimits' 2 (Or.inl (by decide))).2 rfl
  obtain ⟨v, s, hends⟩ := hends (by decide) (fits_startConfig anbn)
  obtain ⟨n, hn⟩ := hends
  exact ⟨v, s, ⟨n, hn⟩, (hsettles n v s (hn n (Nat.le_refl n))).2⟩

end Machine

end ArrowMachine
