import ArrowMachine.Proofs.Run.Acceptance
import ArrowMachine.Proofs.Run.Firing

/-!
When a search ends, and how much it expands.

A round that drops a branch shortens the work stack, and any other round expands a branch. So a search
ends as soon as the branches that it expands are bounded (`Rounds.exists_end`): by a budget, or, with
pruning, by the configurations that can be reached, since none of them is expanded twice. If the budget
covers all of these, then whatever is pending when it is used up would be dropped anyway, and the search
settles on what it would settle on without a budget (`start_unlimited`). Without stacks there are at most
as many configurations as states times ends of the input (`Compiled.IsLowered.reach_subset`).
-/
namespace ArrowMachine

open Search (Plan Branch State Verdict Rounds Picks Logged madeBy)

/-! ## What can be reached -/

namespace Compiled

variable {t : Compiled} {c d : Configuration} {es : List Entry}

/-- The configurations to which paths lead. -/
def reach (t : Compiled) (c : Configuration) : Set Configuration := {d | ∃ es, t.Path c es d}

theorem Path.fits (h : t.Path c es d) (hc : t.Fits c) : t.Fits d := by
  induction h with
  | nil c => exact hc
  | cons hfirst _ ih => exact ih (hfirst.fits hc)

/-- Entries of a table without stacks change none. -/
theorem IsLowered.channels_of_fires {e : Entry} (ht : t.IsLowered) (hcount : t.stackCount = 0)
    (h : t.Fires c e d) : d.channels = c.channels := by
  obtain ⟨target, _, ops, hlowered⟩ := ht.entry c.state e (mem_choices.1 h.1).1
  have hnarrow := hlowered.narrow
  rw [hcount] at hnarrow
  obtain rfl : ops = [] := List.eq_nil_of_length_eq_zero (Nat.le_zero.1 hnarrow)
  have happly := h.2
  rw [hlowered.action] at happly
  by_cases hepsilon : e.label = epsilon
  · simp only [Action.build, hepsilon, if_true] at happly
    rw [← Except.ok.inj happly]
  · simp only [Action.build, hepsilon, if_false] at happly
    rw [← Except.ok.inj happly]

theorem IsLowered.path_without_stacks (ht : t.IsLowered) (hcount : t.stackCount = 0)
    (h : t.Path c es d) : d.channels = c.channels ∧ (c.state ∈ t.states → d.state ∈ t.states) := by
  induction h with
  | nil c => exact ⟨rfl, id⟩
  | cons hfirst _ ih =>
    exact ⟨ih.1.trans (ht.channels_of_fires hcount hfirst), fun _ => ih.2 (ht.fires hfirst).1⟩

/-- The configurations of states and ends of an input, with the same stacks throughout. -/
def flat (t : Compiled) (c : Configuration) : Finset Configuration :=
  (t.states.toFinset ×ˢ c.input.tails.toFinset).image fun x => ⟨x.1, c.channels, x.2⟩

theorem card_flat_le (t : Compiled) (c : Configuration) :
    (t.flat c).card ≤ t.states.length * (c.input.length + 1) := by
  refine Finset.card_image_le.trans ?_
  rw [Finset.card_product]
  refine Nat.mul_le_mul (List.toFinset_card_le _) ((List.toFinset_card_le _).trans ?_)
  rw [List.length_tails]

/-- Without stacks, states and ends of the input are all that can vary. -/
theorem IsLowered.reach_subset (ht : t.IsLowered) (hcount : t.stackCount = 0)
    (hc : c.state ∈ t.states) : t.reach c ⊆ t.flat c := by
  rintro ⟨state, channels, input⟩ ⟨es, hpath⟩
  obtain ⟨rfl, hstate⟩ := ht.path_without_stacks hcount hpath
  refine Finset.mem_coe.2 (Finset.mem_image.2 ⟨(state, input), Finset.mem_product.2 ⟨?_, ?_⟩, rfl⟩)
  · exact List.mem_toFinset.2 (hstate hc)
  · exact List.mem_toFinset.2 ((List.mem_tails _ _).2 hpath.input_suffix)

/-- Nothing leads out of what is no state of the table. -/
theorem IsLowered.reach_of_not_mem (ht : t.IsLowered) (hc : c.state ∉ t.states) :
    t.reach c = {c} := by
  refine Set.eq_singleton_iff_unique_mem.2 ⟨⟨[], .nil c⟩, ?_⟩
  rintro d ⟨es, hpath⟩
  cases hpath with
  | nil => rfl
  | cons hfirst _ =>
    exact absurd (ht.source _ (List.ne_nil_of_mem (mem_choices.1 hfirst.1).1)) hc

theorem IsLowered.reach_without_stacks (ht : t.IsLowered) (hcount : t.stackCount = 0)
    (c : Configuration) :
    (t.reach c).Finite ∧ (t.reach c).ncard ≤ t.states.length * (c.input.length + 1) := by
  by_cases hc : c.state ∈ t.states
  · have hsubset := ht.reach_subset hcount hc
    refine ⟨(Finset.finite_toSet _).subset hsubset, ?_⟩
    have hle := Set.ncard_le_ncard hsubset (Finset.finite_toSet _)
    rw [Set.ncard_coe_finset] at hle
    exact hle.trans (t.card_flat_le c)
  · rw [ht.reach_of_not_mem hc]
    refine ⟨Set.finite_singleton c, ?_⟩
    rw [Set.ncard_singleton]
    exact Nat.mul_pos (List.length_pos_of_mem ht.initial) (Nat.succ_pos _)

end Compiled

namespace Search

variable {plan : Plan} {s r : Snapshot} {b : Branch} {bs rest : List Branch} {st st' : State} {n : Nat}

/-! ## What is expanded -/

namespace Logged

/-- What has been expanded, and what is next to be, was made before. -/
theorem mem_made_of_begun (h : Logged plan s bs st) :
    ∀ x ∈ bs ++ (st.next? plan).toList, x.shot ∈ madeBy plan.table s bs := by
  intro x hx
  rcases List.mem_append.1 hx with hx | hx
  · exact List.mem_of_getElem? (h.expanded x hx)
  · obtain ⟨rest, hpicks⟩ := exists_picks (Option.mem_toList.1 hx)
    exact List.mem_of_getElem? (h.pending x (by simp [hpicks.pending]))

theorem nodup_begun (h : Logged plan s bs st) (hprune : plan.prune = true) :
    ((bs ++ (st.next? plan).toList).map (·.shot.footprint)).Nodup := by
  cases hnext : st.next? plan with
  | none => simpa using h.distinct hprune
  | some b =>
    obtain ⟨rest, hpicks⟩ := exists_picks hnext
    exact h.expand_distinct hpicks hprune

theorem length_begun_le (h : Logged plan s bs st) (hbudget : plan.budget ≠ 0)
    (hle : (bs.length : Int) ≤ plan.budget) :
    ((bs ++ (st.next? plan).toList).length : Int) ≤ plan.budget := by
  cases hnext : st.next? plan with
  | none => simpa using hle
  | some b =>
    obtain ⟨rest, hpicks⟩ := exists_picks hnext
    have hunspent := hpicks.unspent
    simp only [State.isSpent, Plan.isSpent, h.rounds, Bool.and_eq_false_imp, decide_eq_true_eq,
      decide_eq_false_iff_not] at hunspent
    have := hunspent hbudget
    rw [List.length_append, Option.toList_some, List.length_singleton]
    omega

end Logged

namespace Rounds

theorem length_le_budget (h : Rounds plan n (State.seed s) bs st) (hs : s.halted = false)
    (hbudget : 0 < plan.budget) : (bs.length : Int) ≤ plan.budget := by
  have := h.keep []
    (P := fun bs st => Logged plan s bs st ∧ (bs.length : Int) ≤ plan.budget)
    (fun bs st st' hP hadvance =>
      ⟨hP.1.advance hadvance, hP.1.length_begun_le (by omega) hP.2⟩)
    ⟨.seed hs, by simpa using Int.le_of_lt hbudget⟩
  exact this.2

/-- With pruning the configurations expanded are as many as the branches. -/
theorem configs_begun (h : Rounds plan n (State.seed s) bs st) (hs : s.halted = false)
    (hprune : plan.prune = true) :
    ((bs ++ (st.next? plan).toList).map (·.shot.config)).Nodup ∧
      ∀ x ∈ bs ++ (st.next? plan).toList, x.shot.config ∈ plan.table.reach s.config := by
  refine ⟨?_, fun x hx => h.reached hs _ ((h.logged hs).mem_made_of_begun x hx)⟩
  have hdistinct := (h.logged hs).nodup_begun hprune
  refine List.Nodup.of_map (fun c => (⟨c.state, c.channels, c.input.length⟩ : Footprint)) ?_
  rw [List.map_map]
  exact hdistinct

theorem length_begun_le_ncard (h : Rounds plan n (State.seed s) bs st) (hs : s.halted = false)
    (hprune : plan.prune = true) (hfinite : (plan.table.reach s.config).Finite) :
    (bs ++ (st.next? plan).toList).length ≤ (plan.table.reach s.config).ncard := by
  obtain ⟨hnodup, hreach⟩ := h.configs_begun hs hprune
  rw [← List.length_map (·.shot.config), ← List.toFinset_card_of_nodup hnodup,
    Set.ncard_eq_toFinset_card _ hfinite]
  refine Finset.card_le_card fun c hc => ?_
  obtain ⟨x, hx, rfl⟩ := List.mem_map.1 (List.mem_toFinset.1 hc)
  exact hfinite.mem_toFinset.2 (hreach x hx)

end Rounds

/-- After any number of rounds a search has expanded what rows of rounds expand. -/
theorem State.exists_rounds_of_expansions (plan : Plan) (fuel : Nat) (st : State) :
    ∃ n bs st', Rounds plan n st bs st' ∧
      st.expansions plan fuel <+: bs ++ (st'.next? plan).toList := by
  induction fuel generalizing st with
  | zero => exact ⟨0, [], st, .refl st, List.nil_prefix⟩
  | succ fuel ih =>
    cases hadvance : st.advance plan with
    | error ending =>
      refine ⟨0, [], st, .refl st, ?_⟩
      simp [State.expansions, hadvance]
    | ok st' =>
      obtain ⟨n, bs, st'', hrounds, hpart⟩ := ih st'
      refine ⟨n + 1, _, st'', .round hadvance hrounds, ?_⟩
      simpa [State.expansions, hadvance] using hpart

theorem exists_rounds_of_expansions (plan : Plan) (fuel : Nat) (s : Snapshot) :
    ∃ n bs st, Rounds plan n (State.seed s) bs st ∧
      expansions plan fuel s <+: bs ++ (st.next? plan).toList := by
  unfold expansions
  split
  · exact ⟨0, [], _, .refl _, List.nil_prefix⟩
  · exact State.exists_rounds_of_expansions plan fuel _

/-! ## That a search ends -/

/-- **A search ends if what it expands is bounded.** -/
theorem Rounds.exists_end (bound : Nat) (hs : s.halted = false)
    (hbound : ∀ n bs st, Rounds plan n (State.seed s) bs st → bs.length ≤ bound) {n : Nat}
    {bs : List Branch} {st : State} (h : Rounds plan n (State.seed s) bs st) :
    ∃ n' bs' st' ending, Rounds plan n' (State.seed s) bs' st' ∧
      st'.advance plan = .error ending := by
  have hround := State.round_advance plan (h.logged hs).pending_halted
  cases hadvance : st.advance plan with
  | error ending => exact ⟨n, bs, st, ending, h, hadvance⟩
  | ok st' =>
    have hnext : Rounds plan (n + 1) (State.seed s) (bs ++ (st.next? plan).toList) st' := by
      simpa using h.trans (.round hadvance (.refl st'))
    -- A round expands a branch, or it drops one and so shortens the work stack.
    have hsmaller : bound - (bs ++ (st.next? plan).toList).length < bound - bs.length ∨
        bs ++ (st.next? plan).toList = bs ∧ st'.pending.length < st.pending.length := by
      rw [hadvance] at hround
      cases hround with
      | drops hpending hspent hprune hknown =>
        right
        simp [next?_of_known hpending hprune hknown, hpending]
      | expands hpicks hpasses hexpands =>
        left
        have := hbound _ _ _ hnext
        simp only [hpicks.next?, Option.toList_some, List.length_append,
          List.length_singleton] at this ⊢
        omega
    exact Rounds.exists_end bound hs hbound hnext
termination_by (bound - bs.length, st.pending.length)
decreasing_by
  rcases hsmaller with hfewer | ⟨hsame, hshorter⟩
  · exact Prod.Lex.left _ _ hfewer
  · rw [hsame]
    exact Prod.Lex.right _ hshorter

/-- All that a search makes has the channels of the table, so nothing that matches strays. -/
theorem Rounds.exists_fires (h : Rounds plan n (State.seed s) bs st) (hs : s.halted = false)
    (ht : plan.table.IsLowered) (hfits : plan.table.Fits s.config) {b : Branch}
    (hb : b ∈ st.pending) {e : Entry} (he : e ∈ plan.table.choices b.shot.config) :
    ∃ d, plan.table.Fires b.shot.config e d := by
  have hmade := (h.logged hs).pending b hb
  obtain ⟨es, hpath⟩ := h.reached hs _ (List.mem_of_getElem? hmade)
  exact ht.exists_fires (hpath.fits hfits) he

/-- A search in a compiled table that ends settles on something. -/
theorem start_settles (plan : Plan) (s : Snapshot) (bound : Nat) (ht : plan.table.IsLowered)
    (hfits : plan.table.Fits s.config) (hs : s.halted = false)
    (hbound : ∀ n bs st, Rounds plan n (State.seed s) bs st → bs.length ≤ bound) :
    ∃ v r told n, ∀ fuel, n ≤ fuel → start plan fuel s = some ⟨.settled v r, told⟩ := by
  unfold start
  split
  · exact ⟨.accepted, s, [], 0, fun _ _ => rfl⟩
  · obtain ⟨n, bs, st, ending, hrounds, herror⟩ :=
      Rounds.exists_end bound hs hbound (.refl (State.seed s))
    have hlogged := hrounds.logged hs
    have hround := State.round_advance plan hlogged.pending_halted
    rw [herror] at hround
    have hrun : ∀ fuel, n + 1 ≤ fuel → (State.seed s).run plan fuel = some ending :=
      fun fuel hfuel => hrounds.run_eq herror hfuel
    cases hround with
    | ranDry => exact ⟨_, _, _, _, hrun⟩
    | cutShort => exact ⟨_, _, _, _, hrun⟩
    | finds => exact ⟨_, _, _, _, hrun⟩
    | @strays b rest pre post e channel told hpicks hchoices hpasses happly =>
      obtain ⟨d, hd⟩ := hrounds.exists_fires hs ht hfits (b := b) (by simp [hpicks.pending])
        (e := e) (by simp [hchoices])
      exact absurd hd.2 (happly d)

/-! ## Searches under another budget -/

/-- The same search under another budget. -/
def Plan.within (plan : Plan) (budget : Int) : Plan := { plan with budget }

/-- The same search without a budget. -/
def Plan.unlimited (plan : Plan) : Plan := { plan with budget := 0 }

/-- A budget under which a search may go on wherever it may under its own: a larger one, or none. -/
def Plan.Loosened (plan : Plan) (budget : Int) : Prop :=
  budget = 0 ∨ plan.budget ≠ 0 ∧ plan.budget ≤ budget

theorem Plan.loosened_zero (plan : Plan) : plan.Loosened 0 := Or.inl rfl

theorem isSpent_unlimited (plan : Plan) (st : State) : st.isSpent plan.unlimited = false := by
  simp [State.isSpent, Plan.isSpent, Plan.unlimited]

theorem unspent_iff : st.isSpent plan = false ↔ plan.budget = 0 ∨ (st.rounds : Int) < plan.budget := by
  simp only [State.isSpent, Plan.isSpent, Bool.and_eq_false_iff, decide_eq_false_iff_not]
  omega

theorem Plan.Loosened.unspent {budget : Int} (hbudget : plan.Loosened budget)
    (hspent : st.isSpent plan = false) : st.isSpent (plan.within budget) = false := by
  rw [unspent_iff] at hspent ⊢
  unfold Plan.Loosened at hbudget
  change budget = 0 ∨ (st.rounds : Int) < budget
  omega

theorem spread_within (plan : Plan) (budget : Int) (s : Snapshot) (es : List Entry) (st : State) :
    State.spread (plan.within budget) s es st = State.spread plan s es st := by
  induction es generalizing st with
  | nil => rfl
  | cons e es ih =>
    rw [State.spread, State.spread]
    cases s.apply e with
    | error fault => rfl
    | ok r =>
      simp only [ih]
      rfl

/-- Where both budgets let a search go on, it goes on alike. -/
theorem advance_within {budget : Int} (hbudget : plan.Loosened budget)
    (hspent : st.isSpent plan = false) : st.advance (plan.within budget) = st.advance plan := by
  have hexpand : ∀ b st, State.expand (plan.within budget) b st = State.expand plan b st := by
    intro b st
    unfold State.expand
    simp only [spread_within]
    rfl
  unfold State.advance
  simp only [hexpand, hbudget.unspent hspent, hspent]
  rfl

theorem unspent_of_advance (h : st.advance plan = .ok st') : st.isSpent plan = false := by
  unfold State.advance at h
  split at h
  · cases h
  · split at h
    · cases h
    · next hnot => simpa using hnot

theorem next?_within {budget : Int} (hbudget : plan.Loosened budget)
    (hspent : st.isSpent plan = false) : st.next? (plan.within budget) = st.next? plan := by
  unfold State.next?
  simp only [hbudget.unspent hspent, hspent]
  rfl

/-- What a budget allows is done under a looser one, too. -/
theorem Rounds.within {budget : Int} (hbudget : plan.Loosened budget)
    (h : Rounds plan n st bs st') : Rounds (plan.within budget) n st bs st' := by
  induction h with
  | refl st => exact .refl st
  | round hadvance _ ih =>
    have hspent := unspent_of_advance hadvance
    rw [← next?_within hbudget hspent]
    exact .round ((advance_within hbudget hspent).trans hadvance) ih

theorem Rounds.unlimited (h : Rounds plan n st bs st') : Rounds plan.unlimited n st bs st' :=
  h.within plan.loosened_zero

/-- Where all that is pending is known, it is dropped. -/
theorem Rounds.drop_all (hprune : plan.prune = true) (st : State)
    (hknown : ∀ b ∈ st.pending, b.shot.footprint ∈ st.explored) :
    ∃ n, Rounds plan.unlimited n st [] { st with pending := [] } := by
  induction hpending : st.pending generalizing st with
  | nil =>
    have hsame : { st with pending := [] } = st := by rw [← hpending]
    rw [hsame]
    exact ⟨0, .refl st⟩
  | cons b rest ih =>
    have hb := hknown b (by simp [hpending])
    have hrest : ∀ x ∈ rest, x.shot.footprint ∈ st.explored := fun x hx =>
      hknown x (hpending ▸ List.mem_cons_of_mem _ hx)
    obtain ⟨n, hrounds⟩ := ih { st with pending := rest } hrest rfl
    have hnext : st.next? plan.unlimited = none := next?_of_known hpending hprune hb
    have hround := Rounds.round
      (State.advance_of_known hpending (isSpent_unlimited plan st) hprune hb) hrounds
    rw [hnext] at hround
    exact ⟨n + 1, hround⟩

/-- When the budget that covers all that can be reached is used up, all that is pending is known. -/
theorem Rounds.known_of_spent (h : Rounds plan n (State.seed s) bs st) (hs : s.halted = false)
    (hprune : plan.prune = true) (hfinite : (plan.table.reach s.config).Finite)
    (hbudget : ((plan.table.reach s.config).ncard : Int) ≤ plan.budget)
    (hspent : st.isSpent plan = true) : ∀ b ∈ st.pending, b.shot.footprint ∈ st.explored := by
  have hlogged := h.logged hs
  obtain ⟨hnodup, hreach⟩ := h.configs_begun hs hprune
  rw [next?_of_spent hspent, Option.toList_none, List.append_nil] at hnodup hreach
  -- As many different configurations were expanded as can be reached, so they are all of these.
  have hall : (bs.map (·.shot.config)).toFinset = hfinite.toFinset := by
    refine Finset.eq_of_subset_of_card_le (fun c hc => ?_) ?_
    · obtain ⟨x, hx, rfl⟩ := List.mem_map.1 (List.mem_toFinset.1 hc)
      exact hfinite.mem_toFinset.2 (hreach x hx)
    · rw [List.toFinset_card_of_nodup hnodup, List.length_map,
        ← Set.ncard_eq_toFinset_card _ hfinite]
      simp only [State.isSpent, Plan.isSpent, Bool.and_eq_true, decide_eq_true_eq, hlogged.rounds] at hspent
      omega
  intro b hb
  have hmade := List.mem_of_getElem? (hlogged.pending b hb)
  have hmem : b.shot.config ∈ hfinite.toFinset := hfinite.mem_toFinset.2 (h.reached hs _ hmade)
  rw [← hall, List.mem_toFinset] at hmem
  obtain ⟨x, hx, hconfig⟩ := List.mem_map.1 hmem
  have hfoot : x.shot.footprint = b.shot.footprint := by
    rw [Snapshot.footprint, Snapshot.footprint, show x.shot.config = b.shot.config from hconfig]
  exact (hlogged.explored _).2 ⟨hprune, x, hx, hfoot⟩

/-- **A budget for all that can be reached is as good as none.** -/
theorem start_unlimited (plan : Plan) (s : Snapshot) {fuel : Nat} {v : Verdict}
    {told : List String} (hs : s.halted = false) (hprune : plan.prune = true)
    (hfinite : (plan.table.reach s.config).Finite)
    (hbudget : ((plan.table.reach s.config).ncard : Int) ≤ plan.budget)
    (h : start plan fuel s = some ⟨.settled v r, told⟩) :
    ∃ v' told' n, ∀ fuel, n ≤ fuel →
      start plan.unlimited fuel s = some ⟨.settled v' r, told'⟩ := by
  unfold start at h ⊢
  split at h
  · next haccepts =>
    cases h
    exact ⟨.accepted, [], 0, fun _ _ => if_pos haccepts⟩
  · next haccepts =>
    obtain ⟨n, bs, st, _, hrounds, herror, _⟩ := State.run_eq_some h
    -- It is enough to find some rounds after which the search without a budget ends alike.
    have hends : ∀ {n bs st v' told'}, Rounds plan.unlimited n (State.seed s) bs st →
        st.advance plan.unlimited = .error ⟨.settled v' r, told'⟩ →
        ∃ v' told' n, ∀ fuel, n ≤ fuel → (if accepts plan.unlimited.table s then
          some ⟨.settled .accepted s, []⟩ else (State.seed s).run plan.unlimited fuel) =
            some ⟨.settled v' r, told'⟩ := fun hrounds' herror' =>
      ⟨_, _, _, fun fuel hfuel => (if_neg haccepts).trans (hrounds'.run_eq herror' hfuel)⟩
    have hround := State.round_advance plan (hrounds.logged hs).pending_halted
    rw [herror] at hround
    cases hround with
    | ranDry _ hpending =>
      obtain ⟨told', herror'⟩ := State.advance_of_ranDry plan.unlimited hpending
      exact hends hrounds.unlimited herror'
    | cutShort _ _ hspent =>
      obtain ⟨k, hdrops⟩ := Rounds.drop_all hprune st
        (hrounds.known_of_spent hs hprune hfinite hbudget hspent)
      obtain ⟨told', herror'⟩ := State.advance_of_ranDry plan.unlimited
        (show ({ st with pending := [] } : State).pending = [] from rfl)
      exact hends (hrounds.unlimited.trans hdrops) herror'
    | finds _ hpicks =>
      exact hends hrounds.unlimited
        ((advance_within plan.loosened_zero hpicks.unspent).trans herror)

end Search

/-! ## What `consume` expands -/

/-- The statement of `.a -_> b -_> a;`. -/
def circling : List Statement := [
  ⟨[.state ⟨"a", true, false, some ⟨1, 1⟩⟩, .transition ⟨"_", .right, [], some ⟨1, 4⟩⟩,
    .state ⟨"b", false, false, some ⟨1, 8⟩⟩, .transition ⟨"_", .right, [], some ⟨1, 10⟩⟩,
    .state ⟨"a", false, false, some ⟨1, 14⟩⟩], some ⟨1, 1⟩⟩]

/-- The table of `circling`, in which nothing is ever taken off the input. -/
def circle : Compiled where
  initial := "a"
  transitions :=
    [("a", [⟨"_", ⟨"_", []⟩, ⟨"b", [.set "b"]⟩, some ⟨1, 4⟩⟩]),
    ("b", [⟨"_", ⟨"_", []⟩, ⟨"a", [.set "a"]⟩, some ⟨1, 10⟩⟩])]
  accepting := []
  stackCount := 0
  states := ["a", "b"]
  labels := ["_"]

namespace Machine

/-- With enough rounds allowed, the search for `w` ends with `v` and settles on `s`. -/
def Ends (m : Machine) (w : List String) (v : Verdict) (s : Snapshot) : Prop :=
  ∃ n, ∀ fuel, n ≤ fuel → m.Settles fuel w v s

/-- A machine whose searches have no budget. -/
def unlimited (m : Machine) : Machine := { m with maxSteps := 0 }

variable {m : Machine} {w : List String}

/-- A machine starts with all the channels of its table. -/
theorem fits_startConfig (t : Compiled) : t.Fits (startConfig t) := by
  simp [Compiled.Fits, startConfig]

theorem exists_ends (bound : Nat) (ht : m.table.IsLowered) (hfits : m.table.Fits m.config)
    (hbound : ∀ n bs st, Rounds m.plan n (State.seed (m.seed w)) bs st → bs.length ≤ bound) :
    ∃ v s, m.Ends w v s := by
  obtain ⟨v, s, told, n, hstart⟩ :=
    Search.start_settles m.plan (m.seed w) bound ht hfits rfl hbound
  exact ⟨v, s, n, fun fuel hfuel => ⟨told, hstart fuel hfuel⟩⟩

/-- With a budget the search ends. -/
theorem ends_of_budget (ht : m.table.IsLowered) (hfits : m.table.Fits m.config)
    (hbudget : 0 < m.maxSteps) : ∃ v s, m.Ends w v s := by
  refine exists_ends m.maxSteps.toNat ht hfits fun n bs st h => ?_
  have : (bs.length : Int) ≤ m.maxSteps := h.length_le_budget rfl hbudget
  omega

/-- With pruning, what can be reached bounds what is expanded, and the search ends. -/
theorem ends_of_finite (ht : m.table.IsLowered) (hfits : m.table.Fits m.config)
    (hprune : m.settings.isOn .pruneRevisited = true)
    (hfinite : (m.table.reach (m.fed w)).Finite) :
    (∃ v s, m.Ends w v s) ∧
      ∀ fuel, (m.expansions fuel w).length ≤ (m.table.reach (m.fed w)).ncard := by
  have hrounds : ∀ {n bs st}, Rounds m.plan n (State.seed (m.seed w)) bs st →
      (bs ++ (st.next? m.plan).toList).length ≤ (m.table.reach (m.fed w)).ncard :=
    fun h => h.length_begun_le_ncard rfl hprune hfinite
  refine ⟨exists_ends (m.table.reach (m.fed w)).ncard ht hfits fun n bs st h => ?_,
    fun fuel => ?_⟩
  · exact (List.prefix_append _ _).length_le.trans (hrounds h)
  · obtain ⟨n, bs, st, h, hpart⟩ := Search.exists_rounds_of_expansions m.plan fuel (m.seed w)
    exact hpart.length_le.trans (hrounds h)

/-- **`consume` returns within its budget, or when all that can be reached is explored.** With a budget
the search ends and expands no more than that, with or without pruning. With pruning no configuration is
expanded twice, so the search ends whenever only finitely many configurations can be reached, and if the
budget covers these, the search without a budget settles on the same. Without stacks there are no more
than the states times the ends of the input. When a search ends, the machine takes over what it has
settled on. -/
theorem consume_ends {cap : Capacity} (m : Machine) (w : List String) {settings : Settings} {ss : List Statement}
    (hcompiled : (compileStatements cap settings ss).result = .ok m.table)
    (hfits : m.table.Fits m.config) :
    (0 < m.maxSteps →
      (∃ v s, m.Ends w v s) ∧ ∀ fuel, ((m.expansions fuel w).length : Int) ≤ m.maxSteps) ∧
    (m.settings.isOn .pruneRevisited = true →
      (∀ fuel, ((m.expansions fuel w).map (·.shot.footprint)).Nodup) ∧
      ((m.table.reach (m.fed w)).Finite →
        (∃ v s, m.Ends w v s) ∧
        (((m.table.reach (m.fed w)).ncard : Int) ≤ m.maxSteps →
          ∀ v s, m.Ends w v s → ∃ v', m.unlimited.Ends w v' s)) ∧
      (m.table.stackCount = 0 →
        (∃ v s, m.Ends w v s) ∧
        ∀ fuel, (m.expansions fuel w).length ≤ m.table.states.length * (w.length + 1))) ∧
    ∀ v s, m.Ends w v s → ∀ depth, ∃ n, ∀ fuel, n ≤ fuel →
      m.Adopts fuel depth w s ∧ (m.Quiet → (m.consume fuel depth w).error = none) := by
  have ht := isLowered_of_compiled hcompiled
  refine ⟨fun hbudget => ⟨ends_of_budget ht hfits hbudget, fun fuel => ?_⟩,
    fun hprune => ⟨fun fuel => ?_, fun hfinite => ?_, ?_⟩, ?_⟩
  · obtain ⟨n, bs, st, h, hpart⟩ := Search.exists_rounds_of_expansions m.plan fuel (m.seed w)
    have hle := (h.logged rfl).length_begun_le (Int.ne_of_gt hbudget) (h.length_le_budget rfl hbudget)
    exact (Int.ofNat_le.2 hpart.length_le).trans hle
  · obtain ⟨n, bs, st, h, hpart⟩ := Search.exists_rounds_of_expansions m.plan fuel (m.seed w)
    exact ((h.logged rfl).nodup_begun hprune).sublist (hpart.map _).sublist
  · refine ⟨(ends_of_finite ht hfits hprune hfinite).1, ?_⟩
    rintro hbudget v s ⟨n, hends⟩
    obtain ⟨told, hstart⟩ := hends n (Nat.le_refl n)
    obtain ⟨v', told', n', hstart'⟩ :=
      Search.start_unlimited m.plan (m.seed w) rfl hprune hfinite hbudget hstart
    exact ⟨v', n', fun fuel hfuel => ⟨told', hstart' fuel hfuel⟩⟩
  · intro hcount
    obtain ⟨hfinite, hcard⟩ := ht.reach_without_stacks hcount (m.fed w)
    obtain ⟨hends, hlength⟩ := ends_of_finite ht hfits hprune hfinite
    exact ⟨hends, fun fuel => (hlength fuel).trans hcard⟩
  · rintro v s ⟨n, hends⟩ depth
    refine ⟨n, fun fuel hfuel => ⟨(hends fuel hfuel).adopts depth, fun hm => ?_⟩⟩
    exact (consume_of_quiet depth hm (hends fuel hfuel)).1

/-- A machine over `circle` without a budget gives up on `xy` after six expansions at most. -/
theorem circle_ends : (∃ v s, (Machine.new circle {} none (some 0)).Ends ["x", "y"] v s) ∧
    ∀ fuel, ((Machine.new circle {} none (some 0)).expansions fuel ["x", "y"]).length ≤ 6 := by
  have hcompiled : (compileStatements .ample {} circling).result = .ok circle := by cbv
  have h := consume_ends (Machine.new circle {} none (some 0)) ["x", "y"] hcompiled
    (fits_startConfig circle)
  exact (h.2.1 (by decide)).2.2 rfl

end Machine

end ArrowMachine
