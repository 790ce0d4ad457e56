import ArrowMachine.Proofs.Run.Round

/-!
The trace of a search: the branches it expands, and the snapshots it makes.

`expansions` lists the branches that are expanded, in order, and `generated` the snapshots that are made:
the first one, then those behind the entries of each expanded branch, in the order of the table. A search
that ends is a row of `Rounds` and a last round (`State.run_eq_some`). `Logged` says how a search stands
to its trace after any number of rounds: serial numbers are places in the list of snapshots made, every
snapshot made is pending, expanded, or a repetition of an expanded one, and the best branch is the first
of the lightest.
-/
namespace ArrowMachine

/-- A snapshot without the mark of being stuck. -/
def Snapshot.unmarked (s : Snapshot) : Snapshot := { s with halted := false }

theorem Snapshot.unmarked_of_not_halted {s : Snapshot} (h : s.halted = false) :
    s.unmarked = s := by
  rw [unmarked, ← h]

@[simp] theorem Snapshot.unmarked_config (s : Snapshot) : s.unmarked.config = s.config := rfl

@[simp] theorem Snapshot.unmarked_workload (s : Snapshot) : s.unmarked.workload = s.workload := rfl

namespace Search

/-! ## Traces -/

/-- The branch that the next round expands, if it expands one. -/
def State.next? (plan : Plan) (st : State) : Option Branch :=
  match st.pending with
  | [] => none
  | b :: _ =>
    if st.isSpent plan || plan.prune && st.explored.contains b.shot.footprint then none else some b

/-- The branches that at most `fuel` rounds expand. -/
def State.expansions (plan : Plan) : (fuel : Nat) → State → List Branch
  | 0, _ => []
  | fuel + 1, st =>
    (st.next? plan).toList ++
      match st.advance plan with
      | .ok st' => expansions plan fuel st'
      | .error _ => []

/-- The branches that a search expands, in order. -/
def expansions (plan : Plan) (fuel : Nat) (s : Snapshot) : List Branch :=
  if accepts plan.table s then [] else (State.seed s).expansions plan fuel

/-- A snapshot and all that come of expanding branches in turn. -/
def madeBy (t : Compiled) (s : Snapshot) (bs : List Branch) : List Snapshot :=
  s :: bs.flatMap (·.shot.successors t)

/-- The snapshots that a search makes, in order, if it accepts none of them. -/
def generated (plan : Plan) (fuel : Nat) (s : Snapshot) : List Snapshot :=
  madeBy plan.table s (expansions plan fuel s)

/-- `s` stands at place `k` and is the first of those with the least workload. -/
structure FirstLightest (ss : List Snapshot) (k : Nat) (s : Snapshot) : Prop where
  at_place : ss[k]? = some s
  lightest : ∀ r ∈ ss, s.workload ≤ r.workload
  first : ∀ i r, i < k → ss[i]? = some r → s.workload < r.workload

/-- Rounds that do not end a search, with the branches they expand. -/
inductive Rounds (plan : Plan) : Nat → State → List Branch → State → Prop
  | refl (st : State) : Rounds plan 0 st [] st
  | round {n : Nat} {st st' st'' : State} {bs : List Branch} :
      st.advance plan = .ok st' → Rounds plan n st' bs st'' →
      Rounds plan (n + 1) st ((st.next? plan).toList ++ bs) st''

variable {plan : Plan} {st st' st'' : State} {b : Branch} {rest bs : List Branch}

theorem Picks.next? (h : Picks plan st b rest) : st.next? plan = some b := by
  unfold State.next?
  rw [h.pending]
  cases hprune : plan.prune with
  | false => simp [h.unspent]
  | true => simp [h.unspent, h.new hprune]

theorem next?_of_ranDry (h : st.pending = []) : st.next? plan = none := by
  rw [State.next?, h]

theorem next?_of_spent (h : st.isSpent plan = true) : st.next? plan = none := by
  unfold State.next?
  split
  · rfl
  · simp [h]

theorem next?_of_known (hpending : st.pending = b :: rest) (hprune : plan.prune = true)
    (hknown : b.shot.footprint ∈ st.explored) : st.next? plan = none := by
  rw [State.next?, hpending]
  simp [hprune, hknown]

theorem exists_picks (h : st.next? plan = some b) : ∃ rest, Picks plan st b rest := by
  unfold State.next? at h
  split at h
  · cases h
  · next x rest hpending =>
    split at h
    · cases h
    · next hnot =>
      obtain rfl : x = b := Option.some.inj h
      simp only [Bool.or_eq_true, Bool.and_eq_true, not_or, not_and, Bool.not_eq_true] at hnot
      exact ⟨rest, hpending, hnot.1, fun hprune => by simpa using hnot.2 hprune⟩

/-! ## Runs as rows of rounds -/

theorem Rounds.trans {n m : Nat} {cs : List Branch} (h : Rounds plan n st bs st')
    (h' : Rounds plan m st' cs st'') : Rounds plan (n + m) st (bs ++ cs) st'' := by
  induction h with
  | refl st => simpa using h'
  | round hadvance _ ih =>
    rw [Nat.add_right_comm, List.append_assoc]
    exact .round hadvance (ih h')

/-- What every round keeps is kept by a row of rounds. -/
theorem Rounds.keep {P : List Branch → State → Prop} {n : Nat} {cs : List Branch} (bs : List Branch)
    (hstep : ∀ bs st st', P bs st → st.advance plan = .ok st' →
      P (bs ++ (st.next? plan).toList) st')
    (h : Rounds plan n st cs st') (hP : P bs st) : P (bs ++ cs) st' := by
  induction h generalizing bs with
  | refl st => simpa using hP
  | round hadvance _ ih =>
    rw [← List.append_assoc]
    exact ih _ (hstep _ _ _ hP hadvance)

theorem State.run_eq_some {fuel : Nat} {ending : Ending} (h : st.run plan fuel = some ending) :
    ∃ n bs st', n < fuel ∧ Rounds plan n st bs st' ∧ st'.advance plan = .error ending ∧
      st.expansions plan fuel = bs ++ (st'.next? plan).toList := by
  induction fuel generalizing st with
  | zero => cases h
  | succ fuel ih =>
    rw [State.run] at h
    cases hadvance : st.advance plan with
    | error e =>
      rw [hadvance] at h
      obtain rfl : e = ending := Option.some.inj h
      exact ⟨0, [], st, by omega, .refl st, hadvance, by simp [State.expansions, hadvance]⟩
    | ok st₁ =>
      rw [hadvance] at h
      obtain ⟨n, bs, st', hn, hrounds, herror, hexpansions⟩ := ih h
      refine ⟨n + 1, _, st', by omega, .round hadvance hrounds, herror, ?_⟩
      simp [State.expansions, hadvance, hexpansions]

theorem Rounds.run_eq {n fuel : Nat} {ending : Ending} (h : Rounds plan n st bs st')
    (herror : st'.advance plan = .error ending) (hn : n < fuel) :
    st.run plan fuel = some ending := by
  induction h generalizing fuel with
  | refl st =>
    obtain ⟨fuel, rfl⟩ : ∃ k, fuel = k + 1 := ⟨fuel - 1, by omega⟩
    rw [State.run, herror]
  | round hadvance _ ih =>
    obtain ⟨fuel, rfl⟩ : ∃ k, fuel = k + 1 := ⟨fuel - 1, by omega⟩
    rw [State.run, hadvance]
    exact ih herror (by omega)

/-! ## Snapshots made -/

theorem madeBy_append (t : Compiled) (s : Snapshot) (bs cs : List Branch) :
    madeBy t s (bs ++ cs) = madeBy t s bs ++ cs.flatMap (·.shot.successors t) := by
  simp [madeBy]

theorem madeBy_snoc (t : Compiled) (s : Snapshot) (bs : List Branch) (b : Branch) :
    madeBy t s (bs ++ [b]) = madeBy t s bs ++ b.shot.successors t := by
  rw [madeBy_append, List.flatMap_singleton]

theorem getElem?_append_of_eq_some {α : Type} {l m : List α} {i : Nat} {a : α}
    (h : l[i]? = some a) : (l ++ m)[i]? = some a := by
  obtain ⟨hi, _⟩ := List.getElem?_eq_some_iff.1 h
  rw [List.getElem?_append_left hi, h]

theorem FirstLightest.better {ss : List Snapshot} {current : Branch} {s : Snapshot}
    (hs : s.halted = false) (h : FirstLightest ss current.serial current.shot.unmarked) :
    FirstLightest (ss ++ [s]) (better ⟨ss.length, s⟩ current).serial
      (better ⟨ss.length, s⟩ current).shot.unmarked := by
  unfold Search.better
  split
  · next hlt =>
    rw [Snapshot.unmarked_of_not_halted hs]
    have hle : ∀ r ∈ ss, s.workload < r.workload := fun r hr =>
      Nat.lt_of_lt_of_le hlt (h.lightest r hr)
    refine ⟨by simp, ?_, ?_⟩
    · intro r hr
      rcases List.mem_append.1 hr with hr | hr
      · exact Nat.le_of_lt (hle r hr)
      · obtain rfl : r = s := List.mem_singleton.1 hr
        exact Nat.le_refl _
    · intro i r hi hr
      rw [List.getElem?_append_left hi] at hr
      exact hle r (List.mem_of_getElem? hr)
  · next hlt =>
    refine ⟨getElem?_append_of_eq_some h.at_place, ?_, ?_⟩
    · intro r hr
      rcases List.mem_append.1 hr with hr | hr
      · exact h.lightest r hr
      · rw [List.mem_singleton.1 hr]
        exact Nat.le_of_not_lt hlt
    · intro i r hi hr
      have hk := (List.getElem?_eq_some_iff.1 h.at_place).1
      rw [List.getElem?_append_left (by omega)] at hr
      exact h.first i r hi hr

theorem FirstLightest.bestOf {ss added : List Snapshot} {current : Branch}
    (hadded : ∀ s ∈ added, s.halted = false)
    (h : FirstLightest ss current.serial current.shot.unmarked) :
    FirstLightest (ss ++ added) (bestOf current (number ss.length added)).serial
      (bestOf current (number ss.length added)).shot.unmarked := by
  induction added generalizing ss current with
  | nil => simpa [Search.bestOf, number] using h
  | cons s added ih =>
    have hstep := h.better (hadded s (by simp))
    have := ih (fun r hr => hadded r (List.mem_cons_of_mem _ hr)) hstep
    simpa [Search.bestOf, number] using this

/-- The best of several is the present best or one of those added. -/
theorem bestOf_eq_or_mem (current : Branch) (added : List Branch) :
    bestOf current added = current ∨ bestOf current added ∈ added := by
  induction added generalizing current with
  | nil => exact Or.inl rfl
  | cons b added ih =>
    rw [bestOf, List.foldl_cons, ← bestOf]
    rcases ih (better b current) with h | h
    · rw [h]
      unfold better
      split
      · exact Or.inr (by simp)
      · exact Or.inl rfl
    · exact Or.inr (List.mem_cons_of_mem _ h)

/-! ## How a search stands to its trace -/

/-- A search from `s` that has expanded the branches `bs` is in the state `st`. -/
structure Logged (plan : Plan) (s : Snapshot) (bs : List Branch) (st : State) : Prop where
  rounds : st.rounds = bs.length
  fresh : st.fresh = (madeBy plan.table s bs).length
  unmarked : ∀ r ∈ madeBy plan.table s bs, r.halted = false
  pending : ∀ b ∈ st.pending, (madeBy plan.table s bs)[b.serial]? = some b.shot
  expanded : ∀ b ∈ bs, (madeBy plan.table s bs)[b.serial]? = some b.shot
  passes : ∀ b ∈ bs, ∀ e ∈ plan.table.choices b.shot.config, plan.table.Passes b.shot.config e
  explored : ∀ f, f ∈ st.explored ↔ plan.prune = true ∧ ∃ b ∈ bs, b.shot.footprint = f
  distinct : plan.prune = true → (bs.map (·.shot.footprint)).Nodup
  /-- Whatever was made is pending, expanded, or a repetition of what was expanded. -/
  placed : ∀ i r, (madeBy plan.table s bs)[i]? = some r →
    (∃ b ∈ st.pending, b.serial = i) ∨ (∃ b ∈ bs, b.serial = i) ∨
      (plan.prune = true ∧ ∃ b ∈ bs, b.shot.footprint = r.footprint)
  best : FirstLightest (madeBy plan.table s bs) st.best.serial st.best.shot.unmarked
  halted : st.best.shot.halted = true ↔
    plan.table.choices st.best.shot.config = [] ∧ ∃ b ∈ bs, b.serial = st.best.serial

namespace Logged

variable {s : Snapshot}

theorem seed (hs : s.halted = false) : Logged plan s [] (State.seed s) where
  rounds := rfl
  fresh := rfl
  unmarked := by simpa [madeBy] using hs
  pending := by simp [State.seed, madeBy]
  expanded := by simp
  passes := by simp
  explored := by simp [State.seed]
  distinct := by simp
  placed := by
    intro i r hr
    left
    rcases i with _ | i
    · exact ⟨⟨0, s⟩, by simp [State.seed], rfl⟩
    · simp [madeBy] at hr
  best := by
    rw [show (State.seed s).best.shot.unmarked = s from Snapshot.unmarked_of_not_halted hs]
    exact ⟨rfl, by simp [madeBy], by intro i r hi _; cases hi⟩
  halted := by simp [State.seed, hs]

theorem pending_halted (h : Logged plan s bs st) : ∀ b ∈ st.pending, b.shot.halted = false :=
  fun b hb => h.unmarked _ (List.mem_of_getElem? (h.pending b hb))

theorem drop (h : Logged plan s bs st) (hpending : st.pending = b :: rest)
    (hprune : plan.prune = true) (hknown : b.shot.footprint ∈ st.explored) :
    Logged plan s bs { st with pending := rest } := by
  refine { h with pending := ?_, placed := ?_ }
  · intro x hx
    exact h.pending x (by rw [hpending]; exact List.mem_cons_of_mem _ hx)
  · intro i r hr
    rcases h.placed i r hr with ⟨x, hx, rfl⟩ | hplaced
    · rw [hpending] at hx
      rcases List.mem_cons.1 hx with rfl | hx
      · have hshot := h.pending x (by simp [hpending])
        obtain rfl : x.shot = r := Option.some.inj (hshot.symm.trans hr)
        exact Or.inr (Or.inr ⟨hprune, ((h.explored _).1 hknown).2⟩)
      · exact Or.inl ⟨x, hx, rfl⟩
    · exact Or.inr hplaced

/-- Marking a branch changes the best branch only if it is that one. -/
theorem halt_best (h : Logged plan s bs st) (hb : b ∈ st.pending) :
    (b.serial = st.best.serial ∧ b.shot = st.best.shot.unmarked ∧
      (st.halt b).best = ⟨b.serial, { b.shot with halted := true }⟩) ∨
    (b.serial ≠ st.best.serial ∧ (st.halt b).best = st.best) := by
  have hmade := h.pending b hb
  unfold State.halt
  by_cases hserial : b.serial = st.best.serial
  · left
    have hbest := h.best.at_place
    rw [← hserial, hmade] at hbest
    exact ⟨hserial, Option.some.inj hbest, if_pos hserial⟩
  · right
    have hlight : ¬ b.shot.workload < st.best.shot.workload :=
      Nat.not_lt.2 (h.best.lightest _ (List.mem_of_getElem? hmade))
    refine ⟨hserial, ?_⟩
    simp only [if_neg hserial]
    exact if_neg hlight

/-- The mark of the best branch after an expansion. -/
theorem halted_of_expands (h : Logged plan s bs st) (hpicks : Picks plan st b rest)
    (hexpands : Expands plan st b rest st') :
    st'.best.shot.halted = true ↔
      plan.table.choices st'.best.shot.config = [] ∧ ∃ x ∈ bs ++ [b], x.serial = st'.best.serial := by
  have hb : b ∈ st.pending := by simp [hpicks.pending]
  have hmade := h.pending b hb
  by_cases hnone : plan.table.choices b.shot.config = []
  · rw [hexpands.best, if_pos hnone]
    rcases h.halt_best hb with ⟨hserial, _, hbest⟩ | ⟨hserial, hbest⟩
    · simp [hbest, hnone]
    · rw [hbest, h.halted]
      simp [hserial, or_and_right, exists_or]
  · rw [hexpands.best, if_neg hnone]
    rcases bestOf_eq_or_mem st.best (number st.fresh (b.shot.successors plan.table)) with heq | hmem
    · rw [heq, h.halted]
      refine and_congr_right fun hchoices => ?_
      have hserial : b.serial ≠ st.best.serial := by
        intro hserial
        have hbest := h.best.at_place
        rw [← hserial, hmade] at hbest
        rw [Option.some.inj hbest] at hnone
        exact hnone hchoices
      simp [hserial, or_and_right, exists_or]
    · obtain ⟨hfresh, hshot⟩ := mem_number_iff.1 hmem
      have hnew := Snapshot.halted_of_mem_successors (List.mem_of_getElem? hshot)
      rw [hnew, h.unmarked _ (List.mem_of_getElem? hmade)]
      have hold : ∀ x ∈ bs ++ [b], x.serial < st.fresh := by
        intro x hx
        rw [h.fresh]
        rcases List.mem_append.1 hx with hx | hx
        · exact (List.getElem?_eq_some_iff.1 (h.expanded x hx)).1
        · rw [List.mem_singleton.1 hx]
          exact (List.getElem?_eq_some_iff.1 hmade).1
      refine iff_of_false (by simp) ?_
      rintro ⟨_, x, hx, hserial⟩
      have := hold x hx
      omega

theorem expand_pending (h : Logged plan s bs st) (hpicks : Picks plan st b rest)
    (hexpands : Expands plan st b rest st') :
    ∀ x ∈ st'.pending, (madeBy plan.table s (bs ++ [b]))[x.serial]? = some x.shot := by
  intro x hx
  rw [hexpands.pending] at hx
  rw [madeBy_snoc]
  rcases List.mem_append.1 hx with hx | hx
  · obtain ⟨hfresh, hshot⟩ := mem_number_iff.1 (List.mem_reverse.1 hx)
    rw [List.getElem?_append_right (by rw [← h.fresh]; exact hfresh), ← h.fresh, hshot]
  · refine getElem?_append_of_eq_some (h.pending x ?_)
    rw [hpicks.pending]
    exact List.mem_cons_of_mem _ hx

theorem expand_expanded (h : Logged plan s bs st) (hpicks : Picks plan st b rest) :
    ∀ x ∈ bs ++ [b], (madeBy plan.table s (bs ++ [b]))[x.serial]? = some x.shot := by
  intro x hx
  rw [madeBy_snoc]
  rcases List.mem_append.1 hx with hx | hx
  · exact getElem?_append_of_eq_some (h.expanded x hx)
  · rw [List.mem_singleton.1 hx]
    exact getElem?_append_of_eq_some (h.pending b (by simp [hpicks.pending]))

theorem expand_distinct (h : Logged plan s bs st) (hpicks : Picks plan st b rest)
    (hprune : plan.prune = true) : ((bs ++ [b]).map (·.shot.footprint)).Nodup := by
  have hnew : ∀ x ∈ bs, x.shot.footprint ≠ b.shot.footprint := fun x hx heq =>
    hpicks.new hprune ((h.explored _).2 ⟨hprune, x, hx, heq⟩)
  rw [List.map_append, List.nodup_append]
  refine ⟨h.distinct hprune, by simp, ?_⟩
  simpa using hnew

theorem expand_placed (h : Logged plan s bs st) (hpicks : Picks plan st b rest)
    (hexpands : Expands plan st b rest st') {i : Nat} {r : Snapshot}
    (hr : (madeBy plan.table s (bs ++ [b]))[i]? = some r) :
    (∃ x ∈ st'.pending, x.serial = i) ∨ (∃ x ∈ bs ++ [b], x.serial = i) ∨
      (plan.prune = true ∧ ∃ x ∈ bs ++ [b], x.shot.footprint = r.footprint) := by
  rw [madeBy_snoc] at hr
  rcases Nat.lt_or_ge i (madeBy plan.table s bs).length with hi | hi
  · rw [List.getElem?_append_left hi] at hr
    rcases h.placed i r hr with ⟨x, hx, rfl⟩ | ⟨x, hx, rfl⟩ | ⟨hprune, x, hx, hfoot⟩
    · rw [hpicks.pending] at hx
      rcases List.mem_cons.1 hx with rfl | hx
      · exact Or.inr (Or.inl ⟨x, by simp, rfl⟩)
      · exact Or.inl ⟨x, by rw [hexpands.pending]; exact List.mem_append_right _ hx, rfl⟩
    · exact Or.inr (Or.inl ⟨x, List.mem_append_left _ hx, rfl⟩)
    · exact Or.inr (Or.inr ⟨hprune, x, List.mem_append_left _ hx, hfoot⟩)
  · -- What is new is pending.
    rw [List.getElem?_append_right hi] at hr
    refine Or.inl ⟨⟨i, r⟩, ?_, rfl⟩
    rw [hexpands.pending]
    refine List.mem_append_left _ (List.mem_reverse.2 (mem_number_iff.2 ⟨?_, ?_⟩))
    · rw [h.fresh]
      exact hi
    · rw [h.fresh]
      exact hr

theorem expand_best (h : Logged plan s bs st) (hpicks : Picks plan st b rest)
    (hexpands : Expands plan st b rest st')
    (hsuccessors : ∀ r ∈ b.shot.successors plan.table, r.halted = false) :
    FirstLightest (madeBy plan.table s (bs ++ [b])) st'.best.serial st'.best.shot.unmarked := by
  rw [madeBy_snoc, hexpands.best]
  split
  · next hnone =>
    have hsucc : b.shot.successors plan.table = [] := by
      rw [Snapshot.successors, hnone]
      rfl
    rw [hsucc, List.append_nil]
    rcases h.halt_best (b := b) (by simp [hpicks.pending]) with
      ⟨hserial, hshot, hbest⟩ | ⟨_, hbest⟩
    · have hsame : (st.halt b).best.shot.unmarked = st.best.shot.unmarked := by
        rw [hbest, hshot]
        rfl
      rw [hsame, hbest, hserial]
      exact h.best
    · rw [hbest]
      exact h.best
  · rw [h.fresh]
    exact h.best.bestOf hsuccessors

theorem expand (h : Logged plan s bs st) (hpicks : Picks plan st b rest)
    (hpasses : ∀ e ∈ plan.table.choices b.shot.config, plan.table.Passes b.shot.config e)
    (hexpands : Expands plan st b rest st') : Logged plan s (bs ++ [b]) st' := by
  have hb : b.shot.halted = false := h.pending_halted b (by simp [hpicks.pending])
  have hsuccessors : ∀ r ∈ b.shot.successors plan.table, r.halted = false := fun r hr =>
    (Snapshot.halted_of_mem_successors hr).trans hb
  refine
    { rounds := ?_
      fresh := ?_
      unmarked := ?_
      pending := h.expand_pending hpicks hexpands
      expanded := h.expand_expanded hpicks
      passes := ?_
      explored := ?_
      distinct := h.expand_distinct hpicks
      placed := fun i r => h.expand_placed hpicks hexpands
      best := h.expand_best hpicks hexpands hsuccessors
      halted := h.halted_of_expands hpicks hexpands }
  · rw [hexpands.rounds, h.rounds, List.length_append, List.length_singleton]
  · rw [hexpands.fresh, h.fresh, madeBy_snoc, List.length_append]
  · intro r hr
    rw [madeBy_snoc] at hr
    exact (List.mem_append.1 hr).elim (h.unmarked r) (hsuccessors r)
  · intro x hx
    rcases List.mem_append.1 hx with hx | hx
    · exact h.passes x hx
    · rw [List.mem_singleton.1 hx]
      exact hpasses
  · intro f
    rw [hexpands.explored, h.explored]
    simp only [List.mem_append, List.mem_singleton, or_and_right, exists_or, exists_eq_left]
    rw [← and_or_left, @eq_comm _ f]

theorem advance (h : Logged plan s bs st) (hadvance : st.advance plan = .ok st') :
    Logged plan s (bs ++ (st.next? plan).toList) st' := by
  have hround := State.round_advance plan h.pending_halted
  rw [hadvance] at hround
  cases hround with
  | drops hpending hspent hprune hknown =>
    rw [next?_of_known hpending hprune hknown]
    simpa using h.drop hpending hprune hknown
  | expands hpicks hpasses hexpands =>
    rw [hpicks.next?]
    exact h.expand hpicks hpasses hexpands

end Logged

theorem Logged.rounds_keep {s : Snapshot} {n : Nat} {cs : List Branch}
    (h : Logged plan s bs st) (hrounds : Rounds plan n st cs st') :
    Logged plan s (bs ++ cs) st' :=
  hrounds.keep bs (fun _ _ _ hlogged hadvance => hlogged.advance hadvance) h

theorem Rounds.logged {s : Snapshot} {n : Nat} (h : Rounds plan n (State.seed s) bs st)
    (hs : s.halted = false) : Logged plan s bs st := by
  simpa using (Logged.seed hs).rounds_keep h

/-- What the first snapshot has and successors keep, all that is made has. -/
theorem Rounds.forall_made {P : Snapshot → Prop} {s : Snapshot} {n : Nat}
    (h : Rounds plan n (State.seed s) bs st) (hs : s.halted = false) (hP : P s)
    (hsuccessors : ∀ r, P r → ∀ x ∈ r.successors plan.table, P x) :
    ∀ r ∈ madeBy plan.table s bs, P r := by
  have hstep : ∀ bs st st', (Logged plan s bs st ∧ ∀ r ∈ madeBy plan.table s bs, P r) →
      st.advance plan = .ok st' → Logged plan s (bs ++ (st.next? plan).toList) st' ∧
        ∀ r ∈ madeBy plan.table s (bs ++ (st.next? plan).toList), P r := by
    rintro bs st st' ⟨hlogged, hmade⟩ hadvance
    refine ⟨hlogged.advance hadvance, fun r hr => ?_⟩
    rw [madeBy_append] at hr
    rcases List.mem_append.1 hr with hr | hr
    · exact hmade r hr
    · obtain ⟨b, hb, hr⟩ := List.mem_flatMap.1 hr
      obtain ⟨rest, hpicks⟩ := exists_picks (Option.mem_toList.1 hb)
      have hb := hlogged.pending b (by simp [hpicks.pending])
      exact hsuccessors _ (hmade _ (List.mem_of_getElem? hb)) r hr
  exact (h.keep [] hstep ⟨.seed hs, by simpa [madeBy] using hP⟩).2

/-! ## How a search can end -/

/-- The ways in which a search from `s` settles on a snapshot. -/
inductive Settling (plan : Plan) (fuel : Nat) (s : Snapshot) : Verdict → Snapshot → Prop
  | atOnce (hfinal : plan.table.isFinal s.config = true) : Settling plan fuel s .accepted s
  | ranDry {n : Nat} {bs : List Branch} {st : State} (hn : n < fuel)
      (hrounds : Rounds plan n (State.seed s) bs st) (hpending : st.pending = [])
      (hstart : plan.table.isFinal s.config = false) (hexpansions : expansions plan fuel s = bs) :
      Settling plan fuel s .ranDry st.best.shot
  | cutShort {n : Nat} {bs : List Branch} {st : State} (hn : n < fuel)
      (hrounds : Rounds plan n (State.seed s) bs st) (hspent : st.isSpent plan = true)
      (hexpansions : expansions plan fuel s = bs) :
      Settling plan fuel s .cutShort st.best.shot
  | accepted {n : Nat} {bs rest : List Branch} {st : State} {b : Branch} {pre post : List Entry}
      {e : Entry} {r : Snapshot} (hn : n < fuel) (hrounds : Rounds plan n (State.seed s) bs st)
      (hpicks : Picks plan st b rest)
      (hchoices : plan.table.choices b.shot.config = pre ++ e :: post)
      (hpasses : ∀ x ∈ pre, plan.table.Passes b.shot.config x)
      (happly : b.shot.apply e = .ok r) (hfinal : plan.table.isFinal r.config = true) :
      Settling plan fuel s .accepted r

theorem settling_of_start {fuel : Nat} {s r : Snapshot} {v : Verdict} {told : List String}
    (hs : s.halted = false) (h : start plan fuel s = some ⟨.settled v r, told⟩) :
    Settling plan fuel s v r := by
  unfold start at h
  split at h
  · next haccepts =>
    cases h
    rw [Snapshot.accepts_of_not_halted hs] at haccepts
    exact .atOnce haccepts
  · next haccepts =>
    obtain ⟨n, bs, st, hn, hrounds, herror, hexpansions⟩ := State.run_eq_some h
    have hlogged := hrounds.logged hs
    have hround := State.round_advance plan hlogged.pending_halted
    rw [herror] at hround
    have hstart : plan.table.isFinal s.config = false := by
      rw [← Snapshot.accepts_of_not_halted hs]
      simpa using haccepts
    have hexpansions' : expansions plan fuel s = bs ++ (st.next? plan).toList := by
      rw [expansions, if_neg haccepts, hexpansions]
    cases hround with
    | ranDry told hpending =>
      rw [next?_of_ranDry hpending] at hexpansions'
      exact .ranDry hn hrounds hpending hstart (by simpa using hexpansions')
    | cutShort told hpending hspent =>
      rw [next?_of_spent hspent] at hexpansions'
      exact .cutShort hn hrounds hspent (by simpa using hexpansions')
    | finds told hpicks hchoices hpasses happly hfinal =>
      exact .accepted hn hrounds hpicks hchoices hpasses happly hfinal

/-- What the first snapshot has and successors keep, that which a search settles on has, but for the mark
of being stuck. -/
theorem Settling.keeps {P : Snapshot → Prop} {fuel : Nat} {s r : Snapshot} {v : Verdict}
    (hs : s.halted = false) (h : Settling plan fuel s v r) (hP : P s)
    (hsuccessors : ∀ r, P r → ∀ x ∈ r.successors plan.table, P x) : P r ∨ P r.unmarked := by
  cases h with
  | atOnce hfinal => exact Or.inl hP
  | ranDry hn hrounds hpending hstart hexpansions =>
    have hbest := List.mem_of_getElem? (hrounds.logged hs).best.at_place
    exact Or.inr (hrounds.forall_made hs hP hsuccessors _ hbest)
  | cutShort hn hrounds hspent hexpansions =>
    have hbest := List.mem_of_getElem? (hrounds.logged hs).best.at_place
    exact Or.inr (hrounds.forall_made hs hP hsuccessors _ hbest)
  | @accepted n bs rest st b pre post e r hn hrounds hpicks hchoices hpasses happly hfinal =>
    have hb := List.mem_of_getElem? ((hrounds.logged hs).pending b (by simp [hpicks.pending]))
    exact Or.inl (hsuccessors _ (hrounds.forall_made hs hP hsuccessors _ hb) r
      (Snapshot.mem_after_iff.2 ⟨e, by simp [hchoices], happly⟩))

end Search

end ArrowMachine
