import ArrowMachine.Proofs.Run.Fallback
import ArrowMachine.Proofs.Run.Exploration

/-!
Pruning changes nothing but how much is expanded.

Take an exploration without pruning that ends. What a search with pruning drops is the root of a part of
it that was explored before: the same configurations, none of them final, none of them lighter than what
has been made already. So the search with pruning works off the same stacks, makes the same first lightest
snapshot (`Explores.drains`) and finds the same accepting one (`Explores.finds`), in no more rounds. A
machine then takes over the same snapshot, and its listeners hear the same (`Machine.consume_pruning_eq`).
-/
namespace ArrowMachine

open Search (Plan Branch State Verdict Rounds Picks Expands Explores)

namespace Search

/-! ## The first lightest of a list -/

/-- The first of the lightest among a snapshot and those that follow it. -/
def lightest (m : Snapshot) (ss : List Snapshot) : Snapshot :=
  ss.foldl (fun m s => if s.workload < m.workload then s else m) m

theorem lightest_append (m : Snapshot) (ss rs : List Snapshot) :
    lightest m (ss ++ rs) = lightest (lightest m ss) rs :=
  List.foldl_append

theorem lightest_cons (m s : Snapshot) (ss : List Snapshot) :
    lightest m (s :: ss) = lightest (lightest m [s]) ss := rfl

theorem lightest_singleton_le (m s : Snapshot) :
    (lightest m [s]).workload ≤ m.workload ∧ (lightest m [s]).workload ≤ s.workload := by
  change (if s.workload < m.workload then s else m).workload ≤ _ ∧
    (if s.workload < m.workload then s else m).workload ≤ _
  split <;> omega

theorem lightest_le (m : Snapshot) (ss : List Snapshot) :
    (lightest m ss).workload ≤ m.workload := by
  induction ss generalizing m with
  | nil => exact Nat.le_refl _
  | cons s ss ih =>
    rw [lightest_cons]
    exact Nat.le_trans (ih _) (lightest_singleton_le m s).1

theorem lightest_le_of_mem {m s : Snapshot} {ss : List Snapshot} (hs : s ∈ ss) :
    (lightest m ss).workload ≤ s.workload := by
  induction ss generalizing m with
  | nil => cases hs
  | cons r ss ih =>
    rw [lightest_cons]
    rcases List.mem_cons.1 hs with rfl | hs
    · exact Nat.le_trans (lightest_le _ ss) (lightest_singleton_le m s).2
    · exact ih hs

/-- What is not lighter changes nothing. -/
theorem lightest_eq_self {m : Snapshot} {ss : List Snapshot}
    (h : ∀ s ∈ ss, m.workload ≤ s.workload) : lightest m ss = m := by
  induction ss with
  | nil => rfl
  | cons s ss ih =>
    have hs : lightest m [s] = m := if_neg (Nat.not_lt.2 (h s List.mem_cons_self))
    rw [lightest_cons, hs]
    exact ih fun r hr => h r (List.mem_cons_of_mem _ hr)

theorem shot_bestOf (b : Branch) (n : Nat) (ss : List Snapshot) :
    (bestOf b (number n ss)).shot = lightest b.shot ss := by
  induction ss generalizing b n with
  | nil => rfl
  | cons s ss ih =>
    rw [number, bestOf, List.foldl_cons, ← bestOf, ih, lightest_cons]
    congr 1
    change (if s.workload < b.shot.workload then (⟨n, s⟩ : Branch) else b).shot =
      if s.workload < b.shot.workload then s else b.shot
    split <;> rfl

theorem FirstLightest.unique {ss : List Snapshot} {k k' : Nat} {s s' : Snapshot}
    (h : FirstLightest ss k s) (h' : FirstLightest ss k' s') : k = k' ∧ s = s' := by
  have hle := h.lightest s' (List.mem_of_getElem? h'.at_place)
  have hle' := h'.lightest s (List.mem_of_getElem? h.at_place)
  obtain rfl : k = k' := by
    rcases Nat.lt_trichotomy k k' with hlt | heq | hgt
    · have := h'.first k s hlt h.at_place
      omega
    · exact heq
    · have := h.first k' s' hgt h'.at_place
      omega
  exact ⟨rfl, Option.some.inj (h.at_place.symm.trans h'.at_place)⟩

theorem FirstLightest.eq_lightest {m s : Snapshot} {ss : List Snapshot} {k : Nat}
    (h : FirstLightest (m :: ss) k s) (hss : ∀ r ∈ m :: ss, r.halted = false) :
    s = (Search.lightest m ss).unmarked := by
  have hm : FirstLightest [m] (⟨0, m⟩ : Branch).serial (⟨0, m⟩ : Branch).shot.unmarked := by
    change FirstLightest [m] 0 m.unmarked
    rw [Snapshot.unmarked_of_not_halted (hss m List.mem_cons_self)]
    exact ⟨rfl, by simp, fun i _ hi => absurd hi (Nat.not_lt_zero i)⟩
  have hbest := hm.bestOf fun r hr => hss r (List.mem_cons_of_mem _ hr)
  rw [shot_bestOf] at hbest
  exact (h.unique hbest).2

/-! ## What is skipped is not lighter -/

variable {plan : Plan} {t : Compiled} {w : List String} {st st' st'' : State} {m m' s : Snapshot}
  {xs ys zs : List Snapshot}

/-- `m` is not heavier than anything below a snapshot of `xs` that would be dropped as known. -/
def Bounds (t : Compiled) (st : State) (xs : List Snapshot) (m : Snapshot) : Prop :=
  ∀ x ∈ xs, x.footprint ∈ st.explored →
    ∀ ys, Explores t [x] ys none → ∀ y ∈ ys, m.workload ≤ y.workload

theorem Bounds.subset (h : Bounds t st xs m) (hsubset : ys ⊆ xs) : Bounds t st ys m :=
  fun x hx => h x (hsubset hx)

/-- Expanding a snapshot makes nothing known that comes back below it. -/
theorem Bounds.expand {b : Branch} {rest : List Branch} (h : Bounds t st ys m)
    (hexpands : Expands plan st b rest st') (hys : Explores t [b.shot] (b.shot :: ys) none)
    (hwithin : ∀ r ∈ b.shot :: ys, r.Within w) (hle : m'.workload ≤ m.workload) :
    Bounds t st' ys m' := by
  intro x hx hknown zs hzs y hy
  rcases (hexpands.explored _).1 hknown with hknown | ⟨_, hfoot⟩
  · exact Nat.le_trans hle (h x hx hknown zs hzs y hy)
  · have hconfig := Snapshot.config_eq_of_footprint (hwithin x (List.mem_cons_of_mem _ hx))
      (hwithin _ List.mem_cons_self) hfoot
    exact absurd hconfig (hys.acyclic hx)

/-- What has become known below `s` is bounded by what was made there. -/
theorem Bounds.after (h : Bounds t st zs m) (hys : Explores t [s] ys none)
    (hwithin : ∀ r ∈ ys ++ zs, r.Within w)
    (hexplored : ∀ f ∈ st'.explored, f ∈ st.explored ∨ ∃ y ∈ ys, y.footprint = f)
    (hle : m'.workload ≤ m.workload) (hbelow : ∀ y ∈ ys, m'.workload ≤ y.workload) :
    Bounds t st' zs m' := by
  intro x hx hknown us hus u hu
  rcases hexplored _ hknown with hknown | ⟨y, hy, hfoot⟩
  · exact Nat.le_trans hle (h x hx hknown us hus u hu)
  · -- The same was expanded below `y`, and that is a part of `ys`.
    obtain ⟨vs, hvs, hsubset, _⟩ := hys.of_mem hy
    have hconfig := Snapshot.config_eq_of_footprint (hwithin y (List.mem_append_left _ hy))
      (hwithin x (List.mem_append_right _ hx)) hfoot
    have hconfigs := (hvs.configs_eq hus (by simpa using hconfig)).1
    have hmem : u.config ∈ vs.map (·.config) := hconfigs ▸ List.mem_map_of_mem hu
    obtain ⟨v, hv, hvu⟩ := List.mem_map.1 hmem
    have hload : v.workload = u.workload := congrArg Configuration.workload hvu
    exact hload ▸ hbelow v (hsubset hv)

/-! ## Stacks that are emptied -/

/-- A search with pruning works off `stack`, from which a search without expands `xs`. It leaves `rest`
and has expanded `bs`. -/
structure Drains (plan : Plan) (st : State) (stack xs : List Snapshot) (rest bs : List Branch)
    (st' : State) : Prop where
  rounds : ∃ n ≤ xs.length, Rounds plan n st bs st'
  pending : st'.pending = rest
  begun : st'.rounds ≤ st.rounds + xs.length
  explored : ∀ f ∈ st'.explored, f ∈ st.explored ∨ ∃ x ∈ xs, x.footprint = f
  lightest_eq : ∀ m, (∀ r ∈ stack, m.workload ≤ r.workload) → Bounds plan.table st xs m →
    lightest m (bs.flatMap (·.shot.successors plan.table)) =
      lightest m (xs.flatMap (·.successors plan.table))

namespace Drains

variable {stack : List Snapshot} {b : Branch} {above rest bs cs : List Branch}

theorem nil (hpending : st.pending = rest) : Drains plan st [] [] rest [] st where
  rounds := ⟨0, Nat.le_refl _, .refl st⟩
  pending := hpending
  begun := Nat.le_refl _
  explored := fun _ hf => Or.inl hf
  lightest_eq := fun _ _ _ => rfl

/-- A known snapshot is dropped in one round, with all that would be expanded below it. -/
theorem drop (hpending : st.pending = b :: above) (hspent : st.isSpent plan = false)
    (hprune : plan.prune = true) (hknown : b.shot.footprint ∈ st.explored)
    (hys : Explores plan.table [b.shot] ys none)
    (h : Drains plan { st with pending := above } stack zs rest bs st') :
    Drains plan st (b.shot :: stack) (ys ++ zs) rest bs st' := by
  have hb : b.shot ∈ ys := hys.mem_of_mem_stack List.mem_cons_self
  have hlength : 0 < ys.length := List.length_pos_of_mem hb
  refine ⟨?_, h.pending, ?_, ?_, ?_⟩
  · obtain ⟨n, hn, hrounds⟩ := h.rounds
    have hround := Rounds.round (State.advance_of_known hpending hspent hprune hknown) hrounds
    rw [next?_of_known hpending hprune hknown] at hround
    refine ⟨n + 1, ?_, by simpa using hround⟩
    rw [List.length_append]
    omega
  · refine Nat.le_trans h.begun ?_
    rw [List.length_append]
    exact Nat.add_le_add_left (Nat.le_add_left _ _) _
  · intro f hf
    rcases h.explored f hf with hold | ⟨x, hx, hfoot⟩
    · exact Or.inl hold
    · exact Or.inr ⟨x, List.mem_append_right _ hx, hfoot⟩
  · intro m hstack hbounds
    have hskipped : lightest m (ys.flatMap (·.successors plan.table)) = m := by
      refine lightest_eq_self fun r hr => ?_
      obtain ⟨y, hy, hr⟩ := List.mem_flatMap.1 hr
      exact hbounds b.shot (List.mem_append_left _ hb) hknown ys hys r
        (hys.mem_of_mem_successors hy hr)
    rw [List.flatMap_append, lightest_append, hskipped]
    exact h.lightest_eq m (fun r hr => hstack r (List.mem_cons_of_mem _ hr))
      (hbounds.subset (List.subset_append_right _ _))

/-- A new snapshot is expanded, then what it leads to is worked off, then what lay below it. -/
theorem expand (hpicks : Picks plan st b above) (hadvance : st.advance plan = .ok st')
    (hexpands : Expands plan st b above st')
    (hys : Explores plan.table [b.shot] (b.shot :: ys) none)
    (hwithin : ∀ r ∈ b.shot :: ys ++ zs, r.Within w) {st₂ st₃ : State}
    (h : Drains plan st' (b.shot.successors plan.table).reverse ys above bs st₂)
    (h' : Drains plan st₂ stack zs rest cs st₃) :
    Drains plan st (b.shot :: stack) (b.shot :: ys ++ zs) rest (b :: bs ++ cs) st₃ := by
  have hexplored : ∀ f ∈ st₂.explored, f ∈ st.explored ∨ ∃ y ∈ b.shot :: ys, y.footprint = f := by
    intro f hf
    rcases h.explored f hf with hf | ⟨x, hx, hfoot⟩
    · rcases (hexpands.explored f).1 hf with hf | ⟨_, rfl⟩
      · exact Or.inl hf
      · exact Or.inr ⟨b.shot, List.mem_cons_self, rfl⟩
    · exact Or.inr ⟨x, List.mem_cons_of_mem _ hx, hfoot⟩
  refine ⟨?_, h'.pending, ?_, ?_, ?_⟩
  · obtain ⟨n, hn, hrounds⟩ := h.rounds
    obtain ⟨n', hn', hrounds'⟩ := h'.rounds
    have hround := Rounds.round hadvance (hrounds.trans hrounds')
    rw [hpicks.next?] at hround
    refine ⟨n + n' + 1, ?_, by simpa using hround⟩
    simp only [List.cons_append, List.length_cons, List.length_append]
    omega
  · have := h.begun
    have := h'.begun
    have := hexpands.rounds
    simp only [List.cons_append, List.length_cons, List.length_append]
    omega
  · intro f hf
    rcases h'.explored f hf with hf | ⟨x, hx, hfoot⟩
    · rcases hexplored f hf with hf | ⟨y, hy, hfoot⟩
      · exact Or.inl hf
      · exact Or.inr ⟨y, List.mem_append_left _ hy, hfoot⟩
    · exact Or.inr ⟨x, List.mem_append_right _ hx, hfoot⟩
  · intro m hstack hbounds
    have hmade := h.lightest_eq (lightest m (b.shot.successors plan.table))
      (fun r hr => lightest_le_of_mem (List.mem_reverse.1 hr))
      ((hbounds.subset (by simp)).expand hexpands hys
        (fun r hr => hwithin r (List.mem_append_left _ hr)) (lightest_le _ _))
    rw [← lightest_append, ← lightest_append] at hmade
    have hle : (lightest m ((b.shot :: ys).flatMap (·.successors plan.table))).workload ≤
        m.workload := lightest_le _ _
    have hrest := h'.lightest_eq _ (fun r hr => Nat.le_trans hle (hstack r (List.mem_cons_of_mem _ hr)))
      ((hbounds.subset (by simp)).after hys hwithin hexplored hle (by
        intro y hy
        rcases hys.mem_stack_or_made hy with hy' | hy'
        · rw [List.mem_singleton.1 hy']
          exact Nat.le_trans hle (hstack _ List.mem_cons_self)
        · exact lightest_le_of_mem hy'))
    rw [List.flatMap_append, lightest_append, List.flatMap_append, lightest_append, ← hrest]
    exact congrArg (lightest · _) hmade

end Drains

/-- **A search with pruning empties what a search without empties.** -/
theorem Explores.drains (hprune : plan.prune = true) (st : State) (above : List Branch)
    {rest : List Branch} (h : Explores plan.table (above.map (·.shot)) xs none)
    (hpending : st.pending = above ++ rest)
    (hwithin : ∀ b ∈ st.pending, b.shot.Within w) (hbudget : plan.Affords st.rounds xs.length) :
    ∃ bs st', Drains plan st (above.map (·.shot)) xs rest bs st' := by
  induction hn : xs.length using Nat.strongRecOn generalizing above rest xs st with
  | ind n ih =>
    subst hn
    rcases above with _ | ⟨b, above⟩
    · cases h
      exact ⟨[], st, .nil hpending⟩
    rw [List.cons_append] at hpending
    have hshots : ∀ r ∈ (b :: above).map (·.shot), r.Within w := by
      intro r hr
      obtain ⟨x, hx, rfl⟩ := List.mem_map.1 hr
      exact hwithin x (by rw [hpending]; exact List.mem_append_left rest hx)
    have hxs := h.within hshots
    obtain ⟨ys, zs, rfl, hys, hzs⟩ := h.split_none [b.shot]
    have hb : b.shot ∈ ys := hys.mem_of_mem_stack List.mem_cons_self
    have hlength : 0 < ys.length := List.length_pos_of_mem hb
    rw [List.length_append] at hbudget ih
    have hspent : st.isSpent plan = false := hbudget.not_spent (by omega)
    have hdrop : ∀ x ∈ above ++ rest, x.shot.Within w := fun x hx =>
      hwithin x (hpending ▸ List.mem_cons_of_mem _ hx)
    by_cases hknown : b.shot.footprint ∈ st.explored
    · obtain ⟨bs, st', hdrains⟩ := ih zs.length (by omega)
        { st with pending := above ++ rest } above hzs rfl hdrop
        (hbudget.mono (by omega) (by simp only; omega)) rfl
      exact ⟨bs, st', .drop hpending hspent hprune hknown hys hdrains⟩
    · have hpicks : Picks plan st b (above ++ rest) := ⟨hpending, hspent, fun _ => hknown⟩
      have hys' := hys
      cases hys' with
      | @pass _ _ ys _ hpasses hrest =>
        obtain ⟨st₁, hadvance, hexpands⟩ :=
          State.advance_of_passes (fun x hx => (hwithin x hx).1) hpicks hpasses
        have hwithin₁ := hexpands.forall_pending hpicks hwithin fun r hr hb => hb.of_mem_successors hr
        have hrounds := hexpands.rounds
        rw [List.length_cons] at hbudget ih
        have hsuccessors : (number st.fresh (b.shot.successors plan.table)).reverse.map (·.shot) =
            (b.shot.successors plan.table).reverse := by
          rw [List.map_reverse, map_shot_number]
        rw [List.append_nil, ← hsuccessors] at hrest
        obtain ⟨bs, st₂, h₂⟩ := ih ys.length (by omega) st₁ _ hrest hexpands.pending hwithin₁
          (hbudget.mono (by omega) (by omega)) rfl
        rw [hsuccessors] at h₂
        have hbegun := h₂.begun
        obtain ⟨cs, st₃, h₃⟩ := ih zs.length (by omega) st₂ above hzs h₂.pending
          (h₂.pending ▸ hdrop) (hbudget.mono (by omega) (by omega)) rfl
        exact ⟨b :: bs ++ cs, st₃, .expand hpicks hadvance hexpands hys hxs h₂ h₃⟩

/-! ## Stacks on which something is found -/

/-- No known snapshot leads to an accepting one within `n` expansions. -/
def Barren (t : Compiled) (w : List String) (st : State) (n : Nat) : Prop :=
  ∀ x, x.Within w → x.footprint ∈ st.explored → ∀ ys g, Explores t [x] ys (some g) → n < ys.length

theorem Barren.mono {n n' : Nat} (h : Barren t w st n) (hle : n' ≤ n) : Barren t w st n' :=
  fun x hx hknown ys g hys => Nat.lt_of_le_of_lt hle (h x hx hknown ys g hys)

/-- Expanding a snapshot on the way to an accepting one makes nothing known that is nearer to it. -/
theorem Barren.expand {b : Branch} {rest : List Branch} {stack : List Snapshot} {g : Snapshot}
    (h : Barren t w st (xs.length + 1)) (hb : b.shot.Within w)
    (hexpands : Expands plan st b rest st')
    (hxs : Explores t (b.shot :: stack) (b.shot :: xs) (some g)) : Barren t w st' xs.length := by
  intro x hx hknown ys g' hys
  rcases (hexpands.explored _).1 hknown with hknown | ⟨_, hfoot⟩
  · exact Nat.lt_of_succ_lt (h x hx hknown ys g' hys)
  · have hconfig : [x].map (·.config) = [b.shot].map (·.config) := by
      simpa using Snapshot.config_eq_of_footprint hx hb hfoot
    rcases hxs.split [b.shot] with ⟨_, hbelow⟩ | ⟨zs, _, _, hzs, _⟩
    · have hlength := congrArg List.length (hys.configs_eq hbelow hconfig).1
      simp only [List.length_map, List.length_cons] at hlength
      omega
    · have hsome := (hys.configs_eq hzs hconfig).2
      cases hsome

/-- **A search with pruning finds what a search without finds.** -/
theorem Explores.finds (hprune : plan.prune = true) (st : State) {g : Snapshot}
    (h : Explores plan.table (st.pending.map (·.shot)) xs (some g))
    (hwithin : ∀ b ∈ st.pending, b.shot.Within w) (hbarren : Barren plan.table w st xs.length)
    (hbudget : plan.Affords st.rounds xs.length) :
    ∃ n bs st' told, n < xs.length ∧ Rounds plan n st bs st' ∧
      st'.advance plan = .error ⟨.settled .accepted g, told⟩ := by
  induction hn : xs.length using Nat.strongRecOn generalizing xs st with
  | ind n ih =>
    subst hn
    rcases hpending : st.pending with _ | ⟨b, above⟩
    · rw [hpending] at h
      cases h
    rw [hpending, List.map_cons] at h
    have hb : b.shot.Within w := hwithin b (by simp [hpending])
    have hlength : 0 < xs.length := by
      cases h <;> simp
    have hspent : st.isSpent plan = false := hbudget.not_spent (by omega)
    by_cases hknown : b.shot.footprint ∈ st.explored
    · rcases h.split [b.shot] with ⟨_, hbelow⟩ | ⟨ys, zs, rfl, hys, hzs⟩
      · exact absurd (hbarren b.shot hb hknown xs g hbelow) (Nat.lt_irrefl _)
      · have hmem := List.length_pos_of_mem (hys.mem_of_mem_stack List.mem_cons_self)
        rw [List.length_append] at hbudget hbarren ih ⊢
        obtain ⟨n, bs, st', told, hn, hrounds, herror⟩ := ih zs.length (by omega)
          { st with pending := above } hzs
          (fun x hx => hwithin x (hpending ▸ List.mem_cons_of_mem _ hx))
          (hbarren.mono (by omega)) (hbudget.mono (by omega) (by simp only; omega)) rfl
        have hround := Rounds.round (State.advance_of_known hpending hspent hprune hknown) hrounds
        exact ⟨n + 1, _, st', told, by omega, hround, herror⟩
    · have hpicks : Picks plan st b above := ⟨hpending, hspent, fun _ => hknown⟩
      have hhalted : ∀ x ∈ st.pending, x.shot.halted = false := fun x hx => (hwithin x hx).1
      have hxs := h
      cases hxs with
      | found hchoices hpasses happly hfinal =>
        obtain ⟨told, herror⟩ :=
          State.advance_of_final hhalted hpicks hchoices hpasses happly hfinal
        exact ⟨0, [], st, told, hlength, .refl st, herror⟩
      | @pass _ _ xs _ hpasses hrest =>
        obtain ⟨st₁, hadvance, hexpands⟩ := State.advance_of_passes hhalted hpicks hpasses
        have hwithin₁ := hexpands.forall_pending hpicks hwithin fun r hr hb => hb.of_mem_successors hr
        have hrounds₁ := hexpands.rounds
        rw [List.length_cons] at hbudget hbarren ih ⊢
        obtain ⟨n, bs, st', told, hn, hrounds, herror⟩ := ih xs.length (by omega) st₁
          (hexpands.map_shot ▸ hrest) hwithin₁ (hbarren.expand hb hexpands h)
          (hbudget.mono (by omega) (by omega)) rfl
        exact ⟨n + 1, _, st', told, by omega, .round hadvance hrounds, herror⟩

/-! ## Whole searches -/

/-- **Pruning changes nothing about how a search ends**, unless it was cut short, and nothing about what
it settles on, but for the mark of being stuck. -/
theorem start_prune (plan : Plan) {fuel : Nat} {r : Snapshot} {v : Verdict} {told : List String}
    (hs : s.halted = false)
    (h : start { plan with prune := false } fuel s = some ⟨.settled v r, told⟩)
    (hv : v ≠ .cutShort) :
    ∃ r' told', start { plan with prune := true } fuel s = some ⟨.settled v r', told'⟩ ∧
      r'.unmarked = r.unmarked := by
  have hsettling := settling_of_start hs h
  unfold start at h ⊢
  split at h
  · next haccepts =>
    cases h
    exact ⟨s, [], if_pos haccepts, rfl⟩
  · next haccepts =>
    rw [if_neg haccepts]
    have hwithin : ∀ b ∈ (State.seed s).pending, b.shot.Within s.config.input := by
      simpa [State.seed] using ⟨hs, List.suffix_rfl⟩
    obtain ⟨xs, o, hxs⟩ := explores_of_run rfl (fun b hb => (hwithin b hb).1) h hv
    have hexplores : Explores plan.table [s] xs o := hxs.explores
    rcases hxs.ending with ⟨rfl, rfl, hfuel⟩ | ⟨rfl, rfl, hfuel⟩
    · obtain ⟨bs, st', hdrains⟩ := Explores.drains
        (rfl : ({ plan with prune := true } : Plan).prune = true) (State.seed s) [⟨0, s⟩] hexplores
        (rfl : (State.seed s).pending = [⟨0, s⟩] ++ []) hwithin hxs.affords
      obtain ⟨n, hn, hrounds⟩ := hdrains.rounds
      obtain ⟨told', herror⟩ :=
        State.advance_of_ranDry { plan with prune := true } hdrains.pending
      refine ⟨_, told', hrounds.run_eq herror (by omega), ?_⟩
      -- Either search settles on the first lightest of what it has made.
      have hlogged := hrounds.logged hs
      have hlightest := hdrains.lightest_eq s (by simp) (by simp [Bounds, State.seed])
      obtain ⟨k, hk⟩ := hsettling.fallback hs (by simp)
      rw [generated, expansions, if_neg haccepts, madeBy, ← List.flatMap_map, hxs.expanded] at hk
      rw [hlogged.best.eq_lightest hlogged.unmarked, hlightest, hk.eq_lightest]
      intro x hx
      rcases List.mem_cons.1 hx with rfl | hx
      · exact hs
      · obtain ⟨y, hy, hmade⟩ := List.mem_flatMap.1 hx
        exact (Snapshot.halted_of_mem_successors hmade).trans
          (hexplores.within (w := s.config.input) (by simpa using ⟨hs, List.suffix_rfl⟩) y hy).1
    · obtain ⟨n, bs, st', told', hn, hrounds, herror⟩ :=
        Explores.finds (rfl : ({ plan with prune := true } : Plan).prune = true) (State.seed s)
          hexplores hwithin (by simp [Barren, State.seed]) hxs.affords
      exact ⟨r, told', hrounds.run_eq herror (by omega), rfl⟩

end Search

namespace Machine

variable {m : Machine} {fuel depth : Nat} {v : Verdict}

/-- A machine with pruning turned on or off. -/
def pruning (m : Machine) (on : Bool) : Machine :=
  { m with settings := m.settings.turn .pruneRevisited on }

/-- **Pruning only skips work already done.** If a search without pruning ends without being cut short,
then so does the search with pruning, in no more rounds. The machine takes over the same configuration
and history, and telling the listeners about it comes to the same. -/
theorem consume_pruning_eq (m : Machine) (fuel depth : Nat) (w : List String) {v : Verdict}
    {s : Snapshot} (h : (m.pruning false).Settles fuel w v s) (hv : v ≠ .cutShort) :
    ∃ s', (m.pruning true).Settles fuel w v s' ∧ s'.config = s.config ∧ s'.history = s.history ∧
      ((m.pruning true).consume fuel depth w).error =
        ((m.pruning false).consume fuel depth w).error ∧
      ((m.pruning true).consume fuel depth w).machine.config =
        ((m.pruning false).consume fuel depth w).machine.config ∧
      ((m.pruning true).consume fuel depth w).machine.heard =
        ((m.pruning false).consume fuel depth w).machine.heard := by
  have hadopts := h.adopts depth
  obtain ⟨told, hstart⟩ := h
  obtain ⟨s', told', hstart', hsame⟩ := Search.start_prune m.plan rfl hstart hv
  have h' : (m.pruning true).Settles fuel w v s' := ⟨told', hstart'⟩
  obtain ⟨lines, hconsume⟩ := hadopts
  obtain ⟨lines', hconsume'⟩ := h'.adopts depth
  have hconfig : s'.config = s.config := congrArg (·.config) hsame
  have hhistory : s'.history = s.history :=
    show s'.unmarked.history = s.unmarked.history by rw [hsame]
  have halike : Alike ({ m.pruning false with told := lines }.takeOver s)
      ({ m.pruning true with told := lines' }.takeOver s') := by
    refine ⟨(m.pruning true).settings, s'.halted, lines', ?_⟩
    rw [takeOver, takeOver, hconfig]
    rfl
  obtain ⟨hmachine, herror⟩ := (blind_dispatch depth).notifyAll halike s.history
  obtain ⟨settings, halted, told, hmachine⟩ := hmachine
  rw [hconsume, hconsume', hhistory, hmachine]
  exact ⟨s', h', hconfig, hhistory, herror.symm, rfl, rfl⟩

/-- A machine over `forked` tells a subscriber the same with pruning and without. -/
theorem forked_pruning_heard :
    ((((Machine.new forked {} none none).subscribe ⟨"l", false, none⟩).pruning true).consume 10 0
        ["x"]).machine.heard =
      ((((Machine.new forked {} none none).subscribe ⟨"l", false, none⟩).pruning false).consume 10 0
        ["x"]).machine.heard := by
  have hsettles : (((Machine.new forked {} none none).subscribe ⟨"l", false, none⟩).pruning
      false).Settles 10 ["x"] .ranDry ⟨⟨"b", [], []⟩, true, [⟨"b", "x", []⟩], true⟩ := by
    refine ⟨[], ?_⟩
    cbv
  obtain ⟨_, _, _, _, _, _, hheard⟩ := consume_pruning_eq
    ((Machine.new forked {} none none).subscribe ⟨"l", false, none⟩) 10 0 ["x"] hsettles (by decide)
  exact hheard

end Machine

end ArrowMachine
