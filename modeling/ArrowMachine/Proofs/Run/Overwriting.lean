import ArrowMachine.Proofs.Run.Owning
import ArrowMachine.Proofs.Run.Trace
import ArrowMachine.Run.InPlace
import Mathlib.Data.List.Forall2

/-!
A search in place comes to what a search on snapshots comes to.

`InPlace.Follows` relates the two: the members on the work stack are the branches that are pending, and the
best member is the best branch. A step overwrites one member, which is neither pending nor the best
(`Follows.step`): when one entry alone matches, the best member is not stepped, and a member that is forked
is left as it is. So both searches go through the same rounds (`Follows.advance`), and end alike
(`InPlace.start_eq`). What the rounds put on the work stack, read off the memory right behind each round, is
what the other search makes (`InPlace.generated_eq`).
-/
namespace ArrowMachine

namespace Memory

variable {m : Memory} {s : Snapshot} {i : Nat}

theorem shot_of_eq_some (h : m.family[i]? = some s) : m.shot i = s := by
  rw [shot, ← getElem?_family, h]
  rfl

theorem size_places (m : Memory) : m.places.size = m.family.length := by
  rw [length_family, members, Array.length_toList]

theorem Apart.halt (hm : m.Apart) (hi : m.family[i]? = some s) :
    (m.halt i).Apart ∧ (m.halt i).family = m.family.set i { s with halted := true } := by
  rw [getElem?_family, Option.map_eq_some_iff] at hi
  obtain ⟨h, hheld, rfl⟩ := hi
  have hconfined : h.Confined { h with member := { h.member with halted := true } } :=
    ⟨rfl, rfl, fun _ _ => rfl⟩
  rw [Memory.halt, hheld]
  exact ⟨hm.put hheld hconfined, hm.family_put hheld hconfined⟩

end Memory

namespace InPlace

open Search (Plan Branch Verdict Ending better)

/-! ## The two searches side by side -/

/-- Member `i` is the branch `b`. -/
structure Is (live : State) (st : Search.State) (i : Nat) (b : Branch) : Prop where
  shot : live.memory.family[i]? = some b.shot
  best_iff : i = live.best ↔ b.serial = st.best.serial
  numbered : b.serial < st.fresh
  light : st.best.shot.workload ≤ b.shot.workload

/-- It matters only what the members are, and which one is the best. -/
theorem Is.same {live live' : State} {st st' : Search.State} {i : Nat} {b : Branch} (h : Is live st i b)
    (hmemory : live'.memory = live.memory) (hlive : live'.best = live.best) (hbest : st'.best = st.best)
    (hfresh : st'.fresh = st.fresh) : Is live' st' i b where
  shot := hmemory ▸ h.shot
  best_iff := hlive ▸ hbest ▸ h.best_iff
  numbered := hfresh ▸ h.numbered
  light := hbest ▸ h.light

/-- A search in place stands where a search on snapshots stands. -/
structure Follows (live : State) (st : Search.State) : Prop where
  apart : live.memory.Apart
  nodup : live.pending.Nodup
  pending : List.Forall₂ (Is live st) live.pending st.pending
  best : live.memory.family[live.best]? = some st.best.shot
  numbered : st.best.serial < st.fresh
  explored : live.explored = st.explored
  rounds : live.rounds = st.rounds
  told : live.told = st.told

/-- Two results of a round: both end the search alike, or both go on. -/
inductive Alike : Except Ending State → Except Ending Search.State → Prop
  | ended (ending : Ending) : Alike (.error ending) (.error ending)
  | follows {live : State} {st : Search.State} (h : Follows live st) : Alike (.ok live) (.ok st)

namespace Follows

variable {plan : Plan} {live live' : State} {st st' : Search.State} {b : Branch}
  {s t : Snapshot} {e : Entry} {es : List Entry} {i j : Nat} {m : Memory}

theorem seed (s : Snapshot) : Follows (State.seed s) (Search.State.seed s) := by
  obtain ⟨hapart, hfamily⟩ := Memory.ofFamily_spec [s]
  have hshot : (Memory.ofFamily [s]).family[0]? = some s := by
    rw [hfamily]
    rfl
  exact
    { apart := hapart
      nodup := List.nodup_singleton 0
      pending := .cons ⟨hshot, Iff.rfl, Nat.zero_lt_one, Nat.le_refl _⟩ .nil
      best := hshot
      numbered := Nat.zero_lt_one
      explored := rfl
      rounds := rfl
      told := rfl }

theorem shot_best (h : Follows live st) : live.memory.shot live.best = st.best.shot :=
  Memory.shot_of_eq_some h.best

/-- What is pending, and the best, are members. -/
theorem lt_of_mem (h : Follows live st) (hj : j ∈ live.best :: live.pending) :
    j < live.memory.family.length := by
  have hpending : List.Forall₂ (fun i b => i < live.memory.family.length ∧ Is live st i b)
      live.pending st.pending :=
    h.pending.imp fun i b hib => ⟨(List.getElem?_eq_some_iff.1 hib.shot).1, hib⟩
  rcases List.mem_cons.1 hj with rfl | hj
  · exact (List.getElem?_eq_some_iff.1 h.best).1
  · exact ((List.forall₂_and_left _ _).1 hpending).1 j hj

theorem pending_mem (h : Follows live st) :
    List.Forall₂ (fun i b => i ∈ live.pending ∧ Is live st i b) live.pending st.pending :=
  (List.forall₂_and_left ..).2 ⟨fun _ hi => hi, h.pending⟩

/-- Members that are neither pending nor the best may become what they will. -/
theorem of_memory (h : Follows live st) (hm : m.Apart)
    (hkeeps : ∀ j ∈ live.best :: live.pending, m.family[j]? = live.memory.family[j]?) :
    Follows { live with memory := m } st where
  apart := hm
  nodup := h.nodup
  pending := by
    refine h.pending_mem.imp fun i b hib => ⟨?_, hib.2.best_iff, hib.2.numbered, hib.2.light⟩
    exact (hkeeps i (List.mem_cons_of_mem _ hib.1)).trans hib.2.shot
  best := (hkeeps _ List.mem_cons_self).trans h.best
  numbered := h.numbered
  explored := h.explored
  rounds := h.rounds
  told := h.told

/-- A member of its own goes on the work stack as a new branch. -/
theorem add (h : Follows live st) (hi : live.memory.family[i]? = some t)
    (hfree : i ∉ live.best :: live.pending) :
    Follows ({ live with pending := i :: live.pending }.consider i) (st.add t) := by
  have hbest := List.ne_of_not_mem_cons hfree
  have hpending := List.not_mem_of_not_mem_cons hfree
  simp only [State.consider, Search.State.add, better, Memory.shot_of_eq_some hi, h.shot_best]
  by_cases hlt : t.workload < st.best.shot.workload
  · rw [if_pos hlt, if_pos hlt]
    refine ⟨h.apart, h.nodup.cons hpending, .cons ⟨hi, by simp, Nat.lt_succ_self _, Nat.le_refl _⟩ ?_, hi,
      Nat.lt_succ_self _, h.explored, h.rounds, h.told⟩
    refine h.pending_mem.imp fun j b hjb => ⟨hjb.2.shot, iff_of_false ?_ ?_, ?_, ?_⟩
    · rintro rfl
      exact hpending hjb.1
    · exact Nat.ne_of_lt hjb.2.numbered
    · exact Nat.lt_succ_of_lt hjb.2.numbered
    · exact Nat.le_of_lt (Nat.lt_of_lt_of_le hlt hjb.2.light)
  · rw [if_neg hlt, if_neg hlt]
    refine ⟨h.apart, h.nodup.cons hpending, .cons ⟨hi, iff_of_false hbest ?_, Nat.lt_succ_self _, ?_⟩ ?_, h.best,
      Nat.lt_succ_of_lt h.numbered, h.explored, h.rounds, h.told⟩
    · exact Nat.ne_of_gt h.numbered
    · exact Nat.le_of_not_lt hlt
    · exact h.pending.imp fun j b hjb =>
        ⟨hjb.shot, hjb.best_iff, Nat.lt_succ_of_lt hjb.numbered, hjb.light⟩

theorem ended (h : Follows live st) (outcome : Search.Outcome) :
    Alike (.error (live.finish outcome)) (.error (st.finish outcome)) := by
  rw [State.finish, Search.State.finish, h.told]
  exact .ended _

/-- **A step overwrites a member that is neither pending nor the best.** It comes to what it comes to on the
snapshot that the member is. -/
theorem step (h : Follows live st) (hi : live.memory.family[i]? = some s)
    (hfree : i ∉ live.best :: live.pending) :
    Alike (live.step plan i e) (Search.State.spread plan s [e] st) := by
  obtain ⟨hapart, hfamily, hmissing⟩ := h.apart.apply i e
  have hkeeps : ∀ j ∈ live.best :: live.pending,
      (live.memory.apply i e).1.family[j]? = live.memory.family[j]? := by
    intro j hj
    refine h.apart.getElem?_apply e ?_
    rintro rfl
    exact hfree hj
  simp only [Family.apply, hi] at hfamily hmissing
  rw [State.step, Search.State.spread]
  generalize live.memory.apply i e = result at hapart hfamily hmissing hkeeps ⊢
  obtain ⟨m, missing⟩ := result
  cases happly : s.apply e with
  | error fault =>
    rw [happly] at hmissing
    obtain rfl : missing = some fault.channel := hmissing
    exact h.ended _
  | ok t =>
    rw [happly] at hfamily hmissing
    obtain rfl : missing = none := hmissing
    have hshot : m.family[i]? = some t := by
      rw [show m.family = live.memory.family.set i t from hfamily,
        List.getElem?_set_self (List.getElem?_eq_some_iff.1 hi).1]
    simp only [Memory.shot_of_eq_some hshot]
    split
    · exact h.ended _
    · exact .follows ((h.of_memory hapart hkeeps).add hshot hfree)

theorem clone (h : Follows live st) (i : Nat) :
    Follows { live with memory := live.memory.clone i } st :=
  h.of_memory (h.apart.clone i).1 fun _ hj => h.apart.getElem?_clone i (h.lt_of_mem hj)

/-- A copy is a member of its own. -/
theorem stepCopy (h : Follows live st) (hi : live.memory.family[i]? = some s) :
    Alike (live.stepCopy plan i e) (Search.State.spread plan s [e] st) := by
  have hcopy : (live.memory.clone i).family[live.memory.places.size]? = some s := by
    rw [(h.apart.clone i).2, Family.clone, hi, Memory.size_places,
      List.getElem?_append_right (Nat.le_refl _), Nat.sub_self]
    rfl
  refine (h.clone i).step hcopy fun hmem => ?_
  have hlt := h.lt_of_mem hmem
  rw [Memory.size_places] at hlt
  exact Nat.lt_irrefl _ hlt

theorem spread_cons (plan : Plan) (s : Snapshot) (e : Entry) (es : List Entry) (st : Search.State) :
    Search.State.spread plan s (e :: es) st =
      (Search.State.spread plan s [e] st).bind (Search.State.spread plan s es) := by
  rw [Search.State.spread, Search.State.spread]
  cases s.apply e with
  | error fault => rfl
  | ok t =>
    simp only
    split <;> rfl

/-- A member that is copied stays what it is. -/
theorem shot_of_stepCopy (h : Follows live st) (hi : live.memory.family[i]? = some s)
    (hstep : live.stepCopy plan i e = .ok live') : live'.memory.family[i]? = some s := by
  have hlt := (List.getElem?_eq_some_iff.1 hi).1
  have hmemory : live'.memory = ((live.memory.clone i).apply live.memory.places.size e).1 := by
    unfold State.stepCopy State.step at hstep
    split at hstep
    · cases hstep
    · next memory heq =>
      split at hstep
      · cases hstep
      · obtain rfl := Except.ok.inj hstep
        rw [heq]
        unfold State.consider
        split <;> rfl
  rw [hmemory, (h.apart.clone i).1.getElem?_apply, h.apart.getElem?_clone i hlt, hi]
  rw [Memory.size_places]
  exact Nat.ne_of_gt hlt

theorem fork (h : Follows live st) (hi : live.memory.family[i]? = some s) :
    Alike (live.fork plan i es) (Search.State.spread plan s es st) := by
  induction es generalizing live st with
  | nil => exact .follows h
  | cons e es ih =>
    have hfirst : Alike (live.stepCopy plan i e) (Search.State.spread plan s [e] st) := h.stepCopy hi
    rw [State.fork, spread_cons]
    generalize hcopy : live.stepCopy plan i e = result at hfirst ⊢
    generalize Search.State.spread plan s [e] st = result' at hfirst ⊢
    cases hfirst with
    | ended ending => exact .ended ending
    | follows hnext => exact ih hnext (h.shot_of_stepCopy hi hcopy)

/-- A member that is the best is marked as such. -/
theorem halt_best (h : Follows live st) (hi : live.memory.family[live.best]? = some b.shot)
    (hserial : b.serial = st.best.serial) (hfree : live.best ∉ live.pending) :
    Follows (live.halt live.best) (st.halt b) := by
  obtain ⟨hapart, hfamily⟩ := h.apart.halt hi
  have hshot : b.shot = st.best.shot := Option.some.inj (hi.symm.trans h.best)
  have hlive : live.halt live.best = { live with memory := live.memory.halt live.best } :=
    if_neg (Nat.lt_irrefl _)
  rw [hlive, Search.State.halt, if_pos hserial]
  refine { h with apart := hapart, pending := ?_, best := ?_, numbered := hserial ▸ h.numbered }
  · refine h.pending_mem.imp fun j x hjx => ⟨?_, hserial ▸ hjx.2.best_iff, hjx.2.numbered, ?_⟩
    · rw [hfamily, List.getElem?_set_ne]
      · exact hjx.2.shot
      · rintro rfl
        exact hfree hjx.1
    · have hlight : b.shot.workload ≤ x.shot.workload := hshot ▸ hjx.2.light
      exact hlight
  · rw [hfamily, List.getElem?_set_self (List.getElem?_eq_some_iff.1 hi).1]

/-- A stuck member is marked, and the best one stays the best. -/
theorem halt (h : Follows live st) (hib : Is live st i b) (hfree : i ∉ live.pending) :
    Follows (live.halt i) (st.halt b) := by
  by_cases hbest : i = live.best
  · subst hbest
    exact h.halt_best hib.shot (hib.best_iff.1 rfl) hfree
  · obtain ⟨hapart, hfamily⟩ := h.apart.halt hib.shot
    have hserial : b.serial ≠ st.best.serial := fun heq => hbest (hib.best_iff.2 heq)
    have hst : better ⟨b.serial, { b.shot with halted := true }⟩ st.best = st.best :=
      if_neg (Nat.not_lt.2 hib.light)
    have hkeeps : ∀ j ∈ live.best :: live.pending,
        (live.memory.halt i).family[j]? = live.memory.family[j]? := by
      intro j hj
      rw [hfamily, List.getElem?_set_ne]
      rintro rfl
      exact (List.mem_cons.1 hj).elim hbest hfree
    have hnext := h.of_memory hapart hkeeps
    have hlive : live.halt i = { live with memory := live.memory.halt i } := by
      have hstuck : (live.memory.halt i).family[i]? = some { b.shot with halted := true } := by
        rw [hfamily, List.getElem?_set_self (List.getElem?_eq_some_iff.1 hib.shot).1]
      refine if_neg ?_
      rw [Memory.shot_of_eq_some hstuck, hnext.shot_best]
      exact Nat.not_lt.2 hib.light
    rw [hlive, Search.State.halt, if_neg hserial, hst]
    exact hnext

theorem giveUp (h : Follows live st) (plan : Plan) (verdict : Verdict) :
    live.giveUp plan verdict = st.giveUp plan verdict := by
  rw [State.giveUp, Search.State.giveUp, h.shot_best]
  simp only [State.finish, Search.State.finish, State.tell, Search.State.tell, h.told]

theorem tell (h : Follows live st) (plan : Plan) (line : Unit → String) :
    Follows (live.tell plan line) (st.tell plan line) :=
  { h with
    pending := h.pending.imp fun _ _ hib => hib.same rfl rfl rfl rfl
    told := congrArg (plan.note line) h.told }

theorem count (h : Follows live st) :
    Follows { live with rounds := live.rounds + 1 } { st with rounds := st.rounds + 1 } :=
  { h with
    pending := h.pending.imp fun _ _ hib => hib.same rfl rfl rfl rfl
    rounds := congrArg (· + 1) h.rounds }

/-- **A member is expanded as the branch that it is.** -/
theorem expand (h : Follows live st) (hib : Is live st i b) (hfree : i ∉ live.pending) (plan : Plan) :
    Alike (live.expand plan i) (Search.State.expand plan b st) := by
  simp only [State.expand, Search.State.expand, Memory.shot_of_eq_some hib.shot]
  generalize plan.table.possible _ _ _ = found
  have hnext := h.count.tell plan fun _ => Search.atText b.shot found
  rcases found with _ | ⟨e, _ | ⟨e', es⟩⟩
  · exact .follows (hnext.halt (hib.same rfl rfl rfl rfl) hfree)
  · change Alike (if i = live.best then _ else _) (Search.State.spread plan b.shot [e] _)
    split
    · exact hnext.stepCopy hib.shot
    · next hbest => exact hnext.step hib.shot (List.not_mem_cons_of_ne_of_not_mem hbest hfree)
  · exact hnext.fork hib.shot

/-- The member that is next goes off the work stack. -/
theorem pop {is : List Nat} {rest : List Branch} (h : Follows live st) (hlive : live.pending = i :: is)
    (hst : st.pending = b :: rest) :
    Is live st i b ∧ i ∉ is ∧ Follows { live with pending := is } { st with pending := rest } := by
  have hnodup := h.nodup
  have hpending := h.pending
  rw [hlive] at hnodup
  rw [hlive, hst] at hpending
  cases hpending with
  | cons hib hrest =>
    have hkept : List.Forall₂ (Is { live with pending := is } { st with pending := rest }) is rest :=
      hrest.imp fun _ _ hjx => hjx.same rfl rfl rfl rfl
    exact ⟨hib, (List.nodup_cons.1 hnodup).1,
      { h with nodup := (List.nodup_cons.1 hnodup).2, pending := hkept }⟩

theorem explore (h : Follows live st) (footprint : Footprint) :
    Follows { live with explored := live.explored.insert footprint }
      { st with explored := st.explored.insert footprint } :=
  { h with
    pending := h.pending.imp fun _ _ hib => hib.same rfl rfl rfl rfl
    explored := congrArg (·.insert footprint) h.explored }

/-- **Both searches go through the same rounds.** -/
theorem advance (h : Follows live st) (plan : Plan) : Alike (live.advance plan) (st.advance plan) := by
  have hpending := h.pending
  rw [State.advance, Search.State.advance]
  cases hlive : live.pending with
  | nil =>
    rw [hlive] at hpending
    rw [List.forall₂_nil_left_iff.1 hpending, h.giveUp plan]
    exact .ended _
  | cons i is =>
    rw [hlive] at hpending
    obtain ⟨b, rest, -, -, hst⟩ := List.forall₂_cons_left_iff.1 hpending
    obtain ⟨hib, hfree, hrest⟩ := h.pop hlive hst
    have hlength : (i :: is).length = (b :: rest).length := hst ▸ hpending.length_eq
    rw [hst]
    simp only [h.rounds, h.explored] at hrest
    simp only [Search.State.isSpent, h.rounds, hlength, h.explored, Memory.shot_of_eq_some hib.shot]
    split
    · rw [(h.tell plan _).giveUp plan]
      exact .ended _
    · split
      · split
        · exact .follows hrest
        · exact (hrest.explore _).expand (hib.same rfl rfl rfl rfl) hfree plan
      · exact hrest.expand (hib.same rfl rfl rfl rfl) hfree plan

/-- Both searches end alike. -/
theorem run (h : Follows live st) (plan : Plan) (fuel : Nat) : live.run plan fuel = st.run plan fuel := by
  induction fuel generalizing live st with
  | zero => rfl
  | succ fuel ih =>
    have hround := h.advance plan
    rw [State.run, Search.State.run]
    generalize live.advance plan = result at hround ⊢
    generalize st.advance plan = result' at hround ⊢
    cases hround with
    | ended ending => rfl
    | follows hnext => exact ih hnext

end Follows

/-- **A search in place tells and finds what a search on snapshots does.** -/
theorem start_eq (plan : Plan) (fuel : Nat) (s : Snapshot) :
    start plan fuel s = Search.start plan fuel s := by
  rw [start, Search.start, (Follows.seed s).run plan fuel]

/-! ## What is made -/

/-- What a round has put on the work stack, the oldest first, as it is right behind the round. -/
def State.arrived (live live' : State) : List Snapshot :=
  ((live'.pending.map live'.memory.shot).take (live'.pending.length + 1 - live.pending.length)).reverse

/-- What at most `fuel` rounds put on the work stack. -/
def State.generated (plan : Plan) : (fuel : Nat) → State → List Snapshot
  | 0, _ => []
  | fuel + 1, live =>
    match live.advance plan with
    | .ok live' => live.arrived live' ++ generated plan fuel live'
    | .error _ => []

/-- The snapshots that a search in place makes if it accepts none of them: the first one and then what the
rounds put on the work stack, each as it was when it was put there. -/
def generated (plan : Plan) (fuel : Nat) (s : Snapshot) : List Snapshot :=
  s :: (State.seed s).generated plan fuel

namespace Follows

variable {plan : Plan} {live live' : State} {st st' : Search.State}

theorem map_shot (h : Follows live st) :
    live.pending.map live.memory.shot = st.pending.map (·.shot) := by
  have hshots : List.Forall₂ (fun i b => live.memory.shot i = b.shot) live.pending st.pending :=
    h.pending.imp fun _ _ hib => Memory.shot_of_eq_some hib.shot
  rw [← List.forall₂_eq_eq_eq, List.forall₂_map_left_iff, List.forall₂_map_right_iff]
  exact hshots

/-- What a round puts on the work stack are the successors of what it expands. -/
theorem arrived_eq (h : Follows live st) (h' : Follows live' st')
    (hunmarked : ∀ b ∈ st.pending, b.shot.halted = false) (hadvance : st.advance plan = .ok st') :
    live.arrived live' = (st.next? plan).toList.flatMap (·.shot.successors plan.table) := by
  have hround := Search.State.round_advance plan hunmarked
  rw [State.arrived, h'.map_shot, h'.pending.length_eq, h.pending.length_eq]
  rw [hadvance] at hround
  cases hround with
  | drops hpending hspent hprune hknown =>
    rw [Search.next?_of_known hpending hprune hknown, hpending, List.length_cons, Nat.sub_self]
    rfl
  | expands hpicks hpasses hexpands =>
    have hlength := congrArg List.length hexpands.map_shot
    simp only [List.length_map, List.length_append, List.length_reverse] at hlength
    rw [hpicks.next?, hexpands.map_shot, hpicks.pending, hlength, List.length_cons,
      Nat.add_assoc, Nat.add_sub_cancel]
    simp

/-- No branch that is pending has been marked as stuck. -/
theorem unmarked_of_advance (hunmarked : ∀ b ∈ st.pending, b.shot.halted = false)
    (hadvance : st.advance plan = .ok st') : ∀ b ∈ st'.pending, b.shot.halted = false := by
  have hround := Search.State.round_advance plan hunmarked
  rw [hadvance] at hround
  cases hround with
  | drops hpending hspent hprune hknown =>
    exact fun b hb => hunmarked b (hpending ▸ List.mem_cons_of_mem _ hb)
  | expands hpicks hpasses hexpands =>
    exact hexpands.forall_pending (P := fun r => r.halted = false) hpicks hunmarked
      fun r hr hb => (Snapshot.halted_of_mem_successors hr).trans hb

/-- The last round of a search that accepts nothing expands nothing. -/
theorem next?_of_settled (hunmarked : ∀ b ∈ st.pending, b.shot.halted = false) {v : Verdict}
    {r : Snapshot} {told : List String} (hadvance : st.advance plan = .error ⟨.settled v r, told⟩)
    (hv : v ≠ .accepted) : st.next? plan = none := by
  have hround := Search.State.round_advance plan hunmarked
  rw [hadvance] at hround
  cases hround with
  | ranDry told hpending => exact Search.next?_of_ranDry hpending
  | cutShort told hpending hspent => exact Search.next?_of_spent hspent
  | finds => exact absurd rfl hv

/-- A search that accepts nothing makes the successors of all that it expands. -/
theorem generated_eq (h : Follows live st) (hunmarked : ∀ b ∈ st.pending, b.shot.halted = false)
    {fuel : Nat} {v : Verdict} {r : Snapshot} {told : List String}
    (hrun : st.run plan fuel = some ⟨.settled v r, told⟩) (hv : v ≠ .accepted) :
    live.generated plan fuel =
      (st.expansions plan fuel).flatMap (·.shot.successors plan.table) := by
  induction fuel generalizing live st with
  | zero => rfl
  | succ fuel ih =>
    have halike := h.advance plan
    rw [Search.State.run] at hrun
    rw [State.generated, Search.State.expansions, List.flatMap_append]
    cases hadvance : st.advance plan with
    | error ending =>
      rw [hadvance] at hrun halike
      obtain rfl := Option.some.inj hrun
      rw [next?_of_settled hunmarked hadvance hv]
      generalize live.advance plan = result at halike ⊢
      cases halike
      rfl
    | ok st' =>
      rw [hadvance] at hrun halike
      generalize live.advance plan = result at halike ⊢
      cases halike with
      | @follows live' _ hnext =>
        have hrest := ih hnext (unmarked_of_advance hunmarked hadvance) hrun
        simp only [h.arrived_eq hnext hunmarked hadvance, hrest]

end Follows

/-- **A search in place that accepts nothing makes what a search on snapshots makes.** -/
theorem generated_eq {plan : Plan} {fuel : Nat} {s r : Snapshot} {v : Verdict} {told : List String}
    (hs : s.halted = false) (h : start plan fuel s = some ⟨.settled v r, told⟩) (hv : v ≠ .accepted) :
    generated plan fuel s = Search.generated plan fuel s := by
  rw [start_eq, Search.start] at h
  rw [generated, Search.generated, Search.expansions, Search.madeBy]
  split at h
  · cases h
    exact absurd rfl hv
  · next haccepts =>
    rw [if_neg haccepts, (Follows.seed s).generated_eq (by simpa [Search.State.seed] using hs) h hv]

end InPlace

end ArrowMachine
