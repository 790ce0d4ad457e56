import ArrowMachine.Proofs.Run.Trace

/-!
Exploring a work stack in full.

`Explores t stack xs o` says that a search without pruning and without a budget, begun with the snapshots
`stack`, expands `xs` in turn and either empties the stack (`o = none`) or finds `o` to accept. Stacks are
worked off one after the other (`Explores.split`), what is expanded depends on configurations alone
(`Explores.configs_eq`), and so a configuration does not come back below itself (`Explores.acyclic`). A
search without pruning that was not cut short is such an exploration (`explores_of_run`).
-/
namespace ArrowMachine

open Search (Plan Branch State Verdict Rounds)

namespace Snapshot

theorem map_config_after (s : Snapshot) (es : List Entry) :
    (s.after es).map (·.config) =
      es.filterMap fun e => (e.action.apply true s.config).toOption := by
  induction es with
  | nil => rfl
  | cons e es ih =>
    cases h : e.action.apply true s.config with
    | ok d =>
      rw [after_cons_of_ok (apply_of_action h), List.map_cons, ih]
      simp [h, Except.toOption]
    | error fault =>
      have happly : (s.apply e).toOption = none := by
        cases happly : s.apply e with
        | ok r =>
          rw [(config_of_apply happly).1] at h
          cases h
        | error _ => rfl
      simp only [after, List.filterMap_cons, happly, h]
      exact ih

/-- Successors have the same configurations if the snapshots have. -/
theorem map_config_successors {t : Compiled} {s r : Snapshot} (h : s.config = r.config) :
    (s.successors t).map (·.config) = (r.successors t).map (·.config) := by
  rw [successors, successors, map_config_after, map_config_after, h]

end Snapshot

namespace Search

/-- What a search without pruning expands from a work stack, and what it finds. -/
inductive Explores (t : Compiled) : List Snapshot → List Snapshot → Option Snapshot → Prop
  | dry : Explores t [] [] none
  | found {s r : Snapshot} {stack : List Snapshot} {pre post : List Entry} {e : Entry}
      (hchoices : t.choices s.config = pre ++ e :: post)
      (hpasses : ∀ x ∈ pre, t.Passes s.config x) (happly : s.apply e = .ok r)
      (hfinal : t.isFinal r.config = true) : Explores t (s :: stack) [s] (some r)
  | pass {s : Snapshot} {stack xs : List Snapshot} {o : Option Snapshot}
      (hpasses : ∀ e ∈ t.choices s.config, t.Passes s.config e)
      (hrest : Explores t ((s.successors t).reverse ++ stack) xs o) :
      Explores t (s :: stack) (s :: xs) o

namespace Explores

variable {t : Compiled} {s x y : Snapshot} {stack as bs xs ys : List Snapshot}
  {o o' : Option Snapshot}

/-- The upper part of a stack is worked off before the lower part. -/
theorem split (as : List Snapshot) (h : Explores t (as ++ bs) xs o) :
    (o ≠ none ∧ Explores t as xs o) ∨
      ∃ ys zs, xs = ys ++ zs ∧ Explores t as ys none ∧ Explores t bs zs o := by
  generalize hstack : as ++ bs = stack at h
  induction h generalizing as with
  | dry =>
    obtain ⟨rfl, rfl⟩ := List.append_eq_nil_iff.1 hstack
    exact Or.inr ⟨[], [], rfl, .dry, .dry⟩
  | @found s r stack pre post e hchoices hpasses happly hfinal =>
    rcases as with _ | ⟨a, as⟩
    · subst hstack
      exact Or.inr ⟨[], [s], rfl, .dry, .found hchoices hpasses happly hfinal⟩
    · obtain ⟨rfl, -⟩ : a = s ∧ as ++ bs = stack := by simpa using hstack
      exact Or.inl ⟨by simp, .found hchoices hpasses happly hfinal⟩
  | @pass s stack xs o hpasses hrest ih =>
    rcases as with _ | ⟨a, as⟩
    · subst hstack
      exact Or.inr ⟨[], s :: xs, rfl, .dry, .pass hpasses hrest⟩
    · obtain ⟨rfl, rfl⟩ : a = s ∧ as ++ bs = stack := by simpa using hstack
      rcases ih _ (List.append_assoc ..) with ⟨ho, hleft⟩ | ⟨ys, zs, rfl, hys, hzs⟩
      · exact Or.inl ⟨ho, .pass hpasses hleft⟩
      · exact Or.inr ⟨a :: ys, zs, rfl, .pass hpasses hys, hzs⟩

theorem split_none (as : List Snapshot) (h : Explores t (as ++ bs) xs none) :
    ∃ ys zs, xs = ys ++ zs ∧ Explores t as ys none ∧ Explores t bs zs none := by
  rcases h.split as with ⟨ho, _⟩ | hsplit
  · exact absurd rfl ho
  · exact hsplit

/-- What is expanded, and whether something is found, depends on configurations alone. -/
theorem configs_eq (h : Explores t as xs o) (h' : Explores t bs ys o')
    (hconfigs : as.map (·.config) = bs.map (·.config)) :
    xs.map (·.config) = ys.map (·.config) ∧ o.isSome = o'.isSome := by
  induction h generalizing bs ys with
  | dry =>
    obtain rfl : bs = [] := by simpa using hconfigs.symm
    cases h'
    exact ⟨rfl, rfl⟩
  | @found s r stack pre post e hchoices hpasses happly hfinal =>
    cases h' with
    | dry => simp at hconfigs
    | found => exact ⟨by simpa using (List.cons.inj hconfigs).1, rfl⟩
    | @pass s' stack' xs' o' hpasses' hrest' =>
      have hconfig : s.config = s'.config := (List.cons.inj hconfigs).1
      have he : e ∈ t.choices s'.config := by simp [← hconfig, hchoices]
      exact absurd (hconfig ▸ hpasses' e he) (Compiled.not_passes_of_final happly hfinal)
  | @pass s stack xs o hpasses hrest ih =>
    cases h' with
    | dry => simp at hconfigs
    | @found s' r' stack' pre' post' e' hchoices' hpasses' happly' hfinal' =>
      have hconfig : s.config = s'.config := (List.cons.inj hconfigs).1
      have he : e' ∈ t.choices s.config := by simp [hconfig, hchoices']
      exact absurd (hconfig ▸ hpasses e' he) (Compiled.not_passes_of_final happly' hfinal')
    | @pass s' stack' xs' o' hpasses' hrest' =>
      obtain ⟨hconfig, hstack⟩ := List.cons.inj hconfigs
      have hsuccessors := Snapshot.map_config_successors (t := t) hconfig
      obtain ⟨hxs, ho⟩ := ih hrest' (by
        rw [List.map_append, List.map_append, List.map_reverse, List.map_reverse, hsuccessors,
          hstack])
      exact ⟨by rw [List.map_cons, List.map_cons, hxs, show s.config = s'.config from hconfig], ho⟩

/-! ## What a stack that is emptied expands -/

theorem mem_of_mem_stack (h : Explores t stack xs none) (hy : y ∈ stack) : y ∈ xs := by
  generalize ho : none = o at h
  induction h with
  | dry => cases hy
  | found => cases ho
  | pass hpasses hrest ih =>
    rcases List.mem_cons.1 hy with rfl | hy
    · exact List.mem_cons_self
    · exact List.mem_cons_of_mem _ (ih (List.mem_append_right _ hy) ho)

/-- Whatever is made is expanded. -/
theorem mem_of_mem_successors (h : Explores t stack xs none) (hx : x ∈ xs)
    (hy : y ∈ x.successors t) : y ∈ xs := by
  generalize ho : none = o at h
  induction h with
  | dry => cases hx
  | found => cases ho
  | pass hpasses hrest ih =>
    subst ho
    rcases List.mem_cons.1 hx with rfl | hx
    · exact List.mem_cons_of_mem _ (hrest.mem_of_mem_stack (by simp [hy]))
    · exact List.mem_cons_of_mem _ (ih hx rfl)

/-- Whatever is expanded was on the stack or has been made. -/
theorem mem_stack_or_made (h : Explores t stack xs o) (hy : y ∈ xs) :
    y ∈ stack ∨ y ∈ xs.flatMap (·.successors t) := by
  induction h with
  | dry => cases hy
  | found =>
    rw [List.mem_singleton.1 hy]
    exact Or.inl List.mem_cons_self
  | pass hpasses hrest ih =>
    rcases List.mem_cons.1 hy with rfl | hy
    · exact Or.inl List.mem_cons_self
    · rw [List.flatMap_cons, List.mem_append]
      rcases ih hy with hy | hy
      · rcases List.mem_append.1 hy with hy | hy
        · exact Or.inr (Or.inl (List.mem_reverse.1 hy))
        · exact Or.inl (List.mem_cons_of_mem _ hy)
      · exact Or.inr (Or.inr hy)

theorem within {w : List String} (h : Explores t stack xs o) (hstack : ∀ r ∈ stack, r.Within w) :
    ∀ r ∈ xs, r.Within w := by
  induction h with
  | dry => simp
  | found => simpa using hstack _ List.mem_cons_self
  | pass hpasses hrest ih =>
    have hs := hstack _ List.mem_cons_self
    intro r hr
    rcases List.mem_cons.1 hr with rfl | hr
    · exact hs
    · refine ih ?_ r hr
      intro x hx
      rcases List.mem_append.1 hx with hx | hx
      · exact hs.of_mem_successors (List.mem_reverse.1 hx)
      · exact hstack x (List.mem_cons_of_mem _ hx)

/-- What is expanded below a snapshot is a part of what is expanded. -/
theorem of_mem (h : Explores t stack xs none) (hx : x ∈ xs) :
    ∃ ys, Explores t [x] ys none ∧ ys ⊆ xs ∧ ys.length ≤ xs.length := by
  generalize ho : none = o at h
  induction h with
  | dry => cases hx
  | found => cases ho
  | @pass s stack xs o hpasses hrest ih =>
    subst ho
    rcases List.mem_cons.1 hx with rfl | hx
    · obtain ⟨ys, zs, hsplit, hys, _⟩ := (Explores.pass hpasses hrest).split_none [x]
      refine ⟨ys, hys, ?_, ?_⟩
      · rw [hsplit]
        exact List.subset_append_left _ _
      · rw [hsplit, List.length_append]
        omega
    · obtain ⟨ys, hys, hsubset, hlength⟩ := ih hx rfl
      exact ⟨ys, hys, fun z hz => List.mem_cons_of_mem _ (hsubset hz),
        Nat.le_trans hlength (Nat.le_succ _)⟩

/-- No configuration comes back below itself when the stack is emptied. -/
theorem acyclic (h : Explores t [s] (s :: xs) none) (hx : x ∈ xs) : x.config ≠ s.config := by
  intro hconfig
  cases h with
  | pass hpasses hrest =>
    obtain ⟨ys, hys, _, hlength⟩ := hrest.of_mem hx
    have hconfigs := (hys.configs_eq (.pass hpasses hrest) (by simpa using hconfig)).1
    have := congrArg List.length hconfigs
    simp only [List.length_map, List.length_cons] at this
    omega

end Explores

/-! ## Searches without pruning -/

/-- The budget lets `n` more rounds of expansion begin after `rounds` of them. -/
def Plan.Affords (plan : Plan) (rounds n : Nat) : Prop :=
  n = 0 ∨ plan.budget = 0 ∨ (rounds + n : Int) ≤ plan.budget

theorem affords_succ {plan : Plan} {st : State} {n : Nat} (hspent : st.isSpent plan = false)
    (h : plan.Affords (st.rounds + 1) n) : plan.Affords st.rounds (n + 1) := by
  unfold Plan.Affords at h ⊢
  simp only [State.isSpent, Plan.isSpent, Bool.and_eq_false_imp, decide_eq_true_eq, decide_eq_false_iff_not]
    at hspent
  omega

theorem Plan.Affords.not_spent {plan : Plan} {st : State} {n : Nat} (h : plan.Affords st.rounds n)
    (hn : 0 < n) : st.isSpent plan = false := by
  unfold Plan.Affords at h
  simp only [State.isSpent, Plan.isSpent, Bool.and_eq_false_imp, decide_eq_true_eq, decide_eq_false_iff_not]
  omega

theorem Plan.Affords.mono {plan : Plan} {rounds rounds' n n' : Nat} (h : plan.Affords rounds n)
    (hn : n' ≤ n) (htotal : rounds' + n' ≤ rounds + n) : plan.Affords rounds' n' := by
  unfold Plan.Affords at h ⊢
  omega

/-- What a search without pruning has expanded when it ends without being cut short. -/
structure Explored (plan : Plan) (fuel : Nat) (st : State) (v : Verdict) (r : Snapshot)
    (xs : List Snapshot) (o : Option Snapshot) : Prop where
  explores : Explores plan.table (st.pending.map (·.shot)) xs o
  affords : plan.Affords st.rounds xs.length
  expanded : (st.expansions plan fuel).map (·.shot) = xs
  ending : v = .ranDry ∧ o = none ∧ xs.length < fuel ∨ v = .accepted ∧ o = some r ∧ xs.length ≤ fuel

theorem explores_of_run {plan : Plan} {fuel : Nat} {st : State} {v : Verdict} {r : Snapshot}
    {told : List String} (hprune : plan.prune = false)
    (hhalted : ∀ b ∈ st.pending, b.shot.halted = false)
    (h : st.run plan fuel = some ⟨.settled v r, told⟩) (hv : v ≠ .cutShort) :
    ∃ xs o, Explored plan fuel st v r xs o := by
  induction fuel generalizing st with
  | zero => cases h
  | succ fuel ih =>
    have hround := State.round_advance plan hhalted
    rw [State.run] at h
    generalize hresult : st.advance plan = result at h hround
    cases hround with
    | ranDry told' hpending =>
      cases h
      refine ⟨[], none, ?_, Or.inl rfl, ?_, Or.inl ⟨rfl, rfl, by simp⟩⟩
      · rw [hpending]
        exact .dry
      · simp [State.expansions, hresult, next?_of_ranDry hpending]
    | cutShort told' hpending hspent =>
      cases h
      exact absurd rfl hv
    | drops hpending hspent hprune' hknown =>
      rw [hprune] at hprune'
      cases hprune'
    | @expands b rest st' hpicks hpasses hexpands =>
      have hhalted' := hexpands.forall_pending (P := fun r => r.halted = false) hpicks hhalted
        fun r hr hb => (Snapshot.halted_of_mem_successors hr).trans hb
      obtain ⟨xs, o, hxs⟩ := ih hhalted' h
      refine ⟨b.shot :: xs, o, ?_, ?_, ?_, ?_⟩
      · rw [hpicks.pending]
        exact .pass hpasses (hexpands.map_shot ▸ hxs.explores)
      · exact affords_succ hpicks.unspent (hexpands.rounds ▸ hxs.affords)
      · simp [State.expansions, hresult, hpicks.next?, hxs.expanded]
      · simpa using hxs.ending
    | @finds b rest pre post e r' told' hpicks hchoices hpasses happly hfinal =>
      cases h
      refine ⟨[b.shot], some r, ?_, ?_, ?_, Or.inr ⟨rfl, rfl, by simp⟩⟩
      · rw [hpicks.pending]
        exact .found hchoices hpasses happly hfinal
      · exact affords_succ hpicks.unspent (Or.inl rfl)
      · simp [State.expansions, hresult, hpicks.next?]
    | strays channel told' hpicks hchoices hpasses happly =>
      cases h

end Search

end ArrowMachine
