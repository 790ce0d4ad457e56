import ArrowMachine.Proofs.Table.Compiling

/-!
Statements in another order.

The order of the statements decides in which order states, labels and rows stand, and which conflict is
reported first. It decides neither whether the statements compile nor which states, labels and rows there
are (`compiled_perm`).
-/
namespace ArrowMachine

theorem perm_eraseDups {l l' : List String} (h : ∀ a, a ∈ l ↔ a ∈ l') :
    l.eraseDups.Perm l'.eraseDups :=
  (List.perm_ext_iff_of_nodup (nodup_eraseDups l) (nodup_eraseDups l')).2 fun a => by
    rw [List.mem_eraseDups, List.mem_eraseDups, h a]

/-- A set of names is told by its members. -/
theorem nameSet_congr {l l' : List String} (h : ∀ a, a ∈ l ↔ a ∈ l') : nameSet l = nameSet l' := by
  have hsorted : ∀ names : List String, (nameSet names).Pairwise (· ≤ ·) := by
    intro names
    have hpairwise := @List.pairwise_mergeSort String (fun a b => decide (a ≤ b))
      (fun a b c hab hbc => by simpa using le_trans (by simpa using hab) (by simpa using hbc))
      (fun a b => by simpa using le_total a b) names.eraseDups
    exact hpairwise.imp fun hab => by simpa using hab
  refine List.Perm.eq_of_pairwise (fun a b _ _ => le_antisymm) (hsorted l) (hsorted l') ?_
  exact (List.mergeSort_perm _ _).trans ((perm_eraseDups h).trans (List.mergeSort_perm _ _).symm)

/-- Two tables that differ only in the order of states, labels and rows. -/
structure Compiled.Reorders (t u : Compiled) : Prop where
  initial : t.initial = u.initial
  accepting : t.accepting = u.accepting
  stackCount : t.stackCount = u.stackCount
  states : t.states.Perm u.states
  labels : t.labels.Perm u.labels
  rows : ∀ state, (t.entriesFor state).Perm (u.entriesFor state)

namespace Program

variable {p q : Program} {cap : Capacity} {settings : Settings} {initial : String}

theorem agrees_of_perm (h : p.rules.Perm q.rules) : p.Agrees q where
  edges := h.flatMap_right _
  states := fun name => by
    unfold states
    rw [List.mem_eraseDups, List.mem_eraseDups, (h.flatMap_right _).mem_iff]
  initial := fun _ => ((h.flatMap_right _).map _).mem_iff

theorem Fit.perm (hfit : p.Fit cap settings initial) (h : p.rules.Perm q.rules) :
    q.Fit cap settings initial :=
  hfit.of_agrees (agrees_of_perm h)
    ((h.pairwise_iff fun hapart => hapart.symm Edge.Clashes.symm).1 hfit.edges)
    ((h.pairwise_iff fun hapart => hapart.symm Contend.symm).1 hfit.wildcards)

/-- Reordered statements have reordered tables. -/
theorem Fit.reorders {ss ss' : List Statement} (hfit : p.Fit cap settings initial)
    (h : p.rules.Perm q.rules) (hp : ss.mapM Statement.expand = .ok p.rules)
    (hq : ss'.mapM Statement.expand = .ok q.rules) :
    (p.finished settings initial).Reorders (q.finished settings initial) where
  initial := rfl
  accepting := nameSet_congr fun _ => (h.flatMap_right _).mem_iff
  stackCount := (agrees_of_perm h).channelCount _
  states := perm_eraseDups fun _ => (h.flatMap_right _).mem_iff
  labels := perm_eraseDups fun _ => (h.flatMap_right _).mem_iff
  rows := by
    intro state
    have hagrees := agrees_of_perm h
    by_cases hstate : state ∈ p.states
    · rw [finished, finished, entriesFor_table_of_mem hfit.answers hstate,
        entriesFor_table_of_mem (hfit.perm h).answers ((hagrees.states state).1 hstate),
        hagrees.channelCount]
      exact (hagrees.rows state).map _
    · rw [finished, finished, entriesFor_table_of_not_mem hp hstate,
        entriesFor_table_of_not_mem hq fun hmem => hstate ((hagrees.states state).2 hmem)]

end Program

/-- What compiles in one order compiles in another. -/
theorem exists_compiled_of_perm {settings : Settings} {ss ss' : List Statement} (h : ss.Perm ss')
    {t : Compiled} (ht : (compileStatements cap settings ss).result = .ok t) :
    ∃ u, (compileStatements cap settings ss').result = .ok u ∧ t.Reorders u := by
  obtain ⟨rules, initial, hrules, hfit, rfl⟩ := compiled_iff.1 ht
  obtain ⟨rules', hforall, hperm⟩ := List.perm_comp_forall₂ h.symm (forall₂_of_mapM hrules)
  have hrules' := mapM_of_forall₂ hforall
  have hperm' : (⟨rules⟩ : Program).rules.Perm (⟨rules'⟩ : Program).rules := hperm.symm
  exact ⟨_, compiled_iff.2 ⟨rules', initial, hrules', hfit.perm hperm', rfl⟩,
    hfit.reorders hperm' hrules hrules'⟩

/-- **Statement order does not change the machine.** Statements compile in one order exactly if they do
in another. Both tables then have the same initial state, the same accepting states and as many stacks,
the same states and labels, and for every state the same rows, each as often. -/
theorem compiled_perm (settings : Settings) {ss ss' : List Statement} (h : ss.Perm ss') :
    ((∃ t, (compileStatements cap settings ss).result = .ok t) ↔
      ∃ u, (compileStatements cap settings ss').result = .ok u) ∧
    ∀ t u, (compileStatements cap settings ss).result = .ok t →
      (compileStatements cap settings ss').result = .ok u → t.Reorders u := by
  refine ⟨⟨?_, ?_⟩, ?_⟩
  · rintro ⟨t, ht⟩
    obtain ⟨u, hu, _⟩ := exists_compiled_of_perm h ht
    exact ⟨u, hu⟩
  · rintro ⟨u, hu⟩
    obtain ⟨t, ht, _⟩ := exists_compiled_of_perm h.symm hu
    exact ⟨t, ht⟩
  · intro t u ht hu
    obtain ⟨v, hv, hreorders⟩ := exists_compiled_of_perm h ht
    rw [hu] at hv
    rwa [Except.ok.inj hv]

/-- The statements of `reaching` from the last to the first: the wildcard now stands behind the states
that it reaches. -/
theorem reaching_reversed :
    ∃ u, (compileStatements .ample {} reaching.reverse).result = .ok u ∧ reached.Reorders u := by
  have h : (compileStatements .ample {} reaching).result = .ok reached := by cbv
  obtain ⟨hiff, hreorders⟩ := compiled_perm {} (List.reverse_perm reaching).symm
  obtain ⟨u, hu⟩ := hiff.1 ⟨reached, h⟩
  exact ⟨u, hu, hreorders reached u h hu⟩

end ArrowMachine
