import ArrowMachine.Proofs.Run.Adoption
import Mathlib

/-!
A search decides acceptance.

Whatever a search makes lies on a path from where it began (`Rounds.reached`). When it ran dry, all that
it made has been expanded, up to repetitions, and so every path stays within what was expanded and clear
of final configurations (`Logged.not_final_of_path`). Hence `consume` ends accepting exactly if some path
leads to a final configuration (`Machine.consume_accepts_iff_path`).
-/
namespace ArrowMachine

namespace Search

variable {plan : Plan} {s : Snapshot} {bs : List Branch} {st st' : State}

/-! ## Soundness -/

/-- All that was made lies on paths from the first snapshot. -/
def Reached (t : Compiled) (s : Snapshot) (ss : List Snapshot) : Prop :=
  ∀ r ∈ ss, ∃ es, t.Path s.config es r.config

theorem exists_path_of_mem_successors {t : Compiled} {r x : Snapshot}
    (h : ∃ es, t.Path s.config es r.config) (hx : x ∈ r.successors t) :
    ∃ es, t.Path s.config es x.config := by
  obtain ⟨es, hpath⟩ := h
  obtain ⟨e, he⟩ := Snapshot.fires_of_mem_successors hx
  exact ⟨es ++ [e], hpath.snoc he⟩

theorem Rounds.reached {n : Nat} (h : Rounds plan n (State.seed s) bs st)
    (hs : s.halted = false) : Reached plan.table s (madeBy plan.table s bs) :=
  h.forall_made hs ⟨[], .nil _⟩ fun _ hr _ => exists_path_of_mem_successors hr

theorem Settling.path {fuel : Nat} {v : Verdict} {r : Snapshot} (hs : s.halted = false)
    (h : Settling plan fuel s v r) : ∃ es, plan.table.Path s.config es r.config :=
  (h.keeps (P := fun r => ∃ es, plan.table.Path s.config es r.config) hs ⟨[], .nil _⟩
    fun _ hr _ => exists_path_of_mem_successors hr).elim id id

/-! ## Completeness -/

theorem Reached.within {t : Compiled} {ss : List Snapshot} (h : Reached t s ss)
    (hss : ∀ r ∈ ss, r.halted = false) : ∀ r ∈ ss, r.Within s.config.input := by
  intro r hr
  obtain ⟨es, hpath⟩ := h r hr
  exact ⟨hss r hr, hpath.input_suffix⟩

/-- When nothing is pending, what was made has been expanded, or a repetition of it has. -/
theorem Logged.exists_expanded (h : Logged plan s bs st) (hpending : st.pending = []) :
    ∀ r ∈ madeBy plan.table s bs, ∃ b ∈ bs, b.shot.footprint = r.footprint := by
  intro r hr
  obtain ⟨i, hi⟩ := List.mem_iff_getElem?.1 hr
  rcases h.placed i r hi with ⟨b, hb, _⟩ | ⟨b, hb, rfl⟩ | ⟨_, hrepeated⟩
  · rw [hpending] at hb
    cases hb
  · have hmade := h.expanded b hb
    rw [hi] at hmade
    exact ⟨b, hb, by rw [Option.some.inj hmade]⟩
  · exact hrepeated

/-- No path from what was expanded leads to a final configuration. -/
theorem Logged.not_final_of_path (h : Logged plan s bs st) (hpending : st.pending = [])
    (hreached : Reached plan.table s (madeBy plan.table s bs)) {c d : Configuration}
    {es : List Entry} (hpath : plan.table.Path c es d) (hc : ∃ b ∈ bs, b.shot.config = c)
    (hfinal : plan.table.isFinal c = false) : plan.table.isFinal d = false := by
  have hwithin := hreached.within h.unmarked
  induction hpath with
  | nil c => exact hfinal
  | @cons c d f e es he hes ih =>
    obtain ⟨b, hb, rfl⟩ := hc
    obtain ⟨x, hx, hnot⟩ := h.passes b hb e he.1
    obtain rfl : x = d := Except.ok.inj (hx.symm.trans he.2)
    -- The successor was made, so it has been expanded itself or been found expanded.
    have happly := Snapshot.apply_of_action hx
    have hmade : { b.shot with config := x }.record e.label ∈ madeBy plan.table s bs :=
      List.mem_cons_of_mem _ (List.mem_flatMap.2
        ⟨b, hb, Snapshot.mem_after_iff.2 ⟨e, he.1, happly⟩⟩)
    obtain ⟨y, hy, hfoot⟩ := h.exists_expanded hpending _ hmade
    have hywithin := hwithin _ (List.mem_of_getElem? (h.expanded y hy))
    refine ih ⟨y, hy, ?_⟩ hnot
    simpa using Snapshot.config_eq_of_footprint hywithin (hwithin _ hmade) hfoot

theorem Settling.final_iff {fuel : Nat} {v : Verdict} {r : Snapshot} (hs : s.halted = false)
    (h : Settling plan fuel s v r) (hv : v ≠ .cutShort) :
    plan.table.isFinal r.config = true ↔
      ∃ es c, plan.table.Path s.config es c ∧ plan.table.isFinal c = true := by
  constructor
  · intro hfinal
    obtain ⟨es, hpath⟩ := h.path hs
    exact ⟨es, r.config, hpath, hfinal⟩
  · rintro ⟨es, c, hpath, hfinal⟩
    cases h with
    | atOnce hfinal => exact hfinal
    | ranDry hn hrounds hpending hstart hexpansions =>
      have hlogged := hrounds.logged hs
      have hreached := hrounds.reached hs
      obtain ⟨b, hb, hfoot⟩ := hlogged.exists_expanded hpending s (by simp [madeBy])
      have hwithin := hreached.within hlogged.unmarked
      have hbwithin := hwithin _ (List.mem_of_getElem? (hlogged.expanded b hb))
      have hconfig := Snapshot.config_eq_of_footprint hbwithin ⟨hs, List.suffix_rfl⟩ hfoot
      rw [hlogged.not_final_of_path hpending hreached hpath ⟨b, hb, hconfig⟩ hstart] at hfinal
      cases hfinal
    | cutShort => exact absurd rfl hv
    | accepted hn hrounds hpicks hchoices hpasses happly hfinal => exact hfinal

end Search

/-! ## What `consume` decides -/

namespace Machine

theorem inAcceptState_takeOver (m : Machine) (s : Snapshot) :
    (m.takeOver s).inAcceptState = m.table.isFinal s.config := rfl

/-- **`consume` decides acceptance.** If it returns, its search has settled on a snapshot, and whatever
the search has settled on is taken over and lies at the end of a path from where the machine was, with
the whole input before it. Unless the search was cut short, the machine is then in an accepting state if
and only if some path leads to a configuration with no input left and an accepting state. If no listener
dispatches while being told, that is how `consume` leaves the machine. -/
theorem consume_accepts_iff_path (m : Machine) (fuel depth : Nat) (w : List String) :
    ((m.consume fuel depth w).error = none → ∃ v s, m.Settles fuel w v s) ∧
    ∀ v s, m.Settles fuel w v s →
      m.Adopts fuel depth w s ∧
      (∃ es, m.table.Path (m.fed w) es s.config) ∧
      (v ≠ .cutShort → ((m.takeOver s).inAcceptState = true ↔
        ∃ es c, m.table.Path (m.fed w) es c ∧ c.input = [] ∧ m.table.accepts c.state = true)) ∧
      (m.Quiet → (m.consume fuel depth w).error = none ∧
        (m.consume fuel depth w).machine.config = s.config ∧
        (m.consume fuel depth w).machine.inAcceptState = (m.takeOver s).inAcceptState) := by
  refine ⟨exists_settles, fun v s h => ⟨h.adopts depth, h.settling.path rfl, ?_, ?_⟩⟩
  · intro hv
    rw [inAcceptState_takeOver, show m.table = m.plan.table from rfl,
      h.settling.final_iff rfl hv]
    simp only [Compiled.isFinal_iff]
    rfl
  · intro hm
    obtain ⟨herror, htable, hconfig, _⟩ := consume_of_quiet depth hm h
    refine ⟨herror, hconfig, ?_⟩
    unfold inAcceptState
    rw [htable, hconfig]
    rfl

end Machine

/-- The table of `.q0 -[a]a> q0 -_> (q1) -[b,a]> q1;`: as many `b` as there were `a`, or fewer. -/
def anbn : Compiled where
  initial := "q0"
  transitions :=
    [("q0", [⟨"a", ⟨"a", [none]⟩, ⟨"q0", [.consume, .push 0 "a", .set "q0"]⟩, some ⟨1, 7⟩⟩,
      ⟨"_", ⟨"_", [none]⟩, ⟨"q1", [.set "q1"]⟩, some ⟨1, 16⟩⟩]),
    ("q1", [⟨"b", ⟨"b", [some "a"]⟩, ⟨"q1", [.consume, .pop 0, .set "q1"]⟩, some ⟨1, 26⟩⟩])]
  accepting := ["q1"]
  stackCount := 1
  states := ["q0", "q1"]
  labels := ["a", "_", "b"]

/-- A machine over `anbn` accepts `ab`, so some path uses it up. -/
theorem Machine.anbn_accepts : ∃ es c,
    anbn.Path ((Machine.new anbn {} none none).fed ["a", "b"]) es c ∧ c.input = [] ∧
      anbn.accepts c.state = true := by
  have hsettles : (Machine.new anbn {} none none).Settles 10 ["a", "b"] .accepted
      ⟨⟨"q1", [[]], []⟩, false, [], false⟩ := by
    refine ⟨[], ?_⟩
    cbv
  have h := (consume_accepts_iff_path (Machine.new anbn {} none none) 10 0 ["a", "b"]).2 _ _ hsettles
  exact (h.2.2.1 (by decide)).1 rfl

end ArrowMachine
