import ArrowMachine.Proofs.Run.Acceptance
import ArrowMachine.Proofs.Run.Erasure
import ArrowMachine.Proofs.Run.Firing

/-!
What `consume` tells its listeners is a run that ends where the machine ends.

The history of every snapshot that a search makes replays a path from the first one to it
(`Snapshot.Recorded`): trails are only ever extended by the step that was taken. In a compiled table the
labels of such a history, but for epsilon, and what is left of the input spell the input
(`Compiled.Replays.spells`). And since what a search records does not guide it, the machine ends the same
without listeners (`Machine.consume_replays_run`).
-/
namespace ArrowMachine

open Search (Verdict)

namespace Compiled

/-- Each step is of an entry that matches where it is applied and yields the state and the stacks of the
step; together they lead from one configuration to another. -/
inductive Replays (t : Compiled) : Configuration → List Step → Configuration → Prop
  | nil (c : Configuration) : Replays t c [] c
  | cons {c d f : Configuration} {e : Entry} {steps : List Step} :
      t.Fires c e d → Replays t d steps f →
      Replays t c (⟨d.state, e.label, d.channels⟩ :: steps) f

namespace Replays

variable {t : Compiled} {c d f : Configuration} {steps : List Step}

theorem snoc {e : Entry} (h : t.Replays c steps d) (he : t.Fires d e f) :
    t.Replays c (steps ++ [⟨f.state, e.label, f.channels⟩]) f := by
  induction h with
  | nil c => exact .cons he (.nil f)
  | cons hfirst _ ih => exact .cons hfirst (ih he)

theorem eq_of_nil (h : t.Replays c [] d) : d = c := by
  cases h
  rfl

/-- The last step has the state and the stacks of the end. -/
theorem getLast?_eq (h : t.Replays c steps d) {step : Step} (hlast : steps.getLast? = some step) :
    step.state = d.state ∧ step.channels = d.channels := by
  induction h with
  | nil c => cases hlast
  | @cons c d f e steps hfirst hrest ih =>
    cases hrest with
    | nil =>
      obtain rfl : _ = step := Option.some.inj hlast
      exact ⟨rfl, rfl⟩
    | cons hsecond hrest => exact ih (by simpa using hlast)

/-- In a lowered table the labels that are not epsilon and the input that is left spell the input. -/
theorem spells (ht : t.IsLowered) (h : t.Replays c steps d) :
    (steps.map (·.label)).filter (· ≠ epsilon) ++ d.input = c.input := by
  induction h with
  | nil c => rfl
  | @cons c d f e steps hfirst _ ih =>
    rw [(ht.fires hfirst).2, ← ih, List.map_cons]
    unfold taken
    by_cases hepsilon : e.label = epsilon
    · simp [hepsilon]
    · simp [hepsilon]

end Replays

end Compiled

namespace Snapshot

/-- The snapshot records, and its history replays a path from `c` to it. -/
def Recorded (t : Compiled) (c : Configuration) (s : Snapshot) : Prop :=
  s.recording = true ∧ t.Replays c s.history s.config

theorem Recorded.of_mem_successors {t : Compiled} {c : Configuration} {s r : Snapshot}
    (h : s.Recorded t c) (hr : r ∈ s.successors t) : r.Recorded t c := by
  obtain ⟨e, he, happly⟩ := mem_after_iff.1 hr
  obtain ⟨d, hd, rfl⟩ := apply_eq_ok_iff.1 happly
  have hreplays := h.2.snoc ⟨he, hd⟩
  unfold record
  simp only [h.1, if_true]
  refine ⟨rfl, ?_⟩
  rw [history, List.reverse_cons]
  exact hreplays

end Snapshot

theorem Search.Settling.recorded {plan : Search.Plan} {fuel : Nat} {s r : Snapshot} {v : Verdict}
    (hs : s.halted = false) (hrecorded : s.Recorded plan.table s.config)
    (h : Search.Settling plan fuel s v r) : r.Recorded plan.table s.config :=
  (h.keeps hs hrecorded fun _ hr _ => hr.of_mem_successors).elim id id

namespace Machine

variable {m : Machine} {fuel depth : Nat} {w : List String} {v : Verdict} {s : Snapshot}

/-- A machine without listeners. -/
def alone (m : Machine) : Machine := { m with subscribed := [] }

/-- Listeners change nothing about the search, but that there is a history to tell them. -/
theorem Settles.alone (h : m.Settles fuel w v s) : m.alone.Settles fuel w v s.bare := by
  obtain ⟨told, hstart⟩ := h
  refine ⟨told, ?_⟩
  have hbare := Search.start_bare m.plan fuel (m.seed w)
  rw [hstart] at hbare
  exact hbare

/-- A machine without listeners is left as it takes a snapshot over. -/
theorem consume_alone (depth : Nat) (h : m.Settles fuel w v s) :
    (m.alone.consume fuel depth w).error = none ∧
      (m.alone.consume fuel depth w).machine.config = s.config ∧
      (m.alone.consume fuel depth w).machine.halted = s.halted := by
  obtain ⟨told, hconsume⟩ := h.alone.adopts depth
  rw [hconsume]
  exact ⟨rfl, rfl, rfl⟩

/-- **What `consume` replays is a run that ends where the machine ends.** If it returns, its search has
settled on a snapshot, and however the search ended, the machine takes over that snapshot and tells its
listeners the history. Every step of this is of an entry that matches where it is applied and yields the
state and the stacks of the step; the last one has those of the machine, which stays where it was if there
is none; and the labels, but for epsilon, with what is left of the input spell the input. Without listeners
the machine ends in the same configuration, and halted or not as with them. Quiet listeners hear the
history, as long as they stay. -/
theorem consume_replays_run {cap : Capacity} (m : Machine) (fuel depth : Nat) (w : List String)
    {settings : Settings} {ss : List Statement}
    (hcompiled : (compileStatements cap settings ss).result = .ok m.table)
    (hsubscribed : m.subscribed ≠ []) :
    ((m.consume fuel depth w).error = none → ∃ v s, m.Settles fuel w v s) ∧
    ∀ v s, m.Settles fuel w v s →
      m.Adopts fuel depth w s ∧
      m.table.Replays (m.fed w) s.history s.config ∧
      (∀ step, s.history.getLast? = some step →
        step.state = s.config.state ∧ step.channels = s.config.channels) ∧
      (s.history = [] → s.config = m.fed w) ∧
      (s.history.map (·.label)).filter (· ≠ epsilon) ++ s.config.input = w ∧
      ((m.alone.consume fuel depth w).error = none ∧
        (m.alone.consume fuel depth w).machine.config = s.config ∧
        (m.alone.consume fuel depth w).machine.halted = s.halted) ∧
      (m.Quiet → (m.consume fuel depth w).error = none ∧
        (m.consume fuel depth w).machine.config = s.config ∧
        (m.consume fuel depth w).machine.halted = s.halted ∧
        (m.consume fuel depth w).machine.heard.toList =
          m.heard.toList ++ m.deliveries s.history) := by
  refine ⟨exists_settles, fun v s h => ?_⟩
  have hrecorded : (m.seed w).Recorded m.table (m.fed w) :=
    ⟨by simpa [seed] using hsubscribed, .nil _⟩
  have hreplays := (h.settling.recorded rfl hrecorded).2
  refine ⟨h.adopts depth, hreplays, fun step hlast => hreplays.getLast?_eq hlast, fun hnone => ?_,
    hreplays.spells (isLowered_of_compiled hcompiled), consume_alone depth h, fun hm => ?_⟩
  · rw [hnone] at hreplays
    exact hreplays.eq_of_nil
  · obtain ⟨herror, _, hconfig, hhalted⟩ := consume_of_quiet depth hm h
    exact ⟨herror, hconfig, hhalted, heard_consume_of_quiet depth hm h⟩

/-- The statement of `.q0 -[a]a> q0 -_> (q1) -[b,a]> q1;`. -/
def counting : List Statement := [
  ⟨[.state ⟨"q0", true, false, some ⟨1, 1⟩⟩,
    .transition ⟨"a", .right, [⟨none, some "a"⟩], some ⟨1, 7⟩⟩, .state ⟨"q0", false, false, none⟩,
    .transition ⟨"_", .right, [], some ⟨1, 16⟩⟩, .state ⟨"q1", false, true, none⟩,
    .transition ⟨"b", .right, [⟨some "a", none⟩], some ⟨1, 26⟩⟩, .state ⟨"q1", false, false, none⟩],
    some ⟨1, 1⟩⟩]

/-- A listener to a machine over `anbn` hears the run on `ab`. -/
theorem anbn_replays : ∃ v s,
    (((Machine.new anbn {} none none).subscribe ⟨"l", false, none⟩).Settles 10 ["a", "b"] v s) ∧
    (s.history.map (·.label)).filter (· ≠ epsilon) ++ s.config.input = ["a", "b"] ∧
    (((Machine.new anbn {} none none).subscribe ⟨"l", false, none⟩).consume 10 0
      ["a", "b"]).machine.heard.toList =
      [⟨"l", ⟨"q0", "a", [["a"]]⟩⟩, ⟨"l", ⟨"q1", "_", [["a"]]⟩⟩, ⟨"l", ⟨"q1", "b", [[]]⟩⟩] := by
  have hcompiled : (compileStatements .ample {} counting).result = .ok anbn := by cbv
  have hsettles : ((Machine.new anbn {} none none).subscribe ⟨"l", false, none⟩).Settles 10
      ["a", "b"] .accepted ⟨⟨"q1", [[]], []⟩, false,
        [⟨"q1", "b", [[]]⟩, ⟨"q1", "_", [["a"]]⟩, ⟨"q0", "a", [["a"]]⟩], true⟩ := by
    refine ⟨[], ?_⟩
    cbv
  obtain ⟨_, _, _, _, hspells, _, hquiet⟩ := (consume_replays_run
    ((Machine.new anbn {} none none).subscribe ⟨"l", false, none⟩) 10 0 ["a", "b"] hcompiled
    (by decide)).2 _ _ hsettles
  refine ⟨_, _, hsettles, hspells, ?_⟩
  rw [(hquiet (by simp [Quiet, subscribe, Machine.new])).2.2.2]
  rfl

end Machine

end ArrowMachine
