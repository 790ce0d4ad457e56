import ArrowMachine.Compile
import ArrowMachine.Proofs.Run.Adoption
import Mathlib

/-!
What a search settles on when it accepts nothing.

It is the first of the lightest snapshots made, as it was made, though snapshots are stepped in place
(`Machine.fallback_is_first_lightest`).
When the search ran dry, that snapshot is marked as stuck exactly if nothing matches it and it was
expanded itself (`Machine.halted_iff_of_ranDry`): with pruning, a later snapshot of the same configuration
may have been expanded before it, and then it is dropped unmarked.
-/
namespace ArrowMachine

namespace Search

variable {plan : Plan} {s r : Snapshot} {bs : List Branch} {st : State}

theorem Settling.fallback {fuel : Nat} {v : Verdict} (hs : s.halted = false)
    (h : Settling plan fuel s v r) (hv : v ≠ .accepted) :
    ∃ k, FirstLightest (generated plan fuel s) k r.unmarked := by
  cases h with
  | atOnce => exact absurd rfl hv
  | @ranDry n bs st hn hrounds hpending hstart hexpansions =>
    rw [generated, hexpansions]
    exact ⟨_, (hrounds.logged hs).best⟩
  | @cutShort n bs st hn hrounds hspent hexpansions =>
    rw [generated, hexpansions]
    exact ⟨_, (hrounds.logged hs).best⟩
  | accepted => exact absurd rfl hv

/-- A snapshot of the configuration of `g`, made after number `k`, was expanded. -/
def ExpandedLater (bs : List Branch) (k : Nat) (g : Snapshot) : Prop :=
  ∃ b ∈ bs, k < b.serial ∧ b.shot.footprint = g.footprint

theorem workload_eq_of_footprint (h : s.footprint = r.footprint) : s.workload = r.workload := by
  obtain ⟨⟨state, channels, input⟩, _, _, _⟩ := s
  obtain ⟨⟨state', channels', input'⟩, _, _, _⟩ := r
  obtain ⟨_, rfl, hlength⟩ : state = state' ∧ channels = channels' ∧
      input.length = input'.length := by simpa [Snapshot.footprint] using h
  simp [Snapshot.workload, Configuration.workload, hlength]

/-- When nothing is pending, the best branch has been expanded unless pruning dropped it for a later
one of the same configuration. -/
theorem Logged.best_expanded_iff (h : Logged plan s bs st) (hpending : st.pending = []) :
    (∃ b ∈ bs, b.serial = st.best.serial) ↔
      ¬ (plan.prune = true ∧ ExpandedLater bs st.best.serial st.best.shot.unmarked) := by
  constructor
  · rintro ⟨b, hb, hserial⟩ ⟨hprune, x, hx, hlater, hfoot⟩
    have hmade := h.expanded b hb
    rw [hserial, h.best.at_place] at hmade
    have hsame : x.shot.footprint = b.shot.footprint := by
      rw [hfoot, Option.some.inj hmade]
    -- With pruning no configuration is expanded twice.
    obtain rfl : x = b := List.inj_on_of_nodup_map (h.distinct hprune) hx hb hsame
    omega
  · intro hnot
    rcases h.placed _ _ h.best.at_place with ⟨b, hb, _⟩ | hexpanded | ⟨hprune, b, hb, hfoot⟩
    · rw [hpending] at hb
      cases hb
    · exact hexpanded
    · rcases Nat.lt_trichotomy b.serial st.best.serial with hlt | heq | hgt
      · have := h.best.first _ _ hlt (h.expanded b hb)
        rw [workload_eq_of_footprint hfoot] at this
        omega
      · exact ⟨b, hb, heq⟩
      · exact absurd ⟨hprune, b, hb, hgt, hfoot⟩ hnot

theorem Settling.halted_iff {fuel : Nat} (hs : s.halted = false)
    (h : Settling plan fuel s .ranDry r) :
    ∃ k, FirstLightest (generated plan fuel s) k r.unmarked ∧
      (r.halted = true ↔ plan.table.choices r.config = [] ∧
        ¬ (plan.prune = true ∧ ExpandedLater (expansions plan fuel s) k r.unmarked)) := by
  cases h with
  | @ranDry n bs st hn hrounds hpending hstart hexpansions =>
    have hlogged := hrounds.logged hs
    rw [generated, hexpansions]
    exact ⟨_, hlogged.best, by rw [hlogged.halted, hlogged.best_expanded_iff hpending]⟩

end Search

/-- The table of `.a -[_]p> b;`, in which the only transition makes work. -/
def pushing : Compiled where
  initial := "a"
  transitions := [("a", [⟨"_", ⟨"_", [none]⟩, ⟨"b", [.push 0 "p", .set "b"]⟩, some ⟨1, 6⟩⟩])]
  accepting := []
  stackCount := 1
  states := ["a", "b"]
  labels := ["_"]

/-- The table of `.a -x> b; a -_> c; c -x> b;`, in which two branches meet in one configuration. -/
def forked : Compiled where
  initial := "a"
  transitions :=
    [("a", [⟨"x", ⟨"x", []⟩, ⟨"b", [.consume, .set "b"]⟩, some ⟨1, 5⟩⟩,
      ⟨"_", ⟨"_", []⟩, ⟨"c", [.set "c"]⟩, some ⟨1, 14⟩⟩]),
    ("c", [⟨"x", ⟨"x", []⟩, ⟨"b", [.consume, .set "b"]⟩, some ⟨1, 23⟩⟩])]
  accepting := []
  stackCount := 0
  states := ["a", "b", "c"]
  labels := ["x", "_"]

namespace Machine

/-- **The fallback is the first of the lightest snapshots.** If the search of `consume`, which steps
snapshots in place, ends without accepting, the machine takes over the configuration and the history of the
first among the snapshots made that have the least workload, as they were when it was made. -/
theorem fallback_is_first_lightest (m : Machine) (fuel depth : Nat) (w : List String)
    {v : Search.Verdict} {s : Snapshot} {told : List String}
    (h : InPlace.start m.plan fuel (m.seed w) = some ⟨.settled v s, told⟩) (hv : v ≠ .accepted) :
    m.Adopts fuel depth w s ∧
    ∃ k g, Search.FirstLightest (InPlace.generated m.plan fuel (m.seed w)) k g ∧
      (m.takeOver s).config = g.config ∧ s.history = g.history ∧
      (m.Quiet → (m.consume fuel depth w).machine.config = g.config) := by
  have hsettles : m.Settles fuel w v s := ⟨told, InPlace.start_eq .. ▸ h⟩
  obtain ⟨k, hk⟩ := hsettles.settling.fallback rfl hv
  rw [← InPlace.generated_eq rfl h hv] at hk
  exact ⟨hsettles.adopts depth, k, s.unmarked, hk, rfl, rfl,
    fun hm => (consume_of_quiet depth hm hsettles).2.2.1⟩

/-- The one entry that matches is applied to a copy. The first snapshot, which is lighter, stays as it was,
and the machine goes back to it. -/
theorem pushing_fallback : ∃ k g,
    Search.FirstLightest (InPlace.generated (Machine.new pushing {} none none).plan 10
      ((Machine.new pushing {} none none).seed ["x"])) k g ∧ g.config = ⟨"a", [[]], ["x"]⟩ := by
  have hstart : InPlace.start (Machine.new pushing {} none none).plan 10
      ((Machine.new pushing {} none none).seed ["x"]) =
        some ⟨.settled .ranDry ⟨⟨"a", [[]], ["x"]⟩, false, [], false⟩, []⟩ := by
    cbv
  obtain ⟨_, k, g, hfirst, hconfig, _⟩ :=
    fallback_is_first_lightest (Machine.new pushing {} none none) 10 0 ["x"] hstart (by decide)
  exact ⟨k, g, hfirst, hconfig.symm⟩

/-- **When the mark of being stuck is right.** A search that ran dry leaves the machine halted if and
only if nothing matches its configuration and, in case of pruning, no snapshot of that configuration made
later was expanded instead of the one taken over, which is the first lightest. -/
theorem halted_iff_of_ranDry (m : Machine) (fuel depth : Nat) (w : List String) {s : Snapshot}
    (h : m.Settles fuel w .ranDry s) :
    m.Adopts fuel depth w s ∧
    ∃ k g, Search.FirstLightest (m.generated fuel w) k g ∧ (m.takeOver s).config = g.config ∧
      ((m.takeOver s).halted = true ↔
        m.table.possible s.config.state s.config.head? s.config.tops = [] ∧
        ¬ (m.settings.isOn .pruneRevisited = true ∧
          Search.ExpandedLater (m.expansions fuel w) k g)) ∧
      (m.Quiet → (m.consume fuel depth w).machine.halted = (m.takeOver s).halted) := by
  obtain ⟨k, hk, hhalted⟩ := h.settling.halted_iff rfl
  refine ⟨h.adopts depth, k, s.unmarked, hk, rfl, hhalted, ?_⟩
  intro hm
  exact (consume_of_quiet depth hm h).2.2.2

/-- Without pruning the machine over `forked` ends halted. -/
theorem forked_halted_of_not_prune :
    ((Machine.new forked (({} : Settings).turn .pruneRevisited false) none none).consume 10 0
      ["x"]).machine.halted = true := by
  have hsettles : (Machine.new forked (({} : Settings).turn .pruneRevisited false) none none).Settles
      10 ["x"] .ranDry ⟨⟨"b", [], []⟩, true, [], false⟩ := by
    refine ⟨[], ?_⟩
    cbv
  obtain ⟨_, k, g, _, _, hiff, hquiet⟩ := halted_iff_of_ranDry
    (Machine.new forked (({} : Settings).turn .pruneRevisited false) none none) 10 0 ["x"] hsettles
  rw [hquiet (by simp [Quiet, Machine.new]), hiff]
  exact ⟨by decide, fun hprune => absurd hprune.1 (by decide)⟩

/-- With pruning it does not, though nothing matches the configuration in which it ends: the first
snapshot of that configuration is dropped for a later one, and so it is never marked. -/
theorem forked_unmarked :
    (compile .ample {} ".a -x> b; a -_> c; c -x> b;").result.toOption = some forked ∧
    (Machine.new forked {} none none).Settles 10 ["x"] .ranDry
      ⟨⟨"b", [], []⟩, false, [], false⟩ ∧
    forked.possible "b" none [] = [] ∧
    ((Machine.new forked {} none none).consume 10 0 ["x"]).machine.halted = false := by
  refine ⟨by decide +kernel, ⟨[], ?_⟩, by decide, ?_⟩
  · cbv
  · cbv

end Machine

end ArrowMachine
