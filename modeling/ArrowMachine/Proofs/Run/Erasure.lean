import ArrowMachine.Proofs.Run.Searching
import Mathlib.Logic.Basic

/-!
What a search records does not guide it.

`Snapshot.bare` forgets the trail of a snapshot and that it was to be recorded. Every function of a search
commutes with forgetting, and so a search from a bare snapshot is the bare search
(`Search.start_bare`): it goes through the same rounds, tells the same and settles on the same, but for
the trail.
-/
namespace ArrowMachine

open Search (Plan Branch State Outcome Ending accepts better)

namespace Snapshot

/-- A snapshot that neither has a trail nor records one. -/
def bare (s : Snapshot) : Snapshot := { s with trail := [], recording := false }

theorem bare_record (s : Snapshot) (label : String) : (s.record label).bare = s.bare := by
  unfold record
  split <;> rfl

/-- The result of applying an entry, without its trail. -/
def bareResult : Except (NoChannel Snapshot) Snapshot → Except (NoChannel Snapshot) Snapshot
  | .ok s => .ok s.bare
  | .error fault => .error ⟨fault.channel, fault.reached.bare⟩

theorem apply_bare (s : Snapshot) (e : Entry) : s.bare.apply e = bareResult (s.apply e) := by
  unfold apply
  rw [show s.bare.config = s.config from rfl]
  cases e.action.apply true s.config with
  | ok d => exact congrArg Except.ok (bare_record { s with config := d } e.label).symm
  | error fault => rfl

end Snapshot

namespace Search

def Branch.bare (b : Branch) : Branch := ⟨b.serial, b.shot.bare⟩

def Outcome.bare : Outcome → Outcome
  | .settled verdict s => .settled verdict s.bare
  | .noChannel channel => .noChannel channel

def Ending.bare (e : Ending) : Ending := ⟨e.outcome.bare, e.told⟩

theorem better_bare (b c : Branch) : better b.bare c.bare = (better b c).bare := by
  unfold better
  change (if b.shot.workload < c.shot.workload then b.bare else c.bare) = _
  split <;> rfl

namespace State

/-- A search without the trails of its snapshots. -/
def bare (st : State) : State :=
  { st with pending := st.pending.map Branch.bare, best := st.best.bare }

/-- What a round comes to, without trails. -/
def bareResult : Except Ending State → Except Ending State
  | .ok st => .ok st.bare
  | .error ending => .error ending.bare

variable {plan : Plan}

theorem tell_bare (st : State) (plan : Plan) (line : Unit → String) :
    st.bare.tell plan line = (st.tell plan line).bare := rfl

theorem add_bare (st : State) (s : Snapshot) : st.bare.add s.bare = (st.add s).bare := by
  unfold add
  simp only
  have hbest : better ⟨st.bare.fresh, s.bare⟩ st.bare.best = (better ⟨st.fresh, s⟩ st.best).bare :=
    better_bare ⟨st.fresh, s⟩ st.best
  rw [hbest]
  rfl

theorem spread_bare (s : Snapshot) (es : List Entry) (st : State) :
    spread plan s.bare es st.bare = bareResult (spread plan s es st) := by
  induction es generalizing st with
  | nil => rfl
  | cons e es ih =>
    rw [spread, spread, Snapshot.apply_bare]
    cases s.apply e with
    | error fault => rfl
    | ok r =>
      change (if accepts plan.table r then _ else spread plan s.bare es (st.bare.add r.bare)) = _
      rw [add_bare, ih]
      simp only
      split <;> rfl

theorem halt_bare (st : State) (b : Branch) : st.bare.halt b.bare = (st.halt b).bare := by
  have hbetter := better_bare ⟨b.serial, { b.shot with halted := true }⟩ st.best
  unfold halt bare
  simp only
  congr 1
  change (if b.serial = st.best.serial then _ else _) = Branch.bare (if _ then _ else _)
  split
  · rfl
  · exact hbetter

theorem giveUp_bare (st : State) (plan : Plan) (verdict : Verdict) :
    st.bare.giveUp plan verdict = (st.giveUp plan verdict).bare := by
  unfold giveUp
  rw [tell_bare]
  rfl

theorem expand_bare (b : Branch) (st : State) :
    expand plan b.bare st.bare = bareResult (expand plan b st) := by
  unfold expand
  simp only
  change (if _ then Except.ok ((State.tell (bare { st with rounds := st.rounds + 1 }) plan _).halt _)
    else spread plan b.shot.bare _ (State.tell (bare { st with rounds := st.rounds + 1 }) plan _)) = _
  rw [tell_bare, halt_bare, spread_bare, apply_ite bareResult]
  rfl

theorem advance_bare (plan : Plan) (st : State) :
    st.bare.advance plan = bareResult (st.advance plan) := by
  obtain ⟨pending, explored, best, rounds, fresh, told⟩ := st
  cases pending with
  | nil => exact congrArg Except.error (giveUp_bare _ plan .ranDry)
  | cons b rest =>
    unfold advance
    simp only [bare, List.map_cons, List.length_cons, List.length_map]
    rw [apply_ite bareResult]
    refine ite_congr rfl (fun _ => ?_) fun _ => ?_
    · have htell := congrArg (giveUp · plan .cutShort) (tell_bare
        ⟨b :: rest, explored, best, rounds, fresh, told⟩ plan fun _ => "giving up after " ++
          toString rounds ++ " steps with " ++ toString (rest.length + 1) ++ " pending")
      exact congrArg Except.error (htell.trans (giveUp_bare _ plan .cutShort))
    · rw [apply_ite bareResult]
      refine ite_congr rfl (fun _ => ?_) fun _ =>
        expand_bare b ⟨rest, explored, best, rounds, fresh, told⟩
      rw [apply_ite bareResult]
      exact ite_congr rfl (fun _ => rfl) fun _ =>
        expand_bare b ⟨rest, explored.insert b.shot.footprint, best, rounds, fresh, told⟩

theorem run_bare (plan : Plan) (fuel : Nat) (st : State) :
    st.bare.run plan fuel = (st.run plan fuel).map Ending.bare := by
  induction fuel generalizing st with
  | zero => rfl
  | succ fuel ih =>
    rw [run, run, advance_bare]
    cases st.advance plan with
    | error ending => rfl
    | ok st' => exact ih st'

end State

/-- **A search is not guided by what it records.** -/
theorem start_bare (plan : Plan) (fuel : Nat) (s : Snapshot) :
    start plan fuel s.bare = (start plan fuel s).map Ending.bare := by
  unfold start
  change (if accepts plan.table s then _ else (State.seed s).bare.run plan fuel) = _
  rw [State.run_bare]
  split <;> rfl

end Search

end ArrowMachine
