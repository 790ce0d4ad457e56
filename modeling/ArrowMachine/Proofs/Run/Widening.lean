import ArrowMachine.Proofs.Run.Calls
import ArrowMachine.Proofs.Run.Termination
import ArrowMachine.Proofs.Table.Widening

/-!
Channels that nothing uses.

A machine over a table with more channels than it needs does what it does without them. What is widened
has the same channels and behind them some that are empty: the same rows apply, and firing them leaves the
additional channels as they are (`Compiled.Addressed.apply_widened`). So the two searches go through the
same rounds (`Search.State.Wider`), since neither workloads nor what tells configurations apart depends on
empty channels, and settle on the same (`Search.start_wider`), and all calls come to the same
(`Machine.turns_wider`).
-/
namespace ArrowMachine

/-! ## Configurations -/

namespace Configuration

/-- The configuration with `d` more channels, which are empty. -/
def widened (d : Nat) (c : Configuration) : Configuration :=
  { c with channels := c.channels ++ List.replicate d [] }

variable {c : Configuration} {d : Nat}

theorem tops_widened : (c.widened d).tops = c.tops ++ List.replicate d none := by
  rw [tops, widened, List.map_append, List.map_replicate]
  rfl

theorem workload_widened : (c.widened d).workload = c.workload := by
  simp [workload, widened]

end Configuration

def Step.widened (d : Nat) (step : Step) : Step :=
  { step with channels := step.channels ++ List.replicate d [] }

def Event.widened (d : Nat) (event : Event) : Event := ⟨event.listener, event.step.widened d⟩

def Footprint.widened (d : Nat) (f : Footprint) : Footprint :=
  { f with channels := f.channels ++ List.replicate d [] }

theorem Footprint.widened_injective (d : Nat) : Function.Injective (Footprint.widened d) := by
  rintro ⟨state, channels, left⟩ ⟨state', channels', left'⟩ h
  simpa [Footprint.widened] using h

def Snapshot.widened (d : Nat) (s : Snapshot) : Snapshot :=
  { s with config := s.config.widened d, trail := s.trail.map (Step.widened d) }

/-! ## Operations -/

namespace Op

variable {op : Op} {ops : List Op} {c c' : Configuration} {d : Nat}

/-- If the operation addresses a channel, it is one of the first `count`, counted from the front. -/
def Addresses (count : Nat) (op : Op) : Prop :=
  ∀ channel, op.channel? = some channel → 0 ≤ channel ∧ channel < count

theorem modify_append_of_lt {α : Type} {i : Nat} (f : α → α) {as : List α} (hi : i < as.length)
    (bs : List α) : (as ++ bs).modify i f = as.modify i f ++ bs := by
  induction as generalizing i with
  | nil => cases hi
  | cons a as ih =>
    cases i with
    | zero => rfl
    | succ i =>
      rw [List.cons_append, List.modify_succ_cons, List.modify_succ_cons, List.cons_append,
        ih (Nat.lt_of_succ_lt_succ hi)]

/-- An operation leaves channels behind those that it addresses as they are. -/
theorem apply_widened (hop : op.Addresses c.channels.length) :
    op.apply (c.widened d) = (op.apply c).map (Configuration.widened d) := by
  have hindex : ∀ channel, op.channel? = some channel →
      channelIndex? c.channels.length channel = some channel.toNat ∧
        channelIndex? (c.widened d).channels.length channel = some channel.toNat ∧
        channel.toNat < c.channels.length := by
    intro channel hchannel
    obtain ⟨hnonneg, hlt⟩ := hop channel hchannel
    have hlength : (c.widened d).channels.length = c.channels.length + d := by
      simp [Configuration.widened]
    refine ⟨channelIndex?_of_lt ⟨hnonneg, hlt⟩, channelIndex?_of_lt ⟨hnonneg, ?_⟩, by omega⟩
    rw [hlength]
    omega
  cases op with
  | consume => rfl
  | set state => rfl
  | pop channel =>
    obtain ⟨hnarrow, hwide, hlt⟩ := hindex channel rfl
    rw [apply, apply, hnarrow, hwide]
    simp only [Option.map_some, Configuration.widened, modify_append_of_lt List.tail hlt]
  | push channel value =>
    obtain ⟨hnarrow, hwide, hlt⟩ := hindex channel rfl
    rw [apply, apply, hnarrow, hwide]
    simp only [Option.map_some, Configuration.widened, modify_append_of_lt (value :: ·) hlt]

theorem Addresses.inRange {count : Nat} (hop : op.Addresses count) : op.InRange count := by
  intro channel hchannel
  rw [channelIndex?_of_lt (hop channel hchannel)]
  rfl

theorem applyAll_widened (d : Nat) (hops : ∀ op ∈ ops, op.Addresses c.channels.length) :
    ∃ c', applyAll ops c = .ok c' ∧ applyAll ops (c.widened d) = .ok (c'.widened d) := by
  induction ops generalizing c with
  | nil => exact ⟨c, rfl, rfl⟩
  | cons op ops ih =>
    obtain ⟨hop, hops⟩ := List.forall_mem_cons.1 hops
    obtain ⟨b, hb⟩ := exists_apply hop.inRange
    have hwide := apply_widened (d := d) hop
    rw [hb, Option.map_some] at hwide
    rw [← length_channels_of_apply hb] at hops
    obtain ⟨c', hnarrow, hwidened⟩ := ih hops
    exact ⟨c', applyAll_cons_eq_ok.2 ⟨b, hb, hnarrow⟩,
      applyAll_cons_eq_ok.2 ⟨b.widened d, hwide, hwidened⟩⟩

end Op

/-- The rows of the table address its channels only, counted from the front. -/
def Compiled.Addressed (t : Compiled) : Prop :=
  ∀ state, ∀ e ∈ t.entriesFor state, ∀ op ∈ e.action.ops, op.Addresses t.stackCount.toNat

section Firing

variable {t : Compiled} {c : Configuration} {s : Snapshot} {e : Entry} {state : String}

theorem Compiled.WellFormed.addressed {p : Program} {settings : Settings} (ht : t.WellFormed p settings) :
    t.Addressed := by
  intro state e he op hop channel hchannel
  obtain ⟨hnonneg, hlt⟩ := ht.channels state e he op hop channel hchannel
  exact ⟨hnonneg, by omega⟩

/-- A row does the same where there are more channels. -/
theorem Compiled.Addressed.apply_widened (ht : t.Addressed) (d : Nat) (hc : t.Fits c)
    (he : e ∈ t.entriesFor state) (consuming : Bool) :
    ∃ c', e.action.apply consuming c = .ok c' ∧
      e.action.apply consuming (c.widened d) = .ok (c'.widened d) ∧ t.Fits c' := by
  have hops : ∀ op ∈ if consuming then e.action.ops else e.action.ops.filter (· ≠ .consume),
      op.Addresses c.channels.length := by
    intro op hop channel hchannel
    have hmem : op ∈ e.action.ops := by
      split at hop
      · exact hop
      · exact (List.mem_filter.1 hop).1
    obtain ⟨hnonneg, hlt⟩ := ht state e he op hmem channel hchannel
    have hfits : t.stackCount.toNat ≤ c.channels.length := hc
    exact ⟨hnonneg, by omega⟩
  obtain ⟨c', hnarrow, hwide⟩ := Op.applyAll_widened d hops
  refine ⟨c', hnarrow, hwide, ?_⟩
  rw [Compiled.Fits, Op.length_channels_of_applyAll hnarrow]
  exact hc

theorem Snapshot.record_widened (d : Nat) (s : Snapshot) (label : String) :
    (s.widened d).record label = (s.record label).widened d := by
  unfold record
  change (if s.recording then _ else _) = _
  split <;> rfl

theorem Snapshot.apply_widened (ht : t.Addressed) (d : Nat) (hs : t.Fits s.config)
    (he : e ∈ t.entriesFor state) (count : Nat) :
    ∃ r, s.apply e = .ok r ∧ (s.widened d).apply (e.padded count) = .ok (r.widened d) ∧
      t.Fits r.config := by
  obtain ⟨c', hnarrow, hwide, hfits⟩ := ht.apply_widened d hs he true
  refine ⟨{ s with config := c' }.record e.label, ?_, ?_, ?_⟩
  · rw [apply, hnarrow]
  · rw [← record_widened, apply,
      show (e.padded count).action.apply true (s.widened d).config = .ok (c'.widened d) from hwide]
    rfl
  · unfold record
    split <;> exact hfits

end Firing

/-! ## Searches -/

namespace Search

def Branch.widened (d : Nat) (b : Branch) : Branch := ⟨b.serial, b.shot.widened d⟩

/-- The same search in a table with wider rows. -/
structure Plan.Wider (count : Int) (plan plan' : Plan) : Prop where
  table : plan'.table = plan.table.padded count
  prune : plan'.prune = plan.prune
  budget : plan'.budget = plan.budget

/-- A search that has gone through the same rounds with `d` more channels, over all that the first one
holds. -/
structure State.Wider (t : Compiled) (d : Nat) (st st' : State) : Prop where
  pending : st'.pending = st.pending.map (Branch.widened d)
  explored : ∀ f, st'.explored.contains (f.widened d) = st.explored.contains f
  best : st'.best = st.best.widened d
  rounds : st'.rounds = st.rounds
  fresh : st'.fresh = st.fresh
  fits : ∀ b ∈ st.pending, t.Fits b.shot.config
  best_fits : t.Fits st.best.shot.config

/-- Two searches have ended alike: both have settled, on the same but for channels that are empty. -/
inductive Ending.Wider (t : Compiled) (d : Nat) : Ending → Ending → Prop
  | settled (verdict : Verdict) (s : Snapshot) (told told' : List String) (hs : t.Fits s.config) :
    Wider t d ⟨.settled verdict s, told⟩ ⟨.settled verdict (s.widened d), told'⟩

/-- A round has come to the same: both searches are over, or both go on. -/
inductive RoundWider (t : Compiled) (d : Nat) : Except Ending State → Except Ending State → Prop
  | ended {ending ending' : Ending} (h : ending.Wider t d ending') :
    RoundWider t d (.error ending) (.error ending')
  | goesOn {st st' : State} (h : st.Wider t d st') : RoundWider t d (.ok st) (.ok st')

variable {plan plan' : Plan} {count : Int} {t : Compiled} {d : Nat} {s : Snapshot} {st st' : State}
  {b : Branch}

theorem accepts_widened (t : Compiled) (count : Int) (d : Nat) (s : Snapshot) :
    accepts (t.padded count) (s.widened d) = accepts t s := rfl

theorem better_widened (d : Nat) (b c : Branch) :
    better (b.widened d) (c.widened d) = (better b c).widened d := by
  have hb : (b.widened d).shot.workload = b.shot.workload := Configuration.workload_widened
  have hc : (c.widened d).shot.workload = c.shot.workload := Configuration.workload_widened
  unfold better
  rw [hb, hc]
  split <;> rfl

theorem better_fits {c : Branch} (hb : t.Fits b.shot.config) (hc : t.Fits c.shot.config) :
    t.Fits (better b c).shot.config := by
  unfold better
  split
  · exact hb
  · exact hc

namespace State.Wider

theorem tell (h : st.Wider t d st') (plan plan' : Plan) (line line' : Unit → String) :
    (st.tell plan line).Wider t d (st'.tell plan' line') :=
  ⟨h.pending, h.explored, h.best, h.rounds, h.fresh, h.fits, h.best_fits⟩

theorem add (h : st.Wider t d st') (hs : t.Fits s.config) :
    (st.add s).Wider t d (st'.add (s.widened d)) where
  pending := by
    change _ :: _ = _ :: _
    rw [h.pending, h.fresh]
    rfl
  explored := h.explored
  best := by
    change better ⟨st'.fresh, s.widened d⟩ st'.best = (better ⟨st.fresh, s⟩ st.best).widened d
    rw [h.best, h.fresh]
    exact better_widened d ⟨st.fresh, s⟩ st.best
  rounds := h.rounds
  fresh := congrArg (· + 1) h.fresh
  fits := List.forall_mem_cons.2 ⟨hs, h.fits⟩
  best_fits := better_fits hs h.best_fits

theorem halt (h : st.Wider t d st') (hb : t.Fits b.shot.config) :
    (st.halt b).Wider t d (st'.halt (b.widened d)) where
  pending := h.pending
  explored := h.explored
  best := by
    change (if b.serial = st'.best.serial then _ else better _ st'.best) = Branch.widened d (if _ then _ else _)
    rw [h.best]
    change (if b.serial = st.best.serial then _ else _) = _
    split
    · rfl
    · exact better_widened d ⟨b.serial, { b.shot with halted := true }⟩ st.best
  rounds := h.rounds
  fresh := h.fresh
  fits := h.fits
  best_fits := by
    unfold State.halt
    simp only
    split
    · exact hb
    · exact better_fits hb h.best_fits

theorem giveUp (h : st.Wider t d st') (plan plan' : Plan) (verdict : Verdict) :
    (st.giveUp plan verdict).Wider t d (st'.giveUp plan' verdict) := by
  unfold State.giveUp finish
  rw [h.best]
  exact .settled verdict st.best.shot _ _ h.best_fits

theorem isSpent (h : st.Wider t d st') (hplan : plan.Wider count plan') :
    st'.isSpent plan' = st.isSpent plan := by
  rw [State.isSpent, State.isSpent, Plan.isSpent, Plan.isSpent, hplan.budget, h.rounds]

theorem spread (hplan : plan.Wider count plan') (ht : plan.table.Addressed)
    (h : st.Wider plan.table d st') (hs : plan.table.Fits s.config) {state : String} {es : List Entry}
    (hes : ∀ e ∈ es, e ∈ plan.table.entriesFor state) :
    RoundWider plan.table d (State.spread plan s es st)
      (State.spread plan' (s.widened d) (es.map (·.padded count.toNat)) st') := by
  induction es generalizing st st' with
  | nil => exact .goesOn h
  | cons e es ih =>
    obtain ⟨he, hes⟩ := List.forall_mem_cons.1 hes
    obtain ⟨r, hnarrow, hwide, hr⟩ := Snapshot.apply_widened ht d hs he count.toNat
    rw [List.map_cons, State.spread, State.spread, hnarrow, hwide]
    simp only [hplan.table, accepts_widened]
    split
    · exact .ended (.settled .accepted r _ _ hr)
    · exact ih (h.add hr) hes

theorem expand (hplan : plan.Wider count plan') (ht : plan.table.Addressed)
    (h : st.Wider plan.table d st') (hb : plan.table.Fits b.shot.config) :
    RoundWider plan.table d (State.expand plan b st) (State.expand plan' (b.widened d) st') := by
  have hfound : plan'.table.possible (b.widened d).shot.config.state (b.widened d).shot.config.head?
      (b.widened d).shot.config.tops =
      (plan.table.possible b.shot.config.state b.shot.config.head? b.shot.config.tops).map
        (·.padded count.toNat) := by
    rw [hplan.table, show (b.widened d).shot.config = b.shot.config.widened d from rfl,
      Configuration.tops_widened]
    exact Compiled.possible_padded _ _ _ _ _ _
  have hround : ({ st with rounds := st.rounds + 1 } : State).Wider plan.table d
      { st' with rounds := st'.rounds + 1 } :=
    ⟨h.pending, h.explored, h.best, congrArg (· + 1) h.rounds, h.fresh, h.fits, h.best_fits⟩
  unfold State.expand
  simp only [hfound, List.isEmpty_map]
  split
  · exact .goesOn ((hround.tell _ _ _ _).halt hb)
  · exact spread hplan ht (hround.tell _ _ _ _) hb fun e he => (List.mem_filter.1 he).1

/-- Marking a configuration as explored does not confuse it with another one. -/
theorem insert (h : st.Wider t d st') (f : Footprint) :
    ({ st with explored := st.explored.insert f } : State).Wider t d
      { st' with explored := st'.explored.insert (f.widened d) } where
  pending := h.pending
  explored := by
    intro g
    have hsame : (f.widened d == g.widened d) = (f == g) := by
      rw [Bool.eq_iff_iff, beq_iff_eq, beq_iff_eq]
      exact (Footprint.widened_injective d).eq_iff
    change (st'.explored.insert (f.widened d)).contains (g.widened d) = (st.explored.insert f).contains g
    rw [Std.HashSet.contains_insert, Std.HashSet.contains_insert, hsame, h.explored]
  best := h.best
  rounds := h.rounds
  fresh := h.fresh
  fits := h.fits
  best_fits := h.best_fits

/-- The search without the branch that it expands next. -/
theorem drop (h : st.Wider t d st') {rest : List Branch} (hpending : st.pending = b :: rest) :
    ({ st with pending := rest } : State).Wider t d
      { st' with pending := rest.map (Branch.widened d) } :=
  ⟨rfl, h.explored, h.best, h.rounds, h.fresh,
    fun c hc => h.fits c (hpending ▸ List.mem_cons_of_mem b hc), h.best_fits⟩

/-- **One round comes to the same with more channels.** -/
theorem advance (hplan : plan.Wider count plan') (ht : plan.table.Addressed)
    (h : st.Wider plan.table d st') :
    RoundWider plan.table d (st.advance plan) (st'.advance plan') := by
  have hpending' := h.pending
  unfold State.advance
  cases hpending : st.pending with
  | nil =>
    rw [hpending] at hpending'
    rw [hpending']
    exact .ended (h.giveUp plan plan' .ranDry)
  | cons b rest =>
    rw [hpending] at hpending'
    rw [hpending']
    have hb : plan.table.Fits b.shot.config := h.fits b (hpending ▸ List.mem_cons_self)
    have hexplored : st'.explored.contains (b.widened d).shot.footprint =
        st.explored.contains b.shot.footprint := h.explored b.shot.footprint
    simp only [List.map_cons, h.isSpent hplan, hplan.prune, hexplored]
    split
    · exact .ended ((h.tell _ _ _ _).giveUp plan plan' .cutShort)
    · split
      · split
        · exact .goesOn (h.drop hpending)
        · exact expand hplan ht ((h.drop hpending).insert b.shot.footprint) hb
      · exact expand hplan ht (h.drop hpending) hb

/-- All rounds together come to the same. -/
theorem run (hplan : plan.Wider count plan') (ht : plan.table.Addressed)
    (h : st.Wider plan.table d st') (fuel : Nat) :
    Option.Rel (Ending.Wider plan.table d) (st.run plan fuel) (st'.run plan' fuel) := by
  induction fuel generalizing st st' with
  | zero => exact .none
  | succ fuel ih =>
    have hround := advance hplan ht h
    rw [State.run, State.run]
    generalize st.advance plan = result at hround
    generalize st'.advance plan' = result' at hround
    cases hround with
    | ended hending => exact .some hending
    | goesOn hnext => exact ih hnext

theorem seed (hs : t.Fits s.config) : (State.seed s).Wider t d (State.seed (s.widened d)) where
  pending := rfl
  explored := by
    intro f
    change (∅ : Std.HashSet Footprint).contains _ = (∅ : Std.HashSet Footprint).contains _
    rw [Std.HashSet.contains_empty, Std.HashSet.contains_empty]
  best := rfl
  rounds := rfl
  fresh := rfl
  fits := fun b hb => by
    rw [List.mem_singleton.1 hb]
    exact hs
  best_fits := hs

end State.Wider

/-- **A search settles on the same with more channels.** -/
theorem start_wider (hplan : plan.Wider count plan') (ht : plan.table.Addressed)
    (hs : plan.table.Fits s.config) (fuel : Nat) :
    Option.Rel (Ending.Wider plan.table d) (start plan fuel s) (start plan' fuel (s.widened d)) := by
  unfold start
  rw [hplan.table, accepts_widened]
  split
  · exact .some (.settled .accepted s [] [] hs)
  · exact State.Wider.run hplan ht (.seed hs) fuel

end Search

/-! ## Machines -/

open Search (Plan)

namespace Machine

/-- The machine `m` is over the table `t`, and `n` is the same machine over the same table with rows of
`count` channels, with `d` more channels, which are empty. The two may have traced different lines. -/
structure Wider (t : Compiled) (count : Int) (d : Nat) (m n : Machine) : Prop where
  narrow : m.table = t
  wide : n.table = t.padded count
  fits : t.Fits m.config
  isOn : n.settings.isOn = m.settings.isOn
  strict : n.strict = m.strict
  maxSteps : n.maxSteps = m.maxSteps
  config : n.config = m.config.widened d
  halted : n.halted = m.halted
  listeners : n.listeners = m.listeners
  subscribed : n.subscribed = m.subscribed
  heard : n.heard = m.heard.map (Event.widened d)

variable {t : Compiled} {count : Int} {d : Nat} {m n : Machine}

theorem tuned_wider (t : Compiled) (count : Int) (d : Nat) :
    Tuned (fun a b => b = a.widened d) (Wider t count d) where
  label := by
    rintro a _ rfl
    rfl
  listeners := fun _ _ h => h.listeners
  subscribed := fun _ _ h => h.subscribed
  hears := by
    rintro m n id a _ h rfl
    refine { h with heard := ?_ }
    simp only [h.heard, Array.map_push]
    rfl
  leaves := fun _ _ id h => { h with subscribed := congrArg (·.erase id) h.subscribed }

theorem Wider.tell (h : m.Wider t count d n) (switch : Switch) (line line' : Unit → String) :
    (m.tell switch line).Wider t count d (n.tell switch line') := by
  obtain ⟨told, htold⟩ := tell_eq m switch line
  obtain ⟨told', htold'⟩ := tell_eq n switch line'
  rw [htold, htold']
  exact { h with }

theorem Wider.firing? (h : m.Wider t count d n) (label : String) :
    n.firing? label = (m.firing? label).map (·.padded count.toNat) := by
  unfold Machine.firing?
  rw [h.wide, h.narrow, h.config, Compiled.entriesFor_padded, List.find?_map,
    Configuration.tops_widened]
  congr 2
  funext e
  exact congrArg (_ && ·) (e.filter.accepts_padded count.toNat (some label) m.config.tops d)

theorem Wider.refuse (h : m.Wider t count d n) (label : String) :
    SameTurn (Wider t count d) (m.refuse label) (n.refuse label) := by
  unfold Machine.refuse
  rw [h.strict]
  split
  · refine ⟨h, ?_⟩
    rw [h.wide, h.narrow, h.config]
    rfl
  · have htell := h.tell .verboseDispatch
      (fun _ => "ignoring invalid action '" ++ label ++ "' from state '" ++ m.config.state ++ "'")
      fun _ => "ignoring invalid action '" ++ label ++ "' from state '" ++ n.config.state ++ "'"
    exact ⟨htell, rfl⟩

theorem firesAlike_wider (ht : t.Addressed) :
    FiresAlike (fun a b => b = a.widened d) (Wider t count d) := by
  intro label m n h
  rw [fired, fired, h.firing? label]
  cases hm : m.firing? label with
  | none => exact ⟨h.refuse label, .nil⟩
  | some e =>
    have he : e ∈ t.entriesFor m.config.state := h.narrow ▸ List.mem_of_find?_eq_some hm
    obtain ⟨c, hnarrow, hwide, hc⟩ := ht.apply_widened d h.fits he false
    obtain ⟨told, htold⟩ := tell_eq m .verboseDispatch fun _ =>
      "dispatch '" ++ label ++ "': " ++ m.config.state ++ " -> " ++ e.action.target
    obtain ⟨told', htold'⟩ := tell_eq n .verboseDispatch fun _ =>
      "dispatch '" ++ label ++ "': " ++ n.config.state ++ " -> " ++ e.action.target
    rw [← h.config] at hwide
    simp only [Option.map_some, Entry.padded, htold, htold', hnarrow, hwide]
    exact ⟨⟨{ h with fits := hc, config := rfl, halted := rfl }, rfl⟩, .cons rfl .nil⟩

/-- **Dispatching comes to the same with more channels,** whatever listeners answer. -/
theorem dispatch_wider (ht : t.Addressed) (h : m.Wider t count d n) (depth : Nat) (label : String) :
    SameTurn (Wider t count d) (dispatch depth label m) (dispatch depth label n) :=
  (tuned_wider t count d).dispatch (firesAlike_wider ht) depth label m n h

theorem Wider.plan (h : m.Wider t count d n) : m.plan.Wider count n.plan where
  table := by
    change n.table = m.table.padded count
    rw [h.wide, h.narrow]
  prune := congrFun h.isOn .pruneRevisited
  budget := h.maxSteps

theorem Wider.seed (h : m.Wider t count d n) (w : List String) : n.seed w = (m.seed w).widened d := by
  unfold Machine.seed fed
  rw [h.config, h.subscribed]
  rfl

/-- **Searching an input comes to the same with more channels.** -/
theorem consume_wider (ht : t.Addressed) (h : m.Wider t count d n) (fuel depth : Nat)
    (w : List String) : SameTurn (Wider t count d) (m.consume fuel depth w) (n.consume fuel depth w) := by
  have hstart : Option.Rel (Search.Ending.Wider m.plan.table d) (Search.start m.plan fuel (m.seed w))
      (Search.start n.plan fuel (n.seed w)) := by
    have htable : m.plan.table = t := h.narrow
    rw [h.seed w]
    exact Search.start_wider h.plan (htable ▸ ht) (htable ▸ h.fits) fuel
  rw [consume_eq, consume_eq]
  generalize Search.start m.plan fuel (m.seed w) = result at hstart
  generalize Search.start n.plan fuel (n.seed w) = result' at hstart
  cases hstart with
  | none => exact ⟨h, rfl⟩
  | some hending =>
    cases hending with
    | settled verdict s told told' hs =>
      have hover : ({ m with told := m.told ++ told }.takeOver s).Wider t count d
          ({ n with told := n.told ++ told' }.takeOver (s.widened d)) :=
        { h with fits := h.narrow ▸ hs, config := rfl, halted := rfl }
      refine (tuned_wider t count d).notifyAll (fun label _ _ h => dispatch_wider ht h depth label)
        hover ?_
      change List.Forall₂ _ s.trail.reverse (s.trail.map (Step.widened d)).reverse
      rw [← List.map_reverse, List.forall₂_map_right_iff]
      exact List.forall₂_same.2 fun _ _ => rfl

/-! ## Calls -/

theorem startConfig_padded (hcount : count.toNat = t.stackCount.toNat + d) :
    startConfig (t.padded count) = (startConfig t).widened d := by
  rw [startConfig, startConfig, Configuration.widened, List.replicate_append_replicate, ← hcount]
  rfl

theorem turn_wider (ht : t.Addressed) (hcount : count.toNat = t.stackCount.toNat + d)
    (h : m.Wider t count d n) (fuel depth : Nat) (call : Call) :
    SameTurn (Wider t count d) (call.turn fuel depth m) (call.turn fuel depth n) := by
  cases call with
  | reset =>
    refine ⟨{ h with fits := ?_, config := ?_, halted := rfl }, rfl⟩
    · change t.Fits (startConfig m.table)
      rw [h.narrow]
      exact fits_startConfig t
    · change startConfig n.table = (startConfig m.table).widened d
      rw [h.wide, h.narrow, startConfig_padded hcount]
  | dispatch label strict =>
    exact dispatch_wider ht (m := { m with strict }) (n := { n with strict }) { h with strict := rfl }
      (depth + 1) label
  | consume input maxSteps prune =>
    refine consume_wider ht (m := { m with maxSteps, settings := m.settings.turn .pruneRevisited prune })
      (n := { n with maxSteps, settings := n.settings.turn .pruneRevisited prune })
      { h with maxSteps := rfl, isOn := ?_ } fuel depth input
    unfold Settings.turn
    rw [h.isOn]

theorem turns_wider (ht : t.Addressed) (hcount : count.toNat = t.stackCount.toNat + d)
    (h : m.Wider t count d n) (fuel depth : Nat) (calls : List Call) :
    List.Forall₂ (SameTurn (Wider t count d)) (m.turns fuel depth calls) (n.turns fuel depth calls) := by
  induction calls generalizing m n with
  | nil => exact .nil
  | cons call calls ih =>
    have hcall := turn_wider ht hcount h fuel depth call
    exact .cons hcall (ih hcall.1)

theorem wider_new (t : Compiled) (count : Int) (hcount : count.toNat = t.stackCount.toNat + d)
    (settings : Settings) (least : Int) (strict : Option Bool) (maxSteps : Option Int) :
    (Machine.new t settings strict maxSteps).Wider t count d
      (Machine.new (t.padded count) { settings with stackCount := least } strict maxSteps) where
  narrow := rfl
  wide := rfl
  fits := fits_startConfig t
  isOn := rfl
  strict := rfl
  maxSteps := rfl
  config := startConfig_padded hcount
  halted := rfl
  listeners := rfl
  subscribed := rfl
  heard := Array.map_empty.symm

theorem Wider.subscribe (h : m.Wider t count d n) (listeners : List Listener) :
    (listeners.foldl Machine.subscribe m).Wider t count d (listeners.foldl Machine.subscribe n) := by
  induction listeners generalizing m n with
  | nil => exact h
  | cons l listeners ih =>
    refine ih { h with listeners := ?_, subscribed := congrArg (· ++ [l.id]) h.subscribed }
    unfold Machine.subscribe
    rw [h.listeners]

end Machine

/-- Two calls have come to the same, the second one for a machine with `d` more channels: these are empty,
and all else that can be seen is as without them. -/
structure Turn.Wider (d : Nat) (a b : Turn) : Prop where
  error : b.error = a.error
  state : b.machine.config.state = a.machine.config.state
  input : b.machine.config.input = a.machine.config.input
  channels : b.machine.config.channels = a.machine.config.channels ++ List.replicate d []
  halted : b.machine.halted = a.machine.halted
  accepts : b.machine.inAcceptState = a.machine.inAcceptState
  heard : b.machine.heard = a.machine.heard.map (Event.widened d)

theorem Turn.wider_of_same {t : Compiled} {count : Int} {d : Nat} {a b : Turn}
    (h : Machine.SameTurn (Machine.Wider t count d) a b) : a.Wider d b where
  error := h.2.symm
  state := congrArg (·.state) h.1.config
  input := congrArg (·.input) h.1.config
  channels := congrArg (·.channels) h.1.config
  halted := h.1.halted
  accepts := by
    rw [Machine.inAcceptState, Machine.inAcceptState, h.1.wide, h.1.narrow, h.1.config]
    rfl
  heard := h.1.heard

/-- **Asking for more channels changes nothing but empty channels.** Unless some row then lacks more reads
than can be added, a text that is refused is refused with the same error, and one that compiles compiles to
a table with as many more channels as are asked for. Whoever listens to machines over the two tables,
however these are set up, and whatever calls are made of them, each call comes to the same but for channels
at the end that are always empty. A row that lacks too many reads lacks no more than channels are asked
for, and with fewer channels nothing else can have gone wrong. -/
theorem compile_wider (cap : Capacity) {settings : Settings} {least : Int} (h : settings.stackCount ≤ least)
    (source : String) :
    (∃ missing, (compile cap { settings with stackCount := least } source).result =
        .error (.tooWide missing) ∧ cap.room < missing ∧ (missing : Int) ≤ least ∧
      ∀ e, (compile cap settings source).result = .error e → ∃ few, e = .tooWide few) ∨
    (∃ e, (compile cap settings source).result = .error e ∧
      (compile cap { settings with stackCount := least } source).result = .error e) ∨
    ∃ t u d, (compile cap settings source).result = .ok t ∧
      (compile cap { settings with stackCount := least } source).result = .ok u ∧
      u.stackCount = t.stackCount + (d : Nat) ∧
      ∀ (own : Settings) (count : Int) (strict : Option Bool) (maxSteps : Option Int)
        (listeners : List Listener) (fuel depth : Nat) (calls : List Call),
        List.Forall₂ (Turn.Wider d)
          ((listeners.foldl Machine.subscribe (Machine.new t own strict maxSteps)).turns
            fuel depth calls)
          ((listeners.foldl Machine.subscribe
            (Machine.new u { own with stackCount := count } strict maxSteps)).turns
            fuel depth calls) := by
  have hwidens := compile_widens cap h source
  generalize hnarrow : (compile cap settings source).result = narrow at hwidens
  generalize (compile cap { settings with stackCount := least } source).result = wide at hwidens
  cases hwidens with
  | refused e => exact Or.inr (Or.inl ⟨e, rfl, rfl⟩)
  | @tooWide _ missing hresult hmany hleast =>
    exact Or.inl ⟨missing, rfl, hmany, hleast, hresult⟩
  | table t =>
    obtain ⟨ss, hss, hstatements⟩ := exists_statements_of_compile hnarrow
    obtain ⟨_, _, hform⟩ := wellFormed_of_statementsOf hss hstatements
    have hnonneg := hform.nonneg
    refine Or.inr (Or.inr ⟨t, _, (max t.stackCount least - t.stackCount).toNat, rfl, rfl, ?_, ?_⟩)
    · change max t.stackCount least = _
      omega
    · intro own count strict maxSteps listeners fuel depth calls
      have hcount : (max t.stackCount least).toNat =
          t.stackCount.toNat + (max t.stackCount least - t.stackCount).toNat := by omega
      exact (Machine.turns_wider hform.addressed hcount
        ((Machine.wider_new t _ hcount own count strict maxSteps).subscribe listeners)
        fuel depth calls).imp fun _ _ => Turn.wider_of_same

/-- With three channels asked for, a machine for as many `b` as `a` has two more than it needs. -/
theorem anbn_wider : ∃ u,
    (compile .ample { stackCount := 3 } ".q0 -[a]a> q0 -_> (q1) -[b,a]> q1;").result = .ok u ∧
    u.stackCount = 3 ∧ ∀ calls, List.Forall₂ (Turn.Wider 2)
      ((Machine.new anbn {} none none).turns 20 0 calls)
      ((Machine.new u { stackCount := 3 } none none).turns 20 0 calls) := by
  have hnarrow : (compile .ample {} ".q0 -[a]a> q0 -_> (q1) -[b,a]> q1;").result = .ok anbn := by
    decide +kernel
  have hwide : (compile .ample { stackCount := 3 }
      ".q0 -[a]a> q0 -_> (q1) -[b,a]> q1;").result.map (·.stackCount) = .ok 3 := by
    decide +kernel
  have hasked : ({} : Settings).stackCount ≤ 3 := by decide
  rcases compile_wider .ample hasked ".q0 -[a]a> q0 -_> (q1) -[b,a]> q1;" with
    ⟨missing, hwrong, _⟩ | ⟨e, hwrong, _⟩ | ⟨t, u, d, ht, hu, hcount, hcalls⟩
  · rw [hwrong] at hwide
    cases hwide
  · rw [hnarrow] at hwrong
    cases hwrong
  · obtain rfl := Except.ok.inj (hnarrow.symm.trans ht)
    rw [hu] at hwide
    have hthree : u.stackCount = 3 := Except.ok.inj hwide
    obtain rfl : d = 2 := by
      rw [hthree] at hcount
      change (3 : Int) = 1 + d at hcount
      omega
    exact ⟨u, hu, hthree, hcalls {} 3 none none [] 20 0⟩

end ArrowMachine
