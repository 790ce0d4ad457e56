import ArrowMachine.Proofs.Run.Calls

/-!
Driving a deterministic machine label by label.

In a deterministic table no row takes epsilon and never do two rows match, so paths do not branch and two
of them that end where nothing matches end alike (`Compiled.Path.stuck_unique`). A dispatch does what
firing does, but for the input (`Machine.Drivable.step`), and so labels that all fire lead along a path
(`Machine.Drivable.path`). A search has one branch pending at most and every expansion takes a symbol
(`Search.Rounds.chained`), hence it ends, and `consume` accepts exactly if dispatching the symbols does
(`Machine.consume_iff_drive`).
-/
namespace ArrowMachine

open Search (Plan Branch State Verdict Rounds Picks Expands Logged Settling madeBy)

/-! ## Deterministic tables -/

theorem length_flatten_modify_tail {α : Type} (ls : List (List α)) (i : Nat) :
    (ls.modify i List.tail).flatten.length ≤ ls.flatten.length := by
  induction ls generalizing i with
  | nil => simp
  | cons l ls ih =>
    cases i with
    | zero => simp
    | succ i => simpa using ih i

/-- An operation that pushes nothing adds nothing to the stacks. -/
theorem Op.channels_of_apply {op : Op} {c d : Configuration} (hop : ∀ channel x, op ≠ .push channel x)
    (h : op.apply c = some d) : d.channels.flatten.length ≤ c.channels.flatten.length := by
  cases op with
  | consume =>
    obtain rfl : _ = d := Option.some.inj h
    exact Nat.le_refl _
  | pop channel =>
    obtain ⟨i, _, rfl⟩ := Option.map_eq_some_iff.1 h
    exact length_flatten_modify_tail c.channels i
  | push channel x => exact absurd rfl (hop channel x)
  | set state =>
    obtain rfl : _ = d := Option.some.inj h
    exact Nat.le_refl _

/-- Channels beyond those that are read do not matter. -/
theorem Filter.readsFit_take {reads : List (Option String)} {n : Nat} (h : reads.length ≤ n)
    (tops : List (Option String)) : readsFit reads (tops.take n) = readsFit reads tops := by
  induction reads generalizing n tops with
  | nil => rfl
  | cons r reads ih =>
    cases n with
    | zero => exact absurd h (Nat.not_succ_le_zero _)
    | succ n =>
      cases tops with
      | nil => rfl
      | cons top tops => simp [readsFit, ih (Nat.le_of_succ_le_succ h)]

namespace Compiled

/-- No row takes epsilon, and no configuration with the channels of the table is matched by two rows. -/
structure Deterministic (t : Compiled) : Prop where
  no_epsilon : ∀ state, ∀ row ∈ t.entriesFor state, row.filter.input ≠ epsilon
  single : ∀ c : Configuration, c.channels.length = t.stackCount.toNat → (t.choices c).length ≤ 1

variable {t : Compiled} {c d d' : Configuration} {e e' : Entry} {es es' : List Entry}

/-- The rows of a state are those of a member of the list of transitions, or none. -/
theorem entriesFor_mem (t : Compiled) (state : String) :
    t.entriesFor state = [] ∨ ∃ rows ∈ t.transitions, t.entriesFor state = rows.2 := by
  unfold entriesFor
  cases hrows : t.transitions.lookup state with
  | none => exact Or.inl rfl
  | some rows =>
    obtain ⟨before, after, heq, _⟩ := List.lookup_eq_some_iff.1 hrows
    exact Or.inr ⟨(state, rows), by simp [heq], rfl⟩

/-- A table is deterministic if the rows of a state take symbols that differ. -/
theorem deterministic_of_distinct
    (h : ∀ rows ∈ t.transitions, (rows.2.map (·.filter.input)).Nodup ∧
      epsilon ∉ rows.2.map (·.filter.input)) : t.Deterministic := by
  have hdistinct : ∀ state, ((t.entriesFor state).map (·.filter.input)).Nodup ∧
      epsilon ∉ (t.entriesFor state).map (·.filter.input) := by
    intro state
    rcases t.entriesFor_mem state with hnone | ⟨rows, hrows, heq⟩
    · simp [hnone]
    · rw [heq]
      exact h rows hrows
  have hepsilon : ∀ state, ∀ row ∈ t.entriesFor state, row.filter.input ≠ epsilon :=
    fun state row hrow heq => (hdistinct state).2 (heq ▸ List.mem_map_of_mem hrow)
  refine ⟨hepsilon, fun c _ => ?_⟩
  -- All rows that match take the head of the input.
  have hhead : ∀ x ∈ (t.choices c).map (·.filter.input), some x = c.head? := by
    rintro x hx
    obtain ⟨row, hrow, rfl⟩ := List.mem_map.1 hx
    obtain ⟨hmem, haccepts⟩ := mem_choices.1 hrow
    have hinput := (Bool.and_eq_true_iff.1 haccepts).1
    rw [decide_eq_false (hepsilon _ row hmem), Bool.false_or] at hinput
    exact (of_decide_eq_true hinput).symm
  have hnodup : ((t.choices c).map (·.filter.input)).Nodup :=
    (hdistinct c.state).1.sublist (List.filter_sublist.map _)
  rw [← List.length_map (·.filter.input)]
  generalize (t.choices c).map (·.filter.input) = inputs at hhead hnodup
  match inputs with
  | [] => exact Nat.zero_le 1
  | [x] => exact Nat.le_refl 1
  | x :: y :: rest =>
    have hsame : x = y := Option.some.inj ((hhead x (by simp)).trans (hhead y (by simp)).symm)
    exact absurd (hsame ▸ List.mem_cons_self) (List.nodup_cons.1 hnodup).1

/-- Nor do two rows match where there are further channels, since no row reads them. -/
theorem Deterministic.length_choices_le (hdet : t.Deterministic) (ht : t.IsLowered)
    (hc : t.Fits c) : (t.choices c).length ≤ 1 := by
  have hchoices : t.choices { c with channels := c.channels.take t.stackCount.toNat } =
      t.choices c := by
    refine List.filter_congr fun e he => ?_
    obtain ⟨_, _, cs, hlowered⟩ := ht.entry c.state e he
    have hreads : e.filter.reads.length ≤ t.stackCount.toNat := by
      rw [hlowered.filter, Filter.length_reads_padded]
      simpa using hlowered.narrow
    unfold Filter.accepts
    rw [Configuration.tops, List.map_take, Filter.readsFit_take hreads]
    rfl
  rw [← hchoices]
  exact hdet.single _ (List.length_take_of_le hc)

theorem Deterministic.eq_of_fires (hdet : t.Deterministic) (ht : t.IsLowered) (hc : t.Fits c)
    (h : t.Fires c e d) (h' : t.Fires c e' d') : d = d' := by
  have hsame : e = e' := by
    have hsingle := hdet.length_choices_le ht hc
    obtain ⟨row, hrow⟩ : ∃ row, t.choices c = [row] :=
      List.length_eq_one_iff.1 (Nat.le_antisymm hsingle (List.length_pos_of_mem h.1))
    have hmem := h.1
    have hmem' := h'.1
    rw [hrow, List.mem_singleton] at hmem hmem'
    exact hmem.trans hmem'.symm
  subst hsame
  exact Except.ok.inj (h.2.symm.trans h'.2)

/-- No path leads on from where nothing matches. -/
theorem Path.eq_of_stuck (h : t.Path c es d) (hc : t.choices c = []) : d = c := by
  cases h with
  | nil => rfl
  | cons hfirst _ => exact absurd hfirst.1 (hc ▸ List.not_mem_nil)

/-- **Paths that end where nothing matches end alike.** -/
theorem Path.stuck_unique (hdet : t.Deterministic) (ht : t.IsLowered) (hc : t.Fits c)
    (h : t.Path c es d) (h' : t.Path c es' d') (hd : t.choices d = []) (hd' : t.choices d' = []) :
    d = d' := by
  induction h generalizing es' with
  | nil c => exact (h'.eq_of_stuck hd).symm
  | cons hfirst hrest ih =>
    cases h' with
    | nil => exact absurd hfirst.1 (hd' ▸ List.not_mem_nil)
    | cons hfirst' hrest' =>
      obtain rfl := hdet.eq_of_fires ht hc hfirst hfirst'
      exact ih (hfirst.fits hc) hrest' hd

theorem Deterministic.choices_of_no_input (hdet : t.Deterministic) (hc : c.input = []) :
    t.choices c = [] := by
  refine List.eq_nil_iff_forall_not_mem.2 fun e he => ?_
  obtain ⟨hmem, haccepts⟩ := mem_choices.1 he
  have hnone : c.head? = none := by rw [Configuration.head?, hc]; rfl
  simp [Filter.accepts, hnone, hdet.no_epsilon _ e hmem] at haccepts

theorem Deterministic.input_of_fires (hdet : t.Deterministic) (ht : t.IsLowered)
    (h : t.Fires c e d) : c.input = e.label :: d.input := by
  obtain ⟨target, _, cs, hlowered⟩ := ht.entry c.state e (mem_choices.1 h.1).1
  have hlabel : e.label ≠ epsilon := by
    have := hdet.no_epsilon c.state e (mem_choices.1 h.1).1
    rwa [hlowered.filter] at this
  rw [(ht.fires h).2, taken, if_neg hlabel]
  rfl

/-- Without pushes, whatever fires has less to do. -/
theorem Deterministic.workload_of_fires (hdet : t.Deterministic) (ht : t.IsLowered)
    (hpushes : ∀ x, ¬ t.Pushes x) (h : t.Fires c e d) : d.workload < c.workload := by
  have hchannels : d.channels.flatten.length ≤ c.channels.flatten.length :=
    Op.keep_of_applyAll
      (R := fun c d => d.channels.flatten.length ≤ c.channels.flatten.length)
      (fun _ => Nat.le_refl _) (fun _ _ _ hbc hcd => hcd.trans hbc)
      (fun op hop _ _ happly => Op.channels_of_apply
        (fun channel x heq => hpushes x ⟨_, e, (mem_choices.1 h.1).1, channel, heq ▸ hop⟩) happly)
      h.2
  have hinput := congrArg List.length (hdet.input_of_fires ht h)
  rw [List.length_cons] at hinput
  unfold Configuration.workload
  omega

end Compiled

/-! ## Searches in a deterministic table -/

namespace Search

variable {plan : Plan} {s r : Snapshot} {bs : List Branch} {st st' : State} {n fuel : Nat}
  {v : Verdict} {told : List String}

/-- The search from `s` stands so after expanding `bs`: at most one branch is pending, and every expansion
before it took a symbol. -/
structure Chained (plan : Plan) (s : Snapshot) (bs : List Branch) (st : State) : Prop where
  logged : Logged plan s bs st
  single : st.pending.length ≤ 1
  fits : ∀ b ∈ st.pending, plan.table.Fits b.shot.config
  expanded : bs.length ≤ s.config.input.length + 1
  taken : ∀ b ∈ st.pending, b.shot.config.input.length + bs.length ≤ s.config.input.length

namespace Chained

theorem seed (hs : s.halted = false) (hfits : plan.table.Fits s.config) :
    Chained plan s [] (State.seed s) where
  logged := .seed hs
  single := Nat.le_refl 1
  fits := by simpa [State.seed] using hfits
  expanded := Nat.zero_le _
  taken := by simp [State.seed]

/-- A single branch is followed by a single branch, whose configuration has a symbol less to take. -/
theorem expand (h : Chained plan s bs st) (ht : plan.table.IsLowered)
    (hdet : plan.table.Deterministic) {b : Branch} {rest : List Branch}
    (hpicks : Picks plan st b rest)
    (hpasses : ∀ e ∈ plan.table.choices b.shot.config, plan.table.Passes b.shot.config e)
    (hexpands : Expands plan st b rest st') : Chained plan s (bs ++ [b]) st' := by
  have hb : b ∈ st.pending := by simp [hpicks.pending]
  have hrest : rest = [] := by
    have := h.single
    rw [hpicks.pending, List.length_cons] at this
    exact List.eq_nil_of_length_eq_zero (by omega)
  have hfits := h.fits b hb
  have htaken := h.taken b hb
  refine
    { logged := h.logged.expand hpicks hpasses hexpands
      single := ?_
      fits := ?_
      expanded := ?_
      taken := ?_ }
  · rw [← List.length_map (·.shot), hexpands.map_shot, hrest, List.map_nil, List.append_nil,
      List.length_reverse]
    exact (List.length_filterMap_le _ _).trans (hdet.length_choices_le ht hfits)
  · exact hexpands.forall_pending (P := fun r => plan.table.Fits r.config) hpicks h.fits
      fun r hr _ => (Snapshot.fires_of_mem_successors hr).elim fun _ he => he.fits hfits
  · rw [List.length_append, List.length_singleton]
    omega
  · intro x hx
    have hmem : x.shot ∈ b.shot.successors plan.table := by
      have := List.mem_map_of_mem (f := (·.shot)) hx
      rw [hexpands.map_shot, hrest, List.map_nil, List.append_nil] at this
      exact List.mem_reverse.1 this
    obtain ⟨e, he⟩ := Snapshot.fires_of_mem_successors hmem
    have hinput := congrArg List.length (hdet.input_of_fires ht he)
    rw [List.length_cons] at hinput
    rw [List.length_append, List.length_singleton]
    omega

theorem advance (h : Chained plan s bs st) (ht : plan.table.IsLowered)
    (hdet : plan.table.Deterministic) (hadvance : st.advance plan = .ok st') :
    Chained plan s (bs ++ (st.next? plan).toList) st' := by
  have hround := State.round_advance plan h.logged.pending_halted
  rw [hadvance] at hround
  cases hround with
  | @drops b rest hpending hspent hprune hknown =>
    have hmem : ∀ x ∈ rest, x ∈ st.pending := fun x hx => by simp [hpending, hx]
    have hsingle := h.single
    rw [hpending, List.length_cons] at hsingle
    rw [next?_of_known hpending hprune hknown, Option.toList_none, List.append_nil]
    exact
      { logged := h.logged.drop hpending hprune hknown
        single := Nat.le_of_succ_le hsingle
        fits := fun x hx => h.fits x (hmem x hx)
        expanded := h.expanded
        taken := fun x hx => h.taken x (hmem x hx) }
  | expands hpicks hpasses hexpands =>
    rw [hpicks.next?]
    exact h.expand ht hdet hpicks hpasses hexpands

/-- A budget that exceeds the input by one is not used up while something is pending. -/
theorem unspent (h : Chained plan s bs st) (hpending : st.pending ≠ [])
    (hbudget : plan.budget = 0 ∨ (s.config.input.length + 1 : Int) ≤ plan.budget) :
    st.isSpent plan = false := by
  obtain ⟨b, hb⟩ := List.exists_mem_of_ne_nil _ hpending
  have htaken := h.taken b hb
  rw [State.isSpent, Plan.isSpent, h.logged.rounds, Bool.and_eq_false_imp]
  intro hlimited
  have hlimited := of_decide_eq_true hlimited
  refine decide_eq_false ?_
  omega

end Chained

theorem Rounds.chained (h : Rounds plan n (State.seed s) bs st) (hs : s.halted = false)
    (ht : plan.table.IsLowered) (hdet : plan.table.Deterministic)
    (hfits : plan.table.Fits s.config) : Chained plan s bs st := by
  simpa using h.keep [] (fun _ _ _ hchained => hchained.advance ht hdet) (.seed hs hfits)

/-- A search with a budget that exceeds the input by one is not cut short. -/
theorem not_cutShort (hs : s.halted = false) (ht : plan.table.IsLowered)
    (hdet : plan.table.Deterministic) (hfits : plan.table.Fits s.config)
    (hbudget : plan.budget = 0 ∨ (s.config.input.length + 1 : Int) ≤ plan.budget) :
    start plan fuel s ≠ some ⟨.settled .cutShort r, told⟩ := by
  intro h
  unfold start at h
  split at h
  · cases h
  · obtain ⟨n, bs, st, _, hrounds, herror, _⟩ := State.run_eq_some h
    have hchained := hrounds.chained hs ht hdet hfits
    have hround := State.round_advance plan hchained.logged.pending_halted
    rw [herror] at hround
    cases hround with
    | cutShort told hpending hspent =>
      rw [hchained.unspent hpending hbudget] at hspent
      cases hspent

/-- **If whatever fires has less to do, a search that ran dry ends where nothing matches.** What it
settles on has been expanded, and what it was expanded to would be lighter. -/
theorem Settling.stuck_of_ranDry (hs : s.halted = false) (h : Settling plan fuel s .ranDry r)
    (hlighter : ∀ c e d, plan.table.Fires c e d → d.workload < c.workload) :
    plan.table.choices r.config = [] := by
  cases h with
  | @ranDry n bs st hn hrounds hpending hstart hexpansions =>
    have hlogged := hrounds.logged hs
    have hwithin := (hrounds.reached hs).within hlogged.unmarked
    have hbest := List.mem_of_getElem? hlogged.best.at_place
    obtain ⟨b, hb, hfoot⟩ := hlogged.exists_expanded hpending _ hbest
    have hconfig : b.shot.config = st.best.shot.config :=
      Snapshot.config_eq_of_footprint (r := st.best.shot.unmarked)
        (hwithin _ (List.mem_of_getElem? (hlogged.expanded b hb))) (hwithin _ hbest) hfoot
    refine List.eq_nil_iff_forall_not_mem.2 fun e he => ?_
    rw [← hconfig] at he
    obtain ⟨d, hd, _⟩ := hlogged.passes b hb e he
    have hmade : { b.shot with config := d }.record e.label ∈ madeBy plan.table s bs :=
      List.mem_cons_of_mem _ (List.mem_flatMap.2
        ⟨b, hb, Snapshot.mem_after_iff.2 ⟨e, he, Snapshot.apply_of_action hd⟩⟩)
    have hleast := hlogged.best.lightest _ hmade
    have hless := hlighter _ e d ⟨he, hd⟩
    simp only [Snapshot.workload, Snapshot.record_config, Snapshot.unmarked_config] at hleast
    rw [hconfig] at hless
    omega

end Search

/-- The statement of `.q -[b,a]> (r) -[b,a]> r;`. -/
def popping : List Statement := [
  ⟨[.state ⟨"q", true, false, some ⟨1, 1⟩⟩,
    .transition ⟨"b", .right, [⟨some "a", none⟩], some ⟨1, 6⟩⟩,
    .state ⟨"r", false, true, some ⟨1, 12⟩⟩,
    .transition ⟨"b", .right, [⟨some "a", none⟩], some ⟨1, 18⟩⟩,
    .state ⟨"r", false, false, some ⟨1, 24⟩⟩], some ⟨1, 1⟩⟩]

/-- The table of `popping`, which takes as many `b` as there are `a` on its stack. -/
def popper : Compiled where
  initial := "q"
  transitions :=
    [("q", [⟨"b", ⟨"b", [some "a"]⟩, ⟨"r", [.consume, .pop 0, .set "r"]⟩, some ⟨1, 6⟩⟩]),
    ("r", [⟨"b", ⟨"b", [some "a"]⟩, ⟨"r", [.consume, .pop 0, .set "r"]⟩, some ⟨1, 18⟩⟩])]
  accepting := ["r"]
  stackCount := 1
  states := ["q", "r"]
  labels := ["b"]

theorem popper_deterministic : popper.Deterministic :=
  Compiled.deterministic_of_distinct (by decide)

/-! ## Dispatching and firing -/

/-- Without those that take input, operations do the same with any input. -/
theorem Op.applyAll_without_consume {ops : List Op} {c d : Configuration}
    (h : applyAll ops c = .ok d) (input : List String) :
    applyAll (ops.filter (· ≠ .consume)) { c with input } = .ok { d with input } := by
  induction ops generalizing c with
  | nil =>
    obtain rfl : c = d := Except.ok.inj h
    rfl
  | cons op ops ih =>
    obtain ⟨b, hb, hd⟩ := applyAll_cons_eq_ok.1 h
    have hrest := ih hd
    cases op with
    | consume =>
      obtain rfl : _ = b := Option.some.inj hb
      exact hrest
    | set state =>
      obtain rfl : _ = b := Option.some.inj hb
      exact hrest
    | pop channel =>
      obtain ⟨i, hi, rfl⟩ := Option.map_eq_some_iff.1 hb
      exact applyAll_cons_eq_ok.2 ⟨_, Option.map_eq_some_iff.2 ⟨i, hi, rfl⟩, hrest⟩
    | push channel x =>
      obtain ⟨i, hi, rfl⟩ := Option.map_eq_some_iff.1 hb
      exact applyAll_cons_eq_ok.2 ⟨_, Option.map_eq_some_iff.2 ⟨i, hi, rfl⟩, hrest⟩

namespace Machine

/-- The machine behind labels that are dispatched one after the other. -/
def drive (depth : Nat) (m : Machine) (w : List String) : Machine :=
  w.foldl (fun m label => (dispatch depth label m).machine) m

/-- Whether labels that are dispatched one after the other fire a row every time, without an error. -/
def firesAll (depth : Nat) : Machine → List String → Bool
  | _, [] => true
  | m, label :: w =>
    (m.firing? label).isSome && (dispatch depth label m).error.isNone &&
      firesAll depth (dispatch depth label m).machine w

/-- A machine with a compiled deterministic table, all its channels and quiet listeners. -/
structure Drivable (m : Machine) : Prop where
  lowered : m.table.IsLowered
  deterministic : m.table.Deterministic
  fits : m.table.Fits m.config
  quiet : m.Quiet

variable {m : Machine} {depth : Nat} {label : String} {e : Entry} {u v w : List String}

theorem mem_choices_of_firing? (h : m.firing? label = some e) (rest : List String) :
    e ∈ m.table.choices (m.fed (label :: rest)) := by
  have hfires := List.find?_some h
  rw [Bool.and_eq_true] at hfires
  exact Compiled.mem_choices.2 ⟨firing?_mem h, hfires.2⟩

/-- Where no row takes epsilon, a label that fires nothing is matched by nothing. -/
theorem choices_of_not_firing? (hdet : m.table.Deterministic) (h : m.firing? label = none)
    (rest : List String) : m.table.choices (m.fed (label :: rest)) = [] := by
  refine List.eq_nil_iff_forall_not_mem.2 fun e he => ?_
  obtain ⟨hmem, haccepts⟩ := Compiled.mem_choices.1 he
  have hnot := List.find?_eq_none.1 h e hmem
  have haccepts' : e.filter.accepts (some label) m.config.tops = true := haccepts
  rw [haccepts', Bool.and_true] at hnot
  have hinput := (Bool.and_eq_true_iff.1 haccepts').1
  simp only [Bool.or_eq_true, decide_eq_true_eq] at hinput
  rcases hinput with hepsilon | hlabel
  · exact hdet.no_epsilon _ e hmem hepsilon
  · exact hnot (by simpa using (Option.some.inj hlabel).symm)

/-- **A dispatch that fires does what firing does, but for the input.** -/
theorem Drivable.step (hm : m.Drivable) (h : m.firing? label = some e) (depth : Nat)
    (rest : List String) :
    (dispatch (depth + 1) label m).error = none ∧
      (dispatch (depth + 1) label m).machine.Drivable ∧
      (dispatch (depth + 1) label m).machine.table = m.table ∧
      m.table.Fires (m.fed (label :: rest)) e ((dispatch (depth + 1) label m).machine.fed rest) := by
  have hchoice := mem_choices_of_firing? h rest
  obtain ⟨d, hd⟩ := hm.lowered.exists_fires (c := m.fed (label :: rest)) hm.fits hchoice
  have hrest : d.input = rest :=
    (List.cons.inj (hm.deterministic.input_of_fires hm.lowered hd)).2.symm
  have happly : e.action.apply false m.config = .ok { d with input := m.config.input } :=
    Op.applyAll_without_consume hd.2 m.config.input
  obtain ⟨told, htold⟩ := tell_eq m .verboseDispatch fun _ =>
    "dispatch '" ++ label ++ "': " ++ m.config.state ++ " -> " ++ e.action.target
  have hquiet : Quiet { m with
    config := { d with input := m.config.input }, halted := false, told := told } := hm.quiet
  rw [dispatch, h]
  simp only [htold, happly]
  rw [notify_of_quiet hquiet]
  refine ⟨rfl, ⟨hm.lowered, hm.deterministic, ?_, hm.quiet⟩, rfl, ?_⟩
  · exact (hd.fits (c := m.fed (label :: rest)) hm.fits :)
  · subst hrest
    exact hd

theorem firesAll_cons : m.firesAll depth (label :: w) = true ↔
    (∃ e, m.firing? label = some e) ∧ (dispatch depth label m).error = none ∧
      (dispatch depth label m).machine.firesAll depth w = true := by
  rw [firesAll, Bool.and_eq_true, Bool.and_eq_true, Option.isSome_iff_exists, Option.isNone_iff_eq_none,
    and_assoc]

/-- **Labels that all fire lead along a path.** -/
theorem Drivable.path (hm : m.Drivable) (h : m.firesAll (depth + 1) u = true) (v : List String) :
    (m.drive (depth + 1) u).Drivable ∧ (m.drive (depth + 1) u).table = m.table ∧
      ∃ es, m.table.Path (m.fed (u ++ v)) es ((m.drive (depth + 1) u).fed v) := by
  induction u generalizing m with
  | nil => exact ⟨hm, rfl, [], .nil _⟩
  | cons label u ih =>
    obtain ⟨⟨e, he⟩, _, hrest⟩ := firesAll_cons.1 h
    obtain ⟨_, hnext, htable, hfires⟩ := hm.step he depth (u ++ v)
    obtain ⟨hend, htable', es, hpath⟩ := ih hnext hrest
    rw [htable] at htable' hpath
    exact ⟨hend, htable', e :: es, .cons hfires hpath⟩

/-- `u` is the longest beginning of `w` whose labels all fire. -/
structure LongestFiring (depth : Nat) (m : Machine) (w u : List String) : Prop where
  beginning : u <+: w
  fires : m.firesAll depth u = true
  longest : ∀ u', u' <+: w → m.firesAll depth u' = true → u' <+: u

theorem Drivable.exists_longestFiring (hm : m.Drivable) (depth : Nat) (w : List String) :
    ∃ u v, w = u ++ v ∧ m.LongestFiring (depth + 1) w u ∧
      ∀ label rest, v = label :: rest → (m.drive (depth + 1) u).firing? label = none := by
  induction w generalizing m with
  | nil => exact ⟨[], [], rfl, ⟨List.prefix_rfl, rfl, fun _ h _ => h⟩, fun _ _ h => nomatch h⟩
  | cons label w ih =>
    cases hfiring : m.firing? label with
    | none =>
      refine ⟨[], label :: w, rfl, ⟨List.nil_prefix, rfl, fun u' hu' hfires => ?_⟩, ?_⟩
      · rcases List.prefix_cons_iff.1 hu' with rfl | ⟨u'', rfl, _⟩
        · exact List.prefix_rfl
        · obtain ⟨⟨e, he⟩, _⟩ := firesAll_cons.1 hfires
          rw [hfiring] at he
          cases he
      · intro label' rest h
        obtain ⟨rfl, rfl⟩ := List.cons.inj h
        exact hfiring
    | some e =>
      obtain ⟨herror, hnext, _, _⟩ := hm.step hfiring depth []
      obtain ⟨u, v, rfl, hlongest, hv⟩ := ih hnext
      refine ⟨label :: u, v, rfl, ⟨?_, ?_, fun u' hu' hfires => ?_⟩, hv⟩
      · exact List.prefix_append (label :: u) v
      · exact firesAll_cons.2 ⟨⟨e, hfiring⟩, herror, hlongest.fires⟩
      · rcases List.prefix_cons_iff.1 hu' with rfl | ⟨u'', rfl, hu''⟩
        · exact List.nil_prefix
        · exact List.prefix_cons_inj _ |>.2 (hlongest.longest u'' hu'' (firesAll_cons.1 hfires).2.2)

/-- With budget enough a search ends, and not because it was cut short. -/
theorem Drivable.exists_ends (hm : m.Drivable) (w : List String)
    (hsteps : m.maxSteps = 0 ∨ (w.length + 1 : Int) ≤ m.maxSteps) :
    ∃ v s, v ≠ .cutShort ∧ m.Ends w v s := by
  have hfits : m.plan.table.Fits (m.seed w).config := hm.fits
  obtain ⟨v, s, n, hends⟩ := Machine.exists_ends (w := w) (w.length + 1) hm.lowered hm.fits
    fun n bs st h => (h.chained rfl hm.lowered hm.deterministic hfits).expanded
  refine ⟨v, s, ?_, n, hends⟩
  rintro rfl
  obtain ⟨told, hstart⟩ := hends n (Nat.le_refl n)
  exact Search.not_cutShort rfl hm.lowered hm.deterministic hfits hsteps hstart

/-- Nothing matches behind the longest beginning whose labels fire, with the rest as input. -/
theorem Drivable.choices_drive (hm : m.Drivable)
    (h : ∀ label rest, v = label :: rest → m.firing? label = none) :
    m.table.choices (m.fed v) = [] := by
  cases v with
  | nil => exact hm.deterministic.choices_of_no_input rfl
  | cons label rest => exact choices_of_not_firing? hm.deterministic (h label rest rfl) rest

/-- What a search settles on is stuck if it is final, or if nothing is ever pushed. -/
theorem Drivable.choices_settled (hm : m.Drivable) {fuel : Nat} {verdict : Verdict} {s : Snapshot}
    (h : m.Settles fuel w verdict s) (hverdict : verdict ≠ .cutShort)
    (hs : m.table.isFinal s.config = true ∨ ∀ x, ¬ m.table.Pushes x) :
    m.table.choices s.config = [] := by
  have hstuck : m.table.isFinal s.config = true → m.table.choices s.config = [] := fun hfinal =>
    hm.deterministic.choices_of_no_input (Compiled.isFinal_iff.1 hfinal).1
  rcases hs with hfinal | hpushes
  · exact hstuck hfinal
  cases verdict with
  | accepted =>
    refine hstuck ?_
    cases h.settling with
    | atOnce hfinal => exact hfinal
    | accepted _ _ _ _ _ _ hfinal => exact hfinal
  | ranDry =>
    exact h.settling.stuck_of_ranDry rfl fun _ _ _ hfires =>
      hm.deterministic.workload_of_fires hm.lowered hpushes hfires
  | cutShort => exact absurd rfl hverdict

section Settled

variable {fuel : Nat} {verdict : Verdict} {s : Snapshot}

/-- Both ways end where nothing matches, so they end alike. -/
theorem Drivable.settled_eq_drive (hm : m.Drivable) (h : m.Settles fuel w verdict s)
    (hverdict : verdict ≠ .cutShort)
    (hs : m.table.isFinal s.config = true ∨ ∀ x, ¬ m.table.Pushes x) (depth : Nat) :
    ∃ u v, w = u ++ v ∧ m.LongestFiring (depth + 1) w u ∧
      s.config = (m.drive (depth + 1) u).fed v := by
  obtain ⟨u, v, rfl, hlongest, hnext⟩ := hm.exists_longestFiring depth w
  obtain ⟨hdriven, htable, es, hdrive⟩ := hm.path hlongest.fires v
  have hstuck := hdriven.choices_drive hnext
  rw [htable] at hstuck
  obtain ⟨es', hpath⟩ : ∃ es', m.table.Path (m.fed (u ++ v)) es' s.config := h.settling.path rfl
  have hfits : m.table.Fits (m.fed (u ++ v)) := hm.fits
  exact ⟨u, v, rfl, hlongest,
    hpath.stuck_unique hm.deterministic hm.lowered hfits hdrive
      (hm.choices_settled h hverdict hs) hstuck⟩

theorem Drivable.settled_of_final (hm : m.Drivable) (h : m.Settles fuel w verdict s)
    (hverdict : verdict ≠ .cutShort) (hfinal : m.table.isFinal s.config = true) (depth : Nat) :
    m.firesAll (depth + 1) w = true ∧ s.config = (m.drive (depth + 1) w).fed [] := by
  obtain ⟨u, v, rfl, hlongest, hconfig⟩ := hm.settled_eq_drive h hverdict (Or.inl hfinal) depth
  obtain rfl : v = [] := by
    have := (Compiled.isFinal_iff.1 hfinal).1
    rwa [hconfig] at this
  rw [List.append_nil]
  exact ⟨hlongest.fires, hconfig⟩

theorem Drivable.final_iff (hm : m.Drivable) (h : m.Settles fuel w verdict s)
    (hverdict : verdict ≠ .cutShort) (depth : Nat) :
    m.table.isFinal s.config = true ↔ m.firesAll (depth + 1) w = true ∧
      m.table.accepts (m.drive (depth + 1) w).config.state = true := by
  constructor
  · intro hfinal
    obtain ⟨hfires, hconfig⟩ := hm.settled_of_final h hverdict hfinal depth
    have hstate := (Compiled.isFinal_iff.1 hfinal).2
    rw [hconfig] at hstate
    exact ⟨hfires, hstate⟩
  · rintro ⟨hfires, hstate⟩
    obtain ⟨_, _, es, hpath⟩ := hm.path hfires []
    rw [List.append_nil] at hpath
    exact (h.settling.final_iff rfl hverdict).2 ⟨es, _, hpath, Compiled.isFinal_iff.2 ⟨rfl, hstate⟩⟩

end Settled

/-- **Dispatching labels one after the other agrees with searching them as a whole.** Let a compiled table
be deterministic, whatever state and stacks the machine is in, and let its budget be none or exceed the
labels by one. Then `consume` returns without an error. It ends accepting if and only if dispatching the
labels fires a row every time and ends in an accepting state, and then both come to the same state and the
same stacks. And if no row pushes, then `consume` ends in any case in the state and the stacks behind the
longest beginning of the labels that fires throughout, with the other labels as input. -/
theorem consume_iff_drive {cap : Capacity} (m : Machine) (w : List String) {settings : Settings}
    {ss : List Statement} (hcompiled : (compileStatements cap settings ss).result = .ok m.table)
    (hfits : m.table.Fits m.config) (hquiet : m.Quiet) (hdet : m.table.Deterministic)
    (hsteps : m.maxSteps = 0 ∨ (w.length + 1 : Int) ≤ m.maxSteps) :
    ∃ n, ∀ fuel depth depth', n ≤ fuel →
      (m.consume fuel depth w).error = none ∧
      ((m.consume fuel depth w).machine.inAcceptState = true ↔
        m.firesAll (depth' + 1) w = true ∧
          m.table.accepts (m.drive (depth' + 1) w).config.state = true) ∧
      ((m.consume fuel depth w).machine.inAcceptState = true →
        (m.consume fuel depth w).machine.config.state = (m.drive (depth' + 1) w).config.state ∧
        (m.consume fuel depth w).machine.config.channels =
          (m.drive (depth' + 1) w).config.channels) ∧
      ((∀ x, ¬ m.table.Pushes x) → ∃ u v, w = u ++ v ∧ m.LongestFiring (depth' + 1) w u ∧
        (m.consume fuel depth w).machine.config = (m.drive (depth' + 1) u).fed v) := by
  have hm : m.Drivable := ⟨isLowered_of_compiled hcompiled, hdet, hfits, hquiet⟩
  obtain ⟨verdict, s, hverdict, n, hends⟩ := hm.exists_ends w hsteps
  refine ⟨n, fun fuel depth depth' hfuel => ?_⟩
  have hsettles := hends fuel hfuel
  obtain ⟨herror, htable, hconfig, _⟩ := consume_of_quiet depth hquiet hsettles
  have haccepts : (m.consume fuel depth w).machine.inAcceptState = m.table.isFinal s.config := by
    rw [inAcceptState, htable, hconfig]
    rfl
  rw [haccepts, hconfig]
  refine ⟨herror, hm.final_iff hsettles hverdict depth', fun hfinal => ?_, fun hpushes => ?_⟩
  · rw [(hm.settled_of_final hsettles hverdict hfinal depth').2]
    exact ⟨rfl, rfl⟩
  · exact hm.settled_eq_drive hsettles hverdict (Or.inr hpushes) depth'

/-- A machine over `popper` with two symbols stacked up takes two labels, whether they are searched or
dispatched. -/
theorem popper_consumes_as_driven : ∃ n, ∀ fuel depth, n ≤ fuel →
    (({ Machine.new popper {} none none with config := ⟨"q", [["a", "a"]], []⟩ } : Machine).consume
      fuel depth ["b", "b"]).machine.inAcceptState = true := by
  have hcompiled : (compileStatements .ample {} popping).result = .ok popper := by cbv
  obtain ⟨n, hn⟩ := consume_iff_drive
    { Machine.new popper {} none none with config := ⟨"q", [["a", "a"]], []⟩ } ["b", "b"] hcompiled
    (by simp [Compiled.Fits, popper, Machine.new]) (by simp [Quiet, Machine.new])
    popper_deterministic (Or.inr (by decide))
  refine ⟨n, fun fuel depth hfuel => (hn fuel depth 0 hfuel).2.1.2 ⟨?_, ?_⟩⟩
  · cbv
  · cbv

end Machine

end ArrowMachine
