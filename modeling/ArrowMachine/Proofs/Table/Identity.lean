import ArrowMachine.Proofs.Run.Effect
import Mathlib.Data.List.DropRight

/-!
What tells filters, actions and edges apart.

Two filters have one key exactly if they accept in the same situations (`Filter.key_eq_iff_accepts`), and
two lowered transitions are one action exactly if they do the same to every configuration that has their
channels (`Action.build_eq_iff`). So one edge repeats another exactly if they start at the same place,
apply in the same situations and do the same (`Edge.repeats_iff_alike`), and for this a statement is
refused (`identity_extensional`).
-/
namespace ArrowMachine

/-! ## Filters -/

namespace Filter

variable {f g : Filter} {rs rs' : List (Option String)}

theorem trimReads_eq_rdropWhile (rs : List (Option String)) :
    trimReads rs = rs.rdropWhile (·.isNone) := rfl

theorem getD_trimReads (rs : List (Option String)) (i : Nat) :
    (trimReads rs).getD i none = rs.getD i none := by
  rw [trimReads_eq_rdropWhile]
  induction rs using List.reverseRecOn with
  | nil => rw [List.rdropWhile_nil]
  | append_singleton rs r ih =>
    cases r with
    | some x => rw [List.rdropWhile_concat_neg _ _ _ (by simp)]
    | none =>
      rw [List.rdropWhile_concat_pos _ _ _ rfl, ih]
      rcases Nat.lt_trichotomy i rs.length with hlt | rfl | hgt
      · rw [List.getD_append _ _ _ _ hlt]
      · simp
      · rw [List.getD_eq_default _ _ (by omega), List.getD_eq_default _ _ (by simp; omega)]

/-- Of two trimmed lists with the same reads, none is longer: its last read is there. -/
theorem length_trimReads_le (h : ∀ i, rs.getD i none = rs'.getD i none) :
    (trimReads rs).length ≤ (trimReads rs').length := by
  by_contra hless
  have hne : trimReads rs ≠ [] := fun hnil => hless (by simp [hnil])
  have hlast : ¬ ((trimReads rs).getLast hne).isNone = true := List.rdropWhile_last_not _ _ hne
  have hlength : (trimReads rs).length - 1 < (trimReads rs).length := by omega
  rw [List.getLast_eq_getElem, ← List.getD_eq_getElem _ none] at hlast
  refine hlast ?_
  rw [getD_trimReads, h, ← getD_trimReads, List.getD_eq_default _ _ (by omega)]
  rfl

/-- Trimmed lists are the same exactly if they have the same reads. -/
theorem trimReads_eq_iff :
    trimReads rs = trimReads rs' ↔ ∀ i, rs.getD i none = rs'.getD i none := by
  constructor
  · intro h i
    rw [← getD_trimReads, h, getD_trimReads]
  · intro h
    have hlength : (trimReads rs).length = (trimReads rs').length :=
      Nat.le_antisymm (length_trimReads_le h) (length_trimReads_le fun i => (h i).symm)
    refine List.ext_getElem hlength fun i hi hi' => ?_
    rw [← List.getD_eq_getElem _ none hi, ← List.getD_eq_getElem _ none hi', getD_trimReads,
      getD_trimReads, h]

/-- What the filter asks of a channel. -/
def demand (f : Filter) (i : Nat) : Option String := normalRead (f.reads.getD i none)

theorem getD_map_normalRead (f : Filter) (i : Nat) :
    (f.reads.map normalRead).getD i none = f.demand i := by
  rw [show (none : Option String) = normalRead none from rfl, List.getD_map, demand]

/-- The key of a filter is its input with its demands. -/
theorem key_eq_iff : f.key = g.key ↔ f.input = g.input ∧ ∀ i, f.demand i = g.demand i := by
  simp only [key, mk.injEq, trimReads_eq_iff, getD_map_normalRead]

theorem readFits_iff {r top : Option String} :
    readFits r top = true ↔ ∀ x, normalRead r = some x → top = some x := by
  unfold readFits
  cases normalRead r with
  | none => simp
  | some x => simp

/-- A filter accepts where its input is next and its demands are met. -/
theorem accepts_iff {head : Option String} {tops : List (Option String)} :
    f.accepts head tops = true ↔ (f.input ≠ epsilon → head = some f.input) ∧
      ∀ i x, f.demand i = some x → tops[i]?.join = some x := by
  unfold accepts
  simp only [Bool.and_eq_true, Bool.or_eq_true, decide_eq_true_eq, readsFit_iff, readFits_iff, demand,
    ne_eq, Classical.or_iff_not_imp_left]

/-- A filter accepts where nothing is there but its input and its demands, so any filter that accepts the
same situations has no other input and demands. -/
theorem demand_of_accepts (h : ∀ head tops, f.accepts head tops = g.accepts head tops) :
    (g.input ≠ epsilon → f.input = g.input) ∧ ∀ i x, g.demand i = some x → f.demand i = some x := by
  let head : Option String := if f.input = epsilon then none else some f.input
  let tops : List (Option String) := f.reads.map normalRead
  have htops : ∀ i, tops[i]?.join = f.demand i := by
    intro i
    rw [← getD_map_normalRead, List.getD_eq_getElem?_getD]
    cases tops[i]? <;> rfl
  have hself : f.accepts head tops = true := by
    refine accepts_iff.2 ⟨fun hne => if_neg hne, fun i x hx => ?_⟩
    rw [htops, hx]
  rw [h] at hself
  obtain ⟨hinput, hdemand⟩ := accepts_iff.1 hself
  refine ⟨fun hne => ?_, fun i x hx => ?_⟩
  · have hhead := hinput hne
    unfold head at hhead
    split at hhead
    · cases hhead
    · exact Option.some.inj hhead
  · rw [← htops]
    exact hdemand i x hx

/-- **Filters have one key exactly if they accept in the same situations.** -/
theorem key_eq_iff_accepts :
    f.key = g.key ↔ ∀ head tops, f.accepts head tops = g.accepts head tops := by
  rw [key_eq_iff]
  constructor
  · rintro ⟨hinput, hdemand⟩ head tops
    rw [Bool.eq_iff_iff, accepts_iff, accepts_iff, hinput]
    simp only [hdemand]
  · intro h
    obtain ⟨hinput, hdemand⟩ := demand_of_accepts h
    obtain ⟨hinput', hdemand'⟩ := demand_of_accepts fun head tops => (h head tops).symm
    constructor
    · by_cases hg : g.input = epsilon
      · by_cases hf : f.input = epsilon
        · rw [hf, hg]
        · exact (hinput' hf).symm
      · exact hinput hg
    · intro i
      refine Option.ext fun x => ⟨hdemand' i x, hdemand i x⟩

end Filter

/-! ## Actions -/

namespace Action

/-- The actions do the same to every configuration that has the channels of both. -/
def SameEffect (a b : Action) : Prop :=
  ∀ c : Configuration, a.channelsUsed ≤ c.channels.length → b.channelsUsed ≤ c.channels.length →
    ∃ d, a.apply true c = .ok d ∧ b.apply true c = .ok d

variable {target target' input input' : String} {cs cs' : List ChannelOp}

/-- A lowered transition can be applied wherever the channels exist that it uses. -/
theorem exists_apply_of_channelsUsed {c : Configuration}
    (h : (build target input cs).channelsUsed ≤ c.channels.length) :
    ∃ d, (build target input cs).apply true c = .ok d := by
  have hused := (Program.channelsUsed_le_iff (Int.natCast_nonneg _)).1 h
  rw [apply, if_pos rfl]
  refine Op.exists_applyAll fun op hop => ?_
  obtain rfl | ⟨j, _, hchannel⟩ | rfl := mem_build hop
  · exact fun _ h => by cases h
  · have hj := hused op hop j hchannel
    exact Op.inRange_of_channel hchannel (by omega)
  · exact fun _ h => by cases h

/-- The channels that a lowered transition uses are among those that it is given. -/
theorem channelsUsed_build_le (target input : String) (cs : List ChannelOp) :
    (build target input cs).channelsUsed ≤ cs.length := by
  refine (Program.channelsUsed_le_iff (Int.natCast_nonneg _)).2 fun op hop c hc => ?_
  obtain rfl | ⟨j, hj, hchannel⟩ | rfl := mem_build hop
  · cases hc
  · obtain rfl := Option.some.inj (hchannel.symm.trans hc)
    omega
  · cases hc

theorem each_eq_nil {f : ChannelOp → Nat → List Op} (h : ∀ i j, f (cs.getD i {}) j = []) (k : Nat) :
    each f cs k = [] := by
  induction cs generalizing k with
  | nil => rfl
  | cons c cs ih =>
    rw [each, ih fun i => h (i + 1)]
    exact (List.append_nil _).trans (h 0 k)

/-- Operations for each channel are the same if those for one channel are; channels that none is given for
have none. -/
theorem each_congr {f : ChannelOp → Nat → List Op} (hblank : ∀ j, f {} j = [])
    (h : ∀ i j, f (cs.getD i {}) j = f (cs'.getD i {}) j) (k : Nat) : each f cs k = each f cs' k := by
  induction cs generalizing cs' k with
  | nil => exact (each_eq_nil (fun i j => (h i j).symm.trans (hblank j)) k).symm
  | cons c cs ih =>
    cases cs' with
    | nil => exact each_eq_nil (fun i j => (h i j).trans (hblank j)) k
    | cons c' cs' => rw [each, each, show f c k = f c' k from h 0 k, ih fun i => h (i + 1)]

/-- Stacks with nothing on them tell what is pushed, and stacks with one symbol tell what is popped. -/
theorem eq_of_work {c c' : ChannelOp} (h : ∀ s, c.work s = c'.work s) (j : Nat) :
    popOf c j = popOf c' j ∧ pushOf c j = pushOf c' j := by
  have hempty : ∀ c : ChannelOp, c.work [] = (concrete c.write).toList := by
    intro c
    rw [ChannelOp.work, ChannelOp.pushed, ChannelOp.popped, List.tail_nil, ite_self, List.append_nil]
  have hwrite : concrete c.write = concrete c'.write := by
    have h := h []
    rw [hempty, hempty] at h
    simpa using congrArg List.head? h
  have hread : (concrete c.read).isSome = (concrete c'.read).isSome := by
    have h := h [""]
    rw [ChannelOp.work, ChannelOp.work, ChannelOp.pushed, ChannelOp.pushed, hwrite,
      List.append_cancel_left_eq, ChannelOp.popped, ChannelOp.popped] at h
    cases hc : (concrete c.read).isSome <;> cases hc' : (concrete c'.read).isSome <;>
      simp [hc, hc'] at h ⊢
  exact ⟨by rw [popOf, popOf, hread], by rw [pushOf, pushOf, hwrite]⟩

theorem SameEffect.outcome_eq (h : (build target input cs).SameEffect (build target' input' cs'))
    {c : Configuration} (hcs : cs.length ≤ c.channels.length) (hcs' : cs'.length ≤ c.channels.length) :
    outcome target input cs c = outcome target' input' cs' c := by
  have hused := channelsUsed_build_le target input cs
  have hused' := channelsUsed_build_le target' input' cs'
  obtain ⟨d, hd, hd'⟩ := h c (by omega) (by omega)
  rw [apply_build target input hcs] at hd
  rw [apply_build target' input' hcs'] at hd'
  exact (Except.ok.inj hd).trans (Except.ok.inj hd').symm

/-- Lowered transitions of the same effect work each channel alike. -/
theorem SameEffect.work_eq (h : (build target input cs).SameEffect (build target' input' cs'))
    (i : Nat) (s : Stack) : (cs.getD i {}).work s = (cs'.getD i {}).work s := by
  let row : List Stack := List.replicate (cs.length + cs'.length + i + 1) s
  have hlength : row.length = cs.length + cs'.length + i + 1 := List.length_replicate
  have houtcome := h.outcome_eq (c := ⟨"", row, []⟩) (by simp only; omega) (by simp only; omega)
  have hchannels := congrArg (fun c : Configuration => c.channels[i]?) houtcome
  simp only [outcome, getElem?_worked (g := ChannelOp.work) (fun _ => rfl)] at hchannels
  have hs : row[i]? = some s := by
    rw [List.getElem?_replicate, if_pos (by omega)]
  rw [hs] at hchannels
  exact Option.some.inj hchannels

/-- **Lowered transitions are one action exactly if they have the same effect.** -/
theorem build_eq_iff : build target input cs = build target' input' cs' ↔
    (build target input cs).SameEffect (build target' input' cs') := by
  constructor
  · intro h c hused _
    obtain ⟨d, hd⟩ := exists_apply_of_channelsUsed hused
    exact ⟨d, hd, h ▸ hd⟩
  · intro h
    let row : List Stack := List.replicate (cs.length + cs'.length) []
    have hlength : row.length = cs.length + cs'.length := List.length_replicate
    have houtcome := h.outcome_eq (c := ⟨"", row, [""]⟩) (by simp only; omega) (by simp only; omega)
    have htarget : target = target' := congrArg Configuration.state houtcome
    have hinput := congrArg Configuration.input houtcome
    have htake : input = epsilon ↔ input' = epsilon := by
      by_cases he : input = epsilon <;> by_cases he' : input' = epsilon <;>
        simp [outcome, he, he'] at hinput ⊢
    have hops := fun i => eq_of_work (h.work_eq i)
    rw [build, build, htarget, pops_eq_each, pops_eq_each, pushes_eq_each, pushes_eq_each,
      each_congr (fun _ => rfl) (fun i j => (hops i j).1),
      each_congr (fun _ => rfl) (fun i j => (hops i j).2)]
    simp only [htake]

end Action

/-! ## Edges of a statement -/

namespace Edge

/-- The edges start at the same place, apply in the same situations and do the same. -/
structure Alike (e f : Edge) : Prop where
  origin : e.origin.same f.origin = true
  situations : ∀ head tops, e.entry.filter.accepts head tops = f.entry.filter.accepts head tops
  effect : e.entry.action.SameEffect f.entry.action

/-- **Edges repeat each other exactly if they are alike,** if they are of transitions. -/
theorem repeats_iff_alike {e f : Edge} {t u : TransitionPart} {name name' : String}
    (he : e.entry = t.entry name) (hf : f.entry = u.entry name') : e.repeats f = true ↔ e.Alike f := by
  have haction : e.entry.action = f.entry.action ↔ e.entry.action.SameEffect f.entry.action := by
    rw [he, hf]
    exact Action.build_eq_iff
  simp only [repeats, Bool.and_eq_true, decide_eq_true_eq, Filter.key_eq_iff_accepts, haction]
  exact ⟨fun h => ⟨h.1.1, h.1.2, h.2⟩, fun h => ⟨⟨h.origin, h.situations⟩, h.effect⟩⟩

end Edge

/-- The edges that links give are of transitions. -/
theorem Link.entry_of_mem {ls : List Link} {e : Edge} (h : .ok e ∈ ls.flatMap Link.attempts) :
    ∃ (t : TransitionPart) (name : String), e.entry = t.entry name := by
  obtain ⟨l, _, hl⟩ := List.mem_flatMap.1 h
  obtain ⟨t, _, hedge | hedge⟩ := ok_mem_attempts hl
  · obtain ⟨target, _, rfl⟩ := TransitionPart.edge_eq_ok hedge
    exact ⟨t, target.name, rfl⟩
  · obtain ⟨target, _, rfl⟩ := TransitionPart.edge_eq_ok hedge
    exact ⟨t, target.name, rfl⟩

theorem Link.repeats_iff_alike {ls : List Link} {d e : Edge} (hd : .ok d ∈ ls.flatMap Link.attempts)
    (he : .ok e ∈ ls.flatMap Link.attempts) : e.repeats d = true ↔ e.Alike d := by
  obtain ⟨t, name, ht⟩ := entry_of_mem he
  obtain ⟨u, name', hu⟩ := entry_of_mem hd
  exact Edge.repeats_iff_alike ht hu

/-- Edges of links come to be collected exactly if no two of them are alike. -/
theorem Link.collect_iff_alike {ls : List Link} {es : List Edge}
    (h : ∀ e ∈ es, .ok e ∈ ls.flatMap Link.attempts) :
    collect [] (es.map .ok) = .ok es ↔ es.Pairwise fun d e => ¬ e.Alike d := by
  rw [collect_nil_eq_ok_iff]
  have halike : ∀ d ∈ es, ∀ e ∈ es, e.repeats d = false ↔ ¬ e.Alike d := by
    intro d hd e he
    rw [← repeats_iff_alike (h d hd) (h e he), Bool.not_eq_true]
  constructor
  · rintro ⟨_, hfresh⟩
    exact hfresh.imp_of_mem fun hd he hnot => (halike _ hd _ he).1 hnot
  · intro hfresh
    exact ⟨rfl, hfresh.imp_of_mem fun hd he hnot => (halike _ hd _ he).2 hnot⟩

theorem Link.not_repetition_of_mem {ls : List Link} {name label : String} {pos : Option Position} :
    .error (.of (.duplicate name label) [pos]) ∉ ls.flatMap Link.attempts := by
  intro h
  obtain ⟨l, _, hl⟩ := List.mem_flatMap.1 h
  have hedge : ∀ {t : TransitionPart} {source target : Node},
      .error (.of (.duplicate name label) [pos]) ≠ t.edge source target := by
    intro t source target
    cases target <;> simp [TransitionPart.edge, CompileError.of]
  rcases mem_attempts hl with hl | ⟨t, _, hl | hl⟩
  · simp [CompileError.of] at hl
  · exact hedge hl
  · exact hedge hl

namespace Statement

variable {token : Nat → Nat} {s : Statement} {x : Expansion} {name label : String}
  {pos : Option Position}

/-- What comes of each transition of a statement whose wildcards have the numbers of `token`. -/
def attempts (token : Nat → Nat) (s : Statement) : List (Except CompileError Edge) :=
  ((links s.parts).map (Link.renumber token)).flatMap Link.attempts

/-- Of the attempts of a framed statement, the first that is no edge, or is alike an earlier one, is an edge
from `name` by `label`. -/
def Repeats (token : Nat → Nat) (s : Statement) (name label : String) (pos : Option Position) : Prop :=
  s.isFramed = true ∧ ∃ (before : List Edge) (e : Edge) (after : List (Except CompileError Edge)),
    s.attempts token = before.map .ok ++ .ok e :: after ∧
    (before.Pairwise fun d e => ¬ e.Alike d) ∧ (∃ d ∈ before, e.Alike d) ∧
    e.origin.text = name ∧ e.entry.label = label ∧ e.entry.pos = pos

theorem collect_repetition_iff {before : List Edge} {e : Edge}
    {after : List (Except CompileError Edge)}
    (h : s.attempts token = before.map .ok ++ .ok e :: after) :
    (collect [] (before.map .ok) = .ok ([] ++ before) ∧ ∃ d ∈ [] ++ before, e.repeats d = true) ↔
      (before.Pairwise fun d e => ¬ e.Alike d) ∧ ∃ d ∈ before, e.Alike d := by
  have hbefore : ∀ d ∈ before, .ok d ∈ s.attempts token := fun d hd => by
    rw [h]
    exact List.mem_append_left _ (List.mem_map_of_mem hd)
  have he : .ok e ∈ s.attempts token := by
    rw [h]
    exact List.mem_append_right _ List.mem_cons_self
  rw [List.nil_append, Link.collect_iff_alike hbefore]
  refine and_congr_right fun _ => exists_congr fun d => and_congr_right fun hd => ?_
  exact Link.repeats_iff_alike (hbefore d hd) he

/-- **A statement is refused for a repetition exactly if it has edges that are alike,** and no error before
them. -/
theorem expandWith_eq_duplicate_iff : s.expandWith token = .error (.of (.duplicate name label) [pos]) ↔
    s.Repeats token name label pos := by
  have hpos : ∀ a b : Option Position, [a].filterMap id = [b].filterMap id ↔ a = b := by
    intro a b
    cases a <;> cases b <;> simp
  have hrepetition : ∀ e : Edge, e.repetition = .of (.duplicate name label) [pos] ↔
      e.origin.text = name ∧ e.entry.label = label ∧ e.entry.pos = pos := by
    intro e
    simp only [Edge.repetition, CompileError.of, CompileError.refused.injEq, Refusal.mk.injEq,
      Problem.duplicate.injEq, hpos, and_assoc]
  rw [expandWith_eq_error_iff, or_iff_right (by simp [CompileError.of]), collect_eq_error_iff, Repeats]
  refine and_congr_right fun _ => ?_
  constructor
  · rintro ⟨before, a, after, hattempts, hbefore, rfl | ⟨e, rfl, hrepeats, he⟩⟩
    · have hmem : .error (.of (.duplicate name label) [pos]) ∈ s.attempts token := by
        rw [attempts, hattempts]
        exact List.mem_append_right _ List.mem_cons_self
      exact absurd hmem Link.not_repetition_of_mem
    · obtain ⟨hfresh, halike⟩ := (collect_repetition_iff hattempts).1 ⟨hbefore, hrepeats⟩
      exact ⟨before, e, after, hattempts, hfresh, halike, (hrepetition e).1 he⟩
  · rintro ⟨before, e, after, hattempts, hfresh, halike, he⟩
    obtain ⟨hbefore, hrepeats⟩ := (collect_repetition_iff hattempts).2 ⟨hfresh, halike⟩
    exact ⟨before, _, after, hattempts, hbefore, Or.inr ⟨e, rfl, hrepeats, (hrepetition e).2 he⟩⟩

/-- The edges of a statement that expands are no two alike. -/
theorem pairwise_of_expandWith (h : s.expandWith token = .ok x) :
    x.edges.Pairwise fun d e => ¬ e.Alike d := by
  have hexpands := expandWith_eq_ok_iff.1 h
  have hmem : ∀ e ∈ x.edges, .ok e ∈ s.attempts token := fun e he => by
    rw [attempts, hexpands.attempts]
    exact List.mem_map_of_mem he
  exact (Link.collect_iff_alike hmem).1 (collect_nil_eq_ok_iff.2 ⟨rfl, hexpands.fresh⟩)

end Statement

/-- **Identities tell apart exactly what behaves differently.**

Two filters have one key exactly if they accept the same heads with the same tops, of any number; so adding
absent reads changes neither. Two lowered transitions are one action exactly if they do the same to every
configuration that has the channels that they use, where they do not fail.

Hence a statement is refused for a repetition exactly if two of its edges start at the same place, apply in
the same situations and do the same, if nothing is wrong before them; and where it is not refused no two
do. -/
theorem identity_extensional :
    (∀ f g : Filter, f.key = g.key ↔ ∀ head tops, f.accepts head tops = g.accepts head tops) ∧
    (∀ (f : Filter) (count : Nat), (f.padded count).key = f.key ∧
      ∀ head tops, (f.padded count).accepts head tops = f.accepts head tops) ∧
    (∀ (target target' input input' : String) (cs cs' : List ChannelOp),
      Action.build target input cs = .build target' input' cs' ↔
        (Action.build target input cs).SameEffect (.build target' input' cs')) ∧
    ∀ (token : Nat → Nat) (s : Statement),
      (∀ name label pos, s.expandWith token = .error (.of (.duplicate name label) [pos]) ↔
        s.Repeats token name label pos) ∧
      ∀ x, s.expandWith token = .ok x → x.edges.Pairwise fun d e => ¬ e.Alike d := by
  refine ⟨fun _ _ => Filter.key_eq_iff_accepts, fun f count => ?_, fun _ _ _ _ _ _ =>
    Action.build_eq_iff, fun token s => ⟨fun _ _ _ => Statement.expandWith_eq_duplicate_iff,
    fun _ => Statement.pairwise_of_expandWith⟩⟩
  have hkey := f.key_padded count
  exact ⟨hkey, Filter.key_eq_iff_accepts.1 hkey⟩

end ArrowMachine
