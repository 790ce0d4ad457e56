import ArrowMachine.Proofs.Run.Termination
import ArrowMachine.Proofs.Table.Form

/-!
Calls of a machine, one after the other.

A `Call` resets a machine, dispatches a label or searches an input, and `m.turns fuel depth calls` lists
what the calls come to. Every operation in a compiled table goes to a state of the table, addresses one of
its channels and pushes a symbol (`Compiled.IsLowered.over`), so what fires keeps a configuration within
the table. What a search has marked as stuck matches nothing and is not final
(`Search.stuck_of_halted`). Hence every call leaves a sound machine, whatever listeners dispatch in between
(`Call.leaves_turn`), and none of them fails but for a label that a strict machine refuses or for listeners
that answer each other without end (`Machine.after_calls_sound`).
-/
namespace ArrowMachine

open Search (Plan Branch State Verdict Rounds Logged madeBy)

/-! ## What fires stays within the table -/

/-- Some row of the table pushes the symbol. -/
def Compiled.Pushes (t : Compiled) (x : String) : Prop :=
  ∃ state, ∃ row ∈ t.entriesFor state, ∃ channel, Op.push channel x ∈ row.action.ops

/-- The operation goes to states of the table, addresses its channels and pushes symbols of its rows. -/
structure Op.Over (t : Compiled) (op : Op) : Prop where
  set : ∀ state, op = .set state → state ∈ t.states
  inRange : op.InRange t.stackCount.toNat
  push : ∀ channel x, op = .push channel x → x ≠ epsilon ∧ t.Pushes x

/-- The configuration has a state and the channels of the table, and on them only what its rows push. -/
structure Configuration.Over (t : Compiled) (c : Configuration) : Prop where
  state : c.state ∈ t.states
  channels : c.channels.length = t.stackCount.toNat
  symbols : ∀ stack ∈ c.channels, ∀ x ∈ stack, x ≠ epsilon ∧ t.Pushes x

theorem mem_modify {α : Type} {f : α → α} {l : List α} {i : Nat} {a : α} (h : a ∈ l.modify i f) :
    a ∈ l ∨ ∃ b ∈ l, a = f b := by
  obtain ⟨j, hj, rfl⟩ := List.mem_iff_getElem.1 h
  rw [List.getElem_modify]
  split
  · exact Or.inr ⟨_, List.getElem_mem _, rfl⟩
  · exact Or.inl (List.getElem_mem _)

section Over

variable {t : Compiled} {c d : Configuration}

theorem Op.Over.keeps {op : Op} (hop : op.Over t) (hc : c.Over t) (h : op.apply c = some d) :
    d.Over t := by
  have hchannels : d.channels.length = t.stackCount.toNat :=
    (length_channels_of_apply h).trans hc.channels
  cases op with
  | consume =>
    obtain rfl : _ = d := Option.some.inj h
    exact ⟨hc.state, hc.channels, hc.symbols⟩
  | set state =>
    obtain rfl : _ = d := Option.some.inj h
    exact ⟨hop.set state rfl, hc.channels, hc.symbols⟩
  | pop channel =>
    obtain ⟨i, _, rfl⟩ := Option.map_eq_some_iff.1 h
    refine ⟨hc.state, hchannels, fun stack hstack x hx => ?_⟩
    rcases mem_modify hstack with hstack | ⟨whole, hwhole, rfl⟩
    · exact hc.symbols stack hstack x hx
    · exact hc.symbols whole hwhole x (List.mem_of_mem_tail hx)
  | push channel y =>
    obtain ⟨i, _, rfl⟩ := Option.map_eq_some_iff.1 h
    refine ⟨hc.state, hchannels, fun stack hstack x hx => ?_⟩
    rcases mem_modify hstack with hstack | ⟨rest, hrest, rfl⟩
    · exact hc.symbols stack hstack x hx
    · rcases List.mem_cons.1 hx with rfl | hx
      · exact hop.push channel x rfl
      · exact hc.symbols rest hrest x hx

namespace Action

variable {a : Action} {consuming : Bool}

/-- With or without taking input, an action runs operations of its own. -/
theorem mem_ops_of_mem_run {op : Op}
    (h : op ∈ if consuming then a.ops else a.ops.filter (· ≠ .consume)) : op ∈ a.ops := by
  split at h
  · exact h
  · exact List.mem_of_mem_filter h

theorem over_of_apply (ha : ∀ op ∈ a.ops, op.Over t) (hc : c.Over t)
    (h : a.apply consuming c = .ok d) : d.Over t :=
  Op.keep_of_applyAll (R := fun c d => c.Over t → d.Over t) (fun _ => id)
    (fun _ _ _ hbc hcd hb => hcd (hbc hb))
    (fun op hop _ _ happly hc => (ha op (mem_ops_of_mem_run hop)).keeps hc happly) h hc

theorem exists_apply_of_over (ha : ∀ op ∈ a.ops, op.Over t) (hc : c.Over t) (consuming : Bool) :
    ∃ d, a.apply consuming c = .ok d :=
  Op.exists_applyAll fun op hop => by
    rw [hc.channels]
    exact (ha op (mem_ops_of_mem_run hop)).inRange

theorem ne_epsilon_of_mem_pushes {cs : List ChannelOp} {i : Nat} {channel : Int} {x : String}
    (h : Op.push channel x ∈ pushes cs i) : x ≠ epsilon := by
  induction cs generalizing i with
  | nil => cases h
  | cons c cs ih =>
    rcases List.mem_append.1 h with h | h
    · obtain ⟨y, hy, hpush⟩ := Option.map_eq_some_iff.1 (Option.mem_toList.1 h)
      obtain rfl : y = x := (Op.push.inj hpush).2
      intro hepsilon
      unfold concrete Filter.normalRead at hy
      split at hy
      · cases hy
      · next hnot => exact hnot (hy.trans (congrArg some hepsilon))
    · exact ih h

theorem ne_epsilon_of_mem_build {target input : String} {cs : List ChannelOp} {channel : Int}
    {x : String} (h : Op.push channel x ∈ (build target input cs).ops) : x ≠ epsilon := by
  simp only [build, List.mem_append, List.mem_singleton] at h
  rcases h with ((h | h) | h) | h
  · split at h
    · cases h
    · cases List.mem_singleton.1 h
  · obtain ⟨j, _, _, hpop⟩ := mem_pops h
    cases hpop
  · exact ne_epsilon_of_mem_pushes h
  · cases h

end Action

/-- **Whatever the rows of a lowered table do stays within it.** -/
theorem Compiled.IsLowered.over (ht : t.IsLowered) {state : String} {row : Entry}
    (hrow : row ∈ t.entriesFor state) : ∀ op ∈ row.action.ops, op.Over t := by
  obtain ⟨target, htarget, cs, hlowered⟩ := ht.entry state row hrow
  intro op hop
  have hbuild : op ∈ (Action.build target row.label cs).ops := hlowered.action ▸ hop
  rcases Action.mem_build hbuild with rfl | ⟨j, hlt, hj⟩ | rfl
  · exact ⟨fun _ h => (nomatch h), fun _ h => (nomatch h), fun _ _ h => (nomatch h)⟩
  · refine ⟨?_, Op.inRange_of_channel hj (Nat.lt_of_lt_of_le hlt hlowered.narrow), ?_⟩
    · rintro state rfl
      cases hj
    · rintro channel x rfl
      exact ⟨Action.ne_epsilon_of_mem_build hbuild, state, row, hrow, channel, hop⟩
  · refine ⟨?_, fun _ h => (nomatch h), fun _ _ h => (nomatch h)⟩
    rintro state hstate
    rwa [← Op.set.inj hstate]

theorem Compiled.Fires.over {e : Entry} (ht : t.IsLowered) (h : t.Fires c e d) (hc : c.Over t) :
    d.Over t :=
  Action.over_of_apply (ht.over (mem_choices.1 h.1).1) hc h.2

end Over

/-! ## What a search leaves -/

namespace Search

variable {plan : Plan} {s r : Snapshot} {bs : List Branch} {st : State} {n fuel : Nat}
  {v : Verdict} {told : List String}

/-- Whatever was made is not final, if the first snapshot is not. -/
theorem Logged.not_final (h : Logged plan s bs st) (hs : plan.table.isFinal s.config = false) :
    ∀ r ∈ madeBy plan.table s bs, plan.table.isFinal r.config = false := by
  intro r hr
  rcases List.mem_cons.1 hr with rfl | hr
  · exact hs
  · obtain ⟨b, hb, hr⟩ := List.mem_flatMap.1 hr
    obtain ⟨e, he, happly⟩ := Snapshot.mem_after_iff.1 hr
    obtain ⟨d, hd, hnot⟩ := h.passes b hb e he
    rwa [Except.ok.inj ((Snapshot.config_of_apply happly).1.symm.trans hd)]

theorem stuck_of_best_halted (h : Logged plan s bs st)
    (hstart : plan.table.isFinal s.config = false) (hhalted : st.best.shot.halted = true) :
    plan.table.choices st.best.shot.config = [] ∧
      plan.table.isFinal st.best.shot.config = false := by
  have hbest := List.mem_of_getElem? h.best.at_place
  exact ⟨(h.halted.1 hhalted).1, h.not_final hstart st.best.shot.unmarked hbest⟩

/-- **What is marked as stuck is stuck.** Nothing matches it, and it is not final. -/
theorem stuck_of_halted (hs : s.halted = false)
    (h : start plan fuel s = some ⟨.settled v r, told⟩) (hhalted : r.halted = true) :
    plan.table.choices r.config = [] ∧ plan.table.isFinal r.config = false := by
  have hsettling := settling_of_start hs h
  have hstart : plan.table.isFinal s.config = false := by
    rw [← Snapshot.accepts_of_not_halted hs]
    by_contra haccepts
    rw [start, if_pos (by simpa using haccepts)] at h
    cases h
    rw [hs] at hhalted
    cases hhalted
  cases hsettling with
  | atOnce hfinal =>
    rw [hs] at hhalted
    cases hhalted
  | ranDry hn hrounds hpending hstart' hexpansions =>
    exact stuck_of_best_halted (hrounds.logged hs) hstart hhalted
  | cutShort hn hrounds hspent hexpansions =>
    exact stuck_of_best_halted (hrounds.logged hs) hstart hhalted
  | accepted hn hrounds hpicks hchoices hpasses happly hfinal =>
    have hb := (hrounds.logged hs).pending_halted _ (by rw [hpicks.pending]; exact List.mem_cons_self)
    rw [(Snapshot.config_of_apply happly).2, hb] at hhalted
    cases hhalted

theorem start_ne_noChannel (ht : plan.table.IsLowered) (hfits : plan.table.Fits s.config)
    (hs : s.halted = false) (channel : Int) :
    start plan fuel s ≠ some ⟨.noChannel channel, told⟩ := by
  intro h
  unfold start at h
  split at h
  · cases h
  · obtain ⟨n, bs, st, _, hrounds, herror, _⟩ := State.run_eq_some h
    have hlogged := hrounds.logged hs
    have hround := State.round_advance plan hlogged.pending_halted
    rw [herror] at hround
    cases hround with
    | @strays b rest pre post e channel told hpicks hchoices hpasses happly =>
      obtain ⟨d, hd⟩ := hrounds.exists_fires hs ht hfits (b := b) (by simp [hpicks.pending])
        (e := e) (by simp [hchoices])
      exact happly d hd.2

theorem Settling.over (ht : plan.table.IsLowered) (hs : s.halted = false)
    (hover : s.config.Over plan.table) (h : Settling plan fuel s v r) : r.config.Over plan.table :=
  (h.keeps (P := fun r => r.config.Over plan.table) hs hover fun _ hr _ hx =>
    (Snapshot.fires_of_mem_successors hx).elim fun _ he => he.over ht hr).elim id id

end Search

/-! ## What listeners leave -/

/-- A turn that leaves a machine with `P`, and that fails only with errors of `E`. -/
structure Turn.Leaves (P : Machine → Prop) (E : MachineError → Prop) (turn : Turn) : Prop where
  machine : P turn.machine
  error : ∀ e, turn.error = some e → E e

theorem Turn.Leaves.andThen {P : Machine → Prop} {E : MachineError → Prop} {turn : Turn}
    {f : Machine → Turn} (h : turn.Leaves P E) (hnext : ∀ m, P m → (f m).Leaves P E) :
    (turn.andThen f).Leaves P E := by
  obtain ⟨m, error⟩ := turn
  cases error with
  | none => exact hnext m h.machine
  | some e => exact h

namespace Machine

section Telling

variable {P : Machine → Prop} {E : MachineError → Prop} {d : String → Machine → Turn} {m : Machine}

/-- What listeners do to a machine by hearing and leaving keeps `P`. -/
def Unheard (P : Machine → Prop) : Prop :=
  ∀ m heard subscribed, P m → P { m with heard, subscribed }

theorem leaves_inform (hP : Unheard P) (hd : ∀ label m, P m → (d label m).Leaves P E) (step : Step)
    (id : String) (hm : P m) : (inform d step id m).Leaves P E := by
  have hheard : P { m with heard := m.heard.push ⟨id, step⟩ } := hP m _ m.subscribed hm
  unfold inform
  simp only
  cases m.listeners.find? (·.id = id) with
  | none => exact ⟨hheard, fun _ h => (nomatch h)⟩
  | some l =>
    have hleft : P (if l.once then { m with heard := m.heard.push ⟨id, step⟩ }.leave id
        else { m with heard := m.heard.push ⟨id, step⟩ }) := by
      split
      · exact hP m _ (m.subscribed.erase id) hm
      · exact hheard
    simp only
    cases l.answer with
    | none => exact ⟨hleft, fun _ h => (nomatch h)⟩
    | some answer =>
      simp only
      split
      · exact hd answer.2 _ hleft
      · exact ⟨hleft, fun _ h => (nomatch h)⟩

theorem leaves_informAll (hP : Unheard P) (hd : ∀ label m, P m → (d label m).Leaves P E)
    (step : Step) (ids : List String) (hm : P m) : (informAll d step ids m).Leaves P E := by
  induction ids generalizing m with
  | nil => exact ⟨hm, fun _ h => (nomatch h)⟩
  | cons id ids ih =>
    rw [informAll_cons]
    exact (leaves_inform hP hd step id hm).andThen fun _ => ih

theorem leaves_notifyAll (hP : Unheard P) (hd : ∀ label m, P m → (d label m).Leaves P E)
    (steps : List Step) (hm : P m) : (notifyAll d steps m).Leaves P E := by
  induction steps generalizing m with
  | nil => exact ⟨hm, fun _ h => (nomatch h)⟩
  | cons step steps ih =>
    rw [notifyAll_cons]
    exact (leaves_informAll hP hd step m.subscribed hm).andThen fun _ => ih

end Telling

/-! ## Sound machines -/

/-- A machine over `t` that goes on from `given`: its configuration is within the table, its input is an
end of `given`, and if it is marked as stuck, it is. -/
structure Sound (t : Compiled) (given : List String) (m : Machine) : Prop where
  table : m.table = t
  state : m.config.state ∈ t.states
  channels : (m.config.channels.length : Int) = t.stackCount
  symbols : ∀ stack ∈ m.config.channels, ∀ x ∈ stack, x ≠ epsilon ∧ t.Pushes x
  input : m.config.input <:+ given
  halted : m.halted = true → m.inAcceptState = false ∧
    m.possible m.config.state m.config.head? m.config.tops = []

/-- A sound machine that is strict or not as `strict` says and has the listeners `listeners`. -/
structure Stays (t : Compiled) (given : List String) (strict : Bool) (listeners : List Listener)
    (m : Machine) : Prop where
  sound : m.Sound t given
  strict : m.strict = strict
  listeners : m.listeners = listeners

/-- What a machine may fail with when listeners answer: they answer each other too deep, or a strict
machine refuses a label. -/
def Refusal (strict : Bool) (e : MachineError) : Prop :=
  e = .tooDeep ∨ strict = true ∧ ∃ label state known, e = .invalidAction label state known

variable {t : Compiled} {given : List String} {m : Machine} {strict : Bool}
  {listeners : List Listener}

theorem sound_of_over (htable : m.table = t) (hcount : 0 ≤ t.stackCount) (hover : m.config.Over t)
    (hinput : m.config.input <:+ given)
    (hhalted : m.halted = true → t.choices m.config = [] ∧ t.isFinal m.config = false) :
    m.Sound t given where
  table := htable
  state := hover.state
  channels := by
    have := hover.channels
    omega
  symbols := hover.symbols
  input := hinput
  halted := by
    intro h
    subst htable
    exact (hhalted h).symm

theorem Sound.over (h : m.Sound t given) : m.config.Over t :=
  ⟨h.state, by have := h.channels; omega, h.symbols⟩

theorem Sound.count_nonneg (h : m.Sound t given) : 0 ≤ t.stackCount := by
  have := h.channels
  omega

theorem Sound.fits (h : m.Sound t given) : m.table.Fits m.config := by
  rw [h.table]
  exact Nat.le_of_eq h.over.channels.symm

/-- The configuration in which a machine starts is within the table. -/
theorem over_startConfig (ht : t.IsLowered) : (startConfig t).Over t where
  state := ht.initial
  channels := List.length_replicate
  symbols := by
    intro stack hstack x hx
    rw [List.eq_of_mem_replicate hstack] at hx
    cases hx

theorem Sound.of_same (h : m.Sound t given) {n : Machine} (htable : n.table = m.table)
    (hconfig : n.config = m.config) (hhalted : n.halted = m.halted) : n.Sound t given :=
  sound_of_over (htable.trans h.table) h.count_nonneg (hconfig ▸ h.over) (hconfig ▸ h.input)
    fun hn => by
      obtain ⟨hnot, hnone⟩ := h.halted (hhalted ▸ hn)
      rw [hconfig, ← h.table]
      exact ⟨hnone, hnot⟩

theorem Stays.of_same (h : m.Stays t given strict listeners) {n : Machine}
    (htable : n.table = m.table) (hconfig : n.config = m.config) (hhalted : n.halted = m.halted)
    (hstrict : n.strict = m.strict) (hlisteners : n.listeners = m.listeners) :
    n.Stays t given strict listeners :=
  ⟨h.sound.of_same htable hconfig hhalted, hstrict.trans h.strict, hlisteners.trans h.listeners⟩

theorem unheard_stays : Unheard (Stays t given strict listeners) :=
  fun _ _ _ hm => hm.of_same rfl rfl rfl rfl rfl

theorem firing?_mem {label : String} {e : Entry} (h : m.firing? label = some e) :
    e ∈ m.table.entriesFor m.config.state := List.mem_of_find?_eq_some h

theorem leaves_refuse (hm : m.Stays t given strict listeners) (label : String) :
    (m.refuse label).Leaves (Stays t given strict listeners) (Refusal strict) := by
  unfold refuse
  split
  · next hrefuses =>
    exact ⟨hm, fun e he => Or.inr ⟨hm.strict ▸ hrefuses, label, m.config.state,
      m.table.labels.contains label, (Option.some.inj he).symm⟩⟩
  · obtain ⟨told, htold⟩ := tell_eq m .verboseDispatch fun _ =>
      "ignoring invalid action '" ++ label ++ "' from state '" ++ m.config.state ++ "'"
    rw [htold]
    exact ⟨hm.of_same rfl rfl rfl rfl rfl, fun _ h => (nomatch h)⟩

/-- **A dispatch leaves a sound machine,** whatever listeners dispatch in turn. -/
theorem leaves_dispatch (ht : t.IsLowered) (depth : Nat) (label : String) (m : Machine)
    (hm : m.Stays t given strict listeners) :
    (dispatch depth label m).Leaves (Stays t given strict listeners) (Refusal strict) := by
  induction depth generalizing label m with
  | zero => exact ⟨hm, fun e he => Or.inl (Option.some.inj he).symm⟩
  | succ depth ih =>
    rw [dispatch]
    cases hfiring : m.firing? label with
    | none => exact leaves_refuse hm label
    | some e =>
      have hsound := hm.sound
      have hops := ht.over (hsound.table ▸ firing?_mem hfiring)
      obtain ⟨c, hc⟩ := Action.exists_apply_of_over hops hsound.over false
      obtain ⟨told, htold⟩ := tell_eq m .verboseDispatch fun _ =>
        "dispatch '" ++ label ++ "': " ++ m.config.state ++ " -> " ++ e.action.target
      simp only [htold, hc]
      refine leaves_informAll unheard_stays ih _ _ ⟨?_, hm.strict, hm.listeners⟩
      exact sound_of_over hsound.table hsound.count_nonneg
        (Action.over_of_apply hops hsound.over hc)
        ((Action.input_suffix_of_apply hc).trans hsound.input) Bool.false_ne_true.elim

/-- What a sound machine takes over from a search leaves it sound. -/
theorem Sound.takeOver (ht : t.IsLowered) (hm : m.Sound t given) {fuel : Nat} {w : List String}
    {v : Verdict} {s : Snapshot} (h : m.Settles fuel w v s) (told : Array String) :
    Sound t w ({ m with told }.takeOver s) := by
  have htable := hm.table
  subst htable
  obtain ⟨es, hpath⟩ := h.settling.path rfl
  refine sound_of_over rfl hm.count_nonneg ?_ hpath.input_suffix fun hhalted => ?_
  · exact h.settling.over ht rfl ⟨hm.state, hm.over.channels, hm.symbols⟩
  · obtain ⟨told, hstart⟩ := h
    exact Search.stuck_of_halted rfl hstart hhalted

/-- **A search that ends leaves a sound machine,** whatever listeners dispatch when they hear of it. -/
theorem leaves_consume (ht : t.IsLowered) (hm : m.Sound t given) (fuel depth : Nat)
    (w : List String) (hends : (m.consume fuel depth w).error ≠ some .endless) :
    (m.consume fuel depth w).Leaves (Stays t w m.strict m.listeners) (Refusal m.strict) := by
  rw [consume_eq] at hends ⊢
  cases hstart : Search.start m.plan fuel (m.seed w) with
  | none =>
    rw [hstart] at hends
    exact absurd rfl hends
  | some ending =>
    obtain ⟨outcome, told⟩ := ending
    cases outcome with
    | settled v s =>
      have htaken := hm.takeOver ht ⟨told, hstart⟩ (m.told ++ told)
      exact leaves_notifyAll unheard_stays (leaves_dispatch ht depth) s.history ⟨htaken, rfl, rfl⟩
    | noChannel channel =>
      have ht' : m.plan.table.IsLowered := by
        rwa [show m.plan.table = t from hm.table]
      exact absurd hstart (Search.start_ne_noChannel (s := m.seed w) ht' hm.fits rfl channel)

/-- With quiet listeners a dispatch fails if its label is refused, or for want of a channel. -/
theorem error_dispatch_of_quiet (hm : m.Quiet) {depth : Nat} {label : String} {e : MachineError}
    (h : (dispatch (depth + 1) label m).error = some e) :
    (m.strict = true ∧
      e = .invalidAction label m.config.state (m.table.labels.contains label)) ∨
    ∃ channel, e = .noChannel channel := by
  rw [dispatch] at h
  cases hfiring : m.firing? label with
  | none =>
    simp only [hfiring, refuse] at h
    split at h
    · next hstrict => exact Or.inl ⟨hstrict, (Option.some.inj h).symm⟩
    · cases h
  | some row =>
    obtain ⟨told, htold⟩ := tell_eq m .verboseDispatch fun _ =>
      "dispatch '" ++ label ++ "': " ++ m.config.state ++ " -> " ++ row.action.target
    simp only [hfiring, htold] at h
    split at h
    · next fault _ => exact Or.inr ⟨fault.channel, (Option.some.inj h).symm⟩
    · next c _ =>
      rw [notify_of_quiet (m := { m with config := c, halted := false, told }) hm] at h
      cases h

/-- With quiet listeners a search fails if it does not end, or for want of a channel. -/
theorem error_consume_of_quiet (hm : m.Quiet) {fuel depth : Nat} {w : List String}
    {e : MachineError} (h : (m.consume fuel depth w).error = some e) :
    e = .endless ∨ ∃ channel, e = .noChannel channel := by
  rw [consume_eq] at h
  split at h
  · exact Or.inl (Option.some.inj h).symm
  · next v s told _ =>
    obtain ⟨subscribed, hnotify⟩ := notifyAll_of_quiet
      (m := { m with told := m.told ++ told }.takeOver s) hm (dispatch depth) s.history
    rw [hnotify] at h
    cases h
  · next channel told _ => exact Or.inr ⟨channel, (Option.some.inj h).symm⟩

theorem Refusal.ne_noChannel {e : MachineError} (h : Refusal strict e) (channel : Int) :
    e ≠ .noChannel channel := by
  rintro rfl
  rcases h with h | ⟨_, label, state, known, h⟩ <;> cases h

end Machine

/-! ## Rows of calls -/

/-- A call of a machine. A label is dispatched strictly or not, and a search has its budget and is pruned
or not. -/
inductive Call where
  | reset
  | dispatch (label : String) (strict : Bool)
  | consume (input : List String) (maxSteps : Int) (prune : Bool)
  deriving DecidableEq, Repr

namespace Call

/-- What a call comes to, when a search has at most `fuel` rounds and answers of listeners are nested at
most `depth` deep. -/
def turn (fuel depth : Nat) : Call → Machine → Turn
  | reset, m => ⟨m.reset, none⟩
  | dispatch label strict, m => Machine.dispatch (depth + 1) label { m with strict }
  | consume input maxSteps prune, m =>
    { m with maxSteps, settings := m.settings.turn .pruneRevisited prune }.consume fuel depth input

/-- The list last given to be searched, none after a reset. -/
def given (last : List String) : Call → List String
  | reset => []
  | dispatch .. => last
  | consume input .. => input

/-- What a call may fail with, apart from what listeners do: a strict dispatch, with its label. -/
def MayFail (call : Call) (e : MachineError) : Prop :=
  ∃ label state known, call = .dispatch label true ∧ e = .invalidAction label state known

variable {t : Compiled} {last : List String} {m : Machine} {fuel depth : Nat}

theorem leaves_turn (ht : t.IsLowered) (hm : m.Sound t last) (call : Call)
    (hreturns : (call.turn fuel depth m).error ≠ some .endless) :
    ∃ strict, (call.turn fuel depth m).Leaves (Machine.Stays t (call.given last) strict m.listeners)
      (Machine.Refusal strict) := by
  cases call with
  | reset =>
    refine ⟨m.strict, ⟨?_, rfl, rfl⟩, fun _ h => (nomatch h)⟩
    refine Machine.sound_of_over hm.table hm.count_nonneg ?_ List.suffix_rfl fun h => (nomatch h)
    change (Machine.startConfig m.table).Over t
    rw [hm.table]
    exact Machine.over_startConfig ht
  | dispatch label strict =>
    exact ⟨strict, Machine.leaves_dispatch ht (depth + 1) label { m with strict }
      ⟨hm.of_same rfl rfl rfl, rfl, rfl⟩⟩
  | consume input maxSteps prune =>
    exact ⟨m.strict, Machine.leaves_consume (m := { m with maxSteps, settings := m.settings.turn _ _ })
      ht (hm.of_same rfl rfl rfl) fuel depth input hreturns⟩

theorem mayFail_of_quiet (ht : t.IsLowered) (hm : m.Sound t last) (hquiet : m.Quiet) (call : Call)
    (hreturns : (call.turn fuel depth m).error ≠ some .endless) {e : MachineError}
    (he : (call.turn fuel depth m).error = some e) : call.MayFail e := by
  obtain ⟨_, hleaves⟩ := leaves_turn ht hm call hreturns
  have hrefusal := (hleaves.error e he).ne_noChannel
  cases call with
  | reset => cases he
  | dispatch label strict =>
    rcases Machine.error_dispatch_of_quiet (m := { m with strict }) hquiet he with
      ⟨hstrict, rfl⟩ | ⟨channel, hchannel⟩
    · obtain rfl : strict = true := hstrict
      exact ⟨label, _, _, rfl, rfl⟩
    · exact absurd hchannel (hrefusal channel)
  | consume input maxSteps prune =>
    rcases Machine.error_consume_of_quiet
        (m := { m with maxSteps, settings := m.settings.turn .pruneRevisited prune }) hquiet he with
      rfl | ⟨channel, hchannel⟩
    · exact absurd he hreturns
    · exact absurd hchannel (hrefusal channel)

end Call

namespace Machine

/-- What calls come to, one after the other. A call that failed leaves a machine for the next one, too. -/
def turns (fuel depth : Nat) (m : Machine) : List Call → List Turn
  | [] => []
  | call :: calls => call.turn fuel depth m :: turns fuel depth (call.turn fuel depth m).machine calls

/-- The machine behind calls. -/
def after (fuel depth : Nat) (m : Machine) (calls : List Call) : Machine :=
  calls.foldl (fun m call => (call.turn fuel depth m).machine) m

variable {t : Compiled} {last : List String} {m : Machine} {fuel depth : Nat} {calls : List Call}

theorem Sound.after (ht : t.IsLowered) (hm : m.Sound t last)
    (hreturns : ∀ turn ∈ m.turns fuel depth calls, turn.error ≠ some .endless) :
    (m.after fuel depth calls).Sound t (calls.foldl Call.given last) := by
  induction calls generalizing m last with
  | nil => exact hm
  | cons call calls ih =>
    obtain ⟨hfirst, hrest⟩ := List.forall_mem_cons.1 hreturns
    obtain ⟨strict, hleaves⟩ := Call.leaves_turn ht hm call hfirst
    exact ih hleaves.machine.sound hrest

/-- Each call is made of a sound machine, with the listeners that were there at first. -/
theorem Sound.made (ht : t.IsLowered) (hm : m.Sound t last)
    (hreturns : ∀ turn ∈ m.turns fuel depth calls, turn.error ≠ some .endless) :
    List.Forall₂ (fun call turn => ∃ n last, n.Sound t last ∧ n.listeners = m.listeners ∧
      turn.error ≠ some .endless ∧ turn = call.turn fuel depth n) calls
      (m.turns fuel depth calls) := by
  induction calls generalizing m last with
  | nil => exact .nil
  | cons call calls ih =>
    obtain ⟨hfirst, hrest⟩ := List.forall_mem_cons.1 hreturns
    obtain ⟨strict, hleaves⟩ := Call.leaves_turn ht hm call hfirst
    refine .cons ⟨m, last, hm, rfl, hfirst, rfl⟩ ((ih hleaves.machine.sound hrest).imp ?_)
    rintro call turn ⟨n, last, hn, hlisteners, hturn⟩
    exact ⟨n, last, hn, hlisteners.trans hleaves.machine.listeners, hturn⟩

/-- **Running a compiled machine never goes wrong.** Whatever calls are made of a machine that is new or
reset, in any order, as long as each of them returns: the machine behind them has a state of its table and
as many stacks as the table asks for, with nothing on them but what rows push; its input is an end of the
list last given; and if it is marked as stuck, then it does not accept and no row matches. No call fails
but with the refusal of a label, or because listeners answer each other too deep; if they do not answer,
the only error is the refusal of its label by a strict dispatch. -/
theorem after_calls_sound {cap : Capacity} {settings : Settings} {source : String} {t : Compiled}
    (hcompiled : (compile cap settings source).result = .ok t) (m : Machine) (htable : m.table = t)
    (hconfig : m.config = startConfig t) (hhalted : m.halted = false) (fuel depth : Nat)
    (calls : List Call)
    (hreturns : ∀ turn ∈ m.turns fuel depth calls, turn.error ≠ some .endless) :
    (m.after fuel depth calls).Sound t (calls.foldl Call.given []) ∧
    List.Forall₂ (fun call turn => ∀ e, turn.error = some e →
      (e = .tooDeep ∨ ∃ label state known, e = .invalidAction label state known) ∧
      (m.Quiet → call.MayFail e)) calls (m.turns fuel depth calls) := by
  obtain ⟨ss, hss, hstatements⟩ := exists_statements_of_compile hcompiled
  obtain ⟨_, _, hform⟩ := wellFormed_of_statementsOf hss hstatements
  have ht := isLowered_of_compiled hstatements
  have hm : m.Sound t [] := by
    refine sound_of_over htable hform.nonneg ?_ ?_ fun h => ?_
    · rw [hconfig]
      exact over_startConfig ht
    · rw [hconfig]
      exact List.suffix_rfl
    · rw [hhalted] at h
      cases h
  refine ⟨hm.after ht hreturns, (hm.made ht hreturns).imp ?_⟩
  rintro call turn ⟨n, last, hn, hlisteners, hends, rfl⟩ e he
  obtain ⟨strict, hleaves⟩ := Call.leaves_turn ht hn call hends
  refine ⟨(hleaves.error e he).imp_right And.right, fun hquiet => ?_⟩
  exact Call.mayFail_of_quiet ht hn (fun l hl => hquiet l (hlisteners ▸ hl)) call hends he

/-- A machine over `anbn` is left with an `a` on its stack by `aab`, and then refuses `a`. -/
theorem anbn_after_calls :
    let calls : List Call := [.consume ["a", "a", "b"] 0 true, .dispatch "a" true]
    ((Machine.new anbn {} none none).after 20 0 calls).Sound anbn ["a", "a", "b"] ∧
    ((Machine.new anbn {} none none).after 20 0 calls).config = ⟨"q1", [["a"]], []⟩ ∧
    ((Machine.new anbn {} none none).turns 20 0 calls).map (·.error) =
      [none, some (.invalidAction "a" "q1" true)] := by
  have hcompiled : (compile .ample {} ".q0 -[a]a> q0 -_> (q1) -[b,a]> q1;").result = .ok anbn := by
    decide +kernel
  have hturns : ((Machine.new anbn {} none none).turns 20 0
      [.consume ["a", "a", "b"] 0 true, .dispatch "a" true]).map (·.error) =
      [none, some (.invalidAction "a" "q1" true)] := by
    cbv
  refine ⟨(after_calls_sound hcompiled (Machine.new anbn {} none none) rfl rfl rfl 20 0
    [.consume ["a", "a", "b"] 0 true, .dispatch "a" true] ?_).1, ?_, hturns⟩
  · intro turn hturn
    have herror := List.mem_map_of_mem (f := (·.error)) hturn
    rw [hturns] at herror
    intro hendless
    simp [hendless] at herror
  · cbv

end Machine

end ArrowMachine
