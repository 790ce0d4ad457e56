import ArrowMachine.Proofs.Run.Acceptance
import ArrowMachine.Proofs.Run.Replay

/-!
Feeding an input in pieces.

An entry that matches goes on to match when more input is put behind what is left, and firing it does the
same to state and stacks (`Compiled.IsLowered.fires_extend`). So a path that uses up one input and a path
that goes on with another are together a path for both, and as a search that is not cut short finds out
whether some path is accepting, what is accepted in two pieces is accepted as a whole
(`Machine.consume_append`).
-/
namespace ArrowMachine

open Search (Verdict)

/-! ## More input behind what is left -/

/-- The configuration with `v` behind the input that is left. -/
def Configuration.extend (c : Configuration) (v : List String) : Configuration :=
  { c with input := c.input ++ v }

namespace Op

variable {op : Op} {ops : List Op} {c d : Configuration}

theorem apply_extend (h : op.apply c = some d) (hop : op = .consume → c.input ≠ [])
    (v : List String) : op.apply (c.extend v) = some (d.extend v) := by
  cases op with
  | consume =>
    obtain rfl : _ = d := Option.some.inj h
    have htail : (c.input ++ v).tail = c.input.tail ++ v := List.tail_append_of_ne_nil (hop rfl)
    rw [apply, Configuration.extend, htail]
    rfl
  | pop channel =>
    obtain ⟨i, hi, rfl⟩ := Option.map_eq_some_iff.1 h
    exact Option.map_eq_some_iff.2 ⟨i, hi, rfl⟩
  | push channel value =>
    obtain ⟨i, hi, rfl⟩ := Option.map_eq_some_iff.1 h
    exact Option.map_eq_some_iff.2 ⟨i, hi, rfl⟩
  | set state =>
    obtain rfl : _ = d := Option.some.inj h
    rfl

/-- Operations that take no input do not see what is put behind it. -/
theorem applyAll_extend (hops : ∀ op ∈ ops, op ≠ .consume) (h : applyAll ops c = .ok d)
    (v : List String) : applyAll ops (c.extend v) = .ok (d.extend v) := by
  induction ops generalizing c with
  | nil =>
    obtain rfl : c = d := Except.ok.inj h
    rfl
  | cons op ops ih =>
    obtain ⟨b, hb, hd⟩ := applyAll_cons_eq_ok.1 h
    have hrest := ih (fun x hx => hops x (List.mem_cons_of_mem _ hx)) hd
    have hfirst := apply_extend hb (fun heq => absurd heq (hops op List.mem_cons_self)) v
    exact applyAll_cons_eq_ok.2 ⟨b.extend v, hfirst, hrest⟩

end Op

/-- A lowered transition that finds the symbol that it takes leaves alone what is put behind it. -/
theorem Action.apply_build_extend {target input : String} {cs : List ChannelOp} {c d : Configuration}
    (h : (build target input cs).apply true c = .ok d) (hinput : input ≠ epsilon → c.input ≠ [])
    (v : List String) : (build target input cs).apply true (c.extend v) = .ok (d.extend v) := by
  obtain ⟨middle, hops, hmiddle⟩ := build_ops target input cs
  rw [apply, if_pos rfl, hops, List.append_assoc] at h ⊢
  obtain ⟨b, hb, hd⟩ := Op.applyAll_append_eq_ok.1 h
  have hrest : ∀ op ∈ middle ++ [.set target], op ≠ .consume := by
    intro op hop
    rcases List.mem_append.1 hop with hop | hop
    · obtain ⟨j, _, hj⟩ := hmiddle op hop
      rintro rfl
      cases hj
    · rw [List.mem_singleton.1 hop]
      exact Op.noConfusion
  refine Op.applyAll_append_eq_ok.2 ⟨b.extend v, ?_, Op.applyAll_extend hrest hd v⟩
  by_cases hepsilon : input = epsilon
  · rw [if_pos hepsilon] at hb ⊢
    exact Op.applyAll_extend (by simp) hb v
  · rw [if_neg hepsilon] at hb ⊢
    obtain ⟨a, ha, hb⟩ := Op.applyAll_cons_eq_ok.1 hb
    obtain rfl : a = b := Except.ok.inj hb
    exact Op.applyAll_cons_eq_ok.2 ⟨_, Op.apply_extend ha (fun _ => hinput hepsilon) v, rfl⟩

/-- A filter that accepts where no input is left takes epsilon, and accepts before any input. -/
theorem Filter.accepts_extend {f : Filter} {c : Configuration}
    (h : f.accepts c.head? c.tops = true) (v : List String) :
    f.accepts (c.extend v).head? (c.extend v).tops = true := by
  obtain ⟨state, channels, input⟩ := c
  cases input with
  | cons x input => exact h
  | nil =>
    have hepsilon : f.input = epsilon := by
      simpa [accepts, Configuration.head?] using (Bool.and_eq_true_iff.1 h).1
    have hreads := (Bool.and_eq_true_iff.1 h).2
    exact Bool.and_eq_true_iff.2 ⟨by simp [hepsilon], hreads⟩

/-! ## Paths -/

namespace Compiled

variable {t : Compiled} {c d f : Configuration} {e : Entry} {es fs : List Entry}

theorem Path.append (h : t.Path c es d) (h' : t.Path d fs f) : t.Path c (es ++ fs) f := by
  induction h with
  | nil c => exact h'
  | cons hfirst _ ih => exact .cons hfirst (ih h')

/-- **What fires goes on to fire when more input is put behind.** -/
theorem IsLowered.fires_extend (ht : t.IsLowered) (h : t.Fires c e d) (v : List String) :
    t.Fires (c.extend v) e (d.extend v) := by
  obtain ⟨hmem, haccepts⟩ := mem_choices.1 h.1
  obtain ⟨target, _, cs, hlowered⟩ := ht.entry c.state e hmem
  have hinput : e.label ≠ epsilon → c.input ≠ [] := by
    intro hlabel
    rw [(ht.fires h).2, taken, if_neg hlabel]
    exact List.cons_ne_nil _ _
  have happly := h.2
  refine ⟨mem_choices.2 ⟨hmem, Filter.accepts_extend haccepts v⟩, ?_⟩
  rw [hlowered.action] at happly ⊢
  exact Action.apply_build_extend happly hinput v

theorem IsLowered.path_extend (ht : t.IsLowered) (h : t.Path c es d) (v : List String) :
    t.Path (c.extend v) es (d.extend v) := by
  induction h with
  | nil c => exact .nil _
  | cons hfirst _ ih => exact .cons (ht.fires_extend hfirst v) ih

end Compiled

/-! ## Searches one after the other -/

namespace Machine

variable {m n k : Machine} {fuel fuel' fuel'' depth : Nat} {u v : List String}
  {verdict verdict' verdict'' : Verdict} {s s' s'' : Snapshot}

/-- Quiet listeners stay quiet. -/
theorem Settles.quiet (h : m.Settles fuel u verdict s) (hm : m.Quiet) (depth : Nat) :
    (m.consume fuel depth u).machine.Quiet := by
  obtain ⟨told, hconsume⟩ := h.adopts depth
  obtain ⟨subscribed, hnotify⟩ :=
    notifyAll_of_quiet (m := { m with told := told }.takeOver s) hm (dispatch depth) s.history
  rw [hconsume, hnotify]
  exact hm

/-- A search that uses up `u` and one that goes on from there with `v` show a path for `u ++ v`. -/
theorem Settles.path_append (ht : m.table.IsLowered) (h : m.Settles fuel u verdict s)
    (hspent : s.config.input = []) (htable : n.table = m.table) (hconfig : n.config = s.config)
    (h' : n.Settles fuel' v verdict' s') :
    ∃ es, m.table.Path (m.fed (u ++ v)) es s'.config := by
  obtain ⟨es, hpath⟩ : ∃ es, m.table.Path (m.fed u) es s.config := h.settling.path rfl
  obtain ⟨fs, hpath'⟩ : ∃ fs, n.table.Path (n.fed v) fs s'.config := h'.settling.path rfl
  have hjoin : s.config.extend v = n.fed v := by
    rw [Configuration.extend, hspent, fed, hconfig]
    rfl
  rw [htable, ← hjoin] at hpath'
  exact ⟨es ++ fs, (ht.path_extend hpath v).append hpath'⟩

/-- A search for `u ++ v` that is not cut short finds what two searches found one after the other. -/
theorem Settles.final_append (ht : m.table.IsLowered) (h : m.Settles fuel u verdict s)
    (hspent : s.config.input = []) (htable : n.table = m.table) (hconfig : n.config = s.config)
    (h' : n.Settles fuel' v verdict' s') (hfinal : m.table.isFinal s'.config = true)
    (hktable : k.table = m.table) (hkconfig : k.config = m.config)
    (h'' : k.Settles fuel'' (u ++ v) verdict'' s'') (hcut : verdict'' ≠ .cutShort) :
    m.table.isFinal s''.config = true := by
  obtain ⟨es, hpath⟩ := h.path_append ht hspent htable hconfig h'
  have hstart : m.fed (u ++ v) = k.fed (u ++ v) := by rw [fed, fed, hkconfig]
  rw [hstart, ← hktable] at hpath
  rw [← hktable] at hfinal ⊢
  exact (h''.settling.final_iff rfl hcut).2 ⟨es, s'.config, hpath, hfinal⟩

/-- Where listeners are quiet, `consume` ends accepting exactly if its search settles on a final
configuration. -/
theorem Settles.inAcceptState (h : m.Settles fuel u verdict s) (hm : m.Quiet) (depth : Nat) :
    (m.consume fuel depth u).machine.inAcceptState = m.table.isFinal s.config := by
  obtain ⟨_, htable, hconfig, _⟩ := consume_of_quiet depth hm h
  unfold Machine.inAcceptState
  rw [htable, hconfig]
  rfl

/-- **An input that is accepted in two pieces is accepted as a whole.** Let the table be compiled.

Whoever listens: if the search of `m` for `u` settles on a snapshot that has used up `u`, and a search for
`v` from there settles on one that is accepting, then so does a search for `u ++ v` from where `m` was,
unless it is cut short. The three may prune or not, and have different budgets.

If no listener dispatches while being told, the same can be said of the calls: if `consume` returns for `u`
and leaves no input, and then returns for `v` and ends accepting, it returns for `u ++ v` and ends
accepting, provided that its search ends and is not cut short. -/
theorem consume_append {cap : Capacity} (m : Machine) (u v : List String) {settings : Settings} {ss : List Statement}
    (hcompiled : (compileStatements cap settings ss).result = .ok m.table) :
    (∀ (n k : Machine) (fuel fuel' fuel'' : Nat) (verdict verdict' verdict'' : Verdict)
        (s s' s'' : Snapshot),
      m.Settles fuel u verdict s → s.config.input = [] →
      n.table = m.table → n.config = s.config →
      n.Settles fuel' v verdict' s' → (n.takeOver s').inAcceptState = true →
      k.table = m.table → k.config = m.config →
      k.Settles fuel'' (u ++ v) verdict'' s'' → verdict'' ≠ .cutShort →
      (k.takeOver s'').inAcceptState = true) ∧
    (m.Quiet → ∀ fuel fuel' fuel'' depth depth' depth'' : Nat,
      (m.consume fuel depth u).error = none →
      (m.consume fuel depth u).machine.config.input = [] →
      ((m.consume fuel depth u).machine.consume fuel' depth' v).error = none →
      ((m.consume fuel depth u).machine.consume fuel' depth' v).machine.inAcceptState = true →
      ∀ verdict s, m.Settles fuel'' (u ++ v) verdict s → verdict ≠ .cutShort →
        (m.consume fuel'' depth'' (u ++ v)).error = none ∧
        (m.consume fuel'' depth'' (u ++ v)).machine.inAcceptState = true) := by
  have ht : m.table.IsLowered := isLowered_of_compiled hcompiled
  refine ⟨?_, ?_⟩
  · intro n k fuel fuel' fuel'' verdict verdict' verdict'' s s' s'' h hspent htable hconfig h' haccepts
      hktable hkconfig h'' hcut
    rw [inAcceptState_takeOver, htable] at haccepts
    rw [inAcceptState_takeOver, hktable]
    exact h.final_append ht hspent htable hconfig h' haccepts hktable hkconfig h'' hcut
  · intro hquiet fuel fuel' fuel'' depth depth' depth'' herror hspent herror' haccepts verdict s hs hcut
    obtain ⟨verdict₁, s₁, h₁⟩ := exists_settles herror
    obtain ⟨_, htable, hconfig, _⟩ := consume_of_quiet depth hquiet h₁
    obtain ⟨verdict₂, s₂, h₂⟩ := exists_settles herror'
    rw [h₂.inAcceptState (h₁.quiet hquiet depth), htable] at haccepts
    rw [hconfig] at hspent
    refine ⟨(consume_of_quiet depth'' hquiet hs).1, ?_⟩
    rw [hs.inAcceptState hquiet]
    exact h₁.final_append ht hspent htable hconfig h₂ haccepts rfl rfl hs hcut

/-- A machine over `anbn` that is fed `a` and then `b` ends accepting, and so it does on `ab`. -/
theorem anbn_append :
    ((Machine.new anbn {} none none).consume 10 0 ["a", "b"]).machine.inAcceptState = true := by
  have hcompiled : (compileStatements .ample {} counting).result = .ok anbn := by cbv
  have hsettles : (Machine.new anbn {} none none).Settles 10 ["a", "b"] .accepted
      ⟨⟨"q1", [[]], []⟩, false, [], false⟩ := by
    refine ⟨[], ?_⟩
    cbv
  refine ((consume_append (Machine.new anbn {} none none) ["a"] ["b"] hcompiled).2
    (by simp [Quiet, Machine.new]) 10 10 10 0 0 0 ?_ ?_ ?_ ?_ _ _ hsettles (by decide)).2
  · cbv
  · cbv
  · cbv
  · cbv

end Machine

end ArrowMachine
