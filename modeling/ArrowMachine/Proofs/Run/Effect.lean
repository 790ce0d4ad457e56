import ArrowMachine.Proofs.Run.Replay
import ArrowMachine.Proofs.Table.Widening

/-!
What a row does, channel by channel.

A lowered transition has its operations kind by kind: it takes a symbol, then comes all that it pops, and
then all that it pushes. Doing them one after the other comes to working each channel by itself
(`Action.apply_build`). Where the filter of the transition accepts, each operation that takes a symbol
finds one (`Action.runs_build`), so that every stack exchanges what is read off it for what is written to
it, and the workload changes by what is pushed and taken (`Compiled.written_row_effect`).
-/
namespace ArrowMachine

/-! ## Operations that find what they take -/

namespace Op

variable {op : Op} {ops as bs : List Op} {b c d : Configuration}

def isConsume : Op → Bool
  | consume => true
  | pop _ | push .. | set _ => false

def isPop : Op → Bool
  | pop _ => true
  | consume | push .. | set _ => false

def isPush : Op → Bool
  | push .. => true
  | consume | pop _ | set _ => false

/-- Whether the operation takes a symbol, off the input or off a stack. -/
def takes (op : Op) : Bool := op.isConsume || op.isPop

theorem isPush_eq_false (h : op.takes = true) : op.isPush = false := by
  cases op with
  | consume => rfl
  | pop channel => rfl
  | push channel value => cases h
  | set state => rfl

theorem countP_takes (ops : List Op) :
    ops.countP takes = ops.countP isConsume + ops.countP isPop := by
  induction ops with
  | nil => rfl
  | cons op ops ih =>
    rw [List.countP_cons, List.countP_cons, List.countP_cons, ih]
    cases op <;> simp [takes, isConsume, isPop] <;> omega

/-- If the operation takes a symbol, there is one. -/
def Finds (c : Configuration) : Op → Prop
  | consume => c.input ≠ []
  | pop channel => ∃ i x rest, channelIndex? c.channels.length channel = some i ∧
      c.channels[i]? = some (x :: rest)
  | push .. | set _ => True

/-- Operations are done in turn, and each finds what it takes. -/
inductive Runs : List Op → Configuration → Configuration → Prop
  | nil (c : Configuration) : Runs [] c c
  | cons {op : Op} {ops : List Op} {b c d : Configuration} :
      op.Finds c → op.apply c = some b → Runs ops b d → Runs (op :: ops) c d

theorem length_flatten_modify {α : Type} {ls : List (List α)} {i : Nat} {l : List α}
    (h : ls[i]? = some l) (f : List α → List α) :
    (ls.modify i f).flatten.length + l.length = ls.flatten.length + (f l).length := by
  induction ls generalizing i with
  | nil => cases h
  | cons k ls ih =>
    cases i with
    | zero =>
      obtain rfl : k = l := Option.some.inj h
      rw [List.modify_zero_cons, List.flatten_cons, List.flatten_cons, List.length_append,
        List.length_append]
      omega
    | succ i =>
      have hrest := ih (i := i) (by simpa using h)
      rw [List.modify_succ_cons, List.flatten_cons, List.flatten_cons, List.length_append,
        List.length_append]
      omega

theorem channelIndex?_lt {count i : Nat} {channel : Int} (h : channelIndex? count channel = some i) :
    i < count := by
  unfold channelIndex? at h
  simp only at h
  generalize (if channel < 0 then channel + (count : Int) else channel) = j at h
  split at h
  · obtain rfl := Option.some.inj h
    omega
  · cases h

/-- An operation that finds what it takes changes the workload by one, if it takes or pushes. -/
theorem workload_of_apply (hfinds : op.Finds c) (h : op.apply c = some d) :
    d.workload + (if op.takes then 1 else 0) = c.workload + (if op.isPush then 1 else 0) := by
  cases op with
  | consume =>
    obtain rfl : _ = d := Option.some.inj h
    obtain ⟨x, rest, hinput⟩ := List.exists_cons_of_ne_nil hfinds
    change c.channels.flatten.length + c.input.tail.length + 1 =
      c.channels.flatten.length + c.input.length + 0
    rw [hinput, List.tail_cons, List.length_cons]
    omega
  | pop channel =>
    obtain ⟨i, x, rest, hi, hstack⟩ := hfinds
    obtain ⟨j, hj, rfl⟩ := Option.map_eq_some_iff.1 h
    obtain rfl : i = j := Option.some.inj (hi.symm.trans hj)
    have hlength := length_flatten_modify hstack List.tail
    simp only [List.tail_cons, List.length_cons] at hlength
    change (c.channels.modify i List.tail).flatten.length + c.input.length + 1 =
      c.channels.flatten.length + c.input.length + 0
    omega
  | push channel value =>
    obtain ⟨i, hi, rfl⟩ := Option.map_eq_some_iff.1 h
    obtain ⟨stack, hstack⟩ : ∃ stack, c.channels[i]? = some stack :=
      ⟨_, List.getElem?_eq_getElem (channelIndex?_lt hi)⟩
    have hlength := length_flatten_modify hstack fun s : Stack => value :: s
    rw [List.length_cons] at hlength
    change (c.channels.modify i (value :: ·)).flatten.length + c.input.length + 0 =
      c.channels.flatten.length + c.input.length + 1
    omega
  | set state =>
    obtain rfl : _ = d := Option.some.inj h
    rfl

namespace Runs

/-- What takes no symbol finds what it takes. -/
theorem of_applyAll (hops : ∀ op ∈ ops, op.takes = false) (h : Op.applyAll ops c = .ok d) :
    Runs ops c d := by
  induction ops generalizing c with
  | nil =>
    obtain rfl : c = d := Except.ok.inj h
    exact .nil c
  | cons op ops ih =>
    obtain ⟨b, hb, hd⟩ := applyAll_cons_eq_ok.1 h
    refine .cons ?_ hb (ih (fun x hx => hops x (List.mem_cons_of_mem _ hx)) hd)
    have hop := hops op List.mem_cons_self
    cases op with
    | consume => cases hop
    | pop channel => cases hop
    | push channel value => trivial
    | set state => trivial

theorem append (h : Runs as c b) (h' : Runs bs b d) : Runs (as ++ bs) c d := by
  induction h with
  | nil c => exact h'
  | cons hfinds happly _ ih => exact .cons hfinds happly (ih h')

theorem applyAll (h : Runs ops c d) : applyAll ops c = .ok d := by
  induction h with
  | nil c => rfl
  | cons _ happly _ ih => exact applyAll_cons_eq_ok.2 ⟨_, happly, ih⟩

theorem workload (h : Runs ops c d) :
    d.workload + ops.countP takes = c.workload + ops.countP isPush := by
  induction h with
  | nil c => rfl
  | @cons op ops b c d hfinds happly _ ih =>
    have hfirst := workload_of_apply hfinds happly
    rw [List.countP_cons, List.countP_cons]
    omega

/-- Wherever a run stands, the next operation finds what it takes. -/
theorem exists_next (h : Runs (as ++ op :: bs) c d) :
    ∃ b b', Op.applyAll as c = .ok b ∧ op.Finds b ∧ op.apply b = some b' := by
  induction as generalizing c with
  | nil =>
    cases h with
    | cons hfinds happly _ => exact ⟨c, _, rfl, hfinds, happly⟩
  | cons a as ih =>
    cases h with
    | cons _ happly hrest =>
      obtain ⟨b, b', hb, hnext⟩ := ih hrest
      exact ⟨b, b', applyAll_cons_eq_ok.2 ⟨_, happly, hb⟩, hnext⟩

end Runs

end Op

/-! ## Working channel by channel -/

/-- Reads fit if each of them fits the top of its channel; there are absent ones behind them. -/
theorem Filter.readsFit_iff {rs tops : List (Option String)} :
    readsFit rs tops = true ↔ ∀ i, readFits (rs.getD i none) tops[i]?.join = true := by
  induction rs generalizing tops with
  | nil => exact ⟨fun _ _ => rfl, fun _ => rfl⟩
  | cons r rs ih =>
    rw [readsFit, Bool.and_eq_true, ih]
    have hhead : tops.head?.join = tops[0]?.join := by rw [List.head?_eq_getElem?]
    have htail : ∀ i, tops.tail[i]?.join = tops[i + 1]?.join := fun i => by rw [List.getElem?_tail]
    simp only [hhead, htail]
    constructor
    · rintro ⟨hfirst, hrest⟩ (_ | i)
      · exact hfirst
      · exact hrest i
    · exact fun h => ⟨h 0, fun i => h (i + 1)⟩

namespace ChannelOp

/-- A stack without what the operation pops. -/
def popped (c : ChannelOp) (s : Stack) : Stack := if (concrete c.read).isSome then s.tail else s

/-- A stack with what the operation pushes. -/
def pushed (c : ChannelOp) (s : Stack) : Stack := (concrete c.write).toList ++ s

/-- What the operation makes of a stack. -/
def work (c : ChannelOp) (s : Stack) : Stack := c.pushed (c.popped s)

/-- A read that fits is of the top that is popped. -/
theorem eq_append_popped {c : ChannelOp} {s : Stack} (h : Filter.readFits c.read s.top? = true) :
    s = (concrete c.read).toList ++ c.popped s := by
  unfold popped
  cases hread : concrete c.read with
  | none => rfl
  | some x =>
    have htop : s.head? = some x := by
      rw [Filter.readFits, show Filter.normalRead c.read = some x from hread] at h
      exact of_decide_eq_true h
    exact (List.cons_head?_tail htop).symm

end ChannelOp

/-- Stacks worked by the operations on their channels. Stacks behind the last operation stay. -/
def worked (g : ChannelOp → Stack → Stack) : List ChannelOp → List Stack → List Stack
  | c :: cs, s :: ss => g c s :: worked g cs ss
  | _, ss => ss

/-- There is a stack for each operation, and `P` holds of both. -/
def Matched (P : ChannelOp → Stack → Prop) (cs : List ChannelOp) (ss : List Stack) : Prop :=
  ∀ (i : Nat) (c : ChannelOp), cs[i]? = some c → ∃ s, ss[i]? = some s ∧ P c s

theorem worked_nil (g : ChannelOp → Stack → Stack) (ss : List Stack) : worked g [] ss = ss := by
  cases ss <;> rfl

theorem length_worked (g : ChannelOp → Stack → Stack) (cs : List ChannelOp) (ss : List Stack) :
    (worked g cs ss).length = ss.length := by
  induction cs generalizing ss with
  | nil => rw [worked_nil]
  | cons c cs ih =>
    cases ss with
    | nil => rfl
    | cons s ss => rw [worked, List.length_cons, ih, List.length_cons]

theorem worked_worked (f g : ChannelOp → Stack → Stack) (cs : List ChannelOp) (ss : List Stack) :
    worked g cs (worked f cs ss) = worked (fun c s => g c (f c s)) cs ss := by
  induction cs generalizing ss with
  | nil => rw [worked_nil, worked_nil, worked_nil]
  | cons c cs ih =>
    cases ss with
    | nil => rfl
    | cons s ss => rw [worked, worked, worked, ih]

/-- Channels that no operation is given for are worked by the blank one. -/
theorem getElem?_worked {g : ChannelOp → Stack → Stack} (hblank : ∀ s, g {} s = s)
    (cs : List ChannelOp) (ss : List Stack) (i : Nat) :
    (worked g cs ss)[i]? = ss[i]?.map (g (cs.getD i {})) := by
  induction cs generalizing ss i with
  | nil =>
    have hid : g {} = id := funext hblank
    rw [worked_nil, List.getD_nil, hid, Option.map_id, id]
  | cons c cs ih =>
    cases ss with
    | nil => rfl
    | cons s ss =>
      cases i with
      | zero => rfl
      | succ i => simpa [worked] using ih ss i

theorem exists_stack {cs : List ChannelOp} {ss : List Stack} (h : cs.length ≤ ss.length) {i : Nat}
    {c : ChannelOp} (hc : cs[i]? = some c) : ∃ s, ss[i]? = some s := by
  obtain ⟨hi, _⟩ := List.getElem?_eq_some_iff.1 hc
  exact ⟨_, List.getElem?_eq_getElem (hi.trans_le h)⟩

theorem matched_true {cs : List ChannelOp} {ss : List Stack} (h : cs.length ≤ ss.length) :
    Matched (fun _ _ => True) cs ss := by
  intro i c hc
  obtain ⟨s, hs⟩ := exists_stack h hc
  exact ⟨s, hs, trivial⟩

/-- Reads that fit the tops of as many stacks fit one by one. -/
theorem matched_readFits {cs : List ChannelOp} {ss : List Stack} (h : cs.length ≤ ss.length)
    (hreads : Filter.readsFit (cs.map (·.read)) (ss.map Stack.top?) = true) :
    Matched (fun c s => Filter.readFits c.read s.top? = true) cs ss := by
  intro i c hc
  obtain ⟨s, hs⟩ := exists_stack h hc
  have hfits := Filter.readsFit_iff.1 hreads i
  rw [List.getD_eq_getElem?_getD, List.getElem?_map, List.getElem?_map, hc, hs] at hfits
  exact ⟨s, hs, hfits⟩

namespace Action

/-- Operations for each channel in turn, the first of them being number `i`. -/
def each (f : ChannelOp → Nat → List Op) : List ChannelOp → (i : Nat) → List Op
  | [], _ => []
  | c :: cs, i => f c i ++ each f cs (i + 1)

def popOf (c : ChannelOp) (i : Nat) : List Op := if (concrete c.read).isSome then [.pop i] else []

def pushOf (c : ChannelOp) (i : Nat) : List Op := ((concrete c.write).map (Op.push i)).toList

theorem pops_eq_each (cs : List ChannelOp) (i : Nat) : pops cs i = each popOf cs i := by
  induction cs generalizing i with
  | nil => rfl
  | cons c cs ih =>
    rw [pops, each, ih]
    rfl

theorem pushes_eq_each (cs : List ChannelOp) (i : Nat) : pushes cs i = each pushOf cs i := by
  induction cs generalizing i with
  | nil => rfl
  | cons c cs ih =>
    rw [pushes, each, ih]
    rfl

/-- What the operations of each channel make of its stack, all of them make of all stacks. `R` tells what
it is to go through operations: to do them, or to do them and find what they take. -/
theorem through_each {R : List Op → Configuration → Configuration → Prop} (hnil : ∀ c, R [] c c)
    (happend : ∀ as bs b c d, R as c b → R bs b d → R (as ++ bs) c d)
    {f : ChannelOp → Nat → List Op} {g : ChannelOp → Stack → Stack} {P : ChannelOp → Stack → Prop}
    (hf : ∀ c s state pre post input, P c s → R (f c pre.length) ⟨state, pre ++ s :: post, input⟩
      ⟨state, pre ++ g c s :: post, input⟩)
    {cs : List ChannelOp} {ss : List Stack} (h : Matched P cs ss) (state : String)
    (pre : List Stack) (input : List String) :
    R (each f cs pre.length) ⟨state, pre ++ ss, input⟩ ⟨state, pre ++ worked g cs ss, input⟩ := by
  induction cs generalizing pre ss with
  | nil =>
    rw [worked_nil]
    exact hnil _
  | cons c cs ih =>
    obtain ⟨s, hs, hfirst⟩ := h 0 c rfl
    cases ss with
    | nil => cases hs
    | cons s' ss =>
      obtain rfl : s' = s := Option.some.inj hs
      have hrest := ih (fun i => h (i + 1)) (pre ++ [g c s'])
      rw [List.length_append, List.append_assoc, List.append_assoc] at hrest
      exact happend _ _ _ _ _ (hf c s' state pre ss input hfirst) hrest

theorem channelIndex?_of_split (pre post : List Stack) (s : Stack) :
    channelIndex? (pre ++ s :: post).length pre.length = some pre.length := by
  rw [Op.channelIndex?_of_lt (by simp)]
  rfl

theorem modify_of_split (f : Stack → Stack) (pre post : List Stack) (s : Stack) :
    (pre ++ s :: post).modify pre.length f = pre ++ f s :: post := by
  induction pre with
  | nil => rfl
  | cons p pre ih =>
    rw [List.cons_append, List.length_cons, List.modify_succ_cons, ih, List.cons_append]

theorem applyAll_popOf (c : ChannelOp) (s : Stack) (state : String) (pre post : List Stack)
    (input : List String) :
    Op.applyAll (popOf c pre.length) ⟨state, pre ++ s :: post, input⟩ =
      .ok ⟨state, pre ++ c.popped s :: post, input⟩ := by
  unfold popOf ChannelOp.popped
  by_cases hread : (concrete c.read).isSome = true
  · rw [if_pos hread, if_pos hread]
    refine Op.applyAll_cons_eq_ok.2 ⟨_, ?_, rfl⟩
    rw [Op.apply, channelIndex?_of_split, Option.map_some, modify_of_split]
  · rw [if_neg hread, if_neg hread]
    rfl

theorem applyAll_pushOf (c : ChannelOp) (s : Stack) (state : String) (pre post : List Stack)
    (input : List String) :
    Op.applyAll (pushOf c pre.length) ⟨state, pre ++ s :: post, input⟩ =
      .ok ⟨state, pre ++ c.pushed s :: post, input⟩ := by
  unfold pushOf ChannelOp.pushed
  cases concrete c.write with
  | none => rfl
  | some value =>
    refine Op.applyAll_cons_eq_ok.2 ⟨_, ?_, rfl⟩
    rw [Op.apply, channelIndex?_of_split, Option.map_some, modify_of_split]
    rfl

theorem runs_popOf {c : ChannelOp} {s : Stack} (hfits : Filter.readFits c.read s.top? = true)
    (state : String) (pre post : List Stack) (input : List String) :
    Op.Runs (popOf c pre.length) ⟨state, pre ++ s :: post, input⟩
      ⟨state, pre ++ c.popped s :: post, input⟩ := by
  have happly := applyAll_popOf c s state pre post input
  have hstack := ChannelOp.eq_append_popped hfits
  unfold popOf at happly ⊢
  cases hread : concrete c.read with
  | none =>
    rw [hread] at happly
    exact .of_applyAll (fun _ hop => by cases hop) happly
  | some x =>
    rw [hread] at happly hstack
    obtain ⟨b, hb, hd⟩ := Op.applyAll_cons_eq_ok.1 happly
    obtain rfl := Except.ok.inj hd
    refine .cons ⟨pre.length, x, c.popped s, channelIndex?_of_split .., ?_⟩ hb (.nil _)
    rw [List.getElem?_append_right (Nat.le_refl _), Nat.sub_self]
    exact congrArg some hstack

section

variable {cs : List ChannelOp} {c : Configuration}

theorem applyAll_each {f : ChannelOp → Nat → List Op} {g : ChannelOp → Stack → Stack}
    (hf : ∀ c s state pre post input, Op.applyAll (f c pre.length) ⟨state, pre ++ s :: post, input⟩ =
      .ok ⟨state, pre ++ g c s :: post, input⟩) (h : cs.length ≤ c.channels.length) :
    Op.applyAll (each f cs 0) c = .ok { c with channels := worked g cs c.channels } :=
  through_each (R := fun ops c d => Op.applyAll ops c = .ok d) (fun _ => rfl)
    (fun _ _ b _ _ has hbs => Op.applyAll_append_eq_ok.2 ⟨b, has, hbs⟩)
    (fun c s state pre post input _ => hf c s state pre post input) (matched_true h) c.state [] c.input

theorem applyAll_pops (h : cs.length ≤ c.channels.length) :
    Op.applyAll (pops cs 0) c = .ok { c with channels := worked ChannelOp.popped cs c.channels } := by
  rw [pops_eq_each]
  exact applyAll_each applyAll_popOf h

theorem applyAll_pushes (h : cs.length ≤ c.channels.length) :
    Op.applyAll (pushes cs 0) c = .ok { c with channels := worked ChannelOp.pushed cs c.channels } := by
  rw [pushes_eq_each]
  exact applyAll_each applyAll_pushOf h

theorem runs_pops (h : cs.length ≤ c.channels.length)
    (hreads : Filter.readsFit (cs.map (·.read)) c.tops = true) :
    Op.Runs (pops cs 0) c { c with channels := worked ChannelOp.popped cs c.channels } := by
  rw [pops_eq_each]
  exact through_each (P := fun c s => Filter.readFits c.read s.top? = true) Op.Runs.nil
    (fun _ _ _ _ _ => Op.Runs.append)
    (fun _ _ state pre post input hfits => runs_popOf hfits state pre post input)
    (matched_readFits h hreads) c.state [] c.input

/-- What a lowered transition makes of a configuration. -/
def outcome (target input : String) (cs : List ChannelOp) (c : Configuration) : Configuration where
  state := target
  channels := worked ChannelOp.work cs c.channels
  input := if input = epsilon then c.input else c.input.tail

theorem applyAll_take (input : String) (c : Configuration) :
    Op.applyAll (if input = epsilon then [] else [.consume]) c =
      .ok { c with input := if input = epsilon then c.input else c.input.tail } := by
  split <;> rfl

/-- When all is popped, a lowered transition pushes and goes to its target. -/
theorem applyAll_rest (target : String) (h : cs.length ≤ c.channels.length) :
    Op.applyAll (pushes cs 0 ++ [.set target])
        { c with channels := worked ChannelOp.popped cs c.channels } =
      .ok { c with state := target, channels := worked ChannelOp.work cs c.channels } := by
  refine Op.applyAll_append_eq_ok.2 ⟨_, applyAll_pushes ?_, ?_⟩
  · rwa [length_worked]
  · rw [worked_worked]
    rfl

/-- **A lowered transition works channel by channel.** -/
theorem apply_build (target input : String) (h : cs.length ≤ c.channels.length) :
    (build target input cs).apply true c = .ok (outcome target input cs c) := by
  rw [apply, if_pos rfl, build, List.append_assoc, List.append_assoc]
  refine Op.applyAll_append_eq_ok.2 ⟨_, applyAll_take input c, ?_⟩
  exact Op.applyAll_append_eq_ok.2 ⟨_, applyAll_pops h, applyAll_rest target h⟩

/-- **Where its reads and its label are found, a lowered transition finds all that it takes.** -/
theorem runs_build (target : String) {input : String} (h : cs.length ≤ c.channels.length)
    (hreads : Filter.readsFit (cs.map (·.read)) c.tops = true)
    (hinput : input ≠ epsilon → c.input ≠ []) :
    Op.Runs (build target input cs).ops c (outcome target input cs c) := by
  let taken : Configuration :=
    { c with input := if input = epsilon then c.input else c.input.tail }
  have htake : Op.Runs (if input = epsilon then [] else [.consume]) c taken := by
    unfold taken
    by_cases hepsilon : input = epsilon
    · rw [if_pos hepsilon, if_pos hepsilon]
      exact .nil c
    · rw [if_neg hepsilon, if_neg hepsilon]
      exact .cons (hinput hepsilon) rfl (.nil _)
  have hrest : ∀ op ∈ pushes cs 0 ++ [.set target], op.takes = false := by
    intro op hop
    rcases List.mem_append.1 hop with hop | hop
    · obtain ⟨j, value, _, _, rfl⟩ := mem_pushes hop
      rfl
    · rw [List.mem_singleton.1 hop]
      rfl
  rw [build, List.append_assoc, List.append_assoc]
  have hpops := runs_pops (c := taken) h hreads
  exact htake.append (hpops.append (.of_applyAll hrest (applyAll_rest (c := taken) target h)))

end

end Action

/-! ## Rows of a compiled table -/

/-- What a transition on `label` does by the book: it takes its label off the input, unless that is
epsilon, and of every stack it exchanges the symbol that it reads, if any, for the one that it writes. -/
structure Configuration.Exchanged (label target : String) (cs : List ChannelOp)
    (c d : Configuration) : Prop where
  state : d.state = target
  input : c.input = taken label ++ d.input
  length : d.channels.length = c.channels.length
  channel : ∀ i < c.channels.length, ∃ rest : Stack,
    c.channels[i]? = some ((concrete (cs.getD i {}).read).toList ++ rest) ∧
    d.channels[i]? = some ((concrete (cs.getD i {}).write).toList ++ rest)

/-- A lowered transition whose reads and label are found does what a transition does by the book. -/
theorem Action.exchanged_outcome (target : String) {label : String} {cs : List ChannelOp}
    {c : Configuration} (hreads : Filter.readsFit (cs.map (·.read)) c.tops = true)
    (hlabel : label ≠ epsilon → c.head? = some label) :
    c.Exchanged label target cs (outcome target label cs c) := by
  refine ⟨rfl, ?_, length_worked _ _ _, fun i hi => ?_⟩
  · rw [outcome, taken]
    by_cases hepsilon : label = epsilon
    · rw [if_pos hepsilon, if_pos hepsilon, List.nil_append]
    · rw [if_neg hepsilon, if_neg hepsilon]
      exact (List.cons_head?_tail (hlabel hepsilon)).symm
  · obtain ⟨s, hs⟩ : ∃ s, c.channels[i]? = some s := ⟨_, List.getElem?_eq_getElem hi⟩
    have hfits := Filter.readsFit_iff.1 hreads i
    rw [Configuration.tops, List.getElem?_map, hs,
      show (none : Option String) = ChannelOp.read {} from rfl, List.getD_map] at hfits
    have hstack : s = (concrete (cs.getD i {}).read).toList ++ (cs.getD i {}).popped s :=
      ChannelOp.eq_append_popped hfits
    refine ⟨(cs.getD i {}).popped s, by rw [hs, ← hstack], ?_⟩
    rw [outcome, getElem?_worked (fun _ => rfl), hs]
    rfl

/-- Where the filter of a lowered entry accepts, its label is next and its reads fit. -/
theorem Entry.Lowered.meets {count : Nat} {target : String} {ops : List ChannelOp} {e : Entry}
    (h : e.Lowered count target ops) {head : Option String} {tops : List (Option String)}
    (haccepts : e.filter.accepts head tops = true) :
    (e.label ≠ epsilon → head = some e.label) ∧ Filter.readsFit (ops.map (·.read)) tops = true := by
  have hunpadded := Filter.accepts_padded ⟨e.label, ops.map (·.read)⟩ count head tops 0
  rw [← h.filter, List.replicate_zero, List.append_nil, haccepts] at hunpadded
  obtain ⟨hhead, hreads⟩ := Bool.and_eq_true_iff.1 hunpadded.symm
  refine ⟨fun hne => ?_, hreads⟩
  simpa [hne] using hhead

namespace Compiled

variable {t : Compiled} {state : String} {row : Entry}

/-- **A row that fires does what a transition does by the book.** Every row of a compiled table was written,
as a transition of some statement, and where its filter matches, with a stack for each channel of the table,
it can be applied. Then the state is its target, the input has lost its label, unless that is epsilon, and
each stack by itself has lost the symbol that the transition reads off it and gained the one that it
writes. No operation that takes a symbol is done in vain, so that the workload grows by what is pushed and
shrinks by what is popped and consumed. -/
theorem written_row_effect {cap : Capacity} {settings : Settings} {ss : List Statement}
    (hcompiled : (compileStatements cap settings ss).result = .ok t) (hrow : row ∈ t.entriesFor state) :
    ∃ s ∈ ss, ∃ u, Part.transition u ∈ s.parts ∧ row.label = u.label ∧
      row.Lowered t.stackCount.toNat row.action.target u.ops ∧
      ∀ shot : Snapshot, shot.config.channels.length = t.stackCount.toNat →
        row.filter.accepts shot.config.head? shot.config.tops = true →
        ∃ r, shot.apply row = .ok r ∧
          shot.config.Exchanged row.label row.action.target u.ops r.config ∧
          (∀ before op after, row.action.ops = before ++ op :: after → op.takes = true →
            ∃ c d, Op.applyAll before shot.config = .ok c ∧ op.apply c = some d ∧
              d.workload + 1 = c.workload) ∧
          r.workload + row.action.ops.countP Op.isConsume + row.action.ops.countP Op.isPop =
            shot.workload + row.action.ops.countP Op.isPush := by
  obtain ⟨s, hs, u, hu, hlabel, target, _, hlowered⟩ := exists_written_of_compiled hcompiled hrow
  obtain rfl : row.action.target = target := by rw [hlowered.action]; rfl
  refine ⟨s, hs, u, hu, hlabel, hlowered, fun shot hchannels haccepts => ?_⟩
  have hnarrow : u.ops.length ≤ shot.config.channels.length := by
    rw [hchannels]
    exact hlowered.narrow
  obtain ⟨hinput, hreads⟩ := hlowered.meets haccepts
  have hruns := Action.runs_build row.action.target hnarrow hreads fun hne hnil => by
    have hhead := hinput hne
    rw [Configuration.head?, hnil] at hhead
    cases hhead
  rw [← hlowered.action] at hruns
  have happly : shot.apply row = .ok ({ shot with
      config := Action.outcome row.action.target row.label u.ops shot.config }.record row.label) :=
    Snapshot.apply_eq_ok_iff.2 ⟨_, hruns.applyAll, rfl⟩
  have hconfig : ({ shot with
      config := Action.outcome row.action.target row.label u.ops shot.config }.record
        row.label).config = Action.outcome row.action.target row.label u.ops shot.config :=
    Snapshot.record_config _ _
  refine ⟨_, happly, ?_, ?_, ?_⟩
  · rw [hconfig]
    exact Action.exchanged_outcome row.action.target hreads hinput
  · intro before op after hops htakes
    rw [hops] at hruns
    obtain ⟨c, d, hc, hfinds, hd⟩ := hruns.exists_next
    have hwork := Op.workload_of_apply hfinds hd
    rw [if_pos htakes, Op.isPush_eq_false htakes] at hwork
    exact ⟨c, d, hc, hd, hwork⟩
  · have hwork := hruns.workload
    rw [Op.countP_takes, ← Nat.add_assoc] at hwork
    rwa [Snapshot.workload, hconfig]

/-- Where `b` is all of the input and `a` all of the stack, the row for `b` of `anbn` takes both. -/
theorem anbn_written_row_effect :
    let row : Entry := ⟨"b", ⟨"b", [some "a"]⟩, ⟨"q1", [.consume, .pop 0, .set "q1"]⟩, some ⟨1, 26⟩⟩
    let shot : Snapshot := { config := ⟨"q1", [["a"]], ["b"]⟩ }
    ∃ (u : TransitionPart) (r : Snapshot), shot.apply row = .ok r ∧
      shot.config.Exchanged "b" "q1" u.ops r.config ∧ r.workload = 0 := by
  intro row shot
  have hcompiled : (compileStatements .ample {} Machine.counting).result = .ok anbn := by cbv
  have hrow : row ∈ anbn.entriesFor "q1" := List.mem_singleton_self row
  obtain ⟨_, _, u, _, _, _, heffect⟩ := written_row_effect hcompiled hrow
  obtain ⟨r, happly, hexchanged, _, hwork⟩ := heffect shot rfl (by decide)
  refine ⟨u, r, happly, hexchanged, ?_⟩
  change r.workload + 1 + 1 = 2 + 0 at hwork
  omega

end Compiled

end ArrowMachine
