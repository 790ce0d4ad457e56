import ArrowMachine.Proofs.Run.Path
import ArrowMachine.Proofs.Run.Searching

/-!
What one round of a search does.

`Round plan st result` lists the six ways a round can go: nothing is left, the budget is used up, the top
branch is dropped as known, it is expanded, one of its entries is found to accept, or one has no channel.
`State.round_advance` says that `advance` always goes one of these ways, and all that is proved of
searches goes through it.
-/
namespace ArrowMachine

open Search (Plan Branch State Ending accepts better)

/-- An entry can be applied to `c` and what it leads to is not final. -/
def Compiled.Passes (t : Compiled) (c : Configuration) (e : Entry) : Prop :=
  ∃ d, e.action.apply true c = .ok d ∧ t.isFinal d = false

/-! ## Snapshots and their successors -/

namespace Snapshot

@[simp] theorem record_config (s : Snapshot) (label : String) :
    (s.record label).config = s.config := by
  unfold record
  split <;> rfl

@[simp] theorem record_halted (s : Snapshot) (label : String) :
    (s.record label).halted = s.halted := by
  unfold record
  split <;> rfl

theorem apply_eq_ok_iff {s r : Snapshot} {e : Entry} :
    s.apply e = .ok r ↔
      ∃ d, e.action.apply true s.config = .ok d ∧ r = { s with config := d }.record e.label := by
  unfold apply
  cases e.action.apply true s.config with
  | ok c => simp [eq_comm]
  | error fault => simp

theorem apply_of_action {s : Snapshot} {e : Entry} {d : Configuration}
    (h : e.action.apply true s.config = .ok d) :
    s.apply e = .ok ({ s with config := d }.record e.label) :=
  apply_eq_ok_iff.2 ⟨d, h, rfl⟩

theorem config_of_apply {s r : Snapshot} {e : Entry} (h : s.apply e = .ok r) :
    e.action.apply true s.config = .ok r.config ∧ r.halted = s.halted := by
  obtain ⟨d, hd, rfl⟩ := apply_eq_ok_iff.1 h
  exact ⟨by simpa using hd, by simp⟩

theorem accepts_of_not_halted {t : Compiled} {s : Snapshot} (h : s.halted = false) :
    accepts t s = t.isFinal s.config := by
  simp [accepts, h, Compiled.isFinal]

/-- The snapshots behind entries, as far as these can be applied. -/
def after (s : Snapshot) (es : List Entry) : List Snapshot :=
  es.filterMap fun e => (s.apply e).toOption

/-- The snapshots behind the entries that match, in the order of the table. -/
def successors (t : Compiled) (s : Snapshot) : List Snapshot := s.after (t.choices s.config)

theorem mem_after_iff {s r : Snapshot} {es : List Entry} :
    r ∈ s.after es ↔ ∃ e ∈ es, s.apply e = .ok r := by
  unfold after
  rw [List.mem_filterMap]
  refine exists_congr fun e => and_congr_right fun _ => ?_
  cases s.apply e <;> simp [Except.toOption]

theorem after_cons_of_ok {s r : Snapshot} {e : Entry} {es : List Entry} (h : s.apply e = .ok r) :
    s.after (e :: es) = r :: s.after es := by
  simp [after, h, Except.toOption]

theorem fires_of_mem_successors {t : Compiled} {s r : Snapshot} (h : r ∈ s.successors t) :
    ∃ e, t.Fires s.config e r.config := by
  obtain ⟨e, he, hr⟩ := mem_after_iff.1 h
  exact ⟨e, he, (config_of_apply hr).1⟩

theorem halted_of_mem_successors {t : Compiled} {s r : Snapshot} (h : r ∈ s.successors t) :
    r.halted = s.halted := by
  obtain ⟨e, _, hr⟩ := mem_after_iff.1 h
  exact (config_of_apply hr).2

theorem Within.of_mem_successors {t : Compiled} {w : List String} {s r : Snapshot}
    (hs : s.Within w) (h : r ∈ s.successors t) : r.Within w := by
  obtain ⟨e, he⟩ := fires_of_mem_successors h
  exact ⟨(halted_of_mem_successors h).trans hs.1, he.input_suffix.trans hs.2⟩

end Snapshot

/-- An entry that leads to a final configuration does not pass. -/
theorem Compiled.not_passes_of_final {t : Compiled} {s r : Snapshot} {e : Entry}
    (happly : s.apply e = .ok r) (hfinal : t.isFinal r.config = true) :
    ¬ t.Passes s.config e := by
  rintro ⟨d, hd, hnot⟩
  rw [(Snapshot.config_of_apply happly).1] at hd
  rw [Except.ok.inj hd, hnot] at hfinal
  cases hfinal

/-! ## Making branches -/

namespace Search

/-- Snapshots as branches with numbers from `n` on. -/
def number : (n : Nat) → List Snapshot → List Branch
  | _, [] => []
  | n, s :: ss => ⟨n, s⟩ :: number (n + 1) ss

/-- The best of the present best branch and those that are added. -/
def bestOf (current : Branch) (added : List Branch) : Branch :=
  added.foldl (fun best b => better b best) current

theorem map_shot_number (n : Nat) (ss : List Snapshot) : (number n ss).map (·.shot) = ss := by
  induction ss generalizing n with
  | nil => rfl
  | cons s ss ih => rw [number, List.map_cons, ih]

theorem mem_number_iff {n : Nat} {ss : List Snapshot} {b : Branch} :
    b ∈ number n ss ↔ n ≤ b.serial ∧ ss[b.serial - n]? = some b.shot := by
  induction ss generalizing n with
  | nil => simp [number]
  | cons s ss ih =>
    rw [number, List.mem_cons, ih]
    constructor
    · rintro (rfl | ⟨hn, hs⟩)
      · simp
      · refine ⟨by omega, ?_⟩
        rw [show b.serial - n = b.serial - (n + 1) + 1 by omega]
        simpa using hs
    · rintro ⟨hn, hs⟩
      rcases Nat.lt_or_eq_of_le hn with hlt | heq
      · rw [show b.serial - n = b.serial - (n + 1) + 1 by omega] at hs
        exact Or.inr ⟨hlt, by simpa using hs⟩
      · obtain ⟨serial, shot⟩ := b
        obtain rfl : n = serial := heq
        left
        simpa [eq_comm] using hs

namespace State

/-- Puts new branches on the work stack, the first one first. -/
def addAll (st : State) (ss : List Snapshot) : State := ss.foldl add st

theorem addAll_pending (st : State) (ss : List Snapshot) :
    (st.addAll ss).pending = (number st.fresh ss).reverse ++ st.pending := by
  induction ss generalizing st with
  | nil => rfl
  | cons s ss ih =>
    rw [addAll, List.foldl_cons, ← addAll, ih]
    simp [add, number]

theorem addAll_best (st : State) (ss : List Snapshot) :
    (st.addAll ss).best = bestOf st.best (number st.fresh ss) := by
  induction ss generalizing st with
  | nil => rfl
  | cons s ss ih =>
    rw [addAll, List.foldl_cons, ← addAll, ih]
    rfl

theorem addAll_fresh (st : State) (ss : List Snapshot) :
    (st.addAll ss).fresh = st.fresh + ss.length := by
  induction ss generalizing st with
  | nil => rfl
  | cons s ss ih =>
    rw [addAll, List.foldl_cons, ← addAll, ih]
    simp only [add, List.length_cons]
    omega

theorem addAll_explored_rounds (st : State) (ss : List Snapshot) :
    (st.addAll ss).explored = st.explored ∧ (st.addAll ss).rounds = st.rounds := by
  induction ss generalizing st with
  | nil => exact ⟨rfl, rfl⟩
  | cons s ss ih => exact ih (st.add s)

/-! ## Spreading -/

variable {plan : Plan} {s : Snapshot}

theorem spread_append (hs : s.halted = false) {pre : List Entry} (es : List Entry)
    (hpre : ∀ e ∈ pre, plan.table.Passes s.config e) (st : State) :
    spread plan s (pre ++ es) st = spread plan s es (st.addAll (s.after pre)) := by
  induction pre generalizing st with
  | nil => rfl
  | cons e pre ih =>
    obtain ⟨d, hd, hfinal⟩ := hpre e (by simp)
    have happly := Snapshot.apply_of_action hd
    have haccepts : accepts plan.table ({ s with config := d }.record e.label) = false := by
      rw [Snapshot.accepts_of_not_halted (by simpa using hs)]
      simpa using hfinal
    rw [List.cons_append, spread, happly]
    simp only [haccepts, Bool.false_eq_true, if_false]
    rw [ih (fun x hx => hpre x (List.mem_cons_of_mem _ hx)), Snapshot.after_cons_of_ok happly]
    rfl

theorem spread_of_passes (hs : s.halted = false) {es : List Entry}
    (hes : ∀ e ∈ es, plan.table.Passes s.config e) (st : State) :
    spread plan s es st = .ok (st.addAll (s.after es)) := by
  have h := spread_append hs [] hes st
  rwa [List.append_nil] at h

end State

/-- Where some element of a list lacks a property, there is a first one. -/
theorem exists_first_not {α : Type} (p : α → Prop) (l : List α) :
    (∀ a ∈ l, p a) ∨ ∃ pre a post, l = pre ++ a :: post ∧ (∀ x ∈ pre, p x) ∧ ¬ p a := by
  induction l with
  | nil => exact Or.inl (by simp)
  | cons a l ih =>
    by_cases ha : p a
    · rcases ih with hall | ⟨pre, x, post, rfl, hpre, hx⟩
      · exact Or.inl (by simpa [ha] using hall)
      · exact Or.inr ⟨a :: pre, x, post, rfl, by simpa [ha] using hpre, hx⟩
    · exact Or.inr ⟨[], a, l, rfl, by simp, ha⟩

theorem first_not_unique {α : Type} {p : α → Prop} {pre post pre' post' : List α} {a a' : α}
    (hpre : ∀ x ∈ pre, p x) (ha : ¬ p a) (hpre' : ∀ x ∈ pre', p x) (ha' : ¬ p a')
    (h : pre ++ a :: post = pre' ++ a' :: post') : pre = pre' ∧ a = a' := by
  induction pre generalizing pre' with
  | nil =>
    rcases pre' with _ | ⟨x, pre'⟩
    · exact ⟨rfl, (List.cons.inj h).1⟩
    · obtain rfl : a = x := (List.cons.inj h).1
      exact absurd (hpre' a List.mem_cons_self) ha
  | cons x pre ih =>
    rcases pre' with _ | ⟨x', pre'⟩
    · obtain rfl : x = a' := (List.cons.inj h).1
      exact absurd (hpre x List.mem_cons_self) ha'
    · obtain ⟨rfl, htail⟩ := List.cons.inj h
      obtain ⟨rfl, rfl⟩ := ih (fun y hy => hpre y (List.mem_cons_of_mem _ hy))
        (fun y hy => hpre' y (List.mem_cons_of_mem _ hy)) htail
      exact ⟨rfl, rfl⟩

/-! ## Rounds -/

/-- The next round takes `b` off the work stack, leaves `rest` on it, and does not drop `b`. -/
structure Picks (plan : Plan) (st : State) (b : Branch) (rest : List Branch) : Prop where
  pending : st.pending = b :: rest
  unspent : st.isSpent plan = false
  new : plan.prune = true → b.shot.footprint ∉ st.explored

theorem Picks.unique {plan : Plan} {st : State} {b b' : Branch} {rest rest' : List Branch}
    (h : Picks plan st b rest) (h' : Picks plan st b' rest') : b = b' ∧ rest = rest' :=
  List.cons.inj (h.pending.symm.trans h'.pending)

/-- The state behind a round that expands `b`. -/
structure Expands (plan : Plan) (st : State) (b : Branch) (rest : List Branch) (st' : State) :
    Prop where
  pending : st'.pending = (number st.fresh (b.shot.successors plan.table)).reverse ++ rest
  explored : ∀ f, f ∈ st'.explored ↔ f ∈ st.explored ∨ plan.prune = true ∧ f = b.shot.footprint
  best : st'.best = if plan.table.choices b.shot.config = [] then (st.halt b).best
    else bestOf st.best (number st.fresh (b.shot.successors plan.table))
  rounds : st'.rounds = st.rounds + 1
  fresh : st'.fresh = st.fresh + (b.shot.successors plan.table).length

namespace Expands

variable {plan : Plan} {st st' : State} {b : Branch} {rest : List Branch}

theorem map_shot (h : Expands plan st b rest st') : st'.pending.map (·.shot) =
    (b.shot.successors plan.table).reverse ++ rest.map (·.shot) := by
  rw [h.pending, List.map_append, List.map_reverse, map_shot_number]

/-- What holds of all that was pending holds of all that is, if successors keep it. -/
theorem forall_pending {P : Snapshot → Prop} (h : Expands plan st b rest st')
    (hpicks : Picks plan st b rest) (hP : ∀ x ∈ st.pending, P x.shot)
    (hsuccessors : ∀ r ∈ b.shot.successors plan.table, P b.shot → P r) :
    ∀ x ∈ st'.pending, P x.shot := by
  intro x hx
  rw [h.pending] at hx
  rcases List.mem_append.1 hx with hx | hx
  · have hshot := (mem_number_iff.1 (List.mem_reverse.1 hx)).2
    exact hsuccessors _ (List.mem_of_getElem? hshot) (hP b (by simp [hpicks.pending]))
  · exact hP x (by simp [hpicks.pending, hx])

end Expands

/-- The ways a round can go. -/
inductive Round (plan : Plan) (st : State) : Except Ending State → Prop
  | ranDry (told : List String) (hpending : st.pending = []) :
      Round plan st (.error ⟨.settled .ranDry st.best.shot, told⟩)
  | cutShort (told : List String) (hpending : st.pending ≠ []) (hspent : st.isSpent plan = true) :
      Round plan st (.error ⟨.settled .cutShort st.best.shot, told⟩)
  | drops {b : Branch} {rest : List Branch} (hpending : st.pending = b :: rest)
      (hspent : st.isSpent plan = false) (hprune : plan.prune = true)
      (hknown : b.shot.footprint ∈ st.explored) :
      Round plan st (.ok { st with pending := rest })
  | expands {b : Branch} {rest : List Branch} {st' : State} (hpicks : Picks plan st b rest)
      (hpasses : ∀ e ∈ plan.table.choices b.shot.config, plan.table.Passes b.shot.config e)
      (hexpands : Expands plan st b rest st') :
      Round plan st (.ok st')
  | finds {b : Branch} {rest : List Branch} {pre post : List Entry} {e : Entry} {r : Snapshot}
      (told : List String) (hpicks : Picks plan st b rest)
      (hchoices : plan.table.choices b.shot.config = pre ++ e :: post)
      (hpasses : ∀ x ∈ pre, plan.table.Passes b.shot.config x)
      (happly : b.shot.apply e = .ok r) (hfinal : plan.table.isFinal r.config = true) :
      Round plan st (.error ⟨.settled .accepted r, told⟩)
  | strays {b : Branch} {rest : List Branch} {pre post : List Entry} {e : Entry} (channel : Int)
      (told : List String) (hpicks : Picks plan st b rest)
      (hchoices : plan.table.choices b.shot.config = pre ++ e :: post)
      (hpasses : ∀ x ∈ pre, plan.table.Passes b.shot.config x)
      (happly : ∀ d, e.action.apply true b.shot.config ≠ .ok d) :
      Round plan st (.error ⟨.noChannel channel, told⟩)

namespace State

variable {plan : Plan} {st : State}

/-- Spreading over the entries that match goes one of three ways. `st` stands here for the state with
the branch taken off and its footprint noted. -/
theorem spread_choices (plan : Plan) {s : Snapshot} (hs : s.halted = false) (st : State)
    (es : List Entry) :
    ((∀ e ∈ es, plan.table.Passes s.config e) ∧
      spread plan s es st = .ok (st.addAll (s.after es))) ∨
    (∃ pre e post r told, es = pre ++ e :: post ∧ (∀ x ∈ pre, plan.table.Passes s.config x) ∧
      s.apply e = .ok r ∧ plan.table.isFinal r.config = true ∧
      spread plan s es st = .error ⟨.settled .accepted r, told⟩) ∨
    (∃ pre e post channel told, es = pre ++ e :: post ∧
      (∀ x ∈ pre, plan.table.Passes s.config x) ∧
      (∀ d, e.action.apply true s.config ≠ .ok d) ∧
      spread plan s es st = .error ⟨.noChannel channel, told⟩) := by
  rcases exists_first_not (plan.table.Passes s.config) es with
    hall | ⟨pre, e, post, rfl, hpre, he⟩
  · exact Or.inl ⟨hall, spread_of_passes hs hall st⟩
  right
  rw [spread_append hs _ hpre]
  cases happly : s.apply e with
  | ok r =>
    left
    have ⟨haction, hhalted⟩ := Snapshot.config_of_apply happly
    have hfinal : plan.table.isFinal r.config = true := by
      by_contra hnot
      exact he ⟨r.config, haction, by simpa using hnot⟩
    have haccepts : accepts plan.table r = true := by
      rw [Snapshot.accepts_of_not_halted (hhalted.trans hs), hfinal]
    refine ⟨pre, e, post, r, (st.addAll (s.after pre)).told.reverse, rfl, hpre, happly, hfinal, ?_⟩
    rw [spread, happly]
    simp only [haccepts, if_true]
    rfl
  | error fault =>
    right
    refine ⟨pre, e, post, fault.channel, (st.addAll (s.after pre)).told.reverse, rfl, hpre, ?_, ?_⟩
    · intro d hd
      rw [Snapshot.apply_of_action hd] at happly
      cases happly
    · rw [spread, happly]
      rfl

/-- Expanding a branch that was picked. `st₁` is the state that `expand` is given. -/
theorem round_expand {b : Branch} {rest : List Branch} {st₁ : State}
    (hb : b.shot.halted = false) (hpicks : Picks plan st b rest) (hpending : st₁.pending = rest)
    (hexplored : ∀ f, f ∈ st₁.explored ↔
      f ∈ st.explored ∨ plan.prune = true ∧ f = b.shot.footprint)
    (hbest : st₁.best = st.best) (hrounds : st₁.rounds = st.rounds)
    (hfresh : st₁.fresh = st.fresh) : Round plan st (expand plan b st₁) := by
  simp only [expand, tell]
  generalize plan.note _ _ = told
  change Round plan st (if (plan.table.choices b.shot.config).isEmpty then _ else
    spread plan b.shot (plan.table.choices b.shot.config) _)
  by_cases hnone : plan.table.choices b.shot.config = []
  · have hsucc : b.shot.successors plan.table = [] := by
      rw [Snapshot.successors, hnone]
      rfl
    rw [hnone, List.isEmpty_nil, if_pos rfl]
    refine .expands hpicks (by simp [hnone]) ⟨?_, hexplored, ?_, ?_, ?_⟩
    · simp [halt, hsucc, number, hpending]
    · rw [if_pos hnone]
      simp [halt, hbest]
    · simp [halt, hrounds]
    · simp [halt, hfresh, hsucc]
  · rw [if_neg (by simpa using hnone)]
    rcases spread_choices plan hb
        { st₁ with rounds := st₁.rounds + 1, told := told } (plan.table.choices b.shot.config) with
      ⟨hpasses, hspread⟩ | ⟨pre, e, post, r, told, hes, hpre, happly, hfinal, hspread⟩ |
      ⟨pre, e, post, channel, told, hes, hpre, happly, hspread⟩
    · rw [hspread]
      refine .expands hpicks hpasses ⟨?_, ?_, ?_, ?_, ?_⟩
      · rw [addAll_pending, hpending, hfresh]
        rfl
      · intro f
        rw [(addAll_explored_rounds _ _).1]
        exact hexplored f
      · rw [if_neg hnone, addAll_best, hbest, hfresh]
        rfl
      · rw [(addAll_explored_rounds _ _).2, hrounds]
      · rw [addAll_fresh, hfresh]
        rfl
    · rw [hspread]
      exact .finds told hpicks hes hpre happly hfinal
    · rw [hspread]
      exact .strays channel told hpicks hes hpre happly

/-- `advance` goes one of the ways of a round. -/
theorem round_advance (plan : Plan) (hpending : ∀ b ∈ st.pending, b.shot.halted = false) :
    Round plan st (st.advance plan) := by
  unfold advance
  cases hst : st.pending with
  | nil => exact .ranDry _ hst
  | cons b rest =>
    have hb : b.shot.halted = false := hpending b (by simp [hst])
    cases hspent : st.isSpent plan with
    | true =>
      exact .cutShort _ (by simp [hst]) hspent
    | false =>
      simp only [Bool.false_eq_true, if_false]
      cases hprune : plan.prune with
      | false =>
        simp only [Bool.false_eq_true, if_false]
        refine round_expand hb ⟨hst, hspent, by simp [hprune]⟩ rfl ?_ rfl rfl rfl
        simp [hprune]
      | true =>
        simp only [if_true]
        by_cases hknown : b.shot.footprint ∈ st.explored
        · rw [if_pos (by simpa using hknown)]
          exact .drops hst hspent hprune hknown
        · rw [if_neg (by simpa using hknown)]
          refine round_expand hb ⟨hst, hspent, fun _ => hknown⟩ rfl ?_ rfl rfl rfl
          intro f
          simp only [Std.HashSet.mem_insert, beq_iff_eq, hprune, true_and]
          rw [or_comm, eq_comm]

/-! ## Rounds that are known beforehand -/

theorem advance_of_ranDry (plan : Plan) (hpending : st.pending = []) :
    ∃ told, st.advance plan = .error ⟨.settled .ranDry st.best.shot, told⟩ := by
  unfold advance
  rw [hpending]
  exact ⟨_, rfl⟩

theorem advance_of_known {b : Branch} {rest : List Branch} (hpending : st.pending = b :: rest)
    (hspent : st.isSpent plan = false) (hprune : plan.prune = true)
    (hknown : b.shot.footprint ∈ st.explored) :
    st.advance plan = .ok { st with pending := rest } := by
  unfold advance
  rw [hpending]
  simp [hspent, hprune, hknown]

/-- A round that takes up a branch expands it, or goes by its first entry that does not pass. -/
theorem advance_of_picks {b : Branch} {rest : List Branch}
    (hhalted : ∀ x ∈ st.pending, x.shot.halted = false) (hpicks : Picks plan st b rest) :
    ((∀ e ∈ plan.table.choices b.shot.config, plan.table.Passes b.shot.config e) ∧
      ∃ st', st.advance plan = .ok st' ∧ Expands plan st b rest st') ∨
    (∃ pre e post, plan.table.choices b.shot.config = pre ++ e :: post ∧
      (∀ x ∈ pre, plan.table.Passes b.shot.config x) ∧ ¬ plan.table.Passes b.shot.config e ∧
      ∀ r, b.shot.apply e = .ok r → ∃ told, st.advance plan = .error ⟨.settled .accepted r, told⟩) := by
  have hround := round_advance plan hhalted
  generalize st.advance plan = result at hround
  cases hround with
  | ranDry told hpending =>
    rw [hpicks.pending] at hpending
    cases hpending
  | cutShort told hpending hspent =>
    rw [hpicks.unspent] at hspent
    cases hspent
  | drops hpending hspent hprune hknown =>
    rw [hpicks.pending] at hpending
    obtain ⟨rfl, rfl⟩ := List.cons.inj hpending
    exact absurd hknown (hpicks.new hprune)
  | expands hpicks' hpasses hexpands =>
    obtain ⟨rfl, rfl⟩ := hpicks.unique hpicks'
    exact Or.inl ⟨hpasses, _, rfl, hexpands⟩
  | @finds b' rest' pre post e r told hpicks' hchoices hpasses happly hfinal =>
    obtain ⟨rfl, rfl⟩ := hpicks.unique hpicks'
    refine Or.inr ⟨pre, e, post, hchoices, hpasses, Compiled.not_passes_of_final happly hfinal, ?_⟩
    intro r' happly'
    rw [happly] at happly'
    exact ⟨told, by rw [Except.ok.inj happly']⟩
  | @strays b' rest' pre post e channel told hpicks' hchoices hpasses happly =>
    obtain ⟨rfl, rfl⟩ := hpicks.unique hpicks'
    refine Or.inr ⟨pre, e, post, hchoices, hpasses, fun ⟨d, hd, _⟩ => happly d hd, ?_⟩
    intro r happly'
    exact absurd (Snapshot.config_of_apply happly').1 (happly _)

theorem advance_of_passes {b : Branch} {rest : List Branch}
    (hhalted : ∀ x ∈ st.pending, x.shot.halted = false) (hpicks : Picks plan st b rest)
    (hpasses : ∀ e ∈ plan.table.choices b.shot.config, plan.table.Passes b.shot.config e) :
    ∃ st', st.advance plan = .ok st' ∧ Expands plan st b rest st' := by
  rcases advance_of_picks hhalted hpicks with ⟨_, hexpands⟩ | ⟨pre, e, post, hchoices, _, hnot, _⟩
  · exact hexpands
  · exact absurd (hpasses e (by simp [hchoices])) hnot

theorem advance_of_final {b : Branch} {rest : List Branch} {pre post : List Entry} {e : Entry}
    {r : Snapshot} (hhalted : ∀ x ∈ st.pending, x.shot.halted = false)
    (hpicks : Picks plan st b rest)
    (hchoices : plan.table.choices b.shot.config = pre ++ e :: post)
    (hpasses : ∀ x ∈ pre, plan.table.Passes b.shot.config x) (happly : b.shot.apply e = .ok r)
    (hfinal : plan.table.isFinal r.config = true) :
    ∃ told, st.advance plan = .error ⟨.settled .accepted r, told⟩ := by
  have hnot := Compiled.not_passes_of_final happly hfinal
  rcases advance_of_picks hhalted hpicks with ⟨hall, _⟩ | ⟨pre', e', post', hchoices', hpasses',
    hnot', hfinds⟩
  · exact absurd (hall e (by simp [hchoices])) hnot
  · obtain ⟨rfl, rfl⟩ := first_not_unique hpasses hnot hpasses' hnot'
      (hchoices.symm.trans hchoices')
    exact hfinds r happly

end State

end Search

end ArrowMachine
