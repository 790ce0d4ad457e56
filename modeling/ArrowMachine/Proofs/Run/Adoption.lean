import ArrowMachine.Proofs.Run.Overwriting
import ArrowMachine.Run.Machine
import Mathlib.Data.List.Forall2

/-!
From a search to the machine that makes it.

`m.Settles fuel w v s` says that the search of `consume` for `w` ends with the verdict `v` and settles on
`s`. The machine then takes `s` over and tells everyone its history (`Settles.adopts`). Listeners that do
not answer leave the rest of the machine as it is (`notifyAll_of_quiet`). Telling listeners keeps two
machines related if answering them does (`Blind.notifyAll`), and what they answer does not depend on the
settings (`blind_dispatch`).
-/
namespace ArrowMachine

open Search (Verdict Branch)

/-- Goes on from the machine that a turn leaves, unless the turn failed. -/
def Turn.andThen (a : Turn) (f : Machine → Turn) : Turn :=
  match a with
  | ⟨m, none⟩ => f m
  | turn => turn

namespace Machine

/-- The configuration of a machine with an input put before it. -/
def fed (m : Machine) (w : List String) : Configuration := { m.config with input := w }

/-- The snapshot from which `consume` searches. -/
def seed (m : Machine) (w : List String) : Snapshot :=
  { config := m.fed w, recording := !m.subscribed.isEmpty }

/-- The search that `consume` makes for `w` ends with `v` and settles on `s`. -/
def Settles (m : Machine) (fuel : Nat) (w : List String) (v : Verdict) (s : Snapshot) : Prop :=
  ∃ told, Search.start m.plan fuel (m.seed w) = some ⟨.settled v s, told⟩

/-- The branches that the search for `w` expands, in order. -/
def expansions (m : Machine) (fuel : Nat) (w : List String) : List Branch :=
  Search.expansions m.plan fuel (m.seed w)

/-- The snapshots that the search for `w` makes, in order. -/
def generated (m : Machine) (fuel : Nat) (w : List String) : List Snapshot :=
  Search.generated m.plan fuel (m.seed w)

/-- The machine that has taken over a snapshot and has told nobody yet. -/
def takeOver (m : Machine) (s : Snapshot) : Machine :=
  { m with config := s.config, halted := s.halted }

/-- `consume` takes `s` over and then tells everyone its history, whatever comes of that. -/
def Adopts (m : Machine) (fuel depth : Nat) (w : List String) (s : Snapshot) : Prop :=
  ∃ told, m.consume fuel depth w =
    notifyAll (dispatch depth) s.history ({ m with told := told }.takeOver s)

/-- No listener dispatches while being told. -/
def Quiet (m : Machine) : Prop := ∀ l ∈ m.listeners, l.answer = none

variable {m : Machine} {fuel depth : Nat} {w : List String} {v : Verdict} {s : Snapshot}

theorem Settles.settling (h : m.Settles fuel w v s) :
    Search.Settling m.plan fuel (m.seed w) v s := by
  obtain ⟨told, hstart⟩ := h
  exact Search.settling_of_start rfl hstart

/-- `consume` in terms of the search from `m.seed w`. -/
theorem consume_eq (m : Machine) (fuel depth : Nat) (w : List String) :
    m.consume fuel depth w =
      match Search.start m.plan fuel (m.seed w) with
      | none => ⟨m, some .endless⟩
      | some ⟨.settled _ s, told⟩ =>
        notifyAll (dispatch depth) s.history ({ m with told := m.told ++ told }.takeOver s)
      | some ⟨.noChannel channel, told⟩ =>
        ⟨{ m with told := m.told ++ told }, some (.noChannel channel)⟩ := by
  unfold consume seed fed
  simp only [InPlace.start_eq]
  generalize Search.start m.plan fuel _ = result
  rcases result with _ | ⟨outcome, told⟩
  · rfl
  · cases outcome <;> rfl

theorem Settles.adopts (depth : Nat) (h : m.Settles fuel w v s) : m.Adopts fuel depth w s := by
  obtain ⟨told, hstart⟩ := h
  exact ⟨m.told ++ told, by rw [consume_eq, hstart]⟩

/-- If `consume` returns, its search has settled on something. -/
theorem exists_settles (h : (m.consume fuel depth w).error = none) : ∃ v s, m.Settles fuel w v s := by
  rw [consume_eq] at h
  cases hstart : Search.start m.plan fuel (m.seed w) with
  | none =>
    rw [hstart] at h
    cases h
  | some ending =>
    obtain ⟨outcome, told⟩ := ending
    cases outcome with
    | settled v s => exact ⟨v, s, told, hstart⟩
    | noChannel channel =>
      rw [hstart] at h
      cases h

/-! ## Telling listeners one after the other -/

theorem informAll_cons (d : String → Machine → Turn) (step : Step) (id : String) (ids : List String)
    (m : Machine) :
    informAll d step (id :: ids) m = (inform d step id m).andThen (informAll d step ids) := rfl

theorem notifyAll_cons (d : String → Machine → Turn) (step : Step) (steps : List Step)
    (m : Machine) :
    notifyAll d (step :: steps) m = (notify d step m).andThen (notifyAll d steps) := rfl

/-! ## Telling quiet listeners -/

/-- Whether a listener is still subscribed after a notice. -/
def stays (m : Machine) (id : String) : Bool := !(m.listeners.find? (·.id = id)).any (·.once)

/-- What listeners are told of a step. -/
def notices (ids : List String) (step : Step) : List Event := ids.map (⟨·, step⟩)

/-- What listeners are told of steps: of the first, all that are subscribed, and of the others, those that
stay. -/
def deliveries (m : Machine) : List Step → List Event
  | [] => []
  | step :: steps =>
    notices m.subscribed step ++ steps.flatMap (notices (m.subscribed.filter m.stays))

/-- A machine that has given notices, with those that are still subscribed. -/
def hear (m : Machine) (events : List Event) (subscribed : List String) : Machine :=
  { m with heard := m.heard ++ events.toArray, subscribed }

theorem hear_nil (m : Machine) : m.hear [] m.subscribed = m := by
  simp [hear]

theorem hear_hear (m : Machine) (es fs : List Event) (as bs : List String) :
    (m.hear es as).hear fs bs = m.hear (es ++ fs) bs := by
  simp [hear]

theorem inform_of_quiet (hm : m.Quiet) (d : String → Machine → Turn) (step : Step) (id : String) :
    inform d step id m =
      ⟨m.hear [⟨id, step⟩] (if m.stays id then m.subscribed else m.subscribed.erase id), none⟩ := by
  unfold inform stays
  simp only
  cases hl : m.listeners.find? (·.id = id) with
  | none => simp [hear]
  | some l =>
    have hanswer := hm l (List.mem_of_find?_eq_some hl)
    simp only [hanswer]
    cases honce : l.once with
    | true => simp [honce, hear, leave]
    | false => simp [honce, hear]

/-- Those of `passed` have been told before and have stayed. -/
theorem informAll_of_quiet (hm : m.Quiet) (d : String → Machine → Turn) (step : Step)
    (passed ids : List String) (hpassed : ∀ id ∈ passed, m.stays id = true)
    (hsubscribed : m.subscribed = passed ++ ids) :
    informAll d step ids m = ⟨m.hear (notices ids step) (passed ++ ids.filter m.stays), none⟩ := by
  induction ids generalizing m passed with
  | nil =>
    rw [List.filter_nil, ← hsubscribed, notices, List.map_nil, hear_nil]
    rfl
  | cons id ids ih =>
    rw [informAll_cons, inform_of_quiet hm]
    cases hstays : m.stays id with
    | true =>
      have hnext := ih (m := m.hear [⟨id, step⟩] m.subscribed) hm (passed ++ [id])
        (by simpa [or_imp, forall_and] using ⟨hpassed, hstays⟩) (by simp [hear, hsubscribed])
      rw [hear_hear, List.append_assoc] at hnext
      rw [List.filter_cons_of_pos hstays]
      exact hnext
    | false =>
      have hnone : id ∉ passed := fun hmem => by simp [hpassed id hmem] at hstays
      have herase : m.subscribed.erase id = passed ++ ids := by
        rw [hsubscribed, List.erase_append_right _ hnone, List.erase_cons_head]
      have hnext := ih (m := m.hear [⟨id, step⟩] (m.subscribed.erase id)) hm passed hpassed herase
      rw [hear_hear] at hnext
      rw [List.filter_cons_of_neg (by simp [hstays])]
      exact hnext

theorem notify_of_quiet (hm : m.Quiet) (d : String → Machine → Turn) (step : Step) :
    notify d step m =
      ⟨m.hear (notices m.subscribed step) (m.subscribed.filter m.stays), none⟩ :=
  informAll_of_quiet hm d step [] m.subscribed (by simp) rfl

/-- When all that are subscribed stay, all of them are told of every step. -/
theorem deliveries_of_stays (hstays : ∀ id ∈ m.subscribed, m.stays id = true) (steps : List Step) :
    m.deliveries steps = steps.flatMap (notices m.subscribed) := by
  cases steps with
  | nil => rfl
  | cons step steps => rw [deliveries, List.filter_eq_self.2 hstays, List.flatMap_cons]

theorem notifyAll_of_quiet (hm : m.Quiet) (d : String → Machine → Turn) (steps : List Step) :
    ∃ subscribed, notifyAll d steps m = ⟨m.hear (m.deliveries steps) subscribed, none⟩ := by
  induction steps generalizing m with
  | nil => exact ⟨m.subscribed, by rw [deliveries, hear_nil]; rfl⟩
  | cons step steps ih =>
    obtain ⟨subscribed, hrest⟩ :=
      ih (m := m.hear (notices m.subscribed step) (m.subscribed.filter m.stays)) hm
    have hstays : ∀ id ∈ m.subscribed.filter m.stays, m.stays id = true := fun id hid =>
      (List.mem_filter.1 hid).2
    refine ⟨subscribed, ?_⟩
    rw [notifyAll_cons, notify_of_quiet hm]
    refine hrest.trans ?_
    rw [hear_hear, deliveries_of_stays hstays]
    rfl

/-! ## Machines that answer alike -/

/-- A relation between machines with the same subscriptions, which goes on when both give a notice or have
a listener leave. -/
structure Listening (R : Machine → Machine → Prop) : Prop where
  listeners : ∀ m n, R m n → n.listeners = m.listeners
  subscribed : ∀ m n, R m n → n.subscribed = m.subscribed
  hears : ∀ m n event, R m n →
    R { m with heard := m.heard.push event } { n with heard := n.heard.push event }
  leaves : ∀ m n id, R m n → R (m.leave id) (n.leave id)

/-- A relation between machines with the same subscriptions, and one between steps with the same label.
Machines stay related when both give a notice of related steps or have a listener leave. -/
structure Tuned (S : Step → Step → Prop) (R : Machine → Machine → Prop) : Prop where
  label : ∀ a b, S a b → b.label = a.label
  listeners : ∀ m n, R m n → n.listeners = m.listeners
  subscribed : ∀ m n, R m n → n.subscribed = m.subscribed
  hears : ∀ m n id a b, R m n → S a b →
    R { m with heard := m.heard.push ⟨id, a⟩ } { n with heard := n.heard.push ⟨id, b⟩ }
  leaves : ∀ m n id, R m n → R (m.leave id) (n.leave id)

/-- Two turns that leave related machines and that fail alike. -/
def SameTurn (R : Machine → Machine → Prop) (a b : Turn) : Prop :=
  R a.machine b.machine ∧ a.error = b.error

/-- A way to answer labels that does not tell related machines apart. -/
structure Blind (R : Machine → Machine → Prop) (d : String → Machine → Turn) : Prop where
  listening : Listening R
  answers : ∀ label m n, R m n → SameTurn R (d label m) (d label n)

/-- Two machines that differ at most in their settings, their mark of being stuck and their traces. -/
def Alike (m n : Machine) : Prop := ∃ settings halted told, n = { m with settings, halted, told }

theorem tell_eq (m : Machine) (switch : Switch) (line : Unit → String) :
    ∃ told, m.tell switch line = { m with told } := by
  unfold Machine.tell
  split
  · exact ⟨_, rfl⟩
  · exact ⟨m.told, rfl⟩

/-- What a dispatch comes to before anyone is told, and the step to tell of, if there is one. -/
def fired (m : Machine) (label : String) : Turn × List Step :=
  match m.firing? label with
  | none => (m.refuse label, [])
  | some e =>
    let m := m.tell .verboseDispatch fun _ =>
      "dispatch '" ++ label ++ "': " ++ m.config.state ++ " -> " ++ e.action.target
    match e.action.apply false m.config with
    | .error fault => (⟨{ m with config := fault.reached }, some (.noChannel fault.channel)⟩, [])
    | .ok c => (⟨{ m with config := c, halted := false }, none⟩, [⟨c.state, e.label, c.channels⟩])

/-- A dispatch fires its label, and then everyone is told. -/
theorem dispatch_succ (depth : Nat) (label : String) (m : Machine) :
    dispatch (depth + 1) label m =
      (m.fired label).1.andThen (notifyAll (dispatch depth) (m.fired label).2) := by
  have hnone : ∀ turn : Turn, turn.andThen (notifyAll (dispatch depth) []) = turn := by
    rintro ⟨m, _ | e⟩ <;> rfl
  rw [dispatch, fired]
  cases m.firing? label with
  | none => exact (hnone _).symm
  | some e =>
    obtain ⟨told, htold⟩ := tell_eq m .verboseDispatch fun _ =>
      "dispatch '" ++ label ++ "': " ++ m.config.state ++ " -> " ++ e.action.target
    simp only [htold]
    cases e.action.apply false m.config with
    | error fault => rfl
    | ok c => exact (hnone _).symm

/-- Before anyone is told, related machines come to the same by a dispatch and have related steps to tell
of. -/
def FiresAlike (S : Step → Step → Prop) (R : Machine → Machine → Prop) : Prop :=
  ∀ label m n, R m n →
    SameTurn R (m.fired label).1 (n.fired label).1 ∧
      List.Forall₂ S (m.fired label).2 (n.fired label).2

section Related

variable {S : Step → Step → Prop} {R : Machine → Machine → Prop} {n : Machine}
  {d : String → Machine → Turn}

theorem SameTurn.andThen {a b : Turn} {f g : Machine → Turn} (h : SameTurn R a b)
    (hnext : ∀ m n, R m n → SameTurn R (f m) (g n)) : SameTurn R (a.andThen f) (b.andThen g) := by
  obtain ⟨m, error⟩ := a
  obtain ⟨n, error'⟩ := b
  obtain ⟨hmachine, rfl : error = error'⟩ := h
  cases error with
  | none => exact hnext m n hmachine
  | some e => exact ⟨hmachine, rfl⟩

theorem Listening.tuned (h : Listening R) : Tuned Eq R where
  label := fun _ _ hstep => hstep ▸ rfl
  listeners := h.listeners
  subscribed := h.subscribed
  hears := by
    rintro m n id a _ hm rfl
    exact h.hears m n ⟨id, a⟩ hm
  leaves := h.leaves

theorem Tuned.inform (hR : Tuned S R) (hd : ∀ label m n, R m n → SameTurn R (d label m) (d label n))
    (h : R m n) {a b : Step} (hstep : S a b) (id : String) :
    SameTurn R (inform d a id m) (inform d b id n) := by
  have hheard := hR.hears m n id a b h hstep
  have hfind : n.listeners.find? (·.id = id) = m.listeners.find? (·.id = id) := by
    rw [hR.listeners m n h]
  unfold Machine.inform
  simp only [hfind, hR.label a b hstep]
  cases m.listeners.find? (·.id = id) with
  | none => exact ⟨hheard, rfl⟩
  | some l =>
    have hleft : R
        (if l.once then { m with heard := m.heard.push ⟨id, a⟩ }.leave id
          else { m with heard := m.heard.push ⟨id, a⟩ })
        (if l.once then { n with heard := n.heard.push ⟨id, b⟩ }.leave id
          else { n with heard := n.heard.push ⟨id, b⟩ }) := by
      split
      · exact hR.leaves _ _ id hheard
      · exact hheard
    simp only
    cases l.answer with
    | none => exact ⟨hleft, rfl⟩
    | some answer =>
      simp only
      split
      · exact hd answer.2 _ _ hleft
      · exact ⟨hleft, rfl⟩

theorem Tuned.informAll (hR : Tuned S R)
    (hd : ∀ label m n, R m n → SameTurn R (d label m) (d label n)) (h : R m n) {a b : Step}
    (hstep : S a b) (ids : List String) :
    SameTurn R (informAll d a ids m) (informAll d b ids n) := by
  induction ids generalizing m n with
  | nil => exact ⟨h, rfl⟩
  | cons id ids ih =>
    rw [informAll_cons, informAll_cons]
    exact (hR.inform hd h hstep id).andThen fun _ _ => ih

theorem Tuned.notifyAll (hR : Tuned S R)
    (hd : ∀ label m n, R m n → SameTurn R (d label m) (d label n)) (h : R m n) {as bs : List Step}
    (hsteps : List.Forall₂ S as bs) : SameTurn R (notifyAll d as m) (notifyAll d bs n) := by
  induction hsteps generalizing m n with
  | nil => exact ⟨h, rfl⟩
  | @cons a b as bs hstep _ ih =>
    rw [notifyAll_cons, notifyAll_cons]
    unfold Machine.notify
    rw [hR.subscribed m n h]
    exact (hR.informAll hd h hstep m.subscribed).andThen fun _ _ => ih

/-- **Related machines come to the same by a dispatch,** whatever listeners dispatch in turn, if they do
before anyone is told. -/
theorem Tuned.dispatch (hR : Tuned S R) (hfires : FiresAlike S R) (depth : Nat) :
    ∀ label m n, R m n → SameTurn R (dispatch depth label m) (dispatch depth label n) := by
  induction depth with
  | zero => exact fun _ _ _ h => ⟨h, rfl⟩
  | succ depth ih =>
    intro label m n h
    obtain ⟨hturn, hsteps⟩ := hfires label m n h
    rw [dispatch_succ, dispatch_succ]
    exact hturn.andThen fun _ _ hnext => hR.notifyAll ih hnext hsteps

theorem Blind.notifyAll (hd : Blind R d) (h : R m n) (steps : List Step) :
    SameTurn R (notifyAll d steps m) (notifyAll d steps n) :=
  hd.listening.tuned.notifyAll hd.answers h (List.forall₂_same.2 fun _ _ => rfl)

end Related

section Alike

variable {n : Machine}

theorem listening_alike : Listening Alike where
  listeners := by
    rintro m _ ⟨settings, halted, told, rfl⟩
    rfl
  subscribed := by
    rintro m _ ⟨settings, halted, told, rfl⟩
    rfl
  hears := by
    rintro m _ event ⟨settings, halted, told, rfl⟩
    exact ⟨_, _, _, rfl⟩
  leaves := by
    rintro m _ id ⟨settings, halted, told, rfl⟩
    exact ⟨_, _, _, rfl⟩

theorem Alike.refuse (h : m.Alike n) (label : String) :
    SameTurn Alike (m.refuse label) (n.refuse label) := by
  obtain ⟨settings, halted, told, rfl⟩ := h
  unfold Machine.refuse
  split
  · exact ⟨⟨_, _, _, rfl⟩, rfl⟩
  · obtain ⟨told', htold⟩ := tell_eq m .verboseDispatch fun _ =>
      "ignoring invalid action '" ++ label ++ "' from state '" ++ m.config.state ++ "'"
    obtain ⟨told'', htold'⟩ := tell_eq { m with settings, halted, told } .verboseDispatch fun _ =>
      "ignoring invalid action '" ++ label ++ "' from state '" ++ m.config.state ++ "'"
    rw [htold, htold']
    exact ⟨⟨_, _, _, rfl⟩, rfl⟩

theorem firesAlike_alike : FiresAlike Eq Alike := by
  intro label m n h
  have hrefuse := h.refuse label
  obtain ⟨settings, halted, told, rfl⟩ := h
  rw [fired, fired, show firing? { m with settings, halted, told } label = m.firing? label from rfl]
  cases m.firing? label with
  | none => exact ⟨hrefuse, .nil⟩
  | some e =>
    obtain ⟨told', htold⟩ := tell_eq m .verboseDispatch fun _ =>
      "dispatch '" ++ label ++ "': " ++ m.config.state ++ " -> " ++ e.action.target
    obtain ⟨told'', htold'⟩ := tell_eq { m with settings, halted, told } .verboseDispatch fun _ =>
      "dispatch '" ++ label ++ "': " ++ m.config.state ++ " -> " ++ e.action.target
    simp only [htold, htold']
    cases e.action.apply false m.config with
    | error fault => exact ⟨⟨⟨_, _, _, rfl⟩, rfl⟩, .nil⟩
    | ok c => exact ⟨⟨⟨_, _, _, rfl⟩, rfl⟩, .cons rfl .nil⟩

/-- Answers given by dispatching depend neither on settings nor on the mark of being stuck. -/
theorem blind_dispatch (depth : Nat) : Blind Alike (dispatch depth) :=
  ⟨listening_alike, listening_alike.tuned.dispatch firesAlike_alike depth⟩

end Alike

/-- With quiet listeners a machine stays as it took a snapshot over. -/
theorem consume_of_quiet (depth : Nat) (hm : m.Quiet) (h : m.Settles fuel w v s) :
    (m.consume fuel depth w).error = none ∧
      (m.consume fuel depth w).machine.table = m.table ∧
      (m.consume fuel depth w).machine.config = s.config ∧
      (m.consume fuel depth w).machine.halted = s.halted := by
  obtain ⟨told, hconsume⟩ := h.adopts depth
  obtain ⟨subscribed, hnotify⟩ :=
    notifyAll_of_quiet (m := { m with told := told }.takeOver s) hm (dispatch depth) s.history
  rw [hconsume, hnotify]
  exact ⟨rfl, rfl, rfl, rfl⟩

/-- Quiet listeners are told the history of what is taken over. -/
theorem heard_consume_of_quiet (depth : Nat) (hm : m.Quiet) (h : m.Settles fuel w v s) :
    (m.consume fuel depth w).machine.heard.toList = m.heard.toList ++ m.deliveries s.history := by
  obtain ⟨told, hconsume⟩ := h.adopts depth
  obtain ⟨subscribed, hnotify⟩ :=
    notifyAll_of_quiet (m := { m with told := told }.takeOver s) hm (dispatch depth) s.history
  rw [hconsume, hnotify]
  change (m.heard ++ (m.deliveries s.history).toArray).toList = _
  rw [Array.toList_append]

end Machine

end ArrowMachine
