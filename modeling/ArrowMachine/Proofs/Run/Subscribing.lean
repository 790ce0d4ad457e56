import ArrowMachine.Proofs.Run.Calls

/-!
Subscriptions, one by one.

A machine keeps the names of those that are subscribed, and an unsubscriber takes back the first
subscription of its listener that is left. A `Roll` keeps every subscription that was ever made, and
whether its own unsubscriber has been called. A `Ledger` takes a machine and a roll through the same
subscriptions, calls of unsubscribers and calls of the machine (`Dealing`).

As long as both name the same listeners in the same order, the machine tells what the roll owes
(`Call.tells`). Subscribing and telling keep it so, and the call of an unsubscriber keeps it so exactly if
it is `Fair` (`Roll.erase_eq_live_close_iff`): the first call while no other listener stands between the
first subscription of this one and the subscription meant, or a further call when its listener has no
subscription left. Every call is fair when nobody subscribes twice (`Roll.fair_of_nodup`). Hence each
subscription gets what it is owed exactly if all calls are fair (`Ledger.honours_iff_fair`).

Listeners may leave after a notice, but not dispatch while being told.
-/
namespace ArrowMachine

/-! ## Rolls -/

/-- One subscription: who is to be told, and whether its own unsubscriber is still to be called. -/
structure Subscription where
  id : String
  live : Bool := true
  deriving DecidableEq, Repr

/-- All subscriptions made so far, in order. -/
abbrev Roll := List Subscription

namespace Roll

/-- Those to be told of a step: one for each live subscription, in order. -/
def live (r : Roll) : List String := (r.filter (·.live)).map (·.id)

def join (r : Roll) (id : String) : Roll := r ++ [⟨id, true⟩]

/-- The roll after a call of the unsubscriber of subscription `k`. -/
def close (r : Roll) (k : Nat) : Roll := r.modify k ({ · with live := false })

/-- The roll after a notice, when only some listeners stay. -/
def told (stays : String → Bool) (r : Roll) : Roll :=
  r.map fun s => { s with live := s.live && stays s.id }

/-- The roll after notices of several steps. -/
def toldAll (stays : String → Bool) (r : Roll) (steps : List Step) : Roll :=
  steps.foldl (fun r _ => r.told stays) r

/-- What is owed for several steps: of each step, one notice for each subscription live by then. -/
def owed (stays : String → Bool) : Roll → List Step → List Event
  | _, [] => []
  | r, step :: steps => Machine.notices r.live step ++ owed stays (r.told stays) steps

/-- The call of unsubscriber `k` meets its own subscription if that is live, and none otherwise. -/
def Fair (r : Roll) (k : Nat) : Prop :=
  ∀ s ∈ r[k]?,
    if s.live then ∀ id ∈ (live (r.take k)).dropWhile (· ≠ s.id), id = s.id else s.id ∉ r.live

instance (r : Roll) (k : Nat) : Decidable (r.Fair k) := by
  unfold Fair
  infer_instance

variable {r : Roll} {stays : String → Bool} {k : Nat} {s : Subscription}

theorem live_append (r q : Roll) : live (r ++ q) = r.live ++ q.live := by
  simp [live]

@[simp]
theorem live_join (r : Roll) (id : String) : (r.join id).live = r.live ++ [id] :=
  live_append r [⟨id, true⟩]

@[simp]
theorem live_told (r : Roll) : (r.told stays).live = r.live.filter stays := by
  induction r with
  | nil => rfl
  | cons s r ih =>
    have hcons (s : Subscription) (r : Roll) : live (s :: r) = live [s] ++ live r :=
      live_append [s] r
    have hone : live [{ s with live := s.live && stays s.id }] = (live [s]).filter stays := by
      cases hlive : s.live <;> cases hstays : stays s.id <;> simp [live, hlive, hstays]
    rw [hcons s r, List.filter_append, ← hone, ← ih]
    exact hcons _ _

/-- When nobody is to be told, nothing is owed. -/
theorem owed_of_live_eq_nil (h : r.live = []) (steps : List Step) :
    r.owed stays steps = [] ∧ (r.toldAll stays steps).live = [] := by
  induction steps generalizing r with
  | nil => exact ⟨rfl, h⟩
  | cons step steps ih =>
    obtain ⟨howed, hlive⟩ := ih (r := r.told stays) (by rw [live_told, h]; rfl)
    exact ⟨by rw [owed, h, howed]; rfl, hlive⟩

/-! ### Unsubscribers -/

theorem append_singleton_eq_cons_iff {a : String} {l : List String} :
    l ++ [a] = a :: l ↔ ∀ b ∈ l, b = a := by
  induction l generalizing a with
  | nil => simp
  | cons b l ih =>
    constructor
    · intro h
      obtain ⟨rfl, h⟩ := List.cons_eq_cons.1 h
      simpa using ih.1 h
    · intro h
      obtain ⟨rfl, h⟩ := List.forall_mem_cons.1 h
      exact congrArg _ (ih.2 h)

/-- Erasing takes out the place meant exactly if nothing but `a` stands between the first `a` and it. -/
theorem erase_append_cons_eq_iff {a : String} {before after : List String} :
    (before ++ a :: after).erase a = before ++ after ↔ ∀ b ∈ before.dropWhile (· ≠ a), b = a := by
  have hfresh : a ∉ before.takeWhile (· ≠ a) := fun h => by simpa using List.mem_takeWhile_imp h
  have hsplit := List.takeWhile_append_dropWhile (p := (· ≠ a)) (l := before)
  generalize before.takeWhile (· ≠ a) = fresh at hfresh hsplit
  cases hrest : before.dropWhile (· ≠ a) with
  | nil =>
    rw [hrest, List.append_nil] at hsplit
    subst hsplit
    simp [List.erase_append_right _ hfresh]
  | cons b rest =>
    obtain rfl : b = a := by
      have hhead := List.head?_dropWhile_not (· ≠ a) before
      rw [hrest] at hhead
      simpa using hhead
    rw [hrest] at hsplit
    subst hsplit
    calc (fresh ++ b :: rest ++ b :: after).erase b = fresh ++ b :: rest ++ after
        ↔ fresh ++ (rest ++ b :: after) = fresh ++ (b :: rest ++ after) := by
          rw [List.append_assoc, List.erase_append_right _ hfresh, List.cons_append,
            List.erase_cons_head, List.append_assoc, List.cons_append]
      _ ↔ rest ++ [b] = b :: rest := by
          rw [List.append_cancel_left_eq, ← List.append_cancel_right_eq (rest ++ [b]) after]
          simp
      _ ↔ ∀ c ∈ b :: rest, c = b := by
          rw [append_singleton_eq_cons_iff]
          simp

theorem eq_take_append (h : r[k]? = some s) : r = r.take k ++ s :: r.drop (k + 1) := by
  obtain ⟨hk, rfl⟩ := List.getElem?_eq_some_iff.1 h
  rw [← List.drop_eq_getElem_cons hk, List.take_append_drop]

theorem close_eq (h : r[k]? = some s) :
    r.close k = r.take k ++ { s with live := false } :: r.drop (k + 1) := by
  obtain ⟨hk, rfl⟩ := List.getElem?_eq_some_iff.1 h
  exact List.modify_eq_take_cons_drop hk

theorem live_close (h : r[k]? = some s) :
    (r.close k).live = live (r.take k) ++ live (r.drop (k + 1)) := by
  rw [close_eq h, live_append]
  rfl

theorem live_eq_of_live (h : r[k]? = some s) (hlive : s.live = true) :
    r.live = live (r.take k) ++ s.id :: live (r.drop (k + 1)) := by
  conv_lhs => rw [eq_take_append h, live_append]
  simp [live, hlive]

/-- A further call of an unsubscriber leaves the roll as it is. -/
theorem live_close_of_not_live (h : r[k]? = some s) (hlive : s.live = false) :
    (r.close k).live = r.live := by
  rw [live_close h]
  conv_rhs => rw [eq_take_append h, live_append]
  simp [live, hlive]

/-- **An unsubscriber takes back its own subscription exactly if it is called fairly.** -/
theorem erase_eq_live_close_iff (h : r[k]? = some s) :
    r.live.erase s.id = (r.close k).live ↔ r.Fair k := by
  have hfair : r.Fair k ↔ if s.live then
      ∀ id ∈ (live (r.take k)).dropWhile (· ≠ s.id), id = s.id else s.id ∉ r.live := by
    simp [Fair, h]
  rw [hfair]
  cases hlive : s.live with
  | true =>
    rw [live_eq_of_live h hlive, live_close h, if_pos rfl]
    exact erase_append_cons_eq_iff
  | false =>
    rw [live_close_of_not_live h hlive, if_neg Bool.false_ne_true, List.erase_eq_self_iff]

theorem mem_live {id : String} : id ∈ r.live ↔ ∃ s ∈ r, s.live = true ∧ s.id = id := by
  simp [live, and_assoc]

/-- Where no listener subscribes twice, every unsubscriber may be called at any time. -/
theorem fair_of_nodup (h : (r.map (·.id)).Nodup) (k : Nat) : r.Fair k := by
  intro s hs
  have hsplit := eq_take_append hs
  have hids := hsplit ▸ h
  rw [List.map_append, List.map_cons] at hids
  split
  · have hfresh : s.id ∉ live (r.take k) := by
      intro hmem
      obtain ⟨q, hq, -, hid⟩ := mem_live.1 hmem
      exact (List.nodup_append.1 hids).2.2 _ (List.mem_map_of_mem hq) _ List.mem_cons_self hid
    intro id hid
    have hnil : (live (r.take k)).dropWhile (· ≠ s.id) = [] := by
      refine List.dropWhile_eq_nil_iff.2 fun q hq => ?_
      exact decide_eq_true fun he => hfresh (he ▸ hq)
    rw [hnil] at hid
    cases hid
  · next hclosed =>
    intro hmem
    obtain ⟨q, hq, hlive, hid⟩ := mem_live.1 hmem
    have hsame : q = s := List.inj_on_of_nodup_map h hq (List.mem_of_getElem? hs) hid
    exact hclosed (hsame ▸ hlive)

end Roll

/-! ## What a call owes -/

/-- The steps that the search from a snapshot settles on. -/
def Machine.settled (m : Machine) (fuel : Nat) (s : Snapshot) : List Step :=
  match Search.start m.plan fuel s with
  | some ⟨.settled _ r, _⟩ => r.history
  | _ => []

/-- The transitions that a call commits to the machine it is made of. -/
def Call.committed (fuel : Nat) (m : Machine) : Call → List Step
  | reset => []
  | dispatch label strict => ({ m with strict }.fired label).2
  | consume input maxSteps prune =>
    let m := { m with maxSteps, settings := m.settings.turn .pruneRevisited prune }
    m.settled fuel { m.seed input with recording := true }

namespace Machine

/-- `n` is what `m` becomes by giving the notices of `steps` that are owed by the roll `r`. -/
structure Tells (m : Machine) (r : Roll) (steps : List Step) (n : Machine) : Prop where
  listeners : n.listeners = m.listeners
  subscribed : n.subscribed = (r.toldAll m.stays steps).live
  heard : n.heard.toList = m.heard.toList ++ r.owed m.stays steps

variable {m n o : Machine} {r : Roll} {steps : List Step}

theorem stays_congr (h : n.listeners = m.listeners) : n.stays = m.stays := by
  funext id
  rw [stays, stays, h]

theorem Tells.none (hr : m.subscribed = r.live) (hlisteners : n.listeners = m.listeners)
    (hsubscribed : n.subscribed = m.subscribed) (hheard : n.heard = m.heard) : m.Tells r [] n :=
  ⟨hlisteners, hsubscribed.trans hr, by rw [hheard, Roll.owed, List.append_nil]⟩

/-- Telling goes on from a machine with the same listeners and notices. -/
theorem Tells.from (h : n.Tells r steps o) (hlisteners : n.listeners = m.listeners)
    (hheard : n.heard = m.heard) : m.Tells r steps o :=
  ⟨h.listeners.trans hlisteners, stays_congr hlisteners ▸ h.subscribed,
    stays_congr hlisteners ▸ hheard ▸ h.heard⟩

/-- When nobody is to be told, it does not matter of what. -/
theorem Tells.of_live_eq_nil (hr : r.live = []) (h : m.Tells r steps n) (others : List Step) :
    m.Tells r others n where
  listeners := h.listeners
  subscribed := by
    rw [h.subscribed, (Roll.owed_of_live_eq_nil hr steps).2, (Roll.owed_of_live_eq_nil hr others).2]
  heard := by
    rw [h.heard, (Roll.owed_of_live_eq_nil hr steps).1, (Roll.owed_of_live_eq_nil hr others).1]

/-- **Quiet listeners are told what they are owed,** step after step. -/
theorem tells_notifyAll (hm : m.Quiet) (hr : m.subscribed = r.live)
    (d : String → Machine → Turn) (steps : List Step) :
    m.Tells r steps (notifyAll d steps m).machine := by
  induction steps generalizing m r with
  | nil => exact .none hr rfl rfl rfl
  | cons step steps ih =>
    rw [notifyAll_cons, notify_of_quiet hm]
    obtain ⟨hlisteners, hsubscribed, hheard⟩ :=
      ih (m := m.hear (notices m.subscribed step) (m.subscribed.filter m.stays)) (r := r.told m.stays)
        hm (by rw [Roll.live_told, ← hr]; rfl)
    refine ⟨hlisteners, hsubscribed, hheard.trans ?_⟩
    rw [Roll.owed, ← hr, ← List.append_assoc]
    exact congrArg (· ++ _) (Array.toList_append ..)

/-- Before anyone is told, a dispatch leaves listeners, subscriptions and notices as they are. If it has
failed, there is nothing to tell. -/
theorem fired_same (m : Machine) (label : String) :
    (m.fired label).1.machine.listeners = m.listeners ∧
      (m.fired label).1.machine.subscribed = m.subscribed ∧
      (m.fired label).1.machine.heard = m.heard ∧
      ((m.fired label).1.error ≠ none → (m.fired label).2 = []) := by
  unfold fired
  cases m.firing? label with
  | none =>
    simp only [refuse]
    split
    · exact ⟨rfl, rfl, rfl, fun _ => trivial⟩
    · obtain ⟨told, htold⟩ := tell_eq m .verboseDispatch fun _ =>
        "ignoring invalid action '" ++ label ++ "' from state '" ++ m.config.state ++ "'"
      rw [htold]
      exact ⟨rfl, rfl, rfl, fun _ => trivial⟩
  | some e =>
    obtain ⟨told, htold⟩ := tell_eq m .verboseDispatch fun _ =>
      "dispatch '" ++ label ++ "': " ++ m.config.state ++ " -> " ++ e.action.target
    simp only [htold]
    cases e.action.apply false m.config with
    | error fault => exact ⟨rfl, rfl, rfl, fun _ => rfl⟩
    | ok c => exact ⟨rfl, rfl, rfl, fun h => (h rfl).elim⟩

theorem tells_dispatch (hm : m.Quiet) (hr : m.subscribed = r.live) (depth : Nat) (label : String) :
    m.Tells r (m.fired label).2 (dispatch (depth + 1) label m).machine := by
  obtain ⟨hlisteners, hsubscribed, hheard, hfailed⟩ := m.fired_same label
  rw [dispatch_succ]
  generalize m.fired label = fired at hlisteners hsubscribed hheard hfailed ⊢
  obtain ⟨⟨n, _ | e⟩, steps⟩ := fired
  · have hn : n.Quiet := fun l hl => hm l (hlisteners ▸ hl)
    exact (tells_notifyAll hn (hsubscribed.trans hr) _ steps).from hlisteners hheard
  · obtain rfl : steps = [] := hfailed (Option.some_ne_none e)
    exact .none hr hlisteners hsubscribed hheard

theorem tells_consume (hm : m.Quiet) (hr : m.subscribed = r.live) (fuel depth : Nat)
    (input : List String) :
    m.Tells r (m.settled fuel { m.seed input with recording := true })
      (m.consume fuel depth input).machine := by
  have htells : m.Tells r (m.settled fuel (m.seed input)) (m.consume fuel depth input).machine := by
    rw [consume_eq, settled]
    rcases Search.start m.plan fuel (m.seed input) with _ | ⟨⟨v, s⟩ | channel, told⟩
    · exact .none hr rfl rfl rfl
    · have htells := tells_notifyAll (m := { m with told := m.told ++ told }.takeOver s) hm hr
        (dispatch depth) s.history
      exact htells.from (m := m) rfl rfl
    · exact .none hr rfl rfl rfl
  cases hnobody : m.subscribed with
  -- nothing is recorded for nobody, and nothing is told
  | nil => exact htells.of_live_eq_nil (hr ▸ hnobody) _
  | cons id ids =>
    have hseed : { m.seed input with recording := true } = m.seed input := by
      simp [seed, hnobody]
    rwa [hseed]

end Machine

/-- **A call tells what is owed for what it commits.** -/
theorem Call.tells {m : Machine} {r : Roll} (hm : m.Quiet) (hr : m.subscribed = r.live)
    (fuel depth : Nat) (c : Call) : m.Tells r (c.committed fuel m) (c.turn fuel depth m).machine := by
  cases c with
  | reset => exact .none hr rfl rfl rfl
  | dispatch label strict =>
    exact (Machine.tells_dispatch (m := { m with strict }) hm hr depth label).from rfl rfl
  | consume input maxSteps prune =>
    exact (Machine.tells_consume
      (m := { m with maxSteps, settings := m.settings.turn .pruneRevisited prune })
      hm hr fuel depth input).from rfl rfl

/-! ## Ledgers -/

/-- What may be done with a machine and its subscriptions. -/
inductive Dealing where
  | subscribe (l : Listener)
  /-- Calls the unsubscriber that subscription `k` has returned. -/
  | unsubscribe (k : Nat)
  | call (c : Call)

/-- Whoever subscribes does not dispatch while being told. -/
def Dealing.Quiet (d : Dealing) : Prop := ∀ l, d = .subscribe l → l.answer = none

/-- A machine with the roll of its subscriptions. -/
structure Ledger where
  machine : Machine
  roll : Roll := []

namespace Ledger

/-- The machine and the roll after a dealing. An unsubscriber knows its listener only. -/
def deal (fuel depth : Nat) (l : Ledger) : Dealing → Ledger
  | .subscribe listener => ⟨l.machine.subscribe listener, l.roll.join listener.id⟩
  | .unsubscribe k => ⟨l.roll[k]?.elim l.machine fun s => l.machine.leave s.id, l.roll.close k⟩
  | .call c =>
    ⟨(c.turn fuel depth l.machine).machine,
      l.roll.toldAll l.machine.stays (c.committed fuel l.machine)⟩

/-- Each dealing of a row, with the ledger it meets. -/
def made (fuel depth : Nat) : Ledger → List Dealing → List (Ledger × Dealing)
  | _, [] => []
  | l, d :: ds => (l, d) :: made fuel depth (l.deal fuel depth d) ds

/-- The notices owed for a dealing. -/
def owed (fuel : Nat) (l : Ledger) : Dealing → List Event
  | .call c => l.roll.owed l.machine.stays (c.committed fuel l.machine)
  | _ => []

/-- Every subscription gets what it is owed: the machine tells of each transition once for each live
subscription, in order; those it has subscribed from then on are the listeners of the live subscriptions,
in order; and a further call of an unsubscriber changes nothing. -/
structure Honours (fuel depth : Nat) (l : Ledger) (d : Dealing) : Prop where
  heard : (l.deal fuel depth d).machine.heard.toList = l.machine.heard.toList ++ l.owed fuel d
  subscribed : (l.deal fuel depth d).machine.subscribed = (l.deal fuel depth d).roll.live
  again : ∀ k s, d = .unsubscribe k → l.roll[k]? = some s → s.live = false →
    (l.deal fuel depth d).machine = l.machine

/-- An unsubscriber is called fairly; other dealings are fair. -/
def Fair (l : Ledger) : Dealing → Prop
  | .unsubscribe k => l.roll.Fair k
  | _ => True

instance (l : Ledger) (d : Dealing) : Decidable (l.Fair d) :=
  match d with
  | .subscribe _ => .isTrue trivial
  | .unsubscribe k => inferInstanceAs (Decidable (l.roll.Fair k))
  | .call _ => .isTrue trivial

variable {fuel depth : Nat} {l : Ledger} {d : Dealing} {ds : List Dealing}

theorem quiet_subscribe {m : Machine} (hm : m.Quiet) {listener : Listener}
    (h : listener.answer = none) : (m.subscribe listener).Quiet := by
  intro l hl
  simp only [Machine.subscribe] at hl
  split at hl
  · exact hm l hl
  · rcases List.mem_append.1 hl with hl | hl
    · exact hm l hl
    · exact List.mem_singleton.1 hl ▸ h

theorem quiet_deal (hquiet : l.machine.Quiet) (hd : d.Quiet)
    (hroll : l.machine.subscribed = l.roll.live) : (l.deal fuel depth d).machine.Quiet := by
  cases d with
  | subscribe listener => exact quiet_subscribe hquiet (hd listener rfl)
  | unsubscribe k =>
    simp only [deal]
    cases l.roll[k]? <;> exact hquiet
  | call c =>
    intro listener hl
    exact hquiet listener ((c.tells hquiet hroll fuel depth).listeners ▸ hl)

/-- A fair call of an unsubscriber. Of one that was called before, it changes nothing. -/
theorem honours_unsubscribe (hroll : l.machine.subscribed = l.roll.live) {k : Nat}
    (hfair : l.roll.Fair k) : l.Honours fuel depth (.unsubscribe k) := by
  cases hk : l.roll[k]? with
  | none =>
    have hclose : l.roll.close k = l.roll := by
      rw [Roll.close, List.modify_eq_self (List.getElem?_eq_none_iff.1 hk)]
    refine ⟨?_, ?_, fun _ s hd hs _ => ?_⟩
    · simp [deal, owed, hk]
    · simp [deal, hk, hclose, hroll]
    · cases hd
      cases hk.symm.trans hs
  | some s =>
    refine ⟨?_, ?_, fun _ q hd hq hclosed => ?_⟩
    · simp [deal, owed, hk, Machine.leave]
    · simpa [deal, hk, Machine.leave, hroll] using (Roll.erase_eq_live_close_iff hk).2 hfair
    · cases hd
      obtain rfl : s = q := Option.some.inj (hk.symm.trans hq)
      have herase := (Roll.erase_eq_live_close_iff hk).2 hfair
      rw [Roll.live_close_of_not_live hk hclosed, ← hroll] at herase
      simp [deal, hk, Machine.leave, herase]

theorem honours_of_fair (hquiet : l.machine.Quiet) (hroll : l.machine.subscribed = l.roll.live)
    (hfair : l.Fair d) : l.Honours fuel depth d := by
  cases d with
  | subscribe listener =>
    exact ⟨(List.append_nil _).symm, by simp [deal, Machine.subscribe, hroll], fun _ _ h => nomatch h⟩
  | unsubscribe k => exact honours_unsubscribe hroll hfair
  | call c =>
    have htells := c.tells hquiet hroll fuel depth
    exact ⟨htells.heard, htells.subscribed, fun _ _ h => nomatch h⟩

theorem fair_of_subscribed (hroll : l.machine.subscribed = l.roll.live)
    (h : (l.deal fuel depth d).machine.subscribed = (l.deal fuel depth d).roll.live) : l.Fair d := by
  cases d with
  | subscribe listener => trivial
  | unsubscribe k =>
    cases hk : l.roll[k]? with
    | none => simp [Fair, Roll.Fair, hk]
    | some s =>
      refine (Roll.erase_eq_live_close_iff hk).1 ?_
      simpa [deal, hk, Machine.leave, hroll] using h
  | call c => trivial

/-- **Every subscription gets what it is owed exactly if unsubscribers are called fairly.** Of a machine
that nobody is subscribed to, subscriptions are made, unsubscribers called and transitions committed, in
any order and number, by listeners that do not dispatch while being told. -/
theorem honours_iff_fair (m : Machine) (hquiet : m.Quiet) (hnew : m.subscribed = [])
    (fuel depth : Nat) (ds : List Dealing) (hds : ∀ d ∈ ds, d.Quiet) :
    (∀ p ∈ made fuel depth ⟨m, []⟩ ds, p.1.Honours fuel depth p.2) ↔
      ∀ p ∈ made fuel depth ⟨m, []⟩ ds, p.1.Fair p.2 := by
  have hrun : ∀ l : Ledger, l.machine.Quiet → l.machine.subscribed = l.roll.live →
      ((∀ p ∈ made fuel depth l ds, p.1.Honours fuel depth p.2) ↔
        ∀ p ∈ made fuel depth l ds, p.1.Fair p.2) := by
    clear hquiet hnew
    induction ds with
    | nil => simp [made]
    | cons d ds ih =>
      obtain ⟨hd, hds⟩ := List.forall_mem_cons.1 hds
      intro l hquiet hroll
      rw [made, List.forall_mem_cons, List.forall_mem_cons]
      have hiff : l.Honours fuel depth d ↔ l.Fair d :=
        ⟨fun h => fair_of_subscribed hroll h.subscribed, honours_of_fair hquiet hroll⟩
      rw [hiff]
      refine and_congr_right fun hfair => ih hds _ (quiet_deal hquiet hd hroll) ?_
      exact (honours_of_fair hquiet hroll hfair).subscribed
  exact hrun ⟨m, []⟩ hquiet hnew

/-- Of two listeners, one of which stops listening and says so again later, the other is told. -/
theorem honours_one_of_two :
    let m := Machine.new anbn {} none none
    let ds : List Dealing := [.subscribe { id := "c" }, .subscribe { id := "d" }, .unsubscribe 0,
      .call (.dispatch "a" false), .unsubscribe 0]
    (∀ p ∈ made 0 0 ⟨m, []⟩ ds, p.1.Honours 0 0 p.2) ∧
    (ds.foldl (deal 0 0) ⟨m, []⟩).machine.heard = #[⟨"d", "q0", "a", [["a"]]⟩] := by
  intro m ds
  refine ⟨(honours_iff_fair m (fun _ h => nomatch h) rfl 0 0 ds ?_).2 ?_, by cbv⟩
  · have hanswers : ∀ l : Listener, .subscribe l ∈ ds → l.answer = none := by simp +contextual [ds]
    rintro d hd l rfl
    exact hanswers l hd
  · decide +kernel

/-- The unsubscriber of the first of two subscriptions of one listener is called twice. The second
subscription is still owed a notice and gets none. -/
theorem not_honours_after_two_calls :
    let d : Dealing := .call (.dispatch "a" false)
    let l : Ledger := [Dealing.subscribe { id := "c" }, .subscribe { id := "c" }, .unsubscribe 0,
      .unsubscribe 0].foldl (deal 0 0) ⟨Machine.new anbn {} none none, []⟩
    l.roll = [⟨"c", false⟩, ⟨"c", true⟩] ∧ l.owed 0 d = [⟨"c", "q0", "a", [["a"]]⟩] ∧
    (l.deal 0 0 d).machine.heard = #[] ∧ ¬ l.Honours 0 0 d := by
  intro d l
  have howed : l.owed 0 d = [⟨"c", "q0", "a", [["a"]]⟩] := by cbv
  have hheard : (l.deal 0 0 d).machine.heard = #[] := by cbv
  have hbefore : l.machine.heard = #[] := by cbv
  refine ⟨by cbv, howed, hheard, fun h => ?_⟩
  have htold := h.heard
  rw [hheard, hbefore, howed] at htold
  cases htold

end Ledger

end ArrowMachine
