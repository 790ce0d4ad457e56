import ArrowMachine.Pattern
import ArrowMachine.Proofs.Outcome
import Mathlib.Tactic.Common

/-!
Reading a pattern never uses up the calls that are counted out for it.

Every call that is within another has taken a piece of the text before it, or is one of a few that may come
before the next piece. So what is left of the text bounds the calls that are still needed (`Parse.within_grammar`),
and there are enough of them to begin with (`Reading.ofText_own`).
-/
namespace ArrowMachine.Pattern

/-- The failure is one of the text, and not of the calls that reading it takes. -/
def Failure.IsOwn (e : Failure) : Prop := e ≠ .tooDeep ∧ e ≠ .outOfCalls

instance : DecidablePred Failure.IsOwn := fun _ => inferInstanceAs (Decidable (_ ∧ _))

theorem Failure.own_countTooLong (digits : Nat) : (countTooLong digits).IsOwn := ⟨nofun, nofun⟩

/-- At most so many pieces are still to be taken. -/
def Reader.size (r : Reader) : Nat := r.rest.length + if r.next.isSome then 1 else 0

theorem Reader.size_onto {place : Nat} {cs : List Char} {r : Reader} (h : onto place cs = .ok r) :
    r.size ≤ cs.length := by
  unfold onto at h
  split at h
  · cases h
    exact Nat.le_refl 0
  · cases h
  · cases h
    simp [size]
  · cases h
    simp [size]

theorem Reader.onto_own {place : Nat} {cs : List Char} {e : Failure} (h : onto place cs = .error e) :
    e.IsOwn := by
  unfold onto at h
  split at h <;> cases h
  exact ⟨nofun, nofun⟩

namespace Parse

variable {α β : Type} {m n calls : Nat} {x : Parse α} {f : α → Parse β} {s : Progress}

/-- A computation ends with a result, of which `Q` holds together with the number of pieces that may still be
taken, or with a failure of the text. -/
def Ends (Q : α → Nat → Prop) : Except Failure (α × Progress) → Prop
  | .ok (a, s) => Q a s.reader.size
  | .error e => e.IsOwn

/-- Begun with at most `n` pieces to be taken, a computation ends with at most `n`. -/
def Within (n : Nat) (x : Parse α) : Prop :=
  ∀ s, s.reader.size ≤ n → Ends (fun _ left => left ≤ n) (x s)

theorem Ends.mono {P Q : α → Nat → Prop} {result : Except Failure (α × Progress)} (h : Ends P result)
    (hPQ : ∀ a left, P a left → Q a left) : Ends Q result := by
  cases result with
  | ok p => exact hPQ p.1 _ h
  | error e => exact h

theorem Ends.bind {P : α → Nat → Prop} {Q : β → Nat → Prop} (hx : Ends P (x s))
    (hf : ∀ a s', P a s'.reader.size → Ends Q (f a s')) : Ends Q ((x >>= f) s) := by
  change Ends Q ((x s).bind fun p => f p.1 p.2)
  cases hrun : x s with
  | error e =>
    rw [hrun] at hx
    exact hx
  | ok p =>
    rw [hrun] at hx
    exact hf p.1 p.2 hx

theorem Within.bind (hx : Within n x) (hf : ∀ a, Within n (f a)) : Within n (x >>= f) :=
  fun s hs => (hx s hs).bind fun a s' hs' => hf a s' hs'

/-! ## Steps -/

theorem within_pure (a : α) : Within n (pure a : Parse α) := fun _ hs => hs

theorem within_throw {e : Failure} (he : e.IsOwn) : Within n (throw e : Parse α) := fun _ _ => he

theorem within_fail (problem : Problem) (back : Nat) : Within n (fail problem back : Parse α) :=
  fun _ _ => ⟨nofun, nofun⟩

theorem within_failAt (problem : Problem) (place : Nat) : Within n (failAt problem place : Parse α) :=
  within_throw ⟨nofun, nofun⟩

/-- A check on the way. -/
theorem Within.unless {c : Prop} [Decidable c] {x : Parse Unit} {f : Unit → Parse β} (hx : Within n x)
    (hf : Within n (f ())) : Within n (if c then x >>= f else f ()) := by
  split
  · exact hx.bind fun _ => hf
  · exact hf

/-- One of two ways to go on from. -/
theorem Within.either {c : Prop} [Decidable c] {x y : Parse α} (hx : Within n x) (hy : Within n y)
    (hf : ∀ a, Within n (f a)) : Within n (if c then x >>= f else y >>= f) := by
  split
  · exact hx.bind hf
  · exact hy.bind hf

theorem within_get : Within n (get : Parse Progress) := fun _ hs => hs

theorem within_get_bind {f : Progress → Parse β} (h : ∀ s, s.reader.size ≤ n → Within n (f s)) :
    Within n (get >>= f) := fun s hs => h s hs s hs

theorem within_put (hs : s.reader.size ≤ n) : Within n (MonadStateOf.set s : Parse PUnit) :=
  fun _ _ => hs

theorem within_modify {g : Progress → Progress} (hg : ∀ s, (g s).reader = s.reader) :
    Within n (modify g : Parse Unit) := by
  intro s hs
  change (g s).reader.size ≤ n
  rwa [hg]

theorem within_reader_bind {f : Reader → Parse β} (h : ∀ r, r.size ≤ n → Within n (f r)) :
    Within n (reader >>= f) := fun s hs => h s.reader hs s hs

theorem within_setReader {r : Reader} (hr : r.size ≤ n) : Within n (setReader r) := fun _ _ => hr

theorem within_peek : Within n peek := fun _ hs => hs

theorem ends_peek_bind {P : β → Nat → Prop} {f : Option (List Char) → Parse β} {s : Progress}
    (h : Ends P (f s.reader.next s)) : Ends P ((peek >>= f) s) := h

theorem within_place : Within n place := fun _ hs => hs

theorem within_left : Within n left := fun _ hs => hs

theorem within_groupCount : Within n groupCount := fun _ hs => hs

theorem within_isClosed (number : Nat) : Within n (isClosed number) := fun _ hs => hs

theorem take_run (s : Progress) :
    take s = s.reader.advance.map fun r => (s.reader.next, { s with reader := r }) := by
  change (liftM s.reader.advance : Parse Reader) s >>= _ = _
  cases s.reader.advance <;> rfl

/-- When a piece is taken, there is one less. -/
theorem ends_take (s : Progress) : Ends (fun a left => a = s.reader.next ∧
    (if a.isSome then left < s.reader.size else left ≤ s.reader.size)) (take s) := by
  rw [take_run, Reader.advance]
  cases hnext : s.reader.next with
  | none => exact ⟨rfl, Nat.le_refl _⟩
  | some p =>
    simp only
    cases honto : Reader.onto (s.reader.place + p.length) s.reader.rest with
    | error e => exact Reader.onto_own honto
    | ok r =>
      have hsize : s.reader.size = s.reader.rest.length + 1 := by
        rw [Reader.size, hnext]
        rfl
      refine ⟨rfl, ?_⟩
      rw [hsize]
      exact Nat.lt_succ_of_le (Reader.size_onto honto)

theorem within_take_bind {f : Option Piece → Parse β} (hnone : Within n (f none))
    (hsome : ∀ p m, m < n → Within m (f (some p))) : Within n (take >>= f) := by
  intro s hs
  refine (ends_take s).bind fun a s' ha => ?_
  cases a with
  | none => exact hnone s' (Nat.le_trans ha.2 hs)
  | some p =>
    have hlt : s'.reader.size < n := Nat.lt_of_lt_of_le ha.2 hs
    exact (hsome p _ hlt s' (Nat.le_refl _)).mono fun _ left hleft => Nat.le_trans hleft (Nat.le_of_lt hlt)

theorem within_take : Within n take := by
  rw [← bind_pure take]
  exact within_take_bind (within_pure none) fun p m _ => within_pure (some p)

theorem within_accept_bind {c : Char} {f : Bool → Parse β} (htrue : ∀ m, m < n → Within m (f true))
    (hfalse : Within n (f false)) : Within n (accept c >>= f) := by
  intro s hs
  have haccept : (accept c >>= f) s =
      ((if s.reader.next = some [c] then take >>= fun _ => pure true else pure false) >>= f) s := rfl
  rw [haccept]
  split
  · next hnext =>
    rw [bind_assoc]
    refine (ends_take s).bind fun a s' ha => ?_
    rw [hnext] at ha
    obtain ⟨rfl, hlt⟩ := ha
    have hlt : s'.reader.size < n := Nat.lt_of_lt_of_le hlt hs
    rw [pure_bind]
    exact (htrue _ hlt s' (Nat.le_refl _)).mono fun _ left hleft => Nat.le_trans hleft (Nat.le_of_lt hlt)
  · rw [pure_bind]
    exact hfalse s hs

theorem within_accept (c : Char) : Within n (accept c) := by
  rw [← bind_pure (accept c)]
  exact within_accept_bind (fun m _ => within_pure true) (within_pure false)

theorem within_left_bind {f : Nat → Parse β} (h : ∀ m calls, m < calls → Within m (f calls)) :
    Within n (left >>= f) := by
  intro s hs
  have hlt : s.reader.size < s.reader.rest.length + 2 := by
    unfold Reader.size
    split <;> omega
  exact (h _ _ hlt s (Nat.le_refl _)).mono fun _ left hleft => Nat.le_trans hleft hs

theorem within_takeWhile (ok : Char → Bool) (calls : Nat) : Within n (takeWhile ok calls) := by
  induction calls with
  | zero => exact within_pure []
  | succ calls ih =>
    refine within_peek.bind fun next => ?_
    split
    · split
      · exact within_take.bind fun _ => ih.bind fun cs => within_pure _
      · exact within_pure []
    · exact within_pure []

theorem within_takeUntil {terminator : Char} {what : String} {taken : List Char} (h : n < calls) :
    Within n (takeUntil terminator what calls taken) := by
  induction calls generalizing n taken with
  | zero => exact absurd h (Nat.not_lt_zero n)
  | succ calls ih =>
    refine within_take_bind ?_ fun p m hm => ?_
    · simp only
      split
      · exact within_fail _ 0
      · exact within_fail _ _
    · simp only
      split
      · split
        · exact within_fail _ 1
        · exact within_pure taken
      · exact ih (by omega)

theorem within_name (terminator : Char) (what : String) : Within n (name terminator what) :=
  within_left_bind fun _ _ h => within_takeUntil h

theorem within_openGroup (name? : Option (List Char)) : Within n (openGroup name?) := by
  refine within_get_bind fun s hs => ?_
  simp only
  split
  · refine (within_put ?_).bind fun _ => within_pure _
    exact hs
  · split
    · exact (within_fail _ _).bind fun _ => within_pure _
    · refine (within_put ?_).bind fun _ => within_pure _
      exact hs

theorem within_closeGroup (number : Nat) (body : Node) : Within n (closeGroup number body) :=
  within_modify fun _ => rfl

theorem within_checkBehind (number : Nat) : Within n (checkBehind number) := by
  refine within_get.bind fun s => ?_
  split
  · exact within_pure ()
  · refine (within_isClosed number).bind fun closed => ?_
    split
    · exact within_fail _ 0
    · split
      · exact within_fail _ 0
      · exact within_pure ()

/-! ## Escapes -/

theorem within_hexEscape (letter : Char) (count : Nat) : Within n (hexEscape letter count) := by
  refine (within_takeWhile _ _).bind fun ds => ?_
  refine (within_fail _ _).unless ?_
  refine (within_throw (by decide)).unless ?_
  exact (within_fail _ _).unless (within_pure _)

theorem within_nameEscape : Within n nameEscape := by
  refine (within_accept _).bind fun _ => ?_
  refine (within_fail _ _).unless ?_
  refine (within_name _ _).bind fun cs => ?_
  split
  · exact within_pure _
  · exact within_fail _ _

theorem within_octal (ds : List Char) : Within n (octal ds) := by
  unfold octal
  exact (within_fail _ _).unless (within_pure _)

theorem within_codeEscape (c : Char) : Within n (codeEscape c) := by
  unfold codeEscape
  split
  · exact within_pure _
  · split
    · exact (within_hexEscape c 2).bind fun _ => within_pure _
    · split
      · exact (within_hexEscape c 4).bind fun _ => within_pure _
      · split
        · exact (within_hexEscape c 8).bind fun _ => within_pure _
        · split
          · exact within_nameEscape.bind fun _ => within_pure _
          · exact within_pure none

theorem within_plainEscape (c : Char) : Within n (plainEscape c) := by
  unfold plainEscape
  exact (within_fail _ _).unless (within_pure _)

theorem within_setEscape (c : Char) : Within n (setEscape c) := by
  unfold setEscape
  split
  · exact within_pure _
  · split
    · exact within_pure _
    · refine (within_codeEscape c).bind fun code => ?_
      split
      · exact within_pure _
      · split
        · exact (within_takeWhile _ _).bind fun _ => (within_octal _).bind fun _ => within_pure _
        · split
          · exact within_fail _ _
          · exact (within_plainEscape c).bind fun _ => within_pure _

theorem within_backReference (digits : List Char) : Within n (backReference digits) := by
  refine within_groupCount.bind fun count => ?_
  refine (within_fail _ _).unless ?_
  refine (within_isClosed _).bind fun closed => ?_
  refine (within_fail _ _).unless ?_
  exact (within_checkBehind _).bind fun _ => within_pure _

theorem within_digitEscape (c : Char) : Within n (digitEscape c) := by
  refine (within_takeWhile _ _).bind fun ds => ?_
  split
  · exact within_backReference _
  · split
    · refine (within_takeWhile _ _).bind fun es => ?_
      split
      · exact within_backReference _
      · exact (within_octal _).bind fun _ => within_pure _
    · exact within_backReference _

theorem within_nodeEscape (c : Char) : Within n (nodeEscape c) := by
  unfold nodeEscape
  split
  · exact within_pure _
  · exact within_pure _
  · refine (within_codeEscape c).bind fun code => ?_
    split
    · exact within_pure _
    · split
      · exact (within_takeWhile _ _).bind fun _ => (within_octal _).bind fun _ => within_pure _
      · split
        · exact within_digitEscape c
        · exact (within_plainEscape c).bind fun _ => within_pure _

/-! ## Sets -/

theorem within_setMember (p : Piece) : Within n (setMember p) := by
  unfold setMember
  split
  · exact within_pure _
  · exact within_setEscape _
  · exact within_fail _ _

theorem within_setItems {start : Nat} {items : List SetItem} (h : n < calls) :
    Within n (setItems start calls items) := by
  induction calls generalizing n items with
  | zero => exact absurd h (Nat.not_lt_zero n)
  | succ calls ih =>
    refine within_take_bind (within_failAt _ _) fun p m hm => ?_
    simp only
    split
    · exact within_pure items
    · have hcalls : m < calls := by omega
      refine (within_setMember p).bind fun first => (within_accept _).bind fun range => ?_
      split
      · exact ih hcalls
      · refine within_take.bind fun next => ?_
        split
        · exact within_failAt _ _
        · split
          · exact within_pure _
          · refine (within_setMember _).bind fun last => ?_
            split
            · exact (within_fail _ _).unless (ih hcalls)
            · exact within_fail _ _

theorem within_set : Within n set := by
  refine within_place.bind fun place => (within_accept _).bind fun negated => ?_
  exact within_left_bind fun m calls h => (within_setItems h).bind fun items => within_pure _

/-! ## Repetition -/

theorem within_roundCount (digits : List Char) : Within n (roundCount digits) := by
  unfold roundCount
  refine (within_throw (Failure.own_countTooLong _)).unless ?_
  exact (within_throw (by decide)).unless (within_pure _)

theorem within_braces : Within n braces := by
  refine within_reader_bind fun opened hopened => ?_
  refine within_peek.bind fun next => ?_
  split
  · exact within_pure none
  · refine within_left.bind fun calls => (within_takeWhile _ _).bind fun lo => ?_
    refine (within_accept _).bind fun comma => ?_
    simp only [← bind_assoc left]
    refine Within.either (within_left.bind fun _ => within_takeWhile _ _) (within_pure _) fun hi => ?_
    refine (within_accept _).bind fun closed => ?_
    split
    · exact (within_setReader hopened).bind fun _ => within_pure _
    · refine (within_roundCount _).bind fun least => ?_
      split
      · exact within_pure _
      · refine (within_roundCount _).bind fun most => ?_
        exact (within_failAt _ _).unless (within_pure _)

theorem within_bounds (quantifier : Char) : Within n (bounds quantifier) := by
  unfold bounds
  split
  · exact within_pure _
  · exact within_pure _
  · exact within_pure _
  · exact within_braces

theorem within_greed : Within n greed := by
  refine (within_accept _).bind fun lazy => ?_
  split
  · exact within_pure _
  · refine (within_accept _).bind fun possessive => ?_
    split
    · exact within_pure _
    · exact within_pure _

theorem within_repeatLast (start least : Nat) (most : Option Nat) (items : List Node) :
    Within n (repeatLast start least most items) := by
  unfold repeatLast
  split
  · exact within_failAt _ _
  · refine (within_failAt _ _).unless ?_
    refine (within_failAt _ _).unless ?_
    exact within_greed.bind fun _ => within_pure _

/-! ## Switches -/

theorem within_failFlag (p : Piece) (otherwise : Problem) : Within n (failFlag p otherwise : Parse α) := by
  unfold failFlag
  split
  · exact within_fail _ _
  · exact within_fail _ _

theorem within_flagsOn {flag : Flag} {on : Flags} (h : n < calls) : Within n (flagsOn calls flag on) := by
  induction calls generalizing n flag on with
  | zero => exact absurd h (Nat.not_lt_zero n)
  | succ calls ih =>
    rw [flagsOn]
    refine (within_fail _ _).unless ?_
    refine (within_fail _ _).unless ?_
    refine within_take_bind (within_fail _ _) fun p m hm => ?_
    simp only
    split
    · exact within_pure _
    · split
      · exact within_pure _
      · split
        · exact within_pure _
        · split
          · exact ih (by omega)
          · exact within_failFlag _ _

theorem within_flagsOff {flag : Flag} {off : Flags} (h : n < calls) : Within n (flagsOff calls flag off) := by
  induction calls generalizing n flag off with
  | zero => exact absurd h (Nat.not_lt_zero n)
  | succ calls ih =>
    rw [flagsOff]
    refine (within_fail _ _).unless ?_
    refine within_take_bind (within_fail _ _) fun p m hm => ?_
    simp only
    split
    · exact within_pure _
    · split
      · exact ih (by omega)
      · exact within_failFlag _ _

theorem within_firstFlagOff : Within n firstFlagOff := by
  refine within_take.bind fun next => ?_
  split
  · exact within_fail _ _
  · split
    · exact within_left_bind fun m calls h => within_flagsOff h
    · exact within_failFlag _ _

theorem within_leadingFlags (first : Option Flag) : Within n (leadingFlags first) := by
  cases first with
  | some f => exact within_left_bind fun m calls h => within_flagsOn h
  | none => exact within_pure _

theorem within_switches (first : Option Flag) : Within n (switches first) := by
  refine (within_leadingFlags first).bind fun ⟨on, stop⟩ => ?_
  simp only
  split
  · refine (within_modify ?_).bind fun _ => within_pure none
    exact fun _ => rfl
  · refine (within_fail _ _).unless ?_
    refine Within.either within_firstFlagOff (within_pure _) fun off => ?_
    refine (within_fail _ _).unless ?_
    exact (within_fail _ _).unless (within_pure _)

/-! ## Groups -/

theorem within_knownGroup (cs : List Char) : Within n (knownGroup cs) := by
  refine within_get.bind fun s => ?_
  split
  · exact within_pure _
  · exact within_fail _ _

theorem within_groupName (terminator : Char) : Within n (groupName terminator) := by
  refine (within_name _ _).bind fun cs => ?_
  exact (within_fail _ _).unless (within_pure _)

theorem within_namedReference : Within n namedReference := by
  refine (within_groupName _).bind fun cs => (within_knownGroup cs).bind fun number => ?_
  refine (within_isClosed number).bind fun closed => ?_
  refine (within_fail _ _).unless ?_
  exact (within_checkBehind number).bind fun _ => within_pure _

theorem within_groupOf (cs : List Char) : Within n (groupOf cs) := by
  unfold groupOf
  split
  · exact within_knownGroup cs
  · split
    · exact within_fail _ _
    · refine (within_fail _ _).unless ?_
      refine (within_fail _ _).unless ?_
      refine (within_fail _ _).unless ?_
      refine within_place.bind fun place => (within_modify fun s => ?_).bind fun _ => within_pure _
      split <;> rfl

theorem within_askedGroup : Within n askedGroup :=
  (within_name _ _).bind fun cs => (within_groupOf cs).bind fun number =>
    (within_checkBehind number).bind fun _ => within_pure number

theorem within_comment {start : Nat} (h : n < calls) : Within n (comment start calls) := by
  induction calls generalizing n with
  | zero => exact absurd h (Nat.not_lt_zero n)
  | succ calls ih =>
    refine within_take_bind (within_failAt _ _) fun p m hm => ?_
    simp only
    split
    · exact within_pure _
    · exact ih (by omega)

theorem within_lineComment (calls : Nat) : Within n (lineComment calls) := by
  induction calls with
  | zero => exact within_pure _
  | succ calls ih =>
    refine within_take.bind fun next => ?_
    split
    · exact within_pure _
    · split
      · exact within_pure _
      · exact ih

theorem within_close (start : Nat) : Within n (close start) := by
  refine (within_accept _).bind fun closed => ?_
  split
  · exact within_failAt _ _
  · exact within_pure _

theorem within_enterLook (behind : Bool) : Within n (enterLook behind) := by
  refine within_get.bind fun s => ?_
  simp only
  split
  · refine within_groupCount.bind fun count => (within_modify ?_).bind fun _ => within_pure _
    exact fun _ => rfl
  · exact within_pure _

theorem within_leaveLook (behind : Bool) (outer : Option Nat) : Within n (leaveLook behind outer) := by
  unfold leaveLook
  split
  · exact within_modify fun _ => rfl
  · exact within_pure ()

theorem within_namedOpening : Within n namedOpening := by
  refine (within_accept _).bind fun named => ?_
  split
  · exact (within_groupName _).bind fun _ => within_pure _
  · refine (within_accept _).bind fun reference => ?_
    split
    · exact within_namedReference.bind fun _ => within_pure _
    · refine within_take.bind fun next => ?_
      split
      · exact within_fail _ _
      · exact within_fail _ _

theorem within_behindOpening : Within n behindOpening := by
  refine within_take.bind fun next => ?_
  split
  · exact within_fail _ _
  · split
    · exact within_pure _
    · split
      · exact within_pure _
      · exact within_fail _ _

theorem within_opening (start : Nat) : Within n (opening start) := by
  refine within_take.bind fun next => ?_
  split
  · exact within_fail _ _
  · split
    · exact within_namedOpening
    split
    · exact within_pure _
    split
    · exact within_left_bind fun m calls h => (within_comment h).bind fun _ => within_pure _
    split
    · exact within_pure _
    split
    · exact within_pure _
    split
    · exact within_behindOpening
    split
    · exact within_askedGroup.bind fun _ => within_pure _
    split
    · exact within_pure _
    split
    · refine (within_switches _).bind fun switches => ?_
      split
      · exact within_pure _
      · exact within_pure _
    · exact within_fail _ _

/-! ## The grammar -/

theorem within_quantify (items : List Node) (quantifier : Char) : Within n (quantify items quantifier) := by
  refine within_place.bind fun place => (within_bounds quantifier).bind fun bounds => ?_
  split
  · exact within_pure _
  · exact within_repeatLast _ _ _ _

theorem within_extend (verbose : Bool) (items : List Node) (p : Piece) :
    Within n (extend verbose items p) := by
  unfold extend
  split
  · exact within_pure _
  · split
    · exact within_left.bind fun calls => (within_lineComment calls).bind fun _ => within_pure _
    · split
      · exact (within_nodeEscape _).bind fun _ => within_pure _
      · split
        · exact within_set.bind fun _ => within_pure _
        · iterate 4 (split; · exact within_pure _)
          split
          · exact (within_quantify _ _).bind fun _ => within_pure _
          · exact within_pure _
      · exact within_pure _

/-- **The calls that are counted out suffice.** Between two calls for the same piece there are at most three
others, so four calls for every piece that is left, and a few to begin with, are enough. -/
theorem within_grammar (calls : Nat) :
    (∀ n verbose top, 4 * n + 2 ≤ calls → Within n (alternatives calls verbose top)) ∧
    (∀ n verbose top, 4 * n + 1 ≤ calls → Within n (moreAlternatives calls verbose top)) ∧
    (∀ n verbose start items, 4 * n + 1 ≤ calls → Within n (sequence calls verbose start items)) ∧
    ∀ n verbose start items, 4 * n + 3 ≤ calls → Within n (group calls verbose start items) := by
  induction calls with
  | zero => exact ⟨fun _ _ _ h => by omega, fun _ _ _ h => by omega, fun _ _ _ _ h => by omega,
      fun _ _ _ _ h => by omega⟩
  | succ calls ih =>
    obtain ⟨halternatives, hmore, hsequence, hgroup⟩ := ih
    refine ⟨fun n verbose top h => ?_, fun n verbose top h => ?_, fun n verbose start items h => ?_,
      fun n verbose start items h => ?_⟩
    · rw [alternatives]
      refine (hsequence n _ _ _ (by omega)).bind fun first => ?_
      exact (hmore n _ _ (by omega)).bind fun _ => within_pure _
    · rw [moreAlternatives]
      refine within_accept_bind (fun m hm => ?_) (within_pure [])
      have hrest : ∀ verbose, Within m (do
          let next ← sequence calls verbose false []
          return next :: (← moreAlternatives calls verbose top)) := fun verbose =>
        (hsequence m _ _ _ (by omega)).bind fun next =>
          (hmore m _ _ (by omega)).bind fun _ => within_pure _
      simp only [Bool.not_true, Bool.false_eq_true, if_false]
      split
      · exact within_get.bind fun s => hrest _
      · exact hrest _
    · rw [sequence]
      intro s hs
      refine ends_peek_bind ?_
      cases hnext : s.reader.next with
      | none => exact hs
      | some p =>
        simp only
        split
        · exact hs
        · refine (ends_take s).bind fun a s' ha => ?_
          rw [hnext] at ha
          obtain ⟨rfl, hlt⟩ := ha
          have hlt : s'.reader.size < n := Nat.lt_of_lt_of_le hlt hs
          refine Ends.mono (P := fun _ left => left ≤ s'.reader.size) ?_ fun _ left hleft =>
            Nat.le_trans hleft (Nat.le_of_lt hlt)
          refine (within_extend verbose items p).bind (fun extended => ?_) s' (Nat.le_refl _)
          cases extended with
          | none => exact hgroup _ _ _ _ (by omega)
          | some items => exact hsequence _ _ _ _ (by omega)
    · have hbody : ∀ verbose, Within n (alternatives calls verbose false) := fun verbose =>
        halternatives n _ _ (by omega)
      have hbehind : ∀ verbose start items, Within n (sequence calls verbose start items) :=
        fun verbose start items => hsequence n _ _ _ (by omega)
      rw [group]
      refine within_place.bind fun place => (within_accept _).bind fun asked => ?_
      refine Within.either (within_opening _) (within_pure _) fun kind => ?_
      cases kind with
      | nothing => exact hbehind _ _ _
      | whole node => exact hbehind _ _ _
      | global => exact (within_failAt _ _).unless (within_get.bind fun s => hbehind _ _ _)
      | capture name =>
        refine (within_openGroup name).bind fun number => (hbody _).bind fun body => ?_
        refine (within_close _).bind fun _ => (within_closeGroup _ _).bind fun _ => hbehind _ _ _
      | plain on off => exact (hbody _).bind fun body => (within_close _).bind fun _ => hbehind _ _ _
      | atomic => exact (hbody _).bind fun body => (within_close _).bind fun _ => hbehind _ _ _
      | look behind negated =>
        refine (within_enterLook _).bind fun outer => (hbody _).bind fun body => ?_
        exact (within_leaveLook _ _).bind fun _ => (within_close _).bind fun _ => hbehind _ _ _
      | condition number =>
        refine (hbehind _ _ _).bind fun yes => (within_accept _).bind fun other => ?_
        have hrest : ∀ no, Within n (do
            close (place - 1)
            sequence calls verbose start (items ++ [.ifGroup number (.ofList yes) (.ofList no)])) :=
          fun no => (within_close _).bind fun _ => hbehind _ _ _
        simp only
        split
        · refine (hbehind _ _ _).bind fun no => within_peek.bind fun next => ?_
          exact (within_fail _ _).unless ((within_pure no).bind hrest)
        · exact (within_pure _).bind hrest

end Parse

/-- **Reading a text ends with a pattern or with a failure of the text.** -/
theorem Reading.ofText_own {cs : List Char} {e : Failure} (h : ofText cs = .error e) : e.IsOwn := by
  rcases bind_eq_error h with honto | ⟨reader, honto, h⟩
  · exact Reader.onto_own honto
  have hsize := Reader.size_onto honto
  have hends := (Parse.within_grammar (4 * cs.length + 8)).1 cs.length false true (by omega) { reader } hsize
  rcases bind_eq_error h with hrun | ⟨⟨root, s⟩, hrun, h⟩
  · change Parse.alternatives _ false true _ = _ at hrun
    rw [hrun] at hends
    exact hends
  · clear hends hrun
    simp only at h
    split at h
    · cases h
      decide
    split at h
    · cases h
      exact ⟨nofun, nofun⟩
    split at h
    · cases h
      exact ⟨nofun, nofun⟩
    · split at h
      · cases h
        exact ⟨nofun, nofun⟩
      · split at h
        · cases h
          decide
        · cases h

/-- **Only a pattern of many groups runs out of stack, and none out of the calls that are counted out.** -/
theorem ofText_eq_error {cap : Capacity} {s : String} :
    (ofText cap s = .error .tooDeep → cap.depth < s.toList.count '(') ∧
      ofText cap s ≠ .error .outOfCalls := by
  unfold ofText
  split
  · next hover => exact ⟨fun _ => cap.depth_lt s hover, nofun⟩
  · cases hread : Reading.ofText s.toList with
    | ok reading => exact ⟨nofun, nofun⟩
    | error e =>
      obtain ⟨hdeep, hcalls⟩ := Reading.ofText_own hread
      exact ⟨fun h => absurd (Except.error.inj h) hdeep, fun h => hcalls (Except.error.inj h)⟩

end ArrowMachine.Pattern
