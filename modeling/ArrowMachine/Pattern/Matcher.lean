import ArrowMachine.Pattern.Code

/-!
Matching a pattern against a text.

`Code.run` tries the ways to match in order of preference and hands each place reached to what follows,
until that succeeds. A `Store` is handed on with the place and comes back even from a failure. It holds the
marks of the groups and a cursor, the place where the last try was begun or ended. A possessive repetition
goes on from the cursor: from where its last round gave up, if that round failed.

What a failed try has marked is taken back within rounds. Elsewhere only those marks are dropped that had
not been set before.
-/
namespace ArrowMachine.Pattern

/-- What tries leave behind. -/
structure Store where
  cursor : Nat
  /-- The marks in force, by number. -/
  marks : Array (Option Nat) := #[]
  deriving Repr

namespace Store

/-- The store with the cursor at `i`. -/
def goto (s : Store) (i : Nat) : Store := { s with cursor := i }

/-- The store with mark `m` at `i`; lower marks that are missing become empty. -/
def mark (s : Store) (m i : Nat) : Store :=
  { s with marks :=
      if m < s.marks.size then s.marks.setIfInBounds m (some i)
      else (s.marks ++ Array.replicate (m - s.marks.size) none).push (some i) }

/-- The marks of a group, if both are set. -/
def bounds? (s : Store) (group : Nat) : Option (Nat × Nat) :=
  match (s.marks[2 * group - 2]?).join, (s.marks[2 * group - 1]?).join with
  | some a, some b => some (a, b)
  | _, _ => none

/-- Where the text of a group lies, if the group has matched. -/
def span? (s : Store) (group : Nat) : Option (Nat × Nat) :=
  (s.bounds? group).filter fun (a, b) => a ≤ b

/-- Whether some group ends before it begins. -/
def isCrossed (s : Store) : Bool :=
  (List.range (s.marks.size / 2)).any fun g => (s.bounds? (g + 1)).any fun (a, b) => b < a

/-- The store after a failure, where it was `old` before the try. -/
def rewind (s : Store) (inRounds : Bool) (old : Store) : Store :=
  { s with marks := if inRounds then old.marks else s.marks.take old.marks.size }

end Store

/-- Whether a try succeeded, and the store it left. -/
structure Outcome where
  ok : Bool
  store : Store

namespace Outcome

def failed (s : Store) : Outcome := ⟨false, s⟩

/-- Another try, from the store that a failure left. -/
def orElse (o : Outcome) (next : Store → Outcome) : Outcome := if o.ok then o else next o.store

/-- What becomes of the store if the try failed. -/
def onFailure (o : Outcome) (f : Store → Store) : Outcome := o.orElse fun s => .failed (f s)

/-- What follows a success. -/
def andThen (o : Outcome) (next : Store → Outcome) : Outcome := if o.ok then next o.store else o

end Outcome

/-- What is to be matched behind a place. -/
abbrev Rest := Nat → Store → Outcome

/-- Nothing is to be matched any more. -/
def done : Rest := fun i s => ⟨true, s.goto i⟩

/-! ## Places and texts -/

def wordAt (mode : Mode) (text : Array Char) (i : Nat) : Bool := text[i]?.any (isWordChar mode.ascii)

/-- Whether a word begins or ends at `i`. -/
def isBoundary (mode : Mode) (text : Array Char) (i : Nat) : Bool :=
  (i ≠ 0 && wordAt mode text (i - 1)) != wordAt mode text i

def Anchor.holds (mode : Mode) (text : Array Char) (i : Nat) : Anchor → Bool
  | lineStart => i = 0 || (mode.multiLine && text[i - 1]? = some '\n')
  | lineEnd =>
    i = text.size || (text[i]? = some '\n' && (mode.multiLine || i + 1 = text.size))
  | textStart => i = 0
  | textEnd => i = text.size
  | boundary => text.size ≠ 0 && isBoundary mode text i
  | noBoundary => text.size ≠ 0 && !isBoundary mode text i

/-- Whether the text at `j` repeats the one from `i` on, for `n` characters. -/
def sameText (fold : Fold) (text : Array Char) (i j : Nat) : (n : Nat) → Bool
  | 0 => true
  | n + 1 =>
    match text[i]?, text[j]? with
    | some a, some b => fold.apply a = fold.apply b && sameText fold text (i + 1) (j + 1) n
    | _, _ => false

/-- Whether the code point `next`, if there is one, stands at `i`. -/
def standsAt (text : Array Char) (next : Option Nat) (i : Nat) : Bool :=
  next.all fun n => text[i]?.any (·.toNat = n)

/-! ## Spans -/

/-- Tries what follows from `i` on. -/
def attempt (inRounds : Bool) (old : Store) (k : Rest) (i : Nat) (s : Store) : Outcome :=
  (k i (s.goto i)).onFailure (·.rewind inRounds old)

/-- Tries what follows behind `count` characters from `i` on, then behind fewer, down to `least`. -/
def fromLongest (text : Array Char) (next : Option Nat) (least i : Nat) (inRounds : Bool) (old : Store)
    (k : Rest) : (count : Nat) → Store → Outcome
  | count, s =>
    if count < least then .failed s
    else
      let here :=
        if standsAt text next (i + count) then attempt inRounds old k (i + count) s else .failed s
      match count with
      | 0 => here
      | fewer + 1 => here.orElse (fromLongest text next least i inRounds old k fewer)

/-- Tries what follows at `i`, then behind more and more characters, `tries` times at most. -/
def fromShortest (text : Array Char) (t : CharTest) (inRounds : Bool) (old : Store) (k : Rest) :
    (tries i : Nat) → Store → Outcome
  | 0, _, s => .failed s
  | tries + 1, i, s =>
    (attempt inRounds old k i s).orElse fun s =>
      if t.holdsAt text i then
        fromShortest text t inRounds old k tries (i + 1) (s.goto (if t.isFolded then i + 1 else i))
      else .failed (s.goto i)

/-- A row of characters from `i` on, and what follows it. -/
def spanFrom (text : Array Char) (greed : Greed) (least : Nat) (most : Option Nat) (t : CharTest)
    (next : Option Nat) (inRounds : Bool) (i : Nat) (s : Store) (k : Rest) : Outcome :=
  let left := text.size - i
  if left < least then .failed s
  else
    let longest := match greed with
      | .lazy => least
      | _ => min (most.getD left) left
    let count := t.count text i longest
    let s := s.goto (if t.isFolded then i + count else i)
    if count < least then .failed s
    else match greed with
      | .greedy => fromLongest text next least i inRounds s k count s
      | .possessive => k (i + count) s
      | .lazy => fromShortest text t inRounds s k ((most.getD text.size - least) + 1) (i + count) s

/-! ## Rounds -/

/-- How a repetition tries one round, and then what follows it. -/
abbrev Round := Nat → Store → Rest → Outcome

/-- More rounds than a repetition makes that ends. -/
def roundLimit (text : Array Char) (least : Nat) (most : Option Nat) : Nat :=
  most.getD (least + (text.size + 2) * (text.size + 2)) + 1

/-- Whether one more round may be tried from `i`: there may be more, and the last one began elsewhere. -/
def mayRepeat (most : Option Nat) (count : Nat) (last : Option Nat) (i : Nat) : Bool :=
  most.all (count < ·) && last ≠ some i

/-- Rounds of `body`, as many as possible first. -/
def greedyRounds (body : Round) (least : Nat) (most : Option Nat) (k : Rest) :
    (fuel count : Nat) → (last : Option Nat) → Rest
  | 0, _, _, i, s => k i s
  | fuel + 1, count, last, i, s =>
    if count < least then
      (body i (s.goto i) (greedyRounds body least most k fuel (count + 1) last)).onFailure (·.goto i)
    else
      let more :=
        if mayRepeat most count last i then
          (body i (s.goto i) (greedyRounds body least most k fuel (count + 1) (some i))).onFailure
            (·.rewind true s)
        else .failed s
      more.orElse fun t => (k i (t.goto i)).onFailure (·.goto i)

/-- Rounds of `body`, as few as possible first. -/
def lazyRounds (body : Round) (least : Nat) (most : Option Nat) (inRounds : Bool) (k : Rest) :
    (fuel count : Nat) → (last : Option Nat) → Rest
  | 0, _, _, i, s => k i s
  | fuel + 1, count, last, i, s =>
    if count < least then
      (body i (s.goto i) (lazyRounds body least most inRounds k fuel (count + 1) last)).onFailure
        (·.goto i)
    else
      (attempt inRounds s k i s).orElse fun t =>
        if mayRepeat most count last i then
          (body i (t.goto i)
            (lazyRounds body least most inRounds k fuel (count + 1) (some i))).onFailure (·.goto i)
        else .failed (t.goto i)

/-- Rounds of `body` from the cursor on, each matched in the first way that it can be. -/
def possessiveRounds (body : Round) (least : Nat) (most : Option Nat) :
    (fuel count : Nat) → (last : Option Nat) → Store → Outcome
  | 0, _, _, s => ⟨true, s⟩
  | fuel + 1, count, last, s =>
    if count < least then
      (body s.cursor s done).andThen (possessiveRounds body least most fuel (count + 1) last)
    else if mayRepeat most count last s.cursor then
      let round := body s.cursor s done
      if round.ok then possessiveRounds body least most fuel (count + 1) (some s.cursor) round.store
      else ⟨true, round.store.rewind true s⟩
    else ⟨true, s⟩

/-! ## Matching -/

/-- Matches a code from `i` on and then `k`. `inRounds` is set within the rounds of a repetition that is
not possessive. -/
def Code.run (text : Array Char) :
    Code → (inRounds : Bool) → (i : Nat) → Store → Rest → Outcome
  | empty, _, i, s, k => k i s
  | seq a b, inRounds, i, s, k =>
    a.run text inRounds i s fun j t => b.run text inRounds j t k
  | never, _, _, s, _ => .failed s
  | alt gate a b, inRounds, i, s, k =>
    if gate.all (·.holdsAt text i) then
      (a.run text inRounds i (s.goto i) k).orElse fun t =>
        b.run text inRounds i (t.rewind inRounds s) k
    else b.run text inRounds i s k
  | take t, _, i, s, k => if t.holdsAt text i then k (i + 1) s else .failed s
  | mark m, _, i, s, k => k i (s.mark m i)
  | anchor mode a, _, i, s, k => if a.holds mode text i then k i s else .failed s
  | look false far body, inRounds, i, s, k =>
    if i < far then .failed s
    else (body.run text inRounds (i - far) (s.goto (i - far)) done).andThen (k i)
  | look true far body, inRounds, i, s, k =>
    if i < far then k i s
    else
      let met := body.run text inRounds (i - far) (s.goto (i - far)) done
      if met.ok then .failed met.store else k i (met.store.rewind inRounds s)
  | atomic body, inRounds, i, s, k =>
    let met := body.run text inRounds i (s.goto i) done
    if met.ok then k met.store.cursor met.store else .failed (met.store.goto i)
  | span greed least most t next, inRounds, i, s, k =>
    spanFrom text greed least most t next inRounds i s k
  | rounds greed least most body, inRounds, i, s, k =>
    let fuel := roundLimit text least most
    match greed with
    | .greedy => greedyRounds (body.run text true) least most k fuel 0 none i (s.goto i)
    | .lazy => lazyRounds (body.run text true) least most inRounds k fuel 0 none i (s.goto i)
    | .possessive =>
      let met := possessiveRounds (body.run text inRounds) least most fuel 0 none (s.goto i)
      if met.ok then k met.store.cursor met.store else .failed (met.store.goto i)
  | back fold g, _, i, s, k =>
    match s.span? g with
    | some (a, b) => if sameText fold text a i (b - a) then k (i + (b - a)) s else .failed s
    | none => .failed s
  | ifGroup g yes no, inRounds, i, s, k =>
    if (s.span? g).isSome then yes.run text inRounds i s k else no.run text inRounds i s k

end ArrowMachine.Pattern
