import ArrowMachine.Pattern.CharTest

/-!
What a pattern comes to for matching.

`Node.toCode` settles the switches: every character is a `CharTest`, a look-behind knows how far to step
back, and a repetition of single characters is a `span`. A span and an alternative also know what
character has to come next for them to be worth a try. `Node.lead` tells how a match may begin, so that
other places need not be tried.
-/
namespace ArrowMachine.Pattern

inductive Code where
  | empty
  | seq (a b : Code)
  | never
  /-- Two ways; the first one is tried only where the test `gate` accepts what comes next. -/
  | alt (gate : Option CharTest) (a b : Code)
  | take (t : CharTest)
  /-- Notes the place as mark `i`. The marks of group `g` are numbers `2 * g - 2` and `2 * g - 1`. -/
  | mark (i : Nat)
  | anchor (mode : Mode) (a : Anchor)
  | look (negated : Bool) (back : Nat) (body : Code)
  | atomic (body : Code)
  /-- A row of single characters. A greedy one stops only before the code point `next`, if that is given. -/
  | span (greed : Greed) (least : Nat) (most : Option Nat) (t : CharTest) (next : Option Nat)
  | rounds (greed : Greed) (least : Nat) (most : Option Nat) (body : Code)
  | back (fold : Fold) (group : Nat)
  | ifGroup (group : Nat) (yes no : Code)
  deriving Repr

namespace Code

/-- The literal that the code begins with, or `next` if the code is empty. -/
def literal? (next : Option Nat) : Code → Option Nat
  | empty => next
  | seq a b => a.literal? (b.literal? next)
  | take t => t.literal?
  | _ => none

/-- The plain test that the code begins with. -/
def gate? : Code → Option CharTest
  | seq empty b => b.gate?
  | seq a _ => a.gate?
  | take t => if t.isPlain then some t else none
  | _ => none

end Code

/-- The code of a node under the switches `fs`. `next` is the literal that follows it. -/
def Node.toCode (closed : List (Option Width)) : Node → (fs : Flags) → (next : Option Nat) → Code
  | empty, _, _ => .empty
  | seq a b, fs, next =>
    let rest := b.toCode closed fs next
    .seq (a.toCode closed fs (rest.literal? next)) rest
  | never, _, _ => .never
  | alt a b, fs, _ =>
    let first := a.toCode closed fs none
    .alt first.gate? first (b.toCode closed fs none)
  | any, fs, _ => .take (if (Mode.ofFlags fs).dotAll then .any else .inLine)
  | code negated n, fs, _ => .take (.ofCode (.ofFlags fs) negated n)
  | set negated items, fs, _ => .take (.ofSet (.ofFlags fs) negated items)
  | anchor a, fs, _ => .anchor (.ofFlags fs) a
  | group none on off body, fs, next => body.toCode closed (Flags.within fs on off) next
  | group (some g) on off body, fs, _ =>
    .seq (.mark (2 * g - 2))
      (.seq (body.toCode closed (Flags.within fs on off) none) (.mark (2 * g - 1)))
  | atomic body, fs, _ => .atomic (body.toCode closed fs none)
  | rounds greed least most body, fs, next =>
    match body.single? fs with
    | some t => .span greed least most t next
    | none => .rounds greed least most (body.toCode closed fs none)
  | look behind negated body, fs, _ =>
    .look negated (if behind then (body.width closed).least else 0) (body.toCode closed fs none)
  | back g, fs, _ => .back (Mode.ofFlags fs).fold g
  | ifGroup g yes empty, fs, next => .ifGroup g (yes.toCode closed fs next) .empty
  | ifGroup g yes no, fs, next => .ifGroup g (yes.toCode closed fs none) (no.toCode closed fs next)

/-! ## Beginnings -/

/-- How a match may begin. -/
inductive Lead where
  /-- With one character, which case makes no difference to. -/
  | literal
  /-- With one of several such characters. -/
  | literals
  /-- With a character that passes a test. -/
  | among (t : CharTest)
  /-- There is nothing to begin with. -/
  | nothing
  | free

namespace Lead

/-- The lead of a sequence from those of its first item and of the rest. Only a literal is noticed behind an
item that holds nothing. -/
def andThen : Lead → Lead → Lead
  | nothing, literal => literal
  | nothing, nothing => nothing
  | nothing, _ => free
  | l, _ => l

end Lead

namespace Node

/-- Whether a node is a literal that case makes no difference to, or a sequence that begins with one. -/
def beginsExactly (fold : Fold) : Node → Bool
  | seq a _ => a.beginsExactly fold
  | code false n => !fold.anyCased n n
  | _ => false

/-- Whether all alternatives begin with such a literal. -/
def allBeginExactly (fold : Fold) : Node → Bool
  | never => true
  | alt a b => a.beginsExactly fold && b.allBeginExactly fold
  | _ => false

/-- How a match of a node may begin, under the switches `fs`. The named classes in a set are read as
`ascii` says, whatever the switches of the groups around it. -/
def lead (ascii : Bool) (fs : Flags) : Node → Lead
  | empty => .nothing
  | seq a b => (a.lead ascii fs).andThen (b.lead ascii fs)
  | group _ on off body => body.lead ascii (Flags.within fs on off)
  | code negated n => if (code negated n).beginsExactly (Mode.ofFlags fs).fold then .literal else .free
  | alt a b => if (alt a b).allBeginExactly (Mode.ofFlags fs).fold then .literals else .free
  | set negated items =>
    let fold := (Mode.ofFlags fs).fold
    if fold ≠ .kept && items.any (·.hasCase fold) then .free
    else .among (.set .kept negated ascii items)
  | _ => .free

end Node

end ArrowMachine.Pattern
