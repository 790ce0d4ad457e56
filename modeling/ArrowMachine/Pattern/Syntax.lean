/-!
The syntax of state patterns: regular expressions with groups, back references, assertions, and
greedy, lazy and possessive repetition.

Code points stand as numbers, since a pattern may name one that no text holds. A sequence is a chain of
`seq` that ends in its last item, and alternatives are a chain of `alt` that ends in `never`.
`Node.choice` takes out what all alternatives begin with, and writes single characters as one set.
`Node.width` gives the least and the greatest number of characters that a node takes; a look-behind
needs them to agree.
-/
namespace ArrowMachine.Pattern

/-- The switches that a pattern sets for itself. -/
inductive Flag where
  | ignoreCase | locale | multiLine | dotAll | verbose | ascii | template | unicode
  deriving DecidableEq, Repr

abbrev Flags := List Flag

/-- The letter of a switch. -/
def Flag.ofLetter? : Char → Option Flag
  | 'i' => some .ignoreCase
  | 'L' => some .locale
  | 'm' => some .multiLine
  | 's' => some .dotAll
  | 'x' => some .verbose
  | 'a' => some .ascii
  | 't' => some .template
  | 'u' => some .unicode
  | _ => none

/-- Whether a switch chooses the alphabet; at most one of these holds at a place. -/
def Flag.isAlphabet : Flag → Bool
  | .ascii | .locale | .unicode => true
  | _ => false

/-- The switches within a group: an alphabet that it asks for displaces the one around it. -/
def Flags.within (outer on off : Flags) : Flags :=
  let kept := if on.any Flag.isAlphabet then outer.filter (!·.isAlphabet) else outer
  (kept ++ on).filter (!off.contains ·)

/-- Named classes of characters. -/
inductive Category where
  | digit | space | word
  deriving DecidableEq, Repr

/-- What may stand between the brackets of a set. -/
inductive SetItem where
  | code (n : Nat)
  | range (first last : Nat)
  | category (c : Category) (negated : Bool)
  deriving DecidableEq, Repr

/-- Places that take no character. -/
inductive Anchor where
  | lineStart | lineEnd | textStart | textEnd | boundary | noBoundary
  deriving DecidableEq, Repr

/-- How a repetition chooses the number of its rounds. -/
inductive Greed where
  | greedy | lazy | possessive
  deriving DecidableEq, Repr

inductive Node where
  | empty
  | seq (a b : Node)
  /-- Matches nothing; the end of a row of alternatives. -/
  | never
  | alt (a b : Node)
  | any
  | code (negated : Bool) (n : Nat)
  | set (negated : Bool) (items : List SetItem)
  | anchor (a : Anchor)
  | group (index : Option Nat) (on off : Flags) (body : Node)
  | atomic (body : Node)
  | rounds (greed : Greed) (least : Nat) (most : Option Nat) (body : Node)
  | look (behind negated : Bool) (body : Node)
  | back (group : Nat)
  | ifGroup (group : Nat) (yes no : Node)
  deriving Repr

namespace Node

/-- The sequence of some items. -/
def ofList : List Node → Node
  | [] => empty
  | [x] => x
  | x :: y :: xs => seq x (ofList (y :: xs))

/-- The items of a sequence. -/
def toList : Node → List Node
  | empty => []
  | seq a b => a :: b.toList
  | x => [x]

/-- A literal or a set. Members that are given again are dropped, and a single code point is a literal. -/
def ofSet (negated : Bool) (items : List SetItem) : Node :=
  match items.eraseDups with
  | [.code n] => code negated n
  | items => set negated items

def isAnchor : Node → Bool
  | anchor _ => true
  | _ => false

def isRounds : Node → Bool
  | rounds .. => true
  | _ => false

/-- The body of a group that does no more than hold things together, and any other node itself. -/
def bare : Node → Node
  | group none [] [] body => body
  | x => x

/-- The sequence of some items, without the parentheses that only hold things together. -/
def sequence (items : List Node) : List Node := items.flatMap fun x => x.bare.toList

/-- Whether two items are known to be the same. Items with a body never are. -/
def same : Node → Node → Bool
  | any, any => true
  | code a m, code b n => a == b && m == n
  | set a xs, set b ys => a == b && xs == ys
  | anchor a, anchor b => a == b
  | back g, back h => g == h
  | _, _ => false

/-- The items that all alternatives begin with, and what is left of the alternatives. -/
def commonStart (others : List (List Node)) : List Node → List Node × List (List Node)
  | [] => ([], [] :: others)
  | x :: rest =>
    if others.all fun ys => ys.head?.any x.same then
      let (start, left) := commonStart (others.map List.tail) rest
      (x :: start, left)
    else ([], (x :: rest) :: others)

/-- The members of an alternative that takes one character out of a set. -/
def members? : List Node → Option (List SetItem)
  | [code false n] => some [.code n]
  | [set false items] => some items
  | _ => none

/-- The items that stand for a row of alternatives. -/
def choice : List (List Node) → List Node
  | [] => []
  | [items] => items
  | first :: others =>
    let (start, left) := commonStart others first
    match left.mapM members? with
    | some sets => start ++ [set false sets.flatten.eraseDups]
    | none => start ++ [left.foldr (fun items rest => alt (ofList items) rest) never]

end Node

/-- The least and the greatest number of characters of a match. -/
structure Width where
  least : Nat
  most : Nat
  deriving DecidableEq, Repr

namespace Width

/-- Widths are not told apart from this one on. -/
def cap : Nat := 4294967295

def zero : Width := ⟨0, 0⟩

def one : Width := ⟨1, 1⟩

/-- The width within the cap; the least one stays below it. -/
def clip (w : Width) : Width := ⟨min w.least (cap - 1), min w.most cap⟩

def add (v w : Width) : Width := ⟨v.least + w.least, v.most + w.most⟩

def join (v w : Width) : Width := ⟨min v.least w.least, max v.most w.most⟩

def times (w : Width) (least : Nat) (most : Option Nat) : Width :=
  ⟨w.least * least, w.most * most.getD cap⟩

end Width

/-- The width of a node, given the widths of the groups that are closed before it. -/
def Node.width (closed : List (Option Width)) : Node → Width
  | empty => .zero
  | seq a b => ((a.width closed).add (b.width closed)).clip
  | never => ⟨Width.cap - 1, 0⟩
  | alt a b => (a.width closed).join (b.width closed)
  | any | code .. | set .. => .one
  | anchor _ => .zero
  | group _ _ _ body => body.width closed
  | atomic body => body.width closed
  | rounds _ least most body => ((body.width closed).times least most).clip
  | look .. => .zero
  | back g => ((closed[g - 1]?).join).getD .zero
  | ifGroup _ yes no => (yes.width closed).join (no.width closed)

end ArrowMachine.Pattern
