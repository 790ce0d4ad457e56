import ArrowMachine.Capacity
import ArrowMachine.Pattern.Matcher
import ArrowMachine.Pattern.Parser

/-!
State patterns: a text, what it comes to for matching, and the search for a match anywhere in a name.

A search tries only the places that leave room for the least width of the pattern, and where a match may
begin with one set of characters, only the places that have one of them.
-/
namespace ArrowMachine

/-- A pattern with the text it was written as. -/
structure Pattern where
  text : String
  code : Pattern.Code
  lead : Pattern.Lead
  /-- The least number of characters of a match. -/
  least : Nat

namespace Pattern

/-- Prepares a pattern that was read from `text`. -/
def ofReading (text : String) (r : Reading) : Pattern where
  text := text
  code := r.root.toCode r.groups r.flags none
  lead := r.root.lead (r.flags.contains .ascii) r.flags
  least := (r.root.width r.groups).least

/-- Reads a pattern, if the stack has room for that. -/
def ofText (cap : Capacity) (s : String) : Except Failure Pattern :=
  if cap.overflows s then .error .tooDeep else (Reading.ofText s.toList).map (ofReading s)

/-- The places where a match may begin. -/
def starts (p : Pattern) (text : Array Char) : List Nat :=
  if text.size < p.least then []
  else match p.lead with
    | .literal | .literals => List.range (text.size + 1)
    | .among t => (List.range text.size).filter (t.holdsAt text)
    | .nothing | .free => List.range (text.size - (p.least - 1) + 1)

/-- The store of a match from place `i` on. -/
def matchAt? (p : Pattern) (text : Array Char) (i : Nat) : Option Store :=
  let met := p.code.run text false i { cursor := i } done
  if met.ok then some met.store else none

/-- The store of the first match in a name. -/
def search (p : Pattern) (name : String) : Option Store :=
  let text := name.toList.toArray
  (p.starts text).findSome? (p.matchAt? text)

/-- Whether the first match in a name leaves a group that ends before it begins. -/
def crosses (p : Pattern) (name : String) : Bool := (p.search name).any Store.isCrossed

/-- Whether the pattern matches somewhere in a name. -/
def found (p : Pattern) (name : String) : Bool := (p.search name).isSome

end Pattern

end ArrowMachine
