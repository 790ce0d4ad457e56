/-!
Names that a script can declare.
-/
namespace ArrowMachine.Script

/-- Whether a character may stand in a name, at its start or behind that. -/
def isNameChar (start : Bool) (c : Char) : Bool := c.isAlpha || c = '_' || (!start && c.isDigit)

/-- A name with every character that may not stand where it does turned into an underscore. -/
def sanitizeChars : (start : Bool) → List Char → List Char
  | _, [] => []
  | start, c :: cs => (if isNameChar start c then c else '_') :: sanitizeChars false cs

def sanitize (name : String) : String := String.ofList (sanitizeChars true name.toList)

end ArrowMachine.Script
