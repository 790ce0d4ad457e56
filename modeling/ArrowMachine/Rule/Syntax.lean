import ArrowMachine.Rule.Token

/-!
Rules as they are written: a source, then legs, each of one or more arrows and the state they lead to.

The types keep what the text has at least one of, so every rule has a leg and every leg an arrow.
-/
namespace ArrowMachine.Rule

/-- A piece of text with its place. -/
structure Word where
  text : String
  pos : Position
  deriving DecidableEq, Repr

def Token.word (t : Token) : Word := ⟨t.text, t.pos⟩

inductive Direction where
  | right | left | both
  deriving DecidableEq, Repr

/-- A state where it is mentioned, perhaps with a mark as initial or in parentheses as accepting. -/
structure StateSpelling where
  mark : Option Position
  paren : Option Position
  name : Word
  deriving DecidableEq, Repr

/-- Where a rule starts from. -/
inductive SourceSpelling where
  | state (s : StateSpelling)
  | pattern (literal : Word)
  | any (pos : Position)
  deriving DecidableEq, Repr

/-- What is written between the commas of a bracket. -/
inductive ChannelSpelling where
  | read (r : Word)
  | readWrite (r w : Word)
  | write (w : Word)
  deriving DecidableEq, Repr

/-- What is written on an arrow. -/
inductive BodySpelling where
  | plain (label : Word)
  | bracket (label : Word) (channels : List ChannelSpelling) (pushes : List Word)
  deriving DecidableEq, Repr

structure ArrowSpelling where
  direction : Direction
  body : BodySpelling
  deriving DecidableEq, Repr

/-- Arrows and the state behind them. -/
structure Leg where
  arrow : ArrowSpelling
  moreArrows : List ArrowSpelling
  target : StateSpelling
  deriving DecidableEq, Repr

/-- One rule, up to its semicolon. -/
structure Spelling where
  source : SourceSpelling
  leg : Leg
  moreLegs : List Leg
  deriving DecidableEq, Repr

def Leg.arrows (l : Leg) : List ArrowSpelling := l.arrow :: l.moreArrows

def Spelling.legs (s : Spelling) : List Leg := s.leg :: s.moreLegs

def BodySpelling.label : BodySpelling → Word
  | plain l => l
  | bracket l _ _ => l

/-- Where the text of a state begins. -/
def StateSpelling.start (s : StateSpelling) : Position :=
  (s.mark.or s.paren).getD s.name.pos

/-- Where the text of a rule begins. -/
def Spelling.start (s : Spelling) : Position :=
  match s.source with
  | .state s => s.start
  | .pattern l => l.pos
  | .any p => p

end ArrowMachine.Rule
