import ArrowMachine.Rule.Cursor
import ArrowMachine.Rule.Syntax

/-!
Reading rules.

Each function reads one part of a rule by recursive descent and asks the cursor for exactly those kinds
of token that may stand next. `spellings` reads a whole text; it fails at the first place where no
expected token stands.
-/
namespace ArrowMachine.Rule

/-- Reads the name of a state, perhaps in parentheses. -/
def readNamed (mark : Option Position) (c : Cursor) :
    Except SyntaxFault (Read StateSpelling c.rest.length) := do
  let t ← c.take [.name, .lpar]
  if t.value.kind = .lpar then
    let n ← t.after.take [.name]
    let r ← n.after.take [.rpar]
    return ⟨⟨mark, some t.value.pos, n.value.word⟩, r.after,
      Nat.lt_trans r.shorter (Nat.lt_trans n.shorter t.shorter)⟩
  else return ⟨⟨mark, none, t.value.word⟩, t.after, t.shorter⟩

/-- Reads on from the first token of a state. -/
def readStateFrom (t : Token) (c : Cursor) :
    Except SyntaxFault (Read StateSpelling (c.rest.length + 1)) := do
  if t.kind = .mark then
    let s ← readNamed (some t.pos) c
    return s.widen (Nat.le_succ _)
  else if t.kind = .lpar then
    let n ← c.take [.name]
    let r ← n.after.take [.rpar]
    return ⟨⟨none, some t.pos, n.value.word⟩, r.after,
      Nat.lt_succ_of_lt (Nat.lt_trans r.shorter n.shorter)⟩
  else return ⟨⟨none, none, t.word⟩, c, Nat.lt_succ_self _⟩

/-- The tokens that may close an arrow: any arrow may lead right, and one that comes from the left may
also end there. -/
def closers (opener : Terminal) : List Terminal :=
  if opener = .minus then [.more] else [.more, .minus]

def Direction.ofEnds (opener closer : Terminal) : Direction :=
  if opener = .minus then .right else if closer = .minus then .left else .both

/-- Reads the channels of a bracket behind its label or behind a channel, up to the closing bracket.
`separator` is the token that has just been read. -/
def readChannels (separator : Terminal) (c : Cursor) (done : List ChannelSpelling) :
    Except SyntaxFault (Read (List ChannelSpelling) (c.rest.length + 1)) := do
  if separator = .comma then
    let t ← c.take [.symbol, .colon]
    if t.value.kind = .colon then
      let w ← t.after.take [.symbol]
      let s ← w.after.take [.comma, .rsqb]
      let r ← readChannels s.value.kind s.after (done ++ [.write w.value.word])
      have := s.shorter; have := w.shorter; have := t.shorter
      return r.widen (by omega)
    else
      let s ← t.after.take [.colon, .comma, .rsqb]
      if s.value.kind = .colon then
        let w ← s.after.take [.symbol]
        let s' ← w.after.take [.comma, .rsqb]
        let r ← readChannels s'.value.kind s'.after
          (done ++ [.readWrite t.value.word w.value.word])
        have := s'.shorter; have := s.shorter; have := w.shorter; have := t.shorter
        return r.widen (by omega)
      else
        let r ← readChannels s.value.kind s.after (done ++ [.read t.value.word])
        have := s.shorter; have := t.shorter
        return r.widen (by omega)
  else return ⟨done, c, Nat.lt_succ_self _⟩
termination_by c.rest.length
decreasing_by
  · have := s.shorter; have := w.shorter; have := t.shorter; omega
  · have := s'.shorter; have := s.shorter; have := w.shorter; have := t.shorter; omega
  · have := s.shorter; have := t.shorter; omega

/-- Reads the rest of a push list behind one of its symbols, and the token that closes the arrow. -/
def readPushes (opener : Terminal) (c : Cursor) (done : List Word) :
    Except SyntaxFault (Read (List Word × Terminal) c.rest.length) := do
  let t ← c.take (.comma :: closers opener)
  if t.value.kind = .comma then
    let w ← t.after.take [.symbol]
    let r ← readPushes opener w.after (done ++ [w.value.word])
    have := w.shorter; have := t.shorter
    return r.widen (by omega)
  else return ⟨(done, t.value.kind), t.after, t.shorter⟩
termination_by c.rest.length
decreasing_by have := w.shorter; have := t.shorter; omega

/-- Reads an arrow behind the token that opens it. -/
def readArrow (opener : Terminal) (c : Cursor) :
    Except SyntaxFault (Read ArrowSpelling c.rest.length) := do
  let t ← c.take [.symbol, .lsqb]
  if t.value.kind = .lsqb then
    let l ← t.after.take [.symbol]
    let s ← l.after.take [.comma, .rsqb]
    let chans ← readChannels s.value.kind s.after []
    let p ← chans.after.take (.symbol :: closers opener)
    have := p.shorter; have := chans.shorter; have := s.shorter; have := l.shorter
    have := t.shorter
    if p.value.kind = .symbol then
      let r ← readPushes opener p.after [p.value.word]
      have := r.shorter
      return ⟨⟨.ofEnds opener r.value.2, .bracket l.value.word chans.value r.value.1⟩, r.after,
        by omega⟩
    else
      return ⟨⟨.ofEnds opener p.value.kind, .bracket l.value.word chans.value []⟩, p.after,
        by omega⟩
  else
    let e ← t.after.take (closers opener)
    return ⟨⟨.ofEnds opener e.value.kind, .plain t.value.word⟩, e.after,
      Nat.lt_trans e.shorter t.shorter⟩

/-- The tokens that may open an arrow. -/
def openers : List Terminal := [.minus, .less]

/-- The tokens that a state may begin with. -/
def stateStarts : List Terminal := [.name, .lpar, .mark]

/-- Reads the arrows behind the first one of a leg, and the state they lead to. -/
def readArrows (c : Cursor) (done : List ArrowSpelling) :
    Except SyntaxFault (Read (List ArrowSpelling × StateSpelling) c.rest.length) := do
  let t ← c.take (openers ++ stateStarts)
  if t.value.kind ∈ openers then
    let a ← readArrow t.value.kind t.after
    let r ← readArrows a.after (done ++ [a.value])
    have := a.shorter; have := t.shorter
    return r.widen (by omega)
  else
    let s ← readStateFrom t.value t.after
    have := s.shorter; have := t.shorter
    return ⟨(done, s.value), s.after, by omega⟩
termination_by c.rest.length
decreasing_by have := a.shorter; have := t.shorter; omega

/-- Reads a leg behind the token that opens its first arrow. -/
def readLeg (opener : Terminal) (c : Cursor) : Except SyntaxFault (Read Leg c.rest.length) := do
  let a ← readArrow opener c
  let r ← readArrows a.after []
  return ⟨⟨a.value, r.value.1, r.value.2⟩, r.after, Nat.lt_trans r.shorter a.shorter⟩

/-- Reads the legs behind the first one, up to the semicolon. -/
def readLegs (c : Cursor) (done : List Leg) :
    Except SyntaxFault (Read (List Leg) c.rest.length) := do
  let t ← c.take (openers ++ [.semicolon])
  if t.value.kind = .semicolon then return ⟨done, t.after, t.shorter⟩
  else
    let l ← readLeg t.value.kind t.after
    let r ← readLegs l.after (done ++ [l.value])
    have := l.shorter; have := t.shorter
    return r.widen (by omega)
termination_by c.rest.length
decreasing_by have := l.shorter; have := t.shorter; omega

def readSource (c : Cursor) : Except SyntaxFault (Read SourceSpelling c.rest.length) := do
  let t ← c.take (stateStarts ++ [.regex, .star])
  if t.value.kind = .regex then return ⟨.pattern t.value.word, t.after, t.shorter⟩
  else if t.value.kind = .star then return ⟨.any t.value.pos, t.after, t.shorter⟩
  else
    let s ← readStateFrom t.value t.after
    have := s.shorter; have := t.shorter
    return ⟨.state s.value, s.after, by omega⟩

/-- Reads one rule. -/
def readSpelling (c : Cursor) : Except SyntaxFault (Read Spelling c.rest.length) := do
  let s ← readSource c
  let t ← s.after.take openers
  let l ← readLeg t.value.kind t.after
  let r ← readLegs l.after []
  have := s.shorter; have := t.shorter; have := l.shorter; have := r.shorter
  return ⟨⟨s.value, l.value, r.value⟩, r.after, by omega⟩

/-- Reads rules up to the end of the text. -/
def readSpellings (c : Cursor) : Except SyntaxFault (List Spelling) := do
  if c.atEnd then return []
  else
    let r ← readSpelling c
    return r.value :: (← readSpellings r.after)
termination_by c.rest.length
decreasing_by exact r.shorter

/-- The rules of a text. -/
def spellings (source : String) : Except SyntaxFault (List Spelling) :=
  readSpellings (.ofText source.toList)

end ArrowMachine.Rule
