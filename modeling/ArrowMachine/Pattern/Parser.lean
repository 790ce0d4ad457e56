import ArrowMachine.Pattern.Reader
import ArrowMachine.Text.Identifier
import ArrowMachine.Text.Integer
import ArrowMachine.Text.Name

/-!
From the text of a pattern to its syntax tree.

The grammar is read by recursive descent; every call hands on a smaller number of calls that it still
allows, and `Node.parse` starts with more than any pattern of that length needs.
-/
namespace ArrowMachine.Pattern

open ArrowMachine.Text (isIdentifier isLetter integer? maxDigits)

def isHexDigit (c : Char) : Bool := c.isDigit || ('a' ≤ c && c ≤ 'f') || ('A' ≤ c && c ≤ 'F')

def isOctalDigit (c : Char) : Bool := '0' ≤ c && c ≤ '7'

def isAsciiLetter (c : Char) : Bool := c.isAlpha

def hexValue (c : Char) : Nat :=
  if c.isDigit then c.toNat - 48 else if 'a' ≤ c then c.toNat - 87 else c.toNat - 55

/-- The number that digits write to the given base. -/
def numberOf (base : Nat) (ds : List Char) : Nat := ds.foldl (fun n d => base * n + hexValue d) 0

/-- The least repetition count that is refused. -/
def tooManyRounds : Nat := 4294967295

/-- The least code point that is refused whatever stands around it. -/
def tooLargeCode : Nat := 0x80000000

/-- The least group number that no condition may ask for. -/
def tooManyGroups : Nat := 1073741823

namespace Parse

/-! ## Escapes -/

/-- The characters that have letters of their own behind a backslash. -/
def letterCode? : Char → Option Nat
  | 'a' => some 7
  | 'f' => some 12
  | 'n' => some 10
  | 'r' => some 13
  | 't' => some 9
  | 'v' => some 11
  | '\\' => some 92
  | _ => none

def category? : Char → Option SetItem
  | 'd' => some (.category .digit false)
  | 'D' => some (.category .digit true)
  | 's' => some (.category .space false)
  | 'S' => some (.category .space true)
  | 'w' => some (.category .word false)
  | 'W' => some (.category .word true)
  | _ => none

def anchor? : Char → Option Anchor
  | 'A' => some .textStart
  | 'Z' => some .textEnd
  | 'b' => some .boundary
  | 'B' => some .noBoundary
  | _ => none

/-- A code point in exactly `count` hexadecimal digits, behind a backslash and `letter`. -/
def hexEscape (letter : Char) (count : Nat) : Parse Nat := do
  let ds ← takeWhile isHexDigit count
  let escape := '\\' :: letter :: ds
  if ds.length ≠ count then fail (.incompleteEscape (String.ofList escape)) escape.length
  let n := numberOf 16 ds
  if tooLargeCode ≤ n then throw .codeTooLarge
  if 0x10ffff < n then fail (.badEscape (String.ofList escape)) escape.length
  return n

/-- A code point by its name in braces. -/
def nameEscape : Parse Nat := do
  if !(← accept '\x7b') then fail .missingBrace 0
  let cs ← name '\x7d' "character name"
  match Text.Name.code? cs with
  | some n => return n
  | none => fail (.unknownCharacterName (String.ofList cs)) (cs.length + 4)

/-- A code point in octal digits. -/
def octal (ds : List Char) : Parse Nat := do
  let n := numberOf 8 ds
  if 0o377 < n then fail (.octalTooLarge (String.ofList ('\\' :: ds))) (ds.length + 1)
  return n

/-- The code point of an escape that means the same inside and outside of a set, if `c` begins one. -/
def codeEscape (c : Char) : Parse (Option Nat) := do
  match letterCode? c with
  | some n => return some n
  | none =>
    if c = 'x' then return some (← hexEscape c 2)
    else if c = 'u' then return some (← hexEscape c 4)
    else if c = 'U' then return some (← hexEscape c 8)
    else if c = 'N' then return some (← nameEscape)
    else return none

/-- What stands for itself behind a backslash: anything but letters. -/
def plainEscape (c : Char) : Parse Nat := do
  if isAsciiLetter c then fail (.badEscape (String.ofList ['\\', c])) 2
  return c.toNat

/-- An escape inside a set. -/
def setEscape (c : Char) : Parse SetItem := do
  if c = 'b' then return .code 8
  match category? c with
  | some item => return item
  | none =>
    match ← codeEscape c with
    | some n => return .code n
    | none =>
      if isOctalDigit c then return .code (← octal (c :: (← takeWhile isOctalDigit 2)))
      else if c.isDigit then fail (.badEscape (String.ofList ['\\', c])) 2
      else return .code (← plainEscape c)

/-- A reference to a group by its number, written in `digits`. -/
def backReference (digits : List Char) : Parse Node := do
  let number := numberOf 10 digits
  if (← groupCount) ≤ number then fail (.unknownGroup number) digits.length
  if !(← isClosed number) then fail .openGroup (digits.length + 1)
  checkBehind number
  return .back number

/-- An escape that begins with a digit other than zero: a code point in three octal digits, or else a
reference to a group. -/
def digitEscape (c : Char) : Parse Node := do
  match ← takeWhile Char.isDigit 1 with
  | [] => backReference [c]
  | ds =>
    if isOctalDigit c && ds.all isOctalDigit then
      match ← takeWhile isOctalDigit 1 with
      | [] => backReference (c :: ds)
      | es => return .code false (← octal (c :: (ds ++ es)))
    else backReference (c :: ds)

/-- An escape outside of a set. -/
def nodeEscape (c : Char) : Parse Node := do
  match category? c, anchor? c with
  | some item, _ => return .set false [item]
  | none, some a => return .anchor a
  | none, none =>
    match ← codeEscape c with
    | some n => return .code false n
    | none =>
      if c = '0' then return .code false (← octal (c :: (← takeWhile isOctalDigit 2)))
      else if c.isDigit then digitEscape c
      else return .code false (← plainEscape c)

/-! ## Sets -/

/-- One end of a range, or a single member. -/
def setMember (p : Piece) : Parse SetItem :=
  match p with
  | [c] => return .code c.toNat
  | [_, c] => setEscape c
  | _ => fail .unterminatedSet 0

/-- The members of a set that begins at `start`, up to its closing bracket. -/
def setItems (start : Nat) : (calls : Nat) → (items : List SetItem) → Parse (List SetItem)
  | 0, _ => throw .outOfCalls
  | n + 1, items => do
    match ← take with
    | none => failAt .unterminatedSet start
    | some p =>
      if p = [']'] && !items.isEmpty then return items
      let first ← setMember p
      if !(← accept '-') then setItems start n (items ++ [first])
      else
        match ← take with
        | none => failAt .unterminatedSet start
        | some q =>
          if q = [']'] then return items ++ [first, .code '-'.toNat]
          let last ← setMember q
          let bad : Problem := .badRange (String.ofList p) (String.ofList q)
          match first, last with
          | .code a, .code b =>
            if b < a then fail bad (p.length + 1 + q.length)
            setItems start n (items ++ [.range a b])
          | _, _ => fail bad (p.length + 1 + q.length)

/-- The set whose opening bracket has just been taken. -/
def set : Parse Node := do
  let start := (← place) - 1
  let negated ← accept '^'
  return .ofSet negated (← setItems start (← left) [])

/-! ## Repetition -/

/-- A number of rounds written in `digits`; no digits stand for zero. -/
def roundCount (digits : List Char) : Parse Nat := do
  if maxDigits < digits.length then throw (.countTooLong digits.length)
  let n := numberOf 10 digits
  if tooManyRounds ≤ n then throw .countTooLarge
  return n

/-- The bounds written in braces, or nothing if the braces are no repetition. -/
def braces : Parse (Option (Nat × Option Nat)) := do
  let opened ← reader
  if (← peek) = some ['\x7d'] then return none
  let lo ← takeWhile Char.isDigit (← left)
  let comma ← accept ','
  let hi ← if comma then takeWhile Char.isDigit (← left) else pure lo
  if !(← accept '\x7d') then
    setReader opened
    return none
  let least ← roundCount lo
  if hi.isEmpty then return some (least, none)
  let most ← roundCount hi
  if most < least then failAt .leastAboveMost opened.place
  return some (least, some most)

/-- The bounds that a quantifier asks for, or nothing if it stands for itself. -/
def bounds (quantifier : Char) : Parse (Option (Nat × Option Nat)) :=
  match quantifier with
  | '?' => return some (0, some 1)
  | '*' => return some (0, none)
  | '+' => return some (1, none)
  | _ => braces

def greed : Parse Greed := do
  if ← accept '?' then return .lazy
  if ← accept '+' then return .possessive
  return .greedy

/-- The items with the last of them repeated. `start` is the place of the quantifier. -/
def repeatLast (start : Nat) (least : Nat) (most : Option Nat) (items : List Node) :
    Parse (List Node) := do
  match items.getLast? with
  | none => failAt .nothingToRepeat start
  | some item =>
    if item.isAnchor then failAt .nothingToRepeat start
    if item.isRounds then failAt .multipleRepeat start
    return items.dropLast ++ [.rounds (← greed) least most item.bare]

/-! ## Switches -/

def flagOf? : Piece → Option Flag
  | [c] => Flag.ofLetter? c
  | _ => none

/-- Fails at a piece that is no switch: at a letter as an unknown switch. -/
def failFlag {α : Type} (p : Piece) (otherwise : Problem) : Parse α :=
  match p with
  | [c] => fail (if isLetter c then .unknownFlag else otherwise) 1
  | _ => fail otherwise p.length

/-- The switches to turn on, and the character that ends them. -/
def flagsOn : (calls : Nat) → Flag → Flags → Parse (Flags × Char)
  | 0, _, _ => throw .outOfCalls
  | n + 1, flag, on => do
    if flag = .locale then fail .localeFlag 0
    let on := on ++ [flag]
    if flag.isAlphabet && on.any (fun f => f.isAlphabet && f ≠ flag) then fail .clashingFlags 0
    match ← take with
    | none => fail (.missing "-, : or )") 0
    | some p =>
      if p = [')'] then return (on, ')')
      else if p = ['-'] then return (on, '-')
      else if p = [':'] then return (on, ':')
      else match flagOf? p with
        | some f => flagsOn n f on
        | none => failFlag p (.missing "-, : or )")

/-- The switches to turn off, up to the colon. -/
def flagsOff : (calls : Nat) → Flag → Flags → Parse Flags
  | 0, _, _ => throw .outOfCalls
  | n + 1, flag, off => do
    if flag.isAlphabet then fail .alphabetTurnedOff 0
    let off := off ++ [flag]
    match ← take with
    | none => fail (.missing ":") 0
    | some p =>
      if p = [':'] then return off
      else match flagOf? p with
        | some f => flagsOff n f off
        | none => failFlag p (.missing ":")

def firstFlagOff : Parse Flags := do
  match ← take with
  | none => fail (.missing "flag") 0
  | some p =>
    match flagOf? p with
    | some f => flagsOff (← left) f []
    | none => failFlag p (.missing "flag")

/-- The switches to turn on, from the `first` of them on, and the character that ends them. -/
def leadingFlags : (first : Option Flag) → Parse (Flags × Char)
  | some f => do flagsOn (← left) f []
  | none => return ([], '-')

/-- The switches of a group, or nothing if they are meant for the whole pattern. -/
def switches (first : Option Flag) : Parse (Option (Flags × Flags)) := do
  let (on, stop) ← leadingFlags first
  if stop = ')' then
    modify fun s => { s with flags := s.flags ++ on }
    return none
  if on.contains .template then fail .globalTurnedOn 1
  let off ← if stop = '-' then firstFlagOff else pure []
  if off.contains .template then fail .globalTurnedOff 1
  if on.any off.contains then fail .turnedOnAndOff 1
  return some (on, off)

/-! ## Groups -/

/-- The name of a group that has to exist. -/
def knownGroup (cs : List Char) : Parse Nat := do
  match (← get).names.lookup (String.ofList cs) with
  | some number => return number
  | none => fail (.unknownGroupName (String.ofList cs)) (cs.length + 1)

def groupName (terminator : Char) : Parse (List Char) := do
  let cs ← name terminator "group name"
  if !isIdentifier cs then fail (.badGroupName (String.ofList cs)) (cs.length + 1)
  return cs

def namedReference : Parse Node := do
  let cs ← groupName ')'
  let number ← knownGroup cs
  if !(← isClosed number) then fail .openGroup (cs.length + 1)
  checkBehind number
  return .back number

/-- The group that a condition asks for by a name, or by a number that is noted. -/
def groupOf (cs : List Char) : Parse Nat := do
  if isIdentifier cs then knownGroup cs
  else match integer? (String.ofList cs) with
    | none => fail (.badGroupName (String.ofList cs)) (cs.length + 1)
    | some i =>
      if i < 0 then fail (.badGroupName (String.ofList cs)) (cs.length + 1)
      let number := i.toNat
      if number = 0 then fail .badGroupNumber (cs.length + 1)
      if tooManyGroups ≤ number then fail (.unknownGroup number) (cs.length + 1)
      let asked := (← place) - cs.length - 1
      modify fun s =>
        if (s.asked.lookup number).isSome then s else { s with asked := s.asked ++ [(number, asked)] }
      return number

/-- The group that a condition asks for. -/
def askedGroup : Parse Nat := do
  let cs ← name ')' "group name"
  let number ← groupOf cs
  checkBehind number
  return number

/-- Drops a comment that began at `start`. -/
def comment (start : Nat) : (calls : Nat) → Parse Unit
  | 0 => throw .outOfCalls
  | n + 1 => do
    match ← take with
    | none => failAt .unterminatedComment start
    | some p => if p = [')'] then return else comment start n

/-- Drops a comment to the end of its line. -/
def lineComment : (calls : Nat) → Parse Unit
  | 0 => return
  | n + 1 => do
    match ← take with
    | none => return
    | some p => if p = ['\n'] then return else lineComment n

/-- Takes the closing parenthesis of the group that began at `start`. -/
def close (start : Nat) : Parse Unit := do
  if !(← accept ')') then failAt .unterminatedGroup start

/-- Notes how many groups have been opened before a look-behind that is in no other, and gives what had been
noted before. -/
def enterLook (behind : Bool) : Parse (Option Nat) := do
  let s ← get
  if behind && s.behind.isNone then
    let count ← groupCount
    modify fun s => { s with behind := some count }
  return s.behind

/-- Notes again what had been noted before a look-behind. -/
def leaveLook (behind : Bool) (outer : Option Nat) : Parse Unit :=
  if behind then modify fun s => { s with behind := outer } else return

def isVerboseBlank (p : Piece) : Bool :=
  p = [' '] || p = ['\t'] || p = ['\n'] || p = ['\r'] || p = ['\x0b'] || p = ['\x0c']

/-- How a group begins. -/
inductive Opening where
  | capture (name : Option (List Char))
  | plain (on off : Flags)
  | atomic
  | look (behind negated : Bool)
  | condition (group : Nat)
  | whole (node : Node)
  | nothing
  | global

/-- What follows a question mark and a `P`. -/
def namedOpening : Parse Opening := do
  if ← accept '<' then return .capture (some (← groupName '>'))
  if ← accept '=' then return .whole (← namedReference)
  match ← take with
  | none => fail .unexpectedEnd 0
  | some p => fail (.unknownExtension ("P" ++ String.ofList p)) (p.length + 2)

/-- What follows a question mark and a `<`. -/
def behindOpening : Parse Opening := do
  match ← take with
  | none => fail .unexpectedEnd 0
  | some p =>
    if p = ['='] then return .look true false
    else if p = ['!'] then return .look true true
    else fail (.unknownExtension ("<" ++ String.ofList p)) (p.length + 2)

/-- What follows a question mark behind the parenthesis at `start`. -/
def opening (start : Nat) : Parse Opening := do
  match ← take with
  | none => fail .unexpectedEnd 0
  | some p =>
    if p = ['P'] then namedOpening
    else if p = [':'] then return .plain [] []
    else if p = ['#'] then
      comment start (← left)
      return .nothing
    else if p = ['='] then return .look false false
    else if p = ['!'] then return .look false true
    else if p = ['<'] then behindOpening
    else if p = ['('] then return .condition (← askedGroup)
    else if p = ['>'] then return .atomic
    else if p = ['-'] || (flagOf? p).isSome then
      match ← switches (flagOf? p) with
      | none => return .global
      | some (on, off) => return .plain on off
    else fail (.unknownExtension (String.ofList p)) (p.length + 1)

/-! ## The grammar -/

/-- The items with the last of them repeated as `quantifier` asks for, unless it stands for itself. -/
def quantify (items : List Node) (quantifier : Char) : Parse (List Node) := do
  let start := (← place) - 1
  match ← bounds quantifier with
  | none => return items ++ [.code false quantifier.toNat]
  | some (least, most) => repeatLast start least most items

/-- The items with what the piece `p` adds to them, or nothing if a group begins with it. -/
def extend (verbose : Bool) (items : List Node) (p : Piece) : Parse (Option (List Node)) := do
  if verbose && isVerboseBlank p then return some items
  else if verbose && p = ['#'] then
    lineComment (← left)
    return some items
  else match p with
    | [_, c] => return some (items ++ [← nodeEscape c])
    | [c] =>
      if c = '[' then return some (items ++ [← set])
      else if c = '.' then return some (items ++ [.any])
      else if c = '^' then return some (items ++ [.anchor .lineStart])
      else if c = '$' then return some (items ++ [.anchor .lineEnd])
      else if c = '(' then return none
      else if c = '*' || c = '+' || c = '?' || c = '\x7b' then return some (← quantify items c)
      else return some (items ++ [.code false c.toNat])
    | _ => return some items

mutual

/-- Alternatives between bars. `top` is set outside of all groups. -/
def alternatives (calls : Nat) (verbose top : Bool) : Parse Node := do
  match calls with
  | 0 => throw .outOfCalls
  | n + 1 =>
    let first ← sequence n verbose top []
    return .ofList (Node.choice (first :: (← moreAlternatives n verbose top)))

/-- The alternatives behind the first one. -/
def moreAlternatives (calls : Nat) (verbose top : Bool) : Parse (List (List Node)) := do
  match calls with
  | 0 => throw .outOfCalls
  | n + 1 =>
    if !(← accept '|') then return []
    let verbose ← if top then pure ((← get).flags.contains .verbose) else pure verbose
    let next ← sequence n verbose false []
    return next :: (← moreAlternatives n verbose top)

/-- The items up to the next bar or closing parenthesis. Global switches may stand at the `start` of
the pattern. -/
def sequence (calls : Nat) (verbose start : Bool) (items : List Node) : Parse (List Node) := do
  match calls with
  | 0 => throw .outOfCalls
  | n + 1 =>
    match ← peek with
    | none => return Node.sequence items
    | some p =>
      if p = ['|'] || p = [')'] then return Node.sequence items
      let _ ← take
      match ← extend verbose items p with
      | some items => sequence n verbose start items
      | none => group n verbose start items

/-- The group whose parenthesis has just been taken, and what follows it. -/
def group (calls : Nat) (verbose start : Bool) (items : List Node) : Parse (List Node) := do
  match calls with
  | 0 => throw .outOfCalls
  | n + 1 =>
    let paren := (← place) - 1
    let kind ← if ← accept '?' then opening paren else pure (.capture none)
    match kind with
    | .nothing => sequence n verbose start items
    | .whole node => sequence n verbose start (items ++ [node])
    | .global =>
      if !start || !items.isEmpty then failAt .lateGlobalFlags paren
      sequence n ((← get).flags.contains .verbose) start items
    | .capture name =>
      let number ← openGroup name
      let body ← alternatives n verbose false
      close paren
      closeGroup number body
      sequence n verbose start (items ++ [.group (some number) [] [] body])
    | .plain on off =>
      let inner := (verbose || on.contains .verbose) && !off.contains .verbose
      let body ← alternatives n inner false
      close paren
      sequence n verbose start (items ++ [.group none on off body])
    | .atomic =>
      let body ← alternatives n verbose false
      close paren
      sequence n verbose start (items ++ [.atomic body])
    | .look behind negated =>
      let outer ← enterLook behind
      let body ← alternatives n verbose false
      leaveLook behind outer
      close paren
      sequence n verbose start (items ++ [.look behind negated body])
    | .condition number =>
      let yes ← sequence n verbose false []
      let no ←
        if ← accept '|' then
          let no ← sequence n verbose false []
          if (← peek) = some ['|'] then fail .tooManyBranches 0
          pure no
        else pure []
      close paren
      sequence n verbose start (items ++ [.ifGroup number (.ofList yes) (.ofList no)])

end

end Parse

/-! ## Checks on the whole tree -/

/-- The name under which a repetition in a template is refused. -/
def Greed.operatorName : Greed → String
  | .greedy => "MAX_REPEAT"
  | .lazy => "MIN_REPEAT"
  | .possessive => "POSSESSIVE_REPEAT"

/-- The first thing in a tree that cannot be matched with: a look-behind of no fixed width, or a
repetition in a template. -/
def Node.problem? (closed : List (Option Width)) (template : Bool) : Node → Option Problem
  | .seq a b | .alt a b => (a.problem? closed template).or (b.problem? closed template)
  | .group _ _ _ body | .atomic body => body.problem? closed template
  | .rounds greed _ _ body =>
    if template then some (.templateRepeat greed.operatorName) else body.problem? closed template
  | .look behind _ body =>
    let w := body.width closed
    if behind && w.least ≠ w.most then some .looseLookBehind else body.problem? closed template
  | .ifGroup _ yes no => (yes.problem? closed template).or (no.problem? closed template)
  | .empty | .never | .any | .code .. | .set .. | .anchor _ | .back _ => none

/-- The least distance that is too far for a look-behind. -/
def tooFarBehind : Nat := 0x80000000

/-- Whether some look-behind of a tree reaches too far. -/
def Node.looksTooFar (closed : List (Option Width)) : Node → Bool
  | .seq a b | .alt a b => a.looksTooFar closed || b.looksTooFar closed
  | .group _ _ _ body | .atomic body | .rounds _ _ _ body => body.looksTooFar closed
  | .look behind _ body =>
    (behind && tooFarBehind ≤ (body.width closed).least) || body.looksTooFar closed
  | .ifGroup _ yes no => yes.looksTooFar closed || no.looksTooFar closed
  | .empty | .never | .any | .code .. | .set .. | .anchor _ | .back _ => false

/-- A pattern as read: its tree, its global switches and its groups. -/
structure Reading where
  root : Node
  flags : Flags
  groups : List (Option Width)

/-- Reads a pattern. -/
def Reading.ofText (cs : List Char) : Except Failure Reading := do
  let reader ← Reader.onto 0 cs
  let (root, s) ← (Parse.alternatives (4 * cs.length + 8) false true).run { reader }
  if s.flags.contains .ascii && s.flags.contains .unicode then throw .twoAlphabets
  if s.reader.next.isSome then throw (.invalid .unbalancedParenthesis (some s.reader.place))
  match s.asked.find? fun a => s.groups.length < a.1 with
  | some (number, place) => throw (.invalid (.unknownGroup number) (some place))
  | none =>
    match root.problem? s.groups (s.flags.contains .template) with
    | some problem => throw (.invalid problem none)
    | none =>
      if root.looksTooFar s.groups then throw .lookTooFar
      return ⟨root, s.flags, s.groups⟩

end ArrowMachine.Pattern
