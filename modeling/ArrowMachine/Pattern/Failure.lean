import ArrowMachine.Text.Quoted

/-!
Why a text is no pattern.

A `Problem` is what is wrong and a `Failure` adds where; `Failure.message` words both. The other
failures are no fault of the syntax: a repetition count with too many digits or too large to keep, a code
point too large to keep, a look-behind that reaches too far, two global switches that exclude each
other, and groups within groups that are too many for the stack.
-/
namespace ArrowMachine.Pattern

open ArrowMachine.Text (quoted)

/-- What is wrong with a pattern. -/
inductive Problem where
  | trailingBackslash
  | badEscape (escape : String)
  | incompleteEscape (escape : String)
  | octalTooLarge (escape : String)
  | missingBrace
  | unknownCharacterName (name : String)
  | missing (what : String)
  | unterminatedName (terminator : Char)
  | badGroupName (name : String)
  | repeatedGroupName (name : String) (new old : Nat)
  | unknownGroupName (name : String)
  | unknownGroup (number : Nat)
  | badGroupNumber
  | openGroup
  | groupOfSameLookBehind
  | unterminatedSet
  | badRange (first last : String)
  | nothingToRepeat
  | multipleRepeat
  | leastAboveMost
  | unterminatedGroup
  | unterminatedComment
  | unbalancedParenthesis
  | unknownExtension (text : String)
  | unexpectedEnd
  | tooManyBranches
  | lateGlobalFlags
  | unknownFlag
  | localeFlag
  | clashingFlags
  | alphabetTurnedOff
  | globalTurnedOn
  | globalTurnedOff
  | turnedOnAndOff
  | looseLookBehind
  | templateRepeat (operator : String)
  deriving DecidableEq, Repr

def Problem.message : Problem → String
  | trailingBackslash => "bad escape (end of pattern)"
  | badEscape e => "bad escape " ++ e
  | incompleteEscape e => "incomplete escape " ++ e
  | octalTooLarge e => "octal escape value " ++ e ++ " outside of range 0-0o377"
  | missingBrace => "missing \x7b"
  | unknownCharacterName n => "undefined character name " ++ quoted n
  | missing what => "missing " ++ what
  | unterminatedName t => "missing " ++ t.toString ++ ", unterminated name"
  | badGroupName n => "bad character in group name " ++ quoted n
  | repeatedGroupName n new old =>
    "redefinition of group name " ++ quoted n ++ " as group " ++ toString new ++
      "; was group " ++ toString old
  | unknownGroupName n => "unknown group name " ++ quoted n
  | unknownGroup n => "invalid group reference " ++ toString n
  | badGroupNumber => "bad group number"
  | openGroup => "cannot refer to an open group"
  | groupOfSameLookBehind => "cannot refer to group defined in the same lookbehind subpattern"
  | unterminatedSet => "unterminated character set"
  | badRange a b => "bad character range " ++ a ++ "-" ++ b
  | nothingToRepeat => "nothing to repeat"
  | multipleRepeat => "multiple repeat"
  | leastAboveMost => "min repeat greater than max repeat"
  | unterminatedGroup => "missing ), unterminated subpattern"
  | unterminatedComment => "missing ), unterminated comment"
  | unbalancedParenthesis => "unbalanced parenthesis"
  | unknownExtension t => "unknown extension ?" ++ t
  | unexpectedEnd => "unexpected end of pattern"
  | tooManyBranches => "conditional backref with more than two branches"
  | lateGlobalFlags => "global flags not at the start of the expression"
  | unknownFlag => "unknown flag"
  | localeFlag => "bad inline flags: cannot use 'L' flag with a str pattern"
  | clashingFlags => "bad inline flags: flags 'a', 'u' and 'L' are incompatible"
  | alphabetTurnedOff => "bad inline flags: cannot turn off flags 'a', 'u' and 'L'"
  | globalTurnedOn => "bad inline flags: cannot turn on global flag"
  | globalTurnedOff => "bad inline flags: cannot turn off global flag"
  | turnedOnAndOff => "bad inline flags: flag turned on and off"
  | looseLookBehind => "look-behind requires fixed-width pattern"
  | templateRepeat op => "internal: unsupported template operator " ++ op

/-- Why a text is no pattern. -/
inductive Failure where
  /-- The syntax is wrong, at a place if there is one. -/
  | invalid (problem : Problem) (place : Option Nat)
  /-- A repetition count is too large to keep. -/
  | countTooLarge
  /-- A repetition count is written with too many digits. -/
  | countTooLong (digits : Nat)
  /-- A code point is too large to keep. -/
  | codeTooLarge
  /-- A look-behind reaches too far back. -/
  | lookTooFar
  /-- The global switches ask for two alphabets. -/
  | twoAlphabets
  /-- Reading takes more calls within each other than the stack has room for. -/
  | tooDeep
  /-- The calls that were counted out for reading are used up. No text comes to this. -/
  | outOfCalls
  deriving DecidableEq, Repr

/-- A place of the pattern, with its line and column if the pattern has several lines. -/
def placeText (pattern : List Char) (place : Nat) : String :=
  let before := pattern.take place
  let line := before.count '\n' + 1
  let column := (before.reverse.takeWhile (· ≠ '\n')).length + 1
  " at position " ++ toString place ++
    if pattern.contains '\n' then
      " (line " ++ toString line ++ ", column " ++ toString column ++ ")"
    else ""

def Failure.message (pattern : List Char) : Failure → String
  | invalid problem none => problem.message
  | invalid problem (some place) => problem.message ++ placeText pattern place
  | countTooLarge => "the repetition number is too large"
  | countTooLong digits => "the repetition number has " ++ toString digits ++ " digits"
  | codeTooLarge => "the code point is too large"
  | lookTooFar => "the look-behind reaches too far"
  | twoAlphabets => "ASCII and UNICODE flags are incompatible"
  | tooDeep => "maximum recursion depth exceeded"
  | outOfCalls => "the calls allowed to reading are used up"

end ArrowMachine.Pattern
