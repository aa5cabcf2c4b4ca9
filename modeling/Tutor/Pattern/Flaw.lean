import Tutor.Text.Quoted
import Tutor.Text.Whole

namespace Tutor.Pattern

/-!
# Flaws of patterns

* `Flaw` lists what can be wrong with a pattern, `Flaw.text` words it;
* `Fault` is a flaw at a place, `Fault.message` adds the position and, in a pattern of several
  lines, the line and the column;
* `Stop` adds the numbers that no pattern can hold.
-/

/-- What is wrong with a pattern. -/
inductive Flaw
  | danglingEscape
  | badEscape (written : String)
  | incompleteEscape (written : String)
  | octalTooLarge (written : String)
  | unknownCharacter (name : String)
  /-- Something that had to follow is not there. -/
  | missing (what : String)
  | endOfPattern
  | openGroup
  | noGroup (number : Nat)
  | groupOfLookBehind
  | badGroupNumber
  | badGroupName (name : String)
  | unknownGroup (name : String)
  | renamedGroup (name : String) (number former : Nat)
  | threeBranches
  | openSet
  | badRange (low high : String)
  | nothingToRepeat
  | multipleRepeat
  | reversedBounds
  | unknownExtension (written : String)
  | lateFlags
  | localeFlag
  | mixedFlags
  | unknownFlag
  | textFlagOff
  | globalFlagOn
  | globalFlagOff
  | flagOnAndOff
  | unbalanced
  | lookBehindVaries
  | lookBehindTooFar
  /-- Repetition in a pattern with the template flag. -/
  | templateLoop (kind : String)
  deriving DecidableEq, Repr

/-- The wording of a flaw. -/
def Flaw.text : Flaw → String
  | .danglingEscape => "bad escape (end of pattern)"
  | .badEscape w => "bad escape " ++ w
  | .incompleteEscape w => "incomplete escape " ++ w
  | .octalTooLarge w => s!"octal escape value {w} outside of range 0-0o377"
  | .unknownCharacter name => "undefined character name " ++ Text.quoted name
  | .missing what => "missing " ++ what
  | .endOfPattern => "unexpected end of pattern"
  | .openGroup => "cannot refer to an open group"
  | .noGroup n => s!"invalid group reference {n}"
  | .groupOfLookBehind => "cannot refer to group defined in the same lookbehind subpattern"
  | .badGroupNumber => "bad group number"
  | .badGroupName name => "bad character in group name " ++ Text.quoted name
  | .unknownGroup name => "unknown group name " ++ Text.quoted name
  | .renamedGroup name n m =>
    s!"redefinition of group name {Text.quoted name} as group {n}; was group {m}"
  | .threeBranches => "conditional backref with more than two branches"
  | .openSet => "unterminated character set"
  | .badRange low high => s!"bad character range {low}-{high}"
  | .nothingToRepeat => "nothing to repeat"
  | .multipleRepeat => "multiple repeat"
  | .reversedBounds => "min repeat greater than max repeat"
  | .unknownExtension w => "unknown extension " ++ w
  | .lateFlags => "global flags not at the start of the expression"
  | .localeFlag => "bad inline flags: cannot use 'L' flag with a str pattern"
  | .mixedFlags => "bad inline flags: flags 'a', 'u' and 'L' are incompatible"
  | .unknownFlag => "unknown flag"
  | .textFlagOff => "bad inline flags: cannot turn off flags 'a', 'u' and 'L'"
  | .globalFlagOn => "bad inline flags: cannot turn on global flag"
  | .globalFlagOff => "bad inline flags: cannot turn off global flag"
  | .flagOnAndOff => "bad inline flags: flag turned on and off"
  | .unbalanced => "unbalanced parenthesis"
  | .lookBehindVaries => "look-behind requires fixed-width pattern"
  | .lookBehindTooFar => "looks too much behind"
  | .templateLoop kind => "internal: unsupported template operator " ++ kind

/-- A flaw, and where in the pattern it shows if it has a place. -/
structure Fault where
  why : Flaw
  position : Option Nat
  deriving DecidableEq, Repr

/-- The wording of a fault of a pattern. -/
def Fault.message (f : Fault) (pattern : String) : String :=
  match f.position with
  | none => f.why.text
  | some p =>
    let before := pattern.toList.take p
    let line := before.count '\n' + 1
    let column := (before.reverse.takeWhile (· != '\n')).length + 1
    s!"{f.why.text} at position {p}" ++
      if pattern.toList.contains '\n' then s!" (line {line}, column {column})" else ""

/-- Why a pattern cannot be used. -/
inductive Stop
  | fault (f : Fault)
  /-- A repetition or a code point beyond the numbers there are. -/
  | numberTooLarge
  /-- A number that is not even converted. -/
  | numberTooLong (digits : Nat)
  /-- The flags for ASCII and for all scripts are both set for the whole pattern. -/
  | mixedFlags
  deriving DecidableEq, Repr

end Tutor.Pattern
