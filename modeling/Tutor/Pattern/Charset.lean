import Tutor.Pattern.Options
import Tutor.Text.Blank
import Tutor.Text.Case
import Tutor.Text.Digits
import Tutor.Text.Letters

namespace Tutor.Pattern

/-!
# Character sets

What one character of a text is tested for.

* `Class` names the classes of digits, blanks and word characters;
* `Member` is a range or a class, and `Charset` a list of members, all but which may be meant;
* `Charset.holds` is the test. Where case does not count, a character stands for all those of the
  same lower form or of the same capital (`variants`).
-/

/-- The classes that escapes name. -/
inductive Class
  | digit
  | space
  | word
  deriving DecidableEq, Repr

/-- The characters of a class, within ASCII or in all scripts. -/
def Class.holds (k : Class) (ascii : Bool) (c : Nat) : Bool :=
  match k with
  | .digit => if ascii then 48 ≤ c && c ≤ 57 else Text.isDecimalDigit c
  | .space => if ascii then Text.isAsciiBlank c else Text.isBlank c
  | .word => if ascii then Text.isAsciiWordChar c else Text.isWordChar c

/-- A member of a character set. -/
inductive Member
  /-- The characters from `low` to `high`. -/
  | range (low high : Nat)
  /-- The characters of a class, or all others. -/
  | kind (k : Class) (negated : Bool)
  deriving DecidableEq, Repr

/-- The character `c` alone. -/
def Member.char (c : Nat) : Member :=
  .range c c

/-- A set of characters: its members, or all other characters. -/
structure Charset where
  negated : Bool
  members : List Member
  deriving DecidableEq, Repr

/-- How characters are compared. -/
inductive Folding
  | exact
  | ascii
  | unicode
  deriving DecidableEq, Repr

/-- The folding that options ask for. -/
def Folding.of (o : Options) : Folding :=
  if !o.ignoreCase then .exact else if o.ascii then .ascii else .unicode

/-- The form of a character that comparisons see. -/
def Folding.fold : Folding → Nat → Nat
  | .exact, c => c
  | .ascii, c => Text.lowerAscii c
  | .unicode, c => Text.lowerCode c

/-- The characters that have `c` as their lower form. -/
def lowerSources (c : Nat) : List Nat :=
  let shifted := Text.lowerRuns.filterMap fun r =>
    let source := r.1 + (c - r.2.2.2)
    if r.2.2.2 ≤ c && source ≤ r.2.1 && (source - r.1) % r.2.2.1 == 0 then some source else none
  let ascii := if 97 ≤ c && c ≤ 122 then [c - 32] else []
  if Text.lowerCode c == c then c :: (ascii ++ shifted) else ascii ++ shifted

/-- The characters that a folded character stands for. -/
def Folding.variants : Folding → Nat → List Nat
  | .exact, c => [c]
  | .ascii, c => if 97 ≤ c && c ≤ 122 then [c, c - 32] else [c]
  | .unicode, c => (c :: Text.lowerSiblings c).flatMap lowerSources

/-- The last character of the basic plane. -/
def lastBasic : Nat := 0xFFFF

/-- A folded character is in a range. The part of a range within the basic plane holds all variants
of its characters; a range that goes beyond holds a character with its capital, and a single
character from beyond holds only itself. -/
def inRange (f : Folding) (low high c : Nat) : Bool :=
  match f with
  | .exact => low ≤ c && c ≤ high
  | f =>
    if high ≤ lastBasic then f.variants c |>.any fun v => low ≤ v && v ≤ high
    else if low == high then c == low
    else
      (f.variants c |>.any fun v => low ≤ v && v ≤ lastBasic) || (low ≤ c && c ≤ high) ||
        (low ≤ Text.upperCode c && Text.upperCode c ≤ high)

/-- A folded character is covered by a member. -/
def Member.holds (f : Folding) (ascii : Bool) (c : Nat) : Member → Bool
  | .range low high => inRange f low high c
  | .kind k negated => k.holds ascii c != negated

/-- A character is in a set. -/
def Charset.holds (s : Charset) (f : Folding) (ascii : Bool) (c : Nat) : Bool :=
  s.negated != s.members.any (·.holds f ascii (f.fold c))

/-- A character is the literal `literal` or, where case does not count, a variant of it. -/
def isLiteral (f : Folding) (literal c : Nat) : Bool :=
  match f with
  | .exact => c == literal
  | .ascii => Text.lowerAscii c == Text.lowerAscii literal
  | .unicode =>
    if Text.isCased literal then (Text.caseClass literal).contains (Text.lowerCode c)
    else c == literal

end Tutor.Pattern
