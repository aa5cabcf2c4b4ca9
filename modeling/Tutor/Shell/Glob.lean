import Tutor.Shell.Script

namespace Tutor.Shell

/-!
# Patterns of the shell

A pattern has wildcards: `*` for any text, `?` for a character, brackets for one of several.

* `Glyph` is a part of a pattern, `glob` reads a pattern whose quoted characters mean themselves;
* `globMatches` matches a whole text; `shortestStart` and the like cut a text at a match.
-/

/-- One member of a set of characters. -/
inductive SetItem
  | range (first last : Char)
  | named (name : Bytes)
  deriving DecidableEq, Repr

/-- A part of a pattern. -/
inductive Glyph
  | one (c : Char)
  | any
  | many
  | oneOf (negated : Bool) (items : List SetItem)
  deriving DecidableEq, Repr

/-- A pattern. -/
abbrev Glob := List Glyph

/-- A character of a pattern that is not yet read. -/
structure Mark where
  quoted : Bool
  char : Char
  deriving DecidableEq, Repr

/-! ### Matching -/

/-- A named class holds a character. -/
def classHolds (name : Bytes) (c : Char) : Bool :=
  match String.ofList name with
  | "alpha" => c.isAlpha
  | "digit" => c.isDigit
  | "alnum" => c.isAlphanum
  | "upper" => c.isUpper
  | "lower" => c.isLower
  | "space" => c == ' ' || ('\t' ≤ c && c ≤ '\r')
  | "blank" => c == ' ' || c == '\t'
  | "punct" => 33 ≤ c.toNat && c.toNat < 127 && !c.isAlphanum
  | "xdigit" => c.isDigit || ('a' ≤ c && c ≤ 'f') || ('A' ≤ c && c ≤ 'F')
  | "print" => 32 ≤ c.toNat && c.toNat < 127
  | "graph" => 33 ≤ c.toNat && c.toNat < 127
  | "cntrl" => c.toNat < 32 || c.toNat == 127
  | _ => false

/-- A member of a set holds a character. -/
def SetItem.holds (c : Char) : SetItem → Bool
  | .range first last => first ≤ c && c ≤ last
  | .named name => classHolds name c

/-- A pattern matches a whole text. -/
def globMatches : Glob → Bytes → Bool
  | [], s => s.isEmpty
  | .many :: p, s => (List.range (s.length + 1)).any fun n => globMatches p (s.drop n)
  | .any :: p, _ :: s => globMatches p s
  | .one c :: p, d :: s => c == d && globMatches p s
  | .oneOf negated items :: p, d :: s => (items.any (·.holds d) != negated) && globMatches p s
  | _ :: _, [] => false

/-! ### Reading -/

/-- The name of a class between `[:` and `:]`, and the rest. -/
def readClass (marks : List Mark) : Option (Bytes × List Mark) :=
  let name := (marks.takeWhile (·.char != ':')).map (·.char)
  match marks.dropWhile (·.char != ':') with
  | _ :: ⟨_, ']'⟩ :: rest => some (name, rest)
  | _ => none

/-- Read the members of a set up to its end. The bracket that closes it may come first as a
member. -/
def readItems : (fuel : Nat) → (first : Bool) → List Mark → Option (List SetItem × List Mark)
  | 0, _, _ | _, _, [] => none
  | fuel + 1, first, m :: rest =>
    if m.char == ']' && !m.quoted && !first then some ([], rest)
    else
      let (item, rest) : SetItem × List Mark :=
        match m, rest with
        | ⟨false, '['⟩, ⟨false, ':'⟩ :: more =>
          match readClass more with
          | some (name, rest) => (.named name, rest)
          | none => (.range '[' '[', rest)
        | _, ⟨false, '-'⟩ :: ⟨false, ']'⟩ :: _ => (.range m.char m.char, rest)
        | _, ⟨false, '-'⟩ :: last :: more => (.range m.char last.char, more)
        | _, _ => (.range m.char m.char, rest)
      (readItems fuel false rest).map fun r => (item :: r.1, r.2)

/-- Read a set after its opening bracket. -/
def readSet (marks : List Mark) : Option (Glyph × List Mark) :=
  let (negated, marks) :=
    match marks with
    | ⟨false, '!'⟩ :: r | ⟨false, '^'⟩ :: r => (true, r)
    | r => (false, r)
  (readItems (marks.length + 1) true marks).map fun r => (.oneOf negated r.1, r.2)

/-- Read a pattern of at most `fuel` characters. -/
def globWith : (fuel : Nat) → List Mark → Glob
  | 0, _ | _, [] => []
  | fuel + 1, m :: rest =>
    match m with
    | ⟨false, '*'⟩ => .many :: globWith fuel rest
    | ⟨false, '?'⟩ => .any :: globWith fuel rest
    | ⟨false, '['⟩ =>
      match readSet rest with
      | some (glyph, rest) => glyph :: globWith fuel rest
      | none => .one '[' :: globWith fuel rest
    | ⟨_, c⟩ => .one c :: globWith fuel rest

/-- Read a pattern. -/
def glob (marks : List Mark) : Glob :=
  globWith marks.length marks

/-! ### Cutting -/

/-- The lengths of the starts of a text that match, in increasing order. -/
def startLengths (p : Glob) (s : Bytes) : List Nat :=
  (List.range (s.length + 1)).filter fun n => globMatches p (s.take n)

/-- The lengths of the ends of a text that match, in increasing order. -/
def endLengths (p : Glob) (s : Bytes) : List Nat :=
  (List.range (s.length + 1)).filter fun n => globMatches p (s.drop (s.length - n))

/-- Replace the first match in a text, which is the longest at its place, or every match. A pattern
that matches the empty text alone changes nothing. -/
def replaceMatches (p : Glob) (replacement : Bytes) (every : Bool) :
    (fuel : Nat) → Bytes → Bytes
  | 0, s => s
  | _, [] => []
  | fuel + 1, c :: s =>
    match (startLengths p (c :: s)).getLast? with
    | some (n + 1) =>
      let rest := (c :: s).drop (n + 1)
      replacement ++ if every then replaceMatches p replacement every fuel rest else rest
    | _ => c :: replaceMatches p replacement every fuel s

end Tutor.Shell
