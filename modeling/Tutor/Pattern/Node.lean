import Tutor.Pattern.Charset

namespace Tutor.Pattern

/-!
# Patterns as trees

* `Node` is a pattern with the options already worked into its leaves;
* `Width` bounds the length of what a node matches, `Node.width` computes it.
-/

/-- A test of one character. -/
inductive Test
  /-- Any character; with `newline` off, all but the newline. -/
  | any (newline : Bool)
  | literal (f : Folding) (c : Nat) (negated : Bool)
  | set (f : Folding) (ascii : Bool) (s : Charset)
  deriving DecidableEq, Repr

/-- The character passes the test. -/
def Test.holds (c : Nat) : Test → Bool
  | .any newline => newline || c != 10
  | .literal f l negated => isLiteral f l c != negated
  | .set f ascii s => s.holds f ascii c

/-- A condition on a place in a text. -/
inductive Anchor
  /-- `^`, at line starts if `lines` is on. -/
  | start (lines : Bool)
  /-- `$`, at line ends if `lines` is on, else also before a newline that ends the text. -/
  | stop (lines : Bool)
  /-- `\A`. -/
  | textStart
  /-- `\Z`. -/
  | textStop
  /-- `\b` and, negated, `\B`. -/
  | boundary (ascii negated : Bool)
  deriving DecidableEq, Repr

/-- How many rounds a repetition tries first. -/
inductive Greed
  /-- Most first. -/
  | most
  /-- Fewest first. -/
  | fewest
  /-- Most, and no fewer. -/
  | possessive
  deriving DecidableEq, Repr

/-- Least and greatest length. -/
structure Width where
  least : Nat
  greatest : Nat
  deriving DecidableEq, Repr

/-- A pattern. -/
inductive Node
  | empty
  | one (t : Test)
  | anchor (a : Anchor)
  | seq (a b : Node)
  | alt (a b : Node)
  | group (number : Nat) (body : Node)
  /-- The body matches here and only its first way counts. -/
  | atomic (body : Node)
  /-- The body matches, or does not match, from here on. -/
  | ahead (negated : Bool) (body : Node)
  /-- The body matches, or does not match, from `width.least` characters before. -/
  | behind (negated : Bool) (width : Width) (body : Node)
  | loop (greed : Greed) (least : Nat) (most : Option Nat) (body : Node)
  /-- The text of a group again. -/
  | again (f : Folding) (number : Nat) (width : Width)
  /-- One of two patterns, by whether a group has matched. -/
  | ifGroup (number : Nat) (yes : Node) (no : Option Node)
  deriving Repr

namespace Width

/-- Widths stop growing here. -/
def limit : Nat := Nat.pow 2 64

/-- A width within the limit. -/
def capped (w : Width) : Width :=
  ⟨min w.least limit, min w.greatest limit⟩

/-- One after the other. -/
def add (v w : Width) : Width :=
  capped ⟨v.least + w.least, v.greatest + w.greatest⟩

/-- One or the other. -/
def or (v w : Width) : Width :=
  ⟨min v.least w.least, max v.greatest w.greatest⟩

/-- Several rounds. -/
def times (w : Width) (least : Nat) (most : Option Nat) : Width :=
  capped
    { least := w.least * least
      greatest :=
        match most with
        | some n => w.greatest * n
        | none => if w.greatest = 0 then 0 else limit }

end Width

/-- The width of a pattern. -/
def Node.width : Node → Width
  | .empty | .anchor _ | .ahead .. | .behind .. => ⟨0, 0⟩
  | .one _ => ⟨1, 1⟩
  | .seq a b => a.width.add b.width
  | .alt a b => a.width.or b.width
  | .group _ body | .atomic body => body.width
  | .loop _ least most body => body.width.times least most
  | .again _ _ w => w
  | .ifGroup _ yes none => ⟨0, yes.width.greatest⟩
  | .ifGroup _ yes (some no) => yes.width.or no.width

/-- Patterns one after the other. -/
def Node.ofList : List Node → Node
  | [] => .empty
  | [n] => n
  | n :: r => .seq n (ofList r)

end Tutor.Pattern
