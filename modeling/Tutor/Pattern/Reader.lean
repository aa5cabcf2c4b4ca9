import Tutor.Pattern.Brackets
import Tutor.Pattern.Opening

namespace Tutor.Pattern

/-!
# Reading patterns

* `Piece` is one element of a sequence, with whether a repetition may follow it;
* `bounds` reads a repetition in braces;
* `alternatives` and `sequence` read a pattern and one of its alternatives;
* `Node.flaw?` is what can only be said of a pattern as a whole;
* `read` reads a pattern.
-/

/-! ### Repetition -/

/-- What a repetition may do to an element. -/
inductive Role
  | element
  | anchor
  | repeated
  deriving DecidableEq, Repr

/-- An element of a sequence. -/
structure Piece where
  node : Node
  role : Role

/-- Repetitions are counted below this number. -/
def countLimit : Nat := 4294967295

/-- A count of repetitions; none if no digit was written. -/
def count (digits : List Char) : Except Stop (Option Nat) :=
  if digits.isEmpty then .ok none
  else if Text.digitLimit < digits.length then .error (.numberTooLong digits.length)
  else if countLimit ≤ decimalNumber digits then .error .numberTooLarge
  else .ok (some (decimalNumber digits))

/-- A repetition after its opening brace; none if the brace is only a character. -/
def bounds (p : Cursor) : Except Stop (Option (Nat × Option Nat) × Cursor) :=
  if p.nextIs '\x7d' then .ok (none, p)
  else do
    let (low, q) ← p.takeSome isDecimal p.left.length
    let (comma, q) ← q.accept ','
    let (high, q) ← if comma then q.takeSome isDecimal q.left.length else .ok (low, q)
    let (closed, q) ← q.accept '\x7d'
    if !closed then .ok (none, p)
    else
      let least ← count low
      let most ← count high
      match least, most with
      | some l, some m => if m < l then p.fail .reversedBounds 0 else .ok (some (l, some m), q)
      | least, most => .ok (some (least.getD 0, most), q)

/-- The repetition that a token starts; none if it is only a character. -/
def repetition (p : Cursor) (c : Char) : Except Stop (Option (Nat × Option Nat) × Cursor) :=
  if c = '?' then .ok (some (0, some 1), p)
  else if c = '*' then .ok (some (0, none), p)
  else if c = '+' then .ok (some (1, none), p)
  else bounds p

/-- How greedy a repetition is, by the mark that may follow it. -/
def greed (p : Cursor) : Except Stop (Greed × Cursor) := do
  let (fewest, p) ← p.accept '?'
  if fewest then .ok (.fewest, p)
  else
    let (possessive, p) ← p.accept '+'
    .ok (if possessive then .possessive else .most, p)

/-- Repeat the newest of the elements; the repetition started at `start`. -/
def repeatLast (p : Cursor) (start least : Nat) (most : Option Nat) (done : List Piece) :
    Except Stop (List Piece × Cursor) :=
  match done with
  | ⟨node, .element⟩ :: rest => do
    let (g, p) ← greed p
    .ok (⟨.loop g least most node, .repeated⟩ :: rest, p)
  | ⟨_, .repeated⟩ :: _ => .error (.fault ⟨.multipleRepeat, some start⟩)
  | _ => .error (.fault ⟨.nothingToRepeat, some start⟩)

/-! ### Sequences and alternatives -/

/-- A blank that verbose patterns skip. -/
def isSkipped (t : List Char) : Bool :=
  match t with
  | [c] => c = ' ' || (9 ≤ c.toNat && c.toNat ≤ 13)
  | _ => false

/-- Skip a verbose comment, to the end of the line. -/
def skipLine : (fuel : Nat) → Cursor → Except Stop Cursor
  | 0, p => .ok p
  | fuel + 1, p => do
    let (t, p) ← p.take
    if t.isEmpty || t == ['\n'] then .ok p else skipLine fuel p

/-- Pass the parenthesis that closes a group opened at `start`. -/
def close (p : Cursor) (start : Nat) : Except Stop Cursor := do
  let (closed, p) ← p.accept ')'
  if closed then .ok p
  else .error (.fault ⟨.missing "), unterminated subpattern", some start⟩)

/-- A character that needs no second look. -/
def simple (o : Options) (c : Char) : Piece :=
  match c with
  | '.' => ⟨.one (.any o.dotAll), .element⟩
  | '^' => ⟨.anchor (.start o.multiline), .anchor⟩
  | '$' => ⟨.anchor (.stop o.multiline), .anchor⟩
  | c => ⟨.one (.literal (.of o) c.toNat false), .element⟩

/-- The sequence of elements, of which the newest comes first. -/
def Node.ofPieces (done : List Piece) : Node :=
  .ofList (done.reverse.map (·.node))

mutual

/-- Alternatives; `top` tells the whole pattern from the content of a group. -/
def alternatives : (fuel : Nat) → (top first : Bool) → Options → Cursor →
    Except Stop (Node × Cursor)
  | 0, _, _, _, p => p.fail .endOfPattern 0
  | fuel + 1, top, first, o, p => do
    let (node, p) ← sequence fuel (top && first) o [] p
    let (more, p) ← p.accept '|'
    if !more then .ok (node, p)
    else
      let (rest, p) ← alternatives fuel top false (if top then p.options else o) p
      .ok (.alt node rest, p)

/-- One alternative after the elements in `done`, newest first. Flags for the whole pattern may
stand before all elements where `first` is on. -/
def sequence : (fuel : Nat) → (first : Bool) → Options → (done : List Piece) → Cursor →
    Except Stop (Node × Cursor)
  | 0, _, _, _, p => p.fail .endOfPattern 0
  | fuel + 1, first, o, done, p =>
    let start := p.position
    match p.next with
    | [] => .ok (.ofPieces done, p)
    | ['|'] => .ok (.ofPieces done, p)
    | [')'] => .ok (.ofPieces done, p)
    | t => do
      let p ← p.skip
      if o.verbose && isSkipped t then sequence fuel first o done p
      else if o.verbose && t == ['#'] then
        let p ← skipLine (p.left.length + 1) p
        sequence fuel first o done p
      else
        match t with
        -- a token of two characters is a backslash and the one it escapes
        | [_, c] =>
          let (node, p) ← escape p o c
          let role := if let .anchor _ := node then Role.anchor else .element
          sequence fuel first o (⟨node, role⟩ :: done) p
        | ['['] =>
          let (test, p) ← brackets p o start
          sequence fuel first o (⟨.one test, .element⟩ :: done) p
        | ['('] =>
          let (opened, p) ← opening p o start
          match opened with
          | .comment => sequence fuel first o done p
          | .flags on =>
            -- they hold for the whole pattern, and so from its start
            if !first || !done.isEmpty then .error (.fault ⟨.lateFlags, some start⟩)
            else
              let p := { p with options := p.options.change on [], flags := on ++ p.flags }
              sequence fuel first p.options done p
          | .whole node => sequence fuel first o (⟨node, .element⟩ :: done) p
          | opened =>
            let (node, p) ← group fuel o start opened p
            sequence fuel first o (⟨node, .element⟩ :: done) p
        | [c] =>
          if c = '*' ∨ c = '+' ∨ c = '?' ∨ c = '\x7b' then
            let (found, p) ← repetition p c
            match found with
            | some (least, most) =>
              let (done, p) ← repeatLast p start least most done
              sequence fuel first o done p
            -- braces that hold no numbers stand for themselves
            | none => sequence fuel first o (simple o c :: done) p
          else sequence fuel first o (simple o c :: done) p
        | _ => p.fail .endOfPattern 0

/-- The content of a group and its closing parenthesis. -/
def group : (fuel : Nat) → Options → (start : Nat) → Opening → Cursor →
    Except Stop (Node × Cursor)
  | 0, _, _, _, p => p.fail .endOfPattern 0
  | fuel + 1, o, start, opened, p =>
    match opened with
    | .capture name => do
      let (number, p) ← openGroup p name
      let (body, p) ← alternatives fuel false false o p
      let p ← close p start
      .ok (.group number body, p.closeGroup number body.width)
    | .plain inner => do
      let (body, p) ← alternatives fuel false false inner p
      let p ← close p start
      .ok (body, p)
    | .atomic => do
      let (body, p) ← alternatives fuel false false o p
      let p ← close p start
      .ok (.atomic body, p)
    | .ahead negated => do
      let (body, p) ← alternatives fuel false false o p
      let p ← close p start
      .ok (.ahead negated body, p)
    | .behind negated => do
      -- groups that are opened in here cannot be looked back at
      let outer := p.lookBehind
      let inside := { p with lookBehind := some (outer.getD p.groups) }
      let (body, p) ← alternatives fuel false false o inside
      let p ← close { p with lookBehind := outer } start
      .ok (.behind negated body.width body, p)
    | .ifGroup number => do
      let (yes, p) ← sequence fuel false o [] p
      let (second, p) ← p.accept '|'
      if !second then
        let p ← close p start
        .ok (.ifGroup number yes none, p)
      else
        let (no, p) ← sequence fuel false o [] p
        if p.nextIs '|' then p.fail .threeBranches 0
        else
          let p ← close p start
          .ok (.ifGroup number yes (some no), p)
    | _ => p.fail .endOfPattern 0

end

/-! ### Whole patterns -/

/-- The greatest distance a look-behind can go back. -/
def farthestBack : Nat := 4294967295

/-- How messages call a repetition. -/
def Greed.operator : Greed → String
  | .most => "MAX_REPEAT"
  | .fewest => "MIN_REPEAT"
  | .possessive => "POSSESSIVE_REPEAT"

/-- What is wrong with a pattern that reads well: a look-behind of no fixed width, and any
repetition if the template flag is set. -/
def Node.flaw? (template : Bool) : Node → Option Flaw
  | .empty | .one _ | .anchor _ | .again .. => none
  | .seq a b | .alt a b => (a.flaw? template).or (b.flaw? template)
  | .group _ body | .atomic body | .ahead _ body => body.flaw? template
  | .behind _ w body =>
    if farthestBack < w.least then some .lookBehindTooFar
    else if w.least ≠ w.greatest then some .lookBehindVaries
    else body.flaw? template
  | .loop g _ _ body => if template then some (.templateLoop g.operator) else body.flaw? template
  | .ifGroup _ yes none => yes.flaw? template
  | .ifGroup _ yes (some no) => (yes.flaw? template).or (no.flaw? template)

/-- The first condition on a group that the pattern does not have. -/
def Cursor.lostCondition? (p : Cursor) : Option (Nat × Nat) :=
  p.conditions.find? fun c => p.groups ≤ c.1

/-- A pattern that can be matched. -/
structure Program where
  node : Node
  /-- Number of groups. -/
  groups : Nat

/-- Read a pattern. -/
def read (pattern : String) : Except Stop Program := do
  let s := pattern.toList
  let start : Cursor :=
    { left := [], size := s.length, widths := [], names := [], lookBehind := none,
      conditions := [], options := .standard, flags := [] }
  let p ← start.moveTo s
  let (node, p) ← alternatives (4 * s.length + 8) true true .standard p
  if p.flags.contains .ascii && p.flags.contains .unicode then .error .mixedFlags
  else if !p.next.isEmpty then p.fail .unbalanced 0
  else
    match p.lostCondition? with
    | some (number, position) => .error (.fault ⟨.noGroup number, some position⟩)
    | none =>
      match node.flaw? p.options.template with
      | some why => .error (.fault ⟨why, none⟩)
      | none => .ok ⟨node, p.widths.length⟩

end Tutor.Pattern
