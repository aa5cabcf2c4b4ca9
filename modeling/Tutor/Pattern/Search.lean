import Tutor.Pattern.Reader

namespace Tutor.Pattern

/-!
# Searching

Whether a pattern matches somewhere in a text. Ways to match are tried in order, and the first one
that leads to the end of the pattern counts.

* `Marks` are the places of the groups that have matched;
* `Goal` is the rest of a pattern: a function of the place reached and the marks;
* `Node.run` puts a pattern before a goal, and `found` looks for a match at every place.
-/

/-- The characters of a text. -/
abbrev Subject := Array Nat

/-! ### Groups -/

/-- Where each group starts and stops; a group in progress has a new start and its former stop. -/
abbrev Marks := Array (Option Nat × Option Nat)

/-- No group has matched. -/
def Marks.none (groups : Nat) : Marks :=
  Array.replicate groups (.none, .none)

/-- A group starts. -/
def Marks.start (m : Marks) (number place : Nat) : Marks :=
  m.modify (number - 1) fun s => (some place, s.2)

/-- A group stops. -/
def Marks.stop (m : Marks) (number place : Nat) : Marks :=
  m.modify (number - 1) fun s => (s.1, some place)

/-- The text a group has matched. -/
def Marks.span? (m : Marks) (number : Nat) : Option (Nat × Nat) :=
  match m[number - 1]? with
  | some (some a, some b) => if a ≤ b then some (a, b) else .none
  | _ => .none

/-! ### Goals -/

/-- Where a match ends. -/
abbrev Match := Nat × Marks

/-- What is left to match from a place on. -/
abbrev Goal := Nat → Marks → Option Match

/-- Nothing is left. -/
def Goal.done : Goal := fun i m => some (i, m)

/-- The first way, or else the second. -/
def orElse (a : Option Match) (b : Unit → Option Match) : Option Match :=
  match a with
  | some r => some r
  | none => b ()

/-! ### Conditions on places -/

/-- A word character is at an index. -/
def wordAt (s : Subject) (ascii : Bool) (i : Nat) : Bool :=
  match s[i]? with
  | some c => Class.word.holds ascii c
  | none => false

/-- The condition holds at a place. -/
def Anchor.holds (s : Subject) (i : Nat) : Anchor → Bool
  | .start lines => i == 0 || (lines && s[i - 1]? == some 10)
  | .stop lines =>
    i == s.size || (s[i]? == some 10 && (lines || i + 1 == s.size))
  | .textStart => i == 0
  | .textStop => i == s.size
  | .boundary ascii negated =>
    !s.isEmpty && ((0 < i && wordAt s ascii (i - 1)) != wordAt s ascii i) != negated

/-! ### Repetition of one character -/

/-- Number of characters in a row from `i` on that pass a test, at most `limit`. -/
def runLength (s : Subject) (t : Test) (i : Nat) : (limit : Nat) → Nat
  | 0 => 0
  | limit + 1 =>
    match s[i]? with
    | some c => if t.holds c then runLength s t (i + 1) limit + 1 else 0
    | none => 0

/-- The goal from the farthest of `extra + 1` places on, then from nearer ones. -/
def farthestFirst (k : Goal) (m : Marks) (i : Nat) : (extra : Nat) → Option Match
  | 0 => k i m
  | extra + 1 => orElse (k (i + extra + 1) m) fun _ => farthestFirst k m i extra

/-- The goal from the nearest of `extra + 1` places on, then from farther ones. -/
def nearestFirst (k : Goal) (m : Marks) (i : Nat) : (extra : Nat) → Option Match
  | 0 => k i m
  | extra + 1 => orElse (k i m) fun _ => nearestFirst k m (i + 1) extra

/-- Repeat a test of one character. -/
def runTest (s : Subject) (t : Test) (g : Greed) (least : Nat) (most : Option Nat) (k : Goal) :
    Goal := fun i m =>
  let room := s.size - i
  let n := runLength s t i (match most with | some b => min b room | none => room)
  if n < least then none
  else
    match g with
    | .most => farthestFirst k m (i + least) (n - least)
    | .fewest => nearestFirst k m (i + least) (n - least)
    | .possessive => k (i + n) m

/-! ### Repetition -/

/-- One more round is allowed: the bound is not reached, and the last round moved on. -/
def mayRepeat (most : Option Nat) (count : Nat) (last : Option Nat) (i : Nat) : Bool :=
  (match most with | some n => decide (count < n) | none => true) && last != some i

/-- Rounds of a body, as many as possible first. After `least` rounds, `last` is the place where the
last one started. -/
def mostFirst (body : Goal → Goal) (least : Nat) (most : Option Nat) (k : Goal) :
    (fuel : Nat) → (count : Nat) → (last : Option Nat) → Goal
  | 0, _, _, _, _ => none
  | fuel + 1, count, last, i, m =>
    if count < least then body (mostFirst body least most k fuel (count + 1) last) i m
    else if mayRepeat most count last i then
      orElse (body (mostFirst body least most k fuel (count + 1) (some i)) i m) fun _ => k i m
    else k i m

/-- Rounds of a body, as few as possible first. -/
def fewestFirst (body : Goal → Goal) (least : Nat) (most : Option Nat) (k : Goal) :
    (fuel : Nat) → (count : Nat) → (last : Option Nat) → Goal
  | 0, _, _, _, _ => none
  | fuel + 1, count, last, i, m =>
    if count < least then body (fewestFirst body least most k fuel (count + 1) last) i m
    else
      orElse (k i m) fun _ =>
        if mayRepeat most count last i then
          body (fewestFirst body least most k fuel (count + 1) (some i)) i m
        else none

/-- Rounds of a body, each in its first way, as many as there are. -/
def allRounds (body : Goal → Goal) (least : Nat) (most : Option Nat) :
    (fuel : Nat) → (count : Nat) → (last : Option Nat) → Goal
  | 0, _, _, _, _ => none
  | fuel + 1, count, last, i, m =>
    if count < least then
      (body Goal.done i m).bind fun r => allRounds body least most fuel (count + 1) last r.1 r.2
    else if mayRepeat most count last i then
      match body Goal.done i m with
      | some r => allRounds body least most fuel (count + 1) (some i) r.1 r.2
      | none => some (i, m)
    else some (i, m)

/-- Repeat a body. Past the least number, every round but the last goes on in the text, so the
rounds are bounded by what is left of it. -/
def runLoop (s : Subject) (body : Goal → Goal) (g : Greed) (least : Nat) (most : Option Nat)
    (k : Goal) : Goal := fun i m =>
  let fuel := least + (s.size - i) + 3
  match g with
  | .most => mostFirst body least most k fuel 0 none i m
  | .fewest => fewestFirst body least most k fuel 0 none i m
  | .possessive => (allRounds body least most fuel 0 none i m).bind fun r => k r.1 r.2

/-! ### Patterns -/

/-- The text at `i` repeats the text from `a` to `b`. -/
def repeats (s : Subject) (f : Folding) (a b i : Nat) : Bool :=
  i + (b - a) ≤ s.size &&
    (List.range (b - a)).all fun d => (s[a + d]?.map f.fold) == (s[i + d]?.map f.fold)

/-- Match a pattern and then reach a goal. -/
def Node.run (s : Subject) : Node → Goal → Goal
  | .empty => fun k => k
  | .one t => fun k i m =>
    match s[i]? with
    | some c => if t.holds c then k (i + 1) m else none
    | none => none
  | .anchor a => fun k i m => if a.holds s i then k i m else none
  | .seq a b => fun k => a.run s (b.run s k)
  | .alt a b => fun k i m => orElse (a.run s k i m) fun _ => b.run s k i m
  | .group n body => fun k i m => body.run s (fun j m => k j (m.stop n j)) i (m.start n i)
  -- the first match of the body is kept, whatever comes after it
  | .atomic body => fun k i m => (body.run s Goal.done i m).bind fun r => k r.1 r.2
  | .ahead negated body => fun k i m =>
    match body.run s Goal.done i m with
    | some r => if negated then none else k i r.2
    | none => if negated then k i m else none
  | .behind negated w body => fun k i m =>
    -- all matches of the body are of one length, so that it starts at one place
    let before := if w.least ≤ i then body.run s Goal.done (i - w.least) m else none
    match before with
    | some r => if negated then none else k i r.2
    | none => if negated then k i m else none
  | .loop g least most body => fun k =>
    match body with
    | .one t => runTest s t g least most k
    | body => runLoop s (body.run s) g least most k
  | .again f n _ => fun k i m =>
    -- a group that has matched nothing yet is not repeated
    match m.span? n with
    | some (a, b) => if repeats s f a b i then k (i + (b - a)) m else none
    | none => none
  | .ifGroup n yes none => fun k i m =>
    if (m.span? n).isSome then yes.run s k i m else k i m
  | .ifGroup n yes (some no) => fun k i m =>
    if (m.span? n).isSome then yes.run s k i m else no.run s k i m

/-- The pattern matches somewhere in the text. -/
def Program.found (p : Program) (text : String) : Bool :=
  let s : Subject := (text.toList.map Char.toNat).toArray
  (List.range (s.size + 1)).any fun i => (p.node.run s Goal.done i (Marks.none p.groups)).isSome

end Tutor.Pattern
