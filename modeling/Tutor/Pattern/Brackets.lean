import Tutor.Pattern.Escape

namespace Tutor.Pattern

/-!
# Sets in brackets

* `setMembers` reads the members up to the closing bracket;
* `brackets` reads a set after its opening bracket and makes a test of it.
-/

/-- A single item inside brackets, after its token `t`. -/
def setItem (p : Cursor) (t : List Char) : Except Stop (Member × Cursor) :=
  match t with
  | ['\\', c] => setEscape p c
  | c :: _ => .ok (.char c.toNat, p)
  | [] => p.fail .openSet 0

/-- The range between two items, after their tokens. -/
def setRange (p : Cursor) (s t : List Char) (low high : Member) : Except Stop Member :=
  let bad : Except Stop Member :=
    p.fail (.badRange (String.ofList s) (String.ofList t)) (s.length + 1 + t.length)
  match low, high with
  | .range l _, .range h _ => if h < l then bad else .ok (.range l h)
  | _, _ => bad

/-- The members of a set that opened at `start`, after those in `done`, newest first. A closing
bracket in the first place is a member. -/
def setMembers (start : Nat) : (fuel : Nat) → (done : List Member) → Cursor →
    Except Stop (List Member × Cursor)
  | 0, _, _ => .error (.fault ⟨.openSet, some start⟩)
  | fuel + 1, done, p => do
    let (t, p) ← p.take
    if t.isEmpty then .error (.fault ⟨.openSet, some start⟩)
    else if t == [']'] && !done.isEmpty then .ok (done.reverse, p)
    else
      let (low, p) ← setItem p t
      let (dash, p) ← p.accept '-'
      if !dash then setMembers start fuel (low :: done) p
      else
        let (u, p) ← p.take
        if u.isEmpty then .error (.fault ⟨.openSet, some start⟩)
        else if u == [']'] then .ok ((.char 45 :: low :: done).reverse, p)
        else
          let (high, p) ← setItem p u
          let range ← setRange p t u low high
          setMembers start fuel (range :: done) p

/-- The test of a set: one character alone is a literal. -/
def setTest (o : Options) (negated : Bool) (members : List Member) : Test :=
  match members.eraseDups with
  | [.range l h] =>
    if l = h then .literal (.of o) l negated else .set (.of o) o.ascii ⟨negated, [.range l h]⟩
  | ms => .set (.of o) o.ascii ⟨negated, ms⟩

/-- A set after its opening bracket at `start`. -/
def brackets (p : Cursor) (o : Options) (start : Nat) : Except Stop (Test × Cursor) := do
  let (negated, p) ← p.accept '^'
  let (members, p) ← setMembers start (p.left.length + 1) [] p
  .ok (setTest o negated members, p)

end Tutor.Pattern
