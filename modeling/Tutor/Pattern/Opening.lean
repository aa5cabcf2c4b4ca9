import Tutor.Pattern.Escape
import Tutor.Text.Identifier

namespace Tutor.Pattern

/-!
# Openings of groups

What an opening parenthesis and the characters after it announce.

* `Opening` lists the kinds of groups and of other things in parentheses;
* `inlineFlags` reads the letters of flags;
* `opening` reads all up to the content of the group.
-/

/-- What stands in a pair of parentheses. -/
inductive Opening
  /-- A group with a number and perhaps a name. -/
  | capture (name : Option (List Char))
  /-- A group for its options only. -/
  | plain (o : Options)
  | atomic
  | ahead (negated : Bool)
  | behind (negated : Bool)
  /-- Two branches, chosen by whether a group has matched. -/
  | ifGroup (number : Nat)
  /-- Something complete. -/
  | whole (n : Node)
  | comment
  /-- Flags for the whole pattern. -/
  | flags (on : List Flag)

/-! ### Flags -/

/-- The flag of a token. -/
def flagOf? : List Char → Option Flag
  | [c] => Flag.ofChar? c
  | _ => none

/-- A token that is no flag: a letter is an unknown flag, else something is missing. -/
def noFlag {α : Type} (p : Cursor) (t : List Char) (what : String) : Except Stop α :=
  match t with
  | [c] => p.fail (if Text.isLetter c.toNat then .unknownFlag else .missing what) 1
  | t => p.fail (.missing what) t.length

/-- The flags to switch on, of which `flag` was just read, up to the token that ends them. -/
def flagsOn : (fuel : Nat) → Cursor → (flag : Flag) → (on : List Flag) →
    Except Stop (Char × List Flag × Cursor)
  | 0, p, _, _ => p.fail .endOfPattern 0
  | fuel + 1, p, flag, on =>
    let on := flag :: on
    if flag = .locale then p.fail .localeFlag 0
    else if flag.choosesText && on.any fun f => f.choosesText && f != flag then
      p.fail .mixedFlags 0
    else do
      let (t, p) ← p.take
      match t, flagOf? t with
      | [], _ => p.fail (.missing "-, : or )") 0
      | _, some f => flagsOn fuel p f on
      | [c], none =>
        if c = ')' ∨ c = '-' ∨ c = ':' then .ok (c, on, p) else noFlag p t "-, : or )"
      | _, none => noFlag p t "-, : or )"

/-- The flags to switch off, of which `flag` was just read, up to the colon. -/
def flagsOff : (fuel : Nat) → Cursor → (flag : Flag) → (off : List Flag) →
    Except Stop (List Flag × Cursor)
  | 0, p, _, _ => p.fail .endOfPattern 0
  | fuel + 1, p, flag, off =>
    if flag.choosesText then p.fail .textFlagOff 0
    else do
      let (t, p) ← p.take
      match t, flagOf? t with
      | [], _ => p.fail (.missing ":") 0
      | _, some f => flagsOff fuel p f (flag :: off)
      | t, none => if t == [':'] then .ok (flag :: off, p) else noFlag p t ":"

/-- The flags after a minus sign. -/
def flagsAfterMinus (p : Cursor) : Except Stop (List Flag × Cursor) := do
  let (t, p) ← p.take
  match t, flagOf? t with
  | [], _ => p.fail (.missing "flag") 0
  | t, some f => flagsOff (p.left.length + t.length) p f []
  | t, none => noFlag p t "flag"

/-- Flags from their first token on, which has just been read: a flag or, if there is none, a minus
sign. -/
def inlineFlags (p : Cursor) (o : Options) (flag : Option Flag) : Except Stop (Opening × Cursor) :=
  do
    let (stop, on, p) ←
      match flag with
      | some f => flagsOn (p.left.length + 1) p f []
      | none => .ok ('-', [], p)
    if stop = ')' then .ok (.flags on, p)
    else if on.contains .template then p.fail .globalFlagOn 1
    else
      let (off, p) ← if stop = '-' then flagsAfterMinus p else .ok ([], p)
      if off.contains .template then p.fail .globalFlagOff 1
      else if on.any fun f => off.contains f then p.fail .flagOnAndOff 1
      else .ok (.plain (o.change on off), p)

/-! ### Names and numbers of groups -/

/-- A name has to be an identifier. -/
def checkName (p : Cursor) (name : List Char) : Except Stop Unit :=
  if Text.isIdentifier name then .ok ()
  else p.fail (.badGroupName (String.ofList name)) (name.length + 1)

/-- The number of a group with a name. -/
def namedGroup (p : Cursor) (name : List Char) : Except Stop Nat :=
  match p.names.lookup (String.ofList name) with
  | some n => .ok n
  | none => p.fail (.unknownGroup (String.ofList name)) (name.length + 1)

/-- There can be no more groups. -/
def groupLimit : Nat := 2147483647

/-- A group given by its number. -/
def numberedGroup (p : Cursor) (text : List Char) : Except Stop (Nat × Cursor) :=
  let back := text.length + 1
  match Text.readWhole text with
  | .ok (.ofNat 0) => p.fail .badGroupNumber back
  | .ok (.ofNat n) =>
    if groupLimit ≤ n then p.fail (.noGroup n) back
    else if p.conditions.any fun c => c.1 == n then .ok (n, p)
    else .ok (n, { p with conditions := p.conditions ++ [(n, p.position - back)] })
  | _ => p.fail (.badGroupName (String.ofList text)) back

/-- The group that a condition names. -/
def condition (p : Cursor) : Except Stop (Opening × Cursor) := do
  let (text, p) ← p.takeUntil ')' "group name"
  let (number, p) ←
    if Text.isIdentifier text then (namedGroup p text).map fun n => (n, p)
    else numberedGroup p text
  p.checkLookBehind number
  .ok (.ifGroup number, p)

/-- What follows `(?P`. -/
def afterP (p : Cursor) (o : Options) : Except Stop (Opening × Cursor) := do
  let (angle, p) ← p.accept '<'
  if angle then
    let (name, p) ← p.takeUntil '>' "group name"
    checkName p name
    .ok (.capture (some name), p)
  else
    let (equals, p) ← p.accept '='
    if equals then
      let (name, p) ← p.takeUntil ')' "group name"
      checkName p name
      let number ← namedGroup p name
      let n ← p.reference (.of o) number (name.length + 1)
      .ok (.whole n, p)
    else
      let (t, p) ← p.take
      if t.isEmpty then p.fail .endOfPattern 0
      else p.fail (.unknownExtension ("?P" ++ String.ofList t)) (t.length + 2)

/-- What follows `(?<`. -/
def afterAngle (p : Cursor) : Except Stop (Opening × Cursor) := do
  let (t, p) ← p.take
  match t with
  | [] => p.fail .endOfPattern 0
  | ['='] => .ok (.behind false, p)
  | ['!'] => .ok (.behind true, p)
  | t => p.fail (.unknownExtension ("?<" ++ String.ofList t)) (t.length + 2)

/-- Skip a comment in a group that opened at `start`. -/
def skipComment (start : Nat) : (fuel : Nat) → Cursor → Except Stop Cursor
  | 0, _ => .error (.fault ⟨.missing "), unterminated comment", some start⟩)
  | fuel + 1, p => do
    let (t, p) ← p.take
    if t.isEmpty then .error (.fault ⟨.missing "), unterminated comment", some start⟩)
    else if t == [')'] then .ok p
    else skipComment start fuel p

/-- The start of a group after its parenthesis at `start`. -/
def opening (p : Cursor) (o : Options) (start : Nat) : Except Stop (Opening × Cursor) := do
  let (extended, p) ← p.accept '?'
  if !extended then .ok (.capture none, p)
  else
    let (t, p) ← p.take
    match t with
    | [] => p.fail .endOfPattern 0
    | ['P'] => afterP p o
    | [':'] => .ok (.plain o, p)
    | ['#'] => (skipComment start (p.left.length + 1) p).map fun p => (.comment, p)
    | ['='] => .ok (.ahead false, p)
    | ['!'] => .ok (.ahead true, p)
    | ['<'] => afterAngle p
    | ['('] => condition p
    | ['>'] => .ok (.atomic, p)
    | ['-'] => inlineFlags p o none
    | t =>
      match flagOf? t with
      | some f => inlineFlags p o (some f)
      | none => p.fail (.unknownExtension ("?" ++ String.ofList t)) (t.length + 1)

/-- Open a numbered group. -/
def openGroup (p : Cursor) (name : Option (List Char)) : Except Stop (Nat × Cursor) :=
  let number := p.groups
  let q := { p with widths := p.widths ++ [none] }
  match name with
  | none => .ok (number, q)
  | some name =>
    match p.names.lookup (String.ofList name) with
    | some former =>
      p.fail (.renamedGroup (String.ofList name) number former) (name.length + 1)
    | none => .ok (number, { q with names := (String.ofList name, number) :: p.names })

end Tutor.Pattern
