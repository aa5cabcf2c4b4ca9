import Tutor.Text.Hex

namespace Tutor.Text

/-!
# Reading UTF-8

Bytes to characters, with the place and the kind of the first ill-formed sequence.

* `nextChar` reads one character or says how many bytes are at fault and why;
* `decode` stops at the first fault, `decodeLossy` puts U+FFFD in its place and goes on;
* `decodeMarked` first drops a byte order mark.
-/

/-- Why a sequence of bytes is no character. -/
inductive Utf8Flaw
  | startByte
  | continuationByte
  | endOfData
  deriving DecidableEq, Repr

/-- One step of reading: a character or a fault, with the number of bytes it takes. -/
inductive Utf8Step
  | char (c : Char) (size : Nat)
  | flaw (why : Utf8Flaw) (size : Nat)

/-- A place where bytes are no UTF-8. -/
structure Utf8Fault where
  /-- The bytes at fault. -/
  bytes : List UInt8
  /-- Where they start. -/
  position : Nat
  why : Utf8Flaw
  deriving DecidableEq, Repr

/-- A byte that continues a character. -/
def isTail (b : Nat) : Bool :=
  128 ≤ b && b < 192

/-- The second byte the first one admits: no overlong forms, no surrogates, nothing past the last
plane. -/
def secondFits (a b : Nat) : Bool :=
  isTail b && !(a == 0xE0 && b < 0xA0) && !(a == 0xED && 0xA0 ≤ b) &&
    !(a == 0xF0 && b < 0x90) && !(a == 0xF4 && 0x90 ≤ b)

/-- Number of bytes of the character that starts with `a`; zero if none does. -/
def sequenceSize (a : Nat) : Nat :=
  if a < 0x80 then 1
  else if a < 0xC2 then 0
  else if a < 0xE0 then 2
  else if a < 0xF0 then 3
  else if a < 0xF5 then 4
  else 0

/-- Read one character off a text that starts with `a`. -/
def nextChar (a : Nat) (rest : List Nat) : Utf8Step :=
  match sequenceSize a, rest with
  | 1, _ => .char (Char.ofNat a) 1
  | 0, _ => .flaw .startByte 1
  | _, [] => .flaw .endOfData 1
  | 2, b :: _ =>
    if isTail b then .char (Char.ofNat ((a - 0xC0) * 64 + (b - 0x80))) 2
    else .flaw .continuationByte 1
  | n, b :: more =>
    -- the second byte rules out long forms, surrogates and what is beyond the last plane
    if !secondFits a b then .flaw .continuationByte 1
    else
      match more with
      | [] => .flaw .endOfData 2
      | c :: more =>
        if !isTail c then .flaw .continuationByte 2
        else if n == 3 then
          .char (Char.ofNat ((a - 0xE0) * 4096 + (b - 0x80) * 64 + (c - 0x80))) 3
        else
          match more with
          | [] => .flaw .endOfData 3
          | d :: _ =>
            if isTail d then
              .char (Char.ofNat ((a - 0xF0) * 262144 + (b - 0x80) * 4096 + (c - 0x80) * 64
                + (d - 0x80))) 4
            else .flaw .continuationByte 3


/-- A run of `decode` that holds the characters read so far, newest first. -/
def decodeOnto (position : Nat) (done : List Char) (bytes : List UInt8) :
    Except Utf8Fault (List Char) :=
  match bytes with
  | [] => .ok done.reverse
  | b :: rest =>
    match nextChar b.toNat ((rest.take 3).map UInt8.toNat) with
    | .char c n => decodeOnto (position + n) (c :: done) (rest.drop (n - 1))
    | .flaw why n => .error ⟨(b :: rest).take n, position, why⟩
termination_by bytes.length
decreasing_by simp only [List.length_drop, List.length_cons]; omega

/-- The text of a byte string. -/
def decode (bytes : List UInt8) : Except Utf8Fault (List Char) :=
  decodeOnto 0 [] bytes

/-- The text of a byte string that may start with a byte order mark. A lone beginning of a mark is
an empty text. -/
def decodeMarked (bytes : List UInt8) : Except Utf8Fault (List Char) :=
  match bytes with
  | 0xEF :: 0xBB :: 0xBF :: rest => decode rest
  | [0xEF, 0xBB] => .ok []
  | [0xEF] => .ok []
  | _ => decode bytes

/-- A run of `decodeLossy` that holds the characters read so far, newest first. -/
def decodeLossyOnto (done : List Char) (bytes : List UInt8) : List Char :=
  match bytes with
  | [] => done.reverse
  | b :: rest =>
    match nextChar b.toNat ((rest.take 3).map UInt8.toNat) with
    | .char c n => decodeLossyOnto (c :: done) (rest.drop (n - 1))
    | .flaw _ n => decodeLossyOnto ('\uFFFD' :: done) (rest.drop (n - 1))
termination_by bytes.length
decreasing_by all_goals simp only [List.length_drop, List.length_cons]; omega

/-- The text of a byte string, with U+FFFD for every ill-formed sequence. -/
def decodeLossy (bytes : List UInt8) : List Char :=
  decodeLossyOnto [] bytes

/-- The wording of a flaw. -/
def Utf8Flaw.text : Utf8Flaw → String
  | .startByte => "invalid start byte"
  | .continuationByte => "invalid continuation byte"
  | .endOfData => "unexpected end of data"

/-- The wording of a fault. -/
def Utf8Fault.message (f : Utf8Fault) : String :=
  match f.bytes with
  | [b] =>
    s!"'utf-8' codec can't decode byte 0x{String.ofList (hexPadded 2 b.toNat)} in position " ++
      s!"{f.position}: {f.why.text}"
  | bs =>
    s!"'utf-8' codec can't decode bytes in position {f.position}-" ++
      s!"{f.position + bs.length - 1}: {f.why.text}"

end Tutor.Text
