import Tutor.Shell.Arithmetic
import Tutor.Shell.Brackets

namespace Tutor.Shell

/-!
# Reading words

* `readDollar` reads what a dollar sign introduces;
* `quotedPieces` reads a text between quotation marks, `readWord` a word;
* `braceChoices` writes out the braces in a word, which stand for several words.
-/

/-- Something is open when the code ends. `inCode` tells that it is code that is to be replaced by
its output. -/
structure Unclosed where
  bracket : Bracket
  inCode : Bool
  deriving DecidableEq, Repr

/-- The content of a bracket and the rest. -/
def contentOf (b : Bracket) (s : Bytes) : Except Unclosed (Bytes × Bytes) :=
  (b.content s).mapError fun inner => ⟨inner, inner == .parenthesis⟩

/-- The content of the parentheses after a dollar sign: an expression if it stands in a second pair
of parentheses, otherwise code. -/
def readParentheses (quoted : Bool) (s : Bytes) : Except Unclosed (Piece × Bytes) :=
  match Bracket.parenthesis.content s with
  | .error b => .error ⟨b, b == .parenthesis && s.head? != some '('⟩
  | .ok (content, rest) =>
    match content with
    | '(' :: inner =>
      if inner.getLast? == some ')' then .ok (.arithmetic quoted inner.dropLast, rest)
      else .ok (.code quoted false content, rest)
    | _ => .ok (.code quoted false content, rest)

/-- Parameters of one character that is no letter. -/
def specialParameters : Bytes := "?$#@*!-0123456789".toList

/-- Read what follows a dollar sign. One that introduces nothing is a plain character. -/
def readDollar (quoted : Bool) (s : Bytes) : Except Unclosed (Piece × Bytes) :=
  match s with
  | '(' :: r => readParentheses quoted r
  | '\x7b' :: r => do
    let (content, rest) ← contentOf (.brace quoted) r
    .ok (.parameter quoted content, rest)
  | c :: r =>
    if startsName c then
      .ok (.parameter quoted (s.takeWhile continuesName), s.dropWhile continuesName)
    else if specialParameters.contains c then .ok (.parameter quoted [c], r)
    else .ok (if quoted then .quoted ['$'] else .plain '$', s)
  | [] => .ok (if quoted then .quoted ['$'] else .plain '$', [])

/-- The code between backticks: there, a backslash before a backtick, a dollar sign or another
backslash is dropped. -/
def backtickCode : Bytes → Bytes
  | [] => []
  | '\\' :: c :: r =>
    if ['\x60', '$', '\\'].contains c then c :: backtickCode r
    else '\\' :: backtickCode (c :: r)
  | c :: r => c :: backtickCode r
termination_by s => s.length
decreasing_by all_goals simp only [List.length_cons]; omega

/-- Read a text between quotation marks, where a backslash escapes some characters. At most `fuel`
pieces are read. -/
def quotedPieces (escapable : Bytes) : (fuel : Nat) → Bytes → Except Unclosed Word
  | 0, _ | _, [] => .ok []
  | fuel + 1, '\\' :: '\n' :: r => quotedPieces escapable fuel r
  | fuel + 1, '\\' :: c :: r => do
    let more ← quotedPieces escapable fuel r
    .ok (.quoted (if escapable.contains c then [c] else ['\\', c]) :: more)
  | fuel + 1, '$' :: r => do
    let (piece, rest) ← readDollar true r
    .ok (piece :: (← quotedPieces escapable fuel rest))
  | fuel + 1, '\x60' :: r => do
    let (code, rest) ← contentOf .backtick r
    .ok (.code true true (backtickCode code) :: (← quotedPieces escapable fuel rest))
  | fuel + 1, c :: r => do .ok (.quoted [c] :: (← quotedPieces escapable fuel r))

/-- What a backslash escapes between quotation marks. -/
def quotationEscapes : Bytes := ['$', '\x60', '"', '\\']

/-- What a backslash escapes in a text in place. -/
def textEscapes : Bytes := ['$', '\x60', '\\']

/-- Read a text between quotation marks; an empty one still is a word. -/
def quotation (content : Bytes) : Except Unclosed Word := do
  .ok (.quoted [] :: (← quotedPieces quotationEscapes content.length content))

/-- A text up to an apostrophe that no backslash escapes, and the rest. -/
def literalContent : Bytes → Option (Bytes × Bytes)
  | [] => none
  | '\'' :: r => some ([], r)
  | '\\' :: c :: r => (literalContent r).map fun x => ('\\' :: c :: x.1, x.2)
  | c :: r => (literalContent r).map fun x => (c :: x.1, x.2)

/-- A text up to its first byte zero. -/
def upToZero (s : Bytes) : Bytes :=
  s.takeWhile (·.toNat != 0)

/-- A character that ends a word. -/
def endsWord (c : Char) : Bool :=
  " \t\n;&|<>()".toList.contains c

/-- Read pieces of a word up to a character that ends it, at most `fuel` of them. -/
def readPieces (ends : Char → Bool) : (fuel : Nat) → Bytes → Except Unclosed (Word × Bytes)
  | 0, s => .ok ([], s)
  | _, [] => .ok ([], [])
  | fuel + 1, c :: r =>
    let goOn (w : Word) (rest : Bytes) : Except Unclosed (Word × Bytes) := do
      let (more, rest) ← readPieces ends fuel rest
      .ok (w ++ more, rest)
    match c, r with
    | '\\', '\n' :: r => goOn [] r
    | '\\', d :: r => goOn [.quoted [d]] r
    | '\'', r => do
      let (content, rest) ← contentOf .apostrophe r
      goOn [.quoted content] rest
    | '"', r | '$', '"' :: r => do
      let (content, rest) ← contentOf .quotation r
      goOn (← quotation content) rest
    | '$', '\'' :: r =>
      match literalContent r with
      | some (content, rest) => goOn [.quoted (upToZero (unescape .literal content).text)] rest
      | none => .error ⟨.apostrophe, false⟩
    | '$', r => do
      let (piece, rest) ← readDollar false r
      goOn [piece] rest
    | '\x60', r => do
      let (code, rest) ← contentOf .backtick r
      goOn [.code false true (backtickCode code)] rest
    | c, r => if ends c then .ok ([], c :: r) else goOn [.plain c] r

/-- The home directory in place of a tilde that starts a path. -/
def withHome : Word → Word
  | .plain '~' :: rest =>
    match rest with
    | [] | .plain '/' :: _ => .parameter true "HOME".toList :: rest
    | _ => .plain '~' :: rest
  | w => w

/-- Read a word, and what follows it. -/
def readWord (s : Bytes) : Except Unclosed (Word × Bytes) := do
  let (w, rest) ← readPieces endsWord s.length s
  .ok (withHome w, rest)

/-- Read a whole text as one word, blanks included. -/
def wordOf (s : Bytes) : Except Unclosed Word := do
  let (w, _) ← readPieces (fun _ => false) s.length s
  .ok (withHome w)

/-- Read a text in place. -/
def textWord (s : Bytes) : Except Unclosed Word :=
  quotedPieces textEscapes s.length s

/-- The word is written out without quotes or anything to be worked out. -/
def literalText : Word → Option Bytes
  | [] => some []
  | .plain c :: rest => (literalText rest).map (c :: ·)
  | _ => none

/-! ### Braces -/

/-- What stands up to the closing brace, cut at its commas, and the rest. `depth` braces more are
open; `part` holds the part in progress, newest piece first. -/
def cutBraces : (depth : Nat) → (part : Word) → Word → Option (List Word × Word)
  | _, _, [] => none
  | 0, part, .plain '\x7d' :: rest => some ([part.reverse], rest)
  | depth + 1, part, .plain '\x7d' :: rest => cutBraces depth (.plain '\x7d' :: part) rest
  | depth, part, .plain '\x7b' :: rest => cutBraces (depth + 1) (.plain '\x7b' :: part) rest
  | 0, part, .plain ',' :: rest =>
    (cutBraces 0 [] rest).map fun x => (part.reverse :: x.1, x.2)
  | depth, part, piece :: rest => cutBraces depth (piece :: part) rest

/-- Whole numbers from one to another, in steps. -/
def span (first last : Int) (step : Nat) : List Int :=
  let count := (last - first).natAbs / step
  (List.range (count + 1)).map fun (i : Nat) =>
    if first ≤ last then first + (i * step : Nat) else first - (i * step : Nat)

/-- A number with zeros before it up to a width. -/
def zeroPadded (width : Nat) (n : Int) : Bytes :=
  let digits := Nat.toDigits 10 n.natAbs
  let sign : Bytes := if n < 0 then ['-'] else []
  sign ++ Decimal.zeros (width - (digits.length + sign.length)) ++ digits

/-- The text at a place of a text that is cut at two points in a row. -/
def cutAtPoints : (part : Bytes) → Bytes → List Bytes
  | part, [] => [part.reverse]
  | part, '.' :: '.' :: r => part.reverse :: cutAtPoints [] r
  | part, c :: r => cutAtPoints (c :: part) r

/-- A numeral starts with a zero that widens it. -/
def isPadded (s : Bytes) : Bool :=
  match (takeSign s).2 with
  | '0' :: _ :: _ => true
  | _ => false

/-- The members of a sequence between braces: numbers or letters from one to another. -/
def sequenceMembers (s : Bytes) : Option (List Bytes) :=
  match cutAtPoints [] s with
  | a :: b :: more =>
    let step : Option Nat :=
      match more with
      | [] => some 1
      | [c] => (wholeNumber? c).map fun n => max 1 n.natAbs
      | _ => none
    match step, wholeNumber? a, wholeNumber? b, a, b with
    | some step, some first, some last, _, _ =>
      let width := if isPadded a || isPadded b then max a.length b.length else 0
      some ((span first last step).map (zeroPadded width))
    | some step, _, _, [x], [y] =>
      if x.isAlpha && y.isAlpha then
        some ((span x.toNat y.toNat step).map fun n => [byte n.toNat])
      else none
    | _, _, _, _, _ => none
  | _ => none

/-- The words a word stands for by its braces. Each brace takes some `fuel`. -/
def braceChoices : (fuel : Nat) → Word → List Word
  | 0, w => [w]
  | _, [] => [[]]
  | fuel + 1, .plain '\x7b' :: rest =>
    let asIs := (braceChoices fuel rest).map (.plain '\x7b' :: ·)
    match cutBraces 0 [] rest with
    | none => asIs
    | some ([], _) => asIs
    | some ([part], after) =>
      match (literalText part).bind sequenceMembers with
      | some members =>
        let ends := braceChoices fuel after
        members.flatMap fun m => ends.map (m.map Piece.plain ++ ·)
      | none => asIs
    | some (parts, after) =>
      let ends := braceChoices fuel after
      parts.flatMap fun part =>
        (braceChoices fuel part).flatMap fun w => ends.map (w ++ ·)
  | fuel + 1, piece :: rest => (braceChoices fuel rest).map (piece :: ·)

end Tutor.Shell
