import Tutor.Effects.Outcome
import Tutor.Text.Blank

namespace Tutor.Console

/-!
# Printing responses

Each response becomes one line; wrapped output is marked and trimmed.
-/

/-- The line of a response. -/
def responseLine (response : Json) : Except Failure String :=
  match response with
  | .obj _ =>
    let value := (response.getD "value" (.str "")).text
    .ok
      (if (response.getD "type" .null).isStr "wrapped" then s!"> {Text.trimmed value}" else value)
  | _ => .error .noMembers

/-- Print responses. -/
def printAll : List Json → Act Unit
  | [] => return
  | r :: rest => do
    Act.print (← Act.ofExcept (responseLine r))
    printAll rest

/-- Print the responses of a JSON text. -/
def printResponses (text : String) : Act Unit := do
  let document ← Act.ofExcept (readJson text)
  printAll (← Act.ofExcept document.elements)

end Tutor.Console
