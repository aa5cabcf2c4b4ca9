import Tutor.Decimal.Double
import Tutor.Table

namespace Tutor

/-!
# JSON values

The values of lesson documents, settings and responses.

* `Json` keeps the members of an object in the order they were written, tells whole numbers from
  doubles, and puts no bound on whole numbers;
* `Json.get?` and `Json.getD` look a member up;
* `Json.isTruthy` tells the values that count as present.
-/

/-- A JSON value. -/
inductive Json
  | null
  | bool (b : Bool)
  | int (n : Int)
  | float (x : Decimal.Double)
  | str (s : String)
  | arr (items : List Json)
  | obj (members : List (String × Json))
  deriving Repr, Inhabited

namespace Json

/-- The member of an object under a key; none for other values. -/
def get? (j : Json) (key : String) : Option Json :=
  match j with
  | .obj ms => Table.get? ms key
  | _ => none

/-- The member of an object under a key, or a default value. -/
def getD (j : Json) (key : String) (default : Json) : Json :=
  (j.get? key).getD default

/-- The values that count as present: all but null, false, zero and the empty ones. -/
def isTruthy : Json → Bool
  | .null => false
  | .bool b => b
  | .int n => n != 0
  | .float x => !x.isZero
  | .str s => s != ""
  | .arr items => !items.isEmpty
  | .obj members => !members.isEmpty

/-- An array of strings. -/
def ofStrings (l : List String) : Json :=
  .arr (l.map .str)

end Json

end Tutor
