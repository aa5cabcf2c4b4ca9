import Tutor.Fault.Basic
import Tutor.Host.Files
import Tutor.Json.Reader
import Tutor.Text.Utf8

namespace Tutor

/-!
# Failures

Everything that can end an operation: a fault of content or request, or something the operation ran
into.

* `Failure` lists the causes;
* `Failure.text` words those that have a text of their own.
-/

/-- How a process runner can break down. -/
inductive RunnerFlaw
  /-- The system refuses. -/
  | system
  /-- There is no such program. -/
  | notFound
  /-- The request makes no sense. -/
  | badRequest
  /-- Anything else. -/
  | broken
  deriving DecidableEq, Repr

/-- What is wrong with a database. -/
inductive DatabaseFlaw
  /-- A request failed: the file cannot be opened, or a table is missing. -/
  | operation
  /-- The connection is closed. -/
  | closed
  /-- The file is no database. -/
  | notADatabase
  deriving DecidableEq, Repr

/-- Why an operation failed. -/
inductive Failure
  | fault (f : Fault)
  /-- A text that is no JSON. -/
  | badJson (f : Json.Fault)
  /-- A number that is not converted. -/
  | badNumber (why : Text.WholeFlaw)
  /-- Bytes that are no text. -/
  | badBytes (f : Text.Utf8Fault)
  /-- A path with a null character in it. -/
  | nullInPath
  /-- A document of lessons that is no list. -/
  | rootNotAList
  /-- A member that has to be there. -/
  | missingMember (name : String)
  /-- A value of a kind that the operation cannot use. -/
  | wrongKind
  /-- A member is asked of a value that has none. -/
  | noMembers
  /-- A number beyond all bounds in a pattern. -/
  | overflow
  /-- A pattern with flags that exclude each other. -/
  | mixedFlags
  /-- The input has ended. -/
  | endOfInput
  | file (f : FileFault)
  | database (why : DatabaseFlaw)
  /-- A database with a schema from the future. -/
  | newerSchema (version : Int)
  /-- Something outside breaks down with a message of its own. -/
  | runner (why : RunnerFlaw) (message : String)
  deriving Repr

/-- There is no home directory to be found. -/
def Failure.noHome : Failure :=
  .runner .broken "Could not determine home directory."

/-- The schema that databases are brought to. -/
def schemaVersion : Int := 1

/-- The text of a failure. Faults of the host other than those of files have none. -/
def Failure.text : Failure → String
  | .fault f => f.message
  | .badJson f => f.message
  | .badNumber w => w.message
  | .badBytes f => f.message
  | .nullInPath => "embedded null byte"
  | .rootNotAList => "Lessons document root must be a JSON list."
  | .missingMember name => Text.quoted name
  | .mixedFlags => "ASCII and UNICODE flags are incompatible"
  | .file f => f.message
  | .newerSchema v =>
    s!"Database schema version {v} is newer than supported {schemaVersion}."
  | .runner _ m => m
  | .wrongKind | .noMembers | .overflow | .endOfInput | .database _ => ""

/-- The failure to read JSON. -/
def Failure.ofJson : Json.ReadError → Failure
  | .fault f => .badJson f
  | .tooLong n => .badNumber (.tooLong n)

/-- Read JSON. -/
def readJson (text : String) : Except Failure Json :=
  (Json.read text).mapError .ofJson

end Tutor
