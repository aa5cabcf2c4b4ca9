import Tutor.Json.Writer
import Tutor.Settings.Store

namespace Tutor

/-!
# Databases as texts

A database is kept between runs as a JSON text.

* `Database.toText` writes a database, `Database.ofText?` reads one back;
* `Node.ofSettings` and `Node.toSettings` do so for what lies in a file.
-/

namespace Database

/-- The member of the version. -/
def versionMember : String := "version"

/-- The member of the stored texts. -/
def tableMember : String := "settings"

/-- The text of a database. -/
def toText (d : Database) : String :=
  let stored : Json :=
    match d.table with
    | some t => .obj (Table.mapValues Json.str t)
    | none => .null
  (Json.obj [(versionMember, .int d.version), (tableMember, stored)]).write

/-- The stored texts of a value. -/
def tableOf : Json → Option (Table String String)
  | .obj members =>
    some <| members.filterMap fun m =>
      match m.2 with
      | .str s => some (m.1, s)
      | _ => none
  | _ => none

/-- The database of a text. -/
def ofText? (text : String) : Option Database :=
  match (readJson text).toOption with
  | some j =>
    match j.get? versionMember with
    | some (.int v) => some ⟨v, tableOf (j.getD tableMember .null)⟩
    | _ => none
  | none => none

end Database

/-- What the bytes of a settings file are: a database if they hold the text of one. -/
def Node.ofSettings (bytes : List UInt8) : Node :=
  match Text.decode bytes with
  | .ok text =>
    match Database.ofText? (String.ofList text) with
    | some d => .database d
    | none => .file bytes
  | .error _ => .file bytes

/-- The text to keep in a settings file. -/
def Node.toSettings : Node → Option String
  | .database d => some d.toText
  | _ => none

end Tutor
