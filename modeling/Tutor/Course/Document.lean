import Tutor.Course.Lesson
import Tutor.Fault.Compose

namespace Tutor

/-!
# Lesson documents

A document of lessons is a JSON list of lesson objects. Members that are absent have default values,
and numbers and the like are taken as text where text is expected.

* `InputSpec.ofJson`, `Effect.ofJson`, `Task.ofJson` and `Lesson.ofJson` read the parts;
* `lessonsOfJson` reads a document, `lessonsOfText` its text.
-/

/-- An input: a string is short for an object with that type and no settings. -/
def InputSpec.ofJson (raw : Json) : Except Failure InputSpec :=
  match raw with
  | .str kind => .ok ⟨kind, []⟩
  | .obj _ =>
    match raw.get? "type" with
    | some (.str kind) =>
      match raw.getD "settings" .null with
      | .obj settings => .ok ⟨kind, settings⟩
      | other => if other.isTruthy then .error (.fault (.inputSettings other)) else .ok ⟨kind, []⟩
    | _ => .error (.fault (.inputKind raw))
  | other => .error (.fault (.inputShape other))

/-- A list that may be absent or empty in any way. -/
def sideEffectsOf (raw : Json) : Except Failure (List Json) :=
  match raw with
  | .arr items => .ok items
  | other => if other.isTruthy then .error (.fault (.sideEffectsShape other)) else .ok []

/-- An effect. -/
def Effect.ofJson (raw : Json) : Except Failure Effect :=
  match raw with
  | .obj _ => do
    let sideEffects ← sideEffectsOf (raw.getD "side_effects" .null)
    let moveTo := raw.getD "move_to" .null
    .ok
      { reply := raw.getD "reply" .null
        sideEffects := sideEffects
        completesLesson := (raw.getD "completes_lesson" (.bool false)).isTruthy
        moveTo := if moveTo.isTruthy then some moveTo.text else none }
  | other => .error (.fault (.effectShape other))

/-- Read the values of members, in order. -/
def mapValuesM {α β : Type} (read : String → α → Except Failure β) :
    List (String × α) → Except Failure (Table String β)
  | [] => .ok []
  | (k, v) :: r => do
    let w ← read k v
    let rest ← mapValuesM read r
    .ok ((k, w) :: rest)

/-- A task. -/
def Task.ofJson (id : String) (raw : Json) : Except Failure Task :=
  match raw with
  | .obj _ =>
    match raw.getD "mapper" (.arr []), raw.getD "effects" (.obj []) with
    | .arr mapper, .obj effects => do
      let input ← InputSpec.ofJson (raw.getD "input" (.str "text"))
      let effects ← mapValuesM (fun _ => Effect.ofJson) effects
      .ok
        { id := id
          prompt := (raw.getD "task" (.str "")).text
          input := input
          mapper := mapper
          effects := effects }
    | .arr _, _ => .error (.fault (.effectsShape id))
    | _, _ => .error (.fault (.mapperShape id))
  | other => .error (.fault (.taskShape id other))

/-- A lesson. -/
def Lesson.ofJson (raw : Json) : Except Failure Lesson :=
  match raw with
  | .obj _ =>
    match raw.getD "practice" (.obj []), raw.get? "name" with
    | .obj practice, some name => do
      let clients ← (raw.getD "available_to" (.arr [])).elements
      let practice ← mapValuesM Task.ofJson practice
      .ok
        { name := name.text
          description := (raw.getD "desc" (.str "")).text
          entry := (raw.getD "entry" (.str "")).text
          availableTo := clients.map Json.text
          practice := practice }
    | .obj _, none => .error (.missingMember "name")
    | _, name => .error (.fault (.practiceShape (name.getD (.str "<unknown>")).text))
  | other => .error (.fault (.lessonShape other))

/-- The lessons of a document. -/
def lessonsOfJson (document : Json) : Except Failure (List Lesson) :=
  match document with
  | .arr items => items.mapM Lesson.ofJson
  | _ => .error .rootNotAList

/-- The lessons of a document given as text. -/
def lessonsOfText (text : String) : Except Failure (List Lesson) := do
  lessonsOfJson (← readJson text)

end Tutor
