import Tutor.Fault.Compose
import Tutor.Shell.Execute

namespace Tutor

/-!
# Effects

What a result code leads to: replies, unlocked lessons, shell commands, completion, and the next
task.

* `replyContent` is the response that a reply becomes;
* `responsesOf` are the responses among auxiliaries;
* `applySideEffects` unlocks lessons and runs commands, in order;
* `resolveEffect` is the whole.
-/

/-- What an attempt produced; `unlocked` and `known` are the whole new lists. -/
structure Outcome where
  responses : List Json
  unlocked : List String
  known : List String
  moveTo : String
  deriving Repr

/-- The response of a reply: a string scrolls, an object stands for itself. -/
def replyContent (reply : Json) : Except Fault Json :=
  match reply with
  | .str s => .ok (.obj [("type", .str "scrolled"), ("value", .str s)])
  | .obj _ => .ok reply
  | other => .error (.replyShape other)

/-- The responses of a reply: none for null and the empty string. -/
def replyResponses (reply : Json) : Except Fault (List Json) :=
  match reply with
  | .null => .ok []
  | .str "" => .ok []
  | reply => (replyContent reply).map fun r => [r]

/-- A string of a given content. -/
def Json.isStr (j : Json) (s : String) : Bool :=
  match j with
  | .str t => t == s
  | _ => false

/-- The response that an auxiliary holds, if it holds one. -/
def responseIn (auxiliary : Json) : Except Failure (List Json) :=
  match auxiliary with
  | .obj _ =>
    if (auxiliary.getD "type" .null).isStr "response" then
      match auxiliary.get? "content" with
      | some content => .ok [content]
      | none => .error (.missingMember "content")
    else .ok []
  | _ => .error .noMembers

/-- The responses among auxiliaries, in order. -/
def responsesOf (auxiliaries : List Json) : Except Failure (List Json) :=
  (auxiliaries.mapM responseIn).map List.flatten

/-- The names that an unlocking side effect lists. -/
def unlockNames (value : Json) : Except Fault (List Json) :=
  match value with
  | .arr names => .ok names
  | other => if other.isTruthy then .error (.unlockNames other) else .ok []

/-- The type of a side effect; null for one that has none. -/
def sideEffectKind (sideEffect : Json) : Json :=
  sideEffect.getD "type" .null

/-- Apply a side effect to the list of unlocked lessons. -/
def applySideEffect (key : TaskKey) (unlocked : List String) (sideEffect : Json) :
    Act (List String) := do
  let kind := sideEffectKind sideEffect
  let value := sideEffect.getD "value" .null
  if kind.isStr "unlock" then
    let names ← Act.ofFault (unlockNames value)
    Act.log .info .effects s!"Unlocked lessons {(Json.arr names).literal} after {key.1}/{key.2}"
    return addUnique unlocked (names.map Json.text)
  else if kind.isStr "shell" then
    match value with
    | .str command =>
      let _ ← Shell.execute command []
      return unlocked
    | other => Act.refuse (.sideCommand other)
  else Act.refuse (.unknownSideEffect kind sideEffect)

/-- Apply side effects in order. -/
def applySideEffects (key : TaskKey) : List Json → (unlocked : List String) → Act (List String)
  | [], unlocked => return unlocked
  | s :: rest, unlocked => do applySideEffects key rest (← applySideEffect key unlocked s)

/-- Where an effect leads: to its own goal, or out of a completed lesson, or back to the task. -/
def Effect.next (e : Effect) (task : String) : String :=
  match e.moveTo with
  | some goal => goal
  | none => if e.completesLesson then "" else task

/-- Apply the effect of a result. -/
def resolveEffect (key : TaskKey) (result : String) (effects : Table String Effect)
    (auxiliaries : List Json) (unlocked known : List String) : Act Outcome := do
  match effects.get? result with
  | none => Act.refuse (.unknownResult result effects.keys)
  | some effect =>
    let responses ← Act.ofExcept (responsesOf auxiliaries)
    let reply ← Act.ofFault (replyResponses effect.reply)
    let unlocked ← applySideEffects key effect.sideEffects (addUnique unlocked [])
    let known := addUnique known (if effect.completesLesson then [key.1] else [])
    if effect.completesLesson then Act.log .info .effects s!"Lesson {key.1} completed"
    return ⟨responses ++ reply, unlocked, known, effect.next key.2⟩

end Tutor
