import Tutor.Course.Document
import Tutor.Proofs.Tables

namespace Tutor

/-!
# Shorthand in lesson documents

A document may give an input by its type, a step by its name and a reply by its text. Each of them
is short for an object.

* `Json.expandedInput`, `Json.expandedStep`, `Json.expandedReply` — the objects they are short for;
* `Json.expandedDocument` — a document in which all shorthand is written out;
* `Lesson.expanded` — a lesson in which the shorthand of steps and replies is written out;
* `lessonsOfJson_expanded` — a document that is written out has the lessons of the original, written
  out; it cannot be read exactly if the original cannot, and for the same reason.
-/

namespace Json

/-! ### Changes of a value -/

/-- Change the items of an array. -/
def onItems (f : Json → Json) : Json → Json
  | .arr items => .arr (items.map f)
  | j => j

/-- Change the values of all members of an object. -/
def onMembers (f : Json → Json) : Json → Json
  | .obj members => .obj (Table.mapValues f members)
  | j => j

/-- Change what stands under a key of an object. -/
def onMember (key : String) (f : Json → Json) : Json → Json
  | .obj members => .obj (members.map fun m => (m.1, if m.1 = key then f m.2 else m.2))
  | j => j

/-- Give an object a member unless it has one under that key. -/
def withMember (j : Json) (key : String) (value : Json) : Json :=
  match j with
  | .obj members =>
    .obj (if Table.has members key then members else Table.put members key value)
  | j => j

/-- Changing a member changes what stands under its key, and nothing else. -/
theorem get?_onMember (key : String) (f : Json → Json) (j : Json) (k : String) :
    (j.onMember key f).get? k = if k = key then (j.get? k).map f else j.get? k := by
  cases j with
  | obj members =>
    show Table.get? (members.map fun m => (m.1, if m.1 = key then f m.2 else m.2)) k
      = if k = key then (Table.get? members k).map f else Table.get? members k
    rw [Table.get?_mapEntries fun k v => if k = key then f v else v]
    by_cases h : k = key
    · simp only [if_pos h]
    · simp only [if_neg h, Option.map_id']
  | _ => exact (ite_self _).symm

/-- A member that is changed, where the default value is not. -/
theorem getD_onMember_self {key : String} {f : Json → Json} {d : Json} (hd : f d = d) (j : Json) :
    (j.onMember key f).getD key d = f (j.getD key d) := by
  unfold getD
  rw [get?_onMember, if_pos rfl]
  cases j.get? key with
  | none => exact hd.symm
  | some v => rfl

/-- The members under other keys are not changed. -/
theorem getD_onMember_ne {key k : String} (h : k ≠ key) (f : Json → Json) (j d : Json) :
    (j.onMember key f).getD k d = j.getD k d := by
  unfold getD
  rw [get?_onMember, if_neg h]

/-- Giving an object a member gives it the value it lacks, and nothing under other keys. -/
theorem get?_withMember (members : List (String × Json)) (key : String) (value : Json)
    (k : String) :
    ((Json.obj members).withMember key value).get? k =
      if k = key then some ((Json.obj members).getD key value) else (Json.obj members).get? k := by
  unfold withMember getD get?
  dsimp only
  by_cases hhas : Table.has members key = true
  · rw [if_pos hhas]
    split
    · rename_i hk
      subst hk
      rw [Table.has_iff_mem_keys, ← Table.isSome_get?] at hhas
      obtain ⟨v, hv⟩ := Option.isSome_iff_exists.mp hhas
      rw [hv]
      rfl
    · rfl
  · rw [if_neg hhas, Table.get?_put]
    rw [Table.has_iff_mem_keys] at hhas
    by_cases hk : k = key
    · rw [if_pos hk, if_pos hk.symm, Table.get?_eq_none hhas]
      rfl
    · rw [if_neg hk, if_neg (Ne.symm hk)]

/-! ### Writing shorthand out -/

/-- The input that a type is short for. -/
def expandedInput : Json → Json
  | .str kind => .obj [("type", .str kind), ("settings", .obj [])]
  | raw => raw

/-- The step that a name is short for. -/
def expandedStep : Json → Json
  | .str name => .obj [("type", .str name), ("value", .null)]
  | raw => raw

/-- The reply that a text is short for; the empty text stands for no reply. -/
def expandedReply : Json → Json
  | .str "" => .str ""
  | .str text => .obj [("type", .str "scrolled"), ("value", .str text)]
  | raw => raw

/-- An effect with its reply written out. -/
def expandedEffect : Json → Json :=
  onMember "reply" expandedReply

/-- A task with its shorthand written out. A task that tells no input takes text. -/
def expandedTask (raw : Json) : Json :=
  (((raw.withMember "input" (.str "text")).onMember "input" expandedInput).onMember "mapper"
    (onItems expandedStep)).onMember "effects" (onMembers expandedEffect)

/-- A lesson with the shorthand of its tasks written out. -/
def expandedLesson : Json → Json :=
  onMember "practice" (onMembers expandedTask)

/-- A document with all shorthand written out. -/
def expandedDocument : Json → Json :=
  onItems expandedLesson

end Json

/-- The effect with its reply written out. -/
def Effect.expanded (e : Effect) : Effect :=
  { e with reply := e.reply.expandedReply }

/-- The task with its steps and replies written out. -/
def Task.expanded (t : Task) : Task :=
  { t with
    mapper := t.mapper.map Json.expandedStep
    effects := Table.mapValues Effect.expanded t.effects }

/-- The lesson with its steps and replies written out. -/
def Lesson.expanded (l : Lesson) : Lesson :=
  { l with practice := Table.mapValues Task.expanded l.practice }

/-! ### Reading what is written out -/

/-- Items that are changed before they are read, in a way that changes what is read from them. -/
theorem mapM_onItems {α β ε : Type} {read : α → Except ε β} {f : α → α} {g : β → β}
    (h : ∀ x, read (f x) = (read x).map g) (items : List α) :
    (items.map f).mapM read = (items.mapM read).map (List.map g) := by
  induction items with
  | nil => rfl
  | cons x rest ih =>
    rw [List.map_cons, List.mapM_cons, List.mapM_cons, h, ih]
    cases read x with
    | error e => rfl
    | ok y =>
      cases rest.mapM read with
      | error e => rfl
      | ok ys => rfl

/-- Members that are changed before they are read, in a way that changes what is read from them. -/
theorem mapValuesM_mapValues {α β : Type} {read : String → α → Except Failure β} {f : α → α}
    {g : β → β} (h : ∀ k x, read k (f x) = (read k x).map g) (members : List (String × α)) :
    mapValuesM read (Table.mapValues f members)
      = (mapValuesM read members).map (Table.mapValues g) := by
  induction members with
  | nil => rfl
  | cons m rest ih =>
    obtain ⟨k, x⟩ := m
    have hcons : Table.mapValues f ((k, x) :: rest) = (k, f x) :: Table.mapValues f rest := rfl
    rw [hcons, mapValuesM, mapValuesM, h, ih]
    cases read k x with
    | error e => rfl
    | ok y =>
      cases mapValuesM read rest with
      | error e => rfl
      | ok t => rfl

/-- An input that is written out is the same input. -/
theorem InputSpec.ofJson_expanded (raw : Json) :
    InputSpec.ofJson raw.expandedInput = InputSpec.ofJson raw := by
  cases raw <;> rfl

/-- An effect that is an object, in terms of its members. -/
theorem Effect.ofJson_of_obj (raw : Json) {members : List (String × Json)}
    (h : raw = .obj members) :
    Effect.ofJson raw = (sideEffectsOf (raw.getD "side_effects" .null)).map fun sideEffects =>
      { reply := raw.getD "reply" .null
        sideEffects := sideEffects
        completesLesson := (raw.getD "completes_lesson" (.bool false)).isTruthy
        moveTo :=
          if (raw.getD "move_to" .null).isTruthy then some (raw.getD "move_to" .null).text
          else none } := by
  subst h
  show (sideEffectsOf _ >>= _) = _
  cases sideEffectsOf ((Json.obj members).getD "side_effects" .null) <;> rfl

/-- An effect that is written out is the effect with its reply written out. -/
theorem Effect.ofJson_expanded (raw : Json) :
    Effect.ofJson raw.expandedEffect = (Effect.ofJson raw).map Effect.expanded := by
  cases raw with
  | obj members =>
    let raw := Json.obj members
    have hreply : raw.expandedEffect.getD "reply" .null = (raw.getD "reply" .null).expandedReply :=
      Json.getD_onMember_self rfl raw
    have hother : ∀ k d, k ≠ "reply" → raw.expandedEffect.getD k d = raw.getD k d := fun k d hk =>
      Json.getD_onMember_ne hk _ raw d
    rw [ofJson_of_obj raw.expandedEffect rfl, ofJson_of_obj raw rfl, hreply,
      hother "side_effects" _ (by decide), hother "completes_lesson" _ (by decide),
      hother "move_to" _ (by decide)]
    cases sideEffectsOf (raw.getD "side_effects" .null) <;> rfl
  | _ => rfl

/-- A task that is an object, in terms of its members. -/
theorem Task.ofJson_of_obj (id : String) (raw : Json) {members : List (String × Json)}
    (h : raw = .obj members) :
    Task.ofJson id raw =
      match raw.getD "mapper" (.arr []), raw.getD "effects" (.obj []) with
      | .arr mapper, .obj effects => do
        let input ← InputSpec.ofJson (raw.getD "input" (.str "text"))
        let effects ← mapValuesM (fun _ => Effect.ofJson) effects
        .ok
          { id := id
            prompt := (raw.getD "task" (.str "")).text
            input := input
            mapper := mapper
            effects := effects }
      | .arr _, _ => .error (.fault (.effectsShape id))
      | _, _ => .error (.fault (.mapperShape id)) := by
  subst h
  rfl

/-- A task that is written out is the task with its steps and replies written out. -/
theorem Task.ofJson_expanded (id : String) (raw : Json) :
    Task.ofJson id raw.expandedTask = (Task.ofJson id raw).map Task.expanded := by
  cases raw with
  | obj members =>
    let raw := Json.obj members
    have hother : ∀ k d, k ≠ "input" → (raw.withMember "input" (.str "text")).getD k d
        = raw.getD k d := by
      intro k d hk
      unfold Json.getD
      rw [Json.get?_withMember, if_neg hk]
    have hprompt : raw.expandedTask.getD "task" (.str "") = raw.getD "task" (.str "") := by
      rw [Json.expandedTask, Json.getD_onMember_ne (by decide), Json.getD_onMember_ne (by decide),
        Json.getD_onMember_ne (by decide), hother _ _ (by decide)]
    have hinput : raw.expandedTask.getD "input" (.str "text")
        = (raw.getD "input" (.str "text")).expandedInput := by
      rw [Json.expandedTask, Json.getD_onMember_ne (by decide), Json.getD_onMember_ne (by decide)]
      -- the default of the member is not written out, but the member is there
      unfold Json.getD
      rw [Json.get?_onMember, if_pos rfl, Json.get?_withMember, if_pos rfl]
      rfl
    have hmapper : raw.expandedTask.getD "mapper" (.arr [])
        = (raw.getD "mapper" (.arr [])).onItems Json.expandedStep := by
      rw [Json.expandedTask, Json.getD_onMember_ne (by decide), Json.getD_onMember_self rfl,
        Json.getD_onMember_ne (by decide), hother _ _ (by decide)]
    have heffects : raw.expandedTask.getD "effects" (.obj [])
        = (raw.getD "effects" (.obj [])).onMembers Json.expandedEffect := by
      rw [Json.expandedTask, Json.getD_onMember_self rfl, Json.getD_onMember_ne (by decide),
        Json.getD_onMember_ne (by decide), hother _ _ (by decide)]
    rw [ofJson_of_obj id raw.expandedTask rfl, ofJson_of_obj id raw rfl, hprompt,
      hinput, hmapper, heffects, InputSpec.ofJson_expanded]
    -- what has the wrong shape is not written out, and fails in the same way
    cases raw.getD "mapper" (.arr []) with
    | arr mapper =>
      cases raw.getD "effects" (.obj []) with
      | obj effects =>
        dsimp only [Json.onItems, Json.onMembers]
        rw [mapValuesM_mapValues fun _ => Effect.ofJson_expanded]
        cases InputSpec.ofJson (raw.getD "input" (.str "text")) with
        | error e => rfl
        | ok input =>
          cases mapValuesM (fun _ => Effect.ofJson) effects <;> rfl
      | _ => rfl
    | _ => rfl
  | _ => rfl

/-- A lesson that is an object, in terms of its members. -/
theorem Lesson.ofJson_of_obj (raw : Json) {members : List (String × Json)}
    (h : raw = .obj members) :
    Lesson.ofJson raw =
      match raw.getD "practice" (.obj []), raw.get? "name" with
      | .obj practice, some name => do
        let clients ← (raw.getD "available_to" (.arr [])).elements
        let practice ← mapValuesM Task.ofJson practice
        .ok
          { name := name.text
            description := (raw.getD "desc" (.str "")).text
            entry := (raw.getD "entry" (.str "")).text
            availableTo := clients.map Json.text
            practice := practice }
      | .obj _, none => .error (.missingMember "name")
      | _, name => .error (.fault (.practiceShape (name.getD (.str "<unknown>")).text)) := by
  subst h
  rfl

/-- A lesson that is written out is the lesson with its steps and replies written out. -/
theorem Lesson.ofJson_expanded (raw : Json) :
    Lesson.ofJson raw.expandedLesson = (Lesson.ofJson raw).map Lesson.expanded := by
  cases raw with
  | obj members =>
    let raw := Json.obj members
    have hpractice : raw.expandedLesson.getD "practice" (.obj [])
        = (raw.getD "practice" (.obj [])).onMembers Json.expandedTask :=
      Json.getD_onMember_self rfl raw
    have hname : raw.expandedLesson.get? "name" = raw.get? "name" := by
      rw [Json.expandedLesson, Json.get?_onMember, if_neg (by decide)]
    have hother : ∀ k d, k ≠ "practice" → raw.expandedLesson.getD k d = raw.getD k d :=
      fun k d hk => Json.getD_onMember_ne hk _ raw d
    -- only the tasks are written out, so that all other members are checked as they were
    rw [ofJson_of_obj raw.expandedLesson rfl, ofJson_of_obj raw rfl, hpractice,
      hname, hother "available_to" _ (by decide), hother "desc" _ (by decide),
      hother "entry" _ (by decide)]
    cases raw.getD "practice" (.obj []) with
    | obj practice =>
      cases raw.get? "name" with
      | none => rfl
      | some name =>
        dsimp only [Json.onMembers]
        rw [mapValuesM_mapValues Task.ofJson_expanded]
        cases (raw.getD "available_to" (.arr [])).elements with
        | error e => rfl
        | ok clients =>
          cases mapValuesM Task.ofJson practice <;> rfl
    | _ => rfl
  | _ => rfl

/-- A document that is written out has the lessons of the original, written out. -/
theorem lessonsOfJson_expanded (document : Json) :
    lessonsOfJson document.expandedDocument
      = (lessonsOfJson document).map (List.map Lesson.expanded) := by
  cases document with
  | arr items => exact mapM_onItems Lesson.ofJson_expanded items
  | _ => rfl

end Tutor
