import Tutor.Console.Play
import Tutor.Proofs.Service.Frames
import Tutor.Proofs.Service.Journal

namespace Tutor.Console

/-!
# Moves of the game

What a line leads to is decided first and carried out then. The moment between the two is the one at
which the game shows a task or tells that a lesson is complete.

* `Move` — what the game does next; `Move.carryOut` does it;
* `startMove`, `answerMove` — the move that a lesson starts with, and the one that a line leads to;
* `startLesson_eq`, `answer_eq` — the game decides on a move and carries it out;
* `proceed` — one thing comes in; `playOn_append` cuts a game at any point of its input;
* `turns` — the moves of a game, with the worlds in which they are carried out; `of_mem_turnsOn` is
  the induction over them, and by `perform_of_mem_turns` the game goes on from each of them;
* `choosing_of_showMenu` — the menu waits for the choice of an unlocked lesson;
* `attemptMove_ok`, `visit_attempting` — what is known of an attempt that leads to a visit, and of a
  visit that leads to an attempt.
-/

open Act (Keeps)

/-- What the game does next. -/
inductive Move
  /-- Show the menu. -/
  | menu
  /-- Come to a task; no task means that the lesson is complete. -/
  | visit (key : TaskKey)
  /-- Wait for another line at the same task. -/
  | again (key : TaskKey)
  | stop
  deriving DecidableEq, Repr

/-- Do what is next. -/
def Move.carryOut : Move → Act Stage
  | .menu => showMenu
  | .visit key => Console.visit key
  | .again key => askAttempt key
  | .stop => return .finished

/-! ### Deciding on a move -/

/-- The move that a lesson starts with. -/
def startMove (name : String) : Act Move := do
  match ← Catalog.lookup name with
  | none =>
    Act.print s!"Unknown lesson: {name}"
    return .menu
  | some l =>
    Act.print ""
    Act.print s!"=== {l.name} ==="
    Act.print "Type :b to go back, :q to quit, ':event NAME' to fire an event."
    return .visit (name, l.entry)

/-- The first move of a game. -/
def firstMove : Option String → Act Move
  | some name => startMove name
  | none => return .menu

/-- The move that an attempt leads to. -/
def attemptMove (key : TaskKey) (text : String) : Act Move := do
  match ← tryOrPrint (Service.attempt key text) with
  | none => return .menu
  | some (responses, next) =>
    printResponses responses
    return .visit (key.1, next)

/-- The move that a line at the prompt of a task leads to. -/
def requestMove (key : TaskKey) (line : String) : Act Move := do
  match Request.read line with
  | .quit => return .stop
  | .back => return .menu
  | .event name =>
    Service.notify boundary name
    return .again key
  | .reload =>
    Act.print (if ← Catalog.reload then "Lessons reloaded." else "Nothing to reload.")
    return .again key
  | .attempt text => attemptMove key text

/-- The move that a line at the menu leads to. -/
def choiceMove (lessons : List String) (line : String) : Act Move := do
  match ← Act.ofExcept (Choice.read lessons line) with
  | .quit => return .stop
  | .lesson name => startMove name
  | .invalid =>
    Act.print "Invalid choice."
    return .menu

/-- The move that a line leads to. -/
def answerMove : Stage → String → Act Move
  | .choosing lessons, line => choiceMove lessons line
  | .attempting key, line => requestMove key line
  | .finished, _ => return .stop

/-! ### Deciding and carrying out -/

/-- A lesson starts with its first move. -/
theorem startLesson_eq (name : String) : startLesson name = startMove name >>= Move.carryOut := by
  unfold startLesson startMove
  -- once the binds are to the right, only what is done last differs
  simp only [bind_assoc]
  congr 1
  funext found
  cases found with
  | none => rfl
  | some l => rfl

/-- A game starts with its first move. -/
theorem start_eq (lesson : Option String) : start lesson = firstMove lesson >>= Move.carryOut := by
  cases lesson with
  | none => rfl
  | some name => exact startLesson_eq name

/-- An attempt decides on a move that is carried out. -/
theorem attemptWith_eq (key : TaskKey) (text : String) :
    attemptWith key text = attemptMove key text >>= Move.carryOut := by
  unfold attemptWith attemptMove
  simp only [bind_assoc]
  congr 1
  funext answer
  cases answer with
  | none => rfl
  | some a => simp only [bind_assoc, pure_bind]; rfl

/-- A line decides on a move that is carried out. -/
theorem answer_eq (stage : Stage) (line : String) :
    answer stage line = answerMove stage line >>= Move.carryOut := by
  cases stage with
  | finished => rfl
  | choosing lessons =>
    -- reading the choice comes first on both sides
    show answerChoice lessons line = choiceMove lessons line >>= Move.carryOut
    unfold answerChoice choiceMove
    simp only [bind_assoc]
    congr 1
    funext choice
    cases choice with
    | quit => rfl
    | lesson name => exact startLesson_eq name
    | invalid => rfl
  | attempting key =>
    show answerAttempt key line = requestMove key line >>= Move.carryOut
    unfold answerAttempt requestMove
    cases Request.read line with
    | quit => rfl
    | back => rfl
    | event name => simp only [bind_assoc, pure_bind]; rfl
    | reload => simp only [bind_assoc, pure_bind]; rfl
    | attempt text => exact attemptWith_eq key text

/-! ### A game in parts -/

/-- What the game waits for after one more thing has come in. -/
def proceed : Stage → Incoming → Act Stage
  | .finished, _ => return .finished
  | stage, .line text => answer stage text
  | stage, .meanwhile what => do
    what
    return stage

/-- A line is answered. -/
theorem proceed_line (stage : Stage) (text : String) :
    proceed stage (.line text) = answer stage text := by
  cases stage <;> rfl

/-- A game proceeds with what comes in first. -/
theorem playOn_cons (first : Incoming) (rest : List Incoming) (stage : Stage) :
    playOn (first :: rest) stage = proceed stage first >>= playOn rest := by
  cases stage with
  | finished => cases rest <;> rfl
  | choosing _ | attempting _ =>
    cases first with
    | line text => rfl
    | meanwhile what => simp only [playOn, proceed, bind_assoc, pure_bind]

/-- A game goes on with the move that a line leads to. -/
theorem playOn_line (text : String) (rest : List Incoming) (stage : Stage) :
    playOn (.line text :: rest) stage
      = answerMove stage text >>= fun m => m.carryOut >>= playOn rest := by
  rw [playOn_cons, proceed_line, answer_eq, bind_assoc]

/-- A game goes on after what happens elsewhere. -/
theorem playOn_meanwhile (what : Act Unit) (rest : List Incoming) {stage : Stage}
    (h : stage ≠ .finished) :
    playOn (.meanwhile what :: rest) stage = what >>= fun _ => playOn rest stage := by
  cases stage with
  | finished => exact absurd rfl h
  | choosing _ | attempting _ => rfl

/-- A game goes on with what comes in later where it has come to by then. -/
theorem playOn_append (input more : List Incoming) (stage : Stage) :
    playOn (input ++ more) stage = input.foldlM proceed stage >>= playOn more := by
  induction input generalizing stage with
  | nil => rw [List.nil_append, List.foldlM_nil, pure_bind]
  | cons first rest ih =>
    rw [List.cons_append, playOn_cons, List.foldlM_cons, bind_assoc]
    exact congrArg _ (funext ih)

/-! ### The moves of a game -/

/-- A move, and the world in which it is carried out. -/
structure Turn where
  move : Move
  world : World

/-- A turn that is decided on in a world, and the turns after it. -/
def turn (decide : Act Move) (rest : Stage → World → List Turn) (w : World) : List Turn :=
  match decide.perform w with
  | (.ok m, v) =>
    ⟨m, v⟩ ::
      match m.carryOut.perform v with
      | (.ok stage, w') => rest stage w'
      | (.error _, _) => []
  | (.error _, _) => []

/-- The turns while the game goes on. -/
def turnsOn : List Incoming → Stage → World → List Turn
  | _, .finished, _ => []
  | [], _, _ => []
  | .line text :: rest, stage, w => turn (answerMove stage text) (turnsOn rest) w
  | .meanwhile what :: rest, stage, w =>
    match what.perform w with
    | (.ok _, w') => turnsOn rest stage w'
    | (.error _, _) => []

/-- The turns of a game. -/
def turns (lesson : Option String) (input : List Incoming) (w : World) : List Turn :=
  turn (firstMove lesson) (turnsOn input) w

variable {t : Turn} {decide : Act Move} {input : List Incoming} {stage : Stage} {w : World}

/-- A turn is the one that is decided on, or it comes after its move. -/
theorem mem_turn {rest : Stage → World → List Turn} (h : t ∈ turn decide rest w) :
    decide.perform w = (.ok t.move, t.world) ∨
      ∃ m v stage w', decide.perform w = (.ok m, v) ∧ m.carryOut.perform v = (.ok stage, w') ∧
        t ∈ rest stage w' := by
  unfold turn at h
  split at h
  · rename_i m v hdecide
    rcases List.mem_cons.mp h with rfl | hrest
    · exact .inl hdecide
    · split at hrest
      · rename_i stage w' hcarry
        exact .inr ⟨m, v, stage, w', hdecide, hcarry, hrest⟩
      · cases hrest
  · cases h

/-- The turns of a game that is not finished begin with what comes in first. -/
theorem mem_turnsOn_cons {first : Incoming} {rest : List Incoming}
    (h : t ∈ turnsOn (first :: rest) stage w) :
    stage ≠ .finished ∧
      match first with
      | .line text => t ∈ turn (answerMove stage text) (turnsOn rest) w
      | .meanwhile what => ∃ w', what.perform w = (.ok (), w') ∧ t ∈ turnsOn rest stage w' := by
  have hstage : stage ≠ .finished := by
    rintro rfl
    cases h
  refine ⟨hstage, ?_⟩
  cases first with
  | line text =>
    cases stage with
    | finished => exact absurd rfl hstage
    | choosing _ | attempting _ => exact h
  | meanwhile what =>
    have hturns : turnsOn (.meanwhile what :: rest) stage w =
        match what.perform w with
        | (.ok _, w') => turnsOn rest stage w'
        | (.error _, _) => [] := by
      cases stage with
      | finished => exact absurd rfl hstage
      | choosing _ | attempting _ => rfl
    rw [hturns] at h
    split at h
    · rename_i w' hwhat
      exact ⟨w', hwhat, h⟩
    · cases h

/-- What holds of each turn that is decided on, by what moves and events in between preserve, holds
of all turns. -/
theorem of_mem_turnsOn {P : Turn → Prop} {I : Stage → World → Prop}
    (hline : ∀ {stage text w m v}, I stage w → (answerMove stage text).perform w = (.ok m, v) →
      P ⟨m, v⟩ ∧ ∀ {stage' w'}, m.carryOut.perform v = (.ok stage', w') → I stage' w')
    (hmeanwhile : ∀ what, .meanwhile what ∈ input → ∀ {stage w w'}, I stage w →
      what.perform w = (.ok (), w') → I stage w')
    (hI : I stage w) (ht : t ∈ turnsOn input stage w) : P t := by
  -- by induction on what comes in; `I` is what is known between two lines
  induction input generalizing stage w with
  | nil => cases stage <;> cases ht
  | cons first rest ih =>
    have hrest := fun {stage w} => @ih stage w fun what hwhat =>
      hmeanwhile what (List.mem_cons_of_mem _ hwhat)
    obtain ⟨-, hfirst⟩ := mem_turnsOn_cons ht
    cases first with
    | line text =>
      rcases mem_turn hfirst with hdecide | ⟨m, v, stage', w', hdecide, hcarry, hafter⟩
      · exact (hline hI hdecide).1
      · exact hrest ((hline hI hdecide).2 hcarry) hafter
    | meanwhile what =>
      obtain ⟨w', hwhat, hafter⟩ := hfirst
      exact hrest (hmeanwhile what List.mem_cons_self hI hwhat) hafter

/-- From each of its turns on, the game is that turn's move and what comes after it. -/
theorem perform_of_mem_turnsOn (h : t ∈ turnsOn input stage w) :
    ∃ after, after <:+ input ∧
      (playOn input stage).perform w = (t.move.carryOut >>= playOn after).perform t.world := by
  induction input generalizing stage w with
  | nil => cases stage <;> cases h
  | cons first rest ih =>
    obtain ⟨hstage, hfirst⟩ := mem_turnsOn_cons h
    cases first with
    | line text =>
      rw [playOn_line]
      rcases mem_turn hfirst with hdecide | ⟨m, v, stage', w', hdecide, hcarry, hafter⟩
      · exact ⟨rest, List.suffix_cons _ _, Act.perform_bind_ok hdecide⟩
      · obtain ⟨after, hsuffix, hplay⟩ := ih hafter
        refine ⟨after, hsuffix.trans (List.suffix_cons _ _), ?_⟩
        rw [Act.perform_bind_ok hdecide, Act.perform_bind_ok hcarry, hplay]
    | meanwhile what =>
      obtain ⟨w', hwhat, hafter⟩ := hfirst
      obtain ⟨after, hsuffix, hplay⟩ := ih hafter
      refine ⟨after, hsuffix.trans (List.suffix_cons _ _), ?_⟩
      rw [playOn_meanwhile what rest hstage, Act.perform_bind_ok hwhat, hplay]

/-- From each of its turns on, a game is that turn's move and what comes after it. -/
theorem perform_of_mem_turns {lesson : Option String} (h : t ∈ turns lesson input w) :
    ∃ after, after <:+ input ∧
      (start lesson >>= playOn input).perform w
        = (t.move.carryOut >>= playOn after).perform t.world := by
  rw [start_eq, bind_assoc]
  rcases mem_turn h with hdecide | ⟨m, v, stage, w', hdecide, hcarry, hafter⟩
  · exact ⟨input, List.suffix_refl _, Act.perform_bind_ok hdecide⟩
  · obtain ⟨after, hsuffix, hplay⟩ := perform_of_mem_turnsOn hafter
    refine ⟨after, hsuffix, ?_⟩
    rw [Act.perform_bind_ok hdecide, Act.perform_bind_ok hcarry, hplay]

/-! ### What moves come to -/

/-- The console prints and does not call back. -/
theorem quiet_boundary : boundary.Quiet where
  announce_returns events w := by
    cases events <;> rfl
  announce_keeps events w := by
    cases events <;> rfl
  signal_returns _ _ := rfl
  signal_keeps _ _ := rfl

/-- Printing responses only writes to the journal. -/
theorem keeps_printResponses (text : String) : Keeps World.unjournaled (printResponses text) := by
  have hall : ∀ responses, Keeps World.unjournaled (printAll responses) := by
    intro responses
    induction responses with
    | nil => exact Keeps.pure _
    | cons r rest ih =>
      rw [printAll]
      refine (Keeps.ofExcept _).bind fun line => ?_
      exact Keeps.bind (fun _ => rfl) fun _ => ih
  unfold printResponses
  exact (Keeps.ofExcept _).bind fun document => (Keeps.ofExcept _).bind fun responses => hall _

/-- An operation that is tried is performed; a fault of it is printed. -/
theorem perform_tryOrPrint {α : Type} (a : Act α) (w : World) :
    (tryOrPrint a).perform w =
      match a.perform w with
      | (.ok x, w') => (.ok (some x), w')
      | (.error (.fault f), w') => (printFault f >>= fun _ => pure none : Act (Option α)).perform w'
      | (.error e, w') => (.error e, w') := rfl

/-- What is tried and succeeds is what it is without trying. -/
theorem of_perform_tryOrPrint_some {α : Type} {a : Act α} {x : α} {w w' : World}
    (h : (tryOrPrint a).perform w = (.ok (some x), w')) : a.perform w = (.ok x, w') := by
  rw [perform_tryOrPrint] at h
  split at h
  · rename_i y v hy
    cases h
    exact hy
  · cases h
  · cases h

/-- The menu shows the lessons that are unlocked and waits for the choice of one of them. -/
theorem choosing_of_showMenu {w w' : World} {stage : Stage}
    (h : showMenu.perform w = (.ok stage, w')) :
    ∃ lessons v, (Service.unlockedLessons client).perform w = (.ok lessons, v) ∧
      stage = .choosing (lessons.map (·.name)) := by
  unfold showMenu at h
  obtain ⟨lessons, w₁, hlessons, h⟩ := Act.of_perform_bind_ok h
  obtain ⟨known, w₂, -, h⟩ := Act.of_perform_bind_ok h
  obtain ⟨_, w₃, -, h⟩ := Act.of_perform_bind_ok h
  obtain ⟨_, w₄, -, h⟩ := Act.of_perform_bind_ok h
  obtain ⟨_, w₅, -, h⟩ := Act.of_perform_bind_ok h
  cases h
  exact ⟨lessons, w₁, hlessons, rfl⟩

/-- The menu waits for a choice. -/
theorem stage_of_showMenu {w w' : World} {stage : Stage}
    (h : showMenu.perform w = (.ok stage, w')) : ∃ lessons, stage = .choosing lessons := by
  obtain ⟨lessons, v, -, hstage⟩ := choosing_of_showMenu h
  exact ⟨_, hstage⟩

/-- A visit that leads to an attempt is one of a task, which has been described. -/
theorem visit_attempting {key key' : TaskKey} {w w' : World}
    (h : (visit key).perform w = (.ok (.attempting key'), w')) :
    key' = key ∧ key.2 ≠ "" ∧ ∃ answer v,
      (Service.describe boundary key).perform w = (.ok answer, v) ∧ w'.Alike v := by
  unfold visit at h
  by_cases hempty : key.2.isEmpty = true
  · rw [if_pos hempty] at h
    obtain ⟨_, w₁, -, h⟩ := Act.of_perform_bind_ok h
    obtain ⟨lessons, hlessons⟩ := stage_of_showMenu h
    cases hlessons
  · rw [if_neg hempty] at h
    obtain ⟨found, v, htry, h⟩ := Act.of_perform_bind_ok h
    cases found with
    | none =>
      obtain ⟨lessons, hlessons⟩ := stage_of_showMenu h
      cases hlessons
    | some answer =>
      -- the prompt is printed, which is nothing to `Alike`
      cases h
      refine ⟨rfl, ?_, answer, v, of_perform_tryOrPrint_some htry, rfl⟩
      simpa using hempty

/-- An attempt that leads to a visit has succeeded, and nothing but printing comes between. -/
theorem attemptMove_ok {key next : TaskKey} {text : String} {w w' : World}
    (h : (attemptMove key text).perform w = (.ok (.visit next), w')) :
    ∃ responses v, (Service.attempt key text).perform w = (.ok (responses, next.2), v) ∧
      next.1 = key.1 ∧ w'.Alike v := by
  unfold attemptMove at h
  obtain ⟨found, v, htry, h⟩ := Act.of_perform_bind_ok h
  cases found with
  | none => cases h
  | some answer =>
    obtain ⟨responses, goal⟩ := answer
    obtain ⟨_, v', hprint, h⟩ := Act.of_perform_bind_ok h
    -- between the attempt and the visit responses are printed, and nothing else happens
    have hkeeps := (keeps_printResponses responses).of_perform hprint
    cases h
    exact ⟨responses, v, of_perform_tryOrPrint_some htry, rfl, hkeeps⟩

/-- An attempt leads to the menu or to a visit. -/
theorem attemptMove_cases {key : TaskKey} {text : String} {m : Move} {w w' : World}
    (h : (attemptMove key text).perform w = (.ok m, w')) : m = .menu ∨ ∃ next, m = .visit next := by
  unfold attemptMove at h
  obtain ⟨found, v, -, h⟩ := Act.of_perform_bind_ok h
  cases found with
  | none => cases h; exact .inl rfl
  | some answer =>
    obtain ⟨_, v', -, h⟩ := Act.of_perform_bind_ok h
    cases h
    exact .inr ⟨_, rfl⟩

end Tutor.Console
