import Tutor.Proofs.Console.Moves
import Tutor.Proofs.Service.Protocol

namespace Tutor.Console

/-!
# Playing on at one task

While the player stays at a task, the game is a session of the service in which the task is
described again after every attempt. What was fired before an attempt is nothing to the next one.

* `Stays` — lines that keep the player at a task; `played` and `answers` — the world after them, and
  what the attempts among them come to;
* `operations` — what such a line asks the service for;
* `answers_eq` — the attempts come to the same in the session, which leaves the same world;
* `Awaits` — the task is armed, and some of its events have been fired; `awaits_operations` — what
  a line changes in that;
* `answers_described_again` — the answers are those of the session, and an attempt is decided by the
  events fired since the attempt before it.
-/

open Act (Blind)
open Service (Operation Moment finish history eventsKind)

/-! ### The boundary of the console -/

/-- Announcements on the console take no notice of the journal. -/
theorem blind_announce (events : List String) : Blind (boundary.announce events) :=
  Act.Agree.ite (Act.blind_note _) (Act.Agree.pure _)

/-- Signals on the console take no notice of the journal. -/
theorem blind_signal (key : TaskKey) : Blind (boundary.signal key) :=
  Act.blind_note _

/-! ### Lines at one task -/

/-- The world after some lines at the prompt of a task. -/
def played (key : TaskKey) (lines : List String) (w : World) : World :=
  lines.foldl (fun w line => ((answer (.attempting key) line).perform w).2) w

/-- Each line keeps the player at the task, and none asks for the lessons to be read again. -/
def Stays (key : TaskKey) : List String → World → Prop
  | [], _ => True
  | line :: rest, w =>
    Request.read line ≠ .reload ∧
      ((answer (.attempting key) line).perform w).1 = .ok (.attempting key) ∧
      Stays key rest ((answer (.attempting key) line).perform w).2

/-- What a line comes to if it is an attempt at the task. -/
def answerTo (key : TaskKey) (line : String) (w : World) :
    List (Except Failure (String × String)) :=
  match Request.read line with
  | .attempt text => [((Service.attempt key text).perform w).1]
  | _ => []

/-- What the attempts at the task come to, line after line. -/
def answers (key : TaskKey) : List String → World → List (Except Failure (String × String))
  | [], _ => []
  | line :: rest, w =>
    answerTo key line w ++ answers key rest ((answer (.attempting key) line).perform w).2

/-- What a line at the prompt of a task asks the service for: after an attempt the task is described
again. -/
def operations (key : TaskKey) (line : String) : List Operation :=
  match Request.read line with
  | .event name => [.notify name]
  | .attempt text => [.attempt key text, .describe key]
  | _ => []

/-- What a moment comes to if it is an attempt. -/
def answer? (m : Moment) : Option (Except Failure (String × String)) :=
  match m.operation with
  | .attempt key input => some ((Service.attempt key input).perform m.world).1
  | _ => none

variable {key : TaskKey} {line : String} {w u : World}

/-- A line that keeps the player at the task changes the world as its operations do. -/
theorem alike_operations (hread : Request.read line ≠ .reload)
    (h : ((answer (.attempting key) line).perform w).1 = .ok (.attempting key))
    (hwu : w.Alike u) :
    ((answer (.attempting key) line).perform w).2.Alike
      (finish boundary (operations key line) u) := by
  generalize hv : ((answer (.attempting key) line).perform w).2 = v
  replace h : (answer (.attempting key) line).perform w = (.ok (.attempting key), v) :=
    Prod.ext h hv
  rw [answer_eq] at h
  obtain ⟨m, w₁, hm, hcarry⟩ := Act.of_perform_bind_ok h
  have hdecide : (requestMove key line).perform w = (.ok m, w₁) := hm
  -- only events and attempts keep the player at the task: the other lines end the game, lead to the
  -- menu, or read the lessons again
  unfold requestMove at hdecide
  unfold operations
  cases hr : Request.read line with
  | quit =>
    rw [hr] at hdecide
    cases hdecide
    cases hcarry
  | back =>
    rw [hr] at hdecide
    cases hdecide
    obtain ⟨lessons, hlessons⟩ := stage_of_showMenu hcarry
    cases hlessons
  | event name =>
    rw [hr] at hdecide
    obtain ⟨_, w₂, hnotify, hdecide⟩ := Act.of_perform_bind_ok hdecide
    cases hdecide
    cases hcarry
    have hblind := (Service.blind_notify blind_signal name w u hwu).2
    rw [hnotify] at hblind
    exact hblind
  | reload => exact absurd hr hread
  | attempt text =>
    rw [hr] at hdecide
    rcases attemptMove_cases hdecide with rfl | ⟨next, rfl⟩
    · obtain ⟨lessons, hlessons⟩ := stage_of_showMenu hcarry
      cases hlessons
    · obtain ⟨responses, w₂, hattempt, -, hprinted⟩ := attemptMove_ok hdecide
      obtain ⟨rfl, -, answer, w₃, hdescribe, hshown⟩ := visit_attempting hcarry
      have hafter := (Service.blind_attempt key text w u hwu).2
      rw [hattempt] at hafter
      have hdescribed := (Service.blind_describe blind_announce key _ _
        (hprinted.trans hafter)).2
      rw [hdescribe] at hdescribed
      exact hshown.trans hdescribed

/-- In a world that differs in the journal only, a line comes to the same. -/
theorem answerTo_eq (key : TaskKey) (line : String) (hwu : w.Alike u) :
    answerTo key line w
      = (history boundary (operations key line) u).filterMap answer? := by
  unfold answerTo operations
  cases Request.read line with
  | attempt text =>
    have hblind := (Service.blind_attempt key text w u hwu).1
    simp only [hblind]
    rfl
  | _ => rfl

/-- The attempts that keep the player at the task come to the same in the session of their
operations, and the game leaves the same world but for the journal. -/
theorem answers_eq {lines : List String} (h : Stays key lines w) (hwu : w.Alike u) :
    answers key lines w
        = (history boundary (lines.flatMap (operations key)) u).filterMap answer? ∧
      (played key lines w).Alike (finish boundary (lines.flatMap (operations key)) u) := by
  induction lines generalizing w u with
  | nil => exact ⟨rfl, hwu⟩
  | cons line rest ih =>
    -- the game and the session differ in what is printed, which no later line takes notice of
    obtain ⟨hread, hline, hrest⟩ := h
    obtain ⟨hanswers, hworld⟩ := ih hrest (alike_operations hread hline hwu)
    rw [List.flatMap_cons, Service.history_append, List.filterMap_append, answers,
      answerTo_eq key line hwu, hanswers]
    refine ⟨rfl, ?_⟩
    unfold finish at hworld ⊢
    rwa [List.foldl_append, played, List.foldl_cons]

/-! ### The events that have been fired -/

/-- The task is `t`, and it is armed with the outputs `p`, of which these events have been fired. -/
structure Awaits (key : TaskKey) (t : Task) (p : Pending) (fired : List String) (w : World) :
    Prop where
  task : w.catalog.task? key.1 key.2 = some t
  state : w.tracker.state? key = some (p.withFired fired)

/-- The events that have been fired since the last attempt, after one more line. -/
def firedAfter (fired : List String) (line : String) : List String :=
  match Request.read line with
  | .event name => fired ++ [name]
  | .attempt _ => []
  | _ => fired

/-- The events that lines fire after the last attempt among them. -/
def firedSince (lines : List String) : List String :=
  lines.foldl firedAfter []

variable {t : Task} {p : Pending} {fired : List String}

/-- A task that is described is armed, and none of its events has been fired. -/
theorem awaits_describe (ht : w.catalog.task? key.1 key.2 = some t)
    (hkind : t.input.kind = eventsKind) (hp : Pending.ofJson (.obj t.input.settings) = .ok p) :
    Awaits key t p [] ((Operation.describe key).after boundary w) := by
  obtain ⟨answer, w', hdescribe, hservice⟩ :=
    Service.perform_describe_events quiet_boundary ht hkind hp
  have hafter : (Operation.describe key).after boundary w = w' := by
    rw [Operation.after, hdescribe]
  simp only [World.service, Prod.mk.injEq] at hservice
  rw [hafter]
  refine ⟨?_, ?_⟩
  · rw [hservice.1]
    exact ht
  · rw [hservice.2.2, Tracker.state?_arm, if_pos rfl, Pending.withFired_nil_of_ofJson hp]

/-- An event that is passed on has been fired. -/
theorem awaits_notify (h : Awaits key t p fired w) (name : String) :
    Awaits key t p (fired ++ [name]) ((Operation.notify name).after boundary w) := by
  obtain ⟨signalled, w', hnotify, hservice⟩ :=
    Tracker.perform_notify_quiet quiet_boundary name w
  have hafter : (Operation.notify name).after boundary w = w' := by
    show ((Tracker.notify boundary name >>= fun _ => pure ()).perform w).2 = w'
    rw [Act.world_bind_pure, hnotify]
  simp only [World.service, Prod.mk.injEq] at hservice
  rw [hafter]
  refine ⟨?_, ?_⟩
  · rw [hservice.1]
    exact h.task
  · rw [hservice.2.2, Tracker.state?_markAll, h.state, Option.map_some, p.mark_withFired]

/-- An attempt starts over with the events, and an event is added. -/
theorem awaits_operations (hkind : t.input.kind = eventsKind)
    (hp : Pending.ofJson (.obj t.input.settings) = .ok p) (h : Awaits key t p fired w)
    (line : String) :
    Awaits key t p (firedAfter fired line) (finish boundary (operations key line) w) := by
  unfold firedAfter operations
  cases Request.read line with
  | event name => exact awaits_notify h name
  | attempt text =>
    -- whatever the attempt did to the tracker, the task is described again
    have htask : ((Operation.attempt key text).after boundary w).catalog.task? key.1 key.2
        = some t := by
      rw [Operation.after, Service.keeps_attempt key text w]
      exact h.task
    exact awaits_describe htask hkind hp
  | quit => exact h
  | back => exact h
  | reload => exact h

/-- After some lines, those events have been fired that came after the last attempt. -/
theorem awaits_session (hkind : t.input.kind = eventsKind)
    (hp : Pending.ofJson (.obj t.input.settings) = .ok p) (h : Awaits key t p fired w)
    (lines : List String) :
    Awaits key t p (lines.foldl firedAfter fired)
      (finish boundary (lines.flatMap (operations key)) w) := by
  induction lines generalizing w fired with
  | nil => exact h
  | cons line rest ih =>
    have hrest := ih (awaits_operations hkind hp h line)
    unfold finish at hrest ⊢
    rwa [List.flatMap_cons, List.foldl_append, List.foldl_cons]

/-! ### The main result -/

/-- The player comes to a task whose input is events, and some lines keep them there. The attempts
among these lines come to the same, responses and next tasks, as in the session of the service that
describes the task again after every attempt, and so does the next attempt. This next attempt, if it
gets as far as a last step that checks for events, is decided by the events that were fired since the
attempt before it, and by no earlier ones. -/
theorem answers_described_again {lines : List String} {w₀ : World}
    (ht : w₀.catalog.task? key.1 key.2 = some t) (hkind : t.input.kind = eventsKind)
    (hvisit : (visit key).perform w₀ = (.ok (.attempting key), w))
    (hstay : Stays key lines w) :
    let session := Operation.describe key :: lines.flatMap (operations key)
    answers key lines w = (history boundary session w₀).filterMap answer? ∧
      (∀ text, ((Service.attempt key text).perform (played key lines w)).1
        = ((Service.attempt key text).perform (finish boundary session w₀)).1) ∧
      ∃ p, Pending.ofJson (.obj t.input.settings) = .ok p ∧
        ∀ text earlier v, Service.ReachesCheck (played key lines w) key text t earlier v →
          (Service.attempt key text).perform (played key lines w) =
            match (p.withFired (firedSince lines)).winner key.1 key.2 with
            | .ok (name, _) => (Service.conclude key t ⟨name, earlier.auxiliaries⟩).perform v
            | .error f => (.error (.fault f), v) := by
  intro session
  obtain ⟨-, -, answer, w₁, hdescribe, hshown⟩ := visit_attempting hvisit
  have hdescribed : (Operation.describe key).after boundary w₀ = w₁ := by
    rw [Operation.after, hdescribe]
  obtain ⟨hanswers, hworld⟩ := answers_eq hstay hshown
  have hfinish : finish boundary session w₀
      = finish boundary (lines.flatMap (operations key)) w₁ := by
    rw [← hdescribed]
    rfl
  refine ⟨?answers, fun text => ?next, ?decided⟩
  case answers =>
    rw [hanswers, ← hdescribed]
    rfl
  case next =>
    rw [hfinish]
    exact (Service.blind_attempt key text _ _ hworld).1
  case decided =>
    -- the task could be described, so that its outputs can be read
    have hdescribes : Moment.Describes boundary ⟨.describe key, w₀⟩ key t.input.settings :=
      ⟨rfl, ⟨answer, by rw [hdescribe]⟩, t, ht, hkind, rfl⟩
    obtain ⟨p, hp, -⟩ := hdescribes.change
    have hawaits := awaits_session hkind hp (awaits_describe ht hkind hp) lines
    rw [hdescribed] at hawaits
    -- the session ends with the tracker of the game, so that this task awaits the same in both
    have htracker : (played key lines w).unjournaled.tracker
        = (finish boundary (lines.flatMap (operations key)) w₁).unjournaled.tracker :=
      congrArg World.tracker hworld
    have hstate : (played key lines w).tracker.state? key
        = some (p.withFired (firedSince lines)) :=
      (congrArg (fun tracker => tracker.state? key) htracker).trans hawaits.state
    have hresolve : (played key lines w).tracker.resolve key
        = (p.withFired (firedSince lines)).winner key.1 key.2 := by
      unfold Tracker.resolve
      rw [hstate]
    refine ⟨p, hp, fun text earlier v hreach => ?_⟩
    rewrite [Service.perform_attempt_check hreach, hresolve]
    cases (p.withFired (firedSince lines)).winner key.1 key.2 with
    | ok r => rfl
    | error f => rfl

/-! ### Two events, one after the other -/

/-- A task that waits for two events, with an answer to one of them and to both. -/
def twoEvents : Task where
  id := "wait"
  prompt := "Make things happen"
  input := ⟨"external_events",
    [("none", .obj [("events", .arr [])]),
     ("one", .obj [("events", .arr [.str "e1"]), ("subsumes", .arr [.str "none"])]),
     ("both", .obj [("events", .arr [.str "e1", .str "e2"]),
       ("subsumes", .arr [.str "one", .str "none"])])]⟩
  mapper := [.str "check_external_events"]
  effects :=
    [("none", ⟨.str "Nothing yet", [], false, none⟩), ("one", ⟨.str "Half way", [], false, none⟩),
     ("both", ⟨.str "All done", [], true, none⟩)]

/-- A service with a lesson of this one task. -/
def twoEventsWorld : World :=
  { World.fresh Host.bare ⟨[⟨"l", "A lesson", "wait", ["console"], [("wait", twoEvents)]⟩], [], none⟩
    with connection := .memory ⟨1, some []⟩ }

/-- The player has come to the task. -/
theorem visit_twoEvents : ((visit ("l", "wait")).perform twoEventsWorld).1
    = .ok (.attempting ("l", "wait")) := by
  rfl

/-- Firing an event, trying, and firing the other event keeps the player at the task. -/
theorem stays_twoEvents : Stays ("l", "wait") [":event e1", "go", ":event e2"]
    ((visit ("l", "wait")).perform twoEventsWorld).2 := by
  exact ⟨by decide +kernel, Act.eq_ok_of_toOption (by decide +kernel),
    by decide +kernel, Act.eq_ok_of_toOption (by decide +kernel),
    by decide +kernel, Act.eq_ok_of_toOption (by decide +kernel), trivial⟩

/-- In this game the first event is nothing to the second attempt. -/
theorem answers_described_again_twoEvents :
    let key : TaskKey := ("l", "wait")
    let lines := [":event e1", "go", ":event e2"]
    let w := ((visit key).perform twoEventsWorld).2
    twoEventsWorld.catalog.task? key.1 key.2 = some twoEvents ∧
      twoEvents.input.kind = eventsKind ∧
      (visit key).perform twoEventsWorld = (.ok (.attempting key), w) ∧ Stays key lines w ∧
      answers key lines w
        = (history boundary (.describe key :: lines.flatMap (operations key))
            twoEventsWorld).filterMap answer? ∧
      firedSince lines = ["e2"] := by
  intro key lines w
  have hvisit : (visit key).perform twoEventsWorld = (.ok (.attempting key), w) :=
    Prod.ext visit_twoEvents rfl
  have h := answers_described_again (t := twoEvents) rfl rfl hvisit stays_twoEvents
  exact ⟨rfl, rfl, hvisit, stays_twoEvents, h.1, by decide +kernel⟩

/-- The text of a response that scrolls. -/
def scrolled (text : String) : String :=
  (Json.arr [.obj [("type", .str "scrolled"), ("value", .str text)]]).write

/-- It is lost: had the task been described once and for all, both events would have been there for
the second attempt. -/
theorem event_lost_after_attempt :
    let key : TaskKey := ("l", "wait")
    let lines := [":event e1", "go", ":event e2"]
    let w := ((visit key).perform twoEventsWorld).2
    let session : List Operation :=
      [.describe key, .notify "e1", .attempt key "go", .notify "e2"]
    Stays key lines w ∧
      ((Service.attempt key "go").perform (played key lines w)).1.toOption
        = some (scrolled "Nothing yet", "wait") ∧
      ((Service.attempt key "go").perform (finish boundary session twoEventsWorld)).1.toOption
        = some (scrolled "All done", "") := by
  intro key lines w session
  exact ⟨stays_twoEvents, by decide +kernel, by decide +kernel⟩

end Tutor.Console
