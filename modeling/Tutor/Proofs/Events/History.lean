import Mathlib.Data.List.Basic
import Mathlib.Data.List.Induction
import Tutor.Proofs.Events.Waiting

namespace Tutor.Tracker

/-!
# The history of a tracker

A tracker that was asked to arm, to disarm and to record events shows its history and nothing more.

* `Request`, `run` — the requests and the world after a list of them;
* `Armed`, `ArmedWith`, `ArmedAt` — what a history says of a task: that it was armed and not
  disarmed since, with which outputs it was armed last, and at which request it became armed;
* `Reflects` — a tracker shows what its history says;
* `tracker_after_requests` — a tracker that had nothing armed reflects every history.
-/

/-! ### Requests -/

/-- A request to the tracker. -/
inductive Request
  | arm (key : TaskKey) (outputs : Json)
  | disarm (key : TaskKey)
  | notify (event : String)

/-- The world after a request, also after one that fails. -/
def Request.perform (b : Boundary) (w : World) : Request → World
  | .arm key outputs => ((armTask key outputs).perform w).2
  | .disarm key => ((disarmTask key).perform w).2
  | .notify event => ((Tracker.notify b event).perform w).2

/-- The world after some requests. -/
def run (b : Boundary) (requests : List Request) (w : World) : World :=
  requests.foldl (Request.perform b) w

/-- The event that a request records. -/
def Request.event? : Request → Option String
  | .notify event => some event
  | _ => none

/-- The events that some requests record, in order. -/
def recorded (requests : List Request) : List String :=
  requests.filterMap Request.event?

/-- The outputs can be read: it does not fail to arm a task with them. -/
def Readable (outputs : Json) : Prop :=
  ∃ p, Pending.ofJson outputs = .ok p

/-! ### What a history says -/

/-- The task was armed and has not been disarmed since. -/
def Armed (requests : List Request) (key : TaskKey) : Prop :=
  ∃ earlier outputs later, requests = earlier ++ .arm key outputs :: later ∧ Readable outputs ∧
    .disarm key ∉ later

/-- The task was armed last with the outputs `p`, and has not been disarmed since; the `later`
requests are those that followed. -/
def ArmedWith (requests : List Request) (key : TaskKey) (p : Pending) (later : List Request) :
    Prop :=
  ∃ earlier outputs, requests = earlier ++ .arm key outputs :: later ∧
    Pending.ofJson outputs = .ok p ∧ .disarm key ∉ later ∧
      ∀ raw, .arm key raw ∈ later → ¬ Readable raw

/-- The request number `n` armed the task when it was not armed, and it has not been disarmed
since. -/
def ArmedAt (requests : List Request) (key : TaskKey) (n : Nat) : Prop :=
  ∃ earlier outputs later, requests = earlier ++ .arm key outputs :: later ∧ earlier.length = n ∧
    Readable outputs ∧ ¬ Armed earlier key ∧ .disarm key ∉ later

/-- A tracker shows what a history says. -/
structure Reflects (t : Tracker) (requests : List Request) : Prop where
  /-- The armed tasks are those that were armed and not disarmed since. -/
  armed : ∀ key, key ∈ t.armedPairs ↔ Armed requests key
  /-- A task that is armed was armed last with some outputs. -/
  source : ∀ key, Armed requests key → ∃ p later, ArmedWith requests key p later
  /-- Its outputs are those, and just the events since then have fired. -/
  outputs : ∀ key p later, ArmedWith requests key p later →
    ∃ q, t.state? key = some q ∧ p.Progress (fun event => .notify event ∈ later) q
  /-- No task is listed twice. -/
  once : t.armedPairs.Nodup
  /-- A task that is armed became so at one request. -/
  position : ∀ key, Armed requests key → ∃! n, ArmedAt requests key n
  /-- The tasks are listed in the order in which they became armed. -/
  order : t.armedPairs.Pairwise fun k l =>
    ∀ m n, ArmedAt requests k m → ArmedAt requests l n → m < n

/-! ### One more request -/

/-- With one more request, a list is split at the request or at an earlier one. -/
theorem concat_eq_append_cons {requests earlier later : List Request} {r a : Request} :
    requests ++ [r] = earlier ++ a :: later ↔
      (requests = earlier ∧ r = a ∧ later = []) ∨
        ∃ rest, requests = earlier ++ a :: rest ∧ later = rest ++ [r] := by
  constructor
  · intro h
    rcases List.eq_nil_or_concat' later with rfl | ⟨rest, last, rfl⟩
    · obtain ⟨he, hr⟩ := List.append_inj' h rfl
      exact .inl ⟨he, List.singleton_inj.mp hr, rfl⟩
    · rw [← List.cons_append, ← List.append_assoc] at h
      obtain ⟨he, hr⟩ := List.append_inj' h rfl
      exact .inr ⟨rest, he, by rw [List.singleton_inj.mp hr]⟩
  · rintro (⟨rfl, rfl, rfl⟩ | ⟨rest, rfl, rfl⟩)
    · rfl
    · rw [List.append_assoc, List.cons_append]

/-- Nothing is armed at first. -/
theorem not_armed_nil (key : TaskKey) : ¬ Armed [] key := by
  rintro ⟨earlier, outputs, later, h, -⟩
  exact List.append_ne_nil_of_right_ne_nil earlier (List.cons_ne_nil _ _) h.symm

/-- A task is armed if the last request arms it, or if it was armed before and the last request does
not disarm it. -/
theorem armed_concat (requests : List Request) (r : Request) (key : TaskKey) :
    Armed (requests ++ [r]) key ↔
      (∃ outputs, r = .arm key outputs ∧ Readable outputs) ∨
        (Armed requests key ∧ r ≠ .disarm key) := by
  constructor
  · rintro ⟨earlier, outputs, later, h, hread, hd⟩
    rcases concat_eq_append_cons.mp h with ⟨-, hr, -⟩ | ⟨rest, hrest, rfl⟩
    · exact .inl ⟨outputs, hr, hread⟩
    · rw [List.mem_append, not_or, List.mem_singleton] at hd
      exact .inr ⟨⟨earlier, outputs, rest, hrest, hread, hd.1⟩, fun e => hd.2 e.symm⟩
  · rintro (⟨outputs, rfl, hread⟩ | ⟨⟨earlier, outputs, later, rfl, hread, hd⟩, hr⟩)
    · exact ⟨requests, outputs, [], rfl, hread, List.not_mem_nil⟩
    · refine ⟨earlier, outputs, later ++ [r], by simp, hread, ?_⟩
      rw [List.mem_append, not_or, List.mem_singleton]
      exact ⟨hd, fun e => hr e.symm⟩

/-- A task becomes armed at the last request if that arms it and it was not armed; otherwise it
stays where it was. -/
theorem armedAt_concat (requests : List Request) (r : Request) (key : TaskKey) (n : Nat) :
    ArmedAt (requests ++ [r]) key n ↔
      (n = requests.length ∧ ¬ Armed requests key ∧ ∃ outputs, r = .arm key outputs ∧
        Readable outputs) ∨
        (ArmedAt requests key n ∧ r ≠ .disarm key) := by
  constructor
  · rintro ⟨earlier, outputs, later, h, hn, hread, hnew, hd⟩
    rcases concat_eq_append_cons.mp h with ⟨rfl, hr, -⟩ | ⟨rest, hrest, rfl⟩
    · exact .inl ⟨hn.symm, hnew, outputs, hr, hread⟩
    · rw [List.mem_append, not_or, List.mem_singleton] at hd
      exact .inr ⟨⟨earlier, outputs, rest, hrest, hn, hread, hnew, hd.1⟩, fun e => hd.2 e.symm⟩
  · rintro (⟨rfl, hnew, outputs, rfl, hread⟩ |
      ⟨⟨earlier, outputs, later, rfl, hn, hread, hnew, hd⟩, hr⟩)
    · exact ⟨requests, outputs, [], rfl, rfl, hread, hnew, List.not_mem_nil⟩
    · refine ⟨earlier, outputs, later ++ [r], by simp, hn, hread, hnew, ?_⟩
      rw [List.mem_append, not_or, List.mem_singleton]
      exact ⟨hd, fun e => hr e.symm⟩

/-- A task becomes armed at one of the requests. -/
theorem ArmedAt.lt_length {requests : List Request} {key : TaskKey} {n : Nat}
    (h : ArmedAt requests key n) : n < requests.length := by
  obtain ⟨earlier, outputs, later, rfl, rfl, -⟩ := h
  rw [List.length_append, List.length_cons]
  omega

/-- A task that became armed at some request is armed. -/
theorem ArmedAt.armed {requests : List Request} {key : TaskKey} {n : Nat}
    (h : ArmedAt requests key n) : Armed requests key := by
  obtain ⟨earlier, outputs, later, he, -, hread, -, hd⟩ := h
  exact ⟨earlier, outputs, later, he, hread, hd⟩

/-- A task that is armed became so at exactly one request. -/
theorem existsUnique_armedAt {requests : List Request} {key : TaskKey}
    (h : Armed requests key) : ∃! n, ArmedAt requests key n := by
  induction requests using List.reverseRecOn with
  | nil => exact absurd h (not_armed_nil key)
  | append_singleton requests r ih =>
    by_cases hold : Armed requests key
    · -- it stays where it was: the last request does not disarm it
      have hr : r ≠ .disarm key := by
        rintro rfl
        rcases (armed_concat _ _ _).mp h with ⟨_, e, -⟩ | ⟨-, e⟩
        · cases e
        · exact e rfl
      obtain ⟨n, hn, hu⟩ := ih hold
      refine ⟨n, (armedAt_concat _ _ _ _).mpr (.inr ⟨hn, hr⟩), fun m hm => ?_⟩
      rcases (armedAt_concat _ _ _ _).mp hm with ⟨-, hnew, -⟩ | ⟨hm, -⟩
      · exact absurd hold hnew
      · exact hu m hm
    · have harm := ((armed_concat _ _ _).mp h).resolve_right fun h => hold h.1
      refine ⟨_, (armedAt_concat _ _ _ _).mpr (.inl ⟨rfl, hold, harm⟩), fun m hm => ?_⟩
      rcases (armedAt_concat _ _ _ _).mp hm with ⟨hm, -⟩ | ⟨hm, -⟩
      · exact hm
      · exact absurd hm.armed hold

/-- A task that is armed was armed last with some outputs. -/
theorem exists_armedWith {requests : List Request} {key : TaskKey} (h : Armed requests key) :
    ∃ p later, ArmedWith requests key p later := by
  induction requests using List.reverseRecOn with
  | nil => exact absurd h (not_armed_nil key)
  | append_singleton requests r ih =>
    by_cases harm : ∃ outputs, r = .arm key outputs ∧ Readable outputs
    · obtain ⟨outputs, rfl, p, hp⟩ := harm
      exact ⟨p, [], requests, outputs, rfl, hp, List.not_mem_nil,
        fun raw hraw => absurd hraw List.not_mem_nil⟩
    · obtain ⟨hold, hr⟩ := ((armed_concat _ _ _).mp h).resolve_left harm
      obtain ⟨p, later, earlier, outputs, rfl, hp, hd, hlast⟩ := ih hold
      refine ⟨p, later ++ [r], earlier, outputs, by simp, hp, ?_, fun raw hraw hread => ?_⟩
      · rw [List.mem_append, not_or, List.mem_singleton]
        exact ⟨hd, fun e => hr e.symm⟩
      · rcases List.mem_append.mp hraw with hraw | hraw
        · exact hlast raw hraw hread
        · exact harm ⟨raw, (List.mem_singleton.mp hraw).symm, hread⟩

/-! ### Runs -/

/-- What a request changes, when the boundary does not call back. -/
def Request.change : Request → Change
  | .arm key outputs =>
    match Pending.ofJson outputs with
    | .ok p => .arm key p
    | .error _ => .rest
  | .disarm key => .disarm key
  | .notify event => .mark event

/-- Arming a task with outputs that can be read is a change that arms it. -/
theorem Request.change_arm {outputs : Json} {p : Pending} (h : Pending.ofJson outputs = .ok p)
    (key : TaskKey) : (Request.arm key outputs).change = .arm key p := by
  rw [change, h]

/-- Arming a task with outputs that cannot be read is no change. -/
theorem Request.change_unreadable {outputs : Json} (h : ¬ Readable outputs) (key : TaskKey) :
    (Request.arm key outputs).change = .rest := by
  rw [change]
  split
  · rename_i p hp
    exact absurd ⟨p, hp⟩ h
  · rfl

variable {b : Boundary}

/-- A request changes the tracker in its way. -/
theorem tracker_perform (hb : b.Quiet) (w : World) (r : Request) :
    (r.perform b w).tracker = w.tracker.apply r.change := by
  cases r with
  | arm key outputs =>
    cases hp : Pending.ofJson outputs with
    | ok p =>
      obtain ⟨j, h⟩ := perform_armTask_ok hp key w
      rw [Request.perform, h, Request.change_arm hp, apply]
    | error f =>
      have hread : ¬ Readable outputs := by
        rintro ⟨p, h⟩
        rw [hp] at h
        cases h
      rw [Request.perform, perform_armTask_error hp, Request.change_unreadable hread, apply]
  | disarm key =>
    obtain ⟨j, h⟩ := perform_disarmTask key w
    rw [Request.perform, h, Request.change, apply]
  | notify event =>
    obtain ⟨signalled, w', h, hk⟩ := perform_notify_quiet hb event w
    simp only [World.service, Prod.mk.injEq] at hk
    rw [Request.perform, h, Request.change, apply, hk.2.2]

/-- Requests change the tracker one after the other. -/
theorem tracker_run (hb : b.Quiet) (requests : List Request) (w : World) :
    (run b requests w).tracker = w.tracker.after (requests.map Request.change) := by
  induction requests generalizing w with
  | nil => rfl
  | cons r rest ih =>
    have hrun : run b (r :: rest) w = run b rest (r.perform b w) := rfl
    rw [hrun, ih, tracker_perform hb, List.map_cons, after_cons]

/-- Requests come one after the other. -/
theorem run_append (earlier later : List Request) (w : World) :
    run b (earlier ++ later) w = run b later (run b earlier w) :=
  List.foldl_append

/-- The tracker lists the tasks that its history says are armed. -/
theorem mem_armedPairs_run (hb : b.Quiet) {w : World} (hw : w.tracker = Tracker.empty)
    (requests : List Request) (key : TaskKey) :
    key ∈ (run b requests w).tracker.armedPairs ↔ Armed requests key := by
  -- from the end, as `armed_concat` says what one more request does to the history
  induction requests using List.reverseRecOn with
  | nil =>
    have hrun : run b [] w = w := rfl
    rw [hrun, hw, armedPairs_empty]
    exact ⟨fun h => absurd h List.not_mem_nil, fun h => absurd h (not_armed_nil key)⟩
  | append_singleton requests r ih =>
    have hrun : run b (requests ++ [r]) w = r.perform b (run b requests w) := run_append _ _ _
    rw [armed_concat, ← ih, hrun, tracker_perform hb]
    cases r with
    | arm k outputs =>
      by_cases hread : Readable outputs
      · obtain ⟨p, hp⟩ := hread
        rw [Request.change_arm hp, apply, ← isSome_state?, state?_arm]
        by_cases hk : k = key
        · subst hk
          simp [Readable, hp]
        · simp [hk, isSome_state?]
      · rw [Request.change_unreadable hread, apply]
        simp [hread]
    | disarm k =>
      have hk : Request.disarm k ≠ .disarm key ↔ ¬ key = k := by
        rw [ne_eq, Request.disarm.injEq]
        exact not_congr eq_comm
      rw [Request.change, apply, armedPairs_disarm, List.mem_filter]
      simp [hk]
    | notify event =>
      rw [Request.change, apply, armedPairs_markAll]
      simp

/-- The tracker lists tasks in the order in which its history says they became armed. -/
theorem pairwise_armedPairs_run (hb : b.Quiet) {w : World} (hw : w.tracker = Tracker.empty)
    (requests : List Request) :
    (run b requests w).tracker.armedPairs.Pairwise fun k l =>
      ∀ m n, ArmedAt requests k m → ArmedAt requests l n → m < n := by
  induction requests using List.reverseRecOn with
  | nil =>
    have hrun : run b [] w = w := rfl
    rw [hrun, hw, armedPairs_empty]
    exact List.Pairwise.nil
  | append_singleton requests r ih =>
    have hrun : run b (requests ++ [r]) w = r.perform b (run b requests w) := run_append _ _ _
    -- tasks that were armed stay where they were
    have hold : ∀ {key n}, key ∈ (run b requests w).tracker.armedPairs →
        ArmedAt (requests ++ [r]) key n → ArmedAt requests key n := by
      intro key n hkey h
      rcases (armedAt_concat _ _ _ _).mp h with ⟨-, hnew, -⟩ | ⟨h, -⟩
      · exact absurd ((mem_armedPairs_run hb hw requests key).mp hkey) hnew
      · exact h
    have ih' : (run b requests w).tracker.armedPairs.Pairwise fun k l =>
        ∀ m n, ArmedAt (requests ++ [r]) k m → ArmedAt (requests ++ [r]) l n → m < n := by
      refine ih.imp_of_mem fun hk hl h m n hm hn => ?_
      exact h m n (hold hk hm) (hold hl hn)
    rw [hrun, tracker_perform hb]
    cases r with
    | arm key outputs =>
      by_cases hread : Readable outputs
      · obtain ⟨p, hp⟩ := hread
        rw [Request.change_arm hp, apply, armedPairs_arm]
        split
        · exact ih'
        · rename_i hnew
          refine List.pairwise_append.mpr ⟨ih', List.pairwise_singleton _ _, ?_⟩
          intro k hk l hl m n hm hn
          -- the new task becomes armed at the last request, all others did before
          rw [List.mem_singleton] at hl
          subst hl
          rw [mem_armedPairs_run hb hw] at hnew
          rcases (armedAt_concat _ _ _ _).mp hn with ⟨rfl, -⟩ | ⟨hn, -⟩
          · exact (hold hk hm).lt_length
          · exact absurd hn.armed hnew
      · rw [Request.change_unreadable hread, apply]
        exact ih'
    | disarm key =>
      rw [Request.change, apply, armedPairs_disarm]
      exact ih'.filter _
    | notify event =>
      rw [Request.change, apply, armedPairs_markAll]
      exact ih'

/-- The event that a request records is that of its change. -/
theorem Request.event?_change (r : Request) : r.change.event? = r.event? := by
  cases r with
  | arm key outputs =>
    rw [change]
    split <;> rfl
  | disarm key => rfl
  | notify event => rfl

/-- The outputs of a task are those it was armed with last, with the events recorded since. -/
theorem state?_run_recorded (hb : b.Quiet) (w : World) {requests later : List Request}
    {key : TaskKey} {p : Pending} (h : ArmedWith requests key p later) :
    (run b requests w).tracker.state? key = some (p.withFired (recorded later)) := by
  obtain ⟨earlier, outputs, rfl, hp, hd, hlast⟩ := h
  -- since then the task was neither armed nor disarmed
  have htouch : ∀ c ∈ later.map Request.change, ¬ c.Touches key := by
    intro c hc
    obtain ⟨r, hr, rfl⟩ := List.mem_map.mp hc
    cases r with
    | arm k raw =>
      by_cases hread : Readable raw
      · obtain ⟨q, hq⟩ := hread
        rw [Request.change_arm hq]
        rintro rfl
        exact hlast raw hr ⟨q, hq⟩
      · rw [Request.change_unreadable hread]
        exact id
    | disarm k =>
      rintro rfl
      exact hd hr
    | notify event => exact id
  have hevents : (later.map Request.change).filterMap Change.event? = recorded later := by
    have hsame : Change.event? ∘ Request.change = Request.event? := funext Request.event?_change
    rw [List.filterMap_map, hsame, recorded]
  rw [tracker_run hb, List.map_append, List.map_cons, Request.change_arm hp, ← hevents]
  exact state?_after_arm _ (Pending.withFired_nil_of_ofJson hp) _ htouch

/-- The events of some requests are those that they notify. -/
theorem mem_recorded (requests : List Request) (event : String) :
    event ∈ recorded requests ↔ .notify event ∈ requests := by
  rw [recorded, List.mem_filterMap]
  constructor
  · rintro ⟨r, hr, he⟩
    cases r with
    | notify e =>
      cases he
      exact hr
    | _ => cases he
  · exact fun h => ⟨.notify event, h, rfl⟩

/-- A task has the outputs it was armed with last, with the events since then fired. -/
theorem state?_run_armedWith (hb : b.Quiet) (w : World) {requests later : List Request}
    {key : TaskKey} {p : Pending} (h : ArmedWith requests key p later) :
    ∃ q, (run b requests w).tracker.state? key = some q ∧
      p.Progress (fun event => .notify event ∈ later) q :=
  ⟨_, state?_run_recorded hb w h, p.progress_withFired (mem_recorded later)⟩

/-- Of notifications that follow one another only the set of events counts. -/
theorem tracker_run_notifications (hb : b.Quiet) (w : World) {events events' : List String}
    (h : ∀ e, e ∈ events ↔ e ∈ events') (earlier later : List Request) :
    (run b (earlier ++ events.map .notify ++ later) w).tracker
      = (run b (earlier ++ events'.map .notify ++ later) w).tracker := by
  have hmarks : ∀ l : List String, (l.map Request.notify).map Request.change = l.map .mark :=
    fun l => List.map_map
  simp only [tracker_run hb, List.map_append, after_append, hmarks, after_marks_congr _ h]

/-- Arming a task succeeds exactly when its outputs can be read. -/
theorem armTask_succeeds_iff (key : TaskKey) (outputs : Json) (w : World) :
    (∃ events, ((armTask key outputs).perform w).1 = .ok events) ↔ Readable outputs := by
  cases hp : Pending.ofJson outputs with
  | ok p =>
    obtain ⟨j, h⟩ := perform_armTask_ok hp key w
    exact ⟨fun _ => ⟨p, hp⟩, fun _ => ⟨p.trackedEvents, by rw [h]⟩⟩
  | error f =>
    rw [perform_armTask_error hp]
    constructor
    · rintro ⟨events, h⟩
      cases h
    · rintro ⟨p, h⟩
      rw [hp] at h
      cases h

/-- Arming a task with outputs that cannot be read changes nothing at all. -/
theorem run_unreadable {outputs : Json} (h : ¬ Readable outputs) (key : TaskKey)
    (earlier later : List Request) (w : World) :
    run b (earlier ++ .arm key outputs :: later) w = run b (earlier ++ later) w := by
  have hrest : Request.perform b (run b earlier w) (.arm key outputs) = run b earlier w := by
    cases hp : Pending.ofJson outputs with
    | ok p => exact absurd ⟨p, hp⟩ h
    | error f => rw [Request.perform, perform_armTask_error hp]
  have hcons : ∀ v, run b (.arm key outputs :: later) v
      = run b later (Request.perform b v (.arm key outputs)) := fun _ => rfl
  rw [run_append, run_append, hcons, hrest]

/-! ### The main result -/

/-- A tracker with nothing armed, whose boundary does not call back, shows after any requests what
their history says. In particular, of notifications that follow one another only the set of events
counts, and arming that fails changes nothing. -/
theorem tracker_after_requests (hb : b.Quiet) {w : World} (hw : w.tracker = Tracker.empty)
    (requests : List Request) :
    (run b requests w).tracker.Reflects requests ∧
      (∀ earlier later (events events' : List String), (∀ e, e ∈ events ↔ e ∈ events') →
        requests = earlier ++ events.map .notify ++ later →
        (run b requests w).tracker
          = (run b (earlier ++ events'.map .notify ++ later) w).tracker) ∧
      (∀ key outputs v, (∃ events, ((armTask key outputs).perform v).1 = .ok events) ↔
        Readable outputs) ∧
      (∀ earlier later key outputs, ¬ Readable outputs →
        requests = earlier ++ .arm key outputs :: later →
        run b requests w = run b (earlier ++ later) w) := by
  refine ⟨?reflects, ?notifications, armTask_succeeds_iff, ?unreadable⟩
  case reflects =>
    exact
      { armed := mem_armedPairs_run hb hw requests
        source := fun _ => exists_armedWith
        outputs := fun _ _ _ => state?_run_armedWith hb w
        once := (run b requests w).tracker.distinct
        position := fun _ => existsUnique_armedAt
        order := pairwise_armedPairs_run hb hw requests }
  case notifications =>
    rintro earlier later events events' h rfl
    exact tracker_run_notifications hb w h earlier later
  case unreadable =>
    rintro earlier later key outputs h rfl
    exact run_unreadable h key earlier later w

/-- Two tasks are armed, the first one again, which keeps its place; arming the second one with a
number fails; once disarmed and armed again, the first one goes to the end. -/
theorem tracker_after_rearming :
    let outputs := Json.obj [("done", .obj [("events", .arr [.str "e"])])]
    let requests : List Request :=
      [.arm ("l", "s") outputs, .arm ("l", "t") outputs, .notify "e", .arm ("l", "s") outputs,
        .arm ("l", "t") (.int 3), .disarm ("l", "s"), .arm ("l", "s") outputs]
    let w := World.fresh Host.bare .empty
    Boundary.logging.Quiet ∧ w.tracker = Tracker.empty ∧
      (run Boundary.logging requests w).tracker.armedPairs = [("l", "t"), ("l", "s")] ∧
      (run Boundary.logging requests w).tracker.Reflects requests :=
  ⟨Boundary.quiet_logging, rfl, by decide, (tracker_after_requests Boundary.quiet_logging rfl _).1⟩

end Tutor.Tracker
