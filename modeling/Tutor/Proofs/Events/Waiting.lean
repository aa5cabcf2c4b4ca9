import Tutor.Events.Waiting
import Tutor.Proofs.Acts
import Tutor.Proofs.Events.Trackers

namespace Tutor

/-!
# Waiting for events, operation by operation

What each operation of `Tutor.Events.Waiting` does to the tracker and how it ends.

* `Boundary.Quiet` — a boundary that returns and does not call back;
* `perform_armTask_ok`, `perform_armTask_error`, `perform_disarmTask`, `perform_resolveTask` — one
  task;
* `perform_markTask` — recording an event for a task, and when the task is to be signalled
  (`Tracker.asks`);
* `perform_notifyTask_silent`, `perform_notifyTask_signal`, `perform_notifyAll_cons` — one event for
  one task after the other, whatever the boundary does;
* `perform_notify_quiet` — under a quiet boundary an event is recorded for all armed tasks and
  nothing else happens to the service.
-/

/-! ### Boundaries that do not call back -/

/-- What the service owns: its lessons, its connection and its tracker. -/
def World.service (w : World) : Catalog × Connection × Tracker :=
  (w.catalog, w.connection, w.tracker)

/-- The boundary returns and does not call back: whatever else it does, the service is as before. -/
structure Boundary.Quiet (b : Boundary) : Prop where
  announce_returns : ∀ events w, ((b.announce events).perform w).1 = .ok ()
  announce_keeps : ∀ events, Act.Keeps World.service (b.announce events)
  signal_returns : ∀ key w, ((b.signal key).perform w).1 = .ok ()
  signal_keeps : ∀ key, Act.Keeps World.service (b.signal key)

/-- The boundary that writes log records does not call back. -/
theorem Boundary.quiet_logging : Boundary.logging.Quiet where
  announce_returns _ _ := rfl
  announce_keeps _ _ := rfl
  signal_returns _ _ := rfl
  signal_keeps _ _ := rfl

/-! ### The world at first -/

/-- A host that has nothing to offer. -/
def Host.bare : Host where
  environment := []
  files := []
  runner _ _ := .finished ⟨0, "", ""⟩
  calls := []
  chance _ := 0
  drawn := 0

/-- The world of a service that has just been made: no settings are open and nothing is armed. -/
def World.fresh (host : Host) (catalog : Catalog) : World where
  host := host
  catalog := catalog
  connection := .closed
  tracker := .empty
  journal := []

namespace Tracker

/-! ### One task -/

/-- Arming a task with outputs that can be read arms it, and returns the events it waits for. -/
theorem perform_armTask_ok {raw : Json} {p : Pending} (h : Pending.ofJson raw = .ok p)
    (key : TaskKey) (w : World) :
    ∃ j, (armTask key raw).perform w
      = (.ok p.trackedEvents, { w with tracker := w.tracker.arm key p, journal := j }) := by
  unfold armTask
  rw [Act.perform_bind_ok (Act.perform_ofFault_ok h w)]
  exact ⟨_, rfl⟩

/-- Arming a task with outputs that cannot be read fails and changes nothing at all. -/
theorem perform_armTask_error {raw : Json} {f : Fault} (h : Pending.ofJson raw = .error f)
    (key : TaskKey) (w : World) : (armTask key raw).perform w = (.error (.fault f), w) := by
  unfold armTask
  rw [Act.perform_bind_error (Act.perform_ofFault_error h w)]

/-- Disarming a task disarms it, and tells whether it was armed. -/
theorem perform_disarmTask (key : TaskKey) (w : World) :
    ∃ j, (disarmTask key).perform w
      = (.ok (w.tracker.isArmed key),
          { w with tracker := w.tracker.disarm key, journal := j }) := by
  unfold disarmTask
  rw [Act.perform_bind_ok (Act.perform_get w)]
  cases ha : w.tracker.isArmed key with
  | true =>
    simp only [ha, if_true]
    exact ⟨_, rfl⟩
  | false =>
    have hd : w.tracker.disarm key = w.tracker := disarm_of_not_armed fun h => by
      rw [← isArmed_iff, ha] at h
      cases h
    simp only [ha, Bool.false_eq_true, if_false, hd]
    exact ⟨w.journal, rfl⟩

/-- Resolving a task only reads the tracker. -/
theorem perform_resolveTask (key : TaskKey) (w : World) :
    (resolveTask key).perform w = ((w.tracker.resolve key).mapError .fault, w) := by
  unfold resolveTask
  rw [Act.perform_bind_ok (Act.perform_get w), Act.perform_ofFault]

/-! ### Events -/

/-- Once the event is recorded for the task, its winning output asks for a signal. -/
def asks (t : Tracker) (event : String) (key : TaskKey) : Bool :=
  t.isArmed key &&
    match (t.mark key event).resolve key with
    | .ok (_, output) => output.notify
    | .error _ => false

/-- Recording an event for a task changes its outputs, and tells whether it asks for a signal. -/
theorem perform_markTask (event : String) (key : TaskKey) (w : World) :
    ∃ j, (markTask event key).perform w
      = (.ok (w.tracker.asks event key),
          { w with tracker := w.tracker.mark key event, journal := j }) := by
  unfold markTask asks
  rw [Act.perform_bind_ok (Act.perform_get w)]
  cases ha : w.tracker.isArmed key with
  | false =>
    have hnone : w.tracker.state? key = none := state?_eq_none fun h => by
      rw [← isArmed_iff, ha] at h
      cases h
    have hmark : w.tracker.mark key event = w.tracker := by
      unfold mark
      rw [hnone]
    refine ⟨w.journal, ?_⟩
    simp only [ha, Bool.not_false, if_true, hmark]
    rfl
  | true =>
    -- the task is resolved after marking; if that fails, it does not ask for a signal
    have hupdate : (update (w.tracker.mark key event)).perform w
        = (.ok (), { w with tracker := w.tracker.mark key event }) := rfl
    simp only [ha, Bool.not_true, Bool.false_eq_true, if_false, Bool.true_and]
    rw [Act.perform_bind_ok hupdate]
    cases hr : (w.tracker.mark key event).resolve key with
    | ok r => exact ⟨_, rfl⟩
    | error f => cases f <;> exact ⟨_, rfl⟩

variable {b : Boundary} {event : String} {key : TaskKey}

/-- A task that does not ask for a signal gets none. -/
theorem perform_notifyTask_silent {w w' : World}
    (h : (markTask event key).perform w = (.ok false, w')) :
    (notifyTask b event key).perform w = (.ok false, w') := by
  unfold notifyTask
  rw [Act.perform_bind_ok h]
  rfl

/-- A task that asks for a signal gets one. -/
theorem perform_notifyTask_signal {w before after : World}
    (h : (markTask event key).perform w = (.ok true, before))
    (hs : (b.signal key).perform before = (.ok (), after)) :
    (notifyTask b event key).perform w = (.ok true, after) := by
  unfold notifyTask
  rw [Act.perform_bind_ok h, if_pos rfl, Act.perform_bind_ok hs]
  rfl

/-- An event is recorded for one task and then for the others. -/
theorem perform_notifyAll_cons {rest others : List TaskKey} {due : Bool} {w w₁ w₂ : World}
    (h₁ : (notifyTask b event key).perform w = (.ok due, w₁))
    (h₂ : (notifyAll b event rest).perform w₁ = (.ok others, w₂)) :
    (notifyAll b event (key :: rest)).perform w
      = (.ok (if due then key :: others else others), w₂) := by
  rw [notifyAll, Act.perform_bind_ok h₁, Act.perform_bind_ok h₂, Act.perform_pure]

/-- A signal of a quiet boundary leaves the service as it is. -/
theorem perform_signal_quiet (hb : b.Quiet) (key : TaskKey) (w : World) :
    ∃ w', (b.signal key).perform w = (.ok (), w') ∧ w'.service = w.service :=
  ⟨((b.signal key).perform w).2, Prod.ext (hb.signal_returns key w) rfl, hb.signal_keeps key w⟩

/-- Under a quiet boundary, recording an event for a task does nothing else to the service. -/
theorem perform_notifyTask_quiet (hb : b.Quiet) (event : String) (key : TaskKey) (w : World) :
    ∃ w', (notifyTask b event key).perform w = (.ok (w.tracker.asks event key), w') ∧
      w'.service = (w.catalog, w.connection, w.tracker.mark key event) := by
  obtain ⟨j, hmark⟩ := perform_markTask event key w
  cases hasks : w.tracker.asks event key with
  | false =>
    rw [hasks] at hmark
    exact ⟨_, perform_notifyTask_silent hmark, rfl⟩
  | true =>
    rw [hasks] at hmark
    obtain ⟨w', hs, hk⟩ := perform_signal_quiet hb key
      { w with tracker := w.tracker.mark key event, journal := j }
    exact ⟨w', perform_notifyTask_signal hmark hs, hk⟩

/-- Under a quiet boundary, recording an event for some tasks does nothing else to the service. -/
theorem perform_notifyAll_quiet (hb : b.Quiet) (event : String) (keys : List TaskKey)
    (w : World) :
    ∃ signalled w', (notifyAll b event keys).perform w = (.ok signalled, w') ∧
      w'.service
        = (w.catalog, w.connection, keys.foldl (fun t key => t.mark key event) w.tracker) := by
  induction keys generalizing w with
  | nil => exact ⟨[], w, rfl, rfl⟩
  | cons key rest ih =>
    obtain ⟨w₁, h₁, hk₁⟩ := perform_notifyTask_quiet hb event key w
    obtain ⟨signalled, w₂, h₂, hk₂⟩ := ih w₁
    simp only [World.service, Prod.mk.injEq] at hk₁
    obtain ⟨hc, hn, ht⟩ := hk₁
    refine ⟨_, w₂, perform_notifyAll_cons h₁ h₂, ?_⟩
    rw [hk₂, hc, hn, ht, List.foldl_cons]

/-- Under a quiet boundary, an event is recorded for all armed tasks, and nothing else happens to
the service. -/
theorem perform_notify_quiet (hb : b.Quiet) (event : String) (w : World) :
    ∃ signalled w', (notify b event).perform w = (.ok signalled, w') ∧
      w'.service = (w.catalog, w.connection, w.tracker.markAll event) := by
  obtain ⟨signalled, w', h, hk⟩ := perform_notifyAll_quiet hb event w.tracker.armedPairs w
  refine ⟨signalled, w', ?_, ?_⟩
  · unfold notify
    rw [Act.perform_bind_ok (Act.perform_get w), h]
  · rw [hk, foldl_mark_armedPairs]

end Tracker

end Tutor
