import Tutor.Proofs.Events.Waiting

namespace Tutor.Tracker

/-!
# Signals that call back

While an event is recorded for one task after the other, the boundary is signalled, and whoever
hears the signal may arm, disarm and notify as they like before the next task has its turn.

* `Signal`, `signals` — the signals that one call of `notify` makes, with the worlds around each;
* `Due` — what holds at the moment of a signal;
* `Steady` — between the signals of a call the same tasks stay armed;
* `notify_signals` — what a call returns is what it has signalled, whatever the boundary does.
-/

/-- A signal for a task: the world in which it is made, and the one in which it has returned. -/
structure Signal where
  key : TaskKey
  before : World
  after : World

/-- The signals made while an event is recorded for some tasks one after the other. -/
def signals (b : Boundary) (event : String) : List TaskKey → World → List Signal
  | [], _ => []
  | key :: rest, w =>
    match (markTask event key).perform w with
    | (.ok true, before) =>
      let after := ((b.signal key).perform before).2
      ⟨key, before, after⟩ :: signals b event rest after
    | (_, w') => signals b event rest w'

/-- The task is armed, the event has fired in each of its outputs that waits for it, and the output
that wins asks for a signal. -/
structure Due (t : Tracker) (event : String) (key : TaskKey) : Prop where
  armed : key ∈ t.armedPairs
  fired : ∀ p name o, t.state? key = some p → p.outputs.get? name = some o →
    event ∈ o.events.keys → o.events.get? event = some true
  winner : ∃ name output, t.resolve key = .ok (name, output) ∧ output.notify = true

/-- From one world to another with some signals on the way, the armed tasks stay the same but for
what happens during the signals. -/
def Steady : World → List Signal → World → Prop
  | w, [], w' => w'.tracker.armedPairs = w.tracker.armedPairs
  | w, s :: rest, w' =>
    s.before.tracker.armedPairs = w.tracker.armedPairs ∧ Steady s.after rest w'

/-! ### One task -/

/-- A task that asks for a signal is due once the event is recorded for it. -/
theorem due_of_asks {t : Tracker} {event : String} {key : TaskKey} (h : t.asks event key = true) :
    Due (t.mark key event) event key := by
  rw [asks, Bool.and_eq_true] at h
  refine ⟨?_, ?_, ?_⟩
  · rw [armedPairs_mark, ← isArmed_iff]
    exact h.1
  · intro q name o hq ho he
    rw [state?_mark, if_pos rfl, Option.map_eq_some_iff] at hq
    obtain ⟨p, -, rfl⟩ := hq
    exact p.fired_mark ho he
  · cases hr : (t.mark key event).resolve key with
    | ok r =>
      rw [hr] at h
      exact ⟨r.1, r.2, rfl, h.2⟩
    | error f =>
      rw [hr] at h
      cases h.2

/-- With a first task that asks for a signal, this is the first signal. -/
theorem signals_cons_asking {b : Boundary} {event : String} {key : TaskKey} {w before : World}
    (h : (markTask event key).perform w = (.ok true, before)) (rest : List TaskKey) :
    signals b event (key :: rest) w =
      ⟨key, before, ((b.signal key).perform before).2⟩
        :: signals b event rest ((b.signal key).perform before).2 := by
  rw [signals, h]

/-- With a first task that does not ask for a signal, the signals are those of the others. -/
theorem signals_cons_silent {b : Boundary} {event : String} {key : TaskKey} {w w' : World}
    (h : (markTask event key).perform w = (.ok false, w')) (rest : List TaskKey) :
    signals b event (key :: rest) w = signals b event rest w' := by
  rw [signals, h]

/-- A task asks for a signal and is then due, or it does not; in either case the armed tasks stay
the same. -/
theorem markTask_cases (event : String) (key : TaskKey) (w : World) :
    ∃ asking w', (markTask event key).perform w = (.ok asking, w') ∧
      w'.tracker.armedPairs = w.tracker.armedPairs ∧
        (asking = true → Due w'.tracker event key) := by
  obtain ⟨j, h⟩ := perform_markTask event key w
  exact ⟨_, _, h, armedPairs_mark w.tracker key event, due_of_asks⟩

/-! ### All tasks -/

/-- If every signal returns, the tasks that are returned are those that were signalled, and between
the signals the armed tasks stay the same. -/
theorem notifyAll_signals (b : Boundary) (event : String) (keys : List TaskKey) (w : World)
    (h : ∀ s ∈ signals b event keys w, ((b.signal s.key).perform s.before).1 = .ok ()) :
    ∃ w', (notifyAll b event keys).perform w
        = (.ok ((signals b event keys w).map (·.key)), w') ∧
      Steady w (signals b event keys w) w' := by
  induction keys generalizing w with
  | nil => exact ⟨w, rfl, rfl⟩
  | cons key rest ih =>
    obtain ⟨asking, before, hmark, hpairs, -⟩ := markTask_cases event key w
    cases asking with
    | false =>
      rw [signals_cons_silent hmark] at h ⊢
      obtain ⟨w', hrest, hsteady⟩ := ih before h
      refine ⟨w', perform_notifyAll_cons (perform_notifyTask_silent hmark) hrest, ?_⟩
      -- the first task has armed and disarmed nothing, so what follows may as well begin before it
      cases hs : signals b event rest before with
      | nil =>
        rw [hs] at hsteady
        exact hsteady.trans hpairs
      | cons s others =>
        rw [hs] at hsteady
        exact ⟨hsteady.1.trans hpairs, hsteady.2⟩
    | true =>
      rw [signals_cons_asking hmark] at h ⊢
      have hsignal : (b.signal key).perform before
          = (.ok (), ((b.signal key).perform before).2) :=
        Prod.ext (h _ List.mem_cons_self) rfl
      obtain ⟨w', hrest, hsteady⟩ := ih _ fun s hs => h s (List.mem_cons_of_mem _ hs)
      exact ⟨w', perform_notifyAll_cons (perform_notifyTask_signal hmark hsignal) hrest, hpairs,
        hsteady⟩

/-- Signals are made for the tasks in their order, for each at most once. -/
theorem keys_signals_sublist (b : Boundary) (event : String) (keys : List TaskKey) (w : World) :
    ((signals b event keys w).map (·.key)).Sublist keys := by
  induction keys generalizing w with
  | nil => exact List.Sublist.slnil
  | cons key rest ih =>
    obtain ⟨asking, before, hmark, -⟩ := markTask_cases event key w
    cases asking with
    | false =>
      rw [signals_cons_silent hmark]
      exact (ih before).cons key
    | true =>
      rw [signals_cons_asking hmark, List.map_cons]
      exact (ih _).cons_cons key

/-- At the moment of a signal its task is due, and what comes after it is what the boundary leaves.
-/
theorem due_of_mem_signals {b : Boundary} {event : String} {keys : List TaskKey} {w : World}
    {s : Signal} (h : s ∈ signals b event keys w) :
    Due s.before.tracker event s.key ∧ s.after = ((b.signal s.key).perform s.before).2 := by
  induction keys generalizing w with
  | nil => cases h
  | cons key rest ih =>
    obtain ⟨asking, before, hmark, -, hdue⟩ := markTask_cases event key w
    cases asking with
    | false =>
      rw [signals_cons_silent hmark] at h
      exact ih h
    | true =>
      rw [signals_cons_asking hmark] at h
      rcases List.mem_cons.mp h with rfl | h
      · exact ⟨hdue rfl, rfl⟩
      · exact ih h

/-- A task that is not armed, and that no signal arms, is not signalled and not armed in the end. -/
theorem Steady.not_signalled {w w' : World} {sent : List Signal} (h : Steady w sent w')
    (hdue : ∀ s ∈ sent, s.key ∈ s.before.tracker.armedPairs) {key : TaskKey}
    (hkey : key ∉ w.tracker.armedPairs)
    (hno : ∀ s ∈ sent, key ∉ s.before.tracker.armedPairs → key ∉ s.after.tracker.armedPairs) :
    (∀ s ∈ sent, s.key ≠ key) ∧ key ∉ w'.tracker.armedPairs := by
  induction sent generalizing w with
  | nil =>
    refine ⟨fun s hs => absurd hs List.not_mem_nil, ?_⟩
    have hpairs : w'.tracker.armedPairs = w.tracker.armedPairs := h
    rw [hpairs]
    exact hkey
  | cons s rest ih =>
    obtain ⟨hpairs, hrest⟩ := h
    have hbefore : key ∉ s.before.tracker.armedPairs := hpairs ▸ hkey
    obtain ⟨hlater, hend⟩ := ih hrest (fun t ht => hdue t (List.mem_cons_of_mem _ ht))
      (hno s List.mem_cons_self hbefore) fun t ht => hno t (List.mem_cons_of_mem _ ht)
    refine ⟨fun t ht => ?_, hend⟩
    rcases List.mem_cons.mp ht with rfl | ht
    · rintro rfl
      exact hbefore (hdue t List.mem_cons_self)
    · exact hlater t ht

/-- What is steady with signals on the way is steady after any of them. -/
theorem Steady.after {w w' : World} {earlier later : List Signal} {s : Signal}
    (h : Steady w (earlier ++ s :: later) w') : Steady s.after later w' := by
  induction earlier generalizing w with
  | nil => exact h.2
  | cons t rest ih => exact ih h.2

/-! ### The main result -/

/-- Whatever the boundary does when it is signalled, as long as it returns: a call of `notify`
returns the tasks it has signalled, which are some of those that were armed when it began, in their
order and each at most once; each of them was due at the moment of its signal; the call itself arms
and disarms nothing; and a task that was disarmed during a signal, and not armed during a later one,
is not signalled any more and is not armed in the end. -/
theorem notify_signals (b : Boundary) (event : String) (w : World)
    (h : ∀ s ∈ signals b event w.tracker.armedPairs w,
      ((b.signal s.key).perform s.before).1 = .ok ()) :
    let sent := signals b event w.tracker.armedPairs w
    ∃ w', (notify b event).perform w = (.ok (sent.map (·.key)), w') ∧
      (sent.map (·.key)).Sublist w.tracker.armedPairs ∧ (sent.map (·.key)).Nodup ∧
      (∀ s ∈ sent, Due s.before.tracker event s.key ∧
        (b.signal s.key).perform s.before = (.ok (), s.after)) ∧
      Steady w sent w' ∧
      ∀ earlier s later key, sent = earlier ++ s :: later →
        key ∉ s.after.tracker.armedPairs →
        (∀ t ∈ later, key ∉ t.before.tracker.armedPairs → key ∉ t.after.tracker.armedPairs) →
        (∀ t ∈ later, t.key ≠ key) ∧ key ∉ w'.tracker.armedPairs := by
  intro sent
  obtain ⟨w', hrun, hsteady⟩ := notifyAll_signals b event w.tracker.armedPairs w h
  have hsub := keys_signals_sublist b event w.tracker.armedPairs w
  refine ⟨w', ?run, hsub, hsub.nodup w.tracker.distinct, ?due, hsteady, ?disarmed⟩
  case run =>
    unfold notify
    rw [Act.perform_bind_ok (Act.perform_get w), hrun]
  case due =>
    intro s hs
    obtain ⟨hdue, hafter⟩ := due_of_mem_signals hs
    exact ⟨hdue, Prod.ext (h s hs) hafter.symm⟩
  case disarmed =>
    -- a signal is due only for a task that is armed, and none of the later ones arms it
    intro earlier s later key hsent hkey hno
    have hlater : ∀ t ∈ later, t ∈ sent := fun t ht => by
      rw [hsent]
      exact List.mem_append_right _ (List.mem_cons_of_mem _ ht)
    have hsplit : Steady w (earlier ++ s :: later) w' := by
      rw [← hsent]
      exact hsteady
    have hdue : ∀ t ∈ later, t.key ∈ t.before.tracker.armedPairs := fun t ht =>
      (due_of_mem_signals (hlater t ht)).1.armed
    exact hsplit.after.not_signalled hdue hkey hno

/-- Three tasks are armed and wait for the same event. Each signal disarms the second task, arms a
fourth one and passes the same event on once more: the first and the third task are signalled. -/
theorem notify_signals_disarming :
    let outputs := Json.obj
      [("done", .obj [("events", .arr [.str "e"]), ("notify", .bool true)])]
    let p : Pending := ⟨[("done", ⟨[("e", false)], [], true⟩)], by decide⟩
    let b : Boundary :=
      { announce := fun _ => pure ()
        signal := fun _ => do
          let _ ← disarmTask ("l", "b")
          let _ ← armTask ("l", "d") outputs
          let _ ← notify Boundary.logging "e" }
    let w := { World.fresh Host.bare .empty with
      tracker := ((Tracker.empty.arm ("l", "a") p).arm ("l", "b") p).arm ("l", "c") p }
    (∀ s ∈ signals b "e" w.tracker.armedPairs w,
      ((b.signal s.key).perform s.before).1 = .ok ()) ∧
      ∃ w', (notify b "e").perform w = (.ok [("l", "a"), ("l", "c")], w') ∧
        w'.tracker.armedPairs = [("l", "a"), ("l", "c"), ("l", "d")] := by
  intro outputs p b w
  -- whatever the world is, the three requests of a signal succeed
  have hreturns : ∀ key v, ((b.signal key).perform v).1 = .ok () := by
    intro key v
    obtain ⟨j, hdisarm⟩ := perform_disarmTask ("l", "b") v
    have hp : Pending.ofJson outputs = .ok p := rfl
    obtain ⟨j', harm⟩ := perform_armTask_ok hp ("l", "d")
      { v with tracker := v.tracker.disarm ("l", "b"), journal := j }
    obtain ⟨signalled, v', hnotify, -⟩ := perform_notify_quiet Boundary.quiet_logging "e"
      { v with tracker := (v.tracker.disarm ("l", "b")).arm ("l", "d") p, journal := j' }
    have hsignal : (b.signal key).perform v = (.ok (), v') := by
      show (disarmTask ("l", "b") >>= fun _ => armTask ("l", "d") outputs >>= fun _ =>
        notify Boundary.logging "e" >>= fun _ => pure ()).perform v = _
      rw [Act.perform_bind_ok hdisarm, Act.perform_bind_ok harm, Act.perform_bind_ok hnotify,
        Act.perform_pure]
    rw [hsignal]
  have h := notify_signals b "e" w fun s _ => hreturns s.key s.before
  obtain ⟨w', hrun, -⟩ := h
  have hend : w' = ((notify b "e").perform w).2 := by rw [hrun]
  have hkeys : (signals b "e" w.tracker.armedPairs w).map (·.key) = [("l", "a"), ("l", "c")] := by
    decide
  have hpairs : ((notify b "e").perform w).2.tracker.armedPairs
      = [("l", "a"), ("l", "c"), ("l", "d")] := by
    decide
  rw [hkeys] at hrun
  refine ⟨fun s _ => hreturns s.key s.before, w', hrun, ?_⟩
  rw [hend]
  exact hpairs

end Tutor.Tracker
