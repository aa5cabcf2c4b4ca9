import Tutor.Proofs.Service.Frames

namespace Tutor.Service

/-!
# Sessions

Operations of the service that follow one another, some of which fail, and what they do to its
tracker.

* `Operation`, `finish` — the operations of a service, and the world after a list of them;
* `Moment`, `history` — an operation with the world it is carried out in, and all moments of a
  session;
* `Moment.Describes`, `Moment.Leaves` — at this moment a task starts or stops to wait for its
  events;
* `Moment.change`, `tracker_finish` — every operation is one change of the tracker, so that a
  session is a list of changes.
-/

open Act (Keeps Ends)

/-! ### Operations -/

/-- What a client can ask the service for, or a change around the service. -/
inductive Operation
  | describe (key : TaskKey)
  | attempt (key : TaskKey) (input : String)
  | notify (event : String)
  | reload
  | registerClue (kind content : String)
  | setBackground (uri : String)
  | unlockedLessons (client : String)
  | knownLessons (client : String)
  /-- Something changes files, programs, variables or chance. -/
  | outside (change : Host → Host)

/-- The world after an operation, also after one that fails. -/
def Operation.after (b : Boundary) (w : World) : Operation → World
  | .describe key => ((Service.describe b key).perform w).2
  | .attempt key input => ((Service.attempt key input).perform w).2
  | .notify event => ((Service.notify b event).perform w).2
  | .reload => (Catalog.reload.perform w).2
  | .registerClue kind content => ((Service.registerClue kind content).perform w).2
  | .setBackground uri => ((Service.setBackground uri).perform w).2
  | .unlockedLessons client => ((Service.unlockedLessons client).perform w).2
  | .knownLessons client => ((Service.knownLessons client).perform w).2
  | .outside change => { w with host := change w.host }

/-- The world after some operations. -/
def finish (b : Boundary) (operations : List Operation) (w : World) : World :=
  operations.foldl (Operation.after b) w

/-- An operation, and the world it is carried out in. -/
structure Moment where
  operation : Operation
  world : World

/-- The moments of a session. -/
def history (b : Boundary) : List Operation → World → List Moment
  | [], _ => []
  | o :: rest, w => ⟨o, w⟩ :: history b rest (o.after b w)

/-- The moments of a session in two parts. -/
theorem history_append (b : Boundary) (first others : List Operation) (w : World) :
    history b (first ++ others) w = history b first w ++ history b others (finish b first w) := by
  induction first generalizing w with
  | nil => rfl
  | cons o rest ih => rw [List.cons_append, history, ih, history, List.cons_append]; rfl

namespace Moment

/-- The task is described, with success, while its input is events with these settings. -/
def Describes (b : Boundary) (m : Moment) (key : TaskKey) (settings : Table String Json) : Prop :=
  m.operation = .describe key ∧
    (∃ answer, ((Service.describe b key).perform m.world).1 = .ok answer) ∧
    ∃ t, m.world.catalog.task? key.1 key.2 = some t ∧ t.input.kind = eventsKind ∧
      t.input.settings = settings

/-- An attempt at the task leads to another task. -/
def Leaves (m : Moment) (key : TaskKey) : Prop :=
  ∃ input responses next, m.operation = .attempt key input ∧
    ((Service.attempt key input).perform m.world).1 = .ok (responses, next) ∧ next ≠ key.2

/-- The event that is passed on. -/
def event? (m : Moment) : Option String :=
  match m.operation with
  | .notify event => some event
  | _ => none

/-- What the moment changes in the tracker. -/
def change (m : Moment) : Tracker.Change :=
  match m.operation with
  | .describe key =>
    match m.world.catalog.task? key.1 key.2 with
    | some t =>
      if t.input.kind = eventsKind then
        match Pending.ofJson (.obj t.input.settings) with
        | .ok p => .arm key p
        | .error _ => .rest
      else .rest
    | none => .rest
  | .attempt key input =>
    match ((Service.attempt key input).perform m.world).1 with
    | .ok (_, next) => if next = key.2 then .rest else .disarm key
    | .error _ => .rest
  | .notify event => .mark event
  | _ => .rest

end Moment

/-! ### Describing a task -/

variable {b : Boundary} {key : TaskKey} {w : World} {t : Task}

/-- Describing a task that is not there fails. -/
theorem perform_describe_missing (b : Boundary) (h : w.catalog.task? key.1 key.2 = none) :
    ∃ f w', (describe b key).perform w = (.error f, w') ∧ w'.service = w.service := by
  obtain ⟨j, htask⟩ := Catalog.perform_task_missing h
  refine ⟨.fault (.taskNotFound key.1 key.2), { w with journal := j }, ?_, rfl⟩
  unfold describe
  rw [Act.perform_bind_error htask]

/-- Describing a task whose input is not events changes nothing. -/
theorem perform_describe_plain (b : Boundary) (h : w.catalog.task? key.1 key.2 = some t)
    (hkind : t.input.kind ≠ eventsKind) :
    ∃ answer w', (describe b key).perform w = (.ok answer, w') ∧ w'.service = w.service := by
  obtain ⟨j, htask⟩ := Catalog.perform_task_found h
  have hk : ¬ (t.input.kind == eventsKind) = true := by
    rw [beq_iff_eq]
    exact hkind
  refine ⟨(t.prompt, t.input.toJson.write), { w with journal := j }, ?_, rfl⟩
  unfold describe
  rw [Act.perform_bind_ok htask]
  simp only [if_neg hk]
  rfl

/-- Describing a task whose outputs cannot be read fails. -/
theorem perform_describe_unreadable (b : Boundary) (h : w.catalog.task? key.1 key.2 = some t)
    (hkind : t.input.kind = eventsKind) {f : Fault}
    (hp : Pending.ofJson (.obj t.input.settings) = .error f) :
    ∃ w', (describe b key).perform w = (.error (.fault f), w') ∧ w'.service = w.service := by
  obtain ⟨j, htask⟩ := Catalog.perform_task_found h
  refine ⟨{ w with journal := j }, ?_, rfl⟩
  unfold describe
  rw [Act.perform_bind_ok htask]
  simp only [if_pos (beq_iff_eq.mpr hkind)]
  rw [Act.perform_bind_error (Tracker.perform_armTask_error hp key _)]

/-- Describing a task whose input is events arms it. -/
theorem perform_describe_events (hb : b.Quiet) (h : w.catalog.task? key.1 key.2 = some t)
    (hkind : t.input.kind = eventsKind) {p : Pending}
    (hp : Pending.ofJson (.obj t.input.settings) = .ok p) :
    ∃ answer w', (describe b key).perform w = (.ok answer, w') ∧
      w'.service = (w.catalog, w.connection, w.tracker.arm key p) := by
  obtain ⟨j, htask⟩ := Catalog.perform_task_found h
  obtain ⟨j', harm⟩ := Tracker.perform_armTask_ok hp key { w with journal := j }
  let armed : World := { w with tracker := w.tracker.arm key p, journal := j' }
  have hannounce : (b.announce p.trackedEvents).perform armed
      = (.ok (), ((b.announce p.trackedEvents).perform armed).2) :=
    Prod.ext (hb.announce_returns _ _) rfl
  refine ⟨(t.prompt, t.input.toJson.write), _, ?_, hb.announce_keeps p.trackedEvents armed⟩
  unfold describe
  rw [Act.perform_bind_ok htask]
  simp only [if_pos (beq_iff_eq.mpr hkind)]
  rw [Act.perform_bind_ok harm, Act.perform_bind_ok hannounce]
  rfl

/-! ### Attempts -/

/-- The tracker once an attempt at a task has ended: the task is disarmed if another one follows. -/
def trackerAfter (key : TaskKey) (before : Tracker) : Except Failure (String × String) → Tracker
  | .ok (_, next) => if next = key.2 then before else before.disarm key
  | .error _ => before

/-- Applying the effect of a result disarms the task if it leads to another one. -/
theorem conclude_ends (key : TaskKey) (t : Task) (result : Progress) :
    Ends World.tracker (fun before r after => after = trackerAfter key before r)
      (conclude key t result) := by
  -- everything but the last step keeps the tracker, also where it fails
  have hfail : ∀ (before : Tracker) (e : Failure), before = trackerAfter key before (.error e) :=
    fun _ _ => rfl
  unfold conclude
  refine Keeps.bind_ends (Settings.keeps_getStrings _ _) hfail fun unlocked => ?_
  refine Keeps.bind_ends (Settings.keeps_getStrings _ _) hfail fun known => ?_
  refine Keeps.bind_ends ((keeps_resolveEffect _ _ _ _ _ _).map World.tracker) hfail
    fun outcome => ?_
  refine Keeps.bind_ends ((keeps_storeChanged _ _ _).map (·.2)) hfail fun _ => ?_
  refine Keeps.bind_ends ((keeps_storeChanged _ _ _).map (·.2)) hfail fun _ => ?_
  intro w
  by_cases hnext : outcome.moveTo = key.2
  · simp [hnext, trackerAfter]
  · obtain ⟨j, hdisarm⟩ := Tracker.perform_disarmTask key w
    have hne : (outcome.moveTo != key.2) = true := by simpa using hnext
    simp only [if_pos hne]
    rw [Act.perform_bind_ok hdisarm]
    simp [hnext, trackerAfter]

/-- An attempt disarms its task if it leads to another one, and changes nothing else in the tracker.
-/
theorem attempt_ends (key : TaskKey) (input : String) :
    Ends World.tracker (fun before r after => after = trackerAfter key before r)
      (attempt key input) := by
  unfold attempt evaluate
  refine Keeps.bind_ends ((Catalog.keeps_task key).map World.tracker) (fun _ _ => rfl) fun t => ?_
  refine Keeps.bind_ends ?_ (fun _ _ => rfl) fun result => conclude_ends key t result
  refine Keeps.bind ((keeps_compilePipeline key t.mapper).map World.tracker) fun steps => ?_
  exact (keeps_runPipeline key steps input).map World.tracker

/-- An attempt leaves the lessons alone. -/
theorem keeps_attempt (key : TaskKey) (input : String) : Keeps World.catalog (attempt key input) := by
  have hleave : ∀ next (answer : String × String), Keeps World.catalog (do
      if next != key.2 then
        let _ ← Tracker.disarmTask key
      return answer) := by
    refine fun next answer => Keeps.ite (Keeps.bind (fun w => ?_) fun _ => Keeps.pure _)
      (Keeps.pure _)
    obtain ⟨j, hdisarm⟩ := Tracker.perform_disarmTask key w
    rw [hdisarm]
  unfold attempt evaluate conclude
  refine ((Catalog.keeps_task key).map World.catalog).bind fun t => ?_
  refine Keeps.bind ?_ fun result => ?_
  · refine ((keeps_compilePipeline key t.mapper).map World.catalog).bind fun steps => ?_
    exact (keeps_runPipeline key steps input).map World.catalog
  · refine (Settings.keeps_getStrings _ _).bind fun unlocked => ?_
    refine (Settings.keeps_getStrings _ _).bind fun known => ?_
    refine ((keeps_resolveEffect _ _ _ _ _ _).map World.catalog).bind fun outcome => ?_
    refine ((keeps_storeChanged _ _ _).map (·.1)).bind fun _ => ?_
    refine ((keeps_storeChanged _ _ _).map (·.1)).bind fun _ => ?_
    exact hleave _ _

/-! ### Lists -/

/-- Looking names up changes nothing that is settled. -/
theorem keeps_lookupAll (names : List String) : Keeps World.settled (lookupAll names) := by
  induction names with
  | nil => exact Keeps.pure _
  | cons name rest ih =>
    rw [lookupAll]
    exact (Catalog.keeps_lookup name).bind fun l => ih.bind fun _ => Keeps.pure _

/-- Listing lessons changes nothing that is settled. -/
theorem keeps_summaries (names : List String) (client : String) :
    Keeps World.settled (summaries names client) := by
  unfold summaries
  exact (keeps_lookupAll names).bind fun _ => Keeps.pure _

/-- Listing the unlocked lessons changes nothing that is settled. -/
theorem keeps_unlockedLessons (client : String) :
    Keeps World.settled (unlockedLessons client) := by
  unfold unlockedLessons
  exact (Settings.keeps_getStrings _ _).bind fun stored => keeps_summaries _ client

/-- Listing the completed lessons changes nothing that is settled. -/
theorem keeps_knownLessons (client : String) : Keeps World.settled (knownLessons client) := by
  unfold knownLessons
  exact (Settings.keeps_getStrings _ _).bind fun stored => keeps_summaries stored client

/-! ### Changes of the tracker -/

namespace Moment

/-- A task that is described is armed with the outputs of its settings. -/
theorem Describes.change {m : Moment} {settings : Table String Json}
    (h : m.Describes b key settings) :
    ∃ p, Pending.ofJson (.obj settings) = .ok p ∧ m.change = .arm key p := by
  obtain ⟨ho, ⟨answer, hanswer⟩, t, ht, hkind, rfl⟩ := h
  cases hp : Pending.ofJson (.obj t.input.settings) with
  | ok p =>
    refine ⟨p, rfl, ?_⟩
    simp only [Moment.change, ho, ht, hkind, if_true, hp]
  | error f =>
    obtain ⟨w', hfail, -⟩ := perform_describe_unreadable b ht hkind hp
    rw [hfail] at hanswer
    cases hanswer

/-- A task is armed when it is described. -/
theorem describes_of_change (hb : b.Quiet) {m : Moment} {p : Pending}
    (h : m.change = .arm key p) :
    ∃ settings, m.Describes b key settings ∧ Pending.ofJson (.obj settings) = .ok p := by
  unfold Moment.change at h
  split at h
  · rename_i k ho
    split at h
    · rename_i t ht
      split at h
      · rename_i hkind
        split at h
        · rename_i q hp
          rw [Tracker.Change.arm.injEq] at h
          obtain ⟨rfl, rfl⟩ := h
          obtain ⟨answer, w', hdescribe, -⟩ := perform_describe_events hb ht hkind hp
          exact ⟨t.input.settings, ⟨ho, ⟨answer, by rw [hdescribe]⟩, t, ht, hkind, rfl⟩, hp⟩
        · cases h
      · cases h
    · cases h
  · split at h
    · split at h <;> cases h
    · cases h
  · cases h
  · cases h

/-- A task is disarmed exactly when an attempt leads away from it. -/
theorem change_eq_disarm (m : Moment) (key : TaskKey) :
    m.change = .disarm key ↔ m.Leaves key := by
  constructor
  · -- of the four kinds of changes, only an attempt makes this one
    intro h
    unfold Moment.change at h
    split at h
    · split at h
      · split at h
        · split at h <;> cases h
        · cases h
      · cases h
    · rename_i k input ho
      split at h
      · rename_i responses next hr
        split at h
        · cases h
        · rename_i hne
          rw [Tracker.Change.disarm.injEq] at h
          subst h
          exact ⟨input, responses, next, ho, hr, hne⟩
      · cases h
    · cases h
    · cases h
  · rintro ⟨input, responses, next, ho, hr, hne⟩
    simp only [Moment.change, ho, hr, if_neg hne]

/-- The moment arms or disarms a task exactly when it describes it or leads away from it. -/
theorem touches_change (hb : b.Quiet) (m : Moment) (key : TaskKey) :
    m.change.Touches key ↔ (∃ settings, m.Describes b key settings) ∨ m.Leaves key := by
  constructor
  · intro h
    cases hc : m.change with
    | arm k p =>
      rw [hc] at h
      have hk : k = key := h
      obtain ⟨settings, hd, -⟩ := describes_of_change hb (hk ▸ hc)
      exact .inl ⟨settings, hd⟩
    | disarm k =>
      rw [hc] at h
      have hk : k = key := h
      exact .inr ((m.change_eq_disarm key).mp (hk ▸ hc))
    | mark event => rw [hc] at h; exact h.elim
    | rest => rw [hc] at h; exact h.elim
  · rintro (⟨settings, hd⟩ | hl)
    · obtain ⟨p, -, hc⟩ := hd.change
      rw [hc]
      rfl
    · rw [(m.change_eq_disarm key).mpr hl]
      rfl

/-- The event that a moment records is the one that is passed on. -/
theorem event?_change (m : Moment) : m.change.event? = m.event? := by
  unfold Moment.change Moment.event?
  cases m.operation with
  | describe k =>
    dsimp only
    split
    · split
      · split <;> rfl
      · rfl
    · rfl
  | attempt k input =>
    dsimp only
    split
    · split <;> rfl
    · rfl
  | _ => rfl

end Moment

/-- Describing makes the change of its moment: a task that waits for events is armed. -/
theorem tracker_after_describe (hb : b.Quiet) (key : TaskKey) (w : World) :
    ((Operation.describe key).after b w).tracker
      = w.tracker.apply (Moment.change ⟨.describe key, w⟩) := by
  -- a boundary that does not call back keeps the tracker while it is told of the task
  unfold Operation.after Moment.change
  cases ht : w.catalog.task? key.1 key.2 with
  | none =>
    obtain ⟨f, w', h, hk⟩ := perform_describe_missing b ht
    simp only [ht, h, Tracker.apply]
    exact congrArg (·.2.2) hk
  | some t =>
    by_cases hkind : t.input.kind = eventsKind
    · cases hp : Pending.ofJson (.obj t.input.settings) with
      | ok p =>
        obtain ⟨answer, w', h, hk⟩ := perform_describe_events hb ht hkind hp
        simp only [ht, h, hkind, if_true, hp, Tracker.apply]
        exact congrArg (·.2.2) hk
      | error f =>
        obtain ⟨w', h, hk⟩ := perform_describe_unreadable b ht hkind hp
        simp only [ht, h, hkind, if_true, hp, Tracker.apply]
        exact congrArg (·.2.2) hk
    · obtain ⟨answer, w', h, hk⟩ := perform_describe_plain b ht hkind
      simp only [ht, h, hkind, if_false, Tracker.apply]
      exact congrArg (·.2.2) hk

/-- An attempt makes the change of its moment: a task that is left is disarmed. -/
theorem tracker_after_attempt (b : Boundary) (key : TaskKey) (input : String) (w : World) :
    ((Operation.attempt key input).after b w).tracker
      = w.tracker.apply (Moment.change ⟨.attempt key input, w⟩) := by
  have h : ((attempt key input).perform w).2.tracker
      = trackerAfter key w.tracker ((attempt key input).perform w).1 := attempt_ends key input w
  have hafter : ((Operation.attempt key input).after b w).tracker
      = ((attempt key input).perform w).2.tracker := rfl
  have hchange : Moment.change ⟨.attempt key input, w⟩ =
      match ((attempt key input).perform w).1 with
      | .ok (_, next) => if next = key.2 then .rest else .disarm key
      | .error _ => .rest := rfl
  rw [hafter, h, hchange]
  cases ((attempt key input).perform w).1 with
  | error e => rfl
  | ok answer =>
    obtain ⟨responses, next⟩ := answer
    by_cases hnext : next = key.2
    · simp only [trackerAfter, hnext, if_true, Tracker.apply]
    · simp only [trackerAfter, hnext, if_false, Tracker.apply]

/-- An operation makes the change of its moment. -/
theorem tracker_after (hb : b.Quiet) (o : Operation) (w : World) :
    (o.after b w).tracker = w.tracker.apply (Moment.change ⟨o, w⟩) := by
  cases o with
  | describe key => exact tracker_after_describe hb key w
  | attempt key input => exact tracker_after_attempt b key input w
  | notify event =>
    obtain ⟨signalled, w', h, hk⟩ := Tracker.perform_notify_quiet hb event w
    have hnotify : (notify b event).perform w = (.ok (), w') := by
      unfold notify
      rw [Act.perform_bind_ok h]
      rfl
    rw [Operation.after, hnotify]
    exact congrArg (·.2.2) hk
  | reload => exact Catalog.keeps_reload.map World.tracker w
  | registerClue kind content => exact congrArg (·.2) (keeps_registerClue kind content w)
  | setBackground uri => exact (keeps_setBackground uri).map World.tracker w
  | unlockedLessons client => exact (keeps_unlockedLessons client).map World.tracker w
  | knownLessons client => exact (keeps_knownLessons client).map World.tracker w
  | outside change => rfl

/-- The changes of a session are those of its moments. -/
theorem tracker_finish (hb : b.Quiet) (operations : List Operation) (w : World) :
    (finish b operations w).tracker
      = w.tracker.after ((history b operations w).map Moment.change) := by
  induction operations generalizing w with
  | nil => rfl
  | cons o rest ih =>
    have hfinish : finish b (o :: rest) w = finish b rest (o.after b w) := rfl
    rw [hfinish, ih, tracker_after hb, history, List.map_cons, Tracker.after_cons]

end Tutor.Service
