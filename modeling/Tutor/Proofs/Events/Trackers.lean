import Mathlib.Data.List.Induction
import Tutor.Events.Tracker
import Tutor.Proofs.Events.Outputs

namespace Tutor.Tracker

/-!
# Trackers and their changes

A tracker is seen through the list of its armed tasks and the outputs of each; `ext_state?` says
that nothing else counts. Its operations are described by what they do to the two, and a history of
the tracker is a list of changes.

* `state?_arm`, `state?_disarm`, `state?_mark`, `state?_markAll` and their `armedPairs` companions —
  the operations, seen from outside;
* `Change`, `after` — one change of the tracker, and the tracker after a list of them;
* `state?_after_arm` — between two changes of its own, a task has the outputs it was armed with and
  the events that were recorded since;
* `exists_arm_of_state?` — a task that has outputs was armed at some change;
* `after_marks_congr` — of events recorded one after the other only the set counts.
-/

/-! ### The view of a tracker -/

/-- A task is armed exactly when it is listed. -/
theorem isArmed_iff (t : Tracker) (key : TaskKey) : t.isArmed key = true ↔ key ∈ t.armedPairs :=
  Table.has_iff_mem_keys t.pending key

/-- A task has outputs exactly when it is listed. -/
theorem isSome_state? (t : Tracker) (key : TaskKey) :
    (t.state? key).isSome = true ↔ key ∈ t.armedPairs :=
  Table.isSome_get? t.pending key

/-- A task that is not listed has no outputs. -/
theorem state?_eq_none {t : Tracker} {key : TaskKey} (h : key ∉ t.armedPairs) :
    t.state? key = none :=
  Table.get?_eq_none h

/-- Trackers that list the same tasks in the same order with the same outputs are equal. -/
theorem ext_state? {t u : Tracker} (hp : t.armedPairs = u.armedPairs)
    (hs : ∀ key, t.state? key = u.state? key) : t = u := by
  have h : t.pending = u.pending := Table.ext_get? t.distinct hp hs
  cases t
  cases u
  cases h
  rfl

@[simp] theorem armedPairs_empty : Tracker.empty.armedPairs = [] := rfl

/-! ### Operations -/

/-- Arming a task gives it its outputs and leaves all others alone. -/
theorem state?_arm (t : Tracker) (key : TaskKey) (p : Pending) (k : TaskKey) :
    (t.arm key p).state? k = if key = k then some p else t.state? k :=
  Table.get?_put t.pending key p k

/-- A task that is armed again keeps its place, a new one goes to the end. -/
theorem armedPairs_arm (t : Tracker) (key : TaskKey) (p : Pending) :
    (t.arm key p).armedPairs =
      if key ∈ t.armedPairs then t.armedPairs else t.armedPairs ++ [key] :=
  Table.keys_put t.pending key p

/-- Disarming a task takes its outputs away and leaves all others alone. -/
theorem state?_disarm (t : Tracker) (key k : TaskKey) :
    (t.disarm key).state? k = if key = k then none else t.state? k :=
  Table.get?_erase t.pending key k

/-- Disarming a task takes it off the list. -/
theorem armedPairs_disarm (t : Tracker) (key : TaskKey) :
    (t.disarm key).armedPairs = t.armedPairs.filter fun k => !(k == key) :=
  Table.keys_erase t.pending key

/-- Disarming a task that is not armed changes nothing. -/
theorem disarm_of_not_armed {t : Tracker} {key : TaskKey} (h : key ∉ t.armedPairs) :
    t.disarm key = t := by
  apply ext_state?
  · rw [armedPairs_disarm, List.filter_eq_self]
    intro k hk
    simp only [Bool.not_eq_eq_eq_not, Bool.not_true, beq_eq_false_iff_ne]
    exact fun e => h (e ▸ hk)
  · intro k
    rw [state?_disarm]
    split
    · rename_i e
      exact (state?_eq_none (e ▸ h)).symm
    · rfl

/-- Recording an event for a task changes its outputs alone. -/
theorem state?_mark (t : Tracker) (key : TaskKey) (event : String) (k : TaskKey) :
    (t.mark key event).state? k =
      if key = k then (t.state? k).map (·.mark event) else t.state? k := by
  unfold mark
  split
  · rename_i p hp
    rw [state?_arm]
    split
    · rename_i e
      rw [← e, hp]
      rfl
    · rfl
  · rename_i hn
    split
    · rename_i e
      rw [← e, hn]
      rfl
    · rfl

/-- Recording an event for a task arms and disarms nothing. -/
theorem armedPairs_mark (t : Tracker) (key : TaskKey) (event : String) :
    (t.mark key event).armedPairs = t.armedPairs := by
  unfold mark
  split
  · rename_i p hp
    rw [armedPairs_arm, if_pos]
    rw [← isSome_state?, hp]
    rfl
  · rfl

/-- Record an event for all armed tasks. -/
def markAll (t : Tracker) (event : String) : Tracker :=
  ⟨t.pending.mapValues (·.mark event), by rw [Table.keys_mapValues]; exact t.distinct⟩

/-- Recording an event for all tasks changes the outputs of each. -/
theorem state?_markAll (t : Tracker) (event : String) (key : TaskKey) :
    (t.markAll event).state? key = (t.state? key).map (·.mark event) :=
  Table.get?_mapValues (fun p : Pending => p.mark event) t.pending key

/-- Recording an event for all tasks arms and disarms nothing. -/
theorem armedPairs_markAll (t : Tracker) (event : String) :
    (t.markAll event).armedPairs = t.armedPairs :=
  Table.keys_mapValues (fun p : Pending => p.mark event) t.pending

/-- Recording an event for some tasks one after the other arms and disarms nothing. -/
theorem armedPairs_foldl_mark (keys : List TaskKey) (t : Tracker) (event : String) :
    (keys.foldl (fun t key => t.mark key event) t).armedPairs = t.armedPairs := by
  induction keys generalizing t with
  | nil => rfl
  | cons key rest ih => rw [List.foldl_cons, ih, armedPairs_mark]

/-- Recording an event for some tasks one after the other changes the outputs of each. -/
theorem state?_foldl_mark (keys : List TaskKey) (hd : keys.Nodup) (t : Tracker) (event : String)
    (k : TaskKey) :
    (keys.foldl (fun t key => t.mark key event) t).state? k =
      if k ∈ keys then (t.state? k).map (·.mark event) else t.state? k := by
  induction keys generalizing t with
  | nil => rfl
  | cons key rest ih =>
    rw [List.nodup_cons] at hd
    rw [List.foldl_cons, ih hd.2, state?_mark]
    by_cases hk : key = k
    · subst hk
      rw [if_neg hd.1, if_pos rfl, if_pos List.mem_cons_self]
    · have hk' : ¬ k = key := fun e => hk e.symm
      simp only [hk, if_false, List.mem_cons, hk', false_or]

/-- Recording an event for the armed tasks one after the other records it for all of them. -/
theorem foldl_mark_armedPairs (t : Tracker) (event : String) :
    t.armedPairs.foldl (fun t key => t.mark key event) t = t.markAll event := by
  apply ext_state?
  · rw [armedPairs_foldl_mark, armedPairs_markAll]
  · intro k
    rw [state?_foldl_mark t.armedPairs t.distinct, state?_markAll]
    split
    · rfl
    · rename_i h
      rw [state?_eq_none h]
      rfl

/-! ### Changes -/

/-- One change of a tracker. -/
inductive Change
  | arm (key : TaskKey) (p : Pending)
  | disarm (key : TaskKey)
  | mark (event : String)
  /-- Nothing changes. -/
  | rest

/-- The tracker after a change. -/
def apply (t : Tracker) : Change → Tracker
  | .arm key p => t.arm key p
  | .disarm key => t.disarm key
  | .mark event => t.markAll event
  | .rest => t

/-- The tracker after some changes. -/
def after (t : Tracker) (changes : List Change) : Tracker :=
  changes.foldl apply t

/-- The change arms or disarms the task. -/
def Change.Touches (key : TaskKey) : Change → Prop
  | .arm k _ => k = key
  | .disarm k => k = key
  | .mark _ => False
  | .rest => False

/-- The event that a change records. -/
def Change.event? : Change → Option String
  | .mark event => some event
  | _ => none

@[simp] theorem after_nil (t : Tracker) : t.after [] = t := rfl

@[simp] theorem after_cons (t : Tracker) (c : Change) (changes : List Change) :
    t.after (c :: changes) = (t.apply c).after changes := rfl

theorem after_append (t : Tracker) (earlier later : List Change) :
    t.after (earlier ++ later) = (t.after earlier).after later :=
  List.foldl_append

/-! ### The outputs of a task -/

/-- Changes that do not touch a task record their events for it and do nothing else to it. -/
theorem state?_after_untouched {t : Tracker} {key : TaskKey} {p : Pending} (events : List String)
    (hp : t.state? key = some (p.withFired events)) {changes : List Change}
    (h : ∀ c ∈ changes, ¬ c.Touches key) :
    (t.after changes).state? key
      = some (p.withFired (events ++ changes.filterMap Change.event?)) := by
  -- `p` stays what the task was armed with, only the list of events grows
  induction changes generalizing t events with
  | nil => rw [after_nil, hp, List.filterMap_nil, List.append_nil]
  | cons c rest ih =>
    have hrest : ∀ d ∈ rest, ¬ d.Touches key := fun d hd => h d (List.mem_cons_of_mem _ hd)
    have hc := h c List.mem_cons_self
    rw [after_cons]
    cases c with
    | arm k q =>
      have hk : ¬ k = key := hc
      refine ih events ?_ hrest
      rw [apply, state?_arm, if_neg hk, hp]
    | disarm k =>
      have hk : ¬ k = key := hc
      refine ih events ?_ hrest
      rw [apply, state?_disarm, if_neg hk, hp]
    | mark event =>
      have hm : (t.apply (.mark event)).state? key = some (p.withFired (events ++ [event])) := by
        rw [apply, state?_markAll, hp, Option.map_some, Pending.mark_withFired]
      rw [ih _ hm hrest, List.append_assoc]
      rfl
    | rest => exact ih events hp hrest

/-- After it was armed with outputs of which none had fired, a task has these outputs and the events
recorded since. -/
theorem state?_after_arm (t : Tracker) {key : TaskKey} {p : Pending} (hp : p.withFired [] = p)
    (earlier : List Change) {later : List Change} (h : ∀ c ∈ later, ¬ c.Touches key) :
    (t.after (earlier ++ .arm key p :: later)).state? key
      = some (p.withFired (later.filterMap Change.event?)) := by
  rw [after_append, after_cons]
  refine state?_after_untouched [] ?_ h
  rw [apply, state?_arm, if_pos rfl, hp]

/-- From nothing armed, a task that has outputs was armed, and nothing has armed or disarmed it
since. -/
theorem exists_arm_of_state? {changes : List Change} {key : TaskKey} {q : Pending}
    (h : (Tracker.empty.after changes).state? key = some q) :
    ∃ earlier p later, changes = earlier ++ .arm key p :: later ∧
      ∀ c ∈ later, ¬ c.Touches key := by
  induction changes using List.reverseRecOn generalizing q with
  | nil => cases h
  | append_singleton changes c ih =>
    rw [after_append, after_cons, after_nil] at h
    -- unless the last change touches the task, look among the ones before it
    have hbefore : ∀ {r}, (Tracker.empty.after changes).state? key = some r → ¬ c.Touches key →
        ∃ earlier p later, changes ++ [c] = earlier ++ .arm key p :: later ∧
          ∀ d ∈ later, ¬ d.Touches key := by
      intro r hr hc
      obtain ⟨earlier, p, later, rfl, hlater⟩ := ih hr
      refine ⟨earlier, p, later ++ [c], by simp, fun d hd => ?_⟩
      rcases List.mem_append.mp hd with hd | hd
      · exact hlater d hd
      · rw [List.mem_singleton.mp hd]
        exact hc
    cases c with
    | arm k p =>
      by_cases hk : k = key
      · subst hk
        exact ⟨changes, p, [], rfl, fun d hd => absurd hd List.not_mem_nil⟩
      · rw [apply, state?_arm, if_neg hk] at h
        exact hbefore h hk
    | disarm k =>
      by_cases hk : k = key
      · rw [apply, state?_disarm, if_pos hk] at h
        cases h
      · rw [apply, state?_disarm, if_neg hk] at h
        exact hbefore h hk
    | mark event =>
      rw [apply, state?_markAll, Option.map_eq_some_iff] at h
      obtain ⟨r, hr, -⟩ := h
      exact hbefore hr id
    | rest => exact hbefore h id

/-! ### Recording several events -/

/-- Recording events one after the other arms and disarms nothing. -/
theorem armedPairs_after_marks (t : Tracker) (events : List String) :
    (t.after (events.map .mark)).armedPairs = t.armedPairs := by
  induction events generalizing t with
  | nil => rfl
  | cons e r ih => rw [List.map_cons, after_cons, ih, apply, armedPairs_markAll]

/-- Recording events one after the other marks them in the outputs of every task. -/
theorem state?_after_marks (t : Tracker) (events : List String) (key : TaskKey) :
    (t.after (events.map .mark)).state? key
      = (t.state? key).map fun p => events.foldl Pending.mark p := by
  induction events generalizing t with
  | nil => simp
  | cons e r ih =>
    rw [List.map_cons, after_cons, ih, apply, state?_markAll, Option.map_map]
    rfl

/-- Of events recorded one after the other only the set counts, not their order or number. -/
theorem after_marks_congr (t : Tracker) {events events' : List String}
    (h : ∀ e, e ∈ events ↔ e ∈ events') :
    t.after (events.map .mark) = t.after (events'.map .mark) := by
  apply ext_state?
  · rw [armedPairs_after_marks, armedPairs_after_marks]
  · intro key
    simp only [state?_after_marks, Pending.foldl_mark_congr h]

end Tutor.Tracker
