import Mathlib.Data.List.Basic
import Tutor.Proofs.Events.Signals

namespace Tutor

/-!
# Who is signalled

An event is recorded for one armed task after the other. What comes of it for a task is decided by
the outputs of that task alone, whatever the others are like.

* `Pending.Marked` — one more event has fired, in all outputs that wait for it;
* `Pending.Calls` — exactly one output wins, and it asks for a signal;
* `Tracker.asks_iff`, `Tracker.asks_congr` — a task asks for a signal exactly when its outputs call
  for one;
* `Tracker.result_notifyAll` — the tasks that are signalled are those that ask for it;
* `Tracker.notify_independent` — whom a call of `notify` signals, and what it leaves.
-/

namespace Pending

/-- The output waits for the same events, of which this one has fired besides those that had. -/
structure OutputMarked (event : String) (o o' : Output) : Prop where
  subsumes : o'.subsumes = o.subsumes
  notify : o'.notify = o.notify
  flags : List.Forall₂ (fun e e' => e'.1 = e.1 ∧ (e'.2 = true ↔ e.2 = true ∨ e.1 = event))
    o.events o'.events

/-- The outputs `q` are the outputs `p` under the same names, and in each of them the event has
fired. -/
def Marked (p : Pending) (event : String) (q : Pending) : Prop :=
  List.Forall₂ (fun m n => n.1 = m.1 ∧ OutputMarked event m.2 n.2) p.outputs q.outputs

/-- One output wins and no other does, and it asks for a signal. -/
def Calls (q : Pending) : Prop :=
  ∃ name o, q.outputs.get? name = some o ∧ q.Wins name ∧
    (∀ other, q.Wins other → other = name) ∧ o.notify = true

/-- Items that are made from those of another list are those of the list that is made from it. -/
theorem forall₂_iff_eq_map {α β : Type} {R : α → β → Prop} {f : α → β}
    (h : ∀ a b, R a b ↔ f a = b) {as : List α} {bs : List β} :
    List.Forall₂ R as bs ↔ bs = as.map f := by
  have hR : R = fun a b => f a = b := funext fun a => funext fun b => propext (h a b)
  rw [hR, ← List.forall₂_map_left_iff (R := Eq), List.forall₂_eq_eq_eq, eq_comm]

/-- Marking an event in an output. -/
theorem outputMarked_iff {event : String} {o o' : Output} :
    OutputMarked event o o' ↔ o.mark event = o' := by
  have hflag : ∀ e e' : String × Bool,
      e'.1 = e.1 ∧ (e'.2 = true ↔ e.2 = true ∨ e.1 = event) ↔ (e.1, e.2 || e.1 == event) = e' := by
    intro e e'
    rw [Prod.ext_iff, eq_comm, Bool.eq_iff_iff (a := e.2 || e.1 == event), Bool.or_eq_true,
      beq_iff_eq, iff_comm (a := e'.2 = true)]
  have hevents : List.Forall₂
      (fun e e' => e'.1 = e.1 ∧ (e'.2 = true ↔ e.2 = true ∨ e.1 = event)) o.events o'.events ↔
        o'.events = o.events.map fun e => (e.1, e.2 || e.1 == event) := forall₂_iff_eq_map hflag
  constructor
  · rintro ⟨hsubsumes, hnotify, hflags⟩
    cases o'
    rw [hevents] at hflags
    subst hsubsumes hnotify hflags
    rfl
  · rintro rfl
    exact ⟨rfl, rfl, hevents.mpr rfl⟩

/-- Marking an event in all outputs. -/
theorem marked_iff {p q : Pending} {event : String} : p.Marked event q ↔ q = p.mark event := by
  have hone : ∀ m n : String × Output,
      n.1 = m.1 ∧ OutputMarked event m.2 n.2 ↔ (m.1, m.2.mark event) = n := by
    intro m n
    rw [outputMarked_iff, Prod.ext_iff, eq_comm]
  refine (forall₂_iff_eq_map hone).trans ⟨fun h => ext_outputs h, fun h => ?_⟩
  rw [h]
  rfl

/-- The choice finds an output exactly when this one wins and no other does. -/
theorem winner_eq_ok_iff (p : Pending) (lesson task name : String) (o : Output) :
    p.winner lesson task = .ok (name, o) ↔
      p.outputs.get? name = some o ∧ p.Wins name ∧ ∀ other, p.Wins other → other = name := by
  refine ⟨wins_of_winner, fun ⟨ho, hwins, honly⟩ => ?_⟩
  obtain ⟨o', ho', hwinner⟩ := winner_of_unique lesson task hwins honly
  rw [ho, Option.some.injEq] at ho'
  rw [hwinner, ho']

/-- An event that is marked is marked for good. -/
theorem mark_mark (p : Pending) (event : String) : (p.mark event).mark event = p.mark event := by
  have hone : ∀ o : Output, (o.mark event).mark event = o.mark event := fun o => by
    simp only [Output.mark, List.map_map, Function.comp_def, Bool.or_assoc, Bool.or_self]
  apply ext_outputs
  simp only [mark, mapOutputs, Table.mapValues, List.map_map, Function.comp_def, hone]

end Pending

namespace Tracker

/-! ### One task -/

/-- A task asks for a signal exactly when it is armed and its outputs call for one, once the event is
marked. -/
theorem asks_iff (t : Tracker) (event : String) (key : TaskKey) :
    t.asks event key = true ↔ ∃ p, t.state? key = some p ∧ (p.mark event).Calls := by
  have hmark : (t.mark key event).state? key = (t.state? key).map (·.mark event) := by
    rw [state?_mark, if_pos rfl]
  rw [asks, Bool.and_eq_true, isArmed_iff, ← isSome_state?, resolve, hmark]
  cases hp : t.state? key with
  | none => simp
  | some p =>
    simp only [Option.isSome_some, true_and, Option.map_some, Option.some.injEq, exists_eq_left',
      Pending.Calls, ← and_assoc]
    constructor
    · intro h
      split at h
      · rename_i name o hwinner
        obtain ⟨ho, hwins, honly⟩ := Pending.wins_of_winner hwinner
        exact ⟨name, o, ⟨⟨ho, hwins⟩, honly⟩, h⟩
      · cases h
    · rintro ⟨name, o, ⟨⟨ho, hwins⟩, honly⟩, hnotify⟩
      rw [(Pending.winner_eq_ok_iff _ key.1 key.2 name o).mpr ⟨ho, hwins, honly⟩]
      exact hnotify

/-- Whether a task asks for a signal is decided by its own outputs. -/
theorem asks_congr {t u : Tracker} {key : TaskKey} (h : t.state? key = u.state? key)
    (event : String) : t.asks event key = u.asks event key := by
  rw [Bool.eq_iff_iff, asks_iff, asks_iff, h]

/-- Recording an event for all tasks once more changes nothing. -/
theorem markAll_markAll (t : Tracker) (event : String) :
    (t.markAll event).markAll event = t.markAll event := by
  apply ext_state?
  · rw [armedPairs_markAll]
  · intro key
    rw [state?_markAll, state?_markAll, Option.map_map]
    exact congrArg (fun f => (t.state? key).map f) (funext fun p => p.mark_mark event)

/-- A task asks for a signal after the event has been recorded exactly when it did so before. -/
theorem asks_markAll (t : Tracker) (event : String) :
    (t.markAll event).asks event = t.asks event := by
  funext key
  rw [Bool.eq_iff_iff, asks_iff, asks_iff, state?_markAll]
  cases t.state? key with
  | none => simp
  | some p =>
    simp only [Option.map_some, Option.some.injEq, exists_eq_left', Pending.Calls,
      Pending.mark_mark]

/-- Once the event has been recorded for all tasks, a task that asks for a signal has an output that
wins and asks for it. -/
theorem resolve_of_asks {t : Tracker} {event : String} {key : TaskKey}
    (h : t.asks event key = true) :
    ∃ name o, (t.markAll event).resolve key = .ok (name, o) ∧ o.notify = true := by
  obtain ⟨p, hp, name, o, ho, hwins, honly, hnotify⟩ := (asks_iff t event key).mp h
  refine ⟨name, o, ?_, hnotify⟩
  rw [resolve, state?_markAll, hp]
  exact (Pending.winner_eq_ok_iff _ _ _ _ _).mpr ⟨ho, hwins, honly⟩

/-! ### All tasks -/

variable {b : Boundary}

/-- Under a quiet boundary, the tasks that are signalled are those that ask for it, in their order.
-/
theorem result_notifyAll (hb : b.Quiet) (event : String) {keys : List TaskKey} (hd : keys.Nodup)
    (w : World) :
    ((notifyAll b event keys).perform w).1 = .ok (keys.filter (w.tracker.asks event)) := by
  induction keys generalizing w with
  | nil => rfl
  | cons key rest ih =>
    rw [List.nodup_cons] at hd
    obtain ⟨w₁, hfirst, hservice⟩ := perform_notifyTask_quiet hb event key w
    have htracker : w₁.tracker = w.tracker.mark key event := congrArg (·.2.2) hservice
    -- recording the event for the first task is nothing to the others
    have hothers : rest.filter (w₁.tracker.asks event) = rest.filter (w.tracker.asks event) := by
      refine List.filter_congr fun other hother => asks_congr ?_ event
      have hne : ¬ key = other := fun e => hd.1 (e ▸ hother)
      rw [htracker, state?_mark, if_neg hne]
    have hrest : (notifyAll b event rest).perform w₁
        = (.ok (rest.filter (w.tracker.asks event)), ((notifyAll b event rest).perform w₁).2) :=
      Prod.ext ((ih hd.2 w₁).trans (congrArg Except.ok hothers)) rfl
    rw [perform_notifyAll_cons hfirst hrest, List.filter_cons]

/-- Under a quiet boundary, a call of `notify` returns the armed tasks that ask for a signal, and
records the event for all tasks. -/
theorem perform_notify_asks (hb : b.Quiet) (event : String) (w : World) :
    ∃ w', (notify b event).perform w
        = (.ok (w.tracker.armedPairs.filter (w.tracker.asks event)), w') ∧
      w'.tracker = w.tracker.markAll event := by
  obtain ⟨signalled, w', hnotify, hservice⟩ := perform_notify_quiet hb event w
  have hresult : ((notifyAll b event w.tracker.armedPairs).perform w).1
      = .ok (w.tracker.armedPairs.filter (w.tracker.asks event)) :=
    result_notifyAll hb event w.tracker.distinct w
  have hsame : notify b event = get >>= fun v => notifyAll b event v.tracker.armedPairs := rfl
  rw [hsame, Act.perform_bind_ok (Act.perform_get w)] at hnotify
  have hkeys : (Except.ok signalled : Except Failure (List TaskKey))
      = .ok (w.tracker.armedPairs.filter (w.tracker.asks event)) := by
    rw [← hresult]
    exact congrArg Prod.fst hnotify.symm
  refine ⟨w', ?_, congrArg (·.2.2) hservice⟩
  rw [hsame, Act.perform_bind_ok (Act.perform_get w), hnotify, hkeys]

/-- Under a quiet boundary, every signal returns, so that a call signals the tasks that it returns.
-/
theorem keys_signals_quiet (hb : b.Quiet) {event : String} {w w' : World} {sent : List TaskKey}
    (h : (notify b event).perform w = (.ok sent, w')) :
    (signals b event w.tracker.armedPairs w).map (·.key) = sent := by
  obtain ⟨v, hrun, -⟩ := notifyAll_signals b event w.tracker.armedPairs w fun s _ =>
    hb.signal_returns s.key s.before
  unfold notify at h
  rw [Act.perform_bind_ok (Act.perform_get w), hrun, Prod.mk.injEq, Except.ok.injEq] at h
  exact h.1

/-! ### The main result -/

/-- Under a boundary that does not call back, a call of `notify` signals and returns those armed
tasks, in their order and each once, whose outputs call for a signal once the event is marked; it
marks the event in the outputs of every task and arms and disarms nothing. A task that was signalled
still has a winning output that asks for it, and another call with the same event changes nothing
and returns the same tasks. Where another tracker holds some of the tasks in the same order with the
same outputs, whatever else it holds, the same of these tasks are signalled in the same order there,
and they get the same outputs. -/
theorem notify_independent (hb : b.Quiet) (event : String) (w : World) :
    ∃ sent w', (notify b event).perform w = (.ok sent, w') ∧
      (signals b event w.tracker.armedPairs w).map (·.key) = sent ∧
      sent.Sublist w.tracker.armedPairs ∧ sent.Nodup ∧
      (∀ key, key ∈ sent ↔
        ∃ p q, w.tracker.state? key = some p ∧ p.Marked event q ∧ q.Calls) ∧
      w'.tracker.armedPairs = w.tracker.armedPairs ∧
      (∀ key, Option.Rel (fun p q => p.Marked event q) (w.tracker.state? key)
        (w'.tracker.state? key)) ∧
      (∀ key ∈ sent, ∃ name o, w'.tracker.resolve key = .ok (name, o) ∧ o.notify = true) ∧
      (∃ w'', (notify b event).perform w' = (.ok sent, w'') ∧ w''.tracker = w'.tracker) ∧
      ∀ (v : World) (common : TaskKey → Bool),
        (∀ key, common key = true → v.tracker.state? key = w.tracker.state? key) →
        v.tracker.armedPairs.filter common = w.tracker.armedPairs.filter common →
        ∃ others v', (notify b event).perform v = (.ok others, v') ∧
          others.filter common = sent.filter common ∧
          ∀ key, common key = true → v'.tracker.state? key = w'.tracker.state? key := by
  obtain ⟨w', hnotify, htracker⟩ := perform_notify_asks hb event w
  obtain ⟨w'', hagain, htracker'⟩ := perform_notify_asks hb event w'
  rw [htracker, armedPairs_markAll, asks_markAll] at hagain
  rw [htracker, markAll_markAll] at htracker'
  refine ⟨_, w', hnotify, keys_signals_quiet hb hnotify, List.filter_sublist,
    w.tracker.distinct.filter _, fun key => ?signalled, ?armed, fun key => ?marked,
    fun key hkey => ?winners, ⟨w'', hagain, by rw [htracker', htracker]⟩,
    fun v common hstates hpairs => ?others⟩
  case signalled =>
    rw [List.mem_filter, asks_iff, ← isSome_state?]
    constructor
    · rintro ⟨-, p, hp, hcalls⟩
      exact ⟨p, _, hp, Pending.marked_iff.mpr rfl, hcalls⟩
    · -- marking leads to one state only
      rintro ⟨p, q, hp, hmarked, hcalls⟩
      exact ⟨by rw [hp]; rfl, p, hp, Pending.marked_iff.mp hmarked ▸ hcalls⟩
  case armed => rw [htracker, armedPairs_markAll]
  case marked =>
    rw [htracker, state?_markAll]
    cases w.tracker.state? key with
    | none => exact .none
    | some p => exact .some (Pending.marked_iff.mpr rfl)
  case winners =>
    rw [htracker]
    exact resolve_of_asks (List.mem_filter.mp hkey).2
  case others =>
    obtain ⟨v', hother, hv'⟩ := perform_notify_asks hb event v
    refine ⟨_, v', hother, ?_, fun key hkey => ?_⟩
    · -- the tasks in common ask for a signal in both trackers or in neither
      calc (v.tracker.armedPairs.filter (v.tracker.asks event)).filter common
          = (v.tracker.armedPairs.filter common).filter (v.tracker.asks event) :=
            List.filter_comm ..
        _ = (v.tracker.armedPairs.filter common).filter (w.tracker.asks event) :=
            List.filter_congr fun key hkey =>
              asks_congr (hstates key (List.mem_filter.mp hkey).2) event
        _ = (w.tracker.armedPairs.filter common).filter (w.tracker.asks event) := by rw [hpairs]
        _ = (w.tracker.armedPairs.filter (w.tracker.asks event)).filter common :=
            List.filter_comm ..
    · rw [hv', htracker, state?_markAll, state?_markAll, hstates key hkey]

/-- Of three tasks that wait for the same event, the first has two outputs that exclude each other:
it is not signalled, and the other two are, as they are where it is not armed. -/
theorem notify_independent_ambiguous :
    let p : Pending := ⟨[("done", ⟨[("e", false)], [], true⟩)], by decide⟩
    let q : Pending := ⟨[("x", ⟨[("e", false)], [], true⟩), ("y", ⟨[("e", false)], [], true⟩)],
      by decide⟩
    let b := Boundary.logging
    let w := { World.fresh Host.bare .empty with
      tracker := ((Tracker.empty.arm ("l", "a") q).arm ("l", "b") p).arm ("l", "c") p }
    let v := { World.fresh Host.bare .empty with
      tracker := (Tracker.empty.arm ("l", "b") p).arm ("l", "c") p }
    b.Quiet ∧ (∃ w', (notify b "e").perform w = (.ok [("l", "b"), ("l", "c")], w')) ∧
      ∃ others v', (notify b "e").perform v = (.ok others, v') ∧
        others.filter (fun key => key.2 != "a") = [("l", "b"), ("l", "c")] := by
  intro p q b w v
  obtain ⟨sent, w', hnotify, hkeys, -, -, -, -, -, -, -, hcommon⟩ :=
    notify_independent (b := b) Boundary.quiet_logging "e" w
  have hsent : sent = [("l", "b"), ("l", "c")] := by
    rw [← hkeys]
    decide
  obtain ⟨others, v', hother, hsame, -⟩ := hcommon v (fun key => key.2 != "a")
    (fun key hkey => by
      have hne : ¬ ("l", "a") = key := by
        rintro rfl
        exact absurd hkey (by decide)
      simp only [v, w, state?_arm, if_neg hne])
    (by decide)
  rw [hsent] at hnotify hsame
  exact ⟨Boundary.quiet_logging, ⟨w', hnotify⟩, others, v', hother, hsame.trans (by decide)⟩

end Tracker

end Tutor
