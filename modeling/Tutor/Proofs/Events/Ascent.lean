import Tutor.Proofs.Events.History
import Tutor.Proofs.Events.Signals

namespace Tutor

/-!
# Winners only move up

As long as a task is neither armed again nor disarmed, its outputs can only have more and more
events fired. What wins later then is what won before, or an output that subsumes it, whatever the
outputs subsume.

* `Pending.Advances` — outputs and the same outputs with some more events marked;
* `Pending.Satisfied.of_advances`, `Pending.wins_advance` — satisfied outputs stay so, and the
  winner moves up;
* `Tracker.Spared` — between two worlds a task was neither armed nor disarmed; requests that are
  not about the task spare it (`spared_request`), and so does a boundary that calls back with such
  requests;
* `Tracker.resolve_ascends` — what resolving a task comes to at two moments.
-/

namespace Pending

variable {p q r : Pending} {name : String}

/-! ### Outputs that advance -/

/-- The outputs `q` are the outputs `p` with some events marked. -/
def Advances (p q : Pending) : Prop :=
  ∃ events : List String, q = events.foldl mark p

theorem Advances.refl (p : Pending) : p.Advances p := ⟨[], rfl⟩

theorem Advances.mark (p : Pending) (event : String) : p.Advances (p.mark event) :=
  ⟨[event], rfl⟩

theorem Advances.trans (h : p.Advances q) (h' : q.Advances r) : p.Advances r := by
  obtain ⟨events, rfl⟩ := h
  obtain ⟨more, rfl⟩ := h'
  exact ⟨events ++ more, List.foldl_append.symm⟩

/-- Outputs that advance are the same outputs, one by one, with more events fired in each. -/
theorem Advances.get? (h : p.Advances q) :
    ∃ fired : String → Bool, ∀ name, q.outputs.get? name
      = (p.outputs.get? name).map fun o =>
          { o with events := o.events.map fun e => (e.1, e.2 || fired e.1) } := by
  obtain ⟨events, rfl⟩ := h
  refine ⟨events.contains, fun name => ?_⟩
  rw [foldl_mark, get?_mapOutputs]

/-- A satisfied output stays satisfied. -/
theorem Satisfied.of_advances (h : p.Advances q) (hs : p.Satisfied name) : q.Satisfied name := by
  obtain ⟨fired, hget⟩ := h.get?
  obtain ⟨o, ho, hall⟩ := hs
  refine ⟨_, by rw [hget, ho]; rfl, ?_⟩
  simp only [Output.satisfied, List.all_eq_true, List.all_map, Function.comp_apply,
    Bool.or_eq_true] at hall ⊢
  exact fun e he => .inl (hall e he)

/-- Where an output is satisfied, resolving finds the one that wins, or more or fewer than one. -/
theorem winner_of_satisfied (lesson task : String) (hs : p.Satisfied name) :
    (∃ r, p.winner lesson task = .ok r) ∨
      ∃ names, p.winner lesson task = .error (.ambiguous lesson task names p.firedEvents) := by
  by_cases hu : ∃ n, p.Wins n ∧ ∀ other, p.Wins other → other = n
  · obtain ⟨n, hn, honly⟩ := hu
    obtain ⟨o, -, hwinner⟩ := winner_of_unique lesson task hn honly
    exact .inl ⟨_, hwinner⟩
  · exact .inr (winner_of_several lesson task hs hu)

/-- The output that wins later is the one that won before, or it subsumes that one. -/
theorem wins_advance (h : p.Advances q) {lesson task lesson' task' earlier later : String}
    {o o' : Output} (hp : p.winner lesson task = .ok (earlier, o))
    (hq : q.winner lesson' task' = .ok (later, o')) : later = earlier ∨ earlier ∈ o'.subsumes := by
  obtain ⟨-, hearlier, -⟩ := wins_of_winner hp
  obtain ⟨ho', hlater, -⟩ := wins_of_winner hq
  refine (Classical.em (later = earlier)).imp_right fun hne => ?_
  -- the earlier one is still satisfied, so that the later one has to subsume it
  have hstill : q.Satisfied earlier := hearlier.1.of_advances h
  obtain ⟨o'', ho'', hsub⟩ := hlater.2 earlier hstill fun e => hne e.symm
  rw [ho', Option.some.injEq] at ho''
  rw [ho'']
  exact hsub

end Pending

namespace Tracker

variable {key : TaskKey} {w u v : World}

/-! ### Tasks that are spared -/

/-- If the task is armed in the first world, it is so in the second, and its outputs have advanced:
it was neither armed again nor disarmed in between. -/
def Spared (key : TaskKey) (w w' : World) : Prop :=
  ∀ p, w.tracker.state? key = some p → ∃ q, w'.tracker.state? key = some q ∧ p.Advances q

theorem Spared.trans (h : Spared key w u) (h' : Spared key u v) : Spared key w v := by
  intro p hp
  obtain ⟨q, hq, hpq⟩ := h p hp
  obtain ⟨r, hr, hqr⟩ := h' q hq
  exact ⟨r, hr, hpq.trans hqr⟩

/-- Where the outputs of the task are the same, it was spared. -/
theorem Spared.of_state?_eq (h : v.tracker.state? key = w.tracker.state? key) : Spared key w v :=
  fun p hp => ⟨p, h.trans hp, .refl p⟩

end Tracker

/-- The boundary may do what it likes when it is signalled, but it spares the task. -/
def Boundary.Spares (b : Boundary) (key : TaskKey) : Prop :=
  ∀ k, Act.Within (Tracker.Spared key) (b.signal k)

namespace Tracker

variable {b : Boundary} {key : TaskKey} {w v : World}

/-- A boundary that does not call back spares every task. -/
theorem spares_of_quiet (hb : b.Quiet) (key : TaskKey) : b.Spares key := fun k =>
  (hb.signal_keeps k).within fun _ _ h =>
    .of_state?_eq (congrArg (fun t => t.2.2.state? key) h)

/-! ### Requests that spare a task -/

/-- Recording an event for a task spares all tasks. -/
theorem spared_markTask (event : String) (k : TaskKey) :
    Act.Within (Spared key) (markTask event k) := by
  intro w
  obtain ⟨j, hmark⟩ := perform_markTask event k w
  rw [hmark]
  intro p hp
  by_cases hk : k = key
  · refine ⟨p.mark event, ?_, .mark p event⟩
    rw [state?_mark, if_pos hk, hp, Option.map_some]
  · refine ⟨p, ?_, .refl p⟩
    rw [state?_mark, if_neg hk, hp]

/-- What comes before a signal and the signal itself spare the task, and so does all that comes
after it. -/
theorem spared_notifyAll (hb : b.Spares key) (event : String) (keys : List TaskKey) :
    Act.Within (Spared key) (notifyAll b event keys) := by
  induction keys with
  | nil => exact fun w => .of_state?_eq rfl
  | cons k rest ih =>
    have hone : Act.Within (Spared key) (notifyTask b event k) := by
      unfold notifyTask
      refine (spared_markTask event k).bind (fun due => ?_) Spared.trans
      cases due with
      | false => exact fun w => .of_state?_eq rfl
      | true => exact (hb k).bind (fun _ _ => .of_state?_eq rfl) Spared.trans
    rw [notifyAll]
    refine hone.bind (fun _ => ih.bind (fun _ _ => ?_) Spared.trans) Spared.trans
    exact .of_state?_eq rfl

/-- The task is neither armed nor disarmed by the request itself. -/
def Request.Spares (key : TaskKey) : Request → Prop
  | .arm k outputs => k = key → ¬ Readable outputs
  | .disarm k => ¬ k = key
  | .notify _ => True

/-- A request that is not about the task spares it. -/
theorem spared_request (hb : b.Spares key) {r : Request} (hr : r.Spares key) (w : World) :
    Spared key w (r.perform b w) := by
  cases r with
  | arm k outputs =>
    cases hp : Pending.ofJson outputs with
    | error f =>
      rw [Request.perform, perform_armTask_error hp]
      exact .of_state?_eq rfl
    | ok p =>
      have hk : ¬ k = key := fun e => hr e ⟨p, hp⟩
      obtain ⟨j, harm⟩ := perform_armTask_ok hp k w
      rw [Request.perform, harm]
      exact .of_state?_eq (by rw [state?_arm, if_neg hk])
  | disarm k =>
    obtain ⟨j, hdisarm⟩ := perform_disarmTask k w
    rw [Request.perform, hdisarm]
    exact .of_state?_eq (by rw [state?_disarm, if_neg hr])
  | notify event => exact spared_notifyAll hb event w.tracker.armedPairs w

/-- Requests that are not about the task spare it. -/
theorem spared_run (hb : b.Spares key) {requests : List Request}
    (h : ∀ r ∈ requests, r.Spares key) (w : World) : Spared key w (run b requests w) := by
  induction requests generalizing w with
  | nil => exact .of_state?_eq rfl
  | cons r rest ih =>
    rw [List.forall_mem_cons] at h
    exact (spared_request hb h.1 w).trans (ih h.2 _)

/-- A boundary that calls back: when it is signalled, it makes requests that it chooses. -/
def calling (b : Boundary) (choose : TaskKey → World → List Request) : Boundary where
  announce := b.announce
  signal k := modify fun w => run b (choose k w) w

/-- A boundary that calls back with requests that are not about the task spares it. -/
theorem spares_calling (hb : b.Spares key) {choose : TaskKey → World → List Request}
    (h : ∀ k w, ∀ r ∈ choose k w, r.Spares key) : (calling b choose).Spares key := fun k w =>
  spared_run hb (h k w) w

/-! ### Later moments -/

/-- The second world is a later moment than the first one, with only requests in between that are
not about the task: it comes after such a request, or in the middle of one, when the boundary is
signalled. -/
inductive Later (b : Boundary) (key : TaskKey) (w : World) : World → Prop
  | now : Later b key w w
  | request {u : World} (h : Later b key w u) {r : Request} (hr : r.Spares key) :
    Later b key w (r.perform b u)
  | signal {u : World} (h : Later b key w u) {event : String} {s : Signal}
    (hs : s ∈ signals b event u.tracker.armedPairs u) : Later b key w s.before

/-- When the boundary is signalled, the task has been spared so far. -/
theorem spared_signal (hb : b.Spares key) {event : String} {keys : List TaskKey} {s : Signal}
    (hs : s ∈ signals b event keys w) : Spared key w s.before := by
  induction keys generalizing w with
  | nil => cases hs
  | cons k rest ih =>
    have hmark : Spared key w ((markTask event k).perform w).2 := spared_markTask event k w
    obtain ⟨asking, before, h, -⟩ := markTask_cases event k w
    rw [h] at hmark
    cases asking with
    | false =>
      rw [signals_cons_silent h] at hs
      exact hmark.trans (ih hs)
    | true =>
      rw [signals_cons_asking h] at hs
      rcases List.mem_cons.mp hs with rfl | hs
      · exact hmark
      · exact (hmark.trans (hb k before)).trans (ih hs)

/-- At a later moment, the task has been spared. -/
theorem Later.spared (hb : b.Spares key) (h : Later b key w v) : Spared key w v := by
  induction h with
  | now => exact .of_state?_eq rfl
  | request _ hr ih => exact ih.trans (spared_request hb hr _)
  | signal _ hs ih => exact ih.trans (spared_signal hb hs)

/-- After some requests it is a later moment. -/
theorem later_run {requests : List Request} (h : ∀ r ∈ requests, r.Spares key) (w : World) :
    Later b key w (run b requests w) := by
  induction requests using List.reverseRecOn with
  | nil => exact .now
  | append_singleton requests r ih =>
    rw [List.forall_mem_append, List.forall_mem_singleton] at h
    rw [run_append]
    exact (ih h.1).request h.2

/-! ### The main result -/

/-- Resolving an armed task chooses among its outputs. -/
theorem perform_resolveTask_armed {p : Pending} (hp : w.tracker.state? key = some p) :
    (resolveTask key).perform w = ((p.winner key.1 key.2).mapError .fault, w) := by
  rw [perform_resolveTask, resolve, hp]

/-- What resolving an armed task comes to is the output of it that wins. -/
theorem winner_of_resolveTask {p : Pending} {found : String × Output}
    (hp : w.tracker.state? key = some p) (h : (resolveTask key).perform w = (.ok found, w)) :
    p.winner key.1 key.2 = .ok found := by
  rw [perform_resolveTask_armed hp, Prod.mk.injEq] at h
  cases hr : p.winner key.1 key.2 with
  | error f =>
    rw [hr] at h
    cases h.1
  | ok r =>
    rw [hr] at h
    exact congrArg Except.ok (Except.ok.inj h.1)

/-- **Winners only move up.** A task is armed, with any outputs of which any events have fired. At
any later moment, as long as it was neither armed again nor disarmed: the outputs that were
satisfied still are; once one is, resolving the task does not fail for want of one; and if resolving
it comes to an output then and came to one before, these are the same, or the later one lists the
earlier one among those it subsumes. The boundary may call back as long as it spares the task. -/
theorem resolve_ascends (hb : b.Spares key) {p : Pending} (hp : w.tracker.state? key = some p)
    (hlater : Later b key w v) :
    ∃ q, v.tracker.state? key = some q ∧ (∀ name, p.Satisfied name → q.Satisfied name) ∧
      ((∃ name, p.Satisfied name) →
        (∃ r, (resolveTask key).perform v = (.ok r, v)) ∨
          ∃ names events, (resolveTask key).perform v
            = (.error (.fault (.ambiguous key.1 key.2 names events)), v)) ∧
      ∀ earlier later o o', (resolveTask key).perform w = (.ok (earlier, o), w) →
        (resolveTask key).perform v = (.ok (later, o'), v) →
        later = earlier ∨ earlier ∈ o'.subsumes := by
  obtain ⟨q, hq, hadvances⟩ := hlater.spared hb p hp
  refine ⟨q, hq, fun name => .of_advances hadvances, fun ⟨name, hs⟩ => ?_,
    fun earlier later o o' hearlier hfound => ?_⟩
  · rw [perform_resolveTask_armed hq]
    rcases Pending.winner_of_satisfied key.1 key.2 (hs.of_advances hadvances) with
      ⟨r, hr⟩ | ⟨names, hr⟩
    · exact .inl ⟨r, by rw [hr]; rfl⟩
    · exact .inr ⟨names, _, by rw [hr]; rfl⟩
  · exact Pending.wins_advance hadvances (winner_of_resolveTask hp hearlier)
      (winner_of_resolveTask hq hfound)

/-- A task has three outputs, two of which subsume each other. With nothing fired, the first one
wins. A first event makes the second one win, and the boundary answers the signal with a second
event, after which the third one wins as well as the second: neither is chosen. -/
theorem resolve_ascends_mutual :
    let key : TaskKey := ("l", "t")
    let p : Pending :=
      ⟨[("idle", ⟨[], ["idle"], false⟩), ("one", ⟨[("e", false)], ["idle", "two"], true⟩),
        ("two", ⟨[("e", false), ("f", false)], ["one", "idle"], true⟩)], by decide⟩
    let b := calling Boundary.logging fun _ _ => [.notify "f"]
    let w := { World.fresh Host.bare .empty with tracker := Tracker.empty.arm key p }
    b.Spares key ∧ w.tracker.state? key = some p ∧ p.Satisfied "idle" ∧
      (∃ v o, Later b key w v ∧ (resolveTask key).perform v = (.ok ("one", o), v) ∧
        "idle" ∈ o.subsumes) ∧
      ∃ names events, (resolveTask key).perform (run b [.notify "e"] w)
        = (.error (.fault (.ambiguous "l" "t" names events)), run b [.notify "e"] w) := by
  intro key p b w
  have hb : b.Spares key :=
    spares_calling (spares_of_quiet Boundary.quiet_logging key) fun _ _ r hr => by
      rw [List.mem_singleton.mp hr]
      trivial
  have hp : w.tracker.state? key = some p := rfl
  have hidle : p.Satisfied "idle" := ⟨_, rfl, rfl⟩
  have hfirst : (resolveTask key).perform w = (.ok ("idle", ⟨[], ["idle"], false⟩), w) := rfl
  refine ⟨hb, hp, hidle, ?_, ?_⟩
  · -- the moment of the signal, before the second event
    obtain ⟨v, hmark⟩ : ∃ v, (markTask "e" key).perform w = (.ok true, v) := ⟨_, rfl⟩
    have hsignal : ⟨key, v, ((b.signal key).perform v).2⟩
        ∈ signals b "e" w.tracker.armedPairs w := by
      have hpairs : w.tracker.armedPairs = [key] := rfl
      rw [hpairs, signals_cons_asking hmark]
      exact List.mem_cons_self
    have hlater : Later b key w v := Later.now.signal hsignal
    obtain ⟨q, -, -, -, hup⟩ := resolve_ascends hb hp hlater
    have hsecond : (resolveTask key).perform v
        = (.ok ("one", ⟨[("e", true)], ["idle", "two"], true⟩), v) := by
      cases hmark
      rfl
    exact ⟨v, _, hlater, hsecond, (hup _ _ _ _ hfirst hsecond).resolve_left (by decide)⟩
  · have hlater : Later b key w (run b [.notify "e"] w) :=
      later_run (fun r hr => by rw [List.mem_singleton.mp hr]; trivial) w
    obtain ⟨q, -, -, hends, -⟩ := resolve_ascends hb hp hlater
    rcases hends ⟨"idle", hidle⟩ with ⟨r, hr⟩ | hambiguous
    · have hnone : ((resolveTask key).perform (run b [.notify "e"] w)).1.toOption.isNone
          = true := by
        decide
      rw [hr] at hnone
      cases hnone
    · exact hambiguous

end Tracker

end Tutor
