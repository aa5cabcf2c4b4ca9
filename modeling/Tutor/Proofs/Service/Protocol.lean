import Tutor.Proofs.Service.Sessions

namespace Tutor.Service

/-!
# The protocol of events

A task whose input is events is described first, then events are passed on, and in the end an
attempt whose last step checks for events finds out which output they make.

* `ReachesCheck` — an attempt that has only the last step before it;
* `perform_attempt_check` — such an attempt is decided by the tracker alone;
* `Waits` — what a session says of a task: it was described and no attempt has led away from it
  since;
* `attempt_after_session` — such an attempt is decided by the settings the task was described with
  and the events that were passed on since.
-/

/-! ### The last step -/

/-- Steps run in two parts: the second part goes on with the text of the first. -/
theorem perform_runPipeline_append {key : TaskKey} {steps : List Step} {text : String}
    {first : Progress} {w w' : World}
    (h : (runPipeline key steps text).perform w = (.ok first, w')) (rest : List Step) :
    (runPipeline key (steps ++ rest) text).perform w
      = (do
          let last ← runPipeline key rest first.text
          return ⟨last.text, first.auxiliaries ++ last.auxiliaries⟩ : Act Progress).perform w' := by
  induction steps generalizing text first w with
  | nil =>
    cases h
    rw [List.nil_append, Act.perform_bind]
    dsimp only
    cases (runPipeline key rest text).perform w' with
    | mk r w'' => cases r <;> rfl
  | cons step others ih =>
    rw [runPipeline] at h
    obtain ⟨one, w₁, hstep, h⟩ := Act.of_perform_bind_ok h
    obtain ⟨two, w₂, hothers, h⟩ := Act.of_perform_bind_ok h
    cases h
    -- both sides go on from the world after the first part, and join the same auxiliaries
    rw [List.cons_append, runPipeline, Act.perform_bind_ok hstep, Act.perform_bind, ih hothers,
      Act.perform_bind, Act.perform_bind]
    cases (runPipeline key rest two.text).perform w' with
    | mk r w'' =>
      cases r with
      | error e => rfl
      | ok last => simp [List.append_assoc]

/-- Reading a mapper whose entries can be read gives their steps. -/
theorem perform_compilePipeline {mapper : List Json} {steps : List Step}
    (h : mapper.mapM Step.ofJson = .ok steps) (key : TaskKey) (w : World) :
    ∃ j, (compilePipeline key mapper).perform w = (.ok steps, { w with journal := j }) := by
  unfold compilePipeline
  rw [Act.perform_bind_ok (Act.perform_ofFault_ok h w)]
  exact ⟨_, rfl⟩

/-- A step that checks for events has the name of the output that wins as its text. -/
theorem perform_check {key : TaskKey} {last : Step} (hlast : last.kind = .checkEvents)
    (text : String) (w : World) :
    (runPipeline key [last] text).perform w =
      match w.tracker.resolve key with
      | .ok (name, _) => (.ok ⟨name, []⟩, w)
      | .error f => (.error (.fault f), w) := by
  have hresolve := Tracker.perform_resolveTask key w
  have hrun : last.run key text = do return ⟨(← Tracker.resolveTask key).1, []⟩ := by
    unfold Step.run
    rw [hlast]
  rw [runPipeline, Act.perform_bind, hrun, Act.perform_bind, hresolve]
  cases w.tracker.resolve key with
  | error f => rfl
  | ok r => rfl

/-- An attempt at the task `t` gets as far as a last step that checks for events: the task is there,
its mapper can be read, and the steps before the last one succeed with what they have `earlier`
produced, in the world `w'`. -/
def ReachesCheck (w : World) (key : TaskKey) (input : String) (t : Task) (earlier : Progress)
    (w' : World) : Prop :=
  ∃ steps last, w.catalog.task? key.1 key.2 = some t ∧
    t.mapper.mapM Step.ofJson = .ok (steps ++ [last]) ∧ last.kind = .checkEvents ∧
    (do
      let _ ← Catalog.task key
      let _ ← compilePipeline key t.mapper
      runPipeline key steps input : Act Progress).perform w = (.ok earlier, w')

/-- Such an attempt goes on with the output that wins, and fails if there is none. -/
theorem perform_attempt_check {w w' : World} {key : TaskKey} {input : String} {t : Task}
    {earlier : Progress} (h : ReachesCheck w key input t earlier w') :
    (attempt key input).perform w =
      match w.tracker.resolve key with
      | .ok (name, _) => (conclude key t ⟨name, earlier.auxiliaries⟩).perform w'
      | .error f => (.error (.fault f), w') := by
  obtain ⟨steps, last, ht, hmapper, hlast, hrun⟩ := h
  -- nothing before the last step has changed the tracker
  have htracker : w'.tracker = w.tracker := by
    have hkeeps : Act.Keeps World.settled (do
        let _ ← Catalog.task key
        let _ ← compilePipeline key t.mapper
        runPipeline key steps input : Act Progress) :=
      (Catalog.keeps_task key).bind fun _ =>
        (keeps_compilePipeline key t.mapper).bind fun _ => keeps_runPipeline key steps input
    have hsame := hkeeps.map World.tracker w
    rw [hrun] at hsame
    exact hsame
  -- the attempt looks up this task and compiles these steps, of which all but the last are done
  obtain ⟨t', w₁, htask, hrest⟩ := Act.of_perform_bind_ok hrun
  obtain ⟨compiled, w₂, hcompile, hsteps⟩ := Act.of_perform_bind_ok hrest
  have ht' : t' = t := by
    obtain ⟨j, hfound⟩ := Catalog.perform_task_found ht
    rw [hfound, Prod.mk.injEq, Except.ok.injEq] at htask
    exact htask.1.symm
  subst ht'
  have hcompiled : compiled = steps ++ [last] := by
    obtain ⟨j, hread⟩ := perform_compilePipeline hmapper key w₁
    rw [hread, Prod.mk.injEq, Except.ok.injEq] at hcompile
    exact hcompile.1.symm
  subst hcompiled
  have hall := perform_runPipeline_append hsteps [last]
  rw [Act.perform_bind, perform_check hlast, htracker] at hall
  have hevaluate : (evaluate key t' input).perform w₁ =
      match w.tracker.resolve key with
      | .ok (name, _) => (.ok ⟨name, earlier.auxiliaries⟩, w')
      | .error f => (.error (.fault f), w') := by
    unfold evaluate
    rw [Act.perform_bind_ok hcompile, hall]
    cases w.tracker.resolve key with
    | error f => rfl
    | ok r => simp
  unfold attempt
  rw [Act.perform_bind_ok htask, Act.perform_bind, hevaluate]
  cases w.tracker.resolve key with
  | error f => rfl
  | ok r => rfl

/-! ### What a session says of a task -/

/-- The task was described last with these settings, its input being events, and no attempt has led
away from it in the `later` moments. -/
def Waits (b : Boundary) (moments : List Moment) (key : TaskKey) (settings : Table String Json)
    (later : List Moment) : Prop :=
  ∃ earlier m, moments = earlier ++ m :: later ∧ m.Describes b key settings ∧
    ∀ l ∈ later, (∀ others, ¬ l.Describes b key others) ∧ ¬ l.Leaves key

/-- The events that were passed on. -/
def passedOn (moments : List Moment) : List String :=
  moments.filterMap Moment.event?

variable {b : Boundary} {w : World} {key : TaskKey}

/-- The outputs of a task that waits are those of its settings, with the events that were passed on
since it was described. -/
theorem state?_of_waits (hb : b.Quiet) (operations : List Operation)
    {settings : Table String Json} {later : List Moment}
    (h : Waits b (history b operations w) key settings later) :
    ∃ p, Pending.ofJson (.obj settings) = .ok p ∧
      (finish b operations w).tracker.state? key = some (p.withFired (passedOn later)) := by
  obtain ⟨earlier, m, hsplit, hdescribes, hlater⟩ := h
  obtain ⟨p, hp, hchange⟩ := hdescribes.change
  -- to the tracker the description is an arming, and what follows leaves the task armed
  have htouch : ∀ c ∈ later.map Moment.change, ¬ c.Touches key := by
    intro c hc
    obtain ⟨l, hl, rfl⟩ := List.mem_map.mp hc
    rw [l.touches_change hb, not_or, not_exists]
    exact hlater l hl
  have hevents : (later.map Moment.change).filterMap Tracker.Change.event? = passedOn later := by
    have hsame : Tracker.Change.event? ∘ Moment.change = Moment.event? :=
      funext Moment.event?_change
    rw [List.filterMap_map, hsame]
    rfl
  refine ⟨p, hp, ?_⟩
  rw [tracker_finish hb, hsplit, List.map_append, List.map_cons, hchange, ← hevents]
  exact Tracker.state?_after_arm _ (Pending.withFired_nil_of_ofJson hp) _ htouch

/-- Where nothing was armed at first, a task that has outputs waits. -/
theorem waits_of_state? (hb : b.Quiet) (hw : w.tracker = Tracker.empty)
    (operations : List Operation) {q : Pending}
    (h : (finish b operations w).tracker.state? key = some q) :
    ∃ settings later, Waits b (history b operations w) key settings later := by
  rw [tracker_finish hb, hw] at h
  -- the last change that touched the task armed it, and only a description does that
  obtain ⟨earlier, p, later, hsplit, htouch⟩ := Tracker.exists_arm_of_state? h
  obtain ⟨before, rest, hmoments, hbefore, hrest⟩ := List.map_eq_append_iff.mp hsplit
  obtain ⟨m, after, hm, hchange, hafter⟩ := List.map_eq_cons_iff.mp hrest
  obtain ⟨settings, hdescribes, -⟩ := Moment.describes_of_change hb hchange
  refine ⟨settings, after, before, m, by rw [hmoments, hm], hdescribes, fun l hl => ?_⟩
  have hl' := htouch l.change (hafter ▸ List.mem_map_of_mem hl)
  rw [l.touches_change hb, not_or, not_exists] at hl'
  exact hl'

/-! ### The main result -/

/-- In a session of a new service, whose boundary does not call back, an attempt gets as far as a
last step that checks for events. If the task waits, then `p` being the outputs of the settings it
was described with and `events` what was passed on since: where exactly one output of `p` is
satisfied by `events` and subsumes all others that are, the attempt goes on with its name as the
result; where none is satisfied it fails so; where some are but not exactly one of them subsumes the
others, it fails as ambiguous. If the task does not wait, the attempt fails as if no event had ever
been passed on. -/
theorem attempt_after_session (hb : b.Quiet) (hw : w.tracker = Tracker.empty)
    (operations : List Operation) {input : String} {t : Task} {earlier : Progress} {w' : World}
    (h : ReachesCheck (finish b operations w) key input t earlier w') :
    (∀ settings later, Waits b (history b operations w) key settings later →
      ∃ p, Pending.ofJson (.obj settings) = .ok p ∧
        (∀ name, p.WinsBy (passedOn later) name →
          (∀ other, p.WinsBy (passedOn later) other → other = name) →
          (attempt key input).perform (finish b operations w)
            = (conclude key t ⟨name, earlier.auxiliaries⟩).perform w') ∧
        ((∀ name, ¬ p.SatisfiedBy (passedOn later) name) →
          (attempt key input).perform (finish b operations w)
            = (.error (.fault (.noOutput key.1 key.2
                (p.trackedEvents.filter (passedOn later).contains))), w')) ∧
        ((∃ name, p.SatisfiedBy (passedOn later) name) →
          (¬ ∃ name, p.WinsBy (passedOn later) name ∧
            ∀ other, p.WinsBy (passedOn later) other → other = name) →
          ∃ names, (attempt key input).perform (finish b operations w)
            = (.error (.fault (.ambiguous key.1 key.2 names
                (p.trackedEvents.filter (passedOn later).contains))), w'))) ∧
      ((¬ ∃ settings later, Waits b (history b operations w) key settings later) →
        (attempt key input).perform (finish b operations w)
          = (.error (.fault (.noOutput key.1 key.2 [])), w')) := by
  rw [perform_attempt_check h]
  refine ⟨?waits, ?idle⟩
  case waits =>
    -- what is armed is the outputs as they were described, with the events since then fired
    intro settings later hwaits
    obtain ⟨p, hp, hstate⟩ := state?_of_waits hb operations hwaits
    have hresolve : (finish b operations w).tracker.resolve key
        = (p.withFired (passedOn later)).winner key.1 key.2 := by
      unfold Tracker.resolve
      rw [hstate]
    refine ⟨p, hp, ?_⟩
    simp only [← p.wins_withFired, ← p.satisfied_withFired, ← p.firedEvents_withFired]
    rw [hresolve]
    refine ⟨?one, ?none, ?several⟩
    case one =>
      intro name hwins honly
      obtain ⟨o, -, hwinner⟩ := Pending.winner_of_unique key.1 key.2 hwins honly
      rw [hwinner]
    case none =>
      intro hnone
      rw [Pending.winner_of_none key.1 key.2 hnone]
    case several =>
      rintro ⟨name, hs⟩ hnot
      obtain ⟨names, hwinner⟩ := Pending.winner_of_several key.1 key.2 hs hnot
      exact ⟨names, by rw [hwinner]⟩
  case idle =>
    -- nothing is armed, for whatever is armed was described
    intro hnot
    have hstate : (finish b operations w).tracker.state? key = none := by
      cases hs : (finish b operations w).tracker.state? key with
      | none => rfl
      | some q => exact absurd (waits_of_state? hb hw operations hs) hnot
    unfold Tracker.resolve
    rw [hstate]

/-- A task is described, its event is passed on, and the attempt goes on with the one output. -/
theorem attempt_after_session_done :
    let key : TaskKey := ("l", "t")
    let settings : Table String Json := [("done", .obj [("events", .arr [.str "e"])])]
    let t : Task :=
      { id := "t", prompt := "Wait", input := ⟨"external_events", settings⟩
        mapper := [.str "input", .str "check_external_events"]
        effects := [("done", ⟨.null, [], false, none⟩)] }
    let lesson : Lesson := ⟨"l", "A lesson", "t", ["console"], [("t", t)]⟩
    let w := { World.fresh Host.bare ⟨[lesson], [], none⟩ with connection := .memory ⟨1, some []⟩ }
    let operations : List Operation := [.describe key, .notify "e"]
    let b := Boundary.logging
    b.Quiet ∧ w.tracker = Tracker.empty ∧
      (∃ later, Waits b (history b operations w) key settings later) ∧
      (∃ w', ReachesCheck (finish b operations w) key "go" t ⟨"go", []⟩ w' ∧
        (attempt key "go").perform (finish b operations w)
          = (conclude key t ⟨"done", []⟩).perform w') ∧
      ((attempt key "go").perform (finish b operations w)).1.toOption = some ("[]", "t") := by
  intro key settings t lesson w operations b
  let p : Pending := ⟨[("done", ⟨[("e", false)], [], false⟩)], by decide⟩
  have hp : Pending.ofJson (.obj settings) = .ok p := rfl
  -- the description is the first moment, and the later one only passes an event on
  have hwaits : Waits b (history b operations w) key settings
      (history b [.notify "e"] ((Operation.describe key).after b w)) := by
    have ht : w.catalog.task? key.1 key.2 = some t := rfl
    obtain ⟨answer, w', hdescribe, -⟩ := perform_describe_events Boundary.quiet_logging ht rfl hp
    have hdescribes : Moment.Describes b ⟨.describe key, w⟩ key settings :=
      ⟨rfl, ⟨answer, by rw [hdescribe]⟩, t, ht, rfl, rfl⟩
    refine ⟨[], ⟨.describe key, w⟩, rfl, hdescribes, fun l hl => ?_⟩
    rw [List.mem_singleton.mp hl]
    exact ⟨fun _ hd => (nomatch hd.1), fun ⟨_, _, _, ho, _⟩ => (nomatch ho)⟩
  -- the attempt gets as far as its last step
  have ht : (finish b operations w).catalog.task? key.1 key.2 = some t := rfl
  have hmapper : t.mapper.mapM Step.ofJson
      = .ok ([⟨.input, .null⟩] ++ [⟨.checkEvents, .null⟩]) := rfl
  have hinput : ∀ v, (runPipeline key [⟨.input, .null⟩] "go").perform v = (.ok ⟨"go", []⟩, v) :=
    fun _ => rfl
  obtain ⟨j, htask⟩ := Catalog.perform_task_found ht
  obtain ⟨j', hcompile⟩ := perform_compilePipeline hmapper key
    { finish b operations w with journal := j }
  have hreach : ReachesCheck (finish b operations w) key "go" t ⟨"go", []⟩
      { finish b operations w with journal := j' } := by
    refine ⟨_, _, ht, hmapper, rfl, ?_⟩
    rw [Act.perform_bind_ok htask, Act.perform_bind_ok hcompile, hinput]
  obtain ⟨hdecided, -⟩ := attempt_after_session Boundary.quiet_logging rfl operations hreach
  obtain ⟨q, hq, hone, -⟩ := hdecided settings _ hwaits
  rw [hp, Except.ok.injEq] at hq
  subst hq
  -- there is one output, and it waits for no other event
  have hsatisfied : ∀ {other}, p.SatisfiedBy ["e"] other → other = "done" := by
    rintro other ⟨o, ho, -⟩
    have hmem : other ∈ p.outputs.keys := by rw [← Table.isSome_get?, ho]; rfl
    exact List.mem_singleton.mp hmem
  have hwins : p.WinsBy ["e"] "done" :=
    ⟨⟨_, rfl, fun _ he => he⟩, fun other hs hne => absurd (hsatisfied hs) hne⟩
  have hdone := hone "done" hwins fun other h => hsatisfied h.1
  exact ⟨Boundary.quiet_logging, rfl, ⟨_, hwaits⟩, ⟨_, hreach, hdone⟩, by decide +kernel⟩

end Tutor.Service
