import Tutor.Proofs.Service.Presentation
import Tutor.Proofs.Tables

namespace Tutor

/-!
# The programs that an attempt calls

Steps and side effects call programs, one after the other, and the first failure ends it all.

* `Shell.get?_overlay` — the environment of a call, variable by variable;
* `Act.Makes` — the calls that an operation makes, which end with the first program that breaks
  down; `Makes.bind_ok` and `Makes.bind_error` put two operations together;
* `Step.calls`, `sideEffectCalls` — the calls of one step and of one side effect;
* `trail` — the items that are gone through until one fails; `executedBy` are the steps and the side
  effects that an attempt goes through, `Executed.calls` their calls;
* `Exhausted`, `Service.Concludes`, `Service.Thorough` — how far side effects, results and attempts
  go;
* `Service.attempt_calls` — these are the calls that the attempt makes, and it goes as far as it
  can.
-/

/-! ### Calls -/

namespace Shell

/-- The call that runs some code. -/
def callOf (code : String) (environment : Table String String) : Call :=
  ⟨["/bin/bash", "-c", code ++ "; exit 0"], environment⟩

/-- How the code fails if its program breaks down: what the system refuses, or cannot find, or makes
no sense of, is a fault; anything else goes through. -/
def breakdown (code : String) (why : RunnerFlaw) (message : String) : Failure :=
  match why with
  | .system | .notFound | .badRequest => .fault (.processFailed code message)
  | .broken => .runner .broken message

/-- Under each name there is the last value that is set, as text, or else what was there. -/
theorem get?_overlay (environment : Table String String) (members : List (String × Json))
    (name : String) :
    (overlay environment members).get? name
      = ((Table.get? members.reverse name).map Json.text).or (environment.get? name) := by
  induction members generalizing environment with
  | nil => rfl
  | cons m rest ih =>
    have hoverlay : overlay environment (m :: rest)
        = overlay (environment.put m.1 m.2.text) rest := rfl
    rw [hoverlay, ih, Table.get?_put, List.reverse_cons, Table.get?_append, Table.get?_cons,
      Table.get?_nil]
    cases Table.get? rest.reverse name with
    | some value => rfl
    | none =>
      by_cases h : m.1 = name
      · rw [if_pos h, if_pos h]
        rfl
      · rw [if_neg h, if_neg h]
        rfl

end Shell

namespace Act

variable {α β : Type}

/-- What there is around the programs that are called: the environment, what runs them, and the
calls so far. -/
def surroundings (w : World) : Table String String × Runner × List Call :=
  (w.host.environment, w.host.runner, w.host.calls)

/-- In the world `w` the operation makes these calls, in order. -/
structure Makes (a : Act α) (w : World) (calls : List Call) : Prop where
  made : (a.perform w).2.host.calls = calls.reverse ++ w.host.calls
  environment : (a.perform w).2.host.environment = w.host.environment
  runner : (a.perform w).2.host.runner = w.host.runner
  /-- A program that breaks down is the last one, and the operation fails. -/
  stops : ∀ earlier c later why m, calls = earlier ++ c :: later →
    w.host.runner (earlier.reverse ++ w.host.calls) c = .failed why m →
    later = [] ∧ ∃ code, c = Shell.callOf code c.environment ∧
      (a.perform w).1 = .error (Shell.breakdown code why m)

namespace Makes

variable {a : Act α} {w w' : World} {cs ds : List Call}

/-- An operation that leaves the surroundings of programs alone makes no calls. -/
theorem of_keeps (h : Keeps surroundings a) (w : World) : Makes a w [] := by
  have hw := h w
  simp only [surroundings, Prod.mk.injEq] at hw
  exact ⟨hw.2.2, hw.1, hw.2.1, fun _ _ _ _ _ h =>
    absurd h.symm (List.append_ne_nil_of_right_ne_nil _ (List.cons_ne_nil _ _))⟩

/-- After a first part that succeeds, the second part adds its calls. -/
theorem bind_ok {f : α → Act β} {x : α} (ha : Makes a w cs) (h : a.perform w = (.ok x, w'))
    (hf : Makes (f x) w' ds) : Makes (a >>= f) w (cs ++ ds) := by
  obtain ⟨hmade, henvironment, hrunner, hstops⟩ := ha
  rw [h] at hmade henvironment hrunner hstops
  refine ⟨?_, ?_, ?_, fun earlier c later why m hsplit hfails => ?_⟩
  · rw [perform_bind_ok h, hf.made, hmade, List.reverse_append, List.append_assoc]
  · rw [perform_bind_ok h, hf.environment, henvironment]
  · rw [perform_bind_ok h, hf.runner, hrunner]
  · rw [perform_bind_ok h]
    -- the call is one of the second part, since the first part has not failed
    have hsecond : ∃ others, earlier = cs ++ others ∧ ds = others ++ c :: later := by
      rcases List.append_eq_append_iff.mp hsplit with ⟨others, rfl, hds⟩ | ⟨others, rfl, hothers⟩
      · exact ⟨others, rfl, hds⟩
      · cases others with
        | nil => exact ⟨[], by rw [List.append_nil, List.append_nil], hothers.symm⟩
        | cons d rest =>
          obtain ⟨rfl, hrest⟩ := List.cons.inj hothers
          obtain ⟨-, code, -, hfailed⟩ := hstops earlier c rest why m rfl hfails
          cases hfailed
    obtain ⟨others, rfl, hds⟩ := hsecond
    refine hf.stops others c later why m hds ?_
    rw [hrunner, hmade, ← List.append_assoc, ← List.reverse_append]
    exact hfails

/-- After a first part that fails, there are no more calls. -/
theorem bind_error {f : α → Act β} {e : Failure} (ha : Makes a w cs)
    (h : a.perform w = (.error e, w')) : Makes (a >>= f) w cs := by
  obtain ⟨hmade, henvironment, hrunner, hstops⟩ := ha
  rw [h] at hmade henvironment hrunner hstops
  have hbind : (a >>= f).perform w = (.error e, w') := perform_bind_error h
  refine ⟨?_, ?_, ?_, fun earlier c later why m hsplit hfails => ?_⟩
  · rw [hbind, hmade]
  · rw [hbind, henvironment]
  · rw [hbind, hrunner]
  · obtain ⟨hlast, code, hcode, hfailed⟩ := hstops earlier c later why m hsplit hfails
    rw [hbind]
    exact ⟨hlast, code, hcode, congrArg Except.error (Except.error.inj hfailed)⟩

/-- Calls are made in a world with its host; what else differs is nothing to them. -/
theorem congr {b : Act α} {u : World} (h : Makes b u cs) (hperform : a.perform w = b.perform u)
    (hhost : w.host = u.host) : Makes a w cs := by
  obtain ⟨hmade, henvironment, hrunner, hstops⟩ := h
  rw [← hperform, ← hhost] at hmade henvironment hrunner
  rw [← hperform, ← hhost] at hstops
  exact ⟨hmade, henvironment, hrunner, hstops⟩

/-- An operation that goes on in silence adds no calls. -/
theorem bind_keeps {f : α → Act β} (ha : Makes a w cs) (hf : ∀ x, Keeps surroundings (f x)) :
    Makes (a >>= f) w cs := by
  cases h : a.perform w with
  | mk r w' =>
    cases r with
    | error e => exact ha.bind_error h
    | ok x => exact List.append_nil cs ▸ ha.bind_ok h (of_keeps (hf x) w')

/-- Before the second part there is a first one in silence. -/
theorem of_keeps_bind {f : α → Act β} {x : α} (ha : Keeps surroundings a)
    (h : a.perform w = (.ok x, w')) (hf : Makes (f x) w' ds) : Makes (a >>= f) w ds :=
  (of_keeps ha w).bind_ok h hf

/-- A first part that fails in silence is all. -/
theorem of_keeps_error {f : α → Act β} {e : Failure} (ha : Keeps surroundings a)
    (h : a.perform w = (.error e, w')) : Makes (a >>= f) w [] :=
  (of_keeps ha w).bind_error h

end Makes

end Act

open Act (Makes Keeps discreet_alike)

/-! ### One step -/

/-- How running some code ends. -/
def Shell.ending (code : String) : RunOutcome → Except Failure RunResult
  | .finished r => .ok r
  | .failed why m => .error (breakdown code why m)

/-- Running code calls its program, with some variables on top of the environment, and ends as the
program does. -/
theorem Shell.perform_execute (code : String) (overrides : List (String × Json)) (w : World) :
    let c := callOf code (overlay w.host.environment overrides)
    ∃ j, (execute code overrides).perform w = (ending code (w.host.runner w.host.calls c),
      { w with journal := j, host := { w.host with calls := c :: w.host.calls } }) := by
  intro c
  let w' : World :=
    { w with journal := .log .debug .steps s!"Executing shell code: {code}" :: w.journal }
  have hcall : (Act.call c).perform w' = (.ok (w.host.runner w.host.calls c),
      { w' with host := { w.host with calls := c :: w.host.calls } }) := rfl
  refine ⟨w'.journal, ?_⟩
  unfold execute
  rw [Act.perform_bind_ok (Act.perform_get w), Act.perform_bind_ok (Act.perform_log _ _ _ w)]
  refine (Act.perform_bind_ok hcall).trans ?_
  cases w.host.runner w.host.calls c with
  | finished r => rfl
  | failed why m => cases why <;> rfl

/-- Running code makes one call. -/
theorem Shell.makes_execute (code : String) (overrides : List (String × Json)) (w : World) :
    Makes (execute code overrides) w [callOf code (overlay w.host.environment overrides)] := by
  obtain ⟨j, hexecute⟩ := perform_execute code overrides w
  refine ⟨by rw [hexecute]; rfl, by rw [hexecute], by rw [hexecute],
    fun earlier c later why m hsplit hfails => ?_⟩
  cases earlier with
  | nil =>
    obtain ⟨rfl, rfl⟩ := List.cons.inj hsplit
    have hends : w.host.runner w.host.calls (callOf code (overlay w.host.environment overrides))
        = .failed why m := hfails
    rw [hexecute, hends]
    exact ⟨rfl, code, rfl, rfl⟩
  | cons d rest =>
    have hnone : [] = rest ++ c :: later := (List.cons.inj hsplit).2
    exact absurd hnone.symm (List.append_ne_nil_of_right_ne_nil _ (List.cons_ne_nil _ _))

/-- The call that runs some code, if there is code and the settings are in order. -/
def callsWith (environment : Table String String) (settings : Json) (code : Option String) :
    List Call :=
  match code, stepVariables settings with
  | some code, .ok overrides => [Shell.callOf code (Shell.overlay environment overrides)]
  | _, _ => []

/-- The code of a shell step is called with the variables of the settings. -/
theorem makes_runShell (code : String) (settings : Json) (w : World) :
    Makes (runShell code settings) w (callsWith w.host.environment settings (some code)) := by
  unfold runShell callsWith
  cases hoverrides : stepVariables settings with
  | error f => exact Makes.of_keeps_error (Keeps.ofFault _) (Act.perform_ofFault_error rfl w)
  | ok overrides =>
    have hexecute := Shell.makes_execute code overrides w
    exact Makes.of_keeps_bind (Keeps.ofFault _) (Act.perform_ofFault_ok rfl w)
      (hexecute.bind_keeps fun r => Keeps.pure _)

/-- The code that a step runs on a text, if it runs any. -/
def Step.code? (step : Step) (text : String) : Option String :=
  match step.kind with
  | .shell => some text
  | .shellCustom => (customCommand step.value).toOption
  | .input | .regex | .waitMessage | .wrappedOutput | .checkEvents => none

/-- The call that a step makes, if it makes one. -/
def Step.calls (environment : Table String String) (step : Step) (text : String) : List Call :=
  callsWith environment step.value (step.code? text)

/-- A step makes the call that is its own. -/
theorem Step.makes_run (key : TaskKey) (step : Step) (text : String) (w : World) :
    Makes (step.run key text) w (step.calls w.host.environment text) := by
  unfold run calls code?
  cases step.kind with
  | input => exact Makes.of_keeps (Keeps.pure _) w
  | regex => exact Makes.of_keeps ((Keeps.ofExcept _).bind fun _ => Keeps.pure _) w
  | waitMessage => exact Makes.of_keeps (Keeps.bind (fun _ => rfl) fun _ => Keeps.pure _) w
  | wrappedOutput => exact Makes.of_keeps (Keeps.pure _) w
  | checkEvents =>
    refine Makes.of_keeps (Keeps.bind (fun w => ?_) fun _ => Keeps.pure _) w
    rw [Tracker.perform_resolveTask]
  | shell => exact (makes_runShell text step.value w).bind_keeps fun _ => Keeps.pure _
  | shellCustom =>
    dsimp only
    cases hcommand : customCommand step.value with
    | error f => exact Makes.of_keeps_error (Keeps.ofFault _) (Act.perform_ofFault_error rfl w)
    | ok command =>
      exact Makes.of_keeps_bind (Keeps.ofFault _) (Act.perform_ofFault_ok rfl w)
        ((makes_runShell command step.value w).bind_keeps fun _ => Keeps.pure _)

/-! ### One side effect -/

/-- The call that a side effect makes: none unless it is a command. -/
def sideEffectCalls (environment : Table String String) (sideEffect : Json) : List Call :=
  if (sideEffectKind sideEffect).isStr "shell" then
    match sideEffect.getD "value" .null with
    | .str command => [Shell.callOf command environment]
    | _ => []
  else []

/-- A value is one string only. -/
theorem Json.isStr_unique {j : Json} {s t : String} (hs : j.isStr s = true)
    (ht : j.isStr t = true) : s = t := by
  cases j with
  | str u =>
    have hs : u = s := beq_iff_eq.mp hs
    have ht : u = t := beq_iff_eq.mp ht
    exact hs.symm.trans ht
  | _ => cases hs

/-- A side effect makes the call that is its own. -/
theorem makes_applySideEffect (key : TaskKey) (unlocked : List String) (sideEffect : Json)
    (w : World) :
    Makes (applySideEffect key unlocked sideEffect) w
      (sideEffectCalls w.host.environment sideEffect) := by
  unfold applySideEffect sideEffectCalls
  by_cases hshell : (sideEffectKind sideEffect).isStr "shell" = true
  · have hunlock : ¬ (sideEffectKind sideEffect).isStr "unlock" = true := fun hunlock =>
      absurd (Json.isStr_unique hshell hunlock) (by decide)
    simp only [if_neg hunlock, if_pos hshell]
    cases sideEffect.getD "value" .null with
    | str command => exact (Shell.makes_execute command [] w).bind_keeps fun _ => Keeps.pure _
    | _ => exact Makes.of_keeps (Keeps.refuse _) w
  · simp only [if_neg hshell]
    refine Makes.of_keeps (Keeps.ite ?_ (Keeps.refuse _)) w
    exact (Keeps.ofFault _).bind fun names => Keeps.bind (fun _ => rfl) fun _ => Keeps.pure _

/-! ### Items one after the other -/

section Trail

variable {α σ β : Type} {step : α → σ → Act β} {next : β → σ}

/-- The items that are gone through, each with what it starts from: all of them, or those up to the
first that fails. -/
def trail (step : α → σ → Act β) (next : β → σ) : List α → σ → World → List (α × σ)
  | [], _, _ => []
  | x :: rest, s, w =>
    (x, s) ::
      match (step x s).perform w with
      | (.ok b, w') => trail step next rest (next b) w'
      | (.error _, _) => []

/-- What the journal holds is nothing to the items that are gone through. -/
theorem trail_of_alike (h : ∀ x s, Act.Blind (step x s)) (items : List α) (s : σ) {w u : World}
    (hwu : w.Alike u) : trail step next items s w = trail step next items s u := by
  induction items generalizing s w u with
  | nil => rfl
  | cons x rest ih =>
    have hstep := h x s w u hwu
    rw [trail, trail]
    cases hw : (step x s).perform w with
    | mk r w' =>
      cases hu : (step x s).perform u with
      | mk r' u' =>
        rw [hw, hu] at hstep
        obtain ⟨rfl, hworld⟩ := hstep
        cases r with
        | error e => rfl
        | ok b => exact congrArg ((x, s) :: ·) (ih (next b) hworld)

/-- The items that are gone through are the first ones. -/
theorem trail_isPrefix (items : List α) (s : σ) (w : World) :
    (trail step next items s w).map Prod.fst <+: items := by
  induction items generalizing s w with
  | nil => exact List.nil_prefix
  | cons x rest ih =>
    rw [trail, List.map_cons]
    split
    · exact List.prefix_cons_inj x |>.mpr (ih _ _)
    · exact List.prefix_cons_inj x |>.mpr List.nil_prefix

end Trail

/-- The calls of the steps that are gone through, in order. -/
def stepCalls (environment : Table String String) (steps : List (Step × String)) : List Call :=
  steps.flatMap fun s => s.1.calls environment s.2

/-- The steps that are gone through on the way from a text, each with the text that reaches it. -/
def stepTrail (key : TaskKey) : List Step → String → World → List (Step × String) :=
  trail (fun step text => step.run key text) Progress.text

/-- What the journal holds is nothing to the steps that are gone through. -/
theorem stepTrail_of_alike (key : TaskKey) (steps : List Step) (text : String) {w u : World}
    (h : w.Alike u) : stepTrail key steps text w = stepTrail key steps text u :=
  trail_of_alike (fun step text => step.respects_run discreet_alike key text fun _ => Act.blind_draw)
    steps text h

/-- Steps make the calls of those that are gone through. -/
theorem makes_runPipeline (key : TaskKey) (steps : List Step) (text : String) (w : World) :
    Makes (runPipeline key steps text) w
      (stepCalls w.host.environment (stepTrail key steps text w)) := by
  induction steps generalizing text w with
  | nil => exact Makes.of_keeps (Keeps.pure _) w
  | cons step rest ih =>
    have hstep := step.makes_run key text w
    rw [runPipeline, stepTrail, trail, stepCalls, List.flatMap_cons]
    cases hrun : (step.run key text).perform w with
    | mk r w' =>
      cases r with
      | error e => exact (List.append_nil _).symm ▸ hstep.bind_error hrun
      | ok first =>
        have henvironment := hstep.environment
        rw [hrun] at henvironment
        have hrest := ih first.text w'
        rw [henvironment] at hrest
        exact hstep.bind_ok hrun (hrest.bind_keeps fun _ => Keeps.pure _)

/-- The side effects that are gone through, each with the names that are unlocked before it. -/
def sideEffectTrail (key : TaskKey) : List Json → List String → World → List (Json × List String) :=
  trail (fun sideEffect unlocked => applySideEffect key unlocked sideEffect) id

/-- Side effects make the calls of those that are gone through. -/
theorem makes_applySideEffects (key : TaskKey) (sideEffects : List Json) (unlocked : List String)
    (w : World) :
    Makes (applySideEffects key sideEffects unlocked) w
      ((sideEffectTrail key sideEffects unlocked w).flatMap fun s =>
        sideEffectCalls w.host.environment s.1) := by
  induction sideEffects generalizing unlocked w with
  | nil => exact Makes.of_keeps (Keeps.pure _) w
  | cons s rest ih =>
    have hfirst := makes_applySideEffect key unlocked s w
    rw [applySideEffects, sideEffectTrail, trail, List.flatMap_cons]
    cases hrun : (applySideEffect key unlocked s).perform w with
    | mk r w' =>
      cases r with
      | error e => exact (List.append_nil _).symm ▸ hfirst.bind_error hrun
      | ok after =>
        have henvironment := hfirst.environment
        rw [hrun] at henvironment
        have hrest := ih after w'
        rw [henvironment] at hrest
        exact hfirst.bind_ok hrun hrest

/-! ### How far steps go -/

variable {key : TaskKey} {steps : List Step} {text : String} {w w' : World} {e : Failure}

/-- Steps that come to an end are all gone through. -/
theorem stepTrail_of_ok {p : Progress} (h : (runPipeline key steps text).perform w = (.ok p, w')) :
    (stepTrail key steps text w).map Prod.fst = steps := by
  induction steps generalizing text w w' p with
  | nil => rfl
  | cons step rest ih =>
    rw [runPipeline] at h
    obtain ⟨first, w₁, hfirst, h⟩ := Act.of_perform_bind_ok h
    obtain ⟨last, w₂, hlast, -⟩ := Act.of_perform_bind_ok h
    rw [stepTrail, trail, hfirst]
    exact congrArg (step :: ·) (ih hlast)

/-- A step and then others come to what the others come to, with the auxiliaries of all. -/
theorem perform_runPipeline_cons {step : Step} {rest : List Step} {p q : Progress} {u : World}
    (h : (step.run key text).perform w = (.ok p, w'))
    (hrest : (runPipeline key rest p.text).perform w' = (.ok q, u)) :
    (runPipeline key (step :: rest) text).perform w
      = (.ok ⟨q.text, p.auxiliaries ++ q.auxiliaries⟩, u) := by
  rw [runPipeline, Act.perform_bind_ok h, Act.perform_bind_ok hrest]
  rfl

/-- Of steps that fail, the last one that is gone through fails, on what those before it come to. -/
theorem stepTrail_of_error (h : (runPipeline key steps text).perform w = (.error e, w')) :
    ∃ before step p u, stepTrail key steps text w = before ++ [(step, p.text)] ∧
      (runPipeline key (before.map Prod.fst) text).perform w = (.ok p, u) ∧
      ((step.run key p.text).perform u).1 = .error e := by
  induction steps generalizing text w w' with
  | nil => cases h
  | cons step rest ih =>
    rw [runPipeline] at h
    rw [stepTrail, trail]
    cases hfirst : (step.run key text).perform w with
    | mk r w₁ =>
      cases r with
      | error e' =>
        -- the first step fails
        rw [Act.perform_bind_error hfirst, Prod.mk.injEq] at h
        exact ⟨[], step, ⟨text, []⟩, w, rfl, rfl, by rw [hfirst, h.1]⟩
      | ok first =>
        -- the first step goes well, and one of the others fails on what it comes to
        rw [Act.perform_bind_ok hfirst] at h
        have hrest : ∃ w₂, (runPipeline key rest first.text).perform w₁ = (.error e, w₂) := by
          cases hlast : (runPipeline key rest first.text).perform w₁ with
          | mk r w₂ =>
            cases r with
            | error e' =>
              rw [Act.perform_bind_error hlast, Prod.mk.injEq] at h
              exact ⟨w₂, by rw [h.1]⟩
            | ok last =>
              rw [Act.perform_bind_ok hlast] at h
              cases h
        obtain ⟨w₂, hrest⟩ := hrest
        obtain ⟨before, s, p, u, htrail, hbefore, hfails⟩ := ih hrest
        exact ⟨(step, text) :: before, s, ⟨p.text, first.auxiliaries ++ p.auxiliaries⟩, u,
          congrArg ((step, text) :: ·) htrail, perform_runPipeline_cons hfirst hbefore, hfails⟩

/-- The text that reaches a step is what the steps before it come to. -/
theorem of_stepTrail_eq {before after : List (Step × String)} {step : Step} {reached : String}
    (h : stepTrail key steps text w = before ++ (step, reached) :: after) :
    ∃ p u, (runPipeline key (before.map Prod.fst) text).perform w = (.ok p, u) ∧
      p.text = reached := by
  induction before generalizing steps text w with
  | nil =>
    cases steps with
    | nil => cases h
    | cons first rest =>
      cases (List.cons.inj h).1
      exact ⟨⟨reached, []⟩, w, rfl, rfl⟩
  | cons first others ih =>
    cases steps with
    | nil => cases h
    | cons s rest =>
      rw [stepTrail, trail, List.cons_append] at h
      obtain ⟨rfl, htrail⟩ := List.cons.inj h
      cases hfirst : (s.run key text).perform w with
      | mk r w₁ =>
        rw [hfirst] at htrail
        cases r with
        | error e =>
          -- no step is reached after one that fails
          exact absurd htrail.symm (List.append_ne_nil_of_right_ne_nil _ (List.cons_ne_nil _ _))
        | ok p =>
          obtain ⟨q, u, hothers, hreached⟩ := ih htrail
          exact ⟨_, u, perform_runPipeline_cons hfirst hothers, hreached⟩

/-- How far side effects go where it all ends like this: all of them are gone through, or those up
to the first that fails, and it all fails as that one does. -/
def Exhausted {α : Type} (key : TaskKey) (sideEffects done : List Json) (r : Except Failure α) :
    Prop :=
  done = sideEffects ∨ ∃ before s after unlocked v e, done = before ++ [s] ∧
    sideEffects = before ++ s :: after ∧
    ((applySideEffect key unlocked s).perform v).1 = .error e ∧ r = .error e

namespace Exhausted

variable {α β : Type} {sideEffects done : List Json} {r : Except Failure α}

/-- One more side effect comes before. -/
theorem cons (h : Exhausted key sideEffects done r) (s : Json) :
    Exhausted key (s :: sideEffects) (s :: done) r := by
  rcases h with rfl | ⟨before, x, after, unlocked, v, e, rfl, rfl, hfails, hr⟩
  · exact .inl rfl
  · exact .inr ⟨s :: before, x, after, unlocked, v, e, rfl, rfl, hfails, hr⟩

/-- What fails where the side effects fail can end otherwise where they do not. -/
theorem mono (h : Exhausted key sideEffects done r) {r' : Except Failure β}
    (hr' : ∀ e, r = .error e → r' = .error e) : Exhausted key sideEffects done r' :=
  h.imp_right fun ⟨before, s, after, unlocked, v, e, hdone, hall, hfails, hr⟩ =>
    ⟨before, s, after, unlocked, v, e, hdone, hall, hfails, hr' e hr⟩

/-- What comes after the side effects fails where they do. -/
theorem bind {a : Act α} {w : World} (h : Exhausted key sideEffects done (a.perform w).1)
    (f : α → Act β) : Exhausted key sideEffects done ((a >>= f).perform w).1 := by
  refine h.mono fun e he => ?_
  rw [Act.perform_bind_error (Prod.ext he rfl)]

/-- What comes before the side effects does not change how far they go. -/
theorem of_bind_ok {a : Act β} {f : β → Act α} {x : β} {w w' : World}
    (hfirst : a.perform w = (.ok x, w'))
    (h : Exhausted key sideEffects done ((f x).perform w').1) :
    Exhausted key sideEffects done ((a >>= f).perform w).1 := by
  rw [Act.perform_bind_ok hfirst]
  exact h

end Exhausted

/-- Side effects go as far as they can. -/
theorem exhausted_applySideEffects (key : TaskKey) (sideEffects : List Json)
    (unlocked : List String) (w : World) :
    Exhausted key sideEffects ((sideEffectTrail key sideEffects unlocked w).map Prod.fst)
      ((applySideEffects key sideEffects unlocked).perform w).1 := by
  induction sideEffects generalizing unlocked w with
  | nil => exact .inl rfl
  | cons s rest ih =>
    rw [sideEffectTrail, trail, List.map_cons, applySideEffects]
    cases hone : (applySideEffect key unlocked s).perform w with
    | mk r w₁ =>
      cases r with
      | error e =>
        rw [Act.perform_bind_error hone]
        exact .inr ⟨[], s, rest, unlocked, w, e, rfl, rfl, by rw [hone], rfl⟩
      | ok after => exact ((ih after w₁).cons s).of_bind_ok hone

/-! ### The effect of a result -/

/-- The side effects that a result leads to: those of its effect that are gone through. A reply that
makes no response ends it before them. -/
def resolved (key : TaskKey) (result : String) (effects : Table String Effect)
    (unlocked : List String) (w : World) : List Json :=
  match effects.get? result with
  | none => []
  | some effect =>
    match replyResponses effect.reply with
    | .error _ => []
    | .ok _ => (sideEffectTrail key effect.sideEffects (addUnique unlocked []) w).map Prod.fst

/-- Applying the effect of a result makes the calls of the side effects that it leads to. -/
theorem makes_resolveEffect {auxiliaries responses : List Json}
    (h : responsesOf auxiliaries = .ok responses) (key : TaskKey) (result : String)
    (effects : Table String Effect) (unlocked known : List String) (w : World) :
    Makes (resolveEffect key result effects auxiliaries unlocked known) w
      ((resolved key result effects unlocked w).flatMap (sideEffectCalls w.host.environment)) := by
  unfold resolveEffect resolved
  cases Table.get? effects result with
  | none => exact Makes.of_keeps (Keeps.refuse _) w
  | some effect =>
    dsimp only
    refine Makes.of_keeps_bind (Keeps.ofExcept _) (Act.perform_ofExcept_eq h w) ?_
    cases replyResponses effect.reply with
    | error f => exact Makes.of_keeps_error (Keeps.ofFault _) (Act.perform_ofFault_error rfl w)
    | ok reply =>
      refine Makes.of_keeps_bind (Keeps.ofFault _) (Act.perform_ofFault_ok rfl w) ?_
      rw [List.flatMap_map]
      refine (makes_applySideEffects key effect.sideEffects _ w).bind_keeps fun after => ?_
      exact Keeps.ite (Keeps.bind (fun _ => rfl) fun _ => Keeps.pure _) (Keeps.pure _)

/-- What the journal holds is nothing to the side effects that a result leads to. -/
theorem resolved_of_alike (key : TaskKey) (result : String) (effects : Table String Effect)
    (unlocked : List String) {w u : World} (h : w.Alike u) :
    resolved key result effects unlocked w = resolved key result effects unlocked u := by
  have htrail : ∀ sideEffects before, sideEffectTrail key sideEffects before w
      = sideEffectTrail key sideEffects before u := fun sideEffects before =>
    trail_of_alike (fun s before => respects_applySideEffect discreet_alike key before s)
      sideEffects before h
  simp only [resolved, htrail]

/-- A result fails without side effects if it has no effect, or one whose reply makes no response;
otherwise those of its effect go as far as they can. -/
theorem resolved_cases {auxiliaries responses : List Json}
    (h : responsesOf auxiliaries = .ok responses) (key : TaskKey) (result : String)
    (effects : Table String Effect) (unlocked known : List String) (w : World) :
    let r := ((resolveEffect key result effects auxiliaries unlocked known).perform w).1
    ((∀ effect, effects.get? result = some effect →
        ∃ f, replyResponses effect.reply = .error f) ∧
      resolved key result effects unlocked w = [] ∧ ∃ e, r = .error e) ∨
    ∃ effect, effects.get? result = some effect ∧
      Exhausted key effect.sideEffects (resolved key result effects unlocked w) r := by
  intro r
  simp only [r]
  unfold resolveEffect resolved
  cases heffect : Table.get? effects result with
  | none => exact .inl ⟨nofun, rfl, _, rfl⟩
  | some effect =>
    dsimp only
    rw [Act.perform_bind_ok (Act.perform_ofExcept_eq h w)]
    -- the reply comes before the side effects
    cases hreply : replyResponses effect.reply with
    | error f =>
      rw [Act.perform_bind_error (Act.perform_ofFault_error rfl w)]
      refine .inl ⟨fun other hother => ⟨f, ?_⟩, rfl, _, rfl⟩
      rw [← Option.some.inj hother]
      exact hreply
    | ok reply =>
      rw [Act.perform_bind_ok (Act.perform_ofFault_ok rfl w)]
      exact .inr ⟨effect, rfl, (exhausted_applySideEffects key effect.sideEffects _ w).bind _⟩

namespace Service

open Settings (unlockedKey knownKey)

/-- The side effects that a result leads to in an attempt. A list of lessons that cannot be read
ends it before them. -/
def concluded (key : TaskKey) (t : Task) (result : Progress) (w : World) : List Json :=
  match ((Settings.getStrings unlockedKey).perform w).1,
    ((Settings.getStrings knownKey).perform w).1 with
  | .ok unlocked, .ok _ => resolved key result.text t.effects unlocked w
  | _, _ => []

/-- Storing a list of names calls nothing. -/
theorem silent_storeChanged (key : String) (before after : List String) :
    Keeps Act.surroundings (storeChanged key before after) := by
  unfold storeChanged
  exact Keeps.ite (Settings.keeps_setValue (fun _ _ _ => rfl) _ _) (Keeps.pure _)

/-- Disarming a task calls nothing. -/
theorem silent_disarmTask (key : TaskKey) :
    Keeps Act.surroundings (Tracker.disarmTask key) := by
  intro w
  obtain ⟨j, hdisarm⟩ := Tracker.perform_disarmTask key w
  rw [hdisarm]
  rfl

/-- What an attempt makes of a result are the calls of the side effects that the result leads to. -/
theorem makes_conclude {result : Progress} {responses : List Json}
    (h : responsesOf result.auxiliaries = .ok responses) (key : TaskKey) (t : Task) (w : World) :
    Makes (conclude key t result) w
      ((concluded key t result w).flatMap (sideEffectCalls w.host.environment)) := by
  unfold conclude concluded
  cases hunlocked : (Settings.getStrings unlockedKey).perform w with
  | mk r w₁ =>
    obtain rfl : w₁ = w := (Settings.keeps_getStrings id unlockedKey).of_perform hunlocked
    cases r with
    | error e => exact Makes.of_keeps_error (Settings.keeps_getStrings _ _) hunlocked
    | ok unlocked =>
      refine Makes.of_keeps_bind (Settings.keeps_getStrings _ _) hunlocked ?_
      cases hknown : (Settings.getStrings knownKey).perform w₁ with
      | mk r w₂ =>
        obtain rfl : w₂ = w₁ := (Settings.keeps_getStrings id knownKey).of_perform hknown
        cases r with
        | error e => exact Makes.of_keeps_error (Settings.keeps_getStrings _ _) hknown
        | ok known =>
          refine Makes.of_keeps_bind (Settings.keeps_getStrings _ _) hknown ?_
          -- storing the lists and leaving the task make no calls
          refine (makes_resolveEffect h key result.text t.effects unlocked known w₂).bind_keeps
            fun outcome => ?_
          refine (silent_storeChanged _ _ _).bind fun _ => ?_
          refine (silent_storeChanged _ _ _).bind fun _ => ?_
          exact Keeps.ite ((silent_disarmTask key).bind fun _ => Keeps.pure _) (Keeps.pure _)

/-- What the journal holds is nothing to the side effects that a result leads to. -/
theorem concluded_of_alike (key : TaskKey) (t : Task) (result : Progress) {w u : World}
    (h : w.Alike u) : concluded key t result w = concluded key t result u := by
  have hnames : ∀ name, ((Settings.getStrings name).perform w).1
      = ((Settings.getStrings name).perform u).1 := fun name =>
    (Settings.respects_getStrings discreet_alike name w u h).1
  simp only [concluded, hnames, resolved_of_alike _ _ _ _ h]

/-- Nothing is executed for a result: a list of lessons cannot be read, or the result has no effect,
or one whose reply makes no response. -/
def Fruitless (t : Task) (result : Progress) (w : World) : Prop :=
  (∃ e, ((Settings.getStrings unlockedKey).perform w).1 = .error e) ∨
    (∃ e, ((Settings.getStrings knownKey).perform w).1 = .error e) ∨
    ∀ effect, t.effects.get? result.text = some effect → ∃ f, replyResponses effect.reply = .error f

/-- How far the side effects of a result go where the attempt ends like this. -/
def Concludes (key : TaskKey) (t : Task) (result : Progress) (w : World) (done : List Json)
    (r : Except Failure (String × String)) : Prop :=
  (Fruitless t result w ∧ done = [] ∧ ∃ e, r = .error e) ∨
    ∃ effect, t.effects.get? result.text = some effect ∧ Exhausted key effect.sideEffects done r

/-- What the journal holds is nothing to how far the side effects of a result go. -/
theorem Concludes.of_alike {key : TaskKey} {t : Task} {result : Progress} {w u : World}
    {done : List Json} {r : Except Failure (String × String)} (h : Concludes key t result w done r)
    (hwu : w.Alike u) : Concludes key t result u done r := by
  have hnames : ∀ name, ((Settings.getStrings name).perform w).1
      = ((Settings.getStrings name).perform u).1 := fun name =>
    (Settings.respects_getStrings discreet_alike name w u hwu).1
  unfold Concludes Fruitless at h ⊢
  simp only [← hnames]
  exact h

/-- The side effects that a result leads to go as far as they can. -/
theorem concludes_conclude {result : Progress} {responses : List Json}
    (h : responsesOf result.auxiliaries = .ok responses) (key : TaskKey) (t : Task) (w : World) :
    Concludes key t result w (concluded key t result w)
      ((conclude key t result).perform w).1 := by
  unfold conclude concluded
  cases hunlocked : (Settings.getStrings unlockedKey).perform w with
  | mk r w₁ =>
    obtain rfl : w₁ = w := (Settings.keeps_getStrings id unlockedKey).of_perform hunlocked
    cases r with
    | error e =>
      rw [Act.perform_bind_error hunlocked]
      exact .inl ⟨.inl ⟨e, by rw [hunlocked]⟩, rfl, e, rfl⟩
    | ok unlocked =>
      rw [Act.perform_bind_ok hunlocked]
      cases hknown : (Settings.getStrings knownKey).perform w₁ with
      | mk r w₂ =>
        obtain rfl : w₂ = w₁ := (Settings.keeps_getStrings id knownKey).of_perform hknown
        cases r with
        | error e =>
          rw [Act.perform_bind_error hknown]
          exact .inl ⟨.inr (.inl ⟨e, by rw [hknown]⟩), rfl, e, rfl⟩
        | ok known =>
          rw [Act.perform_bind_ok hknown]
          -- what comes after the side effects executes nothing
          rcases resolved_cases h key result.text t.effects unlocked known w₂ with
            ⟨hnone, hdone, e, he⟩ | ⟨effect, heffect, hexhausted⟩
          · rw [Act.perform_bind_error (Prod.ext he rfl)]
            exact .inl ⟨.inr (.inr hnone), hdone, e, rfl⟩
          · exact .inr ⟨effect, heffect, hexhausted.bind _⟩

/-- What an attempt executes: steps, each with the text that reaches it, and then side effects. -/
structure Executed where
  steps : List (Step × String)
  sideEffects : List Json

/-- The calls of what is executed, in order. -/
def Executed.calls (done : Executed) (environment : Table String String) : List Call :=
  stepCalls environment done.steps ++ done.sideEffects.flatMap (sideEffectCalls environment)

/-- What an attempt executes in a world. -/
def executedBy (key : TaskKey) (input : String) (w : World) : Executed :=
  match w.catalog.task? key.1 key.2 with
  | none => ⟨[], []⟩
  | some t =>
    match t.mapper.mapM Step.ofJson with
    | .error _ => ⟨[], []⟩
    | .ok steps =>
      { steps := stepTrail key steps input w
        sideEffects :=
          match (runPipeline key steps input).perform w with
          | (.ok result, w') => concluded key t result w'
          | (.error _, _) => [] }

/-- An attempt makes the calls of what it executes. -/
theorem makes_attempt (key : TaskKey) (input : String) (w : World) :
    Makes (attempt key input) w ((executedBy key input w).calls w.host.environment) := by
  unfold executedBy
  cases ht : w.catalog.task? key.1 key.2 with
  | none =>
    obtain ⟨j, htask⟩ := Catalog.perform_task_missing ht
    have hfails : (attempt key input).perform w
        = (Act.refuse (.taskNotFound key.1 key.2)).perform { w with journal := j } := by
      unfold attempt
      rw [Act.perform_bind_error htask]
      rfl
    exact (Makes.of_keeps (Keeps.refuse _) _).congr hfails rfl
  | some t =>
    dsimp only
    cases hsteps : t.mapper.mapM Step.ofJson with
    | error f =>
      have hrefuses : (attempt key input).perform w = (Act.refuse f).perform w :=
        perform_attempt_unreadable ht hsteps input
      exact (Makes.of_keeps (Keeps.refuse _) _).congr hrefuses rfl
    | ok steps =>
      obtain ⟨j, hattempt⟩ := perform_attempt_found ht hsteps input
      refine Makes.congr ?_ hattempt rfl
      dsimp only
      -- that the task has been looked up is in the journal only
      have halike : ({ w with journal := j } : World).Alike w := rfl
      have htrail := stepTrail_of_alike key steps input halike
      have hpipeline := makes_runPipeline key steps input { w with journal := j }
      have hrun := respects_runPipeline discreet_alike Act.blind_draw key steps input _ _ halike
      rw [htrail] at hpipeline
      cases hv : (runPipeline key steps input).perform { w with journal := j } with
      | mk r v' =>
        cases hw : (runPipeline key steps input).perform w with
        | mk r' w' =>
          rw [hv, hw] at hrun
          obtain ⟨rfl, hworld⟩ : r = r' ∧ v'.Alike w' := hrun
          unfold Executed.calls
          -- if the steps come through, the calls of the effect follow theirs
          cases r with
          | error e => exact (List.append_nil _).symm ▸ hpipeline.bind_error hv
          | ok result =>
            have hconclude := makes_conclude (responsesOf_runPipeline hv) key t v'
            have henvironment := hpipeline.environment
            rw [hv] at henvironment
            rw [concluded_of_alike key t result hworld, henvironment] at hconclude
            exact hpipeline.bind_ok hv hconclude

/-! ### The main result -/

/-- The call of a step has the code of the step and, under each name, the last value that the
settings of the step give it, or else that of the program's own environment. -/
theorem of_mem_calls {environment : Table String String} {step : Step} {text : String} {c : Call}
    (h : c ∈ step.calls environment text) :
    ∃ code overrides, step.code? text = some code ∧ stepVariables step.value = .ok overrides ∧
      c.argv = ["/bin/bash", "-c", code ++ "; exit 0"] ∧
      ∀ name, c.environment.get? name
        = ((Table.get? overrides.reverse name).map Json.text).or (environment.get? name) := by
  unfold Step.calls callsWith at h
  split at h
  · rename_i code overrides hcode hoverrides
    obtain rfl := List.mem_singleton.mp h
    exact ⟨code, overrides, hcode, hoverrides, rfl, Shell.get?_overlay environment overrides⟩
  · exact absurd h List.not_mem_nil

/-- The call of a side effect is its command in the program's own environment. -/
theorem of_mem_sideEffectCalls {environment : Table String String} {sideEffect : Json} {c : Call}
    (h : c ∈ sideEffectCalls environment sideEffect) :
    ∃ command, sideEffect.getD "value" .null = .str command ∧
      c.argv = ["/bin/bash", "-c", command ++ "; exit 0"] ∧ c.environment = environment := by
  unfold sideEffectCalls at h
  split at h
  · split at h
    · rename_i command hcommand
      obtain rfl := List.mem_singleton.mp h
      exact ⟨command, hcommand, rfl, rfl⟩
    · exact absurd h List.not_mem_nil
  · exact absurd h List.not_mem_nil

/-- How far an attempt goes: what it executes, given the steps of its task. -/
structure Thorough (key : TaskKey) (t : Task) (steps : List Step) (input : String) (w : World) :
    Prop where
  /-- The first steps are executed, in order. -/
  first : (executedBy key input w).steps.map Prod.fst <+: steps
  /-- The text that reaches a step is what the steps before it come to. -/
  texts : ∀ before step text after,
    (executedBy key input w).steps = before ++ (step, text) :: after →
    ∃ p u, (runPipeline key (before.map Prod.fst) input).perform w = (.ok p, u) ∧ p.text = text
  /-- A step that fails is the last thing that is executed, and the attempt fails as it does. -/
  fails : ∀ e u, (runPipeline key steps input).perform w = (.error e, u) →
    ((attempt key input).perform w).1 = .error e ∧ (executedBy key input w).sideEffects = [] ∧
      ∃ before step p v, (executedBy key input w).steps = before ++ [(step, p.text)] ∧
        (runPipeline key (before.map Prod.fst) input).perform w = (.ok p, v) ∧
        ((step.run key p.text).perform v).1 = .error e
  /-- Otherwise all steps are executed, and then the side effects of the result as far as they
  go. -/
  ends : ∀ result u, (runPipeline key steps input).perform w = (.ok result, u) →
    (executedBy key input w).steps.map Prod.fst = steps ∧
      Concludes key t result u (executedBy key input w).sideEffects
        ((attempt key input).perform w).1

/-- An attempt goes as far as it can. -/
theorem thorough_attempt {key : TaskKey} {t : Task} {steps : List Step} {w : World}
    (ht : w.catalog.task? key.1 key.2 = some t) (hsteps : t.mapper.mapM Step.ofJson = .ok steps)
    (input : String) : Thorough key t steps input w := by
  have hdone : executedBy key input w = ⟨stepTrail key steps input w,
      match (runPipeline key steps input).perform w with
      | (.ok result, w') => concluded key t result w'
      | (.error _, _) => []⟩ := by
    unfold executedBy
    rw [ht]
    dsimp only
    rw [hsteps]
  obtain ⟨j, hattempt⟩ := perform_attempt_found ht hsteps input
  have hrun := respects_runPipeline discreet_alike Act.blind_draw key steps input
    { w with journal := j } w rfl
  refine ⟨?_, fun before step text after h => ?_, fun e u h => ?_, fun result u h => ?_⟩
  · rw [hdone]
    exact trail_isPrefix steps input w
  · rw [hdone] at h
    exact of_stepTrail_eq h
  · -- a step fails, here and in the attempt, which has one more entry in its journal
    obtain ⟨before, step, p, v, htrail, hbefore, hfails⟩ := stepTrail_of_error h
    cases hv : (runPipeline key steps input).perform { w with journal := j } with
    | mk r v' =>
      rw [hv, h] at hrun
      obtain ⟨rfl, -⟩ : r = .error e ∧ v'.Alike u := hrun
      rw [hdone, h, hattempt, Act.perform_bind_error hv]
      exact ⟨rfl, rfl, before, step, p, v, htrail, hbefore, hfails⟩
  · -- all steps go well, and the attempt is concluded
    rw [hdone, h]
    refine ⟨stepTrail_of_ok h, ?_⟩
    cases hv : (runPipeline key steps input).perform { w with journal := j } with
    | mk r v' =>
      rw [hv, h] at hrun
      obtain ⟨rfl, hworld⟩ : r = .ok result ∧ v'.Alike u := hrun
      rw [hattempt, Act.perform_bind_ok hv]
      have hconcludes := concludes_conclude (responsesOf_runPipeline hv) key t v'
      rw [concluded_of_alike key t result hworld] at hconcludes
      exact hconcludes.of_alike hworld

/-- **Exactly the planned programs run.** An attempt calls the programs of the steps and the side
effects that it executes, one after the other and nothing else; each call is made in the program's
own environment, which stays as it is, with the variables of that one step on top. A program that
breaks down is the last one, and the attempt fails for it. Steps are executed in order, on the text
that the steps before come to, until one fails; if none does, side effects are, until one fails. -/
theorem attempt_calls (key : TaskKey) (input : String) (w : World) :
    let done := executedBy key input w
    Makes (attempt key input) w (done.calls w.host.environment) ∧
      (∀ s ∈ done.steps, ∀ c ∈ s.1.calls w.host.environment s.2, ∃ code overrides,
        s.1.code? s.2 = some code ∧ stepVariables s.1.value = .ok overrides ∧
        c.argv = ["/bin/bash", "-c", code ++ "; exit 0"] ∧
        ∀ name, c.environment.get? name
          = ((Table.get? overrides.reverse name).map Json.text).or (w.host.environment.get? name)) ∧
      (∀ s ∈ done.sideEffects, ∀ c ∈ sideEffectCalls w.host.environment s, ∃ command,
        s.getD "value" .null = .str command ∧
        c.argv = ["/bin/bash", "-c", command ++ "; exit 0"] ∧
        c.environment = w.host.environment) ∧
      ∀ t steps, w.catalog.task? key.1 key.2 = some t → t.mapper.mapM Step.ofJson = .ok steps →
        Thorough key t steps input w :=
  ⟨makes_attempt key input w, fun _ _ _ hc => of_mem_calls hc,
    fun _ _ _ hc => of_mem_sideEffectCalls hc,
    fun _ _ ht hsteps => thorough_attempt ht hsteps input⟩

/-- Two steps set the same variable in their own ways, and then the first of two side effects breaks
down. -/
theorem attempt_calls_breakdown :
    let key : TaskKey := ("l", "t")
    let setting (value : Json) : Json := .obj [("A", value), ("HOME", .str "/a")]
    let effect : Effect :=
      { reply := .null
        sideEffects :=
          [.obj [("type", .str "shell"), ("value", .str "ls")],
            .obj [("type", .str "shell"), ("value", .str "pwd")]]
        completesLesson := false
        moveTo := none }
    let t : Task :=
      { id := "t", prompt := "Try", input := ⟨"text", []⟩
        mapper :=
          [.obj [("type", .str "shell"), ("value", .obj [("environment", setting (.int 1))])],
            .obj [("type", .str "shell_custom"),
              ("value", .obj [("command", .str "id"), ("environment", .obj [("A", .bool true)])])]]
        effects := [("done\n", effect)] }
    let host : Host :=
      { Host.bare with
        environment := [("HOME", "/h")]
        runner := fun earlier _ =>
          if earlier.length < 2 then .finished ⟨0, "done", ""⟩ else .failed .notFound "gone" }
    let lesson : Lesson := ⟨"l", "A lesson", "t", ["console"], [("t", t)]⟩
    let w : World :=
      { World.fresh host ⟨[lesson], [], none⟩ with connection := .memory ⟨1, some []⟩ }
    let answer := (attempt key "go").perform w
    answer.1 = .error (.fault (.processFailed "ls" "gone")) ∧
      answer.2.host.calls.reverse =
        [⟨["/bin/bash", "-c", "go; exit 0"], [("HOME", "/a"), ("A", "1")]⟩,
          ⟨["/bin/bash", "-c", "id; exit 0"], [("HOME", "/h"), ("A", "True")]⟩,
          ⟨["/bin/bash", "-c", "ls; exit 0"], [("HOME", "/h")]⟩] := by
  intro key setting effect t host lesson w answer
  obtain ⟨hmakes, -⟩ := attempt_calls key "go" w
  have hcalls : (executedBy key "go" w).calls w.host.environment =
      [⟨["/bin/bash", "-c", "go; exit 0"], [("HOME", "/a"), ("A", "1")]⟩,
        ⟨["/bin/bash", "-c", "id; exit 0"], [("HOME", "/h"), ("A", "True")]⟩] ++
      [Shell.callOf "ls" [("HOME", "/h")]] := by decide +kernel
  rw [hcalls] at hmakes
  obtain ⟨-, code, hcode, hfails⟩ := hmakes.stops _ _ _ .notFound "gone" rfl rfl
  -- the program that broke down is known by its arguments
  have hls : "ls" ++ "; exit 0" = code ++ "; exit 0" := by
    have hargv := congrArg Call.argv hcode
    exact (List.cons.inj (List.cons.inj (List.cons.inj hargv).2).2).1
  obtain rfl : "ls" = code := String.append_left_inj _ |>.mp hls
  refine ⟨hfails, ?_⟩
  rw [hmakes.made]
  rfl

end Service

end Tutor
