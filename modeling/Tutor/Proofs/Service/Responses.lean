import Tutor.Proofs.Effects.Resolution
import Tutor.Proofs.Service.Attempts

namespace Tutor

/-!
# Responses of an attempt

An attempt hands over what its steps add to the responses, and then the reply of the effect.

* `Service.outcomeOf` — what the effect of an attempt's result comes to; by `Service.of_attempt_ok`
  its responses are what the attempt hands over, and `Service.of_outcomeOf_ok` tells where they come
  from;
* `Step.Adds` — what a step adds, given the text that reaches it;
* `Contributions` — what the steps of a run add, each at its place;
* `Service.responses_of_attempt` — these are collected from every run that ends, and from every
  attempt that succeeds they are handed over before the reply.
-/

namespace Service

variable {key : TaskKey} {input text next : String} {w w' v : World} {outcome : Outcome}

/-! ### Responses of an attempt -/

/-- What the effect of an attempt's result comes to. -/
def outcomeOf (key : TaskKey) (input : String) : Act Outcome := do
  let t ← Catalog.task key
  let result ← evaluate key t input
  let unlocked ← Settings.getStrings Settings.unlockedKey
  let known ← Settings.getStrings Settings.knownKey
  resolveEffect key result.text t.effects result.auxiliaries unlocked known

/-- An attempt that succeeds hands over the responses of the outcome. -/
theorem of_attempt_ok (h : (attempt key input).perform w = (.ok (text, next), w')) :
    ∃ outcome v, (outcomeOf key input).perform w = (.ok outcome, v) ∧
      text = (Json.arr outcome.responses).write := by
  unfold attempt at h
  obtain ⟨t, w₁, htask, h⟩ := Act.of_perform_bind_ok h
  obtain ⟨result, w₂, hresult, h⟩ := Act.of_perform_bind_ok h
  unfold conclude at h
  obtain ⟨unlocked, w₃, hunlocked, h⟩ := Act.of_perform_bind_ok h
  obtain ⟨known, w₄, hknown, h⟩ := Act.of_perform_bind_ok h
  obtain ⟨outcome, v, houtcome, h⟩ := Act.of_perform_bind_ok h
  refine ⟨outcome, v, ?_, ?_⟩
  · unfold outcomeOf
    rw [Act.perform_bind_ok htask, Act.perform_bind_ok hresult, Act.perform_bind_ok hunlocked,
      Act.perform_bind_ok hknown, houtcome]
  · -- what is stored and disarmed is nothing to the text
    obtain ⟨_, w₅, -, h⟩ := Act.of_perform_bind_ok h
    obtain ⟨_, w₆, -, h⟩ := Act.of_perform_bind_ok h
    obtain ⟨w₇, hleave, -⟩ :=
      perform_leave key outcome.moveTo ((Json.arr outcome.responses).write, outcome.moveTo) w₆
    rw [hleave] at h
    cases h
    rfl

/-- The responses of an outcome are those that the steps of the task add, and then the one of the
reply, which is null, a string or an object. -/
theorem of_outcomeOf_ok (h : (outcomeOf key input).perform w = (.ok outcome, v)) :
    ∃ t steps p u j effect, w.catalog.task? key.1 key.2 = some t ∧
      t.mapper.mapM Step.ofJson = .ok steps ∧
      (runPipeline key steps input).perform { w with journal := j } = (.ok p, u) ∧
      t.effects.get? p.text = some effect ∧ Presentable effect.reply ∧
      outcome.responses = shown key steps input w ++ repliesOf effect.reply := by
  unfold outcomeOf evaluate at h
  cases ht : w.catalog.task? key.1 key.2 with
  | none =>
    obtain ⟨j, htask⟩ := Catalog.perform_task_missing ht
    rw [Act.perform_bind_error htask] at h
    cases h
  | some t =>
    obtain ⟨j, htask⟩ := Catalog.perform_task_found ht
    rw [Act.perform_bind_ok htask, bind_assoc] at h
    cases hsteps : t.mapper.mapM Step.ofJson with
    | error f =>
      rw [Act.perform_bind_error (perform_compilePipeline_error hsteps key _)] at h
      cases h
    | ok steps =>
      obtain ⟨j', hcompile⟩ := perform_compilePipeline hsteps key { w with journal := j }
      rw [Act.perform_bind_ok hcompile] at h
      -- after the steps both lists are read, and then the effect is resolved
      obtain ⟨p, u, hrun, h⟩ := Act.of_perform_bind_ok h
      obtain ⟨unlocked, w₁, -, h⟩ := Act.of_perform_bind_ok h
      obtain ⟨known, w₂, -, h⟩ := Act.of_perform_bind_ok h
      obtain ⟨effect, heffect, -⟩ := resolveEffect_ok h
      have hresolves := resolves_resolveEffect heffect (responsesOf_runPipeline hrun) key unlocked
        known w₂
      rw [h] at hresolves
      obtain ⟨hpresentable, hresponses⟩ := hresolves.of_ok
      -- what the steps show does not depend on the journal
      have halike : ({ w with journal := j' } : World).Alike w := rfl
      rw [shown_of_alike key steps input halike] at hresponses
      exact ⟨t, steps, p, u, j', effect, rfl, hsteps, hrun, heffect, hpresentable, hresponses⟩

/-- The responses that steps add in two parts. -/
theorem shown_append {before after : List Step} {p : Progress}
    (h : (runPipeline key before input).perform w = (.ok p, v)) :
    shown key (before ++ after) input w
      = shown key before input w ++ shown key after p.text v := by
  induction before generalizing input w p with
  | nil =>
    cases h
    rfl
  | cons step rest ih =>
    rw [runPipeline] at h
    obtain ⟨first, w₁, hfirst, h⟩ := Act.of_perform_bind_ok h
    obtain ⟨last, w₂, hlast, h⟩ := Act.of_perform_bind_ok h
    cases h
    have hrest := ih hlast
    rw [List.cons_append, shown, shown, hfirst, List.append_assoc]
    exact congrArg (step.shows input w ++ ·) hrest

/-- What a step adds has a type and a value that is a string. -/
theorem of_mem_shown {steps : List Step} {r : Json} (h : r ∈ shown key steps input w) :
    ∃ kind value, r = .obj [("type", .str kind), ("value", .str value)] := by
  induction steps generalizing input w with
  | nil => cases h
  | cons step rest ih =>
    rw [shown, List.mem_append] at h
    rcases h with hone | hothers
    · unfold Step.shows at hone
      split at hone
      · exact ⟨_, _, List.mem_singleton.mp hone⟩
      · exact ⟨_, _, List.mem_singleton.mp hone⟩
      · cases hone
    · split at hothers
      · exact ih hothers
      · cases hothers

end Service

/-! ### What each step adds -/

/-- What the step adds to the responses, given the text that reaches it: one of the messages for
those who wait, that text itself, or nothing. -/
inductive Step.Adds (step : Step) (text : String) : List Json → Prop
  | wait {message : String} (hkind : step.kind = .waitMessage) (h : message ∈ waitMessages) :
    Adds step text [.obj [("type", .str "scroll_wait"), ("value", .str message)]]
  | wrapped (hkind : step.kind = .wrappedOutput) :
    Adds step text [.obj [("type", .str "wrapped"), ("value", .str text)]]
  | nothing (hwait : step.kind ≠ .waitMessage) (hwrapped : step.kind ≠ .wrappedOutput) :
    Adds step text []

/-- A number that is drawn is that of a message. -/
theorem drawn_mem_waitMessages (n : Int) :
    waitMessages.getD (n % (waitMessages.length : Int)).toNat "" ∈ waitMessages := by
  have hlength : (0 : Int) < waitMessages.length := by decide
  have hlt : (n % (waitMessages.length : Int)).toNat < waitMessages.length := by
    have hnonneg := Int.emod_nonneg n hlength.ne'
    have hless := Int.emod_lt_of_pos n hlength
    omega
  rw [List.getD_eq_getElem?_getD, List.getElem?_eq_getElem hlt]
  exact List.getElem_mem hlt

/-- A step adds what it shows. -/
theorem Step.adds_shows (step : Step) (text : String) (w : World) :
    step.Adds text (step.shows text w) := by
  unfold shows
  cases hkind : step.kind with
  | waitMessage => exact .wait hkind (drawn_mem_waitMessages _)
  | wrappedOutput => exact .wrapped hkind
  | input | regex | shell | shellCustom | checkEvents =>
    exact .nothing (hkind ▸ nofun) (hkind ▸ nofun)

/-- The steps add these parts, each at its place: the text that reaches a step is what the steps
before it come to. -/
structure Contributions (key : TaskKey) (steps : List Step) (input : String) (w : World)
    (parts : List (List Json)) : Prop where
  length_eq : parts.length = steps.length
  added : ∀ before step after, steps = before ++ step :: after →
    ∃ q u part, (runPipeline key before input).perform w = (.ok q, u) ∧
      parts[before.length]? = some part ∧ step.Adds q.text part

variable {key : TaskKey} {input : String} {w w' : World}

/-- What the steps of a run show is what they add, part by part. -/
theorem exists_contributions {steps : List Step} {p : Progress}
    (h : (runPipeline key steps input).perform w = (.ok p, w')) :
    ∃ parts, Contributions key steps input w parts ∧ shown key steps input w = parts.flatten := by
  induction steps generalizing input w w' p with
  | nil =>
    refine ⟨[], ⟨rfl, fun before step after hsplit => ?_⟩, rfl⟩
    cases before <;> cases hsplit
  | cons step rest ih =>
    rw [runPipeline] at h
    obtain ⟨first, w₁, hfirst, h⟩ := Act.of_perform_bind_ok h
    obtain ⟨last, w₂, hlast, -⟩ := Act.of_perform_bind_ok h
    obtain ⟨parts, hparts, hshown⟩ := ih hlast
    refine ⟨step.shows input w :: parts, ⟨congrArg (· + 1) hparts.length_eq,
      fun before other after hsplit => ?_⟩, ?_⟩
    · cases before with
      | nil =>
        cases hsplit
        exact ⟨⟨input, []⟩, w, _, rfl, rfl, step.adds_shows input w⟩
      | cons _ before =>
        cases hsplit
        obtain ⟨q, u, part, hrun, hpart, hadds⟩ := hparts.added before other after rfl
        -- the first step runs before those that run from its text
        refine ⟨⟨q.text, first.auxiliaries ++ q.auxiliaries⟩, u, part, ?_, hpart, hadds⟩
        rw [runPipeline, Act.perform_bind_ok hfirst, Act.perform_bind_ok hrun]
        rfl
    · rw [shown, hfirst, List.flatten_cons]
      exact congrArg (step.shows input w ++ ·) hshown

/-! ### The main result -/

namespace Service

/-- **Responses of an attempt.** Whatever steps have run, their auxiliaries hold what the steps add,
each at its place, and collecting it never fails. An attempt that succeeds has run the steps that
its task's mapper spells, one for each entry, and it hands over what they add, and then the response
of the reply, which is null, a string or an object. -/
theorem responses_of_attempt (key : TaskKey) (input : String) (w : World) :
    (∀ steps p w', (runPipeline key steps input).perform w = (.ok p, w') →
      ∃ parts, Contributions key steps input w parts ∧
        responsesOf p.auxiliaries = .ok parts.flatten) ∧
    ∀ text next w', (attempt key input).perform w = (.ok (text, next), w') →
      ∃ t steps p u effect parts, w.catalog.task? key.1 key.2 = some t ∧
        List.Forall₂ (fun entry step => Spells entry step.kind.name step.value) t.mapper steps ∧
        (runPipeline key steps input).perform w = (.ok p, u) ∧
        t.effects.get? p.text = some effect ∧ Presentable effect.reply ∧
        Contributions key steps input w parts ∧
        text = (Json.arr (parts.flatten ++ repliesOf effect.reply)).write := by
  refine ⟨fun steps p w' h => ?_, fun text next w' h => ?_⟩
  · obtain ⟨parts, hparts, hshown⟩ := exists_contributions h
    exact ⟨parts, hparts, hshown ▸ responsesOf_runPipeline h⟩
  · obtain ⟨outcome, v, houtcome, rfl⟩ := of_attempt_ok h
    obtain ⟨t, steps, p, u, j, effect, ht, hsteps, hrun, heffect, hreply, hresponses⟩ :=
      of_outcomeOf_ok houtcome
    -- the steps run alike without the record that their mapper was compiled
    have halike : ({ w with journal := j } : World).Alike w := rfl
    obtain ⟨hresult, -⟩ :=
      respects_runPipeline Act.discreet_alike Act.blind_draw key steps input _ w halike
    rw [hrun] at hresult
    have hrun' : (runPipeline key steps input).perform w
        = (.ok p, ((runPipeline key steps input).perform w).2) := Prod.ext hresult.symm rfl
    obtain ⟨parts, hparts, hshown⟩ := exists_contributions hrun'
    refine ⟨t, steps, p, _, effect, parts, ht, ?_, hrun', heffect, hreply, hparts, ?_⟩
    · exact (forall₂_mapM hsteps).imp fun _ _ => Step.ofJson_eq_ok_iff.mp
    · rw [hresponses, hshown]

/-- A bundled task with four steps: each has its part in what an attempt hands over before the
reply. -/
theorem responses_of_attempt_bundled :
    let key : TaskKey := ("intro", "begin")
    let host : Host := { Host.bare with runner := fun _ _ => .finished ⟨0, "𝄞 été\n", ""⟩ }
    let w : World :=
      { World.fresh host ⟨bundledLessons, [], none⟩ with connection := .memory ⟨1, some []⟩ }
    ∃ text next w' steps reply parts, (attempt key "whoami").perform w = (.ok (text, next), w') ∧
      parts.length = 4 ∧ Contributions key steps "whoami" w parts ∧
      text = (Json.arr (parts.flatten ++ repliesOf reply)).write := by
  intro key host w
  have hsome : ((attempt key "whoami").perform w).1.toOption.isSome = true := by decide +kernel
  cases hattempt : (attempt key "whoami").perform w with
  | mk r w' =>
    rw [hattempt] at hsome
    cases r with
    | error e => cases hsome
    | ok answer =>
      obtain ⟨t, steps, p, u, effect, parts, ht, hspelled, -, -, -, hparts, htext⟩ :=
        (responses_of_attempt key "whoami" w).2 _ _ _ hattempt
      cases ht
      exact ⟨_, _, w', steps, effect.reply, parts, rfl,
        hparts.length_eq.trans hspelled.length_eq.symm, hparts, htext⟩

end Service

end Tutor
