import Tutor.Proofs.Course.Documents
import Tutor.Proofs.Service.Journal
import Tutor.Proofs.Steps.Compilation

namespace Tutor

/-!
# Steps that only present something

Steps of three kinds pass their text on as it is: the plain input, the message for those who wait,
and the text that is wrapped for display. Taking any of them out of a mapper leaves an attempt with
the outcome it has; it only takes their responses away.

* `Presents`, `Thinned` — an entry of such a kind, and a mapper that some such entries were taken
  out of;
* `World.Parallel` — worlds that may differ in lessons, in the journal and in what is drawn by
  chance, and in nothing else;
* `shown` — the responses that steps add;
* `follows_thinned` — the steps that are left come to the same text;
* `Service.attempt_thinned` — the attempt has the same outcome, and what was taken out is the first
  part of the responses.
-/

open Act (Follows Paired Respects)

/-! ### Thinning a mapper -/

/-- Steps of this kind pass their text on and cannot fail. -/
def StepKind.presents : StepKind → Bool
  | .input | .waitMessage | .wrappedOutput => true
  | .regex | .shell | .shellCustom | .checkEvents => false

/-- The step is of such a kind. -/
def Step.Presents (step : Step) : Prop :=
  step.kind.presents = true

/-- A well-formed entry of such a kind, with any value. -/
def Presents (entry : Json) : Prop :=
  ∃ step, Step.ofJson entry = .ok step ∧ step.Presents

/-- The second list is the first one without some of the items that `P` holds of. -/
inductive Thinned {α : Type} (P : α → Prop) : List α → List α → Prop
  | nil : Thinned P [] []
  | keep (x : α) {all left : List α} (h : Thinned P all left) : Thinned P (x :: all) (x :: left)
  | drop {x : α} (hx : P x) {all left : List α} (h : Thinned P all left) :
    Thinned P (x :: all) left

/-- A thinned mapper has the flaw of the whole one, or its steps are a thinned list of the steps of
the whole one. -/
theorem Thinned.read {mapper thin : List Json} (h : Thinned Presents mapper thin) :
    (∃ f, mapper.mapM Step.ofJson = .error f ∧ thin.mapM Step.ofJson = .error f) ∨
      ∃ steps left, mapper.mapM Step.ofJson = .ok steps ∧ thin.mapM Step.ofJson = .ok left ∧
        Thinned Step.Presents steps left := by
  induction h with
  | nil => exact .inr ⟨[], [], rfl, rfl, .nil⟩
  | keep entry _ ih =>
    rw [List.mapM_cons, List.mapM_cons]
    cases Step.ofJson entry with
    | error f => exact .inl ⟨f, rfl, rfl⟩
    | ok step =>
      rcases ih with ⟨f, hall, hleft⟩ | ⟨steps, left, hall, hleft, hsteps⟩
      · rw [hall, hleft]
        exact .inl ⟨f, rfl, rfl⟩
      · rw [hall, hleft]
        exact .inr ⟨step :: steps, step :: left, rfl, rfl, hsteps.keep step⟩
  | drop hentry _ ih =>
    -- an entry that is taken out could be read, so that the flaw is in the others
    obtain ⟨step, hread, hpresents⟩ := hentry
    rw [List.mapM_cons, hread]
    rcases ih with ⟨f, hall, hleft⟩ | ⟨steps, left, hall, hleft, hsteps⟩
    · rw [hall, hleft]
      exact .inl ⟨f, rfl, rfl⟩
    · rw [hall, hleft]
      exact .inr ⟨step :: steps, left, rfl, rfl, hsteps.drop hpresents⟩

/-! ### Parallel worlds -/

/-- The world without lessons, without journal, and with nothing left to chance. -/
def World.bare (w : World) : World :=
  { w with catalog := .empty, journal := [], host := { w.host with chance := fun _ => 0, drawn := 0 } }

/-- The worlds differ at most in lessons, in the journal and in what is drawn by chance. -/
def World.Parallel (w u : World) : Prop :=
  w.bare = u.bare

/-- What most operations look at is the same in parallel worlds. -/
theorem Act.discreet_parallel : Discreet World.Parallel where
  environment h := congrArg (fun v => v.host.environment) h
  files h := congrArg (fun v => v.host.files) h
  connection h := congrArg (fun v => v.connection) h
  tracker h := congrArg (fun v => v.tracker) h
  note _ := Respects.of_erase fun _ => ⟨rfl, rfl⟩
  call _ := Respects.of_erase fun _ => ⟨rfl, rfl⟩
  setFiles _ := Respects.of_erase fun _ => ⟨rfl, rfl⟩
  connect _ := Respects.of_erase fun _ => ⟨rfl, rfl⟩
  update _ := Respects.of_erase fun _ => ⟨rfl, rfl⟩

open Act (discreet_parallel discreet_alike)

/-! ### Steps -/

variable {key : TaskKey} {step : Step} {text : String} {w w' u : World}

/-- A step that presents something passes its text on and leaves a parallel world. -/
theorem Step.Presents.run (h : step.Presents) (key : TaskKey) (text : String) (w : World) :
    ∃ auxiliaries w', (step.run key text).perform w = (.ok ⟨text, auxiliaries⟩, w') ∧
      w'.Parallel w := by
  unfold Step.run
  cases hkind : step.kind with
  | input => exact ⟨_, _, rfl, rfl⟩
  | waitMessage => exact ⟨_, _, rfl, rfl⟩
  | wrappedOutput => exact ⟨_, _, rfl, rfl⟩
  | regex | shell | shellCustom | checkEvents =>
    rw [Step.Presents, hkind] at h
    cases h

/-- A step comes to the same text in parallel worlds. -/
theorem Step.follows_run (key : TaskKey) (step : Step) (text : String) :
    Follows World.Parallel (fun p q => q.text = p.text) Eq (step.run key text)
      (step.run key text) := by
  by_cases h : step.Presents
  · -- what the two steps present may differ, since they may draw different numbers
    intro w u hwu
    obtain ⟨_, w', hw, hw'⟩ := h.run key text w
    obtain ⟨_, u', hu, hu'⟩ := h.run key text u
    rw [hw, hu]
    exact ⟨rfl, hw'.trans (hwu.trans hu'.symm)⟩
  · have hdraw : step.kind = .waitMessage → ∀ n, Respects World.Parallel (Act.draw n) := by
      intro hkind
      rw [Step.Presents, hkind] at h
      exact absurd rfl h
    exact ((step.respects_run discreet_parallel key text hdraw).follows fun _ => rfl).mono
      fun p q hpq => congrArg Progress.text hpq.symm

/-- The steps that are left come to the text that all steps come to, or fail the same. -/
theorem follows_thinned {steps left : List Step}
    (h : Thinned Step.Presents steps left) (key : TaskKey) (text : String) :
    Follows World.Parallel (fun p q => q.text = p.text) Eq (runPipeline key steps text)
      (runPipeline key left text) := by
  induction h generalizing text with
  | nil => exact Follows.pure rfl
  | keep step _ ih =>
    rw [runPipeline, runPipeline]
    refine (step.follows_run key text).bind fun p q hpq => ?_
    rw [hpq]
    exact (ih p.text).bind fun p' q' h => Follows.pure h
  | drop hpresents _ ih =>
    -- only the whole list has this step, and the text is the same behind it
    intro w u hwu
    obtain ⟨_, w', hstep, hw'⟩ := hpresents.run key text w
    rw [runPipeline, Act.perform_bind_ok hstep]
    exact (ih text).map_left (fun p q h => h) w' u (hw'.trans hwu)

/-! ### What steps show -/

/-- The response that a step adds, if it adds one. -/
def Step.shows (step : Step) (text : String) (w : World) : List Json :=
  match step.kind with
  | .waitMessage =>
    let i := w.host.chance w.host.drawn % (waitMessages.length : Int)
    [.obj [("type", .str "scroll_wait"), ("value", .str (waitMessages.getD i.toNat ""))]]
  | .wrappedOutput => [.obj [("type", .str "wrapped"), ("value", .str text)]]
  | _ => []

/-- The responses that steps add on their way from a text, in order. -/
def shown (key : TaskKey) : List Step → String → World → List Json
  | [], _, _ => []
  | step :: rest, text, w =>
    step.shows text w ++
      match (step.run key text).perform w with
      | (.ok p, w') => shown key rest p.text w'
      | (.error _, _) => []

/-- What the journal holds is nothing to the responses that steps add. -/
theorem shown_of_alike (key : TaskKey) (steps : List Step) (text : String) (h : w.Alike u) :
    shown key steps text w = shown key steps text u := by
  induction steps generalizing text w u with
  | nil => rfl
  | cons step rest ih =>
    have hshows : step.shows text w = step.shows text u := by
      have hhost : w.host = u.host := congrArg (fun v => v.host) h
      unfold Step.shows
      rw [hhost]
    have hrun := step.respects_run discreet_alike key text (fun _ => Act.blind_draw) w u h
    rw [shown, shown, hshows]
    cases hw : (step.run key text).perform w with
    | mk r w' =>
      cases hu : (step.run key text).perform u with
      | mk r' u' =>
        rw [hw, hu] at hrun
        obtain ⟨rfl, hworld⟩ := hrun
        cases r with
        | error e => rfl
        | ok p => exact congrArg (step.shows text u ++ ·) (ih p.text hworld)

/-- The responses among auxiliaries of two parts. -/
theorem responsesOf_append {first others r r' : List Json} (h : responsesOf first = .ok r)
    (h' : responsesOf others = .ok r') : responsesOf (first ++ others) = .ok (r ++ r') := by
  unfold responsesOf at h h' ⊢
  rw [List.mapM_append]
  cases hfirst : first.mapM responseIn with
  | error e => rw [hfirst] at h; cases h
  | ok found =>
    cases hothers : others.mapM responseIn with
    | error e => rw [hothers] at h'; cases h'
    | ok found' =>
      rw [hfirst] at h
      rw [hothers] at h'
      cases h
      cases h'
      exact congrArg Except.ok List.flatten_append

/-- The response that a step adds is what its auxiliaries hold. -/
theorem Step.responsesOf_run {p : Progress} (h : (step.run key text).perform w = (.ok p, w')) :
    responsesOf p.auxiliaries = .ok (step.shows text w) := by
  -- most steps add nothing
  have hplain : ∀ {a : Act String} {v v' : World},
      (do return ⟨← a, []⟩ : Act Progress).perform v = (.ok p, v') → responsesOf p.auxiliaries = .ok [] := by
    intro a v v' h
    obtain ⟨_, _, -, hp⟩ := Act.of_perform_bind_ok h
    cases hp
    rfl
  unfold Step.run at h
  unfold Step.shows
  cases hkind : step.kind with
  | input => rw [hkind] at h; cases h; rfl
  | waitMessage => rw [hkind] at h; cases h; rfl
  | wrappedOutput => rw [hkind] at h; cases h; rfl
  | regex => rw [hkind] at h; exact hplain h
  | shell => rw [hkind] at h; exact hplain h
  | shellCustom =>
    rw [hkind] at h
    obtain ⟨_, _, -, h⟩ := Act.of_perform_bind_ok h
    exact hplain h
  | checkEvents =>
    rw [hkind] at h
    obtain ⟨_, _, -, hp⟩ := Act.of_perform_bind_ok h
    cases hp
    rfl

/-- The responses that steps add are what their auxiliaries hold. -/
theorem responsesOf_runPipeline {steps : List Step} {p : Progress}
    (h : (runPipeline key steps text).perform w = (.ok p, w')) :
    responsesOf p.auxiliaries = .ok (shown key steps text w) := by
  induction steps generalizing text w p with
  | nil => cases h; rfl
  | cons step rest ih =>
    rw [runPipeline] at h
    obtain ⟨first, w₁, hfirst, h⟩ := Act.of_perform_bind_ok h
    obtain ⟨last, w₂, hlast, h⟩ := Act.of_perform_bind_ok h
    cases h
    rw [shown, hfirst]
    exact responsesOf_append (Step.responsesOf_run hfirst) (ih hlast)

/-- Steps none of which presents anything add no responses. -/
theorem shown_eq_nil {steps : List Step} (h : ∀ step ∈ steps, ¬ step.Presents) (key : TaskKey)
    (text : String) (w : World) : shown key steps text w = [] := by
  induction steps generalizing text w with
  | nil => rfl
  | cons step rest ih =>
    rw [List.forall_mem_cons] at h
    have hshows : step.shows text w = [] := by
      have hstep := h.1
      unfold Step.Presents at hstep
      unfold Step.shows
      cases hkind : step.kind with
      | waitMessage | wrappedOutput =>
        rw [hkind] at hstep
        exact absurd rfl hstep
      | _ => rfl
    rw [shown, hshows]
    split
    · exact ih h.2 _ _
    · rfl

/-! ### Attempts -/

/-- Applying the effect of a result to other auxiliaries puts other responses before the reply, and
changes nothing else. -/
theorem follows_resolveEffect (key : TaskKey) (result : String) (effects : Table String Effect)
    {auxiliaries auxiliaries' r r' : List Json} (h : responsesOf auxiliaries = .ok r)
    (h' : responsesOf auxiliaries' = .ok r') (unlocked known : List String) :
    Follows World.Parallel
      (fun o o' => ∃ reply, o.responses = r ++ reply ∧ o' = { o with responses := r' ++ reply }) Eq
      (resolveEffect key result effects auxiliaries unlocked known)
      (resolveEffect key result effects auxiliaries' unlocked known) := by
  unfold resolveEffect
  cases Table.get? effects result with
  | none => exact Follows.refuse rfl
  | some effect =>
    dsimp only
    rw [h, h']
    have hfirst : Follows World.Parallel (fun x y => x = r ∧ y = r') Eq (Act.ofExcept (.ok r))
        (Act.ofExcept (.ok r')) := Follows.pure ⟨rfl, rfl⟩
    refine hfirst.bind fun x y hxy => ?_
    rw [hxy.1, hxy.2]
    refine ((Act.Agree.ofFault _).follows fun _ => rfl).bind fun reply _ hreply => ?_
    rw [← hreply]
    -- the responses go into the outcome and nowhere else
    have heffects := respects_applySideEffects discreet_parallel key effect.sideEffects
      (addUnique unlocked [])
    refine (heffects.follows fun _ => rfl).bind fun u _ hu => ?_
    rw [← hu]
    have hnote := (discreet_parallel.note (.log .info .effects s!"Lesson {key.1} completed")).follows
      (E := Eq) fun _ => rfl
    exact Follows.ite (hnote.bind fun _ _ _ => Follows.pure ⟨reply, rfl, rfl⟩)
      (Follows.pure ⟨reply, rfl, rfl⟩)

namespace Service

/-- Results with the same text lead to the same next task; the responses differ by what the
auxiliaries hold. -/
theorem follows_conclude (key : TaskKey) (t : Task) {p q : Progress} {r r' : List Json}
    (htext : q.text = p.text) (h : responsesOf p.auxiliaries = .ok r)
    (h' : responsesOf q.auxiliaries = .ok r') :
    Follows World.Parallel
      (fun a a' => a'.2 = a.2 ∧ ∃ reply, a.1 = (Json.arr (r ++ reply)).write ∧
        a'.1 = (Json.arr (r' ++ reply)).write) Eq
      (conclude key t p) (conclude key t q) := by
  have hnames : ∀ name, Follows World.Parallel Eq Eq (Settings.getStrings name)
      (Settings.getStrings name) := fun name =>
    (Settings.respects_getStrings discreet_parallel name).follows fun _ => rfl
  have hstore : ∀ name before after, Follows World.Parallel Eq Eq (storeChanged name before after)
      (storeChanged name before after) := fun name before after =>
    (respects_storeChanged discreet_parallel name before after).follows fun _ => rfl
  unfold conclude
  refine (hnames _).bind fun unlocked _ hunlocked => ?_
  rw [← hunlocked]
  refine (hnames _).bind fun known _ hknown => ?_
  rw [← hknown, htext]
  refine (follows_resolveEffect key p.text t.effects h h' unlocked known).bind fun o o' ho => ?_
  obtain ⟨reply, hresponses, rfl⟩ := ho
  refine (hstore _ _ _).bind fun _ _ _ => (hstore _ _ _).bind fun _ _ _ => ?_
  -- what is stored, and the next task, are those of one outcome
  have hanswer : ∀ next : String, next = next ∧ ∃ reply',
      (Json.arr o.responses).write = (Json.arr (r ++ reply')).write ∧
        (Json.arr (r' ++ reply)).write = (Json.arr (r' ++ reply')).write := fun _ =>
    ⟨rfl, reply, by rw [hresponses], rfl⟩
  have hdisarm := (Tracker.respects_disarmTask discreet_parallel key).follows (E := Eq) fun _ => rfl
  exact Follows.ite (hdisarm.bind fun _ _ _ => Follows.pure (hanswer _)) (Follows.pure (hanswer _))

/-- The responses that the steps of a mapper add; none if it cannot be read. -/
def contributed (key : TaskKey) (mapper : List Json) (input : String) (w : World) : List Json :=
  match mapper.mapM Step.ofJson with
  | .ok steps => shown key steps input w
  | .error _ => []

/-- An attempt at a task that is there runs its steps and applies the effect of what they come to. -/
theorem perform_attempt_found {t : Task} {steps : List Step}
    (ht : w.catalog.task? key.1 key.2 = some t) (hsteps : t.mapper.mapM Step.ofJson = .ok steps)
    (input : String) :
    ∃ j, (attempt key input).perform w
      = (runPipeline key steps input >>= conclude key t).perform { w with journal := j } := by
  obtain ⟨j, htask⟩ := Catalog.perform_task_found ht
  obtain ⟨j', hcompile⟩ := perform_compilePipeline hsteps key { w with journal := j }
  refine ⟨j', ?_⟩
  unfold attempt evaluate
  rw [Act.perform_bind_ok htask, bind_assoc, Act.perform_bind_ok hcompile]

/-- What the auxiliaries of an attempt's steps hold is what its mapper contributes. -/
theorem responsesOf_contributed {mapper : List Json} {steps : List Step} {input : String}
    {j : List Entry} {p : Progress} (hsteps : mapper.mapM Step.ofJson = .ok steps)
    (h : (runPipeline key steps input).perform { w with journal := j } = (.ok p, w')) :
    responsesOf p.auxiliaries = .ok (contributed key mapper input w) := by
  have halike : ({ w with journal := j } : World).Alike w := rfl
  rw [contributed, hsteps, responsesOf_runPipeline h, shown_of_alike key steps input halike]

/-- A mapper none of whose entries presents anything contributes no responses. -/
theorem contributed_eq_nil {mapper : List Json} (h : ∀ entry ∈ mapper, ¬ Presents entry)
    (key : TaskKey) (input : String) (w : World) : contributed key mapper input w = [] := by
  unfold contributed
  cases hsteps : mapper.mapM Step.ofJson with
  | error f => rfl
  | ok steps =>
    refine shown_eq_nil (fun step hstep hpresents => ?_) key input w
    obtain ⟨entry, hentry, hread⟩ := of_mem_mapM hsteps hstep
    exact h entry hentry ⟨step, hread, hpresents⟩

variable {t : Task} {thin : List Json}

/-- An attempt with a thinned mapper ends as the one with the whole mapper does, but for what the two
mappers contribute to the responses. -/
theorem paired_attempt_thinned (hwu : w.Parallel u) (ht : w.catalog.task? key.1 key.2 = some t)
    (hu : u.catalog.task? key.1 key.2 = some { t with mapper := thin })
    (hthin : Thinned Presents t.mapper thin) (input : String) :
    Paired
        (fun a a' => a'.2 = a.2 ∧ ∃ reply,
          a.1 = (Json.arr (contributed key t.mapper input w ++ reply)).write ∧
            a'.1 = (Json.arr (contributed key thin input u ++ reply)).write) Eq
        ((attempt key input).perform w).1 ((attempt key input).perform u).1 ∧
      ((attempt key input).perform w).2.Parallel ((attempt key input).perform u).2 := by
  rcases hthin.read with ⟨f, hall, hleft⟩ | ⟨steps, left, hall, hleft, hsteps⟩
  · -- an entry cannot be read, and it is the same in both mappers
    rw [perform_attempt_unreadable ht hall input, perform_attempt_unreadable hu hleft input]
    exact ⟨rfl, hwu⟩
  · -- the steps go side by side, and then the results are resolved side by side
    obtain ⟨j, hw⟩ := perform_attempt_found ht hall input
    obtain ⟨j', hu⟩ := perform_attempt_found hu hleft input
    rw [hw, hu, Act.perform_bind, Act.perform_bind]
    obtain ⟨hresult, hworld⟩ := follows_thinned hsteps key input { w with journal := j }
      { u with journal := j' } hwu
    cases hp : (runPipeline key steps input).perform { w with journal := j } with
    | mk r v =>
      cases hq : (runPipeline key left input).perform { u with journal := j' } with
      | mk r' v' =>
        rw [hp, hq] at hresult hworld
        cases r with
        | error e =>
          obtain ⟨e', rfl, he⟩ := hresult.of_error
          exact ⟨he, hworld⟩
        | ok p =>
          obtain ⟨q, rfl, htext⟩ := hresult.of_ok
          exact follows_conclude key t htext (responsesOf_contributed hall hp)
            (responsesOf_contributed hleft hq) v v' hworld

/-- **Presentation steps do not influence outcomes.** Take any well-formed entries that only present
something out of the mapper of a task. An attempt calls the same programs, fails with the same
failure or comes to the same next task, and leaves the same settings and the same tracker, whatever
is drawn by chance. If it succeeds and all such entries were taken out, its responses are those that
the entries contribute, in order, followed by the responses without them. -/
theorem attempt_thinned (hwu : w.Parallel u) (ht : w.catalog.task? key.1 key.2 = some t)
    (hu : u.catalog.task? key.1 key.2 = some { t with mapper := thin })
    (hthin : Thinned Presents t.mapper thin) (input : String) :
    let whole := (attempt key input).perform w
    let thinned := (attempt key input).perform u
    whole.2.Parallel thinned.2 ∧ (∀ e, whole.1 = .error e ↔ thinned.1 = .error e) ∧
      ∀ responses next, whole.1 = .ok (responses, next) →
        ∃ responses', thinned.1 = .ok (responses', next) ∧
          ((∀ entry ∈ thin, ¬ Presents entry) → ∃ replies,
            responses = (Json.arr (contributed key t.mapper input w ++ replies)).write ∧
              responses' = (Json.arr replies).write) := by
  intro whole thinned
  obtain ⟨hresult, hworld⟩ := paired_attempt_thinned hwu ht hu hthin input
  refine ⟨hworld, fun e => ?failures, fun responses next hwhole => ?answers⟩
  case failures =>
    -- both attempts fail in the same way, or both have an answer
    cases hwhole : whole.1 with
    | error e' =>
      rw [hwhole] at hresult
      obtain ⟨f, hthinned, rfl⟩ := hresult.of_error
      rw [hthinned]
    | ok answer =>
      rw [hwhole] at hresult
      obtain ⟨answer', hthinned, -⟩ := hresult.of_ok
      rw [hthinned]
      exact ⟨nofun, nofun⟩
  case answers =>
    rw [hwhole] at hresult
    obtain ⟨⟨responses', next'⟩, hthinned, hnext, reply, hresponses, hresponses'⟩ := hresult.of_ok
    have hnext : next' = next := hnext
    subst hnext
    refine ⟨responses', hthinned, fun hnone => ⟨reply, hresponses, ?_⟩⟩
    rw [contributed_eq_nil hnone, List.nil_append] at hresponses'
    exact hresponses'

/-- A pattern is all that decides on an input, between a message to wait, text that is wrapped and the
input itself. -/
theorem attempt_thinned_pattern :
    let key : TaskKey := ("l", "t")
    let pattern : Json := .obj [("type", .str "regex"), ("value", .str "^go$")]
    let mapper : List Json := [.str "wait_message", pattern, .str "wrapped_output",
      .obj [("type", .str "input"), ("value", .int 5)]]
    let t : Task :=
      { id := "t", prompt := "Say go", input := ⟨"text", []⟩, mapper := mapper
        effects := [("success", ⟨.str "Well done", [], true, none⟩)] }
    let start (t : Task) : World :=
      { World.fresh Host.bare ⟨[⟨"l", "A lesson", "t", ["console"], [("t", t)]⟩], [], none⟩ with
        connection := .memory ⟨1, some []⟩ }
    let w := start t
    let u := start { t with mapper := [pattern] }
    w.Parallel u ∧ w.catalog.task? key.1 key.2 = some t ∧
      u.catalog.task? key.1 key.2 = some { t with mapper := [pattern] } ∧
      Thinned Presents t.mapper [pattern] ∧ (∀ entry ∈ [pattern], ¬ Presents entry) ∧
      ((attempt key "go").perform w).2.Parallel ((attempt key "go").perform u).2 ∧
      ∃ responses responses' replies, ((attempt key "go").perform w).1 = .ok (responses, "") ∧
        ((attempt key "go").perform u).1 = .ok (responses', "") ∧
        responses = (Json.arr (contributed key mapper "go" w ++ replies)).write ∧
        responses' = (Json.arr replies).write ∧
        responses' = "[\x7b\"type\": \"scrolled\", \"value\": \"Well done\"\x7d]" := by
  intro key pattern mapper t start w u
  have hthin : Thinned Presents t.mapper [pattern] := by
    refine .drop ⟨⟨.waitMessage, .null⟩, rfl, rfl⟩ (.keep _ (.drop ?_ (.drop ?_ .nil)))
    · exact ⟨⟨.wrappedOutput, .null⟩, rfl, rfl⟩
    · exact ⟨⟨.input, .int 5⟩, rfl, rfl⟩
  -- the pattern is read as a step that does not only present
  have hnone : ∀ entry ∈ [pattern], ¬ Presents entry := by
    rintro entry hentry ⟨step, hread, hpresents⟩
    rw [List.mem_singleton.mp hentry] at hread
    cases hread
    cases hpresents
  have hwu : w.Parallel u := rfl
  have ht : w.catalog.task? key.1 key.2 = some t := rfl
  have hu : u.catalog.task? key.1 key.2 = some { t with mapper := [pattern] } := rfl
  obtain ⟨hworld, -, hanswers⟩ := attempt_thinned hwu ht hu hthin "go"
  have hnext : ((attempt key "go").perform w).1.toOption.map (·.2) = some "" := by decide +kernel
  have htext : ((attempt key "go").perform u).1.toOption.map (·.1)
      = some "[\x7b\"type\": \"scrolled\", \"value\": \"Well done\"\x7d]" := by decide +kernel
  cases hw : ((attempt key "go").perform w).1 with
  | error e =>
    rw [hw] at hnext
    cases hnext
  | ok answer =>
    obtain ⟨responses, next⟩ := answer
    rw [hw] at hnext
    obtain rfl : next = "" := Option.some.inj hnext
    obtain ⟨responses', hok, hremoved⟩ := hanswers responses "" hw
    obtain ⟨replies, hwhole, hthinned⟩ := hremoved hnone
    rw [hok] at htext
    exact ⟨hwu, ht, hu, hthin, hnone, hworld, responses, responses', replies, rfl, hok, hwhole,
      hthinned, Option.some.inj htext⟩

end Service

end Tutor
