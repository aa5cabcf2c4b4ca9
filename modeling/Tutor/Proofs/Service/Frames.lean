import Tutor.Proofs.Events.Waiting
import Tutor.Service.Clues
import Tutor.Service.Lessons

namespace Tutor

/-!
# What operations leave alone

* Shell code, steps and effects call programs, draw numbers and write to the journal: they keep all
  the rest of the world (`World.settled`);
* settings keep the lessons and the tracker (`World.lessons`);
* looking lessons up only reads the catalog, and loading them again keeps all but the catalog
  (`World.apart`).
-/

open Act (Keeps)

/-- The world but for what has been called, drawn and written to the journal. -/
def World.settled (w : World) : World :=
  { w with journal := [], host := { w.host with calls := [], drawn := 0 } }

/-- All that is settled but the lessons. -/
def World.apart (w : World) : World :=
  { w.settled with catalog := .empty }

/-- The lessons and the tracker: all that the service owns but its connection. -/
def World.lessons (w : World) : Catalog × Tracker :=
  (w.catalog, w.tracker)

/-! ### Programs -/

/-- Running shell code changes nothing that is settled. -/
theorem Shell.keeps_execute (code : String) (overrides : List (String × Json)) :
    Keeps World.settled (execute code overrides) := by
  unfold execute
  refine Keeps.get.bind fun w => ?_
  refine Keeps.bind (fun _ => rfl) fun _ => ?_
  refine Keeps.bind (fun _ => rfl) fun outcome => ?_
  cases outcome with
  | finished r => exact Keeps.pure r
  | failed why m =>
    cases why with
    | broken => exact Keeps.throw _
    | system => exact Keeps.refuse _
    | notFound => exact Keeps.refuse _
    | badRequest => exact Keeps.refuse _

/-! ### Steps -/

/-- The code of a shell step changes nothing that is settled. -/
theorem keeps_runShell (code : String) (settings : Json) :
    Keeps World.settled (runShell code settings) := by
  unfold runShell
  refine (Keeps.ofFault _).bind fun overrides => ?_
  exact (Shell.keeps_execute code overrides).bind fun r => Keeps.pure _

/-- A step changes nothing that is settled. -/
theorem Step.keeps_run (key : TaskKey) (step : Step) (text : String) :
    Keeps World.settled (step.run key text) := by
  unfold run
  split
  · exact Keeps.pure _
  · exact (Keeps.ofExcept _).bind fun _ => Keeps.pure _
  · exact (keeps_runShell text step.value).bind fun _ => Keeps.pure _
  · refine (Keeps.ofFault _).bind fun command => ?_
    exact (keeps_runShell command step.value).bind fun _ => Keeps.pure _
  · exact Keeps.bind (fun _ => rfl) fun _ => Keeps.pure _
  · exact Keeps.pure _
  · refine Keeps.bind (fun w => ?_) fun _ => Keeps.pure _
    rw [Tracker.perform_resolveTask]

/-- Steps change nothing that is settled. -/
theorem keeps_runPipeline (key : TaskKey) (steps : List Step) (text : String) :
    Keeps World.settled (runPipeline key steps text) := by
  induction steps generalizing text with
  | nil => exact Keeps.pure _
  | cons step rest ih =>
    rw [runPipeline]
    exact (step.keeps_run key text).bind fun first => (ih first.text).bind fun _ => Keeps.pure _

/-- Reading a mapper changes nothing that is settled. -/
theorem keeps_compilePipeline (key : TaskKey) (mapper : List Json) :
    Keeps World.settled (compilePipeline key mapper) := by
  unfold compilePipeline
  refine (Keeps.ofFault _).bind fun steps => ?_
  exact Keeps.bind (fun _ => rfl) fun _ => Keeps.pure _

/-! ### Effects -/

/-- A side effect changes nothing that is settled. -/
theorem keeps_applySideEffect (key : TaskKey) (unlocked : List String) (sideEffect : Json) :
    Keeps World.settled (applySideEffect key unlocked sideEffect) := by
  unfold applySideEffect
  refine Keeps.ite ?_ (Keeps.ite ?_ (Keeps.refuse _))
  · refine (Keeps.ofFault _).bind fun names => ?_
    exact Keeps.bind (fun _ => rfl) fun _ => Keeps.pure _
  · split
    · rename_i command _
      exact (Shell.keeps_execute command []).bind fun _ => Keeps.pure _
    · exact Keeps.refuse _

/-- Side effects change nothing that is settled. -/
theorem keeps_applySideEffects (key : TaskKey) (sideEffects : List Json)
    (unlocked : List String) : Keeps World.settled (applySideEffects key sideEffects unlocked) := by
  induction sideEffects generalizing unlocked with
  | nil => exact Keeps.pure _
  | cons s rest ih =>
    rw [applySideEffects]
    exact (keeps_applySideEffect key unlocked s).bind fun u => ih u

/-- Applying the effect of a result changes nothing that is settled. -/
theorem keeps_resolveEffect (key : TaskKey) (result : String) (effects : Table String Effect)
    (auxiliaries : List Json) (unlocked known : List String) :
    Keeps World.settled (resolveEffect key result effects auxiliaries unlocked known) := by
  unfold resolveEffect
  split
  · exact Keeps.refuse _
  · refine (Keeps.ofExcept _).bind fun responses => (Keeps.ofFault _).bind fun reply => ?_
    refine (keeps_applySideEffects key _ _).bind fun u => ?_
    refine Keeps.ite (Keeps.bind (fun _ => rfl) fun _ => Keeps.pure _) (Keeps.pure _)

/-! ### The tracker -/

/-- Arming a task changes nothing but the tracker and the journal. -/
theorem Tracker.keeps_armTask {γ : Type} {view : World → γ}
    (h : ∀ w t j, view { w with tracker := t, journal := j } = view w) (key : TaskKey)
    (outputs : Json) : Keeps view (armTask key outputs) := by
  intro w
  cases hp : Pending.ofJson outputs with
  | ok p =>
    obtain ⟨j, harm⟩ := perform_armTask_ok hp key w
    rw [harm]
    exact h w _ j
  | error f => rw [perform_armTask_error hp key w]

/-! ### Settings -/

namespace Settings

/-- Reading the database changes nothing. -/
theorem keeps_current {γ : Type} (view : World → γ) : Keeps view current := by
  unfold current
  refine Keeps.get.bind fun w => ?_
  split
  · exact Keeps.throw _
  · exact Keeps.pure _
  · exact Keeps.ofExcept _

/-- Reading the stored texts changes nothing. -/
theorem keeps_table {γ : Type} (view : World → γ) : Keeps view table := by
  unfold table
  refine (keeps_current view).bind fun d => ?_
  split
  · exact Keeps.pure _
  · exact Keeps.throw _

/-- Reading a value changes nothing. -/
theorem keeps_getValue {γ : Type} (view : World → γ) (key : String) :
    Keeps view (getValue key) := by
  unfold getValue getText
  refine Keeps.bind ((keeps_table view).bind fun t => Keeps.pure _) fun text => ?_
  split
  · exact Keeps.ofExcept _
  · exact Keeps.pure _

/-- Reading strings changes nothing. -/
theorem keeps_getStrings {γ : Type} (view : World → γ) (key : String) :
    Keeps view (getStrings key) := by
  unfold getStrings
  exact (keeps_getValue view key).bind fun _ => Keeps.pure _

/-- Reading the clues changes nothing. -/
theorem keeps_getClues {γ : Type} (view : World → γ) : Keeps view getClues := by
  unfold getClues
  exact (keeps_getValue view cluesKey).bind fun _ => Keeps.pure _

/-- Writing to the database changes the connection or the files, and nothing else. -/
theorem keeps_replace {γ : Type} {view : World → γ}
    (h : ∀ w c files,
      view { w with connection := c, host := { w.host with files := files } } = view w)
    (d : Database) : Keeps view (replace d) := by
  unfold replace
  refine Keeps.get.bind fun w => ?_
  split
  · exact Keeps.throw _
  · exact fun w => h w _ w.host.files
  · unfold store
    refine Keeps.get.bind fun w => ?_
    split
    · exact Keeps.throw _
    · exact Keeps.ite (Keeps.throw _) fun w => h w w.connection _

/-- Storing a value changes the connection or the files, and nothing else. -/
theorem keeps_setValue {γ : Type} {view : World → γ}
    (h : ∀ w c files,
      view { w with connection := c, host := { w.host with files := files } } = view w)
    (key : String) (value : Json) : Keeps view (setValue key value) := by
  unfold setValue setText
  refine (keeps_table _).bind fun t => (keeps_current _).bind fun d => ?_
  exact keeps_replace h _

end Settings

namespace Service

/-- Remembering a clue changes no lessons and not the tracker. -/
theorem keeps_registerClue (kind content : String) :
    Keeps World.lessons (registerClue kind content) := by
  have hknown : Keeps World.lessons (do
      let clues ← Settings.getClues
      if !clues.contains (content, kind) then Settings.setClues (clues ++ [(content, kind)])) := by
    refine (Settings.keeps_getClues _).bind fun clues => ?_
    exact Keeps.ite (Settings.keeps_setValue (fun _ _ _ => rfl) _ _) (Keeps.pure _)
  unfold registerClue
  exact Keeps.ite ((Keeps.refuse _).bind fun _ => hknown) hknown

/-- Changing the background changes nothing that is settled. -/
theorem keeps_setBackground (uri : String) : Keeps World.settled (setBackground uri) := by
  unfold setBackground
  exact (Shell.keeps_execute _ []).bind fun _ _ => rfl

/-- Storing a list of names changes no lessons and not the tracker. -/
theorem keeps_storeChanged (key : String) (before after : List String) :
    Keeps World.lessons (storeChanged key before after) := by
  unfold storeChanged
  exact Keeps.ite (Settings.keeps_setValue (fun _ _ _ => rfl) _ _) (Keeps.pure _)

end Service

/-! ### Lessons -/

namespace Catalog

/-- Warnings change nothing that is settled. -/
theorem keeps_warn (warnings : List String) : Keeps World.settled (warn warnings) := by
  induction warnings with
  | nil => exact Keeps.pure _
  | cons m rest ih =>
    rw [warn]
    exact Keeps.bind (fun _ => rfl) fun _ => ih

/-- Reading lessons again changes nothing else that is settled. -/
theorem keeps_reload : Keeps World.apart reload := by
  have hwarn : ∀ warnings, Keeps World.apart (warn warnings) := fun warnings =>
    (keeps_warn warnings).map fun w => { w with catalog := .empty }
  unfold reload
  refine Keeps.get.bind fun w => ?_
  split
  · exact Keeps.pure _
  · refine (Keeps.ofExcept _).bind fun r => ?_
    split
    · refine (hwarn _).bind fun _ => ?_
      exact Keeps.bind (fun _ => rfl) fun _ => Keeps.pure _
    · refine Keeps.bind (fun _ => rfl) fun _ => ?_
      exact Keeps.bind (fun _ => rfl) fun _ => Keeps.pure _

/-- A name stands for a lesson if that is the only one of the name. -/
theorem lesson?_eq_some_iff {c : Catalog} {name : String} {l : Lesson} :
    c.lesson? name = some l ↔ c.named name = [l] := by
  unfold lesson?
  constructor
  · intro h
    split at h
    · rename_i only hnamed
      rw [hnamed, Option.some.inj h]
    · cases h
  · intro h
    rw [h]

/-- The lesson that a name stands for is one of the name. -/
theorem of_lesson?_eq_some {c : Catalog} {name : String} {l : Lesson}
    (h : c.lesson? name = some l) : l ∈ c.lessons ∧ l.name = name := by
  have hmem : l ∈ c.named name := by
    rw [lesson?_eq_some_iff.mp h]
    exact List.mem_cons_self
  exact ⟨(List.mem_filter.mp hmem).1, beq_iff_eq.mp (List.mem_filter.mp hmem).2⟩

/-- Looking a lesson up finds the one lesson of the name. -/
theorem perform_lookup (name : String) (w : World) :
    ∃ j, (lookup name).perform w = (.ok (w.catalog.lesson? name), { w with journal := j }) := by
  unfold lookup
  rw [Act.perform_bind_ok (Act.perform_get w)]
  by_cases h : 1 < (w.catalog.named name).length
  · simp only [if_pos h]
    exact ⟨_, rfl⟩
  · simp only [if_neg h]
    exact ⟨w.journal, rfl⟩

/-- Looking a lesson up changes nothing that is settled. -/
theorem keeps_lookup (name : String) : Keeps World.settled (lookup name) := by
  intro w
  obtain ⟨j, h⟩ := perform_lookup name w
  rw [h]
  rfl

/-- Looking up a lesson that is there does nothing else: it is the only one of its name, so that there
is nothing to log. -/
theorem perform_lookup_found {name : String} {w : World} {l : Lesson}
    (h : w.catalog.lesson? name = some l) : (lookup name).perform w = (.ok (some l), w) := by
  have hcount : ¬ 1 < (w.catalog.named name).length := by
    rw [lesson?_eq_some_iff.mp h]
    exact Nat.lt_irrefl 1
  unfold lookup
  rw [Act.perform_bind_ok (Act.perform_get w)]
  simp only [if_neg hcount]
  rw [h]
  rfl

/-- Looking up a task that is there finds it and does nothing else. -/
theorem perform_task_eq {key : TaskKey} {w : World} {t : Task}
    (h : w.catalog.task? key.1 key.2 = some t) : (task key).perform w = (.ok t, w) := by
  obtain ⟨l, hl, ht⟩ := Option.bind_eq_some_iff.mp h
  have hfound : ((some l).bind fun l => l.practice.get? key.2) = some t := ht
  unfold task
  rw [Act.perform_bind_ok (perform_lookup_found hl), hfound]
  rfl

/-- Looking a task up finds it in the catalog. -/
theorem perform_task_found {key : TaskKey} {w : World} {t : Task}
    (h : w.catalog.task? key.1 key.2 = some t) :
    ∃ j, (task key).perform w = (.ok t, { w with journal := j }) :=
  ⟨w.journal, perform_task_eq h⟩

/-- Looking a task up fails if the catalog has none. -/
theorem perform_task_missing {key : TaskKey} {w : World}
    (h : w.catalog.task? key.1 key.2 = none) :
    ∃ j, (task key).perform w
      = (.error (.fault (.taskNotFound key.1 key.2)), { w with journal := j }) := by
  obtain ⟨j, hlookup⟩ := perform_lookup key.1 w
  have hmissing : ((w.catalog.lesson? key.1).bind fun l => l.practice.get? key.2) = none := h
  refine ⟨j, ?_⟩
  unfold task
  rw [Act.perform_bind_ok hlookup, hmissing]
  rfl

/-- Looking a task up changes nothing that is settled. -/
theorem keeps_task (key : TaskKey) : Keeps World.settled (task key) := by
  intro w
  cases h : w.catalog.task? key.1 key.2 with
  | some t =>
    obtain ⟨j, ht⟩ := perform_task_found h
    rw [ht]
    rfl
  | none =>
    obtain ⟨j, ht⟩ := perform_task_missing h
    rw [ht]
    rfl

end Catalog

end Tutor
