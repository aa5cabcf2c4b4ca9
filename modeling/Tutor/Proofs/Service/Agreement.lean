import Tutor.Proofs.Acts
import Tutor.Service.Clues
import Tutor.Service.Lessons

namespace Tutor

/-!
# What operations look at

Of the world, operations look at the environment, the files, the programs, the connection and the
tracker; some look at the lessons or draw numbers, and none looks at the journal. So worlds may
differ in much without any operation taking notice.

* `Act.Discreet` — a relation of worlds that show the same of what most operations look at, and that
  the few basic changes respect;
* `respects_runShell`, `Step.respects_run`, `respects_runPipeline`, `respects_resolveEffect` — steps
  and effects respect such a relation, if drawing numbers does where they draw any;
* `Settings.respects_getStrings`, `Settings.respects_setValue`, `Tracker.respects_armTask` and the
  like — so do settings and the tracker;
* `Service.respects_conclude` — so does all of an attempt that comes after its steps;
* `Service.follows_notify`, `Service.follows_describe` — these do the same from related worlds if
  the boundary does.
-/

open Act (Agree Follows Respects)

/-- Related worlds show the same of what most operations look at, and every basic change of one of
them is matched by the same change of the other. -/
structure Act.Discreet (R : World → World → Prop) : Prop where
  environment : ∀ {w u}, R w u → w.host.environment = u.host.environment
  files : ∀ {w u}, R w u → w.host.files = u.host.files
  connection : ∀ {w u}, R w u → w.connection = u.connection
  tracker : ∀ {w u}, R w u → w.tracker = u.tracker
  note : ∀ e, Respects R (Act.note e)
  call : ∀ c, Respects R (Act.call c)
  setFiles : ∀ files, Respects R (Act.setFiles files)
  connect : ∀ c, Respects R (Settings.connect c)
  update : ∀ t, Respects R (Tracker.update t)

variable {R : World → World → Prop} {E : Failure → Failure → Prop} {b : Boundary}
  (hR : Act.Discreet R)

include hR

/-! ### Programs and steps -/

/-- Running shell code respects a discreet relation. -/
theorem Shell.respects_execute (code : String) (overrides : List (String × Json)) :
    Respects R (execute code overrides) := by
  unfold execute
  refine Respects.get_bind fun w u h => ?_
  rw [hR.environment h]
  refine (hR.note _).bind fun _ => (hR.call _).bind fun outcome => ?_
  cases outcome with
  | finished r => exact Agree.pure r
  | failed why m =>
    cases why with
    | broken => exact Agree.throw _
    | _ => exact Agree.refuse _

/-- The code of a shell step respects a discreet relation. -/
theorem respects_runShell (code : String) (settings : Json) :
    Respects R (runShell code settings) := by
  unfold runShell
  refine (Agree.ofFault _).bind fun overrides => ?_
  exact (Shell.respects_execute hR code overrides).bind fun r => Agree.pure _

/-- Resolving a task respects a discreet relation. -/
theorem Tracker.respects_resolveTask (key : TaskKey) : Respects R (resolveTask key) := by
  refine Respects.get_bind fun w u h => ?_
  rw [hR.tracker h]
  exact Agree.ofFault _

/-- A step respects a discreet relation, if drawing numbers does where the step draws one. -/
theorem Step.respects_run (key : TaskKey) (step : Step) (text : String)
    (hdraw : step.kind = .waitMessage → ∀ n, Respects R (Act.draw n)) :
    Respects R (step.run key text) := by
  unfold run
  split
  · exact Agree.pure _
  · exact (Agree.ofExcept _).bind fun _ => Agree.pure _
  · exact (respects_runShell hR text step.value).bind fun _ => Agree.pure _
  · refine (Agree.ofFault _).bind fun command => ?_
    exact (respects_runShell hR command step.value).bind fun _ => Agree.pure _
  · rename_i hkind
    exact (hdraw hkind _).bind fun _ => Agree.pure _
  · exact Agree.pure _
  · exact (Tracker.respects_resolveTask hR key).bind fun _ => Agree.pure _

/-- Steps respect a discreet relation that drawing numbers respects. -/
theorem respects_runPipeline (hdraw : ∀ n, Respects R (Act.draw n)) (key : TaskKey)
    (steps : List Step) (text : String) : Respects R (runPipeline key steps text) := by
  induction steps generalizing text with
  | nil => exact Agree.pure _
  | cons step rest ih =>
    rw [runPipeline]
    refine (step.respects_run hR key text fun _ => hdraw).bind fun first => ?_
    exact (ih first.text).bind fun _ => Agree.pure _

/-- Reading a mapper respects a discreet relation. -/
theorem respects_compilePipeline (key : TaskKey) (mapper : List Json) :
    Respects R (compilePipeline key mapper) := by
  unfold compilePipeline
  exact (Agree.ofFault _).bind fun steps => (hR.note _).bind fun _ => Agree.pure _

/-! ### Effects -/

/-- A side effect respects a discreet relation. -/
theorem respects_applySideEffect (key : TaskKey) (unlocked : List String) (sideEffect : Json) :
    Respects R (applySideEffect key unlocked sideEffect) := by
  unfold applySideEffect
  refine Agree.ite ?_ (Agree.ite ?_ (Agree.refuse _))
  · exact (Agree.ofFault _).bind fun names => (hR.note _).bind fun _ => Agree.pure _
  · split
    · rename_i command _
      exact (Shell.respects_execute hR command []).bind fun _ => Agree.pure _
    · exact Agree.refuse _

/-- Side effects respect a discreet relation. -/
theorem respects_applySideEffects (key : TaskKey) (sideEffects : List Json)
    (unlocked : List String) : Respects R (applySideEffects key sideEffects unlocked) := by
  induction sideEffects generalizing unlocked with
  | nil => exact Agree.pure _
  | cons s rest ih =>
    rw [applySideEffects]
    exact (respects_applySideEffect hR key unlocked s).bind fun u => ih u

/-- Applying the effect of a result respects a discreet relation. -/
theorem respects_resolveEffect (key : TaskKey) (result : String) (effects : Table String Effect)
    (auxiliaries : List Json) (unlocked known : List String) :
    Respects R (resolveEffect key result effects auxiliaries unlocked known) := by
  unfold resolveEffect
  split
  · exact Agree.refuse _
  · refine (Agree.ofExcept _).bind fun responses => (Agree.ofFault _).bind fun reply => ?_
    refine (respects_applySideEffects hR key _ _).bind fun u => ?_
    exact Agree.ite ((hR.note _).bind fun _ => Agree.pure _) (Agree.pure _)

/-! ### Settings -/

namespace Settings

/-- Reading the database respects a discreet relation. -/
theorem respects_current : Respects R current := by
  unfold current
  refine Respects.get_bind fun w u h => ?_
  rw [hR.connection h, hR.files h]
  split
  · exact Agree.throw _
  · exact Agree.pure _
  · exact Agree.ofExcept _

/-- Reading the stored texts respects a discreet relation. -/
theorem respects_table : Respects R table := by
  unfold table
  refine (respects_current hR).bind fun d => ?_
  split
  · exact Agree.pure _
  · exact Agree.throw _

/-- Reading a value respects a discreet relation. -/
theorem respects_getValue (key : String) : Respects R (getValue key) := by
  unfold getValue getText
  refine ((respects_table hR).bind fun _ => Agree.pure _).bind fun text => ?_
  split
  · exact Agree.ofExcept _
  · exact Agree.pure _

/-- Reading strings respects a discreet relation. -/
theorem respects_getStrings (key : String) : Respects R (getStrings key) := by
  unfold getStrings
  exact (respects_getValue hR key).bind fun _ => Agree.pure _

/-- Reading the clues respects a discreet relation. -/
theorem respects_getClues : Respects R getClues := by
  unfold getClues
  exact (respects_getValue hR cluesKey).bind fun _ => Agree.pure _

/-- Writing to the database respects a discreet relation. -/
theorem respects_replace (d : Database) : Respects R (replace d) := by
  have hstore : ∀ p, Respects R (store p d) := by
    intro p
    unfold store
    refine Respects.get_bind fun w u h => ?_
    rw [hR.files h]
    split
    · exact Agree.throw _
    · split
      · exact Agree.throw _
      · exact hR.setFiles _
  unfold replace
  refine Respects.get_bind fun w u h => ?_
  rw [hR.connection h]
  split
  · exact Agree.throw _
  · exact hR.connect _
  · exact hstore _

/-- Storing a value respects a discreet relation. -/
theorem respects_setValue (key : String) (value : Json) : Respects R (setValue key value) := by
  unfold setValue setText
  refine (respects_table hR).bind fun t => (respects_current hR).bind fun d => ?_
  exact respects_replace hR _

end Settings

/-! ### Events -/

namespace Tracker

/-- Arming a task respects a discreet relation. -/
theorem respects_armTask (key : TaskKey) (outputs : Json) : Respects R (armTask key outputs) := by
  unfold armTask
  refine (Agree.ofFault _).bind fun p => ?_
  refine Respects.get_bind fun w u h => ?_
  rw [hR.tracker h]
  exact (hR.update _).bind fun _ => (hR.note _).bind fun _ => Agree.pure _

/-- Disarming a task respects a discreet relation. -/
theorem respects_disarmTask (key : TaskKey) : Respects R (disarmTask key) := by
  unfold disarmTask
  refine Respects.get_bind fun w u h => ?_
  rw [hR.tracker h]
  refine Agree.ite ?_ (Agree.pure _)
  exact (hR.update _).bind fun _ => (hR.note _).bind fun _ => Agree.pure _

/-- Recording an event for a task respects a discreet relation. -/
theorem respects_markTask (event : String) (key : TaskKey) :
    Respects R (markTask event key) := by
  unfold markTask
  refine Respects.get_bind fun w u h => ?_
  rw [hR.tracker h]
  refine Agree.ite (Agree.pure _) ((hR.update _).bind fun _ => ?_)
  split
  · exact Agree.pure _
  · exact Agree.pure _
  · exact (hR.note _).bind fun _ => Agree.pure _

/-- Recording an event for some tasks does the same from related worlds if the signals do. -/
theorem follows_notifyAll (hE : ∀ e, E e e)
    (hb : ∀ key, Follows R Eq E (b.signal key) (b.signal key)) (event : String)
    (keys : List TaskKey) :
    Follows R Eq E (notifyAll b event keys) (notifyAll b event keys) := by
  induction keys with
  | nil => exact Follows.pure rfl
  | cons key rest ih =>
    have htask : Follows R Eq E (notifyTask b event key) (notifyTask b event key) := by
      unfold notifyTask
      refine ((respects_markTask hR event key).follows hE).bind fun due _ hdue => ?_
      rw [← hdue]
      exact Follows.ite ((hb key).bind fun _ _ _ => Follows.pure rfl) (Follows.pure rfl)
    rw [notifyAll]
    refine htask.bind fun signalled _ hsignalled => ih.bind fun others _ hothers => ?_
    rw [← hsignalled, ← hothers]
    exact Follows.pure rfl

end Tracker

/-! ### The service -/

namespace Service

/-- Storing a list that has changed respects a discreet relation. -/
theorem respects_storeChanged (key : String) (before after : List String) :
    Respects R (storeChanged key before after) :=
  Agree.ite (Settings.respects_setValue hR _ _) (Agree.pure _)

/-- Applying the effect of a result, with all that is stored and disarmed then, respects a discreet
relation. -/
theorem respects_conclude (key : TaskKey) (t : Task) (result : Progress) :
    Respects R (conclude key t result) := by
  have hstore := respects_storeChanged hR
  unfold conclude
  refine (Settings.respects_getStrings hR _).bind fun unlocked => ?_
  refine (Settings.respects_getStrings hR _).bind fun known => ?_
  refine (respects_resolveEffect hR _ _ _ _ _ _).bind fun outcome => ?_
  refine (hstore _ _ _).bind fun _ => (hstore _ _ _).bind fun _ => ?_
  exact Agree.ite ((Tracker.respects_disarmTask hR key).bind fun _ => Agree.pure _) (Agree.pure _)

/-- Passing an event on does the same from related worlds if the signals do. -/
theorem follows_notify (hE : ∀ e, E e e)
    (hb : ∀ key, Follows R Eq E (b.signal key) (b.signal key)) (event : String) :
    Follows R Eq E (notify b event) (notify b event) := by
  have hall : Follows R Eq E (Tracker.notify b event) (Tracker.notify b event) := by
    intro w u h
    unfold Tracker.notify
    rw [Act.perform_bind_ok (Act.perform_get w), Act.perform_bind_ok (Act.perform_get u),
      hR.tracker h]
    exact Tracker.follows_notifyAll hR hE hb event _ w u h
  unfold notify
  exact hall.bind fun _ _ _ => Follows.pure rfl

/-- Describing a task does the same from related worlds if the tasks that are found there have the
same prompt and the same input, and if the announcement does. -/
theorem follows_describe (hE : ∀ e, E e e)
    (hb : ∀ events, Follows R Eq E (b.announce events) (b.announce events)) {key : TaskKey}
    (htask : Follows R (fun t t' => t'.prompt = t.prompt ∧ t'.input = t.input) E
      (Catalog.task key) (Catalog.task key)) :
    Follows R Eq E (describe b key) (describe b key) := by
  unfold describe
  refine htask.bind fun t t' ht => ?_
  rw [ht.1, ht.2]
  refine Follows.ite ?_ (Follows.pure rfl)
  refine ((Tracker.respects_armTask hR key _).follows hE).bind fun events _ hevents => ?_
  rw [← hevents]
  exact (hb events).bind fun _ _ _ => Follows.pure rfl

/-- Remembering a clue respects a discreet relation. -/
theorem respects_registerClue (kind content : String) :
    Respects R (registerClue kind content) := by
  have hknown : Respects R (do
      let clues ← Settings.getClues
      if !clues.contains (content, kind) then Settings.setClues (clues ++ [(content, kind)])) := by
    refine (Settings.respects_getClues hR).bind fun clues => ?_
    exact Agree.ite (Settings.respects_setValue hR _ _) (Agree.pure _)
  unfold registerClue
  exact Agree.ite ((Agree.refuse _).bind fun _ => hknown) hknown

/-- Changing the background respects a discreet relation. -/
theorem respects_setBackground (uri : String) : Respects R (setBackground uri) := by
  unfold setBackground
  exact (Shell.respects_execute hR _ []).bind fun _ => hR.note _

end Service

end Tutor
