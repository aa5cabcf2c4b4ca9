import Tutor.Proofs.Console.Moves
import Tutor.Proofs.Course.Documents
import Tutor.Proofs.Service.Attempts

namespace Tutor.Console

/-!
# Lessons that are told to be complete

The game tells that a lesson is complete when it comes to no task of it. An attempt that leads there
has stored the lesson with the known ones, whatever its effect is and whatever becomes of the
lessons in the meantime. A lesson without a first task is told to be complete as soon as it starts,
and nothing is stored.

* `Known` — a lesson is among those that are stored as known;
* `known_of_attemptMove` — an attempt that leads to no task has stored the lesson;
* `StartsComplete` — a turn at which a lesson starts without a task;
* `completed_known` — each lesson that is told to be complete is known, or it has just started
  without a task.
-/

open Act (Keeps)
open Settings (Holds knownKey)

/-! ### What a game does to the lessons -/

/-- The menu leaves the lessons alone. -/
theorem keeps_showMenu : Keeps World.catalog showMenu := by
  have hchoices : ∀ known n lessons, Keeps World.catalog (printChoices known n lessons) := by
    intro known n lessons
    induction lessons generalizing n with
    | nil => exact Keeps.pure _
    | cons l rest ih =>
      rw [printChoices]
      exact Keeps.bind (fun _ => rfl) fun _ => ih _
  unfold showMenu
  refine ((Service.keeps_unlockedLessons client).map World.catalog).bind fun lessons => ?_
  refine ((Service.keeps_knownLessons client).map World.catalog).bind fun known => ?_
  refine Keeps.bind (fun _ => rfl) fun _ => (hchoices _ _ _).bind fun _ => ?_
  exact Keeps.bind (fun _ => rfl) fun _ _ => rfl

/-- Trying an operation leaves alone what the operation does. -/
theorem keeps_tryOrPrint {α : Type} {a : Act α} (h : Keeps World.catalog a) :
    Keeps World.catalog (tryOrPrint a) := by
  intro w
  have hw := h w
  rw [perform_tryOrPrint]
  split <;> rename_i hperform <;> rw [hperform] at hw <;> exact hw

/-- Describing a task leaves the lessons alone. -/
theorem keeps_describe (key : TaskKey) : Keeps World.catalog (Service.describe boundary key) := by
  unfold Service.describe
  refine ((Catalog.keeps_task key).map World.catalog).bind fun t => Keeps.ite ?_ (Keeps.pure _)
  refine (Tracker.keeps_armTask (fun _ _ _ => rfl) key _).bind fun events => ?_
  exact Keeps.bind ((quiet_boundary.announce_keeps events).map (·.1)) fun _ => Keeps.pure _

/-- Passing an event on leaves the lessons alone. -/
theorem keeps_notify (name : String) : Keeps World.catalog (Service.notify boundary name) := by
  unfold Service.notify
  refine Keeps.bind (fun w => ?_) fun _ => Keeps.pure _
  obtain ⟨signalled, w', hnotify, hservice⟩ := Tracker.perform_notify_quiet quiet_boundary name w
  rw [hnotify]
  exact congrArg (·.1) hservice

/-- Whatever move is carried out, it leaves the lessons alone. -/
theorem Move.keeps_carryOut (m : Move) : Keeps World.catalog m.carryOut := by
  cases m with
  | menu => exact keeps_showMenu
  | again key => exact fun _ => rfl
  | stop => exact Keeps.pure _
  | visit key =>
    show Keeps World.catalog (Console.visit key)
    unfold Console.visit
    refine Keeps.ite (Keeps.bind (fun _ => rfl) fun _ => keeps_showMenu) ?_
    refine (keeps_tryOrPrint (keeps_describe key)).bind fun answer => ?_
    cases answer with
    | none => exact keeps_showMenu
    | some a => exact Keeps.bind (fun _ => rfl) fun _ _ => rfl

/-- The first move of a lesson leaves the lessons alone. -/
theorem keeps_startMove (name : String) : Keeps World.catalog (startMove name) := by
  unfold startMove
  refine ((Catalog.keeps_lookup name).map World.catalog).bind fun found => ?_
  cases found with
  | none => exact Keeps.bind (fun _ => rfl) fun _ => Keeps.pure _
  | some l =>
    refine Keeps.bind (fun _ => rfl) fun _ => Keeps.bind (fun _ => rfl) fun _ => ?_
    exact Keeps.bind (fun _ => rfl) fun _ => Keeps.pure _

/-- The move that an attempt leads to leaves the lessons alone. -/
theorem keeps_attemptMove (key : TaskKey) (text : String) :
    Keeps World.catalog (attemptMove key text) := by
  unfold attemptMove
  refine (keeps_tryOrPrint (Service.keeps_attempt key text)).bind fun answer => ?_
  cases answer with
  | none => exact Keeps.pure _
  | some a => exact ((keeps_printResponses a.1).map World.catalog).bind fun _ => Keeps.pure _

/-- The lessons are those of a document, whatever line comes in: only a request to read them again
changes them. -/
theorem documented_answerMove {w : World} (h : w.catalog.Documented) (stage : Stage)
    (line : String) : ((answerMove stage line).perform w).2.catalog.Documented := by
  have hkeeps : ∀ {a : Act Move}, Keeps World.catalog a →
      (a.perform w).2.catalog.Documented := fun ha => (ha w).symm ▸ h
  cases stage with
  | finished => exact h
  | choosing lessons =>
    refine hkeeps ((Keeps.ofExcept _).bind fun choice => ?_)
    cases choice with
    | quit => exact Keeps.pure _
    | lesson name => exact keeps_startMove name
    | invalid => exact Keeps.bind (fun _ => rfl) fun _ => Keeps.pure _
  | attempting key =>
    rw [answerMove, requestMove]
    cases Request.read line with
    | quit => exact h
    | back => exact h
    | event name => exact hkeeps ((keeps_notify name).bind fun _ => Keeps.pure _)
    | attempt text => exact hkeeps (keeps_attemptMove key text)
    | reload =>
      -- nothing but the reading touches the lessons, whether it fails or not
      have hreload := Catalog.documented_reload h
      rw [Act.perform_bind]
      cases hr : Catalog.reload.perform w with
      | mk r w' =>
        rw [hr] at hreload
        cases r with
        | error e => exact hreload
        | ok changed => exact hreload

/-! ### Attempts -/

/-- The lesson is among those that are stored as known. -/
def Known (lesson : String) (w : World) : Prop :=
  ∃ known, ((Settings.getStrings knownKey).perform w).1 = .ok known ∧ lesson ∈ known

/-- Worlds that differ in the journal only have the same texts stored. -/
theorem stored_of_alike {w u : World} (h : w.Alike u) : w.stored = u.stored := by
  have hconnection : w.unjournaled.connection = u.unjournaled.connection :=
    congrArg World.connection h
  have hfiles : w.unjournaled.host.files = u.unjournaled.host.files :=
    congrArg (fun v => v.host.files) h
  exact World.stored_congr hconnection hfiles

/-- An attempt at a task that leads to none has stored the lesson. -/
theorem known_of_attemptMove {key next : TaskKey} {text : String} {w w' : World}
    (hdocumented : w.catalog.Documented) (hkey : key.2 ≠ "")
    (h : (attemptMove key text).perform w = (.ok (.visit next), w')) (hnext : next.2 = "") :
    Known next.1 w' := by
  obtain ⟨responses, v, hattempt, hlesson, hprinted⟩ := attemptMove_ok h
  rcases Service.attempt_cases key text w with ⟨e, v', hfails, -⟩ |
    ⟨effect, responses', texts, unlocked, known, texts', v', heffect, hsucceeds, -, -, -, htexts',
      -, hknown⟩
  · rw [hfails] at hattempt
    cases hattempt
  · rw [hsucceeds, Prod.mk.injEq, Except.ok.injEq, Prod.mk.injEq] at hattempt
    obtain ⟨⟨-, hgoal⟩, rfl⟩ := hattempt
    -- the effect comes from a document, so that it leads to no task by completing the lesson only
    obtain ⟨t, code, ht, hcode⟩ := Service.effectOf_ok heffect
    have hcompletes : effect.completes key.1 = [key.1] :=
      Effect.completes_of_next (hgoal.trans hnext) hkey (hdocumented.moveTo_ne ht hcode)
    have hstored : w'.stored = .ok texts' := (stored_of_alike hprinted).trans htexts'
    refine ⟨(known ++ [key.1]).eraseDups, ?_, ?_⟩
    · rw [Settings.perform_getStrings, hstored]
      simp only [Except.bind, hknown, hcompletes]
    · rw [List.mem_eraseDups, hlesson]
      exact List.mem_append_right _ List.mem_cons_self

/-! ### Lessons that start -/

/-- At this turn a lesson has been started that has no task to start with. -/
def StartsComplete (lesson : String) (t : Turn) : Prop :=
  ∃ v l, v.catalog.lesson? lesson = some l ∧ l.entry = "" ∧
    (startMove lesson).perform v = (.ok t.move, t.world)

/-- A lesson that is there starts with a visit of its first task. -/
theorem startMove_cases {name : String} {m : Move} {w w' : World}
    (h : (startMove name).perform w = (.ok m, w')) :
    m = .menu ∨ ∃ l, w.catalog.lesson? name = some l ∧ m = .visit (name, l.entry) := by
  obtain ⟨j, hlookup⟩ := Catalog.perform_lookup name w
  unfold startMove at h
  rw [Act.perform_bind_ok hlookup] at h
  cases hl : w.catalog.lesson? name with
  | none => rw [hl] at h; cases h; exact .inl rfl
  | some l => rw [hl] at h; cases h; exact .inr ⟨l, rfl, rfl⟩

/-- A lesson that starts with no task has none to start with. -/
theorem startsComplete_of_startMove {name lesson : String} {w w' : World}
    (h : (startMove name).perform w = (.ok (.visit (lesson, "")), w')) :
    StartsComplete lesson ⟨.visit (lesson, ""), w'⟩ := by
  rcases startMove_cases h with hmenu | ⟨l, hl, hvisit⟩
  · cases hmenu
  · rw [Move.visit.injEq, Prod.mk.injEq] at hvisit
    obtain ⟨rfl, hentry⟩ := hvisit
    exact ⟨w, l, hl, hentry.symm, h⟩

/-! ### Every turn -/

/-- If a lesson is told to be complete at this turn, it is known, or it has just started without a
task. -/
def Truthful (t : Turn) : Prop :=
  ∀ lesson, t.move = .visit (lesson, "") → Known lesson t.world ∨ StartsComplete lesson t

/-- If the stage waits for an attempt, it is one at a task. -/
def Stage.Tasked : Stage → Prop
  | .attempting key => key.2 ≠ ""
  | _ => True

/-- If the move waits on, it does so at a task. -/
def Move.Tasked : Move → Prop
  | .again key => key.2 ≠ ""
  | _ => True

/-- A move leads to an attempt at a task, unless it waits on where there is none. -/
theorem tasked_carryOut {m : Move} {stage : Stage} {w w' : World} (hm : m.Tasked)
    (h : m.carryOut.perform w = (.ok stage, w')) : stage.Tasked := by
  cases stage with
  | finished => trivial
  | choosing lessons => trivial
  | attempting key =>
    cases m with
    | menu =>
      obtain ⟨lessons, hlessons⟩ := stage_of_showMenu h
      cases hlessons
    | stop => cases h
    | again key' => cases h; exact hm
    | visit key' =>
      obtain ⟨rfl, hkey, -⟩ := visit_attempting h
      exact hkey

/-- The start of a lesson is truthful. -/
theorem truthful_startMove {name : String} {m : Move} {w w' : World}
    (h : (startMove name).perform w = (.ok m, w')) : Truthful ⟨m, w'⟩ ∧ m.Tasked := by
  refine ⟨fun lesson hmove => .inr ?_, ?_⟩
  · obtain rfl : m = .visit (lesson, "") := hmove
    exact startsComplete_of_startMove h
  · rcases startMove_cases h with rfl | ⟨l, -, rfl⟩ <;> trivial

/-- What a line leads to is truthful. -/
theorem truthful_answerMove {stage : Stage} {line : String} {m : Move} {w w' : World}
    (hdocumented : w.catalog.Documented) (hstage : stage.Tasked)
    (h : (answerMove stage line).perform w = (.ok m, w')) : Truthful ⟨m, w'⟩ ∧ m.Tasked := by
  cases stage with
  | finished =>
    cases h
    exact ⟨nofun, trivial⟩
  | choosing lessons =>
    obtain ⟨choice, w₁, -, h⟩ := Act.of_perform_bind_ok h
    cases choice with
    | quit =>
      cases h
      exact ⟨nofun, trivial⟩
    | invalid =>
      cases h
      exact ⟨nofun, trivial⟩
    | lesson name => exact truthful_startMove h
  | attempting key =>
    -- of what can be asked for here, only an attempt leads to another visit
    rw [answerMove, requestMove] at h
    cases hr : Request.read line with
    | quit =>
      rw [hr] at h
      cases h
      exact ⟨nofun, trivial⟩
    | back =>
      rw [hr] at h
      cases h
      exact ⟨nofun, trivial⟩
    | event name =>
      rw [hr] at h
      obtain ⟨_, w₁, -, h⟩ := Act.of_perform_bind_ok h
      cases h
      exact ⟨nofun, hstage⟩
    | reload =>
      rw [hr] at h
      obtain ⟨changed, w₁, -, h⟩ := Act.of_perform_bind_ok h
      obtain ⟨_, w₂, -, h⟩ := Act.of_perform_bind_ok h
      cases h
      exact ⟨nofun, hstage⟩
    | attempt text =>
      -- it leads back to the task if it fails, and else to where its answer says
      rw [hr] at h
      rcases attemptMove_cases h with rfl | ⟨next, rfl⟩
      · exact ⟨nofun, trivial⟩
      · refine ⟨fun lesson hmove => .inl ?_, trivial⟩
        rw [Move.visit.injEq] at hmove
        subst hmove
        exact known_of_attemptMove hdocumented hstage h rfl

/-- Every turn of a game is truthful. -/
theorem truthful_turnsOn {input : List Incoming} {stage : Stage} {w : World} {t : Turn}
    (hdocumented : w.catalog.Documented) (hstage : stage.Tasked)
    (hmeanwhile : ∀ what, .meanwhile what ∈ input → Keeps World.catalog what)
    (ht : t ∈ turnsOn input stage w) : Truthful t := by
  -- between two lines, the lessons are those of a document, and attempts are at tasks
  refine of_mem_turnsOn (I := fun stage w => w.catalog.Documented ∧ stage.Tasked) ?_ ?_
    ⟨hdocumented, hstage⟩ ht
  · intro stage text w m v hI hdecide
    obtain ⟨htruthful, hm⟩ := truthful_answerMove hI.1 hI.2 hdecide
    -- deciding may read the lessons again, carrying out does not touch them
    have hv := documented_answerMove hI.1 stage text
    rw [hdecide] at hv
    refine ⟨htruthful, fun {stage' w'} hcarry => ⟨?_, tasked_carryOut hm hcarry⟩⟩
    exact (m.keeps_carryOut.of_perform hcarry).symm ▸ hv
  · intro what hwhat stage w w' hI hperform
    exact ⟨((hmeanwhile what hwhat).of_perform hperform).symm ▸ hI.1, hI.2⟩

/-! ### The main result -/

/-- In a game with the lessons of a document or the bundled ones, which nothing but the player's
requests reads again, each lesson that is told to be complete is stored with the known ones at that
moment. The one exception is a lesson that has just started and has no task to start with. -/
theorem completed_known {first : Option String} {input : List Incoming} {w : World} {t : Turn}
    {lesson : String} (hdocumented : w.catalog.Documented)
    (hmeanwhile : ∀ what, .meanwhile what ∈ input → Keeps World.catalog what)
    (ht : t ∈ turns first input w) (hcomplete : t.move = .visit (lesson, "")) :
    Known lesson t.world ∨ StartsComplete lesson t := by
  have hfirst : ∀ {m v}, (firstMove first).perform w = (.ok m, v) →
      Truthful ⟨m, v⟩ ∧ m.Tasked ∧ v.catalog.Documented := by
    intro m v h
    cases first with
    | none =>
      cases h
      exact ⟨nofun, trivial, hdocumented⟩
    | some name =>
      obtain ⟨htruthful, hm⟩ := truthful_startMove h
      exact ⟨htruthful, hm, ((keeps_startMove name).of_perform h).symm ▸ hdocumented⟩
  rcases mem_turn ht with hdecide | ⟨m, v, stage, w', hdecide, hcarry, hafter⟩
  · exact (hfirst hdecide).1 lesson hcomplete
  · obtain ⟨-, hm, hv⟩ := hfirst hdecide
    have hw' : w'.catalog.Documented := (m.keeps_carryOut.of_perform hcarry).symm ▸ hv
    exact truthful_turnsOn hw' (tasked_carryOut hm hcarry) hmeanwhile hafter lesson hcomplete

/-- The bundled lesson on finding lessons is known once it is told to be complete. -/
theorem completed_known_bundled :
    let w : World := { World.fresh Host.bare ⟨bundledLessons, [], none⟩ with
      connection := .memory ⟨1, some []⟩ }
    let input : List Incoming := [.line "showmehow"]
    w.catalog.Documented ∧ (∀ what, .meanwhile what ∈ input → Keeps World.catalog what) ∧
      ∃ t ∈ turns (some "showmehow") input w, t.move = .visit ("showmehow", "") ∧
        (Known "showmehow" t.world ∨ StartsComplete "showmehow" t) := by
  intro w input
  have hdocumented : w.catalog.Documented := .inl rfl
  have hmeanwhile : ∀ what, .meanwhile what ∈ input → Keeps World.catalog what := by
    intro what hwhat
    rcases List.mem_cons.mp hwhat with h | h <;> cases h
  have hmoves : (turns (some "showmehow") input w).map (·.move)
      = [.visit ("showmehow", "showmehow"), .visit ("showmehow", "")] := by
    decide +kernel
  obtain ⟨t, ht, hmove⟩ : ∃ t ∈ turns (some "showmehow") input w,
      t.move = .visit ("showmehow", "") := by
    rw [← List.mem_map, hmoves]
    exact List.mem_cons_of_mem _ List.mem_cons_self
  exact ⟨hdocumented, hmeanwhile, t, ht, hmove,
    completed_known hdocumented hmeanwhile ht hmove⟩

/-- A lesson without a first task is told to be complete as it starts, and is not known. -/
theorem completed_unknown :
    let document : Json := .arr [.obj [("name", .str "intro"), ("desc", .str "d"),
      ("available_to", .arr [.str "console"])]]
    let w : World := { World.fresh Host.bare ⟨[⟨"intro", "d", "", ["console"], []⟩], [], none⟩ with
      connection := .memory ⟨1, some []⟩ }
    lessonsOfJson document = .ok w.catalog.lessons ∧ Holds [] w ∧
      ∃ t ∈ turns (some "intro") [] w, t.move = .visit ("intro", "") ∧
        .line "Lesson 'intro' complete." ∈ (t.move.carryOut.perform t.world).2.journal ∧
        ¬ Known "intro" t.world := by
  intro document w
  refine ⟨rfl, rfl, _, List.mem_cons_self, rfl, ?_, ?_⟩
  · decide +kernel
  · rintro ⟨known, hknown, hmem⟩
    cases hknown
    cases hmem

end Tutor.Console
