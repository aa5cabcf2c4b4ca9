import Tutor.Proofs.Service.Attempts

namespace Tutor.Service

/-!
# Progress over whole runs

The unlocked and the completed lessons that are stored are what the attempts that succeeded have
added, whatever else is done to the service, and whatever the boundary does when it is called.

* `Callback`, `Operation.calls` — the calls of the boundary during an operation;
* `Success`, `Operation.successes` — attempts that succeed, and what their effects add;
* `Run` — a run of operations with the attempts that succeed in it, those of callbacks included;
* `linked_request`, `shows_attempt` — what one operation does to the lists, its callbacks apart;
* `lists_of_run` — the lists after a run are made of its successes.
-/

open Act (Keeps)
open Settings (Holds stringsIn unlockedKey knownKey)

/-! ### Calls of the boundary -/

/-- A call of the boundary: the world in which it is made, and the one in which it has ended. -/
structure Callback where
  before : World
  after : World

/-- The signals while an event is recorded for some tasks. One that fails is the last one. -/
def signalCalls (b : Boundary) (event : String) : List TaskKey → World → List Callback
  | [], _ => []
  | key :: rest, w =>
    match (Tracker.markTask event key).perform w with
    | (.ok true, before) =>
      match (b.signal key).perform before with
      | (.ok _, after) => ⟨before, after⟩ :: signalCalls b event rest after
      | (.error _, after) => [⟨before, after⟩]
    | (_, w') => signalCalls b event rest w'

/-- Arm a task if its input is events, and return the events. -/
def armDescribed (key : TaskKey) : Act (Option (List String)) := do
  let t ← Catalog.task key
  if t.input.kind == eventsKind then
    return some (← Tracker.armTask key (.obj t.input.settings))
  return none

/-- Each of these calls is a signal. -/
theorem after_of_mem_signalCalls {b : Boundary} {event : String} {keys : List TaskKey} {w : World}
    {c : Callback} (h : c ∈ signalCalls b event keys w) :
    ∃ key, c.after = ((b.signal key).perform c.before).2 := by
  induction keys generalizing w with
  | nil => cases h
  | cons key rest ih =>
    rw [signalCalls] at h
    split at h
    · rename_i before hmark
      split at h
      · rename_i u after hs
        rcases List.mem_cons.mp h with rfl | h
        · exact ⟨key, by rw [hs]⟩
        · exact ih h
      · rename_i e after hs
        rw [List.mem_singleton.mp h]
        exact ⟨key, by rw [hs]⟩
    · exact ih h

/-- The announcement while a task is described. -/
def announceCalls (b : Boundary) (key : TaskKey) (w : World) : List Callback :=
  match (armDescribed key).perform w with
  | (.ok (some events), before) => [⟨before, ((b.announce events).perform before).2⟩]
  | _ => []

/-- This call is an announcement. -/
theorem after_of_mem_announceCalls {b : Boundary} {key : TaskKey} {w : World} {c : Callback}
    (h : c ∈ announceCalls b key w) : ∃ events, c.after = ((b.announce events).perform c.before).2 := by
  unfold announceCalls at h
  split at h
  · rename_i events before harm
    rw [List.mem_singleton.mp h]
    exact ⟨events, rfl⟩
  · cases h

/-- The calls of the boundary during an operation. -/
def Operation.calls (b : Boundary) (w : World) : Operation → List Callback
  | .describe key => announceCalls b key w
  | .notify event => signalCalls b event w.tracker.armedPairs w
  | _ => []

/-! ### Successes -/

/-- An attempt that succeeds, and the world it is made in. -/
structure Success where
  key : TaskKey
  input : String
  world : World

namespace Success

/-- The effect that is applied. -/
def effect? (s : Success) : Option Effect :=
  match ((effectOf s.key s.input).perform s.world).1 with
  | .ok effect => effect
  | .error _ => none

/-- The names that the effect unlocks. -/
def unlocks (s : Success) : List String :=
  (s.effect?.map Effect.unlocks).getD []

/-- The lesson, if the effect completes it. -/
def completes (s : Success) : List String :=
  (s.effect?.map fun e => e.completes s.key.1).getD []

end Success

/-- The attempt, if the operation is one that succeeds. -/
def Operation.successes (w : World) : Operation → List Success
  | .attempt key input =>
    match ((Service.attempt key input).perform w).1 with
    | .ok _ => [⟨key, input, w⟩]
    | .error _ => []
  | _ => []

/-- The unlocked lessons that successes make up, each where it is first unlocked. -/
def unlockedBy (successes : List Success) : List String :=
  (successes.flatMap Success.unlocks).eraseDups

/-- The completed lessons that successes make up, each where it is first completed. -/
def completedBy (successes : List Success) : List String :=
  (successes.flatMap Success.completes).eraseDups

/-! ### Runs -/

/-- The client asks the service for it. -/
def Operation.IsRequest : Operation → Prop
  | .outside _ => False
  | _ => True

/-- A run from one world to another, with the attempts that succeed in it. What the boundary does
when it is called is a run as well; what happens elsewhere leaves the stored texts alone. -/
inductive Run : World → List Success → World → Prop
  | done (w : World) : Run w [] w
  | elsewhere {w v w' : World} {later : List Success} (h : v.stored = w.stored)
      (rest : Run v later w') : Run w later w'
  | request {w w' : World} {later : List Success} (b : Boundary) (o : Operation)
      (h : o.IsRequest) (inside : Callback → List Success)
      (calls : ∀ c ∈ o.calls b w, Run c.before (inside c) c.after)
      (rest : Run (o.after b w) later w') :
      Run w (o.successes w ++ (o.calls b w).flatMap inside ++ later) w'

/-- An attempt is a run of its own. -/
theorem Run.attempt (b : Boundary) (key : TaskKey) (input : String) (w : World) :
    Run w ((Operation.attempt key input).successes w) ((Operation.attempt key input).after b w) := by
  have h := Run.request b (.attempt key input) trivial (fun _ => []) (fun c hc => nomatch hc)
    (.done ((Operation.attempt key input).after b w))
  rwa [List.append_nil, show (Operation.attempt key input).calls b w = [] from rfl,
    List.flatMap_nil, List.append_nil] at h

/-! ### The lists -/

/-- The unlocked and the completed lessons that are stored, or why they cannot be read. -/
def lists (w : World) : Except Failure (List String) × Except Failure (List String) :=
  (((Settings.getStrings unlockedKey).perform w).1, ((Settings.getStrings knownKey).perform w).1)

/-- The lists that are stored are those that these successes make up. -/
def Shows (w : World) (successes : List Success) : Prop :=
  lists w = (.ok (unlockedBy successes), .ok (completedBy successes))

/-- Each success finds the lists that the earlier ones make up. -/
def Along : (earlier successes : List Success) → Prop
  | _, [] => True
  | earlier, s :: rest => Shows s.world earlier ∧ Along (earlier ++ [s]) rest

/-- The lists change during the calls only. -/
def Linked : World → List Callback → World → Prop
  | w, [], w' => lists w' = lists w
  | w, c :: rest, w' => lists c.before = lists w ∧ Linked c.after rest w'

/-- The lists are made of the stored texts. -/
theorem lists_eq (w : World) :
    lists w = (w.stored.bind fun t => stringsIn t unlockedKey,
      w.stored.bind fun t => stringsIn t knownKey) := by
  unfold lists
  rw [Settings.perform_getStrings, Settings.perform_getStrings]

/-- Worlds with the same texts stored have the same lists. -/
theorem lists_congr {w w' : World} (h : w'.stored = w.stored) : lists w' = lists w := by
  rw [lists_eq, lists_eq, h]

/-- What changes nothing that is settled keeps the lists. -/
theorem keeps_lists_of_settled {α : Type} {a : Act α} (h : Keeps World.settled a) :
    Keeps lists a := fun w => lists_congr (World.stored_of_settled (h w))

/-- Remembering a clue keeps the lists. -/
theorem keeps_lists_registerClue (kind content : String) :
    Keeps lists (registerClue kind content) := by
  have hclues : ∀ text, Keeps lists (Settings.setText Settings.cluesKey text) := fun text w =>
    Prod.ext (Settings.keeps_getStrings_setText (by decide) text w)
      (Settings.keeps_getStrings_setText (by decide) text w)
  have hknown : Keeps lists (do
      let clues ← Settings.getClues
      if !clues.contains (content, kind) then Settings.setClues (clues ++ [(content, kind)])) := by
    refine (Settings.keeps_getClues _).bind fun clues => ?_
    exact Keeps.ite (hclues _) (Keeps.pure _)
  unfold registerClue
  exact Keeps.ite ((Keeps.refuse _).bind fun _ => hknown) hknown

/-! ### One operation -/

/-- What is linked from one world is linked from any other with the same lists. -/
theorem Linked.of_lists {w v w' : World} {calls : List Callback} (h : Linked v calls w')
    (hv : lists v = lists w) : Linked w calls w' := by
  cases calls with
  | nil => exact h.trans hv
  | cons c rest => exact ⟨h.1.trans hv, h.2⟩

/-- While an event is recorded, the lists change during the signals only. -/
theorem linked_signalCalls (b : Boundary) (event : String) (keys : List TaskKey) (w : World) :
    Linked w (signalCalls b event keys w) ((Tracker.notifyAll b event keys).perform w).2 := by
  -- task by task: marking one keeps the lists, so that only its signal may change them
  induction keys generalizing w with
  | nil => exact rfl
  | cons key rest ih =>
    obtain ⟨j, hmark⟩ := Tracker.perform_markTask event key w
    have hlists : lists { w with tracker := w.tracker.mark key event, journal := j } = lists w :=
      lists_congr (World.stored_congr rfl rfl)
    rw [signalCalls, Tracker.notifyAll]
    cases hasks : w.tracker.asks event key with
    | false =>
      rw [hasks] at hmark
      rw [hmark, Act.perform_bind_ok (Tracker.perform_notifyTask_silent hmark), Act.world_bind_pure]
      exact (ih _).of_lists hlists
    | true =>
      rw [hasks] at hmark
      rw [hmark]
      cases hs : (b.signal key).perform
          { w with tracker := w.tracker.mark key event, journal := j } with
      | mk r after =>
        cases r with
        | ok u =>
          rw [Act.perform_bind_ok (Tracker.perform_notifyTask_signal hmark hs),
            Act.world_bind_pure]
          simp only [hs]
          exact ⟨hlists, ih after⟩
        | error e =>
          -- a signal that fails is the last call
          have htask : (Tracker.notifyTask b event key).perform w = (.error e, after) := by
            unfold Tracker.notifyTask
            rw [Act.perform_bind_ok hmark, if_pos rfl, Act.perform_bind_error hs]
          rw [Act.perform_bind_error htask]
          simp only [hs]
          exact ⟨hlists, rfl⟩

/-- While an event is passed on, the lists change during the signals only. -/
theorem linked_notify (b : Boundary) (event : String) (w : World) :
    Linked w (signalCalls b event w.tracker.armedPairs w) ((notify b event).perform w).2 := by
  unfold notify Tracker.notify
  rw [Act.world_bind_pure, Act.perform_bind_ok (Act.perform_get w)]
  exact linked_signalCalls b event _ w

/-- Arming a task keeps the lists. -/
theorem keeps_lists_armTask (key : TaskKey) (outputs : Json) :
    Keeps lists (Tracker.armTask key outputs) :=
  Tracker.keeps_armTask (fun _ _ _ => lists_congr (World.stored_congr rfl rfl)) key outputs

/-- While a task is described, the lists change during the announcement only. -/
theorem linked_describe (b : Boundary) (key : TaskKey) (w : World) :
    Linked w (announceCalls b key w) ((describe b key).perform w).2 := by
  -- what comes before the announcement, looking the task up and arming it, keeps the lists
  have htask := keeps_lists_of_settled (Catalog.keeps_task key) w
  unfold announceCalls armDescribed describe
  cases ht : (Catalog.task key).perform w with
  | mk r w₁ =>
    rw [ht] at htask
    cases r with
    | error e =>
      rw [Act.perform_bind_error ht, Act.perform_bind_error ht]
      exact htask
    | ok t =>
      rw [Act.perform_bind_ok ht, Act.perform_bind_ok ht]
      by_cases hkind : (t.input.kind == eventsKind) = true
      · have harmed := keeps_lists_armTask key (.obj t.input.settings) w₁
        simp only [if_pos hkind]
        cases ha : (Tracker.armTask key (.obj t.input.settings)).perform w₁ with
        | mk r w₂ =>
          rw [ha] at harmed
          cases r with
          | error e =>
            rw [Act.perform_bind_error ha, Act.perform_bind_error ha]
            exact harmed.trans htask
          | ok events =>
            rw [Act.perform_bind_ok ha, Act.perform_bind_ok ha, Act.world_bind_pure]
            exact ⟨harmed.trans htask, rfl⟩
      · simp only [if_neg hkind]
        exact htask

/-- One more success adds what it unlocks. -/
theorem unlockedBy_concat (earlier : List Success) (s : Success) :
    unlockedBy (earlier ++ [s]) = (unlockedBy earlier ++ s.unlocks).eraseDups := by
  rw [unlockedBy, List.flatMap_append, List.flatMap_singleton, ← eraseDups_eraseDups_append]
  rfl

/-- One more success adds what it completes. -/
theorem completedBy_concat (earlier : List Success) (s : Success) :
    completedBy (earlier ++ [s]) = (completedBy earlier ++ s.completes).eraseDups := by
  rw [completedBy, List.flatMap_append, List.flatMap_singleton, ← eraseDups_eraseDups_append]
  rfl

/-- An attempt that succeeds adds to the lists what its effect adds; one that fails adds nothing. -/
theorem shows_attempt (b : Boundary) {w : World} {earlier : List Success} (key : TaskKey)
    (input : String) (h : Shows w earlier) :
    Shows ((Operation.attempt key input).after b w)
        (earlier ++ (Operation.attempt key input).successes w) ∧
      Along earlier ((Operation.attempt key input).successes w) := by
  rcases attempt_cases key input w with ⟨e, w', hfail, hsettled⟩ |
    ⟨effect, responses, texts, unlocked, known, texts', w', heffect, hok, htexts, hu, hk, htexts',
      hu', hk'⟩
  · -- nothing that is settled has changed, the lists among it
    have hnone : (Operation.attempt key input).successes w = [] := by
      simp only [Operation.successes, hfail]
    have hafter : (Operation.attempt key input).after b w = w' := by
      simp only [Operation.after, hfail]
    rw [hnone, hafter, List.append_nil]
    exact ⟨(lists_congr (World.stored_of_settled hsettled)).trans h, trivial⟩
  · let s : Success := ⟨key, input, w⟩
    have hone : (Operation.attempt key input).successes w = [s] := by
      simp only [Operation.successes, hok]
      rfl
    have hafter : (Operation.attempt key input).after b w = w' := by
      simp only [Operation.after, hok]
    have hs : s.effect? = some effect := by
      simp only [s, Success.effect?, heffect]
    have hunlocks : s.unlocks = effect.unlocks := by rw [Success.unlocks, hs]; rfl
    have hcompletes : s.completes = effect.completes key.1 := by rw [Success.completes, hs]; rfl
    -- what the attempt has read is what the earlier successes make up
    have hstored : w.stored = .ok texts := htexts
    have hstored' : w'.stored = .ok texts' := htexts'
    have hread : lists w = (.ok unlocked, .ok known) := by
      rw [lists_eq, hstored]
      exact Prod.ext hu hk
    have hsame := hread.symm.trans h
    simp only [Prod.mk.injEq, Except.ok.injEq] at hsame
    rw [hone, hafter]
    refine ⟨?_, h, trivial⟩
    rw [Shows, unlockedBy_concat, completedBy_concat, hunlocks, hcompletes, ← hsame.1, ← hsame.2,
      lists_eq, hstored']
    exact Prod.ext hu' hk'

/-- Any other request changes the lists during its calls only. -/
theorem linked_request (b : Boundary) {o : Operation} (ho : o.IsRequest)
    (hno : ∀ key input, o ≠ .attempt key input) (w : World) : Linked w (o.calls b w) (o.after b w) := by
  cases o with
  | describe key => exact linked_describe b key w
  | attempt key input => exact absurd rfl (hno key input)
  | notify event => exact linked_notify b event w
  | reload => exact lists_congr (World.stored_of_apart (Catalog.keeps_reload w))
  | registerClue kind content => exact keeps_lists_registerClue kind content w
  | setBackground uri => exact keeps_lists_of_settled (keeps_setBackground uri) w
  | unlockedLessons client => exact keeps_lists_of_settled (keeps_unlockedLessons client) w
  | knownLessons client => exact keeps_lists_of_settled (keeps_knownLessons client) w
  | outside change => exact ho.elim

/-! ### Runs of operations -/

/-- Successes in two parts: the second part finds what the first one leaves. -/
theorem Along.append {earlier first others : List Success} (h₁ : Along earlier first)
    (h₂ : Along (earlier ++ first) others) : Along earlier (first ++ others) := by
  induction first generalizing earlier with
  | nil => rwa [List.append_nil] at h₂
  | cons s rest ih =>
    refine ⟨h₁.1, ih h₁.2 ?_⟩
    rwa [List.append_assoc, List.singleton_append]

/-- Each success finds the lists that those before it make up. -/
theorem Along.shows {earlier first later : List Success} {s : Success}
    (h : Along earlier (first ++ s :: later)) : Shows s.world (earlier ++ first) := by
  induction first generalizing earlier with
  | nil => rw [List.append_nil]; exact h.1
  | cons t rest ih =>
    have hrest := ih h.2
    rwa [List.append_assoc, List.singleton_append] at hrest

/-- From one world to another, the lists grow by these successes. -/
def Grows (w : World) (successes : List Success) (w' : World) : Prop :=
  ∀ earlier, Shows w earlier → Shows w' (earlier ++ successes) ∧ Along earlier successes

/-- Lists that grow by one part and then by another grow by both. -/
theorem Grows.trans {w v w' : World} {first others : List Success} (h₁ : Grows w first v)
    (h₂ : Grows v others w') : Grows w (first ++ others) w' := by
  intro earlier hw
  obtain ⟨hv, hfirst⟩ := h₁ earlier hw
  obtain ⟨hw', hothers⟩ := h₂ _ hv
  rw [List.append_assoc] at hw'
  exact ⟨hw', hfirst.append hothers⟩

/-- Where the lists change during some calls only, they grow by what the calls add. -/
theorem grows_calls {inside : Callback → List Success} {calls : List Callback} {w w' : World}
    (h : Linked w calls w') (hcalls : ∀ c ∈ calls, Grows c.before (inside c) c.after) :
    Grows w (calls.flatMap inside) w' := by
  induction calls generalizing w with
  | nil =>
    intro earlier hw
    rw [List.flatMap_nil, List.append_nil]
    exact ⟨h.trans hw, trivial⟩
  | cons c rest ih =>
    have hfirst : Grows w (inside c) c.after := fun earlier hw =>
      hcalls c List.mem_cons_self earlier (h.1.trans hw)
    rw [List.flatMap_cons]
    exact hfirst.trans (ih h.2 fun d hd => hcalls d (List.mem_cons_of_mem _ hd))

/-- Over a request the lists grow by its success and by what its calls add. -/
theorem grows_request (b : Boundary) {o : Operation} (ho : o.IsRequest) {w : World}
    {inside : Callback → List Success}
    (hcalls : ∀ c ∈ o.calls b w, Grows c.before (inside c) c.after) :
    Grows w (o.successes w ++ (o.calls b w).flatMap inside) (o.after b w) := by
  -- an attempt calls nobody, and any other request adds nothing of its own
  by_cases hattempt : ∃ key input, o = .attempt key input
  · obtain ⟨key, input, rfl⟩ := hattempt
    intro earlier hw
    have h := shows_attempt b key input hw
    simpa only [Operation.calls, List.flatMap_nil, List.append_nil] using h
  · have hno : ∀ key input, o ≠ .attempt key input := fun key input h => hattempt ⟨key, input, h⟩
    have hnone : o.successes w = [] := by
      cases o with
      | attempt key input => exact absurd rfl (hno key input)
      | _ => rfl
    rw [hnone, List.nil_append]
    exact grows_calls (linked_request b ho hno w) hcalls

/-- Over a run the lists grow by its successes. -/
theorem grows_run {w w' : World} {successes : List Success} (h : Run w successes w') :
    Grows w successes w' := by
  -- the calls of a request are runs themselves, for which the lists grow by induction
  induction h with
  | done w =>
    intro earlier hw
    rw [List.append_nil]
    exact ⟨hw, trivial⟩
  | elsewhere h rest ih => exact fun earlier hw => ih earlier ((lists_congr h).trans hw)
  | request b o ho inside calls rest ihcalls ih => exact (grows_request b ho ihcalls).trans ih

/-! ### The main result -/

/-- After a run that starts with no settings stored, the unlocked lessons that are stored are the
names that the effects of its successes unlock, in order and each where it first occurs, and the
completed lessons are likewise those that the effects complete. At the moment of each success the
lists are those that the successes before it make up. No list has a name twice, and with more
successes the lists only get longer at their ends. -/
theorem lists_of_run {w w' : World} {successes : List Success} (h : Run w successes w')
    (hw : Holds [] w) :
    Shows w' successes ∧
      (∀ earlier s later, successes = earlier ++ s :: later → Shows s.world earlier) ∧
      (unlockedBy successes).Nodup ∧ (completedBy successes).Nodup ∧
      ∀ earlier later, successes = earlier ++ later →
        unlockedBy earlier <+: unlockedBy successes ∧
          completedBy earlier <+: completedBy successes := by
  have hstart : Shows w [] := by
    have hstored : w.stored = .ok [] := hw
    rw [Shows, lists_eq, hstored]
    rfl
  obtain ⟨hend, halong⟩ := grows_run h [] hstart
  refine ⟨hend, ?_, nodup_eraseDups _, nodup_eraseDups _, ?_⟩
  · rintro earlier s later rfl
    exact halong.shows
  · rintro earlier later rfl
    unfold unlockedBy completedBy
    rw [List.flatMap_append, List.flatMap_append]
    exact ⟨eraseDups_prefix_append _ _, eraseDups_prefix_append _ _⟩

/-- The signal of a task makes an attempt at it at once, and another task is attempted later: what is
unlocked by both is listed once. -/
theorem lists_of_run_calling_back :
    let wait : Task :=
      { id := "wait", prompt := "Wait", mapper := [.str "check_external_events"]
        input := ⟨"external_events", [("done", .obj [("events", .arr [.str "e"]),
          ("notify", .bool true)])]⟩
        effects := [("done", ⟨.null, [.obj [("type", .str "unlock"), ("value", .arr [.str "m"])]],
          true, none⟩)] }
    let say : Task :=
      { id := "say", prompt := "Say", input := ⟨"text", []⟩, mapper := [.str "input"]
        effects := [("go", ⟨.null, [.obj [("type", .str "unlock"),
          ("value", .arr [.str "m", .int 3])]], false, none⟩)] }
    let lesson : Lesson := ⟨"l", "A lesson", "wait", ["console"], [("wait", wait), ("say", say)]⟩
    let w := { World.fresh Host.bare ⟨[lesson], [], none⟩ with connection := .memory ⟨1, some []⟩ }
    Holds [] w ∧ ∃ successes w', Run w successes w' ∧ Shows w' successes ∧
      unlockedBy successes = ["m", "3"] ∧ completedBy successes = ["l"] := by
  intro wait say lesson w
  let b : Boundary :=
    { announce := fun _ => pure ()
      signal := fun _ => do let _ ← attempt ("l", "wait") "" }
  let inside : Callback → List Success := fun c =>
    (Operation.attempt ("l", "wait") "").successes c.before
  have hw : Holds [] w := rfl
  -- what happens during a signal is an attempt
  have hsignal : ∀ v, ∀ c ∈ (Operation.notify "e").calls b v, Run c.before (inside c) c.after := by
    intro v c hc
    obtain ⟨key, hafter⟩ := after_of_mem_signalCalls hc
    have hworld := Act.world_bind_pure (attempt ("l", "wait") "") (fun _ => ()) c.before
    rw [hafter]
    exact hworld ▸ Run.attempt b ("l", "wait") "" c.before
  -- nothing happens during the announcement
  have hannounce : ∀ c ∈ (Operation.describe ("l", "wait")).calls b w,
      Run c.before [] c.after := by
    intro c hc
    have hannounced : c ∈ announceCalls b ("l", "wait") w := hc
    obtain ⟨events, hafter⟩ := after_of_mem_announceCalls hannounced
    exact hafter ▸ Run.done c.before
  let w₁ := (Operation.describe ("l", "wait")).after b w
  let w₂ := (Operation.notify "e").after b w₁
  have hrun := Run.request b (.describe ("l", "wait")) trivial (fun _ => []) hannounce
    (Run.request b (.notify "e") trivial inside (hsignal w₁) (Run.attempt b ("l", "say") "go" w₂))
  exact ⟨hw, _, _, hrun, (lists_of_run hrun hw).1, by decide +kernel, by decide +kernel⟩

end Tutor.Service
