import Tutor.Proofs.Effects.Outcome
import Tutor.Proofs.Service.Sessions
import Tutor.Proofs.Settings.Store

namespace Tutor

/-!
# Attempts that fail and attempts that succeed

An attempt reads the settings, works out the whole effect, and only then changes anything. After the
first change nothing can fail any more.

* `Service.perform_storeChanged` — where texts are stored, a list of names can be stored;
* `Service.conclude_cases`, `Service.attempt_cases` — an attempt fails and leaves all that is settled
  as it was, or it succeeds and has stored the new lists;
* `Service.unchanged_of_attempt_error` — what the service owns is the same after an attempt that
  fails.
-/

/-- Worlds with the same connection and the same files have the same texts stored. -/
theorem World.stored_congr {w w' : World} (hc : w.connection = w'.connection)
    (hf : w.host.files = w'.host.files) : w.stored = w'.stored := by
  have hcurrent : (Settings.current.perform w).1 = (Settings.current.perform w').1 := by
    unfold Settings.current
    rw [Act.perform_bind_ok (Act.perform_get w), Act.perform_bind_ok (Act.perform_get w'), hc, hf]
    cases w'.connection with
    | closed => rfl
    | memory content => rfl
    | file p => rw [Act.perform_ofExcept, Act.perform_ofExcept]
  -- what is read of the database does not depend on the rest of the world
  unfold World.stored Settings.table
  rw [Act.perform_bind, Act.perform_bind]
  cases hr : Settings.current.perform w with
  | mk r v =>
    cases hr' : Settings.current.perform w' with
    | mk r' v' =>
      rw [hr, hr'] at hcurrent
      simp only at hcurrent
      subst hcurrent
      cases r with
      | error e => rfl
      | ok d =>
        simp only
        cases d.table with
        | none => rfl
        | some t => rfl

/-- The stored texts do not depend on the lessons, nor on what is not settled. -/
theorem World.stored_of_apart {w w' : World} (h : w'.apart = w.apart) : w'.stored = w.stored := by
  have hc : w'.apart.connection = w.apart.connection := congrArg World.connection h
  have hf : w'.apart.host.files = w.apart.host.files := congrArg (fun v => v.host.files) h
  exact World.stored_congr hc hf

/-- Worlds in which the same is settled have the same texts stored. -/
theorem World.stored_of_settled {w w' : World} (h : w'.settled = w.settled) :
    w'.stored = w.stored :=
  World.stored_of_apart (congrArg (fun v => { v with catalog := .empty }) h)

namespace Service

open Settings (Holds stringsIn unlockedKey knownKey)

/-! ### Lists of names -/

/-- The texts once a list of names has been stored that differs from what was there. -/
def putChanged (t : Table String String) (key : String) (before after : List String) :
    Table String String :=
  if after = before then t else t.put key (Json.ofStrings after).write

/-- Where texts are stored, a list of names can be stored. -/
theorem perform_storeChanged {t : Table String String} {w : World} (h : Holds t w) (key : String)
    (before after : List String) :
    ∃ w', (storeChanged key before after).perform w = (.ok (), w') ∧
      Holds (putChanged t key before after) w' := by
  unfold storeChanged putChanged
  by_cases heq : after = before
  · have hsame : ¬ (after != before) = true := by simp [heq]
    rw [if_pos heq, if_neg hsame]
    exact ⟨w, rfl, h⟩
  · have hnew : (after != before) = true := by simp [heq]
    rw [if_neg heq, if_pos hnew]
    exact Settings.perform_setText h key _

/-- The names that were stored are read back, whether they had changed or not. -/
theorem stringsIn_putChanged {t : Table String String} {key : String} {before : List String}
    (h : stringsIn t key = .ok before) (after : List String) :
    stringsIn (putChanged t key before after) key = .ok after := by
  unfold putChanged
  split
  · rename_i heq
    rw [h, heq]
  · exact Settings.stringsIn_put t key after

/-- Names stored under a key are nothing to another key. -/
theorem stringsIn_putChanged_other {key other : String} (h : key ≠ other)
    (t : Table String String) (before after : List String) :
    stringsIn (putChanged t key before after) other = stringsIn t other := by
  unfold putChanged
  split
  · rfl
  · exact Settings.stringsIn_put_other t h _

/-! ### How an attempt ends -/

/-- Disarming a task that is left never fails, and stores nothing. -/
theorem perform_leave (key : TaskKey) (next : String) (answer : String × String) (w : World) :
    ∃ w', (do
        if next != key.2 then
          let _ ← Tracker.disarmTask key
        return answer : Act (String × String)).perform w = (.ok answer, w') ∧
      w'.stored = w.stored := by
  cases hnext : next != key.2 with
  | false => exact ⟨w, rfl, rfl⟩
  | true =>
    obtain ⟨j, hdisarm⟩ := Tracker.perform_disarmTask key w
    rw [if_pos rfl, Act.perform_bind_ok hdisarm]
    exact ⟨_, rfl, World.stored_congr rfl rfl⟩

/-- Applying the effect of a result fails and leaves all that is settled as it was, or it stores the
lists that the effect leads to. -/
theorem conclude_cases (key : TaskKey) (t : Task) (result : Progress) (w : World) :
    (∃ e w', (conclude key t result).perform w = (.error e, w') ∧ w'.settled = w.settled) ∨
    ∃ texts unlocked known outcome w₁ w',
      Holds texts w ∧ stringsIn texts unlockedKey = .ok unlocked ∧
      stringsIn texts knownKey = .ok known ∧
      (resolveEffect key result.text t.effects result.auxiliaries unlocked known).perform w
        = (.ok outcome, w₁) ∧
      (conclude key t result).perform w
        = (.ok ((Json.arr outcome.responses).write, outcome.moveTo), w') ∧
      Holds (putChanged (putChanged texts unlockedKey unlocked outcome.unlocked)
        knownKey known outcome.known) w' := by
  -- in the order in which they happen: the lists are read, the effect is resolved, lists are stored
  cases hs : w.stored with
  | error e =>
    have hread : (Settings.getStrings unlockedKey).perform w = (.error e, w) := by
      rw [Settings.perform_getStrings, hs]
      rfl
    refine .inl ⟨e, w, ?_, rfl⟩
    unfold conclude
    rw [Act.perform_bind_error hread]
  | ok texts =>
    have hread : ∀ k, (Settings.getStrings k).perform w = (stringsIn texts k, w) := fun k => by
      rw [Settings.perform_getStrings, hs]
      rfl
    cases hu : stringsIn texts unlockedKey with
    | error e =>
      refine .inl ⟨e, w, ?_, rfl⟩
      unfold conclude
      rw [Act.perform_bind_error ((hread _).trans (by rw [hu]))]
    | ok unlocked =>
      have hunlocked := (hread unlockedKey).trans (by rw [hu])
      cases hk : stringsIn texts knownKey with
      | error e =>
        refine .inl ⟨e, w, ?_, rfl⟩
        unfold conclude
        rw [Act.perform_bind_ok hunlocked, Act.perform_bind_error ((hread _).trans (by rw [hk]))]
      | ok known =>
        have hknown := (hread knownKey).trans (by rw [hk])
        cases hr : (resolveEffect key result.text t.effects result.auxiliaries unlocked
            known).perform w with
        | mk r w₁ =>
          -- side effects touch nothing that is settled, also when they fail
          have hkeeps := (keeps_resolveEffect _ _ _ _ _ _).of_perform hr
          cases r with
          | error e =>
            refine .inl ⟨e, w₁, ?_, hkeeps⟩
            unfold conclude
            rw [Act.perform_bind_ok hunlocked, Act.perform_bind_ok hknown,
              Act.perform_bind_error hr]
          | ok outcome =>
            -- from here on nothing fails: there are texts to store to, and disarming always ends
            have hw₁ : Holds texts w₁ := (World.stored_of_settled hkeeps).trans hs
            obtain ⟨w₂, hstore, hw₂⟩ := perform_storeChanged hw₁ unlockedKey unlocked
              outcome.unlocked
            obtain ⟨w₃, hstore', hw₃⟩ := perform_storeChanged hw₂ knownKey known outcome.known
            obtain ⟨w', hlast, hw'⟩ := perform_leave key outcome.moveTo
              ((Json.arr outcome.responses).write, outcome.moveTo) w₃
            refine .inr ⟨texts, unlocked, known, outcome, w₁, w', hs, hu, hk, hr, ?_,
              hw'.trans hw₃⟩
            unfold conclude
            rw [Act.perform_bind_ok hunlocked, Act.perform_bind_ok hknown, Act.perform_bind_ok hr,
              Act.perform_bind_ok hstore, Act.perform_bind_ok hstore']
            exact hlast

/-- The effect that an attempt comes to, if there is one for its result. -/
def effectOf (key : TaskKey) (input : String) : Act (Option Effect) := do
  let t ← Catalog.task key
  let result ← evaluate key t input
  return t.effects.get? result.text

/-- The effect that an attempt comes to is one of the task in the catalog. -/
theorem effectOf_ok {key : TaskKey} {input : String} {w : World} {e : Effect}
    (h : ((effectOf key input).perform w).1 = .ok (some e)) :
    ∃ t code, w.catalog.task? key.1 key.2 = some t ∧ t.effects.get? code = some e := by
  cases ht : w.catalog.task? key.1 key.2 with
  | none =>
    obtain ⟨j, htask⟩ := Catalog.perform_task_missing ht
    unfold effectOf at h
    rw [Act.perform_bind_error htask] at h
    cases h
  | some t =>
    obtain ⟨j, htask⟩ := Catalog.perform_task_found ht
    unfold effectOf at h
    rw [Act.perform_bind_ok htask, Act.perform_bind] at h
    split at h
    · rename_i result w' hresult
      exact ⟨t, result.text, rfl, Except.ok.inj h⟩
    · cases h

/-- Running an input through the steps of a task changes nothing that is settled. -/
theorem keeps_evaluate (key : TaskKey) (t : Task) (input : String) :
    Act.Keeps World.settled (evaluate key t input) := by
  unfold evaluate
  exact (keeps_compilePipeline key t.mapper).bind fun steps => keeps_runPipeline key steps input

/-- An attempt fails and leaves all that is settled as it was, or it comes to an effect, has stored
what the effect adds to the lists, and leads to the next task of the effect. -/
theorem attempt_cases (key : TaskKey) (input : String) (w : World) :
    (∃ e w', (attempt key input).perform w = (.error e, w') ∧ w'.settled = w.settled) ∨
    ∃ effect responses texts unlocked known texts' w',
      ((effectOf key input).perform w).1 = .ok (some effect) ∧
      (attempt key input).perform w = (.ok (responses, effect.next key.2), w') ∧
      Holds texts w ∧ stringsIn texts unlockedKey = .ok unlocked ∧
      stringsIn texts knownKey = .ok known ∧
      Holds texts' w' ∧
      stringsIn texts' unlockedKey = .ok (unlocked ++ effect.unlocks).eraseDups ∧
      stringsIn texts' knownKey = .ok (known ++ effect.completes key.1).eraseDups := by
  cases ht : (Catalog.task key).perform w with
  | mk r w₁ =>
    have htask := (Catalog.keeps_task key).of_perform ht
    cases r with
    | error e =>
      -- the task cannot be looked up
      refine .inl ⟨e, w₁, ?_, htask⟩
      unfold attempt
      rw [Act.perform_bind_error ht]
    | ok t =>
      cases he : (evaluate key t input).perform w₁ with
      | mk r w₂ =>
        have hw₂ : w₂.settled = w.settled :=
          ((keeps_evaluate key t input).of_perform he).trans htask
        cases r with
        | error e =>
          -- the steps cannot be read, or one of them fails
          refine .inl ⟨e, w₂, ?_, hw₂⟩
          unfold attempt
          rw [Act.perform_bind_ok ht, Act.perform_bind_error he]
        | ok result =>
          have hattempt : (attempt key input).perform w = (conclude key t result).perform w₂ := by
            unfold attempt
            rw [Act.perform_bind_ok ht, Act.perform_bind_ok he]
          rw [hattempt]
          rcases conclude_cases key t result w₂ with ⟨e, w₃, hc, hw₃⟩ |
            ⟨texts, unlocked, known, outcome, w₃, w', htexts, hu, hk, hr, hc, htexts'⟩
          · -- the effect cannot be resolved
            exact .inl ⟨e, w₃, hc, hw₃.trans hw₂⟩
          · -- both lists are stored, neither of them under the key of the other
            obtain ⟨effect, heffect, hunlocked, hcompleted, hnext⟩ := resolveEffect_ok hr
            have hof : ((effectOf key input).perform w).1 = .ok (some effect) := by
              unfold effectOf
              rw [Act.perform_bind_ok ht, Act.perform_bind_ok he, heffect]
              rfl
            have hkeys : knownKey ≠ unlockedKey := by decide
            refine .inr ⟨effect, _, texts, unlocked, known, _, w', hof, by rw [hc, hnext],
              (World.stored_of_settled hw₂).symm.trans htexts, hu, hk, htexts', ?_, ?_⟩
            · rw [stringsIn_putChanged_other hkeys, stringsIn_putChanged hu, hunlocked]
            · rw [← hcompleted]
              exact stringsIn_putChanged
                ((stringsIn_putChanged_other hkeys.symm _ _ _).trans hk) outcome.known

/-! ### The main result -/

/-- After an attempt that fails, whatever it fails for, the lessons with their warnings and their
source, the tracker, the connection, the files and every text that is stored are as they were. -/
theorem unchanged_of_attempt_error {key : TaskKey} {input : String} {w w' : World} {e : Failure}
    (h : (attempt key input).perform w = (.error e, w')) :
    w'.catalog = w.catalog ∧ w'.tracker = w.tracker ∧ w'.connection = w.connection ∧
      w'.host.files = w.host.files ∧
      ∀ k, ((Settings.getText k).perform w').1 = ((Settings.getText k).perform w).1 := by
  have hsettled : w'.settled = w.settled := by
    rcases attempt_cases key input w with ⟨e', v, hv, hsame⟩ |
      ⟨_, _, _, _, _, _, _, -, hv, -⟩
    · rw [hv, Prod.mk.injEq] at h
      rw [← h.2]
      exact hsame
    · rw [hv, Prod.mk.injEq] at h
      cases h.1
  have hcatalog : w'.settled.catalog = w.settled.catalog := congrArg World.catalog hsettled
  have htracker : w'.settled.tracker = w.settled.tracker := congrArg World.tracker hsettled
  have hconnection : w'.settled.connection = w.settled.connection :=
    congrArg World.connection hsettled
  have hfiles : w'.settled.host.files = w.settled.host.files :=
    congrArg (fun v => v.host.files) hsettled
  refine ⟨hcatalog, htracker, hconnection, hfiles, fun k => ?_⟩
  rw [Settings.perform_getText, Settings.perform_getText, World.stored_of_settled hsettled]

/-- A lesson has been unlocked, and the program that is run next breaks down: nothing was stored. -/
theorem unchanged_of_attempt_error_unlocking :
    let key : TaskKey := ("l", "t")
    let effect : Effect :=
      { reply := .str "Well done"
        sideEffects :=
          [.obj [("type", .str "unlock"), ("value", .arr [.str "m"])],
            .obj [("type", .str "shell"), ("value", .str "ls")]]
        completesLesson := true
        moveTo := none }
    let t : Task :=
      { id := "t", prompt := "Try", input := ⟨"text", []⟩, mapper := [.str "input"]
        effects := [("go", effect)] }
    let lesson : Lesson := ⟨"l", "A lesson", "t", ["console"], [("t", t)]⟩
    let host : Host := { Host.bare with runner := fun _ _ => .failed .broken "gone" }
    let w : World := { World.fresh host ⟨[lesson], [], none⟩ with
      connection := .memory ⟨1, some [("unlocked-lessons", "[\"a\"]")]⟩ }
    ∃ w', (attempt key "go").perform w = (.error (.runner .broken "gone"), w') ∧
      w'.catalog = w.catalog ∧ w'.tracker = w.tracker ∧ w'.connection = w.connection ∧
      w'.host.files = w.host.files ∧
      ∀ k, ((Settings.getText k).perform w').1 = ((Settings.getText k).perform w).1 := by
  intro key effect t lesson host w
  have hfails : ((attempt key "go").perform w).1 = .error (.runner .broken "gone") := rfl
  have h : (attempt key "go").perform w
      = (.error (.runner .broken "gone"), ((attempt key "go").perform w).2) := Prod.ext hfails rfl
  exact ⟨_, h, unchanged_of_attempt_error h⟩

end Service

end Tutor
