import Tutor.Effects.Outcome
import Tutor.Proofs.Acts
import Tutor.Proofs.Unions

namespace Tutor

/-!
# What effects add

* `Effect.unlocks` — the names that the side effects of an effect unlock, in order;
* `Effect.completes` — the lesson that it completes, if it completes one;
* `resolveEffect_ok` — an effect that is applied adds these to the lists and leads to its next task.
-/

/-- The names in a list; a value that is no list has none. -/
def namesIn : Json → List Json
  | .arr names => names
  | _ => []

/-- The names that a side effect unlocks, as strings. -/
def unlocksOf (sideEffect : Json) : List String :=
  if (sideEffectKind sideEffect).isStr "unlock" then
    (namesIn (sideEffect.getD "value" .null)).map Json.text
  else []

/-- The names that an effect unlocks, in order. -/
def Effect.unlocks (e : Effect) : List String :=
  e.sideEffects.flatMap unlocksOf

/-- The lesson, if the effect completes it. -/
def Effect.completes (e : Effect) (lesson : String) : List String :=
  if e.completesLesson then [lesson] else []

/-- An effect leads from a task to none only by completing the lesson, or to the empty goal. -/
theorem Effect.completes_of_next {e : Effect} {task lesson : String} (h : e.next task = "")
    (htask : task ≠ "") (hgoal : e.moveTo ≠ some "") : e.completes lesson = [lesson] := by
  unfold Effect.next at h
  cases hmove : e.moveTo with
  | some goal =>
    rw [hmove] at h
    exact absurd (congrArg some h) (hmove ▸ hgoal)
  | none =>
    rw [hmove] at h
    by_cases hc : e.completesLesson = true
    · exact if_pos hc
    · exact absurd ((if_neg hc).symm.trans h) htask

variable {key : TaskKey} {w w' : World}

/-- The names that are unlocked are those in the list that is given. -/
theorem unlockNames_ok {value : Json} {names : List Json} (h : unlockNames value = .ok names) :
    names = namesIn value := by
  cases value with
  | arr given => exact (Except.ok.inj h).symm
  | _ =>
    simp only [unlockNames] at h
    split at h
    · cases h
    · exact (Except.ok.inj h).symm

/-- A side effect that is applied adds the names that it unlocks. -/
theorem applySideEffect_ok {unlocked after : List String} {sideEffect : Json}
    (h : (applySideEffect key unlocked.eraseDups sideEffect).perform w = (.ok after, w')) :
    after = (unlocked ++ unlocksOf sideEffect).eraseDups := by
  unfold applySideEffect at h
  unfold unlocksOf
  by_cases hunlock : (sideEffectKind sideEffect).isStr "unlock" = true
  · rw [if_pos hunlock] at h ⊢
    obtain ⟨names, w₁, hnames, h⟩ := Act.of_perform_bind_ok h
    rw [Act.perform_bind_ok (Act.perform_log _ _ _ _)] at h
    cases h
    rw [Act.perform_ofFault] at hnames
    cases hn : unlockNames (sideEffect.getD "value" .null) with
    | error f => rw [hn] at hnames; cases hnames
    | ok given =>
      rw [hn] at hnames
      cases hnames
      rw [addUnique_eq_eraseDups, eraseDups_eraseDups_append, unlockNames_ok hn]
  · rw [if_neg hunlock] at h ⊢
    rw [List.append_nil]
    by_cases hshell : (sideEffectKind sideEffect).isStr "shell" = true
    · -- a command leaves the list as it is
      rw [if_pos hshell] at h
      split at h
      · obtain ⟨result, w₁, -, h⟩ := Act.of_perform_bind_ok h
        cases h
        rfl
      · cases h
    · rw [if_neg hshell] at h
      cases h

/-- Side effects that are applied add the names that they unlock, in order. -/
theorem applySideEffects_ok {sideEffects : List Json} {unlocked after : List String}
    (h : (applySideEffects key sideEffects unlocked.eraseDups).perform w = (.ok after, w')) :
    after = (unlocked ++ sideEffects.flatMap unlocksOf).eraseDups := by
  induction sideEffects generalizing unlocked w with
  | nil =>
    cases h
    rw [List.flatMap_nil, List.append_nil]
  | cons s rest ih =>
    rw [applySideEffects] at h
    obtain ⟨one, w₁, hone, h⟩ := Act.of_perform_bind_ok h
    rw [applySideEffect_ok hone] at h
    rw [ih h, List.flatMap_cons, List.append_assoc]

/-- An effect that is applied is one of those given; it adds what it unlocks and completes, and leads
to its next task. -/
theorem resolveEffect_ok {result : String} {effects : Table String Effect}
    {auxiliaries : List Json} {unlocked known : List String} {outcome : Outcome}
    (h : (resolveEffect key result effects auxiliaries unlocked known).perform w
      = (.ok outcome, w')) :
    ∃ e, effects.get? result = some e ∧
      outcome.unlocked = (unlocked ++ e.unlocks).eraseDups ∧
      outcome.known = (known ++ e.completes key.1).eraseDups ∧ outcome.moveTo = e.next key.2 := by
  unfold resolveEffect at h
  cases he : effects.get? result with
  | none => rw [he] at h; cases h
  | some e =>
    rw [he] at h
    -- responses and replies are nothing to the lists
    obtain ⟨responses, w₁, -, h⟩ := Act.of_perform_bind_ok h
    obtain ⟨reply, w₂, -, h⟩ := Act.of_perform_bind_ok h
    obtain ⟨after, w₃, hafter, h⟩ := Act.of_perform_bind_ok h
    have hunlocked : after = (unlocked ++ e.unlocks).eraseDups := by
      rw [addUnique_eq_eraseDups, List.append_nil] at hafter
      exact applySideEffects_ok hafter
    have hknown : addUnique known (e.completes key.1) = (known ++ e.completes key.1).eraseDups :=
      addUnique_eq_eraseDups known _
    by_cases hc : e.completesLesson = true
    · simp only [if_pos hc] at h
      rw [Act.perform_bind_ok (Act.perform_log _ _ _ _)] at h
      cases h
      exact ⟨e, rfl, hunlocked, by rw [← hknown, Effect.completes, if_pos hc], rfl⟩
    · simp only [if_neg hc] at h
      cases h
      exact ⟨e, rfl, hunlocked, by rw [← hknown, Effect.completes, if_neg hc], rfl⟩

end Tutor
