import Tutor.Proofs.Events.Trackers

namespace Tutor

/-!
# Outputs that are ambiguous

When some outputs are satisfied and not exactly one of them survives, the task cannot be resolved,
and a fault names outputs: the survivors, or all satisfied outputs if none survives. Only outputs
that subsume each other can survive together, so that without such outputs the fault names all
satisfied ones.

* `Pending.winner_eq_ambiguous_iff` — when the fault is raised, and what it tells;
* `Pending.winner_of_no_winner`, `Pending.names_of_ambiguous` — it names all satisfied outputs if
  none of them wins, and always so if no two of them subsume each other;
* `survivor_selection` — the survivors of any names, and what resolving a task reports.
-/

namespace Pending

variable {p : Pending} {lesson task lesson' task' : String} {names events : List String}

/-- The fault is raised if some outputs are satisfied but not exactly one survives. It names the
survivors, or all satisfied outputs if none survives. -/
theorem winner_eq_ambiguous_iff :
    p.winner lesson task = .error (.ambiguous lesson' task' names events) ↔
      (lesson' = lesson ∧ task' = task ∧ events = p.firedEvents) ∧ p.satisfied ≠ [] ∧
        (survivors p.satisfied p.subsumption).length ≠ 1 ∧
        names = if survivors p.satisfied p.subsumption = [] then p.satisfied
          else survivors p.satisfied p.subsumption := by
  have hfault : ∀ reported : List String,
      (Except.error (.ambiguous lesson task reported p.firedEvents) :
          Except Fault (String × Output)) = .error (.ambiguous lesson' task' names events) ↔
        (lesson' = lesson ∧ task' = task ∧ events = p.firedEvents) ∧ names = reported := by
    intro reported
    rw [Except.error.injEq, Fault.ambiguous.injEq]
    constructor
    · rintro ⟨rfl, rfl, rfl, rfl⟩
      exact ⟨⟨rfl, rfl, rfl⟩, rfl⟩
    · rintro ⟨⟨rfl, rfl, rfl⟩, rfl⟩
      exact ⟨rfl, rfl, rfl, rfl⟩
  unfold winner
  cases hsatisfied : p.satisfied with
  | nil =>
    -- without satisfied outputs there is another fault
    exact iff_of_false nofun fun h => h.2.1 rfl
  | cons first rest =>
    simp only [ne_eq, reduceCtorEq, not_false_eq_true, true_and]
    match hsurvive : survivors (first :: rest) p.subsumption with
    | [] =>
      simp only [hfault, List.length_nil, if_true, Nat.zero_ne_one, not_false_eq_true, true_and]
    | [name] =>
      -- one survivor is chosen, or there is another fault
      refine iff_of_false ?_ fun h => h.2.1 rfl
      cases hget : p.outputs.get? name with
      | none => simp only [hget, reduceCtorEq, not_false_eq_true, Except.error.injEq]
      | some o => simp only [hget, reduceCtorEq, not_false_eq_true]
    | name :: other :: more =>
      have hmany : ¬ (name :: other :: more).length = 1 := by simp
      simp only [hfault, hmany, not_false_eq_true, true_and, reduceCtorEq, if_false]

/-- Where some outputs are satisfied but none wins, the fault names all satisfied ones. -/
theorem winner_of_no_winner (hsatisfied : ∃ name, p.Satisfied name)
    (hnone : ∀ name, ¬ p.Wins name) :
    p.winner lesson task = .error (.ambiguous lesson task p.satisfied p.firedEvents) := by
  obtain ⟨name, hname⟩ := hsatisfied
  have hempty : survivors p.satisfied p.subsumption = [] :=
    List.eq_nil_iff_forall_not_mem.mpr fun other hother =>
      hnone other ((p.mem_survivors other).mp hother)
  refine winner_eq_ambiguous_iff.mpr ⟨⟨rfl, rfl, rfl⟩, ?_, ?_, ?_⟩
  · exact List.ne_nil_of_mem ((p.mem_satisfied name).mpr hname)
  · rw [hempty]
    exact Nat.zero_ne_one
  · rw [if_pos hempty]

/-- Where no two satisfied outputs subsume each other, the fault always names all satisfied ones. -/
theorem names_of_ambiguous (hapart : p.subsumption.Apart p.satisfied)
    (h : p.winner lesson task = .error (.ambiguous lesson' task' names events)) :
    names = p.satisfied := by
  obtain ⟨-, -, hone, hnames⟩ := winner_eq_ambiguous_iff.mp h
  -- at most one survives, and not exactly one does
  have hle := length_survivors_le_one p.nodup_satisfied hapart
  have hempty : survivors p.satisfied p.subsumption = [] := by
    rw [← List.length_eq_zero_iff]
    omega
  rw [hnames, if_pos hempty]

end Pending

namespace Tracker

variable {t : Tracker} {key : TaskKey} {p : Pending}

/-- An armed task is resolved by its outputs. -/
theorem resolve_armed (h : t.state? key = some p) : t.resolve key = p.winner key.1 key.2 := by
  simp only [resolve, h]

/-- Only an armed task has outputs that are ambiguous. -/
theorem armed_of_ambiguous {lesson task : String} {names events : List String}
    (h : t.resolve key = .error (.ambiguous lesson task names events)) :
    ∃ p, t.state? key = some p ∧
      p.winner key.1 key.2 = .error (.ambiguous lesson task names events) := by
  cases hp : t.state? key with
  | none =>
    simp only [resolve, hp, Except.error.injEq, reduceCtorEq] at h
  | some p => exact ⟨p, rfl, resolve_armed hp ▸ h⟩

end Tracker

/-! ### The main result -/

/-- **Survivors, and outputs that are ambiguous.** For any satisfied names and any table of what
they subsume, the survivors are the names that list all others, in their order. Two different
survivors list each other, so that at most one survives of different names no two of which list each
other; and which names survive depends on the set of the satisfied ones alone. If the outputs of a
task are ambiguous when it is resolved, the fault tells which of its events have fired; and where no
two satisfied outputs subsume each other, it names all satisfied ones. They are ambiguous as soon as
some are satisfied and none of them wins. -/
theorem survivor_selection :
    (∀ (names : List String) (subsumes : Table String (List String)),
      survivors names subsumes = names.filter (fun name => subsumes.ListsAll names name) ∧
      (∀ name ∈ survivors names subsumes, ∀ other ∈ survivors names subsumes, name ≠ other →
        subsumes.Lists name other ∧ subsumes.Lists other name) ∧
      (names.Nodup → subsumes.Apart names → (survivors names subsumes).length ≤ 1) ∧
      ∀ names' : List String, (∀ name, name ∈ names ↔ name ∈ names') →
        ∀ name, name ∈ survivors names subsumes ↔ name ∈ survivors names' subsumes) ∧
    ∀ (t : Tracker) (key : TaskKey),
      (∀ lesson task names events,
        t.resolve key = .error (.ambiguous lesson task names events) →
        ∃ p, t.state? key = some p ∧ lesson = key.1 ∧ task = key.2 ∧ events = p.firedEvents ∧
          (p.subsumption.Apart p.satisfied →
            names = p.satisfied ∧ ∀ name, name ∈ names ↔ p.Satisfied name)) ∧
      ∀ p, t.state? key = some p → (∃ name, p.Satisfied name) → (∀ name, ¬ p.Wins name) →
        t.resolve key = .error (.ambiguous key.1 key.2 p.satisfied p.firedEvents) := by
  refine ⟨fun names subsumes => ⟨survivors_eq_filter names subsumes,
    fun name h other h' => lists_of_survive h h', length_survivors_le_one,
    fun names' h => survivors_congr h⟩, fun t key => ⟨?reported, ?raised⟩⟩
  case reported =>
    intro lesson task names events h
    obtain ⟨p, hp, hwinner⟩ := Tracker.armed_of_ambiguous h
    obtain ⟨⟨hlesson, htask, hevents⟩, -⟩ := Pending.winner_eq_ambiguous_iff.mp hwinner
    refine ⟨p, hp, hlesson, htask, hevents, fun hapart => ?_⟩
    -- of several outputs that are apart none survives, so that all of them are named
    obtain rfl := Pending.names_of_ambiguous hapart hwinner
    exact ⟨rfl, p.mem_satisfied⟩
  case raised =>
    intro p hp hsatisfied hnone
    rw [Tracker.resolve_armed hp]
    exact Pending.winner_of_no_winner hsatisfied hnone

/-- Of three names, of which two list each other and the third one, these two survive; without the
second one the first alone does, in whatever way the names are listed. Where two of three satisfied
outputs subsume the third one, but not each other, all three are named. -/
theorem survivor_selection_between :
    let subsumes : Table String (List String) := [("A", ["B", "C"]), ("B", ["C", "A"]), ("C", [])]
    let outputs : Table String Output :=
      [("A", ⟨[], ["C"], true⟩), ("B", ⟨[("e", true)], ["C"], false⟩), ("C", ⟨[], [], false⟩)]
    let p : Pending := ⟨outputs, by decide⟩
    let t : Tracker := ⟨[(("l", "t"), p)], by decide⟩
    (survivors ["C", "B", "A"] subsumes = ["B", "A"] ∧ subsumes.Lists "A" "B") ∧
      ((["C", "A"] : List String).Nodup ∧ subsumes.Apart ["C", "A"] ∧
        survivors ["C", "A"] subsumes = ["A"] ∧ (survivors ["C", "A"] subsumes).length ≤ 1) ∧
      ((∀ name, name ∈ ["C", "A"] ↔ name ∈ ["A", "C", "A"]) ∧
        "A" ∈ survivors ["A", "C", "A"] subsumes) ∧
      p.subsumption.Apart p.satisfied ∧
      t.resolve ("l", "t") = .error (.ambiguous "l" "t" ["A", "B", "C"] ["e"]) ∧
      ∀ name, name ∈ ["A", "B", "C"] ↔ p.Satisfied name := by
  intro subsumes outputs p t
  obtain ⟨hlists, htrackers⟩ := survivor_selection
  have hboth : survivors ["C", "B", "A"] subsumes = ["B", "A"] := by decide
  have hone : survivors ["C", "A"] subsumes = ["A"] := by decide
  obtain ⟨-, hmutual, -, -⟩ := hlists ["C", "B", "A"] subsumes
  obtain ⟨-, -, hle, hset⟩ := hlists ["C", "A"] subsumes
  have hsame : ∀ name, name ∈ ["C", "A"] ↔ name ∈ ["A", "C", "A"] := by
    intro name
    simp only [List.mem_cons, List.not_mem_nil, or_false]
    tauto
  -- no output of the tracker wins, though all three are satisfied
  obtain ⟨hfaults, hraised⟩ := htrackers t ("l", "t")
  have hapart : p.subsumption.Apart p.satisfied := by decide
  have hnone : ∀ name, ¬ p.Wins name := by
    intro name
    rw [← p.mem_survivors]
    have hempty : survivors p.satisfied p.subsumption = [] := by decide
    rw [hempty]
    exact List.not_mem_nil
  have hresolve := hraised p rfl ⟨"A", _, rfl, rfl⟩ hnone
  obtain ⟨q, hq, -, -, -, hnames⟩ := hfaults "l" "t" _ _ hresolve
  obtain rfl : p = q := Option.some.inj hq
  refine ⟨⟨hboth, ?_⟩, ⟨by decide, by decide, hone, ?_⟩, ⟨hsame, ?_⟩, hapart, hresolve,
    (hnames hapart).2⟩
  · exact (hmutual "A" (by decide) "B" (by decide) (by decide)).1
  · exact hle (by decide) (by decide)
  · exact (hset _ hsame "A").mp (by decide)

end Tutor
