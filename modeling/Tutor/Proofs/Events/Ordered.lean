import Tutor.Proofs.Events.History

namespace Tutor

/-!
# Outputs in order

Where what outputs subsume puts all of them in order, and one of them waits for nothing, there is
always exactly one that wins: the greatest of the satisfied ones.

* `Pending.Ordered` — what the outputs subsume is a strict total order of them;
* `Pending.Ordered.exists_greatest` — some outputs, one at least, have a greatest one among them;
* `Pending.Ordered.existsUnique_winsBy` — whatever events have fired, exactly one output wins;
* `Tracker.resolve_of_ordered` — a task with such outputs can be resolved at any time.
-/

namespace Pending

/-- Whether an output subsumes another one can be computed. -/
instance (p : Pending) (name other : String) : Decidable (p.Subsumes name other) :=
  decidable_of_iff _ (p.subsumesIn_subsumption name other)

/-- What the outputs subsume is a strict total order of them. It does not matter whether an output
lists itself, or names that are not outputs. -/
structure Ordered (p : Pending) : Prop where
  /-- Of two outputs exactly one subsumes the other. -/
  total : ∀ name ∈ p.outputs.keys, ∀ other ∈ p.outputs.keys, name ≠ other →
    (p.Subsumes name other ↔ ¬ p.Subsumes other name)
  /-- An output subsumes what is subsumed by an output that it subsumes. -/
  trans : ∀ first ∈ p.outputs.keys, ∀ second ∈ p.outputs.keys, ∀ third ∈ p.outputs.keys,
    first ≠ second → second ≠ third → first ≠ third →
    p.Subsumes first second → p.Subsumes second third → p.Subsumes first third

/-- An output waits for nothing. -/
def HasIdle (p : Pending) : Prop :=
  ∃ name o, p.outputs.get? name = some o ∧ o.events = []

namespace Ordered

variable {p : Pending}

/-- Some outputs in order, one at least, have a greatest one among them. -/
theorem exists_greatest (h : p.Ordered) {names : List String}
    (hnames : ∀ name ∈ names, name ∈ p.outputs.keys) (hne : names ≠ []) :
    ∃ top ∈ names, ∀ other ∈ names, other ≠ top → p.Subsumes top other := by
  induction names with
  | nil => exact absurd rfl hne
  | cons name rest ih =>
    have hname : name ∈ p.outputs.keys := hnames name List.mem_cons_self
    have hrest : ∀ other ∈ rest, other ∈ p.outputs.keys := fun other hother =>
      hnames other (List.mem_cons_of_mem _ hother)
    by_cases hempty : rest = []
    · subst hempty
      refine ⟨name, List.mem_cons_self, fun other hother hother' => ?_⟩
      exact absurd (List.mem_singleton.mp hother) hother'
    · -- compare the first output with the greatest one of the others
      obtain ⟨top, htop, hgreatest⟩ := ih hrest hempty
      by_cases hsub : name ≠ top ∧ p.Subsumes name top
      · refine ⟨name, List.mem_cons_self, fun other hother hother' => ?_⟩
        have hmem : other ∈ rest := (List.mem_cons.mp hother).resolve_left hother'
        by_cases hsame : other = top
        · exact hsame ▸ hsub.2
        · exact h.trans name hname top (hrest top htop) other (hrest other hmem) hsub.1
            (fun e => hsame e.symm) (fun e => hother' e.symm) hsub.2 (hgreatest other hmem hsame)
      · refine ⟨top, List.mem_cons_of_mem _ htop, fun other hother hother' => ?_⟩
        rcases List.mem_cons.mp hother with rfl | hmem
        · by_contra hnot
          refine hsub ⟨hother', ?_⟩
          exact (h.total other hname top (hrest top htop) hother').mpr hnot
        · exact hgreatest other hmem hother'

/-- An output that is satisfied is one of the outputs. -/
theorem mem_keys_of_satisfiedBy {events : List String} {name : String}
    (h : p.SatisfiedBy events name) : name ∈ p.outputs.keys := by
  obtain ⟨o, ho, -⟩ := h
  rw [← Table.isSome_get?, ho]
  rfl

/-- Whatever events have fired, the greatest of the satisfied outputs wins, and no other does. -/
theorem existsUnique_winsBy (h : p.Ordered) (hidle : p.HasIdle) (events : List String) :
    ∃ name, p.WinsBy events name ∧ ∀ other, p.WinsBy events other → other = name := by
  have hmem : ∀ name, name ∈ (p.withFired events).satisfied ↔ p.SatisfiedBy events name :=
    fun name => by rw [mem_satisfied, satisfied_withFired]
  have hne : (p.withFired events).satisfied ≠ [] := by
    obtain ⟨idle, o, ho, hevents⟩ := hidle
    refine List.ne_nil_of_mem ((hmem idle).mpr ⟨o, ho, fun e he => ?_⟩)
    rw [hevents] at he
    exact absurd he List.not_mem_nil
  obtain ⟨top, htop, hgreatest⟩ := h.exists_greatest
    (fun name hname => mem_keys_of_satisfiedBy ((hmem name).mp hname)) hne
  have htop' : p.SatisfiedBy events top := (hmem top).mp htop
  refine ⟨top, ⟨htop', fun other hother => hgreatest other ((hmem other).mpr hother)⟩, ?_⟩
  intro other hother
  by_contra hdiffer
  -- two outputs that win subsume each other
  have hdown : p.Subsumes top other := hgreatest other ((hmem other).mpr hother.1) hdiffer
  have hup : p.Subsumes other top := hother.2 top htop' fun e => hdiffer e.symm
  exact (h.total other (mem_keys_of_satisfiedBy hother.1) top (mem_keys_of_satisfiedBy htop')
    hdiffer).mp hup hdown

end Ordered

end Pending

namespace Tracker

variable {b : Boundary} {requests later : List Request} {key : TaskKey} {p : Pending}

/-- After a task was armed with outputs that are in order, one of which waits for nothing, and
whatever was requested since, events of all kinds among it, short of arming or disarming the task
again: the task can be resolved. The result is the one output that is satisfied by the events
notified since and subsumes every other one that is; none of these subsumes it. -/
theorem resolve_of_ordered (hb : b.Quiet) (h : ArmedWith requests key p later) (hidle : p.HasIdle)
    (hordered : p.Ordered) (w : World) :
    ∃ name o, (resolveTask key).perform (run b requests w) = (.ok (name, o), run b requests w) ∧
      (p.withFired (recorded later)).outputs.get? name = some o ∧
      p.SatisfiedBy (recorded later) name ∧
      (∀ other, p.SatisfiedBy (recorded later) other → other ≠ name →
        p.Subsumes name other ∧ ¬ p.Subsumes other name) ∧
      ∀ event, event ∈ recorded later ↔ .notify event ∈ later := by
  obtain ⟨name, hwins, honly⟩ := hordered.existsUnique_winsBy hidle (recorded later)
  have hwins' := (p.wins_withFired (recorded later) name).mpr hwins
  obtain ⟨o, ho, hwinner⟩ := Pending.winner_of_unique key.1 key.2 hwins' fun other hother =>
    honly other ((p.wins_withFired (recorded later) other).mp hother)
  refine ⟨name, o, ?_, ho, hwins.1, fun other hother hdiffer => ?_, mem_recorded later⟩
  · rw [perform_resolveTask, resolve, state?_run_recorded hb w h]
    simp only [hwinner]
    rfl
  · have hsub : p.Subsumes name other := hwins.2 other hother hdiffer
    refine ⟨hsub, fun hback => ?_⟩
    exact (hordered.total other (Pending.Ordered.mem_keys_of_satisfiedBy hother) name
      (Pending.Ordered.mem_keys_of_satisfiedBy hwins.1) hdiffer).mp hback hsub

/-- Three outputs are in order; one lists itself, and one lists a name that is no output. After one
of two events the middle one wins. -/
theorem resolve_of_ordered_middle :
    let key : TaskKey := ("l", "t")
    let outputs := Json.obj
      [("none", .obj [("subsumes", .arr [.str "none"])]),
        ("some", .obj [("events", .arr [.str "e"]),
          ("subsumes", .arr [.str "none", .str "others"])]),
        ("all", .obj [("events", .arr [.str "e", .str "f"]),
          ("subsumes", .arr [.str "some", .str "none"])])]
    let p : Pending :=
      ⟨[("none", ⟨[], ["none"], false⟩), ("some", ⟨[("e", false)], ["none", "others"], false⟩),
        ("all", ⟨[("e", false), ("f", false)], ["some", "none"], false⟩)], by decide⟩
    let later : List Request := [.notify "e", .notify "x"]
    let w := World.fresh Host.bare .empty
    ArmedWith (.arm key outputs :: later) key p later ∧ p.HasIdle ∧ p.Ordered ∧
      ∃ o, ((resolveTask key).perform (run Boundary.logging (.arm key outputs :: later) w)).1
        = .ok ("some", o) := by
  intro key outputs p later w
  have harmed : ArmedWith (.arm key outputs :: later) key p later :=
    ⟨[], outputs, rfl, rfl, by simp [later], fun raw hraw => by simp [later] at hraw⟩
  have hidle : p.HasIdle := ⟨"none", ⟨[], ["none"], false⟩, rfl, rfl⟩
  have hordered : p.Ordered := ⟨by decide, by decide⟩
  obtain ⟨name, o, hresolve, ho, hsatisfied, hgreatest, -⟩ :=
    resolve_of_ordered Boundary.quiet_logging harmed hidle hordered w
  have hname : name ∈ p.outputs.keys := Pending.Ordered.mem_keys_of_satisfiedBy hsatisfied
  have hevent : p.SatisfiedBy (recorded later) "some" := ⟨_, rfl, by decide⟩
  refine ⟨harmed, hidle, hordered, o, ?_⟩
  have hsome : name = "some" := by
    by_contra hdiffer
    have hsub := (hgreatest "some" hevent fun e => hdiffer e.symm).1
    -- only the last output subsumes this one, and it is not satisfied
    have hlast : name = "all" := by
      have hall : ∀ n ∈ p.outputs.keys, p.Subsumes n "some" → n = "all" := by decide
      exact hall name hname hsub
    subst hlast
    obtain ⟨o', ho', hfired⟩ := hsatisfied
    cases ho'
    exact absurd (hfired "f" (by decide)) (by decide)
  rw [hresolve, hsome]

end Tracker

end Tutor
