import Tutor.Proofs.Course.Loading
import Tutor.Proofs.Events.Waiting
import Tutor.Proofs.Service.Frames

namespace Tutor

/-!
# Operations that raise no faults

A fault is a failure that lies in lesson content or in a request. Only describing and attempting a
task can end with one. All else may fail for what it runs into, but what is wrong with lessons has
become a warning when they are read, and outputs that clash are logged when an event comes in.

* `Act.Faultless` — the operation never ends with a fault; `Act.Faultless.bind` carries it through
  a sequence of operations;
* `Settings.faultless_openPath`, `Settings.faultless_getStrings` — settings raise no faults;
* `Catalog.faultless_load`, `Catalog.faultless_reload` — reading lessons raises none;
* `Service.faultless_notify`, `Service.faultless_unlockedLessons`,
  `Service.faultless_knownLessons` — nor do events and lists of lessons.
-/

namespace Act

variable {α β : Type}

/-- Whatever the operation fails for, it is no fault. -/
def Faultless (a : Act α) : Prop :=
  ∀ w f, (a.perform w).1 ≠ .error (.fault f)

namespace Faultless

/-- An operation that always succeeds raises no faults. -/
theorem of_ok {a : Act α} (h : ∀ w, ∃ x w', a.perform w = (.ok x, w')) : Faultless a := by
  intro w f hf
  obtain ⟨x, w', hx⟩ := h w
  rw [hx] at hf
  cases hf

theorem pure (x : α) : Faultless (Pure.pure x : Act α) := fun _ _ => nofun

theorem get : Faultless (MonadState.get : Act World) := fun _ _ => nofun

theorem modify (f : World → World) : Faultless (modify f : Act PUnit) := fun _ _ => nofun

/-- A failure that is no fault. -/
theorem throw {e : Failure} (h : ∀ f, e ≠ .fault f) :
    Faultless (MonadExcept.throw e : Act α) := by
  intro w f hf
  exact h f (Except.error.inj hf)

theorem ofExcept {r : Except Failure α} (h : ∀ f, r ≠ .error (.fault f)) :
    Faultless (Act.ofExcept r) := by
  intro w f
  rw [perform_ofExcept]
  exact h f

/-- A sequence raises no faults if none of its parts does. -/
theorem bind {a : Act α} {f : α → Act β} (ha : Faultless a) (hf : ∀ x, Faultless (f x)) :
    Faultless (a >>= f) := by
  intro w g
  rw [perform_bind]
  have h := ha w g
  cases hr : a.perform w with
  | mk r w' =>
    rw [hr] at h
    cases r with
    | error e => exact fun hg => h (congrArg Except.error (Except.error.inj hg))
    | ok x => exact hf x w' g

/-- A choice raises no faults if neither of its sides does. -/
theorem ite {c : Prop} [Decidable c] {a b : Act α} (ha : Faultless a) (hb : Faultless b) :
    Faultless (if c then a else b) := by
  split
  · exact ha
  · exact hb

end Faultless

end Act

open Act (Faultless)

/-- Text that is no JSON is no fault. -/
theorem readJson_ne_fault (text : String) (f : Fault) : readJson text ≠ .error (.fault f) := by
  intro h
  unfold readJson at h
  cases hr : Json.read text with
  | ok j => rw [hr] at h; cases h
  | error e =>
    rw [hr] at h
    cases e <;> cases h

/-! ### Settings -/

namespace Settings

/-- A database that cannot be read is no fault. -/
theorem databaseOn_ne_fault (files : Files) (s : Spot) (f : Fault) :
    databaseOn files s ≠ .error (.fault f) := by
  intro h
  unfold databaseOn at h
  split at h
  · cases h
  · split at h
    · rename_i node _
      cases node with
      | directory => cases h
      | database d => cases h
      | file bytes => cases bytes <;> cases h
    · cases h

theorem databaseAt_ne_fault (files : Files) (p : Path) (f : Fault) :
    databaseAt files p ≠ .error (.fault f) := by
  unfold databaseAt
  split
  · exact databaseOn_ne_fault files _ f
  · nofun
  · nofun

theorem faultless_table : Faultless table := by
  have hcurrent : Faultless current := by
    unfold current
    refine Faultless.get.bind fun w => ?_
    split
    · exact .throw nofun
    · exact .pure _
    · exact .ofExcept (databaseAt_ne_fault _ _)
  unfold table
  refine hcurrent.bind fun d => ?_
  split
  · exact .pure _
  · exact .throw nofun

/-- Stored strings that cannot be read are no fault. -/
theorem faultless_getStrings (key : String) : Faultless (getStrings key) := by
  unfold getStrings getValue getText
  have htext := faultless_table.bind fun t => Faultless.pure (t.get? key)
  refine (htext.bind fun text => ?_).bind fun _ => .pure _
  split
  · exact .ofExcept (readJson_ne_fault _)
  · exact .pure _

end Settings

/-! ### Lessons -/

namespace Catalog

/-- A fault in a file of lessons has become a warning. -/
theorem lessonsInFile_ne_fault (files : Files) (p : Path) (f : Fault) :
    lessonsInFile files p ≠ .error (.fault f) := by
  intro h
  unfold lessonsInFile at h
  split at h
  · cases h
  · split at h
    · cases h
    · rename_i e _ htolerated
      obtain rfl : e = .fault f := Except.error.inj h
      exact htolerated rfl

theorem faultless_warn (warnings : List String) : Faultless (warn warnings) :=
  .of_ok fun w =>
    let ⟨_, h⟩ := perform_warn warnings w
    ⟨_, _, h⟩

/-- Reading lessons again raises no faults. -/
theorem faultless_reload : Faultless reload := by
  unfold reload
  refine Faultless.get.bind fun w => ?_
  split
  · exact .pure _
  · refine (Faultless.ofExcept (lessonsInFile_ne_fault _ _)).bind fun r => ?_
    split
    · refine (faultless_warn _).bind fun _ => ?_
      exact (Faultless.modify _).bind fun _ => .pure _
    · refine (Faultless.modify _).bind fun _ => ?_
      exact (Faultless.modify _).bind fun _ => .pure _

/-- A lesson that is not there is no fault. -/
theorem faultless_lookup (name : String) : Faultless (lookup name) :=
  .of_ok fun w =>
    let ⟨_, h⟩ := perform_lookup name w
    ⟨_, _, h⟩

end Catalog

/-! ### The service -/

namespace Service

/-- Passing an event on raises no faults, as long as the boundary only returns. -/
theorem faultless_notify {b : Boundary} (hb : b.Quiet) (event : String) :
    Faultless (notify b event) := by
  unfold notify
  refine Faultless.bind (.of_ok fun w => ?_) fun _ => .pure _
  obtain ⟨signalled, w', h, -⟩ := Tracker.perform_notify_quiet hb event w
  exact ⟨signalled, w', h⟩

theorem faultless_summaries (names : List String) (client : String) :
    Faultless (summaries names client) := by
  have hall : Faultless (lookupAll names) := by
    induction names with
    | nil => exact .pure _
    | cons name rest ih =>
      rw [lookupAll]
      exact (Catalog.faultless_lookup name).bind fun _ => ih.bind fun _ => .pure _
  unfold summaries
  exact hall.bind fun _ => .pure _

theorem faultless_unlockedLessons (client : String) : Faultless (unlockedLessons client) := by
  unfold unlockedLessons
  exact (Settings.faultless_getStrings _).bind fun _ => faultless_summaries _ _

theorem faultless_knownLessons (client : String) : Faultless (knownLessons client) := by
  unfold knownLessons
  exact (Settings.faultless_getStrings _).bind fun _ => faultless_summaries _ _

end Service

end Tutor
