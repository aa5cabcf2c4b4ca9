import Mathlib.Data.List.Nodup
import Tutor.Events.Output

namespace Tutor

/-!
# Survivors

Of some satisfied outputs those survive that list all others among what they subsume. This is said
here of any names, with repetitions or not, and of any table of what they subsume.

* `Table.Lists` — a name lists another one, `Table.ListsAll` — it lists all others of some names;
* `survivors_eq_filter`, `mem_survivors_iff` — the survivors, in terms of these;
* `lists_of_survive`, `survivors_congr` — survivors list each other, and which names survive depends
  on the set of names alone;
* `length_survivors_le_one` — where no two names list each other, at most one survives.
-/

namespace Table

/-- One name lists another one. A name that is not in the table lists nothing. -/
def Lists (subsumes : Table String (List String)) (name other : String) : Prop :=
  ∃ listed, subsumes.get? name = some listed ∧ other ∈ listed

/-- A name lists all others of some names. -/
def ListsAll (subsumes : Table String (List String)) (names : List String) (name : String) : Prop :=
  ∀ other ∈ names, other ≠ name → subsumes.Lists name other

/-- No two of some names list each other. -/
def Apart (subsumes : Table String (List String)) (names : List String) : Prop :=
  ∀ name ∈ names, ∀ other ∈ names, name ≠ other →
    ¬ (subsumes.Lists name other ∧ subsumes.Lists other name)

end Table

variable {subsumes : Table String (List String)} {names names' : List String} {name other : String}

/-- What a name subsumes is what it lists. -/
theorem subsumesIn_iff : subsumesIn subsumes name other = true ↔ subsumes.Lists name other := by
  unfold subsumesIn Table.Lists
  cases subsumes.get? name with
  | none => simp
  | some listed => simp

instance (subsumes : Table String (List String)) (name other : String) :
    Decidable (subsumes.Lists name other) :=
  decidable_of_iff _ subsumesIn_iff

instance (subsumes : Table String (List String)) (names : List String) (name : String) :
    Decidable (subsumes.ListsAll names name) :=
  inferInstanceAs (Decidable (∀ other ∈ names, other ≠ name → subsumes.Lists name other))

instance (subsumes : Table String (List String)) (names : List String) :
    Decidable (subsumes.Apart names) :=
  inferInstanceAs (Decidable (∀ name ∈ names, ∀ other ∈ names, name ≠ other →
    ¬ (subsumes.Lists name other ∧ subsumes.Lists other name)))

/-- The survivors are the names that list all others, as they come. -/
theorem survivors_eq_filter (names : List String) (subsumes : Table String (List String)) :
    survivors names subsumes = names.filter fun name => subsumes.ListsAll names name := by
  refine List.filter_congr fun name _ => ?_
  rw [Bool.eq_iff_iff, List.all_eq_true, decide_eq_true_eq]
  refine forall₂_congr fun other _ => ?_
  rw [Bool.or_eq_true, beq_iff_eq, subsumesIn_iff, Decidable.or_iff_not_imp_left]

theorem mem_survivors_iff :
    name ∈ survivors names subsumes ↔ name ∈ names ∧ subsumes.ListsAll names name := by
  rw [survivors_eq_filter, List.mem_filter, decide_eq_true_eq]

/-- Two survivors list each other. -/
theorem lists_of_survive (h : name ∈ survivors names subsumes)
    (h' : other ∈ survivors names subsumes) (hne : name ≠ other) :
    subsumes.Lists name other ∧ subsumes.Lists other name := by
  obtain ⟨hname, hall⟩ := mem_survivors_iff.mp h
  obtain ⟨hother, hall'⟩ := mem_survivors_iff.mp h'
  exact ⟨hall other hother hne.symm, hall' name hname hne⟩

/-- Where no two names list each other, at most one survives. -/
theorem length_survivors_le_one (hnames : names.Nodup) (hapart : subsumes.Apart names) :
    (survivors names subsumes).length ≤ 1 := by
  have hnodup : (survivors names subsumes).Nodup := List.filter_sublist.nodup hnames
  match hs : survivors names subsumes with
  | [] => exact Nat.zero_le 1
  | [_] => exact Nat.le_refl 1
  | first :: second :: rest =>
    -- the first two would be different names that list each other
    rw [hs] at hnodup
    have hne : first ≠ second := fun e => (List.nodup_cons.mp hnodup).1 (e ▸ List.mem_cons_self)
    have hfirst : first ∈ survivors names subsumes := hs ▸ List.mem_cons_self
    have hsecond : second ∈ survivors names subsumes :=
      hs ▸ List.mem_cons_of_mem _ List.mem_cons_self
    exact absurd (lists_of_survive hfirst hsecond hne) (hapart first
      (mem_survivors_iff.mp hfirst).1 second (mem_survivors_iff.mp hsecond).1 hne)

/-- Which names survive depends on the set of names alone. -/
theorem survivors_congr (h : ∀ name, name ∈ names ↔ name ∈ names') (name : String) :
    name ∈ survivors names subsumes ↔ name ∈ survivors names' subsumes := by
  simp only [mem_survivors_iff, Table.ListsAll, h]

end Tutor
