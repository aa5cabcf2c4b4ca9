import Tutor.Settings.Store

namespace Tutor.Settings

/-!
# Migrations

A database is brought to the schema of this program by as many rounds as there are versions in
between, however far below zero its version is.

* `textsOf` — the texts of a database once it is open;
* `version_advanceBy`, `table_advanceBy` — the version and the table after some rounds: no round
  takes texts away, and the one to version 1 makes a table if there is none;
* `migrate_newer`, `migrate_supported` — what a migration comes to for every version.
-/

variable {d : Database}

/-- The texts of a database once it is open. There are none in a new one; one that claims to be of
this schema may lack its table. -/
def textsOf (d : Database) : Option (Table String String) :=
  if d.version = schemaVersion then d.table else some (d.table.getD [])

/-! ### Rounds -/

/-- Each round goes up by one version. -/
theorem version_advanceBy (rounds : Nat) (d : Database) :
    (advanceBy rounds d).version = d.version + rounds := by
  induction rounds generalizing d with
  | zero => exact (Int.add_zero _).symm
  | succ rounds ih =>
    have hround : (advance d).version = d.version + 1 := rfl
    rw [advanceBy, ih, hround]
    omega

/-- The texts stay through all rounds; a table is made where there is none, if the rounds come to
version 1. -/
theorem table_advanceBy (rounds : Nat) (d : Database) :
    (advanceBy rounds d).table =
      if d.version < 1 ∧ 1 ≤ d.version + rounds then some (d.table.getD []) else d.table := by
  induction rounds generalizing d with
  | zero =>
    have hnever : ¬ (d.version < 1 ∧ 1 ≤ d.version + (0 : Nat)) := by omega
    rw [if_neg hnever]
    rfl
  | succ rounds ih =>
    have hversion : (advance d).version = d.version + 1 := rfl
    have htable : (advance d).table
        = if d.version + 1 = 1 then some (d.table.getD []) else d.table := rfl
    rw [advanceBy, ih, hversion, htable]
    by_cases hmakes : d.version + 1 = 1
    · -- this round makes the table, and the others are past it
      have hpast : ¬ (d.version + 1 < 1 ∧ 1 ≤ d.version + 1 + rounds) := by omega
      have hnow : d.version < 1 ∧ 1 ≤ d.version + (rounds + 1 : Nat) := by omega
      rw [if_neg hpast, if_pos hmakes, if_pos hnow]
    · -- this round leaves the table, which another one may still make
      have hlater : (d.version + 1 < 1 ∧ 1 ≤ d.version + 1 + rounds)
          ↔ (d.version < 1 ∧ 1 ≤ d.version + (rounds + 1 : Nat)) := by omega
      simp only [if_neg hmakes, hlater]

/-! ### Whole migrations -/

/-- A database of a newer schema is refused. -/
theorem migrate_newer (h : schemaVersion < d.version) :
    migrate d = .error (.newerSchema d.version) :=
  if_pos h

/-- Any other database is brought to this schema and keeps its texts. -/
theorem migrate_supported (h : d.version ≤ schemaVersion) :
    migrate d = .ok ⟨schemaVersion, textsOf d⟩ := by
  have hone : schemaVersion = 1 := rfl
  obtain ⟨rounds, hrounds⟩ := Int.eq_ofNat_of_zero_le (Int.sub_nonneg_of_le h)
  have hversion : (advanceBy rounds d).version = schemaVersion := by
    rw [version_advanceBy]
    omega
  have htable : (advanceBy rounds d).table = textsOf d := by
    rw [table_advanceBy, textsOf]
    by_cases hsame : d.version = schemaVersion
    · have hnever : ¬ (d.version < 1 ∧ 1 ≤ d.version + rounds) := by omega
      rw [if_pos hsame, if_neg hnever]
    · have hcomes : d.version < 1 ∧ 1 ≤ d.version + rounds := by omega
      rw [if_neg hsame, if_pos hcomes]
  rw [migrate, if_neg (Int.not_lt.mpr h), hrounds, Int.toNat_natCast]
  calc Except.ok (advanceBy rounds d)
      = .ok ⟨(advanceBy rounds d).version, (advanceBy rounds d).table⟩ := rfl
    _ = .ok ⟨schemaVersion, textsOf d⟩ := by rw [hversion, htable]

end Tutor.Settings
