namespace Tutor

/-!
# Tables

A table lists keys with their values, in the order in which the keys came in.

* `Table.get?` looks a key up, `Table.has` asks for it, `Table.keys` lists all;
* `Table.put` sets a value: a key that is there keeps its place;
* `Table.erase` removes a key, `Table.ofPairs` sets several values one after the other;
* `Table.nodup_keys_put`, `Table.nodup_keys_erase` and `Table.nodup_keys_ofPairs`: no operation makes
  a key appear twice.
-/

/-- Keys with their values, in order. -/
abbrev Table (κ α : Type) := List (κ × α)

namespace Table

variable {κ α β : Type} [BEq κ]

/-- The value under a key. -/
def get? (t : Table κ α) (key : κ) : Option α :=
  (t.find? fun m => m.1 == key).map (·.2)

/-- The key is there. -/
def has (t : Table κ α) (key : κ) : Bool :=
  t.any fun m => m.1 == key

/-- Set a value: the last one wins, at the place of the first. -/
def put (t : Table κ α) (key : κ) (value : α) : Table κ α :=
  match t with
  | [] => [(key, value)]
  | m :: r => if m.1 == key then (key, value) :: r else m :: put r key value

/-- Remove a key. -/
def erase (t : Table κ α) (key : κ) : Table κ α :=
  t.filter fun m => !(m.1 == key)

/-- Set values one after the other. -/
def ofPairs (pairs : List (κ × α)) : Table κ α :=
  pairs.foldl (fun t p => put t p.1 p.2) []

omit [BEq κ] in
/-- The keys, in order. -/
def keys (t : Table κ α) : List κ :=
  t.map (·.1)

omit [BEq κ] in
/-- Change all values. -/
def mapValues (f : α → β) (t : Table κ α) : Table κ β :=
  t.map fun m => (m.1, f m.2)

/-! ### Keys -/

omit [BEq κ] in
@[simp] theorem keys_nil : keys ([] : Table κ α) = [] := rfl

omit [BEq κ] in
@[simp] theorem keys_cons (m : κ × α) (t : Table κ α) : keys (m :: t) = m.1 :: keys t := rfl

omit [BEq κ] in
/-- Changing values leaves the keys as they are. -/
@[simp] theorem keys_mapValues (f : α → β) (t : Table κ α) :
    keys (mapValues f t) = keys t := by
  simp [keys, mapValues]

/-- Erasing takes the key, and only the key, off the list. -/
theorem keys_erase (t : Table κ α) (key : κ) :
    keys (erase t key) = (keys t).filter fun k => !(k == key) := by
  simp only [keys, erase, List.filter_map]
  rfl

/-- Erasing makes no key appear twice. -/
theorem nodup_keys_erase {t : Table κ α} (h : (keys t).Nodup) (key : κ) :
    (keys (erase t key)).Nodup := by
  rw [keys_erase]
  exact h.filter _

variable [LawfulBEq κ]

/-- A key is there exactly when it is listed. -/
theorem has_iff_mem_keys (t : Table κ α) (key : κ) : has t key = true ↔ key ∈ keys t := by
  simp [has, keys, List.any_eq_true]

/-- A key that is there keeps its place, another one goes to the end. -/
theorem keys_put (t : Table κ α) (key : κ) (value : α) :
    keys (put t key value) = if key ∈ keys t then keys t else keys t ++ [key] := by
  induction t with
  | nil => simp [put]
  | cons m r ih =>
    by_cases h : m.1 = key
    · simp [put, h]
    · have hk : ¬ key = m.1 := fun e => h e.symm
      simp only [put, beq_iff_eq, h, if_false, keys_cons, ih, List.mem_cons, hk, false_or]
      split <;> rfl

/-- Setting a value makes no key appear twice. -/
theorem nodup_keys_put {t : Table κ α} (h : (keys t).Nodup) (key : κ) (value : α) :
    (keys (put t key value)).Nodup := by
  rw [keys_put]
  split
  · exact h
  · rename_i hk
    rw [List.nodup_append]
    refine ⟨h, by simp, ?_⟩
    intro a ha b hb
    rw [List.mem_singleton] at hb
    subst hb
    exact fun e => hk (e ▸ ha)

/-- Setting several values makes no key appear twice. -/
theorem nodup_keys_ofPairs (pairs : List (κ × α)) : (keys (ofPairs pairs)).Nodup := by
  have step : ∀ (l : List (κ × α)) (t : Table κ α), (keys t).Nodup →
      (keys (l.foldl (fun t p => put t p.1 p.2) t)).Nodup := by
    intro l
    induction l with
    | nil => exact fun t h => h
    | cons p r ih => exact fun t h => ih _ (nodup_keys_put h p.1 p.2)
  exact step pairs [] (by simp)

end Table

end Tutor
