import Mathlib.Data.List.Forall2
import Tutor.Proofs.Unions
import Tutor.Table

namespace Tutor.Table

/-!
# Looking up in tables

* `put_of_notMem` — a new key goes to the end;
* `get?_put`, `get?_erase`, `get?_mapEntries` — what an operation does to the value under any key;
* `mem_iff_get?` — in a table without repeated keys, looking up finds every entry;
* `mem_of_mem_ofPairs`, `keys_ofPairs`, `forall₂_ofPairs` — a table made of pairs has no entries but
  those, has their keys, and corresponds to one made of corresponding pairs;
* `ext_get?` — such a table is determined by its keys, in order, and its values.
-/

variable {κ α β : Type} [BEq κ]

@[simp] theorem get?_nil (key : κ) : get? ([] : Table κ α) key = none := rfl

/-- Of two tables, the first one is looked at first. -/
theorem get?_append (t u : Table κ α) (key : κ) :
    get? (t ++ u) key = (get? t key).or (get? u key) := by
  unfold get?
  rw [List.find?_append]
  cases List.find? (fun m => m.1 == key) t <;> rfl

/-! ### Entries -/

/-- Setting a value brings in no entry but that one. -/
theorem mem_of_mem_put {t : Table κ α} {key : κ} {value : α} {m : κ × α}
    (h : m ∈ put t key value) : m ∈ t ∨ m = (key, value) := by
  induction t with
  | nil => exact .inr (List.mem_singleton.mp h)
  | cons n r ih =>
    rw [put] at h
    split at h
    · exact (List.mem_cons.mp h).symm.imp_left (List.mem_cons_of_mem _)
    · rcases List.mem_cons.mp h with rfl | h
      · exact .inl List.mem_cons_self
      · exact (ih h).imp_left (List.mem_cons_of_mem _)

/-- A key that is not listed goes to the end. -/
theorem put_of_notMem [LawfulBEq κ] {t : Table κ α} {key : κ} (h : key ∉ keys t) (value : α) :
    put t key value = t ++ [(key, value)] := by
  induction t with
  | nil => rfl
  | cons m r ih =>
    rw [keys_cons, List.mem_cons, not_or] at h
    have hm : ¬ (m.1 == key) = true := fun e => h.1 (beq_iff_eq.mp e).symm
    rw [put, if_neg hm, ih h.2, List.cons_append]

/-- Setting several values brings in no entry but those. -/
theorem mem_of_mem_ofPairs {pairs : List (κ × α)} {m : κ × α} (h : m ∈ ofPairs pairs) :
    m ∈ pairs := by
  have onto : ∀ (l : List (κ × α)) (t : Table κ α),
      m ∈ l.foldl (fun t p => put t p.1 p.2) t → m ∈ t ∨ m ∈ l := by
    intro l
    induction l with
    | nil => exact fun t h => .inl h
    | cons p r ih =>
      intro t h
      rcases ih _ h with h | h
      · rcases mem_of_mem_put h with h | rfl
        · exact .inl h
        · exact .inr List.mem_cons_self
      · exact .inr (List.mem_cons_of_mem _ h)
  exact (onto pairs [] h).resolve_left List.not_mem_nil

/-- Values that are set one after the other have these keys, each once. -/
theorem keys_ofPairs [LawfulBEq κ] (pairs : List (κ × α)) :
    keys (ofPairs pairs) = (pairs.map (·.1)).eraseDups := by
  induction pairs using List.reverseRecOn with
  | nil => rfl
  | append_singleton rest p ih =>
    have hlast : ofPairs (rest ++ [p]) = put (ofPairs rest) p.1 p.2 := by
      simp only [ofPairs, List.foldl_append, List.foldl_cons, List.foldl_nil]
    rw [hlast, keys_put, ih, List.map_append, List.map_singleton, eraseDups_concat, addOne]
    simp only [List.contains_iff_mem]

section Relation

variable {R : κ × α → κ × β → Prop}

/-- Values that correspond, set under the same key, leave tables that correspond. -/
theorem forall₂_put {t : Table κ α} {u : Table κ β}
    (h : List.Forall₂ (fun m n => n.1 = m.1 ∧ R m n) t u) {key : κ} {a : α} {b : β}
    (hR : R (key, a) (key, b)) :
    List.Forall₂ (fun m n => n.1 = m.1 ∧ R m n) (put t key a) (put u key b) := by
  induction h with
  | nil => exact .cons ⟨rfl, hR⟩ .nil
  | @cons m n _ _ hm hrest ih =>
    rw [put, put, hm.1]
    split
    · exact .cons ⟨rfl, hR⟩ hrest
    · exact .cons hm ih

/-- Values that correspond, set one after the other, leave tables that correspond. -/
theorem forall₂_ofPairs {pairs : List (κ × α)} {others : List (κ × β)}
    (h : List.Forall₂ (fun m n => n.1 = m.1 ∧ R m n) pairs others) :
    List.Forall₂ (fun m n => n.1 = m.1 ∧ R m n) (ofPairs pairs) (ofPairs others) := by
  have onto : ∀ {t : Table κ α} {u : Table κ β},
      List.Forall₂ (fun m n => n.1 = m.1 ∧ R m n) t u →
      List.Forall₂ (fun m n => n.1 = m.1 ∧ R m n) (pairs.foldl (fun t p => put t p.1 p.2) t)
        (others.foldl (fun t p => put t p.1 p.2) u) := by
    induction h with
    | nil => exact id
    | @cons m n _ _ hm _ ih =>
      intro t u htu
      obtain ⟨key, b⟩ := n
      obtain ⟨rfl, hR⟩ := hm
      exact ih (forall₂_put htu hR)
  exact onto .nil

end Relation

omit [BEq κ] in
/-- A change that leaves every value as it is leaves the table as it is. -/
theorem mapValues_eq_self {f : α → α} {t : Table κ α} (h : ∀ m ∈ t, f m.2 = m.2) :
    mapValues f t = t := by
  calc mapValues f t
      = t.map id := List.map_congr_left fun m hm => Prod.ext rfl (h m hm)
    _ = t := List.map_id t

/-! ### Values -/

variable [LawfulBEq κ] [DecidableEq κ]

/-- Looking up tries the entries in order. -/
theorem get?_cons (m : κ × α) (t : Table κ α) (key : κ) :
    get? (m :: t) key = if m.1 = key then some m.2 else get? t key := by
  by_cases h : m.1 = key
  · simp [get?, h]
  · simp [get?, h]

/-- A key has a value exactly when it is listed. -/
theorem isSome_get? (t : Table κ α) (key : κ) : (get? t key).isSome = true ↔ key ∈ keys t := by
  induction t with
  | nil => simp
  | cons m r ih =>
    rw [get?_cons, keys_cons, List.mem_cons]
    by_cases h : m.1 = key
    · simp [h]
    · have hk : ¬ key = m.1 := fun e => h e.symm
      simp [h, hk, ih]

/-- A key that is not listed has no value. -/
theorem get?_eq_none {t : Table κ α} {key : κ} (h : key ∉ keys t) : get? t key = none := by
  rw [← Option.not_isSome_iff_eq_none, isSome_get?]
  exact h

/-- Setting a value changes the value of that key alone. -/
theorem get?_put (t : Table κ α) (key : κ) (value : α) (k : κ) :
    get? (put t key value) k = if key = k then some value else get? t k := by
  induction t with
  | nil => rw [put, get?_cons]
  | cons m r ih =>
    by_cases h : m.1 = key
    · rw [put, if_pos (beq_iff_eq.mpr h), get?_cons, get?_cons, h]
      split <;> rfl
    · rw [put, if_neg (by simpa using h), get?_cons, get?_cons, ih]
      by_cases hk : m.1 = k
      · have hne : ¬ key = k := fun e => h (hk.trans e.symm)
        simp [hk, hne]
      · simp [hk]

/-- Erasing takes the value of that key away and no other. -/
theorem get?_erase (t : Table κ α) (key k : κ) :
    get? (erase t key) k = if key = k then none else get? t k := by
  induction t with
  | nil => simp [erase]
  | cons m r ih =>
    have ih' : get? (r.filter fun m => !(m.1 == key)) k = if key = k then none else get? r k := ih
    by_cases h : m.1 = key
    · rw [erase, List.filter_cons_of_neg (by simp [h]), ih', get?_cons, h]
      split <;> rfl
    · rw [erase, List.filter_cons_of_pos (by simp [h]), get?_cons, get?_cons, ih']
      by_cases hk : m.1 = k
      · have hne : ¬ key = k := fun e => h (hk.trans e.symm)
        simp [hk, hne]
      · simp [hk]

/-- Changing all entries, each in view of its key, changes the value of every key. -/
theorem get?_mapEntries (f : κ → α → β) (t : Table κ α) (key : κ) :
    get? (t.map fun m => (m.1, f m.1 m.2) : Table κ β) key = (get? t key).map (f key) := by
  induction t with
  | nil => rfl
  | cons m r ih =>
    rw [List.map_cons, get?_cons, get?_cons, ih]
    by_cases h : m.1 = key
    · subst h
      simp
    · simp [h]

/-- Changing all values changes the value of every key. -/
theorem get?_mapValues (f : α → β) (t : Table κ α) (key : κ) :
    get? (mapValues f t) key = (get? t key).map f :=
  get?_mapEntries (fun _ => f) t key

/-- A value that is found stands in the table. -/
theorem mem_of_get? {t : Table κ α} {key : κ} {value : α} (h : get? t key = some value) :
    (key, value) ∈ t := by
  induction t with
  | nil => cases h
  | cons m r ih =>
    rw [get?_cons] at h
    by_cases hm : m.1 = key
    · rw [if_pos hm, Option.some.injEq] at h
      subst hm h
      exact List.mem_cons_self
    · rw [if_neg hm] at h
      exact List.mem_cons_of_mem _ (ih h)

/-- Where no key is repeated, an entry is what looking up finds. -/
theorem mem_iff_get? {t : Table κ α} (ht : (keys t).Nodup) {key : κ} {value : α} :
    (key, value) ∈ t ↔ get? t key = some value := by
  refine ⟨fun h => ?_, mem_of_get?⟩
  induction t with
  | nil => cases h
  | cons m r ih =>
    rw [keys_cons, List.nodup_cons] at ht
    rw [get?_cons]
    rcases List.mem_cons.mp h with rfl | h
    · rw [if_pos rfl]
    · have hne : ¬ m.1 = key := fun e =>
        ht.1 (e ▸ List.mem_map.mpr ⟨(key, value), h, rfl⟩)
      rw [if_neg hne]
      exact ih ht.2 h

/-- Tables without repeated keys that list the same keys in the same order and hold the same values
are equal. -/
theorem ext_get? {t u : Table κ α} (ht : (keys t).Nodup) (hk : keys t = keys u)
    (hv : ∀ key, get? t key = get? u key) : t = u := by
  induction t generalizing u with
  | nil =>
    cases u with
    | nil => rfl
    | cons m r => simp at hk
  | cons m r ih =>
    cases u with
    | nil => simp at hk
    | cons n s =>
      rw [keys_cons, keys_cons, List.cons.injEq] at hk
      rw [keys_cons, List.nodup_cons] at ht
      have hhead : m = n := by
        have h := hv m.1
        rw [get?_cons, get?_cons, if_pos rfl, if_pos hk.1.symm, Option.some.injEq] at h
        exact Prod.ext hk.1 h
      subst hhead
      have htail : r = s := by
        apply ih ht.2 hk.2
        intro key
        by_cases h : m.1 = key
        · subst h
          rw [get?_eq_none ht.1, get?_eq_none (hk.2 ▸ ht.1)]
        · have hk' := hv key
          rwa [get?_cons, get?_cons, if_neg h, if_neg h] at hk'
      rw [htail]

end Tutor.Table
