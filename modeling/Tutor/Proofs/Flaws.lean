import Mathlib.Data.List.Forall2
import Tutor.Course.Document

namespace Tutor

/-!
# The first flaw

Readers look at the places of a value one after the other and fail at the first that has a flaw. A
place is given by its flaws: the failures that it leads to.

* `First`, `Unless`, `Fine` — the flaw of the first place that has one, a place with one condition,
  and a place without flaws;
* `Reports` — a reading fails exactly with the flaws of a place; `Reports.bind`, `Reports.mapM` and
  `Reports.mapValuesM` are about places that are looked at one after the other, and `first_map` says
  which item has the first flaw;
* `forall₂_mapM`, `forall₂_mapValuesM` — what is read from items and members, one by one;
* `Json.AbsentOr` and the shapes of values that readers tell apart.
-/

section Places

variable {ε α β : Type}

/-- The first of some places that has a flaw has this one. -/
inductive First : List (ε → Prop) → ε → Prop
  | here {p : ε → Prop} {rest : List (ε → Prop)} {e : ε} (h : p e) : First (p :: rest) e
  | later {p : ε → Prop} {rest : List (ε → Prop)} {e : ε} (hp : ∀ f, ¬ p f) (h : First rest e) :
    First (p :: rest) e

/-- The place has one flaw, unless the condition holds. -/
def Unless (condition : Prop) (e : ε) : ε → Prop :=
  fun f => ¬ condition ∧ f = e

/-- The place has no flaw. -/
def Fine (p : ε → Prop) : Prop :=
  ∀ e, ¬ p e

/-- The first flaw is one of the first place, or that place is fine and the others have it. -/
theorem first_cons {p : ε → Prop} {rest : List (ε → Prop)} {e : ε} :
    First (p :: rest) e ↔ p e ∨ Fine p ∧ First rest e := by
  constructor
  · intro h
    cases h with
    | here h => exact .inl h
    | later hp h => exact .inr ⟨hp, h⟩
  · rintro (h | ⟨hp, h⟩)
    · exact .here h
    · exact .later hp h

/-- There is no first flaw exactly if all places are fine. -/
theorem fine_first {places : List (ε → Prop)} : Fine (First places) ↔ ∀ p ∈ places, Fine p := by
  induction places with
  | nil => exact ⟨fun _ p hp => absurd hp List.not_mem_nil, fun _ e h => nomatch h⟩
  | cons p rest ih =>
    rw [List.forall_mem_cons, ← ih]
    constructor
    · intro h
      have hp : Fine p := fun e he => h e (.here he)
      exact ⟨hp, fun e he => h e (.later hp he)⟩
    · rintro ⟨hp, hrest⟩ e h
      exact (first_cons.mp h).elim (hp e) fun h => hrest e h.2

/-- The first flaw among the places of some items is that of an item before which all is fine. -/
theorem first_map {p : α → ε → Prop} {items : List α} {e : ε} :
    First (items.map p) e ↔
      ∃ before i after, items = before ++ i :: after ∧ (∀ j ∈ before, Fine (p j)) ∧ p i e := by
  induction items with
  | nil =>
    refine ⟨fun h => (nomatch h), ?_⟩
    rintro ⟨before, i, after, hsplit, -⟩
    cases before <;> cases hsplit
  | cons first rest ih =>
    rw [List.map_cons, first_cons, ih]
    constructor
    · rintro (h | ⟨hfirst, before, i, after, rfl, hbefore, h⟩)
      · exact ⟨[], first, rest, rfl, List.forall_mem_nil _, h⟩
      · exact ⟨first :: before, i, after, rfl, List.forall_mem_cons.mpr ⟨hfirst, hbefore⟩, h⟩
    · rintro ⟨before, i, after, hsplit, hbefore, h⟩
      cases before with
      | nil =>
        cases hsplit
        exact .inl h
      | cons _ before =>
        cases hsplit
        obtain ⟨hfirst, hbefore⟩ := List.forall_mem_cons.mp hbefore
        exact .inr ⟨hfirst, before, i, after, rfl, hbefore, h⟩

/-- A place with a condition is fine exactly if the condition holds. -/
theorem fine_unless {condition : Prop} {e : ε} : Fine (Unless condition e) ↔ condition :=
  ⟨fun h => Classical.byContradiction fun hc => h e ⟨hc, rfl⟩, fun hc _ h => h.1 hc⟩

/-! ### Readings -/

/-- The reading fails exactly with the flaws of the place. -/
def Reports (r : Except ε α) (p : ε → Prop) : Prop :=
  ∀ e, r = .error e ↔ p e

namespace Reports

variable {r : Except ε α} {p : ε → Prop} {rest : List (ε → Prop)}

/-- There is a result exactly if the place is fine. -/
theorem ok_iff (h : Reports r p) : (∃ x, r = .ok x) ↔ Fine p := by
  cases r with
  | ok x => exact ⟨fun _ e he => (nomatch (h e).mpr he), fun _ => ⟨x, rfl⟩⟩
  | error e => exact ⟨fun ⟨_, hx⟩ => (nomatch hx), fun hp => absurd ((h e).mp rfl) (hp e)⟩

/-- A result is reported where nothing is wrong. -/
theorem ok (x : α) (hp : Fine p) : Reports (.ok x : Except ε α) p :=
  fun e => ⟨fun h => (nomatch h), fun h => absurd h (hp e)⟩

/-- The reading reports its own failures. -/
theorem self : Reports r (r = .error ·) :=
  fun _ => Iff.rfl

/-- Where no place is left, there is a result. -/
theorem done (x : α) : Reports (.ok x : Except ε α) (First []) :=
  .ok x fun _ h => nomatch h

/-- A condition that holds is passed over. -/
theorem pass {condition : Prop} {e : ε} (hc : condition) (h : Reports r (First rest)) :
    Reports r (First (Unless condition e :: rest)) := fun f => by
  rw [h f, first_cons, fine_unless]
  exact ⟨fun hrest => .inr ⟨hc, hrest⟩,
    fun h => h.elim (fun hu => absurd hc hu.1) And.right⟩

/-- At a condition that does not hold, the reading ends. -/
theorem stop {condition : Prop} {e : ε} (hc : ¬ condition) :
    Reports (.error e : Except ε α) (First (Unless condition e :: rest)) := fun f => by
  rw [first_cons, fine_unless, Except.error.injEq]
  exact ⟨fun hf => .inl ⟨hc, hf.symm⟩, fun h => h.elim (fun hu => hu.2.symm) fun h => absurd h.1 hc⟩

/-- What is made of a result has no flaws of its own. -/
theorem map (h : Reports r p) (g : α → β) : Reports (r >>= fun x => .ok (g x)) p := by
  cases r with
  | ok x => exact ok (g x) (h.ok_iff.mp ⟨x, rfl⟩)
  | error e =>
    intro f
    rw [← h f]
    exact ⟨fun he => congrArg Except.error (Except.error.inj he),
      fun he => congrArg Except.error (Except.error.inj he)⟩

/-- A second reading looks at the places after the one that the first reading looks at. -/
theorem bind {f : α → Except ε β} (h : Reports r p)
    (hf : ∀ x, r = .ok x → Reports (f x) (First rest)) :
    Reports (r >>= f) (First (p :: rest)) := by
  intro e
  rw [first_cons]
  cases r with
  | ok x =>
    -- the first place is fine, and the rest decides
    have hp : Fine p := h.ok_iff.mp ⟨x, rfl⟩
    have hrest : f x = .error e ↔ First rest e := hf x rfl e
    exact hrest.trans ⟨fun he => .inr ⟨hp, he⟩, fun he => (he.resolve_left (hp e)).2⟩
  | error e' =>
    -- the first place has a flaw, so that the rest is not looked at
    have hp : p e' := (h e').mp rfl
    rw [← h e]
    exact ⟨fun he => .inl (congrArg Except.error (Except.error.inj he)),
      fun he => congrArg Except.error (Except.error.inj (he.resolve_right fun h => h.1 e' hp))⟩

/-- Items are looked at in order. -/
theorem mapM {f : α → Except ε β} {p : α → ε → Prop} (h : ∀ i, Reports (f i) (p i))
    (items : List α) : Reports (items.mapM f) (First (items.map p)) := by
  induction items with
  | nil => exact done _
  | cons i rest ih =>
    rw [List.mapM_cons, List.map_cons]
    exact (h i).bind fun _ _ => ih.map _

end Reports

/-- Reading items one after the other fails at the first one that fails. -/
theorem mapM_eq_error_iff {f : α → Except ε β} {items : List α} {e : ε} :
    items.mapM f = .error e ↔
      ∃ before i after, items = before ++ i :: after ∧ (∀ j ∈ before, ∃ r, f j = .ok r) ∧
        f i = .error e := by
  have hreports : Reports (items.mapM f) (First (items.map fun i e => f i = .error e)) :=
    .mapM (fun _ => .self) items
  have hfine : ∀ i, Fine (f i = .error ·) ↔ ∃ r, f i = .ok r := fun i => Reports.self.ok_iff.symm
  rw [hreports e, first_map]
  simp only [hfine]

/-- A sequence that gives a result has two parts that do. -/
theorem of_bind_eq_ok {r : Except ε α} {f : α → Except ε β} {y : β} (h : r >>= f = .ok y) :
    ∃ x, r = .ok x ∧ f x = .ok y := by
  cases r with
  | error e => cases h
  | ok x => exact ⟨x, rfl, h⟩

/-- What is read from items, one by one. -/
theorem forall₂_mapM {f : α → Except ε β} {items : List α} {results : List β}
    (h : items.mapM f = .ok results) : List.Forall₂ (fun i r => f i = .ok r) items results := by
  induction items generalizing results with
  | nil =>
    cases h
    exact .nil
  | cons i rest ih =>
    rw [List.mapM_cons] at h
    obtain ⟨r, hi, h⟩ := of_bind_eq_ok h
    obtain ⟨others, hrest, h⟩ := of_bind_eq_ok h
    cases h
    exact .cons hi (ih hrest)

/-- Reading the values of members is reading the members as items. -/
theorem mapValuesM_eq_mapM (read : String → α → Except Failure β) (members : List (String × α)) :
    mapValuesM read members = members.mapM fun m => read m.1 m.2 >>= fun w => .ok (m.1, w) := by
  induction members with
  | nil => rfl
  | cons m rest ih =>
    rw [mapValuesM, List.mapM_cons, ih]
    cases read m.1 m.2 <;> rfl

/-- Members are looked at in order. -/
theorem Reports.mapValuesM {read : String → α → Except Failure β}
    {p : String × α → Failure → Prop} (h : ∀ m, Reports (read m.1 m.2) (p m))
    (members : List (String × α)) :
    Reports (Tutor.mapValuesM read members) (First (members.map p)) :=
  mapValuesM_eq_mapM read members ▸ .mapM (fun m => (h m).map _) members

/-- What is read from a member is kept under its key. -/
theorem of_keyed {r : Except ε β} {key : String} {n : String × β}
    (h : (r >>= fun w => .ok (key, w)) = .ok n) : n.1 = key ∧ r = .ok n.2 := by
  cases r with
  | error e => cases h
  | ok w =>
    cases h
    exact ⟨rfl, rfl⟩

/-- What is read from members, one by one and under their keys. -/
theorem forall₂_mapValuesM {read : String → α → Except Failure β} {members : List (String × α)}
    {t : Table String β} (h : mapValuesM read members = .ok t) :
    List.Forall₂ (fun m n => n.1 = m.1 ∧ read m.1 m.2 = .ok n.2) members t := by
  rw [mapValuesM_eq_mapM] at h
  exact (forall₂_mapM h).imp fun _ _ => of_keyed

/-- What corresponds to an item, one by one, corresponds to one of them. -/
theorem exists_of_forall₂ {R : α → β → Prop} {items : List α} {results : List β} {r : β}
    (h : List.Forall₂ R items results) (hr : r ∈ results) : ∃ i ∈ items, R i r := by
  induction h with
  | nil => cases hr
  | cons hfirst _ ih =>
    rcases List.mem_cons.mp hr with rfl | hr
    · exact ⟨_, List.mem_cons_self, hfirst⟩
    · obtain ⟨i, hi, hR⟩ := ih hr
      exact ⟨i, List.mem_cons_of_mem _ hi, hR⟩

end Places

/-! ### Shapes of values -/

namespace Json

/-- The value is a string. -/
def IsString (j : Json) : Prop := ∃ s, j = .str s

/-- The value is a list. -/
def IsList (j : Json) : Prop := ∃ items, j = .arr items

/-- The value is an object. -/
def IsObject (j : Json) : Prop := ∃ members, j = .obj members

/-- The value counts as absent: it is null, false, zero or empty. -/
def Blank (j : Json) : Prop := j.isTruthy = false

/-- There is no member under the key, or its value is as `P` says. -/
def AbsentOr (j : Json) (key : String) (P : Json → Prop) : Prop :=
  ∀ value, j.get? key = some value → P value

/-- The members of the object under a key; none if there is no object. -/
def membersUnder (j : Json) (key : String) : List (String × Json) :=
  match j.get? key with
  | some (.obj members) => members
  | _ => []

/-- The items of a list; none if it is no list. -/
def listed (j : Json) : List Json :=
  match j with
  | .arr items => items
  | _ => []

/-- The members of an object; none if it is no object. -/
def fields (j : Json) : List (String × Json) :=
  match j with
  | .obj members => members
  | _ => []

/-- A member that is absent has its default value. -/
theorem absentOr_iff {P : Json → Prop} {default : Json} (hd : P default) (j : Json)
    (key : String) : j.AbsentOr key P ↔ P (j.getD key default) := by
  unfold AbsentOr getD
  cases j.get? key with
  | none => exact ⟨fun _ => hd, fun _ _ h => (nomatch h)⟩
  | some value => exact ⟨fun h => h value rfl, fun h _ hv => Option.some.inj hv ▸ h⟩

/-- The members of an object that is empty by default. -/
theorem membersUnder_eq {j : Json} {key : String} {members : List (String × Json)}
    (h : j.getD key (.obj []) = .obj members) : j.membersUnder key = members := by
  unfold getD at h
  unfold membersUnder
  cases hget : j.get? key with
  | none =>
    rw [hget] at h
    exact Json.obj.inj h
  | some value =>
    rw [hget] at h
    have hvalue : value = .obj members := h
    rw [hvalue]

end Json

/-- Where a value may count as absent, any other value that is not as `P` says is a flaw. -/
theorem Reports.unless_blank {ε α : Type} {j : Json} {P : Prop} {e : ε} (x : α) (hP : ¬ P) :
    Reports (if j.isTruthy then .error e else .ok x : Except ε α)
      (First [Unless (j.Blank ∨ P) e]) := by
  split
  · rename_i htruthy
    refine .stop fun h => ?_
    rcases h with hblank | h
    · exact absurd (hblank.symm.trans htruthy) Bool.false_ne_true
    · exact hP h
  · rename_i hblank
    exact .pass (.inl (Bool.eq_false_iff.mpr hblank)) (.done x)

end Tutor
