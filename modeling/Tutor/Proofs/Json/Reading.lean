import Mathlib.Data.List.Induction
import Mathlib.Data.List.TakeWhile
import Mathlib.Data.Nat.Digits.Defs
import Tutor.Proofs.Json.RoundTrip

namespace Tutor.Json

/-!
# What a reader makes sure of

A value that was read has only whole numbers that are not refused for their length, and no member of
it appears twice, on any level. So it is read back when it is written again, unless it holds a
double.

* `Part` — the values within a value, itself included;
* `Tidy` — all parts of a value are `Sound`, which is what a reader makes sure of;
* `valuesTidy_succ`, `itemsTidy_succ`, `membersTidy_succ` — one round of the reader; by induction on
  the fuel, whatever is read is tidy (`tidy_of_value`, `tidy_of_read`);
* `HoldsDouble`, `isPlain_of_tidy` — a tidy value without doubles is plain.
-/

/-! ### Parts -/

/-- The value itself, or a value in one of its items or members. -/
inductive Part (p : Json) : Json → Prop
  | self : Part p p
  | item {items : List Json} {j : Json} (hj : j ∈ items) (h : Part p j) : Part p (.arr items)
  | member {members : List (String × Json)} {m : String × Json} (hm : m ∈ members)
    (h : Part p m.2) : Part p (.obj members)

/-- A part of a part is a part. -/
theorem Part.trans {p q j : Json} (hpq : Part p q) (hqj : Part q j) : Part p j := by
  induction hqj with
  | self => exact hpq
  | item hj _ ih => exact .item hj ih
  | member hm _ ih => exact .member hm ih

/-- A member under a key is a part, where there is one. -/
theorem part_getD {j : Json} {key : String} {default : Json} (h : j.getD key default ≠ default) :
    Part (j.getD key default) j := by
  cases j with
  | obj members =>
    cases hget : Table.get? members key with
    | none => exact absurd (congrArg (·.getD default) hget) h
    | some v =>
      have hv : (obj members).getD key default = v := congrArg (·.getD default) hget
      rw [hv]
      exact .member (Table.mem_of_get? hget) .self
  | _ => exact absurd rfl h

/-- A whole number is not too long, and no member appears twice. -/
def Sound : Json → Prop
  | .int n => (Text.decimalDigits n.natAbs).length ≤ Text.digitLimit
  | .obj members => (Table.keys members).Nodup
  | .null | .bool _ | .float _ | .str _ | .arr _ => True

/-- All parts are sound. -/
def Tidy (j : Json) : Prop :=
  ∀ p, Part p j → Sound p

/-- Some part is a double. -/
def HoldsDouble (j : Json) : Prop :=
  ∃ x, Part (.float x) j

/-- A string holds no double. -/
theorem not_holdsDouble_str (s : String) : ¬ HoldsDouble (.str s) :=
  fun ⟨_, hpart⟩ => nomatch hpart

/-- A list holds a double exactly if an item does. -/
theorem holdsDouble_arr {items : List Json} :
    HoldsDouble (.arr items) ↔ ∃ j ∈ items, HoldsDouble j := by
  constructor
  · rintro ⟨x, _ | ⟨hj, hx⟩⟩
    exact ⟨_, hj, x, hx⟩
  · rintro ⟨j, hj, x, hx⟩
    exact ⟨x, .item hj hx⟩

/-- An object holds a double exactly if a member does. -/
theorem holdsDouble_obj {members : List (String × Json)} :
    HoldsDouble (.obj members) ↔ ∃ m ∈ members, HoldsDouble m.2 := by
  constructor
  · rintro ⟨x, _ | _ | ⟨hm, hx⟩⟩
    exact ⟨_, hm, x, hx⟩
  · rintro ⟨m, hm, x, hx⟩
    exact ⟨x, .member hm hx⟩

/-- There are no items and no members. -/
def IsLeaf : Json → Prop
  | .null | .bool _ | .int _ | .float _ | .str _ => True
  | .arr _ | .obj _ => False

/-- A leaf has one part only. -/
theorem tidy_of_isLeaf {j : Json} (hleaf : IsLeaf j) (h : Sound j) : Tidy j := by
  intro p hp
  cases hp with
  | self => exact h
  | item => exact hleaf.elim
  | member => exact hleaf.elim

/-- The absent value is tidy. -/
theorem tidy_null : Tidy .null :=
  tidy_of_isLeaf trivial trivial

/-- A string is tidy. -/
theorem tidy_str (s : String) : Tidy (.str s) :=
  tidy_of_isLeaf trivial trivial

/-- An array is tidy exactly if its items are. -/
theorem tidy_arr {items : List Json} : Tidy (.arr items) ↔ ∀ j ∈ items, Tidy j := by
  refine ⟨fun h j hj p hp => h p (.item hj hp), fun h p hp => ?_⟩
  cases hp with
  | self => trivial
  | item hj hp => exact h _ hj p hp

/-- An object is tidy exactly if its members are and none appears twice. -/
theorem tidy_obj {members : List (String × Json)} :
    Tidy (.obj members) ↔ (Table.keys members).Nodup ∧ ∀ m ∈ members, Tidy m.2 := by
  refine ⟨fun h => ⟨h _ .self, fun m hm p hp => h p (.member hm hp)⟩, fun h p hp => ?_⟩
  cases hp with
  | self => exact h.1
  | member hm hp => exact h.2 _ hm p hp

/-- An object without members is tidy. -/
theorem tidy_empty : Tidy (.obj []) :=
  tidy_obj.mpr ⟨List.nodup_nil, List.forall_mem_nil _⟩

/-- A list of strings is tidy. -/
theorem tidy_ofStrings (l : List String) : Tidy (ofStrings l) := by
  refine tidy_arr.mpr fun j hj => ?_
  obtain ⟨s, -, rfl⟩ := List.mem_map.mp hj
  exact tidy_str s

/-- A part of a tidy value is tidy. -/
theorem Tidy.part {p j : Json} (h : Tidy j) (hp : Part p j) : Tidy p :=
  fun q hq => h q (hq.trans hp)

/-- A member of a tidy value is tidy if the value to take in its absence is. -/
theorem Tidy.getD {j default : Json} (h : Tidy j) (hdefault : Tidy default) (key : String) :
    Tidy (j.getD key default) := by
  by_cases habsent : j.getD key default = default
  · rwa [habsent]
  · exact h.part (part_getD habsent)

/-! ### Numbers that are read -/

/-- Digits spell a number that is not longer than they are. -/
theorem digitsValue_lt {s : List Char} (h : ∀ c ∈ s, isDigit c = true) :
    digitsValue s < 10 ^ s.length := by
  induction s using List.reverseRecOn with
  | nil => exact Nat.one_pos
  | append_singleton s c ih =>
    have hs := ih fun d hd => h d (List.mem_append_left _ hd)
    have hc : isDigit c = true := h c (List.mem_append_right _ (List.mem_singleton_self c))
    have hvalue : c.toNat - 48 < 10 := by
      simp only [isDigit, Bool.and_eq_true, decide_eq_true_eq] at hc
      have hle : c.toNat ≤ 57 := hc.2
      omega
    unfold digitsValue at hs ⊢
    rw [List.foldl_append, List.foldl_cons, List.foldl_nil, List.length_append,
      List.length_singleton, Nat.pow_succ]
    omega

/-- The whole part of a number is made of digits, and of at least one. -/
theorem of_wholePart {s whole rest : List Char} (h : wholePart s = some (whole, rest)) :
    0 < whole.length ∧ ∀ c ∈ whole, isDigit c = true := by
  unfold wholePart at h
  split at h
  · cases h
  · split at h
    · cases h
      exact ⟨Nat.one_pos, List.all_eq_true.mp rfl⟩
    · split at h
      · rename_i c r hzero hc
        cases h
        refine ⟨Nat.succ_pos _, fun d hd => ?_⟩
        rcases List.mem_cons.mp hd with rfl | hd
        · exact hc
        · exact List.mem_takeWhile_imp hd
      · cases h

/-- A number that is read is tidy. -/
theorem tidy_of_number {s rest : List Char} {j : Json} (h : number s = .ok (j, rest)) : Tidy j := by
  have hfloat : ∀ x, Tidy (.float x) := fun x => tidy_of_isLeaf trivial trivial
  unfold number at h
  dsimp only at h
  split at h
  · cases h
  · rename_i whole r hwhole
    obtain ⟨hpos, hdigits⟩ := of_wholePart hwhole
    split at h
    · split at h
      · cases h
      · rename_i hshort
        cases h
        -- the number has no more digits than were read
        have hlength : (Text.decimalDigits (digitsValue whole)).length ≤ whole.length :=
          (Nat.length_toDigits_le_iff (by decide) hpos).mpr (digitsValue_lt hdigits)
        have hsign : ∀ (negative : Bool) (n : Nat),
            (if negative then -(n : Int) else n).natAbs = n := by
          intro negative n
          cases negative <;> simp
        refine tidy_of_isLeaf trivial ?_
        rw [Sound, hsign]
        omega
    · cases h
      exact hfloat _
    · cases h
      exact hfloat _

/-- A constant or a number that is read is tidy. -/
theorem tidy_of_atom {s rest : List Char} {j : Json} (h : atom s = .ok (j, rest)) : Tidy j := by
  unfold atom at h
  split at h
  · rename_i word k hfind
    cases h
    have hmem := List.mem_of_find?_eq_some hfind
    have hsound : ∀ k ∈ constants, Tidy k.2 := by
      intro k hk
      simp only [constants, List.mem_cons, List.not_mem_nil, or_false] at hk
      rcases hk with rfl | rfl | rfl | rfl | rfl | rfl <;>
        exact tidy_of_isLeaf trivial trivial
    exact hsound _ hmem
  · exact tidy_of_number h

/-! ### Values that are read -/

/-- One more member, or another value for a member, leaves an object tidy. -/
theorem Tidy.put {done : List (String × Json)} {j : Json} (hdone : Tidy (.obj done)) (hj : Tidy j)
    (key : String) : Tidy (.obj (Table.put done key j)) := by
  obtain ⟨hnodup, hall⟩ := tidy_obj.mp hdone
  refine tidy_obj.mpr ⟨Table.nodup_keys_put hnodup key j, fun m hm => ?_⟩
  rcases Table.mem_of_mem_put hm with hm | rfl
  · exact hall m hm
  · exact hj

section Rounds

variable {fuel : Nat}

/-- Values that are read with this fuel are tidy. -/
abbrev ValuesTidy (fuel : Nat) : Prop :=
  ∀ s j rest, value fuel s = .ok (j, rest) → Tidy j

/-- Lists that are read with this fuel are tidy if their first items are. -/
abbrev ItemsTidy (fuel : Nat) : Prop :=
  ∀ done s j rest, (∀ i ∈ done, Tidy i) → items fuel done s = .ok (j, rest) → Tidy j

/-- Objects that are read with this fuel are tidy if their first members are. -/
abbrev MembersTidy (fuel : Nat) : Prop :=
  ∀ done s j rest, Tidy (.obj done) → members fuel done s = .ok (j, rest) → Tidy j

/-- A value is a text, an object, a list or an atom. -/
theorem valuesTidy_succ (hitems : ItemsTidy fuel) (hmembers : MembersTidy fuel) :
    ValuesTidy (fuel + 1) := by
  intro s j rest h
  unfold value at h
  -- the first character decides which of them it is
  split at h
  · cases h
  · rename_i c r
    split at h
    · cases hstring : string c r with
      | error e => rw [hstring] at h; cases h
      | ok x =>
        rw [hstring] at h
        cases h
        exact tidy_str x.1
    · split at h
      · split at h
        · cases h
          exact tidy_empty
        · exact hmembers _ _ _ _ tidy_empty h
      · split at h
        · split at h
          · cases h
            exact tidy_arr.mpr fun _ hi => absurd hi List.not_mem_nil
          · exact hitems _ _ _ _ (fun _ hi => absurd hi List.not_mem_nil) h
        · exact tidy_of_atom h

/-- After one more item a list ends or goes on. -/
theorem itemsTidy_succ (hvalue : ValuesTidy fuel) (hitems : ItemsTidy fuel) :
    ItemsTidy (fuel + 1) := by
  intro done s j rest hdone h
  unfold items at h
  split at h
  · cases h
  · rename_i j' rest' hj
    have hall : ∀ i ∈ j' :: done, Tidy i := fun i hi =>
      (List.mem_cons.mp hi).elim (fun heq => heq ▸ hvalue _ _ _ hj) (hdone i)
    split at h
    · cases h
      exact tidy_arr.mpr fun i hi => hall i (List.mem_reverse.mp hi)
    · exact hitems _ _ _ _ hall h
    · cases h

/-- After one more member an object ends or goes on. -/
theorem membersTidy_succ (hvalue : ValuesTidy fuel) (hmembers : MembersTidy fuel) :
    MembersTidy (fuel + 1) := by
  intro done s j rest hdone h
  unfold members at h
  split at h
  · split at h
    · cases h
    · rename_i key rest' hkey
      split at h
      · split at h
        · cases h
        · rename_i j' rest'' hj
          have hput := hdone.put (hvalue _ _ _ hj) key
          split at h
          · cases h
            exact hput
          · exact hmembers _ _ _ _ hput h
          · cases h
      · cases h
  · cases h

/-- A value that is read is tidy; so are the items and the members of one that is read in part. -/
theorem tidy_of_value (fuel : Nat) : ValuesTidy fuel ∧ ItemsTidy fuel ∧ MembersTidy fuel := by
  induction fuel with
  | zero =>
    refine ⟨fun s j rest h => ?_, fun done s j rest _ h => ?_, fun done s j rest _ h => ?_⟩
    · cases h
    · cases h
    · cases h
  | succ fuel ih =>
    obtain ⟨hvalue, hitems, hmembers⟩ := ih
    exact ⟨valuesTidy_succ hitems hmembers, itemsTidy_succ hvalue hitems,
      membersTidy_succ hvalue hmembers⟩

end Rounds

/-- A document that is read is tidy. -/
theorem tidy_of_read {text : String} {j : Json} (h : read text = .ok j) : Tidy j := by
  have hdocument : document text.toList = .ok j := by
    unfold read at h
    dsimp only at h
    split at h
    · rename_i j' hdocument
      cases h
      exact hdocument
    · cases h
    · cases h
  unfold document at hdocument
  split at hdocument
  · cases hdocument
  · split at hdocument
    · cases hdocument
    · rename_i j' rest hj
      split at hdocument
      · cases hdocument
        exact (tidy_of_value _).1 _ _ _ hj
      · cases hdocument

/-! ### Plain values -/

mutual

/-- A tidy value without doubles is plain. -/
theorem isPlain_of_tidy (j : Json) (h : Tidy j) (hdoubles : ¬ HoldsDouble j) : IsPlain j := by
  cases j with
  | null | bool b | str s => trivial
  | int n => exact h _ .self
  | float x => exact absurd ⟨x, .self⟩ hdoubles
  | arr items =>
    exact itemsPlain_of_tidy items (tidy_arr.mp h) fun j hj hx =>
      hdoubles (holdsDouble_arr.mpr ⟨j, hj, hx⟩)
  | obj members =>
    obtain ⟨hnodup, hall⟩ := tidy_obj.mp h
    exact ⟨hnodup, membersPlain_of_tidy members hall fun m hm hx =>
      hdoubles (holdsDouble_obj.mpr ⟨m, hm, hx⟩)⟩

/-- Tidy items without doubles are plain. -/
theorem itemsPlain_of_tidy (items : List Json) (h : ∀ j ∈ items, Tidy j)
    (hdoubles : ∀ j ∈ items, ¬ HoldsDouble j) : ItemsPlain items := by
  match items, h, hdoubles with
  | [], _, _ => trivial
  | j :: rest, h, hdoubles =>
    exact ⟨isPlain_of_tidy j (h j List.mem_cons_self) (hdoubles j List.mem_cons_self),
      itemsPlain_of_tidy rest (fun i hi => h i (List.mem_cons_of_mem j hi))
        fun i hi => hdoubles i (List.mem_cons_of_mem j hi)⟩

/-- Tidy members without doubles are plain. -/
theorem membersPlain_of_tidy (members : List (String × Json)) (h : ∀ m ∈ members, Tidy m.2)
    (hdoubles : ∀ m ∈ members, ¬ HoldsDouble m.2) : MembersPlain members := by
  match members, h, hdoubles with
  | [], _, _ => trivial
  | (k, j) :: rest, h, hdoubles =>
    exact ⟨isPlain_of_tidy j (h (k, j) List.mem_cons_self) (hdoubles (k, j) List.mem_cons_self),
      membersPlain_of_tidy rest (fun m hm => h m (List.mem_cons_of_mem _ hm))
        fun m hm => hdoubles m (List.mem_cons_of_mem _ hm)⟩

end

end Tutor.Json
