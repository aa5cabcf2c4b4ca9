import Mathlib.Data.List.Basic
import Mathlib.Data.List.Induction
import Tutor.Distinct

namespace Tutor

/-!
# Ordered unions

An ordered union is what is left of both lists when every item but the first of its kind is dropped.

* `addUnique_eq_eraseDups` — so it is said with `List.eraseDups`;
* `nodup_eraseDups`, `eraseDups_prefix_append` — no item is left twice, and more items come at the
  end;
* `pairwise_eraseDups` — the items that are left come in the order of their first occurrences;
* `foldl_addOne_onto` — items that are added to a list come after it, each new one once;
* `eraseDups_eraseDups_append`, `eraseDups_append_eraseDups` — dropping early or late makes no
  difference;
* `Grouping` — lists that are joined two by two; `Grouping.union_join`, by induction on it, says
  that the grouping makes no difference;
* `union_laws` — what holds of all unions.
-/

variable {α : Type} [BEq α] [LawfulBEq α]

/-- One more item at the end of a list is one more to add, unless it is there. -/
theorem eraseDups_concat (l : List α) (x : α) : (l ++ [x]).eraseDups = addOne l.eraseDups x := by
  have hmem : l.eraseDups.contains x = l.contains x := by
    rw [Bool.eq_iff_iff, List.contains_iff_mem, List.contains_iff_mem, List.mem_eraseDups]
  rw [List.eraseDups_append, addOne, hmem, List.cons_removeAll, List.nil_removeAll]
  by_cases hx : l.contains x = true
  · simp only [hx]
    simp
  · simp only [hx]
    simp [List.eraseDups_cons]

/-- Items added one after the other. -/
theorem foldl_addOne (l : List α) : l.foldl addOne [] = l.eraseDups := by
  induction l using List.reverseRecOn with
  | nil => rfl
  | append_singleton r x ih => rw [List.foldl_append, ih, List.foldl_cons, List.foldl_nil,
      eraseDups_concat]

/-- A union is what is left of both lists. -/
theorem addUnique_eq_eraseDups (lhs rhs : List α) :
    addUnique lhs rhs = (lhs ++ rhs).eraseDups :=
  foldl_addOne (lhs ++ rhs)

/-- No item is left twice. -/
theorem nodup_eraseDups (l : List α) : l.eraseDups.Nodup := by
  induction l using List.reverseRecOn with
  | nil => exact List.nodup_nil
  | append_singleton r x ih =>
    rw [eraseDups_concat, addOne]
    split
    · exact ih
    · rename_i hx
      rw [List.contains_iff_mem] at hx
      rw [List.nodup_append]
      refine ⟨ih, by simp, fun a ha b hb => ?_⟩
      rw [List.mem_singleton.mp hb]
      exact fun e => hx (e ▸ ha)

/-- The items that are left come in the order in which they first occur. -/
theorem pairwise_eraseDups (l : List α) :
    l.eraseDups.Pairwise fun a b => l.idxOf a < l.idxOf b := by
  induction l using List.reverseRecOn with
  | nil => exact .nil
  | append_singleton r x ih =>
    -- items that occur already do so at the same place as before
    have hbefore : r.eraseDups.Pairwise fun a b => (r ++ [x]).idxOf a < (r ++ [x]).idxOf b := by
      refine ih.imp_of_mem fun {a b} ha hb hab => ?_
      rwa [List.idxOf_append_of_mem (List.mem_eraseDups.mp ha),
        List.idxOf_append_of_mem (List.mem_eraseDups.mp hb)]
    rw [eraseDups_concat, addOne]
    split
    · exact hbefore
    · rename_i hx
      rw [List.contains_iff_mem, List.mem_eraseDups] at hx
      refine List.pairwise_append.mpr ⟨hbefore, List.pairwise_singleton _ _, fun a ha b hb => ?_⟩
      have har := List.mem_eraseDups.mp ha
      rw [List.mem_singleton.mp hb, List.idxOf_append_of_mem har, List.idxOf_append_of_notMem hx]
      exact Nat.lt_add_right _ (List.idxOf_lt_length_of_mem har)

/-- What is left of a list without repetitions is the list. -/
theorem eraseDups_of_nodup {l : List α} (h : l.Nodup) : l.eraseDups = l := by
  induction l using List.reverseRecOn with
  | nil => rfl
  | append_singleton r x ih =>
    rw [List.nodup_append] at h
    obtain ⟨hr, -, hdisjoint⟩ := h
    have hx : ¬ r.contains x = true := fun hmem =>
      hdisjoint x (List.contains_iff_mem.mp hmem) x (List.mem_singleton_self x) rfl
    rw [eraseDups_concat, ih hr, addOne, if_neg hx]

/-- Items that are added to a list one after the other: the new ones come after it, each once. -/
theorem foldl_addOne_onto (items l : List α) :
    l.foldl addOne items = items ++ (l.filter fun x => !items.contains x).eraseDups := by
  induction l using List.reverseRecOn with
  | nil => rw [List.filter_nil, List.eraseDups_nil, List.append_nil]; rfl
  | append_singleton r x ih =>
    rw [List.foldl_append, ih, List.foldl_cons, List.foldl_nil, List.filter_append,
      List.filter_singleton, addOne]
    cases hold : items.contains x with
    | true =>
      have hthere : (items ++ (r.filter fun x => !items.contains x).eraseDups).contains x := by
        rw [List.contains_iff_mem] at hold ⊢
        exact List.mem_append_left _ hold
      rw [if_pos hthere, Bool.not_true, cond_false, List.append_nil]
    | false =>
      have hsame : (items ++ (r.filter fun x => !items.contains x).eraseDups).contains x
          = (r.filter fun x => !items.contains x).eraseDups.contains x := by
        rw [List.contains_append, hold, Bool.false_or]
      rw [hsame, Bool.not_false, cond_true, eraseDups_concat, addOne]
      split
      · rfl
      · exact List.append_assoc ..

/-- What is left of a list comes first in what is left of a longer one. -/
theorem eraseDups_prefix_append (l more : List α) : l.eraseDups <+: (l ++ more).eraseDups :=
  ⟨_, List.eraseDups_append.symm⟩

/-- What is left of a list has nothing more to drop. -/
theorem eraseDups_eraseDups (l : List α) : l.eraseDups.eraseDups = l.eraseDups := by
  induction l using List.reverseRecOn with
  | nil => rfl
  | append_singleton r x ih =>
    rw [eraseDups_concat, addOne]
    split
    · exact ih
    · rename_i hx
      rw [eraseDups_concat, ih, addOne, if_neg hx]

/-- Dropping items early makes no difference to what is left. -/
theorem eraseDups_eraseDups_append (l more : List α) :
    (l.eraseDups ++ more).eraseDups = (l ++ more).eraseDups := by
  induction more using List.reverseRecOn with
  | nil => rw [List.append_nil, List.append_nil, eraseDups_eraseDups]
  | append_singleton r x ih =>
    rw [← List.append_assoc, ← List.append_assoc, eraseDups_concat, eraseDups_concat, ih]

/-- Neither does it if the items to come are dropped early. -/
theorem eraseDups_append_eraseDups (l more : List α) :
    (l ++ more.eraseDups).eraseDups = (l ++ more).eraseDups := by
  induction more using List.reverseRecOn with
  | nil => rfl
  | append_singleton r x ih =>
    have hconcat : (l ++ (r ++ [x])).eraseDups = addOne (l ++ r).eraseDups x := by
      rw [← List.append_assoc, eraseDups_concat]
    rw [hconcat, eraseDups_concat, addOne]
    split
    · rename_i hx
      rw [List.contains_iff_mem, List.mem_eraseDups] at hx
      have hmem : (l ++ r).eraseDups.contains x = true := by
        rw [List.contains_iff_mem, List.mem_eraseDups]
        exact List.mem_append_right l hx
      rw [ih, addOne, if_pos hmem]
    · rw [← List.append_assoc, eraseDups_concat, ih]

/-- What is left of two lists together only depends on what is left of each. -/
theorem eraseDups_append_congr {l l' more more' : List α} (hl : l.eraseDups = l'.eraseDups)
    (hmore : more.eraseDups = more'.eraseDups) :
    (l ++ more).eraseDups = (l' ++ more').eraseDups := by
  rw [← eraseDups_eraseDups_append l, ← eraseDups_append_eraseDups _ more, hl, hmore,
    eraseDups_append_eraseDups, eraseDups_eraseDups_append]

/-! ### Laws of unions -/

/-- No item is in a union twice. -/
theorem nodup_addUnique (lhs rhs : List α) : (addUnique lhs rhs).Nodup := by
  rw [addUnique_eq_eraseDups]
  exact nodup_eraseDups _

/-- The items of a union are those of both lists. -/
theorem mem_addUnique {lhs rhs : List α} {x : α} :
    x ∈ addUnique lhs rhs ↔ x ∈ lhs ∨ x ∈ rhs := by
  rw [addUnique_eq_eraseDups, List.mem_eraseDups, List.mem_append]

/-- A union with a list without repetitions is that list and then the new items, each once. -/
theorem addUnique_of_nodup {lhs : List α} (h : lhs.Nodup) (rhs : List α) :
    addUnique lhs rhs = lhs ++ (rhs.filter fun x => !lhs.contains x).eraseDups := by
  rw [addUnique, List.foldl_append, foldl_addOne, eraseDups_of_nodup h, foldl_addOne_onto]

/-- Such a union is nothing new if there are no new items. -/
theorem addUnique_eq_left_iff {lhs rhs : List α} (h : lhs.Nodup) :
    addUnique lhs rhs = lhs ↔ ∀ x ∈ rhs, x ∈ lhs := by
  constructor
  · intro hsame x hx
    rw [← hsame, mem_addUnique]
    exact .inr hx
  · intro hold
    have hnone : rhs.filter (fun x => !lhs.contains x) = [] := by
      rw [List.filter_eq_nil_iff]
      intro x hx
      rw [Bool.not_eq_true', Bool.not_eq_false, List.contains_iff_mem]
      exact hold x hx
    rw [addUnique_of_nodup h, hnone, List.eraseDups_nil, List.append_nil]

/-- Two unions one after the other are one union with both lists. -/
theorem addUnique_addUnique (a b c : List α) :
    addUnique (addUnique a b) c = addUnique a (b ++ c) := by
  simp only [addUnique_eq_eraseDups, eraseDups_eraseDups_append, List.append_assoc]

/-- So they are if the later lists are joined first. -/
theorem addUnique_append (a b c : List α) :
    addUnique a (addUnique b c) = addUnique a (b ++ c) := by
  simp only [addUnique_eq_eraseDups, eraseDups_append_eraseDups]

/-- Lists that are joined two by two, in any grouping. -/
inductive Grouping (α : Type)
  | list (items : List α)
  | join (lhs rhs : Grouping α)

namespace Grouping

/-- The lists, in order. -/
def lists {α : Type} : Grouping α → List (List α)
  | list items => [items]
  | join lhs rhs => lhs.lists ++ rhs.lists

/-- What the unions come to. -/
def union {α : Type} [BEq α] : Grouping α → List α
  | list items => items
  | join lhs rhs => addUnique lhs.union rhs.union

/-- What is left of it does not depend on the grouping. -/
theorem eraseDups_union (g : Grouping α) : g.union.eraseDups = g.lists.flatten.eraseDups := by
  induction g with
  | list items => rw [union, lists, List.flatten_singleton]
  | join lhs rhs hlhs hrhs =>
    rw [union, lists, addUnique_eq_eraseDups, eraseDups_eraseDups, List.flatten_append]
    exact eraseDups_append_congr hlhs hrhs

/-- Unions in any grouping are one union of all lists. -/
theorem union_join (lhs rhs : Grouping α) :
    (join lhs rhs).union = addUnique [] (join lhs rhs).lists.flatten := by
  rw [addUnique_eq_eraseDups, List.nil_append, ← eraseDups_union, union, addUnique_eq_eraseDups,
    eraseDups_eraseDups]

end Grouping

/-- Unions one after the other are one union with all lists. -/
theorem foldl_addUnique (a : List α) {unions : List (List α)} (h : unions ≠ []) :
    unions.foldl addUnique a = addUnique a unions.flatten := by
  induction unions generalizing a with
  | nil => exact absurd rfl h
  | cons b rest ih =>
    rw [List.foldl_cons, List.flatten_cons]
    by_cases hrest : rest = []
    · rw [hrest, List.foldl_nil, List.flatten_nil, List.append_nil]
    · rw [ih _ hrest, addUnique_addUnique]

/-- A list that is among those joined already adds nothing. -/
theorem addUnique_foldl_of_mem (a : List α) {b : List α} {unions : List (List α)}
    (h : b ∈ unions) : addUnique (unions.foldl addUnique a) b = unions.foldl addUnique a := by
  rw [foldl_addUnique a (List.ne_nil_of_mem h)]
  refine (addUnique_eq_left_iff (nodup_addUnique _ _)).mpr fun x hx => ?_
  rw [mem_addUnique, List.mem_flatten]
  exact .inr ⟨b, h, hx⟩

/-- **The laws of ordered unions.** A union of two lists has no item twice, has the items of both,
and has them in the order in which they first occur in the one list followed by the other. A list
without repetitions comes first in a union with it, and is all of it just if the other list has
nothing new. Unions one after the other can be grouped at will: they come to one union of all the
lists, in their order. A list that has been joined already can be joined again without effect. -/
theorem union_laws (a b c : List String) :
    (addUnique a b).Nodup ∧ (∀ x, x ∈ addUnique a b ↔ x ∈ a ∨ x ∈ b) ∧
      (addUnique a b).Pairwise (fun x y => (a ++ b).idxOf x < (a ++ b).idxOf y) ∧
      (a.Nodup → a <+: addUnique a b ∧ (addUnique a b = a ↔ ∀ x ∈ b, x ∈ a)) ∧
      addUnique (addUnique a b) c = addUnique a (b ++ c) ∧
      addUnique a (addUnique b c) = addUnique a (b ++ c) ∧
      (∀ lhs rhs : Grouping String,
        (Grouping.join lhs rhs).union = addUnique [] (Grouping.join lhs rhs).lists.flatten) ∧
      ∀ unions : List (List String), b ∈ unions →
        addUnique (unions.foldl addUnique a) b = unions.foldl addUnique a := by
  refine ⟨nodup_addUnique a b, fun x => mem_addUnique, ?_, fun ha => ⟨?_, addUnique_eq_left_iff ha⟩,
    addUnique_addUnique a b c, addUnique_append a b c, Grouping.union_join,
    fun unions hb => addUnique_foldl_of_mem a hb⟩
  · rw [addUnique_eq_eraseDups]
    exact pairwise_eraseDups (a ++ b)
  · rw [addUnique_of_nodup ha]
    exact List.prefix_append a _

/-- Of four names two are new; a list that repeats a name and brings nothing new can be joined
twice. -/
theorem union_laws_repeated :
    let a := ["a", "b"]
    let b := ["b", "c", "a", "d"]
    let c := ["d", "d", "b"]
    addUnique a b = ["a", "b", "c", "d"] ∧ (a.Nodup ∧ a <+: addUnique a b) ∧ addUnique a b ≠ a ∧
      (c ∈ [b, c] ∧ addUnique ([b, c].foldl addUnique a) c = addUnique a b) := by
  intro a b c
  have hnodup : a.Nodup := by decide
  have hmem : c ∈ [b, c] := by decide
  obtain ⟨-, -, -, hprefix, -⟩ := union_laws a b c
  obtain ⟨-, -, -, -, -, -, -, hagain⟩ := union_laws a c b
  obtain ⟨hstart, hsame⟩ := hprefix hnodup
  refine ⟨by decide, ⟨hnodup, hstart⟩, fun h => ?_, hmem, ?_⟩
  · exact absurd (hsame.mp h) (by decide)
  · rw [hagain [b, c] hmem]
    decide

end Tutor
