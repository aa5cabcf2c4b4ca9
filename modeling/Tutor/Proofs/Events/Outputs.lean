import Tutor.Events.Output
import Tutor.Proofs.Events.Survivors
import Tutor.Proofs.Flaws
import Tutor.Proofs.Tables

namespace Tutor

/-!
# The output that wins

Which output of a task wins, in terms of the outputs alone and not of the lists that the choice goes
through.

* `Pending.Satisfied`, `Pending.Subsumes`, `Pending.Wins` — an output is satisfied, subsumes
  another, is satisfied and subsumes every other satisfied one;
* `Pending.winner_of_unique`, `winner_of_none`, `winner_of_several` — the choice finds the one
  output that wins, and its two faults tell that none is satisfied or that not exactly one wins;
* `Pending.withFired` — the outputs with exactly the events of a list fired: marking an event adds
  it to that list (`mark_withFired`), and outputs that are read are those with no event fired
  (`withFired_nil_of_ofJson`);
* `Pending.SatisfiedBy`, `Pending.WinsBy` — the same notions for a list of events.
-/

namespace Pending

/-! ### Winning -/

/-- The output of a name is satisfied. -/
def Satisfied (p : Pending) (name : String) : Prop :=
  ∃ o, p.outputs.get? name = some o ∧ o.satisfied = true

/-- The output of a name lists another one among those it subsumes. -/
def Subsumes (p : Pending) (name other : String) : Prop :=
  ∃ o, p.outputs.get? name = some o ∧ other ∈ o.subsumes

/-- The output of a name is satisfied and subsumes every other satisfied one. -/
def Wins (p : Pending) (name : String) : Prop :=
  p.Satisfied name ∧ ∀ other, p.Satisfied other → other ≠ name → p.Subsumes name other

/-- The list of satisfied outputs holds them and no others. -/
theorem mem_satisfied (p : Pending) (name : String) : name ∈ p.satisfied ↔ p.Satisfied name := by
  simp only [satisfied, List.mem_map, List.mem_filter, Prod.exists, Satisfied]
  constructor
  · rintro ⟨n, o, ⟨hm, hs⟩, rfl⟩
    exact ⟨o, (Table.mem_iff_get? p.distinct).mp hm, hs⟩
  · rintro ⟨o, hg, hs⟩
    exact ⟨name, o, ⟨Table.mem_of_get? hg, hs⟩, rfl⟩

/-- No output is satisfied twice. -/
theorem nodup_satisfied (p : Pending) : p.satisfied.Nodup :=
  (List.filter_sublist.map _).nodup p.distinct

/-- The table of what outputs subsume says what the outputs say. -/
theorem lists_subsumption (p : Pending) (name other : String) :
    p.subsumption.Lists name other ↔ p.Subsumes name other := by
  unfold Table.Lists Subsumes subsumption
  rw [Table.get?_mapValues]
  cases p.outputs.get? name with
  | none => simp
  | some o => simp

/-- So it says when it is asked. -/
theorem subsumesIn_subsumption (p : Pending) (name other : String) :
    subsumesIn p.subsumption name other = true ↔ p.Subsumes name other :=
  subsumesIn_iff.trans (p.lists_subsumption name other)

/-- The survivors are the outputs that win. -/
theorem mem_survivors (p : Pending) (name : String) :
    name ∈ survivors p.satisfied p.subsumption ↔ p.Wins name := by
  simp only [mem_survivors_iff, Table.ListsAll, lists_subsumption, mem_satisfied, Wins]

/-- No output survives twice. -/
theorem nodup_survivors (p : Pending) : (survivors p.satisfied p.subsumption).Nodup :=
  List.filter_sublist.nodup p.nodup_satisfied

/-- The survivors are one output exactly when that output wins and no other does. -/
theorem survivors_eq_singleton (p : Pending) (name : String) :
    survivors p.satisfied p.subsumption = [name] ↔
      p.Wins name ∧ ∀ other, p.Wins other → other = name := by
  simp only [← mem_survivors]
  constructor
  · intro h
    rw [h]
    exact ⟨List.mem_singleton.mpr rfl, fun other ho => List.mem_singleton.mp ho⟩
  · rintro ⟨hname, honly⟩
    have hperm : (survivors p.satisfied p.subsumption).Perm [name] := by
      rw [List.perm_ext_iff_of_nodup p.nodup_survivors (List.pairwise_singleton _ _)]
      intro other
      rw [List.mem_singleton]
      exact ⟨honly other, fun h => h ▸ hname⟩
    exact List.perm_singleton.mp hperm

/-! ### The choice -/

/-- The one output that wins is chosen. -/
theorem winner_of_unique {p : Pending} {name : String} (lesson task : String) (hw : p.Wins name)
    (honly : ∀ other, p.Wins other → other = name) :
    ∃ o, p.outputs.get? name = some o ∧ p.winner lesson task = .ok (name, o) := by
  obtain ⟨o, hg, hs⟩ := hw.1
  refine ⟨o, hg, ?_⟩
  have hsurv := (p.survivors_eq_singleton name).mpr ⟨hw, honly⟩
  have hne : p.satisfied ≠ [] :=
    List.ne_nil_of_mem ((p.mem_satisfied name).mpr ⟨o, hg, hs⟩)
  unfold winner
  split
  · rename_i h
    exact absurd h hne
  · rw [hsurv]
    simp only [hg]

/-- Where no output is satisfied, the fault lists the events that have fired. -/
theorem winner_of_none {p : Pending} (lesson task : String) (hnone : ∀ name, ¬ p.Satisfied name) :
    p.winner lesson task = .error (.noOutput lesson task p.firedEvents) := by
  have hnil : p.satisfied = [] := by
    rw [List.eq_nil_iff_forall_not_mem]
    exact fun name h => hnone name ((p.mem_satisfied name).mp h)
  unfold winner
  rw [hnil]

/-- Where an output is satisfied but not exactly one wins, the fault names the outputs that win, or
all satisfied ones if none does. -/
theorem winner_of_several {p : Pending} (lesson task : String) {name : String}
    (hs : p.Satisfied name)
    (hnot : ¬ ∃ name, p.Wins name ∧ ∀ other, p.Wins other → other = name) :
    ∃ names, p.winner lesson task = .error (.ambiguous lesson task names p.firedEvents) := by
  have hne : p.satisfied ≠ [] := List.ne_nil_of_mem ((p.mem_satisfied name).mpr hs)
  unfold winner
  split
  · rename_i h
    exact absurd h hne
  · split
    · rename_i n hn
      exact absurd ⟨n, (p.survivors_eq_singleton n).mp hn⟩ hnot
    · exact ⟨_, rfl⟩
    · exact ⟨_, rfl⟩

/-- An output that is chosen wins, and no other output does. -/
theorem wins_of_winner {p : Pending} {lesson task name : String} {o : Output}
    (h : p.winner lesson task = .ok (name, o)) :
    p.outputs.get? name = some o ∧ p.Wins name ∧ ∀ other, p.Wins other → other = name := by
  by_cases hu : ∃ n, p.Wins n ∧ ∀ other, p.Wins other → other = n
  · obtain ⟨n, hn, honly⟩ := hu
    obtain ⟨o', hg, hw⟩ := winner_of_unique lesson task hn honly
    rw [hw, Except.ok.injEq, Prod.mk.injEq] at h
    obtain ⟨rfl, rfl⟩ := h
    exact ⟨hg, hn, honly⟩
  · by_cases hs : ∃ n, p.Satisfied n
    · obtain ⟨n, hn⟩ := hs
      obtain ⟨names, hw⟩ := winner_of_several lesson task hn hu
      rw [hw] at h
      cases h
    · rw [winner_of_none lesson task fun n hn => hs ⟨n, hn⟩] at h
      cases h

end Pending

/-! ### Events that have fired -/

/-- The output with exactly the events of a list fired. -/
def Output.withFired (o : Output) (events : List String) : Output :=
  { o with events := o.events.map fun e => (e.1, events.contains e.1) }

/-- Marking an event adds it to those that have fired. -/
theorem Output.mark_withFired (o : Output) (events : List String) (event : String) :
    (o.withFired events).mark event = o.withFired (events ++ [event]) := by
  have h : ∀ name : String,
      (events.contains name || name == event) = (events ++ [event]).contains name := by
    intro name
    rw [Bool.eq_iff_iff, Bool.or_eq_true, beq_iff_eq, List.contains_iff_mem, List.contains_iff_mem,
      List.mem_append, List.mem_singleton]
  simp only [withFired, mark, List.map_map, Function.comp_def, h]

/-- An output is satisfied once all its events are among those that have fired. -/
theorem Output.satisfied_withFired (o : Output) (events : List String) :
    (o.withFired events).satisfied = true ↔ ∀ e ∈ o.events.keys, e ∈ events := by
  simp only [withFired, satisfied, Table.keys, List.all_map, List.all_eq_true, List.forall_mem_map,
    Function.comp_apply, List.contains_iff_mem]

/-- An output that is read has no event fired. -/
theorem Output.withFired_nil_of_ofJson {name : String} {raw : Json} {o : Output}
    (h : Output.ofJson name raw = .ok o) : o.withFired [] = o := by
  unfold Output.ofJson at h
  split at h
  · split at h
    · rename_i events subsumes _ _
      rw [Except.ok.injEq] at h
      subst h
      have hall : ∀ e ∈ Table.ofPairs (events.map fun e => (e.text, false)), false = e.2 := by
        intro e he
        obtain ⟨_, _, rfl⟩ := List.mem_map.mp (Table.mem_of_mem_ofPairs he)
        rfl
      simp only [withFired, Output.mk.injEq, and_true, List.contains_nil]
      exact Table.mapValues_eq_self (f := fun _ => false) hall
    · cases h
  · cases h

/-- Outputs are read one by one, and kept under their names. -/
theorem outputsOfMembers_eq_mapM (members : List (String × Json)) :
    outputsOfMembers members
      = members.mapM fun m => Output.ofJson m.1 m.2 >>= fun o => .ok (m.1, o) := by
  induction members with
  | nil => rfl
  | cons m rest ih =>
    rw [outputsOfMembers, List.mapM_cons, ih]
    cases Output.ofJson m.1 m.2 <;> rfl

/-- What is read from members, one by one and under their names. -/
theorem forall₂_outputsOfMembers {members : List (String × Json)} {outputs : List (String × Output)}
    (h : outputsOfMembers members = .ok outputs) :
    List.Forall₂ (fun m n => n.1 = m.1 ∧ Output.ofJson m.1 m.2 = .ok n.2) members outputs := by
  rw [outputsOfMembers_eq_mapM] at h
  exact (forall₂_mapM h).imp fun _ _ => of_keyed

/-- Every output of a list that is read was read from a member. -/
theorem of_outputsOfMembers {members : List (String × Json)} {outputs : List (String × Output)}
    (h : outputsOfMembers members = .ok outputs) {m : String × Output} (hm : m ∈ outputs) :
    ∃ raw, (m.1, raw) ∈ members ∧ Output.ofJson m.1 raw = .ok m.2 := by
  obtain ⟨⟨name, raw⟩, hraw, hname, hread⟩ := exists_of_forall₂ (forall₂_outputsOfMembers h) hm
  exact ⟨raw, hname ▸ hraw, hname ▸ hread⟩

namespace Pending

/-- The outputs with exactly the events of a list fired. -/
def withFired (p : Pending) (events : List String) : Pending :=
  p.mapOutputs (·.withFired events)

/-- Changing outputs changes the output of every name. -/
theorem get?_mapOutputs (p : Pending) (f : Output → Output) (name : String) :
    (p.mapOutputs f).outputs.get? name = (p.outputs.get? name).map f :=
  Table.get?_mapValues f p.outputs name

/-- Outputs are determined by their table. -/
theorem ext_outputs {p q : Pending} (h : p.outputs = q.outputs) : p = q := by
  cases p
  cases q
  cases h
  rfl

/-- Marking an event adds it to those that have fired. -/
theorem mark_withFired (p : Pending) (events : List String) (event : String) :
    (p.withFired events).mark event = p.withFired (events ++ [event]) := by
  apply ext_outputs
  simp only [mark, withFired, mapOutputs, Table.mapValues, List.map_map]
  exact List.map_congr_left fun m _ => Prod.ext rfl (m.2.mark_withFired events event)

/-- Marking events one after the other adds each of them to those that have fired. -/
theorem foldl_mark (p : Pending) (events : List String) :
    events.foldl mark p
      = p.mapOutputs fun o =>
          { o with events := o.events.map fun e => (e.1, e.2 || events.contains e.1) } := by
  induction events generalizing p with
  | nil =>
    apply ext_outputs
    simp [mapOutputs, Table.mapValues]
  | cons event rest ih =>
    rw [List.foldl_cons, ih]
    apply ext_outputs
    simp only [mark, mapOutputs, Table.mapValues, List.map_map, Output.mark, Function.comp_def,
      List.contains_cons, Bool.or_assoc]

/-- Of marked events only the set counts, not their order or number. -/
theorem foldl_mark_congr {events events' : List String} (h : ∀ e, e ∈ events ↔ e ∈ events')
    (p : Pending) : events.foldl mark p = events'.foldl mark p := by
  have hc : ∀ e, events.contains e = events'.contains e := fun e => by
    rw [Bool.eq_iff_iff, List.contains_iff_mem, List.contains_iff_mem, h]
  simp only [foldl_mark, hc]

/-- Outputs that are read have no event fired. -/
theorem withFired_nil_of_ofJson {raw : Json} {p : Pending} (h : Pending.ofJson raw = .ok p) :
    p.withFired [] = p := by
  unfold Pending.ofJson at h
  split at h
  · rename_i members
    cases hr : outputsOfMembers members with
    | error f => rw [hr] at h; cases h
    | ok outputs =>
      rw [hr] at h
      cases h
      apply ext_outputs
      refine Table.mapValues_eq_self (f := fun o : Output => o.withFired []) fun m hm => ?_
      obtain ⟨raw, _, ho⟩ := of_outputsOfMembers hr (Table.mem_of_mem_ofPairs hm)
      exact Output.withFired_nil_of_ofJson ho
  · cases h

/-- The outputs `q` are the outputs `p`, of which exactly those events have fired that `fired` holds
of. -/
structure Progress (p : Pending) (fired : String → Prop) (q : Pending) : Prop where
  names : q.outputs.keys = p.outputs.keys
  subsumes : q.outputs.mapValues (·.subsumes) = p.outputs.mapValues (·.subsumes)
  notify : q.outputs.mapValues (·.notify) = p.outputs.mapValues (·.notify)
  tracked : q.outputs.mapValues (·.events.keys) = p.outputs.mapValues (·.events.keys)
  flags : ∀ name o event, q.outputs.get? name = some o →
    (o.events.get? event = some true ↔ event ∈ o.events.keys ∧ fired event)

/-- The outputs with the events of a list fired are the outputs, with these events fired. -/
theorem progress_withFired (p : Pending) {events : List String} {fired : String → Prop}
    (h : ∀ event, event ∈ events ↔ fired event) : p.Progress fired (p.withFired events) where
  names := Table.keys_mapValues (fun o : Output => o.withFired events) p.outputs
  subsumes := by simp [withFired, mapOutputs, Table.mapValues, Output.withFired]
  notify := by simp [withFired, mapOutputs, Table.mapValues, Output.withFired]
  tracked := by simp [withFired, mapOutputs, Table.mapValues, Output.withFired, Table.keys]
  flags name o event ho := by
    rw [withFired, get?_mapOutputs, Option.map_eq_some_iff] at ho
    obtain ⟨o, -, rfl⟩ := ho
    have hkeys : (o.withFired events).events.keys = o.events.keys := by
      simp [Output.withFired, Table.keys]
    have hflag : (o.withFired events).events.get? event
        = (o.events.get? event).map fun _ => events.contains event :=
      Table.get?_mapEntries (fun e _ => events.contains e) o.events event
    rw [hflag, hkeys, ← h, ← Table.isSome_get?]
    cases o.events.get? event with
    | none => simp
    | some done => simp

/-- Once an event is marked, it has fired in all outputs that wait for it. -/
theorem fired_mark (p : Pending) {name event : String} {o : Output}
    (ho : (p.mark event).outputs.get? name = some o) (he : event ∈ o.events.keys) :
    o.events.get? event = some true := by
  rw [mark, get?_mapOutputs, Option.map_eq_some_iff] at ho
  obtain ⟨o, -, rfl⟩ := ho
  have hflag : (o.mark event).events.get? event
      = (o.events.get? event).map fun done => done || event == event :=
    Table.get?_mapEntries (fun e done => done || e == event) o.events event
  rw [← Table.isSome_get?, hflag, Option.isSome_map] at he
  rw [hflag, Option.map_eq_some_iff]
  obtain ⟨done, hdone⟩ := Option.isSome_iff_exists.mp he
  exact ⟨done, hdone, by simp⟩

/-! ### Winning by a list of events -/

/-- The events of the output of a name are all in a list. -/
def SatisfiedBy (p : Pending) (events : List String) (name : String) : Prop :=
  ∃ o, p.outputs.get? name = some o ∧ ∀ e ∈ o.events.keys, e ∈ events

/-- The output of a name is satisfied by a list of events and subsumes every other one that is. -/
def WinsBy (p : Pending) (events : List String) (name : String) : Prop :=
  p.SatisfiedBy events name ∧
    ∀ other, p.SatisfiedBy events other → other ≠ name → p.Subsumes name other

/-- With the events of a list fired, the satisfied outputs are those that the list satisfies. -/
theorem satisfied_withFired (p : Pending) (events : List String) (name : String) :
    (p.withFired events).Satisfied name ↔ p.SatisfiedBy events name := by
  simp only [Satisfied, SatisfiedBy, withFired, get?_mapOutputs, Option.map_eq_some_iff]
  constructor
  · rintro ⟨_, ⟨o, hg, rfl⟩, hs⟩
    exact ⟨o, hg, (o.satisfied_withFired events).mp hs⟩
  · rintro ⟨o, hg, hs⟩
    exact ⟨_, ⟨o, hg, rfl⟩, (o.satisfied_withFired events).mpr hs⟩

/-- Which events have fired does not change what outputs subsume. -/
theorem subsumes_withFired (p : Pending) (events : List String) (name other : String) :
    (p.withFired events).Subsumes name other ↔ p.Subsumes name other := by
  simp only [Subsumes, withFired, get?_mapOutputs, Option.map_eq_some_iff]
  constructor
  · rintro ⟨_, ⟨o, hg, rfl⟩, hs⟩
    exact ⟨o, hg, hs⟩
  · rintro ⟨o, hg, hs⟩
    exact ⟨_, ⟨o, hg, rfl⟩, hs⟩

/-- With the events of a list fired, the outputs that win are those that win by the list. -/
theorem wins_withFired (p : Pending) (events : List String) (name : String) :
    (p.withFired events).Wins name ↔ p.WinsBy events name := by
  simp only [Wins, WinsBy, satisfied_withFired, subsumes_withFired]

/-! ### The events in faults -/

/-- Keeping the first occurrence of each item and leaving items out can be done in either order. -/
theorem filter_foldl_addOne (q : String → Bool) (items done : List String) :
    (items.foldl addOne done).filter q = (items.filter q).foldl addOne (done.filter q) := by
  induction items generalizing done with
  | nil => rfl
  | cons x r ih =>
    rw [List.foldl_cons, ih]
    by_cases hq : q x = true
    · rw [List.filter_cons_of_pos hq, List.foldl_cons]
      congr 1
      unfold addOne
      by_cases hx : x ∈ done
      · rw [if_pos (List.contains_iff_mem.mpr hx),
          if_pos (List.contains_iff_mem.mpr (List.mem_filter.mpr ⟨hx, hq⟩))]
      · rw [if_neg (fun h => hx (List.contains_iff_mem.mp h)),
          if_neg (fun h => hx (List.mem_filter.mp (List.contains_iff_mem.mp h)).1),
          List.filter_append, List.filter_cons_of_pos hq, List.filter_nil]
    · rw [List.filter_cons_of_neg hq]
      congr 1
      unfold addOne
      split
      · rfl
      · rw [List.filter_append, List.filter_cons_of_neg hq, List.filter_nil, List.append_nil]

/-- The events that have fired are those of the list that the outputs wait for. -/
theorem firedEvents_withFired (p : Pending) (events : List String) :
    (p.withFired events).firedEvents = p.trackedEvents.filter events.contains := by
  have hone : ∀ o : Output, ((o.withFired events).events.filter (·.2)).map (·.1)
      = o.events.keys.filter events.contains := by
    intro o
    simp only [Output.withFired, Table.keys, List.filter_map, List.map_map, Function.comp_def]
  have hall : ((p.withFired events).outputs.flatMap fun o =>
      (o.2.events.filter (·.2)).map (·.1))
      = (p.outputs.flatMap fun o => o.2.events.keys).filter events.contains := by
    simp only [withFired, mapOutputs, Table.mapValues, List.flatMap_map, hone, List.filter_flatMap]
  rw [firedEvents, hall, trackedEvents, addUnique, addUnique, List.nil_append, List.nil_append,
    filter_foldl_addOne, List.filter_nil]

end Pending

end Tutor
