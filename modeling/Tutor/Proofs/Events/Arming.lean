import Tutor.Proofs.Events.Outputs
import Tutor.Proofs.Events.Waiting

namespace Tutor

/-!
# Arming is all or nothing

A task is armed with outputs that are read from a value. All of them are read before anything
changes, so that an output with a flaw leaves the tracker as it was, whatever came before that
output.

* `Output.Acceptable`, `AcceptableOutputs` — the shapes of an output and of all outputs;
* `Output.flaw`, `outputsFlaw` — what is looked at, in order, with the faults that it leads to;
* `Output.ReadFrom`, `Pending.ReadFrom` — outputs as they are written, with no event fired;
* `Pending.trackedEvents_eq` — the events that outputs wait for are those that they name, each once;
* `Tracker.arming_all_or_nothing` — arming fails and changes nothing at all, or it replaces the
  outputs of the task, and of no other, and tells the events that are waited for.
-/

/-! ### Shapes and places -/

/-- An output is an object, and its events and what it subsumes are lists unless they are absent. -/
structure Output.Acceptable (raw : Json) : Prop where
  shape : raw.IsObject
  lists : raw.AbsentOr "events" Json.IsList ∧ raw.AbsentOr "subsumes" Json.IsList

/-- The value is an object of acceptable outputs. -/
structure AcceptableOutputs (spec : Json) : Prop where
  shape : spec.IsObject
  outputs : ∀ m ∈ spec.fields, Output.Acceptable m.2

/-- The flaws of an output: its shape, its lists. -/
def Output.flaw (name : String) (raw : Json) : Fault → Prop :=
  First
    [Unless raw.IsObject (.outputShape name raw),
     Unless (raw.AbsentOr "events" Json.IsList ∧ raw.AbsentOr "subsumes" Json.IsList)
      (.outputLists name)]

/-- The flaws of outputs: the shape of the whole, and then the outputs in order. -/
def outputsFlaw (spec : Json) : Fault → Prop :=
  First (Unless spec.IsObject (.outputsShape spec) ::
    spec.fields.map fun m => Output.flaw m.1 m.2)

/-- An output is fine exactly if it is acceptable. -/
theorem Output.fine_flaw (name : String) (raw : Json) : Fine (flaw name raw) ↔ Acceptable raw := by
  simp only [flaw, fine_first, List.forall_mem_cons, fine_unless]
  exact ⟨fun ⟨hshape, hlists, _⟩ => ⟨hshape, hlists⟩,
    fun ⟨hshape, hlists⟩ => ⟨hshape, hlists, nofun⟩⟩

/-- Outputs are fine exactly if they are acceptable. -/
theorem fine_outputsFlaw (spec : Json) : Fine (outputsFlaw spec) ↔ AcceptableOutputs spec := by
  simp only [outputsFlaw, fine_first, List.forall_mem_cons, fine_unless, List.forall_mem_map,
    Output.fine_flaw]
  exact ⟨fun ⟨hshape, houtputs⟩ => ⟨hshape, houtputs⟩, fun ⟨hshape, houtputs⟩ => ⟨hshape, houtputs⟩⟩

/-- Every flaw of outputs is one of the task. -/
theorem kind_of_outputsFlaw {spec : Json} {f : Fault} (h : outputsFlaw spec f) :
    f.kind = .invalidTaskSpec := by
  rcases first_cons.mp h with ⟨-, rfl⟩ | ⟨-, h⟩
  · rfl
  · obtain ⟨_, m, _, -, -, h⟩ := first_map.mp h
    rcases first_cons.mp h with ⟨-, rfl⟩ | ⟨-, h⟩
    · rfl
    · rcases first_cons.mp h with ⟨-, rfl⟩ | ⟨-, h⟩
      · rfl
      · cases h

/-! ### Reading reports the first flaw -/

/-- A list that may be absent is there exactly if the value is a list. -/
theorem listUnder_eq_some_iff {raw : Json} {key : String} {items : List Json} :
    listUnder raw key = some items ↔ raw.getD key (.arr []) = .arr items := by
  unfold listUnder
  split
  · rename_i found hfound
    rw [hfound, Option.some.injEq, Json.arr.injEq]
  · rename_i hother
    exact ⟨nofun, fun h => absurd h (hother items)⟩

/-- Reading an output fails with its first flaw. -/
theorem Output.reports (name : String) (raw : Json) :
    Reports (ofJson name raw) (flaw name raw) := by
  unfold ofJson flaw
  rw [Json.absentOr_iff ⟨[], rfl⟩, Json.absentOr_iff ⟨[], rfl⟩]
  cases raw with
  | obj members =>
    refine .pass ⟨members, rfl⟩ ?_
    dsimp only
    split
    · rename_i events subsumes hevents hsubsumes
      exact .pass ⟨⟨events, listUnder_eq_some_iff.mp hevents⟩,
        subsumes, listUnder_eq_some_iff.mp hsubsumes⟩ (.done _)
    · rename_i hlists
      refine .stop fun ⟨⟨events, hevents⟩, subsumes, hsubsumes⟩ => ?_
      exact hlists events subsumes (listUnder_eq_some_iff.mpr hevents)
        (listUnder_eq_some_iff.mpr hsubsumes)
  | null | bool _ | int _ | float _ | str _ | arr _ => exact .stop fun ⟨_, h⟩ => nomatch h

/-- Reading outputs fails with the first flaw. -/
theorem Pending.reports (spec : Json) : Reports (ofJson spec) (outputsFlaw spec) := by
  unfold ofJson outputsFlaw
  cases spec with
  | obj members =>
    refine .pass ⟨members, rfl⟩ ?_
    dsimp only
    rw [outputsOfMembers_eq_mapM]
    have hall := Reports.mapM
      (fun m : String × Json => (Output.reports m.1 m.2).map (m.1, ·)) members
    exact hall.map ofOutputs
  | null | bool _ | int _ | float _ | str _ | arr _ => exact .stop fun ⟨_, h⟩ => nomatch h

/-! ### What is read -/

/-- The texts that a list under a key stands for; none if there is no list. -/
def Json.textsUnder (raw : Json) (key : String) : List String :=
  (raw.getD key (.arr [])).listed.map Json.text

/-- An output as it is written: each event and each output that it subsumes is listed once, and no
event has fired. -/
structure Output.ReadFrom (raw : Json) (o : Output) : Prop where
  events : o.events.keys = (raw.textsUnder "events").eraseDups
  idle : ∀ e ∈ o.events, e.2 = false
  subsumes : o.subsumes = (raw.textsUnder "subsumes").eraseDups
  notify : o.notify = (raw.getD "notify" (.bool false)).isTruthy

/-- The outputs that a value names. Of several under one name the last one counts. -/
def outputsIn (spec : Json) : Table String Json :=
  Table.ofPairs spec.fields

/-- An output is read as it is written. -/
theorem Output.readFrom {name : String} {raw : Json} {o : Output} (h : ofJson name raw = .ok o) :
    ReadFrom raw o := by
  unfold ofJson at h
  split at h
  · split at h
    · rename_i events subsumes hevents hsubsumes
      cases h
      refine ⟨?_, fun e he => ?_, ?_, rfl⟩
      · rw [Table.keys_ofPairs, List.map_map]
        unfold Json.textsUnder
        rw [listUnder_eq_some_iff.mp hevents]
        rfl
      · obtain ⟨_, _, rfl⟩ := List.mem_map.mp (Table.mem_of_mem_ofPairs he)
        rfl
      · rw [addUnique_eq_eraseDups, List.nil_append]
        unfold Json.textsUnder
        rw [listUnder_eq_some_iff.mp hsubsumes]
        rfl
    · cases h
  · cases h

/-- Outputs as they are written, in order. -/
def Pending.ReadFrom (spec : Json) (p : Pending) : Prop :=
  List.Forall₂ (fun m n => n.1 = m.1 ∧ Output.ReadFrom m.2 n.2) (outputsIn spec) p.outputs

/-- Outputs are read as they are written. -/
theorem Pending.readFrom {spec : Json} {p : Pending} (h : ofJson spec = .ok p) :
    ReadFrom spec p := by
  unfold ofJson at h
  split at h
  · rename_i members
    cases hread : outputsOfMembers members with
    | error f => rw [hread] at h; cases h
    | ok outputs =>
      rw [hread] at h
      cases h
      exact Table.forall₂_ofPairs ((forall₂_outputsOfMembers hread).imp fun m n hm =>
        ⟨hm.1, Output.readFrom hm.2⟩)
  · cases h

/-! ### Events that are waited for -/

/-- The events that outputs wait for are those that they name, in order and each once. -/
theorem Pending.trackedEvents_eq {spec : Json} {p : Pending} (h : ReadFrom spec p) :
    p.trackedEvents
      = ((outputsIn spec).flatMap fun m => m.2.textsUnder "events").eraseDups := by
  unfold ReadFrom at h
  unfold trackedEvents
  rw [addUnique_eq_eraseDups, List.nil_append]
  generalize outputsIn spec = members at h
  generalize p.outputs = outputs at h
  induction h with
  | nil => rfl
  | cons hm _ ih =>
    rw [List.flatMap_cons, List.flatMap_cons, hm.2.events]
    -- what an output names twice is dropped before the outputs are put together
    exact eraseDups_append_congr (eraseDups_eraseDups _) ih

/-- An output without events that have fired is satisfied exactly if it has no events. -/
theorem Output.satisfied_iff_of_idle {o : Output} (h : ∀ e ∈ o.events, e.2 = false) :
    o.satisfied = true ↔ o.events.keys = [] := by
  unfold satisfied
  rw [List.all_eq_true, Table.keys, List.map_eq_nil_iff, List.eq_nil_iff_forall_not_mem]
  refine forall₂_congr fun e he => ?_
  rw [h e he]
  exact iff_of_false Bool.false_ne_true id

/-- No events are waited for exactly if all outputs are satisfied as they are. -/
theorem Pending.trackedEvents_eq_nil_iff {spec : Json} {p : Pending} (h : ReadFrom spec p) :
    p.trackedEvents = [] ↔ ∀ n ∈ p.outputs, n.2.satisfied = true := by
  have hidle : ∀ n ∈ p.outputs, ∀ e ∈ n.2.events, e.2 = false := fun n hn => by
    obtain ⟨m, -, -, hread⟩ := exists_of_forall₂ h hn
    exact hread.idle
  have hnil : ∀ l : List String, l.eraseDups = [] ↔ l = [] := fun l => by
    simp only [List.eq_nil_iff_forall_not_mem, List.mem_eraseDups]
  unfold trackedEvents
  rw [addUnique_eq_eraseDups, List.nil_append, hnil, List.flatMap_eq_nil_iff]
  exact forall₂_congr fun n hn => (Output.satisfied_iff_of_idle (hidle n hn)).symm

/-! ### The main result -/

namespace Tracker

/-- The task has been given these outputs, and nothing else has changed but the journal: no other
task has other outputs, and those that were armed keep their order. -/
structure Rearmed (key : TaskKey) (p : Pending) (w w' : World) : Prop where
  replaced : w'.tracker.state? key = some p
  others : ∀ other, other ≠ key → w'.tracker.state? other = w.tracker.state? other
  order : w'.tracker.armedPairs =
    if key ∈ w.tracker.armedPairs then w.tracker.armedPairs else w.tracker.armedPairs ++ [key]
  rest : w' = { w with tracker := w'.tracker, journal := w'.journal }

/-- **Arming is all or nothing.** A task is armed exactly if all outputs are acceptable. If not, the
first flaw is the fault, which is one of the task, and the world is exactly as it was, with the
outputs of an earlier arming and the events that have fired since. Otherwise the task has the
outputs as they are written, none of whose events has fired, and no other task is touched. The
answer lists the events that the outputs name, in order and each once, so that it is empty exactly
if every output is satisfied as it is. -/
theorem arming_all_or_nothing (key : TaskKey) (spec : Json) (w : World) :
    ((∃ events w', (armTask key spec).perform w = (.ok events, w')) ↔ AcceptableOutputs spec) ∧
    (∀ e w', (armTask key spec).perform w = (.error e, w') →
      w' = w ∧ ∃ f, e = .fault f ∧ f.kind = .invalidTaskSpec ∧ outputsFlaw spec f) ∧
    ∀ events w', (armTask key spec).perform w = (.ok events, w') →
      events.Nodup ∧
      events = ((outputsIn spec).flatMap fun m => m.2.textsUnder "events").eraseDups ∧
      ∃ p, Rearmed key p w w' ∧ Pending.ReadFrom spec p ∧
        (events = [] ↔ ∀ n ∈ p.outputs, n.2.satisfied = true) := by
  have hreports := Pending.reports spec
  cases hread : Pending.ofJson spec with
  | error f =>
    -- the outputs have a flaw, and nothing is done
    have hflaw : outputsFlaw spec f := (hreports f).mp hread
    have hperform := perform_armTask_error hread key w
    refine ⟨iff_of_false ?_ fun h => (fine_outputsFlaw spec).mpr h f hflaw, fun e w' h => ?_,
      fun events w' h => ?_⟩
    · rintro ⟨events, w', h⟩
      rw [hperform] at h
      cases h
    · rw [hperform] at h
      cases h
      exact ⟨rfl, f, rfl, kind_of_outputsFlaw hflaw, hflaw⟩
    · rw [hperform] at h
      cases h
  | ok p =>
    -- the outputs take the place of those that the task had
    have houtputs := Pending.readFrom hread
    obtain ⟨j, hperform⟩ := perform_armTask_ok hread key w
    refine ⟨iff_of_true ⟨_, _, hperform⟩
      ((fine_outputsFlaw spec).mp (hreports.ok_iff.mp ⟨p, hread⟩)), fun e w' h => ?_,
      fun events w' h => ?_⟩
    · rw [hperform] at h
      cases h
    · rw [hperform] at h
      cases h
      have hevents := Pending.trackedEvents_eq houtputs
      refine ⟨hevents ▸ nodup_eraseDups _, hevents, p, ⟨?_, fun other hother => ?_, ?_, rfl⟩,
        houtputs, Pending.trackedEvents_eq_nil_iff houtputs⟩
      · exact (state?_arm w.tracker key p key).trans (if_pos rfl)
      · exact (state?_arm w.tracker key p other).trans (if_neg fun h => hother h.symm)
      · exact armedPairs_arm w.tracker key p

/-- A task that waits for two events, one of which has fired, is armed again: with an output whose
events are no list it stays as it is, and with other outputs it waits for their events. -/
theorem arming_all_or_nothing_again :
    let key : TaskKey := ("l", "t")
    let p : Pending := .ofOutputs [("done", ⟨[("seen", false), ("heard", false)], [], true⟩)]
    let w : World :=
      { World.fresh Host.bare .empty with tracker := (Tracker.empty.arm key p).mark key "seen" }
    let bad : Json := .obj [("idle", .obj []), ("done", .obj [("events", .str "seen")])]
    let good : Json :=
      .obj [("idle", .obj [("events", .arr [])]),
        ("one", .obj [("events", .arr [.str "seen", .int 7])]),
        ("two", .obj [("events", .arr [.str "7", .str "heard", .str "seen"])])]
    (armTask key bad).perform w = (.error (.fault (.outputLists "done")), w) ∧
      ∃ w' q, (armTask key good).perform w = (.ok ["seen", "7", "heard"], w') ∧
        Rearmed key q w w' := by
  intro key p w bad good
  have hbad : ((armTask key bad).perform w).1 = .error (.fault (.outputLists "done")) := rfl
  have hgood : ((armTask key good).perform w).1 = .ok ["seen", "7", "heard"] := rfl
  obtain ⟨-, hfails, -⟩ := arming_all_or_nothing key bad w
  obtain ⟨-, -, hsucceeds⟩ := arming_all_or_nothing key good w
  obtain ⟨hsame, -⟩ := hfails _ _ (Prod.ext hbad rfl)
  obtain ⟨-, -, q, hq, -⟩ := hsucceeds _ _ (Prod.ext hgood rfl)
  exact ⟨Prod.ext hbad hsame, _, q, Prod.ext hgood rfl, hq⟩

end Tracker

end Tutor
