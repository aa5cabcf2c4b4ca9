import Tutor.Proofs.Service.Agreement

namespace Tutor

/-!
# The journal is only written

Operations of the service write to the journal and never look at it: in worlds that differ in
nothing else they end in the same way, and they leave worlds that differ in nothing else.

* `World.Alike` — worlds that differ at most in the journal;
* `Act.Blind` — the operation takes no notice of the journal;
* `Service.blind_describe`, `Service.blind_attempt`, `Service.blind_notify` — this holds of what a
  player asks for.
-/

/-- The world without its journal. -/
def World.unjournaled (w : World) : World :=
  { w with journal := [] }

/-- The worlds differ at most in the journal. -/
def World.Alike (w u : World) : Prop :=
  w.unjournaled = u.unjournaled

theorem World.Alike.trans {w u v : World} (h : w.Alike u) (h' : u.Alike v) : w.Alike v :=
  Eq.trans h h'

/-- Worlds that differ at most in the journal have the same lessons. -/
theorem World.Alike.catalog {w u : World} (h : w.Alike u) : w.catalog = u.catalog := by
  have hsame : w.unjournaled.catalog = u.unjournaled.catalog := congrArg World.catalog h
  exact hsame

namespace Act

variable {α : Type}

/-- The operation takes no notice of the journal. -/
abbrev Blind (a : Act α) : Prop :=
  Agree World.Alike a a

/-- Writing to the journal takes no notice of what is in it. -/
theorem blind_note (e : Entry) : Blind (note e) := Respects.of_erase fun _ => ⟨rfl, rfl⟩

/-- Drawing a number takes no notice of the journal. -/
theorem blind_draw (count : Nat) : Blind (draw count) := Respects.of_erase fun _ => ⟨rfl, rfl⟩

/-- The basic changes take no notice of the journal. -/
theorem discreet_alike : Discreet World.Alike where
  environment h := congrArg (fun v => v.host.environment) h
  files h := congrArg (fun v => v.host.files) h
  connection h := congrArg (fun v => v.connection) h
  tracker h := congrArg (fun v => v.tracker) h
  note := blind_note
  call _ := Respects.of_erase fun _ => ⟨rfl, rfl⟩
  setFiles _ := Respects.of_erase fun _ => ⟨rfl, rfl⟩
  connect _ := Respects.of_erase fun _ => ⟨rfl, rfl⟩
  update _ := Respects.of_erase fun _ => ⟨rfl, rfl⟩

end Act

open Act (Agree Blind discreet_alike)

/-- Looking a task up takes no notice of the journal. -/
theorem Catalog.blind_task (key : TaskKey) : Blind (task key) := by
  have hlookup : Blind (lookup key.1) := by
    unfold lookup
    refine Act.Respects.get_bind fun w u h => ?_
    rw [h.catalog]
    exact Agree.ite ((Act.blind_note _).bind fun _ => Agree.pure _) (Agree.pure _)
  unfold task
  refine hlookup.bind fun found => ?_
  split
  · exact Agree.pure _
  · exact Agree.refuse _

namespace Service

/-- Describing a task takes no notice of the journal if announcements do not. -/
theorem blind_describe {b : Boundary} (hb : ∀ events, Blind (b.announce events)) (key : TaskKey) :
    Blind (describe b key) := by
  have htask := (Catalog.blind_task key).follows (E := Eq) fun _ => rfl
  refine (follows_describe discreet_alike (fun _ => rfl) (fun events => ?_) ?_).agree
  · exact (hb events).follows fun _ => rfl
  · exact htask.mono fun t t' ht => ⟨congrArg Task.prompt ht.symm, congrArg Task.input ht.symm⟩

/-- Passing an event on takes no notice of the journal if signals do not. -/
theorem blind_notify {b : Boundary} (hb : ∀ key, Blind (b.signal key)) (event : String) :
    Blind (notify b event) := by
  refine (follows_notify discreet_alike (fun _ => rfl) (fun key => ?_) event).agree
  exact (hb key).follows fun _ => rfl

/-- An attempt takes no notice of the journal. -/
theorem blind_attempt (key : TaskKey) (input : String) : Blind (attempt key input) := by
  unfold attempt evaluate
  refine (Catalog.blind_task key).bind fun t => Agree.bind ?_ fun result => ?_
  · refine (respects_compilePipeline discreet_alike key t.mapper).bind fun steps => ?_
    exact respects_runPipeline discreet_alike Act.blind_draw key steps input
  · exact respects_conclude discreet_alike key t result

end Service

end Tutor
