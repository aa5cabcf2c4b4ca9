import Tutor.Proofs.Flaws
import Tutor.Proofs.Service.Protocol

namespace Tutor

/-!
# All steps are read before the first one runs

An entry of a mapper spells a step by its name alone, or as an object with exactly a type and a
value. A mapper is compiled as a whole, so that an entry that is no step keeps the steps before it
from running.

* `Spells` — how a name and a value are written as an entry; `Misshapen` — what is wrong with an
  entry that spells nothing;
* `Step.ofJson_of_spells`, `Step.ofJson_of_misshapen` — what becomes of such entries, and
  `spells_or_misshapen`, which says that there are no others;
* `EntryFlaw` — why an entry is no step; `Step.reports` — reading an entry fails exactly with that;
* `Service.mapper_compiled_or_refused` — a mapper is compiled exactly if all entries are steps, and
  otherwise the first entry that is none is all that comes of an attempt.
-/

/-! ### Entries -/

/-- The name of a step. -/
def StepKind.name : StepKind → String
  | .input => "input"
  | .regex => "regex"
  | .shell => "shell"
  | .shellCustom => "shell_custom"
  | .waitMessage => "wait_message"
  | .wrappedOutput => "wrapped_output"
  | .checkEvents => "check_external_events"

/-- The steps are known by their names, and by nothing else. -/
theorem StepKind.ofName?_eq_some_iff {name : String} {kind : StepKind} :
    ofName? name = some kind ↔ kind.name = name := by
  constructor
  · intro h
    unfold ofName? at h
    split at h <;> cases h <;> rfl
  · rintro rfl
    cases kind <;> rfl

/-- The keys of an object with exactly a type and a value. -/
def StepKeys (members : List (String × Json)) : Prop :=
  ∀ key, key ∈ Table.keys members ↔ key = "type" ∨ key = "value"

/-- The entry gives a name and a value: it is the name alone, without a value, or an object with
exactly these two. -/
inductive Spells : Json → String → Json → Prop
  | short (name : String) : Spells (.str name) name .null
  | whole {members : List (String × Json)} {name : String} {value : Json}
    (hkeys : StepKeys members) (htype : Table.get? members "type" = some (.str name))
    (hvalue : Table.get? members "value" = some value) : Spells (.obj members) name value

/-- The entry gives no name and no value, for this reason. -/
inductive Misshapen : Json → Fault → Prop
  | shape {entry : Json} (hstring : ¬ entry.IsString) (hobject : ¬ entry.IsObject) :
    Misshapen entry (.stepShape entry)
  | keys {members : List (String × Json)} (h : ¬ StepKeys members) :
    Misshapen (.obj members) (.stepKeys (.obj members))
  | kind {members : List (String × Json)} (hkeys : StepKeys members)
    (h : ∀ name, Table.get? members "type" ≠ some (.str name)) :
    Misshapen (.obj members) (.stepKind (.obj members))

/-- The entry is no step, for this reason: it is misshapen, or it gives a name that no step has. -/
inductive EntryFlaw : Json → Fault → Prop
  | misshapen {entry : Json} {f : Fault} (h : Misshapen entry f) : EntryFlaw entry f
  | unknown {entry : Json} {name : String} {value : Json} (h : Spells entry name value)
    (hname : ∀ kind : StepKind, kind.name ≠ name) : EntryFlaw entry (.unknownStep name entry)

/-- The entry is a step. -/
def IsStep (entry : Json) : Prop :=
  ∃ (kind : StepKind) (value : Json), Spells entry kind.name value

/-- An entry gives a name and a value, or something is wrong with it. -/
theorem spells_or_misshapen (entry : Json) :
    (∃ name value, Spells entry name value) ∨ ∃ f, Misshapen entry f := by
  cases entry with
  | str name => exact .inl ⟨name, .null, .short name⟩
  | obj members =>
    by_cases hkeys : StepKeys members
    · by_cases htype : ∃ name, Table.get? members "type" = some (.str name)
      · obtain ⟨name, htype⟩ := htype
        have hvalue : (Table.get? members "value").isSome = true :=
          (Table.isSome_get? _ _).mpr ((hkeys "value").mpr (.inr rfl))
        obtain ⟨value, hvalue⟩ := Option.isSome_iff_exists.mp hvalue
        exact .inl ⟨name, value, .whole hkeys htype hvalue⟩
      · exact .inr ⟨_, .kind hkeys fun name h => htype ⟨name, h⟩⟩
    · exact .inr ⟨_, .keys hkeys⟩
  | null | bool _ | int _ | float _ | arr _ =>
    exact .inr ⟨_, .shape (fun ⟨_, h⟩ => nomatch h) fun ⟨_, h⟩ => nomatch h⟩

/-! ### Reading an entry -/

/-- The keys are those of a step. -/
theorem hasStepKeys_iff (members : List (String × Json)) :
    hasStepKeys members = true ↔ StepKeys members := by
  unfold hasStepKeys StepKeys
  simp only [Bool.and_eq_true, Table.has_iff_mem_keys, List.all_eq_true, Bool.or_eq_true,
    beq_iff_eq]
  constructor
  · rintro ⟨⟨htype, hvalue⟩, hall⟩ key
    constructor
    · intro hkey
      obtain ⟨m, hm, rfl⟩ := List.mem_map.mp hkey
      exact hall m hm
    · rintro (rfl | rfl)
      · exact htype
      · exact hvalue
  · intro h
    exact ⟨⟨(h "type").mpr (.inl rfl), (h "value").mpr (.inr rfl)⟩,
      fun m hm => (h m.1).mp (List.mem_map_of_mem hm)⟩

/-- The name and the value that an entry gives are those of an object. -/
theorem normalizeStep_of_spells {entry : Json} {name : String} {value : Json}
    (h : Spells entry name value) :
    ∃ normal, normalizeStep entry = .ok normal ∧ normal.getD "type" .null = .str name ∧
      normal.getD "value" .null = value := by
  cases h with
  | short => exact ⟨_, rfl, rfl, rfl⟩
  | @whole members _ _ hkeys htype hvalue =>
    have htype' : (Json.obj members).getD "type" .null = .str name :=
      congrArg (·.getD .null) htype
    refine ⟨.obj members, ?_, htype', congrArg (·.getD .null) hvalue⟩
    unfold normalizeStep
    simp only [(hasStepKeys_iff members).mpr hkeys, htype']
    rfl

/-- An entry that is misshapen has no such object. -/
theorem normalizeStep_of_misshapen {entry : Json} {f : Fault} (h : Misshapen entry f) :
    normalizeStep entry = .error f := by
  cases h with
  | shape hstring hobject =>
    cases entry with
    | str name => exact absurd ⟨name, rfl⟩ hstring
    | obj members => exact absurd ⟨members, rfl⟩ hobject
    | null | bool _ | int _ | float _ | arr _ => rfl
  | @keys members hkeys =>
    unfold normalizeStep
    simp only [Bool.eq_false_iff.mpr (mt (hasStepKeys_iff members).mp hkeys)]
    rfl
  | @kind members hkeys htype =>
    unfold normalizeStep
    simp only [(hasStepKeys_iff members).mpr hkeys, Bool.not_true, Bool.false_eq_true, if_false]
    split
    · rename_i name hname
      -- the name would have to be that of a member, since the default is null
      cases hget : Table.get? members "type" with
      | none =>
        have hnull : (Json.obj members).getD "type" .null = .null := congrArg (·.getD .null) hget
        exact absurd (hnull.symm.trans hname) nofun
      | some kind =>
        have hkind : (Json.obj members).getD "type" .null = kind := congrArg (·.getD .null) hget
        exact absurd (hget.trans (congrArg some (hkind.symm.trans hname))) (htype name)
    · rfl

/-- An entry that gives a name is a step with the value, if there is a step of the name. -/
theorem Step.ofJson_of_spells {entry : Json} {name : String} {value : Json}
    (h : Spells entry name value) :
    ofJson entry =
      match StepKind.ofName? name with
      | some kind => .ok ⟨kind, value⟩
      | none => .error (.unknownStep name entry) := by
  obtain ⟨normal, hnormal, htype, hvalue⟩ := normalizeStep_of_spells h
  have hname : (normal.getD "type" .null).text = name := congrArg Json.text htype
  show (normalizeStep entry >>= fun normal => _) = _
  rw [hnormal, ← hvalue, ← hname]
  rfl

/-- An entry that is misshapen is refused for that. -/
theorem Step.ofJson_of_misshapen {entry : Json} {f : Fault} (h : Misshapen entry f) :
    ofJson entry = .error f := by
  show (normalizeStep entry >>= fun normal => _) = _
  rw [normalizeStep_of_misshapen h]
  rfl

/-- An entry is read as a step exactly if it gives the name and the value of the step. -/
theorem Step.ofJson_eq_ok_iff {entry : Json} {step : Step} :
    ofJson entry = .ok step ↔ Spells entry step.kind.name step.value := by
  constructor
  · intro h
    rcases spells_or_misshapen entry with ⟨name, value, hspells⟩ | ⟨f, hmisshapen⟩
    · rw [ofJson_of_spells hspells] at h
      split at h
      · rename_i kind hkind
        cases h
        rwa [StepKind.ofName?_eq_some_iff.mp hkind]
      · cases h
    · rw [ofJson_of_misshapen hmisshapen] at h
      cases h
  · intro h
    rw [ofJson_of_spells h, StepKind.ofName?_eq_some_iff.mpr rfl]

/-- Reading an entry fails exactly with what is wrong with it. -/
theorem Step.reports (entry : Json) : Reports (ofJson entry) (EntryFlaw entry) := by
  intro f
  constructor
  · intro h
    -- a failure is that of the shape, or else that of the name
    rcases spells_or_misshapen entry with ⟨name, value, hspells⟩ | ⟨f', hmisshapen⟩
    · rw [ofJson_of_spells hspells] at h
      split at h
      · cases h
      · rename_i hname
        cases h
        refine .unknown hspells fun kind hkind => ?_
        rw [StepKind.ofName?_eq_some_iff.mpr hkind] at hname
        cases hname
    · rw [ofJson_of_misshapen hmisshapen] at h
      cases h
      exact .misshapen hmisshapen
  · intro h
    cases h with
    | misshapen h => exact ofJson_of_misshapen h
    | @unknown name _ hspells hname =>
      cases hkind : StepKind.ofName? name with
      | some kind => exact absurd (StepKind.ofName?_eq_some_iff.mp hkind) (hname kind)
      | none => rw [ofJson_of_spells hspells, hkind]

/-- Nothing is wrong with an entry exactly if it is a step. -/
theorem fine_entryFlaw (entry : Json) : Fine (EntryFlaw entry) ↔ IsStep entry := by
  rw [← (Step.reports entry).ok_iff]
  constructor
  · rintro ⟨step, h⟩
    exact ⟨step.kind, step.value, Step.ofJson_eq_ok_iff.mp h⟩
  · rintro ⟨kind, value, h⟩
    exact ⟨⟨kind, value⟩, Step.ofJson_eq_ok_iff.mpr h⟩

/-! ### What is said of an entry that is no step -/

/-- A misshapen entry gives no name. -/
theorem Misshapen.not_spells {entry : Json} {f : Fault} (h : Misshapen entry f) :
    ¬ ∃ name value, Spells entry name value := by
  rintro ⟨name, value, hspells⟩
  obtain ⟨normal, hnormal, -⟩ := normalizeStep_of_spells hspells
  rw [normalizeStep_of_misshapen h] at hnormal
  cases hnormal

/-- The fault is that of an entry that is no step: it tells a name that no step has from a wrong
shape, and its wording shows the entry. -/
structure Refuses (f : Fault) (entry : Json) : Prop where
  reason : EntryFlaw entry f
  unknown : f.kind = .unknownStepType ↔ ∃ name value, Spells entry name value
  plain : f.kind = .invalidPipelineSpec ↔ ¬ ∃ name value, Spells entry name value
  shown : ∃ complaint, f.message = Wording.stepSpec complaint entry

/-- A wrong shape is told as such. -/
theorem Misshapen.kind_eq {entry : Json} {f : Fault} (h : Misshapen entry f) :
    f.kind = .invalidPipelineSpec := by
  cases h <;> rfl

/-- What is wrong with an entry is told as such. -/
theorem EntryFlaw.refuses {entry : Json} {f : Fault} (h : EntryFlaw entry f) : Refuses f entry := by
  cases h with
  | misshapen h =>
    have hspells : ¬ ∃ name value, Spells entry name value := h.not_spells
    have hkind : f.kind = .invalidPipelineSpec := h.kind_eq
    have hother : f.kind ≠ .unknownStepType := by
      rw [hkind]
      decide
    refine ⟨.misshapen h, iff_of_false hother hspells, iff_of_true hkind hspells, ?_⟩
    cases h <;> exact ⟨_, rfl⟩
  | @unknown name value hspells hname =>
    have hexists : ∃ name value, Spells entry name value := ⟨name, value, hspells⟩
    have hother : (Fault.unknownStep name entry).kind ≠ .invalidPipelineSpec := by
      show Kind.unknownStepType ≠ .invalidPipelineSpec
      decide
    exact ⟨.unknown hspells hname, iff_of_true rfl hexists,
      iff_of_false hother fun h => h hexists, _, rfl⟩

/-! ### Mappers -/

namespace Service

/-- A mapper that cannot be read leaves everything as it is. -/
theorem perform_compilePipeline_error {mapper : List Json} {f : Fault}
    (h : mapper.mapM Step.ofJson = .error f) (key : TaskKey) (w : World) :
    (compilePipeline key mapper).perform w = (.error (.fault f), w) := by
  unfold compilePipeline
  rw [Act.perform_bind_error (Act.perform_ofFault_error h w)]

variable {key : TaskKey} {w : World} {t : Task}

/-- An attempt at a task whose mapper cannot be read leaves everything as it is, too: the mapper is
all that is looked at. -/
theorem perform_attempt_unreadable {f : Fault} (ht : w.catalog.task? key.1 key.2 = some t)
    (hsteps : t.mapper.mapM Step.ofJson = .error f) (input : String) :
    (attempt key input).perform w = (.error (.fault f), w) := by
  unfold attempt evaluate
  rw [Act.perform_bind_ok (Catalog.perform_task_eq ht),
    Act.perform_bind_error (Act.perform_bind_error (perform_compilePipeline_error hsteps key w))]

/-- **All steps or none.** A mapper is compiled exactly if all its entries are steps, and then there
is one step for each entry, in order, and nothing has happened but a record in the journal.
Otherwise it fails for the first entry that is no step, and so does an attempt at a task with this
mapper, which leaves the world exactly as it was: no program has been called and nothing has been
drawn. -/
theorem mapper_compiled_or_refused (key : TaskKey) (mapper : List Json) (w : World) :
    ((∃ steps w', (compilePipeline key mapper).perform w = (.ok steps, w')) ↔
      ∀ entry ∈ mapper, IsStep entry) ∧
    (∀ steps w', (compilePipeline key mapper).perform w = (.ok steps, w') →
      List.Forall₂ (fun entry step => Spells entry step.kind.name step.value) mapper steps ∧
        ∃ j, w' = { w with journal := j }) ∧
    ∀ e w', (compilePipeline key mapper).perform w = (.error e, w') →
      w' = w ∧
      (∃ before entry after f, mapper = before ++ entry :: after ∧
        (∀ earlier ∈ before, IsStep earlier) ∧ Refuses f entry ∧ e = .fault f) ∧
      ∀ t input, w.catalog.task? key.1 key.2 = some t → t.mapper = mapper →
        (attempt key input).perform w = (.error e, w) := by
  have hreports : Reports (mapper.mapM Step.ofJson) (First (mapper.map EntryFlaw)) :=
    .mapM Step.reports mapper
  cases hsteps : mapper.mapM Step.ofJson with
  | ok steps =>
    obtain ⟨j, hcompile⟩ := perform_compilePipeline hsteps key w
    have hfine : ∀ entry ∈ mapper, IsStep entry := fun entry hentry =>
      (fine_entryFlaw entry).mp (fine_first.mp (hreports.ok_iff.mp ⟨steps, hsteps⟩) _
        (List.mem_map_of_mem hentry))
    refine ⟨iff_of_true ⟨steps, _, hcompile⟩ hfine, fun steps' w' h => ?compiled,
      fun e w' h => ?refused⟩
    case compiled =>
      rw [hcompile] at h
      cases h
      exact ⟨(forall₂_mapM hsteps).imp fun _ _ => Step.ofJson_eq_ok_iff.mp, j, rfl⟩
    case refused =>
      -- it was compiled
      rw [hcompile] at h
      cases h
  | error f =>
    have hcompile := perform_compilePipeline_error hsteps key w
    -- the failure is that of an entry before which all are steps
    obtain ⟨before, entry, after, hsplit, hbefore, hflaw⟩ :=
      first_map.mp ((hreports f).mp hsteps)
    have hentry : ¬ IsStep entry := fun h => (fine_entryFlaw entry).mpr h f hflaw
    have hmem : entry ∈ mapper := hsplit ▸ List.mem_append_right _ List.mem_cons_self
    have hfails : ∀ steps w', (compilePipeline key mapper).perform w ≠ (.ok steps, w') := by
      intro steps w' h
      rw [hcompile] at h
      cases h
    refine ⟨iff_of_false (fun ⟨steps, w', h⟩ => hfails steps w' h) fun h => hentry (h entry hmem),
      fun steps w' h => absurd h (hfails steps w'), fun e w' h => ?refused⟩
    case refused =>
      rw [hcompile] at h
      cases h
      refine ⟨rfl, ⟨before, entry, after, f, hsplit,
        fun earlier h => (fine_entryFlaw earlier).mp (hbefore earlier h), hflaw.refuses, rfl⟩,
        fun t input ht hmapper => perform_attempt_unreadable ht (hmapper ▸ hsteps) input⟩

/-- A program would be run and a message drawn, but the third entry is no step. -/
theorem mapper_compiled_or_refused_dance :
    let key : TaskKey := ("l", "t")
    let entry : Json := .obj [("type", .str "dance"), ("value", .null)]
    let t : Task :=
      { id := "t", prompt := "Try", input := ⟨"text", []⟩
        mapper := [.str "shell", .str "wait_message", entry, .int 7], effects := [] }
    let lesson : Lesson := ⟨"l", "A lesson", "t", ["console"], [("t", t)]⟩
    let w : World := World.fresh Host.bare ⟨[lesson], [], none⟩
    (attempt key "ls").perform w = (.error (.fault (.unknownStep "dance" entry)), w) := by
  intro key entry t lesson w
  have hcompile : (compilePipeline key t.mapper).perform w
      = (.error (.fault (.unknownStep "dance" entry)), w) := perform_compilePipeline_error rfl key w
  obtain ⟨-, -, hrefused⟩ := mapper_compiled_or_refused key t.mapper w
  obtain ⟨-, -, hattempt⟩ := hrefused _ w hcompile
  exact hattempt t "ls" rfl rfl

end Service

end Tutor
