import Tutor.Proofs.Course.Documents
import Tutor.Proofs.Course.Loading

namespace Tutor

/-!
# Which documents are accepted

A document of lessons is accepted if every part of it has the shape that is asked for. Otherwise the
parts are looked at in a fixed order, and the first one with a flaw tells why the document is
refused.

* `InputSpec.Acceptable`, `Effect.Acceptable`, `Task.Acceptable`, `Lesson.Acceptable`,
  `AcceptableDocument` — the shapes;
* `InputSpec.flaw`, `Effect.flaw`, `Task.flaw`, `Lesson.flaw`, `documentFlaw` — the places in the
  order in which they are looked at, each with the failure that it leads to;
* `InputSpec.ReadFrom`, `Effect.ReadFrom`, `Task.ReadFrom`, `Lesson.ReadFrom` — what a part that is
  accepted becomes;
* `document_acceptance` — a document is accepted exactly if it has the shape, its lessons are those
  that it lists, and a document that is refused is refused for its first flaw.
-/

/-! ### Shapes -/

/-- An input is a string, or an object with a string for its type and with settings that are an
object or count as absent. -/
def InputSpec.Acceptable (raw : Json) : Prop :=
  raw.IsString ∨ raw.IsObject ∧ (∃ kind, raw.get? "type" = some (.str kind)) ∧
    raw.AbsentOr "settings" fun value => value.Blank ∨ value.IsObject

/-- An effect is an object, and its side effects are a list or count as absent. -/
structure Effect.Acceptable (raw : Json) : Prop where
  shape : raw.IsObject
  sideEffects : raw.AbsentOr "side_effects" fun value => value.Blank ∨ value.IsList

/-- A task is an object with a list of steps and an object of effects, both of which may be absent,
and its input, if there is one, and all its effects are acceptable. -/
structure Task.Acceptable (raw : Json) : Prop where
  shape : raw.IsObject
  mapper : raw.AbsentOr "mapper" Json.IsList
  table : raw.AbsentOr "effects" Json.IsObject
  input : raw.AbsentOr "input" InputSpec.Acceptable
  effects : ∀ m ∈ raw.membersUnder "effects", Effect.Acceptable m.2

/-- A lesson is an object that has a name; its tasks are an object and its clients a string, a list
or an object, unless they are absent; and all tasks are acceptable. -/
structure Lesson.Acceptable (raw : Json) : Prop where
  shape : raw.IsObject
  table : raw.AbsentOr "practice" Json.IsObject
  name : ∃ name, raw.get? "name" = some name
  clients : raw.AbsentOr "available_to" fun value =>
    value.IsList ∨ value.IsString ∨ value.IsObject
  practice : ∀ m ∈ raw.membersUnder "practice", Task.Acceptable m.2

/-- A document is a list of acceptable lessons. -/
def AcceptableDocument (document : Json) : Prop :=
  ∃ items, document = .arr items ∧ ∀ raw ∈ items, Lesson.Acceptable raw

/-! ### Places -/

/-- The flaws of an input: its shape, its type, its settings. -/
def InputSpec.flaw (raw : Json) : Failure → Prop :=
  First
    [Unless (raw.IsString ∨ raw.IsObject) (.fault (.inputShape raw)),
     Unless (raw.IsString ∨ ∃ kind, raw.get? "type" = some (.str kind)) (.fault (.inputKind raw)),
     Unless (raw.AbsentOr "settings" fun value => value.Blank ∨ value.IsObject)
      (.fault (.inputSettings (raw.getD "settings" .null)))]

/-- The flaws of an effect: its shape, its side effects. -/
def Effect.flaw (raw : Json) : Failure → Prop :=
  First
    [Unless raw.IsObject (.fault (.effectShape raw)),
     Unless (raw.AbsentOr "side_effects" fun value => value.Blank ∨ value.IsList)
      (.fault (.sideEffectsShape (raw.getD "side_effects" .null)))]

/-- The flaws of a task: its shape, its mapper, the table of effects, its input, and then its
effects in order. -/
def Task.flaw (id : String) (raw : Json) : Failure → Prop :=
  First
    (Unless raw.IsObject (.fault (.taskShape id raw)) ::
     Unless (raw.AbsentOr "mapper" Json.IsList) (.fault (.mapperShape id)) ::
     Unless (raw.AbsentOr "effects" Json.IsObject) (.fault (.effectsShape id)) ::
     InputSpec.flaw (raw.getD "input" (.str "text")) ::
     (raw.membersUnder "effects").map fun m => Effect.flaw m.2)

/-- The flaws of a lesson: its shape, the table of tasks, its name, its clients, and then its tasks
in order. -/
def Lesson.flaw (raw : Json) : Failure → Prop :=
  First
    (Unless raw.IsObject (.fault (.lessonShape raw)) ::
     Unless (raw.AbsentOr "practice" Json.IsObject)
      (.fault (.practiceShape (raw.getD "name" (.str "<unknown>")).text)) ::
     Unless (∃ name, raw.get? "name" = some name) (.missingMember "name") ::
     Unless (raw.AbsentOr "available_to" fun value =>
      value.IsList ∨ value.IsString ∨ value.IsObject) .wrongKind ::
     (raw.membersUnder "practice").map fun m => Task.flaw m.1 m.2)

/-- The flaws of a document: its shape, and then its lessons in order. -/
def documentFlaw (document : Json) : Failure → Prop :=
  First (Unless document.IsList .rootNotAList :: document.listed.map Lesson.flaw)

/-- An input is fine exactly if it is acceptable. -/
theorem InputSpec.fine_flaw (raw : Json) : Fine (flaw raw) ↔ Acceptable raw := by
  simp only [flaw, fine_first, List.forall_mem_cons, fine_unless, Acceptable]
  constructor
  · rintro ⟨hshape, hkind, hsettings, -⟩
    rcases hshape with hstring | hobject
    · exact .inl hstring
    · rcases hkind with hstring | hkind
      · exact .inl hstring
      · exact .inr ⟨hobject, hkind, hsettings⟩
  · rintro (⟨s, rfl⟩ | ⟨hobject, hkind, hsettings⟩)
    · exact ⟨.inl ⟨s, rfl⟩, .inl ⟨s, rfl⟩, nofun, nofun⟩
    · exact ⟨.inr hobject, .inr hkind, hsettings, nofun⟩

/-- An effect is fine exactly if it is acceptable. -/
theorem Effect.fine_flaw (raw : Json) : Fine (flaw raw) ↔ Acceptable raw := by
  simp only [flaw, fine_first, List.forall_mem_cons, fine_unless]
  exact ⟨fun ⟨hshape, hsides, _⟩ => ⟨hshape, hsides⟩,
    fun ⟨hshape, hsides⟩ => ⟨hshape, hsides, nofun⟩⟩

/-- A task is fine exactly if it is acceptable. -/
theorem Task.fine_flaw (id : String) (raw : Json) : Fine (flaw id raw) ↔ Acceptable raw := by
  have hdefault : InputSpec.Acceptable (.str "text") := .inl ⟨"text", rfl⟩
  simp only [flaw, fine_first, List.forall_mem_cons, fine_unless, List.forall_mem_map,
    InputSpec.fine_flaw, Effect.fine_flaw]
  rw [← Json.absentOr_iff hdefault]
  exact ⟨fun ⟨hshape, hmapper, htable, hinput, heffects⟩ =>
      ⟨hshape, hmapper, htable, hinput, heffects⟩,
    fun ⟨hshape, hmapper, htable, hinput, heffects⟩ =>
      ⟨hshape, hmapper, htable, hinput, heffects⟩⟩

/-- A lesson is fine exactly if it is acceptable. -/
theorem Lesson.fine_flaw (raw : Json) : Fine (flaw raw) ↔ Acceptable raw := by
  simp only [flaw, fine_first, List.forall_mem_cons, fine_unless, List.forall_mem_map,
    Task.fine_flaw]
  exact ⟨fun ⟨hshape, htable, hname, hclients, hpractice⟩ =>
      ⟨hshape, htable, hname, hclients, hpractice⟩,
    fun ⟨hshape, htable, hname, hclients, hpractice⟩ =>
      ⟨hshape, htable, hname, hclients, hpractice⟩⟩

/-- A document is fine exactly if it is acceptable. -/
theorem fine_documentFlaw (document : Json) :
    Fine (documentFlaw document) ↔ AcceptableDocument document := by
  simp only [documentFlaw, fine_first, List.forall_mem_cons, fine_unless, List.forall_mem_map,
    Lesson.fine_flaw]
  constructor
  · rintro ⟨⟨items, rfl⟩, hitems⟩
    exact ⟨items, rfl, hitems⟩
  · rintro ⟨items, rfl, hitems⟩
    exact ⟨⟨items, rfl⟩, hitems⟩

/-! ### Reading reports the first flaw -/

/-- A value is an atom exactly if it is no list, no string and no object. -/
theorem Json.isAtom_iff {j : Json} : j.IsAtom ↔ ¬ (j.IsList ∨ j.IsString ∨ j.IsObject) := by
  constructor
  · rintro h (⟨items, rfl⟩ | ⟨s, rfl⟩ | ⟨members, rfl⟩) <;> exact h
  · intro h
    cases j with
    | str s => exact h (.inr (.inl ⟨s, rfl⟩))
    | arr items => exact h (.inl ⟨items, rfl⟩)
    | obj members => exact h (.inr (.inr ⟨members, rfl⟩))
    | null | bool _ | int _ | float _ => trivial

/-- Reading an input fails with its first flaw. -/
theorem InputSpec.reports (raw : Json) : Reports (ofJson raw) (flaw raw) := by
  have hblank : (fun value : Json => value.Blank ∨ value.IsObject) .null := .inl rfl
  unfold ofJson
  cases raw with
  | str kind => exact .ok _ ((fine_flaw _).mpr (.inl ⟨kind, rfl⟩))
  | obj members =>
    -- the type is looked at before the settings
    refine .pass (.inr ⟨members, rfl⟩) ?_
    dsimp only
    split
    · rename_i kind hkind
      refine .pass (.inr ⟨kind, hkind⟩) ?_
      rw [Json.absentOr_iff hblank]
      split
      · rename_i settings hsettings
        exact .pass (.inr ⟨settings, hsettings⟩) (.done _)
      · rename_i hother
        exact .unless_blank _ fun ⟨settings, hsettings⟩ => hother settings hsettings
    · rename_i hkind
      refine .stop ?_
      rintro (⟨s, hs⟩ | ⟨kind, h⟩)
      · cases hs
      · exact hkind kind h
  | null | bool _ | int _ | float _ | arr _ =>
    refine .stop ?_
    rintro (⟨s, hs⟩ | ⟨members, hm⟩)
    · cases hs
    · cases hm

/-- Reading side effects fails unless they are a list or count as absent. -/
theorem reports_sideEffectsOf (raw : Json) : Reports (sideEffectsOf raw)
    (First [Unless (raw.Blank ∨ raw.IsList) (.fault (.sideEffectsShape raw))]) := by
  unfold sideEffectsOf
  split
  · rename_i items
    exact .pass (.inr ⟨items, rfl⟩) (.done _)
  · rename_i hother
    exact .unless_blank _ fun ⟨items, hitems⟩ => hother items hitems

/-- Reading an effect fails with its first flaw. -/
theorem Effect.reports (raw : Json) : Reports (ofJson raw) (flaw raw) := by
  have hblank : (fun value : Json => value.Blank ∨ value.IsList) .null := .inl rfl
  unfold ofJson flaw
  rw [Json.absentOr_iff hblank]
  cases raw with
  | obj members => exact .pass ⟨members, rfl⟩ ((reports_sideEffectsOf _).map _)
  | null | bool _ | int _ | float _ | str _ | arr _ => exact .stop fun ⟨_, h⟩ => nomatch h

/-- Reading a task fails with its first flaw. -/
theorem Task.reports (id : String) (raw : Json) : Reports (ofJson id raw) (flaw id raw) := by
  unfold ofJson flaw
  rw [Json.absentOr_iff ⟨[], rfl⟩, Json.absentOr_iff ⟨[], rfl⟩]
  cases raw with
  | obj members =>
    refine .pass ⟨members, rfl⟩ ?_
    dsimp only
    split
    · rename_i mapper effects hmapper heffects
      -- both tables have their shapes, so what is left are the input and the effects in order
      rw [Json.membersUnder_eq heffects]
      refine .pass ⟨mapper, hmapper⟩ (.pass ⟨effects, heffects⟩ ?_)
      refine (InputSpec.reports _).bind fun input _ => ?_
      exact (Reports.mapValuesM (fun m => Effect.reports m.2) effects).map _
    · rename_i mapper hmapper heffects
      exact .pass ⟨mapper, hmapper⟩ (.stop fun ⟨effects, h⟩ => heffects effects h)
    · rename_i hmapper _
      -- without a mapper nothing is said of the effects
      exact .stop fun ⟨mapper, h⟩ => hmapper mapper h
  | null | bool _ | int _ | float _ | str _ | arr _ => exact .stop fun ⟨_, h⟩ => nomatch h

/-- Reading a lesson fails with its first flaw. -/
theorem Lesson.reports (raw : Json) : Reports (ofJson raw) (flaw raw) := by
  unfold ofJson flaw
  rw [Json.absentOr_iff ⟨[], rfl⟩, Json.absentOr_iff (.inl ⟨[], rfl⟩)]
  cases raw with
  | obj members =>
    refine .pass ⟨members, rfl⟩ ?_
    dsimp only
    split
    · rename_i practice name hpractice hname
      rw [Json.membersUnder_eq hpractice]
      refine .pass ⟨practice, hpractice⟩ (.pass ⟨name, hname⟩ ?_)
      by_cases hatom : ((Json.obj members).getD "available_to" (.arr [])).IsAtom
      · rw [Json.elements_of_isAtom hatom]
        exact .stop (Json.isAtom_iff.mp hatom)
      · obtain ⟨clients, hok⟩ := (Json.elements_cases _).resolve_left fun h => hatom h.1
        rw [hok]
        refine .pass (Classical.not_not.mp (mt Json.isAtom_iff.mpr hatom)) ?_
        exact (Reports.mapValuesM (fun m => Task.reports m.1 m.2) practice).map _
    · rename_i practice hpractice hname
      refine .pass ⟨practice, hpractice⟩ (.stop fun ⟨name, h⟩ => ?_)
      rw [hname] at h
      cases h
    · rename_i hnamed hunnamed
      -- the table of tasks is at fault here, whether there is a name or not
      refine .stop fun ⟨practice, h⟩ => ?_
      cases hname : (Json.obj members).get? "name" with
      | some name => exact hnamed practice name h hname
      | none => exact hunnamed practice h hname
  | null | bool _ | int _ | float _ | str _ | arr _ => exact .stop fun ⟨_, h⟩ => nomatch h

/-- Reading a document fails with its first flaw. -/
theorem reports_lessonsOfJson (document : Json) :
    Reports (lessonsOfJson document) (documentFlaw document) := by
  unfold lessonsOfJson documentFlaw
  cases document with
  | arr items => exact .pass ⟨items, rfl⟩ (Reports.mapM Lesson.reports items)
  | null | bool _ | int _ | float _ | str _ | obj _ => exact .stop fun ⟨_, h⟩ => nomatch h

/-! ### What is read -/

/-- An input as it is written: its type, and its settings unless they count as absent. -/
def InputSpec.ReadFrom (raw : Json) (i : InputSpec) : Prop :=
  raw = .str i.kind ∧ i.settings = [] ∨
    raw.get? "type" = some (.str i.kind) ∧
      (raw.getD "settings" .null = .obj i.settings ∨
        (raw.getD "settings" .null).Blank ∧ i.settings = [])

/-- An effect as it is written: its reply, its side effects unless they count as absent, and the
text of its goal if there is one. -/
structure Effect.ReadFrom (raw : Json) (e : Effect) : Prop where
  reply : e.reply = raw.getD "reply" .null
  sideEffects : raw.getD "side_effects" .null = .arr e.sideEffects ∨
    (raw.getD "side_effects" .null).Blank ∧ e.sideEffects = []
  completes : e.completesLesson = (raw.getD "completes_lesson" (.bool false)).isTruthy
  goal : e.moveTo = some (raw.getD "move_to" .null).text ∨
    (raw.getD "move_to" .null).Blank ∧ e.moveTo = none

/-- A task as it is written: its mapper as it is, and one effect for each member of the table of
effects, in order. -/
structure Task.ReadFrom (id : String) (raw : Json) (t : Task) : Prop where
  id : t.id = id
  prompt : t.prompt = (raw.getD "task" (.str "")).text
  input : InputSpec.ReadFrom (raw.getD "input" (.str "text")) t.input
  mapper : raw.getD "mapper" (.arr []) = .arr t.mapper
  effects : List.Forall₂ (fun m n => n.1 = m.1 ∧ Effect.ReadFrom m.2 n.2)
    (raw.membersUnder "effects") t.effects

/-- A lesson as it is written, with one task for each member of the table of tasks, in order. -/
structure Lesson.ReadFrom (raw : Json) (l : Lesson) : Prop where
  name : (raw.get? "name").map Json.text = some l.name
  description : l.description = (raw.getD "desc" (.str "")).text
  entry : l.entry = (raw.getD "entry" (.str "")).text
  clients : ∃ clients, (raw.getD "available_to" (.arr [])).elements = .ok clients ∧
    l.availableTo = clients.map Json.text
  practice : List.Forall₂ (fun m n => n.1 = m.1 ∧ Task.ReadFrom m.1 m.2 n.2)
    (raw.membersUnder "practice") l.practice

/-- An input is read as it is written. -/
theorem InputSpec.readFrom {raw : Json} {i : InputSpec} (h : ofJson raw = .ok i) :
    ReadFrom raw i := by
  unfold ofJson at h
  split at h
  · cases h
    exact .inl ⟨rfl, rfl⟩
  · split at h
    · rename_i kind hkind
      split at h
      · rename_i settings hsettings
        cases h
        exact .inr ⟨hkind, .inl hsettings⟩
      · split at h
        · cases h
        · rename_i hblank
          cases h
          exact .inr ⟨hkind, .inr ⟨Bool.eq_false_iff.mpr hblank, rfl⟩⟩
    · cases h
  · cases h

/-- Side effects are taken over, or they count as absent and there are none. -/
theorem of_sideEffectsOf {raw : Json} {sideEffects : List Json}
    (h : sideEffectsOf raw = .ok sideEffects) :
    raw = .arr sideEffects ∨ raw.Blank ∧ sideEffects = [] := by
  unfold sideEffectsOf at h
  split at h
  · cases h
    exact .inl rfl
  · split at h
    · cases h
    · rename_i hblank
      cases h
      exact .inr ⟨Bool.eq_false_iff.mpr hblank, rfl⟩

/-- An effect is read as it is written. -/
theorem Effect.readFrom {raw : Json} {e : Effect} (h : ofJson raw = .ok e) : ReadFrom raw e := by
  unfold ofJson at h
  split at h
  · obtain ⟨sideEffects, hsides, h⟩ := of_bind_eq_ok h
    cases h
    refine ⟨rfl, of_sideEffectsOf hsides, rfl, ?_⟩
    dsimp only
    split
    · exact .inl rfl
    · rename_i hblank
      exact .inr ⟨Bool.eq_false_iff.mpr hblank, rfl⟩
  · cases h

/-- A task is read as it is written. -/
theorem Task.readFrom {id : String} {raw : Json} {t : Task} (h : ofJson id raw = .ok t) :
    ReadFrom id raw t := by
  unfold ofJson at h
  split at h
  · split at h
    · rename_i mapper effects hmapper heffects
      obtain ⟨input, hinput, h⟩ := of_bind_eq_ok h
      obtain ⟨table, htable, h⟩ := of_bind_eq_ok h
      cases h
      refine ⟨rfl, rfl, InputSpec.readFrom hinput, hmapper, ?_⟩
      rw [Json.membersUnder_eq heffects]
      exact (forall₂_mapValuesM htable).imp fun _ _ hm => ⟨hm.1, Effect.readFrom hm.2⟩
    · cases h
    · cases h
  · cases h

/-- A lesson is read as it is written. -/
theorem Lesson.readFrom {raw : Json} {l : Lesson} (h : ofJson raw = .ok l) : ReadFrom raw l := by
  unfold ofJson at h
  split at h
  · split at h
    · rename_i practice name hpractice hname
      obtain ⟨clients, hclients, h⟩ := of_bind_eq_ok h
      obtain ⟨table, htable, h⟩ := of_bind_eq_ok h
      cases h
      refine ⟨congrArg (Option.map Json.text) hname, rfl, rfl, ⟨clients, hclients, rfl⟩, ?_⟩
      rw [Json.membersUnder_eq hpractice]
      exact (forall₂_mapValuesM htable).imp fun _ _ hm => ⟨hm.1, Task.readFrom hm.2⟩
    · cases h
    · cases h
  · cases h

/-- The lessons of a document are read as they are written. -/
theorem readFrom_lessonsOfJson {document : Json} {lessons : List Lesson}
    (h : lessonsOfJson document = .ok lessons) :
    List.Forall₂ Lesson.ReadFrom document.listed lessons := by
  unfold lessonsOfJson at h
  split at h
  · exact (forall₂_mapM h).imp fun _ _ hl => Lesson.readFrom hl
  · cases h

/-! ### Keys -/

/-- No task appears twice, and neither does an effect of a task. -/
def Lesson.Keyed (l : Lesson) : Prop :=
  (Table.keys l.practice).Nodup ∧ ∀ m ∈ l.practice, (Table.keys m.2.effects).Nodup

/-- A table that is made of members one by one has their keys. -/
theorem keys_of_forall₂ {α β : Type} {R : String × α → String × β → Prop}
    {members : Table String α} {t : Table String β}
    (h : List.Forall₂ (fun m n => n.1 = m.1 ∧ R m n) members t) :
    Table.keys t = Table.keys members := by
  induction h with
  | nil => rfl
  | cons hm _ ih => rw [Table.keys_cons, Table.keys_cons, hm.1, ih]

/-- The members of an object in a tidy value are tidy. -/
theorem Json.tidy_membersUnder {j : Json} (h : j.Tidy) (key : String) :
    (Json.obj (j.membersUnder key)).Tidy := by
  unfold membersUnder
  split
  · rename_i members hget
    have hmembers : j.getD key .null = .obj members := congrArg (·.getD .null) hget
    rw [← hmembers]
    exact h.part (part_getD (hmembers ▸ nofun))
  · exact tidy_empty

/-- The items of a tidy list are tidy. -/
theorem Json.tidy_of_mem_listed {j item : Json} (h : j.Tidy) (hitem : item ∈ j.listed) :
    item.Tidy := by
  cases j with
  | arr items => exact tidy_arr.mp h item hitem
  | null | bool _ | int _ | float _ | str _ | obj _ => exact absurd hitem List.not_mem_nil

/-- The tasks and effects of a lesson have the keys of tidy objects. -/
theorem Lesson.ReadFrom.keyed {raw : Json} {l : Lesson} (h : ReadFrom raw l) (hraw : raw.Tidy) :
    l.Keyed := by
  obtain ⟨hkeys, hmembers⟩ := Json.tidy_obj.mp (Json.tidy_membersUnder hraw "practice")
  refine ⟨keys_of_forall₂ h.practice ▸ hkeys, fun n hn => ?_⟩
  obtain ⟨m, hm, -, hread⟩ := exists_of_forall₂ h.practice hn
  exact keys_of_forall₂ hread.effects ▸
    (Json.tidy_obj.mp (Json.tidy_membersUnder (hmembers m hm) "effects")).1

/-- **Acceptance of documents.** There are lessons exactly if the document is acceptable. The
lessons are those that the document lists, each with its tasks and their effects under distinct
keys, and all of them as they are written. Without lessons, the failure is the first flaw of the
document. The document is the value that is read from the text, in which each escaped surrogate
without its other half stands as U+FFFD; all else is said of that value. -/
theorem document_acceptance {text : String} {document : Json} (h : readJson text = .ok document) :
    ((∃ lessons, lessonsOfText text = .ok lessons) ↔ AcceptableDocument document) ∧
      (∀ lessons, lessonsOfText text = .ok lessons →
        List.Forall₂ Lesson.ReadFrom document.listed lessons ∧ ∀ l ∈ lessons, l.Keyed) ∧
      ∀ e, lessonsOfText text = .error e ↔ documentFlaw document e := by
  have hread : lessonsOfText text = lessonsOfJson document := by
    unfold lessonsOfText
    rw [h]
    rfl
  rw [hread]
  -- the reports say when there are lessons, and with which failure there are none
  have hreports := reports_lessonsOfJson document
  refine ⟨hreports.ok_iff.trans (fine_documentFlaw document), fun lessons hok => ?_, hreports⟩
  have hlessons := readFrom_lessonsOfJson hok
  refine ⟨hlessons, fun l hl => ?_⟩
  obtain ⟨raw, hraw, hl⟩ := exists_of_forall₂ hlessons hl
  exact hl.keyed (Json.tidy_of_mem_listed (tidy_of_readJson h) hraw)

/-- A lesson with a flaw in the second effect of its first task, and with a second task that is a
number. -/
def twiceFlawed : Json :=
  .arr [.obj [("name", .str "Shells"), ("practice", .obj
    [("look", .obj [("effects", .obj [("seen", .obj []), ("lost", .int 7)])]),
     ("leave", .int 0)])]]

/-- The same lesson without the flaws. -/
def mended : Json :=
  .arr [.obj [("name", .str "Shells"), ("practice", .obj
    [("look", .obj [("mapper", .arr [.str "output"]),
      ("input", .obj [("type", .str "choice"), ("settings", .null)]),
      ("effects", .obj [("seen", .obj []), ("lost", .obj [("reply", .str "Again")])])]),
     ("leave", .obj [])])]]

/-- Of the two flaws only that of the effect is reported, and without them there is a lesson. -/
theorem document_acceptance_mended :
    (readJson twiceFlawed.write = .ok twiceFlawed ∧ ¬ AcceptableDocument twiceFlawed ∧
      lessonsOfText twiceFlawed.write = .error (.fault (.effectShape (.int 7)))) ∧
    readJson mended.write = .ok mended ∧ AcceptableDocument mended ∧
      lessonsOfText mended.write = .ok
        [⟨"Shells", "", "", [],
          [("look", ⟨"look", "", ⟨"choice", []⟩, [.str "output"],
              [("seen", ⟨.null, [], false, none⟩), ("lost", ⟨.str "Again", [], false, none⟩)]⟩),
            ("leave", ⟨"leave", "", ⟨"text", []⟩, [], []⟩)]⟩] := by
  have hdigits : (Text.decimalDigits 7).length ≤ Text.digitLimit ∧
      (Text.decimalDigits 0).length ≤ Text.digitLimit := by decide
  have hplain : twiceFlawed.IsPlain := by
    simpa [twiceFlawed, Json.IsPlain, Json.ItemsPlain, Json.MembersPlain] using hdigits
  have hread : readJson twiceFlawed.write = .ok twiceFlawed := readJson_write hplain
  obtain ⟨haccepted, -, hflaws⟩ := document_acceptance hread
  have hflaw : documentFlaw twiceFlawed (.fault (.effectShape (.int 7))) :=
    (reports_lessonsOfJson twiceFlawed _).mp rfl
  have hfails := (hflaws _).mpr hflaw
  have hread' : readJson mended.write = .ok mended := readJson_write (by
    simp [mended, Json.IsPlain, Json.ItemsPlain, Json.MembersPlain])
  have hlessons : lessonsOfText mended.write = lessonsOfJson mended := by
    unfold lessonsOfText
    rw [hread']
    rfl
  refine ⟨⟨hread, fun h => ?_, hfails⟩, hread',
    (document_acceptance hread').1.mp ⟨_, hlessons.trans rfl⟩, hlessons.trans rfl⟩
  obtain ⟨lessons, hok⟩ := haccepted.mpr h
  rw [hfails] at hok
  cases hok

end Tutor
