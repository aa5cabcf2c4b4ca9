import Tutor.Proofs.Course.Acceptance
import Tutor.Proofs.Events.Arming
import Tutor.Proofs.Service.Sessions

namespace Tutor

/-!
# Inputs on the wire

Whoever asks for a task is told its input as JSON text. The text stands for the input itself: a
reader of lessons would make the same input of it, settings and all, in the same order.

* `InputSpec.ofJson_toJson` — what adapters see of an input is read as that input;
* `Lesson.ReadFrom.tidy_settings`, `Catalog.Read.tidy_settings` — settings are as tidy as the
  document that they come from, so that they are read back unless they hold a double;
* `Service.answer_of_describe` — a description is the prompt and the text of the input;
* `Service.input_survives_wire` — the result, with the one way in which describing can fail.
-/

/-- What adapters see of an input is read as that input: nothing is left to be normalized. -/
theorem InputSpec.ofJson_toJson (i : InputSpec) : ofJson i.toJson = .ok i := rfl

/-! ### Tidy settings -/

/-- Settings that are read from a tidy value are tidy. -/
theorem InputSpec.ReadFrom.tidy_settings {raw : Json} {i : InputSpec} (h : ReadFrom raw i)
    (hraw : raw.Tidy) : (Json.obj i.settings).Tidy := by
  rcases h with ⟨-, hnone⟩ | ⟨-, hsettings | ⟨-, hnone⟩⟩
  · rw [hnone]
    exact Json.tidy_empty
  · have hmember := hraw.getD Json.tidy_null "settings"
    rwa [hsettings] at hmember
  · -- settings that count as absent are replaced by none
    rw [hnone]
    exact Json.tidy_empty

/-- The settings in a lesson that is read from a tidy value are tidy. -/
theorem Lesson.ReadFrom.tidy_settings {raw : Json} {l : Lesson} (h : ReadFrom raw l)
    (hraw : raw.Tidy) {task : String × Task} (htask : task ∈ l.practice) :
    (Json.obj task.2.input.settings).Tidy := by
  obtain ⟨member, hmember, -, htask⟩ := exists_of_forall₂ h.practice htask
  have hpractice := (Json.tidy_obj.mp (Json.tidy_membersUnder hraw "practice")).2
  exact htask.input.tidy_settings ((hpractice member hmember).getD (Json.tidy_str "text") "input")

/-- The settings in the bundled lessons are tidy. -/
theorem tidy_settings_bundled : ∀ l ∈ bundledLessons, ∀ task ∈ l.practice,
    (Json.obj task.2.input.settings).Tidy := by
  have houtput : ∀ events subsumes notify, (Bundled.output events subsumes notify).Tidy := by
    intro events subsumes notify
    have hnotify : (Json.bool notify).Tidy := Json.tidy_of_isLeaf trivial trivial
    simp [Bundled.output, Json.tidy_obj, Json.tidy_ofStrings, hnotify]
  simp only [bundledLessons, Bundled.findLessons, Bundled.firstCommand, Bundled.watchEvents,
    Bundled.console, List.forall_mem_cons, Json.tidy_obj, houtput]
  simp

/-- The settings in lessons that were read from a text are tidy. -/
theorem Catalog.Read.tidy_settings {c : Catalog} (h : c.Read) {key : TaskKey} {t : Task}
    (ht : c.task? key.1 key.2 = some t) : (Json.obj t.input.settings).Tidy := by
  obtain ⟨l, hl, hpractice⟩ := Option.bind_eq_some_iff.mp ht
  have hl := (of_lesson?_eq_some hl).1
  have htask := Table.mem_of_get? hpractice
  rcases h with hbundled | ⟨text, htext⟩
  · exact tidy_settings_bundled l (hbundled ▸ hl) _ htask
  · obtain ⟨document, hread, hdocument⟩ := of_bind_eq_ok htext
    obtain ⟨raw, hraw, hlesson⟩ := exists_of_forall₂ (readFrom_lessonsOfJson hdocument) hl
    exact hlesson.tidy_settings (Json.tidy_of_mem_listed (tidy_of_readJson hread) hraw) htask

/-- The input of a task in lessons that were read from a text is plain unless it holds a double. -/
theorem Catalog.Read.isPlain_input {c : Catalog} (h : c.Read) {key : TaskKey} {t : Task}
    (ht : c.task? key.1 key.2 = some t)
    (hdoubles : ¬ (Json.obj t.input.settings).HoldsDouble) : t.input.toJson.IsPlain := by
  have hsettings : (Json.obj t.input.settings).IsPlain :=
    Json.isPlain_of_tidy _ (h.tidy_settings ht) hdoubles
  have hkeys : ["type", "settings"].Nodup := by decide
  exact ⟨hkeys, trivial, hsettings, trivial⟩

/-! ### Descriptions -/

namespace Service

variable {b : Boundary} {w w' : World} {key : TaskKey} {t : Task}

/-- A task is described by its prompt and the text of its input. -/
theorem answer_of_describe (ht : w.catalog.task? key.1 key.2 = some t) {answer : String × String}
    (h : (describe b key).perform w = (.ok answer, w')) :
    answer = (t.prompt, t.input.toJson.write) := by
  unfold describe at h
  rw [Act.perform_bind_ok (Catalog.perform_task_eq ht)] at h
  by_cases hkind : (t.input.kind == eventsKind) = true
  · simp only [if_pos hkind] at h
    obtain ⟨events, w₁, -, h⟩ := Act.of_perform_bind_ok h
    obtain ⟨_, w₂, -, h⟩ := Act.of_perform_bind_ok h
    cases h
    rfl
  · simp only [if_neg hkind] at h
    cases h
    rfl

/-- How a task of a catalog is described: describing fails exactly with the flaws of the outputs
that a task of events waits for. -/
theorem describe_cases (hb : b.Quiet) (ht : w.catalog.task? key.1 key.2 = some t) :
    ∃ w', w'.catalog = w.catalog ∧
      ((∃ answer, (describe b key).perform w = (.ok answer, w') ∧
          (t.input.kind = eventsKind → AcceptableOutputs (.obj t.input.settings))) ∨
        ∃ f, (describe b key).perform w = (.error (.fault f), w') ∧
          t.input.kind = eventsKind ∧ outputsFlaw (.obj t.input.settings) f) := by
  have hreports := Pending.reports (.obj t.input.settings)
  by_cases hkind : t.input.kind = eventsKind
  · cases hread : Pending.ofJson (.obj t.input.settings) with
    | ok p =>
      obtain ⟨answer, w', hperform, hservice⟩ := perform_describe_events hb ht hkind hread
      have hfine := (fine_outputsFlaw _).mp (hreports.ok_iff.mp ⟨p, hread⟩)
      exact ⟨w', congrArg Prod.fst hservice, .inl ⟨answer, hperform, fun _ => hfine⟩⟩
    | error f =>
      obtain ⟨w', hperform, hservice⟩ := perform_describe_unreadable b ht hkind hread
      have hflaw := (hreports f).mp hread
      exact ⟨w', congrArg Prod.fst hservice, .inr ⟨f, hperform, hkind, hflaw⟩⟩
  · obtain ⟨answer, w', hperform, hservice⟩ := perform_describe_plain b ht hkind
    exact ⟨w', congrArg Prod.fst hservice, .inl ⟨answer, hperform, fun h => absurd h hkind⟩⟩

/-! ### The main result -/

/-- **Inputs survive the wire.** What is read as an input is written as an object that is read as
the same input again. In lessons that were read from a text, or the bundled ones, a task is
described unless its input is events and the outputs to wait for have a flaw, which is then the
fault; the lessons stay as they are in either case. The description is the prompt of the task and a
text of which, when no setting is a double, a reader makes exactly the input of the task. -/
theorem input_survives_wire :
    (∀ raw i, InputSpec.ofJson raw = .ok i → InputSpec.ofJson i.toJson = .ok i) ∧
      ∀ (b : Boundary) (w : World) (key : TaskKey) (t : Task), b.Quiet → w.catalog.Read →
        w.catalog.task? key.1 key.2 = some t →
        ((describe b key).perform w).2.catalog = w.catalog ∧
          ((∃ answer, ((describe b key).perform w).1 = .ok answer) ↔
            (t.input.kind = eventsKind → AcceptableOutputs (.obj t.input.settings))) ∧
          (∀ e, ((describe b key).perform w).1 = .error e →
            ∃ f, e = .fault f ∧ outputsFlaw (.obj t.input.settings) f) ∧
          ∀ prompt text, ((describe b key).perform w).1 = .ok (prompt, text) →
            prompt = t.prompt ∧
              (¬ (Json.obj t.input.settings).HoldsDouble →
                (readJson text).bind InputSpec.ofJson = .ok t.input) := by
  refine ⟨fun _ i _ => i.ofJson_toJson, fun b w key t hb hw ht => ?_⟩
  obtain ⟨w', hcatalog, ⟨answer, hperform, hfine⟩ | ⟨f, hperform, hkind, hflaw⟩⟩ :=
    describe_cases hb ht
  · have hanswer := answer_of_describe ht hperform
    rw [hperform]
    refine ⟨hcatalog, iff_of_true ⟨answer, rfl⟩ hfine, nofun, fun prompt text h => ?_⟩
    cases h
    obtain ⟨rfl, rfl⟩ := Prod.mk.inj hanswer
    refine ⟨rfl, fun hdoubles => ?_⟩
    rw [readJson_write (hw.isPlain_input ht hdoubles)]
    exact t.input.ofJson_toJson
  · -- describing fails: the outputs have a flaw, so they are not acceptable
    rw [hperform]
    refine ⟨hcatalog, iff_of_false nofun fun h => ?_, fun e h => ?_, nofun⟩
    · exact (fine_outputsFlaw _).mpr (h hkind) f hflaw
    · cases h
      exact ⟨f, rfl, hflaw⟩

/-- An input with settings on several levels. -/
def nestedInput : InputSpec :=
  ⟨"text", [("b", .arr [.int (-20), .obj [("😀", .null)], .arr []]), ("a", .str "\"é\n")]⟩

/-- An input that waits for an output whose events are no list. -/
def flawedInput : InputSpec :=
  ⟨eventsKind, [("done", .obj [("events", .int 7)])]⟩

/-- A document with a task for each of the two inputs. -/
def inputDocument : Json :=
  .arr [.obj [("name", .str "l"), ("practice", .obj
    [("say", .obj [("input", nestedInput.toJson)]),
      ("wait", .obj [("input", flawedInput.toJson)])])]]

/-- The lesson of the document. -/
def inputLesson : Lesson :=
  ⟨"l", "", "", [], [("say", ⟨"say", "", nestedInput, [], []⟩),
    ("wait", ⟨"wait", "", flawedInput, [], []⟩)]⟩

/-- The nested settings come back from the description of their task; the task with a flawed output
is not described. -/
theorem input_survives_wire_nested :
    let w := World.fresh Host.bare ⟨[inputLesson], [], none⟩
    lessonsOfText inputDocument.write = .ok w.catalog.lessons ∧
      (∃ text, ((describe .logging ("l", "say")).perform w).1 = .ok ("", text) ∧
        (readJson text).bind InputSpec.ofJson = .ok nestedInput) ∧
      ((describe .logging ("l", "wait")).perform w).1 = .error (.fault (.outputLists "done")) := by
  intro w
  have hplain : inputDocument.IsPlain := by
    have hdigits : (Text.decimalDigits 20).length ≤ Text.digitLimit ∧
        (Text.decimalDigits 7).length ≤ Text.digitLimit := by decide
    simpa [inputDocument, nestedInput, flawedInput, InputSpec.toJson, Json.IsPlain, Json.ItemsPlain,
      Json.MembersPlain] using hdigits
  have hread : lessonsOfText inputDocument.write = .ok w.catalog.lessons := by
    rw [lessonsOfText, readJson_write hplain]
    rfl
  have hdoubles : ¬ (Json.obj nestedInput.settings).HoldsDouble := by
    have hnull : ¬ Json.null.HoldsDouble := by
      rintro ⟨d, h⟩
      cases h
    have hint : ¬ (Json.int (-20)).HoldsDouble := by
      rintro ⟨d, h⟩
      cases h
    simp [nestedInput, Json.holdsDouble_obj, Json.holdsDouble_arr, Json.not_holdsDouble_str, hnull,
      hint]
  -- one task is described, and the other is not, for its output cannot be read
  obtain ⟨-, hall⟩ := input_survives_wire
  obtain ⟨-, hsay, -, hback⟩ :=
    hall .logging w ("l", "say") ⟨"say", "", nestedInput, [], []⟩ Boundary.quiet_logging
      (.inr ⟨_, hread⟩) rfl
  obtain ⟨-, hwait, -, -⟩ :=
    hall .logging w ("l", "wait") ⟨"wait", "", flawedInput, [], []⟩ Boundary.quiet_logging
      (.inr ⟨_, hread⟩) rfl
  obtain ⟨⟨prompt, text⟩, hanswer⟩ := hsay.mpr fun hevents => absurd hevents (by decide)
  obtain ⟨hprompt, htext⟩ := hback prompt text hanswer
  refine ⟨hread, ⟨text, ?_, htext hdoubles⟩, rfl⟩
  rw [hanswer, hprompt]

end Service

end Tutor
