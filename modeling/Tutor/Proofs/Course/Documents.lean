import Tutor.Proofs.Flaws
import Tutor.Proofs.Json.Reading
import Tutor.Proofs.Service.Frames

namespace Tutor

/-!
# Effects in documents

An effect may name a goal, the task that comes next. The empty goal stands for the end of a lesson,
and a document cannot name it: a value that counts as present has a text, and any other value is
taken as no goal at all. The reply of an effect is a part of the document, and as tidy as what a
reader makes of a text.

* `Json.text_ne_empty` — values that count as present have a text;
* `effect_of_document` — every effect in a document is read from a part of it;
* `Catalog.Documented` — the lessons are those of a document, or the bundled ones;
* `Catalog.Documented.moveTo_ne` — no effect among them has the empty goal;
* `Catalog.documented_load`, `Catalog.documented_reload` — the lessons that are loaded are such, and
  they remain such when they are read again;
* `Catalog.Read` — the document was read from a text, as that of a file is (`Catalog.read_load`);
* `Catalog.Read.tidy_reply` — then all replies are tidy.
-/

/-! ### Texts -/

namespace Decimal

/-- Numerals are not empty. -/
theorem layout_ne_nil (style : NumeralStyle) {ds : List Char} (h : ds ≠ []) (point : Int) :
    layout style ds point ≠ [] := by
  unfold layout
  split
  · split
    · exact List.cons_ne_nil _ _
    · split
      · exact List.append_ne_nil_of_right_ne_nil _ (List.cons_ne_nil _ _)
      · exact List.append_ne_nil_of_right_ne_nil _ (List.cons_ne_nil _ _)
  · match ds with
    | [] => exact absurd rfl h
    | [d] => exact List.cons_ne_nil _ _
    | d :: d' :: more => exact List.cons_ne_nil _ _

/-- A double has a text if the style has one for the infinities and for what is no number. -/
theorem numeral_ne_nil {style : NumeralStyle} (hnan : style.nan.toList ≠ [])
    (hinfinity : style.infinity.toList ≠ []) (x : Double) : numeral style x ≠ [] := by
  cases x with
  | nan => exact hnan
  | infinite negative => exact List.append_ne_nil_of_right_ne_nil _ hinfinity
  | finite negative m e =>
    refine List.append_ne_nil_of_right_ne_nil _ ?_
    split
    · exact List.cons_ne_nil _ _
    · exact layout_ne_nil style Nat.toDigits_ne_nil _

end Decimal

/-- A whole number has a digit. -/
theorem Text.wholeChars_ne_nil (n : Int) : wholeChars n ≠ [] := by
  cases n with
  | ofNat m => exact Nat.toDigits_ne_nil
  | negSucc m => exact List.cons_ne_nil _ _

/-- A value that counts as present has a text. -/
theorem Json.text_ne_empty {j : Json} (h : j.isTruthy = true) : j.text ≠ "" := by
  have hliteral : j.literalChars ≠ [] → j.literal ≠ "" := fun hchars hempty =>
    hchars (String.ofList_eq_empty_iff.mp hempty)
  cases j with
  | null => cases h
  | str s => simpa [isTruthy, text] using h
  | bool b =>
    cases b with
    | false => cases h
    | true => exact hliteral (by decide)
  | int n => exact hliteral (Text.wholeChars_ne_nil n)
  | float x => exact hliteral (Decimal.numeral_ne_nil (by decide) (by decide) x)
  | arr items => exact hliteral (List.cons_ne_nil _ _)
  | obj members => exact hliteral (List.cons_ne_nil _ _)

/-! ### Lists of results -/

section Results

variable {α β ε : Type}

/-- What is read from items comes from the items. -/
theorem of_mem_mapM {f : α → Except ε β} {items : List α} {results : List β} {r : β}
    (h : items.mapM f = .ok results) (hr : r ∈ results) : ∃ i ∈ items, f i = .ok r := by
  obtain ⟨i, hi, hread⟩ := exists_of_forall₂ (forall₂_mapM h) hr
  exact ⟨i, hi, hread⟩

/-- What is read from members comes from the members. -/
theorem of_mem_mapValuesM {read : String → α → Except Failure β} {members : List (String × α)}
    {t : Table String β} {m : String × β} (h : mapValuesM read members = .ok t) (hm : m ∈ t) :
    ∃ v, (m.1, v) ∈ members ∧ read m.1 v = .ok m.2 := by
  obtain ⟨⟨key, v⟩, hv, hkey, hread⟩ := exists_of_forall₂ (forall₂_mapValuesM h) hm
  exact ⟨v, hkey ▸ hv, hkey ▸ hread⟩

end Results

/-! ### Effects in documents -/

/-- A member of an object under a key, which is empty if there is none, is a part. -/
theorem part_of_mem_getD {raw : Json} {key : String} {members : List (String × Json)}
    {m : String × Json} (h : raw.getD key (.obj []) = .obj members) (hm : m ∈ members) :
    Json.Part m.2 raw := by
  have hpart : Json.Part (raw.getD key (.obj [])) raw := by
    refine Json.part_getD fun hempty => ?_
    rw [h] at hempty
    cases hempty
    cases hm
  rw [h] at hpart
  exact (Json.Part.member hm .self).trans hpart

/-- The effects of a task are read from parts of it. -/
theorem effect_of_task {id : String} {raw : Json} {t : Task} (h : Task.ofJson id raw = .ok t)
    {m : String × Effect} (hm : m ∈ t.effects) :
    ∃ part, Json.Part part raw ∧ Effect.ofJson part = .ok m.2 := by
  unfold Task.ofJson at h
  split at h
  · split at h
    · rename_i mapper effects hmapper heffects
      obtain ⟨input, -, h⟩ := of_bind_eq_ok h
      obtain ⟨read, hread, h⟩ := of_bind_eq_ok h
      cases h
      obtain ⟨part, hpart, hok⟩ := of_mem_mapValuesM hread hm
      exact ⟨part, part_of_mem_getD heffects hpart, hok⟩
    · cases h
    · cases h
  · cases h

/-- The effects of a lesson are read from parts of it. -/
theorem effect_of_lesson {raw : Json} {l : Lesson} (h : Lesson.ofJson raw = .ok l)
    {task : String × Task} (htask : task ∈ l.practice) {m : String × Effect}
    (hm : m ∈ task.2.effects) : ∃ part, Json.Part part raw ∧ Effect.ofJson part = .ok m.2 := by
  unfold Lesson.ofJson at h
  split at h
  · split at h
    · rename_i practice name hpractice hname
      obtain ⟨clients, -, h⟩ := of_bind_eq_ok h
      obtain ⟨read, hread, h⟩ := of_bind_eq_ok h
      cases h
      obtain ⟨raw', hraw', hok⟩ := of_mem_mapValuesM hread htask
      obtain ⟨part, hpart, heffect⟩ := effect_of_task hok hm
      exact ⟨part, hpart.trans (part_of_mem_getD hpractice hraw'), heffect⟩
    · cases h
    · cases h
  · cases h

/-- The effects of the lessons in a document are read from parts of it. -/
theorem effect_of_document {document : Json} {lessons : List Lesson}
    (h : lessonsOfJson document = .ok lessons) {l : Lesson} (hl : l ∈ lessons)
    {task : String × Task} (htask : task ∈ l.practice) {m : String × Effect}
    (hm : m ∈ task.2.effects) :
    ∃ part, Json.Part part document ∧ Effect.ofJson part = .ok m.2 := by
  unfold lessonsOfJson at h
  split at h
  · obtain ⟨raw, hraw, hok⟩ := of_mem_mapM h hl
    obtain ⟨part, hpart, heffect⟩ := effect_of_lesson hok htask hm
    exact ⟨part, hpart.trans (.item hraw .self), heffect⟩
  · cases h

/-- A document that was read from a text is tidy. -/
theorem tidy_of_readJson {text : String} {document : Json} (h : readJson text = .ok document) :
    document.Tidy := by
  unfold readJson at h
  cases hj : Json.read text with
  | error f => rw [hj] at h; cases h
  | ok j =>
    rw [hj] at h
    cases h
    exact Json.tidy_of_read hj

/-! ### Goals -/

/-- No effect of the task has the empty goal. -/
def Task.Goals (t : Task) : Prop :=
  ∀ m ∈ t.effects, m.2.moveTo ≠ some ""

/-- No effect of the lesson has the empty goal. -/
def Lesson.Goals (l : Lesson) : Prop :=
  ∀ m ∈ l.practice, m.2.Goals

/-- An effect of a document does not have the empty goal. -/
theorem goals_effect {raw : Json} {e : Effect} (h : Effect.ofJson raw = .ok e) :
    e.moveTo ≠ some "" := by
  unfold Effect.ofJson at h
  split at h
  · obtain ⟨sideEffects, -, h⟩ := of_bind_eq_ok h
    cases h
    -- a goal is named only by a value that counts as present
    dsimp only
    split
    · rename_i htruthy
      exact fun hempty => Json.text_ne_empty htruthy (Option.some.inj hempty)
    · exact nofun
  · cases h

/-- The bundled lessons have goals that are not empty. -/
theorem goals_bundled : ∀ l ∈ bundledLessons, l.Goals := by
  unfold Lesson.Goals Task.Goals
  decide

/-- The lessons of a document have goals that are not empty. -/
theorem goals_document {document : Json} {lessons : List Lesson}
    (h : lessonsOfJson document = .ok lessons) : ∀ l ∈ lessons, l.Goals := by
  intro l hl task htask m hm
  obtain ⟨part, -, heffect⟩ := effect_of_document h hl htask hm
  exact goals_effect heffect

/-! ### Catalogs of documents -/

namespace Catalog

/-- The lessons are those of a document, or the bundled ones. -/
def Documented (c : Catalog) : Prop :=
  c.lessons = bundledLessons ∨ ∃ document, lessonsOfJson document = .ok c.lessons

variable {c : Catalog}

/-- No effect in a document has the empty goal. -/
theorem Documented.moveTo_ne (h : c.Documented) {key : TaskKey} {t : Task} {code : String}
    {e : Effect} (ht : c.task? key.1 key.2 = some t) (he : t.effects.get? code = some e) :
    e.moveTo ≠ some "" := by
  obtain ⟨l, hl, hpractice⟩ := Option.bind_eq_some_iff.mp ht
  have hgoals : l.Goals := by
    rcases h with hbundled | ⟨document, hdocument⟩
    · exact goals_bundled l (hbundled ▸ (of_lesson?_eq_some hl).1)
    · exact goals_document hdocument l (of_lesson?_eq_some hl).1
  exact hgoals _ (Table.mem_of_get? hpractice) _ (Table.mem_of_get? he)

/-- The lessons of a file are those of a text. -/
theorem of_lessonsInFile {files : Files} {p : Path} {lessons : List Lesson}
    (h : lessonsInFile files p = .ok (.ok lessons)) :
    ∃ text, lessonsOfText text = .ok lessons := by
  unfold lessonsInFile at h
  cases hread : (textInFile files p).bind lessonsOfText with
  | error e =>
    rw [hread] at h
    simp only at h
    split at h <;> cases h
  | ok found =>
    rw [hread] at h
    cases h
    obtain ⟨text, -, htext⟩ := of_bind_eq_ok hread
    exact ⟨text, htext⟩

/-- The lessons were read from a text, or they are the bundled ones. What is read of a text has U+FFFD
for each escaped surrogate without its other half. -/
def Read (c : Catalog) : Prop :=
  c.lessons = bundledLessons ∨ ∃ text, lessonsOfText text = .ok c.lessons

/-- Lessons that were read from a text are those of a document. -/
theorem Read.documented (h : c.Read) : c.Documented := by
  rcases h with hbundled | ⟨text, htext⟩
  · exact .inl hbundled
  · obtain ⟨document, -, hdocument⟩ := of_bind_eq_ok htext
    exact .inr ⟨document, hdocument⟩

/-- The first file that can be read has the lessons, and if there is none they are the bundled ones.
-/
theorem read_firstReadable {files : Files} {paths : List Path} {warnings : List String}
    (h : firstReadable files paths warnings = .ok c) : c.Read := by
  induction paths generalizing warnings with
  | nil =>
    cases h
    exact .inl rfl
  | cons p rest ih =>
    rw [firstReadable] at h
    obtain ⟨found, hfound, h⟩ := of_bind_eq_ok h
    cases found with
    | error warning => exact ih h
    | ok lessons =>
      cases h
      exact .inr (of_lessonsInFile hfound)

/-- The lessons that are loaded are read from a text, or they are the bundled ones. -/
theorem read_load {explicit : Option String} {w w' : World}
    (h : (load explicit).perform w = (.ok (), w')) : w'.catalog.Read := by
  unfold load at h
  rw [Act.perform_bind_ok (Act.perform_get w)] at h
  obtain ⟨c, w₁, hfind, h⟩ := Act.of_perform_bind_ok h
  rw [Act.perform_ofExcept, Prod.mk.injEq] at hfind
  obtain ⟨paths, -, hfirst⟩ := of_bind_eq_ok hfind.1
  unfold use at h
  rw [Act.perform_bind_ok (Act.perform_modify _ w₁)] at h
  -- warnings are only logged
  have hw' : w'.catalog = c := ((keeps_warn c.warnings).map World.catalog).of_perform h
  exact hw' ▸ read_firstReadable hfirst

/-- The lessons that are loaded are those of a document, or the bundled ones. -/
theorem documented_load {explicit : Option String} {w w' : World}
    (h : (load explicit).perform w = (.ok (), w')) : w'.catalog.Documented :=
  (read_load h).documented

/-- Lessons that are read again are those of a document, or they are what they were. -/
theorem documented_reload {w : World} (h : w.catalog.Documented) :
    (reload.perform w).2.catalog.Documented := by
  unfold reload
  rw [Act.perform_bind_ok (Act.perform_get w)]
  cases hsource : w.catalog.source with
  | none => exact h
  | some p =>
    cases hread : lessonsInFile w.host.files p with
    | error e =>
      simp only
      rw [hread, Act.perform_bind_error (Act.perform_ofExcept _ w)]
      exact h
    | ok found =>
      simp only
      rw [hread, Act.perform_bind_ok (Act.perform_ofExcept _ w)]
      cases found with
      | error warning => exact h
      | ok lessons => exact Read.documented (.inr (of_lessonsInFile hread))

/-- The reply of an effect that is read from a part of a tidy value is tidy. -/
theorem tidy_reply_of_part {part document : Json} {e : Effect} (hpart : Json.Part part document)
    (hdocument : document.Tidy) (h : Effect.ofJson part = .ok e) : e.reply.Tidy := by
  unfold Effect.ofJson at h
  split at h
  · rename_i members
    obtain ⟨sideEffects, -, h⟩ := of_bind_eq_ok h
    cases h
    exact (hdocument.part hpart).getD Json.tidy_null "reply"
  · cases h

/-- The replies in the bundled lessons are tidy. -/
theorem tidy_reply_bundled : ∀ l ∈ bundledLessons, ∀ task ∈ l.practice, ∀ m ∈ task.2.effects,
    m.2.reply.Tidy := by
  simp only [bundledLessons, Bundled.findLessons, Bundled.firstCommand, Bundled.watchEvents,
    Bundled.answer, List.forall_mem_cons, Json.tidy_str, Json.tidy_obj]
  simp

/-- The replies in lessons that were read from a text are tidy. -/
theorem Read.tidy_reply (h : c.Read) {key : TaskKey} {t : Task} {code : String} {e : Effect}
    (ht : c.task? key.1 key.2 = some t) (he : t.effects.get? code = some e) : e.reply.Tidy := by
  obtain ⟨l, hl, hpractice⟩ := Option.bind_eq_some_iff.mp ht
  have hl := (of_lesson?_eq_some hl).1
  have hpractice := Table.mem_of_get? hpractice
  have he := Table.mem_of_get? he
  rcases h with hbundled | ⟨text, htext⟩
  · exact tidy_reply_bundled l (hbundled ▸ hl) _ hpractice _ he
  · obtain ⟨document, hread, hdocument⟩ := of_bind_eq_ok htext
    obtain ⟨part, hpart, heffect⟩ := effect_of_document hdocument hl hpractice he
    exact tidy_reply_of_part hpart (tidy_of_readJson hread) heffect

end Catalog

end Tutor
