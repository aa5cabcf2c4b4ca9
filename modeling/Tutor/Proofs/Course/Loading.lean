import Tutor.Course.Loading
import Tutor.Proofs.Acts
import Tutor.Proofs.Flaws

namespace Tutor

/-!
# Loading that fails

Whatever is wrong with a file of lessons should become a warning. It does, with one exception: the
clients of a lesson may be a value that holds no others.

* `Tolerated` — a result whose failure, if it is one, loading goes on after;
* `Unlistable` — a lesson whose clients cannot be listed; by `unlistable_of_failure` there is no
  other way in which reading a lesson fails hard;
* `Catalog.Blocks` — a file with such a lesson, and no other flaw before it;
* `Catalog.loading_fails_iff` — loading a file, finding a catalog and reading it again fail hard
  exactly when such a file is met.
-/

/-! ### Failures that are tolerated -/

/-- The result is fine, or loading goes on after its failure. -/
def Tolerated {α : Type} (r : Except Failure α) : Prop :=
  ∀ e, r = .error e → Catalog.isTolerated e = true

namespace Tolerated

variable {α β : Type}

theorem ok (x : α) : Tolerated (.ok x : Except Failure α) := fun _ h => nomatch h

theorem fault (f : Fault) : Tolerated (.error (.fault f) : Except Failure α) := fun _ h => by
  cases h
  rfl

/-- What two results make together is tolerated if both are. -/
theorem bind {r : Except Failure α} {f : α → Except Failure β} (hr : Tolerated r)
    (hf : ∀ x, Tolerated (f x)) : Tolerated (r >>= f) := by
  intro e h
  cases r with
  | error e' =>
    cases h
    exact hr e rfl
  | ok x => exact hf x e h

/-- What several readings make together is tolerated if each of them is. -/
theorem mapValuesM {read : String → α → Except Failure β} (h : ∀ k v, Tolerated (read k v))
    (members : List (String × α)) : Tolerated (Tutor.mapValuesM read members) := by
  induction members with
  | nil => exact ok _
  | cons m rest ih =>
    obtain ⟨k, v⟩ := m
    rw [Tutor.mapValuesM]
    exact (h k v).bind fun _ => ih.bind fun _ => ok _

end Tolerated

/-! ### Parts of a lesson -/

/-- Every flaw of an input is tolerated. -/
theorem tolerated_inputSpec (raw : Json) : Tolerated (InputSpec.ofJson raw) := by
  unfold InputSpec.ofJson
  split
  · exact .ok _
  · split
    · split
      · exact .ok _
      · split
        · exact .fault _
        · exact .ok _
    · exact .fault _
  · exact .fault _

/-- Every flaw of a list of side effects is tolerated. -/
theorem tolerated_sideEffects (raw : Json) : Tolerated (sideEffectsOf raw) := by
  unfold sideEffectsOf
  split
  · exact .ok _
  · split
    · exact .fault _
    · exact .ok _

/-- Every flaw of an effect is tolerated. -/
theorem tolerated_effect (raw : Json) : Tolerated (Effect.ofJson raw) := by
  unfold Effect.ofJson
  split
  · exact (tolerated_sideEffects _).bind fun _ => .ok _
  · exact .fault _

/-- Every flaw of a task is tolerated. -/
theorem tolerated_task (id : String) (raw : Json) : Tolerated (Task.ofJson id raw) := by
  unfold Task.ofJson
  split
  · split
    · refine (tolerated_inputSpec _).bind fun input => ?_
      exact (Tolerated.mapValuesM (fun _ => tolerated_effect) _).bind fun _ => .ok _
    · exact .fault _
    · exact .fault _
  · exact .fault _

/-! ### Lessons -/

/-- Null, booleans and numbers: the values that hold no others. -/
def Json.IsAtom : Json → Prop
  | .null | .bool _ | .int _ | .float _ => True
  | .str _ | .arr _ | .obj _ => False

/-- A lesson whose clients cannot be listed; what is looked at before them is as it should be. -/
structure Unlistable (raw : Json) : Prop where
  members : ∃ ms, raw = .obj ms
  practice : ∃ tasks, raw.getD "practice" (.obj []) = .obj tasks
  name : ∃ name, raw.get? "name" = some name
  clients : (raw.getD "available_to" (.arr [])).IsAtom

/-- The values that a value holds are listed unless it is an atom. -/
theorem Json.elements_cases (j : Json) :
    (j.IsAtom ∧ j.elements = .error .wrongKind) ∨ ∃ items, j.elements = .ok items := by
  cases j with
  | null => exact .inl ⟨trivial, rfl⟩
  | bool b => exact .inl ⟨trivial, rfl⟩
  | int n => exact .inl ⟨trivial, rfl⟩
  | float x => exact .inl ⟨trivial, rfl⟩
  | str s => exact .inr ⟨_, rfl⟩
  | arr items => exact .inr ⟨_, rfl⟩
  | obj members => exact .inr ⟨_, rfl⟩

/-- An atom holds no values that could be listed. -/
theorem Json.elements_of_isAtom {j : Json} (h : j.IsAtom) : j.elements = .error .wrongKind := by
  cases j with
  | null | bool _ | int _ | float _ => rfl
  | str _ | arr _ | obj _ => exact h.elim

/-- A lesson whose clients cannot be listed fails hard. -/
theorem lesson_of_unlistable {raw : Json} (h : Unlistable raw) :
    Lesson.ofJson raw = .error .wrongKind := by
  obtain ⟨⟨ms, rfl⟩, ⟨tasks, hpractice⟩, ⟨name, hname⟩, hclients⟩ := h
  unfold Lesson.ofJson
  simp only [hpractice, hname]
  rw [Json.elements_of_isAtom hclients]
  rfl

/-- Every other flaw of a lesson is tolerated. -/
theorem unlistable_of_failure {raw : Json} {e : Failure} (h : Lesson.ofJson raw = .error e) :
    Catalog.isTolerated e = true ∨ Unlistable raw := by
  unfold Lesson.ofJson at h
  split at h
  · rename_i ms
    split at h
    · rename_i tasks name hpractice hname
      -- the clients are listed before the tasks are read
      rcases Json.elements_cases ((Json.obj ms).getD "available_to" (.arr [])) with
        ⟨hatom, -⟩ | ⟨items, hitems⟩
      · exact .inr ⟨⟨ms, rfl⟩, ⟨tasks, hpractice⟩, ⟨name, hname⟩, hatom⟩
      · rw [hitems] at h
        exact .inl ((Tolerated.mapValuesM tolerated_task _).bind (fun _ => .ok _) e h)
    · cases h
      exact .inl rfl
    · cases h
      exact .inl rfl
  · cases h
    exact .inl rfl

/-! ### Documents -/

/-- A document in which the first lesson with a flaw is one whose clients cannot be listed. -/
def Blocked (document : Json) : Prop :=
  ∃ before lesson after, document = .arr (before ++ lesson :: after) ∧
    (∀ l ∈ before, ∃ r, Lesson.ofJson l = .ok r) ∧ Unlistable lesson

/-- A blocked document fails hard. -/
theorem lessons_of_blocked {document : Json} (h : Blocked document) :
    lessonsOfJson document = .error .wrongKind := by
  obtain ⟨before, lesson, after, rfl, hbefore, hlesson⟩ := h
  exact mapM_eq_error_iff.mpr ⟨before, lesson, after, rfl, hbefore, lesson_of_unlistable hlesson⟩

/-- Every other flaw of a document is tolerated. -/
theorem blocked_of_failure {document : Json} {e : Failure} (h : lessonsOfJson document = .error e) :
    Catalog.isTolerated e = true ∨ Blocked document := by
  unfold lessonsOfJson at h
  split at h
  · obtain ⟨before, lesson, after, rfl, hbefore, hlesson⟩ := mapM_eq_error_iff.mp h
    exact (unlistable_of_failure hlesson).imp_right fun hu =>
      ⟨before, lesson, after, rfl, hbefore, hu⟩
  · cases h
    exact .inl rfl

namespace Catalog

/-! ### Files -/

/-- A file with a blocked document in it. -/
def Blocks (files : Files) (p : Path) : Prop :=
  ∃ text document, textInFile files p = .ok text ∧ readJson text = .ok document ∧ Blocked document

/-- Every failure to get at the text of a file is tolerated. -/
theorem tolerated_textInFile (files : Files) (p : Path) : Tolerated (textInFile files p) := by
  intro e h
  unfold textInFile at h
  split at h
  · cases h
    rfl
  · split at h
    · cases h
      rfl
    · split at h <;> cases h
      rfl

/-- Every failure to read JSON is tolerated. -/
theorem tolerated_readJson (text : String) : Tolerated (readJson text) := by
  intro e h
  unfold readJson at h
  cases hr : Json.read text with
  | ok j =>
    rw [hr] at h
    cases h
  | error f =>
    rw [hr] at h
    cases h
    cases f <;> rfl

/-- A file that blocks fails hard. -/
theorem lessonsInFile_of_blocks {files : Files} {p : Path} (h : Blocks files p) :
    lessonsInFile files p = .error .wrongKind := by
  obtain ⟨text, document, htext, hjson, hblocked⟩ := h
  have hlessons : (textInFile files p).bind lessonsOfText = .error .wrongKind := by
    rw [htext]
    show (readJson text).bind lessonsOfJson = _
    rw [hjson]
    exact lessons_of_blocked hblocked
  unfold lessonsInFile
  rw [hlessons]
  rfl

/-- Every other file gives its lessons, or a warning that names it. -/
theorem lessonsInFile_of_not_blocks {files : Files} {p : Path} (h : ¬ Blocks files p) :
    (∃ lessons, (textInFile files p).bind lessonsOfText = .ok lessons ∧
      lessonsInFile files p = .ok (.ok lessons)) ∨
      ∃ e, (textInFile files p).bind lessonsOfText = .error e ∧
        lessonsInFile files p = .ok (.error s!"Unable to load {p.toString}: {e.text}") := by
  unfold lessonsInFile
  cases hr : (textInFile files p).bind lessonsOfText with
  | ok lessons => exact .inl ⟨lessons, rfl, rfl⟩
  | error e =>
    have htolerated : isTolerated e = true := by
      -- the text, the JSON or the document may be what fails
      cases htext : textInFile files p with
      | error f =>
        rw [htext] at hr
        cases hr
        exact tolerated_textInFile files p e htext
      | ok text =>
        rw [htext] at hr
        cases hjson : readJson text with
        | error f =>
          have hfail : (readJson text).bind lessonsOfJson = .error e := hr
          rw [hjson] at hfail
          cases hfail
          exact tolerated_readJson text e hjson
        | ok document =>
          have hfail : (readJson text).bind lessonsOfJson = .error e := hr
          rw [hjson] at hfail
          exact (blocked_of_failure hfail).resolve_right fun hb =>
            h ⟨text, document, htext, hjson, hb⟩
    exact .inr ⟨e, rfl, by simp only [if_pos htolerated]⟩

/-! ### Catalogs -/

/-- Each file gives a warning. -/
def Warned (files : Files) (paths : List Path) (warnings : List String) : Prop :=
  paths.map (lessonsInFile files) = warnings.map fun m => .ok (.error m)

/-- Of files of which the first ones give warnings, the next one decides. -/
theorem firstReadable_append {files : Files} {before : List Path} {warnings : List String}
    (h : Warned files before warnings) (rest : List Path) (earlier : List String) :
    firstReadable files (before ++ rest) earlier
      = firstReadable files rest (earlier ++ warnings) := by
  induction before generalizing warnings earlier with
  | nil =>
    cases warnings with
    | nil => rw [List.nil_append, List.append_nil]
    | cons m ms => cases h
  | cons p others ih =>
    cases warnings with
    | nil => cases h
    | cons m ms =>
      obtain ⟨hp, hothers⟩ := List.cons.inj h
      rw [List.cons_append, firstReadable, hp]
      show firstReadable files (others ++ rest) (earlier ++ [m]) = _
      rw [ih hothers, List.append_assoc]
      rfl

/-- Some files give warnings; then one gives lessons or blocks, or there are no more. -/
theorem warned_cases (files : Files) (paths : List Path) :
    ∃ before warnings rest, paths = before ++ rest ∧ Warned files before warnings ∧
      (rest = [] ∨ ∃ p after, rest = p :: after ∧
        (Blocks files p ∨ ∃ lessons, lessonsInFile files p = .ok (.ok lessons))) := by
  induction paths with
  | nil => exact ⟨[], [], [], rfl, rfl, .inl rfl⟩
  | cons p others ih =>
    by_cases hblocks : Blocks files p
    · exact ⟨[], [], p :: others, rfl, rfl, .inr ⟨p, others, rfl, .inl hblocks⟩⟩
    · rcases lessonsInFile_of_not_blocks hblocks with ⟨lessons, -, hp⟩ | ⟨e, -, hp⟩
      · exact ⟨[], [], p :: others, rfl, rfl, .inr ⟨p, others, rfl, .inr ⟨lessons, hp⟩⟩⟩
      · obtain ⟨before, warnings, rest, rfl, hwarned, hrest⟩ := ih
        have hfirst : Warned files (p :: before)
            (s!"Unable to load {p.toString}: {e.text}" :: warnings) := by
          unfold Warned at hwarned ⊢
          rw [List.map_cons, List.map_cons, hp, hwarned]
        exact ⟨p :: before, _, rest, rfl, hfirst, hrest⟩

/-- The user's file is among the candidates if it is there. -/
theorem candidates_of_exists {host : Host} {own : Path} {found : Bool}
    (hown : userFile host = .ok own) (h : host.files.exists? own = .ok found)
    (explicit : Option String) :
    candidates host explicit = .ok (askedFor explicit ++ if found then [own] else []) := by
  simp only [candidates, hown, h, bind, Except.bind, Except.mapError]
  cases found with
  | true => rfl
  | false => rw [if_neg Bool.false_ne_true, if_neg Bool.false_ne_true, List.append_nil]

/-- Whether the user's file is there cannot even be asked if its name is too long. -/
theorem candidates_of_not_exists {host : Host} {own : Path} {f : FileFault}
    (hown : userFile host = .ok own) (h : host.files.exists? own = .error f)
    (explicit : Option String) : candidates host explicit = .error (.file f) := by
  simp only [candidates, hown, h, bind, Except.bind, Except.mapError]

/-- Without a home directory it cannot be named. -/
theorem candidates_of_nameless {host : Host} {e : Failure} (h : userFile host = .error e)
    (explicit : Option String) : candidates host explicit = .error e := by
  unfold candidates
  rw [h]
  rfl

/-- The user's file can be named unless there is no home directory. -/
theorem userFile_eq_error {host : Host} {e : Failure} (h : userFile host = .error e) :
    e = .noHome := by
  have hhome : ∀ e, homeOf host = .error e → e = .noHome := by
    intro e he
    unfold homeOf at he
    split at he
    · cases he; rfl
    · split at he
      · cases he
      · cases he; rfl
      · cases he
  unfold userFile configurationOf at h
  split at h
  · cases h
  · cases hname : homeOf host with
    | ok home => rw [hname] at h; cases h
    | error e' =>
      rw [hname] at h
      cases h
      exact hhome _ hname

/-- Warnings never fail. -/
theorem perform_warn (warnings : List String) (w : World) :
    ∃ j, (warn warnings).perform w = (.ok (), { w with journal := j }) := by
  induction warnings generalizing w with
  | nil => exact ⟨w.journal, rfl⟩
  | cons m rest ih =>
    obtain ⟨j, h⟩ := ih { w with journal := .log .warning .catalog m :: w.journal }
    refine ⟨j, ?_⟩
    rw [warn, Act.perform_bind_ok (Act.perform_log _ _ _ w), h]

/-- A catalog that is found is used. -/
theorem perform_load_ok {explicit : Option String} {w : World} {c : Catalog}
    (h : find w.host explicit = .ok c) :
    ∃ j, (load explicit).perform w = (.ok (), { w with catalog := c, journal := j }) := by
  obtain ⟨j, hwarn⟩ := perform_warn c.warnings { w with catalog := c }
  refine ⟨j, ?_⟩
  unfold load use
  rw [Act.perform_bind_ok (Act.perform_get w),
    Act.perform_bind_ok (Act.perform_ofExcept_eq h w),
    Act.perform_bind_ok (Act.perform_modify _ w), hwarn]

/-- A failure to find a catalog changes nothing. -/
theorem perform_load_error {explicit : Option String} {w : World} {e : Failure}
    (h : find w.host explicit = .error e) : (load explicit).perform w = (.error e, w) := by
  unfold load
  rw [Act.perform_bind_ok (Act.perform_get w),
    Act.perform_bind_error (Act.perform_ofExcept_eq h w)]

/-- Without a file of its own, there is nothing to read again. -/
theorem perform_reload_bundled {w : World} (h : w.catalog.source = none) :
    reload.perform w = (.ok false, w) := by
  unfold reload
  rw [Act.perform_bind_ok (Act.perform_get w)]
  simp only [h]
  rfl

/-- Reading a file that blocks again fails hard and changes nothing. -/
theorem perform_reload_blocks {w : World} {p : Path} (h : w.catalog.source = some p)
    (hblocks : Blocks w.host.files p) : reload.perform w = (.error .wrongKind, w) := by
  unfold reload
  rw [Act.perform_bind_ok (Act.perform_get w)]
  simp only [h]
  rw [Act.perform_bind_error (Act.perform_ofExcept_eq (lessonsInFile_of_blocks hblocks) w)]

/-- Reading any other file again tells whether there are new lessons. -/
theorem perform_reload_not_blocks {w : World} {p : Path} (h : w.catalog.source = some p)
    (hblocks : ¬ Blocks w.host.files p) :
    ∃ changed w', reload.perform w = (.ok changed, w') := by
  unfold reload
  rw [Act.perform_bind_ok (Act.perform_get w)]
  simp only [h]
  rcases lessonsInFile_of_not_blocks hblocks with ⟨lessons, -, hok⟩ | ⟨e, -, hok⟩
  · rw [Act.perform_bind_ok (Act.perform_ofExcept_eq hok w)]
    exact ⟨true, _, rfl⟩
  · rw [Act.perform_bind_ok (Act.perform_ofExcept_eq hok w)]
    exact ⟨false, _, rfl⟩

/-! ### The main result -/

/-- When loading fails hard. A file gives its lessons or one warning, unless it blocks. Loading
tries the candidates in order and goes on after each warning: it ends with the first file that gives
lessons, with the bundled lessons, or hard at the first file that blocks; it has no candidates, and
fails, if the user's file cannot be named or cannot be asked for. Reading the file of the catalog
again tells whether there are new lessons, unless the file blocks.

A document is the value that is read from its text, in which each escaped surrogate without its other
half stands as U+FFFD: documents that differ only in such halves are one document here. -/
theorem loading_fails_iff (w : World) :
    (∀ p, (Blocks w.host.files p ∧ lessonsInFile w.host.files p = .error .wrongKind) ∨
      (¬ Blocks w.host.files p ∧
        ((∃ lessons, lessonsInFile w.host.files p = .ok (.ok lessons)) ∨
          ∃ why : String, lessonsInFile w.host.files p
            = .ok (.error s!"Unable to load {p.toString}: {why}")))) ∧
      (∀ explicit own found, userFile w.host = .ok own →
        w.host.files.exists? own = .ok found →
        ∃ before warnings rest,
          askedFor explicit ++ (if found then [own] else []) = before ++ rest ∧
          Warned w.host.files before warnings ∧
          ((rest = [] ∧ ∃ j, (load explicit).perform w
              = (.ok (), { w with catalog := ⟨bundledLessons, warnings, none⟩, journal := j })) ∨
            ∃ p after, rest = p :: after ∧
              ((Blocks w.host.files p ∧ (load explicit).perform w = (.error .wrongKind, w)) ∨
                ∃ lessons j, lessonsInFile w.host.files p = .ok (.ok lessons) ∧
                  (load explicit).perform w
                    = (.ok (), { w with catalog := ⟨lessons, warnings, some p⟩, journal := j })))) ∧
      (∀ explicit own f, userFile w.host = .ok own → w.host.files.exists? own = .error f →
        (load explicit).perform w = (.error (.file f), w)) ∧
      (∀ explicit e, userFile w.host = .error e →
        e = .noHome ∧ (load explicit).perform w = (.error e, w)) ∧
      ((∃ changed, (reload.perform w).1 = .ok changed) ↔
        ¬ ∃ p, w.catalog.source = some p ∧ Blocks w.host.files p) := by
  refine ⟨fun p => ?file, fun explicit own found hown hfound => ?candidates,
    fun explicit own f hown hfound => ?unasked, fun explicit e hown => ?nameless, ?again⟩
  case file =>
    by_cases hblocks : Blocks w.host.files p
    · exact .inl ⟨hblocks, lessonsInFile_of_blocks hblocks⟩
    · refine .inr ⟨hblocks, ?_⟩
      rcases lessonsInFile_of_not_blocks hblocks with ⟨lessons, -, hok⟩ | ⟨e, -, hok⟩
      · exact .inl ⟨lessons, hok⟩
      · exact .inr ⟨e.text, hok⟩
  case candidates =>
    -- the candidates that only warn come first; what follows them decides
    obtain ⟨before, warnings, rest, hsplit, hwarned, hrest⟩ := warned_cases w.host.files
      (askedFor explicit ++ if found then [own] else [])
    have hfind : find w.host explicit = firstReadable w.host.files rest warnings := by
      unfold find
      rw [candidates_of_exists hown hfound, hsplit]
      exact firstReadable_append hwarned rest []
    refine ⟨before, warnings, rest, hsplit, hwarned, ?_⟩
    rcases hrest with rfl | ⟨p, after, rfl, hblocks | ⟨lessons, hok⟩⟩
    · -- none is left: the bundled lessons are used
      exact .inl ⟨rfl, perform_load_ok hfind⟩
    · -- the next one blocks
      rw [firstReadable, lessonsInFile_of_blocks hblocks] at hfind
      exact .inr ⟨p, after, rfl, .inl ⟨hblocks, perform_load_error hfind⟩⟩
    · -- the next one gives its lessons
      rw [firstReadable, hok] at hfind
      obtain ⟨j, hload⟩ := perform_load_ok hfind
      exact .inr ⟨p, after, rfl, .inr ⟨lessons, j, hok, hload⟩⟩
  case unasked =>
    apply perform_load_error
    unfold find
    rw [candidates_of_not_exists hown hfound]
    rfl
  case nameless =>
    refine ⟨userFile_eq_error hown, perform_load_error ?_⟩
    unfold find
    rw [candidates_of_nameless hown]
    rfl
  case again =>
    cases hsource : w.catalog.source with
    | none =>
      rw [perform_reload_bundled hsource]
      exact ⟨fun _ ⟨p, hp, _⟩ => (nomatch hp), fun _ => ⟨false, rfl⟩⟩
    | some p =>
      by_cases hblocks : Blocks w.host.files p
      · rw [perform_reload_blocks hsource hblocks]
        exact ⟨fun ⟨_, h⟩ => (nomatch h), fun h => absurd ⟨p, rfl, hblocks⟩ h⟩
      · obtain ⟨changed, w', h⟩ := perform_reload_not_blocks hsource hblocks
        refine ⟨fun _ ⟨q, hq, hb⟩ => ?_, fun _ => ⟨changed, by rw [h]⟩⟩
        cases hq
        exact hblocks hb

/-- A lesson whose clients are a number: its file gives neither lessons nor a warning. -/
theorem loading_fails_on_number :
    ¬ ∀ (files : Files) (p : Path), ∃ r, lessonsInFile files p = .ok r := by
  intro h
  let bytes := "[\x7b\"name\": \"x\", \"available_to\": 5\x7d]".toUTF8.toList
  let files : Files := { entries := [(["work", "bad.json"], .file bytes)] }
  obtain ⟨r, hr⟩ := h files (.ofString "bad.json")
  have hnone : (lessonsInFile files (.ofString "bad.json")).toOption.isNone = true := by
    decide +kernel
  rw [hr] at hnone
  cases hnone

end Catalog

end Tutor
