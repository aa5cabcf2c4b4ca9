import Tutor.Proofs.Settings.Migration
import Tutor.Proofs.Settings.Store

namespace Tutor.Settings

/-!
# Beginning to use a file as a database

What becomes of the texts of a file when a store is opened, on this file or on another one.

* `textsAt` — the texts of the database at a spot; `Opened` says that it is open there;
* `Turns` — the texts change in some way while everything else that matters to stores stays, and
  `Same` — they do not change: `same_of_raised` and `same_of_clear` for what happens elsewhere;
* `Attached`, `perform_attachAt` — what is done to a file before the database in it is read;
* `perform_adopt_cases` — what is done to it then, and `perform_openPath_cases` — all of it: no
  texts change, and a store that is open afterwards is `Settled`;
* `perform_openPath_opened` — a database of this schema can always be opened again.
-/

/-! ### The texts of a file -/

/-- The texts of the database at a spot; none where there is no database yet. -/
def textsAt (files : Files) (s : Spot) : Option (Table String String) :=
  match files.node? s with
  | some (.database d) => textsOf d
  | _ => some []

/-- A database of this schema lies at the spot, and nothing is left to be done before it is read. -/
structure Opened (files : Files) (s : Spot) : Prop extends Ready files s where
  database : ∃ d, files.node? s = some (.database d) ∧ d.version = schemaVersion

/-- The directories stay, and so does an open database at the spot, with its texts changed. -/
structure Turns (s : Spot) (change : Table String String → Table String String)
    (files files' : Files) : Prop extends Files.Keep files files' where
  opened : Opened files s → Opened files' s
  texts : textsAt files' s = (textsAt files s).map change

/-- The texts at the spot are as they were. -/
abbrev Same (s : Spot) (files files' : Files) : Prop :=
  Turns s (fun t => t) files files'

variable {files files' files'' : Files} {p : Path} {s t : Spot}

theorem Turns.trans {change change' : Table String String → Table String String}
    (h : Turns s change files files') (h' : Turns s change' files' files'') :
    Turns s (fun t => change' (change t)) files files'' where
  toKeep := h.toKeep.trans h'.toKeep
  opened hopen := h'.opened (h.opened hopen)
  texts := by
    rw [h'.texts, h.texts, Option.map_map]
    rfl

/-- Nothing changes if nothing is to change, or where there are no texts at all. -/
theorem turns_self {change : Table String String → Table String String}
    (h : change = id ∨ textsAt files s = none) : Turns s change files files where
  directory := rfl
  directories _ h := h
  opened h := h
  texts := by
    rcases h with rfl | hs
    · rw [Option.map_id]
      rfl
    · rw [hs]
      rfl

theorem Same.refl (s : Spot) (files : Files) : Same s files files :=
  turns_self (.inl rfl)

/-- An open database is there. -/
theorem Opened.found (h : Opened files s) :
    ∃ d, Found files s d ∧ d.version = schemaVersion := by
  obtain ⟨d, hd, hversion⟩ := h.database
  exact ⟨d, ⟨hd, h.unbarred⟩, hversion⟩

/-- There is a directory at the top. -/
theorem ne_nil_of_not_directory (h : isDirectory files s = false) : s ≠ [] := by
  rintro rfl
  cases h

/-- A database does not lie at the top. -/
theorem Opened.ne_nil (h : Opened files s) : s ≠ [] := by
  obtain ⟨d, hd, -⟩ := h.found
  exact ne_nil_of_not_directory hd.not_directory

/-- An open database stays open if its place and those beside it are as they were. -/
theorem Opened.congr (h : Opened files s) (hs : files'.node? s = files.node? s)
    (hbesides : ∀ x ∈ besides s, files'.node? x = files.node? x) : Opened files' s where
  toReady := h.toReady.congr (isFresh_congr hs) hbesides
  database := by
    rw [hs]
    exact h.database

/-- Directories that are made elsewhere are nothing to texts. -/
theorem same_of_raised {on : Spot → Prop} (h : files.Raised on files')
    (hon : ∀ x ∈ besides s, ¬ on x) : Same s files files' where
  toKeep := h.changed.toKeep
  opened hopen := by
    obtain ⟨d, hd, -⟩ := hopen.database
    exact hopen.congr ((h.node? hd).trans hd.symm) fun x hx => h.changed.elsewhere x (hon x hx)
  texts := by
    rw [Option.map_id']
    unfold textsAt
    rcases h.nodes s with hs | ⟨-, hnone, hs⟩
    · rw [hs]
    · rw [hs, hnone]

/-- What happens about one database is nothing to the texts of another one, unless one of them lies
beside the other. -/
theorem same_of_changed (h : files.Changed (About t) files') (hst : s ≠ t) (ht : t ≠ [])
    (hs : s ∉ besides t) (ht' : t ∉ besides s) : Same s files files' where
  toKeep := h.toKeep
  opened hopen := by
    refine hopen.congr (h.elsewhere s ?_) fun x hx => h.elsewhere x ?_
    · exact fun hon => hon.elim hst hs
    · rintro (rfl | hx')
      · exact ht' hx
      · exact disjoint_besides hopen.ne_nil ht hst hx hx'
  texts := by
    rw [Option.map_id', textsAt, textsAt, h.elsewhere s fun hon => hon.elim hst hs]

/-- Clearing up beside a file is nothing to its texts. -/
theorem same_of_tended (h : Tended s files files') (hopen : Opened files s → files' = files) :
    Same s files files' where
  toKeep := h.toKeep
  opened ho := by
    rw [hopen ho]
    exact ho
  texts := by
    rw [Option.map_id', textsAt, textsAt]
    rcases h.here with hs | ⟨hnone, hs⟩
    · rw [hs]
    · rw [hnone, hs]

/-! ### Making a file ready -/

variable {w : World} {d : Database}

/-- Making the directories above a path changes nothing else, also when it fails. -/
theorem perform_makeParent_cases (p : Path) (w : World) :
    ∃ r files', (makeParent p).perform w = (r, w.withFiles files') ∧
      w.host.files.Raised (w.host.files.Crosses p) files' := by
  unfold makeParent
  by_cases hnull : p.parent.hasNull = true
  · rw [if_pos hnull]
    exact ⟨_, w.host.files, rfl, .refl _ _⟩
  · rw [if_neg hnull, Act.perform_bind_ok (Act.perform_get w)]
    cases hmake : w.host.files.makeDirs p.parent with
    | error f => exact ⟨_, w.host.files, rfl, .refl _ _⟩
    | ok raised =>
      have hraised := Files.raised_makeDirs hmake
      refine ⟨_, raised, rfl, hraised.directory, fun s => ?_⟩
      refine (hraised.nodes s).imp_right fun hnew => ⟨?_, hnew.2⟩
      have hparent : p.parent = p.upTo (p.names.length - 1) := by
        rw [Path.parent, Path.upTo, List.dropLast_eq_take]
      exact Files.Crosses.of_upTo (hparent ▸ hnew.1)

/-- A step is taken where no directory is in the way, -/
theorem perform_prepare_free {bars : Files → Bool} (h : bars w.host.files = false)
    (step : Files → Files) :
    (prepare bars step).perform w = (.ok (), w.withFiles (step w.host.files)) := by
  unfold prepare
  rw [Act.perform_bind_ok (Act.perform_get w), h]
  rfl

/-- and where one is, this fails. -/
theorem perform_prepare_barred {bars : Files → Bool} (h : bars w.host.files = true)
    (step : Files → Files) :
    (prepare bars step).perform w = (.error (.database .operation), w) := by
  unfold prepare
  rw [Act.perform_bind_ok (Act.perform_get w), h]
  rfl

/-- The files once one of them has been made ready to be used as a database. -/
def cleared (s : Spot) (files : Files) : Files :=
  clearLog s (clearJournal s (touch s files))

/-- Where something lies, no empty file comes to be. -/
theorem touch_of_node? (h : files.node? s ≠ none) : touch s files = files := by
  unfold touch
  split
  · rename_i hnone
    exact absurd hnone h
  · rfl

/-- Where nothing is left to be done, nothing is. -/
theorem cleared_of_ready (h : Ready files s) (hs : files.node? s ≠ none) :
    cleared s files = files := by
  rw [cleared, touch_of_node? hs, h.clearJournal_eq, h.clearLog_eq]

/-- Where no directory is in the way, the file is made ready and the database in it is read. -/
theorem perform_attachAt_free (hs : isDirectory w.host.files s = false)
    (hjournal : journalBarred (touch s w.host.files) s = false)
    (hlog : logBarred (clearJournal s (touch s w.host.files)) s = false) :
    (attachAt s).perform w
      = (databaseOn (cleared s w.host.files) s, w.withFiles (cleared s w.host.files)) := by
  unfold attachAt
  rw [Act.perform_bind_ok (perform_prepare_free hs _),
    Act.perform_bind_ok (perform_prepare_free hjournal _),
    Act.perform_bind_ok (perform_prepare_free hlog _), Act.perform_bind_ok (Act.perform_get _),
    Act.perform_ofExcept]
  rfl

/-- What becomes of the files when one of them is begun to be used as a database. -/
structure Attached (s : Spot) (files files' : Files) (r : Except Failure Database) : Prop where
  tended : Tended s files files'
  /-- Nothing happens if a directory lies there, -/
  directory : isDirectory files s = true → files' = files
  /-- nor if nothing is left to be done. -/
  idle : Ready files s → files.node? s ≠ none → files' = files
  /-- In the end nothing is. -/
  ready : ∀ d, r = .ok d →
    isDirectory files' s = false ∧ Ready files' s ∧ databaseOn files' s = .ok d

/-- Beginning to use a file as a database stops at the first directory that is in the way. -/
theorem perform_attachAt (hfits : fits s = true) (w : World) :
    ∃ r files', (attachAt s).perform w = (r, w.withFiles files') ∧
      Attached s w.host.files files' r := by
  unfold attachAt
  cases hs : isDirectory w.host.files s with
  | true =>
    -- it lies in the place of the file itself
    exact ⟨_, w.host.files, Act.perform_bind_error (perform_prepare_barred hs _), .refl _ _,
      fun _ => rfl, fun _ _ => rfl, nofun⟩
  | false =>
    have hno : isDirectory w.host.files s = true → ∀ files', files' = w.host.files := by
      rw [hs]
      exact nofun
    have htouch := tended_touch hs
    rw [Act.perform_bind_ok (perform_prepare_free hs _)]
    cases hjournal : journalBarred (touch s w.host.files) s with
    | true =>
      -- the file may have come to be before it was met
      exact ⟨_, _, Act.perform_bind_error (perform_prepare_barred hjournal _), htouch, (hno · _),
        fun _ hthere => touch_of_node? hthere, nofun⟩
    | false =>
      have hclear := htouch.trans (tended_clearJournal s _)
      rw [Act.perform_bind_ok (perform_prepare_free hjournal _)]
      cases hlog : logBarred (clearJournal s (touch s w.host.files)) s with
      | true =>
        -- the journal may be gone by then
        refine ⟨_, _, Act.perform_bind_error (perform_prepare_barred hlog _), hclear, (hno · _),
          fun hready hthere => ?_, nofun⟩
        show clearJournal s (touch s w.host.files) = w.host.files
        rw [touch_of_node? hthere, hready.clearJournal_eq]
      | false =>
        have htended := hclear.trans (tended_clearLog hlog)
        rw [Act.perform_bind_ok (perform_prepare_free hlog _),
          Act.perform_bind_ok (Act.perform_get _), Act.perform_ofExcept]
        refine ⟨_, cleared s w.host.files, rfl, htended, (hno · _), cleared_of_ready,
          fun d hd => ⟨?_, ready_of_cleared hfits hjournal hlog, hd⟩⟩
        rw [← hs]
        exact htended.isDirectory_eq

/-- What is done to a file that a path leads to is nothing to the texts of another one, if the two
have nothing to do with each other. -/
theorem same_of_clear (hclear : Clear files p s) (ht : files.place p = t) (hne : t ≠ [])
    (hchanged : files.Changed (About t) files') (hsame : t = s → Same s files files') :
    Same s files files' := by
  by_cases hts : t = s
  · exact hsame hts
  · refine same_of_changed hchanged (Ne.symm hts) hne (ht ▸ hclear.apart) fun hmem => ?_
    exact hclear.way t hmem (ht ▸ files.crosses_place p)

/-- Beginning to use a file as a database is nothing to its texts, nor to those of other files. -/
theorem Attached.same {r : Except Failure Database} (h : Attached t files files' r)
    (hclear : Clear files p s) (ht : files.place p = t) : Same s files files' := by
  cases hdirectory : isDirectory files t with
  | true =>
    rw [h.directory hdirectory]
    exact Same.refl s files
  | false =>
    refine same_of_clear hclear ht (ne_nil_of_not_directory hdirectory) h.tended.toChanged ?_
    rintro rfl
    refine same_of_tended h.tended fun hopen => h.idle hopen.toReady ?_
    obtain ⟨d, hd, -⟩ := hopen.database
    rw [hd]
    exact nofun

/-- Beginning to use the file at a path fails, or begins to use the file where the path leads. -/
theorem perform_attach_cases (p : Path) (w : World) :
    (∃ e, (attach p).perform w = (.error e, w)) ∨
      ∃ s r files', w.host.files.locate p = .ok s ∧
        (attach p).perform w = (r, w.withFiles files') ∧ Attached s w.host.files files' r := by
  unfold attach
  by_cases hnull : p.hasNull = true
  · rw [if_pos hnull]
    exact .inl ⟨_, rfl⟩
  · rw [if_neg hnull, Act.perform_bind_ok (Act.perform_get w)]
    cases hs : w.host.files.locate p with
    | error e => exact .inl ⟨_, rfl⟩
    | ok s =>
      dsimp only
      by_cases hfits : fits s = true
      · rw [if_pos hfits]
        obtain ⟨r, files', hperform, hattached⟩ := perform_attachAt hfits w
        exact .inr ⟨s, r, files', rfl, hperform, hattached⟩
      · rw [if_neg hfits]
        exact .inl ⟨_, rfl⟩

/-! ### Opening a store -/

/-- A database that is brought to the schema keeps its texts. -/
theorem textsOf_migrate {d' : Database} (h : migrate d = .ok d') :
    textsOf d' = textsOf d ∧ d'.version = schemaVersion := by
  by_cases hnewer : schemaVersion < d.version
  · rw [migrate_newer hnewer] at h
    cases h
  · rw [migrate_supported (Int.not_lt.mp hnewer)] at h
    cases h
    exact ⟨if_pos rfl, rfl⟩

/-- A database that is read at a spot has the texts that are there. -/
theorem textsOf_databaseOn (h : databaseOn files s = .ok d) : textsOf d = textsAt files s := by
  unfold textsAt
  rcases databaseOn_cases h with hfound | ⟨hfresh, rfl⟩
  · rw [hfound.node]
  · have hblank : textsOf blank = some [] := rfl
    rcases isFresh_iff.mp hfresh with hnone | hempty
    · rw [hnone, hblank]
    · rw [hempty, hblank]

/-- Connecting to a database that was read changes no texts. If it succeeds, the database is open. -/
theorem perform_adopt_cases (hs : w.host.files.locate p = .ok s)
    (hn : isDirectory w.host.files s = false) (hready : Ready w.host.files s)
    (hd : databaseOn w.host.files s = .ok d) :
    ∃ r c files', (adopt p d).perform w
        = (r, { w with connection := c, host := { w.host with files := files' } }) ∧
      w.host.files.Changed (About s) files' ∧ Same s w.host.files files' ∧
      (c = w.connection ∨ c = .file p ∧ Opened files' s) := by
  have hnothing := Files.Changed.refl (About s) w.host.files
  unfold adopt
  cases hm : migrate d with
  | error e => exact ⟨_, w.connection, _, Act.perform_bind_error rfl, hnothing, .refl _ _, .inl rfl⟩
  | ok d' =>
    obtain ⟨htexts, hversion⟩ := textsOf_migrate hm
    rw [Act.perform_bind_ok (Act.perform_ofExcept _ w)]
    dsimp only
    by_cases hsame : d' = d
    · -- a database of this schema is none that has just come to be
      rw [if_pos hsame]
      have hthere : Found w.host.files s d := by
        refine (databaseOn_cases hd).resolve_right fun hnew => ?_
        rw [hsame, hnew.2] at hversion
        cases hversion
      exact ⟨_, _, _, rfl, hnothing, .refl _ _,
        .inr ⟨rfl, hready, d, hthere.node, hsame ▸ hversion⟩⟩
    · rw [if_neg hsame]
      cases hjournal : isDirectory w.host.files (journalOf s) with
      | true =>
        have hfails : (store p d').perform w = (.error (.database .operation), w) := by
          unfold store
          rw [Act.perform_bind_ok (Act.perform_get w)]
          simp only [hs, hjournal, Bool.or_true, if_true]
          rfl
        exact ⟨_, w.connection, _, Act.perform_bind_error hfails, hnothing, .refl _ _, .inl rfl⟩
      | false =>
        have hchanged := changed_putDatabase hn hjournal d'
        have hnode := node?_putDatabase hn d'
        have hopen : Opened (putDatabase s d' w.host.files) s :=
          ⟨ready_putDatabase hready hjournal d', d', hnode, hversion⟩
        rw [Act.perform_bind_ok (perform_store hs hn hjournal d')]
        refine ⟨_, _, _, rfl, hchanged, ⟨hchanged.toKeep, fun _ => hopen, ?_⟩, .inr ⟨rfl, hopen⟩⟩
        -- what was read at the spot has its texts, also if there was no database yet
        rw [Option.map_id', textsAt, hnode]
        exact htexts.trans (textsOf_databaseOn hd)

/-- The path has nothing to do with the files beside the database at the spot; if it leads there at
all, the database is open. -/
structure Settled (files : Files) (p : Path) (s : Spot) : Prop where
  clear : Clear files p s
  opened : files.place p = s → files.locate p = .ok s ∧ Opened files s

/-- This stays so whatever is stored. -/
theorem Settled.of_turns {change : Table String String → Table String String}
    (h : Settled files p s) (hturns : Turns s change files files') : Settled files' p s where
  clear := h.clear.of_keep hturns.toKeep
  opened hp := by
    rw [hturns.place] at hp
    obtain ⟨hs, hopen⟩ := h.opened hp
    exact ⟨Files.locate_of_keep hturns.toKeep hs, hturns.opened hopen⟩

/-- Opening a store changes no texts of a file that the path has nothing to do with, also when it
fails. It may leave the connection as it is, lead to a database without a file, or lead to an open
database at the path. -/
theorem perform_openPath_cases (hclear : Clear w.host.files p s) :
    ∃ r c files', (openPath p).perform w
        = (r, { w with connection := c, host := { w.host with files := files' } }) ∧
      Same s w.host.files files' ∧
      (c = w.connection ∨ (∃ d, c = .memory d) ∨ c = .file p ∧ Settled files' p s) := by
  obtain ⟨r, raised, hmake, hraised⟩ := perform_makeParent_cases p w
  have hfirst : Same s w.host.files raised := same_of_raised hraised hclear.way
  have hclear₁ : Clear raised p s := hclear.of_keep hfirst.toKeep
  unfold openPath
  cases r with
  | error e => exact ⟨_, w.connection, raised, Act.perform_bind_error hmake, hfirst, .inl rfl⟩
  | ok _ =>
    rw [Act.perform_bind_ok hmake]
    split
    · -- a name that stands for a database without a file
      have hmemory : openMemory.perform (w.withFiles raised) = (.ok (),
          { w.withFiles raised with connection := .memory ⟨schemaVersion, some []⟩ }) := rfl
      exact ⟨_, _, raised, hmemory, hfirst, .inr (.inl ⟨_, rfl⟩)⟩
    · rcases perform_attach_cases p (w.withFiles raised) with
        ⟨e, hattach⟩ | ⟨t, r, files₁, ht, hattach, hattached⟩
      · exact ⟨_, w.connection, raised, Act.perform_bind_error hattach, hfirst, .inl rfl⟩
      · have hplace : raised.place p = t := Files.place_of_locate ht
        have hsecond : Same s raised files₁ := hattached.same hclear₁ hplace
        cases r with
        | error e =>
          exact ⟨_, w.connection, files₁, Act.perform_bind_error hattach,
            hfirst.trans hsecond, .inl rfl⟩
        | ok d =>
          obtain ⟨hn, hready, hd⟩ := hattached.ready d rfl
          have ht₁ : files₁.locate p = .ok t := Files.locate_of_keep hattached.tended.toKeep ht
          obtain ⟨r, c, files', hadopt, hchanged, hsame, hc⟩ :=
            perform_adopt_cases (w := w.withFiles files₁) ht₁ hn hready hd
          have hclear₂ : Clear files₁ p s := hclear₁.of_keep hsecond.toKeep
          have hplace₁ : files₁.place p = t := Files.place_of_locate ht₁
          have hthird : Same s files₁ files' :=
            same_of_clear hclear₂ hplace₁ (ne_nil_of_not_directory hn) hchanged
              fun hts => hts ▸ hsame
          rw [Act.perform_bind_ok hattach]
          refine ⟨r, c, files', hadopt, (hfirst.trans hsecond).trans hthird, ?_⟩
          refine hc.imp_right fun hc => .inr ⟨hc.1, hclear₂.of_keep hthird.toKeep, fun hp => ?_⟩
          obtain rfl : t = s := by rw [← hp, hthird.place, hplace₁]
          exact ⟨Files.locate_of_keep hthird.toKeep ht₁, hc.2⟩

/-! ### Opening a store again -/

/-- The directories above a path are made if they can be. -/
theorem perform_makeParent (hnull : p.hasNull = false)
    (hmake : w.host.files.makeDirs p.parent = .ok files) :
    (makeParent p).perform w = (.ok (), w.withFiles files) := by
  have hparent : p.parent.hasNull = false := by
    refine List.any_eq_false.mpr fun name hname => ?_
    exact List.any_eq_false.mp hnull name (List.dropLast_subset _ hname)
  unfold makeParent
  rw [hparent, if_neg Bool.false_ne_true, Act.perform_bind_ok (Act.perform_get w), hmake]
  rfl

/-- Where there is a file, they need not be made. -/
theorem perform_makeParent_of_locate (hnull : p.hasNull = false)
    (hs : w.host.files.locate p = .ok s) : (makeParent p).perform w = (.ok (), w) :=
  perform_makeParent hnull (Files.makeDirs_parent hs)

/-- A file that can be named is begun to be used where the path leads. -/
theorem perform_attach_eq (hnull : p.hasNull = false) (hs : w.host.files.locate p = .ok s)
    (hfits : fits s = true) : (attach p).perform w = (attachAt s).perform w := by
  unfold attach
  rw [hnull, if_neg Bool.false_ne_true, Act.perform_bind_ok (Act.perform_get w), hs]
  dsimp only
  rw [if_pos hfits]

/-- A database that can be read as it is, is read. -/
theorem perform_attachAt_ready (hready : Ready w.host.files s) (hd : Found w.host.files s d) :
    (attachAt s).perform w = (.ok d, w) := by
  have hthere : w.host.files.node? s ≠ none := by
    rw [hd.node]
    exact nofun
  have hunbarred := hready.unbarred
  rw [barred, Bool.or_eq_false_iff] at hunbarred
  rw [perform_attachAt_free hd.not_directory, cleared_of_ready hready hthere, hd.databaseOn_eq]
  · rw [touch_of_node? hthere]
    exact hunbarred.1
  · rw [touch_of_node? hthere, hready.clearJournal_eq]
    exact hunbarred.2

/-- A database of this schema can be opened again. -/
theorem perform_openPath_opened (hnull : p.hasNull = false) (hname : p.toString ≠ memoryName)
    (hs : w.host.files.locate p = .ok s) (hopen : Opened w.host.files s) :
    (openPath p).perform w = (.ok (), { w with connection := .file p }) := by
  obtain ⟨d, hd, hversion⟩ := hopen.found
  have hname : ¬ (p.toString == memoryName) = true := fun h => hname (beq_iff_eq.mp h)
  have hattach : (attach p).perform w = (.ok d, w) := by
    rw [perform_attach_eq hnull hs hopen.fits, perform_attachAt_ready hopen.toReady hd]
  have hsame : migrate d = .ok d := by
    rw [migrate_supported (Int.le_of_eq hversion), textsOf, if_pos hversion, ← hversion]
  unfold openPath
  rw [Act.perform_bind_ok (perform_makeParent_of_locate hnull hs), if_neg hname,
    Act.perform_bind_ok hattach]
  unfold adopt
  rw [hsame, Act.perform_bind_ok (Act.perform_ofExcept _ w), if_pos rfl]
  rfl

end Tutor.Settings
