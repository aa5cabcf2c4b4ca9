import Tutor.Proofs.Settings.Stores

namespace Tutor.Settings

/-!
# Opening a file

What opening a store makes of a file, for every schema version that the database in it may claim to
have.

* `Usable` — a database can be kept at a spot: no directory is in the way;
* `OpenOn` — the connection leads to a file with these texts, in the schema of this program;
* `writeAll`, `perform_writeAll` — what is written to such a store comes to the texts of the file;
* `lookup_of_changed` — what is done about a file is nothing to paths that lead elsewhere;
* `perform_openPath_over` — opening a database keeps its texts, and `perform_openPath_new` — opening
  where none is yet makes one without texts;
* `opening_keeps_data` — all of it together, and what happens to a database of a newer schema.
-/

variable {w : World} {files files' : Files} {p : Path} {s : Spot} {t : Table String String}

/-- A database can be kept at the spot: its journal can be named, and no directory lies beside it. -/
structure Usable (files : Files) (s : Spot) : Prop where
  fits : fits s = true
  free : ∀ x ∈ besides s, isDirectory files x = false

instance (files : Files) (s : Spot) : Decidable (Usable files s) :=
  decidable_of_iff (_ ∧ _) ⟨fun h => ⟨h.1, h.2⟩, fun h => ⟨h.fits, h.free⟩⟩

theorem Usable.putDatabase (h : Usable files s) (d : Database) :
    Usable (putDatabase s d files) s :=
  ⟨h.fits, fun x hx => isDirectory_putDatabase (h.free x hx) d⟩

/-- The connection leads to a file at the spot that has these texts, no directory is in the way, and
nothing is left to be done before they are read. -/
structure OpenOn (p : Path) (s : Spot) (t : Table String String) (w : World) : Prop where
  connection : w.connection = .file p
  locate : w.host.files.locate p = .ok s
  usable : Usable w.host.files s
  ready : Ready w.host.files s
  database : w.host.files.node? s = some (.database ⟨schemaVersion, some t⟩)

namespace OpenOn

theorem found (h : OpenOn p s t w) : Found w.host.files s ⟨schemaVersion, some t⟩ :=
  ⟨h.database, h.ready.unbarred⟩

theorem leads (h : OpenOn p s t w) : Leads w ⟨schemaVersion, some t⟩ :=
  leads_of_file h.connection h.locate h.found

/-- The texts of the file are what is stored. -/
theorem stored (h : OpenOn p s t w) : w.stored = .ok t :=
  holds_iff.mpr ⟨_, h.leads, rfl⟩

theorem opened (h : OpenOn p s t w) : Opened w.host.files s :=
  ⟨h.ready, _, h.database, rfl⟩

theorem lookup (h : OpenOn p s t w) :
    w.host.files.lookup p = .ok (.database ⟨schemaVersion, some t⟩) :=
  Files.lookup_eq_ok_iff.mpr ⟨s, h.locate, h.database⟩

end OpenOn

/-! ### Writing -/

/-- Write some things, one after the other. -/
def writeAll : List Written → Act Unit
  | [] => pure ()
  | x :: rest => do
    x.write
    writeAll rest

/-- A database that is put in the place of one is found where the path leads, and nothing is left to
be done. -/
theorem putDatabase_over {d : Database} (hs : files.locate p = .ok s) (hready : Ready files s)
    (hd : Found files s d) (new : Database) :
    (putDatabase s new files).locate p = .ok s ∧ Ready (putDatabase s new files) s ∧
      (putDatabase s new files).node? s = some (.database new) := by
  have hchanged := changed_putDatabase hd.not_directory hd.not_directory_journalOf new
  exact ⟨Files.locate_of_keep hchanged.toKeep hs,
    ready_putDatabase hready hd.not_directory_journalOf new, node?_putDatabase hd.not_directory new⟩

/-- What is written comes to the texts of the file. -/
theorem perform_write (h : OpenOn p s t w) (x : Written) :
    ∃ w', x.write.perform w = (.ok (), w') ∧ OpenOn p s (t.put x.key x.value.write) w' := by
  have htable : table.perform w = (.ok t, w) := by rw [perform_table, h.stored]
  have hwrite : x.write.perform w
      = (replace ⟨schemaVersion, some (t.put x.key x.value.write)⟩).perform w := by
    rw [x.write_eq, setText, Act.perform_bind_ok htable,
      Act.perform_bind_ok (perform_current h.leads)]
  obtain ⟨hlocate, hready, hnode⟩ := putDatabase_over h.locate h.ready h.found
    ⟨schemaVersion, some (t.put x.key x.value.write)⟩
  rw [hwrite, perform_replace_file h.connection h.locate h.found]
  exact ⟨_, rfl, h.connection, hlocate, h.usable.putDatabase _, hready, hnode⟩

/-- All that is written comes to the texts of the file, in order. -/
theorem perform_writeAll (h : OpenOn p s t w) (writes : List Written) :
    ∃ w', (writeAll writes).perform w = (.ok (), w') ∧ OpenOn p s (putAll t writes) w' := by
  induction writes generalizing t w with
  | nil => exact ⟨w, rfl, h⟩
  | cons x rest ih =>
    obtain ⟨w₁, hfirst, hopen⟩ := perform_write h x
    obtain ⟨w', hrest, hopen'⟩ := ih hopen
    refine ⟨w', ?_, hopen'⟩
    rw [writeAll, Act.perform_bind_ok hfirst, hrest]

/-! ### Making a file ready -/

/-- Where a database can be kept, one that is there or a new one is read. -/
theorem perform_attach_usable {d : Database} (hnull : p.hasNull = false)
    (hs : w.host.files.locate p = .ok s) (h : Usable w.host.files s)
    (hn : isDirectory w.host.files s = false)
    (hd : w.host.files.node? s = some (.database d) ∨ isFresh w.host.files s = true ∧ d = blank) :
    ∃ files', (attach p).perform w = (.ok d, w.withFiles files') ∧ files'.locate p = .ok s ∧
      Tended s w.host.files files' ∧ Usable files' s ∧ Ready files' s ∧
      databaseOn files' s = .ok d := by
  -- no directory comes to be on the way, so that none of the steps is refused
  have hfree : ∀ x ∈ besides s, isDirectory (touch s w.host.files) x = false :=
    fun x hx => isDirectory_touch (h.free x hx)
  have hjournal : journalBarred (touch s w.host.files) s = false := by
    rw [journalBarred, hfree _ (journalOf_mem s), Bool.and_false]
  have hlog : logBarred (clearJournal s (touch s w.host.files)) s = false := by
    rw [logBarred, isDirectory_clearJournal (hfree _ (logOf_mem s)),
      isDirectory_clearJournal (hfree _ (indexOf_mem s)), Bool.and_false, Bool.or_false]
  have htended : Tended s w.host.files (cleared s w.host.files) :=
    ((tended_touch hn).trans (tended_clearJournal s _)).trans (tended_clearLog hlog)
  have hready : Ready (cleared s w.host.files) s := ready_of_cleared h.fits hjournal hlog
  have hread : databaseOn (cleared s w.host.files) s = .ok d := by
    rw [databaseOn, hready.unbarred]
    rcases hd with hthere | ⟨hfresh, rfl⟩
    · rw [htended.database hthere]
      rfl
    · -- a file without content is read as a blank database
      rcases isFresh_iff.mp (htended.isFresh_eq.trans hfresh) with hnone | hempty
      · rw [hnone]
        rfl
      · rw [hempty]
        rfl
  have husable : Usable (cleared s w.host.files) s :=
    ⟨h.fits, fun x hx => isDirectory_clearLog (isDirectory_clearJournal (hfree x hx))⟩
  refine ⟨cleared s w.host.files, ?_, Files.locate_of_keep htended.toKeep hs, htended, husable,
    hready, hread⟩
  rw [perform_attach_eq hnull hs h.fits, perform_attachAt_free hn hjournal hlog, hread]

/-! ### Opening -/

/-- Opening makes the directories above a path, begins to use the file and connects to the
database. -/
theorem perform_openPath_eq {raised : Files} (hname : p.toString ≠ memoryName)
    (hmake : (makeParent p).perform w = (.ok (), w.withFiles raised)) :
    (openPath p).perform w
      = (do adopt p (← attach p) : Act Unit).perform (w.withFiles raised) := by
  have hname : ¬ (p.toString == memoryName) = true := fun h => hname (beq_iff_eq.mp h)
  unfold openPath
  rw [Act.perform_bind_ok hmake, if_neg hname]

/-- A database of a newer schema is not connected to. -/
theorem perform_adopt_newer {d : Database} (h : schemaVersion < d.version) :
    (adopt p d).perform w = (.error (.newerSchema d.version), w) :=
  Act.perform_bind_error (Act.perform_ofExcept_eq (migrate_newer h) w)

/-- Any other database is connected to. Its texts stay, and it is of the schema of this program
then. -/
theorem perform_adopt_found {v : Int} (hs : w.host.files.locate p = .ok s)
    (hd : Found w.host.files s ⟨v, some t⟩) (hversion : v ≤ schemaVersion) :
    ∃ files', (adopt p ⟨v, some t⟩).perform w
        = (.ok (), { w with connection := .file p, host := { w.host with files := files' } }) ∧
      w.host.files.Changed (About s) files' ∧
      files'.node? s = some (.database ⟨schemaVersion, some t⟩) ∧
      (Usable w.host.files s → Usable files' s) ∧ (Ready w.host.files s → Ready files' s) := by
  have htexts : textsOf ⟨v, some t⟩ = some t := ite_self (some t)
  have hm : migrate ⟨v, some t⟩ = .ok ⟨schemaVersion, some t⟩ := by
    rw [migrate_supported hversion, htexts]
  unfold adopt
  rw [hm, Act.perform_bind_ok (Act.perform_ofExcept _ w)]
  dsimp only
  by_cases hsame : (⟨schemaVersion, some t⟩ : Database) = ⟨v, some t⟩
  · rw [if_pos hsame]
    exact ⟨_, rfl, .refl _ _, hsame ▸ hd.node, id, id⟩
  · rw [if_neg hsame,
      Act.perform_bind_ok (perform_store hs hd.not_directory hd.not_directory_journalOf _)]
    exact ⟨_, rfl, changed_putDatabase hd.not_directory hd.not_directory_journalOf _,
      node?_putDatabase hd.not_directory _, fun husable => husable.putDatabase _,
      fun hready => ready_putDatabase hready hd.not_directory_journalOf _⟩

/-- A path that leads to nothing beside a file, nor through it, leads to what it led to, if the file
was there and still is. -/
theorem lookup_of_changed {d d' : Database} (hchanged : files.Changed (About s) files')
    (hd : files.node? s = some (.database d)) (hd' : files'.node? s = some (.database d'))
    {q : Path} (hq : ∀ x ∈ besides s, ¬ files.Crosses q x)
    (hend : d' = d ∨ files.locate q ≠ .ok s) : files'.lookup q = files.lookup q := by
  refine Files.lookup_congr hchanged.directory (fun x hx => ?_) fun x hx => ?_
  · by_cases hxs : x = s
    · subst hxs
      exact .inr ⟨⟨_, hd, Files.database_ne_directory d⟩, _, hd', Files.database_ne_directory d'⟩
    · exact .inl (hchanged.elsewhere x fun hon => hon.elim hxs fun hmem => hq x hmem hx)
  · by_cases hxs : x = s
    · subst hxs
      rcases hend with rfl | hne
      · rw [hd, hd']
      · exact absurd hx hne
    · have hcrosses : files.Crosses q x := Files.place_of_locate hx ▸ files.crosses_place q
      exact hchanged.elsewhere x fun hon => hon.elim hxs fun hmem => hq x hmem hcrosses

/-- Where a path leads to a database, opening begins with it as it is. -/
theorem perform_openPath_there (hnull : p.hasNull = false) (hname : p.toString ≠ memoryName)
    (hs : w.host.files.locate p = .ok s) :
    (openPath p).perform w = (do adopt p (← attach p) : Act Unit).perform w :=
  perform_openPath_eq hname (perform_makeParent_of_locate hnull hs)

/-- Opening keeps the texts of a database, whether it succeeds or not. -/
theorem perform_openPath_keeps {v : Int} (hnull : p.hasNull = false)
    (hname : p.toString ≠ memoryName) (hs : w.host.files.locate p = .ok s)
    (hnode : w.host.files.node? s = some (.database ⟨v, some t⟩)) :
    (∃ e w', (openPath p).perform w = (.error e, w') ∧
        w'.host.files.lookup p = .ok (.database ⟨v, some t⟩)) ∨
      ∃ w', (openPath p).perform w = (.ok (), w') ∧
        w'.host.files.lookup p = .ok (.database ⟨schemaVersion, some t⟩) := by
  rw [perform_openPath_there hnull hname hs]
  rcases perform_attach_cases p w with ⟨e, hattach⟩ | ⟨s', r, files₁, hs', hattach, hattached⟩
  · exact .inl ⟨e, w, Act.perform_bind_error hattach, Files.lookup_eq_ok_iff.mpr ⟨s, hs, hnode⟩⟩
  · obtain rfl : s' = s := Except.ok.inj (hs'.symm.trans hs)
    have hnode₁ : files₁.node? s' = some (.database ⟨v, some t⟩) :=
      hattached.tended.database hnode
    have hs₁ : files₁.locate p = .ok s' := Files.locate_of_keep hattached.tended.toKeep hs
    have hlookup := Files.lookup_eq_ok_iff.mpr ⟨s', hs₁, hnode₁⟩
    cases r with
    | error e => exact .inl ⟨e, _, Act.perform_bind_error hattach, hlookup⟩
    | ok d =>
      -- it is this database that was read
      obtain ⟨-, hready, hread⟩ := hattached.ready d rfl
      have hd : Found files₁ s' ⟨v, some t⟩ := ⟨hnode₁, hready.unbarred⟩
      rw [hd.databaseOn_eq] at hread
      obtain rfl : ⟨v, some t⟩ = d := Except.ok.inj hread
      rw [Act.perform_bind_ok hattach]
      by_cases hversion : v ≤ schemaVersion
      · obtain ⟨files', hadopt, hchanged, hnode', -⟩ :=
          perform_adopt_found (w := w.withFiles files₁) hs₁ hd hversion
        exact .inr ⟨_, hadopt, Files.lookup_eq_ok_iff.mpr
          ⟨s', Files.locate_of_keep hchanged.toKeep hs₁, hnode'⟩⟩
      · exact .inl ⟨_, _, perform_adopt_newer (Int.not_le.mp hversion), hlookup⟩

/-- Opening a database that is there, of this schema or an older one, keeps its texts. -/
theorem perform_openPath_over {v : Int} (hnull : p.hasNull = false)
    (hname : p.toString ≠ memoryName) (hs : w.host.files.locate p = .ok s)
    (husable : Usable w.host.files s)
    (hnode : w.host.files.node? s = some (.database ⟨v, some t⟩)) (hversion : v ≤ schemaVersion) :
    ∃ w', (openPath p).perform w = (.ok (), w') ∧ OpenOn p s t w' ∧
      w.host.files.Changed (About s) w'.host.files := by
  have hn : isDirectory w.host.files s = false :=
    isDirectory_eq_false_iff.mpr (Files.not_directory_of_database hnode)
  obtain ⟨files₁, hattach, hs₁, htended, husable₁, hready, hd⟩ :=
    perform_attach_usable hnull hs husable hn (.inl hnode)
  obtain ⟨files', hadopt, hchanged, hnode', husable', hready'⟩ := perform_adopt_found
    (w := w.withFiles files₁) hs₁ (found_of_databaseOn hd rfl) hversion
  rw [perform_openPath_there hnull hname hs, Act.perform_bind_ok hattach, hadopt]
  exact ⟨_, rfl, ⟨rfl, Files.locate_of_keep hchanged.toKeep hs₁, husable' husable₁,
    hready' hready, hnode'⟩, htended.toChanged.trans hchanged⟩

/-- A database of a newer schema is not opened. Nothing changes but what lies beside it. -/
theorem perform_openPath_newer {v : Int} (hnull : p.hasNull = false)
    (hname : p.toString ≠ memoryName) (hs : w.host.files.locate p = .ok s)
    (husable : Usable w.host.files s)
    (hnode : w.host.files.node? s = some (.database ⟨v, some t⟩)) (hversion : schemaVersion < v) :
    ∃ files', (openPath p).perform w = (.error (.newerSchema v), w.withFiles files') ∧
      w.host.files.Changed (About s) files' ∧
      files'.node? s = some (.database ⟨v, some t⟩) := by
  have hn : isDirectory w.host.files s = false :=
    isDirectory_eq_false_iff.mpr (Files.not_directory_of_database hnode)
  obtain ⟨files', hattach, -, htended, -, -, hd⟩ :=
    perform_attach_usable hnull hs husable hn (.inl hnode)
  rw [perform_openPath_there hnull hname hs, Act.perform_bind_ok hattach,
    perform_adopt_newer hversion]
  exact ⟨files', rfl, htended.toChanged, (found_of_databaseOn hd rfl).node⟩

/-- Where no database is yet, opening makes one without texts. -/
theorem perform_openPath_new (hnull : p.hasNull = false) (hname : p.toString ≠ memoryName)
    (hmake : w.host.files.makeDirs p.parent = .ok files) (hs : files.locate p = .ok s)
    (husable : Usable files s) (hnew : files.node? s = none ∨ files.node? s = some (.file [])) :
    ∃ w', (openPath p).perform w = (.ok (), w') ∧ OpenOn p s [] w' := by
  have hn : isDirectory files s = false := by
    rcases hnew with h | h <;> rw [isDirectory, h]
  obtain ⟨files₁, hattach, hs₁, htended, husable₁, hready, -⟩ :=
    perform_attach_usable (w := w.withFiles files) hnull hs husable hn
      (.inr ⟨isFresh_iff.mpr hnew, rfl⟩)
  have hjournal : isDirectory files₁ (journalOf s) = false := husable₁.free _ (journalOf_mem s)
  have hn₁ : isDirectory files₁ s = false := htended.isDirectory_eq.trans hn
  have hm : migrate blank = .ok ⟨schemaVersion, some []⟩ := migrate_supported (by decide)
  have hdiffers : ¬ (⟨schemaVersion, some []⟩ : Database) = blank := by decide
  rw [perform_openPath_eq hname (perform_makeParent hnull hmake), Act.perform_bind_ok hattach]
  unfold adopt
  rw [hm, Act.perform_bind_ok (Act.perform_ofExcept _ _), if_neg hdiffers,
    Act.perform_bind_ok (perform_store hs₁ hn₁ hjournal _)]
  have hchanged := changed_putDatabase hn₁ hjournal ⟨schemaVersion, some []⟩
  exact ⟨_, rfl, rfl, Files.locate_of_keep hchanged.toKeep hs₁, husable₁.putDatabase _,
    ready_putDatabase hready hjournal _, node?_putDatabase hn₁ _⟩

/-- The version of a database that is open can be set; the texts stay, and no directory gets in the
way. -/
theorem perform_setVersion (h : OpenOn p s t w) (hnull : p.hasNull = false) (version : Int) :
    ∃ w', (setVersion p version).perform w = (.ok (), w') ∧ w'.host.files.locate p = .ok s ∧
      w'.host.files.node? s = some (.database ⟨clampVersion version, some t⟩) ∧
      Usable w'.host.files s := by
  have hattach : (attach p).perform w = (.ok ⟨schemaVersion, some t⟩, w) := by
    rw [perform_attach_eq hnull h.locate h.ready.fits, perform_attachAt_ready h.ready h.found]
  obtain ⟨hlocate, -, hnode⟩ :=
    putDatabase_over h.locate h.ready h.found ⟨clampVersion version, some t⟩
  unfold setVersion
  rw [Act.perform_bind_ok (perform_makeParent_of_locate hnull h.locate),
    Act.perform_bind_ok hattach,
    perform_store h.locate h.found.not_directory h.found.not_directory_journalOf]
  exact ⟨_, rfl, hlocate, hnode, h.usable.putDatabase _⟩

/-! ### The main result -/

/-- **Opening keeps data.** Let the path lead to a database with its texts, whatever version it
claims to have. Opening it keeps the texts, whether it succeeds or fails, and sets the version only if
it succeeds. If no directory is in the way of the files that SQLite keeps beside it, then it is the
version that decides. One that is newer than this program knows is refused, and each path that has
nothing to do with those files leads to what it led to before: to this version and these texts, in
particular. Otherwise opening succeeds; the database is then of this schema, under every key there is
what was there, paths to other files than these lead to what they led to before, and opening once
more changes nothing at all.

Such databases come from nothing: where there is no file yet, or an empty one, opening succeeds, and
whatever is written then is read back. What lies there in the end is a database with those texts.
Any version can be set on it, and no directory is in its way then either, so that all of this can be
said of opening it again. -/
theorem opening_keeps_data (w : World) {p : Path} (hnull : p.hasNull = false)
    (hname : p.toString ≠ memoryName) :
    (∀ s v t, w.host.files.locate p = .ok s →
      w.host.files.node? s = some (.database ⟨v, some t⟩) →
      ((∃ e w', (openPath p).perform w = (.error e, w') ∧
          w'.host.files.lookup p = .ok (.database ⟨v, some t⟩)) ∨
        ∃ w', (openPath p).perform w = (.ok (), w') ∧
          w'.host.files.lookup p = .ok (.database ⟨schemaVersion, some t⟩)) ∧
      (Usable w.host.files s →
        (schemaVersion < v → ∃ files, (openPath p).perform w
            = (.error (.newerSchema v), w.withFiles files) ∧
          files.lookup p = .ok (.database ⟨v, some t⟩) ∧
          ∀ q, (∀ x ∈ besides s, ¬ w.host.files.Crosses q x) →
            files.lookup q = w.host.files.lookup q) ∧
        (v ≤ schemaVersion → ∃ w', (openPath p).perform w = (.ok (), w') ∧
          w'.host.files.lookup p = .ok (.database ⟨schemaVersion, some t⟩) ∧
          (∀ key, (getText key).perform w' = (.ok (t.get? key), w') ∧
            (getValue key).perform w' = (valueIn t key, w')) ∧
          Reads w' t [] ∧
          (∀ q, w.host.files.locate q ≠ .ok s → (∀ x ∈ besides s, ¬ w.host.files.Crosses q x) →
            w'.host.files.lookup q = w.host.files.lookup q) ∧
          (openPath p).perform w' = (.ok (), w')))) ∧
    ∀ files s, w.host.files.makeDirs p.parent = .ok files → files.locate p = .ok s →
      files.node? s = none ∨ files.node? s = some (.file []) → Usable files s →
      ∀ writes, ∃ w', (do openPath p; writeAll writes : Act Unit).perform w = (.ok (), w') ∧
        Reads w' [] writes ∧
        w'.host.files.lookup p = .ok (.database ⟨schemaVersion, some (putAll [] writes)⟩) ∧
        ∀ v, ∃ u, (setVersion p v).perform w' = (.ok (), u) ∧
          u.host.files.locate p = .ok s ∧
          u.host.files.node? s = some (.database ⟨clampVersion v, some (putAll [] writes)⟩) ∧
          Usable u.host.files s := by
  refine ⟨fun s v t hs hnode => ⟨perform_openPath_keeps hnull hname hs hnode, fun husable =>
    ⟨fun hnewer => ?newer, fun hsupported => ?supported⟩⟩,
    fun files s hmake hs hnew husable writes => ?new⟩
  case newer =>
    obtain ⟨files, hrefused, hchanged, hnode'⟩ :=
      perform_openPath_newer hnull hname hs husable hnode hnewer
    refine ⟨files, hrefused, Files.lookup_eq_ok_iff.mpr
      ⟨s, Files.locate_of_keep hchanged.toKeep hs, hnode'⟩, fun q hq => ?_⟩
    exact lookup_of_changed hchanged hnode hnode' hq (.inl rfl)
  case supported =>
    obtain ⟨w', hopen, hon, hchanged⟩ :=
      perform_openPath_over hnull hname hs husable hnode hsupported
    refine ⟨w', hopen, hon.lookup, fun key => ⟨?text, ?value⟩, reads_of_stored hon.stored,
      fun q hne hq => lookup_of_changed hchanged hnode hon.database hq (.inr hne), ?again⟩
    case text =>
      rw [perform_getText, hon.stored]
      rfl
    case value =>
      rw [perform_getValue, hon.stored]
      rfl
    case again =>
      -- nothing is left to be done, and the connection is this one already
      rw [perform_openPath_opened hnull hname hon.locate hon.opened, ← hon.connection]
  case new =>
    obtain ⟨w₁, hopen, hon⟩ := perform_openPath_new hnull hname hmake hs husable hnew
    obtain ⟨w', hwrites, hon'⟩ := perform_writeAll hon writes
    refine ⟨w', ?_, reads_of_stored hon'.stored, hon'.lookup,
      fun v => perform_setVersion hon' hnull v⟩
    rw [Act.perform_bind_ok hopen, hwrites]

/-- A database whose version was set far below zero is opened, also beside a journal that was left
behind, and one from the future is not. Where there is none, what is written is read back. -/
theorem opening_keeps_data_extremes :
    let p : Path := ⟨"", ["d", "settings.db"]⟩
    let t : Table String String := [("k", "[\"é\"]")]
    let w (v : Int) : World := { World.fresh Host.bare .empty with
      host := { Host.bare with files := { entries :=
        [(["work", "d"], .directory), (["work", "d", "settings.db"], .database ⟨v, some t⟩),
          (["work", "d", "settings.db-journal"], .file [1])] } } }
    (∃ w', (openPath p).perform (w (-2147483648)) = (.ok (), w') ∧
        w'.host.files.lookup p = .ok (.database ⟨schemaVersion, some t⟩) ∧
        (openPath p).perform w' = (.ok (), w')) ∧
      ((openPath p).perform (w 2)).2.host.files.lookup p = .ok (.database ⟨2, some t⟩) ∧
      ∃ w', (do openPath p; writeAll [.strings "k" ["é"]] : Act Unit).perform
          (.fresh Host.bare .empty) = (.ok (), w') ∧
        (getStrings "k").perform w' = (.ok ["é"], w') := by
  intro p t w
  let s : Spot := ["work", "d", "settings.db"]
  have hnull : p.hasNull = false := by decide +kernel
  have hname : p.toString ≠ memoryName := by decide +kernel
  have hs : ∀ v, (w v).host.files.locate p = .ok s := fun _ => rfl
  have hnode : ∀ v, (w v).host.files.node? s = some (.database ⟨v, some t⟩) := fun _ => rfl
  obtain ⟨w', hopen, hdatabase, -, -, -, hagain⟩ :=
    (((opening_keeps_data (w (-2147483648)) hnull hname).1 s _ t (hs _) (hnode _)).2
      (by decide +kernel)).2 (by decide)
  obtain ⟨files, hrefused, hsame, -⟩ :=
    (((opening_keeps_data (w 2) hnull hname).1 s _ t (hs _) (hnode _)).2 (by decide +kernel)).1
      (by decide)
  -- where there is nothing at all, the directory above comes to be first
  let raised : Files := { entries := [(["work", "d"], .directory)] }
  have hmake : Host.bare.files.makeDirs p.parent = .ok raised := rfl
  obtain ⟨u, hwritten, hreads, -⟩ :=
    (opening_keeps_data (.fresh Host.bare .empty) hnull hname).2 raised s hmake rfl (.inl rfl)
      (by decide +kernel) [.strings "k" ["é"]]
  refine ⟨⟨w', hopen, hdatabase, hagain⟩, ?_, u, hwritten, hreads.strings [] "k" _ [] rfl nofun⟩
  rw [hrefused]
  exact hsame

end Tutor.Settings
