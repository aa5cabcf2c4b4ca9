import Mathlib.Data.List.Basic
import Tutor.Proofs.Host.Files
import Tutor.Settings.Beside

namespace Tutor.Settings

/-!
# Clearing up beside a database

What is done to the files beside a database concerns no other files, and leaves nothing to be done.

* `besides` — the places beside a database; by `disjoint_besides` those of two databases differ;
* `Clear` — a path and a database have nothing to do with each other in this respect;
* `Tended` — the files differ in what lies beside a database, and in an empty file in its place;
  `tended_touch`, `tended_clearJournal` and `tended_clearLog` say so of each step;
* `isDirectory_touch` to `isDirectory_putDatabase` — no directory comes to be;
* `Ready` — nothing is left to be done before a database is read: `ready_of_cleared`, and
  `Ready.clearJournal_eq`, `Ready.clearLog_eq`;
* `changed_putDatabase`, `ready_putDatabase` — storing a database where that is so.
-/

/-! ### Places -/

/-- The endings of what lies beside a database. -/
def endings : List String :=
  ["-journal", "-wal", "-shm"]

/-- The places beside a database. -/
def besides (s : Spot) : List Spot :=
  endings.map fun ending => beside ending s

theorem beside_concat (ending : String) (init : Spot) (last : String) :
    beside ending (init ++ [last]) = init ++ [last ++ ending] := by
  rw [beside, List.dropLast_concat, List.getLastD_concat]

/-- A name has no more than one of the endings. -/
theorem ending_unique {a b x y : String} (ha : a ∈ endings) (hb : b ∈ endings)
    (h : x ++ a = y ++ b) : a = b ∧ x = y := by
  -- the last three characters tell the endings apart
  have htail : ∀ e ∈ endings, ∀ z : String,
      (z ++ e).toList.reverse.take 3 = e.toList.reverse.take 3 := by
    intro e he z
    have hlong : 3 ≤ e.toList.reverse.length :=
      (show ∀ e ∈ endings, 3 ≤ e.toList.reverse.length by decide) e he
    rw [String.toList_append, List.reverse_append, List.take_append_of_le_length hlong]
  have htails : a.toList.reverse.take 3 = b.toList.reverse.take 3 := by
    rw [← htail a ha x, h, htail b hb y]
  have hab : a = b :=
    (show ∀ a ∈ endings, ∀ b ∈ endings, a.toList.reverse.take 3 = b.toList.reverse.take 3 → a = b
      by decide) a ha b hb htails
  rw [hab, String.append_left_inj] at h
  exact ⟨hab, h⟩

/-- Places beside databases are the same only if the endings and the databases are. -/
theorem beside_inj {a b : String} (ha : a ∈ endings) (hb : b ∈ endings) {s t : Spot} (hs : s ≠ [])
    (ht : t ≠ []) (h : beside a s = beside b t) : a = b ∧ s = t := by
  obtain ⟨init, last, rfl⟩ := (List.eq_nil_or_concat' s).resolve_left hs
  obtain ⟨init', last', rfl⟩ := (List.eq_nil_or_concat' t).resolve_left ht
  rw [beside_concat, beside_concat] at h
  obtain ⟨hinit, hlast⟩ := List.append_inj' h rfl
  obtain ⟨hab, hnames⟩ := ending_unique ha hb (List.head_eq_of_cons_eq hlast)
  exact ⟨hab, by rw [hinit, hnames]⟩

/-- Nothing lies beside two databases. -/
theorem disjoint_besides {s t x : Spot} (hs : s ≠ []) (ht : t ≠ []) (hst : s ≠ t)
    (hx : x ∈ besides s) : x ∉ besides t := by
  intro hx'
  obtain ⟨a, ha, rfl⟩ := List.mem_map.mp hx
  obtain ⟨b, hb, hbeside⟩ := List.mem_map.mp hx'
  exact hst (beside_inj ha hb hs ht hbeside.symm).2

/-- A database does not lie beside itself. -/
theorem not_mem_besides (s : Spot) : s ∉ besides s := by
  intro h
  obtain ⟨ending, hending, hs⟩ := List.mem_map.mp h
  rcases List.eq_nil_or_concat' s with rfl | ⟨init, last, rfl⟩
  · cases hs
  · -- the last name would be the same with the ending and without
    rw [beside_concat] at hs
    obtain ⟨-, hlast⟩ := List.append_inj' hs rfl
    have hnone := String.append_eq_left_iff.mp (List.head_eq_of_cons_eq hlast)
    subst hnone
    exact absurd hending (by decide)

theorem journalOf_mem (s : Spot) : journalOf s ∈ besides s :=
  List.mem_map_of_mem (by decide)

theorem logOf_mem (s : Spot) : logOf s ∈ besides s :=
  List.mem_map_of_mem (by decide)

theorem indexOf_mem (s : Spot) : indexOf s ∈ besides s :=
  List.mem_map_of_mem (by decide)

/-- What lies beside a database lies elsewhere. -/
theorem ne_of_mem_besides {s x : Spot} (h : x ∈ besides s) : x ≠ s := by
  rintro rfl
  exact not_mem_besides x h

/-- Different endings make different places. -/
theorem beside_ne_beside {a b : String} (h : a ≠ b) (s : Spot) : beside a s ≠ beside b s := by
  intro hs
  obtain ⟨-, hlast⟩ := List.append_inj' hs rfl
  exact h (String.append_right_inj _ |>.mp (List.head_eq_of_cons_eq hlast))

theorem logOf_ne_journalOf (s : Spot) : logOf s ≠ journalOf s :=
  beside_ne_beside (by decide) s

theorem indexOf_ne_journalOf (s : Spot) : indexOf s ≠ journalOf s :=
  beside_ne_beside (by decide) s

theorem indexOf_ne_logOf (s : Spot) : indexOf s ≠ logOf s :=
  beside_ne_beside (by decide) s

/-! ### Paths and databases that have nothing to do with each other -/

/-- The path leads neither to nor through a place beside the database, and the database does not lie
beside what the path leads to. -/
structure Clear (files : Files) (p : Path) (s : Spot) : Prop where
  way : ∀ x ∈ besides s, ¬ files.Crosses p x
  apart : s ∉ besides (files.place p)

instance (files : Files) (p : Path) (s : Spot) : Decidable (files.Crosses p s) :=
  inferInstanceAs (Decidable (∃ k ≤ p.names.length, files.place (p.upTo k) = s))

instance (files : Files) (p : Path) (s : Spot) : Decidable (Clear files p s) :=
  decidable_of_iff (_ ∧ _) ⟨fun h => ⟨h.1, h.2⟩, fun h => ⟨h.way, h.apart⟩⟩

variable {files files' files'' : Files} {p : Path} {s t : Spot}

/-- It takes the same working directory to see so. -/
theorem Clear.of_keep (h : Clear files p s) (hkeep : files.Keep files') : Clear files' p s where
  way x hx := by
    rintro ⟨k, hk, hplace⟩
    exact h.way x hx ⟨k, hk, (hkeep.place _).symm.trans hplace⟩
  apart := by
    rw [hkeep.place]
    exact h.apart

/-! ### What lies there -/

theorem isDirectory_eq_false_iff : isDirectory files s = false ↔ files.node? s ≠ some .directory := by
  unfold isDirectory
  split
  · rename_i h
    rw [h]
    exact ⟨nofun, fun hn => absurd rfl hn⟩
  · rename_i h
    exact ⟨fun _ => h, fun _ => rfl⟩

/-- What is filled is no directory. -/
theorem not_directory_of_isFilled (h : isFilled files s = true) :
    files.node? s ≠ some .directory := by
  intro hn
  unfold isFilled at h
  rw [hn] at h
  cases h

/-- A file in the place of the journal is no directory. -/
theorem not_directory_of_hasJournal (h : hasJournal files s = true) :
    files.node? (journalOf s) ≠ some .directory := by
  intro hn
  unfold hasJournal at h
  rw [hn] at h
  cases h

/-- Where a database lies, there is one. -/
theorem isFresh_of_database {d : Database} (h : files.node? s = some (.database d)) :
    isFresh files s = false := by
  unfold isFresh isDirectory isFilled
  rw [h]
  rfl

/-- Where there is no database, there is nothing, or an empty file. -/
theorem isFresh_iff :
    isFresh files s = true ↔ files.node? s = none ∨ files.node? s = some (.file []) := by
  unfold isFresh isDirectory isFilled
  cases files.node? s with
  | none => exact ⟨fun _ => .inl rfl, fun _ => rfl⟩
  | some n =>
    cases n with
    | directory => exact ⟨nofun, nofun⟩
    | database d => exact ⟨nofun, nofun⟩
    | file bytes => cases bytes <;> simp

/-- What lies in some places is looked at in these places only. -/
theorem isDirectory_congr (h : files'.node? s = files.node? s) :
    isDirectory files' s = isDirectory files s := by
  unfold isDirectory
  rw [h]

theorem isFilled_congr (h : files'.node? s = files.node? s) :
    isFilled files' s = isFilled files s := by
  unfold isFilled
  rw [h]

theorem isFresh_congr (h : files'.node? s = files.node? s) : isFresh files' s = isFresh files s := by
  rw [isFresh, isDirectory_congr h, isFilled_congr h, isFresh]

/-! ### No directory comes to be -/

theorem isDirectory_remove (h : isDirectory files t = false) :
    isDirectory (files.remove s) t = false := by
  by_cases hts : t = s
  · subst hts
    rw [isDirectory, Files.node?_remove_self (isDirectory_eq_false_iff.mp h)]
  · rw [isDirectory_congr (Files.node?_remove_of_ne files hts), h]

theorem isDirectory_put {n : Node} (hn : n ≠ .directory) (h : isDirectory files t = false) :
    isDirectory (files.put s n) t = false := by
  by_cases hts : t = s
  · subst hts
    rw [isDirectory_eq_false_iff, Files.node?_put_self (isDirectory_eq_false_iff.mp h)]
    exact fun hdirectory => hn (Option.some.inj hdirectory)
  · rw [isDirectory_congr (Files.node?_put_of_ne files n hts), h]

theorem isDirectory_touch (h : isDirectory files t = false) :
    isDirectory (touch s files) t = false := by
  unfold touch
  split
  · exact isDirectory_put nofun h
  · exact h

theorem isDirectory_clearJournal (h : isDirectory files t = false) :
    isDirectory (clearJournal s files) t = false := by
  unfold clearJournal
  split
  · exact isDirectory_remove h
  · exact h

theorem isDirectory_clearLog (h : isDirectory files t = false) :
    isDirectory (clearLog s files) t = false := by
  unfold clearLog
  split
  · exact h
  · split
    · exact isDirectory_remove h
    · exact isDirectory_remove (isDirectory_remove h)

theorem isDirectory_putDatabase (h : isDirectory files t = false) (d : Database) :
    isDirectory (putDatabase s d files) t = false :=
  isDirectory_put (Files.database_ne_directory d) (isDirectory_remove h)

/-! ### Clearing up -/

/-- The spot of a database, and the places beside it. -/
def About (s t : Spot) : Prop :=
  t = s ∨ t ∈ besides s

/-- Only what lies beside a database has changed; in its own place an empty file may have come to
be. -/
structure Tended (s : Spot) (files files' : Files) : Prop extends
    Files.Changed (About s) files files' where
  here : files'.node? s = files.node? s ∨
    files.node? s = none ∧ files'.node? s = some (.file [])

theorem Tended.refl (s : Spot) (files : Files) : Tended s files files :=
  ⟨Files.Changed.refl _ files, .inl rfl⟩

theorem Tended.trans (h : Tended s files files') (h' : Tended s files' files'') :
    Tended s files files'' where
  toChanged := h.toChanged.trans h'.toChanged
  here := by
    rcases h.here with hs | ⟨hnone, hs⟩
    · rw [← hs]
      exact h'.here
    · rcases h'.here with hs' | ⟨hnone', -⟩
      · exact .inr ⟨hnone, hs'.trans hs⟩
      · rw [hs] at hnone'
        cases hnone'

/-- A database neither comes nor goes. -/
theorem Tended.isFresh_eq (h : Tended s files files') : isFresh files' s = isFresh files s := by
  rcases h.here with hs | ⟨hnone, hs⟩
  · exact isFresh_congr hs
  · rw [isFresh_iff.mpr (.inl hnone), isFresh_iff.mpr (.inr hs)]

/-- A database stays as it is. -/
theorem Tended.database (h : Tended s files files') {d : Database}
    (hd : files.node? s = some (.database d)) : files'.node? s = some (.database d) := by
  rcases h.here with hs | ⟨hnone, -⟩
  · rw [hs, hd]
  · rw [hd] at hnone
    cases hnone

/-- A directory neither comes nor goes. -/
theorem Tended.isDirectory_eq (h : Tended s files files') :
    isDirectory files' s = isDirectory files s := by
  rcases h.here with hs | ⟨hnone, hs⟩
  · exact isDirectory_congr hs
  · rw [isDirectory, isDirectory, hnone, hs]

/-- Taking a file away from beside a database. -/
theorem tended_remove {x : Spot} (hx : x ∈ besides s) (h : files.node? x ≠ some .directory) :
    Tended s files (files.remove x) where
  toChanged := Files.changed_remove h (.inr hx)
  here := .inl (Files.node?_remove_of_ne files (ne_of_mem_besides hx).symm)

theorem tended_touch (h : isDirectory files s = false) : Tended s files (touch s files) := by
  unfold touch
  split
  · rename_i hnone
    have hfile := isDirectory_eq_false_iff.mp h
    exact ⟨Files.changed_put hfile _ (.inl rfl), .inr ⟨hnone, Files.node?_put_self hfile _⟩⟩
  · exact Tended.refl s files

theorem tended_clearJournal (s : Spot) (files : Files) : Tended s files (clearJournal s files) := by
  unfold clearJournal
  split
  · rename_i h
    exact tended_remove (journalOf_mem s) (not_directory_of_hasJournal h)
  · exact Tended.refl s files

theorem tended_clearLog (h : logBarred files s = false) : Tended s files (clearLog s files) := by
  unfold clearLog
  split
  · exact Tended.refl s files
  · rename_i hfilled
    rw [Bool.not_eq_true', Bool.not_eq_false] at hfilled
    have hlog := tended_remove (logOf_mem s) (not_directory_of_isFilled hfilled)
    split
    · exact hlog
    · -- the database is there, so that the index was looked for
      rename_i hfresh
      rw [Bool.not_eq_true] at hfresh
      have hindex : isDirectory files (indexOf s) = false := by
        rw [logBarred, hfilled, hfresh, Bool.or_eq_false_iff] at h
        exact h.2
      refine hlog.trans (tended_remove (indexOf_mem s) ?_)
      rw [Files.node?_remove_of_ne files (indexOf_ne_logOf s)]
      exact isDirectory_eq_false_iff.mp hindex

/-! ### Nothing left to be done -/

/-- The database can be read as it is. -/
structure Ready (files : Files) (s : Spot) : Prop where
  fits : fits s = true
  journal : hasJournal files s = false
  log : isFilled files (logOf s) = false
  unbarred : barred files s = false

theorem Ready.clearJournal_eq (h : Ready files s) : clearJournal s files = files := by
  rw [clearJournal, h.journal]
  rfl

theorem Ready.clearLog_eq (h : Ready files s) : clearLog s files = files := by
  rw [clearLog, h.log]
  rfl

/-- It takes the places about the database to see so. -/
theorem Ready.congr (h : Ready files s) (hfresh : isFresh files' s = isFresh files s)
    (hbesides : ∀ x ∈ besides s, files'.node? x = files.node? x) : Ready files' s where
  fits := h.fits
  journal := by
    rw [← h.journal, hasJournal, hasJournal, hfresh, hbesides _ (journalOf_mem s)]
  log := by
    rw [isFilled_congr (hbesides _ (logOf_mem s)), h.log]
  unbarred := by
    rw [← h.unbarred, barred, journalBarred, logBarred, hfresh,
      isDirectory_congr (hbesides _ (journalOf_mem s)),
      isDirectory_congr (hbesides _ (logOf_mem s)), isFilled_congr (hbesides _ (logOf_mem s)),
      isDirectory_congr (hbesides _ (indexOf_mem s))]
    rfl

/-- A journal that was cleared away is gone, and one that is none was left. -/
theorem hasJournal_clearJournal (s : Spot) (files : Files) :
    hasJournal (clearJournal s files) s = false := by
  unfold clearJournal
  cases h : hasJournal files s with
  | false => exact h
  | true =>
    rw [if_pos rfl, hasJournal, Files.node?_remove_self (not_directory_of_hasJournal h)]

/-- What lies in the place of the log once it is cleared away is empty, if it is a file. -/
theorem clearLog_log (h : logBarred files s = false) :
    isFilled (clearLog s files) (logOf s) = false ∧
      isDirectory (clearLog s files) (logOf s) = false := by
  unfold clearLog
  cases hfilled : isFilled files (logOf s) with
  | false =>
    rw [logBarred, Bool.or_eq_false_iff] at h
    exact ⟨hfilled, h.1⟩
  | true =>
    have hgone := Files.node?_remove_self (not_directory_of_isFilled hfilled)
    have hindex := Files.node?_remove_of_ne (files.remove (logOf s)) (indexOf_ne_logOf s).symm
    simp only [Bool.not_true, Bool.false_eq_true, if_false]
    split
    · rw [isFilled, isDirectory, hgone]
      exact ⟨rfl, rfl⟩
    · rw [isFilled, isDirectory, hindex, hgone]
      exact ⟨rfl, rfl⟩

/-- The log and its index are not in the place of the journal. -/
theorem node?_clearLog_journalOf (files : Files) (s : Spot) :
    (clearLog s files).node? (journalOf s) = files.node? (journalOf s) := by
  have hlog := Files.node?_remove_of_ne files (logOf_ne_journalOf s).symm
  unfold clearLog
  split
  · rfl
  · split
    · exact hlog
    · rw [Files.node?_remove_of_ne _ (indexOf_ne_journalOf s).symm, hlog]

/-- When both have been cleared away, nothing is left to be done. -/
theorem ready_of_cleared (hfits : fits s = true) (hjournal : journalBarred files s = false)
    (hlog : logBarred (clearJournal s files) s = false) :
    Ready (clearLog s (clearJournal s files)) s := by
  have hfresh : isFresh (clearLog s (clearJournal s files)) s = isFresh files s := by
    rw [(tended_clearLog hlog).isFresh_eq, (tended_clearJournal s files).isFresh_eq]
  have hfirst := (tended_clearJournal s files).isFresh_eq
  obtain ⟨hfilled, hdirectory⟩ := clearLog_log hlog
  refine ⟨hfits, ?_, hfilled, ?_⟩
  · rw [← hasJournal_clearJournal s files, hasJournal, hasJournal, node?_clearLog_journalOf,
      hfresh, hfirst]
  · have hbar : journalBarred (clearLog s (clearJournal s files)) s = false := by
      rw [journalBarred, hfresh, isDirectory_congr (node?_clearLog_journalOf _ s)]
      cases hnew : isFresh files s with
      | true => rfl
      | false =>
        rw [journalBarred, hnew] at hjournal
        exact isDirectory_clearJournal hjournal
    rw [barred, hbar, logBarred, hdirectory, hfilled]
    rfl

/-! ### Storing a database -/

/-- What lies where a journal is taken away is not the database. -/
theorem node?_remove_journalOf (files : Files) (s : Spot) :
    (files.remove (journalOf s)).node? s = files.node? s :=
  Files.node?_remove_of_ne files (ne_of_mem_besides (journalOf_mem s)).symm

/-- Storing a database changes nothing but what lies about it. -/
theorem changed_putDatabase (hs : isDirectory files s = false)
    (hjournal : isDirectory files (journalOf s) = false) (d : Database) :
    Files.Changed (About s) files (putDatabase s d files) := by
  have hremoved : Files.Changed (About s) files (files.remove (journalOf s)) :=
    Files.changed_remove (isDirectory_eq_false_iff.mp hjournal) (.inr (journalOf_mem s))
  refine hremoved.trans (Files.changed_put ?_ _ (.inl rfl))
  rw [node?_remove_journalOf]
  exact isDirectory_eq_false_iff.mp hs

/-- The database lies in its place then. -/
theorem node?_putDatabase (hs : isDirectory files s = false) (d : Database) :
    (putDatabase s d files).node? s = some (.database d) := by
  refine Files.node?_put_self ?_ _
  rw [node?_remove_journalOf]
  exact isDirectory_eq_false_iff.mp hs

/-- Of what lies beside the database, the journal is gone and the rest is the same. -/
theorem node?_putDatabase_besides {x : Spot} (hx : x ∈ besides s) (d : Database)
    (hjournal : isDirectory files (journalOf s) = false) :
    (putDatabase s d files).node? x = if x = journalOf s then none else files.node? x := by
  rw [putDatabase, Files.node?_put_of_ne _ _ (ne_of_mem_besides hx)]
  split
  · rename_i h
    rw [h, Files.node?_remove_self (isDirectory_eq_false_iff.mp hjournal)]
  · rename_i h
    exact Files.node?_remove_of_ne files h

/-- No directory gets in the way. An index is looked for once there is a database, so that there must
have been one before, or no log. -/
theorem barred_putDatabase (h : barred files s = false)
    (hlog : isFresh files s = false ∨ isFilled files (logOf s) = false)
    (hjournal : isDirectory files (journalOf s) = false) (d : Database) :
    barred (putDatabase s d files) s = false := by
  have hgone : isDirectory (putDatabase s d files) (journalOf s) = false := by
    rw [isDirectory, node?_putDatabase_besides (journalOf_mem s) d hjournal, if_pos rfl]
  have hsame : ∀ x ∈ besides s, x ≠ journalOf s →
      (putDatabase s d files).node? x = files.node? x := by
    intro x hx hne
    rw [node?_putDatabase_besides hx d hjournal, if_neg hne]
  have hlogs := hsame _ (logOf_mem s) (logOf_ne_journalOf s)
  have hindex := hsame _ (indexOf_mem s) (indexOf_ne_journalOf s)
  rw [barred, Bool.or_eq_false_iff] at h
  obtain ⟨-, h⟩ := h
  rw [logBarred, Bool.or_eq_false_iff] at h
  obtain ⟨hdirectory, hrest⟩ := h
  have hpair : (isFilled files (logOf s) && isDirectory files (indexOf s)) = false := by
    rcases hlog with hthere | hnone
    · rw [hthere, Bool.not_false, Bool.and_true] at hrest
      exact hrest
    · rw [hnone, Bool.false_and]
  rw [barred, journalBarred, hgone, logBarred, isDirectory_congr hlogs, hdirectory,
    isFilled_congr hlogs, isDirectory_congr hindex, Bool.and_right_comm, hpair]
  simp only [Bool.and_false, Bool.or_false, Bool.false_and]

/-- Where nothing was left to be done, nothing is. -/
theorem ready_putDatabase (h : Ready files s) (hjournal : isDirectory files (journalOf s) = false)
    (d : Database) : Ready (putDatabase s d files) s where
  fits := h.fits
  journal := by
    rw [hasJournal, node?_putDatabase_besides (journalOf_mem s) d hjournal, if_pos rfl]
  log := by
    rw [isFilled, node?_putDatabase_besides (logOf_mem s) d hjournal,
      if_neg (logOf_ne_journalOf s)]
    exact h.log
  unbarred := barred_putDatabase h.unbarred (.inr h.log) hjournal d

/-- Where there is a database that can be read, it can be written. -/
theorem isDirectory_journalOf (h : barred files s = false) (hs : isFresh files s = false) :
    isDirectory files (journalOf s) = false := by
  rw [barred, Bool.or_eq_false_iff] at h
  rw [journalBarred, hs] at h
  exact h.1

end Tutor.Settings
