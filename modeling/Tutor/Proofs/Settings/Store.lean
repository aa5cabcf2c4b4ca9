import Tutor.Proofs.Json.RoundTrip
import Tutor.Proofs.Service.Frames
import Tutor.Proofs.Settings.Beside

namespace Tutor

/-!
# What the settings hold

The texts that a connection leads to, and what is read from them after something was stored.

* `World.stored` — the stored texts; `Settings.Holds` says that they are there;
* `Settings.perform_setText` — where texts are stored, storing one more succeeds;
* `Settings.stringsIn` — the strings that texts hold under a key; `Settings.stringsIn_put` and
  `Settings.stringsIn_put_other`: what was stored is read back, and the other keys are left alone.
-/

/-- The stored texts, or why they cannot be reached. -/
def World.stored (w : World) : Except Failure (Table String String) :=
  (Settings.table.perform w).1

/-- The world with other files. -/
abbrev World.withFiles (w : World) (files : Files) : World :=
  { w with host := { w.host with files := files } }

namespace Settings

/-- These texts are stored. -/
def Holds (t : Table String String) (w : World) : Prop :=
  w.stored = .ok t

variable {t : Table String String} {w : World} {d : Database}

/-! ### The database -/

/-- This database lies at the spot and can be read. -/
structure Found (files : Files) (s : Spot) (d : Database) : Prop where
  node : files.node? s = some (.database d)
  unbarred : barred files s = false

/-- The connection leads to this database. -/
def Leads (w : World) (d : Database) : Prop :=
  match w.connection with
  | .closed => False
  | .memory content => content = d
  | .file p => ∃ s, w.host.files.locate p = .ok s ∧ Found w.host.files s d

/-- A connection to a file leads to the database in it. -/
theorem leads_of_file {p : Path} {s : Spot} (hc : w.connection = .file p)
    (hs : w.host.files.locate p = .ok s) (hd : Found w.host.files s d) : Leads w d := by
  unfold Leads
  rw [hc]
  exact ⟨s, hs, hd⟩

/-- A connection leads to a database without a file, or to one that lies at a spot. -/
theorem leads_cases (h : Leads w d) :
    w.connection = .memory d ∨ ∃ p s, w.connection = .file p ∧ w.host.files.locate p = .ok s ∧
      Found w.host.files s d := by
  unfold Leads at h
  cases hc : w.connection with
  | closed => rw [hc] at h; exact h.elim
  | memory content => rw [hc] at h; exact .inl (congrArg _ h)
  | file p =>
    rw [hc] at h
    obtain ⟨s, hs, hd⟩ := h
    exact .inr ⟨p, s, rfl, hs, hd⟩

namespace Found

variable {files : Files} {s : Spot}

theorem not_directory (h : Found files s d) : isDirectory files s = false :=
  isDirectory_eq_false_iff.mpr (Files.not_directory_of_database h.node)

theorem not_fresh (h : Found files s d) : isFresh files s = false :=
  isFresh_of_database h.node

/-- No directory is in the way of writing it. -/
theorem not_directory_journalOf (h : Found files s d) : isDirectory files (journalOf s) = false :=
  isDirectory_journalOf h.unbarred h.not_fresh

/-- A database that is put in its place is found there. -/
theorem putDatabase (h : Found files s d) (new : Database) :
    Found (Settings.putDatabase s new files) s new where
  node := node?_putDatabase h.not_directory new
  unbarred := barred_putDatabase h.unbarred (.inl h.not_fresh) h.not_directory_journalOf new

/-- It is the database that is read there. -/
theorem databaseOn_eq (h : Found files s d) : databaseOn files s = .ok d := by
  rw [databaseOn, h.unbarred, h.node]
  rfl

end Found

/-- A database that is found where a path leads is the one that is read. -/
theorem databaseAt_of_found {files : Files} {p : Path} {s : Spot} (hs : files.locate p = .ok s)
    (hd : Found files s d) : databaseAt files p = .ok d := by
  rw [databaseAt, hs]
  exact hd.databaseOn_eq

/-- A database that is read is found in its place, or there is none yet. -/
theorem databaseOn_cases {files : Files} {s : Spot} (h : databaseOn files s = .ok d) :
    Found files s d ∨ isFresh files s = true ∧ d = blank := by
  unfold databaseOn at h
  split at h
  · cases h
  · rename_i hbarred
    cases hn : files.node? s with
    | none =>
      rw [hn] at h
      exact .inr ⟨isFresh_iff.mpr (.inl hn), (Except.ok.inj h).symm⟩
    | some node =>
      rw [hn] at h
      cases node with
      | directory => cases h
      | database d' =>
        cases h
        exact .inl ⟨hn, Bool.not_eq_true _ |>.mp hbarred⟩
      | file bytes =>
        cases bytes with
        | nil => exact .inr ⟨isFresh_iff.mpr (.inr hn), (Except.ok.inj h).symm⟩
        | cons x r => cases h

/-- A database with texts is none that has just come to be: it is found where it is read. -/
theorem found_of_databaseOn {files : Files} {s : Spot} (h : databaseOn files s = .ok d)
    (hd : d.table = some t) : Found files s d := by
  refine (databaseOn_cases h).resolve_right fun hnew => ?_
  rw [hnew.2] at hd
  cases hd

/-- The path leads there. -/
theorem found_of_databaseAt {files : Files} {p : Path} (h : databaseAt files p = .ok d)
    (hd : d.table = some t) : ∃ s, files.locate p = .ok s ∧ Found files s d := by
  unfold databaseAt at h
  cases hl : files.locate p with
  | ok s =>
    rw [hl] at h
    exact ⟨s, rfl, found_of_databaseOn h hd⟩
  | error why =>
    rw [hl] at h
    cases why with
    | notFound =>
      cases h
      cases hd
    | _ => cases h

/-- The database that the connection leads to is the one that is read. -/
theorem perform_current (h : Leads w d) : current.perform w = (.ok d, w) := by
  unfold Leads at h
  unfold current
  rw [Act.perform_bind_ok (Act.perform_get w)]
  cases hc : w.connection with
  | closed => rw [hc] at h; exact h.elim
  | memory content => rw [hc] at h; rw [h]; rfl
  | file p =>
    rw [hc] at h
    obtain ⟨s, hs, hd⟩ := h
    exact Act.perform_ofExcept_eq (databaseAt_of_found hs hd) w

/-- A database that is read and has texts is the one that the connection leads to. -/
theorem leads_of_perform_current {w' : World} (h : current.perform w = (.ok d, w'))
    (hd : d.table = some t) : Leads w d := by
  unfold current at h
  rw [Act.perform_bind_ok (Act.perform_get w)] at h
  unfold Leads
  cases hc : w.connection with
  | closed => rw [hc] at h; cases h
  | memory content => rw [hc] at h; cases h; rfl
  | file p =>
    rw [hc] at h
    simp only [Act.perform_ofExcept, Prod.mk.injEq] at h
    exact found_of_databaseAt h.1 hd

/-! ### Texts -/

/-- Reading the stored texts changes nothing. -/
theorem perform_table (w : World) : table.perform w = (w.stored, w) :=
  Prod.ext rfl (keeps_table id w)

/-- Where texts are stored, the connection leads to a database of them. -/
theorem holds_iff : Holds t w ↔ ∃ d, Leads w d ∧ d.table = some t := by
  constructor
  · intro h
    have htable : table.perform w = (.ok t, w) := by rw [perform_table, h]
    unfold table at htable
    obtain ⟨d, w₁, hcurrent, hrest⟩ := Act.of_perform_bind_ok htable
    have hd : d.table = some t := by
      cases hd : d.table with
      | none => rw [hd] at hrest; cases hrest
      | some t' => rw [hd] at hrest; cases hrest; rfl
    exact ⟨d, leads_of_perform_current hcurrent hd, hd⟩
  · rintro ⟨d, hleads, hd⟩
    unfold Holds World.stored table
    rw [Act.perform_bind_ok (perform_current hleads), hd]
    rfl

/-- A database is stored where a path leads, unless a directory is in the way. -/
theorem perform_store {p : Path} {s : Spot} (hs : w.host.files.locate p = .ok s)
    (hn : isDirectory w.host.files s = false)
    (hjournal : isDirectory w.host.files (journalOf s) = false) (d : Database) :
    (store p d).perform w = (.ok (), w.withFiles (putDatabase s d w.host.files)) := by
  unfold store
  rw [Act.perform_bind_ok (Act.perform_get w)]
  simp only [hs, hn, hjournal, Bool.or_self, Bool.false_eq_true, if_false]
  rfl

/-- A database in a file is replaced where it lies. -/
theorem perform_replace_file {p : Path} {s : Spot} (hc : w.connection = .file p)
    (hs : w.host.files.locate p = .ok s) (hd : Found w.host.files s d) (new : Database) :
    (replace new).perform w = (.ok (), w.withFiles (putDatabase s new w.host.files)) := by
  rw [← perform_store hs hd.not_directory hd.not_directory_journalOf new]
  unfold replace
  rw [Act.perform_bind_ok (Act.perform_get w), hc]

/-- A database without a file is replaced in the connection. -/
theorem perform_replace_memory {content : Database} (hc : w.connection = .memory content)
    (new : Database) :
    (replace new).perform w = (.ok (), { w with connection := .memory new }) := by
  unfold replace
  rw [Act.perform_bind_ok (Act.perform_get w), hc]
  rfl

/-- Where the connection leads to a database, another one can take its place. -/
theorem perform_replace (h : Leads w d) (new : Database) :
    ∃ w', (replace new).perform w = (.ok (), w') ∧ Leads w' new := by
  rcases leads_cases h with hc | ⟨p, s, hc, hs, hd⟩
  · exact ⟨_, perform_replace_memory hc new, rfl⟩
  · -- the path leads where it led, for only files have changed
    have hchanged := changed_putDatabase hd.not_directory hd.not_directory_journalOf new
    exact ⟨_, perform_replace_file hc hs hd new,
      leads_of_file hc (Files.locate_of_keep hchanged.toKeep hs) (hd.putDatabase new)⟩

/-- Where texts are stored, one more can be stored. -/
theorem perform_setText (h : Holds t w) (key text : String) :
    ∃ w', (setText key text).perform w = (.ok (), w') ∧ Holds (t.put key text) w' := by
  -- a database that can be read can be replaced as well
  obtain ⟨d, hleads, -⟩ := holds_iff.mp h
  obtain ⟨w', hreplace, hleads'⟩ := perform_replace hleads { d with table := some (t.put key text) }
  have htable : table.perform w = (.ok t, w) := by rw [perform_table, h]
  refine ⟨w', ?_, holds_iff.mpr ⟨_, hleads', rfl⟩⟩
  unfold setText
  rw [Act.perform_bind_ok htable, Act.perform_bind_ok (perform_current hleads), hreplace]

/-- Looking up a text finds it among those that are stored. -/
theorem perform_getText (key : String) (w : World) :
    (getText key).perform w = (w.stored.map fun t => t.get? key, w) := by
  unfold getText
  rw [Act.perform_bind, perform_table]
  cases w.stored with
  | error e => rfl
  | ok t => rfl

/-! ### Values -/

/-- The value that texts hold under a key, or why it cannot be read. -/
def valueIn (t : Table String String) (key : String) : Except Failure Json :=
  match t.get? key with
  | some text => readJson text
  | none => .ok .null

/-- A value is read from the texts that are stored. -/
theorem perform_getValue (key : String) (w : World) :
    (getValue key).perform w = (w.stored.bind fun t => valueIn t key, w) := by
  unfold getValue
  rw [Act.perform_bind, perform_getText]
  cases w.stored with
  | error e => rfl
  | ok t =>
    simp only [Except.map, Except.bind, valueIn]
    cases t.get? key with
    | none => rfl
    | some text => exact Act.perform_ofExcept _ w

/-- What is made of a value is made of the one in the texts that are stored. -/
theorem perform_map_getValue {α : Type} (decode : Json → α) (key : String) (w : World) :
    (do return decode (← getValue key) : Act α).perform w
      = (w.stored.bind fun t => (valueIn t key).map decode, w) := by
  rw [Act.perform_bind, perform_getValue]
  cases w.stored with
  | error e => rfl
  | ok t =>
    simp only [Except.bind]
    cases valueIn t key <;> rfl

/-! ### Strings -/

/-- The strings that texts hold under a key, or why they cannot be read. -/
def stringsIn (t : Table String String) (key : String) : Except Failure (List String) :=
  match t.get? key with
  | some text => (readJson text).map stringsOf
  | none => .ok []

/-- The strings under a key are those of the value under it. -/
theorem stringsIn_eq_map (t : Table String String) (key : String) :
    stringsIn t key = (valueIn t key).map stringsOf := by
  unfold stringsIn valueIn
  cases t.get? key <;> rfl

/-- Strings are read from the texts that are stored. -/
theorem perform_getStrings (key : String) (w : World) :
    (getStrings key).perform w = (w.stored.bind fun t => stringsIn t key, w) := by
  simp only [stringsIn_eq_map]
  exact perform_map_getValue stringsOf key w

/-- The strings of a list of strings. -/
theorem stringsOf_ofStrings (l : List String) : stringsOf (.ofStrings l) = l := by
  show (l.map Json.str).map Json.text = l
  rw [List.map_map]
  exact List.map_id l

/-- Strings that were stored are read back. -/
theorem stringsIn_put (t : Table String String) (key : String) (l : List String) :
    stringsIn (t.put key (Json.ofStrings l).write) key = .ok l := by
  rw [stringsIn, Table.get?_put, if_pos rfl]
  simp only [readJson_ofStrings, Except.map, stringsOf_ofStrings]

/-- What is stored under a key is nothing to another key. -/
theorem stringsIn_put_other (t : Table String String) {key other : String} (h : key ≠ other)
    (text : String) : stringsIn (t.put key text) other = stringsIn t other := by
  rw [stringsIn, Table.get?_put, if_neg h]
  rfl

/-- Storing a text under a key is nothing to the strings under another key, also when it fails. -/
theorem keeps_getStrings_setText {key other : String} (h : key ≠ other) (text : String) :
    Act.Keeps (fun w => ((getStrings other).perform w).1) (setText key text) := by
  intro w
  cases hs : w.stored with
  | error e =>
    have htable : table.perform w = (.error e, w) := by rw [perform_table, hs]
    unfold setText
    rw [Act.perform_bind_error htable]
  | ok t =>
    obtain ⟨w', hset, hw'⟩ := perform_setText hs key text
    have hstored : w'.stored = .ok (t.put key text) := hw'
    simp only [hset, perform_getStrings, hstored, hs, Except.bind, stringsIn_put_other t h]

end Settings

end Tutor
