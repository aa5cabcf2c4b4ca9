import Mathlib.Logic.Function.Basic
import Tutor.Proofs.Settings.Attaching

namespace Tutor.Settings

/-!
# Several stores at once

Stores are opened, written to and closed in any order, several of them on one file or on different
ones. Each file has the texts that were last written to it, whichever store wrote them.

* `Written` — strings under a key, or clues;
* `perform_setText_cases` — what writing to a store does to the texts of a file;
* `Stores`, `Request`, `writesTo` — stores in one world, what is asked of them, and what is written
  to a file on the way;
* `Stores.turns_perform`, `Stores.turns_after` — the texts of a file after one request, and after
  all of them, as long as each of them is `Request.Clear` of what SQLite keeps beside the file;
* `Reads`, `read_after` — what is read from a store after some requests; `read_after_journal` shows
  what is lost without that.
-/

/-! ### What is written -/

/-- A list of strings under a key, or the list of clues. -/
inductive Written
  | strings (key : String) (values : List String)
  | clues (values : List (String × String))
  deriving DecidableEq, Repr

namespace Written

/-- The key that something is written under. -/
def key : Written → String
  | .strings key _ => key
  | .clues _ => cluesKey

/-- The value that is written. -/
def value : Written → Json
  | .strings _ values => .ofStrings values
  | .clues values => .arr (values.map fun c => .ofStrings [c.1, c.2])

/-- Write it. -/
def write : Written → Act Unit
  | .strings key values => setStrings key values
  | .clues values => setClues values

/-- It is written as a text. -/
theorem write_eq (x : Written) : x.write = setText x.key x.value.write := by
  cases x <;> rfl

/-- The value that is written is read back. -/
theorem readJson_value (x : Written) : readJson x.value.write = .ok x.value := by
  cases x with
  | strings key values => exact readJson_ofStrings values
  | clues values =>
    have hitems : ∀ l : List (String × String),
        Json.ItemsPlain (l.map fun c => .ofStrings [c.1, c.2]) := by
      intro l
      induction l with
      | nil => exact trivial
      | cons c rest ih => exact ⟨Json.itemsPlain_map_str [c.1, c.2], ih⟩
    exact readJson_write (hitems values)

end Written

/-- Texts after some things have been written, one after the other. -/
def putAll (t : Table String String) (writes : List Written) : Table String String :=
  writes.foldl (fun t x => t.put x.key x.value.write) t

/-- The text under a key that nothing is written under is what it was. -/
theorem get?_putAll_other (t : Table String String) {key : String} {writes : List Written}
    (h : ∀ y ∈ writes, y.key ≠ key) : (putAll t writes).get? key = t.get? key := by
  induction writes generalizing t with
  | nil => rfl
  | cons x rest ih =>
    obtain ⟨hx, hrest⟩ := List.forall_mem_cons.mp h
    have hput : putAll t (x :: rest) = putAll (t.put x.key x.value.write) rest := rfl
    rw [hput, ih _ hrest, Table.get?_put, if_neg hx]

/-- The text under a key is that of the last thing that was written under it. -/
theorem get?_putAll_last (t : Table String String) (before : List Written) (x : Written)
    {after : List Written} (h : ∀ y ∈ after, y.key ≠ x.key) :
    (putAll t (before ++ x :: after)).get? x.key = some x.value.write := by
  have hsplit : putAll t (before ++ x :: after)
      = putAll ((putAll t before).put x.key x.value.write) after := List.foldl_append
  rw [hsplit, get?_putAll_other _ h, Table.get?_put, if_pos rfl]

/-! ### Writing to a store -/

variable {files files' : Files} {p : Path} {s : Spot} {w : World}

/-- The spot of the file that a connection leads to, if it leads to one. -/
def spotOf (files : Files) : Connection → Option Spot
  | .file p => (files.locate p).toOption
  | .closed | .memory _ => none

/-- A spot that a connection leads to is one that its path leads to. -/
theorem of_spotOf_eq {c : Connection} (h : spotOf files c = some s) :
    ∃ p, c = .file p ∧ files.locate p = .ok s := by
  cases c with
  | closed => cases h
  | memory content => cases h
  | file p =>
    refine ⟨p, rfl, ?_⟩
    have hlocate : (files.locate p).toOption = some s := h
    cases hs : files.locate p with
    | error e => rw [hs] at hlocate; cases hlocate
    | ok s' => rw [hs] at hlocate; rw [Option.some.inj hlocate]

/-- The texts that are stored are those of the file. -/
theorem stored_of_opened (hc : w.connection = .file p) (hs : w.host.files.locate p = .ok s)
    (hopen : Opened w.host.files s) :
    w.stored = match textsAt w.host.files s with
      | some t => .ok t
      | none => .error (.database .operation) := by
  obtain ⟨d, hd, hversion⟩ := hopen.found
  have hleads : Leads w d := leads_of_file hc hs hd
  rw [textsAt, hd.node]
  unfold World.stored table
  rw [Act.perform_bind_ok (perform_current hleads)]
  simp only [textsOf, if_pos hversion]
  cases d.table <;> rfl

/-- An open database stays open when texts are stored in it. -/
theorem Opened.putDatabase (h : Opened files s) {d : Database} (hversion : d.version = schemaVersion) :
    Opened (putDatabase s d files) s := by
  obtain ⟨d', hd', -⟩ := h.found
  exact ⟨ready_putDatabase h.toReady hd'.not_directory_journalOf d, d,
    node?_putDatabase hd'.not_directory d, hversion⟩

/-- Writing a text changes what is stored in the file, if there is one, and no other texts. -/
theorem perform_setText_cases (key text : String)
    (hsettled : ∀ p, w.connection = .file p → Settled w.host.files p s) :
    ∃ r c files', (setText key text).perform w
        = (r, { w with connection := c, host := { w.host with files := files' } }) ∧
      Turns s (fun t => if spotOf w.host.files w.connection = some s then t.put key text else t)
        w.host.files files' ∧
      (c = w.connection ∨ ∃ d, c = .memory d) := by
  cases hstored : w.stored with
  | error e =>
    have htable : table.perform w = (.error e, w) := by rw [perform_table, hstored]
    have hfails : (setText key text).perform w = (.error e, w) := Act.perform_bind_error htable
    refine ⟨_, w.connection, w.host.files, hfails, turns_self ?_, .inl rfl⟩
    by_cases hs : spotOf w.host.files w.connection = some s
    · -- an open store fails only if its database lacks the table
      obtain ⟨p, hc, hlocate⟩ := of_spotOf_eq hs
      obtain ⟨-, hopen⟩ := (hsettled p hc).opened (Files.place_of_locate hlocate)
      rw [stored_of_opened hc hlocate hopen] at hstored
      cases htexts : textsAt w.host.files s with
      | none => exact .inr rfl
      | some t => rw [htexts] at hstored; cases hstored
    · exact .inl (funext fun t => if_neg hs)
  | ok t =>
    obtain ⟨d, hleads, hd⟩ := holds_iff.mp hstored
    have htable : table.perform w = (.ok t, w) := by rw [perform_table, hstored]
    have hset : (setText key text).perform w
        = (replace { d with table := some (t.put key text) }).perform w := by
      unfold setText
      rw [Act.perform_bind_ok htable, Act.perform_bind_ok (perform_current hleads)]
    rw [hset]
    rcases leads_cases hleads with hc | ⟨p, u, hc, hu, hfound⟩
    · refine ⟨_, _, w.host.files, perform_replace_memory hc _, turns_self (.inl ?_),
        .inr ⟨_, rfl⟩⟩
      exact funext fun t => if_neg (by rw [hc]; exact nofun)
    · refine ⟨_, w.connection, _, perform_replace_file hc hu hfound _, ?_, .inl rfl⟩
      have hchanged := changed_putDatabase hfound.not_directory hfound.not_directory_journalOf
        { d with table := some (t.put key text) }
      have hspot : spotOf w.host.files w.connection = some u := by
        rw [hc, spotOf, hu]
        rfl
      have hplace : w.host.files.place p = u := Files.place_of_locate hu
      by_cases hus : u = s
      · -- the texts of this file change
        subst hus
        obtain ⟨-, hopen⟩ := (hsettled p hc).opened hplace
        obtain ⟨d', hd', hversion⟩ := hopen.database
        obtain rfl : d = d' := Node.database.inj (Option.some.inj (hfound.node.symm.trans hd'))
        refine ⟨hchanged.toKeep, fun _ => hopen.putDatabase hversion, ?_⟩
        rw [textsAt, textsAt, node?_putDatabase hfound.not_directory, hfound.node]
        simp only [textsOf, if_pos hversion, hd, hspot, if_true, Option.map_some]
      · -- they are not the ones that are written
        have hother : ¬ spotOf w.host.files w.connection = some s := by
          rw [hspot, Option.some.injEq]
          exact hus
        have hsame := same_of_clear (hsettled p hc).clear hplace
          (ne_nil_of_not_directory hfound.not_directory) hchanged fun h => absurd h hus
        simp only [if_neg hother]
        exact hsame

/-! ### Stores in one world -/

/-- Numbered stores, each with a connection of its own, in one world. -/
structure Stores where
  world : World
  connections : Nat → Connection

/-- What is asked of a store, which is given by its number. -/
inductive Request
  | openPath (i : Nat) (p : Path)
  | openMemory (i : Nat)
  | close (i : Nat)
  | write (i : Nat) (what : Written)

/-- The store that is asked. -/
def Request.store : Request → Nat
  | .openPath i _ | .openMemory i | .close i | .write i _ => i

/-- What the store is to do. -/
def Request.act : Request → Act Unit
  | .openPath _ p => Settings.openPath p
  | .openMemory _ => Settings.openMemory
  | .close _ => Settings.close
  | .write _ what => what.write

namespace Stores

/-- Stores none of which is open. -/
def start (w : World) : Stores :=
  ⟨w, fun _ => .closed⟩

/-- The world as a store sees it. -/
def seen (st : Stores) (i : Nat) : World :=
  { st.world with connection := st.connections i }

/-- The spot of the file that a store is open on, if it is open on one. -/
def spot? (st : Stores) (i : Nat) : Option Spot :=
  spotOf st.world.host.files (st.connections i)

/-- The stores after a request, whether it succeeds or fails. -/
def perform (st : Stores) (r : Request) : Stores :=
  let w := (r.act.perform (st.seen r.store)).2
  ⟨w, Function.update st.connections r.store w.connection⟩

/-- The stores after some requests. -/
def after (st : Stores) (requests : List Request) : Stores :=
  requests.foldl perform st

/-- No store has anything to do with the files beside the database at the spot; those that lead to
it are open. -/
def Sound (s : Spot) (st : Stores) : Prop :=
  ∀ i p, st.connections i = .file p → Settled st.world.host.files p s

end Stores

/-- The path that a store is opened on, if one is, has nothing to do with the files beside the database
at the spot. -/
def Request.Clear (files : Files) (s : Spot) : Request → Prop
  | .openPath _ p => Settings.Clear files p s
  | .openMemory _ | .close _ | .write .. => True

instance (files : Files) (s : Spot) : ∀ r : Request, Decidable (r.Clear files s)
  | .openPath _ p => inferInstanceAs (Decidable (Settings.Clear files p s))
  | .openMemory _ | .close _ | .write .. => inferInstanceAs (Decidable True)

/-- It takes the same working directory to see so. -/
theorem Request.Clear.of_keep {r : Request} (h : r.Clear files s) (hkeep : files.Keep files') :
    r.Clear files' s := by
  cases r with
  | openPath i p => exact Settings.Clear.of_keep h hkeep
  | openMemory i => exact trivial
  | close i => exact trivial
  | write i what => exact trivial

/-- What a request writes to the file at a spot, given the stores before it. -/
def Request.writes (s : Spot) (st : Stores) : Request → List Written
  | .write i what => if st.spot? i = some s then [what] else []
  | .openPath .. | .openMemory _ | .close _ => []

/-- What requests write to the file at a spot, in order. -/
def writesTo (s : Spot) : List Request → Stores → List Written
  | [], _ => []
  | r :: rest, st => r.writes s st ++ writesTo s rest (st.perform r)

variable {st : Stores}

/-- A request changes connections and files: the texts of a file by what it writes there. -/
theorem Stores.perform_cases (h : st.Sound s) {r : Request} (hr : r.Clear st.world.host.files s) :
    ∃ answer c files', r.act.perform (st.seen r.store) = (answer,
        { st.seen r.store with connection := c, host := { st.world.host with files := files' } }) ∧
      Turns s (fun t => putAll t (r.writes s st)) st.world.host.files files' ∧
      (∀ p, c = .file p → Settled files' p s) := by
  have hseen : ∀ i p, (st.seen i).connection = .file p → Settled (st.seen i).host.files p s := h
  cases r with
  | openPath i p =>
    obtain ⟨answer, c, files', hperform, hsame, hc⟩ :=
      perform_openPath_cases (w := st.seen i) hr
    refine ⟨answer, c, files', hperform, hsame, fun q hq => ?_⟩
    -- it is the connection of before, one without a file, or the one to this path
    rcases hc with hc | ⟨d, hc⟩ | ⟨hc, hsettled⟩
    · exact (hseen i q (hc.symm.trans hq)).of_turns hsame
    · rw [hc] at hq
      cases hq
    · rw [hc] at hq
      cases hq
      exact hsettled
  | openMemory i => exact ⟨_, _, _, rfl, Same.refl _ _, nofun⟩
  | close i => exact ⟨_, _, _, rfl, Same.refl _ _, nofun⟩
  | write i what =>
    obtain ⟨answer, c, files', hperform, hturns, hc⟩ :=
      perform_setText_cases (s := s) what.key what.value.write (hseen i)
    -- writing changes the texts at the spot only if the store is open there
    have hchange : (fun t => putAll t ((Request.write i what).writes s st))
        = fun t => if spotOf (st.seen i).host.files (st.seen i).connection = some s
            then Table.put t what.key what.value.write else t := by
      funext t
      show putAll t (if st.spot? i = some s then [what] else []) = _
      unfold Stores.spot? Stores.seen
      split <;> rfl
    have hact : (Request.write i what).act = setText what.key what.value.write := what.write_eq
    refine ⟨answer, c, files', hact ▸ hperform, hchange ▸ hturns, fun q hq => ?_⟩
    rcases hc with hc | ⟨d, hc⟩
    · exact (hseen i q (hc.symm.trans hq)).of_turns hturns
    · rw [hc] at hq
      cases hq

/-- A request leaves all stores as they should be, and changes the texts of a file by what it writes
there. -/
theorem Stores.turns_perform (h : st.Sound s) {r : Request} (hr : r.Clear st.world.host.files s) :
    (st.perform r).Sound s ∧ Turns s (fun t => putAll t (r.writes s st)) st.world.host.files
      (st.perform r).world.host.files := by
  obtain ⟨answer, c, files', hperform, hturns, hc⟩ := st.perform_cases h hr
  have hnext : st.perform r
      = ⟨{ st.seen r.store with connection := c, host := { st.world.host with files := files' } },
        Function.update st.connections r.store c⟩ := by
    unfold Stores.perform
    rw [hperform]
  rw [hnext]
  refine ⟨fun i p hi => ?_, hturns⟩
  have hi : Function.update st.connections r.store c i = .file p := hi
  by_cases his : i = r.store
  · rw [his, Function.update_self] at hi
    exact hc p hi
  · rw [Function.update_of_ne his] at hi
    exact (h i p hi).of_turns hturns

/-- Requests leave all stores as they should be, and change the texts of a file by what they write
there. -/
theorem Stores.turns_after (h : st.Sound s) {requests : List Request}
    (hrequests : ∀ r ∈ requests, r.Clear st.world.host.files s) :
    (st.after requests).Sound s ∧ Turns s (fun t => putAll t (writesTo s requests st))
      st.world.host.files (st.after requests).world.host.files := by
  induction requests generalizing st with
  | nil => exact ⟨h, Same.refl _ _⟩
  | cons r rest ih =>
    obtain ⟨hr, hrest⟩ := List.forall_mem_cons.mp hrequests
    obtain ⟨hsound, hfirst⟩ := st.turns_perform h hr
    obtain ⟨hsound', hlater⟩ := ih hsound fun r' hr' => (hrest r' hr').of_keep hfirst.toKeep
    refine ⟨hsound', ?_⟩
    have hchange : (fun t => putAll t (writesTo s (r :: rest) st))
        = fun t => putAll (putAll t (r.writes s st)) (writesTo s rest (st.perform r)) := by
      funext t
      exact List.foldl_append
    rw [hchange]
    exact hfirst.trans hlater

/-! ### Reading from a store -/

/-- The value that was written last under a key is the one that is there. -/
theorem valueIn_putAll_last (t : Table String String) (before : List Written) (x : Written)
    {after : List Written} (h : ∀ y ∈ after, y.key ≠ x.key) :
    valueIn (putAll t (before ++ x :: after)) x.key = .ok x.value := by
  rw [valueIn, get?_putAll_last t before x h]
  exact x.readJson_value

/-- The value under a key that nothing is written under is the one that was there. -/
theorem valueIn_putAll_other (t : Table String String) {key : String} {writes : List Written}
    (h : ∀ y ∈ writes, y.key ≠ key) : valueIn (putAll t writes) key = valueIn t key := by
  rw [valueIn, get?_putAll_other t h]
  rfl

/-- The clues that texts hold, or why they cannot be read. -/
def cluesIn (t : Table String String) : Except Failure (List (String × String)) :=
  (valueIn t cluesKey).map cluesOf

/-- Clues that are written are the clues of their value. -/
theorem cluesOf_value (l : List (String × String)) : cluesOf (Written.clues l).value = l := by
  show (l.map fun c => Json.ofStrings [c.1, c.2]).filterMap _ = l
  rw [List.filterMap_map]
  exact List.filterMap_some

/-- Clues are read from the texts that are stored. -/
theorem perform_getClues (w : World) : getClues.perform w = (w.stored.bind cluesIn, w) :=
  perform_map_getValue cluesOf cluesKey w

/-- What is read where these texts were at first and these things were written since. -/
structure Reads (u : World) (t : Table String String) (writes : List Written) : Prop where
  /-- Under each key there are the strings that were written last, -/
  strings : ∀ before key l after, writes = before ++ .strings key l :: after →
    (∀ x ∈ after, x.key ≠ key) → (getStrings key).perform u = (.ok l, u)
  /-- or else those that were there at first. -/
  others : ∀ key, (∀ x ∈ writes, x.key ≠ key) → (getStrings key).perform u = (stringsIn t key, u)
  /-- There are the clues that were written last, -/
  clues : ∀ before l after, writes = before ++ .clues l :: after →
    (∀ x ∈ after, x.key ≠ cluesKey) → getClues.perform u = (.ok l, u)
  /-- or else those that were there at first. -/
  otherClues : (∀ x ∈ writes, x.key ≠ cluesKey) → getClues.perform u = (cluesIn t, u)

/-- What was written is read back, and nothing else. -/
theorem reads_of_stored {u : World} {t : Table String String} {writes : List Written}
    (h : u.stored = .ok (putAll t writes)) : Reads u t writes := by
  have hstrings : ∀ key, (getStrings key).perform u = (stringsIn (putAll t writes) key, u) := by
    intro key
    rw [perform_getStrings, h]
    rfl
  have hclues : getClues.perform u = (cluesIn (putAll t writes), u) := by
    rw [perform_getClues, h]
    rfl
  refine ⟨fun before key l after hwrites hafter => ?_, fun key hkey => ?_,
    fun before l after hwrites hafter => ?_, fun hkey => ?_⟩
  · have hvalue : valueIn (putAll t (before ++ .strings key l :: after)) key
        = .ok (.ofStrings l) := valueIn_putAll_last t before (.strings key l) hafter
    rw [hstrings, stringsIn_eq_map, hwrites, hvalue, Except.map, stringsOf_ofStrings]
  · rw [hstrings, stringsIn_eq_map, stringsIn_eq_map, valueIn_putAll_other t hkey]
  · have hvalue : valueIn (putAll t (before ++ .clues l :: after)) cluesKey
        = .ok (Written.clues l).value := valueIn_putAll_last t before (.clues l) hafter
    rw [hclues, cluesIn, hwrites, hvalue, Except.map, cluesOf_value]
  · rw [hclues, cluesIn, cluesIn, valueIn_putAll_other t hkey]

/-- What is made of a value is the same where the value is. -/
theorem map_getValue_congr {α : Type} {u v : World} {key : String} (decode : Json → α)
    (h : (u.stored.bind fun t => valueIn t key) = v.stored.bind fun t => valueIn t key) :
    ((do return decode (← getValue key) : Act α).perform u).1
      = ((do return decode (← getValue key) : Act α).perform v).1 := by
  rw [Act.perform_bind, Act.perform_bind, perform_getValue, perform_getValue, h]
  cases v.stored.bind fun t => valueIn t key <;> rfl

/-- A store that is open on a file leads to an open database. -/
theorem Stores.opened_of_spot? (h : st.Sound s) {i : Nat} (hi : st.spot? i = some s) :
    Opened st.world.host.files s := by
  obtain ⟨p, hc, hs⟩ := of_spotOf_eq hi
  exact ((h i p hc).opened (Files.place_of_locate hs)).2

/-- A store that is open on a file reads from it. -/
theorem Stores.stored_seen (h : st.Sound s) {i : Nat} (hi : st.spot? i = some s) :
    (st.seen i).stored = match textsAt st.world.host.files s with
      | some t => .ok t
      | none => .error (.database .operation) := by
  obtain ⟨p, hc, hs⟩ := of_spotOf_eq hi
  exact stored_of_opened hc hs (Stores.opened_of_spot? h hi)

/-- A request that writes nothing under a key to the file that a store is open on leaves the value
under it as it was. -/
theorem Stores.value_perform (h : st.Sound s) {i : Nat} (hi : st.spot? i = some s) {r : Request}
    (hr : r.Clear st.world.host.files s) {key : String} (hkey : ∀ x ∈ r.writes s st, x.key ≠ key)
    (hnext : (st.perform r).spot? i = some s) :
    (((st.perform r).seen i).stored.bind fun t => valueIn t key)
      = (st.seen i).stored.bind fun t => valueIn t key := by
  obtain ⟨hsound, hturns⟩ := Stores.turns_perform h hr
  rw [Stores.stored_seen hsound hnext, Stores.stored_seen h hi, hturns.texts]
  cases textsAt st.world.host.files s with
  | none => rfl
  | some t => exact valueIn_putAll_other t hkey

/-! ### The main result -/

/-- **Settings over time.** Stores are opened, written to and closed in one world, none of which is
open at first. Take one that is open on a file in the end, and let no store have been opened on a
path that has to do with the files that SQLite keeps beside this one. If the file, as it was at
first, claims to be of this schema but lacks the table, then nothing can be read. Otherwise the
strings under a key, and the clues, are what was written last to this file under the key, by
whichever store and through whichever path, and else what was there at first; writing to the store
succeeds, and so does opening the file again. What is read stays the same whatever else is asked,
unless that writes to this file under this key. -/
theorem read_after (w : World) (requests : List Request) {i : Nat} {s : Spot}
    (hclear : ∀ r ∈ requests, r.Clear w.host.files s)
    (hopen : ((Stores.start w).after requests).spot? i = some s) :
    let st := (Stores.start w).after requests
    let u := st.seen i
    (textsAt w.host.files s = none → ∀ key,
        (getStrings key).perform u = (.error (.database .operation), u) ∧
        getClues.perform u = (.error (.database .operation), u)) ∧
      (∀ t, textsAt w.host.files s = some t →
        Reads u t (writesTo s requests (.start w)) ∧
        (∀ x : Written, (x.write.perform u).1 = .ok ()) ∧
        ∀ p, u.host.files.locate p = .ok s → p.hasNull = false → p.toString ≠ memoryName →
          ((openPath p).perform u).1 = .ok ()) ∧
      ∀ r key, r.Clear w.host.files s → (∀ x ∈ r.writes s st, x.key ≠ key) →
        (st.perform r).spot? i = some s →
        ((getStrings key).perform ((st.perform r).seen i)).1 = ((getStrings key).perform u).1 ∧
        (key = cluesKey →
          (getClues.perform ((st.perform r).seen i)).1 = (getClues.perform u).1) := by
  intro st u
  have hstart : (Stores.start w).Sound s := fun _ _ h => nomatch h
  obtain ⟨hsound, hturns⟩ := Stores.turns_after hstart hclear
  have htexts : textsAt st.world.host.files s
      = (textsAt w.host.files s).map fun t => putAll t (writesTo s requests (.start w)) :=
    hturns.texts
  have hstored : u.stored = match textsAt st.world.host.files s with
      | some t => .ok t
      | none => .error (.database .operation) := Stores.stored_seen hsound hopen
  refine ⟨fun hnone key => ⟨?strings, ?clues⟩, fun t ht => ⟨?reads, fun x => ?writes,
    fun p hp hnull hname => ?opens⟩, fun r key hr hkey hspot => ?stays⟩
  case strings =>
    rw [htexts, hnone] at hstored
    rw [perform_getStrings, hstored]
    rfl
  case clues =>
    rw [htexts, hnone] at hstored
    refine (perform_map_getValue cluesOf cluesKey u).trans ?_
    rw [hstored]
    rfl
  case reads =>
    rw [htexts, ht] at hstored
    exact reads_of_stored hstored
  case writes =>
    rw [htexts, ht] at hstored
    obtain ⟨w', hset, -⟩ := perform_setText hstored x.key x.value.write
    rw [x.write_eq, hset]
  case opens =>
    -- that the store is open shows that the database is of this schema
    rw [perform_openPath_opened hnull hname hp (Stores.opened_of_spot? hsound hopen)]
  case stays =>
    -- strings and clues are made of the same value
    have hvalue := Stores.value_perform hsound hopen (hr.of_keep hturns.toKeep) hkey hspot
    refine ⟨map_getValue_congr stringsOf hvalue, fun hclues => ?_⟩
    subst hclues
    exact map_getValue_congr cluesOf hvalue

/-- Two stores are open on one file, through a path from the working directory and one from the top;
a third is open on another file, and a fourth on none. The first is closed and opened again in the
end. -/
theorem read_after_reopening :
    let file (name : String) : Path := ⟨"", ["d", name]⟩
    let odd := ["quote \" backslash \\ null \x00 separator \u2028 high 😀", ""]
    let requests : List Request :=
      [.openPath 0 (file "a"), .openPath 1 ⟨"/", ["work", "d", "..", "d", "a"]⟩,
        .openPath 2 (file "b"), .openMemory 3, .write 0 (.strings "k" ["old"]),
        .write 1 (.strings "k" odd), .write 0 (.clues [("é\n", "text")]),
        .write 2 (.strings "k" []), .write 3 (.strings "k" ["other"]), .close 0,
        .openPath 0 (file "a")]
    let u := ((Stores.start (World.fresh Host.bare .empty)).after requests).seen 0
    u.connection = .file (file "a") ∧ (getStrings "k").perform u = (.ok odd, u) ∧
      getClues.perform u = (.ok [("é\n", "text")], u) ∧
      (getStrings "other").perform u = (.ok [], u) := by
  intro file odd requests u
  let w := World.fresh Host.bare .empty
  let s : Spot := ["work", "d", "a"]
  have hclear : ∀ r ∈ requests, r.Clear w.host.files s := by decide +kernel
  have hopen : ((Stores.start w).after requests).spot? 0 = some s := by decide +kernel
  have hwrites : writesTo s requests (Stores.start w)
      = [.strings "k" ["old"], .strings "k" odd, .clues [("é\n", "text")]] := by decide +kernel
  have ht : textsAt w.host.files s = some [] := rfl
  obtain ⟨hreads, -⟩ := (read_after w requests hclear hopen).2.1 [] ht
  rw [hwrites] at hreads
  refine ⟨by decide +kernel, hreads.strings [.strings "k" ["old"]] "k" odd _ rfl (by decide),
    hreads.clues [.strings "k" ["old"], .strings "k" odd] _ [] rfl (by decide), ?_⟩
  exact hreads.others "other" (by decide)

/-- A store that is kept where SQLite looks for the journal of another one is lost when that one is
opened: what was written to it is not read back. -/
theorem read_after_journal :
    let s : Spot := ["work", "db-journal"]
    let requests : List Request :=
      [.openPath 0 ⟨"", ["db-journal"]⟩, .write 0 (.strings "k" ["a"]), .close 0,
        .openPath 1 ⟨"", ["db"]⟩, .close 1, .openPath 0 ⟨"", ["db-journal"]⟩]
    let w := World.fresh Host.bare .empty
    let st := (Stores.start w).after requests
    st.spot? 0 = some s ∧ writesTo s requests (.start w) = [.strings "k" ["a"]] ∧
      ((getStrings "k").perform (st.seen 0)).1 = .ok [] := by
  intro s requests w st
  refine ⟨by decide +kernel, by decide +kernel, ?_⟩
  -- the file was cleared away, and the last request makes a new one
  have hlost : (st.seen 0).stored.toOption = some [] := by decide +kernel
  rw [perform_getStrings]
  cases hstored : (st.seen 0).stored with
  | error e => rw [hstored] at hlost; cases hlost
  | ok t => rw [hstored] at hlost; cases hlost; rfl

end Tutor.Settings
