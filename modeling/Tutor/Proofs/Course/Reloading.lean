import Mathlib.Data.List.Forall2
import Tutor.Proofs.Course.Loading
import Tutor.Proofs.Events.Waiting

namespace Tutor.Catalog

/-!
# Catalogs over time

A catalog is loaded once and read again many times, while files come, go and change. It always shows
what its file held when it was last read with success, and its warnings tell how the last reading
went.

* `Gives`, `Complains` — what reading a file comes to: its lessons, or a warning;
* `Occurrence`, `run` — what happens after a catalog was loaded: files change, or the catalog is
  read again; `readings` are the moments at which it is;
* `load_cases` — where a catalog that was loaded comes from;
* `Mirrors` — what a catalog with a source is like after some occurrences, and `mirrors_reload`:
  it is so after one more reading;
* `catalog_over_time` — lessons, warnings and source of a catalog after it was loaded.
-/

/-! ### Reading a file -/

/-- The file can be read, and these are its lessons. They are those of the value that the reader makes
of the text, which has U+FFFD for each escaped surrogate without its other half. -/
def Gives (files : Files) (p : Path) (lessons : List Lesson) : Prop :=
  (textInFile files p).bind lessonsOfText = .ok lessons

/-- The file cannot be read, and this is the warning that says why. -/
def Complains (files : Files) (p : Path) (warning : String) : Prop :=
  ∃ e, (textInFile files p).bind lessonsOfText = .error e ∧ isTolerated e = true ∧
    warning = s!"Unable to load {p.toString}: {e.text}"

variable {files : Files} {p : Path} {lessons : List Lesson} {warning : String}

/-- Reading a file gives its lessons. -/
theorem lessonsInFile_eq_ok_iff :
    lessonsInFile files p = .ok (.ok lessons) ↔ Gives files p lessons := by
  unfold lessonsInFile Gives
  cases (textInFile files p).bind lessonsOfText with
  | ok found => simp
  | error e =>
    dsimp only
    split <;> simp

/-- Reading a file gives a warning. -/
theorem lessonsInFile_eq_error_iff :
    lessonsInFile files p = .ok (.error warning) ↔ Complains files p warning := by
  unfold lessonsInFile Complains
  cases (textInFile files p).bind lessonsOfText with
  | ok found =>
    constructor
    · intro h
      cases h
    · rintro ⟨e, he, -⟩
      cases he
  | error e =>
    dsimp only
    constructor
    · intro h
      split at h
      · rename_i htolerated
        rw [Except.ok.injEq, Except.error.injEq] at h
        exact ⟨e, rfl, htolerated, h.symm⟩
      · cases h
    · rintro ⟨e', he, htolerated, rfl⟩
      cases he
      rw [if_pos htolerated]

/-- Files that give warnings complain, each with its own. -/
theorem Warned.complains {paths : List Path} {warnings : List String}
    (h : Warned files paths warnings) : List.Forall₂ (Complains files) paths warnings := by
  induction paths generalizing warnings with
  | nil =>
    cases warnings with
    | nil => exact .nil
    | cons m ms => cases h
  | cons p others ih =>
    cases warnings with
    | nil => cases h
    | cons m ms =>
      obtain ⟨hp, hothers⟩ := List.cons.inj h
      exact .cons (lessonsInFile_eq_error_iff.mp hp) (ih hothers)

/-- A file that can be read gives no warning. -/
theorem Gives.not_complains (h : Gives files p lessons) (warning : String) :
    ¬ Complains files p warning := by
  rintro ⟨e, he, -⟩
  rw [Gives, he] at h
  cases h

/-- Reading the file of a catalog again replaces its lessons, and leaves no warnings. -/
theorem perform_reload_gives {w : World} (hsource : w.catalog.source = some p)
    (h : Gives w.host.files p lessons) :
    ∃ j, reload.perform w
      = (.ok true, { w with catalog := ⟨lessons, [], some p⟩, journal := j }) := by
  have hread := lessonsInFile_eq_ok_iff.mpr h
  unfold reload
  rw [Act.perform_bind_ok (Act.perform_get w)]
  simp only [hsource]
  rw [Act.perform_bind_ok (Act.perform_ofExcept_eq hread w)]
  exact ⟨_, rfl⟩

/-- Reading a file that complains again leaves the lessons as they are, and its warning. -/
theorem perform_reload_complains {w : World} (hsource : w.catalog.source = some p)
    (h : Complains w.host.files p warning) :
    ∃ j, reload.perform w = (.ok false,
      { w with catalog := { w.catalog with warnings := [warning] }, journal := j }) := by
  have hread := lessonsInFile_eq_error_iff.mpr h
  unfold reload
  rw [Act.perform_bind_ok (Act.perform_get w)]
  dsimp only
  split
  · rename_i hnone
    rw [hsource] at hnone
    cases hnone
  · rename_i q hq
    rw [hsource, Option.some.injEq] at hq
    subst hq
    rw [Act.perform_bind_ok (Act.perform_ofExcept_eq hread w)]
    exact ⟨_, rfl⟩

/-- Where reading the file of a catalog again does not fail hard, the file gives its lessons or
complains. -/
theorem reading_cases {w : World} (hsource : w.catalog.source = some p) {changed : Bool}
    (h : (reload.perform w).1 = .ok changed) :
    (∃ lessons, Gives w.host.files p lessons) ∨ ∃ warning, Complains w.host.files p warning := by
  by_cases hblocks : Blocks w.host.files p
  · rw [perform_reload_blocks hsource hblocks] at h
    cases h
  · rcases lessonsInFile_of_not_blocks hblocks with ⟨lessons, hread, -⟩ | ⟨e, -, hread⟩
    · exact .inl ⟨lessons, hread⟩
    · exact .inr ⟨_, lessonsInFile_eq_error_iff.mp hread⟩

/-! ### Loading -/

/-- A catalog that was loaded has the lessons of the first candidate that gives some, or the bundled
ones if none does; the candidates before it gave the warnings, one each. -/
theorem load_cases {explicit : Option String} {w₀ w : World}
    (h : (load explicit).perform w₀ = (.ok (), w)) :
    ∃ own found before warnings rest,
      userFile w₀.host = .ok own ∧ w₀.host.files.exists? own = .ok found ∧
      askedFor explicit ++ (if found then [own] else []) = before ++ rest ∧
      Warned w₀.host.files before warnings ∧ w.host = w₀.host ∧
      w.catalog.warnings = warnings ∧ w.catalog.source = rest.head? ∧
      (rest = [] → w.catalog.lessons = bundledLessons) ∧
      ∀ p after, rest = p :: after → Gives w₀.host.files p w.catalog.lessons := by
  have hfails : ∀ e, find w₀.host explicit ≠ .error e := by
    intro e he
    rw [perform_load_error he, Prod.mk.injEq] at h
    cases h.1
  -- the candidates are known, or nothing would have been loaded
  obtain ⟨own, hown⟩ : ∃ own, userFile w₀.host = .ok own := by
    cases hown : userFile w₀.host with
    | ok own => exact ⟨own, rfl⟩
    | error e =>
      refine absurd ?_ (hfails e)
      unfold find
      rw [candidates_of_nameless hown]
      rfl
  cases hfound : w₀.host.files.exists? own with
  | error f =>
    refine absurd ?_ (hfails (.file f))
    unfold find
    rw [candidates_of_not_exists hown hfound]
    rfl
  | ok found =>
    obtain ⟨before, warnings, rest, hsplit, hwarned, hrest⟩ := warned_cases w₀.host.files
      (askedFor explicit ++ if found then [own] else [])
    have hfind : find w₀.host explicit = firstReadable w₀.host.files rest warnings := by
      unfold find
      rw [candidates_of_exists hown hfound, hsplit]
      exact firstReadable_append hwarned rest []
    refine ⟨own, found, before, warnings, rest, hown, hfound, hsplit, hwarned, ?_⟩
    rcases hrest with rfl | ⟨p, after, rfl, hblocks | ⟨lessons, hread⟩⟩
    · -- all candidates complained
      obtain ⟨j, hload⟩ := perform_load_ok hfind
      rw [hload, Prod.mk.injEq] at h
      obtain ⟨-, rfl⟩ := h
      exact ⟨rfl, rfl, rfl, fun _ => rfl,
        fun p after hp => absurd hp.symm (List.cons_ne_nil p after)⟩
    · -- a candidate that blocks would have ended it all
      rw [firstReadable, lessonsInFile_of_blocks hblocks] at hfind
      exact absurd hfind (hfails _)
    · -- the first of the rest gave its lessons
      rw [firstReadable, hread] at hfind
      obtain ⟨j, hload⟩ := perform_load_ok hfind
      rw [hload, Prod.mk.injEq] at h
      obtain ⟨-, rfl⟩ := h
      refine ⟨rfl, rfl, rfl, fun hnone => absurd hnone (List.cons_ne_nil p after),
        fun q others hq => ?_⟩
      cases hq
      exact lessonsInFile_eq_ok_iff.mp hread

/-! ### Occurrences -/

/-- What happens after a catalog was loaded: the files change, in whatever way, or the catalog is
read again. -/
inductive Occurrence
  | change (files : Files)
  | reload

/-- The world after an occurrence. -/
def Occurrence.perform (w : World) : Occurrence → World
  | .change files => { w with host := { w.host with files := files } }
  | .reload => (Catalog.reload.perform w).2

/-- The world after some occurrences. -/
def run (history : List Occurrence) (w : World) : World :=
  history.foldl Occurrence.perform w

/-- The moments at which the catalog is read again. -/
def readings : List Occurrence → World → List World
  | [], _ => []
  | .change files :: rest, w => readings rest (Occurrence.perform w (.change files))
  | .reload :: rest, w => w :: readings rest (Occurrence.perform w .reload)

/-- What reading the file `p` again comes to: it succeeds if the file gives lessons, which then are
those of the catalog; otherwise the lessons stay, and the warning is that of the file. -/
structure Told (p : Path) (w : World) : Prop where
  succeeds : (reload.perform w).1 = .ok true ↔ ∃ lessons, Gives w.host.files p lessons
  fails : (reload.perform w).1 = .ok false ↔ ∃ warning, Complains w.host.files p warning
  gives : ∀ lessons, Gives w.host.files p lessons →
    (reload.perform w).2.catalog = ⟨lessons, [], some p⟩
  complains : ∀ warning, Complains w.host.files p warning →
    (reload.perform w).2.catalog = { w.catalog with warnings := [warning] }

/-- What a catalog read from the file `p` is like after some occurrences. The file was last read
with success at the moment `first`, or at a later one. -/
structure Mirrors (p : Path) (first w : World) (history : List Occurrence) : Prop where
  /-- The source never changes. -/
  source : (run history w).catalog.source = some p
  /-- The lessons are those that the file gave when it was last read with success. -/
  lessons : ∃ before u after, first :: readings history w = before ++ u :: after ∧
    Gives u.host.files p (run history w).catalog.lessons ∧
      ∀ v ∈ after, ∀ lessons, ¬ Gives v.host.files p lessons
  /-- As long as the file is not read again, the warnings stay. -/
  unread : readings history w = [] → (run history w).catalog.warnings = w.catalog.warnings
  /-- After that, there is the one warning of the last reading, or none. -/
  reread : ∀ before u, readings history w = before ++ [u] →
    (∀ lessons, Gives u.host.files p lessons → (run history w).catalog.warnings = []) ∧
      ∀ m, Complains u.host.files p m → (run history w).catalog.warnings = [m]
  /-- Reading the file again tells whether it gives lessons. -/
  told : ∀ u ∈ readings history w, Told p u

variable {first w : World} {history : List Occurrence}

/-- Before anything happens, a catalog with a source is as it was loaded. -/
theorem mirrors_nil (hsource : w.catalog.source = some p)
    (h : Gives first.host.files p w.catalog.lessons) : Mirrors p first w [] where
  source := hsource
  lessons := ⟨[], first, [], rfl, h, fun _ hv => absurd hv List.not_mem_nil⟩
  unread _ := rfl
  reread _ _ h := absurd h.symm (List.append_ne_nil_of_right_ne_nil _ (List.cons_ne_nil _ _))
  told _ hu := absurd hu List.not_mem_nil

/-- Reading a file that gives lessons again succeeds. -/
theorem told_of_gives (hsource : w.catalog.source = some p) (h : Gives w.host.files p lessons) :
    Told p w := by
  have hnone : ¬ ∃ warning, Complains w.host.files p warning := fun ⟨m, hm⟩ => h.not_complains m hm
  obtain ⟨j, hreload⟩ := perform_reload_gives hsource h
  refine ⟨?_, ?_, fun others hothers => ?_, fun m hm => absurd ⟨m, hm⟩ hnone⟩
  · rw [hreload]
    exact ⟨fun _ => ⟨lessons, h⟩, fun _ => rfl⟩
  · rw [hreload]
    exact ⟨(fun hfalse => nomatch hfalse), fun hsome => absurd hsome hnone⟩
  · have hsame : lessons = others := by
      rw [Gives, h, Except.ok.injEq] at hothers
      exact hothers
    rw [hreload, hsame]

/-- Reading a file that complains again fails. -/
theorem told_of_complains (hsource : w.catalog.source = some p)
    (h : Complains w.host.files p warning) : Told p w := by
  have hnone : ¬ ∃ lessons, Gives w.host.files p lessons := fun ⟨_, hgives⟩ =>
    hgives.not_complains warning h
  obtain ⟨j, hreload⟩ := perform_reload_complains hsource h
  refine ⟨?_, ?_, fun others hothers => absurd ⟨others, hothers⟩ hnone, fun m hm => ?_⟩
  · rw [hreload]
    exact ⟨(fun htrue => nomatch htrue), fun hsome => absurd hsome hnone⟩
  · rw [hreload]
    exact ⟨fun _ => ⟨warning, h⟩, fun _ => rfl⟩
  · have hsame := lessonsInFile_eq_error_iff.mpr hm
    rw [lessonsInFile_eq_error_iff.mpr h, Except.ok.injEq, Except.error.injEq] at hsame
    rw [hreload, hsame]

/-- Once the catalog has been read again, it mirrors its file from there, or from where it did
before if the file gave nothing. -/
theorem mirrors_reload {next : World} (htold : Told p w)
    (h : Mirrors p next (Occurrence.perform w .reload) history)
    (hnext : next = w ∨ next = first ∧ ∀ lessons, ¬ Gives w.host.files p lessons) :
    Mirrors p first w (.reload :: history) where
  source := h.source
  lessons := by
    obtain ⟨before, u, after, hmoments, hgives, hafter⟩ := h.lessons
    rcases hnext with rfl | ⟨rfl, hnone⟩
    · exact ⟨first :: before, u, after, congrArg (first :: ·) hmoments, hgives, hafter⟩
    · -- this reading is one of those since the last success
      cases before with
      | nil =>
        obtain ⟨rfl, rfl⟩ := List.cons.inj hmoments
        refine ⟨[], next, w :: readings history (Occurrence.perform w .reload), rfl, hgives, ?_⟩
        exact List.forall_mem_cons.mpr ⟨hnone, hafter⟩
      | cons v others =>
        obtain ⟨rfl, hothers⟩ := List.cons.inj hmoments
        exact ⟨next :: w :: others, u, after, congrArg (next :: w :: ·) hothers, hgives, hafter⟩
  unread hnil := nomatch hnil
  reread before u hlast := by
    -- the last reading is this one only if there are no others
    have hreadings : w :: readings history (Occurrence.perform w .reload) = before ++ [u] := hlast
    cases before with
    | nil =>
      obtain ⟨rfl, hnil⟩ := List.cons.inj hreadings
      have hstays : (run history (Occurrence.perform w .reload)).catalog.warnings
          = (reload.perform w).2.catalog.warnings := h.unread hnil
      have hrun : run (.reload :: history) w = run history (Occurrence.perform w .reload) := rfl
      rw [hrun, hstays]
      exact ⟨fun lessons hgives => by rw [htold.gives lessons hgives],
        fun m hm => by rw [htold.complains m hm]⟩
    | cons v others =>
      obtain ⟨rfl, hothers⟩ := List.cons.inj hreadings
      exact h.reread others u hothers
  told := List.forall_mem_cons.mpr ⟨htold, h.told⟩

/-- A catalog mirrors its file, whatever happens, as long as no reading fails hard. -/
theorem mirrors_run (hsource : w.catalog.source = some p)
    (hfirst : Gives first.host.files p w.catalog.lessons)
    (hreturns : ∀ u ∈ readings history w, ∃ changed, (reload.perform u).1 = .ok changed) :
    Mirrors p first w history := by
  induction history generalizing first w with
  | nil => exact mirrors_nil hsource hfirst
  | cons occurrence rest ih =>
    cases occurrence with
    | change files =>
      -- what the file gave before stays in the catalog
      have h : Mirrors p first (Occurrence.perform w (.change files)) rest :=
        ih hsource hfirst hreturns
      exact ⟨h.source, h.lessons, h.unread, h.reread, h.told⟩
    | reload =>
      obtain ⟨⟨changed, hchanged⟩, hreturns⟩ := List.forall_mem_cons.mp hreturns
      have hw' : Occurrence.perform w .reload = (reload.perform w).2 := rfl
      rcases reading_cases hsource hchanged with ⟨lessons, hgives⟩ | ⟨warning, hcomplains⟩
      · -- the lessons of the file are those of this reading from now on
        obtain ⟨j, hreload⟩ := perform_reload_gives hsource hgives
        have h : Mirrors p w (Occurrence.perform w .reload) rest :=
          ih (by rw [hw', hreload]) (by rw [hw', hreload]; exact hgives) hreturns
        exact mirrors_reload (told_of_gives hsource hgives) h (.inl rfl)
      · -- the lessons are still those of an earlier reading
        obtain ⟨j, hreload⟩ := perform_reload_complains hsource hcomplains
        have h : Mirrors p first (Occurrence.perform w .reload) rest :=
          ih (by rw [hw', hreload]; exact hsource) (by rw [hw', hreload]; exact hfirst) hreturns
        exact mirrors_reload (told_of_complains hsource hcomplains) h
          (.inr ⟨rfl, fun lessons hgives => hgives.not_complains warning hcomplains⟩)

/-- Nothing that happens changes a catalog without a source, and reading it again changes nothing at
all. -/
theorem run_bundled (hsource : w.catalog.source = none) (history : List Occurrence) :
    (run history w).catalog = w.catalog ∧
      ∀ u ∈ readings history w, reload.perform u = (.ok false, u) := by
  induction history generalizing w with
  | nil => exact ⟨rfl, fun _ hu => absurd hu List.not_mem_nil⟩
  | cons occurrence rest ih =>
    cases occurrence with
    | change files =>
      exact ih hsource
    | reload =>
      have hreload := perform_reload_bundled hsource
      have hw' : Occurrence.perform w .reload = w := by
        show (reload.perform w).2 = w
        rw [hreload]
      obtain ⟨hcatalog, hreadings⟩ := ih hsource
      have hrun : run (.reload :: rest) w = run rest (Occurrence.perform w .reload) := rfl
      refine ⟨by rw [hrun, hw', hcatalog], ?_⟩
      show ∀ u ∈ w :: readings rest (Occurrence.perform w .reload), _
      rw [hw']
      exact List.forall_mem_cons.mpr ⟨hreload, hreadings⟩

/-! ### The main result -/

/-- **Catalogs over time.** A catalog is loaded; then files change in whatever way, and it is read
again now and then, which never fails hard. Its source is the first candidate that could be read
when it was loaded, if there was one, and stays so; each candidate before it gave one warning.
Without a source the lessons are the bundled ones, the warnings stay, and reading the catalog again
changes nothing. With a source the lessons are those that the file gave when it was last read with
success, and the warnings stay until the file is read again; from then on there is none, or the one
of the last reading if that did not succeed. Reading again tells whether it succeeded; if not, the
lessons stay. -/
theorem catalog_over_time {explicit : Option String} {w₀ w : World}
    (hload : (load explicit).perform w₀ = (.ok (), w)) (history : List Occurrence)
    (hreturns : ∀ u ∈ readings history w, ∃ changed, (reload.perform u).1 = .ok changed) :
    ∃ own found before warnings rest,
      userFile w₀.host = .ok own ∧ w₀.host.files.exists? own = .ok found ∧
      askedFor explicit ++ (if found then [own] else []) = before ++ rest ∧
      List.Forall₂ (Complains w₀.host.files) before warnings ∧
      w.host = w₀.host ∧ w.catalog.warnings = warnings ∧
      (run history w).catalog.source = rest.head? ∧
      (rest = [] → (run history w).catalog = ⟨bundledLessons, warnings, none⟩ ∧
        ∀ u ∈ readings history w, reload.perform u = (.ok false, u)) ∧
      ∀ p after, rest = p :: after →
        (∃ lessons, Gives w₀.host.files p lessons) ∧ Mirrors p w w history := by
  obtain ⟨own, found, before, warnings, rest, hown, hfound, hsplit, hwarned, hhost, hwarnings,
    hsource, hbundled, hgives⟩ := load_cases hload
  -- no file was read, or the first of the rest
  have hends : (rest = [] → (run history w).catalog = ⟨bundledLessons, warnings, none⟩ ∧
      ∀ u ∈ readings history w, reload.perform u = (.ok false, u)) ∧
      ∀ p after, rest = p :: after →
        (∃ lessons, Gives w₀.host.files p lessons) ∧ Mirrors p w w history := by
    constructor
    · rintro rfl
      obtain ⟨hcatalog, hreadings⟩ := run_bundled hsource history
      have hloaded : w.catalog = ⟨w.catalog.lessons, w.catalog.warnings, w.catalog.source⟩ := rfl
      rw [hbundled rfl, hwarnings, hsource] at hloaded
      exact ⟨hcatalog.trans hloaded, hreadings⟩
    · rintro p after rfl
      have hfirst := hgives p after rfl
      exact ⟨⟨_, hfirst⟩, mirrors_run hsource (hhost ▸ hfirst) hreturns⟩
  refine ⟨own, found, before, warnings, rest, hown, hfound, hsplit, hwarned.complains, hhost,
    hwarnings, ?_, hends⟩
  cases rest with
  | nil => rw [(hends.1 rfl).1]; rfl
  | cons p after => exact (hends.2 p after rfl).2.source

/-- The file that was asked for is missing, but the user has one. It is spoilt, read, replaced and
read again: its first lessons stay until the second reading. -/
theorem catalog_over_time_spoilt :
    let own : Path := ⟨"/", ["c", "showmehow", "lessons.json"]⟩
    let holding (text : String) : Files := { entries :=
      [(["c"], .directory), (["c", "showmehow"], .directory),
        (own.names, .file text.toUTF8.toList)] }
    let host := { Host.bare with
      environment := [("XDG_CONFIG_HOME", "/c")], files := holding "[\x7b\"name\": \"a\"\x7d]" }
    let loaded := (load (some "x.json")).perform (World.fresh host .empty)
    let spoilt := [.change (holding "["), .reload]
    let replaced := spoilt ++ [.change (holding "[\x7b\"name\": \"b\"\x7d]"), .reload]
    loaded.1 = .ok () ∧ userFile host = .ok own ∧
      (∃ warning, loaded.2.catalog.warnings = [warning] ∧
        Complains host.files (.ofString "x.json") warning) ∧
      Mirrors own loaded.2 loaded.2 replaced ∧
      (run spoilt loaded.2).catalog.lessons.map (·.name) = ["a"] ∧
      (run spoilt loaded.2).catalog.warnings.length = 1 ∧
      (run replaced loaded.2).catalog.lessons.map (·.name) = ["b"] ∧
      (run replaced loaded.2).catalog.warnings = [] := by
  intro own holding host loaded spoilt replaced
  have hok : ∀ {α : Type} {r : Except Failure α} {x : α}, r.toOption = some x → r = .ok x := by
    intro α r x h
    cases r with
    | error e => cases h
    | ok y => rw [Option.some.inj h]
  have hloaded : loaded.1 = .ok () := hok (by decide +kernel)
  have hload : (load (some "x.json")).perform (World.fresh host .empty) = (.ok (), loaded.2) :=
    Prod.ext hloaded rfl
  have hreturns : ∀ u ∈ readings replaced loaded.2, ∃ changed, (reload.perform u).1 = .ok changed :=
    List.forall_mem_cons.mpr ⟨⟨false, hok (by decide +kernel)⟩,
      List.forall_mem_cons.mpr ⟨⟨true, hok (by decide +kernel)⟩, List.forall_mem_nil _⟩⟩
  have hown : userFile host = .ok own := hok (by decide +kernel)
  have hexists : host.files.exists? own = .ok true := by decide +kernel
  have hone : loaded.2.catalog.warnings.length = 1 := by decide +kernel
  obtain ⟨own', found, before, warnings, rest, hown', hfound, hsplit, hcomplain, -, hwarnings, -, -,
    hmirrors⟩ := catalog_over_time hload replaced hreturns
  have hcomplain : List.Forall₂ (Complains host.files) before warnings := hcomplain
  obtain rfl : own = own' := Except.ok.inj (hown.symm.trans hown')
  obtain rfl : true = found := Except.ok.inj (hexists.symm.trans hfound)
  have hsplit : [Path.ofString "x.json"] ++ [own] = before ++ rest := hsplit
  -- there is one warning, so that one candidate came before the source
  rw [hwarnings] at hone
  obtain ⟨rfl, rfl⟩ := List.append_inj hsplit (hcomplain.length_eq.trans hone).symm
  obtain _ | ⟨hfirst, hnone⟩ := hcomplain
  cases hnone
  exact ⟨hloaded, hown, ⟨_, hwarnings, hfirst⟩, (hmirrors own [] rfl).2, by decide +kernel,
    by decide +kernel, by decide +kernel, by decide +kernel⟩

end Tutor.Catalog
