import Tutor.Proofs.Service.Progress

namespace Tutor.Service

/-!
# Lists of lessons

A list shows the lessons that some names stand for, as far as a client may see them. A name stands
for a lesson if exactly one has it.

* `rowOf` — the row of a name; `perform_unlockedLessons`, `perform_knownLessons`: the lists are made
  of the rows of the names that are stored;
* `Lists` — what a list of rows is for a list of names, in which names may be repeated and may stand
  for no lesson or for several; `lists_filterMap` is that the rows of the names make up such a list.
-/

/-- The row of a name: the summary of its lesson, if the client may see that. -/
def rowOf (c : Catalog) (client name : String) : Option Summary :=
  (c.lesson? name).bind fun l => if l.availableTo.contains client then some (.of l) else none

variable {c : Catalog} {client name : String} {row : Summary}

/-! ### Rows -/

/-- A row is the summary of a lesson that the client may see. -/
theorem rowOf_eq_some_iff : rowOf c client name = some row ↔
    ∃ l, c.lesson? name = some l ∧ client ∈ l.availableTo ∧ row = .of l := by
  unfold rowOf
  rw [Option.bind_eq_some_iff]
  refine exists_congr fun l => and_congr_right fun _ => ?_
  by_cases hsees : client ∈ l.availableTo
  · rw [if_pos (List.contains_iff_mem.mpr hsees), Option.some.injEq, eq_comm]
    exact (and_iff_right hsees).symm
  · rw [if_neg (mt List.contains_iff_mem.mp hsees)]
    exact ⟨nofun, fun h => absurd h.1 hsees⟩

/-- The row of a name has this name. -/
theorem name_of_rowOf (h : rowOf c client name = some row) : row.name = name := by
  obtain ⟨l, hl, -, rfl⟩ := rowOf_eq_some_iff.mp h
  exact (Catalog.of_lesson?_eq_some hl).2

/-! ### Listing -/

/-- Names are looked up in the catalog, which only may be logged. -/
theorem perform_lookupAll (names : List String) (w : World) :
    ∃ j, (lookupAll names).perform w
      = (.ok (names.map w.catalog.lesson?), { w with journal := j }) := by
  induction names generalizing w with
  | nil => exact ⟨w.journal, rfl⟩
  | cons name rest ih =>
    obtain ⟨j, hfirst⟩ := Catalog.perform_lookup name w
    obtain ⟨j', hrest⟩ := ih { w with journal := j }
    refine ⟨j', ?_⟩
    rw [lookupAll, Act.perform_bind_ok hfirst, Act.perform_bind_ok hrest]
    rfl

/-- A list consists of the rows of the names. -/
theorem perform_summaries (names : List String) (client : String) (w : World) :
    ∃ j, (summaries names client).perform w
      = (.ok (names.filterMap (rowOf w.catalog client)), { w with journal := j }) := by
  obtain ⟨j, hfound⟩ := perform_lookupAll names w
  refine ⟨j, ?_⟩
  unfold summaries
  rw [Act.perform_bind_ok hfound, Act.perform_pure, List.filterMap_map]
  congr 3
  funext name
  unfold rowOf
  simp only [Function.comp]
  cases w.catalog.lesson? name <;> rfl

/-- The unlocked lessons are listed from the names that are stored and those that are always
unlocked. -/
theorem perform_unlockedLessons (client : String) (w : World) :
    ∃ j, (unlockedLessons client).perform w
      = ((lists w).1.map fun stored =>
          (stored ++ alwaysUnlocked).eraseDups.filterMap (rowOf w.catalog client),
        { w with journal := j }) := by
  have hread := Settings.perform_getStrings Settings.unlockedKey w
  unfold unlockedLessons
  rw [lists_eq]
  cases hstored : w.stored.bind fun t => Settings.stringsIn t Settings.unlockedKey with
  | error e =>
    rw [hstored] at hread
    exact ⟨w.journal, Act.perform_bind_error hread⟩
  | ok stored =>
    rw [hstored] at hread
    rw [Act.perform_bind_ok hread, addUnique_eq_eraseDups]
    exact perform_summaries _ client w

/-- The completed lessons are listed from the names that are stored. -/
theorem perform_knownLessons (client : String) (w : World) :
    ∃ j, (knownLessons client).perform w
      = ((lists w).2.map fun stored => stored.filterMap (rowOf w.catalog client),
        { w with journal := j }) := by
  have hread := Settings.perform_getStrings Settings.knownKey w
  unfold knownLessons
  rw [lists_eq]
  cases hstored : w.stored.bind fun t => Settings.stringsIn t Settings.knownKey with
  | error e =>
    rw [hstored] at hread
    exact ⟨w.journal, Act.perform_bind_error hread⟩
  | ok stored =>
    rw [hstored] at hread
    rw [Act.perform_bind_ok hread]
    exact perform_summaries stored client w

/-- Where the same names are stored and the lessons are the same, the lists are. -/
theorem listings_congr {w w' : World} (hlists : lists w' = lists w)
    (hcatalog : w'.catalog = w.catalog) (client : String) :
    ((unlockedLessons client).perform w').1 = ((unlockedLessons client).perform w).1 ∧
      ((knownLessons client).perform w').1 = ((knownLessons client).perform w).1 := by
  obtain ⟨_, hunlocked⟩ := perform_unlockedLessons client w
  obtain ⟨_, hunlocked'⟩ := perform_unlockedLessons client w'
  obtain ⟨_, hknown⟩ := perform_knownLessons client w
  obtain ⟨_, hknown'⟩ := perform_knownLessons client w'
  rw [hunlocked, hunlocked', hknown, hknown', hlists, hcatalog]
  exact ⟨rfl, rfl⟩

/-! ### What is listed -/

/-- These rows are the list of these names for a client. -/
structure Lists (c : Catalog) (client : String) (names : List String) (rows : List Summary) :
    Prop where
  /-- No lesson is listed twice. -/
  nodup : (rows.map (·.name)).Nodup
  /-- The names that are listed stand for a lesson, one only, that the client may see. -/
  mem_iff : ∀ name, name ∈ rows.map (·.name) ↔
    name ∈ names ∧ ∃ l, c.named name = [l] ∧ client ∈ l.availableTo
  /-- The rows come in the order in which their names first occur. -/
  ordered : rows.Pairwise fun a b => names.idxOf a.name < names.idxOf b.name
  /-- Each row is the summary of the lesson that is found under its name. -/
  summary : ∀ row ∈ rows, ∃ l, c.lesson? row.name = some l ∧ row = .of l

/-- The rows of names, where repeated names are dropped, are their list. -/
theorem lists_filterMap (c : Catalog) (client : String) (names : List String) :
    Lists c client names (names.eraseDups.filterMap (rowOf c client)) where
  nodup := by
    -- a row bears the name that it is made from
    rw [List.Nodup, List.pairwise_map, List.pairwise_filterMap]
    refine (nodup_eraseDups names).imp fun {name other} hne row hrow row' hrow' => ?_
    rw [name_of_rowOf hrow, name_of_rowOf hrow']
    exact hne
  mem_iff name := by
    simp only [List.mem_map, List.mem_filterMap, List.mem_eraseDups]
    constructor
    · rintro ⟨row, ⟨other, hother, hrow⟩, rfl⟩
      obtain rfl := name_of_rowOf hrow
      obtain ⟨l, hl, hsees, -⟩ := rowOf_eq_some_iff.mp hrow
      exact ⟨hother, l, Catalog.lesson?_eq_some_iff.mp hl, hsees⟩
    · rintro ⟨hname, l, hl, hsees⟩
      have hrow : rowOf c client name = some (.of l) :=
        rowOf_eq_some_iff.mpr ⟨l, Catalog.lesson?_eq_some_iff.mpr hl, hsees, rfl⟩
      exact ⟨.of l, ⟨name, hname, hrow⟩, name_of_rowOf hrow⟩
  ordered := by
    rw [List.pairwise_filterMap]
    refine (pairwise_eraseDups names).imp fun {name other} hlt row hrow row' hrow' => ?_
    rw [name_of_rowOf hrow, name_of_rowOf hrow']
    exact hlt
  summary row hrow := by
    obtain ⟨name, -, hname⟩ := List.mem_filterMap.mp hrow
    obtain ⟨l, hl, -, rfl⟩ := rowOf_eq_some_iff.mp hname
    refine ⟨l, ?_, rfl⟩
    rw [name_of_rowOf hname]
    exact hl

/-- A list of names that are stored, and of those that are always unlocked. -/
theorem lists_unlockedLessons {w : World} {stored : List String} (h : (lists w).1 = .ok stored)
    (client : String) : ∃ rows j, (unlockedLessons client).perform w
        = (.ok rows, { w with journal := j }) ∧
      Lists w.catalog client (stored ++ alwaysUnlocked) rows := by
  obtain ⟨j, hlisted⟩ := perform_unlockedLessons client w
  rw [h] at hlisted
  exact ⟨_, j, hlisted, lists_filterMap _ client _⟩

/-- After a run that starts without settings, the completed lessons are listed from the names that
its successes complete. -/
theorem lists_knownLessons {w₀ w : World} {successes : List Success} (hrun : Run w₀ successes w)
    (hw₀ : Settings.Holds [] w₀) (client : String) :
    ∃ rows j, (knownLessons client).perform w = (.ok rows, { w with journal := j }) ∧
      Lists w.catalog client (successes.flatMap Success.completes) rows := by
  have hstart : Shows w₀ [] := by
    have hstored : w₀.stored = .ok [] := hw₀
    rw [Shows, lists_eq, hstored]
    rfl
  -- what is stored has no name twice, for that is how the lists grow
  have hshows : lists w = (.ok (unlockedBy successes), .ok (completedBy successes)) :=
    (grows_run hrun [] hstart).1
  obtain ⟨j, hlisted⟩ := perform_knownLessons client w
  rw [hshows] at hlisted
  exact ⟨_, j, hlisted, lists_filterMap _ client _⟩

end Tutor.Service
