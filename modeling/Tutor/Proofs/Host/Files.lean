import Tutor.Host.Files

namespace Tutor

/-!
# Where paths lead

A file that can be found can be written over, and what was written is found again.

* `Files.place` — where a path leads if it leads anywhere, said of its names alone, and
  `Files.Crosses` — it leads to a spot or through it;
* `Files.locate_take` — on the way to a file lie directories;
* `Files.makeDirs_parent` — where there is a file, the directories above it are there already;
* `Files.Keep` — the directories stay, so that by `Files.locate_of_keep` every path goes on leading
  where it led;
* `Files.lookup_congr` — a path leads to what it led to if what changes is off the way;
* `Files.Changed` — files that differ at some spots only;
* `Files.raised_makeDirs` — making directories changes only spots that the path leads to or through.
-/

/-! ### Paths -/

/-- The beginning of a path, as far as its first names go. -/
def Path.upTo (p : Path) (k : Nat) : Path :=
  { p with names := p.names.take k }

/-- The text of a path is no shorter than that of the first names on it. -/
theorem Path.utf8ByteSize_take (p : Path) {k : Nat} (hk : 0 < k) (hp : k < p.names.length) :
    (p.upTo k).toString.utf8ByteSize ≤ p.toString.utf8ByteSize := by
  have htake : p.names.take k ≠ [] := by
    intro h
    have hlength := congrArg List.length h
    rw [List.length_take, List.length_nil] at hlength
    omega
  have hdrop : p.names.drop k ≠ [] := by
    rw [← List.length_pos_iff, List.length_drop]
    omega
  have hsplit : "/".intercalate p.names
      = "/".intercalate (p.names.take k) ++ "/" ++ "/".intercalate (p.names.drop k) := by
    rw [← String.intercalate_append_of_ne_nil htake hdrop, List.take_append_drop]
  have hnames : p.names ≠ [] := fun h => htake (by rw [h, List.take_nil])
  simp only [Path.upTo, Path.toString, List.isEmpty_eq_false_iff.mpr htake,
    List.isEmpty_eq_false_iff.mpr hnames, Bool.and_false, Bool.false_eq_true, if_false,
    String.utf8ByteSize_append, hsplit]
  omega

namespace Files

variable {files : Files} {p : Path} {s : Spot}

/-! ### The place of a path -/

/-- The spot that one more name leads to. -/
def onward (s : Spot) (name : String) : Spot :=
  if name == ".." then s.dropLast else s ++ [name]

/-- The spot that a path leads to, if it leads anywhere. -/
def place (files : Files) (p : Path) : Spot :=
  p.names.foldl onward (files.start p)

/-- The path leads to this spot or through it. -/
def Crosses (files : Files) (p : Path) (s : Spot) : Prop :=
  ∃ k ≤ p.names.length, files.place (p.upTo k) = s

theorem crosses_place (files : Files) (p : Path) : files.Crosses p (files.place p) := by
  refine ⟨p.names.length, Nat.le_refl _, ?_⟩
  rw [Path.upTo, List.take_length]

/-- The path leads wherever a beginning of it leads. -/
theorem Crosses.of_upTo {k : Nat} (h : files.Crosses (p.upTo k) s) : files.Crosses p s := by
  obtain ⟨j, hj, hplace⟩ := h
  refine ⟨min j k, ?_, ?_⟩
  · rw [Path.upTo, List.length_take] at hj
    omega
  · rw [← hplace, Path.upTo, Path.upTo, Path.upTo, List.take_take]

/-- A step leads on from a directory. -/
theorem step_eq_ok {name : String} {s' : Spot} (h : step files s name = .ok s') :
    node? files s = some .directory ∧ s' = onward s name := by
  unfold step at h
  unfold onward
  cases hn : node? files s with
  | none => rw [hn] at h; cases h
  | some n =>
    rw [hn] at h
    cases n with
    | file bytes => cases h
    | database d => cases h
    | directory =>
      refine ⟨rfl, ?_⟩
      dsimp only at h
      split at h
      · rename_i hup
        rw [if_pos hup, ← Except.ok.inj h]
      · rename_i hdown
        split at h
        · cases h
        · rw [if_neg hdown, ← Except.ok.inj h]

/-- Where a path leads is its place. -/
theorem place_of_locate (h : locate files p = .ok s) : files.place p = s := by
  have hway : ∀ (names : List String) (t : Spot), names.foldlM (step files) t = .ok s →
      names.foldl onward t = s := by
    intro names
    induction names with
    | nil => exact fun t ht => Except.ok.inj ht
    | cons name rest ih =>
      intro t ht
      rw [List.foldlM_cons] at ht
      cases hnext : step files t name with
      | error e => rw [hnext] at ht; cases ht
      | ok u =>
        rw [hnext] at ht
        rw [List.foldl_cons, ← (step_eq_ok hnext).2]
        exact ih u ht
  unfold locate at h
  split at h
  · cases h
  · exact hway _ _ h

/-! ### On the way to a file -/

/-- A path leads to something if it leads to a spot where that lies. -/
theorem lookup_eq_ok_iff {n : Node} :
    lookup files p = .ok n ↔ ∃ s, locate files p = .ok s ∧ node? files s = some n := by
  unfold lookup
  constructor
  · intro h
    cases hs : locate files p with
    | error e => rw [hs] at h; cases h
    | ok s =>
      rw [hs] at h
      refine ⟨s, rfl, ?_⟩
      cases hn : node? files s with
      | none => simp only [hn] at h; cases h
      | some m => simp only [hn, Except.ok.injEq] at h; rw [h]
  · rintro ⟨s, hs, hn⟩
    rw [hs]
    simp only [hn]

/-- On the way to a file lie directories. -/
theorem locate_take (h : locate files p = .ok s) {k : Nat} (hk : 0 < k)
    (hp : k < p.names.length) :
    ∃ s', locate files (p.upTo k) = .ok s' ∧ node? files s' = some .directory := by
  unfold locate at h
  split at h
  · cases h
  · rename_i hshort
    rw [← List.take_append_drop k p.names, List.foldlM_append] at h
    cases hway : (p.names.take k).foldlM (step files) (files.start p) with
    | error e => rw [hway] at h; cases h
    | ok s' =>
      refine ⟨s', ?_, ?_⟩
      · have hsize := p.utf8ByteSize_take hk hp
        unfold locate
        rw [if_neg (by omega)]
        exact hway
      · -- there is a next name, and the path went on to it
        have hrest : (p.names.drop k).foldlM (step files) s' = .ok s := by
          rw [hway] at h
          exact h
        rw [List.drop_eq_getElem_cons hp, List.foldlM_cons] at hrest
        cases hnext : step files s' p.names[k] with
        | error e => rw [hnext] at hrest; cases hrest
        | ok s'' => exact (step_eq_ok hnext).1

/-- A directory that is there is not made again. -/
theorem makeDir_of_directory (h : lookup files p = .ok .directory) (last : Bool) :
    makeDir files p last = .ok files := by
  obtain ⟨s, hs, hn⟩ := lookup_eq_ok_iff.mp h
  unfold makeDir
  rw [hs]
  simp only [hn]

/-- Directories that are all there are not made again. -/
theorem makeDirs_of_directories
    (h : ∀ i < p.names.length, lookup files (p.upTo (i + 1)) = .ok .directory) :
    makeDirs files p = .ok files := by
  -- none of the steps changes the files
  have hall : ∀ is : List Nat, (∀ i ∈ is, i < p.names.length) →
      is.foldlM (fun files i => makeDir files (p.upTo (i + 1)) (i + 1 == p.names.length)) files
        = .ok files := by
    intro is
    induction is with
    | nil => exact fun _ => rfl
    | cons i rest ih =>
      intro his
      rw [List.foldlM_cons, makeDir_of_directory (h i (his i List.mem_cons_self))]
      exact ih fun j hj => his j (List.mem_cons_of_mem _ hj)
  exact hall _ fun i hi => List.mem_range.mp hi

/-- Where there is a file, the directories above it are there already. -/
theorem makeDirs_parent (h : locate files p = .ok s) : makeDirs files p.parent = .ok files := by
  refine makeDirs_of_directories fun i hi => ?_
  have hlength : p.parent.names.length = p.names.length - 1 := List.length_dropLast
  have hnames : p.parent.upTo (i + 1) = p.upTo (i + 1) := by
    rw [Path.parent, Path.upTo, Path.upTo, List.dropLast_eq_take, List.take_take,
      Nat.min_eq_left (by omega)]
  obtain ⟨s', hway, hnode⟩ := locate_take h (Nat.succ_pos i) (by omega)
  rw [hnames]
  exact lookup_eq_ok_iff.mpr ⟨s', hway, hnode⟩

/-! ### Putting and taking away -/

/-- Taking away leaves the entries of other spots. -/
theorem lookup_entries_remove (files : Files) (s t : Spot) :
    (files.remove s).entries.lookup t = if t = s then none else files.entries.lookup t := by
  unfold remove
  dsimp only
  induction files.entries with
  | nil => rw [List.filter_nil, List.lookup_nil, ite_self]
  | cons f rest ih =>
    by_cases hf : f.1 = s
    · rw [List.filter_cons_of_neg (by simp [hf]), ih]
      by_cases hts : t = s
      · rw [if_pos hts, if_pos hts]
      · have htf : (t == f.1) = false := beq_eq_false_iff_ne.mpr (hf ▸ hts)
        rw [if_neg hts, if_neg hts, List.lookup_cons, htf]
    · rw [List.filter_cons_of_pos (by simp [hf]), List.lookup_cons, List.lookup_cons, ih]
      by_cases hts : t = s
      · have htf : (t == f.1) = false := beq_eq_false_iff_ne.mpr fun e => hf (e ▸ hts)
        simp only [htf, if_pos hts]
      · rw [if_neg hts, if_neg hts]

/-- Where no directory is, there is only what has an entry. -/
theorem isTop_of_not_directory (h : node? files s ≠ some .directory) : files.isTop s = false := by
  cases htop : files.isTop s with
  | false => rfl
  | true =>
    unfold node? at h
    rw [if_pos htop] at h
    exact absurd rfl h

/-- Where something else lies, there is no directory. -/
theorem not_directory_of_node? {n : Node} (h : node? files s = some n) (hn : n ≠ .directory) :
    node? files s ≠ some .directory := by
  rw [h]
  exact fun e => hn (Option.some.inj e)

/-- A database is no directory. -/
theorem database_ne_directory (d : Database) : Node.database d ≠ .directory := nofun

/-- Where a database lies, there is no directory. -/
theorem not_directory_of_database {d : Database} (h : node? files s = some (.database d)) :
    node? files s ≠ some .directory :=
  not_directory_of_node? h (database_ne_directory d)

/-- Where something is taken away, nothing lies. -/
theorem node?_remove_self (h : node? files s ≠ some .directory) :
    node? (remove files s) s = none := by
  have htop : (remove files s).isTop s = false :=
    show files.isTop s = false from isTop_of_not_directory h
  rw [node?, htop, lookup_entries_remove, if_pos rfl]
  rfl

/-- What is taken away is nothing to other spots. -/
theorem node?_remove_of_ne (files : Files) {s t : Spot} (hts : t ≠ s) :
    node? (remove files s) t = node? files t := by
  unfold node?
  rw [lookup_entries_remove, if_neg hts]
  rfl

/-- What is put in the place of a file, or where nothing is, lies there. -/
theorem node?_put_self (h : node? files s ≠ some .directory) (n : Node) :
    node? (put files s n) s = some n := by
  have htop : (put files s n).isTop s = false :=
    show files.isTop s = false from isTop_of_not_directory h
  rw [node?, htop, put, List.lookup_cons, beq_self_eq_true]
  rfl

/-- What is put is nothing to other spots. -/
theorem node?_put_of_ne (files : Files) (n : Node) {s t : Spot} (hts : t ≠ s) :
    node? (put files s n) t = node? files t := by
  rw [← node?_remove_of_ne files hts]
  unfold node? put
  rw [List.lookup_cons, beq_eq_false_iff_ne.mpr hts]
  rfl

/-! ### Changes that leave the ways as they are -/

/-- The working directory is the same, and the directories of the first files are still there in the
second. -/
structure Keep (files files' : Files) : Prop where
  directory : files'.directory = files.directory
  directories : ∀ s, node? files s = some .directory → node? files' s = some .directory

/-- The second files differ from the first at these spots only, and keep their directories. -/
structure Changed (on : Spot → Prop) (files files' : Files) : Prop extends Keep files files' where
  elsewhere : ∀ s, ¬ on s → node? files' s = node? files s

variable {files' files'' : Files} {on : Spot → Prop}

theorem Keep.trans (h : Keep files files') (h' : Keep files' files'') : Keep files files'' where
  directory := h'.directory.trans h.directory
  directories s hs := h'.directories s (h.directories s hs)

/-- Paths start where they started. -/
theorem Keep.start (h : Keep files files') (p : Path) : files'.start p = files.start p := by
  unfold Files.start
  rw [h.directory]

/-- The places of paths stay. -/
theorem Keep.place (h : Keep files files') (p : Path) : files'.place p = files.place p := by
  rw [Files.place, h.start, Files.place]

/-- A step that leads on leads there still. -/
theorem Keep.step (h : Keep files files') {name : String} {t : Spot}
    (ht : Files.step files s name = .ok t) : Files.step files' s name = .ok t := by
  have hdirectory := (step_eq_ok ht).1
  unfold Files.step at ht ⊢
  rw [h.directories s hdirectory]
  rw [hdirectory] at ht
  exact ht

/-- So do all steps of a path, one after the other. -/
theorem Keep.steps (h : Keep files files') {names : List String} {t : Spot}
    (ht : names.foldlM (Files.step files) s = .ok t) :
    names.foldlM (Files.step files') s = .ok t := by
  induction names generalizing s with
  | nil => exact ht
  | cons name rest ih =>
    rw [List.foldlM_cons] at ht ⊢
    cases hnext : Files.step files s name with
    | error e => rw [hnext] at ht; cases ht
    | ok u =>
      rw [hnext] at ht
      rw [h.step hnext]
      exact ih ht

theorem Changed.refl (on : Spot → Prop) (files : Files) : Changed on files files where
  directory := rfl
  directories _ h := h
  elsewhere _ _ := rfl

theorem Changed.trans (h : Changed on files files') (h' : Changed on files' files'') :
    Changed on files files'' where
  toKeep := h.toKeep.trans h'.toKeep
  elsewhere s hs := (h'.elsewhere s hs).trans (h.elsewhere s hs)

/-- Putting something in the place of a file, or where nothing is. -/
theorem changed_put (h : node? files s ≠ some .directory) (n : Node) (hs : on s) :
    Changed on files (put files s n) where
  directory := rfl
  directories t ht := by
    have hts : t ≠ s := fun hts => h (hts ▸ ht)
    rw [node?_put_of_ne files n hts, ht]
  elsewhere t ht := node?_put_of_ne files n fun hts => ht (hts ▸ hs)

/-- Taking a file away. -/
theorem changed_remove (h : node? files s ≠ some .directory) (hs : on s) :
    Changed on files (remove files s) where
  directory := rfl
  directories t ht := by
    have hts : t ≠ s := fun hts => h (hts ▸ ht)
    rw [node?_remove_of_ne files hts, ht]
  elsewhere t ht := node?_remove_of_ne files fun hts => ht (hts ▸ hs)

/-- Where the directories stay, a path goes on leading where it led. -/
theorem locate_of_keep (hkeep : Keep files files') (h : locate files p = .ok s) :
    locate files' p = .ok s := by
  unfold locate at h ⊢
  split at h
  · cases h
  · rename_i hshort
    rw [if_neg hshort, hkeep.start]
    exact hkeep.steps h

/-! ### Changes off the way -/

/-- A path leads where it led if each step on the way is what it was. -/
theorem locate_congr {q : Path} (hdirectory : files'.directory = files.directory)
    (h : ∀ t, files.Crosses q t → step files' t = step files t) :
    locate files' q = locate files q := by
  -- from any spot on, provided that the steps from there are what they were
  have hway : ∀ (names : List String) (t : Spot),
      (∀ k ≤ names.length, step files' ((names.take k).foldl onward t)
        = step files ((names.take k).foldl onward t)) →
      names.foldlM (step files') t = names.foldlM (step files) t := by
    intro names
    induction names with
    | nil => exact fun _ _ => rfl
    | cons name rest ih =>
      intro t ht
      have hstep : step files' t = step files t := ht 0 (Nat.zero_le _)
      rw [List.foldlM_cons, List.foldlM_cons, hstep]
      cases hnext : step files t name with
      | error e => rfl
      | ok u =>
        refine ih u fun k hk => ?_
        rw [(step_eq_ok hnext).2]
        exact ht (k + 1) (Nat.succ_le_succ hk)
  have hstart : files'.start q = files.start q := by
    unfold start
    rw [hdirectory]
  unfold locate
  rw [hstart]
  split
  · rfl
  · exact hway q.names _ fun k hk => h _ ⟨k, hk, rfl⟩

/-- A path leads to what it led to if that is where it was, and so is all on the way. What is no
directory on the way may become something else that is none. -/
theorem lookup_congr {q : Path} (hdirectory : files'.directory = files.directory)
    (hway : ∀ t, files.Crosses q t → node? files' t = node? files t ∨
      (∃ m, node? files t = some m ∧ m ≠ .directory) ∧
        ∃ n, node? files' t = some n ∧ n ≠ .directory)
    (hend : ∀ t, locate files q = .ok t → node? files' t = node? files t) :
    lookup files' q = lookup files q := by
  have hlocate : locate files' q = locate files q := by
    refine locate_congr hdirectory fun t ht => ?_
    funext name
    unfold step
    rcases hway t ht with hsame | ⟨⟨m, hm, hfile⟩, n, hn, hfile'⟩
    · rw [hsame]
    · -- from a file no path goes on
      rw [hm, hn]
      cases m <;> cases n <;> first | rfl | contradiction
  unfold lookup
  rw [hlocate]
  cases ht : locate files q with
  | error e => rfl
  | ok t => simp only [hend t ht]

/-! ### Making directories -/

/-- The second files differ from the first ones in directories where nothing was, at some of these
spots. -/
structure Raised (on : Spot → Prop) (files files' : Files) : Prop where
  directory : files'.directory = files.directory
  nodes : ∀ s, node? files' s = node? files s ∨
    on s ∧ node? files s = none ∧ node? files' s = some .directory

theorem Raised.refl (on : Spot → Prop) (files : Files) : Raised on files files :=
  ⟨rfl, fun _ => .inl rfl⟩

theorem Raised.trans (h : Raised on files files') (h' : Raised on files' files'') :
    Raised on files files'' where
  directory := h'.directory.trans h.directory
  nodes s := by
    rcases h'.nodes s with hs' | ⟨hon, hnone, hs'⟩
    · rw [hs']
      exact h.nodes s
    · rcases h.nodes s with hs | ⟨-, -, hs⟩
      · exact .inr ⟨hon, hs ▸ hnone, hs'⟩
      · rw [hs] at hnone
        cases hnone

/-- What is there stays. -/
theorem Raised.node? (h : Raised on files files') {n : Node}
    (hn : Files.node? files s = some n) : Files.node? files' s = some n := by
  rcases h.nodes s with hs | ⟨-, hnone, -⟩
  · rw [hs, hn]
  · rw [hn] at hnone
    cases hnone

theorem Raised.changed (h : Raised on files files') : Changed on files files' where
  directory := h.directory
  directories _ hs := h.node? hs
  elsewhere s hs := (h.nodes s).resolve_right fun hnew => hs hnew.1

/-- Making a directory changes nothing else. -/
theorem raised_makeDir {last : Bool} (h : makeDir files p last = .ok files') :
    Raised (· = files.place p) files files' := by
  unfold makeDir at h
  cases hs : locate files p with
  | error e => rw [hs] at h; cases h
  | ok s =>
    rw [hs] at h
    cases hn : Files.node? files s with
    | none =>
      simp only [hn, Except.ok.injEq] at h
      subst h
      have hfree : Files.node? files s ≠ some .directory := by
        rw [hn]
        exact nofun
      refine ⟨rfl, fun t => ?_⟩
      by_cases hts : t = s
      · subst hts
        exact .inr ⟨(place_of_locate hs).symm, hn, node?_put_self hfree .directory⟩
      · exact .inl (node?_put_of_ne files .directory hts)
    | some n =>
      cases n with
      | directory =>
        simp only [hn, Except.ok.injEq] at h
        subst h
        exact Raised.refl _ files
      | file bytes => simp only [hn] at h; cases h
      | database d => simp only [hn] at h; cases h

/-- Making directories changes nothing but spots on the path. -/
theorem raised_makeDirs (h : makeDirs files p = .ok files') :
    Raised (files.Crosses p) files files' := by
  -- any of the directories, from any files with this working directory: each of them is the place
  -- of a beginning of the path
  have hall : ∀ (is : List Nat) (first : Files), (∀ i ∈ is, i < p.names.length) →
      first.directory = files.directory →
      is.foldlM (fun files i => makeDir files (p.upTo (i + 1)) (i + 1 == p.names.length)) first
        = .ok files' →
      Raised (files.Crosses p) first files' := by
    intro is
    induction is with
    | nil =>
      intro first _ _ h
      cases h
      exact Raised.refl _ _
    | cons i rest ih =>
      intro first his hdirectory h
      obtain ⟨hi, hrest⟩ := List.forall_mem_cons.mp his
      rw [List.foldlM_cons] at h
      cases hone : makeDir first (p.upTo (i + 1)) (i + 1 == p.names.length) with
      | error f => rw [hone] at h; cases h
      | ok next =>
        rw [hone] at h
        have hraised := raised_makeDir hone
        have hplace : first.place (p.upTo (i + 1)) = files.place (p.upTo (i + 1)) := by
          unfold place start
          rw [hdirectory]
        have hon : Raised (files.Crosses p) first next := by
          refine ⟨hraised.directory, fun s => (hraised.nodes s).imp_right fun hnew => ?_⟩
          exact ⟨⟨i + 1, hi, hnew.1.symm ▸ hplace.symm⟩, hnew.2⟩
        exact hon.trans (ih next hrest (hraised.directory.trans hdirectory) h)
  exact hall _ files (fun i hi => List.mem_range.mp hi) rfl h

end Files

end Tutor
