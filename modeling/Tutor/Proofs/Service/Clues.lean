import Tutor.Proofs.Service.Listings
import Tutor.Proofs.Settings.Stores

namespace Tutor.Service

/-!
# Clues

Clues are registered one after the other, some of them repeatedly, and some of a kind that is not
known.

* `Registration` — what is registered; `Registration.clue` is what is remembered of it;
* `perform_registerClue_known`, `perform_registerClue_unknown` — one registration;
* `clues_after` — the clues after several registrations, by induction on them;
* `clues_registered` — which clues there are then, and what becomes of everything else.
-/

open Settings (getClues cluesIn cluesKey Written)

/-- A clue, by its kind and its content. -/
structure Registration where
  kind : String
  content : String
  deriving DecidableEq, Repr

namespace Registration

/-- The operation that registers it. -/
def operation (r : Registration) : Operation :=
  .registerClue r.kind r.content

/-- What is remembered of it. -/
def clue (r : Registration) : String × String :=
  (r.content, r.kind)

/-- Its kind is known. -/
def known (r : Registration) : Bool :=
  clueKinds.contains r.kind

end Registration

/-- The clues of the registrations of a known kind, in order. -/
def registered (rs : List Registration) : List (String × String) :=
  (rs.filter Registration.known).map Registration.clue

variable {w : World} {cs : List (String × String)} {r : Registration}

/-- A clue is among those that are registered under its kind, if that is known. -/
theorem mem_registered {rs : List Registration} {content kind : String} :
    (content, kind) ∈ registered rs ↔ ⟨kind, content⟩ ∈ rs ∧ kind ∈ clueKinds := by
  unfold registered
  rw [List.mem_map]
  constructor
  · rintro ⟨r, hr, hclue⟩
    obtain ⟨hmem, hknown⟩ := List.mem_filter.mp hr
    cases hclue
    exact ⟨hmem, List.contains_iff_mem.mp hknown⟩
  · rintro ⟨hmem, hkind⟩
    exact ⟨⟨kind, content⟩, List.mem_filter.mpr ⟨hmem, List.contains_iff_mem.mpr hkind⟩, rfl⟩

/-! ### One registration -/

/-- What is not known yet is not among what is. -/
theorem not_contains_iff {c : String × String} : (!cs.contains c) = true ↔ c ∉ cs := by
  rw [Bool.not_eq_true', Bool.eq_false_iff, ne_eq, List.contains_iff_mem]

/-- A clue of a kind that is not known is refused, and nothing is changed. -/
theorem perform_registerClue_unknown (hr : r.known = false) (w : World) :
    (registerClue r.kind r.content).perform w = (.error (.fault (.unknownClue r.kind)), w) := by
  have hkind : (!clueKinds.contains r.kind) = true := congrArg not hr
  unfold registerClue
  rw [if_pos hkind]
  rfl

/-- Clues that are stored are read back. -/
theorem perform_setClues (hw : getClues.perform w = (.ok cs, w)) (l : List (String × String)) :
    ∃ w', (Settings.setClues l).perform w = (.ok (), w') ∧ getClues.perform w' = (.ok l, w') := by
  -- where clues can be read, texts are stored
  obtain ⟨t, ht⟩ : ∃ t, w.stored = .ok t := by
    rw [Settings.perform_getClues] at hw
    cases hstored : w.stored with
    | error e => rw [hstored] at hw; cases hw
    | ok t => exact ⟨t, rfl⟩
  obtain ⟨w', hset, hstored'⟩ :=
    Settings.perform_setText ht cluesKey (Written.clues l).value.write
  have hstored' : w'.stored = .ok (t.put cluesKey (Written.clues l).value.write) := hstored'
  refine ⟨w', hset, ?_⟩
  rw [Settings.perform_getClues, hstored']
  simp only [Except.bind, cluesIn, Settings.valueIn, Table.get?_put, if_true,
    Written.readJson_value, Except.map, Settings.cluesOf_value]

/-- A clue of a known kind is remembered unless it is there already. -/
theorem perform_registerClue_known (hr : r.known = true) (hw : getClues.perform w = (.ok cs, w)) :
    ∃ w', (registerClue r.kind r.content).perform w = (.ok (), w') ∧
      getClues.perform w' = (.ok (addOne cs r.clue), w') := by
  have hkind : ¬ (!clueKinds.contains r.kind) = true := by
    have hkind : clueKinds.contains r.kind = true := hr
    rw [hkind]
    exact Bool.false_ne_true
  unfold registerClue
  rw [if_neg hkind, Act.perform_bind_ok hw, addOne]
  cases hthere : cs.contains r.clue with
  | true =>
    have hold : ¬ (!cs.contains (r.content, r.kind)) = true := by
      rw [← Registration.clue, hthere]
      exact Bool.false_ne_true
    rw [if_neg hold, if_pos rfl]
    exact ⟨w, rfl, hw⟩
  | false =>
    have hnew : (!cs.contains (r.content, r.kind)) = true := congrArg not hthere
    rw [if_pos hnew, if_neg Bool.false_ne_true]
    exact perform_setClues hw _

/-! ### Several registrations -/

/-- Each registration of a known kind adds its clue unless it is there already. -/
theorem clues_after (b : Boundary) (hw : getClues.perform w = (.ok cs, w))
    (rs : List Registration) :
    getClues.perform (finish b (rs.map Registration.operation) w)
      = (.ok ((registered rs).foldl addOne cs),
        finish b (rs.map Registration.operation) w) := by
  -- by induction on the registrations, of which the first one is made in any world
  induction rs generalizing w cs with
  | nil => exact hw
  | cons r rest ih =>
    have hfinish : finish b ((r :: rest).map Registration.operation) w
        = finish b (rest.map Registration.operation)
          ((registerClue r.kind r.content).perform w).2 := rfl
    rw [hfinish]
    cases hr : r.known with
    | false =>
      have hsame : registered (r :: rest) = registered rest := by
        rw [registered, List.filter_cons_of_neg (by rw [hr]; exact Bool.false_ne_true)]
        rfl
      rw [perform_registerClue_unknown hr, hsame]
      exact ih hw
    | true =>
      obtain ⟨w', hregister, hw'⟩ := perform_registerClue_known hr hw
      have hmore : registered (r :: rest) = r.clue :: registered rest := by
        rw [registered, List.filter_cons_of_pos hr]
        rfl
      rw [hregister, hmore]
      exact ih hw'

/-- Registrations leave the lessons and the lists of lessons alone. -/
theorem lists_after (b : Boundary) (rs : List Registration) (w : World) :
    lists (finish b (rs.map Registration.operation) w) = lists w ∧
      (finish b (rs.map Registration.operation) w).catalog = w.catalog := by
  induction rs generalizing w with
  | nil => exact ⟨rfl, rfl⟩
  | cons r rest ih =>
    obtain ⟨hlists, hcatalog⟩ := ih (r.operation.after b w)
    exact ⟨hlists.trans (keeps_lists_registerClue r.kind r.content w),
      hcatalog.trans (congrArg (·.1) (keeps_registerClue r.kind r.content w))⟩

/-! ### The main result -/

/-- **Clues are remembered once.** Clues are registered on a service that has some already. Then it
has these, and after them those of a known kind that were not among them, each once, in the order of
their first registration. A clue is there if it was so at first or was registered under this very
kind, and none is there twice unless one was so at first. Registering a clue of a known kind
succeeds; any other is refused and changes nothing. The unlocked and the completed lessons are what
they were, and so is what any client gets to see of them. -/
theorem clues_registered (b : Boundary) {w : World} {cs : List (String × String)}
    (hw : getClues.perform w = (.ok cs, w)) (rs : List Registration) :
    let w' := finish b (rs.map Registration.operation) w
    let cs' := cs ++ ((registered rs).filter fun c => !cs.contains c).eraseDups
    getClues.perform w' = (.ok cs', w') ∧
      (∀ content kind, (content, kind) ∈ cs' ↔
        (content, kind) ∈ cs ∨ (⟨kind, content⟩ ∈ rs ∧ kind ∈ clueKinds)) ∧
      (cs.Nodup → cs'.Nodup) ∧
      (∀ before r later, rs = before ++ r :: later →
        let v := finish b (before.map Registration.operation) w
        (r.kind ∈ clueKinds → ((registerClue r.kind r.content).perform v).1 = .ok ()) ∧
        (r.kind ∉ clueKinds → ∃ f : Fault, f.kind = .invalidClueType ∧
          (registerClue r.kind r.content).perform v = (.error (.fault f), v))) ∧
      lists w' = lists w ∧
      ∀ client, ((unlockedLessons client).perform w').1 = ((unlockedLessons client).perform w).1 ∧
        ((knownLessons client).perform w').1 = ((knownLessons client).perform w).1 := by
  intro w' cs'
  obtain ⟨hlists, hcatalog⟩ := lists_after b rs w
  refine ⟨?clues, fun content kind => ?members, fun hnodup => ?once,
    fun before r later _ => ⟨fun hkind => ?known, fun hkind => ?unknown⟩, hlists,
    listings_congr hlists hcatalog⟩
  case clues =>
    have hclues := clues_after b hw rs
    rwa [foldl_addOne_onto] at hclues
  case members =>
    rw [List.mem_append, List.mem_eraseDups, List.mem_filter, mem_registered]
    by_cases hold : (content, kind) ∈ cs
    · exact ⟨fun _ => .inl hold, fun _ => .inl hold⟩
    · exact or_congr_right (and_iff_left (not_contains_iff.mpr hold))
  case once =>
    -- what is added was not there before
    refine List.nodup_append.mpr ⟨hnodup, nodup_eraseDups _, fun c hc d hd hcd => ?_⟩
    have hnew := (List.mem_filter.mp (List.mem_eraseDups.mp hd)).2
    exact not_contains_iff.mp hnew (hcd ▸ hc)
  case known =>
    obtain ⟨_, hregister, -⟩ :=
      perform_registerClue_known (List.contains_iff_mem.mpr hkind) (clues_after b hw before)
    rw [hregister]
  case unknown =>
    have hunknown : r.known = false := Bool.eq_false_iff.mpr (mt List.contains_iff_mem.mp hkind)
    exact ⟨.unknownClue r.kind, rfl, perform_registerClue_unknown hunknown _⟩

/-- One content under two kinds is two clues; under a third kind it is refused. -/
theorem clues_registered_kinds :
    let w := { World.fresh Host.bare .empty with connection := .memory ⟨1, some []⟩ }
    let rs : List Registration :=
      [⟨"text", "é\n"⟩, ⟨"image-path", "é\n"⟩, ⟨"sound", "é\n"⟩, ⟨"text", "é\n"⟩]
    let w' := finish .logging (rs.map Registration.operation) w
    getClues.perform w = (.ok [], w) ∧
      getClues.perform w' = (.ok [("é\n", "text"), ("é\n", "image-path")], w') := by
  intro w rs w'
  have hw : getClues.perform w = (.ok [], w) := rfl
  have hnew : ((registered rs).filter fun c => !([] : List (String × String)).contains c).eraseDups
      = [("é\n", "text"), ("é\n", "image-path")] := by decide +kernel
  have hclues := (clues_registered .logging hw rs).1
  rw [hnew] at hclues
  exact ⟨hw, hclues⟩

end Tutor.Service
