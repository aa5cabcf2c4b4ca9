import Tutor.Proofs.Console.Choices
import Tutor.Proofs.Console.Display
import Tutor.Proofs.Console.Reports
import Tutor.Proofs.Service.Listings

namespace Tutor.Console

/-!
# Lessons on the menu

The menu lists lessons that are there, and between the menu and the choice nothing can take them
away: the lessons are read again at the prompt of a task only.

* `Stage.Found` — the lessons that can be chosen are there, and the player may see them;
* `found_carryOut`, `found_foldlM` — so it is whenever a move leads to the menu, and therefore
  throughout a game;
* `lessonHeader`, `perform_startLesson_found` — how a lesson starts that is there;
* `lessons_listed` — what is listed for whom, and that no lesson on the menu is ever unknown.
-/

open Act (Keeps)
open Service (Lists Operation Run Success unlockedLessons knownLessons)
open Settings (Holds unlockedKey)

/-! ### Lessons that can be chosen -/

/-- Each lesson that can be chosen is there, and the player may see it. -/
def Stage.Found (stage : Stage) (w : World) : Prop :=
  match stage with
  | .choosing names =>
    ∀ name ∈ names, ∃ l, w.catalog.lesson? name = some l ∧ client ∈ l.availableTo
  | _ => True

variable {m : Move} {names : List String} {stage stage' : Stage} {w w' : World}

/-- Lessons that can be chosen are found as long as the lessons stay. -/
theorem Stage.Found.of_catalog (h : stage.Found w) (hcatalog : w'.catalog = w.catalog) :
    stage.Found w' := by
  cases stage with
  | choosing names =>
    intro name hname
    rw [hcatalog]
    exact h name hname
  | attempting _ | finished => trivial

/-- What the menu lists is there. -/
theorem found_showMenu (h : showMenu.perform w = (.ok stage, w')) : stage.Found w' := by
  obtain ⟨lessons, v, hlessons, rfl⟩ := choosing_of_showMenu h
  have hcatalog : w'.catalog = w.catalog := keeps_showMenu.of_perform h
  obtain ⟨j, hlisted⟩ := Service.perform_unlockedLessons client w
  rw [hlessons] at hlisted
  intro name hname
  -- the names that are listed are those of rows
  cases hstored : (Service.lists w).1 with
  | error e => rw [hstored] at hlisted; cases hlisted
  | ok stored =>
    rw [hstored] at hlisted
    have hlists : Lists w.catalog client (stored ++ Service.alwaysUnlocked) lessons := by
      rw [Except.ok.inj (congrArg Prod.fst hlisted)]
      exact Service.lists_filterMap _ _ _
    obtain ⟨-, l, hl, hsees⟩ := (hlists.mem_iff name).mp hname
    rw [hcatalog]
    exact ⟨l, Catalog.lesson?_eq_some_iff.mpr hl, hsees⟩

/-- A move that leads to a choice leads to the menu. -/
theorem showMenu_of_carryOut (h : m.carryOut.perform w = (.ok (.choosing names), w')) :
    ∃ v, showMenu.perform v = (.ok (.choosing names), w') := by
  cases m with
  | menu => exact ⟨w, h⟩
  | again key => cases h
  | stop => cases h
  | visit key =>
    have hvisit : (visit key).perform w = (.ok (.choosing names), w') := h
    unfold visit at hvisit
    by_cases hempty : key.2.isEmpty = true
    · rw [if_pos hempty] at hvisit
      obtain ⟨_, v, -, hmenu⟩ := Act.of_perform_bind_ok hvisit
      exact ⟨v, hmenu⟩
    · rw [if_neg hempty] at hvisit
      obtain ⟨found, v, -, hrest⟩ := Act.of_perform_bind_ok hvisit
      cases found with
      | none => exact ⟨v, hrest⟩
      | some answer => cases hrest

/-- Wherever a move leads to, the lessons that can be chosen there are found. -/
theorem found_carryOut (h : m.carryOut.perform w = (.ok stage, w')) : stage.Found w' := by
  cases stage with
  | choosing names =>
    obtain ⟨v, hmenu⟩ := showMenu_of_carryOut h
    exact found_showMenu hmenu
  | attempting _ | finished => trivial

/-- Whatever comes in, the lessons that can be chosen after it are found. -/
theorem found_proceed {first : Incoming}
    (hmeanwhile : ∀ what, first = .meanwhile what → Keeps World.catalog what)
    (hfound : stage.Found w) (h : (proceed stage first).perform w = (.ok stage', w')) :
    stage'.Found w' := by
  cases first with
  | line text =>
    rw [proceed_line, answer_eq] at h
    obtain ⟨m, v, -, hcarry⟩ := Act.of_perform_bind_ok h
    exact found_carryOut hcarry
  | meanwhile what =>
    cases stage with
    | finished => cases h; trivial
    | choosing _ | attempting _ =>
      obtain ⟨_, v, hwhat, hrest⟩ := Act.of_perform_bind_ok h
      cases hrest
      exact hfound.of_catalog ((hmeanwhile what rfl).of_perform hwhat)

/-- The lessons that can be chosen are found throughout a game. -/
theorem found_foldlM {input : List Incoming}
    (hmeanwhile : ∀ what, .meanwhile what ∈ input → Keeps World.catalog what)
    (hfound : stage.Found w) (h : (input.foldlM proceed stage).perform w = (.ok stage', w')) :
    stage'.Found w' := by
  induction input generalizing stage w with
  | nil => cases h; exact hfound
  | cons first rest ih =>
    rw [List.foldlM_cons] at h
    obtain ⟨next, v, hfirst, hrest⟩ := Act.of_perform_bind_ok h
    have hnext : next.Found v :=
      found_proceed (fun what hwhat => hmeanwhile what (hwhat ▸ List.mem_cons_self)) hfound hfirst
    exact ih (fun what hwhat => hmeanwhile what (List.mem_cons_of_mem _ hwhat)) hnext hrest

/-! ### Lessons that start -/

/-- The lines that a lesson starts with. -/
def lessonHeader (name : String) : List String :=
  ["", s!"=== {name} ===", "Type :b to go back, :q to quit, ':event NAME' to fire an event."]

/-- A lesson that is there starts with its lines and with its first task. -/
theorem perform_startLesson_found {name : String} {l : Lesson}
    (h : w.catalog.lesson? name = some l) :
    (startLesson name).perform w
      = (visit (name, l.entry)).perform (w.printed (lessonHeader name)) := by
  unfold startLesson lessonHeader
  rw [Act.perform_bind_ok (Catalog.perform_lookup_found h), ← (Catalog.of_lesson?_eq_some h).2]
  rfl

/-- A line that chooses a lesson starts the lesson. -/
theorem perform_answer_lesson {line name : String} {l : Lesson}
    (hchoice : Choice.read names line = .ok (.lesson name))
    (hl : w.catalog.lesson? name = some l) :
    (answer (.choosing names) line).perform w
      = (visit (name, l.entry)).perform (w.printed (lessonHeader name)) :=
  (perform_answerChoice hchoice w).trans (perform_startLesson_found hl)

/-- A line chooses one of the lessons of the menu. -/
theorem mem_of_read {line name : String} (h : Choice.read names line = .ok (.lesson name)) :
    name ∈ names := by
  unfold Choice.read at h
  dsimp only at h
  split at h
  · cases h
  · split at h
    · split at h
      · cases h
      · split at h
        · split at h
          · rename_i found hfound
            cases h
            exact List.mem_of_getElem? hfound
          · cases h
        · cases h
    · cases h

/-! ### The main result -/

/-- **What a player may see.** The unlocked lessons of a client are listed from the names that are
stored and the two that are always there: in order, none twice, and exactly those that one lesson
only has, which the client may see. After any run from empty settings, the completed lessons are
listed likewise. And in a game during which nobody else reads the lessons again, wherever it has
come to a menu, a line that chooses a lesson starts the one that is found under this name: it is
never unknown. -/
theorem lessons_listed :
    (∀ (w : World) (client : String) (stored : List String),
      ((Settings.getStrings unlockedKey).perform w).1 = .ok stored →
        ∃ rows j, (unlockedLessons client).perform w = (.ok rows, { w with journal := j }) ∧
          Lists w.catalog client (stored ++ ["showmehow", "intro"]) rows) ∧
      (∀ (w₀ w : World) (successes : List Success), Run w₀ successes w → Holds [] w₀ →
        ∀ client, ∃ rows j,
          (knownLessons client).perform w = (.ok rows, { w with journal := j }) ∧
          Lists w.catalog client (successes.flatMap Success.completes) rows) ∧
      ∀ (lesson : Option String) (input : List Incoming) (w u : World) (names : List String),
        (∀ what, .meanwhile what ∈ input → Keeps World.catalog what) →
        (start lesson >>= input.foldlM proceed).perform w = (.ok (.choosing names), u) →
        ∀ line name, Choice.read names line = .ok (.lesson name) →
          ∃ l, u.catalog.lesson? name = some l ∧ client ∈ l.availableTo ∧
            ∀ more, (start lesson >>= playOn (input ++ .line line :: more)).perform w
              = (visit (name, l.entry) >>= playOn more).perform
                (u.printed (lessonHeader name)) := by
  refine ⟨fun w client stored hstored => Service.lists_unlockedLessons hstored client,
    fun w₀ w successes hrun hw₀ => Service.lists_knownLessons hrun hw₀, ?_⟩
  intro lesson input w u names hmeanwhile hcomes line name hchoice
  -- the game has come to its first stage by a move, as it does to all others
  have hfound : (Stage.choosing names).Found u := by
    obtain ⟨stage, v, hstart, hrest⟩ := Act.of_perform_bind_ok hcomes
    rw [start_eq] at hstart
    obtain ⟨m, v', -, hcarry⟩ := Act.of_perform_bind_ok hstart
    exact found_foldlM hmeanwhile (found_carryOut hcarry) hrest
  obtain ⟨l, hl, hsees⟩ := hfound name (mem_of_read hchoice)
  refine ⟨l, hl, hsees, fun more => ?_⟩
  -- the game is cut where the line comes in
  have hplay : start lesson >>= playOn (input ++ .line line :: more)
      = (start lesson >>= input.foldlM proceed) >>= playOn (.line line :: more) := by
    rw [bind_assoc]
    exact congrArg _ (funext (playOn_append input _))
  have hanswer : playOn (.line line :: more) (.choosing names)
      = answer (.choosing names) line >>= playOn more := rfl
  rw [hplay, Act.perform_bind_ok hcomes, hanswer, Act.perform_bind, Act.perform_bind,
    perform_answer_lesson hchoice hl]

/-- Two lessons have one name, which is stored and stands for neither; the first number on the menu
is that of the lesson after it. A lesson that is completed twice is listed once. -/
theorem lessons_listed_duplicates :
    let lesson (name : String) : Lesson := ⟨name, "A lesson", "", ["console"], []⟩
    let w : World := { World.fresh Host.bare
        ⟨[lesson "twice", lesson "twice", lesson "b", lesson "intro"], [], none⟩ with
      connection := .memory ⟨1, some [("unlocked-lessons", "[\"twice\", \"b\", \"b\"]")]⟩ }
    let say : Task :=
      { id := "say", prompt := "Say", input := ⟨"text", []⟩, mapper := [.str "input"]
        effects := [("go", ⟨.null, [], true, none⟩)] }
    let short : Lesson := ⟨"short", "A lesson", "say", ["console"], [("say", say)]⟩
    let w₀ := { World.fresh Host.bare ⟨[short], [], none⟩ with connection := .memory ⟨1, some []⟩ }
    ((Settings.getStrings unlockedKey).perform w).1 = .ok ["twice", "b", "b"] ∧
      (∃ rows j, (unlockedLessons client).perform w = (.ok rows, { w with journal := j }) ∧
        (rows.map (·.name)).Nodup ∧ "b" ∈ rows.map (·.name) ∧ "twice" ∉ rows.map (·.name)) ∧
      (∃ successes v, Run w₀ successes v ∧
        successes.flatMap Success.completes = ["short", "short"] ∧
        ∃ rows j, (knownLessons client).perform v = (.ok rows, { v with journal := j }) ∧
          (rows.map (·.name)).Nodup ∧ "short" ∈ rows.map (·.name)) ∧
      ∃ u, (start none).perform w = (.ok (.choosing ["b", "intro"]), u) ∧
        (start none >>= playOn [.line " 1 "]).perform w
          = (visit ("b", "") >>= playOn []).perform (u.printed (lessonHeader "b")) := by
  intro lesson w say short w₀
  have hstored : ((Settings.getStrings unlockedKey).perform w).1 = .ok ["twice", "b", "b"] :=
    Act.eq_ok_of_toOption (by decide +kernel)
  have hb : w.catalog.named "b" = [lesson "b"] := rfl
  have htwo : w.catalog.named "twice" = [lesson "twice", lesson "twice"] := rfl
  obtain ⟨rows, j, hrows, hlists⟩ := lessons_listed.1 w client _ hstored
  refine ⟨hstored, ⟨rows, j, hrows, hlists.nodup, ?_, fun htwice => ?_⟩, ?_, ?_⟩
  · exact (hlists.mem_iff "b").mpr ⟨by decide, lesson "b", hb, by decide⟩
  · obtain ⟨-, l, hl, -⟩ := (hlists.mem_iff "twice").mp htwice
    rw [htwo] at hl
    cases hl
  · -- the lesson is completed by the first attempt, and by the second one again
    have hkeeps : ∀ key input v,
        ((Operation.attempt key input).after .logging v).catalog = v.catalog :=
      Service.keeps_attempt
    let w₁ := (Operation.attempt ("short", "say") "go").after .logging w₀
    have hrun := Run.request .logging (.attempt ("short", "say") "go") trivial (fun _ => [])
      (fun c hc => nomatch hc) (Run.attempt .logging ("short", "say") "go" w₁)
    have hholds : Holds [] w₀ := rfl
    obtain ⟨rows, j, hrows, hlists⟩ := lessons_listed.2.1 w₀ _ _ hrun hholds client
    have hshort : w₀.catalog.named "short" = [short] := rfl
    rw [hkeeps, hkeeps] at hlists
    refine ⟨_, _, hrun, by decide +kernel, rows, j, hrows, hlists.nodup, ?_⟩
    exact (hlists.mem_iff "short").mpr ⟨by decide +kernel, short, hshort, by decide⟩
  · -- at the menu nothing has come in yet
    have hmenu : ((start none).perform w).1 = .ok (.choosing ["b", "intro"]) :=
      Act.eq_ok_of_toOption (by decide +kernel)
    obtain ⟨u, hu⟩ : ∃ u, ((start none).perform w).2 = u := ⟨_, rfl⟩
    have hstart : (start none).perform w = (.ok (.choosing ["b", "intro"]), u) := Prod.ext hmenu hu
    have hcomes : (start none >>= ([] : List Incoming).foldlM proceed).perform w
        = (.ok (.choosing ["b", "intro"]), u) := Act.perform_bind_ok hstart
    have hchoice : Choice.read ["b", "intro"] " 1 " = .ok (.lesson "b") :=
      Act.eq_ok_of_toOption (by decide +kernel)
    obtain ⟨l, hl, -, hplay⟩ := lessons_listed.2.2 none [] w u _ nofun hcomes " 1 " "b" hchoice
    have hcatalog : u.catalog = w.catalog := keeps_showMenu.of_perform hstart
    rw [hcatalog, Catalog.lesson?_eq_some_iff, hb] at hl
    obtain rfl : lesson "b" = l := List.head_eq_of_cons_eq hl
    exact ⟨u, hstart, hplay []⟩

end Tutor.Console
