import Tutor.Proofs.Console.Requests

namespace Tutor.Console

/-!
# The pace of a game

The game goes around in three loops: the menu is shown until a lesson is chosen, tasks are come to
until the lesson is complete or left, and lines are read at a task until one is an attempt. Lessons
may lead from a task to the same task, around in a circle, or to a task that is not there, so that
none of the loops ends by itself. All of them lead through a line that is read.

* `Point` is a point of the game, and `Point.step` is what is done there: one thing, for which the
  game may read a line or make a request (`Point.deed?`);
* `Runs` — the steps from a point on until the game ends, with what it reads and requests;
* `Leads`, `leads_of_step` — where a step can lead; by `Leads.size_lt` it comes closer to the end;
* `play_eq_step`, `exists_runs`, `Runs.unique` — the steps are those of the game, they end, and
  there is one way to take them;
* `Budget`, `Runs.countP_le` — what is done up to the next line, by what each step leaves of it;
* `Paced`, `play_keeps_pace` — every game keeps its pace.
-/

/-! ### Points of a game -/

/-- What the game may do for the player: read a line, or make a request. -/
inductive Deed
  | read
  | demand (d : Demand)
  deriving DecidableEq, Repr

/-- The description of a task. -/
def Deed.isDescribe : Deed → Bool
  | .demand (.describe _) => true
  | _ => false

/-- An attempt at a task. -/
def Deed.isAttempt : Deed → Bool
  | .demand (.attempt ..) => true
  | _ => false

/-- A point of the game. -/
inductive Point
  /-- At the start, with a lesson or without one. -/
  | opening (lesson : Option String)
  /-- Before a move. -/
  | moving (m : Move)
  /-- Before a line is asked for. -/
  | asking (prompt : String) (stage : Stage)
  /-- A line was asked for. -/
  | waiting (stage : Stage)
  /-- Before an attempt. -/
  | trying (key : TaskKey) (text : String)
  | ended
  deriving DecidableEq, Repr

/-- What is read or requested at a point. -/
def Point.deed? : Point → Option Deed
  | .moving m => m.demands.head?.map .demand
  | .asking .. => some .read
  | .trying key text => some (.demand (.attempt key text))
  | .opening _ | .waiting _ | .ended => none

/-- Make a move, up to the point where a line is asked for or where another move is next. -/
def Move.step : Move → Act Point
  | .menu => do
    let lessons ← Service.unlockedLessons client
    let known := (← Service.knownLessons client).map (·.name)
    Act.print listHeader
    printChoices known 1 lessons
    Act.print "q) Quit"
    return .asking "Choose: " (.choosing (lessons.map (·.name)))
  | .visit key =>
    if key.2.isEmpty then do
      Act.print s!"Lesson '{key.1}' complete."
      return .moving .menu
    else do
      match ← tryOrPrint (Service.describe boundary key) with
      | none => return .moving .menu
      | some (prompt, _) =>
        Act.print s!"\n{prompt}"
        return .asking "$ " (.attempting key)
  | .again key => return .asking "$ " (.attempting key)
  | .stop => return .ended

/-- Take a line, up to the point where an attempt or a move is next. -/
def Stage.step (stage : Stage) (line : String) : Act Point :=
  match lineDemands stage line with
  | .attempt key text :: _ => return .trying key text
  | _ => return .moving (← answerMove stage line)

/-- Do the one thing that is done at a point. -/
def Point.step : Point → List Incoming → Act (Point × List Incoming)
  | .opening lesson, input => return (.moving (← firstMove lesson), input)
  | .moving m, input => return (← m.step, input)
  | .asking prompt stage, input => return (.waiting (← ask prompt stage), input)
  | .waiting .finished, input => return (.ended, input)
  | .waiting _, [] => throw .endOfInput
  | .waiting stage, .line text :: rest => return (← stage.step text, rest)
  | .waiting stage, .meanwhile what :: rest => do
    what
    return (.waiting stage, rest)
  | .trying key text, input => return (.moving (← attemptMove key text), input)
  | .ended, input => return (.ended, input)

/-- From a point on, the game takes these steps until it ends, by being over or by a failure. -/
inductive Runs : Point → List Incoming → World → List Deed → Except Failure Unit × World → Prop
  | ended {input w} : Runs .ended input w [] (.ok (), w)
  | fails {p input w e w'} : p ≠ .ended → (p.step input).perform w = (.error e, w') →
      Runs p input w p.deed?.toList (.error e, w')
  | steps {p input w q rest w' deeds out} : p ≠ .ended →
      (p.step input).perform w = (.ok (q, rest), w') → Runs q rest w' deeds out →
      Runs p input w (p.deed?.toList ++ deeds) out

/-! ### Steps -/

/-- Where a step can lead. -/
inductive Leads : Point → List Incoming → Point → List Incoming → Prop
  | opening {lesson m input} : Leads (.opening lesson) input (.moving m) input
  | menu {prompt stage input} : Leads (.moving .menu) input (.asking prompt stage) input
  | leave {key input} : Leads (.moving (.visit key)) input (.moving .menu) input
  | visit {key prompt stage input} :
      Leads (.moving (.visit key)) input (.asking prompt stage) input
  | again {key prompt stage input} :
      Leads (.moving (.again key)) input (.asking prompt stage) input
  | stop {input} : Leads (.moving .stop) input .ended input
  | ask {prompt stage input} : Leads (.asking prompt stage) input (.waiting stage) input
  | finish {input} : Leads (.waiting .finished) input .ended input
  | line {stage text m rest} : Leads (.waiting stage) (.line text :: rest) (.moving m) rest
  | attempt {stage text key tried rest} :
      Leads (.waiting stage) (.line text :: rest) (.trying key tried) rest
  | meanwhile {stage what rest} :
      Leads (.waiting stage) (.meanwhile what :: rest) (.waiting stage) rest
  | tried {key text m input} : Leads (.trying key text) input (.moving m) input

variable {p q : Point} {stage : Stage} {input rest : List Incoming} {w w' : World}

/-- While the game waits, it fails at the end of the input. -/
theorem step_nil (h : stage ≠ .finished) : (Point.waiting stage).step [] = throw .endOfInput := by
  cases stage with
  | finished => exact absurd rfl h
  | choosing _ | attempting _ => rfl

/-- While the game waits, it takes a line. -/
theorem step_line (h : stage ≠ .finished) (text : String) (rest : List Incoming) :
    (Point.waiting stage).step (.line text :: rest)
      = stage.step text >>= fun q => pure (q, rest) := by
  cases stage with
  | finished => exact absurd rfl h
  | choosing _ | attempting _ => rfl

/-- While the game waits, something happens elsewhere. -/
theorem step_meanwhile (h : stage ≠ .finished) (what : Act Unit) (rest : List Incoming) :
    (Point.waiting stage).step (.meanwhile what :: rest)
      = what >>= fun _ => pure (.waiting stage, rest) := by
  cases stage with
  | finished => exact absurd rfl h
  | choosing _ | attempting _ => rfl

/-- Where a move leads. -/
theorem leads_of_moveStep {m : Move} (h : m.step.perform w = (.ok q, w')) :
    Leads (.moving m) input q input := by
  -- only the way to a task depends on what the service answers
  cases m with
  | menu =>
    obtain ⟨lessons, w₁, -, h⟩ := Act.of_perform_bind_ok h
    obtain ⟨known, w₂, -, h⟩ := Act.of_perform_bind_ok h
    obtain ⟨_, w₃, -, h⟩ := Act.of_perform_bind_ok h
    obtain ⟨_, w₄, -, h⟩ := Act.of_perform_bind_ok h
    obtain ⟨_, w₅, -, h⟩ := Act.of_perform_bind_ok h
    cases h
    exact .menu
  | visit key =>
    by_cases hempty : key.2.isEmpty = true
    · rw [Move.step, if_pos hempty] at h
      cases h
      exact .leave
    · rw [Move.step, if_neg hempty] at h
      obtain ⟨found, v, -, h⟩ := Act.of_perform_bind_ok h
      cases found with
      | none =>
        cases h
        exact .leave
      | some answer =>
        cases h
        exact .visit
  | again key =>
    cases h
    exact .again
  | stop =>
    cases h
    exact .stop

/-- Where a line leads. -/
theorem leads_of_stageStep {text : String}
    (h : (stage.step text).perform w = (.ok q, w')) :
    Leads (.waiting stage) (.line text :: rest) q rest := by
  unfold Stage.step at h
  split at h
  · cases h
    exact .attempt
  · obtain ⟨m, v, -, h⟩ := Act.of_perform_bind_ok h
    cases h
    exact .line

/-- A step leads to one of the points that are listed. -/
theorem leads_of_step (hp : p ≠ .ended) (h : (p.step input).perform w = (.ok (q, rest), w')) :
    Leads p input q rest := by
  cases p with
  | opening lesson =>
    obtain ⟨m, v, -, h⟩ := Act.of_perform_bind_ok h
    cases h
    exact .opening
  | moving m =>
    obtain ⟨q', v, hm, h⟩ := Act.of_perform_bind_ok h
    cases h
    exact leads_of_moveStep hm
  | asking prompt stage =>
    cases h
    exact .ask
  | waiting stage =>
    by_cases hstage : stage = .finished
    · subst hstage
      cases h
      exact .finish
    · cases input with
      | nil =>
        -- without input there is no next step
        rw [step_nil hstage] at h
        cases h
      | cons first input =>
        cases first with
        | line text =>
          rw [step_line hstage] at h
          obtain ⟨q', v, hq, h⟩ := Act.of_perform_bind_ok h
          cases h
          exact leads_of_stageStep hq
        | meanwhile what =>
          rw [step_meanwhile hstage] at h
          obtain ⟨_, v, -, h⟩ := Act.of_perform_bind_ok h
          cases h
          exact .meanwhile
  | trying key text =>
    obtain ⟨m, v, -, h⟩ := Act.of_perform_bind_ok h
    cases h
    exact .tried
  | ended => exact absurd rfl hp

/-! ### The steps of the game -/

/-- The game from a point on. -/
def Point.play : Point → List Incoming → Act Unit
  | .opening lesson, input => start lesson >>= playOn input
  | .moving m, input => m.carryOut >>= playOn input
  | .asking prompt stage, input => ask prompt stage >>= playOn input
  | .waiting stage, input => playOn input stage
  | .trying key text, input => attemptWith key text >>= playOn input
  | .ended, _ => return

/-- A game that is finished takes nothing. -/
theorem playOn_finished (input : List Incoming) : playOn input .finished = pure () := by
  cases input <;> rfl

/-- To make a move is to step to where it leads and to go on there. -/
theorem carryOut_eq_step (m : Move) (input : List Incoming) :
    m.carryOut >>= playOn input = m.step >>= fun q => q.play input := by
  cases m with
  | menu =>
    show showMenu >>= playOn input = _
    unfold showMenu Move.step
    simp only [bind_assoc, pure_bind]
    rfl
  | visit key =>
    show visit key >>= playOn input = _
    rw [visit, Move.step]
    by_cases hempty : key.2.isEmpty = true
    · rw [if_pos hempty, if_pos hempty]
      simp only [bind_assoc, pure_bind]
      rfl
    · rw [if_neg hempty, if_neg hempty]
      simp only [bind_assoc]
      congr 1
      funext found
      cases found with
      | none => rfl
      | some answer =>
        simp only [bind_assoc, pure_bind]
        rfl
  | again key => rfl
  | stop => exact playOn_finished input

/-- To take a line is to step to where it leads and to go on there. -/
theorem answer_eq_step (stage : Stage) (text : String) (input : List Incoming) :
    answer stage text >>= playOn input = stage.step text >>= fun q => q.play input := by
  have hmove : answer stage text >>= playOn input
      = (answerMove stage text >>= fun m => pure (Point.moving m)) >>= fun q => q.play input := by
    simp only [answer_eq, bind_assoc, pure_bind]
    rfl
  cases stage with
  | choosing _ | finished => exact hmove
  | attempting key =>
    cases hread : Request.read text with
    | attempt tried =>
      -- a line that is an attempt leads to the attempt, before a move is decided on
      have hanswer : answer (.attempting key) text = attemptWith key tried := by
        show answerAttempt key text = _
        rw [answerAttempt, hread]
      simp only [hanswer, Stage.step, lineDemands, hread, pure_bind]
      rfl
    | quit | back | event _ | reload =>
      rw [hmove]
      simp only [Stage.step, lineDemands, hread]

/-- To be at a point of the game is to step to the next one and to go on there. -/
theorem play_eq_step (hp : p ≠ .ended) :
    p.play input = p.step input >>= fun next => next.1.play next.2 := by
  cases p with
  | opening lesson =>
    show start lesson >>= playOn input = _
    rw [start_eq, Point.step]
    simp only [bind_assoc, pure_bind]
    rfl
  | moving m =>
    show m.carryOut >>= playOn input = _
    rw [carryOut_eq_step, Point.step]
    simp only [bind_assoc, pure_bind]
  | asking prompt stage => rfl
  | waiting stage =>
    -- here the game looks at its input
    show playOn input stage = _
    by_cases hstage : stage = .finished
    · rw [hstage]
      exact playOn_finished input
    · cases input with
      | nil =>
        rw [step_nil hstage]
        cases stage with
        | finished => exact absurd rfl hstage
        | choosing _ | attempting _ => rfl
      | cons first input =>
        cases first with
        | line text =>
          rw [playOn_cons, proceed_line, answer_eq_step, step_line hstage]
          simp only [bind_assoc, pure_bind]
        | meanwhile what =>
          rw [playOn_meanwhile what input hstage, step_meanwhile hstage]
          simp only [bind_assoc, pure_bind]
          rfl
  | trying key text =>
    show attemptWith key text >>= playOn input = _
    rw [attemptWith_eq, Point.step]
    simp only [bind_assoc, pure_bind]
    rfl
  | ended => exact absurd rfl hp

/-! ### Games end -/

/-- How far a point is from the next line. -/
def Point.distance : Point → Nat
  | .ended => 0
  | .waiting _ => 1
  | .asking .. => 2
  | .moving .menu | .moving (.again _) | .moving .stop => 3
  | .moving (.visit _) => 4
  | .opening _ | .trying .. => 5

/-- How far a point is from the end of a game. -/
def Point.size (p : Point) (input : List Incoming) : Nat :=
  5 * input.length + p.distance

/-- Every step comes closer to the next line, or takes something that has come in. -/
theorem Leads.size_lt (h : Leads p input q rest) : q.size rest < p.size input := by
  cases h with
  | @opening _ m | @tried _ _ m => cases m <;> simp [Point.size, Point.distance]
  | @line _ _ m => cases m <;> simp [Point.size, Point.distance] <;> omega
  | _ => simp [Point.size, Point.distance] <;> omega

/-- The steps from a point on are those of the game. -/
theorem Runs.eq_play {deeds : List Deed} {out : Except Failure Unit × World}
    (h : Runs p input w deeds out) : out = (p.play input).perform w := by
  induction h with
  | ended => rfl
  | fails hp h => rw [play_eq_step hp, Act.perform_bind_error h]
  | steps hp h _ ih => rw [play_eq_step hp, Act.perform_bind_ok h, ih]

/-- From every point on, the game comes to an end. -/
theorem exists_runs (p : Point) (input : List Incoming) (w : World) :
    ∃ deeds, Runs p input w deeds ((p.play input).perform w) := by
  have hruns : ∃ deeds out, Runs p input w deeds out := by
    -- by induction on the distance from the end, which each step makes smaller
    induction hsize : p.size input using Nat.strong_induction_on generalizing p input w with
    | h size ih =>
      by_cases hp : p = .ended
      · subst hp
        exact ⟨[], _, .ended⟩
      · cases hstep : (p.step input).perform w with
        | mk r w' =>
          cases r with
          | error e => exact ⟨_, _, .fails hp hstep⟩
          | ok next =>
            have hcloser := (leads_of_step hp hstep).size_lt
            obtain ⟨deeds, out, hrest⟩ := ih _ (hsize ▸ hcloser) next.1 next.2 w' rfl
            exact ⟨_, _, .steps hp hstep hrest⟩
  obtain ⟨deeds, out, h⟩ := hruns
  exact ⟨deeds, h.eq_play ▸ h⟩

/-- There is one way for the game to go. -/
theorem Runs.unique {deeds deeds' : List Deed} {out out' : Except Failure Unit × World}
    (h : Runs p input w deeds out) (h' : Runs p input w deeds' out') : deeds = deeds' := by
  -- a step either fails or leads on, and not both
  induction h generalizing deeds' with
  | ended =>
    cases h' with
    | ended => rfl
    | fails hp | steps hp => exact absurd rfl hp
  | fails hp hstep =>
    cases h' with
    | ended => exact absurd rfl hp
    | fails => rfl
    | steps _ hstep' =>
      rw [hstep] at hstep'
      cases hstep'
  | steps hp hstep _ ih =>
    cases h' with
    | ended => exact absurd rfl hp
    | fails _ hstep' =>
      rw [hstep] at hstep'
      cases hstep'
    | steps _ hstep' hrest =>
      rw [hstep] at hstep'
      cases hstep'
      rw [ih hrest]

/-! ### Requests between lines -/

/-- From each point on there are at most as many deeds of a kind as its budget allows, as long as no
line is read. -/
structure Budget (kind : Deed → Bool) (budget : Point → Nat) : Prop where
  /-- What is done at a point is within its budget. -/
  once : ∀ p, (p.deed?.toList).countP kind ≤ budget p
  /-- What is left of the budget is enough for the next point. -/
  step : ∀ {p input q rest}, Leads p input q rest → p.deed? ≠ some .read →
    (p.deed?.toList).countP kind + budget q ≤ budget p

/-- Attempts from a point on, before the next line is read. -/
def Point.attempts : Point → Nat
  | .waiting _ | .trying .. => 1
  | .opening _ | .moving _ | .asking .. | .ended => 0

/-- Descriptions from a point on, before the next line is read. -/
def Point.describes : Point → Nat
  | .opening _ | .moving (.visit _) | .waiting _ | .trying .. => 1
  | .moving _ | .asking .. | .ended => 0

theorem attempts_le_one (p : Point) : p.attempts ≤ 1 := by
  cases p <;> simp [Point.attempts]

theorem describes_le_one (p : Point) : p.describes ≤ 1 := by
  cases p with
  | moving m => cases m <;> simp [Point.describes]
  | _ => simp [Point.describes]

/-- At most one thing is done at a point. -/
theorem countP_deed_le_one (kind : Deed → Bool) (p : Point) :
    (p.deed?.toList).countP kind ≤ 1 := by
  refine List.countP_le_length.trans ?_
  cases p.deed? <;> simp

/-- All that is requested before a move is a description. -/
theorem countP_deed_moving {kind : Deed → Bool}
    (hkind : ∀ key, kind (.demand (.describe key)) = false) (m : Move) :
    ((Point.moving m).deed?.toList).countP kind = 0 := by
  cases m with
  | menu | again _ | stop => rfl
  | visit key => by_cases hempty : key.2 = "" <;> simp [Point.deed?, Move.demands, hempty, hkind]

/-- No attempt follows another one without a line in between. -/
theorem budget_attempts : Budget Deed.isAttempt Point.attempts where
  once p := by
    cases p with
    | trying _ _ | waiting _ => exact countP_deed_le_one _ _
    | opening _ | asking _ _ | ended => exact Nat.le_refl 0
    | moving m => exact (countP_deed_moving (fun _ => rfl) m).le
  step h hread := by
    cases h with
    | ask => exact absurd rfl hread
    | tried => exact countP_deed_le_one _ _
    | menu | leave | visit | again | stop => exact (countP_deed_moving (fun _ => rfl) _).le
    | opening | finish | line | attempt | meanwhile => simp [Point.deed?, Point.attempts]

/-- No description follows another one without a line in between. -/
theorem budget_describes : Budget Deed.isDescribe Point.describes where
  once p := by
    cases p with
    | opening _ | waiting _ | trying _ _ => exact countP_deed_le_one _ _
    | asking _ _ | ended => exact Nat.le_refl 0
    | moving m =>
      cases m with
      | menu | again _ | stop => exact Nat.le_refl 0
      | visit _ => exact countP_deed_le_one _ _
  step h hread := by
    cases h with
    | ask => exact absurd rfl hread
    | leave | visit => exact countP_deed_le_one _ _
    | opening | line | tried =>
      -- where a move is next, its description is still to come
      exact (Nat.zero_add _).trans_le (describes_le_one _)
    | menu | again | stop => exact Nat.le_refl 0
    | finish | attempt | meanwhile => simp [Point.deed?, Point.describes]

variable {kind : Deed → Bool} {budget : Point → Nat} {deeds : List Deed}
  {out : Except Failure Unit × World}

/-- Up to the next line, a game stays within the budget of the point it is at. -/
theorem Runs.countP_le (h : Runs p input w deeds out) (hb : Budget kind budget)
    {start : List Deed} (hstart : start <+: deeds) (hread : .read ∉ start) :
    start.countP kind ≤ budget p := by
  -- by induction on the steps, each of which leaves enough of the budget for the next
  induction h generalizing start with
  | ended =>
    rw [List.prefix_nil.mp hstart]
    exact Nat.zero_le _
  | @fails p => exact hstart.sublist.countP_le.trans (hb.once p)
  | @steps p _ _ q _ _ deeds _ hp hstep _ ih =>
    have hleads := leads_of_step hp hstep
    have hbudget := hb.step hleads
    cases hd : p.deed? with
    | none =>
      rw [hd] at hstart hbudget
      have hrest := ih hstart hread
      have hq := hbudget nofun
      rw [Option.toList_none, List.countP_nil] at hq
      omega
    | some d =>
      rw [hd] at hstart hbudget
      rcases List.prefix_cons_iff.mp hstart with rfl | ⟨rest, rfl, hrest⟩
      · exact Nat.zero_le _
      · obtain ⟨hne, hread⟩ := not_or.mp (mt List.mem_cons.mpr hread)
        have hq := hbudget fun h => hne (Option.some.inj h).symm
        have hafter := ih hrest hread
        rw [Option.toList_some] at hq
        rw [← List.singleton_append, List.countP_append]
        omega

/-- There are at most one description and one attempt. -/
def Few (deeds : List Deed) : Prop :=
  deeds.countP Deed.isDescribe ≤ 1 ∧ deeds.countP Deed.isAttempt ≤ 1

/-- Before a line is read, few things are done. -/
theorem Runs.few (h : Runs p input w deeds out) {start : List Deed} (hstart : start <+: deeds)
    (hread : .read ∉ start) : Few start :=
  ⟨(h.countP_le budget_describes hstart hread).trans (describes_le_one p),
    (h.countP_le budget_attempts hstart hread).trans (attempts_le_one p)⟩

/-- Few things are done from one line to the next, and so before the first line and after the last
one. -/
def Paced (deeds : List Deed) : Prop :=
  ∀ between, between <:+: deeds → .read ∉ between → Few between

/-- What is done is paced if it is so later, and if it is few things up to the first line. -/
theorem paced_append {d? : Option Deed} (hrest : Paced deeds)
    (hstart : ∀ start, start <+: d?.toList ++ deeds → .read ∉ start → Few start) :
    Paced (d?.toList ++ deeds) := by
  intro between hbetween hread
  cases d? with
  | none => exact hrest between hbetween hread
  | some d =>
    rcases List.infix_cons_iff.mp hbetween with hprefix | hinfix
    · exact hstart between hprefix hread
    · exact hrest between hinfix hread

/-- Every game is paced. -/
theorem Runs.paced (h : Runs p input w deeds out) : Paced deeds := by
  have hnil : Paced [] := fun between hbetween _ =>
    List.infix_nil.mp hbetween ▸ ⟨Nat.zero_le _, Nat.zero_le _⟩
  -- by induction on the steps: what is in between starts at one of the points
  induction h with
  | ended => exact hnil
  | @fails p _ _ _ _ hp hstep =>
    have hruns := Runs.fails hp hstep
    rw [← List.append_nil p.deed?.toList] at hruns ⊢
    exact paced_append hnil fun _ => hruns.few
  | steps hp hstep hrest ih =>
    exact paced_append ih fun _ => (Runs.steps hp hstep hrest).few

/-! ### Lines -/

/-- A line comes in. -/
def Incoming.isLine : Incoming → Bool
  | .line _ => true
  | .meanwhile _ => false

/-- Lines that are asked for from a point on, beside those that come in. -/
def Point.reads : Point → Nat
  | .waiting _ | .ended => 0
  | .opening _ | .moving _ | .asking .. | .trying .. => 1

/-- At a point, no more lines are asked for than the game may still ask for. -/
theorem count_deed_le_reads (p : Point) : (p.deed?.toList).count .read ≤ p.reads := by
  cases p with
  | opening _ | moving _ | asking _ _ | trying _ _ => exact countP_deed_le_one _ _
  | waiting _ | ended => exact Nat.le_refl 0

/-- A line that is asked for has come in before the next one is asked for. -/
theorem Leads.reads_le (h : Leads p input q rest) :
    (p.deed?.toList).count .read + (q.reads + rest.countP Incoming.isLine)
      ≤ p.reads + input.countP Incoming.isLine := by
  have hmoving : ∀ m, ((Point.moving m).deed?.toList).count .read = 0 :=
    countP_deed_moving fun _ => rfl
  cases h with
  | menu | leave | visit | again | stop =>
    rw [hmoving]
    simp [Point.reads]
  | line | attempt =>
    rw [List.countP_cons_of_pos rfl]
    simp only [Point.deed?, Point.reads, Option.toList_none, List.count_nil]
    omega
  | meanwhile => simp [Point.deed?, Point.reads, Incoming.isLine]
  | opening | ask | finish | tried => simp [Point.deed?, Point.reads]

/-- A game asks for at most one line more than come in. -/
theorem Runs.count_read_le (h : Runs p input w deeds out) :
    deeds.count .read ≤ p.reads + input.countP Incoming.isLine := by
  -- every line that is asked for uses up one that has come in, but for the last one
  induction h with
  | ended => exact Nat.zero_le _
  | @fails p => exact (count_deed_le_reads p).trans (Nat.le_add_right _ _)
  | steps hp hstep _ ih =>
    have hleads := (leads_of_step hp hstep).reads_le
    rw [List.count_append]
    omega

/-! ### The main result -/

/-- **Games keep their pace.** Whatever the lessons, the settings, the programs and the things that
come in may be, the steps of a game come to an end, in one way and with what the game itself comes
to: it is over, or it fails. From one line that the game asks for to the next there are at most one
description of a task and one attempt, and it asks for at most one more line than come in. -/
theorem play_keeps_pace (lesson : Option String) (input : List Incoming) (w : World) :
    ∃ deeds, (∀ deeds' out, Runs (.opening lesson) input w deeds' out ↔
        deeds' = deeds ∧ out = (start lesson >>= playOn input).perform w) ∧
      Paced deeds ∧ deeds.count .read ≤ input.countP Incoming.isLine + 1 := by
  obtain ⟨deeds, h⟩ := exists_runs (.opening lesson) input w
  refine ⟨deeds, fun deeds' out => ⟨fun h' => ⟨h'.unique h, h'.eq_play⟩, ?_⟩, h.paced, ?_⟩
  · rintro ⟨rfl, rfl⟩
    exact h
  · rw [Nat.add_comm]
    exact h.count_read_le

end Tutor.Console
