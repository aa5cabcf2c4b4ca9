import Tutor.Proofs.Effects.Outcome
import Tutor.Proofs.Service.Programs

namespace Tutor

/-!
# How effects are resolved

A result is looked up among the effects of a task. The reply of its effect is looked at first, and
then the side effects are carried out one after the other, up to the first that makes no sense or
whose program breaks down.

* `Passes`, `Stops` — a side effect is carried out, or it ends everything with a failure;
  `passes_or_stops`: there is nothing else;
* `AllPass`, `StopsAfter` — the same of a list of side effects;
* `perform_allPass`, `perform_stopsAfter` — what a list of side effects comes to;
* `Presentable` — replies that make a response or none;
* `resolved_in_order` — how a result fails, how far it goes, and what it comes to.
-/

/-- The world once some more programs have been called, with another journal. -/
def World.called (w : World) (calls : List Call) (journal : List Entry) : World :=
  { w with journal := journal, host := { w.host with calls := calls.reverse ++ w.host.calls } }

/-- Calls after calls. -/
theorem World.called_called (w : World) (first others : List Call) (j k : List Entry) :
    (w.called first j).called others k = w.called (first ++ others) k := by
  unfold World.called
  rw [List.reverse_append, List.append_assoc]

/-! ### One side effect -/

/-- The value of a side effect; null for one that has none. -/
def sideEffectValue (sideEffect : Json) : Json :=
  sideEffect.getD "value" .null

/-- The side effect is carried out after these calls: it unlocks lessons, and its value is a list or
counts as absent, or it is a command, and the program for it ends. -/
inductive Passes (environment : Table String String) (runner : Runner) (calls : List Call)
    (s : Json) : Prop
  | unlock (htype : sideEffectKind s = .str "unlock")
    (hvalue : (∃ names, sideEffectValue s = .arr names) ∨ (sideEffectValue s).isTruthy = false)
  | shell {command : String} {result : RunResult} (htype : sideEffectKind s = .str "shell")
    (hvalue : sideEffectValue s = .str command)
    (hends : runner calls (Shell.callOf command environment) = .finished result)

/-- The side effect ends everything with a failure after these calls: its type is known and its
value makes no sense, its type is not known, or the program for it breaks down. -/
inductive Stops (environment : Table String String) (runner : Runner) (calls : List Call)
    (s : Json) : Failure → Prop
  | names (htype : sideEffectKind s = .str "unlock")
    (hlist : ∀ names, sideEffectValue s ≠ .arr names)
    (hpresent : (sideEffectValue s).isTruthy = true) :
    Stops environment runner calls s (.fault (.unlockNames (sideEffectValue s)))
  | command (htype : sideEffectKind s = .str "shell")
    (hstring : ∀ command, sideEffectValue s ≠ .str command) :
    Stops environment runner calls s (.fault (.sideCommand (sideEffectValue s)))
  | unknown (hunlock : sideEffectKind s ≠ .str "unlock")
    (hshell : sideEffectKind s ≠ .str "shell") :
    Stops environment runner calls s (.fault (.unknownSideEffect (sideEffectKind s) s))
  | breakdown {command : String} {why : RunnerFlaw} {message : String}
    (htype : sideEffectKind s = .str "shell") (hvalue : sideEffectValue s = .str command)
    (hfails : runner calls (Shell.callOf command environment) = .failed why message) :
    Stops environment runner calls s (Shell.breakdown command why message)

variable {environment : Table String String} {runner : Runner} {calls : List Call} {s : Json}
  {w : World} {e : Failure}

/-- A side effect is carried out or ends everything. -/
theorem passes_or_stops (environment : Table String String) (runner : Runner) (calls : List Call)
    (s : Json) :
    Passes environment runner calls s ∨ ∃ e, Stops environment runner calls s e := by
  by_cases hunlock : sideEffectKind s = .str "unlock"
  · cases hpresent : (sideEffectValue s).isTruthy with
    | false => exact .inl (.unlock hunlock (.inr hpresent))
    | true =>
      by_cases hlist : ∃ names, sideEffectValue s = .arr names
      · exact .inl (.unlock hunlock (.inl hlist))
      · exact .inr ⟨_, .names hunlock (not_exists.mp hlist) hpresent⟩
  · by_cases hshell : sideEffectKind s = .str "shell"
    · by_cases hstring : ∃ command, sideEffectValue s = .str command
      · obtain ⟨command, hvalue⟩ := hstring
        cases hends : runner calls (Shell.callOf command environment) with
        | finished result => exact .inl (.shell hshell hvalue hends)
        | failed why message => exact .inr ⟨_, .breakdown hshell hvalue hends⟩
      · exact .inr ⟨_, .command hshell (not_exists.mp hstring)⟩
    · exact .inr ⟨_, .unknown hunlock hshell⟩

/-- The kind of what ends side effects: the value of a type that is known makes no sense, the type
is not known, or the program of a command breaks down. -/
theorem Stops.kind {f : Fault} (hstops : Stops environment runner calls s (.fault f)) :
    (f.kind = .invalidEffectSpec ∧
      (sideEffectKind s = .str "unlock" ∨ sideEffectKind s = .str "shell")) ∨
    (f.kind = .unknownSideEffect ∧
      sideEffectKind s ≠ .str "unlock" ∧ sideEffectKind s ≠ .str "shell") ∨
    (f.kind = .processFailed ∧
      sideEffectKind s = .str "shell" ∧ ∃ command, sideEffectValue s = .str command) := by
  generalize he : Failure.fault f = e at hstops
  cases hstops with
  | names htype => cases he; exact .inl ⟨rfl, .inl htype⟩
  | command htype => cases he; exact .inl ⟨rfl, .inr htype⟩
  | unknown hunlock hshell => cases he; exact .inr (.inl ⟨rfl, hunlock, hshell⟩)
  | @breakdown command why message htype hvalue =>
    cases why with
    | broken => cases he
    | system | notFound | badRequest =>
      cases he
      exact .inr (.inr ⟨rfl, htype, command, hvalue⟩)

/-- A value that is a list or counts as absent gives names. -/
theorem unlockNames_eq_ok {value : Json}
    (hvalue : (∃ names, value = .arr names) ∨ value.isTruthy = false) :
    unlockNames value = .ok (namesIn value) := by
  cases value with
  | arr names => rfl
  | _ =>
    obtain ⟨names, hnames⟩ | habsent := hvalue
    · cases hnames
    · simp [unlockNames, namesIn, habsent]

/-- A side effect that passes adds the names that it unlocks, and makes its call. -/
theorem perform_passes (key : TaskKey) (unlocked : List String)
    (hpasses : Passes w.host.environment w.host.runner w.host.calls s) :
    ∃ j, (applySideEffect key unlocked.eraseDups s).perform w
      = (.ok (unlocked ++ unlocksOf s).eraseDups,
          w.called (sideEffectCalls w.host.environment s) j) := by
  unfold applySideEffect unlocksOf sideEffectCalls
  cases hpasses with
  | unlock htype hvalue =>
    have hnames := unlockNames_eq_ok hvalue
    unfold sideEffectValue at hnames
    simp only [htype, Json.isStr, beq_self_eq_true, if_true]
    rw [Act.perform_bind_ok (Act.perform_ofFault_ok hnames w),
      Act.perform_bind_ok (Act.perform_log _ _ _ _), addUnique_eq_eraseDups,
      eraseDups_eraseDups_append]
    exact ⟨_, rfl⟩
  | @shell command result htype hvalue hends =>
    -- the command is executed in the environment as it is
    obtain ⟨j, hexecute⟩ := Shell.perform_execute command [] w
    have hdifferent : ("shell" == "unlock") = false := by decide
    unfold sideEffectValue at hvalue
    simp only [htype, Json.isStr, hdifferent, beq_self_eq_true, if_true, Bool.false_eq_true,
      if_false, hvalue, List.append_nil]
    refine ⟨j, ?_⟩
    have hoverlay : Shell.overlay w.host.environment [] = w.host.environment := rfl
    rw [hoverlay, hends] at hexecute
    exact Act.perform_bind_ok hexecute

/-- A type that is written as a string is that string only. -/
theorem Json.isStr_eq_false {j : Json} {t : String} (hne : j ≠ .str t) : j.isStr t = false := by
  cases j with
  | str u => exact beq_eq_false_iff_ne.mpr fun hu => hne (congrArg Json.str hu)
  | _ => rfl

/-- A side effect that stops fails as it says, and its call has been made if it is a command. -/
theorem perform_stops (key : TaskKey) (unlocked : List String)
    (hstops : Stops w.host.environment w.host.runner w.host.calls s e) :
    ∃ j, (applySideEffect key unlocked s).perform w
      = (.error e, w.called (sideEffectCalls w.host.environment s) j) := by
  have hdifferent : ("shell" == "unlock") = false := by decide
  unfold applySideEffect sideEffectCalls
  cases hstops with
  | names htype hlist hpresent =>
    -- a value that is no list of names, and does not count as absent
    have hnames : unlockNames (s.getD "value" .null)
        = .error (.unlockNames (sideEffectValue s)) := by
      unfold sideEffectValue at hlist hpresent ⊢
      cases hvalue : s.getD "value" .null with
      | arr names => exact absurd hvalue (hlist names)
      | _ =>
        rw [hvalue] at hpresent
        exact if_pos hpresent
    simp only [htype, Json.isStr, beq_self_eq_true, if_true]
    exact ⟨w.journal, Act.perform_bind_error (Act.perform_ofFault_error hnames w)⟩
  | command htype hstring =>
    unfold sideEffectValue at hstring ⊢
    simp only [htype, Json.isStr, hdifferent, beq_self_eq_true, if_true, Bool.false_eq_true,
      if_false]
    refine ⟨w.journal, ?_⟩
    cases hvalue : s.getD "value" .null with
    | str command => exact absurd hvalue (hstring command)
    | _ => rfl
  | unknown hunlock hshell =>
    simp only [Json.isStr_eq_false hunlock, Json.isStr_eq_false hshell]
    exact ⟨w.journal, rfl⟩
  | @breakdown command why message htype hvalue hfails =>
    -- the call is made before the program for it breaks down
    obtain ⟨j, hexecute⟩ := Shell.perform_execute command [] w
    have hoverlay : Shell.overlay w.host.environment [] = w.host.environment := rfl
    rw [hoverlay, hfails] at hexecute
    unfold sideEffectValue at hvalue
    simp only [htype, Json.isStr, hdifferent, beq_self_eq_true, if_true, Bool.false_eq_true,
      if_false, hvalue]
    exact ⟨j, Act.perform_bind_error hexecute⟩

/-! ### All side effects -/

/-- All of the side effects are carried out, the first one after these calls. -/
def AllPass (environment : Table String String) (runner : Runner) :
    List Call → List Json → Prop
  | _, [] => True
  | calls, s :: rest =>
    Passes environment runner calls s ∧
      AllPass environment runner ((sideEffectCalls environment s).reverse ++ calls) rest

/-- The side effects are carried out up to one that ends everything. -/
structure StopsAfter (environment : Table String String) (runner : Runner) (calls : List Call)
    (sideEffects before : List Json) (s : Json) (e : Failure) : Prop where
  split : ∃ after, sideEffects = before ++ s :: after
  passes : AllPass environment runner calls before
  stops : Stops environment runner
    ((before.flatMap (sideEffectCalls environment)).reverse ++ calls) s e

/-- All side effects are carried out, or one of them ends everything. -/
theorem allPass_or_stopsAfter (environment : Table String String) (runner : Runner)
    (calls : List Call) (sideEffects : List Json) :
    AllPass environment runner calls sideEffects ∨
      ∃ before s e, StopsAfter environment runner calls sideEffects before s e := by
  induction sideEffects generalizing calls with
  | nil => exact .inl trivial
  | cons s rest ih =>
    rcases passes_or_stops environment runner calls s with hpasses | ⟨e, hstops⟩
    · rcases ih ((sideEffectCalls environment s).reverse ++ calls) with
        hall | ⟨before, t, e, ⟨after, rfl⟩, hbefore, hstops⟩
      · exact .inl ⟨hpasses, hall⟩
      · refine .inr ⟨s :: before, t, e, ⟨after, rfl⟩, ⟨hpasses, hbefore⟩, ?_⟩
        rw [List.flatMap_cons, List.reverse_append, List.append_assoc]
        exact hstops
    · exact .inr ⟨[], s, e, ⟨rest, rfl⟩, trivial, hstops⟩

/-- Side effects that all pass add the names that they unlock, and make their calls. -/
theorem perform_allPass (key : TaskKey) {sideEffects : List Json} (unlocked : List String)
    (hall : AllPass w.host.environment w.host.runner w.host.calls sideEffects) :
    ∃ j, (applySideEffects key sideEffects unlocked.eraseDups).perform w
      = (.ok (unlocked ++ sideEffects.flatMap unlocksOf).eraseDups,
          w.called (sideEffects.flatMap (sideEffectCalls w.host.environment)) j) := by
  induction sideEffects generalizing unlocked w with
  | nil =>
    rw [List.flatMap_nil, List.append_nil]
    exact ⟨w.journal, rfl⟩
  | cons s rest ih =>
    obtain ⟨hpasses, hrest⟩ := hall
    obtain ⟨i, hone⟩ := perform_passes key unlocked hpasses
    -- the environment and what runs programs are the same after the call
    obtain ⟨j, hothers⟩ :=
      ih (w := w.called (sideEffectCalls w.host.environment s) i) (unlocked ++ unlocksOf s) hrest
    refine ⟨j, ?_⟩
    rw [applySideEffects, Act.perform_bind_ok hone, hothers, World.called_called,
      List.flatMap_cons, List.flatMap_cons, List.append_assoc]
    rfl

/-- Side effects up to one that stops: nothing after it is looked at. -/
theorem perform_stopsAfter (key : TaskKey) {sideEffects before : List Json} (unlocked : List String)
    (hstops : StopsAfter w.host.environment w.host.runner w.host.calls sideEffects before s e) :
    ∃ j, (applySideEffects key sideEffects unlocked.eraseDups).perform w
      = (.error e,
          w.called ((before ++ [s]).flatMap (sideEffectCalls w.host.environment)) j) := by
  obtain ⟨⟨after, rfl⟩, hbefore, hstops⟩ := hstops
  induction before generalizing unlocked w with
  | nil =>
    obtain ⟨j, hone⟩ := perform_stops key unlocked.eraseDups hstops
    refine ⟨j, ?_⟩
    rw [List.nil_append, applySideEffects, Act.perform_bind_error hone, List.nil_append,
      List.flatMap_singleton]
  | cons t rest ih =>
    -- the others start from the calls that this one has made
    obtain ⟨hpasses, hrest⟩ := hbefore
    rw [List.flatMap_cons, List.reverse_append, List.append_assoc] at hstops
    obtain ⟨i, hone⟩ := perform_passes key unlocked hpasses
    obtain ⟨j, hothers⟩ := ih (w := w.called (sideEffectCalls w.host.environment t) i)
      (unlocked ++ unlocksOf t) hrest hstops
    refine ⟨j, ?_⟩
    rw [List.cons_append, applySideEffects, Act.perform_bind_ok hone, hothers,
      World.called_called, List.cons_append, List.flatMap_cons]
    rfl

/-! ### Results -/

/-- The reply makes a response or none: it is null, a string or an object. -/
def Presentable (reply : Json) : Prop :=
  reply = .null ∨ (∃ text, reply = .str text) ∨ ∃ members, reply = .obj members

/-- The response of a reply that makes one: a string scrolls. -/
def repliesOf : Json → List Json
  | .str "" => []
  | .str text => [.obj [("type", .str "scrolled"), ("value", .str text)]]
  | .obj members => [.obj members]
  | _ => []

/-- A reply that is presentable makes its response, and any other one is refused. -/
theorem replyResponses_cases (reply : Json) :
    (Presentable reply ∧ replyResponses reply = .ok (repliesOf reply)) ∨
      (¬ Presentable reply ∧ replyResponses reply = .error (.replyShape reply)) := by
  unfold Presentable
  cases reply with
  | null => exact .inl ⟨.inl rfl, rfl⟩
  | str text =>
    refine .inl ⟨.inr (.inl ⟨text, rfl⟩), ?_⟩
    by_cases hempty : text = ""
    · subst hempty
      rfl
    · unfold replyResponses repliesOf
      split <;> simp_all [replyContent, Except.map]
  | obj members => exact .inl ⟨.inr (.inr ⟨members, rfl⟩), rfl⟩
  | bool _ | int _ | float _ | arr _ => exact .inr ⟨by simp, rfl⟩

/-- Where an effect leads: to its goal if it has one, out of the lesson if it completes it, and back to
the task otherwise. -/
inductive LeadsTo (e : Effect) (task : String) : String → Prop
  | goal {goal : String} (hgoal : e.moveTo = some goal) : LeadsTo e task goal
  | completed (hnone : e.moveTo = none) (hcompletes : e.completesLesson = true) : LeadsTo e task ""
  | again (hnone : e.moveTo = none) (hstays : e.completesLesson = false) : LeadsTo e task task

/-- An effect leads where the program goes next. -/
theorem leadsTo_next (e : Effect) (task : String) : LeadsTo e task (e.next task) := by
  unfold Effect.next
  cases hgoal : e.moveTo with
  | some goal => exact .goal hgoal
  | none =>
    cases hcompletes : e.completesLesson with
    | true => exact .completed hgoal hcompletes
    | false => exact .again hgoal hcompletes

/-- The effect of a result: nothing is done for a reply that makes no sense; otherwise the side
effects are carried out, up to one that ends everything, and make their calls; if none does, the
outcome has the responses and then the reply, all that has been and is unlocked and known, and the
next task. -/
structure Resolves (key : TaskKey) (e : Effect) (responses : List Json)
    (unlocked known : List String) (w : World) (r : Except Failure Outcome × World) : Prop where
  refuses : ¬ Presentable e.reply → r = (.error (.fault (.replyShape e.reply)), w)
  stops : Presentable e.reply → ∀ before s f,
    StopsAfter w.host.environment w.host.runner w.host.calls e.sideEffects before s f →
    ∃ j, r = (.error f, w.called ((before ++ [s]).flatMap (sideEffectCalls w.host.environment)) j)
  ends : Presentable e.reply →
    AllPass w.host.environment w.host.runner w.host.calls e.sideEffects →
    ∃ goal j, LeadsTo e key.2 goal ∧ r = (.ok
        { responses := responses ++ repliesOf e.reply
          unlocked := (unlocked ++ e.unlocks).eraseDups
          known := (known ++ e.completes key.1).eraseDups
          moveTo := goal },
      w.called (e.sideEffects.flatMap (sideEffectCalls w.host.environment)) j)

/-- The effect of a result is resolved as far as it goes. -/
theorem resolves_resolveEffect {result : String} {effects : Table String Effect} {effect : Effect}
    {auxiliaries responses : List Json} (heffect : effects.get? result = some effect)
    (hresponses : responsesOf auxiliaries = .ok responses) (key : TaskKey)
    (unlocked known : List String) (w : World) :
    Resolves key effect responses unlocked known w
      ((resolveEffect key result effects auxiliaries unlocked known).perform w) := by
  have hnone : addUnique unlocked [] = unlocked.eraseDups := by
    rw [addUnique_eq_eraseDups, List.append_nil]
  unfold resolveEffect
  rw [heffect]
  dsimp only
  rw [Act.perform_bind_ok (Act.perform_ofExcept_eq hresponses w), hnone]
  -- the reply is looked at before any side effect takes place
  rcases replyResponses_cases effect.reply with ⟨hpresentable, hreply⟩ | ⟨hother, hreply⟩
  · rw [Act.perform_bind_ok (Act.perform_ofFault_ok hreply w)]
    refine ⟨absurd hpresentable, fun _ before s f hstops => ?_, fun _ hall => ?_⟩
    · obtain ⟨j, hsides⟩ := perform_stopsAfter key unlocked hstops
      exact ⟨j, Act.perform_bind_error hsides⟩
    · obtain ⟨j, hsides⟩ := perform_allPass key unlocked hall
      rw [Act.perform_bind_ok hsides, addUnique_eq_eraseDups]
      unfold Effect.completes
      -- completing the lesson is written to the journal
      cases effect.completesLesson with
      | true => exact ⟨_, _, leadsTo_next effect key.2, rfl⟩
      | false => exact ⟨_, j, leadsTo_next effect key.2, rfl⟩
  · rw [Act.perform_bind_error (Act.perform_ofFault_error hreply w)]
    exact ⟨fun _ => rfl, fun h => absurd h hother, fun h => absurd h hother⟩

section Resolves

variable {key : TaskKey} {effect : Effect} {responses : List Json} {unlocked known : List String}
  {r : Except Failure Outcome × World}

/-- The reply of an effect is refused, a side effect ends everything, or there is an outcome. -/
theorem Resolves.cases (hr : Resolves key effect responses unlocked known w r) :
    (¬ Presentable effect.reply ∧ r.1 = .error (.fault (.replyShape effect.reply))) ∨
      (∃ before s f, StopsAfter w.host.environment w.host.runner w.host.calls effect.sideEffects
        before s f ∧ r.1 = .error f) ∨
      (Presentable effect.reply ∧
        ∃ outcome, r.1 = .ok outcome ∧
          outcome.responses = responses ++ repliesOf effect.reply) := by
  by_cases hpresentable : Presentable effect.reply
  · rcases allPass_or_stopsAfter w.host.environment w.host.runner w.host.calls
      effect.sideEffects with hall | ⟨before, s, f, hstops⟩
    · obtain ⟨goal, j, -, rfl⟩ := hr.ends hpresentable hall
      exact .inr (.inr ⟨hpresentable, _, rfl, rfl⟩)
    · obtain ⟨j, rfl⟩ := hr.stops hpresentable before s f hstops
      exact .inr (.inl ⟨before, s, f, hstops, rfl⟩)
  · obtain rfl := hr.refuses hpresentable
    exact .inl ⟨hpresentable, rfl⟩

/-- An effect that has an outcome has a reply that is presentable, and its response comes last. -/
theorem Resolves.of_ok {outcome : Outcome} {w' : World}
    (hr : Resolves key effect responses unlocked known w (.ok outcome, w')) :
    Presentable effect.reply ∧ outcome.responses = responses ++ repliesOf effect.reply := by
  rcases hr.cases with ⟨-, herror⟩ | ⟨before, s, f, -, herror⟩ |
    ⟨hpresentable, outcome', hok, hresponses⟩
  · cases herror
  · cases herror
  · cases hok
    exact ⟨hpresentable, hresponses⟩

/-- A result that has an effect is never one that is not known. -/
theorem Resolves.kind_ne {f : Fault} (hr : Resolves key effect responses unlocked known w r)
    (hf : r.1 = .error (.fault f)) : f.kind ≠ .unknownResultCode := by
  rcases hr.cases with ⟨-, herror⟩ | ⟨before, s, f', hstops, herror⟩ | ⟨-, outcome, hok, -⟩
  · rw [hf] at herror
    cases herror
    exact nofun
  · rw [hf] at herror
    cases herror
    rcases hstops.stops.kind with ⟨hkind, -⟩ | ⟨hkind, -⟩ | ⟨hkind, -⟩ <;>
      · rw [hkind]
        exact nofun
  · rw [hf] at hok
    cases hok

end Resolves

/-- **Results are resolved in order.** Given the effects of a document and what some steps have
added, a result fails as one that is not known exactly if it has no effect. Otherwise its effect is
resolved: the reply comes first, then the side effects one after the other, up to the first that
makes no sense or whose program breaks down, and each kind of these has a fault of its own. What is
unlocked and known is left of both lists once later copies are dropped. -/
theorem resolved_in_order {other : TaskKey} {steps : List Step} {text : String} {p : Progress}
    {u u' : World} (hrun : (runPipeline other steps text).perform u = (.ok p, u'))
    {members : List (String × Json)} {effects : Table String Effect}
    (heffects : mapValuesM (fun _ => Effect.ofJson) members = .ok effects)
    (key : TaskKey) (result : String) (unlocked known : List String) (w : World) :
    let r := (resolveEffect key result effects p.auxiliaries unlocked known).perform w
    ((∃ f, r.1 = .error (.fault f) ∧ f.kind = .unknownResultCode) ↔ result ∉ effects.keys) ∧
      (result ∉ effects.keys → r = (.error (.fault (.unknownResult result effects.keys)), w)) ∧
      ∀ effect, effects.get? result = some effect →
        effect.moveTo ≠ some "" ∧
        (∃ responses, responsesOf p.auxiliaries = .ok responses ∧
          Resolves key effect responses unlocked known w r) ∧
        (AllPass w.host.environment w.host.runner w.host.calls effect.sideEffects ∨
          ∃ before s e, StopsAfter w.host.environment w.host.runner w.host.calls
            effect.sideEffects before s e) ∧
        ∀ before s f, StopsAfter w.host.environment w.host.runner w.host.calls effect.sideEffects
            before s (.fault f) →
          (f.kind = .invalidEffectSpec ∧
            (sideEffectKind s = .str "unlock" ∨ sideEffectKind s = .str "shell")) ∨
          (f.kind = .unknownSideEffect ∧
            sideEffectKind s ≠ .str "unlock" ∧ sideEffectKind s ≠ .str "shell") ∨
          (f.kind = .processFailed ∧
            sideEffectKind s = .str "shell" ∧ ∃ command, sideEffectValue s = .str command) := by
  intro r
  have hresponses := responsesOf_runPipeline hrun
  have hunknown : result ∉ effects.keys →
      r = (.error (.fault (.unknownResult result effects.keys)), w) := by
    intro hresult
    have hnone := Table.get?_eq_none hresult
    show (resolveEffect key result effects p.auxiliaries unlocked known).perform w = _
    unfold resolveEffect
    rw [hnone]
    rfl
  have hresolves : ∀ effect, effects.get? result = some effect →
      Resolves key effect (shown other steps text u) unlocked known w r := fun effect heffect =>
    resolves_resolveEffect heffect hresponses key unlocked known w
  refine ⟨⟨fun ⟨f, hf, hkind⟩ hresult => ?known,
      fun hresult => ⟨_, congrArg Prod.fst (hunknown hresult), rfl⟩⟩,
    hunknown, fun effect heffect => ⟨?goal, ⟨_, hresponses, hresolves effect heffect⟩,
      allPass_or_stopsAfter _ _ _ _, fun before s f hstops => hstops.stops.kind⟩⟩
  case known =>
    -- no failure of an effect is of this kind
    obtain ⟨effect, heffect⟩ :=
      Option.isSome_iff_exists.mp ((Table.isSome_get? effects result).mpr hresult)
    exact (hresolves effect heffect).kind_ne hf hkind
  case goal =>
    obtain ⟨raw, -, hraw⟩ := of_mem_mapValuesM heffects (Table.mem_of_get? heffect)
    exact goals_effect hraw

/-- Two effects of a task. One unlocks, a command ends, and the next side effect is of no type that is
known: its fault ends it all, the command has been called, and what follows has not. The other one
comes to its end and completes the lesson. -/
theorem resolved_in_order_twoEffects :
    let key : TaskKey := ("l", "t")
    let unlock : Json := .obj [("type", .str "unlock"), ("value", .arr [.str "a", .int 1])]
    let command : Json := .obj [("type", .str "shell"), ("value", .str "ls")]
    let strange : Json := .obj [("type", .str "sing")]
    let sings : Json :=
      .obj [("reply", .str "Well done"), ("side_effects", .arr [unlock, command, strange, command])]
    let completes : Json :=
      .obj [("reply", .str "Well done"), ("side_effects", .arr [unlock, command, unlock]),
        ("completes_lesson", .int 1), ("move_to", .str "")]
    let effects : Table String Effect :=
      [("sung", ⟨.str "Well done", [unlock, command, strange, command], false, none⟩),
        ("done", ⟨.str "Well done", [unlock, command, unlock], true, none⟩)]
    let p : Progress := ⟨"done", [responseOf "wrapped" (.str "done")]⟩
    let w := World.fresh Host.bare ⟨[], [], none⟩
    let sung := (resolveEffect key "sung" effects p.auxiliaries ["a"] []).perform w
    let done := (resolveEffect key "done" effects p.auxiliaries ["a"] ["k"]).perform w
    (runPipeline key [⟨.wrappedOutput, .null⟩] "done").perform w = (.ok p, w) ∧
      mapValuesM (fun _ => Effect.ofJson) [("sung", sings), ("done", completes)] = .ok effects ∧
      sung.1 = .error (.fault (.unknownSideEffect (.str "sing") strange)) ∧
      sung.2.host.calls = [Shell.callOf "ls" []] ∧
      done.1 = .ok
        { responses := [.obj [("type", .str "wrapped"), ("value", .str "done")],
            .obj [("type", .str "scrolled"), ("value", .str "Well done")]]
          unlocked := ["a", "1"]
          known := ["k", "l"]
          moveTo := "" } ∧
      done.2.host.calls = [Shell.callOf "ls" []] := by
  intro key unlock command strange sings completes effects p w sung done
  have hrun : (runPipeline key [⟨.wrappedOutput, .null⟩] "done").perform w = (.ok p, w) := rfl
  have heffects : mapValuesM (fun _ => Effect.ofJson) [("sung", sings), ("done", completes)]
      = .ok effects := rfl
  have hreply : ∀ text, Presentable (.str text) := fun text => .inr (.inl ⟨text, rfl⟩)
  have hunlock : ∀ calls, Passes [] w.host.runner calls unlock := fun _ => .unlock rfl (.inl ⟨_, rfl⟩)
  have hcommand : ∀ calls, Passes [] w.host.runner calls command := fun _ => .shell rfl rfl rfl
  have hother : ∀ name, "sing" ≠ name → sideEffectKind strange ≠ .str name := fun name hne h =>
    hne (Json.str.inj h)
  have hstops : StopsAfter [] w.host.runner [] [unlock, command, strange, command] [unlock, command]
      strange (.fault (.unknownSideEffect (.str "sing") strange)) :=
    ⟨⟨[command], rfl⟩, ⟨hunlock _, hcommand _, trivial⟩,
      .unknown (hother _ (by decide)) (hother _ (by decide))⟩
  have hall : AllPass [] w.host.runner [] [unlock, command, unlock] :=
    ⟨hunlock _, hcommand _, hunlock _, trivial⟩
  -- the first effect stops at its third side effect
  obtain ⟨-, -, hsung⟩ := resolved_in_order hrun heffects key "sung" ["a"] [] w
  obtain ⟨-, ⟨_, -, hstopped⟩, -, -⟩ := hsung _ rfl
  obtain ⟨j, hstopped⟩ := hstopped.stops (hreply _) _ _ _ hstops
  -- the second one leads out of the lesson, having no goal of its own
  obtain ⟨-, -, hdone⟩ := resolved_in_order hrun heffects key "done" ["a"] ["k"] w
  obtain ⟨-, ⟨responses, hresponses, hended⟩, -, -⟩ := hdone _ rfl
  obtain ⟨goal, k, hgoal, hended⟩ := hended.ends (hreply _) hall
  obtain rfl : goal = "" := by
    cases hgoal with
    | goal h => cases h
    | completed => rfl
    | again _ h => cases h
  have hresponses : Except.ok [.obj [("type", .str "wrapped"), ("value", .str "done")]]
      = (.ok responses : Except Failure (List Json)) := hresponses
  cases hresponses
  exact ⟨hrun, heffects, congrArg Prod.fst hstopped, congrArg (fun a => a.2.host.calls) hstopped,
    congrArg Prod.fst hended, congrArg (fun a => a.2.host.calls) hended⟩

end Tutor
