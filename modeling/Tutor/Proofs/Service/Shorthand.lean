import Tutor.Proofs.Course.Shorthand
import Tutor.Proofs.Service.Agreement
import Tutor.Proofs.Service.Sessions

namespace Tutor

/-!
# Shorthand is only notation

The service does the same with lessons that use shorthand and with the same lessons written out.
Shorthand is resolved at three times: inputs when a document is read, steps when an input is run
through a task, replies when the effect of a result is applied. Only a complaint about a step that
does not exist shows which of the two was written.

* `Failure.Requoted` — the same failure, but for how such a complaint quotes the step;
* `World.Expanded` — the same world, with the lessons written out;
* `Act.Indifferent` — the operation does the same in both; `Service.indifferent_attempt`,
  `Service.indifferent_describe`, `Service.indifferent_summaries` — those that look at lessons are;
* `Service.Inquiry`, `Service.session` — what a service is asked for, and what it answers;
* `Service.session_expanded` — a session has the same answers with a document and with the document
  written out.
-/

open Act (Follows Paired)

/-! ### Steps and replies -/

/-- The second failure is the first one, or both complain about the same step, by its name alone in
the first and with the name written out in the second. -/
def Failure.Requoted (e e' : Failure) : Prop :=
  e' = e ∨ ∃ name, e = .fault (.unknownStep name (.str name)) ∧
    e' = .fault (.unknownStep name (Json.str name).expandedStep)

theorem Failure.Requoted.refl (e : Failure) : e.Requoted e := .inl rfl

/-- The responses of a reply do not depend on whether it is written out. -/
theorem replyResponses_expanded (reply : Json) :
    replyResponses reply.expandedReply = replyResponses reply := by
  cases reply with
  | str text =>
    by_cases h : text = ""
    · rw [h]
      rfl
    · have hexpanded : (Json.str text).expandedReply
          = .obj [("type", .str "scrolled"), ("value", .str text)] := by
        simp [Json.expandedReply]
      rw [hexpanded]
      simp [replyResponses, replyContent, h, Except.map]
  | _ => rfl

/-- A step that is written out is the same step, or there is none of that name. -/
theorem Step.ofJson_expanded (entry : Json) :
    Step.ofJson entry.expandedStep = Step.ofJson entry ∨
      ∃ name, Step.ofJson entry = .error (.unknownStep name (.str name)) ∧
        Step.ofJson entry.expandedStep
          = .error (.unknownStep name (Json.str name).expandedStep) := by
  cases entry with
  | str name =>
    have hshort : normalizeStep (.str name) = .ok (Json.str name).expandedStep := rfl
    have hfull : normalizeStep (Json.str name).expandedStep = .ok (Json.str name).expandedStep := rfl
    have hname : ((Json.str name).expandedStep.getD "type" .null).text = name := rfl
    unfold Step.ofJson
    simp only [hshort, hfull, bind, Except.bind, hname]
    cases StepKind.ofName? name with
    | some kind => exact .inl rfl
    | none => exact .inr ⟨name, rfl, rfl⟩
  | _ => exact .inl rfl

/-- Steps that are written out are the same steps, or there is one that does not exist. -/
theorem steps_expanded (mapper : List Json) :
    (mapper.map Json.expandedStep).mapM Step.ofJson = mapper.mapM Step.ofJson ∨
      ∃ name, mapper.mapM Step.ofJson = .error (.unknownStep name (.str name)) ∧
        (mapper.map Json.expandedStep).mapM Step.ofJson
          = .error (.unknownStep name (Json.str name).expandedStep) := by
  induction mapper with
  | nil => exact .inl rfl
  | cons entry rest ih =>
    rw [List.map_cons, List.mapM_cons, List.mapM_cons]
    -- the first entry with a flaw decides, and it is the same in both
    rcases Step.ofJson_expanded entry with h | ⟨name, h, h'⟩
    · rw [h]
      cases Step.ofJson entry with
      | error f => exact .inl rfl
      | ok step =>
        rcases ih with ih | ⟨name, ih, ih'⟩
        · rw [ih]
          exact .inl rfl
        · rw [ih, ih']
          exact .inr ⟨name, rfl, rfl⟩
    · rw [h, h']
      exact .inr ⟨name, rfl, rfl⟩

/-- Applying the effect of a result does not depend on whether replies are written out. -/
theorem resolveEffect_expanded (key : TaskKey) (result : String) (effects : Table String Effect)
    (auxiliaries : List Json) (unlocked known : List String) :
    resolveEffect key result (Table.mapValues Effect.expanded effects) auxiliaries unlocked known
      = resolveEffect key result effects auxiliaries unlocked known := by
  unfold resolveEffect
  rw [Table.get?_mapValues, Table.keys_mapValues]
  cases Table.get? effects result with
  | none => rfl
  | some effect =>
    dsimp only [Option.map_some]
    have hreply : replyResponses effect.expanded.reply = replyResponses effect.reply :=
      replyResponses_expanded effect.reply
    rw [hreply]
    rfl

/-! ### Worlds -/

/-- The catalog with its lessons written out. -/
def Catalog.expanded (c : Catalog) : Catalog :=
  { c with lessons := c.lessons.map Lesson.expanded }

/-- The second world is the first one with its lessons written out. -/
def World.Expanded (w u : World) : Prop :=
  u = { w with catalog := w.catalog.expanded }

/-- What most operations look at is the same when lessons are written out. -/
theorem Act.discreet_expanded : Discreet World.Expanded where
  environment h := by rw [h]
  files h := by rw [h]
  connection h := by rw [h]
  tracker h := by rw [h]
  note e := by rintro w _ rfl; exact ⟨rfl, rfl⟩
  call c := by rintro w _ rfl; exact ⟨rfl, rfl⟩
  setFiles files := by rintro w _ rfl; exact ⟨rfl, rfl⟩
  connect c := by rintro w _ rfl; exact ⟨rfl, rfl⟩
  update t := by rintro w _ rfl; exact ⟨rfl, rfl⟩

/-- The operation does the same when the lessons are written out. -/
abbrev Act.Indifferent {α : Type} (a : Act α) : Prop :=
  Follows World.Expanded Eq Failure.Requoted a a

open Act (Indifferent discreet_expanded)

/-- Drawing a number does the same when lessons are written out. -/
theorem Act.respects_draw_expanded (count : Nat) : Act.Respects World.Expanded (draw count) := by
  rintro w _ rfl
  exact ⟨rfl, rfl⟩

namespace Catalog

/-- The lessons of a name, written out. -/
theorem named_expanded (c : Catalog) (name : String) :
    c.expanded.named name = (c.named name).map Lesson.expanded := by
  unfold named expanded
  rw [List.filter_map]
  rfl

/-- The lesson of a name, written out. -/
theorem lesson?_expanded (c : Catalog) (name : String) :
    c.expanded.lesson? name = (c.lesson? name).map Lesson.expanded := by
  unfold lesson?
  rw [named_expanded]
  match c.named name with
  | [] => rfl
  | [l] => rfl
  | l :: l' :: rest => rfl

/-- Looking a lesson up finds it written out. -/
theorem follows_lookup (name : String) :
    Follows World.Expanded (fun found found' => found' = found.map Lesson.expanded)
      Failure.Requoted (lookup name) (lookup name) := by
  intro w u hwu
  unfold lookup
  rw [Act.perform_bind_ok (Act.perform_get w), Act.perform_bind_ok (Act.perform_get u)]
  have hcatalog : u.catalog = w.catalog.expanded := by rw [hwu]
  rw [hcatalog]
  dsimp only
  -- both catalogs have as many lessons of the name, so that both log the same
  rw [named_expanded, lesson?_expanded, List.length_map]
  have hlog := (discreet_expanded.note (.log .warning .catalog
    s!"Expected a single lesson named {name} but found {(w.catalog.named name).length}")).follows
      Failure.Requoted.refl
  refine (?_ : Follows World.Expanded _ Failure.Requoted _ _) w u hwu
  exact Follows.ite (hlog.bind fun _ _ _ => Follows.pure rfl) (Follows.pure rfl)

/-- Looking a task up finds it written out. -/
theorem follows_task (key : TaskKey) :
    Follows World.Expanded (fun t t' => t' = t.expanded) Failure.Requoted (task key) (task key) := by
  unfold task
  refine (follows_lookup key.1).bind fun found found' h => ?_
  have hbind : (found'.bind fun l => l.practice.get? key.2)
      = (found.bind fun l => l.practice.get? key.2).map Task.expanded := by
    rw [h]
    cases found with
    | none => rfl
    | some l => exact Table.get?_mapValues _ _ _
  rw [hbind]
  cases found.bind fun l => l.practice.get? key.2 with
  | none => exact Follows.refuse (.refl _)
  | some t => exact Follows.pure rfl

end Catalog

/-! ### Operations -/

/-- Reading a mapper gives the same steps when they are written out. -/
theorem follows_compilePipeline (key : TaskKey) (mapper : List Json) :
    Follows World.Expanded Eq Failure.Requoted (compilePipeline key mapper)
      (compilePipeline key (mapper.map Json.expandedStep)) := by
  have hsteps : Follows World.Expanded Eq Failure.Requoted
      (Act.ofFault (mapper.mapM Step.ofJson))
      (Act.ofFault ((mapper.map Json.expandedStep).mapM Step.ofJson)) := by
    rcases steps_expanded mapper with h | ⟨name, h, h'⟩
    · rw [h]
      exact (Act.Agree.ofFault _).follows .refl
    · rw [h, h']
      exact Follows.refuse (.inr ⟨name, rfl, rfl⟩)
  unfold compilePipeline
  refine hsteps.bind fun steps _ h => ?_
  rw [← h]
  exact ((discreet_expanded.note _).follows .refl).bind fun _ _ _ => Follows.pure rfl

namespace Service

/-- An attempt does the same when the lessons are written out. -/
theorem indifferent_attempt (key : TaskKey) (input : String) :
    Indifferent (attempt key input) := by
  unfold attempt evaluate
  refine (Catalog.follows_task key).bind fun t t' ht => ?_
  subst ht
  have hsteps := follows_compilePipeline key t.mapper
  have hevaluate := hsteps.bind fun steps _ h => by
    rw [← h]
    exact (respects_runPipeline discreet_expanded Act.respects_draw_expanded key steps
      input).follows .refl
  refine hevaluate.bind fun result _ h => ?_
  rw [← h]
  have hconclude : conclude key t.expanded result = conclude key t result := by
    unfold conclude Task.expanded
    dsimp only
    simp only [resolveEffect_expanded]
  rw [hconclude]
  exact (respects_conclude discreet_expanded key t result).follows .refl

/-- Looking names up finds the lessons written out. -/
theorem follows_lookupAll (names : List String) :
    Follows World.Expanded (fun found found' => found' = found.map (Option.map Lesson.expanded))
      Failure.Requoted (lookupAll names) (lookupAll names) := by
  induction names with
  | nil => exact Follows.pure rfl
  | cons name rest ih =>
    rw [lookupAll]
    refine (Catalog.follows_lookup name).bind fun l l' hl => ih.bind fun found found' h => ?_
    rw [hl, h]
    exact Follows.pure rfl

/-- Lists of lessons show the same when the lessons are written out. -/
theorem indifferent_summaries (names : List String) (client : String) :
    Indifferent (summaries names client) := by
  unfold summaries
  refine (follows_lookupAll names).bind fun found found' h => Follows.pure ?_
  rw [h, List.filterMap_map]
  refine congrArg (fun shown => List.filterMap shown found) (funext fun l => ?_)
  cases l <;> rfl

/-- Describing a task does the same when the lessons are written out, if announcing does. -/
theorem indifferent_describe {b : Boundary} (hb : ∀ events, Indifferent (b.announce events))
    (key : TaskKey) : Indifferent (describe b key) := by
  refine follows_describe discreet_expanded .refl hb ?_
  refine (Catalog.follows_task key).mono fun t t' ht => ?_
  rw [ht]
  exact ⟨rfl, rfl⟩

/-! ### Sessions -/

/-- What a service answers. -/
inductive Answer
  | done
  | reloaded (lessons : Bool)
  | task (prompt input : String)
  | progress (responses next : String)
  | lessons (found : List Summary)
  | clues (found : List (String × String))
  | warnings (found : List String)

/-- Carry out an operation and return the answer to it. -/
def Operation.ask (b : Boundary) (o : Operation) : Act Answer := do
  match o with
  | .describe key =>
    let told ← Service.describe b key
    return .task told.1 told.2
  | .attempt key input =>
    let told ← Service.attempt key input
    return .progress told.1 told.2
  | .notify event =>
    Service.notify b event
    return .done
  | .reload => return .reloaded (← Catalog.reload)
  | .registerClue kind content =>
    Service.registerClue kind content
    return .done
  | .setBackground uri =>
    Service.setBackground uri
    return .done
  | .unlockedLessons client => return .lessons (← Service.unlockedLessons client)
  | .knownLessons client => return .lessons (← Service.knownLessons client)
  | .outside change =>
    modify fun w => { w with host := change w.host }
    return .done

/-- An operation leaves the same world whether its answer is returned or not. -/
theorem world_ask (b : Boundary) (o : Operation) (w : World) :
    ((o.ask b).perform w).2 = o.after b w := by
  cases o <;> exact Act.world_bind_pure _ _ w

/-- What a service is asked for: its operations, what it keeps, and to close its settings. -/
inductive Inquiry
  | operation (o : Operation)
  | clues
  | warnings
  | close

/-- Carry out what is asked for and return the answer. -/
def Inquiry.ask (b : Boundary) (i : Inquiry) : Act Answer := do
  match i with
  | .operation o => o.ask b
  | .clues => return .clues (← Settings.getClues)
  | .warnings => return .warnings (← get).catalog.warnings
  | .close =>
    Settings.close
    return .done

/-- The answers to some inquiries, one after the other, and the world after them. -/
def session (b : Boundary) : List Inquiry → World → List (Except Failure Answer) × World
  | [], w => ([], w)
  | i :: rest, w =>
    let first := (i.ask b).perform w
    let others := session b rest first.2
    (first.1 :: others.1, others.2)

/-- A session of operations ends in the world after these operations. -/
theorem world_session (b : Boundary) (operations : List Operation) (w : World) :
    (session b (operations.map .operation) w).2 = finish b operations w := by
  induction operations generalizing w with
  | nil => rfl
  | cons o rest ih =>
    have hfirst : ((Inquiry.operation o).ask b).perform w
        = (((o.ask b).perform w).1, o.after b w) := Prod.ext rfl (world_ask b o w)
    rw [List.map_cons, session, hfirst]
    exact ih _

end Service

/-- The boundary does the same whether lessons are written out or not. -/
structure Boundary.Neutral (b : Boundary) : Prop where
  announce : ∀ events, Indifferent (b.announce events)
  signal : ∀ key, Indifferent (b.signal key)

namespace Service

variable {b : Boundary}

/-- Inquiries other than to load the lessons again are answered the same when they are written out.
-/
theorem indifferent_ask (hb : b.Neutral) {i : Inquiry} (hi : i ≠ .operation .reload) :
    Indifferent (i.ask b) := by
  -- an answer only puts a name to what was returned
  have hanswer : ∀ {α : Type} {a : Act α} (f : α → Answer), Indifferent a →
      Indifferent (a >>= fun x => pure (f x)) :=
    fun f ha => ha.bind fun x y h => Follows.pure (congrArg f h)
  have hnames : ∀ key, Indifferent (Settings.getStrings key) := fun key =>
    (Settings.respects_getStrings discreet_expanded key).follows .refl
  cases i with
  | operation o =>
    cases o with
    | describe key => exact hanswer _ (indifferent_describe hb.announce key)
    | attempt key input => exact hanswer _ (indifferent_attempt key input)
    | notify event => exact hanswer _ (follows_notify discreet_expanded .refl hb.signal event)
    | reload => exact absurd rfl hi
    | registerClue kind content =>
      exact hanswer _ ((respects_registerClue discreet_expanded kind content).follows .refl)
    | setBackground uri =>
      exact hanswer _ ((respects_setBackground discreet_expanded uri).follows .refl)
    | unlockedLessons client =>
      -- summaries show nothing of tasks
      refine hanswer _ ((hnames _).bind fun stored _ h => ?_)
      rw [← h]
      exact indifferent_summaries _ client
    | knownLessons client =>
      refine hanswer _ ((hnames _).bind fun stored _ h => ?_)
      rw [← h]
      exact indifferent_summaries _ client
    | outside change =>
      refine hanswer _ ?_
      rintro w _ rfl
      exact ⟨rfl, rfl⟩
  | clues => exact hanswer _ ((Settings.respects_getClues discreet_expanded).follows .refl)
  | warnings =>
    rintro w _ rfl
    exact ⟨rfl, rfl⟩
  | close => exact hanswer _ ((discreet_expanded.connect .closed).follows .refl)

/-- Carry out what is asked for, whatever the answers are, up to the first failure. -/
def askAll (b : Boundary) : List Inquiry → Act Unit
  | [] => return
  | i :: rest => do
    let _ ← i.ask b
    askAll b rest

end Service

/-! ### Boundaries -/

namespace Boundary

/-- A boundary that puts every call into the journal before it does anything else. -/
def recorded (b : Boundary) : Boundary where
  announce events := do
    Act.note (.interest events)
    b.announce events
  signal key := do
    Act.note (.signal key.1 key.2)
    b.signal key

/-- A boundary that calls back: when it is called, it asks the service for something. -/
def asking (b : Boundary) (announced : List String → List Service.Inquiry)
    (signalled : TaskKey → List Service.Inquiry) : Boundary where
  announce events := Service.askAll b (announced events)
  signal key := Service.askAll b (signalled key)

/-- A boundary that writes log records is neutral. -/
theorem neutral_logging : logging.Neutral where
  announce _ := (discreet_expanded.note _).follows .refl
  signal _ := (discreet_expanded.note _).follows .refl

/-- Recording the calls leaves a boundary neutral. -/
theorem Neutral.recorded {b : Boundary} (hb : b.Neutral) : b.recorded.Neutral where
  announce events := ((discreet_expanded.note _).follows .refl).bind fun _ _ _ => hb.announce events
  signal key := ((discreet_expanded.note _).follows .refl).bind fun _ _ _ => hb.signal key

/-- A boundary that calls back is neutral, unless it loads the lessons again. -/
theorem Neutral.asking {b : Boundary} (hb : b.Neutral)
    {announced : List String → List Service.Inquiry} {signalled : TaskKey → List Service.Inquiry}
    (hannounced : ∀ events, ∀ i ∈ announced events, i ≠ .operation .reload)
    (hsignalled : ∀ key, ∀ i ∈ signalled key, i ≠ .operation .reload) :
    (b.asking announced signalled).Neutral := by
  have hall : ∀ inquiries : List Service.Inquiry, (∀ i ∈ inquiries, i ≠ .operation .reload) →
      Indifferent (Service.askAll b inquiries) := by
    intro inquiries hi
    induction inquiries with
    | nil => exact Follows.pure rfl
    | cons i rest ih =>
      rw [List.forall_mem_cons] at hi
      rw [Service.askAll]
      exact (Service.indifferent_ask hb hi.1).bind fun _ _ _ => ih hi.2
  exact ⟨fun events => hall _ (hannounced events), fun key => hall _ (hsignalled key)⟩

end Boundary

namespace Service

variable {b : Boundary}

/-- A session has the same answers when the lessons are written out. -/
theorem session_of_expanded (hb : b.Neutral) {inquiries : List Inquiry}
    (hi : ∀ i ∈ inquiries, i ≠ .operation .reload) {w u : World} (hwu : w.Expanded u) :
    List.Forall₂ (Paired Eq Failure.Requoted) (session b inquiries w).1 (session b inquiries u).1 ∧
      (session b inquiries w).2.Expanded (session b inquiries u).2 := by
  induction inquiries generalizing w u with
  | nil => exact ⟨.nil, hwu⟩
  | cons i rest ih =>
    rw [List.forall_mem_cons] at hi
    obtain ⟨hanswer, hworld⟩ := indifferent_ask hb hi.1 w u hwu
    obtain ⟨hothers, hlast⟩ := ih hi.2 hworld
    exact ⟨.cons hanswer hothers, hlast⟩

end Service

/-- The world in which these lessons are taught. -/
def World.teaching (w : World) (lessons : List Lesson) : World :=
  { w with catalog := { w.catalog with lessons := lessons } }

namespace Service

variable {b : Boundary}

/-- **Shorthand is only notation.** A document can be read exactly if it can be read with its
shorthand written out. Services with the lessons of the one and of the other give the same answers
to all inquiries, but for how they quote a step that does not exist. They make the same calls to
programs and to the boundary, which the journal records, and they come to worlds that differ in
nothing but the lessons. -/
theorem session_expanded (hb : b.Neutral) (document : Json) :
    ((∃ lessons, lessonsOfJson document = .ok lessons) ↔
      ∃ lessons, lessonsOfJson document.expandedDocument = .ok lessons) ∧
    ∀ short full, lessonsOfJson document = .ok short →
      lessonsOfJson document.expandedDocument = .ok full →
      ∀ (w : World) (inquiries : List Inquiry), (∀ i ∈ inquiries, i ≠ .operation .reload) →
        let outcome := session b.recorded inquiries (w.teaching short)
        let outcome' := session b.recorded inquiries (w.teaching full)
        List.Forall₂ (Paired Eq Failure.Requoted) outcome.1 outcome'.1 ∧
          outcome.2.teaching [] = outcome'.2.teaching [] := by
  constructor
  · rw [lessonsOfJson_expanded]
    cases lessonsOfJson document with
    | error e => exact ⟨nofun, nofun⟩
    | ok lessons => exact ⟨fun _ => ⟨_, rfl⟩, fun _ => ⟨_, rfl⟩⟩
  · -- the lessons of the full document are those of the short one, written out
    intro short full hshort hfull w inquiries hi
    rw [lessonsOfJson_expanded, hshort] at hfull
    have hlessons : full = short.map Lesson.expanded := (Except.ok.inj hfull).symm
    have hwu : (w.teaching short).Expanded (w.teaching full) := by
      rw [hlessons]
      rfl
    obtain ⟨hanswers, hworld⟩ := session_of_expanded hb.recorded hi hwu
    refine ⟨hanswers, ?_⟩
    rw [hworld]
    rfl

/-- The steps that do not exist, as the complaints among answers quote them. -/
def quotes (answers : List (Except Failure Answer)) : List String :=
  answers.filterMap fun
    | .error (.fault (.unknownStep _ spec)) => some spec.write
    | _ => none

/-- A task that waits for an event is attempted as soon as it may go on, by the boundary; another one
has a step that does not exist, and an input that is not told. -/
theorem session_expanded_oops :
    let waiting : Json := .obj [
      ("input", .obj [("type", .str "external_events"), ("settings", .obj [
        ("done", .obj [("events", .arr [.str "e"]), ("notify", .bool true)])])]),
      ("mapper", .arr [.str "check_external_events"]),
      ("effects", .obj [("done", .obj [("reply", .str "Hi")])])]
    let wrong : Json := .obj [("mapper", .arr [.str "input", .str "oops"])]
    let document : Json := .arr [.obj [("name", .str "l"),
      ("practice", .obj [("wait", waiting), ("try", wrong)])]]
    let b := Boundary.logging.recorded.asking (fun _ => [])
      fun key => [.operation (.attempt key "go")]
    let w := { World.fresh Host.bare .empty with connection := .memory ⟨1, some []⟩ }
    let inquiries : List Inquiry := [.operation (.describe ("l", "wait")),
      .operation (.notify "e"), .operation (.describe ("l", "try")),
      .operation (.attempt ("l", "try") "go")]
    b.Neutral ∧ ∃ short full, lessonsOfJson document = .ok short ∧
      lessonsOfJson document.expandedDocument = .ok full ∧
      (∀ i ∈ inquiries, i ≠ .operation .reload) ∧
      let outcome := session b.recorded inquiries (w.teaching short)
      let outcome' := session b.recorded inquiries (w.teaching full)
      List.Forall₂ (Paired Eq Failure.Requoted) outcome.1 outcome'.1 ∧
        outcome.2.teaching [] = outcome'.2.teaching [] ∧
        quotes outcome.1 = ["\"oops\""] ∧
        quotes outcome'.1 = ["\x7b\"type\": \"oops\", \"value\": null\x7d"] := by
  intro waiting wrong document b w inquiries
  have hb : b.Neutral := by
    refine Boundary.neutral_logging.recorded.asking (fun _ _ hi => nomatch hi) fun key i hi => ?_
    rw [List.mem_singleton.mp hi]
    exact nofun
  -- nor does the boundary ask to load the lessons again
  have hi : ∀ i ∈ inquiries, i ≠ .operation .reload := by
    simp only [inquiries, List.forall_mem_cons]
    exact ⟨nofun, nofun, nofun, nofun, nofun⟩
  refine ⟨hb, _, _, rfl, rfl, hi, ?_⟩
  obtain ⟨hanswers, hworld⟩ := (session_expanded hb document).2 _ _ rfl rfl w inquiries hi
  exact ⟨hanswers, hworld, by decide +kernel, by decide +kernel⟩

end Service

end Tutor
