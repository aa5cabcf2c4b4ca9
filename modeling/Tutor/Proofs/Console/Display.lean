import Tutor.Console.Play
import Tutor.Proofs.Service.Responses

namespace Tutor

/-!
# What the player gets to see of an attempt

An attempt hands its responses over as JSON text, and the console reads them back to print them.

* `Console.lineOf`, `Console.perform_printAll` — each response that is an object is one line;
* `Console.Delivered` — responses that go through JSON as they are, and are printed one after the
  other; `Console.delivered_write` is that plain objects are;
* `Console.attempt_displayed` — so are the responses of an attempt.
-/

/-- The world once some lines were printed. -/
def World.printed (w : World) (lines : List String) : World :=
  { w with journal := (lines.map Entry.line).reverse ++ w.journal }

namespace Console

open Service (outcomeOf)

/-! ### Lines -/

/-- The line of a response: the text of its value, if it has one; wrapped output is trimmed and
marked. -/
def lineOf (response : Json) : String :=
  let value := (response.getD "value" (.str "")).text
  if (response.getD "type" .null).isStr "wrapped" then "> " ++ Text.trimmed value else value

/-- Responses that are objects are printed, a line each. -/
theorem perform_printAll {responses : List Json} (h : ∀ r ∈ responses, ∃ members, r = .obj members)
    (u : World) :
    (printAll responses).perform u = (.ok (), u.printed (responses.map lineOf)) := by
  induction responses generalizing u with
  | nil => rfl
  | cons r rest ih =>
    obtain ⟨members, rfl⟩ := h r List.mem_cons_self
    have hline : (Act.ofExcept (responseLine (.obj members))).perform u
        = (.ok (lineOf (.obj members)), u) := Act.perform_ofExcept _ u
    rw [printAll, Act.perform_bind_ok hline]
    have hrest := ih (fun s hs => h s (List.mem_cons_of_mem _ hs))
      { u with journal := .line (lineOf (.obj members)) :: u.journal }
    refine hrest.trans ?_
    unfold World.printed
    rw [List.map_cons, List.map_cons, List.reverse_cons, List.append_assoc]
    rfl

/-- The responses go through JSON as they are: the text is read back as the list of them, and it is
printed, a line for each of them in order. -/
structure Delivered (responses : List Json) (text : String) : Prop where
  written : text = (Json.arr responses).write
  read : readJson text = .ok (.arr responses)
  objects : ∀ r ∈ responses, ∃ members, r = .obj members
  printed : ∀ u : World,
    (printResponses text).perform u = (.ok (), u.printed (responses.map lineOf))

/-- Objects that are plain are delivered. -/
theorem delivered_write {responses : List Json}
    (h : ∀ r ∈ responses, r.IsPlain ∧ ∃ members, r = .obj members) :
    Delivered responses (Json.arr responses).write := by
  have hplain : (Json.arr responses).IsPlain :=
    Json.itemsPlain_iff.mpr fun r hr => (h r hr).1
  have hread : readJson (Json.arr responses).write = .ok (.arr responses) := readJson_write hplain
  have hobjects : ∀ r ∈ responses, ∃ members, r = .obj members := fun r hr => (h r hr).2
  refine ⟨rfl, hread, hobjects, fun u => ?_⟩
  unfold printResponses
  rw [Act.perform_bind_ok (Act.perform_ofExcept_eq hread u)]
  exact (Act.perform_bind_ok (Act.perform_ofExcept _ u)).trans (perform_printAll hobjects u)

/-- A response with a type and a value that is a string is plain. -/
theorem isPlain_response (kind value : String) :
    (Json.obj [("type", .str kind), ("value", .str value)]).IsPlain :=
  ⟨by simp [Table.keys], trivial, trivial, trivial⟩

/-- The response of a reply is a plain object if the reply is tidy and holds no double. -/
theorem of_mem_repliesOf {reply r : Json} (htidy : reply.Tidy) (hdoubles : ¬ reply.HoldsDouble)
    (h : r ∈ repliesOf reply) : r.IsPlain ∧ ∃ members, r = .obj members := by
  unfold repliesOf at h
  split at h
  · cases h
  · obtain rfl := List.mem_singleton.mp h
    exact ⟨isPlain_response "scrolled" _, _, rfl⟩
  · obtain rfl := List.mem_singleton.mp h
    exact ⟨Json.isPlain_of_tidy _ htidy hdoubles, _, rfl⟩
  · cases h

variable {key : TaskKey} {input text next : String} {w w' : World}

/-- **What an attempt answers reaches the player as it is.** The lessons were read from a text, and
the replies of the task hold no doubles. Then the responses that an attempt hands over are read back
as those of its outcome, each of them an object, and are printed, one line for each, in order. A
reply that is a string is the last line as it is, and the text that reaches a step for wrapped
output is a line of its own, trimmed and marked. -/
theorem attempt_displayed (hread : w.catalog.Read)
    (hdoubles : ∀ t code effect, w.catalog.task? key.1 key.2 = some t →
      t.effects.get? code = some effect → ¬ effect.reply.HoldsDouble)
    (h : (Service.attempt key input).perform w = (.ok (text, next), w')) :
    ∃ outcome v, (outcomeOf key input).perform w = (.ok outcome, v) ∧
      Delivered outcome.responses text ∧
      ∃ t steps p u j effect, w.catalog.task? key.1 key.2 = some t ∧
        t.mapper.mapM Step.ofJson = .ok steps ∧
        (runPipeline key steps input).perform { w with journal := j } = (.ok p, u) ∧
        t.effects.get? p.text = some effect ∧
        (∀ reply, effect.reply = .str reply → reply ≠ "" →
          (outcome.responses.map lineOf).getLast? = some reply) ∧
        ∀ before value after q u', steps = before ++ ⟨.wrappedOutput, value⟩ :: after →
          (runPipeline key before input).perform w = (.ok q, u') →
          ∃ earlier later, outcome.responses.map lineOf
            = earlier ++ ("> " ++ Text.trimmed q.text) :: later := by
  obtain ⟨outcome, v, houtcome, rfl⟩ := Service.of_attempt_ok h
  obtain ⟨t, steps, p, u, j, effect, ht, hsteps, hrun, heffect, -, hresponses⟩ :=
    Service.of_outcomeOf_ok houtcome
  refine ⟨outcome, v, houtcome, delivered_write fun r hr => ?plain, t, steps, p, u, j, effect, ht,
    hsteps, hrun, heffect, fun reply hreply hne => ?reply,
    fun before value after q u' hsplit hbefore => ?wrapped⟩
  case plain =>
    -- a response is shown by a step, or it is the reply
    rw [hresponses, List.mem_append] at hr
    rcases hr with hshown | hreply
    · obtain ⟨kind, value, rfl⟩ := Service.of_mem_shown hshown
      exact ⟨isPlain_response kind value, _, rfl⟩
    · exact of_mem_repliesOf (hread.tidy_reply ht heffect) (hdoubles t _ effect ht heffect) hreply
  case reply =>
    -- a string is replied as one response, the last one
    have hone : repliesOf (.str reply)
        = [.obj [("type", .str "scrolled"), ("value", .str reply)]] := by
      unfold repliesOf
      split <;> simp_all
    rw [hresponses, hreply, hone, List.map_append, List.map_singleton, List.getLast?_concat]
    rfl
  case wrapped =>
    -- the step adds its response to those of the steps before it
    rw [hresponses, hsplit, Service.shown_append hbefore, List.append_assoc, List.map_append]
    exact ⟨_, _, rfl⟩

/-- A bundled task: a message to those who wait, what the command has said, and the reply. -/
theorem attempt_displayed_bundled :
    let key : TaskKey := ("intro", "begin")
    let host : Host := { Host.bare with runner := fun _ _ => .finished ⟨0, "𝄞 été\n", ""⟩ }
    let w : World :=
      { World.fresh host ⟨bundledLessons, [], none⟩ with connection := .memory ⟨1, some []⟩ }
    ∃ text next w', (Service.attempt key "whoami").perform w = (.ok (text, next), w') ∧
      (printResponses text).perform w = (.ok (),
        w.printed ["Wait for it", "> 𝄞 été", "That's you! Ready for the next step?"]) := by
  intro key host w
  have hread : w.catalog.Read := .inl rfl
  -- both replies of the task are strings
  have hdoubles : ∀ t code effect, w.catalog.task? key.1 key.2 = some t →
      t.effects.get? code = some effect → ¬ effect.reply.HoldsDouble := by
    intro t code effect ht heffect
    have hmem := Table.mem_of_get? heffect
    cases ht
    simp only [List.mem_cons, Prod.mk.injEq, List.not_mem_nil, or_false] at hmem
    rcases hmem with ⟨-, rfl⟩ | ⟨-, rfl⟩ <;> exact Json.not_holdsDouble_str _
  have hsome : ((Service.attempt key "whoami").perform w).1.toOption.isSome = true := by
    decide +kernel
  have hlines : ((outcomeOf key "whoami").perform w).1.toOption.map (·.responses.map lineOf)
      = some ["Wait for it", "> 𝄞 été", "That's you! Ready for the next step?"] := by
    decide +kernel
  cases hattempt : (Service.attempt key "whoami").perform w with
  | mk r w' =>
    rw [hattempt] at hsome
    cases r with
    | error e => cases hsome
    | ok answer =>
      obtain ⟨outcome, v, houtcome, hdelivered, -⟩ := attempt_displayed hread hdoubles hattempt
      rw [houtcome] at hlines
      exact ⟨_, _, w', rfl, Option.some.inj hlines ▸ hdelivered.printed w⟩

end Console

end Tutor
