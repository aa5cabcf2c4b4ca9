import Mathlib.Data.Bool.AllAny
import Tutor.Proofs.Console.Moves
import Tutor.Proofs.Text.Spelling

namespace Tutor.Console

/-!
# Lines at the prompt of a task

A line is a command, or it fires an event, or it is an attempt. What it is can be seen from the line
itself, whatever characters it consists of, though it is trimmed and lowered when it is read.

* `Says`, `Fires`, `Means` — the lines that are a command, or fire an event, and what a line means;
* `read_eq_iff` — a line is read as what it means, so that it means one thing;
* `Request.aside?`, `Request.leave?` — what is done for a line that leaves the game at the prompt,
  and where any other line leads;
* `prompt_takes_lines` — what the prompt does with everything that comes in, by induction on it.
-/

open Text (Bare Blank InAnyCase Small)

/-! ### What lines mean -/

/-- Between blanks, the line is this command in any case. -/
def Says (line command : String) : Prop :=
  ∃ before said after, line.toList = before ++ (said ++ after) ∧ Blank before ∧ Blank after ∧
    InAnyCase command.toList said

/-- Between blanks, the line is the start of a line for events in any case, and this name, with more
blanks between them or not. The name is not empty and has no blanks at its ends. -/
def Fires (line name : String) : Prop :=
  ∃ before start gap after,
    line.toList = before ++ (start ++ (gap ++ (name.toList ++ after))) ∧
      Blank before ∧ Blank gap ∧ Blank after ∧ InAnyCase eventStart start ∧ Bare name.toList

/-- All commands. -/
def commands : List String :=
  quitCommands ++ backCommands ++ [reloadCommand]

/-- What a line means: an attempt is all that is no command and fires no event, and it is made with
the line as it is. -/
def Means (line : String) : Request → Prop
  | .quit => ∃ command ∈ quitCommands, Says line command
  | .back => ∃ command ∈ backCommands, Says line command
  | .event name => Fires line name
  | .reload => Says line reloadCommand
  | .attempt text =>
    text = line ∧ (∀ command ∈ commands, ¬ Says line command) ∧ ∀ name, ¬ Fires line name

variable {line name command : String}

/-! ### Commands -/

/-- A command quits, or it leads back, or it is the one that reads the lessons again. -/
theorem mem_commands : command ∈ commands ↔
    command ∈ quitCommands ∨ command ∈ backCommands ∨ command = reloadCommand := by
  rw [commands, List.mem_append, List.mem_append, List.mem_singleton, or_assoc]

/-- A line that says a command is lowered to it once it is trimmed. -/
theorem says_iff (h : command ∈ commands) :
    Says line command ↔ Text.lowered (Text.trim line.toList) = command.toList := by
  have hcommands : ∀ command ∈ commands, command.toList ≠ [] ∧
      command.toList.all fun d => Small d ∧ Text.isBlank d.toNat = false := by decide +kernel
  obtain ⟨hne, hletters⟩ := hcommands command h
  have hall := List.all_iff_forall_prop.mp hletters
  have hlowered := @Text.lowered_eq_iff (Text.trim line.toList) command.toList fun d hd =>
    (hall d hd).1
  constructor
  · rintro ⟨before, said, after, hline, hbefore, hafter, hsaid⟩
    -- what spells a command is not empty and has no blanks
    have hbare : Bare said := by
      refine Text.bare_of_forall (fun hnil => ?_) fun c hc => ?_
      · rw [hnil] at hsaid
        exact hne (List.forall₂_nil_right_iff.mp hsaid)
      · obtain ⟨d, hd, hspells⟩ := hsaid.exists_spells c hc
        rw [Text.isBlank_of_spells (hall d hd).1 hspells]
        exact (hall d hd).2
    rw [hlowered, hline, Text.trim_of_bare hbare hbefore hafter]
    exact hsaid
  · intro h
    obtain ⟨before, after, hline, hbefore, hafter, -⟩ := Text.exists_trim line.toList
    exact ⟨before, _, after, hline, hbefore, hafter, hlowered.mp h⟩

/-! ### Events -/

/-- The start of a line for events is one in lower case without a letter i. -/
theorem small_eventStart : ∀ d ∈ eventStart, Small d ∧ d ≠ 'i' := by
  have hall : eventStart.all fun d => Small d ∧ d ≠ 'i' := by decide +kernel
  exact List.all_iff_forall_prop.mp hall

/-- The start of a line for events begins with a colon, so with a name at its end it is bare. -/
theorem bare_event {start gap name : List Char} (hstart : InAnyCase eventStart start)
    (hname : Bare name) : Bare (start ++ (gap ++ name)) := by
  cases hstart with
  | @cons _ c _ rest hspells _ =>
    refine ⟨List.cons_ne_nil _ _, fun d hd => ?_, fun d hd => hname.last d ?_⟩
    · obtain rfl : c = d := Option.some.inj hd
      exact Text.isBlank_of_spells (by decide) hspells
    · rw [← List.append_assoc, List.getLast?_append_of_ne_nil _ hname.ne_nil] at hd
      exact hd

/-- The start of a line for events ends with a blank, so that a name has to follow where no blank is
at the end. -/
theorem bare_trim_rest {start rest : List Char} (hstart : InAnyCase eventStart start)
    (hbare : Bare (start ++ rest)) : Bare (Text.trim rest) := by
  obtain ⟨before, after, hrest, hbefore, hafter, hnil | htrim⟩ := Text.exists_trim rest
  · exfalso
    have hend : InAnyCase [' '] (start.drop 6) := List.forall₂_drop 6 hstart
    have hblank : Blank (start.drop 6 ++ rest) := by
      refine Blank.append (fun c hc => ?_) ?_
      · obtain ⟨d, hd, hspells⟩ := hend.exists_spells c hc
        obtain rfl := List.mem_singleton.mp hd
        exact Text.isBlank_of_spells (by decide) hspells
      · rw [hrest, hnil]
        exact hbefore.append hafter
    rw [← List.take_append_drop 6 start, List.append_assoc] at hbare
    have hempty := (List.append_eq_nil_iff.mp (hbare.eq_nil_of_append hblank)).1
    rw [hempty] at hend
    cases hend
  · exact htrim

/-- A line fires an event if it is lowered to one that starts so; the name is trimmed, and its case
is left. -/
theorem fires_iff : Fires line name ↔
    eventStart <+: Text.lowered (Text.trim line.toList) ∧
      name = String.ofList (Text.trim ((Text.trim line.toList).drop eventStart.length)) := by
  rw [Text.prefix_lowered_iff small_eventStart]
  constructor
  · rintro ⟨before, start, gap, after, hline, hbefore, hgap, hafter, hstart, hname⟩
    -- all from the colon to the end of the name is what is left when the line is trimmed
    have hbare : Bare (start ++ (gap ++ name.toList)) := bare_event hstart hname
    have htrim : Text.trim line.toList = start ++ (gap ++ name.toList) := by
      have h := Text.trim_of_bare hbare hbefore hafter
      rwa [List.append_assoc, List.append_assoc, ← hline] at h
    have hdrop : (start ++ (gap ++ name.toList)).drop eventStart.length = gap ++ name.toList := by
      rw [hstart.length_eq, List.drop_left]
    refine ⟨⟨start, _, htrim, hstart⟩, ?_⟩
    have hgone := Text.trim_of_bare hname hgap Text.blank_nil
    rw [List.append_nil] at hgone
    rw [htrim, hdrop, hgone, String.ofList_toList]
  · -- what is left is taken apart again: a start, a gap, and a name that is bare
    rintro ⟨⟨start, rest, htrim, hstart⟩, rfl⟩
    have hdrop : (start ++ rest).drop eventStart.length = rest := by
      rw [hstart.length_eq, List.drop_left]
    obtain ⟨before, after, hline, hbefore, hafter, hnil | hbare⟩ := Text.exists_trim line.toList
    · rw [hnil] at htrim
      rw [(List.append_eq_nil_iff.mp htrim.symm).1] at hstart
      cases hstart
    · rw [htrim] at hline hbare
      rw [htrim, hdrop]
      obtain ⟨gap, tail, hrest, hgap, htail, -⟩ := Text.exists_trim rest
      refine ⟨before, start, gap, tail ++ after, ?_, hbefore, hgap, htail.append hafter, hstart, ?_⟩
      · rw [String.toList_ofList, hline]
        nth_rewrite 1 [hrest]
        simp only [List.append_assoc]
      · rw [String.toList_ofList]
        exact bare_trim_rest hstart hbare

/-! ### Reading -/

/-- No command starts like a line for events. -/
theorem not_prefix_command : ∀ command ∈ commands, ¬ eventStart <+: command.toList := by
  decide +kernel

/-- A line that says a command is read as that command. -/
theorem read_of_command (h : command ∈ commands) (hline : Says line command) :
    Request.read line =
      if command ∈ quitCommands then .quit
      else if command ∈ backCommands then .back
      else .reload := by
  have hlast : ∀ command ∈ commands, command ∉ quitCommands → command ∉ backCommands →
      command = reloadCommand := by decide
  have hevent : eventStart.isPrefixOf command.toList = false :=
    Bool.eq_false_iff.mpr (mt List.isPrefixOf_iff_prefix.mp (not_prefix_command command h))
  unfold Request.read
  simp only [(says_iff h).mp hline, String.ofList_toList, List.contains_iff_mem, hevent,
    Bool.false_eq_true, if_false]
  by_cases hquit : command ∈ quitCommands
  · rw [if_pos hquit, if_pos hquit]
  · by_cases hback : command ∈ backCommands
    · rw [if_neg hquit, if_neg hquit, if_pos hback, if_pos hback]
    · rw [if_neg hquit, if_neg hquit, if_neg hback, if_neg hback,
        if_pos (beq_iff_eq.mpr (hlast command h hquit hback))]

/-- A line that is not lowered to a command fires an event, or it is an attempt. -/
theorem read_of_notMem (h : String.ofList (Text.lowered (Text.trim line.toList)) ∉ commands) :
    Request.read line =
      if eventStart.isPrefixOf (Text.lowered (Text.trim line.toList)) then
        .event (String.ofList (Text.trim ((Text.trim line.toList).drop eventStart.length)))
      else .attempt line := by
  simp only [mem_commands, not_or] at h
  obtain ⟨hquit, hback, hreload⟩ := h
  unfold Request.read
  dsimp only
  rw [if_neg (mt List.contains_iff_mem.mp hquit), if_neg (mt List.contains_iff_mem.mp hback),
    if_neg (mt beq_iff_eq.mp hreload)]

/-- A line that fires an event is read so. -/
theorem read_of_fires (h : Fires line name) : Request.read line = .event name := by
  obtain ⟨hstart, rfl⟩ := fires_iff.mp h
  rw [read_of_notMem fun hcommand => ?_, if_pos (List.isPrefixOf_iff_prefix.mpr hstart)]
  have hnot := not_prefix_command _ hcommand
  rw [String.toList_ofList] at hnot
  exact hnot hstart

/-- Any other line is read as an attempt. -/
theorem read_of_neither (hcommands : ∀ command ∈ commands, ¬ Says line command)
    (hevents : ∀ name, ¬ Fires line name) : Request.read line = .attempt line := by
  rw [read_of_notMem fun hcommand => ?_, if_neg fun hstart => ?_]
  · exact hevents _ (fires_iff.mpr ⟨List.isPrefixOf_iff_prefix.mp hstart, rfl⟩)
  · exact hcommands _ hcommand ((says_iff hcommand).mpr String.toList_ofList.symm)

/-- A line that means something is read so. -/
theorem read_of_means {r : Request} (h : Means line r) : Request.read line = r := by
  cases r with
  | quit =>
    obtain ⟨command, hcommand, hline⟩ := h
    rw [read_of_command (mem_commands.mpr (.inl hcommand)) hline, if_pos hcommand]
  | back =>
    obtain ⟨command, hcommand, hline⟩ := h
    have hother : ∀ command ∈ backCommands, command ∉ quitCommands := by decide
    rw [read_of_command (mem_commands.mpr (.inr (.inl hcommand))) hline,
      if_neg (hother command hcommand), if_pos hcommand]
  | event name => exact read_of_fires h
  | reload =>
    rw [read_of_command (mem_commands.mpr (.inr (.inr rfl))) h, if_neg (by decide),
      if_neg (by decide)]
  | attempt text =>
    obtain ⟨rfl, hcommands, hevents⟩ := h
    exact read_of_neither hcommands hevents

/-- Every line means something. -/
theorem exists_means (line : String) : ∃ r, Means line r := by
  by_cases hquit : ∃ command ∈ quitCommands, Says line command
  · exact ⟨.quit, hquit⟩
  by_cases hback : ∃ command ∈ backCommands, Says line command
  · exact ⟨.back, hback⟩
  by_cases hevent : ∃ name, Fires line name
  · obtain ⟨name, hname⟩ := hevent
    exact ⟨.event name, hname⟩
  by_cases hreload : Says line reloadCommand
  · exact ⟨.reload, hreload⟩
  refine ⟨.attempt line, rfl, fun command hcommand hline => ?_, fun name hname =>
    hevent ⟨name, hname⟩⟩
  rcases mem_commands.mp hcommand with h | h | rfl
  · exact hquit ⟨command, h, hline⟩
  · exact hback ⟨command, h, hline⟩
  · exact hreload hline

/-- A line is read as what it means, and so it means one thing. -/
theorem read_eq_iff {r : Request} : Request.read line = r ↔ Means line r := by
  refine ⟨fun h => ?_, read_of_means⟩
  obtain ⟨r', hr'⟩ := exists_means line
  rw [← h, read_of_means hr']
  exact hr'

/-! ### What the prompt does -/

/-- What is done for a request that leaves the game at the prompt: an event is passed on once, or
the lessons are read again once; then the next line is asked for. -/
def Request.aside? : Request → Option (Act Unit)
  | .event name => some do
    Service.notify boundary name
    Act.note (.prompt "$ ")
  | .reload => some do
    Act.print (if ← Catalog.reload then "Lessons reloaded." else "Nothing to reload.")
    Act.note (.prompt "$ ")
  | .quit | .back | .attempt _ => none

/-- Where any other request leads: to the end, to the menu, or to an attempt with the text. -/
def Request.leave? (key : TaskKey) : Request → Option (Act Stage)
  | .quit => some (return .finished)
  | .back => some showMenu
  | .attempt text => some (attemptWith key text)
  | .event _ | .reload => none

/-- What comes in leaves the game at the prompt, and this is done. -/
def Passes : Incoming → Act Unit → Prop
  | .line line, act => ∃ r, Means line r ∧ r.aside? = some act
  | .meanwhile what, act => act = what

/-- Do some things, one after the other. -/
def inOrder : List (Act Unit) → Act Unit
  | [] => return
  | act :: rest => do
    act
    inOrder rest

variable {key : TaskKey} {act : Act Unit} {next : Act Stage}

/-- What passes is done, and the game goes on at the prompt. -/
theorem playOn_passes {first : Incoming} (h : Passes first act) (rest : List Incoming) :
    playOn (first :: rest) (.attempting key) = act >>= fun _ => playOn rest (.attempting key) := by
  cases first with
  | meanwhile what =>
    obtain rfl : act = what := h
    rfl
  | line line =>
    obtain ⟨r, hr, hact⟩ := h
    show answerAttempt key line >>= playOn rest = _
    rw [answerAttempt, read_of_means hr]
    cases r with
    | quit | back | attempt _ => cases hact
    | event name =>
      obtain rfl := Option.some.inj hact
      simp only [askAttempt, ask, bind_assoc, pure_bind]
    | reload =>
      obtain rfl := Option.some.inj hact
      simp only [askAttempt, ask, bind_assoc, pure_bind]

/-- Any other line leads on, and the rest is left for where it leads. -/
theorem playOn_leaves {r : Request} (hr : Means line r) (hnext : r.leave? key = some next)
    (rest : List Incoming) :
    playOn (.line line :: rest) (.attempting key) = next >>= playOn rest := by
  show answerAttempt key line >>= playOn rest = _
  rw [answerAttempt, read_of_means hr]
  cases r with
  | event _ | reload => cases hnext
  | quit | back | attempt _ => rw [← Option.some.inj hnext]

/-! ### The main result -/

/-- **The prompt takes every line.** Whatever characters it consists of, each line means exactly one
thing, and is read so. While the game waits for an attempt, each line that fires an event passes the
event on, once and by its name as it is spelled, each line that says to read the lessons again does
so once, and the game waits for the next line. The first line that is neither leads on: to the end,
to the menu, or to an attempt with the line as it is. What comes in after that line is left for
where it leads. -/
theorem prompt_takes_lines : (∀ line r, Request.read line = r ↔ Means line r) ∧
    ∀ (key : TaskKey) (input : List Incoming),
      (∃ acts, List.Forall₂ Passes input acts ∧
        playOn input (.attempting key) = inOrder acts >>= fun _ => throw .endOfInput) ∨
      ∃ before line rest acts r next, input = before ++ .line line :: rest ∧
        List.Forall₂ Passes before acts ∧ Means line r ∧ r.leave? key = some next ∧
        playOn input (.attempting key) = inOrder acts >>= fun _ => next >>= playOn rest := by
  refine ⟨fun line r => read_eq_iff, fun key input => ?_⟩
  -- what comes in first either passes, and the rest is as it is, or it is the line that leads on
  have hstep : ∀ first : Incoming, (∃ act, Passes first act) ∨
      ∃ line r next, first = .line line ∧ Means line r ∧ r.leave? key = some next := by
    intro first
    cases first with
    | meanwhile what => exact .inl ⟨what, rfl⟩
    | line line =>
      obtain ⟨r, hr⟩ := exists_means line
      cases r with
      | event _ | reload => exact .inl ⟨_, _, hr, rfl⟩
      | quit | back | attempt _ => exact .inr ⟨line, _, _, rfl, hr, rfl⟩
  induction input with
  | nil => exact .inl ⟨[], .nil, rfl⟩
  | cons first rest ih =>
    rcases hstep first with ⟨act, hact⟩ | ⟨line, r, next, rfl, hr, hnext⟩
    · rw [playOn_passes hact]
      rcases ih with ⟨acts, hacts, hplay⟩ | ⟨before, line, after, acts, r, next, rfl, hacts, hr,
        hnext, hplay⟩
      · refine .inl ⟨act :: acts, .cons hact hacts, ?_⟩
        rw [hplay, inOrder, bind_assoc]
      · refine .inr ⟨first :: before, line, after, act :: acts, r, next, rfl, .cons hact hacts, hr,
          hnext, ?_⟩
        rw [hplay, inOrder, bind_assoc]
    · exact .inr ⟨[], line, rest, [], r, next, rfl, .nil, hr, hnext, playOn_leaves hr hnext rest⟩

/-- An event is known by its start in any case, and its name is left as it is. -/
example : Request.read " :EvEnT   Ǆ foo\tBar\u3000" = .event "Ǆ foo\tBar" := by
  decide +kernel

end Tutor.Console
