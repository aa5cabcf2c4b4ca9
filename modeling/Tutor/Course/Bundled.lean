import Tutor.Course.Lesson

namespace Tutor

/-!
# Bundled lessons

The lessons that are there without any file: how to find lessons, a first shell command, and an
exercise that waits for something to happen outside the terminal.
-/

namespace Bundled

/-- A reply and nothing else. -/
def answer (reply : String) : Effect :=
  { reply := .str reply, sideEffects := [], completesLesson := false, moveTo := none }

/-- The side effect that unlocks a lesson. -/
def unlock (lesson : String) : Json :=
  .obj [("type", .str "unlock"), ("value", .ofStrings [lesson])]

/-- The step that matches a pattern. -/
def matching (pattern : String) : Json :=
  .obj [("type", .str "regex"), ("value", .str pattern)]

/-- The input of the console. -/
def console : InputSpec :=
  ⟨"console", []⟩

/-- Find the lessons. -/
def findLessons : Lesson :=
  { name := "showmehow"
    description := "Learn how to ask the computer what it can teach you"
    entry := "showmehow"
    availableTo := ["console"]
    practice :=
      [("showmehow",
        { id := "showmehow"
          prompt := "Type 'showmehow' to see what you can learn."
          input := console
          mapper := [.str "input", matching "^showmehow$"]
          effects :=
            [("success",
              { answer "Great! Now you know where to find new lessons." with
                sideEffects := [unlock "intro"]
                completesLesson := true }),
             ("failure", answer "Not quite. Type exactly: showmehow")] })] }

/-- Run a command. -/
def firstCommand : Lesson :=
  { name := "intro"
    description := "Run your first shell command"
    entry := "begin"
    availableTo := ["console"]
    practice :=
      [("begin",
        { id := "begin"
          prompt := "Type 'whoami' to ask the computer who you are."
          input := console
          mapper := [.str "wait_message", .str "shell", .str "wrapped_output", matching "\\w+"]
          effects :=
            [("success",
              { answer "That's you! Ready for the next step?" with moveTo := some "confirm" }),
             ("failure", answer "The computer had nothing to say. Try 'whoami'.")] }),
       ("confirm",
        { id := "confirm"
          prompt := "Type 'yes' to finish this lesson."
          input := console
          mapper := [.str "input", matching "^yes$"]
          effects :=
            [("success",
              { answer "Good job!" with
                sideEffects := [unlock "watch"]
                completesLesson := true }),
             ("failure", answer "Type 'yes' when you are ready.")] })] }

/-- An output of a task that waits for events. -/
def output (events subsumes : List String) (notify : Bool) : Json :=
  .obj [("events", .ofStrings events), ("subsumes", .ofStrings subsumes), ("notify", .bool notify)]

/-- Wait for an event. -/
def watchEvents : Lesson :=
  { name := "watch"
    description := "Make something happen outside the terminal"
    entry := "open-app"
    availableTo := ["console"]
    practice :=
      [("open-app",
        { id := "open-app"
          prompt := "Open any application, then press enter."
          input :=
            ⟨"external_events",
             [("waiting", output [] [] false),
              ("opened", output ["app-opened"] ["waiting"] true)]⟩
          mapper := [.str "check_external_events"]
          effects :=
            [("waiting",
              answer "Nothing has opened yet. Try again once an application is running."),
             ("opened",
              { reply :=
                  .obj [("type", .str "scrolled"), ("value", .str "You opened an application!")]
                sideEffects := []
                completesLesson := true
                moveTo := none })] })] }

end Bundled

/-- The lessons that are there without any file. -/
def bundledLessons : List Lesson :=
  [Bundled.findLessons, Bundled.firstCommand, Bundled.watchEvents]

end Tutor
