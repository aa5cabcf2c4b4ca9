namespace Tutor.Console.Help

/-!
# Help pages

The pages that `--help` prints, for the program and for each command.
-/

/-- Lines as a text. -/
def page (lines : List String) : String :=
  String.join (lines.map (· ++ "\n"))

/-- The help of the program. -/
def program : String :=
  page
    ["usage: showmehow [-h] [--lessons-file LESSONS_FILE] [--db DB] [-v]",
     "                 \x7blessons,play,describe,attempt\x7d ...",
     "",
     "Interactive shell lessons",
     "",
     "positional arguments:",
     "  \x7blessons,play,describe,attempt\x7d",
     "    lessons             list unlocked and known lessons",
     "    play                play lessons interactively",
     "    describe            print a task description",
     "    attempt             attempt a task once",
     "",
     "options:",
     "  -h, --help            show this help message and exit",
     "  --lessons-file LESSONS_FILE",
     "                        lessons JSON file to load instead of the bundled one",
     "  --db DB               settings database path",
     "  -v, --verbose         log debug output"]

/-- The help of a command: its usage, and its arguments one by one. -/
def command (usage : String) (arguments : List String) : String :=
  page
    ([s!"usage: showmehow {usage}", ""] ++
      (if arguments.isEmpty then []
        else "positional arguments:" :: arguments.map ("  " ++ ·) ++ [""]) ++
      ["options:", "  -h, --help  show this help message and exit"])

/-- The help of listing lessons. -/
def lessons : String := command "lessons [-h]" []

/-- The help of playing. -/
def play : String := command "play [-h] [lesson]" ["lesson"]

/-- The help of describing a task. -/
def describe : String := command "describe [-h] lesson task" ["lesson", "task"]

/-- The help of attempting a task. -/
def attempt : String :=
  command "attempt [-h] lesson task input" ["lesson", "task", "input"]

end Tutor.Console.Help
