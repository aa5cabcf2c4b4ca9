namespace Tutor

/-!
# The journal

What an operation lets others see, in order: log records, calls to the boundary of the tracker, and
the lines and prompts of the console.
-/

/-- How grave a log record is. -/
inductive Level
  | debug
  | info
  | warning
  | error
  deriving DecidableEq, Repr

/-- The part of the program that a log record is about. -/
inductive Topic
  | catalog
  | events
  | pipeline
  | steps
  | effects
  | service
  deriving DecidableEq, Repr

/-- One thing that others see. -/
inductive Entry
  | log (level : Level) (topic : Topic) (message : String)
  /-- The tracker tells which events it waits for. -/
  | interest (events : List String)
  /-- The tracker tells that a task may go on. -/
  | signal (lesson task : String)
  | line (text : String)
  | prompt (text : String)
  deriving DecidableEq, Repr

end Tutor
