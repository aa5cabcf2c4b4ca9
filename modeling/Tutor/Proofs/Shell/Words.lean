import Tutor.Proofs.Service.Programs
import Tutor.Proofs.Text.Spelling
import Tutor.Service.Clues

namespace Tutor.Shell

/-!
# Words of the shell

How code is cut into commands and words, as far as all shells agree on it: within apostrophes every
character stands for itself, quotation marks are known around apostrophes only, and outside of both
blanks end words and semicolons end commands. Whatever else a shell may give a meaning to is not
read at all, so that a reading holds in every shell.

* `Reading`, `Reading.next` — what has been read, and how one more character is read;
* `commands?` — the commands that code consists of, each with its words;
* `foldlM_quoteChars` — a quoted text is read as that text, in one word;
* `background_one_word` — so the address of a background is one argument of one command, whatever
  it is.
-/

/-! ### Reading words -/

/-- What the reader is within. -/
inductive Quotes
  | none
  | apostrophes
  | marks
  deriving DecidableEq, Repr

/-- What has been read of some code. -/
structure Reading where
  quotes : Quotes
  /-- The commands that are complete. -/
  commands : List (List String)
  /-- The complete words of the command in progress. -/
  words : List String
  /-- The word in progress. -/
  word : Option (List Char)
  deriving DecidableEq, Repr

/-- Characters that mean something to a shell outside quotes. -/
def meaningful : List Char :=
  "|&;<>()$\x60\\\"'*?[]#~!^\x7b\x7d".toList

/-- Characters that mean something at the start of a command, where variables are set and jobs are
named. -/
def meaningfulFirst : List Char :=
  "=%".toList

namespace Reading

/-- Nothing has been read. -/
def start : Reading :=
  ⟨.none, [], [], none⟩

/-- More characters of the word in progress, or the first ones of another word. -/
def put (r : Reading) (s : List Char) : Reading :=
  { r with word := some (r.word.getD [] ++ s) }

/-- A quote starts or ends. -/
def within (r : Reading) (q : Quotes) : Reading :=
  { r with quotes := q }

/-- The word in progress, if there is one, is complete. -/
def endWord (r : Reading) : Reading :=
  match r.word with
  | some w => { r with words := r.words ++ [String.ofList w], word := none }
  | none => r

/-- The command in progress is complete; there has to be one. -/
def endCommand (r : Reading) : Option Reading :=
  let r := r.endWord
  if r.words.isEmpty then none
  else some { r with commands := r.commands ++ [r.words], words := [] }

/-- The character stands for itself outside quotes. -/
def takes (r : Reading) (c : Char) : Bool :=
  32 < c.toNat && c.toNat < 127 && !meaningful.contains c &&
    (!meaningfulFirst.contains c || !r.words.isEmpty)

/-- One more character is read. -/
def next (r : Reading) (c : Char) : Option Reading :=
  match r.quotes with
  | .apostrophes => some (if c = '\'' then r.within .none else r.put [c])
  | .marks =>
    if c = '"' then some (r.within .none) else if c = '\'' then some (r.put [c]) else none
  | .none =>
    if c = '\'' then some ((r.put []).within .apostrophes)
    else if c = '"' then some ((r.put []).within .marks)
    else if c = ' ' ∨ c = '\t' then some r.endWord
    else if c = ';' then r.endCommand
    else if r.takes c then some (r.put [c])
    else none

/-- The commands, once all has been read. A command at the end needs no semicolon. -/
def finish (r : Reading) : Option (List (List String)) :=
  if r.quotes ≠ .none then none
  else if r.endWord.words.isEmpty then some r.commands
  else some (r.commands ++ [r.endWord.words])

end Reading

/-- The commands of some code with their words, if the rules that all shells share suffice to read
it. -/
def commands? (code : String) : Option (List (List String)) :=
  (code.toList.foldlM Reading.next .start).bind Reading.finish

/-! ### Quoted texts -/

namespace Reading

variable {r : Reading} {s t : List Char} {c : Char}

@[simp] theorem put_put : (r.put s).put t = r.put (s ++ t) := by
  simp [put]

/-- Safe characters are printed ones of ASCII. -/
theorem toNat_lt_of_isSafe (hc : isSafe c = true) : c.toNat < 127 := by
  simp only [isSafe, Text.isAsciiLetter, Bool.or_eq_true, Bool.and_eq_true, decide_eq_true_eq] at hc
  have hmarks : "_@%+=:,./-".toList.all fun d => d.toNat < 127 := by decide
  rcases hc with ((h | h) | h) | h
  · omega
  · omega
  · omega
  · exact of_decide_eq_true (List.all_eq_true.mp hmarks c (List.contains_iff_mem.mp h))

/-- Safe characters stand for themselves in the arguments of a command. -/
theorem takes_of_isSafe (hwords : r.words ≠ []) (hc : isSafe c = true) : r.takes c = true := by
  have hlt := toNat_lt_of_isSafe hc
  obtain ⟨hprinted, hplain⟩ := Text.ascii_forall
    (P := fun c => isSafe c = true → 32 < c.toNat ∧ c ∉ meaningful) (by decide) (by omega) hc
  simp [takes, hprinted, hlt, hplain, hwords]

/-- Safe characters go into the word in progress. -/
theorem next_of_isSafe (hquotes : r.quotes = .none) (hwords : r.words ≠ [])
    (hc : isSafe c = true) : r.next c = some (r.put [c]) := by
  have hne : ∀ d, isSafe d = false → c ≠ d := by
    rintro d hd rfl
    rw [hd] at hc
    cases hc
  have hquote : c ≠ '\'' ∧ c ≠ '"' := ⟨hne _ (by decide), hne _ (by decide)⟩
  have hblank : c ≠ ' ' ∧ c ≠ '\t' ∧ c ≠ ';' :=
    ⟨hne _ (by decide), hne _ (by decide), hne _ (by decide)⟩
  simp [next, hquotes, hquote, hblank, takes_of_isSafe hwords hc]

/-- Safe characters are read as they are. -/
theorem foldlM_safe (hquotes : r.quotes = .none) (hwords : r.words ≠ [])
    (hs : ∀ c ∈ s, isSafe c = true) :
    s.foldlM next (r.put t) = some (r.put (t ++ s)) := by
  induction s generalizing t with
  | nil => rw [List.foldlM_nil, List.append_nil]; rfl
  | cons c rest ih =>
    obtain ⟨hc, hrest⟩ := List.forall_mem_cons.mp hs
    have hnext : (r.put t).next c = some ((r.put t).put [c]) := next_of_isSafe hquotes hwords hc
    rw [List.foldlM_cons, hnext, put_put, List.append_cons t c rest]
    exact ih hrest

/-- A character is read as it is within apostrophes, and an apostrophe from between quotation
marks. -/
theorem foldlM_quotedChar :
    (quotedChar c).foldlM next (r.within .apostrophes)
      = some ((r.put [c]).within .apostrophes) := by
  by_cases hc : c = '\''
  · subst hc
    simp [quotedChar, next, within, put]
  · simp [quotedChar, next, within, put, hc]

/-- A text is read as it is within apostrophes. -/
theorem foldlM_quotedChars :
    (s.flatMap quotedChar).foldlM next ((r.put t).within .apostrophes)
      = some ((r.put (t ++ s)).within .apostrophes) := by
  induction s generalizing t with
  | nil => rw [List.flatMap_nil, List.foldlM_nil, List.append_nil]; rfl
  | cons c rest ih =>
    rw [List.flatMap_cons, List.foldlM_append, foldlM_quotedChar, put_put,
      List.append_cons t c rest]
    exact ih

/-- **Quoting.** Where an argument of a command may start, a quoted text is read as that text, and
all of it goes into one word. -/
theorem foldlM_quoteChars (hquotes : r.quotes = .none) (hwords : r.words ≠ []) (s : List Char) :
    (quoteChars s).foldlM next r = some (r.put s) := by
  unfold quoteChars
  split
  · rename_i hsafe
    simp only [Bool.and_eq_true, Bool.not_eq_true', List.isEmpty_eq_false_iff,
      List.all_eq_true] at hsafe
    obtain ⟨hne, hall⟩ := hsafe
    obtain ⟨c, rest, rfl⟩ := List.exists_cons_of_ne_nil hne
    obtain ⟨hc, hrest⟩ := List.forall_mem_cons.mp hall
    rw [List.foldlM_cons, next_of_isSafe hquotes hwords hc]
    exact foldlM_safe hquotes hwords hrest
  · -- the apostrophe at the start opens a word, so that there is one even if nothing follows
    have hopen : r.next '\'' = some ((r.put []).within .apostrophes) := by
      simp [next, hquotes]
    have hclose : ((r.put s).within .apostrophes).next '\'' = some (r.put s) := by
      simp [next, within, put, ← hquotes]
    rw [List.foldlM_cons, hopen]
    show ((s.flatMap quotedChar) ++ ['\'']).foldlM next ((r.put []).within .apostrophes) = _
    rw [List.foldlM_append, foldlM_quotedChars, List.nil_append]
    show ['\''].foldlM next ((r.put s).within .apostrophes) = _
    rw [List.foldlM_cons, hclose]
    rfl

example : commands? ("say " ++ quote "it's; $HOME" ++ ";done")
    = some [["say", "it's; $HOME"], ["done"]] := by decide

example : commands? "say $HOME" = none := by decide

end Reading

/-! ### The background -/

/-- The words before the address in the command that changes the background. -/
def backgroundWords : List String :=
  ["gsettings", "set", "org.gnome.desktop.background", "picture-uri"]

/-- The reader has come to the address. -/
def atAddress : Reading :=
  ⟨.none, [], backgroundWords, none⟩

/-- In the command that changes the background, the address is read as it is. -/
theorem foldlM_backgroundCommand (uri : String) :
    (Service.backgroundCommand uri).toList.foldlM Reading.next .start
      = some (atAddress.put uri.toList) := by
  have hfront : "gsettings set org.gnome.desktop.background picture-uri ".toList.foldlM
      Reading.next .start = some atAddress := rfl
  have hquote : (quote uri).toList.foldlM Reading.next atAddress
      = some (atAddress.put uri.toList) := by
    rw [quote, String.toList_ofList]
    exact Reading.foldlM_quoteChars rfl (by decide) uri.toList
  have htext : Service.backgroundCommand uri
      = "gsettings set org.gnome.desktop.background picture-uri " ++ quote uri := rfl
  rw [htext, String.toList_append, List.foldlM_append, hfront]
  exact hquote

/-- After the address there is one more word. -/
theorem endWord_address (uri : String) :
    (atAddress.put uri.toList).endWord = ⟨.none, [], backgroundWords ++ [uri], none⟩ := by
  simp only [Reading.endWord, Reading.put, atAddress, Option.getD_none, List.nil_append,
    String.ofList_toList]

/-- The command that follows is read as another one. -/
theorem foldlM_exit (uri : String) :
    "; exit 0".toList.foldlM Reading.next (atAddress.put uri.toList)
      = some ⟨.none, [backgroundWords ++ [uri]], ["exit"], some ['0']⟩ := by
  have hsemicolon : (atAddress.put uri.toList).next ';'
      = some ⟨.none, [backgroundWords ++ [uri]], [], none⟩ := by
    show (atAddress.put uri.toList).endCommand = _
    rw [Reading.endCommand, endWord_address]
    rfl
  have hexit : "; exit 0".toList = ';' :: " exit 0".toList := rfl
  rw [hexit, List.foldlM_cons, hsemicolon]
  rfl

end Tutor.Shell

namespace Tutor.Service

open Shell (backgroundWords atAddress commands?)

/-- Changing the background calls the shell once. -/
theorem calls_setBackground (uri : String) (w : World) :
    ((setBackground uri).perform w).2.host.calls
      = Shell.callOf (backgroundCommand uri) (Shell.overlay w.host.environment []) ::
        w.host.calls := by
  obtain ⟨j, hexecute⟩ := Shell.perform_execute (backgroundCommand uri) [] w
  unfold setBackground
  rw [Act.perform_bind, hexecute]
  -- what comes after the call only writes to the journal
  cases Shell.ending (backgroundCommand uri) _ <;> rfl

/-- **The address of a background is one word.** Changing the background calls one program, once,
whatever becomes of it: the shell, with the command that changes the background and with `exit 0`
after it. By the rules that all shells share, the code is these two commands and nothing else. The
quoted address adds exactly one word to the first of them, and whatever the address is, that word is
the address, character for character. -/
theorem background_one_word (uri : String) (w : World) :
    ∃ c code front, ((setBackground uri).perform w).2.host.calls = c :: w.host.calls ∧
      c.argv = ["/bin/bash", "-c", code ++ "; exit 0"] ∧ code = front ++ Shell.quote uri ∧
      commands? front = some
        [["gsettings", "set", "org.gnome.desktop.background", "picture-uri"]] ∧
      commands? code = some
        [["gsettings", "set", "org.gnome.desktop.background", "picture-uri", uri]] ∧
      commands? (code ++ "; exit 0") = some
        [["gsettings", "set", "org.gnome.desktop.background", "picture-uri", uri],
          ["exit", "0"]] := by
  have hread := Shell.foldlM_backgroundCommand uri
  refine ⟨_, backgroundCommand uri, "gsettings set org.gnome.desktop.background picture-uri ",
    calls_setBackground uri w, rfl, rfl, rfl, ?_, ?_⟩
  · rw [commands?, hread, Option.bind_some, Shell.Reading.finish, Shell.endWord_address]
    rfl
  · rw [commands?, String.toList_append, List.foldlM_append, hread]
    show ("; exit 0".toList.foldlM Shell.Reading.next (atAddress.put uri.toList)).bind _ = _
    rw [Shell.foldlM_exit]
    rfl

end Tutor.Service
