import Mathlib.Data.List.Forall2
import Tutor.Pattern.Search

namespace Tutor.Pattern

/-!
# Patterns without operators

A pattern in which no character groups, repeats, chooses or escapes is read as one element for each
of its characters, in their order; nothing can be wrong with it.

* `Plain` — the characters that are elements by themselves;
* `sequence_plain`, `read_plain` — a pattern of such characters is read as the list of their
  elements;
* `holds_start`, `holds_stop`, `run_word` — what it takes for the signs for the start and the end of
  a line, and for the characters of a word, to match from a place on. A place is given as a way to
  cut the text in two;
* `found_line` — where the pattern for a whole line is found.
-/

/-- The character is an element of a pattern by itself. -/
def Plain (c : Char) : Prop :=
  c ∉ ['\\', '[', '(', '|', ')', '*', '+', '?', '\x7b']

instance (c : Char) : Decidable (Plain c) :=
  inferInstanceAs (Decidable (¬ _))

/-- The elements that characters are by themselves. -/
def elements (o : Options) (s : List Char) : List Node :=
  s.map fun c => (simple o c).node

/-! ### Reading -/

variable {c : Char} {s rest : List Char} {o : Options} {p : Cursor} {done : List Piece}

/-- A backslash takes the next character with it. -/
theorem not_plain_backslash : ¬ Plain '\\' := by decide

/-- No lone backslash is left to read. -/
theorem ne_backslash (hs : ∀ d ∈ s, Plain d) : s ≠ ['\\'] := by
  rintro rfl
  exact not_plain_backslash (hs _ List.mem_cons_self)

/-- A character that is an element by itself is the token ahead. -/
theorem Plain.next (hc : Plain c) (hleft : p.left = c :: rest) : p.next = [c] := by
  have hbackslash : c ≠ '\\' := by
    rintro rfl
    exact not_plain_backslash hc
  unfold Cursor.next
  rw [hleft]
  split
  · rename_i h
    exact absurd (List.cons.inj h).1 hbackslash
  · rename_i h
    rw [(List.cons.inj h).1]
  · rename_i h
    cases h

/-- Such characters are passed one at a time. -/
theorem Plain.skip (hc : Plain c) (hrest : ∀ d ∈ rest, Plain d) (hleft : p.left = c :: rest) :
    p.skip = .ok { p with left := rest } := by
  simp [Cursor.skip, Cursor.moveTo, hc.next hleft, hleft, ne_backslash hrest]

/-- One more element. -/
theorem sequence_cons (fuel : Nat) (first : Bool) (hc : Plain c) (hrest : ∀ d ∈ rest, Plain d)
    (hleft : p.left = c :: rest) (ho : o.verbose = false) :
    sequence (fuel + 1) first o done p
      = sequence fuel first o (simple o c :: done) { p with left := rest } := by
  have hnext := hc.next hleft
  have hskip := hc.skip hrest hleft
  simp only [Plain, List.mem_cons, not_or, List.not_mem_nil, not_false_eq_true, and_true] at hc
  obtain ⟨-, hset, hopen, hbar, hclose, hstar, hplus, hoption, hbrace⟩ := hc
  -- one round of the reader; only the token ahead decides what it comes to
  rw [sequence]
  simp only [hnext, hskip]
  split
  · rename_i h
    cases h
  · rename_i h
    exact absurd (List.cons.inj h).1 hbar
  · rename_i h
    exact absurd (List.cons.inj h).1 hclose
  · simp [ho, hstar, hplus, hoption, hbrace, bind, Except.bind]

/-- At the end of the pattern the elements are complete. -/
theorem sequence_end (fuel : Nat) (first : Bool) (hleft : p.left = []) :
    sequence (fuel + 1) first o done p = .ok (.ofPieces done, p) := by
  have hnext : p.next = [] := by rw [Cursor.next, hleft]
  rw [sequence]
  simp only [hnext]

/-- The characters of a pattern without operators are its elements. -/
theorem sequence_plain {fuel : Nat} (first : Bool) (hs : ∀ d ∈ s, Plain d) (hleft : p.left = s)
    (ho : o.verbose = false) (hfuel : s.length < fuel) :
    sequence fuel first o done p
      = .ok (.ofList (done.reverse.map (·.node) ++ elements o s), { p with left := [] }) := by
  -- by induction on what is left to read; each element takes one unit of the fuel
  induction s generalizing fuel done p with
  | nil =>
    obtain ⟨fuel, rfl⟩ := Nat.exists_eq_add_one_of_ne_zero (Nat.ne_zero_of_lt hfuel)
    have hend : { p with left := [] } = p := by rw [← hleft]
    rw [sequence_end fuel first hleft, hend]
    simp [elements, Node.ofPieces]
  | cons c rest ih =>
    obtain ⟨fuel, rfl⟩ := Nat.exists_eq_add_one_of_ne_zero (Nat.ne_zero_of_lt hfuel)
    obtain ⟨hc, hrest⟩ := List.forall_mem_cons.mp hs
    rw [List.length_cons, Nat.add_lt_add_iff_right] at hfuel
    rw [sequence_cons fuel first hc hrest hleft ho, ih hrest rfl hfuel]
    simp [elements]

/-- Nothing is wrong with elements that are characters. -/
theorem flaw_elements (template : Bool) (o : Options) (s : List Char) :
    (Node.ofList (elements o s)).flaw? template = none := by
  have hsimple : ∀ c, (simple o c).node.flaw? template = none := by
    intro c
    unfold simple
    split <;> rfl
  induction s with
  | nil => rfl
  | cons c s ih =>
    cases s with
    | nil => exact hsimple c
    | cons d s =>
      show ((simple o c).node.flaw? template).or _ = none
      rw [hsimple c]
      exact ih

/-- There are no alternatives to choose from. -/
theorem alternatives_plain {fuel : Nat} (top first : Bool) (hs : ∀ d ∈ p.left, Plain d)
    (ho : o.verbose = false) (hfuel : p.left.length < fuel) :
    alternatives (fuel + 1) top first o p
      = .ok (.ofList (elements o p.left), { p with left := [] }) := by
  rw [alternatives, sequence_plain (top && first) hs rfl ho hfuel]
  rfl

/-- A pattern without operators is read as the list of its characters. -/
theorem read_plain {pattern : String} (h : ∀ c ∈ pattern.toList, Plain c) :
    read pattern = .ok ⟨.ofList (elements .standard pattern.toList), 0⟩ := by
  unfold read
  simp only [Cursor.moveTo, if_neg (ne_backslash h), bind, Except.bind]
  rw [alternatives_plain true true h rfl (by dsimp only; omega)]
  simp [Cursor.next, Cursor.lostCondition?, flaw_elements]

/-! ### Matching -/

/-- A character that only matches itself, up to case. -/
def Ordinary (c : Char) : Prop :=
  Plain c ∧ c ∉ ['.', '^', '$']

/-- Where case does not count, the first character matches the second one. -/
abbrev Like (c d : Char) : Prop :=
  isLiteral .unicode c.toNat d.toNat = true

/-- A line may start after this part of a text. -/
def LineStart (before : List Char) : Prop :=
  before = [] ∨ before.getLast? = some '\n'

/-- A line may end before this part of a text. -/
def LineEnd (after : List Char) : Prop :=
  after = [] ∨ after.head? = some '\n'

/-- The text as it is searched. -/
abbrev subject (text : List Char) : Subject :=
  (text.map Char.toNat).toArray

variable {before after word : List Char} {k : Goal} {m : Marks}

/-- Elements match one after the other. -/
theorem run_ofList (subject : Subject) (nodes : List Node) (k : Goal) :
    (Node.ofList nodes).run subject k = nodes.foldr (fun n k => n.run subject k) k := by
  induction nodes with
  | nil => rfl
  | cons n rest ih =>
    cases rest with
    | nil => rfl
    | cons n' rest =>
      show n.run subject ((Node.ofList (n' :: rest)).run subject k) = _
      rw [ih]
      rfl

/-- The code point of the newline. -/
theorem toNat_eq_newline : c.toNat = 10 ↔ c = '\n' :=
  Char.toNat_inj (d := '\n')

/-- What is at a place. -/
theorem subject_get (before after : List Char) :
    (subject (before ++ after))[before.length]? = after.head?.map Char.toNat := by
  simp [List.getElem?_append_right, List.head?_eq_getElem?]

/-- What is before a place. -/
theorem subject_get_pred (before after : List Char) (hbefore : before ≠ []) :
    (subject (before ++ after))[before.length - 1]? = before.getLast?.map Char.toNat := by
  have hlength : before.length - 1 < before.length :=
    Nat.pred_lt (mt List.length_eq_zero_iff.mp hbefore)
  rw [List.getElem?_toArray, List.map_append, List.getElem?_append_left (by simpa using hlength),
    List.getElem?_map, List.getLast?_eq_getElem?]

/-- The sign for the start matches at line starts. -/
theorem holds_start (before after : List Char) :
    (Anchor.start true).holds (subject (before ++ after)) before.length = true ↔
      LineStart before := by
  by_cases hbefore : before = []
  · subst hbefore
    exact iff_of_true rfl (.inl rfl)
  · simp only [Anchor.holds, subject_get_pred before after hbefore, LineStart]
    simp [hbefore, toNat_eq_newline]

/-- The sign for the end matches at line ends. -/
theorem holds_stop (before after : List Char) :
    (Anchor.stop true).holds (subject (before ++ after)) before.length = true ↔
      LineEnd after := by
  simp only [Anchor.holds, subject_get before after, LineEnd]
  simp [toNat_eq_newline]

/-- An ordinary character matches where one like it is. -/
theorem run_ordinary {c : Char} (hc : Ordinary c) :
    ((simple .standard c).node.run (subject (before ++ after)) k before.length m).isSome = true ↔
      ∃ d rest, after = d :: rest ∧ Like c d ∧ (k (before ++ [d]).length m).isSome = true := by
  have hsimple : (simple .standard c).node = .one (.literal .unicode c.toNat false) := by
    obtain ⟨-, hc⟩ := hc
    simp only [List.mem_cons, not_or, List.not_mem_nil, not_false_eq_true, and_true] at hc
    simp [simple, hc, Folding.of, Options.standard]
  rw [hsimple]
  simp only [Node.run, subject_get]
  cases after with
  | nil => simp
  | cons d rest => by_cases h : Like c d <;> simp [Test.holds, Like, h]

/-- A word of ordinary characters matches where characters like them are in a row. -/
theorem run_word (hword : ∀ c ∈ word, Ordinary c) :
    ((elements .standard word).foldr (fun n k => n.run (subject (before ++ after)) k) k
        before.length m).isSome = true ↔
      ∃ line rest, after = line ++ rest ∧ List.Forall₂ Like word line ∧
        (k (before ++ line).length m).isSome = true := by
  -- by induction on the word, for all places: each character moves the place on by one
  induction word generalizing before after with
  | nil =>
    constructor
    · intro h
      exact ⟨[], after, rfl, .nil, by rwa [List.append_nil]⟩
    · rintro ⟨line, rest, -, hline, h⟩
      rwa [List.forall₂_nil_left_iff.mp hline, List.append_nil] at h
  | cons c word ih =>
    obtain ⟨hc, hword⟩ := List.forall_mem_cons.mp hword
    refine (run_ordinary hc).trans ⟨?_, ?_⟩
    · rintro ⟨d, rest, rfl, hlike, h⟩
      rw [List.append_cons] at h
      obtain ⟨line, rest, rfl, hline, h⟩ := (ih hword).mp h
      exact ⟨d :: line, rest, rfl, .cons hlike hline, by rwa [List.append_cons]⟩
    · rintro ⟨_, rest, rfl, hline, h⟩
      cases hline with
      | @cons _ d _ line hlike hline =>
        refine ⟨d, line ++ rest, rfl, hlike, ?_⟩
        rw [List.cons_append, List.append_cons]
        exact (ih hword).mpr ⟨line, rest, rfl, hline, by rwa [List.append_cons] at h⟩

/-- Where a condition holds, the rest decides. -/
theorem run_anchor {a : Anchor} {s : Subject} {i : Nat} :
    ((Node.anchor a).run s k i m).isSome = true ↔ a.holds s i = true ∧ (k i m).isSome = true := by
  by_cases h : a.holds s i = true <;> simp [Node.run, h]

/-- The pattern for a whole line matches from a place on if a line that is like the word starts
there. -/
theorem run_line (hword : ∀ c ∈ word, Ordinary c) (before after : List Char) :
    ((Node.ofList (elements .standard ('^' :: (word ++ ['$'])))).run (subject (before ++ after))
        .done before.length m).isSome = true ↔
      LineStart before ∧ ∃ line rest, after = line ++ rest ∧
        List.Forall₂ Like word line ∧ LineEnd rest := by
  have hstop : ∀ line rest, after = line ++ rest →
      (((Node.anchor (.stop true)).run (subject (before ++ after)) .done (before ++ line).length
        m).isSome = true ↔ LineEnd rest) := by
    rintro line rest rfl
    rw [run_anchor, ← List.append_assoc, holds_stop]
    exact and_iff_left rfl
  have helements : elements .standard ('^' :: (word ++ ['$']))
      = .anchor (.start true) :: (elements .standard word ++ [.anchor (.stop true)]) := by
    simp [elements, simple, Options.standard]
  rw [run_ofList, helements, List.foldr_cons, run_anchor, holds_start, List.foldr_append,
    run_word hword]
  refine and_congr_right fun _ => ⟨?_, ?_⟩
  · rintro ⟨line, rest, hafter, hline, h⟩
    exact ⟨line, rest, hafter, hline, (hstop line rest hafter).mp h⟩
  · rintro ⟨line, rest, hafter, hline, h⟩
    exact ⟨line, rest, hafter, hline, (hstop line rest hafter).mpr h⟩

/-- The pattern for a whole line is found where some line of the text is like the word. -/
theorem found_line (hword : ∀ c ∈ word, Ordinary c) (text : String) :
    Program.found ⟨.ofList (elements .standard ('^' :: (word ++ ['$']))), 0⟩ text = true ↔
      ∃ before line after, text.toList = before ++ (line ++ after) ∧ LineStart before ∧
        List.Forall₂ Like word line ∧ LineEnd after := by
  unfold Program.found
  simp only [List.any_eq_true, List.mem_range, List.size_toArray, List.length_map,
    Nat.lt_add_one_iff]
  constructor
  · -- the search gives a place by its number, which cuts the text in two
    rintro ⟨i, hi, h⟩
    have hlength : (text.toList.take i).length = i := List.length_take_of_le hi
    have hplace := run_line (m := .none 0) hword (text.toList.take i) (text.toList.drop i)
    rw [List.take_append_drop, hlength] at hplace
    obtain ⟨hstart, line, after, hafter, hline, hend⟩ := hplace.mp h
    exact ⟨_, line, after, by rw [← hafter, List.take_append_drop], hstart, hline, hend⟩
  · rintro ⟨before, line, after, htext, hstart, hline, hend⟩
    have hplace := (run_line (m := .none 0) hword before (line ++ after)).mpr
      ⟨hstart, line, after, rfl, hline, hend⟩
    rw [htext]
    exact ⟨before.length, by simp, hplace⟩

end Tutor.Pattern
