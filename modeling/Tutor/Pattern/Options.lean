namespace Tutor.Pattern

/-!
# Options of a pattern

The letters in `(?…)` choose options, for the whole pattern or for one group.

* `Flag` is one letter, `Flag.ofChar?` reads it;
* `Options` are the options in force at some place, `Options.change` switches flags on and off.
-/

/-- An option that a letter switches. -/
inductive Flag
  | ignoreCase
  | locale
  | multiline
  | dotAll
  | verbose
  | ascii
  | template
  | unicode
  deriving DecidableEq, Repr

/-- The flag of a letter. -/
def Flag.ofChar? : Char → Option Flag
  | 'i' => some .ignoreCase
  | 'L' => some .locale
  | 'm' => some .multiline
  | 's' => some .dotAll
  | 'x' => some .verbose
  | 'a' => some .ascii
  | 't' => some .template
  | 'u' => some .unicode
  | _ => none

/-- Flags that choose the kind of text; only one of them may be on. -/
def Flag.choosesText : Flag → Bool
  | .ascii | .locale | .unicode => true
  | _ => false

/-- The options in force. -/
structure Options where
  ignoreCase : Bool
  multiline : Bool
  dotAll : Bool
  verbose : Bool
  ascii : Bool
  template : Bool
  deriving DecidableEq, Repr

/-- Switch one flag. -/
def Options.set (o : Options) (f : Flag) (on : Bool) : Options :=
  match f with
  | .ignoreCase => { o with ignoreCase := on }
  | .multiline => { o with multiline := on }
  | .dotAll => { o with dotAll := on }
  | .verbose => { o with verbose := on }
  | .ascii => { o with ascii := on }
  | .unicode => { o with ascii := !on }
  | .template => { o with template := on }
  | .locale => o

/-- Switch flags on, then others off. -/
def Options.change (o : Options) (on off : List Flag) : Options :=
  off.foldl (·.set · false) (on.foldl (·.set · true) o)

/-- Case does not count, and `^` and `$` also match at line ends. -/
def Options.standard : Options :=
  { ignoreCase := true, multiline := true, dotAll := false, verbose := false, ascii := false,
    template := false }

end Tutor.Pattern
