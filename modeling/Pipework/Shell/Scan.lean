import Pipework.Text

/-!
The text of a command: how a word is quoted, how lines are joined to one, and where bars and blanks
cut.
-/

set_option autoImplicit false
set_option relaxedAutoImplicit false

namespace Pipework.Shell

/-! ## Quoting

A text is set in single quotes; a single quote inside is written outside of them, after a
backslash. A tab that delimits fields has a spelling of its own.
-/

/-- The two characters that stand for a tab in a delimiter. -/
def tabEscape : Text := ['\\', 't']

def isTab (t : Text) : Bool := t == ['\t'] || t == tabEscape

def quoteChar (c : Char) : Text := if c = '\'' then ['\'', '\\', '\'', '\''] else [c]

def quote (t : Text) : Text := '\'' :: (t.flatMap quoteChar ++ ['\''])

def tabWord : Text := ['$', '\'', '\\', 't', '\'']

def quoteDelimiter (t : Text) : Text := if isTab t then tabWord else quote t

example : quote "it's".toList = "'it'\\''s'".toList := by decide
example : quoteDelimiter "\\t".toList = "$'\\t'".toList := by decide

/-! ## Lines

A backslash at the end of a line joins it to the next, whose indentation goes too; every other
line break is a blank.
-/

/-- Write a blank for each continued line end; `inIndent` while its indentation is passed
over. -/
def joinContinued (inIndent : Bool) : Text → Text
  | [] => []
  | '\\' :: '\n' :: cs => ' ' :: joinContinued true cs
  | '\\' :: '\r' :: '\n' :: cs => ' ' :: joinContinued true cs
  | c :: cs =>
    if inIndent && Text.isBlank c then joinContinued true cs else c :: joinContinued false cs

def joinLines : Text → Text
  | [] => []
  | '\r' :: '\n' :: cs => ' ' :: joinLines cs
  | c :: cs => (if c = '\n' then ' ' else c) :: joinLines cs

def flatten (t : Text) : Text := joinLines (joinContinued false t)

def normalize (command : Text) : Text := Text.trim (flatten command)

example : normalize "cat f | \\\n  sort -r | \\\n    uniq\n".toList =
    "cat f |  sort -r |  uniq".toList := by decide
example : normalize "cat f |\r\ngrep x".toList = "cat f | grep x".toList := by decide

/-! ## Cutting

`Scan` is the state between two characters. Text is cut at characters of a class only where the
state is bare: at bars into the stages of a pipeline, at blanks into words. The cut text keeps
its quotes and backslashes.
-/

inductive Quoting
  | bare
  | single
  | double
  deriving DecidableEq, Repr

/-- The state between two characters: the open quote, and whether a backslash waits for the
character it escapes. -/
structure Scan where
  quoting : Quoting
  escaping : Bool
  deriving DecidableEq, Repr

namespace Scan

def start : Scan := ⟨.bare, false⟩

/-- Neither inside quotes nor behind a backslash. -/
def isBare (s : Scan) : Bool := s.quoting == .bare && !s.escaping

def isOpen (s : Scan) : Bool := s.quoting != .bare

/-- The state after a character. A backslash escapes outside single quotes, and each quote is
plain text inside the other. -/
def next (s : Scan) (c : Char) : Scan :=
  if s.escaping then { s with escaping := false }
  else if c = '\\' ∧ s.quoting ≠ .single then { s with escaping := true }
  else if c = '\'' ∧ s.quoting = .bare then { s with quoting := .single }
  else if c = '\'' ∧ s.quoting = .single then { s with quoting := .bare }
  else if c = '\x22' ∧ s.quoting = .bare then { s with quoting := .double }
  else if c = '\x22' ∧ s.quoting = .double then { s with quoting := .bare }
  else s

def after (s : Scan) (t : Text) : Scan := t.foldl next s

theorem after_append (s : Scan) (a b : Text) : s.after (a ++ b) = (s.after a).after b :=
  List.foldl_append

end Scan

/-- The parts between the characters of a class that stand bare. -/
def splitBare (p : Char → Bool) : Scan → Text → List Text
  | _, [] => [[]]
  | s, c :: cs =>
    if s.isBare && p c then [] :: splitBare p s cs
    else Text.growHead c (splitBare p (s.next c) cs)

/-- The stages of a pipeline, trimmed; empty ones are kept. -/
def splitStages (command : Text) : List Text :=
  (splitBare (· == '|') .start command).map Text.trim

/-- The words of a stage as written, or nothing when a quote stays open. -/
def splitWords? (stage : Text) : Option (List Text) :=
  if (Scan.start.after stage).isOpen then none
  else some ((splitBare Text.isBlank .start stage).filter (!·.isEmpty))

theorem splitBare_ne_nil (p : Char → Bool) (s : Scan) (t : Text) : splitBare p s t ≠ [] := by
  cases t with
  | nil => simp [splitBare]
  | cons c cs =>
    by_cases h : s.isBare && p c
    · simp [splitBare, h]
    · simp only [splitBare, h, Bool.false_eq_true, if_false]
      exact Text.growHead_ne_nil _ _

end Pipework.Shell
