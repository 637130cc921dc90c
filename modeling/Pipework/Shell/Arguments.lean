import Pipework.Shell.Scan

/-!
The words of a stage without their quoting, and the flags and values among them.
-/

set_option autoImplicit false
set_option relaxedAutoImplicit false

namespace Pipework.Shell.Posix

/-! ## Words

Inside double quotes a backslash escapes only a dollar sign, a grave accent, a double quote, a
backslash and a line feed, which it removes. A number sign at the start of a word begins a
comment up to the end of the line. A quote that stays open, or a backslash at the end, leaves no
words at all.
-/

inductive Mode
  | gap
  | comment
  | plain
  | single
  | double
  | plainEscape
  | doubleEscape
  deriving DecidableEq, Repr

def isSeparator (c : Char) : Bool := c == ' ' || c == '\t' || c == '\n'

/-- The mode after a character of a word outside quotes, and what the character adds. -/
def plainStep (c : Char) : Mode × Text :=
  if c = '\x22' then (.double, [])
  else if c = '\'' then (.single, [])
  else if c = '\\' then (.plainEscape, [])
  else (.plain, [c])

def doubleEscaped (c : Char) : Text :=
  if c = '$' ∨ c = '\x60' ∨ c = '\x22' ∨ c = '\\' then [c]
  else if c = '\n' then []
  else ['\\', c]

/-- The words from a mode on; `word` holds what the word read at present has so far. -/
def wordsFrom : Mode → Text → Text → Option (List Text)
  | .gap, _, [] => some []
  | .comment, _, [] => some []
  | .plain, word, [] => some [word]
  | _, _, [] => none
  | .gap, _, c :: cs =>
    if isSeparator c then wordsFrom .gap [] cs
    else if c = '#' then wordsFrom .comment [] cs
    else wordsFrom (plainStep c).1 (plainStep c).2 cs
  | .comment, _, c :: cs => wordsFrom (if c = '\n' then .gap else .comment) [] cs
  | .plain, word, c :: cs =>
    if isSeparator c then (wordsFrom .gap [] cs).map (word :: ·)
    else wordsFrom (plainStep c).1 (word ++ (plainStep c).2) cs
  | .single, word, c :: cs =>
    if c = '\'' then wordsFrom .plain word cs else wordsFrom .single (word ++ [c]) cs
  | .double, word, c :: cs =>
    if c = '\x22' then wordsFrom .plain word cs
    else if c = '\\' then wordsFrom .doubleEscape word cs
    else wordsFrom .double (word ++ [c]) cs
  | .plainEscape, word, c :: cs =>
    wordsFrom .plain (if c = '\n' then word else word ++ [c]) cs
  | .doubleEscape, word, c :: cs => wordsFrom .double (word ++ doubleEscaped c) cs

def words? (t : Text) : Option (List Text) := wordsFrom .gap [] t

end Pipework.Shell.Posix

namespace Pipework.Shell

/-- Take the quoting off one word. A text that is not exactly one word only loses its quote
characters. -/
def unquote (word : Text) : Text :=
  match Posix.words? word with
  | some [value] => value
  | _ => word.filter fun c => c != '\'' && c != '\x22'

def dollarQuoted? : Text → Option Text
  | '$' :: '\'' :: rest => if rest.getLast? = some '\'' then some rest.dropLast else none
  | _ => none

/-- Take the quoting off the value of a flag. Outside quotes the two characters of a tab are a
tab; behind a dollar sign they are one wherever they occur. -/
def unquoteValue (word : Text) : Text :=
  if word = ['\\', 't'] then ['\t']
  else match dollarQuoted? word with
    | some inner => Text.replace ['\\', 't'] ['\t'] inner
    | none => unquote word

def afterSlash : Text → Option Text
  | [] => none
  | c :: cs => (afterSlash cs).orElse fun _ => if c = '/' then some cs else none

/-- The name of a tool: the first word of a stage without its quoting and its directory. -/
def commandName (word : Text) : Text :=
  let plain := unquote word
  match afterSlash plain with
  | some (c :: cs) => c :: cs
  | _ => plain

example : unquote "'it'\\''s'".toList = "it's".toList := by decide
example : unquote "#x".toList = "#x".toList := by decide
example : unquoteValue "$'a\\tb'".toList = "a\tb".toList := by decide
example : commandName "/usr/bin/sort".toList = "sort".toList := by decide

/-! ## Arguments

A word that starts with a hyphen is a cluster of flags. A switch stands alone; any other flag
takes the next word as its value unless that starts with a hyphen, and ends its cluster; without
a word to take it is dropped. Behind a word of two hyphens every word is positional.
-/

inductive StageError
  | emptyStage
  | unknownCommand (name : Text)
  | unterminatedQuote
  | longOption (word : Text)
  deriving DecidableEq, Repr

def StageError.message : StageError → Text
  | .emptyStage => "empty pipeline stage".toList
  | .unknownCommand name => "unsupported command '".toList ++ name ++ ['\'']
  | .unterminatedQuote => "unterminated quote".toList
  | .longOption word => "long option '".toList ++ word ++ "' is not supported".toList

/-- A word that is no flag, as written and with its quoting taken off. -/
structure Positional where
  raw : Text
  value : Text
  deriving DecidableEq, Repr

inductive FlagArgument
  | switch
  | value (t : Text)
  deriving DecidableEq, Repr

structure Arguments where
  positionals : List Positional
  flags : List (Char × FlagArgument)
  deriving DecidableEq, Repr

def splitWords (stage : Text) : Except StageError (List Text) :=
  match splitWords? stage with
  | some words => .ok words
  | none => .error .unterminatedQuote

def isHyphenated (word : Text) : Bool := word.head? == some '-'

namespace Arguments

def empty : Arguments := ⟨[], []⟩

/-- What a cluster contributes in front of the word `next`, and whether it takes that word. -/
def cluster (isSwitch : Char → Bool) (next : Option Text) :
    Text → List (Char × FlagArgument) × Bool
  | [] => ([], false)
  | name :: names =>
    if isSwitch name then
      let (flags, taken) := cluster isSwitch next names
      ((name, .switch) :: flags, taken)
    else
      match next.filter (!isHyphenated ·) with
      | some word => ([(name, .value (unquoteValue word))], true)
      | none => cluster isSwitch next names

def addPositional (word : Text) (args : Arguments) : Arguments :=
  { args with positionals := ⟨word, unquote word⟩ :: args.positionals }

def addFlags (flags : List (Char × FlagArgument)) (args : Arguments) : Arguments :=
  { args with flags := flags ++ args.flags }

def positionalOnly (words : List Text) : Arguments := words.foldr addPositional empty

/-- Sort words, given which flags are switches. -/
def scan (isSwitch : Char → Bool) : List Text → Except StageError Arguments
  | [] => .ok empty
  | word :: rest =>
    if !isHyphenated word then (scan isSwitch rest).map (addPositional word)
    else if word = ['-', '-'] then .ok (positionalOnly rest)
    else if ['-', '-'].isPrefixOf word then .error (.longOption word)
    else
      match rest with
      | [] => .ok (addFlags (cluster isSwitch none word.tail).1 empty)
      | next :: others =>
        let (flags, taken) := cluster isSwitch (some next) word.tail
        (if taken then scan isSwitch others else scan isSwitch (next :: others)).map
          (addFlags flags)

/-- The last occurrence of a flag. -/
def flag? (args : Arguments) (name : Char) : Option FlagArgument :=
  (args.flags.reverse.find? (·.1 == name)).map Prod.snd

def isSet (args : Arguments) (name : Char) : Bool := (args.flag? name).isSome

def value? (args : Arguments) (name : Char) : Option Text :=
  match args.flag? name with
  | some (.value t) => some t
  | _ => none

def isEmpty (args : Arguments) : Bool := args.positionals.isEmpty && args.flags.isEmpty

end Arguments

end Pipework.Shell
