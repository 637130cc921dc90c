import Pipework.Program.Request

/-!
A run of the program: one request from standard input, one answer on standard output.

The overlay is read first. The history file is opened before the request is read, so that a
request that cannot be read leaves an empty history. Of standard error an outcome has the complaint
with which a run fails and nothing else: an overlay that cannot be read is reported there as well,
with its path and the cause, and so are the lines of the log, but the run goes on and ends as it
does without them.
-/

set_option autoImplicit false
set_option relaxedAutoImplicit false

namespace Pipework.CommandLine

/-! ## Arguments

Arguments are read from the left, and the first fault or the first option that asks for
information decides. No option may be repeated, and nothing but options is taken.
-/

structure Options where
  /-- The overlay to read in place of the usual one. -/
  config : Option Text
  /-- Print the configuration and stop. -/
  dump : Bool
  verbose : Bool
  deriving DecidableEq, Repr

def Options.none : Options := ⟨Option.none, false, false⟩

inductive Order
  | help
  | version
  | run (options : Options)
  deriving DecidableEq, Repr

inductive Fault
  | unexpected (word : Text)
  | repeated (option : Text)
  | missingValue (option : Text)
  | unwantedValue (option : Text)
  deriving DecidableEq, Repr

def Fault.message : Fault → Text
  | .unexpected word => "error: unexpected argument '".toList ++ word ++ "' found".toList
  | .repeated option =>
    "error: the argument '".toList ++ option ++ "' cannot be used multiple times".toList
  | .missingValue option =>
    "error: a value is required for '".toList ++ option ++ "' but none was supplied".toList
  | .unwantedValue option =>
    "error: unexpected value for '".toList ++ option ++ "' found".toList

inductive Flag
  | dump
  | verbose
  | version
  | help
  deriving DecidableEq, Repr

def Flag.ofName? (name : Text) : Option Flag :=
  if name = "dump-config".toList then some .dump
  else if name = "verbose".toList then some .verbose
  else if name = "version".toList then some .version
  else if name = "help".toList then some .help
  else .none

def Flag.ofLetter? (c : Char) : Option Flag :=
  if c = 'v' then some .verbose
  else if c = 'V' then some .version
  else if c = 'h' then some .help
  else .none

/-- Set a flag, or stop with what it asks for. -/
def Options.raise (o : Options) (written : Text) : Flag → Except Fault (Options ⊕ Order)
  | .dump => if o.dump then .error (.repeated written) else .ok (.inl { o with dump := true })
  | .verbose =>
    if o.verbose then .error (.repeated written) else .ok (.inl { o with verbose := true })
  | .version => .ok (.inr .version)
  | .help => .ok (.inr .help)

def Options.raiseLetters (o : Options) (word : Text) : Text → Except Fault (Options ⊕ Order)
  | [] => .ok (.inl o)
  | c :: rest =>
    match Flag.ofLetter? c with
    | .none => .error (.unexpected word)
    | some flag =>
      match o.raise ['-', c] flag with
      | .ok (.inl o) => raiseLetters o word rest
      | stop => stop

def Options.setConfig (o : Options) (path : Text) : Except Fault Options :=
  if o.config.isSome then .error (.repeated "--config".toList)
  else .ok { o with config := some path }

/-- A word that cannot be the value of the option in front of it. -/
def isOption (word : Text) : Bool := word.head? == some '-' && word != ['-']

/-- A word after its two hyphens: the name, and the value behind an equals sign. -/
def splitName (t : Text) : Text × Option Text :=
  match t.dropWhile (· != '=') with
  | [] => (t, .none)
  | _ :: value => (t.takeWhile (· != '='), some value)

def readInto (o : Options) : List Text → Except Fault Order
  | [] => .ok (.run o)
  | ('-' :: '-' :: long) :: rest =>
    if long.isEmpty then
      match rest with
      | [] => .ok (.run o)
      | word :: _ => .error (.unexpected word)
    else
      let (name, value) := splitName long
      if name = "config".toList then
        match value with
        | some path => do readInto (← o.setConfig path) rest
        | .none =>
          match rest with
          | [] => .error (.missingValue ('-' :: '-' :: name))
          | path :: rest =>
            if isOption path then .error (.missingValue ('-' :: '-' :: name))
            else do readInto (← o.setConfig path) rest
      else
        match Flag.ofName? name, value with
        | .none, _ => .error (.unexpected ('-' :: '-' :: long))
        | some _, some _ => .error (.unwantedValue ('-' :: '-' :: name))
        | some flag, .none => do
          match ← o.raise ('-' :: '-' :: name) flag with
          | .inl o => readInto o rest
          | .inr order => .ok order
  | ('-' :: c :: letters) :: rest => do
    match ← o.raiseLetters ('-' :: c :: letters) (c :: letters) with
    | .inl o => readInto o rest
    | .inr order => .ok order
  | word :: _ => .error (.unexpected word)

def read (arguments : List Text) : Except Fault Order := readInto .none arguments

def versionText : Text := "pipesmith 0.1.0\n".toList

def helpText : Text :=
  Text.join ['\n']
    ["Step-by-step Unix pipeline builder".toList,
     [],
     "Usage: pipesmith [OPTIONS]".toList,
     [],
     "Options:".toList,
     "      --config <PATH>  Config overlay to use instead of ~/.config/pipesmith/config.toml".toList,
     "      --dump-config    Print the merged configuration as TOML and exit".toList,
     "  -v, --verbose        Log at debug level on stderr".toList,
     "  -h, --help           Print help".toList,
     "  -V, --version        Print version".toList,
     []]

end Pipework.CommandLine

/-! ## Surroundings

A host reads files and standard input and appends to files. A disk is a host without effects: a
file system as a value, with standard input beside it.
-/

namespace Pipework

/-- What a run needs from its surroundings. -/
structure Host (m : Type → Type) where
  /-- The home directory. -/
  home : Text
  /-- The text of a file, if it can be read. -/
  read : Text → m (Option Text)
  /-- Make sure that a file can be appended to, making it and its directories where they are
  missing. -/
  prepare : Text → m Bool
  /-- Append a line to a file. -/
  append : Text → Text → m Unit
  /-- Standard input, if it is text. -/
  input : m (Option Text)

structure Disk where
  /-- The working directory, which is also the home directory, by its parts. -/
  home : List Text
  /-- The files by the parts of their paths, with their lines or their text. -/
  files : List (List Text × Text)
  /-- Standard input. -/
  input : Text

namespace Disk

def follow (directory : List Text) : List Text → List Text
  | [] => directory
  | part :: rest =>
    if part = [] ∨ part = ['.'] then follow directory rest
    else if part = ['.', '.'] then follow directory.dropLast rest
    else follow (directory ++ [part]) rest

def resolve (d : Disk) (path : Text) : List Text :=
  follow (if path.head? = some '/' then [] else d.home) (Text.splitOn '/' path)

/-- A path that can only name a directory. -/
def namesDirectory (path : Text) : Bool :=
  (Text.splitOn '/' path).getLast?.any fun part => part == [] || part == ['.'] || part == ['.', '.']

def file? (d : Disk) (parts : List Text) : Option Text :=
  (d.files.find? (·.1 = parts)).map Prod.snd

/-- A directory is the home directory or lies above it or above a file. -/
def isDirectory (d : Disk) (parts : List Text) : Bool :=
  parts.isPrefixOf d.home ||
    d.files.any fun f => parts.isPrefixOf f.1 && parts != f.1

def isBlocked (d : Disk) (parts : List Text) : Bool :=
  d.files.any fun f => f.1.isPrefixOf parts && f.1 != parts

def read (d : Disk) (path : Text) : Option Text :=
  if namesDirectory path then none else d.file? (d.resolve path)

def prepare (d : Disk) (path : Text) : Bool × Disk :=
  let parts := d.resolve path
  if namesDirectory path || d.isDirectory parts || d.isBlocked parts then (false, d)
  else if (d.file? parts).isSome then (true, d)
  else (true, { d with files := d.files ++ [(parts, [])] })

def append (d : Disk) (path line : Text) : Disk :=
  let parts := d.resolve path
  { d with files := d.files.map fun f => if f.1 = parts then (f.1, f.2 ++ line ++ ['\n']) else f }

end Disk

/-- A disk as a host; `home` is the home directory as a path. -/
def Host.disk (home : Text) : Host (StateM Disk) where
  home := home
  read path := fun d => (d.read path, d)
  prepare path := fun d => d.prepare path
  append path line := fun d => ((), d.append path line)
  input := fun d => (some d.input, d)

end Pipework

/-! ## Runs -/

namespace Pipework.Program

structure Outcome where
  /-- The exit code. -/
  exit : Nat
  /-- The text on standard output. -/
  output : Text
  /-- What a run that fails writes to standard error; the place and the cause of a fault in the
  request are left out. -/
  complaint : Text
  deriving DecidableEq, Repr

namespace Outcome

def printed (text : Text) : Outcome := ⟨0, text, []⟩

/-- A run whose standard input is no text. -/
def badInput : Outcome := ⟨1, [], "failed to read stdin".toList⟩

/-- A run whose request cannot be read. The complaint goes on with the reader's own words for the
cause and its place, which are left out here. -/
def badRequest : Outcome := ⟨1, [], "JSON parse error".toList⟩

def badArguments (fault : CommandLine.Fault) : Outcome := ⟨2, [], fault.message⟩

end Outcome

variable {m : Type → Type} [Monad m]

def usualOverlay : Text := "~/.config/pipesmith/config.toml".toList

/-- The configuration with the overlay at a path. Without such a file it is the default one, and a
file that is no overlay changes nothing. The warnings about either on standard error, which name the
path and the cause, are no part of the result. -/
def loadConfiguration (host : Host m) (path : Option Text) : m Configuration := do
  match ← host.read (Text.expandHome host.home (path.getD usualOverlay)) with
  | some text => return Configuration.default.overlay text
  | none => return .default

/-- Open the history file; its path if that worked. -/
def openHistory (host : Host m) (s : Settings) : m (Option Text) := do
  match s.historyPath? host.home with
  | none => return none
  | some path => return if ← host.prepare path then some path else none

def logLevel (s : Settings) (verbose opened : Bool) : LogLevel :=
  if opened then (s.terminalLevel verbose).max .info else s.terminalLevel verbose

def serve (host : Host m) (supply : IdSupply) (c : Configuration) : m Outcome := do
  let history ← openHistory host c.settings
  match ← host.input with
  | none => return .badInput
  | some text =>
    match Request.ofText? text with
    | none => return .badRequest
    | some request =>
      let (answer, record) := request.answer c supply
      if let some path := history then
        host.append path ("[INFO] ".toList ++ record.text)
      return .printed (answer.toText ++ ['\n'])

def run (host : Host m) (supply : IdSupply) (arguments : List Text) : m Outcome := do
  match CommandLine.read arguments with
  | .error fault => return .badArguments fault
  | .ok .help => return .printed CommandLine.helpText
  | .ok .version => return .printed CommandLine.versionText
  | .ok (.run options) =>
    let c ← loadConfiguration host options.config
    if options.dump then return .printed c.dump
    else serve host supply c

end Pipework.Program
