import Pipework.Filter

/-!
Commands: filters written as a pipeline of the shell, and read back.

The first stage reads the input and stands for no filter. Reading stops at the first stage that
is no filter, and says which stage it was.
-/

set_option autoImplicit false
set_option relaxedAutoImplicit false

namespace Pipework.Shell

structure Serializer where
  /-- The first stage, which reads the input. -/
  source : Text
  /-- What stands in front of every later stage when each has a line of its own. -/
  indent : Text
  deriving DecidableEq, Repr

namespace Serializer

def default : Serializer := ⟨"cat YOUR_FILE.csv".toList, [' ', ' ']⟩

def joint (s : Serializer) (formatted : Bool) : Text :=
  if formatted then " | \\\n".toList ++ s.indent else " | ".toList

def serialize (s : Serializer) (formatted : Bool) (filters : List Filter) : Text :=
  s.source ++ filters.flatMap fun f => s.joint formatted ++ f.render

end Serializer

/-- A stage that is no filter, trimmed, and the reason. -/
structure CommandError where
  stage : Text
  error : StageError
  deriving DecidableEq, Repr

def CommandError.message (e : CommandError) : Text :=
  "Error parsing '".toList ++ e.stage ++ "': ".toList ++ e.error.message

def parseStage (stage : Text) : Except StageError Filter := do
  match ← splitWords stage with
  | [] => throw .emptyStage
  | first :: rest =>
    let name := commandName first
    match Tool.ofName? name with
    | none => throw (.unknownCommand name)
    | some tool =>
      let args ← Arguments.scan tool.isSwitch rest
      return .ofArguments args tool

/-- The filters of stages, up to the first that is none. -/
def parseStages : List Text → Except CommandError (List Filter)
  | [] => .ok []
  | stage :: rest =>
    match parseStage stage with
    | .error e => .error ⟨stage, e⟩
    | .ok f => (parseStages rest).map (f :: ·)

/-- The filters of a command, whose first stage is passed over. -/
def parse (command : Text) : Except CommandError (List Filter) :=
  parseStages ((splitStages (normalize command)).drop 1)

end Pipework.Shell
