import Pipework.Configuration
import Pipework.Json.Reader

/-!
Requests, their answers, and the history that is kept of them.
-/

set_option autoImplicit false
set_option relaxedAutoImplicit false

namespace Pipework

/-! ## History

How much the terminal shows is set by the name of a level. The history keeps its lines whatever
that level is.
-/

inductive LogLevel
  | off
  | error
  | warn
  | info
  | debug
  | trace
  deriving DecidableEq, Repr

namespace LogLevel

def all : List LogLevel := [.off, .error, .warn, .info, .debug, .trace]

def name : LogLevel → Text
  | .off => "OFF".toList
  | .error => "ERROR".toList
  | .warn => "WARN".toList
  | .info => "INFO".toList
  | .debug => "DEBUG".toList
  | .trace => "TRACE".toList

def rank : LogLevel → Nat
  | .off => 0
  | .error => 1
  | .warn => 2
  | .info => 3
  | .debug => 4
  | .trace => 5

def max (a b : LogLevel) : LogLevel := if a.rank < b.rank then b else a

/-- The level of a name in letters of either case, blanks around it; `warn` if there is none. -/
def ofText (t : Text) : LogLevel :=
  (all.find? fun level => level.name == (Text.trim t).map Char.toUpper).getD .warn

end LogLevel

def Settings.terminalLevel (s : Settings) (verbose : Bool) : LogLevel :=
  if verbose then .debug else .ofText s.logLevel

/-- A path whose first part may be a tilde, which stands for the home directory. -/
def Text.expandHome (home : Text) : Text → Text
  | '~' :: rest => if rest.isEmpty || rest.head? == some '/' then home ++ rest else '~' :: rest
  | path => path

def Settings.historyPath? (home : Text) (s : Settings) : Option Text :=
  if Text.isBlankText s.historyLog then none else some (Text.expandHome home s.historyLog)

structure HistoryRecord where
  action : Text
  summary : Text
  outcome : Text
  deriving DecidableEq, Repr

namespace HistoryRecord

def longest : Nat := 200

/-- A text on one line: line feeds become semicolons, and a long text is cut. -/
def oneLine (t : Text) : Text :=
  let flat := Text.replace ['\n'] [';', ' '] t
  if longest < flat.length then flat.take longest ++ "...".toList else flat

def text (r : HistoryRecord) : Text :=
  r.action ++ '\t' :: oneLine r.summary ++ '\t' :: oneLine r.outcome

end HistoryRecord

/-! ## Requests

A request is an object whose `action` says what is asked for, or an array that starts with the
action and goes on with the fields in order. No field may occur twice in an object.
-/

inductive Request
  /-- The preview of some steps over a text. -/
  | preview (input : Text) (steps : List Draft)
  /-- The command of some steps; without `format` the settings decide on the lines. -/
  | command (steps : List Draft) (format : Option Bool)
  /-- The steps of a command. -/
  | parse (command : Text)

namespace Request

def repeats (keys : List Text) (members : List (Text × Json)) : Bool :=
  keys.any fun key => 1 < (members.map Prod.fst).count key

def stepKeys : List Text := ["id".toList, "type".toList, "options".toList]

def step? : Json → Option Draft
  | .object members =>
    if repeats stepKeys members then none
    else (Decode.draft true (.object members)).toOption
  | j => (Decode.draft true j).toOption

def steps? : Json → Option (List Draft)
  | .array items => items.mapM step?
  | _ => none

def text? : Json → Option Text
  | .string t => some t
  | _ => none

/-- A flag that may be left open. -/
def choice? : Json → Option (Option Bool)
  | .null => some none
  | .bool b => some (some b)
  | _ => none

def optional {α : Type} (missing : α) (read : Json → Option α) : Option Json → Option α
  | none => some missing
  | some j => read j

def ofFields? (action : Text) (input steps format command : Option Json) : Option Request :=
  if action = "preview".toList then
    return .preview (← optional [] text? input) (← optional [] steps? steps)
  else if action = "command".toList then
    return .command (← optional [] steps? steps) (← optional none choice? format)
  else if action = "parse".toList then
    return .parse (← text? (← command))
  else none

def fieldKeys (action : Text) : List Text :=
  if action = "preview".toList then ["input".toList, "steps".toList]
  else if action = "command".toList then ["steps".toList, "format".toList]
  else ["command".toList]

def ofJson? : Json → Option Request
  | j@(.object members) => do
    let action ← text? (← j.member? "action".toList)
    if repeats ("action".toList :: fieldKeys action) members then none
    let field (key : String) := j.member? key.toList
    ofFields? action (field "input") (field "steps") (field "format") (field "command")
  | .array (.string action :: items) =>
    if action = "preview".toList ∧ items.length ≤ 2 then
      ofFields? action items[0]? items[1]? none none
    else if action = "command".toList ∧ items.length = 2 then
      ofFields? action none items[0]? items[1]? none
    else if action = "parse".toList ∧ items.length = 1 then
      ofFields? action none none none items[0]?
    else none
  | _ => none

def ofText? (t : Text) : Option Request := do
  ofJson? (← (Json.ofText t).toOption)

def single (key : String) (value : Json) : Json := .object [(key.toList, value)]

/-- The answer to a request, and the record of it. Steps of a command get the first ids of a
supply. -/
def answer (c : Configuration) (supply : IdSupply) : Request → Json × HistoryRecord
  | .preview input steps =>
    let summary := Text.ofNat steps.length ++ " steps".toList
    match Preview.run input (steps.map (·.filter)) with
    | .ok text => (single "preview" (.string text), ⟨"preview".toList, summary, "ok".toList⟩)
    | .error e => (single "error" (.string e.message), ⟨"preview".toList, summary, "error".toList⟩)
  | .command steps format =>
    let text :=
      c.settings.serializer.serialize (format.getD c.settings.format) (steps.map (·.filter))
    (single "command" (.string text), ⟨"command".toList, text, "ok".toList⟩)
  | .parse text =>
    match Shell.parse text with
    | .ok filters =>
      let steps := (Draft.settle supply 0 (filters.map fun f => ⟨none, f⟩)).1
      (single "steps" (.array (steps.map Step.toJson)), ⟨"parse".toList, text, "ok".toList⟩)
    | .error e => (single "error" (.string e.message), ⟨"parse".toList, text, e.message⟩)

end Request

end Pipework
