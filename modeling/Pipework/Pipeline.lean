import Pipework.Configuration

/-!
A pipeline under edit: its steps in order, and the templates that new steps start from.

Steps are addressed by id. Ids come from a supply in order, and `issued` says how many of it are
used up, so that no id is handed out twice.
-/

set_option autoImplicit false
set_option relaxedAutoImplicit false

namespace Pipework

structure Pipeline where
  steps : List Step
  templates : Templates
  /-- How many ids of the supply are used up. -/
  issued : Nat

inductive EditError
  | unknownStep (id : StepId)
  | unknownKey (tool : Tool) (key : Text)
  | expectsFlag (tool : Tool) (key : Text)
  | expectsText (tool : Tool) (key : Text)
  deriving DecidableEq, Repr

namespace EditError

def ofFault (tool : Tool) (key : Text) : OptionFault → EditError
  | .unknownKey => .unknownKey tool key
  | .expectsFlag => .expectsFlag tool key
  | .expectsText => .expectsText tool key

def wrongType (tool : Tool) (key expected : Text) : Text :=
  "option '".toList ++ key ++ "' of ".toList ++ tool.name ++ " expects ".toList ++ expected

def messageWith (name : StepId → Text) : EditError → Text
  | .unknownStep id => "no step with id ".toList ++ name id
  | .unknownKey tool key => tool.name ++ " has no option '".toList ++ key ++ ['\'']
  | .expectsFlag tool key => wrongType tool key "a flag".toList
  | .expectsText tool key => wrongType tool key "text".toList

def message : EditError → Text := messageWith StepId.toText

end EditError

def Filter.edit (f : Filter) (key : Text) (value : OptionValue) : Except EditError Filter :=
  (f.set key value).mapError (.ofFault f.tool key)

namespace Pipeline

def empty (templates : Templates) : Pipeline := ⟨[], templates, 0⟩

/-- The first step with an id. -/
def step? (p : Pipeline) (id : StepId) : Option Step := p.steps.find? (·.id = id)

def isEmpty (p : Pipeline) : Bool := p.steps.isEmpty

def add (supply : IdSupply) (p : Pipeline) (tool : Tool) : StepId × Pipeline :=
  let id := supply p.issued
  (id, { p with steps := p.steps ++ [⟨id, p.templates.filter tool⟩], issued := p.issued + 1 })

/-- Take out the first step with an id. -/
def remove (p : Pipeline) (id : StepId) : Option Step × Pipeline :=
  (p.step? id, { p with steps := p.steps.eraseP (·.id = id) })

def editFirst (id : StepId) (key : Text) (value : OptionValue) :
    List Step → Except EditError (List Step)
  | [] => .error (.unknownStep id)
  | s :: rest =>
    if s.id = id then (s.filter.edit key value).map fun f => ⟨s.id, f⟩ :: rest
    else (editFirst id key value rest).map (s :: ·)

def setOption (p : Pipeline) (id : StepId) (key : Text) (value : OptionValue) :
    Except EditError Pipeline :=
  (editFirst id key value p.steps).map fun steps => { p with steps := steps }

/-- Take a whole new sequence of steps; those without an id get one. -/
def replace (supply : IdSupply) (p : Pipeline) (drafts : List Draft) : Pipeline :=
  let (steps, issued) := Draft.settle supply p.issued drafts
  { p with steps := steps, issued := issued }

def load (supply : IdSupply) (p : Pipeline) (command : Text) :
    Except Shell.CommandError Pipeline :=
  (Shell.parse command).map fun filters => p.replace supply (filters.map fun f => ⟨none, f⟩)

def filters (p : Pipeline) : List Filter := p.steps.map (·.filter)

def preview (p : Pipeline) (raw : Text) : Text := Preview.evaluate raw p.filters

def command (p : Pipeline) (serializer : Shell.Serializer) (formatted : Bool) : Text :=
  serializer.serialize formatted p.filters

end Pipeline

end Pipework
