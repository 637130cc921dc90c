import Pipework.Json.Reader
import Pipework.Step.Json

/-!
Reading a list of steps straight from JSON text.

Fields are judged in the order they are written, so that of several faults the first one in the
text decides whether the text is malformed, unfinished, or of the wrong shape. The options of a
step are judged when the step is complete; unknown fields are only passed over.
-/

set_option autoImplicit false
set_option relaxedAutoImplicit false

namespace Pipework.Listing

open Json (Fault Reader)

/-- What is wrong with a value that should have another shape: a fault inside it, or its shape. -/
def wrongShape (t : Text) : Fault :=
  match t with
  | [] => .unfinished
  | c :: _ =>
    if c = '[' ∨ c = '\x7b' then .mismatched
    else match Json.readValue 2 t with
      | .ok _ => .mismatched
      | .error e => e

def decoded {α : Type} (decoder : Decode.Decoder α) (j : Json) : Except Fault α :=
  match decoder j with
  | .ok a => .ok a
  | .error _ => .error .mismatched

def readId (depth : Nat) : Reader StepId := fun t => do
  let (j, rest) ← Json.readValue depth t
  return (← decoded Decode.stepId j, rest)

def readName : Reader Tool := fun t =>
  match Json.skipSpace t with
  | [] => .error .unfinished
  | '\x22' :: rest => do
    let (name, rest) ← Json.stringRest .keep rest
    match Tool.ofName? name with
    | some tool => .ok (tool, rest)
    | none => .error .mismatched
  | other => .error (wrongShape other)

def readUnit : Reader Unit := fun t =>
  match Json.skipSpace t with
  | [] => .error .unfinished
  | 'n' :: rest => do
    let (_, rest) ← Json.literalTail "ull".toList .null rest
    return ((), rest)
  | other => .error (wrongShape other)

def readClose (close : Char) : Reader Unit := fun t =>
  match Json.skipSpace t with
  | [] => .error .unfinished
  | c :: rest => if c = close then .ok ((), rest) else .error .malformed

/-- The tool of a step: its name, or an object with its name as the only key. -/
def readTool (depth : Nat) : Reader Tool := fun t =>
  match Json.skipSpace t with
  | [] => .error .unfinished
  | '\x22' :: rest => readName ('\x22' :: rest)
  | '\x7b' :: rest => do
    let _ ← Json.deeper .keep depth
    let (tool, rest) ← readName rest
    let ((), rest) ← Json.colon rest
    let ((), rest) ← readUnit rest
    let ((), rest) ← readClose '\x7d' rest
    return (tool, rest)
  | _ => .error .malformed

/-- The options of a step, not yet judged. -/
def readOptions (depth : Nat) : Reader Json := fun t => do
  let (j, rest) ← Json.readValue depth t
  return (j.canonical, rest)

/-- The fields of a step as they come; a second value for a field is refused. -/
structure Fields where
  id : Option StepId
  tool : Option Tool
  options : Option Json

def readField (depth : Nat) (key : Text) (fields : Fields) : Reader Fields := fun t => do
  if key = "id".toList then
    if fields.id.isSome then throw .mismatched
    let ((), rest) ← Json.colon t
    let (id, rest) ← readId depth rest
    return ({ fields with id := some id }, rest)
  else if key = "type".toList then
    if fields.tool.isSome then throw .mismatched
    let ((), rest) ← Json.colon t
    let (tool, rest) ← readTool depth rest
    return ({ fields with tool := some tool }, rest)
  else if key = "options".toList then
    if fields.options.isSome then throw .mismatched
    let ((), rest) ← Json.colon t
    let (options, rest) ← readOptions depth rest
    return ({ fields with options := some options }, rest)
  else
    let ((), rest) ← Json.colon t
    let ((), rest) ← Json.passValue rest
    return (fields, rest)

def readFields (depth : Nat) : Nat → Bool → Fields → Reader Fields
  | 0, _, _, _ => .error .unfinished
  | fuel + 1, first, fields, t =>
    match Json.nextKey first t with
    | .error e => .error e
    | .ok (.inr rest) => .ok (fields, rest)
    | .ok (.inl start) => do
      let (key, rest) ← Json.stringRest .keep start
      let (fields, rest) ← readField depth key fields rest
      readFields depth fuel false fields rest

def readItems (depth : Nat) : Reader Fields := fun t => do
  match ← Json.nextItem true t with
  | .inr _ => .error .mismatched
  | .inl start =>
    let (id, rest) ← readId depth start
    match ← Json.nextItem false rest with
    | .inr _ => .error .mismatched
    | .inl start =>
      let (tool, rest) ← readTool depth start
      match ← Json.nextItem false rest with
      | .inr rest => return (⟨some id, some tool, none⟩, rest)
      | .inl start =>
        let (options, rest) ← readOptions depth start
        let ((), rest) ← readClose ']' rest
        return (⟨some id, some tool, some options⟩, rest)

def Fields.finish (fields : Fields) : Except Fault Draft := do
  match fields.tool with
  | none => throw .mismatched
  | some tool =>
    return ⟨fields.id, ← decoded (Decode.filter tool) (fields.options.getD .null)⟩

def readDraft (depth : Nat) : Reader Draft := fun t => do
  match Json.skipSpace t with
  | [] => .error .unfinished
  | '\x7b' :: rest =>
    let depth ← Json.deeper .keep depth
    let (fields, rest) ← readFields depth rest.length.succ true ⟨none, none, none⟩ rest
    return (← fields.finish, rest)
  | '[' :: rest =>
    let depth ← Json.deeper .keep depth
    let (fields, rest) ← readItems depth rest
    return (← fields.finish, rest)
  | other => .error (wrongShape other)

def readDrafts (depth : Nat) : Nat → Bool → Reader (List Draft)
  | 0, _, _ => .error .unfinished
  | fuel + 1, first, t =>
    match Json.nextItem first t with
    | .error e => .error e
    | .ok (.inr rest) => .ok ([], rest)
    | .ok (.inl start) => do
      let (draft, rest) ← readDraft depth start
      let (drafts, rest) ← readDrafts depth fuel false rest
      return (draft :: drafts, rest)

def ofText (t : Text) : Except Fault (List Draft) := do
  match Json.skipSpace t with
  | [] => .error .unfinished
  | '[' :: rest =>
    let depth ← Json.deeper .keep Json.depthLimit
    let (drafts, rest) ← readDrafts depth rest.length.succ true rest
    Json.atEnd rest
    return drafts
  | other => .error (wrongShape other)

end Pipework.Listing
