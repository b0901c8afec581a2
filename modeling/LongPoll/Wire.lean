/-
# Messages as JSON text

A message is written as an object with its fields in a fixed order. It is read from an object with
its fields in any order and among any others, or from an array of its fields in that fixed order,
where the last ones may be left out if they have a default. A position is written as a string of
digits, and read from such a string or from a number.

Key definitions: `Wire.request`, `Wire.asRequest`, `Wire.response`, `Wire.asResponse`,
`Wire.connId`, `Wire.asConnId`, `Wire.asPosition`.
-/
import LongPoll.Json.Decode
import LongPoll.Message

namespace LongPoll.Wire

/-! ### Writing -/

def position (p : Position) : Json := .str p.text

/-- A request, its timeout in whole milliseconds. -/
def request {β : Type} (body : β → Json) (r : Request β) : Json :=
  .obj
    [("pos", position r.position), ("body", body r.body), ("txn_id", .str r.txnId),
     ("timeout_ms", .int r.timeout.millis)]

def response {π : Type} (payload : π → Json) (r : Response π) : Json :=
  .obj
    [("pos", position r.position), ("txn_id", .str r.txnId), ("payload", payload r.payload)]

def connId (id : ConnId) : Json := .obj [("device_id", .str id.deviceId)]

/-! ### Reading a field -/

open Draft

/-- A string of digits, or a number that is no float and not negative. -/
def asPosition : Draft → Except DecodeError Position
  | .string q => do
    let s ← ofBreak q.read
    match Position.parse? s with
    | some p => .ok p
    | none => .error (.data (.badPosition s))
  | .number n => do
    match ← ofBreak n.read with
    | .float x =>
      .error (.data (.wrongType (.float x) "a decimal position string or an unsigned integer"))
    | .int i =>
      if i < 0 then .error (.data (.negativePosition i))
      else match Position.ofNat? i.toNat with
        | some p => .ok p
        | none => .error (.data (.negativePosition i))
  | d => mismatch "a decimal position string or an unsigned integer" d

def asMillis : Draft → Except DecodeError Duration
  | .number n => do
    match ← ofBreak n.read with
    | .float x => .error (.data (.wrongType (.float x) "u64"))
    | .int i =>
      if i < 0 then .error (.data (.wrongValue (.int i) "u64")) else .ok (.ofMillis i.toNat)
  | d => mismatch "u64" d

def asJson (d : Draft) : Except DecodeError Json := ofBreak (d.value (depthLimit - 1))

/-! ### Reading a message -/

/-- Reads the members of an object one after another. -/
def members {φ : Type} (add : φ → String → Draft → Except DecodeError φ) (stop : Option Break) :
    φ → List (Quoted × Draft) → Except DecodeError φ
  | fields, [] =>
    match stop with
    | none => .ok fields
    | some b => .error (.text b)
  | fields, (key, d) :: rest => do
    let key ← ofBreak key.read
    let fields ← add fields key d
    members add stop fields rest

/-- The next item of an array, if it has one. -/
def next (stop : Option Break) : List Draft → Except DecodeError (Option Draft × List Draft)
  | d :: rest => .ok (some d, rest)
  | [] =>
    match stop with
    | none => .ok (none, [])
    | some b => .error (.text b)

/-- The array ends here. -/
def close (stop : Option Break) : List Draft → Except DecodeError Unit
  | _ :: _ => .error (.text .malformed)
  | [] =>
    match stop with
    | none => .ok ()
    | some b => .error (.text b)

/-- Reads a field whose name is not to come twice. -/
def once {α : Type} (name : String) (old : Option α) (read : Draft → Except DecodeError α)
    (d : Draft) : Except DecodeError (Option α) :=
  match old with
  | some _ => .error (.data (.duplicate name))
  | none => (read d).map some

/-- A field that has to be there. -/
def need {α : Type} (name : String) (value : Option α) : Except DecodeError α :=
  match value with
  | some a => .ok a
  | none => .error (.data (.missing name))

/-- An item that has to be there, after `count` others. -/
def needItem {α : Type} (count : Nat) (expected : String) (item : Option Draft)
    (read : Draft → Except DecodeError α) : Except DecodeError α :=
  match item with
  | some d => read d
  | none => .error (.data (.wrongLength count expected))

/-- An item that may be left out. -/
def optionalItem {α : Type} (fallback : α) (item : Option Draft)
    (read : Draft → Except DecodeError α) : Except DecodeError α :=
  match item with
  | some d => read d
  | none => .ok fallback

/-- The fields of a request, as far as they have been read. -/
structure RequestFields (β : Type) where
  pos : Option Position
  body : Option β
  txnId : Option String
  timeout : Option Duration

def RequestFields.add {β : Type} (body : Draft → Except DecodeError β) (f : RequestFields β)
    (key : String) (d : Draft) : Except DecodeError (RequestFields β) :=
  if key = "pos" then do return { f with pos := ← once "pos" f.pos asPosition d }
  else if key = "body" then do return { f with body := ← once "body" f.body body d }
  else if key = "txn_id" then do return { f with txnId := ← once "txn_id" f.txnId asString d }
  else if key = "timeout_ms" then do
    return { f with timeout := ← once "timeout_ms" f.timeout asMillis d }
  else do
    let _ ← ofBreak d.skip
    return f

def RequestFields.finish {β : Type} (f : RequestFields β) : Except DecodeError (Request β) := do
  let position ← need "pos" f.pos
  let body ← need "body" f.body
  return { position, body, txnId := f.txnId.getD ""
           timeout := f.timeout.getD Request.defaultTimeout }

def requestOfItems {β : Type} (body : Draft → Except DecodeError β) (stop : Option Break)
    (items : List Draft) : Except DecodeError (Request β) := do
  let expected := "struct Request with 4 elements"
  let (item, items) ← next stop items
  let position ← needItem 0 expected item asPosition
  let (item, items) ← next stop items
  let body ← needItem 1 expected item body
  let (item, items) ← next stop items
  let txnId ← optionalItem "" item asString
  let (item, items) ← next stop items
  let timeout ← optionalItem Request.defaultTimeout item asMillis
  let _ ← close stop items
  return { position, body, txnId, timeout }

def asRequest {β : Type} (body : Draft → Except DecodeError β) :
    Draft → Except DecodeError (Request β)
  | .object ms stop => do
    let fields ← members (RequestFields.add body) stop ⟨none, none, none, none⟩ ms
    fields.finish
  | .array items stop => requestOfItems body stop items
  | d => mismatch "struct Request" d

structure ResponseFields (π : Type) where
  pos : Option Position
  txnId : Option String
  payload : Option π

def ResponseFields.add {π : Type} (payload : Draft → Except DecodeError π) (f : ResponseFields π)
    (key : String) (d : Draft) : Except DecodeError (ResponseFields π) :=
  if key = "pos" then do return { f with pos := ← once "pos" f.pos asPosition d }
  else if key = "txn_id" then do return { f with txnId := ← once "txn_id" f.txnId asString d }
  else if key = "payload" then do
    return { f with payload := ← once "payload" f.payload payload d }
  else do
    let _ ← ofBreak d.skip
    return f

def ResponseFields.finish {π : Type} (f : ResponseFields π) : Except DecodeError (Response π) := do
  let position ← need "pos" f.pos
  let payload ← need "payload" f.payload
  return { position, txnId := f.txnId.getD "", payload }

def responseOfItems {π : Type} (payload : Draft → Except DecodeError π) (stop : Option Break)
    (items : List Draft) : Except DecodeError (Response π) := do
  let expected := "struct Response with 3 elements"
  let (item, items) ← next stop items
  let position ← needItem 0 expected item asPosition
  let (item, items) ← next stop items
  let txnId ← optionalItem "" item asString
  let (item, items) ← next stop items
  let payload ← needItem 2 expected item payload
  let _ ← close stop items
  return { position, txnId, payload }

def asResponse {π : Type} (payload : Draft → Except DecodeError π) :
    Draft → Except DecodeError (Response π)
  | .object ms stop => do
    let fields ← members (ResponseFields.add payload) stop ⟨none, none, none⟩ ms
    fields.finish
  | .array items stop => responseOfItems payload stop items
  | d => mismatch "struct Response" d

def addDevice (device : Option String) (key : String) (d : Draft) :
    Except DecodeError (Option String) :=
  if key = "device_id" then once "device_id" device asString d
  else do
    let _ ← ofBreak d.skip
    return device

def asConnId : Draft → Except DecodeError ConnId
  | .object ms stop => do
    let device ← members addDevice stop none ms
    return ⟨← need "device_id" device⟩
  | .array items stop => do
    let (item, items) ← next stop items
    let device ← needItem 0 "struct ConnId with 1 element" item asString
    let _ ← close stop items
    return ⟨device⟩
  | d => mismatch "struct ConnId" d

end LongPoll.Wire
