import Chronicle.Event.Meta
import Chronicle.Event.Kind

/-! Envelopes: commands as they arrive from outside. -/

namespace Chronicle

/-- A command as it arrives from outside. -/
structure Envelope where
  id : Option Uuid := none
  entityType : EntityType
  commandType : CommandType
  payload : Option Json := none
  issuer : CommandMeta
  deriving Inhabited

/-- Why an envelope does not give a command. -/
inductive EnvelopeError where
  | wrongEntityType (expected actual : EntityType)
  | missingPayload (t : CommandType)
  | missingId (t : CommandType)
  | payload (reason : String)

namespace EnvelopeError

def kind : EnvelopeError → String
  | .wrongEntityType .. => "WrongEntityType"
  | .missingPayload _ => "MissingPayload"
  | .missingId _ => "MissingId"
  | .payload _ => "Payload"

def message : EnvelopeError → String
  | .wrongEntityType e a => "envelope addressed to " ++ a.name ++ ", expected " ++ e.name
  | .missingPayload t => t.name ++ " requires a payload"
  | .missingId t => t.name ++ " requires an id"
  | .payload r => "payload does not decode: " ++ r

end EnvelopeError

namespace Envelope

def toJson (e : Envelope) : Json :=
  Json.mkObj [("id", Json.ofOption (e.id.map (.str ·.render))), ("entity_type", e.entityType.toJson),
    ("command_type", e.commandType.toJson), ("payload", Json.ofOption e.payload),
    ("meta", e.issuer.toJson)]

/-- Reads an envelope; a `null` payload counts as none. -/
def read (j : Json) : Decoded Envelope :=
  readRecord "CommandEnvelope"
    [Field.plain "id" .empty (Read.option Read.uuid) (fun e v => { e with id := v }),
     Field.plain "entity_type" .required EntityType.read (fun e v => { e with entityType := v }),
     Field.plain "command_type" .required CommandType.read (fun e v => { e with commandType := v }),
     Field.plain "payload" .empty (Read.option .ok) (fun e v => { e with payload := v }),
     ⟨"meta", fun o v e => (CommandMeta.read o v).map ({ e with issuer := · }), .required⟩]
    ⟨none, .client, .insert, none, ⟨"", "", none⟩⟩ .document j

def new (k : EntityType) (t : CommandType) (issuer : CommandMeta) : Envelope :=
  { entityType := k, commandType := t, issuer := issuer }

def withId (e : Envelope) (id : Uuid) : Envelope := { e with id := some id }

def withPayload (e : Envelope) (p : Json) : Envelope := { e with payload := some p }

def expectKind (e : Envelope) (k : EntityType) : Except EnvelopeError Unit :=
  if e.entityType = k then .ok () else .error (.wrongEntityType k e.entityType)

def requireId (e : Envelope) : Except EnvelopeError Uuid :=
  match e.id with
  | some i => .ok i
  | none => .error (.missingId e.commandType)

def requirePayload (e : Envelope) : Except EnvelopeError Json :=
  match e.payload with
  | some p => .ok p
  | none => .error (.missingPayload e.commandType)

end Envelope

end Chronicle
