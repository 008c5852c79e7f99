import Chronicle.Session.Request
import Chronicle.Record.Envelope
import Chronicle.Record.Rules
import Chronicle.Listing.Basic
import Chronicle.Event.Message

/-! How answers show commands, records and listings. -/

namespace Chronicle

namespace Shapes

variable {σ : Type} [Record σ]

def describe (c : Command σ) : Json :=
  Json.mkObj [("class", .str c.cls), ("command_type", c.commandType.toJson),
    ("target", Json.ofOption (c.target.map (.str ·.render))),
    ("forces_snapshot", .bool c.forcesSnapshot), ("payload", c.payload),
    ("meta", c.issuer.toJson), ("logged", c.toJson)]

def describeListCommand (c : ListCommand) : Json :=
  Json.mkObj [("class", .str c.cls), ("id", .str c.id.render), ("forces_snapshot", .bool false),
    ("logged", c.toJson)]

def summary (s : σ) : Json :=
  Json.mkObj [("entity_id", Json.ofOption ((Record.id s).map (.str ·.render))),
    ("display_name", .str (Record.displayName s)), ("is_active", .bool (Record.isActive s))]

def fromEnvelope (σ : Type) [Record σ] (e : Envelope) : Json :=
  match (Command.ofEnvelope e : Except EnvelopeError (Command σ)) with
  | .ok c => describe c
  | .error err => err.toJson

/-- Builds an event from its description: kinds, outcome (the message counts only for a
refusal), record, name, payload, issuer and announcing unit. -/
def readEvent (spec : Json) : Answered Event := do
  let k ← Request.needAs spec "entity_type" EntityType.read
  let t ← Request.needAs spec "command_type" CommandType.read
  let success := Request.flag spec "success" true
  let message ← Request.strOr spec "message" ""
  let id ← Request.optAs spec "id" Read.uuid
  let name ← Request.strOr spec "display_name" ""
  let payload := (spec.field? "payload").getD .null
  let issuer : CommandMeta :=
    ⟨← Request.strOr spec "acting_user" "", ← Request.strOr spec "connection_id" "", none⟩
  let unit ← Request.strOr spec "emitting_unit" ""
  let base := if success then Event.succeeded k t issuer else Event.failed k t issuer message
  pure (((base.emittedBy unit).forEntity id name).withPayload payload)

end Shapes

end Chronicle
