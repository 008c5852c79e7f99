import Chronicle.Record.Command
import Chronicle.Event.Envelope

/-! Commands from envelopes, after four checks in a fixed order. -/

namespace Chronicle

namespace Command

variable {σ : Type} [Record σ]

def changeOf (e : Envelope) : Except EnvelopeError (Change σ) := do
  let p ← e.requirePayload
  match Record.read .document p with
  | .ok s => pure ⟨e.id, s, e.issuer⟩
  | .error f => throw (.payload f.message)

/-- The command an envelope carries, or why it carries none. -/
def ofEnvelope (e : Envelope) : Except EnvelopeError (Command σ) := do
  e.expectKind (Record.kind σ)
  match e.commandType with
  | .insert => .insert <$> changeOf e
  | .update =>
    let _ ← e.requireId
    .update <$> changeOf e
  | .upsert => .upsert <$> changeOf e
  | .delete => do
    let i ← e.requireId
    pure (.delete ⟨i, e.issuer⟩)
  | .undelete => do
    let i ← e.requireId
    pure (.undelete ⟨i, e.issuer⟩)

end Command

end Chronicle
