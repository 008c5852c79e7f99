import Chronicle.Record.Basic
import Chronicle.Event.Meta

/-! The five commands on a record, and their logged form. -/

namespace Chronicle

/-- A command that carries a payload record. -/
structure Change (σ : Type) where
  id : Option Uuid
  state : σ
  issuer : CommandMeta

/-- A command that moves a record through its life: delete or undelete. -/
structure Lifecycle where
  id : Uuid
  issuer : CommandMeta
  deriving DecidableEq

/-- A command on a record of kind `σ`. -/
inductive Command (σ : Type) where
  | insert (c : Change σ)
  | update (c : Change σ)
  | upsert (c : Change σ)
  | delete (l : Lifecycle)
  | undelete (l : Lifecycle)

namespace Command

variable {σ : Type} [Record σ]

/-- The kind of a command. -/
def commandType : Command σ → CommandType
  | .insert _ => .insert
  | .update _ => .update
  | .upsert _ => .upsert
  | .delete _ => .delete
  | .undelete _ => .undelete

/-- The class a command of a kind is logged under, such as `ClientInsertCommand`. -/
def classOf (k : EntityType) (t : CommandType) : String :=
  k.name ++ (match t with
    | .insert => "Insert"
    | .update => "Update"
    | .upsert => "Upsert"
    | .delete => "Delete"
    | .undelete => "Undelete") ++ "Command"

def classes (k : EntityType) : List String :=
  [.insert, .update, .upsert, .delete, .undelete].map (classOf k)

def cls (c : Command σ) : String :=
  classOf (Record.kind σ) c.commandType

def target : Command σ → Option Uuid
  | .insert c | .update c | .upsert c => c.id
  | .delete l | .undelete l => some l.id

/-- The command aimed at the given record. -/
def withTarget (id : Uuid) : Command σ → Command σ
  | .insert c => .insert { c with id := some id }
  | .update c => .update { c with id := some id }
  | .upsert c => .upsert { c with id := some id }
  | .delete l => .delete { l with id := id }
  | .undelete l => .undelete { l with id := id }

def issuer : Command σ → CommandMeta
  | .insert c | .update c | .upsert c => c.issuer
  | .delete l | .undelete l => l.issuer

def payload : Command σ → Json
  | .insert c | .update c | .upsert c => Record.toJson c.state
  | .delete _ | .undelete _ => .null

def forcesSnapshot : Command σ → Bool
  | .insert _ | .delete _ | .undelete _ => true
  | .update _ | .upsert _ => false

/-- The logged document of a command. -/
def toJson (c : Command σ) : Json :=
  match c with
  | .insert ch | .update ch | .upsert ch =>
    Json.mkObj [("CommandClass", .str c.cls), ("id", Json.ofOption (ch.id.map (.str ·.render))),
      ("state", Record.toJson ch.state), ("meta", ch.issuer.toJson)]
  | .delete l | .undelete l =>
    Json.mkObj [("CommandClass", .str c.cls), ("id", .str l.id.render), ("meta", l.issuer.toJson)]

/-- Reads the fields of a command that carries a payload. -/
def readChange (origin : Origin) (j : Json) : Decoded (Change σ) :=
  readRecord "StateChange"
    [⟨"id", fun _ v c => (Read.option Read.uuid v).map ({ c with id := · }), .empty⟩,
     ⟨"state", fun o v c => (Record.read o v).map ({ c with state := · }), .required⟩,
     ⟨"meta", fun o v c => (CommandMeta.read o v).map ({ c with issuer := · }), .required⟩]
    ⟨none, Record.empty, default⟩ origin j

def readLifecycle (origin : Origin) (j : Json) : Decoded Lifecycle :=
  readRecord "Lifecycle"
    [⟨"id", fun _ v l => (Read.uuid v).map ({ l with id := · }), .required⟩,
     ⟨"meta", fun o v l => (CommandMeta.read o v).map ({ l with issuer := · }), .required⟩]
    ⟨default, default⟩ origin j

/-- Reads a logged command of this record kind. -/
def read (j : Json) : Decoded (Command σ) :=
  let k := Record.kind σ
  readTagged (k.name ++ "Command") "CommandClass" (classes k) (fun name body =>
    if name = classOf k .insert then (readChange .buffered body).map .insert
    else if name = classOf k .update then (readChange .buffered body).map .update
    else if name = classOf k .upsert then (readChange .buffered body).map .upsert
    else if name = classOf k .delete then (readLifecycle .buffered body).map .delete
    else (readLifecycle .buffered body).map .undelete) j

end Command

end Chronicle
