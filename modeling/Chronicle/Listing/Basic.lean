import Chronicle.Event.Message
import Chronicle.Core.Aggregate
import Chronicle.Core.Keyed

/-! Listings: the name and active flag of every record of one kind. -/

namespace Chronicle

/-- One record as a listing shows it. -/
structure ListItem where
  id : Uuid
  displayName : String
  isActive : Bool
  deriving DecidableEq, Inhabited

namespace ListItem

def toJson (i : ListItem) : Json :=
  Json.mkObj [("id", .str i.id.render), ("displayName", .str i.displayName),
    ("isActive", .bool i.isActive)]

/-- Reads an item; every field is required. -/
def read (origin : Origin) (j : Json) : Decoded ListItem :=
  readRecord "ListItem"
    [Field.plain "id" .required Read.uuid (fun i v => { i with id := v }),
     Field.plain "displayName" .required Read.string (fun i v => { i with displayName := v }),
     Field.plain "isActive" .required Read.bool (fun i v => { i with isActive := v })]
    ⟨default, "", false⟩ origin j

def ofEvent (e : Event) (id : Uuid) : ListItem :=
  ⟨id, e.displayName, ((e.payload.field? "isActive").bind Json.bool?).getD true⟩

end ListItem

/-- The index of the records of one kind, sorted by record. -/
structure Listing where
  items : List (Uuid × ListItem) := []
  deriving Inhabited

/-- A command on a listing. -/
inductive ListCommand where
  | insert (item : ListItem)
  | update (item : ListItem)
  | delete (id : Uuid)
  | undelete (id : Uuid)
  deriving DecidableEq

namespace ListCommand

def id : ListCommand → Uuid
  | .insert i | .update i => i.id
  | .delete i | .undelete i => i

def classes : List String :=
  ["ListInsertCommand", "ListUpdateCommand", "ListDeleteCommand", "ListUndeleteCommand"]

def cls : ListCommand → String
  | .insert _ => "ListInsertCommand"
  | .update _ => "ListUpdateCommand"
  | .delete _ => "ListDeleteCommand"
  | .undelete _ => "ListUndeleteCommand"

def commandType : ListCommand → CommandType
  | .insert _ => .insert
  | .update _ => .update
  | .delete _ => .delete
  | .undelete _ => .undelete

/-- The logged document of a command. -/
def toJson (c : ListCommand) : Json :=
  match c with
  | .insert i | .update i =>
    Json.mkObj [("CommandClass", .str c.cls), ("id", .str i.id.render),
      ("displayName", .str i.displayName), ("isActive", .bool i.isActive)]
  | .delete i | .undelete i => Json.mkObj [("CommandClass", .str c.cls), ("id", .str i.render)]

def readTarget (variant : String) (j : Json) : Decoded Uuid :=
  readRecord ("variant " ++ variant)
    [Field.plain "id" .required Read.uuid (fun _ v => v)] default .buffered j

/-- Reads a logged listing command. -/
def read (j : Json) : Decoded ListCommand :=
  readTagged "ListCommand" "CommandClass" classes (fun name body =>
    if name = "ListInsertCommand" then (ListItem.read .buffered body).map .insert
    else if name = "ListUpdateCommand" then (ListItem.read .buffered body).map .update
    else if name = "ListDeleteCommand" then (readTarget "ListCommand::Delete" body).map .delete
    else (readTarget "ListCommand::Undelete" body).map .undelete) j

/-- The listing command an event calls for, given the listing it would change: none for a
refused command or one without a record; an upsert updates a listed record and inserts an
unlisted one. The item's active flag is the payload's `isActive` when that is a boolean. -/
def ofEvent (e : Event) (l : Listing) : Option ListCommand :=
  if e.isFailure then none
  else match e.id with
    | none => none
    | some id =>
      let item := ListItem.ofEvent e id
      match e.commandType with
      | .insert => some (.insert item)
      | .update => some (.update item)
      | .upsert => if Keyed.contains l.items id then some (.update item) else some (.insert item)
      | .delete => some (.delete id)
      | .undelete => some (.undelete id)

end ListCommand

namespace Listing

def contains (l : Listing) (id : Uuid) : Bool := Keyed.contains l.items id

def toList (l : Listing) : List ListItem := l.items.map (·.2)

def decide (l : Listing) (c : ListCommand) : Except DomainError ListCommand :=
  match c with
  | .insert _ =>
    if l.contains c.id then .error (.conflict (c.id.render ++ " is already listed")) else .ok c
  | _ => if l.contains c.id then .ok c else .error (.notFound (c.id.render ++ " is not listed"))

def evolve (l : Listing) : ListCommand → Listing
  | .insert i | .update i => ⟨Keyed.insert i.id i l.items⟩
  | .delete id => ⟨Keyed.modify id (fun i => { i with isActive := false }) l.items⟩
  | .undelete id => ⟨Keyed.modify id (fun i => { i with isActive := true }) l.items⟩

def entryFor? (l : Listing) (e : Event) : Option ListCommand :=
  (ListCommand.ofEvent e l).bind fun c => (l.decide c).toOption

def index? (l : Listing) (e : Event) : Option Listing :=
  (l.entryFor? e).map l.evolve

instance : Aggregate Listing ListCommand where
  empty := {}
  handle _ := decide
  apply := evolve

def toJson (l : Listing) : Json :=
  Json.mkObj [("items", .obj (l.items.map (fun e => (e.1.render, e.2.toJson))))]

def read (origin : Origin) (j : Json) : Decoded Listing :=
  readRecord "ListState"
    [⟨"items", fun o v _ => (Read.map Read.uuidText (ListItem.read o) v).map
        (fun xs => ⟨Keyed.ofList xs⟩), .required⟩] {} origin j

end Listing

end Chronicle
