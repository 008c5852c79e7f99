import Chronicle.Codec.Read
import Chronicle.Core.Error

/-! The two kinds of records and the five kinds of commands on them. -/

namespace Chronicle

/-- The kinds of records. -/
inductive EntityType where
  | client
  | user
  deriving DecidableEq, Inhabited

namespace EntityType

def all : List EntityType := [.client, .user]

def name : EntityType → String
  | .client => "Client"
  | .user => "User"

def stem : EntityType → String
  | .client => "client"
  | .user => "user"

def ofText (s : String) : Except DomainError EntityType :=
  match all.find? (fun k => k.name.toLower == s.toLower) with
  | some k => .ok k
  | none => .error (.validation ("unknown entity type '" ++ s ++ "'"))

def ofName? (s : String) : Option EntityType :=
  all.find? (·.name == s)

def read (j : Json) : Decoded EntityType := do
  let n ← Read.unitVariant (all.map name) j
  match ofName? n with
  | some k => pure k
  | none => throw (.unknownVariant n (all.map name))

def toJson (k : EntityType) : Json := .str k.name

end EntityType

/-- The kinds of commands. -/
inductive CommandType where
  | insert
  | update
  | delete
  | undelete
  | upsert
  deriving DecidableEq, Inhabited

namespace CommandType

def all : List CommandType := [.insert, .update, .delete, .undelete, .upsert]

/-- The name of a kind. -/
def name : CommandType → String
  | .insert => "Insert"
  | .update => "Update"
  | .delete => "Delete"
  | .undelete => "Undelete"
  | .upsert => "Upsert"

/-- The word for a command of this kind that went through. -/
def outcome : CommandType → String
  | .insert => "inserted"
  | .update => "updated"
  | .delete => "deleted"
  | .undelete => "undeleted"
  | .upsert => "upserted"

/-- The verb of a kind. -/
def verb : CommandType → String
  | .insert => "insert"
  | .update => "update"
  | .delete => "delete"
  | .undelete => "undelete"
  | .upsert => "upsert"

def ofName? (s : String) : Option CommandType :=
  all.find? (·.name == s)

def read (j : Json) : Decoded CommandType := do
  let n ← Read.unitVariant (all.map name) j
  match ofName? n with
  | some k => pure k
  | none => throw (.unknownVariant n (all.map name))

def toJson (k : CommandType) : Json := .str k.name

end CommandType

end Chronicle
