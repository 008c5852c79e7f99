import Chronicle.Journal.Store
import Chronicle.Unit.Config
import Chronicle.Record.Command
import Chronicle.Listing.Basic

/-! Reading logged entries back as commands of the unit's kind or as settings. -/

namespace Chronicle

/-- Commands that are logged: their classes, the class of each, whether logging one calls for a
snapshot, and their documents. -/
class Logged (κ : Type) where
  classes : List String
  cls : κ → String
  forcesSnapshot : κ → Bool
  toJson : κ → Json
  read : Json → Decoded κ

instance {σ : Type} [Record σ] : Logged (Command σ) where
  classes := Command.classes (Record.kind σ)
  cls := Command.cls
  forcesSnapshot := Command.forcesSnapshot
  toJson := Command.toJson
  read := Command.read

instance : Logged ListCommand where
  classes := ListCommand.classes
  cls := ListCommand.cls
  forcesSnapshot _ := false
  toJson := ListCommand.toJson
  read := ListCommand.read

/-- A logged entry read back. -/
inductive Replayed (κ : Type) where
  | command (c : κ)
  | setting (s : UnitSetting)

/-- Why a logged entry does not read back. -/
inductive EntryError where
  | missingDiscriminator
  | unknownDiscriminator (cls : String)
  | malformed (cls : String) (reason : String)
  deriving DecidableEq

namespace EntryError

def kind : EntryError → String
  | .missingDiscriminator => "MissingDiscriminator"
  | .unknownDiscriminator _ => "UnknownDiscriminator"
  | .malformed .. => "Malformed"

def cls? : EntryError → Option String
  | .missingDiscriminator => none
  | .unknownDiscriminator c | .malformed c _ => some c

def message : EntryError → String
  | .missingDiscriminator => "entry has no CommandClass discriminator"
  | .unknownDiscriminator c => "unknown discriminator '" ++ c ++ "'"
  | .malformed c r => "malformed '" ++ c ++ "' entry: " ++ r

end EntryError

/-- Reads a logged entry back as a setting or a command of kind `κ`. -/
def decodeEntry (κ : Type) [Logged κ] (entry : Json) : Except EntryError (Replayed κ) :=
  match classOf entry with
  | none => .error .missingDiscriminator
  | some c =>
    if UnitSetting.classes.contains c then
      match UnitSetting.read entry with
      | .ok s => .ok (.setting s)
      | .error f => .error (.malformed c f.message)
    else if (Logged.classes κ).contains c then
      match Logged.read entry with
      | .ok k => .ok (.command k)
      | .error f => .error (.malformed c f.message)
    else .error (.unknownDiscriminator c)

end Chronicle
