import Chronicle.Codec.Read

/-! Who issued a command: the user, the connection and an optional field hint. -/

namespace Chronicle

/-- The issuer of a command. -/
structure CommandMeta where
  actingUser : String
  connectionId : String
  fieldHint : Option String := none
  deriving DecidableEq, Inhabited

namespace CommandMeta

def toJson (m : CommandMeta) : Json :=
  Json.mkObj ([("acting_user", .str m.actingUser), ("connection_id", .str m.connectionId)] ++
    match m.fieldHint with
    | some h => [("field_hint", .str h)]
    | none => [])

def fields : List (Field CommandMeta) :=
  [Field.plain "acting_user" .required Read.string (fun m v => { m with actingUser := v }),
   Field.plain "connection_id" .required Read.string (fun m v => { m with connectionId := v }),
   Field.plain "field_hint" .fallback (Read.option Read.string)
     (fun m v => { m with fieldHint := v })]

def read (origin : Origin) (j : Json) : Decoded CommandMeta :=
  readRecord "CommandMeta" fields ⟨"", "", none⟩ origin j

end CommandMeta

end Chronicle
