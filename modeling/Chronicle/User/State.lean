import Chronicle.Record.Rules
import Chronicle.User.Permission

/-! User records, and the fields an update may change. -/

namespace Chronicle

/-- A user record. -/
structure UserState where
  id : Option Uuid := none
  documentType : String := ""
  userName : String := ""
  firstName : String := ""
  middleName : String := ""
  lastName : String := ""
  title : String := ""
  email : String := ""
  phone : String := ""
  avatarUrl : String := ""
  defaultPermissions : Bool := false
  globalRole : Option String := none
  defaultRole : Option String := none
  isActive : Bool := false
  industry : String := ""
  addedOn : Option Instant := none
  lastLoggedOn : Option Timestamp := none
  lastActiveEngagementId : String := ""
  lastActiveProjectId : String := ""
  lastKnownActiveProjectCount : Nat := 0
  permissions : List (String × Permission) := []
  deriving Inhabited

namespace UserState

def named (name : String) : UserState := { userName := name }

/-- The document form. -/
def toJson (s : UserState) : Json :=
  Json.mkObj [("id", Json.ofOption (s.id.map (.str ·.render))),
    ("documentType", .str s.documentType), ("userName", .str s.userName),
    ("firstName", .str s.firstName), ("middleName", .str s.middleName),
    ("lastName", .str s.lastName), ("title", .str s.title), ("email", .str s.email),
    ("phone", .str s.phone), ("avatarUrl", .str s.avatarUrl),
    ("defaultPermissions", .bool s.defaultPermissions),
    ("globalRole", Json.ofStr? s.globalRole), ("defaultRole", Json.ofStr? s.defaultRole),
    ("isActive", .bool s.isActive), ("industry", .str s.industry),
    ("addedOn", Json.ofOption (s.addedOn.map Instant.toJson)),
    ("lastLoggedOn", Json.ofOption (s.lastLoggedOn.map (.str ·.render))),
    ("lastActiveEngagementId", .str s.lastActiveEngagementId),
    ("lastActiveProjectId", .str s.lastActiveProjectId),
    ("lastKnownActiveProjectCount", .ofNat s.lastKnownActiveProjectCount),
    ("permissions", .obj (s.permissions.map (fun kp => (kp.1, kp.2.toJson))))]

/-- The fields of the document form, each defaulting when absent. -/
def fields : List (Field UserState) :=
  [Field.plain "id" .fallback (Read.option Read.uuid) (fun s v => { s with id := v }),
   Field.plain "documentType" .fallback Read.string (fun s v => { s with documentType := v }),
   Field.plain "userName" .fallback Read.string (fun s v => { s with userName := v }),
   Field.plain "firstName" .fallback Read.string (fun s v => { s with firstName := v }),
   Field.plain "middleName" .fallback Read.string (fun s v => { s with middleName := v }),
   Field.plain "lastName" .fallback Read.string (fun s v => { s with lastName := v }),
   Field.plain "title" .fallback Read.string (fun s v => { s with title := v }),
   Field.plain "email" .fallback Read.string (fun s v => { s with email := v }),
   Field.plain "phone" .fallback Read.string (fun s v => { s with phone := v }),
   Field.plain "avatarUrl" .fallback Read.string (fun s v => { s with avatarUrl := v }),
   Field.plain "defaultPermissions" .fallback Read.bool (fun s v => { s with defaultPermissions := v }),
   Field.plain "globalRole" .fallback (Read.option Read.string) (fun s v => { s with globalRole := v }),
   Field.plain "defaultRole" .fallback (Read.option Read.string) (fun s v => { s with defaultRole := v }),
   Field.plain "isActive" .fallback Read.bool (fun s v => { s with isActive := v }),
   Field.plain "industry" .fallback Read.string (fun s v => { s with industry := v }),
   Field.plain "addedOn" .fallback (Read.option Read.instant) (fun s v => { s with addedOn := v }),
   Field.plain "lastLoggedOn" .fallback (Read.option Read.timestamp)
     (fun s v => { s with lastLoggedOn := v }),
   Field.plain "lastActiveEngagementId" .fallback Read.string
     (fun s v => { s with lastActiveEngagementId := v }),
   Field.plain "lastActiveProjectId" .fallback Read.string
     (fun s v => { s with lastActiveProjectId := v }),
   Field.plain "lastKnownActiveProjectCount" .fallback Read.u32
     (fun s v => { s with lastKnownActiveProjectCount := v }),
   ⟨"permissions", fun o j s => (Read.map .ok (Permission.read o) j).map ({ s with permissions := · }),
     .fallback⟩]

def read (origin : Origin) (j : Json) : Decoded UserState :=
  readRecord "UserState" fields {} origin j

def updateFrom (s p : UserState) : UserState :=
  { p with id := s.id, documentType := s.documentType, isActive := s.isActive,
           addedOn := s.addedOn }

instance : Record UserState where
  kind := .user
  empty := {}
  id := UserState.id
  displayName := UserState.userName
  isActive := UserState.isActive
  setActive s b := { s with isActive := b }
  inserted i now p := { p with id := some i, documentType := "UserState", isActive := true,
                               addedOn := some (p.addedOn.getD now) }
  updateFrom := updateFrom
  nameFirst := false
  nameLabel := "user name"
  toJson := toJson
  read := read

end UserState

end Chronicle
