import Chronicle.Record.Rules

/-! Client records, and the fields an update may change. -/

namespace Chronicle

/-- The primary contact at a client. -/
structure Contact where
  name : String := ""
  title : String := ""
  email : String := ""
  phone : String := ""
  deriving DecidableEq, Inhabited

namespace Contact

def toJson (c : Contact) : Json :=
  Json.mkObj [("name", .str c.name), ("title", .str c.title), ("email", .str c.email),
    ("phone", .str c.phone)]

/-- Reads a contact; absent fields are empty. -/
def read (origin : Origin) (j : Json) : Decoded Contact :=
  readRecord "ClientContact"
    [Field.plain "name" .fallback Read.string (fun c v => { c with name := v }),
     Field.plain "title" .fallback Read.string (fun c v => { c with title := v }),
     Field.plain "email" .fallback Read.string (fun c v => { c with email := v }),
     Field.plain "phone" .fallback Read.string (fun c v => { c with phone := v })] {} origin j

end Contact

/-- An engagement held with a client. -/
structure Engagement where
  engagementId : String := ""
  name : String := ""
  code : String := ""
  description : String := ""
  isActive : Bool := false
  requiredFieldsComplete : Bool := false
  projectCount : Nat := 0
  deriving DecidableEq, Inhabited

namespace Engagement

def toJson (e : Engagement) : Json :=
  Json.mkObj [("engagementId", .str e.engagementId), ("name", .str e.name),
    ("code", .str e.code), ("description", .str e.description), ("isActive", .bool e.isActive),
    ("requiredFieldsComplete", .bool e.requiredFieldsComplete),
    ("projectCount", .ofNat e.projectCount)]

/-- Reads an engagement; absent fields take their defaults. -/
def read (origin : Origin) (j : Json) : Decoded Engagement :=
  readRecord "Engagement"
    [Field.plain "engagementId" .fallback Read.string (fun e v => { e with engagementId := v }),
     Field.plain "name" .fallback Read.string (fun e v => { e with name := v }),
     Field.plain "code" .fallback Read.string (fun e v => { e with code := v }),
     Field.plain "description" .fallback Read.string (fun e v => { e with description := v }),
     Field.plain "isActive" .fallback Read.bool (fun e v => { e with isActive := v }),
     Field.plain "requiredFieldsComplete" .fallback Read.bool
       (fun e v => { e with requiredFieldsComplete := v }),
     Field.plain "projectCount" .fallback Read.u32 (fun e v => { e with projectCount := v })]
    {} origin j

end Engagement

/-- A client record. -/
structure ClientState where
  id : Option Uuid := none
  documentType : String := ""
  name : String := ""
  isActive : Bool := false
  industry : String := ""
  addedOn : Option Instant := none
  clientLeadUserId : String := ""
  contact : Contact := {}
  lastActiveLeadUserId : String := ""
  lastActiveEngagementId : String := ""
  lastActiveProjectId : String := ""
  lastActiveFiscalYear : Int := 0
  lastKnownActiveProjectCount : Nat := 0
  engagements : List Engagement := []
  deriving DecidableEq, Inhabited

namespace ClientState

def named (name : String) : ClientState := { name := name }

/-- The document form. -/
def toJson (s : ClientState) : Json :=
  Json.mkObj [("id", Json.ofOption (s.id.map (.str ·.render))),
    ("documentType", .str s.documentType), ("name", .str s.name),
    ("isActive", .bool s.isActive), ("industry", .str s.industry),
    ("addedOn", Json.ofOption (s.addedOn.map Instant.toJson)),
    ("clientLeadUserId", .str s.clientLeadUserId), ("contact", s.contact.toJson),
    ("lastActiveLeadUserId", .str s.lastActiveLeadUserId),
    ("lastActiveEngagementId", .str s.lastActiveEngagementId),
    ("lastActiveProjectId", .str s.lastActiveProjectId),
    ("lastActiveFiscalYear", .int s.lastActiveFiscalYear),
    ("lastKnownActiveProjectCount", .ofNat s.lastKnownActiveProjectCount),
    ("engagements", .arr (s.engagements.map Engagement.toJson))]

/-- The fields of the document form, each defaulting when absent. -/
def fields : List (Field ClientState) :=
  [Field.plain "id" .fallback (Read.option Read.uuid) (fun s v => { s with id := v }),
   Field.plain "documentType" .fallback Read.string (fun s v => { s with documentType := v }),
   Field.plain "name" .fallback Read.string (fun s v => { s with name := v }),
   Field.plain "isActive" .fallback Read.bool (fun s v => { s with isActive := v }),
   Field.plain "industry" .fallback Read.string (fun s v => { s with industry := v }),
   Field.plain "addedOn" .fallback (Read.option Read.instant) (fun s v => { s with addedOn := v }),
   Field.plain "clientLeadUserId" .fallback Read.string (fun s v => { s with clientLeadUserId := v }),
   ⟨"contact", fun o j s => (Contact.read o j).map ({ s with contact := · }), .fallback⟩,
   Field.plain "lastActiveLeadUserId" .fallback Read.string
     (fun s v => { s with lastActiveLeadUserId := v }),
   Field.plain "lastActiveEngagementId" .fallback Read.string
     (fun s v => { s with lastActiveEngagementId := v }),
   Field.plain "lastActiveProjectId" .fallback Read.string
     (fun s v => { s with lastActiveProjectId := v }),
   Field.plain "lastActiveFiscalYear" .fallback Read.i32 (fun s v => { s with lastActiveFiscalYear := v }),
   Field.plain "lastKnownActiveProjectCount" .fallback Read.u32
     (fun s v => { s with lastKnownActiveProjectCount := v }),
   ⟨"engagements", fun o j s => (Read.list (Engagement.read o) j).map ({ s with engagements := · }),
     .fallback⟩]

def read (origin : Origin) (j : Json) : Decoded ClientState :=
  readRecord "ClientState" fields {} origin j

def updateFrom (s p : ClientState) : ClientState :=
  { s with name := p.name, industry := p.industry, clientLeadUserId := p.clientLeadUserId,
           contact := p.contact, engagements := p.engagements }

instance : Record ClientState where
  kind := .client
  empty := {}
  id := ClientState.id
  displayName := ClientState.name
  isActive := ClientState.isActive
  setActive s b := { s with isActive := b }
  inserted i now p := { p with id := some i, documentType := "ClientState", isActive := true,
                               addedOn := some (p.addedOn.getD now) }
  updateFrom := updateFrom
  nameFirst := true
  nameLabel := "name"
  toJson := toJson
  read := read

end ClientState

end Chronicle
