import Chronicle.Record.Command
import Chronicle.Core.Aggregate
import Chronicle.Text.Blank

/-! The rules every record keeps, checked in a fixed order. -/

namespace Chronicle

namespace Record

variable {σ : Type} [Record σ]

def stem (σ : Type) [Record σ] : String := (Record.kind σ).stem

def ensureExists (s : σ) (target : Uuid) : Except DomainError Unit :=
  match Record.id s with
  | none => .error (.notFound (stem σ ++ " " ++ target.render ++ " does not exist"))
  | some i => if i = target then .ok () else .error (.invariant (stem σ ++ " id mismatch"))

def ensureName (payload : σ) : Except DomainError Unit :=
  if Blank.isBlankText (Record.displayName payload) then
    .error (.validation (Record.nameLabel σ ++ " cannot be blank"))
  else .ok ()

def requireTarget (c : Change σ) : Except DomainError Uuid :=
  match c.id with
  | some i => .ok i
  | none => .error (.validation (stem σ ++ " id cannot be empty"))

/-- Checks the name and the target, in the record kind's order, and gives the target. -/
def checkNameAndTarget (c : Change σ) : Except DomainError Uuid :=
  if Record.nameFirst σ then do
    ensureName c.state
    requireTarget c
  else do
    let i ← requireTarget c
    ensureName c.state
    pure i

/-- Decides on a command: the entry to log, or the refusal. -/
def decide (now : Instant) (s : σ) : Command σ → Except DomainError (Command σ)
  | .insert c => do
    if let some existing := Record.id s then
      throw (.conflict (stem σ ++ " " ++ existing.render ++ " already exists"))
    let i ← checkNameAndTarget c
    pure (.insert ⟨some i, Record.inserted i now c.state, c.issuer⟩)
  | .update c => do
    let i ← requireTarget c
    ensureExists s i
    if !Record.isActive s then throw (.conflict (stem σ ++ " is deleted (inactive)"))
    ensureName c.state
    pure (.update c)
  | .upsert c => do
    let i ← checkNameAndTarget c
    match Record.id s with
    | none => pure (.upsert ⟨some i, Record.inserted i now c.state, c.issuer⟩)
    | some _ =>
      ensureExists s i
      if !Record.isActive s && Record.isActive c.state then
        throw (.conflict ("an inactive " ++ stem σ ++ " cannot be reactivated through upsert"))
      pure (.upsert c)
  | .delete l => do
    ensureExists s l.id
    if !Record.isActive s then throw (.conflict (stem σ ++ " has already been deleted"))
    pure (.delete l)
  | .undelete l => do
    ensureExists s l.id
    if Record.isActive s then throw (.conflict (stem σ ++ " is already active"))
    pure (.undelete l)

/-- Folds a logged entry into the record. -/
def evolve (s : σ) : Command σ → σ
  | .insert c => c.state
  | .update c => Record.updateFrom s c.state
  | .upsert c => if (Record.id s).isNone then c.state else Record.updateFrom s c.state
  | .delete _ => Record.setActive s false
  | .undelete _ => Record.setActive s true

instance : Aggregate σ (Command σ) where
  empty := Record.empty
  handle := decide
  apply := evolve

end Record

end Chronicle
