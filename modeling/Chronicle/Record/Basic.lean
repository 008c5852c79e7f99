import Chronicle.Event.Kind

/-! Records: the document one entity unit keeps. -/

namespace Chronicle

/-- A kind of record. -/
class Record (σ : Type) where
  kind : EntityType
  empty : σ
  id : σ → Option Uuid
  displayName : σ → String
  isActive : σ → Bool
  setActive : σ → Bool → σ
  inserted : Uuid → Instant → σ → σ
  updateFrom : σ → σ → σ
  nameFirst : Bool
  nameLabel : String
  toJson : σ → Json
  read : Origin → Json → Decoded σ

end Chronicle
