import Chronicle.Record.Envelope
import Chronicle.Proofs.Codec.Entries
import Chronicle.Proofs.Record.Lifecycle

/-! Envelopes and the commands they carry read back, and the order of their checks. -/
namespace Chronicle

theorem Except.map_eq_error {ε α β : Type} {x : Except ε α} {f : α → β} {e : ε} :
    f <$> x = .error e ↔ x = .error e := by
  cases x <;> simp [Functor.map, Except.map]

theorem Except.bind_eq_error {ε α β : Type} {x : Except ε α} {f : α → Except ε β}
    {e : ε} :
    x >>= f = .error e ↔ x = .error e ∨ ∃ a, x = .ok a ∧ f a = .error e := by
  cases x <;> simp [bind, Except.bind]

namespace CommandType

def needsId : CommandType → Bool
  | .update | .delete | .undelete => true
  | .insert | .upsert => false

def needsPayload : CommandType → Bool
  | .insert | .update | .upsert => true
  | .delete | .undelete => false

end CommandType

namespace Envelope

/-- Why the payload of an envelope gives no record of kind `σ`: it is absent, or it does not
read as one. -/
def payloadRefusal (σ : Type) [Record σ] (e : Envelope) : Option EnvelopeError :=
  match e.payload with
  | none => some (.missingPayload e.commandType)
  | some p =>
    match (Record.read .document p : Decoded σ) with
    | .ok _ => none
    | .error f => some (.payload f.message)

/-- The first check an envelope fails on its way to a command of kind `σ`, in the order they
are made: the kind of record, then the target a command of its kind needs, then the payload a
command of its kind carries and the record it must read as. -/
def refusal (σ : Type) [Record σ] (e : Envelope) : Option EnvelopeError :=
  if e.entityType ≠ Record.kind σ then some (.wrongEntityType (Record.kind σ) e.entityType)
  else if e.commandType.needsId ∧ e.id = none then some (.missingId e.commandType)
  else if e.commandType.needsPayload then e.payloadRefusal σ
  else none

end Envelope

namespace Command

variable {σ : Type} [Record σ]

/-- The envelope a command travels in under a kind of record: its command kind and issuer,
its target when it names one, and its payload. -/
def envelopeFor (k : EntityType) (c : Command σ) : Envelope :=
  let e := Envelope.new k c.commandType c.issuer
  let e := match c.target with
    | some t => e.withId t
    | none => e
  e.withPayload c.payload

def Routable (c : Command σ) : Prop := c.commandType = .update → c.target.isSome

theorem envelopeFor_eq (k : EntityType) (c : Command σ) :
    c.envelopeFor k = ⟨c.target, k, c.commandType, some c.payload, c.issuer⟩ := by
  unfold envelopeFor
  cases c.target <;> rfl

theorem changeOf_eq_error_iff {e : Envelope} {err : EnvelopeError} :
    (changeOf e : Except EnvelopeError (Change σ)) = .error err ↔
      e.payloadRefusal σ = some err := by
  unfold changeOf Envelope.requirePayload Envelope.payloadRefusal
  cases e.payload with
  | none => simp [bind, Except.bind]
  | some p =>
    simp only [bind, Except.bind]
    cases (Record.read .document p : Decoded σ) <;> simp [pure, Except.pure, throw, throwThe,
      MonadExceptOf.throw]

theorem changeOf_of_read (id : Option Uuid) (k : EntityType) (t : CommandType)
    (issuer : CommandMeta) {p : Json} {s : σ} (hs : Record.read .document p = .ok s) :
    changeOf ⟨id, k, t, some p, issuer⟩ = .ok ⟨id, s, issuer⟩ := by
  simp [changeOf, Envelope.requirePayload, hs, bind, Except.bind, pure, Except.pure]

theorem requireId_eq_error_iff {e : Envelope} {err : EnvelopeError} :
    e.requireId = .error err ↔ e.id = none ∧ err = .missingId e.commandType := by
  unfold Envelope.requireId
  cases e.id <;> simp [eq_comm]

theorem expectKind_of_eq {e : Envelope} {k : EntityType} (h : e.entityType = k) :
    e.expectKind k = pure () := by
  simp [Envelope.expectKind, h]
  rfl

theorem ofEnvelope_of_ne_kind {e : Envelope} (hk : e.entityType ≠ Record.kind σ) :
    (ofEnvelope e : Except EnvelopeError (Command σ)) =
      .error (.wrongEntityType (Record.kind σ) e.entityType) := by
  simp [ofEnvelope, Envelope.expectKind, hk, bind, Except.bind]

/-- An envelope is refused exactly for the first check it fails. -/
theorem ofEnvelope_eq_error_iff (e : Envelope) (err : EnvelopeError) :
    (ofEnvelope e : Except EnvelopeError (Command σ)) = .error err ↔
      e.refusal σ = some err := by
  by_cases hk : e.entityType = Record.kind σ
  · simp only [ofEnvelope, expectKind_of_eq hk, pure_bind, Envelope.refusal, hk, ne_eq,
      not_true_eq_false, if_false]
    -- the target is looked at first where the command kind needs one, then the payload
    cases ht : e.commandType with
    | insert | upsert =>
      simp [CommandType.needsId, CommandType.needsPayload, Except.map_eq_error,
        changeOf_eq_error_iff]
    | update =>
      dsimp only
      rw [Except.bind_eq_error, requireId_eq_error_iff]
      cases hi : e.id with
      | none => simp [Envelope.requireId, hi, ht, CommandType.needsId, eq_comm]
      | some i =>
        simp [Envelope.requireId, hi, CommandType.needsId, CommandType.needsPayload,
          Except.map_eq_error, changeOf_eq_error_iff]
    | delete | undelete =>
      dsimp only
      rw [Except.bind_eq_error, requireId_eq_error_iff]
      simp [CommandType.needsId, CommandType.needsPayload, ht, eq_comm, pure, Except.pure]
  · rw [ofEnvelope_of_ne_kind hk]
    simp [Envelope.refusal, hk, eq_comm]

/-- A command whose payload reads back comes back from the envelope it travels in under its own
kind of record. -/
theorem ofEnvelope_envelopeFor {fits : σ → Prop}
    (hread : ∀ s, fits s → Record.read .document (Record.toJson s) = .ok s) {c : Command σ}
    (hfits : c.Fits fits) (hc : c.Routable) :
    ofEnvelope (c.envelopeFor (Record.kind σ)) = .ok c := by
  rw [envelopeFor_eq]
  simp only [ofEnvelope, expectKind_of_eq rfl, pure_bind]
  cases c with
  | insert ch | upsert ch =>
    simp [commandType, target, changeOf_of_read _ _ _ _ (hread _ hfits), payload, issuer,
      Functor.map, Except.map]
  | update ch =>
    -- an update travels only with its target
    obtain ⟨i, hi⟩ := Option.isSome_iff_exists.mp (hc rfl)
    simp only [target] at hi
    simp [commandType, target, hi, changeOf_of_read _ _ _ _ (hread _ hfits), payload, issuer,
      Envelope.requireId, bind, Except.bind, Functor.map, Except.map]
    rw [← hi]
  | delete l | undelete l =>
    simp [commandType, target, issuer, Envelope.requireId, bind, Except.bind, pure, Except.pure]

theorem ofEnvelope_envelopeFor_of_ne {c : Command σ} {k : EntityType} (hk : k ≠ Record.kind σ) :
    (ofEnvelope (c.envelopeFor k) : Except EnvelopeError (Command σ)) =
      .error (.wrongEntityType (Record.kind σ) k) := by
  rw [envelopeFor_eq]
  exact ofEnvelope_of_ne_kind hk

end Command

/-- Every command but an update without a target comes back from its envelope under its own
kind, and every envelope is refused for the first check it fails, in `Envelope.refusal`'s order. -/
theorem envelopes_carry_commands :
    (∀ c : Command ClientState, c.Fits ClientState.Fits → c.Routable →
      Command.ofEnvelope (c.envelopeFor .client) = .ok c ∧
        ∀ k, k ≠ .client → (Command.ofEnvelope (c.envelopeFor k) :
          Except EnvelopeError (Command ClientState)) = .error (.wrongEntityType .client k)) ∧
    (∀ c : Command UserState, c.Fits UserState.Fits → c.Routable →
      Command.ofEnvelope (c.envelopeFor .user) = .ok c ∧
        ∀ k, k ≠ .user → (Command.ofEnvelope (c.envelopeFor k) :
          Except EnvelopeError (Command UserState)) = .error (.wrongEntityType .user k)) ∧
    (∀ e err, (Command.ofEnvelope e : Except EnvelopeError (Command ClientState)) = .error err ↔
      e.refusal ClientState = some err) ∧
    (∀ e err, (Command.ofEnvelope e : Except EnvelopeError (Command UserState)) = .error err ↔
      e.refusal UserState = some err) :=
  ⟨fun _ hfits hc => ⟨Command.ofEnvelope_envelopeFor (fun _ hs => ClientState.read_record hs _)
      hfits hc, fun _ hk => Command.ofEnvelope_envelopeFor_of_ne hk⟩,
    fun _ hfits hc => ⟨Command.ofEnvelope_envelopeFor (fun _ hs => UserState.read_record hs _)
      hfits hc, fun _ hk => Command.ofEnvelope_envelopeFor_of_ne hk⟩,
    Command.ofEnvelope_eq_error_iff, Command.ofEnvelope_eq_error_iff⟩

/-- An insert of a client named Acme, without a target, travels and comes back. -/
theorem acme_insert_travels :
    let c : Command ClientState :=
      .insert ⟨none, ClientState.named "Acme", ⟨"ann", "c1", none⟩⟩
    c.Fits ClientState.Fits ∧ c.Routable ∧
      Command.ofEnvelope (c.envelopeFor .client) = .ok c := by
  intro c
  have hfits : c.Fits ClientState.Fits := show ClientState.Fits (ClientState.named "Acme") from
    ⟨fun _ h => (by cases h), by decide, by decide, fun _ h => (by cases h)⟩
  have hc : c.Routable := fun h => by cases h
  exact ⟨hfits, hc, (envelopes_carry_commands.1 c hfits hc).1⟩

end Chronicle
