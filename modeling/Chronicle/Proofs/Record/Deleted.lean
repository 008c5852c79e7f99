import Chronicle.Proofs.Record.Lifecycle

/-! What a record that is not active accepts. -/
namespace Chronicle

namespace Record

variable {σ : Type} [Record σ] {now : Instant} {s : σ} {ch : Change σ} {e : Command σ}

theorem decide_upsert_of_id {x : Uuid} (hid : Record.id s = some x)
    (h : decide now s (.upsert ch) = .ok e) :
    e = .upsert ch ∧ ch.id = some x ∧
      (Record.isActive s = true ∨ Record.isActive ch.state = false) := by
  simp only [decide, Except.bind_eq_ok, checkNameAndTarget_ok, hid] at h
  obtain ⟨i, ⟨hi, -⟩, h⟩ := h
  cases ha : Record.isActive s <;> cases hp : Record.isActive ch.state <;>
    simp [ha, hp, Except.map_eq_ok, ensureExists_ok, hid] at h
  all_goals
    obtain ⟨rfl, rfl⟩ := h
    exact ⟨rfl, hi, by simp⟩

variable [Lawful σ] {t : σ} {c : Command σ}

/-- Every command a reachable inactive record takes: the empty record is created; a deleted one
is undeleted, or edited by an upsert whose payload is not active. -/
theorem Step.of_inactive (hs : Reachable s) (hoff : Record.isActive s = false)
    (h : Step s c t) :
    (s = Record.empty ∧ (c.commandType = .insert ∨ c.commandType = .upsert)) ∨
    (∃ ch, c = .upsert ch ∧ Record.isActive ch.state = false ∧
      t = Record.updateFrom s ch.state) ∨
    (c.commandType = .undelete ∧ t = Record.setActive s true) := by
  obtain ⟨now, e, hd, rfl⟩ := h
  cases hid : Record.id s with
  | none =>
    refine .inl ⟨hs.sound.eq_empty hid, ?_⟩
    cases c with
    | insert _ => exact .inl rfl
    | upsert _ => exact .inr rfl
    | update _ | delete _ | undelete _ =>
      -- a record without an identity is not found
      simp [decide, Except.bind_eq_ok, ensureExists_ok, hid] at hd
  | some x =>
    cases c with
    | upsert ch =>
      obtain ⟨rfl, -, hact⟩ := decide_upsert_of_id hid hd
      refine .inr (.inl ⟨ch, rfl, by simpa [hoff] using hact, ?_⟩)
      simp [evolve, hid]
    | undelete l =>
      simp [decide, Except.map_eq_ok, hoff] at hd
      obtain ⟨-, rfl⟩ := hd
      exact .inr (.inr ⟨rfl, rfl⟩)
    | insert _ | update _ | delete _ =>
      -- a record that exists takes no insert, and a deleted one no update or delete
      simp [decide, Except.bind_eq_ok, Except.map_eq_ok, hid, hoff] at hd

end Record

/-- The empty user takes only the command that creates it; a deleted user takes only an
undelete and an upsert whose payload is not active, and stays deleted through the upsert. -/
theorem inactive_user_commands (s t : UserState) (c : Command UserState) (hs : Record.Reachable s)
    (hoff : s.isActive = false) (h : Record.Step s c t) :
    (s = {} ∧ (c.commandType = .insert ∨ c.commandType = .upsert)) ∨
    (∃ ch, c = .upsert ch ∧ ch.state.isActive = false ∧ t = s.updateFrom ch.state) ∨
    (c.commandType = .undelete ∧ t = { s with isActive := true }) :=
  Record.Step.of_inactive hs hoff h

theorem deleted_jdoe_reachable : Record.Reachable
    (Record.setActive (Record.inserted (Uuid.ofNat 1) .present (UserState.named "jdoe")) false) :=
  -- each step's entry is what the user decides
  .tail (.tail .refl
      ⟨.insert ⟨some (Uuid.ofNat 1), UserState.named "jdoe", ⟨"ann", "c1", none⟩⟩,
        .present, _, rfl, rfl⟩)
    ⟨.delete ⟨Uuid.ofNat 1, ⟨"ann", "c1", none⟩⟩, .present, _, rfl, rfl⟩

/-- The deleted user `jdoe` takes an undelete, which only turns its active flag on. -/
theorem deleted_jdoe_undeleted :
    let deleted : UserState :=
      Record.setActive (Record.inserted (Uuid.ofNat 1) .present (UserState.named "jdoe")) false
    let undelete : Command UserState := .undelete ⟨Uuid.ofNat 1, ⟨"ann", "c1", none⟩⟩
    Record.Reachable deleted ∧ deleted.isActive = false ∧
      Record.Step deleted undelete { deleted with isActive := true } ∧
      ((deleted = {} ∧ (undelete.commandType = .insert ∨ undelete.commandType = .upsert)) ∨
        (∃ ch, undelete = .upsert ch ∧ ch.state.isActive = false ∧
          { deleted with isActive := true } = deleted.updateFrom ch.state) ∨
        (undelete.commandType = .undelete ∧
          { deleted with isActive := true } = { deleted with isActive := true })) := by
  refine ⟨deleted_jdoe_reachable, rfl, ?step,
    inactive_user_commands _ _ _ deleted_jdoe_reachable rfl ?step⟩
  exact ⟨.present, _, rfl, rfl⟩

theorem deleted_user_renamed_by_upsert :
    let issuer : CommandMeta := ⟨"ann", "c1", none⟩
    let deleted : UserState :=
      Record.setActive (Record.inserted (Uuid.ofNat 1) .present (UserState.named "jdoe")) false
    let upsert : Command UserState :=
      .upsert ⟨some (Uuid.ofNat 1), UserState.named "mallory", issuer⟩
    Record.Reachable deleted ∧ deleted.isActive = false ∧
      Record.Step deleted upsert (deleted.updateFrom (UserState.named "mallory")) ∧
      (deleted.updateFrom (UserState.named "mallory")).userName ≠ deleted.userName :=
  ⟨deleted_jdoe_reachable, rfl, ⟨.present, _, rfl, rfl⟩, by decide⟩

end Chronicle
