import Chronicle.Proofs.Record.Lifecycle
import Chronicle.Proofs.World.Frame
import Chronicle.Proofs.Journal.Log
import Chronicle.Proofs.Codec.Entries
import Chronicle.Proofs.Unit.Conflict

/-! The command pipeline of an entity unit logs before it applies, all or nothing. -/
namespace Chronicle

namespace Journal

theorem append_error_log {j : Journal} {pid : String} {v : ExpectedVersion} {entry : Json}
    {e : JournalError} (h : (j.append pid v entry).1 = .error e) (p : String) :
    (j.append pid v entry).2.log p = j.log p := by
  unfold append at h ⊢
  split
  · rfl
  · rename_i cls hcls
    simp only [hcls] at h
    dsimp only at h ⊢
    split
    · rename_i hacc
      simp [hacc] at h
    · exact log_setLog_log _ _ _

/-- A snapshot, saved or not, leaves the entries of every log. -/
theorem saveSnapshot_entries (j : Journal) (pid : String) (n : Nat) (state : Json) (p : String) :
    ((j.saveSnapshot pid n state).2.log p).entries = (j.log p).entries := by
  have hset : ∀ l : Log, l.entries = (j.log pid).entries →
      ((j.setLog pid l).log p).entries = (j.log p).entries := by
    intro l hl
    by_cases hp : p = pid
    · subst hp
      rw [log_setLog_self, hl]
    · rw [log_setLog_ne _ _ hp]
  unfold saveSnapshot
  dsimp only
  split
  · exact hset _ rfl
  · split
    · split
      · exact hset _ rfl
      · exact hset _ rfl
    · exact hset _ rfl

end Journal

namespace Store

theorem append_error_frame {s : Store} {pid : String} {v : ExpectedVersion} {entry : Json}
    {e : JournalError} (h : (s.append pid v entry).1 = .error e) :
    (s.append pid v entry).2.faults = s.faults ∧
      ∀ p, (s.append pid v entry).2.journal.log p = s.journal.log p := by
  by_cases hf : s.faults.appends = true
  · simp [append, hf]
  · rcases hj : s.journal.append pid v entry with ⟨r, j'⟩
    simp only [append, hf, hj, Bool.false_eq_true, if_false] at h
    refine ⟨by simp [append, hf, hj], fun p => ?_⟩
    simp only [append, hf, hj, Bool.false_eq_true, if_false]
    have hlog := Journal.append_error_log (j := s.journal) (by rw [hj]; exact h) p
    rwa [hj] at hlog

theorem append_refused {s : Store} {pid : String} {n : Nat} {entry : Json} {cls : String}
    (hcls : classOf entry = some cls)
    (h : s.faults.appends = true ∨ (s.journal.log pid).lastSequenceNr ≠ n) :
    ∃ e, (s.append pid (.exact n) entry).1 = .error e := by
  by_cases hf : s.faults.appends = true
  · exact ⟨.unavailable "disk full", by simp [append, hf]⟩
  · obtain ⟨d, hd⟩ := Journal.append_conflict (h.resolve_left hf) hcls
    exact ⟨.concurrency d, by simp [append, hf, hd]⟩

theorem saveSnapshot_entries (s : Store) (pid : String) (n : Nat) (state : Json) (p : String) :
    ((s.saveSnapshot pid n state).2.journal.log p).entries = (s.journal.log p).entries := by
  by_cases hf : s.faults.snapshots = true
  · simp [saveSnapshot, hf]
  · rcases hj : s.journal.saveSnapshot pid n state with ⟨r, j'⟩
    have hentries := Journal.saveSnapshot_entries s.journal pid n state p
    rw [hj] at hentries
    simpa [saveSnapshot, hf, hj] using hentries

end Store

namespace Core

variable {α κ : Type} [Aggregate α κ] [Logged κ] [Stored α]

theorem saveSnapshot_fst (c : Core α) (s : Store) :
    ∃ n, (c.saveSnapshot s).1 = { c with snapshotNr := n } := by
  unfold saveSnapshot
  split
  · exact ⟨c.snapshotNr, rfl⟩
  · split
    · exact ⟨c.sequenceNr, rfl⟩
    · exact ⟨c.snapshotNr, rfl⟩

theorem saveSnapshot_entries (c : Core α) (s : Store) (p : String) :
    (((c.saveSnapshot s).2.journal.log p)).entries = (s.journal.log p).entries := by
  unfold saveSnapshot
  split
  · rfl
  · rename_i hseq
    have h := Store.saveSnapshot_entries s c.persistenceId c.sequenceNr (Stored.toJson c.state) p
    split <;> simp_all

theorem persist_error {c : Core α} {s : Store} {k : κ} {e : JournalError}
    (h : (c.persist s k).1 = .error e) :
    (c.persist s k).2.1 = c ∧ (c.persist s k).2.2.faults = s.faults ∧
      ∀ p, (c.persist s k).2.2.journal.log p = s.journal.log p := by
  rw [persist_fst] at h
  obtain ⟨hf, hlogs⟩ := Store.append_error_frame h
  unfold persist
  rcases happ : s.append c.persistenceId (.exact c.sequenceNr) (Logged.toJson k) with ⟨_ | n, s'⟩
  · rw [happ] at hf hlogs
    exact ⟨rfl, hf, hlogs⟩
  · rw [happ] at h
    cases h

/-- A command whose entry the journal takes, at the unit's position in a log that ends there,
is logged one past it and applied; the unit counts it, and only the position of its last
snapshot may move besides. The log gains exactly that entry. -/
theorem persist_ok {c : Core α} {s : Store} {k : κ}
    (hcls : classOf (Logged.toJson k) = some (Logged.cls k)) (hf : s.faults.appends = false)
    (hv : (s.journal.log c.persistenceId).lastSequenceNr = c.sequenceNr) :
    (c.persist s k).1 = .ok (c.sequenceNr + 1) ∧
      (∃ n, (c.persist s k).2.1 =
        { c with sequenceNr := c.sequenceNr + 1, state := Aggregate.apply c.state k,
                 activity := c.activity + 1, snapshotNr := n }) ∧
      ((c.persist s k).2.2.journal.log c.persistenceId).entries =
        (s.journal.log c.persistenceId).entries ++
          [⟨c.sequenceNr + 1, Logged.cls k, Logged.toJson k⟩] := by
  have happ : s.append c.persistenceId (.exact c.sequenceNr) (Logged.toJson k) =
      (.ok (c.sequenceNr + 1),
        { s with
          journal := s.journal.setLog c.persistenceId { s.journal.log c.persistenceId with
            entries := (s.journal.log c.persistenceId).entries ++
              [⟨c.sequenceNr + 1, Logged.cls k, Logged.toJson k⟩] } }) := by
    simp [Store.append, hf, Journal.append_exact hv hcls]
  have hlog : ((s.append c.persistenceId (.exact c.sequenceNr) (Logged.toJson k)).2.journal.log
      c.persistenceId).entries = (s.journal.log c.persistenceId).entries ++
        [⟨c.sequenceNr + 1, Logged.cls k, Logged.toJson k⟩] := by
    rw [happ]
    simp [Journal.log_setLog_self]
  unfold persist
  rw [happ] at hlog ⊢
  dsimp only
  split
  · -- the entry calls for a snapshot, which keeps the entries
    obtain ⟨n, hn⟩ := saveSnapshot_fst
      { c with sequenceNr := c.sequenceNr + 1, state := Aggregate.apply c.state k,
               activity := c.activity + 1 } _
    refine ⟨rfl, ⟨n, hn⟩, ?_⟩
    rw [saveSnapshot_entries]
    exact hlog
  · exact ⟨rfl, ⟨c.snapshotNr, rfl⟩, hlog⟩

theorem persist_refused {c : Core α} {s : Store} {k : κ}
    (hcls : classOf (Logged.toJson k) = some (Logged.cls k))
    (h : s.faults.appends = true ∨
      (s.journal.log c.persistenceId).lastSequenceNr ≠ c.sequenceNr) :
    ∃ e, (c.persist s k).1 = .error e := by
  rw [persist_fst]
  exact Store.append_refused hcls h

end Core

instance EntityType.lawfulRec (k : EntityType) : Record.Lawful k.Rec := by
  cases k
  · exact inferInstanceAs (Record.Lawful ClientState)
  · exact inferInstanceAs (Record.Lawful UserState)

namespace Command

variable {σ : Type} [Record σ]

def aimAt (id : Uuid) (c : Command σ) : Command σ :=
  match c.target with
  | none => c.withTarget id
  | some _ => c

omit [Record σ] in
theorem target_withTarget (id : Uuid) (c : Command σ) : (c.withTarget id).target = some id := by
  cases c <;> rfl

omit [Record σ] in
theorem target_aimAt {id : Uuid} {c : Command σ} (h : c.target = none ∨ c.target = some id) :
    (c.aimAt id).target = some id := by
  rcases h with h | h <;> simp [aimAt, h, target_withTarget]

omit [Record σ] in
theorem commandType_aimAt (id : Uuid) (c : Command σ) : (c.aimAt id).commandType = c.commandType := by
  unfold aimAt
  split
  · cases c <;> rfl
  · rfl

omit [Record σ] in
theorem aimed_of_not_other {id : Uuid} {c : Command σ} (h : ¬ ∃ t, c.target = some t ∧ t ≠ id) :
    c.target = none ∨ c.target = some id := by
  cases ht : c.target with
  | none => exact .inl rfl
  | some t =>
    refine .inr (congrArg some ?_)
    by_contra hne
    exact h ⟨t, ht, hne⟩

end Command

namespace EntityUnit

def applied (k : EntityType) (id : Uuid) (s : k.Rec) (t : CommandType) (m : CommandMeta) : Event :=
  ((Event.succeeded k t m).emittedBy (unitType k)).forEntity (some id) (Record.displayName s)
    |>.withPayload (Record.toJson s)

@[simp] theorem store_put (u : UnitRef) (k : EntityType) (id : Uuid) (w : World)
    (kp : Keeper k.Rec (EntityMsg k)) : (put u k id w kp).store = w.store := rfl

theorem cell?_put_self {w : World} {u : UnitRef} (hu : u < w.cells.size) (k : EntityType)
    (id : Uuid) (kp : Keeper k.Rec (EntityMsg k)) : (put u k id w kp).cell? u = some (.entity k id kp) :=
  World.cell?_setCell_self hu _

section Branches

variable {w : World} {u : UnitRef} {k : EntityType} {id : Uuid}
  {kp : Keeper k.Rec (EntityMsg k)} (hcell : w.cell? u = some (.entity k id kp))
  (c : Command k.Rec) (reply : Reply)
include hcell

theorem execute_of_target_ne {t : Uuid} (ht : c.target = some t) (hne : t ≠ id) :
    execute u k id c reply w = (w.deliver reply (.event (failed k id kp.core.state
      c.commandType c.issuer (k.stem ++ " " ++ t.render ++ " is not handled by unit " ++
        id.render) c.payload))).2 := by
  simp [execute, World.entity?_of_cell? hcell, ht, hne]

theorem execute_of_refused (haim : c.target = none ∨ c.target = some id) {err : DomainError}
    (h : Aggregate.handle Instant.present kp.core.state (c.aimAt id) = .error err) :
    execute u k id c reply w = (w.deliver reply (.event (failed k id kp.core.state
      c.commandType c.issuer err.reason c.payload))).2 := by
  rcases haim with ht | ht
  · simp only [Command.aimAt, ht] at h
    simp [execute, World.entity?_of_cell? hcell, ht, Command.target_withTarget, h]
  · simp only [Command.aimAt, ht] at h
    simp [execute, World.entity?_of_cell? hcell, ht, h]

/-- A command whose entry the journal does not take is refused with the journal's cause; the
unit is left as it was, and the store as the refused append left it. -/
theorem execute_of_append_failed (haim : c.target = none ∨ c.target = some id)
    {entry : Command k.Rec}
    (h : Aggregate.handle Instant.present kp.core.state (c.aimAt id) = .ok entry)
    {je : JournalError} (hp : (kp.core.persist w.store entry).1 = .error je) :
    execute u k id c reply w =
      ({ w with store := (kp.core.persist w.store entry).2.2 }.deliver reply
        (.event (failed k id kp.core.state c.commandType c.issuer
          ("persistence failure: " ++ je.message) c.payload))).2 := by
  have hcore := (Core.persist_error hp).1
  rcases hpr : kp.core.persist w.store entry with ⟨r, core, store⟩
  rw [hpr] at hp hcore
  dsimp only at hp hcore ⊢
  subst hp hcore
  -- the unit written back is the unit that was there
  have hput : put u k id { w with store := store } { kp with core := kp.core } =
      { w with store := store } := World.setCell_of_cell? hcell
  rcases haim with ht | ht
  · simp only [Command.aimAt, ht] at h
    simp [execute, World.entity?_of_cell? hcell, ht, Command.target_withTarget, h, hpr, hput]
  · simp only [Command.aimAt, ht] at h
    simp [execute, World.entity?_of_cell? hcell, ht, h, hpr, hput]

/-- A command whose entry the journal takes: the unit takes the new position and record, the
event of the new record is published to the subscribers, those that take it are kept, and the
caller gets the same event. -/
theorem execute_of_appended (haim : c.target = none ∨ c.target = some id)
    {entry : Command k.Rec}
    (h : Aggregate.handle Instant.present kp.core.state (c.aimAt id) = .ok entry)
    {n : Nat} (hp : (kp.core.persist w.store entry).1 = .ok n) :
    let core := (kp.core.persist w.store entry).2.1
    let ev := applied k id core.state c.commandType entry.issuer
    let w₁ := put u k id { w with store := (kp.core.persist w.store entry).2.2 } { kp with core }
    execute u k id c reply w =
      ((put u k id (w₁.publish kp.subscribers ev).2
        { kp with core, subscribers := (w₁.publish kp.subscribers ev).1 }).deliver reply
          (.event ev)).2 := by
  intro core ev w₁
  have hu := World.lt_size_of_cell? hcell
  rcases hpr : kp.core.persist w.store entry with ⟨r, core', store⟩
  rw [hpr] at hp
  dsimp only at hp
  subst hp
  simp only [core, ev, w₁, hpr, applied]
  -- publishing leaves the unit where the append put it
  have hw₁ : (put u k id { w with store := store } { kp with core := core' }).cell? u =
      some (.entity k id { kp with core := core' }) :=
    World.cell?_setCell_self (w := { w with store := store }) hu _
  have hpub := World.entity?_of_cell? (World.publish_frame hw₁ kp.subscribers
    (((Event.succeeded k c.commandType entry.issuer).emittedBy (unitType k)).forEntity (some id)
      (Record.displayName core'.state) |>.withPayload (Record.toJson core'.state))).1
  rcases haim with ht | ht
  · simp only [Command.aimAt, ht] at h
    simp only [execute, World.entity?_of_cell? hcell, ht, Command.target_withTarget, h, hpr,
      ne_eq, not_true_eq_false, if_false, hpub]
  · simp only [Command.aimAt, ht] at h
    simp only [execute, World.entity?_of_cell? hcell, ht, h, hpr, ne_eq, not_true_eq_false,
      if_false, hpub]

/-- A command that is not taken is refused to the caller alone, and the unit, the faults and
every log are as they were. -/
theorem execute_of_not_taken
    (h : (∃ t, c.target = some t ∧ t ≠ id) ∨
      ((c.target = none ∨ c.target = some id) ∧
        ((∃ err, Aggregate.handle Instant.present kp.core.state (c.aimAt id) = .error err) ∨
          ((∃ entry, Aggregate.handle Instant.present kp.core.state (c.aimAt id) = .ok entry) ∧
            (w.store.faults.appends = true ∨
              (w.store.journal.log kp.core.persistenceId).lastSequenceNr ≠ kp.core.sequenceNr))))) :
    ∃ reason store, store.faults = w.store.faults ∧
      (∀ p, store.journal.log p = w.store.journal.log p) ∧
      execute u k id c reply w = ({ w with store := store }.deliver reply
        (.event (failed k id kp.core.state c.commandType c.issuer reason c.payload))).2 := by
  rcases h with ⟨t, ht, hne⟩ | ⟨haim, ⟨err, herr⟩ | ⟨⟨entry, hd⟩, happ⟩⟩
  · exact ⟨_, w.store, rfl, fun _ => rfl, execute_of_target_ne hcell c reply ht hne⟩
  · exact ⟨_, w.store, rfl, fun _ => rfl, execute_of_refused hcell c reply haim herr⟩
  · obtain ⟨je, hje⟩ := Core.persist_refused (Command.classOf_toJson entry) happ
    obtain ⟨-, hf, hlogs⟩ := Core.persist_error hje
    exact ⟨_, _, hf, hlogs, execute_of_append_failed hcell c reply haim hd hje⟩

/-- A command that is taken adds exactly its entry to the log, one past the unit's position, is
applied, and its event goes to the subscribers and then to the caller. -/
theorem execute_of_taken {entry : Command k.Rec} (haim : c.target = none ∨ c.target = some id)
    (hd : Aggregate.handle Instant.present kp.core.state (c.aimAt id) = .ok entry)
    (hf : w.store.faults.appends = false)
    (hv : (w.store.journal.log kp.core.persistenceId).lastSequenceNr = kp.core.sequenceNr) :
    ∃ core store, core.state = Aggregate.apply kp.core.state entry ∧
      core.sequenceNr = kp.core.sequenceNr + 1 ∧ core.activity = kp.core.activity + 1 ∧
      core.persistenceId = kp.core.persistenceId ∧ Record.id core.state = some id ∧
      ((execute u k id c reply w).store.journal.log kp.core.persistenceId).entries =
        (w.store.journal.log kp.core.persistenceId).entries ++
          [⟨kp.core.sequenceNr + 1, Logged.cls entry, Logged.toJson entry⟩] ∧
      let ev := applied k id core.state c.commandType entry.issuer
      let w₁ := put u k id { w with store := store } { kp with core }
      execute u k id c reply w =
        ((put u k id (w₁.publish kp.subscribers ev).2
          { kp with core, subscribers := (w₁.publish kp.subscribers ev).1 }).deliver reply
            (.event ev)).2 := by
  obtain ⟨hok, ⟨n, hcore⟩, hentries⟩ := Core.persist_ok (Command.classOf_toJson entry) hf hv
  have hexec := execute_of_appended hcell c reply haim hd hok
  have hu := World.lt_size_of_cell? hcell
  -- the journal is the one the append left: putting, publishing and answering keep it
  have hstore : (execute u k id c reply w).store = (kp.core.persist w.store entry).2.2 := by
    rw [hexec, World.store_deliver_event, store_put,
      (World.publish_frame
        (cell?_put_self (w := { w with store := (kp.core.persist w.store entry).2.2 }) hu _ _ _)
        _ _).2]
    rfl
  refine ⟨_, _, by rw [hcore], by rw [hcore], by rw [hcore], by rw [hcore], ?_, ?_, hexec⟩
  · rw [hcore]
    exact (Record.id_evolve_of_decide hd).trans (Command.target_aimAt haim)
  · rw [hstore]
    exact hentries

/-- Whatever becomes of a command, a unit that keeps its own record, or none yet, still
does. -/
theorem execute_keeps_own_record
    (hown : Record.id kp.core.state = none ∨ Record.id kp.core.state = some id) :
    ∃ kp', (execute u k id c reply w).cell? u = some (.entity k id kp') ∧
      (Record.id kp'.core.state = none ∨ Record.id kp'.core.state = some id) := by
  have hu := World.lt_size_of_cell? hcell
  -- a refused command leaves the unit where it was
  have hrefused : ∀ reason (store : Store), execute u k id c reply w = ({ w with store := store }.deliver
      reply (.event (failed k id kp.core.state c.commandType c.issuer reason c.payload))).2 →
      ∃ kp', (execute u k id c reply w).cell? u = some (.entity k id kp') ∧
        (Record.id kp'.core.state = none ∨ Record.id kp'.core.state = some id) := by
    intro reason store hexec
    exact ⟨kp, by rw [hexec, World.cell?_deliver_event]; exact hcell, hown⟩
  by_cases hmis : ∃ t, c.target = some t ∧ t ≠ id
  · obtain ⟨reason, store, -, -, hexec⟩ := execute_of_not_taken hcell c reply (.inl hmis)
    exact hrefused reason store hexec
  have haim := Command.aimed_of_not_other hmis
  cases hd : Aggregate.handle Instant.present kp.core.state (c.aimAt id) with
  | error err =>
    obtain ⟨reason, store, -, -, hexec⟩ :=
      execute_of_not_taken hcell c reply (.inr ⟨haim, .inl ⟨err, hd⟩⟩)
    exact hrefused reason store hexec
  | ok entry =>
    by_cases htaken : w.store.faults.appends = false ∧
        (w.store.journal.log kp.core.persistenceId).lastSequenceNr = kp.core.sequenceNr
    · obtain ⟨core, store, -, -, -, -, hid, -, hexec⟩ :=
        execute_of_taken hcell c reply haim hd htaken.1 htaken.2
      -- the unit is written back last, with the record the command names
      have hw₁ := cell?_put_self (w := { w with store := store }) hu k id { kp with core }
      have hpub := (World.publish_frame hw₁ kp.subscribers
        (applied k id core.state c.commandType entry.issuer)).1
      refine ⟨?kept, ?at_place, .inr ?own⟩
      case at_place =>
        rw [hexec, World.cell?_deliver_event]
        exact cell?_put_self (World.lt_size_of_cell? hpub) _ _ _
      case own => exact hid
    · have hnot : w.store.faults.appends = true ∨
          (w.store.journal.log kp.core.persistenceId).lastSequenceNr ≠ kp.core.sequenceNr := by
        cases hf : w.store.faults.appends
        · exact .inr fun hv => htaken ⟨hf, hv⟩
        · exact .inl rfl
      obtain ⟨reason, store, -, -, hexec⟩ :=
        execute_of_not_taken hcell c reply (.inr ⟨haim, .inr ⟨⟨entry, hd⟩, hnot⟩⟩)
      exact hrefused reason store hexec

/-- A unit whose record exists refuses every insert: the caller alone hears, and the unit, the
faults and every log stay as they were. -/
theorem execute_insert_of_exists (hid : Record.id kp.core.state ≠ none)
    (hins : c.commandType = .insert) :
    ∃ reason store, store.faults = w.store.faults ∧
      (∀ p, store.journal.log p = w.store.journal.log p) ∧
      execute u k id c reply w = ({ w with store := store }.deliver reply
        (.event (failed k id kp.core.state c.commandType c.issuer reason c.payload))).2 := by
  by_cases hmis : ∃ t, c.target = some t ∧ t ≠ id
  · exact execute_of_not_taken hcell c reply (.inl hmis)
  have haim := Command.aimed_of_not_other hmis
  cases hd : Aggregate.handle Instant.present kp.core.state (c.aimAt id) with
  | error err => exact execute_of_not_taken hcell c reply (.inr ⟨haim, .inl ⟨err, hd⟩⟩)
  | ok entry =>
    -- an accepted insert needs a record without an identity
    have hmove := Record.decide_moves hd
    rw [Command.commandType_aimAt, hins] at hmove
    exact absurd hmove.insert_creates.1 hid

end Branches

/-- A command run on the entity unit at `u`, which keeps `kp` for record `id`, logs before it
changes the unit and is all or nothing. -/
structure AllOrNothing (u : UnitRef) (k : EntityType) (id : Uuid) (kp : Keeper k.Rec (EntityMsg k))
    (c : Command k.Rec) (reply : Reply) (w : World) : Prop where
  /-- A command for another record, one the record refuses, or one the journal does not take,
  leaves the unit, the faults and every log, and the caller alone hears of its failure. -/
  not_taken : ((∃ t, c.target = some t ∧ t ≠ id) ∨
      ((c.target = none ∨ c.target = some id) ∧
        ((∃ err, Aggregate.handle Instant.present kp.core.state (c.aimAt id) = .error err) ∨
          ((∃ entry, Aggregate.handle Instant.present kp.core.state (c.aimAt id) = .ok entry) ∧
            (w.store.faults.appends = true ∨
              (w.store.journal.log kp.core.persistenceId).lastSequenceNr ≠ kp.core.sequenceNr))))) →
    ∃ reason store, store.faults = w.store.faults ∧
      (∀ p, store.journal.log p = w.store.journal.log p) ∧
      execute u k id c reply w = ({ w with store := store }.deliver reply
        (.event (failed k id kp.core.state c.commandType c.issuer reason c.payload))).2
  /-- A command the record accepts and the journal takes is logged once, one past the unit's
  position, then applied, then published to the subscribers and answered. -/
  taken : ∀ entry, (c.target = none ∨ c.target = some id) →
    Aggregate.handle Instant.present kp.core.state (c.aimAt id) = .ok entry →
    w.store.faults.appends = false →
    (w.store.journal.log kp.core.persistenceId).lastSequenceNr = kp.core.sequenceNr →
    ∃ core store, core.state = Aggregate.apply kp.core.state entry ∧
      core.sequenceNr = kp.core.sequenceNr + 1 ∧ core.activity = kp.core.activity + 1 ∧
      core.persistenceId = kp.core.persistenceId ∧ Record.id core.state = some id ∧
      ((execute u k id c reply w).store.journal.log kp.core.persistenceId).entries =
        (w.store.journal.log kp.core.persistenceId).entries ++
          [⟨kp.core.sequenceNr + 1, Logged.cls entry, Logged.toJson entry⟩] ∧
      let ev := applied k id core.state c.commandType entry.issuer
      let w₁ := put u k id { w with store := store } { kp with core }
      execute u k id c reply w =
        ((put u k id (w₁.publish kp.subscribers ev).2
          { kp with core, subscribers := (w₁.publish kp.subscribers ev).1 }).deliver reply
            (.event ev)).2
  /-- A unit that keeps its own record, or none yet, still does. -/
  keeps_own : Record.id kp.core.state = none ∨ Record.id kp.core.state = some id →
    ∃ kp', (execute u k id c reply w).cell? u = some (.entity k id kp') ∧
      (Record.id kp'.core.state = none ∨ Record.id kp'.core.state = some id)

end EntityUnit

/-- Every command an entity unit runs is logged before the unit changes, and the run is all or
nothing. -/
theorem execute_all_or_nothing {w : World} {u : UnitRef} {k : EntityType} {id : Uuid}
    {kp : Keeper k.Rec (EntityMsg k)} (hcell : w.cell? u = some (.entity k id kp))
    (c : Command k.Rec) (reply : Reply) : EntityUnit.AllOrNothing u k id kp c reply w where
  not_taken := EntityUnit.execute_of_not_taken hcell c reply
  taken _ := EntityUnit.execute_of_taken hcell c reply
  keeps_own := EntityUnit.execute_keeps_own_record hcell c reply

/-- A client unit just started in an empty world runs a delete all or nothing. -/
theorem spawned_client_all_or_nothing :
    ∃ kp, ((({ ids := { millis := 0 } } : World).spawnEntity .client (Uuid.ofNat 1) {}).2).cell? 0 =
        some (.entity .client (Uuid.ofNat 1) kp) ∧
      EntityUnit.AllOrNothing 0 .client (Uuid.ofNat 1) kp
        (.delete ⟨Uuid.ofNat 1, ⟨"ann", "c1", none⟩⟩) .ignore
        (({ ids := { millis := 0 } } : World).spawnEntity .client (Uuid.ofNat 1) {}).2 :=
  ⟨_, rfl, execute_all_or_nothing rfl _ _⟩

end Chronicle
