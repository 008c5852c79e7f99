import Mathlib
import Chronicle.Unit.Core
import Chronicle.Proofs.Codec.Entries

/-! Recovery of a persistent unit through a snapshot and the entries after it. -/
namespace Chronicle

/-- What recovery needs of a kind of persistent state and its commands: the states and
commands whose documents read back (those that fit), closed under applying commands, and
commands logged under a class of their own that no setting has. -/
structure Durable (α κ : Type) [Aggregate α κ] [Logged κ] [Stored α] where
  fits : α → Prop
  entryFits : κ → Prop
  fits_empty : fits Aggregate.empty
  fits_apply : ∀ {s k}, fits s → entryFits k → fits (Aggregate.apply s k)
  read_toJson : ∀ {s}, fits s → Stored.read? (Stored.toJson s) = some s
  classOf_toJson : ∀ k : κ, classOf (Logged.toJson k) = some (Logged.cls k)
  cls_not_mem_settings : ∀ k : κ, Logged.cls k ∉ UnitSetting.classes
  decodeEntry_toJson : ∀ {k}, entryFits k → decodeEntry κ (Logged.toJson k) = .ok (.command k)

namespace Replayed

section Log

variable {κ : Type} [Logged κ]

def cls : Replayed κ → String
  | .command k => Logged.cls k
  | .setting s => s.cls

def payload : Replayed κ → Json
  | .command k => Logged.toJson k
  | .setting s => s.toJson

def entries : Nat → List (Replayed κ) → List LogEntry
  | _, [] => []
  | n, it :: rest => ⟨n + 1, it.cls, it.payload⟩ :: entries (n + 1) rest

theorem entries_append (n : Nat) (xs ys : List (Replayed κ)) :
    entries n (xs ++ ys) = entries n xs ++ entries (n + xs.length) ys := by
  induction xs generalizing n with
  | nil => rfl
  | cons it xs ih =>
    simp only [List.cons_append, entries, ih, List.length_cons]
    rw [Nat.add_assoc, Nat.add_comm 1]

theorem entries_concat (n : Nat) (xs : List (Replayed κ)) (it : Replayed κ) :
    entries n (xs ++ [it]) = entries n xs ++ [⟨n + xs.length + 1, it.cls, it.payload⟩] :=
  entries_append n xs [it]

theorem lastSequenceNr_eq {l : Log} {items : List (Replayed κ)}
    (h : l.entries = entries 0 items) : l.lastSequenceNr = items.length := by
  induction items using List.reverseRecOn generalizing l with
  | nil => simp [Log.lastSequenceNr, h, entries]
  | append_singleton xs it _ =>
    rw [Log.lastSequenceNr, h, entries_concat, List.getLast?_concat]
    simp

end Log

section Fold

variable {α κ : Type} [Aggregate α κ]

def stateAfter (s : α) : List (Replayed κ) → α
  | [] => s
  | .command k :: rest => stateAfter (Aggregate.apply s k) rest
  | .setting _ :: rest => stateAfter s rest

def configAfter (c : UnitConfig) : List (Replayed κ) → UnitConfig
  | [] => c
  | .command _ :: rest => configAfter c rest
  | .setting st :: rest => configAfter (c.apply st) rest

theorem stateAfter_append (s : α) (xs ys : List (Replayed κ)) :
    stateAfter s (xs ++ ys) = stateAfter (stateAfter s xs) ys := by
  induction xs generalizing s with
  | nil => rfl
  | cons it xs ih => cases it <;> simp [stateAfter, ih]

theorem configAfter_append (c : UnitConfig) (xs ys : List (Replayed κ)) :
    configAfter c (xs ++ ys) = configAfter (configAfter c xs) ys := by
  induction xs generalizing c with
  | nil => rfl
  | cons it xs ih => cases it <;> simp [configAfter, ih]

end Fold

end Replayed

namespace Durable

variable {α κ : Type} [Aggregate α κ] [Logged κ] [Stored α] (D : Durable α κ)

def ItemFits : Replayed κ → Prop
  | .command k => D.entryFits k
  | .setting s => s.Fits

theorem decodeEntry_payload {it : Replayed κ} (h : D.ItemFits it) :
    decodeEntry κ it.payload = .ok it := by
  cases it with
  | command k => exact D.decodeEntry_toJson h
  | setting s => exact decodeEntry_setting κ h

theorem fits_stateAfter {s : α} (hs : D.fits s) {items : List (Replayed κ)}
    (h : ∀ it ∈ items, D.ItemFits it) : D.fits (Replayed.stateAfter s items) := by
  induction items generalizing s with
  | nil => exact hs
  | cons it items ih =>
    simp only [List.mem_cons, forall_eq_or_imp] at h
    cases it with
    | command k => exact ih (D.fits_apply hs h.1) h.2
    | setting st => exact ih hs h.2

/-- A store that keeps, under a persistence id, the log of items that fit, numbered from one,
with no snapshot or one of the state after a prefix of them; and reads of it succeed. -/
structure Keeps (s : Store) (pid : String) (items : List (Replayed κ)) : Prop where
  reads_eq : s.faults.reads = false
  entries_eq : (s.journal.log pid).entries = Replayed.entries 0 items
  snapshot_eq : ∀ sn, (s.journal.log pid).snapshot = some sn →
    sn.sequenceNr ≤ items.length ∧
      sn.state =
        Stored.toJson (Replayed.stateAfter (Aggregate.empty : α) (items.take sn.sequenceNr))
  fits : ∀ it ∈ items, D.ItemFits it

end Durable

namespace Core

section Replay

variable {α κ : Type} [Aggregate α κ] [Logged κ]

theorem replay_covered {c : Core α} {e : LogEntry} (hcov : e.sequenceNr ≤ c.sequenceNr)
    (hcls : e.cls ∉ UnitSetting.classes) : c.replay (κ := κ) e = .ok c := by
  simp [replay, hcov, hcls]

theorem replay_setting {c : Core α} {e : LogEntry} {st : UnitSetting}
    (hcls : e.cls ∈ UnitSetting.classes) (hdec : decodeEntry κ e.payload = .ok (.setting st)) :
    c.replay (κ := κ) e =
      .ok { c with
        sequenceNr := if e.sequenceNr ≤ c.sequenceNr then c.sequenceNr else e.sequenceNr
        config := c.config.apply st } := by
  by_cases hcov : e.sequenceNr ≤ c.sequenceNr <;> simp [replay, hcov, hcls, hdec, Except.map]

theorem replay_command {c : Core α} {e : LogEntry} {k : κ} (hnew : c.sequenceNr < e.sequenceNr)
    (hdec : decodeEntry κ e.payload = .ok (.command k)) :
    c.replay (κ := κ) e =
      .ok { c with state := Aggregate.apply c.state k, sequenceNr := e.sequenceNr } := by
  have hcov : ¬ e.sequenceNr ≤ c.sequenceNr := by omega
  simp [replay, hcov, hdec, Except.map]

theorem replay_persistenceId {c c' : Core α} {e : LogEntry} (h : c.replay (κ := κ) e = .ok c') :
    c'.persistenceId = c.persistenceId := by
  cases hd : decodeEntry κ e.payload with
  | error err =>
    simp only [replay, hd, skip] at h
    split_ifs at h <;> simp [Except.map] at h <;> rw [← h]
  | ok r =>
    cases r with
    | command k =>
      simp only [replay, hd] at h
      split_ifs at h <;> simp [Except.map] at h <;> rw [← h]
    | setting st =>
      simp only [replay, hd] at h
      split_ifs at h <;> simp [Except.map] at h <;> rw [← h]

end Replay

variable {α κ : Type} [Aggregate α κ] [Logged κ] [Stored α]

/-- Feeds the items of recovery to a unit one at a time until it reports recovery complete;
a strict unit may abort on the way. -/
def recoverAll (c : Core α) : List ReplayItem → Except RecoveryAborted (Core α)
  | [] => .ok c
  | item :: rest =>
    match c.recover (κ := κ) item with
    | .ok (.continue, c') => recoverAll c' rest
    | .ok (.completed, c') => .ok c'
    | .error e => .error e

/-- A unit that completed recovery without setting anything aside, at a state, a position
and a configuration. -/
structure RecoveredAt (c : Core α) (state : α) (seq : Nat) (config : UnitConfig) : Prop where
  phase_eq : c.phase = .commandProcessing
  state_eq : c.state = state
  sequenceNr_eq : c.sequenceNr = seq
  config_eq : c.config = config
  skipped_eq : c.skipped = []

theorem recoverAll_snapshot (c : Core α) (sn : Snapshot) (rest : List ReplayItem) :
    recoverAll c (.snapshot sn :: rest) = recoverAll (c.installSnapshot sn) rest := rfl

theorem recoverAll_entry {c c' : Core α} {e : LogEntry} (h : c.replay (κ := κ) e = .ok c')
    (rest : List ReplayItem) : recoverAll c (.entry e :: rest) = recoverAll c' rest := by
  simp [recoverAll, recover, h, Except.map]

theorem recoverAll_completed (c : Core α) (rest : List ReplayItem) :
    recoverAll c (.completed :: rest) = .ok { c with phase := .commandProcessing } := rfl

/-- No step of recovery changes whose log the unit is. -/
theorem recover_persistenceId {c c' : Core α} {item : ReplayItem} {r : RecoveryStep}
    (h : c.recover (κ := κ) item = .ok (r, c')) : c'.persistenceId = c.persistenceId := by
  cases item with
  | snapshot sn =>
    simp only [recover, Except.ok.injEq, Prod.mk.injEq] at h
    rw [← h.2, installSnapshot]
    split <;> rfl
  | entry e =>
    cases hr : c.replay (κ := κ) e with
    | error err => simp [recover, hr, Except.map] at h
    | ok c1 =>
      simp only [recover, hr, Except.map, Except.ok.injEq, Prod.mk.injEq] at h
      rw [← h.2, replay_persistenceId hr]
  | completed =>
    simp only [recover, Except.ok.injEq, Prod.mk.injEq] at h
    rw [← h.2]

theorem recoverAll_persistenceId {c c' : Core α} {items : List ReplayItem}
    (h : recoverAll (κ := κ) c items = .ok c') : c'.persistenceId = c.persistenceId := by
  induction items generalizing c with
  | nil => simp only [recoverAll, Except.ok.injEq] at h; rw [h]
  | cons item rest ih =>
    simp only [recoverAll] at h
    split at h
    · rename_i c1 hstep
      rw [ih h, recover_persistenceId hstep]
    · rename_i c1 hstep
      simp only [Except.ok.injEq] at h
      rw [← h, recover_persistenceId hstep]
    · cases h

theorem recoverAll_entries_cons {c c' : Core α} {n : Nat} (it : Replayed κ)
    (h : c.replay (κ := κ) ⟨n + 1, it.cls, it.payload⟩ = .ok c') (items : List (Replayed κ))
    (rest : List ReplayItem) :
    recoverAll c ((Replayed.entries n (it :: items)).map .entry ++ rest) =
      recoverAll c' ((Replayed.entries (n + 1) items).map .entry ++ rest) := by
  rw [Replayed.entries, List.map_cons, List.cons_append]
  exact recoverAll_entry h _

variable (D : Durable α κ)

include D in
/-- Entries the position already covers change only the configuration, by their settings. -/
theorem recoverAll_covered {items : List (Replayed κ)} (h : ∀ it ∈ items, D.ItemFits it) :
    ∀ (n : Nat) (c : Core α) (rest : List ReplayItem), n + items.length ≤ c.sequenceNr →
      recoverAll c ((Replayed.entries n items).map .entry ++ rest) =
        recoverAll { c with config := Replayed.configAfter c.config items } rest := by
  induction items with
  | nil => intro n c rest _; rfl
  | cons it items ih =>
    intro n c rest hcov
    simp only [List.mem_cons, forall_eq_or_imp] at h
    simp only [List.length_cons] at hcov
    cases it with
    | command k =>
      rw [recoverAll_entries_cons (.command k)
          (replay_covered (by simp; omega) (D.cls_not_mem_settings k)),
        ih h.2 (n + 1) c rest (by omega)]
      rfl
    | setting st =>
      rw [recoverAll_entries_cons (.setting st) (replay_setting (UnitSetting.cls_mem_classes st)
          (D.decodeEntry_payload (show D.ItemFits (.setting st) from h.1))),
        if_pos (show n + 1 ≤ c.sequenceNr by omega), ih h.2 (n + 1) _ rest (by dsimp only; omega)]
      rfl

include D in
/-- Entries past the position are applied in order and move it to the last of them. -/
theorem recoverAll_fresh {items : List (Replayed κ)} (h : ∀ it ∈ items, D.ItemFits it) :
    ∀ (n : Nat) (c : Core α) (rest : List ReplayItem), c.sequenceNr = n →
      recoverAll c ((Replayed.entries n items).map .entry ++ rest) =
        recoverAll { c with state := Replayed.stateAfter c.state items,
                            config := Replayed.configAfter c.config items,
                            sequenceNr := n + items.length } rest := by
  induction items with
  | nil => intro n c rest hn; subst hn; rfl
  | cons it items ih =>
    intro n c rest hn
    simp only [List.mem_cons, forall_eq_or_imp] at h
    cases it with
    | command k =>
      rw [recoverAll_entries_cons (.command k) (replay_command (by simp; omega)
          (D.decodeEntry_payload (show D.ItemFits (.command k) from h.1))),
        ih h.2 (n + 1) _ rest rfl]
      simp only [List.length_cons, Replayed.stateAfter, Replayed.configAfter]
      congr 2
      omega
    | setting st =>
      rw [recoverAll_entries_cons (.setting st) (replay_setting (UnitSetting.cls_mem_classes st)
          (D.decodeEntry_payload (show D.ItemFits (.setting st) from h.1))),
        ih h.2 (n + 1) _ rest (by simp; omega)]
      simp only [List.length_cons, Replayed.stateAfter, Replayed.configAfter]
      congr 2
      omega

/-- A fresh unit recovering from a store that keeps items completes recovery at the state
after all their commands, the position of the last entry and the configuration after all their
settings, with nothing set aside. -/
theorem recoverAll_load {pid : String} (cfg : UnitConfig) {s : Store} {items : List (Replayed κ)}
    (h : D.Keeps s pid items) :
    ∃ c, recoverAll (new pid cfg) ((new pid cfg : Core α).load s) = .ok c ∧
      c.RecoveredAt (Replayed.stateAfter (Aggregate.empty : α) items) items.length
        (Replayed.configAfter cfg items) := by
  have hload : (new pid cfg : Core α).load s =
      ((s.journal.log pid).snapshot.map ReplayItem.snapshot).toList ++
        ((Replayed.entries 0 items).map .entry ++ [.completed]) := by
    simp only [load, new, Store.readAll, h.reads_eq, Journal.readAll, h.entries_eq,
      Bool.false_eq_true, if_false]
    cases (s.journal.log pid).snapshot <;> simp
  rw [hload]
  cases hsn : (s.journal.log pid).snapshot with
  | none =>
    -- without a snapshot every entry lies past the position
    apply Exists.intro
    constructor
    · rw [Option.map_none, Option.toList_none, List.nil_append,
        recoverAll_fresh D h.fits 0 _ _ rfl, recoverAll_completed]
    · exact ⟨rfl, rfl, Nat.zero_add _, rfl, rfl⟩
  | some sn =>
    obtain ⟨hle, hstate⟩ := h.snapshot_eq sn hsn
    have hfront : ∀ it ∈ items.take sn.sequenceNr, D.ItemFits it :=
      fun it hit => h.fits it (List.mem_of_mem_take hit)
    have hback : ∀ it ∈ items.drop sn.sequenceNr, D.ItemFits it :=
      fun it hit => h.fits it (List.mem_of_mem_drop hit)
    have htake : (items.take sn.sequenceNr).length = sn.sequenceNr := by
      simp [List.length_take, Nat.min_eq_left hle]
    have hread : (Stored.read? sn.state : Option α) =
        some (Replayed.stateAfter Aggregate.empty (items.take sn.sequenceNr)) := by
      rw [hstate]
      exact D.read_toJson (D.fits_stateAfter D.fits_empty hfront)
    have hinst : (new pid cfg : Core α).installSnapshot sn =
        { (new pid cfg : Core α) with
          state := Replayed.stateAfter Aggregate.empty (items.take sn.sequenceNr),
          sequenceNr := sn.sequenceNr, snapshotNr := sn.sequenceNr } := by
      simp [installSnapshot, hread]
    -- the snapshot covers the entries of the first items, and the rest lie past it
    have hsplit : Replayed.entries 0 items = Replayed.entries 0 (items.take sn.sequenceNr) ++
        Replayed.entries sn.sequenceNr (items.drop sn.sequenceNr) := by
      have hsum := Replayed.entries_append 0 (items.take sn.sequenceNr) (items.drop sn.sequenceNr)
      rw [List.take_append_drop, htake, Nat.zero_add] at hsum
      exact hsum
    apply Exists.intro
    constructor
    · rw [Option.map_some, Option.toList_some, List.singleton_append, recoverAll_snapshot, hinst,
        hsplit, List.map_append, List.append_assoc,
        recoverAll_covered D hfront 0 _ _ (by simp [htake]),
        recoverAll_fresh D hback sn.sequenceNr _ _ rfl, recoverAll_completed]
    · refine ⟨rfl, ?_, ?_, ?_, rfl⟩
      · simp only
        rw [← Replayed.stateAfter_append, List.take_append_drop]
      · simp only [List.length_drop]
        omega
      · simp only [new]
        rw [← Replayed.configAfter_append, List.take_append_drop]

end Core

end Chronicle
