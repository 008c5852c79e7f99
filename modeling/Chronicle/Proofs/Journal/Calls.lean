import Mathlib
import Chronicle.Proofs.World.Pipeline

/-! Calls on a journal: what each answers, and what it leaves of the logs. -/
namespace Chronicle

namespace Journal

/-- A call that may change a journal: an append or a snapshot save. -/
inductive Call where
  | append (pid : String) (expected : ExpectedVersion) (entry : Json)
  | save (pid : String) (seq : Nat) (state : Json)

namespace Call

def pid : Call → String
  | .append pid .. | .save pid .. => pid

def run (j : Journal) : Call → Journal
  | .append pid ev entry => (j.append pid ev entry).2
  | .save pid seq st => (j.saveSnapshot pid seq st).2

def Refused (j : Journal) : Call → Prop
  | .append pid ev entry => ∃ err, (j.append pid ev entry).1 = .error err
  | .save pid seq st => ∃ err, (j.saveSnapshot pid seq st).1 = .error err

end Call

def build (calls : List Call) : Journal := calls.foldl Call.run {}

theorem build_append (calls more : List Call) :
    build (calls ++ more) = more.foldl Call.run (build calls) := by
  simp [build, List.foldl_append]

theorem build_induction {P : Journal → Prop} (hempty : P {})
    (hrun : ∀ j (c : Call), P j → P (c.run j)) (calls : List Call) : P (build calls) := by
  suffices ∀ j, P j → P (calls.foldl Call.run j) from this {} hempty
  induction calls with
  | nil => exact fun _ h => h
  | cons c rest ih => exact fun j h => ih _ (hrun j c h)

/-! ## What one call answers and leaves -/

theorem append_ok_iff (j : Journal) (pid : String) (ev : ExpectedVersion) (entry : Json)
    (m : Nat) :
    (j.append pid ev entry).1 = .ok m ↔
      (classOf entry).isSome ∧ ev.accepts (j.log pid).lastSequenceNr ∧
        m = (j.log pid).lastSequenceNr + 1 := by
  unfold append
  cases classOf entry with
  | none => simp
  | some cls =>
    by_cases hacc : ev.accepts (j.log pid).lastSequenceNr
    · simp [hacc, eq_comm]
    · simp [hacc]

theorem append_of_ok {j : Journal} {pid : String} {ev : ExpectedVersion} {entry : Json} {m : Nat}
    (h : (j.append pid ev entry).1 = .ok m) :
    ∃ cls, classOf entry = some cls ∧ m = (j.log pid).lastSequenceNr + 1 ∧
      (j.append pid ev entry).2 = j.setLog pid { j.log pid with
        entries := (j.log pid).entries ++ [⟨m, cls, entry⟩] } := by
  obtain ⟨hcls, hacc, rfl⟩ := (append_ok_iff j pid ev entry m).1 h
  obtain ⟨cls, hcls⟩ := Option.isSome_iff_exists.1 hcls
  exact ⟨cls, hcls, rfl, by simp [append, hcls, hacc]⟩

theorem snapshot_append (j : Journal) (pid : String) (ev : ExpectedVersion) (entry : Json)
    (p : String) : ((j.append pid ev entry).2.log p).snapshot = (j.log p).snapshot := by
  unfold append
  split
  · rfl
  · dsimp only
    split
    · rw [log_setLog]
      split
      · rename_i hp
        rw [hp]
      · rfl
    · rw [log_setLog_log]

theorem saveSnapshot_ok_iff (j : Journal) (pid : String) (seq : Nat) (st : Json) :
    (j.saveSnapshot pid seq st).1 = .ok () ↔ seq ≤ (j.log pid).lastSequenceNr := by
  unfold saveSnapshot
  dsimp only
  by_cases hle : seq ≤ (j.log pid).lastSequenceNr
  · have hnot : ¬ seq > (j.log pid).lastSequenceNr := by omega
    simp only [hnot, if_false, hle, iff_true]
    split
    · split <;> rfl
    · rfl
  · have hgt : seq > (j.log pid).lastSequenceNr := by omega
    simp [hgt, hle]

/-- The log a save leaves: the same entries, and the new snapshot when the save is not ahead of
the log and no newer snapshot is stored, else the stored one. -/
theorem log_saveSnapshot (j : Journal) (pid : String) (seq : Nat) (st : Json) :
    (j.saveSnapshot pid seq st).2.log pid =
      { j.log pid with
        snapshot := if seq ≤ (j.log pid).lastSequenceNr ∧
            (j.log pid).snapshot.all (·.sequenceNr ≤ seq) then some ⟨seq, st⟩
          else (j.log pid).snapshot } := by
  unfold saveSnapshot
  dsimp only
  by_cases hle : seq ≤ (j.log pid).lastSequenceNr
  · have hnot : ¬ seq > (j.log pid).lastSequenceNr := by omega
    simp only [hnot, if_false, hle, true_and]
    split
    · rename_i sn hsn
      by_cases hnew : sn.sequenceNr > seq
      · have hall : ¬ sn.sequenceNr ≤ seq := by omega
        rw [if_pos hnew, log_setLog_self, hsn]
        simp only [Option.all_some, decide_eq_true_eq, hall, if_false]
        rw [← hsn]
      · have hall : sn.sequenceNr ≤ seq := by omega
        simp [hnew, hsn, hall, log_setLog_self]
    · rename_i hsn
      simp [hsn, log_setLog_self]
  · have hgt : seq > (j.log pid).lastSequenceNr := by omega
    simp [hgt, hle, log_setLog_self]

theorem log_saveSnapshot_ne (j : Journal) {pid p : String} (seq : Nat) (st : Json)
    (hp : p ≠ pid) : (j.saveSnapshot pid seq st).2.log p = j.log p := by
  unfold saveSnapshot
  dsimp only
  split
  · exact log_setLog_ne _ _ hp
  · split
    · split <;> exact log_setLog_ne _ _ hp
    · exact log_setLog_ne _ _ hp

theorem saveSnapshot_error_log {j : Journal} {pid : String} {seq : Nat} {st : Json}
    {err : JournalError} (h : (j.saveSnapshot pid seq st).1 = .error err) (p : String) :
    (j.saveSnapshot pid seq st).2.log p = j.log p := by
  by_cases hp : p = pid
  · subst hp
    have hgt : ¬ seq ≤ (j.log p).lastSequenceNr := fun hle => by
      rw [(saveSnapshot_ok_iff j p seq st).2 hle] at h
      cases h
    rw [log_saveSnapshot]
    simp [hgt]
  · exact log_saveSnapshot_ne j seq st hp

namespace Call

theorem Refused.log_run {j : Journal} {c : Call} (h : c.Refused j) (p : String) :
    (c.run j).log p = j.log p := by
  cases c with
  | append pid ev entry =>
    obtain ⟨err, herr⟩ := h
    exact append_error_log herr p
  | save pid seq st =>
    obtain ⟨err, herr⟩ := h
    exact saveSnapshot_error_log herr p

/-- A call leaves the journal, or stores one log under its id. -/
theorem run_eq_or_setLog (j : Journal) (c : Call) :
    c.run j = j ∨ ∃ l, c.run j = j.setLog c.pid l := by
  cases c with
  | append pid ev entry =>
    show (j.append pid ev entry).2 = j ∨ ∃ l, (j.append pid ev entry).2 = j.setLog pid l
    unfold Journal.append
    split
    · exact .inl rfl
    · dsimp only
      split
      · exact .inr ⟨_, rfl⟩
      · exact .inr ⟨_, rfl⟩
  | save pid seq st =>
    show (j.saveSnapshot pid seq st).2 = j ∨ ∃ l, (j.saveSnapshot pid seq st).2 = j.setLog pid l
    unfold Journal.saveSnapshot
    dsimp only
    split
    · exact .inr ⟨_, rfl⟩
    · split
      · split
        · exact .inr ⟨_, rfl⟩
        · exact .inr ⟨_, rfl⟩
      · exact .inr ⟨_, rfl⟩

end Call

/-! ## The listed ids -/

theorem mem_keys_ins {pid p : String} (l : Log) (logs : List (String × Log)) :
    p ∈ (setLog.ins pid l logs).map (·.1) ↔ p = pid ∨ p ∈ logs.map (·.1) := by
  induction logs with
  | nil => simp [setLog.ins]
  | cons e rest ih =>
    obtain ⟨q, x⟩ := e
    simp only [setLog.ins]
    split
    · simp
    · split
      · rename_i heq
        subst heq
        simp
      · simp only [List.map_cons, List.mem_cons, ih]
        tauto

theorem mem_persistenceIds_setLog {j : Journal} {pid p : String} (l : Log) :
    p ∈ (j.setLog pid l).persistenceIds ↔ p = pid ∨ p ∈ j.persistenceIds :=
  mem_keys_ins l j.logs

theorem sorted_keys_ins {pid : String} (l : Log) {logs : List (String × Log)}
    (h : (logs.map (·.1)).Pairwise (· < ·)) :
    ((setLog.ins pid l logs).map (·.1)).Pairwise (· < ·) := by
  induction logs with
  | nil => simp [setLog.ins]
  | cons e rest ih =>
    obtain ⟨q, x⟩ := e
    have h' := h
    rw [List.map_cons, List.pairwise_cons] at h'
    simp only [setLog.ins]
    split
    · rename_i hlt
      rw [List.map_cons, List.pairwise_cons]
      refine ⟨fun r hr => ?_, h⟩
      rcases List.mem_cons.1 hr with rfl | hr
      · exact hlt
      · exact lt_trans hlt (h'.1 r hr)
    · split
      · rename_i heq
        subst heq
        rw [List.map_cons, List.pairwise_cons]
        exact h'
      · rename_i hnlt hne
        -- the new id comes after `q`, since it is neither before it nor equal to it
        have hgt : q < pid := lt_of_le_of_ne (not_lt.1 hnlt) (Ne.symm hne)
        rw [List.map_cons, List.pairwise_cons]
        refine ⟨fun r hr => ?_, ih h'.2⟩
        rcases (mem_keys_ins l rest).1 hr with rfl | hr
        · exact hgt
        · exact h'.1 r hr

def Ascending (j : Journal) : Prop := j.persistenceIds.Pairwise (· < ·)

theorem Ascending.setLog {j : Journal} (h : j.Ascending) (pid : String) (l : Log) :
    (j.setLog pid l).Ascending :=
  sorted_keys_ins l h

namespace Call

theorem mem_persistenceIds_run {j : Journal} (c : Call) {p : String}
    (hp : p ∈ j.persistenceIds) : p ∈ (c.run j).persistenceIds := by
  rcases run_eq_or_setLog j c with h | ⟨l, h⟩
  · rwa [h]
  · rw [h, mem_persistenceIds_setLog]
    exact .inr hp

theorem mem_persistenceIds_of_run {j : Journal} (c : Call) {p : String}
    (hp : p ∈ (c.run j).persistenceIds) : p ∈ j.persistenceIds ∨ p = c.pid := by
  rcases run_eq_or_setLog j c with h | ⟨l, h⟩
  · rw [h] at hp
    exact .inl hp
  · rw [h, mem_persistenceIds_setLog] at hp
    exact hp.symm

end Call

theorem Ascending.run {j : Journal} (h : j.Ascending) (c : Call) : (c.run j).Ascending := by
  rcases Call.run_eq_or_setLog j c with hc | ⟨l, hc⟩
  · rw [hc]
    exact h
  · rw [hc]
    exact h.setLog _ l

theorem ascending_build (calls : List Call) : (build calls).Ascending :=
  build_induction List.Pairwise.nil (fun _ c h => h.run c) calls

theorem log_of_not_mem {j : Journal} {p : String} (h : p ∉ j.persistenceIds) : j.log p = {} := by
  have hnone : j.logs.lookup p = none := by
    refine List.lookup_eq_none_iff.2 fun e he => ?_
    have hne : p ≠ e.1 := fun hp => h (List.mem_map.2 ⟨e, he, hp.symm⟩)
    simpa using hne
  simp [log, hnone]

theorem mem_persistenceIds_of_log {j : Journal} {p : String}
    (h : (j.log p).entries ≠ [] ∨ (j.log p).snapshot.isSome) : p ∈ j.persistenceIds := by
  by_contra hp
  rw [log_of_not_mem hp] at h
  simp at h

/-! ## Logs as calls leave them -/

end Journal

/-- A log as calls leave it: numbered 1, 2, … in order, each entry with the class its document
names, and its snapshot no further than the last entry. -/
structure Log.Orderly (l : Log) : Prop where
  kept : l.Kept
  named : ∀ e ∈ l.entries, classOf e.payload = some e.cls
  snapshot_le : ∀ s ∈ l.snapshot, s.sequenceNr ≤ l.entries.length

def Log.SnapshotNoOlder (l l' : Log) : Prop :=
  ∀ s ∈ l.snapshot, ∃ s' ∈ l'.snapshot, s.sequenceNr ≤ s'.sequenceNr

namespace Log

theorem orderly_empty : ({} : Log).Orderly :=
  ⟨kept_empty, fun _ h => absurd h List.not_mem_nil, fun _ h => by cases h⟩

theorem Orderly.push {l : Log} (h : l.Orderly) {entry : Json} {cls : String}
    (hcls : classOf entry = some cls) :
    ({ l with entries := l.entries ++ [⟨l.lastSequenceNr + 1, cls, entry⟩] } : Log).Orderly := by
  refine ⟨h.kept.push hcls, fun e he => ?_, fun s hs => ?_⟩
  · rcases List.mem_append.1 he with he | he
    · exact h.named e he
    · rw [List.mem_singleton.1 he]
      exact hcls
  · have hle := h.snapshot_le s hs
    simp only [List.length_append, List.length_singleton]
    omega

theorem Orderly.withSnapshot {l : Log} (h : l.Orderly) {sn : Option Snapshot}
    (hle : ∀ s ∈ sn, s.sequenceNr ≤ l.entries.length) :
    ({ l with snapshot := sn } : Log).Orderly :=
  ⟨⟨h.kept.numbered, h.kept.copied⟩, h.named, hle⟩

theorem SnapshotNoOlder.refl (l : Log) : l.SnapshotNoOlder l :=
  fun s hs => ⟨s, hs, le_refl _⟩

theorem SnapshotNoOlder.trans {l₁ l₂ l₃ : Log} (h₁ : l₁.SnapshotNoOlder l₂)
    (h₂ : l₂.SnapshotNoOlder l₃) : l₁.SnapshotNoOlder l₃ := by
  intro s hs
  obtain ⟨s', hs', hle⟩ := h₁ s hs
  obtain ⟨s'', hs'', hle'⟩ := h₂ s' hs'
  exact ⟨s'', hs'', le_trans hle hle'⟩

theorem SnapshotNoOlder.of_snapshot_eq {l l' : Log} (h : l'.snapshot = l.snapshot) :
    l.SnapshotNoOlder l' := by
  rw [SnapshotNoOlder, h]
  exact SnapshotNoOlder.refl l

end Log

namespace Journal

def Orderly (j : Journal) : Prop := ∀ pid, (j.log pid).Orderly

theorem Orderly.setLog {j : Journal} (hj : j.Orderly) {pid : String} {l : Log}
    (hl : l.Orderly) : (j.setLog pid l).Orderly := by
  intro p
  rw [log_setLog]
  split
  · exact hl
  · exact hj p

theorem Orderly.append {j : Journal} (hj : j.Orderly) (pid : String) (ev : ExpectedVersion)
    (entry : Json) : (j.append pid ev entry).2.Orderly := by
  unfold Journal.append
  cases hcls : classOf entry with
  | none => exact hj
  | some cls =>
    dsimp only
    split
    · exact hj.setLog ((hj pid).push hcls)
    · exact hj.setLog (hj pid)

/-- Saves keep every log orderly: a taken save is never ahead of its log. -/
theorem Orderly.saveSnapshot {j : Journal} (hj : j.Orderly) (pid : String) (seq : Nat)
    (st : Json) : (j.saveSnapshot pid seq st).2.Orderly := by
  intro p
  by_cases hp : p = pid
  · subst hp
    rw [log_saveSnapshot]
    refine (hj p).withSnapshot fun s hs => ?_
    have hlast := (hj p).kept.lastSequenceNr_eq
    split at hs
    · rename_i hnew
      rw [Option.mem_some_iff] at hs
      subst hs
      show seq ≤ (j.log p).entries.length
      rw [← hlast]
      exact hnew.1
    · exact (hj p).snapshot_le s hs
  · rw [log_saveSnapshot_ne j seq st hp]
    exact hj p

theorem Orderly.run {j : Journal} (hj : j.Orderly) (c : Call) : (c.run j).Orderly := by
  cases c with
  | append pid ev entry => exact hj.append pid ev entry
  | save pid seq st => exact hj.saveSnapshot pid seq st

theorem orderly_build (calls : List Call) : (build calls).Orderly :=
  build_induction (fun _ => Log.orderly_empty) (fun _ c h => h.run c) calls

theorem saveSnapshot_at_end {j : Journal} {pid : String} (h : (j.log pid).Orderly) (st : Json) :
    (j.saveSnapshot pid (j.log pid).lastSequenceNr st).1 = .ok () ∧
      (j.saveSnapshot pid (j.log pid).lastSequenceNr st).2.log pid =
        { j.log pid with snapshot := some ⟨(j.log pid).lastSequenceNr, st⟩ } := by
  refine ⟨(saveSnapshot_ok_iff j pid _ st).2 le_rfl, ?_⟩
  have hall : (j.log pid).snapshot.all (·.sequenceNr ≤ (j.log pid).lastSequenceNr) := by
    rw [h.kept.lastSequenceNr_eq]
    cases hs : (j.log pid).snapshot with
    | none => rfl
    | some sn => simpa using h.snapshot_le sn hs
  rw [log_saveSnapshot, if_pos ⟨le_rfl, hall⟩]

/-- No call moves a log's snapshot back. -/
theorem snapshotNoOlder_run (j : Journal) (c : Call) (p : String) :
    (j.log p).SnapshotNoOlder ((c.run j).log p) := by
  cases c with
  | append pid ev entry =>
    exact Log.SnapshotNoOlder.of_snapshot_eq (snapshot_append j pid ev entry p)
  | save pid seq st =>
    by_cases hp : p = pid
    · subst hp
      intro s hs
      show ∃ s' ∈ ((j.saveSnapshot p seq st).2.log p).snapshot, _
      rw [log_saveSnapshot]
      dsimp only
      split
      · -- the new snapshot is taken only when the stored one is not past it
        rename_i hnew
        have hall := hnew.2
        rw [hs, Option.all_some, decide_eq_true_eq] at hall
        exact ⟨_, rfl, hall⟩
      · exact ⟨s, hs, le_refl _⟩
    · exact Log.SnapshotNoOlder.of_snapshot_eq (by rw [Call.run, log_saveSnapshot_ne j seq st hp])

theorem snapshotNoOlder_build (calls more : List Call) (p : String) :
    ((build calls).log p).SnapshotNoOlder ((build (calls ++ more)).log p) := by
  rw [build_append]
  generalize build calls = j
  induction more generalizing j with
  | nil => exact Log.SnapshotNoOlder.refl _
  | cons c rest ih => exact (snapshotNoOlder_run j c p).trans (ih (c.run j))

end Journal

/-- After any calls, a log of `n` entries is numbered 1 to `n` with the classes its documents
name, each call is taken exactly on its condition, and the snapshot never passes nor moves back. -/
theorem journal_log_discipline (calls : List Journal.Call) (pid : String) :
    let j := Journal.build calls
    let l := j.log pid
    l.entries.map (·.sequenceNr) = List.range' 1 l.entries.length ∧
    (∀ e ∈ l.entries, classOf e.payload = some e.cls) ∧
    (∀ ev entry m, (j.append pid ev entry).1 = .ok m ↔
      (classOf entry).isSome ∧ ev.accepts l.entries.length ∧ m = l.entries.length + 1) ∧
    (∀ seq st, (j.saveSnapshot pid seq st).1 = .ok () ↔ seq ≤ l.entries.length) ∧
    (∀ seq st, ((j.saveSnapshot pid seq st).2.log pid).snapshot =
      if seq ≤ l.entries.length ∧ l.snapshot.all (·.sequenceNr ≤ seq) then some ⟨seq, st⟩
      else l.snapshot) ∧
    (∀ s ∈ l.snapshot, s.sequenceNr ≤ l.entries.length) ∧
    (∀ more, l.SnapshotNoOlder ((Journal.build (calls ++ more)).log pid)) := by
  intro j l
  have hl : l.Orderly := Journal.orderly_build calls pid
  have hlast : l.lastSequenceNr = l.entries.length := hl.kept.lastSequenceNr_eq
  refine ⟨hl.kept.numbered, hl.named, fun ev entry m => ?_, fun seq st => ?_, fun seq st => ?_,
    hl.snapshot_le, fun more => Journal.snapshotNoOlder_build calls more pid⟩
  · rw [Journal.append_ok_iff, ← hlast]
  · rw [Journal.saveSnapshot_ok_iff, ← hlast]
  · rw [Journal.log_saveSnapshot, ← hlast]

/-- A refused append or snapshot save leaves what every log reads as it was, listing at most
its own id beside the others, and the ids stay listed in ascending order. -/
theorem refused_call_keeps_logs (calls : List Journal.Call) (c : Journal.Call) :
    let j := Journal.build calls
    (c.Refused j →
      (∀ p, (c.run j).readAll p = j.readAll p ∧ (c.run j).len p = j.len p) ∧
      (∀ p ∈ j.persistenceIds, p ∈ (c.run j).persistenceIds) ∧
      (∀ p ∈ (c.run j).persistenceIds, p ∈ j.persistenceIds ∨ p = c.pid)) ∧
    j.persistenceIds.Pairwise (· < ·) ∧
    ∀ p, (j.log p).entries ≠ [] ∨ (j.log p).snapshot.isSome → p ∈ j.persistenceIds := by
  intro j
  refine ⟨fun hc => ⟨fun p => ?_, fun p => c.mem_persistenceIds_run,
    fun p => c.mem_persistenceIds_of_run⟩, Journal.ascending_build calls,
    fun p => Journal.mem_persistenceIds_of_log⟩
  -- a refused call leaves every log as it reads, so its entries and their number
  simp [Journal.readAll, Journal.len, hc.log_run p]

end Chronicle
