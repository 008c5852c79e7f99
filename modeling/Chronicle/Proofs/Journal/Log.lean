import Mathlib
import Chronicle.Journal.Store

/-! The logs of a journal, one per persistence id, numbered in the order of the appends. -/
namespace Chronicle

namespace Journal

private theorem lookup_setLog_ins (pid : String) (l : Log) (logs : List (String × Log)) :
    (setLog.ins pid l logs).lookup pid = some l := by
  induction logs with
  | nil => simp [setLog.ins]
  | cons e rest ih =>
    obtain ⟨p, x⟩ := e
    by_cases hlt : pid < p
    · simp [setLog.ins, hlt]
    · by_cases heq : pid = p
      · simp [setLog.ins, heq]
      · have hne : (pid == p) = false := beq_false_of_ne heq
        simp [setLog.ins, hlt, heq, List.lookup, hne, ih]

theorem log_setLog_self (j : Journal) (pid : String) (l : Log) : (j.setLog pid l).log pid = l := by
  simp [log, setLog, lookup_setLog_ins]

private theorem lookup_setLog_ins_ne {pid p : String} (l : Log) (logs : List (String × Log))
    (hne : p ≠ pid) : (setLog.ins pid l logs).lookup p = logs.lookup p := by
  have hne' : (p == pid) = false := beq_false_of_ne hne
  induction logs with
  | nil => simp [setLog.ins, List.lookup, hne']
  | cons e rest ih =>
    obtain ⟨q, x⟩ := e
    by_cases hlt : pid < q
    · simp [setLog.ins, hlt, List.lookup, hne']
    · by_cases heq : pid = q
      · subst heq
        simp [setLog.ins, List.lookup, hne']
      · simp only [setLog.ins, hlt, heq, if_false, List.lookup]
        split <;> simp_all

theorem log_setLog_ne (j : Journal) {pid p : String} (l : Log) (hne : p ≠ pid) :
    (j.setLog pid l).log p = j.log p := by
  simp [log, setLog, lookup_setLog_ins_ne l j.logs hne]

theorem log_setLog_log (j : Journal) (pid p : String) : (j.setLog pid (j.log pid)).log p = j.log p := by
  by_cases h : p = pid
  · subst h
    exact log_setLog_self j p _
  · exact log_setLog_ne j _ h

theorem append_exact {j : Journal} {pid : String} {n : Nat} {entry : Json} {cls : String}
    (hv : (j.log pid).lastSequenceNr = n) (hcls : classOf entry = some cls) :
    j.append pid (.exact n) entry =
      (.ok (n + 1), j.setLog pid { j.log pid with
        entries := (j.log pid).entries ++ [⟨n + 1, cls, entry⟩] }) := by
  simp [append, hcls, hv, ExpectedVersion.accepts]

/-- A snapshot at a number the log reaches is accepted; the log keeps its entries and either
keeps its snapshot or takes the new one. -/
theorem saveSnapshot_of_le {j : Journal} {pid : String} {n : Nat} (state : Json)
    (hv : n ≤ (j.log pid).lastSequenceNr) :
    ∃ l : Log, j.saveSnapshot pid n state = (.ok (), j.setLog pid l) ∧
      l.entries = (j.log pid).entries ∧
      (l.snapshot = (j.log pid).snapshot ∨ l.snapshot = some ⟨n, state⟩) := by
  have hnot : ¬ n > (j.log pid).lastSequenceNr := by omega
  cases hsn : (j.log pid).snapshot with
  | none =>
    exact ⟨{ j.log pid with snapshot := some ⟨n, state⟩ },
      by simp [saveSnapshot, hnot, hsn], rfl, Or.inr rfl⟩
  | some sn =>
    by_cases hnew : sn.sequenceNr > n
    · exact ⟨_, by simp [saveSnapshot, hnot, hsn, hnew], rfl, Or.inl hsn⟩
    · exact ⟨{ j.log pid with snapshot := some ⟨n, state⟩ },
        by simp [saveSnapshot, hnot, hsn, hnew], rfl, Or.inr rfl⟩

theorem log_setLog (j : Journal) (pid p : String) (l : Log) :
    (j.setLog pid l).log p = if p = pid then l else j.log p := by
  split
  · rename_i h
    subst h
    exact log_setLog_self j p l
  · rename_i h
    exact log_setLog_ne j l h

end Journal

/-! ## Logs as the journal keeps them -/

def LogEntry.ClassCopied (e : LogEntry) : Prop := ∀ n, classOf e.payload = some n → e.cls = n

/-- A log as the journal keeps it: entries numbered 1, 2, … in order, each with the class its
document names. -/
structure Log.Kept (l : Log) : Prop where
  numbered : l.entries.map (·.sequenceNr) = List.range' 1 l.entries.length
  copied : ∀ e ∈ l.entries, e.ClassCopied

namespace Log

theorem kept_empty : ({} : Log).Kept :=
  ⟨rfl, fun _ h => absurd h List.not_mem_nil⟩

theorem Kept.lastSequenceNr_eq {l : Log} (h : l.Kept) : l.lastSequenceNr = l.entries.length := by
  have hlast : (l.entries.map (·.sequenceNr)).getLast? =
      (List.range' 1 l.entries.length).getLast? := by rw [h.numbered]
  rw [List.getLast?_map] at hlast
  unfold lastSequenceNr
  cases hl : l.entries.getLast? with
  | none => simp_all
  | some e =>
    have hlen : l.entries ≠ [] := fun h0 => by simp [h0] at hl
    rw [hl, Option.map_some, List.getLast?_range'] at hlast
    have hpos : 0 < l.entries.length := List.length_pos_iff.mpr hlen
    simp only [Nat.pos_iff_ne_zero.mp hpos, if_false, Option.some.injEq] at hlast
    show e.sequenceNr = _
    omega

theorem Kept.sorted {l : Log} (h : l.Kept) : (l.entries.map (·.sequenceNr)).Pairwise (· < ·) := by
  rw [h.numbered]
  exact List.pairwise_lt_range'

theorem Kept.push {l : Log} (h : l.Kept) {entry : Json} {cls : String}
    (hcls : classOf entry = some cls) :
    ({ l with entries := l.entries ++ [⟨l.lastSequenceNr + 1, cls, entry⟩] } : Log).Kept := by
  constructor
  · simp [List.map_append, h.numbered, h.lastSequenceNr_eq, List.range'_concat, Nat.add_comm]
  · intro e he
    rcases List.mem_append.mp he with he | he
    · exact h.copied e he
    · simp only [List.mem_singleton] at he
      subst he
      intro n hn
      exact Option.some.inj (hcls.symm.trans hn)

end Log

namespace Journal

def Kept (j : Journal) : Prop := ∀ pid, (j.log pid).Kept

theorem kept_empty : ({} : Journal).Kept := fun _ => Log.kept_empty

theorem Kept.setLog {j : Journal} (hj : j.Kept) {pid : String} {l : Log} (hl : l.Kept) :
    (j.setLog pid l).Kept := by
  intro p
  rw [log_setLog]
  split
  · exact hl
  · exact hj p

theorem Kept.append {j : Journal} (hj : j.Kept) (pid : String) (expected : ExpectedVersion)
    (entry : Json) : (j.append pid expected entry).2.Kept := by
  unfold Journal.append
  cases hcls : classOf entry with
  | none => exact hj
  | some cls =>
    simp only
    split
    · exact hj.setLog ((hj pid).push hcls)
    · exact hj.setLog (hj pid)

theorem Kept.saveSnapshot {j : Journal} (hj : j.Kept) (pid : String) (seq : Nat)
    (state : Json) : (j.saveSnapshot pid seq state).2.Kept := by
  have hsnap : ∀ sn : Option Snapshot, ({ j.log pid with snapshot := sn } : Log).Kept :=
    fun _ => ⟨(hj pid).numbered, (hj pid).copied⟩
  unfold Journal.saveSnapshot
  dsimp only
  split
  · exact hj.setLog (hj pid)
  · split
    · split
      · exact hj.setLog (hj pid)
      · exact hj.setLog (hsnap _)
    · exact hj.setLog (hsnap _)

end Journal

end Chronicle
