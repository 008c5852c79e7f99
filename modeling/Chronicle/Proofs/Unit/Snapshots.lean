import Mathlib
import Chronicle.Proofs.Journal.Calls
import Chronicle.Proofs.Unit.Foreign

/-! The snapshot policy of a persistent unit. -/
namespace Chronicle

def Store.SnapshotAt (s : Store) (pid : String) (n : Nat) : Prop :=
  (s.journal.log pid).snapshot.map (·.sequenceNr) = some n

namespace Store

/-- A taken append adds one entry to its log, one past the last, and leaves the faults. -/
theorem append_of_ok {s s' : Store} {pid : String} {ev : ExpectedVersion} {entry : Json}
    {n : Nat} (h : s.append pid ev entry = (.ok n, s')) :
    s'.faults = s.faults ∧ ∃ cls, classOf entry = some cls ∧
      n = (s.journal.log pid).lastSequenceNr + 1 ∧
      s'.journal = s.journal.setLog pid { s.journal.log pid with
        entries := (s.journal.log pid).entries ++ [⟨n, cls, entry⟩] } := by
  by_cases hf : s.faults.appends = true
  · simp [append, hf] at h
  · rcases hj : s.journal.append pid ev entry with ⟨r, j⟩
    simp only [append, hf, hj, Bool.false_eq_true, if_false, Prod.mk.injEq] at h
    obtain ⟨rfl, rfl⟩ := h
    obtain ⟨cls, hcls, hn, hj'⟩ :=
      Journal.append_of_ok (show (s.journal.append pid ev entry).1 = .ok n by rw [hj])
    rw [hj] at hj'
    exact ⟨rfl, cls, hcls, hn, hj'⟩

theorem saveSnapshot_at_end {s : Store} {pid : String} (h : (s.journal.log pid).Orderly)
    (hf : s.faults.snapshots = false) (st : Json) :
    (s.saveSnapshot pid (s.journal.log pid).lastSequenceNr st).1 = .ok () ∧
      (s.saveSnapshot pid (s.journal.log pid).lastSequenceNr st).2.faults = s.faults ∧
      (s.saveSnapshot pid (s.journal.log pid).lastSequenceNr st).2.journal.log pid =
        { s.journal.log pid with snapshot := some ⟨(s.journal.log pid).lastSequenceNr, st⟩ } := by
  obtain ⟨hok, hlog⟩ := Journal.saveSnapshot_at_end h st
  rcases hj : s.journal.saveSnapshot pid (s.journal.log pid).lastSequenceNr st with ⟨r, j⟩
  rw [hj] at hok hlog
  have hsave : s.saveSnapshot pid (s.journal.log pid).lastSequenceNr st =
      (r, { s with journal := j }) := by
    simp [saveSnapshot, hf, hj]
  rw [hsave]
  exact ⟨hok, rfl, hlog⟩

end Store

namespace Core

variable {α κ : Type} [Aggregate α κ] [Logged κ] [Stored α]

/-- A unit in step with its store, for the log `pid`: the log is orderly and ends at the unit's
position, reads succeed, and the log's snapshot is no older than the last one the unit knows
of. -/
structure InStep (pid : String) (c : Core α) (s : Store) : Prop where
  pid_eq : c.persistenceId = pid
  orderly : (s.journal.log pid).Orderly
  at_end : (s.journal.log pid).lastSequenceNr = c.sequenceNr
  reads : s.faults.reads = false
  snapshotNr_le : c.snapshotNr ≤ c.sequenceNr
  covered : c.snapshotNr = 0 ∨
    ∃ sn ∈ (s.journal.log pid).snapshot, c.snapshotNr ≤ sn.sequenceNr

variable {pid : String} {c : Core α} {s : Store}

omit [Stored α] in
theorem InStep.frame (h : c.InStep pid s) {c' : Core α} {s' : Store}
    (hpid : c'.persistenceId = c.persistenceId) (hseq : c'.sequenceNr = c.sequenceNr)
    (hsnap : c'.snapshotNr = c.snapshotNr) (hlog : s'.journal.log pid = s.journal.log pid)
    (hreads : s'.faults.reads = s.faults.reads) : c'.InStep pid s' := by
  refine ⟨hpid.trans h.pid_eq, hlog ▸ h.orderly, ?_, hreads.trans h.reads, ?_, ?_⟩
  · rw [hlog, hseq]
    exact h.at_end
  · rw [hsnap, hseq]
    exact h.snapshotNr_le
  · rw [hsnap, hlog]
    exact h.covered

omit [Stored α] in
/-- A unit whose entry the store takes moves to the entry's number and stays in step. -/
theorem InStep.appended (h : c.InStep pid s) {doc : Json} {n : Nat} {s' : Store}
    (happ : s.append pid (.exact c.sequenceNr) doc = (.ok n, s')) {c' : Core α}
    (hpid : c'.persistenceId = c.persistenceId) (hseq : c'.sequenceNr = n)
    (hsnap : c'.snapshotNr = c.snapshotNr) : c'.InStep pid s' := by
  obtain ⟨hf, cls, hcls, hn, hj⟩ := Store.append_of_ok happ
  have hlog : s'.journal.log pid = { s.journal.log pid with
      entries := (s.journal.log pid).entries ++ [⟨n, cls, doc⟩] } := by
    rw [hj, Journal.log_setLog_self]
  have hpush := h.orderly.push hcls
  rw [← hn, ← hlog] at hpush
  have hlast : (s'.journal.log pid).lastSequenceNr = n := by
    unfold Log.lastSequenceNr
    rw [hlog]
    simp
  have hold := h.at_end
  have hle := h.snapshotNr_le
  refine ⟨hpid.trans h.pid_eq, hpush, by rw [hlast, hseq], by rw [hf]; exact h.reads, ?_, ?_⟩
  · rw [hsnap, hseq]
    omega
  · rw [hsnap, hlog]
    exact h.covered

/-- A save by a unit in step that has logged anything, with snapshot saves succeeding, stores
the snapshot at the unit's position. -/
theorem InStep.saveSnapshot_eq (h : c.InStep pid s) (hf : s.faults.snapshots = false)
    (hpos : 0 < c.sequenceNr) :
    (c.saveSnapshot s).1 = { c with snapshotNr := c.sequenceNr } ∧
      (c.saveSnapshot s).2.faults = s.faults ∧
      (c.saveSnapshot s).2.journal.log pid =
        { s.journal.log pid with snapshot := some ⟨c.sequenceNr, Stored.toJson c.state⟩ } := by
  obtain ⟨hok, hfaults, hlog⟩ := Store.saveSnapshot_at_end h.orderly hf (Stored.toJson c.state)
  rw [h.at_end] at hok hfaults hlog
  rw [← h.pid_eq] at hok hfaults hlog
  unfold saveSnapshot
  rw [if_neg (Nat.pos_iff_ne_zero.1 hpos)]
  rcases hs : s.saveSnapshot c.persistenceId c.sequenceNr (Stored.toJson c.state) with ⟨r, s'⟩
  rw [hs] at hok hfaults hlog
  cases hok
  rw [← h.pid_eq]
  exact ⟨rfl, hfaults, hlog⟩

theorem InStep.saveSnapshot (h : c.InStep pid s) :
    (c.saveSnapshot s).1.InStep pid (c.saveSnapshot s).2 := by
  by_cases hzero : c.sequenceNr = 0
  · simp only [Core.saveSnapshot, hzero, if_true]
    exact h.frame rfl (by rw [hzero]) rfl rfl rfl
  cases hf : s.faults.snapshots with
  | true =>
    -- a failing save is refused before it touches the journal
    simp only [Core.saveSnapshot, hzero, if_false, Store.saveSnapshot, hf, if_true]
    exact h
  | false =>
    obtain ⟨hc, hfaults, hlog⟩ := h.saveSnapshot_eq hf (Nat.pos_of_ne_zero hzero)
    rw [hc]
    have hlen := h.orderly.kept.lastSequenceNr_eq
    refine ⟨h.pid_eq, ?_, ?_, by rw [hfaults]; exact h.reads, le_refl _,
      .inr ⟨⟨c.sequenceNr, Stored.toJson c.state⟩, ?_, le_refl c.sequenceNr⟩⟩
    · rw [hlog]
      refine h.orderly.withSnapshot fun sn hsn => ?_
      rw [Option.mem_some_iff] at hsn
      subst hsn
      show c.sequenceNr ≤ _
      rw [← h.at_end, hlen]
    · rw [hlog]
      exact h.at_end
    · rw [hlog]
      rfl

/-- How a command whose entry the store takes changes the unit: it moves to the entry's number,
counts the command and saves a snapshot when the command calls for one or the count reaches a
multiple of the trigger. -/
theorem persist_of_ok {k : κ} {n : Nat} (hok : (c.persist s k).1 = .ok n) :
    ∃ s', s.append c.persistenceId (.exact c.sequenceNr) (Logged.toJson k) = (.ok n, s') ∧
      let c₁ : Core α := { c with sequenceNr := n, state := Aggregate.apply c.state k,
                                  activity := c.activity + 1 }
      (c.persist s k).2 =
        if Logged.forcesSnapshot k || c₁.activity % max c₁.config.snapshotTriggerCount 1 == 0
        then c₁.saveSnapshot s' else (c₁, s') := by
  rw [persist_fst] at hok
  rcases happ : s.append c.persistenceId (.exact c.sequenceNr) (Logged.toJson k) with ⟨r, s'⟩
  rw [happ] at hok
  cases hok
  refine ⟨s', rfl, ?_⟩
  unfold persist
  rw [happ]
  dsimp only
  split_ifs <;> rfl

theorem persist_activity {k : κ} {n : Nat} (hok : (c.persist s k).1 = .ok n) :
    (c.persist s k).2.1.activity = c.activity + 1 := by
  obtain ⟨s', -, heq⟩ := persist_of_ok hok
  rw [heq]
  split
  · obtain ⟨m, hm⟩ := saveSnapshot_fst
      ({ c with sequenceNr := n, state := Aggregate.apply c.state k,
                activity := c.activity + 1 } : Core α) s'
    rw [hm]
  · rfl

theorem InStep.persist (h : c.InStep pid s) (k : κ) :
    (c.persist s k).2.1.InStep pid (c.persist s k).2.2 := by
  cases hr : (c.persist s k).1 with
  | error e =>
    -- a refused append leaves the unit, the faults and every log
    obtain ⟨hc, hf, hlogs⟩ := persist_error hr
    rw [hc]
    exact h.frame rfl rfl rfl (hlogs pid) (by rw [hf])
  | ok n =>
    obtain ⟨s', happ, heq⟩ := persist_of_ok hr
    rw [h.pid_eq] at happ
    have h₁ : ({ c with sequenceNr := n, state := Aggregate.apply c.state k,
                        activity := c.activity + 1 } : Core α).InStep pid s' :=
      h.appended happ rfl rfl rfl
    rw [heq]
    split
    · exact h₁.saveSnapshot
    · exact h₁

omit [Stored α] in
theorem InStep.persistSetting (h : c.InStep pid s) (st : UnitSetting) :
    (c.persistSetting s st).2.1.InStep pid (c.persistSetting s st).2.2 := by
  unfold Core.persistSetting
  rcases happ : s.append c.persistenceId (.exact c.sequenceNr) st.toJson with ⟨_ | n, s'⟩
  · obtain ⟨hf, hlogs⟩ := Store.append_error_frame (s := s) (by rw [happ])
    rw [happ] at hf hlogs
    exact h.frame rfl rfl rfl (hlogs pid) (by rw [hf])
  · rw [h.pid_eq] at happ
    exact h.appended happ rfl rfl rfl

/-- While snapshot saves succeed, an entry that calls for a snapshot, or that brings the count
of commands to a multiple of the trigger, is in the journal's snapshot at once. -/
theorem InStep.persist_snapshotAt (h : c.InStep pid s) (hf : s.faults.snapshots = false)
    {k : κ} {n : Nat} (hok : (c.persist s k).1 = .ok n)
    (hwhy : Logged.forcesSnapshot k = true ∨
      (c.persist s k).2.1.activity % max c.config.snapshotTriggerCount 1 = 0) :
    (c.persist s k).2.2.SnapshotAt pid n := by
  obtain ⟨s', happ, heq⟩ := persist_of_ok hok
  rw [h.pid_eq] at happ
  have hf' : s'.faults.snapshots = false := by rw [(Store.append_of_ok happ).1, hf]
  have hpos : 0 < n := by
    obtain ⟨-, -, -, hn, -⟩ := Store.append_of_ok happ
    omega
  have h₁ : ({ c with sequenceNr := n, state := Aggregate.apply c.state k,
                      activity := c.activity + 1 } : Core α).InStep pid s' :=
    h.appended happ rfl rfl rfl
  rw [persist_activity hok] at hwhy
  rw [heq]
  split
  · rw [Store.SnapshotAt, (h₁.saveSnapshot_eq hf' hpos).2.2]
    rfl
  · -- the snapshot is left out only when neither reason holds
    rename_i hnot
    simp only [Bool.or_eq_true, beq_iff_eq, not_or] at hnot
    rcases hwhy with hforce | hcount
    · exact absurd hforce hnot.1
    · exact absurd hcount hnot.2

/-! ## Recovery puts a unit in step -/

omit [Stored α] in
theorem replay_shape {c c' : Core α} {e : LogEntry} (h : c.replay (κ := κ) e = .ok c') :
    ∃ st cfg sk n, c' = { c with state := st, config := cfg, skipped := sk, sequenceNr := n } := by
  cases hd : decodeEntry κ e.payload with
  | error err =>
    simp only [replay, hd, skip] at h
    split_ifs at h <;> cases h <;> exact ⟨_, _, _, _, rfl⟩
  | ok r =>
    cases r <;> simp only [replay, hd] at h <;> split_ifs at h <;> cases h <;>
      exact ⟨_, _, _, _, rfl⟩

/-- Recovery moves the position of the last snapshot only to that of a snapshot it installs. -/
theorem recoverAll_snapshotNr {c c' : Core α} {items : List ReplayItem}
    (h : recoverAll (κ := κ) c items = .ok c') :
    c'.snapshotNr = c.snapshotNr ∨
      ∃ sn, ReplayItem.snapshot sn ∈ items ∧ c'.snapshotNr = sn.sequenceNr := by
  induction items generalizing c with
  | nil =>
    simp only [recoverAll, Except.ok.injEq] at h
    exact .inl (by rw [h])
  | cons item rest ih =>
    cases item with
    | snapshot sn =>
      rw [recoverAll_snapshot] at h
      have hinst : (c.installSnapshot sn).snapshotNr = c.snapshotNr ∨
          (c.installSnapshot sn).snapshotNr = sn.sequenceNr := by
        unfold installSnapshot
        split
        · exact .inr rfl
        · exact .inl rfl
      rcases ih h with h₁ | ⟨sn', hmem, h₁⟩
      · rcases hinst with h₂ | h₂
        · exact .inl (h₁.trans h₂)
        · exact .inr ⟨sn, List.mem_cons_self, h₁.trans h₂⟩
      · exact .inr ⟨sn', List.mem_cons_of_mem _ hmem, h₁⟩
    | entry e =>
      cases hr : c.replay (κ := κ) e with
      | error err => simp [recoverAll, recover, hr, Except.map] at h
      | ok c₁ =>
        rw [recoverAll_entry hr] at h
        obtain ⟨_, _, _, _, rfl⟩ := replay_shape hr
        rcases ih h with h₁ | ⟨sn', hmem, h₁⟩
        · exact .inl h₁
        · exact .inr ⟨sn', List.mem_cons_of_mem _ hmem, h₁⟩
    | completed =>
      rw [recoverAll_completed, Except.ok.injEq] at h
      exact .inl (by rw [← h])

omit [Logged κ] in
theorem startOf_le {l : Log} (h : l.Orderly) :
    (startOf (α := α) l.snapshot).2 ≤ l.lastSequenceNr := by
  rw [h.kept.lastSequenceNr_eq]
  unfold startOf
  split
  · rename_i sn hsn
    split
    · exact h.snapshot_le sn hsn
    · exact Nat.zero_le _
  · exact Nat.zero_le _

omit [Aggregate α κ] [Logged κ] [Stored α] in
theorem load_congr {s s' : Store} (hreads : s'.faults.reads = s.faults.reads)
    (hlog : s'.journal.log c.persistenceId = s.journal.log c.persistenceId) :
    c.load s' = c.load s := by
  simp only [load, Store.readAll, Journal.readAll, hreads, hlog]

/-- A unit that recovers from an orderly log ends at its last entry. -/
theorem recovered_sequenceNr (cfg : UnitConfig) (horderly : (s.journal.log pid).Orderly)
    (hreads : s.faults.reads = false) {c' : Core α}
    (hrun : recoverAll (κ := κ) (new pid cfg : Core α) ((new pid cfg : Core α).load s) = .ok c') :
    c'.sequenceNr = (s.journal.log pid).lastSequenceNr := by
  -- recovery reads the log alone, so it runs as over a journal that holds only that log
  let s₁ : Store := { s with journal := ({} : Journal).setLog pid (s.journal.log pid) }
  have hlog₁ : s₁.journal.log pid = s.journal.log pid := Journal.log_setLog_self _ _ _
  have hrun₁ : recoverAll (κ := κ) (new pid cfg : Core α) ((new pid cfg : Core α).load s₁) =
      .ok c' := by
    rw [load_congr (show s₁.faults.reads = s.faults.reads from rfl) hlog₁]
    exact hrun
  obtain ⟨hgoes, hstops⟩ := recovery_over_any_log (κ := κ) (α := α) pid cfg (s := s₁) hreads
    (Journal.kept_empty.setLog horderly.kept)
  have hrec : c'.RecoveredFrom cfg (s₁.journal.log pid) := by
    by_cases hgo : cfg.strictRecovery = false ∨
        failures κ (startOf (α := α) (s₁.journal.log pid).snapshot).2
          (s₁.journal.log pid).entries = []
    · obtain ⟨c'', hrun', hrec⟩ := hgoes hgo
      rw [hrun₁, Except.ok.injEq] at hrun'
      rw [hrun']
      exact hrec
    · -- a strict unit that meets an entry it cannot read back refuses to start
      obtain ⟨hstrict, hfail⟩ := not_or.1 hgo
      obtain ⟨⟨e, err⟩, rest, hcons⟩ := List.exists_cons_of_ne_nil hfail
      have := hstops e err rest (by simpa using hstrict) hcons
      rw [hrun₁] at this
      cases this
  rw [hrec.sequenceNr_eq, hlog₁]
  exact Nat.max_eq_right (startOf_le horderly)

/-- A unit that recovers from an orderly log, reads succeeding, is in step with it. -/
theorem inStep_recovered (cfg : UnitConfig) (horderly : (s.journal.log pid).Orderly)
    (hreads : s.faults.reads = false) {c' : Core α}
    (hrun : recoverAll (κ := κ) (new pid cfg : Core α) ((new pid cfg : Core α).load s) = .ok c') :
    c'.InStep pid s := by
  have hseq := recovered_sequenceNr cfg horderly hreads hrun
  have hlen := horderly.kept.lastSequenceNr_eq
  -- the last snapshot the unit knows of is none, or the log's, installed
  have hsnap : c'.snapshotNr = 0 ∨
      ∃ sn ∈ (s.journal.log pid).snapshot, c'.snapshotNr = sn.sequenceNr := by
    rcases recoverAll_snapshotNr hrun with h₁ | ⟨sn, hmem, h₁⟩
    · exact .inl h₁
    · refine .inr ⟨sn, ?_, h₁⟩
      have hlog : (s.journal.log (new pid cfg : Core α).persistenceId).snapshot = some sn := by
        simpa [load_of_reads hreads] using hmem
      exact hlog
  refine ⟨recoverAll_persistenceId hrun, horderly, hseq.symm, hreads, ?_, ?_⟩
  · rcases hsnap with h₁ | ⟨sn, hsn, h₁⟩
    · rw [h₁]
      exact Nat.zero_le _
    · rw [h₁, hseq, hlen]
      exact horderly.snapshot_le sn hsn
  · rcases hsnap with h₁ | ⟨sn, hsn, h₁⟩
    · exact .inl h₁
    · exact .inr ⟨sn, hsn, h₁.le⟩

theorem inStep_restart {cfg : UnitConfig} (horderly : (s.journal.log pid).Orderly)
    (hreads : s.faults.reads = false) (hpid : c.persistenceId = pid) {c' : Core α} {s' : Store}
    (hstep : c.lifeStep cfg s (.restart : LifeStep κ) = .ok (c', s')) : c'.InStep pid s' := by
  rw [lifeStep, hpid] at hstep
  cases hrun : recoverAll (κ := κ) (new pid cfg : Core α) ((new pid cfg : Core α).load s) with
  | error e =>
    rw [hrun] at hstep
    cases hstep
  | ok c₁ =>
    rw [hrun] at hstep
    simp only [Except.map, Except.ok.injEq, Prod.mk.injEq] at hstep
    obtain ⟨rfl, rfl⟩ := hstep
    exact inStep_recovered cfg horderly hreads hrun

/-! ## A life keeps the unit in step -/

theorem InStep.lifeStep (h : c.InStep pid s) {cfg : UnitConfig} {st : LifeStep κ} {c' : Core α}
    {s' : Store} (hstep : c.lifeStep cfg s st = .ok (c', s')) : c'.InStep pid s' := by
  cases st with
  | persist k =>
    have h₁ := h.persist k
    rw [show (c.persist s k).2 = (c', s') from Except.ok.inj hstep] at h₁
    exact h₁
  | setting st =>
    have h₁ := h.persistSetting st
    rw [show (c.persistSetting s st).2 = (c', s') from Except.ok.inj hstep] at h₁
    exact h₁
  | snapshot =>
    have h₁ := h.saveSnapshot
    rw [show c.saveSnapshot s = (c', s') from Except.ok.inj hstep] at h₁
    exact h₁
  | faults a sn =>
    simp only [Core.lifeStep, Except.ok.injEq, Prod.mk.injEq] at hstep
    obtain ⟨rfl, rfl⟩ := hstep
    exact h.frame rfl rfl rfl rfl rfl
  | restart => exact inStep_restart h.orderly h.reads h.pid_eq hstep

theorem live_cons_ok {cfg : UnitConfig} {st : LifeStep κ} {rest : List (LifeStep κ)}
    {r : Core α × Store} (h : live cfg (c, s) (st :: rest) = .ok r) :
    ∃ c₁ s₁, c.lifeStep cfg s st = .ok (c₁, s₁) ∧ live cfg (c₁, s₁) rest = .ok r := by
  simp only [live, bind, Except.bind] at h
  split at h
  · cases h
  · rename_i cs hstep
    exact ⟨cs.1, cs.2, hstep, h⟩

theorem InStep.live (h : c.InStep pid s) {cfg : UnitConfig} {steps : List (LifeStep κ)}
    {c' : Core α} {s' : Store} (hrun : live cfg (c, s) steps = .ok (c', s')) :
    c'.InStep pid s' := by
  induction steps generalizing c s with
  | nil =>
    simp only [Core.live, Except.ok.injEq, Prod.mk.injEq] at hrun
    obtain ⟨rfl, rfl⟩ := hrun
    exact h
  | cons st rest ih =>
    obtain ⟨c₁, s₁, hstep, hrest⟩ := live_cons_ok hrun
    exact ih (h.lifeStep hstep) hrest

end Core

/-! ## Passivation of an entity unit -/

section Passivation

variable {w : World} {u : UnitRef} {k : EntityType} {id i : Uuid}
  {kp : Keeper k.Rec (EntityMsg k)}

theorem EntityUnit.passivate_store (h : w.entity? u k = some (i, kp)) :
    (EntityUnit.passivate u k id w).store =
      if kp.core.isDirty then (kp.core.saveSnapshot w.store).2 else w.store := by
  unfold EntityUnit.passivate
  rw [h]
  dsimp only
  by_cases hd : kp.core.isDirty = true
  · rw [if_pos hd, if_pos hd]
    cases kp.core.saveSnapshot w.store
    rfl
  · rw [if_neg hd, if_neg hd]

/-- An entity unit in step that has logged anything leaves the journal's snapshot at its last
position when it passivates, while snapshot saves succeed. -/
theorem Core.InStep.passivate_snapshotAt {pid : String} {c : Core k.Rec} {s : Store}
    (hc : c.InStep pid s) (hf : s.faults.snapshots = false) (hpos : 0 < c.sequenceNr)
    (hw : w.entity? u k = some (i, kp)) (hkp : kp.core = c) (hs : w.store = s) :
    (EntityUnit.passivate u k id w).store.SnapshotAt pid c.sequenceNr := by
  rw [EntityUnit.passivate_store hw, hkp, hs]
  cases hd : c.isDirty with
  | true =>
    -- a unit with news saves them at its position
    rw [if_pos rfl, Store.SnapshotAt, (hc.saveSnapshot_eq hf hpos).2.2]
    rfl
  | false =>
    -- a unit without news already has its position in the journal's snapshot
    rw [if_neg (by simp), Store.SnapshotAt]
    have hnr : c.snapshotNr = c.sequenceNr := by
      simp only [Core.isDirty, decide_eq_false_iff_not, not_lt] at hd
      exact le_antisymm hc.snapshotNr_le hd
    rcases hc.covered with h0 | ⟨sn, hsn, hle⟩
    · omega
    · have hatmost : sn.sequenceNr ≤ c.sequenceNr := by
        rw [← hc.at_end, hc.orderly.kept.lastSequenceNr_eq]
        exact hc.orderly.snapshot_le sn hsn
      rw [Option.mem_def] at hsn
      rw [hsn, Option.map_some]
      congr 1
      omega

end Passivation

/-- While snapshot saves succeed, an entity unit's snapshot reaches every command that calls
for one or completes a multiple of the trigger count, and its last position when it passivates. -/
theorem entity_snapshot_policy (k : EntityType) (pid : String) (cfg : UnitConfig) (s₀ : Store)
    (horderly : (s₀.journal.log pid).Orderly) (hreads : s₀.faults.reads = false)
    (steps : List (LifeStep (Command k.Rec))) (c : Core k.Rec) (s : Store)
    (hlive : Core.live cfg (Core.new pid cfg, s₀) (.restart :: steps) = .ok (c, s))
    (hsnap : s.faults.snapshots = false) :
    (∀ (x : Command k.Rec) (n : Nat), (c.persist s x).1 = .ok n →
      (∃ ch, x = .insert ch) ∨ (∃ l, x = .delete l) ∨ (∃ l, x = .undelete l) ∨
        (c.persist s x).2.1.activity % max c.config.snapshotTriggerCount 1 = 0 →
      (c.persist s x).2.2.SnapshotAt pid n) ∧
    (∀ (w : World) (u : UnitRef) (id : Uuid) (kp : Keeper k.Rec (EntityMsg k)),
      w.entity? u k = some (id, kp) → kp.core = c → w.store = s → 0 < c.sequenceNr →
      (EntityUnit.passivate u k id w).store.SnapshotAt pid c.sequenceNr) := by
  -- the first step recovers from the log, and every later one keeps the unit in step
  obtain ⟨c₁, s₁, hfirst, hrest⟩ := Core.live_cons_ok hlive
  have hin : c.InStep pid s := (Core.inStep_restart horderly hreads rfl hfirst).live hrest
  refine ⟨fun x n hok hwhy => hin.persist_snapshotAt hsnap hok ?_,
    fun w u id kp hw hkp hs hpos => hin.passivate_snapshotAt hsnap hpos hw hkp hs⟩
  rcases hwhy with ⟨ch, rfl⟩ | ⟨l, rfl⟩ | ⟨l, rfl⟩ | hcount
  · exact .inl rfl
  · exact .inl rfl
  · exact .inl rfl
  · exact .inr hcount

/-- A client inserted as `Acme` and then deleted: an undelete after it is in the snapshot at
once, and passivation leaves the snapshot at the delete. -/
theorem client_snapshot_policy_after_delete :
    ∃ (c : Core EntityType.client.Rec) (s : Store),
      Core.live {} (Core.new "client-x" {}, ({} : Store))
        [.restart, .persist (.insert ⟨some (Uuid.ofNat 1), ClientState.named "Acme", ⟨"ann", "c1", none⟩⟩),
          .persist (.delete ⟨Uuid.ofNat 1, ⟨"ann", "c1", none⟩⟩)] = .ok (c, s) ∧
      c.sequenceNr = 2 ∧
      (c.persist s (.undelete ⟨Uuid.ofNat 1, ⟨"ann", "c1", none⟩⟩)).1 = .ok 3 ∧
      (c.persist s (.undelete ⟨Uuid.ofNat 1, ⟨"ann", "c1", none⟩⟩)).2.2.SnapshotAt "client-x" 3 ∧
      ∀ (w : World) (u : UnitRef) (id : Uuid) (kp : Keeper EntityType.client.Rec (EntityMsg .client)),
        w.entity? u .client = some (id, kp) → kp.core = c → w.store = s →
        (EntityUnit.passivate u .client id w).store.SnapshotAt "client-x" 2 := by
  -- the life and the undelete after it are run once, and the policy read at what they give
  obtain ⟨c, s, hlive, hnr, hsnap, hundo⟩ : ∃ (c : Core EntityType.client.Rec) (s : Store),
      Core.live {} (Core.new "client-x" {}, ({} : Store))
        [.restart, .persist (.insert ⟨some (Uuid.ofNat 1), ClientState.named "Acme", ⟨"ann", "c1", none⟩⟩),
          .persist (.delete ⟨Uuid.ofNat 1, ⟨"ann", "c1", none⟩⟩)] = .ok (c, s) ∧
      c.sequenceNr = 2 ∧ s.faults.snapshots = false ∧
      (c.persist s (.undelete ⟨Uuid.ofNat 1, ⟨"ann", "c1", none⟩⟩)).1 = .ok 3 :=
    ⟨_, _, rfl, rfl, rfl, rfl⟩
  have hpolicy :=
    entity_snapshot_policy .client "client-x" {} {} Log.orderly_empty rfl _ c s hlive hsnap
  refine ⟨c, s, hlive, hnr, hundo, hpolicy.1 _ 3 hundo (.inr (.inr (.inl ⟨_, rfl⟩))), ?_⟩
  intro w u id kp hw hkp hs
  rw [← hnr]
  exact hpolicy.2 w u id kp hw hkp hs (by omega)

end Chronicle
