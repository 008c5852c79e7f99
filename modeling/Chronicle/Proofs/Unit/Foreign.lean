import Chronicle.Proofs.Journal.Log
import Chronicle.Proofs.Unit.Replay

/-! Recovery over any log, including entries the unit never wrote. -/
namespace Chronicle

section Decode

variable {κ : Type} [Logged κ] {j : Json}

theorem decodeEntry_command_cls {x : κ} (h : decodeEntry κ j = .ok (.command x)) :
    ∃ n, classOf j = some n ∧ n ∉ UnitSetting.classes := by
  cases hc : classOf j with
  | none => simp [decodeEntry, hc] at h
  | some n =>
    refine ⟨n, rfl, fun hn => ?_⟩
    simp only [decodeEntry, hc, List.contains_iff_mem, hn, if_true] at h
    split at h <;> cases h

theorem decodeEntry_setting_cls {st : UnitSetting} (h : decodeEntry κ j = .ok (.setting st)) :
    ∃ n, classOf j = some n ∧ n ∈ UnitSetting.classes := by
  cases hc : classOf j with
  | none => simp [decodeEntry, hc] at h
  | some n =>
    refine ⟨n, rfl, ?_⟩
    by_contra hn
    simp only [decodeEntry, hc, List.contains_iff_mem, hn, if_false] at h
    split_ifs at h
    split at h <;> cases h

theorem EntryError.cls?_of_decodeEntry {err : EntryError} (h : decodeEntry κ j = .error err) :
    err.cls? = classOf j := by
  cases hc : classOf j with
  | none =>
    simp only [decodeEntry, hc] at h
    cases h
    rfl
  | some n =>
    -- every refusal past the class check names that class
    simp only [decodeEntry, hc] at h
    split_ifs at h <;> (try split at h) <;> cases h <;> rfl

end Decode

namespace LogEntry

variable (κ : Type) [Logged κ]

def command? (e : LogEntry) : Option κ :=
  match decodeEntry κ e.payload with
  | .ok (.command x) => some x
  | _ => none

def setting? (e : LogEntry) : Option UnitSetting :=
  match decodeEntry κ e.payload with
  | .ok (.setting st) => some st
  | _ => none

def failure? (e : LogEntry) : Option EntryError :=
  match decodeEntry κ e.payload with
  | .error err => some err
  | .ok _ => none

def readFrom (k : Nat) (e : LogEntry) : Bool :=
  decide (k < e.sequenceNr) || UnitSetting.classes.contains e.cls

end LogEntry

def commandsPast (κ : Type) [Logged κ] (k : Nat) (E : List LogEntry) : List κ :=
  (E.filter (k < ·.sequenceNr)).filterMap (LogEntry.command? κ)

def settingsOf (κ : Type) [Logged κ] (E : List LogEntry) : List UnitSetting :=
  E.filterMap (LogEntry.setting? κ)

def failures (κ : Type) [Logged κ] (k : Nat) (E : List LogEntry) : List (LogEntry × EntryError) :=
  (E.filter (LogEntry.readFrom k)).filterMap fun e => (LogEntry.failure? κ e).map (e, ·)

namespace Core

variable {α κ : Type} [Aggregate α κ] [Logged κ]

/-- What the entries `E` leave of a unit that goes through them without stopping: the commands
past its position applied, every setting applied, the position at the largest number, and every
entry it reads and cannot read back set aside. -/
def replayed (c : Core α) (E : List LogEntry) : Core α :=
  { c with
    state := Aggregate.rehydrate c.state (commandsPast κ c.sequenceNr E)
    config := (settingsOf κ E).foldl UnitConfig.apply c.config
    sequenceNr := E.foldl (fun m e => max m e.sequenceNr) c.sequenceNr
    skipped := c.skipped ++ (failures κ c.sequenceNr E).map fun p =>
      ⟨p.1.sequenceNr, p.2.cls?, p.2.message⟩ }

/-- How going through the entries `E` ends: at the first entry read and not read back when the
unit recovers strictly, else with what they leave of it. -/
def replayOutcome (c : Core α) (E : List LogEntry) : Except RecoveryAborted (Core α) :=
  match failures κ c.sequenceNr E with
  | (e, err) :: _ =>
    if c.config.strictRecovery then .error ⟨c.persistenceId, e.sequenceNr, err.message⟩
    else .ok (c.replayed (κ := κ) E)
  | [] => .ok (c.replayed (κ := κ) E)

@[simp] theorem strictRecovery_apply (cfg : UnitConfig) (st : UnitSetting) :
    (cfg.apply st).strictRecovery = cfg.strictRecovery := by
  cases st <;> rfl

theorem strictRecovery_foldl_apply (cfg : UnitConfig) (sts : List UnitSetting) :
    (sts.foldl UnitConfig.apply cfg).strictRecovery = cfg.strictRecovery := by
  induction sts generalizing cfg with
  | nil => rfl
  | cons st sts ih => rw [List.foldl_cons, ih, strictRecovery_apply]

theorem replay_error {c : Core α} {e : LogEntry} {err : EntryError}
    (hread : ¬ (e.sequenceNr ≤ c.sequenceNr ∧ e.cls ∉ UnitSetting.classes))
    (hdec : decodeEntry κ e.payload = .error err) :
    c.replay (κ := κ) e = (c.skip e err).map fun c' =>
      if e.sequenceNr ≤ c.sequenceNr then c' else { c' with sequenceNr := e.sequenceNr } := by
  have hread' : (decide (e.sequenceNr ≤ c.sequenceNr) &&
      !UnitSetting.classes.contains e.cls) = false := by
    simpa [List.contains_iff_mem] using hread
  simp only [replay, hread', hdec, Bool.false_eq_true, if_false, decide_eq_true_eq]

/-- One entry does to a unit what the whole description says of a log of one entry. -/
theorem replay_eq_outcome (c : Core α) {e : LogEntry} (he : e.ClassCopied) :
    c.replay (κ := κ) e = c.replayOutcome (κ := κ) [e] := by
  by_cases hpass : e.sequenceNr ≤ c.sequenceNr ∧ e.cls ∉ UnitSetting.classes
  · -- an entry the snapshot covers: nothing to read, and no setting can hide in it
    obtain ⟨hcov, hcls⟩ := hpass
    have hset : LogEntry.setting? κ e = none := by
      unfold LogEntry.setting?
      split
      · rename_i st hst
        obtain ⟨n, hn, hmem⟩ := decodeEntry_setting_cls hst
        exact absurd (he n hn ▸ hmem) hcls
      · rfl
    rw [replay_covered hcov hcls]
    simp [replayOutcome, replayed, failures, commandsPast, settingsOf, LogEntry.readFrom, hcls,
      Nat.not_lt.mpr hcov, hset, Nat.max_eq_left hcov]
  · have hread : LogEntry.readFrom c.sequenceNr e = true := by
      by_cases hcov : e.sequenceNr ≤ c.sequenceNr <;> simp_all [LogEntry.readFrom]
    cases hd : decodeEntry κ e.payload with
    | ok r =>
      cases r with
      | command x =>
        -- a command is never of a setting class, so it lies past the position
        obtain ⟨n, hn, hmem⟩ := decodeEntry_command_cls hd
        have hnew : c.sequenceNr < e.sequenceNr := by
          by_contra hle
          exact hpass ⟨Nat.not_lt.mp hle, he n hn ▸ hmem⟩
        rw [replay_command hnew hd]
        simp [replayOutcome, replayed, failures, commandsPast, settingsOf, hread, hnew,
          LogEntry.command?, LogEntry.setting?, LogEntry.failure?, hd, Nat.max_eq_right hnew.le,
          Aggregate.rehydrate]
      | setting st =>
        obtain ⟨n, hn, hmem⟩ := decodeEntry_setting_cls hd
        have hpast : commandsPast κ c.sequenceNr [e] = [] := by
          simp [commandsPast, LogEntry.command?, hd]
        rw [replay_setting (he n hn ▸ hmem) hd]
        simp [replayOutcome, replayed, failures, settingsOf, hpast, hread, LogEntry.setting?,
          LogEntry.failure?, hd, max_def']
    | error err =>
      have hpast : commandsPast κ c.sequenceNr [e] = [] := by
        simp [commandsPast, LogEntry.command?, hd]
      have hset : settingsOf κ [e] = [] := by
        simp [settingsOf, LogEntry.setting?, hd]
      have hfail : failures κ c.sequenceNr [e] = [(e, err)] := by
        simp [failures, hread, LogEntry.failure?, hd]
      rw [replay_error hpass hd, replayOutcome, hfail]
      cases hstrict : c.config.strictRecovery
      · -- set aside, and the position moves to it unless it is covered
        simp only [skip, hstrict, Bool.false_eq_true, if_false, Except.map, replayed, hpast, hset,
          hfail]
        split_ifs with hcov <;> simp [max_def', hcov]
      · simp [skip, hstrict, Except.map]

theorem filter_past_max {k : Nat} {e : LogEntry} {E : List LogEntry}
    (hlt : ∀ e' ∈ E, e.sequenceNr < e'.sequenceNr) :
    E.filter (k < ·.sequenceNr) = E.filter (max k e.sequenceNr < ·.sequenceNr) :=
  List.filter_congr fun e' he' => by simp [hlt e' he']

theorem filter_readFrom_max {k : Nat} {e : LogEntry} {E : List LogEntry}
    (hlt : ∀ e' ∈ E, e.sequenceNr < e'.sequenceNr) :
    E.filter (LogEntry.readFrom k) = E.filter (LogEntry.readFrom (max k e.sequenceNr)) :=
  List.filter_congr fun e' he' => by simp [LogEntry.readFrom, hlt e' he']

section Split

variable {k : Nat} {e : LogEntry} {E : List LogEntry}

theorem commandsPast_cons (hlt : ∀ e' ∈ E, e.sequenceNr < e'.sequenceNr) :
    commandsPast κ k (e :: E) =
      commandsPast κ k [e] ++ commandsPast κ (max k e.sequenceNr) E := by
  rw [commandsPast, commandsPast, commandsPast, ← List.singleton_append, List.filter_append,
    List.filterMap_append, filter_past_max hlt]

theorem failures_cons (hlt : ∀ e' ∈ E, e.sequenceNr < e'.sequenceNr) :
    failures κ k (e :: E) = failures κ k [e] ++ failures κ (max k e.sequenceNr) E := by
  rw [failures, failures, failures, ← List.singleton_append, List.filter_append,
    List.filterMap_append, filter_readFrom_max hlt]

theorem settingsOf_cons : settingsOf κ (e :: E) = settingsOf κ [e] ++ settingsOf κ E := by
  rw [settingsOf, settingsOf, settingsOf, ← List.singleton_append, List.filterMap_append]

end Split

theorem replayed_cons (c : Core α) {e : LogEntry} {E : List LogEntry}
    (hlt : ∀ e' ∈ E, e.sequenceNr < e'.sequenceNr) :
    c.replayed (κ := κ) (e :: E) = (c.replayed (κ := κ) [e]).replayed (κ := κ) E := by
  simp only [replayed, List.foldl_cons, List.foldl_nil]
  rw [commandsPast_cons hlt, settingsOf_cons, failures_cons hlt]
  simp only [Aggregate.rehydrate_append, List.foldl_append, List.map_append, List.append_assoc]

@[simp] theorem persistenceId_replayed (c : Core α) (E : List LogEntry) :
    (c.replayed (κ := κ) E).persistenceId = c.persistenceId := rfl

@[simp] theorem strictRecovery_replayed (c : Core α) (E : List LogEntry) :
    (c.replayed (κ := κ) E).config.strictRecovery = c.config.strictRecovery :=
  strictRecovery_foldl_apply _ _

@[simp] theorem sequenceNr_replayed_singleton (c : Core α) (e : LogEntry) :
    (c.replayed (κ := κ) [e]).sequenceNr = max c.sequenceNr e.sequenceNr := rfl

theorem replayOutcome_of_lenient {c : Core α} (h : c.config.strictRecovery = false)
    (E : List LogEntry) : c.replayOutcome (κ := κ) E = .ok (c.replayed (κ := κ) E) := by
  unfold replayOutcome
  split <;> simp [h]

theorem replayOutcome_of_clean {c : Core α} {E : List LogEntry}
    (h : failures κ c.sequenceNr E = []) :
    c.replayOutcome (κ := κ) E = .ok (c.replayed (κ := κ) E) := by
  simp [replayOutcome, h]

theorem replayOutcome_of_failure {c : Core α} {E : List LogEntry} {e : LogEntry}
    {err : EntryError} {rest : List (LogEntry × EntryError)} (hs : c.config.strictRecovery = true)
    (h : failures κ c.sequenceNr E = (e, err) :: rest) :
    c.replayOutcome (κ := κ) E = .error ⟨c.persistenceId, e.sequenceNr, err.message⟩ := by
  simp [replayOutcome, h, hs]

/-- Going through a log whose numbers increase and whose classes are copied from its documents
ends as its description says. -/
theorem foldlM_replay (c : Core α) {E : List LogEntry}
    (hsorted : (E.map (·.sequenceNr)).Pairwise (· < ·)) (hcopied : ∀ e ∈ E, e.ClassCopied) :
    E.foldlM (fun c e => c.replay (κ := κ) e) c = c.replayOutcome (κ := κ) E := by
  induction E generalizing c with
  | nil =>
    simp only [List.foldlM_nil, replayOutcome, replayed, failures, commandsPast, settingsOf,
      List.filter_nil, List.filterMap_nil, List.foldl_nil, List.map_nil, List.append_nil,
      Aggregate.rehydrate_nil]
    rfl
  | cons e E ih =>
    rw [List.map_cons, List.pairwise_cons] at hsorted
    have hlt : ∀ e' ∈ E, e.sequenceNr < e'.sequenceNr :=
      fun e' he' => hsorted.1 _ (List.mem_map_of_mem he')
    have hrest := ih (c.replayed (κ := κ) [e]) hsorted.2
      fun e' he' => hcopied e' (List.mem_cons_of_mem _ he')
    rw [List.foldlM_cons, replay_eq_outcome c (hcopied e List.mem_cons_self)]
    -- the first entry either stops a strict unit or is described by the one-entry log
    cases hs : c.config.strictRecovery with
    | false =>
      rw [replayOutcome_of_lenient hs, replayOutcome_of_lenient hs]
      calc _ = (c.replayed (κ := κ) [e]).replayOutcome (κ := κ) E := hrest
        _ = .ok ((c.replayed (κ := κ) [e]).replayed (κ := κ) E) :=
          replayOutcome_of_lenient (by simp [hs]) E
        _ = .ok (c.replayed (κ := κ) (e :: E)) := by rw [replayed_cons c hlt]
    | true =>
      cases hf : failures κ c.sequenceNr [e] with
      | cons p rest =>
        obtain ⟨e₁, err⟩ := p
        have hall : failures κ c.sequenceNr (e :: E) =
            (e₁, err) :: (rest ++ failures κ (max c.sequenceNr e.sequenceNr) E) := by
          rw [failures_cons hlt, hf, List.cons_append]
        rw [replayOutcome_of_failure hs hf, replayOutcome_of_failure hs hall]
        rfl
      | nil =>
        rw [replayOutcome_of_clean hf]
        calc _ = (c.replayed (κ := κ) [e]).replayOutcome (κ := κ) E := hrest
          _ = c.replayOutcome (κ := κ) (e :: E) := by
            simp only [replayOutcome, failures_cons hlt, hf, List.nil_append,
              sequenceNr_replayed_singleton, strictRecovery_replayed, persistenceId_replayed,
              replayed_cons c hlt]

theorem cls?_of_mem_failures {k : Nat} {E : List LogEntry} {p : LogEntry × EntryError}
    (hp : p ∈ failures κ k E) : p.2.cls? = classOf p.1.payload := by
  obtain ⟨e, -, he⟩ := List.mem_filterMap.mp hp
  unfold LogEntry.failure? at he
  split at he
  · rename_i err hd
    simp only [Option.map_some, Option.some.injEq] at he
    rw [← he]
    exact EntryError.cls?_of_decodeEntry hd
  · cases he

/-- Along increasing numbers, the largest number met is the last one. -/
theorem foldl_max_sequenceNr {E : List LogEntry}
    (hsorted : (E.map (·.sequenceNr)).Pairwise (· < ·)) (k : Nat) :
    E.foldl (fun m e => max m e.sequenceNr) k =
      max k ((E.getLast?.map (·.sequenceNr)).getD 0) := by
  induction E generalizing k with
  | nil => simp
  | cons e E ih =>
    rw [List.map_cons, List.pairwise_cons] at hsorted
    rw [List.foldl_cons, ih hsorted.2]
    cases hl : E.getLast? with
    | none => simp [List.getLast?_eq_none_iff.mp hl]
    | some e' =>
      have hlt : e.sequenceNr < e'.sequenceNr :=
        hsorted.1 _ (List.mem_map_of_mem (List.mem_of_getLast? hl))
      simp only [List.getLast?_cons, hl, Option.getD_some, Option.map_some]
      omega

section Load

variable [Stored α]

/-- Where recovery from a snapshot starts: the snapshot's state and number when it reads back,
else the empty state at zero. -/
def startOf : Option Snapshot → α × Nat
  | some sn =>
    match (Stored.read? sn.state : Option α) with
    | some st => (st, sn.sequenceNr)
    | none => (Aggregate.empty, 0)
  | none => (Aggregate.empty, 0)

/-- What a unit recovered from a log holds: the commands past the snapshot applied to its state,
every setting applied, and every entry it could not read back set aside in log order. -/
structure RecoveredFrom (c : Core α) (cfg : UnitConfig) (l : Log) : Prop where
  phase_eq : c.phase = .commandProcessing
  state_eq : c.state =
    Aggregate.rehydrate (startOf l.snapshot).1
      (commandsPast κ (startOf (α := α) l.snapshot).2 l.entries)
  config_eq : c.config = (settingsOf κ l.entries).foldl UnitConfig.apply cfg
  sequenceNr_eq : c.sequenceNr = max (startOf (α := α) l.snapshot).2 l.lastSequenceNr
  skipped_eq : c.skipped = (failures κ (startOf (α := α) l.snapshot).2 l.entries).map fun p =>
    ⟨p.1.sequenceNr, classOf p.1.payload, p.2.message⟩

omit [Stored α] in
theorem load_of_reads {s : Store} (h : s.faults.reads = false) (c : Core α) :
    c.load s = ((s.journal.log c.persistenceId).snapshot.map .snapshot).toList ++
      ((s.journal.log c.persistenceId).entries.map .entry ++ [.completed]) := by
  simp only [load, Store.readAll, h, Journal.readAll, Bool.false_eq_true, if_false]
  cases (s.journal.log c.persistenceId).snapshot <;> simp

theorem recoverAll_entries (c : Core α) (E : List LogEntry) (rest : List ReplayItem) :
    recoverAll (κ := κ) c (E.map .entry ++ rest) =
      (E.foldlM (fun c e => c.replay (κ := κ) e) c) >>= fun c' => recoverAll (κ := κ) c' rest := by
  induction E generalizing c with
  | nil => rfl
  | cons e E ih =>
    cases hr : c.replay (κ := κ) e with
    | error err => simp [recoverAll, recover, hr, Except.map, List.foldlM_cons]; rfl
    | ok c' =>
      rw [List.map_cons, List.cons_append, recoverAll_entry hr, ih, List.foldlM_cons, hr]
      rfl

/-- A fresh unit goes through the snapshot to the position `startOf` names. -/
theorem recoverAll_start (pid : String) (cfg : UnitConfig) (sn : Option Snapshot)
    (rest : List ReplayItem) :
    recoverAll (κ := κ) (new pid cfg : Core α) ((sn.map .snapshot).toList ++ rest) =
      recoverAll (κ := κ) { (new pid cfg : Core α) with
        state := (startOf sn).1, sequenceNr := (startOf (α := α) sn).2,
        snapshotNr := (startOf (α := α) sn).2 } rest := by
  cases sn with
  | none => rfl
  | some sn =>
    rw [Option.map_some, Option.toList_some, List.singleton_append, recoverAll_snapshot]
    cases hread : (Stored.read? sn.state : Option α) with
    | none =>
      simp only [installSnapshot, startOf, hread]
      rfl
    | some st => simp only [installSnapshot, startOf, hread]

/-- Recovery over any log the journal keeps completes as `RecoveredFrom` describes, unless it
is strict and reads an entry it cannot read back, which it then refuses to start at. -/
theorem recovery_over_any_log (pid : String) (cfg : UnitConfig) {s : Store}
    (hreads : s.faults.reads = false) (hkept : s.journal.Kept) :
    (cfg.strictRecovery = false ∨
        failures κ (startOf (α := α) (s.journal.log pid).snapshot).2
          (s.journal.log pid).entries = [] →
      ∃ c, recoverAll (κ := κ) (new pid cfg : Core α) ((new pid cfg : Core α).load s) = .ok c ∧
        c.RecoveredFrom cfg (s.journal.log pid)) ∧
    (∀ e err rest, cfg.strictRecovery = true →
      failures κ (startOf (α := α) (s.journal.log pid).snapshot).2 (s.journal.log pid).entries =
        (e, err) :: rest →
      recoverAll (κ := κ) (new pid cfg : Core α) ((new pid cfg : Core α).load s) =
        .error ⟨pid, e.sequenceNr, err.message⟩) := by
  set l := s.journal.log pid
  set c₀ : Core α := { (new pid cfg : Core α) with
    state := (startOf l.snapshot).1, sequenceNr := (startOf (α := α) l.snapshot).2,
    snapshotNr := (startOf (α := α) l.snapshot).2 }
  -- recovery is the fold of the entries from the snapshot's position, then the end
  have hrun : recoverAll (κ := κ) (new pid cfg : Core α) ((new pid cfg : Core α).load s) =
      c₀.replayOutcome (κ := κ) l.entries >>= fun c =>
        .ok { c with phase := .commandProcessing } := by
    rw [load_of_reads hreads, show (new pid cfg : Core α).persistenceId = pid from rfl,
      recoverAll_start, recoverAll_entries,
      foldlM_replay _ (hkept pid).sorted (hkept pid).copied]
    rfl
  have hdone : ({ c₀.replayed (κ := κ) l.entries with phase := .commandProcessing } : Core α)
      |>.RecoveredFrom cfg l := by
    refine ⟨rfl, rfl, rfl, ?_, ?_⟩
    · show l.entries.foldl _ _ = _
      rw [foldl_max_sequenceNr (hkept pid).sorted]
      unfold Log.lastSequenceNr
      cases l.entries.getLast? <;> rfl
    · show [] ++ _ = _
      rw [List.nil_append]
      exact List.map_congr_left fun p hp => by rw [cls?_of_mem_failures hp]
  refine ⟨fun h => ⟨_, ?_, hdone⟩, fun e err rest hs hf => ?_⟩
  -- a lenient unit, or one that meets no failure, goes through every entry
  · rw [hrun]
    rcases h with h | h
    · rw [replayOutcome_of_lenient h]
      rfl
    · rw [replayOutcome_of_clean h]
      rfl
  · rw [hrun, replayOutcome_of_failure hs hf]
    rfl

def strangerStore : Store :=
  { journal := (({} : Journal).append "listing" .any
      (Json.mkObj [("CommandClass", .str "Stranger")])).2 }

theorem recovery_over_stranger_entry :
    ∃ c, recoverAll (κ := ListCommand) (new "listing" {} : Core Listing)
        ((new "listing" {} : Core Listing).load strangerStore) = .ok c ∧
      c.RecoveredFrom {} (strangerStore.journal.log "listing") :=
  (recovery_over_any_log "listing" {} rfl (Journal.kept_empty.append "listing" .any _)).1
    (Or.inl rfl)

end Load

end Core

end Chronicle
