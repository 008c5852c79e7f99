import Mathlib
import Chronicle.Proofs.Journal.Log
import Chronicle.Proofs.Unit.Kinds

/-! Recovery reproduces a live unit that is the only writer of its log. -/
namespace Chronicle

/-- What happens to a persistent unit and its store. -/
inductive LifeStep (κ : Type) where
  | persist (k : κ)
  | setting (st : UnitSetting)
  | snapshot
  | faults (appends snapshots : Bool)
  | restart

def LifeStep.Fits {κ : Type} (fits : κ → Prop) : LifeStep κ → Prop
  | .persist k => fits k
  | .setting st => st.Fits
  | .snapshot | .faults .. | .restart => True

def Store.withoutSnapshot (s : Store) (pid : String) : Store :=
  { s with journal := s.journal.setLog pid { s.journal.log pid with snapshot := none } }

namespace Core

variable {α κ : Type} [Aggregate α κ] [Logged κ] [Stored α]

/-- One step of a unit's life; every incarnation starts from the configuration `cfg`. -/
def lifeStep (cfg : UnitConfig) (c : Core α) (s : Store) :
    LifeStep κ → Except RecoveryAborted (Core α × Store)
  | .persist k => .ok (c.persist s k).2
  | .setting st => .ok (c.persistSetting s st).2
  | .snapshot => .ok (c.saveSnapshot s)
  | .faults a sn => .ok (c, { s with faults := { s.faults with appends := a, snapshots := sn } })
  | .restart =>
    (recoverAll (new c.persistenceId cfg) ((new c.persistenceId cfg : Core α).load s)).map (·, s)

def live (cfg : UnitConfig) : Core α × Store → List (LifeStep κ) →
    Except RecoveryAborted (Core α × Store)
  | cs, [] => .ok cs
  | (c, s), st :: rest => do live cfg (← c.lifeStep cfg s st) rest

end Core

def Store.Reproduces {α κ : Type} [Aggregate α κ] [Logged κ] [Stored α] (s : Store)
    (pid : String) (cfg : UnitConfig) (c : Core α) : Prop :=
  ∃ c', Core.recoverAll (Core.new pid cfg) ((Core.new pid cfg : Core α).load s) = .ok c' ∧
    c'.RecoveredAt c.state c.sequenceNr c.config

namespace Durable

variable {α κ : Type} [Aggregate α κ] [Logged κ] [Stored α] (D : Durable α κ)
variable {s : Store} {pid : String} {items : List (Replayed κ)}

theorem Keeps.empty (hlog : s.journal.log pid = {}) (hreads : s.faults.reads = false) :
    D.Keeps s pid [] :=
  ⟨hreads, by rw [hlog]; rfl, fun sn hsn => (by rw [hlog] at hsn; cases hsn),
    fun _ hit => (by cases hit)⟩

variable {D}

/-- Appending the entry of an item that fits keeps the items with it. -/
theorem Keeps.append (h : D.Keeps s pid items) {it : Replayed κ} (hit : D.ItemFits it) {n : Nat}
    (hn : n = items.length) :
    D.Keeps { s with journal := s.journal.setLog pid { s.journal.log pid with
      entries := (s.journal.log pid).entries ++ [⟨n + 1, it.cls, it.payload⟩] } } pid
      (items ++ [it]) := by
  subst hn
  refine ⟨h.reads_eq, ?_, ?_, ?_⟩
  · rw [Journal.log_setLog_self, h.entries_eq, Replayed.entries_concat, Nat.zero_add]
  · intro sn hsn
    rw [Journal.log_setLog_self] at hsn
    obtain ⟨hle, hstate⟩ := h.snapshot_eq sn hsn
    refine ⟨by simp only [List.length_append, List.length_singleton]; omega, ?_⟩
    rw [List.take_append_of_le_length hle]
    exact hstate
  · intro x hx
    rcases List.mem_append.mp hx with hx | hx
    · exact h.fits x hx
    · rw [List.mem_singleton.mp hx]
      exact hit

/-- Storing a log with the same entries and the same snapshot, or one of the state after the
first `n` items, keeps the items. -/
theorem Keeps.setLog (h : D.Keeps s pid items) {l : Log} {n : Nat} (hn : n ≤ items.length)
    (hentries : l.entries = (s.journal.log pid).entries)
    (hsnap : l.snapshot = (s.journal.log pid).snapshot ∨
      l.snapshot = some ⟨n, Stored.toJson
        (Replayed.stateAfter (Aggregate.empty : α) (items.take n))⟩) :
    D.Keeps { s with journal := s.journal.setLog pid l } pid items := by
  refine ⟨h.reads_eq, ?_, ?_, h.fits⟩
  · rw [Journal.log_setLog_self, hentries, h.entries_eq]
  · intro sn hsn
    rw [Journal.log_setLog_self] at hsn
    rcases hsnap with hsame | hnew
    · rw [hsame] at hsn
      exact h.snapshot_eq sn hsn
    · rw [hnew, Option.some.injEq] at hsn
      subst hsn
      exact ⟨hn, rfl⟩

theorem Keeps.withoutSnapshot (h : D.Keeps s pid items) :
    D.Keeps (s.withoutSnapshot pid) pid items :=
  ⟨h.reads_eq, by rw [Store.withoutSnapshot, Journal.log_setLog_self]; exact h.entries_eq,
    fun sn hsn => (by rw [Store.withoutSnapshot, Journal.log_setLog_self] at hsn; cases hsn),
    h.fits⟩

end Durable

namespace Core

section Follow

variable {α κ : Type} [Aggregate α κ]

/-- A live unit of the log `pid` at the state, the position and the configuration that items
lead to, from the configuration `cfg`. -/
structure Follows (c : Core α) (pid : String) (cfg : UnitConfig) (items : List (Replayed κ)) :
    Prop where
  persistenceId_eq : c.persistenceId = pid
  state_eq : c.state = Replayed.stateAfter Aggregate.empty items
  sequenceNr_eq : c.sequenceNr = items.length
  config_eq : c.config = Replayed.configAfter cfg items

variable {c : Core α} {pid : String} {cfg : UnitConfig} {items : List (Replayed κ)}

theorem Follows.snoc (hc : c.Follows pid cfg items) {c' : Core α} (it : Replayed κ)
    (hpid : c'.persistenceId = c.persistenceId)
    (hstate : c'.state = Replayed.stateAfter c.state [it])
    (hseq : c'.sequenceNr = c.sequenceNr + 1)
    (hconfig : c'.config = Replayed.configAfter c.config [it]) :
    c'.Follows pid cfg (items ++ [it]) := by
  refine ⟨hpid.trans hc.persistenceId_eq, ?_, ?_, ?_⟩
  · rw [Replayed.stateAfter_append, ← hc.state_eq, hstate]
  · rw [List.length_append, List.length_singleton, hseq, hc.sequenceNr_eq]
  · rw [Replayed.configAfter_append, ← hc.config_eq, hconfig]

theorem Follows.command (hc : c.Follows pid cfg items) (k : κ) (n : Nat) :
    ({ c with
        sequenceNr := c.sequenceNr + 1
        state := Aggregate.apply c.state k
        activity := n } : Core α).Follows pid cfg (items ++ [.command k]) :=
  hc.snoc (.command k) rfl rfl rfl rfl

theorem Follows.setting (hc : c.Follows pid cfg items) (st : UnitSetting) :
    ({ c with sequenceNr := c.sequenceNr + 1, config := c.config.apply st } : Core α).Follows
      pid cfg (items ++ [.setting st]) :=
  hc.snoc (.setting st) rfl rfl rfl rfl

end Follow

end Core

def Durable.Mirrors {α κ : Type} [Aggregate α κ] [Logged κ] [Stored α] (D : Durable α κ)
    (pid : String) (cfg : UnitConfig) (c : Core α) (s : Store) : Prop :=
  ∃ items, D.Keeps s pid items ∧ c.Follows pid cfg items

namespace Core

variable {α κ : Type} [Aggregate α κ] [Logged κ] [Stored α]
variable {c : Core α} {pid : String} {cfg : UnitConfig} {items : List (Replayed κ)}

variable {D : Durable α κ} {s : Store}

theorem lastSequenceNr_eq (hs : D.Keeps s pid items) (hc : c.Follows pid cfg items) :
    (s.journal.log c.persistenceId).lastSequenceNr = c.sequenceNr := by
  rw [hc.persistenceId_eq, Replayed.lastSequenceNr_eq hs.entries_eq, hc.sequenceNr_eq]

/-- A snapshot, saved or refused, keeps the store and a unit that follows the first `n` of its
items in step. -/
theorem saveSnapshot_keeps {n : Nat} (hs : D.Keeps s pid items)
    (hc : c.Follows pid cfg (items.take n)) (hn : n ≤ items.length) :
    D.Keeps (c.saveSnapshot s).2 pid items ∧
      (c.saveSnapshot s).1.Follows pid cfg (items.take n) := by
  have hseq : c.sequenceNr = n := by rw [hc.sequenceNr_eq, List.length_take]; omega
  unfold saveSnapshot
  split_ifs with hzero
  · exact ⟨hs, hc⟩
  · cases hf : s.faults.snapshots with
    | true => simp only [Store.saveSnapshot, hf, if_true]; exact ⟨hs, hc⟩
    | false =>
      -- the log reaches the unit's position, so the journal takes the snapshot
      have hreach : c.sequenceNr ≤ (s.journal.log c.persistenceId).lastSequenceNr := by
        rw [hc.persistenceId_eq, Replayed.lastSequenceNr_eq hs.entries_eq, hseq]
        exact hn
      obtain ⟨l, hsave, hentries, hsnap⟩ :=
        Journal.saveSnapshot_of_le (Stored.toJson c.state) hreach
      simp only [Store.saveSnapshot, hf, Bool.false_eq_true, if_false, hsave]
      refine ⟨?_, hc.persistenceId_eq, hc.state_eq, hc.sequenceNr_eq, hc.config_eq⟩
      rw [hc.persistenceId_eq] at hentries hsnap ⊢
      rw [hseq, hc.state_eq] at hsnap
      exact hs.setLog hn hentries hsnap

theorem saveSnapshot_mirrors (hs : D.Keeps s pid items) (hc : c.Follows pid cfg items) :
    D.Keeps (c.saveSnapshot s).2 pid items ∧ (c.saveSnapshot s).1.Follows pid cfg items := by
  have h := saveSnapshot_keeps hs (n := items.length) (by rwa [List.take_length]) (Nat.le_refl _)
  rwa [List.take_length] at h

/-- Logging a command that fits, accepted or refused, keeps the store and the unit in step,
over the same items or over them and the command. -/
theorem persist_keeps (hs : D.Keeps s pid items) (hc : c.Follows pid cfg items) {k : κ}
    (hk : D.entryFits k) :
    ∃ items', (items' = items ∨ items' = items ++ [.command k]) ∧
      D.Keeps (c.persist s k).2.2 pid items' ∧ (c.persist s k).2.1.Follows pid cfg items' := by
  have hv := lastSequenceNr_eq hs hc
  have hpid := hc.persistenceId_eq
  subst hpid
  cases hf : s.faults.appends with
  | true =>
    -- a failing append touches nothing
    simp only [persist, Store.append, hf, if_true]
    exact ⟨items, .inl rfl, hs, hc⟩
  | false =>
    -- an accepted append adds the command, and any snapshot that follows keeps the new items
    have hs1 := hs.append (show D.ItemFits (.command k) from hk) hc.sequenceNr_eq
    have hc1 := hc.command k (c.activity + 1)
    simp only [persist, Store.append, hf, Bool.false_eq_true, if_false,
      Journal.append_exact hv (D.classOf_toJson k)]
    split
    · exact ⟨_, .inr rfl, saveSnapshot_mirrors hs1 hc1⟩
    · exact ⟨_, .inr rfl, hs1, hc1⟩

theorem persist_mirrors (hs : D.Keeps s pid items) (hc : c.Follows pid cfg items) {k : κ}
    (hk : D.entryFits k) : D.Mirrors pid cfg (c.persist s k).2.1 (c.persist s k).2.2 := by
  obtain ⟨items', -, hs', hc'⟩ := persist_keeps hs hc hk
  exact ⟨items', hs', hc'⟩

/-- Logging a setting that fits, accepted or refused, keeps the store and the unit in step,
over the same items or over them and the setting. -/
theorem persistSetting_keeps (hs : D.Keeps s pid items) (hc : c.Follows pid cfg items)
    {st : UnitSetting} (hst : st.Fits) :
    ∃ items', (items' = items ∨ items' = items ++ [.setting st]) ∧
      D.Keeps (c.persistSetting s st).2.2 pid items' ∧
      (c.persistSetting s st).2.1.Follows pid cfg items' := by
  have hv := lastSequenceNr_eq hs hc
  have hpid := hc.persistenceId_eq
  subst hpid
  cases hf : s.faults.appends with
  | true =>
    simp only [persistSetting, Store.append, hf, if_true]
    exact ⟨items, .inl rfl, hs, hc⟩
  | false =>
    simp only [persistSetting, Store.append, hf, Bool.false_eq_true, if_false,
      Journal.append_exact hv (UnitSetting.classOf_toJson st)]
    exact ⟨_, .inr rfl, hs.append (show D.ItemFits (.setting st) from hst) hc.sequenceNr_eq,
      hc.setting st⟩

theorem persistSetting_mirrors (hs : D.Keeps s pid items) (hc : c.Follows pid cfg items)
    {st : UnitSetting} (hst : st.Fits) :
    D.Mirrors pid cfg (c.persistSetting s st).2.1 (c.persistSetting s st).2.2 := by
  obtain ⟨items', -, hs', hc'⟩ := persistSetting_keeps hs hc hst
  exact ⟨items', hs', hc'⟩

theorem recoverAll_follows (cfg : UnitConfig) (hs : D.Keeps s pid items) :
    ∃ c', recoverAll (new pid cfg : Core α) ((new pid cfg : Core α).load s) = .ok c' ∧
      c'.Follows pid cfg items := by
  obtain ⟨c', hrun, hat⟩ := recoverAll_load D cfg hs
  exact ⟨c', hrun, recoverAll_persistenceId hrun, hat.state_eq, hat.sequenceNr_eq,
    hat.config_eq⟩

theorem mirrors_new (D : Durable α κ) (hlog : s.journal.log pid = {})
    (hreads : s.faults.reads = false) : D.Mirrors pid cfg (new pid cfg) s :=
  ⟨[], Durable.Keeps.empty D hlog hreads, rfl, rfl, rfl, rfl⟩

theorem reproduces_of_keeps (hs : D.Keeps s pid items) (hc : c.Follows pid cfg items) :
    s.Reproduces pid cfg c := by
  obtain ⟨c', hrun, hat⟩ := recoverAll_load D cfg hs
  refine ⟨c', hrun, ?_⟩
  rw [hc.state_eq, hc.sequenceNr_eq, hc.config_eq]
  exact hat

/-- Every step that logs only what documents carry keeps the store and the unit in step, and
no incarnation aborts its recovery. -/
theorem lifeStep_mirrors (h : D.Mirrors pid cfg c s) {st : LifeStep κ}
    (hst : st.Fits D.entryFits) :
    ∃ c' s', c.lifeStep cfg s st = .ok (c', s') ∧ D.Mirrors pid cfg c' s' := by
  obtain ⟨items, hs, hc⟩ := h
  cases st with
  | persist k => exact ⟨_, _, rfl, persist_mirrors hs hc hst⟩
  | setting st => exact ⟨_, _, rfl, persistSetting_mirrors hs hc hst⟩
  | snapshot => exact ⟨_, _, rfl, items, saveSnapshot_mirrors hs hc⟩
  | faults a sn =>
    exact ⟨_, _, rfl, items, ⟨hs.reads_eq, hs.entries_eq, hs.snapshot_eq, hs.fits⟩, hc⟩
  | restart =>
    obtain ⟨c', hrun, hc'⟩ := recoverAll_follows cfg hs
    refine ⟨c', s, ?_, items, hs, hc'⟩
    rw [lifeStep, hc.persistenceId_eq, hrun]
    rfl

theorem live_mirrors {steps : List (LifeStep κ)} (hfits : ∀ st ∈ steps, st.Fits D.entryFits) :
    ∀ c s, D.Mirrors pid cfg c s →
      ∃ c' s', live cfg (c, s) steps = .ok (c', s') ∧ D.Mirrors pid cfg c' s' := by
  induction steps with
  | nil => intro c s h; exact ⟨c, s, rfl, h⟩
  | cons st rest ih =>
    intro c s h
    obtain ⟨c1, s1, hstep, h1⟩ := lifeStep_mirrors h (hfits st List.mem_cons_self)
    obtain ⟨c2, s2, hrun, h2⟩ :=
      ih (fun st' hst' => hfits st' (List.mem_cons_of_mem _ hst')) c1 s1 h1
    refine ⟨c2, s2, ?_, h2⟩
    simp only [live, hstep, bind, Except.bind]
    exact hrun

theorem live_recovers (D : Durable α κ) (hlog : s.journal.log pid = {})
    (hreads : s.faults.reads = false) {steps : List (LifeStep κ)}
    (hfits : ∀ st ∈ steps, st.Fits D.entryFits) :
    ∃ c s', live cfg ((new pid cfg : Core α), s) steps = .ok (c, s') ∧
      s'.Reproduces pid cfg c ∧ (s'.withoutSnapshot pid).Reproduces pid cfg c := by
  obtain ⟨c, s', hrun, items, hs, hc⟩ := live_mirrors hfits _ _ (mirrors_new D hlog hreads)
  exact ⟨c, s', hrun, reproduces_of_keeps hs hc, reproduces_of_keeps hs.withoutSnapshot hc⟩

end Core

/-- Recovery reproduces live processing: after any life from an empty log, a fresh unit
recovering from the store, with the snapshot or without it, ends where the live unit is. -/
theorem recovery_reproduces_live_unit :
    (∀ (pid : String) (cfg : UnitConfig) (s : Store)
        (steps : List (LifeStep (Command ClientState))),
      s.journal.log pid = {} → s.faults.reads = false →
      (∀ st ∈ steps, st.Fits (Command.Fits ClientState.Fits)) →
      ∃ c s', Core.live cfg ((Core.new pid cfg : Core ClientState), s) steps = .ok (c, s') ∧
        s'.Reproduces pid cfg c ∧ (s'.withoutSnapshot pid).Reproduces pid cfg c) ∧
    (∀ (pid : String) (cfg : UnitConfig) (s : Store)
        (steps : List (LifeStep (Command UserState))),
      s.journal.log pid = {} → s.faults.reads = false →
      (∀ st ∈ steps, st.Fits (Command.Fits UserState.Fits)) →
      ∃ c s', Core.live cfg ((Core.new pid cfg : Core UserState), s) steps = .ok (c, s') ∧
        s'.Reproduces pid cfg c ∧ (s'.withoutSnapshot pid).Reproduces pid cfg c) ∧
    (∀ (pid : String) (cfg : UnitConfig) (s : Store) (steps : List (LifeStep ListCommand)),
      s.journal.log pid = {} → s.faults.reads = false →
      (∀ st ∈ steps, st.Fits (fun _ => True)) →
      ∃ c s', Core.live cfg ((Core.new pid cfg : Core Listing), s) steps = .ok (c, s') ∧
        s'.Reproduces pid cfg c ∧ (s'.withoutSnapshot pid).Reproduces pid cfg c) :=
  ⟨fun _ _ _ _ hlog hreads hfits => Core.live_recovers ClientState.durable hlog hreads hfits,
    fun _ _ _ _ hlog hreads hfits => Core.live_recovers UserState.durable hlog hreads hfits,
    fun _ _ _ _ hlog hreads hfits => Core.live_recovers Listing.durable hlog hreads hfits⟩

end Chronicle
