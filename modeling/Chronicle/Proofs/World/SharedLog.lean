import Chronicle.Proofs.World.Pipeline
import Chronicle.Proofs.Unit.Foreign

/-! One insert per log, however many units share it. -/
namespace Chronicle

def EntityType.durable : (k : EntityType) → Durable k.Rec (Command k.Rec)
  | .client => ClientState.durable
  | .user => UserState.durable

def Replayed.command? {κ : Type} : Replayed κ → Option κ
  | .command k => some k
  | .setting _ => none

namespace Durable

variable {α κ : Type} [Aggregate α κ] [Logged κ] [Stored α] {D : Durable α κ}
  {s : Store} {pid : String} {items : List (Replayed κ)}

theorem filterMap_command?_entries (D : Durable α κ) (n : Nat) {xs : List (Replayed κ)}
    (h : ∀ it ∈ xs, D.ItemFits it) :
    (Replayed.entries n xs).filterMap (LogEntry.command? κ) = xs.filterMap Replayed.command? := by
  induction xs generalizing n with
  | nil => rfl
  | cons it xs ih =>
    have hit : LogEntry.command? κ ⟨n + 1, it.cls, it.payload⟩ = it.command? := by
      simp only [LogEntry.command?, D.decodeEntry_payload (h it List.mem_cons_self)]
      cases it <;> rfl
    rw [Replayed.entries, List.filterMap_cons, List.filterMap_cons, hit,
      ih (n + 1) fun it' hit' => h it' (List.mem_cons_of_mem _ hit')]

theorem Keeps.commands_eq (h : D.Keeps s pid items) :
    (s.journal.log pid).entries.filterMap (LogEntry.command? κ) =
      items.filterMap Replayed.command? := by
  rw [h.entries_eq]
  exact filterMap_command?_entries D 0 h.fits

theorem Keeps.of_log_eq (h : D.Keeps s pid items) {s' : Store}
    (hreads : s'.faults.reads = s.faults.reads) (hlog : s'.journal.log pid = s.journal.log pid) :
    D.Keeps s' pid items where
  reads_eq := hreads.trans h.reads_eq
  entries_eq := by rw [hlog]; exact h.entries_eq
  snapshot_eq := by rw [hlog]; exact h.snapshot_eq
  fits := h.fits

end Durable

namespace Record

variable {σ : Type} [Record σ]

def Decisions (items : List (Replayed (Command σ))) : Prop :=
  ∃ cmds : List (Command σ), Takes Record.empty cmds (Replayed.stateAfter Record.empty items) ∧
    cmds.map (·.commandType) = (items.filterMap Replayed.command?).map (·.commandType)

theorem decisions_nil : Decisions ([] : List (Replayed (Command σ))) := ⟨[], .nil _, rfl⟩

variable {items : List (Replayed (Command σ))}

theorem Decisions.setting (h : Decisions items) (st : UnitSetting) :
    Decisions (items ++ [.setting st]) := by
  obtain ⟨cmds, htakes, htypes⟩ := h
  refine ⟨cmds, ?_, ?_⟩
  · rw [Replayed.stateAfter_append]
    exact htakes
  · simp only [List.filterMap_append, List.filterMap_cons, Replayed.command?, List.filterMap_nil,
      List.append_nil]
    exact htypes

theorem Decisions.decided (h : Decisions items) {now : Instant} {cmd e : Command σ}
    (hd : decide now (Replayed.stateAfter Record.empty items) cmd = .ok e) :
    Decisions (items ++ [.command e]) := by
  obtain ⟨cmds, htakes, htypes⟩ := h
  refine ⟨cmds ++ [cmd], ?_, ?_⟩
  · rw [Replayed.stateAfter_append]
    exact htakes.snoc ⟨now, e, hd, rfl⟩
  · simp [List.filterMap_append, Replayed.command?, htypes, commandType_of_decide hd]

theorem Decisions.grown {items' : List (Replayed (Command σ))} {x : Replayed (Command σ)}
    (hd : Decisions items) (hx : Decisions (items ++ [x]))
    (h : items' = items ∨ items' = items ++ [x]) : items <+: items' ∧ Decisions items' := by
  rcases h with rfl | rfl
  · exact ⟨List.prefix_refl _, hd⟩
  · exact ⟨List.prefix_append _ _, hx⟩

theorem Decisions.inserts_le_one [Lawful σ] (h : Decisions items) :
    ((items.filterMap Replayed.command?).filter (·.commandType = .insert)).length ≤ 1 := by
  obtain ⟨cmds, htakes, htypes⟩ := h
  -- both lists are counted through their kinds, which agree
  have hcount : ∀ l : List (Command σ), (l.filter (·.commandType = .insert)).length =
      (l.map (·.commandType)).countP (· = .insert) := by
    intro l
    rw [List.countP_map, List.countP_eq_length_filter]
    rfl
  rw [hcount, ← htypes, ← hcount]
  exact htakes.inserts_le_one

end Record

def LifeStep.Decided {σ : Type} [Record σ] (r : σ) : LifeStep (Command σ) → Prop
  | .persist e => ∃ now cmd, Record.decide now r cmd = .ok e
  | _ => True

namespace Core

section Behind

variable {α κ : Type} [Aggregate α κ] [Logged κ] [Stored α] {D : Durable α κ} {c : Core α}
  {s : Store} {pid : String} {cfg : UnitConfig} {items : List (Replayed κ)} {n : Nat}

omit [Logged κ] [Stored α] in
theorem Follows.take_prefix {items' : List (Replayed κ)} (hpre : items <+: items')
    (hn : n ≤ items.length) (hc : c.Follows pid cfg (items.take n)) :
    c.Follows pid cfg (items'.take n) := by
  obtain ⟨t, rfl⟩ := hpre
  rwa [List.take_append_of_le_length hn]

omit [Logged κ] [Stored α] in
theorem Follows.whole (hc : c.Follows pid cfg items) :
    ∃ n ≤ items.length, c.Follows pid cfg (items.take n) :=
  ⟨items.length, Nat.le_refl _, by rwa [List.take_length]⟩

theorem behind_end (hs : D.Keeps s pid items) (hc : c.Follows pid cfg (items.take n))
    (hn : n < items.length) : (s.journal.log c.persistenceId).lastSequenceNr ≠ c.sequenceNr := by
  rw [hc.persistenceId_eq, Replayed.lastSequenceNr_eq hs.entries_eq, hc.sequenceNr_eq,
    List.length_take]
  omega

theorem persist_behind (hs : D.Keeps s pid items) (hc : c.Follows pid cfg (items.take n))
    (hn : n < items.length) (k : κ) :
    (c.persist s k).2.1 = c ∧ D.Keeps (c.persist s k).2.2 pid items := by
  obtain ⟨e, he⟩ := persist_refused (D.classOf_toJson k) (.inr (behind_end hs hc hn))
  obtain ⟨hcore, hf, hlogs⟩ := persist_error he
  exact ⟨hcore, hs.of_log_eq (by rw [hf]) (hlogs pid)⟩

theorem persistSetting_behind (hs : D.Keeps s pid items) (hc : c.Follows pid cfg (items.take n))
    (hn : n < items.length) (st : UnitSetting) :
    (c.persistSetting s st).2.1 = c ∧ D.Keeps (c.persistSetting s st).2.2 pid items := by
  obtain ⟨e, he⟩ :=
    Store.append_refused (UnitSetting.classOf_toJson st) (.inr (behind_end hs hc hn))
  obtain ⟨hf, hlogs⟩ := Store.append_error_frame he
  unfold persistSetting
  rcases happ : s.append c.persistenceId (.exact c.sequenceNr) st.toJson with ⟨_ | m, s'⟩
  · rw [happ] at hf hlogs
    exact ⟨rfl, hs.of_log_eq (by rw [hf]) (hlogs pid)⟩
  · rw [happ] at he
    cases he

end Behind

variable {α κ : Type} [Aggregate α κ] [Logged κ] [Stored α]

/-- The lives of several units of one log over one store, one step of one unit at a time; a
step of a unit that is not there does nothing. They end early where an incarnation aborts its
recovery. -/
def liveAll (cfg : UnitConfig) : List (Core α) × Store → List (Nat × LifeStep κ) →
    Except RecoveryAborted (List (Core α) × Store)
  | us, [] => .ok us
  | (us, s), (i, st) :: rest =>
    match us[i]? with
    | none => liveAll cfg (us, s) rest
    | some c => do
      let cs ← c.lifeStep cfg s st
      liveAll cfg (us.set i cs.1, cs.2) rest

section Shared

variable {σ : Type} [Record σ] {D : Durable σ (Command σ)} {pid : String} {cfg : UnitConfig}

/-- Lives in which every entry a unit logs is a decision of the record that unit has then. -/
def Decides (cfg : UnitConfig) :
    List (Core σ) × Store → List (Nat × LifeStep (Command σ)) → Prop
  | _, [] => True
  | (us, s), (i, st) :: rest =>
    match us[i]? with
    | none => Decides cfg (us, s) rest
    | some c => st.Decided c.state ∧
      ∀ c' s', c.lifeStep cfg s st = .ok (c', s') → Decides cfg (us.set i c', s') rest

def Shares (D : Durable σ (Command σ)) (pid : String) (cfg : UnitConfig) (us : List (Core σ))
    (s : Store) : Prop :=
  ∃ items, Record.Decisions items ∧ D.Keeps s pid items ∧
    ∀ c ∈ us, ∃ n ≤ items.length, c.Follows pid cfg (items.take n)

/-- One step of one unit of a shared log: the store keeps longer items that the record still
took, and the unit follows a prefix of them. -/
theorem lifeStep_shares {c : Core σ} {s : Store} {items : List (Replayed (Command σ))} {n : Nat}
    (hd : Record.Decisions items) (hs : D.Keeps s pid items)
    (hc : c.Follows pid cfg (items.take n)) (hn : n ≤ items.length)
    {st : LifeStep (Command σ)} (hfit : st.Fits D.entryFits) (hdec : st.Decided c.state) :
    ∃ c' s' items', c.lifeStep cfg s st = .ok (c', s') ∧ items <+: items' ∧
      Record.Decisions items' ∧ D.Keeps s' pid items' ∧
      ∃ n' ≤ items'.length, c'.Follows pid cfg (items'.take n') := by
  cases st with
  | persist e =>
    rcases Nat.lt_or_ge n items.length with hlt | hge
    · -- behind the end of the log: the entry is refused
      obtain ⟨hcore, hs'⟩ := persist_behind hs hc hlt e
      exact ⟨_, _, items, rfl, List.prefix_refl _, hd, hs', n, hn, by rw [hcore]; exact hc⟩
    · -- at the end: the unit decided on the record the whole log leads to
      rw [List.take_of_length_le hge] at hc
      obtain ⟨now, cmd, hdc⟩ := hdec
      rw [hc.state_eq] at hdc
      obtain ⟨items', hitems', hs', hc'⟩ := persist_keeps hs hc hfit
      obtain ⟨hpre, hd'⟩ := hd.grown (hd.decided hdc) hitems'
      exact ⟨_, _, items', rfl, hpre, hd', hs', hc'.whole⟩
  | setting st =>
    rcases Nat.lt_or_ge n items.length with hlt | hge
    · obtain ⟨hcore, hs'⟩ := persistSetting_behind hs hc hlt st
      exact ⟨_, _, items, rfl, List.prefix_refl _, hd, hs', n, hn, by rw [hcore]; exact hc⟩
    · rw [List.take_of_length_le hge] at hc
      obtain ⟨items', hitems', hs', hc'⟩ := persistSetting_keeps hs hc hfit
      obtain ⟨hpre, hd'⟩ := hd.grown (hd.setting st) hitems'
      exact ⟨_, _, items', rfl, hpre, hd', hs', hc'.whole⟩
  | snapshot =>
    obtain ⟨hs', hc'⟩ := saveSnapshot_keeps hs hc hn
    exact ⟨_, _, items, rfl, List.prefix_refl _, hd, hs', n, hn, hc'⟩
  | faults a sn =>
    exact ⟨_, _, items, rfl, List.prefix_refl _, hd, hs.of_log_eq rfl rfl, n, hn, hc⟩
  | restart =>
    -- a new incarnation recovers the whole log
    obtain ⟨c', hrun, hc'⟩ := recoverAll_follows cfg hs
    refine ⟨c', s, items, ?_, List.prefix_refl _, hd, hs, hc'.whole⟩
    rw [lifeStep, hc.persistenceId_eq, hrun]
    rfl

/-- Lives of the units of a shared log that log only decisions run to their end, and the store
and the units stay shared. -/
theorem liveAll_shares {steps : List (Nat × LifeStep (Command σ))}
    (hfits : ∀ p ∈ steps, p.2.Fits D.entryFits) :
    ∀ us s, Shares D pid cfg us s → Decides cfg (us, s) steps →
      ∃ us' s', liveAll cfg (us, s) steps = .ok (us', s') ∧ Shares D pid cfg us' s' := by
  induction steps with
  | nil => intro us s h _; exact ⟨us, s, rfl, h⟩
  | cons p rest ih =>
    obtain ⟨i, st⟩ := p
    intro us s h hdec
    have hrest : ∀ p ∈ rest, p.2.Fits D.entryFits :=
      fun p hp => hfits p (List.mem_cons_of_mem _ hp)
    cases hi : us[i]? with
    | none =>
      simp only [Decides, hi] at hdec
      obtain ⟨us', s', hrun, h'⟩ := ih hrest us s h hdec
      refine ⟨us', s', ?_, h'⟩
      simp only [liveAll, hi]
      exact hrun
    | some c =>
      simp only [Decides, hi] at hdec
      obtain ⟨items, hd, hs, hall⟩ := h
      obtain ⟨n, hn, hc⟩ := hall c (List.mem_of_getElem? hi)
      obtain ⟨c', s', items', hstep, hpre, hd', hs', hc'⟩ :=
        lifeStep_shares hd hs hc hn (hfits _ List.mem_cons_self) hdec.1
      -- the other units follow the same prefixes of the longer items
      have hshares : Shares D pid cfg (us.set i c') s' := by
        refine ⟨items', hd', hs', fun x hx => ?_⟩
        rcases List.mem_or_eq_of_mem_set hx with hx | rfl
        · obtain ⟨m, hm, hxm⟩ := hall x hx
          exact ⟨m, le_trans hm hpre.length_le, hxm.take_prefix hpre hm⟩
        · exact hc'
      obtain ⟨us'', s'', hrun, h''⟩ := ih hrest _ _ hshares (hdec.2 c' s' hstep)
      refine ⟨us'', s'', ?_, h''⟩
      simp only [liveAll, hi, hstep, bind, Except.bind]
      exact hrun

end Shared

end Core

/-- When every unit sharing a log logs only what its record decides, any interleaving of their
lives runs to its end and the log holds at most one insert. -/
theorem shared_log_one_insert {σ : Type} [Record σ] [Record.Lawful σ]
    (D : Durable σ (Command σ)) (n : Nat) {pid : String} {cfg : UnitConfig} {s : Store}
    (hlog : s.journal.log pid = {}) (hreads : s.faults.reads = false)
    {steps : List (Nat × LifeStep (Command σ))}
    (hfits : ∀ p ∈ steps, p.2.Fits D.entryFits)
    (hdec : Core.Decides cfg (List.replicate n (Core.new pid cfg), s) steps) :
    ∃ us s', Core.liveAll cfg (List.replicate n (Core.new pid cfg : Core σ), s) steps =
        .ok (us, s') ∧
      (((s'.journal.log pid).entries.filterMap (LogEntry.command? (Command σ))).filter
        (·.commandType = .insert)).length ≤ 1 := by
  have h₀ : Core.Shares D pid cfg (List.replicate n (Core.new pid cfg)) s := by
    refine ⟨[], Record.decisions_nil, Durable.Keeps.empty D hlog hreads, fun c hc => ?_⟩
    rw [List.eq_of_mem_replicate hc]
    exact ⟨0, Nat.le_refl 0, rfl, rfl, rfl, rfl⟩
  obtain ⟨us, s', hrun, items, hd, hs, -⟩ := Core.liveAll_shares hfits _ _ h₀ hdec
  refine ⟨us, s', hrun, ?_⟩
  rw [hs.commands_eq]
  exact hd.inserts_le_one

/-- Two client units start on an empty log and both decide to insert the same record; once the
first has logged its insert the second is behind the end of the log, so its insert is refused,
and it then saves a snapshot and recovers. -/
theorem two_clients_share_one_insert :
    ∃ (us : List (Core ClientState)) (s' : Store),
      Core.liveAll {} ([Core.new "client-x" {}, Core.new "client-x" {}], ({} : Store))
        ([(0, .persist (.insert ⟨some (Uuid.ofNat 1), Record.inserted (Uuid.ofNat 1) .present
            (ClientState.named "Acme"), ⟨"ann", "c1", none⟩⟩)),
          (1, .persist (.insert ⟨some (Uuid.ofNat 1), Record.inserted (Uuid.ofNat 1) .present
            (ClientState.named "Acme"), ⟨"ann", "c1", none⟩⟩)),
          (1, .snapshot), (1, .restart)] : List (Nat × LifeStep (Command ClientState))) =
        .ok (us, s') ∧
      (((s'.journal.log "client-x").entries.filterMap
        (LogEntry.command? (Command ClientState))).filter (·.commandType = .insert)).length ≤ 1 := by
  have hacme : Record.decide .present (Record.empty : ClientState)
      (.insert ⟨some (Uuid.ofNat 1), ClientState.named "Acme", ⟨"ann", "c1", none⟩⟩) =
      .ok (.insert ⟨some (Uuid.ofNat 1), Record.inserted (Uuid.ofNat 1) .present
        (ClientState.named "Acme"), ⟨"ann", "c1", none⟩⟩) := rfl
  apply shared_log_one_insert ClientState.durable 2 rfl rfl
  · intro p hp
    simp only [List.mem_cons, List.not_mem_nil, or_false] at hp
    rcases hp with rfl | rfl | rfl | rfl
    · exact ⟨fun _ h => by cases h; trivial, by decide, by decide, fun _ h => by cases h⟩
    · exact ⟨fun _ h => by cases h; trivial, by decide, by decide, fun _ h => by cases h⟩
    · trivial
    · trivial
  · simp only [Core.Decides, List.replicate, List.getElem?_cons_zero, List.getElem?_cons_succ,
      List.set_cons_zero, List.set_cons_succ, LifeStep.Decided, implies_true, and_true]
    -- both units have the empty record when they decide
    exact ⟨⟨_, _, hacme⟩, fun _ _ _ => ⟨_, _, hacme⟩⟩

/- The first insert is the one entry of the log. -/
example :
    ∃ (us : List (Core ClientState)) (s' : Store),
      Core.liveAll {} ([Core.new "client-x" {}, Core.new "client-x" {}], ({} : Store))
        ([(0, .persist (.insert ⟨some (Uuid.ofNat 1), Record.inserted (Uuid.ofNat 1) .present
            (ClientState.named "Acme"), ⟨"ann", "c1", none⟩⟩)),
          (1, .persist (.insert ⟨some (Uuid.ofNat 1), Record.inserted (Uuid.ofNat 1) .present
            (ClientState.named "Acme"), ⟨"ann", "c1", none⟩⟩)),
          (1, .snapshot), (1, .restart)] : List (Nat × LifeStep (Command ClientState))) =
        .ok (us, s') ∧ (s'.journal.log "client-x").entries.length = 1 :=
  ⟨_, _, rfl, rfl⟩

end Chronicle
