import Chronicle.Proofs.Unit.Kinds
import Chronicle.Proofs.World.Registration

/-! What each step of a supervisor may change of itself. -/
namespace Chronicle

namespace World

variable {w : World} {u : UnitRef} {k : EntityType} {s : SupUnit k}

/-- The records of a supervisor's children. -/
abbrev childIds (cs : List (Uuid × ChildRef)) : List Uuid := cs.map Prod.fst

theorem childIds_insert (id : Uuid) (child : ChildRef) (cs : List (Uuid × ChildRef)) :
    childIds cs ⊆ childIds (Keyed.insert id child cs) := by
  intro i hi
  induction cs with
  | nil => cases hi
  | cons e cs ih =>
    obtain ⟨k₂, v₂⟩ := e
    simp only [Keyed.insert]
    split
    · exact List.mem_cons_of_mem _ hi
    split
    · rcases List.mem_cons.mp hi with rfl | hi
      · exact List.mem_cons.mpr (.inl (by simp_all))
      · exact List.mem_cons_of_mem _ hi
    · rcases List.mem_cons.mp hi with rfl | hi
      · exact List.mem_cons_self
      · exact List.mem_cons_of_mem _ (ih hi)

def ChildrenGrow (cs cs' : List (Uuid × ChildRef)) : Prop :=
  childIds cs ⊆ childIds cs' ∧ (Keyed.Sorted cs → Keyed.Sorted cs')

theorem ChildrenGrow.refl (cs : List (Uuid × ChildRef)) : ChildrenGrow cs cs :=
  ⟨List.Subset.refl _, id⟩

theorem ChildrenGrow.of_eq {cs cs' : List (Uuid × ChildRef)} (h : cs' = cs) : ChildrenGrow cs cs' :=
  h ▸ ChildrenGrow.refl cs

theorem ChildrenGrow.trans {cs₁ cs₂ cs₃ : List (Uuid × ChildRef)} (h₁ : ChildrenGrow cs₁ cs₂)
    (h₂ : ChildrenGrow cs₂ cs₃) : ChildrenGrow cs₁ cs₃ :=
  ⟨List.Subset.trans h₁.1 h₂.1, h₂.2 ∘ h₁.2⟩

theorem ChildrenGrow.insert (id : Uuid) (child : ChildRef) (cs : List (Uuid × ChildRef)) :
    ChildrenGrow cs (Keyed.insert id child cs) :=
  ⟨childIds_insert id child cs, Keyed.sorted_insert⟩

def GrowsChildren (w : World) (u : UnitRef) (k : EntityType) (s : SupUnit k) : Prop :=
  ∃ cs, ChildrenGrow s.children cs ∧ w.HoldsSup u k { s with children := cs }

theorem GrowsChildren.of_holdsSup (h : w.HoldsSup u k s) : w.GrowsChildren u k s :=
  ⟨s.children, .refl _, h⟩

theorem GrowsChildren.trans {w' : World} (h : w.GrowsChildren u k s)
    (hstep : ∀ t, w.HoldsSup u k t → w'.GrowsChildren u k t) : w'.GrowsChildren u k s := by
  obtain ⟨cs, hgrow, hw⟩ := h
  obtain ⟨cs', hgrow', hw'⟩ := hstep _ hw
  exact ⟨cs', hgrow.trans hgrow', hw'⟩

theorem GrowsChildren.keep {w' : World} (h : w.GrowsChildren u k s)
    (hop : ∀ t, w.HoldsSup u k t → w'.HoldsSup u k t) : w'.GrowsChildren u k s :=
  h.trans fun _ ht => .of_holdsSup (hop _ ht)

theorem GrowsChildren.foldl {α : Type} (h : w.GrowsChildren u k s) (l : List α)
    (f : World → α → World) (hf : ∀ w a t, w.HoldsSup u k t → (f w a).GrowsChildren u k t) :
    (l.foldl f w).GrowsChildren u k s := by
  induction l generalizing w with
  | nil => exact h
  | cons a l ih => exact ih (h.trans fun t ht => hf w a t ht)

/-- What a step that adds no unit keeps of a supervisor `s` in `t`: its phase, its children, and
the read models it has started. -/
structure Stays (s t : SupUnit k) : Prop where
  phase : t.phase = s.phase
  children : t.children = s.children
  list : s.list.isSome → t.list.isSome
  accumulator : s.accumulator.isSome → t.accumulator.isSome

theorem Stays.refl (s : SupUnit k) : Stays s s := ⟨rfl, rfl, id, id⟩

theorem Stays.trans {r t : SupUnit k} (h₁ : Stays s r) (h₂ : Stays r t) : Stays s t :=
  ⟨h₂.phase.trans h₁.phase, h₂.children.trans h₁.children, h₂.list ∘ h₁.list,
    h₂.accumulator ∘ h₁.accumulator⟩

theorem Stays.of_resembles {t : SupUnit k} (h : s.Resembles t) : Stays s t :=
  ⟨h.phase, h.children, fun hl => h.list ▸ hl, fun ha => h.accumulator ▸ ha⟩

theorem HoldsSup.stays {r : SupUnit k} (h : w.HoldsSup u k r) (hr : Stays s r) :
    ∃ t, w.sup? u k = some t ∧ Stays s t := by
  obtain ⟨t, ht, hrt⟩ := h
  exact ⟨t, ht, hr.trans (.of_resembles hrt)⟩

theorem GrowsChildren.phase (h : w.GrowsChildren u k s) :
    ∃ t, w.sup? u k = some t ∧ t.phase = s.phase ∧ ChildrenGrow s.children t.children ∧
      t.list = s.list ∧ t.accumulator = s.accumulator := by
  obtain ⟨cs, hgrow, t, ht, hst⟩ := h
  exact ⟨t, ht, hst.phase, by rw [hst.children]; exact hgrow, hst.list, hst.accumulator⟩

def ReadModelsStarted (s : SupUnit k) : Prop :=
  s.phase ≠ .registering → s.list.isSome ∧ s.accumulator.isSome

theorem ReadModelsStarted.of_keeps {t : SupUnit k} (h : ReadModelsStarted s)
    (hp : t.phase ≠ .registering → s.phase ≠ .registering) (hl : s.list.isSome → t.list.isSome)
    (ha : s.accumulator.isSome → t.accumulator.isSome) : ReadModelsStarted t := fun ht =>
  let ⟨hsl, hsa⟩ := h (hp ht)
  ⟨hl hsl, ha hsa⟩

theorem Stays.readModelsStarted {t : SupUnit k} (h : Stays s t) (hs : ReadModelsStarted s) :
    ReadModelsStarted t :=
  hs.of_keeps (fun ht => h.phase ▸ ht) h.list h.accumulator

end World

namespace Supervision

open World

variable {w : World} {u : UnitRef} {k : EntityType} {s : SupUnit k}

/-- Starting a unit for a record adds it to the children, after the read models are told to
subscribe to it. -/
theorem materialize_sup (h : w.HoldsSup u k s) (s' : SupUnit k) (id : Uuid) :
    (materialize u k s' id w).2.HoldsSup u k
      { s with children := Keyed.insert id (materialize u k s' id w).1 s.children } := by
  unfold materialize
  rcases hsp : w.spawnEntity k id s'.config.unit with ⟨child, w₁⟩
  have h₁ : w₁.HoldsSup u k s := by
    have := h.spawnEntity k id s'.config.unit
    rwa [hsp] at this
  dsimp only
  refine holdsSup_modify ?_ _ (fun _ _ => rfl)
  -- telling the new unit to report to the read models only writes to that unit
  cases s'.list <;> cases s'.accumulator <;> dsimp only
  · exact h₁
  · exact h₁.post _ _
  · exact h₁.post _ _
  · exact (h₁.post _ _).post _ _

theorem materialize_grows (h : w.HoldsSup u k s) (s' : SupUnit k) (id : Uuid) :
    (materialize u k s' id w).2.GrowsChildren u k s :=
  ⟨_, .insert _ _ _, materialize_sup h s' id⟩

theorem liveChild_grows (h : w.HoldsSup u k s) (id : Uuid) :
    (liveChild u k id w).2.GrowsChildren u k s := by
  obtain ⟨t, ht, hst⟩ := h
  unfold liveChild
  simp only [ht]
  split
  · split
    · exact .of_holdsSup ⟨t, ht, hst⟩
    · exact materialize_grows ⟨t, ht, hst⟩ t id
  · exact .of_holdsSup ⟨t, ht, hst⟩

theorem forward_grows (h : w.HoldsSup u k s) (child : ChildRef) (c : Command k.Rec) (reply : Reply) :
    (forward u k child c reply w).GrowsChildren u k s := by
  unfold forward
  split
  · rename_i w₁ hp
    exact .of_holdsSup (h.tryPost hp)
  · split
    · exact .of_holdsSup (h.dropReplies _)
    · rename_i t ht
      have hm := materialize_grows h t child.id
      rcases hmat : materialize u k t child.id w with ⟨again, w₁⟩
      rw [hmat] at hm
      dsimp only
      split
      · rename_i w₂ hp
        exact hm.keep fun _ h' => h'.tryPost hp
      · exact hm.keep fun _ h' => h'.deliver _ _

theorem route_grows (h : w.HoldsSup u k s) (c : Command k.Rec) (reply : Reply) :
    (route u k c reply w).GrowsChildren u k s := by
  -- a unit started for a record and then handed the command
  have hstart : ∀ (w' : World) (t : SupUnit k) (id : Uuid) (c' : Command k.Rec) (r : SupUnit k),
      w'.HoldsSup u k r →
      (forward u k (materialize u k t id w').1 c' reply (materialize u k t id w').2).GrowsChildren
        u k r := fun w' t id c' _ hw' =>
    (materialize_grows hw' t id).trans fun _ h' => forward_grows h' _ c' reply
  unfold route
  cases ht : c.target with
  | none =>
    dsimp only
    by_cases hins : c.commandType = .insert
    · rw [if_pos hins]
      rcases ha : w.alloc with ⟨id, w₁⟩
      have h₁ : w₁.HoldsSup u k s := by
        have := h.alloc
        rwa [ha] at this
      dsimp only
      cases hs₁ : w₁.sup? u k with
      | none => exact .of_holdsSup (h₁.dropReplies _)
      | some t => exact hstart w₁ t id _ s h₁
    · rw [if_neg hins]
      exact .of_holdsSup (h.deliver _ _)
  | some id =>
    dsimp only
    have hl := liveChild_grows h id
    rcases hlc : liveChild u k id w with ⟨child?, w₁⟩
    rw [hlc] at hl
    cases child? with
    | some child => exact hl.trans fun _ h' => forward_grows h' child c reply
    | none =>
      dsimp only
      split
      · cases hs₁ : w₁.sup? u k with
        | none => exact hl.keep fun _ h' => h'.dropReplies _
        | some t => exact hl.trans fun _ h' => hstart w₁ t id c _ h'
      · exact hl.keep fun _ h' => h'.deliver _ _

theorem submit_grows (h : w.HoldsSup u k s) (e : Envelope) (reply : Reply) :
    (submit u k e reply w).GrowsChildren u k s := by
  unfold submit
  split
  · exact route_grows h _ reply
  · exact .of_holdsSup (h.deliver _ _)

/-- Serving a command or a read when ready changes at most the children, by adding units. -/
theorem handleReady_grows (h : w.HoldsSup u k s) (m : SupMsg k) :
    (handleReady u k m w).GrowsChildren u k s := by
  obtain ⟨t, ht, hst⟩ := h
  have h' : w.HoldsSup u k s := ⟨t, ht, hst⟩
  unfold handleReady
  simp only [ht]
  cases m with
  | execute c r => exact route_grows h' c r
  | submit e r => exact submit_grows h' e r
  | idList r | getList r | subscribeList _ r =>
    -- a read goes to the read model that serves it, or is dropped without one
    dsimp only
    split
    · exact .of_holdsSup (h'.post _ _)
    · exact .of_holdsSup (h'.dropReplies _)
  | childRefs r => exact .of_holdsSup (h'.deliver _ _)
  | _ => exact .of_holdsSup h'

/-- A listing that could not be polled is replaced after the backoff, or the supervisor stops;
either way the supervisor stays, with a listing if it had one. -/
theorem discoveryFailed_phase (h : w.HoldsSup u k s) :
    ∃ t, (discoveryFailed u k w).2.sup? u k = some t ∧ Stays s t := by
  obtain ⟨t, ht, hst⟩ := h
  have hput := holdsSup_put (.of_sup? ht) { t with discoveryFailures := t.discoveryFailures + 1 }
  unfold discoveryFailed
  simp only [ht]
  split
  · exact HoldsSup.stays (shutdown_sup hput) ((Stays.of_resembles hst).trans ⟨rfl, rfl, id, id⟩)
  · have hsp := hput.spawnList k t.config.unit
    rcases hl : (put u k w { t with discoveryFailures := t.discoveryFailures + 1 }).spawnList k
      t.config.unit with ⟨l, w₁⟩
    rw [hl] at hsp
    -- the new listing takes the old one's place
    refine HoldsSup.stays (holdsSup_modify (hsp.schedule _ _) _ fun _ _ => ?_)
      ((Stays.of_resembles hst).trans ⟨rfl, rfl, fun _ => rfl, id⟩)
    rfl

/-- Asking the listing for its records, once the poll is counted, keeps the supervisor as it
was: the question is posted and the next poll's timer started, or the listing is replaced after
the backoff. -/
private theorem pollList_ask {r : SupUnit k} (h : w.HoldsSup u k r) (l : Handle) (p : Nat)
    (d : Duration) :
    ∃ t, (if !w.isOpen l.unit then discoveryFailed u k w
      else match w.post l.unit (.listing (.idList (.listed u p))) with
        | (false, w) => discoveryFailed u k w
        | (true, w) =>
          let (n, w) := w.schedule d (.signal u .pollList)
          (.continue, modify u k w (fun s => { s with pollTimer := some n }))).2.sup? u k = some t ∧
      Stays r t := by
  split
  · exact discoveryFailed_phase h
  have hw := h.post l.unit (.listing (.idList (.listed u p)))
  split
  · rename_i w₂ hp
    rw [hp] at hw
    exact discoveryFailed_phase hw
  · rename_i w₂ hp
    rw [hp] at hw
    refine HoldsSup.stays (holdsSup_modify (hw.schedule _ _) _ fun _ _ => ?_) ⟨rfl, rfl, id, id⟩
    rfl

/-- Polling the listing keeps the supervisor as it was. -/
theorem pollList_phase (h : w.HoldsSup u k s) :
    ∃ t, (pollList u k w).2.sup? u k = some t ∧ Stays s t := by
  obtain ⟨t, ht, hst⟩ := h
  unfold pollList
  simp only [ht]
  split
  · exact ⟨t, ht, .of_resembles hst⟩
  rename_i l _
  -- whether or not a poll timer runs, the poll is counted and the listing asked
  have hask := fun {w₁ : World} (hw₁ : w₁.HoldsSup u k t) => pollList_ask (holdsSup_modify hw₁
    (fun s => { s with pollTimer := none, poll := t.poll + 1 }) (fun _ _ => rfl)) l (t.poll + 1)
    t.config.listPollInterval
  have hcount : Stays t { t with pollTimer := none, poll := t.poll + 1 } := ⟨rfl, rfl, id, id⟩
  have hstays : ∀ {t'}, Stays { t with pollTimer := none, poll := t.poll + 1 } t' → Stays s t' :=
    fun h => (Stays.of_resembles hst).trans (hcount.trans h)
  split
  · obtain ⟨t', ht', hst'⟩ := hask ((HoldsSup.of_sup? ht).abortTimer _)
    exact ⟨t', ht', hstays hst'⟩
  · obtain ⟨t', ht', hst'⟩ := hask (.of_sup? ht)
    exact ⟨t', ht', hstays hst'⟩

/-- Initializing starts the listing and the accumulator and polls the listing: the supervisor is
then initializing, with the children it had and both read models. -/
theorem startInitializing_phase (h : w.HoldsSup u k s) :
    ∃ t, (startInitializing u k w).2.sup? u k = some t ∧ t.phase = .initializing ∧
      t.children = s.children ∧ t.list.isSome ∧ t.accumulator.isSome := by
  obtain ⟨t, ht, hst⟩ := h
  have hput := holdsSup_put (.of_sup? ht) { t with phase := .initializing }
  unfold startInitializing
  simp only [ht]
  have hsl := hput.spawnList k t.config.unit
  rcases hl : (put u k w { t with phase := .initializing }).spawnList k t.config.unit with ⟨l, w₁⟩
  rw [hl] at hsl
  have hsa := hsl.spawnAccumulator k (.supervisor u) t.config.accumulatorPullTimeout
    t.config.unit.stashCapacity
  rcases ha : w₁.spawnAccumulator k (.supervisor u) t.config.accumulatorPullTimeout
    t.config.unit.stashCapacity with ⟨a, w₂⟩
  rw [ha] at hsa
  dsimp only
  obtain ⟨t', ht', hst'⟩ := pollList_phase (holdsSup_modify hsa
    (fun s => { s with list := some l, accumulator := some a }) (fun _ _ => rfl))
  exact ⟨t', ht', hst'.phase, hst'.children.trans hst.children, hst'.list rfl,
    hst'.accumulator rfl⟩

/-- The listing's answer makes an initializing supervisor ready, and changes no other's phase;
the children only grow, by a unit for each record listed and by what the stash asks for, and
the read models stay. -/
theorem listSnapshot_phase (h : w.HoldsSup u k s) (items : List ListItem) :
    ∃ t, (listSnapshot u k items w).sup? u k = some t ∧
      t.phase = (if s.phase = .initializing then .ready else s.phase) ∧
      ChildrenGrow s.children t.children ∧ t.list = s.list ∧ t.accumulator = s.accumulator := by
  obtain ⟨t, ht, hst⟩ := h
  unfold listSnapshot
  simp only [ht]
  split
  · rename_i hne
    have hne' : s.phase ≠ .initializing := by rwa [hst.phase] at hne
    exact ⟨t, ht, by rw [if_neg hne', hst.phase], .of_eq hst.children, hst.list, hst.accumulator⟩
  rename_i hin
  have hinit : t.phase = .initializing := Decidable.of_not_not hin
  rw [if_pos (hst.phase ▸ hinit)]
  -- the poll timer is cancelled, then a unit is started for each record listed
  generalize hw₂ : List.foldl _ _ items = w₂
  obtain ⟨r, hr, hrc, hrl, hra⟩ : ∃ r : SupUnit k, w₂.GrowsChildren u k r ∧
      r.children = s.children ∧ r.list = s.list ∧ r.accumulator = s.accumulator := by
    split at hw₂ <;> subst hw₂
    case' h_1 =>
      refine ⟨_, (GrowsChildren.of_holdsSup (holdsSup_modify ((HoldsSup.of_sup? ht).abortTimer _)
        (fun s => { s with pollTimer := none }) (fun _ _ => rfl))).foldl items _ ?_,
        hst.children, hst.list, hst.accumulator⟩
    case' h_2 =>
      refine ⟨t, (GrowsChildren.of_holdsSup (.of_sup? ht)).foldl items _ ?_,
        hst.children, hst.list, hst.accumulator⟩
    -- either way each record listed gets a unit, which only adds a child
    all_goals
      rintro w' it r' ⟨t', ht', hr'⟩
      simp only [ht']
      exact materialize_grows ⟨t', ht', hr'⟩ t' it.id
  obtain ⟨t₂, ht₂, -, hgrow₂, hl₂, ha₂⟩ := hr.phase
  split
  · rename_i hnone
    exact absurd (hnone.symm.trans ht₂) (Option.some_ne_none _).symm
  rename_i s₂ hs₂
  obtain rfl : s₂ = t₂ := Option.some.inj (hs₂.symm.trans ht₂)
  -- ready, the stashed messages are served
  have hready := (GrowsChildren.of_holdsSup (holdsSup_put (.of_sup? hs₂)
    { s₂ with phase := .ready, stash := s₂.stash.takeAll.2 })).foldl s₂.stash.takeAll.1
    (fun w m => handleReady u k m w) (fun w' m r' h' => handleReady_grows h' m)
  obtain ⟨t₃, ht₃, hp₃, hgrow₃, hl₃, ha₃⟩ := hready.phase
  exact ⟨t₃, ht₃, hp₃, (hrc ▸ hgrow₂).trans hgrow₃, hl₃.trans (hl₂.trans hrl),
    ha₃.trans (ha₂.trans hra)⟩

theorem registrationFailed_phase (h : w.HoldsSup u k s) :
    ∃ t, (registrationFailed u k w).2.sup? u k = some t ∧ Stays s t := by
  by_cases hspent : s.config.registrationRetries.toNat ≤ s.attempts.toNat - 1
  · obtain ⟨w₁, hw₁, he⟩ := registrationFailed_of_spent h hspent
    rw [he]
    exact HoldsSup.stays (shutdown_sup hw₁) ⟨rfl, rfl, id, id⟩
  · obtain ⟨-, n, hn, -⟩ := registrationFailed_of_left h (Nat.lt_of_not_le hspent)
    exact HoldsSup.stays hn ⟨rfl, rfl, id, id⟩

/-- An attempt keeps the supervisor as it was. -/
theorem register_phase (h : w.HoldsSup u k s) :
    ∃ t, (register u k w).2.sup? u k = some t ∧ Stays s t := by
  obtain ⟨t, ht, hst⟩ := h
  cases hd : t.registry with
  | none =>
    have he : register u k w = (.continue, w) := by simp [register, ht, hd]
    rw [he]
    exact ⟨t, ht, .of_resembles hst⟩
  | some d =>
    obtain ⟨corr, -, sent, w₁, -, -, -, h₁, hfalse, htrue⟩ := register_of_registry ht hd
    cases sent with
    | false =>
      rw [hfalse rfl]
      obtain ⟨t', ht', hst'⟩ := registrationFailed_phase h₁
      refine ⟨t', ht', (Stays.of_resembles hst).trans (Stays.trans ?_ hst')⟩
      exact ⟨rfl, rfl, id, id⟩
    | true =>
      obtain ⟨-, n, hn, -⟩ := htrue rfl
      exact HoldsSup.stays hn ((Stays.of_resembles hst).trans ⟨rfl, rfl, id, id⟩)

theorem registryReady_phase (hs : w.sup? u k = some s) (d : Directory) :
    ∃ t, (registryReady u k d w).2.sup? u k = some t ∧ Stays s t := by
  have hput := holdsSup_put (.of_sup? hs) { s with registry := some d }
  unfold registryReady
  simp only [hs]
  split
  · obtain ⟨t, ht, hst⟩ := register_phase (holdsSup_modify (cancelRegistrationTimers_sup hput)
      (fun s => { s with attempts := 0 }) (fun _ _ => rfl))
    refine ⟨t, ht, Stays.trans ?_ hst⟩
    exact ⟨rfl, rfl, id, id⟩
  · exact HoldsSup.stays (hput.tellRegistry d _) ⟨rfl, rfl, id, id⟩

def PhaseMove (s : SupUnit k) (m : SupMsg k) (p : SupPhase) : Prop :=
  p = s.phase ∨
  ((∃ c, m = .registered c true ∧ isCurrent k s c = true) ∧ p = .initializing) ∨
  ((∃ n items, m = .listSnapshot n items) ∧ s.phase = .initializing ∧ p = .ready)

theorem PhaseMove.not_registering {m : SupMsg k} {p : SupPhase} (hm : PhaseMove s m p)
    (hs : s.phase ≠ .registering) : p ≠ .registering := by
  rcases hm with rfl | ⟨-, rfl⟩ | ⟨-, -, rfl⟩
  · exact hs
  · decide
  · decide

/-- One step of a supervisor: every message moves its phase as `PhaseMove` allows, its children
only grow, and a supervisor past registering keeps both read models. -/
theorem handle_step (hs : w.sup? u k = some s) (m : SupMsg k) :
    ∃ t, (handle u k m w).2.sup? u k = some t ∧ PhaseMove s m t.phase ∧
      ChildrenGrow s.children t.children ∧ (ReadModelsStarted s → ReadModelsStarted t) := by
  have h : w.HoldsSup u k s := .of_sup? hs
  -- the messages that keep the phase and the read models, and change at most the children
  have kept : ∀ {w' : World},
      (∃ t, w'.sup? u k = some t ∧ t.phase = s.phase ∧ ChildrenGrow s.children t.children ∧
        t.list = s.list ∧ t.accumulator = s.accumulator) →
      ∃ t, w'.sup? u k = some t ∧ PhaseMove s m t.phase ∧ ChildrenGrow s.children t.children ∧
        (ReadModelsStarted s → ReadModelsStarted t) := by
    rintro w' ⟨t, ht, hp, hc, hl, ha⟩
    exact ⟨t, ht, .inl hp, hc,
      fun hr => hr.of_keeps (fun h' => hp ▸ h') (fun h' => hl ▸ h') (fun h' => ha ▸ h')⟩
  -- and those that keep the children as well
  have same : ∀ {w' : World}, (∃ t, w'.sup? u k = some t ∧ Stays s t) →
      ∃ t, w'.sup? u k = some t ∧ PhaseMove s m t.phase ∧ ChildrenGrow s.children t.children ∧
        (ReadModelsStarted s → ReadModelsStarted t) := by
    rintro w' ⟨t, ht, hst⟩
    exact ⟨t, ht, .inl hst.phase, .of_eq hst.children, hst.readModelsStarted⟩
  cases m with
  | registryReady d =>
    simp only [handle, hs]
    exact same (registryReady_phase hs d)
  | registered c b =>
    cases hc : isCurrent k s c
    · rw [(handle_stale hs hc b).1]
      exact same ⟨s, hs, .refl s⟩
    cases b
    · simp only [handle, registered, hs, hc, Bool.not_true, Bool.not_false, if_true]
      exact same (registrationFailed_phase h)
    · -- the acceptance of the attempt under way starts both read models
      simp only [handle, registered, hs, hc, Bool.not_true]
      obtain ⟨t, ht, hp, hchildren, hl, ha⟩ := startInitializing_phase (holdsSup_modify
        (cancelRegistrationTimers_sup h) (fun s => { s with correlation := none }) (fun _ _ => rfl))
      exact ⟨t, ht, .inr (.inl ⟨⟨c, rfl, hc⟩, hp⟩), .of_eq hchildren, fun _ _ => ⟨hl, ha⟩⟩
  | signal sig =>
    cases sig with
    | registrationTimeout c =>
      cases hc : isCurrent k s c
      · rw [(handle_stale hs hc true).2]
        exact same ⟨s, hs, .refl s⟩
      · simp only [handle, hs, hc, if_true]
        exact same (registrationFailed_phase h)
    | retryRegistration =>
      simp only [handle, hs]
      split
      · exact same (register_phase h)
      · exact same ⟨s, hs, .refl s⟩
    | pollList =>
      simp only [handle, hs]
      split
      · exact same (pollList_phase h)
      · exact same ⟨s, hs, .refl s⟩
  | listSnapshot n items =>
    simp only [handle, hs]
    obtain ⟨t, ht, hp, hchildren, hl, ha⟩ := listSnapshot_phase h items
    by_cases hinit : s.phase = .initializing
    · rw [if_pos hinit] at hp
      refine ⟨t, ht, .inr (.inr ⟨⟨n, items, rfl⟩, hinit, hp⟩), hchildren, fun hr => ?_⟩
      -- an initializing supervisor has started its read models, and ready keeps them
      exact hr.of_keeps (fun _ => by rw [hinit]; decide) (fun h' => hl ▸ h') (fun h' => ha ▸ h')
    · rw [if_neg hinit] at hp
      exact kept ⟨t, ht, hp, hchildren, hl, ha⟩
  | status r =>
    simp only [handle, hs]
    exact same (HoldsSup.stays (h.deliver r _) (.refl s))
  | stop =>
    simp only [handle, hs]
    exact same (HoldsSup.stays (shutdown_sup h) ⟨rfl, rfl, id, id⟩)
  | _ =>
    -- commands and reads: set aside until ready, then served
    simp only [handle, hs]
    split
    · obtain ⟨st, hst⟩ := park_sup hs _
      exact same (HoldsSup.stays hst ⟨rfl, rfl, id, id⟩)
    · exact kept (handleReady_grows h _).phase

/-- A property of the supervisor that every message keeps, and that holds of any supervisor
resembling one it holds of, holds along every run. -/
theorem SupRun.holds {ok : SupUnit k → SupMsg k → Prop} {w₀ w : World} (P : SupUnit k → Prop)
    (hstep : ∀ {w : World} {s : SupUnit k} (m : SupMsg k), w.sup? u k = some s → P s →
      ∃ t, (handle u k m w).2.sup? u k = some t ∧ P t)
    (hother : ∀ {s t : SupUnit k}, s.Resembles t → P s → P t)
    (hrun : SupRun u k ok w₀ w) (h₀ : ∃ s, w₀.sup? u k = some s ∧ P s) :
    ∃ s, w.sup? u k = some s ∧ P s := by
  induction hrun with
  | start => exact h₀
  | step _ hs _ _ ih =>
    obtain ⟨s, hs', hp⟩ := ih
    rw [hs] at hs'
    cases hs'
    exact hstep _ hs hp
  | other _ hkeep ih =>
    obtain ⟨s, hs, hp⟩ := ih
    obtain ⟨t, ht, hst⟩ := hkeep s hs
    exact ⟨t, ht, hother hst hp⟩

theorem SupRun.registered_for_good {ok : SupUnit k → SupMsg k → Prop} {w₀ w : World}
    (hrun : SupRun u k ok w₀ w) (h₀ : ∃ s, w₀.sup? u k = some s ∧ s.phase ≠ .registering) :
    ∃ s, w.sup? u k = some s ∧ s.phase ≠ .registering := by
  refine hrun.holds (fun s => s.phase ≠ .registering) (fun m hs hp => ?_)
    (fun hst hp => hst.phase ▸ hp) h₀
  obtain ⟨t, ht, hmove, -⟩ := handle_step hs m
  exact ⟨t, ht, hmove.not_registering hp⟩

theorem SupRun.children_grow {ok : SupUnit k → SupMsg k → Prop} {w₀ w : World} {s₀ : SupUnit k}
    (hrun : SupRun u k ok w₀ w) (h₀ : w₀.sup? u k = some s₀) :
    ∃ s, w.sup? u k = some s ∧ ChildrenGrow s₀.children s.children := by
  refine hrun.holds (fun s => ChildrenGrow s₀.children s.children) (fun m hs hgrow => ?_)
    (fun hst hgrow => hst.children ▸ hgrow) ⟨s₀, h₀, .refl _⟩
  obtain ⟨t, ht, -, hgrow', -⟩ := handle_step hs m
  exact ⟨t, ht, hgrow.trans hgrow'⟩

theorem SupRun.readModels_started {ok : SupUnit k → SupMsg k → Prop} {w₀ w : World}
    (hrun : SupRun u k ok w₀ w) (h₀ : ∃ s, w₀.sup? u k = some s ∧ ReadModelsStarted s) :
    ∃ s, w.sup? u k = some s ∧ ReadModelsStarted s := by
  refine hrun.holds ReadModelsStarted (fun m hs hr => ?_)
    (fun hst hr => (Stays.of_resembles hst).readModelsStarted hr) h₀
  obtain ⟨t, ht, -, -, hkeep⟩ := handle_step hs m
  exact ⟨t, ht, hkeep hr⟩

theorem handle_leaves_registering (hs : w.sup? u k = some s) (hp : s.phase = .registering)
    (m : SupMsg k) :
    ∃ t, (handle u k m w).2.sup? u k = some t ∧ (t.phase = .registering ∨
      ((∃ c, m = .registered c true ∧ isCurrent k s c = true) ∧ t.phase = .initializing)) := by
  obtain ⟨t, ht, hmove, -, -⟩ := handle_step hs m
  refine ⟨t, ht, ?_⟩
  rcases hmove with hkept | hacc | ⟨-, hinit, -⟩
  · exact .inl (hkept.trans hp)
  · exact .inr hacc
  · rw [hp] at hinit
    cases hinit

/-- The registration protocol of the supervisors of kind `k`, whatever the registry does: they
leave registering only on acceptance, and without it give up exactly after the last retry. -/
structure RegistrationProtocol (k : EntityType) : Prop where
  leaves_on_acceptance : ∀ {w : World} {u : UnitRef} {s : SupUnit k} (m : SupMsg k),
    w.sup? u k = some s → s.phase = .registering →
    ∃ t, (handle u k m w).2.sup? u k = some t ∧ (t.phase = .registering ∨
      ((∃ c, m = .registered c true ∧ isCurrent k s c = true) ∧ t.phase = .initializing))
  never_back : ∀ {ok : SupUnit k → SupMsg k → Prop} {u : UnitRef} {w₀ w : World},
    SupRun u k ok w₀ w → (∃ s, w₀.sup? u k = some s ∧ s.phase ≠ .registering) →
    ∃ s, w.sup? u k = some s ∧ s.phase ≠ .registering
  stale : ∀ {w : World} {u : UnitRef} {s : SupUnit k} {c : Uuid}, w.sup? u k = some s →
    isCurrent k s c = false → ∀ b : Bool,
    handle u k (.registered c b) w = (.continue, w) ∧
      handle u k (.signal (.registrationTimeout c)) w = (.continue, w)
  bounded : ∀ {u : UnitRef} {w₀ w : World} {s₀ : SupUnit k} (d : Directory),
    w₀.sup? u k = some s₀ → s₀.phase = .registering →
    s₀.config.registrationRetries.toNat < 4294967295 →
    (handle u k (.registryReady d) w₀).1 = .continue →
    SupRun u k Unaccepted (handle u k (.registryReady d) w₀).2 w →
    ∃ s, w.sup? u k = some s ∧ Unregistered s₀.config d s
  stops_at_last : ∀ {cfg : SupervisorConfig} {d : Directory} {w : World} {u : UnitRef}
    {s : SupUnit k} {m : SupMsg k}, Unregistered cfg d s → w.sup? u k = some s → Unaccepted s m →
    (m = .stop ∧ handle u k m w = (.stop, shutdown u k w)) ∨
    (∃ w₁, w₁.HoldsSup u k { s with attempts := cfg.registrationRetries + 1,
                                    registrationTimer := none, retryTimer := none,
                                    correlation := none } ∧
      handle u k m w = (.stop, shutdown u k w₁)) ∨
    ((handle u k m w).1 = .continue ∧ ∃ t, (handle u k m w).2.sup? u k = some t ∧
      Unregistered cfg d t ∧ t.attempts.toNat ≤ s.attempts.toNat + 1)
  backoff : ∀ {w : World} {u : UnitRef} {s : SupUnit k}, w.HoldsSup u k s →
    s.attempts.toNat - 1 < s.config.registrationRetries.toNat →
    (registrationFailed u k w).1 = .continue ∧ ∃ n,
      (registrationFailed u k w).2.HoldsSup u k
        { s with registrationTimer := none, retryTimer := some n, correlation := none } ∧
      (registrationFailed u k w).2.timers[n]? =
        some { delay := s.config.registrationBackoff.delay s.attempts.toNat,
               alarm := .signal u .retryRegistration }
  delay : ∀ (b : Backoff) (n : Nat), b.cap.nanos ≤ Duration.maxNanos →
    (b.delay n).nanos = min (b.step.nanos * n) b.cap.nanos
  progress : ∀ {cfg : SupervisorConfig} {d : Directory} {w : World} {u : UnitRef}
    {s : SupUnit k}, Unregistered cfg d s → w.sup? u k = some s →
    Unaccepted s (ownTimer s) ∧ ((handle u k (ownTimer s) w).1 = .stop ∨
      ∃ t, (handle u k (ownTimer s) w).2.sup? u k = some t ∧ Unregistered cfg d t ∧
        timersLeft cfg t < timersLeft cfg s)
  refuses : ∀ {w : World} {u : UnitRef} {s : SupUnit k} {c : Command k.Rec} {n : Nat},
    w.sup? u k = some s → (s.stash.items.flatMap SupMsg.replies).Nodup →
    .execute c (.slot n) ∈ s.stash.items → w.slots[n]? = some .waiting →
    (shutdown u k w).slots[n]? = some (.filled (.event (failed k c.commandType c.target c.issuer
      "supervisor stopped" c.payload)))
  never_gives_up_at_top : ∀ {u : UnitRef} {w₀ w : World} {s₀ : SupUnit k} (d : Directory),
    w₀.sup? u k = some s₀ → s₀.phase = .registering →
    s₀.config.registrationRetries = 4294967295 →
    (handle u k (.registryReady d) w₀).1 = .continue ∧
      (SupRun u k Unaccepted (handle u k (.registryReady d) w₀).2 w →
        ∃ s, w.sup? u k = some s ∧ s.phase = .registering ∧ s.config = s₀.config ∧
          ∀ m, Unaccepted s m → m ≠ .stop → (handle u k m w).1 = .continue)
  counter_wraps : ∀ {w : World} {u : UnitRef} {s : SupUnit k} {d : Directory},
    w.sup? u k = some s → s.registry = some d → s.config.registrationRetries = 4294967295 →
    s.attempts = 4294967295 →
    (register u k w).1 = .continue ∧ ∃ t, (register u k w).2.sup? u k = some t ∧ t.attempts = 0

theorem registration_protocol (k : EntityType) : RegistrationProtocol k where
  leaves_on_acceptance m hs hp := handle_leaves_registering hs hp m
  never_back hrun h₀ := hrun.registered_for_good h₀
  stale hs hc b := handle_stale hs hc b
  bounded d hs hp hfits hc hrun := hrun.unregistered
    (unregistered_of_announced hs hp d hfits hc |>.imp fun _ ⟨ht, hinv, _⟩ => ⟨ht, hinv⟩)
  stops_at_last h hs hm := h.step hs hm
  backoff h hleft := registrationFailed_of_left h hleft
  delay b n hcap := b.delay_nanos n hcap
  progress h hs := h.ownTimer_progress hs
  refuses hs hnodup hmem hw := shutdown_refuses_execute hs hnodup hmem hw
  never_gives_up_at_top d hs hp htop := by
    obtain ⟨hc, h₁⟩ := unending_of_announced hs hp d htop
    refine ⟨hc, fun hrun => ?_⟩
    obtain ⟨s, hs', hinv⟩ := hrun.unending h₁
    exact ⟨s, hs', hinv.phase, hinv.config, fun m hm hstop => (hinv.step hs' hm hstop).1⟩
  counter_wraps hs hd htop hmax := by
    obtain ⟨hc, t, ht, -, -, -, hta⟩ := register_of_top hs hd htop
    exact ⟨hc, t, ht, by rw [hta, hmax, top_add_one]⟩

end Supervision

end Chronicle
