import Chronicle.Proofs.World.Routing

/-! Discovery: how an initializing supervisor learns its records. -/
namespace Chronicle

namespace SupUnit

variable {k : EntityType} {s t : SupUnit k}

theorem Resembles.discoveryFailures (h : s.Resembles t) :
    t.discoveryFailures = s.discoveryFailures :=
  (congrArg SupUnit.discoveryFailures h.eq).symm

theorem Resembles.pollTimer (h : s.Resembles t) : t.pollTimer = s.pollTimer :=
  (congrArg SupUnit.pollTimer h.eq).symm

end SupUnit

namespace SupMsg

def parks {k : EntityType} : SupMsg k → Bool
  | .execute .. | .submit .. | .idList _ | .getList _ | .childRefs _ | .subscribeList .. => true
  | _ => false

end SupMsg

namespace Supervision

open World

variable {w : World} {u : UnitRef} {k : EntityType} {s : SupUnit k}

/-! ### Setting aside, and the listing's answer -/

theorem handle_parks (hs : w.sup? u k = some s) (hp : s.phase ≠ .ready) {m : SupMsg k}
    (hm : m.parks = true) (hroom : s.stash.isFull = false) :
    handle u k m w = (.continue,
      put u k w { s with stash := { s.stash with items := s.stash.items ++ [m] } }) := by
  have hpark : park u k m w =
      put u k w { s with stash := { s.stash with items := s.stash.items ++ [m] } } := by
    simp only [park, hs, Stash.push_items _ _ hroom]
  rw [← hpark]
  cases m with
  | execute | submit | idList | getList | childRefs | subscribeList =>
    simp only [handle, hs, hp, ne_eq, not_false_eq_true, if_true]
  | _ => simp [SupMsg.parks] at hm

def HasUnitsFor (cs : List (Uuid × ChildRef)) (ids : List Uuid) : Prop :=
  ∀ id ∈ ids, ∃ c, Keyed.get? cs id = some c ∧ c.id = id

theorem HasUnitsFor.insert {cs : List (Uuid × ChildRef)} {ids : List Uuid}
    (h : HasUnitsFor cs ids) {id : Uuid} {c : ChildRef} (hc : c.id = id) :
    HasUnitsFor (Keyed.insert id c cs) (ids ++ [id]) := by
  intro i hi
  by_cases hii : i = id
  · subst hii
    exact ⟨c, Keyed.get?_insert_self _ _ _, hc⟩
  · obtain ⟨c', hc', hid⟩ := h i (by simpa [hii] using hi)
    exact ⟨c', (Keyed.get?_insert_ne c hii).trans hc', hid⟩

theorem materialize_id (s' : SupUnit k) (id : Uuid) : (materialize u k s' id w).1.id = id :=
  rfl

/-- Starting a unit for each listed record in turn leaves a unit of its record under each, and
keeps every unit the supervisor had for a record not listed. -/
theorem materializeAll (items : List ListItem) {w : World} {s : SupUnit k} {ids : List Uuid}
    (h : w.HoldsSup u k s) (hids : HasUnitsFor s.children ids) :
    ∃ cs, ChildrenGrow s.children cs ∧ HasUnitsFor cs (ids ++ items.map (·.id)) ∧
      (items.foldl (fun w it => match w.sup? u k with
        | some s => (materialize u k s it.id w).2
        | none => w) w).HoldsSup u k { s with children := cs } := by
  induction items generalizing w s ids with
  | nil => exact ⟨s.children, .refl _, by simpa using hids, by simpa using h⟩
  | cons it items ih =>
    obtain ⟨t, ht, hst⟩ := h
    have h₁ := materialize_sup ⟨t, ht, hst⟩ t it.id
    obtain ⟨cs, hgrow, hunits, hfold⟩ := ih h₁ (hids.insert (materialize_id t it.id))
    refine ⟨cs, (ChildrenGrow.insert _ _ _).trans hgrow, by simpa using hunits, ?_⟩
    rw [List.foldl_cons]
    simp only [ht]
    exact hfold

/-- The listing's answer to an initializing supervisor: the poll timer is cancelled and a unit
started for every record listed, with nothing set aside served yet; only then does the
supervisor become ready and serve, in order, every message it set aside. -/
theorem listSnapshot_of_initializing (hs : w.sup? u k = some s) (hinit : s.phase = .initializing)
    (items : List ListItem) :
    ∃ w₁ s₁, w₁.sup? u k = some s₁ ∧ s₁.phase = .initializing ∧ s₁.stash = s.stash ∧
      ChildrenGrow s.children s₁.children ∧ HasUnitsFor s₁.children (items.map (·.id)) ∧
      listSnapshot u k items w = s.stash.items.foldl (fun w m => handleReady u k m w)
        (put u k w₁ { s₁ with phase := .ready, stash := { s.stash with items := [] } }) := by
  unfold listSnapshot
  simp only [hs, hinit, ne_eq, not_true_eq_false, if_false]
  -- the poll timer is cancelled, then a unit is started for each record listed
  generalize hw₂ : List.foldl _ _ items = w₂
  obtain ⟨cs, hgrow, hunits, s₁, hs₁, hres⟩ : ∃ cs, ChildrenGrow s.children cs ∧
      HasUnitsFor cs ([] ++ items.map (·.id)) ∧
      w₂.HoldsSup u k { s with pollTimer := none, children := cs } := by
    split at hw₂ <;> subst hw₂
    case' h_1 =>
      rename_i n _
      have hw₀ := holdsSup_modify ((HoldsSup.of_sup? hs).abortTimer n)
        (fun s => { s with pollTimer := none }) (fun _ _ => rfl)
    case' h_2 =>
      rename_i hnone
      have hkeep : { s with pollTimer := none } = s := by rw [← hnone]
      have hw₀ : w.HoldsSup u k { s with pollTimer := none } := by
        rw [hkeep]
        exact .of_sup? hs
    all_goals exact materializeAll items hw₀ (fun _ h => absurd h List.not_mem_nil)
  split
  · rename_i hnone
    exact absurd (hnone.symm.trans hs₁) (Option.some_ne_none _).symm
  rename_i s₂ hs₂
  obtain rfl : s₂ = s₁ := Option.some.inj (hs₂.symm.trans hs₁)
  have hstash : s₂.stash = s.stash := hres.stash
  refine ⟨_, s₂, hs₂, hres.phase.trans hinit, hstash, hres.children ▸ hgrow,
    hres.children ▸ by simpa using hunits, ?_⟩
  simp only [Stash.takeAll, hstash]

theorem listSnapshot_of_not_initializing (hs : w.sup? u k = some s)
    (hp : s.phase ≠ .initializing) (items : List ListItem) : listSnapshot u k items w = w := by
  simp only [listSnapshot, hs, hp, ne_eq, not_false_eq_true, if_true]

/-- An initializing supervisor becomes ready on a message exactly when it is an answer of the
listing, and stays initializing on any other. -/
theorem handle_ready_iff (hs : w.sup? u k = some s) (hinit : s.phase = .initializing)
    (m : SupMsg k) :
    ∃ t, (handle u k m w).2.sup? u k = some t ∧
      (t.phase = .ready ↔ ∃ n items, m = .listSnapshot n items) ∧
      (t.phase ≠ .ready → t.phase = .initializing) := by
  obtain ⟨t, ht, hmove, -, -⟩ := handle_step hs m
  -- an answer makes it ready
  have hanswer : (∃ n items, m = .listSnapshot n items) → t.phase = .ready := by
    rintro ⟨n, items, rfl⟩
    obtain ⟨t', ht', hp', -⟩ := listSnapshot_phase (.of_sup? hs) items
    have he : handle u k (.listSnapshot n items) w = (.continue, listSnapshot u k items w) := by
      simp only [handle, hs]
    rw [he] at ht
    rw [ht, Option.some.injEq] at ht'
    rw [ht', hp', if_pos hinit]
  rcases hmove with hkept | ⟨⟨c, -, hcur⟩, -⟩ | ⟨⟨n, items, rfl⟩, -, hready⟩
  · have hi : t.phase = .initializing := hkept.trans hinit
    refine ⟨t, ht, ⟨fun hr => ?_, hanswer⟩, fun _ => hi⟩
    rw [hi] at hr
    cases hr
  · -- no registration attempt is under way once initializing
    simp [isCurrent, hinit] at hcur
  · exact ⟨t, ht, ⟨fun _ => ⟨n, items, rfl⟩, fun _ => hready⟩, fun h => absurd hready h⟩

theorem SupRun.ready_for_good {ok : SupUnit k → SupMsg k → Prop} {w₀ w : World}
    (hrun : SupRun u k ok w₀ w) (h₀ : ∃ s, w₀.sup? u k = some s ∧ s.phase = .ready) :
    ∃ s, w.sup? u k = some s ∧ s.phase = .ready := by
  refine hrun.holds (fun s => s.phase = .ready) (fun m hs hp => ?_)
    (fun hst hp => hst.phase.trans hp) h₀
  obtain ⟨t, ht, hmove, -⟩ := handle_step hs m
  refine ⟨t, ht, ?_⟩
  rcases hmove with hkept | ⟨⟨c, -, hcur⟩, -⟩ | ⟨-, hinit, -⟩
  · exact hkept.trans hp
  · simp [isCurrent, hp] at hcur
  · rw [hp] at hinit
    cases hinit

theorem handle_pollList_of_not_initializing (hs : w.sup? u k = some s)
    (hp : s.phase ≠ .initializing) : handle u k (.signal .pollList) w = (.continue, w) := by
  simp [handle, hs, hp]

/-! ### Polling a listing that does not answer -/

def freshListing (k : EntityType) (config : UnitConfig) (address : Uuid) : Keeper Listing ListMsg :=
  { address := address, core := Core.new (k.stem ++ "-list") config,
    stash := Stash.empty config.stashCapacity }

theorem spawnList_cell (k : EntityType) (config : UnitConfig) :
    (w.spawnList k config).1.unit = w.cells.size ∧
      (w.spawnList k config).2.cell? (w.spawnList k config).1.unit =
        some (.listing k (freshListing k config (w.spawnList k config).1.address)) := by
  refine ⟨rfl, ?_⟩
  simp [World.spawnList, World.alloc, World.addCell, cell?, freshListing]

/-- The supervisor `t` of `w` has just started a new listing in place of its last one, and its
next poll comes after the backoff for its failed polls so far. -/
def Restarted (w : World) (u : UnitRef) (t : SupUnit k) : Prop :=
  ∃ l n, t.list = some l ∧ t.pollTimer = some n ∧
    w.timers[n]? = some { delay := t.config.registrationBackoff.delay t.discoveryFailures.toNat,
                          alarm := .signal u .pollList } ∧
    w.cell? l.unit = some (.listing k (freshListing k t.config.unit l.address))

/-- A failed poll whose count stays within the retries allowed counts itself, starts a new
listing in place of the old one, and polls again after the backoff for the failures so far. -/
theorem discoveryFailed_of_left (h : w.HoldsSup u k s)
    (hleft : ¬s.config.registrationRetries < s.discoveryFailures + 1) :
    (discoveryFailed u k w).1 = .continue ∧ ∃ l n,
      (discoveryFailed u k w).2.HoldsSup u k
        { s with discoveryFailures := s.discoveryFailures + 1, list := some l,
                 pollTimer := some n } ∧
      (discoveryFailed u k w).2.timers[n]? =
        some { delay := s.config.registrationBackoff.delay (s.discoveryFailures + 1).toNat,
               alarm := .signal u .pollList } ∧
      (discoveryFailed u k w).2.cell? l.unit =
        some (.listing k (freshListing k s.config.unit l.address)) := by
  obtain ⟨t, ht, hst⟩ := h
  have hput := holdsSup_put (.of_sup? ht) { t with discoveryFailures := t.discoveryFailures + 1 }
  obtain ⟨hunit, hcell⟩ := spawnList_cell (w := put u k w
    { t with discoveryFailures := t.discoveryFailures + 1 }) k t.config.unit
  have hne : (put u k w { t with discoveryFailures := t.discoveryFailures + 1 }).cells.size ≠ u :=
    Nat.ne_of_gt hput.lt_size
  unfold discoveryFailed
  simp only [ht]
  rw [if_neg (by rw [hst.config, hst.discoveryFailures]; exact hleft)]
  have hsp := hput.spawnList k t.config.unit
  rcases hl : (put u k w { t with discoveryFailures := t.discoveryFailures + 1 }).spawnList k
    t.config.unit with ⟨l, w₁⟩
  rw [hl] at hsp hcell hunit
  dsimp only at hcell hunit ⊢
  refine ⟨rfl, l, w₁.timers.size, ?_, ?_, ?_⟩
  · refine HoldsSup.of_resembles (holdsSup_modify (hsp.schedule _ _) _ (fun _ _ => rfl)) ?_
    rw [hst.eq_with]
    rfl
  · simp [World.schedule, hst.config, hst.discoveryFailures]
  · -- the new listing and the timer are written before the supervisor, at another place
    rw [cell?_modify_ne (hunit ▸ hne), ← hst.config]
    exact hcell

theorem discoveryFailed_of_spent (h : w.HoldsSup u k s)
    (hspent : s.config.registrationRetries < s.discoveryFailures + 1) :
    ∃ w₁, w₁.HoldsSup u k { s with discoveryFailures := s.discoveryFailures + 1 } ∧
      (∀ n : Nat, w₁.slots[n]? = w.slots[n]?) ∧
      discoveryFailed u k w = (.stop, shutdown u k w₁) := by
  obtain ⟨t, ht, hst⟩ := h
  refine ⟨put u k w { t with discoveryFailures := t.discoveryFailures + 1 }, ?_, fun _ => rfl, ?_⟩
  · refine HoldsSup.of_resembles (holdsSup_put (.of_sup? ht) _) ?_
    rw [hst.eq_with]
    rfl
  · unfold discoveryFailed
    simp only [ht]
    rw [if_pos (by rw [hst.config, hst.discoveryFailures]; exact hspent)]

def PollOutcome (w : World) (u : UnitRef) (r : SupUnit k) (o : Flow × World) : Prop :=
  (∃ w₁, w₁.HoldsSup u k r ∧ (∀ n : Nat, w₁.slots[n]? = w.slots[n]?) ∧ o = discoveryFailed u k w₁) ∨
  (o.1 = .continue ∧ ∃ n, o.2.HoldsSup u k { r with pollTimer := some n })

/-- Asking the listing: a listing that is gone or refuses the question fails the poll, and
otherwise the next poll's timer is started. -/
theorem ask_cases {r : SupUnit k} (h : w.HoldsSup u k r) (l : Handle) (p : Nat) (d : Duration) :
    PollOutcome w u r (if !w.isOpen l.unit then discoveryFailed u k w
      else match w.post l.unit (.listing (.idList (.listed u p))) with
        | (false, w) => discoveryFailed u k w
        | (true, w) =>
          let (n, w) := w.schedule d (.signal u .pollList)
          (.continue, modify u k w (fun s => { s with pollTimer := some n }))) := by
  split
  · exact .inl ⟨w, h, fun _ => rfl, rfl⟩
  have hw := h.post l.unit (.listing (.idList (.listed u p)))
  -- the question carries no slot
  have hsl : ∀ n : Nat, (w.post l.unit (.listing (.idList (.listed u p)))).2.slots[n]? =
      w.slots[n]? :=
    fun n => post_slot _ _ (.inl (by simp [Letter.replies, ListMsg.replies]))
  split
  · rename_i w₂ hp
    rw [hp] at hw hsl
    exact .inl ⟨w₂, hw, hsl, rfl⟩
  · rename_i w₂ hp
    rw [hp] at hw
    exact .inr ⟨rfl, w₂.timers.size, holdsSup_modify (hw.schedule _ _) _ (fun _ _ => rfl)⟩

/-- A poll cancels the last poll's timer, counts itself and asks the listing. -/
theorem pollList_cases (h : w.HoldsSup u k s) {l : Handle} (hl : s.list = some l) :
    PollOutcome w u { s with pollTimer := none, poll := s.poll + 1 } (pollList u k w) := by
  obtain ⟨t, ht, hst⟩ := h
  unfold pollList
  simp only [ht, hst.list.trans hl]
  have hres : SupUnit.Resembles { s with pollTimer := none, poll := s.poll + 1 }
      { t with pollTimer := none, poll := t.poll + 1 } := by
    rw [hst.eq_with]
    rfl
  -- the timer of the last poll, if one runs, is cancelled: the supervisor and every slot stay
  split
  case' h_1 =>
    rename_i n _
    have hw₁ := (HoldsSup.of_sup? ht).abortTimer n
    have hsl₁ : ∀ i : Nat, (w.abortTimer n).slots[i]? = w.slots[i]? := fun i => by
      rw [slots_abortTimer]
  case' h_2 =>
    have hw₁ := HoldsSup.of_sup? ht
    have hsl₁ : ∀ i : Nat, w.slots[i]? = w.slots[i]? := fun _ => rfl
  -- then the poll is counted and the listing asked
  all_goals
    rcases ask_cases (holdsSup_modify hw₁
      (fun s => { s with pollTimer := none, poll := t.poll + 1 }) (fun _ _ => rfl)) l (t.poll + 1)
      t.config.listPollInterval with ⟨w₁, hw, hsl, he⟩ | ⟨hc, n, hn⟩
    · refine .inl ⟨w₁, hw.of_resembles hres, fun n => (hsl n).trans ?_, he⟩
      exact (congrArg (fun a => a[n]?) (slots_modify _)).trans (hsl₁ n)
    · exact .inr ⟨hc, n, hn.of_resembles (by rw [hst.eq_with]; rfl)⟩

/-- A supervisor `s` initializing under `cfg`, with a retry limit below the top of its counter,
whose listing has not answered: it has a listing, and at most as many failed polls as the
retries allow. -/
structure Undiscovered (cfg : SupervisorConfig) (s : SupUnit k) : Prop where
  phase : s.phase = .initializing
  config : s.config = cfg
  listed : s.list.isSome
  within : s.discoveryFailures.toNat ≤ cfg.registrationRetries.toNat
  fits : cfg.registrationRetries.toNat < 4294967295

variable {cfg : SupervisorConfig}

theorem Undiscovered.of_resembles {t : SupUnit k} (h : Undiscovered cfg s) (hr : s.Resembles t) :
    Undiscovered cfg t where
  phase := hr.phase.trans h.phase
  config := hr.config.trans h.config
  listed := by rw [hr.list]; exact h.listed
  within := by rw [hr.discoveryFailures]; exact h.within
  fits := h.fits

/-- A poll while no answer came: the listing is asked and the supervisor carries on as it was,
or the poll fails, and then the listing is restarted, with one failure more, or, when that
failure is one beyond the retries allowed, the supervisor stops. -/
theorem Undiscovered.poll (h : Undiscovered cfg s) (hw : w.HoldsSup u k s) :
    (s.discoveryFailures = cfg.registrationRetries ∧ ∃ w₁,
      w₁.HoldsSup u k { s with pollTimer := none, poll := s.poll + 1,
                               discoveryFailures := cfg.registrationRetries + 1 } ∧
      (∀ n : Nat, w₁.slots[n]? = w.slots[n]?) ∧ pollList u k w = (.stop, shutdown u k w₁)) ∨
    ((pollList u k w).1 = .continue ∧ ∃ t, (pollList u k w).2.sup? u k = some t ∧
      Undiscovered cfg t ∧ (t.discoveryFailures = s.discoveryFailures ∨
        t.discoveryFailures = s.discoveryFailures + 1 ∧ Restarted (pollList u k w).2 u t)) := by
  obtain ⟨l, hl⟩ := Option.isSome_iff_exists.mp h.listed
  rcases pollList_cases hw hl with ⟨w₁, hw₁, hsl, he⟩ | ⟨hc, n, t, ht, hst⟩
  · rw [he]
    have hfits := h.fits
    by_cases hleft : s.discoveryFailures.toNat < cfg.registrationRetries.toNat
    · -- a retry is left: a new listing
      obtain ⟨hc, l', n, ⟨t, ht, hst⟩, htimer, hcell⟩ := discoveryFailed_of_left hw₁
        (by rw [h.config]; exact not_lt_succ_of_toNat_lt hleft)
      have hinv : Undiscovered cfg
          { s with pollTimer := some n, poll := s.poll + 1,
                   discoveryFailures := s.discoveryFailures + 1, list := some l' } :=
        ⟨h.phase, h.config, rfl, by dsimp only; rw [toNat_succ_of_lt (by omega)]; omega, hfits⟩
      refine .inr ⟨hc, t, ht, hinv.of_resembles hst, .inr ⟨hst.discoveryFailures, l', n, hst.list,
        hst.pollTimer, ?_, ?_⟩⟩
      · rw [hst.config, hst.discoveryFailures]
        exact htimer
      · rw [hst.config]
        exact hcell
    · -- the failure beyond the retries allowed
      have hlast : s.discoveryFailures = cfg.registrationRetries :=
        UInt32.toNat_inj.mp (Nat.le_antisymm h.within (Nat.not_lt.mp hleft))
      obtain ⟨w₂, hw₂, hsl₂, hstop⟩ := discoveryFailed_of_spent hw₁
        (by rw [h.config, hlast]; exact lt_succ_of_toNat_le (Nat.le_refl _) hfits)
      refine .inl ⟨hlast, w₂, ?_, fun n => (hsl₂ n).trans (hsl n), hstop⟩
      rw [← hlast]
      exact hw₂
  · have hinv : Undiscovered cfg { s with pollTimer := some n, poll := s.poll + 1 } :=
      ⟨h.phase, h.config, h.listed, h.within, h.fits⟩
    exact .inr ⟨hc, t, ht, hinv.of_resembles hst, .inl hst.discoveryFailures⟩

/-- What an initializing supervisor does with a message: it takes the listing's answer, polls on
a poll signal, stops when told, and otherwise at most sets the message aside or notes a new
registry. -/
theorem handle_initializing (hs : w.sup? u k = some s) (hp : s.phase = .initializing)
    (m : SupMsg k) :
    (∃ n items, m = .listSnapshot n items) ∨
    (m = .signal .pollList ∧ handle u k m w = pollList u k w) ∨
    (m = .stop ∧ handle u k m w = (.stop, shutdown u k w)) ∨
    ((handle u k m w).1 = .continue ∧ ∃ st reg,
      (handle u k m w).2.HoldsSup u k { s with stash := st, registry := reg }) := by
  have hnreg : s.phase ≠ .registering := by rw [hp]; decide
  -- no registration attempt is under way
  have hstale : ∀ c, isCurrent k s c = false := fun c => by simp [isCurrent, hp]
  cases m with
  | registryReady d =>
    -- a supervisor past registering only renews its entry
    refine .inr (.inr (.inr ?_))
    simp only [handle, registryReady, hs, hnreg, ↓reduceIte]
    exact ⟨trivial, s.stash, some d, (holdsSup_put (.of_sup? hs) _).tellRegistry _ _⟩
  | registered c b =>
    refine .inr (.inr (.inr ?_))
    rw [(handle_stale hs (hstale c) b).1]
    exact ⟨rfl, s.stash, s.registry, .of_sup? hs⟩
  | signal sig =>
    cases sig with
    | registrationTimeout c =>
      refine .inr (.inr (.inr ?_))
      rw [(handle_stale hs (hstale c) true).2]
      exact ⟨rfl, s.stash, s.registry, .of_sup? hs⟩
    | retryRegistration =>
      refine .inr (.inr (.inr ?_))
      simp only [handle, hs, hnreg, ↓reduceIte]
      exact ⟨trivial, s.stash, s.registry, .of_sup? hs⟩
    | pollList => exact .inr (.inl ⟨rfl, by simp [handle, hs, hp]⟩)
  | listSnapshot n items => exact .inl ⟨n, items, rfl⟩
  | status r =>
    refine .inr (.inr (.inr ?_))
    simp only [handle, hs]
    exact ⟨trivial, s.stash, s.registry, (HoldsSup.of_sup? hs).deliver _ _⟩
  | stop => exact .inr (.inr (.inl ⟨rfl, by simp only [handle, hs]⟩))
  | _ =>
    -- commands and reads wait until the supervisor is ready
    have hready : s.phase ≠ .ready := by rw [hp]; decide
    refine .inr (.inr (.inr ?_))
    simp only [handle, hs, hready, ne_eq, not_false_eq_true, if_true]
    obtain ⟨st, hst⟩ := park_sup hs _
    exact ⟨trivial, st, s.registry, hst⟩

def Unanswered (_ : SupUnit k) (m : SupMsg k) : Prop := ∀ n items, m ≠ .listSnapshot n items

/-- One message while no answer came: the supervisor stops when told, or on a failed poll one
beyond the retries allowed; otherwise it carries on, still discovering, with the failures it had
or, on a poll that restarted the listing, one more. -/
theorem Undiscovered.step (h : Undiscovered cfg s) (hs : w.sup? u k = some s) {m : SupMsg k}
    (hm : Unanswered s m) :
    (m = .stop ∧ handle u k m w = (.stop, shutdown u k w)) ∨
    (m = .signal .pollList ∧ s.discoveryFailures = cfg.registrationRetries ∧ ∃ w₁,
      w₁.HoldsSup u k { s with pollTimer := none, poll := s.poll + 1,
                               discoveryFailures := cfg.registrationRetries + 1 } ∧
      (∀ n : Nat, w₁.slots[n]? = w.slots[n]?) ∧ handle u k m w = (.stop, shutdown u k w₁)) ∨
    ((handle u k m w).1 = .continue ∧ ∃ t, (handle u k m w).2.sup? u k = some t ∧
      Undiscovered cfg t ∧ (t.discoveryFailures = s.discoveryFailures ∨
        m = .signal .pollList ∧ t.discoveryFailures = s.discoveryFailures + 1 ∧
          Restarted (handle u k m w).2 u t)) := by
  rcases handle_initializing hs h.phase m with ⟨n, items, rfl⟩ | ⟨rfl, he⟩ | hstop |
    ⟨hc, st, reg, t, ht, hst⟩
  · exact absurd rfl (hm n items)
  · rw [he]
    rcases h.poll (.of_sup? hs) with ⟨hlast, w₁, hw₁, hsl, hstop⟩ | ⟨hc, t, ht, hinv, hcount⟩
    · exact .inr (.inl ⟨rfl, hlast, w₁, hw₁, hsl, hstop⟩)
    · exact .inr (.inr ⟨hc, t, ht, hinv, hcount.imp id fun hr => ⟨rfl, hr⟩⟩)
  · exact .inl hstop
  · have hinv : Undiscovered cfg { s with stash := st, registry := reg } :=
      ⟨h.phase, h.config, h.listed, h.within, h.fits⟩
    exact .inr (.inr ⟨hc, t, ht, hinv.of_resembles hst, .inl hst.discoveryFailures⟩)

/-- Along every run in which the listing never answers, the supervisor keeps discovering: it
has a listing and never more failed polls than the retries allowed. -/
theorem SupRun.undiscovered {w₀ w : World} (hrun : SupRun u k Unanswered w₀ w)
    (h₀ : ∃ s, w₀.sup? u k = some s ∧ Undiscovered cfg s) :
    ∃ s, w.sup? u k = some s ∧ Undiscovered cfg s := by
  induction hrun with
  | start => exact h₀
  | step _ hs hm hc ih =>
    obtain ⟨s, hs', hinv⟩ := ih
    rw [hs] at hs'
    cases hs'
    rcases hinv.step hs hm with ⟨-, he⟩ | ⟨-, -, _, -, -, he⟩ | ⟨-, t, ht, htinv, -⟩
    · rw [he] at hc
      cases hc
    · rw [he] at hc
      cases hc
    · exact ⟨t, ht, htinv⟩
  | other _ hkeep ih =>
    obtain ⟨s, hs, hinv⟩ := ih
    obtain ⟨t, ht, hst⟩ := hkeep s hs
    exact ⟨t, ht, hinv.of_resembles hst⟩

/-! ### A retry limit at the top of the counter -/

theorem discoveryFailed_of_top (h : w.HoldsSup u k s)
    (htop : s.config.registrationRetries = 4294967295) :
    (discoveryFailed u k w).1 = .continue ∧ ∃ l n,
      (discoveryFailed u k w).2.HoldsSup u k
        { s with discoveryFailures := s.discoveryFailures + 1, list := some l,
                 pollTimer := some n } := by
  obtain ⟨hc, l, n, hn, -⟩ := discoveryFailed_of_left h (by rw [htop]; exact not_top_lt _)
  exact ⟨hc, l, n, hn⟩

/-- A supervisor initializing under `cfg`, with a listing and a retry limit at the top of its
counter. -/
structure Endless (cfg : SupervisorConfig) (s : SupUnit k) : Prop where
  phase : s.phase = .initializing
  config : s.config = cfg
  listed : s.list.isSome
  top : cfg.registrationRetries = 4294967295

theorem Endless.of_same {t : SupUnit k} (h : Endless cfg s) (hp : t.phase = s.phase)
    (hc : t.config = s.config) (hl : t.list.isSome) : Endless cfg t :=
  ⟨hp.trans h.phase, hc.trans h.config, hl, h.top⟩

/-- At the top of the counter a supervisor whose listing never answers gives up on no message:
every message but a request to stop leaves it initializing with a listing. -/
theorem Endless.step (h : Endless cfg s) (hs : w.sup? u k = some s) {m : SupMsg k}
    (hm : Unanswered s m) (hstop : m ≠ .stop) :
    (handle u k m w).1 = .continue ∧ ∃ t, (handle u k m w).2.sup? u k = some t ∧ Endless cfg t := by
  obtain ⟨l, hl⟩ := Option.isSome_iff_exists.mp h.listed
  rcases handle_initializing hs h.phase m with ⟨n, items, rfl⟩ | ⟨rfl, he⟩ | ⟨rfl, -⟩ |
    ⟨hc, st, reg, t, ht, hst⟩
  · exact absurd rfl (hm n items)
  · rw [he]
    rcases pollList_cases (.of_sup? hs) hl with ⟨w₁, hw₁, -, he⟩ | ⟨hc, n, t, ht, hst⟩
    · -- the poll failed, and a retry is always left
      rw [he]
      obtain ⟨hc, l', n, t, ht, hst⟩ := discoveryFailed_of_top hw₁ (by rw [h.config]; exact h.top)
      exact ⟨hc, t, ht, h.of_same hst.phase hst.config (by rw [hst.list]; rfl)⟩
    · exact ⟨hc, t, ht, h.of_same hst.phase hst.config (by rw [hst.list]; exact h.listed)⟩
  · exact absurd rfl hstop
  · exact ⟨hc, t, ht, h.of_same hst.phase hst.config (by rw [hst.list]; exact h.listed)⟩

/-- Along every run in which the listing never answers, the supervisor whose retry limit is the
top of its counter keeps discovering. -/
theorem SupRun.endless {w₀ w : World} (hrun : SupRun u k Unanswered w₀ w)
    (h₀ : ∃ s, w₀.sup? u k = some s ∧ Endless cfg s) :
    ∃ s, w.sup? u k = some s ∧ Endless cfg s := by
  induction hrun with
  | start => exact h₀
  | @step w s m _ hs hm hc ih =>
    obtain ⟨s', hs', hinv⟩ := ih
    rw [hs] at hs'
    cases hs'
    -- a request to stop would have ended the run
    have hstop : m ≠ .stop := by
      rintro rfl
      rw [show handle u k .stop w = (.stop, shutdown u k w) by simp only [handle, hs]] at hc
      cases hc
    exact (hinv.step hs hm hstop).2
  | other _ hkeep ih =>
    obtain ⟨s, hs, hinv⟩ := ih
    obtain ⟨t, ht, hst⟩ := hkeep s hs
    exact ⟨t, ht, hinv.of_same hst.phase hst.config (by rw [hst.list]; exact hinv.listed)⟩

/-- The acceptance of the attempt under way starts both read models and polls the listing at
once. -/
theorem accepted_polls (hs : w.sup? u k = some s) {c : Uuid} (hcur : isCurrent k s c = true) :
    ∃ w₁ l a, w₁.HoldsSup u k { s with phase := .initializing, correlation := none,
                                       registrationTimer := none, retryTimer := none,
                                       list := some l, accumulator := some a } ∧
      handle u k (.registered c true) w = pollList u k w₁ := by
  simp only [handle, registered, hs, hcur, Bool.not_true]
  obtain ⟨t, ht, hst⟩ := holdsSup_modify (cancelRegistrationTimers_sup (.of_sup? hs))
    (fun s => { s with correlation := none }) (fun _ _ => rfl)
  unfold startInitializing
  simp only [ht]
  have hput := holdsSup_put (.of_sup? ht) { t with phase := .initializing }
  have hsl := hput.spawnList k t.config.unit
  rcases hl : (put u k (modify u k (cancelRegistrationTimers u k w)
    (fun s => { s with correlation := none })) { t with phase := .initializing }).spawnList k
      t.config.unit with ⟨l, w₂⟩
  rw [hl] at hsl
  have hsa := hsl.spawnAccumulator k (.supervisor u) t.config.accumulatorPullTimeout
    t.config.unit.stashCapacity
  rcases ha : w₂.spawnAccumulator k (.supervisor u) t.config.accumulatorPullTimeout
    t.config.unit.stashCapacity with ⟨a, w₃⟩
  rw [ha] at hsa
  dsimp only
  refine ⟨_, l, a, HoldsSup.of_resembles (holdsSup_modify hsa
    (fun s => { s with list := some l, accumulator := some a }) (fun _ _ => rfl)) ?_, rfl⟩
  rw [hst.eq_with]
  rfl

theorem shutdown_slot_of_holdsSup {r : SupUnit k} (h : w.HoldsSup u k r)
    (hnodup : (r.stash.items.flatMap SupMsg.replies).Nodup) {m : SupMsg k} {n : Nat}
    (hmem : m ∈ r.stash.items) (hn : Reply.slot n ∈ m.replies) (hw : w.slots[n]? = some .waiting)
    {x : SlotState} (hx : x ≠ .waiting)
    (hm : ∀ w' : World, w'.slots[n]? = some .waiting →
      (refuseMsg k m "supervisor stopped" w').slots[n]? = some x) :
    (shutdown u k w).slots[n]? = some x := by
  obtain ⟨t, ht, hrt⟩ := h
  rw [← hrt.stash] at hnodup hmem
  exact shutdown_slot ht hnodup hmem hn hw hx hm

/-- Discovery by the supervisors of kind `k`, whatever the listing does: the first answer makes
a supervisor ready for good, and without one it gives up only after its retries. -/
structure DiscoveryProtocol (k : EntityType) : Prop where
  ready_on_answer : ∀ {w : World} {u : UnitRef} {s : SupUnit k} (m : SupMsg k),
    w.sup? u k = some s → s.phase = .initializing →
    ∃ t, (handle u k m w).2.sup? u k = some t ∧
      (t.phase = .ready ↔ ∃ n items, m = .listSnapshot n items) ∧
      (t.phase ≠ .ready → t.phase = .initializing)
  ready_for_good : ∀ {ok : SupUnit k → SupMsg k → Prop} {u : UnitRef} {w₀ w : World},
    SupRun u k ok w₀ w → (∃ s, w₀.sup? u k = some s ∧ s.phase = .ready) →
    ∃ s, w.sup? u k = some s ∧ s.phase = .ready
  sets_aside : ∀ {w : World} {u : UnitRef} {s : SupUnit k} {m : SupMsg k},
    w.sup? u k = some s → s.phase ≠ .ready → m.parks = true → s.stash.isFull = false →
    handle u k m w =
      (.continue, put u k w { s with stash := { s.stash with items := s.stash.items ++ [m] } })
  units_before_stash : ∀ {w : World} {u : UnitRef} {s : SupUnit k} (n : Nat)
    (items : List ListItem), w.sup? u k = some s → s.phase = .initializing →
    ∃ w₁ s₁, w₁.sup? u k = some s₁ ∧ s₁.phase = .initializing ∧ s₁.stash = s.stash ∧
      ChildrenGrow s.children s₁.children ∧ HasUnitsFor s₁.children (items.map (·.id)) ∧
      handle u k (.listSnapshot n items) w =
        (.continue, s.stash.items.foldl (fun w m => handleReady u k m w)
          (put u k w₁ { s₁ with phase := .ready, stash := { s.stash with items := [] } }))
  later_answers_ignored : ∀ {w : World} {u : UnitRef} {s : SupUnit k} (n : Nat)
    (items : List ListItem), w.sup? u k = some s → s.phase ≠ .initializing →
    handle u k (.listSnapshot n items) w = (.continue, w)
  later_polls_ignored : ∀ {w : World} {u : UnitRef} {s : SupUnit k}, w.sup? u k = some s →
    s.phase ≠ .initializing → handle u k (.signal .pollList) w = (.continue, w)
  polls_on_acceptance : ∀ {w : World} {u : UnitRef} {s : SupUnit k} {c : Uuid},
    w.sup? u k = some s → isCurrent k s c = true →
    ∃ w₁ l a, w₁.HoldsSup u k { s with phase := .initializing, correlation := none,
                                       registrationTimer := none, retryTimer := none,
                                       list := some l, accumulator := some a } ∧
      handle u k (.registered c true) w = pollList u k w₁
  poll : ∀ {cfg : SupervisorConfig} {w : World} {u : UnitRef} {s : SupUnit k},
    Undiscovered cfg s → w.HoldsSup u k s →
    (s.discoveryFailures = cfg.registrationRetries ∧ ∃ w₁,
      w₁.HoldsSup u k { s with pollTimer := none, poll := s.poll + 1,
                               discoveryFailures := cfg.registrationRetries + 1 } ∧
      (∀ n : Nat, w₁.slots[n]? = w.slots[n]?) ∧ pollList u k w = (.stop, shutdown u k w₁)) ∨
    ((pollList u k w).1 = .continue ∧ ∃ t, (pollList u k w).2.sup? u k = some t ∧
      Undiscovered cfg t ∧ (t.discoveryFailures = s.discoveryFailures ∨
        t.discoveryFailures = s.discoveryFailures + 1 ∧ Restarted (pollList u k w).2 u t))
  step : ∀ {cfg : SupervisorConfig} {w : World} {u : UnitRef} {s : SupUnit k} {m : SupMsg k},
    Undiscovered cfg s → w.sup? u k = some s → Unanswered s m →
    (m = .stop ∧ handle u k m w = (.stop, shutdown u k w)) ∨
    (m = .signal .pollList ∧ s.discoveryFailures = cfg.registrationRetries ∧ ∃ w₁,
      w₁.HoldsSup u k { s with pollTimer := none, poll := s.poll + 1,
                               discoveryFailures := cfg.registrationRetries + 1 } ∧
      (∀ n : Nat, w₁.slots[n]? = w.slots[n]?) ∧ handle u k m w = (.stop, shutdown u k w₁)) ∨
    ((handle u k m w).1 = .continue ∧ ∃ t, (handle u k m w).2.sup? u k = some t ∧
      Undiscovered cfg t ∧ (t.discoveryFailures = s.discoveryFailures ∨
        m = .signal .pollList ∧ t.discoveryFailures = s.discoveryFailures + 1 ∧
          Restarted (handle u k m w).2 u t))
  bounded : ∀ {cfg : SupervisorConfig} {u : UnitRef} {w₀ w : World},
    SupRun u k Unanswered w₀ w → (∃ s, w₀.sup? u k = some s ∧ Undiscovered cfg s) →
    ∃ s, w.sup? u k = some s ∧ Undiscovered cfg s
  refuses_execute : ∀ {w : World} {u : UnitRef} {r : SupUnit k} {c : Command k.Rec} {n : Nat},
    w.HoldsSup u k r → (r.stash.items.flatMap SupMsg.replies).Nodup →
    .execute c (.slot n) ∈ r.stash.items → w.slots[n]? = some .waiting →
    (shutdown u k w).slots[n]? = some (.filled (.event (failed k c.commandType c.target c.issuer
      "supervisor stopped" c.payload)))
  refuses_submit : ∀ {w : World} {u : UnitRef} {r : SupUnit k} {e : Envelope} {n : Nat},
    w.HoldsSup u k r → (r.stash.items.flatMap SupMsg.replies).Nodup →
    .submit e (.slot n) ∈ r.stash.items → w.slots[n]? = some .waiting →
    (shutdown u k w).slots[n]? = some (.filled (.event (failed k e.commandType e.id e.issuer
      "supervisor stopped" (e.payload.getD .null))))
  never_gives_up_at_top : ∀ {cfg : SupervisorConfig} {u : UnitRef} {w₀ w : World},
    SupRun u k Unanswered w₀ w → (∃ s, w₀.sup? u k = some s ∧ Endless cfg s) →
    ∃ s, w.sup? u k = some s ∧ Endless cfg s ∧
      ∀ m, Unanswered s m → m ≠ .stop → (handle u k m w).1 = .continue
  counter_wraps : ∀ {w : World} {u : UnitRef} {s : SupUnit k}, w.HoldsSup u k s →
    s.config.registrationRetries = 4294967295 → s.discoveryFailures = 4294967295 →
    (discoveryFailed u k w).1 = .continue ∧ ∃ l n,
      (discoveryFailed u k w).2.HoldsSup u k
        { s with discoveryFailures := 0, list := some l, pollTimer := some n }

theorem discovery_protocol (k : EntityType) : DiscoveryProtocol k where
  ready_on_answer m hs hinit := handle_ready_iff hs hinit m
  ready_for_good hrun h₀ := hrun.ready_for_good h₀
  sets_aside hs hp hm hroom := handle_parks hs hp hm hroom
  units_before_stash n items hs hinit := by
    simp only [handle, hs]
    obtain ⟨w₁, s₁, hs₁, hp₁, hstash, hgrow, hunits, he⟩ :=
      listSnapshot_of_initializing hs hinit items
    exact ⟨w₁, s₁, hs₁, hp₁, hstash, hgrow, hunits, by rw [he]⟩
  later_answers_ignored n items hs hp := by
    simp only [handle, hs, listSnapshot_of_not_initializing hs hp]
  later_polls_ignored hs hp := handle_pollList_of_not_initializing hs hp
  polls_on_acceptance hs hcur := accepted_polls hs hcur
  poll h hw := h.poll hw
  step h hs hm := h.step hs hm
  bounded hrun h₀ := hrun.undiscovered h₀
  refuses_execute h hnodup hmem hw := shutdown_slot_of_holdsSup h hnodup hmem List.mem_cons_self hw
    nofun (fun _ hw' => refuseMsg_execute_slot _ _ hw')
  refuses_submit h hnodup hmem hw := shutdown_slot_of_holdsSup h hnodup hmem List.mem_cons_self hw
    nofun (fun _ hw' => refuseMsg_submit_slot _ _ hw')
  never_gives_up_at_top hrun h₀ := by
    obtain ⟨s, hs, hinv⟩ := hrun.endless h₀
    exact ⟨s, hs, hinv, fun m hm hstop => (hinv.step hs hm hstop).1⟩
  counter_wraps h htop hmax := by
    obtain ⟨hc, l, n, hn⟩ := discoveryFailed_of_top h htop
    rw [hmax, top_add_one] at hn
    exact ⟨hc, l, n, hn⟩

end Supervision

end Chronicle
