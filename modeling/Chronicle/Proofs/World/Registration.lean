import Chronicle.Proofs.World.SupervisorFrame

/-! Registration of a supervisor with its registry, and its 32-bit count of attempts. -/
namespace Chronicle

namespace Supervision

open World

section Counters

theorem toNat_succ_of_lt {a : UInt32} (h : a.toNat < 4294967295) : (a + 1).toNat = a.toNat + 1 := by
  rw [UInt32.toNat_add, UInt32.toNat_one]
  omega

theorem toNat_le_top (a : UInt32) : a.toNat ≤ 4294967295 := by
  have := a.toNat_lt
  omega

@[simp] theorem toNat_top : (4294967295 : UInt32).toNat = 4294967295 := rfl

theorem top_add_one : (4294967295 : UInt32) + 1 = 0 := by decide

theorem not_lt_succ_of_toNat_lt {a b : UInt32} (h : a.toNat < b.toNat) : ¬b < a + 1 := by
  have hb := toNat_le_top b
  rw [UInt32.lt_iff_toNat_lt, toNat_succ_of_lt (by omega)]
  omega

theorem lt_succ_of_toNat_le {a b : UInt32} (h : b.toNat ≤ a.toNat) (ha : a.toNat < 4294967295) :
    b < a + 1 := by
  rw [UInt32.lt_iff_toNat_lt, toNat_succ_of_lt ha]
  omega

theorem not_top_lt (a : UInt32) : ¬(4294967295 : UInt32) < a := by
  have := toNat_le_top a
  rw [UInt32.lt_iff_toNat_lt, toNat_top]
  omega

end Counters

variable {w : World} {u : UnitRef} {k : EntityType} {s : SupUnit k}

theorem registrationFailed_cleared (h : w.HoldsSup u k s) :
    (modify u k (cancelRegistrationTimers u k w) (fun s => { s with correlation := none })).HoldsSup
      u k { s with registrationTimer := none, retryTimer := none, correlation := none } :=
  holdsSup_modify (cancelRegistrationTimers_sup h) _ (fun _ _ => rfl)

theorem registrationFailed_of_spent (h : w.HoldsSup u k s)
    (hspent : s.config.registrationRetries.toNat ≤ s.attempts.toNat - 1) :
    ∃ w₁, w₁.HoldsSup u k { s with registrationTimer := none, retryTimer := none, correlation := none } ∧
      registrationFailed u k w = (.stop, shutdown u k w₁) := by
  obtain ⟨t, ht, hst⟩ := registrationFailed_cleared h
  refine ⟨_, ⟨t, ht, hst⟩, ?_⟩
  unfold registrationFailed
  simp only [ht, hst.attempts, hst.config]
  rw [if_pos hspent]

/-- The failure of an attempt with retries left starts one retry timer, of the backoff for the
number of attempts made. -/
theorem registrationFailed_of_left (h : w.HoldsSup u k s)
    (hleft : s.attempts.toNat - 1 < s.config.registrationRetries.toNat) :
    (registrationFailed u k w).1 = .continue ∧ ∃ n,
      (registrationFailed u k w).2.HoldsSup u k
        { s with registrationTimer := none, retryTimer := some n, correlation := none } ∧
      (registrationFailed u k w).2.timers[n]? =
        some { delay := s.config.registrationBackoff.delay s.attempts.toNat,
               alarm := .signal u .retryRegistration } := by
  obtain ⟨t, ht, hst⟩ := registrationFailed_cleared h
  unfold registrationFailed
  simp only [ht, hst.attempts, hst.config, World.schedule]
  rw [if_neg (Nat.not_le.mpr hleft)]
  refine ⟨rfl, (modify u k (cancelRegistrationTimers u k w)
    (fun s => { s with correlation := none })).timers.size, ?_, by simp⟩
  refine HoldsSup.of_resembles (holdsSup_modify ((HoldsSup.of_sup? ht).schedule _ _) _
    (fun _ _ => rfl)) ?_
  rw [hst.eq_with]
  rfl

/-- An attempt counts itself under a correlation fresh from the world's identifiers and tells the
registry; then it starts the attempt's timeout, or fails at once when the registry cannot be
told. -/
theorem register_of_registry {d : Directory} (h : w.sup? u k = some s) (hd : s.registry = some d) :
    ∃ (corr : Uuid) (w₀ : World) (sent : Bool) (w₁ : World), w.alloc.1 = corr ∧
      w₀.sup? u k = some { s with attempts := s.attempts + 1, correlation := some corr } ∧
      w₀.tellRegistry d (.register k (supervisorRef u k s) (.answered u corr)) = (sent, w₁) ∧
      w₁.HoldsSup u k { s with attempts := s.attempts + 1, correlation := some corr } ∧
      (sent = false → register u k w = registrationFailed u k w₁) ∧
      (sent = true → (register u k w).1 = .continue ∧ ∃ n,
        (register u k w).2.HoldsSup u k
          { s with attempts := s.attempts + 1, correlation := some corr, registrationTimer := some n } ∧
        (register u k w).2.timers[n]? =
          some { delay := s.config.registrationTimeout, alarm := .signal u (.registrationTimeout corr) }) := by
  have hw := (HoldsSup.of_sup? h).alloc
  simp only [register, h]
  split
  · rename_i hnone
    rw [hnone] at hd
    cases hd
  rename_i d' hd'
  rw [hd'] at hd
  cases hd
  rcases ha : w.alloc with ⟨corr, w₀⟩
  rw [ha] at hw
  dsimp only at hw
  have h₀ := sup?_put hw.lt_size { s with attempts := s.attempts + 1, correlation := some corr }
  rcases ht : (put u k w₀ { s with attempts := s.attempts + 1, correlation := some corr }).tellRegistry d
    (.register k (supervisorRef u k s) (.answered u corr)) with ⟨sent, w₁⟩
  have h₁ : w₁.HoldsSup u k { s with attempts := s.attempts + 1, correlation := some corr } := by
    have := (HoldsSup.of_sup? h₀).tellRegistry d (.register k (supervisorRef u k s) (.answered u corr))
    rwa [ht] at this
  refine ⟨corr, _, sent, w₁, rfl, h₀, ht, h₁, ?_, ?_⟩
  · rintro rfl
    rfl
  · rintro rfl
    refine ⟨rfl, w₁.timers.size, ?_, by simp [World.schedule]⟩
    exact holdsSup_modify (h₁.schedule _ _) _ (fun _ _ => rfl)

theorem handle_stale {c : Uuid} (hs : w.sup? u k = some s) (hc : isCurrent k s c = false)
    (b : Bool) :
    handle u k (.registered c b) w = (.continue, w) ∧
      handle u k (.signal (.registrationTimeout c)) w = (.continue, w) := by
  constructor
  · simp [handle, registered, hs, hc]
  · simp [handle, hs, hc]

/-- What a registering supervisor does with each kind of message. -/
theorem handle_registering (hs : w.sup? u k = some s) (hp : s.phase = .registering)
    (m : SupMsg k) :
    (∃ d, m = .registryReady d ∧ handle u k m w = registryReady u k d w) ∨
    (∃ c, m = .registered c true ∧ isCurrent k s c = true ∧
      handle u k m w = startInitializing u k
        (modify u k (cancelRegistrationTimers u k w) (fun s => { s with correlation := none }))) ∨
    ((∃ c, (m = .registered c false ∨ m = .signal (.registrationTimeout c)) ∧
      isCurrent k s c = true) ∧ handle u k m w = registrationFailed u k w) ∨
    (m = .signal .retryRegistration ∧ handle u k m w = register u k w) ∨
    (m = .stop ∧ handle u k m w = (.stop, shutdown u k w)) ∨
    ((handle u k m w).1 = .continue ∧ ∃ st, (handle u k m w).2.HoldsSup u k { s with stash := st }) := by
  -- the messages that leave the registration alone
  have hkept : ∀ w', handle u k m w = (.continue, w') → w'.HoldsSup u k s →
      (handle u k m w).1 = .continue ∧
        ∃ st, (handle u k m w).2.HoldsSup u k { s with stash := st } := by
    intro w' he hw'
    rw [he]
    exact ⟨rfl, s.stash, hw'⟩
  cases m with
  | registryReady d => exact .inl ⟨d, rfl, by simp only [handle, hs]⟩
  | registered c b =>
    cases hc : isCurrent k s c
    · exact .inr (.inr (.inr (.inr (.inr (hkept w (handle_stale hs hc b).1 (.of_sup? hs))))))
    · cases b
      · exact .inr (.inr (.inl ⟨⟨c, .inl rfl, hc⟩, by simp [handle, registered, hs, hc]⟩))
      · exact .inr (.inl ⟨c, rfl, hc, by simp [handle, registered, hs, hc]⟩)
  | signal sig =>
    cases sig with
    | registrationTimeout c =>
      cases hc : isCurrent k s c
      · exact .inr (.inr (.inr (.inr (.inr (hkept w (handle_stale hs hc true).2 (.of_sup? hs))))))
      · exact .inr (.inr (.inl ⟨⟨c, .inr rfl, hc⟩, by simp [handle, hs, hc]⟩))
    | retryRegistration => exact .inr (.inr (.inr (.inl ⟨rfl, by simp [handle, hs, hp]⟩)))
    | pollList =>
      exact .inr (.inr (.inr (.inr (.inr (hkept w (by simp [handle, hs, hp]) (.of_sup? hs))))))
  | listSnapshot n items =>
    exact .inr (.inr (.inr (.inr (.inr (hkept w (by simp [handle, listSnapshot, hs, hp])
      (.of_sup? hs))))))
  | status r =>
    have he : handle u k (.status r) w = (.continue, (w.deliver r (.supStatus ⟨k, s.phase, s.attempts.toNat,
        s.children.map (·.1), s.stash.size⟩)).2) := by
      simp only [handle, hs]
    exact .inr (.inr (.inr (.inr (.inr (hkept _ he ((HoldsSup.of_sup? hs).deliver _ _))))))
  | stop => exact .inr (.inr (.inr (.inr (.inl ⟨rfl, by simp only [handle, hs]⟩))))
  | _ =>
    -- commands and reads wait in the stash until the supervisor is ready
    have hready : s.phase ≠ .ready := by rw [hp]; decide
    refine .inr (.inr (.inr (.inr (.inr ⟨by simp [handle, hs, hready], ?_⟩))))
    simp only [handle, hs, hready, ne_eq, not_false_eq_true, if_true]
    exact park_sup hs _

theorem registryReady_of_registering (hs : w.sup? u k = some s) (hp : s.phase = .registering)
    (d : Directory) :
    ∃ w₀, w₀.sup? u k = some { s with registry := some d, attempts := 0, registrationTimer := none,
                                      retryTimer := none } ∧
      handle u k (.registryReady d) w = register u k w₀ := by
  have hput := sup?_put (lt_size_of_cell? (sup?_eq_some.mp hs)) { s with registry := some d }
  refine ⟨_, sup?_modify (sup?_cancelRegistrationTimers hput) (fun s => { s with attempts := 0 }), ?_⟩
  simp only [handle, registryReady, hs, hp, if_true]

/-- A supervisor registering with `d` after one announcement and no acceptance has made between
one and `registrationRetries + 1` attempts, each one request to the registry. -/
structure Unregistered (cfg : SupervisorConfig) (d : Directory) (s : SupUnit k) : Prop where
  phase : s.phase = .registering
  registry : s.registry = some d
  config : s.config = cfg
  made : 1 ≤ s.attempts.toNat
  bounded : s.attempts.toNat ≤ cfg.registrationRetries.toNat + 1
  waiting : s.correlation = none → s.attempts.toNat ≤ cfg.registrationRetries.toNat
  fits : cfg.registrationRetries.toNat < 4294967295

variable {cfg : SupervisorConfig} {d : Directory}

theorem Unregistered.of_resembles {t : SupUnit k} (h : Unregistered cfg d s) (hr : s.Resembles t) :
    Unregistered cfg d t where
  phase := hr.phase.trans h.phase
  registry := hr.registry.trans h.registry
  config := hr.config.trans h.config
  made := hr.attempts ▸ h.made
  bounded := hr.attempts ▸ h.bounded
  waiting hc := hr.attempts ▸ h.waiting (hr.correlation ▸ hc)
  fits := h.fits

theorem Unregistered.holds (h : Unregistered cfg d s) (hw : w.HoldsSup u k s) :
    ∃ t, w.sup? u k = some t ∧ Unregistered cfg d t := by
  obtain ⟨t, ht, hst⟩ := hw
  exact ⟨t, ht, h.of_resembles hst⟩

/-- A failed attempt either ends registration, when it was the last one allowed, or leaves
the supervisor waiting to retry with as many attempts made. -/
theorem Unregistered.failed (h : Unregistered cfg d s) (hw : w.HoldsSup u k s) :
    (∃ w₁, w₁.HoldsSup u k { s with attempts := cfg.registrationRetries + 1, registrationTimer := none,
                                    retryTimer := none, correlation := none } ∧
      registrationFailed u k w = (.stop, shutdown u k w₁)) ∨
    ((registrationFailed u k w).1 = .continue ∧ ∃ t, (registrationFailed u k w).2.sup? u k = some t ∧
      Unregistered cfg d t ∧ t.attempts = s.attempts ∧ t.correlation = none) := by
  by_cases hspent : s.config.registrationRetries.toNat ≤ s.attempts.toNat - 1
  · have hlast : s.attempts = cfg.registrationRetries + 1 := by
      have hmade := h.made
      have hbounded := h.bounded
      rw [h.config] at hspent
      apply UInt32.toNat_inj.mp
      rw [toNat_succ_of_lt h.fits]
      omega
    obtain ⟨w₁, hw₁, he⟩ := registrationFailed_of_spent hw hspent
    refine .inl ⟨w₁, ?_, he⟩
    rw [← hlast]
    exact hw₁
  · obtain ⟨hc, n, hn, -⟩ := registrationFailed_of_left hw (by omega)
    obtain ⟨t, ht, hst⟩ := hn
    have hleft : Unregistered cfg d
        { s with registrationTimer := none, retryTimer := some n, correlation := none } := by
      refine ⟨h.phase, h.registry, h.config, h.made, h.bounded, fun _ => ?_, h.fits⟩
      dsimp only
      rw [h.config] at hspent
      have hmade := h.made
      omega
    exact .inr ⟨hc, t, ht, hleft.of_resembles hst, hst.attempts, hst.correlation⟩

/-- An attempt made with a retry left: it is counted, and it either ends registration at once,
when the registry cannot be told and it was the last one allowed, or leaves the supervisor
registering with one attempt more. -/
theorem attempt_outcome (hs : w.sup? u k = some s) (hp : s.phase = .registering)
    (hd : s.registry = some d) (hcfg : s.config = cfg)
    (hn : s.attempts.toNat ≤ cfg.registrationRetries.toNat)
    (hfits : cfg.registrationRetries.toNat < 4294967295) :
    (∃ w₁, w₁.HoldsSup u k { s with attempts := cfg.registrationRetries + 1, registrationTimer := none,
                                    retryTimer := none, correlation := none } ∧
      register u k w = (.stop, shutdown u k w₁)) ∨
    ((register u k w).1 = .continue ∧ ∃ t, (register u k w).2.sup? u k = some t ∧
      Unregistered cfg d t ∧ t.attempts = s.attempts + 1) := by
  obtain ⟨corr, -, sent, w₁, -, -, -, h₁, hfalse, htrue⟩ := register_of_registry hs hd
  -- an attempt under way, one more than before, and the count does not wrap
  have hsucc : (s.attempts + 1).toNat = s.attempts.toNat + 1 := toNat_succ_of_lt (by omega)
  have hmade : ∀ n, Unregistered cfg d
      { s with attempts := s.attempts + 1, correlation := some corr, registrationTimer := n } :=
    fun _ => ⟨hp, hd, hcfg, by dsimp only; omega, by dsimp only; omega, nofun, hfits⟩
  have hinv : Unregistered cfg d { s with attempts := s.attempts + 1, correlation := some corr } :=
    hmade s.registrationTimer
  cases sent with
  | false =>
    rw [hfalse rfl]
    rcases hinv.failed h₁ with ⟨w₂, hw₂, he⟩ | ⟨hc, t, ht, htinv, hta, -⟩
    · exact .inl ⟨w₂, hw₂, he⟩
    · exact .inr ⟨hc, t, ht, htinv, hta⟩
  | true =>
    obtain ⟨hc, n, hn, -⟩ := htrue rfl
    obtain ⟨t, ht, hst⟩ := hn
    exact .inr ⟨hc, t, ht, (hmade (some n)).of_resembles hst, hst.attempts⟩

/-- The messages a supervisor `s` may be handed while it registers and no attempt of it is
accepted. -/
def Unaccepted (s : SupUnit k) : SupMsg k → Prop
  | .registryReady _ => False
  | .registered c b => isCurrent k s c = true → b = false
  | .signal .retryRegistration => s.correlation = none
  | _ => True

/-- The worlds reached from `w₀` while the supervisor at `u` handles messages that `ok` admits
and carries on, and whatever else runs in the world in between leaves the supervisor but for its
inbox and its task's standing. -/
inductive SupRun (u : UnitRef) (k : EntityType) (ok : SupUnit k → SupMsg k → Prop) (w₀ : World) :
    World → Prop
  | start : SupRun u k ok w₀ w₀
  | step {w : World} {s : SupUnit k} {m : SupMsg k} : SupRun u k ok w₀ w → w.sup? u k = some s →
      ok s m → (handle u k m w).1 = .continue → SupRun u k ok w₀ (handle u k m w).2
  | other {w w' : World} : SupRun u k ok w₀ w →
      (∀ s, w.sup? u k = some s → w'.HoldsSup u k s) → SupRun u k ok w₀ w'

/-- Handling an unaccepted message either keeps the supervisor registering under the invariant,
with at most one attempt more, or stops it: told to, or failing its last attempt allowed, which
it does with exactly `registrationRetries + 1` attempts made and the rest of it as it was. -/
theorem Unregistered.step (h : Unregistered cfg d s) (hs : w.sup? u k = some s)
    (hm : Unaccepted s m) :
    (m = .stop ∧ handle u k m w = (.stop, shutdown u k w)) ∨
    (∃ w₁, w₁.HoldsSup u k { s with attempts := cfg.registrationRetries + 1, registrationTimer := none,
                                    retryTimer := none, correlation := none } ∧
      handle u k m w = (.stop, shutdown u k w₁)) ∨
    ((handle u k m w).1 = .continue ∧ ∃ t, (handle u k m w).2.sup? u k = some t ∧
      Unregistered cfg d t ∧ t.attempts.toNat ≤ s.attempts.toNat + 1) := by
  rcases handle_registering hs h.phase m with ⟨_, rfl, -⟩ | ⟨c, rfl, hcur, -⟩ | ⟨-, he⟩ |
    ⟨rfl, he⟩ | hstop | ⟨hc, st, hst⟩
  · exact hm.elim
  · exact absurd (hm hcur) (by decide)
  · -- the attempt under way failed
    rw [he]
    rcases h.failed (.of_sup? hs) with ⟨w₁, hw₁, hstop⟩ | ⟨hc, t, ht, htinv, hta, -⟩
    · exact .inr (.inl ⟨w₁, hw₁, hstop⟩)
    · exact .inr (.inr ⟨hc, t, ht, htinv, by rw [hta]; omega⟩)
  · -- the retry it waited for
    rw [he]
    have hn := h.waiting hm
    rcases attempt_outcome hs h.phase h.registry h.config hn h.fits with
      ⟨w₁, hw₁, hstop⟩ | ⟨hc, t, ht, htinv, hta⟩
    · exact .inr (.inl ⟨w₁, hw₁, hstop⟩)
    · have hfits := h.fits
      exact .inr (.inr ⟨hc, t, ht, htinv, Nat.le_of_eq (by rw [hta, toNat_succ_of_lt (by omega)])⟩)
  · exact .inl hstop
  · -- set aside, answered, or ignored
    obtain ⟨t, ht, hst'⟩ := hst
    have hkept : Unregistered cfg d { s with stash := st } :=
      ⟨h.phase, h.registry, h.config, h.made, h.bounded, h.waiting, h.fits⟩
    exact .inr (.inr ⟨hc, t, ht, hkept.of_resembles hst', by rw [hst'.attempts]; exact Nat.le_succ _⟩)

theorem unregistered_of_announced (hs : w.sup? u k = some s) (hp : s.phase = .registering)
    (d : Directory) (hfits : s.config.registrationRetries.toNat < 4294967295)
    (hc : (handle u k (.registryReady d) w).1 = .continue) :
    ∃ t, (handle u k (.registryReady d) w).2.sup? u k = some t ∧ Unregistered s.config d t ∧
      t.attempts = 1 := by
  obtain ⟨w₀, h₀, he⟩ := registryReady_of_registering hs hp d
  rw [he] at hc ⊢
  rcases attempt_outcome h₀ hp rfl rfl (Nat.zero_le _) hfits with
    ⟨w₁, -, hstop⟩ | ⟨-, t, ht, htinv, hta⟩
  · rw [hstop] at hc
    cases hc
  · exact ⟨t, ht, htinv, hta⟩

/-- Along every unaccepted run from the announcement the supervisor keeps registering with the
registry announced: it never makes more attempts than one plus the retries allowed. -/
theorem SupRun.unregistered {w₀ w : World} (hrun : SupRun u k Unaccepted w₀ w)
    (h₀ : ∃ s, w₀.sup? u k = some s ∧ Unregistered cfg d s) :
    ∃ s, w.sup? u k = some s ∧ Unregistered cfg d s := by
  induction hrun with
  | start => exact h₀
  | step _ hs hm hc ih =>
    obtain ⟨s, hs', hinv⟩ := ih
    rw [hs] at hs'
    cases hs'
    rcases hinv.step hs hm with ⟨-, he⟩ | ⟨_, -, he⟩ | ⟨-, t, ht, htinv, -⟩
    · rw [he] at hc
      cases hc
    · rw [he] at hc
      cases hc
    · exact ⟨t, ht, htinv⟩
  | other _ hkeep ih =>
    obtain ⟨s, hs, hinv⟩ := ih
    exact hinv.holds (hkeep s hs)

/-! ### A retry limit at the top of the counter -/

theorem registrationFailed_of_top (h : w.HoldsSup u k s)
    (htop : s.config.registrationRetries = 4294967295) :
    (registrationFailed u k w).1 = .continue ∧ ∃ n, (registrationFailed u k w).2.HoldsSup u k
      { s with registrationTimer := none, retryTimer := some n, correlation := none } := by
  have hle := toNat_le_top s.attempts
  obtain ⟨hc, n, hn, -⟩ := registrationFailed_of_left h (by rw [htop, toNat_top]; omega)
  exact ⟨hc, n, hn⟩

theorem register_of_top {d : Directory} (hs : w.sup? u k = some s) (hd : s.registry = some d)
    (htop : s.config.registrationRetries = 4294967295) :
    (register u k w).1 = .continue ∧ ∃ t, (register u k w).2.sup? u k = some t ∧
      t.phase = s.phase ∧ t.registry = s.registry ∧ t.config = s.config ∧
      t.attempts = s.attempts + 1 := by
  obtain ⟨corr, -, sent, w₁, -, -, -, h₁, hfalse, htrue⟩ := register_of_registry hs hd
  cases sent with
  | false =>
    rw [hfalse rfl]
    obtain ⟨hc, n, t, ht, hst⟩ := registrationFailed_of_top h₁ htop
    exact ⟨hc, t, ht, hst.phase, hst.registry, hst.config, hst.attempts⟩
  | true =>
    obtain ⟨hc, n, ⟨t, ht, hst⟩, -⟩ := htrue rfl
    exact ⟨hc, t, ht, hst.phase, hst.registry, hst.config, hst.attempts⟩

/-- A supervisor registering with `d` under `cfg` whose retry limit is the top of its
counter. -/
structure Unending (cfg : SupervisorConfig) (d : Directory) (s : SupUnit k) : Prop where
  phase : s.phase = .registering
  registry : s.registry = some d
  config : s.config = cfg
  top : cfg.registrationRetries = 4294967295

theorem Unending.of_same {t : SupUnit k} (h : Unending cfg d s) (hp : t.phase = s.phase)
    (hr : t.registry = s.registry) (hc : t.config = s.config) : Unending cfg d t :=
  ⟨hp.trans h.phase, hr.trans h.registry, hc.trans h.config, h.top⟩

/-- At the top of the counter a registering supervisor gives up on no message: every unaccepted
message but a request to stop leaves it registering with the same registry. -/
theorem Unending.step (h : Unending cfg d s) (hs : w.sup? u k = some s) {m : SupMsg k}
    (hm : Unaccepted s m) (hstop : m ≠ .stop) :
    (handle u k m w).1 = .continue ∧ ∃ t, (handle u k m w).2.sup? u k = some t ∧ Unending cfg d t := by
  have htop : s.config.registrationRetries = 4294967295 := by rw [h.config]; exact h.top
  rcases handle_registering hs h.phase m with ⟨_, rfl, -⟩ | ⟨c, rfl, hcur, -⟩ | ⟨-, he⟩ |
    ⟨rfl, he⟩ | ⟨rfl, -⟩ | ⟨hc, st, t, ht, hst⟩
  · exact hm.elim
  · exact absurd (hm hcur) (by decide)
  · -- the attempt under way failed, and a retry is always left
    rw [he]
    obtain ⟨hc, n, t, ht, hst⟩ := registrationFailed_of_top (.of_sup? hs) htop
    exact ⟨hc, t, ht, h.of_same hst.phase hst.registry hst.config⟩
  · rw [he]
    obtain ⟨hc, t, ht, hp, hr, hcfg, -⟩ := register_of_top hs h.registry htop
    exact ⟨hc, t, ht, h.of_same hp hr hcfg⟩
  · exact absurd rfl hstop
  · exact ⟨hc, t, ht, h.of_same hst.phase hst.registry hst.config⟩

theorem unending_of_announced (hs : w.sup? u k = some s) (hp : s.phase = .registering)
    (d : Directory) (htop : s.config.registrationRetries = 4294967295) :
    (handle u k (.registryReady d) w).1 = .continue ∧
      ∃ t, (handle u k (.registryReady d) w).2.sup? u k = some t ∧ Unending s.config d t := by
  obtain ⟨w₀, h₀, he⟩ := registryReady_of_registering hs hp d
  rw [he]
  obtain ⟨hc, t, ht, hp', hr, hcfg, -⟩ := register_of_top h₀ rfl htop
  exact ⟨hc, t, ht, ⟨hp'.trans hp, hr, hcfg, htop⟩⟩

/-- Along every unaccepted run the supervisor whose retry limit is the top of its counter
keeps registering with the registry announced. -/
theorem SupRun.unending {w₀ w : World} (hrun : SupRun u k Unaccepted w₀ w)
    (h₀ : ∃ s, w₀.sup? u k = some s ∧ Unending cfg d s) :
    ∃ s, w.sup? u k = some s ∧ Unending cfg d s := by
  induction hrun with
  | start => exact h₀
  | @step w s m _ hs hm hc ih =>
    obtain ⟨s', hs', hinv⟩ := ih
    rw [hs] at hs'
    cases hs'
    -- a request to stop would have ended the run
    have hstop : m ≠ .stop := by
      rintro rfl
      rw [show handle u k .stop w = (.stop, shutdown u k w) by simp only [handle, hs]] at hc
      cases hc
    exact (hinv.step hs hm hstop).2
  | other _ hkeep ih =>
    obtain ⟨s, hs, hinv⟩ := ih
    obtain ⟨t, ht, hst⟩ := hkeep s hs
    exact ⟨t, ht, hinv.of_same hst.phase hst.registry hst.config⟩

def ownTimer (s : SupUnit k) : SupMsg k :=
  match s.correlation with
  | some c => .signal (.registrationTimeout c)
  | none => .signal .retryRegistration

def timersLeft (cfg : SupervisorConfig) (s : SupUnit k) : Nat :=
  2 * (cfg.registrationRetries.toNat + 1 - s.attempts.toNat) +
    (if s.correlation.isSome then 1 else 0)

/-- What the supervisor's own timers deliver next either stops it or leaves it with fewer
timers to hear, so it gives up after at most `2 * registrationRetries + 1` of them. -/
theorem Unregistered.ownTimer_progress (h : Unregistered cfg d s) (hs : w.sup? u k = some s) :
    Unaccepted s (ownTimer s) ∧ ((handle u k (ownTimer s) w).1 = .stop ∨
      ∃ t, (handle u k (ownTimer s) w).2.sup? u k = some t ∧ Unregistered cfg d t ∧
        timersLeft cfg t < timersLeft cfg s) := by
  cases hc : s.correlation with
  | some c =>
    have hcur : isCurrent k s c = true := by simp [isCurrent, h.phase, hc]
    have he : handle u k (ownTimer s) w = registrationFailed u k w := by
      simp [Chronicle.Supervision.ownTimer, hc, handle, hs, hcur]
    refine ⟨by simp [Chronicle.Supervision.ownTimer, hc, Unaccepted], ?_⟩
    rw [he]
    rcases h.failed (.of_sup? hs) with ⟨w₁, -, hstop⟩ | ⟨-, t, ht, htinv, hta, htc⟩
    · exact .inl (by rw [hstop])
    · refine .inr ⟨t, ht, htinv, ?_⟩
      simp only [timersLeft, hta, htc, hc, Option.isSome_none, Option.isSome_some,
        Bool.false_eq_true, if_false, if_true]
      omega
  | none =>
    have he : handle u k (ownTimer s) w = register u k w := by
      simp [Chronicle.Supervision.ownTimer, hc, handle, hs, h.phase]
    refine ⟨by simp [Chronicle.Supervision.ownTimer, hc, Unaccepted], ?_⟩
    rw [he]
    have hn := h.waiting hc
    have hfits := h.fits
    rcases attempt_outcome hs h.phase h.registry h.config hn hfits with ⟨w₁, -, hstop⟩ |
      ⟨-, t, ht, htinv, hta⟩
    · exact .inl (by rw [hstop])
    · refine .inr ⟨t, ht, htinv, ?_⟩
      have hbound := htinv.bounded
      simp only [timersLeft, hta, toNat_succ_of_lt (a := s.attempts) (by omega), hc,
        Option.isSome_none] at hbound ⊢
      split <;> omega

end Supervision

end Chronicle
