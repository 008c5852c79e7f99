import Chronicle.Proofs.World.AccumulatorSteps

/-! The handoff of an accumulator from gathering its children to serving. -/
namespace Chronicle

namespace AccUnit

open World

variable {w : World} {u : UnitRef} {a : AccUnit}

/-! ### The entries a ready accumulator builds -/

section Entries

variable {k : EntityType} {E : List (Uuid × Option Json)}

theorem absorb_of_waits_false {m : AccMsg} (hm : m.waits = false) (E : List (Uuid × Option Json)) :
    absorb k E m = E := by
  cases m <;> simp_all [AccMsg.waits, absorb, AccMsg.news?]

theorem foldl_absorb_filter (ms : List AccMsg) (E : List (Uuid × Option Json)) :
    (ms.filter AccMsg.waits).foldl (absorb k) E = ms.foldl (absorb k) E := by
  induction ms generalizing E with
  | nil => rfl
  | cons m ms ih =>
    cases hm : m.waits
    · simp [hm, ih, absorb_of_waits_false hm]
    · simp [hm, ih]

theorem sorted_absorb (h : Keyed.Sorted E) (m : AccMsg) : Keyed.Sorted (absorb k E m) := by
  unfold absorb
  split
  · exact Keyed.sorted_insert h
  · exact h

theorem sorted_foldl_absorb (h : Keyed.Sorted E) (ms : List AccMsg) :
    Keyed.Sorted (ms.foldl (absorb k) E) := by
  induction ms generalizing E with
  | nil => exact h
  | cons m ms ih => exact ih (sorted_absorb h m)

/-- After handling `ms` once ready, a record's entry is the one the last event about it
reported, or the one it had before when no event is about it. -/
theorem get?_foldl_absorb (ms : List AccMsg) (E : List (Uuid × Option Json)) (i : Uuid) :
    ((∀ m ∈ ms, ((m.news? k).map (·.1)) ≠ some i) ∧
        Keyed.get? (ms.foldl (absorb k) E) i = Keyed.get? E i) ∨
      ∃ pre m post d, ms = pre ++ m :: post ∧ m.news? k = some (i, d) ∧
        (∀ m' ∈ post, ((m'.news? k).map (·.1)) ≠ some i) ∧
        Keyed.get? (ms.foldl (absorb k) E) i = some d := by
  induction ms using List.reverseRecOn with
  | nil => exact .inl ⟨fun _ h => absurd h List.not_mem_nil, rfl⟩
  | append_singleton ms m ih =>
    rw [List.foldl_append, List.foldl_cons, List.foldl_nil]
    cases hnews : m.news? k with
    | some p =>
      obtain ⟨id, d⟩ := p
      by_cases hid : i = id
      · -- the last message is an event about the record: it decides the entry
        subst hid
        refine .inr ⟨ms, m, [], d, rfl, hnews, fun _ h => absurd h List.not_mem_nil, ?_⟩
        simp only [absorb, hnews]
        exact Keyed.get?_insert_self _ _ _
      · have hget : Keyed.get? (absorb k (ms.foldl (absorb k) E) m) i =
            Keyed.get? (ms.foldl (absorb k) E) i := by
          simp only [absorb, hnews]
          exact Keyed.get?_insert_ne _ hid
        have hm : ((m.news? k).map (·.1)) ≠ some i := by
          simp [hnews, Ne.symm hid]
        rw [hget]
        rcases ih with ⟨hnone, hE⟩ | ⟨pre, m₁, post, d₁, rfl, h₁, hpost, hd⟩
        · refine .inl ⟨fun m' hm' => ?_, hE⟩
          rcases List.mem_append.mp hm' with hm' | hm'
          · exact hnone m' hm'
          · rw [List.mem_singleton.mp hm']
            exact hm
        · refine .inr ⟨pre, m₁, post ++ [m], d₁, by simp, h₁, fun m' hm' => ?_, hd⟩
          rcases List.mem_append.mp hm' with hm' | hm'
          · exact hpost m' hm'
          · rw [List.mem_singleton.mp hm']
            exact hm
    | none =>
      have hget : absorb k (ms.foldl (absorb k) E) m = ms.foldl (absorb k) E := by
        simp only [absorb, hnews]
      rw [hget]
      rcases ih with ⟨hnone, hE⟩ | ⟨pre, m₁, post, d₁, rfl, h₁, hpost, hd⟩
      · refine .inl ⟨fun m' hm' => ?_, hE⟩
        rcases List.mem_append.mp hm' with hm' | hm'
        · exact hnone m' hm'
        · simp [List.mem_singleton.mp hm', hnews]
      · refine .inr ⟨pre, m₁, post ++ [m], d₁, by simp, h₁, fun m' hm' => ?_, hd⟩
        rcases List.mem_append.mp hm' with hm' | hm'
        · exact hpost m' hm'
        · simp [List.mem_singleton.mp hm', hnews]

end Entries

def Recorded (ms : List AccMsg) (E : List (Uuid × Option Json)) : Prop :=
  ∀ i d, Keyed.get? E i = some d → ∃ src, AccMsg.state src i d ∈ ms

theorem recorded_nil (ms : List AccMsg) : Recorded ms [] := by
  intro i d h
  simp [Keyed.get?] at h

theorem Recorded.mono {ms ms' : List AccMsg} {E : List (Uuid × Option Json)} (h : Recorded ms E)
    (hsub : ms ⊆ ms') : Recorded ms' E :=
  fun i d hd => (h i d hd).imp fun _ hm => hsub hm

theorem Recorded.insert {ms : List AccMsg} {E : List (Uuid × Option Json)} (h : Recorded ms E)
    {src id : Uuid} {doc : Option Json} (hmem : AccMsg.state src id doc ∈ ms) :
    Recorded ms (Keyed.insert id doc E) := by
  intro i d hd
  by_cases hi : i = id
  · subst hi
    rw [Keyed.get?_insert_self, Option.some.injEq] at hd
    exact ⟨src, hd ▸ hmem⟩
  · rw [Keyed.get?_insert_ne _ hi] at hd
    exact h i d hd

theorem eq_or_mem_of_append_singleton {α : Type} {ms pre post : List α} {m x : α}
    (h : ms ++ [m] = pre ++ x :: post) :
    (pre = ms ∧ x = m ∧ post = []) ∨ ∃ post', post = post' ++ [m] ∧ ms = pre ++ x :: post' := by
  rcases List.eq_nil_or_concat post with rfl | ⟨L, b, rfl⟩
  · obtain ⟨h₁, h₂⟩ := List.append_inj' h rfl
    exact .inl ⟨h₁.symm, (List.singleton_inj.mp h₂).symm, rfl⟩
  · rw [List.concat_eq_append, ← List.cons_append, ← List.append_assoc] at h
    rw [List.concat_eq_append]
    obtain ⟨h₁, h₂⟩ := List.append_inj' h rfl
    exact .inr ⟨L, by rw [List.singleton_inj.mp h₂], h₁⟩

/-! ### The picture of an accumulator along the messages it handles -/

section Handoff

variable (k : EntityType) (w₀ : World)

/-- Before it is ready, an accumulator that has handled `ms` holds every event and read among
them set aside in arrival order, its entries come from state replies, and none of those reads
is answered. -/
structure Waiting (ms : List AccMsg) (a : AccUnit) (w : World) : Prop where
  stash_eq : a.stash.items = ms.filter AccMsg.waits
  recorded : Recorded ms a.entries
  unanswered : ∀ n ∈ slotsOf (ms.filter AccMsg.waits), w.slots[n]? = w₀.slots[n]?

/-- Once ready, an accumulator that has handled `ms` holds nothing aside and has handled every
event and read among them in arrival order, after the entries `E₀` it became ready with. -/
structure Serving (ms : List AccMsg) (a : AccUnit) (w : World) (E₀ : List (Uuid × Option Json)) :
    Prop where
  pending_eq : a.pending = []
  stash_eq : a.stash.items = []
  sorted_base : Keyed.Sorted E₀
  recorded : Recorded ms E₀
  entries_eq : a.entries = ms.foldl (absorb k) E₀
  answered : ∀ pre n post, ms = pre ++ .getList (.slot n) :: post →
    w.slots[n]? = some (.filled (.records ((pre.foldl (absorb k) E₀).filterMap (·.2))))

/-- What an accumulator of kind `k`, fresh in the world `w₀`, is like after handling `ms`:
its stash is unbounded, its entries are in key order, no slot but those of `ms` has moved,
and it is `Waiting` until it is ready and `Serving` after. -/
structure Handoff (ms : List AccMsg) (a : AccUnit) (w : World) : Prop where
  kind_eq : a.kind = k
  unbounded : a.stash.capacity = none
  sorted : Keyed.Sorted a.entries
  untouched : ∀ n ∉ slotsOf ms, w.slots[n]? = w₀.slots[n]?
  waiting : a.phase = .initializing → Waiting w₀ ms a w
  serving : a.phase = .ready → ∃ E₀, Serving k ms a w E₀

variable {k w₀} {ms : List AccMsg}

@[simp] theorem slotsOf_append (xs ys : List AccMsg) :
    slotsOf (xs ++ ys) = slotsOf xs ++ slotsOf ys :=
  List.flatMap_append

@[simp] theorem slotsOf_singleton (m : AccMsg) : slotsOf [m] = m.slots := by
  simp [slotsOf]

theorem slotsOf_filter_sublist (p : AccMsg → Bool) (ms : List AccMsg) :
    (slotsOf (ms.filter p)).Sublist (slotsOf ms) := by
  induction ms with
  | nil => exact List.Sublist.slnil
  | cons m ms ih =>
    rw [List.filter_cons]
    split
    · simpa [slotsOf] using ih.append_left m.slots
    · simpa [slotsOf] using ih.trans (List.sublist_append_right m.slots _)

theorem mem_slotsOf_of_filter {p : AccMsg → Bool} (h : n ∈ slotsOf (ms.filter p)) :
    n ∈ slotsOf ms :=
  (slotsOf_filter_sublist p ms).subset h

theorem Handoff.of_waiting_eq (h : Handoff k w₀ ms a w) (hinit : a.phase = .initializing)
    {a' : AccUnit} {w' : World} (hk : a'.kind = a.kind) (hstash : a'.stash = a.stash)
    (hentries : a'.entries = a.entries) (hphase : a'.phase = a.phase)
    (hslots : ∀ n : Nat, w'.slots[n]? = w.slots[n]?) : Handoff k w₀ ms a' w' := by
  obtain ⟨hstash₀, hrec, hunans⟩ := h.waiting hinit
  refine ⟨hk.trans h.kind_eq, hstash ▸ h.unbounded, hentries ▸ h.sorted,
    fun n hn => (hslots n).trans (h.untouched n hn), fun _ => ⟨?_, hentries ▸ hrec, ?_⟩,
    fun hready => absurd (hphase.symm.trans hready) (by rw [hinit]; decide)⟩
  · rw [hstash, hstash₀]
  · exact fun n hn => (hslots n).trans (hunans n hn)

/-- A message that is neither an event nor a read, handled without changing the accumulator,
moves no slot but its own. -/
theorem Handoff.quiet (h : Handoff k w₀ ms a w) {m : AccMsg} (hm : m.waits = false)
    (hnodup : (slotsOf (ms ++ [m])).Nodup) {w' : World}
    (hslots : ∀ n ∉ m.slots, w'.slots[n]? = w.slots[n]?) : Handoff k w₀ (ms ++ [m]) a w' := by
  simp only [slotsOf_append, slotsOf_singleton, List.nodup_append] at hnodup
  -- no slot of an earlier message is this one's
  have hold : ∀ n ∈ slotsOf ms, w'.slots[n]? = w.slots[n]? :=
    fun n hn => hslots n (fun hm' => hnodup.2.2 n hn n hm' rfl)
  have hfilter : (ms ++ [m]).filter AccMsg.waits = ms.filter AccMsg.waits := by
    simp [List.filter_append, hm]
  refine ⟨h.kind_eq, h.unbounded, h.sorted, fun n hn => ?_, fun hinit => ?_, fun hready => ?_⟩
  · simp only [slotsOf_append, slotsOf_singleton, List.mem_append, not_or] at hn
    rw [hslots n hn.2, h.untouched n hn.1]
  · obtain ⟨hstash, hrec, hunans⟩ := h.waiting hinit
    refine ⟨by rw [hstash, hfilter], hrec.mono (List.subset_append_left _ _), fun n hn => ?_⟩
    rw [hfilter] at hn
    rw [hold n (mem_slotsOf_of_filter hn), hunans n hn]
  · obtain ⟨E₀, hs⟩ := h.serving hready
    refine ⟨E₀, hs.pending_eq, hs.stash_eq, hs.sorted_base,
      hs.recorded.mono (List.subset_append_left _ _), ?_, fun pre n post hsplit => ?_⟩
    · rw [hs.entries_eq, List.foldl_append, List.foldl_cons, List.foldl_nil,
        absorb_of_waits_false hm]
    · rcases eq_or_mem_of_append_singleton hsplit with ⟨-, rfl, -⟩ | ⟨post', -, hms⟩
      · simp [AccMsg.waits] at hm
      · have hn : n ∈ slotsOf ms := by
          rw [hms]
          simp [slotsOf, AccMsg.slots]
        rw [hold n hn, hs.answered pre n post' hms]

/-- Before it is ready, an event or a read is set aside at the back of the stash. -/
theorem Handoff.setAside (h : Handoff k w₀ ms a w) (hinit : a.phase = .initializing)
    {m : AccMsg} (hm : m.waits = true) (hnodup : (slotsOf (ms ++ [m])).Nodup) {w' : World}
    (hslots : ∀ n : Nat, w'.slots[n]? = w.slots[n]?) :
    Handoff k w₀ (ms ++ [m]) { a with stash := { a.stash with items := a.stash.items ++ [m] } }
      w' := by
  simp only [slotsOf_append, slotsOf_singleton, List.nodup_append] at hnodup
  obtain ⟨hstash, hrec, hunans⟩ := h.waiting hinit
  have hfilter : (ms ++ [m]).filter AccMsg.waits = ms.filter AccMsg.waits ++ [m] := by
    simp [List.filter_append, hm]
  refine ⟨h.kind_eq, h.unbounded, h.sorted, fun n hn => ?_,
    fun _ => ⟨?_, hrec.mono (List.subset_append_left _ _), fun n hn => ?_⟩,
    fun hready => absurd (hinit.symm.trans hready) (by decide)⟩
  · simp only [slotsOf_append, slotsOf_singleton, List.mem_append, not_or] at hn
    rw [hslots n, h.untouched n hn.1]
  · simp [hstash, hfilter]
  · rw [hfilter, slotsOf_append, slotsOf_singleton, List.mem_append] at hn
    rw [hslots n]
    rcases hn with hn | hn
    · exact hunans n hn
    · exact h.untouched n (fun hms => hnodup.2.2 n hms n hn rfl)

/-- Once ready, an event or a read is handled as it comes: a read is answered with the entries
after every event before it. -/
theorem Handoff.handled (h : Handoff k w₀ ms a w) (ha : w.acc? u = some a)
    (hready : a.phase = .ready) {m : AccMsg} (hm : m.waits = true)
    (hnodup : (slotsOf (ms ++ [m])).Nodup)
    (hwait : ∀ n ∈ slotsOf (ms ++ [m]), w₀.slots[n]? = some .waiting) :
    Handoff k w₀ (ms ++ [m]) { a with entries := absorb a.kind a.entries m }
      (handleReady u m w) := by
  simp only [slotsOf_append, slotsOf_singleton, List.nodup_append] at hnodup
  have hold : ∀ n ∈ slotsOf ms, (handleReady u m w).slots[n]? = w.slots[n]? :=
    fun n hn => handleReady_slot m (fun hm' => hnodup.2.2 n hn n hm' rfl)
  obtain ⟨E₀, hs⟩ := h.serving hready
  refine ⟨h.kind_eq, h.unbounded, sorted_absorb h.sorted m, fun n hn => ?_,
    fun hinit => absurd (hready.symm.trans hinit) (by decide),
    fun _ => ⟨E₀, hs.pending_eq, hs.stash_eq, hs.sorted_base,
      hs.recorded.mono (List.subset_append_left _ _), ?_, fun pre n post hsplit => ?_⟩⟩
  · simp only [slotsOf_append, slotsOf_singleton, List.mem_append, not_or] at hn
    rw [handleReady_slot m hn.2, h.untouched n hn.1]
  · rw [h.kind_eq, hs.entries_eq, List.foldl_append, List.foldl_cons, List.foldl_nil]
  · rcases eq_or_mem_of_append_singleton hsplit with ⟨rfl, rfl, -⟩ | ⟨post', -, hms⟩
    · -- the read is this message: it is answered with the entries as they are
      have hn : n ∉ slotsOf pre := fun hn => hnodup.2.2 n hn n (by simp [AccMsg.slots]) rfl
      have hw : w.slots[n]? = some .waiting :=
        (h.untouched n hn).trans (hwait n (by simp [AccMsg.slots]))
      rw [handleReady_getList_slot ha hw, hs.entries_eq]
    · have hn : n ∈ slotsOf ms := by
        rw [hms]
        simp [slotsOf, AccMsg.slots]
      rw [hold n hn, hs.answered pre n post' hms]

/-- An accumulator that waits for nobody more becomes ready: it hands what it set aside, in
arrival order, to the handling of a ready accumulator, and then serves after the entries it
had. -/
theorem Handoff.becomeReady (h : Handoff k w₀ ms a w) (ha : w.acc? u = some a)
    (hinit : a.phase = .initializing) (hpending : a.pending = []) (hnodup : (slotsOf ms).Nodup)
    (hwait : ∀ n ∈ slotsOf ms, w₀.slots[n]? = some .waiting) :
    ∃ a', (becomeReady u w).acc? u = some a' ∧ a'.phase = .ready ∧
      Handoff k w₀ ms a' (becomeReady u w) := by
  obtain ⟨hstash, hrec, hunans⟩ := h.waiting hinit
  obtain ⟨w₁, h₁, hslots₁, heq⟩ := becomeReady_eq ha
  -- what was set aside names slots of `ms` only, distinct and still waiting
  have hsub : slotsOf a.stash.items ⊆ slotsOf ms := fun n hn =>
    mem_slotsOf_of_filter (hstash ▸ hn)
  have hwait₁ : ∀ n ∈ slotsOf a.stash.items, w₁.slots[n]? = some .waiting := fun n hn => by
    rw [hslots₁, hunans n (hstash ▸ hn), hwait n (hsub hn)]
  have hnodup₁ : (slotsOf a.stash.items).Nodup :=
    hnodup.sublist (hstash ▸ slotsOf_filter_sublist AccMsg.waits ms)
  rw [heq]
  refine ⟨_, acc?_handleAllReady _ h₁, rfl, h.kind_eq, h.unbounded,
    sorted_foldl_absorb h.sorted _, fun n hn => ?_, fun hinit' => (nomatch hinit'),
    fun _ => ⟨a.entries, hpending, rfl, h.sorted, hrec, ?_, fun pre n post hsplit => ?_⟩⟩
  · rw [handleAllReady_slot _ (fun hn' => hn (hsub hn')), hslots₁, h.untouched n hn]
  · simp only [hstash, foldl_absorb_filter, h.kind_eq]
  · have hsplit' : a.stash.items =
        pre.filter AccMsg.waits ++ .getList (.slot n) :: post.filter AccMsg.waits := by
      rw [hstash, hsplit, List.filter_append, List.filter_cons_of_pos rfl]
    rw [hsplit'] at hnodup₁ hwait₁
    rw [hsplit', handleAllReady_answers h₁ hnodup₁ hwait₁]
    simp only [foldl_absorb_filter, h.kind_eq]

theorem Handoff.recordReply (h : Handoff k w₀ ms a w) (hinit : a.phase = .initializing)
    {src id : Uuid} {doc : Option Json} (hnodup : (slotsOf (ms ++ [.state src id doc])).Nodup)
    (w' : World) (hslots : ∀ n : Nat, w'.slots[n]? = w.slots[n]?) (p : List (Uuid × Uuid)) :
    Handoff k w₀ (ms ++ [.state src id doc])
      { a with pending := p, entries := Keyed.insert id doc a.entries } w' := by
  have hq := h.quiet rfl hnodup (fun n _ => hslots n)
  obtain ⟨hstash, hrec, hunans⟩ := hq.waiting hinit
  exact ⟨hq.kind_eq, hq.unbounded, Keyed.sorted_insert hq.sorted, hq.untouched,
    fun _ => ⟨hstash, hrec.insert (List.mem_append_right _ (List.mem_singleton_self _)), hunans⟩,
    fun hready => absurd (hinit.symm.trans hready) (by decide)⟩

theorem AccPhase.eq_initializing_or_ready (p : AccPhase) : p = .initializing ∨ p = .ready := by
  cases p
  · exact .inl rfl
  · exact .inr rfl

/-- One message, anything but a stop, keeps the picture, and a ready accumulator stays
ready. -/
theorem Handoff.handle (h : Handoff k w₀ ms a w) (ha : w.acc? u = some a) {m : AccMsg}
    (hstop : m ≠ .stop) (hnodup : (slotsOf (ms ++ [m])).Nodup)
    (hwait : ∀ n ∈ slotsOf (ms ++ [m]), w₀.slots[n]? = some .waiting) :
    ∃ a', (handle u m w).2.acc? u = some a' ∧ Handoff k w₀ (ms ++ [m]) a' (handle u m w).2 ∧
      (a.phase = .ready → a'.phase = .ready) := by
  have hnever : a.phase = .initializing → ∀ {p : Prop}, a.phase = .ready → p :=
    fun hinit _ hr => absurd (hinit.symm.trans hr) (by decide)
  -- a message that changes neither the accumulator nor a slot but its own
  have hquiet : ∀ {w' : World}, m.waits = false → (∀ n ∉ m.slots, w'.slots[n]? = w.slots[n]?) →
      w'.acc? u = some a → ∃ a', w'.acc? u = some a' ∧ Handoff k w₀ (ms ++ [m]) a' w' ∧
        (a.phase = .ready → a'.phase = .ready) :=
    fun hm hslots hacc => ⟨a, hacc, h.quiet hm hnodup hslots, id⟩
  -- an event or a read: set aside before the accumulator is ready, handled after
  have hwaits : m.waits = true → ∃ a', (AccUnit.handle u m w).2.acc? u = some a' ∧
      Handoff k w₀ (ms ++ [m]) a' (AccUnit.handle u m w).2 ∧
        (a.phase = .ready → a'.phase = .ready) := by
    intro hm
    rw [handle_waits ha h.unbounded hm]
    rcases AccPhase.eq_initializing_or_ready a.phase with hphase | hphase
    · rw [if_pos hphase]
      exact ⟨_, acc?_putAcc ha _, h.setAside hphase hm hnodup (fun _ => rfl), hnever hphase⟩
    · rw [if_neg (by rw [hphase]; decide)]
      exact ⟨_, acc?_handleReady ha m, h.handled ha hphase hm hnodup hwait, fun _ => hphase⟩
  cases m with
  | children xs =>
    rw [handle_children ha]
    rcases AccPhase.eq_initializing_or_ready a.phase with hphase | hphase
    · obtain ⟨w₁, p, h₁, hslots₁, heq⟩ := pull_eq ha (by rw [hphase]; decide) xs
      have hq : Handoff k w₀ (ms ++ [.children xs]) { a with pending := p } w₁ :=
        (h.quiet rfl hnodup (fun n _ => hslots₁ n)).of_waiting_eq hphase rfl rfl rfl rfl
          (fun _ => rfl)
      rw [heq]
      split
      · -- nobody to wait for: ready at once
        rename_i hp
        obtain ⟨a', h', -, hh⟩ := hq.becomeReady h₁ hphase (List.isEmpty_iff.mp hp) hnodup hwait
        exact ⟨a', h', hh, hnever hphase⟩
      · exact ⟨_, acc?_putAcc (by rw [acc?_schedule]; exact h₁) _,
          hq.of_waiting_eq hphase rfl rfl rfl rfl (fun _ => rfl), hnever hphase⟩
    · rw [pull_of_ready ha hphase]
      exact hquiet rfl (fun _ _ => rfl) ha
  | state src id doc =>
    rw [handle_state ha]
    cases hask : a.pending.any (·.1 = src)
    · rw [record_of_not_asked ha hask]
      exact hquiet rfl (fun _ _ => rfl) ha
    · rw [record_of_asked ha hask]
      rcases AccPhase.eq_initializing_or_ready a.phase with hphase | hphase
      · have hr := h.recordReply hphase hnodup (w.putAcc u { a with
            pending := a.pending.filter (·.1 ≠ src), entries := Keyed.insert id doc a.entries })
          (fun _ => rfl) (a.pending.filter (·.1 ≠ src))
        split
        · -- the last child awaited has answered
          rename_i hcond
          obtain ⟨a', h', -, hh⟩ :=
            hr.becomeReady (acc?_putAcc ha _) hphase (List.isEmpty_iff.mp hcond.2) hnodup hwait
          exact ⟨a', h', hh, hnever hphase⟩
        · exact ⟨_, acc?_putAcc ha _, hr, hnever hphase⟩
      · -- a ready accumulator waits for nobody
        obtain ⟨E₀, hs⟩ := h.serving hphase
        simp [hs.pending_eq] at hask
  | pullTimeout =>
    rw [handle_pullTimeout ha]
    rcases AccPhase.eq_initializing_or_ready a.phase with hphase | hphase
    · rw [if_pos hphase]
      -- the children that did not answer are given up
      have hq : Handoff k w₀ (ms ++ [.pullTimeout]) { a with pending := [] }
          (w.putAcc u { a with pending := [] }) :=
        (h.quiet rfl hnodup (fun _ _ => rfl)).of_waiting_eq hphase rfl rfl rfl rfl (fun _ => rfl)
      obtain ⟨a', h', -, hh⟩ := hq.becomeReady (acc?_putAcc ha _) hphase rfl hnodup hwait
      exact ⟨a', h', hh, hnever hphase⟩
    · rw [if_neg (by rw [hphase]; decide)]
      exact hquiet rfl (fun _ _ => rfl) ha
  | status r =>
    rw [handle_status ha]
    refine hquiet rfl (fun n hn => deliver_slot r _ (.inl ?_)) ?_
    · rintro rfl
      exact hn (by simp [AccMsg.slots])
    · rw [acc?_of_cell?_eq (congrArg (·[u]?) (cells_deliver_accStatus r _)), ha]
  | event e => exact hwaits rfl
  | getList r => exact hwaits rfl
  | stop => exact absurd rfl hstop

variable (u) in
def handleAll (ms : List AccMsg) (w : World) : World :=
  ms.foldl (fun w m => (AccUnit.handle u m w).2) w

/-- Messages, none a stop, keep the picture, and a ready accumulator stays ready. -/
theorem Handoff.run {pre : List AccMsg} (h : Handoff k w₀ pre a w) (ha : w.acc? u = some a)
    {ms : List AccMsg} (hstop : ∀ m ∈ ms, m ≠ .stop) (hnodup : (slotsOf (pre ++ ms)).Nodup)
    (hwait : ∀ n ∈ slotsOf (pre ++ ms), w₀.slots[n]? = some .waiting) :
    ∃ a', (handleAll u ms w).acc? u = some a' ∧ Handoff k w₀ (pre ++ ms) a' (handleAll u ms w) ∧
      (a.phase = .ready → a'.phase = .ready) := by
  induction ms generalizing pre a w with
  | nil => exact ⟨a, ha, by rw [List.append_nil]; exact h, id⟩
  | cons m ms ih =>
    have hsplit : pre ++ m :: ms = (pre ++ [m]) ++ ms := by simp
    rw [hsplit] at hnodup hwait ⊢
    have hnodup₁ : (slotsOf (pre ++ [m])).Nodup := by
      rw [slotsOf_append] at hnodup
      exact hnodup.sublist (List.sublist_append_left _ _)
    obtain ⟨a₁, h₁, hh₁, hmono₁⟩ := h.handle ha (hstop m List.mem_cons_self) hnodup₁
      (fun n hn => hwait n (by rw [slotsOf_append]; exact List.mem_append_left _ hn))
    obtain ⟨a', h', hh', hmono'⟩ :=
      ih hh₁ h₁ (fun m' hm' => hstop m' (List.mem_cons_of_mem _ hm')) hnodup hwait
    exact ⟨a', h', hh', hmono' ∘ hmono₁⟩

end Handoff

/-- A fresh accumulator: gathering, with no entries and nothing set aside in an unbounded
stash. -/
structure Fresh (a : AccUnit) : Prop where
  phase_eq : a.phase = .initializing
  entries_eq : a.entries = []
  stash_eq : a.stash.items = []
  unbounded : a.stash.capacity = none

theorem Fresh.handoff {a : AccUnit} (h : a.Fresh) (w : World) : Handoff a.kind w [] a w :=
  ⟨rfl, h.unbounded, by rw [h.entries_eq]; exact List.Pairwise.nil, fun _ _ => rfl,
    fun _ => ⟨by simp [h.stash_eq], h.entries_eq ▸ recorded_nil [], fun _ _ => rfl⟩,
    fun hr => absurd (h.phase_eq.symm.trans hr) (by decide)⟩

/-! ### The entry of a record: the state its last message carried -/

section LastReport

variable {k : EntityType} {i : Uuid}

def about (k : EntityType) (i : Uuid) (ms : List AccMsg) : List AccMsg :=
  ms.filter fun m => (m.report? k).map (·.1) = some i

def carried (k : EntityType) (m : AccMsg) : Option (Option Json) := (m.report? k).map (·.2)

def InOrder (k : EntityType) (ps : List AccMsg) : Prop :=
  ∀ pre p src j d post, ps = pre ++ p :: .state src j d :: post → carried k p = some d

theorem state_or_news_of_report? {m : AccMsg} {x : Uuid × Option Json}
    (h : m.report? k = some x) : (∃ src j d, m = .state src j d) ∨ m.news? k = some x := by
  cases m with
  | state src j d => exact .inl ⟨src, j, d, rfl⟩
  | event e => exact .inr h
  | _ => simp [AccMsg.report?] at h

theorem InOrder.carried_eq_last {ps : List AccMsg} (h : InOrder k ps) {p : AccMsg}
    {pre post : List AccMsg} (hps : ps = pre ++ p :: post)
    (hstates : ∀ q ∈ post, ∃ src j d, q = .state src j d) :
    carried k p = ps.getLast?.bind (carried k) := by
  induction post generalizing pre p with
  | nil => simp [hps]
  | cons q post ih =>
    obtain ⟨src, j, d, rfl⟩ := hstates q List.mem_cons_self
    have hp : carried k p = some d := h pre p src j d post hps
    have hq : carried k (.state src j d) = some d := rfl
    rw [hp, ← hq]
    exact ih (by simp [hps] : ps = (pre ++ [p]) ++ .state src j d :: post)
      (fun q' hq' => hstates q' (List.mem_cons_of_mem _ hq'))

theorem about_states {ms : List AccMsg} (hnone : ∀ m ∈ ms, (m.news? k).map (·.1) ≠ some i) :
    ∀ q ∈ about k i ms, ∃ src j d, q = .state src j d := by
  intro q hq
  obtain ⟨hq, habout⟩ := List.mem_filter.mp hq
  obtain ⟨x, hx, hxi⟩ := Option.map_eq_some_iff.mp (of_decide_eq_true habout)
  rcases state_or_news_of_report? hx with hs | hn
  · exact hs
  · exact absurd (by rw [hn, Option.map_some, hxi]) (hnone q hq)

theorem mem_about {ms : List AccMsg} {m : AccMsg} (hm : m ∈ ms) {x : Option Json}
    (h : m.report? k = some (i, x)) : m ∈ about k i ms :=
  List.mem_filter.mpr ⟨hm, by simp [h]⟩

/-- A ready accumulator's entry for a record whose messages are in order is the state the last
of them carried. -/
theorem Serving.entry_eq_last {ms : List AccMsg} {a : AccUnit} {w : World}
    {E₀ : List (Uuid × Option Json)} (hs : Serving k ms a w E₀) (hord : InOrder k (about k i ms))
    {d : Option Json} (hd : Keyed.get? a.entries i = some d) :
    (about k i ms).getLast?.bind (carried k) = some d := by
  rw [hs.entries_eq] at hd
  rcases get?_foldl_absorb ms E₀ i with ⟨hnone, hE⟩ | ⟨pre, m, post, d', hms, hm, hpost, hd'⟩
  · -- no event is about the record: its entry came from a state reply, and so did the rest
    obtain ⟨src, hsrc⟩ := hs.recorded i d (hE ▸ hd)
    obtain ⟨pre', post', hsplit⟩ := List.append_of_mem (mem_about hsrc rfl)
    rw [← hord.carried_eq_last hsplit (fun q hq => about_states hnone q
      (by rw [hsplit]; exact List.mem_append_right _ (List.mem_cons_of_mem _ hq)))]
    rfl
  · -- the last event about the record decided the entry, and only state replies came after
    rw [hd'] at hd
    cases hd
    obtain ⟨e, rfl⟩ : ∃ e, m = .event e := by
      cases m <;> simp_all [AccMsg.news?]
    have hsplit : about k i ms = about k i pre ++ .event e :: about k i post := by
      rw [hms, about, List.filter_append,
        List.filter_cons_of_pos (by simp [AccMsg.news?] at hm; simp [hm])]
      rfl
    rw [← hord.carried_eq_last hsplit (about_states hpost)]
    simp [carried, AccMsg.news?] at hm ⊢
    simp [hm]

theorem Serving.entry_isSome {ms : List AccMsg} {a : AccUnit} {w : World}
    {E₀ : List (Uuid × Option Json)} (hs : Serving k ms a w E₀)
    (hev : ∃ m ∈ ms, (m.news? k).map (·.1) = some i) : (Keyed.get? a.entries i).isSome := by
  rw [hs.entries_eq]
  rcases get?_foldl_absorb ms E₀ i with ⟨hnone, -⟩ | ⟨-, -, -, d, -, -, -, hd⟩
  · obtain ⟨m, hm, hmi⟩ := hev
    exact absurd hmi (hnone m hm)
  · rw [hd]
    rfl

end LastReport

theorem handleAll_append (xs ys : List AccMsg) (w : World) :
    handleAll u (xs ++ ys) w = handleAll u ys (handleAll u xs w) :=
  List.foldl_append

/-- An accumulator keeps the `Handoff` picture over any messages: it sets everything aside while
gathering, never goes back once ready, and then answers each read after the events before it. -/
theorem accumulator_handoff {w : World} {a : AccUnit} (ha : w.acc? u = some a) (hfresh : a.Fresh)
    {ms : List AccMsg} (hstop : ∀ m ∈ ms, m ≠ .stop) (hnodup : (slotsOf ms).Nodup)
    (hwait : ∀ n ∈ slotsOf ms, w.slots[n]? = some .waiting) :
    ∃ a', (handleAll u ms w).acc? u = some a' ∧ Handoff a.kind w ms a' (handleAll u ms w) ∧
      (∀ pre post a₁, ms = pre ++ post → (handleAll u pre w).acc? u = some a₁ →
        a₁.phase = .ready → a'.phase = .ready) ∧
      (a'.phase = .ready →
        (∀ pre (n : Nat) post, ms = pre ++ .getList (.slot n) :: post →
          ∃ E : List (Uuid × Option Json), Keyed.Sorted E ∧
            (handleAll u ms w).slots[n]? = some (.filled (.records (E.filterMap (·.2))))) ∧
        (∀ i, (∃ m ∈ ms, (m.news? a.kind).map (·.1) = some i) →
          (Keyed.get? a'.entries i).isSome) ∧
        ∀ i d, InOrder a.kind (about a.kind i ms) → Keyed.get? a'.entries i = some d →
          (about a.kind i ms).getLast?.bind (carried a.kind) = some d) := by
  obtain ⟨a', h', hh, -⟩ := (hfresh.handoff w).run ha hstop (by simpa using hnodup)
    (by simpa using hwait)
  refine ⟨a', h', hh, fun pre post a₁ hsplit h₁ hready₁ => ?_, fun hready => ?_⟩
  · -- run to the ready point, then on from it
    subst hsplit
    rw [slotsOf_append] at hnodup
    obtain ⟨a₂, h₂, hh₂, -⟩ := (hfresh.handoff w).run ha
      (fun m (hm : m ∈ pre) => hstop m (List.mem_append_left _ hm))
      (by simpa using hnodup.sublist (List.sublist_append_left _ _))
      (fun n hn => hwait n (by simp at hn; simp [hn]))
    rw [h₁, Option.some.injEq] at h₂
    subst h₂
    obtain ⟨a₃, h₃, -, hmono⟩ := hh₂.run h₁
      (fun m (hm : m ∈ post) => hstop m (List.mem_append_right _ hm)) (by simpa using hnodup)
      (by simpa using hwait)
    rw [handleAll_append, h₃, Option.some.injEq] at h'
    exact h' ▸ hmono hready₁
  · obtain ⟨E₀, hs⟩ := hh.serving hready
    exact ⟨fun pre n post hsplit =>
        ⟨pre.foldl (absorb a.kind) E₀, sorted_foldl_absorb hs.sorted_base pre,
          hs.answered pre n post hsplit⟩,
      fun i hev => hs.entry_isSome hev, fun i d hord hd => hs.entry_eq_last hord hd⟩

def freshClient : AccUnit :=
  { kind := .client, address := Uuid.ofNat 1, parent := .refusing, pullTimeout := ⟨0⟩,
    stash := Stash.empty none }

def freshAccWorld : World :=
  { ids := ⟨0, 0, []⟩, cells := #[.accumulator freshClient], slots := #[.waiting] }

theorem accumulator_handoff_read_before_children :
    ∃ a', (handleAll 0 [.getList (.slot 0), .children []] freshAccWorld).acc? 0 = some a' ∧
      Handoff .client freshAccWorld [.getList (.slot 0), .children []] a'
        (handleAll 0 [.getList (.slot 0), .children []] freshAccWorld) :=
  let ⟨a', h', hh, _⟩ := accumulator_handoff (u := 0) (a := freshClient) rfl ⟨rfl, rfl, rfl, rfl⟩
    (by simp) (by simp [slotsOf, AccMsg.slots]) (by simp [slotsOf, AccMsg.slots, freshAccWorld])
  ⟨a', h', hh⟩

end AccUnit

end Chronicle
