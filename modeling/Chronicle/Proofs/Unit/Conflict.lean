import Mathlib
import Chronicle.Proofs.Unit.Life

/-! Conflicts between writers of one log. -/
namespace Chronicle

theorem Journal.append_conflict {j : Journal} {pid : String} {n : Nat} {entry : Json}
    {cls : String} (hv : (j.log pid).lastSequenceNr ≠ n) (hcls : classOf entry = some cls) :
    ∃ d, j.append pid (.exact n) entry = (.error (.concurrency d), j.setLog pid (j.log pid)) := by
  have hne : (n == (j.log pid).lastSequenceNr) = false := by simp [Ne.symm hv]
  exact ⟨_, by simp only [Journal.append, hcls, ExpectedVersion.accepts, hne]; rfl⟩

namespace Core

variable {α κ : Type} [Aggregate α κ] [Logged κ] [Stored α]

theorem persist_fst (c : Core α) (s : Store) (k : κ) :
    (c.persist s k).1 = (s.append c.persistenceId (.exact c.sequenceNr) (Logged.toJson k)).1 := by
  unfold persist
  split
  · rename_i e s' happ
    rw [happ]
  · rename_i n s' happ
    rw [happ]
    dsimp only
    split <;> rfl

theorem persist_conflict_iff {c : Core α} {s : Store} {k : κ} (happ : s.faults.appends = false)
    (hcls : classOf (Logged.toJson k) = some (Logged.cls k)) :
    (∃ d, (c.persist s k).1 = .error (.concurrency d)) ↔
      (s.journal.log c.persistenceId).lastSequenceNr ≠ c.sequenceNr := by
  rw [persist_fst]
  by_cases hv : (s.journal.log c.persistenceId).lastSequenceNr = c.sequenceNr
  · -- at the log's end the entry is taken
    simp [Store.append, happ, Journal.append_exact hv hcls, hv]
  · obtain ⟨d, hd⟩ := Journal.append_conflict hv hcls
    simp only [Store.append, happ, Bool.false_eq_true, if_false, hd]
    exact ⟨fun _ => hv, fun _ => ⟨d, rfl⟩⟩

variable {D : Durable α κ} {c : Core α} {s : Store} {pid : String} {cfg : UnitConfig}
  {items : List (Replayed κ)}

theorem persist_no_conflict (hs : D.Keeps s pid items) (hc : c.Follows pid cfg items) (k : κ)
    (d : String) : (c.persist s k).1 ≠ .error (.concurrency d) := by
  intro hd
  cases happ : s.faults.appends with
  | true =>
    -- a failing store answers that it is unavailable
    rw [persist_fst] at hd
    simp [Store.append, happ] at hd
  | false =>
    have hend := lastSequenceNr_eq hs hc
    exact (persist_conflict_iff happ (D.classOf_toJson k)).mp ⟨d, hd⟩ hend

end Core

/-- A conflict needs a second writer: a unit that is the only writer of its log stays at its
end through any life, so no command it logs is refused as a conflict. -/
theorem only_writer_never_conflicts {α κ : Type} [Aggregate α κ] [Logged κ] [Stored α]
    (D : Durable α κ) :
    (∀ (c : Core α) (s : Store) (k : κ), s.faults.appends = false →
      ((∃ d, (c.persist s k).1 = .error (.concurrency d)) ↔
        (s.journal.log c.persistenceId).lastSequenceNr ≠ c.sequenceNr)) ∧
    (∀ (pid : String) (cfg : UnitConfig) (s : Store) (steps : List (LifeStep κ)),
      s.journal.log pid = {} → s.faults.reads = false →
      (∀ st ∈ steps, st.Fits D.entryFits) →
      ∃ c s', Core.live cfg ((Core.new pid cfg : Core α), s) steps = .ok (c, s') ∧
        (s'.journal.log pid).lastSequenceNr = c.sequenceNr ∧
        ∀ (k : κ) (d : String), (c.persist s' k).1 ≠ .error (.concurrency d)) := by
  refine ⟨fun c s k happ => Core.persist_conflict_iff happ (D.classOf_toJson k), ?_⟩
  intro pid cfg s steps hlog hreads hfits
  obtain ⟨c, s', hrun, items, hs, hc⟩ :=
    Core.live_mirrors hfits _ _ (Core.mirrors_new D hlog hreads)
  refine ⟨c, s', hrun, ?_, Core.persist_no_conflict hs hc⟩
  rw [← hc.persistenceId_eq]
  exact Core.lastSequenceNr_eq hs hc

/-- A client inserted as `Acme`, restarted and then deleted is the only writer of its log: it
stands at the log's end, position 2, and nothing it logs next is refused as a conflict. -/
theorem client_writer_after_restart :
    ∃ (c : Core ClientState) (s : Store),
      Core.live {} (Core.new "client-x" {}, ({} : Store))
        [.persist (.insert ⟨some (Uuid.ofNat 1), ClientState.named "Acme", ⟨"ann", "c1", none⟩⟩),
          .restart, .persist (.delete ⟨Uuid.ofNat 1, ⟨"ann", "c1", none⟩⟩)] = .ok (c, s) ∧
      c.sequenceNr = 2 ∧ (s.journal.log "client-x").lastSequenceNr = 2 ∧
      ∀ (k : Command ClientState) (d : String), (c.persist s k).1 ≠ .error (.concurrency d) := by
  have hacme : ClientState.Fits (ClientState.named "Acme") :=
    ⟨fun _ h => (by cases h), by decide, by decide, fun _ h => (by cases h)⟩
  obtain ⟨c, s, hrun, hend, hfree⟩ :=
    (only_writer_never_conflicts ClientState.durable).2 "client-x" {} {}
      [.persist (.insert ⟨some (Uuid.ofNat 1), ClientState.named "Acme", ⟨"ann", "c1", none⟩⟩),
        .restart, .persist (.delete ⟨Uuid.ofNat 1, ⟨"ann", "c1", none⟩⟩)] rfl rfl (by
      intro st hst
      simp only [List.mem_cons, List.not_mem_nil, or_false] at hst
      rcases hst with rfl | rfl | rfl
      · exact hacme
      · trivial
      · trivial)
  -- the life is run once, and its end is the unit the theorem speaks of
  obtain ⟨c₀, s₀, hrun₀, hnr⟩ : ∃ (c : Core ClientState) (s : Store),
      Core.live {} (Core.new "client-x" {}, ({} : Store))
        [.persist (.insert ⟨some (Uuid.ofNat 1), ClientState.named "Acme", ⟨"ann", "c1", none⟩⟩),
          .restart, .persist (.delete ⟨Uuid.ofNat 1, ⟨"ann", "c1", none⟩⟩)] = .ok (c, s) ∧
      c.sequenceNr = 2 := ⟨_, _, rfl, rfl⟩
  obtain ⟨rfl, rfl⟩ := Prod.mk.inj (Except.ok.inj (hrun₀.symm.trans hrun))
  exact ⟨_, _, hrun₀, hnr, hnr ▸ hend, hfree⟩

end Chronicle
