import Chronicle.Proofs.World.Pipeline
import Chronicle.Proofs.Unit.Kinds

/-! A listing ends showing every record's last state, whatever order events arrive in. -/
namespace Chronicle

namespace Keyed

variable {α : Type} {xs : List (Uuid × α)} {k x : Uuid}

theorem get?_modify (f : α → α) (xs : List (Uuid × α)) (k x : Uuid) :
    get? (modify k f xs) x = if x = k then (get? xs x).map f else get? xs x := by
  induction xs with
  | nil => simp [modify, get?]
  | cons e rest ih =>
    obtain ⟨k₂, v₂⟩ := e
    by_cases hx : k₂ = x
    · subst hx
      by_cases hk : k₂ = k <;> simp [modify, get?, hk]
    · -- the head is another key's, on both sides
      have hrest : get? (modify k f ((k₂, v₂) :: rest)) x = get? (modify k f rest) x := by
        by_cases hk : k₂ = k
        · subst hk
          simp only [modify, get?, List.map_cons, List.find?_cons, ↓reduceIte, hx, decide_false]
        · simp only [modify, get?, List.map_cons, List.find?_cons, if_neg hk, hx, decide_false]
      rw [hrest, ih]
      simp [get?, hx]

theorem contains_eq_isSome : contains xs k = (get? xs k).isSome := by
  induction xs with
  | nil => rfl
  | cons e rest ih =>
    by_cases he : e.1 = k <;> simp_all [contains, get?]

end Keyed

namespace Listing

variable {l l' : Listing} {e : Event} {x : Uuid}

/-- An event about the record `x` that a listing showing `o` for it takes: a success about
`x`; an insert of a record not listed, an update of one listed, an upsert either way, and a
delete or undelete of a listed record that shows its item with only the flag changed. -/
def Follows (x : Uuid) (o : Option ListItem) (e : Event) : Prop :=
  e.success = true ∧ e.id = some x ∧
    match e.commandType with
    | .insert => o = none
    | .upsert => True
    | .update => o.isSome
    | .delete => ∃ i, o = some i ∧ ListItem.ofEvent e x = { i with isActive := false }
    | .undelete => ∃ i, o = some i ∧ ListItem.ofEvent e x = { i with isActive := true }

@[simp] theorem ListItem.id_ofEvent (e : Event) (x : Uuid) : (ListItem.ofEvent e x).id = x := rfl

/-- What a listing command does to the item of each record: an insert or an update stores its
item, a delete or an undelete sets the flag of the listed item, and other records keep theirs. -/
theorem get?_evolve (c : ListCommand) (y : Uuid) :
    Keyed.get? (l.evolve c).items y =
      if y = c.id then
        (match c with
          | .insert i | .update i => some i
          | .delete _ => (Keyed.get? l.items y).map ({ · with isActive := false })
          | .undelete _ => (Keyed.get? l.items y).map ({ · with isActive := true }))
      else Keyed.get? l.items y := by
  cases c with
  | insert i | update i =>
    by_cases hy : y = i.id
    · subst hy
      simp [evolve, ListCommand.id, Keyed.get?_insert_self]
    · simp [evolve, ListCommand.id, hy, Keyed.get?_insert_ne _ hy]
  | delete id => exact Keyed.get?_modify (fun i : ListItem => { i with isActive := false }) _ id y
  | undelete id => exact Keyed.get?_modify (fun i : ListItem => { i with isActive := true }) _ id y

/-- The listing command an event that follows what the listing shows for its record calls for:
one about that record that the listing accepts, and after which it shows the event's item. -/
theorem entryFor?_of_follows (h : Follows x (Keyed.get? l.items x) e) :
    ∃ c, l.entryFor? e = some c ∧ c.id = x ∧
      Keyed.get? (l.evolve c).items x = some (ListItem.ofEvent e x) := by
  obtain ⟨hsucc, hid, hkind⟩ := h
  have hcontains : l.contains x = (Keyed.get? l.items x).isSome := Keyed.contains_eq_isSome
  -- the command the event calls for is the entry, once the listing accepts it
  have hentry : ∀ c, ListCommand.ofEvent e l = some c → l.decide c = .ok c →
      l.entryFor? e = some c := fun c hc hd => by simp [entryFor?, hc, hd, Except.toOption]
  have hfound : Event.isFailure e = false := by simp [Event.isFailure, hsucc]
  cases ht : e.commandType with
  | insert =>
    simp only [ht] at hkind
    refine ⟨.insert (ListItem.ofEvent e x), hentry _ ?_ ?_, rfl,
      by simp [get?_evolve, ListCommand.id]⟩
    · simp [ListCommand.ofEvent, hfound, hid, ht]
    · simp [decide, ListCommand.id, hcontains, hkind]
  | update =>
    simp only [ht] at hkind
    refine ⟨.update (ListItem.ofEvent e x), hentry _ ?_ ?_, rfl,
      by simp [get?_evolve, ListCommand.id]⟩
    · simp [ListCommand.ofEvent, hfound, hid, ht]
    · simp [decide, ListCommand.id, hcontains, hkind]
  | upsert =>
    -- an upsert updates a listed record and inserts one that is not
    cases hx : l.contains x
    · refine ⟨.insert (ListItem.ofEvent e x), hentry _ ?_ ?_, rfl,
        by simp [get?_evolve, ListCommand.id]⟩
      · simp_all [ListCommand.ofEvent, contains]
      · simp [decide, ListCommand.id, hx]
    · refine ⟨.update (ListItem.ofEvent e x), hentry _ ?_ ?_, rfl,
        by simp [get?_evolve, ListCommand.id]⟩
      · simp_all [ListCommand.ofEvent, contains]
      · simp [decide, ListCommand.id, hx]
  | delete =>
    simp only [ht] at hkind
    obtain ⟨i, hi, hitem⟩ := hkind
    refine ⟨.delete x, hentry _ ?_ ?_, rfl, by simp [get?_evolve, ListCommand.id, hi, hitem]⟩
    · simp [ListCommand.ofEvent, hfound, hid, ht]
    · simp [decide, ListCommand.id, hcontains, hi]
  | undelete =>
    simp only [ht] at hkind
    obtain ⟨i, hi, hitem⟩ := hkind
    refine ⟨.undelete x, hentry _ ?_ ?_, rfl, by simp [get?_evolve, ListCommand.id, hi, hitem]⟩
    · simp [ListCommand.ofEvent, hfound, hid, ht]
    · simp [decide, ListCommand.id, hcontains, hi]

theorem index?_of_follows (h : Follows x (Keyed.get? l.items x) e) :
    ∃ l', l.index? e = some l' ∧ Keyed.get? l'.items x = some (ListItem.ofEvent e x) ∧
      ∀ y, y ≠ x → Keyed.get? l'.items y = Keyed.get? l.items y := by
  obtain ⟨c, hc, hid, hshown⟩ := entryFor?_of_follows h
  refine ⟨l.evolve c, by simp [index?, hc], hshown, fun y hy => ?_⟩
  rw [get?_evolve, if_neg (hid ▸ hy)]

/-- The events about the record `x` that a listing showing `o` for it takes one after another,
leaving it showing `o'`. -/
inductive Chain (x : Uuid) : Option ListItem → List Event → Option ListItem → Prop
  | nil (o : Option ListItem) : Chain x o [] o
  | cons {o o' : Option ListItem} {e : Event} {es : List Event} :
      Follows x o e → Chain x (some (ListItem.ofEvent e x)) es o' → Chain x o (e :: es) o'

theorem Chain.eq_of_nil {o o' : Option ListItem} (h : Chain x o [] o') : o = o' := by
  cases h
  rfl

theorem Chain.of_cons {o o' : Option ListItem} {es : List Event} (h : Chain x o (e :: es) o') :
    Follows x o e ∧ Chain x (some (ListItem.ofEvent e x)) es o' := by
  cases h with
  | cons hf hc => exact ⟨hf, hc⟩

/-- The fold of events that each name a record, in which every record's own events form a
chain from what the listing shows for it, takes every event and leaves each record showing
the end of its chain. -/
theorem foldlM_index? {es : List Event} {shown : Uuid → Option ListItem}
    (hid : ∀ e ∈ es, e.id.isSome)
    (hchain : ∀ x, Chain x (Keyed.get? l.items x) (es.filter (·.id = some x)) (shown x)) :
    ∃ l', es.foldlM index? l = some l' ∧ ∀ x, Keyed.get? l'.items x = shown x := by
  induction es generalizing l with
  | nil =>
    exact ⟨l, rfl, fun x => (hchain x).eq_of_nil⟩
  | cons e rest ih =>
    obtain ⟨x, hx⟩ := Option.isSome_iff_exists.mp (hid e List.mem_cons_self)
    have hfirst := hchain x
    simp only [List.filter_cons, hx, decide_true, if_true] at hfirst
    obtain ⟨hfollows, hrest⟩ := hfirst.of_cons
    obtain ⟨l₁, hl₁, hself, hother⟩ := index?_of_follows hfollows
    -- the other records keep what they showed, and their events are the same
    have hchain₁ : ∀ y, Chain y (Keyed.get? l₁.items y) (rest.filter (·.id = some y))
        (shown y) := by
      intro y
      by_cases hy : y = x
      · subst hy
        rw [hself]
        exact hrest
      · have hne : ¬ (e.id = some y) := by rw [hx]; simpa using Ne.symm hy
        have := hchain y
        rw [List.filter_cons, if_neg (by simpa using hne)] at this
        rwa [hother y hy]
    obtain ⟨l', hl', hshown⟩ := ih (fun e he => hid e (List.mem_cons_of_mem _ he)) hchain₁
    exact ⟨l', by simp [List.foldlM_cons, hl₁, hl'], hshown⟩

def Filed (l : Listing) : Prop := ∀ p ∈ l.items, p.1 = p.2.id

theorem filed_empty : ({} : Listing).Filed := fun _ h => absurd h List.not_mem_nil

theorem Filed.evolve (hl : l.Filed) (c : ListCommand) : (l.evolve c).Filed := by
  intro p hp
  cases c with
  | insert i | update i =>
    rcases Keyed.mem_insert hp with rfl | hp
    · rfl
    · exact hl p hp
  | delete id | undelete id =>
    obtain ⟨q, hq, rfl⟩ := List.mem_map.mp hp
    split_ifs
    · exact hl q hq
    · exact hl q hq

theorem Filed.index? (hl : l.Filed) (h : l.index? e = some l') : l'.Filed := by
  obtain ⟨c, -, rfl⟩ := Option.map_eq_some_iff.mp h
  exact hl.evolve c

theorem Filed.foldlM {es : List Event} (hl : l.Filed) (h : es.foldlM Listing.index? l = some l') :
    l'.Filed := by
  induction es generalizing l with
  | nil =>
    simp only [List.foldlM_nil] at h
    cases h
    exact hl
  | cons e rest ih =>
    simp only [List.foldlM_cons] at h
    obtain ⟨l₁, hl₁, hrest⟩ := Option.bind_eq_some_iff.mp h
    exact ih (hl.index? hl₁) hrest

end Listing

theorem EntityType.isActive_toJson {k : EntityType} (s : k.Rec) :
    ((Record.toJson s).field? "isActive").bind Json.bool? = some (Record.isActive s) := by
  cases k with
  | client =>
    change ((ClientState.toJson s).field? "isActive").bind Json.bool? =
      some (ClientState.isActive s)
    simp [-String.lt_iff_ltb, ClientState.toJson, Json.mkObj, Json.insertMember, Json.field?,
      List.lookup, Json.bool?]
  | user =>
    change ((UserState.toJson s).field? "isActive").bind Json.bool? = some (UserState.isActive s)
    simp [-String.lt_iff_ltb, UserState.toJson, Json.mkObj, Json.insertMember, Json.field?,
      List.lookup, Json.bool?]

namespace EntityUnit

variable {k : EntityType} {x : Uuid}

def shownAs (x : Uuid) (s : k.Rec) : Option ListItem :=
  (Record.id s).map fun _ => ⟨x, Record.displayName s, Record.isActive s⟩

@[simp] theorem commandType_applied (s : k.Rec) (t : CommandType) (m : CommandMeta) :
    (applied k x s t m).commandType = t := rfl

theorem ofEvent_applied (s : k.Rec) (t : CommandType) (m : CommandMeta) :
    ListItem.ofEvent (applied k x s t m) x = ⟨x, Record.displayName s, Record.isActive s⟩ := by
  simp [ListItem.ofEvent, applied, Event.withPayload, Event.forEntity, Event.emittedBy,
    EntityType.isActive_toJson]

/-- The success events an entity unit of kind `k` for the record `x` announces while its record
goes from `s` to `r`: each command it takes is aimed at `x`, accepted by the record, and
announced with the record after it (the event `execute_of_appended` shows it publishing). -/
inductive Publishes (k : EntityType) (x : Uuid) : k.Rec → List Event → k.Rec → Prop
  | nil (s : k.Rec) : Publishes k x s [] s
  | cons {s r : k.Rec} {c e : Command k.Rec} {t : Instant} {evs : List Event} :
      Record.decide t s c = .ok e → c.target = some x →
      Publishes k x (Record.evolve s e) evs r →
      Publishes k x s (applied k x (Record.evolve s e) c.commandType e.issuer :: evs) r

/-- An accepted command announced by the unit follows what the listing shows for the record
before it. -/
theorem follows_applied {s : k.Rec} {c e : Command k.Rec} {now : Instant}
    (hdec : Record.decide now s c = .ok e) (ht : c.target = some x) :
    Listing.Follows x (shownAs x s) (applied k x (Record.evolve s e) c.commandType e.issuer) := by
  have hmove := Record.decide_moves hdec
  rw [ht] at hmove
  refine ⟨rfl, rfl, ?_⟩
  rw [commandType_applied, ofEvent_applied]
  -- the kind of the command is the kind of the move the record made
  generalize c.commandType = kd at hmove ⊢
  generalize Record.evolve s e = t at hmove ⊢
  cases hmove with
  | create i now p hk hnone _ =>
    rcases hk with hk | hk <;> simp [hk, shownAs, hnone]
  | update i p hid _ _ => simp [shownAs, hid]
  | upsert i p hid _ _ => trivial
  | delete i hid _ => simp [shownAs, hid]
  | undelete i hid _ => simp [shownAs, hid]

theorem Publishes.chain {s r : k.Rec} {evs : List Event} (h : Publishes k x s evs r) :
    Listing.Chain x (shownAs x s) evs (shownAs x r) := by
  induction h with
  | nil s => exact .nil _
  | cons hdec ht _ ih =>
    refine .cons (follows_applied hdec ht) ?_
    -- after an accepted command the record exists under `x`
    have hid := Record.id_evolve_of_decide hdec
    rw [ht] at hid
    rw [ofEvent_applied]
    simpa [shownAs, hid] using ih

theorem Publishes.id_eq {s r : k.Rec} {evs : List Event} (h : Publishes k x s evs r) :
    ∀ ev ∈ evs, ev.id = some x := by
  induction h with
  | nil s => exact fun _ h => absurd h List.not_mem_nil
  | cons _ _ _ ih =>
    intro ev hev
    rcases List.mem_cons.mp hev with rfl | hev
    · rfl
    · exact ih ev hev

theorem Publishes.id_final {s r : k.Rec} {evs : List Event} (h : Publishes k x s evs r)
    (hne : evs ≠ []) : Record.id r = some x := by
  induction h with
  | nil s => exact absurd rfl hne
  | @cons s r c e t evs hdec ht hrest ih =>
    cases evs with
    | nil =>
      cases hrest
      rw [Record.id_evolve_of_decide hdec, ht]
    | cons _ _ => exact ih (List.cons_ne_nil _ _)

end EntityUnit

/-- The events one entity unit announces from its empty record: the record's kind and
identity, the record it ends with, and at least one event. -/
structure EntityRun where
  kind : EntityType
  id : Uuid
  final : kind.Rec
  events : List Event
  publishes : EntityUnit.Publishes kind id Record.empty events final
  nonempty : events ≠ []

namespace EntityRun

def item (r : EntityRun) : ListItem :=
  ⟨r.id, Record.displayName r.final, Record.isActive r.final⟩

theorem id_of_mem {r : EntityRun} {ev : Event} (h : ev ∈ r.events) : ev.id = some r.id :=
  r.publishes.id_eq ev h

theorem shownAs_final (r : EntityRun) : EntityUnit.shownAs r.id r.final = some r.item := by
  simp [EntityUnit.shownAs, r.publishes.id_final r.nonempty, item]

end EntityRun

def Merges {α : Type} (ls : List (List α)) (m : List α) : Prop :=
  m.Perm ls.flatten ∧ ∀ l ∈ ls, l.Sublist m

namespace EntityRun

variable {runs : List EntityRun}

/-- Among runs of distinct records, the events about a record are those of its run. -/
theorem filter_flatten (hids : (runs.map (·.id)).Nodup) (x : Uuid) :
    (runs.map (·.events)).flatten.filter (·.id = some x) =
      ((runs.find? (·.id = x)).map (·.events)).getD [] := by
  induction runs with
  | nil => rfl
  | cons r rest ih =>
    obtain ⟨hr, hrest⟩ := List.nodup_cons.mp hids
    simp only [List.map_cons, List.flatten_cons, List.filter_append, List.find?_cons]
    by_cases hx : r.id = x
    · subst hx
      -- no other run is about this record
      have hnone : rest.find? (·.id = r.id) = none :=
        List.find?_eq_none.mpr fun r' hr' heq =>
          hr (List.mem_map.mpr ⟨r', hr', by simpa using heq⟩)
      rw [ih hrest, hnone, List.filter_eq_self.mpr fun ev hev => by simp [id_of_mem hev]]
      simp
    · rw [ih hrest, List.filter_eq_nil_iff.mpr fun ev hev => by simp [id_of_mem hev, hx]]
      simp [hx]

/-- In a merge of runs of distinct records, the events about a record are its run's, in the
run's order. -/
theorem filter_merged (hids : (runs.map (·.id)).Nodup) {merged : List Event}
    (hm : Merges (runs.map (·.events)) merged) (x : Uuid) :
    merged.filter (·.id = some x) = ((runs.find? (·.id = x)).map (·.events)).getD [] := by
  have hperm := (hm.1.filter (·.id = some x)).trans (List.Perm.of_eq (filter_flatten hids x))
  cases hfind : runs.find? (·.id = x) with
  | none =>
    rw [hfind] at hperm
    exact List.Perm.eq_nil hperm
  | some r =>
    rw [hfind] at hperm
    have hr := List.mem_of_find?_eq_some hfind
    have hrx : r.id = x := by simpa using List.find?_some hfind
    -- the run is a sublist of the events about its record, and as long
    have hsub : r.events.Sublist (merged.filter (·.id = some x)) := by
      have := (hm.2 r.events (List.mem_map_of_mem hr)).filter (·.id = some x)
      rwa [List.filter_eq_self.mpr fun ev hev => by simp [id_of_mem hev, hrx]] at this
    exact (hsub.eq_of_length hperm.length_eq.symm).symm

theorem find?_of_mem (hids : (runs.map (·.id)).Nodup) {r : EntityRun} (hr : r ∈ runs) :
    runs.find? (·.id = r.id) = some r := by
  induction runs with
  | nil => exact absurd hr List.not_mem_nil
  | cons r₀ rest ih =>
    obtain ⟨h₀, hrest⟩ := List.nodup_cons.mp hids
    rcases List.mem_cons.mp hr with rfl | hr
    · simp
    · have hne : r₀.id ≠ r.id := fun h => h₀ (List.mem_map.mpr ⟨r, hr, h.symm⟩)
      simp [hne, ih hrest hr]

end EntityRun

/-- Whatever order the events of the entity units of distinct records reach a listing in, as
long as each unit's events keep their order, the listing takes every one of them and ends with
one item per record, filed under the record: the record's last name and active flag. -/
theorem listing_converges (runs : List EntityRun) (hids : (runs.map (·.id)).Nodup)
    {merged : List Event} (hm : Merges (runs.map (·.events)) merged) :
    ∃ l, merged.foldlM Listing.index? {} = some l ∧
      (∀ r ∈ runs, Keyed.get? l.items r.id = some r.item) ∧
      (∀ x, x ∉ runs.map (·.id) → Keyed.get? l.items x = none) ∧ l.Filed := by
  have hid : ∀ ev ∈ merged, ev.id.isSome := by
    intro ev hev
    obtain ⟨evs, hevs, hmem⟩ := List.mem_flatten.mp (hm.1.subset hev)
    obtain ⟨r, -, rfl⟩ := List.mem_map.mp hevs
    simp [EntityRun.id_of_mem hmem]
  -- each record's events are its run, a chain from nothing shown to the run's item
  have hchain : ∀ x, Listing.Chain x (Keyed.get? ({} : Listing).items x)
      (merged.filter (·.id = some x)) ((runs.find? (·.id = x)).map EntityRun.item) := by
    intro x
    rw [EntityRun.filter_merged hids hm x]
    cases hfind : runs.find? (·.id = x) with
    | none => exact .nil _
    | some r =>
      have hrx : r.id = x := by simpa using List.find?_some hfind
      subst hrx
      have hempty : Keyed.get? ({} : Listing).items r.id =
          EntityUnit.shownAs r.id (Record.empty : r.kind.Rec) := by
        simp [EntityUnit.shownAs, Keyed.get?]
      simp only [Option.map_some, Option.getD_some]
      rw [← r.shownAs_final, hempty]
      exact r.publishes.chain
  obtain ⟨l, hl, hshown⟩ := Listing.foldlM_index? hid hchain
  refine ⟨l, hl, fun r hr => ?_, fun x hx => ?_, Listing.filed_empty.foldlM hl⟩
  · rw [hshown, EntityRun.find?_of_mem hids hr]
    rfl
  · rw [hshown, List.find?_eq_none.mpr fun r hr heq =>
      hx (List.mem_map.mpr ⟨r, hr, by simpa using heq⟩)]
    rfl

namespace EntityRun

/-- A client inserted as `Acme` and then deleted. -/
def acmeClient : EntityRun :=
  let m : CommandMeta := ⟨"ann", "c1", none⟩
  let a := Uuid.ofNat 1
  let s₁ : EntityType.client.Rec := Record.inserted a .present (ClientState.named "Acme")
  have hname : Blank.isBlankText
      (Record.displayName (σ := EntityType.client.Rec) (ClientState.named "Acme")) = false := by
    decide
  have hfirst : Record.nameFirst EntityType.client.Rec = true := rfl
  { kind := .client, id := a
    final := Record.setActive s₁ false
    events := [EntityUnit.applied .client a s₁ .insert m,
      EntityUnit.applied .client a (Record.setActive s₁ false) .delete m]
    publishes := .cons (k := .client) (s := Record.empty)
      (c := .insert ⟨some a, ClientState.named "Acme", m⟩) (t := .present)
      (e := .insert ⟨some a, s₁, m⟩)
      (by simp [Record.decide, Record.checkNameAndTarget, Record.ensureName, hname, hfirst,
        Record.requireTarget]; rfl) rfl
      (.cons (c := .delete ⟨a, m⟩) (t := .present) (e := .delete ⟨a, m⟩)
        (by simp [Record.decide, Record.ensureExists, s₁]; rfl) rfl (.nil _))
    nonempty := List.cons_ne_nil _ _ }

/-- A user created as `ann` by an upsert and then renamed `anne` by an update. -/
def annUser : EntityRun :=
  let m : CommandMeta := ⟨"ann", "c1", none⟩
  let b := Uuid.ofNat 2
  let s₁ : EntityType.user.Rec := Record.inserted b .present (UserState.named "ann")
  have hann : Blank.isBlankText
      (Record.displayName (σ := EntityType.user.Rec) (UserState.named "ann")) = false := by
    decide
  have hanne : Blank.isBlankText
      (Record.displayName (σ := EntityType.user.Rec) (UserState.named "anne")) = false := by
    decide
  have hfirst : Record.nameFirst EntityType.user.Rec = false := rfl
  { kind := .user, id := b
    final := Record.updateFrom s₁ (UserState.named "anne")
    events := [EntityUnit.applied .user b s₁ .upsert m,
      EntityUnit.applied .user b (Record.updateFrom s₁ (UserState.named "anne")) .update m]
    publishes := .cons (k := .user) (s := Record.empty)
      (c := .upsert ⟨some b, UserState.named "ann", m⟩)
      (t := .present) (e := .upsert ⟨some b, s₁, m⟩)
      (by simp [Record.decide, Record.checkNameAndTarget, Record.ensureName, hann, hfirst,
        Record.requireTarget]; rfl) rfl
      (.cons (k := .user) (c := .update ⟨some b, UserState.named "anne", m⟩) (t := .present)
        (e := .update ⟨some b, UserState.named "anne", m⟩)
        (by simp [Record.decide, Record.ensureExists, Record.requireTarget, Record.ensureName,
          hanne]; rfl) rfl (.nil _))
    nonempty := List.cons_ne_nil _ _ }

end EntityRun

/-- A client and a user whose events reach the listing alternately. -/
theorem listing_converges_client_and_user :
    let runs := [EntityRun.acmeClient, EntityRun.annUser]
    let merged := EntityRun.acmeClient.events.take 1 ++ EntityRun.annUser.events.take 1 ++
      EntityRun.acmeClient.events.drop 1 ++ EntityRun.annUser.events.drop 1
    (runs.map (·.id)).Nodup ∧ Merges (runs.map (·.events)) merged ∧
    ∃ l, merged.foldlM Listing.index? {} = some l ∧
      (∀ r ∈ runs, Keyed.get? l.items r.id = some r.item) ∧
      (∀ x, x ∉ runs.map (·.id) → Keyed.get? l.items x = none) ∧ l.Filed := by
  intro runs merged
  have hids : (runs.map (·.id)).Nodup := by
    show [Uuid.ofNat 1, Uuid.ofNat 2].Nodup
    decide
  -- the merge takes the first event of each run, then the rest of each
  have hmerge : ∀ A₁ A₂ B₁ B₂ : List Event,
      Merges [A₁ ++ A₂, B₁ ++ B₂] (A₁ ++ B₁ ++ A₂ ++ B₂) := by
    intro A₁ A₂ B₁ B₂
    refine ⟨?_, ?_⟩
    · simpa only [List.flatten_cons, List.flatten_nil, List.append_nil, List.append_assoc] using
        (List.perm_append_comm_assoc B₁ A₂ B₂).append_left A₁
    · simp only [List.mem_cons, List.not_mem_nil, or_false, List.append_assoc]
      rintro l (rfl | rfl)
      · exact (List.Sublist.refl A₁).append
          ((List.sublist_append_left A₂ B₂).trans (List.sublist_append_right B₁ _))
      · exact ((List.Sublist.refl B₁).append (List.sublist_append_right A₂ B₂)).trans
          (List.sublist_append_right A₁ _)
  have hm : Merges (runs.map (·.events)) merged := by
    have := hmerge (EntityRun.acmeClient.events.take 1) (EntityRun.acmeClient.events.drop 1)
      (EntityRun.annUser.events.take 1) (EntityRun.annUser.events.drop 1)
    rwa [List.take_append_drop, List.take_append_drop] at this
  exact ⟨hids, hm, listing_converges runs hids hm⟩

end Chronicle
