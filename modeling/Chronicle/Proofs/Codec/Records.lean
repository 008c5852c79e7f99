import Mathlib
import Chronicle.Client.State
import Chronicle.User.State
import Chronicle.Listing.Basic
import Chronicle.Proofs.Text.Uuid
import Chronicle.Proofs.Text.Timestamp

/-! Documents of records, and of the values in them, read back as what was written. -/
namespace Chronicle

namespace Read

theorem u32_ofNat {n : Nat} (h : n < 4294967296) : u32 (.ofNat n) = .ok n := by
  simp only [u32, intIn, Json.ofNat]
  rw [if_pos ⟨by omega, by omega⟩]
  rfl

theorem u64_ofNat {n : Nat} (h : n < 18446744073709551616) : u64 (.ofNat n) = .ok n := by
  simp only [u64, intIn, Json.ofNat]
  rw [if_pos ⟨by omega, by omega⟩]
  rfl

theorem i32_int {n : Int} (h1 : -2147483648 ≤ n) (h2 : n ≤ 2147483647) :
    i32 (.int n) = .ok n := by
  simp only [i32, intIn]
  rw [if_pos ⟨h1, h2⟩]

theorem uuidText_render (u : Uuid) : uuidText u.render = .ok u := by
  simp [uuidText, Uuid.parse_render]

theorem uuid_render (u : Uuid) : uuid (.str u.render) = .ok u :=
  uuidText_render u

theorem timestamp_render {t : Timestamp} (h : t.Valid) : timestamp (.str t.render) = .ok t := by
  simp [timestamp, Timestamp.parse_render h]

theorem option_ofOption {r : Json → Decoded α} {f : α → Json} {x : Option α}
    (hnull : ∀ a, f a ≠ .null) (hr : ∀ a ∈ x, r (f a) = .ok a) :
    option r (Json.ofOption (x.map f)) = .ok x := by
  cases x with
  | none => rfl
  | some a =>
    simp only [option, Option.map_some, Json.ofOption]
    split
    · rename_i h; exact absurd h (hnull a)
    · simp [hr a rfl, Except.map]

theorem list_map {r : Json → Decoded α} {f : α → Json} {xs : List α}
    (hr : ∀ a ∈ xs, r (f a) = .ok a) : list r (.arr (xs.map f)) = .ok xs := by
  induction xs with
  | nil => rfl
  | cons a xs ih =>
    simp only [List.mem_cons, forall_eq_or_imp] at hr
    have := ih hr.2
    simp only [list, List.map_cons, List.mapM_cons, hr.1] at this ⊢
    rw [this]; rfl

theorem map_members {key : String → Decoded κ} {r : Json → Decoded α} (kf : κ → String)
    {f : α → Json} {xs : List (κ × α)} (hk : ∀ e ∈ xs, key (kf e.1) = .ok e.1)
    (hr : ∀ e ∈ xs, r (f e.2) = .ok e.2) :
    map key r (.obj (xs.map (fun e => (kf e.1, f e.2)))) = .ok xs := by
  induction xs with
  | nil => rfl
  | cons e xs ih =>
    simp only [List.mem_cons, forall_eq_or_imp] at hk hr
    have := ih hk.2 hr.2
    simp only [map, List.map_cons, List.mapM_cons, hk.1, hr.1] at this ⊢
    rw [this]; rfl

end Read

def Instant.Fits : Instant → Prop
  | .written t => t.Valid
  | .present => True

theorem Read.option_ofStr? (x : Option String) :
    Read.option Read.string (Json.ofStr? x) = .ok x := by
  cases x <;> rfl

theorem Read.instant_toJson {i : Instant} (h : i.Fits) : Read.instant i.toJson = .ok i := by
  cases i with
  | written t =>
    simp only [Instant.Fits] at h
    simp [Read.instant, Instant.toJson, Read.timestamp, Timestamp.parse_render h, Except.map]
  | present => rfl

theorem Instant.toJson_ne_null (i : Instant) : i.toJson ≠ .null := by
  cases i <;> simp [Instant.toJson]

theorem Contact.read_toJson (c : Contact) (o : Origin) : Contact.read o c.toJson = .ok c := by
  simp [-String.lt_iff_ltb, Contact.read, Contact.toJson, Json.mkObj, Json.insertMember, readRecord,
      Field.plain, Read.string]
  rfl

def Engagement.Fits (e : Engagement) : Prop := e.projectCount < 4294967296

theorem Engagement.read_toJson {e : Engagement} (h : e.Fits) (o : Origin) :
    Engagement.read o e.toJson = .ok e := by
  simp [-String.lt_iff_ltb, Engagement.read, Engagement.toJson, Json.mkObj, Json.insertMember,
      readRecord, Field.plain, Read.string, Read.bool, Read.u32_ofNat h]
  rfl

/-- The client records a document carries: an instant added that has a text, a fiscal year
of 32 signed bits, project counts of 32 bits. -/
structure ClientState.Fits (s : ClientState) : Prop where
  addedOn : ∀ i ∈ s.addedOn, i.Fits
  fiscalYear : -2147483648 ≤ s.lastActiveFiscalYear ∧ s.lastActiveFiscalYear ≤ 2147483647
  projectCount : s.lastKnownActiveProjectCount < 4294967296
  engagements : ∀ e ∈ s.engagements, e.Fits

/-- Every client record that fits its document reads back from it. -/
theorem ClientState.read_toJson {s : ClientState} (h : s.Fits) (o : Origin) :
    ClientState.read o s.toJson = .ok s := by
  have hid : Read.option Read.uuid (Json.ofOption (s.id.map (.str ·.render))) = .ok s.id :=
    Read.option_ofOption (fun _ => by simp) (fun u _ => Read.uuid_render u)
  have hadded : Read.option Read.instant (Json.ofOption (s.addedOn.map Instant.toJson)) =
      .ok s.addedOn :=
    Read.option_ofOption Instant.toJson_ne_null (fun i hi => Read.instant_toJson (h.addedOn i hi))
  have heng : Read.list (Engagement.read o) (.arr (s.engagements.map Engagement.toJson)) =
      .ok s.engagements :=
    Read.list_map (fun e he => Engagement.read_toJson (h.engagements e he) o)
  simp [-String.lt_iff_ltb, ClientState.read, ClientState.toJson, Json.mkObj, Json.insertMember,
      readRecord, ClientState.fields, Field.plain, Read.string, Read.bool,
      Read.u32_ofNat h.projectCount, Read.i32_int h.fiscalYear.1 h.fiscalYear.2, hid, hadded, heng,
      Contact.read_toJson]
  rfl

theorem ClientState.read_record {s : ClientState} (h : s.Fits) (o : Origin) :
    Record.read o (Record.toJson s) = .ok s := by
  dsimp only [Record.read, Record.toJson]
  exact ClientState.read_toJson h o

theorem CommandMeta.read_toJson (m : CommandMeta) (o : Origin) :
    CommandMeta.read o m.toJson = .ok m := by
  obtain ⟨user, conn, hint⟩ := m
  cases hint with
  | none =>
    simp [-String.lt_iff_ltb, CommandMeta.read, CommandMeta.toJson, CommandMeta.fields, Json.mkObj,
        Json.insertMember, readRecord, Field.plain, Read.string]
    rfl
  | some h =>
    simp [-String.lt_iff_ltb, CommandMeta.read, CommandMeta.toJson, CommandMeta.fields, Json.mkObj,
        Json.insertMember, readRecord, Field.plain, Read.string, Read.option, Except.map]
    rfl

theorem ListItem.read_toJson (i : ListItem) (o : Origin) : ListItem.read o i.toJson = .ok i := by
  simp [-String.lt_iff_ltb, ListItem.read, ListItem.toJson, Json.mkObj, Json.insertMember,
      readRecord, Field.plain, Read.string, Read.bool, Read.uuid_render]
  rfl

namespace Permission

theorem toJson_mk (area : String) (sub : Option String) (roles : List String)
    (subs : List (String × Permission)) :
    toJson ⟨area, sub, roles, subs⟩ =
      .obj [("area", .str area), ("roles", .arr (roles.map .str)), ("subArea", Json.ofStr? sub),
        ("subAreaPermissions", .obj (subs.map (fun e => (e.1, toJson e.2))))] := by
  rw [toJson]
  simp only [List.attach_map_val (f := fun e : String × Permission => (e.1, toJson e.2))]
  simp [-String.lt_iff_ltb, Json.mkObj, Json.insertMember]

private theorem le_foldl_max {l : List Nat} {a : Nat} (init : Nat) (h : a ∈ l ∨ a ≤ init) :
    a ≤ l.foldl max init := by
  induction l generalizing init with
  | nil => simpa using h
  | cons b l ih =>
    apply ih
    simp only [List.mem_cons] at h
    rcases h with (rfl | h) | h
    · exact .inr (Nat.le_max_right _ _)
    · exact .inl h
    · exact .inr (Nat.le_trans h (Nat.le_max_left _ _))

theorem depth_lt_of_mem {members : List (String × Json)} {m : String × Json} (h : m ∈ members) :
    depth m.2 < depth (.obj members) := by
  rw [depth]
  simp only [List.attach_map_val (f := fun m : String × Json => depth m.2)]
  have := le_foldl_max 0 (.inl (List.mem_map_of_mem (f := fun m : String × Json => depth m.2) h))
  omega

theorem depth_toJson_mk (area : String) (sub : Option String) (roles : List String)
    (subs : List (String × Permission)) :
    (∀ e ∈ subs, depth e.2.toJson + 2 ≤ depth (toJson ⟨area, sub, roles, subs⟩)) ∧
      2 ≤ depth (toJson ⟨area, sub, roles, subs⟩) := by
  rw [toJson_mk]
  -- the refinements are the last member of the document
  have hmem : ("subAreaPermissions", Json.obj (subs.map (fun e => (e.1, toJson e.2)))) ∈
      [("area", Json.str area), ("roles", .arr (roles.map .str)), ("subArea", Json.ofStr? sub),
       ("subAreaPermissions", .obj (subs.map (fun e => (e.1, toJson e.2))))] := by simp
  have hsubs := depth_lt_of_mem hmem
  refine ⟨fun e he => ?_, ?_⟩
  · have := depth_lt_of_mem
      (List.mem_map_of_mem (f := fun e : String × Permission => (e.1, toJson e.2)) he)
    simp only at this hsubs
    omega
  · have : 1 ≤ depth (.obj (subs.map (fun e => (e.1, toJson e.2)))) := by
      rw [depth]; omega
    simp only at hsubs
    omega

/-- A permission reads back from its document when the reader may go as deep as the
document nests. -/
theorem readWithin_toJson (n : Nat) :
    ∀ (p : Permission) (o : Origin), depth p.toJson ≤ n + 1 →
      readWithin n o p.toJson = .ok p := by
  induction n with
  | zero =>
    intro ⟨area, sub, roles, subs⟩ o h
    have := (depth_toJson_mk area sub roles subs).2
    omega
  | succ n ih =>
    intro ⟨area, sub, roles, subs⟩ o h
    -- each refinement nests at least two levels less deep, so it reads back one level down
    have hsubs : Read.map .ok (readWithin n o) (.obj (subs.map (fun e => (e.1, toJson e.2)))) =
        .ok subs :=
      Read.map_members id (fun _ _ => rfl) (fun e he =>
        ih e.2 o (by have := (depth_toJson_mk area sub roles subs).1 e he; omega))
    have hroles : Read.list Read.string (.arr (roles.map .str)) = .ok roles :=
      Read.list_map (fun _ _ => rfl)
    rw [readWithin, toJson_mk]
    simp [readRecord, Field.plain, Read.string, hsubs, hroles, Read.option_ofStr?, Except.map]
    rfl

theorem read_toJson (p : Permission) (o : Origin) : read o p.toJson = .ok p :=
  readWithin_toJson _ p o (Nat.le_succ _)

end Permission

/-- The user records a document carries: instants that have a text, a project count of 32
bits. -/
structure UserState.Fits (s : UserState) : Prop where
  addedOn : ∀ i ∈ s.addedOn, i.Fits
  lastLoggedOn : ∀ t ∈ s.lastLoggedOn, t.Valid
  projectCount : s.lastKnownActiveProjectCount < 4294967296

/-- Every user record that fits its document reads back from it, permissions and all. -/
theorem UserState.read_toJson {s : UserState} (h : s.Fits) (o : Origin) :
    UserState.read o s.toJson = .ok s := by
  have hid : Read.option Read.uuid (Json.ofOption (s.id.map (.str ·.render))) = .ok s.id :=
    Read.option_ofOption (fun _ => by simp) (fun u _ => Read.uuid_render u)
  have hadded : Read.option Read.instant (Json.ofOption (s.addedOn.map Instant.toJson)) =
      .ok s.addedOn :=
    Read.option_ofOption Instant.toJson_ne_null (fun i hi => Read.instant_toJson (h.addedOn i hi))
  have hlogged : Read.option Read.timestamp (Json.ofOption (s.lastLoggedOn.map (.str ·.render))) =
      .ok s.lastLoggedOn :=
    Read.option_ofOption (fun _ => by simp)
      (fun t ht => Read.timestamp_render (h.lastLoggedOn t ht))
  have hperms : Read.map .ok (Permission.read o) (.obj (s.permissions.map
      (fun kp => (kp.1, kp.2.toJson)))) = .ok s.permissions :=
    Read.map_members (fun k => k) (fun _ _ => rfl) (fun e _ => Permission.read_toJson e.2 o)
  simp [-String.lt_iff_ltb, UserState.read, UserState.toJson, Json.mkObj, Json.insertMember,
      readRecord, UserState.fields, Field.plain, Read.string, Read.bool, Read.option_ofStr?,
      Read.u32_ofNat h.projectCount, hid, hadded, hlogged, hperms]
  rfl

theorem UserState.read_record {s : UserState} (h : s.Fits) (o : Origin) :
    Record.read o (Record.toJson s) = .ok s := by
  dsimp only [Record.read, Record.toJson]
  exact UserState.read_toJson h o

namespace Keyed

def Sorted {κ α : Type} [LT κ] (xs : List (κ × α)) : Prop :=
  xs.Pairwise (fun a b => a.1 < b.1)

theorem insert_of_lt_all {α : Type} {k : Uuid} {v : α} {xs : List (Uuid × α)}
    (h : ∀ e ∈ xs, e.1 < k) : insert k v xs = xs ++ [(k, v)] := by
  induction xs with
  | nil => rfl
  | cons e xs ih =>
    obtain ⟨k2, v2⟩ := e
    simp only [List.mem_cons, forall_eq_or_imp] at h
    have hlt : k2.val < k.val := h.1
    have hne : k ≠ k2 := fun heq => by rw [heq] at hlt; omega
    rw [insert, if_neg (show ¬ k < k2 from fun h' => by change k.val < k2.val at h'; omega),
      if_neg hne, ih h.2, List.cons_append]

theorem foldl_insert_of_sorted {α : Type} (xs : List (Uuid × α)) :
    ∀ acc : List (Uuid × α), Sorted (acc ++ xs) →
      xs.foldl (fun acc e => insert e.1 e.2 acc) acc = acc ++ xs := by
  induction xs with
  | nil => simp
  | cons e xs ih =>
    intro acc h
    have hlt : ∀ a ∈ acc, a.1 < e.1 := fun a ha =>
      (List.pairwise_append.mp h).2.2 a ha e (List.mem_cons_self ..)
    rw [List.foldl_cons, insert_of_lt_all hlt, ih (acc ++ [e]) (by simpa using h)]
    simp

theorem ofList_of_sorted {α : Type} {xs : List (Uuid × α)} (h : Sorted xs) : ofList xs = xs :=
  foldl_insert_of_sorted xs [] h

end Keyed

def Listing.Fits (l : Listing) : Prop := Keyed.Sorted l.items

theorem Listing.read_toJson {l : Listing} (h : l.Fits) (o : Origin) :
    Listing.read o l.toJson = .ok l := by
  have hitems : Read.map Read.uuidText (ListItem.read o)
      (.obj (l.items.map (fun e => (e.1.render, e.2.toJson)))) = .ok l.items :=
    Read.map_members Uuid.render (fun e _ => Read.uuidText_render e.1)
      (fun e _ => ListItem.read_toJson e.2 o)
  simp [-String.lt_iff_ltb, Listing.read, Listing.toJson, Json.mkObj, Json.insertMember, readRecord,
      hitems, Except.map, Keyed.ofList_of_sorted h]

end Chronicle
