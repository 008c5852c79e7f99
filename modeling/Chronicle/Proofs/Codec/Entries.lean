import Mathlib
import Chronicle.Journal.Entry
import Chronicle.Proofs.Codec.Records

/-! Logged commands and settings read back as themselves. -/
namespace Chronicle

theorem Read.variantName_of_mem {known : List String} {s : String} (h : s ∈ known) :
    Read.variantName known (.str s) = .ok s := by
  simp [Read.variantName, h]

namespace Command

variable {σ : Type} [Record σ]

def Fits (fits : σ → Prop) : Command σ → Prop
  | .insert c | .update c | .upsert c => fits c.state
  | .delete _ | .undelete _ => True

theorem classOf_eq_classOf (k : EntityType) (t t' : CommandType) :
    classOf k t = classOf k t' ↔ t = t' := by
  constructor
  · intro h
    cases k <;> cases t <;> cases t' <;> first | rfl | exact absurd h (by decide)
  · rintro rfl; rfl

theorem classOf_mem_classes (k : EntityType) (t : CommandType) : classOf k t ∈ classes k := by
  cases t <;> simp [classes]

theorem classOf_toJson (c : Command σ) : Chronicle.classOf c.toJson = some c.cls := by
  cases c <;> simp [-String.lt_iff_ltb, toJson, Json.mkObj, Json.insertMember, Chronicle.classOf,
      Json.field?, List.lookup, Json.str?]

theorem cls_mem_classes (c : Command σ) : c.cls ∈ classes (Record.kind σ) :=
  classOf_mem_classes _ _

theorem cls_not_mem_settings (c : Command σ) : c.cls ∉ UnitSetting.classes := by
  unfold cls
  cases Record.kind σ <;> cases c.commandType <;> decide

theorem readChange_toJson (ch : Change σ)
    (h : Record.read .buffered (Record.toJson ch.state) = .ok ch.state) :
    readChange .buffered (.obj [("id", Json.ofOption (ch.id.map (.str ·.render))),
      ("meta", ch.issuer.toJson), ("state", Record.toJson ch.state)]) = .ok ch := by
  have hid : Read.option Read.uuid (Json.ofOption (ch.id.map (.str ·.render))) = .ok ch.id :=
    Read.option_ofOption (fun _ => by simp) (fun u _ => Read.uuid_render u)
  simp [readChange, readRecord, hid, h, CommandMeta.read_toJson, Except.map]
  rfl

theorem readLifecycle_toJson (l : Lifecycle) :
    readLifecycle .buffered (.obj [("id", .str l.id.render), ("meta", l.issuer.toJson)]) =
      .ok l := by
  simp [readLifecycle, readRecord, Read.uuid_render, CommandMeta.read_toJson, Except.map]
  rfl

theorem read_toJson {fits : σ → Prop}
    (hread : ∀ s, fits s → Record.read .buffered (Record.toJson s) = .ok s) {c : Command σ}
    (h : c.Fits fits) : Command.read c.toJson = .ok c := by
  have htag := fun t => Read.variantName_of_mem (classOf_mem_classes (Record.kind σ) t)
  cases c with
  | insert ch | update ch | upsert ch =>
    simp [-String.lt_iff_ltb, Command.read, toJson, Json.mkObj, Json.insertMember, readTagged, cls,
        commandType, htag, readChange_toJson ch (hread _ h), classOf_eq_classOf, Except.map, bind,
        Except.bind, pure, Except.pure]
  | delete l | undelete l =>
    simp [-String.lt_iff_ltb, Command.read, toJson, Json.mkObj, Json.insertMember, readTagged, cls,
        commandType, htag, readLifecycle_toJson l, classOf_eq_classOf, Except.map, bind,
        Except.bind, pure, Except.pure]

end Command

namespace ListCommand

theorem classOf_toJson (c : ListCommand) : Chronicle.classOf c.toJson = some c.cls := by
  cases c <;> simp [-String.lt_iff_ltb, toJson, Json.mkObj, Json.insertMember, Chronicle.classOf,
      Json.field?, List.lookup, Json.str?, cls]

theorem cls_mem_classes (c : ListCommand) : c.cls ∈ classes := by
  cases c <;> simp [cls, classes]

theorem cls_not_mem_settings (c : ListCommand) : c.cls ∉ UnitSetting.classes := by
  cases c <;> simp [cls, UnitSetting.classes]

theorem read_toJson (c : ListCommand) : ListCommand.read c.toJson = .ok c := by
  cases c <;>
    simp [-String.lt_iff_ltb, ListCommand.read, toJson, Json.mkObj, Json.insertMember, readTagged,
        cls, classes, Read.variantName, ListItem.read, readTarget, readRecord, Field.plain,
        Read.string, Read.bool, Read.uuid_render, Except.map, bind, Except.bind, pure,
        Except.pure]

end ListCommand

namespace UnitSetting

def Fits : UnitSetting → Prop
  | .snapshotTriggerCount v => v < 4294967296
  | .inactivityFlushSecs v => v < 18446744073709551616

theorem classOf_toJson (s : UnitSetting) : Chronicle.classOf s.toJson = some s.cls := by
  cases s <;> simp [-String.lt_iff_ltb, toJson, Json.mkObj, Json.insertMember, Chronicle.classOf,
      Json.field?, List.lookup, Json.str?, cls]

theorem cls_mem_classes (s : UnitSetting) : s.cls ∈ classes := by
  cases s <;> simp [cls, classes]

theorem read_toJson {s : UnitSetting} (h : s.Fits) : UnitSetting.read s.toJson = .ok s := by
  cases s with
  | snapshotTriggerCount v =>
    simp [-String.lt_iff_ltb, UnitSetting.read, toJson, Json.mkObj, Json.insertMember, readTagged,
        cls, classes, Read.variantName, readRecord, Field.plain,
        Read.u32_ofNat (show v < 4294967296 from h), Except.map, bind, Except.bind, pure,
        Except.pure]
  | inactivityFlushSecs v =>
    simp [-String.lt_iff_ltb, UnitSetting.read, toJson, Json.mkObj, Json.insertMember, readTagged,
        cls, classes, Read.variantName, readRecord, Field.plain,
        Read.u64_ofNat (show v < 18446744073709551616 from h), Except.map, bind, Except.bind, pure,
        Except.pure]

end UnitSetting

theorem decodeEntry_command {κ : Type} [Logged κ] {c : κ}
    (hcls : classOf (Logged.toJson c) = some (Logged.cls c))
    (hmem : Logged.cls c ∈ Logged.classes κ) (hset : Logged.cls c ∉ UnitSetting.classes)
    (hread : Logged.read (Logged.toJson c) = .ok c) :
    decodeEntry κ (Logged.toJson c) = .ok (.command c) := by
  simp [decodeEntry, hcls, hset, hmem, hread]

theorem decodeEntry_setting (κ : Type) [Logged κ] {s : UnitSetting} (h : s.Fits) :
    decodeEntry κ s.toJson = .ok (.setting s) := by
  have hcls := UnitSetting.classOf_toJson s
  have hmem := UnitSetting.cls_mem_classes s
  simp [decodeEntry, hcls, hmem, UnitSetting.read_toJson h]

theorem Command.decodeEntry_toJson {σ : Type} [Record σ] {fits : σ → Prop}
    (hread : ∀ s, fits s → Record.read .buffered (Record.toJson s) = .ok s) {c : Command σ}
    (h : c.Fits fits) :
    decodeEntry (Command σ) (Logged.toJson c) = .ok (.command c) ∧
      Chronicle.classOf (Logged.toJson c) = some (Logged.cls c) ∧
      Logged.cls c ∈ Logged.classes (Command σ) :=
  ⟨decodeEntry_command c.classOf_toJson c.cls_mem_classes c.cls_not_mem_settings
    (Command.read_toJson hread h), c.classOf_toJson, c.cls_mem_classes⟩

theorem classes_pairwise_disjoint :
    [UnitSetting.classes, Command.classes .client, Command.classes .user,
      ListCommand.classes].Pairwise (fun a b => ∀ c ∈ a, c ∉ b) := by
  simp [UnitSetting.classes, Command.classes, Command.classOf, ListCommand.classes, EntityType.name]

/-- Every logged command decodes as itself under its own class, every setting in a log of any
kind, the class tables share no class, and every record and listing reads back from its snapshot. -/
theorem logged_entries_roundtrip :
    (∀ c : Command ClientState, c.Fits ClientState.Fits →
      decodeEntry (Command ClientState) (Logged.toJson c) = .ok (.command c) ∧
        classOf (Logged.toJson c) = some (Logged.cls c) ∧
        Logged.cls c ∈ Logged.classes (Command ClientState)) ∧
    (∀ c : Command UserState, c.Fits UserState.Fits →
      decodeEntry (Command UserState) (Logged.toJson c) = .ok (.command c) ∧
        classOf (Logged.toJson c) = some (Logged.cls c) ∧
        Logged.cls c ∈ Logged.classes (Command UserState)) ∧
    (∀ c : ListCommand,
      decodeEntry ListCommand (Logged.toJson c) = .ok (.command c) ∧
        classOf (Logged.toJson c) = some (Logged.cls c) ∧
        Logged.cls c ∈ Logged.classes ListCommand) ∧
    (∀ s : UnitSetting, s.Fits →
      decodeEntry (Command ClientState) s.toJson = .ok (.setting s) ∧
        decodeEntry (Command UserState) s.toJson = .ok (.setting s) ∧
        decodeEntry ListCommand s.toJson = .ok (.setting s)) ∧
    [UnitSetting.classes, Command.classes .client, Command.classes .user,
      ListCommand.classes].Pairwise (fun a b => ∀ c ∈ a, c ∉ b) ∧
    (∀ s : ClientState, s.Fits → Record.read .document (Record.toJson s) = .ok s) ∧
    (∀ s : UserState, s.Fits → Record.read .document (Record.toJson s) = .ok s) ∧
    (∀ l : Listing, l.Fits → Listing.read .document l.toJson = .ok l) := by
  refine ⟨fun c h => ?_, fun c h => ?_, fun c => ?_, fun s h => ?_, classes_pairwise_disjoint,
    fun s h => ClientState.read_record h _, fun s h => UserState.read_record h _,
    fun l h => Listing.read_toJson h _⟩
  · exact Command.decodeEntry_toJson (fun _ hs => ClientState.read_record hs _) h
  · exact Command.decodeEntry_toJson (fun _ hs => UserState.read_record hs _) h
  · exact ⟨decodeEntry_command c.classOf_toJson c.cls_mem_classes c.cls_not_mem_settings
      c.read_toJson, c.classOf_toJson, c.cls_mem_classes⟩
  · exact ⟨decodeEntry_setting _ h, decodeEntry_setting _ h, decodeEntry_setting _ h⟩

end Chronicle
