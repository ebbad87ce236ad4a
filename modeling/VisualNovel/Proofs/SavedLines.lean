import VisualNovel.Proofs.Tandem
import VisualNovel.Proofs.Unlined
import VisualNovel.Saves

/-!
# Saves that differ in lines only

What is saved of two sessions may differ in the lines that numbers come from. A file does not show
them, since a number that is no number is written as one word wherever it comes from; a store in
memory keeps them. So stores that are the same without lines are written and read in tandem, on
disks with the same files: `SaveStore.writeSlot_agrees`, `SaveStore.readSlot_agrees`.
-/

namespace VisualNovel

/-! ## Disks -/

namespace Disk

/-- Attempts in tandem on disks with the same files, whose logs may differ. -/
abbrev Agree {α β : Type} (Q : α → β → Prop) (act : Attempt Disk α) (act' : Attempt Disk β) :
    Prop :=
  Tandem Eq (InvImage Eq Disk.files) Q act act'

variable {α β : Type} {Q : α → β → Prop}

theorem ofExcept_agrees {r r' : Except Mishap α} {f : α → β} (h : r.map f = r'.map f) :
    Agree (InvImage Eq f) (Attempt.ofExcept r) (Attempt.ofExcept r') :=
  .of_value (.of_map h)

theorem ofExcept_same {r : Except Mishap α} :
    Agree Eq (Attempt.ofExcept r) (Attempt.ofExcept r) :=
  .of_value (.refl fun _ => rfl)

theorem askFiles_agrees (question : Files.Tree → Except Mishap α) :
    Agree Eq (Attempt.askFiles question) (Attempt.askFiles question) :=
  .get_bind fun _ _ h => by
    rw [show _ = _ from h]
    exact ofExcept_same

theorem changeFiles_agrees (change : Attempt Files.Tree α) :
    Agree Eq (Attempt.changeFiles change) (Attempt.changeFiles change) := by
  refine .get_bind fun d d' h => ?_
  dsimp only
  rw [show d.files = d'.files from h]
  refine Tandem.bind_eq ?_ fun _ => ofExcept_same
  exact fun _ _ _ => ⟨.ok rfl, rfl⟩

theorem note_agrees (level : Level) (text : String) :
    Agree Eq (Attempt.note level text) (Attempt.note level text) :=
  .modify fun _ _ h => h

end Disk

namespace FolderSaves

open Disk

theorem ensure_agrees (base : Files.Path) : Agree Eq (ensure base) (ensure base) :=
  changeFiles_agrees _

theorem slotPath_agrees (base : Files.Path) (slot : Value) :
    Agree Eq (slotPath base slot) (slotPath base slot) :=
  (ensure_agrees base).bind_eq fun _ => ofExcept_same.bind_eq fun _ =>
    .ite .rfl (.pure rfl) (.throw rfl)

theorem quickPath_agrees (base : Files.Path) : Agree Eq (quickPath base) (quickPath base) :=
  (ensure_agrees base).bind_eq fun _ => .pure rfl

end FolderSaves

section
variable {payload payload' : Value} (h : payload.unlined = payload'.unlined) (now : String)
include h

theorem stamp_congr : (stamp now payload).map (Table.mapValues Value.unlined) =
    (stamp now payload').map (Table.mapValues Value.unlined) := by
  have hfields : payload.toFields.map (Table.mapValues Value.unlined) =
      payload'.toFields.map (Table.mapValues Value.unlined) := by
    rw [← Value.toFields_unlined, h, Value.toFields_unlined]
  refine map_bind_congr hfields fun fs fs' hfs => ?_
  have hhas := congrArg (Fields.has "ts") hfs
  rw [Fields.has_unlined, Fields.has_unlined] at hhas
  rw [hhas]
  split
  · exact congrArg Except.ok hfs
  · have hput := congrArg (Table.put (.text "ts") (Value.text now)) hfs
    refine congrArg Except.ok ?_
    unfold Fields.put
    rw [Table.mapValues_put, Table.mapValues_put]
    exact hput

/-- What is written of a save knows no lines. -/
theorem written_congr :
    (do Json.write Json.indented (.record (← stamp now payload)) : Except Mishap String) =
      (do Json.write Json.indented (.record (← stamp now payload'))) := by
  have hstamp := stamp_congr h now
  generalize stamp now payload = r at hstamp ⊢
  generalize stamp now payload' = r' at hstamp ⊢
  cases Both.of_map hstamp with
  | error hm => exact congrArg Except.error hm
  | @ok fs fs' hfs =>
    show Json.writeAt _ 0 (.record fs) = Json.writeAt _ 0 (.record fs')
    rw [← Value.writeAt_unlined _ _ (.record fs), ← Value.writeAt_unlined _ _ (.record fs'),
      Value.unlined_record, Value.unlined_record]
    exact congrArg (fun fs => Json.writeAt _ 0 (.record fs)) hfs

end

namespace FolderSaves

open Disk

theorem write_agrees {payload payload' : Value} (h : payload.unlined = payload'.unlined)
    (now : String) (p : Files.Path) :
    Agree Eq (write now p payload) (write now p payload') := by
  unfold write
  rw [written_congr h now]
  dsimp only
  refine (Tandem.outcome_attempt (ofExcept_same.bind_eq fun _ => changeFiles_agrees _)).bind ?_
  rintro _ _ (hab | hmm)
  · exact .pure rfl
  · cases hmm
    exact .ite .rfl ((note_agrees _ _).bind_eq fun _ => .pure rfl) (.throw rfl)

theorem read_agrees (p : Files.Path) : Agree Eq (read p) (read p) := by
  refine (askFiles_agrees _).bind_eq fun found => .ite .rfl (.pure rfl) ?_
  refine (Tandem.outcome_attempt (askFiles_agrees _)).bind ?_
  rintro _ _ (hab | hmm)
  · cases hab
    exact .pure rfl
  · cases hmm
    exact .ite .rfl ((note_agrees _ _).bind_eq fun _ => .pure rfl) (.throw rfl)

end FolderSaves

/-- The store without the lines of what it keeps in memory. What it keeps in files has none. -/
def SaveStore.unlined : SaveStore → SaveStore
  | .memory saves => .memory {
      quick := saves.quick.map Value.unlined
      slots := Table.mapValues Value.unlined saves.slots }
  | .folder base => .folder base

namespace SaveStore

open Disk

section
variable {s s' : SaveStore} (h : s.unlined = s'.unlined)
include h

/-- Stores that are the same without lines are one folder, or memories that are. -/
theorem cases_of_unlined_eq : (∃ base, s = .folder base ∧ s' = .folder base) ∨
    ∃ m m' : MemorySaves, s = .memory m ∧ s' = .memory m' ∧
      m.quick.map Value.unlined = m'.quick.map Value.unlined ∧
      Table.mapValues Value.unlined m.slots = Table.mapValues Value.unlined m'.slots := by
  cases s with
  | folder base => cases s' with
    | folder base' => exact .inl ⟨base, rfl, congrArg SaveStore.folder (folder.inj h.symm)⟩
    | memory m' => cases h
  | memory m => cases s' with
    | folder base' => cases h
    | memory m' =>
      obtain ⟨hquick, hslots⟩ := MemorySaves.mk.inj (memory.inj h)
      exact .inr ⟨m, m', rfl, rfl, hquick, hslots⟩

theorem readSlot_agrees (slot : Value) :
    Agree (InvImage Eq (Option.map Value.unlined)) (s.readSlot slot) (s'.readSlot slot) := by
  obtain ⟨base, rfl, rfl⟩ | ⟨m, m', rfl, rfl, -, hslots⟩ := cases_of_unlined_eq h
  · exact (FolderSaves.slotPath_agrees base slot).bind_eq fun p =>
      (FolderSaves.read_agrees p).mono fun _ _ hab => congrArg _ hab
  · refine ofExcept_same.bind_eq fun n => .pure ?_
    have hfound := congrArg (Table.get? n) hslots
    rwa [Table.get?_mapValues, Table.get?_mapValues] at hfound

theorem readQuick_agrees :
    Agree (InvImage Eq (Option.map Value.unlined)) s.readQuick s'.readQuick := by
  obtain ⟨base, rfl, rfl⟩ | ⟨m, m', rfl, rfl, hquick, -⟩ := cases_of_unlined_eq h
  · exact (FolderSaves.quickPath_agrees base).bind_eq fun p =>
      (FolderSaves.read_agrees p).mono fun _ _ hab => congrArg _ hab
  · exact .pure hquick

variable {payload payload' : Value} (hpayload : payload.unlined = payload'.unlined)
include hpayload

theorem writeSlot_agrees (now : String) (slot : Value) :
    Agree (InvImage Eq fun r => (r.1, r.2.unlined)) (s.writeSlot now slot payload)
      (s'.writeSlot now slot payload') := by
  obtain ⟨base, rfl, rfl⟩ | ⟨m, m', rfl, rfl, hquick, hslots⟩ := cases_of_unlined_eq h
  · exact (FolderSaves.slotPath_agrees base slot).bind_eq fun p =>
      (FolderSaves.write_agrees hpayload now p).bind_eq fun ok => .pure rfl
  · refine (ofExcept_agrees (stamp_congr hpayload now)).bind fun fs fs' hfs => ?_
    refine ofExcept_same.bind_eq fun n => .pure ?_
    have hkept : (Value.record fs).unlined = (Value.record fs').unlined := by
      rw [Value.unlined_record, Value.unlined_record]
      exact congrArg Value.record hfs
    have hput : Table.mapValues Value.unlined (Table.put n (.record fs) m.slots) =
        Table.mapValues Value.unlined (Table.put n (.record fs') m'.slots) := by
      rw [Table.mapValues_put, Table.mapValues_put, hkept, hslots]
    exact congrArg₂ (fun quick slots => (true, SaveStore.memory { quick, slots })) hquick hput

theorem writeQuick_agrees (now : String) :
    Agree (InvImage Eq fun r => (r.1, r.2.unlined)) (s.writeQuick now payload)
      (s'.writeQuick now payload') := by
  obtain ⟨base, rfl, rfl⟩ | ⟨m, m', rfl, rfl, -, hslots⟩ := cases_of_unlined_eq h
  · exact (FolderSaves.quickPath_agrees base).bind_eq fun p =>
      (FolderSaves.write_agrees hpayload now p).bind_eq fun ok => .pure rfl
  · refine (ofExcept_agrees (stamp_congr hpayload now)).bind fun fs fs' hfs => .pure ?_
    have hkept : (Value.record fs).unlined = (Value.record fs').unlined := by
      rw [Value.unlined_record, Value.unlined_record]
      exact congrArg Value.record hfs
    exact congrArg₂ (fun kept slots => (true, SaveStore.memory { quick := some kept, slots }))
      hkept hslots

end

end SaveStore

end VisualNovel
