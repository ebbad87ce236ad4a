import Mathlib.Data.List.Permutation
import VisualNovel.Proofs.AlikeStages
import VisualNovel.Proofs.Reading
import VisualNovel.Proofs.SaveFiles

/-!
# Saves in a folder and in memory

A store in a folder and a store in memory answer alike. Both are seen as one `Cabinet`, a table of
records under the quick save and the slots: `Cabinet.memory` is what a store in memory makes of it
and `Cabinet.files` what stands in the folder. Every call keeps the two in step
(`SaveCall.agrees`), so by induction every series of calls gets the same answers, and what the
answers are is said by the calls before: `SaveStore.folder_refines_memory`.
-/

namespace VisualNovel

open Files

/-! ## Calls and answers -/

/-- What a save goes by. -/
inductive SaveKey where
  | quick
  | slot (n : Int)
  deriving DecidableEq

namespace SaveKey

/-- The name of the file of a save. -/
def fileName : SaveKey → String
  | quick => "quick.json"
  | slot n => FolderSaves.slotName n

/-- The slot of a save. -/
def slot? : SaveKey → Option Int
  | quick => none
  | slot n => some n

end SaveKey

/-- The record with its time stamp. -/
def stamped (now : String) (payload : Fields) : Fields :=
  if payload.has "ts" then payload else payload.put "ts" (.text now)

/-- A call of a store; a save is made at a time. -/
inductive SaveCall where
  | write (key : SaveKey) (now : String) (payload : Fields)
  | read (key : SaveKey)
  | delete (slot : Int)
  | list

/-- What a call is answered. -/
inductive SaveAnswer where
  | done (worked : Bool)
  | found (save : Option Value)
  | slots (numbers : List Int)

namespace SaveCall

/-- Carries out a call on a store. -/
def run (c : SaveCall) (s : SaveStore) : Attempt Disk (SaveAnswer × SaveStore) :=
  match c with
  | write .quick now payload => do
    let (worked, s) ← s.writeQuick now (.record payload)
    return (.done worked, s)
  | write (.slot n) now payload => do
    let (worked, s) ← s.writeSlot now (.int n) (.record payload)
    return (.done worked, s)
  | read .quick => do return (.found (← s.readQuick), s)
  | read (.slot n) => do return (.found (← s.readSlot (.int n)), s)
  | delete n => do
    let (worked, s) ← s.deleteSlot (.int n)
    return (.done worked, s)
  | list => do return (.slots (← s.listSlots), s)

/-- The answers to one call after the other. -/
def answers : List SaveCall → SaveStore → Attempt Disk (List SaveAnswer)
  | [], _ => pure []
  | c :: rest, s => do
    let (a, s) ← c.run s
    return a :: (← answers rest s)

/-- The save whose file a call needs. -/
def key? : SaveCall → Option SaveKey
  | write key _ _ => some key
  | read key => some key
  | delete n => some (.slot n)
  | list => none

/-- The record that a call writes. -/
def record? : SaveCall → Option Value
  | write _ now payload => some (.record (stamped now payload))
  | _ => none

/-- What a save holds after a call, if it held something before. -/
def leaves (key : SaveKey) (held : Option Value) : SaveCall → Option Value
  | write key' now payload => if key' = key then some (.record (stamped now payload)) else held
  | delete n => if .slot n = key then none else held
  | _ => held

/-- What a save holds after a series of calls: the last record written with its time stamp, unless
it has been deleted since. -/
def standing (history : List SaveCall) (key : SaveKey) : Option Value :=
  history.foldl (leaves key) none

/-- The answer to a call after others: writing works, reading finds what stands, deleting says
whether anything stood, and the slots that hold something are listed upward, each once. -/
def Fits (history : List SaveCall) : SaveCall → SaveAnswer → Prop
  | write _ _ _, a => a = .done true
  | read key, a => a = .found (standing history key)
  | delete n, a => a = .done (standing history (.slot n)).isSome
  | list, a => ∃ numbers, a = .slots numbers ∧ numbers.Pairwise (· < ·) ∧
      ∀ n, n ∈ numbers ↔ (standing history (.slot n)).isSome

end SaveCall

theorem Table.get?_erase {κ α : Type} [BEq κ] [EquivBEq κ] {k key : κ} {t : Table κ α} :
    Table.get? key (Table.erase k t) = if k == key then none else Table.get? key t := by
  induction t with
  | nil => simp [Table.erase, Table.get?]
  | cons e rest ih =>
    unfold Table.erase at ih ⊢
    by_cases hk : e.1 == k
    · rw [List.filter_cons_of_neg (by simp [hk]), ih, Table.get?, BEq.congr_left hk]
      split <;> rfl
    · rw [List.filter_cons_of_pos (by simp [hk]), Table.get?, ih, Table.get?]
      by_cases hkey : e.1 == key
      · have hne : ¬k == key := fun hsame => hk (BEq.trans hkey (BEq.symm hsame))
        simp [hkey, hne]
      · simp [hkey]

theorem Table.erase_of_get?_none {κ α : Type} [BEq κ] {k : κ} {t : Table κ α}
    (h : Table.get? k t = none) : Table.erase k t = t := by
  induction t with
  | nil => rfl
  | cons e rest ih =>
    unfold Table.erase at ih ⊢
    by_cases hk : e.1 == k
    · simp [Table.get?, hk] at h
    · simp only [Table.get?, hk, Bool.false_eq_true, if_false] at h
      rw [List.filter_cons_of_pos (by simp [hk]), ih h]

theorem Table.mem_keys_iff {κ α : Type} [BEq κ] [LawfulBEq κ] {k : κ} {t : Table κ α} :
    k ∈ Table.keys t ↔ (Table.get? k t).isSome := by
  induction t with
  | nil => simp [Table.keys, Table.get?]
  | cons e rest ih =>
    rw [Table.keys, List.map_cons, List.mem_cons, Table.get?]
    by_cases hk : e.1 = k
    · simp [hk]
    · simp only [beq_iff_eq, hk, if_false, ← ih, Table.keys]
      simp [Ne.symm hk]

/-! ## Runs of attempts -/

namespace Attempt

variable {σ α β : Type} {s s' : σ}

theorem perform_bind_ok {x : Attempt σ α} {f : α → Attempt σ β} {a : α}
    (h : x.perform s = (.ok a, s')) : (x >>= f).perform s = (f a).perform s' := by
  have h' : ((ExceptT.run x).run s : Except Mishap α × σ) = (.ok a, s') := h
  show ((ExceptT.run (x >>= f)).run s : Except Mishap β × σ) = _
  rw [run_bind, h']
  rfl

theorem perform_ofExcept_bind {r : Except Mishap α} {f : α → Attempt σ β} {a : α}
    (h : r = .ok a) : (ofExcept r >>= f).perform s = (f a).perform s := by
  rw [h]
  rfl

theorem perform_get_bind {g : σ → Attempt σ α} : (get >>= g).perform s = (g s).perform s :=
  rfl

theorem perform_change_bind {t : Tree} {r : Except Mishap α} {f : α → Attempt Tree β} {a : α}
    (h : r = .ok a) : (Change.ofExcept r >>= f).perform t = (f a).perform t := by
  rw [h]
  rfl

theorem perform_changeFiles {change : Attempt Tree α} {d : Disk} {a : α} {files : Tree}
    (h : change.perform d.files = (.ok a, files)) :
    (changeFiles change).perform d = (.ok a, d.withFiles files) := by
  show ((ofExcept (change.perform d.files).1 : Attempt Disk α)).perform
    (d.withFiles (change.perform d.files).2) = _
  rw [h]
  rfl

theorem perform_askFiles (question : Tree → Except Mishap α) {d : Disk} {a : α}
    (h : question d.files = .ok a) : (askFiles question).perform d = (.ok a, d) := by
  show (ofExcept (question d.files) : Attempt Disk α).perform d = _
  rw [h]
  rfl

theorem perform_cons {x : Attempt σ (List α)} {a : α} {rest : List α}
    (h : (x.perform s).1 = .ok rest) :
    ((do return a :: (← x) : Attempt σ (List α)).perform s).1 = .ok (a :: rest) := by
  have hrun : x.perform s = (.ok rest, (x.perform s).2) := by rw [← h]
  rw [perform_bind_ok hrun]
  rfl

theorem perform_outcome_ok {x : Attempt σ α} {a : α} (h : x.perform s = (.ok a, s')) :
    (outcome x).perform s = (.ok (.ok a), s') := by
  show ((.ok (x.perform s).1, (x.perform s).2) : Except Mishap (Except Mishap α) × σ) = _
  rw [h]

theorem perform_tryCatch_ok {x : Attempt σ α} {handle : Mishap → Attempt σ α} {a : α}
    (h : x.perform s = (.ok a, s')) : (tryCatch x handle).perform s = (.ok a, s') := by
  have h' : x s = (.ok a, s') := h
  show (ExceptT.tryCatch x handle) s = _
  simp only [ExceptT.tryCatch, ExceptT.mk, bind, StateT.bind, h']
  rfl

theorem perform_tryCatch_error {x : Attempt σ α} {handle : Mishap → Attempt σ α} {m : Mishap}
    (h : x.perform s = (.error m, s')) :
    (tryCatch x handle).perform s = (handle m).perform s' := by
  have h' : x s = (.error m, s') := h
  show (ExceptT.tryCatch x handle) s = _
  simp only [ExceptT.tryCatch, ExceptT.mk, bind, StateT.bind, h']
  rfl

end Attempt

/-- A folder that is there is left as it is. -/
theorem ensureFolder_perform {t : Tree} {base : Path} {place : Location}
    (hlocate : t.locate base = .ok place) (hfolder : t.at? place = some .folder) :
    (Change.ensureFolder base).perform t = (.ok (), t) := by
  have hmake : (Change.makeOne base).perform t = (.error .fileExists, t) := by
    unfold Change.makeOne
    rw [Attempt.perform_get_bind, Attempt.perform_change_bind hlocate, Attempt.perform_get_bind,
      hfolder]
    rfl
  have hisFolder : t.isFolder base = .ok true := by
    simp [Tree.isFolder, Tree.find?, hlocate, hfolder, bind, Except.bind, pure, Except.pure]
  have hone : (Change.ensureOne base).perform t = (.ok (), t) := by
    rw [Change.ensureOne, Attempt.perform_tryCatch_error hmake, Attempt.perform_get_bind,
      Attempt.perform_change_bind hisFolder]
    rfl
  unfold Change.ensureFolder
  cases base.names.length with
  | zero => exact hone
  | succ depth => exact Attempt.perform_tryCatch_ok hone

/-! ## Cabinets -/

/-- A record comes back from its file as it was. -/
def Value.Restorable (v : Value) : Prop :=
  ∃ text, Json.write Json.indented v = .ok text ∧ Text.writable text ∧ Json.read text = .ok v

/-- A record together with the text of its file. -/
structure Volume where
  kept : Value
  text : String
  written : Json.write Json.indented kept = .ok text
  writable : Text.writable text
  reads : Json.read text = .ok kept

/-- The saves of a store, in the order in which they were first made. -/
abbrev Cabinet := Table SaveKey Volume

namespace Cabinet

/-- The saves as a store in memory keeps them. -/
def memory (cabinet : Cabinet) : MemorySaves where
  quick := (Table.get? .quick cabinet).map (·.kept)
  slots := Table.along SaveKey.slot? Volume.kept cabinet

/-- The saves as they stand in a folder. -/
def files (cabinet : Cabinet) : Table String Node :=
  Table.along (fun key => some key.fileName) (fun v => .file (.bytes v.text.toUTF8)) cabinet

end Cabinet

namespace SaveKey

theorem fileName_injective : Function.Injective fileName := by
  intro a b hab
  cases a with
  | quick =>
    cases b with
    | quick => rfl
    | slot n => exact absurd hab.symm (FolderSaves.slotName_ne_quick n)
  | slot m =>
    cases b with
    | quick => exact absurd hab (FolderSaves.slotName_ne_quick m)
    | slot n => rw [FolderSaves.slotName_injective hab]

theorem isName_fileName (key : SaveKey) : IsName key.fileName := by
  cases key with
  | quick => exact ⟨by decide, by decide, by decide, by decide⟩
  | slot n => exact isName_slotName n

theorem tells_fileName (key : SaveKey) :
    Table.Tells (fun key => some (fileName key)) key key.fileName := by
  intro key'
  constructor
  · intro h
    exact fileName_injective (Option.some.inj h)
  · rintro rfl
    rfl

theorem tells_slot (n : Int) : Table.Tells slot? (.slot n) n := by
  intro key
  cases key <;> simp [slot?]

/-- A file in the folder of saves is taken for the slot that it belongs to. -/
theorem slotOf?_fileName {key : SaveKey} (h : key.fileName.length ≤ Number.maxDigits) :
    FolderSaves.slotOf? key.fileName = key.slot? := by
  cases key with
  | quick => decide +kernel
  | slot n => exact FolderSaves.slotOf?_slotName h

end SaveKey

/-- A tree whose folders are those of an older one and more. -/
def Files.Tree.Extends (t origin : Tree) : Prop :=
  ∀ l, origin.at? l = some .folder → t.at? l = some .folder

/-- A folder at a place, and what is on the cabinet in it. All names are short enough to be read
back. -/
structure Cabinet.Filed (cabinet : Cabinet) (t origin : Tree) (place : Location) : Prop where
  folders : t.Extends origin
  inside : t.inside place = cabinet.files
  short : ∀ e ∈ cabinet, e.1.fileName.length ≤ Number.maxDigits

/-- The folder of a store is there. -/
structure Files.Tree.Opens (t : Tree) (base : Path) (place : Location) : Prop where
  locate : t.locate base = .ok place
  folder : t.at? place = some .folder

/-- The file system takes the name of a save in the folder. -/
def Files.Tree.Takes (t : Tree) (base : Path) (key : SaveKey) : Prop :=
  ∃ l, t.locate (base.join key.fileName) = .ok l

namespace Cabinet.Filed

variable {cabinet : Cabinet} {t origin : Tree} {base : Path} {place : Location} {key : SaveKey}

theorem opens (h : cabinet.Filed t origin place) (hbase : origin.Opens base place) :
    t.Opens base place :=
  ⟨Tree.locate_mono h.folders hbase.locate, h.folders _ hbase.folder⟩

theorem locate (h : cabinet.Filed t origin place) (hbase : origin.Opens base place)
    (hkey : origin.Takes base key) :
    t.locate (base.join key.fileName) = .ok (place ++ [key.fileName]) := by
  obtain ⟨l, hl⟩ := hkey
  obtain ⟨rfl, -⟩ := Tree.locate_join key.isName_fileName hbase.locate hbase.folder hl
  exact Tree.locate_mono h.folders hl

theorem at? (h : cabinet.Filed t origin place) (key : SaveKey) :
    t.at? (place ++ [key.fileName]) =
      (Table.get? key cabinet).map fun v => .file (.bytes v.text.toUTF8) := by
  rw [Tree.at?_inside key.isName_fileName.empty, h.inside, Cabinet.files,
    Table.get?_along key.tells_fileName]

/-- What stands at a place where no file of the store is stands there after a change to one. -/
theorem extends_of_at? {t' : Tree} (h : cabinet.Filed t origin place) (key : SaveKey)
    (hsame : ∀ l, l ≠ place ++ [key.fileName] → t'.at? l = t.at? l) : t'.Extends origin := by
  intro l hl
  have hfolder := h.folders l hl
  rw [hsame l ?_, hfolder]
  rintro rfl
  rw [h.at?] at hfolder
  cases hget : Table.get? key cabinet <;> simp [hget] at hfolder

theorem put (h : cabinet.Filed t origin place) (hshort : key.fileName.length ≤ Number.maxDigits)
    (v : Volume) :
    Cabinet.Filed (Table.put key v cabinet)
      (t.put (place ++ [key.fileName]) (.file (.bytes v.text.toUTF8))) origin place where
  folders := by
    refine h.extends_of_at? key fun l hl => ?_
    simp only [Tree.at?, Tree.put, Table.get?_put]
    simp [Ne.symm hl]
  inside := by
    rw [Tree.inside_put, h.inside, Cabinet.files, Cabinet.files,
      Table.along_put key.tells_fileName]
  short := by
    intro e he
    rcases Table.mem_put he with he | ⟨-, hkey | hkey⟩
    · exact h.short e he
    · rwa [hkey]
    · obtain ⟨e', he', hsame⟩ := List.mem_map.1 hkey
      rw [← hsame]
      exact h.short e' he'

theorem erase (h : cabinet.Filed t origin place) (key : SaveKey) :
    Cabinet.Filed (Table.erase key cabinet)
      { t with entries := Table.erase (place ++ [key.fileName]) t.entries } origin place where
  folders := by
    refine h.extends_of_at? key fun l hl => ?_
    simp only [Tree.at?, Table.get?_erase]
    simp [Ne.symm hl]
  inside := by
    have hinside := Table.along_erase (g := id) (Tree.tells_nameIn place key.fileName) t.entries
    exact hinside.trans (by
      rw [Cabinet.files, Table.along_erase key.tells_fileName]
      exact congrArg _ h.inside)
  short := fun e he => h.short e (List.mem_filter.1 he).1

end Cabinet.Filed

/-! ## Calls on a folder -/

namespace FolderSaves

variable {cabinet : Cabinet} {d : Disk} {origin : Tree} {base : Path} {place : Location}
  {key : SaveKey}

theorem fromUTF8?_toUTF8 (s : String) : String.fromUTF8? s.toUTF8 = some s := by
  simp [String.fromUTF8?, String.fromUTF8, s.isValidUTF8]

theorem stamp_record (now : String) (payload : Fields) :
    stamp now (.record payload) = .ok (stamped now payload) :=
  rfl

theorem ensure_perform (hbase : d.files.Opens base place) : (ensure base).perform d = (.ok (), d) :=
  Attempt.perform_changeFiles (ensureFolder_perform hbase.locate hbase.folder)

theorem slotPath_perform {n : Int} (hbase : d.files.Opens base place)
    (hshort : (slotName n).length ≤ Number.maxDigits) :
    (slotPath base (.int n)).perform d = (.ok (base.join (slotName n)), d) := by
  unfold slotPath
  rw [Attempt.perform_bind_ok (ensure_perform hbase)]
  have hint : Value.toInt (.int n) = .ok n := rfl
  rw [Attempt.perform_ofExcept_bind hint, writableInt_of_slotName hshort]
  rfl

theorem quickPath_perform (hbase : d.files.Opens base place) :
    (quickPath base).perform d = (.ok (base.join "quick.json"), d) := by
  unfold quickPath
  rw [Attempt.perform_bind_ok (ensure_perform hbase)]
  rfl

theorem writeText_perform {t : Tree} {p : Path} {text : String} (hlocate : t.locate p = .ok place)
    (hfolder : t.at? place ≠ some .folder) (hwritable : Text.writable text) :
    (Change.writeText p text).perform t =
      (.ok (), t.put place (.file (.bytes text.toUTF8))) := by
  unfold Change.writeText Change.write
  rw [Attempt.perform_get_bind, Attempt.perform_change_bind hlocate, Attempt.perform_get_bind,
    Change.encoded?, if_pos hwritable]
  split
  · next hat => exact absurd hat hfolder
  · rfl

theorem write_perform (h : cabinet.Filed d.files origin place) (hbase : origin.Opens base place)
    (hkey : origin.Takes base key) {now : String} {payload : Fields} {v : Volume}
    (hv : v.kept = .record (stamped now payload)) :
    (write now (base.join key.fileName) (.record payload)).perform d =
      (.ok true, d.withFiles
        (d.files.put (place ++ [key.fileName]) (.file (.bytes v.text.toUTF8)))) := by
  have hfile : d.files.at? (place ++ [key.fileName]) ≠ some .folder := by
    rw [h.at?]
    cases Table.get? key cabinet <;> simp
  have htext : (do Json.write Json.indented (.record (← stamp now (.record payload))) :
      Except Mishap String) = .ok v.text := by
    rw [stamp_record]
    show Json.write Json.indented (.record (stamped now payload)) = _
    rw [← hv, v.written]
  have hchange := Attempt.perform_changeFiles
    (writeText_perform (h.locate hbase hkey) hfile v.writable)
  have hwriting := (Attempt.perform_ofExcept_bind (s := d)
    (f := fun text => Attempt.changeFiles (Change.writeText (base.join key.fileName) text))
    htext).trans hchange
  unfold write
  rw [Attempt.perform_bind_ok (Attempt.perform_outcome_ok hwriting)]
  rfl

theorem asks_exists (h : cabinet.Filed d.files origin place) (hbase : origin.Opens base place)
    (hkey : origin.Takes base key) :
    (Attempt.askFiles (·.exists? (base.join key.fileName))).perform d =
      (.ok (Table.has key cabinet), d) := by
  refine Attempt.perform_askFiles _ ?_
  simp only [Tree.exists?, Tree.find?, h.locate hbase hkey, h.at?, bind, Except.bind, pure,
    Except.pure, Table.has, Option.isSome_map]

theorem read_perform (h : cabinet.Filed d.files origin place) (hbase : origin.Opens base place)
    (hkey : origin.Takes base key) :
    (read (base.join key.fileName)).perform d =
      (.ok ((Table.get? key cabinet).map (·.kept)), d) := by
  unfold read
  rw [Attempt.perform_bind_ok (asks_exists h hbase hkey), Table.has]
  cases hget : Table.get? key cabinet with
  | none => rfl
  | some v =>
    have hread : (do Json.read (← d.files.readText (base.join key.fileName)) :
        Except Mishap Value) = .ok v.kept := by
      have htext : d.files.readText (base.join key.fileName) = .ok v.text := by
        simp only [Tree.readText, Tree.read, h.locate hbase hkey, h.at?, hget, bind, Except.bind,
          pure, Except.pure, Option.map_some, fromUTF8?_toUTF8]
      rw [htext]
      exact v.reads
    simp only [Option.isSome_some, Bool.not_true, Bool.false_eq_true, if_false, Option.map_some]
    rw [Attempt.perform_bind_ok (Attempt.perform_outcome_ok
      (Attempt.perform_askFiles (fun files => do Json.read (← files.readText _)) hread))]
    rfl

theorem remove_perform {t t' : Tree} {p : Path} (h : t.remove p = .ok t') :
    (Change.remove p).perform t = (.ok (), t') := by
  unfold Change.remove
  rw [Attempt.perform_get_bind, Attempt.perform_change_bind h]
  rfl

theorem delete_perform (h : cabinet.Filed d.files origin place) (hbase : origin.Opens base place)
    (hkey : origin.Takes base key) :
    ∃ d' : Disk, Cabinet.Filed (Table.erase key cabinet) d'.files origin place ∧
      (delete (base.join key.fileName)).perform d = (.ok (Table.has key cabinet), d') := by
  unfold delete
  rw [Attempt.perform_bind_ok (asks_exists h hbase hkey), Table.has]
  cases hget : Table.get? key cabinet with
  | none =>
    refine ⟨d, ?_, rfl⟩
    rwa [Table.erase_of_get?_none hget]
  | some v =>
    have hremove : d.files.remove (base.join key.fileName) = .ok
        { d.files with entries := Table.erase (place ++ [key.fileName]) d.files.entries } := by
      simp only [Tree.remove, h.locate hbase hkey, h.at?, hget, bind, Except.bind, pure,
        Except.pure, Option.map_some]
    have hchange := Attempt.perform_changeFiles (remove_perform hremove)
    refine ⟨d.withFiles _, h.erase key, ?_⟩
    simp only [Option.isSome_some, Bool.not_true, Bool.false_eq_true, if_false]
    rw [Attempt.perform_bind_ok (Attempt.perform_outcome_ok hchange)]
    rfl

theorem list_perform (h : cabinet.Filed d.files origin place) (hbase : origin.Opens base place) :
    (list base).perform d = (.ok cabinet.memory.list, d) := by
  have hopens := h.opens hbase
  have hnames : (d.files.namesIn base).filterMap slotOf? = Table.keys cabinet.memory.slots := by
    rw [Tree.namesIn_eq hopens.locate, h.inside]
    have hshort := h.short
    simp only [Table.keys, Cabinet.files, Cabinet.memory, Table.along, List.map_filterMap,
      List.filterMap_filterMap]
    refine List.filterMap_congr fun e he => ?_
    simp only [Option.map_some, Option.bind_some, SaveKey.slotOf?_fileName (hshort e he),
      Option.map_map]
    exact Option.map_id'.symm
  unfold list
  rw [Attempt.perform_bind_ok (ensure_perform hopens)]
  rw [Attempt.perform_get_bind]
  simp only [hnames]
  rfl

end FolderSaves

/-- The name of a file that the file system takes is short enough to be read back. -/
theorem Files.Tree.Takes.short {t : Tree} {base : Path} {place : Location} {key : SaveKey}
    (h : t.Takes base key) (hbase : t.Opens base place) :
    key.fileName.length ≤ Number.maxDigits := by
  obtain ⟨l, hl⟩ := h
  have hbytes := (Tree.locate_join key.isName_fileName hbase.locate hbase.folder hl).2
  have hlength := Tree.length_le_byteCount key.fileName
  simp only [Tree.longestName, Number.maxDigits] at *
  omega

/-! ## Cabinets and memory -/

namespace Cabinet

variable {cabinet : Cabinet}

theorem memory_put_quick (v : Volume) :
    memory (Table.put .quick v cabinet) = { cabinet.memory with quick := some v.kept } := by
  have hnone : SaveKey.slot? .quick = none := rfl
  simp [memory, Table.get?_put, Table.along_put_none hnone]

theorem memory_put_slot (n : Int) (v : Volume) :
    memory (Table.put (.slot n) v cabinet) =
      { cabinet.memory with slots := Table.put n v.kept cabinet.memory.slots } := by
  simp [memory, Table.get?_put, Table.along_put (SaveKey.tells_slot n)]

theorem memory_erase_slot (n : Int) :
    memory (Table.erase (.slot n) cabinet) =
      { cabinet.memory with slots := Table.erase n cabinet.memory.slots } := by
  simp [memory, Table.get?_erase, Table.along_erase (SaveKey.tells_slot n)]

theorem memory_get? (n : Int) :
    Table.get? n cabinet.memory.slots = (Table.get? (.slot n) cabinet).map (·.kept) :=
  Table.get?_along (SaveKey.tells_slot n) cabinet

/-- The slots are listed upward, each once. -/
theorem memory_list (h : Table.Distinct cabinet) :
    cabinet.memory.list.Pairwise (· < ·) ∧
      ∀ n, n ∈ cabinet.memory.list ↔ (Table.get? (.slot n) cabinet).isSome := by
  have hkeys : Table.keys cabinet.memory.slots = cabinet.filterMap fun e => e.1.slot? := by
    simp only [Table.keys, memory, Table.along, List.map_filterMap, Option.map_map]
    exact List.filterMap_congr fun e _ => Option.map_id'
  have hnodup : (Table.keys cabinet.memory.slots).Nodup := by
    rw [hkeys]
    refine List.Pairwise.filterMap _ (fun a b hab n hn m hm hsame => ?_) h
    have ha := (SaveKey.tells_slot n a.1).1 hn
    have hb := (SaveKey.tells_slot m b.1).1 hm
    simp [ha, hb, hsame] at hab
  have hsorted : cabinet.memory.list.Pairwise (· ≤ ·) := by
    have hpairs := @List.pairwise_mergeSort Int (fun a b => decide (a ≤ b))
      (by simp; omega) (by simp; omega) (Table.keys cabinet.memory.slots)
    simpa [MemorySaves.list] using hpairs
  have hperm : cabinet.memory.list.Perm (Table.keys cabinet.memory.slots) :=
    List.mergeSort_perm _ _
  constructor
  · refine (hsorted.and (hperm.nodup_iff.2 hnodup)).imp fun {a b} hab => ?_
    have := hab.2
    omega
  · intro n
    rw [hperm.mem_iff, Table.mem_keys_iff, memory_get?, Option.isSome_map]

end Cabinet

/-! ## One call -/

/-- The cabinet is what a series of calls has left. -/
structure Cabinet.Current (cabinet : Cabinet) (history : List SaveCall) : Prop where
  distinct : Table.Distinct cabinet
  held : ∀ key, (Table.get? key cabinet).map (·.kept) = SaveCall.standing history key

namespace Cabinet.Current

variable {cabinet : Cabinet} {history : List SaveCall}

theorem standing_snoc (history : List SaveCall) (c : SaveCall) (key : SaveKey) :
    SaveCall.standing (history ++ [c]) key = c.leaves key (SaveCall.standing history key) := by
  simp [SaveCall.standing]

theorem isSome (h : cabinet.Current history) (key : SaveKey) :
    (Table.get? key cabinet).isSome = (SaveCall.standing history key).isSome := by
  rw [← h.held, Option.isSome_map]

theorem same (h : cabinet.Current history) {c : SaveCall}
    (hc : ∀ key held, c.leaves key held = held) : cabinet.Current (history ++ [c]) where
  distinct := h.distinct
  held key := by rw [standing_snoc, hc, h.held]

theorem put (h : cabinet.Current history) {key : SaveKey} {now : String} {payload : Fields}
    {v : Volume} (hv : v.kept = .record (stamped now payload)) :
    Cabinet.Current (Table.put key v cabinet) (history ++ [.write key now payload]) where
  distinct := h.distinct.put key v
  held key' := by
    rw [standing_snoc, Table.get?_put, SaveCall.leaves]
    by_cases hkey : key = key'
    · simp [hkey, hv]
    · simp [hkey, h.held]

theorem erase (h : cabinet.Current history) (n : Int) :
    Cabinet.Current (Table.erase (.slot n) cabinet) (history ++ [.delete n]) where
  distinct := h.distinct.erase _
  held key := by
    rw [standing_snoc, Table.get?_erase, SaveCall.leaves]
    by_cases hkey : SaveKey.slot n = key
    · simp [hkey]
    · simp [hkey, h.held]

end Cabinet.Current

namespace SaveCall

variable {history : List SaveCall} {origin : Tree} {base : Path} {place : Location}
  {cabinet : Cabinet} {d : Disk}

/-- Both stores give a call one answer, the right one, and hold the same saves afterwards. -/
def Agrees (history : List SaveCall) (origin : Tree) (base : Path) (place : Location)
    (cabinet : Cabinet) (d : Disk) (c : SaveCall) : Prop :=
  ∃ (a : SaveAnswer) (cabinet' : Cabinet) (d' : Disk),
    (c.run (.folder base)).perform d = (.ok (a, .folder base), d') ∧
      (∀ e : Disk, (c.run (.memory cabinet.memory)).perform e =
        (.ok (a, .memory cabinet'.memory), e)) ∧
      cabinet'.Filed d'.files origin place ∧ cabinet'.Current (history ++ [c]) ∧ c.Fits history a

theorem write_agrees (hfiled : cabinet.Filed d.files origin place)
    (hcurrent : cabinet.Current history) (hbase : origin.Opens base place) {key : SaveKey}
    (hkey : origin.Takes base key) {now : String} {payload : Fields}
    (hrestorable : (Value.record (stamped now payload)).Restorable) :
    Agrees history origin base place cabinet d (.write key now payload) := by
  obtain ⟨text, hwritten, hwritable, hreads⟩ := hrestorable
  let v : Volume := ⟨.record (stamped now payload), text, hwritten, hwritable, hreads⟩
  have hshort := hkey.short hbase
  have hopens := hfiled.opens hbase
  let d' := d.withFiles (d.files.put (place ++ [key.fileName]) (.file (.bytes text.toUTF8)))
  have hwrite : (FolderSaves.write now (base.join key.fileName) (.record payload)).perform d =
      (.ok true, d') :=
    FolderSaves.write_perform (v := v) hfiled hbase hkey rfl
  refine ⟨.done true, Table.put key v cabinet, d', ?_, ?_, hfiled.put hshort v, hcurrent.put rfl,
    rfl⟩
  · cases key with
    | quick =>
      have hrun : ((SaveStore.folder base).writeQuick now (.record payload)).perform d =
          (.ok (true, .folder base), d') := by
        unfold SaveStore.writeQuick
        rw [Attempt.perform_bind_ok (FolderSaves.quickPath_perform hopens)]
        exact Attempt.perform_bind_ok hwrite
      exact Attempt.perform_bind_ok hrun
    | slot n =>
      have hrun : ((SaveStore.folder base).writeSlot now (.int n) (.record payload)).perform d =
          (.ok (true, .folder base), d') := by
        unfold SaveStore.writeSlot
        rw [Attempt.perform_bind_ok (FolderSaves.slotPath_perform hopens hshort)]
        exact Attempt.perform_bind_ok hwrite
      exact Attempt.perform_bind_ok hrun
  · intro e
    cases key with
    | quick =>
      rw [Cabinet.memory_put_quick]
      rfl
    | slot n =>
      rw [Cabinet.memory_put_slot]
      rfl

theorem read_agrees (hfiled : cabinet.Filed d.files origin place)
    (hcurrent : cabinet.Current history) (hbase : origin.Opens base place) {key : SaveKey}
    (hkey : origin.Takes base key) :
    Agrees history origin base place cabinet d (.read key) := by
  have hread := FolderSaves.read_perform hfiled hbase hkey
  have hopens := hfiled.opens hbase
  refine ⟨.found ((Table.get? key cabinet).map (·.kept)), cabinet, d, ?_, ?_, hfiled,
    hcurrent.same fun _ _ => rfl, congrArg _ (hcurrent.held key)⟩
  · cases key with
    | quick =>
      have hrun : (SaveStore.folder base).readQuick.perform d = (.ok _, d) :=
        (Attempt.perform_bind_ok (FolderSaves.quickPath_perform hopens)).trans hread
      exact Attempt.perform_bind_ok hrun
    | slot n =>
      have hrun : ((SaveStore.folder base).readSlot (.int n)).perform d = (.ok _, d) :=
        (Attempt.perform_bind_ok (FolderSaves.slotPath_perform hopens (hkey.short hbase))).trans
          hread
      exact Attempt.perform_bind_ok hrun
  · intro e
    cases key with
    | quick => rfl
    | slot n =>
      rw [← Cabinet.memory_get?]
      rfl

theorem delete_agrees (hfiled : cabinet.Filed d.files origin place)
    (hcurrent : cabinet.Current history) (hbase : origin.Opens base place) {n : Int}
    (hkey : origin.Takes base (.slot n)) :
    Agrees history origin base place cabinet d (.delete n) := by
  obtain ⟨d', hfiled', hdelete⟩ := FolderSaves.delete_perform hfiled hbase hkey
  have hopens := hfiled.opens hbase
  have hfits : Fits history (.delete n) (.done (Table.has (.slot n) cabinet)) :=
    congrArg SaveAnswer.done (hcurrent.isSome (.slot n))
  refine ⟨_, Table.erase (.slot n) cabinet, d', ?_, ?_, hfiled', hcurrent.erase n, hfits⟩
  · have hrun : ((SaveStore.folder base).deleteSlot (.int n)).perform d =
        (.ok (Table.has (.slot n) cabinet, .folder base), d') := by
      unfold SaveStore.deleteSlot
      rw [Attempt.perform_bind_ok (FolderSaves.slotPath_perform hopens (hkey.short hbase))]
      exact Attempt.perform_bind_ok hdelete
    exact Attempt.perform_bind_ok hrun
  · intro e
    have hhas : Table.has n cabinet.memory.slots = Table.has (.slot n) cabinet := by
      rw [Table.has, Cabinet.memory_get?, Option.isSome_map, Table.has]
    rw [Cabinet.memory_erase_slot, ← hhas]
    rfl

theorem list_agrees (hfiled : cabinet.Filed d.files origin place)
    (hcurrent : cabinet.Current history) (hbase : origin.Opens base place) :
    Agrees history origin base place cabinet d .list := by
  obtain ⟨hsorted, hmem⟩ := Cabinet.memory_list hcurrent.distinct
  refine ⟨.slots cabinet.memory.list, cabinet, d, ?_, fun e => rfl, hfiled,
    hcurrent.same fun _ _ => rfl, cabinet.memory.list, rfl, hsorted, fun n => ?_⟩
  · exact Attempt.perform_bind_ok (FolderSaves.list_perform hfiled hbase)
  · rw [hmem, hcurrent.isSome]

/-- Every call is answered alike by the two stores. -/
theorem agrees (hfiled : cabinet.Filed d.files origin place) (hcurrent : cabinet.Current history)
    (hbase : origin.Opens base place) {c : SaveCall}
    (hkeys : ∀ key, c.key? = some key → origin.Takes base key)
    (hrecords : ∀ v, c.record? = some v → v.Restorable) :
    Agrees history origin base place cabinet d c := by
  cases c with
  | write key now payload =>
    exact write_agrees hfiled hcurrent hbase (hkeys key rfl) (hrecords _ rfl)
  | read key => exact read_agrees hfiled hcurrent hbase (hkeys key rfl)
  | delete n => exact delete_agrees hfiled hcurrent hbase (hkeys _ rfl)
  | list => exact list_agrees hfiled hcurrent hbase

/-! ## A series of calls -/

/-- From any point on, both stores give a series of calls the same answers, which are those that
all the calls so far call for. -/
theorem answers_agree (hbase : origin.Opens base place) {calls : List SaveCall}
    (hkeys : ∀ c ∈ calls, ∀ key, c.key? = some key → origin.Takes base key)
    (hrecords : ∀ c ∈ calls, ∀ v, c.record? = some v → v.Restorable)
    (hfiled : cabinet.Filed d.files origin place) (hcurrent : cabinet.Current history) (e : Disk) :
    ∃ found : List SaveAnswer,
      ((answers calls (.folder base)).perform d).1 = .ok found ∧
        ((answers calls (.memory cabinet.memory)).perform e).1 = .ok found ∧
        found.length = calls.length ∧
        ∀ (i : Nat) (c : SaveCall) (a : SaveAnswer), calls[i]? = some c → found[i]? = some a →
          c.Fits (history ++ calls.take i) a := by
  induction calls generalizing history cabinet d with
  | nil => exact ⟨[], rfl, rfl, rfl, by simp⟩
  | cons c rest ih =>
    obtain ⟨a, cabinet', d', hfolder, hmemory, hfiled', hcurrent', hfits⟩ :=
      agrees hfiled hcurrent hbase (hkeys c List.mem_cons_self) (hrecords c List.mem_cons_self)
    obtain ⟨found, hfolder', hmemory', hlength, hfits'⟩ :=
      ih (fun c' hc => hkeys c' (List.mem_cons_of_mem _ hc))
        (fun c' hc => hrecords c' (List.mem_cons_of_mem _ hc)) hfiled' hcurrent'
    refine ⟨a :: found, ?_, ?_, by simp [hlength], ?_⟩
    · rw [answers, Attempt.perform_bind_ok hfolder]
      exact Attempt.perform_cons hfolder'
    · rw [answers, Attempt.perform_bind_ok (hmemory e)]
      exact Attempt.perform_cons hmemory'
    · intro i c' a' hc ha
      cases i with
      | zero =>
        simp only [List.getElem?_cons_zero, Option.some.injEq] at hc ha
        subst hc ha
        simpa using hfits
      | succ i =>
        simp only [List.getElem?_cons_succ] at hc ha
        have := hfits' i c' a' hc ha
        simpa using this

end SaveCall

/-- No two saves share a file. -/
theorem SaveKey.file_injective (base : Path) :
    Function.Injective fun key : SaveKey => base.join key.fileName := by
  intro a b hab
  simp only [Path.join_of_isName (isName_fileName _), Files.Path.mk.injEq, true_and,
    List.append_cancel_left_eq, List.cons.injEq, and_true] at hab
  exact fileName_injective hab

/-- **A folder serves as memory does.** Start with an empty folder and an empty memory, and make any
calls of both, as long as the file system takes the names of the files and what is written can be
read back. Every call works and is answered alike by both. The answers are what the calls before
call for, and no two saves share a file. -/
theorem SaveStore.folder_refines_memory {base : Path} {place : Location} {d : Disk}
    {calls : List SaveCall} (hbase : d.files.Opens base place)
    (hempty : d.files.namesIn base = [])
    (hkeys : ∀ c ∈ calls, ∀ key, c.key? = some key → d.files.Takes base key)
    (hrecords : ∀ c ∈ calls, ∀ v, c.record? = some v → v.Restorable) (e : Disk) :
    (∃ found : List SaveAnswer,
      ((SaveCall.answers calls (.folder base)).perform d).1 = .ok found ∧
        ((SaveCall.answers calls (.memory {})).perform e).1 = .ok found ∧
        found.length = calls.length ∧
        ∀ (i : Nat) (c : SaveCall) (a : SaveAnswer), calls[i]? = some c → found[i]? = some a →
          c.Fits (calls.take i) a) ∧
      Function.Injective fun key : SaveKey => base.join key.fileName := by
  have hfiled : Cabinet.Filed [] d.files d.files place := by
    refine ⟨fun _ h => h, ?_, by simp⟩
    rw [Tree.namesIn_eq hbase.locate, Table.keys, List.map_eq_nil_iff] at hempty
    exact hempty
  have hcurrent : Cabinet.Current [] [] := ⟨Table.distinct_nil, fun key => rfl⟩
  constructor
  · exact SaveCall.answers_agree hbase hkeys hrecords hfiled hcurrent e
  · exact SaveKey.file_injective base

/-- A disk with an empty folder for saves. -/
def Disk.freshSaves : Disk where
  files := Tree.ofListing [(["saves"], .folder)]

/-- Saves that are made, listed, removed and looked up. -/
def SaveCall.errands : List SaveCall :=
  [.write (.slot 7) "noon" [(.text "name", .text "Ann")], .write (.slot (-12)) "noon" [],
    .write .quick "dusk" [], .list, .delete 7, .read (.slot 7), .read .quick]

theorem SaveCall.errands_taken : ∀ c ∈ errands, ∀ key, c.key? = some key →
    Disk.freshSaves.files.Takes (Path.ofText "saves") key := by
  intro c hc key hkey
  have hslot : FolderSaves.slotName 7 = "slot_07.json" := by decide +kernel
  have hslot' : FolderSaves.slotName (-12) = "slot_-12.json" := by decide +kernel
  have hfile : key.fileName ∈ ["slot_07.json", "slot_-12.json", "quick.json"] := by
    simp only [errands, List.mem_cons, List.not_mem_nil, or_false] at hc
    rcases hc with rfl | rfl | rfl | rfl | rfl | rfl | rfl <;>
      simp only [key?, Option.some.injEq, reduceCtorEq] at hkey <;>
      simp [← hkey, SaveKey.fileName, hslot, hslot']
  have hall : ∀ name ∈ ["slot_07.json", "slot_-12.json", "quick.json"],
      (Disk.freshSaves.files.locate ((Path.ofText "saves").join name)).toOption.isSome := by
    decide +kernel
  obtain ⟨l, hl⟩ := Option.isSome_iff_exists.1 (hall _ hfile)
  exact ⟨l, toOption_eq_some.1 hl⟩

theorem SaveCall.errands_restorable : ∀ c ∈ errands, ∀ v, c.record? = some v → v.Restorable := by
  intro c hc v hv
  simp only [errands, List.mem_cons, List.not_mem_nil, or_false] at hc
  rcases hc with rfl | rfl | rfl | rfl | rfl | rfl | rfl <;>
    simp only [record?, Option.some.injEq, reduceCtorEq] at hv <;> subst hv
  · exact ⟨"\x7b\n  \"name\": \"Ann\",\n  \"ts\": \"noon\"\n\x7d",
      toOption_eq_some.1 (by decide +kernel), by decide +kernel, by cbv⟩
  · exact ⟨"\x7b\n  \"ts\": \"noon\"\n\x7d", toOption_eq_some.1 (by decide +kernel),
      by decide +kernel, by cbv⟩
  · exact ⟨"\x7b\n  \"ts\": \"dusk\"\n\x7d", toOption_eq_some.1 (by decide +kernel),
      by decide +kernel, by cbv⟩

theorem SaveStore.folder_refines_memory_errands :
    Disk.freshSaves.files.Opens (Path.ofText "saves") ["", "", "saves"] ∧
      Disk.freshSaves.files.namesIn (Path.ofText "saves") = [] ∧
      ∃ found : List SaveAnswer,
        ((SaveCall.answers SaveCall.errands (.folder (Path.ofText "saves"))).perform
            Disk.freshSaves).1 = .ok found ∧
          ((SaveCall.answers SaveCall.errands (.memory {})).perform {}).1 = .ok found ∧
          found[4]? = some (.done true) ∧ found[5]? = some (.found none) := by
  have hopens : Disk.freshSaves.files.Opens (Path.ofText "saves") ["", "", "saves"] :=
    ⟨toOption_eq_some.1 (by decide +kernel), by cbv⟩
  have hempty : Disk.freshSaves.files.namesIn (Path.ofText "saves") = [] := by decide +kernel
  obtain ⟨⟨found, hfolder, hmemory, hlength, hfits⟩, -⟩ :=
    SaveStore.folder_refines_memory hopens hempty SaveCall.errands_taken
      SaveCall.errands_restorable {}
  have hseven : found.length = 7 := hlength
  have hdeleted := hfits 4 _ _ rfl (List.getElem?_eq_getElem (by omega))
  have hgone := hfits 5 _ _ rfl (List.getElem?_eq_getElem (by omega))
  refine ⟨hopens, hempty, found, hfolder, hmemory, ?_, ?_⟩
  · rw [List.getElem?_eq_getElem (by omega), hdeleted]
    rfl
  · rw [List.getElem?_eq_getElem (by omega), hgone]
    rfl

end VisualNovel
