import VisualNovel.Proofs.Codec
import VisualNovel.Proofs.Stores

/-!
# What stands in a slot

Of a slot it matters what a read of it would find (`SaveStore.readSlot_found`). A save that worked
leaves its record there, with a time stamp (`SaveStore.writeSlot_leaves`). However a save to another
slot or a read ends, what stands in the slot stays: in a folder each save has a file of its own, and
nothing else of the folder is touched (`Files.Tree.SameBut`).
-/

namespace VisualNovel

open Files

variable {α : Type}

namespace Ends

theorem outcome_attempt_iff {σ : Type} {act : Attempt σ α} {s : σ}
    {Q : Except Mishap α → σ → Prop} {E : Mishap → σ → Prop} :
    Ends (Attempt.outcome act) s Q E ↔
      Ends act s (fun a s' => Q (.ok a) s') fun m s' => Q (.error m) s' := by
  have hrun : ((ExceptT.run (Attempt.outcome act)).run s : Except Mishap (Except Mishap α) × σ) =
      (.ok ((ExceptT.run act).run s : Except Mishap α × σ).1,
        ((ExceptT.run act).run s : Except Mishap α × σ).2) := rfl
  unfold Ends
  rw [hrun]
  rcases ((ExceptT.run act).run s : Except Mishap α × σ) with ⟨_ | _, _⟩ <;> rfl

theorem changeFiles_iff {change : Attempt Tree α} {d : Disk} {Q : α → Disk → Prop}
    {E : Mishap → Disk → Prop} :
    Ends (Attempt.changeFiles change) d Q E ↔
      Ends change d.files (fun a files => Q a (d.withFiles files))
        fun m files => E m (d.withFiles files) := by
  simp only [Attempt.changeFiles, Attempt.perform, bind_iff, get_iff]
  unfold Ends
  rcases ((ExceptT.run change).run d.files : Except Mishap α × Tree) with ⟨_ | _, _⟩ <;> rfl

theorem tryCatch_iff {σ : Type} {act : Attempt σ α} {handle : Mishap → Attempt σ α} {s : σ}
    {Q : α → σ → Prop} {E : Mishap → σ → Prop} :
    Ends (tryCatch act handle) s Q E ↔ Ends act s Q fun m s' => Ends (handle m) s' Q E := by
  rcases hrun : act.perform s with ⟨m | a, s'⟩
  · rw [iff_attempted, iff_attempted, hrun, Attempt.perform_tryCatch_error hrun, ← iff_attempted]
    simp
  · rw [iff_attempted, iff_attempted, hrun, Attempt.perform_tryCatch_ok hrun]
    simp

end Ends

/-! ## One file -/

namespace Files.Tree

variable {t t' : Tree} {p base : Path} {l place : Location}

/-- Nothing has changed but at the place of a path, and no folder is gone. -/
structure SameBut (p : Path) (t t' : Tree) : Prop where
  at? : ∀ l, t.locate p ≠ .ok l → t'.at? l = t.at? l
  folders : t'.Extends t

theorem SameBut.refl (p : Path) (t : Tree) : SameBut p t t :=
  ⟨fun _ _ => rfl, fun _ h => h⟩

theorem at?_put (hfolder : t.at? l ≠ some .folder) (node : Node) (l' : Location) :
    (t.put l node).at? l' = if l = l' then some node else t.at? l' := by
  simp only [Tree.at?, Tree.put, Table.get?_put] at hfolder ⊢
  by_cases hsame : l = l'
  · subst hsame
    cases hwithin : l.isPrefixOf workingFolder <;> simp [hwithin] at hfolder ⊢
  · simp [hsame]

theorem sameBut_put (hlocate : t.locate p = .ok l) (hfolder : t.at? l ≠ some .folder)
    (node : Node) : SameBut p t (t.put l node) := by
  refine ⟨fun l' hl' => ?_, fun l' hl' => ?_⟩
  · have hne : l ≠ l' := by
      rintro rfl
      exact hl' hlocate
    rw [at?_put hfolder, if_neg hne]
  · have hne : l ≠ l' := by
      rintro rfl
      exact hfolder hl'
    rw [at?_put hfolder, if_neg hne, hl']

end Files.Tree

namespace Files.Change

variable {t : Tree} {p : Path}

theorem writeText_ends (p : Path) (text : String) (t : Tree) :
    Ends (writeText p text) t
      (fun _ t' => t.SameBut p t' ∧ ∃ l, t.locate p = .ok l ∧
        t'.at? l = some (.file (.bytes text.toUTF8)))
      fun _ t' => t.SameBut p t' := by
  refine Ends.bind_iff.2 (Ends.get_iff.2 (Ends.bind_iff.2 (Ends.mk_pure_iff.2
    ⟨fun l hl => Ends.bind_iff.2 (Ends.get_iff.2 ?_), fun _ _ => .refl p t⟩)))
  split
  · exact .refl p t
  · next hfolder =>
    have hfolder : t.at? l ≠ some .folder := hfolder
    unfold encoded?
    cases Text.writable text with
    | true =>
      refine ⟨Tree.sameBut_put hl hfolder _, l, hl, ?_⟩
      rw [Tree.at?_put hfolder, if_pos rfl]
    | false => exact Tree.sameBut_put hl hfolder _

theorem isFolder_opens (h : t.isFolder p = .ok true) : ∃ place, t.Opens p place := by
  obtain ⟨found, hfound, h⟩ := bind_eq_ok.1 h
  obtain rfl : found = some .folder := by
    cases found with
    | none => cases h
    | some node =>
      cases node with
      | folder => rfl
      | file => cases h
  unfold Tree.find? at hfound
  split at hfound
  · next place hplace => exact ⟨place, hplace, Except.ok.inj hfound⟩
  · cases hfound
  · cases hfound

theorem ensureOne_ends (p : Path) (t : Tree) :
    Ends (ensureOne p) t (fun _ t' => ∃ place, t'.Opens p place) fun _ _ => True := by
  have hcatch : ∀ (m : Mishap) (t : Tree), Ends (do
      if m.fromFiles && m != .noFile && (← ofExcept ((← get).isFolder p)) then return
      throw m : Attempt Tree Unit) t (fun _ t' => ∃ place, t'.Opens p place) fun _ _ => True := by
    intro m t
    refine Ends.bind_iff.2 (Ends.get_iff.2 (Ends.bind_iff.2 (Ends.mk_pure_iff.2
      ⟨fun there hthere => ?_, fun _ _ => trivial⟩)))
    split
    · next hcond =>
      obtain rfl : there = true := (Bool.and_eq_true_iff.1 hcond).2
      exact isFolder_opens hthere
    · trivial
  refine Ends.tryCatch_iff.2 (Ends.bind_iff.2 (Ends.get_iff.2 (Ends.bind_iff.2
    (Ends.mk_pure_iff.2 ⟨fun l hl => Ends.bind_iff.2 (Ends.get_iff.2 ?_), fun m _ => hcatch m t⟩))))
  split
  · exact hcatch _ t
  · next hnone =>
    have hnone : t.at? l = none := hnone
    have hput : (t.put l .folder).at? l = some .folder := by
      rw [Tree.at?_put (by simp [hnone]), if_pos rfl]
    refine ⟨l, Tree.locate_mono (fun l' hl' => ?_) hl, hput⟩
    rw [Tree.at?_put (by simp [hnone]), hl', ite_self]

/-- A folder that was made, or was there, is there. -/
theorem ensureFolder_ends (p : Path) (t : Tree) :
    Ends (ensureFolder p) t (fun _ t' => ∃ place, t'.Opens p place) fun _ _ => True := by
  unfold ensureFolder
  cases p.names.length with
  | zero => exact ensureOne_ends p t
  | succ depth =>
    refine Ends.tryCatch_iff.2 ((ensureOne_ends p t).mono (fun _ _ h => h) fun m t₁ _ => ?_)
    have hlast : Ends (do ensureAll depth p.parent; ensureOne p : Attempt Tree Unit) t₁
        (fun _ t' => ∃ place, t'.Opens p place) fun _ _ => True :=
      Ends.bind_iff.2 (Ends.iff_attempted.2 ⟨fun _ t₂ _ => ensureOne_ends p t₂,
        fun _ _ _ => trivial⟩)
    split
    · trivial
    · exact hlast

end Files.Change

theorem Files.Tree.Takes.locate {t : Tree} {base : Path} {place : Location} {key : SaveKey}
    (h : t.Takes base key) (hbase : t.Opens base place) :
    t.locate (base.join key.fileName) = .ok (place ++ [key.fileName]) := by
  obtain ⟨l, hl⟩ := h
  rw [hl, (Tree.locate_join key.isName_fileName hbase.locate hbase.folder hl).1]

/-! ## Saves in a folder -/

namespace FolderSaves

variable {d : Disk} {base p : Path} {place : Location}

theorem write_ends (now : String) (p : Path) (payload : Value) (d : Disk) :
    Ends (write now p payload) d
      (fun worked d' => d.files.SameBut p d'.files ∧ (worked → ∃ kept text l,
        stamp now payload = .ok kept ∧ Json.write Json.indented (.record kept) = .ok text ∧
          d.files.locate p = .ok l ∧ d'.files.at? l = some (.file (.bytes text.toUTF8))))
      fun _ d' => d.files.SameBut p d'.files := by
  refine Ends.bind_iff.2 (Ends.outcome_attempt_iff.2 (Ends.bind_iff.2 (Ends.mk_pure_iff.2
    ⟨fun text htext => ?_, fun m _ => ?_⟩)))
  · obtain ⟨kept, hkept, htext⟩ := bind_eq_ok.1 htext
    refine Ends.changeFiles_iff.2 ((Change.writeText_ends p text d.files).mono ?_ ?_)
    · rintro _ files ⟨hsame, l, hl, hfile⟩
      exact ⟨hsame, fun _ => ⟨kept, text, l, hkept, htext, hl, hfile⟩⟩
    · intro m files hsame
      dsimp only
      split
      · exact Ends.bind_iff.2 ⟨hsame, nofun⟩
      · exact hsame
  · dsimp only
    split
    · exact Ends.bind_iff.2 ⟨.refl p d.files, nofun⟩
    · exact .refl p d.files

theorem read_ends (p : Path) (d : Disk) :
    Ends (read p) d (fun _ d' => d'.files = d.files) fun _ d' => d'.files = d.files := by
  refine Ends.bind_iff.2 (Ends.bind_iff.2 (Ends.get_iff.2 (Ends.mk_pure_iff.2
    ⟨fun there _ => ?_, fun _ _ => rfl⟩)))
  cases there with
  | false => rfl
  | true =>
    refine Ends.bind_iff.2 (Ends.outcome_attempt_iff.2 (Ends.bind_iff.2 (Ends.get_iff.2
      (Ends.mk_pure_iff.2 ⟨fun _ _ => rfl, fun m _ => ?_⟩))))
    dsimp only
    split
    · exact Ends.bind_iff.2 rfl
    · rfl

theorem read_found {l : Location} {text : String} {v : Value} (hlocate : d.files.locate p = .ok l)
    (hfile : d.files.at? l = some (.file (.bytes text.toUTF8))) (hread : Json.read text = .ok v) :
    (read p).perform d = (.ok (some v), d) := by
  have hexists : d.files.exists? p = .ok true := by
    simp only [Tree.exists?, Tree.find?, hlocate, hfile, bind, Except.bind, pure, Except.pure,
      Option.isSome_some]
  have htext : d.files.readText p = .ok text := by
    simp only [Tree.readText, Tree.read, hlocate, hfile, bind, Except.bind, pure, Except.pure,
      fromUTF8?_toUTF8]
  have hvalue : (do Json.read (← d.files.readText p) : Except Mishap Value) = .ok v := by
    rw [htext]
    exact hread
  unfold read
  rw [Attempt.perform_bind_ok (Attempt.perform_askFiles _ hexists)]
  simp only [Bool.not_true, Bool.false_eq_true, if_false]
  rw [Attempt.perform_bind_ok (Attempt.perform_outcome_ok
    (Attempt.perform_askFiles (fun files => do Json.read (← files.readText p)) hvalue))]
  rfl

theorem ensure_opens (base : Path) (d : Disk) :
    Ends (ensure base) d (fun _ d' => ∃ place, d'.files.Opens base place) fun _ _ => True :=
  Ends.changeFiles_iff.2 (Change.ensureFolder_ends base d.files)

theorem slotPath_ends (base : Path) (slot : Value) (d : Disk) :
    Ends (slotPath base slot) d
      (fun p d' => (∃ place, d'.files.Opens base place) ∧
        ∃ n, slot.toInt = .ok n ∧ p = base.join (slotName n))
      fun _ _ => True := by
  refine Ends.bind_iff.2 ((ensure_opens base d).mono (fun _ d' hopens => ?_) fun _ _ _ => trivial)
  refine Ends.bind_iff.2 (Ends.mk_pure_iff.2 ⟨fun n hn => ?_, fun _ _ => trivial⟩)
  generalize Value.writableInt n = writable
  cases writable with
  | true => exact ⟨hopens, n, hn, rfl⟩
  | false => trivial

/-- In a folder that is there, nothing is done to find the place of a slot. -/
theorem slotPath_same (hbase : d.files.Opens base place) (slot : Value) :
    Ends (slotPath base slot) d
      (fun p d' => d' = d ∧ ∃ n, slot.toInt = .ok n ∧ p = base.join (slotName n))
      fun _ d' => d' = d := by
  unfold slotPath
  refine Ends.iff_attempted.2 ?_
  rw [Attempt.perform_bind_ok (ensure_perform hbase), ← Ends.iff_attempted]
  refine Ends.bind_iff.2 (Ends.mk_pure_iff.2 ⟨fun n hn => ?_, fun _ _ => rfl⟩)
  generalize Value.writableInt n = writable
  cases writable with
  | true => exact ⟨rfl, n, hn, rfl⟩
  | false => rfl

theorem quickPath_same (hbase : d.files.Opens base place) :
    Ends (quickPath base) d (fun p d' => d' = d ∧ p = base.join "quick.json")
      fun _ d' => d' = d := by
  refine Ends.iff_attempted.2 ?_
  rw [quickPath_perform hbase]
  simp

end FolderSaves

/-! ## Slots -/

namespace SaveStore

/-- A record that stands in a slot. -/
def Stands (files : Tree) (n : Int) (v : Value) : SaveStore → Prop
  | memory saves => Table.get? n saves.slots = some v
  | folder base => ∃ place text, files.Opens base place ∧ files.Takes base (.slot n) ∧
      files.at? (place ++ [FolderSaves.slotName n]) = some (.file (.bytes text.toUTF8)) ∧
        Json.read text = .ok v

variable {store : SaveStore} {d : Disk} {n : Int} {v : Value} {base : Path} {t t' : Tree}

/-- A read of the slot finds the record. -/
theorem readSlot_found (h : store.Stands d.files n v) :
    (store.readSlot (.int n)).perform d = (.ok (some v), d) := by
  have hint : Value.toInt (.int n) = .ok n := rfl
  cases store with
  | memory saves =>
    have h : Table.get? n saves.slots = some v := h
    show (Attempt.ofExcept (Value.toInt (.int n)) >>= _).perform d = _
    rw [Attempt.perform_ofExcept_bind hint, h]
    rfl
  | folder base =>
    obtain ⟨place, text, hopens, htakes, hfile, hread⟩ := h
    have hpath := FolderSaves.slotPath_perform hopens (htakes.short hopens)
    show (FolderSaves.slotPath base (.int n) >>= FolderSaves.read).perform d = _
    rw [Attempt.perform_bind_ok hpath]
    exact FolderSaves.read_found (htakes.locate hopens) hfile hread

/-- What stands in a slot stays if another file of the folder is written. -/
theorem Stands.sameBut {key : SaveKey} (h : (folder base).Stands t n v)
    (hsame : t.SameBut (base.join key.fileName) t') (hkey : key ≠ .slot n) :
    (folder base).Stands t' n v := by
  obtain ⟨place, text, hopens, ⟨l, hl⟩, hfile, hread⟩ := h
  refine ⟨place, text, ⟨Tree.locate_mono hsame.folders hopens.locate,
    hsame.folders _ hopens.folder⟩, ⟨l, Tree.locate_mono hsame.folders hl⟩, ?_, hread⟩
  rw [hsame.at? _ fun hlocate => hkey ?_, hfile]
  obtain ⟨hplace, -⟩ := Tree.locate_join key.isName_fileName hopens.locate hopens.folder hlocate
  have hname : key.fileName = FolderSaves.slotName n := by simpa using hplace.symm
  exact SaveKey.fileName_injective hname

theorem Stands.write {key : SaveKey} (h : (folder base).Stands d.files n v) (hkey : key ≠ .slot n)
    (now : String) (payload : Value) :
    Ends (FolderSaves.write now (base.join key.fileName) payload) d
      (fun _ d' => (folder base).Stands d'.files n v)
      fun _ d' => (folder base).Stands d'.files n v :=
  (FolderSaves.write_ends now _ payload d).mono (fun _ _ hd => h.sameBut hd.1 hkey)
    fun _ _ hd => h.sameBut hd hkey

theorem Stands.read (h : store.Stands d.files n v) (p : Path) :
    Ends (FolderSaves.read p) d (fun _ d' => store.Stands d'.files n v)
      fun _ d' => store.Stands d'.files n v := by
  refine (FolderSaves.read_ends p d).mono ?_ ?_
  · intro _ d' hsame
    rwa [hsame]
  · intro _ d' hsame
    rwa [hsame]

/-- However a save to another slot ends, what stands in the slot stays. -/
theorem writeSlot_spares (h : store.Stands d.files n v) (now : String) {slot : Value}
    (payload : Value) (hslot : slot.toInt ≠ .ok n) :
    Ends (store.writeSlot now slot payload) d (fun r d' => r.2.Stands d'.files n v)
      fun _ d' => store.Stands d'.files n v := by
  cases store with
  | memory saves =>
    refine Ends.bind_iff.2 (Ends.mk_pure_iff.2 ⟨fun kept _ => ?_, fun _ _ => h⟩)
    refine Ends.bind_iff.2 (Ends.mk_pure_iff.2 ⟨fun m hm => ?_, fun _ _ => h⟩)
    have hne : m ≠ n := by
      rintro rfl
      exact hslot hm
    show Table.get? n (Table.put m (.record kept) saves.slots) = some v
    rw [Table.get?_put, if_neg (by simpa using hne)]
    exact h
  | folder base =>
    obtain ⟨place, -, hopens, -⟩ := id h
    refine Ends.bind_iff.2 ((FolderSaves.slotPath_same hopens slot).mono ?_ fun _ _ hd => hd ▸ h)
    rintro p _ ⟨rfl, m, hm, hp⟩
    have hkey : SaveKey.slot m ≠ .slot n := by
      rintro ⟨⟩
      exact hslot hm
    rw [hp]
    exact Ends.bind_iff.2 (h.write hkey now payload)

theorem writeQuick_spares (h : store.Stands d.files n v) (now : String) (payload : Value) :
    Ends (store.writeQuick now payload) d (fun r d' => r.2.Stands d'.files n v)
      fun _ d' => store.Stands d'.files n v := by
  cases store with
  | memory saves => exact Ends.bind_iff.2 (Ends.mk_pure_iff.2 ⟨fun _ _ => h, fun _ _ => h⟩)
  | folder base =>
    obtain ⟨place, -, hopens, -⟩ := id h
    refine Ends.bind_iff.2 ((FolderSaves.quickPath_same hopens).mono ?_ fun _ _ hd => hd ▸ h)
    rintro p _ ⟨rfl, hp⟩
    have hkey : SaveKey.quick ≠ .slot n := nofun
    rw [hp]
    exact Ends.bind_iff.2 (h.write hkey now payload)

/-- However a read of a slot ends, what stands in a slot stays. -/
theorem readSlot_spares (h : store.Stands d.files n v) (slot : Value) :
    Ends (store.readSlot slot) d (fun _ d' => store.Stands d'.files n v)
      fun _ d' => store.Stands d'.files n v := by
  cases store with
  | memory saves => exact Ends.bind_iff.2 (Ends.mk_pure_iff.2 ⟨fun _ _ => h, fun _ _ => h⟩)
  | folder base =>
    obtain ⟨place, -, hopens, -⟩ := id h
    refine Ends.bind_iff.2 ((FolderSaves.slotPath_same hopens slot).mono ?_ fun _ _ hd => hd ▸ h)
    rintro p _ ⟨rfl, -⟩
    exact h.read p

theorem readQuick_spares (h : store.Stands d.files n v) :
    Ends store.readQuick d (fun _ d' => store.Stands d'.files n v)
      fun _ d' => store.Stands d'.files n v := by
  cases store with
  | memory saves => exact h
  | folder base =>
    obtain ⟨place, -, hopens, -⟩ := id h
    refine Ends.bind_iff.2 ((FolderSaves.quickPath_same hopens).mono ?_ fun _ _ hd => hd ▸ h)
    rintro p _ ⟨rfl, -⟩
    exact h.read p

/-- A save that worked has left its record in the slot, with a time stamp. -/
theorem writeSlot_leaves (store : SaveStore) (now : String) (n : Int) (payload : Value) (d : Disk)
    (hjson : ∀ base kept text, store = .folder base → stamp now payload = .ok kept →
      Json.write Json.indented (.record kept) = .ok text → Json.read text = .ok (.record kept)) :
    Ends (store.writeSlot now (.int n) payload) d
      (fun r d' => r.1 → ∃ kept, stamp now payload = .ok kept ∧
        r.2.Stands d'.files n (.record kept))
      fun _ _ => True := by
  have hint : Value.toInt (.int n) = .ok n := rfl
  cases store with
  | memory saves =>
    refine Ends.bind_iff.2 (Ends.mk_pure_iff.2 ⟨fun kept hkept => ?_, fun _ _ => trivial⟩)
    refine Ends.bind_iff.2 (Ends.mk_pure_iff.2
      ⟨fun m hm _ => ⟨kept, hkept, ?_⟩, fun _ _ => trivial⟩)
    cases hint.symm.trans hm
    show Table.get? n (Table.put n (.record kept) saves.slots) = _
    rw [Table.get?_put, if_pos (BEq.refl n)]
  | folder base =>
    refine Ends.bind_iff.2 ((FolderSaves.slotPath_ends base _ d).mono ?_ fun _ _ _ => trivial)
    rintro p d₁ ⟨⟨place, hopens⟩, m, hm, hp⟩
    cases hint.symm.trans hm
    rw [hp]
    refine Ends.bind_iff.2 ((FolderSaves.write_ends now _ payload d₁).mono ?_ fun _ _ _ => trivial)
    rintro worked d' ⟨hsame, hworked⟩ hdone
    obtain ⟨kept, text, l, hkept, htext, hl, hfile⟩ := hworked hdone
    have hl : d₁.files.locate (base.join (SaveKey.fileName (.slot n))) = .ok l := hl
    have htakes : d₁.files.Takes base (.slot n) := ⟨l, hl⟩
    rw [htakes.locate hopens] at hl
    cases hl
    exact ⟨kept, hkept, place, text, ⟨Tree.locate_mono hsame.folders hopens.locate,
      hsame.folders _ hopens.folder⟩, ⟨_, Tree.locate_mono hsame.folders (htakes.locate hopens)⟩,
      hfile, hjson base kept text rfl hkept htext⟩

end SaveStore

/-! ## What the record says -/

theorem Fields.get?_put {key key' : String} {v : Value} {fs : Fields} :
    (fs.put key' v).get? key = if key' = key then some v else fs.get? key := by
  unfold Fields.put Fields.get?
  rw [Table.get?_put]
  simp [Value.text_beq_text]

namespace Snapshot

/-- A time stamp does not change what is read. -/
theorem ofValue_stamped {now : String} {fs kept : Fields} (h : stamp now (.record fs) = .ok kept) :
    ofValue (.record kept) = ofValue (.record fs) := by
  obtain rfl : stamped now fs = kept := Except.ok.inj h
  unfold stamped
  split
  · rfl
  · simp only [ofValue, Value.fields, Fields.get, Fields.get?_put, String.reduceEq, if_false, bind,
      Except.bind]

/-- A snapshot is read back from its record with a time stamp. -/
theorem read_back {t : Snapshot} (ht : t.Storable) (hname : t.script.IsText) {now : String}
    {v : Value} {kept : Fields} (hv : t.toValue = .ok v) (hkept : stamp now v = .ok kept) :
    ofValue (.record kept) = .ok t := by
  have hread := ofValue_written_of_text ht hname
  rw [hv] at hread
  obtain ⟨fs, rfl⟩ : ∃ fs, v = .record fs := by
    rw [toValue_of_storable ht] at hv
    cases hv
    exact ⟨_, rfl⟩
  rw [ofValue_stamped hkept]
  exact hread

end Snapshot

/-! ## What can be saved again -/

/-- A snapshot that is read from the record could have been saved. -/
def Value.Recoverable (v : Value) : Prop :=
  ∀ t, Snapshot.ofValue v = .ok t → t.Storable ∧ t.script.IsText

theorem Value.recoverable_of_plain {v : Value} (h : v.plain) : v.Recoverable :=
  fun _ ht => Snapshot.ofValue_storable h ht

/-- What was written of a snapshot, with a time stamp, can be saved again. -/
theorem Snapshot.recoverable_stamped {t : Snapshot} (ht : t.Storable) {now : String} {v : Value}
    {kept : Fields} (hv : t.toValue = .ok v) (hkept : stamp now v = .ok kept) :
    (Value.record kept).Recoverable := by
  intro u hu
  have hread := ofValue_written ht
  obtain ⟨fs, rfl⟩ : ∃ fs, v = .record fs := by
    rw [toValue_of_storable ht] at hv
    cases hv
    exact ⟨_, rfl⟩
  rw [hv] at hread
  rw [ofValue_stamped hkept] at hu
  cases hu.symm.trans hread
  exact ⟨⟨ht.flags, ht.overrides, ht.scene, ht.choiceSets⟩, _, rfl⟩

namespace SaveStore

/-- Whatever snapshot the memory gives out could have been saved. -/
def Recoverable : SaveStore → Prop
  | memory saves => (∀ v, saves.quick = some v → v.Recoverable) ∧ ∀ e ∈ saves.slots, e.2.Recoverable
  | folder _ => True

variable {store : SaveStore}

theorem readSlot_recoverable (h : store.Recoverable) (slot : Value) (d : Disk) :
    Ends (store.readSlot slot) d (fun found _ => ∀ v, found = some v → v.Recoverable)
      fun _ _ => True := by
  cases store with
  | memory saves =>
    refine Ends.bind_iff.2 (Ends.mk_pure_iff.2 ⟨fun n _ v hv => ?_, fun _ _ => trivial⟩)
    obtain ⟨k, hk⟩ := Table.mem_of_get? hv
    exact h.2 _ hk
  | folder base =>
    exact (readSlot_plain (show (folder base).Plain from trivial) slot d).mono
      (fun _ _ hfound v hv => Value.recoverable_of_plain (hfound v hv)) fun _ _ _ => trivial

theorem readQuick_recoverable (h : store.Recoverable) (d : Disk) :
    Ends store.readQuick d (fun found _ => ∀ v, found = some v → v.Recoverable)
      fun _ _ => True := by
  cases store with
  | memory saves => exact h.1
  | folder base =>
    exact (readQuick_plain (show (folder base).Plain from trivial) d).mono
      (fun _ _ hfound v hv => Value.recoverable_of_plain (hfound v hv)) fun _ _ _ => trivial

theorem writeSlot_recoverable (h : store.Recoverable) {now : String} {payload : Value}
    (hpayload : ∀ kept, stamp now payload = .ok kept → (Value.record kept).Recoverable)
    (slot : Value) (d : Disk) :
    Ends (store.writeSlot now slot payload) d (fun r _ => r.2.Recoverable) fun _ _ => True := by
  cases store with
  | memory saves =>
    refine Ends.bind_iff.2 (Ends.mk_pure_iff.2 ⟨fun kept hkept => ?_, fun _ _ => trivial⟩)
    refine Ends.bind_iff.2 (Ends.mk_pure_iff.2
      ⟨fun n _ => ⟨h.1, fun e he => ?_⟩, fun _ _ => trivial⟩)
    rcases Table.mem_put he with he | ⟨hv, -⟩
    · exact h.2 e he
    · rw [hv]
      exact hpayload kept hkept
  | folder base =>
    exact Ends.bind_iff.2 (Ends.iff_attempted.2 ⟨fun _ _ _ => Ends.bind_iff.2
      (Ends.iff_attempted.2 ⟨fun _ _ _ => trivial, fun _ _ _ => trivial⟩), fun _ _ _ => trivial⟩)

theorem writeQuick_recoverable (h : store.Recoverable) {now : String} {payload : Value}
    (hpayload : ∀ kept, stamp now payload = .ok kept → (Value.record kept).Recoverable) (d : Disk) :
    Ends (store.writeQuick now payload) d (fun r _ => r.2.Recoverable) fun _ _ => True := by
  cases store with
  | memory saves =>
    refine Ends.bind_iff.2 (Ends.mk_pure_iff.2 ⟨fun kept hkept => ⟨?_, h.2⟩, fun _ _ => trivial⟩)
    rintro _ ⟨⟩
    exact hpayload kept hkept
  | folder base =>
    exact Ends.bind_iff.2 (Ends.iff_attempted.2 ⟨fun _ _ _ => Ends.bind_iff.2
      (Ends.iff_attempted.2 ⟨fun _ _ _ => trivial, fun _ _ _ => trivial⟩), fun _ _ _ => trivial⟩)

end SaveStore

end VisualNovel
