import Mathlib.Data.List.TakeWhile
import VisualNovel.Proofs.Calculus
import VisualNovel.Saves

/-!
# The files of saves

The number of a slot is written into the name of its file and read back from it when a folder is
listed. This module shows that nothing is lost on the way:

* different slots have different names, whatever their sign and width (`slotName_injective`), and
  none has the name of the quick save;
* a name that is short enough for a file is read back as its number (`slotOf?_slotName`);
* a folder of the file tree is a table of its own, `Tree.inside`: to write, remove and look up a
  file in the folder is to do so in that table.
-/

namespace VisualNovel

/-! ## Decimals -/

namespace Number

open Text

theorem toNat_of_isDigit {c : Char} (h : c.isDigit) : 48 ≤ c.toNat ∧ c.toNat ≤ 57 := by
  simp only [Char.isDigit, ge_iff_le, Bool.and_eq_true, decide_eq_true_eq, UInt32.le_iff_toNat_le]
    at h
  exact h

theorem digitValue?_of_isDigit {c : Char} (h : c.isDigit) :
    digitValue? c = some (c.toNat - 48) := by
  have hrange := toNat_of_isDigit h
  have hsmall : c.toNat < 0x80 := by omega
  simp [digitValue?, hsmall, hrange]

theorem digitsAfter_of_digits {cs : List Char} (h : ∀ c ∈ cs, c.isDigit) (value count : Nat) :
    digitsAfter value count cs = ⟨Nat.ofDigitChars 10 cs value, count + cs.length, []⟩ := by
  induction cs generalizing value count with
  | nil => simp [digitsAfter]
  | cons c cs ih =>
    have hc := digitValue?_of_isDigit (h c List.mem_cons_self)
    have hrest : ∀ d ∈ cs, d.isDigit := fun d hd => h d (List.mem_cons_of_mem _ hd)
    cases cs with
    | nil => simp [digitsAfter, hc, Nat.ofDigitChars_cons, Nat.mul_comm]
    | cons d cs =>
      have hvalue : 10 * value + (c.toNat - '0'.toNat) = value * 10 + (c.toNat - 48) := by
        rw [Nat.mul_comm]
        rfl
      rw [digitsAfter, hc, Nat.ofDigitChars_cons, hvalue]
      simp only [ih hrest, List.length_cons, DigitRun.mk.injEq, and_true, true_and]
      omega

theorem digits?_of_digits {cs : List Char} (h : ∀ c ∈ cs, c.isDigit) (hne : cs ≠ []) :
    digits? cs = some ⟨Nat.ofDigitChars 10 cs 0, cs.length, []⟩ := by
  cases cs with
  | nil => exact absurd rfl hne
  | cons c cs =>
    have hc := digitValue?_of_isDigit (h c List.mem_cons_self)
    have hrest : ∀ d ∈ cs, d.isDigit := fun d hd => h d (List.mem_cons_of_mem _ hd)
    simp [digits?, hc, digitsAfter_of_digits hrest, Nat.ofDigitChars_cons, Nat.add_comm]

end Number

/-! ## Names of slots -/

namespace FolderSaves

open Number

/-- The digits of a slot's number as its file has them. -/
def slotDigits (slot : Int) : List Char :=
  if 0 ≤ slot ∧ (Nat.toDigits 10 slot.natAbs).length < 2 then '0' :: Nat.toDigits 10 slot.natAbs
  else Nat.toDigits 10 slot.natAbs

theorem slotText_toList (slot : Int) :
    (slotText slot).toList = (if slot < 0 then ['-'] else []) ++ slotDigits slot := by
  have hpos : 0 < (Nat.toDigits 10 slot.natAbs).length := Nat.length_toDigits_pos
  by_cases hslot : slot < 0
  · have hneg : ¬0 ≤ slot := by omega
    have habs : (-slot).toNat = slot.natAbs := by omega
    have hlen : ¬"-".length + (Nat.toDigits 10 slot.natAbs).length < 2 := by
      have : "-".length = 1 := rfl
      omega
    simp [slotText, slotDigits, Int.toString_eq_repr, Int.repr_eq_if, hneg, hslot, habs, hlen,
      Nat.repr_eq_ofList_toDigits]
  · have hnonneg : 0 ≤ slot := by omega
    have habs : slot.toNat = slot.natAbs := by omega
    simp only [slotText, slotDigits, Int.toString_eq_repr, Int.repr_eq_if, hnonneg, hslot, habs,
      Nat.repr_eq_ofList_toDigits, if_true, if_false, true_and, List.nil_append]
    split <;> simp_all

theorem isDigit_of_mem_slotDigits {slot : Int} {c : Char} (h : c ∈ slotDigits slot) :
    c.isDigit := by
  have hdigits : ∀ d ∈ Nat.toDigits 10 slot.natAbs, d.isDigit := fun d hd =>
    Nat.isDigit_of_mem_toDigits (by omega) (by omega) hd
  unfold slotDigits at h
  split at h
  · rcases List.mem_cons.1 h with rfl | h
    · decide
    · exact hdigits c h
  · exact hdigits c h

theorem slotDigits_ne_nil (slot : Int) : slotDigits slot ≠ [] := by
  have hpos : 0 < (Nat.toDigits 10 slot.natAbs).length := Nat.length_toDigits_pos
  unfold slotDigits
  split
  · simp
  · exact List.ne_nil_of_length_pos hpos

/-- Zeros in front do not change a number. -/
theorem ofDigitChars_slotDigits (slot : Int) :
    Nat.ofDigitChars 10 (slotDigits slot) 0 = slot.natAbs := by
  have hvalue : Nat.ofDigitChars 10 (Nat.toDigits 10 slot.natAbs) 0 = slot.natAbs :=
    Nat.ofDigitChars_ten_toDigits
  unfold slotDigits
  split
  · simp [Nat.ofDigitChars_cons]
  · exact hvalue

theorem digits?_slotDigits (slot : Int) :
    digits? (slotDigits slot) = some ⟨slot.natAbs, (slotDigits slot).length, []⟩ := by
  rw [digits?_of_digits (fun c => isDigit_of_mem_slotDigits) (slotDigits_ne_nil slot),
    ofDigitChars_slotDigits]

theorem takeSign_slotText (slot : Int) :
    takeSign (slotText slot).toList = (decide (slot < 0), slotDigits slot) := by
  rw [slotText_toList]
  by_cases hslot : slot < 0
  · simp [hslot, takeSign]
  · simp only [hslot, if_false, List.nil_append, decide_false]
    have hdigit : ∀ c ∈ slotDigits slot, c.isDigit := fun c => isDigit_of_mem_slotDigits
    unfold takeSign
    split
    · next heq =>
      have := hdigit '-' (by simp [heq])
      contradiction
    · next heq =>
      have := hdigit '+' (by simp [heq])
      contradiction
    · rfl

theorem slotText_injective : Function.Injective slotText := by
  intro a b hab
  have hsign := congrArg (fun s : String => takeSign s.toList) hab
  simp only [takeSign_slotText, Prod.mk.injEq, decide_eq_decide] at hsign
  obtain ⟨hneg, hdigits⟩ := hsign
  have habs : a.natAbs = b.natAbs := by
    rw [← ofDigitChars_slotDigits a, ← ofDigitChars_slotDigits b, hdigits]
  omega

/-- A sign and digits hold none of the characters that divide names and numerals. -/
theorem slotText_chars {slot : Int} {c : Char} (h : c ∈ (slotText slot).toList) :
    c ≠ '_' ∧ c ≠ '/' ∧ isNumeralBlank c = false := by
  rw [slotText_toList, List.mem_append] at h
  rcases h with h | h
  · split at h
    · rw [List.mem_singleton.1 h]
      decide
    · cases h
  · have hrange : 48 ≤ c.toNat ∧ c.toNat ≤ 57 := toNat_of_isDigit (isDigit_of_mem_slotDigits h)
    refine ⟨?_, ?_, ?_⟩
    · rintro rfl
      exact absurd hrange (by decide)
    · rintro rfl
      exact absurd hrange (by decide)
    · simp only [isNumeralBlank, Text.isBlank, Bool.and_eq_false_iff]
      left
      simp only [Bool.or_eq_false_iff, Bool.and_eq_false_iff, decide_eq_false_iff_not,
        beq_eq_false_iff_ne]
      omega

theorem readInt?_slotText {slot : Int} (h : (slotText slot).length ≤ maxDigits) :
    readInt? (slotText slot) = some slot := by
  have hdrop : ∀ cs : List Char, (∀ c ∈ cs, isNumeralBlank c = false) →
      cs.dropWhile isNumeralBlank = cs := by
    intro cs hcs
    cases cs with
    | nil => rfl
    | cons c cs => simp [hcs c List.mem_cons_self]
  have hblank : ∀ c ∈ (slotText slot).toList, isNumeralBlank c = false := fun c hc =>
    (slotText_chars hc).2.2
  have hbare : bare (slotText slot) = (slotText slot).toList := by
    rw [bare, hdrop _ hblank, hdrop _ fun c hc => hblank c (List.mem_reverse.1 hc),
      List.reverse_reverse]
  have hcount : ¬maxDigits < (slotDigits slot).length := by
    have hlength := congrArg List.length (slotText_toList slot)
    rw [String.length_toList, List.length_append] at hlength
    omega
  have hvalue : (if slot < 0 then -(slot.natAbs : Int) else slot.natAbs) = slot := by
    split <;> omega
  simp only [readInt?, hbare, takeSign_slotText, digits?_slotDigits, hcount, if_false,
    decide_eq_true_eq, hvalue]

theorem slotName_toList (slot : Int) :
    (slotName slot).toList = "slot_".toList ++ ((slotText slot).toList ++ ".json".toList) := by
  simp [slotName, toString]

theorem slotName_injective : Function.Injective slotName := by
  intro a b hab
  have hlist := congrArg String.toList hab
  rw [slotName_toList, slotName_toList, List.append_cancel_left_eq, List.append_cancel_right_eq]
    at hlist
  exact slotText_injective (String.toList_inj.1 hlist)

theorem slotName_ne_quick (slot : Int) : slotName slot ≠ "quick.json" := by
  intro h
  have hlist := congrArg String.toList h
  simp [slotName_toList] at hlist

theorem startsWith_of_append {head name : String} {rest : List Char}
    (h : name.toList = head.toList ++ rest) : startsWith head name = true := by
  rw [startsWith, h, ← String.length_toList, List.take_left, beq_self_eq_true]

theorem endsWith_of_append {tail name : String} {front : List Char}
    (h : name.toList = front ++ tail.toList) : endsWith tail name = true := by
  have hlength : name.length - tail.length = front.length := by
    rw [← String.length_toList, ← String.length_toList, h, List.length_append]
    omega
  rw [endsWith, hlength, h, List.drop_left, beq_self_eq_true]

/-- The name of a slot's file is read back as its number. -/
theorem slotOf?_slotName {slot : Int} (h : (slotName slot).length ≤ maxDigits) :
    slotOf? (slotName slot) = some slot := by
  have hlength : (slotName slot).length = (slotText slot).length + 10 := by
    rw [← String.length_toList, slotName_toList, ← String.length_toList (s := slotText slot)]
    simp
  have hstarts : startsWith "slot_" (slotName slot) = true :=
    startsWith_of_append (slotName_toList slot)
  have hends : endsWith ".json" (slotName slot) = true :=
    endsWith_of_append (by rw [slotName_toList, List.append_assoc])
  have hrest : (slotName slot).toList.drop 5 = (slotText slot).toList ++ ".json".toList := by
    rw [slotName_toList]
    rfl
  have hstem : ((slotText slot).toList ++ ".json".toList).take
      (((slotText slot).toList ++ ".json".toList).length - 5) = (slotText slot).toList := by
    simp
  have hwhole : (slotText slot).toList.takeWhile (· != '_') = (slotText slot).toList := by
    rw [List.takeWhile_eq_self_iff]
    intro c hc
    simpa using (slotText_chars hc).1
  have hten : 10 ≤ (slotName slot).length := by omega
  simp only [slotOf?, hstarts, hends, hten, hrest, hstem, hwhole, String.ofList_toList,
    Bool.and_self, decide_true, if_true]
  exact readInt?_slotText (by omega)

/-- A number that is short enough for a name can be written at all. -/
theorem writableInt_of_slotName {slot : Int} (h : (slotName slot).length ≤ maxDigits) :
    Value.writableInt slot = true := by
  have hlength := congrArg List.length (slotName_toList slot)
  simp only [slotText_toList, List.length_append, String.length_toList] at hlength
  have hdigits : (Nat.toDigits 10 slot.natAbs).length ≤ (slotDigits slot).length := by
    unfold slotDigits
    split <;> simp
  have hpos : 0 < (Nat.toDigits 10 slot.natAbs).length := Nat.length_toDigits_pos
  have hcount : (Nat.toDigits 10 slot.natAbs).length ≤ maxDigits := by omega
  rw [Value.writableInt, decide_eq_true_iff]
  generalize maxDigits = most at hcount
  exact (Nat.length_toDigits_le_iff (by omega) (by omega)).1 hcount

end FolderSaves

/-! ## Tables seen by other keys -/

namespace Table

variable {κ μ α β : Type}

/-- The entries whose key has a second key, under that one and with their values seen through a
function. -/
def along (f : κ → Option μ) (g : α → β) (t : Table κ α) : Table μ β :=
  t.filterMap fun e => (f e.1).map (·, g e.2)

/-- A key is the only one with its second key. -/
def Tells (f : κ → Option μ) (k : κ) (m : μ) : Prop :=
  ∀ k', f k' = some m ↔ k' = k

variable {f : κ → Option μ} {g : α → β} {k : κ} {m : μ}

theorem along_cons {e : κ × α} {t : Table κ α} :
    along f g (e :: t) = ((f e.1).map (·, g e.2)).toList ++ along f g t := by
  unfold along
  rw [List.filterMap_cons]
  cases f e.1 <;> rfl

variable [BEq κ] [LawfulBEq κ]

/-- What is put under a key that has no second one is not seen. -/
theorem along_put_none (h : f k = none) (v : α) (t : Table κ α) :
    along f g (put k v t) = along f g t := by
  induction t with
  | nil => simp [put, along, h]
  | cons e t ih =>
    by_cases he : e.1 = k
    · simp [put, along_cons, he, h]
    · simp [put, along_cons, he, ih]

variable [BEq μ] [LawfulBEq μ]

theorem along_put (h : Tells f k m) (v : α) (t : Table κ α) :
    along f g (put k v t) = put m (g v) (along f g t) := by
  have hk : f k = some m := (h k).2 rfl
  induction t with
  | nil => simp [put, along, hk]
  | cons e t ih =>
    by_cases he : e.1 = k
    · simp [put, along_cons, he, hk]
    · have hne : f e.1 ≠ some m := fun hsame => he ((h _).1 hsame)
      cases hfe : f e.1 with
      | none => simp [put, along_cons, he, hfe, ih]
      | some m' =>
        have hm : m' ≠ m := fun hsame => hne (by rw [hfe, hsame])
        simp [put, along_cons, he, hfe, ih, hm]

theorem along_erase (h : Tells f k m) (t : Table κ α) :
    along f g (erase k t) = erase m (along f g t) := by
  have hk : f k = some m := (h k).2 rfl
  induction t with
  | nil => simp [erase, along]
  | cons e t ih =>
    unfold erase at ih ⊢
    by_cases he : e.1 = k
    · simp [along_cons, he, hk, ih]
    · have hne : f e.1 ≠ some m := fun hsame => he ((h _).1 hsame)
      cases hfe : f e.1 with
      | none => simp [along_cons, he, hfe, ih]
      | some m' =>
        have hm : m' ≠ m := fun hsame => hne (by rw [hfe, hsame])
        simp [along_cons, he, hfe, ih, hm]

theorem get?_along (h : Tells f k m) (t : Table κ α) :
    get? m (along f g t) = (get? k t).map g := by
  have hk : f k = some m := (h k).2 rfl
  induction t with
  | nil => rfl
  | cons e t ih =>
    by_cases he : e.1 = k
    · simp [get?, along_cons, he, hk]
    · have hne : f e.1 ≠ some m := fun hsame => he ((h _).1 hsame)
      cases hfe : f e.1 with
      | none => simp [get?, along_cons, he, hfe, ih]
      | some m' =>
        have hm : m' ≠ m := fun hsame => hne (by rw [hfe, hsame])
        simp [get?, along_cons, he, hfe, ih, hm]

end Table

/-! ## Files in a folder -/

namespace Files

/-- A name that a path takes as it is. -/
structure IsName (name : String) : Prop where
  slash : '/' ∉ name.toList
  empty : name ≠ ""
  dot : name ≠ "."
  dots : name ≠ ".."

namespace Path

theorem splitSlashes_of_not_mem {cs : List Char} (h : '/' ∉ cs) : splitSlashes cs = [cs] := by
  induction cs with
  | nil => rfl
  | cons c cs ih =>
    have hc : c ≠ '/' := fun hsame => h (by simp [hsame])
    have hrest : '/' ∉ cs := fun hmem => h (List.mem_cons_of_mem _ hmem)
    simp [splitSlashes, ih hrest, hc]

theorem join_of_isName {name : String} (h : IsName name) (p : Path) :
    p.join name = { p with names := p.names ++ [name] } := by
  have hnames : namesOf name = [name] := by
    simp [namesOf, splitSlashes_of_not_mem h.slash, h.empty, h.dot]
  have hroot : rootOf name = "" := by
    have hhead : name.toList.takeWhile (· == '/') = [] := by
      cases hcs : name.toList with
      | nil => rfl
      | cons c cs =>
        have hc : c ≠ '/' := fun hsame => h.slash (by simp [hcs, hsame])
        simp [hc]
    simp [rootOf, hhead]
  simp [join, ofText, hnames, hroot, absolute]

end Path

namespace Tree

variable {t t' : Tree} {place : Location} {name : String}

/-- What a name of a folder's own is, of a place in the tree. -/
def nameIn (place : Location) (l : Location) : Option String :=
  if l.length == place.length + 1 && l.dropLast == place then l.getLast? else none

/-- What stands directly inside a folder. -/
def inside (t : Tree) (place : Location) : Table String Node :=
  Table.along (nameIn place) id t.entries

theorem tells_nameIn (place : Location) (name : String) :
    Table.Tells (nameIn place) (place ++ [name]) name := by
  intro l
  constructor
  · intro h
    unfold nameIn at h
    split at h
    · next hl =>
      simp only [Bool.and_eq_true, beq_iff_eq] at hl
      obtain ⟨front, rfl⟩ := List.getLast?_eq_some_iff.1 h
      rw [← hl.2, List.dropLast_concat]
    · cases h
  · rintro rfl
    simp [nameIn]

theorem namesIn_eq {p : Path} (h : t.locate p = .ok place) :
    t.namesIn p = Table.keys (t.inside place) := by
  simp only [namesIn, h, inside, Table.along, Table.keys, List.map_filterMap]
  congr 1
  funext e
  unfold nameIn
  split
  · cases e.1.getLast? <;> rfl
  · rfl

theorem at?_inside (hname : name ≠ "") :
    t.at? (place ++ [name]) = Table.get? name (t.inside place) := by
  have hbelow : (place ++ [name]).isPrefixOf workingFolder = false := by
    rcases place with _ | ⟨a, _ | ⟨b, rest⟩⟩ <;>
      simp [workingFolder, List.isPrefixOf, hname]
  rw [at?, hbelow, inside, Table.get?_along (tells_nameIn place name)]
  simp

theorem inside_put (node : Node) :
    (t.put (place ++ [name]) node).inside place = Table.put name node (t.inside place) :=
  Table.along_put (tells_nameIn place name) node t.entries

/-! ### Paths to the files of a folder -/

theorem follow_dots (start : Location) (rest : List String) :
    t.follow start (".." :: rest) = t.follow start.dropLast rest := by
  rw [follow]

theorem follow_name (hname : name ≠ "..") (start : Location) (rest : List String) :
    t.follow start (name :: rest) =
      if longestName < byteCount name then .error .nameTooLong
      else if rest.isEmpty then .ok (start ++ [name])
      else
        match t.at? (start ++ [name]) with
        | some .folder => t.follow (start ++ [name]) rest
        | some (.file _) => .error .notDirectory
        | none => .error .noFile :=
  follow.eq_3 t start name rest hname

/-- A path leads where it led as long as the folders on its way are there. -/
theorem follow_mono (hfolders : ∀ l, t.at? l = some .folder → t'.at? l = some .folder)
    {start : Location} {names : List String} (h : t.follow start names = .ok place) :
    t'.follow start names = .ok place := by
  induction names generalizing start with
  | nil => simpa [follow] using h
  | cons name rest ih =>
    by_cases hdots : name = ".."
    · subst hdots
      rw [follow_dots] at h ⊢
      exact ih h
    · rw [follow_name hdots] at h ⊢
      by_cases hlong : longestName < byteCount name
      · simp [hlong] at h
      · by_cases hlast : rest.isEmpty
        · simpa [hlong, hlast] using h
        · simp only [hlong, hlast, if_false] at h ⊢
          cases hat : t.at? (start ++ [name]) with
          | none => simp [hat] at h
          | some node =>
            cases node with
            | file content => simp [hat] at h
            | folder =>
              rw [hfolders _ hat]
              exact ih (by simpa [hat] using h)

/-- A path that goes on from a folder with a name leads to a file of the folder, if it leads
anywhere. -/
theorem follow_append (hname : name ≠ "..") {start place' : Location} {names : List String}
    (h : t.follow start names = .ok place) (hfolder : t.at? place = some .folder)
    (h' : t.follow start (names ++ [name]) = .ok place') :
    place' = place ++ [name] ∧ byteCount name ≤ longestName := by
  induction names generalizing start with
  | nil =>
    rw [follow] at h
    cases h
    rw [List.nil_append, follow_name hname] at h'
    by_cases hlong : longestName < byteCount name
    · simp [hlong] at h'
    · simp only [hlong, List.isEmpty_nil, if_true, if_false, Except.ok.injEq] at h'
      exact ⟨h'.symm, by omega⟩
  | cons first rest ih =>
    rw [List.cons_append] at h'
    by_cases hdots : first = ".."
    · subst hdots
      rw [follow_dots] at h h'
      exact ih h h'
    · have hmore : (rest ++ [name]).isEmpty = false := by simp
      rw [follow_name hdots] at h h'
      by_cases hlong : longestName < byteCount first
      · simp [hlong] at h
      · simp only [hlong, hmore, Bool.false_eq_true, if_false] at h h'
        cases rest with
        | nil =>
          -- the first name leads to the folder itself
          simp only [List.isEmpty_nil, if_true, Except.ok.injEq] at h
          rw [h, hfolder] at h'
          exact ih (by rw [follow]) h'
        | cons second rest =>
          simp only [List.isEmpty_cons, Bool.false_eq_true, if_false] at h
          cases hat : t.at? (start ++ [first]) with
          | none => simp [hat] at h
          | some node =>
            cases node with
            | file content => simp [hat] at h
            | folder =>
              simp only [hat] at h h'
              exact ih h h'

/-- The text of the path is one that a file system takes. -/
def Taken (p : Path) : Prop :=
  p.text.toList.all (fun c => (Text.half? c).isNone || standsForByte c) ∧
    ¬p.text.toList.contains (Char.ofNat 0) ∧ byteCount p.text ≤ longestPath

theorem locate_eq_ok_iff {p : Path} :
    t.locate p = .ok place ↔ Taken p ∧ t.follow (start p) p.names = .ok place := by
  unfold locate Taken
  cases hall : p.text.toList.all fun c => (Text.half? c).isNone || standsForByte c with
  | false => simp
  | true =>
    cases hnul : p.text.toList.contains (Char.ofNat 0) with
    | true => simp
    | false =>
      by_cases hlong : longestPath < byteCount p.text
      · have : ¬byteCount p.text ≤ longestPath := by omega
        simp [hlong, this]
      · have : byteCount p.text ≤ longestPath := by omega
        simp [hlong, this]

theorem locate_mono (hfolders : ∀ l, t.at? l = some .folder → t'.at? l = some .folder) {p : Path}
    (h : t.locate p = .ok place) : t'.locate p = .ok place := by
  obtain ⟨htaken, hfollow⟩ := locate_eq_ok_iff.1 h
  exact locate_eq_ok_iff.2 ⟨htaken, follow_mono hfolders hfollow⟩

theorem locate_join {base : Path} (hname : IsName name) {place' : Location}
    (h : t.locate base = .ok place) (hfolder : t.at? place = some .folder)
    (h' : t.locate (base.join name) = .ok place') :
    place' = place ++ [name] ∧ byteCount name ≤ longestName := by
  rw [Path.join_of_isName hname] at h'
  exact follow_append hname.dots (locate_eq_ok_iff.1 h).2 hfolder (locate_eq_ok_iff.1 h').2

theorem length_le_byteCount (name : String) : name.length ≤ byteCount name := by
  have hcount : ∀ (cs : List Char) (n : Nat), n + cs.length ≤
      cs.foldl (fun n c => n + (if standsForByte c then 1 else c.utf8Size)) n := by
    intro cs
    induction cs with
    | nil => simp
    | cons c cs ih =>
      intro n
      have hc : 1 ≤ if standsForByte c then 1 else c.utf8Size := by
        split
        · exact Nat.le_refl 1
        · exact c.utf8Size_pos
      have hrest := ih (n + if standsForByte c then 1 else c.utf8Size)
      simp only [List.length_cons, List.foldl_cons]
      omega
  have := hcount name.toList 0
  rwa [Nat.zero_add, String.length_toList] at this

end Tree

theorem isName_slotName (slot : Int) : IsName (FolderSaves.slotName slot) where
  slash := by
    rw [FolderSaves.slotName_toList]
    simp only [List.mem_append, not_or]
    exact ⟨by decide, fun h => (FolderSaves.slotText_chars h).2.1 rfl, by decide⟩
  empty h := by simpa [FolderSaves.slotName_toList] using congrArg String.toList h
  dot h := by simpa [FolderSaves.slotName_toList] using congrArg String.toList h
  dots h := by simpa [FolderSaves.slotName_toList] using congrArg String.toList h

end Files

end VisualNovel
