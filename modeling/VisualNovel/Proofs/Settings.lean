import VisualNovel.Config
import VisualNovel.Proofs.Reading
import VisualNovel.Proofs.Stores

/-!
# Settings of a file

What loading makes of a file of settings, whatever the file holds: `Config.load_by_contents`. A file
that is missing, or cannot be read, or is no document leaves the defaults, and a document whose
sections are objects changes them key by key. But only some of the documents that cannot be merged
are passed over: the others stop the program, as `Config.list_not_loaded` shows.
-/

namespace VisualNovel

/-! ## Tables -/

/-- An entry of the second table goes before one of the first. -/
theorem Table.get?_merge {κ α : Type} [BEq κ] [EquivBEq κ] {key : κ} {t u : Table κ α}
    (h : Table.Distinct u) :
    Table.get? key (Table.merge t u) = (Table.get? key u).or (Table.get? key t) := by
  induction u generalizing t with
  | nil => rfl
  | cons e u ih =>
    obtain ⟨hfresh, hdistinct⟩ := Table.distinct_cons.1 h
    have hmerge : Table.merge t (e :: u) = Table.merge (Table.put e.1 e.2 t) u := rfl
    rw [hmerge, ih hdistinct, Table.get?_put, Table.get?]
    split
    case isFalse => rfl
    case isTrue hkey =>
      rw [Table.get?_eq_none fun b hb => ?_]
      · rfl
      · rw [← BEq.congr_right hkey, BEq.comm]
        exact hfresh b hb

theorem Table.isSome_get?_put {κ α : Type} [BEq κ] [EquivBEq κ] {k key : κ} {v : α} {t : Table κ α}
    (h : (Table.get? key t).isSome) : (Table.get? key (Table.put k v t)).isSome := by
  rw [Table.get?_put]
  split
  · rfl
  · exact h

/-- No key is lost. -/
theorem Table.isSome_get?_merge {κ α : Type} [BEq κ] [EquivBEq κ] {key : κ} {t u : Table κ α}
    (h : (Table.get? key t).isSome) : (Table.get? key (Table.merge t u)).isSome := by
  induction u generalizing t with
  | nil => exact h
  | cons e u ih => exact ih (Table.isSome_get?_put h)

/-- No record in the value has a key twice. -/
inductive Value.Tabular : Value → Prop where
  | scalar {v : Value} (h : v.Scalar) : Tabular v
  | list {items : List Value} (h : ∀ v ∈ items, Tabular v) : Tabular (.list items)
  | record {fs : Fields} (hdistinct : Table.Distinct fs) (h : ∀ e ∈ fs, Tabular e.2) :
    Tabular (.record fs)

namespace Value.Tabular

variable {v : Value} {fs : Fields}

theorem distinct (h : (Value.record fs).Tabular) : Table.Distinct fs := by
  cases h with
  | scalar h => exact h.elim
  | record hdistinct _ => exact hdistinct

theorem get? {key : Value} (h : (Value.record fs).Tabular) (hv : Table.get? key fs = some v) :
    v.Tabular := by
  obtain ⟨k, hmem⟩ := Table.mem_of_get? hv
  cases h with
  | scalar h => exact h.elim
  | record _ h => exact h _ hmem

theorem field (h : v.Tabular) (name : String) : (v.field name).Tabular := by
  unfold Value.field
  cases v with
  | record fs =>
    show (Fields.get name fs).Tabular
    unfold Fields.get Fields.get?
    cases hfound : Table.get? (.text name) fs with
    | none => exact .scalar trivial
    | some w => exact h.get? hfound
  | _ => exact .scalar trivial

theorem distinct_fields (h : v.Tabular) : Table.Distinct (v.fields?.getD []) := by
  cases v with
  | record fs => exact h.distinct
  | _ => exact Table.distinct_nil

end Value.Tabular

theorem Json.tabular_closed : Json.Closed Value.Tabular where
  scalar _ h := .scalar h
  list _ h := .list h
  record _ h := .record (Table.distinct_nil.merge _) fun e he =>
    (Table.forall_ofEntries (p := fun _ => True) (q := Value.Tabular)
      (fun e he => ⟨trivial, (h e he).2⟩) e he).2

/-! ## Sections -/

namespace Value

/-- The value under a key, if the value is a record that has the key. -/
def lookup? (v : Value) (key : Value) : Option Value :=
  v.fields?.bind (Table.get? key)

/-- Whether the value is a record, or counts as nothing. -/
def RecordOrNothing (v : Value) : Prop :=
  v.fields?.isSome ∨ v.truthy = false

/-- What keeps a value from being a key with its value, if anything does. -/
def pairFault? (v : Value) : Option Mishap :=
  match v.pair with
  | .error m => some m
  | .ok (key, _) => if key.canBeKey then none else some .wrongType

/-- What keeps a value from being a section, if anything does: a section is a record, or a list of
keys with their values, or counts as nothing. -/
def sectionFault? : Value → Option Mishap
  | record _ => none
  | list items => items.findSome? pairFault?
  | text s => if s = "" then none else some .badValue
  | v => if v.truthy then some .wrongType else none

variable {v : Value} {m : Mishap}

theorem pairFault?_cases (h : v.pairFault? = some m) : m = .badValue ∨ m = .wrongType := by
  unfold pairFault? pair at h
  cases hparts : v.parts with
  | error m' =>
    rw [hparts] at h
    cases v <;> cases hparts
    all_goals exact .inr (Option.some.inj h).symm
  | ok parts =>
    rw [hparts] at h
    match parts, h with
    | [key, _], h =>
      by_cases hkey : key.canBeKey
      · simp [bind, Except.bind, pure, Except.pure, hkey] at h
      · simp only [bind, Except.bind, pure, Except.pure, hkey] at h
        exact .inr (Option.some.inj h).symm
    | [], h | [_], h | _ :: _ :: _ :: _, h => exact .inl (Option.some.inj h).symm

theorem sectionFault?_cases (h : v.sectionFault? = some m) : m = .badValue ∨ m = .wrongType := by
  unfold sectionFault? at h
  split at h
  · cases h
  · obtain ⟨item, -, hitem⟩ := List.exists_of_findSome?_eq_some h
    exact pairFault?_cases hitem
  · split at h
    · cases h
    · exact .inl (Option.some.inj h).symm
  · split at h
    · exact .inr (Option.some.inj h).symm
    · cases h

theorem fieldsOfPairs_ends (seen : Fields) (items : List Value) :
    (∃ fs, items.findSome? pairFault? = none ∧ fieldsOfPairs seen items = .ok fs) ∨
      ∃ m, items.findSome? pairFault? = some m ∧ fieldsOfPairs seen items = .error m := by
  induction items generalizing seen with
  | nil => exact .inl ⟨seen, rfl, rfl⟩
  | cons item rest ih =>
    rw [List.findSome?_cons, fieldsOfPairs]
    unfold pairFault?
    cases item.pair with
    | error m => exact .inr ⟨m, rfl, rfl⟩
    | ok pair =>
      by_cases hkey : pair.1.canBeKey
      · simp only [hkey, if_true, asKey, bind, Except.bind]
        exact ih _
      · simp only [hkey, asKey, bind, Except.bind]
        exact .inr ⟨_, rfl, rfl⟩

theorem orElse_of_truthy {w : Value} (h : v.truthy = true) : v.orElse w = v := by
  rw [orElse, if_pos h]

theorem orElse_of_not_truthy {w : Value} (h : v.truthy = false) : v.orElse w = w := by
  rw [orElse, if_neg (by simp [h])]

/-- No text is a list of keys with their values: its characters are not. -/
theorem toFields_text {s : String} (h : s ≠ "") : (text s).toFields = .error .badValue := by
  obtain ⟨c, cs, hcs⟩ := List.exists_cons_of_ne_nil (mt String.toList_eq_nil_iff.1 h)
  show fieldsOfPairs [] (s.toList.map fun c => text (String.singleton c)) = _
  rw [hcs, List.map_cons, fieldsOfPairs]
  simp [pair, parts, bind, Except.bind, throw, throwThe, MonadExceptOf.throw]

/-- A section is taken unless something keeps it from that. -/
theorem toFields_ends (v : Value) :
    (∃ fs, v.sectionFault? = none ∧ (v.orElse (record [])).toFields = .ok fs) ∨
      ∃ m, v.sectionFault? = some m ∧ (v.orElse (record [])).toFields = .error m := by
  by_cases htruthy : v.truthy
  case neg =>
    have hfalsy : v.truthy = false := by simpa using htruthy
    rw [orElse_of_not_truthy hfalsy]
    cases v <;> simp_all [sectionFault?, truthy, toFields]
  case pos =>
    rw [orElse_of_truthy htruthy]
    cases v with
    | record fs => exact .inl ⟨fs, rfl, rfl⟩
    | list items => exact fieldsOfPairs_ends [] items
    | text s =>
      have hs : s ≠ "" := by simpa [truthy] using htruthy
      exact .inr ⟨_, if_neg hs, toFields_text hs⟩
    | bytes data =>
      have hsome : data ≠ [] := by simpa [truthy] using htruthy
      obtain ⟨b, rest, rfl⟩ := List.exists_cons_of_ne_nil hsome
      exact .inr ⟨_, rfl, rfl⟩
    | _ => exact .inr ⟨.wrongType, by simp [sectionFault?, htruthy], rfl⟩

theorem RecordOrNothing.sectionFault? (h : v.RecordOrNothing) : v.sectionFault? = none := by
  rcases h with h | h
  · cases v <;> simp_all [fields?, Value.sectionFault?]
  · cases v <;> simp_all [truthy, Value.sectionFault?]

theorem RecordOrNothing.toFields (h : v.RecordOrNothing) :
    (v.orElse (record [])).toFields = .ok (v.fields?.getD []) := by
  by_cases htruthy : v.truthy
  case pos =>
    rw [orElse_of_truthy htruthy]
    rcases h with h | h
    · cases v <;> simp_all [fields?, Value.toFields]
    · simp [h] at htruthy
  case neg =>
    rw [orElse_of_not_truthy (by simpa using htruthy)]
    cases v <;> simp_all [fields?, Value.toFields, truthy]

end Value

/-! ## Merging -/

namespace Config

/-- The names of the sections. -/
def sections : List String := ["view", "text", "fonts"]

/-- The settings of a section. -/
def part (c : Config) : String → Fields
  | "view" => c.view
  | "text" => c.text
  | "fonts" => c.fonts
  | _ => []

/-- What a value gives for a key of a section. -/
def given (data : Value) (name : String) (key : Value) : Option Value :=
  (data.lookup? (.text name)).bind (·.lookup? key)

/-- What keeps the first section that is none from being one, if there is such a section. -/
def fault? (data : Value) : Option Mishap :=
  sections.findSome? fun name => (data.field name).sectionFault?

variable {data : Value} {c : Config}

theorem given_toValue (c : Config) (name : String) (key : Value) :
    given c.toValue name key = Table.get? key (c.part name) := by
  unfold given Value.lookup? toValue part
  split
  case h_4 _ hview htext hfonts =>
    simp [Value.ofFields, Value.fields?, Table.get?, Ne.symm hview, Ne.symm htext, Ne.symm hfonts]
  all_goals simp [Value.ofFields, Value.fields?, Table.get?]

theorem part_of_not_mem {name : String} (h : name ∉ sections) : c.part name = [] := by
  unfold part
  split <;> simp_all [sections]

/-- A configuration gives the settings of its sections for a section that is a record or missing. -/
theorem given_eq (data : Value) (name : String) (key : Value) :
    given data name key = Table.get? key ((data.field name).fields?.getD []) := by
  unfold given Value.lookup? Value.field
  cases data.fields? with
  | none => rfl
  | some fs =>
    show _ = Table.get? key ((Fields.get name fs).fields?.getD [])
    unfold Fields.get Fields.get?
    simp only [Option.bind_some]
    cases Table.get? (.text name) fs with
    | none => rfl
    | some v => cases v <;> rfl

theorem sectionOf_eq (h : data.RecordOrNothing) (name : String) :
    sectionOf data name = ((data.field name).orElse (.record [])).toFields := by
  unfold sectionOf
  by_cases htruthy : data.truthy
  · rw [Value.orElse_of_truthy htruthy]
    rcases h with h | h
    · obtain ⟨fs, hfs⟩ := Option.isSome_iff_exists.1 h
      cases data <;> cases hfs
      rfl
    · simp [h] at htruthy
  · rw [Value.orElse_of_not_truthy (by simpa using htruthy)]
    cases data <;> first | rfl | skip
    simp_all [Value.truthy]
    rfl

/-- What merging makes of a document: the sections are those of the defaults with all their keys,
and a section of the document that is a record goes before the defaults. -/
structure Merged (data : Value) (c : Config) : Prop where
  complete : ∀ name key, (given default.toValue name key).isSome → (given c.toValue name key).isSome
  honours : ∀ name ∈ sections, (data.field name).RecordOrNothing → ∀ key,
    given c.toValue name key = (given data name key).or (given default.toValue name key)
  closed : ∀ name key, name ∉ sections → given c.toValue name key = none

/-- What stands in a section goes before the defaults. -/
theorem merged_of_parts (hdata : data.Tabular)
    (h : ∀ name ∈ sections, ∃ fs, ((data.field name).orElse (.record [])).toFields = .ok fs ∧
      c.part name = Table.merge (default.part name) fs) : Merged data c := by
  refine ⟨fun name key hkey => ?complete, fun name hname hrecord key => ?honours,
    fun name key hname => ?closed⟩
  case complete =>
    rw [given_toValue] at hkey ⊢
    by_cases hname : name ∈ sections
    · obtain ⟨fs, -, hpart⟩ := h name hname
      rw [hpart]
      exact Table.isSome_get?_merge hkey
    · rw [part_of_not_mem hname] at hkey
      cases hkey
  case honours =>
    obtain ⟨fs, hfs, hpart⟩ := h name hname
    rw [hrecord.toFields, Except.ok.injEq] at hfs
    rw [given_toValue, given_toValue, given_eq, hpart, hfs]
    exact Table.get?_merge (hfs ▸ (hdata.field name).distinct_fields)
  case closed =>
    rw [given_toValue, part_of_not_mem hname]
    rfl

theorem merge_of_not_record (h : ¬data.RecordOrNothing) : merge data = .error .noMember := by
  obtain ⟨hrecord, htruthy⟩ := not_or.1 h
  unfold merge sectionOf
  rw [Value.orElse_of_truthy (by simpa using htruthy)]
  cases data <;> first | rfl | exact absurd rfl hrecord

/-- A document is merged unless something keeps one of its sections from that. -/
theorem merge_ends (h : data.RecordOrNothing) (hdata : data.Tabular) :
    (∃ c, fault? data = none ∧ merge data = .ok c ∧ Merged data c) ∨
      ∃ m, fault? data = some m ∧ merge data = .error m := by
  simp only [fault?, sections, List.findSome?_cons, List.findSome?_nil, merge, sectionOf_eq h]
  obtain ⟨view, hv, hview⟩ | ⟨m, hv, hview⟩ := (data.field "view").toFields_ends
  case inr => exact .inr ⟨m, by rw [hv], by rw [hview]; rfl⟩
  obtain ⟨text, ht, htext⟩ | ⟨m, ht, htext⟩ := (data.field "text").toFields_ends
  case inr => exact .inr ⟨m, by rw [hv, ht], by rw [hview, htext]; rfl⟩
  obtain ⟨fonts, hf, hfonts⟩ | ⟨m, hf, hfonts⟩ := (data.field "fonts").toFields_ends
  case inr => exact .inr ⟨m, by rw [hv, ht, hf], by rw [hview, htext, hfonts]; rfl⟩
  refine .inl ⟨_, by rw [hv, ht, hf], by rw [hview, htext, hfonts]; rfl,
    merged_of_parts hdata fun name hname => ?_⟩
  rcases List.mem_cons.1 hname with rfl | hname
  · exact ⟨view, hview, rfl⟩
  · rcases List.mem_cons.1 hname with rfl | hname
    · exact ⟨text, htext, rfl⟩
    · cases List.mem_singleton.1 hname
      exact ⟨fonts, hfonts, rfl⟩

/-- Nothing keeps records from being merged. -/
theorem fault?_eq_none (h : ∀ name ∈ sections, (data.field name).RecordOrNothing) :
    fault? data = none :=
  List.findSome?_eq_none_iff.2 fun name hname => (h name hname).sectionFault?

theorem fault?_cases {m : Mishap} (h : fault? data = some m) : m = .badValue ∨ m = .wrongType := by
  obtain ⟨name, -, hname⟩ := List.exists_of_findSome?_eq_some h
  exact Value.sectionFault?_cases hname

end Config

/-! ## Reading -/

namespace Files.Tree

variable {t : Tree} {m : Mishap}

theorem follow_error {place : Location} {names : List String}
    (h : t.follow place names = .error m) : m.fromFiles := by
  fun_induction follow t place names with
  | case1 => cases h
  | case2 place rest ih => exact ih h
  | case3 => cases h; rfl
  | case4 => cases h
  | case5 _ _ _ _ _ _ _ _ ih => exact ih h
  | case6 => cases h; rfl
  | case7 => cases h; rfl

theorem locate_error {p : Path} (h : t.locate p = .error m) : m.fromFiles ∨ m.fromValue := by
  unfold locate at h
  split at h
  · cases h
    exact .inr rfl
  · split at h
    · cases h
      exact .inr rfl
    · split at h
      · cases h
        exact .inl rfl
      · exact .inl (follow_error h)

theorem exists?_error {p : Path} (h : t.exists? p = .error m) : m.fromFiles := by
  unfold exists? find? at h
  split at h <;> cases h
  rfl

theorem read_error {p : Path} (h : t.read p = .error m) : m.fromFiles ∨ m.fromValue := by
  unfold read at h
  cases hlocate : t.locate p with
  | error m' =>
    rw [hlocate] at h
    cases h
    exact locate_error hlocate
  | ok place =>
    simp only [hlocate, bind, Except.bind] at h
    split at h <;> cases h
    all_goals exact .inl rfl

theorem readText_error {p : Path} (h : t.readText p = .error m) : m.fromFiles ∨ m.fromValue := by
  unfold readText at h
  cases hread : t.read p with
  | error m' =>
    rw [hread] at h
    cases h
    exact read_error hread
  | ok content =>
    simp only [hread, bind, Except.bind] at h
    split at h
    case h_1 =>
      split at h <;> cases h
      exact .inr rfl
    case h_2 =>
      cases h
      exact .inr rfl

end Files.Tree

namespace Config

/-- What the document in a file says, if there is a file. -/
def contents (p : Files.Path) (files : Files.Tree) : Except Mishap (Option Value) := do
  if ← files.exists? p then return some (← Json.read (← files.readText p)) else return none

/-- A file has a document without repeated keys, or one that goes too deep, or it cannot be read. -/
theorem contents_ends (p : Files.Path) (files : Files.Tree) :
    contents p files = .ok none ∨
      (∃ data, contents p files = .ok (some data) ∧ data.Tabular) ∨
      (∃ m, contents p files = .error m ∧ (m.fromFiles ∨ m.fromValue)) ∨
      contents p files = .error .endless := by
  unfold contents
  cases hexists : files.exists? p with
  | error m => exact .inr (.inr (.inl ⟨m, rfl, .inl (Files.Tree.exists?_error hexists)⟩))
  | ok there =>
    simp only [bind, Except.bind, pure, Except.pure]
    cases there with
    | false => exact .inl rfl
    | true =>
      simp only [if_true]
      cases htext : files.readText p with
      | error m => exact .inr (.inr (.inl ⟨m, rfl, Files.Tree.readText_error htext⟩))
      | ok text =>
        have hreads := Json.read_reads Json.tabular_closed text
        cases hread : Json.read text with
        | ok data =>
          rw [hread] at hreads
          exact .inr (.inl ⟨data, by simp only [hread], hreads⟩)
        | error m =>
          rw [hread] at hreads
          rcases hreads with rfl | rfl
          · exact .inr (.inr (.inl ⟨.badValue, by simp only [hread], .inr rfl⟩))
          · exact .inr (.inr (.inr (by simp only [hread])))

/-- The line in the log for a file that is passed over. -/
def passedOver (p : Files.Path) (d : Disk) : Disk :=
  d.note .warning s!"ignoring unreadable config {p.text}"

/-- Some section is given that is no record and counts as something. -/
def OddSection (data : Value) : Prop :=
  ∃ name ∈ sections, ¬(data.field name).RecordOrNothing

/-- What loading a file leads to, by what the file says. -/
inductive Loads (p : Files.Path) (d : Disk) : Except Mishap (Option Value) →
    Except Mishap Config × Disk → Prop where
  | missing : Loads p d (.ok none) (.ok default, d)
  | unreadable {m : Mishap} (h : m.fromFiles ∨ m.fromValue) :
    Loads p d (.error m) (.ok default, passedOver p d)
  | honoured {data : Value} {c : Config} (hroot : data.RecordOrNothing)
    (hsections : ∀ name ∈ sections, (data.field name).RecordOrNothing) (h : Merged data c) :
    Loads p d (.ok (some data)) (.ok c, d)
  /-- A list of pairs of a key and a value is taken for a section. -/
  | paired {data : Value} {c : Config} (hroot : data.RecordOrNothing) (hodd : OddSection data)
    (hfault : fault? data = none) (h : Merged data c) : Loads p d (.ok (some data)) (.ok c, d)
  /-- A section that is a text, or a list of other things than pairs, costs the other sections
  their settings. -/
  | garbled {data : Value} (hroot : data.RecordOrNothing) (hodd : OddSection data)
    (hfault : fault? data = some .badValue) :
    Loads p d (.ok (some data)) (.ok default, passedOver p d)
  /-- A section that is a number, or holds one instead of a pair, is not survived. -/
  | wrongSection {data : Value} (hroot : data.RecordOrNothing) (hodd : OddSection data)
    (hfault : fault? data = some .wrongType) :
    Loads p d (.ok (some data)) (.error .wrongType, d)
  | noRecord {data : Value} (hroot : ¬data.RecordOrNothing) :
    Loads p d (.ok (some data)) (.error .noMember, d)
  | tooDeep : Loads p d (.error .endless) (.error .endless, d)

theorem load_perform (path : String) (d : Disk) :
    (load (some path)).perform d =
      match contents (.ofText path) d.files >>= fun found =>
          (found.map merge).getD (.ok default) with
      | .ok c => (.ok c, d)
      | .error m =>
        if m.fromFiles || m.fromValue then (.ok default, passedOver (.ofText path) d)
        else (.error m, d) := by
  unfold load
  rw [Attempt.perform_get_bind]
  dsimp only
  have hreading : (do
      if ← d.files.exists? (.ofText path) then
        merge (← Json.read (← d.files.readText (.ofText path)))
      else return default : Except Mishap Config) =
        contents (.ofText path) d.files >>= fun found => (found.map merge).getD (.ok default) := by
    unfold contents
    cases d.files.exists? (.ofText path) with
    | error m => rfl
    | ok there =>
      cases there with
      | false => rfl
      | true =>
        cases d.files.readText (.ofText path) with
        | error m => rfl
        | ok text =>
          cases hread : Json.read text with
          | error m => simp [hread, bind, Except.bind]
          | ok data => simp [hread, bind, Except.bind, pure, Except.pure]
  rw [hreading]
  cases contents (.ofText path) d.files >>= fun found => (found.map merge).getD (.ok default) with
  | ok c => rfl
  | error m =>
    dsimp only
    split <;> rfl

/-- Loading ends by what the file says: the defaults stand where there is no file, or none that can
be read as a document; a document of records goes before the defaults, key by key; and of all other
documents some are merged, some are passed over and some stop the program. -/
theorem load_by_contents (path : String) (d : Disk) :
    Loads (.ofText path) d (contents (.ofText path) d.files) ((load (some path)).perform d) := by
  rw [load_perform]
  obtain hnone | ⟨data, hdata, htabular⟩ | ⟨m, hm, hfault⟩ | hdeep :=
    contents_ends (.ofText path) d.files
  · rw [hnone]
    exact .missing
  · rw [hdata]
    show Loads _ d _ (match merge data with
      | .ok c => (.ok c, d)
      | .error m =>
        if m.fromFiles || m.fromValue then (.ok default, passedOver _ d) else (.error m, d))
    by_cases hroot : data.RecordOrNothing
    case neg =>
      rw [merge_of_not_record hroot]
      exact .noRecord hroot
    by_cases hsections : ∀ name ∈ sections, (data.field name).RecordOrNothing
    case pos =>
      obtain ⟨c, -, hmerge, hmerged⟩ | ⟨m, hfault, -⟩ := merge_ends hroot htabular
      · rw [hmerge]
        exact .honoured hroot hsections hmerged
      · rw [fault?_eq_none hsections] at hfault
        cases hfault
    case neg =>
      have hodd : OddSection data := by simpa [OddSection] using hsections
      obtain ⟨c, hfault, hmerge, hmerged⟩ | ⟨m, hfault, hmerge⟩ := merge_ends hroot htabular
      · rw [hmerge]
        exact .paired hroot hodd hfault hmerged
      · rw [hmerge]
        rcases fault?_cases hfault with rfl | rfl
        · exact .garbled hroot hodd hfault
        · exact .wrongSection hroot hodd hfault
  · rw [hm]
    show Loads _ d _ (if m.fromFiles || m.fromValue then _ else _)
    rw [if_pos (by simpa using hfault)]
    exact .unreadable hfault
  · rw [hdeep]
    exact .tooDeep

/-- A file that holds a list. -/
def listed : Disk where
  files := { entries := [(Files.workingFolder ++ ["c.json"], .file (.bytes "[1]".toUTF8))] }

theorem contents_listed :
    contents (.ofText "c.json") listed.files = .ok (some (.list [.int 1])) := by
  have hplace : listed.files.locate (.ofText "c.json") =
      .ok (Files.workingFolder ++ ["c.json"]) := by decide
  have hthere : listed.files.exists? (.ofText "c.json") = .ok true := by decide
  have htext : listed.files.readText (.ofText "c.json") = .ok "[1]" := by
    have hbytes : listed.files.at? (Files.workingFolder ++ ["c.json"]) =
        some (.file (.bytes "[1]".toUTF8)) := rfl
    simp only [Files.Tree.readText, Files.Tree.read, hplace, hbytes, bind, Except.bind, pure,
      Except.pure, FolderSaves.fromUTF8?_toUTF8]
  have hread : Json.read "[1]" = .ok (.list [.int 1]) := rfl
  simp only [contents, hthere, htext, hread, bind, Except.bind]
  rfl

/-- Settings that are a list stop the program. -/
theorem list_not_loaded :
    ¬∃ c d, (load (some "c.json")).perform listed = (.ok c, d) := by
  rw [load_perform, contents_listed]
  rintro ⟨c, d, h⟩
  cases h

end Config

end VisualNovel
