import VisualNovel.Proofs.Calculus
import VisualNovel.Session.State

/-!
# What can be saved

A session is saved as a record and read back. Two things are lost on the way: a reference to a flag
is spelled out as a record of its name, and a key that is no text becomes one. `Value.plain` and
`Snapshot.Storable` say that a snapshot has neither, and then reading back what was written gives
the same snapshot: `Snapshot.ofValue_written`.
-/

namespace VisualNovel

/-! ## Tables without repeated keys -/

namespace Table

variable {κ α β : Type} [BEq κ]

/-- No key stands in the table twice. -/
def Distinct (t : Table κ α) : Prop :=
  t.Pairwise fun a b => (a.1 == b.1) = false

theorem distinct_nil : Distinct ([] : Table κ α) :=
  List.Pairwise.nil

theorem distinct_cons {e : κ × α} {t : Table κ α} :
    Distinct (e :: t) ↔ (∀ b ∈ t, (e.1 == b.1) = false) ∧ Distinct t :=
  List.pairwise_cons

theorem mem_put {k : κ} {v : α} {t : Table κ α} {e : κ × α} (h : e ∈ put k v t) :
    e ∈ t ∨ e.2 = v ∧ (e.1 = k ∨ e.1 ∈ keys t) := by
  induction t with
  | nil =>
    simp only [put, List.mem_singleton] at h
    exact .inr ⟨by rw [h], .inl (by rw [h])⟩
  | cons a t ih =>
    unfold put at h
    split at h
    · rcases List.mem_cons.1 h with rfl | h
      · exact .inr ⟨rfl, .inr (by simp [keys])⟩
      · exact .inl (List.mem_cons_of_mem _ h)
    · rcases List.mem_cons.1 h with rfl | h
      · exact .inl (List.mem_cons_self ..)
      · rcases ih h with h | ⟨hv, h | h⟩
        · exact .inl (List.mem_cons_of_mem _ h)
        · exact .inr ⟨hv, .inl h⟩
        · exact .inr ⟨hv, .inr (List.mem_cons_of_mem _ h)⟩

/-- What the entries of a table hold comes from the list that it is made of. -/
theorem mem_merge {t u : Table κ α} {e : κ × α} (h : e ∈ merge t u) :
    ∃ c, (c ∈ t ∨ c ∈ u) ∧ c.2 = e.2 := by
  induction u generalizing t with
  | nil => exact ⟨e, .inl h, rfl⟩
  | cons a u ih =>
    obtain ⟨c, hc | hc, hsame⟩ := ih (t := put a.1 a.2 t) h
    · rcases mem_put hc with hc | ⟨hc, -⟩
      · exact ⟨c, .inl hc, hsame⟩
      · exact ⟨a, .inr (List.mem_cons_self ..), hc.symm.trans hsame⟩
    · exact ⟨c, .inr (List.mem_cons_of_mem _ hc), hsame⟩

theorem mem_ofEntries {u : Table κ α} {e : κ × α} (h : e ∈ ofEntries u) :
    ∃ c ∈ u, c.2 = e.2 := by
  obtain ⟨c, hc | hc, hsame⟩ := mem_merge h
  · cases hc
  · exact ⟨c, hc, hsame⟩

theorem mem_of_get? {t : Table κ α} {k : κ} {v : α} (h : get? k t = some v) :
    ∃ k', (k', v) ∈ t := by
  induction t with
  | nil => cases h
  | cons a t ih =>
    unfold get? at h
    split at h
    · cases h
      exact ⟨a.1, List.mem_cons_self ..⟩
    · obtain ⟨k', hk⟩ := ih h
      exact ⟨k', List.mem_cons_of_mem _ hk⟩

theorem get?_eq_none {t : Table κ α} {key : κ} (h : ∀ e ∈ t, (e.1 == key) = false) :
    get? key t = none := by
  induction t with
  | nil => rfl
  | cons e rest ih =>
    rw [get?, h e List.mem_cons_self]
    exact ih fun e he => h e (List.mem_cons_of_mem _ he)

theorem Distinct.put [PartialEquivBEq κ] {t : Table κ α} (h : Distinct t) (k : κ) (v : α) :
    Distinct (put k v t) := by
  induction t with
  | nil => simp [Table.put, Distinct]
  | cons a t ih =>
    obtain ⟨hhead, htail⟩ := distinct_cons.1 h
    unfold Table.put
    split
    · exact distinct_cons.2 ⟨hhead, htail⟩
    · next hne =>
      refine distinct_cons.2 ⟨fun b hb => ?_, ih htail⟩
      rcases mem_put hb with hb | ⟨-, hb | hb⟩
      · exact hhead b hb
      · rw [hb]
        exact Bool.eq_false_iff.2 hne
      · obtain ⟨e, he, hk⟩ := List.mem_map.1 hb
        rw [← hk]
        exact hhead e he

theorem Distinct.erase {t : Table κ α} (h : Distinct t) (k : κ) : Distinct (erase k t) :=
  List.Pairwise.filter _ h

theorem Distinct.modify {t : Table κ α} (h : Distinct t) (k : κ) (f : α → α) :
    Distinct (modify k f t) := by
  refine List.Pairwise.map _ (fun a b hab => ?_) h
  split <;> split <;> exact hab

/-- A key that is not there is put at the end. -/
theorem put_of_fresh {t : Table κ α} {k : κ} {v : α} (h : ∀ e ∈ t, (e.1 == k) = false) :
    put k v t = t ++ [(k, v)] := by
  induction t with
  | nil => rfl
  | cons a t ih =>
    have ha : (a.1 == k) = false := h a (List.mem_cons_self ..)
    simp [put, ha, ih fun e he => h e (List.mem_cons_of_mem _ he)]

/-- Entries without repeated keys make up a table as they are. -/
theorem merge_of_distinct {t u : Table κ α} (h : Distinct (t ++ u)) : merge t u = t ++ u := by
  induction u generalizing t with
  | nil => simp [merge]
  | cons e u ih =>
    have hfresh : ∀ a ∈ t, (a.1 == e.1) = false := fun a ha =>
      (List.pairwise_append.1 h).2.2 a ha e (List.mem_cons_self ..)
    have hput : merge t (e :: u) = merge (t ++ [e]) u := by
      simp only [merge, List.foldl_cons, put_of_fresh hfresh]
    rw [hput, ih (by simpa using h)]
    simp

theorem ofEntries_of_distinct {t : Table κ α} (h : Distinct t) : ofEntries t = t :=
  merge_of_distinct (t := []) h

theorem Distinct.merge [PartialEquivBEq κ] {t : Table κ α} (h : Distinct t) (u : List (κ × α)) :
    Distinct (merge t u) := by
  induction u generalizing t with
  | nil => exact h
  | cons e u ih => exact ih (h.put e.1 e.2)

end Table

/-! ## Plain values -/

namespace Value

mutual

/-- Whether a value holds no reference to a flag. -/
def plain : Value → Bool
  | flag _ => false
  | list items => plainItems items
  | record fs => plainFields fs
  | _ => true

/-- `plain` of every item. -/
def plainItems : List Value → Bool
  | [] => true
  | v :: rest => plain v && plainItems rest

/-- `plain` of every key and value. -/
def plainFields : List (Value × Value) → Bool
  | [] => true
  | (k, v) :: rest => plain k && plain v && plainFields rest

end

@[simp] theorem plain_null : plain null := by simp [plain]
@[simp] theorem plain_bool (b : Bool) : plain (bool b) := by simp [plain]
@[simp] theorem plain_int (n : Int) : plain (int n) := by simp [plain]
@[simp] theorem plain_float (x : Float) : plain (float x) := by simp [plain]
@[simp] theorem plain_text (s : String) : plain (text s) := by simp [plain]

theorem plainItems_iff {items : List Value} : plainItems items ↔ ∀ v ∈ items, v.plain := by
  induction items with
  | nil => simp [plainItems]
  | cons v rest ih => simp [plainItems, ih]

theorem plainFields_iff {fs : List (Value × Value)} :
    plainFields fs ↔ ∀ e ∈ fs, e.1.plain ∧ e.2.plain := by
  induction fs with
  | nil => simp [plainFields]
  | cons e rest ih => simp [plainFields, ih, and_assoc]

theorem plain_list_iff {items : List Value} : plain (list items) ↔ ∀ v ∈ items, v.plain := by
  simp only [plain, plainItems_iff]

theorem plain_record_iff {fs : List (Value × Value)} :
    plain (record fs) ↔ ∀ e ∈ fs, e.1.plain ∧ e.2.plain := by
  simp only [plain, plainFields_iff]

theorem plain_ofFields_iff {fs : List (String × Value)} :
    plain (ofFields fs) ↔ ∀ e ∈ fs, e.2.plain := by
  rw [ofFields, plain_record_iff, List.forall_mem_map]
  simp

theorem plain_ofFloat (x : Float) (o : Origin) : plain (ofFloat x o) := by
  unfold ofFloat
  split <;> simp [plain]

mutual

/-- Nothing has to be spelled out in a plain value. -/
theorem spelled_of_plain : ∀ v : Value, v.plain → v.spelled = .ok v
  | null, _ | bool _, _ | int _, _ | float _, _ | nan _, _ | text _, _ | bytes _, _ | moment _, _
  | uid _, _ => by simp [spelled]
  | flag _, h => by simp [plain] at h
  | list items, h => by
    have hitems : spelledItems items = .ok items :=
      spelledItems_of_plain items (by simpa [plain] using h)
    rw [spelled, hitems]
    rfl
  | record fs, h => by
    have hfields : spelledFields fs = .ok fs :=
      spelledFields_of_plain fs (by simpa [plain] using h)
    rw [spelled, hfields]
    rfl

theorem spelledItems_of_plain :
    ∀ items : List Value, plainItems items → spelledItems items = .ok items
  | [], _ => rfl
  | v :: rest, h => by
    simp only [plainItems, Bool.and_eq_true] at h
    rw [spelledItems, spelled_of_plain v h.1, spelledItems_of_plain rest h.2]
    rfl

theorem spelledFields_of_plain :
    ∀ fs : List (Value × Value), plainFields fs → spelledFields fs = .ok fs
  | [], _ => rfl
  | (k, v) :: rest, h => by
    simp only [plainFields, Bool.and_eq_true] at h
    rw [spelledFields, spelled_of_plain v h.1.2, spelledFields_of_plain rest h.2]
    cases k with
    | flag _ => simp [plain] at h
    | _ => rfl

end

end Value

/-! ## Plain results of arithmetic -/

namespace Value

theorem plain_orElse {v w : Value} (hv : v.plain) (hw : w.plain) : (v.orElse w).plain := by
  unfold orElse
  split
  · exact hv
  · exact hw

theorem plain_combine {f : Int → Int → Int} {g : Float → Float → Float} {a b v : Value}
    (h : combine f g a b = .ok v) : v.plain := by
  unfold combine at h
  split at h
  · cases h
    simp
  · obtain ⟨x, -, h⟩ := bind_eq_ok.1 h
    obtain ⟨y, -, h⟩ := bind_eq_ok.1 h
    cases h
    exact plain_ofFloat _ _
  · cases h

theorem plain_add {a b v : Value} (ha : a.plain) (hb : b.plain) (h : a.add b = .ok v) :
    v.plain := by
  unfold add at h
  split at h
  · cases h
    simp
  · cases h
    rw [plain_list_iff] at ha hb ⊢
    intro v hv
    rcases List.mem_append.1 hv with hv | hv
    · exact ha v hv
    · exact hb v hv
  · exact plain_combine h

theorem plain_repeated {a v : Value} {n : Int} (ha : a.plain) (h : a.repeated n = .ok v) :
    v.plain := by
  unfold repeated at h
  split at h
  · cases h
    simp
  · next xs =>
    cases h
    rw [plain_list_iff] at ha ⊢
    intro v hv
    obtain ⟨ys, hys, hv⟩ := List.mem_flatten.1 hv
    rw [List.eq_of_mem_replicate hys] at hv
    exact ha v hv
  · cases h

theorem plain_mul {a b v : Value} (ha : a.plain) (hb : b.plain) (h : a.mul b = .ok v) :
    v.plain := by
  unfold mul at h
  split at h
  · exact plain_repeated hb h
  · exact plain_repeated ha h
  · exact plain_combine h

theorem plain_parts {v : Value} {items : List Value} (hv : v.plain) (h : v.parts = .ok items) :
    ∀ w ∈ items, w.plain := by
  unfold parts at h
  split at h
  · cases h
    exact plain_list_iff.1 hv
  · cases h
    simp
  · cases h
    intro w hw
    obtain ⟨e, he, rfl⟩ := List.mem_map.1 hw
    exact (plain_record_iff.1 hv e he).1
  · cases h
    simp
  · cases h

theorem plain_movedBy {v distance w : Value} (hv : v.plain) (hd : distance.plain)
    (h : v.movedBy distance = .ok w) : w.plain := by
  unfold movedBy at h
  split at h
  · obtain ⟨more, hmore, h⟩ := bind_eq_ok.1 h
    cases h
    rw [plain_list_iff] at hv ⊢
    intro x hx
    rcases List.mem_append.1 hx with hx | hx
    · exact hv x hx
    · exact plain_parts hd hmore x hx
  · exact plain_add hv hd h

theorem plain_largest {a b v : Value} (ha : a.plain) (hb : b.plain) (h : largest a b = .ok v) :
    v.plain := by
  unfold largest at h
  obtain ⟨greater, -, h⟩ := bind_eq_ok.1 h
  cases greater <;> cases h
  · exact ha
  · exact hb

theorem plain_asFloat {v w : Value} (h : v.asFloat = .ok w) : w.plain := by
  unfold asFloat at h
  split at h
  · cases h
    simp [plain]
  · obtain ⟨x, -, h⟩ := bind_eq_ok.1 h
    cases h
    exact plain_ofFloat _ _

theorem plain_get? {fs : Fields} {k : Value} {v : Value} (h : (record fs).plain)
    (hv : Table.get? k fs = some v) : v.plain := by
  obtain ⟨k', hk⟩ := Table.mem_of_get? hv
  exact (plain_record_iff.1 h _ hk).2

theorem plain_field {fs : Fields} {k : String} (h : (record fs).plain) : (fs.get k).plain := by
  unfold Fields.get
  cases hv : fs.get? k with
  | none => simp
  | some v => exact plain_get? h hv

end Value

/-! ## Parts of a session -/

/-- A value is a text. -/
def Value.IsText (v : Value) : Prop :=
  ∃ s, v = .text s

/-- Every flag stands in the table once. -/
def Flags.Storable (f : Flags) : Prop :=
  Table.Distinct f.values

/-- The scene holds no reference to a flag, and its sprites go by texts. -/
structure Scene.Storable (s : Scene) : Prop where
  plain : s.toValue.plain
  names : ∀ e ∈ s.sprites, e.1.IsText
  distinct : Table.Distinct s.sprites

/-- The menus go by texts and hold texts. -/
structure ChoiceSets.Storable (sets : ChoiceSets) : Prop where
  names : ∀ e ∈ sets, e.1.IsText
  options : ∀ e ∈ sets, ∀ o ∈ e.2, o.1.IsText ∧ o.2.IsText
  distinct : Table.Distinct sets

theorem ChoiceSets.storable_nil : ChoiceSets.Storable [] :=
  ⟨by simp, by simp, Table.distinct_nil⟩

theorem Scene.storable_empty : Scene.Storable {} :=
  ⟨by decide +kernel, by simp, Table.distinct_nil⟩

/-- A snapshot that is not changed by being written and read back. -/
structure Snapshot.Storable (t : Snapshot) : Prop where
  flags : t.flags.Storable
  overrides : t.overrides.toValue.plain
  scene : t.scene.Storable
  choiceSets : ChoiceSets.Storable t.choiceSets

/-! ## Storable scenes -/

namespace Scene

/-- No sprite and no name of one holds a reference to a flag. -/
def PlainSprites (sprites : Table Value Sprite) : Prop :=
  ∀ e ∈ sprites, e.1.plain ∧ e.2.toValue.plain

theorem plain_iff {s : Scene} : s.toValue.plain ↔
    s.background.plain ∧ s.backgroundX.plain ∧ s.backgroundY.plain ∧ s.backgroundScale.plain ∧
      PlainSprites s.sprites ∧ s.spriteAliases.plain ∧ s.music.plain ∧ s.musicLoop.plain ∧
      s.speaker.plain ∧ s.speech.plain ∧ s.showSpeech.plain ∧ s.speechbox.plain ∧
      s.fadedOut.plain := by
  have hsprites : (Value.record (Table.mapValues Sprite.toValue s.sprites)).plain ↔
      PlainSprites s.sprites := by
    rw [Value.plain_record_iff, Table.mapValues, List.forall_mem_map, PlainSprites]
  simp [toValue, Value.plain_ofFields_iff, toFields, hsprites]

end Scene

theorem Sprite.plain_iff {s : Sprite} : s.toValue.plain ↔
    s.filename.plain ∧ s.x.plain ∧ s.y.plain ∧ s.scale.plain ∧ s.flippedX.plain ∧
      s.flippedY.plain := by
  simp [toValue, Value.plain_ofFields_iff, toFields]

theorem Overrides.plain_iff {o : Overrides} : o.toValue.plain ↔
    o.speechFont.plain ∧ o.speechFontSize.plain ∧ o.speakerFont.plain ∧ o.speakerFontSize.plain ∧
      o.cinematicSeconds.plain ∧ o.cinematicInputAllowed.plain ∧ o.typewriterRate.plain ∧
      o.typewriterCanSkip.plain ∧ o.choiceboxOffsetX.plain ∧ o.choiceboxOffsetY.plain := by
  simp [toValue, Value.plain_ofFields_iff, toFields]

namespace Scene.Storable

variable {s : Scene}

/-- An edit that leaves the sprites alone. -/
theorem edit {s' : Scene} (h : s.Storable) (hsprites : s'.sprites = s.sprites)
    (hplain : s'.toValue.plain) : s'.Storable :=
  ⟨hplain, by rw [hsprites]; exact h.names, by rw [hsprites]; exact h.distinct⟩

theorem speak (h : s.Storable) {text : Value} (htext : text.plain) :
    Scene.Storable { s with speech := text } := by
  refine h.edit rfl ?_
  have hparts := Scene.plain_iff.1 h.plain
  exact Scene.plain_iff.2 (by simp_all)

theorem setSprites {sprites : Table Value Sprite} (h : s.Storable)
    (hplain : Scene.PlainSprites sprites) (hnames : ∀ e ∈ sprites, e.1.IsText)
    (hdistinct : Table.Distinct sprites) : ({ s with sprites } : Scene).Storable := by
  refine ⟨?_, hnames, hdistinct⟩
  obtain ⟨hb, hx, hy, hscale, -, hrest⟩ := Scene.plain_iff.1 h.plain
  exact Scene.plain_iff.2 ⟨hb, hx, hy, hscale, hplain, hrest⟩

theorem changeSprite {name : Value} {f : Sprite → Sprite} (h : s.Storable)
    (hf : ∀ p : Sprite, p.toValue.plain → (f p).toValue.plain) :
    (s.changeSprite name f).Storable := by
  have hsprites := (Scene.plain_iff.1 h.plain).2.2.2.2.1
  have hmem : ∀ e ∈ Table.modify name f s.sprites, ∃ d ∈ s.sprites,
      e = d ∨ e = (d.1, f d.2) := by
    intro e he
    obtain ⟨d, hd, rfl⟩ := List.mem_map.1 he
    refine ⟨d, hd, ?_⟩
    split
    · exact .inr rfl
    · exact .inl rfl
  refine h.setSprites ?_ ?_ (h.distinct.modify name f)
  · intro e he
    obtain ⟨d, hd, rfl | rfl⟩ := hmem e he
    · exact hsprites _ hd
    · exact ⟨(hsprites d hd).1, hf _ (hsprites d hd).2⟩
  · intro e he
    obtain ⟨d, hd, rfl | rfl⟩ := hmem e he
    · exact h.names _ hd
    · exact h.names d hd

theorem sprite_plain {name : Value} {p : Sprite} (h : s.Storable)
    (hp : Table.get? name s.sprites = some p) : p.toValue.plain := by
  obtain ⟨k, hk⟩ := Table.mem_of_get? hp
  exact ((Scene.plain_iff.1 h.plain).2.2.2.2.1 _ hk).2

end Scene.Storable

/-! ## Reading back what was written -/

/-- A record, or the empty record if it is empty. -/
@[simp] theorem Value.orElse_empty (fs : List (Value × Value)) :
    (Value.record fs).orElse (.record []) = .record fs := by
  cases fs <;> rfl

theorem Position.ofValue_toValue (p : Position) : Position.ofValue p.toValue = .ok p :=
  rfl

theorem Flags.ofFields_written {f : Flags} (h : f.Storable) :
    Flags.ofFields (f.values.map fun e => (.text e.1, .int e.2)) = .ok f := by
  have hfold : ∀ (rest : Table String Int) (g : Flags), Table.Distinct (g.values ++ rest) →
      (rest.map fun e => (Value.text e.1, Value.int e.2)).foldlM
        (fun f e => f.setValue e.1.shown e.2) g = .ok ⟨g.values ++ rest⟩ := by
    intro rest
    induction rest with
    | nil => intro g _; simp; rfl
    | cons e rest ih =>
      intro g hg
      have hfresh : ∀ a ∈ g.values, (a.1 == e.1) = false := fun a ha =>
        (List.pairwise_append.1 hg).2.2 a ha e (List.mem_cons_self ..)
      have hset : g.set e.1 e.2 = ⟨g.values ++ [e]⟩ := by
        rw [Flags.set, Table.put_of_fresh hfresh]
      have hrest := ih (g.set e.1 e.2) (by simpa [hset] using hg)
      rw [hset] at hrest
      rw [List.map_cons, List.foldlM_cons]
      show (_ : Except Mishap Flags) = _
      have hval : g.setValue (Value.text e.1).shown (.int e.2) = .ok ⟨g.values ++ [e]⟩ := by
        rw [← hset]; rfl
      rw [hval]
      show List.foldlM _ _ _ = _
      rw [hrest]
      simp
  exact hfold f.values {} h

theorem Overrides.ofValue_toValue (o : Overrides) : Overrides.ofValue o.toValue = .ok o := by
  simp only [ofValue, toValue, Value.ofFields, Value.orElse_empty, Value.fields]
  simp [toFields, setField, Value.text?, pure, Except.pure, bind, Except.bind]

theorem Sprite.ofValue_toValue (s : Sprite) : Sprite.ofValue s.toValue = .ok s := by
  have hname : Fields.has "filename" (s.toFields.map fun f => (Value.text f.1, f.2)) = true := by
    simp [toFields, Fields.has, Fields.get?, Table.get?]
  simp only [ofValue, toValue, Value.ofFields, hname]
  simp [toFields, setField?, Value.text?, bind, Except.bind, pure, Except.pure]

/-- A table whose keys are texts is read back from its record, if every value is. -/
theorem readTable_ok {α : Type} {t : Table Value α} {write : α → Value}
    {read : Value → Except Mishap α} (hread : ∀ e ∈ t, read (write e.2) = .ok e.2)
    (hnames : ∀ e ∈ t, e.1.IsText) (hdistinct : Table.Distinct t) :
    (do return Table.ofEntries (← (Table.mapValues write t).mapM fun e => do
      return (Value.text e.1.shown, ← read e.2)) : Except Mishap (Table Value α)) = .ok t := by
  have hentries : (Table.mapValues write t).mapM
      (fun e => (do return (Value.text e.1.shown, ← read e.2) : Except Mishap (Value × α))) =
      .ok t := by
    induction t with
    | nil => rfl
    | cons e t ih =>
      obtain ⟨name, hname⟩ := hnames e (List.mem_cons_self ..)
      have hhead : (do return (Value.text e.1.shown, ← read (write e.2)) :
          Except Mishap (Value × α)) = .ok e := by
        rw [hread e (List.mem_cons_self ..), hname]
        show Except.ok (Value.text name, e.2) = _
        rw [← hname]
      have htail := ih (fun a ha => hread a (List.mem_cons_of_mem _ ha))
        (fun a ha => hnames a (List.mem_cons_of_mem _ ha)) (Table.distinct_cons.1 hdistinct).2
      show ((e.1, write e.2) :: Table.mapValues write t).mapM _ = _
      rw [List.mapM_cons, hhead, htail]
      rfl
  rw [hentries]
  show Except.ok (Table.ofEntries t) = _
  rw [Table.ofEntries_of_distinct hdistinct]

theorem Scene.ofValue_toValue {s : Scene} (h : s.Storable) : Scene.ofValue s.toValue = .ok s := by
  have hsprites : Scene.spritesOf (.record (Table.mapValues Sprite.toValue s.sprites)) =
      .ok s.sprites := by
    rw [Scene.spritesOf, Value.orElse_empty]
    exact readTable_ok (fun e _ => Sprite.ofValue_toValue e.2) h.names h.distinct
  have hget : Fields.get "sprites" (s.toFields.map fun f => (Value.text f.1, f.2)) =
      .record (Table.mapValues Sprite.toValue s.sprites) := by
    simp [toFields, Fields.get, Fields.get?, Table.get?]
  simp only [ofValue, toValue, Value.ofFields, Value.orElse_empty, Value.toFields]
  show (do
    let sprites ← Scene.spritesOf (Fields.get "sprites" (s.toFields.map fun f => (.text f.1, f.2)))
    return _ : Except Mishap Scene) = _
  rw [hget, hsprites]
  simp [toFields, setField, Value.text?, bind, Except.bind, pure, Except.pure]

theorem Snapshot.optionsOf_written {options : List (Value × Value)}
    (h : ∀ o ∈ options, o.1.IsText ∧ o.2.IsText) :
    Snapshot.optionsOf (.list (options.map fun o => .list [o.1, o.2])) = .ok options := by
  have hparts : (Value.list (options.map fun o => .list [o.1, o.2])).parts =
      .ok (options.map fun o => .list [o.1, o.2]) := rfl
  rw [Snapshot.optionsOf, hparts]
  show (options.map fun o => Value.list [o.1, o.2]).mapM _ = _
  induction options with
  | nil => rfl
  | cons o options ih =>
    obtain ⟨⟨a, ha⟩, b, hb⟩ := h o (List.mem_cons_self ..)
    have hhead : ∀ f : Value × Value → Except Mishap (Value × Value),
        ((Value.list [o.1, o.2]).pair >>= f) = f (o.1, o.2) := fun _ => rfl
    rw [List.map_cons, List.mapM_cons, ih (fun o ho => h o (List.mem_cons_of_mem _ ho)) rfl, hhead]
    show Except.ok ((Value.text o.1.shown, Value.text o.2.shown) :: options) = _
    obtain ⟨o₁, o₂⟩ := o
    subst ha hb
    rfl

theorem Snapshot.choiceSetsOf_written {sets : ChoiceSets} (h : ChoiceSets.Storable sets) :
    Snapshot.choiceSetsOf (Snapshot.choiceSetsValue sets) = .ok sets := by
  rw [Snapshot.choiceSetsOf, Snapshot.choiceSetsValue, Value.orElse_empty]
  exact readTable_ok (fun e he => Snapshot.optionsOf_written (h.options e he)) h.names h.distinct

/-- The name under which the script of a snapshot is found again. -/
def Snapshot.savedName (t : Snapshot) : Value :=
  .text (t.script.orElse (.text "")).shown

/-- What is written of a snapshot that can be saved. -/
theorem Snapshot.toValue_of_storable {t : Snapshot} (h : t.Storable) :
    t.toValue = t.assemble .ok := by
  have ho : t.overrides.toValue.spelled = .ok t.overrides.toValue :=
    Value.spelled_of_plain _ h.overrides
  have hs : t.scene.toValue.spelled = .ok t.scene.toValue := Value.spelled_of_plain _ h.scene.plain
  simp only [toValue, assemble, ho, hs]

/-- A snapshot that can be saved is read back as it was written, but for the name of its script,
which becomes a text. -/
theorem Snapshot.ofValue_written {t : Snapshot} (h : t.Storable) :
    (t.toValue >>= Snapshot.ofValue) = .ok { t with script := t.savedName } := by
  have hflags := Flags.ofFields_written h.flags
  have hscene := Scene.ofValue_toValue h.scene
  have hsets := Snapshot.choiceSetsOf_written h.choiceSets
  have hcursor : t.cursor.toValue.orElse (.record []) = t.cursor.toValue := Value.orElse_empty _
  have hoverrides : t.overrides.toValue.orElse (.record []) = t.overrides.toValue :=
    Value.orElse_empty _
  have hparts : t.scene.toValue.orElse (.record []) = t.scene.toValue := Value.orElse_empty _
  have hmenus : (choiceSetsValue t.choiceSets).orElse (.record []) = choiceSetsValue t.choiceSets :=
    Value.orElse_empty _
  rw [toValue_of_storable h]
  simp only [assemble, ofValue, Value.ofFields, Value.fields, pure, Except.pure, Except.bind, bind,
    List.map_cons, List.map_nil, Fields.get, Fields.get?, Table.get?, Value.text_beq_text,
    String.reduceBEq, Bool.false_eq_true, if_false, if_true, Option.getD_some, hcursor,
    hoverrides, hparts, hmenus, Position.ofValue_toValue, Overrides.ofValue_toValue, hscene, hsets,
    Flags.toValue, Value.orElse_empty, hflags, Value.toInt]
  rfl

end VisualNovel
