import VisualNovel.Proofs.Storable
import VisualNovel.Saves

/-!
# What is read can be saved

Nothing that is read from a file holds a reference to a flag: `Json.read_plain`. And whatever a
snapshot is read from, if that holds no such reference then the snapshot can be saved:
`Snapshot.ofValue_storable`. Reading normalizes all that saving would change.
-/

namespace VisualNovel

/-! ## Tables and lists that are read -/

namespace Table

variable {κ α : Type} [BEq κ] {p : κ → Prop} {q : α → Prop}

theorem forall_put {t : Table κ α} {k : κ} {v : α} (ht : ∀ e ∈ t, p e.1 ∧ q e.2) (hk : p k)
    (hv : q v) : ∀ e ∈ put k v t, p e.1 ∧ q e.2 := by
  intro e he
  rcases mem_put he with he | ⟨hvalue, hkey | hkey⟩
  · exact ht e he
  · rw [hvalue, hkey]
    exact ⟨hk, hv⟩
  · obtain ⟨e', he', hsame⟩ := List.mem_map.1 hkey
    rw [hvalue, ← hsame]
    exact ⟨(ht e' he').1, hv⟩

theorem forall_merge {t u : Table κ α} (ht : ∀ e ∈ t, p e.1 ∧ q e.2)
    (hu : ∀ e ∈ u, p e.1 ∧ q e.2) : ∀ e ∈ merge t u, p e.1 ∧ q e.2 := by
  induction u generalizing t with
  | nil => exact ht
  | cons a u ih =>
    obtain ⟨hk, hv⟩ := hu a List.mem_cons_self
    exact ih (forall_put ht hk hv) fun e he => hu e (List.mem_cons_of_mem _ he)

theorem forall_ofEntries {u : Table κ α} (hu : ∀ e ∈ u, p e.1 ∧ q e.2) :
    ∀ e ∈ ofEntries u, p e.1 ∧ q e.2 :=
  forall_merge (by simp) hu

end Table

theorem mem_of_mapM_ok {ε α β : Type} {f : α → Except ε β} {l : List α} {l' : List β}
    (h : l.mapM f = .ok l') {b : β} (hb : b ∈ l') : ∃ a ∈ l, f a = .ok b := by
  induction l generalizing l' with
  | nil =>
    cases h
    cases hb
  | cons a l ih =>
    rw [List.mapM_cons] at h
    obtain ⟨b', hb', h⟩ := bind_eq_ok.1 h
    obtain ⟨rest, hrest, h⟩ := bind_eq_ok.1 h
    cases h
    rcases List.mem_cons.1 hb with rfl | hb
    · exact ⟨a, List.mem_cons_self, hb'⟩
    · obtain ⟨a', ha', hf⟩ := ih hrest hb
      exact ⟨a', List.mem_cons_of_mem _ ha', hf⟩

theorem foldlM_keeps {ε α β : Type} {f : β → α → Except ε β} {I : β → Prop} {l : List α}
    (hstep : ∀ a ∈ l, ∀ b b', I b → f b a = .ok b' → I b') {b b' : β} (hb : I b)
    (h : l.foldlM f b = .ok b') : I b' := by
  induction l generalizing b with
  | nil =>
    cases h
    exact hb
  | cons a l ih =>
    rw [List.foldlM_cons] at h
    obtain ⟨c, hc, h⟩ := bind_eq_ok.1 h
    exact ih (fun a ha => hstep a (List.mem_cons_of_mem _ ha))
      (hstep a List.mem_cons_self b c hb hc) h

/-! ## Files -/

/-- Whether a value has no parts, and is no reference to a flag. -/
def Value.Scalar : Value → Prop
  | null | bool _ | int _ | float _ | nan _ | text _ => True
  | _ => False

namespace Json

variable {p : Value → Prop}

/-- The computation yields what is described, or the text is badly written or goes too deep. -/
def Reads {α : Type} (q : α → Prop) : Except Mishap α → Prop
  | .ok a => q a
  | .error m => m = .badValue ∨ m = .endless

theorem Reads.bind {α β : Type} {q : α → Prop} {q' : β → Prop} {x : Except Mishap α}
    {f : α → Except Mishap β} (h : Reads q x) (hf : ∀ a, q a → Reads q' (f a)) :
    Reads q' (x >>= f) := by
  cases x with
  | error m => exact h
  | ok a => exact hf a h

theorem reads_found {α : Type} {q : α → Prop} {r : Option α} (h : ∀ a, r = some a → q a) :
    Reads q (found r) := by
  cases r with
  | none => exact .inl rfl
  | some a => exact h a rfl

theorem word?_scalar {cs rest : List Char} {v : Value} (h : word? cs = some (v, rest)) :
    v.Scalar := by
  have hnamed : ∀ (word : String) (w : Value), w.Scalar →
      (after? word.toList cs).map (fun rest => (w, rest)) = some (v, rest) → v.Scalar := by
    intro word w hw hfound
    obtain ⟨_, -, heq⟩ := Option.map_eq_some_iff.1 hfound
    cases heq
    exact hw
  simp only [word?, Option.orElse_eq_orElse, Option.orElse_eq_or, Option.or_eq_some_iff] at h
  rcases h with h | ⟨-, h | ⟨-, h | ⟨-, h | ⟨-, h | ⟨-, h⟩⟩⟩⟩⟩
  all_goals exact hnamed _ _ (by simp [Value.Scalar]) h

theorem number?_scalar {cs rest : List Char} {v : Value} (h : number? cs = some (v, rest)) :
    v.Scalar := by
  unfold number? at h
  simp only [Option.bind_eq_bind, Option.bind_eq_some_iff] at h
  obtain ⟨⟨whole, rest'⟩, -, h⟩ := h
  split at h
  · split at h
    · cases h
    · cases h
      trivial
  · cases h
    trivial

/-- What holds of the parts of a document holds of the whole. -/
structure Closed (p : Value → Prop) : Prop where
  scalar : ∀ v : Value, v.Scalar → p v
  list : ∀ items, (∀ v ∈ items, p v) → p (.list items)
  record : ∀ entries : List (Value × Value), (∀ e ∈ entries, (∃ key, e.1 = .text key) ∧ p e.2) →
    p (.record (Table.ofEntries entries))

/-- With so much fuel every value that is read is as described, and so are a list and an object
whose first parts are. -/
structure ReadsAs (p : Value → Prop) (fuel : Nat) : Prop where
  value : ∀ room cs, Reads (fun r => p r.1) (value fuel room cs)
  items : ∀ room seen cs, (∀ v ∈ seen, p v) → Reads (fun r => p r.1) (items fuel room seen cs)
  members : ∀ room seen cs, (∀ e ∈ seen, (∃ key, e.1 = .text key) ∧ p e.2) →
    Reads (fun r => p r.1) (members fuel room seen cs)

namespace ReadsAs

variable {fuel : Nat}

theorem value_succ (hp : Closed p) (ih : ReadsAs p fuel) (room : Nat) (cs : List Char) :
    Reads (fun r => p r.1) (Json.value (fuel + 1) room cs) := by
  unfold Json.value
  split
  · exact (reads_found fun _ _ => trivial).bind (q := fun _ => True) fun _ _ =>
      hp.scalar _ trivial
  · split
    · exact .inr rfl
    · split
      · exact hp.list [] (by simp)
      · exact ih.items _ _ _ (by simp)
  · split
    · exact .inr rfl
    · split
      · exact hp.record [] (by simp)
      · exact ih.members _ _ _ (by simp)
  · refine reads_found fun r h => hp.scalar _ ?_
    simp only [Option.orElse_eq_orElse, Option.orElse_eq_or, Option.or_eq_some_iff] at h
    rcases h with h | ⟨-, h⟩
    · exact word?_scalar h
    · exact number?_scalar h

theorem items_succ (hp : Closed p) (ih : ReadsAs p fuel) (room : Nat) {seen : List Value}
    (cs : List Char) (hseen : ∀ v ∈ seen, p v) :
    Reads (fun r => p r.1) (Json.items (fuel + 1) room seen cs) := by
  unfold Json.items
  refine (ih.value room _).bind fun r hr => ?_
  have hall : ∀ v ∈ r.1 :: seen, p v := List.forall_mem_cons.2 ⟨hr, hseen⟩
  dsimp only
  split
  · exact ih.items _ _ _ hall
  · exact hp.list _ fun v hv => hall v (List.mem_reverse.1 hv)
  · exact .inl rfl

theorem members_succ (hp : Closed p) (ih : ReadsAs p fuel) (room : Nat)
    {seen : List (Value × Value)} (cs : List Char)
    (hseen : ∀ e ∈ seen, (∃ key, e.1 = .text key) ∧ p e.2) :
    Reads (fun r => p r.1) (Json.members (fuel + 1) room seen cs) := by
  unfold Json.members
  have hfound : ∀ {α : Type} (r : Option α), Reads (fun _ => True) (found r) := fun _ =>
    reads_found fun _ _ => trivial
  refine (hfound _).bind fun _ _ => (hfound _).bind fun key _ => (hfound _).bind fun _ _ =>
    (ih.value room _).bind fun r hr => ?_
  have hall : ∀ e ∈ (Value.text key.1, r.1) :: seen, (∃ key, e.1 = .text key) ∧ p e.2 :=
    List.forall_mem_cons.2 ⟨⟨⟨key.1, rfl⟩, hr⟩, hseen⟩
  dsimp only
  split
  · exact ih.members _ _ _ hall
  · exact hp.record _ fun e he => hall e (List.mem_reverse.1 he)
  · exact .inl rfl

end ReadsAs

theorem readsAs (hp : Closed p) (fuel : Nat) : ReadsAs p fuel := by
  induction fuel with
  | zero =>
    refine ⟨fun _ _ => ?_, fun _ _ _ _ => ?_, fun _ _ _ _ => ?_⟩
    all_goals simp [value, items, members, Reads]
  | succ fuel ih =>
    exact ⟨ih.value_succ hp, fun room _ cs hseen => ih.items_succ hp room cs hseen,
      fun room _ cs hseen => ih.members_succ hp room cs hseen⟩

/-- A text is read as a document all of whose parts are as described, or it is none. -/
theorem read_reads (hp : Closed p) (s : String) : Reads p (read s) := by
  refine ((readsAs hp _).value _ _).bind fun r hr => ?_
  dsimp only
  split
  · exact hr
  · exact .inl rfl

theorem plain_closed : Closed (Value.plain ·) where
  scalar v h := by cases v <;> first | exact h.elim | simp [Value.plain]
  list _ h := Value.plain_list_iff.2 h
  record _ h := Value.plain_record_iff.2 (Table.forall_ofEntries (p := (Value.plain ·))
    (q := (Value.plain ·)) fun e he => ⟨(h e he).1.elim fun _ hkey => hkey ▸ Value.plain_text _,
      (h e he).2⟩)

/-- What is read from a text holds no reference to a flag. -/
theorem read_plain {s : String} {v : Value} (h : read s = .ok v) : v.plain := by
  simpa [h, Reads] using read_reads plain_closed s

end Json

/-! ## Parts of a snapshot -/

theorem Value.plain_fields {v : Value} {fs : Fields} (hv : v.plain) (h : v.fields = .ok fs) :
    (record fs).plain := by
  unfold fields at h
  split at h
  · cases h
    exact hv
  · cases h

/-- A part of a record that may be missing. -/
theorem Value.plain_orEmpty {v : Value} (hv : v.plain) : (v.orElse (record [])).plain :=
  plain_orElse hv (by simp [plain, plainFields])

theorem Value.plain_pair {v : Value} {a b : Value} (hv : v.plain) (h : v.pair = .ok (a, b)) :
    a.plain ∧ b.plain := by
  obtain ⟨items, hitems, h⟩ := bind_eq_ok.1 h
  have hplain := plain_parts hv hitems
  split at h
  · cases h
    exact ⟨hplain _ (by simp), hplain _ (by simp)⟩
  · cases h

theorem Value.plain_fieldsOfPairs {seen fs : Fields} {items : List Value}
    (hseen : (record seen).plain) (hitems : ∀ v ∈ items, v.plain)
    (h : fieldsOfPairs seen items = .ok fs) : (record fs).plain := by
  induction items generalizing seen with
  | nil =>
    cases h
    exact hseen
  | cons part rest ih =>
    unfold fieldsOfPairs at h
    obtain ⟨⟨key, value⟩, hpair, h⟩ := bind_eq_ok.1 h
    obtain ⟨hkey, hvalue⟩ := plain_pair (hitems part List.mem_cons_self) hpair
    dsimp only at h
    obtain ⟨key', hkey', hrest⟩ := bind_eq_ok.1 h
    have hsame : key' = key := by
      unfold asKey at hkey'
      split at hkey' <;> cases hkey'
      rfl
    subst hsame
    refine ih ?_ (fun v hv => hitems v (List.mem_cons_of_mem _ hv)) hrest
    rw [plain_record_iff] at hseen ⊢
    exact Table.forall_put (p := (plain ·)) (q := (plain ·)) hseen hkey hvalue

theorem Value.plain_toFields {v : Value} {fs : Fields} (hv : v.plain) (h : v.toFields = .ok fs) :
    (record fs).plain := by
  unfold toFields at h
  split at h
  · cases h
    exact hv
  · obtain ⟨items, hitems, h⟩ := bind_eq_ok.1 h
    exact plain_fieldsOfPairs (by simp [plain, plainFields]) (plain_parts hv hitems) h

/-- Texts are read as the keys of a table, and each stands in it once. -/
theorem readTable_keys {α : Type} {fs : Fields} {read : Value → Except Mishap α}
    {t : Table Value α} (h : (do return Table.ofEntries (← fs.mapM fun e => do
      return (Value.text e.1.shown, ← read e.2)) : Except Mishap (Table Value α)) = .ok t) :
    Table.Distinct t ∧ ∀ e ∈ t, e.1.IsText ∧ ∃ e' ∈ fs, read e'.2 = .ok e.2 := by
  obtain ⟨entries, hentries, h⟩ := bind_eq_ok.1 h
  cases h
  refine ⟨Table.distinct_nil.merge entries, Table.forall_ofEntries (p := Value.IsText)
    (q := fun v => ∃ e' ∈ fs, read e'.2 = .ok v) ?_⟩
  intro e he
  obtain ⟨e', he', hread⟩ := mem_of_mapM_ok hentries he
  obtain ⟨v, hv, hread⟩ := bind_eq_ok.1 hread
  cases hread
  exact ⟨⟨_, rfl⟩, e', he', hv⟩

theorem Flags.ofFields_storable {fs : Fields} {f : Flags} (h : Flags.ofFields fs = .ok f) :
    f.Storable := by
  refine foldlM_keeps (I := Flags.Storable) ?_ Table.distinct_nil h
  intro e _ g g' hg hset
  obtain ⟨n, -, hset⟩ := bind_eq_ok.1 hset
  cases hset
  exact hg.put _ _

theorem Sprite.setField?_plain {s s' : Sprite} {name : String} {v : Value} (hs : s.toValue.plain)
    (hv : v.plain) (h : s.setField? name v = some s') : s'.toValue.plain := by
  rw [plain_iff] at hs ⊢
  unfold setField? at h
  split at h <;> cases h <;> simp_all

theorem Sprite.ofValue_plain {v : Value} {s : Sprite} (hv : v.plain) (h : ofValue v = .ok s) :
    s.toValue.plain := by
  unfold ofValue at h
  split at h
  · next fs =>
    have hfs := Value.plain_record_iff.1 hv
    split at h
    · cases h
    · refine foldlM_keeps (I := fun s => s.toValue.plain) ?_ (by simp [plain_iff]) h
      intro e he s s' hs hset
      split at hset
      · next hfield =>
        cases hset
        obtain ⟨name, -, hfield⟩ := Option.bind_eq_some_iff.1 hfield
        exact setField?_plain hs (hfs e he).2 hfield
      · cases hset
  · cases h

theorem Overrides.setField_plain {o : Overrides} {name : String} {v : Value}
    (ho : o.toValue.plain) (hv : v.plain) : (o.setField name v).toValue.plain := by
  rw [plain_iff] at ho ⊢
  unfold setField
  split <;> simp_all

theorem Overrides.ofValue_plain {v : Value} {o : Overrides} (hv : v.plain)
    (h : ofValue v = .ok o) : o.toValue.plain := by
  obtain ⟨fs, hfs, h⟩ := bind_eq_ok.1 h
  cases h
  have hplain := Value.plain_record_iff.1
    (Value.plain_fields (Value.plain_orEmpty hv) hfs)
  refine List.foldlRecOn fs _ (motive := fun o : Overrides => o.toValue.plain)
    (by simp [plain_iff]) ?_
  intro o ho e he
  exact setField_plain ho (hplain e he).2

theorem Scene.setField_plain {s : Scene} {name : String} {v : Value} (hs : s.toValue.plain)
    (hv : v.plain) : (s.setField name v).toValue.plain := by
  rw [plain_iff] at hs ⊢
  unfold setField
  split <;> simp_all

theorem Scene.ofValue_storable {v : Value} {s : Scene} (hv : v.plain) (h : ofValue v = .ok s) :
    s.Storable := by
  obtain ⟨fs, hfs, h⟩ := bind_eq_ok.1 h
  have hplain := Value.plain_toFields (Value.plain_orEmpty hv) hfs
  obtain ⟨sprites, hsprites, h⟩ := bind_eq_ok.1 h
  cases h
  obtain ⟨entries, hentries, hsprites⟩ := bind_eq_ok.1 hsprites
  have hentries := Value.plain_record_iff.1
    (Value.plain_fields (Value.plain_orEmpty (Value.plain_field hplain)) hentries)
  obtain ⟨hdistinct, hread⟩ := readTable_keys hsprites
  have hrest : Value.plain
      (toValue (fs.foldl (fun s e => setField s (e.1.text?.getD "") e.2) {})) := by
    refine List.foldlRecOn fs _ (motive := fun s : Scene => s.toValue.plain) (by decide +kernel) ?_
    intro s hs e he
    exact setField_plain hs (Value.plain_record_iff.1 hplain e he).2
  refine ⟨?_, fun e he => (hread e he).1, hdistinct⟩
  obtain ⟨hb, hx, hy, hscale, -, hrest⟩ := plain_iff.1 hrest
  refine plain_iff.2 ⟨hb, hx, hy, hscale, ?_, hrest⟩
  intro e he
  obtain ⟨⟨name, hname⟩, e', he', hsprite⟩ := hread e he
  rw [hname]
  exact ⟨Value.plain_text _, Sprite.ofValue_plain (hentries e' he').2 hsprite⟩

namespace Snapshot

theorem optionsOf_texts {v : Value} {options : List (Value × Value)}
    (h : optionsOf v = .ok options) : ∀ o ∈ options, o.1.IsText ∧ o.2.IsText := by
  obtain ⟨parts, -, h⟩ := bind_eq_ok.1 h
  intro o ho
  obtain ⟨part, -, hpart⟩ := mem_of_mapM_ok h ho
  obtain ⟨⟨text, conversation⟩, -, hpart⟩ := bind_eq_ok.1 hpart
  cases hpart
  exact ⟨⟨_, rfl⟩, _, rfl⟩

theorem choiceSetsOf_storable {v : Value} {sets : ChoiceSets} (h : choiceSetsOf v = .ok sets) :
    ChoiceSets.Storable sets := by
  obtain ⟨fs, -, h⟩ := bind_eq_ok.1 h
  obtain ⟨hdistinct, hread⟩ := readTable_keys h
  refine ⟨fun e he => (hread e he).1, ?_, hdistinct⟩
  intro e he
  obtain ⟨-, e', -, hoptions⟩ := hread e he
  exact optionsOf_texts hoptions

/-- A snapshot that was read can be saved, unless a flag was referred to in what it was read
from. -/
theorem ofValue_storable {v : Value} {t : Snapshot} (hv : v.plain) (h : ofValue v = .ok t) :
    t.Storable ∧ t.script.IsText := by
  obtain ⟨fs, hfs, h⟩ := bind_eq_ok.1 h
  have hfs := Value.plain_fields hv hfs
  have hpart : ∀ name, ((fs.get name).orElse (.record [])).plain := fun name =>
    Value.plain_orEmpty (Value.plain_field hfs)
  obtain ⟨cursor, -, h⟩ := bind_eq_ok.1 h
  obtain ⟨entries, -, h⟩ := bind_eq_ok.1 h
  obtain ⟨flags, hflags, h⟩ := bind_eq_ok.1 h
  obtain ⟨overrides, hoverrides, h⟩ := bind_eq_ok.1 h
  obtain ⟨scene, hscene, h⟩ := bind_eq_ok.1 h
  obtain ⟨sets, hsets, h⟩ := bind_eq_ok.1 h
  obtain ⟨version, -, h⟩ := bind_eq_ok.1 h
  cases h
  exact ⟨⟨Flags.ofFields_storable hflags, Overrides.ofValue_plain (hpart _) hoverrides,
    Scene.ofValue_storable (hpart _) hscene, choiceSetsOf_storable hsets⟩, _, rfl⟩

end Snapshot

/-! ## Stores -/

theorem Ends.askFiles_iff {α : Type} {question : Files.Tree → Except Mishap α} {d : Disk}
    {Q : α → Disk → Prop} {E : Mishap → Disk → Prop} :
    Ends (Attempt.askFiles question) d Q E ↔
      (∀ a, question d.files = .ok a → Q a d) ∧ ∀ m, question d.files = .error m → E m d :=
  bind_iff.trans (get_iff.trans mk_pure_iff)

theorem Ends.outcome_askFiles_iff {α : Type} {question : Files.Tree → Except Mishap α} {d : Disk}
    {Q : Except Mishap α → Disk → Prop} {E : Mishap → Disk → Prop} :
    Ends (Attempt.outcome (Attempt.askFiles question)) d Q E ↔ Q (question d.files) d :=
  Iff.rfl

theorem FolderSaves.read_plain (p : Files.Path) (d : Disk) :
    Ends (read p) d (fun found _ => ∀ v, found = some v → v.plain) fun _ _ => True := by
  unfold read
  refine Ends.bind_iff.2 (Ends.askFiles_iff.2 ⟨fun there _ => ?_, fun _ _ => trivial⟩)
  split
  · exact Ends.pure_iff.2 fun _ h => by cases h
  · refine Ends.bind_iff.2 (Ends.outcome_askFiles_iff.2 ?_)
    split
    · next v hread =>
      obtain ⟨text, -, hread⟩ := bind_eq_ok.1 hread
      refine Ends.pure_iff.2 ?_
      rintro _ ⟨⟩
      exact Json.read_plain hread
    · split
      · exact fun _ h => by cases h
      · trivial

namespace SaveStore

/-- No save in the memory holds a reference to a flag. -/
def Plain : SaveStore → Prop
  | memory saves => (∀ v, saves.quick = some v → v.plain) ∧ ∀ e ∈ saves.slots, e.2.plain
  | folder _ => True

variable {store : SaveStore}

theorem readSlot_plain (h : store.Plain) (slot : Value) (d : Disk) :
    Ends (store.readSlot slot) d (fun found _ => ∀ v, found = some v → v.plain)
      fun _ _ => True := by
  cases store with
  | memory saves =>
    refine Ends.bind_iff.2 (Ends.mk_pure_iff.2 ⟨fun n _ => ?_, fun _ _ => trivial⟩)
    intro v hv
    obtain ⟨k, hk⟩ := Table.mem_of_get? hv
    exact h.2 _ hk
  | folder base =>
    refine Ends.bind_iff.2 (Ends.iff_attempted.2 ⟨fun p d' _ => ?_, fun _ _ _ => trivial⟩)
    exact FolderSaves.read_plain p d'

theorem readQuick_plain (h : store.Plain) (d : Disk) :
    Ends store.readQuick d (fun found _ => ∀ v, found = some v → v.plain) fun _ _ => True := by
  cases store with
  | memory saves => exact h.1
  | folder base =>
    refine Ends.bind_iff.2 (Ends.iff_attempted.2 ⟨fun p d' _ => ?_, fun _ _ _ => trivial⟩)
    exact FolderSaves.read_plain p d'

end SaveStore

end VisualNovel
