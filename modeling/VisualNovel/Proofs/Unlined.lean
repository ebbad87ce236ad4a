import VisualNovel.Json.Writer
import VisualNovel.Proofs.Calculus
import VisualNovel.Proofs.Showings

/-!
# Values without their lines

A number that is no number knows the line of a script that it was written in, or was computed from.
`Value.unlined` forgets the line, and nothing else of a value. No operation asks for the line: what
is computed of values without their lines is what is computed of the values, without its lines.

A list is left as it is, since no command puts a number of its own into one. The keys of a record
are left as they are, since the keys that commands use are texts.
-/

namespace VisualNovel

/-- The origin without the line that it stands for. -/
def Origin.unlined : Origin → Origin
  | script name conversation _ place => script name conversation 0 place
  | after other => after other.unlined
  | o => o

@[simp] theorem Origin.unlined_unlined (o : Origin) : o.unlined.unlined = o.unlined := by
  induction o with
  | after other ih => exact congrArg after ih
  | _ => rfl

namespace Value

mutual

/-- The value without the lines that its numbers come from. -/
def unlined : Value → Value
  | nan o => nan o.unlined
  | record fs => record (unlinedFields fs)
  | v => v

/-- `unlined` of every field. -/
def unlinedFields : List (Value × Value) → List (Value × Value)
  | [] => []
  | (k, v) :: rest => (k, unlined v) :: unlinedFields rest

end

theorem unlinedFields_eq (fs : List (Value × Value)) :
    unlinedFields fs = Table.mapValues unlined fs := by
  induction fs with
  | nil => rfl
  | cons f rest ih => exact congrArg ((f.1, f.2.unlined) :: ·) ih

@[simp] theorem unlined_null : null.unlined = null := rfl
@[simp] theorem unlined_bool (b : Bool) : (bool b).unlined = bool b := rfl
@[simp] theorem unlined_int (n : Int) : (int n).unlined = int n := rfl
@[simp] theorem unlined_float (x : Float) : (float x).unlined = float x := rfl
@[simp] theorem unlined_nan (o : Origin) : (nan o).unlined = nan o.unlined := rfl
@[simp] theorem unlined_text (s : String) : (text s).unlined = text s := rfl
@[simp] theorem unlined_list (items : List Value) : (list items).unlined = list items := rfl

@[simp] theorem unlined_record (fs : List (Value × Value)) :
    (record fs).unlined = record (Table.mapValues unlined fs) :=
  congrArg record (unlinedFields_eq fs)

mutual

@[simp] theorem unlined_unlined : ∀ v : Value, v.unlined.unlined = v.unlined
  | nan o => congrArg nan o.unlined_unlined
  | record fs => congrArg record (unlinedFields_unlinedFields fs)
  | null | bool _ | int _ | float _ | text _ | flag _ | bytes _ | moment _ | uid _ | list _ => rfl

theorem unlinedFields_unlinedFields :
    ∀ fs : List (Value × Value), unlinedFields (unlinedFields fs) = unlinedFields fs
  | [] => rfl
  | (k, v) :: rest =>
    congrArg₂ (fun v rest => (k, v) :: rest) (unlined_unlined v) (unlinedFields_unlinedFields rest)

end

@[simp] theorem mapValues_unlined_unlined {κ : Type} (t : Table κ Value) :
    Table.mapValues unlined (Table.mapValues unlined t) = Table.mapValues unlined t := by
  rw [Table.mapValues_mapValues]
  exact congrArg (Table.mapValues · t) (funext unlined_unlined)

/-- Values that are the same without their lines are numbers that are none, records, or equal. -/
theorem cases_of_unlined_eq {v w : Value} (h : v.unlined = w.unlined) :
    (∃ o p, v = nan o ∧ w = nan p) ∨
    (∃ fs gs, v = record fs ∧ w = record gs ∧
      Table.mapValues unlined fs = Table.mapValues unlined gs) ∨
    v = w ∧ ∀ fs, v ≠ record fs := by
  cases v with
  | nan o => cases w with
    | nan p => exact .inl ⟨o, p, rfl, rfl⟩
    | _ => cases h
  | record fs => cases w with
    | record gs =>
      rw [unlined_record, unlined_record] at h
      exact .inr (.inl ⟨fs, gs, rfl, rfl, record.inj h⟩)
    | _ => cases h
  | _ => cases w <;> first | exact .inr (.inr ⟨h, nofun⟩) | cases h

/-! ## What is asked of a value -/

section
variable (v w : Value)

@[simp] theorem truthy_unlined : v.unlined.truthy = v.truthy := by
  cases v with
  | record fs => cases fs <;> rfl
  | _ => rfl

@[simp] theorem numeric?_unlined : v.unlined.numeric? = v.numeric? := by
  cases v <;> rfl

@[simp] theorem toInt_unlined : v.unlined.toInt = v.toInt := by
  cases v <;> rfl

@[simp] theorem toFloat_unlined : v.unlined.toFloat = v.toFloat := by
  cases v <;> rfl

theorem less_unlined : v.unlined.less w.unlined = v.less w := by
  cases v <;> cases w <;> rfl

@[simp] theorem greater_zero_unlined : v.unlined.greater (int 0) = v.greater (int 0) :=
  less_unlined (int 0) v

@[simp] theorem parts_unlined : v.unlined.parts = v.parts := by
  cases v with
  | record fs =>
    rw [unlined_record]
    simp [parts, Table.mapValues]
  | _ => rfl

theorem fields_unlined : v.unlined.fields = v.fields.map (Table.mapValues unlined) := by
  cases v with
  | record fs => rw [unlined_record]; rfl
  | _ => rfl

end

mutual

@[simp] theorem quote_unlined : ∀ v : Value, v.unlined.quote = v.quote
  | record fs => by
    simp only [unlined, quote, quoteFields_unlinedFields fs]
  | nan _ => rfl
  | null | bool _ | int _ | float _ | text _ | flag _ | bytes _ | moment _ | uid _ | list _ => rfl

theorem quoteFields_unlinedFields :
    ∀ fs : List (Value × Value), quoteFields (unlinedFields fs) = quoteFields fs
  | [] => rfl
  | (k, v) :: rest => by
    simp only [unlinedFields, quoteFields, quote_unlined v, quoteFields_unlinedFields rest]

end

@[simp] theorem shown_unlined (v : Value) : v.unlined.shown = v.shown := by
  cases v with
  | record fs => exact quote_unlined (record fs)
  | _ => rfl

mutual

theorem writeAt_unlined (a : Json.Arrangement) (depth : Nat) :
    ∀ v : Value, Json.writeAt a depth v.unlined = Json.writeAt a depth v
  | record fs => by
    simp only [unlined, Json.writeAt, writeFields_unlinedFields a (depth + 1) fs]
  | nan _ => rfl
  | null | bool _ | int _ | float _ | text _ | flag _ | bytes _ | moment _ | uid _ | list _ => rfl

theorem writeFields_unlinedFields (a : Json.Arrangement) (depth : Nat) :
    ∀ fs : List (Value × Value),
      Json.writeFields a depth (unlinedFields fs) = Json.writeFields a depth fs
  | [] => rfl
  | (k, v) :: rest => by
    simp only [unlinedFields, Json.writeFields, writeAt_unlined a depth v,
      writeFields_unlinedFields a depth rest]

end

/-! ## What is computed of a value -/

section
variable (v w : Value)

@[simp] theorem unlined_orElse : (v.orElse w).unlined = v.unlined.orElse w.unlined := by
  unfold orElse
  rw [truthy_unlined]
  split <;> rfl

theorem unlined_ofFloat (x : Float) (o : Origin) : (ofFloat x o).unlined = ofFloat x o.unlined := by
  unfold ofFloat
  split <;> rfl

theorem originAfter_unlined : originAfter v.unlined w.unlined = (originAfter v w).unlined := by
  cases v <;> cases w <;> rfl

theorem combine_unlined (onInts : Int → Int → Int) (onFloats : Float → Float → Float) :
    combine onInts onFloats v.unlined w.unlined = (combine onInts onFloats v w).map unlined := by
  unfold combine
  rw [numeric?_unlined, numeric?_unlined, originAfter_unlined]
  split
  · rfl
  · next x y _ _ _ =>
    cases x.asReal with
    | error m => rfl
    | ok a =>
      cases y.asReal with
      | error m => rfl
      | ok b => exact congrArg Except.ok (unlined_ofFloat _ _).symm
  · rfl

theorem add_unlined : v.unlined.add w.unlined = (v.add w).map unlined := by
  have hcombine := combine_unlined v w (· + ·) (· + ·)
  cases v with
  | text s => cases w with
    | text t => rfl
    | _ => exact hcombine
  | list xs => cases w with
    | list ys => rfl
    | _ => exact hcombine
  | _ => exact hcombine

theorem repeated_unlined (times : Int) :
    v.unlined.repeated times = (v.repeated times).map unlined := by
  cases v <;> rfl

theorem mul_unlined : v.unlined.mul w.unlined = (v.mul w).map unlined := by
  unfold mul
  rw [numeric?_unlined, numeric?_unlined]
  split
  · exact repeated_unlined w _
  · exact repeated_unlined v _
  · exact combine_unlined v w _ _

theorem movedBy_unlined : v.unlined.movedBy w.unlined = (v.movedBy w).map unlined := by
  have hadd := add_unlined v w
  cases v with
  | list items =>
    simp only [unlined_list, movedBy, parts_unlined]
    cases w.parts <;> rfl
  | _ => exact hadd

theorem largest_unlined : largest v.unlined w.unlined = (largest v w).map unlined := by
  unfold largest greater
  rw [less_unlined]
  cases v.less w with
  | error m => rfl
  | ok b => cases b <;> rfl

end

/-- The fields of a value that may be missing. -/
theorem fields_orElse_unlined (v : Value) :
    (v.unlined.orElse (record [])).fields.map (Table.mapValues unlined) =
      (v.orElse (record [])).fields.map (Table.mapValues unlined) := by
  have hfields := fields_unlined (v.orElse (record []))
  rw [unlined_orElse] at hfields
  refine (congrArg (Except.map (Table.mapValues unlined)) hfields).trans ?_
  cases (v.orElse (record [])).fields with
  | error m => rfl
  | ok fs => exact congrArg Except.ok (mapValues_unlined_unlined fs)

section
variable {v v' w w' : Value} (hv : v.unlined = v'.unlined)
include hv

theorem fields_congr : v.fields.map (Table.mapValues unlined) =
    v'.fields.map (Table.mapValues unlined) := by
  rw [← fields_unlined, hv, fields_unlined]

variable (hw : w.unlined = w'.unlined)
include hw

theorem add_congr : (v.add w).map unlined = (v'.add w').map unlined := by
  rw [← add_unlined, hv, hw, add_unlined]

theorem mul_congr : (v.mul w).map unlined = (v'.mul w').map unlined := by
  rw [← mul_unlined, hv, hw, mul_unlined]

theorem movedBy_congr : (v.movedBy w).map unlined = (v'.movedBy w').map unlined := by
  rw [← movedBy_unlined, hv, hw, movedBy_unlined]

theorem largest_congr : (largest v w).map unlined = (largest v' w').map unlined := by
  rw [← largest_unlined, hv, hw, largest_unlined]

end

mutual

theorem spelled_unlined : ∀ v : Value, v.unlined.spelled = v.spelled.map unlined
  | flag _ => rfl
  | list items => by
    simp only [unlined_list, spelled]
    cases spelledItems items <;> rfl
  | record fs => by
    simp only [unlined, spelled, spelledFields_unlinedFields fs]
    cases spelledFields fs <;> rfl
  | nan _ | null | bool _ | int _ | float _ | text _ | bytes _ | moment _ | uid _ => by
    simp [unlined, spelled, Except.map]

theorem spelledFields_unlinedFields : ∀ fs : List (Value × Value),
    spelledFields (unlinedFields fs) = (spelledFields fs).map unlinedFields
  | [] => rfl
  | (k, v) :: rest => by
    simp only [unlinedFields, spelledFields, spelled_unlined v, spelledFields_unlinedFields rest]
    cases v.spelled with
    | error m => rfl
    | ok w => cases k <;> cases spelledFields rest <;> rfl

end

/-- What is made of fields may be the fields of a list of pairs, which is left as it is. -/
theorem toFields_unlined (v : Value) :
    v.unlined.toFields.map (Table.mapValues unlined) =
      v.toFields.map (Table.mapValues unlined) := by
  cases v with
  | record fs =>
    rw [unlined_record]
    exact congrArg Except.ok (mapValues_unlined_unlined fs)
  | _ => rfl

end Value

/-! ## Fields -/

theorem Fields.get?_unlined (key : String) (fs : Fields) :
    Fields.get? key (Table.mapValues Value.unlined fs) = (fs.get? key).map Value.unlined :=
  Table.get?_mapValues _ fs

@[simp] theorem Fields.get_unlined (key : String) (fs : Fields) :
    Fields.get key (Table.mapValues Value.unlined fs) = (fs.get key).unlined := by
  rw [get, get, get?_unlined]
  cases fs.get? key <;> rfl

theorem Fields.getD_unlined (key : String) (fs : Fields) {d : Value} (hd : d.unlined = d) :
    (Fields.get? key (Table.mapValues Value.unlined fs)).getD d =
      ((fs.get? key).getD d).unlined := by
  rw [get?_unlined]
  cases fs.get? key with
  | none => exact hd.symm
  | some v => rfl

theorem Fields.has_unlined (key : String) (fs : Fields) :
    Fields.has key (Table.mapValues Value.unlined fs) = fs.has key := by
  rw [has, has, get?_unlined, Option.isSome_map]

theorem Value.unlined_ofFields (fs : List (String × Value)) :
    (Value.ofFields fs).unlined = Value.ofFields (Table.mapValues Value.unlined fs) := by
  simp [ofFields, Table.mapValues]

theorem Except.map_bind_eq {ε α β γ : Type} (r : Except ε α) (g : α → β) (k : β → Except ε γ) :
    (r.map g >>= k) = r >>= fun a => k (g a) := by
  cases r <;> rfl

/-- What follows on results that look the same. -/
theorem map_bind_congr {ε α β γ δ : Type} {r r' : Except ε α} {k k' : α → Except ε β} {g : α → γ}
    {h : β → δ} (hr : r.map g = r'.map g)
    (hk : ∀ a a', g a = g a' → (k a).map h = (k' a').map h) :
    (r >>= k).map h = (r' >>= k').map h := by
  cases r with
  | error e => cases r' with
    | error e' => cases hr; rfl
    | ok a' => cases hr
  | ok a => cases r' with
    | error e' => cases hr
    | ok a' => exact hk a a' (Except.ok.inj hr)

/-- What follows on one and the same result. -/
theorem map_bind_congr_right {ε α β δ : Type} (r : Except ε α) {k k' : α → Except ε β} {h : β → δ}
    (hk : ∀ a, (k a).map h = (k' a).map h) : (r >>= k).map h = (r >>= k').map h :=
  map_bind_congr (g := id) rfl fun a a' (haa : a = a') => haa ▸ hk a

/-- Reading fields one after the other, where a step keeps to what is looked at. -/
theorem foldlM_map_of_step {α β ε : Type} {f : β → α → Except ε β} {g : β → β} {h : α → α}
    (hstep : ∀ b a, f (g b) (h a) = (f b a).map g) (as : List α) {b b' : β} (hb : b' = g b) :
    (as.map h).foldlM f b' = (as.foldlM f b).map g := by
  induction as generalizing b b' with
  | nil => exact congrArg Except.ok hb
  | cons a as ih =>
    rw [List.map_cons, List.foldlM_cons, List.foldlM_cons, hb, hstep]
    cases f b a with
    | error e => rfl
    | ok b => exact ih rfl

theorem mapM_map_of_step {α β ε : Type} {f : α → Except ε β} {g : β → β} {h : α → α}
    (hstep : ∀ a, f (h a) = (f a).map g) (as : List α) :
    (as.map h).mapM f = (as.mapM f).map (List.map g) := by
  induction as with
  | nil => rfl
  | cons a as ih =>
    rw [List.map_cons, List.mapM_cons, List.mapM_cons, hstep, ih]
    cases f a with
    | error e => rfl
    | ok b => cases as.mapM f <;> rfl

theorem Table.mapValues_ofEntries {κ α β : Type} [BEq κ] {g : α → β} (entries : List (κ × α)) :
    Table.mapValues g (Table.ofEntries entries) = Table.ofEntries (Table.mapValues g entries) := by
  have hmerge : ∀ t : Table κ α,
      Table.mapValues g (t.merge entries) =
        (Table.mapValues g t).merge (Table.mapValues g entries) := by
    induction entries with
    | nil => exact fun _ => rfl
    | cons e rest ih =>
      intro t
      exact (ih _).trans (congrArg (Table.merge · _) (Table.mapValues_put _ _ _))
  exact hmerge []

/-! ## Sessions -/

/-- The sprite without the lines that its numbers come from. -/
def Sprite.unlined (s : Sprite) : Sprite where
  filename := s.filename.unlined
  x := s.x.unlined
  y := s.y.unlined
  scale := s.scale.unlined
  flippedX := s.flippedX.unlined
  flippedY := s.flippedY.unlined

/-- The scene without the lines that its numbers come from. -/
def Scene.unlined (s : Scene) : Scene where
  background := s.background.unlined
  backgroundX := s.backgroundX.unlined
  backgroundY := s.backgroundY.unlined
  backgroundScale := s.backgroundScale.unlined
  sprites := Table.mapValues Sprite.unlined s.sprites
  spriteAliases := s.spriteAliases.unlined
  music := s.music.unlined
  musicLoop := s.musicLoop.unlined
  speaker := s.speaker.unlined
  speech := s.speech.unlined
  showSpeech := s.showSpeech.unlined
  speechbox := s.speechbox.unlined
  fadedOut := s.fadedOut.unlined

/-- The settings without the lines that their numbers come from. -/
def Overrides.unlined (o : Overrides) : Overrides where
  speechFont := o.speechFont.unlined
  speechFontSize := o.speechFontSize.unlined
  speakerFont := o.speakerFont.unlined
  speakerFontSize := o.speakerFontSize.unlined
  cinematicSeconds := o.cinematicSeconds.unlined
  cinematicInputAllowed := o.cinematicInputAllowed.unlined
  typewriterRate := o.typewriterRate.unlined
  typewriterCanSkip := o.typewriterCanSkip.unlined
  choiceboxOffsetX := o.choiceboxOffsetX.unlined
  choiceboxOffsetY := o.choiceboxOffsetY.unlined

/-- The snapshot without the lines that its numbers come from. -/
def Snapshot.unlined (t : Snapshot) : Snapshot :=
  { t with overrides := t.overrides.unlined, scene := t.scene.unlined }

namespace Sprite

theorem unlined_toValue (s : Sprite) : s.toValue.unlined = s.unlined.toValue :=
  Value.unlined_ofFields _

/-- A sprite that was put at a place. -/
theorem placed_congr {s t : Sprite} (h : s.unlined = t.unlined) {x x' y y' : Value}
    (hx : x.unlined = x'.unlined) (hy : y.unlined = y'.unlined) :
    ({ s with x, y } : Sprite).unlined = ({ t with x := x', y := y' } : Sprite).unlined :=
  congrArg₂ (fun (s : Sprite) (place : Value × Value) => { s with x := place.1, y := place.2 }) h
    (congrArg₂ Prod.mk hx hy)

theorem unlined_flip (s : Sprite) (horizontal : Bool) :
    (s.flip horizontal).unlined = s.unlined.flip horizontal := by
  cases horizontal <;> simp [flip, unlined]

theorem setField?_unlined (s : Sprite) (name : String) (v : Value) :
    s.unlined.setField? name v.unlined = (s.setField? name v).map unlined := by
  unfold setField?
  split <;> rfl

theorem ofValue_unlined (v : Value) : ofValue v.unlined = (ofValue v).map unlined := by
  cases v with
  | record fs =>
    simp only [Value.unlined_record, ofValue, Fields.has_unlined]
    split
    · rfl
    · refine foldlM_map_of_step (fun s e => ?_) fs rfl
      dsimp only
      cases e.1.text? with
      | none => rfl
      | some name =>
        simp only [Option.bind_some, setField?_unlined]
        cases s.setField? name e.2 <;> rfl
  | _ => rfl

end Sprite

namespace Scene

theorem unlined_toValue (s : Scene) : s.toValue.unlined = s.unlined.toValue := by
  have hsprites : (Value.record (Table.mapValues Sprite.toValue s.sprites)).unlined =
      .record (Table.mapValues Sprite.toValue (Table.mapValues Sprite.unlined s.sprites)) := by
    rw [Value.unlined_record, Table.mapValues_mapValues, Table.mapValues_mapValues]
    exact congrArg (fun f => Value.record (Table.mapValues f s.sprites))
      (funext Sprite.unlined_toValue)
  rw [toValue, Value.unlined_ofFields]
  simp only [Table.mapValues, toFields, List.map_cons, List.map_nil] at hsprites ⊢
  rw [hsprites]
  rfl

theorem unlined_setField (s : Scene) (name : String) (v : Value) :
    (s.setField name v).unlined = s.unlined.setField name v.unlined := by
  unfold setField
  split <;> rfl

theorem spritesOf_unlined (v : Value) :
    spritesOf v.unlined = (spritesOf v).map (Table.mapValues Sprite.unlined) := by
  have hempty : (Value.record []).unlined = .record [] := rfl
  unfold spritesOf
  rw [← hempty, ← Value.unlined_orElse, Value.fields_unlined, hempty]
  cases (v.orElse (.record [])).fields with
  | error m => rfl
  | ok fs =>
    have hread := mapM_map_of_step (f := fun e : Value × Value =>
      (do return (.text e.1.shown, ← Sprite.ofValue e.2) : Except Mishap (Value × Sprite)))
      (g := fun e => (e.1, e.2.unlined)) (h := fun e => (e.1, e.2.unlined)) (fun e => by
        simp only [Sprite.ofValue_unlined]
        cases Sprite.ofValue e.2 <;> rfl) fs
    have hentries (r : Except Mishap (List (Value × Sprite))) :
        (r.map (List.map fun e => (e.1, e.2.unlined)) >>= fun entries =>
          .ok (Table.ofEntries entries)) =
        (r >>= fun entries => .ok (Table.ofEntries entries)).map
          (Table.mapValues Sprite.unlined) := by
      cases r with
      | error m => rfl
      | ok entries => exact congrArg Except.ok (Table.mapValues_ofEntries entries).symm
    exact (congrArg (· >>= fun entries => .ok (Table.ofEntries entries)) hread).trans (hentries _)

/-- Fields of a scene are read one by one, whatever their lines. -/
theorem unlined_foldl_setField (fs : Fields) (s : Scene) :
    (fs.foldl (fun s e => setField s (e.1.text?.getD "") e.2) s).unlined =
      (Table.mapValues Value.unlined fs).foldl (fun s e => setField s (e.1.text?.getD "") e.2)
        s.unlined := by
  induction fs generalizing s with
  | nil => rfl
  | cons e fs ih =>
    refine (ih _).trans ?_
    rw [unlined_setField]
    rfl

theorem ofValue_unlined (v : Value) :
    (ofValue v.unlined).map unlined = (ofValue v).map unlined := by
  have hfields := Value.toFields_unlined (v.orElse (.record []))
  rw [Value.unlined_orElse] at hfields
  refine map_bind_congr hfields fun fs fs' hfs => ?_
  have hsprites : (spritesOf (fs.get "sprites")).map (Table.mapValues Sprite.unlined) =
      (spritesOf (fs'.get "sprites")).map (Table.mapValues Sprite.unlined) := by
    rw [← spritesOf_unlined, ← spritesOf_unlined, ← Fields.get_unlined, hfs, Fields.get_unlined]
  refine map_bind_congr hsprites fun sprites sprites' hsame => congrArg Except.ok ?_
  have hread : (fs.foldl (fun s e => setField s (e.1.text?.getD "") e.2) {}).unlined =
      (fs'.foldl (fun s e => setField s (e.1.text?.getD "") e.2) {}).unlined := by
    rw [unlined_foldl_setField, unlined_foldl_setField, hfs]
  exact congrArg₂ (fun read sprites => { read with sprites }) hread hsame

end Scene

namespace Overrides

theorem unlined_toValue (o : Overrides) : o.toValue.unlined = o.unlined.toValue :=
  Value.unlined_ofFields _

theorem unlined_setField (o : Overrides) (name : String) (v : Value) :
    (o.setField name v).unlined = o.unlined.setField name v.unlined := by
  unfold setField
  split <;> rfl

theorem unlined_foldl_setField (fs : Fields) (o : Overrides) :
    (fs.foldl (fun o e => setField o (e.1.text?.getD "") e.2) o).unlined =
      (Table.mapValues Value.unlined fs).foldl (fun o e => setField o (e.1.text?.getD "") e.2)
        o.unlined := by
  induction fs generalizing o with
  | nil => rfl
  | cons e fs ih =>
    refine (ih _).trans ?_
    rw [unlined_setField]
    rfl

theorem ofValue_unlined (v : Value) :
    (ofValue v.unlined).map unlined = (ofValue v).map unlined := by
  refine map_bind_congr (Value.fields_orElse_unlined v) fun fs fs' hfs => congrArg Except.ok ?_
  rw [unlined_foldl_setField, unlined_foldl_setField, hfs]

end Overrides

theorem Position.ofValue_unlined (v : Value) : ofValue v.unlined = ofValue v := by
  unfold ofValue
  rw [Value.fields_unlined, Except.map_bind_eq]
  simp only [Fields.getD_unlined _ _ (Value.unlined_text _), Value.shown_unlined,
    Fields.getD_unlined _ _ (Value.unlined_int _), Value.toInt_unlined]

theorem Flags.ofFields_unlined (fs : Fields) :
    ofFields (Table.mapValues Value.unlined fs) = ofFields fs := by
  simp only [ofFields, Table.mapValues, List.foldlM_map, setValue, Value.toInt_unlined]

namespace Snapshot

theorem choiceSetsOf_unlined (v : Value) : choiceSetsOf v.unlined = choiceSetsOf v := by
  have hoptions : ∀ w : Value, optionsOf w.unlined = optionsOf w := fun w => by
    simp only [optionsOf, Value.parts_unlined]
  have hfields := Value.fields_unlined (v.orElse (.record []))
  rw [Value.unlined_orElse] at hfields
  unfold choiceSetsOf
  rw [show v.unlined.orElse (.record []) = v.unlined.orElse (Value.unlined (.record [])) from rfl,
    hfields, Except.map_bind_eq]
  simp only [Table.mapValues, List.mapM_map, Function.comp_def, hoptions]

theorem ofValue_unlined (v : Value) :
    (ofValue v.unlined).map unlined = (ofValue v).map unlined := by
  have hfields : v.unlined.fields.map (Table.mapValues Value.unlined) =
      v.fields.map (Table.mapValues Value.unlined) := by
    rw [← Value.fields_unlined, ← Value.fields_unlined, Value.unlined_unlined]
  refine map_bind_congr hfields fun fs fs' hfs => ?_
  have hget : ∀ name, (fs.get name).unlined = (fs'.get name).unlined := fun name => by
    rw [← Fields.get_unlined, hfs, Fields.get_unlined]
  have hpart : ∀ name, ((fs.get name).orElse (.record [])).unlined =
      ((fs'.get name).orElse (.record [])).unlined := fun name => by
    rw [Value.unlined_orElse, hget, ← Value.unlined_orElse]
  have hscript : ((fs.get "script").orElse (.text "")).shown =
      ((fs'.get "script").orElse (.text "")).shown := by
    rw [← Value.shown_unlined, Value.unlined_orElse, hget, ← Value.unlined_orElse,
      Value.shown_unlined]
  have hcursor := congrArg Position.ofValue (hpart "cursor")
  have hflags := congrArg Value.fields (hpart "flags")
  have hoverrides := congrArg (fun v => (Overrides.ofValue v).map Overrides.unlined) (hpart "ui")
  have hscene := congrArg (fun v => (Scene.ofValue v).map Scene.unlined) (hpart "scene")
  have hsets := congrArg choiceSetsOf (hpart "choice_sets")
  have hversion : ((fs.get? "version").getD (.int 1)).toInt =
      ((fs'.get? "version").getD (.int 1)).toInt := by
    rw [← Value.toInt_unlined, ← Fields.getD_unlined _ _ rfl, hfs, Fields.getD_unlined _ _ rfl,
      Value.toInt_unlined]
  rw [Position.ofValue_unlined, Position.ofValue_unlined] at hcursor
  rw [Value.fields_unlined, Value.fields_unlined] at hflags
  rw [Overrides.ofValue_unlined, Overrides.ofValue_unlined] at hoverrides
  rw [Scene.ofValue_unlined, Scene.ofValue_unlined] at hscene
  rw [choiceSetsOf_unlined, choiceSetsOf_unlined] at hsets
  dsimp only
  rw [hscript, hcursor, hsets, hversion]
  refine map_bind_congr_right _ fun cursor => map_bind_congr hflags fun flags flags' hsame => ?_
  rw [← Flags.ofFields_unlined, hsame, Flags.ofFields_unlined]
  refine map_bind_congr_right _ fun flags => map_bind_congr hoverrides fun o o' ho => ?_
  refine map_bind_congr hscene fun scene scene' hsame => ?_
  refine map_bind_congr_right _ fun sets => map_bind_congr_right _ fun version => ?_
  exact congrArg Except.ok (congrArg₂ (fun overrides scene => Snapshot.mk _ _ _ overrides scene _ _)
    ho hsame)

theorem toValue_unlined (t : Snapshot) :
    t.unlined.toValue.map Value.unlined = t.toValue.map Value.unlined := by
  have hoverrides : t.unlined.overrides.toValue.spelled.map Value.unlined =
      t.overrides.toValue.spelled.map Value.unlined := by
    show t.overrides.unlined.toValue.spelled.map Value.unlined = _
    rw [← Overrides.unlined_toValue, Value.spelled_unlined]
    cases t.overrides.toValue.spelled <;> simp [Except.map]
  have hscene : t.unlined.scene.toValue.spelled.map Value.unlined =
      t.scene.toValue.spelled.map Value.unlined := by
    show t.scene.unlined.toValue.spelled.map Value.unlined = _
    rw [← Scene.unlined_toValue, Value.spelled_unlined]
    cases t.scene.toValue.spelled <;> simp [Except.map]
  refine map_bind_congr hoverrides fun o o' ho => map_bind_congr hscene fun s s' hs => ?_
  refine congrArg Except.ok ?_
  rw [Value.unlined_ofFields, Value.unlined_ofFields]
  simp only [Table.mapValues, List.map_cons, List.map_nil, ho, hs]
  rfl

end Snapshot

end VisualNovel
