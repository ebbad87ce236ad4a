import Mathlib.Data.List.Induction
import VisualNovel.Proofs.Outcomes

/-!
# What a renderer is shown

A renderer is shown scenes to prepare and intents to carry out, one after the other. There are two
readings of an intent. `Scene.told` is that of the session, which changes its scene and sends the
intent, and `Scene.followed` is that of a window, which is sent the intent and changes a scene of
its own. They differ in one case: a sprite that is put on the screen again is a new sprite for the
window, while the session keeps the size of the old one and the way it is turned.

So whatever the readings begin with, they agree on all but the sizes and turns of sprites
(`Scene.told_outline_eq`), and on those too as long as no sprite is put on the screen again that was
scaled or turned (`Showing.scene_eq_of_gentle`).
-/

namespace VisualNovel

/-- What a renderer is shown. -/
inductive Showing where
  | prepared (scene : Scene)
  | sent (i : Intent)

/-! ## Intents that are whole -/

/-- The parts that an intent of a kind has to have. -/
def IntentKind.parts : IntentKind → List String
  | .showSprite => ["name", "filename", "x", "y"]
  | .removeSprite | .flipSprite => ["name"]
  | .moveSprite | .placeSprite => ["name", "x", "y"]
  | .scaleSprite => ["name", "scale"]
  | .scaleBackground => ["scale"]
  | _ => []

/-- The intent has its parts, and what it names can be the name of a sprite. -/
structure Intent.Whole (i : Intent) : Prop where
  parts : ∀ key ∈ i.kind.parts, (i.get? key).isSome
  name : i.blocking ∨ "name" ∈ i.kind.parts → ((i.get? "name").getD (.text "")).canBeKey

theorem Intent.Whole.required {i : Intent} (h : i.Whole) {key : String}
    (hkey : key ∈ i.kind.parts) : i.required key = .ok (i.get key) := by
  obtain ⟨v, hv⟩ := Option.isSome_iff_exists.1 (h.parts key hkey)
  simp [Intent.required, Intent.get, hv]

theorem Intent.Whole.nameKey {i : Intent} (h : i.Whole) (hname : "name" ∈ i.kind.parts) :
    (i.get "name").asKey = .ok (i.get "name") := by
  obtain ⟨v, hv⟩ := Option.isSome_iff_exists.1 (h.parts "name" hname)
  have hkey : v.canBeKey := by simpa [hv] using h.name (.inr hname)
  simp [Intent.get, hv, Value.asKey, hkey]

/-- An intent that says nothing of a scene is whole, unless it starts an effect. -/
theorem Intent.Whole.of_not_scenic {i : Intent} (hkind : i.kind.scenic = false)
    (hid : i.effectId = none) : i.Whole := by
  have hparts : i.kind.parts = [] := by
    unfold IntentKind.parts
    split
    all_goals first
      | rfl
      | simp_all [IntentKind.scenic]
  exact ⟨by simp [hparts], by simp [hparts, Intent.blocking, hid]⟩

/-! ## Two readings of an intent -/

namespace Scene

/-- Puts a sprite on the screen. -/
def putSprite (name : Value) (sprite : Sprite) (s : Scene) : Scene :=
  { s with sprites := Table.put name sprite s.sprites }

/-- The scene of a window after an intent. -/
def followed (s : Scene) (i : Intent) : Scene :=
  match i.kind with
  | .showBackground =>
    { s with background := i.get "filename", backgroundX := .float 0.0, backgroundY := .float 0.0
             backgroundScale := .float 1.0 }
  | .showSprite =>
    s.putSprite (i.get "name") { filename := i.get "filename", x := i.get "x", y := i.get "y" }
  | .removeSprite => { s with sprites := Table.erase (i.get "name") s.sprites }
  | .moveSprite | .placeSprite =>
    s.changeSprite (i.get "name") fun p => { p with x := i.get "x", y := i.get "y" }
  | .flipSprite =>
    s.changeSprite (i.get "name") fun p => p.flip ((i.get? "horizontal").getD (.bool true)).truthy
  | .scaleSprite => s.changeSprite (i.get "name") fun p => { p with scale := i.get "scale" }
  | .moveBackground =>
    ((drag (i.required "dx") (i.required "dy") (i.required "parallax")).perform s).2
  | .scaleBackground => { s with backgroundScale := i.get "scale" }
  | .fadeBegin => { s with fadedOut := .bool ((i.get "direction").equal (.text "out")) }
  | .showText => { s with speaker := i.get "speaker", speech := i.get "text" }
  | .speechVisibility => { s with showSpeech := .bool (i.get "visible").truthy }
  | .setSpeechbox => { s with speechbox := i.get "filename" }
  | _ => s

/-- The scene of a session after an intent. -/
def told (s : Scene) (i : Intent) : Scene :=
  match i.kind, Table.get? (i.get "name") s.sprites with
  | .showSprite, some p =>
    s.putSprite (i.get "name")
      { p with filename := i.get "filename", x := i.get "x", y := i.get "y" }
  | _, _ => s.followed i

theorem told_of_kind {s : Scene} {i : Intent} (h : i.kind ≠ .showSprite) :
    s.told i = s.followed i := by
  unfold told
  split
  · next hkind _ => exact absurd hkind h
  · rfl

theorem told_of_present {s : Scene} {i : Intent} {p : Sprite} (hkind : i.kind = .showSprite)
    (h : Table.get? (i.get "name") s.sprites = some p) :
    s.told i = s.putSprite (i.get "name")
      { p with filename := i.get "filename", x := i.get "x", y := i.get "y" } := by
  simp only [told, hkind, h]

theorem told_of_absent {s : Scene} {i : Intent} (h : Table.get? (i.get "name") s.sprites = none) :
    s.told i = s.followed i := by
  unfold told
  split
  · next hsome => simp [h] at hsome
  · rfl

theorem followed_of_showSprite {s : Scene} {i : Intent} (hkind : i.kind = .showSprite) :
    s.followed i = s.putSprite (i.get "name")
      { filename := i.get "filename", x := i.get "x", y := i.get "y" } := by
  simp only [followed, hkind]

/-- An intent that says nothing of a scene changes nothing of one. -/
theorem told_of_not_scenic {s : Scene} {i : Intent} (h : i.kind.scenic = false) : s.told i = s := by
  rw [told_of_kind (by rintro hkind; simp [hkind, IntentKind.scenic] at h)]
  unfold followed
  split
  all_goals first
    | rfl
    | simp_all [IntentKind.scenic]

end Scene

/-! ## What is looked at -/

namespace Table

variable {κ α β : Type} [BEq κ] {f : α → α} {g : α → β}

theorem get?_mapValues (key : κ) (t : Table κ α) :
    get? key (mapValues g t) = (get? key t).map g := by
  induction t with
  | nil => rfl
  | cons e t ih =>
    obtain ⟨k, v⟩ := e
    show get? key ((k, g v) :: mapValues g t) = _
    unfold get?
    split
    · rfl
    · exact ih

theorem mapValues_put (key : κ) (v : α) (t : Table κ α) :
    mapValues g (put key v t) = put key (g v) (mapValues g t) := by
  induction t with
  | nil => rfl
  | cons e t ih =>
    obtain ⟨k, w⟩ := e
    show mapValues g (put key v ((k, w) :: t)) = put key (g v) ((k, g w) :: mapValues g t)
    unfold put
    split
    · rfl
    · exact congrArg ((k, g w) :: ·) ih

omit [BEq κ] in
theorem mapValues_mapValues {γ : Type} (f : α → γ) (g : γ → β) (t : Table κ α) :
    mapValues g (mapValues f t) = mapValues (g ∘ f) t := by
  simp [mapValues, Function.comp_def]

theorem mapValues_erase (key : κ) (t : Table κ α) :
    mapValues g (erase key t) = erase key (mapValues g t) := by
  simp [mapValues, erase, List.filter_map, Function.comp_def]

theorem modify_of_get?_none {h : α → α} {key : κ} {t : Table κ α} (hkey : get? key t = none) :
    modify key h t = t := by
  induction t with
  | nil => rfl
  | cons e rest ih =>
    unfold modify at ih ⊢
    by_cases hk : e.1 == key
    · simp [get?, hk] at hkey
    · simp only [get?, hk, Bool.false_eq_true, if_false] at hkey
      simp [hk, ih hkey]

/-- A change of a value that `g` sees alike, whether `f` was done before or not. -/
theorem mapValues_modify {h : α → α} {h' : α → α} (hh : ∀ v, g (h' (f v)) = g (h v))
    (hf : ∀ v, g (f v) = g v) (key : κ) (t : Table κ α) :
    mapValues g (modify key h' (mapValues f t)) = mapValues g (modify key h t) := by
  simp only [mapValues, modify, List.map_map]
  refine List.map_congr_left fun e _ => ?_
  simp only [Function.comp_apply]
  split
  · simp [hh]
  · simp [hf]

end Table

/-- What is looked at of a sprite: all of it, or all but its size and the way it is turned. -/
def Sprite.seen (shapes : Bool) (p : Sprite) : Sprite :=
  if shapes then p else { p with scale := .null, flippedX := .null, flippedY := .null }

namespace Sprite

variable (shapes : Bool) (p : Sprite)

@[simp] theorem seen_idem : (p.seen shapes).seen shapes = p.seen shapes := by
  cases shapes <;> rfl

@[simp] theorem seen_x : (p.seen shapes).x = p.x := by
  cases shapes <;> rfl

@[simp] theorem seen_y : (p.seen shapes).y = p.y := by
  cases shapes <;> rfl

theorem seen_comp : Sprite.seen shapes ∘ Sprite.seen shapes = Sprite.seen shapes :=
  funext fun p => p.seen_idem shapes

theorem seen_flip (horizontal : Bool) :
    ((p.seen shapes).flip horizontal).seen shapes = (p.flip horizontal).seen shapes := by
  cases shapes <;> cases horizontal <;> rfl

end Sprite

namespace Scene

/-- What intents can tell of a scene, with all of the sprites or without their shapes. -/
def seen (shapes : Bool) (s : Scene) : Scene :=
  { s with sprites := Table.mapValues (Sprite.seen shapes) s.sprites, spriteAliases := .null
           music := .null, musicLoop := .null, speaker := .null }

variable (shapes : Bool) (s : Scene) (i : Intent)

theorem seen_idem : (s.seen shapes).seen shapes = s.seen shapes := by
  simp [seen, Table.mapValues_mapValues, Sprite.seen_comp]

theorem seen_changeSprite {g : Sprite → Sprite}
    (hg : ∀ p, (g (p.seen shapes)).seen shapes = (g p).seen shapes) (name : Value) :
    ((s.seen shapes).changeSprite name g).seen shapes = (s.changeSprite name g).seen shapes := by
  simp only [seen, changeSprite]
  rw [Table.mapValues_modify hg (Sprite.seen_idem shapes)]

theorem dragStep_oblivious {g : Scene → Scene} {value : Scene → Option Value}
    {distance : Except Mishap Value} {put : Value → Scene → Scene}
    (hvalue : ∀ s, value (g s) = value s) (hput : ∀ v s, put v (g s) = g (put v s)) :
    Oblivious g (dragStep value distance put) := by
  refine .get_bind (fun s => by rw [hvalue]) fun s => ?_
  split
  · exact .pure
  · split
    · exact .modify fun s => hput _ s
    · exact .throw

/-- A background is moved alike, whatever is looked at. -/
theorem drag_oblivious (dx dy parallax : Except Mishap Value) :
    Oblivious (seen shapes) (drag dx dy parallax) := by
  have hvalue : ∀ part : Sprite → Value, (∀ p : Sprite, part (p.seen shapes) = part p) →
      ∀ name s, (Table.get? name (seen shapes s).sprites).map part =
        (Table.get? name s.sprites).map part := by
    intro part hpart name s
    simp [seen, Table.get?_mapValues, Function.comp_def, hpart]
  have hput : ∀ put : Value → Sprite → Sprite,
      (∀ v (p : Sprite), (put v p).seen shapes = put v (p.seen shapes)) → ∀ name v s,
      changeSprite name (put v) (seen shapes s) = seen shapes (changeSprite name (put v) s) := by
    intro put hput name v s
    simp only [seen, changeSprite, Table.modify, Table.mapValues, List.map_map, Function.comp_def]
    congr 1
    refine List.map_congr_left fun e _ => ?_
    split
    · simp [hput]
    · rfl
  refine .bind (dragStep_oblivious (fun _ => rfl) fun _ _ => rfl) fun _ => ?_
  refine .bind (dragStep_oblivious (fun _ => rfl) fun _ _ => rfl) fun _ => ?_
  refine .get_bind (fun s => by simp [seen, Table.keys, Table.mapValues]) fun s => ?_
  refine .forM fun name => ?_
  refine Oblivious.bind (dragStep_oblivious (hvalue _ (Sprite.seen_x shapes) name) ?_) fun _ =>
    dragStep_oblivious (hvalue _ (Sprite.seen_y shapes) name) ?_
  · exact hput (fun v p => { p with x := v }) (fun v p => by cases shapes <;> rfl) name
  · exact hput (fun v p => { p with y := v }) (fun v p => by cases shapes <;> rfl) name

theorem followed_seen :
    ((s.seen shapes).followed i).seen shapes = (s.followed i).seen shapes := by
  have hchange : ∀ g : Sprite → Sprite,
      (∀ p, (g (p.seen shapes)).seen shapes = (g p).seen shapes) →
      ((s.seen shapes).changeSprite (i.get "name") g).seen shapes =
        (s.changeSprite (i.get "name") g).seen shapes := fun g hg =>
    seen_changeSprite shapes s hg _
  unfold followed
  cases i.kind with
  | showSprite =>
    simp [seen, putSprite, Table.mapValues_put, Table.mapValues_mapValues, Sprite.seen_comp]
  | removeSprite =>
    simp [seen, Table.mapValues_erase, Table.mapValues_mapValues, Sprite.seen_comp]
  | moveSprite | placeSprite | scaleSprite => exact hchange _ fun p => by cases shapes <;> rfl
  | flipSprite => exact hchange _ fun p => p.seen_flip shapes _
  | moveBackground =>
    have hdrag := drag_oblivious shapes (i.required "dx") (i.required "dy")
      (i.required "parallax") s
    dsimp only
    rw [Attempt.perform, hdrag]
    exact seen_idem shapes _
  | _ => simp [seen, Table.mapValues_mapValues, Sprite.seen_comp]

theorem told_seen : ((s.seen shapes).told i).seen shapes = (s.told i).seen shapes := by
  by_cases hkind : i.kind = .showSprite
  · have hget : Table.get? (i.get "name") (s.seen shapes).sprites =
        (Table.get? (i.get "name") s.sprites).map (Sprite.seen shapes) := Table.get?_mapValues _ _
    cases hfound : Table.get? (i.get "name") s.sprites with
    | none =>
      rw [told_of_absent hfound, told_of_absent (by simp [hget, hfound]), followed_seen]
    | some p =>
      rw [told_of_present hkind hfound, told_of_present hkind (by rw [hget, hfound]; rfl)]
      have hp : ∀ v x y : Value,
          Sprite.seen shapes { p.seen shapes with filename := v, x, y } =
            Sprite.seen shapes { p with filename := v, x, y } := by
        intro v x y
        cases shapes <;> rfl
      simp [seen, putSprite, Table.mapValues_put, Table.mapValues_mapValues, Sprite.seen_comp, hp]
  · rw [told_of_kind hkind, told_of_kind hkind, followed_seen]

/-- A scene without the shapes of its sprites. -/
abbrev outline : Scene → Scene :=
  seen false

theorem sprites_seen : (s.seen true).sprites = s.sprites := by
  simp [seen, Sprite.seen, Table.mapValues]

theorem outline_seen : (s.seen true).outline = s.outline := by
  have hall : Sprite.seen false ∘ Sprite.seen true = Sprite.seen false := rfl
  simp [seen, Table.mapValues_mapValues, hall]

/-- The two readings agree on all but the shapes of sprites. -/
theorem told_outline : (s.told i).outline = (s.followed i).outline := by
  by_cases hkind : i.kind = .showSprite
  · cases hfound : Table.get? (i.get "name") s.sprites with
    | none => rw [told_of_absent hfound]
    | some p =>
      rw [told_of_present hkind hfound, followed_of_showSprite hkind]
      simp [seen, putSprite, Table.mapValues_put, Sprite.seen]
  · rw [told_of_kind hkind]

/-- Scenes of one outline have one outline after an intent, each by its own reading. -/
theorem told_outline_eq {s t : Scene} (h : s.outline = t.outline) (i : Intent) :
    (s.told i).outline = (t.followed i).outline :=
  calc (s.told i).outline = (s.followed i).outline := s.told_outline i
    _ = (s.outline.followed i).outline := (followed_seen false s i).symm
    _ = (t.outline.followed i).outline := by rw [h]
    _ = (t.followed i).outline := followed_seen false t i

/-! ## Scenes that mirror one another -/

/-- Two scenes agree on the background, on the sprites in the order in which they are drawn, with
their pictures and places, on speech and its box, and on whether the screen is dark. -/
structure Mirrors (s t : Scene) : Prop where
  background : t.background = s.background
  backgroundX : t.backgroundX = s.backgroundX
  backgroundY : t.backgroundY = s.backgroundY
  backgroundScale : t.backgroundScale = s.backgroundScale
  sprites : t.sprites.map (fun e => (e.1, e.2.filename, e.2.x, e.2.y)) =
    s.sprites.map fun e => (e.1, e.2.filename, e.2.x, e.2.y)
  speech : t.speech = s.speech
  showSpeech : t.showSpeech = s.showSpeech
  speechbox : t.speechbox = s.speechbox
  fadedOut : t.fadedOut = s.fadedOut

variable {s} {t : Scene}

theorem Mirrors.of_outline_eq (h : s.outline = t.outline) : s.Mirrors t := by
  have hsprites := congrArg (fun u : Scene => u.sprites.map fun e =>
    (e.1, e.2.filename, e.2.x, e.2.y)) h
  simp only [seen, Table.mapValues, List.map_map, Function.comp_def, Sprite.seen,
    Bool.false_eq_true, if_false] at hsprites
  exact ⟨(congrArg Scene.background h).symm, (congrArg Scene.backgroundX h).symm,
    (congrArg Scene.backgroundY h).symm, (congrArg Scene.backgroundScale h).symm, hsprites.symm,
    (congrArg Scene.speech h).symm, (congrArg Scene.showSpeech h).symm,
    (congrArg Scene.speechbox h).symm, (congrArg Scene.fadedOut h).symm⟩

end Scene

/-! ## Rows of showings -/

namespace Showing

/-- The scene after showings, by one of the readings. -/
def scene (read : Scene → Intent → Scene) (showings : List Showing) : Scene :=
  showings.foldl (fun s shown => match shown with
    | prepared scene => scene
    | sent i => read s i) {}

variable {read : Scene → Intent → Scene} {showings : List Showing}

@[simp] theorem scene_prepared (s : Scene) : scene read (showings ++ [prepared s]) = s := by
  simp [scene]

@[simp] theorem scene_sent (i : Intent) :
    scene read (showings ++ [sent i]) = read (scene read showings) i := by
  simp [scene]

/-- Since a scene was last prepared, no sprite was put on the screen again that was scaled or turned
at the time. -/
def Gentle (showings : List Showing) : Prop :=
  ∀ before i after p, showings = before ++ sent i :: after → (∀ s, prepared s ∉ after) →
    i.kind = .showSprite →
    Table.get? (i.get "name") (scene Scene.told before).sprites = some p →
    p.scale = .float 1.0 ∧ p.flippedX = .bool false ∧ p.flippedY = .bool false

/-- Gentle showings are read in one way. -/
theorem scene_eq_of_gentle (h : Gentle showings) :
    scene Scene.told showings = scene Scene.followed showings := by
  induction showings using List.reverseRecOn with
  | nil => rfl
  | append_singleton before shown ih =>
    cases shown with
    | prepared s => simp
    | sent i =>
      have hbefore : scene Scene.told before = scene Scene.followed before := by
        refine ih fun b j after p hsplit hafter => h b j (after ++ [sent i]) p ?_ (by simpa)
        rw [hsplit, List.append_assoc, List.cons_append]
      rw [scene_sent, scene_sent, ← hbefore]
      by_cases hkind : i.kind = .showSprite
      · cases hfound : Table.get? (i.get "name") (scene Scene.told before).sprites with
        | none => exact Scene.told_of_absent hfound
        | some p =>
          obtain ⟨hscale, hx, hy⟩ := h before i [] p rfl (by simp) hkind hfound
          rw [Scene.told_of_present hkind hfound, Scene.followed_of_showSprite hkind, hscale, hx,
            hy]
      · exact Scene.told_of_kind hkind

end Showing

end VisualNovel
