import VisualNovel.Engine.Hosts
import VisualNovel.Proofs.Showings
import VisualNovel.Proofs.Stores

/-!
# What a window shows

A window that is shown a scene takes it over before it does anything else, and an intent that is
whole changes the scene before anything is loaded or played for it. So the scene of a window is a
function of what it was shown, whatever becomes of pictures, sounds and fonts: `Desk.prepare_makes`
and `Desk.apply_makes` hold however preparing and carrying out end.
-/

namespace VisualNovel

namespace Desk

variable {α β γ : Type}

/-- However the computation ends, a view of the window is what the function makes of it. -/
structure Makes (view : Window → γ) (f : γ → γ) (act : Attempt Desk α) : Prop where
  ends : ∀ d, Ends act d (fun _ d' => view d'.window = f (view d.window))
    fun _ d' => view d'.window = f (view d.window)

namespace Makes

variable {view : Window → γ} {x : Attempt Desk α} {k : α → Attempt Desk β} {f : γ → γ}

theorem eq (h : Makes view f x) (d : Desk) : view (x.perform d).2.window = f (view d.window) := by
  obtain ⟨hok, herror⟩ := Ends.iff_attempted.1 (h.ends d)
  rcases hrun : x.perform d with ⟨_ | _, d'⟩
  · exact herror _ _ hrun
  · exact hok _ _ hrun

protected theorem pure {a : α} : Makes view id (pure a) :=
  ⟨fun _ => rfl⟩

protected theorem throw {m : Mishap} : Makes view id (throw m : Attempt Desk α) :=
  ⟨fun _ => rfl⟩

protected theorem ofExcept {r : Except Mishap α} : Makes view id (Attempt.ofExcept r) :=
  ⟨fun _ => Ends.mk_pure_iff.2 ⟨fun _ _ => rfl, fun _ _ => rfl⟩⟩

protected theorem change {g : Window → Window} (h : ∀ w, view (g w) = f (view w)) :
    Makes view f (change g) :=
  ⟨fun d => h d.window⟩

protected theorem note {level : Level} {text : String} : Makes view id (note level text) :=
  ⟨fun _ => rfl⟩

theorem window : Makes view id window? :=
  ⟨fun _ => rfl⟩

protected theorem made {make : Toolkit → Except Mishap Surface} : Makes view id (made make) :=
  ⟨fun _ => Ends.mk_pure_iff.2 ⟨fun _ _ => rfl, fun _ _ => rfl⟩⟩

/-- What follows a look at the window sees the window. -/
theorem get_bind {k : Desk → Attempt Desk β} (h : ∀ d, Makes view f (k d)) :
    Makes view f (get >>= k) :=
  ⟨fun d => Ends.bind_iff.2 ((h d).ends d)⟩

/-- What was made of the view stays, if what follows leaves it as it is. -/
protected theorem bind (hx : Makes view f x) (hk : ∀ a, Makes view id (k a)) :
    Makes view f (x >>= k) := by
  refine ⟨fun d => Ends.bind_iff.2 ((hx.ends d).mono (fun a d₁ h₁ => ?_) fun _ _ h => h)⟩
  exact ((hk a).ends d₁).mono (fun _ _ h => h.trans h₁) fun _ _ h => h.trans h₁

/-- What comes first may leave the view as it is, if it cannot fail. -/
theorem after {a : α} (hx : ∀ d, Ends x d (fun b d' => b = a ∧ view d'.window = view d.window)
    fun _ _ => False) (hk : Makes view f (k a)) : Makes view f (x >>= k) := by
  refine ⟨fun d => Ends.bind_iff.2 ((hx d).mono ?_ fun _ _ h => h.elim)⟩
  rintro _ d₁ ⟨rfl, h₁⟩
  rw [← h₁]
  exact hk.ends d₁

protected theorem ite {p : Prop} [Decidable p] {y : Attempt Desk α} (hx : Makes view f x)
    (hy : Makes view f y) : Makes view f (if p then x else y) := by
  split
  · exact hx
  · exact hy

protected theorem discard (hx : Makes view f x) : Makes view f (discard x) :=
  ⟨fun d => Ends.discard_iff.2 (hx.ends d)⟩

protected theorem forM {xs : List α} {k : α → Attempt Desk PUnit} (hk : ∀ a, Makes view id (k a)) :
    Makes view id (xs.forM k) := by
  induction xs with
  | nil => exact .pure
  | cons x xs ih => exact (hk x).bind fun _ => ih

end Makes

/-! ## Pictures, sounds and fonts -/

/-- A view of a window in which nothing shows of what is loaded, played and drawn. -/
structure Unloaded (view : Window → γ) : Prop where
  missing : ∀ w missing, view { w with missing } = view w
  pictures : ∀ w pictures, view { w with pictures } = view w
  sounds : ∀ w audible sounds, view { w with audible, sounds } = view w
  marks : ∀ w marks, view { w with marks } = view w

section
variable {view : Window → γ}

theorem resolve_makes (name : Value) (suffixes : List String) :
    Makes view id (resolve name suffixes) :=
  .get_bind fun _ => .ofExcept

section
variable (hview : Unloaded view)
include hview

theorem miss_makes (name : Value) : Makes view id (miss name) := by
  refine .change fun w => ?_
  split
  · exact hview.missing w _
  · rfl

omit hview in
theorem loadPicture_makes (name : Value) : Makes view id (loadPicture name) := by
  unfold loadPicture
  refine (resolve_makes name pictureSuffixes).bind fun found => ?_
  cases found with
  | none => exact .pure
  | some p =>
    refine .get_bind fun d => ?_
    split
    · exact .pure
    · exact Makes.note.bind fun _ => .pure

omit hview in
theorem standIn_makes (name : Value) (extent : Int × Int) : Makes view id (standIn name extent) :=
  Makes.made.bind fun _ => Makes.window.bind fun _ => Makes.made.bind fun _ =>
    Makes.ofExcept.discard.bind fun _ => .pure

theorem picture_makes (name : Value) (extent : Int × Int) :
    Makes view id (picture name extent) := by
  unfold picture
  refine Makes.ofExcept.bind fun key => Makes.window.bind fun w => ?_
  have hkeep : ∀ surface : Surface, Makes view id (do
      change fun w => { w with pictures := Table.put key surface w.pictures }
      return surface) := fun _ => (Makes.change fun w => hview.pictures w _).bind fun _ => .pure
  cases Table.get? key w.pictures with
  | some _ => exact .pure
  | none =>
    refine (loadPicture_makes key).bind fun found => ?_
    cases found with
    | some surface => exact Makes.pure.bind hkeep
    | none => exact ((miss_makes hview key).bind fun _ => standIn_makes key extent).bind hkeep

omit hview in
theorem usableAt_makes (p : Files.Path) : Makes view id (usableAt p) := by
  refine .get_bind fun d => ?_
  split
  · exact .pure
  · exact .pure

theorem play_makes (name : Value) (loop : Option Bool) : Makes view id (play name loop) := by
  unfold play
  refine (resolve_makes name soundSuffixes).bind fun found => ?_
  cases found with
  | none => exact miss_makes hview name
  | some p =>
    refine Makes.window.bind fun w => ?_
    have hstart : Makes view id (change fun w => { w with audible := true }.sound .start) :=
      .change fun w => hview.sounds w _ _
    cases loop with
    | some loop =>
      have hplay : Makes view id (do
          if ← usableAt p then
            change fun w => (w.sound (.loadMusic p.text)).sound (.playMusic loop)
          else note .warning s!"audio unavailable for {p.text}") :=
        (usableAt_makes p).bind fun usable => .ite (.change fun w => hview.sounds w _ _) .note
      exact .ite (hstart.bind fun _ => hplay) hplay
    | none =>
      have hplay : Makes view id (do
          if ← usableAt p then change fun w => w.sound (.playSound p.text)
          else note .warning s!"audio unavailable for {p.text}") :=
        (usableAt_makes p).bind fun usable => .ite (.change fun w => hview.sounds w _ _) .note
      exact .ite (hstart.bind fun _ => hplay) hplay

end

theorem fontAt_makes (p : Files.Path) : Makes view id (fontAt p) := by
  refine .get_bind fun d => ?_
  dsimp only
  split
  · exact .pure
  · exact (usableAt_makes p).bind fun _ => .pure
  · exact .ite .pure .throw

theorem loadFont_makes (path size : Value) : Makes view id (loadFont path size) := by
  refine Makes.ofExcept.bind fun size => ?_
  dsimp only
  split
  · exact .pure
  · refine Makes.ofExcept.bind fun text => (fontAt_makes _).bind fun found => ?_
    rcases found with _ | _ | _
    · exact .pure
    · exact Makes.note.bind fun _ => .pure
    · exact .pure

end

/-! ## Scenes and intents -/

theorem scene_unloaded : Unloaded Window.scene :=
  ⟨fun _ _ => rfl, fun _ _ => rfl, fun _ _ _ => rfl, fun _ _ => rfl⟩

theorem changeScene_makes (f : Scene → Scene) : Makes Window.scene f (changeScene f) :=
  .change fun _ => rfl

theorem onScene_makes (act : Attempt Scene α) :
    Makes Window.scene (fun s => (act.perform s).2) (onScene act) :=
  ⟨fun _ => Ends.bind_iff.2 (Ends.bind_iff.2
    (Ends.mk_pure_iff.2 ⟨fun _ _ => rfl, fun _ _ => rfl⟩))⟩

/-- The font that an intent asks for is loaded. -/
theorem fontOf_makes {view : Window → γ} (i : Intent) (path size : String) :
    Makes view id (do
      if (i.get? path).isNone && (i.get? size).isNone then return none
      return some (← loadFont (i.get path) ((i.get size).orElse (.int 24))) :
        Attempt Desk (Option Font)) :=
  .ite .pure ((loadFont_makes _ _).bind fun _ => .pure)

theorem changeFont_makes {view : Window → γ} (i : Intent) (path size : String)
    {f : Font → Window → Window} (hview : ∀ font w, view (f font w) = view w) :
    Makes view id (do
      match ← (do
        if (i.get? path).isNone && (i.get? size).isNone then return none
        return some (← loadFont (i.get path) ((i.get size).orElse (.int 24))) :
          Attempt Desk (Option Font)) with
      | some font => change (f font)
      | none => pure ()) := by
  refine (fontOf_makes i path size).bind fun found => ?_
  cases found with
  | some font => exact .change (hview font)
  | none => exact .pure

/-- Fonts are loaded, and nothing else is changed. -/
theorem applyFonts_makes {view : Window → γ}
    (hview : ∀ w speechFont speakerFont, view { w with speechFont, speakerFont } = view w)
    (i : Intent) : Makes view id (applyFonts i) := by
  refine (fontOf_makes i _ _).bind fun speech => ?_
  have hspeaker := changeFont_makes i "speaker_font" "speaker_font_size"
    (f := fun font w => { w with speakerFont := font }) fun _ w => hview w _ _
  cases speech with
  | some _ => exact Makes.bind (.change fun w => hview w _ _) fun _ => hspeaker
  | none => exact hspeaker

/-- The options and where they stand are taken over, and nothing else is changed. -/
theorem showChoices_makes {view : Window → γ}
    (hview : ∀ w choices choiceOffset, view { w with choices, choiceOffset } = view w)
    (i : Intent) : Makes view id (showChoices i) :=
  Makes.ofExcept.bind fun _ => Makes.bind (.change fun w => hview w _ _) fun _ =>
    Makes.ofExcept.bind fun _ => .change fun w => hview w _ _

theorem ofExcept_ends {a : α} (d : Desk) {Q : α → Desk → Prop} {E : Mishap → Desk → Prop} :
    Ends (Attempt.ofExcept (.ok a)) d Q E ↔ Q a d :=
  Iff.rfl

/-- A part that is there is read. -/
theorem part_bind {i : Intent} (h : i.Whole) {key : String} (hkey : key ∈ i.kind.parts)
    {k : Value → Attempt Desk α} {f : Scene → Scene} (hk : Makes Window.scene f (k (i.get key))) :
    Makes Window.scene f (part i key >>= k) :=
  .after (fun d => by simp [part, h.required hkey, ofExcept_ends]) hk

theorem asKey_bind {i : Intent} (h : i.Whole) (hname : "name" ∈ i.kind.parts)
    {k : Value → Attempt Desk α} {f : Scene → Scene}
    (hk : Makes Window.scene f (k (i.get "name"))) :
    Makes Window.scene f (Attempt.ofExcept (i.get "name").asKey >>= k) :=
  .after (fun d => by simp [h.nameKey hname, ofExcept_ends]) hk

theorem changeNamed_makes {i : Intent} (h : i.Whole) (hname : "name" ∈ i.kind.parts)
    {act : Attempt Desk (Sprite → Sprite)} {g : Sprite → Sprite}
    (hact : ∀ d, Ends act d (fun f d' => f = g ∧ d' = d) fun _ _ => False) :
    Makes Window.scene (fun s => s.changeSprite (i.get "name") g) (changeNamed i act) := by
  refine part_bind h hname ⟨fun d => ?_⟩
  have hfound : Ends (spriteOf (i.get "name")) d
      (fun found d' => found = Table.get? (i.get "name") d.window.scene.sprites ∧ d' = d)
      fun _ _ => False := by
    simp [spriteOf, window?, h.nameKey hname, ofExcept_ends]
  refine Ends.bind_iff.2 (hfound.mono ?_ fun _ _ => False.elim)
  rintro _ _ ⟨rfl, rfl⟩
  split
  · next hnone => simp [Scene.changeSprite, Table.modify_of_get?_none hnone]
  · refine Ends.bind_iff.2 ((hact _).mono ?_ fun _ _ => False.elim)
    rintro _ _ ⟨rfl, rfl⟩
    exact rfl

theorem showSprite_makes {i : Intent} (h : i.Whole) (hkind : i.kind = .showSprite) :
    Makes Window.scene (Scene.putSprite (i.get "name")
      { filename := i.get "filename", x := i.get "x", y := i.get "y" }) (showSprite i) := by
  have hpart : ∀ {key : String}, key ∈ ["name", "filename", "x", "y"] → key ∈ i.kind.parts := by
    simp [hkind, IntentKind.parts]
  refine part_bind h (hpart (by simp)) (part_bind h (hpart (by simp)) (part_bind h (hpart (by simp))
    (part_bind h (hpart (by simp)) (asKey_bind h (hpart (by simp)) ?_))))
  exact (changeScene_makes _).bind fun _ => (picture_makes scene_unloaded _ _).discard

theorem removeSprite_makes {i : Intent} (h : i.Whole) (hname : "name" ∈ i.kind.parts) :
    Makes Window.scene (fun s => { s with sprites := Table.erase (i.get "name") s.sprites }) (do
      let name ← part i "name"
      if !(← window?).scene.sprites.isEmpty then
        let name ← Attempt.ofExcept name.asKey
        changeScene fun s => { s with sprites := Table.erase name s.sprites }) := by
  refine part_bind h hname ⟨fun d => Ends.bind_iff.2 ?_⟩
  by_cases hempty : d.window.scene.sprites = []
  · have hsame : { d.window.scene with
        sprites := Table.erase (i.get "name") d.window.scene.sprites } = d.window.scene := by
      rw [Table.erase_of_get?_none (by rw [hempty]; rfl)]
    simp only [hsame]
    simp [window?, hempty]
  · simp [window?, hempty, h.nameKey hname, ofExcept_ends, changeScene, change]

/-- However a window ends following an intent that is whole, it has changed its scene. -/
theorem follow_makes {i : Intent} (h : i.Whole) : Makes Window.scene (·.followed i) (follow i) := by
  obtain ⟨kind, payload, effectId⟩ := i
  have hpart : ∀ key ∈ kind.parts, Intent.required ⟨kind, payload, effectId⟩ key =
      .ok (Intent.get ⟨kind, payload, effectId⟩ key) := fun key hkey => h.required hkey
  cases kind with
  | showBackground => exact changeScene_makes _
  | showSprite => exact showSprite_makes h rfl
  | removeSprite => exact removeSprite_makes h (by simp [IntentKind.parts])
  | moveSprite | placeSprite =>
    refine changeNamed_makes h (by simp [IntentKind.parts]) fun d => ?_
    simp only [part, hpart "x" (by simp [IntentKind.parts]), hpart "y" (by simp [IntentKind.parts])]
    exact ⟨rfl, rfl⟩
  | flipSprite => exact changeNamed_makes h (by simp [IntentKind.parts]) fun _ => ⟨rfl, rfl⟩
  | scaleSprite =>
    refine changeNamed_makes h (by simp [IntentKind.parts]) fun d => ?_
    simp only [part, hpart "scale" (by simp [IntentKind.parts])]
    exact ⟨rfl, rfl⟩
  | moveBackground => exact onScene_makes _
  | scaleBackground => exact part_bind h (by simp [IntentKind.parts]) (changeScene_makes _)
  | fadeBegin => exact (changeScene_makes _).bind fun _ => .ite (.change fun _ => rfl) .pure
  | fadeEnd => exact .pure
  | playSound => exact Makes.ofExcept.bind fun _ => play_makes scene_unloaded _ _
  | playMusic => exact Makes.ofExcept.bind fun _ => play_makes scene_unloaded _ _
  | stopMusic =>
    show Makes Window.scene id (change fun w => if w.audible then w.sound .stopMusic else w)
    refine .change fun w => ?_
    split <;> rfl
  | showText => exact (changeScene_makes _).bind fun _ => .change fun _ => rfl
  | revealText => exact ⟨fun _ => rfl⟩
  | speechVisibility => exact changeScene_makes _
  | setSpeechbox => exact changeScene_makes _
  | uiOverride => exact applyFonts_makes (fun _ _ _ => rfl) _
  | showChoices => exact showChoices_makes (fun _ _ _ => rfl) _
  | clearChoices => exact ⟨fun _ => rfl⟩

theorem beginEffect_ends {i : Intent} (h : i.Whole) (hblocking : i.blocking) (d : Desk) :
    Ends (beginEffect i) d (fun u d' => u = () ∧ d'.window.scene = d.window.scene)
      fun _ _ => False := by
  have hkey : ((i.get? "name").getD (.text "")).asKey = .ok ((i.get? "name").getD (.text "")) := by
    simp [Value.asKey, h.name (.inl hblocking)]
  simp [beginEffect, spriteOf, window?, change, hkey, ofExcept_ends]

/-- However a window ends carrying out an intent that is whole, it has changed its scene. -/
theorem apply_makes {i : Intent} (h : i.Whole) : Makes Window.scene (·.followed i) (apply i) := by
  unfold apply
  split
  · next hblocking => exact .after (beginEffect_ends h hblocking) (follow_makes h)
  · exact follow_makes h

/-- However a window ends taking over a scene, it has it. -/
theorem prepare_makes (scene : Scene) : Makes Window.scene (fun _ => scene) (prepare scene) := by
  have hend : Makes Window.scene id (change fun w => { w with pendingReady := true }) :=
    .change fun _ => rfl
  have hmusic : Makes Window.scene id (do
      if scene.music.truthy then play scene.music (some scene.musicLoop.truthy)
      change fun w => { w with pendingReady := true }) :=
    .ite ((play_makes scene_unloaded _ _).bind fun _ => hend) hend
  have hpictures : Makes Window.scene id ((Table.values scene.sprites).forM fun s =>
      discard (picture s.filename spriteExtent)) :=
    .forM fun s => (picture_makes scene_unloaded s.filename spriteExtent).discard
  have hsprites : Makes Window.scene id (do
      (Table.values scene.sprites).forM fun s => discard (picture s.filename spriteExtent)
      if scene.music.truthy then play scene.music (some scene.musicLoop.truthy)
      change fun w => { w with pendingReady := true }) := hpictures.bind fun _ => hmusic
  unfold prepare
  refine Makes.bind (.change fun _ => rfl) fun _ => Makes.ite ?_ hsprites
  exact Makes.window.bind fun _ => (picture_makes scene_unloaded _ _).discard.bind fun _ => hsprites

/-! ## What does not show of a scene -/

/-- A view of a window in which nothing shows of the scene either, nor of how the scene is shown. -/
structure Unstaged (view : Window → γ) : Prop extends Unloaded view where
  scene : ∀ w scene, view { w with scene } = view w
  visibleText : ∀ w visibleText, view { w with visibleText } = view w
  veil : ∀ w veil, view { w with veil } = view w

section
variable {view : Window → γ} (hview : Unstaged view)
include hview

theorem changeScene_spares (f : Scene → Scene) : Makes view id (changeScene f) :=
  .change fun w => hview.scene w _

omit hview in
theorem part_spares (i : Intent) (key : String) : Makes view id (part i key) :=
  .ofExcept

omit hview in
theorem spriteOf_spares (name : Value) : Makes view id (spriteOf name) :=
  Makes.ofExcept.bind fun _ => Makes.window.bind fun _ => .pure

theorem changeNamed_spares (i : Intent) {act : Attempt Desk (Sprite → Sprite)}
    (hact : Makes view id act) : Makes view id (changeNamed i act) := by
  refine (part_spares i _).bind fun name => (spriteOf_spares name).bind fun found => ?_
  cases found with
  | none => exact .pure
  | some _ => exact hact.bind fun f => changeScene_spares hview _

theorem showSprite_spares (i : Intent) : Makes view id (showSprite i) :=
  (part_spares i _).bind fun _ => (part_spares i _).bind fun _ => (part_spares i _).bind fun _ =>
    (part_spares i _).bind fun _ => Makes.ofExcept.bind fun _ =>
      (changeScene_spares hview _).bind fun _ =>
        (picture_makes hview.toUnloaded _ _).discard

theorem onScene_spares (act : Attempt Scene α) : Makes view id (onScene act) := by
  refine .get_bind fun d => ?_
  dsimp only
  refine Makes.bind ⟨fun d => ?_⟩ fun _ => .ofExcept
  exact hview.scene d.window _

/-- The only intents that show in such a view are those of menus and fonts. -/
theorem follow_spares {i : Intent}
    (hmenu : i.kind ≠ .showChoices ∧ i.kind ≠ .clearChoices ∨
      ∀ w choices choiceOffset, view { w with choices, choiceOffset } = view w)
    (hfonts : i.kind ≠ .uiOverride ∨
      ∀ w speechFont speakerFont, view { w with speechFont, speakerFont } = view w) :
    Makes view id (follow i) := by
  obtain ⟨kind, payload, effectId⟩ := i
  have hplay := fun name loop => play_makes hview.toUnloaded name loop
  cases kind with
  | showBackground | speechVisibility | setSpeechbox =>
    unfold follow
    exact changeScene_spares hview _
  | showSprite => exact showSprite_spares hview _
  | removeSprite =>
    refine (part_spares _ _).bind fun name => Makes.window.bind fun w => .ite ?_ .pure
    exact Makes.ofExcept.bind fun _ => changeScene_spares hview _
  | moveSprite | placeSprite =>
    exact changeNamed_spares hview _
      ((part_spares _ _).bind fun _ => (part_spares _ _).bind fun _ => .pure)
  | flipSprite => exact changeNamed_spares hview _ .pure
  | scaleSprite => exact changeNamed_spares hview _ ((part_spares _ _).bind fun _ => .pure)
  | moveBackground =>
    unfold follow
    exact onScene_spares hview _
  | scaleBackground => exact (part_spares _ _).bind fun _ => changeScene_spares hview _
  | fadeBegin =>
    exact (changeScene_spares hview _).bind fun _ => .ite (.change fun w => hview.veil w _) .pure
  | fadeEnd => exact .pure
  | playSound => exact (part_spares _ _).bind fun name => hplay name _
  | playMusic => exact (part_spares _ _).bind fun name => hplay name _
  | stopMusic =>
    unfold follow
    refine .change fun w => ?_
    split
    · exact hview.sounds w _ _
    · rfl
  | showText =>
    exact (changeScene_spares hview _).bind fun _ => .change fun w => hview.visibleText w _
  | revealText =>
    unfold follow
    exact .change fun w => hview.visibleText w _
  | uiOverride => exact applyFonts_makes (hfonts.resolve_left fun h => h rfl) _
  | showChoices => exact showChoices_makes (hmenu.resolve_left fun h => h.1 rfl) _
  | clearChoices =>
    unfold follow
    exact .change fun w => (hmenu.resolve_left fun h => h.2 rfl) w [] w.choiceOffset

/-- A running effect does not show in such a view either. -/
theorem apply_spares
    (heffect : ∀ w effect effectStart effectFrom,
      view { w with effect, effectStart, effectFrom } = view w) {i : Intent}
    (hmenu : i.kind ≠ .showChoices ∧ i.kind ≠ .clearChoices ∨
      ∀ w choices choiceOffset, view { w with choices, choiceOffset } = view w)
    (hfonts : i.kind ≠ .uiOverride ∨
      ∀ w speechFont speakerFont, view { w with speechFont, speakerFont } = view w) :
    Makes view id (apply i) := by
  have hfollow := follow_spares hview hmenu hfonts
  refine .ite (Makes.bind ?_ fun _ => hfollow) hfollow
  exact Makes.bind (.change fun w => heffect w _ _ _) fun _ => (spriteOf_spares _).bind fun found =>
    .change fun w => heffect w _ _ _

theorem prepare_spares
    (htasks : ∀ w effect choices pendingReady,
      view { w with effect, choices, pendingReady } = view w) (scene : Scene) :
    Makes view id (prepare scene) := by
  have hempty : Makes view id (change fun w =>
      { w with scene, effect := none, choices := [], visibleText := scene.speech.orElse (.text "")
               veil := settledVeil scene }) := .change fun w => by
    let w₁ : Window := { w with effect := none, choices := [] }
    let w₂ : Window := { w₁ with scene, visibleText := scene.speech.orElse (.text "") }
    calc view { w₂ with veil := settledVeil scene } = view w₂ := hview.veil w₂ _
      _ = view { w₁ with scene } := hview.visibleText { w₁ with scene } _
      _ = view w₁ := hview.scene w₁ scene
      _ = view w := htasks w none [] w.pendingReady
  have hend : Makes view id (change fun w => { w with pendingReady := true }) :=
    .change fun w => htasks w w.effect w.choices true
  have hmusic : Makes view id (do
      if scene.music.truthy then play scene.music (some scene.musicLoop.truthy)
      change fun w => { w with pendingReady := true }) :=
    .ite ((play_makes hview.toUnloaded _ _).bind fun _ => hend) hend
  have hsprites : Makes view id (do
      (Table.values scene.sprites).forM fun s => discard (picture s.filename spriteExtent)
      if scene.music.truthy then play scene.music (some scene.musicLoop.truthy)
      change fun w => { w with pendingReady := true }) :=
    Makes.bind (.forM fun s => (picture_makes hview.toUnloaded _ _).discard) fun _ => hmusic
  unfold prepare
  refine hempty.bind fun _ => Makes.ite ?_ hsprites
  exact Makes.window.bind fun _ =>
    (picture_makes hview.toUnloaded _ _).discard.bind fun _ => hsprites

end

end Desk

end VisualNovel
