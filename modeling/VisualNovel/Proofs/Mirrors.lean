import VisualNovel.Proofs.Regards
import VisualNovel.Proofs.Strictness
import VisualNovel.Proofs.Windows

/-!
# The scene of the window and the scene of the session

The session changes its scene and sends intents; the window changes a scene of its own when it gets
them. After every call the two agree on backgrounds, on sprites, their pictures and places, on
speech and on fading (`Viewing.mirrors`), unless a snapshot was taken over that the window was never
asked to prepare (`Viewing.mirrors_not_always`).

They need not agree on the sizes of sprites and on the way they are turned. Each is what one reading
of the showings says (`Viewing.shapes_read`), and the readings differ if a sprite that was scaled or
turned is put on the screen again (`Viewing.turned_back`).
-/

namespace VisualNovel

open Script

variable {σ : Type}

/-! ## Collaborators around a window -/

/-- Only the surroundings have changed, and the view is the same. -/
def Overlooks {β : Type} (view : σ → β) (e e' : Engine σ) : Prop :=
  Within e e' ∧ view e'.outside = view e.outside

/-- The window after an attempt, however that ends. -/
def Window.having (act : Attempt Desk Unit) (disk : Disk) (w : Window) : Window :=
  (act.perform { window := w, disk }).2.window

/-- The renderer is a window, and the others leave the scene of the window alone. Nobody calls the
engine back. -/
structure Collaborators.Renders (c : Collaborators σ) (place : Place σ Window) : Prop where
  prepare : ∀ scene, Tracks (fun e e' => Within e e' ∧ place.get e'.outside =
    (place.get e.outside).having (Desk.prepare scene) e.stage.disk) (c.prepare scene)
  apply : ∀ i, Tracks (fun e e' => Within e e' ∧ place.get e'.outside =
    (place.get e.outside).having (Desk.apply i) e.stage.disk) (c.apply (some i))
  showError : ∀ text, Tracks (Overlooks fun o => (place.get o).scene) (c.showError text)
  deliver : ∀ id event, Tracks (Overlooks fun o => (place.get o).scene) (c.deliver id event)
  systemCall : ∀ args, Tracks (Overlooks fun o => (place.get o).scene) (c.systemCall args)
  finished : Tracks (Overlooks fun o => (place.get o).scene) c.finished

/-- Somebody keeps a record of what the renderer is shown. -/
structure Collaborators.Records (c : Collaborators σ) (record : σ → List Showing) : Prop where
  prepare : ∀ scene, Tracks (fun e e' => record e'.outside = record e.outside ++ [.prepared scene])
    (c.prepare scene)
  apply : ∀ i, Tracks (fun e e' => record e'.outside = record e.outside ++ [.sent i])
    (c.apply (some i))
  showError : ∀ text, Tracks (Overlooks record) (c.showError text)
  deliver : ∀ id event, Tracks (Overlooks record) (c.deliver id event)
  systemCall : ∀ args, Tracks (Overlooks record) (c.systemCall args)
  finished : Tracks (Overlooks record) c.finished

namespace Overlooks

variable {β γ : Type} {view : σ → β} {view' : σ → γ} {e e' : Engine σ}

instance : IsPreorder (Engine σ) (Overlooks view) where
  refl e := ⟨refl_of Within e, rfl⟩
  trans _ _ _ h h' := ⟨trans_of Within h.1 h'.1, h'.2.trans h.2⟩

theorem incidental : Incidental (Overlooks view) where
  disk e d := ⟨Within.unconcerned.disk e d, rfl⟩
  saves e saves := ⟨Within.unconcerned.saves e saves, rfl⟩

theorem beside (h : Overlooks view e e') (J : Scene → β → Prop) :
    Beside (fun s o => J s (view o)) e e' := by
  refine ⟨h.1, fun s hs => ?_⟩
  show J s (view e'.outside)
  rw [h.2]
  exact hs

theorem both (h : Overlooks view e e') (h' : Overlooks view' e e') :
    Overlooks (fun o => (view o, view' o)) e e' :=
  ⟨h.1, Prod.ext h.2 h'.2⟩

end Overlooks

theorem Window.having_scene {act : Attempt Desk Unit} {f : Scene → Scene}
    (h : Desk.Makes scene f act)
    (disk : Disk) (w : Window) : (w.having act disk).scene = f w.scene :=
  h.eq _

/-- The sprites of a scene with their sizes and the ways they are turned. -/
def Scene.shapes (s : Scene) : List (Value × Value × Value × Value) :=
  s.sprites.map fun e => (e.1, e.2.scale, e.2.flippedX, e.2.flippedY)

theorem Scene.shapes_of_seen {s s' : Scene} (h : s'.seen true = s.seen true) :
    s'.shapes = s.shapes := by
  rw [shapes, ← sprites_seen s', h, sprites_seen]
  rfl

/-- The scenes have one outline, and no two sprites share a name. -/
structure Outlines (s view : Scene) : Prop where
  distinct : Table.Distinct s.sprites
  outline : s.outline = view.outline

/-- The scene is what the session's reading of the showings says, and the window's scene what the
window's reading says. -/
structure Reads (s : Scene) (view : Scene × List Showing) : Prop where
  distinct : Table.Distinct s.sprites
  told : s.seen true = (Showing.scene Scene.told view.2).seen true
  followed : view.1 = Showing.scene Scene.followed view.2

namespace Collaborators

variable {c : Collaborators σ} {place : Place σ Window} {record : σ → List Showing}

/-- Collaborators around a window know the outline of the scene of the session. -/
theorem Renders.outlines (hc : c.Renders place) :
    c.Regards fun s o => Outlines s (place.get o).scene where
  looks {s s' o} hseen h := by
    have houtline := congrArg Scene.outline hseen
    rw [Scene.outline_seen, Scene.outline_seen] at houtline
    exact ⟨Scene.distinct_of_seen hseen h.distinct, houtline.trans h.outline⟩
  distinct h := h.distinct
  prepare scene hdistinct e := by
    obtain ⟨hwithin, hwindow⟩ := hc.prepare scene e
    refine ⟨hwithin, hdistinct, ?_⟩
    rw [hwindow, Window.having_scene (Desk.prepare_makes scene)]
  apply i hi e := by
    obtain ⟨hwithin, hwindow⟩ := hc.apply i e
    refine ⟨hwithin, fun s h => ⟨Scene.told_distinct h.distinct i, ?_⟩⟩
    rw [hwindow, Window.having_scene (Desk.apply_makes hi)]
    exact Scene.told_outline_eq h.outline i
  showError text e := (hc.showError text e).beside Outlines
  deliver id event e := (hc.deliver id event e).beside Outlines
  systemCall args e := (hc.systemCall args e).beside Outlines
  finished e := (hc.finished e).beside Outlines

/-- Collaborators that keep a record of what a window is shown know both readings of it. -/
theorem Renders.reads (hc : c.Renders place) (hrecord : c.Records record) :
    c.Regards fun s o => Reads s ((place.get o).scene, record o) where
  looks hseen h := ⟨Scene.distinct_of_seen hseen h.distinct, hseen.trans h.told, h.followed⟩
  distinct h := h.distinct
  prepare scene hdistinct e := by
    obtain ⟨hwithin, hwindow⟩ := hc.prepare scene e
    refine ⟨hwithin, hdistinct, ?_, ?_⟩
    · simp [hrecord.prepare scene e]
    · simp [hrecord.prepare scene e, hwindow, Window.having_scene (Desk.prepare_makes scene)]
  apply i hi e := by
    obtain ⟨hwithin, hwindow⟩ := hc.apply i e
    refine ⟨hwithin, fun s h => ⟨Scene.told_distinct h.distinct i, ?_, ?_⟩⟩
    · rw [hrecord.apply i e, Showing.scene_sent, ← Scene.told_seen, h.told, Scene.told_seen]
    · rw [hrecord.apply i e, Showing.scene_sent, hwindow,
        Window.having_scene (Desk.apply_makes hi)]
      exact congrArg (·.followed i) h.followed
  showError text e := ((hc.showError text e).both (hrecord.showError text e)).beside Reads
  deliver id event e := ((hc.deliver id event e).both (hrecord.deliver id event e)).beside Reads
  systemCall args e := ((hc.systemCall args e).both (hrecord.systemCall args e)).beside Reads
  finished e := ((hc.finished e).both (hrecord.finished e)).beside Reads

end Collaborators

/-! ## Windows -/

namespace Collaborators

variable {place : Place σ Window}

/-- A window at its place is collaborators around a window. -/
theorem window_renders (hplace : ∀ w o, place.get (place.set w o) = w) :
    (window place).Renders place := by
  have hattempt : ∀ act : Attempt Desk Unit, Tracks (fun e e' => Within e e' ∧
      place.get e'.outside = (place.get e.outside).having act e.stage.disk)
      (Action.attempt (deskPlace place) act) := fun act =>
    Tracks.iff_ends.2 fun e => Ends.state_iff.2
      ⟨⟨⟨_, e.bus, e.saves, e.now, _⟩, rfl⟩, hplace _ _⟩
  refine ⟨fun scene => hattempt _, fun i => hattempt _, fun text e => ?_, fun _ _ => .pure,
    Engine.answerCall_tracks Overlooks.incidental, .pure⟩
  obtain ⟨hwithin, hwindow⟩ := hattempt (Desk.change (Window.showError (.text text))) e
  refine ⟨hwithin, ?_⟩
  exact (congrArg Window.scene hwindow).trans
    (Window.having_scene (f := id) (.change fun _ => rfl) _ _)

/-- Adds to the record of what the window is shown. -/
def film (shown : Showing) (e : Engine (Window × List Showing)) : Engine (Window × List Showing) :=
  { e with outside := (e.outside.1, e.outside.2 ++ [shown]) }

/-- Where a window stands that is beside a record. -/
def beside : Place (Window × List Showing) Window where
  get := Prod.fst
  set w o := (w, o.2)

/-- A window beside a record of what it is shown. -/
def filmed : Collaborators (Window × List Showing) :=
  let w := window beside
  { w with
    prepare := fun scene => do
      modify (film (.prepared scene))
      w.prepare scene
    apply := fun
      | some i => do
        modify (film (.sent i))
        w.apply (some i)
      | none => w.apply none }

theorem filmed_renders : filmed.Renders beside := by
  have hw : (window beside).Renders beside := window_renders fun _ _ => rfl
  refine { hw with prepare := fun scene e => ?_, apply := fun i e => ?_ }
  · obtain ⟨hwithin, hwindow⟩ := hw.prepare scene (film (.prepared scene) e)
    exact ⟨trans_of Within (Within.outside e _) hwithin, hwindow⟩
  · obtain ⟨hwithin, hwindow⟩ := hw.apply i (film (.sent i) e)
    exact ⟨trans_of Within (Within.outside e _) hwithin, hwindow⟩

theorem filmed_records : filmed.Records Prod.snd where
  prepare _ _ := rfl
  apply _ _ := rfl
  showError _ e := ⟨⟨⟨_, e.bus, e.saves, e.now, _⟩, rfl⟩, rfl⟩
  deliver _ _ := .pure
  systemCall := Engine.answerCall_tracks Overlooks.incidental
  finished := .pure

end Collaborators

namespace Viewing

variable {c : Collaborators σ} {place : Place σ Window} {record : σ → List Showing}
  {setup : Engine.Setup} {outside : σ} {e : Engine σ} {document name : Value}

/-- The engine of a story whose first pictures and sounds are there. -/
def watched (c : Collaborators σ) (setup : Engine.Setup) (outside : σ) : Option (Engine σ) :=
  (Engine.ofSetup setup outside).toOption.map fun e =>
    ((HostCall.resourcesReady.run c).perform ((Engine.enterLoading c).perform e).2).2

theorem of_watched {β : Type} (view : σ → β) (h : watched c setup outside = some e) :
    Viewing c view setup outside false e := by
  obtain ⟨e₀, he₀, rfl⟩ := Option.map_eq_some_iff.1 h
  exact (Viewing.start (toOption_eq_some.1 he₀)).play rfl

/-- A story in which a sprite is shown, turned at once and shown again, as it is written. -/
def turningDocument : Value :=
  .record [(.text "start", .list [.text ".addsprite:a", .text ".flipsprite:a:0",
    .text ".addsprite:a", .text "Hello"])]

/-- The story as it is played. -/
def turning : Engine.Setup :=
  { script := (compile turningDocument (.text "turning")).toOption.getD default }

theorem compile_turningDocument : compile turningDocument (.text "turning") = .ok turning.script :=
  compile_eq_ok_getD (by decide +kernel)

/-- After every call of a run, the scene of the window mirrors that of the session, as long as the
snapshots that were taken over have been prepared. -/
theorem mirrors (hc : c.Renders place) (hcompile : compile document name = .ok setup.script)
    (hlibrary : ∀ l, setup.library = some l → l.Compiles) (hconfig : setup.config.Sane)
    (hdice : ∀ v ∈ setup.dice.rolls, ∃ n, v = .int n)
    (h : Viewing c (fun o => (place.get o).scene) setup outside false e) :
    e.session.scene.Mirrors (place.get e.outside).scene := by
  have hshown := shown (J := Outlines) hc.outlines (Script.compile_fits hcompile) hlibrary hconfig
    hdice h
  exact .of_outline_eq (hshown.2 rfl).outline

/-- The outline of a sprite that is shown, turned and shown again is mirrored. -/
theorem mirrors_turning : ∃ e : Engine Window,
    Viewing (.window .whole) Window.scene turning {} false e ∧ e.session.scene.sprites.length = 1 ∧
    e.session.scene.Mirrors e.outside.scene := by
  have hfacts : (watched (.window .whole) turning ({} : Window)).map
      (fun e => e.session.scene.sprites.length) = some 1 := by
    decide +kernel
  obtain ⟨e, he, hsprites⟩ := Option.map_eq_some_iff.1 hfacts
  have hview := of_watched Window.scene he
  have hrenders : (Collaborators.window .whole).Renders (.whole : Place Window Window) :=
    Collaborators.window_renders fun _ _ => rfl
  exact ⟨e, hview, hsprites, mirrors hrenders compile_turningDocument (fun l hl => by cases hl)
    Config.default_sane (fun v hv => ⟨0, by simpa [turning] using hv⟩) hview⟩

/-- A snapshot whose background has a text for a coordinate. -/
def askew : Snapshot :=
  { scene := { backgroundY := .text "left" } }

/-- A story in which the background is moved, as it is written. -/
def panningDocument : Value :=
  .record [(.text "start", .list [.text ".movebackground:1:1:0", .text "Hello"])]

/-- The story as it is played. -/
def panning : Engine.Setup :=
  { script := (compile panningDocument (.text "panning")).toOption.getD default }

/-- A snapshot that cannot be taken over as a whole lights the scene of the session, and the scene
of the window stays dark. After a snapshot with a text for a coordinate, a command moves the
background of the session in one direction, fails in the other, and tells the window of neither. -/
theorem mirrors_not_always :
    (∃ (e e' : Engine Window) (m : Mishap),
      Viewing (.window .whole) Window.scene Engine.fading {} false e ∧
      ((HostCall.restore Engine.overlong).run (.window .whole)).perform e =
        (.error (.mishap m), e') ∧
      ¬e'.session.scene.Mirrors e'.outside.scene) ∧
    ∃ (e e₁ e₂ : Engine Window) (m : Mishap),
      Viewing (.window .whole) Window.scene panning {} false e ∧
      ((HostCall.restore askew).run (.window .whole)).perform e = (.ok (), e₁) ∧
      (HostCall.resourcesReady.run (.window .whole)).perform e₁ = (.error (.mishap m), e₂) ∧
      ¬e₂.session.scene.Mirrors e₂.outside.scene := by
  have hmishap : ∀ r : Except Fault Unit, tame r = false → ∃ m, r = .error (.mishap m) := by
    rintro ((_ | m) | _) h
    · cases h
    · exact ⟨m, rfl⟩
    · cases h
  constructor
  · have hfacts : (watched (.window .whole) Engine.fading ({} : Window)).map (fun e =>
        let (r, e') := ((HostCall.restore Engine.overlong).run (.window .whole)).perform e
        (tame r, e'.session.scene.fadedOut.truthy, e'.outside.scene.fadedOut.truthy)) =
        some (false, false, true) := by
      decide +kernel
    obtain ⟨e, he, hfacts⟩ := Option.map_eq_some_iff.1 hfacts
    rcases hrun : ((HostCall.restore Engine.overlong).run (.window .whole)).perform e with ⟨r, e'⟩
    rw [hrun] at hfacts
    simp only [Prod.mk.injEq] at hfacts
    obtain ⟨htame, hlit, hdark⟩ := hfacts
    obtain ⟨m, rfl⟩ := hmishap r htame
    refine ⟨e, e', m, of_watched Window.scene he, hrun, fun hmirrors => ?_⟩
    rw [hmirrors.fadedOut, hlit] at hdark
    cases hdark
  · have hfacts : (watched (.window .whole) panning ({} : Window)).map (fun e =>
        let (r₁, e₁) := ((HostCall.restore askew).run (.window .whole)).perform e
        let (r₂, e₂) := (HostCall.resourcesReady.run (.window .whole)).perform e₁
        (r₁.toOption.isSome, tame r₂, e₂.session.scene.backgroundX.truthy,
          e₂.outside.scene.backgroundX.truthy)) = some (true, false, true, false) := by
      decide +kernel
    obtain ⟨e, he, hfacts⟩ := Option.map_eq_some_iff.1 hfacts
    rcases hrun₁ : ((HostCall.restore askew).run (.window .whole)).perform e with ⟨r₁, e₁⟩
    rcases hrun₂ : (HostCall.resourcesReady.run (.window .whole)).perform e₁ with ⟨r₂, e₂⟩
    simp only [hrun₁, hrun₂, Prod.mk.injEq] at hfacts
    obtain ⟨hok, htame, hmoved, hstill⟩ := hfacts
    obtain ⟨m, rfl⟩ := hmishap r₂ htame
    have hrestored : r₁ = .ok () := by
      cases r₁ with
      | error _ => cases hok
      | ok _ => rfl
    refine ⟨e, e₁, e₂, m, of_watched Window.scene he, hrestored ▸ hrun₁, hrun₂, fun hmirrors => ?_⟩
    rw [hmirrors.backgroundX, hmoved] at hstill
    cases hstill

/-- After every call of a run, the sprites of the session have the shapes that its reading of the
showings gives them, and those of the window the shapes that its own reading gives them. They are
the same as long as no sprite that was scaled or turned is put on the screen again. -/
theorem shapes_read (hc : c.Renders place) (hrecord : c.Records record)
    (hcompile : compile document name = .ok setup.script)
    (hlibrary : ∀ l, setup.library = some l → l.Compiles) (hconfig : setup.config.Sane)
    (hdice : ∀ v ∈ setup.dice.rolls, ∃ n, v = .int n)
    (h : Viewing c (fun o => ((place.get o).scene, record o)) setup outside false e) :
    e.session.scene.shapes = (Showing.scene Scene.told (record e.outside)).shapes ∧
      (place.get e.outside).scene.shapes =
        (Showing.scene Scene.followed (record e.outside)).shapes ∧
      (Showing.Gentle (record e.outside) →
        (place.get e.outside).scene.shapes = e.session.scene.shapes) := by
  obtain ⟨-, htold, hfollowed⟩ := (shown (J := Reads) (hc.reads hrecord)
    (Script.compile_fits hcompile) hlibrary hconfig hdice h).2 rfl
  have hsession := Scene.shapes_of_seen htold
  have hwindow := congrArg Scene.shapes hfollowed
  refine ⟨hsession, hwindow, fun hgentle => ?_⟩
  rw [hsession, Showing.scene_eq_of_gentle hgentle]
  exact hwindow

/-- The sprite is turned in the session and not in the window, as their readings say. -/
theorem shapes_read_turning : ∃ e : Engine (Window × List Showing),
    Viewing .filmed (fun o => (o.1.scene, o.2)) turning ({}, []) false e ∧ e.outside.2.length = 5 ∧
    e.session.scene.shapes = (Showing.scene Scene.told e.outside.2).shapes ∧
    e.outside.1.scene.shapes = (Showing.scene Scene.followed e.outside.2).shapes := by
  have hfacts : (watched .filmed turning ({}, [])).map (fun e => e.outside.2.length) = some 5 := by
    decide +kernel
  obtain ⟨e, he, hlength⟩ := Option.map_eq_some_iff.1 hfacts
  have hview := of_watched (fun o : Window × List Showing => (o.1.scene, o.2)) he
  obtain ⟨hsession, hwindow, -⟩ := shapes_read Collaborators.filmed_renders
    Collaborators.filmed_records
    compile_turningDocument (fun l hl => by cases hl) Config.default_sane
    (fun v hv => ⟨0, by simpa [turning] using hv⟩) hview
  exact ⟨e, hview, hlength, hsession, hwindow⟩

/-- A sprite that is shown, turned and shown again is turned in the session alone. -/
theorem turned_back : ∃ e : Engine Window,
    Viewing (.window .whole) Window.scene turning {} false e ∧
    e.outside.scene.shapes ≠ e.session.scene.shapes := by
  have hfacts : (watched (.window .whole) turning ({} : Window)).map (fun e =>
      (e.session.scene.shapes.map (·.2.2.1.truthy), e.outside.scene.shapes.map (·.2.2.1.truthy))) =
      some ([true], [false]) := by
    decide +kernel
  obtain ⟨e, he, hfacts⟩ := Option.map_eq_some_iff.1 hfacts
  simp only [Prod.mk.injEq] at hfacts
  obtain ⟨hsession, hwindow⟩ := hfacts
  refine ⟨e, of_watched Window.scene he, fun hsame => ?_⟩
  rw [hsame, hsession] at hwindow
  cases hwindow

end Viewing

end VisualNovel
