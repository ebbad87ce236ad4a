import VisualNovel.Proofs.Resumption
import VisualNovel.Proofs.Tasks

/-!
# The fonts of a restored session

The fonts that a story sets are part of its session, and of every snapshot. But a window is told of
them only by the command that sets them: an engine that takes over a snapshot has the window prepare
the scene, and nothing else. So a session that is restored with a fresh window, and resumed to where
it was saved, is drawn with the fonts of a fresh window, whatever fonts it was drawn with before
(`Engine.Reachable.restores_bare_fonts`).
-/

namespace VisualNovel

open Script

variable {σ τ : Type}

/-! ## Fonts of a window -/

/-- The fonts of a window, of what is spoken and of who speaks. -/
def Window.fonts (w : Window) : Font × Font :=
  (w.speechFont, w.speakerFont)

theorem Desk.fonts_unstaged : Desk.Unstaged Window.fonts :=
  { missing := fun _ _ => rfl, pictures := fun _ _ => rfl, sounds := fun _ _ _ => rfl
    marks := fun _ _ => rfl, scene := fun _ _ => rfl, visibleText := fun _ _ => rfl
    veil := fun _ _ => rfl }

theorem Desk.prepare_fonts (scene : Scene) : Desk.Makes Window.fonts id (Desk.prepare scene) :=
  Desk.prepare_spares Desk.fonts_unstaged (fun _ _ _ _ => rfl) scene

/-- Only one kind of intent is about fonts. -/
theorem Desk.apply_fonts {i : Intent} (h : i.kind ≠ .uiOverride) :
    Desk.Makes Window.fonts id (Desk.apply i) :=
  Desk.apply_spares Desk.fonts_unstaged (fun _ _ _ _ => rfl) (.inr fun _ _ _ => rfl) (.inl h)

/-- Fonts are watched: they stay the same as long as no intent about them is carried out. -/
def Watch.fonts {γ : Type} (view : σ → γ) : Watch σ where
  sent o o' l := (∀ i ∈ l, i.kind ≠ .uiOverride) → view o' = view o
  kept _ _ := True
  sent_nil _ _ := rfl
  sent_append h h' hl := (h' fun i hi => hl i (List.mem_append_right _ hi)).trans
    (h fun i hi => hl i (List.mem_append_left _ hi))
  kept_refl _ := trivial
  kept_trans _ _ := trivial
  kept_note _ _ _ := trivial

namespace Collaborators

variable {place : Place σ Window} (hplace : ∀ w o, place.get (place.set w o) = w)
include hplace

theorem attempt_fonts (act : Attempt Desk Unit) {l : List Intent} (e : Engine σ)
    (hact : (∀ i ∈ l, i.kind ≠ .uiOverride) → Desk.Makes Window.fonts id act) :
    Runs True (Action.attempt (deskPlace place) act) e fun _ e' =>
      Aside (.fonts fun o => (place.get o).fonts) l e e' := by
  refine Ends.attempt_iff.2 (Ends.iff_attempted.2 ⟨fun _ d hrun => ?_, fun _ _ _ => trivial⟩)
  refine ⟨{ e.surroundings with disk := d.disk, outside := place.set d.window e.outside }, rfl,
    fun hl => ?_, trivial⟩
  show (place.get (place.set d.window e.outside)).fonts = _
  have hsame := (hact hl).eq { window := place.get e.outside, disk := e.stage.disk }
  have hdesk : (act.perform { window := place.get e.outside, disk := e.stage.disk }).2 = d :=
    congrArg Prod.snd hrun
  rw [hplace, ← hdesk]
  exact hsame

/-- Nobody but the intents about them changes the fonts of a window. -/
theorem window_fonts : Quiet (window place) (.fonts fun o => (place.get o).fonts) True where
  prepare scene e := attempt_fonts hplace (Desk.prepare scene) e fun _ => Desk.prepare_fonts scene
  apply i e := attempt_fonts hplace (Desk.apply i) e fun h =>
    Desk.apply_fonts (h i List.mem_cons_self)
  showError text e := attempt_fonts hplace (Desk.change (Window.showError (.text text))) e fun _ =>
    .change fun _ => rfl
  deliver _ _ e := .refl _ e
  systemCall args e := by
    have htracks := Engine.answerCall_tracks (R := Overlooks fun o => (place.get o).fonts)
      Overlooks.incidental args
    refine Ends.mono ((Engine.answerCall_runs args e).and (Tracks.iff_ends.1 htracks e)) ?_
      fun _ _ h => h.1
    rintro _ _ ⟨-, ⟨x, rfl⟩, hview⟩
    exact ⟨x, rfl, fun _ => hview, trivial⟩
  finished e := .refl _ e

end Collaborators

/-! ## Restoring and resuming -/

namespace Engine

section
variable {c : Collaborators σ} {w : Watch σ} {setup : Setup} {outside : σ} {e : Engine σ}
  {f : Engine τ}

/-- **A restored session has lost its fonts.** An engine waits, and what it saves is restored in a
fresh engine at the same settings, which finds the script again. When all is loaded, the fresh
engine waits for the same at the same place, but its window has the fonts that it had at first,
whatever fonts the snapshot holds. -/
theorem Reachable.restores_bare_fonts {setup' : Setup} {outside' : τ} {place : Place τ Window}
    {f₀ f₁ : Engine τ} {r : Except Fault Unit}
    (hplace : ∀ w o, place.get (place.set w o) = w) (hc : Quiet c w True)
    (h : Reachable c anyCall setup outside e)
    (hmode : e.mode = .normal ∨ e.mode = .effectRunning ∨ e.mode = .awaitingChoice)
    (hconfig : setup'.config = setup.config)
    (hstarted : started (.window place) setup' outside' = some f₀)
    (hrestore : (restore (.window place) e.session.persistent).perform f₀ = (.ok (), f₁))
    (hscript : f₁.script = e.script)
    (hready : (HostCall.resourcesReady.run (.window place)).perform f₁ = (r, f))
    (htame : tame r) :
    f.mode = e.mode ∧ f.session.persistent.cursor = e.session.persistent.cursor ∧
      (place.get f.outside).fonts = (place.get outside').fonts := by
  have hwindow := Collaborators.window_fonts hplace
  obtain ⟨hfresh, hsent₀⟩ := started_unshown hwindow hstarted
  obtain ⟨library, cursor, u, hcursor, hu, x, rfl, hsent₁, -⟩ :=
    (Ends.iff_perform.1 (restore_adopts hwindow _ f₀)).1 _ _ hrestore
  have hruled : ∀ e₀ : Engine σ, ofSetup setup outside = .ok e₀ →
      e₀.stage.Ruled f₀.stage.config f₀.stage.timedText.frameRate := fun e₀ he₀ =>
    hfresh.ruled (ofSetup_unshown he₀).1 hconfig.symm
  have hblank : u.fullText.IsText := by
    rw [hu.fullText]
    exact ⟨"", hfresh.text⟩
  have hresumes := h.resumes hc hwindow hmode hruled library x hfresh.stepping rfl hu.frameRate
    hblank hscript hcursor
  obtain ⟨⟨hsame, -, hplaced, l, hl, hsent⟩, hposition⟩ :=
    Leads.of_tame (Leads.mono hresumes (fun _ _ h => h) fun _ _ h => h.elim) hready htame
  refine ⟨hsame, hplaced.trans hposition, ?_⟩
  calc (place.get f.outside).fonts = (place.get x.outside).fonts := hsent hl
    _ = (place.get f₀.outside).fonts := hsent₁ nofun
    _ = (place.get outside').fonts := hsent₀ nofun

end

/-- A story that enlarges its font before its first line. -/
def enlarging : Setup :=
  .telling "enlarging" [".setspeechfontsize:30", "Hello"]

/-- The story is played to its line, and what it saves is restored in a fresh engine and resumed. -/
structure Enlarges (e f₀ f₁ f : Engine Window) : Prop where
  starts : started (.window .whole) enlarging {} = some f₀
  plays : after (.window .whole) [.resourcesReady] f₀ = some e
  restores : (restore (.window .whole) e.session.persistent).perform f₀ = (.ok (), f₁)
  resumes : (HostCall.resourcesReady.run (.window .whole)).perform f₁ = (.ok (), f)
  script : f₁.script = e.script
  modes : e.mode = .normal ∧ f.mode = .normal
  place : e.cursor.position = f.cursor.position
  fonts : e.outside.fonts = ({ size := 30 }, {}) ∧ f.outside.fonts = ({}, {})

/-- The size of the font that a script sets, if it is that of the story. -/
def enlargedTo? : Script → Option Float
  | ⟨.text "enlarging", [("start", ⟨[.command ⟨.setSpeechFontSize, [.float x], .int 1⟩,
      .dialogue ⟨.text "Hello", .null, .int 2⟩]⟩)]⟩ => some x
  | _ => none

theorem eq_of_enlargedTo? {s t : Script} {x : Float} (hs : enlargedTo? s = some x)
    (ht : enlargedTo? t = some x) : s = t := by
  unfold enlargedTo? at hs ht
  split at hs
  · split at ht
    · cases hs
      cases ht
      rfl
    · cases ht
  · cases hs

theorem exists_enlarges : ∃ e f₀ f₁ f, Enlarges e f₀ f₁ f := by
  let restored (e f₀ : Engine Window) :=
    (restore (.window .whole) e.session.persistent).perform f₀
  let resumed (f₁ : Engine Window) := (HostCall.resourcesReady.run (.window .whole)).perform f₁
  have hfacts : ((started (.window .whole) enlarging ({} : Window)).bind fun f₀ =>
      (after (.window .whole) [.resourcesReady] f₀).map fun e =>
        let f₁ := (restored e f₀).2
        let f := (resumed f₁).2
        decide ((restored e f₀).1.toOption = some () ∧ (resumed f₁).1.toOption = some () ∧
          (enlargedTo? e.script = some 30 ∧ enlargedTo? f₁.script = some 30) ∧
          (e.mode = .normal ∧ f.mode = .normal) ∧
          e.cursor.position = f.cursor.position ∧
          e.outside.fonts = ({ size := 30 }, {}) ∧ f.outside.fonts = ({}, {}))) = some true := by
    decide +kernel
  obtain ⟨f₀, hf₀, hfacts⟩ := Option.bind_eq_some_iff.1 hfacts
  obtain ⟨e, he, hfacts⟩ := Option.map_eq_some_iff.1 hfacts
  obtain ⟨hrestore, hready, hscript, hmode, hplace, hfonts⟩ := of_decide_eq_true hfacts
  exact ⟨e, f₀, (restored e f₀).2, (resumed (restored e f₀).2).2, hf₀, he,
    Prod.ext (toOption_eq_some.1 hrestore) rfl, Prod.ext (toOption_eq_some.1 hready) rfl,
    eq_of_enlargedTo? hscript.2 hscript.1, hmode, hplace, hfonts⟩

/-- The line of the story waits again, in a font of the size that a window has at first. -/
theorem Reachable.restores_bare_fonts_enlarging : ∃ e f₀ f₁ f : Engine Window,
    Enlarges e f₀ f₁ f ∧ Reachable (.window .whole) anyCall enlarging {} e ∧ e.mode = .normal ∧
    f.mode = e.mode ∧ f.session.persistent.cursor = e.session.persistent.cursor ∧
    f.outside.fonts = ({} : Window).fonts := by
  obtain ⟨e, f₀, f₁, f, h⟩ := exists_enlarges
  have hplace : ∀ w o : Window, Place.whole.get (Place.whole.set w o) = w := fun _ _ => rfl
  have hreach : Reachable (.window .whole) anyCall enlarging {} e :=
    (Reachable.of_started h.starts).of_after (fun _ _ _ => trivial) h.plays
  obtain ⟨hmode, hcursor, hfonts⟩ := Reachable.restores_bare_fonts hplace
    (Collaborators.window_fonts hplace) hreach (.inl h.modes.1) rfl h.starts h.restores
    h.script h.resumes rfl
  exact ⟨e, f₀, f₁, f, h, hreach, h.modes.1, hmode, hcursor, hfonts⟩

/-- The line of the story was drawn in a font of size 30, which the snapshot holds. When it waits
again, it is drawn in a smaller one. -/
theorem Reachable.fonts_not_restored : ∃ e f₀ f₁ f : Engine Window,
    Reachable (.window .whole) anyCall enlarging {} e ∧
    started (.window .whole) enlarging {} = some f₀ ∧
    (restore (.window .whole) e.session.persistent).perform f₀ = (.ok (), f₁) ∧
    (HostCall.resourcesReady.run (.window .whole)).perform f₁ = (.ok (), f) ∧
    f.mode = e.mode ∧ f.cursor.position = e.cursor.position ∧
    f.outside.fonts ≠ e.outside.fonts := by
  obtain ⟨e, f₀, f₁, f, h⟩ := exists_enlarges
  refine ⟨e, f₀, f₁, f, (Reachable.of_started h.starts).of_after (fun _ _ _ => trivial) h.plays,
    h.starts, h.restores, h.resumes, h.modes.2.trans h.modes.1.symm, h.place.symm, ?_⟩
  rw [h.fonts.1, h.fonts.2]
  decide

end Engine

end VisualNovel
