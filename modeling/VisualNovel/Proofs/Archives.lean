import VisualNovel.Engine.Headless
import VisualNovel.Proofs.Backlogs
import VisualNovel.Proofs.Offers
import VisualNovel.Proofs.WellTyped

/-!
# The backlog of a run

A line is pushed to the backlog when it is displayed, and then the renderer is told to show it.
Nothing else touches the lines of a backlog. So at the end of every call it has the last lines that
the renderer was told to show, however the call has ended: `Recital.archived`.

The collaborators may do anything but call back and meet mishaps. Of the scripts it is asked that
they are typed, since a text that is none is pushed but cannot be shown.
-/

namespace VisualNovel

open Script Engine

variable {σ : Type}

/-! ## Lines that are heard -/

/-- Who speaks a line, and what is said. -/
def Line.words (l : Line) : Value × Value :=
  (l.name, l.text)

/-- Who speaks and what is said, if an intent shows a line. -/
def Intent.words? (i : Intent) : Option (Value × Value) :=
  if i.kind = .showText then some (i.get "speaker", i.get "text") else none

/-- The lines that are shown are watched: `heard` is what is remembered of them. -/
def Watch.lines (heard : σ → List (Value × Value)) : Watch σ where
  sent o o' l := heard o' = heard o ++ l.filterMap Intent.words?
  kept _ _ := True
  sent_nil _ := (List.append_nil _).symm
  sent_append h h' := by rw [h', h, List.filterMap_append, List.append_assoc]
  kept_refl _ := trivial
  kept_trans _ _ := trivial
  kept_note _ _ _ := trivial

theorem Intent.words?_eq_none {i : Intent} (h : i.kind ≠ .showText) : i.words? = none :=
  if_neg h

theorem Prompt.filterMap_words? {intents : List Intent} (h : Prompt intents) :
    intents.filterMap Intent.words? = [] := by
  cases h with
  | nothing => rfl
  | @one kind _ hloose =>
    have hkind : kind ≠ .showText := by
      rintro rfl
      cases hloose
    exact List.filterMap_cons_none (Intent.words?_eq_none hkind)
  | fade payload => simp [Command.instantIntents, Intent.words?]

namespace Engine

/-! ## What the backlog has -/

/-- The backlog has the last lines that were heard, and then those that are yet to be shown. The
cursor stands in a typed script. -/
structure Archived (heard : σ → List (Value × Value)) (pending : List (Value × Value))
    (e : Engine σ) : Prop where
  capacity : e.backlog.capacity = 500
  lines : e.backlog.lines.map Line.words = Backlog.lastOf 500 (heard e.outside ++ pending)
  sound : e.cursor.Sound
  bound : e.stage.Bound

/-- The backlog keeps up with what is heard. -/
def Archives (heard : σ → List (Value × Value)) (e e' : Engine σ) : Prop :=
  e.Archived heard [] → e'.Archived heard []

variable {heard : σ → List (Value × Value)} {pending : List (Value × Value)} {e e' : Engine σ}

namespace Archived

/-- Nothing is said while the story moves to another place. -/
theorem moved (h : e.Archived heard pending) (hbacklog : e'.backlog = e.backlog)
    (houtside : e'.outside = e.outside) (hsound : e'.cursor.Sound) (hbound : e'.stage.Bound) :
    e'.Archived heard pending := by
  refine ⟨?_, ?_, hsound, hbound⟩
  · rw [hbacklog]
    exact h.capacity
  · rw [hbacklog, houtside]
    exact h.lines

/-- Nothing is said while the story stands where it stands. -/
theorem of_same (h : e.Archived heard pending) (hbacklog : e'.backlog = e.backlog)
    (houtside : e'.outside = e.outside) (hscript : e'.script = e.script)
    (hcursor : e'.cursor = e.cursor) (hlibrary : e'.stage.library = e.stage.library) :
    e'.Archived heard pending := by
  refine h.moved hbacklog houtside ?_
    (h.bound.of_script hscript (congrArg Cursor.script hcursor) ?_)
  · rw [hcursor]
    exact h.sound
  · unfold Stage.Shelved
    rw [hlibrary]
    exact id

/-- Nothing is said on a stage where the story stands where it stood. -/
theorem restaged {s : Stage} (h : e.Archived heard pending) (hs : e.stage.Stationary s) :
    { e with stage := s }.Archived heard pending := by
  refine h.moved rfl rfl ?_ (hs.bound h.bound)
  show s.session.cursor.Sound
  rw [hs.cursor]
  exact h.sound

/-- A line that is pushed is yet to be shown. -/
theorem spoken (h : e.Archived heard pending) (text speaker : Value) :
    (e.spoken text speaker).Archived heard (pending ++ [(speakerOf speaker e, text)]) := by
  refine ⟨h.capacity, ?_, h.sound, h.bound.of_script rfl rfl id⟩
  show (Backlog.lastOf e.backlog.capacity _).map Line.words = _
  rw [h.capacity, Backlog.map_lastOf, List.map_append, h.lines, List.map_singleton,
    Backlog.lastOf_lastOf_append, List.append_assoc]
  rfl

/-- What was yet to be shown is heard when it is sent. -/
theorem aside {l : List Intent} (h : e.Archived heard (l.filterMap Intent.words?))
    (ha : Aside (.lines heard) l e e') : e'.Archived heard [] := by
  obtain ⟨x, rfl, hsent, -⟩ := ha
  refine ⟨h.capacity, ?_, h.sound, h.bound.of_script rfl rfl id⟩
  show _ = Backlog.lastOf 500 (heard x.outside ++ [])
  rw [hsent, List.append_nil]
  exact h.lines

end Archived

namespace Archives

instance : IsPreorder (Engine σ) (Archives heard) where
  refl _ := id
  trans _ _ _ h h' := h' ∘ h

theorem of_same (hbacklog : e'.backlog = e.backlog) (houtside : e'.outside = e.outside)
    (hscript : e'.script = e.script) (hcursor : e'.cursor = e.cursor)
    (hlibrary : e'.stage.library = e.stage.library) : Archives heard e e' :=
  fun h => h.of_same hbacklog houtside hscript hcursor hlibrary

theorem of_runs {α : Type} {act : Play σ α} {l : List Intent}
    (h : Runs False act e fun _ e' => Aside (.lines heard) l e e')
    (hl : l.filterMap Intent.words? = []) : Archives heard e (act.perform e).2 := by
  intro ha
  refine Ends.state_iff.1 (Ends.mono h.ends ?_ fun _ _ h => h)
  intro _ e' haside
  exact Archived.aside (by rwa [hl]) haside

theorem incidental : Incidental (Archives heard) where
  disk _ _ := .of_same rfl rfl rfl rfl rfl
  saves _ _ := .of_same rfl rfl rfl rfl rfl

/-- An option leads to another conversation of the script. -/
theorem switchConversation (name : Value) :
    Tracks (Archives heard) (onStage (Stage.switchConversation name)) := by
  intro e h
  refine Ends.state_iff.1 (Ends.onPart_iff.2 ((Stage.switchConversation_ends name e.stage).mono
    ?_ ?_))
  · rintro _ s henters
    have hbound := henters.bound h.bound
    obtain ⟨cursor, rfl, -, hsound, -⟩ := henters
    exact h.moved rfl rfl hsound hbound
  · rintro _ _ rfl
    exact h

theorem calm : Calm (Archives heard) where
  noted _ _ _ := .of_same rfl rfl rfl rfl rfl
  timed _ _ _ := .of_same rfl rfl rfl rfl rfl
  completed _ h := h.moved rfl rfl (Likeness.advance_sound h.sound) (h.bound.of_script rfl rfl id)
  flagged _ _ _ := .of_same rfl rfl rfl rfl rfl
  captured _ := .of_same rfl rfl rfl rfl rfl
  released _ := .of_same rfl rfl rfl rfl rfl
  conversation := switchConversation
  awaiting _ _ := .of_same rfl rfl rfl rfl rfl
  menu _ _ := .of_same rfl rfl rfl rfl rfl
  dropped _ := .of_same rfl rfl rfl rfl rfl
  bus _ _ := .of_same rfl rfl rfl rfl rfl
  mode _ _ := .of_same rfl rfl rfl rfl rfl
  cleared _ := .of_same rfl rfl rfl rfl rfl

end Archives

section
variable {c : Collaborators σ} (hc : Quiet c (.lines heard) False)
include hc

theorem backstage_archives : c.Backstage (Archives heard) where
  apply i _ hscenic e := by
    refine .of_runs (hc.apply i e) ?_
    have hkind : i.kind ≠ .showText := fun hkind => by simp [hkind, IntentKind.scenic] at hscenic
    simp [Intent.words?_eq_none hkind]
  showError text e := .of_runs (hc.showError text e) rfl
  deliver id event e h :=
    Ends.state_iff.1 ((hc.deliver id event e).mono (fun _ _ => h.aside) fun _ _ => h.aside)
  systemCall args e := .of_runs (hc.systemCall args e) rfl
  finished e := .of_runs (hc.finished e) rfl

theorem enterLoading_archives : Tracks (Archives heard) (enterLoading c) :=
  Archives.calm.enterLoading (backstage_archives hc) fun e => .of_runs (hc.prepare _ e) rfl

/-! ## Playing -/

/-- A line of a typed script is pushed and shown. -/
theorem display_archives {d : Dialogue} (hbeat : e.cursor.current = some (.dialogue d)) :
    Archives heard e ((display c d.text d.speaker true).perform e).2 := by
  intro h
  have htext : d.text.IsText := h.sound.beat_typed h.bound.cursor hbeat
  refine Ends.state_iff.1 (Ends.mono (display_waits hc (.inr htext) d.speaker e).ends ?_
    fun _ _ h => h)
  rintro _ e' ⟨t, visible, -, haside⟩
  have hwaiting : ((e.spoken d.text d.speaker).waiting t).Archived heard
      [(speakerOf d.speaker e, d.text)] := (h.spoken d.text d.speaker).of_same rfl rfl rfl rfl rfl
  exact hwaiting.aside haside

theorem settle_archives {cmd : Script.Command} {s s' : Stage} {o : Outcome}
    (ho : o.Orderly cmd s s') : Tracks (Archives heard) (settle c o) := by
  intro e h
  refine Ends.state_iff.1 (Ends.mono (settle_runs hc o e).ends ?_ fun _ _ h => h)
  refine fun _ e' haside => Archived.aside ?_ haside
  cases o with
  | proceed intents =>
    have hnone := Prompt.filterMap_words? ho
    show e.completed.Archived heard (intents.filterMap Intent.words?)
    rw [hnone]
    exact Archives.calm.completed e h
  | stay => exact h
  | hold kind payload =>
    have hkind : (effectOf kind payload e).kind ≠ .showText := by
      rintro rfl
      cases ho.1
    show (e.held kind payload).Archived heard ([effectOf kind payload e].filterMap Intent.words?)
    rw [List.filterMap_cons_none (Intent.words?_eq_none hkind)]
    exact h.of_same rfl rfl rfl rfl rfl
  | ask options line =>
    have hoffering : (e.offering options).Archived heard [] := h.of_same rfl rfl rfl rfl rfl
    cases line with
    | null => exact hoffering
    | _ => exact hoffering.spoken _ .null
  | call args => exact Archives.calm.completed e h

theorem execute_archives (cmd : Script.Command) : Tracks (Archives heard) (execute c cmd) := by
  unfold execute
  cases Command.wellFormed cmd with
  | false => exact .get_bind fun e => refl_of (Archives heard) e
  | true =>
    have hemit := emit_tracks Archives.calm.unheard (backstage_archives hc).deliver
      (.commandRun cmd.kind.keyword cmd.args cmd.line)
    refine hemit.bind fun _ => Tracks.bind_of (fun e h => ?_) fun e o e₁ hrun => ?_
    · refine Ends.state_iff.1 (Ends.onPart_iff.2 ((Command.perform_places cmd e.stage).mono ?_ ?_))
      · exact fun _ s hplaced => h.moved rfl rfl (hplaced.sound h.sound) (hplaced.bound h.bound)
      · exact fun _ s hstationary => h.restaged hstationary
    · have horderly : Ends (onStage (Command.perform cmd) : Play σ Outcome) e
          (fun o e₁ => o.Orderly cmd e.stage e₁.stage) fun _ _ => True :=
        Ends.onPart_iff.2 (Command.perform_orderly cmd e.stage)
      exact settle_archives hc ((Ends.iff_perform.1 horderly).1 o e₁ hrun) e₁

/-! ## Taking over a snapshot -/

omit hc in
/-- The script that a snapshot belongs to is typed. -/
theorem Archived.scriptOf (h : e.Archived heard []) (t : Snapshot) :
    Ends (onStage (scriptOf t)) e (fun script e' => script.Typed ∧ e'.Archived heard [])
      fun _ e' => e'.Archived heard [] := by
  refine Ends.onPart_iff.2 (Ends.bind_iff.2 (Ends.get_iff.2 ?_))
  dsimp only
  split
  · exact ⟨h.bound.script, h⟩
  · refine (Stage.fetchScript_ends _ t.script e.stage).mono ?_
      fun _ _ hunmoved => h.restaged hunmoved.stationary
    exact fun script s hfound => ⟨hfound.2 h.bound.shelved, h.restaged hfound.1.stationary⟩

theorem restore_archives (t : Snapshot) : Tracks (Archives heard) (restore c t) := by
  intro e h
  refine Ends.state_iff.1 (restore_ends (Ends.onPart_iff.1 (h.scriptOf t)) ?_ ?_)
  · intro script s error hs _
    exact hs.2
  · intro cursor s hs hcursor
    obtain ⟨htyped, h₁⟩ := hs
    have hsound : cursor.Sound := (Cursor.rebind_sound hcursor).2
    have htaken : ∀ u, (e.cleared { s.adopting t cursor with timedText := u }).Archived heard [] :=
      fun u => h₁.moved rfl rfl hsound ⟨htyped, rfl, h₁.bound.shelved⟩
    refine (Tracks.iff_ends.1 Stage.retimeFromSession_timed _).mono ?_ ?_
    · rintro _ _ ⟨u, rfl⟩
      exact Ends.state_iff.2 (enterLoading_archives hc _ (htaken u))
    · rintro _ _ ⟨u, rfl⟩
      exact htaken u

theorem loadFrom_archives (read : Attempt Disk (Option Value)) :
    Tracks (Archives heard) (loadFrom c read) := by
  refine (onDisk_tracks Archives.incidental _).bind fun data => ?_
  dsimp only
  split
  · exact .pure
  · exact .bind .ofMishap fun t => (restore_archives hc t).bind fun _ => .pure

/-! ## Calls -/

theorem run_archives (call : HostCall) : Tracks (Archives heard) (call.run c) := by
  have hplain : call.loads = false → Tracks (Archives heard) (call.run c) :=
    Archives.calm.run (backstage_archives hc) (fun _ _ => .of_same rfl rfl rfl rfl rfl)
      (fun _ _ => .of_same rfl rfl rfl rfl rfl) (fun _ _ => display_archives hc)
      (fun e cmd _ => execute_archives hc cmd e) (saves_tracks Archives.incidental c)
  cases call with
  | loadFromSlot slot =>
    exact (withStore_tracks Archives.incidental fun _ => .bind .ofMishap fun _ =>
      loadFrom_archives hc _).discard
  | quickload =>
    exact (withStore_tracks Archives.incidental fun _ => loadFrom_archives hc _).discard
  | restore t => exact restore_archives hc t
  | _ => exact hplain rfl

theorem drive_archives (rounds : Nat) (choices : List Value) :
    Tracks (Archives heard) (drive c rounds choices) := by
  induction rounds generalizing choices with
  | zero => exact .pure
  | succ rounds ih =>
    refine .get_bind fun e => ?_
    cases e.finished with
    | true => exact refl_of (Archives heard) e
    | false =>
      refine Tracks.bind (.get_bind fun e => ?_) (fun choices => ih choices) e
      split
      · exact ((run_archives hc (.effectFinished _)).bind fun _ => .pure) e
      · exact ((run_archives hc (.choose _)).bind fun _ => .pure) e
      · cases e.awaiting with
        | true => exact ((run_archives hc .advance).bind fun _ => .pure) e
        | false => exact ((run_archives hc .step).bind fun _ => .pure) e

theorem runHeadless_archives (choices rounds : Value) :
    Tracks (Archives heard) (runHeadless c choices rounds) := by
  have hdrive : ∀ choices, Tracks (Archives heard) (do
      let rounds ← Action.ofMishap rounds.asWhole
      if !(← drive c rounds.toNat choices) then
        note .warning s!"run_headless stopped after {rounds} iterations") := by
    refine fun choices => .bind .ofMishap fun n => (drive_archives hc n.toNat choices).bind ?_
    rintro (_ | _)
    · exact Archives.calm.note _ _
    · exact .pure
  refine .bind .ofMishap fun choices => .get_bind fun e => ?_
  split
  · exact ((run_archives hc .resourcesReady).bind fun _ => hdrive choices) e
  · exact hdrive choices e

end

/-- Wherever the view of the backlog stands, it has the same lines. -/
theorem Archived.viewed {b : Backlog} (h : e.Archived heard [])
    (hcapacity : b.capacity = e.backlog.capacity) (hlines : b.lines = e.backlog.lines) :
    { e with backlog := b }.Archived heard [] := by
  refine ⟨hcapacity.trans h.capacity, ?_, h.sound, h.bound⟩
  show b.lines.map Line.words = _
  rw [hlines]
  exact h.lines

theorem ofSetup_archived {setup : Setup} {outside : σ} (hsetup : ofSetup setup outside = .ok e)
    (hscript : setup.script.Typed) (hlibrary : ∀ l, setup.library = some l → l.Typed)
    (hsilent : heard outside = []) : e.Archived heard [] := by
  obtain ⟨-, hsound, hbound⟩ := ofSetup_stocked hsetup hscript hlibrary
  obtain ⟨stage, -, hsetup⟩ := bind_eq_ok.1 hsetup
  cases hsetup
  refine ⟨rfl, ?_, hsound, hbound⟩
  rw [hsilent]
  rfl

end Engine

/-! ## Runs -/

/-- A run of a session whose lines are heard: it is set up and starts to load, the host makes calls
of it or drives it without a screen, however that ends, and scrolls through the backlog. In between,
other scripts may be put into the library, and the surroundings may change in any way but for what
was heard. -/
inductive Recital (c : Collaborators σ) (heard : σ → List (Value × Value)) (setup : Setup)
    (outside : σ) : Engine σ → Prop where
  | start {e : Engine σ} : ofSetup setup outside = .ok e →
    Recital c heard setup outside ((enterLoading c).perform e).2
  | call {e : Engine σ} (call : HostCall) : Recital c heard setup outside e →
    Recital c heard setup outside ((call.run c).perform e).2
  | drive {e : Engine σ} (choices rounds : Value) : Recital c heard setup outside e →
    Recital c heard setup outside ((runHeadless c choices rounds).perform e).2
  | scrollUp {e : Engine σ} (n : Int) : Recital c heard setup outside e →
    Recital c heard setup outside { e with backlog := e.backlog.scrollUp n }
  | scrollDown {e : Engine σ} (n : Int) : Recital c heard setup outside e →
    Recital c heard setup outside { e with backlog := e.backlog.scrollDown n }
  | shelved {e : Engine σ} (l : Library) : Recital c heard setup outside e → l.Typed →
    Recital c heard setup outside (e.mapStage fun s => { s with library := some l })
  | around {e : Engine σ} (x : Surroundings σ) : Recital c heard setup outside e →
    heard x.outside = heard e.outside → Recital c heard setup outside (e.within x)

namespace Recital

variable {c : Collaborators σ} {heard : σ → List (Value × Value)} {setup : Setup} {outside : σ}
  {e : Engine σ}

/-- At every moment of a run the backlog has the last lines that were heard. -/
theorem archived (hc : Quiet c (.lines heard) False) (hscript : setup.script.Typed)
    (hlibrary : ∀ l, setup.library = some l → l.Typed) (hsilent : heard outside = [])
    (h : Recital c heard setup outside e) : e.Archived heard [] := by
  induction h with
  | start hsetup =>
    exact enterLoading_archives hc _ (ofSetup_archived hsetup hscript hlibrary hsilent)
  | call call _ ih => exact run_archives hc call _ ih
  | drive choices rounds _ ih => exact runHeadless_archives hc choices rounds _ ih
  | scrollUp n _ ih =>
    refine ih.viewed ?_ ?_ <;> unfold Backlog.scrollUp <;> split <;> rfl
  | scrollDown n _ ih =>
    refine ih.viewed ?_ ?_ <;> unfold Backlog.scrollDown <;> split <;> rfl
  | shelved l _ hl ih =>
    refine ih.moved rfl rfl ih.sound ⟨ih.bound.script, ih.bound.inStep, ?_⟩
    rintro _ ⟨⟩
    exact hl
  | @around e x _ hheard ih =>
    have haside : Aside (.lines heard) [] e (e.within x) :=
      ⟨x, rfl, hheard.trans (List.append_nil _).symm, trivial⟩
    exact Archived.aside (l := []) ih haside

end Recital

/-- **A backlog holds the last lines.** A backlog that was made for so many lines, but at least one,
has the last ones that were pushed since it was cleared, whatever was done to it; its view follows
or stands on a line, it always knows the line in view, and there is none exactly if it is empty;
scrolling up twice is scrolling up by both. No backlog is made for more lines than memory can count.
In every run with collaborators that neither call back nor meet mishaps, the backlog has the
speakers and the texts of the last 500 lines that the renderer was told to show. -/
theorem backlog_holds_last_lines :
    (∀ capacity : Int,
      (capacity < Number.twoTo 63 → ∃ b, Backlog.new (.int capacity) = .ok b ∧
        ∀ deeds : List Backlog.Deed, (deeds.foldl Backlog.Deed.make b).Valid
          (max 1 capacity).toNat (Backlog.pushedBy deeds)) ∧
      (Number.twoTo 63 ≤ capacity → Backlog.new (.int capacity) = .error .overflow)) ∧
    ∀ {σ : Type} (c : Collaborators σ) (heard : σ → List (Value × Value)) (setup : Setup)
      (outside : σ) (e : Engine σ), Quiet c (.lines heard) False → setup.script.Typed →
      (∀ l, setup.library = some l → l.Typed) → heard outside = [] →
      Recital c heard setup outside e →
      IsEnd 500 (heard e.outside) (e.backlog.lines.map Line.words) := by
  refine ⟨fun capacity => ⟨fun hfits => ⟨_, Backlog.new_ok hfits, fun deeds => ?_⟩,
    Backlog.new_overflow⟩, ?_⟩
  · exact ((Backlog.holds_new _).run deeds).valid
  · intro σ c heard setup outside e hc hscript hlibrary hsilent h
    have harchived := h.archived hc hscript hlibrary hsilent
    rw [harchived.lines, List.append_nil]
    exact Backlog.lastOf_isEnd ..

/-- A story that greets, and asks whether to greet again, as it is written. -/
def Engine.greetingDocument : Value :=
  .record [(.text "start", .list [.text ".setspeaker:Ann", .text "Hello",
    .text ".showchoiceandjump:Again?:Yes:start"])]

/-- The story as it is played. -/
def Engine.greetingStory : Setup :=
  { script := (compile greetingDocument (.text "greeting")).toOption.getD default }

theorem Collaborators.recording_heard :
    Quiet recording (.lines (List.filterMap Intent.words?)) False where
  prepare _ e := Aside.refl _ e
  apply i e := ⟨{ e.surroundings with outside := e.outside ++ [i] }, rfl,
    List.filterMap_append, trivial⟩
  showError _ e := Aside.refl _ e
  deliver _ _ e := Aside.refl _ e
  systemCall _ e := Aside.refl _ e
  finished e := Aside.refl _ e

/-- Three lines are pushed, and the view is scrolled up beyond them. -/
def Backlog.overfilling : List Backlog.Deed :=
  [.push { text := .text "one" }, .push { text := .text "two" }, .push { text := .text "three" },
    .scrollUp 5]

/-- A backlog for two lines has lost the first of three, and is scrolled up as far as it goes. A
story greets, asks and greets again. -/
theorem backlog_holds_last_lines_greeting :
    (∃ b : Backlog, Backlog.new (.int 2) = .ok b ∧
      (Backlog.overfilling.foldl Backlog.Deed.make b).Valid 2
        [{ text := .text "one" }, { text := .text "two" }, { text := .text "three" }]) ∧
    ∃ e : Engine (List Intent),
      Recital .recording (List.filterMap Intent.words?) greetingStory [] e ∧
      (e.outside.filterMap Intent.words?).map (fun w => (w.1.keyForm, w.2.keyForm)) =
        [(.text "Ann", .text "Hello"), (.text "Ann", .text "Again?"),
          (.text "Ann", .text "Hello")] ∧
      IsEnd 500 (e.outside.filterMap Intent.words?) (e.backlog.lines.map Line.words) := by
  obtain ⟨hmade, hruns⟩ := backlog_holds_last_lines
  constructor
  · obtain ⟨b, hb, hvalid⟩ := (hmade 2).1 (by decide)
    exact ⟨b, hb, hvalid Backlog.overfilling⟩
  · have hcompiled : compile greetingDocument (.text "greeting") = .ok greetingStory.script :=
      compile_eq_ok_getD (by decide +kernel)
    have hfacts : (ofSetup greetingStory []).toOption.map (fun e₀ =>
        let e := HostCall.runAll .recording [.resourcesReady, .advance, .choose (.int 0)]
          ((enterLoading .recording).perform e₀).2
        (e.outside.filterMap Intent.words?).map fun w => (w.1.keyForm, w.2.keyForm)) =
        some [(.text "Ann", .text "Hello"), (.text "Ann", .text "Again?"),
          (.text "Ann", .text "Hello")] := by
      decide +kernel
    obtain ⟨e₀, hsetup, hheard⟩ := Option.map_eq_some_iff.1 hfacts
    have hrun : Recital .recording (List.filterMap Intent.words?) greetingStory [] _ :=
      (((Recital.start (toOption_eq_some.1 hsetup)).call .resourcesReady).call .advance).call
        (.choose (.int 0))
    exact ⟨_, hrun, hheard, hruns _ _ _ _ _ Collaborators.recording_heard
      (compile_typed hcompiled) (fun _ hl => by cases hl) rfl hrun⟩

/-- Memory cannot count so many lines, and no backlog is made for them. -/
theorem Backlog.boundless_not_made : ¬∃ b, Backlog.new (.int (Number.twoTo 63)) = .ok b := by
  rintro ⟨b, hb⟩
  rw [Backlog.new_overflow le_rfl] at hb
  cases hb

end VisualNovel
