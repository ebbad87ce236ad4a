import VisualNovel.Proofs.Origins
import VisualNovel.Proofs.Reading
import VisualNovel.Proofs.Twins

/-!
# Restoring a save in a fresh engine

A session that is saved while the engine waits, and restored in a fresh engine with the same main
script, library and settings, goes on as the first one does: `Engine.Reachable.replays`. The fresh
engine plays the beat again that the first one waits at, so it sends the intents of that beat, and
from then on both send the same for every row of moves.

What the first engine has revealed of a line since it was shown is not sent again:
`Engine.replay_reveals_nothing`.
-/

namespace VisualNovel

open Script

variable {σ τ : Type}

/-! ## Moves -/

/-- How a host moves a waiting engine on. -/
inductive Move where
  | advance
  | choose (index : Value)
  | finishEffect

/-- The call that makes a move. The effect that is done is the one that is running. -/
def Move.call (e : Engine σ) : Move → HostCall
  | advance => .advance
  | choose index => .choose index
  | finishEffect => .effectFinished ((e.effect.bind Intent.effectId).getD .null)

/-- A move takes over no snapshot. -/
theorem Move.brings_nothing (m : Move) {e : Engine σ} {Q : Snapshot → Prop} (t : Snapshot)
    (h : (m.call e).Brings e t) : Q t := by
  cases m <;> cases h

/-- The engine after a row of moves, if they went without a mishap. -/
def Engine.moved (c : Collaborators σ) : List Move → Engine σ → Option (Engine σ)
  | [], e => some e
  | m :: moves, e =>
    if tame (((m.call e).run c).perform e).1 then moved c moves (((m.call e).run c).perform e).2
    else none

theorem Matches.of_tame {α β : Type} {act : Action σ α} {act' : Action τ β} {s s' : σ} {t : τ}
    {Q : σ → τ → Prop} {r : Except Fault α} (h : Matches act act' s t (fun _ _ => Q) fun _ => Q)
    (hrun : act.perform s = (r, s')) (htame : tame r) :
    ∃ r' t', act'.perform t = (r', t') ∧ tame r' ∧ Q s' t' := by
  refine Leads.of_tame (Q := fun s' => ∃ r' t', act'.perform t = (r', t') ∧ tame r' ∧ Q s' t') ?_
    hrun htame
  refine Leads.mono h ?_ ?_
  · intro a s' ⟨b, t', ht, hq⟩
    exact ⟨_, t', ht, rfl, hq⟩
  · intro error s' ⟨t', ht, hq⟩
    exact ⟨_, t', ht, rfl, hq⟩

namespace Engine

variable {c : Collaborators σ} {c' : Collaborators τ} {L : Ledger σ τ} {e e' : Engine σ}
  {f : Engine τ} {typed : Prop} {J : Stage → Prop}

/-- The effect of each of two twins goes by its own identity. -/
theorem Twins.isEffect {P : Stage → Stage → Prop} (h : Twins L P e f) :
    (∀ i, e.effect = some i → Engine.isEffect ((e.effect.bind Intent.effectId).getD .null) i) ∧
      ∀ i, f.effect = some i → Engine.isEffect ((f.effect.bind Intent.effectId).getD .null) i := by
  have heffect := h.effect
  generalize e.effect = i at heffect
  generalize f.effect = i' at heffect
  cases heffect with
  | none => exact ⟨fun _ h => (by cases h), fun _ h => (by cases h)⟩
  | some kind payload n n' =>
    refine ⟨?_, ?_⟩
    · rintro _ ⟨⟩
      exact Value.int_equal_self n
    · rintro _ ⟨⟩
      exact Value.int_equal_self n'

/-- A move of twins. -/
theorem Twins.move (K : Keeps typed J) (hc : Quiet c (.through L.seen) True)
    (hc' : Quiet c' (.through L.seen') False) (h : Twins L Stage.SameDraws e f) (he : e.AtRest J)
    (hf : f.AtRest fun _ => True) (m : Move) :
    Matches ((m.call e).run c) ((m.call f).run c') e f
      (fun _ _ e' f' => Twins L Stage.SameDraws e' f')
      fun _ e' f' => Twins L Stage.SameDraws e' f' := by
  have hP : Stage.OfStock Stage.SameDraws := Stage.SameDraws.ofStock
  have hopening : Matches ((m.call e).opening c) ((m.call f).opening c') e f
      (fun go go' e' f' => go' = go ∧ Twins L Stage.SameDraws e' f')
      fun _ e' f' => Twins L Stage.SameDraws e' f' := by
    cases m with
    | advance => exact h.passLine hP
    | choose index => exact h.takeOption hP hc hc' index
    | finishEffect => exact h.endEffect hP hc hc' he.fit.steady h.isEffect.1 h.isEffect.2
  have hleads := HostCall.opening_leads K hc he fun t (ht : (m.call e).Brings e t) =>
    m.brings_nothing t ht
  have hleads' := HostCall.opening_leads Keeps.nothing hc'.any hf
    fun t (ht : (m.call f).Brings f t) => m.brings_nothing t ht
  rw [HostCall.run_eq, HostCall.run_eq]
  refine Matches.bind ((hopening.and_leads hleads hleads').mono (fun _ _ _ _ h => h)
    fun _ _ _ h => h.1) ?_
  intro go go' e' f' ⟨⟨hgo, h'⟩, ho, ho'⟩
  rw [hgo] at ho' ⊢
  cases go with
  | false => exact Matches.pure_iff.2 h'
  | true =>
    have hstarts : e'.Starts J := ho
    have hstarts' : f'.Starts fun _ => True := ho'
    show Matches (discard (Engine.step c)) (discard (Engine.step c')) e' f' _ _
    rw [HostCall.discard_eq, HostCall.discard_eq]
    refine Matches.bind (h'.step hP hc hc' draws_same hstarts.stepping hstarts'.stepping) ?_
    intro _ _ e'' f'' h''
    exact Matches.pure_iff.2 h''

/-- Twins are twins after every row of moves. -/
theorem Twins.moved (K : Keeps typed J) (hc : Quiet c (.through L.seen) True)
    (hc' : Quiet c' (.through L.seen') False) {moves : List Move} (he : e.AtRest J)
    (hf : f.AtRest fun _ => True) (h : Twins L Stage.SameDraws e f)
    (hmoved : e.moved c moves = some e') :
    ∃ f', f.moved c' moves = some f' ∧ Twins L Stage.SameDraws e' f' := by
  induction moves generalizing e f with
  | nil =>
    cases hmoved
    exact ⟨f, rfl, h⟩
  | cons m moves ih =>
    unfold Engine.moved at hmoved
    split at hmoved
    · next htame =>
      obtain ⟨r', f₁, hrun', htame', h₁⟩ := (h.move K hc hc' he hf m).of_tame rfl htame
      have hran := HostCall.run_leads K hc he fun t (ht : (m.call e).Brings e t) =>
        m.brings_nothing t ht
      have hran' := HostCall.run_leads Keeps.nothing hc'.any hf
        fun t (ht : (m.call f).Brings f t) => m.brings_nothing t ht
      have he₁ := (Leads.of_tame hran rfl htame).atRest
      have hf₁ := (Leads.of_tame hran' hrun' htame').atRest
      obtain ⟨f', hmoved', h'⟩ := ih he₁ hf₁ h₁ hmoved
      refine ⟨f', ?_, h'⟩
      unfold Engine.moved
      rw [hrun', if_pos htame']
      exact hmoved'
    · cases hmoved

end Engine

/-! ## Finding the script again -/

namespace Stage

variable {main : Script} {s u : Stage}

/-- Names of scripts tell them apart: under the name of the main script the library has no other
one, and another script that it has given out has a name of its own, by which it is found again. -/
structure NamesTell (main : Script) (s : Stage) : Prop where
  isText : main.name.IsText
  unshared : ∀ l n script, s.library = some l → main.name = .text n →
    (l.get s.disk.files (.text n)).1 = .ok script → script = main
  found : ∀ l n script, s.library = some l → Table.get? (.text n) l.compiled = some script →
    script = main ∨ ∃ m, m ≠ "" ∧ script.name = .text m ∧ main.name ≠ .text m ∧
      (l.get s.disk.files (.text m)).1 = .ok script

/-- Where there is no library, there is no script but the main one. -/
theorem NamesTell.of_none (hmain : main.name.IsText) (h : s.library = none) : s.NamesTell main := by
  refine ⟨hmain, fun l _ _ hl => ?_, fun l _ _ hl => ?_⟩ <;>
  · rw [h] at hl
    cases hl

theorem NamesTell.congr (h : s.NamesTell main) (hlibrary : u.library = s.library)
    (hdisk : u.disk = s.disk) : u.NamesTell main := by
  refine ⟨h.isText, ?_, ?_⟩
  · rw [hlibrary, hdisk]
    exact h.unshared
  · rw [hlibrary, hdisk]
    exact h.found

theorem truthy_text {n : String} : (Value.text n).truthy = false ↔ n = "" := by
  simp [Value.truthy]

/-- A session that goes by a name is saved under it. -/
theorem savedName_of_scriptName {n : String} (h : s.session.scriptName = .text n) :
    s.session.live.savedName = .text n := by
  by_cases hempty : n = ""
  · simp [Snapshot.savedName, Session.live, h, hempty, Value.orElse, Value.truthy, Value.shown]
  · simp [Snapshot.savedName, Session.live, h, hempty, Value.orElse, Value.truthy, Value.shown]

/-- A session that goes by no name is saved under none. -/
theorem savedName_of_falsy (h : s.session.scriptName.truthy = false) :
    s.session.live.savedName = .text "" := by
  simp [Snapshot.savedName, Session.live, Value.orElse, h, Value.shown]

/-- A script with a name goes by it. -/
theorem Named.scriptName_eq {n : String} (h : s.Named) (hname : s.script.name = .text n)
    (hne : n ≠ "") : s.session.scriptName = .text n := by
  rcases h with hsame | ⟨hfalsy, -⟩
  · rw [hsame, hname]
  · rw [hname, truthy_text] at hfalsy
    exact absurd hfalsy hne

/-- The name that is saved leads to the script that is played. -/
theorem Played.savedName (h : s.Played main) (hnames : s.NamesTell main) :
    ∃ n, s.session.live.savedName = .text n ∧ ((n = "" ∨ main.name = .text n) ∧ s.script = main ∨
      ¬(n = "" ∨ main.name = .text n) ∧
        ∃ l, s.library = some l ∧ (l.get s.disk.files (.text n)).1 = .ok s.script) := by
  obtain ⟨k, hk⟩ := hnames.isText
  have hmain : s.script = main → s.Named → ∃ n, s.session.live.savedName = .text n ∧
      (n = "" ∨ main.name = .text n) := by
    rintro hscript (hsame | ⟨-, hfalsy⟩)
    · rw [hscript, hk] at hsame
      exact ⟨k, savedName_of_scriptName hsame, .inr hk⟩
    · exact ⟨"", savedName_of_falsy hfalsy, .inl rfl⟩
  cases h with
  | main hscript hnamed =>
    obtain ⟨n, hsaved, hn⟩ := hmain hscript hnamed
    exact ⟨n, hsaved, .inl ⟨hn, hscript⟩⟩
  | @found l n hl hfound hnamed =>
    rcases hnames.found l n _ hl hfound with hscript | ⟨m, hne, hm, hother, hget⟩
    · rcases hnamed with hnamed | ⟨-, hsame⟩
      · obtain ⟨n, hsaved, hn⟩ := hmain hscript hnamed
        exact ⟨n, hsaved, .inl ⟨hn, hscript⟩⟩
      · refine ⟨n, savedName_of_scriptName hsame, ?_⟩
        by_cases hn : n = "" ∨ main.name = .text n
        · exact .inl ⟨hn, hscript⟩
        · exact .inr ⟨hn, l, hl, congrArg Prod.fst (Library.get_of_remembered hfound)⟩
    · -- the script has a name, so the session cannot go by the name that it was asked for
      rcases hnamed with hnamed | ⟨hfalsy, -⟩
      · exact ⟨m, savedName_of_scriptName (hnamed.scriptName_eq hm hne),
          .inr ⟨by rintro (h | h) <;> contradiction, l, hl, hget⟩⟩
      · rw [hm, truthy_text] at hfalsy
        exact absurd hfalsy hne

/-- A stage of the main script finds the script of another one by the name that was saved. -/
theorem scriptOf_saved (h : s.Played main) (hnames : s.NamesTell main) (hmain : u.script = main)
    (hdraws : s.SameDraws u) {t : Snapshot} (ht : t.script = s.session.live.savedName) :
    ∃ library, (Engine.scriptOf t).perform u = (.ok s.script, { u with library }) ∧
      s.SameDraws { u with library } := by
  obtain ⟨n, hn, hcases⟩ := h.savedName hnames
  rw [hn] at ht
  have hperform : (Engine.scriptOf t).perform u =
      (if !t.script.truthy || t.script.equal u.script.name then pure u.script
        else fetchScript { cause := .noLibraryToRestore t.script } t.script :
        Action Stage Script).perform u := rfl
  have hname : u.script.name = main.name := by rw [hmain]
  rw [hperform, ht, hname]
  have htest : (!(Value.text n).truthy || (Value.text n).equal main.name) = true ↔
      n = "" ∨ main.name = .text n := by
    rw [Bool.or_eq_true_iff, Value.text_equal_iff, Bool.not_eq_true', truthy_text]
  rcases hcases with ⟨hcond, hscript⟩ | ⟨hcond, l, hl, hget⟩
  · rw [if_pos (htest.2 hcond), hscript, ← hmain]
    exact ⟨u.library, rfl, hdraws⟩
  · rw [if_neg (mt htest.1 hcond)]
    have hsome : u.library.isSome := by
      rw [hdraws.isSome, hl]
      rfl
    obtain ⟨l', hl'⟩ := Option.isSome_iff_exists.1 hsome
    have hanswer := hdraws.answers l l' hl hl'
    refine ⟨some (l'.get u.disk.files (.text n)).2, ?_, hdraws.dice, ?_, ?_⟩
    · show (fetchScript _ (.text n)).perform u = _
      have hfetch : ∀ missing, (fetchScript missing (.text n)).perform u =
          ((l'.get u.disk.files (.text n)).1,
            { u with library := some (l'.get u.disk.files (.text n)).2 }) := by
        intro missing
        rw [fetchScript, Action.perform_get_bind, hl']
        rfl
      rw [hfetch, hanswer n, hget]
    · rw [hl]
      rfl
    · rintro l₁ _ hl₁ ⟨⟩ m
      rw [hl] at hl₁
      cases hl₁
      show ((l'.get u.disk.files (.text n)).2.get u.disk.files (.text m)).1 = _
      rw [Library.get_stable]
      exact hanswer m

end Stage

/-! ## A fresh engine -/

namespace Engine

variable {c : Collaborators σ} {c' : Collaborators τ} {w : Watch τ} {e e' : Engine σ}
  {f f' : Engine τ}

/-- The stage with what a setup gives it to draw on. -/
def Setup.stock (setup : Setup) (s : Stage) : Stage :=
  { s with dice := setup.dice, library := setup.library, disk := setup.disk }

/-- A fresh engine that has taken over a snapshot, which was written and read back in between, and
for which all is loaded; if that went without a mishap. -/
def restored (c : Collaborators σ) (setup : Setup) (outside : σ) (t : Snapshot) :
    Option (Engine σ) :=
  match t.toValue >>= Snapshot.ofValue, started c setup outside with
  | .ok t, some e => after c [.restore t, .resourcesReady] e
  | _, _ => none

theorem restored_reachable {setup : Setup} {outside : σ} {t : Snapshot}
    (h : restored c setup outside t = some e) : Reachable c anyCall setup outside e := by
  unfold restored at h
  split at h
  · next hstarted =>
    exact (Reachable.of_started hstarted).of_after (fun _ _ _ => trivial) h
  · cases h

/-- A beat that makes the engine wait is the last one. -/
theorem playBeats_of_playBeat (turns budget : Nat) (hr : e.running)
    (hrun : (playBeat c).perform e = (.ok (), e')) (hstops : e'.running = false) :
    (playBeats c (turns + 2) (budget + 1)).perform e = (.ok (), e') := by
  have hend : ∀ budget, (playBeats c (turns + 1) budget).perform e' = (.ok (), e') := by
    intro budget
    show (if !e'.running then pure () else _ : Play σ Unit).perform e' = _
    rw [hstops]
    rfl
  rw [playBeats, Action.perform_get_bind, hr]
  cases hcur : e.cursor.current with
  | none =>
    rw [playBeat_of_none hcur] at hrun
    exact hrun
  | some beat =>
    cases beat with
    | dialogue d =>
      rw [playBeat_of_dialogue hcur] at hrun
      exact (Action.perform_bind_ok hrun).trans (hend _)
    | command cmd =>
      rw [playBeat_of_command hcur] at hrun
      exact (Action.perform_bind_ok hrun).trans (hend _)

/-- A beat that makes the engine wait is all of the step that plays it. -/
theorem step_of_playBeat (hr : e.running) (hstepping : e.stepping = false)
    (hrun : (playBeat c).perform { e with stepping := true } = (.ok (), e'))
    (hstops : e'.running = false) :
    (step c).perform e = (.ok !e'.finished, { e' with stepping := false }) := by
  have hplay : (playBeats c turnsPerStep commandBudget).perform { e with stepping := true } =
      (.ok (), e') := playBeats_of_playBeat 999998 9999 hr hrun hstops
  have hdone : (orFail c (playBeats c turnsPerStep commandBudget)).perform
      { e with stepping := true } = (.ok (), e') := by
    refine (Action.perform_bind_ok (a := .ok ()) ?_).trans rfl
    rw [Action.perform_outcome, hplay]
  show (if e.running && !e.stepping then _ else _ : Play σ Bool).perform e = _
  rw [hr, hstepping]
  have hset : (modify fun e => { e with stepping := true } : Play σ PUnit).perform e =
      (.ok ⟨⟩, { e with stepping := true }) := rfl
  refine (Action.perform_bind_ok hset).trans ?_
  refine (Action.perform_bind_ok (a := .ok ()) ?_).trans rfl
  rw [Action.perform_outcome, hdone]

/-- A snapshot whose script is found, whose place exists and whose settings make sense is taken
over. -/
theorem restore_runs (hc : Quiet c' w False) {t : Snapshot} {script : Script} {cursor : Cursor}
    {library : Option Library} {u : TimedText}
    (hscript : (scriptOf t).perform f.stage = (.ok script, { f.stage with library }))
    (hcursor : Cursor.rebind script t.cursor = .ok cursor)
    (hretime : Stage.retimeFromSession.perform
      (({ f.stage with library } : Stage).adopting t cursor) =
      (.ok (), { ({ f.stage with library } : Stage).adopting t cursor with timedText := u })) :
    Runs False (restore c' t) f fun _ f' => Aside w []
      { f with
        stage := { ({ f.stage with library } : Stage).adopting t cursor with timedText := u }
        mode := .loading, error := none, awaiting := false, effect := none, menu := none } f' := by
  refine restore_ends (Ends.iff_perform.2 ⟨fun _ _ hrun => hrun, fun f' s' hrun => ?_⟩) ?_ ?_
  · cases hscript.symm.trans hrun
  · intro script' s error hrun herror
    cases hscript.symm.trans hrun
    cases hcursor.symm.trans herror
  · intro cursor' s hrun hcursor'
    cases hscript.symm.trans hrun
    cases hcursor.symm.trans hcursor'
    exact Ends.of_perform hretime (enterLoading_runs hc _)

/-- A fresh engine that is set up like this can continue the story of an engine that was set up like
that: it has the same main script and settings, and will draw on the same. -/
structure Continues (setup : Setup) (e : Engine σ) (setup' : Setup) : Prop where
  script : setup'.script = setup.script
  config : setup'.config = setup.config
  strict : setup'.strict = e.strict
  draws : e.stage.SameDraws (setup'.stock e.stage)

/-- A setup in which what there is to draw on is what the engine has left of it. -/
def Setup.resuming (setup : Setup) (e : Engine σ) : Setup :=
  { setup with
    dice := e.stage.dice, library := e.stage.library, disk := e.stage.disk, strict := e.strict }

theorem Setup.resuming_continues (setup : Setup) (e : Engine σ) :
    Continues setup e (setup.resuming e) :=
  ⟨rfl, rfl, rfl, .refl _⟩

/-- The engine has started to load the main script, and nothing has been sent. -/
structure Fresh (seen : τ → List Intent) (outside : τ) (e e₀ : Engine σ) (f : Engine τ) : Prop where
  config : f.stage.config = e₀.stage.config
  script : f.stage.script = e₀.stage.script
  timedText : f.stage.timedText = e₀.stage.timedText
  draws : e.stage.SameDraws f.stage
  strict : f.strict = e.strict
  stepping : f.stepping = false
  sent : seen f.outside = seen outside

/-- A fresh engine starts like the first one did. -/
theorem Continues.fresh {setup setup' : Setup} {outside : σ} {seen : τ → List Intent}
    {e₀ : Engine σ} (h : Continues setup e setup') (hc' : Quiet c' (.through seen) False)
    (hsetup : ofSetup setup outside = .ok e₀) (outside' : τ) :
    ∃ f, started c' setup' outside' = some f ∧ Fresh seen outside' e e₀ f := by
  obtain ⟨s₀, hs₀, he₀⟩ := bind_eq_ok.1 hsetup
  cases he₀
  have hstage : initialStage setup'.script setup'.config = .ok s₀ := by
    rw [h.script, h.config]
    exact hs₀
  obtain ⟨g, hg, hgstage, hgstrict, hgstepping, hgoutside⟩ : ∃ g, ofSetup setup' outside' = .ok g ∧
      g.stage = setup'.stock s₀ ∧ g.strict = setup'.strict ∧ g.stepping = false ∧
      g.outside = outside' := ⟨_, bind_eq_ok.2 ⟨s₀, hstage, rfl⟩, rfl, rfl, rfl, rfl⟩
  obtain ⟨⟨⟩, f, hload, x, hf, hsent, hkept⟩ := (enterLoading_runs hc' g).performs
  have hfiles : x.disk.files = g.stage.disk.files := hkept
  refine ⟨f, ?_, ?_⟩
  · rw [started, hg]
    simp only [hload]
  · have hstage' : f.stage = { setup'.stock s₀ with disk := x.disk } := by
      rw [hf, ← hgstage]
      rfl
    rw [hgstage] at hfiles
    refine ⟨?_, ?_, ?_, Stage.SameDraws.ofStock h.draws (.refl _) ⟨?_, ?_, ?_⟩, ?_, ?_, ?_⟩
    · rw [hstage']
      rfl
    · rw [hstage']
      rfl
    · rw [hstage']
      rfl
    · rw [hstage']
      rfl
    · rw [hstage']
      rfl
    · rw [hstage']
      exact hfiles
    · rw [hf]
      exact hgstrict.trans h.strict
    · rw [hf]
      exact hgstepping
    · rw [hf, ← hgoutside]
      exact hsent.trans (List.append_nil _)

/-- The engine stands where the saved stage stands, and nothing has been sent. -/
structure Ready (seen : τ → List Intent) (outside : τ) (e : Engine σ) (s : Stage) (f : Engine τ) :
    Prop where
  alike : s.Alike f.stage
  draws : e.stage.SameDraws f.stage
  awaiting : f.awaiting = false
  effect : f.effect = none
  menu : f.menu = none
  strict : f.strict = e.strict
  stepping : f.stepping = false
  sent : seen f.outside = seen outside

theorem Ready.aside {seen : τ → List Intent} {outside : τ} {s : Stage} {f f' : Engine τ}
    (h : Ready seen outside e s f) (ha : Aside (.through seen) [] f f') :
    Ready seen outside e s f' := by
  obtain ⟨x, rfl, hsent, hkept⟩ := ha
  exact ⟨{ h.alike with }, Stage.SameDraws.ofStock h.draws (.refl _) ⟨rfl, rfl, hkept⟩, h.awaiting,
    h.effect, h.menu, h.strict, h.stepping, (hsent.trans (List.append_nil _)).trans h.sent⟩

/-- A fresh engine takes over what was saved of a stage. -/
theorem Fresh.restore {setup : Setup} {outside : τ} {seen : τ → List Intent} {rate : Int}
    {e₀ : Engine σ} {s : Stage} (h : Fresh seen outside e e₀ f)
    (hc' : Quiet c' (.through seen) False)
    (he₀ : e₀.stage.Faithful setup.script setup.config rate)
    (hmain : e₀.stage.script = setup.script)
    (he : e.stage.Faithful setup.script setup.config rate)
    (hnames : e.stage.NamesTell setup.script) (hs : s.Faithful setup.script setup.config rate)
    (hscript : s.script = e.stage.script)
    (hname : s.session.scriptName = e.stage.session.scriptName) :
    ∃ f', (Engine.restore c' { s.session.live with script := s.session.live.savedName }).perform f =
      (.ok (), f') ∧ f'.mode = .loading ∧ Ready seen outside e s f' := by
  have hsaved : s.session.live.savedName = e.stage.session.live.savedName := by
    show Value.text (s.session.scriptName.orElse (.text "")).shown =
      .text (e.stage.session.scriptName.orElse (.text "")).shown
    rw [hname]
  obtain ⟨library, hfound, hdraws⟩ := Stage.scriptOf_saved he.belongs.played hnames
    (h.script.trans hmain) h.draws (t := { s.session.live with script := s.session.live.savedName })
    hsaved
  have hcursor : Cursor.rebind e.stage.script s.session.cursor.position = .ok s.session.cursor := by
    rw [← hscript, ← hs.regular.inStep]
    exact Cursor.rebind_position hs.regular.sound
  -- The settings of the saved stage make sense, so they are taken over.
  have hrate : f.stage.timedText.frameRate = s.timedText.frameRate := by
    rw [h.timedText, he₀.belongs.frameRate, hs.belongs.frameRate]
  have htext : f.stage.timedText.fullText.IsText := by
    rw [h.timedText]
    exact he₀.regular.text
  obtain ⟨n, r, hwants⟩ := hs.regular.timing
  have hwants' : (({ f.stage with library } : Stage).adopting
      { s.session.live with script := s.session.live.savedName } s.session.cursor).Wants n r :=
    hwants.congr (.refl _) hrate htext
  obtain ⟨u, hretime, -⟩ := hwants'.retimes
  obtain ⟨t, rfl, hline⟩ := (Ends.iff_perform.1 (Stage.retimeFromSession_leads _)).1 _ _ hretime
  obtain ⟨⟨⟩, f', hrestore, ha⟩ := (restore_runs hc' hfound hcursor hretime).performs
  refine ⟨f', hrestore, ?_, Ready.aside ?_ ha⟩
  · obtain ⟨x, rfl, -⟩ := ha
    rfl
  · refine ⟨⟨?_, hs.regular.inStep, rfl, rfl, rfl, rfl, rfl, ?_, ?_⟩, ?_, rfl, rfl, rfl, h.strict,
      h.stepping, h.sent⟩
    · exact (h.config.trans he₀.belongs.config).trans hs.belongs.config.symm
    · exact hline.frameRate.trans hrate
    · show t.fullText.IsText
      rw [hline.fullText]
      exact htext
    · exact Stage.SameDraws.ofStock hdraws (.refl _) ⟨rfl, rfl, rfl⟩

theorem resourcesReady_perform (hmode : f.mode = .loading) {f₁ f₂ : Engine τ} {b : Bool}
    (hset : (setMode c' .normal).perform f = (.ok (), f₁))
    (hstep : (step c').perform f₁ = (.ok b, f₂)) :
    (HostCall.resourcesReady.run c').perform f = (.ok (), f₂) := by
  show (if f.mode != .loading then _ else do
    setMode c' .normal
    discard (step c') : Play τ Unit).perform f = _
  rw [hmode]
  refine (Action.perform_bind_ok hset).trans ?_
  rw [HostCall.discard_eq]
  exact Action.perform_bind_ok hstep

/-- If the beat at which a stage was saved makes a fresh engine wait, that is the engine that has
been restored. -/
theorem Continues.restored {setup setup' : Setup} {outside : σ} {seen : τ → List Intent}
    {rate : Int} {e₀ : Engine σ} {s : Stage} (outside' : τ) (h : Continues setup e setup')
    (hc' : Quiet c' (.through seen) False)
    (hsetup : ofSetup setup outside = .ok e₀)
    (he₀ : e₀.stage.Faithful setup.script setup.config rate)
    (he : e.stage.Faithful setup.script setup.config rate)
    (hnames : e.stage.NamesTell setup.script) (hs : s.Faithful setup.script setup.config rate)
    (hscript : s.script = e.stage.script)
    (hname : s.session.scriptName = e.stage.session.scriptName) :
    ∃ f, Ready seen outside' e s f ∧ f.mode = .normal ∧
      ∀ f', (playBeat c').perform { f with stepping := true } = (.ok (), f') → f'.running = false →
        restored c' setup' outside' s.session.live = some { f' with stepping := false } := by
  have hmain : e₀.stage.script = setup.script := by
    obtain ⟨s₀, hs₀, he₀⟩ := bind_eq_ok.1 hsetup
    cases he₀
    obtain ⟨cursor, _, _, _, hcursor, -, -, -, rfl, -⟩ := initialStage_ok hs₀
    exact (start_sound hcursor).1
  obtain ⟨f₀, hstarted, hfresh⟩ := h.fresh hc' hsetup outside'
  obtain ⟨f₁, hrestore, hloading, hready⟩ :=
    hfresh.restore hc' he₀ hmain he hnames hs hscript hname
  obtain ⟨⟨⟩, f₂, hset, ha⟩ := (setMode_runs hc' .normal f₁).performs
  have hready₂ : Ready seen outside' e s f₂ := by
    refine Ready.aside (f := { f₁ with mode := .normal }) ?_ ha
    exact ⟨hready.alike, hready.draws, hready.awaiting, hready.effect, hready.menu, hready.strict,
      hready.stepping, hready.sent⟩
  have hmode : f₂.mode = .normal := by
    obtain ⟨x, rfl, -⟩ := ha
    rfl
  refine ⟨f₂, hready₂, hmode, fun f' hbeat hstops => ?_⟩
  have hstep := step_of_playBeat (running_iff.2 ⟨hmode, hready₂.awaiting⟩) hready₂.stepping hbeat
    hstops
  have hloaded := resourcesReady_perform hloading hset hstep
  have hrun : ((HostCall.restore { s.session.live with script := s.session.live.savedName }).run
      c').perform f₀ = (.ok (), f₁) := hrestore
  rw [Engine.restored, Snapshot.ofValue_written hs.regular.storable.live, hstarted]
  simp only [after, hrun, hloaded]
  rfl

/-! ## Going on from a save -/

/-- What the host may do before it saves. A snapshot that it restores could have been saved, as one
that was read from a file could; and it sets no flag while a session is set aside. -/
def considerate (e : Engine σ) : HostCall → Prop
  | .restore t => t.Storable ∧ t.script.IsText
  | .loadFromSlot _ | .quickload => ∀ store, e.saves = some store → store.Plain
  | .setFlag _ _ => e.session.safe = none
  | _ => True

theorem considerate_brings {call : HostCall} {t : Snapshot} (h : considerate e call)
    (hbrings : call.Brings e t) : t.Storable ∧ t.script.IsText := by
  cases call with
  | restore t' =>
    cases hbrings
    exact h
  | loadFromSlot slot =>
    obtain ⟨store, n, hstore, -, data, d, hread, ht⟩ := hbrings
    have hplain :=
      (Ends.iff_attempted.1 (SaveStore.readSlot_plain (h store hstore) _ _)).1 _ _ hread
    exact Snapshot.ofValue_storable (hplain data rfl) ht
  | quickload =>
    obtain ⟨store, hstore, data, d, hread, ht⟩ := hbrings
    have hplain :=
      (Ends.iff_attempted.1 (SaveStore.readQuick_plain (h store hstore) _)).1 _ _ hread
    exact Snapshot.ofValue_storable (hplain data rfl) ht
  | _ => cases hbrings

theorem considerate_setsFlag {call : HostCall} (h : considerate e call) (hsets : call.setsFlag) :
    e.session.safe = none := by
  cases call with
  | setFlag name value => exact h
  | _ => cases hsets

/-- The engine waits since a beat, which was played at the first engine and left the second. -/
structure WaitsSince (c : Collaborators σ) (allowed : Engine σ → HostCall → Prop) (setup : Setup)
    (outside : σ) (e₀ e₁ e : Engine σ) : Prop where
  moment : Moment c allowed setup outside e₀
  running : e₀.running
  perform : (playBeat c).perform e₀ = (.ok (), e₁)
  lingers : Lingers c allowed { e₁ with stepping := false } e

/-- The two engines stand at the same place of the same story. -/
structure SameStory (e : Engine σ) (f : Engine τ) : Prop where
  mode : f.mode = e.mode
  cursor : f.cursor = e.cursor
  flags : f.session.flags = e.session.flags
  scene : f.session.scene = e.session.scene
  overrides : f.session.overrides = e.session.overrides
  choiceSets : f.session.choiceSets = e.session.choiceSets

theorem Twins.sameStory {L : Ledger σ τ} {P : Stage → Stage → Prop} (h : Twins L P e f) :
    SameStory e f :=
  ⟨h.mode, h.stage.alike.cursor, h.stage.alike.flags, h.stage.alike.scene, h.stage.alike.overrides,
    h.stage.alike.choiceSets⟩

/-- A beat after which a line is displayed is that line. -/
theorem playBeat_awaiting {w : Watch σ} (hc : Quiet c w True) (hs : e.Steady) (hr : e.running)
    (hrun : (playBeat c).perform e = (.ok (), e')) (hawaiting : e'.awaiting) :
    ∃ d t visible, e.cursor.current = some (.dialogue d) ∧ Begun d.text e.stage.timedText t ∧
      Aside w [showing d.text d.speaker visible e] ((e.spoken d.text d.speaker).waiting t) e' := by
  obtain ⟨hmode, hnone⟩ := running_iff.1 hr
  cases hcur : e.cursor.current with
  | none =>
    rw [playBeat_of_none hcur] at hrun
    obtain ⟨x, rfl, -⟩ := (Ends.iff_perform.1 (finish_runs hc (by simp [hmode]))).1 _ _ hrun
    cases hawaiting
  | some beat =>
    cases beat with
    | dialogue d =>
      rw [playBeat_of_dialogue hcur] at hrun
      obtain ⟨t, visible, ht, ha⟩ :=
        (Ends.iff_perform.1 (display_waits hc (.inl trivial) d.speaker e)).1 _ _ hrun
      exact ⟨d, t, visible, rfl, ht, ha⟩
    | command cmd =>
      rw [playBeat_of_command hcur] at hrun
      have hsettles : Leads True (execute c cmd) e
          (fun _ e' => Settles (fun _ => True) w cmd e e') _ :=
        execute_settles (openLikeness fun h _ => h) (fun _ h => h) hc (hs.isOpen hr) trivial
          False.elim (fun _ _ _ h => h) fun _ => Keeps.nothing.switchScript
      obtain ⟨x, o, s', t', l, -, y, rfl, -⟩ := (Ends.iff_perform.1 hsettles).1 _ _ hrun
      have hsettled : (({ e.within x with stage := s' } : Engine σ).settled o).awaiting =
          e.awaiting := by
        cases o with
        | ask options line => cases line <;> rfl
        | _ => rfl
      have hfalse : e.awaiting = true := hsettled.symm.trans hawaiting
      rw [hnone] at hfalse
      cases hfalse

/-- An engine that waits for what another one waits for has the same session, if no flag was set. -/
theorem Stays.session_eq (h : e.Stays True e') : e'.session = e.session := by
  obtain ⟨s, x, rfl, ⟨flags, hsession, hflags⟩, -⟩ := h
  show s.session = e.stage.session
  rw [hsession, hflags trivial]

/-- A stage that is alike to one is alike to what has become of that one in the meantime. -/
theorem Stays.alike (h : e.Stays True e') {t : Stage} (ht : e.stage.Alike t) :
    e'.stage.Alike t := by
  have hsession : e'.stage.session = e.stage.session := h.session_eq
  obtain ⟨s, x, rfl, hs⟩ := h
  refine ⟨?_, ?_, ?_, ?_, ?_, ?_, ?_, ?_, ht.text⟩
  · exact ht.config.trans hs.config.symm
  · exact ht.script.trans hs.script.symm
  · rw [hsession]
    exact ht.cursor
  · rw [hsession]
    exact ht.flags
  · rw [hsession]
    exact ht.overrides
  · rw [hsession]
    exact ht.scene
  · rw [hsession]
    exact ht.choiceSets
  · exact ht.frameRate.trans hs.line.frameRate.symm

section
variable {setup setup' : Setup} {outside : σ} {seen : σ → List Intent} {seen' : τ → List Intent}
  {rate : Int} {eₛ e₀ e₁ : Engine σ}

/-- The command that an effect or a menu began with has set the session aside, and is not one that
draws on anything. -/
theorem Waits.command
    (h : Waits c considerate (Stage.Faithful setup.script setup.config rate) e₀ e₁ e)
    (hmode : e.mode = .effectRunning ∨ e.mode = .awaitingChoice) :
    ∃ cmd, e₀.cursor.current = some (.command cmd) ∧ Command.Settled cmd.kind ∧
      e₁.session.safe = some e₀.session.live := by
  have hmode₁ : e₁.mode = e.mode := h.lingers.mode.symm
  rcases hmode with hmode | hmode
  · obtain ⟨cmd, hcmd, hlasts, hsafe⟩ := h.after.effect (hmode₁.trans hmode)
    exact ⟨cmd, hcmd, hlasts.settled, hsafe⟩
  · obtain ⟨cmd, hcmd, hasks, hsafe⟩ := h.after.menu (hmode₁.trans hmode)
    exact ⟨cmd, hcmd, Command.settled_of_asks hasks, hsafe⟩

/-- What has become of the engine since it waits. No flag was set while a snapshot is set aside. -/
theorem Waits.stays (hc : Quiet c (.through seen) True)
    (h : Waits c considerate (Stage.Faithful setup.script setup.config rate) e₀ e₁ e)
    (hloading : e.mode ≠ .loading) (hended : e.mode ≠ .ended) :
    ({ e₁ with stepping := false } : Engine σ).Stays (e₁.session.safe.isSome) e := by
  have hmode₁ : ({ e₁ with stepping := false } : Engine σ).mode = e.mode := h.lingers.mode.symm
  rw [← hmode₁] at hloading hended
  refine (h.lingers.stays Stage.keepsFaithful hc (fun e call t _ hallowed hbrings => ?_) hloading
    hended ?_ h.rest).2
  · obtain ⟨hstorable, htext⟩ := considerate_brings hallowed hbrings
    exact Stage.admits_of_storable hstorable htext
  · intro e₂ call hstays hallowed hsafe
    cases hsets : call.setsFlag with
    | false => rfl
    | true =>
      have hnone := considerate_setsFlag hallowed hsets
      obtain ⟨s, x, rfl, ⟨flags, hsession, -⟩, -⟩ := hstays
      have hnone : s.session.safe = none := hnone
      rw [hsession] at hnone
      have hnone : e₁.session.safe = none := hnone
      rw [hnone] at hsafe
      cases hsafe

/-- A save of an engine that waits for an effect or a menu. The fresh engine plays the command
again, from the session that was set aside. -/
theorem Waits.resumes_command (outside' : τ) (hc : Quiet c (.through seen) True)
    (hc' : Quiet c' (.through seen') False) (hsetup : ofSetup setup outside = .ok eₛ)
    (hfaithful : eₛ.stage.Faithful setup.script setup.config rate)
    (hnames : e.stage.NamesTell setup.script) (hcont : Continues setup e setup')
    (hrest : e.AtRest (Stage.Faithful setup.script setup.config rate))
    (h : Waits c considerate (Stage.Faithful setup.script setup.config rate) e₀ e₁ e)
    (hmode : e.mode = .effectRunning ∨ e.mode = .awaitingChoice) :
    ∃ f, restored c' setup' outside' e.session.persistent = some f ∧
      Twins ⟨seen, seen', seen e.outside, seen' f.outside⟩ Stage.SameDraws e f ∧
      SentAlike (seen e₀.outside) (seen e₁.outside) (seen' outside') (seen' f.outside) := by
  obtain ⟨cmd, hcmd, hsettled, hsafe⟩ := h.command hmode
  have hloading : e.mode ≠ .loading := by
    rcases hmode with hmode | hmode <;> simp [hmode]
  have hended : e.mode ≠ .ended := by
    rcases hmode with hmode | hmode <;> simp [hmode]
  have hstays : ({ e₁ with stepping := false } : Engine σ).Stays True e := by
    have hstays := h.stays hc hloading hended
    simpa only [hsafe, Option.isSome_some] using hstays
  have hsession : e.stage.session = e₁.stage.session := hstays.session_eq
  have hpersistent : e.session.persistent = e₀.session.live := by
    have hsame : e.session.persistent = e₁.session.persistent :=
      congrArg Session.persistent hstays.session_eq
    rw [hsame, Session.persistent, hsafe]
    rfl
  obtain ⟨hnormal, hawaiting⟩ := running_iff.1 h.running
  have hsteady := h.fit.steady
  -- The command has left the script alone, so its name still leads to it.
  obtain ⟨hroots, hstrict⟩ : e₀.stage.SameRoots e₁.stage ∧ e₁.strict = e₀.strict := by
    have hplay : (execute c cmd).perform e₀ = (.ok (), e₁) :=
      (playBeat_of_command hcmd).symm.trans h.perform
    exact (Ends.iff_perform.1 (execute_roots hc (hsteady.isOpen h.running) hsettled)).1 _ _ hplay
  have hscript : e₀.stage.script = e.stage.script :=
    (hstays.script_eq.trans hroots.script).symm
  have hname : e₀.stage.session.scriptName = e.stage.session.scriptName := by
    rw [hsession, hroots.scriptName]
  obtain ⟨f, hready, hfmode, hrestored⟩ := hcont.restored outside' hc' hsetup hfaithful
    hrest.fit.stage hnames h.fit.stage hscript hname
  -- The two play the command side by side.
  have hP : Stage.OfStock fun _ t => f.stage.SameStock t := fun h _ ht => h.trans ht
  have htwins : Twins ⟨seen, seen', seen e₀.outside, seen' outside'⟩
      (fun _ t => f.stage.SameStock t) e₀ { f with stepping := true } := by
    have heffect : SameEffect e₀.effect f.effect := by
      rw [hsteady.effect_eq_none (by simp [hnormal]), hready.effect]
      exact .none
    have hmenu : f.menu = e₀.menu := by
      rw [hsteady.menu_eq_none (by simp [hnormal]), hready.menu]
    refine ⟨⟨h.fit.stage.regular, hready.alike, .refl _⟩, hfmode.trans hnormal.symm,
      hready.awaiting.trans hawaiting.symm, heffect, hmenu, ?_, ?_⟩
    · have hstrict₁ : e.strict = e₁.strict := by
        obtain ⟨s, x, rfl, -⟩ := hstays
        rfl
      exact hready.strict.trans (hstrict₁.trans hstrict)
    · show SentAlike _ _ _ (seen' f.outside)
      rw [hready.sent]
      exact .refl _ _
  have hdraws : ∀ cmd', e₀.cursor.current = some (.command cmd') →
      Twins.Draws (fun _ t => f.stage.SameStock t) cmd'.kind := by
    intro cmd' hcmd'
    rw [hcmd] at hcmd'
    cases hcmd'
    exact ⟨fun hkind => absurd hkind hsettled.roll, fun hkind => absurd hkind hsettled.switch⟩
  obtain ⟨⟨⟩, f', hbeat, htwins'⟩ :=
    (Ends.iff_perform.1 (htwins.playBeat hP hc hc' h.running hdraws)).1 _ _ h.perform
  have hmode₁ : e.mode = e₁.mode := h.lingers.mode
  have hstops : f'.running = false := by
    have hmode' : f'.mode = e.mode := htwins'.mode.trans hmode₁.symm
    rcases hmode with hmode | hmode <;> simp [Engine.running, hmode', hmode]
  refine ⟨{ f' with stepping := false }, ?_, ?_, htwins'.told⟩
  · rw [hpersistent]
    exact hrestored f' hbeat hstops
  · have halike := hstays.alike htwins'.stage.alike
    obtain ⟨s, x, rfl, -⟩ := hstays
    exact ⟨⟨hrest.fit.stage.regular, halike, Stage.SameDraws.ofStock hready.draws (.refl _)
      htwins'.stage.stock⟩, htwins'.mode, htwins'.awaiting, htwins'.effect, htwins'.menu,
      htwins'.strict, .refl _ _⟩

/-- A save of an engine that waits at a line. The fresh engine shows the line again. -/
theorem Waits.resumes_line (outside' : τ) (hc : Quiet c (.through seen) True)
    (hc' : Quiet c' (.through seen') False) (hsetup : ofSetup setup outside = .ok eₛ)
    (hfaithful : eₛ.stage.Faithful setup.script setup.config rate)
    (hnames : e.stage.NamesTell setup.script) (hcont : Continues setup e setup')
    (hrest : e.AtRest (Stage.Faithful setup.script setup.config rate))
    (h : Waits c considerate (Stage.Faithful setup.script setup.config rate) e₀ e₁ e)
    (hmode : e.mode = .normal) :
    ∃ f, restored c' setup' outside' e.session.persistent = some f ∧
      Twins ⟨seen, seen', seen e.outside, seen' f.outside⟩ Stage.SameDraws e f ∧
      SentAlike (seen e₀.outside) (seen e₁.outside) (seen' outside') (seen' f.outside) := by
  have hsteady := hrest.fit.steady
  have hawaiting : e.awaiting = true := by
    simpa [Engine.running, hmode] using hrest.running
  have hpersistent : e.session.persistent = e.session.live := by
    rw [Session.persistent, hsteady.safe_eq_none (by simp [hmode]) (by simp [hmode])]
    rfl
  -- The beat that the engine waits since is the line at its cursor.
  obtain ⟨s, x, he, ⟨flags, hsession, -⟩, -⟩ := h.stays hc (by simp [hmode]) (by simp [hmode])
  have hawaiting₁ : e₁.awaiting = true := by
    rw [he] at hawaiting
    exact hawaiting
  obtain ⟨d, t, visible, hd, -, y, he₁, hsent, -⟩ :=
    playBeat_awaiting hc h.fit.steady h.running h.perform hawaiting₁
  have hsession' : e.stage.session = { e₁.stage.session with flags } := by
    rw [he]
    exact hsession
  have hcur : e.cursor.current = some (.dialogue d) := by
    show e.stage.session.cursor.current = _
    rw [hsession', he₁]
    exact hd
  have hscene : e.stage.session.scene = { e₀.stage.session.scene with speech := d.text } := by
    rw [hsession', he₁]
    rfl
  have htext : d.text.IsText := hrest.fit.stage.regular.beat_typed hcur
  obtain ⟨f, hready, hfmode, hrestored⟩ := hcont.restored outside' hc' hsetup hfaithful
    hrest.fit.stage hnames hrest.fit.stage rfl rfl
  have hcur' : f.cursor.current = some (.dialogue d) := by
    show f.stage.session.cursor.current = _
    rw [hready.alike.cursor]
    exact hcur
  obtain ⟨⟨⟩, f', hrun, t', visible', ht', hf'⟩ :=
    (display_waits hc' (.inr htext) d.speaker { f with stepping := true }).performs
  have hbeat : (playBeat c').perform { f with stepping := true } = (.ok (), f') := by
    have hcur' : ({ f with stepping := true } : Engine τ).cursor.current = some (.dialogue d) :=
      hcur'
    rw [playBeat_of_dialogue hcur']
    exact hrun
  obtain ⟨y', rfl, hsent', hkept'⟩ := hf'
  have hstage : Stage.Shares Stage.SameDraws e.stage
      ((({ f with stepping := true } : Engine τ).spoken d.text d.speaker).waiting t' |>.within
        y').stage := by
    refine ⟨hrest.fit.stage.regular, ⟨hready.alike.config, hready.alike.script, hready.alike.cursor,
      hready.alike.flags, hready.alike.overrides, ?_, hready.alike.choiceSets, ?_, ?_⟩, ?_⟩
    · show { f.stage.session.scene with speech := d.text } = e.stage.session.scene
      rw [hready.alike.scene, hscene]
    · exact ht'.frameRate.trans hready.alike.frameRate
    · show t'.fullText.IsText
      rw [ht'.fullText]
      exact htext
    · exact Stage.SameDraws.ofStock hready.draws (.refl _) ⟨rfl, rfl, hkept'⟩
  have heffect : SameEffect e.effect f.effect := by
    rw [hsteady.effect_eq_none (by simp [hmode]), hready.effect]
    exact .none
  have hmenu : f.menu = e.menu := by
    rw [hsteady.menu_eq_none (by simp [hmode]), hready.menu]
  refine ⟨{ ((({ f with stepping := true } : Engine τ).spoken d.text d.speaker).waiting t').within
    y'
    with stepping := false }, ?_, ⟨hstage, hfmode.trans hmode.symm, hawaiting.symm, heffect, hmenu,
    hready.strict, .refl _ _⟩, ?_⟩
  · rw [hpersistent]
    exact hrestored _ hbeat (by simp [Engine.running, within, waiting])
  · have hspeaker : speakerOf d.speaker { f with stepping := true } = speakerOf d.speaker e₀ := by
      have hsame : ({ f with stepping := true } : Engine τ).session.scene.speaker =
          e₀.session.scene.speaker := by
        show f.stage.session.scene.speaker = e₀.stage.session.scene.speaker
        rw [hready.alike.scene, hscene]
      unfold speakerOf
      rw [hsame]
    have hshown : seen e₁.outside = seen e₀.outside ++ [showing d.text d.speaker visible e₀] := by
      rw [he₁]
      exact hsent
    refine ⟨_, _, hshown, hsent'.trans (congrArg (· ++ _) hready.sent), ?_⟩
    simp [Intent.tidy, showing, hspeaker]

end

/-- A session that is saved and restored goes on as the first one does. The fresh engine sends what
the beat has sent that the first one waits at, and then, for every row of moves, what the first one
sends. -/
theorem Reachable.replays {setup setup' : Setup} {outside : σ} {seen : σ → List Intent}
    {seen' : τ → List Intent} (outside' : τ) (hc : Quiet c (.through seen) True)
    (hc' : Quiet c' (.through seen') False) (hscript : setup.script.Typed)
    (hconfig : setup.config.toValue.plain) (hlibrary : ∀ l, setup.library = some l → l.Typed)
    (h : Reachable c considerate setup outside e)
    (hmode : e.mode = .normal ∨ e.mode = .effectRunning ∨ e.mode = .awaitingChoice)
    (hnames : e.stage.NamesTell setup.script) (hcont : Continues setup e setup') :
    ∃ f, restored c' setup' outside' e.session.persistent = some f ∧ SameStory e f ∧
      (∃ e₀ e₁, WaitsSince c considerate setup outside e₀ e₁ e ∧
        SentAlike (seen e₀.outside) (seen e₁.outside) (seen' outside') (seen' f.outside)) ∧
      ∀ moves e', e.moved c moves = some e' → ∃ f', f.moved c' moves = some f' ∧ SameStory e' f' ∧
        SentAlike (seen e.outside) (seen e'.outside) (seen' f.outside) (seen' f'.outside) := by
  obtain ⟨eₛ, hsetup⟩ := h.exists_setup
  have hfaithful := Stage.initial_faithful hsetup hscript hconfig hlibrary
  have hstart : ∀ e, ofSetup setup outside = .ok e →
      e.stage.Faithful setup.script setup.config eₛ.stage.timedText.frameRate := by
    intro e he
    rw [hsetup] at he
    cases he
    exact hfaithful
  have hadmits : ∀ (e : Engine σ) call t,
      e.AtRest (Stage.Faithful setup.script setup.config eₛ.stage.timedText.frameRate) →
      considerate e call → call.Brings e t →
      Admits (Stage.Faithful setup.script setup.config eₛ.stage.timedText.frameRate) t := by
    intro e call t _ hallowed hbrings
    obtain ⟨hstorable, htext⟩ := considerate_brings hallowed hbrings
    exact Stage.admits_of_storable hstorable htext
  have hrest := h.atRest Stage.keepsFaithful hc hstart hadmits
  have hloading : e.mode ≠ .loading := by
    rcases hmode with hmode | hmode | hmode <;> simp [hmode]
  have hended : e.mode ≠ .ended := by
    rcases hmode with hmode | hmode | hmode <;> simp [hmode]
  obtain ⟨e₀, e₁, hmoment, hwaits⟩ :=
    h.waits Stage.keepsFaithful hc hstart hadmits hloading hended
  obtain ⟨f, hrestored, htwins, hsent⟩ : ∃ f,
      restored c' setup' outside' e.session.persistent = some f ∧
      Twins ⟨seen, seen', seen e.outside, seen' f.outside⟩ Stage.SameDraws e f ∧
      SentAlike (seen e₀.outside) (seen e₁.outside) (seen' outside') (seen' f.outside) := by
    rcases hmode with hmode | hmode
    · exact hwaits.resumes_line outside' hc hc' hsetup hfaithful hnames hcont hrest hmode
    · exact hwaits.resumes_command outside' hc hc' hsetup hfaithful hnames hcont hrest hmode
  have hrest' : f.AtRest fun _ => True := by
    have hreachable := restored_reachable hrestored
    exact hreachable.atRest Keeps.nothing hc'.any (fun _ _ => trivial)
      fun _ _ t _ _ _ => Admits.nothing t
  refine ⟨f, hrestored, htwins.sameStory,
    ⟨e₀, e₁, ⟨hmoment, hwaits.running, hwaits.perform, hwaits.lingers⟩, hsent⟩, ?_⟩
  intro moves e' hmoved
  obtain ⟨f', hmoved', htwins'⟩ :=
    htwins.moved Stage.keepsFaithful hc hc' hrest hrest' hmoved
  exact ⟨f', hmoved', htwins'.sameStory, htwins'.told⟩

/-- A story that is saved while it fades out goes on to fade out. -/
theorem Reachable.replays_fading : ∃ e f : Engine (List Intent), e.mode = .effectRunning ∧
    restored .recording (fading.resuming e) [] e.session.persistent = some f ∧ SameStory e f ∧
    ∀ moves e', e.moved .recording moves = some e' → ∃ f', f.moved .recording moves = some f' ∧
      SameStory e' f' ∧ SentAlike e.outside e'.outside f.outside f'.outside := by
  have hfacts : ((started .recording fading []).bind (after .recording [.resourcesReady])).map
      (fun e => (e.mode, e.stage.library.isSome)) = some (.effectRunning, false) := by
    decide +kernel
  obtain ⟨e, he, hfacts⟩ := Option.map_eq_some_iff.1 hfacts
  simp only [Prod.mk.injEq, Option.isSome_eq_false_iff, Option.isNone_iff_eq_none] at hfacts
  obtain ⟨hmode, hlibrary⟩ := hfacts
  obtain ⟨e₀, he₀, he⟩ := Option.bind_eq_some_iff.1 he
  have hreach : Reachable .recording considerate fading [] e := by
    refine (Reachable.of_started he₀).of_after ?_ he
    intro call hcall e
    rw [List.mem_singleton.1 hcall]
    trivial
  have htyped : fading.script.Typed := compile_typed compile_fadingDocument
  have hconfig : fading.config.toValue.plain := by
    decide +kernel
  have hnames : e.stage.NamesTell fading.script := .of_none ⟨_, rfl⟩ hlibrary
  obtain ⟨f, hrestored, hsame, -, hmoves⟩ :=
    hreach.replays [] Collaborators.recording_quiet.any Collaborators.recording_quiet htyped hconfig
      (fun _ h => by cases h) (.inr (.inl hmode)) hnames (fading.resuming_continues e)
  exact ⟨e, f, hmode, hrestored, hsame, hmoves⟩

/-- A story whose line is typed out. -/
def typing : Setup :=
  .telling "typing" [".settypewritertext:10", "Hello"]

/-- The host asks the first engine to reveal its line, and it does; the fresh engine shows the line
and waits to be asked. -/
theorem replay_reveals_nothing : ∃ e f : Engine (List Intent),
    Reachable .recording considerate typing [] e ∧ e.mode = .normal ∧
    restored .recording (typing.resuming e) [] e.session.persistent = some f ∧
    e.outside.map (·.kind) = [.showText, .revealText] ∧ f.outside.map (·.kind) = [.showText] := by
  have hfacts : (((started .recording typing []).bind
      (after .recording [.resourcesReady, .requestAdvance])).bind fun e =>
        (restored .recording (typing.resuming e) [] e.session.persistent).map fun f =>
          (e.mode, e.outside.map (·.kind), f.outside.map (·.kind))) =
      some (.normal, [.showText, .revealText], [.showText]) := by
    decide +kernel
  obtain ⟨e, he, hfacts⟩ := Option.bind_eq_some_iff.1 hfacts
  obtain ⟨f, hrestored, hfacts⟩ := Option.map_eq_some_iff.1 hfacts
  simp only [Prod.mk.injEq] at hfacts
  obtain ⟨hmode, hsent, hsent'⟩ := hfacts
  obtain ⟨e₀, he₀, he⟩ := Option.bind_eq_some_iff.1 he
  have hreach : Reachable .recording considerate typing [] e := by
    refine (Reachable.of_started he₀).of_after ?_ he
    intro call hcall e
    simp only [List.mem_cons, List.not_mem_nil, or_false] at hcall
    rcases hcall with rfl | rfl
    · trivial
    · trivial
  exact ⟨e, f, hreach, hmode, hrestored, hsent, hsent'⟩

end Engine

end VisualNovel
