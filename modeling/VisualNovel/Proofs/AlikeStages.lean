import VisualNovel.Proofs.Retiming

/-!
# Stages that play the same story

A stage is *alike* to another one if it agrees with it on all that a save keeps, and its dice and
its library will show and find the same. What a save does not keep may differ: how much of a line is
visible, what is set aside, which scripts the library remembers, the rest of the files and the log.

`Stage.Alike.likeness` says that commands do the same on stages that are alike. `Stage.likeness`
says it of stages the first of which is `Regular`, and stays so: its script is well typed, and a
save would lose nothing of it.
-/

namespace VisualNovel

open Script

/-! ## Dice -/

namespace Dice

/-- Two rows of dice will show the same numbers. -/
def SameDraws (d d' : Dice) : Prop :=
  ∀ k, ({ d' with used := d'.used + k } : Dice).draw = ({ d with used := d.used + k } : Dice).draw

theorem SameDraws.refl (d : Dice) : SameDraws d d :=
  fun _ => rfl

theorem SameDraws.draw {d d' : Dice} (h : SameDraws d d') : d'.draw = d.draw :=
  h 0

theorem SameDraws.next {d d' : Dice} (h : SameDraws d d') :
    SameDraws { d with used := d.used + 1 } { d' with used := d'.used + 1 } := by
  intro k
  have hk := h (1 + k)
  simpa [← Nat.add_assoc] using hk

/-- A throw that shows a number, added to a sum. -/
theorem total_succ (sides : Value) (throws : Nat) (sum : Value) (d : Dice) :
    (total sides (throws + 1) sum).perform d =
      match face d.draw sides >>= sum.add with
      | .ok sum => (total sides throws sum).perform { d with used := d.used + 1 }
      | .error m => (.error m, { d with used := d.used + 1 }) := by
  show (ExceptT.run (roll sides >>= _)).run d = _
  rw [run_bind]
  have hroll : ((ExceptT.run (roll sides)).run d : Except Mishap Value × Dice) =
      (face d.draw sides, { d with used := d.used + 1 }) := rfl
  rw [hroll]
  cases face d.draw sides with
  | error m => rfl
  | ok shown =>
    show (ExceptT.run (match sum.add shown with
      | .ok sum => total sides throws sum
      | .error m => throw m)).run _ = match sum.add shown with
      | .ok sum => (total sides throws sum).perform _
      | .error m => _
    cases sum.add shown <;> rfl

/-- Dice that will show the same numbers throw the same sum. -/
theorem SameDraws.total {d d' : Dice} (h : SameDraws d d') (sides : Value) (throws : Nat)
    (sum : Value) :
    ((Dice.total sides throws sum).perform d').1 = ((Dice.total sides throws sum).perform d).1 ∧
      SameDraws ((Dice.total sides throws sum).perform d).2
        ((Dice.total sides throws sum).perform d').2 := by
  induction throws generalizing d d' sum with
  | zero => exact ⟨rfl, h⟩
  | succ throws ih =>
    rw [total_succ, total_succ, h.draw]
    split
    · exact ih h.next _
    · exact ⟨rfl, h.next⟩

end Dice

/-! ## Libraries -/

theorem Table.get?_put {κ α : Type} [BEq κ] [EquivBEq κ] {k key : κ} {v : α} {t : Table κ α} :
    Table.get? key (Table.put k v t) = if k == key then some v else Table.get? key t := by
  induction t with
  | nil => rfl
  | cons e rest ih =>
    obtain ⟨k', v'⟩ := e
    simp only [Table.put]
    split
    · next hk =>
      simp only [Table.get?]
      rw [BEq.congr_left hk]
      split <;> rfl
    · next hk =>
      simp only [Table.get?, ih]
      by_cases hkey : k' == key
      · have hne : (k == key) = false := by
          cases hsame : k == key with
          | false => rfl
          | true => exact absurd (BEq.trans hkey (BEq.symm hsame)) hk
        simp [hkey, hne]
      · simp [hkey]

theorem Table.get?_congr {κ α : Type} [BEq κ] [EquivBEq κ] {k key : κ} (h : k == key)
    (t : Table κ α) : Table.get? k t = Table.get? key t := by
  induction t with
  | nil => rfl
  | cons e rest ih =>
    simp only [Table.get?, ih]
    rw [BEq.congr_right h]

namespace Library

variable {l : Library} {files : Files.Tree}

/-- A script that was found is remembered. -/
theorem get_remembers {name : Value} {script : Script} (h : (l.get files name).1 = .ok script) :
    Table.get? name (l.get files name).2.compiled = some script := by
  unfold get at h ⊢
  split at h
  · next hkey =>
    rw [if_pos hkey]
    split at h
    · next found hfound =>
      cases h
      exact hfound
    · next hmissing =>
      split at h
      · next compiled hcompiled =>
        cases h
        show Table.get? name (Table.put name script l.compiled) = _
        rw [Table.get?_put, if_pos (BEq.refl name)]
      · cases h
  · cases h

/-- A script that is remembered stays so. -/
theorem get_keeps {name key : Value} {script : Script}
    (h : Table.get? key l.compiled = some script) :
    Table.get? key (l.get files name).2.compiled = some script := by
  unfold get
  split
  · split
    · exact h
    · next hmissing =>
      split
      · next compiled _ =>
        show Table.get? key (Table.put name compiled l.compiled) = _
        rw [Table.get?_put]
        split
        · next hsame =>
          rw [Table.get?_congr hsame l.compiled, h] at hmissing
          cases hmissing
        · exact h
      · exact h
  · exact h

/-- A script that is remembered is given out as it is. -/
theorem get_of_remembered {n : String} {script : Script}
    (h : Table.get? (.text n) l.compiled = some script) :
    l.get files (.text n) = (.ok script, l) := by
  have hkey : (Value.text n).canBeKey = true := rfl
  rw [get, if_pos hkey, h]

/-- A library that remembers scripts as they would be compiled answers as if it compiled anew. -/
theorem get_eq_compileNamed {n : String}
    (h : ∀ script, Table.get? (.text n) l.compiled = some script →
      compileNamed l.shelf files (.text n) = .ok script) :
    (l.get files (.text n)).1 = compileNamed l.shelf files (.text n) := by
  have hkey : (Value.text n).canBeKey = true := rfl
  unfold get
  rw [if_pos hkey]
  split
  · next script hscript => exact (h script hscript).symm
  · split
    · next script hscript => exact hscript.symm
    · next f hf => exact hf.symm

/-- A library that was asked is as it was, or it remembers one more script that it has compiled. -/
theorem get_snd (l : Library) (files : Files.Tree) (n : String) :
    (l.get files (.text n)).2 = l ∨ ∃ script, compileNamed l.shelf files (.text n) = .ok script ∧
      (l.get files (.text n)).2 =
        { l with compiled := Table.put (.text n) script l.compiled } := by
  have hkey : (Value.text n).canBeKey = true := rfl
  unfold get
  rw [if_pos hkey]
  split
  · exact .inl rfl
  · split
    · next script hscript => exact .inr ⟨script, hscript, rfl⟩
    · exact .inl rfl

/-- Looking for one script changes nothing of what is found for another. -/
theorem get_stable (l : Library) (files : Files.Tree) (n m : String) :
    ((l.get files (.text n)).2.get files (.text m)).1 = (l.get files (.text m)).1 := by
  have hkey : ∀ s, (Value.text s).canBeKey = true := fun _ => rfl
  cases hn : Table.get? (.text n) l.compiled with
  | some script => rw [get_of_remembered hn]
  | none =>
    cases hscript : compileNamed l.shelf files (.text n) with
    | error f =>
      have hget : l.get files (.text n) = (.error f, l) := by simp [get, hkey, hn, hscript]
      rw [hget]
    | ok script =>
      have hget : l.get files (.text n) =
          (.ok script, { l with compiled := Table.put (.text n) script l.compiled }) := by
        simp [get, hkey, hn, hscript]
      rw [hget]
      by_cases hsame : n = m
      · subst hsame
        rw [hget, get_of_remembered ((Table.get?_put).trans (if_pos (BEq.refl _)))]
      · have hother : Table.get? (.text m) (Table.put (.text n) script l.compiled) =
            Table.get? (.text m) l.compiled := by
          rw [Table.get?_put, if_neg]
          simpa using hsame
        simp only [get, hkey, if_true, hother]
        cases Table.get? (.text m) l.compiled with
        | some _ => rfl
        | none => cases compileNamed l.shelf files (.text m) <;> rfl

end Library

/-! ## Stages -/

theorem Overrides.plain_cinematic {o : Overrides} (h : o.toValue.plain) {seconds allowed : Value}
    (hseconds : seconds.plain) (hallowed : allowed.plain) (on : Bool) :
    ({ o with cinematicSeconds := seconds, cinematicInputAllowed := allowed
              typewriterRate := if on then .int 0 else o.typewriterRate } :
      Overrides).toValue.plain := by
  have := Overrides.plain_iff.1 h
  cases on <;> simp_all [Overrides.plain_iff]

theorem Overrides.plain_typewriter {o : Overrides} (h : o.toValue.plain) {rate canSkip : Value}
    (hrate : rate.plain) (hskip : canSkip.plain) (on : Bool) :
    ({ o with typewriterRate := rate, typewriterCanSkip := canSkip
              cinematicSeconds := if on then .float 0.0 else o.cinematicSeconds } :
      Overrides).toValue.plain := by
  have := Overrides.plain_iff.1 h
  cases on <;> simp_all [Overrides.plain_iff]

theorem Overrides.SameTiming.refl (o : Overrides) : o.SameTiming o :=
  ⟨rfl, rfl, rfl, rfl⟩

namespace Stage

/-- Nothing of the stage would be lost by a save, its scripts are well typed, the one that is played
is the one that the cursor stands in, and its settings can be taken over. -/
structure Regular (s : Stage) : Prop where
  storable : s.Storable
  sound : s.session.cursor.Sound
  script : s.script.Typed
  inStep : s.session.cursor.script = s.script
  library : ∀ l, s.library = some l → l.Typed
  text : s.timedText.fullText.IsText
  timing : ∃ f r, s.Wants f r

/-- The second stage plays the story of the first. -/
structure Alike (s t : Stage) : Prop where
  config : t.config = s.config
  script : t.script = s.script
  cursor : t.session.cursor = s.session.cursor
  flags : t.session.flags = s.session.flags
  overrides : t.session.overrides = s.session.overrides
  scene : t.session.scene = s.session.scene
  choiceSets : t.session.choiceSets = s.session.choiceSets
  frameRate : t.timedText.frameRate = s.timedText.frameRate
  text : t.timedText.fullText.IsText

theorem Regular.alike {s : Stage} (h : s.Regular) : s.Alike s :=
  ⟨rfl, rfl, rfl, rfl, rfl, rfl, rfl, rfl, h.text⟩

theorem Regular.beat_typed {s : Stage} (h : s.Regular) {beat : Beat}
    (hbeat : s.session.cursor.current = some beat) : beat.Typed :=
  h.sound.beat_typed (h.inStep ▸ h.script) hbeat

/-! ## Edits -/

/-- Two stages have the same timing of text, but for what is visible of a line. -/
theorem Wants.congr {f r : Int} {s s' : Stage} (h : s.Wants f r)
    (ho : s'.session.overrides.SameTiming s.session.overrides)
    (hrate : s'.timedText.frameRate = s.timedText.frameRate)
    (htext : s'.timedText.fullText.IsText) : s'.Wants f r := by
  refine ⟨?_, ?_, ?_, ?_⟩
  · rw [ho.seconds]
    exact h.seconds
  · rw [ho.seconds, TimedText.framesOf_congr hrate]
    exact h.frames
  · rw [ho.rate]
    exact h.rate
  · obtain ⟨text, htext⟩ := htext
    rw [htext]
    exact ⟨_, rfl⟩

/-- An edit of a regular stage. -/
theorem Regular.edit {s s' : Stage} (h : s.Regular) (hconfig : s'.config = s.config)
    (hlive : s'.session.live.Storable) (hsound : s'.session.cursor.Sound)
    (hscript : s'.script = s.script)
    (hcursor : s'.session.cursor.script = s.session.cursor.script)
    (hlibrary : s'.library = s.library) (htext : s'.timedText.fullText.IsText)
    (hrate : s'.timedText.frameRate = s.timedText.frameRate)
    (ho : s'.session.overrides.SameTiming s.session.overrides) : s'.Regular where
  storable := ⟨by rw [hconfig]; exact h.storable.config, hlive⟩
  sound := hsound
  script := by
    rw [hscript]
    exact h.script
  inStep := by
    rw [hcursor, hscript]
    exact h.inStep
  library := by
    rw [hlibrary]
    exact h.library
  text := htext
  timing := by
    obtain ⟨f, r, hw⟩ := h.timing
    exact ⟨f, r, hw.congr ho hrate htext⟩

/-- Two stages draw on the same dice, the same library and the same files. -/
structure SameStock (s s' : Stage) : Prop where
  dice : s'.dice = s.dice
  library : s'.library = s.library
  files : s'.disk.files = s.disk.files

theorem SameStock.refl (s : Stage) : s.SameStock s :=
  ⟨rfl, rfl, rfl⟩

theorem SameStock.trans {s s' s'' : Stage} (h : s.SameStock s') (h' : s'.SameStock s'') :
    s.SameStock s'' :=
  ⟨h'.dice.trans h.dice, h'.library.trans h.library, h'.files.trans h.files⟩

/-- A relation between stages that only looks at what they draw on. -/
def OfStock (P : Stage → Stage → Prop) : Prop :=
  ∀ {s t s' t'}, P s t → s.SameStock s' → t.SameStock t' → P s' t'

/-- The second stage plays the story of the first, and what they draw on is related. -/
structure Shares (P : Stage → Stage → Prop) (s t : Stage) : Prop where
  regular : s.Regular
  alike : s.Alike t
  stock : P s t

/-- Timed text at the same frame rate takes over the same settings. -/
theorem retime_cinematic {s t : Stage} (hrate : t.timedText.frameRate = s.timedText.frameRate)
    (seconds allowed : Value) {E : StoryError → Stage → Stage → Prop} :
    Matches (retime (TimedText.setCinematic seconds allowed))
      (retime (TimedText.setCinematic seconds allowed)) s t
      (fun _ _ s' t' => ∃ f, s.timedText.framesOf seconds = .ok f ∧
        s' = { s with timedText := s.timedText.withCinematic f allowed.truthy } ∧
        t' = { t with timedText := t.timedText.withCinematic f allowed.truthy }) E := by
  have hends : ∀ (u : Stage), Ends (retime (TimedText.setCinematic seconds allowed)) u
      (fun _ u' => ∃ f, u.timedText.framesOf seconds = .ok f ∧
        u' = { u with timedText := u.timedText.withCinematic f allowed.truthy })
      fun fault _ => ∃ m, fault = .mishap m ∧ u.timedText.framesOf seconds = .error m := by
    intro u
    refine Ends.attempt_iff.2 ((TimedText.setCinematic_ends seconds allowed u.timedText).mono ?_ ?_)
    · rintro _ _ ⟨f, hf, rfl⟩
      exact ⟨f, hf, rfl⟩
    · exact fun m _ hm => ⟨m, rfl, hm⟩
  refine Ends.mono (hends s) ?_ ?_
  · rintro _ _ ⟨f, hf, rfl⟩
    have hft : t.timedText.framesOf seconds = .ok f := by
      rw [TimedText.framesOf_congr hrate]
      exact hf
    obtain ⟨_, t', ht, f', hf', rfl⟩ := (hends t).performs fun _ _ ⟨m, _, hm⟩ => by
      rw [hft] at hm
      cases hm
    rw [hft] at hf'
    cases hf'
    exact ⟨_, _, ht, f, hf, rfl, rfl⟩
  · rintro _ _ ⟨m, rfl, -⟩
    trivial

/-- Timed text that displays a text takes over the same settings. -/
theorem retime_typewriter {s t : Stage} (htext : t.timedText.fullText.IsText)
    (rate canSkip : Value) {E : StoryError → Stage → Stage → Prop} :
    Matches (retime (TimedText.setTypewriter rate canSkip))
      (retime (TimedText.setTypewriter rate canSkip)) s t
      (fun _ _ s' t' => ∃ n u u', rate.toInt = .ok n ∧ s' = { s with timedText := u } ∧
        t' = { t with timedText := u' } ∧ s.timedText.SameLine u ∧ t.timedText.SameLine u') E := by
  have hends : ∀ (u : Stage), Ends (retime (TimedText.setTypewriter rate canSkip)) u
      (fun _ u' => ∃ n v, rate.toInt = .ok n ∧ u' = { u with timedText := v } ∧
        u.timedText.SameLine v)
      fun fault _ => ∃ m, fault = .mishap m ∧
        (rate.toInt = .error m ∨ u.timedText.fullText.size = .error m) := by
    intro u
    refine Ends.attempt_iff.2 ((TimedText.setTypewriter_ends rate canSkip u.timedText).mono ?_ ?_)
    · rintro _ v ⟨n, hn, hv⟩
      exact ⟨n, v, hn, rfl, hv.line⟩
    · exact fun m _ hm => ⟨m, rfl, hm⟩
  obtain ⟨text, htext⟩ := htext
  refine Ends.mono (hends s) ?_ ?_
  · rintro _ _ ⟨n, u, hn, rfl, hu⟩
    obtain ⟨_, t', ht, _, u', -, rfl, hu'⟩ := (hends t).performs fun _ _ ⟨m, _, hm⟩ => by
      rcases hm with hm | hm
      · rw [hn] at hm
        cases hm
      · rw [htext] at hm
        cases hm
    exact ⟨_, _, ht, n, u, u', hn, rfl, rfl, hu, hu'⟩
  · rintro _ _ ⟨m, rfl, -⟩
    trivial

/-- Stages that are alike stay so if the same settings for cinematic text are taken over. -/
theorem Alike.cinematic {s t : Stage} (h : s.Alike t) (v allowed : Value) (on : Bool) (f : Int) :
    let s' : Stage := s.mapOverrides fun o =>
      { o with cinematicSeconds := v, cinematicInputAllowed := allowed
               typewriterRate := if on then .int 0 else o.typewriterRate }
    let t' : Stage := t.mapOverrides fun o =>
      { o with cinematicSeconds := v, cinematicInputAllowed := allowed
               typewriterRate := if on then .int 0 else o.typewriterRate }
    Alike { s' with timedText := s'.timedText.withCinematic f allowed.truthy }
      { t' with timedText := t'.timedText.withCinematic f allowed.truthy } := by
  refine { h with overrides := ?_ }
  simp only [mapOverrides, mapSession, h.overrides]

/-- Stages that are alike stay so if the same settings for typewriter text are taken over. -/
theorem Alike.typewriter {s t : Stage} (h : s.Alike t) (v canSkip : Value) (on : Bool)
    {u u' : TimedText} (hu : s.timedText.SameLine u) (hu' : t.timedText.SameLine u') :
    let s' : Stage := s.mapOverrides fun o =>
      { o with typewriterRate := v, typewriterCanSkip := canSkip
               cinematicSeconds := if on then .float 0.0 else o.cinematicSeconds }
    let t' : Stage := t.mapOverrides fun o =>
      { o with typewriterRate := v, typewriterCanSkip := canSkip
               cinematicSeconds := if on then .float 0.0 else o.cinematicSeconds }
    Alike { s' with timedText := u } { t' with timedText := u' } := by
  refine { h with overrides := ?_, text := ?_, frameRate := ?_ }
  · simp only [mapOverrides, mapSession, h.overrides]
  · show u'.frameRate = u.frameRate
    rw [hu'.frameRate, hu.frameRate]
    exact h.frameRate
  · show u'.fullText.IsText
    rw [hu'.fullText]
    exact h.text

/-- Commands do the same on stages that are alike, whatever their scripts are made of. -/
theorem Alike.likeness : Likeness False Alike where
  config h := h.config
  cursor h := h.cursor
  flags h := h.flags
  scene h := h.scene
  overrides h := h.overrides
  choiceSets h := h.choiceSets
  storable _ h := h.elim
  note _ _ h := { h with }
  setScene _ h _ := { h with scene := rfl }
  setFlag name n h := { h with flags := congrArg (·.set name n) h.flags }
  setOverrides _ h _ _ := { h with overrides := rfl }
  setChoiceSets _ h _ := { h with choiceSets := rfl }
  setCursor _ h _ _ := { h with cursor := rfl }
  setCinematicText := by
    rintro s t seconds allowed h -
    refine Likeness.reads_ofMishap.bind fun v _ => Likeness.reads_ofMishap.bind fun on _ => ?_
    refine Matches.modify_bind_iff.2 (Matches.bind (retime_cinematic ?_ v allowed) ?_)
    · exact h.frameRate
    rintro _ _ _ _ ⟨f, -, rfl, rfl⟩
    exact Matches.pure_iff.2 ⟨rfl, rfl, h.cinematic v allowed on f⟩
  setTypewriterText := by
    rintro s t rate canSkip h -
    refine Likeness.reads_ofMishap.bind fun v _ => Likeness.reads_ofMishap.bind fun on _ => ?_
    refine Matches.modify_bind_iff.2 (Matches.bind (retime_typewriter ?_ v canSkip) ?_)
    · exact h.text
    rintro _ _ _ _ ⟨n, u, u', -, rfl, rfl, hu, hu'⟩
    exact Matches.pure_iff.2 ⟨rfl, rfl, h.typewriter v canSkip on hu hu'⟩

/-- Commands do the same on stages that are alike, and leave them alike. -/
theorem likeness {P : Stage → Stage → Prop} (hP : OfStock P) : Likeness True (Shares P) where
  config h := h.alike.config
  cursor h := h.alike.cursor
  flags h := h.alike.flags
  scene h := h.alike.scene
  overrides h := h.alike.overrides
  choiceSets h := h.alike.choiceSets
  storable h _ := h.regular.storable
  note := by
    rintro s t level text ⟨hs, ht, hp⟩
    exact ⟨hs.edit rfl hs.storable.live hs.sound rfl rfl rfl hs.text rfl (.refl _), { ht with },
      hP hp ⟨rfl, rfl, rfl⟩ ⟨rfl, rfl, rfl⟩⟩
  setScene := by
    rintro s t scene ⟨hs, ht, hp⟩ hscene
    have hlive := hs.storable.live
    exact ⟨hs.edit rfl ⟨hlive.flags, hlive.overrides, hscene trivial, hlive.choiceSets⟩
      hs.sound rfl rfl rfl hs.text rfl (.refl _), { ht with scene := rfl },
      hP hp ⟨rfl, rfl, rfl⟩ ⟨rfl, rfl, rfl⟩⟩
  setFlag := by
    rintro s t name n ⟨hs, ht, hp⟩
    have hlive := hs.storable.live
    have hflags : Flags.Storable (s.session.flags.set name n) := hlive.flags.put name n
    exact ⟨hs.edit rfl ⟨hflags, hlive.overrides, hlive.scene, hlive.choiceSets⟩ hs.sound rfl rfl rfl
      hs.text rfl (.refl _), { ht with flags := congrArg (·.set name n) ht.flags },
      hP hp ⟨rfl, rfl, rfl⟩ ⟨rfl, rfl, rfl⟩⟩
  setOverrides := by
    rintro s t o ⟨hs, ht, hp⟩ hplain htiming
    have hlive := hs.storable.live
    exact ⟨hs.edit rfl ⟨hlive.flags, hplain trivial, hlive.scene, hlive.choiceSets⟩
      hs.sound rfl rfl rfl hs.text rfl htiming, { ht with overrides := rfl },
      hP hp ⟨rfl, rfl, rfl⟩ ⟨rfl, rfl, rfl⟩⟩
  setChoiceSets := by
    rintro s t sets ⟨hs, ht, hp⟩ hsets
    have hlive := hs.storable.live
    exact ⟨hs.edit rfl ⟨hlive.flags, hlive.overrides, hlive.scene, hsets trivial⟩
      hs.sound rfl rfl rfl hs.text rfl (.refl _), { ht with choiceSets := rfl },
      hP hp ⟨rfl, rfl, rfl⟩ ⟨rfl, rfl, rfl⟩⟩
  setCursor := by
    rintro s t c ⟨hs, ht, hp⟩ hscript hsound
    have hlive := hs.storable.live
    exact ⟨hs.edit rfl ⟨hlive.flags, hlive.overrides, hlive.scene, hlive.choiceSets⟩
      (hsound hs.sound) rfl hscript rfl hs.text rfl (.refl _), { ht with cursor := rfl },
      hP hp ⟨rfl, rfl, rfl⟩ ⟨rfl, rfl, rfl⟩⟩
  setCinematicText := by
    rintro s t seconds allowed ⟨hs, ht, hp⟩ hplain
    have hlive := hs.storable.live
    refine Likeness.reads_ofMishap.bind fun v hv => Likeness.reads_ofMishap.bind fun on hon => ?_
    refine Matches.modify_bind_iff.2 (Matches.bind (retime_cinematic ?_ v allowed) ?_)
    · exact ht.frameRate
    rintro _ _ _ _ ⟨f, hf, rfl, rfl⟩
    refine Matches.pure_iff.2 ⟨rfl, rfl, ?_, ?_, hP hp ⟨rfl, rfl, rfl⟩ ⟨rfl, rfl, rfl⟩⟩
    · have hv' := Value.plain_largest (Value.plain_float 0.0) (hplain trivial).1 hv
      have hoverrides := Overrides.plain_cinematic hlive.overrides hv' (hplain trivial).2 on
      obtain ⟨f', r, hw⟩ := hs.timing
      refine ⟨⟨hs.storable.config, ⟨hlive.flags, hoverrides, hlive.scene, hlive.choiceSets⟩⟩,
        hs.sound, hs.script, hs.inStep, hs.library, hs.text, f, if on then 0 else r, ⟨on, hon⟩, hf,
        ?_, hw.sized⟩
      cases on with
      | true => rfl
      | false => exact hw.rate
    · exact ht.cinematic v allowed on f
  setTypewriterText := by
    rintro s t rate canSkip ⟨hs, ht, hp⟩ hplain
    have hlive := hs.storable.live
    refine Likeness.reads_ofMishap.bind fun v hv => Likeness.reads_ofMishap.bind fun on hon => ?_
    refine Matches.modify_bind_iff.2 (Matches.bind (retime_typewriter ?_ v canSkip) ?_)
    · exact ht.text
    rintro _ _ _ _ ⟨n, u, u', hn, rfl, rfl, hu, hu'⟩
    refine Matches.pure_iff.2 ⟨rfl, rfl, ?_, ?_, hP hp ⟨rfl, rfl, rfl⟩ ⟨rfl, rfl, rfl⟩⟩
    · have hv' := Value.plain_largest (Value.plain_int 0) (hplain trivial).1 hv
      have hoverrides := Overrides.plain_typewriter hlive.overrides hv' (hplain trivial).2 on
      have htext : u.fullText.IsText := by
        rw [hu.fullText]
        exact hs.text
      obtain ⟨f, r, hw⟩ := hs.timing
      refine ⟨⟨hs.storable.config, ⟨hlive.flags, hoverrides, hlive.scene, hlive.choiceSets⟩⟩,
        hs.sound, hs.script, hs.inStep, hs.library, htext, ?_⟩
      obtain ⟨text, htext⟩ := htext
      have hsized : ∃ size, u.fullText.size = .ok size := by
        rw [htext]
        exact ⟨_, rfl⟩
      cases on with
      | true =>
        exact ⟨0, n, ⟨false, Value.zero_not_greater⟩,
          TimedText.framesOf_of_not_greater Value.zero_not_greater, hn, hsized⟩
      | false =>
        refine ⟨f, n, hw.seconds, ?_, hn, hsized⟩
        show u.framesOf _ = _
        rw [TimedText.framesOf_congr hu.frameRate]
        exact hw.frames
    · exact ht.typewriter v canSkip on hu hu'

/-! ## Dice and libraries of stages that are alike -/

/-- Two stages will throw the same numbers, and find the same scripts under all names. -/
structure SameDraws (s t : Stage) : Prop where
  dice : s.dice.SameDraws t.dice
  isSome : t.library.isSome = s.library.isSome
  answers : ∀ l l', s.library = some l → t.library = some l' → ∀ n,
    (l'.get t.disk.files (.text n)).1 = (l.get s.disk.files (.text n)).1

theorem SameDraws.refl (s : Stage) : s.SameDraws s where
  dice := .refl _
  isSome := rfl
  answers l l' h h' n := by
    rw [h] at h'
    cases h'
    rfl

theorem SameDraws.ofStock : OfStock SameDraws := by
  intro s t s' t' h hs ht
  refine ⟨?_, ?_, fun l l' hl hl' => ?_⟩
  · rw [hs.dice, ht.dice]
    exact h.dice
  · rw [hs.library, ht.library]
    exact h.isSome
  · rw [hs.library] at hl
    rw [ht.library] at hl'
    rw [hs.files, ht.files]
    exact h.answers l l' hl hl'

theorem Shares.throwDice {s t : Stage} (h : Shares SameDraws s t) (sides : Value) (throws : Nat) :
    Matches (Stage.throwDice sides throws) (Stage.throwDice sides throws) s t
      (fun v w s' t' => w = v ∧ Shares SameDraws s' t') fun _ => Shares SameDraws := by
  obtain ⟨hs, ht, hp⟩ := h
  obtain ⟨hsame, hdice⟩ := hp.dice.total sides throws (.int 0)
  refine Ends.attempt_iff.2 (Ends.iff_attempted.2 ⟨fun v d hrun => ?_, fun _ _ _ => trivial⟩)
  have hrun₁ : (Dice.total sides throws (.int 0)).perform s.dice = (.ok v, d) := hrun
  rw [hrun₁] at hsame hdice
  rcases hrun₂ : (Dice.total sides throws (.int 0)).perform t.dice with ⟨r, d'⟩
  rw [hrun₂] at hsame hdice
  have hr : r = .ok v := hsame
  subst hr
  refine ⟨v, { t with dice := d' }, ?_, rfl, ?_, { ht with }, hdice, hp.isSome, hp.answers⟩
  · have hthrown : (Stage.throwDice sides throws).perform t =
        (((Dice.total sides throws (.int 0)).perform t.dice).1.mapError .mishap,
          { t with dice := ((Dice.total sides throws (.int 0)).perform t.dice).2 }) := rfl
    rw [hthrown, hrun₂]
    rfl
  · exact hs.edit rfl hs.storable.live hs.sound rfl rfl rfl hs.text rfl (.refl _)

/-- Stages that are alike find the same script. -/
theorem Shares.fetchScript {s t : Stage} (h : Shares SameDraws s t) (missing : StoryError)
    (n : String) :
    Matches (Stage.fetchScript missing (.text n)) (Stage.fetchScript missing (.text n)) s t
      (fun script script' s' t' => script' = script ∧ script.Typed ∧ Shares SameDraws s' t')
      fun _ => Shares SameDraws := by
  obtain ⟨hs, ht, hp⟩ := h
  unfold Stage.fetchScript
  rw [Matches.get_bind_iff]
  have hsome := hp.isSome
  cases hl : s.library with
  | none =>
    rw [hl] at hsome
    have hl' : t.library = none := by simpa using hsome
    rw [hl']
    exact ⟨t, rfl, hs, ht, hp⟩
  | some l =>
    rw [hl] at hsome
    obtain ⟨l', hl'⟩ := Option.isSome_iff_exists.1 hsome
    rw [hl']
    have htyped : (l.get s.disk.files (.text n)).2.Typed ∧
        ∀ script, (l.get s.disk.files (.text n)).1 = .ok script → script.Typed :=
      Library.get_typed (hs.library l hl)
    have hshares : Shares SameDraws { s with library := some (l.get s.disk.files (.text n)).2 }
        { t with library := some (l'.get t.disk.files (.text n)).2 } := by
      refine ⟨⟨⟨hs.storable.config, hs.storable.live⟩, hs.sound, hs.script, hs.inStep, ?_,
        hs.text, ?_⟩, { ht with }, hp.dice, rfl, ?_⟩
      · rintro _ ⟨⟩
        exact htyped.1
      · obtain ⟨f, r, hw⟩ := hs.timing
        exact ⟨f, r, hw.seconds, hw.frames, hw.rate, hw.sized⟩
      · rintro _ _ ⟨⟩ ⟨⟩ m
        show ((l'.get t.disk.files (.text n)).2.get t.disk.files (.text m)).1 =
          ((l.get s.disk.files (.text n)).2.get s.disk.files (.text m)).1
        rw [Library.get_stable, Library.get_stable]
        exact hp.answers l l' hl hl' m
    show Matches (Action.ofExcept (l.get s.disk.files (.text n)).1)
      (Action.ofExcept (l'.get t.disk.files (.text n)).1)
      { s with library := some (l.get s.disk.files (.text n)).2 }
      { t with library := some (l'.get t.disk.files (.text n)).2 } _ _
    rw [hp.answers l l' hl hl' n]
    exact Matches.ofExcept_iff.2 ⟨fun script hfound => ⟨rfl, htyped.2 script hfound, hshares⟩,
      fun _ _ => hshares⟩

theorem Shares.switchScript {s t : Stage} (h : Shares SameDraws s t) (line : Value) {name : Value}
    (hname : name.IsText) (conversation : Value) :
    Matches (Command.switchScript line name conversation)
      (Command.switchScript line name conversation) s t (Passed (Shares SameDraws))
      fun _ => Shares SameDraws := by
  obtain ⟨n, rfl⟩ := hname
  refine Matches.bind (h.fetchScript _ n) ?_
  rintro script _ s' t' ⟨rfl, htyped, hs, ht, hp⟩
  refine Matches.ofExcept_bind (fun conversation _ => ?_) fun _ _ => ⟨hs, ht, hp⟩
  refine Matches.ofStory_bind (fun cursor hcursor => ?_) fun _ _ => ⟨hs, ht, hp⟩
  obtain ⟨rfl, hsound⟩ := Cursor.rebind_sound hcursor
  have hlive := hs.storable.live
  refine Matches.modify_bind_iff.2 (Matches.modify_bind_iff.2 (Matches.modify_bind_iff.2
    (Matches.pure_iff.2 ⟨rfl, rfl, ?_, ?_, SameDraws.ofStock hp ⟨rfl, rfl, rfl⟩ ⟨rfl, rfl, rfl⟩⟩)))
  · refine ⟨⟨hs.storable.config, hlive.flags, hlive.overrides, hlive.scene,
      ChoiceSets.storable_nil⟩, hsound, htyped, rfl, hs.library, hs.text, ?_⟩
    obtain ⟨f, r, hw⟩ := hs.timing
    exact ⟨f, r, hw.seconds, hw.frames, hw.rate, hw.sized⟩
  · exact { ht with script := rfl, cursor := rfl, choiceSets := rfl }

end Stage

end VisualNovel
