import VisualNovel.Engine.Command.Presentation
import VisualNovel.Proofs.Reachable

/-!
# The two copies of the timing of text

How text is timed is kept twice: as settings of the session, which are saved, and in the timed text
itself. Commands change both; a session that is restored sets the second from the first.

`Stage.Timed.agrees_iff_inStep` says exactly when a command leaves the two in agreement. They always
agree on cinematic text and on whether a line can be skipped, and they agree on everything after a
command for typewriter text. A command for cinematic text can leave them with different rates of
typewriter text: if its seconds are less than a frame, only the session takes typewriter text off,
and if it has no seconds, only the session still wants the typewriter text that cinematic text had
put off.
-/

namespace VisualNovel

open Script

/-! ## Numbers -/

namespace Value

theorem greater_int (m n : Int) : (Value.int m).greater (.int n) = .ok (decide (n < m)) := by
  show Except.ok (some (compare n m) == some Ordering.lt) = _
  congr 1
  by_cases h : n < m
  · simp [compare, compareOfLessAndEq, h]
  · by_cases h' : n = m <;> simp [compare, compareOfLessAndEq, h, h']

theorem largest_zero (n : Int) : largest (.int 0) (.int n) = .ok (.int (max 0 n)) := by
  rw [largest, greater_int]
  show (if decide (0 < n) = true then Except.ok (Value.int n) else .ok (.int 0)) = _
  by_cases h : 0 < n
  · rw [if_pos (by simpa using h), Int.max_eq_right (by omega)]
  · rw [if_neg (by simpa using h), Int.max_eq_left (by omega)]

theorem zero_not_greater : (Value.float 0.0).greater (.int 0) = .ok false := by
  have hzero : (compareNumeric (.whole 0) (.real 0.0) == some Ordering.lt) = false := by
    decide +kernel
  exact congrArg Except.ok hzero

end Value

namespace TimedText

/-- What of the settings has an effect: the frames and the input of cinematic text if it is on, the
rate of typewriter text, and whether a line can be skipped. -/
def effective (t : TimedText) : Option (Int × Bool) × Int × Bool :=
  (if t.cinematic then some (t.threshold, t.inputAllowed) else none, t.charsPerSecond, t.canSkip)

theorem withCinematic_effective (f : Int) (allowed : Bool) (t : TimedText) :
    (t.withCinematic f allowed).effective =
      if 0 < f then (some (f, allowed), 0, t.canSkip) else (none, t.charsPerSecond, t.canSkip) := by
  by_cases h : 0 < f <;> simp [effective, withCinematic, cinematic, h]

theorem Paced.effective {n : Int} {skips : Bool} {t t' : TimedText} (h : Paced n skips t t') :
    t'.effective = (if 0 < n then none else t.effective.1, max 0 n, skips) := by
  simp only [TimedText.effective, cinematic, h.threshold, h.inputAllowed, h.rate, h.canSkip]
  by_cases hn : 0 < n <;> simp [hn]

theorem framesOf_of_not_greater {t : TimedText} {seconds : Value}
    (h : seconds.greater (.int 0) = .ok false) : t.framesOf seconds = .ok 0 := by
  unfold framesOf
  rw [h]
  cases seconds.truthy <;> rfl

/-- The number of frames depends on nothing but the frame rate. -/
theorem framesOf_congr {t t' : TimedText} (h : t'.frameRate = t.frameRate) (seconds : Value) :
    t'.framesOf seconds = t.framesOf seconds := by
  unfold framesOf
  rw [h]

end TimedText

namespace Stage

/-! ## What the session wants -/

/-- The settings of the session come to a number of frames and a rate, and the line can be
revealed. -/
structure Wants (f r : Int) (s : Stage) : Prop where
  seconds : ∃ on, s.session.overrides.cinematicSeconds.greater (.int 0) = .ok on
  frames : s.timedText.framesOf s.session.overrides.cinematicSeconds = .ok f
  rate : s.session.overrides.typewriterRate.toInt = .ok r
  sized : ∃ size, s.timedText.fullText.size = .ok size

/-- The effective settings of timed text that a session asks for. -/
def wanted (f r : Int) (o : Overrides) : Option (Int × Bool) × Int × Bool :=
  if 0 < f then (some (f, o.cinematicInputAllowed.truthy), 0, o.typewriterCanSkip.truthy)
  else (none, max 0 r, o.typewriterCanSkip.truthy)

/-- Timed text is set as the session wants it, unless the settings make no sense. -/
theorem retimeFromSession_ends (s : Stage) :
    Ends retimeFromSession s
      (fun _ s' => ∃ f r t, s' = { s with timedText := t } ∧ s.timedText.SameLine t ∧
        (∃ on, s.session.overrides.cinematicSeconds.greater (.int 0) = .ok on) ∧
        s.timedText.framesOf s.session.overrides.cinematicSeconds = .ok f ∧
        s.session.overrides.typewriterRate.toInt = .ok r ∧
        t.effective = wanted f r s.session.overrides)
      fun _ _ => ¬∃ f r, s.Wants f r := by
  unfold retimeFromSession retime
  simp only [Ends.bind_iff, Ends.get_iff, Ends.attempt_iff]
  refine (TimedText.setCinematic_ends _ _ _).mono ?_ ?_
  · rintro _ t₁ ⟨n, hn, rfl⟩
    cases hn
    refine (TimedText.setTypewriter_ends _ _ _).mono ?_ ?_
    · rintro _ t₂ ⟨r, hr, ht₂⟩
      have hoff : t₂.threshold = 0 := by
        rw [ht₂.threshold]
        split <;> rfl
      have hline : s.timedText.SameLine t₂ := ⟨ht₂.line.1, ht₂.line.2, ht₂.line.3⟩
      refine Ends.ofMishap_iff.2 ⟨fun on hon => ?_, fun m hm hwants => ?_⟩
      · cases on with
        | false =>
          rw [if_neg Bool.false_ne_true, Ends.pure_iff]
          refine ⟨0, r, t₂, rfl, hline, ⟨false, hon⟩, TimedText.framesOf_of_not_greater hon, hr, ?_⟩
          simp [TimedText.effective, TimedText.cinematic, wanted, hoff, ht₂.rate, ht₂.canSkip]
        | true =>
          rw [if_pos rfl]
          refine Ends.attempt_iff.2 ((TimedText.setCinematic_ends _ _ _).mono ?_ ?_)
          · rintro _ t₃ ⟨f, hf, rfl⟩
            refine ⟨f, r, _, rfl, ⟨hline.1, hline.2, hline.3⟩, ⟨true, hon⟩, ?_, hr, ?_⟩
            · rw [← hf]
              exact (TimedText.framesOf_congr hline.frameRate _).symm
            · show (t₂.withCinematic f _).effective = _
              rw [TimedText.withCinematic_effective, ht₂.rate, ht₂.canSkip]
              rfl
          · rintro m _ hf ⟨f, r, hw⟩
            have hf : t₂.framesOf s.session.overrides.cinematicSeconds = .error m := hf
            rw [TimedText.framesOf_congr hline.frameRate, hw.frames] at hf
            cases hf
      · obtain ⟨f, r, hw⟩ := hwants
        obtain ⟨on, hon⟩ := hw.seconds
        rw [hon] at hm
        cases hm
    · rintro m _ hm ⟨f, r, hw⟩
      rcases hm with hm | hm
      · rw [hw.rate] at hm
        cases hm
      · obtain ⟨size, hsize⟩ := hw.sized
        have hm : s.timedText.fullText.size = .error m := hm
        rw [hsize] at hm
        cases hm
  · rintro m _ hm
    cases hm

/-- Timed text is as the session wants it. -/
def Agrees (s : Stage) : Prop :=
  ∃ s', retimeFromSession.perform s = (.ok (), s') ∧ s'.timedText.effective = s.timedText.effective

/-- Settings that make sense are taken over. -/
theorem Wants.retimes {f r : Int} {s : Stage} (h : s.Wants f r) :
    ∃ s', retimeFromSession.perform s = (.ok (), s') ∧
      s'.timedText.effective = wanted f r s.session.overrides := by
  obtain ⟨hok, herror⟩ := Ends.iff_perform.1 s.retimeFromSession_ends
  rcases hrun : retimeFromSession.perform s with ⟨fault | ⟨⟩, s'⟩
  · exact absurd ⟨f, r, h⟩ (herror _ _ hrun)
  · obtain ⟨f', r', t, rfl, -, -, hf, hr, ht⟩ := hok _ _ hrun
    rw [h.frames] at hf
    rw [h.rate] at hr
    cases hf
    cases hr
    exact ⟨_, rfl, ht⟩

theorem Wants.agrees_iff {f r : Int} {s : Stage} (h : s.Wants f r) :
    s.Agrees ↔ s.timedText.effective = wanted f r s.session.overrides := by
  obtain ⟨s', hrun, ht⟩ := h.retimes
  refine ⟨fun ⟨s'', hrun', hsame⟩ => ?_, fun hsame => ⟨s', hrun, ht.trans hsame.symm⟩⟩
  rw [hrun] at hrun'
  cases hrun'
  exact hsame.symm.trans ht

/-! ## Runs -/

/-- The commands that time text. -/
inductive TextTiming where
  | cinematic (seconds inputAllowed : Value)
  | typewriter (rate : Int) (canSkip : Value)

/-- Carries out a command that times text. -/
def TextTiming.run : TextTiming → Action Stage Outcome
  | cinematic seconds inputAllowed => Command.setCinematicText seconds inputAllowed
  | typewriter rate canSkip => Command.setTypewriterText (.int rate) canSkip

/-- The second stage is timed as the first one, in both copies, and displays some text. -/
structure SameSettings (s s' : Stage) : Prop where
  overrides : s'.session.overrides.SameTiming s.session.overrides
  frameRate : s'.timedText.frameRate = s.timedText.frameRate
  effective : s'.timedText.effective = s.timedText.effective
  sized : ∃ size, s'.timedText.fullText.size = .ok size

/-- The stage comes from one that was set up or restored by commands that time text, and by whatever
else leaves the timing alone. The last command is kept, with the stage that it found. -/
inductive Timed : Option (TextTiming × Stage) → Stage → Prop where
  | restored {s s' : Stage} : (∃ size, s.timedText.fullText.size = .ok size) →
    retimeFromSession.perform s = (.ok (), s') → Timed none s'
  | command {last : Option (TextTiming × Stage)} {s s' : Stage} {o : Outcome} (cmd : TextTiming) :
    Timed last s → cmd.run.perform s = (.ok o, s') → Timed (some (cmd, s)) s'
  | other {last : Option (TextTiming × Stage)} {s s' : Stage} : Timed last s → SameSettings s s' →
    Timed last s'

/-- The stage of a script that has not started is timed as its settings want it. -/
theorem initialStage_timed {script : Script} {config : Config} {s : Stage}
    (h : Engine.initialStage script config = .ok s) : Timed none s := by
  obtain ⟨cursor, overrides, t₀, t, -, -, ht₀, hrun, -⟩ := Engine.initialStage_ok h
  obtain ⟨rate, -, ht₀⟩ := bind_eq_ok.1 ht₀
  obtain ⟨n, -, ht₀⟩ := bind_eq_ok.1 ht₀
  cases ht₀
  exact .restored ⟨0, rfl⟩ hrun

/-! ## What commands do -/

theorem setCinematicText_ends (seconds inputAllowed : Value) (s : Stage) :
    Ends (Command.setCinematicText seconds inputAllowed) s
      (fun _ s' => ∃ v on f, Value.largest (.float 0.0) seconds = .ok v ∧
        v.greater (.int 0) = .ok on ∧ s.timedText.framesOf v = .ok f ∧
        s'.timedText = s.timedText.withCinematic f inputAllowed.truthy ∧
        s'.session.overrides = { s.session.overrides with
          cinematicSeconds := v, cinematicInputAllowed := inputAllowed
          typewriterRate := if on then .int 0 else s.session.overrides.typewriterRate })
      fun _ _ => True := by
  unfold Command.setCinematicText retime
  simp only [Ends.bind_iff, Ends.ofMishap_iff, Ends.modify_iff, Ends.attempt_iff, Ends.pure_iff]
  refine ⟨fun v hv => ⟨fun on hon => ?_, fun _ _ => trivial⟩, fun _ _ => trivial⟩
  refine (TimedText.setCinematic_ends _ _ _).mono ?_ fun _ _ _ => trivial
  rintro _ _ ⟨f, hf, rfl⟩
  exact ⟨v, on, f, hv, hon, hf, rfl, rfl⟩

theorem setTypewriterText_ends (rate : Int) (canSkip : Value) (s : Stage) :
    Ends (Command.setTypewriterText (.int rate) canSkip) s
      (fun _ s' => TimedText.Paced rate canSkip.truthy s.timedText s'.timedText ∧
        s'.session.overrides = { s.session.overrides with
          typewriterRate := .int (max 0 rate), typewriterCanSkip := canSkip
          cinematicSeconds :=
            if 0 < rate then .float 0.0 else s.session.overrides.cinematicSeconds })
      fun _ _ => True := by
  unfold Command.setTypewriterText retime
  rw [Value.largest_zero]
  simp only [Ends.bind_iff, Ends.ofMishap_iff, Ends.modify_iff, Ends.attempt_iff, Ends.pure_iff]
  refine ⟨fun v hv => ?_, fun _ _ => trivial⟩
  cases hv
  refine ⟨fun on hon => ?_, fun _ _ => trivial⟩
  rw [Value.greater_int] at hon
  cases hon
  refine (TimedText.setTypewriter_ends _ _ _).mono ?_ fun _ _ _ => trivial
  rintro _ t ⟨n, hn, ht⟩
  cases hn
  have hpos : 0 < max 0 rate ↔ 0 < rate := by omega
  refine ⟨⟨?_, ht.canSkip, ?_, ?_, ⟨ht.line.1, ht.line.2, ht.line.3⟩⟩, ?_⟩
  · show t.charsPerSecond = _
    rw [ht.rate]
    omega
  · show t.threshold = _
    rw [ht.threshold]
    simp only [hpos]
    rfl
  · show t.inputAllowed = _
    rw [ht.inputAllowed]
    simp only [hpos]
    rfl
  · simp only [hpos, decide_eq_true_eq]
    rfl

/-! ## Agreement -/

/-- Timed text agrees with the session on cinematic text and on whether a line can be skipped, and
while cinematic text is on also on the rate of typewriter text. -/
structure InTune (f r : Int) (s : Stage) : Prop where
  wants : s.Wants f r
  effective : ∃ n, s.timedText.effective = wanted f n s.session.overrides

theorem InTune.agrees_iff {f r : Int} {s : Stage} (h : s.InTune f r) :
    s.Agrees ↔ 0 < f ∨ s.timedText.charsPerSecond = max 0 r := by
  obtain ⟨n, hn⟩ := h.effective
  have hrate : s.timedText.charsPerSecond = (wanted f n s.session.overrides).2.1 :=
    congrArg (·.2.1) hn
  rw [h.wants.agrees_iff, hn, hrate]
  unfold wanted
  by_cases hf : 0 < f <;> simp [hf]

theorem InTune.canSkip {f r : Int} {s : Stage} (h : s.InTune f r) :
    s.timedText.canSkip = s.session.overrides.typewriterCanSkip.truthy := by
  obtain ⟨n, hn⟩ := h.effective
  have hskip : s.timedText.canSkip = (wanted f n s.session.overrides).2.2 := congrArg (·.2.2) hn
  rw [hskip, wanted]
  split <;> rfl

theorem InTune.rate_nonneg {f r : Int} {s : Stage} (h : s.InTune f r) :
    0 ≤ s.timedText.charsPerSecond := by
  obtain ⟨n, hn⟩ := h.effective
  have hrate : s.timedText.charsPerSecond = (wanted f n s.session.overrides).2.1 :=
    congrArg (·.2.1) hn
  rw [hrate, wanted]
  split
  · exact Int.le_refl 0
  · exact Int.le_max_left 0 n

theorem InTune.cinematic {f r : Int} {s : Stage} (h : s.InTune f r) : s.timedText.effective.1 =
    if 0 < f then some (f, s.session.overrides.cinematicInputAllowed.truthy) else none := by
  obtain ⟨n, hn⟩ := h.effective
  rw [hn, wanted]
  split <;> rfl

theorem retimed_inTune {s s' : Stage} (hsized : ∃ size, s.timedText.fullText.size = .ok size)
    (hrun : retimeFromSession.perform s = (.ok (), s')) : ∃ f r, s'.InTune f r ∧ s'.Agrees := by
  obtain ⟨f, r, t, rfl, hline, hseconds, hf, hr, ht⟩ :=
    (Ends.iff_perform.1 s.retimeFromSession_ends).1 _ _ hrun
  have hwants : ({ s with timedText := t } : Stage).Wants f r := by
    refine ⟨hseconds, ?_, hr, ?_⟩
    · show t.framesOf _ = _
      rw [TimedText.framesOf_congr hline.frameRate]
      exact hf
    · show ∃ size, t.fullText.size = _
      rw [hline.fullText]
      exact hsized
  exact ⟨f, r, ⟨hwants, r, ht⟩, hwants.agrees_iff.2 ht⟩

/-- A command for cinematic text takes over the frames that its seconds come to. -/
theorem InTune.cinematicText {f r : Int} {s s' : Stage} {o : Outcome} {seconds allowed : Value}
    (h : s.InTune f r) (hrun : (Command.setCinematicText seconds allowed).perform s = (.ok o, s')) :
    ∃ v on f', Value.largest (.float 0.0) seconds = .ok v ∧ v.greater (.int 0) = .ok on ∧
      s.timedText.framesOf v = .ok f' ∧ s'.InTune f' (if on then 0 else r) ∧
      (s'.Agrees ↔ 0 < f' ∨ s.timedText.charsPerSecond = if on then 0 else max 0 r) := by
  obtain ⟨v, on, f', hv, hon, hf', htimed, hover⟩ :=
    (Ends.iff_perform.1 (setCinematicText_ends seconds allowed s)).1 _ _ hrun
  have hwants : s'.Wants f' (if on then 0 else r) := by
    refine ⟨⟨on, ?_⟩, ?_, ?_, ?_⟩
    · rw [hover]
      exact hon
    · rw [hover, htimed]
      exact hf'
    · rw [hover]
      cases on with
      | true => rfl
      | false => exact h.wants.rate
    · rw [htimed]
      exact h.wants.sized
  have htune : s'.InTune f' (if on then 0 else r) := by
    refine ⟨hwants, s.timedText.charsPerSecond, ?_⟩
    rw [htimed, hover, TimedText.withCinematic_effective, h.canSkip, wanted,
      Int.max_eq_right h.rate_nonneg]
  refine ⟨v, on, f', hv, hon, hf', htune, htune.agrees_iff.trans ?_⟩
  rw [htimed, TimedText.withCinematic]
  by_cases hf : 0 < f'
  · simp [hf]
  · cases on <;> simp [hf]

/-- What leaves the timing alone leaves the two copies as they stand to each other. -/
theorem SameSettings.inTune {f r : Int} {s s' : Stage} (hsame : SameSettings s s')
    (h : s.InTune f r) : s'.InTune f r := by
  obtain ⟨n, hn⟩ := h.effective
  obtain ⟨hseconds, hallowed, hrate, hskip⟩ := hsame.overrides
  refine ⟨⟨?_, ?_, ?_, hsame.sized⟩, n, ?_⟩
  · rw [hseconds]
    exact h.wants.seconds
  · rw [hseconds, TimedText.framesOf_congr hsame.frameRate]
    exact h.wants.frames
  · rw [hrate]
    exact h.wants.rate
  · rw [hsame.effective, hn, wanted, wanted, hallowed, hskip]

/-- After a command for typewriter text the two copies agree. -/
theorem InTune.typewriterText {f r rate : Int} {s s' : Stage} {o : Outcome} {canSkip : Value}
    (h : s.InTune f r)
    (hrun : (Command.setTypewriterText (.int rate) canSkip).perform s = (.ok o, s')) :
    ∃ f', s'.InTune f' (max 0 rate) ∧ s'.Agrees := by
  obtain ⟨hpaced, hover⟩ :=
    (Ends.iff_perform.1 (setTypewriterText_ends rate canSkip s)).1 _ _ hrun
  by_cases hrate : 0 < rate
  · have hwants : s'.Wants 0 (max 0 rate) := by
      have hoff : s'.session.overrides.cinematicSeconds.greater (.int 0) = .ok false := by
        rw [hover, if_pos hrate]
        exact Value.zero_not_greater
      refine ⟨⟨false, hoff⟩, TimedText.framesOf_of_not_greater hoff, ?_, ?_⟩
      · rw [hover]
        rfl
      · rw [hpaced.line.fullText]
        exact h.wants.sized
    have htune : s'.InTune 0 (max 0 rate) := by
      refine ⟨hwants, rate, ?_⟩
      rw [hpaced.effective, hover, wanted]
      simp [hrate]
    refine ⟨0, htune, htune.agrees_iff.2 (.inr ?_)⟩
    rw [hpaced.rate]
    omega
  · have hwants : s'.Wants f (max 0 rate) := by
      refine ⟨?_, ?_, ?_, ?_⟩
      · rw [hover]
        simpa [hrate] using h.wants.seconds
      · rw [hover, TimedText.framesOf_congr hpaced.line.frameRate]
        simpa [hrate] using h.wants.frames
      · rw [hover]
        rfl
      · rw [hpaced.line.fullText]
        exact h.wants.sized
    have htune : s'.InTune f (max 0 rate) := by
      refine ⟨hwants, rate, ?_⟩
      rw [hpaced.effective, hover, wanted, h.cinematic]
      have hzero : max 0 rate = 0 := by omega
      by_cases hf : 0 < f <;> simp [hrate, hf, hzero]
    refine ⟨f, htune, htune.agrees_iff.2 (.inr ?_)⟩
    rw [hpaced.rate]
    omega

/-- In every run the two copies agree on cinematic text and on whether a line can be skipped. -/
theorem Timed.inTune {last : Option (TextTiming × Stage)} {s : Stage} (h : Timed last s) :
    ∃ f r, s.InTune f r := by
  induction h with
  | restored hsized hrun =>
    obtain ⟨f, r, htune, -⟩ := retimed_inTune hsized hrun
    exact ⟨f, r, htune⟩
  | command cmd _ hrun ih =>
    obtain ⟨f, r, htune⟩ := ih
    cases cmd with
    | cinematic seconds allowed =>
      obtain ⟨v, on, f', -, -, -, htune', -⟩ := htune.cinematicText hrun
      exact ⟨f', _, htune'⟩
    | typewriter rate canSkip =>
      obtain ⟨f', htune', -⟩ := htune.typewriterText hrun
      exact ⟨f', _, htune'⟩
  | other _ hsame ih =>
    obtain ⟨f, r, htune⟩ := ih
    exact ⟨f, r, hsame.inTune htune⟩

/-- When a command that times text leaves the two copies in agreement, by what it finds. One for
cinematic text does if its seconds come to a frame, or if the rate of typewriter text happens to be
what the session wants: none if there are seconds, and else what it wanted before. -/
def TextTiming.InStep (s : Stage) : TextTiming → Prop
  | typewriter _ _ => True
  | cinematic seconds _ => ∃ v on f r, Value.largest (.float 0.0) seconds = .ok v ∧
    v.greater (.int 0) = .ok on ∧ s.timedText.framesOf v = .ok f ∧
    s.session.overrides.typewriterRate.toInt = .ok r ∧
    (0 < f ∨ s.timedText.charsPerSecond = if on then 0 else max 0 r)

theorem InTune.inStep_iff {f r : Int} {s s' : Stage} {o : Outcome} {cmd : TextTiming}
    (h : s.InTune f r) (hrun : cmd.run.perform s = (.ok o, s')) : s'.Agrees ↔ cmd.InStep s := by
  cases cmd with
  | cinematic seconds allowed =>
    obtain ⟨v, on, f', hv, hon, hf', -, hagrees⟩ := h.cinematicText hrun
    refine hagrees.trans ⟨fun h' => ⟨v, on, f', r, hv, hon, hf', h.wants.rate, h'⟩, ?_⟩
    rintro ⟨_, _, _, _, hv', hon', hf'', hr', h'⟩
    rw [hv] at hv'
    cases hv'
    rw [hon] at hon'
    cases hon'
    rw [hf'] at hf''
    cases hf''
    rw [h.wants.rate] at hr'
    cases hr'
    exact h'
  | typewriter rate canSkip =>
    obtain ⟨_, _, hagrees⟩ := h.typewriterText hrun
    exact ⟨fun _ => trivial, fun _ => hagrees⟩

/-- Timed text is as the session wants it if and only if the last command has left it so. In any
case a restored session changes neither cinematic text nor whether a line can be skipped. -/
theorem Timed.agrees_iff_inStep {last : Option (TextTiming × Stage)} {s : Stage}
    (h : Timed last s) : (s.Agrees ↔ ∀ cmd s₀, last = some (cmd, s₀) → cmd.InStep s₀) ∧
      ∃ s', retimeFromSession.perform s = (.ok (), s') ∧
        s'.timedText.effective.1 = s.timedText.effective.1 ∧
        s'.timedText.effective.2.2 = s.timedText.effective.2.2 := by
  refine ⟨?_, ?_⟩
  · induction h with
    | restored hsized hrun =>
      obtain ⟨_, _, _, hagrees⟩ := retimed_inTune hsized hrun
      simp [hagrees]
    | command cmd hs hrun _ =>
      obtain ⟨f, r, htune⟩ := hs.inTune
      rw [htune.inStep_iff hrun]
      simp
    | @other last s s' hs hsame ih =>
      obtain ⟨f, r, htune⟩ := hs.inTune
      have hrate : s'.timedText.charsPerSecond = s.timedText.charsPerSecond :=
        congrArg (·.2.1) hsame.effective
      rw [← ih, htune.agrees_iff, (hsame.inTune htune).agrees_iff, hrate]
  · obtain ⟨f, r, htune⟩ := h.inTune
    obtain ⟨s', hrun, ht⟩ := htune.wants.retimes
    refine ⟨s', hrun, ?_, ?_⟩
    · rw [ht, htune.cinematic, wanted]
      split <;> rfl
    · show _ = s.timedText.canSkip
      rw [ht, htune.canSkip, wanted]
      split <;> rfl

/-- Typewriter text that a script turns on survives a restored session. -/
theorem Timed.agrees_after_typewriter : ∃ s s' : Stage,
    Timed (some (.typewriter 30 (.bool true), s)) s' ∧ s'.Agrees := by
  have hfacts : ((Engine.initialStage Engine.fading.script .default).toOption.map fun s =>
      ((TextTiming.typewriter 30 (.bool true)).run.perform s).1.isOk) = some true := by
    decide +kernel
  obtain ⟨s, hs, hok⟩ := Option.map_eq_some_iff.1 hfacts
  have hstart := initialStage_timed (toOption_eq_some.1 hs)
  rcases hrun : (TextTiming.typewriter 30 (.bool true)).run.perform s with ⟨f | o, s'⟩
  · rw [hrun] at hok
    cases hok
  · have htimed := hstart.command _ hrun
    refine ⟨s, s', htimed, htimed.agrees_iff_inStep.1.2 ?_⟩
    rintro _ _ ⟨⟩
    trivial

/-- Cinematic text of less than a frame leaves typewriter text on, but only until the session is
restored. -/
theorem Timed.disagrees_after_short : ∃ s s' : Stage,
    Timed (some (.cinematic (.float 0.001) (.bool false), s)) s' ∧ ¬s'.Agrees := by
  have hfacts : ((Engine.initialStage Engine.fading.script .default).toOption.map fun s =>
      let (r, s₁) := (TextTiming.typewriter 30 (.bool true)).run.perform s
      let (r', s₂) := (TextTiming.cinematic (.float 0.001) (.bool false)).run.perform s₁
      (r.isOk, r'.isOk, s₂.timedText.charsPerSecond,
        (retimeFromSession.perform s₂).2.timedText.charsPerSecond)) = some (true, true, 30, 0) := by
    decide +kernel
  obtain ⟨s, hs, hfacts⟩ := Option.map_eq_some_iff.1 hfacts
  have hstart := initialStage_timed (toOption_eq_some.1 hs)
  rcases hrun : (TextTiming.typewriter 30 (.bool true)).run.perform s with ⟨f | o, s₁⟩
  · simp [hrun, Except.isOk, Except.toBool] at hfacts
  · rcases hrun' : (TextTiming.cinematic (.float 0.001) (.bool false)).run.perform s₁ with
      ⟨f | o', s₂⟩
    · simp [hrun, hrun', Except.isOk, Except.toBool] at hfacts
    · simp only [hrun, hrun', Prod.mk.injEq] at hfacts
      obtain ⟨-, -, hrate, hrate'⟩ := hfacts
      refine ⟨s₁, s₂, (hstart.command _ hrun).command _ hrun', ?_⟩
      rintro ⟨s₃, hretime, hsame⟩
      rw [hretime] at hrate'
      have hrates : s₃.timedText.charsPerSecond = s₂.timedText.charsPerSecond :=
        congrArg (·.2.1) hsame
      rw [hrate, hrate'] at hrates
      cases hrates

end Stage

end VisualNovel
