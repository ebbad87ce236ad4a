import VisualNovel.Proofs.Performing
import VisualNovel.Proofs.TimedText

/-!
# The pace of timed text

Timed text is *composed* if at most one of its two ways is on in which a line moves by itself, and
if no change of what is visible waits to be told. Every operation keeps it so, but for the change
that it makes itself.

A line that is displayed counts its frames while cinematic text is on, and gives way when it has
counted them all (`TimedText.tick_ticks`, `TimedText.tick_counts`). Input moves past a line only if
the whole of it is visible (`TimedText.input_heard`).
-/

namespace VisualNovel

namespace TimedText

/-! ## Composure -/

/-- At most one of the two ways is on in which a line moves by itself. -/
def Exclusive (t : TimedText) : Prop :=
  ¬(t.cinematic ∧ t.typewriter)

/-- At most one way is on, and no change waits to be told. -/
structure Composed (t : TimedText) : Prop where
  exclusive : t.Exclusive
  told : t.changed = false

variable {t t' : TimedText} {n : Nat}

theorem Exclusive.of_same (h : t.Exclusive) (hthreshold : t'.threshold = t.threshold)
    (hrate : t'.charsPerSecond = t.charsPerSecond) : t'.Exclusive := by
  unfold Exclusive cinematic typewriter
  rw [hthreshold, hrate]
  exact h

theorem Exclusive.typewriter_off (h : t.Exclusive) (hcinematic : t.cinematic) :
    t.typewriter = false := by
  simpa [Exclusive, hcinematic] using h

theorem Exclusive.cinematic_off (h : t.Exclusive) (htypewriter : t.typewriter) :
    t.cinematic = false := by
  simpa [Exclusive, htypewriter] using h

/-- When all changes have been told, telling them again changes nothing. -/
theorem Composed.tell (h : t.Composed) : { t with changed := false } = t := by
  rw [← h.told]

theorem new_composed {rate : Value} (h : new rate = .ok t) : t.Composed := by
  obtain ⟨frames, -, h⟩ := bind_eq_ok.1 h
  cases h
  refine ⟨fun hboth => ?_, rfl⟩
  cases hboth.1

theorem setCinematic_composed (seconds allowed : Value) (h : t.Composed) :
    Ends (setCinematic seconds allowed) t (fun _ t' => t'.Composed) fun _ t' => t'.Composed := by
  simp only [setCinematic, step, Ends.bind_iff, Ends.get_iff, Ends.modify_iff, Ends.mk_pure_iff]
  refine ⟨fun frames _ => ?_, fun _ _ => h⟩
  split
  · refine ⟨?_, h.told⟩
    simp [Exclusive, typewriter]
  · next hoff =>
    refine ⟨?_, h.told⟩
    exact fun hboth => hoff hboth.1

theorem setTypewriter_composed (rate canSkip : Value) (h : t.Composed) :
    Ends (setTypewriter rate canSkip) t (fun _ t' => t'.Composed) fun _ t' => t'.Composed := by
  simp only [setTypewriter, revealAll, step, Ends.bind_iff, Ends.get_iff, Ends.modify_iff,
    Ends.ite_iff, Ends.mk_pure_iff]
  refine ⟨fun n _ => ?_, fun _ _ => h⟩
  split
  · refine ⟨?_, h.told⟩
    simp [Exclusive, cinematic]
  · next hoff =>
    -- A rate of zero leaves cinematic text alone.
    have hexclusive : ∀ (revealed : Nat) (progress : Float), Exclusive
        { t with charsPerSecond := max 0 n, canSkip := canSkip.truthy, revealed, progress } := by
      intro revealed progress hboth
      have hon : 0 < max 0 n := by simpa [typewriter] using hboth.2
      exact hoff hon
    exact ⟨fun size _ => ⟨hexclusive _ _, h.told⟩, fun _ _ => ⟨hexclusive _ _, h.told⟩⟩

/-! ## Displaying -/

/-- The whole line is visible. -/
def Whole (t : TimedText) : Prop :=
  t.complete = .ok true

theorem Whole.complete_ne_false (h : t.Whole) : t.complete ≠ .ok false := by
  rw [Whole] at h
  simp [h]

/-- A line is visible as a whole when as much is revealed as it has. -/
theorem Whole.of_size (h : t.fullText.size = .ok t.revealed) : t.Whole := by
  simp [Whole, complete, h, bind, Except.bind, pure, Except.pure]

theorem sized_of_complete {whole : Bool} (h : t.complete = .ok whole) :
    ∃ size, t.fullText.size = .ok size := by
  obtain ⟨size, hsize, -⟩ := bind_eq_ok.1 h
  exact ⟨size, hsize⟩

/-- Of a line that is displayed as a whole, the whole is visible. -/
theorem Whole.visible (h : t.Whole) {s : String} (htext : t.fullText = .text s) :
    t.visible = .ok (.text s) := by
  have hlength : s.length ≤ t.revealed := by
    simpa [Whole, complete, htext, Value.size, bind, Except.bind, pure, Except.pure] using h
  rw [← String.length_toList] at hlength
  simp [TimedText.visible, htext, Value.front, List.take_of_length_le hlength]

/-- A line is displayed, and has counted this many frames if cinematic text is on. All of it is
visible unless typewriter text is on. -/
structure Displays (n : Nat) (t : TimedText) : Prop where
  showing : t.showing
  whole : t.typewriter = false → t.Whole
  clock : t.cinematic → t.counter = n ∧ (n : Int) < t.threshold

theorem Displays.of_same (h : t.Displays n) (hshowing : t'.showing = t.showing)
    (hrate : t'.charsPerSecond = t.charsPerSecond)
    (hthreshold : t'.threshold = t.threshold) (hcounter : t'.counter = t.counter)
    (htext : t'.fullText = t.fullText) (hrevealed : t'.revealed = t.revealed) : t'.Displays n := by
  refine ⟨hshowing.trans h.showing, ?_, ?_⟩
  · unfold Whole complete typewriter
    rw [hrate, htext, hrevealed]
    exact h.whole
  · unfold cinematic
    rw [hthreshold, hcounter]
    exact h.clock

/-- A line of which the rest is revealed is displayed as a whole. -/
theorem Displays.revealed (h : t.Displays n) {size : Nat} (hsize : t.fullText.size = .ok size) :
    ({ t with revealed := size, progress := Float.ofNat size
              changed := true } : TimedText).Displays n := by
  exact ⟨h.showing, fun _ => .of_size hsize, h.clock⟩

/-- A line has just been displayed. -/
structure Shows (text : Value) (t : TimedText) : Prop where
  composed : t.Composed
  displays : t.Displays 0
  fullText : t.fullText = text

/-- A line that has just been displayed has counted no frame. -/
theorem beginLine_shows (text : Value) (h : t.Composed) :
    Ends (beginLine text) t (fun _ t' => t'.Shows text) fun _ t' => t'.Composed := by
  have hclock : ∀ {t' : TimedText}, t'.counter = 0 → t'.cinematic →
      t'.counter = 0 ∧ ((0 : Nat) : Int) < t'.threshold := by
    intro t' hcounter hon
    exact ⟨hcounter, by simpa [cinematic] using hon⟩
  have hexclusive : ∀ {t' : TimedText}, t'.threshold = t.threshold →
      t'.charsPerSecond = t.charsPerSecond → t'.Exclusive := h.exclusive.of_same
  simp only [beginLine, revealAll, step, Ends.bind_iff, Ends.get_iff, Ends.modify_iff, Ends.ite_iff,
    Ends.mk_pure_iff]
  split
  · refine ⟨fun size hsize => ?_, fun _ _ => ⟨hexclusive rfl rfl, h.told⟩⟩
    exact ⟨⟨hexclusive rfl rfl, rfl⟩, ⟨rfl, fun _ => .of_size hsize, hclock rfl⟩, rfl⟩
  · next hon =>
    refine ⟨⟨hexclusive rfl rfl, rfl⟩, ⟨rfl, fun hoff => ?_, hclock rfl⟩, rfl⟩
    have hoff : t.typewriter = false := hoff
    exact absurd (by simpa [typewriter] using hoff) hon

/-- While typewriter text is on, nothing but the line is known of a display. -/
theorem Displays.of_typing (hshowing : t.showing) (hexclusive : t.Exclusive)
    (htypewriter : t.typewriter) : t.Displays n := by
  refine ⟨hshowing, fun hoff => ?_, fun hon => ?_⟩
  · rw [htypewriter] at hoff
    cases hoff
  · rw [hexclusive.cinematic_off htypewriter] at hon
    cases hon

/-- A line is typed if typewriter text is on and has not revealed all of it. -/
theorem typing_result (t : TimedText) : Ends typing t
    (fun busy t' => t' = t ∧
      if busy then t.typewriter ∧ t.complete = .ok false else t.typewriter = false ∨ t.Whole)
    fun m t' => t' = t ∧ t.typewriter ∧ t.complete = .error m := by
  unfold typing step
  refine Ends.bind_iff.2 (Ends.get_iff.2 ?_)
  cases hon : t.typewriter with
  | false => exact ⟨rfl, .inl rfl⟩
  | true =>
    refine Ends.bind_iff.2 (Ends.mk_pure_iff.2 ⟨fun whole hwhole => ⟨rfl, ?_⟩, ?_⟩)
    case refine_2 => exact fun m hm => ⟨rfl, rfl, hm⟩
    cases whole with
    | true => exact .inr hwhole
    | false => exact ⟨rfl, hwhole⟩

/-! ## Time -/

/-- A line is displayed as another one is, at the same pace. -/
structure SamePace (t t' : TimedText) : Prop where
  showing : t'.showing = t.showing
  threshold : t'.threshold = t.threshold
  rate : t'.charsPerSecond = t.charsPerSecond

theorem SamePace.cinematic (h : SamePace t t') : t'.cinematic = t.cinematic := by
  unfold TimedText.cinematic
  rw [h.threshold]

/-- A line that is typed goes on to be typed as long as the pace is the same. -/
theorem SamePace.typing (h : SamePace t t') (hc : t.Exclusive) (hshowing : t.showing)
    (htypewriter : t.typewriter) : t'.Exclusive ∧ t'.Displays n := by
  have hexclusive := hc.of_same h.threshold h.rate
  refine ⟨hexclusive, .of_typing (h.showing.trans hshowing) hexclusive ?_⟩
  unfold typewriter
  rw [h.rate]
  exact htypewriter

/-- What is revealed does not change the pace. If that fails, nothing waits to be told. -/
theorem reveal_samePace (dt : Value) (t : TimedText) : Ends (reveal dt) t
    (fun _ t' => SamePace t t') fun _ t' => SamePace t t' ∧ t'.changed = t.changed := by
  simp only [reveal, step, Ends.bind_iff, Ends.get_iff, Ends.set_iff, Ends.ite_iff, Ends.pure_iff,
    Ends.modify_iff, Ends.mk_pure_iff]
  refine ⟨fun seconds _ => ⟨fun rate _ => ⟨fun earned _ => ⟨fun size _ => ?_, ?_⟩, ?_⟩, ?_⟩, ?_⟩
  · split <;> exact ⟨rfl, rfl, rfl⟩
  all_goals exact fun _ _ => ⟨⟨rfl, rfl, rfl⟩, trivial⟩

/-- While cinematic text is on, a tick counts a frame and does nothing else, but for the last one,
at which the line gives way. -/
theorem tick_counts (hc : t.Composed) (hd : t.Displays n) (hcinematic : t.cinematic) (dt : Value) :
    Ends (tick dt) t (fun fired t' => fired = decide (((n + 1 : Nat) : Int) = t.threshold) ∧
      t' = { t with counter := n + 1, showing := !fired }) fun _ _ => False := by
  have hoff := hc.exclusive.typewriter_off hcinematic
  obtain ⟨hcounter, hlt⟩ := hd.clock hcinematic
  have hcount : t.countFrame = (decide (((n + 1 : Nat) : Int) = t.threshold),
      { t with counter := n + 1, showing := !decide (((n + 1 : Nat) : Int) = t.threshold) }) := by
    unfold countFrame
    rw [hcinematic, hcounter]
    by_cases hlast : ((n + 1 : Nat) : Int) = t.threshold
    · simp [hlast]
    · have hmore : ¬t.threshold ≤ ((n + 1 : Nat) : Int) := by omega
      have hshowing := hd.showing
      simp only [hlast, hmore, if_true, if_false, decide_false, Bool.not_false, ← hshowing]
  unfold tick
  refine Ends.bind_iff.2 (Ends.modify_iff.2 ?_)
  rw [hc.tell]
  refine Ends.bind_iff.2 (Ends.get_iff.2 ?_)
  rw [hd.showing]
  refine Ends.bind_iff.2 ((typing_result t).mono ?_ ?_)
  · rintro busy t₁ ⟨ht₁, hbusy⟩
    rw [ht₁]
    cases busy with
    | true =>
      rw [hbusy.1] at hoff
      cases hoff
    | false =>
      refine Ends.modifyGet_iff.2 ?_
      rw [hcount]
      exact ⟨rfl, rfl⟩
  · rintro _ _ ⟨-, htypewriter, -⟩
    rw [htypewriter] at hoff
    cases hoff

/-- What a tick comes to, and whether the line gives way: if not, it has been displayed for one more
frame, and if so, no change of what is visible waits to be told. -/
structure Ticks (n : Nat) (fired : Bool) (t : TimedText) : Prop where
  exclusive : t.Exclusive
  displays : fired = false → t.Displays (n + 1)
  told : fired → t.changed = false

theorem countFrame_ticks (hexclusive : t.Exclusive) (hd : t.Displays n)
    (htold : t.cinematic → t.changed = false) : Ticks n t.countFrame.1 t.countFrame.2 := by
  unfold countFrame
  split
  · next hon =>
    obtain ⟨hcounter, -⟩ := hd.clock hon
    have hexclusive' : ({ t with counter := t.counter + 1 } : TimedText).Exclusive :=
      hexclusive.of_same rfl rfl
    dsimp only
    split
    · refine ⟨hexclusive'.of_same rfl rfl, fun hfired => ?_, fun _ => htold hon⟩
      cases hfired
    · next hwaits =>
      refine ⟨hexclusive', fun _ => ⟨hd.showing, hd.whole, fun _ => ⟨?_, ?_⟩⟩, fun _ => htold hon⟩
      · show t.counter + 1 = n + 1
        rw [hcounter]
      · have hwaits : ¬t.threshold ≤ ((t.counter + 1 : Nat) : Int) := hwaits
        rw [hcounter] at hwaits
        show ((n + 1 : Nat) : Int) < t.threshold
        omega
  · next hoff =>
    refine ⟨hexclusive, fun _ => ⟨hd.showing, hd.whole, fun hon => ?_⟩, fun hfired => ?_⟩
    · exact absurd hon hoff
    · cases hfired

/-- However a tick ends, the line is displayed for one more frame unless it gives way. -/
theorem tick_ticks (hc : t.Composed) (hd : t.Displays n) (dt : Value) :
    Ends (tick dt) t (fun fired t' => Ticks n fired t')
      fun _ t' => t'.Composed ∧ t'.Displays (n + 1) := by
  unfold tick
  refine Ends.bind_iff.2 (Ends.modify_iff.2 ?_)
  rw [hc.tell]
  refine Ends.bind_iff.2 (Ends.get_iff.2 ?_)
  rw [hd.showing]
  refine Ends.bind_iff.2 ((typing_result t).mono ?_ ?_)
  · rintro busy t₁ ⟨ht₁, hbusy⟩
    rw [ht₁]
    cases busy with
    | false => exact Ends.modifyGet_iff.2 (countFrame_ticks hc.exclusive hd fun _ => hc.told)
    | true =>
      obtain ⟨htypewriter, -⟩ := hbusy
      refine Ends.bind_iff.2 ((reveal_samePace dt t).mono (fun _ t₂ h₂ => ?_) ?_)
      · obtain ⟨hexclusive, hdisplays⟩ := h₂.typing hc.exclusive hd.showing htypewriter
        refine Ends.modifyGet_iff.2 (countFrame_ticks hexclusive hdisplays fun hon => ?_)
        -- A line that is typed does not give way.
        rw [h₂.cinematic, hc.exclusive.cinematic_off htypewriter] at hon
        cases hon
      · rintro _ t₂ ⟨h₂, htold⟩
        obtain ⟨hexclusive, hdisplays⟩ := h₂.typing hc.exclusive hd.showing htypewriter
        exact ⟨⟨hexclusive, htold.trans hc.told⟩, hdisplays⟩
  · rintro _ t₁ ⟨ht₁, htypewriter, -⟩
    rw [ht₁]
    exact ⟨hc, .of_typing hd.showing hc.exclusive htypewriter⟩

/-! ## Input -/

/-- Whether input is passed over. -/
def Deaf (t : TimedText) : Prop :=
  t.cinematic ∧ t.inputAllowed = false

/-- What input comes to, and whether the line gives way: it is passed over, or the line gives way,
or the rest of it is revealed. -/
inductive Heard (t : TimedText) : Bool → TimedText → Prop where
  | ignored : t.Deaf ∨ t.complete = .ok false ∧ t.canSkip = false → Heard t false t
  | passes : ¬t.Deaf → t.Whole → Heard t true t
  | reveals {size : Nat} : ¬t.Deaf → t.complete = .ok false → t.canSkip →
    t.fullText.size = .ok size →
    Heard t false { t with revealed := size, progress := Float.ofNat size, changed := true }

/-- **Input moves past a line only if all of it is visible.** It is passed over while cinematic text
does not allow it. The first input on a line that is being typed reveals the rest of it if that can
be skipped. -/
theorem input_heard (hc : t.Composed) (hd : t.Displays n) :
    Ends input t (fun go t' => Heard t go t')
      fun m t' => t' = t ∧ ¬t.Deaf ∧ t.complete = .error m := by
  unfold input
  refine Ends.bind_iff.2 (Ends.modify_iff.2 ?_)
  rw [hc.tell]
  refine Ends.bind_iff.2 (Ends.get_iff.2 ?_)
  rw [hd.showing]
  by_cases hdeaf : t.Deaf
  · obtain ⟨hcinematic, hallowed⟩ := hdeaf
    rw [hcinematic, hallowed]
    exact .ignored (.inl ⟨hcinematic, hallowed⟩)
  · have hhears : (t.cinematic && !t.inputAllowed) = false := by
      simpa [Deaf] using hdeaf
    rw [hhears]
    refine Ends.bind_iff.2 ((typing_result t).mono ?_ ?_)
    · rintro busy t₁ ⟨ht₁, hbusy⟩
      rw [ht₁]
      cases busy with
      | false => exact .passes hdeaf (hbusy.elim hd.whole id)
      | true =>
        obtain ⟨-, hmore⟩ := hbusy
        obtain ⟨size, hsize⟩ := sized_of_complete hmore
        simp only [if_true, revealAll, step, Ends.bind_iff, Ends.ite_iff, Ends.get_iff,
          Ends.modify_iff, Ends.pure_iff, Ends.mk_pure_iff, hsize]
        split
        · next hskip =>
          refine ⟨fun size' hsize' => ?_, fun m hm => by cases hm⟩
          cases hsize'
          exact .reveals hdeaf hmore hskip hsize
        · next hskip => exact .ignored (.inr ⟨hmore, by simpa using hskip⟩)
    · rintro _ t₁ ⟨ht₁, -, hfails⟩
      exact ⟨ht₁, hdeaf, hfails⟩

end TimedText

/-! ## On the stage -/

/-- Timed text stays composed. -/
def Stage.KeepsComposed (s s' : Stage) : Prop :=
  s.timedText.Composed → s'.timedText.Composed

namespace Stage

instance : IsPreorder Stage KeepsComposed where
  refl _ := id
  trans _ _ _ h h' := h' ∘ h

theorem retime_keepsComposed {change : Attempt TimedText Unit}
    (h : ∀ t, t.Composed → Ends change t (fun _ t' => t'.Composed) fun _ t' => t'.Composed) :
    Tracks KeepsComposed (retime change) := by
  intro s hs
  have hends : Ends (retime change) s (fun _ s' => s'.timedText.Composed)
      fun _ s' => s'.timedText.Composed :=
    Ends.attempt_iff.2 ((h s.timedText hs).mono (fun _ _ h => h) fun _ _ h => h)
  exact Ends.state_iff.1 hends

/-- Nothing that commands do takes the composure away. -/
theorem KeepsComposed.offstage : Offstage KeepsComposed where
  noted _ _ _ := id
  script _ _ := id
  session _ _ := id
  library _ _ := id
  thrown _ _ := id
  cinematic _ _ := retime_keepsComposed fun _ ht => TimedText.setCinematic_composed _ _ ht
  typewriter _ _ := retime_keepsComposed fun _ ht => TimedText.setTypewriter_composed _ _ ht

end Stage

end VisualNovel
