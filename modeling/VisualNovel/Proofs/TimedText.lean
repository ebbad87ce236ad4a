import VisualNovel.Engine.Stage
import VisualNovel.Proofs.Calculus

/-!
# Timed text

What the operations of timed text leave alone: the displayed line and the frame rate.
-/

namespace VisualNovel

namespace TimedText

/-- The second is timed text that displays the line of the first, at the frame rate of the first. -/
structure SameLine (t t' : TimedText) : Prop where
  showing : t'.showing = t.showing
  fullText : t'.fullText = t.fullText
  frameRate : t'.frameRate = t.frameRate

theorem SameLine.refl (t : TimedText) : SameLine t t :=
  ⟨rfl, rfl, rfl⟩

theorem SameLine.trans {t t' t'' : TimedText} (h : SameLine t t') (h' : SameLine t' t'') :
    SameLine t t'' :=
  ⟨h'.showing.trans h.showing, h'.fullText.trans h.fullText, h'.frameRate.trans h.frameRate⟩

theorem typing_ends (t : TimedText) : Ends typing t (fun _ t' => t' = t) fun _ t' => t' = t := by
  simp only [typing, step, Ends.bind_iff, Ends.get_iff, Ends.ite_iff, Ends.pure_iff,
    Ends.mk_pure_iff, implies_true, and_self, ite_self]

theorem reveal_ends (dt : Value) (t : TimedText) :
    Ends (reveal dt) t (fun _ t' => SameLine t t') fun _ t' => SameLine t t' := by
  simp only [reveal, step, Ends.bind_iff, Ends.get_iff, Ends.set_iff, Ends.ite_iff, Ends.pure_iff,
    Ends.modify_iff, Ends.mk_pure_iff]
  refine ⟨fun seconds _ => ⟨fun rate _ => ⟨fun earned _ => ⟨fun size _ => ?_, ?_⟩, ?_⟩, ?_⟩, ?_⟩
  · split <;> exact ⟨rfl, rfl, rfl⟩
  all_goals exact fun _ _ => ⟨rfl, rfl, rfl⟩

theorem revealAll_ends (t : TimedText) :
    Ends revealAll t (fun _ t' => SameLine t t') fun _ t' => SameLine t t' := by
  simp only [revealAll, step, Ends.bind_iff, Ends.get_iff, Ends.modify_iff, Ends.mk_pure_iff]
  exact ⟨fun _ _ => ⟨rfl, rfl, rfl⟩, fun _ _ => .refl t⟩

/-- Input leaves the line displayed. -/
theorem input_ends (t : TimedText) :
    Ends input t (fun _ t' => SameLine t t') fun _ t' => SameLine t t' := by
  simp only [input, Ends.bind_iff, Ends.get_iff, Ends.modify_iff, Ends.ite_iff, Ends.pure_iff]
  split
  · exact ⟨rfl, rfl, rfl⟩
  · split
    · exact ⟨rfl, rfl, rfl⟩
    · refine (typing_ends _).mono ?_ ?_
      · rintro busy _ rfl
        split
        · split
          · exact (revealAll_ends _).mono (fun _ _ h => ⟨h.1, h.2, h.3⟩)
              fun _ _ h => ⟨h.1, h.2, h.3⟩
          · exact ⟨rfl, rfl, rfl⟩
        · exact ⟨rfl, rfl, rfl⟩
      · rintro _ _ rfl
        exact ⟨rfl, rfl, rfl⟩

/-- The second is timed text with the line of the first, if it displays any. -/
structure SameText (t t' : TimedText) : Prop where
  fullText : t'.fullText = t.fullText
  frameRate : t'.frameRate = t.frameRate

theorem SameLine.text {t t' : TimedText} (h : SameLine t t') : SameText t t' :=
  ⟨h.fullText, h.frameRate⟩

theorem SameText.trans {t t' t'' : TimedText} (h : SameText t t') (h' : SameText t' t'') :
    SameText t t'' :=
  ⟨h'.fullText.trans h.fullText, h'.frameRate.trans h.frameRate⟩

theorem countFrame_keeps (t : TimedText) : SameText t t.countFrame.2 ∧
    (t.countFrame.1 = false → SameLine t t.countFrame.2) := by
  unfold countFrame
  split
  · dsimp only
    split
    · exact ⟨⟨rfl, rfl⟩, fun h => by cases h⟩
    · exact ⟨⟨rfl, rfl⟩, fun _ => ⟨rfl, rfl, rfl⟩⟩
  · exact ⟨⟨rfl, rfl⟩, fun _ => ⟨rfl, rfl, rfl⟩⟩

/-- Unless the line gives way, time leaves it displayed. -/
theorem tick_ends (dt : Value) (t : TimedText) :
    Ends (tick dt) t (fun fired t' => SameText t t' ∧ (fired = false → SameLine t t'))
      fun _ t' => SameText t t' := by
  have hcount : ∀ t₁, SameLine t t₁ → Ends (modifyGet countFrame : Attempt TimedText Bool) t₁
      (fun fired t' => SameText t t' ∧ (fired = false → SameLine t t'))
      fun _ t' => SameText t t' := by
    intro t₁ h₁
    obtain ⟨htext, hline⟩ := countFrame_keeps t₁
    exact Ends.modifyGet_iff.2 ⟨h₁.text.trans htext, fun hfired => h₁.trans (hline hfired)⟩
  simp only [tick, Ends.bind_iff, Ends.get_iff, Ends.modify_iff, Ends.ite_iff, Ends.pure_iff]
  split
  · exact ⟨⟨rfl, rfl⟩, fun _ => ⟨rfl, rfl, rfl⟩⟩
  · refine (typing_ends _).mono ?_ ?_
    · rintro busy _ rfl
      split
      · refine (reveal_ends dt _).mono ?_ fun _ _ h => ⟨h.2, h.3⟩
        exact fun _ t₁ h₁ => hcount t₁ ⟨h₁.1, h₁.2, h₁.3⟩
      · exact hcount _ ⟨rfl, rfl, rfl⟩
    · rintro _ _ rfl
      exact ⟨rfl, rfl⟩

/-- However it ends, the attempt leaves the line as it is. -/
def KeepsText {α : Type} (act : Attempt TimedText α) : Prop :=
  ∀ t, Ends act t (fun _ t' => t'.fullText = t.fullText) fun _ t' => t'.fullText = t.fullText

theorem tick_keepsText (dt : Value) : KeepsText (tick dt) :=
  fun t => (tick_ends dt t).mono (fun _ _ h => h.1.fullText) fun _ _ h => h.fullText

theorem input_keepsText : KeepsText input :=
  fun t => (input_ends t).mono (fun _ _ h => h.fullText) fun _ _ h => h.fullText

theorem setCinematic_keepsText (seconds inputAllowed : Value) :
    KeepsText (setCinematic seconds inputAllowed) := by
  intro t
  simp only [setCinematic, step, Ends.bind_iff, Ends.get_iff, Ends.modify_iff, Ends.mk_pure_iff]
  refine ⟨fun frames _ => ?_, fun _ _ => trivial⟩
  split <;> rfl

theorem setTypewriter_keepsText (rate canSkip : Value) :
    KeepsText (setTypewriter rate canSkip) := by
  intro t
  simp only [setTypewriter, step, Ends.bind_iff, Ends.modify_iff, Ends.ite_iff, Ends.mk_pure_iff]
  refine ⟨fun n _ => ?_, fun _ _ => trivial⟩
  split
  · trivial
  · exact (revealAll_ends _).mono (fun _ _ h => h.fullText) fun _ _ h => h.fullText

/-- Timed text with a number of frames for cinematic text. -/
def withCinematic (frames : Int) (inputAllowed : Bool) (t : TimedText) : TimedText :=
  { t with threshold := frames, inputAllowed, counter := 0
           charsPerSecond := if 0 < frames then 0 else t.charsPerSecond }

theorem withCinematic_sameLine (frames : Int) (inputAllowed : Bool) (t : TimedText) :
    SameLine t (t.withCinematic frames inputAllowed) :=
  ⟨rfl, rfl, rfl⟩

/-- Cinematic text is set if the seconds are a number of frames. -/
theorem setCinematic_ends (seconds inputAllowed : Value) (t : TimedText) :
    Ends (setCinematic seconds inputAllowed) t
      (fun _ t' => ∃ frames, t.framesOf seconds = .ok frames ∧
        t' = t.withCinematic frames inputAllowed.truthy)
      fun m _ => t.framesOf seconds = .error m := by
  simp only [setCinematic, step, Ends.bind_iff, Ends.get_iff, Ends.modify_iff, Ends.mk_pure_iff]
  refine ⟨fun frames h => ⟨frames, h, ?_⟩, fun _ h => h⟩
  unfold withCinematic cinematic
  by_cases hframes : 0 < frames <;> simp [hframes]

/-- Timed text that has been given a rate of typewriter text. -/
structure Paced (n : Int) (skips : Bool) (t t' : TimedText) : Prop where
  rate : t'.charsPerSecond = max 0 n
  canSkip : t'.canSkip = skips
  threshold : t'.threshold = if 0 < n then 0 else t.threshold
  inputAllowed : t'.inputAllowed = if 0 < n then false else t.inputAllowed
  line : SameLine t t'

/-- Typewriter text is set if the rate is a number, and the line is one that can be revealed. -/
theorem setTypewriter_ends (rate canSkip : Value) (t : TimedText) :
    Ends (setTypewriter rate canSkip) t
      (fun _ t' => ∃ n, rate.toInt = .ok n ∧ Paced n canSkip.truthy t t')
      fun m _ => rate.toInt = .error m ∨ t.fullText.size = .error m := by
  simp only [setTypewriter, revealAll, step, Ends.bind_iff, Ends.get_iff, Ends.modify_iff,
    Ends.ite_iff, Ends.mk_pure_iff]
  refine ⟨fun n hn => ?_, fun _ h => .inl h⟩
  split
  · next hon =>
    have hrate : 0 < n := by omega
    exact ⟨n, hn, rfl, rfl, by simp [hrate], by simp [hrate], rfl, rfl, rfl⟩
  · next hoff =>
    have hrate : ¬0 < n := by omega
    exact ⟨fun size _ => ⟨n, hn, rfl, rfl, by simp [hrate], by simp [hrate], rfl, rfl, rfl⟩,
      fun _ h => .inr h⟩

end TimedText

/-- The settings of a session change nothing of a stage but the timing of its text. -/
theorem Stage.retimeFromSession_leads (s : Stage) :
    Runs True Stage.retimeFromSession s fun _ s' => ∃ t, s' = { s with timedText := t } ∧
      s.timedText.SameLine t := by
  have hretime : ∀ (change : Attempt TimedText Unit) (s₁ : Stage),
      (∃ t, s₁ = { s with timedText := t } ∧ s.timedText.SameLine t) →
      Ends change s₁.timedText (fun _ t' => s₁.timedText.SameLine t') (fun _ _ => True) →
      Runs True (Stage.retime change) s₁ fun _ s' => ∃ t, s' = { s with timedText := t } ∧
        s.timedText.SameLine t := by
    rintro change _ ⟨t, rfl, ht⟩ hchange
    refine Ends.attempt_iff.2 (Ends.mono hchange ?_ fun _ _ _ => trivial)
    exact fun _ t' h => ⟨t', rfl, ht.trans h⟩
  have hcinematic : ∀ (seconds inputAllowed : Value) (t : TimedText),
      Ends (TimedText.setCinematic seconds inputAllowed) t (fun _ t' => t.SameLine t')
        fun _ _ => True := by
    intro seconds inputAllowed t
    refine (TimedText.setCinematic_ends seconds inputAllowed t).mono ?_ fun _ _ _ => trivial
    rintro _ _ ⟨frames, -, rfl⟩
    exact TimedText.withCinematic_sameLine _ _ _
  unfold Stage.retimeFromSession
  refine Leads.get_bind ?_
  refine (hretime _ s ⟨s.timedText, rfl, .refl _⟩ (hcinematic _ _ _)).bind fun _ s₁ h₁ => ?_
  refine (hretime _ s₁ h₁ ((TimedText.setTypewriter_ends _ _ _).mono
    (fun _ _ ⟨_, _, h⟩ => h.line) fun _ _ _ => trivial)).bind fun _ s₂ h₂ => ?_
  refine Ends.bind_iff.2 (Ends.ofMishap_iff.2 ⟨fun on _ => ?_, fun _ _ => trivial⟩)
  split
  · exact hretime _ s₂ h₂ (hcinematic _ _ _)
  · exact h₂

end VisualNovel
