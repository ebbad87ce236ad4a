import VisualNovel.Engine.Input
import VisualNovel.Proofs.Outcomes

/-!
# The stream of intents

What passes between an engine and its renderer is a row of *signs*: a scene is prepared, an intent
is sent, the report that an effect is done is taken. `Obeys` is the order that intents stand in.

A *phase* is what the signs so far ask of the next one. A row of signs that goes from phase to phase
obeys the order (`Phase.Follows.obeys`), so of an engine only has to be known which phase it is in.
-/

namespace VisualNovel

/-- Something that passes between an engine and its renderer. -/
inductive Sign where
  | prepared
  | sent (i : Intent)
  /-- The report that the effect of an identity is done was taken. -/
  | finished (id : Value)

namespace Sign

def intent? : Sign → Option Intent
  | sent i => some i
  | _ => none

/-- The intents among signs. -/
def intents (signs : List Sign) : List Intent :=
  signs.filterMap intent?

@[simp] theorem intents_append (a b : List Sign) : intents (a ++ b) = intents a ++ intents b :=
  List.filterMap_append

@[simp] theorem intents_cons (s : Sign) (signs : List Sign) :
    intents (s :: signs) = s.intent?.toList ++ intents signs := by
  cases h : s.intent? <;> simp [intents, h]

/-- Where an intent stands among the intents, it stands among the signs. -/
theorem exists_of_intents_eq {signs : List Sign} {a b : List Intent} {j : Intent}
    (h : intents signs = a ++ j :: b) :
    ∃ before after, signs = before ++ .sent j :: after ∧ intents before = a := by
  obtain ⟨before, rest, rfl, ha, hrest⟩ := List.filterMap_eq_append_iff.1 h
  obtain ⟨silent, s, after, rfl, hsilent, hs, -⟩ := List.filterMap_eq_cons_iff.1 hrest
  obtain rfl : s = .sent j := by
    cases s with
    | sent i =>
      cases hs
      rfl
    | _ => cases hs
  have hnone : intents silent = [] := List.filterMap_eq_nil_iff.2 hsilent
  refine ⟨before ++ silent, after, by simp, ?_⟩
  rw [intents_append, hnone, List.append_nil]
  exact ha

end Sign

open Sign

/-- The second intent reveals some of the line that the first one shows, and says whether that is
all of it. -/
def Intent.Reveals (i j : Intent) : Prop :=
  ∃ n whole, (i.get "text").front n = .ok (j.get "text") ∧ j.get "complete" = .bool whole ∧
    (whole ↔ j.get "text" = i.get "text")

/-- The order of the intents between two preparations. -/
structure Obeys (signs : List Sign) : Prop where
  /-- After an intent that blocks comes nothing but the report that its effect is done. -/
  blocks : ∀ {a b : List Sign} {i : Intent} {s : Sign}, signs = a ++ .sent i :: s :: b →
    i.blocking → ∃ id, s = .finished id ∧ Engine.isEffect id i
  /-- The end of a fade comes right after its start, and nowhere else. -/
  fades : ∀ {a b : List Intent} {i j : Intent}, intents signs = a ++ i :: j :: b →
    (i.kind = .fadeBegin ↔ j.kind = .fadeEnd) ∧
      (j.kind = .fadeEnd → j.get "direction" = i.get "direction")
  /-- A menu is cleared right after it is shown, and nowhere else. -/
  menus : ∀ {a b : List Intent} {i j : Intent}, intents signs = a ++ i :: j :: b →
    (i.kind = .showChoices ↔ j.kind = .clearChoices)
  opens : ∀ {j : Intent} {b : List Intent}, intents signs = j :: b →
    j.kind ≠ .fadeEnd ∧ j.kind ≠ .clearChoices
  /-- What is revealed belongs to the line that was shown last, with nothing but more of it in
  between. -/
  reveals : ∀ {a b : List Intent} {j : Intent}, intents signs = a ++ j :: b →
    j.kind = .revealText → ∃ a' i shown, a = a' ++ i :: shown ∧ i.kind = .showText ∧
      (∀ k ∈ shown, k.kind = .revealText) ∧ i.Reveals j

/-- What the signs so far ask of the next one. -/
inductive Phase where
  /-- Nothing is pending. -/
  | idle
  /-- A line is shown, and more of it can be revealed. -/
  | line (i : Intent)
  /-- A fade has started, and has to end. -/
  | fading (i : Intent)
  /-- A menu is shown, and has to be cleared. -/
  | menu
  /-- An effect is running, and has to be reported as done. -/
  | held (i : Intent)

namespace Phase

/-- Whether any intent can come next that takes nothing back. -/
def Free : Phase → Prop
  | idle | line _ => True
  | _ => False

/-- The phase when an effect is done. -/
def released (i : Intent) : Phase :=
  if i.kind = .fadeBegin then fading i else idle

/-- A sign leads from one phase to another. -/
inductive Moves : Phase → Sign → Phase → Prop where
  | prepared (p : Phase) : Moves p .prepared idle
  | loose {p : Phase} {i : Intent} : p.Free → i.effectId = none → i.kind.loose →
    Moves p (.sent i) idle
  | text {p : Phase} {i : Intent} : p.Free → i.effectId = none → i.kind = .showText →
    Moves p (.sent i) (line i)
  | reveal {i j : Intent} : j.effectId = none → j.kind = .revealText → i.Reveals j →
    Moves (line i) (.sent j) (line i)
  | fade {p : Phase} {i : Intent} : p.Free → i.effectId = none → i.kind = .fadeBegin →
    Moves p (.sent i) (fading i)
  | fadeEnd {i j : Intent} : j.effectId = none → j.kind = .fadeEnd →
    j.get "direction" = i.get "direction" → Moves (fading i) (.sent j) idle
  | ask {p : Phase} {i : Intent} : p.Free → i.effectId = none → i.kind = .showChoices →
    Moves p (.sent i) menu
  | clear {j : Intent} : j.effectId = none → j.kind = .clearChoices → Moves menu (.sent j) idle
  | hold {p : Phase} {i : Intent} : p.Free → i.blocking → i.kind.lasting →
    Moves p (.sent i) (held i)
  | done {i : Intent} {id : Value} : Engine.isEffect id i →
    Moves (held i) (.finished id) (released i)

/-- Signs lead from one phase to another. -/
def Follows (p : Phase) : List Sign → Phase → Prop
  | [], q => q = p
  | s :: signs, q => ∃ p', Moves p s p' ∧ p'.Follows signs q

variable {p q r : Phase} {s : Sign} {signs : List Sign}

@[simp] theorem follows_nil : p.Follows [] q ↔ q = p :=
  Iff.rfl

@[simp] theorem follows_cons : p.Follows (s :: signs) q ↔ ∃ p', Moves p s p' ∧ p'.Follows signs q :=
  Iff.rfl

theorem Moves.follows (h : Moves p s q) : p.Follows [s] q :=
  ⟨q, h, rfl⟩

theorem follows_append {a b : List Sign} :
    p.Follows (a ++ b) r ↔ ∃ q, p.Follows a q ∧ q.Follows b r := by
  induction a generalizing p with
  | nil => simp
  | cons s a ih =>
    simp only [List.cons_append, follows_cons, ih]
    constructor
    · rintro ⟨p', hs, q, ha, hb⟩
      exact ⟨q, ⟨p', hs, ha⟩, hb⟩
    · rintro ⟨q, ⟨p', hs, ha⟩, hb⟩
      exact ⟨p', hs, q, ha, hb⟩

theorem Follows.trans {a b : List Sign} (ha : p.Follows a q) (hb : q.Follows b r) :
    p.Follows (a ++ b) r :=
  follows_append.2 ⟨q, ha, hb⟩

/-! ## What a phase knows of the intents before it -/

/-- The phase is one that these intents lead to. -/
def Recalls : Phase → List Intent → Prop
  | idle, l => ∀ a i, l = a ++ [i] → i.kind ≠ .fadeBegin ∧ i.kind ≠ .showChoices
  | line i, l => ∃ a shown, l = a ++ i :: shown ∧ i.kind = .showText ∧
      ∀ k ∈ shown, k.kind = .revealText
  | fading i, l => ∃ a, l = a ++ [i] ∧ i.kind = .fadeBegin
  | menu, l => ∃ a i, l = a ++ [i] ∧ i.kind = .showChoices
  | held i, l => ∃ a, l = a ++ [i] ∧ i.kind.lasting

theorem loose_ne {kind : IntentKind} (h : kind.loose) : kind ≠ .fadeBegin ∧ kind ≠ .fadeEnd ∧
    kind ≠ .showChoices ∧ kind ≠ .clearChoices ∧ kind ≠ .revealText := by
  cases kind <;> simp_all [IntentKind.loose]

theorem lasting_ne {kind : IntentKind} (h : kind.lasting) : kind ≠ .fadeEnd ∧
    kind ≠ .showChoices ∧ kind ≠ .clearChoices ∧ kind ≠ .revealText := by
  cases kind <;> simp_all [IntentKind.lasting]

theorem recalls_idle_snoc {l : List Intent} {i : Intent} (hfade : i.kind ≠ .fadeBegin)
    (hmenu : i.kind ≠ .showChoices) : idle.Recalls (l ++ [i]) := by
  intro a j h
  obtain ⟨-, rfl⟩ : l = a ∧ i = j := by simpa using List.append_inj' h rfl
  exact ⟨hfade, hmenu⟩

theorem Moves.recalls (h : Moves p s q) (hs : s ≠ .prepared) {l : List Intent}
    (hl : p.Recalls l) : q.Recalls (l ++ s.intent?.toList) := by
  cases h with
  | prepared => exact absurd rfl hs
  | loose _ _ hkind => exact recalls_idle_snoc (loose_ne hkind).1 (loose_ne hkind).2.2.1
  | text _ _ hkind => exact ⟨l, [], by simp [intent?], hkind, by simp⟩
  | @reveal i j _ hkind _ =>
    obtain ⟨a, shown, rfl, htext, hshown⟩ := hl
    refine ⟨a, shown ++ [j], by simp [intent?], htext, ?_⟩
    intro k hk
    rcases List.mem_append.1 hk with hk | hk
    · exact hshown k hk
    · rw [List.mem_singleton.1 hk]
      exact hkind
  | fade _ _ hkind => exact ⟨l, rfl, hkind⟩
  | fadeEnd _ hkind _ => exact recalls_idle_snoc (by simp [hkind]) (by simp [hkind])
  | @ask _ i _ _ hkind => exact ⟨l, i, rfl, hkind⟩
  | clear _ hkind => exact recalls_idle_snoc (by simp [hkind]) (by simp [hkind])
  | hold _ _ hkind => exact ⟨l, rfl, hkind⟩
  | @done i id _ =>
    obtain ⟨a, rfl, hkind⟩ := hl
    simp only [intent?, Option.toList_none, List.append_nil, released]
    split
    · next hfade => exact ⟨a, rfl, hfade⟩
    · next hfade => exact recalls_idle_snoc hfade (lasting_ne hkind).2.1

theorem Follows.recalls (h : p.Follows signs q) (hsigns : .prepared ∉ signs) {l : List Intent}
    (hl : p.Recalls l) : q.Recalls (l ++ intents signs) := by
  induction signs generalizing p l with
  | nil =>
    rw [follows_nil] at h
    simpa [h, intents] using hl
  | cons s signs ih =>
    obtain ⟨p', hs, hrest⟩ := h
    simp only [List.mem_cons, not_or] at hsigns
    have hp' := hs.recalls (Ne.symm hsigns.1) hl
    have hq := ih hrest hsigns.2 hp'
    rwa [List.append_assoc, ← intents_cons] at hq

/-! ## The order of intents -/

section
variable {i j : Intent} {l : List Intent}

theorem Moves.eq_held (h : Moves p (.sent i) q) (hblocks : i.blocking) : q = held i := by
  cases h with
  | hold => rfl
  | _ => simp_all [Intent.blocking]

/-- In a phase that is free, the last intent asks for nothing. -/
theorem Recalls.last_of_free (hl : p.Recalls (l ++ [i])) (hp : p.Free) :
    i.kind ≠ .fadeBegin ∧ i.kind ≠ .showChoices := by
  cases p with
  | idle => exact hl l i rfl
  | line k =>
    obtain ⟨a, shown, heq, htext, hshown⟩ := hl
    rcases List.eq_nil_or_concat shown with rfl | ⟨more, last, rfl⟩
    · obtain ⟨-, rfl⟩ : l = a ∧ i = k := by simpa using List.append_inj' heq rfl
      simp [htext]
    · rw [List.concat_eq_append, ← List.cons_append, ← List.append_assoc] at heq
      obtain ⟨-, rfl⟩ : l = a ++ k :: more ∧ i = last := by simpa using List.append_inj' heq rfl
      simp [hshown i (by simp)]
  | _ => exact hp.elim

/-- In a phase that is free, an intent takes nothing back. -/
theorem Moves.of_free (h : Moves p (.sent j) q) (hp : p.Free) :
    j.kind ≠ .fadeEnd ∧ j.kind ≠ .clearChoices := by
  cases h with
  | loose _ _ hkind => exact ⟨(loose_ne hkind).2.1, (loose_ne hkind).2.2.2.1⟩
  | hold _ _ hkind => exact ⟨(lasting_ne hkind).1, (lasting_ne hkind).2.2.1⟩
  | text _ _ hkind | fade _ _ hkind | ask _ _ hkind => simp [hkind]
  | reveal _ hkind _ => simp [hkind]
  | fadeEnd | clear => exact hp.elim

/-- How an intent goes with the one before it. -/
theorem Moves.in_order (h : Moves p (.sent j) q) (hl : p.Recalls (l ++ [i])) :
    (i.kind = .fadeBegin ↔ j.kind = .fadeEnd) ∧
      (j.kind = .fadeEnd → j.get "direction" = i.get "direction") ∧
      (i.kind = .showChoices ↔ j.kind = .clearChoices) := by
  by_cases hp : p.Free
  · have hlast := hl.last_of_free hp
    have hnext := h.of_free hp
    simp [hlast, hnext]
  · cases h with
    | fadeEnd _ hkind hdirection =>
      obtain ⟨a, heq, hfade⟩ := hl
      obtain ⟨-, rfl⟩ : l = a ∧ i = _ := by simpa using List.append_inj' heq rfl
      simp [hkind, hfade, hdirection]
    | clear _ hkind =>
      obtain ⟨a, k, heq, hmenu⟩ := hl
      obtain ⟨-, rfl⟩ : l = a ∧ i = k := by simpa using List.append_inj' heq rfl
      simp [hkind, hmenu]
    | reveal => exact absurd trivial hp
    | _ hfree => exact absurd hfree hp

theorem Moves.of_reveal (h : Moves p (.sent j) q) (hkind : j.kind = .revealText) :
    ∃ i, p = line i ∧ i.Reveals j := by
  cases h with
  | reveal _ _ hreveals => exact ⟨_, rfl, hreveals⟩
  | loose _ _ hloose => exact absurd hkind (loose_ne hloose).2.2.2.2
  | hold _ _ hlasting => exact absurd hkind (lasting_ne hlasting).2.2.2
  | text _ _ hother | fade _ _ hother | ask _ _ hother => simp [hother] at hkind
  | fadeEnd _ hother _ => simp [hother] at hkind
  | clear _ hother => simp [hother] at hkind

end

/-- A row of signs that goes from phase to phase obeys the order of intents. -/
theorem Follows.obeys (h : idle.Follows signs q) (hsigns : .prepared ∉ signs) : Obeys signs := by
  -- Where an intent is sent, the phase before it knows the intents before it.
  have hsent : ∀ {a b : List Intent} {j : Intent}, intents signs = a ++ j :: b →
      ∃ p p', Moves p (.sent j) p' ∧ p.Recalls a := by
    intro a b j heq
    obtain ⟨before, after, rfl, rfl⟩ := exists_of_intents_eq heq
    obtain ⟨p, hbefore, p', hj, -⟩ := follows_append.1 h
    have hidle : idle.Recalls [] := by
      intro a i hnil
      simp at hnil
    exact ⟨p, p', hj, hbefore.recalls (fun hmem => hsigns (by simp [hmem])) hidle⟩
  refine ⟨?_, ?_, ?_, ?_, ?_⟩
  · intro a b i s heq hblocks
    subst heq
    obtain ⟨p, -, p', hi, p'', hs, -⟩ := follows_append.1 h
    rw [hi.eq_held hblocks] at hs
    cases hs with
    | prepared => simp at hsigns
    | done hid => exact ⟨_, rfl, hid⟩
    | _ hfree => exact hfree.elim
  · intro a b i j heq
    obtain ⟨p, p', hj, hp⟩ := hsent (a := a ++ [i]) (by simpa using heq)
    have horder := hj.in_order hp
    exact ⟨horder.1, horder.2.1⟩
  · intro a b i j heq
    obtain ⟨p, p', hj, hp⟩ := hsent (a := a ++ [i]) (by simpa using heq)
    exact (hj.in_order hp).2.2
  · intro j b heq
    obtain ⟨p, p', hj, hp⟩ := hsent (a := []) heq
    cases p with
    | idle => exact hj.of_free trivial
    | line i =>
      obtain ⟨a, shown, hnil, -⟩ := hp
      simp at hnil
    | fading i | held i =>
      obtain ⟨a, hnil, -⟩ := hp
      simp at hnil
    | menu =>
      obtain ⟨a, i, hnil, -⟩ := hp
      simp at hnil
  · intro a b j heq hkind
    obtain ⟨p, p', hj, hp⟩ := hsent heq
    obtain ⟨i, rfl, hreveals⟩ := hj.of_reveal hkind
    obtain ⟨a', shown, ha, htext, hshown⟩ := hp
    exact ⟨a', i, shown, ha, htext, hshown, hreveals⟩

end Phase

end VisualNovel
