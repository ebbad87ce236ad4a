import Mathlib.Data.List.Nodup
import VisualNovel.Proofs.Tallies

/-!
# Turns at the renderer

An effect that has begun waits for its turn at the renderer. It gets one turn, in which the renderer
is handed the intent of the effect. But the effect may be reported as done while it still waits;
then the renderer is handed nothing in its turn, and the intent of the effect is lost.

`Roster` says how what passes between an engine and its renderer goes on from there. Effects take
their turns one after another, and what each of them comes to can be read off the reports before it
(`Roster.turns`).
-/

namespace VisualNovel

/-- What passes between an engine and its renderer. -/
inductive Dealing where
  /-- The renderer was handed an intent, or nothing. -/
  | handed (slot : Option Intent)
  /-- A report was taken that an effect is done. -/
  | reported (id : Value)

namespace Dealing

/-- The turn of an effect, if it is one: the identity of the effect, or nothing if nothing was
handed over. -/
def turn? : Dealing → Option (Option Value)
  | handed none => some none
  | handed (some i) => i.effectId.map some
  | reported _ => none

/-- Whether the intent of an effect was handed over. -/
def hands (n : Nat) : Dealing → Bool
  | handed (some i) => match i.effectId with
    | some (.int m) => m == n
    | _ => false
  | _ => false

/-- Whether a report was taken that an effect is done. -/
def reports (n : Nat) : Dealing → Bool
  | reported id => (Value.int n).equal id
  | _ => false

/-- Whether an effect was reported as done before its intent was handed over. -/
def early (n : Nat) (ds : List Dealing) : Bool :=
  (ds.takeWhile fun d => !d.hands n).any (reports n)

/-- What the renderer is handed in the turn of an effect, its identity standing for its intent. -/
def outcome (ds : List Dealing) (n : Nat) : Option Value :=
  if early n ds then none else some (.int n)

section
variable {n : Nat} {ds : List Dealing} {d : Dealing} {i : Intent}

theorem hands_of_effectId {m : Nat} (h : i.effectId = some (.int m)) :
    (handed (some i)).hands n = (m == n) := by
  rw [hands, h]
  show ((m : Int) == (n : Int)) = (m == n)
  rw [Bool.eq_iff_iff, beq_iff_eq, beq_iff_eq]
  omega

theorem hands_of_loose (h : i.effectId = none) : (handed (some i)).hands n = false := by
  simp [hands, h]

theorem reports_eq_false {id : Value} {m : Nat} (hid : (Value.int m).equal id) (hne : n ≠ m) :
    (reported id).reports n = false := by
  refine Bool.eq_false_iff.2 fun hn => hne ?_
  have heq : (n : Int) = m := Value.int_equal_inj hn hid
  exact Int.ofNat.inj heq

theorem early_append (n : Nat) (ds : List Dealing) (d : Dealing) :
    early n (ds ++ [d]) = (early n ds || (!ds.any (hands n) && (!d.hands n && d.reports n))) := by
  induction ds with
  | nil => cases h : d.hands n <;> simp [early, h]
  | cons a ds ih =>
    unfold early at ih ⊢
    cases ha : a.hands n with
    | true => simp [ha]
    | false =>
      simp only [List.cons_append, List.takeWhile_cons, ha, Bool.not_false, if_true, List.any_cons,
        ih, Bool.false_or, Bool.or_assoc]

theorem early_append_of_silent (h : d.reports n = false) : early n (ds ++ [d]) = early n ds := by
  simp [early_append, h]

/-- A report counts if the effect was waiting. -/
theorem early_append_of_reported {id : Value} (hwaits : ds.any (hands n) = false)
    (hid : (Value.int n).equal id) : early n (ds ++ [reported id]) = true := by
  rw [early_append, hwaits]
  simp [hands, reports, hid]

theorem early_of_unreported (h : ds.any (reports n) = false) : early n ds = false := by
  rw [early, List.any_eq_false] at *
  exact fun d hd => h d ((List.takeWhile_prefix _).subset hd)

/-- The effect has had its turn, or it will have nothing handed over in it. -/
def Over (n : Nat) (ds : List Dealing) : Prop :=
  early n ds = true ∨ ds.any (hands n) = true

/-- What has become of an effect does not change any more. -/
theorem Over.early_append (h : Over n ds) : early n (ds ++ [d]) = early n ds := by
  rcases h with h | h <;> simp [Dealing.early_append, h]

theorem Over.append (h : Over n ds) (d : Dealing) : Over n (ds ++ [d]) := by
  unfold Over
  rw [h.early_append]
  exact h.imp_right fun h => by simp [h]

end

end Dealing

/-- Whether an effect waits for its turn. -/
inductive Turn where
  /-- No effect waits. -/
  | clear
  /-- The last effect has begun and waits. -/
  | due
  /-- The last effect was reported as done while it waited. -/
  | missed

/-- How many effects have begun, and whether the last one waits, after what has passed. Whether
turns may be missed is left open. -/
inductive Roster (may : Prop) : List Dealing → Nat → Turn → Prop where
  | start : Roster may [] 0 .clear
  | begins {ds : List Dealing} {n : Nat} : Roster may ds n .clear → Roster may ds (n + 1) .due
  | serves {ds : List Dealing} {n : Nat} {i : Intent} : Roster may ds n .due →
    i.effectId = some (.int n) → Roster may (ds ++ [.handed (some i)]) n .clear
  | misses {ds : List Dealing} {n : Nat} {id : Value} : Roster may ds n .due → may →
    (Value.int n).equal id → Roster may (ds ++ [.reported id]) n .missed
  | skips {ds : List Dealing} {n : Nat} : Roster may ds n .missed →
    Roster may (ds ++ [.handed none]) n .clear
  | takes {ds : List Dealing} {n : Nat} {id : Value} : Roster may ds n .clear →
    (Value.int n).equal id → Roster may (ds ++ [.reported id]) n .clear
  | passes {ds : List Dealing} {n : Nat} {t : Turn} {i : Intent} : Roster may ds n t →
    i.effectId = none → Roster may (ds ++ [.handed (some i)]) n t

namespace Roster

open Dealing

/-- The number of effects that have had their turns. -/
def served (n : Nat) : Turn → Nat
  | .clear => n
  | _ => n - 1

/-- What is known of each effect: those that have had their turns are past, the last one stands as
the turn says, and of later ones nothing has been heard. -/
structure Accounts (may : Prop) (ds : List Dealing) (n : Nat) (t : Turn) : Prop where
  past : ∀ k, 1 ≤ k → k ≤ served n t → Over k ds
  ahead : ∀ k, n < k → ds.any (Dealing.hands k) = false ∧ ds.any (reports k) = false
  due : t = .due → 1 ≤ n ∧ ds.any (Dealing.hands n) = false ∧ early n ds = false
  missed : t = .missed → 1 ≤ n ∧ early n ds = true
  early : ¬may → ∀ k, 1 ≤ k → early k ds = false

variable {may : Prop} {ds : List Dealing} {n : Nat} {t : Turn}

theorem accounts (h : Roster may ds n t) : Accounts may ds n t := by
  induction h with
  | start => exact ⟨by simp [served]; omega, by simp, nofun, nofun, fun _ _ _ => rfl⟩
  | @begins ds n _ ih =>
    obtain ⟨hhands, hreports⟩ := ih.ahead (n + 1) (Nat.lt_succ_self n)
    exact ⟨ih.past, fun k hk => ih.ahead k (Nat.lt_of_succ_lt hk),
      fun _ => ⟨Nat.le_add_left 1 n, hhands, early_of_unreported hreports⟩, nofun, ih.early⟩
  | @serves ds n i _ hid ih =>
    obtain ⟨hn, -, -⟩ := ih.due rfl
    have hsame : ∀ k, Dealing.early k (ds ++ [.handed (some i)]) = Dealing.early k ds := fun k =>
      early_append_of_silent rfl
    refine ⟨fun k hk hkn => ?_, fun k hk => ?_, nofun, nofun, fun hmay k hk =>
      (hsame k).trans (ih.early hmay k hk)⟩
    · by_cases hlast : k = n
      · exact .inr (by simp [hands_of_effectId hid, hlast])
      · exact (ih.past k hk (by simp only [served] at hkn ⊢; omega)).append _
    · obtain ⟨hhands, hreports⟩ := ih.ahead k hk
      have hne : n ≠ k := Nat.ne_of_lt hk
      simp only [List.any_append, hhands, hreports, List.any_cons, List.any_nil,
        hands_of_effectId hid, reports, beq_eq_false_iff_ne.2 hne, Bool.or_false, and_self]
  | @misses ds n id _ hmay hid ih =>
    obtain ⟨hn, hwaits, -⟩ := ih.due rfl
    refine ⟨fun k hk hkn => (ih.past k hk hkn).append _, fun k hk => ?_, nofun,
      fun _ => ⟨hn, early_append_of_reported hwaits hid⟩, fun hnot => absurd hmay hnot⟩
    obtain ⟨hhands, hreports⟩ := ih.ahead k hk
    simp [hhands, hreports, Dealing.hands, reports_eq_false hid (Nat.ne_of_gt hk)]
  | @skips ds n _ ih =>
    obtain ⟨hn, hearly⟩ := ih.missed rfl
    have hsame : ∀ k, Dealing.early k (ds ++ [.handed none]) = Dealing.early k ds := fun k =>
      early_append_of_silent rfl
    refine ⟨fun k hk hkn => ?_, fun k hk => ?_, nofun, nofun, fun hmay k hk =>
      (hsame k).trans (ih.early hmay k hk)⟩
    · by_cases hlast : k = n
      · exact .inl ((hsame k).trans (hlast ▸ hearly))
      · exact (ih.past k hk (by simp only [served] at hkn ⊢; omega)).append _
    · obtain ⟨hhands, hreports⟩ := ih.ahead k hk
      simp [hhands, hreports, Dealing.hands, reports]
  | @takes ds n id _ hid ih =>
    refine ⟨fun k hk hkn => (ih.past k hk hkn).append _, fun k hk => ?_, nofun, nofun,
      fun hmay k hk => ?_⟩
    · obtain ⟨hhands, hreports⟩ := ih.ahead k hk
      simp [hhands, hreports, Dealing.hands, reports_eq_false hid (Nat.ne_of_gt hk)]
    · -- The report is for the last effect, which has had its turn.
      by_cases hlast : k = n
      · rw [(ih.past k hk (Nat.le_of_eq hlast)).early_append, ih.early hmay k hk]
      · rw [early_append_of_silent (reports_eq_false hid hlast), ih.early hmay k hk]
  | @passes ds n t i _ hid ih =>
    have hsame : ∀ k, Dealing.early k (ds ++ [.handed (some i)]) = Dealing.early k ds := fun k =>
      early_append_of_silent rfl
    refine ⟨fun k hk hkn => (ih.past k hk hkn).append _, fun k hk => ?_, fun ht => ?_,
      fun ht => ?_, fun hmay k hk => (hsame k).trans (ih.early hmay k hk)⟩
    · obtain ⟨hhands, hreports⟩ := ih.ahead k hk
      simp [hhands, hreports, hands_of_loose hid, reports]
    · obtain ⟨hn, hwaits, hearly⟩ := ih.due ht
      exact ⟨hn, by simp [hwaits, hands_of_loose hid], (hsame n).trans hearly⟩
    · obtain ⟨hn, hearly⟩ := ih.missed ht
      exact ⟨hn, (hsame n).trans hearly⟩

theorem map_outcome_append {m : Nat} (h : ∀ k, 1 ≤ k → k ≤ m → Over k ds) (d : Dealing) :
    (List.range' 1 m).map (outcome (ds ++ [d])) = (List.range' 1 m).map (outcome ds) := by
  refine List.map_congr_left fun k hk => ?_
  obtain ⟨hk, hkm⟩ := List.mem_range'_1.1 hk
  rw [outcome, (h k hk (by omega)).early_append, outcome]

/-- The turn of the last effect comes after those of the effects before it. -/
theorem map_outcome_succ {m : Nat} (h : ∀ k, 1 ≤ k → k ≤ m → Over k ds) (d : Dealing) :
    (List.range' 1 (m + 1)).map (outcome (ds ++ [d])) =
      (List.range' 1 m).map (outcome ds) ++ [outcome (ds ++ [d]) (m + 1)] := by
  rw [List.range'_1_concat, List.map_append, map_outcome_append h, Nat.add_comm 1 m]
  rfl

/-- Effects have their turns one after another. In the turn of an effect the renderer is handed its
intent, or nothing if the effect was reported as done before. -/
theorem turns (h : Roster may ds n t) :
    ds.filterMap turn? = (List.range' 1 (served n t)).map (outcome ds) := by
  induction h with
  | start => rfl
  | begins _ ih => exact ih
  | @serves ds n i h hid ih =>
    obtain ⟨hn, -, hearly⟩ := h.accounts.due rfl
    obtain ⟨m, rfl⟩ := Nat.exists_eq_add_of_le' hn
    have hpast : ∀ k, 1 ≤ k → k ≤ m → Over k ds := h.accounts.past
    rw [List.filterMap_append, ih, served, map_outcome_succ hpast, outcome,
      early_append_of_silent rfl, hearly]
    simp [turn?, hid, served]
  | misses h _ _ ih =>
    rw [List.filterMap_append, ih]
    exact (List.append_nil _).trans (map_outcome_append h.accounts.past _).symm
  | @skips ds n h ih =>
    obtain ⟨hn, hearly⟩ := h.accounts.missed rfl
    obtain ⟨m, rfl⟩ := Nat.exists_eq_add_of_le' hn
    have hpast : ∀ k, 1 ≤ k → k ≤ m → Over k ds := h.accounts.past
    rw [List.filterMap_append, ih, served, map_outcome_succ hpast, outcome,
      early_append_of_silent rfl, hearly]
    simp [turn?, served]
  | takes h _ ih =>
    rw [List.filterMap_append, ih]
    exact (List.append_nil _).trans (map_outcome_append h.accounts.past _).symm
  | passes h hid ih =>
    rw [List.filterMap_append, ih, map_outcome_append h.accounts.past]
    simp [turn?, hid]

/-! ## When nobody waits -/

/-- The renderer was handed nothing exactly if some effect was reported too early. -/
theorem handed_none_mem_iff (h : Roster may ds n .clear) :
    .handed none ∈ ds ↔ ∃ k, 1 ≤ k ∧ k ≤ n ∧ early k ds = true := by
  have hturn : .handed none ∈ ds ↔ none ∈ ds.filterMap turn? := by
    rw [List.mem_filterMap]
    constructor
    · exact fun hmem => ⟨_, hmem, rfl⟩
    · rintro ⟨d, hd, hnone⟩
      rcases d with (_ | i) | id
      · exact hd
      · simp [turn?] at hnone
      · cases hnone
  rw [hturn, h.turns, List.mem_map]
  constructor
  · rintro ⟨k, hk, hnone⟩
    obtain ⟨hk, hkn⟩ := List.mem_range'_1.1 hk
    refine ⟨k, hk, by simp only [served] at hkn; omega, ?_⟩
    unfold outcome at hnone
    split at hnone
    · assumption
    · cases hnone
  · rintro ⟨k, hk, hkn, hearly⟩
    have hmem : k ∈ List.range' 1 (served n .clear) :=
      List.mem_range'_1.2 ⟨hk, by simp only [served]; omega⟩
    exact ⟨k, hmem, by rw [outcome, if_pos hearly]⟩

/-- The intent of an effect was handed over once, or not at all if the effect was reported too
early. -/
theorem countP_hands (h : Roster may ds n .clear) {k : Nat} (hk : 1 ≤ k) (hkn : k ≤ n) :
    ds.countP (Dealing.hands k) = if early k ds then 0 else 1 := by
  let isTurn : Option Value → Bool := fun
    | some (.int m) => m == k
    | _ => false
  have hcount : ds.countP (Dealing.hands k) = (ds.filterMap turn?).countP isTurn := by
    rw [List.countP_filterMap]
    refine List.countP_congr fun d _ => ?_
    rcases d with (_ | i) | id
    · rfl
    · cases hid : i.effectId <;> simp [Dealing.hands, turn?, hid, isTurn]
    · rfl
  have hone : ∀ j, isTurn (outcome ds j) = (!early k ds && j == k) := by
    intro j
    unfold outcome
    by_cases hj : j = k
    · subst hj
      cases early j ds <;> simp [isTurn]
    · have hne : ((j : Int) == k) = false := beq_eq_false_iff_ne.2 (by omega)
      cases early j ds <;> simp [isTurn, hj, hne]
  rw [hcount, h.turns, List.countP_map]
  have hmem : k ∈ List.range' 1 (served n .clear) :=
    List.mem_range'_1.2 ⟨hk, by simp only [served]; omega⟩
  have hnodup : (List.range' 1 (served n .clear)).count k = 1 :=
    List.count_eq_one_of_mem (List.nodup_range') hmem
  rw [List.countP_congr (q := fun j => !early k ds && j == k) fun j _ => by
    rw [Function.comp_apply, hone]]
  cases early k ds with
  | true => simp
  | false => simpa [List.count] using hnodup

end Roster

end VisualNovel
