import VisualNovel.Proofs.Signs

/-!
# The tally of effects

Effects are numbered, and their numbers are the identities of their intents. `Tallied` says what the
signs of a run show of that: the numbers that are sent go up, and a report that is taken is for the
last effect, which no report has ended before.

The *tally* is how many effects have begun and how the last one stands. Signs along which the tally
is kept are tallied (`Tally.Follows.tallied`), and after an effect is over no report for it or an
earlier one is taken (`Tally.Follows.not_finished`).
-/

namespace VisualNovel

open Sign Number

/-! ## Equal numbers -/

theorem Number.Dyadic.compareInt_inj {d : Dyadic} {m n : Int} (hm : d.compareInt m = .eq)
    (hn : d.compareInt n = .eq) : m = n := by
  unfold Dyadic.compareInt at hm hn
  by_cases hexp : 0 ≤ d.exponent
  · simp only [hexp, if_true, Std.LawfulEqCmp.compare_eq_iff_eq] at hm hn
    exact hm.symm.trans hn
  · simp only [hexp, if_false, Std.LawfulEqCmp.compare_eq_iff_eq] at hm hn
    have hunit : (twoTo (-d.exponent).toNat : Int) ≠ 0 := by
      have hpow : 0 < 2 ^ (-d.exponent).toNat := Nat.pow_pos (by decide)
      exact Int.natCast_ne_zero.2 (Nat.ne_of_gt hpow)
    exact Int.eq_of_mul_eq_mul_right hunit (hm.symm.trans hn)

namespace Value

theorem compareNumeric_inj {m n : Int} {x : Numeric} (hm : compareNumeric (.whole m) x = some .eq)
    (hn : compareNumeric (.whole n) x = some .eq) : m = n := by
  cases x with
  | whole k =>
    simp only [compareNumeric, Option.some.injEq, Std.LawfulEqCmp.compare_eq_iff_eq] at hm hn
    exact hm.trans hn.symm
  | real x =>
    simp only [compareNumeric, compareFloatInt] at hm hn
    cases hx : decode x with
    | finite d =>
      simp only [hx, Option.map_some, Option.some.injEq, Ordering.swap_eq_eq] at hm hn
      exact d.compareInt_inj hm hn
    | infinite negative => cases negative <;> simp [hx] at hm
    | nan => simp [hx] at hm

/-- A value is equal to at most one whole number. -/
theorem int_equal_inj {m n : Int} {v : Value} (hm : (Value.int m).equal v)
    (hn : (Value.int n).equal v) : m = n := by
  have hsize : ∀ {k : Int}, (Value.int k).equal v →
      ∃ x, v.numeric? = some x ∧ compareNumeric (.whole k) x = some .eq := by
    intro k hk
    have hsame : sameSize (.int k) v := by cases v <;> exact hk
    unfold sameSize at hsame
    cases hv : v.numeric? with
    | none =>
      rw [hv] at hsame
      cases hsame
    | some x =>
      rw [hv] at hsame
      exact ⟨x, rfl, eq_of_beq hsame⟩
  obtain ⟨x, hx, hm⟩ := hsize hm
  obtain ⟨y, hy, hn⟩ := hsize hn
  obtain rfl : x = y := Option.some.inj (hx.symm.trans hy)
  exact compareNumeric_inj hm hn

end Value

/-! ## What signs show of effects -/

/-- The identities of the effects that were sent. -/
def Sign.issued (signs : List Sign) : List Value :=
  (intents signs).filterMap Intent.effectId

@[simp] theorem Sign.issued_append (a b : List Sign) :
    issued (a ++ b) = issued a ++ issued b := by
  simp [issued]

theorem Sign.mem_issued {signs : List Sign} {i : Intent} {id : Value} (h : .sent i ∈ signs)
    (hid : i.effectId = some id) : id ∈ issued signs :=
  List.mem_filterMap.2 ⟨i, List.mem_filterMap.2 ⟨.sent i, h, rfl⟩, hid⟩

/-- The identities of effects go up. A report that is taken has the identity of one effect: none
that was sent before has a greater one, all that are sent later have a greater one, and no other
report with this identity is taken. -/
structure Tallied (signs : List Sign) : Prop where
  increasing : ∃ ns : List Nat, issued signs = ns.map (fun n : Nat => Value.int n) ∧
    ns.Pairwise (· < ·)
  once : ∀ {a b : List Sign} {id : Value}, signs = a ++ .finished id :: b →
    ∃ n : Nat, (Value.int n).equal id ∧ (∀ k : Nat, .int k ∈ issued a → k ≤ n) ∧
      (∀ k : Nat, .int k ∈ issued b → n < k) ∧
      ∀ id', .finished id' ∈ a ++ b → ¬(Value.int n).equal id'

/-- How the last effect stands. -/
inductive Standing where
  /-- It has begun, and its intent is still to be sent. -/
  | begun
  | sent
  /-- It is done, or it was dropped. -/
  | over
  deriving DecidableEq

/-- How many effects have begun, and how the last one stands. -/
structure Tally where
  count : Nat
  standing : Standing

/-- Whether a sign has nothing to do with effects. -/
def Sign.passing : Sign → Bool
  | prepared => true
  | sent i => i.effectId.isNone
  | finished _ => false

theorem Sign.issued_of_passing {s : Sign} (h : s.passing) : issued [s] = [] := by
  cases s with
  | sent i => simpa [issued, intents, intent?, passing] using h
  | _ => rfl

/-- The last sign of a row is the one that is looked for, or it comes after that. -/
theorem Sign.last_or_later {signs a b : List Sign} {s last : Sign}
    (h : signs ++ [last] = a ++ s :: b) :
    (signs = a ∧ last = s ∧ b = []) ∨ ∃ b', signs = a ++ s :: b' ∧ b = b' ++ [last] := by
  rcases List.eq_nil_or_concat b with rfl | ⟨b', s', rfl⟩
  · obtain ⟨rfl, hlast⟩ := List.append_inj' h rfl
    exact .inl ⟨rfl, List.singleton_inj.1 hlast, rfl⟩
  · have hconcat : signs ++ [last] = (a ++ s :: b') ++ [s'] := by simpa using h
    obtain ⟨hsigns, hlast⟩ := List.append_inj' hconcat rfl
    exact .inr ⟨b', hsigns, by simp [List.singleton_inj.1 hlast]⟩

/-- Signs lead from one tally to another. -/
inductive Tally.Follows (t : Tally) : List Sign → Tally → Prop where
  | refl : Follows t [] t
  | begins {signs : List Sign} {n : Nat} {s : Standing} : Follows t signs ⟨n, s⟩ →
    Follows t signs ⟨n + 1, .begun⟩
  | drops {signs : List Sign} {n : Nat} {s : Standing} : Follows t signs ⟨n, s⟩ →
    Follows t signs ⟨n, .over⟩
  | sends {signs : List Sign} {n : Nat} {i : Intent} : Follows t signs ⟨n, .begun⟩ →
    i.effectId = some (.int n) → Follows t (signs ++ [.sent i]) ⟨n, .sent⟩
  | finishes {signs : List Sign} {n : Nat} {s : Standing} {id : Value} : Follows t signs ⟨n, s⟩ →
    s ≠ .over → (Value.int n).equal id → Follows t (signs ++ [.finished id]) ⟨n, .over⟩
  | passes {signs : List Sign} {u : Tally} {s : Sign} : Follows t signs u → s.passing →
    Follows t (signs ++ [s]) u

namespace Tally.Follows

variable {t u v : Tally} {signs : List Sign}

theorem trans {later : List Sign} (h : t.Follows signs u) (h' : u.Follows later v) :
    t.Follows (signs ++ later) v := by
  induction h' with
  | refl => simpa using h
  | begins _ ih => exact ih.begins
  | drops _ ih => exact ih.drops
  | sends _ hid ih =>
    rw [← List.append_assoc]
    exact ih.sends hid
  | finishes _ hs hid ih =>
    rw [← List.append_assoc]
    exact ih.finishes hs hid
  | passes _ hs ih =>
    rw [← List.append_assoc]
    exact ih.passes hs

/-- Effects that have begun stay so, and the last one that is over stays over. -/
theorem count_le (h : t.Follows signs u) : t.count ≤ u.count ∧
    (u.standing ≠ .over → t.standing = .over → t.count < u.count) ∧
    (u.standing = .begun → t.standing ≠ .begun → t.count < u.count) := by
  induction h with
  | refl => simp_all
  | begins _ ih => simp_all; omega
  | drops _ ih => simp_all
  | sends _ hid ih => simp_all
  | finishes _ hs hid ih => simp_all
  | passes _ hs ih => exact ih

/-- The numbers that are sent go up, from the count before to the count afterwards. -/
theorem issued_eq (h : t.Follows signs u) :
    ∃ ns : List Nat, issued signs = ns.map (fun n : Nat => Value.int n) ∧ ns.Pairwise (· < ·) ∧
      ∀ n ∈ ns, n ≤ u.count ∧ (u.standing = .begun → n < u.count) ∧ t.count ≤ n ∧
        (t.standing ≠ .begun → t.count < n) := by
  induction h with
  | refl => exact ⟨[], rfl, .nil, by simp⟩
  | @begins signs n s _ ih =>
    obtain ⟨ns, hissued, hup, hns⟩ := ih
    refine ⟨ns, hissued, hup, fun k hk => ?_⟩
    obtain ⟨hle, -, hrest⟩ := hns k hk
    have hlt : k < n + 1 := Nat.lt_succ_of_le hle
    exact ⟨Nat.le_of_lt hlt, fun _ => hlt, hrest⟩
  | drops _ ih =>
    obtain ⟨ns, hissued, hup, hns⟩ := ih
    exact ⟨ns, hissued, hup, fun k hk => ⟨(hns k hk).1, by simp, (hns k hk).2.2⟩⟩
  | @sends signs n i h hid ih =>
    obtain ⟨ns, hissued, hup, hns⟩ := ih
    obtain ⟨hle, -, hlt⟩ := h.count_le
    refine ⟨ns ++ [n], ?_, ?_, ?_⟩
    · rw [issued_append, hissued]
      simp [issued, intents, intent?, hid]
    · -- The effect was begun and not sent yet, so its number is above all that were sent.
      rw [List.pairwise_append]
      refine ⟨hup, by simp, ?_⟩
      intro k hk m hm
      rw [List.mem_singleton.1 hm]
      exact (hns k hk).2.1 rfl
    · intro k hk
      rcases List.mem_append.1 hk with hk | hk
      · exact ⟨(hns k hk).1, by simp, (hns k hk).2.2⟩
      · rw [List.mem_singleton.1 hk]
        exact ⟨Nat.le_refl n, by simp, hle, hlt rfl⟩
  | finishes _ hs hid ih =>
    obtain ⟨ns, hissued, hup, hns⟩ := ih
    refine ⟨ns, ?_, hup, fun k hk => ⟨(hns k hk).1, by simp, (hns k hk).2.2⟩⟩
    rw [issued_append, hissued]
    exact List.append_nil _
  | passes _ hs ih =>
    obtain ⟨ns, hissued, hup, hns⟩ := ih
    refine ⟨ns, ?_, hup, hns⟩
    rw [issued_append, issued_of_passing hs, List.append_nil, hissued]

theorem of_mem_issued (h : t.Follows signs u) {k : Nat} (hk : .int k ∈ issued signs) :
    k ≤ u.count ∧ (t.standing ≠ .begun → t.count < k) := by
  obtain ⟨ns, hissued, -, hns⟩ := h.issued_eq
  rw [hissued, List.mem_map] at hk
  obtain ⟨n, hn, heq⟩ := hk
  obtain rfl : n = k := Int.ofNat.inj (Value.int.inj heq)
  exact ⟨(hns n hn).1, (hns n hn).2.2.2⟩

/-- A report is taken for the last effect, which is over then. -/
theorem split_finished {a b : List Sign} {id : Value} (h : t.Follows signs u)
    (hsigns : signs = a ++ .finished id :: b) :
    ∃ n s, t.Follows a ⟨n, s⟩ ∧ s ≠ .over ∧ (Value.int n).equal id ∧ Follows ⟨n, .over⟩ b u := by
  induction h generalizing b with
  | refl => simp at hsigns
  | begins _ ih =>
    obtain ⟨n, s, ha, hs, hid, hb⟩ := ih hsigns
    exact ⟨n, s, ha, hs, hid, hb.begins⟩
  | drops _ ih =>
    obtain ⟨n, s, ha, hs, hid, hb⟩ := ih hsigns
    exact ⟨n, s, ha, hs, hid, hb.drops⟩
  | sends _ hi ih =>
    obtain ⟨-, hne, -⟩ | ⟨b', hrest, rfl⟩ := last_or_later hsigns
    · cases hne
    · obtain ⟨n, s, ha, hs, hid, hb⟩ := ih hrest
      exact ⟨n, s, ha, hs, hid, hb.sends hi⟩
  | finishes h hs hid ih =>
    obtain ⟨rfl, heq, rfl⟩ | ⟨b', hrest, rfl⟩ := last_or_later hsigns
    · cases heq
      exact ⟨_, _, h, hs, hid, .refl⟩
    · obtain ⟨n, s, ha, hs', hid', hb⟩ := ih hrest
      exact ⟨n, s, ha, hs', hid', hb.finishes hs hid⟩
  | passes _ hs ih =>
    obtain ⟨-, rfl, -⟩ | ⟨b', hrest, rfl⟩ := last_or_later hsigns
    · cases hs
    · obtain ⟨n, s, ha, hs', hid, hb⟩ := ih hrest
      exact ⟨n, s, ha, hs', hid, hb.passes hs⟩

/-- No report is taken for an effect that is over, nor for an earlier one. -/
theorem not_finished {n k : Nat} {id : Value} (h : Follows ⟨n, .over⟩ signs u) (hk : k ≤ n)
    (hid : .finished id ∈ signs) : ¬(Value.int k).equal id := by
  intro hequal
  obtain ⟨a, b, hsigns⟩ := List.append_of_mem hid
  obtain ⟨m, s, ha, hs, hm, -⟩ := h.split_finished hsigns
  have hlt : n < m := ha.count_le.2.1 hs rfl
  have heq : (k : Int) = m := Value.int_equal_inj hequal hm
  omega

/-- The signs of a run are tallied. -/
theorem tallied (h : Follows ⟨0, .over⟩ signs u) : Tallied signs := by
  refine ⟨?_, ?_⟩
  · obtain ⟨ns, hissued, hup, -⟩ := h.issued_eq
    exact ⟨ns, hissued, hup⟩
  · intro a b id hsigns
    obtain ⟨n, s, ha, hs, hid, hb⟩ := h.split_finished hsigns
    refine ⟨n, hid, fun k hk => (ha.of_mem_issued hk).1,
      fun k hk => (hb.of_mem_issued hk).2 Standing.noConfusion, ?_⟩
    intro id' hid' hequal
    rcases List.mem_append.1 hid' with hbefore | hafter
    · -- What was taken before was for an earlier effect.
      obtain ⟨a', a'', rfl⟩ := List.append_of_mem hbefore
      obtain ⟨m, -, -, -, hm, ha'⟩ := ha.split_finished rfl
      have hlt : m < n := ha'.count_le.2.1 hs rfl
      have heq : (n : Int) = m := Value.int_equal_inj hequal hm
      omega
    · exact hb.not_finished (Nat.le_refl n) hafter hequal

end Tally.Follows

end VisualNovel
