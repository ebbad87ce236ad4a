import VisualNovel.Session.Backlog
import Mathlib.Tactic.Common

/-!
# The lines of a backlog

A backlog holds the last lines that were pushed since it was cleared, and its view follows or stands
on one of them, whatever was done to it: `Backlog.Holds`. Its operations are the `Deed`s of a run.
-/

namespace VisualNovel

/-- The second list is as much of the end of the first as there may be. -/
structure IsEnd {α : Type} (most : Nat) (all xs : List α) : Prop where
  suffix : xs <:+ all
  length : xs.length = min all.length most

namespace Backlog

/-! ## The end of a list -/

section
variable {α β : Type} (count : Nat) (xs : List α)

theorem lastOf_isEnd : IsEnd count xs (lastOf count xs) := by
  refine ⟨List.drop_suffix .., ?_⟩
  rw [lastOf, List.length_drop]
  omega

/-- What an item pushes out of the end is not in the end of the longer list either. -/
theorem lastOf_lastOf_append (x : α) :
    lastOf count (lastOf count xs ++ [x]) = lastOf count (xs ++ [x]) := by
  have hcut : xs.length - count ≤ xs.length := by omega
  unfold lastOf
  rw [← List.drop_append_of_le_length hcut, List.drop_drop]
  congr 1
  simp only [List.length_drop, List.length_append, List.length_singleton]
  omega

theorem map_lastOf (f : α → β) : (lastOf count xs).map f = lastOf count (xs.map f) := by
  rw [lastOf, lastOf, List.map_drop, List.length_map]

@[simp] theorem lastOf_nil : lastOf count ([] : List α) = [] := by
  simp [lastOf]

end

/-! ## Deeds -/

/-- What can be done to a backlog. -/
inductive Deed where
  | push (line : Line)
  | scrollUp (n : Nat)
  | scrollDown (n : Nat)
  | clear

namespace Deed

/-- The backlog after a deed. -/
def make (b : Backlog) : Deed → Backlog
  | push line => b.push line
  | scrollUp n => b.scrollUp n
  | scrollDown n => b.scrollDown n
  | clear => b.clear

/-- The lines pushed since the last clearing, after a deed. -/
def record (pushed : List Line) : Deed → List Line
  | push line => pushed ++ [line]
  | clear => []
  | _ => pushed

end Deed

/-- The lines pushed since the last clearing. -/
def pushedBy (deeds : List Deed) : List Line :=
  deeds.foldl Deed.record []

/-- The backlog holds the end of the lines pushed, and its view follows or stands on one of them. -/
structure Holds (most : Nat) (pushed : List Line) (b : Backlog) : Prop where
  capacity : b.capacity = most
  lines : b.lines = lastOf most pushed
  view : b.view = -1 ∨ 0 ≤ b.view ∧ b.view < b.lines.length

variable {most : Nat} {pushed : List Line} {b : Backlog}

namespace Holds

theorem push (h : b.Holds most pushed) (line : Line) :
    (b.push line).Holds most (pushed ++ [line]) := by
  refine ⟨h.capacity, ?_, .inl rfl⟩
  show lastOf b.capacity (b.lines ++ [line]) = _
  rw [h.capacity, h.lines, lastOf_lastOf_append]

theorem clear (h : b.Holds most pushed) : b.clear.Holds most [] :=
  ⟨h.capacity, (lastOf_nil most).symm, .inl rfl⟩

theorem scrollUp (h : b.Holds most pushed) (n : Nat) :
    (b.scrollUp n).Holds most pushed := by
  unfold Backlog.scrollUp
  split
  case isTrue => exact h
  case isFalse hsome =>
    have hcount : b.lines.length ≠ 0 := by simpa using hsome
    have hview := h.view
    refine ⟨h.capacity, h.lines, .inr ?_⟩
    dsimp only
    split
    case isTrue => omega
    case isFalse hpinned =>
      have hview : b.view ≠ -1 := by simpa using hpinned
      omega

theorem scrollDown (h : b.Holds most pushed) (n : Nat) :
    (b.scrollDown n).Holds most pushed := by
  unfold Backlog.scrollDown
  split
  case isTrue => exact h
  case isFalse hpinned =>
    have hpinned : b.view ≠ -1 := by simpa using hpinned
    have hview := h.view
    refine ⟨h.capacity, h.lines, ?_⟩
    dsimp only
    split
    case isTrue => exact .inl rfl
    case isFalse => omega

theorem make (h : b.Holds most pushed) (d : Deed) :
    (d.make b).Holds most (d.record pushed) := by
  cases d with
  | push line => exact h.push line
  | scrollUp n => exact h.scrollUp n
  | scrollDown n => exact h.scrollDown n
  | clear => exact h.clear

theorem run (h : b.Holds most pushed) (deeds : List Deed) :
    (deeds.foldl Deed.make b).Holds most (deeds.foldl Deed.record pushed) := by
  induction deeds generalizing b pushed with
  | nil => exact h
  | cons d deeds ih => exact ih (h.make d)

/-- There is a line in view exactly if there is a line. -/
theorem current (h : b.Holds most pushed) :
    ∃ r, b.current = .ok r ∧ (r = none ↔ b.lines = []) := by
  have hview := h.view
  unfold Backlog.current
  dsimp only
  split
  case isTrue hnone =>
    have hcount : b.lines.length = 0 := by simpa using hnone
    exact ⟨none, rfl, by simpa using List.length_eq_zero_iff.1 hcount⟩
  case isFalse hsome =>
    have hcount : b.lines.length ≠ 0 := by simpa using hsome
    -- The place is that of a line, be it the newest one or the one in view.
    generalize hplace : (if b.view == -1 then (b.lines.length : Int) - 1
      else min b.view (b.lines.length - 1)) = place
    have hbounds : 0 ≤ place ∧ place < b.lines.length := by
      rw [← hplace]
      split
      case isTrue => omega
      case isFalse hpinned =>
        have hpinned : b.view ≠ -1 := by simpa using hpinned
        omega
    have hlow : ¬place < 0 := by omega
    rw [if_neg hlow, if_neg hlow]
    refine ⟨_, rfl, ?_⟩
    rw [List.getElem?_eq_none_iff, ← List.length_eq_zero_iff]
    omega

end Holds

/-- Scrolling up twice is scrolling up by both. -/
theorem scrollUp_scrollUp (b : Backlog) (m n : Nat) :
    (b.scrollUp m).scrollUp n = b.scrollUp (m + n : Nat) := by
  unfold scrollUp
  cases hempty : b.lines.isEmpty with
  | true => simp [hempty]
  | false =>
    simp only [hempty, Bool.false_eq_true, if_false, mk.injEq, true_and]
    generalize (if b.view == -1 then (b.lines.length : Int) - 1 else b.view) = top
    have hpinned : (max 0 (top - m) == -1) = false := by
      simp only [beq_eq_false_iff_ne]
      omega
    rw [hpinned]
    simp only [Bool.false_eq_true, if_false]
    omega

/-- A backlog has the last lines that were pushed, and its view is valid. -/
structure Valid (most : Nat) (pushed : List Line) (b : Backlog) : Prop where
  lines : IsEnd most pushed b.lines
  view : b.view = -1 ∨ 0 ≤ b.view ∧ b.view < b.lines.length
  current : ∃ r, b.current = .ok r ∧ (r = none ↔ b.lines = [])
  scrolls : ∀ m n : Nat, (b.scrollUp m).scrollUp n = b.scrollUp (m + n : Nat)

theorem Holds.valid (h : b.Holds most pushed) : b.Valid most pushed := by
  refine ⟨?_, h.view, h.current, scrollUp_scrollUp b⟩
  rw [h.lines]
  exact lastOf_isEnd most pushed

/-! ## Making one -/

theorem new_ok {n : Int} (h : n < Number.twoTo 63) :
    new (.int n) = .ok { capacity := (max 1 n).toNat } := by
  have hsmall : ¬(Number.twoTo 63 : Int) ≤ n := by omega
  simp [new, Value.toInt, hsmall, bind, Except.bind, pure, Except.pure]

theorem new_overflow {n : Int} (h : Number.twoTo 63 ≤ n) : new (.int n) = .error .overflow := by
  simp [new, Value.toInt, h, bind, Except.bind, throw, throwThe, MonadExceptOf.throw]

theorem holds_new (capacity : Nat) : Holds capacity [] { capacity } :=
  ⟨rfl, (lastOf_nil capacity).symm, .inl rfl⟩

end Backlog

end VisualNovel
