import VisualNovel.Proofs.Likeness
import VisualNovel.Proofs.Retiming
import VisualNovel.Remote.Cursor

/-!
# Moves of a cursor

A cursor can be moved from afar: by any number of beats, to any place, to any conversation, and into
any script that there is. A `Cursor.Move` is such a call, and `Cursor.Move.make` says what it does
to a cursor, if it does not fail.

`Remote.callCursor_move` says that this is all: a cursor that is moved from afar is the cursor of
the engine, and a move that fails leaves it as it was. So after any row of moves the cursor stands
in a conversation of its script, on a beat or right behind the last one (`Remote.moves_sound`).
-/

namespace VisualNovel

open Script

/-! ## Whole numbers -/

namespace Value

theorem atMost_int (m n : Int) : (Value.int m).atMost (.int n) = .ok (decide (m ≤ n)) := by
  show Except.ok (some (compare m n) == some Ordering.lt || some (compare m n) == some .eq) = _
  congr 1
  by_cases h : m < n
  · simp [compare, compareOfLessAndEq, h, Int.le_of_lt h]
  · by_cases h' : m = n
    · simp [compare, compareOfLessAndEq, h']
    · simp [compare, compareOfLessAndEq, h, h']
      omega

theorem smallest_int (m n : Int) : smallest (.int m) (.int n) = .ok (.int (min m n)) := by
  have hless : less (.int n) (.int m) = .ok (decide (n < m)) := greater_int m n
  rw [smallest, hless]
  show (if decide (n < m) = true then Except.ok (Value.int n) else .ok (.int m)) = _
  by_cases h : n < m
  · rw [if_pos (by simpa using h), Int.min_eq_right (by omega)]
  · rw [if_neg (by simpa using h), Int.min_eq_left (by omega)]

theorem clamped_int (m n : Int) : clamped (.int m) (.int n) = .ok (.int (max 0 (min m n))) := by
  rw [clamped, smallest_int]
  exact largest_zero (min m n)

end Value

/-! ## Places -/

namespace Cursor

variable {c c' : Cursor}

/-- No beat is left if and only if the cursor stands right behind the last one. -/
theorem Sound.current_eq_none_iff (h : c.Sound) : c.current = none ↔ c.index = c.beats.size := by
  have hindex := h.index
  rw [Cursor.current, Array.getElem?_eq_none_iff]
  omega

theorem jump_sound (h : c.Sound) (index : Int) : (c.jump index).Sound := by
  refine ⟨h.beats, ?_⟩
  show Cursor.clamp c.beats index ≤ c.beats.size
  unfold Cursor.clamp
  omega

end Cursor

namespace Remote

/-- A cursor as it is seen from afar. -/
def LooseCursor.of (c : Cursor) : LooseCursor where
  script := c.script
  beats := c.beats
  conversation := .text c.conversation
  index := .int c.index
  completed := .int c.completed

namespace LooseCursor

variable {c : Cursor}

theorem start_of (script : Script) (conversation : Value) :
    LooseCursor.start script conversation = (do
      let name ← script.named conversation
      ((Cursor.start script name).map LooseCursor.of).mapError .story) := by
  unfold LooseCursor.start
  cases hname : script.named conversation with
  | error f => rfl
  | ok name =>
    -- Only a text names a conversation.
    have htext : conversation = .text name := by
      unfold Script.named at hname
      split at hname
      · split at hname <;> cases hname
        rfl
      · split at hname <;> cases hname
    show (do
      let beats ← (script.lookup name).mapError Fault.story
      return ({ script, beats, conversation } : LooseCursor)) = _
    rw [htext]
    show _ = ((Cursor.start script name).map LooseCursor.of).mapError Fault.story
    unfold Cursor.start
    cases script.lookup name <;> rfl

theorem exhausted_of : (of c).exhausted = .ok c.exhausted := by
  show (Value.int c.beats.size).atMost (.int c.index) = _
  rw [Value.atMost_int]
  simp [Cursor.exhausted]

theorem advance_of (count : Int) :
    (LooseCursor.advance (.int count)).perform (of c) = (.ok (), of (c.advance count)) := by
  let step := max 0 (min count ((c.beats.size : Int) - c.index))
  have hindex : ((c.index + step.toNat : Nat) : Int) = c.index + step := by
    have hstep : 0 ≤ step := Int.le_max_left _ _
    omega
  have hcompleted : ((c.completed + step.toNat : Nat) : Int) = c.completed + step := by
    have hstep : 0 ≤ step := Int.le_max_left _ _
    omega
  have hmoved : of (c.advance count) =
      { of c with index := .int (c.index + step), completed := .int (c.completed + step) } := by
    rw [← hindex, ← hcompleted]
    rfl
  have hclamped : (do (Value.int count).clamped (← (Value.int c.beats.size).sub (of c).index)) =
      .ok (.int step) :=
    Value.clamped_int count _
  unfold LooseCursor.advance
  rw [Action.perform_get_bind, hmoved, show (of c).beats = c.beats from rfl, hclamped]
  rfl

theorem skip_of : (of c).skip = .ok (of c.skip) := by
  unfold skip Cursor.skip
  rw [exhausted_of]
  show (if c.exhausted = true then Except.ok (of c) else
    (of c).index.add (.int 1) >>= fun index => .ok { of c with index }) = _
  cases c.exhausted with
  | true => rfl
  | false => rfl

theorem jump_of (index : Int) : (of c).jump (.int index) = .ok (of (c.jump index)) := by
  have hplace : ((Cursor.clamp c.beats index : Nat) : Int) = max 0 (min index c.beats.size) := by
    unfold Cursor.clamp
    omega
  show ((Value.int index).clamped (.int c.beats.size) >>= fun index =>
    Except.ok { of c with index }) = _
  rw [Value.clamped_int, ← hplace]
  rfl

theorem rebind_of (script : Script) (conversation : Value) (index completed : Int) :
    (LooseCursor.rebind script [conversation, .int index, .int completed]).perform (of c) =
      match (do
        let name ← script.named conversation
        (Cursor.rebind script { conversation := name, index, completed }).mapError .story) with
      | .ok c' => (.ok (), of c')
      | .error f => (.error f, of c) := by
  unfold LooseCursor.rebind
  show (Action.ofExcept (LooseCursor.start script conversation) >>= _).perform (of c) = _
  rw [start_of]
  cases hname : script.named conversation with
  | error f => rfl
  | ok name =>
    show (Action.ofExcept (((Cursor.start script name).map LooseCursor.of).mapError .story) >>=
      _).perform (of c) =
      match (Cursor.rebind script { conversation := name, index, completed }).mapError .story with
      | .ok c' => (.ok (), of c')
      | .error f => (.error f, of c)
    unfold Cursor.start Cursor.rebind
    cases hbeats : script.lookup name with
    | error error => rfl
    | ok beats =>
      have hplace : ((Cursor.clamp beats index : Nat) : Int) = max 0 (min index beats.size) := by
        unfold Cursor.clamp
        omega
      have hcount : ((max 0 completed).toNat : Int) = max 0 completed := by
        omega
      show (Action.ofMishap ((Value.int index).clamped (.int beats.size)) >>= fun place =>
        Action.ofMishap ((Value.int 0).largest (.int completed)) >>= fun count =>
          set ({ script, beats, conversation := .text name, index := place
                 completed := count } : LooseCursor)).perform { of c with script, beats } =
        (.ok (), of { script, beats, conversation := name, index := Cursor.clamp beats index
                      completed := (max 0 completed).toNat })
      rw [Value.clamped_int, Value.largest_zero, ← hplace, ← hcount]
      rfl

end LooseCursor

end Remote

/-! ## Moves -/

namespace Cursor

/-- A call that moves a cursor. A script goes by its name, and a conversation by any value. -/
inductive Move where
  | advance (count : Int)
  | skip
  | jump (index : Int)
  | switchTo (conversation : Value)
  | rebind (script : String) (conversation : Value) (index completed : Int)

namespace Move

/-- The call from afar. -/
def call : Move → Remote.Call
  | advance count => { name := "advance", args := [.int count] }
  | skip => { name := "skip" }
  | jump index => { name := "jump", args := [.int index] }
  | switchTo conversation => { name := "switch", args := [conversation] }
  | rebind script conversation index completed =>
    { name := "rebind"
      args := [.text script, .list [conversation, .int index, .int completed]] }

/-- Where a move takes a cursor, among the scripts that there are. -/
def make (scripts : Table Value Script) (c : Cursor) : Move → Except Fault Cursor
  | advance count => .ok (c.advance count)
  | skip => .ok c.skip
  | jump index => .ok (c.jump index)
  | switchTo conversation => do
    (c.switchTo (← c.script.named conversation)).mapError .story
  | rebind script conversation index completed =>
    match Table.get? (.text script) scripts with
    | none => .error (.mishap .missingKey)
    | some script => do
      let name ← script.named conversation
      (Cursor.rebind script { conversation := name, index, completed }).mapError .story

variable {scripts : Table Value Script} {c c' : Cursor} {move : Move}

/-- A move ends in a conversation of its script. -/
theorem make_sound (h : c.Sound) (hmove : move.make scripts c = .ok c') : c'.Sound := by
  cases move with
  | advance count =>
    cases hmove
    have hindex := h.index
    refine ⟨h.beats, ?_⟩
    show c.index + (max 0 (min count ((c.beats.size : Int) - c.index))).toNat ≤ c.beats.size
    omega
  | skip =>
    cases hmove
    exact Likeness.skip_sound h
  | jump index =>
    cases hmove
    exact jump_sound h index
  | switchTo conversation =>
    obtain ⟨name, -, hswitch⟩ := bind_eq_ok.1 hmove
    exact (Likeness.switchTo_sound (mapError_eq_ok.1 hswitch)).2
  | rebind script conversation index completed =>
    simp only [make] at hmove
    split at hmove
    · cases hmove
    · obtain ⟨name, -, hrebind⟩ := bind_eq_ok.1 hmove
      exact (Cursor.rebind_sound (mapError_eq_ok.1 hrebind)).2

end Move

end Cursor

namespace Remote

open Cursor (Move)

/-- A move from afar does to a cursor what it says; if it fails, the cursor is as it was. -/
theorem callCursor_move (scripts : Table Value Script) (move : Move) (c : Cursor) :
    (callCursor scripts move.call).perform (.of c) =
      match move.make scripts c with
      | .ok c' => (.ok .null, .of c')
      | .error f => (.error f, .of c) := by
  cases move with
  | advance count => exact Action.perform_bind_ok (LooseCursor.advance_of count)
  | skip =>
    show (Action.ofMishap (LooseCursor.of c).skip >>= become).perform (.of c) = _
    rw [LooseCursor.skip_of]
    rfl
  | jump index =>
    show (Action.ofMishap ((LooseCursor.of c).jump (.int index)) >>= become).perform (.of c) = _
    rw [LooseCursor.jump_of]
    rfl
  | switchTo conversation =>
    show (Action.ofExcept (LooseCursor.start c.script conversation) >>= become).perform (.of c) = _
    rw [LooseCursor.start_of]
    simp only [Move.make, Cursor.switchTo]
    cases c.script.named conversation with
    | error f => rfl
    | ok name =>
      show (Action.ofExcept (((Cursor.start c.script name).map LooseCursor.of).mapError .story) >>=
        become).perform (.of c) = match (Cursor.start c.script name).mapError Fault.story with
        | .ok c' => (.ok .null, .of c')
        | .error f => (.error f, .of c)
      cases Cursor.start c.script name <;> rfl
  | rebind script conversation index completed =>
    show (match Table.get? (Value.text script) scripts with
      | none => throw (Fault.mishap .missingKey)
      | some script => quietly (LooseCursor.rebind script
          [conversation, .int index, .int completed])).perform (.of c) = _
    simp only [Move.make]
    cases Table.get? (Value.text script) scripts with
    | none => rfl
    | some script =>
      have hrun := LooseCursor.rebind_of (c := c) script conversation index completed
      dsimp only
      revert hrun
      cases (do
        let name ← script.named conversation
        (Cursor.rebind script { conversation := name, index, completed }).mapError Fault.story) with
      | ok c' => exact fun hrun => Action.perform_bind_ok hrun
      | error f => exact fun hrun => Action.perform_bind_error hrun

/-- The cursor after a row of moves. A move that fails is passed over. -/
def afterMoves (scripts : Table Value Script) (moves : List Move) (s : LooseCursor) : LooseCursor :=
  moves.foldl (fun s move => ((callCursor scripts move.call).perform s).2) s

/-- After any row of moves a cursor stands in a conversation of its script. -/
theorem moves_sound (scripts : Table Value Script) (moves : List Move) {c : Cursor} (h : c.Sound) :
    ∃ c' : Cursor, afterMoves scripts moves (.of c) = .of c' ∧ c'.Sound := by
  induction moves generalizing c with
  | nil => exact ⟨c, rfl, h⟩
  | cons move moves ih =>
    have hmove := callCursor_move scripts move c
    show ∃ c', afterMoves scripts moves ((callCursor scripts move.call).perform (.of c)).2 =
      .of c' ∧ c'.Sound
    cases hmade : move.make scripts c with
    | ok c₁ =>
      rw [hmove, hmade]
      exact ih (Move.make_sound h hmade)
    | error f =>
      rw [hmove, hmade]
      exact ih h

end Remote

end VisualNovel
