import Mathlib.Data.List.Basic
import VisualNovel.Engine.Event
import VisualNovel.Intent

/-!
# The course of a session

What shows of an engine from outside is a row of *notices*: listeners are told of an event, the
renderer is sent an intent, the owner hears that the session has ended. `Mode.Path` is the order
that changes of the mode stand in, and `Notices.Closes` and `Notices.Owns` say what goes with the
end of a session and with an error.

A *course* is what the notices so far ask of the next one. Notices that a course can take stand in
these orders (`Course.after_path`, `Course.after_closes`, `Course.after_owns`), so of an engine only
has to be known which course it is on.
-/

namespace VisualNovel

open Script

/-- Something that shows of an engine. -/
inductive Notice where
  /-- Listeners are told of an event. -/
  | told (event : Event)
  /-- The renderer is sent an intent. -/
  | sent (i : Intent)
  /-- The owner hears that the session has ended. -/
  | parted

namespace Notice

/-- The change of the mode that listeners are told of. -/
def change? : Notice → Option (Mode × Mode)
  | told (.modeChanged old new) => some (old, new)
  | _ => none

/-- The error that listeners are told of. -/
def failure? : Notice → Option StoryError
  | told (.failed error) => some error
  | _ => none

def isLoad : Notice → Bool
  | told (.loaded _ _) => true
  | _ => false

def isEnd : Notice → Bool
  | told (.ended _) => true
  | _ => false

def isParting : Notice → Bool
  | parted => true
  | _ => false

/-- The engine starts to load, or says what it loads. -/
def startsLoad : Notice → Bool
  | told (.loaded _ _) | told (.modeChanged _ .loading) => true
  | _ => false

end Notice

open Notice

namespace Mode

/-- Whether a session can go from one mode into another. -/
def turns : Mode → Mode → Bool
  | loading, normal => true
  | normal, effectRunning | normal, awaitingChoice => true
  | effectRunning, normal | awaitingChoice, normal => true
  | old, ended => old != ended
  | _, loading => true
  | _, _ => false

/-- Each change of the mode starts where the one before has led, and is one that a session can
make. -/
def Path (m : Mode) : List (Mode × Mode) → Mode → Prop
  | [], m' => m' = m
  | (old, new) :: rest, m' => old = m ∧ old.turns new ∧ new.Path rest m'

theorem Path.append {m m₁ m' : Mode} {l l' : List (Mode × Mode)} (h : m.Path l m₁)
    (h' : m₁.Path l' m') : m.Path (l ++ l') m' := by
  induction l generalizing m with
  | nil =>
    obtain rfl : m₁ = m := h
    exact h'
  | cons change l ih => exact ⟨h.1, h.2.1, ih h.2.2⟩

end Mode

/-- The error that listeners were told of last, or else the one from before. -/
def Notices.error (before : Option StoryError) (notices : List Notice) : Option StoryError :=
  notices.foldl (fun error n => n.failure?.or error) before

/-- What goes with the end of a session: the mode changes, listeners are told, and the owner hears
of it, in one go. None of it comes alone, and none of it twice before the engine loads again. -/
structure Notices.Closes (notices : List Notice) : Prop where
  entered : ∀ {before rest m}, notices = before ++ .told (.modeChanged m .ended) :: rest →
    ∃ text rest', rest = .told (.ended text) :: .parted :: rest'
  told : ∀ {before rest text}, notices = before ++ .told (.ended text) :: rest →
    ∃ before' m, before = before' ++ [.told (.modeChanged m .ended)]
  parted : ∀ {before rest}, notices = before ++ .parted :: rest →
    ∃ before' text, before = before' ++ [.told (.ended text)]
  once : ∀ {before between rest}, notices = before ++ between ++ rest →
    (∀ n ∈ between, n.isLoad = false) →
    between.countP isEnd ≤ 1 ∧ between.countP isParting ≤ 1

/-- What goes with an error: the session ends with it at once, and there is no second one before the
engine loads again. -/
structure Notices.Owns (notices : List Notice) : Prop where
  ends : ∀ {before rest error}, notices = before ++ .told (.failed error) :: rest →
    ∃ m text rest', rest = .told (.modeChanged m .ended) :: .told (.ended text) :: .parted :: rest'
  once : ∀ {before between rest}, notices = before ++ between ++ rest →
    (∀ n ∈ between, n.isLoad = false) → between.countP (fun n => n.failure?.isSome) ≤ 1

/-- What the notices so far ask of the next one. -/
inductive Course where
  /-- Nothing is pending in this mode. -/
  | on (mode : Mode)
  /-- Listeners were told of an error, and the session has to end. -/
  | failing (mode : Mode)
  /-- The mode has changed to the end, and listeners have to be told. -/
  | ending
  /-- Listeners were told of the end, and the owner has to hear of it. -/
  | parting
  /-- The mode has changed to loading, and listeners have to be told what is loaded. -/
  | reloading
  deriving DecidableEq

namespace Course

/-- The mode that an engine on this course is in. -/
def mode : Course → Mode
  | on m | failing m => m
  | ending | parting => .ended
  | reloading => .loading

/-- The course after a notice, if it can take the notice. `sure` says whether a session is sure to
end once listeners were told of an error. -/
def next (sure : Bool) : Course → Notice → Option Course
  | on m, .sent _ => some (on m)
  | on m, .told (.modeChanged old .ended) =>
    if old = m ∧ m ≠ .ended then some ending else none
  | on m, .told (.modeChanged old .loading) => if old = m then some reloading else none
  | on m, .told (.modeChanged old new) => if old = m ∧ m.turns new then some (on new) else none
  | on m, .told (.loaded _ _) => if m = .loading then some (on m) else none
  | on m, .told (.failed _) =>
    if m = .ended then none else if sure then some (failing m) else some (on m)
  | on _, .told (.ended _) => none
  | on m, .told _ => some (on m)
  | failing m, .told (.modeChanged old .ended) =>
    if old = m ∧ m ≠ .ended then some ending else none
  | ending, .told (.ended _) => some parting
  | parting, .parted => some (on .ended)
  | reloading, .told (.loaded _ _) => some (on .loading)
  | _, _ => none

/-- The course after a row of notices. -/
def after (sure : Bool) (c : Course) (notices : List Notice) : Option Course :=
  notices.foldlM (next sure) c

section
variable {sure : Bool} {c c' : Course} {n : Notice} {notices : List Notice}

@[simp] theorem after_nil : after sure c [] = some c :=
  rfl

theorem after_cons : after sure c (n :: notices) = (next sure c n).bind (after sure · notices) :=
  List.foldlM_cons

theorem after_append {a b : List Notice} :
    after sure c (a ++ b) = (after sure c a).bind (after sure · b) :=
  List.foldlM_append

theorem after_trans {a b : List Notice} {c₁ : Course} (ha : after sure c a = some c₁)
    (hb : after sure c₁ b = some c') : after sure c (a ++ b) = some c' := by
  rw [after_append, ha]
  exact hb

/-- Where a notice stands, the course before it can take it. -/
theorem exists_next_of_after {a b : List Notice} (h : after sure c (a ++ n :: b) = some c') :
    ∃ c₁ c₂, after sure c a = some c₁ ∧ next sure c₁ n = some c₂ ∧ after sure c₂ b = some c' := by
  rw [after_append] at h
  obtain ⟨c₁, ha, h⟩ := Option.bind_eq_some_iff.1 h
  rw [after_cons] at h
  obtain ⟨c₂, hn, hb⟩ := Option.bind_eq_some_iff.1 h
  exact ⟨c₁, c₂, ha, hn, hb⟩

/-- The notices that a course can take, and where they lead. -/
inductive Takes (sure : Bool) : Course → Notice → Course → Prop where
  | sent {m : Mode} {i : Intent} : Takes sure (on m) (.sent i) (on m)
  | entered {m : Mode} : m ≠ .ended → Takes sure (on m) (.told (.modeChanged m .ended)) ending
  | owned {m : Mode} : m ≠ .ended → Takes sure (failing m) (.told (.modeChanged m .ended)) ending
  | reloads {m : Mode} : Takes sure (on m) (.told (.modeChanged m .loading)) reloading
  | turned {m new : Mode} : m.turns new → new ≠ .ended → new ≠ .loading →
    Takes sure (on m) (.told (.modeChanged m new)) (on new)
  | loaded {script : Value} {conversation : String} :
    Takes sure (on .loading) (.told (.loaded script conversation)) (on .loading)
  | failed {m : Mode} {error : StoryError} : m ≠ .ended → sure →
    Takes sure (on m) (.told (.failed error)) (failing m)
  | warned {m : Mode} {error : StoryError} : m ≠ .ended → ¬sure →
    Takes sure (on m) (.told (.failed error)) (on m)
  | told {m : Mode} {event : Event} : (∀ old new, event ≠ .modeChanged old new) →
    (∀ script conversation, event ≠ .loaded script conversation) →
    (∀ error, event ≠ .failed error) → (∀ text, event ≠ .ended text) →
    Takes sure (on m) (.told event) (on m)
  | finished {text : Option String} : Takes sure ending (.told (.ended text)) parting
  | parted : Takes sure parting .parted (on .ended)
  | reloaded {script : Value} {conversation : String} :
    Takes sure reloading (.told (.loaded script conversation)) (on .loading)

theorem takes_of_next (h : next sure c n = some c') : Takes sure c n c' := by
  revert h
  fun_cases next sure c n
  all_goals
    intro h
    cases h
  case case1 => exact .sent
  case case2 hmode =>
    obtain ⟨rfl, hgoes⟩ := hmode
    exact .entered hgoes
  case case4 => exact .reloads
  case case6 hended hloading hmode =>
    obtain ⟨rfl, hturns⟩ := hmode
    exact .turned hturns hended hloading
  case case8 => exact .loaded
  case case11 hgoes hsure => exact .failed hgoes hsure
  case case12 hgoes hsure => exact .warned hgoes hsure
  case case14 hchange hload hfailed hended => exact .told hchange hload hfailed hended
  case case15 hmode =>
    obtain ⟨rfl, hgoes⟩ := hmode
    exact .owned hgoes
  case case17 => exact .finished
  case case18 => exact .parted
  case case19 => exact .reloaded

/-! ## Changes of the mode -/

theorem Mode.turns_ended {m : Mode} (h : m ≠ .ended) : m.turns .ended := by
  cases m <;> simp_all [Mode.turns]

theorem Mode.turns_loading (m : Mode) : m.turns .loading := by
  cases m <;> rfl

theorem next_path (h : next sure c n = some c') : c.mode.Path n.change?.toList c'.mode := by
  cases takes_of_next h <;>
    simp_all [mode, Notice.change?, Mode.Path, Mode.turns_ended, Mode.turns_loading]

theorem after_path (h : after sure c notices = some c') :
    c.mode.Path (notices.filterMap change?) c'.mode := by
  induction notices generalizing c with
  | nil =>
    cases h
    rfl
  | cons n notices ih =>
    rw [after_cons] at h
    obtain ⟨c₁, hn, h⟩ := Option.bind_eq_some_iff.1 h
    have hpath := (next_path hn).append (ih h)
    cases hchange : n.change? <;> simpa [hchange] using hpath

/-! ## The end of a session -/

theorem next_end {text : Option String} (h : next sure c (.told (.ended text)) = some c') :
    c = ending ∧ c' = parting := by
  cases takes_of_next h with
  | told _ _ _ hended => exact absurd rfl (hended text)
  | finished => exact ⟨rfl, rfl⟩

theorem next_parted (h : next sure c .parted = some c') : c = parting ∧ c' = on .ended := by
  cases takes_of_next h
  exact ⟨rfl, rfl⟩

theorem next_entered {m : Mode} (h : next sure c (.told (.modeChanged m .ended)) = some c') :
    c' = ending := by
  cases takes_of_next h with
  | entered | owned => rfl
  | turned _ hended => exact absurd rfl hended
  | told hchange => exact absurd rfl (hchange m .ended)

theorem next_failed {error : StoryError} (h : next true c (.told (.failed error)) = some c') :
    ∃ m, c' = failing m := by
  cases takes_of_next h with
  | failed => exact ⟨_, rfl⟩
  | warned _ hunsure => exact absurd rfl hunsure
  | told _ _ hfailed => exact absurd rfl (hfailed error)

theorem next_failing {m : Mode} (h : next sure (failing m) n = some c') :
    n = .told (.modeChanged m .ended) ∧ c' = ending := by
  cases takes_of_next h
  exact ⟨rfl, rfl⟩

/-- A course that asks for something is not the last one. -/
theorem exists_next_of_pending {m : Mode} (hc : ∀ m, c ≠ on m)
    (h : after sure c notices = some (on m)) :
    ∃ n rest c', notices = n :: rest ∧ next sure c n = some c' ∧
      after sure c' rest = some (on m) := by
  cases notices with
  | nil =>
    cases h
    exact absurd rfl (hc m)
  | cons n rest =>
    rw [after_cons] at h
    obtain ⟨c', hn, hrest⟩ := Option.bind_eq_some_iff.1 h
    exact ⟨n, rest, c', rfl, hn, hrest⟩

/-- When the session has ended, listeners are told and the owner hears of it. -/
theorem exists_of_ending {m : Mode} (h : after sure ending notices = some (on m)) :
    ∃ text rest, notices = .told (.ended text) :: .parted :: rest := by
  obtain ⟨n, rest, c₁, rfl, hn, h⟩ := exists_next_of_pending (by simp) h
  obtain ⟨text, rfl, rfl⟩ : ∃ text, n = .told (.ended text) ∧ c₁ = parting := by
    cases takes_of_next hn
    exact ⟨_, rfl, rfl⟩
  obtain ⟨n, rest, c₂, rfl, hn, -⟩ := exists_next_of_pending (by simp) h
  obtain rfl : n = .parted := by
    cases takes_of_next hn
    rfl
  exact ⟨text, rest, rfl⟩

/-- A course that asks for something is one that the last notice has led to. -/
theorem exists_last_of_pending {m : Mode} (hc : ∀ m, c ≠ on m)
    (h : after sure (on m) notices = some c) :
    ∃ before n c₁, notices = before ++ [n] ∧ next sure c₁ n = some c := by
  rcases List.eq_nil_or_concat notices with rfl | ⟨before, n, rfl⟩
  · cases h
    exact absurd rfl (hc m)
  · rw [List.concat_eq_append] at h ⊢
    obtain ⟨c₁, c₂, -, hn, hc₂⟩ := exists_next_of_after h
    cases hc₂
    exact ⟨before, n, c₁, rfl, hn⟩

theorem exists_of_after_ending {m : Mode} (h : after sure (on m) notices = some ending) :
    ∃ before m', notices = before ++ [.told (.modeChanged m' .ended)] := by
  obtain ⟨before, n, c₁, rfl, hn⟩ := exists_last_of_pending (by simp) h
  cases takes_of_next hn with
  | entered | owned => exact ⟨before, _, rfl⟩

theorem exists_of_after_parting {m : Mode} (h : after sure (on m) notices = some parting) :
    ∃ before text, notices = before ++ [.told (.ended text)] := by
  obtain ⟨before, n, c₁, rfl, hn⟩ := exists_last_of_pending (by simp) h
  cases takes_of_next hn
  exact ⟨before, _, rfl⟩

/-! ## At most once -/

/-- Something shows no more often than the course allows, until the engine loads again. -/
theorem after_countP {f : Notice → Bool} {left : Course → Nat}
    (hnext : ∀ {c c' n}, next sure c n = some c' → n.isLoad = false →
      left c' + (if f n then 1 else 0) ≤ left c)
    (h : after sure c notices = some c') (hloads : ∀ n ∈ notices, n.isLoad = false) :
    left c' + notices.countP f ≤ left c := by
  induction notices generalizing c with
  | nil =>
    cases h
    simp
  | cons n notices ih =>
    rw [after_cons] at h
    obtain ⟨c₁, hn, h⟩ := Option.bind_eq_some_iff.1 h
    have hfirst := hnext hn (hloads n (by simp))
    have hrest := ih h fun n hn => hloads n (by simp [hn])
    rw [List.countP_cons]
    omega

/-- How often listeners can be told of the end before the engine loads again. -/
def endsLeft : Course → Nat
  | on m => if m = .ended then 0 else 1
  | failing _ | ending => 1
  | parting | reloading => 0

theorem next_endsLeft (h : next sure c n = some c') (hload : n.isLoad = false) :
    c'.endsLeft + (if n.isEnd then 1 else 0) ≤ c.endsLeft := by
  cases takes_of_next h <;> simp_all [endsLeft, isEnd, isLoad]
  split <;> simp_all [Mode.turns]

/-- How often the owner can hear of the end before the engine loads again. -/
def partingsLeft : Course → Nat
  | on m => if m = .ended then 0 else 1
  | failing _ | ending | parting => 1
  | reloading => 0

theorem next_partingsLeft (h : next sure c n = some c') (hload : n.isLoad = false) :
    c'.partingsLeft + (if n.isParting then 1 else 0) ≤ c.partingsLeft := by
  cases takes_of_next h <;> simp_all [partingsLeft, isParting, isLoad]
  split <;> simp_all [Mode.turns]

/-- How often listeners can be told of an error before the engine loads again. -/
def failuresLeft : Course → Nat
  | on m => if m = .ended then 0 else 1
  | _ => 0

theorem next_failuresLeft (h : next true c n = some c') (hload : n.isLoad = false) :
    c'.failuresLeft + (if n.failure?.isSome then 1 else 0) ≤ c.failuresLeft := by
  cases takes_of_next h <;> simp_all [failuresLeft, failure?, isLoad]
  split <;> simp_all [Mode.turns]

/-- Between any two notices there is a course. -/
theorem exists_of_segment {before between rest : List Notice}
    (h : after sure c (before ++ between ++ rest) = some c') :
    ∃ c₁ c₂, after sure c₁ between = some c₂ := by
  rw [after_append] at h
  obtain ⟨c₂, h, -⟩ := Option.bind_eq_some_iff.1 h
  rw [after_append] at h
  obtain ⟨c₁, -, h⟩ := Option.bind_eq_some_iff.1 h
  exact ⟨c₁, c₂, h⟩

theorem left_le_one (c : Course) :
    c.endsLeft ≤ 1 ∧ c.partingsLeft ≤ 1 ∧ c.failuresLeft ≤ 1 := by
  rcases c with m | _ | _ | _ | _
  · by_cases h : m = .ended <;> simp [endsLeft, partingsLeft, failuresLeft, h]
  all_goals simp [endsLeft, partingsLeft, failuresLeft]

/-- Notices of a session that nothing is pending in keep together what goes with its end. -/
theorem after_closes {m m' : Mode} (h : after sure (on m) notices = some (on m')) :
    Notices.Closes notices where
  entered := by
    intro before rest m₁ heq
    rw [heq] at h
    obtain ⟨c₁, c₂, -, hn, hrest⟩ := exists_next_of_after h
    rw [next_entered hn] at hrest
    exact exists_of_ending hrest
  told := by
    intro before rest text heq
    rw [heq] at h
    obtain ⟨c₁, c₂, hbefore, hn, -⟩ := exists_next_of_after h
    rw [(next_end hn).1] at hbefore
    exact exists_of_after_ending hbefore
  parted := by
    intro before rest heq
    rw [heq] at h
    obtain ⟨c₁, c₂, hbefore, hn, -⟩ := exists_next_of_after h
    rw [(next_parted hn).1] at hbefore
    exact exists_of_after_parting hbefore
  once := by
    intro before between rest heq hloads
    rw [heq] at h
    obtain ⟨c₁, c₂, hbetween⟩ := exists_of_segment h
    have hends := after_countP next_endsLeft hbetween hloads
    have hpartings := after_countP next_partingsLeft hbetween hloads
    obtain ⟨hends₁, hpartings₁, -⟩ := left_le_one c₁
    omega

/-- If an error is sure to end the session, its notices own up to every error. -/
theorem after_owns {m m' : Mode} (h : after true (on m) notices = some (on m')) :
    Notices.Owns notices where
  ends := by
    intro before rest error heq
    rw [heq] at h
    obtain ⟨c₁, c₂, -, hn, hrest⟩ := exists_next_of_after h
    obtain ⟨m₁, rfl⟩ := next_failed hn
    obtain ⟨n, rest, c₃, rfl, hn, hrest⟩ := exists_next_of_pending (by simp) hrest
    obtain ⟨rfl, rfl⟩ := next_failing hn
    obtain ⟨text, rest, rfl⟩ := exists_of_ending hrest
    exact ⟨m₁, text, rest, rfl⟩
  once := by
    intro before between rest heq hloads
    rw [heq] at h
    obtain ⟨c₁, c₂, hbetween⟩ := exists_of_segment h
    have hfailures := after_countP next_failuresLeft hbetween hloads
    obtain ⟨-, -, hfailures₁⟩ := left_le_one c₁
    omega

end

end Course

end VisualNovel
