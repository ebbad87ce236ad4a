import VisualNovel.Window.Font
import Mathlib.Data.List.Chain
import Mathlib.Data.List.Forall2

/-!
# Lines of broken text

What the breaking of a text into lines keeps, whatever the font: `Laid` says what the lines of one
paragraph are, and `wrap_lays` that the lines of a text are those of its paragraphs, one after the
other.

Nothing is known of the width of a line. It need not grow with the line, so a line can fit that
begins with one that does not.
-/

namespace VisualNovel

/-! ## Pieces and words -/

theorem splitAt_eq_splitOnP {α : Type} (separates : α → Bool) (l : List α) :
    splitAt separates l = l.splitOnP separates := by
  induction l with
  | nil => rfl
  | cons c rest ih =>
    obtain ⟨first, others, hrest⟩ :=
      List.exists_cons_of_ne_nil (List.splitOnP_ne_nil separates rest)
    rw [List.splitOnP_cons_eq_if_modifyHead, splitAt, ih, hrest]
    rfl

/-- No separator is left in what lies between separators. -/
theorem not_mem_of_mem_splitOn {α : Type} [BEq α] [LawfulBEq α] {sep : α} :
    ∀ {l part : List α}, part ∈ l.splitOn sep → sep ∉ part
  | [], part, h => by
    obtain rfl : part = [] := by simpa [List.splitOn] using h
    exact List.not_mem_nil
  | c :: rest, part, h => by
    rw [List.splitOn, List.splitOnP_cons_eq_if_modifyHead] at h
    split at h
    case isTrue =>
      rcases List.mem_cons.1 h with rfl | h
      · exact List.not_mem_nil
      · exact not_mem_of_mem_splitOn h
    case isFalse hc =>
      obtain ⟨first, others, hrest⟩ :=
        List.exists_cons_of_ne_nil (List.splitOnP_ne_nil (· == sep) rest)
      rw [hrest, List.modifyHead_cons] at h
      rcases List.mem_cons.1 h with rfl | h
      · have hfirst : sep ∉ first := not_mem_of_mem_splitOn (hrest ▸ List.mem_cons_self)
        simpa [hfirst] using fun e : sep = c => hc (by simp [e])
      · exact not_mem_of_mem_splitOn (hrest ▸ List.mem_cons_of_mem _ h)

/-- The paragraphs of a text. -/
def paragraphs (text : String) : List (List Char) :=
  text.toList.splitOn '\n'

/-- What lies between the blanks of a row of characters. Two blanks in a row have the empty piece
between them. -/
def pieces (row : List Char) : List String :=
  (row.splitOn ' ').map String.ofList

/-- The words of a row of characters, in order. -/
def wordsOf (row : List Char) : List String :=
  (pieces row).filter (· ≠ "")

theorem pieces_ne_nil (row : List Char) : pieces row ≠ [] := by
  simp [pieces, List.splitOn, List.splitOnP_ne_nil]

/-- No blank is left in a piece. -/
theorem blank_not_mem_of_mem_pieces {row : List Char} {piece : String} (h : piece ∈ pieces row) :
    ' ' ∉ piece.toList := by
  obtain ⟨part, hpart, rfl⟩ := List.mem_map.1 h
  simpa using not_mem_of_mem_splitOn hpart

/-- A row without a blank is one piece. -/
theorem pieces_of_blank_not_mem {row : List Char} (h : ' ' ∉ row) :
    pieces row = [String.ofList row] := by
  rw [pieces, List.splitOn, List.splitOnP_eq_singleton]
  · rfl
  · intro c hc
    simpa using ne_of_mem_of_not_mem hc h

@[simp] theorem wordsOf_nil : wordsOf [] = [] := rfl

/-- A blank parts the words on its two sides. -/
@[simp] theorem wordsOf_append_blank (a b : List Char) :
    wordsOf (a ++ ' ' :: b) = wordsOf a ++ wordsOf b := by
  simp [wordsOf, pieces, List.splitOn, List.splitOnP_append_cons]

/-- The words of pieces are the pieces that are not empty. -/
theorem flatMap_wordsOf {ws : List String} (h : ∀ w ∈ ws, ' ' ∉ w.toList) :
    ws.flatMap (wordsOf ·.toList) = ws.filter (· ≠ "") := by
  induction ws with
  | nil => rfl
  | cons w ws ih =>
    have hw : wordsOf w.toList = [w].filter (· ≠ "") := by
      rw [wordsOf, pieces_of_blank_not_mem (h w List.mem_cons_self), String.ofList_toList]
    rw [List.flatMap_cons, hw, ih fun v hv => h v (List.mem_cons_of_mem _ hv), ← List.filter_append]
    rfl

/-! ## One paragraph -/

/-- The lines that a paragraph is broken into, where `fits` says which lines are not too wide. -/
structure Laid (fits : String → Prop) (paragraph : List Char) (lines : List String) : Prop where
  /-- There is at least one line. -/
  some : lines ≠ []
  /-- No word is lost, repeated, split or moved. -/
  words : lines.flatMap (wordsOf ·.toList) = wordsOf paragraph
  /-- Only a piece of the paragraph, which has no blank in it, is too wide. -/
  fit : ∀ line ∈ lines, fits line ∨ line ∈ pieces paragraph ∧ ' ' ∉ line.toList
  /-- A line ends only where what begins the next line would have made it too wide. -/
  full : lines.IsChain fun line next =>
    ∃ piece ∈ pieces paragraph, piece.toList <+: next.toList ∧ ¬ fits s!"{line} {piece}"

theorem toList_beside (line word : String) :
    (s!"{line} {word}").toList = line.toList ++ ' ' :: word.toList := by
  simp [toString]

section
variable (fits : String → Bool)

theorem fillLines_empty (word : String) (rest : List String) :
    fillLines fits "" (word :: rest) = fillLines fits word rest := by
  simp [fillLines]

theorem fillLines_cons {line : String} (h : line ≠ "") (word : String) (rest : List String) :
    fillLines fits line (word :: rest) =
      if fits s!"{line} {word}" then fillLines fits s!"{line} {word}" rest
      else line :: fillLines fits word rest := by
  simp [fillLines, h]

/-- The first line begins with the line that was begun. -/
theorem fillLines_head (line : String) (ws : List String) :
    ∃ first others, fillLines fits line ws = first :: others ∧ line.toList <+: first.toList := by
  induction ws generalizing line with
  | nil => exact ⟨line, [], rfl, List.prefix_rfl⟩
  | cons word rest ih =>
    by_cases hempty : line = ""
    · obtain ⟨first, others, hfill, -⟩ := ih word
      exact ⟨first, others, by rw [hempty, fillLines_empty, hfill], by simp [hempty]⟩
    · rw [fillLines_cons fits hempty]
      split
      case isTrue =>
        obtain ⟨first, others, hfill, hhead⟩ := ih s!"{line} {word}"
        refine ⟨first, others, hfill, .trans ?_ hhead⟩
        rw [toList_beside]
        exact List.prefix_append ..
      case isFalse => exact ⟨line, _, rfl, List.prefix_rfl⟩

theorem fillLines_words (line : String) (ws : List String) :
    (fillLines fits line ws).flatMap (wordsOf ·.toList) =
      wordsOf line.toList ++ ws.flatMap (wordsOf ·.toList) := by
  induction ws generalizing line with
  | nil => simp [fillLines]
  | cons word rest ih =>
    by_cases hempty : line = ""
    · rw [hempty, fillLines_empty, ih]
      simp
    · rw [fillLines_cons fits hempty]
      split
      case isTrue =>
        rw [ih, toList_beside, wordsOf_append_blank, List.flatMap_cons, List.append_assoc]
      case isFalse => rw [List.flatMap_cons, ih, List.flatMap_cons]

variable {fits}

/-- Only what was put on an empty line is too wide. -/
theorem fillLines_fit {words : List String} {line : String} {ws : List String}
    (hline : fits line ∨ line ∈ words) (hws : ∀ w ∈ ws, w ∈ words) :
    ∀ l ∈ fillLines fits line ws, fits l ∨ l ∈ words := by
  induction ws generalizing line with
  | nil => simpa [fillLines] using hline
  | cons word rest ih =>
    have hword : word ∈ words := hws word List.mem_cons_self
    have hrest : ∀ w ∈ rest, w ∈ words := fun w hw => hws w (List.mem_cons_of_mem _ hw)
    by_cases hempty : line = ""
    · rw [hempty, fillLines_empty]
      exact ih (.inr hword) hrest
    · rw [fillLines_cons fits hempty]
      split
      case isTrue hfits => exact ih (.inl hfits) hrest
      case isFalse => exact List.forall_mem_cons.2 ⟨hline, ih (.inr hword) hrest⟩

theorem fillLines_full {words : List String} {line : String} {ws : List String}
    (hws : ∀ w ∈ ws, w ∈ words) :
    (fillLines fits line ws).IsChain fun line next =>
      ∃ word ∈ words, word.toList <+: next.toList ∧ ¬ fits s!"{line} {word}" := by
  induction ws generalizing line with
  | nil => exact .singleton line
  | cons word rest ih =>
    have hword : word ∈ words := hws word List.mem_cons_self
    have hrest : ∀ w ∈ rest, w ∈ words := fun w hw => hws w (List.mem_cons_of_mem _ hw)
    by_cases hempty : line = ""
    · rw [hempty, fillLines_empty]
      exact ih hrest
    · rw [fillLines_cons fits hempty]
      split
      case isTrue => exact ih hrest
      case isFalse hwide =>
        obtain ⟨first, others, hfill, hhead⟩ := fillLines_head fits word rest
        have hchain := @ih word hrest
        rw [hfill] at hchain ⊢
        exact .cons_cons ⟨word, hword, hhead, hwide⟩ hchain

/-- The lines of one paragraph. -/
theorem fillLines_laid (paragraph : List Char) :
    Laid (fits · = true) paragraph (fillLines fits "" (pieces paragraph)) := by
  obtain ⟨word, rest, hpieces⟩ := List.exists_cons_of_ne_nil (pieces_ne_nil paragraph)
  have hword : word ∈ pieces paragraph := hpieces ▸ List.mem_cons_self
  have hrest : ∀ w ∈ rest, w ∈ pieces paragraph := fun w hw =>
    hpieces ▸ List.mem_cons_of_mem _ hw
  have hfill : fillLines fits "" (pieces paragraph) = fillLines fits word rest := by
    rw [hpieces, fillLines_empty]
  refine ⟨?some, ?words, fun line hline => ?fit, hfill ▸ fillLines_full hrest⟩
  case some =>
    obtain ⟨first, others, hfirst, -⟩ := fillLines_head fits "" (pieces paragraph)
    exact hfirst ▸ List.cons_ne_nil _ _
  case words =>
    rw [fillLines_words, flatMap_wordsOf fun _ => blank_not_mem_of_mem_pieces]
    rfl
  case fit =>
    exact (fillLines_fit (.inr hword) hrest line (hfill ▸ hline)).imp id fun h =>
      ⟨h, blank_not_mem_of_mem_pieces h⟩

end

/-! ## A text -/

theorem wrap_eq_flatMap (fits : String → Bool) (text : String) :
    wrap fits text =
      (paragraphs text).flatMap fun paragraph => fillLines fits "" (pieces paragraph) := by
  simp only [wrap, paragraphs, pieces, splitAt_eq_splitOnP, List.splitOn]

/-- Whatever the widths of lines and the room for them, the lines of a text are those of its
paragraphs one after the other, and no word of a paragraph is lost, repeated, split or moved, and a
line that is wider than the room is a single word. -/
theorem wrap_lays {Width : Type} [LE Width] [DecidableLE Width] (width : String → Width)
    (room : Width) (text : String) :
    ∃ blocks : List (List String),
      wrap (fun line => decide (width line ≤ room)) text = blocks.flatten ∧
      List.Forall₂ (Laid fun line => width line ≤ room) (paragraphs text) blocks := by
  let fits (line : String) : Bool := width line ≤ room
  refine ⟨(paragraphs text).map fun paragraph => fillLines fits "" (pieces paragraph), ?_, ?_⟩
  · rw [wrap_eq_flatMap, List.flatMap_def]
  · refine List.forall₂_map_right_iff.2 (List.forall₂_same.2 fun paragraph _ => ?_)
    have hlaid : Laid (fits · = true) paragraph (fillLines fits "" (pieces paragraph)) :=
      fillLines_laid paragraph
    simpa [fits] using hlaid

example : wrap (·.length ≤ 5) "ab cd  abcdefg e\n" = ["ab cd", "abcdefg", "e", ""] := by decide

end VisualNovel
