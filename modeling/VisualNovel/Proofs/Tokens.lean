import Mathlib.Logic.ExistsUnique
import VisualNovel.Proofs.Typing

/-!
# The tokens of a command line

A command line is a word and a row of tokens between separators (`commandLine`), and none of these
pieces holds a separator. Splitting is the inverse of joining (`splitPieces_intercalate`,
`intercalate_splitPieces`), so a line has exactly one word and one row of tokens, empty ones
included. What the line is read as depends on the word through its keyword only, and on the tokens
through `bind` only, which reads each of them by the parameter at its place (`bind_eq_ok_iff`).
-/

namespace VisualNovel.Script

theorem map_eq_error {ε α β : Type} {x : Except ε α} {f : α → β} {e : ε} :
    x.map f = .error e ↔ x = .error e := by
  cases x <;> simp [Except.map]

/-! ## Splitting -/

theorem splitPieces_eq_splitOn (cs : List Char) : splitPieces cs = cs.splitOn separator := by
  induction cs with
  | nil => rfl
  | cons c rest ih =>
    rw [splitPieces, List.splitOn_cons_eq_if_modifyHead, ih]
    cases hpieces : rest.splitOn separator with
    | nil => exact absurd hpieces (List.splitOn_ne_nil _ _)
    | cons piece pieces => rfl

/-- What is split at its separators is put together again by joining. -/
theorem intercalate_splitPieces (cs : List Char) :
    [separator].intercalate (splitPieces cs) = cs := by
  rw [splitPieces_eq_splitOn, List.intercalate_splitOn]

/-- What is joined from pieces without separators is split into the same pieces. -/
theorem splitPieces_intercalate {pieces : List (List Char)} (hne : pieces ≠ [])
    (h : ∀ piece ∈ pieces, separator ∉ piece) :
    splitPieces ([separator].intercalate pieces) = pieces := by
  rw [splitPieces_eq_splitOn, List.splitOn_intercalate _ h hne]

/-- No piece holds a separator. -/
theorem separator_notMem_of_mem_splitPieces {cs piece : List Char} (h : piece ∈ splitPieces cs) :
    separator ∉ piece := by
  induction cs generalizing piece with
  | nil => simp_all [splitPieces]
  | cons c rest ih =>
    unfold splitPieces at h
    split at h
    · next hpieces => exact absurd hpieces (splitPieces_eq_splitOn rest ▸ List.splitOn_ne_nil _ _)
    · next first pieces hpieces =>
      rw [hpieces] at ih
      split at h
      · obtain rfl | h := List.mem_cons.1 h
        · exact List.not_mem_nil
        · exact ih h
      · next hc =>
        obtain rfl | h := List.mem_cons.1 h
        · have hfirst : separator ∉ first := ih List.mem_cons_self
          simp only [beq_iff_eq] at hc
          simp [hfirst, Ne.symm hc]
        · exact ih (List.mem_cons_of_mem _ h)

/-! ## Command lines -/

/-- The string has no separator in it. -/
def IsPiece (s : String) : Prop :=
  separator ∉ s.toList

instance (s : String) : Decidable (IsPiece s) :=
  inferInstanceAs (Decidable (separator ∉ s.toList))

/-- The command line with a word and a row of tokens. -/
def commandLine (word : String) (tokens : List String) : String :=
  .ofList (commandMark :: [separator].intercalate ((word :: tokens).map String.toList))

/-- The word of a command line and its tokens. -/
structure Written (word : String) (tokens : List String) (raw : String) : Prop where
  word_isPiece : IsPiece word
  tokens_arePieces : ∀ token ∈ tokens, IsPiece token
  spelling : commandLine word tokens = raw

variable {word raw : String} {tokens : List String} {kind : CommandKind}
  {line conversation : Value}

/-- A command line is split into its word and its tokens. -/
theorem Written.splitPieces (h : Written word tokens raw) :
    ∃ body, raw.toList = commandMark :: body ∧
      (Script.splitPieces body).map String.ofList = word :: tokens := by
  refine ⟨_, by rw [← h.spelling, commandLine, String.toList_ofList], ?_⟩
  have hpieces : ∀ piece ∈ (word :: tokens).map String.toList, separator ∉ piece := by
    intro piece hpiece
    obtain ⟨s, hs, rfl⟩ := List.mem_map.1 hpiece
    obtain rfl | hs := List.mem_cons.1 hs
    · exact h.word_isPiece
    · exact h.tokens_arePieces s hs
  rw [splitPieces_intercalate (by simp) hpieces, List.map_map]
  simp [Function.comp_def]

/-- The word and the tokens of a line are determined by it. -/
theorem Written.unique {word' : String} {tokens' : List String} (h : Written word tokens raw)
    (h' : Written word' tokens' raw) : word' = word ∧ tokens' = tokens := by
  obtain ⟨body, hbody, hpieces⟩ := h.splitPieces
  obtain ⟨body', hbody', hpieces'⟩ := h'.splitPieces
  obtain rfl : body' = body := (List.cons.inj (hbody'.symm.trans hbody)).2
  exact List.cons.inj (hpieces'.symm.trans hpieces)

/-- Whatever starts with the mark has a word and tokens. -/
theorem exists_written {body : List Char} (h : raw.toList = commandMark :: body) :
    ∃ word tokens, Written word tokens raw := by
  have hjoined : [separator].intercalate (splitPieces body) = body := intercalate_splitPieces body
  cases hpieces : splitPieces body with
  | nil => exact absurd hpieces (splitPieces_eq_splitOn body ▸ List.splitOn_ne_nil _ _)
  | cons piece pieces =>
    have hpiece : ∀ p ∈ piece :: pieces, IsPiece (.ofList p) := by
      intro p hp
      rw [IsPiece, String.toList_ofList]
      exact separator_notMem_of_mem_splitPieces (hpieces ▸ hp)
    refine ⟨.ofList piece, pieces.map String.ofList, hpiece piece List.mem_cons_self, ?_, ?_⟩
    · intro token htoken
      obtain ⟨p, hp, rfl⟩ := List.mem_map.1 htoken
      exact hpiece p (List.mem_cons_of_mem _ hp)
    · rw [hpieces] at hjoined
      have hback : ((.ofList piece :: pieces.map String.ofList).map String.toList) =
          piece :: pieces := by simp [Function.comp_def]
      rw [commandLine, hback, hjoined, ← h, String.ofList_toList]

/-! ## Keywords -/

theorem CommandKind.keyword_injective : Function.Injective CommandKind.keyword := by
  intro a b h
  have hleft : ∀ kind : CommandKind, ofKeyword? kind.keyword = some kind := by
    intro kind
    cases kind <;> rfl
  exact Option.some.inj ((hleft a).symm.trans ((congrArg ofKeyword? h).trans (hleft b)))

theorem CommandKind.lookup?_eq_none :
    lookup? word = none ↔ ∀ kind : CommandKind, kind.keyword ≠ Text.lower (Text.strip word) := by
  have hall : ∀ kind : CommandKind, kind ∈ all := fun kind => by cases kind <;> decide
  simp [lookup?, ofKeyword?, hall]

theorem CommandKind.lookup?_eq_some :
    lookup? word = some kind ↔ kind.keyword = Text.lower (Text.strip word) := by
  constructor
  · intro h
    simpa using List.find?_some h
  · intro h
    cases hfound : lookup? word with
    | none => exact absurd h (lookup?_eq_none.1 hfound kind)
    | some found =>
      have hkeyword : found.keyword = Text.lower (Text.strip word) := by
        simpa using List.find?_some hfound
      rw [keyword_injective (hkeyword.trans h.symm)]

/-! ## Binding tokens -/

/-- What is wrong with a token is wrong with its value. -/
theorem convert_category {p : Param} {e : StoryError} (h : convert kind line p raw = .error e) :
    e.cause.category = .parameter := by
  simp only [convert] at h
  repeat' split at h
  all_goals first | cases h; rfl | cases h

theorem convertFrom_category {l : Layout} {index : Nat} {e : StoryError}
    (h : convertFrom kind line l index tokens = .error e) : e.cause.category = .parameter := by
  induction tokens generalizing index with
  | nil => cases h
  | cons raw rest ih =>
    unfold convertFrom at h
    cases hv : convert kind line ((l.paramAt? index).getD default) raw with
    | error e' =>
      rw [hv] at h
      cases h
      exact convert_category hv
    | ok v =>
      rw [hv] at h
      cases hrest : convertFrom kind line l (index + 1) rest with
      | error e' =>
        rw [hrest] at h
        cases h
        exact ih hrest
      | ok vs =>
        rw [hrest] at h
        cases h

theorem bind_of_not_accepts (h : (Layout.of kind).accepts tokens.length = false) :
    bind kind tokens line conversation =
      .error ⟨.arity kind.keyword (Layout.of kind).expected tokens.length, line, conversation⟩ := by
  simp only [bind, h]
  rfl

theorem bind_of_accepts (h : (Layout.of kind).accepts tokens.length) :
    bind kind tokens line conversation =
      (convertFrom kind line (Layout.of kind) 0 tokens).map fun given =>
        given ++ defaultsAfter (Layout.of kind) given.length := by
  simp only [bind, h]
  cases convertFrom kind line (Layout.of kind) 0 tokens <;> rfl

/-- What can be wrong with tokens is their number or one of their values. -/
theorem bind_eq_error {e : StoryError} (h : bind kind tokens line conversation = .error e) :
    e = ⟨.arity kind.keyword (Layout.of kind).expected tokens.length, line, conversation⟩ ∨
      e.cause.category = .parameter := by
  cases haccepts : (Layout.of kind).accepts tokens.length with
  | false =>
    rw [bind_of_not_accepts haccepts] at h
    exact .inl (Except.error.inj h).symm
  | true =>
    rw [bind_of_accepts haccepts] at h
    exact .inr (convertFrom_category (map_eq_error.1 h))

/-- Each token is read on its own, by the parameter at its place. -/
theorem convertFrom_eq_ok_iff {l : Layout} {index : Nat} {vs : List Value} :
    convertFrom kind line l index tokens = .ok vs ↔ vs.length = tokens.length ∧
      ∀ i token, tokens[i]? = some token → ∃ v, vs[i]? = some v ∧
        convert kind line ((l.paramAt? (index + i)).getD default) token = .ok v := by
  induction tokens generalizing index vs with
  | nil => cases vs <;> simp [convertFrom]
  | cons raw rest ih =>
    rw [convertFrom]
    simp only [bind_eq_ok, ih]
    constructor
    · rintro ⟨v, hv, ws, ⟨hlength, hws⟩, hvs⟩
      cases hvs
      refine ⟨by simp [hlength], fun i token htoken => ?_⟩
      cases i with
      | zero =>
        cases htoken
        exact ⟨v, rfl, hv⟩
      | succ i => simpa [Nat.add_assoc, Nat.add_comm 1] using hws i token (by simpa using htoken)
    · rintro ⟨hlength, hvs⟩
      cases vs with
      | nil => simp at hlength
      | cons v ws =>
        obtain ⟨_, hv, hconvert⟩ := hvs 0 raw rfl
        cases hv
        refine ⟨v, hconvert, ws, ⟨by simpa using hlength, fun i token htoken => ?_⟩, rfl⟩
        simpa [Nat.add_assoc, Nat.add_comm 1] using hvs (i + 1) token (by simpa using htoken)

/-- The values of a command are those of its tokens, one each and in order, and then those of the
parameters that were left out. -/
theorem bind_eq_ok_iff {args : List Value} :
    bind kind tokens line conversation = .ok args ↔ (Layout.of kind).accepts tokens.length ∧
      ∃ given, args = given ++ defaultsAfter (Layout.of kind) tokens.length ∧
        given.length = tokens.length ∧ ∀ i token, tokens[i]? = some token → ∃ p v,
          (Layout.of kind).paramAt? i = some p ∧ given[i]? = some v ∧
          convert kind line p token = .ok v := by
  cases haccepts : (Layout.of kind).accepts tokens.length with
  | false => simp [bind_of_not_accepts haccepts]
  | true =>
    -- A number of tokens that is accepted has a parameter for each of them.
    have hparam : ∀ i token, tokens[i]? = some token →
        ∃ p, (Layout.of kind).paramAt? i = some p := by
      intro i token htoken
      exact Option.isSome_iff_exists.1
        (Layout.paramAt?_isSome haccepts (List.getElem?_eq_some_iff.1 htoken).1)
    rw [bind_of_accepts haccepts]
    constructor
    · intro h
      cases hgiven : convertFrom kind line (Layout.of kind) 0 tokens with
      | error e =>
        rw [hgiven] at h
        cases h
      | ok given =>
        rw [hgiven] at h
        cases h
        obtain ⟨hlength, hvalues⟩ := convertFrom_eq_ok_iff.1 hgiven
        refine ⟨rfl, given, congrArg (given ++ defaultsAfter _ ·) hlength, hlength, ?_⟩
        intro i token htoken
        obtain ⟨p, hp⟩ := hparam i token htoken
        obtain ⟨v, hv, hconvert⟩ := hvalues i token htoken
        rw [Nat.zero_add, hp] at hconvert
        exact ⟨p, v, hp, hv, hconvert⟩
    · rintro ⟨-, given, rfl, hlength, hvalues⟩
      have hgiven : convertFrom kind line (Layout.of kind) 0 tokens = .ok given := by
        refine convertFrom_eq_ok_iff.2 ⟨hlength, fun i token htoken => ?_⟩
        obtain ⟨p, v, hp, hv, hconvert⟩ := hvalues i token htoken
        exact ⟨v, hv, by rw [Nat.zero_add, hp]; exact hconvert⟩
      rw [hgiven, ← hlength]
      rfl

/-- A text is taken as it stands, blanks and case included; only the literal for no value is not. -/
theorem convert_text {p : Param} {v : Value} (hp : p.type = .text)
    (h : convert kind line p raw = .ok v) :
    v = if raw = nilToken then .null else .text raw := by
  simp only [convert, hp, beq_iff_eq] at h
  split at h
  · next hnil =>
    split at h
    · cases h
      rw [if_pos hnil]
    · cases h
  · next hnil =>
    cases h
    rw [if_neg hnil]

/-- No command can do without tokens. -/
theorem bind_nil (kind : CommandKind) :
    bind kind [] line conversation =
      .error ⟨.arity kind.keyword (Layout.of kind).expected 0, line, conversation⟩ :=
  bind_of_not_accepts (by cases kind <;> rfl)

/-- An empty token is one token. -/
theorem bind_empty_ne_bind_nil (kind : CommandKind) :
    bind kind [""] line conversation ≠ bind kind [] line conversation := by
  rw [bind_nil]
  intro h
  obtain hone | hcategory := bind_eq_error h
  · have hcounts : ((0 : Nat) : Int) = ((1 : Nat) : Int) := by
      injection hone with hcause
      injection hcause
    omega
  · cases hcategory

/-! ## Lines -/

/-- What a command line is read as. -/
theorem Written.parseLine (h : Written word tokens raw) :
    Script.parseLine raw line conversation =
      match CommandKind.lookup? word with
      | none => .error ⟨.unknownCommand word, line, conversation⟩
      | some kind =>
        (bind kind tokens line conversation).map fun args => .command { kind, args, line } := by
  obtain ⟨body, hbody, hpieces⟩ := h.splitPieces
  unfold Script.parseLine
  rw [hbody]
  simp only [beq_self_eq_true, if_true, parseCommand, hpieces]
  cases CommandKind.lookup? word with
  | none => rfl
  | some kind => cases bind kind tokens line conversation <;> rfl

/-- A command line says that its word is unknown exactly if it is no keyword. -/
theorem Written.parseLine_unknown (h : Written word tokens raw) :
    Script.parseLine raw line conversation = .error ⟨.unknownCommand word, line, conversation⟩ ↔
      ∀ kind : CommandKind, kind.keyword ≠ Text.lower (Text.strip word) := by
  rw [h.parseLine, ← CommandKind.lookup?_eq_none]
  cases CommandKind.lookup? word with
  | none => simp
  | some kind =>
    refine iff_of_false (fun herror => ?_) (by simp)
    obtain harity | hcategory := bind_eq_error (map_eq_error.1 herror)
    · cases harity
    · cases hcategory

/-- What does not start with the mark is dialogue. -/
theorem parseLine_dialogue (h : raw.toList.head? ≠ some commandMark) :
    parseLine raw line conversation = .ok (.dialogue { text := .text raw, line }) := by
  unfold parseLine
  split
  · next c body hraw =>
    rw [hraw] at h
    rw [if_neg (by simpa using h)]
  · rfl

/-- Command lines are read exactly, in every line and every conversation.

* What starts with the mark has exactly one word and one row of tokens.
* Its word is said to be unknown exactly if it is no keyword, without regard to case and to blanks
  around it. Otherwise the line is the command with the values that `bind` finds for the tokens, or
  fails as `bind` does.
* `bind` reads each token by the parameter at its place, none more and none less, and then adds the
  values of what was left out. A text parameter is the token as it stands, unless it is `nil`.
* A command without tokens is not the command with one empty token.
* Everything else is dialogue with the line as its text. -/
theorem commandLine_exact (line conversation : Value) :
    (∀ raw : String, raw.toList.head? = some commandMark →
      ∃! written : String × List String, Written written.1 written.2 raw) ∧
    (∀ word tokens raw, Written word tokens raw →
      (parseLine raw line conversation = .error ⟨.unknownCommand word, line, conversation⟩ ↔
        ∀ kind : CommandKind, kind.keyword ≠ Text.lower (Text.strip word)) ∧
      ∀ kind : CommandKind, kind.keyword = Text.lower (Text.strip word) →
        parseLine raw line conversation =
          (bind kind tokens line conversation).map fun args => .command { kind, args, line }) ∧
    (∀ kind tokens args, bind kind tokens line conversation = .ok args →
      ∃ given, args = given ++ defaultsAfter (Layout.of kind) tokens.length ∧
        given.length = tokens.length ∧ ∀ i token, tokens[i]? = some token → ∃ p v,
          (Layout.of kind).paramAt? i = some p ∧ given[i]? = some v ∧
          convert kind line p token = .ok v ∧
          (p.type = .text → v = if token = nilToken then .null else .text token)) ∧
    (∀ word raw raw', Written word [] raw → Written word [""] raw' →
      ∀ kind : CommandKind, kind.keyword = Text.lower (Text.strip word) →
        parseLine raw line conversation ≠ parseLine raw' line conversation) ∧
    ∀ raw : String, raw.toList.head? ≠ some commandMark →
      parseLine raw line conversation = .ok (.dialogue { text := .text raw, line }) := by
  have hknown : ∀ word tokens raw, Written word tokens raw → ∀ kind : CommandKind,
      kind.keyword = Text.lower (Text.strip word) → parseLine raw line conversation =
        (bind kind tokens line conversation).map fun args => .command { kind, args, line } := by
    intro word tokens raw h kind hkind
    rw [h.parseLine, CommandKind.lookup?_eq_some.2 hkind]
  refine ⟨fun raw hmark => ?_, fun word tokens raw h => ⟨h.parseLine_unknown, hknown _ _ _ h⟩,
    fun kind tokens args hargs => ?_, fun word raw raw' h h' kind hkind => ?_,
    fun raw h => parseLine_dialogue h⟩
  · obtain ⟨body, hbody⟩ := List.head?_eq_some_iff.1 hmark
    obtain ⟨word, tokens, h⟩ := exists_written hbody
    refine ⟨(word, tokens), h, fun written h' => ?_⟩
    obtain ⟨hword, htokens⟩ := h.unique h'
    exact Prod.ext hword htokens
  · obtain ⟨-, given, hsplit, hlength, hgiven⟩ := bind_eq_ok_iff.1 hargs
    refine ⟨given, hsplit, hlength, fun i token htoken => ?_⟩
    obtain ⟨p, v, hp, hv, hconvert⟩ := hgiven i token htoken
    exact ⟨p, v, hp, hv, hconvert, fun htext => convert_text htext hconvert⟩
  · rw [hknown _ _ _ h kind hkind, hknown _ _ _ h' kind hkind, bind_nil]
    exact fun heq => bind_empty_ne_bind_nil kind
      ((map_eq_error.1 heq.symm).trans (bind_nil kind).symm)

/-- A keyword is found in any case and between blanks, and the name of a speaker keeps its
blanks. -/
theorem commandLine_exact_setSpeaker :
    Written " SetSpeaker" [" Ann "] ". SetSpeaker: Ann " ∧
      parseLine ". SetSpeaker: Ann " (.int 7) (.text "start") =
        .ok (.command { kind := .setSpeaker, args := [.text " Ann "], line := .int 7 }) := by
  have hwritten : Written " SetSpeaker" [" Ann "] ". SetSpeaker: Ann " :=
    ⟨by decide, by decide, by decide⟩
  obtain ⟨-, hread⟩ := (commandLine_exact (.int 7) (.text "start")).2.1 _ _ _ hwritten
  refine ⟨hwritten, ?_⟩
  rw [hread .setSpeaker (by decide)]
  rfl

end VisualNovel.Script
