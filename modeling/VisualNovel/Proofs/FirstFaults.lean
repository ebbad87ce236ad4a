import VisualNovel.Proofs.Stores
import VisualNovel.Proofs.Tokens

/-!
# The first fault of a document

A document compiles entry by entry. An entry that is `Readable` is a beat of its own position, or
none if it is blank, whatever stands around it (`beatOf`); the other entries are faulty
(`EntryFault`). So a document compiles exactly if it maps texts, one of them the start, to lists of
readable entries, and otherwise fails with the first of its faults in the order of the document
(`FirstFault`): `Script.compile_linewise`.

An error that an entry is to blame for carries the position of the entry. It also carries the name
of the conversation, unless it is about the value of a parameter, which is read without knowing of
conversations: `Script.entry_error_located`.
-/

namespace VisualNovel

open Script

/-! ## Reading one after the other -/

/-- One element is bad, and all elements before it are good. -/
def FirstOf {α : Type} (good bad : α → Prop) (xs : List α) : Prop :=
  ∃ before x after, xs = before ++ x :: after ∧ (∀ y ∈ before, good y) ∧ bad x

section
variable {α β ε : Type} {f : α → Except ε β} {good bad : α → Prop} {x : α} {xs : List α}

theorem firstOf_cons_of_good (h : good x) (hbad : ¬bad x) :
    FirstOf good bad (x :: xs) ↔ FirstOf good bad xs := by
  constructor
  · rintro ⟨before, y, after, hsplit, hgood, hy⟩
    cases before with
    | nil =>
      cases hsplit
      exact absurd hy hbad
    | cons z before =>
      cases hsplit
      exact ⟨before, y, after, rfl, fun w hw => hgood w (List.mem_cons_of_mem _ hw), hy⟩
  · rintro ⟨before, y, after, rfl, hgood, hy⟩
    exact ⟨x :: before, y, after, rfl, List.forall_mem_cons.2 ⟨h, hgood⟩, hy⟩

theorem firstOf_cons_of_not_good (h : ¬good x) : FirstOf good bad (x :: xs) ↔ bad x := by
  constructor
  · rintro ⟨before, y, after, hsplit, hgood, hy⟩
    cases before with
    | nil =>
      cases hsplit
      exact hy
    | cons z before =>
      cases hsplit
      exact absurd (hgood x List.mem_cons_self) h
  · exact fun hx => ⟨[], x, xs, rfl, nofun, hx⟩

/-- If each good element is read as what belongs to it, a list of good elements is read as what
belongs to its elements, one by one. -/
theorem mapM_eq_ok_iff {g : α → β} (h : ∀ x y, f x = .ok y ↔ good x ∧ y = g x) {ys : List β} :
    xs.mapM f = .ok ys ↔ (∀ x ∈ xs, good x) ∧ ys = xs.map g := by
  induction xs generalizing ys with
  | nil => simp [pure, Except.pure, eq_comm]
  | cons x xs ih =>
    simp only [List.mapM_cons, bind_eq_ok, ih, h, List.forall_mem_cons, List.map_cons]
    constructor
    · rintro ⟨y, ⟨hx, rfl⟩, zs, ⟨hxs, rfl⟩, hys⟩
      cases hys
      exact ⟨⟨hx, hxs⟩, rfl⟩
    · rintro ⟨⟨hx, hxs⟩, rfl⟩
      exact ⟨_, ⟨hx, rfl⟩, _, ⟨hxs, rfl⟩, rfl⟩

/-- What stops the reading of a list is what stops the first element that cannot be read. -/
theorem mapM_eq_error_iff {e : ε} :
    xs.mapM f = .error e ↔ FirstOf (fun x => ∃ y, f x = .ok y) (fun x => f x = .error e) xs := by
  induction xs with
  | nil => simp [FirstOf, pure, Except.pure]
  | cons x xs ih =>
    rw [List.mapM_cons]
    cases hx : f x with
    | error e' =>
      rw [firstOf_cons_of_not_good (by simp [hx]), hx]
      exact ⟨fun h => congrArg _ (Except.error.inj h), fun h => congrArg _ (Except.error.inj h)⟩
    | ok y =>
      rw [firstOf_cons_of_good ⟨y, hx⟩ (by simp [hx]), ← ih]
      cases xs.mapM f with
      | error e' => exact Iff.rfl
      | ok ys => exact iff_of_false nofun nofun

end

namespace Script

/-! ## Lines know their places -/

/-- The error as it is reported of a line of a conversation. An error about the value of a parameter
does not know of conversations. -/
def StoryError.located (line conversation : Value) (e : StoryError) : StoryError :=
  { e with line, context := if e.cause.category = .parameter then .null else conversation }

/-- The beat in a line. -/
def Beat.inLine (line : Value) : Beat → Beat
  | .dialogue d => .dialogue { d with line }
  | .command c => .command { c with line }

/-- The line that a beat knows. -/
def Beat.line : Beat → Value
  | .dialogue d => d.line
  | .command c => c.line

section
variable (line conversation : Value)

theorem convert_located (kind : CommandKind) (p : Param) (raw : String) :
    convert kind line p raw =
      (convert kind (.int 0) p raw).mapError (StoryError.located line conversation) := by
  unfold convert
  dsimp only
  split
  · split <;> rfl
  · split
    · rfl
    all_goals split <;> rfl

theorem convertFrom_located (kind : CommandKind) (l : Layout) (index : Nat)
    (raws : List String) :
    convertFrom kind line l index raws =
      (convertFrom kind (.int 0) l index raws).mapError
        (StoryError.located line conversation) := by
  induction raws generalizing index with
  | nil => rfl
  | cons raw rest ih =>
    unfold convertFrom
    rw [convert_located line conversation, ih]
    cases convert kind (.int 0) ((l.paramAt? index).getD default) raw with
    | error e => rfl
    | ok v => cases convertFrom kind (.int 0) l (index + 1) rest <;> rfl

theorem bind_located (kind : CommandKind) (raws : List String) :
    bind kind raws line conversation =
      (bind kind raws).mapError (StoryError.located line conversation) := by
  cases haccepts : (Layout.of kind).accepts raws.length with
  | false =>
    rw [bind_of_not_accepts haccepts, bind_of_not_accepts haccepts]
    rfl
  | true =>
    rw [bind_of_accepts haccepts, bind_of_accepts haccepts,
      convertFrom_located line conversation]
    cases convertFrom kind (.int 0) (Layout.of kind) 0 raws <;> rfl

/-- A line is read alike wherever it stands; only the beat or the error knows where. -/
theorem parseLine_located (raw : String) :
    parseLine raw line conversation =
      ((parseLine raw).mapError (StoryError.located line conversation)).map
        (Beat.inLine line) := by
  unfold parseLine
  split
  · split
    · unfold parseCommand
      split
      · rfl
      · split
        · rfl
        · rw [bind_located line conversation]
          cases bind _ _ <;> rfl
    · rfl
  · rfl

theorem parseLine_error_located {line conversation : Value} {raw : String} {e : StoryError}
    (h : parseLine raw line conversation = .error e) : e.line = line ∧
      e.context = if e.cause.category = .parameter then .null else conversation := by
  rw [parseLine_located] at h
  cases hread : parseLine raw with
  | error e' =>
    rw [hread] at h
    cases h
    exact ⟨rfl, rfl⟩
  | ok b =>
    rw [hread] at h
    cases h

end

/-! ## Entries -/

/-- What an entry of a conversation can be: a blank line, a line that can be read, or a record with
a text, whose speaker, if it has one, can be written as a text. -/
inductive Readable : Value → Prop where
  | blank {s : String} (h : Text.allBlank s) : Readable (.text s)
  | line {s : String} {beat : Beat} (h : parseLine s = .ok beat) : Readable (.text s)
  | record {fs : Fields} (htext : (Fields.get "text" fs).IsText)
      (hspeaker : (Fields.get "speaker" fs).hasText) : Readable (.record fs)

/-- What is wrong with an entry at a position of a conversation. -/
inductive EntryFault (conversation : String) (position : Int) : Value → Fault → Prop where
  | notText {v : Value} (htext : ¬v.IsText) (hrecord : ∀ fs, v ≠ .record fs) :
    EntryFault conversation position v
      (.story ⟨.notText v.kindName, .int position, .text conversation⟩)
  | noText {fs : Fields} (htext : ¬(Fields.get "text" fs).IsText) :
    EntryFault conversation position (.record fs)
      (.story ⟨.noText, .int position, .text conversation⟩)
  | unwritable {fs : Fields} {m : Mishap} (htext : (Fields.get "text" fs).IsText)
      (hspeaker : (Fields.get "speaker" fs).display = .error m) :
    EntryFault conversation position (.record fs) (.mishap m)
  | line {s : String} {e : StoryError} (hblank : ¬Text.allBlank s)
      (h : parseLine s (.int position) (.text conversation) = .error e) :
    EntryFault conversation position (.text s) (.story e)

/-- The beat of a readable entry at a position, if the entry is not blank: what its line is read as
where it stands alone, or its text with its speaker. -/
def beatOf (script : Value) (conversation : String) (position : Int) : Value → Option Beat
  | .text s =>
    if Text.allBlank s then none
    else (parseLine s).toOption.map fun beat =>
      placedBeat script.shown conversation position (beat.inLine (.int position))
  | .record fs =>
    let speaker := match Fields.get "speaker" fs with
      | .null => .null
      | v => .text v.shown
    some (.dialogue { text := Fields.get "text" fs, speaker, line := .int position })
  | _ => none

theorem beatOf_of_unnamed {fs : Fields} (h : Fields.get "speaker" fs = .null) :
    beatOf script conversation position (.record fs) =
      some (.dialogue { text := Fields.get "text" fs, line := .int position }) := by
  simp only [beatOf, h]

theorem beatOf_of_named {fs : Fields} (h : Fields.get "speaker" fs ≠ .null) :
    beatOf script conversation position (.record fs) =
      some (.dialogue
        { text := Fields.get "text" fs
          speaker := .text (Fields.get "speaker" fs).shown
          line := .int position }) := by
  simp only [beatOf]

/-- The beats of the entries of a conversation, each at its position from 1 on. -/
def beatsOf (script : Value) (conversation : String) (entries : List Value) : List Beat :=
  (entries.zipIdx 1).filterMap fun e => beatOf script conversation e.2 e.1

variable {script entry : Value} {conversation : String} {position : Int}

/-- An entry is read exactly if it is readable, and then as the beat of its own. -/
theorem parseEntry_eq_ok_iff {b : Option Beat} :
    parseEntry script entry position conversation = .ok b ↔
      Readable entry ∧ b = beatOf script conversation position entry := by
  cases entry with
  | text s =>
    simp only [parseEntry, beatOf]
    split
    · next hblank =>
      simp only [Except.ok.injEq, eq_comm (a := none)]
      exact (and_iff_right (.blank hblank)).symm
    · next hblank =>
      rw [parseLine_located]
      cases hline : parseLine s with
      | ok beat =>
        simp only [mapError_ok, Except.map, Except.toOption, Option.map_some, Except.ok.injEq,
          eq_comm (a := some _)]
        exact (and_iff_right (.line hline)).symm
      | error e =>
        refine iff_of_false (fun hok => by cases hok) ?_
        rintro ⟨hreadable, -⟩
        cases hreadable with
        | blank h => exact hblank h
        | line h => cases h.symm.trans hline
  | record fs =>
    simp only [parseEntry]
    split
    · next s htext =>
      split
      · next hnull =>
        have hspeaker : (Fields.get "speaker" fs).hasText := by
          rw [hnull]
          rfl
        rw [beatOf_of_unnamed hnull]
        simp only [htext, Except.ok.injEq, eq_comm (a := some _)]
        exact (and_iff_right (Readable.record ⟨s, htext⟩ hspeaker)).symm
      · next v hv =>
        rw [beatOf_of_named hv]
        unfold Value.display
        rw [htext]
        split
        · next shown hshown =>
          split at hshown
          · next hspeaker =>
            cases hshown
            simp only [Except.ok.injEq, eq_comm (a := some _)]
            exact (and_iff_right (Readable.record ⟨s, htext⟩ hspeaker)).symm
          · cases hshown
        · next hshown =>
          split at hshown
          · cases hshown
          · next hspeaker =>
            refine iff_of_false (fun hok => by cases hok) ?_
            rintro ⟨hreadable, -⟩
            cases hreadable with
            | record _ h => exact hspeaker h
    · next htext =>
      refine iff_of_false (fun hok => by cases hok) ?_
      rintro ⟨hreadable, -⟩
      cases hreadable with
      | record h _ => exact h.elim htext
  | _ =>
    refine iff_of_false (fun hok => by cases hok) ?_
    rintro ⟨hreadable, -⟩
    cases hreadable

theorem exists_parseEntry_ok_iff :
    (∃ b, parseEntry script entry position conversation = .ok b) ↔ Readable entry := by
  simp [parseEntry_eq_ok_iff]

/-- An entry that cannot be read is reported with what is wrong with it. -/
theorem parseEntry_eq_error_iff {f : Fault} :
    parseEntry script entry position conversation = .error f ↔
      EntryFault conversation position entry f := by
  constructor
  · intro h
    cases entry with
    | text s =>
      simp only [parseEntry] at h
      split at h
      · cases h
      · next hblank =>
        split at h
        · cases h
        · next e he =>
          cases h
          exact .line hblank he
    | record fs =>
      simp only [parseEntry] at h
      split at h
      · next s hs =>
        split at h
        · cases h
        · split at h
          · cases h
          · next m hm =>
            cases h
            exact .unwritable ⟨s, hs⟩ hm
      · next hs =>
        cases h
        refine .noText ?_
        rintro ⟨s, h⟩
        exact hs s h
    | _ =>
      cases h
      exact .notText (by rintro ⟨s, hs⟩; cases hs) (by simp)
  · intro h
    cases h with
    | notText htext hrecord =>
      cases entry with
      | text s => exact absurd ⟨s, rfl⟩ htext
      | record fs => exact absurd rfl (hrecord fs)
      | _ => rfl
    | noText htext =>
      simp only [parseEntry]
      split
      · next s hs => exact absurd ⟨s, hs⟩ htext
      · rfl
    | unwritable htext hspeaker =>
      obtain ⟨s, hs⟩ := htext
      simp only [parseEntry, hs]
      split
      · next hnull =>
        rw [hnull] at hspeaker
        cases hspeaker
      · rw [hspeaker]
    | line hblank hline => simp [parseEntry, hblank, hline]

/-- A readable entry has no beat exactly if it is blank. -/
theorem beatOf_eq_none_iff (h : Readable entry) :
    beatOf script conversation position entry = none ↔ ∃ s, entry = .text s ∧ Text.allBlank s := by
  cases h with
  | blank hblank => simp [beatOf, hblank]
  | line hline => simp [beatOf, hline, Except.toOption]
  | record htext hspeaker => simp [beatOf]

/-- A beat knows the position of its entry. -/
theorem beatOf_line {beat : Beat} (h : beatOf script conversation position entry = some beat) :
    beat.line = .int position := by
  cases entry with
  | text s =>
    simp only [beatOf] at h
    split at h
    · cases h
    · obtain ⟨b, -, rfl⟩ := Option.map_eq_some_iff.1 h
      cases b <;> rfl
  | record fs =>
    cases h
    rfl
  | _ => cases h

/-- An error of an entry carries its position. It carries the name of the conversation unless it is
about the value of a parameter. -/
theorem EntryFault.located {e : StoryError}
    (h : EntryFault conversation position entry (.story e)) :
    e.line = .int position ∧
      e.context = if e.cause.category = .parameter then .null else .text conversation := by
  cases h with
  | notText htext hrecord => exact ⟨rfl, rfl⟩
  | noText htext => exact ⟨rfl, rfl⟩
  | line hblank hline => exact parseLine_error_located hline

/-! ## Conversations -/

theorem forall_mem_zipIdx {p : Value → Prop} {entries : List Value} {k : Nat} :
    (∀ e ∈ entries.zipIdx k, p e.1) ↔ ∀ entry ∈ entries, p entry := by
  have hfirst := List.forall_mem_map (f := Prod.fst) (l := entries.zipIdx k) (P := p)
  rw [List.zipIdx_map_fst] at hfirst
  exact hfirst.symm

/-- Entries are read one by one, each with its position. -/
theorem parseEntries_eq_mapM (entries : List Value) (k : Nat) :
    parseEntries script conversation k entries =
      ((entries.zipIdx k).mapM fun e => parseEntry script e.1 e.2 conversation).map
        (List.flatMap Option.toList) := by
  induction entries generalizing k with
  | nil => rfl
  | cons entry rest ih =>
    rw [parseEntries, List.zipIdx_cons, List.mapM_cons, ← Int.natCast_succ, ih]
    dsimp only
    cases parseEntry script entry k conversation with
    | error f => rfl
    | ok b =>
      cases (rest.zipIdx (k + 1)).mapM fun e => parseEntry script e.1 e.2 conversation <;> rfl

/-- The entries of a conversation are read exactly if all of them are readable, and then as the
beats of their own. -/
theorem parseEntries_eq_ok_iff {entries : List Value} {beats : List Beat} :
    parseEntries script conversation 1 entries = .ok beats ↔
      (∀ entry ∈ entries, Readable entry) ∧ beats = beatsOf script conversation entries := by
  have hone : (1 : Int) = (1 : Nat) := rfl
  have hentries : ∀ bs,
      (entries.zipIdx 1).mapM (fun e => parseEntry script e.1 e.2 conversation) = .ok bs ↔
        (∀ e ∈ entries.zipIdx 1, Readable e.1) ∧
        bs = (entries.zipIdx 1).map fun e => beatOf script conversation e.2 e.1 :=
    fun _ => mapM_eq_ok_iff fun _ _ => parseEntry_eq_ok_iff
  rw [hone, parseEntries_eq_mapM, beatsOf, List.filterMap_eq_flatMap_toList, ← List.flatMap_map]
  simp only [forall_mem_zipIdx] at hentries
  cases hread : (entries.zipIdx 1).mapM fun e => parseEntry script e.1 e.2 conversation with
  | error f =>
    refine iff_of_false nofun ?_
    rintro ⟨hreadable, -⟩
    rw [(hentries _).2 ⟨hreadable, rfl⟩] at hread
    cases hread
  | ok bs =>
    obtain ⟨hreadable, rfl⟩ := (hentries bs).1 hread
    simp only [Except.map, Except.ok.injEq, eq_comm (b := beats)]
    exact (and_iff_right hreadable).symm

/-- The reading of a conversation stops at its first entry that is not readable. -/
theorem parseEntries_eq_error_iff {entries : List Value} {f : Fault} :
    parseEntries script conversation 1 entries = .error f ↔
      FirstOf (fun e => Readable e.1) (fun e => EntryFault conversation e.2 e.1 f)
        (entries.zipIdx 1) := by
  have hone : (1 : Int) = (1 : Nat) := rfl
  rw [hone, parseEntries_eq_mapM, map_eq_error, mapM_eq_error_iff]
  simp only [exists_parseEntry_ok_iff, parseEntry_eq_error_iff]

/-- A conversation that can be compiled: a text and a list of readable entries. -/
def Sound (c : Value × Value) : Prop :=
  ∃ conversation entries, c = (.text conversation, .list entries) ∧
    ∀ entry ∈ entries, Readable entry

/-- What is wrong with a conversation. -/
inductive ConversationFault (script : Value) : Value × Value → Fault → Prop where
  | nameNotText {key lines : Value} {quoted : String} (hkey : ¬key.IsText)
      (hquoted : key.displayQuoted = .ok quoted) :
    ConversationFault script (key, lines)
      (.story { cause := .nameNotText quoted, context := contextOf script })
  | unwritable {key lines : Value} {m : Mishap} (hkey : ¬key.IsText)
      (hquoted : key.displayQuoted = .error m) :
    ConversationFault script (key, lines) (.mishap m)
  | notLines {conversation : String} {lines : Value} (hlines : ∀ entries, lines ≠ .list entries) :
    ConversationFault script (.text conversation, lines)
      (.story { cause := .notLines conversation, context := contextOf script })
  | entry {conversation : String} {entries : List Value} {f : Fault}
      (h : FirstOf (fun e => Readable e.1) (fun e => EntryFault conversation e.2 e.1 f)
        (entries.zipIdx 1)) :
    ConversationFault script (.text conversation, .list entries) f

theorem parseConversation_eq_ok_iff {key lines : Value} {c : String × Array Beat} :
    parseConversation script key lines = .ok c ↔ ∃ conversation entries,
      key = .text conversation ∧ lines = .list entries ∧ (∀ entry ∈ entries, Readable entry) ∧
      c = (conversation, (beatsOf script conversation entries).toArray) := by
  constructor
  · intro h
    simp only [parseConversation] at h
    split at h
    · next conversation =>
      split at h
      · next entries =>
        obtain ⟨beats, hbeats, h⟩ := bind_eq_ok.1 h
        obtain ⟨hreadable, rfl⟩ := parseEntries_eq_ok_iff.1 hbeats
        cases h
        exact ⟨conversation, entries, rfl, rfl, hreadable, rfl⟩
      · cases h
    · split at h <;> cases h
  · rintro ⟨conversation, entries, rfl, rfl, hreadable, rfl⟩
    simp only [parseConversation, parseEntries_eq_ok_iff.2 ⟨hreadable, rfl⟩]
    rfl

theorem parseConversation_eq_error_iff {key lines : Value} {f : Fault} :
    parseConversation script key lines = .error f ↔ ConversationFault script (key, lines) f := by
  constructor
  · intro h
    simp only [parseConversation] at h
    split at h
    · next conversation =>
      split at h
      · next entries =>
        exact .entry (parseEntries_eq_error_iff.1 (map_eq_error.1 h))
      · next hlines =>
        cases h
        exact .notLines hlines
    · next hkey =>
      have hkey : ¬key.IsText := by
        rintro ⟨s, hs⟩
        exact hkey s hs
      split at h
      · next quoted hquoted =>
        cases h
        exact .nameNotText hkey hquoted
      · next m hquoted =>
        cases h
        exact .unwritable hkey hquoted
  · intro h
    cases h with
    | nameNotText hkey hquoted =>
      simp only [parseConversation]
      split
      · next s => exact absurd ⟨s, rfl⟩ hkey
      · rw [hquoted]
    | unwritable hkey hquoted =>
      simp only [parseConversation]
      split
      · next s => exact absurd ⟨s, rfl⟩ hkey
      · rw [hquoted]
    | notLines hlines => simp only [parseConversation]
    | entry h => exact map_eq_error.2 (parseEntries_eq_error_iff.2 h)

theorem exists_parseConversation_ok_iff {c : Value × Value} :
    (∃ r, parseConversation script c.1 c.2 = .ok r) ↔ Sound c := by
  simp only [parseConversation_eq_ok_iff]
  constructor
  · rintro ⟨r, conversation, entries, hkey, hlines, hreadable, -⟩
    exact ⟨conversation, entries, Prod.ext hkey hlines, hreadable⟩
  · rintro ⟨conversation, entries, rfl, hreadable⟩
    exact ⟨_, conversation, entries, rfl, rfl, hreadable, rfl⟩

/-! ## Documents -/

/-- The document with the entries of some conversations. -/
def documentOf (conversations : Table String (List Value)) : Value :=
  .record (conversations.map fun c => (.text c.1, .list c.2))

/-- The conversations as they are compiled. -/
def compiledFrom (script : Value) (conversations : Table String (List Value)) :
    Table String (Array Beat) :=
  conversations.map fun c => (c.1, (beatsOf script c.1 c.2).toArray)

theorem parseConversations_eq_mapM (cs : List (Value × Value)) :
    parseConversations script cs = cs.mapM fun c => parseConversation script c.1 c.2 := by
  induction cs with
  | nil => rfl
  | cons c rest ih =>
    obtain ⟨key, lines⟩ := c
    rw [parseConversations, List.mapM_cons, ih]

theorem parseConversations_eq_ok_iff {cs : List (Value × Value)}
    {table : List (String × Array Beat)} :
    parseConversations script cs = .ok table ↔ ∃ conversations : Table String (List Value),
      Value.record cs = documentOf conversations ∧
      (∀ c ∈ conversations, ∀ entry ∈ c.2, Readable entry) ∧
      table = compiledFrom script conversations := by
  induction cs generalizing table with
  | nil =>
    constructor
    · intro h
      cases h
      exact ⟨[], rfl, nofun, rfl⟩
    · rintro ⟨conversations, hdocument, -, rfl⟩
      cases conversations with
      | nil => rfl
      | cons c rest => cases hdocument
  | cons c rest ih =>
    obtain ⟨key, lines⟩ := c
    simp only [parseConversations, bind_eq_ok, parseConversation_eq_ok_iff, ih]
    constructor
    · rintro ⟨c, ⟨conversation, entries, rfl, rfl, hreadable, rfl⟩, cs, ⟨others, hrest, hothers,
        rfl⟩, htable⟩
      cases htable
      refine ⟨(conversation, entries) :: others, ?_, List.forall_mem_cons.2 ⟨hreadable, hothers⟩,
        rfl⟩
      injection hrest with hrest
      rw [documentOf, List.map_cons, hrest]
    · rintro ⟨conversations, hdocument, hreadable, rfl⟩
      cases conversations with
      | nil => cases hdocument
      | cons c others =>
        cases hdocument
        obtain ⟨hfirst, hothers⟩ := List.forall_mem_cons.1 hreadable
        exact ⟨_, ⟨c.1, c.2, rfl, rfl, hfirst, rfl⟩, _, ⟨others, rfl, hothers, rfl⟩, rfl⟩

/-- What is wrong with a document: it is no record, or else its first conversation that cannot be
compiled, or else, when there is none, that it has no start. -/
inductive FirstFault (script : Value) : Value → Fault → Prop where
  | rootNotMapping {document : Value} (h : ∀ cs, document ≠ .record cs) :
    FirstFault script document
      (.story { cause := .rootNotMapping, context := contextOf script })
  | conversation {cs : List (Value × Value)} {f : Fault}
      (h : FirstOf Sound (fun c => ConversationFault script c f) cs) :
    FirstFault script (.record cs) f
  | noStart {cs : List (Value × Value)} (hsound : ∀ c ∈ cs, Sound c)
      (hstart : ∀ c ∈ cs, c.1 ≠ .text startConversation) :
    FirstFault script (.record cs) (.story { cause := .noStart, context := contextOf script })

theorem mem_keys_merge {κ α : Type} [BEq κ] [LawfulBEq κ] {k : κ} {t : Table κ α}
    {u : List (κ × α)} :
    k ∈ Table.keys (Table.merge t u) ↔ k ∈ Table.keys t ∨ ∃ e ∈ u, e.1 = k := by
  induction u generalizing t with
  | nil => simp [Table.merge]
  | cons e u ih =>
    have hput : k ∈ Table.keys (Table.put e.1 e.2 t) ↔ k ∈ Table.keys t ∨ e.1 = k := by
      rw [Table.mem_keys_iff, Table.get?_put, Table.mem_keys_iff]
      by_cases hk : e.1 = k <;> simp [hk]
    rw [Table.merge, List.foldl_cons]
    refine ih.trans ?_
    rw [hput, or_assoc]
    simp

/-- A script has the conversations of its document. -/
theorem has_compiledFrom {key : String} {conversations : Table String (List Value)} :
    Table.has key (Table.ofEntries (compiledFrom script conversations)) ↔
      ∃ c ∈ conversations, c.1 = key := by
  rw [Table.has, ← Table.mem_keys_iff, Table.ofEntries, mem_keys_merge]
  simp [Table.keys, compiledFrom]

/-- A document compiles exactly if it is made of readable entries and has a start. -/
theorem compile_eq_ok_iff {document name : Value} {s : VisualNovel.Script} :
    compile document name = .ok s ↔ ∃ conversations : Table String (List Value),
      document = documentOf conversations ∧
      (∀ c ∈ conversations, ∀ entry ∈ c.2, Readable entry) ∧
      (∃ c ∈ conversations, c.1 = startConversation) ∧
      s = { name, conversations := Table.ofEntries (compiledFrom name conversations) } := by
  constructor
  · intro h
    unfold compile at h
    split at h
    · next cs =>
      obtain ⟨table, htable, h⟩ := bind_eq_ok.1 h
      obtain ⟨conversations, hdocument, hreadable, rfl⟩ := parseConversations_eq_ok_iff.1 htable
      dsimp only at h
      split at h
      · next hstart =>
        cases h
        exact ⟨conversations, hdocument, hreadable, has_compiledFrom.1 hstart, rfl⟩
      · cases h
    · cases h
  · rintro ⟨conversations, rfl, hreadable, hstart, rfl⟩
    rw [documentOf, compile, parseConversations_eq_ok_iff.2 ⟨conversations, rfl, hreadable, rfl⟩]
    exact if_pos (has_compiledFrom.2 hstart)

/-- A document that does not compile fails with its first fault. -/
theorem compile_eq_error_iff {document name : Value} {f : Fault} :
    compile document name = .error f ↔ FirstFault name document f := by
  have hfirst : ∀ cs f, parseConversations name cs = .error f ↔
      FirstOf Sound (fun c => ConversationFault name c f) cs := by
    intro cs f
    rw [parseConversations_eq_mapM, mapM_eq_error_iff]
    simp only [exists_parseConversation_ok_iff, parseConversation_eq_error_iff]
  constructor
  · intro h
    unfold compile at h
    split at h
    · next cs =>
      cases hread : parseConversations name cs with
      | error f' =>
        rw [hread] at h
        cases h
        exact .conversation ((hfirst cs f).1 hread)
      | ok table =>
        obtain ⟨conversations, hdocument, hreadable, rfl⟩ := parseConversations_eq_ok_iff.1 hread
        cases hdocument
        rw [hread] at h
        change (if _ then _ else _) = _ at h
        split at h
        · cases h
        · next hstart =>
          cases h
          refine .noStart ?_ ?_
          · intro c hc
            obtain ⟨c', hc', rfl⟩ := List.mem_map.1 hc
            exact ⟨c'.1, c'.2, rfl, hreadable c' hc'⟩
          · intro c hc hkey
            obtain ⟨c', hc', rfl⟩ := List.mem_map.1 hc
            exact hstart (has_compiledFrom.2 ⟨c', hc', Value.text.inj hkey⟩)
    · next hroot =>
      cases h
      exact .rootNotMapping hroot
  · intro h
    cases h with
    | rootNotMapping hroot =>
      unfold compile
      split
      · next cs => exact absurd rfl (hroot cs)
      · rfl
    | conversation hbad =>
      rw [compile, (hfirst _ _).2 hbad]
      rfl
    | @noStart cs hsound hstart =>
      have hread : ∃ table, parseConversations name cs = .ok table := by
        cases hread : parseConversations name cs with
        | ok table => exact ⟨table, rfl⟩
        | error f =>
          obtain ⟨before, c, after, rfl, -, hc⟩ := (hfirst cs f).1 hread
          have hread : ∃ r, parseConversation name c.1 c.2 = .ok r :=
            exists_parseConversation_ok_iff.2 (hsound c (by simp))
          obtain ⟨r, hr⟩ := hread
          rw [parseConversation_eq_error_iff.2 hc] at hr
          cases hr
      obtain ⟨table, htable⟩ := hread
      obtain ⟨conversations, hdocument, -, rfl⟩ := parseConversations_eq_ok_iff.1 htable
      cases hdocument
      rw [compile, htable]
      refine if_neg fun hhas => ?_
      obtain ⟨c, hc, hkey⟩ := has_compiledFrom.1 hhas
      exact hstart _ (List.mem_map_of_mem hc) (congrArg Value.text hkey)

/-- Conversations with names of their own are all compiled, in the order of the document. -/
theorem ofEntries_compiledFrom {conversations : Table String (List Value)}
    (h : Table.Distinct conversations) :
    Table.ofEntries (compiledFrom script conversations) = compiledFrom script conversations :=
  Table.ofEntries_of_distinct (List.Pairwise.map _ (fun _ _ hne => hne) h)

/-- A document is compiled entry by entry, and what is reported of it is its first fault.

* It compiles exactly if it is a record of lists under texts, one of them the start, and all entries
  are readable. Every conversation has then the beats of its own entries, in their order, and
  conversations with names of their own keep their order too.
* A readable entry has no beat exactly if it is blank. Every beat knows the position of its entry.
* It fails with an error exactly if this is its first fault: a fault of its first conversation that
  is not sound, at the first entry that is not readable, and a missing start only if all is sound.
* An error of an entry carries the position of the entry. -/
theorem compile_linewise (document name : Value) :
    (∀ s : VisualNovel.Script, compile document name = .ok s ↔
      ∃ conversations : Table String (List Value), document = documentOf conversations ∧
        (∀ c ∈ conversations, ∀ entry ∈ c.2, Readable entry) ∧
        (∃ c ∈ conversations, c.1 = startConversation) ∧
        s = { name, conversations := Table.ofEntries (compiledFrom name conversations) }) ∧
    (∀ conversations : Table String (List Value), Table.Distinct conversations →
      Table.ofEntries (compiledFrom name conversations) = compiledFrom name conversations) ∧
    (∀ conversation position entry, Readable entry →
      (beatOf name conversation position entry = none ↔
        ∃ s, entry = .text s ∧ Text.allBlank s) ∧
      ∀ beat, beatOf name conversation position entry = some beat → beat.line = .int position) ∧
    (∀ f, compile document name = .error f ↔ FirstFault name document f) ∧
    ∀ conversation position entry e, EntryFault conversation position entry (.story e) →
      e.line = .int position :=
  ⟨fun _ => compile_eq_ok_iff, fun _ h => ofEntries_compiledFrom h,
    fun _ _ _ h => ⟨beatOf_eq_none_iff h, fun _ hbeat => beatOf_line hbeat⟩,
    fun _ => compile_eq_error_iff, fun _ _ _ _ h => h.located.1⟩

/-- An unknown command is reported rather than a later line that is no text, and rather than a
missing start. -/
theorem compile_linewise_dance :
    compile (.record [(.text "shop", .list [.text "", .text ".dance", .int 42])]) (.text "story") =
      .error (.story ⟨.unknownCommand "dance", .int 2, .text "shop"⟩) := by
  refine ((compile_linewise _ _).2.2.2.1 _).2 (.conversation ⟨[], _, [], rfl, nofun, .entry ?_⟩)
  refine ⟨[(.text "", 1)], (.text ".dance", 2), [(.int 42, 3)], rfl, ?_, .line (by decide) rfl⟩
  simpa using Readable.blank (by decide)

theorem unwritableInt {n : Nat} (h : Number.tenTo Number.maxDigits ≤ n) :
    Value.writableInt (.ofNat n) = false :=
  decide_eq_false (Nat.not_lt.2 h)

/-- A line whose speaker is a number with more digits than can be written. -/
def unwritableLine : Fields :=
  [(.text "text", .text "Hi"), (.text "speaker", .int (Number.tenTo Number.maxDigits))]

/-- A mapping with a text is not enough for a line: its speaker has to be written too. -/
theorem compile_unwritableLine :
    Fields.get "text" unwritableLine = .text "Hi" ∧
      compile (documentOf [(startConversation, [.record unwritableLine])]) =
        .error (.mishap .badValue) := by
  have hlong : Value.writableInt (.ofNat (Number.tenTo Number.maxDigits)) = false :=
    unwritableInt (Nat.le_refl _)
  have hdisplay : (Fields.get "speaker" unwritableLine).display = .error .badValue :=
    if_neg (Bool.eq_false_iff.1 hlong)
  refine ⟨rfl, compile_eq_error_iff.2 (.conversation ⟨[], _, [], rfl, nofun, .entry ?_⟩)⟩
  exact ⟨[], _, [], rfl, nofun, .unwritable ⟨"Hi", rfl⟩ hdisplay⟩

/-- An error of a document is about the document and carries no line, or it is about an entry of a
conversation and carries the position of the entry. It then carries the name of the conversation as
well, unless it is about the value of a parameter. -/
theorem entry_error_located {document name : Value} {e : StoryError}
    (h : compile document name = .error (.story e)) :
    (e.line = .null ∧ e.context = contextOf name) ∨
    ∃ cs conversation entries entry, ∃ position : Nat, document = .record cs ∧
      (.text conversation, .list entries) ∈ cs ∧ (entry, position) ∈ entries.zipIdx 1 ∧
      EntryFault conversation position entry (.story e) ∧ e.line = .int position ∧
      e.context = if e.cause.category = .parameter then .null else .text conversation := by
  cases compile_eq_error_iff.1 h with
  | rootNotMapping _ => exact .inl ⟨rfl, rfl⟩
  | noStart _ _ => exact .inl ⟨rfl, rfl⟩
  | @conversation cs _ hbad =>
    obtain ⟨before, c, after, rfl, -, hc⟩ := hbad
    cases hc with
    | nameNotText _ _ => exact .inl ⟨rfl, rfl⟩
    | notLines _ => exact .inl ⟨rfl, rfl⟩
    | @entry conversation entries _ hentry =>
      obtain ⟨good, ⟨entry, position⟩, rest, hsplit, -, hfault⟩ := hentry
      refine .inr ⟨_, conversation, entries, entry, position, rfl, by simp, ?_, hfault,
        hfault.located⟩
      simp [hsplit]

/-- A story with one command in its second conversation. -/
def shopWith (command : String) : Value :=
  documentOf [("start", [.text "Hello"]), ("shop", [.text "Welcome", .text command])]

/-- A command with too few parameters is reported with its conversation. -/
theorem entry_error_located_arity : ∃ e : StoryError,
    compile (shopWith ".setflag:gold") = .error (.story e) ∧
      e.line = .int 2 ∧ e.context = .text "shop" := by
  have hcompile : compile (shopWith ".setflag:gold") =
      .error (.story ⟨.arity "setflag" "2" 1, .int 2, .text "shop"⟩) := rfl
  obtain ⟨hline, -⟩ | ⟨cs, conversation, entries, entry, position, -, -, -, -, hline, hcontext⟩ :=
    entry_error_located hcompile
  · cases hline
  · exact ⟨_, hcompile, rfl, rfl⟩

/-- A parameter with a bad value is reported without its conversation, though other conversations
have a line with that number as well. -/
theorem shopWith_badValue : ∃ e : StoryError,
    compile (shopWith ".setflag:gold:lots") = .error (.story e) ∧
      EntryFault "shop" 2 (.text ".setflag:gold:lots") (.story e) ∧
      e.line = .int 2 ∧ e.context ≠ .text "shop" :=
  ⟨_, rfl, .line (by decide) rfl, rfl, nofun⟩

end Script

end VisualNovel
