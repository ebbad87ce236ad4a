import VisualNovel.Library
import VisualNovel.Proofs.Storable

/-!
# What a compiled script is made of

A parameter of a command line is read as the type that the layout of the command declares. So in a
compiled script every command has as many parameters as its layout says, each of its type, and every
line of dialogue is a text: `Script.compile_typed`. A library only gives out compiled scripts:
`Library.get_typed`.
-/

namespace VisualNovel

open Script

/-! ## Types of parameters -/

namespace Script

/-- Whether a value is of a type. -/
def ParamType.admits : ParamType → Value → Bool
  | .text, .text _ => true
  | .int, .int _ => true
  | .float, .float _ => true
  | .float, .nan _ => true
  | .bool, .bool _ => true
  | .flag, .flag _ => true
  | _, _ => false

/-- Whether a parameter may have a value. -/
def Param.admits (p : Param) : Value → Bool
  | .null => p.nullable
  | v => p.type.admits v

/-- Every parameter of the command is of the type that stands at its place in the layout. -/
def Command.Typed (cmd : Command) : Prop :=
  ∀ i v, cmd.args[i]? = some v → ∃ p, (Layout.of cmd.kind).paramAt? i = some p ∧ p.admits v

/-- A line of dialogue is a text, and a command has parameters of its types. -/
def Beat.Typed : Beat → Prop
  | .dialogue d => d.text.IsText
  | .command c => c.Typed

end Script

/-- Every beat of the script is well typed. -/
def Script.Typed (s : Script) : Prop :=
  ∀ e ∈ s.conversations, ∀ b ∈ e.2, b.Typed

/-- Every script that the library remembers is well typed. -/
def Library.Typed (l : Library) : Prop :=
  ∀ e ∈ l.compiled, e.2.Typed

namespace Script

theorem Param.admits_of_type {p : Param} {v : Value} (h : p.type.admits v) : p.admits v := by
  cases v with
  | null => cases ht : p.type <;> simp [ht, ParamType.admits] at h
  | _ => exact h

/-- A parameter that is not a flag has a plain value. -/
theorem Param.plain_of_admits {p : Param} {v : Value} (h : p.admits v) (hflag : p.type ≠ .flag) :
    v.plain := by
  cases v with
  | flag name =>
    simp only [Param.admits] at h
    cases ht : p.type <;> simp_all [ParamType.admits]
  | list items => cases ht : p.type <;> simp [Param.admits, ht, ParamType.admits] at h
  | record fs => cases ht : p.type <;> simp [Param.admits, ht, ParamType.admits] at h
  | _ => simp [Value.plain]

/-- A parameter that is a text and not `nil` has a text. -/
theorem Param.isText_of_admits {p : Param} {v : Value} (h : p.admits v) (htype : p.type = .text)
    (hnil : p.nullable = false) : v.IsText := by
  cases v with
  | text s => exact ⟨s, rfl⟩
  | null => simp [Param.admits, hnil] at h
  | _ => simp [Param.admits, htype, ParamType.admits] at h

/-! ## Binding gives values of the declared types -/

theorem convert_admits {kind : CommandKind} {line : Value} {p : Param} {raw : String} {v : Value}
    (h : convert kind line p raw = .ok v) : p.admits v := by
  simp only [convert] at h
  split at h
  · split at h
    · next hnil =>
      cases h
      exact hnil
    · cases h
  · refine Param.admits_of_type ?_
    split at h
    · next ht =>
      cases h
      simp [ht, ParamType.admits]
    · next ht =>
      split at h
      · cases h
        simp [ht, ParamType.admits]
      · cases h
    · next ht =>
      split at h
      · cases h
        rw [ht]
        unfold Value.ofFloat
        split <;> rfl
      · cases h
    · next ht =>
      split at h
      · cases h
        simp [ht, ParamType.admits]
      · cases h
    · next ht =>
      split at h
      · cases h
      · cases h
        simp [ht, ParamType.admits]

theorem convertFrom_admits {kind : CommandKind} {line : Value} {l : Layout} {index : Nat}
    {raws : List String} {args : List Value} (h : convertFrom kind line l index raws = .ok args) :
    args.length = raws.length ∧
      ∀ i v, args[i]? = some v → ((l.paramAt? (index + i)).getD default).admits v := by
  induction raws generalizing index args with
  | nil =>
    cases h
    exact ⟨rfl, fun i v hv => by simp at hv⟩
  | cons raw rest ih =>
    unfold convertFrom at h
    obtain ⟨v, hv, h⟩ := bind_eq_ok.1 h
    obtain ⟨vs, hrest, h⟩ := bind_eq_ok.1 h
    cases h
    obtain ⟨hlength, hadmits⟩ := ih hrest
    refine ⟨by simp [hlength], fun i w hw => ?_⟩
    cases i with
    | zero =>
      cases hw
      exact convert_admits hv
    | succ i =>
      rw [show index + (i + 1) = index + 1 + i by omega]
      exact hadmits i w (by simpa using hw)

/-- The parameters that may be left out stand at the end, and may have the values that they then
get. -/
def Layout.defaultsFit (l : Layout) : Bool :=
  (l.head.dropWhile Param.required).all fun p => p.admits (p.default?.getD .null)

theorem Layout.of_defaultsFit (kind : CommandKind) : (Layout.of kind).defaultsFit := by
  cases kind <;> rfl

/-- If all required parameters are given, those that are left out stand behind them. -/
theorem mem_dropWhile_required {ps : List Param} {given : Nat} {p : Param}
    (hgiven : (ps.filter Param.required).length ≤ given) (hp : p ∈ ps.drop given) :
    p ∈ ps.dropWhile Param.required := by
  induction ps generalizing given with
  | nil => simp at hp
  | cons a ps ih =>
    by_cases ha : a.required
    · cases given with
      | zero => simp [ha] at hgiven
      | succ given =>
        rw [List.dropWhile_cons_of_pos ha]
        refine ih ?_ (by simpa using hp)
        simpa [ha] using hgiven
    · rw [List.dropWhile_cons_of_neg ha]
      exact List.mem_of_mem_drop hp

theorem Layout.default_admits {l : Layout} (h : l.defaultsFit) {given : Nat}
    (hgiven : l.minCount ≤ given) :
    ∀ p ∈ l.head.drop given, p.admits (p.default?.getD .null) := by
  intro p hp
  have hrequired : (l.head.filter Param.required).length ≤ given := by
    unfold Layout.minCount at hgiven
    omega
  exact List.all_eq_true.1 h p (mem_dropWhile_required hrequired hp)

/-- A place that a number of parameters reaches has a parameter in the layout. -/
theorem Layout.paramAt?_isSome {l : Layout} {count i : Nat} (h : l.accepts count) (hi : i < count) :
    (l.paramAt? i).isSome := by
  unfold Layout.accepts at h
  unfold Layout.paramAt?
  split
  · next hhead => simp [hhead]
  · next hhead =>
    split at h
    · have := of_decide_eq_true h
      omega
    · next hrepeated =>
      have hpos : 0 < l.repeated.length := by
        rw [List.length_pos_iff]
        simpa using hrepeated
      simp [Nat.mod_lt _ hpos]

theorem bind_typed {kind : CommandKind} {raws : List String} {line context : Value}
    {args : List Value} (h : bind kind raws line context = .ok args) :
    Command.Typed { kind, args, line } := by
  simp only [bind] at h
  split at h
  · cases h
  next hcount =>
  have haccepts : (Layout.of kind).accepts raws.length := by simpa using hcount
  obtain ⟨given, hgiven, h⟩ := bind_eq_ok.1 h
  cases h
  obtain ⟨hlength, hadmits⟩ := convertFrom_admits hgiven
  intro i v hv
  by_cases hi : i < given.length
  · -- The parameter was given.
    rw [List.getElem?_append_left hi] at hv
    obtain ⟨p, hp⟩ := Option.isSome_iff_exists.1 (Layout.paramAt?_isSome haccepts (hlength ▸ hi))
    have hv' := hadmits i v hv
    rw [Nat.zero_add, hp] at hv'
    exact ⟨p, hp, hv'⟩
  · -- The parameter was left out, so the layout is a fixed one.
    rw [List.getElem?_append_right (by omega)] at hv
    unfold defaultsAfter at hv
    split at hv
    · next hfixed =>
      unfold Layout.accepts at haccepts
      rw [if_pos hfixed] at haccepts
      have hmin := of_decide_eq_true haccepts
      rw [List.getElem?_map, Option.map_eq_some_iff] at hv
      obtain ⟨p, hp, rfl⟩ := hv
      rw [List.getElem?_drop] at hp
      have hmem : p ∈ (Layout.of kind).head.drop given.length := by
        refine List.mem_of_getElem? (i := i - given.length) ?_
        rw [List.getElem?_drop]
        exact hp
      have hplace : given.length + (i - given.length) = i := by omega
      rw [hplace] at hp
      have hhead : i < (Layout.of kind).head.length := (List.getElem?_eq_some_iff.1 hp).1
      refine ⟨p, by simpa [Layout.paramAt?, hhead] using hp, ?_⟩
      exact Layout.default_admits (Layout.of_defaultsFit kind) (by omega) p hmem
    · simp at hv

/-! ## Compiling gives typed scripts -/

theorem parseLine_typed {raw : String} {line conversation : Value} {beat : Beat}
    (h : parseLine raw line conversation = .ok beat) : beat.Typed := by
  unfold parseLine at h
  split at h
  · split at h
    · unfold parseCommand at h
      split at h
      · cases h
      · split at h
        · cases h
        · obtain ⟨args, hargs, h⟩ := bind_eq_ok.1 h
          cases h
          exact bind_typed hargs
    · cases h
      exact ⟨raw, rfl⟩
  · cases h
    exact ⟨raw, rfl⟩

theorem placedBeat_typed {script conversation : String} {line : Int} {beat : Beat}
    (h : beat.Typed) : (placedBeat script conversation line beat).Typed := by
  cases beat with
  | dialogue d => exact h
  | command c =>
    intro i v hv
    rw [List.getElem?_mapIdx, Option.map_eq_some_iff] at hv
    obtain ⟨w, hw, rfl⟩ := hv
    obtain ⟨p, hp, hadmits⟩ := h i w hw
    refine ⟨p, hp, ?_⟩
    cases w with
    | nan o => cases ht : p.type <;> simp_all [Param.admits, placed, ParamType.admits]
    | _ => exact hadmits

/-- Something that holds of every beat that an entry of a document gives. -/
structure Entailed (P : Beat → Prop) : Prop where
  line : ∀ {raw script conversation : String} {line : Int} {beat : Beat},
    parseLine raw (.int line) (.text conversation) = .ok beat →
    P (placedBeat script conversation line beat)
  said : ∀ (text : String) (speaker : Value) (line : Int),
    P (.dialogue { text := .text text, speaker, line := .int line })

theorem entailed_typed : Entailed Beat.Typed where
  line h := placedBeat_typed (parseLine_typed h)
  said text _ _ := ⟨text, rfl⟩

namespace Entailed

variable {P : Beat → Prop}

theorem parseEntry (hP : Entailed P) {script entry : Value} {line : Int} {conversation : String}
    {beat : Option Beat} (h : parseEntry script entry line conversation = .ok beat) :
    ∀ b ∈ beat, P b := by
  simp only [Script.parseEntry] at h
  split at h
  · split at h
    · next text _ =>
      split at h
      · cases h
        rintro b ⟨⟩
        exact hP.said text .null line
      · split at h
        · next speaker _ =>
          cases h
          rintro b ⟨⟩
          exact hP.said text (.text speaker) line
        · cases h
    · cases h
  · split at h
    · cases h
      rintro b ⟨⟩
    · split at h
      · next beat hbeat =>
        cases h
        rintro b ⟨⟩
        exact hP.line hbeat
      · cases h
  · cases h

theorem parseEntries (hP : Entailed P) {script : Value} {conversation : String} {position : Int}
    {entries : List Value} {beats : List Beat}
    (h : parseEntries script conversation position entries = .ok beats) : ∀ b ∈ beats, P b := by
  induction entries generalizing position beats with
  | nil =>
    cases h
    simp
  | cons entry rest ih =>
    unfold Script.parseEntries at h
    obtain ⟨beat, hbeat, h⟩ := bind_eq_ok.1 h
    obtain ⟨others, hothers, h⟩ := bind_eq_ok.1 h
    cases h
    intro b hb
    rcases List.mem_append.1 hb with hb | hb
    · exact hP.parseEntry hbeat b (by simpa using hb)
    · exact ih hothers b hb

theorem parseConversation (hP : Entailed P) {script key lines : Value} {c : String × Array Beat}
    (h : parseConversation script key lines = .ok c) : ∀ b ∈ c.2, P b := by
  simp only [Script.parseConversation] at h
  split at h
  · split at h
    · obtain ⟨beats, hbeats, h⟩ := bind_eq_ok.1 h
      cases h
      intro b hb
      exact hP.parseEntries hbeats b (by simpa using hb)
    · cases h
  · split at h <;> cases h

theorem parseConversations (hP : Entailed P) {script : Value} {entries : List (Value × Value)}
    {conversations : List (String × Array Beat)}
    (h : parseConversations script entries = .ok conversations) :
    ∀ c ∈ conversations, ∀ b ∈ c.2, P b := by
  induction entries generalizing conversations with
  | nil =>
    cases h
    simp
  | cons entry rest ih =>
    unfold Script.parseConversations at h
    obtain ⟨c, hc, h⟩ := bind_eq_ok.1 h
    obtain ⟨others, hothers, h⟩ := bind_eq_ok.1 h
    cases h
    intro d hd
    rcases List.mem_cons.1 hd with rfl | hd
    · exact hP.parseConversation hc
    · exact ih hothers d hd

/-- What holds of the beats of all entries holds of all beats of a compiled script. -/
theorem compile (hP : Entailed P) {document name : Value} {script : Script}
    (h : compile document name = .ok script) : ∀ e ∈ script.conversations, ∀ b ∈ e.2, P b := by
  unfold Script.compile at h
  split at h
  · obtain ⟨conversations, hconversations, h⟩ := bind_eq_ok.1 h
    simp only at h
    split at h
    · cases h
      intro e he
      obtain ⟨c, hc, hsame⟩ := Table.mem_ofEntries he
      rw [← hsame]
      exact hP.parseConversations hconversations c hc
    · cases h
  · cases h

end Entailed

/-- Every beat of a compiled script is well typed. -/
theorem compile_typed {document name : Value} {script : Script}
    (h : compile document name = .ok script) : script.Typed :=
  entailed_typed.compile h

/-- A script goes by the name that it was compiled under. -/
theorem compile_name {document name : Value} {script : Script}
    (h : compile document name = .ok script) : script.name = name := by
  unfold compile at h
  split at h
  · obtain ⟨conversations, -, h⟩ := bind_eq_ok.1 h
    dsimp only at h
    split at h
    · cases h
      rfl
    · cases h
  · cases h

/-- A document that compiles can be played as what it compiles to. -/
theorem compile_eq_ok_getD {document name : Value}
    (h : (compile document name).toOption.isSome) :
    compile document name = .ok ((compile document name).toOption.getD default) := by
  obtain ⟨script, hscript⟩ := Option.isSome_iff_exists.1 h
  rw [hscript]
  exact toOption_eq_some.1 hscript

end Script

/-! ## Libraries -/

namespace Library

section
variable {P : Script → Prop} (hP : ∀ {document name script}, compile document name = .ok script →
  P script)
include hP

theorem compileNamed_of_compile {shelf : Shelf} {files : Files.Tree} {name : Value}
    {script : Script} (h : compileNamed shelf files name = .ok script) : P script := by
  unfold compileNamed at h
  split at h
  · split at h
    · cases h
    · exact hP h
  · split at h
    · cases h
    · cases h
    · unfold Script.load at h
      obtain ⟨content, _, h⟩ := bind_eq_ok.1 h
      exact hP h

/-- A library that remembers scripts as compiling gives them gives out such scripts, and remembers
no others afterwards. -/
theorem get_of_compile {l : Library} {files : Files.Tree} {name : Value}
    (h : ∀ e ∈ l.compiled, P e.2) : (∀ e ∈ (l.get files name).2.compiled, P e.2) ∧
      ∀ script, (l.get files name).1 = .ok script → P script := by
  unfold get
  split
  · split
    · next script hfound =>
      refine ⟨h, fun s hs => ?_⟩
      cases hs
      obtain ⟨k, hk⟩ := Table.mem_of_get? hfound
      exact h _ hk
    · split
      · next script hcompiled =>
        refine ⟨fun e he => ?_, fun s hs => ?_⟩
        · rcases Table.mem_put he with he | ⟨he, -⟩
          · exact h e he
          · rw [he]
            exact compileNamed_of_compile hP hcompiled
        · cases hs
          exact compileNamed_of_compile hP hcompiled
      · exact ⟨h, fun _ hs => by cases hs⟩
  · exact ⟨h, fun _ hs => by cases hs⟩

end

/-- A library that remembers typed scripts gives out typed scripts, and remembers no others
afterwards. -/
theorem get_typed {l : Library} {files : Files.Tree} {name : Value} (h : l.Typed) :
    (l.get files name).2.Typed ∧ ∀ script, (l.get files name).1 = .ok script → script.Typed :=
  get_of_compile compile_typed h

end Library

end VisualNovel
