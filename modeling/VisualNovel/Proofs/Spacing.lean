import VisualNovel.Proofs.LineNumbers
import VisualNovel.Proofs.Typing

/-!
# Blank lines of a document

A document is *squeezed* if its conversations hold no blank lines, so two documents that are the
same when squeezed differ in blank lines only. Such documents compile to the same beats in other
lines, or not at all with errors that may only name other lines (`Script.compile_of_squeezed`).

What is compiled without its lines has the parameters that its layouts declare, and these know of
lines only if they are doubles. So scripts that are the same without lines are relined
(`Script.relined_of_unlined`), and since line numbers never feed back, blank lines do not change the
story: `Script.blank_lines_harmless`.
-/

namespace VisualNovel

open Script

variable {σ : Type}

/-! ## Documents without blank lines -/

namespace Value

/-- Whether an entry of a conversation is a line with nothing but blanks. -/
def isBlankLine : Value → Bool
  | text s => Text.allBlank s
  | _ => false

/-- The lines of a conversation without the blank ones. -/
def squeezedLines : Value → Value
  | list entries => list (entries.filter fun entry => !entry.isBlankLine)
  | v => v

/-- The document without the blank lines of its conversations. -/
def squeezed : Value → Value
  | record conversations => record (Table.mapValues squeezedLines conversations)
  | v => v

/-- A blank line may be put in anywhere. -/
theorem squeezedLines_insert {blank : Value} (h : blank.isBlankLine) (before after : List Value) :
    (list (before ++ blank :: after)).squeezedLines = (list (before ++ after)).squeezedLines := by
  simp [squeezedLines, h]

end Value

/-! ## Scripts without their lines -/

namespace Script

/-- The command without its line, also as the origin of a parameter. -/
def Command.unlined (c : Command) : Command :=
  { c with args := c.args.map Value.unlined, line := .null }

/-- The beat without its line. -/
def Beat.unlined : Beat → Beat
  | .dialogue d => .dialogue { d with line := .null }
  | .command c => .command c.unlined

end Script

/-- The script without the lines of its beats. -/
def Script.unlined (s : Script) : Script :=
  { s with conversations := Table.mapValues (Array.map Beat.unlined) s.conversations }

/-! ## Compiling without lines -/

/-- Two results of compiling that are the same but for lines. -/
abbrev AlikeIn {α β : Type} (show_ : α → β) (r r' : Except Fault α) : Prop :=
  Both (InvImage Eq Fault.unlined) (InvImage Eq show_) r r'

namespace Script

section
variable {line line' : Value}

theorem convert_line (kind : CommandKind) (p : Param) (raw : String) :
    Both (InvImage Eq StoryError.unlined) Eq (convert kind line p raw)
      (convert kind line' p raw) := by
  have hfail : ∀ cause : Cause, Both (InvImage Eq StoryError.unlined) (α := Value) Eq
      (.error { cause, line }) (.error { cause, line := line' }) := fun cause => .error rfl
  unfold convert
  dsimp only
  split
  · split
    · exact .ok rfl
    · exact hfail _
  · split
    · exact .ok rfl
    all_goals
      split
      · first | exact .ok rfl | exact hfail _
      · first | exact .ok rfl | exact hfail _

theorem convertFrom_line (kind : CommandKind) (l : Layout) (index : Nat) (raws : List String) :
    Both (InvImage Eq StoryError.unlined) Eq (convertFrom kind line l index raws)
      (convertFrom kind line' l index raws) := by
  induction raws generalizing index with
  | nil => exact .ok rfl
  | cons raw rest ih =>
    unfold convertFrom
    refine (convert_line kind _ raw).bind fun v w hvw => (ih (index + 1)).bind fun vs ws hrest => ?_
    exact .ok (congrArg₂ List.cons hvw hrest)

theorem bind_line (kind : CommandKind) (raws : List String) (context : Value) :
    Both (InvImage Eq StoryError.unlined) Eq (bind kind raws line context)
      (bind kind raws line' context) := by
  unfold bind
  dsimp only
  split
  · exact .error rfl
  · refine (convertFrom_line kind _ 0 raws).bind fun vs ws hvs => ?_
    rw [hvs]
    exact .ok rfl

/-- A text is read as the same beat in every line. -/
theorem parseLine_line (raw : String) (conversation : Value) :
    Both (InvImage Eq StoryError.unlined) (InvImage Eq Beat.unlined)
      (parseLine raw line conversation) (parseLine raw line' conversation) := by
  unfold parseLine
  split
  · split
    · unfold parseCommand
      split
      · exact .error rfl
      · split
        · exact .error rfl
        · refine (bind_line _ _ conversation).bind fun args args' hargs => ?_
          rw [hargs]
          exact .ok rfl
    · exact .ok rfl
  · exact .ok rfl

end

theorem unlined_placed (script conversation : String) (line : Int) (place : Nat) (v : Value) :
    (placed script conversation line place v).unlined =
      placed script conversation 0 place v.unlined := by
  cases v with
  | record fs => simp [placed]
  | _ => rfl

theorem unlined_placedBeat (script conversation : String) (line : Int) (b : Beat) :
    (placedBeat script conversation line b).unlined =
      placedBeat script conversation 0 b.unlined := by
  cases b with
  | dialogue d => rfl
  | command c =>
    refine congrArg (fun args => Beat.command (Command.mk c.kind args .null)) ?_
    apply List.ext_getElem?
    intro i
    simp [unlined_placed, Function.comp_def, Command.unlined]

/-- An entry is read as the same beat in every line. -/
theorem parseEntry_line (script entry : Value) (line line' : Int) (conversation : String) :
    AlikeIn (Option.map Beat.unlined) (parseEntry script entry line conversation)
      (parseEntry script entry line' conversation) := by
  unfold parseEntry
  dsimp only
  split
  · split
    · split
      · exact .ok rfl
      · split
        · exact .ok rfl
        · exact .error rfl
    · exact .error rfl
  · next text =>
    split
    · exact .ok rfl
    · have hline : Both (InvImage Eq StoryError.unlined) (InvImage Eq Beat.unlined)
          (parseLine text (.int line) (.text conversation))
          (parseLine text (.int line') (.text conversation)) := parseLine_line text _
      generalize parseLine text (.int line) (.text conversation) = r at hline
      generalize parseLine text (.int line') (.text conversation) = r' at hline
      cases hline with
      | error he => exact .error (congrArg Fault.story he)
      | ok hbeat =>
        refine .ok (congrArg some ?_)
        rw [unlined_placedBeat, unlined_placedBeat]
        exact congrArg (placedBeat _ conversation 0) hbeat
  · exact .error rfl

/-- Blank lines move the lines after them, and do nothing else. -/
theorem parseEntries_squeezed (script : Value) (conversation : String) (entries : List Value)
    (line line' : Int) :
    AlikeIn (List.map Beat.unlined) (parseEntries script conversation line entries)
      (parseEntries script conversation line' (entries.filter fun e => !e.isBlankLine)) := by
  induction entries generalizing line line' with
  | nil => exact .ok rfl
  | cons entry rest ih =>
    cases hblank : entry.isBlankLine with
    | true =>
      -- A blank line is no beat.
      have hnone : parseEntry script entry line conversation = .ok none := by
        cases entry with
        | text s => exact if_pos hblank
        | _ => cases hblank
      rw [List.filter_cons_of_neg (by simp [hblank]), parseEntries, hnone]
      show AlikeIn _ (parseEntries script conversation (line + 1) rest >>= fun beats => .ok beats) _
      have hrest := ih (line + 1) line'
      generalize parseEntries script conversation (line + 1) rest = r at hrest ⊢
      cases r <;> exact hrest
    | false =>
      rw [List.filter_cons_of_pos (by simp [hblank]), parseEntries, parseEntries]
      refine (parseEntry_line script entry line line' conversation).bind fun b b' hb => ?_
      refine (ih (line + 1) (line' + 1)).bind fun beats beats' hbeats => .ok ?_
      show (b.toList ++ beats).map Beat.unlined = (b'.toList ++ beats').map Beat.unlined
      have hfirst : ∀ b : Option Beat, b.toList.map Beat.unlined = (b.map Beat.unlined).toList :=
        fun b => by cases b <;> rfl
      rw [List.map_append, List.map_append, hfirst, hfirst]
      exact congrArg₂ (fun b beats => b.toList ++ beats) hb hbeats

theorem parseConversation_squeezed (script key lines : Value) :
    AlikeIn (fun c => (c.1, c.2.map Beat.unlined)) (parseConversation script key lines)
      (parseConversation script key lines.squeezedLines) := by
  unfold parseConversation
  dsimp only
  cases key with
  | text conversation =>
    cases lines with
    | list entries =>
      refine (parseEntries_squeezed script conversation entries 1 1).bind fun bs bs' hbs => ?_
      have harrays : bs.toArray.map Beat.unlined = bs'.toArray.map Beat.unlined := by
        simpa [InvImage] using hbs
      exact .ok (congrArg (conversation, ·) harrays)
    | _ => exact .error rfl
  | _ =>
    dsimp only
    split <;> exact .error rfl

theorem parseConversations_squeezed (script : Value) (conversations : List (Value × Value)) :
    AlikeIn (Table.mapValues (Array.map Beat.unlined)) (parseConversations script conversations)
      (parseConversations script (Table.mapValues Value.squeezedLines conversations)) := by
  induction conversations with
  | nil => exact .ok rfl
  | cons e rest ih =>
    obtain ⟨key, lines⟩ := e
    refine (parseConversation_squeezed script key lines).bind fun c c' hc => ?_
    exact ih.bind fun cs cs' hcs => .ok (congrArg₂ List.cons hc hcs)

/-- A document compiles to what it compiles to without its blank lines, but for lines. -/
theorem compile_squeezed (d name : Value) :
    AlikeIn Script.unlined (compile d name) (compile d.squeezed name) := by
  cases d with
  | record conversations =>
    refine (parseConversations_squeezed name conversations).bind fun cs cs' hcs => ?_
    have htables := congrArg Table.ofEntries hcs
    rw [← Table.mapValues_ofEntries, ← Table.mapValues_ofEntries] at htables
    have hstart := congrArg (Table.has startConversation) htables
    unfold Table.has at hstart
    rw [Table.get?_mapValues, Table.get?_mapValues, Option.isSome_map, Option.isSome_map] at hstart
    dsimp only
    unfold Table.has
    rw [hstart]
    split
    · exact .ok (congrArg (Script.mk name) htables)
    · exact .error rfl
  | _ => exact .error rfl

/-- Documents that differ in blank lines only compile to the same but for lines. -/
theorem compile_of_squeezed {d d' : Value} (h : d.squeezed = d'.squeezed) (name : Value) :
    AlikeIn Script.unlined (compile d name) (compile d' name) := by
  have hd := compile_squeezed d name
  rw [h] at hd
  exact hd.trans_symm (compile_squeezed d' name)

/-! ## Typed scripts that are the same without lines -/

/-- Lists that show the same are related place by place. -/
theorem forall₂_of_map_eq {α β γ : Type} {f : α → γ} {g : β → γ} {R : α → β → Prop} {as : List α}
    {bs : List β} (h : as.map f = bs.map g) (hR : ∀ a ∈ as, ∀ b, f a = g b → R a b) :
    List.Forall₂ R as bs := by
  induction as generalizing bs with
  | nil => cases bs with
    | nil => exact .nil
    | cons b bs => cases h
  | cons a as ih => cases bs with
    | nil => cases h
    | cons b bs =>
      obtain ⟨hab, hrest⟩ := List.cons.inj h
      exact .cons (hR a List.mem_cons_self b hab)
        (ih hrest fun a ha => hR a (List.mem_cons_of_mem _ ha))

/-- Only doubles know of lines. -/
theorem Param.eq_of_admits {p : Param} {v w : Value} (h : p.admits v) (hfloat : p.type ≠ .float)
    (hvw : v.unlined = w.unlined) : v = w := by
  obtain ⟨o, q, rfl, rfl⟩ | ⟨fs, gs, rfl, rfl, -⟩ | ⟨rfl, -⟩ := Value.cases_of_unlined_eq hvw
  · cases ht : p.type <;> simp_all [Param.admits, ParamType.admits]
  · cases ht : p.type <;> simp [Param.admits, ht, ParamType.admits] at h
  · rfl

theorem Command.relined_of_unlined {c d : Command} (hc : c.Typed) (h : c.unlined = d.unlined) :
    c.Relined d := by
  have hargs : c.args.map Value.unlined = d.args.map Value.unlined := congrArg Command.args h
  have hkind : c.unlined.kind = d.unlined.kind := congrArg Command.kind h
  refine ⟨hkind, hargs, fun i hi => ?_⟩
  have hplace := congrArg (·[i]?) hargs
  simp only [List.getElem?_map] at hplace
  cases hv : c.args[i]? with
  | none => cases hw : d.args[i]? <;> simp_all
  | some v =>
    obtain ⟨p, hp, hadmits⟩ := hc i v hv
    cases hw : d.args[i]? with
    | none => simp [hv, hw] at hplace
    | some w =>
      rw [hv, hw] at hplace
      refine congrArg some (Param.eq_of_admits hadmits ?_ (Option.some.inj hplace))
      simpa [Layout.isFloat, hp] using hi

theorem Beat.relined_of_unlined {b b' : Beat} (hb : b.Typed) (h : b.unlined = b'.unlined) :
    b.Relined b' := by
  cases b with
  | dialogue d => cases b' with
    | dialogue d' =>
      obtain ⟨htext, hspeaker, -⟩ := Dialogue.mk.inj (Beat.dialogue.inj h)
      exact .dialogue htext hspeaker
    | command c' => cases h
  | command c => cases b' with
    | dialogue d' => cases h
    | command c' => exact .command (Command.relined_of_unlined hb (Beat.command.inj h))

end Script

/-- Typed scripts that are the same without lines are relined. -/
theorem Script.relined_of_unlined {s t : Script} (hs : s.Typed) (h : s.unlined = t.unlined) :
    s.Relined t := by
  have hname : s.unlined.name = t.unlined.name := congrArg Script.name h
  have htables := congrArg Script.conversations h
  refine ⟨hname, forall₂_of_map_eq htables fun e he f hef => ?_⟩
  obtain ⟨hkey, hbeats⟩ := Prod.mk.inj hef
  have hlists : e.2.toList.map Beat.unlined = f.2.toList.map Beat.unlined := by
    simpa using congrArg Array.toList hbeats
  refine ⟨hkey, forall₂_of_map_eq hlists fun b hb b' hbb => ?_⟩
  exact Beat.relined_of_unlined (hs e he b (by simpa using hb)) hbb

/-! ## The story -/

open Engine HostCall in
/-- The layout of a document never changes the story. Of two documents that differ in blank lines
only, either none compiles, with errors that may only name other lines, or both do, to scripts that
are the same but for lines. With one setup and one row of calls, engines of these scripts answer
alike, show the same story and send the same intents. This holds of every row of calls, so it holds
throughout a run. -/
theorem Script.blank_lines_harmless {d d' : Value} (h : d.squeezed = d'.squeezed) (name : Value)
    {c : Collaborators σ} {O : σ → σ → Prop} (hc : c.IgnoresLines O) (sent : σ → List Intent)
    (hsent : ∀ o o', O o o' → (sent o).map Intent.unlined = (sent o').map Intent.unlined)
    {o o' : σ} (ho : O o o') :
    AlikeIn Script.unlined (compile d name) (compile d' name) ∧
    ∀ s s', compile d name = .ok s → compile d' name = .ok s' → ∀ setup : Setup,
      Both (InvImage Eq Fault.unlined) (fun e e' => ∀ bus calls,
          let e := { e with bus }
          let e' := { e' with bus }
          List.Forall₂ (Both (InvImage Eq Fault.unlined) Eq) (answers c calls e)
            (answers c calls e') ∧
          (runAll c calls e).ShowsAlike (runAll c calls e') ∧
          (sent (runAll c calls e).outside).map Intent.unlined =
            (sent (runAll c calls e').outside).map Intent.unlined)
        (opened c { setup with script := s } o) (opened c { setup with script := s' } o') := by
  have hcompiled := compile_of_squeezed h name
  refine ⟨hcompiled, fun s s' hs hs' setup => ?_⟩
  rw [hs, hs'] at hcompiled
  cases hcompiled with
  | ok hunlined =>
    have hscripts := relined_of_unlined (compile_typed hs) hunlined
    refine (opened_relined hc hscripts setup ho).mono fun e e' he bus calls => ?_
    have hlistened : Engine.Relined O { e with bus } { e' with bus } := { he with bus := rfl }
    obtain ⟨hanswers, hlast⟩ := runAll_relined hc calls hlistened
    exact ⟨hanswers, hlast.showsAlike, hsent _ _ hlast.outside⟩

/-- A story that skips a line, with lines put in before the line that it skips. -/
def Script.skipping (blanks : List Value) : Value :=
  .record [(.text "start", .list ([.text ".setflag:met:1", .text ".isflag:met:2"] ++ blanks ++
    [.text "Skipped", .text "Hello"]))]

open Engine HostCall in
/-- The story skips the same line if blank lines come before it. -/
theorem Script.blank_lines_harmless_skipping : ∃ s s' e e',
    compile (skipping []) (.text "story") = .ok s ∧
    compile (skipping [.text "", .text " \t"]) (.text "story") = .ok s' ∧
    opened (.console .whole) { script := s } {} = .ok e ∧
    opened (.console .whole) { script := s' } {} = .ok e' ∧
    let played (e : Engine Console) : Engine Console :=
      runAll (.console .whole) [.resourcesReady] { e with bus := {} }
    (played e).ShowsAlike (played e') ∧ (played e').mode = .normal ∧
    (played e').cursor.position.index = 3 ∧ (played e').outside.intents.toList.length = 1 := by
  have hsqueezed : (skipping []).squeezed = (skipping [.text "", .text " \t"]).squeezed := rfl
  have hfacts : ((compile (skipping [.text "", .text " \t"]) (.text "story")).toOption.bind fun s =>
      (opened (.console .whole) { script := s } {}).toOption.map fun e =>
        let played := runAll (.console .whole) [.resourcesReady] { e with bus := {} }
        (played.mode, played.cursor.position.index, played.outside.intents.toList.length)) =
      some (.normal, 3, 1) := by
    decide +kernel
  obtain ⟨s', hs', hfacts⟩ := Option.bind_eq_some_iff.1 hfacts
  obtain ⟨e', he', hfacts⟩ := Option.map_eq_some_iff.1 hfacts
  rw [toOption_eq_some] at hs' he'
  obtain ⟨hmode, hindex, hsent⟩ : _ ∧ _ ∧ _ := by simpa using hfacts
  have hempty : Console.Relined {} {} := ⟨rfl, rfl, rfl⟩
  obtain ⟨hcompiled, hruns⟩ := blank_lines_harmless hsqueezed (.text "story")
    Collaborators.console_ignoresLines (fun x => x.intents.toList) (fun _ _ h => h.intents) hempty
  rw [hs'] at hcompiled
  -- What the documents compile to goes together, and so do their engines.
  generalize hs : compile (skipping []) (.text "story") = r at hcompiled
  cases hcompiled with
  | @ok s _ _ =>
    have hopened := hruns s s' hs hs' { script := s' }
    rw [he'] at hopened
    generalize he : opened _ _ _ = r at hopened
    cases hopened with
    | @ok e _ halike =>
      obtain ⟨-, hshows, -⟩ := halike {} [.resourcesReady]
      exact ⟨s, s', e, e', rfl, hs', he, he', hshows, hmode, hindex, hsent⟩

end VisualNovel
