import VisualNovel.Proofs.Refusals
import VisualNovel.Proofs.Replay
import VisualNovel.Proofs.Retrieval
import VisualNovel.Proofs.SaveFiles

/-!
# Scripts of a folder

A library of a folder finds a script by a text that may lead through folders below its own, and the
script is named for its file alone. A session that switches to the script goes by that name. So what
it saves can be restored over the same folder exactly if the folder has the same script directly
under that name: `Engine.restores_switched_iff`. It has if the text was no path.
-/

namespace VisualNovel

open Script

variable {σ τ : Type}

/-! ## Names of files -/

namespace Files.Path

theorem splitSlashes_ne_nil (cs : List Char) : splitSlashes cs ≠ [] := by
  cases cs with
  | nil => simp [splitSlashes]
  | cons c cs =>
    rw [splitSlashes]
    split
    · simp
    · split <;> simp

theorem splitSlashes_cons (c : Char) (cs : List Char) : ∃ part parts,
    splitSlashes cs = part :: parts ∧
      splitSlashes (c :: cs) = if c = '/' then [] :: part :: parts else (c :: part) :: parts := by
  obtain ⟨part, parts, hcs⟩ := List.exists_cons_of_ne_nil (splitSlashes_ne_nil cs)
  exact ⟨part, parts, hcs, by simp [splitSlashes, hcs]⟩

theorem slash_not_mem_part {cs part : List Char} (h : part ∈ splitSlashes cs) : '/' ∉ part := by
  induction cs generalizing part with
  | nil =>
    rw [List.mem_singleton.1 h]
    exact List.not_mem_nil
  | cons c cs ih =>
    obtain ⟨first, rest, hcs, hsplit⟩ := splitSlashes_cons c cs
    rw [hcs] at ih
    rw [hsplit] at h
    split at h
    · rcases List.mem_cons.1 h with rfl | h
      · exact List.not_mem_nil
      · exact ih h
    · next hc =>
      rcases List.mem_cons.1 h with rfl | h
      · intro hmem
        exact (List.mem_cons.1 hmem).elim (fun hsame => hc hsame.symm) (ih List.mem_cons_self)
      · exact ih (List.mem_cons_of_mem _ h)

/-- A character that is no slash stands in a part. -/
theorem exists_part {cs : List Char} {c : Char} (h : c ∈ cs) (hc : c ≠ '/') :
    ∃ part ∈ splitSlashes cs, c ∈ part := by
  induction cs with
  | nil => cases h
  | cons d cs ih =>
    obtain ⟨first, rest, hcs, hsplit⟩ := splitSlashes_cons d cs
    rw [hcs] at ih
    rw [hsplit]
    rcases List.mem_cons.1 h with rfl | h
    · rw [if_neg hc]
      exact ⟨_, List.mem_cons_self, List.mem_cons_self⟩
    · obtain ⟨part, hpart, hmem⟩ := ih h
      split
      · exact ⟨part, List.mem_cons_of_mem _ hpart, hmem⟩
      · rcases List.mem_cons.1 hpart with rfl | hpart
        · exact ⟨_, List.mem_cons_self, List.mem_cons_of_mem _ hmem⟩
        · exact ⟨part, List.mem_cons_of_mem _ hpart, hmem⟩

/-- What a suffix leaves of a name is a start of the name. -/
theorem mem_stem {p : Path} {c : Char} (h : c ∈ p.stem.toList) : c ∈ p.name.toList := by
  unfold stem at h
  dsimp only at h
  split at h
  · rw [String.toList_ofList] at h
    exact List.mem_of_mem_take h
  · exact h

theorem slash_not_mem_name {s name : String} (h : name ∈ namesOf s) : '/' ∉ name.toList := by
  obtain ⟨part, hpart, rfl⟩ := List.mem_map.1 (List.mem_filter.1 h).1
  rw [String.toList_ofList]
  exact slash_not_mem_part hpart

/-- Of what leads on from a folder, the last name is the last one of the path. -/
theorem join_name_mem (p : Path) {s : String} (h : namesOf s ≠ []) :
    (p.join s).name ∈ namesOf s := by
  have hlast : (p.join s).names.getLast? = some ((namesOf s).getLast h) := by
    unfold join
    dsimp only
    split
    · exact List.getLast?_eq_some_getLast h
    · show (p.names ++ namesOf s).getLast? = _
      rw [List.getLast?_append, List.getLast?_eq_some_getLast h, Option.some_or]
  rw [name, hlast, Option.getD_some]
  exact List.getLast_mem h

/-- A text with more than slashes and dots leads on. -/
theorem namesOf_ne_nil {s : String} {c : Char} (hmem : c ∈ s.toList) (hslash : c ≠ '/')
    (hdot : c ≠ '.') : namesOf s ≠ [] := by
  obtain ⟨part, hpart, hc⟩ := exists_part hmem hslash
  have hother : ∀ word : String, c ∉ word.toList → String.ofList part ≠ word := by
    rintro word hword rfl
    exact hword (by rwa [String.toList_ofList])
  have hname : String.ofList part ∈ namesOf s := by
    refine List.mem_filter.2 ⟨List.mem_map_of_mem hpart, ?_⟩
    simp [hother "" (by simp), hother "." (by simpa using hdot)]
  exact List.ne_nil_of_mem hname

theorem join_name_ne_empty (p : Path) {s : String} (h : namesOf s ≠ []) : (p.join s).name ≠ "" := by
  have htest := (List.mem_filter.1 (join_name_mem p h)).2
  simp only [Bool.and_eq_true, bne_iff_ne] at htest
  exact htest.1

theorem slash_not_mem_stem (p : Path) {s : String} (h : namesOf s ≠ []) :
    '/' ∉ (p.join s).stem.toList :=
  fun hslash => slash_not_mem_name (join_name_mem p h) (mem_stem hslash)

theorem suffixStart_append {cs ds : List Char} (hcs : cs ≠ []) (hds : ds ≠ []) (hdot : '.' ∉ ds) :
    suffixStart (cs ++ '.' :: ds) = some cs.length := by
  have htail : (cs ++ '.' :: ds).reverse.takeWhile (· != '.') = ds.reverse := by
    have hall : ∀ c ∈ ds.reverse, (c != '.') = true := by
      intro c hc
      have hne : c ≠ '.' := fun hsame => hdot (hsame ▸ List.mem_reverse.1 hc)
      simpa using hne
    simp [List.takeWhile_append_of_pos hall]
  have hcs := List.length_pos_iff.2 hcs
  have hds := List.length_pos_iff.2 hds
  have hlength : (cs ++ '.' :: ds).length = cs.length + (ds.length + 1) := by simp
  have hstart : cs.length + (ds.length + 1) - ds.length - 1 = cs.length := by omega
  unfold suffixStart
  dsimp only
  rw [htail, List.length_reverse, hlength, hstart, if_pos]
  simp only [Bool.and_eq_true, decide_eq_true_eq, bne_iff_ne]
  omega

/-- A text that is no path is what the suffix leaves of its file. -/
theorem stem_join (p : Path) {n ext : String} (hslash : '/' ∉ n.toList) (hn : n ≠ "")
    (hext : ext ≠ "") (hplain : '/' ∉ ext.toList ∧ '.' ∉ ext.toList) :
    (p.join (n ++ ("." ++ ext))).stem = n := by
  have hlist : (n ++ ("." ++ ext)).toList = n.toList ++ '.' :: ext.toList := by simp
  have hn' : n.toList ≠ [] := by simpa using hn
  have hext' : ext.toList ≠ [] := by simpa using hext
  have hname : IsName (n ++ ("." ++ ext)) := by
    have hother : ∀ word : String, word.length ≤ 2 → n ++ ("." ++ ext) ≠ word := by
      rintro word hword rfl
      have hn := List.length_pos_iff.2 hn'
      have hext := List.length_pos_iff.2 hext'
      rw [← String.length_toList, hlist] at hword
      simp at hword hn hext
      omega
    refine ⟨?_, hother _ (by decide), hother _ (by decide), hother _ (by decide)⟩
    rw [hlist]
    simp [hslash, hplain.1]
  have hstart := suffixStart_append hn' hext' hplain.2
  rw [← hlist] at hstart
  rw [join_of_isName hname]
  simp only [stem, name, List.getLast?_concat, Option.getD_some, hstart]
  rw [hlist, List.take_left, String.ofList_toList]

theorem stem_ne_empty {p : Path} (h : p.name ≠ "") : p.stem ≠ "" := by
  unfold stem
  dsimp only
  split
  · next i hi =>
    unfold suffixStart at hi
    dsimp only at hi
    split at hi
    · next htest =>
      cases hi
      simp only [Bool.and_eq_true, bne_iff_ne] at htest
      have hname : p.name.toList ≠ [] := by simpa using h
      intro hempty
      rw [← String.toList_inj, String.toList_ofList, String.toList_empty, List.take_eq_nil_iff]
        at hempty
      exact hempty.elim htest.2 hname
    · cases hi
  · exact h

end Files.Path

/-! ## What a folder gives out -/

namespace Script

theorem load_name {files : Files.Tree} {p : Files.Path} {script : Script}
    (h : load files p = .ok script) : script.name = .text p.stem := by
  obtain ⟨content, -, h⟩ := bind_eq_ok.1 h
  exact compile_name h

end Script

namespace Library

variable {base p : Files.Path} {files : Files.Tree} {l : Library} {n : String} {script : Script}

theorem findSomeM?_eq_some {ε α β : Type} {f : α → Except ε (Option β)} {as : List α} {b : β}
    (h : as.findSomeM? f = .ok (some b)) : ∃ a ∈ as, f a = .ok (some b) := by
  induction as with
  | nil => cases h
  | cons a as ih =>
    rw [List.findSomeM?_cons] at h
    obtain ⟨first, hfirst, h⟩ := bind_eq_ok.1 h
    cases first with
    | some b' =>
      cases Except.ok.inj h
      exact ⟨a, List.mem_cons_self, hfirst⟩
    | none =>
      obtain ⟨a', hmem, ha'⟩ := ih h
      exact ⟨a', List.mem_cons_of_mem _ hmem, ha'⟩

theorem pathFor?_eq_some (h : pathFor? base files (.text n) = .ok (some p)) :
    ∃ ext, (ext = "json" ∨ ext = "plist") ∧ p = base.join (n ++ ("." ++ ext)) := by
  obtain ⟨suffix, hsuffix, htried⟩ := findSomeM?_eq_some h
  have hp : p = base.join (n ++ suffix) := by
    obtain ⟨found, -, htried⟩ := bind_eq_ok.1 htried
    cases found with
    | false => cases htried
    | true => exact (Option.some.inj (Except.ok.inj htried)).symm
  simp only [List.mem_cons, List.not_mem_nil, or_false] at hsuffix
  rcases hsuffix with rfl | rfl
  · exact ⟨"json", .inl rfl, hp⟩
  · exact ⟨"plist", .inr rfl, hp⟩

/-- The file of a name has a name of its own. -/
theorem namesOf_pathFor? (h : pathFor? base files (.text n) = .ok (some p)) :
    ∃ s, Files.Path.namesOf s ≠ [] ∧ p = base.join s := by
  obtain ⟨ext, hext, hp⟩ := pathFor?_eq_some h
  have hs : 's' ∈ (n ++ ("." ++ ext)).toList := by
    rcases hext with rfl | rfl <;> simp
  exact ⟨_, Files.Path.namesOf_ne_nil hs (by decide) (by decide), hp⟩

/-- A script that a folder gives out is named for its file. -/
theorem compileNamed_folder (h : compileNamed (.folder base) files (.text n) = .ok script) :
    ∃ p, pathFor? base files (.text n) = .ok (some p) ∧ script.name = .text p.stem := by
  unfold compileNamed at h
  dsimp only at h
  split at h
  · cases h
  · cases h
  · next p hp => exact ⟨p, hp, load_name h⟩

theorem stem_ne_empty (h : pathFor? base files (.text n) = .ok (some p)) : p.stem ≠ "" := by
  obtain ⟨s, hs, rfl⟩ := namesOf_pathFor? h
  exact Files.Path.stem_ne_empty (Files.Path.join_name_ne_empty base hs)

/-- The file goes by the text that it was found by, unless the text is a path. -/
theorem stem_eq_iff (h : pathFor? base files (.text n) = .ok (some p)) (hn : n ≠ "") :
    p.stem = n ↔ '/' ∉ n.toList := by
  constructor
  · intro hsame
    obtain ⟨s, hs, rfl⟩ := namesOf_pathFor? h
    rw [← hsame]
    exact Files.Path.slash_not_mem_stem base hs
  · intro hslash
    obtain ⟨ext, rfl | rfl, rfl⟩ := pathFor?_eq_some h
    · exact Files.Path.stem_join base hslash hn (by decide) (by decide)
    · exact Files.Path.stem_join base hslash hn (by decide) (by decide)

/-- The library keeps a folder, and remembers its scripts as they stand there. -/
structure UpToDate (base : Files.Path) (files : Files.Tree) (l : Library) : Prop where
  shelf : l.shelf = .folder base
  compiled : ∀ n script, Table.get? (.text n) l.compiled = some script →
    compileNamed (.folder base) files (.text n) = .ok script

theorem upToDate_fresh (base : Files.Path) (files : Files.Tree) :
    UpToDate base files { shelf := .folder base } :=
  ⟨rfl, nofun⟩

/-- What a library remembers makes no difference. -/
theorem UpToDate.get_eq (h : l.UpToDate base files) (n : String) :
    (l.get files (.text n)).1 = compileNamed (.folder base) files (.text n) := by
  rw [← h.shelf]
  refine get_eq_compileNamed fun script hscript => ?_
  rw [h.shelf]
  exact h.compiled n script hscript

/-- A library that is asked for a script stays up to date. -/
theorem UpToDate.get (h : l.UpToDate base files) (n : String) :
    (l.get files (.text n)).2.UpToDate base files := by
  rcases l.get_snd files n with hsame | ⟨script, hscript, hput⟩
  · rwa [hsame]
  · rw [h.shelf] at hscript
    rw [hput]
    refine ⟨h.shelf, fun m found hfound => ?_⟩
    rw [Table.get?_put, Value.text_beq_text] at hfound
    split at hfound
    · next hsame =>
      rw [← beq_iff_eq.1 hsame, ← Option.some.inj hfound]
      exact hscript
    · exact h.compiled m found hfound

end Library

/-! ## Switching and restoring -/

/-- A switch takes the script that the library gives out for a name, and the name of the script. -/
theorem Command.switchScript_ends {l : Library} {s : Stage} (hl : s.library = some l)
    (line name conversation : Value) : Ends (switchScript line name conversation) s
      (fun _ s' => (l.get s.disk.files name).1 = .ok s'.script ∧ s'.session.cursor.Sound ∧
        s'.session.cursor.script = s'.script ∧ s'.session.scriptName = s'.script.name.orElse name ∧
        s'.session.overrides = s.session.overrides ∧ s'.timedText = s.timedText)
      fun _ _ => True := by
  unfold switchScript Stage.fetchScript
  refine Ends.bind_iff.2 (Ends.bind_iff.2 (Ends.get_iff.2 ?_))
  rw [hl]
  refine Ends.bind_iff.2 (Ends.ofExcept_iff.2 ⟨fun script hscript => ?_, fun _ _ => trivial⟩)
  refine Ends.bind_iff.2 (Ends.ofExcept_iff.2 ⟨fun place _ => ?_, fun _ _ => trivial⟩)
  refine Ends.bind_iff.2 (Ends.ofStory_iff.2 ⟨fun cursor hcursor => ?_, fun _ _ => trivial⟩)
  obtain ⟨rfl, hsound⟩ := Cursor.rebind_sound hcursor
  exact ⟨hscript, hsound, rfl, rfl, rfl, rfl⟩

namespace Engine

variable {c : Collaborators τ} {w : Watch τ} {f f' : Engine τ} {t : Snapshot}

/-- What is played after a restore is the script of the snapshot. -/
theorem restore_finds (hc : Quiet c w False) (t : Snapshot) (f : Engine τ) :
    Ends (restore c t) f (fun _ f' => ∃ s, (scriptOf t).perform f.stage = (.ok f'.script, s))
      fun _ _ => True := by
  refine restore_ends (Ends.iff_perform.2 ⟨fun script s hscript => hscript, fun _ _ _ => trivial⟩)
    (fun _ _ _ _ _ => trivial) fun cursor s hscript _ => ?_
  refine (Tracks.iff_ends.1 Stage.retimeFromSession_timed _).mono ?_ fun _ _ _ => trivial
  rintro _ _ ⟨u, rfl⟩
  refine Ends.mono (enterLoading_runs hc _) ?_ fun _ _ _ => trivial
  rintro _ _ ⟨y, rfl, -⟩
  exact ⟨s, hscript⟩

/-- A session has switched to a script of a folder by a text, and goes by the name of the file. An
engine that plays a script of another name over the same folder goes on with what the session saves
exactly if the folder has the script directly under that name, as it has if the text was no path. -/
theorem restores_switched_iff (hc : Quiet c w False) {s s' : Stage} {l l' : Library}
    {base : Files.Path} {n : String} {line conversation : Value} {o : Outcome} {k r : Int}
    (hl : s.library = some l) (hshelf : l.UpToDate base s.disk.files) (hwants : s.Wants k r)
    (hn : n ≠ "")
    (hswitch : (Command.switchScript line (.text n) conversation).perform s = (.ok o, s'))
    (hl' : f.stage.library = some l') (hshelf' : l'.UpToDate base f.stage.disk.files)
    (hfiles : f.stage.disk.files = s.disk.files)
    (hrate : f.stage.timedText.frameRate = s.timedText.frameRate)
    (htext : f.stage.timedText.fullText.IsText)
    (hother : s'.session.scriptName.equal f.script.name = false) :
    ∃ p, Library.pathFor? base s.disk.files (.text n) = .ok (some p) ∧
      s'.session.scriptName = .text p.stem ∧ (p.stem = n ↔ '/' ∉ n.toList) ∧
      ((∃ f', (restore c s'.session.live).perform f = (.ok (), f') ∧ f'.mode = .loading ∧
          f'.script = s'.script ∧ f'.cursor = s'.session.cursor) ↔
        Library.compileNamed (.folder base) s.disk.files (.text p.stem) = .ok s'.script) ∧
      ('/' ∉ n.toList →
        Library.compileNamed (.folder base) s.disk.files (.text p.stem) = .ok s'.script) := by
  obtain ⟨hscript, hsound, hstep, hname, hoverrides, htimed⟩ :=
    (Ends.iff_perform.1 (Command.switchScript_ends hl line _ conversation)).1 _ _ hswitch
  rw [hshelf.get_eq] at hscript
  obtain ⟨p, hp, hstem⟩ := Library.compileNamed_folder hscript
  have htruthy : (Value.text p.stem).truthy := by
    simpa [Value.truthy] using Library.stem_ne_empty hp
  have hname : s'.session.scriptName = .text p.stem := by
    rw [hname, hstem, Value.orElse, if_pos htruthy]
  refine ⟨p, hp, hname, Library.stem_eq_iff hp hn, ?_, fun hslash => ?_⟩
  · have helse : s'.session.live.Elsewhere f.stage := by
      refine ⟨?_, hother⟩
      show s'.session.scriptName.truthy = true
      rw [hname]
      exact htruthy
    have hfound : (scriptOf s'.session.live).perform f.stage =
        (Library.compileNamed (.folder base) s.disk.files (.text p.stem),
          { f.stage with library := some (l'.get f.stage.disk.files (.text p.stem)).2 }) := by
      have hlive : s'.session.live.script = .text p.stem := hname
      rw [scriptOf_elsewhere helse, hl', hlive, ← hfiles, ← hshelf'.get_eq]
    constructor
    · rintro ⟨f', hrun, -, hplays, -⟩
      obtain ⟨s₁, hfinds⟩ := (Ends.iff_perform.1 (restore_finds hc _ f)).1 _ _ hrun
      rw [hfound, hplays] at hfinds
      exact (Prod.mk.inj hfinds).1
    · intro hsame
      rw [hsame] at hfound
      have hcursor : Cursor.rebind s'.script s'.session.live.cursor = .ok s'.session.cursor :=
        hstep ▸ Cursor.rebind_position hsound
      -- The settings of the session are those that it had before the switch.
      let found : Stage :=
        { f.stage with library := some (l'.get f.stage.disk.files (.text p.stem)).2 }
      have hwants' : (found.adopting s'.session.live s'.session.cursor).Wants k r :=
        hwants.congr (hoverrides ▸ .refl _) hrate htext
      obtain ⟨_, hretime, -⟩ := hwants'.retimes
      obtain ⟨u, rfl, -⟩ :=
        (Ends.iff_perform.1 (Stage.retimeFromSession_leads _)).1 _ _ hretime
      obtain ⟨⟨⟩, f', hrun, x, rfl, -⟩ := (restore_runs hc hfound hcursor hretime).performs
      exact ⟨_, hrun, rfl, hstep, rfl⟩
  · rw [(Library.stem_eq_iff hp hn).2 hslash]
    exact hscript

/-- A folder with a script, and with a script in a folder below. -/
def anthology : Files.Tree :=
  .ofListing [
    (["scripts"], .folder),
    (["scripts", "chapter.json"], .file (.bytes "\x7b\"start\": [\"Here\"]\x7d".toUTF8)),
    (["scripts", "sub"], .folder),
    (["scripts", "sub", "epilogue.json"], .file (.bytes "\x7b\"start\": [\"There\"]\x7d".toUTF8))]

/-- A story that switches to a script of the folder. -/
def turningTo (n : String) : Setup :=
  { Setup.telling "main" [".switchscript:" ++ n] with
    library := some { shelf := .folder { names := ["scripts"] } }
    disk := { files := anthology } }

/-- The folder of a library that remembers no scripts. -/
def unread? : Library → Option Files.Path
  | ⟨.folder base, []⟩ => some base
  | _ => none

theorem eq_of_unread? {l : Library} {base : Files.Path} (h : unread? l = some base) :
    l = ⟨.folder base, []⟩ := by
  unfold unread? at h
  split at h
  · cases h
    rfl
  · cases h

/-- The script that stands directly in the folder is found again. -/
theorem restores_switched_chapter : ∃ (e f : Engine (List Intent)) (s : Stage) (o : Outcome),
    started .recording (turningTo "chapter") [] = some e ∧
    (Command.switchScript (.int 0) (.text "chapter") .null).perform e.stage = (.ok o, s) ∧
    s.session.scriptName = .text "chapter" ∧
    (restore .recording s.session.live).perform e = (.ok (), f) ∧ f.script = s.script := by
  let switched (e : Engine (List Intent)) :=
    (Command.switchScript (.int 0) (.text "chapter") .null).perform e.stage
  have hfacts : (started .recording (turningTo "chapter") []).map (fun e =>
      (e.stage.session.overrides.cinematicSeconds.greater (.int 0)).toOption == some false &&
        (e.stage.timedText.framesOf
          e.stage.session.overrides.cinematicSeconds).toOption == some 0 &&
        e.stage.session.overrides.typewriterRate.toInt.toOption == some 0 &&
        (Value.text "").equal e.stage.timedText.fullText &&
        (e.stage.library.bind unread?).isSome && (switched e).1.isOk &&
        !(switched e).2.session.scriptName.equal e.script.name) = some true := by
    decide +kernel
  obtain ⟨e, he, hfacts⟩ := Option.map_eq_some_iff.1 hfacts
  simp only [Bool.and_eq_true, beq_iff_eq, Bool.not_eq_true'] at hfacts
  obtain ⟨⟨⟨⟨⟨⟨hseconds, hframes⟩, hrate⟩, htext⟩, hlibrary⟩, hok⟩, hother⟩ := hfacts
  have htext : e.stage.timedText.fullText.IsText := ⟨_, Value.text_equal_iff.1 htext⟩
  have hsized : ∃ size, e.stage.timedText.fullText.size = .ok size := by
    obtain ⟨text, htext⟩ := htext
    exact ⟨_, congrArg Value.size htext⟩
  have hwants : e.stage.Wants 0 0 :=
    ⟨⟨_, toOption_eq_some.1 hseconds⟩, toOption_eq_some.1 hframes, toOption_eq_some.1 hrate, hsized⟩
  obtain ⟨base, hbase⟩ := Option.isSome_iff_exists.1 hlibrary
  obtain ⟨l, hl, hbase⟩ := Option.bind_eq_some_iff.1 hbase
  obtain rfl := eq_of_unread? hbase
  rcases hswitched : switched e with ⟨fault | o, s⟩
  · rw [hswitched] at hok
    cases hok
  · rw [hswitched] at hother
    have hshelf := Library.upToDate_fresh base e.stage.disk.files
    obtain ⟨p, -, hname, hstem, hrestores, hfound⟩ :=
      restores_switched_iff (f := e) Collaborators.recording_quiet hl hshelf hwants (by decide)
        hswitched hl hshelf rfl rfl htext hother
    obtain ⟨f, hrun, -, hplays, -⟩ := hrestores.2 (hfound (by decide))
    rw [hstem.2 (by decide)] at hname
    exact ⟨e, f, s, o, he, hswitched, hname, hrun, hplays⟩

/-- Whether a result says that the library knows no epilogue. -/
def deniesEpilogue : Except Fault Unit → Bool
  | .error (.story ⟨.unknownScript (.text "epilogue"), _, _⟩) => true
  | _ => false

theorem exists_of_deniesEpilogue {r : Except Fault Unit} (h : deniesEpilogue r) :
    ∃ error, r = .error (.story error) ∧ error.cause = .unknownScript (.text "epilogue") := by
  unfold deniesEpilogue at h
  split at h
  · exact ⟨_, rfl, rfl⟩
  · cases h

/-- The script in the folder below is not found again: the library knows no epilogue. -/
theorem epilogue_not_restored : ∃ e f : Engine (List Intent),
    started .recording (turningTo "sub/epilogue") [] = some e ∧
    (HostCall.resourcesReady.run .recording).perform e = (.ok (), f) ∧
    f.session.live.script = .text "epilogue" ∧ f.session.scene.speech = .text "There" ∧
    ∃ error e', (restore .recording f.session.live).perform e = (.error (.story error), e') ∧
      error.cause = .unknownScript (.text "epilogue") := by
  let played (e : Engine (List Intent)) := (HostCall.resourcesReady.run .recording).perform e
  let restored (e : Engine (List Intent)) :=
    (restore .recording (played e).2.session.live).perform e
  have hplays : (started .recording (turningTo "sub/epilogue") []).map (fun e =>
      (played e).1.toOption == some () &&
        (Value.text "epilogue").equal (played e).2.session.live.script &&
        (Value.text "There").equal (played e).2.session.scene.speech &&
        deniesEpilogue (restored e).1) = some true := by
    decide +kernel
  obtain ⟨e, he, hplays⟩ := Option.map_eq_some_iff.1 hplays
  simp only [Bool.and_eq_true, beq_iff_eq, Value.text_equal_iff] at hplays
  obtain ⟨⟨⟨hrun, hname⟩, hspeech⟩, hdenies⟩ := hplays
  obtain ⟨error, hrestored, hcause⟩ := exists_of_deniesEpilogue hdenies
  exact ⟨e, (played e).2, he, Prod.ext (toOption_eq_some.1 hrun) rfl, hname, hspeech, error,
    (restored e).2, Prod.ext hrestored rfl, hcause⟩

end Engine

end VisualNovel
