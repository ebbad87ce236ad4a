import VisualNovel.Cli.Run
import VisualNovel.Proofs.Chronicle
import VisualNovel.Proofs.Strictness

/-!
# Strict runs of the program

A script that is run with the option to be strict: the program reads the same arguments but for the
option, a strict engine plays the same session, and an error that is raised is printed by the
program's own handler as the error of a lax session is. So the exit code, what is printed and the
files are the same (`Cli.execute_sameEnd`).
-/

namespace VisualNovel

open Script

namespace Cli

variable {α β : Type}

/-! ## One more option -/

namespace Arguments

/-- The second arguments are the first with one more option given, or given once more. -/
structure Joins (name : String) (a a' : Arguments) : Prop where
  words : a'.words = a.words
  stray : a'.stray = a.stray
  rest : a'.rest = a.rest
  values : ∀ n ≠ name, Table.get? n a'.values = Table.get? n a.values
  given : a'.given name = true

/-- Both are refused for the same reason, or the second has one more option. -/
inductive ReadsJoined (name : String) :
    Except Refusal Arguments → Except Refusal Arguments → Prop where
  | refused (r : Refusal) : ReadsJoined name (.error r) (.error r)
  | read {a a' : Arguments} : Joins name a a' → ReadsJoined name (.ok a) (.ok a')

section
variable {name : String} {a a' : Arguments}

theorem give_given (a : Arguments) (name value : String) :
    (a.give name value).given name = true := by
  simp [give, given, Table.has, Table.get?_put]

namespace Joins

/-- An option is given for the first time. -/
theorem of_give (a : Arguments) (name value : String) : Joins name a (a.give name value) where
  words := rfl
  stray := rfl
  rest := rfl
  values n hn := by simp [give, Table.get?_put, hn.symm]
  given := give_given a name value

variable (h : Joins name a a')
include h

theorem addWord (word : String) : Joins name (a.addWord word) (a'.addWord word) where
  words := by simp [Arguments.addWord, h.words]
  stray := h.stray
  rest := h.rest
  values := h.values
  given := h.given

theorem strays : Joins name { a with stray := true } { a' with stray := true } :=
  ⟨h.words, rfl, h.rest, h.values, h.given⟩

theorem give (n value : String) : Joins name (a.give n value) (a'.give n value) where
  words := h.words
  stray := h.stray
  rest := h.rest
  values m hm := by simp [Arguments.give, Table.get?_put, h.values m hm]
  given := by
    have hgiven := h.given
    simp only [Arguments.given, Table.has, Arguments.give, Table.get?_put] at *
    split
    · rfl
    · exact hgiven

end Joins

/-- What follows is read in the same way. -/
theorem readFrom_joined (flags : List Flag) (wordsOnly : Bool) (a a' : Arguments)
    (args : List String) (h : Joins name a a') :
    ReadsJoined name (readFrom flags false wordsOnly a args)
      (readFrom flags false wordsOnly a' args) := by
  fun_induction readFrom flags false wordsOnly a args generalizing a' with
  | case1 => exact .read h
  | case2 a word rest next ih => simpa [readFrom, next] using ih _ (h.addWord word)
  | case3 => contradiction
  | case4 _ a arg rest hwords hdashes _ hrest =>
    simpa [readFrom, hwords, hdashes, hrest] using .read h.strays
  | case5 _ a arg rest hwords hdashes _ hrest _ ih =>
    simpa [readFrom, hwords, hdashes, hrest] using ih _ h
  | case6 _ a arg rest next hwords hdashes text hpiece ih =>
    simp only [readFrom, hwords, hdashes, hpiece, next]
    by_cases hlast : rest = ["--"]
    · simpa [hlast] using .read (h.addWord arg)
    · simpa [hlast, hwords] using ih _ (h.addWord arg)
  | case7 _ a arg rest hwords hdashes hpiece =>
    simpa [readFrom, hwords, hdashes, hpiece] using .refused _
  | case8 _ a arg rest hwords hdashes hpiece _ ih =>
    simpa [readFrom, hwords, hdashes, hpiece] using ih _ h.strays
  | case9 _ a arg rest hwords hdashes hpiece =>
    simpa [readFrom, hwords, hdashes, hpiece] using .refused _
  | case10 _ a arg rest hwords hdashes n value hpiece hhelp =>
    simpa [readFrom, hwords, hdashes, hpiece, hhelp] using .refused _
  | case11 _ a arg rest hwords hdashes n value hpiece hhelp hknown _ ih =>
    simp only [readFrom, hwords, hdashes, hpiece, hhelp, hknown]
    simpa [hwords] using ih _ (h.give n value)
  | case12 _ a arg rest hwords hdashes n value hpiece hhelp hknown =>
    simp only [readFrom, hwords, hdashes, hpiece, hhelp, hknown]
    exact .refused _
  | case13 _ a arg rest hwords hdashes flag hpiece hplain _ ih =>
    simp only [readFrom, hwords, hdashes, hpiece, hplain]
    simpa [hwords] using ih _ (h.give flag.name "")
  | case14 _ a arg hwords hdashes flag hpiece hvalue =>
    simp only [readFrom, hwords, hdashes, hpiece, hvalue]
    exact .refused _
  | case15 _ a arg hwords hdashes flag hpiece hvalue value rest text hword _ ih =>
    simp only [readFrom, hwords, hdashes, hpiece, hvalue, hword]
    simpa [hwords] using ih _ (h.give flag.name value)
  | case16 _ a arg hwords hdashes flag hpiece hvalue value rest hother _ =>
    have hwrong : readFrom flags false false a' (arg :: value :: rest) = .error .wrong := by
      simp only [readFrom, hdashes, hpiece, hvalue]
      simp only [Bool.false_eq_true, if_false]
    rw [Bool.not_eq_true] at hwords
    rw [hwords, hwrong]
    exact .refused _

/-- Arguments that can be read by themselves, without two dashes, are read alike when others
follow. If reading stops at a word, none was met. -/
theorem readFrom_append {flags : List Flag} {more : List String} (hmore : more ≠ ["--"])
    (stop wordsOnly : Bool) (a b : Arguments) (args : List String) (hdashes : "--" ∉ args)
    (hgoes : stop = true → b.words = []) (h : readFrom flags stop wordsOnly a args = .ok b) :
    readFrom flags stop wordsOnly a (args ++ more) = readFrom flags stop wordsOnly b more := by
  have hstop : ∀ (a : Arguments) (word : String) (rest : List String),
      (.ok { a.addWord word with rest } : Except Refusal Arguments) = .ok b → stop = false := by
    intro a word rest h
    cases h
    simpa [addWord] using hgoes
  fun_induction readFrom flags stop wordsOnly a args with
  | case1 => cases h; rfl
  | case2 a word rest next ih =>
    have hrest := List.not_mem_of_not_mem_cons hdashes
    cases stop with
    | true => nomatch hstop a word rest h
    | false => simpa [readFrom] using ih hrest (by simpa [next] using h)
  | case4 _ a arg rest _ harg | case5 _ a arg rest _ harg =>
    simp only [beq_iff_eq] at harg
    simp [harg] at hdashes
  | case6 _ a arg rest next hwords harg text hpiece ih =>
    have hrest := List.not_mem_of_not_mem_cons hdashes
    have halone : rest ≠ ["--"] := by
      rintro rfl
      simp at hrest
    have hboth : rest ++ more ≠ ["--"] := by
      cases rest with
      | nil => exact hmore
      | cons first rest => simp_all
    cases stop with
    | true => nomatch hstop a arg rest h
    | false =>
      have hread := ih hrest (by simpa [next, hwords, halone] using h)
      simpa [readFrom, hwords, harg, hpiece, hboth] using hread
  | case3 | case7 | case9 | case10 | case12 | case14 | case16 => cases h
  | case8 _ a arg rest hwords harg hpiece _ ih =>
    have hrest := List.not_mem_of_not_mem_cons hdashes
    simpa [readFrom, hwords, harg, hpiece] using ih hrest h
  | case11 _ a arg rest hwords harg n value hpiece hhelp hknown _ ih =>
    have hrest := List.not_mem_of_not_mem_cons hdashes
    simp only [List.cons_append, readFrom, hwords, harg, hpiece, hhelp, hknown]
    simpa [hwords] using ih hrest h
  | case13 _ a arg rest hwords harg flag hpiece hplain _ ih =>
    have hrest := List.not_mem_of_not_mem_cons hdashes
    simp only [List.cons_append, readFrom, hwords, harg, hpiece, hplain]
    simpa [hwords] using ih hrest h
  | case15 _ a arg hwords harg flag hpiece hvalue value rest text hword _ ih =>
    have hrest := List.not_mem_of_not_mem_cons (List.not_mem_of_not_mem_cons hdashes)
    simp only [List.cons_append, readFrom, hwords, harg, hpiece, hvalue, hword]
    simpa [hwords] using ih hrest h

/-- An argument that is neither two dashes nor ambiguous makes no list of arguments ambiguous. -/
theorem anyAmbiguous_insert {flags : List Flag} {arg : String} (hdashes : arg ≠ "--")
    (harg : classify flags arg ≠ .ambiguous) (before args : List String) :
    anyAmbiguous flags (before ++ arg :: args) = anyAmbiguous flags (before ++ args) := by
  unfold anyAmbiguous
  induction before with
  | nil => simp [hdashes, harg]
  | cons first before ih =>
    by_cases hfirst : first = "--"
    · simp [hfirst]
    · simp [hfirst, ih]

end

/-- The option to be strict is read as given, and all the others as before. -/
theorem read_strict {given more : List String} {a : Arguments}
    (hgiven : read runFlags given = .ok a) (hdashes : "--" ∉ given) (hmore : more ≠ ["--"]) :
    ReadsJoined "--strict" (read runFlags (given ++ more))
      (read runFlags (given ++ "--strict" :: more)) := by
  have hstrict : classify runFlags "--strict" = .option { name := "--strict" } := by decide
  have hambiguous : anyAmbiguous runFlags (given ++ "--strict" :: more) =
      anyAmbiguous runFlags (given ++ more) :=
    anyAmbiguous_insert (by decide) (by simp [hstrict]) given more
  have hread : readFrom runFlags false false {} given = .ok a := by
    unfold read at hgiven
    split at hgiven
    · cases hgiven
    · exact hgiven
  unfold read
  rw [hambiguous]
  split
  · exact .refused _
  · have hoption : readFrom runFlags false false a ("--strict" :: more) =
        readFrom runFlags false false (a.give "--strict" "") more := by
      simp [readFrom, hstrict]
    rw [readFrom_append hmore false false {} a given hdashes (by simp) hread,
      readFrom_append (by simp) false false {} a given hdashes (by simp) hread, hoption]
    exact readFrom_joined _ _ _ _ _ (.of_give _ _ _)

/-- The arguments that may stand before a command: options of the program with their values. -/
def Precede (before : List String) : Prop :=
  "--" ∉ before ∧ ∃ b, readToWord mainFlags before = .ok b ∧ b.words = []

/-- Reading stops at the command, whatever comes after it. -/
theorem readToWord_command {before : List String} {command : String}
    (hcommand : classify mainFlags command = .word command) (hdashes : command ≠ "--")
    (h : Precede before) : ∃ b : Arguments, b.words = [command] ∧
      ∀ args, readToWord mainFlags (before ++ command :: args) =
        if anyAmbiguous mainFlags (before ++ command :: args) then .error .wrong
        else .ok { b with rest := args } := by
  obtain ⟨hbefore, b, hread, hnone⟩ := h
  have hfrom : readFrom mainFlags true false {} before = .ok b := by
    unfold readToWord at hread
    split at hread
    · cases hread
    · exact hread
  refine ⟨b.addWord command, by simp [addWord, hnone], fun args => ?_⟩
  have happend := readFrom_append (by simp [hdashes] : command :: args ≠ ["--"]) true false {} b
    before hbefore (fun _ => hnone) hfrom
  unfold readToWord
  rw [happend]
  simp [readFrom, hcommand, hdashes]

end Arguments

/-! ## Sessions of the program -/

/-- The second run ends as the first one does, and has printed and written the same. -/
structure SameEnd (p q : Except Fault α × Shell) : Prop where
  result : q.1 = p.1
  out : q.2.out = p.2.out
  files : q.2.disk.files = p.2.disk.files

theorem SameEnd.refl (p : Except Fault α × Shell) : SameEnd p p :=
  ⟨rfl, rfl, rfl⟩

/-- The first run goes through the handler of errors where the second one raises. -/
inductive Reports (report : StoryError → Action Shell α) :
    Except Fault α × Shell → Except Fault α × Shell → Prop where
  | same {p q : Except Fault α × Shell} : SameEnd p q → Reports report p q
  | raised {error : StoryError} {s t : Shell} : t.out = s.out → t.disk.files = s.disk.files →
    Reports report ((report error).perform s) (.error (.story error), t)

/-- Two actions that start in the same way. -/
theorem perform_bind_relates {P : Except Fault β × Shell → Except Fault β × Shell → Prop}
    (hrefl : ∀ p, P p p) {x : Action Shell α} {f g : α → Action Shell β}
    (h : ∀ a s, P ((f a).perform s) ((g a).perform s)) (s : Shell) :
    P ((x >>= f).perform s) ((x >>= g).perform s) := by
  rcases hrun : x.perform s with ⟨e | a, t⟩
  · rw [Action.perform_bind_error hrun, Action.perform_bind_error hrun]
    exact hrefl _
  · rw [Action.perform_bind_ok hrun, Action.perform_bind_ok hrun]
    exact h a t

/-- What follows does the same whatever is in the log. -/
theorem Reports.bind {report : StoryError → Action Shell α} {x y : Action Shell α}
    {k : α → Action Shell β} {s : Shell}
    (hk : ∀ a (t u : Shell), u.out = t.out → u.disk.files = t.disk.files →
      SameEnd ((k a).perform t) ((k a).perform u))
    (h : Reports report (x.perform s) (y.perform s)) :
    Reports (fun error => report error >>= k) ((x >>= k).perform s) ((y >>= k).perform s) := by
  generalize hx : x.perform s = p at h
  generalize hy : y.perform s = q at h
  cases h with
  | same hsame =>
    obtain ⟨r, t⟩ := p
    obtain ⟨r', u⟩ := q
    obtain ⟨hresult, hout, hfiles⟩ := hsame
    obtain rfl : r' = r := hresult
    cases r' with
    | error f =>
      rw [Action.perform_bind_error hx, Action.perform_bind_error hy]
      exact .same ⟨rfl, hout, hfiles⟩
    | ok a =>
      rw [Action.perform_bind_ok hx, Action.perform_bind_ok hy]
      exact .same (hk a t u hout hfiles)
  | @raised error t u hout hfiles =>
    rw [Action.perform_bind_congr hx, Action.perform_bind_error hy]
    exact .raised hout hfiles

section
variable {σ : Type} {c : Collaborators σ}

/-- What the program takes over from a session. -/
def takeOver (printed : σ → String) (s : Shell) (p : Except Fault Unit × Engine σ) :
    Except Fault (Option StoryError) × Shell :=
  (p.1.map fun _ => p.2.error,
    { s with disk := p.2.stage.disk, out := s.out ++ printed p.2.outside })

theorem session_perform (c : Collaborators σ) (setup : Engine.Setup) (b : Bool) (outside : σ)
    (printed : σ → String) (play : Play σ Unit) (s : Shell) :
    (session c { setup with strict := b } outside printed play).perform s =
      match Engine.ofSetup { setup with disk := s.disk, dice := s.dice, now := s.now } outside with
      | .error f => (.error f, s)
      | .ok e => takeOver printed s
          ((Engine.enterLoading c >>= fun _ => play).perform (e.strictly b)) := by
  have hsetup := Engine.ofSetup_strictly
    { setup with disk := s.disk, dice := s.dice, now := s.now } outside b
  unfold session
  rw [Action.perform_get_bind]
  dsimp only at hsetup ⊢
  rw [hsetup]
  cases Engine.ofSetup { setup with disk := s.disk, dice := s.dice, now := s.now } outside with
  | error f => rfl
  | ok e =>
    have hstart : (Action.ofExcept (.ok (e.strictly b)) : Action Shell (Engine σ)).perform s =
        (.ok (e.strictly b), s) := rfl
    simp only [Except.map]
    rw [Action.perform_bind_ok hstart]
    rcases (Engine.enterLoading c >>= fun _ => play).perform (e.strictly b) with ⟨f | _, e'⟩
    · rfl
    · rfl

/-- A session that is loaded and driven without a screen, by an engine and by the engine made
strict. -/
theorem played_strictly (hc : c.Discreet) {e : Engine σ} (he : e.strict = false) (choices : Value)
    (rounds : Int) :
    let play : Play σ Unit := do
      Engine.enterLoading c
      Engine.runHeadless c choices (.int rounds)
    (play.perform (e.strictly true)).2.unlogged = ((play.perform e).2.strictly true).unlogged ∧
      ((play.perform (e.strictly true)).1 = (play.perform e).1 ∨
        ∃ error, (play.perform e).1 = .ok () ∧ (play.perform e).2.error = some error ∧
          (play.perform (e.strictly true)).1 = .error (.story error)) := by
  have hneutral := Engine.enterLoading_neutral hc
  have hload := Oblivious.strictly hneutral.oblivious e true
  have hlax := Oblivious.lax hneutral.oblivious he
  rcases hrun : (Engine.enterLoading c).perform e with ⟨f | _, e₁⟩
  · rw [hrun] at hload
    dsimp only
    rw [Action.perform_bind_error hrun, Action.perform_bind_error hload]
    exact ⟨rfl, .inl rfl⟩
  · rw [hrun] at hload hlax
    dsimp only
    rw [Action.perform_bind_ok hrun, Action.perform_bind_ok hload]
    refine ⟨Engine.runHeadless_state hc hlax choices rounds, ?_⟩
    exact (Engine.runHeadless_raisesEnd hc hlax choices rounds).result.imp_right
      fun ⟨_, error, hok, hended, hraised⟩ => ⟨error, hok, hended.2.2, hraised⟩

theorem session_reports (hc : c.Discreet) (setup : Engine.Setup) (outside : σ)
    (printed : σ → String) (choices : Value) (rounds : Int) (s : Shell) :
    Reports (fun error => pure (some error))
      ((session c { setup with strict := false } outside printed
        (Engine.runHeadless c choices (.int rounds))).perform s)
      ((session c { setup with strict := true } outside printed
        (Engine.runHeadless c choices (.int rounds))).perform s) := by
  rw [session_perform, session_perform]
  cases Engine.ofSetup { setup with disk := s.disk, dice := s.dice, now := s.now } outside with
  | error f => exact .same (.refl _)
  | ok e =>
    obtain ⟨hstate, hresult⟩ := played_strictly hc (e := e.strictly false) rfl choices rounds
    dsimp only at hstate hresult ⊢
    have hstrict : e.strictly true = (e.strictly false).strictly true := rfl
    rw [hstrict]
    generalize (Engine.enterLoading c >>= _).perform (e.strictly false) = p at hstate hresult ⊢
    generalize (Engine.enterLoading c >>= _).perform ((e.strictly false).strictly true) = q
      at hstate hresult ⊢
    have hfiles := congrArg (fun e : Engine σ => e.stage.disk.files) hstate
    have houtside := congrArg Engine.outside hstate
    have herror := congrArg Engine.error hstate
    simp only [Engine.unlogged, Engine.mapStage, Engine.strictly] at hfiles houtside herror
    have hout : (takeOver printed s q).2.out = (takeOver printed s p).2.out := by
      simp only [takeOver, houtside]
    rcases hresult with hsame | ⟨error, hok, hended, hraised⟩
    · exact .same ⟨by simp only [takeOver, hsame, herror], hout, hfiles⟩
    · have hlax : takeOver printed s p =
          (pure (some error) : Action Shell _).perform (takeOver printed s p).2 := by
        simp only [takeOver, hok, hended]
        rfl
      have hraises : takeOver printed s q =
          (.error (.story error), (takeOver printed s q).2) := by
        simp only [takeOver, hraised]
        rfl
      rw [hlax, hraises]
      exact .raised hout hfiles

end

/-! ## Commands -/

/-- Prints the error that has ended a session. -/
def reportError (error : StoryError) : Action Shell Nat := do
  printLine s!"Error: {error.text}"
  return 1

theorem reportError_sameEnd (error : StoryError) {s t : Shell} (hout : t.out = s.out)
    (hfiles : t.disk.files = s.disk.files) :
    SameEnd ((reportError error).perform s) ((reportError error).perform t) where
  result := rfl
  out := congrArg (· ++ _ ++ "\n") hout
  files := hfiles

/-- What the command line does once a session has ended. -/
def reportEnd : Option StoryError → Action Shell Nat
  | some error => reportError error
  | none => pure 0

theorem reportEnd_sameEnd (error : Option StoryError) {s t : Shell} (hout : t.out = s.out)
    (hfiles : t.disk.files = s.disk.files) :
    SameEnd ((reportEnd error).perform s) ((reportEnd error).perform t) := by
  cases error with
  | none => exact ⟨rfl, hout, hfiles⟩
  | some error => exact reportError_sameEnd error hout hfiles

namespace Arguments.Joins

variable {name : String} {a a' : Arguments} (h : Joins name a a')
include h

theorem given_other {n : String} (hn : n ≠ name) : a'.given n = a.given n := by
  simp only [Arguments.given, Table.has, h.values n hn]

theorem value? {n : String} (hn : n ≠ name) : a'.value? n = a.value? n := by
  simp only [Arguments.value?, h.values n hn]

end Arguments.Joins

section
variable {a a' : Arguments} (h : Arguments.Joins "--strict" a a')
  (hheadless : a.given "--pygame" = false)
include h hheadless

theorem run_reports (p : Files.Path) (s : Shell) :
    Reports reportError ((run a p).perform s) ((run a' p).perform s) := by
  have hsame : ∀ p, Reports reportError p p := fun p => .same (.refl p)
  refine perform_bind_relates hsame (fun found s => ?_) s
  cases found with
  | none => exact hsame _
  | some script =>
    dsimp only
    rw [h.values "--config" (by decide), h.value? (by decide), h.values "--choices" (by decide),
      h.given_other (n := "--pygame") (by decide), h.given, hheadless]
    refine perform_bind_relates hsame (fun config s => ?_) s
    cases choicesOf (Table.get? "--choices" a.values) with
    | none => exact hsame _
    | some choices =>
      simp only [playConsole, h.given_other (n := "--echo") (by decide), Bool.false_eq_true,
        if_false]
      cases a.given "--strict" with
      | true => exact hsame _
      | false =>
        let setup : Engine.Setup :=
          { script, config, library := some { shelf := .folder p.parent }
            saves := some (.folder (((a.value? "--saves").map Files.Path.ofText).getD
              (p.parent.join "saves"))) }
        have hsession := session_reports (Collaborators.console_discreet .whole) setup
          { echo := a.given "--echo" } Console.output (.list choices) 100000 s
        exact Reports.bind (k := reportEnd) (fun error _ _ => reportEnd_sameEnd error) hsession

/-- The error of a strict session is printed as that of a lax one is. -/
theorem runReporting_sameEnd (p : Files.Path) (s : Shell) :
    SameEnd ((runReporting a p).perform s) ((runReporting a' p).perform s) := by
  have hrun := run_reports h hheadless p s
  unfold runReporting
  rw [Action.perform_bind_ok Action.perform_outcome, Action.perform_bind_ok Action.perform_outcome]
  generalize (run a p).perform s = x at hrun
  generalize (run a' p).perform s = y at hrun
  cases hrun with
  | same hsame =>
    obtain ⟨r, t⟩ := x
    obtain ⟨r', u⟩ := y
    obtain ⟨hresult, hout, hfiles⟩ := hsame
    obtain rfl : r' = r := hresult
    rcases r' with (error | m) | code
    · exact reportError_sameEnd error hout hfiles
    · exact ⟨rfl, hout, hfiles⟩
    · exact ⟨rfl, hout, hfiles⟩
  | @raised error t u hout hfiles => exact reportError_sameEnd error hout hfiles

end

theorem SameEnd.map {x y : Action Shell α} {s : Shell} (h : SameEnd (x.perform s) (y.perform s))
    (f : α → β) : SameEnd ((f <$> x).perform s) ((f <$> y).perform s) := by
  rw [Action.perform_map, Action.perform_map]
  exact ⟨by rw [h.result], h.out, h.files⟩

theorem onScript_sameEnd (name : String) {f g : Files.Path → Action Shell Nat}
    (h : ∀ p s, SameEnd ((f p).perform s) ((g p).perform s)) (s : Shell) :
    SameEnd ((onScript name f).perform s) ((onScript name g).perform s) := by
  unfold onScript
  refine perform_bind_relates .refl (fun e s => ?_) s
  refine perform_bind_relates .refl (fun there s => ?_) s
  cases there with
  | false => exact .refl _
  | true =>
    have hmap := (h (.ofText name) s).map Status.returned
    rw [map_eq_pure_bind, map_eq_pure_bind] at hmap
    exact hmap

/-- What is done to run a script, once the arguments are read; `stray` says whether an option is not
known that stands before the command. -/
def runRead (stray : Bool) : Except Refusal Arguments → Action Shell Status
  | .error r => refuse r
  | .ok a =>
    match a.words, a.stray || stray with
    | [script], false => onScript script fun p => runReporting a p
    | _, _ => refuse .wrong

theorem execute_run {before : List String} (h : Arguments.Precede before) :
    ∃ stray, ∀ args, execute (before ++ "run" :: args) =
      if Arguments.anyAmbiguous mainFlags (before ++ "run" :: args) then refuse .wrong
      else runRead stray (Arguments.read runFlags args) := by
  have hcommand : classify mainFlags "run" = .word "run" := by decide
  obtain ⟨b, hwords, hread⟩ := Arguments.readToWord_command hcommand (by decide) h
  refine ⟨b.stray, fun args => ?_⟩
  unfold execute
  rw [hread]
  by_cases hambiguous : Arguments.anyAmbiguous mainFlags (before ++ "run" :: args)
  · simp [hambiguous]
  · simp only [hambiguous, hwords]
    rfl

/-- A script is run alike with the option to be strict and without it. -/
theorem execute_sameEnd {before given more : List String} (hbefore : Arguments.Precede before)
    {b : Arguments} (hgiven : Arguments.read runFlags given = .ok b) (hdashes : "--" ∉ given)
    (hmore : more ≠ ["--"])
    (hheadless : ∀ a, Arguments.read runFlags (given ++ more) = .ok a →
      a.given "--pygame" = false) (s : Shell) :
    SameEnd ((execute (before ++ "run" :: (given ++ more))).perform s)
      ((execute (before ++ "run" :: (given ++ "--strict" :: more))).perform s) := by
  obtain ⟨stray, hexecute⟩ := execute_run hbefore
  have hambiguous :
      Arguments.anyAmbiguous mainFlags (before ++ "run" :: given ++ "--strict" :: more) =
        Arguments.anyAmbiguous mainFlags (before ++ "run" :: given ++ more) :=
    Arguments.anyAmbiguous_insert (by decide) (by decide) _ _
  simp only [List.append_assoc, List.cons_append] at hambiguous
  rw [hexecute, hexecute, hambiguous]
  split
  · exact .refl _
  · have hread := Arguments.read_strict hgiven hdashes hmore
    generalize hlax : Arguments.read runFlags (given ++ more) = r at hread
    generalize Arguments.read runFlags (given ++ "--strict" :: more) = r' at hread
    cases hread with
    | refused r => exact .refl _
    | @read a a' hjoins =>
      have hrun := runReporting_sameEnd hjoins (hheadless a hlax)
      simp only [runRead, hjoins.words, hjoins.stray]
      split
      · exact onScript_sameEnd _ hrun s
      · exact .refl _

end Cli

/-! ## Strict and lax engines -/

/-- Whether an engine is strict changes only how an error is reported, if its collaborators do not
call back. It is set up and loads in the same way, and any row of calls leaves the same engine,
with all that its collaborators remember: the intents, the events and that they heard of the end. A
call answers the same, unless it ends the session with an error: that it raises. A session that is
driven without a screen leaves the same engine up to the log.

So the program runs a script alike with the option to be strict and without it, wherever an option
can stand. -/
theorem strict_only_raises :
    (∀ {σ : Type} (c : Collaborators σ), c.Discreet →
      (∀ (setup : Engine.Setup) (outside : σ),
        Engine.ofSetup { setup with strict := true } outside =
          (Engine.ofSetup { setup with strict := false } outside).map (Engine.strictly true) ∧
        ∀ e, Engine.ofSetup { setup with strict := false } outside = .ok e →
          let e₁ := ((Engine.enterLoading c).perform e).2
          e.strict = false ∧ e₁.strict = false ∧ e₁.Honest) ∧
      ∀ e : Engine σ, e.strict = false →
        (Engine.enterLoading c).perform (e.strictly true) =
          (((Engine.enterLoading c).perform e).1,
            ((Engine.enterLoading c).perform e).2.strictly true) ∧
        ∀ calls : List HostCall, let e₁ := HostCall.runAll c calls e
          HostCall.runAll c calls (e.strictly true) = e₁.strictly true ∧
          (∀ call : HostCall, RaisesEnd (call.answer c) e₁) ∧
          (∀ (choices : Value) (rounds : Int),
            let drive := Engine.runHeadless c choices (.int rounds)
            (drive.perform (e₁.strictly true)).2.unlogged =
              ((drive.perform e₁).2.strictly true).unlogged ∧ RaisesEnd drive e₁) ∧
          (c.ShowsErrors → e.Honest → e₁.Honest)) ∧
    ∀ (before given more : List String) (a : Cli.Arguments) (s : Cli.Shell),
      Cli.Arguments.Precede before → Cli.Arguments.read Cli.runFlags given = .ok a →
      "--" ∉ given → more ≠ ["--"] →
      (∀ a, Cli.Arguments.read Cli.runFlags (given ++ more) = .ok a →
        a.given "--pygame" = false) →
      Cli.SameEnd ((Cli.execute (before ++ "run" :: (given ++ more))).perform s)
        ((Cli.execute (before ++ "run" :: (given ++ "--strict" :: more))).perform s) := by
  refine ⟨fun c hc => ⟨fun setup outside => ⟨?_, fun e hsetup => ?_⟩,
    fun e he => ⟨?_, fun calls => ?_⟩⟩, ?_⟩
  · rw [Engine.ofSetup_strictly setup outside true, Engine.ofSetup_strictly setup outside false]
    cases Engine.ofSetup setup outside with
    | error f => rfl
    | ok e => rfl
  · obtain ⟨hlax, hnone⟩ := Engine.ofSetup_fresh hsetup
    have hload := Engine.enterLoading_neutral hc
    exact ⟨hlax, Oblivious.lax hload.oblivious hlax, .inl ((hload.keeps e).elim (·.trans hnone) id)⟩
  · exact Oblivious.strictly (Engine.enterLoading_neutral hc).oblivious e true
  · obtain ⟨hlax, hstate⟩ := HostCall.runAll_strictly hc calls he
    exact ⟨hstate, HostCall.answer_raisesEnd hc hlax, fun choices rounds =>
      ⟨Engine.runHeadless_state hc hlax choices rounds,
        Engine.runHeadless_raisesEnd hc hlax choices rounds⟩,
      fun hshow hhonest => HostCall.runAll_honest hc hshow calls he hhonest⟩
  · intro before given more a s hbefore hgiven hdashes hmore hheadless
    exact Cli.execute_sameEnd hbefore hgiven hdashes hmore hheadless s

/-- A story that goes to a conversation that it does not have. -/
def Engine.straying : Setup :=
  .telling "s" ["x", ".setconversation:gone"]

/-- A folder with the file of such a story. -/
def Cli.Shell.straying : Shell :=
  { disk := { files := .ofListing [(["s.json"], .file (.bytes
      "\x7b\"start\": [\"x\", \".setconversation:gone\"]\x7d".toUTF8))] } }

theorem Collaborators.chronicling_discreet : chronicling.Discreet where
  prepare _ := .pure
  apply _ := .modify fun e => Within.outside e _
  showError _ := .pure
  deliver _ _ := .modify fun e => Within.outside e _
  systemCall _ := .pure
  finished := .modify fun e => Within.outside e _
  heedless _ :=
    { prepare := fun _ => .pure
      apply := fun _ => .modify fun _ => rfl
      showError := fun _ => .pure
      deliver := fun _ _ => .modify fun _ => rfl
      systemCall := fun _ => .pure
      finished := .modify fun _ => rfl }

/-- The story is stopped by an error: the strict engine raises it, and the same is heard of it. The
program prints it in both cases. -/
theorem strict_only_raises_straying : ∃ (e : Engine (List Notice)) (error : StoryError),
    Chronicle.heard Engine.straying [.resourcesReady] = some e ∧
    ((HostCall.advance.answer .chronicling).perform e).1 = .ok (some true) ∧
    ((HostCall.advance.answer .chronicling).perform (e.strictly true)).1 =
      .error (.story error) ∧
    (HostCall.runAll .chronicling [.advance] (e.strictly true)).outside =
      (HostCall.runAll .chronicling [.advance] e).outside ∧
    ((Cli.execute ["run", "s.json"]).perform .straying).1 = .ok (.returned 1) ∧
    Cli.SameEnd ((Cli.execute ["run", "s.json"]).perform .straying)
      ((Cli.execute ["run", "s.json", "--strict"]).perform .straying) := by
  obtain ⟨hengines, hprogram⟩ := strict_only_raises
  have hfacts : (Chronicle.heard Engine.straying [.resourcesReady]).map (fun e =>
      let (r, e') := (HostCall.advance.answer .chronicling).perform e
      ([e.mode, e'.mode], [e.strict, e.error.isNone, e'.error.isSome], r.toOption)) =
      some ([.normal, .ended], [false, true, true], some (some true)) := by
    decide +kernel
  obtain ⟨e, he, hfacts⟩ := Option.map_eq_some_iff.1 hfacts
  simp only [Prod.mk.injEq, List.cons.injEq, and_true] at hfacts
  obtain ⟨⟨hmode, hended⟩, ⟨hlax, hnone, herror⟩, hanswer⟩ := hfacts
  obtain ⟨error, herror⟩ := Option.isSome_iff_exists.1 herror
  have hanswer := toOption_eq_some.1 hanswer
  obtain ⟨-, hall⟩ := hengines .chronicling Collaborators.chronicling_discreet
  obtain ⟨-, hcalls⟩ := hall e hlax
  have hraises := (hcalls []).2.1 .advance
  refine ⟨e, error, he, hanswer, ?_, ?_, ?_, ?_⟩
  · exact hraises.raised (.inl (Option.isNone_iff_eq_none.1 hnone)) _ error hanswer
      ⟨by simp [HostCall.runAll, hmode], hended, herror⟩
  · have hstate := congrArg Engine.outside (hcalls [.advance]).1
    exact hstate
  · have hrun : (((Cli.execute ["run", "s.json"]).perform .straying).1.toOption) =
        some (.returned 1) := by
      decide +kernel
    exact toOption_eq_some.1 hrun
  · have hread : Cli.Arguments.read Cli.runFlags ["s.json"] = .ok { words := ["s.json"] } := by
      decide
    refine hprogram [] ["s.json"] [] _ .straying ⟨by decide, {}, by decide, rfl⟩ hread
      (by decide) (by decide) fun a ha => ?_
    rw [List.append_nil, hread] at ha
    cases ha
    rfl

end VisualNovel
