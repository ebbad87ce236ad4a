import VisualNovel.Proofs.Impasses

/-!
# Choosing

An option that is on the menu is taken before the story is played on (`Engine.choose_takes`): the
menu is cleared, and then the conversation of the option is entered at its start, or the delta of
the option is added to its flag and the beat at the cursor is completed.

A choice may be any value. If it is the number of an option, that option is taken; if it is not, the
session ends with an error that names it (`choice_taken_or_refused`).

There are values for which neither happens, and the call is broken off with the menu still up: a
double that is infinite, and a choice off the menu that has too many digits to be written into the
error (`Value.Slips`).
-/

namespace VisualNovel

open Script

variable {σ : Type}

/-! ## Taking an option -/

namespace ChoiceOption

/-- The option leads to a conversation of the script, or it has a whole number as its delta. -/
inductive Leads (script : Script) (o : ChoiceOption) : Prop where
  | enters {name : String} : o.conversation = .text name → script.contains name → Leads script o
  | adjusts {n : Int} : o.conversation = .null → o.delta.toInt = .ok n → Leads script o

/-- How an option changes a session. -/
inductive Takes (o : ChoiceOption) (x : Session) : Session → Prop where
  | enters {name : String} {beats : Array Beat} : o.conversation = .text name →
    x.cursor.script.lookup name = .ok beats →
    Takes o x { x with cursor := { script := x.cursor.script, beats, conversation := name } }
  | adjusts {n : Int} : o.conversation = .null → o.delta.toInt = .ok n →
    Takes o x { x with flags := x.flags.modify o.flag.shown n, cursor := x.cursor.advance }

end ChoiceOption

theorem Script.lookup_of_contains {script : Script} {name : String} (h : script.contains name) :
    ∃ beats, script.lookup name = .ok beats := by
  obtain ⟨beats, hbeats⟩ := Option.isSome_iff_exists.1 h
  refine ⟨beats, ?_⟩
  unfold lookup
  rw [hbeats]

namespace Engine

open HostCall

/-- An option that leads somewhere is taken. -/
theorem followOn_takes {option : ChoiceOption} {s : Stage}
    (h : option.Leads s.session.cursor.script) : ∃ x, option.Takes s.session x ∧
      (followOn option).perform s = (.ok (), { s with session := x }) := by
  cases h with
  | @enters name hname hcontains =>
    obtain ⟨beats, hbeats⟩ := Script.lookup_of_contains hcontains
    refine ⟨_, .enters hname hbeats, ?_⟩
    have hnamed : s.session.cursor.script.named (.text name) = .ok name := by
      unfold Script.named
      exact if_pos hcontains
    have hcursor : s.session.cursor.switchTo name =
        .ok { script := s.session.cursor.script, beats, conversation := name } := by
      unfold Cursor.switchTo Cursor.start
      rw [hbeats]
      rfl
    unfold followOn
    rw [hname]
    unfold Stage.switchConversation
    rw [Action.perform_get_bind]
    dsimp only
    have hname' : (Action.ofExcept (.ok name) : Action Stage String).perform s = (.ok name, s) :=
      rfl
    rw [hnamed, Action.perform_bind_ok hname', hcursor]
    rfl
  | @adjusts n hnull hdelta =>
    refine ⟨_, .adjusts hnull hdelta, ?_⟩
    unfold followOn
    rw [hnull, hdelta]
    rfl

variable {c : Collaborators σ} {e : Engine σ} {options : List ChoiceOption} {index : Value}
  {place : Nat} {option : ChoiceOption}

/-- **An option that is on the menu is taken before the story is played on.** The renderer is told
to clear the menu; if it does, the option changes the session, and a step follows. -/
theorem choose_takes (hdeliver : ∀ id event, Tracks Within (c.deliver id event))
    (hmenu : e.menu = some options) (hmode : e.mode = .awaitingChoice)
    (hplace : placeOf index options.length = .ok place) (hoption : options[place]? = some option) :
    ∃ f, Within { e with menu := none } f ∧
      ∀ f', (c.apply (some clearing)).perform f = (.ok (), f') →
        option.Leads f'.cursor.script → ∃ x, option.Takes f'.session x ∧
          ∃ e', Within { f' with stage.session := x.release, mode := .normal } e' ∧
            (choose c index).perform e =
              ((do discard (step c); return true : Play σ Bool)).perform e' := by
  let event : Event := .choiceSelected place option.text
  refine ⟨_, emit_within hdeliver event _, fun f' hclear hleads => ?_⟩
  obtain ⟨x, htakes, hfollow⟩ := followOn_takes hleads
  refine ⟨x, htakes, _, setMode_within hdeliver .normal { f' with stage.session := x.release }, ?_⟩
  have hpick : (pick c options index).perform e =
      (setMode c .normal).perform { f' with stage.session := x.release } := by
    rw [pick_perform hplace hoption]
    have hcleared : (send c .clearChoices).perform
        ((emit c event).perform { e with menu := none }).2 = (.ok (), f') := hclear
    have hfollows : (onStage (followOn option)).perform f' =
        (.ok (), { f' with stage.session := x }) := by
      unfold onStage
      rw [Action.perform_onPart]
      show (((followOn option).perform f'.stage).1,
        stagePlace.set ((followOn option).perform f'.stage).2 f') = _
      rw [hfollow]
      rfl
    unfold leaveMenu
    rw [Action.perform_bind_ok (emit_perform c event _), Action.perform_bind_ok hcleared, follow_eq,
      Action.perform_bind_ok hfollows]
    rfl
  unfold choose
  rw [Action.perform_get_bind, hmenu]
  simp only [Option.filter_some, hmode, beq_self_eq_true, if_true]
  rw [Action.perform_bind_ok Action.perform_outcome, hpick, setMode_perform]
  rfl

end Engine

/-! ## What is passed as a choice -/

open Number

namespace Value

/-- A value is passed to a menu of so many options, and neither is it the number of one nor can it
be refused. -/
inductive Slips (count : Nat) : Value → Mishap → Prop where
  | infinite {x : Float} {negative : Bool} : decode x = .infinite negative →
    Slips count (.float x) .overflow
  | number {v : Value} {n : Int} : v.toInt = .ok n → ¬(0 ≤ n ∧ n < count) → writableInt n = false →
    Slips count v .badValue
  | within {v : Value} : v.toInt = .error .wrongType → v.hasText = false → Slips count v .badValue

/-- A choice as the error names it: the whole number that it is read as, or the choice itself. -/
def asChoice (v : Value) : Value :=
  match v.toInt with
  | .ok n => .int n
  | .error _ => v

theorem toInt_overflow {v : Value} (h : v.toInt = .error .overflow) :
    ∃ x negative, v = .float x ∧ decode x = .infinite negative := by
  cases v with
  | float x =>
    change truncate x = _ at h
    unfold truncate at h
    split at h
    · cases h
    · next negative hinfinite => exact ⟨x, negative, rfl, hinfinite⟩
    · cases h
  | text s | bytes s =>
    simp only [toInt] at h
    split at h
    · cases h
    · cases h
  | _ => cases h

theorem hasText_int (n : Int) : (int n).hasText = writableInt n := by
  rw [hasText]

/-- A value that is converted, but not to a whole number, can be written. -/
theorem hasText_of_badValue {v : Value} (h : v.toInt = .error .badValue) : v.hasText := by
  cases v with
  | int n => cases h
  | list items => cases h
  | record fs => cases h
  | _ => simp [hasText]

theorem toInt_mishap {v : Value} {m : Mishap} (h : v.toInt = .error m) :
    m = .overflow ∨ m = .badValue ∨ m = .wrongType := by
  cases v with
  | float x =>
    change truncate x = _ at h
    unfold truncate at h
    split at h
    · cases h
    · exact .inl (Except.error.inj h).symm
    · exact .inr (.inl (Except.error.inj h).symm)
  | text s | bytes s =>
    simp only [toInt] at h
    split at h
    · cases h
    · exact .inr (.inl (Except.error.inj h).symm)
  | bool _ | int _ | uid _ => cases h
  | nan _ => exact .inr (.inl (Except.error.inj h).symm)
  | _ => exact .inr (.inr (Except.error.inj h).symm)

end Value

namespace HostCall

open Engine Value

/-- The story's error about a choice that is not on a menu of so many options. -/
def refusal (index : Value) (count : Nat) : StoryError :=
  { cause := .choiceIndex index.asChoice count }

variable {index : Value} {count : Nat}

theorem placeOf_number {place : Nat} (hint : index.toInt = .ok (place : Int))
    (hlt : place < count) :
    placeOf index count = .ok place := by
  simp [placeOf, hint, hlt]

theorem offMenu_of_hasText (h : index.hasText) :
    offMenu index count = .story { cause := .choiceIndex index count } := by
  simp [offMenu, Value.display, h]

theorem offMenu_of_not_hasText (h : index.hasText = false) :
    offMenu index count = .mishap .badValue := by
  simp [offMenu, Value.display, h]

theorem placeOf_off {n : Int} (hint : index.toInt = .ok n) (hoff : ¬(0 ≤ n ∧ n < count)) :
    placeOf index count = .error (offMenu (.int n) count) := by
  unfold placeOf
  simp only [hint]
  rw [if_neg (by simpa using hoff)]

theorem placeOf_slips {m : Mishap} (h : Slips count index m) :
    placeOf index count = .error (.mishap m) := by
  cases h with
  | infinite hinfinite => simp [placeOf, toInt, truncate, hinfinite]
  | @number _ n hint hoff hlong =>
    rw [placeOf_off hint hoff, offMenu_of_not_hasText ((hasText_int n).trans hlong)]
  | within hwrong hlong => simp [placeOf, hwrong, offMenu_of_not_hasText hlong]

/-- What is neither the number of an option nor slips through is refused. -/
theorem placeOf_refuses (hoff : ∀ place : Nat, index.toInt = .ok (place : Int) → count ≤ place)
    (hslips : ∀ m, ¬Slips count index m) :
    placeOf index count = .error (.story (refusal index count)) := by
  unfold refusal asChoice
  cases hint : index.toInt with
  | ok n =>
    have hout : ¬(0 ≤ n ∧ n < count) := by
      rintro ⟨hpos, hlt⟩
      obtain ⟨place, rfl⟩ := Int.eq_ofNat_of_zero_le hpos
      have := hoff place hint
      omega
    have htext : (Value.int n).hasText := by
      by_contra hlong
      exact hslips _ (.number hint hout (by simpa [hasText_int] using hlong))
    rw [placeOf_off hint hout, offMenu_of_hasText htext]
  | error m =>
    obtain rfl | rfl | rfl := toInt_mishap hint
    · obtain ⟨x, negative, rfl, hinfinite⟩ := toInt_overflow hint
      exact absurd (.infinite hinfinite) (hslips _)
    · simp [placeOf, hint, offMenu_of_hasText (hasText_of_badValue hint)]
    · have htext : index.hasText := by
        by_contra hlong
        exact hslips _ (.within hint (by simpa using hlong))
      simp [placeOf, hint, offMenu_of_hasText htext]

end HostCall

open Engine HostCall

/-! ## Collaborators who hear a choice out -/

/-- Those who hear of a choice, or of an error, do not call back. Only listeners may fail. -/
structure Collaborators.Obliging (c : Collaborators σ) : Prop where
  apply : ∀ i e, Runs False (c.apply (some i)) e fun _ e' => Within e e'
  showError : ∀ text e, Runs False (c.showError text) e fun _ e' => Within e e'
  deliver : ∀ id event, Tracks Within (c.deliver id event)
  finished : ∀ e, Runs False c.finished e fun _ e' => Within e e'

variable {c : Collaborators σ} {e : Engine σ} {options : List ChoiceOption}

theorem Quiet.obliging {w : Watch σ} (hc : Quiet c w False) : c.Obliging where
  apply i e := (hc.apply i e).mono fun _ _ ⟨x, hx, _⟩ => ⟨x, hx⟩
  showError text e := (hc.showError text e).mono fun _ _ ⟨x, hx, _⟩ => ⟨x, hx⟩
  deliver id event := Tracks.iff_ends.2 fun e =>
    (hc.deliver id event e).mono (fun _ _ ⟨x, hx, _⟩ => ⟨x, hx⟩) fun _ _ ⟨x, hx, _⟩ => ⟨x, hx⟩
  finished e := (hc.finished e).mono fun _ _ ⟨x, hx, _⟩ => ⟨x, hx⟩

namespace Engine

/-- The session has ended with an error, and nothing but the surroundings has changed besides. -/
def ClosesWith (error : StoryError) (e e' : Engine σ) : Prop :=
  Within { e.closed with error := some error } e'

/-- A call takes an option of the menu, and then plays on. -/
def Accepts (c : Collaborators σ) (call : Play σ Bool) (option : ChoiceOption) (e : Engine σ) :
    Prop :=
  ∃ x e', option.Takes e.session x ∧
    Within { e with stage.session := x.release, menu := none, mode := .normal } e' ∧
    call.perform e = ((do discard (step c); return true : Play σ Bool)).perform e'

end Engine

/-- An error ends the session of an engine that passes none on. -/
theorem Collaborators.Obliging.fail_ends (hc : c.Obliging) (hstrict : e.strict = false)
    (hmode : e.mode ≠ .ended) (error : StoryError) :
    ∃ e', (fail c error).perform e = (.ok (), e') ∧ ClosesWith error e e' := by
  have aside {e₀ e₁ : Engine σ} {l : List Intent} (h : Within e₀ e₁) :
      Aside Watch.nothing l e₀ e₁ := by
    obtain ⟨x, rfl⟩ := h
    exact ⟨x, rfl, trivial, trivial⟩
  -- What is prepared for a scene and what system calls do plays no part in it.
  have hquiet : Quiet { c with prepare := fun _ => pure (), systemCall := fun _ => pure () }
      Watch.nothing False :=
    { prepare := fun _ e => Aside.refl _ e
      apply := fun i e => (hc.apply i e).mono fun _ _ h => aside h
      showError := fun text e => (hc.showError text e).mono fun _ _ h => aside h
      deliver := fun id event e =>
        Ends.mono (Tracks.iff_ends.1 (hc.deliver id event) e) (fun _ _ h => aside h)
          fun _ _ h => aside h
      systemCall := fun _ e => Aside.refl _ e
      finished := fun e => (hc.finished e).mono fun _ _ h => aside h }
  have hends : Leads False (fail c error) e _ _ := fail_leads hquiet hmode error
  obtain ⟨hok, hfault⟩ := Ends.iff_perform.1 hends
  rcases hrun : (fail c error).perform e with ⟨f | ⟨⟩, e'⟩
  · cases f with
    | story error' =>
      obtain ⟨-, hstrict', -⟩ := hfault _ e' hrun
      rw [hstrict] at hstrict'
      cases hstrict'
    | mishap m => exact (hfault _ e' hrun).elim
  · obtain ⟨⟨x, hx, -⟩, -⟩ := hok _ e' hrun
    exact ⟨e', rfl, x, hx⟩

/-! ## Choices off the menu -/

namespace HostCall

variable {index : Value} (hmenu : e.menu = some options) (hmode : e.mode = .awaitingChoice)
include hmenu hmode

/-- A choice that is off the menu does not get as far as to the renderer. -/
theorem choose_off {f : Fault} (hplace : placeOf index options.length = .error f) :
    (Engine.choose c index).perform e = (do
      match f with
      | .story error =>
        fail c error
        return false
      | .mishap m => throw (.mishap m) : Play σ Bool).perform e := by
  have hpick : (pick c options index).perform e = (.error f, e) := by
    unfold pick
    exact Action.perform_bind_error (by rw [hplace]; rfl)
  unfold Engine.choose
  rw [Action.perform_get_bind, hmenu]
  simp only [Option.filter_some, hmode, beq_self_eq_true, if_true]
  rw [Action.perform_bind_ok Action.perform_outcome, hpick]
  cases f with
  | story error => rfl
  | mishap m => rfl

theorem choose_slips {m : Mishap} (h : index.Slips options.length m) :
    (Engine.choose c index).perform e = (.error (.mishap m), e) := by
  rw [choose_off hmenu hmode (placeOf_slips h)]
  rfl

theorem choose_refuses (hc : c.Obliging) (hstrict : e.strict = false)
    (hoff : ∀ place : Nat, index.toInt = .ok (place : Int) → options.length ≤ place)
    (hslips : ∀ m, ¬index.Slips options.length m) :
    ∃ e', (Engine.choose c index).perform e = (.ok false, e') ∧
      ClosesWith (refusal index options.length) e e' := by
  obtain ⟨e', hfail, hends⟩ := hc.fail_ends hstrict (e := e) (by simp [hmode])
    (refusal index options.length)
  refine ⟨e', ?_, hends⟩
  rw [choose_off hmenu hmode (placeOf_refuses hoff hslips)]
  dsimp only
  rw [Action.perform_bind_ok hfail]
  rfl

theorem choose_accepts (hc : c.Obliging) {place : Nat} {option : ChoiceOption}
    (hint : index.toInt = .ok (place : Int)) (hoption : options[place]? = some option)
    (hleads : option.Leads e.cursor.script) : Accepts c (Engine.choose c index) option e := by
  have hlt : place < options.length := (List.getElem?_eq_some_iff.1 hoption).1
  obtain ⟨f, hf, htakes⟩ := choose_takes hc.deliver hmenu hmode (placeOf_number hint hlt) hoption
  obtain ⟨⟨⟩, f', hclear, hf'⟩ := (hc.apply clearing f).performs
  obtain ⟨y, rfl⟩ : Within { e with menu := none } f' := trans_of Within hf hf'
  obtain ⟨x, hx, e', he', hrun⟩ := htakes _ hclear hleads
  exact ⟨x, e', hx, trans_of Within ⟨y, rfl⟩ he', hrun⟩

end HostCall

/-- **What is passed as a choice is taken, or the session ends with an error about it.** Some values
slip through: the call is broken off, and the menu stays up. -/
theorem choice_taken_or_refused (hc : c.Obliging) (hmenu : e.menu = some options)
    (hmode : e.mode = .awaitingChoice) (hstrict : e.strict = false)
    (hleads : ∀ o ∈ options, o.Leads e.cursor.script) (index : Value) :
    (∀ (place : Nat) option, index.toInt = .ok (place : Int) → options[place]? = some option →
      Accepts c (Engine.choose c index) option e) ∧
    ((∀ place : Nat, index.toInt = .ok (place : Int) → options.length ≤ place) →
      (∀ m, ¬index.Slips options.length m) →
      ∃ e', (Engine.choose c index).perform e = (.ok false, e') ∧
        ClosesWith (refusal index options.length) e e') ∧
    ∀ m, index.Slips options.length m →
      (Engine.choose c index).perform e = (.error (.mishap m), e) := by
  refine ⟨fun place option hint hoption => ?_, fun hoff hslips => ?_, fun m hslips => ?_⟩
  · exact choose_accepts hmenu hmode hc hint hoption (hleads option (List.mem_of_getElem? hoption))
  · exact choose_refuses hmenu hmode hc hstrict hoff hslips
  · exact choose_slips hmenu hmode hslips

/-! ## A menu of two options -/

/-- Whether there are two options, which lead to the conversations of the story. -/
def Trial.leadsOn : List ChoiceOption → Bool
  | [one, two] =>
    (Value.text "one").equal one.conversation && (Value.text "two").equal two.conversation
  | _ => false

theorem Trial.exists_of_leadsOn {options : List ChoiceOption} (h : leadsOn options) :
    ∃ one two, options = [one, two] ∧ one.conversation = .text "one" ∧
      two.conversation = .text "two" := by
  unfold leadsOn at h
  split at h
  · next one two =>
    obtain ⟨hone, htwo⟩ := Bool.and_eq_true_iff.1 h
    exact ⟨one, two, rfl, Value.text_equal_iff.1 hone, Value.text_equal_iff.1 htwo⟩
  · cases h

/-- The menu of a story is up, and its conversations are there. -/
theorem Trial.playing_asking : ∃ (e : Engine (List Intent)) (options : List ChoiceOption),
    playing .recording asking [.resourcesReady] = some e ∧ e.menu = some options ∧
      e.mode = .awaitingChoice ∧ e.strict = false ∧ (∀ o ∈ options, o.Leads e.cursor.script) ∧
      options.map ChoiceOption.conversation = [.text "one", .text "two"] := by
  have hfacts : (playing .recording asking [.resourcesReady]).map (fun e =>
      e.menu.any leadsOn && e.mode == .awaitingChoice && !e.strict &&
        (e.cursor.script.contains "one" && e.cursor.script.contains "two")) = some true := by
    decide +kernel
  obtain ⟨e, he, hfacts⟩ := Option.map_eq_some_iff.1 hfacts
  simp only [Bool.and_eq_true, beq_iff_eq, Bool.not_eq_true'] at hfacts
  obtain ⟨⟨⟨hmenu, hmode⟩, hstrict⟩, hfirst, hsecond⟩ := hfacts
  obtain ⟨options, hmenu, hleads⟩ := (Option.any_eq_true _ _).1 hmenu
  obtain ⟨one, two, rfl, hone, htwo⟩ := exists_of_leadsOn hleads
  refine ⟨e, [one, two], he, hmenu, hmode, hstrict, fun o ho => ?_, by simp [hone, htwo]⟩
  obtain rfl | rfl := List.mem_pair.1 ho
  · exact .enters hone hfirst
  · exact .enters htwo hsecond

/-- The second option of a menu is chosen by its number as a text. A word is refused. -/
theorem choice_taken_or_refused_asking : ∃ (e : Engine (List Intent)) (options : List ChoiceOption),
    Trial.playing .recording Trial.asking [.resourcesReady] = some e ∧
      e.menu = some options ∧ e.mode = .awaitingChoice ∧ e.strict = false ∧
      (∀ o ∈ options, o.Leads e.cursor.script) ∧
      (∃ option, options[1]? = some option ∧ option.conversation = .text "two" ∧
        Accepts .recording (Engine.choose .recording (.text "1")) option e) ∧
      ∃ e', (Engine.choose .recording (.text "left")).perform e = (.ok false, e') ∧
        ClosesWith (refusal (.text "left") 2) e e' := by
  obtain ⟨e, options, he, hmenu, hmode, hstrict, hleads, hlead⟩ := Trial.playing_asking
  have hall := choice_taken_or_refused Collaborators.recording_quiet.obliging hmenu hmode hstrict
    hleads
  obtain ⟨one, two, rfl⟩ : ∃ one two, options = [one, two] :=
    List.length_eq_two.1 (by simpa using congrArg List.length hlead)
  have hnumber : (Value.text "1").toInt = .ok ((1 : Nat) : Int) := by decide +kernel
  have hword : (Value.text "left").toInt = .error .badValue := by decide +kernel
  refine ⟨e, _, he, hmenu, hmode, hstrict, hleads, ⟨two, rfl, ?_, ?_⟩, ?_⟩
  · simpa using (List.cons.inj hlead).2
  · exact (hall (.text "1")).1 1 two hnumber rfl
  · refine (hall (.text "left")).2.1 (fun place hint => ?_) fun m hslips => ?_
    · rw [hword] at hint
      cases hint
    · cases hslips with
      | number hint =>
        rw [hword] at hint
        cases hint
      | within hwrong =>
        rw [hword] at hwrong
        cases hwrong

/-- Infinity is passed as a choice from a menu whose conversations are there: no error of the story
comes of it, and the call is broken off. -/
theorem infinite_choice_escapes : ∃ (e : Engine (List Intent)) (options : List ChoiceOption),
    Trial.playing .recording Trial.asking [.resourcesReady] = some e ∧
      e.menu = some options ∧ e.mode = .awaitingChoice ∧ e.strict = false ∧
      (∀ o ∈ options, o.Leads e.cursor.script) ∧
      (Engine.choose .recording (.float (1.0 / 0.0))).perform e =
        (.error (.mishap .overflow), e) := by
  obtain ⟨e, options, he, hmenu, hmode, hstrict, hleads, -⟩ := Trial.playing_asking
  have hinfinite : decode (1.0 / 0.0) = .infinite false := by decide +kernel
  exact ⟨e, options, he, hmenu, hmode, hstrict, hleads,
    choose_slips hmenu hmode (.infinite hinfinite)⟩

end VisualNovel
