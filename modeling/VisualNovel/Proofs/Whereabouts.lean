import VisualNovel.Proofs.Likeness
import VisualNovel.Proofs.Performing

/-!
# Where commands leave the story

Most commands are straight: whether they succeed or not, the story stands where it stood, and the
sets of options are the same (`Command.perform_stationary`). The others enter a conversation, weigh
whether the next beat is passed over, or change a set of options. `Command.perform_places` says of
every command where it leaves the cursor and the sets: one that fails leaves them as they were.
-/

namespace VisualNovel

open Script

variable {α β : Type}

/-! ## Staying -/

namespace Stage

/-- Every script that the library remembers is typed. -/
def Shelved (s : Stage) : Prop :=
  ∀ l, s.library = some l → l.Typed

/-- The story stands where it stood, and the sets of options are the same. -/
structure Stationary (s s' : Stage) : Prop where
  script : s'.script = s.script
  cursor : s'.session.cursor = s.session.cursor
  sets : s'.session.choiceSets = s.session.choiceSets
  shelved : s.Shelved → s'.Shelved

instance : IsPreorder Stage Stationary where
  refl _ := ⟨rfl, rfl, rfl, id⟩
  trans _ _ _ h h' := ⟨h'.script.trans h.script, h'.cursor.trans h.cursor, h'.sets.trans h.sets,
    fun hs => h'.shelved (h.shelved hs)⟩

theorem Unmoved.stationary {s s' : Stage} (h : s.Unmoved s') : s.Stationary s' :=
  ⟨h.script, by rw [h.session], by rw [h.session], h.retains.typed⟩

end Stage

open Stage (Stationary)

/-- No plain change moves the story. -/
theorem Stage.Stationary.plain : Stage.Plain Stationary where
  noted _ _ _ := ⟨rfl, rfl, rfl, id⟩
  scene _ _ := ⟨rfl, rfl, rfl, id⟩
  overrides _ _ := ⟨rfl, rfl, rfl, id⟩
  flags _ _ := ⟨rfl, rfl, rfl, id⟩
  captured _ := ⟨rfl, rfl, rfl, id⟩
  thrown _ _ := ⟨rfl, rfl, rfl, id⟩
  cinematic _ _ := .attempt fun _ _ => ⟨rfl, rfl, rfl, id⟩
  typewriter _ _ := .attempt fun _ _ => ⟨rfl, rfl, rfl, id⟩

/-- A straight command leaves the cursor and the sets of options as they were, however it ends. -/
theorem Command.perform_stationary {cmd : Script.Command} (hstraight : cmd.kind.straight) :
    Tracks Stationary (perform cmd) :=
  perform_plain Stage.Stationary.plain hstraight

/-! ## Conversations -/

theorem Cursor.skip_script (c : Cursor) : c.skip.script = c.script := by
  unfold Cursor.skip
  split <;> rfl

namespace Stage

/-- The script that is played is the one that the cursor stands in, it is typed, and so are the
scripts of the library. -/
structure Bound (s : Stage) : Prop where
  script : s.script.Typed
  inStep : s.session.cursor.script = s.script
  shelved : s.Shelved

theorem Bound.cursor {s : Stage} (h : s.Bound) : s.session.cursor.script.Typed :=
  h.inStep ▸ h.script

theorem Bound.of_script {s s' : Stage} (hb : s.Bound) (hscript : s'.script = s.script)
    (hcursor : s'.session.cursor.script = s.session.cursor.script)
    (hshelved : s.Shelved → s'.Shelved) : s'.Bound := by
  refine ⟨?_, ?_, hshelved hb.shelved⟩
  · rw [hscript]
    exact hb.script
  · rw [hcursor, hscript]
    exact hb.inStep

theorem Stationary.bound {s s' : Stage} (h : s.Stationary s') (hb : s.Bound) : s'.Bound :=
  hb.of_script h.script (by rw [h.cursor]) h.shelved

/-- The story stands at the start of a conversation of the same script, and nothing else has
changed. -/
def Enters (s s' : Stage) : Prop :=
  ∃ cursor : Cursor, s' = s.mapCursor (fun _ => cursor) ∧ cursor.script = s.session.cursor.script ∧
    cursor.Sound ∧ cursor.index = 0 ∧ cursor.completed = 0

theorem switchConversation_ends (name : Value) (s : Stage) :
    Ends (switchConversation name) s (fun _ s' => s.Enters s') fun _ s' => s' = s := by
  refine Ends.bind_iff.2 (Ends.get_iff.2 (Ends.bind_iff.2 (Ends.ofExcept_iff.2
    ⟨fun conversation _ => ?_, fun _ _ => rfl⟩)))
  refine Ends.bind_iff.2 (Ends.ofStory_iff.2 ⟨fun cursor hcursor => ?_, fun _ _ => rfl⟩)
  obtain ⟨hscript, hsound⟩ := Likeness.switchTo_sound hcursor
  obtain ⟨beats, -, hcursor⟩ := bind_eq_ok.1 hcursor
  cases hcursor
  exact ⟨_, rfl, hscript, hsound, rfl, rfl⟩

theorem Enters.bound {s s' : Stage} (h : s.Enters s') (hb : s.Bound) : s'.Bound := by
  obtain ⟨cursor, rfl, hscript, -⟩ := h
  exact hb.of_script rfl hscript id

/-- A script of a library of typed scripts is typed. -/
theorem fetchScript_ends (missing : StoryError) (name : Value) (s : Stage) :
    Ends (fetchScript missing name) s
      (fun script s' => s.Unmoved s' ∧ (s.Shelved → script.Typed)) fun _ s' => s.Unmoved s' := by
  have htracks : Tracks Unmoved (fetchScript missing name) := fetchScript_unmoved
  have hunmoved := Tracks.iff_ends.1 htracks s
  have htyped : Ends (fetchScript missing name) s (fun script _ => s.Shelved → script.Typed)
      fun _ _ => True := by
    refine Ends.bind_iff.2 (Ends.get_iff.2 ?_)
    dsimp only
    split
    · trivial
    · next l hl =>
      refine Ends.bind_iff.2 (Ends.set_iff.2 (Ends.ofExcept_iff.2 ⟨fun script hscript => ?_,
        fun _ _ => trivial⟩))
      exact fun hs => (Library.get_typed (hs l hl)).2 script hscript
  exact (hunmoved.and htyped).mono (fun _ _ h => h) fun _ _ h => h.1

end Stage

/-! ## All commands -/

namespace Command

/-- What a condition finds, if the command is one. -/
def verdict (cmd : Script.Command) (flags : Flags) : Option Bool :=
  match cmd.args with
  | flag :: rest =>
    if cmd.kind.conditional then
      (flag.asFlag >>= fun flag => holds cmd.kind flags flag rest).toOption
    else none
  | [] => none

/-- Whether one of some conversations belongs to a value. -/
def leadsOn (value : Int) (groups : List (List Value)) : Bool :=
  groups.any fun
    | [expected, _] => (Value.int value).equal expected
    | _ => false

/-- Whether a command that succeeds enters a conversation. -/
def enters (cmd : Script.Command) (flags : Flags) : Bool :=
  match cmd.kind, cmd.args with
  | .setConversation, _ | .switchScript, _ => true
  | .jumpOnFlag, .flag flag :: _ => leadsOn (flags.get flag) (cmd.groups 1 2)
  | _, _ => false

/-- What a command that succeeds does to the sets of options. -/
def arrange (cmd : Script.Command) (sets : ChoiceSets) : ChoiceSets :=
  match cmd.kind, cmd.args with
  | .addToChoiceSet, [name, text, conversation] =>
    Table.put name
      (withoutText text ((Table.get? name sets).getD []) ++ [(text, conversation)]) sets
  | .removeFromChoiceSet, [name, text] => Table.modify name (withoutText text) sets
  | .wipeChoiceSet, [name] => Table.erase name sets
  | .switchScript, _ => []
  | _, _ => sets

/-- The cursor behind a command that enters no conversation: a condition is completed, and the next
beat is passed over if it does not hold. -/
def passed (verdict : Option Bool) (c : Cursor) : Cursor :=
  match verdict with
  | none => c
  | some true => c.advance
  | some false => c.advance.skip

/-- Where a command that succeeds leaves the story. -/
structure Placed (cmd : Script.Command) (s s' : Stage) : Prop where
  entered : enters cmd s.session.flags →
    s'.session.cursor.index = 0 ∧ s'.session.cursor.completed = 0
  passed : enters cmd s.session.flags = false →
    s'.session.cursor = passed (verdict cmd s.session.flags) s.session.cursor
  sets : s'.session.choiceSets = arrange cmd s.session.choiceSets
  sound : s.session.cursor.Sound → s'.session.cursor.Sound
  bound : s.Bound → s'.Bound

variable {cmd : Script.Command} {s s' : Stage}

theorem keyOf_ends (v : Value) (s : Stage) :
    Ends (keyOf v) s (fun key s' => key = v ∧ s' = s) fun _ s' => s' = s := by
  refine Ends.ofMishap_iff.2 ⟨fun key hkey => ?_, fun _ _ => rfl⟩
  unfold Value.asKey at hkey
  split at hkey <;> cases hkey
  exact ⟨rfl, rfl⟩

theorem verdict_eq_none (h : cmd.kind.conditional = false) (flags : Flags) :
    verdict cmd flags = none := by
  unfold verdict
  split
  · rw [h]
    rfl
  · rfl

theorem Placed.of_enters (henters : enters cmd s.session.flags)
    (harrange : ∀ sets, arrange cmd sets = sets) (h : s.Enters s') : Placed cmd s s' := by
  have hbound := h.bound
  obtain ⟨cursor, rfl, -, hsound, hindex, hcompleted⟩ := h
  refine ⟨fun _ => ⟨hindex, hcompleted⟩, fun hstays => ?_, (harrange _).symm, fun _ => hsound,
    hbound⟩
  rw [henters] at hstays
  cases hstays

/-- A command that leaves the cursor where it is. -/
theorem Placed.of_cursor (hconditional : cmd.kind.conditional = false)
    (henters : enters cmd s.session.flags = false) (hscript : s'.script = s.script)
    (hcursor : s'.session.cursor = s.session.cursor)
    (hsets : s'.session.choiceSets = arrange cmd s.session.choiceSets)
    (hshelved : s.Shelved → s'.Shelved) : Placed cmd s s' := by
  refine ⟨fun h => ?_, fun _ => ?_, hsets, fun hs => ?_, fun hb => hb.of_script hscript ?_
    hshelved⟩
  · rw [henters] at h
    cases h
  · rw [verdict_eq_none hconditional]
    exact hcursor
  · rw [hcursor]
    exact hs
  · rw [hcursor]

theorem straight_facts (h : cmd.kind.straight) : cmd.kind.conditional = false ∧
    (∀ flags, enters cmd flags = false) ∧ ∀ sets, arrange cmd sets = sets := by
  obtain ⟨kind, args, line⟩ := cmd
  cases kind <;> first | exact ⟨rfl, fun _ => rfl, fun _ => rfl⟩ | cases h

theorem setConversation_places (name line : Value) (s : Stage) :
    Ends (setConversation name) s (fun _ s' => Placed ⟨.setConversation, [name], line⟩ s s')
      fun _ s' => s.Stationary s' := by
  refine Ends.bind_iff.2 ((Stage.switchConversation_ends name s).mono (fun _ s' h => ?_) ?_)
  · exact .of_enters rfl (fun _ => rfl) h
  · rintro _ _ rfl
    exact refl_of Stationary _

theorem switchScript_places (name conversation line : Value) (s : Stage) :
    Ends (switchScript line name conversation) s
      (fun _ s' => Placed ⟨.switchScript, [name, conversation], line⟩ s s')
      fun _ s' => s.Stationary s' := by
  refine Ends.bind_iff.2 ((Stage.fetchScript_ends _ name s).mono ?_ fun _ _ h => h.stationary)
  rintro script s₁ ⟨hunmoved, htyped⟩
  have hstationary := hunmoved.stationary
  refine Ends.bind_iff.2 (Ends.ofExcept_iff.2 ⟨fun conversation _ => ?_, fun _ _ => hstationary⟩)
  refine Ends.bind_iff.2 (Ends.ofStory_iff.2 ⟨fun cursor hcursor => ?_, fun _ _ => hstationary⟩)
  refine Ends.bind_iff.2 (Ends.modify_iff.2 (Ends.bind_iff.2 (Ends.modify_iff.2 ?_)))
  refine Ends.bind_iff.2 (Ends.modify_iff.2 ?_)
  obtain ⟨hscript, hsound⟩ := Cursor.rebind_sound hcursor
  obtain ⟨beats, -, hcursor⟩ := bind_eq_ok.1 hcursor
  refine ⟨fun _ => ?_, fun henters => ?_, ?_, fun _ => hsound,
    fun hb => ⟨htyped hb.shelved, hscript, hstationary.shelved hb.shelved⟩⟩
  · cases hcursor
    refine ⟨?_, rfl⟩
    show (max 0 (min 0 (beats.size : Int))).toNat = 0
    omega
  · cases henters
  · rfl

theorem jumpOnFlag_places (flag : String) (rest : List Value) (line : Value) (s : Stage) :
    Ends (jumpOnFlag flag (Script.Command.groups ⟨.jumpOnFlag, .flag flag :: rest, line⟩ 1 2)) s
      (fun _ s' => Placed ⟨.jumpOnFlag, .flag flag :: rest, line⟩ s s')
      fun _ s' => s.Stationary s' := by
  have hgroups : ∀ groups, Ends (jumpOnFlag flag groups) s
      (fun _ s' => if leadsOn (s.session.flags.get flag) groups then s.Enters s' else s' = s)
      fun _ s' => s' = s := by
    intro groups
    fun_induction jumpOnFlag flag groups with
    | case1 => rfl
    | case2 expected conversation rest ih =>
      refine Ends.bind_iff.2 (Ends.get_iff.2 ?_)
      cases hequal : (Value.int (s.session.flags.get flag)).equal expected with
      | true =>
        have hleads : leadsOn (s.session.flags.get flag) ([expected, conversation] :: rest) := by
          simp [leadsOn, hequal]
        rw [hleads]
        exact Ends.bind_iff.2 ((Stage.switchConversation_ends conversation s).mono
          (fun _ _ h => h) fun _ _ h => h)
      | false =>
        have hleads : leadsOn (s.session.flags.get flag) ([expected, conversation] :: rest) =
            leadsOn (s.session.flags.get flag) rest := by
          simp [leadsOn, hequal]
        rw [hleads]
        exact ih
    | case3 => rfl
  refine (hgroups _).mono (fun _ s' h => ?_) ?_
  · split at h
    · next hleads => exact .of_enters hleads (fun _ => rfl) h
    · next hstays =>
      subst h
      exact .of_cursor rfl (Bool.eq_false_iff.2 hstays) rfl rfl rfl id
  · rintro _ _ rfl
    exact refl_of Stationary _

theorem condition_places {kind : CommandKind} (hkind : kind.conditional) (flag : Value)
    (rest : List Value) (line : Value) (s : Stage) :
    Ends (do condition kind (← flagOf flag) rest) s
      (fun _ s' => Placed ⟨kind, flag :: rest, line⟩ s s') fun _ s' => s.Stationary s' := by
  refine Ends.bind_iff.2 (Ends.ofMishap_iff.2 ⟨fun name hname => ?_, ?_⟩)
  case refine_2 => exact fun _ _ => refl_of Stationary s
  refine Ends.bind_iff.2 (Ends.get_iff.2 (Ends.bind_iff.2 (Ends.ofMishap_iff.2
    ⟨fun ok hok => ?_, fun _ _ => refl_of Stationary s⟩)))
  have hverdict : verdict ⟨kind, flag :: rest, line⟩ s.session.flags = some ok := by
    unfold verdict
    dsimp only
    rw [if_pos hkind, hname]
    exact toOption_eq_some.2 hok
  have hfacts : enters ⟨kind, flag :: rest, line⟩ s.session.flags = false ∧
      arrange ⟨kind, flag :: rest, line⟩ s.session.choiceSets = s.session.choiceSets := by
    cases kind <;> first | exact ⟨rfl, rfl⟩ | cases hkind
  refine Ends.bind_iff.2 (Ends.modify_iff.2 ⟨fun henters => ?_, fun _ => ?_, hfacts.2.symm,
    fun hs => ?_, fun hb => hb.of_script rfl ?_ id⟩)
  · rw [hfacts.1] at henters
    cases henters
  · rw [hverdict]
    cases ok <;> rfl
  · cases ok with
    | true => exact Likeness.advance_sound hs
    | false => exact Likeness.skip_sound (Likeness.advance_sound hs)
  · cases ok with
    | true => rfl
    | false => exact Cursor.skip_script _

/-- **Where commands leave the story.** A command that succeeds enters a conversation, or is a
condition that completes itself and may pass over the next beat, or leaves the cursor where it is. A
command that fails leaves the cursor and the sets of options as they were. -/
theorem perform_places (cmd : Script.Command) (s : Stage) :
    Ends (perform cmd) s (fun _ s' => Placed cmd s s') fun _ s' => s.Stationary s' := by
  cases hstraight : cmd.kind.straight with
  | true =>
    obtain ⟨hconditional, henters, harrange⟩ := straight_facts hstraight
    refine (Tracks.iff_ends.1 (perform_stationary hstraight) s).mono (fun _ s' h => ?_)
      fun _ _ h => h
    exact .of_cursor hconditional (henters _) h.script h.cursor (h.sets.trans (harrange _).symm)
      h.shelved
  | false =>
    have hkey : ∀ {name : Value} {k : Value → Action Stage Outcome},
        Ends (k name) s (fun _ s' => Placed cmd s s') (fun _ s' => s.Stationary s') →
        Ends (keyOf name >>= k) s (fun _ s' => Placed cmd s s') fun _ s' => s.Stationary s' := by
      intro name k hk
      refine Ends.bind_iff.2 ((keyOf_ends name s).mono ?_ ?_)
      · rintro _ _ ⟨rfl, rfl⟩
        exact hk
      · rintro _ _ rfl
        exact refl_of Stationary _
    have hsets : ∀ {f : ChoiceSets → ChoiceSets}, cmd.kind.conditional = false →
        enters cmd s.session.flags = false →
        f s.session.choiceSets = arrange cmd s.session.choiceSets →
        Ends (do changeSets f; return Outcome.next) s (fun _ s' => Placed cmd s s')
          fun _ s' => s.Stationary s' := fun hconditional henters hf =>
      Ends.bind_iff.2 (Ends.modify_iff.2 (.of_cursor hconditional henters rfl rfl hf id))
    cases cmd using shapes with
    | setConversation => exact setConversation_places _ _ s
    | switchScript => exact switchScript_places _ _ _ s
    | isFlag | isFlagMoreThan | isFlagLessThan | isFlagBetween | isFlagMoreThanFlag
    | isFlagLessThanFlag | isFlagEqualToFlag => exact condition_places rfl _ _ _ s
    | jumpOnFlag flag =>
      refine Ends.bind_iff.2 (Ends.ofMishap_iff.2 ⟨fun name hname => ?_,
        fun _ _ => refl_of Stationary s⟩)
      obtain rfl : flag = .flag name := by
        cases flag <;> cases hname
        rfl
      exact jumpOnFlag_places _ _ _ s
    | addToChoiceSet | removeFromChoiceSet => exact hkey (hsets rfl rfl rfl)
    | wipeChoiceSet name line =>
      have hwipe : ∀ {sets : ChoiceSets}, sets = Table.erase name s.session.choiceSets →
          Ends (do changeSets fun _ => sets; return Outcome.next) s
            (fun _ s' => Placed ⟨.wipeChoiceSet, [name], line⟩ s s')
            fun _ s' => s.Stationary s' := by
        rintro _ rfl
        exact hsets rfl rfl rfl
      refine Ends.bind_iff.2 (Ends.get_iff.2 (Ends.bind_iff.2 ?_))
      unfold takeOut
      cases hlist : s.session.choiceSets with
      | nil => exact hwipe (by rw [hlist]; rfl)
      | cons set sets =>
        refine Ends.bind_iff.2 ((keyOf_ends name s).mono ?_ ?_)
        · rintro _ _ ⟨rfl, rfl⟩
          exact hwipe (by rw [hlist])
        · rintro _ _ rfl
          exact refl_of Stationary _
    | misfit => exact refl_of Stationary s
    | _ => exact absurd hstraight.symm Bool.false_ne_true

end Command

end VisualNovel
