import VisualNovel.Proofs.Accounting
import VisualNovel.Proofs.Choosing

/-!
# What sets of options offer

Four commands change the sets of options: one adds an option to a set, one takes a text out of a
set, one wipes a set, and the switch to another script drops all sets. By the annals of a run, a set
lists the additions that still stand: those that no later change has taken out, in the order in
which they were made (`Annals.lists`). Adding a text again takes out the option that has it.
-/

namespace VisualNovel

open Script Engine

variable {σ : Type}

theorem Table.get?_modify {κ α : Type} [BEq κ] [EquivBEq κ] {k key : κ} {f : α → α}
    {t : Table κ α} :
    Table.get? key (Table.modify k f t) =
      if k == key then (Table.get? key t).map f else Table.get? key t := by
  induction t with
  | nil => simp [Table.modify, Table.get?]
  | cons e rest ih =>
    unfold Table.modify at ih ⊢
    rw [List.map_cons, Table.get?, ih, Table.get?]
    by_cases hk : e.1 == k
    · rw [if_pos hk, BEq.congr_left hk]
      split <;> rfl
    · rw [if_neg hk]
      by_cases hkey : e.1 == key
      · have hne : ¬k == key := fun hsame => hk (BEq.trans hkey (BEq.symm hsame))
        simp [hkey, hne]
      · simp [hkey]

/-! ## Changes of the sets -/

namespace ChoiceSets

/-- What a command does to the sets of options. -/
inductive Change where
  | add (set text conversation : String)
  | remove (set text : String)
  | wipe (set : String)
  | clear

namespace Change

/-- The change that a command makes, if any. -/
def of (cmd : Script.Command) : Option Change :=
  match cmd.kind, cmd.args with
  | .addToChoiceSet, [.text set, .text text, .text conversation] => some (add set text conversation)
  | .removeFromChoiceSet, [.text set, .text text] => some (remove set text)
  | .wipeChoiceSet, [.text set] => some (wipe set)
  | .switchScript, _ => some clear
  | _, _ => none

/-- What is added to a set. -/
def adds (name : String) : Change → List (String × String)
  | add set text conversation => if set = name then [(text, conversation)] else []
  | _ => []

/-- Whether a text is taken out of a set, if it is there. -/
def drops (name text : String) : Change → Bool
  | add set other _ | remove set other => set == name && other == text
  | wipe set => set == name
  | clear => true

/-- What was added to a set and has not been taken out since, with the change that was made first at
the head. -/
def standing (name : String) : List Change → List (String × String)
  | [] => []
  | change :: later =>
    (change.adds name).filter (fun o => !later.any (drops name o.1)) ++ standing name later

/-- A change takes out what it drops, and what it adds comes last. -/
theorem standing_concat (name : String) (changes : List Change) (change : Change) :
    standing name (changes ++ [change]) =
      (standing name changes).filter (fun o => !change.drops name o.1) ++ change.adds name := by
  induction changes with
  | nil => simp [standing]
  | cons first later ih =>
    simp only [List.cons_append, standing, List.any_append, List.any_cons, List.any_nil,
      Bool.or_false,
      Bool.not_or, ih, List.filter_append, List.filter_filter, List.append_assoc, Bool.and_comm]

theorem drops_of_adds {name : String} {change : Change} {o : String × String}
    (h : o ∈ change.adds name) : change.drops name o.1 := by
  cases change with
  | add set text conversation =>
    by_cases hset : set = name
    · rw [adds, if_pos hset, List.mem_singleton] at h
      simp [drops, hset, h]
    · simp [adds, hset] at h
  | _ => cases h

theorem drops_of_standing {name : String} {changes : List Change} {o : String × String}
    (h : o ∈ standing name changes) : changes.any (drops name o.1) := by
  induction changes with
  | nil => cases h
  | cons change later ih =>
    rw [List.any_cons, Bool.or_eq_true]
    rcases List.mem_append.1 h with h | h
    · exact .inl (drops_of_adds (List.mem_filter.1 h).1)
    · exact .inr (ih h)

/-- No text stands twice. -/
theorem standing_nodup (name : String) (changes : List Change) :
    ((standing name changes).map Prod.fst).Nodup := by
  induction changes with
  | nil => exact List.nodup_nil
  | cons change later ih =>
    have hadds : ((change.adds name).map Prod.fst).Nodup := by
      cases change with
      | add set text conversation => by_cases hset : set = name <;> simp [adds, hset]
      | _ => exact List.nodup_nil
    rw [standing, List.map_append, List.nodup_append]
    refine ⟨hadds.sublist (List.filter_sublist.map Prod.fst), ih, ?_⟩
    -- What is kept of the additions is dropped by nothing later, and so it is not added later.
    rintro text hkept text' hlater rfl
    obtain ⟨o, ho, rfl⟩ := List.mem_map.1 hkept
    obtain ⟨o', ho', hsame⟩ := List.mem_map.1 hlater
    have hdropped := drops_of_standing ho'
    rw [hsame] at hdropped
    simp [hdropped] at ho

/-! ## Making changes -/

/-- An option as it stands in a set. -/
def entry (o : String × String) : Value × Value :=
  (.text o.1, .text o.2)

/-- Makes a change. -/
def make (sets : ChoiceSets) : Change → ChoiceSets
  | add set text conversation =>
    Table.put (.text set)
      (Command.withoutText (.text text) ((Table.get? (.text set) sets).getD []) ++
        [entry (text, conversation)]) sets
  | remove set text => Table.modify (.text set) (Command.withoutText (.text text)) sets
  | wipe set => Table.erase (.text set) sets
  | clear => []

/-- A typed command makes its change. -/
theorem arrange_of_typed {cmd : Script.Command} (h : cmd.Typed) (sets : ChoiceSets) :
    Command.arrange cmd sets = ((of cmd).map (make sets)).getD sets := by
  obtain ⟨kind, args, line⟩ := cmd
  unfold Command.arrange
  dsimp only
  split
  · obtain ⟨set, rfl⟩ := h.isText 0 rfl rfl
    obtain ⟨text, rfl⟩ := h.isText 1 rfl rfl
    obtain ⟨conversation, rfl⟩ := h.isText 2 rfl rfl
    rfl
  · obtain ⟨set, rfl⟩ := h.isText 0 rfl rfl
    obtain ⟨text, rfl⟩ := h.isText 1 rfl rfl
    rfl
  · obtain ⟨set, rfl⟩ := h.isText 0 rfl rfl
    rfl
  · rfl
  · next hswitch hadd hremove hwipe =>
    have hnone : of ⟨kind, args, line⟩ = none := by
      unfold of
      dsimp only
      split
      · exact (hadd _ _ _ rfl rfl).elim
      · exact (hremove _ _ rfl rfl).elim
      · exact (hwipe _ rfl rfl).elim
      · exact (hswitch rfl).elim
      · rfl
    rw [hnone]
    rfl

/-! ## What the sets list -/

theorem withoutText_map (text : String) (options : List (String × String)) :
    Command.withoutText (.text text) (options.map entry) =
      (options.filter fun o => !(text == o.1)).map entry := by
  unfold Command.withoutText
  rw [List.filter_map]
  congr 2
  funext o
  have hequal : (Value.text o.1).equal (.text text) = (text == o.1) := by
    rw [Bool.eq_iff_iff, Value.text_equal_iff, beq_iff_eq, Value.text.injEq]
  simp [entry, hequal]

/-- The sets list what stands of some changes. Their names are texts, and none is there twice. -/
structure Lists (sets : ChoiceSets) (changes : List Change) : Prop where
  listed : ∀ name, (Table.get? (.text name) sets).getD [] = (standing name changes).map entry
  names : ∀ set ∈ sets, set.1.IsText
  distinct : Table.Distinct sets

theorem lists_nil : Lists [] [] :=
  ⟨fun _ => rfl, by simp, Table.distinct_nil⟩

/-- One more change is made. -/
theorem Lists.make {sets : ChoiceSets} {changes : List Change} (h : Lists sets changes)
    (change : Change) : Lists (change.make sets) (changes ++ [change]) := by
  cases change with
  | add set text conversation =>
    refine ⟨fun name => ?_, ?_, h.distinct.put _ _⟩
    · rw [Change.make, Table.get?_put, Value.text_beq_text, standing_concat]
      by_cases hset : set = name
      · subst hset
        simp [h.listed, withoutText_map, drops, adds]
      · have hother : (set == name) = false := by simpa using hset
        simp [h.listed, drops, adds, hset, hother]
    · exact fun e he => (Table.forall_put (p := Value.IsText) (q := fun _ => True)
        (fun e he => ⟨h.names e he, trivial⟩) ⟨set, rfl⟩ trivial e he).1
  | remove set text =>
    refine ⟨fun name => ?_, fun e he => ?_, h.distinct.modify _ _⟩
    · rw [Change.make, Table.get?_modify, Value.text_beq_text, standing_concat]
      by_cases hset : set = name
      · subst hset
        have hmapped :
            ((Table.get? (.text set) sets).map (Command.withoutText (.text text))).getD [] =
            Command.withoutText (.text text) ((Table.get? (.text set) sets).getD []) :=
          Option.getD_map (Command.withoutText (.text text)) [] _
        simp [hmapped, h.listed, withoutText_map, drops, adds]
      · have hother : (set == name) = false := by simpa using hset
        simp [h.listed, drops, adds, hother]
    · obtain ⟨d, hd, rfl⟩ := List.mem_map.1 he
      have := h.names d hd
      split <;> exact this
  | wipe set =>
    refine ⟨fun name => ?_, fun e he => h.names e (List.mem_filter.1 he).1, h.distinct.erase _⟩
    rw [Change.make, Table.get?_erase, Value.text_beq_text, standing_concat]
    by_cases hset : set = name
    · simp [drops, adds, hset]
    · have hother : (set == name) = false := by simpa using hset
      simp [h.listed, drops, adds, hother]
  | clear =>
    refine ⟨fun name => ?_, fun e he => ?_, Table.distinct_nil⟩
    · simp [Change.make, Table.get?, standing_concat, drops, adds]
    · cases he

end Change

end ChoiceSets

open ChoiceSets (Change)
open ChoiceSets.Change (Lists standing)

/-! ## What the annals tell -/

/-- The change that a deed makes to the sets of options, if any. -/
def Deed.change : Deed → Option Change
  | performed cmd _ => Change.of cmd
  | _ => none

/-- The changes of the sets of options, in the order in which they were made. -/
def changes (log : List Deed) : List Change :=
  log.reverse.filterMap Deed.change

theorem changes_cons (d : Deed) (log : List Deed) :
    changes (d :: log) = changes log ++ d.change.toList := by
  unfold changes
  rw [List.reverse_cons, List.filterMap_append]
  cases hchange : d.change <;> simp [hchange]

/-- The sets list what stands after some deeds, and the cursor stands in a typed script. -/
structure Engine.Stocked (log : List Deed) (e : Engine σ) : Prop where
  lists : Lists e.session.choiceSets (changes log)
  sound : e.cursor.Sound
  bound : e.stage.Bound

/-- No deed leaves the sets with anything else. -/
theorem Engine.Does.stocked {d : Deed} {e e' : Engine σ} {log : List Deed} (h : Does d e e')
    (hs : e.Stocked log) : e'.Stocked (d :: log) := by
  have hsame : d.change = none → changes (d :: log) = changes log := by
    intro hnone
    rw [changes_cons, hnone]
    exact List.append_nil _
  cases h with
  | @performed _ cmd o s hbeat hrun =>
    have hplaced := (Ends.iff_perform.1 (Command.perform_places cmd e.stage)).1 o s hrun
    have htyped : cmd.Typed := hs.sound.beat_typed hs.bound.cursor hbeat
    have hlists : Lists e.stage.session.choiceSets (changes log) := hs.lists
    refine ⟨?_, hplaced.sound hs.sound, hplaced.bound hs.bound⟩
    show Lists s.session.choiceSets _
    rw [hplaced.sets, Change.arrange_of_typed htyped, changes_cons]
    cases hchange : Change.of cmd with
    | none => simpa [Deed.change, hchange] using hlists
    | some change => simpa [Deed.change, hchange] using hlists.make change
  | completed =>
    refine ⟨?_, Likeness.advance_sound hs.sound, hs.bound.of_script rfl rfl id⟩
    rw [hsame rfl]
    exact hs.lists
  | @followed _ conversation s hrun =>
    have hends := Stage.switchConversation_ends conversation e.stage
    have henters := (Ends.iff_perform.1 hends).1 _ s hrun
    have hbound := henters.bound hs.bound
    obtain ⟨cursor, rfl, -, hsound, -⟩ := henters
    refine ⟨?_, hsound, hbound⟩
    rw [hsame rfl]
    exact hs.lists

/-- By the annals of a run, its sets list what stands of the changes. -/
theorem Annals.stocked {e e' : Engine σ} {log : List Deed} (h : Annals e log e')
    (hsets : e.session.choiceSets = []) (hsound : e.cursor.Sound) (hb : e.stage.Bound) :
    e'.Stocked log := by
  induction h with
  | nil =>
    refine ⟨?_, hsound, hb⟩
    rw [hsets]
    exact ChoiceSets.Change.lists_nil
  | @idle log e₁ e₂ _ hidle ih =>
    have hcursor : e₂.cursor = e₁.cursor := hidle.cursor
    have hlists : e₂.session.choiceSets = e₁.session.choiceSets := hidle.sets
    refine ⟨?_, ?_, hidle.bound ih.bound⟩
    · rw [hlists]
      exact ih.lists
    · rw [hcursor]
      exact ih.sound
  | deed _ hdoes ih => exact hdoes.stocked ih

/-- An engine that has not started has no sets. -/
theorem Engine.ofSetup_stocked {setup : Setup} {outside : σ} {e : Engine σ}
    (h : ofSetup setup outside = .ok e) (hscript : setup.script.Typed)
    (hlibrary : ∀ l, setup.library = some l → l.Typed) : e.session.choiceSets = [] ∧
      e.cursor.Sound ∧ e.stage.Bound := by
  obtain ⟨s, hs, h⟩ := bind_eq_ok.1 h
  cases h
  obtain ⟨cursor, _, _, _, hcursor, _, _, _, rfl, _⟩ := initialStage_ok hs
  obtain ⟨hsame, hsound⟩ := start_sound hcursor
  refine ⟨rfl, hsound, ?_, rfl, hlibrary⟩
  show cursor.script.Typed
  rw [hsame]
  exact hscript

end VisualNovel
