import VisualNovel.Proofs.Calculus
import VisualNovel.Proofs.Shapes

/-!
# Actions that cannot tell states apart

An action respects a relation between states if it ends the same way on states that are related, be
it with a result, an error or a mishap, and leaves them related. A row of actions that respect a
relation respects it, so a function does if its steps do.

On stages, `Stage.Indistinct` says what a relation has to leave to commands: related stages read the
same, and stay related when the same is written to both. Then no command can tell them apart
(`Command.perform_respects`). The tables in which stages keep their flags may differ, as long as
every flag reads the same.
-/

namespace VisualNovel

open Script

variable {ε σ τ α β : Type}

/-- The computation ends the same way on related states, and leaves them related. -/
def Respects (R : σ → σ → Prop) (act : ExceptT ε (StateM σ) α) : Prop :=
  ∀ s t, R s t → ((ExceptT.run act).run s : Except ε α × σ).1 = ((ExceptT.run act).run t).1 ∧
    R ((ExceptT.run act).run s : Except ε α × σ).2 ((ExceptT.run act).run t).2

namespace Respects

variable {R : σ → σ → Prop}

/-! ## Steps and rows of steps -/

theorem of_value {r : Except ε α} : Respects R (ExceptT.mk (pure r) : ExceptT ε (StateM σ) α) :=
  fun _ _ h => ⟨rfl, h⟩

protected theorem pure {a : α} : Respects R (pure a : ExceptT ε (StateM σ) α) :=
  of_value

protected theorem throw {e : ε} : Respects R (throw e : ExceptT ε (StateM σ) α) :=
  of_value

protected theorem modify {g : σ → σ} (h : ∀ s t, R s t → R (g s) (g t)) :
    Respects R (modify g : ExceptT ε (StateM σ) PUnit) :=
  fun s t hst => ⟨rfl, h s t hst⟩

protected theorem bind {x : ExceptT ε (StateM σ) α} {k : α → ExceptT ε (StateM σ) β}
    (hx : Respects R x) (hk : ∀ a, Respects R (k a)) : Respects R (x >>= k) := by
  intro s t hst
  have hrun := hx s t hst
  rw [run_bind, run_bind]
  generalize ((ExceptT.run x).run s : Except ε α × σ) = out at hrun
  generalize ((ExceptT.run x).run t : Except ε α × σ) = out' at hrun
  obtain ⟨r, s'⟩ := out
  obtain ⟨r', t'⟩ := out'
  obtain ⟨rfl, hstate⟩ : r = r' ∧ R s' t' := hrun
  cases r with
  | error e => exact ⟨rfl, hstate⟩
  | ok a => exact hk a s' t' hstate

/-- What follows a look at the state may look at what related states agree on. -/
theorem get_bind {k : σ → ExceptT ε (StateM σ) α} (hsame : ∀ s t, R s t → k t = k s)
    (hk : ∀ s, Respects R (k s)) : Respects R (get >>= k) := by
  intro s t hst
  have hrun : ∀ s, ((ExceptT.run (get >>= k)).run s : Except ε α × σ) =
      (ExceptT.run (k s)).run s := fun _ => rfl
  rw [hrun, hrun, hsame s t hst]
  exact hk s s t hst

protected theorem map {x : ExceptT ε (StateM σ) α} {g : α → β} (hx : Respects R x) :
    Respects R (g <$> x) := by
  rw [map_eq_pure_bind]
  exact hx.bind fun _ => .pure

protected theorem discard {x : ExceptT ε (StateM σ) α} (hx : Respects R x) :
    Respects R (discard x) :=
  hx.map

protected theorem ite {p : Prop} [Decidable p] {x y : ExceptT ε (StateM σ) α}
    (hx : Respects R x) (hy : Respects R y) : Respects R (if p then x else y) := by
  split
  · exact hx
  · exact hy

protected theorem forM {xs : List α} {k : α → ExceptT ε (StateM σ) PUnit}
    (hk : ∀ a, Respects R (k a)) : Respects R (xs.forM k) := by
  induction xs with
  | nil => exact .pure
  | cons x xs ih => exact (hk x).bind fun _ => ih

protected theorem mapM {xs : List α} {k : α → ExceptT ε (StateM σ) β}
    (hk : ∀ a, Respects R (k a)) : Respects R (xs.mapM k) := by
  induction xs with
  | nil =>
    rw [List.mapM_nil]
    exact .pure
  | cons x xs ih =>
    rw [List.mapM_cons]
    exact (hk x).bind fun _ => ih.bind fun _ => .pure

/-! ## Actions -/

theorem ofExcept {r : Except Fault α} : Respects R (Action.ofExcept r : Action σ α) :=
  of_value

theorem ofMishap {r : Except Mishap α} : Respects R (Action.ofMishap r : Action σ α) :=
  of_value

theorem ofStory {r : Except StoryError α} : Respects R (Action.ofStory r : Action σ α) :=
  of_value

theorem outcome {act : Action σ α} (h : Respects R act) : Respects R (Action.outcome act) :=
  fun s t hst => ⟨congrArg Except.ok (h s t hst).1, (h s t hst).2⟩

section
variable {place : Place σ τ}

/-- An action on a part of the state, where `S` relates the parts of related states. -/
theorem onPart {S : τ → τ → Prop} {act : Action τ α}
    (hget : ∀ s t, R s t → S (place.get s) (place.get t))
    (hset : ∀ s t p q, R s t → S p q → R (place.set p s) (place.set q t)) (h : Respects S act) :
    Respects R (Action.onPart place act) := by
  intro s t hst
  obtain ⟨hresult, hpart⟩ := h _ _ (hget s t hst)
  exact ⟨hresult, hset s t _ _ hst hpart⟩

/-- An attempt on a part that related states agree on. -/
theorem attempt {act : Attempt τ α} (hget : ∀ s t, R s t → place.get t = place.get s)
    (hset : ∀ s t p, R s t → R (place.set p s) (place.set p t)) :
    Respects R (Action.attempt place act) := by
  intro s t hst
  have hrun : ∀ s, ((ExceptT.run (Action.attempt place act)).run s : Except Fault α × σ) =
      ((act.perform (place.get s)).1.mapError .mishap, place.set (act.perform (place.get s)).2 s) :=
    fun _ => rfl
  rw [hrun, hrun, hget s t hst]
  exact ⟨rfl, hset s t _ hst⟩

end

end Respects

/-! ## Stages -/

/-- Related stages read the same, and stay related when the same is written to both. -/
structure Stage.Indistinct (R : Stage → Stage → Prop) : Prop where
  config : ∀ {s t}, R s t → t.config = s.config
  script : ∀ {s t}, R s t → t.script = s.script
  cursor : ∀ {s t}, R s t → t.session.cursor = s.session.cursor
  flags : ∀ {s t}, R s t → ∀ name, t.session.flags.get name = s.session.flags.get name
  overrides : ∀ {s t}, R s t → t.session.overrides = s.session.overrides
  scene : ∀ {s t}, R s t → t.session.scene = s.session.scene
  choiceSets : ∀ {s t}, R s t → t.session.choiceSets = s.session.choiceSets
  timedText : ∀ {s t}, R s t → t.timedText = s.timedText
  dice : ∀ {s t}, R s t → t.dice = s.dice
  library : ∀ {s t}, R s t → t.library = s.library
  files : ∀ {s t}, R s t → t.disk.files = s.disk.files
  setScript : ∀ {s t} script, R s t → R { s with script } { t with script }
  setCursor : ∀ {s t} cursor, R s t → R (s.mapCursor fun _ => cursor) (t.mapCursor fun _ => cursor)
  setScriptName : ∀ {s t} scriptName, R s t →
    R (s.mapSession fun x => { x with scriptName }) (t.mapSession fun x => { x with scriptName })
  setFlag : ∀ {s t} name n, R s t →
    R (s.mapFlags fun f => f.set name n) (t.mapFlags fun f => f.set name n)
  setOverrides : ∀ {s t} overrides, R s t →
    R (s.mapOverrides fun _ => overrides) (t.mapOverrides fun _ => overrides)
  setScene : ∀ {s t} scene, R s t → R (s.mapScene fun _ => scene) (t.mapScene fun _ => scene)
  setChoiceSets : ∀ {s t} choiceSets, R s t →
    R (s.mapSession fun x => { x with choiceSets }) (t.mapSession fun x => { x with choiceSets })
  setTimedText : ∀ {s t} timedText, R s t → R { s with timedText } { t with timedText }
  setDice : ∀ {s t} dice, R s t → R { s with dice } { t with dice }
  setLibrary : ∀ {s t} library, R s t → R { s with library } { t with library }
  capture : ∀ {s t}, R s t → R (s.mapSession Session.capture) (t.mapSession Session.capture)
  note : ∀ {s t} level text, R s t → R (s.note level text) (t.note level text)

theorem Stage.run_fetchScript (missing : StoryError) (name : Value) (s : Stage) :
    ((ExceptT.run (fetchScript missing name)).run s : Except Fault Script × Stage) =
      match s.library with
      | none => (.error (.story missing), s)
      | some library => ((library.get s.disk.files name).1,
          { s with library := some (library.get s.disk.files name).2 }) := by
  obtain ⟨config, script, session, timedText, dice, library, disk⟩ := s
  cases library <;> rfl

namespace Stage.Indistinct

variable {R : Stage → Stage → Prop} (hR : Indistinct R)
include hR

theorem mapCursor (f : Cursor → Cursor) {s t : Stage} (h : R s t) :
    R (s.mapCursor f) (t.mapCursor f) := by
  have hs : s.mapCursor f = s.mapCursor fun _ => f t.session.cursor := by
    rw [hR.cursor h]
    rfl
  rw [hs]
  exact hR.setCursor _ h

theorem enter (script : Script) (cursor : Cursor) {s t : Stage} (h : R s t) :
    R (s.enter script cursor) (t.enter script cursor) :=
  hR.setScript script (hR.setCursor cursor h)

theorem mapOverrides (f : Overrides → Overrides) {s t : Stage} (h : R s t) :
    R (s.mapOverrides f) (t.mapOverrides f) := by
  have hs : s.mapOverrides f = s.mapOverrides fun _ => f t.session.overrides := by
    rw [hR.overrides h]
    rfl
  rw [hs]
  exact hR.setOverrides _ h

theorem mapScene (f : Scene → Scene) {s t : Stage} (h : R s t) :
    R (s.mapScene f) (t.mapScene f) := by
  have hs : s.mapScene f = s.mapScene fun _ => f t.session.scene := by
    rw [hR.scene h]
    rfl
  rw [hs]
  exact hR.setScene _ h

theorem modifyFlag (name : String) (n : Int) {s t : Stage} (h : R s t) :
    R (s.mapFlags fun f => f.modify name n) (t.mapFlags fun f => f.modify name n) := by
  have hs : (s.mapFlags fun f => f.modify name n) =
      s.mapFlags fun f => f.set name (t.session.flags.get name + n) := by
    rw [hR.flags h]
    rfl
  rw [hs]
  exact hR.setFlag name _ h

/-! ## The stage -/

theorem editScene (f : Scene → Scene) {o : Outcome} :
    Respects R (do modify (Stage.mapScene f); return o : Action Stage Outcome) :=
  Respects.bind (.modify fun _ _ h => hR.mapScene f h) fun _ => .pure

theorem log (level : Level) (text : String) :
    Respects R (modify (Stage.note level text) : Action Stage Unit) :=
  .modify fun _ _ h => hR.note level text h

theorem retime (change : Attempt TimedText Unit) : Respects R (Stage.retime change) :=
  .attempt (fun _ _ h => hR.timedText h) fun _ _ t h => hR.setTimedText t h

theorem switchConversation (name : Value) : Respects R (Stage.switchConversation name) :=
  .get_bind (fun _ _ h => by simp only [hR.cursor h]) fun _ => Respects.ofExcept.bind fun _ =>
    Respects.ofStory.bind fun _ => .modify fun _ _ h => hR.mapCursor _ h

theorem fetchScript (missing : StoryError) (name : Value) :
    Respects R (Stage.fetchScript missing name) := by
  intro s t h
  rw [Stage.run_fetchScript, Stage.run_fetchScript, hR.library h, hR.files h]
  cases s.library with
  | none => exact ⟨rfl, h⟩
  | some library => exact ⟨rfl, hR.setLibrary _ h⟩

theorem retimeFromSession : Respects R Stage.retimeFromSession :=
  .get_bind (fun _ _ h => by simp only [hR.overrides h]) fun _ => (hR.retime _).bind fun _ =>
    (hR.retime _).bind fun _ => Respects.ofMishap.bind fun _ => .ite (hR.retime _) .pure

end Stage.Indistinct

/-! ## Commands -/

namespace Command

open Stage (Indistinct)

variable {R : Stage → Stage → Prop}

theorem takeOut_respects {key : Value} {t : Table Value α} : Respects R (takeOut key t) :=
  .ite .pure (Respects.ofMishap.bind fun _ => .pure)

/-- A condition does not see how flags are kept. -/
theorem holds_congr {f g : Flags} (h : ∀ name, g.get name = f.get name) (kind : CommandKind)
    (flag : String) (rest : List Value) : holds kind g flag rest = holds kind f flag rest := by
  unfold holds
  simp only [h]

section
variable {name place duration scale filename dx dy horizontal : Value} (hR : Indistinct R)
include hR

theorem runEffect_respects {kind : IntentKind} {payload : Table String Value}
    {change : Action Stage Unit} (h : Respects R change) :
    Respects R (runEffect kind duration payload change) :=
  Respects.ofMishap.bind fun _ => .ite
    (Respects.bind (.modify fun _ _ h => hR.capture h) fun _ => h.bind fun _ => .pure)
    (h.bind fun _ => .pure)

theorem changeSprite_respects {f : Sprite → Sprite} : Respects R (changeSprite name f) :=
  .modify fun _ _ h => hR.mapScene _ h

theorem viewSetting_respects {key : String} : Respects R (viewSetting key) :=
  .get_bind (fun _ _ h => by rw [hR.config h]) fun _ => .ofMishap

theorem sprite?_respects {kind : CommandKind} : Respects R (sprite? kind name) :=
  Respects.ofMishap.bind fun _ => .get_bind (fun _ _ h => by rw [hR.scene h]) fun _ =>
    .ite ((hR.log _ _).bind fun _ => .pure) .pure

/-- A command on a sprite of the screen. -/
theorem onSprite_respects {kind : CommandKind} {k : Sprite → Action Stage Outcome}
    (h : ∀ sprite, Respects R (k sprite)) :
    Respects R (do
      match ← sprite? kind name with
      | none => return .next
      | some sprite => k sprite) := by
  refine (sprite?_respects hR).bind fun found => ?_
  cases found with
  | none => exact .pure
  | some sprite => exact h sprite

theorem pictureOf_respects : Respects R (pictureOf name) :=
  .get_bind (fun _ _ h => by rw [hR.scene h]) fun _ => Respects.ofMishap.bind fun _ =>
    Respects.ofMishap.bind fun _ => .pure

theorem addSprite_respects {atOnce : Value} : Respects R (addSprite name atOnce) := by
  unfold addSprite
  refine (pictureOf_respects hR).bind fun filename =>
    .get_bind (fun _ _ h => by rw [hR.scene h]) fun s => ?_
  have hput : ∀ sprite : Sprite, Respects R (do
      modify (Stage.mapScene fun s => { s with sprites := Table.put name sprite s.sprites })
      return Outcome.send .showSprite [("name", name), ("filename", filename), ("x", sprite.x),
        ("y", sprite.y), ("at_once", atOnce)] : Action Stage Outcome) := fun _ => hR.editScene _
  cases Table.get? name s.session.scene.sprites with
  | some sprite => exact Respects.pure.bind hput
  | none =>
    exact (viewSetting_respects hR).bind fun _ => Respects.ofMishap.bind fun _ =>
      (viewSetting_respects hR).bind fun _ => (viewSetting_respects hR).bind fun _ =>
        Respects.ofMishap.bind fun _ => Respects.pure.bind hput

theorem removeSprite_respects {atOnce : Value} : Respects R (removeSprite name atOnce) := by
  unfold removeSprite
  refine .get_bind (fun _ _ h => by rw [hR.scene h]) fun s => takeOut_respects.bind fun r => ?_
  rcases r with ⟨_ | sprite, sprites⟩
  · exact (hR.log _ _).bind fun _ => .pure
  · exact hR.editScene _

theorem alignSprite_respects : Respects R (alignSprite name place duration) := by
  have hmove : ∀ (sprite : Sprite) (part : Float), Respects R (do
      let x ← Action.ofMishap ((← viewSetting "width").mul (.float part))
      runEffect .moveSprite duration [("name", name), ("x", x), ("y", sprite.y)]
        (changeSprite name fun s => { s with x })) := fun sprite part =>
    (viewSetting_respects hR).bind fun _ => Respects.ofMishap.bind fun _ =>
      runEffect_respects hR (changeSprite_respects hR)
  unfold alignSprite
  refine onSprite_respects hR fun sprite => ?_
  split
  · exact Respects.pure.bind (hmove sprite)
  · exact (hR.log _ _).bind fun _ => Respects.pure.bind (hmove sprite)

theorem moveSprite_respects : Respects R (moveSprite name dx dy duration) :=
  onSprite_respects hR fun _ => Respects.ofMishap.bind fun _ => Respects.ofMishap.bind fun _ =>
    runEffect_respects hR (changeSprite_respects hR)

theorem placeSprite_respects : Respects R (placeSprite name dx dy) :=
  onSprite_respects hR fun _ => (changeSprite_respects hR).bind fun _ => .pure

theorem flipSprite_respects : Respects R (flipSprite name duration horizontal) :=
  onSprite_respects hR fun _ => runEffect_respects hR (changeSprite_respects hR)

theorem scaleSprite_respects : Respects R (scaleSprite name scale duration) :=
  onSprite_respects hR fun _ => runEffect_respects hR (changeSprite_respects hR)

theorem setSpriteAlias_respects : Respects R (setSpriteAlias name filename) := by
  unfold setSpriteAlias
  refine .get_bind (fun _ _ h => by rw [hR.scene h]) fun s => ?_
  have hput : ∀ aliases, Respects R (do
      modify (Stage.mapScene fun s => { s with spriteAliases := aliases })
      return Outcome.next : Action Stage Outcome) := fun _ => hR.editScene _
  have hwithout : ∀ aliases, Respects R (withoutAlias aliases name) := by
    intro aliases
    cases aliases with
    | record fs => exact takeOut_respects.bind fun _ => .pure
    | _ => exact .throw
  have hwith : ∀ aliases, Respects R (withAlias aliases name filename) := by
    intro aliases
    cases aliases with
    | record fs => exact Respects.ofMishap.bind fun _ => .pure
    | list items => exact Respects.ofMishap.bind fun _ => .pure
    | _ => exact .throw
  cases filename with
  | null => exact (hwithout _).bind hput
  | _ => exact (hwith _).bind hput

theorem playMusic_respects {loop : Value} : Respects R (playMusic filename loop) := by
  unfold playMusic
  refine Respects.bind (.modify fun _ _ h => hR.mapScene _ h) fun _ => ?_
  split
  · exact .pure
  · exact .pure

theorem setFont_respects {field : String} {value : Value} : Respects R (setFont field value) :=
  Respects.bind (.modify fun _ _ h => hR.mapOverrides _ h) fun _ => .pure

theorem setCinematicText_respects {seconds inputAllowed : Value} :
    Respects R (setCinematicText seconds inputAllowed) :=
  Respects.ofMishap.bind fun _ => Respects.ofMishap.bind fun _ =>
    Respects.bind (.modify fun _ _ h => hR.mapOverrides _ h) fun _ =>
      (hR.retime _).bind fun _ => .pure

theorem setTypewriterText_respects {rate canSkip : Value} :
    Respects R (setTypewriterText rate canSkip) :=
  Respects.ofMishap.bind fun _ => Respects.ofMishap.bind fun _ =>
    Respects.bind (.modify fun _ _ h => hR.mapOverrides _ h) fun _ =>
      (hR.retime _).bind fun _ => .pure

theorem moveChoicebox_respects : Respects R (moveChoicebox dx dy) :=
  .get_bind (fun _ _ h => by rw [hR.overrides h]) fun _ => Respects.ofMishap.bind fun _ =>
    Respects.bind (.modify fun _ _ h => hR.mapOverrides _ h) fun _ =>
      .get_bind (fun _ _ h => by rw [hR.overrides h]) fun _ => Respects.ofMishap.bind fun _ =>
        Respects.bind (.modify fun _ _ h => hR.mapOverrides _ h) fun _ => .pure

end

section
variable {flag : String} {value : Value} (hR : Indistinct R)
include hR

theorem setFlag_respects : Respects R (setFlag flag value) :=
  Respects.ofMishap.bind fun n =>
    Respects.bind (.modify fun _ _ h => hR.setFlag flag n h) fun _ => .pure

theorem modifyFlag_respects : Respects R (modifyFlag flag value) :=
  Respects.ofMishap.bind fun n =>
    Respects.bind (.modify fun _ _ h => hR.modifyFlag flag n h) fun _ => .pure

theorem modifyFlagByFlag_respects {up : Bool} {other : String} :
    Respects R (modifyFlagByFlag up flag other) := by
  refine Respects.bind (.modify fun s t h => ?_) fun _ => .pure
  have hs : (s.mapFlags fun f => f.modify flag (if up then f.get other else -f.get other)) =
      s.mapFlags fun f => f.modify flag
        (if up then t.session.flags.get other else -t.session.flags.get other) := by
    rw [hR.flags h]
    rfl
  rw [hs]
  exact hR.modifyFlag flag _ h

theorem rollDice_respects {sides count flag : Value} : Respects R (rollDice sides count flag) := by
  have hset : ∀ sum, Respects R (do setFlag (← flagOf flag) sum) := fun sum =>
    Respects.ofMishap.bind fun _ => setFlag_respects hR
  unfold rollDice
  refine Respects.bind ?_ fun ok => .ite ?_ (Respects.pure.bind hset)
  · exact Respects.ofMishap.bind fun _ => .ite .ofMishap .pure
  · refine Respects.ofMishap.bind fun _ => Respects.bind ?_ hset
    exact .attempt (fun _ _ h => hR.dice h) fun _ _ d h => hR.setDice d h

theorem condition_respects {kind : CommandKind} {rest : List Value} :
    Respects R (condition kind flag rest) :=
  .get_bind (fun _ _ h => by rw [holds_congr (hR.flags h)]) fun _ =>
    Respects.ofMishap.bind fun _ =>
      Respects.bind (.modify fun _ _ h => hR.mapCursor _ h) fun _ => .pure

theorem setConversation_respects : Respects R (setConversation value) :=
  (hR.switchConversation _).bind fun _ => .pure

theorem switchScript_respects {line name conversation : Value} :
    Respects R (switchScript line name conversation) := by
  refine (hR.fetchScript _ _).bind fun script => Respects.ofExcept.bind fun _ =>
    Respects.ofStory.bind fun cursor =>
      Respects.bind (.modify fun s t h => hR.enter script cursor h) fun _ =>
        Respects.bind (.modify fun s t h => ?_) fun _ => (hR.log _ _).bind fun _ => .pure
  exact hR.setChoiceSets [] (hR.setScriptName (script.name.orElse name) h)

theorem jumpOnFlag_respects {groups : List (List Value)} : Respects R (jumpOnFlag flag groups) := by
  fun_induction jumpOnFlag flag groups with
  | case1 => exact .pure
  | case2 expected conversation rest ih =>
    exact .get_bind (fun _ _ h => by rw [hR.flags h]) fun _ =>
      .ite (setConversation_respects hR) ih
  | case3 => exact .throw

end

theorem jumpOption_respects (group : List Value) : Respects R (jumpOption group) := by
  fun_cases jumpOption group with
  | case1 => exact .pure
  | case2 => exact .throw

theorem adjustOption_respects (group : List Value) : Respects R (adjustOption group) := by
  fun_cases adjustOption group with
  | case1 => exact Respects.ofMishap.bind fun _ => .pure
  | case2 => exact .throw

theorem askFor_respects {option : List Value → Action Stage ChoiceOption} {line : Value}
    {groups : List (List Value)} (h : ∀ group, Respects R (option group)) :
    Respects R (askFor option line groups) :=
  (Respects.mapM h).bind fun _ => .pure

section
variable {name text conversation : Value} (hR : Indistinct R)
include hR

theorem changeSets_respects {f : ChoiceSets → ChoiceSets} : Respects R (changeSets f) := by
  refine .modify fun s t h => ?_
  have hs : (s.mapSession fun x => { x with choiceSets := f x.choiceSets }) =
      s.mapSession fun x => { x with choiceSets := f t.session.choiceSets } := by
    rw [hR.choiceSets h]
    rfl
  rw [hs]
  exact hR.setChoiceSets _ h

theorem addToChoiceSet_respects : Respects R (addToChoiceSet name text conversation) :=
  Respects.ofMishap.bind fun _ => (changeSets_respects hR).bind fun _ => .pure

theorem removeFromChoiceSet_respects : Respects R (removeFromChoiceSet name text) :=
  Respects.ofMishap.bind fun _ => (changeSets_respects hR).bind fun _ => .pure

theorem wipeChoiceSet_respects : Respects R (wipeChoiceSet name) :=
  .get_bind (fun _ _ h => by rw [hR.choiceSets h]) fun _ => takeOut_respects.bind fun _ =>
    (changeSets_respects hR).bind fun _ => .pure

theorem showChoiceSet_respects : Respects R (showChoiceSet name) := by
  unfold showChoiceSet
  refine Respects.ofMishap.bind fun key =>
    .get_bind (fun _ _ h => by rw [hR.choiceSets h]) fun s => ?_
  split
  · exact (hR.log _ _).bind fun _ => .pure
  · exact .pure

/-- No command can tell apart what the relation takes for the same. -/
theorem perform_respects (cmd : Script.Command) : Respects R (perform cmd) := by
  have hflag : ∀ {flag : Value} {k : String → Action Stage Outcome},
      (∀ flag, Respects R (k flag)) → Respects R (flagOf flag >>= k) := fun h =>
    Respects.ofMishap.bind h
  cases cmd using shapes with
  | addSprite => exact addSprite_respects hR
  | removeSprite => exact removeSprite_respects hR
  | alignSprite => exact alignSprite_respects hR
  | moveSprite => exact moveSprite_respects hR
  | setSpritePosition => exact placeSprite_respects hR
  | flipSprite => exact flipSprite_respects hR
  | scaleSprite => exact scaleSprite_respects hR
  | setSpriteAlias => exact setSpriteAlias_respects hR
  | setBackground | setSpeaker | showSpeech | setSpeechbox => exact hR.editScene _
  | moveBackground =>
    exact runEffect_respects hR (.attempt (fun _ _ h => hR.scene h) fun _ _ s h => hR.setScene s h)
  | scaleBackground | fadeIn | fadeOut =>
    exact runEffect_respects hR (.modify fun _ _ h => hR.mapScene _ h)
  | playSound | systemCall => exact .pure
  | playMusic => exact playMusic_respects hR
  | setSpeechFont | setSpeechFontSize | setSpeakerFont | setSpeakerFontSize =>
    exact setFont_respects hR
  | setCinematicText => exact setCinematicText_respects hR
  | setTypewriterText => exact setTypewriterText_respects hR
  | modifyChoiceboxOffset => exact moveChoicebox_respects hR
  | setConversation => exact setConversation_respects hR
  | switchScript => exact switchScript_respects hR
  | setFlag => exact hflag fun _ => setFlag_respects hR
  | modifyFlag => exact hflag fun _ => modifyFlag_respects hR
  | increaseFlagByFlag | decreaseFlagByFlag =>
    exact hflag fun _ => hflag fun _ => modifyFlagByFlag_respects hR
  | rollDice => exact rollDice_respects hR
  | isFlag | isFlagMoreThan | isFlagLessThan | isFlagBetween | isFlagMoreThanFlag
  | isFlagLessThanFlag | isFlagEqualToFlag => exact hflag fun _ => condition_respects hR
  | jumpOnFlag => exact hflag fun _ => jumpOnFlag_respects hR
  | jumpOnChoice | showChoiceAndJump => exact askFor_respects jumpOption_respects
  | modifyFlagByChoice | showChoiceAndModify => exact askFor_respects adjustOption_respects
  | addToChoiceSet => exact addToChoiceSet_respects hR
  | removeFromChoiceSet => exact removeFromChoiceSet_respects hR
  | wipeChoiceSet => exact wipeChoiceSet_respects hR
  | showChoiceSet => exact showChoiceSet_respects hR
  | misfit => exact .throw

end

end Command

end VisualNovel
