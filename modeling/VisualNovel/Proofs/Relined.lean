import Mathlib.Data.List.Forall2
import VisualNovel.Engine.Command.Perform
import VisualNovel.Proofs.Shapes
import VisualNovel.Proofs.Tandem
import VisualNovel.Proofs.Unlined

/-!
# Stages that differ in lines only

A script is *relined* if its beats stand in other lines. Beats know their lines, and so do
parameters that are no numbers, and with them what a session computes of these. `Stage.Relined`
relates stages of which nothing else differs; the texts of the log may, since errors name lines.

On such stages a command and the same command in another line run in tandem
(`Command.perform_relined`): the scene stays the same but for lines, and so does what is left to do.
-/

namespace VisualNovel

open Script

/-! ## Scripts -/

namespace Script

/-- Whether the parameter at a place is a double. -/
def Layout.isFloat (l : Layout) (i : Nat) : Bool :=
  (l.paramAt? i).any fun p => decide (p.type = .float)

/-- The commands are the same but for their lines, of which only doubles know. -/
structure Command.Relined (c d : Command) : Prop where
  kind : c.kind = d.kind
  args : c.args.map Value.unlined = d.args.map Value.unlined
  plain : ∀ i, (Layout.of c.kind).isFloat i = false → c.args[i]? = d.args[i]?

/-- The beats are the same but for their lines. -/
inductive Beat.Relined : Beat → Beat → Prop where
  | dialogue {d d' : Dialogue} : d.text = d'.text → d.speaker = d'.speaker →
    Relined (.dialogue d) (.dialogue d')
  | command {c c' : Command} : c.Relined c' → Relined (.command c) (.command c')

/-- The rows of beats are the same but for their lines. -/
def BeatsRelined (beats beats' : Array Beat) : Prop :=
  List.Forall₂ Beat.Relined beats.toList beats'.toList

end Script

/-- The scripts are the same but for the lines of their beats. -/
structure Script.Relined (s t : Script) : Prop where
  name : s.name = t.name
  conversations : List.Forall₂ (fun e f => e.1 = f.1 ∧ BeatsRelined e.2 f.2) s.conversations
    t.conversations

/-- The cursors stand at the same place of scripts that are the same but for lines. -/
structure Cursor.Relined (c d : Cursor) : Prop where
  script : c.script.Relined d.script
  beats : BeatsRelined c.beats d.beats
  conversation : c.conversation = d.conversation
  index : c.index = d.index
  completed : c.completed = d.completed

namespace Script

theorem Command.Relined.refl (c : Command) : c.Relined c :=
  ⟨rfl, rfl, fun _ _ => rfl⟩

theorem Beat.Relined.refl (b : Beat) : b.Relined b := by
  cases b with
  | dialogue d => exact .dialogue rfl rfl
  | command c => exact .command (.refl c)

theorem BeatsRelined.refl (beats : Array Beat) : BeatsRelined beats beats :=
  List.forall₂_same.2 fun b _ => .refl b

theorem BeatsRelined.size {beats beats' : Array Beat} (h : BeatsRelined beats beats') :
    beats.size = beats'.size := by
  simpa using h.length_eq

theorem Relined.refl (s : Script) : s.Relined s :=
  ⟨rfl, List.forall₂_same.2 fun e _ => ⟨rfl, .refl e.2⟩⟩

theorem Relined.get? {cs ds : Table String (Array Beat)}
    (h : List.Forall₂ (fun e f => e.1 = f.1 ∧ BeatsRelined e.2 f.2) cs ds) (name : String) :
    Option.Rel BeatsRelined (Table.get? name cs) (Table.get? name ds) := by
  induction h with
  | nil => exact .none
  | @cons e f _ _ hef _ ih =>
    obtain ⟨k, beats⟩ := e
    obtain ⟨k', beats'⟩ := f
    obtain ⟨rfl, hbeats⟩ := hef
    unfold Table.get?
    split
    · exact .some hbeats
    · exact ih

section
variable {s t : Script} (h : s.Relined t)
include h

theorem Relined.lookup (name : String) :
    Both (InvImage Eq StoryError.unlined) BeatsRelined (s.lookup name) (t.lookup name) := by
  have hget := Relined.get? h.conversations name
  unfold Script.lookup
  rw [h.name]
  generalize Table.get? name s.conversations = found at hget ⊢
  generalize Table.get? name t.conversations = found' at hget ⊢
  cases hget with
  | some hbeats => exact .ok hbeats
  | none => exact .error rfl

theorem Relined.contains (name : String) : s.contains name = t.contains name := by
  have hget := Relined.get? h.conversations name
  unfold Script.contains Table.has
  generalize Table.get? name s.conversations = found at hget ⊢
  generalize Table.get? name t.conversations = found' at hget ⊢
  cases hget <;> rfl

theorem Relined.named (name : Value) : s.named name = t.named name := by
  unfold Script.named
  rw [h.name]
  simp only [h.contains]

end

end Script

theorem Cursor.Relined.refl (c : Cursor) : c.Relined c :=
  ⟨.refl _, .refl _, rfl, rfl, rfl⟩

namespace Cursor.Relined

variable {c d : Cursor} (h : c.Relined d)
include h

theorem position : c.position = d.position := by
  rw [Cursor.position, Cursor.position, h.conversation, h.index, h.completed]

theorem current : Option.Rel Beat.Relined c.current d.current := by
  have hbeats := h.beats
  unfold BeatsRelined at hbeats
  rw [Cursor.current, Cursor.current, h.index, ← Array.getElem?_toList, ← Array.getElem?_toList]
  generalize d.index = i
  generalize c.beats.toList = beats at hbeats
  generalize d.beats.toList = beats' at hbeats
  induction hbeats generalizing i with
  | nil => exact .none
  | cons hb _ ih => cases i with
    | zero => exact .some hb
    | succ i => exact ih i

theorem advance (count : Int) : (c.advance count).Relined (d.advance count) := by
  unfold Cursor.advance
  rw [h.beats.size, h.index, h.completed]
  exact ⟨h.script, h.beats, h.conversation, rfl, rfl⟩

theorem skip : c.skip.Relined d.skip := by
  unfold Cursor.skip Cursor.exhausted
  rw [h.beats.size, h.index]
  split
  · exact h
  · exact ⟨h.script, h.beats, h.conversation, rfl, h.completed⟩

end Cursor.Relined

/-- The same place in scripts that are the same but for lines. -/
theorem Script.Relined.rebind {s t : Script} (h : s.Relined t) (p : Position) :
    Both (InvImage Eq StoryError.unlined) Cursor.Relined (Cursor.rebind s p)
      (Cursor.rebind t p) :=
  (h.lookup p.conversation).bind fun _ _ hbeats =>
    .ok ⟨h, hbeats, rfl, by simp only [Cursor.clamp, hbeats.size], rfl⟩

theorem Script.Relined.start {s t : Script} (h : s.Relined t) (conversation : String) :
    Both (InvImage Eq StoryError.unlined) Cursor.Relined (Cursor.start s conversation)
      (Cursor.start t conversation) :=
  (h.lookup conversation).bind fun _ _ hbeats => .ok ⟨h, hbeats, rfl, rfl, rfl⟩

/-! ## Intents and outcomes -/

/-- A value of an intent without its line. It may be a row of numbers. -/
def Value.unlinedRow : Value → Value
  | .list items => .list (items.map Value.unlined)
  | v => v.unlined

/-- The intent without the lines that its numbers come from. -/
def Intent.unlined (i : Intent) : Intent :=
  { i with payload := Table.mapValues Value.unlinedRow i.payload }

/-- The outcome without the lines that its numbers come from. -/
def Outcome.unlined : Outcome → Outcome
  | .proceed intents => .proceed (intents.map Intent.unlined)
  | .hold kind payload => .hold kind (Table.mapValues Value.unlinedRow payload)
  | o => o

theorem Value.unlinedRow_congr {v w : Value} (h : v.unlined = w.unlined) :
    v.unlinedRow = w.unlinedRow := by
  have hrow : ∀ v : Value, v.unlined.unlinedRow = v.unlinedRow := by
    intro v
    cases v with
    | list items => rfl
    | record fs =>
      rw [unlined_record]
      show (record _).unlined = (record fs).unlined
      rw [← unlined_record, unlined_unlined]
    | nan o => exact unlined_unlined (nan o)
    | _ => rfl
  rw [← hrow v, h, hrow w]

/-- Payloads are the same but for lines if their values are. -/
theorem payload_cons {key : String} {v w : Value} {p q : Table String Value}
    (h : v.unlined = w.unlined)
    (hrest : Table.mapValues Value.unlinedRow p = Table.mapValues Value.unlinedRow q) :
    Table.mapValues Value.unlinedRow ((key, v) :: p) =
      Table.mapValues Value.unlinedRow ((key, w) :: q) :=
  congrArg₂ (fun v rest => (key, v) :: rest) (Value.unlinedRow_congr h) hrest

theorem send_congr {kind : IntentKind} {p q : Table String Value}
    (h : Table.mapValues Value.unlinedRow p = Table.mapValues Value.unlinedRow q) :
    (Outcome.send kind p).unlined = (Outcome.send kind q).unlined :=
  congrArg (fun payload => Outcome.proceed [Intent.mk kind payload none]) h

theorem Intent.unlinedRow_get (i : Intent) (key : String) :
    (i.get key).unlinedRow = i.unlined.get key := by
  unfold get get?
  rw [unlined, Table.get?_mapValues]
  cases Table.get? key i.payload <;> rfl

/-! ## Sessions and stages -/

/-- The sessions are the same but for lines. -/
structure Session.Relined (x y : Session) : Prop where
  cursor : x.cursor.Relined y.cursor
  scriptName : x.scriptName = y.scriptName
  flags : x.flags = y.flags
  overrides : x.overrides.unlined = y.overrides.unlined
  scene : x.scene.unlined = y.scene.unlined
  choiceSets : x.choiceSets = y.choiceSets
  safe : x.safe.map Snapshot.unlined = y.safe.map Snapshot.unlined

/-- The stages are the same but for lines. -/
structure Stage.Relined (s t : Stage) : Prop where
  config : s.config = t.config
  script : s.script.Relined t.script
  session : s.session.Relined t.session
  timedText : s.timedText = t.timedText
  dice : s.dice = t.dice
  library : s.library = t.library
  files : s.disk.files = t.disk.files

theorem Session.Relined.live {x y : Session} (h : x.Relined y) :
    x.live.unlined = y.live.unlined := by
  show Snapshot.mk x.scriptName x.cursor.position x.flags x.overrides.unlined x.scene.unlined
    x.choiceSets 1 = Snapshot.mk y.scriptName y.cursor.position y.flags y.overrides.unlined
      y.scene.unlined y.choiceSets 1
  rw [h.cursor.position, h.scriptName, h.flags, h.overrides, h.scene, h.choiceSets]

theorem Session.Relined.persistent {x y : Session} (h : x.Relined y) :
    x.persistent.unlined = y.persistent.unlined := by
  have hlive := h.live
  have hsafe := h.safe
  unfold Session.persistent
  generalize x.safe = safe at hsafe ⊢
  generalize y.safe = safe' at hsafe ⊢
  cases rel_of_map hsafe with
  | none => exact hlive
  | some htu => exact htu

namespace Stage

/-- Two actions on stages in tandem, from stages that differ in lines only. -/
abbrev Agree {α β : Type} (Q : α → β → Prop) (act : Action Stage α) (act' : Action Stage β) :
    Prop :=
  InTandem Stage.Relined Q act act'

namespace Relined

variable {s t : Stage} (h : s.Relined t)
include h

theorem mapSession {f g : Session → Session} (hfg : (f s.session).Relined (g t.session)) :
    (s.mapSession f).Relined (t.mapSession g) :=
  ⟨h.config, h.script, hfg, h.timedText, h.dice, h.library, h.files⟩

theorem setCursor {c d : Cursor} (hcursor : c.Relined d) :
    (s.mapCursor fun _ => c).Relined (t.mapCursor fun _ => d) :=
  h.mapSession { h.session with cursor := hcursor }

/-- A place in scripts that are the same but for lines is taken up. -/
theorem enter {script script' : Script} (hscript : script.Relined script') {c d : Cursor}
    (hcursor : c.Relined d) : (s.enter script c).Relined (t.enter script' d) :=
  { h.setCursor hcursor with script := hscript }

theorem mapCursor {f g : Cursor → Cursor} (hfg : ∀ c d, c.Relined d → (f c).Relined (g d)) :
    (s.mapCursor f).Relined (t.mapCursor g) :=
  h.mapSession { h.session with cursor := hfg _ _ h.session.cursor }

theorem mapScene {f g : Scene → Scene}
    (hfg : ∀ x y, x.unlined = y.unlined → (f x).unlined = (g y).unlined) :
    (s.mapScene f).Relined (t.mapScene g) :=
  h.mapSession { h.session with scene := hfg _ _ h.session.scene }

theorem mapOverrides {f g : Overrides → Overrides}
    (hfg : ∀ o p, o.unlined = p.unlined → (f o).unlined = (g p).unlined) :
    (s.mapOverrides f).Relined (t.mapOverrides g) :=
  h.mapSession { h.session with overrides := hfg _ _ h.session.overrides }

theorem mapFlags (f : Flags → Flags) : (s.mapFlags f).Relined (t.mapFlags f) :=
  h.mapSession { h.session with flags := congrArg f h.session.flags }

theorem mapSets (f : ChoiceSets → ChoiceSets) :
    (s.mapSession fun x => { x with choiceSets := f x.choiceSets }).Relined
      (t.mapSession fun x => { x with choiceSets := f x.choiceSets }) :=
  h.mapSession { h.session with choiceSets := congrArg f h.session.choiceSets }

theorem capture : (s.mapSession Session.capture).Relined (t.mapSession Session.capture) :=
  h.mapSession { h.session with safe := congrArg some h.session.live }

theorem release : (s.mapSession Session.release).Relined (t.mapSession Session.release) :=
  h.mapSession { h.session with safe := rfl }

theorem note (level : Level) (text text' : String) :
    (s.note level text).Relined (t.note level text') :=
  ⟨h.config, h.script, h.session, h.timedText, h.dice, h.library, h.files⟩

end Relined

/-! ## The stage -/

theorem editScene_relined {f g : Scene → Scene} {o o' : Outcome} (ho : o.unlined = o'.unlined)
    (hfg : ∀ x y, x.unlined = y.unlined → (f x).unlined = (g y).unlined) :
    Agree (InvImage Eq Outcome.unlined) (do modify (mapScene f); return o)
      (do modify (mapScene g); return o') :=
  (Tandem.modify fun _ _ h => h.mapScene hfg).bind_eq fun _ => .pure ho

theorem log_relined (level : Level) (text text' : String) :
    Agree Eq (modify (note level text)) (modify (note level text')) :=
  .modify fun _ _ h => h.note level text text'

theorem retime_relined (change : Attempt TimedText Unit) :
    Agree Eq (retime change) (retime change) :=
  .attempt (S := Eq) (fun _ _ h => h.timedText)
    (fun _ _ _ _ h htext =>
      ⟨h.config, h.script, h.session, htext, h.dice, h.library, h.files⟩) .self

theorem switchConversation_relined (name : Value) :
    Agree Eq (switchConversation name) (switchConversation name) := by
  refine .get_bind fun s t h => ?_
  have hcursor := h.session.cursor
  dsimp only
  rw [hcursor.script.named]
  refine InTandem.ofExcept_same.bind_eq fun name => ?_
  refine (InTandem.ofStory (hcursor.script.start name)).bind fun c d hcd => ?_
  exact .modify fun _ _ h => h.setCursor hcd

theorem fetchScript_relined {missing missing' : StoryError}
    (hmissing : missing.unlined = missing'.unlined) (name : Value) :
    Agree Eq (fetchScript missing name) (fetchScript missing' name) := by
  refine .get_bind fun s t h => ?_
  dsimp only
  rw [h.library, h.files]
  cases t.library with
  | none => exact .throw (congrArg Fault.story hmissing)
  | some library =>
    refine Tandem.bind_eq ?_ fun _ => InTandem.ofExcept_same
    exact fun _ _ _ => ⟨.ok rfl, h.config, h.script, h.session, h.timedText, h.dice, rfl, h.files⟩

end Stage

/-! ## Timing of text -/

namespace TimedText

variable {v v' w w' : Value} (hv : v.unlined = v'.unlined) (hw : w.unlined = w'.unlined)
include hv hw

theorem setCinematic_congr : setCinematic v w = setCinematic v' w' := by
  have hframes : ∀ (t : TimedText) (v : Value), t.framesOf v.unlined = t.framesOf v := fun t v => by
    simp only [framesOf, Value.truthy_unlined, Value.greater_zero_unlined, Value.toFloat_unlined]
  have hsame : ∀ v w : Value, setCinematic v.unlined w.unlined = setCinematic v w := fun v w => by
    simp only [setCinematic, hframes, Value.truthy_unlined]
  rw [← hsame v w, hv, hw, hsame]

theorem setTypewriter_congr : setTypewriter v w = setTypewriter v' w' := by
  have hsame : ∀ v w : Value, setTypewriter v.unlined w.unlined = setTypewriter v w := fun v w => by
    simp only [setTypewriter, Value.toInt_unlined, Value.truthy_unlined]
  rw [← hsame v w, hv, hw, hsame]

end TimedText

/-! ## Commands -/

namespace Table

variable {κ α β : Type} [BEq κ] {g : α → β}

omit [BEq κ] in
theorem isEmpty_of_mapValues {t t' : Table κ α} (h : mapValues g t = mapValues g t') :
    t.isEmpty = t'.isEmpty := by
  cases t <;> cases t' <;> first | rfl | cases h

/-- A value changed in two tables that show the same. -/
theorem mapValues_modify_congr {f f' : α → α} (hf : ∀ v w, g v = g w → g (f v) = g (f' w)) (key : κ)
    {t t' : Table κ α} (h : mapValues g t = mapValues g t') :
    mapValues g (modify key f t) = mapValues g (modify key f' t') := by
  induction t generalizing t' with
  | nil => cases t' with
    | nil => rfl
    | cons e' t' => cases h
  | cons e t ih => cases t' with
    | nil => cases h
    | cons e' t' =>
      obtain ⟨k, v⟩ := e
      obtain ⟨k', w⟩ := e'
      obtain ⟨hhead, htail⟩ := List.cons.inj h
      obtain ⟨rfl, hvalue⟩ : k = k' ∧ g v = g w := Prod.mk.inj hhead
      refine congrArg₂ List.cons ?_ (ih htail)
      dsimp only
      split
      · exact congrArg (k, ·) (hf v w hvalue)
      · exact hhead

end Table

namespace Command

open Stage

/-- The commands leave the same to do, but for lines. -/
abbrev Concur (act act' : Action Stage Outcome) : Prop :=
  Agree (InvImage Eq Outcome.unlined) act act'

theorem takeOut_relined {α β : Type} {g : α → β} (key : Value) {t t' : Table Value α}
    (h : Table.mapValues g t = Table.mapValues g t') :
    Agree (InvImage Eq fun r => (r.1.map g, Table.mapValues g r.2)) (takeOut key t)
      (takeOut key t') := by
  unfold takeOut
  refine .ite (by rw [Table.isEmpty_of_mapValues h]) (.pure (congrArg (none, ·) h)) ?_
  refine InTandem.ofMishap_same.bind_eq fun key => .pure ?_
  have hfound := congrArg (Table.get? key) h
  have hrest := congrArg (Table.erase key) h
  rw [Table.get?_mapValues, Table.get?_mapValues] at hfound
  rw [← Table.mapValues_erase, ← Table.mapValues_erase] at hrest
  exact congrArg₂ Prod.mk hfound hrest

theorem greater_zero_congr {v w : Value} (h : v.unlined = w.unlined) :
    v.greater (.int 0) = w.greater (.int 0) := by
  rw [← v.greater_zero_unlined, h, w.greater_zero_unlined]

theorem instantIntents_relined {kind : IntentKind} {payload payload' : Table String Value}
    (h : Table.mapValues Value.unlinedRow payload = Table.mapValues Value.unlinedRow payload') :
    (instantIntents kind payload).map Intent.unlined =
      (instantIntents kind payload').map Intent.unlined := by
  have hsent : Intent.unlined { kind, payload := ("duration", .float 0.0) :: payload } =
      Intent.unlined { kind, payload := ("duration", .float 0.0) :: payload' } :=
    congrArg (fun p => Intent.mk kind (("duration", .float 0.0) :: p) none) h
  unfold instantIntents
  dsimp only
  split
  · refine congrArg₂ (fun i j => [i, j]) hsent ?_
    refine congrArg (fun v => Intent.mk .fadeEnd [("direction", v)] none) ?_
    rw [Intent.unlinedRow_get, hsent, ← Intent.unlinedRow_get]
  · exact congrArg ([·]) hsent

section
variable {name place duration duration' scale scale' dx dx' dy dy' : Value}

theorem runEffect_relined {kind : IntentKind} {payload payload' : Table String Value}
    {change change' : Action Stage Unit} (hduration : duration.unlined = duration'.unlined)
    (hpayload : Table.mapValues Value.unlinedRow payload =
      Table.mapValues Value.unlinedRow payload') (h : Agree Eq change change') :
    Concur (runEffect kind duration payload change)
      (runEffect kind duration' payload' change') := by
  unfold runEffect
  rw [greater_zero_congr hduration]
  refine InTandem.ofMishap_same.bind_eq fun lasts => .ite .rfl ?_ ?_
  · refine (Tandem.modify fun _ _ h => h.capture).bind_eq fun _ => h.bind_eq fun _ => .pure ?_
    have hlast := Value.unlinedRow_congr hduration
    simp only [InvImage, Outcome.unlined, Table.mapValues, List.map_append, List.map_cons,
      List.map_nil] at hpayload ⊢
    rw [hpayload, hlast]
  · exact h.bind_eq fun _ => .pure (congrArg Outcome.proceed (instantIntents_relined hpayload))

theorem changeSprite_relined {f g : Sprite → Sprite}
    (hfg : ∀ v w, v.unlined = w.unlined → (f v).unlined = (g w).unlined) :
    Agree Eq (changeSprite name f) (changeSprite name g) := by
  refine .modify fun _ _ h => h.mapScene fun x y hxy => ?_
  have hsprites := Table.mapValues_modify_congr hfg name (congrArg Scene.sprites hxy)
  exact congrArg₂ (fun (x : Scene) sprites => { x with sprites }) hxy hsprites

theorem viewSetting_relined (key : String) : Agree Eq (viewSetting key) (viewSetting key) := by
  refine .get_bind fun _ _ h => ?_
  rw [h.config]
  exact InTandem.ofMishap_same

theorem sprite_congr {s t : Stage} (h : s.Relined t) (key : Value) :
    (Table.get? key s.session.scene.sprites).map Sprite.unlined =
      (Table.get? key t.session.scene.sprites).map Sprite.unlined := by
  rw [← Table.get?_mapValues, ← Table.get?_mapValues]
  exact congrArg (fun x => Table.get? key x.sprites) h.session.scene

theorem sprite?_relined (kind : CommandKind) :
    Agree (InvImage Eq (Option.map Sprite.unlined)) (sprite? kind name) (sprite? kind name) := by
  refine InTandem.ofMishap_same.bind_eq fun key => .get_bind fun s t h => ?_
  have hfound := sprite_congr h key
  dsimp only
  refine .ite ?_ ((log_relined _ _ _).bind_eq fun _ => .pure hfound) (.pure hfound)
  rw [← Option.isNone_map (f := Sprite.unlined), hfound, Option.isNone_map]

/-- A command on a sprite of the screen. -/
theorem onSprite_relined {kind : CommandKind} {k l : Sprite → Action Stage Outcome}
    (h : ∀ p q, p.unlined = q.unlined → Concur (k p) (l q)) :
    Concur (do
      match ← sprite? kind name with
      | none => return .next
      | some sprite => k sprite) (do
      match ← sprite? kind name with
      | none => return .next
      | some sprite => l sprite) := by
  refine (sprite?_relined kind).bind fun found found' hfound => ?_
  cases rel_of_map hfound with
  | none => exact .pure rfl
  | some hpq => exact h _ _ hpq

theorem pictureOf_relined :
    Agree (InvImage Eq Value.unlined) (pictureOf name) (pictureOf name) := by
  refine .get_bind fun s t h => ?_
  have haliases := congrArg Scene.spriteAliases h.session.scene
  refine (InTandem.ofMishap_map (Value.fields_congr haliases)).bind fun fs fs' hfs => ?_
  refine InTandem.ofMishap_same.bind_eq fun key => .pure ?_
  have hfound := congrArg (fun fs => (Table.get? key fs).getD .null) hfs
  have hget : ∀ fs : Fields, ((Table.get? key fs).getD .null).unlined =
      (Table.get? key (Table.mapValues Value.unlined fs)).getD .null := by
    intro fs
    rw [Table.get?_mapValues]
    cases Table.get? key fs <;> rfl
  show Value.unlined _ = Value.unlined _
  rw [Value.unlined_orElse, Value.unlined_orElse, hget, hget, hfound]

theorem putSprite_relined {filename filename' atOnce : Value}
    (hfilename : filename.unlined = filename'.unlined) (p q : Sprite)
    (hpq : InvImage Eq Sprite.unlined p q) : Concur (do
      modify (mapScene fun s => { s with sprites := Table.put name p s.sprites })
      return Outcome.send .showSprite [("name", name), ("filename", filename), ("x", p.x),
        ("y", p.y), ("at_once", atOnce)]) (do
      modify (mapScene fun s => { s with sprites := Table.put name q s.sprites })
      return Outcome.send .showSprite [("name", name), ("filename", filename'), ("x", q.x),
        ("y", q.y), ("at_once", atOnce)]) := by
  have hx : p.x.unlined = q.x.unlined := congrArg Sprite.x hpq
  have hy : p.y.unlined = q.y.unlined := congrArg Sprite.y hpq
  refine editScene_relined ?_ fun x y hxy => ?_
  · exact send_congr (payload_cons rfl (payload_cons hfilename (payload_cons hx
      (payload_cons hy rfl))))
  · have hsprites := congrArg (Table.put name p.unlined) (congrArg Scene.sprites hxy)
    have hput : Table.mapValues Sprite.unlined (Table.put name p x.sprites) =
        Table.mapValues Sprite.unlined (Table.put name q y.sprites) := by
      rw [Table.mapValues_put, Table.mapValues_put, ← hpq]
      exact hsprites
    exact congrArg₂ (fun (x : Scene) sprites => { x with sprites }) hxy hput

theorem addSprite_relined {atOnce : Value} :
    Concur (addSprite name atOnce) (addSprite name atOnce) := by
  refine pictureOf_relined.bind fun filename filename' hfilename => .get_bind fun s t h => ?_
  have hfound := sprite_congr h name
  dsimp only
  generalize Table.get? name s.session.scene.sprites = found at hfound ⊢
  generalize Table.get? name t.session.scene.sprites = found' at hfound ⊢
  cases rel_of_map hfound with
  | some hpq =>
    refine (Tandem.pure ?_).bind (putSprite_relined hfilename)
    exact congrArg₂ (fun (p : Sprite) filename => { p with filename }) hpq hfilename
  | none =>
    refine (viewSetting_relined _).bind_eq fun _ => InTandem.ofMishap_same.bind_eq fun x => ?_
    refine (viewSetting_relined _).bind_eq fun _ => (viewSetting_relined _).bind_eq fun _ => ?_
    refine InTandem.ofMishap_same.bind_eq fun y =>
      (Tandem.pure ?_).bind (putSprite_relined hfilename)
    exact congrArg (fun filename : Value => (Sprite.mk filename x.unlined y.unlined (.float 1.0)
      (.bool false) (.bool false))) hfilename

theorem removeSprite_relined {atOnce : Value} :
    Concur (removeSprite name atOnce) (removeSprite name atOnce) := by
  refine .get_bind fun s t h => ?_
  refine (takeOut_relined name (congrArg Scene.sprites h.session.scene)).bind fun r r' hr => ?_
  obtain ⟨found, sprites⟩ := r
  obtain ⟨found', sprites'⟩ := r'
  obtain ⟨hfound, hsprites⟩ := Prod.mk.inj hr
  cases rel_of_map hfound with
  | none => exact (log_relined _ _ _).bind_eq fun _ => .pure rfl
  | some hpq =>
    refine editScene_relined rfl fun x y hxy => ?_
    exact congrArg₂ (fun (x : Scene) sprites => { x with sprites }) hxy hsprites

theorem alignSprite_relined (hduration : duration.unlined = duration'.unlined) :
    Concur (alignSprite name place duration) (alignSprite name place duration') := by
  refine onSprite_relined fun p q hpq => ?_
  have hmove : ∀ part : Float, Concur (do
      let x ← Action.ofMishap ((← viewSetting "width").mul (.float part))
      runEffect .moveSprite duration [("name", name), ("x", x), ("y", p.y)]
        (changeSprite name fun s => { s with x })) (do
      let x ← Action.ofMishap ((← viewSetting "width").mul (.float part))
      runEffect .moveSprite duration' [("name", name), ("x", x), ("y", q.y)]
        (changeSprite name fun s => { s with x })) := by
    refine fun part => (viewSetting_relined "width").bind_eq fun width => ?_
    refine InTandem.ofMishap_same.bind_eq fun x => runEffect_relined hduration ?_ ?_
    · exact payload_cons rfl (payload_cons rfl (payload_cons (congrArg Sprite.y hpq) rfl))
    · exact changeSprite_relined fun v w hvw =>
        congrArg (fun v : Sprite => { v with x := x.unlined }) hvw
  split
  · exact (Tandem.pure rfl).bind_eq hmove
  · exact (log_relined _ _ _).bind_eq fun _ => (Tandem.pure rfl).bind_eq hmove

theorem moveSprite_relined (hdx : dx.unlined = dx'.unlined) (hdy : dy.unlined = dy'.unlined)
    (hduration : duration.unlined = duration'.unlined) :
    Concur (moveSprite name dx dy duration) (moveSprite name dx' dy' duration') := by
  refine onSprite_relined fun p q hpq => ?_
  have hsumX := Value.add_congr (congrArg Sprite.x hpq) hdx
  have hsumY := Value.add_congr (congrArg Sprite.y hpq) hdy
  refine (InTandem.ofMishap_map hsumX).bind fun x x' hx => ?_
  refine (InTandem.ofMishap_map hsumY).bind fun y y' hy => ?_
  refine runEffect_relined hduration ?_ ?_
  · exact payload_cons rfl (payload_cons hx (payload_cons hy (payload_cons hdx
      (payload_cons hdy rfl))))
  · exact changeSprite_relined fun v w hvw => Sprite.placed_congr hvw hx hy

theorem placeSprite_relined (hx : dx.unlined = dx'.unlined) (hy : dy.unlined = dy'.unlined) :
    Concur (placeSprite name dx dy) (placeSprite name dx' dy') := by
  refine onSprite_relined fun p q _ => Tandem.bind_eq (changeSprite_relined fun v w hvw => ?_)
    fun _ => .pure ?_
  · exact Sprite.placed_congr hvw hx hy
  · exact send_congr (payload_cons rfl (payload_cons hx (payload_cons hy rfl)))

theorem flipSprite_relined {horizontal : Value} (hduration : duration.unlined = duration'.unlined) :
    Concur (flipSprite name duration horizontal) (flipSprite name duration' horizontal) := by
  refine onSprite_relined fun p q _ => runEffect_relined hduration rfl ?_
  refine changeSprite_relined fun v w hvw => ?_
  rw [Sprite.unlined_flip, Sprite.unlined_flip, hvw]

theorem scaleSprite_relined (hscale : scale.unlined = scale'.unlined)
    (hduration : duration.unlined = duration'.unlined) :
    Concur (scaleSprite name scale duration) (scaleSprite name scale' duration') := by
  refine onSprite_relined fun p q _ => runEffect_relined hduration ?_ ?_
  · exact payload_cons rfl (payload_cons hscale rfl)
  · refine changeSprite_relined fun v w hvw => ?_
    exact congrArg₂ (fun (v : Sprite) scale => { v with scale }) hvw hscale

theorem withoutAlias_relined {aliases aliases' : Value} (h : aliases.unlined = aliases'.unlined) :
    Agree (InvImage Eq Value.unlined) (withoutAlias aliases name) (withoutAlias aliases' name) := by
  obtain ⟨o, p, rfl, rfl⟩ | ⟨fs, gs, rfl, rfl, hfs⟩ | ⟨rfl, hplain⟩ :=
    Value.cases_of_unlined_eq h
  · exact .throw rfl
  · refine (takeOut_relined name hfs).bind fun r r' hr => .pure ?_
    have hrest : Table.mapValues Value.unlined r.2 = Table.mapValues Value.unlined r'.2 :=
      congrArg Prod.snd hr
    simpa [InvImage] using hrest
  · cases aliases with
    | record fs => exact absurd rfl (hplain fs)
    | _ => exact .throw rfl

theorem withAlias_relined {aliases aliases' filename : Value}
    (h : aliases.unlined = aliases'.unlined) :
    Agree (InvImage Eq Value.unlined) (withAlias aliases name filename)
      (withAlias aliases' name filename) := by
  obtain ⟨o, p, rfl, rfl⟩ | ⟨fs, gs, rfl, rfl, hfs⟩ | ⟨rfl, hplain⟩ :=
    Value.cases_of_unlined_eq h
  · exact .throw rfl
  · refine InTandem.ofMishap_same.bind_eq fun key => .pure ?_
    have hput := congrArg (Table.put key filename.unlined) hfs
    rw [← Table.mapValues_put, ← Table.mapValues_put] at hput
    simpa [InvImage] using hput
  · cases aliases with
    | record fs => exact absurd rfl (hplain fs)
    | list items => exact InTandem.ofMishap_same.bind_eq fun items => .pure rfl
    | _ => exact .throw rfl

theorem setSpriteAlias_relined {filename : Value} :
    Concur (setSpriteAlias name filename) (setSpriteAlias name filename) := by
  have hput : ∀ aliases aliases' : Value, aliases.unlined = aliases'.unlined → Concur (do
      modify (mapScene fun s => { s with spriteAliases := aliases })
      return Outcome.next) (do
      modify (mapScene fun s => { s with spriteAliases := aliases' })
      return Outcome.next) := fun aliases aliases' h =>
    editScene_relined rfl fun x y hxy =>
      congrArg₂ (fun (x : Scene) spriteAliases => { x with spriteAliases }) hxy h
  refine .get_bind fun s t h => ?_
  have haliases : s.session.scene.spriteAliases.unlined = t.session.scene.spriteAliases.unlined :=
    congrArg Scene.spriteAliases h.session.scene
  dsimp only
  cases filename with
  | null => exact (withoutAlias_relined haliases).bind hput
  | _ => exact (withAlias_relined haliases).bind hput

end

/-- A step of a drag in tandem with one over a distance that is the same but for its line. -/
theorem dragStep_relined {value : Scene → Option Value} {d d' : Except Mishap Value}
    {put : Value → Scene → Scene}
    (hvalue : ∀ x y, x.unlined = y.unlined →
      (value x).map Value.unlined = (value y).map Value.unlined)
    (hd : d.map Value.unlined = d'.map Value.unlined)
    (hput : ∀ v w x y, v.unlined = w.unlined → x.unlined = y.unlined →
      (put v x).unlined = (put w y).unlined) :
    Tandem Eq (InvImage Eq Scene.unlined) Eq (Scene.dragStep value d put)
      (Scene.dragStep value d' put) := by
  refine .get_bind fun x y hxy => ?_
  have hfound := hvalue x y hxy
  generalize value x = found at hfound ⊢
  generalize value y = found' at hfound ⊢
  cases rel_of_map hfound with
  | none => exact .pure rfl
  | @some v w hvw =>
    have hmoved : (d.bind v.movedBy).map Value.unlined = (d'.bind w.movedBy).map Value.unlined :=
      map_bind_congr hd fun _ _ hab => Value.movedBy_congr hvw hab
    dsimp only
    generalize d.bind v.movedBy = r at hmoved ⊢
    generalize d'.bind w.movedBy = r' at hmoved ⊢
    cases Both.of_map hmoved with
    | error hm => exact .throw hm
    | ok hab => exact .modify fun x y hxy => hput _ _ x y hab hxy

/-- A value changed in the sprite of a name, if there is one. -/
theorem changeSprite_congr {f g : Sprite → Sprite}
    (hfg : ∀ v w, v.unlined = w.unlined → (f v).unlined = (g w).unlined) (name : Value)
    {x y : Scene} (hxy : x.unlined = y.unlined) :
    (x.changeSprite name f).unlined = (y.changeSprite name g).unlined :=
  congrArg₂ (fun (x : Scene) sprites => { x with sprites }) hxy
    (Table.mapValues_modify_congr hfg name (congrArg Scene.sprites hxy))

section
variable {dx dx' dy dy' duration duration' scale scale' parallax parallax' : Value}

theorem drag_relined (hdx : dx.unlined = dx'.unlined) (hdy : dy.unlined = dy'.unlined)
    (hparallax : parallax.unlined = parallax'.unlined) :
    Tandem Eq (InvImage Eq Scene.unlined) Eq (Scene.drag (.ok dx) (.ok dy) (.ok parallax))
      (Scene.drag (.ok dx') (.ok dy') (.ok parallax')) := by
  have hok : ∀ {v w : Value}, v.unlined = w.unlined →
      (Except.ok v : Except Mishap Value).map Value.unlined = (Except.ok w).map Value.unlined :=
    fun h => congrArg Except.ok h
  refine (dragStep_relined (fun x y hxy => ?_) (hok hdx) ?_).bind_eq fun _ => ?_
  · exact congrArg (fun x : Scene => some x.backgroundX) hxy
  · exact fun v w x y hvw hxy =>
      congrArg₂ (fun (x : Scene) backgroundX => { x with backgroundX }) hxy hvw
  refine (dragStep_relined (fun x y hxy => ?_) (hok hdy) ?_).bind_eq fun _ => ?_
  · exact congrArg (fun x : Scene => some x.backgroundY) hxy
  · exact fun v w x y hvw hxy =>
      congrArg₂ (fun (x : Scene) backgroundY => { x with backgroundY }) hxy hvw
  refine .get_bind fun x y hxy => ?_
  have hkeys : Table.keys x.sprites = Table.keys y.sprites := by
    have hsprites := congrArg (fun x : Scene => Table.keys x.sprites) hxy
    simpa [Scene.unlined, Table.keys, Table.mapValues, Function.comp_def] using hsprites
  dsimp only
  rw [hkeys]
  refine .forM (f := id) rfl fun name _ (hname : name = _) => ?_
  subst hname
  have hsprite : ∀ (get : Sprite → Value), (∀ p : Sprite, (get p).unlined = get p.unlined) →
      ∀ x y : Scene, x.unlined = y.unlined →
        ((Table.get? name x.sprites).map get).map Value.unlined =
          ((Table.get? name y.sprites).map get).map Value.unlined := by
    intro get hget x y hxy
    have hfound := congrArg (fun x : Scene => (Table.get? name x.sprites).map get) hxy
    simpa [Scene.unlined, Table.get?_mapValues, Function.comp_def, hget] using hfound
  refine (dragStep_relined (hsprite Sprite.x fun _ => rfl) (Value.mul_congr hdx hparallax)
    ?_).bind_eq fun _ => dragStep_relined (hsprite Sprite.y fun _ => rfl)
      (Value.mul_congr hdy hparallax) ?_
  · exact fun v w x y hvw hxy => changeSprite_congr
      (fun p q hpq => congrArg₂ (fun (p : Sprite) x => { p with x }) hpq hvw) name hxy
  · exact fun v w x y hvw hxy => changeSprite_congr
      (fun p q hpq => congrArg₂ (fun (p : Sprite) y => { p with y }) hpq hvw) name hxy

theorem moveBackground_relined (hdx : dx.unlined = dx'.unlined) (hdy : dy.unlined = dy'.unlined)
    (hduration : duration.unlined = duration'.unlined)
    (hparallax : parallax.unlined = parallax'.unlined) :
    Concur (moveBackground dx dy duration parallax)
      (moveBackground dx' dy' duration' parallax') := by
  refine runEffect_relined hduration ?_ ?_
  · exact payload_cons hdx (payload_cons hdy (payload_cons hparallax rfl))
  · refine .attempt (fun _ _ h => h.session.scene) (fun s t x y h hxy => ?_)
      (drag_relined hdx hdy hparallax)
    exact h.mapScene fun _ _ _ => hxy

theorem scaleBackground_relined (hscale : scale.unlined = scale'.unlined)
    (hduration : duration.unlined = duration'.unlined) :
    Concur (scaleBackground scale duration) (scaleBackground scale' duration') := by
  refine runEffect_relined hduration (payload_cons hscale rfl) ?_
  exact .modify fun _ _ h => h.mapScene fun _ _ hxy =>
    congrArg₂ (fun (x : Scene) backgroundScale => { x with backgroundScale }) hxy hscale

theorem fade_relined {out : Bool} (hduration : duration.unlined = duration'.unlined) :
    Concur (fade out duration) (fade out duration') :=
  runEffect_relined hduration rfl <| .modify fun _ _ h => h.mapScene fun _ _ hxy =>
    congrArg (fun x : Scene => { x with fadedOut := .bool out }) hxy

theorem setBackground_relined {filename : Value} :
    Concur (setBackground filename) (setBackground filename) :=
  editScene_relined rfl fun _ _ hxy =>
    congrArg (fun x : Scene => { x with
      background := filename.unlined, backgroundX := .float 0.0, backgroundY := .float 0.0
      backgroundScale := .float 1.0 }) hxy

theorem playMusic_relined {filename loop : Value} :
    Concur (playMusic filename loop) (playMusic filename loop) := by
  have hmodify : Agree Eq
      (modify (mapScene fun s => { s with music := filename, musicLoop := loop }))
      (modify (mapScene fun s => { s with music := filename, musicLoop := loop })) :=
    .modify fun _ _ h => h.mapScene fun _ _ hxy =>
      congrArg (fun x : Scene => { x with
        music := filename.unlined, musicLoop := loop.unlined }) hxy
  refine hmodify.bind_eq fun _ => ?_
  cases filename <;> exact .pure rfl

theorem setSpeaker_relined {name : Value} : Concur (setSpeaker name) (setSpeaker name) :=
  editScene_relined rfl fun _ _ hxy =>
    congrArg (fun x : Scene => { x with speaker := name.unlined }) hxy

theorem showSpeech_relined {visible : Value} : Concur (showSpeech visible) (showSpeech visible) :=
  editScene_relined rfl fun _ _ hxy =>
    congrArg (fun x : Scene => { x with showSpeech := visible.unlined }) hxy

theorem setSpeechbox_relined {filename : Value} (hduration : duration.unlined = duration'.unlined) :
    Concur (setSpeechbox filename duration) (setSpeechbox filename duration') :=
  editScene_relined (send_congr (payload_cons rfl (payload_cons hduration rfl))) fun _ _ hxy =>
    congrArg (fun x : Scene => { x with speechbox := filename.unlined }) hxy

theorem setFont_relined {field : String} {value value' : Value}
    (h : value.unlined = value'.unlined) :
    Concur (setFont field value) (setFont field value') := by
  refine (Tandem.modify fun _ _ hst => hst.mapOverrides fun o p hop => ?_).bind_eq fun _ =>
    .pure (send_congr (payload_cons h rfl))
  rw [Overrides.unlined_setField, Overrides.unlined_setField, hop, h]

theorem setCinematicText_relined {seconds seconds' inputAllowed : Value}
    (h : seconds.unlined = seconds'.unlined) :
    Concur (setCinematicText seconds inputAllowed) (setCinematicText seconds' inputAllowed) := by
  refine (InTandem.ofMishap_map (Value.largest_congr rfl h)).bind fun v w hvw => ?_
  rw [greater_zero_congr hvw]
  refine InTandem.ofMishap_same.bind_eq fun on => Tandem.bind_eq ?_ fun _ => ?_
  · refine .modify fun _ _ hst => hst.mapOverrides fun o p hop => ?_
    cases on with
    | false =>
      exact congrArg₂ (fun (o : Overrides) cinematicSeconds => { o with
        cinematicSeconds, cinematicInputAllowed := inputAllowed.unlined }) hop hvw
    | true =>
      exact congrArg₂ (fun (o : Overrides) cinematicSeconds => { o with
        cinematicSeconds, cinematicInputAllowed := inputAllowed.unlined
        typewriterRate := .int 0 }) hop hvw
  · rw [TimedText.setCinematic_congr hvw rfl]
    exact (retime_relined _).bind_eq fun _ => .pure rfl

theorem setTypewriterText_relined {rate canSkip : Value} :
    Concur (setTypewriterText rate canSkip) (setTypewriterText rate canSkip) := by
  refine InTandem.ofMishap_same.bind_eq fun v => InTandem.ofMishap_same.bind_eq fun on => ?_
  refine Tandem.bind_eq (.modify fun _ _ hst => hst.mapOverrides fun o p hop => ?_) fun _ =>
    (retime_relined _).bind_eq fun _ => .pure rfl
  cases on with
  | false =>
    exact congrArg (fun o : Overrides => { o with
      typewriterRate := v.unlined, typewriterCanSkip := canSkip.unlined }) hop
  | true =>
    exact congrArg (fun o : Overrides => { o with
      typewriterRate := v.unlined, typewriterCanSkip := canSkip.unlined
      cinematicSeconds := .float 0.0 }) hop

theorem moveChoicebox_relined (hdx : dx.unlined = dx'.unlined) (hdy : dy.unlined = dy'.unlined) :
    Concur (moveChoicebox dx dy) (moveChoicebox dx' dy') := by
  refine .get_bind fun s t h => ?_
  have hx := congrArg Overrides.choiceboxOffsetX h.session.overrides
  refine (InTandem.ofMishap_map (Value.movedBy_congr hx hdx)).bind fun x x' hx => ?_
  refine (Tandem.modify fun _ _ hst => hst.mapOverrides fun o p hop =>
    congrArg₂ (fun (o : Overrides) choiceboxOffsetX => { o with choiceboxOffsetX }) hop hx).bind_eq
      fun _ => .get_bind fun s t h => ?_
  have hy := congrArg Overrides.choiceboxOffsetY h.session.overrides
  refine (InTandem.ofMishap_map (Value.movedBy_congr hy hdy)).bind fun y y' hy => ?_
  refine (Tandem.modify fun _ _ hst => hst.mapOverrides fun o p hop =>
    congrArg₂ (fun (o : Overrides) choiceboxOffsetY => { o with choiceboxOffsetY }) hop hy).bind_eq
      fun _ => .pure (send_congr (payload_cons hx (payload_cons hy rfl)))

end

/-! ## Commands on the flow of the story and on menus -/

section
variable {flag : String} {value : Value}

theorem setConversation_relined : Concur (setConversation value) (setConversation value) :=
  (switchConversation_relined value).bind_eq fun _ => .pure rfl

theorem switchScript_relined {line line' name conversation : Value} :
    Concur (switchScript line name conversation) (switchScript line' name conversation) := by
  have hmissing : StoryError.unlined { cause := .noLibraryToSwitch name, line } =
      StoryError.unlined { cause := .noLibraryToSwitch name, line := line' } := rfl
  refine (fetchScript_relined hmissing name).bind_eq fun script => ?_
  refine InTandem.ofExcept_same.bind_eq fun conversation => ?_
  refine (InTandem.ofStory (.refl fun _ => rfl)).bind_eq fun cursor => ?_
  refine (Tandem.modify fun _ _ h => h.enter (.refl script) (.refl cursor)).bind_eq fun _ => ?_
  refine (Tandem.modify fun _ _ h => h.mapSession ?_).bind_eq fun _ =>
    (log_relined _ _ _).bind_eq fun _ => .pure rfl
  exact { h.session with scriptName := rfl, choiceSets := rfl }

theorem setFlag_relined : Concur (setFlag flag value) (setFlag flag value) :=
  InTandem.ofMishap_same.bind_eq fun _ =>
    (Tandem.modify fun _ _ h => h.mapFlags _).bind_eq fun _ => .pure rfl

theorem modifyFlag_relined : Concur (modifyFlag flag value) (modifyFlag flag value) :=
  InTandem.ofMishap_same.bind_eq fun _ =>
    (Tandem.modify fun _ _ h => h.mapFlags _).bind_eq fun _ => .pure rfl

theorem modifyFlagByFlag_relined {up : Bool} {other : String} :
    Concur (modifyFlagByFlag up flag other) (modifyFlagByFlag up flag other) :=
  (Tandem.modify fun _ _ h => h.mapFlags _).bind_eq fun _ => .pure rfl

theorem rollDice_relined {sides count flag : Value} :
    Concur (rollDice sides count flag) (rollDice sides count flag) := by
  have hset : ∀ sum, Concur (do setFlag (← flagOf flag) sum) (do setFlag (← flagOf flag) sum) :=
    fun sum => InTandem.ofMishap_same.bind_eq fun _ => setFlag_relined
  unfold rollDice
  refine Tandem.bind_eq ?_ fun ok => .ite .rfl ?_ ((Tandem.pure rfl).bind_eq hset)
  · exact InTandem.ofMishap_same.bind_eq fun _ => .ite .rfl InTandem.ofMishap_same (.pure rfl)
  · refine InTandem.ofMishap_same.bind_eq fun _ => Tandem.bind_eq ?_ hset
    exact InTandem.attempt (S := Eq) (fun _ _ h => h.dice)
      (fun _ _ _ _ h hdice =>
        ⟨h.config, h.script, h.session, h.timedText, hdice, h.library, h.files⟩) .self

theorem condition_relined {kind : CommandKind} {rest : List Value} :
    Concur (condition kind flag rest) (condition kind flag rest) := by
  refine .get_bind fun s t h => ?_
  rw [h.session.flags]
  refine InTandem.ofMishap_same.bind_eq fun ok => ?_
  refine (Tandem.modify fun _ _ h => h.mapCursor fun c d hcd => ?_).bind_eq fun _ => .pure rfl
  split
  · exact hcd.advance 1
  · exact (hcd.advance 1).skip

theorem jumpOnFlag_relined {groups : List (List Value)} :
    Concur (jumpOnFlag flag groups) (jumpOnFlag flag groups) := by
  fun_induction jumpOnFlag flag groups with
  | case1 => exact .pure rfl
  | case2 expected conversation rest ih =>
    refine .get_bind fun s t h => ?_
    rw [h.session.flags]
    exact .ite .rfl setConversation_relined ih
  | case3 => exact .throw rfl

theorem jumpOption_relined (group : List Value) :
    Agree Eq (jumpOption group) (jumpOption group) := by
  fun_cases jumpOption group with
  | case1 => exact .pure rfl
  | case2 => exact .throw rfl

theorem adjustOption_relined (group : List Value) :
    Agree Eq (adjustOption group) (adjustOption group) := by
  fun_cases adjustOption group with
  | case1 => exact InTandem.ofMishap_same.bind_eq fun _ => .pure rfl
  | case2 => exact .throw rfl

theorem askFor_relined {option : List Value → Action Stage ChoiceOption} {line : Value}
    {groups : List (List Value)} (h : ∀ group, Agree Eq (option group) (option group)) :
    Concur (askFor option line groups) (askFor option line groups) :=
  (Tandem.mapM_same h).bind_eq fun _ => .pure rfl

theorem changeSets_relined (f : ChoiceSets → ChoiceSets) : Agree Eq (changeSets f) (changeSets f) :=
  .modify fun _ _ h => h.mapSets f

theorem addToChoiceSet_relined {name text conversation : Value} :
    Concur (addToChoiceSet name text conversation) (addToChoiceSet name text conversation) :=
  InTandem.ofMishap_same.bind_eq fun _ => (changeSets_relined _).bind_eq fun _ => .pure rfl

theorem removeFromChoiceSet_relined {name text : Value} :
    Concur (removeFromChoiceSet name text) (removeFromChoiceSet name text) :=
  InTandem.ofMishap_same.bind_eq fun _ => (changeSets_relined _).bind_eq fun _ => .pure rfl

theorem wipeChoiceSet_relined {name : Value} :
    Concur (wipeChoiceSet name) (wipeChoiceSet name) := by
  refine .get_bind fun s t h => ?_
  rw [h.session.choiceSets]
  refine Tandem.bind_eq (.ite .rfl (.pure rfl) (InTandem.ofMishap_same.bind_eq fun _ => .pure rfl))
    fun r => (changeSets_relined _).bind_eq fun _ => .pure rfl

theorem showChoiceSet_relined {name : Value} :
    Concur (showChoiceSet name) (showChoiceSet name) := by
  refine InTandem.ofMishap_same.bind_eq fun key => .get_bind fun s t h => ?_
  rw [h.session.choiceSets]
  split
  · exact (log_relined _ _ _).bind_eq fun _ => .pure rfl
  · exact .pure rfl

/-- Whether a command takes a double. -/
def takesFloat (kind : CommandKind) : Bool :=
  (Layout.of kind).head.any fun p => decide (p.type = .float)

/-- The same command on stages that are the same but for lines. -/
theorem perform_self (cmd : Script.Command) : Concur (perform cmd) (perform cmd) := by
  have hflag : ∀ {flag : Value} {k : String → Action Stage Outcome},
      (∀ flag, Concur (k flag) (k flag)) → Concur (flagOf flag >>= k) (flagOf flag >>= k) :=
    fun h => InTandem.ofMishap_same.bind_eq h
  cases cmd using shapes with
  | addSprite => exact addSprite_relined
  | removeSprite => exact removeSprite_relined
  | alignSprite => exact alignSprite_relined rfl
  | moveSprite => exact moveSprite_relined rfl rfl rfl
  | setSpritePosition => exact placeSprite_relined rfl rfl
  | flipSprite => exact flipSprite_relined rfl
  | scaleSprite => exact scaleSprite_relined rfl rfl
  | setSpriteAlias => exact setSpriteAlias_relined
  | setBackground => exact setBackground_relined
  | moveBackground => exact moveBackground_relined rfl rfl rfl rfl
  | scaleBackground => exact scaleBackground_relined rfl rfl
  | fadeIn | fadeOut => exact fade_relined rfl
  | playSound | systemCall => exact .pure rfl
  | playMusic => exact playMusic_relined
  | setSpeaker => exact setSpeaker_relined
  | showSpeech => exact showSpeech_relined
  | setSpeechbox => exact setSpeechbox_relined rfl
  | setSpeechFont | setSpeechFontSize | setSpeakerFont | setSpeakerFontSize =>
    exact setFont_relined rfl
  | setCinematicText => exact setCinematicText_relined rfl
  | setTypewriterText => exact setTypewriterText_relined
  | modifyChoiceboxOffset => exact moveChoicebox_relined rfl rfl
  | setConversation => exact setConversation_relined
  | switchScript => exact switchScript_relined
  | setFlag => exact hflag fun _ => setFlag_relined
  | modifyFlag => exact hflag fun _ => modifyFlag_relined
  | increaseFlagByFlag | decreaseFlagByFlag =>
    exact hflag fun _ => hflag fun _ => modifyFlagByFlag_relined
  | rollDice => exact rollDice_relined
  | isFlag | isFlagMoreThan | isFlagLessThan | isFlagBetween | isFlagMoreThanFlag
  | isFlagLessThanFlag | isFlagEqualToFlag => exact hflag fun _ => condition_relined
  | jumpOnFlag => exact hflag fun _ => jumpOnFlag_relined
  | jumpOnChoice | showChoiceAndJump => exact askFor_relined jumpOption_relined
  | modifyFlagByChoice | showChoiceAndModify => exact askFor_relined adjustOption_relined
  | addToChoiceSet => exact addToChoiceSet_relined
  | removeFromChoiceSet => exact removeFromChoiceSet_relined
  | wipeChoiceSet => exact wipeChoiceSet_relined
  | showChoiceSet => exact showChoiceSet_relined
  | misfit => exact .throw rfl

/-- Parameters of a group that is repeated are no doubles. -/
theorem repeated_plain (kind : CommandKind) :
    ((Layout.of kind).repeated.any fun p => decide (p.type = .float)) = false := by
  cases kind <;> rfl

theorem isFloat_of_takesFloat {kind : CommandKind} (h : takesFloat kind = false) (i : Nat) :
    (Layout.of kind).isFloat i = false := by
  have hmem : ∀ {ps : List Param} {j : Nat}, (ps.any fun p => decide (p.type = .float)) = false →
      (ps[j]?.any fun p => decide (p.type = .float)) = false := by
    intro ps j hps
    cases hp : ps[j]? with
    | none => rfl
    | some p => exact Bool.eq_false_iff.2 (List.any_eq_false.1 hps p (List.mem_of_getElem? hp))
  unfold Layout.isFloat Layout.paramAt?
  split
  · exact hmem h
  · exact hmem (repeated_plain kind)

/-- Commands that take doubles have all the parameters of their layout. -/
theorem length_of_takesFloat {kind : CommandKind} {args : List Value} {line : Value}
    (h : takesFloat kind) (hwf : wellFormed { kind, args, line }) :
    args.length = (Layout.of kind).head.length := by
  have hrepeated : (Layout.of kind).repeated.isEmpty := by
    revert h
    cases kind <;> decide
  simpa [wellFormed, hrepeated] using (Bool.and_eq_true_iff.1 hwf).2

section
variable {args args' : List Value} (h : args.map Value.unlined = args'.map Value.unlined)
include h

theorem length_of_map {n : Nat} (hlength : args.length = n) : args'.length = n := by
  rw [← List.length_map (f := Value.unlined), ← h, List.length_map, hlength]

theorem one_of_map (hlength : args.length = 1) :
    ∃ a a', args = [a] ∧ args' = [a'] ∧ a.unlined = a'.unlined := by
  obtain ⟨a, rfl⟩ := List.length_eq_one_iff.1 hlength
  obtain ⟨a', rfl⟩ := List.length_eq_one_iff.1 (length_of_map h hlength)
  exact ⟨a, a', rfl, rfl, by simpa using h⟩

theorem two_of_map (hlength : args.length = 2) :
    ∃ a b a' b', args = [a, b] ∧ args' = [a', b'] ∧ a.unlined = a'.unlined ∧
      b.unlined = b'.unlined := by
  obtain ⟨a, b, rfl⟩ := List.length_eq_two.1 hlength
  obtain ⟨a', b', rfl⟩ := List.length_eq_two.1 (length_of_map h hlength)
  exact ⟨a, b, a', b', rfl, rfl, by simpa using h⟩

theorem three_of_map (hlength : args.length = 3) :
    ∃ a b c a' b' c', args = [a, b, c] ∧ args' = [a', b', c'] ∧ a.unlined = a'.unlined ∧
      b.unlined = b'.unlined ∧ c.unlined = c'.unlined := by
  obtain ⟨a, b, c, rfl⟩ := List.length_eq_three.1 hlength
  obtain ⟨a', b', c', rfl⟩ := List.length_eq_three.1 (length_of_map h hlength)
  exact ⟨a, b, c, a', b', c', rfl, rfl, by simpa using h⟩

theorem four_of_map (hlength : args.length = 4) :
    ∃ a b c d a' b' c' d', args = [a, b, c, d] ∧ args' = [a', b', c', d'] ∧
      a.unlined = a'.unlined ∧ b.unlined = b'.unlined ∧ c.unlined = c'.unlined ∧
      d.unlined = d'.unlined := by
  obtain ⟨a, rest, rfl⟩ := List.exists_cons_of_length_eq_add_one hlength
  cases args' with
  | nil => cases h
  | cons a' rest' =>
    obtain ⟨ha, hrest⟩ := List.cons.inj h
    obtain ⟨b, c, d, b', c', d', rfl, rfl, hbcd⟩ :=
      three_of_map hrest (Nat.succ.inj hlength)
    exact ⟨a, b, c, d, a', b', c', d', rfl, rfl, ha, hbcd⟩

end

/-- A command that takes no double has the same parameters in every line. -/
theorem args_eq_of_relined {c d : Script.Command} (h : c.Relined d)
    (hfloat : takesFloat c.kind = false) : c.args = d.args :=
  List.ext_getElem? fun i => h.plain i (isFloat_of_takesFloat hfloat i)

/-- The parameters of a command that takes doubles. -/
theorem perform_floats {kind : CommandKind} {args args' : List Value} {line line' : Value}
    (hfloat : takesFloat kind) (hlength : args.length = (Layout.of kind).head.length)
    (h : Script.Command.Relined { kind, args, line } { kind, args := args', line := line' }) :
    Concur (perform { kind, args, line }) (perform { kind, args := args', line := line' }) := by
  obtain ⟨-, hargs, hplain⟩ := h
  cases kind with
  | alignSprite =>
    obtain ⟨name, place, duration, name', place', duration', rfl, rfl, -, -, hduration⟩ :=
      three_of_map hargs hlength
    obtain rfl : name = name' := by simpa using hplain 0 rfl
    obtain rfl : place = place' := by simpa using hplain 1 rfl
    simp only [perform]
    exact alignSprite_relined hduration
  | moveSprite =>
    obtain ⟨name, dx, dy, duration, name', dx', dy', duration', rfl, rfl, -, hdx, hdy, hduration⟩ :=
      four_of_map hargs hlength
    obtain rfl : name = name' := by simpa using hplain 0 rfl
    simp only [perform]
    exact moveSprite_relined hdx hdy hduration
  | setSpritePosition =>
    obtain ⟨name, x, y, name', x', y', rfl, rfl, -, hx, hy⟩ := three_of_map hargs hlength
    obtain rfl : name = name' := by simpa using hplain 0 rfl
    simp only [perform]
    exact placeSprite_relined hx hy
  | flipSprite =>
    obtain ⟨name, duration, horizontal, name', duration', horizontal', rfl, rfl, -, hduration, -⟩ :=
      three_of_map hargs hlength
    obtain rfl : name = name' := by simpa using hplain 0 rfl
    obtain rfl : horizontal = horizontal' := by simpa using hplain 2 rfl
    simp only [perform]
    exact flipSprite_relined hduration
  | scaleSprite =>
    obtain ⟨name, scale, duration, name', scale', duration', rfl, rfl, -, hscale, hduration⟩ :=
      three_of_map hargs hlength
    obtain rfl : name = name' := by simpa using hplain 0 rfl
    simp only [perform]
    exact scaleSprite_relined hscale hduration
  | moveBackground =>
    obtain ⟨dx, dy, duration, parallax, dx', dy', duration', parallax', rfl, rfl, hdx, hdy,
      hduration, hparallax⟩ := four_of_map hargs hlength
    simp only [perform]
    exact moveBackground_relined hdx hdy hduration hparallax
  | scaleBackground =>
    obtain ⟨scale, duration, scale', duration', rfl, rfl, hscale, hduration⟩ :=
      two_of_map hargs hlength
    simp only [perform]
    exact scaleBackground_relined hscale hduration
  | fadeIn =>
    obtain ⟨duration, duration', rfl, rfl, hduration⟩ := one_of_map hargs hlength
    simp only [perform]
    exact fade_relined hduration
  | fadeOut =>
    obtain ⟨duration, duration', rfl, rfl, hduration⟩ := one_of_map hargs hlength
    simp only [perform]
    exact fade_relined hduration
  | setSpeechbox =>
    obtain ⟨filename, duration, filename', duration', rfl, rfl, -, hduration⟩ :=
      two_of_map hargs hlength
    obtain rfl : filename = filename' := by simpa using hplain 0 rfl
    simp only [perform]
    exact setSpeechbox_relined hduration
  | setSpeechFontSize =>
    obtain ⟨size, size', rfl, rfl, hsize⟩ := one_of_map hargs hlength
    simp only [perform]
    exact setFont_relined hsize
  | setSpeakerFontSize =>
    obtain ⟨size, size', rfl, rfl, hsize⟩ := one_of_map hargs hlength
    simp only [perform]
    exact setFont_relined hsize
  | setCinematicText =>
    obtain ⟨seconds, allowed, seconds', allowed', rfl, rfl, hseconds, -⟩ := two_of_map hargs hlength
    obtain rfl : allowed = allowed' := by simpa using hplain 1 rfl
    simp only [perform]
    exact setCinematicText_relined hseconds
  | modifyChoiceboxOffset =>
    obtain ⟨dx, dy, dx', dy', rfl, rfl, hdx, hdy⟩ := two_of_map hargs hlength
    simp only [perform]
    exact moveChoicebox_relined hdx hdy
  | _ => exact absurd hfloat (by decide)

/-- Only a switch of scripts looks at its line. -/
theorem perform_line {kind : CommandKind} (args : List Value) (hkind : kind ≠ .switchScript)
    (line line' : Value) :
    perform { kind, args, line } = perform { kind, args, line := line' } := by
  unfold perform
  dsimp only
  split
  all_goals first | rfl | exact absurd rfl hkind

/-- A command in another line does the same. Only the error that there is no library names it. -/
theorem perform_relined {cmd cmd' : Script.Command} (hwf : wellFormed cmd) (h : cmd.Relined cmd') :
    Concur (perform cmd) (perform cmd') := by
  obtain ⟨kind, args, line⟩ := cmd
  obtain ⟨kind', args', line'⟩ := cmd'
  obtain rfl : kind = kind' := h.kind
  cases hfloat : takesFloat kind with
  | true => exact perform_floats hfloat (length_of_takesFloat hfloat hwf) h
  | false =>
    obtain rfl : args = args' := args_eq_of_relined h hfloat
    by_cases hkind : kind = .switchScript
    · subst hkind
      have hlength : args.length = 2 := by simpa [Layout.of] using (Bool.and_eq_true_iff.1 hwf).2
      obtain ⟨name, conversation, rfl⟩ := List.length_eq_two.1 hlength
      exact switchScript_relined
    · rw [perform_line args hkind line line']
      exact perform_self _

end

end Command

end VisualNovel
