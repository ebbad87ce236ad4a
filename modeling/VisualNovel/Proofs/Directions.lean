import VisualNovel.Proofs.Showings
import VisualNovel.Proofs.Soundness
import VisualNovel.Proofs.Tracks

/-!
# Commands tell what they do to a scene

A command that changes the scene of a session leaves an intent to the engine that says so: whoever
is sent the intent and changes a scene of its own, the way the session does, gets the same scene,
but for what no intent tells of (`Command.perform_tells`). A command that fails has changed nothing
of the scene.
-/

namespace VisualNovel

open Script

theorem Script.Param.isBool_of_admits {p : Param} {v : Value} (h : p.admits v)
    (htype : p.type = .bool) (hnil : p.nullable = false) : ∃ b, v = .bool b := by
  cases v with
  | bool b => exact ⟨b, rfl⟩
  | null => simp [Param.admits, hnil] at h
  | _ => simp [Param.admits, htype, ParamType.admits] at h

/-! ## Intents that say the same -/

/-- Intents that say the same, but for how long it takes. -/
structure Intent.Alike (i j : Intent) : Prop where
  kind : i.kind = j.kind
  get? : ∀ key, key ≠ "duration" → i.get? key = j.get? key

namespace Intent.Alike

variable {i j : Intent}

theorem get (h : i.Alike j) {key : String} (hkey : key ≠ "duration") : i.get key = j.get key := by
  rw [Intent.get, Intent.get, h.get? key hkey]

theorem required (h : i.Alike j) {key : String} (hkey : key ≠ "duration") :
    i.required key = j.required key := by
  rw [Intent.required, Intent.required, h.get? key hkey]

theorem parts (h : i.Alike j) (hwhole : j.Whole) : ∀ key ∈ i.kind.parts, (i.get? key).isSome := by
  intro key hkey
  have hdistinct : key ≠ "duration" := by
    rintro rfl
    revert hkey
    generalize i.kind = kind
    cases kind <;> decide
  rw [h.get? key hdistinct]
  exact hwhole.parts key (h.kind ▸ hkey)

theorem whole (h : i.Alike j) (hwhole : j.Whole) (hblocking : i.blocking → j.blocking) :
    i.Whole := by
  refine ⟨h.parts hwhole, fun hname => ?_⟩
  rw [h.get? "name" (by decide)]
  exact hwhole.name (hname.imp hblocking (h.kind ▸ ·))

end Intent.Alike

namespace Scene

variable {s : Scene} {i j : Intent}

theorem followed_congr (h : i.Alike j) : s.followed i = s.followed j := by
  unfold followed
  rw [h.kind]
  simp only [h.get (show "filename" ≠ "duration" by decide),
    h.get (show "name" ≠ "duration" by decide), h.get (show "x" ≠ "duration" by decide),
    h.get (show "y" ≠ "duration" by decide), h.get? "horizontal" (by decide),
    h.get (show "scale" ≠ "duration" by decide), h.required (show "dx" ≠ "duration" by decide),
    h.required (show "dy" ≠ "duration" by decide),
    h.required (show "parallax" ≠ "duration" by decide),
    h.get (show "direction" ≠ "duration" by decide), h.get (show "speaker" ≠ "duration" by decide),
    h.get (show "text" ≠ "duration" by decide), h.get (show "visible" ≠ "duration" by decide)]

theorem told_congr (h : i.Alike j) : s.told i = s.told j := by
  unfold told
  rw [h.kind, followed_congr h]
  simp only [h.get (show "filename" ≠ "duration" by decide),
    h.get (show "name" ≠ "duration" by decide), h.get (show "x" ≠ "duration" by decide),
    h.get (show "y" ≠ "duration" by decide)]

end Scene

/-- A change of the value of a key is known by what it makes of that value. -/
theorem Table.modify_congr {κ α : Type} [BEq κ] [EquivBEq κ] {t : Table κ α} {key : κ} {v : α}
    {f g : α → α} (hdistinct : Table.Distinct t) (hv : Table.get? key t = some v) (h : f v = g v) :
    Table.modify key f t = Table.modify key g t := by
  induction t with
  | nil => rfl
  | cons e rest ih =>
    obtain ⟨hhead, htail⟩ := Table.distinct_cons.1 hdistinct
    by_cases hk : e.1 == key
    · -- No other entry has the key.
      have hrest : Table.get? key rest = none := by
        refine Table.get?_eq_none fun b hb => ?_
        rw [BEq.comm, ← BEq.congr_left hk]
        exact hhead b hb
      have hfirst : e.2 = v := by simpa [Table.get?, hk] using hv
      show Table.modify key f (e :: rest) = Table.modify key g (e :: rest)
      simp only [Table.modify, List.map_cons, hk, if_true, hfirst, h]
      exact congrArg _ ((Table.modify_of_get?_none hrest).trans
        (Table.modify_of_get?_none hrest).symm)
    · have hrest : Table.get? key rest = some v := by simpa [Table.get?, hk] using hv
      simp only [Table.modify, List.map_cons, hk, Bool.false_eq_true, if_false]
      exact congrArg _ (ih htail hrest)

/-! ## Names of sprites -/

namespace Scene

theorem changeSprite_distinct {s : Scene} (h : Table.Distinct s.sprites) (name : Value)
    (f : Sprite → Sprite) : Table.Distinct (s.changeSprite name f).sprites :=
  h.modify name f

theorem dragStep_distinct {value : Scene → Option Value} {distance : Except Mishap Value}
    {put : Value → Scene → Scene}
    (hput : ∀ v s, Table.Distinct s.sprites → Table.Distinct (put v s).sprites) {s : Scene}
    (h : Table.Distinct s.sprites) : Ends (dragStep value distance put) s
      (fun _ s' => Table.Distinct s'.sprites) fun _ s' => Table.Distinct s'.sprites := by
  refine Ends.bind_iff.2 (Ends.get_iff.2 ?_)
  split
  · exact h
  · split
    · exact hput _ s h
    · exact h

theorem drag_distinct (dx dy parallax : Except Mishap Value) {s : Scene}
    (h : Table.Distinct s.sprites) : Ends (drag dx dy parallax) s
      (fun _ s' => Table.Distinct s'.sprites) fun _ s' => Table.Distinct s'.sprites := by
  refine Ends.bind_iff.2 (Ends.mono (dragStep_distinct ?_ h) (fun _ s h => ?_) fun _ _ h => h)
  · exact fun _ _ h => h
  refine Ends.bind_iff.2 (Ends.mono (dragStep_distinct ?_ h) (fun _ s h => ?_) fun _ _ h => h)
  · exact fun _ _ h => h
  refine Ends.bind_iff.2 (Ends.get_iff.2 ?_)
  generalize Table.keys s.sprites = names
  induction names generalizing s with
  | nil => exact h
  | cons name names ih =>
    rw [List.forM, Ends.bind_iff, Ends.bind_iff]
    refine Ends.mono (dragStep_distinct ?_ h) (fun _ s h => ?_) fun _ _ h => h
    · exact fun _ _ h => changeSprite_distinct h _ _
    refine Ends.mono (dragStep_distinct ?_ h) (fun _ s h => ?_) fun _ _ h => h
    · exact fun _ _ h => changeSprite_distinct h _ _
    exact ih s h

/-- No intent gives two sprites one name. -/
theorem told_distinct {s : Scene} (h : Table.Distinct s.sprites) (i : Intent) :
    Table.Distinct (s.told i).sprites := by
  have hfollowed : Table.Distinct (s.followed i).sprites := by
    unfold followed
    cases i.kind with
    | showSprite => exact h.put _ _
    | removeSprite => exact h.erase _
    | moveSprite | placeSprite | flipSprite | scaleSprite => exact changeSprite_distinct h _ _
    | moveBackground =>
      have hends := Ends.iff_attempted.1
        (drag_distinct (i.required "dx") (i.required "dy") (i.required "parallax") h)
      dsimp only
      rcases hrun : (drag (i.required "dx") (i.required "dy")
        (i.required "parallax")).perform s with
        ⟨m | a, t⟩
      · exact hends.2 m t hrun
      · exact hends.1 a t hrun
    | _ => exact h
  unfold told
  split
  · exact h.put _ _
  · exact hfollowed

theorem distinct_of_seen {s s' : Scene} (hseen : s'.seen true = s.seen true)
    (h : Table.Distinct s.sprites) : Table.Distinct s'.sprites := by
  rw [← sprites_seen, hseen, sprites_seen]
  exact h

end Scene

/-! ## What outcomes tell -/

/-- The outcome tells what has become of a scene: it holds an intent by which one would get the
second scene from the first, or the two look alike. -/
def Outcome.Tells (s s' : Scene) : Outcome → Prop
  | proceed (i :: rest) => i.Whole ∧ s'.seen true = (s.told i).seen true ∧
      ∀ j ∈ rest, j.effectId = none ∧ j.kind.scenic = false
  | hold kind payload => (∀ id, Intent.Whole { kind, payload, effectId := some id }) ∧
      s'.seen true = (s.told { kind, payload }).seen true
  | _ => s'.seen true = s.seen true

/-- The scene is the same. -/
def SameScene (s s' : Stage) : Prop :=
  s'.session.scene = s.session.scene

instance : IsPreorder Stage SameScene where
  refl _ := rfl
  trans _ _ _ h h' := h'.trans h

/-- The action leaves an outcome that tells of what it does to the scene; if it fails, it does
nothing to it. -/
def Directs (act : Action Stage Outcome) (s : Stage) : Prop :=
  Ends act s (fun o s' => o.Tells s.session.scene s'.session.scene) fun _ s' => SameScene s s'

namespace Directs

variable {α : Type} {s : Stage} {x : Action Stage α} {k : α → Action Stage Outcome}

theorem of_sameScene {s' : Stage} (h : SameScene s s') {act : Action Stage Outcome}
    (hact : Directs act s') : Ends act s'
      (fun o s'' => o.Tells s.session.scene s''.session.scene) fun _ s'' => SameScene s s'' := by
  refine hact.mono (fun o s₂ h₂ => ?_) fun _ _ h₂ => trans_of SameScene h h₂
  rwa [h] at h₂

/-- What comes first may be a look at the stage, or a change of all but the scene. -/
protected theorem bind (hx : Tracks SameScene x) (hk : ∀ a s', SameScene s s' → Directs (k a) s') :
    Directs (x >>= k) s := by
  refine Ends.bind_iff.2 ((Tracks.iff_ends.1 hx s).mono (fun a s₁ h₁ => ?_) fun _ _ h => h)
  exact (hk a s₁ h₁).of_sameScene h₁

protected theorem throw {f : Fault} : Directs (throw f) s :=
  rfl

theorem next : Directs (pure .next) s :=
  rfl

theorem stay : Directs (pure .stay) s :=
  rfl

theorem send {kind : IntentKind} {payload : Table String Value} (h : kind.scenic = false) :
    Directs (pure (.send kind payload)) s := by
  refine ⟨.of_not_scenic h rfl, ?_, by simp⟩
  rw [Scene.told_of_not_scenic h]

end Directs

namespace Command

open Script.Param

variable {s : Stage} {kind : IntentKind} {payload : Table String Value} {duration : Value}

/-! ## Looks at the stage -/

theorem get_sameScene : Tracks SameScene (get : Action Stage Stage) :=
  fun _ => rfl

theorem flagOf_sameScene {v : Value} : Tracks SameScene (flagOf v) :=
  .ofMishap

theorem keyOf_sameScene {v : Value} : Tracks SameScene (keyOf v) :=
  .ofMishap

theorem viewSetting_sameScene {key : String} : Tracks SameScene (viewSetting key) :=
  get_sameScene.bind fun _ => .ofMishap

theorem note_sameScene {level : Level} {text : String} :
    Tracks SameScene (modify (Stage.note level text)) :=
  .modify fun _ => rfl

theorem canBeKey_of_asKey {v key : Value} (h : v.asKey = .ok key) : v.canBeKey ∧ key = v := by
  unfold Value.asKey at h
  split at h
  · next hv => exact ⟨hv, (Except.ok.inj h).symm⟩
  · cases h

/-- A command passes over a sprite that is not there. -/
theorem sprite?_bind {kind : CommandKind} {name : Value} {k : Sprite → Action Stage Outcome}
    (hk : name.canBeKey → ∀ p s', SameScene s s' →
      Table.get? name s'.session.scene.sprites = some p → Directs (k p) s') :
    Directs (do
      match ← sprite? kind name with
      | none => return .next
      | some p => k p) s := by
  have hfound : Ends (sprite? kind name) s
      (fun found s' => SameScene s s' ∧ name.canBeKey ∧
        Table.get? name s.session.scene.sprites = found) fun _ s' => SameScene s s' := by
    refine Ends.bind_iff.2 (Ends.ofMishap_iff.2 ⟨fun key hkey => ?_, fun _ _ => rfl⟩)
    obtain ⟨hname, rfl⟩ := canBeKey_of_asKey hkey
    simp only [Ends.bind_iff, Ends.get_iff]
    split
    · exact Ends.bind_iff.2 ⟨rfl, hname, rfl⟩
    · exact ⟨rfl, hname, rfl⟩
  refine Ends.bind_iff.2 (hfound.mono ?_ fun _ _ h => h)
  rintro found s₁ ⟨h₁, hname, hget⟩
  cases found with
  | none => exact Directs.next.of_sameScene h₁
  | some p => exact (hk hname p s₁ h₁ (by rw [h₁]; exact hget)).of_sameScene h₁

/-! ## Effects -/

theorem alike_append {id id' : Option Value} :
    Intent.Alike { kind, payload := payload ++ [("duration", duration)], effectId := id }
      { kind, payload, effectId := id' } := by
  refine ⟨rfl, fun key hkey => ?_⟩
  show Table.get? key (payload ++ [("duration", duration)]) = Table.get? key payload
  induction payload with
  | nil => simp [Table.get?, Ne.symm hkey]
  | cons e rest ih =>
    show Table.get? key (e :: (rest ++ [("duration", duration)])) = _
    rw [Table.get?, Table.get?, ih]

theorem alike_cons {id id' : Option Value} :
    Intent.Alike { kind, payload := ("duration", duration) :: payload, effectId := id }
      { kind, payload, effectId := id' } :=
  ⟨rfl, fun key hkey => by simp [Intent.get?, Table.get?, Ne.symm hkey]⟩

/-- An effect tells of its change, whether it lasts or not. -/
theorem runEffect_directs {change : Action Stage Unit} {f : Scene → Scene}
    (hwhole : ∀ id, Intent.Whole { kind, payload, effectId := some id })
    (htold : s.session.scene.told { kind, payload } = f s.session.scene)
    (hchange : ∀ s', SameScene s s' → Ends change s'
      (fun _ s'' => s''.session.scene = f s'.session.scene) fun _ s'' => SameScene s' s'') :
    Directs (runEffect kind duration payload change) s := by
  refine Ends.bind_iff.2 (Ends.ofMishap_iff.2 ⟨fun lasts _ => ?_, fun _ _ => rfl⟩)
  cases lasts with
  | true =>
    refine Ends.bind_iff.2 (Ends.modify_iff.2 (Ends.bind_iff.2
      (Ends.mono (hchange (s.mapSession Session.capture) rfl) ?_ fun _ _ h => h)))
    intro _ s' h'
    refine ⟨fun id => ?_, ?_⟩
    · exact alike_append.whole (hwhole id) fun h => h
    · rw [h', Scene.told_congr alike_append, htold]
      rfl
  | false =>
    refine Ends.bind_iff.2 ((hchange s rfl).mono (fun _ s' h' => ?_) fun _ _ h => h)
    have hfirst : Intent.Whole { kind, payload := ("duration", .float 0.0) :: payload } :=
      alike_cons.whole (hwhole .null) fun _ => rfl
    have hscene : s'.session.scene.seen true = (s.session.scene.told
        { kind, payload := ("duration", .float 0.0) :: payload }).seen true := by
      rw [h', Scene.told_congr alike_cons, htold]
    show Outcome.Tells _ _ (.proceed (instantIntents kind payload))
    unfold instantIntents
    split
    · exact ⟨hfirst, hscene, by simp [IntentKind.scenic]⟩
    · exact ⟨hfirst, hscene, by simp⟩

/-- An effect on a sprite. -/
theorem spriteEffect_directs {name : Value} {f : Sprite → Sprite} (hname : name.canBeKey)
    (hparts : ∀ key ∈ kind.parts, (Table.get? key payload).isSome)
    (hnamed : Table.get? "name" payload = some name)
    (htold : s.session.scene.told { kind, payload } = s.session.scene.changeSprite name f) :
    Directs (runEffect kind duration payload (changeSprite name f)) s := by
  refine runEffect_directs (fun id => ⟨hparts, fun _ => ?_⟩) htold fun s' _ => rfl
  simpa [Intent.get?, hnamed] using hname

/-! ## Sprites -/

theorem pictureOf_ends {name : Value} : Ends (pictureOf name) s
    (fun _ s' => s' = s ∧ name.canBeKey) fun _ s' => s' = s := by
  refine Ends.bind_iff.2 (Ends.get_iff.2 (Ends.bind_iff.2 (Ends.ofMishap_iff.2 ⟨fun fs _ => ?_,
    fun _ _ => rfl⟩)))
  exact Ends.bind_iff.2 (Ends.ofMishap_iff.2 ⟨fun key hkey => ⟨rfl, (canBeKey_of_asKey hkey).1⟩,
    fun _ _ => rfl⟩)

theorem addSprite_directs (name atOnce : Value) : Directs (addSprite name atOnce) s := by
  refine Ends.bind_iff.2 (pictureOf_ends.mono ?_ fun _ _ h => by rw [h]; rfl)
  rintro filename s ⟨rfl, hname⟩
  have hwhole : ∀ x y, Intent.Whole { kind := .showSprite, payload := [("name", name),
      ("filename", filename), ("x", x), ("y", y), ("at_once", atOnce)] } := fun x y =>
    ⟨by simp [IntentKind.parts, Intent.get?, Table.get?],
      fun _ => by simpa [Intent.get?, Table.get?] using hname⟩
  refine Ends.bind_iff.2 (Ends.get_iff.2 ?_)
  split
  · next sprite hfound =>
    exact ⟨hwhole _ _, Eq.symm (congrArg (Scene.seen true) (Scene.told_of_present rfl hfound)),
      by simp⟩
  · next hfound =>
    have hput : ∀ (x y : Value) (s' : Stage), SameScene s s' → Directs (do
        modify (Stage.mapScene fun s =>
          { s with sprites := Table.put name { filename, x, y } s.sprites })
        return .send .showSprite [("name", name), ("filename", filename), ("x", x), ("y", y),
          ("at_once", atOnce)]) s' := by
      intro x y s' h'
      have hfound' : Table.get? name s'.session.scene.sprites = none := by
        rw [h']
        exact hfound
      exact ⟨hwhole x y, Eq.symm (congrArg (Scene.seen true) (Scene.told_of_absent hfound')),
        by simp⟩
    refine Directs.bind viewSetting_sameScene fun width s₁ h₁ => ?_
    refine .bind .ofMishap fun x s₂ h₂ => .bind viewSetting_sameScene fun height s₃ h₃ => ?_
    refine .bind viewSetting_sameScene fun spriteY s₄ h₄ => .bind .ofMishap fun y s₅ h₅ => ?_
    exact hput x y s₅ (h₅.trans (h₄.trans (h₃.trans (h₂.trans h₁))))

theorem takeOut_ends {α : Type} {t : Table Value α} {name : Value} :
    Ends (takeOut name t) s (fun r s' => s' = s ∧
      ∀ v, r.1 = some v → name.canBeKey ∧ r.2 = Table.erase name t) fun _ s' => s' = s := by
  unfold takeOut
  split
  · exact ⟨rfl, nofun⟩
  · refine Ends.bind_iff.2 (Ends.ofMishap_iff.2 ⟨fun key hkey => ?_, fun _ _ => rfl⟩)
    obtain ⟨hname, rfl⟩ := canBeKey_of_asKey hkey
    exact ⟨rfl, fun _ _ => ⟨hname, rfl⟩⟩

theorem removeSprite_directs (name atOnce : Value) : Directs (removeSprite name atOnce) s := by
  refine Ends.bind_iff.2 (Ends.get_iff.2 (Ends.bind_iff.2 (takeOut_ends.mono ?_ ?_)))
  · rintro ⟨found, rest⟩ _ ⟨rfl, htaken⟩
    cases found with
    | none => exact Directs.bind note_sameScene fun _ _ _ => .next
    | some p =>
      obtain ⟨hname, rfl⟩ := htaken p rfl
      refine Ends.bind_iff.2 ⟨⟨by simp [IntentKind.parts, Intent.get?, Table.get?], fun _ => ?_⟩,
        rfl, by simp⟩
      simpa [Intent.get?, Table.get?] using hname
  · rintro _ _ rfl
    rfl

/-- With the place of a sprite that stays as it is, one may as well say where it is. -/
theorem alignSprite_directs (hdistinct : Table.Distinct s.session.scene.sprites)
    (name place : Value) : Directs (alignSprite name place duration) s := by
  refine sprite?_bind fun hname sprite s' h' hfound => ?_
  have hmove : ∀ (part : Float) (s'' : Stage), SameScene s' s'' → Directs (do
      let x ← Action.ofMishap ((← viewSetting "width").mul (.float part))
      runEffect .moveSprite duration [("name", name), ("x", x), ("y", sprite.y)]
        (changeSprite name fun s => { s with x })) s'' := by
    intro part s'' h''
    refine .bind viewSetting_sameScene fun _ s₁ h₁ => .bind .ofMishap fun x s₂ h₂ => ?_
    refine spriteEffect_directs hname (by simp [IntentKind.parts, Table.get?]) rfl ?_
    have hscene : s₂.session.scene = s'.session.scene := h₂.trans (h₁.trans h'')
    rw [hscene]
    refine congrArg (fun sprites => { s'.session.scene with sprites }) ?_
    refine Table.modify_congr (by rw [h']; exact hdistinct) hfound rfl
  split
  · exact hmove _ s' rfl
  · exact .bind note_sameScene fun _ s'' h'' => hmove _ s'' h''

theorem moveSprite_directs (name dx dy : Value) : Directs (moveSprite name dx dy duration) s := by
  refine sprite?_bind fun hname _ _ _ _ => ?_
  refine .bind .ofMishap fun _ _ _ => .bind .ofMishap fun _ _ _ => ?_
  exact spriteEffect_directs hname (by simp [IntentKind.parts, Table.get?]) rfl rfl

theorem placeSprite_directs (name x y : Value) : Directs (placeSprite name x y) s := by
  refine sprite?_bind fun hname _ s' _ _ => ?_
  refine Ends.bind_iff.2 ⟨⟨by simp [IntentKind.parts, Intent.get?, Table.get?], fun _ => ?_⟩, rfl,
    by simp⟩
  simpa [Intent.get?, Table.get?] using hname

theorem flipSprite_directs (name horizontal : Value) :
    Directs (flipSprite name duration horizontal) s :=
  sprite?_bind fun hname _ _ _ _ =>
    spriteEffect_directs hname (by simp [IntentKind.parts, Table.get?]) rfl rfl

theorem scaleSprite_directs (name scale : Value) :
    Directs (scaleSprite name scale duration) s :=
  sprite?_bind fun hname _ _ _ _ =>
    spriteEffect_directs hname (by simp [IntentKind.parts, Table.get?]) rfl rfl

/-! ## Background, fades and sound -/

theorem moveBackground_directs (h : s.session.scene.Sane) {dx dy parallax : Value} (hdx : dx.IsReal)
    (hdy : dy.IsReal) (hparallax : parallax.IsReal) :
    Directs (moveBackground dx dy duration parallax) s := by
  refine runEffect_directs (f := fun t =>
      ((Scene.drag (.ok dx) (.ok dy) (.ok parallax)).perform t).2)
    (fun _ => ⟨by simp [IntentKind.parts], fun _ => rfl⟩) rfl fun s' h' => Ends.attempt_iff.2 ?_
  have hsane := Scene.drag_sane (h' ▸ h : s'.session.scene.Sane) hdx hdy hparallax
  refine Ends.iff_attempted.2 ⟨fun _ t hrun => ?_, fun m t hrun => ?_⟩
  · show t = _
    rw [show (Scene.drag (.ok dx) (.ok dy) (.ok parallax)).perform s'.session.scene = _ from hrun]
  · exact ((Ends.iff_attempted.1 hsane).2 m t hrun).elim

/-- An effect on the scene as a whole. -/
theorem sceneEffect_directs {f : Scene → Scene}
    (hwhole : ∀ id, Intent.Whole { kind, payload, effectId := some id })
    (htold : s.session.scene.told { kind, payload } = f s.session.scene) :
    Directs (runEffect kind duration payload (modify (Stage.mapScene f))) s :=
  runEffect_directs hwhole htold fun _ _ => rfl

theorem scaleBackground_directs (scale : Value) : Directs (scaleBackground scale duration) s :=
  sceneEffect_directs (fun _ =>
    ⟨by simp [IntentKind.parts, Intent.get?, Table.get?], fun _ => rfl⟩) rfl

theorem fade_directs (out : Bool) : Directs (fade out duration) s := by
  refine sceneEffect_directs (fun _ => ⟨by simp [IntentKind.parts], fun _ => rfl⟩) ?_
  cases out <;> rfl

theorem setBackground_directs (filename : Value) : Directs (setBackground filename) s :=
  ⟨⟨by simp [IntentKind.parts], by simp [IntentKind.parts, Intent.blocking]⟩, rfl, by simp⟩

theorem playMusic_directs (filename loop : Value) : Directs (playMusic filename loop) s := by
  refine Ends.bind_iff.2 (Ends.modify_iff.2 ?_)
  -- No intent tells of music.
  split
  · exact ⟨.of_not_scenic rfl rfl, rfl, by simp⟩
  · exact ⟨.of_not_scenic rfl rfl, rfl, by simp⟩

theorem showSpeech_directs {visible : Value} (h : ∃ b, visible = .bool b) :
    Directs (showSpeech visible) s := by
  obtain ⟨b, rfl⟩ := h
  exact ⟨⟨by simp [IntentKind.parts], by simp [IntentKind.parts, Intent.blocking]⟩, rfl, by simp⟩

theorem setSpeechbox_directs (filename : Value) : Directs (setSpeechbox filename duration) s :=
  ⟨⟨by simp [IntentKind.parts], by simp [IntentKind.parts, Intent.blocking]⟩, rfl, by simp⟩

/-! ## Flow, text and menus -/

theorem retime_sameScene {act : Attempt TimedText Unit} : Tracks SameScene (Stage.retime act) :=
  .attempt fun _ _ => rfl

theorem switchConversation_sameScene {name : Value} :
    Tracks SameScene (Stage.switchConversation name) :=
  get_sameScene.bind fun _ => .bind .ofExcept fun _ => .bind .ofStory fun _ => .modify fun _ => rfl

theorem fetchScript_sameScene {missing : StoryError} {name : Value} :
    Tracks SameScene (Stage.fetchScript missing name) := by
  refine .get_bind fun s => ?_
  split
  · exact refl_of SameScene s
  · rfl

theorem jumpOnFlag_directs (flag : String) (groups : List (List Value)) :
    Directs (jumpOnFlag flag groups) s := by
  fun_induction jumpOnFlag flag groups generalizing s with
  | case1 => exact .next
  | case2 expected conversation rest ih =>
    refine .bind get_sameScene fun _ s' _ => ?_
    split
    · exact .bind switchConversation_sameScene fun _ _ _ => .stay
    · exact ih
  | case3 => exact .throw

theorem askFor_directs {option : List Value → Action Stage ChoiceOption}
    (hoption : ∀ group, Tracks SameScene (option group)) (line : Value)
    (groups : List (List Value)) : Directs (askFor option line groups) s := by
  have hoptions : Tracks SameScene (groups.mapM option) := by
    induction groups with
    | nil => exact .pure
    | cons group groups ih =>
      rw [List.mapM_cons]
      exact (hoption group).bind fun _ => ih.bind fun _ => .pure
  exact .bind hoptions fun _ _ _ => rfl

theorem jumpOption_sameScene (group : List Value) : Tracks SameScene (jumpOption group) := by
  unfold jumpOption
  split
  · exact .pure
  · exact fun _ => rfl

theorem adjustOption_sameScene (group : List Value) : Tracks SameScene (adjustOption group) := by
  unfold adjustOption
  split
  · exact flagOf_sameScene.bind fun _ => .pure
  · exact fun _ => rfl

theorem takeOut_sameScene {α : Type} {key : Value} {t : Table Value α} :
    Tracks SameScene (takeOut key t) :=
  Tracks.iff_ends.2 fun _ => takeOut_ends.mono (fun _ _ h => h.1 ▸ rfl) fun _ _ h => h ▸ rfl

/-- No intent tells of the pictures that names stand for. -/
theorem setSpriteAlias_directs (name filename : Value) :
    Directs (setSpriteAlias name filename) s := by
  refine .bind get_sameScene fun s₁ s' _ => ?_
  have hwithout : Tracks SameScene (withoutAlias s₁.session.scene.spriteAliases name) := by
    unfold withoutAlias
    split
    · exact takeOut_sameScene.bind fun _ => .pure
    · exact fun _ => rfl
    · exact fun _ => rfl
  have hwith : ∀ filename, Tracks SameScene
      (withAlias s₁.session.scene.spriteAliases name filename) := by
    intro filename
    unfold withAlias
    split
    · exact keyOf_sameScene.bind fun _ => .pure
    · exact Tracks.bind .ofMishap fun _ => .pure
    · exact fun _ => rfl
  have hset : ∀ (aliases : Value) (s₂ : Stage), Directs (do
      modify (Stage.mapScene fun t => { t with spriteAliases := aliases })
      return .next) s₂ := fun _ _ => Ends.bind_iff.2 rfl
  split
  · exact .bind hwithout fun _ _ _ => hset _ _
  · exact .bind (hwith _) fun _ _ _ => hset _ _

theorem atLeastOne_sameScene {v : Value} : Tracks SameScene (atLeastOne v) :=
  .ofMishap

theorem rollDice_directs (sides count flag : Value) : Directs (rollDice sides count flag) s := by
  have hset : ∀ (sum : Value) (s' : Stage), Directs (do setFlag (← flagOf flag) sum) s' :=
    fun _ _ => .bind flagOf_sameScene fun _ _ _ => .bind .ofMishap fun _ _ _ =>
      .bind (.modify fun _ => rfl) fun _ _ _ => .next
  have hthrown : Tracks SameScene (do
      if ← atLeastOne sides then atLeastOne count else return false) := by
    refine atLeastOne_sameScene.bind fun some => ?_
    cases some with
    | true => exact atLeastOne_sameScene
    | false => exact .pure
  refine .bind hthrown fun thrown s₁ _ => ?_
  cases thrown with
  | true =>
    exact .bind .ofMishap fun _ _ _ => .bind (.attempt fun _ _ => rfl) fun sum s₂ _ => hset sum s₂
  | false => exact hset _ s₁

/-- A command tells what it does to the scene, and does nothing to it if it fails. -/
theorem perform_directs {cmd : Script.Command} (hfits : cmd.Fits) (h : s.Sane)
    (hdistinct : Table.Distinct s.session.scene.sprites) : Directs (perform cmd) s := by
  have hflag : ∀ {flag : String} {v : Value} {s' : Stage}, Directs (setFlag flag v) s' :=
    fun {_ _ _} => .bind .ofMishap fun _ _ _ => .bind (.modify fun _ => rfl) fun _ _ _ => .next
  have hcondition : ∀ {kind : CommandKind} {v : Value} {rest : List Value},
      Directs (do condition kind (← flagOf v) rest) s := fun {_ _ _} =>
    .bind flagOf_sameScene fun _ _ _ => .bind get_sameScene fun _ _ _ =>
      .bind .ofMishap fun _ _ _ => .bind (.modify fun _ => rfl) fun _ _ _ => .stay
  have hfont : ∀ {field : String} {v : Value}, Directs (setFont field v) s := fun {_ _} =>
    .bind (.modify fun _ => rfl) fun _ _ _ => .send rfl
  have hsets : ∀ {f : ChoiceSets → ChoiceSets} {s' : Stage}, Directs (do
      changeSets f
      return .next) s' := fun {_ _} => .bind (.modify fun _ => rfl) fun _ _ _ => .next
  cases cmd using shapes with
  | addSprite => exact addSprite_directs _ _
  | removeSprite => exact removeSprite_directs _ _
  | alignSprite => exact alignSprite_directs hdistinct _ _
  | moveSprite => exact moveSprite_directs _ _ _
  | setSpritePosition => exact placeSprite_directs _ _ _
  | flipSprite => exact flipSprite_directs _ _
  | scaleSprite => exact scaleSprite_directs _ _
  | setSpriteAlias => exact setSpriteAlias_directs _ _
  | setBackground => exact setBackground_directs _
  | moveBackground =>
    match hfits.given rfl with
    | .cons hdx (.cons hdy (.cons _ (.cons hparallax _))) =>
      exact moveBackground_directs h.scene (isReal_of_admits hdx rfl rfl)
        (isReal_of_admits hdy rfl rfl) (isReal_of_admits hparallax rfl rfl)
  | scaleBackground => exact scaleBackground_directs _
  | fadeIn => exact fade_directs false
  | fadeOut => exact fade_directs true
  | playSound => exact .send rfl
  | playMusic => exact playMusic_directs _ _
  | setSpeaker => exact Ends.bind_iff.2 rfl
  | showSpeech =>
    match hfits.given rfl with
    | .cons hvisible _ => exact showSpeech_directs (isBool_of_admits hvisible rfl rfl)
  | setSpeechbox => exact setSpeechbox_directs _
  | setSpeechFont | setSpeechFontSize | setSpeakerFont | setSpeakerFontSize => exact hfont
  | setCinematicText | setTypewriterText =>
    exact .bind .ofMishap fun _ _ _ => .bind .ofMishap fun _ _ _ =>
      .bind (.modify fun _ => rfl) fun _ _ _ => .bind retime_sameScene fun _ _ _ => .next
  | modifyChoiceboxOffset =>
    exact .bind get_sameScene fun _ _ _ => .bind .ofMishap fun _ _ _ =>
      .bind (.modify fun _ => rfl) fun _ _ _ => .bind get_sameScene fun _ _ _ =>
        .bind .ofMishap fun _ _ _ => .bind (.modify fun _ => rfl) fun _ _ _ => .send rfl
  | setConversation => exact .bind switchConversation_sameScene fun _ _ _ => .stay
  | switchScript =>
    exact .bind fetchScript_sameScene fun _ _ _ => .bind .ofExcept fun _ _ _ =>
      .bind .ofStory fun _ _ _ => .bind (.modify fun _ => rfl) fun _ _ _ =>
        .bind (.modify fun _ => rfl) fun _ _ _ => .bind note_sameScene fun _ _ _ => .stay
  | setFlag => exact .bind flagOf_sameScene fun _ _ _ => hflag
  | modifyFlag =>
    exact .bind flagOf_sameScene fun _ _ _ => .bind .ofMishap fun _ _ _ =>
      .bind (.modify fun _ => rfl) fun _ _ _ => .next
  | increaseFlagByFlag | decreaseFlagByFlag =>
    exact .bind flagOf_sameScene fun _ _ _ => .bind flagOf_sameScene fun _ _ _ =>
      .bind (.modify fun _ => rfl) fun _ _ _ => .next
  | rollDice => exact rollDice_directs _ _ _
  | isFlag | isFlagMoreThan | isFlagLessThan | isFlagBetween | isFlagMoreThanFlag
  | isFlagLessThanFlag | isFlagEqualToFlag => exact hcondition
  | jumpOnFlag => exact .bind flagOf_sameScene fun _ _ _ => jumpOnFlag_directs _ _
  | jumpOnChoice | showChoiceAndJump => exact askFor_directs jumpOption_sameScene _ _
  | modifyFlagByChoice | showChoiceAndModify => exact askFor_directs adjustOption_sameScene _ _
  | addToChoiceSet | removeFromChoiceSet => exact .bind keyOf_sameScene fun _ _ _ => hsets
  | wipeChoiceSet =>
    exact .bind get_sameScene fun _ _ _ => .bind takeOut_sameScene fun _ _ _ => hsets
  | showChoiceSet =>
    refine .bind keyOf_sameScene fun _ _ _ => .bind get_sameScene fun _ _ _ => ?_
    split
    · exact .bind note_sameScene fun _ _ _ => .next
    · rfl
  | systemCall => rfl
  | misfit => exact .throw

end Command

end VisualNovel
