import VisualNovel.Proofs.Reading

/-!
# The codec of snapshots

A snapshot is written as a record and read back from one. Two laws hold of the pair:

* a snapshot whose fields are of the kinds that they are meant for is read back as it was;
* whatever record a snapshot was read from, however little of it was right, writing that snapshot
  and reading it again changes nothing: reading leaves nothing to normalize.

The kinds are those of `Snapshot.Typed`. The order of flags, sprites and menus is part of a snapshot
and so of both laws.
-/

namespace VisualNovel

/-! ## Kinds of fields -/

namespace Value

/-- Nothing, or a text. -/
def IsTextOrNull (v : Value) : Prop :=
  v = null ∨ v.IsText

/-- True or false. -/
def IsTruth (v : Value) : Prop :=
  ∃ b, v = bool b

/-- A whole number, of which true and false are two. -/
def IsWhole (v : Value) : Prop :=
  v.IsTruth ∨ ∃ n, v = int n

/-- A number, whole or not. -/
def IsNumber (v : Value) : Prop :=
  v.IsWhole ∨ (∃ x, v = float x) ∨ ∃ origin, v = nan origin

/-- Nothing, or a number. -/
def IsNumberOrNull (v : Value) : Prop :=
  v = null ∨ v.IsNumber

/-- Names that stand for pictures, or for none. -/
def IsAliases (v : Value) : Prop :=
  ∃ fs, v = record fs ∧ ∀ e ∈ fs, e.1.IsText ∧ e.2.IsTextOrNull

variable {v : Value}

theorem IsText.plain (h : v.IsText) : v.plain := by
  obtain ⟨s, rfl⟩ := h
  simp

theorem IsTextOrNull.plain (h : v.IsTextOrNull) : v.plain := by
  rcases h with rfl | h
  · simp
  · exact h.plain

theorem IsTruth.plain (h : v.IsTruth) : v.plain := by
  obtain ⟨b, rfl⟩ := h
  simp

theorem IsWhole.plain (h : v.IsWhole) : v.plain := by
  rcases h with h | ⟨n, rfl⟩
  · exact h.plain
  · simp

theorem IsNumber.plain (h : v.IsNumber) : v.plain := by
  rcases h with h | ⟨x, rfl⟩ | ⟨origin, rfl⟩
  · exact h.plain
  · simp
  · simp [Value.plain]

theorem IsNumberOrNull.plain (h : v.IsNumberOrNull) : v.plain := by
  rcases h with rfl | h
  · simp
  · exact h.plain

theorem IsAliases.plain (h : v.IsAliases) : v.plain := by
  obtain ⟨fs, rfl, hfs⟩ := h
  exact plain_record_iff.2 fun e he => ⟨(hfs e he).1.plain, (hfs e he).2.plain⟩

end Value

/-! ## Typed snapshots -/

/-- The fields of a sprite are what they are meant to be. -/
structure Sprite.Typed (s : Sprite) : Prop where
  filename : s.filename.IsText
  x : s.x.IsNumber
  y : s.y.IsNumber
  scale : s.scale.IsNumber
  flippedX : s.flippedX.IsTruth
  flippedY : s.flippedY.IsTruth

/-- The fields of a scene are what they are meant to be, and no two sprites share a name. -/
structure Scene.Typed (s : Scene) : Prop where
  background : s.background.IsTextOrNull
  backgroundX : s.backgroundX.IsNumber
  backgroundY : s.backgroundY.IsNumber
  backgroundScale : s.backgroundScale.IsNumber
  sprites : ∀ e ∈ s.sprites, e.1.IsText ∧ e.2.Typed
  distinct : Table.Distinct s.sprites
  spriteAliases : s.spriteAliases.IsAliases
  music : s.music.IsTextOrNull
  musicLoop : s.musicLoop.IsTruth
  speaker : s.speaker.IsTextOrNull
  speech : s.speech.IsTextOrNull
  showSpeech : s.showSpeech.IsTruth
  speechbox : s.speechbox.IsTextOrNull
  fadedOut : s.fadedOut.IsTruth

/-- The settings are what they are meant to be. -/
structure Overrides.Typed (o : Overrides) : Prop where
  speechFont : o.speechFont.IsTextOrNull
  speechFontSize : o.speechFontSize.IsNumberOrNull
  speakerFont : o.speakerFont.IsTextOrNull
  speakerFontSize : o.speakerFontSize.IsNumberOrNull
  cinematicSeconds : o.cinematicSeconds.IsNumber
  cinematicInputAllowed : o.cinematicInputAllowed.IsTruth
  typewriterRate : o.typewriterRate.IsWhole
  typewriterCanSkip : o.typewriterCanSkip.IsTruth
  choiceboxOffsetX : o.choiceboxOffsetX.IsNumber
  choiceboxOffsetY : o.choiceboxOffsetY.IsNumber

/-- Every part of a snapshot is of the kind that it is meant for, and no table has a key twice. The
place, the values of flags and the version have no other kind. -/
structure Snapshot.Typed (t : Snapshot) : Prop where
  script : t.script.IsText
  flags : Table.Distinct t.flags.values
  overrides : t.overrides.Typed
  scene : t.scene.Typed
  choiceSets : ChoiceSets.Storable t.choiceSets

theorem Sprite.Typed.plain {s : Sprite} (h : s.Typed) : s.toValue.plain :=
  Sprite.plain_iff.2 ⟨h.filename.plain, h.x.plain, h.y.plain, h.scale.plain, h.flippedX.plain,
    h.flippedY.plain⟩

theorem Scene.Typed.storable {s : Scene} (h : s.Typed) : s.Storable where
  plain := by
    have hsprites : Scene.PlainSprites s.sprites := fun e he =>
      ⟨(h.sprites e he).1.plain, (h.sprites e he).2.plain⟩
    exact Scene.plain_iff.2 ⟨h.background.plain, h.backgroundX.plain, h.backgroundY.plain,
      h.backgroundScale.plain, hsprites, h.spriteAliases.plain, h.music.plain, h.musicLoop.plain,
      h.speaker.plain, h.speech.plain, h.showSpeech.plain, h.speechbox.plain, h.fadedOut.plain⟩
  names := fun e he => (h.sprites e he).1
  distinct := h.distinct

theorem Overrides.Typed.plain {o : Overrides} (h : o.Typed) : o.toValue.plain :=
  Overrides.plain_iff.2 ⟨h.speechFont.plain, h.speechFontSize.plain, h.speakerFont.plain,
    h.speakerFontSize.plain, h.cinematicSeconds.plain, h.cinematicInputAllowed.plain,
    h.typewriterRate.plain, h.typewriterCanSkip.plain, h.choiceboxOffsetX.plain,
    h.choiceboxOffsetY.plain⟩

namespace Snapshot

theorem Typed.storable {t : Snapshot} (h : t.Typed) : t.Storable :=
  ⟨h.flags, h.overrides.plain, h.scene.storable, h.choiceSets⟩

/-! ## Writing and reading -/

theorem savedName_of_text {t : Snapshot} (h : t.script.IsText) : t.savedName = t.script := by
  obtain ⟨s, hs⟩ := h
  rw [savedName, hs, Value.orElse]
  by_cases hempty : s = ""
  · subst hempty
    rfl
  · simp [Value.truthy, hempty, Value.shown]

/-- A snapshot that can be saved and whose script goes by a text is read back as it was. -/
theorem ofValue_written_of_text {t : Snapshot} (h : t.Storable) (hscript : t.script.IsText) :
    (t.toValue >>= ofValue) = .ok t := by
  rw [ofValue_written h, savedName_of_text hscript]

/-- **The codec of snapshots.** A typed snapshot is read back as it was written. And a snapshot that
was read from anything without references to flags, as everything in a file is, is read back as it
was read the first time. -/
theorem codec_normalizes :
    (∀ t : Snapshot, t.Typed → (t.toValue >>= ofValue) = .ok t) ∧
      ∀ (v : Value) (t : Snapshot), v.plain → ofValue v = .ok t →
        (t.toValue >>= ofValue) = .ok t := by
  constructor
  · intro t ht
    exact ofValue_written_of_text ht.storable ht.script
  · intro v t hv hread
    obtain ⟨hstorable, hscript⟩ := ofValue_storable hv hread
    exact ofValue_written_of_text hstorable hscript

/-- A snapshot in the middle of a story. -/
def midway : Snapshot where
  script := .text "forest"
  cursor := { conversation := "cave", index := 4, completed := 9 }
  flags := { values := [("met", 1), ("gold", -3)] }
  overrides := { typewriterRate := .int 30, speechFontSize := .int 12 }
  scene :=
    { background := .text "cave.png"
      sprites := [(.text "owl", { filename := .text "owl.png", x := .float 2.5 })]
      spriteAliases := .record [(.text "bird", .text "owl.png"), (.text "gone", .null)] }
  choiceSets := [(.text "way", [(.text "left", .text "river"), (.text "right", .text "cave")])]

/-- A record with a part missing, unknown keys, numbers as texts, nothing where a part should be,
and a scene given as a row of pairs. -/
def mangled : Value :=
  .ofFields [("cursor", .ofFields [("index", .text " 1_2 "), ("conversation", .int 7)]),
    ("flags", .ofFields [("gold", .text "-3"), ("met", .bool true)]), ("ui", .null),
    ("scene", .list [.list [.text "music", .int 5], .text "xy"]),
    ("choice_sets", .ofFields [("way", .list [.text "ab", .list [.null, .float 1.5]])]),
    ("version", .text "2"), ("unknown", .list [])]

theorem typed_midway : midway.Typed where
  script := ⟨_, rfl⟩
  flags := by simp [midway, Table.Distinct]
  overrides := by
    constructor <;> simp [midway, Value.IsTextOrNull, Value.IsNumberOrNull, Value.IsNumber,
      Value.IsWhole, Value.IsTruth]
  scene := by
    have howl : Sprite.Typed { filename := .text "owl.png", x := .float 2.5 } := by
      constructor <;> simp [Value.IsText, Value.IsNumber, Value.IsWhole, Value.IsTruth]
    constructor <;> simp [midway, Value.IsTextOrNull, Value.IsNumber, Value.IsWhole,
      Value.IsTruth, Value.IsText, Value.IsAliases, Table.Distinct, howl, or_imp, forall_and]
  choiceSets := by
    constructor <;> simp [midway, Value.IsText, Table.Distinct, or_imp, forall_and]

theorem codec_normalizes_midway_mangled :
    midway.Typed ∧ (midway.toValue >>= ofValue) = .ok midway ∧ mangled.plain ∧
      ∃ t, ofValue mangled = .ok t ∧ t.flags.values = [("gold", -3), ("met", 1)] ∧
        (t.toValue >>= ofValue) = .ok t := by
  have hplain : mangled.plain := by decide +kernel
  have hflags : ((ofValue mangled).map (·.flags.values)).toOption =
      some [("gold", -3), ("met", 1)] := by decide +kernel
  refine ⟨typed_midway, codec_normalizes.1 midway typed_midway, hplain, ?_⟩
  cases hread : ofValue mangled with
  | error m => simp [hread, Except.map, Except.toOption] at hflags
  | ok t =>
    simp only [hread, Except.map, Except.toOption, Option.some.injEq] at hflags
    exact ⟨t, rfl, hflags, codec_normalizes.2 mangled t hplain hread⟩

end Snapshot

end VisualNovel
