import VisualNovel.Engine.Headless
import VisualNovel.Remote.Backlog
import VisualNovel.Remote.Files
import VisualNovel.Remote.Saves
import VisualNovel.Remote.Scripts
import VisualNovel.Remote.Window

/-!
# The engine from afar

An engine is set up by a record, and worked by records with the name of the call under `do`. What an
engine does not know is a call of its window.
-/

namespace VisualNovel.Remote

open Script

/-! ## Setting up -/

/-- A beat of a script that is given beat by beat. -/
def beatOf (v : Value) : Except Mishap Beat := do
  let fs ← v.fields
  let line := (fs.get? "line").getD (.int 0)
  if fs.has "text" then
    return .dialogue { text := fs.get "text", speaker := fs.get "speaker", line }
  match (← fs.required "kind").text?.bind CommandKind.ofKeyword? with
  | none => throw .badValue
  | some kind =>
    return .command { kind, args := ← ((fs.get? "args").getD (.list [])).parts, line }

/-- The conversations of a script that is given beat by beat. -/
def conversationsOf (v : Value) : Except Mishap (Table String (Array Beat)) := do
  (← v.fields).mapM fun (name, beats) => do
    return (name.shown, (← (← beats.parts).mapM beatOf).toArray)

/-- A script as a record gives it, beat by beat or by a document. No script at all is one with
nothing in it. -/
def scriptOf (v : Value) : Except Fault Script := do
  match v with
  | .null => return { conversations := [(startConversation, #[])] }
  | v =>
    let fs ← v.fields.mapError .mishap
    let name := (fs.get? "name").getD (.text "")
    match fs.get? "units" with
    | some units => return { name, conversations := ← (conversationsOf units).mapError .mishap }
    | none => compile (fs.get "document") name

/-- The library that a value gives: documents by name, or the folder of its files. -/
def libraryOf (v : Value) : Except Mishap (Option Library) :=
  match v with
  | .null => .ok none
  | .text _ => some <$> libraryOfFolder v
  | v => some <$> libraryOfDocuments v

/-- What an engine is set up with. -/
def setupOf (v : Value) (now : String) : Except Fault Engine.Setup := do
  let files ← (treeOf (v.field "files")).mapError .mishap
  let script ← scriptOf (v.field "script")
  let rest : Except Mishap Engine.Setup := do
    let rolls ← ((v.field "rolls").orElse (.list [.int 0])).parts
    return { script, config := ← Config.merge (v.field "config"), dice := { rolls := rolls.toArray }
             library := ← libraryOf (v.field "library"), saves := storeNamed? (v.field "store")
             disk := { files }, now, strict := (v.field "strict").truthy }
  rest.mapError .mishap

/-! ## Calls -/

/-- Who works an engine from afar: the collaborators, and where the console, the window and the
snapshots are that were kept under labels. -/
structure Bench (σ : Type) where
  company : Collaborators σ
  console : Place σ Console
  window : Place σ Window
  kept : Place σ (Table Value Snapshot)

variable {σ : Type}

/-- A truth value given back. -/
def truth (act : Play σ Bool) : Play σ Value := do
  return .bool (← act)

/-- The snapshot kept under a label. -/
def keptAs (b : Bench σ) (label : Value) : Play σ Snapshot := do
  let label ← Action.ofMishap label.asKey
  match Table.get? label (b.kept.get (← get).outside) with
  | some s => return s
  | none => throw (.mishap .missingKey)

/-- The identity of an effect: nothing given, or the word for it, is the one that is running. -/
def effectNamed (e : Engine σ) (given : Option Value) : Value :=
  let current := (e.effect.bind (·.effectId)).getD .null
  match given with
  | none => current
  | some (.text "current") => current
  | some id => id

/-- Lets a stretch of time pass several times. -/
def tickTimes (c : Collaborators σ) (dt times : Value) : Play σ Unit := do
  let times ← Action.ofMishap times.asWhole
  (List.range times.toNat).forM fun _ => Engine.tick c dt

/-- The place of the backlog. -/
def looseBacklogPlace : Place (Engine σ) LooseBacklog where
  get e := .ofBacklog e.backlog
  set b e := { e with backlog := b.toBacklog }

/-- How often events were emitted. -/
def emitCounts (e : Engine σ) (names : List Value) : Value :=
  .list (names.map fun n => .list [n, .int (e.bus.emitCount n.shown)])

/-- A call that has to do with saves and snapshots. -/
def callPersistence (b : Bench σ) (op : Value) : Play σ (Option Value) := do
  let e ← get
  let c := b.company
  match (op.field "do").shown with
  | "save" => some <$> truth (Engine.saveToSlot (op.field "slot"))
  | "load" => some <$> truth (Engine.loadFromSlot c (op.field "slot"))
  | "quicksave" => some <$> truth Engine.quicksave
  | "quickload" => some <$> truth (Engine.quickload c)
  | "autosave" => some <$> truth Engine.autosave
  | "snapshot" => some <$> tell (snapshotView e.session.persistent)
  | "live" => some <$> tell (snapshotView e.session.live)
  | "keep" =>
    let label ← Action.ofMishap (op.field "label").asKey
    let keep := Table.put label e.session.persistent
    some <$> quietly (modify (Engine.outsidePlace.update (b.kept.update keep)))
  | "restore" =>
    let given := Fields.get? "snapshot" (op.fields?.getD [])
    let s ← match given with
      | some v => Action.ofMishap (Snapshot.ofValue v)
      | none => keptAs b (op.field "label")
    some <$> quietly (Engine.restore c s)
  | "same" => return some (.bool ((← keptAs b (op.field "label")).same e.session.persistent))
  | "capture_safe" => some <$> quietly (modify (Engine.mapSession Session.capture))
  | "has_safe" => return some (.bool e.session.safe.isSome)
  | "store" =>
    match e.saves with
    | none => throw (.mishap .noMember)
    | some s =>
      let (v, s) ← Engine.onDisk (callStore s e.now op)
      modify fun e => { e with saves := some s }
      return some v
  | _ => return none

/-- A call that asks for what there is, or changes what an engine works with. -/
def callStage (b : Bench σ) (op : Value) : Play σ (Option Value) := do
  let e ← get
  let fs := op.fields?.getD []
  match (op.field "do").shown with
  | "flag" =>
    let name ← Action.ofMishap (op.field "name").display
    return some (.int (e.session.flags.get name))
  | "set_flag" => some <$> quietly (Engine.setFlag (op.field "name") (op.field "value"))
  | "finished" => return some (.bool e.finished)
  | "script" =>
    return some (.list [e.script.name, e.session.scriptName, .text e.script.summary])
  | "config" => return some e.stage.config.toValue
  | "timed" => some <$> tell e.stage.timedText.toValue
  | "prepared" => some <$> tell (preparedView (b.console.get e.outside))
  | "engine_scene" => some <$> tell (sceneView e.session.scene)
  | "kinds" => return some (kindsView (b.console.get e.outside))
  | "clear_intents" =>
    some <$> quietly (modify (Engine.outsidePlace.update (b.console.update Console.clear)))
  | "emit_count" =>
    let names ← Action.ofMishap ((fs.get? "names").getD (.ofTexts Event.names)).parts
    return some (emitCounts e names)
  | "library_add" =>
    match e.stage.library with
    | none => throw (.mishap .noMember)
    | some l =>
      let l ← Action.ofMishap (addDocument l (op.field "name") (op.field "document"))
      some <$> quietly (modify (Engine.mapStage fun s => { s with library := some l }))
  | "write_files" =>
    some <$> quietly (Engine.onDisk (Attempt.changeFiles (provideAll (op.field "files"))))
  | "files" => return some (filesView e.stage.disk.files)
  | "textbox" => some <$> Action.onPart looseBacklogPlace (callBacklog (.ofRow (op.field "call")))
  | _ => return none

/-- A call that moves an engine on. -/
def callForward (b : Bench σ) (op : Value) : Play σ (Option Value) := do
  let c := b.company
  let fs := op.fields?.getD []
  match (op.field "do").shown with
  | "ready" => some <$> quietly (Engine.resourcesReady c)
  | "step" => some <$> truth (Engine.step c)
  | "advance" => some <$> truth (Engine.advance c)
  | "request" => some <$> truth (Engine.requestAdvance c)
  | "tick" => some <$> quietly (tickTimes c (op.field "dt") ((fs.get? "n").getD (.int 1)))
  | "choose" => some <$> truth (Engine.choose c (op.field "index"))
  | "finish" => some <$> truth (Engine.effectFinished c (effectNamed (← get) (fs.get? "id")))
  | "resource_error" => some <$> quietly (Engine.reportResourceError c (op.field "message"))
  | "headless" =>
    let rounds := (fs.get? "max").getD (.int 100000)
    some <$> quietly (Engine.runHeadless c (op.field "choices") rounds)
  | "raise" => throw (.mishap .gaveUp)
  | _ => return none

/-- A call of an engine, or else of its window. -/
def callEngine (b : Bench σ) (op : Value) : Play σ Value := do
  match ← callForward b op with
  | some v => return v
  | none =>
    match ← callPersistence b op with
    | some v => return v
    | none =>
      match ← callStage b op with
      | some v => return v
      | none => callWindow b.company b.window op

/-! ## What can be seen -/

/-- A list under a name, unless it is empty. -/
def unlessEmpty (name : String) (items : List Value) : List (String × Value) :=
  if items.isEmpty then [] else [(name, .list items)]

/-- A value under a name, if there is one. -/
def ifAny (name : String) (v : Option Value) : List (String × Value) :=
  (v.map fun v => (name, v)).toList

/-- What an engine waits for. -/
def waitingView (e : Engine σ) : List (String × Value) :=
  ifAny "effect" (e.effect.map fun i => i.effectId.getD .null)
    ++ ifAny "choices" (e.menu.map fun options => .list (options.map ChoiceOption.toValue))
    ++ ifAny "fatal" (e.error.map StoryError.toValue)

/-- Where an engine stands. -/
def standingView (e : Engine σ) : List (String × Value) :=
  [("mode", .text e.mode.name), ("at", e.cursor.position.toRow), ("wait", .bool e.awaiting)]

end VisualNovel.Remote
