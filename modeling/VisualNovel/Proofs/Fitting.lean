import Mathlib.Data.List.Forall2
import VisualNovel.Proofs.Likeness

/-!
# Commands that fit their layouts

A compiled command has exactly the parameters that its layout asks for: all of the head, and after
it one or more whole groups, each value of the type at its place. So the test before a command is
performed never fails (`Command.Fits.wellFormed`), and what a command reads group by group are whole
groups that make up the rest of its parameters (`Command.Fits.groups_whole`).
-/

namespace VisualNovel

open Script

namespace Script

/-! ## Cutting into groups -/

section
variable {α : Type} {size fuel k : Nat} {xs : List α}

theorem flatten_chunksFrom (hsize : 0 < size) (hfuel : xs.length ≤ fuel) :
    (chunksFrom size fuel xs).flatten = xs := by
  induction fuel generalizing xs with
  | zero =>
    have hnil : xs = [] := List.length_eq_zero_iff.1 (by omega)
    simp [hnil, chunksFrom]
  | succ fuel ih =>
    cases xs with
    | nil => simp [chunksFrom]
    | cons x xs =>
      simp only [List.length_cons] at hfuel
      have hrest : ((x :: xs).drop size).length ≤ fuel := by
        simp only [List.length_drop, List.length_cons]
        omega
      simp [chunksFrom, ih hrest]

/-- Every group is a stretch of the list, and the first of them is the first stretch. -/
theorem exists_of_mem_chunksFrom {g : List α} (h : g ∈ chunksFrom size fuel xs) :
    ∃ i, i * size < xs.length ∧ g = (xs.drop (i * size)).take size := by
  induction fuel generalizing xs with
  | zero => simp [chunksFrom] at h
  | succ fuel ih =>
    cases xs with
    | nil => simp [chunksFrom] at h
    | cons x xs =>
      simp only [chunksFrom, List.mem_cons] at h
      rcases h with rfl | h
      · exact ⟨0, by simp, by simp⟩
      · obtain ⟨i, hi, rfl⟩ := ih h
        simp only [List.length_drop] at hi
        refine ⟨i + 1, ?_, ?_⟩
        · rw [Nat.add_mul, Nat.one_mul]
          omega
        · rw [List.drop_drop, Nat.add_mul, Nat.one_mul, Nat.add_comm]

end

/-! ## Parameters that were left out -/

/-- Only parameters at the end of the head can be left out. -/
def Layout.optionalLast (l : Layout) : Bool :=
  (l.head.dropWhile Param.required).all fun p => !p.required

theorem Layout.of_optionalLast (kind : CommandKind) : (Layout.of kind).optionalLast := by
  cases kind <;> rfl

/-- A parameter that was left out of a fixed layout has the value that is declared for it. -/
theorem defaultsAfter_getElem? {kind : CommandKind} {given i : Nat} {p : Param}
    (hfixed : (Layout.of kind).repeated = []) (hgiven : (Layout.of kind).minCount ≤ given)
    (hi : given ≤ i) (hp : (Layout.of kind).head[i]? = some p) :
    (defaultsAfter (Layout.of kind) given)[i - given]? = p.default? := by
  have hplace : given + (i - given) = i := by omega
  have hdrop : ((Layout.of kind).head.drop given)[i - given]? = some p := by
    rw [List.getElem?_drop, hplace]
    exact hp
  have hrequired : ((Layout.of kind).head.filter Param.required).length ≤ given := by
    unfold Layout.minCount at hgiven
    omega
  have hlate := mem_dropWhile_required hrequired (List.mem_of_getElem? hdrop)
  have hdefault := List.all_eq_true.1 (Layout.of_optionalLast kind) p hlate
  simp only [defaultsAfter, hfixed, List.isEmpty_nil, if_true, List.getElem?_map, hdrop,
    Option.map_some]
  cases hd : p.default? with
  | none => simp [Param.required, hd] at hdefault
  | some v => rfl

/-! ## Fitting -/

/-- The command has the parameters that its layout asks for, each of its type: all of the head, and
whole groups after it. -/
structure Command.Fits (cmd : Command) : Prop where
  typed : cmd.Typed
  fixed : (Layout.of cmd.kind).repeated = [] →
    cmd.args.length = (Layout.of cmd.kind).head.length
  grouped : (Layout.of cmd.kind).repeated ≠ [] → ∃ k, 1 ≤ k ∧
    cmd.args.length = (Layout.of cmd.kind).head.length + k * (Layout.of cmd.kind).repeated.length

/-- Where the groups start that a command goes through, and how many parameters a group has. -/
inductive Grouped : CommandKind → Nat → Nat → Prop where
  | jumpOnFlag : Grouped .jumpOnFlag 1 2
  | jumpOnChoice : Grouped .jumpOnChoice 0 2
  | modifyFlagByChoice : Grouped .modifyFlagByChoice 0 3
  | showChoiceAndJump : Grouped .showChoiceAndJump 1 2
  | showChoiceAndModify : Grouped .showChoiceAndModify 1 3

theorem Grouped.layout {kind : CommandKind} {start size : Nat} (h : Grouped kind start size) :
    start = (Layout.of kind).head.length ∧ size = (Layout.of kind).repeated.length ∧ 0 < size := by
  cases h <;> exact ⟨rfl, rfl, by decide⟩

/-- The values are those of the parameters, one by one. -/
abbrev Given (ps : List Param) (vs : List Value) : Prop :=
  List.Forall₂ (fun p v => p.admits v = true) ps vs

theorem given_of_getElem? {ps : List Param} {vs : List Value} (hlength : ps.length = vs.length)
    (h : ∀ (i : Nat) v, vs[i]? = some v → ∃ p : Param, ps[i]? = some p ∧ p.admits v) :
    Given ps vs := by
  refine List.forall₂_iff_get.2 ⟨hlength, fun i hi hi' => ?_⟩
  obtain ⟨p, hp, hadmits⟩ := h i vs[i] (List.getElem?_eq_getElem hi')
  rw [List.getElem?_eq_getElem hi] at hp
  cases hp
  exact hadmits

namespace Command.Fits

variable {cmd : Command} {start size : Nat}

theorem wellFormed (h : cmd.Fits) : VisualNovel.Command.wellFormed cmd := by
  unfold VisualNovel.Command.wellFormed Layout.accepts
  by_cases hrepeated : (Layout.of cmd.kind).repeated = []
  · have hlength := h.fixed hrepeated
    have hfilter : ((Layout.of cmd.kind).head.filter Param.required).length ≤
        (Layout.of cmd.kind).head.length := List.length_filter_le _ _
    simp [hrepeated, hlength, Layout.minCount, hfilter]
  · obtain ⟨k, hk, hlength⟩ := h.grouped hrepeated
    have hsize : 0 < (Layout.of cmd.kind).repeated.length := List.length_pos_iff.2 hrepeated
    have hextra : (cmd.args.length : Int) - (Layout.of cmd.kind).head.length =
        (k : Int) * (Layout.of cmd.kind).repeated.length := by
      rw [hlength]
      push_cast
      omega
    have hleast : ((Layout.of cmd.kind).repeated.length : Int) ≤
        (k : Int) * (Layout.of cmd.kind).repeated.length := by
      have hmul := Nat.mul_le_mul_right (Layout.of cmd.kind).repeated.length hk
      rw [Nat.one_mul] at hmul
      exact_mod_cast hmul
    simp [hrepeated, hextra, hleast]

/-- What a command goes through are whole groups, and together they are all that stands behind the
head. -/
theorem groups_whole (h : cmd.Fits) (hgrouped : Grouped cmd.kind start size) :
    (∀ g ∈ cmd.groups start size, g.length = size) ∧
      (cmd.groups start size).flatten = cmd.args.drop start := by
  obtain ⟨rfl, rfl, hsize⟩ := hgrouped.layout
  refine ⟨fun g hg => ?_, flatten_chunksFrom hsize (Nat.le_refl _)⟩
  obtain ⟨i, hi, rfl⟩ := exists_of_mem_chunksFrom hg
  obtain ⟨k, -, hlength⟩ := h.grouped (List.length_pos_iff.1 hsize)
  -- A group that starts before the end ends before it, since the rest is made of whole groups.
  have hrest : (cmd.args.drop (Layout.of cmd.kind).head.length).length =
      k * (Layout.of cmd.kind).repeated.length := by
    rw [List.length_drop]
    omega
  rw [hrest] at hi
  have hik : i + 1 ≤ k := Nat.lt_of_mul_lt_mul_right hi
  have hroom := Nat.mul_le_mul_right (Layout.of cmd.kind).repeated.length hik
  rw [Nat.add_mul, Nat.one_mul] at hroom
  rw [List.length_take, List.length_drop, hrest]
  omega

/-- The values of a group have the types that stand at their places in the layout. -/
theorem group_typed (h : cmd.Fits) (hgrouped : Grouped cmd.kind start size) {g : List Value}
    (hg : g ∈ cmd.groups start size) {j : Nat} {v : Value} (hv : g[j]? = some v) :
    ∃ p, (Layout.of cmd.kind).repeated[j]? = some p ∧ p.admits v := by
  obtain ⟨rfl, rfl, hsize⟩ := hgrouped.layout
  obtain ⟨i, hi, rfl⟩ := exists_of_mem_chunksFrom hg
  have hj : j < (Layout.of cmd.kind).repeated.length := by
    have hlt := (List.getElem?_eq_some_iff.1 hv).1
    rw [List.length_take] at hlt
    omega
  rw [List.getElem?_take_of_lt hj, List.getElem?_drop, List.getElem?_drop] at hv
  obtain ⟨p, hp, hadmits⟩ := h.typed _ v hv
  refine ⟨p, ?_, hadmits⟩
  unfold Layout.paramAt? at hp
  rw [if_neg (by omega), Nat.add_sub_cancel_left, Nat.add_comm, Nat.add_mul_mod_self_right,
    Nat.mod_eq_of_lt hj] at hp
  exact hp

/-- A fixed layout is filled. -/
theorem given (h : cmd.Fits) (hfixed : (Layout.of cmd.kind).repeated = []) :
    Given (Layout.of cmd.kind).head cmd.args := by
  refine given_of_getElem? (h.fixed hfixed).symm fun i v hv => ?_
  obtain ⟨p, hp, hadmits⟩ := h.typed i v hv
  have hi : i < cmd.args.length := (List.getElem?_eq_some_iff.1 hv).1
  unfold Layout.paramAt? at hp
  rw [if_pos (by rw [← h.fixed hfixed]; exact hi)] at hp
  exact ⟨p, hp, hadmits⟩

/-- Every group is filled. -/
theorem group_given (h : cmd.Fits) (hgrouped : Grouped cmd.kind start size) :
    ∀ g ∈ cmd.groups start size, Given (Layout.of cmd.kind).repeated g := by
  intro g hg
  obtain ⟨-, hsize, -⟩ := hgrouped.layout
  have hlength := (h.groups_whole hgrouped).1 g hg
  exact given_of_getElem? (by omega) fun j v hv => h.group_typed hgrouped hg hv

end Command.Fits

/-! ## Compiling gives commands that fit -/

/-- A layout with a part that repeats takes this part once or more, and never a piece of it. -/
theorem Layout.accepts_repeated {l : Layout} {n : Nat} (hne : l.repeated ≠ []) (h : l.accepts n) :
    ∃ k, 1 ≤ k ∧ n = l.head.length + k * l.repeated.length := by
  unfold Layout.accepts at h
  simp only [List.isEmpty_iff, hne, if_false, decide_eq_true_eq] at h
  obtain ⟨hleast, hwhole⟩ := h
  have hsize : 0 < l.repeated.length := List.length_pos_iff.2 hne
  have hextra : (n : Int) - l.head.length = ((n - l.head.length : Nat) : Int) := by
    omega
  have hmod : (n - l.head.length) % l.repeated.length = 0 := by
    rw [hextra] at hwhole
    exact_mod_cast hwhole
  obtain ⟨k, hk⟩ := Nat.dvd_of_mod_eq_zero hmod
  refine ⟨k, ?_, ?_⟩
  · cases k with
    | zero => omega
    | succ k => omega
  · rw [Nat.mul_comm k]
    omega

theorem bind_fits {kind : CommandKind} {raws : List String} {line context : Value}
    {args : List Value} (h : bind kind raws line context = .ok args) :
    Command.Fits { kind, args, line } ∧ ∀ i p, raws.length ≤ i →
      (Layout.of kind).head[i]? = some p → args[i]? = p.default? := by
  have htyped : Command.Typed { kind, args, line } := bind_typed h
  simp only [bind] at h
  split at h
  · cases h
  next hcount =>
  have haccepts : (Layout.of kind).accepts raws.length := by simpa using hcount
  obtain ⟨given, hgiven, h⟩ := bind_eq_ok.1 h
  cases h
  obtain ⟨hlength, -⟩ := convertFrom_admits hgiven
  by_cases hfixed : (Layout.of kind).repeated = []
  · unfold Layout.accepts at haccepts
    simp only [hfixed, List.isEmpty_nil, if_true, decide_eq_true_eq] at haccepts
    refine ⟨⟨htyped, fun _ => ?_, fun hne => absurd hfixed hne⟩, fun i p hi hp => ?_⟩
    · simp only [List.length_append, defaultsAfter, hfixed, List.isEmpty_nil, if_true,
        List.length_map, List.length_drop]
      omega
    · rw [List.getElem?_append_right (by omega), ← defaultsAfter_getElem? hfixed _ hi hp, hlength]
      omega
  · obtain ⟨k, hk, hcount⟩ := Layout.accepts_repeated hfixed haccepts
    have hsame : (given ++ defaultsAfter (Layout.of kind) given.length).length = raws.length := by
      simp [defaultsAfter, hfixed, hlength]
    refine ⟨⟨htyped, fun h => absurd h hfixed, fun _ => ⟨k, hk, hsame.trans hcount⟩⟩,
      fun i p hi hp => ?_⟩
    -- Nothing of the head is left out.
    have hlt := (List.getElem?_eq_some_iff.1 hp).1
    omega

/-- A line of dialogue is a text, and a command fits its layout. -/
def Beat.Fits : Beat → Prop
  | .dialogue d => d.text.IsText
  | .command c => c.Fits

theorem Command.Fits.placed {cmd : Command} (h : cmd.Fits) (script conversation : String)
    (line : Int) : (placedBeat script conversation line (.command cmd)).Fits := by
  have htyped : (Beat.command cmd).Typed := h.typed
  refine ⟨placedBeat_typed htyped, fun hfixed => ?_, fun hne => ?_⟩
  · simpa using h.fixed hfixed
  · simpa using h.grouped hne

/-- The parameters of a command that a line gives are bound by its layout. -/
theorem parseLine_command {raw : String} {line conversation : Value} {cmd : Command}
    (h : parseLine raw line conversation = .ok (.command cmd)) :
    ∃ raws, bind cmd.kind raws line conversation = .ok cmd.args ∧ cmd.line = line := by
  unfold parseLine at h
  split at h
  · split at h
    · unfold parseCommand at h
      split at h
      · cases h
      · split at h
        · cases h
        · obtain ⟨args, hargs, h⟩ := bind_eq_ok.1 h
          cases h
          exact ⟨_, hargs, rfl⟩
    · cases h
  · cases h

theorem entailed_fits : Entailed Beat.Fits where
  line {raw script conversation line beat} h := by
    cases beat with
    | dialogue d => exact parseLine_typed h
    | command cmd =>
      obtain ⟨raws, hargs, hline⟩ := parseLine_command h
      have hfits := (bind_fits hargs).1
      rw [← hline] at hfits
      exact hfits.placed script conversation line
  said text _ _ := ⟨text, rfl⟩

end Script

/-- Every beat of the script fits. -/
def Script.Fits (s : Script) : Prop :=
  ∀ e ∈ s.conversations, ∀ b ∈ e.2, b.Fits

/-- Every script that the library remembers fits. -/
def Library.Fits (l : Library) : Prop :=
  ∀ e ∈ l.compiled, e.2.Fits

theorem Script.compile_fits {document name : Value} {script : Script}
    (h : compile document name = .ok script) : script.Fits :=
  entailed_fits.compile h

theorem Library.get_fits {l : Library} (h : l.Fits) (files : Files.Tree) (name : Value) :
    (l.get files name).2.Fits ∧ ∀ script, (l.get files name).1 = .ok script → script.Fits :=
  get_of_compile Script.compile_fits h

/-- The beat at a place of a script that fits is one that fits. -/
theorem Cursor.Sound.current_fits {c : Cursor} (h : c.Sound) (hscript : c.script.Fits) {beat : Beat}
    (hbeat : c.current = some beat) : beat.Fits := by
  obtain ⟨e, he, hmem⟩ := h.current_mem hbeat
  exact hscript e he beat hmem

end VisualNovel
