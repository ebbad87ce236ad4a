import VisualNovel.Proofs.Stores

/-!
# Remembered scripts

A library of documents in memory answers as if it compiled anew each time: `answers_latest`. The
invariant is `Reads`, between the documents that were given and the two tables of the library.
-/

namespace VisualNovel.Library

open Script

variable {l : Library} {given : String → Option Value}

/-- A request to a library in memory. Its answer to `get` does not depend on the files. -/
inductive Request where
  | add (name : String) (document : Value)
  | get (files : Files.Tree) (name : String)

namespace Request

/-- The library after a request. -/
def leaves (l : Library) : Request → Library
  | add name document => l.add (.text name) document
  | get files name => (l.get files (.text name)).2

/-- The document that stands for a name after a request. -/
def gives (name : String) (held : Option Value) : Request → Option Value
  | add n document => if n = name then some document else held
  | get _ _ => held

end Request

/-- The document last given for a name, at first or by a request. -/
def latest (initial : Fields) (requests : List Request) (name : String) : Option Value :=
  requests.foldl (Request.gives name) (Table.get? (.text name) initial)

/-- The library keeps the documents that were given, and every script that it remembers is the
script of such a document. -/
structure Reads (given : String → Option Value) (l : Library) : Prop where
  shelf : ∃ byName, l.shelf = .documents byName ∧ ∀ n, Table.get? (.text n) byName = given n
  remembered : ∀ n script, Table.get? (.text n) l.compiled = some script →
    ∃ document, given n = some document ∧ compile document (.text n) = .ok script

theorem reads_initial (initial : Fields) :
    Reads (fun n => Table.get? (.text n) initial) { shelf := .documents initial } :=
  ⟨⟨initial, rfl, fun _ => rfl⟩, nofun⟩

namespace Reads

/-- A script that is not remembered is compiled from the document that was given. -/
theorem compileNamed_eq (h : l.Reads given) (files : Files.Tree) (n : String) :
    compileNamed l.shelf files (.text n) =
      match given n with
      | none => .error (.story { cause := .unknownScript (.text n) })
      | some document => compile document (.text n) := by
  obtain ⟨byName, hshelf, hdocuments⟩ := h.shelf
  rw [hshelf, ← hdocuments n]
  rfl

/-- What the library remembers makes no difference. -/
theorem answer (h : l.Reads given) (files : Files.Tree) (n : String) :
    (l.get files (.text n)).1 = compileNamed l.shelf files (.text n) := by
  refine get_eq_compileNamed fun script hscript => ?_
  obtain ⟨document, hgiven, hcompile⟩ := h.remembered n script hscript
  rw [h.compileNamed_eq, hgiven, ← hcompile]

/-- A document that is given takes the place of an older one and of its script. -/
theorem add (h : l.Reads given) (n : String) (document : Value) :
    (l.add (.text n) document).Reads fun m => if n = m then some document else given m := by
  obtain ⟨byName, hshelf, hdocuments⟩ := h.shelf
  unfold Library.add
  rw [hshelf]
  refine ⟨⟨_, rfl, fun m => ?shelf⟩, fun m script hscript => ?remembered⟩
  case shelf =>
    rw [Table.get?_put, Value.text_beq_text, hdocuments]
    simp only [beq_iff_eq]
  case remembered =>
    rw [Table.get?_erase, Value.text_beq_text] at hscript
    split at hscript
    · cases hscript
    · next hother => simpa [beq_iff_eq.not.1 hother] using h.remembered m script hscript

/-- Only a script that compiled is remembered. -/
theorem get (h : l.Reads given) (files : Files.Tree) (n : String) :
    (l.get files (.text n)).2.Reads given := by
  rcases l.get_snd files n with hsame | ⟨script, hscript, hput⟩
  · rwa [hsame]
  · rw [hput]
    refine ⟨h.shelf, fun m found hfound => ?_⟩
    rw [Table.get?_put, Value.text_beq_text] at hfound
    split at hfound
    · next hsame =>
      cases beq_iff_eq.1 hsame
      cases hfound
      rw [h.compileNamed_eq] at hscript
      cases hgiven : given n with
      | none => rw [hgiven] at hscript; cases hscript
      | some document => exact ⟨document, rfl, by rwa [hgiven] at hscript⟩
    · exact h.remembered m found hfound

theorem leaves (h : l.Reads given) (r : Request) :
    (r.leaves l).Reads fun n => r.gives n (given n) := by
  cases r with
  | add n document => exact h.add n document
  | get files n => exact h.get files n

theorem run (h : l.Reads given) (requests : List Request) :
    (requests.foldl Request.leaves l).Reads
      fun n => requests.foldl (Request.gives n) (given n) := by
  induction requests generalizing l given with
  | nil => exact h
  | cons r rest ih => exact ih (h.leaves r)

end Reads

/-- After any requests, a name gets what the document last given for it compiles to, be it a script
or an error, and no script if none was given; and nothing else is remembered for the name than that
script. -/
theorem answers_latest (initial : Fields) (requests : List Request) (files : Files.Tree)
    (n : String) :
    let l := requests.foldl Request.leaves { shelf := .documents initial }
    ((latest initial requests n = none ∧
        ∃ error, (l.get files (.text n)).1 = .error (.story error) ∧
          error.cause = .unknownScript (.text n) ∧ error.cause.category = .navigation) ∨
        ∃ document, latest initial requests n = some document ∧
          (l.get files (.text n)).1 = compile document (.text n)) ∧
      (Table.get? (.text n) l.compiled = none ∨
        ∃ document script, latest initial requests n = some document ∧
          compile document (.text n) = .ok script ∧
          Table.get? (.text n) l.compiled = some script) := by
  intro l
  have h : l.Reads (latest initial requests) := (reads_initial initial).run requests
  refine ⟨?answer, ?remembered⟩
  case answer =>
    rw [h.answer, h.compileNamed_eq]
    cases latest initial requests n with
    | none => exact .inl ⟨rfl, _, rfl, rfl, rfl⟩
    | some document => exact .inr ⟨document, rfl, rfl⟩
  case remembered =>
    cases hscript : Table.get? (.text n) l.compiled with
    | none => exact .inl rfl
    | some script =>
      obtain ⟨document, hlatest, hcompile⟩ := h.remembered n script hscript
      exact .inr ⟨document, script, hlatest, hcompile, rfl⟩

end VisualNovel.Library
