/-!
# Places

Where a part stands in a larger state.
-/

namespace VisualNovel

/-- Where a part of the type `τ` stands in a state of the type `σ`. -/
structure Place (σ τ : Type) where
  get : σ → τ
  set : τ → σ → σ

namespace Place

variable {σ τ υ : Type}

/-- The whole state as a part of itself. -/
def whole : Place σ σ where
  get s := s
  set t _ := t

/-- Changes the part. -/
def update (p : Place σ τ) (f : τ → τ) (s : σ) : σ :=
  p.set (f (p.get s)) s

/-- The place of a part of a part. -/
def inside (p : Place σ τ) (q : Place τ υ) : Place σ υ where
  get s := q.get (p.get s)
  set u s := p.set (q.set u (p.get s)) s

end Place

end VisualNovel
