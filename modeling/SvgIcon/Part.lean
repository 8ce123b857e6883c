/-!
Parts of a state.  What works on a part alone can be run where the whole state is threaded
through, and leaves the rest as it is.
-/

namespace SvgIcon

/-- A part of type `α` in states of type `σ`: how it is read and how it is replaced. -/
structure Part (σ α : Type) where
  get : σ → α
  set : α → σ → σ

namespace Part

variable {σ α β : Type}

def whole : Part σ σ := ⟨id, fun a _ => a⟩

def run (p : Part σ α) (act : StateM α β) : StateM σ β := fun s =>
  let (b, a) := act (p.get s)
  (b, p.set a s)

end Part
end SvgIcon
