/-
Effects change the world and answer something, or come to a halt. A halt keeps the changes made
before it: it is an overflow in the middle of an operation, after which the caller may carry on
with whatever state the operation was in.
-/
import GraphicCache.World

namespace GraphicCache

/-- An effect on the world. -/
abbrev Effect := EStateM Script.Halt World

namespace Effect

def change (f : World → World) : Effect Unit := modify f

/-- Goes on with the result of an exact computation, or halts if there is none. -/
def ofExcept {α : Type} : Except Overflow α → Effect α
  | .ok a => pure a
  | .error e => throw (.overflow e)

/-- Runs `cleanup` after `x`, also when `x` halts; then the halt of `x` is the one that counts. -/
def ensuring {α : Type} (x : Effect α) (cleanup : Effect Unit) : Effect α := fun w =>
  match x w with
  | .ok a w₁ =>
    match cleanup w₁ with
    | .ok _ w₂ => .ok a w₂
    | .error e w₂ => .error e w₂
  | .error e w₁ =>
    match cleanup w₁ with
    | .ok _ w₂ => .error e w₂
    | .error _ w₂ => .error e w₂

end Effect

end GraphicCache
