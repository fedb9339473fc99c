/-
What holds of the contents of all graphics. However a run goes, the content of a graphic comes about
in a few ways only: the graphic is made or copied, its payload is moved out or in or replaced, its
use is noted, or a file behind it is altered outside. A predicate of contents that survives each of
these holds of every graphic in every state of every run.
-/
import GraphicCache.Proofs.Run.Operations

namespace GraphicCache.Run

open Effect

variable {Q : Content → Prop} {w w' : World} {g : Nat} {c d : State} {a : Action}
  {acts : List Action}

/-- What comes about in each of the ways has the property, if what it comes from has. -/
structure Enduring (Q : Content → Prop) : Prop where
  origin : ∀ {o : Origin} {now : Moment}, (∀ p, o.gift = some p → p.Fits) → Q (o.content now)
  duplicate : ∀ {x y : Content} {now : Moment}, Q x → x.duplicate now = .ok y → Q y
  swapOut : ∀ {x y : Content} {canStore : Bool} {n : Nat}, Q x →
    x.swapOut canStore = .ok (some (y, n)) → Q y
  restore : ∀ {x y : Content} {id n : Nat} {now : Moment}, Q x →
    x.restore id now = .ok (some (y, n)) → Q y
  replace : ∀ {x : Content} {p : Payload} {now : Moment}, Q x → p.Fits → Q (x.replace p now)
  touch : ∀ {x : Content} (lastUsed : Moment), Q x → Q { x with lastUsed := lastUsed }
  alter : ∀ {x : Content} {file : SwapFile} (file' : SwapFile), Q x →
    x.swapFile? = some file → Q { x with backing := .file file' }

/-- Every graphic has the property. -/
def Throughout (Q : Content → Prop) (w : World) : Prop := ∀ g, Q (w.graphic g).toContent

namespace Throughout

theorem congr (h : Throughout Q w) (graphics : w'.graphics = w.graphics) : Throughout Q w' := by
  intro g
  unfold World.graphic
  rw [graphics]
  exact h g

theorem updateGraphic (h : Throughout Q w) (g : Nat) {f : Graphic → Graphic}
    (has : Q (f (w.graphic g)).toContent) : Throughout Q (w.updateGraphic g f) := by
  intro k
  rw [World.graphic_updateGraphic]
  split
  · next same => exact same.1 ▸ has
  · exact h k

theorem addGraphic (h : Throughout Q w) {x : Graphic} (has : Q x.toContent) :
    Throughout Q (w.addGraphic x) := by
  intro k
  rw [World.graphic_addGraphic]
  split
  · exact has
  · exact h k

end Throughout

namespace Enduring

theorem stable (endures : Enduring Q) : Stable (Throughout Q) where
  manager _ h := h.congr rfl
  content {w g content} moved h := by
    refine h.updateGraphic g ?_
    rcases moved with ⟨canStore, freed, out⟩ | ⟨id, now, restored, back⟩
    · exact endures.swapOut (h g) out
    · exact endures.restore (h g) back
  busy {w g f} busy h := by
    refine h.updateGraphic g ?_
    rw [busy]
    exact endures.touch _ (h g)
  hands _ _ h := h.congr rfl
  clock _ h := h.congr rfl

theorem effect (endures : Enduring Q) (h : Throughout Q w) {o : Op} (ready : o.Ready w) :
    Throughout Q (left o.effect w) := by
  refine endures.stable.effect ready h (fun g p replaces => ?_) (fun g f _ file found => ?_)
    (fun g _ => h.congr rfl) (fun name handle id _ => h.congr rfl)
    (fun config timer => h.congr rfl) fun f is => ?_
  · subst replaces
    exact h.updateGraphic g (endures.replace (h g) ready.2)
  · exact h.updateGraphic g (endures.alter (f file) (h g) found)
  · subst is
    exact h.congr ready.graphics

theorem step (endures : Enduring Q) (h : Throughout Q c.world) (step : Step c a d) :
    Throughout Q d.world := by
  cases step.conduct with
  | operates done ready world same =>
    rw [world]
    exact endures.effect h ready
  | makes source made same =>
    obtain ⟨-, -, created⟩ := Swapping.create_ok made
    rw [created]
    refine (endures.stable.manager Accounting.tame_takeId h).addGraphic ?_
    rcases source with ⟨o, fits, rfl⟩ | ⟨k, duplicated⟩
    · exact endures.origin fits
    · exact endures.duplicate (h k) duplicated
  | begins held world more =>
    rw [world]
    exact endures.stable.fetch _ (endures.stable.beginOperation _ h)
  | ends world fewer =>
    rw [world]
    exact endures.stable.endOperation _ h
  | rest keeps same => exact keeps endures.stable.everyday (fun h => h.congr rfl) h

end Enduring

/-- In every state of every run all graphics have the property. -/
theorem Reached.throughout {environment : Names String} (reached : Reached environment acts c)
    (endures : Enduring Q) : Throughout Q c.world := by
  -- nothing was made at the start, and what was not made holds nothing
  have start : Throughout Q (World.start environment) := fun g =>
    endures.origin (o := .empty) nofun
  exact reached.invariant (P := fun c => Throughout Q c.world) start fun h step => endures.step h step

end GraphicCache.Run
