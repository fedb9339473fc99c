/-
Reasoning about effects: what an effect does when it is run, how a run of two effects in a row
comes apart, and what effects preserve. `Preserves I x` says that what held before `x` holds after
it, whether `x` came to its end or to a halt.
-/
import GraphicCache.Handling

namespace GraphicCache.Effect

variable {α β γ : Type} {x : Effect α} {f : α → Effect β} {w w' : World}

/-! ## Running effects -/

@[simp] theorem change_apply (f : World → World) (w : World) : change f w = .ok () (f w) := rfl

theorem bind_apply (x : Effect α) (f : α → Effect β) (w : World) :
    (x >>= f) w = match x w with
      | .ok a w' => f a w'
      | .error e w' => .error e w' := by
  show EStateM.bind x f w = _
  unfold EStateM.bind
  cases x w <;> rfl

theorem bind_of_ok {a : α} (h : x w = .ok a w') : (x >>= f) w = f a w' := by
  rw [bind_apply, h]

theorem bind_of_error {e : Script.Halt} (h : x w = .error e w') : (x >>= f) w = .error e w' := by
  rw [bind_apply, h]

@[simp] theorem get_bind_apply (f : World → Effect β) (w : World) :
    ((get : Effect World) >>= f) w = f w w := rfl

@[simp] theorem change_bind_apply (g : World → World) (f : Unit → Effect β) (w : World) :
    (change g >>= f) w = f () (g w) := rfl

theorem ok_of_bind {b : β} (h : (x >>= f) w = .ok b w') :
    ∃ a v, x w = .ok a v ∧ f a v = .ok b w' := by
  rw [bind_apply] at h
  split at h
  · next a v hx => exact ⟨a, v, hx, h⟩
  · cases h

theorem error_of_bind {e : Script.Halt} (h : (x >>= f) w = .error e w') :
    x w = .error e w' ∨ ∃ a v, x w = .ok a v ∧ f a v = .error e w' := by
  rw [bind_apply] at h
  split at h
  · next a v hx => exact .inr ⟨a, v, hx, h⟩
  · next hx => cases h; exact .inl hx

/-! ## The world that is left -/

/-- The world an effect leaves behind, at its end or at a halt. -/
def left (x : Effect α) (w : World) : World :=
  match x w with
  | .ok _ w' => w'
  | .error _ w' => w'

theorem left_of_ok {a : α} (h : x w = .ok a w') : left x w = w' := by rw [left, h]

theorem left_of_error {e : Script.Halt} (h : x w = .error e w') : left x w = w' := by rw [left, h]

/-- What only looks at the world leaves it as the effect before did. -/
theorem left_bind_of_calm (calm : ∀ a v, left (f a) v = v) (w : World) :
    left (x >>= f) w = left x w := by
  unfold left
  rw [bind_apply]
  cases x w with
  | ok a v => exact calm a v
  | error e v => rfl

/-- Answering something else leaves the same world. -/
theorem left_bind_pure (x : Effect α) (b : β) (w : World) :
    left (x >>= fun _ => pure b) w = left x w := left_bind_of_calm (fun _ _ => rfl) w

/-! ## Cleaning up -/

variable {cleanup : Effect Unit}

/-- After an end the cleaning up is what is left to do. -/
theorem ensuring_of_ok {a : α} (h : x w = .ok a w') :
    ensuring x cleanup w = (cleanup >>= fun _ => pure a) w' := by
  unfold ensuring
  rw [h, bind_apply]
  dsimp only
  cases cleanup w' <;> rfl

/-- After a halt it decides nothing but the world that is left. -/
theorem ensuring_of_error {e : Script.Halt} (h : x w = .error e w') :
    ensuring x cleanup w = .error e (left cleanup w') := by
  unfold ensuring left
  rw [h]
  dsimp only
  cases cleanup w' <;> rfl

theorem ok_of_ensuring {a : α} (h : ensuring x cleanup w = .ok a w') :
    ∃ v, x w = .ok a v ∧ cleanup v = .ok () w' := by
  cases done : x w with
  | ok b v =>
    rw [ensuring_of_ok done] at h
    obtain ⟨_, u, cleaned, rest⟩ := ok_of_bind h
    cases rest
    exact ⟨v, rfl, cleaned⟩
  | error e v =>
    rw [ensuring_of_error done] at h
    cases h

/-- A halt comes from the effect, and then its cleaning up leaves the world, or from cleaning up. -/
theorem error_of_ensuring {e : Script.Halt} (h : ensuring x cleanup w = .error e w') :
    (∃ v, x w = .error e v ∧ w' = left cleanup v) ∨
      ∃ a v, x w = .ok a v ∧ cleanup v = .error e w' := by
  cases done : x w with
  | ok b v =>
    rw [ensuring_of_ok done] at h
    rcases error_of_bind h with halts | ⟨_, u, -, rest⟩
    · exact .inr ⟨b, v, rfl, halts⟩
    · cases rest
  | error e' v =>
    rw [ensuring_of_error done] at h
    cases h
    exact .inl ⟨v, rfl, rfl⟩

/-- Cleaning up happens in the world that the effect left, at its end or at a halt. -/
theorem left_ensuring (x : Effect α) (cleanup : Effect Unit) (w : World) :
    left (ensuring x cleanup) w = left cleanup (left x w) := by
  unfold left ensuring
  cases x w with
  | ok a v =>
    dsimp only
    cases cleanup v <;> rfl
  | error e v =>
    dsimp only
    cases cleanup v <;> rfl

/-! ## What an effect preserves -/

/-- What holds of the world before the effect holds of the world it leaves behind. -/
def Preserves (I : World → Prop) (x : Effect α) : Prop := ∀ w, I w → I (left x w)

variable {I : World → Prop}

theorem Preserves.ok (h : Preserves I x) {a : α} (hx : x w = .ok a w') (hw : I w) : I w' :=
  left_of_ok hx ▸ h w hw

theorem Preserves.error (h : Preserves I x) {e : Script.Halt} (hx : x w = .error e w')
    (hw : I w) : I w' :=
  left_of_error hx ▸ h w hw

theorem preserves_pure (a : α) : Preserves I (pure a : Effect α) := fun _ hw => hw

theorem preserves_get : Preserves I (get : Effect World) := fun _ hw => hw

theorem preserves_ofExcept (r : Except Overflow α) : Preserves I (ofExcept r) := by
  intro w hw; cases r <;> exact hw

theorem preserves_change {g : World → World} (h : ∀ w, I w → I (g w)) : Preserves I (change g) := h

theorem preserves_bind (hx : Preserves I x) (hf : ∀ a, Preserves I (f a)) :
    Preserves I (x >>= f) := by
  intro w hw
  unfold left
  rw [bind_apply]
  cases h : x w with
  | ok a v => exact hf a v (hx.ok h hw)
  | error e v => exact hx.error h hw

/-- What the effect answers does not matter. -/
theorem Preserves.quiet (hx : Preserves I x) : Preserves I (do let _ ← x) :=
  preserves_bind hx fun _ => preserves_pure _

end GraphicCache.Effect
