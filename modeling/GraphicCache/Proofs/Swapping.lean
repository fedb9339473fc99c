/-
What swapping, using and making graphics do to a world. Each operation on a graphic is a change of
that graphic by itself, followed by a notice to its manager that may halt; so an operation leaves
the world as it is, or is told apart by the change it makes.
-/
import GraphicCache.Proofs.Accounting
import GraphicCache.Proofs.Content

namespace GraphicCache.Swapping

open Effect

variable {g m : Nat} {w w' : World}

/-! ## Out and in -/

/-- A graphic stays as it is, or is taken out of memory and its manager told so. -/
theorem swapOut_cases (g : Nat) (w : World) :
    (∃ r, swapOut g w = .ok r w) ∨
      ∃ content freed, (w.graphic g).operations = 0 ∧
        (w.graphic g).swapOut (!w.storageBroken) = .ok (some (content, freed)) ∧
        swapOut g w = (Accounting.announceOut (w.graphic g).manager freed >>= fun _ =>
          pure (.ok true)) (w.setContent g content) := by
  unfold swapOut
  rw [get_bind_apply]
  split
  · exact .inl ⟨_, rfl⟩
  · next free =>
    have idle : (w.graphic g).operations = 0 := by omega
    rcases moved : (w.graphic g).swapOut (!w.storageBroken) with fault | _ | ⟨content, freed⟩
    · exact .inl ⟨_, rfl⟩
    · exact .inl ⟨_, rfl⟩
    · exact .inr ⟨content, freed, idle, rfl, rfl⟩

/-! Bringing a graphic back follows what restoring its content comes to. -/

theorem swapIn_of_fault {fault : Fault}
    (fails : (w.graphic g).restore (w.graphic g).id w.now = .error fault) :
    swapIn g w = .ok (.error fault) w := by
  unfold swapIn
  rw [get_bind_apply, fails]
  rfl

theorem swapIn_of_none (stays : (w.graphic g).restore (w.graphic g).id w.now = .ok none) :
    swapIn g w = .ok (.ok false) w := by
  unfold swapIn
  rw [get_bind_apply, stays]
  rfl

theorem swapIn_of_some {content : Content} {restored : Nat}
    (back : (w.graphic g).restore (w.graphic g).id w.now = .ok (some (content, restored))) :
    swapIn g w = (Accounting.announceIn (w.graphic g).manager restored >>= fun _ =>
      pure (.ok true)) (w.setContent g content) := by
  unfold swapIn
  rw [get_bind_apply, back]
  rfl

/-- A graphic stays as it is, or is brought back into memory and its manager told so. -/
theorem swapIn_cases (g : Nat) (w : World) :
    (∃ fault, (w.graphic g).restore (w.graphic g).id w.now = .error fault ∧
        swapIn g w = .ok (.error fault) w) ∨
      ((w.graphic g).restore (w.graphic g).id w.now = .ok none ∧
        swapIn g w = .ok (.ok false) w) ∨
      ∃ content restored,
        (w.graphic g).restore (w.graphic g).id w.now = .ok (some (content, restored)) ∧
        swapIn g w = (Accounting.announceIn (w.graphic g).manager restored >>= fun _ =>
          pure (.ok true)) (w.setContent g content) := by
  rcases moved : (w.graphic g).restore (w.graphic g).id w.now with
    fault | _ | ⟨content, restored⟩
  · exact .inl ⟨fault, rfl, swapIn_of_fault moved⟩
  · exact .inr (.inl ⟨rfl, swapIn_of_none moved⟩)
  · exact .inr (.inr ⟨content, restored, rfl, swapIn_of_some moved⟩)

/-- Whether its manager could be told or not, the graphic is out then. -/
theorem left_swapOut (g : Nat) (w : World) :
    left (swapOut g) w = w ∨
      ∃ content freed, (w.graphic g).operations = 0 ∧
        (w.graphic g).swapOut (!w.storageBroken) = .ok (some (content, freed)) ∧
        left (swapOut g) w =
          left (Accounting.debit (w.graphic g).manager freed) (w.setContent g content) := by
  rcases swapOut_cases g w with ⟨r, stays⟩ | ⟨content, freed, free, out, moves⟩
  · exact .inl (left_of_ok stays)
  · refine .inr ⟨content, freed, free, out, ?_⟩
    rw [← left_bind_pure (Accounting.debit (w.graphic g).manager freed) (.ok true : Except Fault Bool)]
    unfold left
    rw [moves]
    rfl

/-- Or it is in. -/
theorem left_swapIn (g : Nat) (w : World) :
    left (swapIn g) w = w ∨
      ∃ content restored,
        (w.graphic g).restore (w.graphic g).id w.now = .ok (some (content, restored)) ∧
        left (swapIn g) w =
          left (Accounting.credit (w.graphic g).manager restored) (w.setContent g content) := by
  rcases swapIn_cases g w with ⟨fault, -, stays⟩ | ⟨-, stays⟩ | ⟨content, restored, back, moves⟩
  · exact .inl (left_of_ok stays)
  · exact .inl (left_of_ok stays)
  · refine .inr ⟨content, restored, back, ?_⟩
    rw [← left_bind_pure (Accounting.credit (w.graphic g).manager restored)
      (.ok true : Except Fault Bool)]
    unfold left
    rw [moves]
    rfl

/-! ## When a graphic is swapped out -/

/-- The graphic has a payload in memory that no operation holds, and that has a link or can be
stored. -/
def Yields (w : World) (g : Nat) : Prop :=
  (w.graphic g).isAvailable = true ∧ (w.graphic g).operations = 0 ∧
    ((w.graphic g).isLinked = true ∨ w.storageBroken = false)

instance decidableYields (w : World) (g : Nat) : Decidable (Yields w g) :=
  inferInstanceAs (Decidable (_ ∧ _))

/-- What the manager of a graphic counts without the graphic. -/
def usedWithout (w : World) (g : Nat) : Int :=
  (w.manager (w.graphic g).manager).used - (w.graphic g).size

/-- The world without the payload of a graphic. -/
def dropped (w : World) (g : Nat) : World := w.setContent g (w.graphic g).stowed

/-- The world without the payload, which is not counted any more either. -/
def takenOut (w : World) (g : Nat) : World :=
  (dropped w g).updateManager (w.graphic g).manager (·.setUsed (usedWithout w g))

theorem swapOut_of_yields (yields : Yields w g) :
    swapOut g w = (Accounting.announceOut (w.graphic g).manager (w.graphic g).size >>= fun _ =>
      pure (.ok true)) (dropped w g) := by
  obtain ⟨available, free, stores⟩ := yields
  have moved : (w.graphic g).swapOut (!w.storageBroken) =
      .ok (some ((w.graphic g).stowed, (w.graphic g).size)) := by
    have stores : ((w.graphic g).isLinked || !w.storageBroken) = true := by simpa using stores
    rw [Content.swapOut_eq, if_pos available, if_pos stores]
  unfold swapOut
  rw [get_bind_apply, if_neg (by omega), moved]
  rfl

/-- The payload is gone, and is not counted any more. -/
theorem swapOut_of_fits (yields : Yields w g) (fits : Amount.fits (usedWithout w g) = true) :
    swapOut g w = .ok (.ok true) (takenOut w g) := by
  have told : Accounting.announceOut (w.graphic g).manager (w.graphic g).size (dropped w g) =
      .ok () (takenOut w g) := Accounting.debit_of_fits fits
  rw [swapOut_of_yields yields, bind_of_ok told]
  rfl

/-- The payload is gone before its manager halts over a count that is no amount. -/
theorem swapOut_of_overflow (yields : Yields w g) (beyond : Amount.fits (usedWithout w g) = false) :
    swapOut g w = .error (.overflow .sub) (dropped w g) := by
  have halts : Accounting.announceOut (w.graphic g).manager (w.graphic g).size (dropped w g) =
      .error (.overflow .sub) (dropped w g) := Accounting.debit_of_overflow beyond
  rw [swapOut_of_yields yields, bind_of_error halts]

/-- Nothing at all happens to a graphic that does not yield. -/
theorem swapOut_of_not_yields (stays : ¬ Yields w g) :
    swapOut g w = .ok (if (w.graphic g).isAvailable ∧ (w.graphic g).operations = 0
      then .error .noSwapFile else .ok false) w := by
  unfold swapOut
  rw [get_bind_apply]
  by_cases free : (w.graphic g).operations = 0
  · rw [if_neg (by omega), Content.swapOut_eq]
    by_cases available : (w.graphic g).isAvailable = true
    · obtain ⟨unlinked, broken⟩ : (w.graphic g).isLinked = false ∧ w.storageBroken = true := by
        simpa [Yields, available, free] using stays
      simp only [available, free, unlinked, broken]
      rfl
    · simp only [available, free]
      rfl
  · rw [if_pos (by omega), if_neg fun both => free both.2]
    rfl

/-- A swap-out that comes to its end takes a graphic out that yields, and leaves any other alone. -/
theorem of_swapOut_ok {r : Except Fault Bool} (done : swapOut g w = .ok r w') :
    (Yields w g ∧ r = .ok true ∧ w' = takenOut w g) ∨ w' = w ∧ r ≠ .ok true := by
  by_cases yields : Yields w g
  · cases fits : Amount.fits (usedWithout w g) with
    | true =>
      rw [swapOut_of_fits yields fits] at done
      cases done
      exact .inl ⟨yields, rfl, rfl⟩
    | false =>
      rw [swapOut_of_overflow yields fits] at done
      cases done
  · rw [swapOut_of_not_yields yields] at done
    cases done
    refine .inr ⟨rfl, ?_⟩
    split <;> nofun

/-- One that halts has taken the graphic out, and has left the count of the manager alone. -/
theorem of_swapOut_error {e : Script.Halt} (halts : swapOut g w = .error e w') :
    Yields w g ∧ w' = dropped w g := by
  by_cases yields : Yields w g
  · cases fits : Amount.fits (usedWithout w g) with
    | true =>
      rw [swapOut_of_fits yields fits] at halts
      cases halts
    | false =>
      rw [swapOut_of_overflow yields fits] at halts
      cases halts
      exact ⟨yields, rfl⟩
  · rw [swapOut_of_not_yields yields] at halts
    cases halts

/-! ## What a completed move changes -/

/-- A graphic has another content now and its manager another count, and nothing else has changed. -/
structure Shifted (g : Nat) (content : Content) (used : Int) (w v : World) : Prop where
  graphic : v.graphic g = { w.graphic g with toContent := content }
  manager : v.manager (w.graphic g).manager = (w.manager (w.graphic g).manager).setUsed used
  graphics : ∀ h, h ≠ g → v.graphic h = w.graphic h
  managers : ∀ k, k ≠ (w.graphic g).manager → v.manager k = w.manager k
  rest : v = { w with graphics := v.graphics, managers := v.managers }

theorem shifted (made : g < w.graphics.size) (there : (w.graphic g).manager < w.managers.size)
    (content : Content) (used : Int) :
    Shifted g content used w
      ((w.setContent g content).updateManager (w.graphic g).manager (·.setUsed used)) where
  graphic := w.graphic_updateGraphic_self g made
  manager := World.manager_updateManager_self _ _ there
  graphics h other := w.graphic_updateGraphic_ne g h (Ne.symm other)
  managers k other := World.manager_updateManager_ne _ _ k (Ne.symm other)
  rest := rfl

/-! ## Use -/

/-- Fetching notes the time and swaps in. -/
theorem fetch_apply (g : Nat) (w : World) :
    fetch g w = (swapIn g >>= fun
      | .error fault => return .error fault
      | .ok _ => do
        let w ← get
        match (w.graphic g).payload with
        | none => return .error (.notAvailable (w.graphic g).id)
        | some p => return .ok p) (w.updateGraphic g fun x => { x with lastUsed := w.now }) := rfl

/-- Looking for the payload in the end changes nothing. -/
theorem left_fetch (g : Nat) (w : World) :
    left (fetch g) w = left (swapIn g) (w.updateGraphic g fun x => { x with lastUsed := w.now }) := by
  unfold left
  rw [fetch_apply]
  refine left_bind_of_calm (fun r v => ?_) _
  cases r with
  | error fault => rfl
  | ok restored =>
    unfold left
    dsimp only
    rw [get_bind_apply]
    cases (v.graphic g).payload <;> rfl

/-- What a program does with a payload happens after the payload was fetched. -/
theorem use_of_fetched {α : Type} {body : Payload → Effect α} {v : World} {p : Payload}
    (begun : beginOperation g w = .ok () v) (fetched : fetch g v = .ok (.ok p) w') :
    use g body w = ensuring (do return .ok (← body p)) (endOperation g) w' := by
  unfold use
  rw [bind_of_ok begun]
  unfold ensuring
  rw [bind_of_ok fetched]

/-- Without a payload nothing is done with it. -/
theorem use_of_fault {α : Type} {body : Payload → Effect α} {v : World} {fault : Fault}
    (begun : beginOperation g w = .ok () v) (fetched : fetch g v = .ok (.error fault) w') :
    use g body w = .ok (.error fault) (left (endOperation g) w') := by
  unfold use
  rw [bind_of_ok begun]
  unfold ensuring
  rw [bind_of_ok fetched]
  rfl

/-- Fetching halts before anything is done with the payload. -/
theorem use_of_halt {α : Type} {body : Payload → Effect α} {v : World} {e : Script.Halt}
    (begun : beginOperation g w = .ok () v) (halted : fetch g v = .error e w') :
    use g body w = .error e (left (endOperation g) w') := by
  unfold use
  rw [bind_of_ok begun]
  unfold ensuring
  rw [bind_of_error halted]
  rfl

/-- A reading that does nothing with the payload leaves what fetching leaves, and its operation ends
there. -/
theorem left_use (g : Nat) (w : World) :
    left (use g pure) w =
      left (endOperation g) (left (fetch g) (left (beginOperation g) w)) := by
  refine (left_ensuring _ (endOperation g) (left (beginOperation g) w)).trans ?_
  congr 1
  unfold left
  rw [bind_apply]
  cases fetch g _ with
  | ok r v => cases r <;> rfl
  | error e v => rfl

/-! ## Making -/

/-- The world after a graphic was made for a manager, under its next id. -/
def created (w : World) (m : Nat) (content : Content) : World :=
  (w.updateManager m Manager.takeId).addGraphic ⟨content, (w.manager m).nextId, m, 0⟩

/-- Making a graphic comes to its end. -/
theorem create_apply (m : Nat) (content : Content) (w : World) :
    create m content w = .ok ((w.manager m).nextId, w.graphics.size) (created w m content) := rfl

/-- What is made is registered then. -/
theorem make_apply (ask : ObjectRef → Effect Unit) (m : Nat) (content : Content) (w : World) :
    make ask m content w =
      (Sweep.register ask m (w.manager m).nextId (.graphic w.graphics.size) >>= fun _ =>
        pure w.graphics.size) (created w m content) := rfl

theorem create_ok {content : Content} {id : Nat} (h : create m content w = .ok (id, g) w') :
    id = (w.manager m).nextId ∧ g = w.graphics.size ∧
      w' = (w.updateManager m Manager.takeId).addGraphic
        ⟨content, (w.manager m).nextId, m, 0⟩ := by
  cases h
  exact ⟨rfl, rfl, rfl⟩

/-- The graphic that was made is there. -/
theorem graphic_of_create {content : Content} {id : Nat} (h : create m content w = .ok (id, g) w') :
    g < w'.graphics.size ∧ w'.graphic g = ⟨content, id, m, 0⟩ ∧
      w'.managers.size = w.managers.size := by
  obtain ⟨rfl, rfl, rfl⟩ := create_ok h
  refine ⟨?_, ?_, w.size_updateManager m _⟩
  · rw [World.size_addGraphic]
    exact Nat.lt_succ_self _
  · rw [World.graphic_addGraphic]
    exact if_pos rfl

end GraphicCache.Swapping
