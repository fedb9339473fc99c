/-
The running count of a manager whose objects are graphics, whatever other managers have to do with.
It stays what the graphics add up to: where one of them is swapped or replaced it is registered, so
the count of its manager follows; booking it and taking it out count it in and out; and what other
objects do, or occupy, does not come into it. So the count is exact by itself, without the balance of
a whole world in which there are graphics only.
-/
import GraphicCache.Proofs.Run.Identity
import GraphicCache.Proofs.Run.Unregistered

namespace GraphicCache.Run

open Effect Accounting

variable {w w' : World} {past : List Taken} {c d : State} {a : Action} {m k g id : Nat}
  {o : ObjectRef}

/-! ## What counts do not notice -/

/-- What is registered with the manager and counted is as before, and so are the sizes of
graphics. -/
structure Rests (m : Nat) (w w' : World) : Prop where
  registry : (w'.manager m).registry = (w.manager m).registry
  used : (w'.manager m).used = (w.manager m).used
  graphics : w.graphics.size ≤ w'.graphics.size
  sizes : ∀ g < w.graphics.size, (w'.graphic g).size = (w.graphic g).size

namespace Rests

theorem refl (m : Nat) (w : World) : Rests m w w := ⟨rfl, rfl, Nat.le_refl _, fun _ _ => rfl⟩

theorem trans {v : World} (h : Rests m w v) (h' : Rests m v w') : Rests m w w' where
  registry := h'.registry.trans h.registry
  used := h'.used.trans h.used
  graphics := Nat.le_trans h.graphics h'.graphics
  sizes g made := (h'.sizes g (Nat.lt_of_lt_of_le made h.graphics)).trans (h.sizes g made)

theorem updateManager (w : World) (k : Nat) {f : Manager → Manager}
    (hf : ∀ x, (f x).registry = x.registry ∧ (f x).used = x.used) :
    Rests m w (w.updateManager k f) where
  registry := w.updateManager_keeps k m fun x => (hf x).1
  used := w.updateManager_keeps k m fun x => (hf x).2
  graphics := Nat.le_refl _
  sizes _ _ := rfl

theorem updateGraphic (w : World) (g : Nat) {f : Graphic → Graphic}
    (hf : ∀ x, (f x).size = x.size) : Rests m w (w.updateGraphic g f) where
  registry := rfl
  used := rfl
  graphics := Nat.le_of_eq (w.size_updateGraphic g f).symm
  sizes h _ := w.updateGraphic_keeps (q := fun x => x.size) g h hf

/-- Managers and graphics are the same. -/
theorem of_same (managers : w'.managers = w.managers) (graphics : w'.graphics = w.graphics) :
    Rests m w w' := by
  have manager : w'.manager m = w.manager m := by
    unfold World.manager
    rw [managers]
  refine ⟨congrArg Manager.registry manager, congrArg Manager.used manager,
    Nat.le_of_eq (congrArg Array.size graphics.symm), fun g _ => ?_⟩
  unfold World.graphic
  rw [graphics]

theorem addManager (w : World) {x : Manager} (registry : x.registry = .empty) (used : x.used = 0) :
    Rests m w (w.addManager x) where
  registry := w.addManager_keeps (q := Manager.registry) m registry
  used := w.addManager_keeps (q := Manager.used) m used
  graphics := Nat.le_refl _
  sizes _ _ := rfl

theorem create {content : Content} (made : Swapping.create k content w = .ok (id, g) w') :
    Rests m w w' := by
  obtain ⟨-, -, rfl⟩ := Swapping.create_ok made
  have numbered : Rests m w (w.updateManager k Manager.takeId) :=
    .updateManager w k fun _ => ⟨rfl, rfl⟩
  refine numbered.trans ⟨rfl, rfl, ?_, fun g made => ?_⟩
  · rw [World.size_addGraphic]
    exact Nat.le_succ _
  · rw [World.graphic_addGraphic, if_neg (Nat.ne_of_lt made)]

theorem beginOperation (g : Nat) (w : World) :
    Rests m w (left (Swapping.beginOperation g) w) := .updateGraphic w g fun _ => rfl

theorem endOperation (g : Nat) (w : World) : Rests m w (left (Swapping.endOperation g) w) :=
  .updateGraphic w g fun _ => rfl

theorem guard (g : Nat) (guard : String) (w : World) :
    Rests m w (left (Op.beginOperation g guard).effect w) := by
  have begun : Rests m w (left (Swapping.beginOperation g) w) := .beginOperation g w
  generalize hv : left (Swapping.beginOperation g) w = v at begun
  have begins : Swapping.beginOperation g w = .ok () v := hv ▸ rfl
  rw [left_guard, left_beginOperation guard begins]
  have guarded : Rests m v { v with guards := v.guards.put guard g } := .of_same rfl rfl
  cases v.guards.get? guard with
  | none => exact begun.trans guarded
  | some old => exact (begun.trans guarded).trans (.endOperation old _)

theorem unguard (guard : String) (w : World) :
    Rests m w (left (Op.endOperation guard).effect w) := by
  rw [left_unguard, left_endOperation]
  have unguarded : Rests m w { w with guards := w.guards.erase guard } := .of_same rfl rfl
  cases w.guards.get? guard with
  | none => exact .refl m w
  | some g => exact unguarded.trans (.endOperation g _)

theorem changeFile (g : Nat) (f : SwapFile → SwapFile) (w : World) :
    Rests m w (left (Op.alterFile g f).effect w) := by
  rw [left_changeFile]
  cases (w.graphic g).swapFile? with
  | none => exact .refl m w
  | some file => exact .updateGraphic w g fun _ => rfl

end Rests

/-! ## Counts that are right -/

/-- All objects of the manager are graphics, and its running count is what they add up to. -/
structure Tallies (m : Nat) (w : World) : Prop where
  graphics : ∀ e ∈ (w.manager m).registry.entries, ∃ g < w.graphics.size, e.2 = .graphic g
  count : (w.manager m).used = total w m

/-- An operation that is for the library: unregistering, and telling a manager of sizes. -/
def Op.Meddles : Op → Prop
  | .unregister .. | .announceIn .. | .announceOut .. | .announceResize .. | .noticeIn ..
  | .noticeOut .. => True
  | _ => False

/-- What a recomputation leaves is right for its manager, and was right before for another. -/
theorem count_of_healed (healed : Healed k w w')
    (count : m ≠ k → (w.manager m).used = total w m) : (w'.manager m).used = total w' m := by
  by_cases own : m = k
  · subst own
    rw [healed.usage, ← contributions_sum]
    rfl
  · rw [healed.others m own, count own]
    refine (total_congr (congrArg Manager.registry (healed.others m own)) fun e _ => ?_).symm
    unfold World.accounted
    rw [healed.objects]

theorem registry_of_moves (moves : Moves g w w') (k : Nat) :
    (w'.manager k).registry = (w.manager k).registry := by
  rw [moves.managers]
  split <;> rfl

/-- The total of its manager follows the size of a registered graphic. -/
theorem total_of_moves (rooted : Rooted w) (registered : (skeleton w).Registered g)
    (moves : Moves g w w') (m : Nat) :
    total w' m = total w m + if m = (w.graphic g).manager then
      ((w'.graphic g).size : Int) - (w.graphic g).size else 0 := by
  -- an entry of the graphic is under its id, with its manager
  have own {k : Nat} {e : Nat × ObjectRef} (he : e ∈ (w.manager k).registry.entries)
      (same : e.2 = .graphic g) : e.1 = (w.graphic g).id ∧ k = (w.graphic g).manager := by
    obtain ⟨i, o⟩ := e
    obtain rfl : o = .graphic g := same
    obtain ⟨-, rfl, rfl⟩ : (skeleton w).Known g k i := rooted.entries he
    exact ⟨rfl, rfl⟩
  split
  · next here =>
    subst here
    have others : totalWithout w' (w.graphic g).manager (w.graphic g).id =
        totalWithout w (w.graphic g).manager (w.graphic g).id := by
      unfold totalWithout
      rw [registry_of_moves moves]
      refine congrArg List.sum (List.map_congr_left fun e he => ?_)
      obtain ⟨listed, other⟩ := Registry.mem_erase.1 he
      exact moves.others _ fun same => other (own listed same).1
    have entry : ((w.graphic g).id, .graphic g) ∈
        (w.manager (w.graphic g).manager).registry.entries := registered.2
    have entry' := entry
    rw [← registry_of_moves moves] at entry'
    rw [total_eq entry', total_eq entry, others, accounted_graphic, accounted_graphic]
    omega
  · next other =>
    rw [Int.add_zero]
    exact total_congr (registry_of_moves moves m) fun e he =>
      moves.others _ fun same => other (own he same).2

theorem sited_of_registered (registered : (skeleton w).Registered g) : Sited g w :=
  ⟨registered.1, there_of_entry registered.2⟩

namespace Tallies

theorem rests (h : Tallies m w) (rests : Rests m w w') : Tallies m w' where
  graphics e he := by
    rw [rests.registry] at he
    obtain ⟨g, made, graphic⟩ := h.graphics e he
    exact ⟨g, Nat.lt_of_lt_of_le made rests.graphics, graphic⟩
  count := by
    rw [rests.used, h.count]
    refine (total_congr rests.registry fun e he => ?_).symm
    obtain ⟨g, made, graphic⟩ := h.graphics e he
    rw [graphic, accounted_graphic, accounted_graphic, rests.sizes g made]

theorem healed (h : Tallies m w) (healed : Healed k w w')
    (graphics : w'.graphics.size = w.graphics.size) : Tallies m w' where
  graphics e he := by
    have registry : (w'.manager m).registry = (w.manager m).registry := by
      by_cases own : m = k
      · exact own ▸ healed.registry
      · exact congrArg Manager.registry (healed.others m own)
    rw [registry] at he
    rw [graphics]
    exact h.graphics e he
  count := count_of_healed healed fun _ => h.count

/-- The count of a registered graphic's manager follows its size. -/
theorem moves (h : Tallies m w) (rooted : Rooted w) (registered : (skeleton w).Registered g)
    (moves : Moves g w w') : Tallies m w' where
  graphics e he := by
    rw [registry_of_moves moves] at he
    rw [moves.graphics]
    exact h.graphics e he
  count := by
    rw [moves.managers, total_of_moves rooted registered moves]
    split
    · show (w.manager m).used + _ = _
      rw [h.count]
    · rw [h.count, Int.add_zero]

/-- What is unregistered is counted no more. -/
theorem unregister (h : Tallies m w) (done : Accounting.unregister k id w = .ok () w') :
    Tallies m w' := by
  cases found : (w.manager k).registry.find? id with
  | none =>
    cases (unregister_of_absent found).symm.trans done
    exact h
  | some o =>
    have within : Within nothing w w' :=
      left_of_ok done ▸ .of_stable (fun st => preserves_unregister st.manager) w
    obtain rfl := unregister_ok found done
    refine ⟨fun e he => ?_, count_unbooked (Registry.find?_eq_some.1 found) h.count⟩
    exact h.graphics e ((within.registry m e he).resolve_right fun new => new)

theorem release (h : Tallies m w) {handle : Handle}
    (done : Handling.release handle w = .ok () w') : Tallies m w' := by
  cases handle with
  | graphic g =>
    rw [Handling.release_graphic] at done
    split at done
    · cases done
      exact h
    · exact h.unregister done
  | registration k id => exact h.unregister done

theorem bind (h : Tallies m w) {name : String} {handle : Handle}
    (done : Handling.bind name handle id w = .ok () w') : Tallies m w' := by
  rw [Handling.bind_eq] at done
  have named : Tallies m
      { w with handles := w.handles.put name handle, ids := w.ids.put name id } :=
    h.rests (.of_same rfl rfl)
  cases old : w.handles.get? name with
  | none =>
    rw [old] at done
    cases done
    exact named
  | some other =>
    rw [old] at done
    exact named.release done

theorem drop (h : Tallies m w) {name : String} {r : Bool}
    (done : Handling.drop name w = .ok r w') : Tallies m w' := by
  rcases Handling.drop_ok done with ⟨-, rfl⟩ | ⟨old, -, released⟩
  · exact h
  · have dropped : Tallies m { w with handles := w.handles.erase name } :=
      h.rests (.of_same rfl rfl)
    exact dropped.release released

/-- An operation that is not for the library keeps the count right, if graphics with handles are
registered. -/
theorem op (h : Tallies m w) (rooted : Rooted w)
    (held : ∀ g, w.isHeld g = true → (skeleton w).Registered g) {o : Op} (usual : ¬ o.Meddles)
    (ready : o.Ready w) (done : o.effect w = .ok () w') : Tallies m w' := by
  have still (rests : Rests m w (left o.effect w)) : Tallies m w' :=
    h.rests (left_of_ok done ▸ rests)
  have swapped {g : Nat} (uses : o.Uses g w) (swaps : o.swaps = true)
      (isHeld : w.isHeld g = true) : Tallies m w' := by
    have registered := held g isHeld
    have tracks := tracks_effect uses swaps (sited_of_registered registered)
    rw [done] at tracks
    exact h.moves rooted registered tracks
  cases o with
  | swapOut g => exact swapped rfl rfl ready
  | swapIn g => exact swapped rfl rfl ready
  | peek g => exact swapped rfl rfl ready
  | replace g p =>
    have registered := held g ready.1
    rw [replace_ok registered done]
    exact h.moves rooted registered (.setContent (sited_of_registered registered) rfl)
  | setLastUsed g lastUsed => exact still (.updateGraphic w g fun _ => rfl)
  | beginOperation g guard => exact still (.guard g guard w)
  | endOperation guard => exact still (.unguard guard w)
  | alterFile g f => exact still (.changeFile g f w)
  | hold g => exact still (.of_same rfl rfl)
  | letGo g =>
    have freed : Tallies m { w with held := w.held.erase g } := h.rests (.of_same rfl rfl)
    have done : Handling.release (.graphic g) { w with held := w.held.erase g } = .ok () w' := done
    exact freed.release done
  | bind name handle id => exact h.bind done
  | drop name =>
    obtain ⟨r, v, dropped, rest⟩ := ok_of_bind done
    cases rest
    exact h.drop dropped
  | addManager config timer =>
    obtain ⟨t, made⟩ := left_addManager config timer w
    exact still (made ▸ .addManager w rfl rfl)
  | setTimer k timer => exact still (.updateManager w k fun _ => ⟨rfl, rfl⟩)
  | audit k =>
    obtain ⟨r, v, audited, rest⟩ := ok_of_bind done
    cases rest
    obtain ⟨-, rfl, -⟩ := audit_iff.1 audited
    exact h.healed (healed_corrected w k) rfl
  | advance span => exact still (.of_same rfl rfl)
  | arrange f => exact still (.of_same ready.managers ready.graphics)
  | unregister | announceIn | announceOut | announceResize | noticeIn | noticeOut =>
    exact absurd trivial usual

/-- Booking a graphic keeps the count of its manager right, and booking anything that of another. -/
theorem book (h : Tallies m w) (graphic : k = m → ∃ g < w.graphics.size, o = .graphic g)
    (done : Accounting.book k id o w = .ok () w') : Tallies m w' := by
  have within := within_book k id o w
  rw [left_of_ok done] at within
  obtain ⟨-, -, rfl⟩ := book_iff.1 done
  refine ⟨fun e he => ?_, count_of_healed (healed_corrected _ k) fun other => ?_⟩
  · rcases within.registry m e he with old | ⟨rfl, rfl⟩
    · exact h.graphics e old
    · exact graphic rfl
  · unfold booked
    rw [World.manager_updateManager_ne _ _ _ (Ne.symm other),
      World.manager_updateManager_ne _ _ _ (Ne.symm other), total_updateManager_ne _ (Ne.symm other),
      total_updateManager_ne _ (Ne.symm other)]
    exact h.count

/-- Every step keeps the count right, if graphics with handles are registered and only graphics are
booked with the manager. -/
theorem step (h : Tallies m c.world) (issuance : Issuance past c) (orderly : Orderly c)
    (held : ∀ g, c.world.isHeld g = true → (skeleton c.world).Registered g)
    (graphics : ∀ id o, (m, id, o) ∈ waiting c.calls → ∃ g, o = .graphic g)
    (runs : ∀ o, a ≠ .halt o) (usual : ∀ o, a = .op o → ¬ o.Meddles) (step : Step c a d) :
    Tallies m d.world := by
  cases step with
  | op free ready done => exact h.op orderly.world held (usual _ rfl) ready done
  | opHalts | settleHalts | answerHalts | askHalts | finishHalts => exact absurd rfl (runs _)
  | make free there fits made => exact h.rests (.create made)
  | copy free there held duplicated made => exact h.rests (.create made)
  | @enlist s w w' k id o free there fresh =>
    cases fresh
    exact h.rests (.updateManager w k fun _ => ⟨rfl, rfl⟩)
  | @settle s w w' k id o done =>
    refine h.book (fun own => ?_) done
    subst own
    obtain ⟨g, rfl⟩ := graphics id o List.mem_cons_self
    have known : (skeleton w).Known g k id := orderly.owned List.mem_cons_self
    exact ⟨g, known.1, rfl⟩
  | @enter s w v w' g p free isHeld begun fetched =>
    have registered := held g isHeld
    have begins : Calm g w (left (Swapping.beginOperation g) w) :=
      .updateGraphic w g fun _ => ⟨rfl, rfl⟩
    rw [left_of_ok begun] at begins
    have tracks := Tracks.fetch (begins.moves.sited (sited_of_registered registered))
    rw [fetched] at tracks
    exact h.moves orderly.world registered (begins.moves.trans tracks)
  | @leave s w w' g done => exact h.rests (left_of_ok done ▸ .endOperation g w)
  | call | answer | skip | askScripted | look => exact h
  | @sweep s w k | @suppress s w k => exact h.rests (.updateManager w k fun _ => ⟨rfl, rfl⟩)
  | @ask s w w' k target id g rest n r asked done =>
    -- what the sweep has noted is what is registered under the id now
    have noted : (k, id, ObjectRef.graphic g) ∈ issued past :=
      issuance.ahead _ (List.mem_append_left _ List.mem_cons_self)
    have entry := Registry.find?_eq_some.1 (issuance.find?_of_contains noted asked.2.1)
    obtain ⟨made, rfl, rfl⟩ : (skeleton w).Known g k id := orderly.world.entries entry
    have registered : (skeleton w).Registered g := ⟨made, entry⟩
    have tracks := Tracks.swapOut (sited_of_registered registered)
    rw [done] at tracks
    exact h.moves orderly.world registered tracks
  | @finish s w w' k target rest n ended done =>
    obtain ⟨-, same⟩ := Sweep.finish_iff.1 done
    exact h.healed (Sweep.healed_of_finish done) (same ▸ rfl)

end Tallies

theorem tallies_start (environment : Names String) (m : Nat) :
    Tallies m (.start environment) := by
  refine ⟨fun e he => ?_, ?_⟩
  · rw [World.manager_start] at he
    cases he
  · unfold total contributions
    rw [World.manager_start]
    rfl

end GraphicCache.Run
