/-
What the functions of the library do, told as runs. Running an effect from some calls lands where it
should: at its end with the calls it ends with, and after a halt where the program goes on. So the
steps of runs miss nothing that a sweep, a registration, a reading or a timer can do.
-/
import GraphicCache.Proofs.Run.Triggers

namespace GraphicCache.Run

open Effect

variable {α β : Type} {s s' s'' : List Call} {w w' : World} {m : Nat}

/-! ## Landing -/

/-- Running the effect from the calls `s` is a run, which ends with the calls `s'` or, at a halt,
where the program goes on. Of swap-outs that nest too deeply nothing is said. -/
def Lands (s s' : List Call) (x : Effect α) (w : World) : Prop :=
  match x w with
  | .ok _ w' => ∃ acts, Path (home s) ⟨s, w⟩ acts ⟨s', w'⟩
  | .error (.overflow _) w' => ∃ acts, Path (home s) ⟨s, w⟩ acts ⟨home s, w'⟩
  | .error .exhausted _ => True

section Rules

variable {x : Effect α} {f : α → Effect β}

theorem Lands.ok {a : α} (h : Lands s s' x w) (done : x w = .ok a w') :
    ∃ acts, Path (home s) ⟨s, w⟩ acts ⟨s', w'⟩ := by
  unfold Lands at h
  rw [done] at h
  exact h

theorem Lands.halt {e : Overflow} (h : Lands s s' x w) (halts : x w = .error (.overflow e) w') :
    ∃ acts, Path (home s) ⟨s, w⟩ acts ⟨home s, w'⟩ := by
  unfold Lands at h
  rw [halts] at h
  exact h

theorem Lands.grows {a : α} (h : Lands s s' x w) (done : x w = .ok a w') : Grows w w' := by
  obtain ⟨acts, path⟩ := h.ok done
  exact path.grows

/-- An effect lands if its end and its halts do. -/
theorem lands_intro (ends : ∀ a v, x w = .ok a v → ∃ acts, Path (home s) ⟨s, w⟩ acts ⟨s', v⟩)
    (halts : ∀ e v, x w = .error (.overflow e) v →
      ∃ acts, Path (home s) ⟨s, w⟩ acts ⟨home s, v⟩) :
    Lands s s' x w := by
  unfold Lands
  split
  · next a v done => exact ends a v done
  · next e v done => exact halts e v done
  · trivial

theorem lands_of_ok {a : α} (done : x w = .ok a w')
    (path : ∃ acts, Path (home s) ⟨s, w⟩ acts ⟨s', w'⟩) : Lands s s' x w := by
  unfold Lands
  rw [done]
  exact path

/-- What does the same lands in the same way. -/
theorem Lands.congr {y : Effect α} (h : Lands s s' x w) (same : y w = x w) : Lands s s' y w := by
  unfold Lands at h ⊢
  rw [same]
  exact h

theorem lands_pure (a : α) (w : World) : Lands s s (pure a : Effect α) w :=
  lands_of_ok rfl ⟨[], .refl (home_suffix_self s)⟩

theorem lands_get {f : World → Effect α} (h : Lands s s' (f w) w) : Lands s s' (get >>= f) w :=
  h.congr (get_bind_apply f w)

/-- Effects in a row land one after the other. -/
theorem Lands.bind (h : Lands s s' x w) (same : home s' = home s)
    (next : ∀ a v, x w = .ok a v → Grows w v → Lands s' s'' (f a) v) :
    Lands s s'' (x >>= f) w := by
  apply lands_intro
  · intro b v done
    obtain ⟨a, u, first, second⟩ := ok_of_bind done
    obtain ⟨acts, path⟩ := h.ok first
    obtain ⟨acts', path'⟩ := (next a u first path.grows).ok second
    exact ⟨_, path.trans (same ▸ path')⟩
  · intro e v halts
    rcases error_of_bind halts with first | ⟨a, u, first, second⟩
    · exact h.halt first
    · obtain ⟨acts, path⟩ := h.ok first
      obtain ⟨acts', path'⟩ := (next a u first path.grows).halt second
      exact ⟨_, path.trans (same ▸ path')⟩

/-- What the effect answers does not matter. -/
theorem Lands.of_quiet (h : Lands s s' (do let _ ← x) w) : Lands s s' x w := by
  apply lands_intro
  · intro a v done
    exact h.ok (bind_of_ok done)
  · intro e v halts
    exact h.halt (bind_of_error halts)

/-- An operation of the program leads from the world before it to the one it leaves. -/
theorem path_op {o : Op} (free : atProgram s = true) (ready : o.Ready w) :
    ∃ acts, Path s ⟨s, w⟩ acts ⟨s, left o.effect w⟩ := by
  have stays : s <:+ s := List.suffix_refl s
  cases done : o.effect w with
  | ok a v =>
    rw [left_of_ok done]
    exact ⟨_, .one (.op free ready done) stays stays⟩
  | error e v =>
    rw [left_of_error done]
    exact ⟨_, .one (.opHalts free ready done) stays stays⟩

theorem lands_op {o : Op} (free : atProgram s = true) (ready : o.Ready w) :
    Lands s s o.effect w := by
  have path := path_op free ready
  apply lands_intro
  · intro a v done
    rw [home_of_free free]
    exact left_of_ok done ▸ path
  · intro e v halts
    rw [home_of_free free]
    exact left_of_error halts ▸ path

/-- A change of what is outside of the library. -/
theorem lands_arrange {f : World → World} (free : atProgram s = true)
    (rearranged : w.Rearranged (f w)) : Lands s s (change f) w :=
  lands_op (o := .arrange f) free rearranged

/-- An effect lands with an operation that cleans up after it. -/
theorem Lands.ensuring {o : Op} (h : Lands s s x w) (free : atProgram s = true)
    (ready : ∀ v, o.Ready v) : Lands s s (ensuring x o.effect) w := by
  have home := home_of_free free
  apply lands_intro
  · intro a v done
    obtain ⟨u, ended, cleaned⟩ := ok_of_ensuring done
    obtain ⟨acts, path⟩ := h.ok ended
    obtain ⟨acts', path'⟩ := path_op (o := o) free (ready u)
    rw [left_of_ok cleaned] at path'
    rw [home] at path ⊢
    exact ⟨_, path.trans path'⟩
  · intro e v halts
    rcases error_of_ensuring halts with ⟨u, halted, rfl⟩ | ⟨a, u, ended, cleaned⟩
    · obtain ⟨acts, path⟩ := h.halt halted
      obtain ⟨acts', path'⟩ := path_op (o := o) free (ready u)
      rw [home] at path ⊢
      exact ⟨_, path.trans path'⟩
    · obtain ⟨acts, path⟩ := h.ok ended
      obtain ⟨acts', path'⟩ := path_op (o := o) free (ready u)
      rw [left_of_error cleaned] at path'
      rw [home] at path ⊢
      exact ⟨_, path.trans path'⟩

end Rules

/-! ## Readings -/

/-- A reading lands where it began if what is done with the payload lands inside of it. -/
theorem lands_use {g : Nat} {body : Payload → Effect α} (free : atProgram s = true)
    (held : w.isHeld g = true)
    (inside : ∀ p v, Grows w v → Lands (.reading g :: s) (.reading g :: s) (body p) v) :
    Lands s s (Swapping.use g body) w := by
  have begun : Swapping.beginOperation g w = .ok () _ := rfl
  cases fetched : Swapping.fetch g
      (w.updateGraphic g fun x => { x with operations := x.operations + 1 }) with
  | ok r v =>
    cases r with
    | ok p =>
      have used : Swapping.use g body w = _ := Swapping.use_of_fetched begun fetched
      have entered : Path s ⟨s, w⟩ [.enter g] ⟨.reading g :: s, v⟩ :=
        .one (.enter free held begun fetched) (List.suffix_refl s) (List.suffix_cons _ s)
      have lands := inside p v entered.grows
      -- whatever comes of the body, the graphic is let go of after it
      have leaves (u : World) {acts : List Action}
          (path : Path (.reading g :: s) ⟨.reading g :: s, v⟩ acts ⟨.reading g :: s, u⟩) :
          ∃ acts, Path s ⟨s, w⟩ acts ⟨s, left (Swapping.endOperation g) u⟩ :=
        ⟨_, .snoc (entered.trans (path.lower (List.suffix_cons _ s))) (.leave rfl)
          (List.suffix_refl s)⟩
      apply lands_intro
      · intro a u done
        rw [home_of_free free]
        obtain ⟨u', ended, cleaned⟩ := ok_of_ensuring (used.symm.trans done)
        obtain ⟨b, u'', ended, rest⟩ := ok_of_bind ended
        cases rest
        obtain ⟨acts, path⟩ := lands.ok ended
        exact left_of_ok cleaned ▸ leaves _ path
      · intro e u halts
        rw [home_of_free free]
        rcases error_of_ensuring (used.symm.trans halts) with ⟨u', halted, rfl⟩ | ⟨_, u', -, failed⟩
        · rcases error_of_bind halted with halted | ⟨b, u'', -, rest⟩
          · obtain ⟨acts, path⟩ := lands.halt halted
            exact leaves _ path
          · cases rest
        · cases failed
    | error fault =>
      -- nothing is done with it, as if it were only looked at
      have peek : Lands s s (Op.peek g).effect w := lands_op free held
      refine lands_of_ok (Swapping.use_of_fault begun fetched) ?_
      exact peek.ok (bind_of_ok (Swapping.use_of_fault begun fetched))
  | error e v =>
    have peek : Lands s s (Op.peek g).effect w := lands_op free held
    apply lands_intro
    · intro a u done
      cases (Swapping.use_of_halt begun fetched).symm.trans done
    · intro e' u halts
      cases (Swapping.use_of_halt begun fetched).symm.trans halts
      exact peek.halt (bind_of_error (Swapping.use_of_halt begun fetched))

/-! ## Sweeps -/

/-- A way of asking objects to swap out in which calls of scripted objects land where they were. -/
structure Follows (ask : ObjectRef → Effect Unit) : Prop where
  graphic : ∀ g, ask (.graphic g) = do let _ ← Swapping.swapOut g
  scripted : ∀ {o s w}, atProgram s = true → w.Proper → Lands s s (ask (.scripted o)) w

namespace Follows

variable {ask : ObjectRef → Effect Unit} (follows : Follows ask)

include follows

/-- Such a way of asking is one that sweeps cope with. -/
theorem lawful : Lawful ask where
  graphic := follows.graphic
  scripted {o s _ _} proper asked := by
    have lands := follows.scripted (o := o) (s := .swappingOut o :: s) rfl proper
    exact lands.ok asked

/-- A call of a sweep lands where the sweep looks at the object again. -/
theorem call {target : Int} {id n : Nat} {o : ObjectRef} {r : List (Nat × ObjectRef)}
    (proper : w.Proper) (asked : Asked w m target id o) :
    Lands (.sweeping m target ((id, o) :: r) none n :: s)
      (.sweeping m target r (some o) n :: s) (ask o) w := by
  have sweep (call : Call) : home s <:+ call :: s := home_suffix call s
  cases o with
  | graphic g =>
    rw [follows.graphic]
    apply lands_intro
    · intro a v done
      obtain ⟨_, u, swapped, rest⟩ := ok_of_bind done
      cases rest
      exact ⟨_, .one (.ask asked swapped) (sweep _) (sweep _)⟩
    · intro e v halts
      rcases error_of_bind halts with halts | ⟨_, u, -, rest⟩
      · exact ⟨_, .one (.askHalts asked halts) (sweep _) (List.suffix_refl _)⟩
      · cases rest
  | scripted o =>
    generalize after : Call.sweeping m target r (some (.scripted o)) n :: s = below
    have suffix : home s <:+ Call.swappingOut o :: below :=
      after ▸ (sweep _).trans (List.suffix_cons _ _)
    have called : Step ⟨.sweeping m target ((id, .scripted o) :: r) none n :: s, w⟩ .ask
        ⟨.swappingOut o :: below, w⟩ := after ▸ .askScripted asked
    have called := Path.one called (sweep _) suffix
    have lands := follows.scripted (o := o) (s := .swappingOut o :: below) rfl proper
    apply lands_intro
    · intro a v done
      obtain ⟨acts, inside⟩ := lands.ok done
      exact ⟨_, .snoc (called.trans (inside.lower suffix)) .answer (after ▸ sweep _)⟩
    · intro e v halts
      obtain ⟨acts, inside⟩ := lands.halt halts
      have answered : Step ⟨.swappingOut o :: below, v⟩ (.halt none) ⟨home below, v⟩ := .answerHalts
      have same : home below = home s := after ▸ rfl
      rw [same] at answered
      exact ⟨_, .snoc (called.trans (inside.lower suffix)) answered (List.suffix_refl _)⟩

/-- A turn of a sweep lands where its next turn begins. -/
theorem turn {target : Int} {n : Nat} {r : List (Nat × ObjectRef)} {t : Sweep.Turn}
    (proper : t.before.Proper) (above : target ≤ (t.before.manager m).used)
    (called : t.calls m = true → ask t.object t.before = .ok () t.after)
    (passed : t.calls m = false → t.after = t.before) :
    ∃ acts, Path (home s) ⟨.sweeping m target (t.entry :: r) none n :: s, t.before⟩ acts
      ⟨.sweeping m target r none (n + (t.evicts m).toNat) :: s, t.after⟩ := by
  cases calls : t.calls m with
  | true =>
    obtain ⟨registered, evict⟩ := Sweep.Turn.calls_iff.1 calls
    have asked : Asked t.before m target t.id t.object := ⟨above, registered, evict⟩
    obtain ⟨acts, path⟩ := (follows.call (s := s) (n := n) (r := r) proper asked).ok
      (called calls)
    have evicts : t.evicts m = (t.after.profile t.object).swappedOut := by
      unfold Sweep.Turn.evicts
      rw [calls, Bool.true_and]
    rw [evicts]
    exact ⟨_, .snoc path .look (home_suffix _ _)⟩
  | false =>
    have passedOver : PassedOver t.before m target t.id t.object := by
      refine ⟨above, (t.calls_or_spared m).resolve_left ?_⟩
      rw [calls]
      exact Bool.false_ne_true
    have evicts : t.evicts m = false := by
      unfold Sweep.Turn.evicts
      rw [calls, Bool.false_and]
    rw [evicts, passed calls]
    exact ⟨_, .one (.skip passedOver) (home_suffix _ _) (home_suffix _ _)⟩

/-- The turns of a walk land where the walk ends. -/
theorem course {target : Int} {n : Nat} {snapshot : List (Nat × ObjectRef)}
    {turns : List Sweep.Turn} {start stop : World} (proper : start.Proper)
    (course : Sweep.Course ask m target snapshot start turns stop) :
    ∃ acts rest, snapshot = turns.map Sweep.Turn.entry ++ rest ∧
      Path (home s) ⟨.sweeping m target snapshot none n :: s, start⟩ acts
        ⟨.sweeping m target rest none (n + turns.countP (Sweep.Turn.evicts m)) :: s, stop⟩ := by
  obtain ⟨rest, entries⟩ := course.entries
  suffices h : ∃ acts, Path (home s) ⟨.sweeping m target snapshot none n :: s, start⟩ acts
      ⟨.sweeping m target rest none (n + turns.countP (Sweep.Turn.evicts m)) :: s, stop⟩ by
    obtain ⟨acts, path⟩ := h
    exact ⟨acts, rest, entries.symm, path⟩
  obtain ⟨-, linked, above, called, passed⟩ := course
  subst entries
  induction turns generalizing start n with
  | nil =>
    obtain rfl : start = stop := linked
    exact ⟨[], .refl (home_suffix _ _)⟩
  | cons t turns ih =>
    obtain ⟨rfl, linked⟩ := linked
    obtain ⟨acts, first⟩ := follows.turn (s := s) (n := n)
      (r := turns.map Sweep.Turn.entry ++ rest) proper (above t List.mem_cons_self)
      (called t List.mem_cons_self) (passed t List.mem_cons_self)
    obtain ⟨acts', others⟩ := ih (n := n + (t.evicts m).toNat) (first.grows.proper proper) linked
      (fun t ht => above t (List.mem_cons_of_mem _ ht))
      (fun t ht => called t (List.mem_cons_of_mem _ ht))
      fun t ht => passed t (List.mem_cons_of_mem _ ht)
    have counted : n + (t :: turns).countP (Sweep.Turn.evicts m) =
        n + (t.evicts m).toNat + turns.countP (Sweep.Turn.evicts m) := by
      rw [List.countP_cons]
      cases t.evicts m with
      | true => simp only [if_true, Bool.toNat_true]; omega
      | false => simp
    rw [counted]
    exact ⟨_, first.trans others⟩

/-- A whole sweep lands where it began. -/
theorem complete (proper : w.Proper) (triggered : Triggered s w m) (due : Due w m)
    (idle : (w.manager m).reducing = false) : Lands s s (Sweep.complete ask m) w := by
  have going := Sweep.walk_going ask m (w.manager m).config.target (w.manager m).registry.entries
    (w.updateManager m Manager.beginSweep)
  have begun := Path.one (.sweep triggered due idle) (home_suffix_self s) (home_suffix _ _)
  have proper' := begun.grows.proper proper
  have run := Sweep.complete_apply ask m w
  generalize walked : Sweep.walk ask m (w.manager m).config.target (w.manager m).registry.entries
    (w.updateManager m Manager.beginSweep) = r at going
  cases going with
  | @through turns visits stop course ended counted =>
    rw [bind_of_ok walked, counted] at run
    obtain ⟨acts, rest, entries, path⟩ := follows.course (s := s) (n := 0) proper' course
    rw [Nat.zero_add] at path
    have ended : rest = [] ∨ (stop.manager m).used < (w.manager m).config.target := by
      refine ended.imp_left fun all => ?_
      rw [entries, List.length_append, List.length_map] at all
      exact List.eq_nil_of_length_eq_zero (by omega)
    apply lands_intro
    · intro a v done
      exact ⟨_, .snoc (begun.trans path) (.finish ended (run.symm.trans done)) (home_suffix_self s)⟩
    · intro e v halts
      exact ⟨_, .snoc (begun.trans path) (.finishHalts ended (run.symm.trans halts))
        (List.suffix_refl _)⟩
  | @halted turns t e course next above called halts =>
    rw [bind_of_error walked] at run
    obtain ⟨acts, rest, entries, path⟩ := follows.course (s := s) (n := 0) proper' course
    -- the entries to come begin with the one whose call halts
    obtain ⟨rest, rfl⟩ : ∃ rest', rest = t.entry :: rest' := by
      obtain ⟨rest', others⟩ := next
      refine ⟨rest', List.append_cancel_left (entries.symm.trans ?_)⟩
      rw [← others, List.append_assoc]
      rfl
    obtain ⟨registered, evict⟩ := Sweep.Turn.calls_iff.1 called
    have asked : Asked t.before m (w.manager m).config.target t.id t.object :=
      ⟨above, registered, evict⟩
    have reached := (begun.trans path).grows.proper proper
    apply lands_intro
    · intro a v done
      cases run.symm.trans done
    · intro e' v halts'
      cases run.symm.trans halts'
      obtain ⟨acts', last⟩ := (follows.call (s := s) (r := rest) reached asked).halt halts
      exact ⟨_, (begun.trans path).trans last⟩

/-- An attempt of a sweep lands where it began, swept or not. -/
theorem attempt (proper : w.Proper) (triggered : Due w m → Triggered s w m) :
    Lands s s (Sweep.attempt ask m) w := by
  have stays : home s <:+ s := home_suffix_self s
  by_cases due : Due w m
  · cases busy : (w.manager m).reducing with
    | true =>
      exact lands_of_ok (Sweep.attempt_of_busy ask due busy)
        ⟨_, .one (.suppress (triggered due) due busy) stays stays⟩
    | false =>
      exact (follows.complete proper (triggered due) due busy).congr
        (Sweep.attempt_of_idle ask due busy)
  · exact lands_of_ok (Sweep.attempt_of_not_due ask due) ⟨[], .refl stays⟩

end Follows

/-! ## Registrations -/

/-- Booking an object lands below its registration. -/
theorem lands_book {id : Nat} {o : ObjectRef} :
    Lands (.entering m id o :: s) s (Accounting.book m id o) w := by
  apply lands_intro
  · intro a v done
    exact ⟨_, .one (.settle done) (home_suffix_self _) (home_suffix_self s)⟩
  · intro e v halts
    exact ⟨_, .one (.settleHalts halts) (home_suffix_self _) (List.suffix_refl _)⟩

namespace Follows

variable {ask : ObjectRef → Effect Unit} (follows : Follows ask)

include follows

/-- So does a registration, which may sweep first. -/
theorem register {id : Nat} {o : ObjectRef} (proper : w.Proper) :
    Lands (.entering m id o :: s) s (Sweep.register ask m id o) w := by
  by_cases above : (w.manager m).config.memoryLimit < (w.manager m).used
  · have triggered : Triggered (.entering m id o :: s) w m := .inr ⟨id, o, s, rfl, above⟩
    refine Lands.congr ?_ (register_of_above above)
    exact (follows.attempt proper fun _ => triggered).bind rfl fun _ v _ _ => lands_book
  · exact lands_book.congr (register_of_below above)

/-- After a registration the object is registered. -/
theorem entry_of_register {id : Nat} {o : ObjectRef} (proper : w.Proper)
    (there : m < w.managers.size) (done : Sweep.register ask m id o w = .ok () w') :
    (id, o) ∈ (w'.manager m).registry.entries := by
  by_cases above : (w.manager m).config.memoryLimit < (w.manager m).used
  · rw [register_of_above above] at done
    obtain ⟨_, v, attempted, booked⟩ := ok_of_bind done
    have attempt := follows.attempt (s := []) (m := m) proper fun _ => .inl rfl
    have grows := attempt.grows attempted
    exact Accounting.entry_of_book booked (Nat.lt_of_lt_of_le there grows.managers)
  · rw [register_of_below above] at done
    exact Accounting.entry_of_book done there

/-- Making a graphic lands where it began, if having it made is a step. -/
theorem make {content : Content} {a : Action} (proper : w.Proper)
    (made : ∀ {id g v}, Swapping.create m content w = .ok (id, g) v →
      Step ⟨s, w⟩ a ⟨.entering m id (.graphic g) :: s, v⟩) :
    Lands s s (Swapping.make ask m content) w := by
  have create : Lands s (.entering m (w.manager m).nextId (.graphic w.graphics.size) :: s)
      (Swapping.create m content) w :=
    lands_of_ok rfl ⟨_, .one (made rfl) (home_suffix_self s) (home_suffix _ _)⟩
  refine create.bind rfl fun (id, g) v created grows => ?_
  obtain ⟨rfl, rfl, -⟩ := Swapping.create_ok created
  exact (follows.register (grows.proper proper)).bind rfl fun _ u _ _ => lands_pure _ u

/-- After a graphic was made it is registered under its id. -/
theorem entry_of_make {content : Content} {g : Nat} (proper : w.Proper)
    (there : m < w.managers.size) (done : Swapping.make ask m content w = .ok g w') :
    ((w'.graphic g).id, .graphic g) ∈ (w'.manager (w'.graphic g).manager).registry.entries := by
  obtain ⟨⟨id, g⟩, v, created, done⟩ := ok_of_bind done
  obtain ⟨_, u, registered, rest⟩ := ok_of_bind done
  cases rest
  have proper' := (grows_create created).proper proper
  obtain ⟨made, graphic, size⟩ := Swapping.graphic_of_create created
  have grows := (follows.register (s := []) proper').grows registered
  obtain ⟨id, manager⟩ := grows.identity g made
  rw [id, manager, graphic]
  exact follows.entry_of_register proper' (size ▸ there) registered

end Follows

/-! ## Timers -/

theorem lands_setTimer {timer : Timer} (free : atProgram s = true) :
    Lands s s (change (·.updateManager m (·.setTimer timer))) w :=
  lands_op (o := .setTimer m timer) free trivial

theorem lands_rewind (free : atProgram s = true) :
    Lands s s (change fun w => w.updateManager m (·.rewindTimer w.now)) w := by
  have set : Lands s s (change (·.updateManager m
      (·.setTimer ((w.manager m).rewindTimer w.now).timer))) w := lands_setTimer free
  refine set.congr ?_
  rw [change_apply, change_apply, World.updateManager_rewindTimer]

namespace Follows

variable {ask : ObjectRef → Effect Unit} (follows : Follows ask)

include follows

theorem tick (free : atProgram s = true) (proper : w.Proper) :
    Lands s s (Sweep.tick ask m) w := by
  refine (lands_setTimer free).bind rfl fun _ v _ grows => ?_
  refine (follows.attempt (grows.proper proper) fun _ => .inl free).bind rfl fun _ u _ _ => ?_
  exact lands_rewind free

theorem tickAll (free : atProgram s = true) (managers : List Nat) (proper : w.Proper) :
    Lands s s (Sweep.tickAll ask managers) w := by
  induction managers generalizing w with
  | nil => exact lands_pure () w
  | cons m managers ih =>
    unfold Sweep.tickAll
    refine lands_get ?_
    split
    · exact (follows.tick free proper).bind rfl fun _ v _ grows => ih (grows.proper proper)
    · exact ih proper

theorem advance {span : Span} (free : atProgram s = true) (proper : w.Proper) :
    Lands s s (Sweep.advance ask span) w := by
  refine (lands_op (o := .advance span) free trivial).bind rfl fun _ v _ grows => ?_
  exact follows.tickAll free (List.range v.managers.size) (grows.proper proper)

end Follows

end GraphicCache.Run
