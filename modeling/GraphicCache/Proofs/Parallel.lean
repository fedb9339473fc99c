/-
Effects in two worlds at once. Two worlds that differ in nothing but when the timers of their
managers ring are taken along by whatever the library does: it answers the same in both, or halts in
both, and the worlds it leaves are related as before. That holds of every relation that is closed
under the single changes of which the library is made up. What the library preserves in a single
world is the diagonal of it.
-/
import GraphicCache.Proofs.Handling
import GraphicCache.Proofs.Swapping

namespace GraphicCache

open Effect

/-! ## Worlds that look alike -/

/-- The worlds differ at most in the timers of their managers, and the same timers run in both. -/
structure World.Alike (w v : World) : Prop where
  rest : v = { w with managers := v.managers }
  size : v.managers.size = w.managers.size
  manager : ∀ m, v.manager m = (w.manager m).setTimer (v.manager m).timer
  running : ∀ m, (v.manager m).timer.isRunning = (w.manager m).timer.isRunning

namespace World.Alike

variable {w v : World}

theorem refl (w : World) : Alike w w := ⟨rfl, rfl, fun _ => rfl, fun _ => rfl⟩

/-- What does not depend on managers is the same in both. -/
theorem same {γ : Type} {q : World → γ} (h : Alike w v)
    (hq : ∀ managers, q { w with managers := managers } = q w) : q v = q w := by
  rw [h.rest]
  exact hq _

/-- What does not depend on timers is the same of every manager. -/
theorem keeps (h : Alike w v) {γ : Type} {q : Manager → γ}
    (hq : ∀ x timer, q (x.setTimer timer) = q x) (m : Nat) : q (v.manager m) = q (w.manager m) := by
  rw [h.manager m]
  exact hq _ _

theorem graphic (h : Alike w v) (g : Nat) : v.graphic g = w.graphic g :=
  h.same (q := fun u => u.graphic g) fun _ => rfl

theorem profile (h : Alike w v) (o : ObjectRef) : v.profile o = w.profile o :=
  h.same (q := fun u => u.profile o) fun _ => by cases o <;> rfl

theorem object (h : Alike w v) (o : Nat) : v.object o = w.object o :=
  h.same (q := fun u => u.object o) fun _ => rfl

theorem accounted (h : Alike w v) (o : ObjectRef) : v.accounted o = w.accounted o := by
  unfold World.accounted
  rw [h.profile]

theorem now (h : Alike w v) : v.now = w.now := h.same (q := World.now) fun _ => rfl

theorem storageBroken (h : Alike w v) : v.storageBroken = w.storageBroken :=
  h.same (q := World.storageBroken) fun _ => rfl

theorem graphics (h : Alike w v) : v.graphics = w.graphics :=
  h.same (q := World.graphics) fun _ => rfl

theorem handles (h : Alike w v) : v.handles = w.handles := h.same (q := World.handles) fun _ => rfl

theorem held (h : Alike w v) : v.held = w.held := h.same (q := World.held) fun _ => rfl

theorem ids (h : Alike w v) : v.ids = w.ids := h.same (q := World.ids) fun _ => rfl

theorem isHeld (h : Alike w v) (g : Nat) : v.isHeld g = w.isHeld g :=
  h.same (q := fun u => u.isHeld g) fun _ => rfl

theorem used (h : Alike w v) (m : Nat) : (v.manager m).used = (w.manager m).used :=
  h.keeps (fun _ _ => rfl) m

theorem registry (h : Alike w v) (m : Nat) : (v.manager m).registry = (w.manager m).registry :=
  h.keeps (fun _ _ => rfl) m

theorem config (h : Alike w v) (m : Nat) : (v.manager m).config = (w.manager m).config :=
  h.keeps (fun _ _ => rfl) m

theorem nextId (h : Alike w v) (m : Nat) : (v.manager m).nextId = (w.manager m).nextId :=
  h.keeps (fun _ _ => rfl) m

theorem reducing (h : Alike w v) (m : Nat) : (v.manager m).reducing = (w.manager m).reducing :=
  h.keeps (fun _ _ => rfl) m

theorem contributions (h : Alike w v) (m : Nat) :
    Accounting.contributions v m = Accounting.contributions w m := by
  unfold Accounting.contributions
  rw [h.registry]
  simp only [h.accounted]

end World.Alike

/-! ## Agreement -/

/-- The effect answers the same in both worlds, or halts in both for the same reason, and leaves
related worlds. -/
inductive Agrees (R : World → World → Prop) {α : Type} (x : Effect α) (w v : World) : Prop where
  | ends {a : α} {w' v' : World} (first : x w = .ok a w') (second : x v = .ok a v')
      (related : R w' v')
  | halts {e : Script.Halt} {w' v' : World} (first : x w = .error e w')
      (second : x v = .error e v') (related : R w' v')

section Rules

variable {α β : Type} {R : World → World → Prop} {w v : World} {x : Effect α} {f : α → Effect β}

theorem agrees_pure (h : R w v) (a : α) : Agrees R (pure a : Effect α) w v := .ends rfl rfl h

theorem agrees_throw (h : R w v) (e : Script.Halt) : Agrees R (throw e : Effect α) w v :=
  .halts rfl rfl h

theorem agrees_ofExcept (h : R w v) (r : Except Overflow α) : Agrees R (ofExcept r) w v := by
  cases r with
  | ok a => exact agrees_pure h a
  | error e => exact agrees_throw h (.overflow e)

theorem agrees_change {f : World → World} (h : R (f w) (f v)) : Agrees R (change f) w v :=
  .ends rfl rfl h

/-- What is done next depends on nothing in which the worlds differ. -/
theorem agrees_get {f : World → Effect α} (same : f v = f w) (h : Agrees R (f w) w v) :
    Agrees R (get >>= f) w v := by
  cases h with
  | ends first second related =>
    exact .ends first ((congrFun same v).trans second) related
  | halts first second related =>
    exact .halts first ((congrFun same v).trans second) related

namespace Agrees

theorem bind (h : Agrees R x w v)
    (next : ∀ a w' v', x w = .ok a w' → R w' v' → Agrees R (f a) w' v') :
    Agrees R (x >>= f) w v := by
  cases h with
  | ends first second related =>
    cases next _ _ _ first related with
    | ends first' second' related =>
      exact .ends ((bind_of_ok first).trans first') ((bind_of_ok second).trans second') related
    | halts first' second' related =>
      exact .halts ((bind_of_ok first).trans first') ((bind_of_ok second).trans second') related
  | halts first second related =>
    exact .halts (bind_of_error first) (bind_of_error second) related

/-- Answering something else makes no difference. -/
theorem answer (h : Agrees R x w v) (f : α → β) :
    Agrees R (do return f (← x)) w v :=
  h.bind fun a _ _ _ related => agrees_pure related (f a)

theorem left (h : Agrees R x w v) : R (left x w) (left x v) := by
  cases h with
  | ends first second related => rwa [left_of_ok first, left_of_ok second]
  | halts first second related => rwa [left_of_error first, left_of_error second]

/-- Cleaning up, too, is done in both worlds. -/
theorem ensuring {cleanup : Effect Unit} (h : Agrees R x w v)
    (cleans : ∀ w' v', R w' v' → Agrees R cleanup w' v') :
    Agrees R (ensuring x cleanup) w v := by
  cases h with
  | @ends a w' v' first second related =>
    cases (cleans _ _ related).answer fun _ => a with
    | ends first' second' related =>
      exact .ends ((ensuring_of_ok first).trans first') ((ensuring_of_ok second).trans second') related
    | halts first' second' related =>
      exact .halts ((ensuring_of_ok first).trans first') ((ensuring_of_ok second).trans second')
        related
  | halts first second related =>
    exact .halts (ensuring_of_error first) (ensuring_of_error second) (cleans _ _ related).left

end Agrees

end Rules

/-! ## What the library is made up of -/

/-- The change of a manager concerns neither its timer nor its settings. -/
structure Untimed (f : Manager → Manager) : Prop where
  config : ∀ x, (f x).config = x.config
  timer : ∀ x timer, f (x.setTimer timer) = (f x).setTimer timer

theorem Untimed.keeps {f : Manager → Manager} (h : Untimed f) (x : Manager) :
    (f x).timer = x.timer :=
  (congrArg Manager.timer (h.timer x x.timer) :)

theorem untimed_setUsed (used : Int) : Untimed (·.setUsed used) := ⟨fun _ => rfl, fun _ _ => rfl⟩

theorem untimed_takeId : Untimed Manager.takeId := ⟨fun _ => rfl, fun _ _ => rfl⟩

theorem untimed_enter (id : Nat) (o : ObjectRef) : Untimed (·.enter id o) :=
  ⟨fun _ => rfl, fun _ _ => rfl⟩

theorem untimed_forget (id : Nat) : Untimed (·.forget id) := ⟨fun _ => rfl, fun _ _ => rfl⟩

theorem untimed_beginSweep : Untimed Manager.beginSweep := ⟨fun _ => rfl, fun _ _ => rfl⟩

theorem untimed_countSuppressed : Untimed Manager.countSuppressed :=
  ⟨fun _ => rfl, fun _ _ => rfl⟩

theorem untimed_countSweep (evicted : Nat) (now : Moment) :
    Untimed fun x => { x.countSweep evicted now with reducing := false } :=
  ⟨fun _ => rfl, fun _ _ => rfl⟩

theorem untimed_correct (calculated : Int) : Untimed (·.correct calculated) := by
  constructor
  · intro x
    dsimp only [Manager.correct]
    split <;> rfl
  · intro x timer
    dsimp only [Manager.correct, Manager.setTimer]
    split <;> rfl

/-- A relation of worlds is closed under the single changes that the library makes. It admits some
managers: only these have handles, and only they come to have more. -/
structure Library (A : Nat → Prop) (R : World → World → Prop) : Prop where
  alike : ∀ {w v}, R w v → w.Alike v
  admits : ∀ {w v m}, R w v → w.isAlive m = true → A m
  books : ∀ {w v m} {f : Manager → Manager}, Untimed f → R w v →
    R (w.updateManager m f) (v.updateManager m f)
  graphics : ∀ {w v g} {f : Graphic → Graphic}, (∀ x, (f x).manager = x.manager) → R w v →
    R (w.updateGraphic g f) (v.updateGraphic g f)
  makes : ∀ {w v} {x : Graphic}, A x.manager → R w v → R (w.addGraphic x) (v.addGraphic x)
  hands : ∀ {w v} {handles : Names Handle} {held : List Nat} {ids : Names Nat},
    (∀ e ∈ handles, A (w.managerOf e.2)) → (∀ g ∈ held, A (w.graphic g).manager) → R w v →
      R { w with handles := handles, held := held, ids := ids }
        { v with handles := handles, held := held, ids := ids }
  guards : ∀ {w v} {guards : Names Nat}, R w v →
    R { w with guards := guards } { v with guards := guards }

/-- What is said of a single world is closed under these changes. -/
structure LibraryInvariant (A : Nat → Prop) (I : World → Prop) : Prop where
  admits : ∀ {w m}, I w → w.isAlive m = true → A m
  books : ∀ {w m} {f : Manager → Manager}, Untimed f → I w → I (w.updateManager m f)
  graphics : ∀ {w g} {f : Graphic → Graphic}, (∀ x, (f x).manager = x.manager) → I w →
    I (w.updateGraphic g f)
  makes : ∀ {w} {x : Graphic}, A x.manager → I w → I (w.addGraphic x)
  hands : ∀ {w} {handles : Names Handle} {held : List Nat} {ids : Names Nat},
    (∀ e ∈ handles, A (w.managerOf e.2)) → (∀ g ∈ held, A (w.graphic g).manager) → I w →
      I { w with handles := handles, held := held, ids := ids }
  guards : ∀ {w} {guards : Names Nat}, I w → I { w with guards := guards }

/-- Then it is a relation of a world to itself that the library takes along. -/
theorem LibraryInvariant.library {A : Nat → Prop} {I : World → Prop} (inv : LibraryInvariant A I) :
    Library A fun w v => v = w ∧ I w where
  alike := by
    rintro w v ⟨rfl, -⟩
    exact .refl v
  admits h := inv.admits h.2
  books hf := by
    rintro ⟨rfl, h⟩
    exact ⟨rfl, inv.books hf h⟩
  graphics same := by
    rintro ⟨rfl, h⟩
    exact ⟨rfl, inv.graphics same h⟩
  makes admitted := by
    rintro ⟨rfl, h⟩
    exact ⟨rfl, inv.makes admitted h⟩
  hands handles held := by
    rintro ⟨rfl, h⟩
    exact ⟨rfl, inv.hands handles held h⟩
  guards := by
    rintro _ _ _ ⟨rfl, h⟩
    exact ⟨rfl, inv.guards h⟩

namespace World

variable {w : World} {m : Nat}

/-- A handle keeps its manager alive. -/
theorem alive_of_handle {e : String × Handle} (h : e ∈ w.handles) :
    w.isAlive (w.managerOf e.2) = true := by
  unfold isAlive
  have kept : w.handles.any (fun e' => w.managerOf e'.2 == w.managerOf e.2) = true :=
    List.any_eq_true.2 ⟨e, h, beq_self_eq_true _⟩
  simp [kept]

theorem alive_of_held {g : Nat} (h : g ∈ w.held) : w.isAlive (w.graphic g).manager = true := by
  unfold isAlive
  have kept : w.held.any (fun g' => (w.graphic g').manager == (w.graphic g).manager) = true :=
    List.any_eq_true.2 ⟨g, h, beq_self_eq_true _⟩
  simp [kept]

end World

namespace Library

variable {A : Nat → Prop} {R : World → World → Prop} (lib : Library A R)
  {w v : World} {m g id : Nat} {o : ObjectRef} {bytes : Int}

include lib

/-! ## Accounts -/

theorem credit (h : R w v) : Agrees R (Accounting.credit m bytes) w v := by
  refine agrees_get (by simp only [(lib.alike h).used]) ?_
  exact (agrees_ofExcept h _).bind fun used _ _ _ h =>
    agrees_change (lib.books (untimed_setUsed used) h)

theorem debit (h : R w v) : Agrees R (Accounting.debit m bytes) w v := by
  refine agrees_get (by simp only [(lib.alike h).used]) ?_
  exact (agrees_ofExcept h _).bind fun used _ _ _ h =>
    agrees_change (lib.books (untimed_setUsed used) h)

theorem reconcile (h : R w v) : Agrees R (Accounting.reconcile m) w v := by
  refine agrees_get (by simp only [(lib.alike h).contributions]) ?_
  exact (agrees_ofExcept h _).bind fun total _ _ _ h =>
    agrees_change (lib.books (untimed_correct total) h)

theorem audit (h : R w v) : Agrees R (Accounting.audit m) w v := by
  refine (lib.reconcile h).bind fun _ _ _ _ h => ?_
  exact agrees_get (by simp only [(lib.alike h).used]) (agrees_pure h _)

theorem announceResize (h : R w v) : Agrees R (Accounting.announceResize m id bytes) w v := by
  have alike := lib.alike h
  refine agrees_get (by simp only [alike.registry, alike.profile]) ?_
  split
  · exact agrees_pure h ()
  · exact (agrees_ofExcept h _).bind fun growth _ _ _ h => lib.credit h

theorem freshId (h : R w v) : Agrees R (Accounting.freshId m) w v := by
  refine agrees_get (by simp only [(lib.alike h).nextId]) ?_
  exact (agrees_change (lib.books untimed_takeId h)).bind fun _ _ _ _ h => agrees_pure h _

theorem book (h : R w v) : Agrees R (Accounting.book m id o) w v := by
  refine agrees_get (by simp only [(lib.alike h).accounted]) ?_
  refine (lib.credit h).bind fun _ _ _ _ h => ?_
  exact Agrees.bind (agrees_change (lib.books (untimed_enter id o) h)) fun _ _ _ _ h =>
    lib.reconcile h

theorem unregister (h : R w v) : Agrees R (Accounting.unregister m id) w v := by
  have alike := lib.alike h
  refine agrees_get (by simp only [alike.registry, alike.accounted]) ?_
  split
  · exact agrees_pure h ()
  · exact (agrees_change (lib.books (untimed_forget id) h)).bind fun _ _ _ _ h => lib.debit h

/-! ## Swapping -/

theorem setContent {content : Content} (h : R w v) :
    R (w.setContent g content) (v.setContent g content) :=
  lib.graphics (fun _ => rfl) h

theorem swapOut (h : R w v) : Agrees R (Swapping.swapOut g) w v := by
  have alike := lib.alike h
  refine agrees_get (by simp only [alike.graphic, alike.storageBroken]) ?_
  dsimp only
  split
  · exact agrees_pure h _
  · split
    · exact agrees_pure h _
    · exact agrees_pure h _
    · refine (agrees_change (lib.setContent h)).bind fun _ _ _ _ h => ?_
      exact (lib.debit h).bind fun _ _ _ _ h => agrees_pure h _

theorem swapIn (h : R w v) : Agrees R (Swapping.swapIn g) w v := by
  have alike := lib.alike h
  refine agrees_get (by simp only [alike.graphic, alike.now]) ?_
  dsimp only
  split
  · exact agrees_pure h _
  · exact agrees_pure h _
  · refine (agrees_change (lib.setContent h)).bind fun _ _ _ _ h => ?_
    exact (lib.credit h).bind fun _ _ _ _ h => agrees_pure h _

theorem setLastUsed {lastUsed : Moment} (h : R w v) :
    Agrees R (Swapping.setLastUsed g lastUsed) w v :=
  agrees_change (lib.graphics (fun _ => rfl) h)

theorem beginOperation (h : R w v) : Agrees R (Swapping.beginOperation g) w v :=
  agrees_change (lib.graphics (fun _ => rfl) h)

theorem endOperation (h : R w v) : Agrees R (Swapping.endOperation g) w v :=
  agrees_change (lib.graphics (fun _ => rfl) h)

theorem fetch (h : R w v) : Agrees R (Swapping.fetch g) w v := by
  refine agrees_get (by simp only [(lib.alike h).now]) ?_
  refine (lib.setLastUsed h).bind fun _ _ _ _ h => (lib.swapIn h).bind fun r _ _ _ h => ?_
  cases r with
  | error fault => exact agrees_pure h _
  | ok restored =>
    refine agrees_get (by simp only [(lib.alike h).graphic]) ?_
    split
    · exact agrees_pure h _
    · exact agrees_pure h _

/-- What is done with a payload is done in both worlds. -/
theorem use {α : Type} {body : Payload → Effect α} (h : R w v)
    (inside : ∀ p w' v', R w' v' → Agrees R (body p) w' v') :
    Agrees R (Swapping.use g body) w v := by
  refine (lib.beginOperation h).bind fun _ _ _ _ h => ?_
  refine Agrees.ensuring ?_ fun _ _ h => lib.endOperation h
  refine (lib.fetch h).bind fun r _ _ _ h => ?_
  cases r with
  | error fault => exact agrees_pure h _
  | ok p => exact (inside p _ _ h).answer _

theorem replace {p : Payload} (h : R w v) : Agrees R (Swapping.replace g p) w v := by
  have alike := lib.alike h
  refine agrees_get (by simp only [alike.graphic, alike.now]) ?_
  exact (agrees_change (lib.setContent h)).bind fun _ _ _ _ h => lib.announceResize h

theorem create {content : Content} (admitted : A m) (h : R w v) :
    Agrees R (Swapping.create m content) w v := by
  refine (lib.freshId h).bind fun id w' v' _ h => ?_
  refine agrees_get (by simp only [(lib.alike h).graphics]) ?_
  exact (agrees_change (lib.makes admitted h)).answer fun _ => (id, w'.graphics.size)

/-! ## Handles -/

theorem release {handle : Handle} (h : R w v) : Agrees R (Handling.release handle) w v := by
  cases handle with
  | graphic g =>
    have alike := lib.alike h
    refine agrees_get (by simp only [alike.isHeld, alike.graphic]) ?_
    split
    · exact agrees_pure h ()
    · exact lib.unregister h
  | registration m id => exact lib.unregister h

/-- What has handles is admitted. -/
theorem handles_admitted (h : R w v) : ∀ e ∈ w.handles, A (w.managerOf e.2) :=
  fun _ he => lib.admits h (World.alive_of_handle he)

theorem held_admitted (h : R w v) : ∀ g ∈ w.held, A (w.graphic g).manager :=
  fun _ hg => lib.admits h (World.alive_of_held hg)

theorem bind {name : String} {handle : Handle} (admitted : A (w.managerOf handle)) (h : R w v) :
    Agrees R (Handling.bind name handle id) w v := by
  have alike := lib.alike h
  refine agrees_get (by simp only [alike.handles]) ?_
  refine Agrees.bind (agrees_change ?_) fun _ _ _ _ h => ?_
  · rw [alike.handles, alike.ids, alike.held]
    refine lib.hands (fun e he => ?_) (lib.held_admitted h) h
    rcases Names.mem_put he with rfl | old
    · exact admitted
    · exact lib.handles_admitted h e old
  · split
    · exact agrees_pure h ()
    · exact lib.release h

theorem drop {name : String} (h : R w v) : Agrees R (Handling.drop name) w v := by
  have alike := lib.alike h
  refine agrees_get (by simp only [alike.handles]) ?_
  split
  · exact agrees_pure h _
  · refine Agrees.bind (agrees_change ?_) fun _ _ _ _ h => (lib.release h).answer fun _ => true
    rw [alike.handles, alike.ids, alike.held]
    exact lib.hands (fun e he => lib.handles_admitted h e (List.mem_filter.1 he).1)
      (lib.held_admitted h) h

theorem letGo (h : R w v) : Agrees R (Handling.letGo g) w v := by
  have alike := lib.alike h
  refine Agrees.bind (agrees_change ?_) fun _ _ _ _ h => lib.release h
  rw [alike.handles, alike.ids, alike.held]
  exact lib.hands (lib.handles_admitted h)
    (fun k hk => lib.held_admitted h k (List.mem_of_mem_erase hk)) h

/-- What is done with a temporary handle is done in both worlds. -/
theorem withHandle {α : Type} {x : Effect α} (admitted : A (w.graphic g).manager) (h : R w v)
    (inside : ∀ w' v', A (w'.graphic g).manager → R w' v' → Agrees R x w' v') :
    Agrees R (Handling.withHandle g x) w v := by
  have alike := lib.alike h
  have hold : Agrees R (change fun w => { w with held := g :: w.held }) w v := by
    refine agrees_change ?_
    rw [alike.handles, alike.ids, alike.held]
    refine lib.hands (lib.handles_admitted h) (fun k hk => ?_) h
    rcases List.mem_cons.1 hk with rfl | old
    · exact admitted
    · exact lib.held_admitted h k old
  refine hold.bind fun _ w' v' done h' => ?_
  cases done
  refine (inside _ _ ?_ h').ensuring fun _ _ h => lib.letGo h
  exact admitted

/-! ## Sweeps -/

theorem finish {n : Nat} (h : R w v) : Agrees R (Sweep.finish m n) w v := by
  refine (lib.reconcile h).bind fun _ w' v' _ h => agrees_change ?_
  rw [(lib.alike h).now]
  exact lib.books (untimed_countSweep n w'.now) h

section Asking

variable {ask : ObjectRef → Effect Unit}
  (asks : ∀ o w v, R w v → Agrees R (ask o) w v)

include asks

/-- The walk asks the same objects in both worlds. -/
theorem walk {target : Int} {entries : List (Nat × ObjectRef)} (h : R w v) :
    Agrees R (Sweep.walk ask m target entries) w v := by
  induction entries generalizing w v with
  | nil => exact agrees_pure h _
  | cons e rest ih =>
    have alike := lib.alike h
    refine agrees_get (by
      simp only [alike.used, alike.registry, alike.profile, alike.config, alike.now]) ?_
    split
    · exact agrees_pure h _
    · split
      · exact (ih h).answer _
      · split
        · refine (asks e.2 w v h).bind fun _ w' v' _ h => ?_
          refine agrees_get (by simp only [(lib.alike h).profile]) ?_
          exact (ih h).answer _
        · exact (ih h).answer _

theorem complete (h : R w v) : Agrees R (Sweep.complete ask m) w v := by
  refine (agrees_change (lib.books untimed_beginSweep h)).bind fun _ w' v' _ h => ?_
  refine agrees_get (by simp only [(lib.alike h).config, (lib.alike h).registry]) ?_
  exact (lib.walk asks h).bind fun visits _ _ _ h => lib.finish h

theorem attempt (h : R w v) : Agrees R (Sweep.attempt ask m) w v := by
  have alike := lib.alike h
  refine agrees_get (by simp only [alike.config, alike.used, alike.reducing]) ?_
  dsimp only
  split
  · exact agrees_pure h ()
  · split
    · exact agrees_pure h ()
    · split
      · exact agrees_change (lib.books untimed_countSuppressed h)
      · exact lib.complete asks h

theorem register (h : R w v) : Agrees R (Sweep.register ask m id o) w v := by
  have alike := lib.alike h
  refine agrees_get (by simp only [alike.config, alike.used]) ?_
  dsimp only
  split
  · exact (lib.attempt asks h).bind fun _ _ _ _ h => lib.book h
  · exact lib.book h

theorem make {content : Content} (admitted : A m) (h : R w v) :
    Agrees R (Swapping.make ask m content) w v :=
  (lib.create admitted h).bind fun _ _ _ _ h => (lib.register asks h).answer _

theorem copy (admitted : A m) (h : R w v) : Agrees R (Swapping.copy ask m g) w v := by
  have alike := lib.alike h
  refine agrees_get (by simp only [alike.graphic, alike.now]) ?_
  split
  · exact agrees_pure h _
  · exact (lib.make asks admitted h).answer _

end Asking

end Library

end GraphicCache
