/-
The course of a sweep, whatever its objects do when they are asked to swap out. Asking one may
change the world in any way, so the course is told turn by turn, with the world before and after
each: the turns follow the registry as it was at the start, every turn starts in the world that the
turn before it left, an entry is asked exactly when at its turn it is registered and evicted, and
the walk ends early only once the usage is below the target. What the sweep itself adds to the
evictions is the number of its calls that left their object swapped out.
-/
import GraphicCache.Proofs.Eviction
import GraphicCache.Proofs.Sweep.Record

namespace GraphicCache

open Effect

namespace Sweep

/-! ## Turns -/

/-- A turn of a walk: the entry it came to, and the worlds before and after. -/
structure Turn where
  id : Nat
  object : ObjectRef
  before : World
  after : World

namespace Turn

def entry (t : Turn) : Nat × ObjectRef := (t.id, t.object)

/-- Whether the entry is still registered at its turn, and is one to evict. -/
def calls (m : Nat) (t : Turn) : Bool :=
  (t.before.manager m).registry.contains t.id &&
    (t.before.profile t.object).decide (t.before.manager m).config t.before.now == .evict

/-- Whether the object is asked, and is out afterwards. -/
def evicts (m : Nat) (t : Turn) : Bool := t.calls m && (t.after.profile t.object).swappedOut

/-- The entry may not be asked at its turn. -/
def Spared (m : Nat) (t : Turn) : Prop :=
  (t.before.manager m).registry.contains t.id = false ∨
    (t.before.profile t.object).decide (t.before.manager m).config t.before.now ≠ .evict

/-- The entry may be asked at its turn: it was registered under its id when the sweep began, it
still is, the usage has not fallen below the target, and the object is in memory, large, held by no
operation and idle for long enough. -/
structure Due (m : Nat) (target : Int) (registry : Registry) (t : Turn) : Prop where
  listed : registry.find? t.id = some t.object
  registered : (t.before.manager m).registry.contains t.id = true
  above : target ≤ (t.before.manager m).used
  evict : (t.before.profile t.object).decide (t.before.manager m).config t.before.now = .evict
  inMemory : (t.before.profile t.object).swappedOut = false
  large : largestKept < (t.before.profile t.object).dependableSize
  free : (t.before.profile t.object).active = false
  idle : (t.before.manager m).config.allowedIdle.nanos <
    (Span.ofSeconds ((t.before.profile t.object).idleSeconds t.before.now)).nanos

theorem calls_iff {m : Nat} {t : Turn} :
    t.calls m = true ↔ (t.before.manager m).registry.contains t.id = true ∧
      (t.before.profile t.object).decide (t.before.manager m).config t.before.now = .evict := by
  simp [calls]

theorem calls_or_spared (m : Nat) (t : Turn) : t.calls m = true ∨ t.Spared m := by
  by_cases registered : (t.before.manager m).registry.contains t.id = true
  · by_cases evict :
      (t.before.profile t.object).decide (t.before.manager m).config t.before.now = .evict
    · exact .inl (calls_iff.2 ⟨registered, evict⟩)
    · exact .inr (.inr evict)
  · exact .inr (.inl (by simpa using registered))

end Turn

/-- Every turn starts in the world that the one before it left. -/
def Linked : World → List Turn → World → Prop
  | v, [], v' => v = v'
  | v, t :: turns, v' => t.before = v ∧ Linked t.after turns v'

/-- The turns of a walk over the entries of a snapshot, from one world to another. -/
structure Course (ask : ObjectRef → Effect Unit) (m : Nat) (target : Int)
    (snapshot : List (Nat × ObjectRef)) (start : World) (turns : List Turn) (stop : World) :
    Prop where
  entries : turns.map Turn.entry <+: snapshot
  linked : Linked start turns stop
  above : ∀ t ∈ turns, target ≤ (t.before.manager m).used
  called : ∀ t ∈ turns, t.calls m = true → ask t.object t.before = .ok () t.after
  passed : ∀ t ∈ turns, t.calls m = false → t.after = t.before

namespace Course

variable {ask : ObjectRef → Effect Unit} {m : Nat} {target : Int}
  {snapshot : List (Nat × ObjectRef)} {start stop : World} {turns : List Turn}

theorem nil (w : World) : Course ask m target snapshot w [] w :=
  ⟨List.nil_prefix, rfl, by simp, by simp, by simp⟩

theorem cons {t : Turn} (above : target ≤ (t.before.manager m).used)
    (called : t.calls m = true → ask t.object t.before = .ok () t.after)
    (passed : t.calls m = false → t.after = t.before)
    (h : Course ask m target snapshot t.after turns stop) :
    Course ask m target (t.entry :: snapshot) t.before (t :: turns) stop where
  entries := List.cons_prefix_cons.2 ⟨rfl, h.entries⟩
  linked := ⟨rfl, h.linked⟩
  above := List.forall_mem_cons.2 ⟨above, h.above⟩
  called := List.forall_mem_cons.2 ⟨called, h.called⟩
  passed := List.forall_mem_cons.2 ⟨passed, h.passed⟩

/-- The entry of a turn stands in the snapshot. -/
theorem mem_snapshot (h : Course ask m target snapshot start turns stop) {t : Turn}
    (ht : t ∈ turns) : t.entry ∈ snapshot :=
  h.entries.subset (List.mem_map_of_mem ht)

/-- As many turns as entries are the turns of all entries. -/
theorem all_entries (h : Course ask m target snapshot start turns stop)
    (all : turns.length = snapshot.length) : turns.map Turn.entry = snapshot :=
  h.entries.eq_of_length (by simpa using all)

/-- The ids come up in ascending order if those of the snapshot do. -/
theorem ascending (h : Course ask m target snapshot start turns stop)
    (ordered : snapshot.Pairwise fun a b => a.1 < b.1) :
    ((turns.filter (Turn.calls m)).map Turn.id).Pairwise (· < ·) := by
  have inOrder : (turns.map Turn.entry).Pairwise fun a b => a.1 < b.1 :=
    ordered.sublist h.entries.sublist
  rw [List.pairwise_map] at inOrder ⊢
  exact inOrder.sublist List.filter_sublist

/-- A call comes only when it may. -/
theorem due {registry : Registry}
    (h : Course ask m target registry.entries start turns stop) {t : Turn} (ht : t ∈ turns)
    (calls : t.calls m = true) : t.Due m target registry := by
  obtain ⟨registered, evict⟩ := Turn.calls_iff.1 calls
  obtain ⟨inMemory, large, free, idle⟩ := Profile.decide_eq_evict.1 evict
  exact ⟨Registry.find?_eq_some.2 (h.mem_snapshot ht), registered, h.above t ht, evict, inMemory,
    large, free, idle⟩

/-- What the calls keep, all turns together keep. -/
theorem invariant {I : World → Prop} (h : Course ask m target snapshot start turns stop)
    (asks : ∀ {o v v'}, I v → ask o v = .ok () v' → I v') (first : I start) : I stop := by
  obtain ⟨-, linked, -, called, passed⟩ := h
  induction turns generalizing start with
  | nil => exact linked ▸ first
  | cons t turns ih =>
    obtain ⟨rfl, linked⟩ := linked
    rw [List.forall_mem_cons] at called passed
    have turn : I t.after := by
      cases calls : t.calls m with
      | true => exact asks first (called.1 calls)
      | false => exact passed.1 calls ▸ first
    exact ih turn linked called.2 passed.2

end Course

/-! ## The walk -/

/-- How a walk can go: to its end, or up to a call that does not return. -/
inductive Going (ask : ObjectRef → Effect Unit) (m : Nat) (target : Int)
    (snapshot : List (Nat × ObjectRef)) (start : World) :
    EStateM.Result Script.Halt World (List Visit) → Prop where
  /-- All entries had their turn, or the usage has fallen below the target. -/
  | through {turns : List Turn} {visits : List Visit} {stop : World}
      (course : Course ask m target snapshot start turns stop)
      (done : turns.length = snapshot.length ∨ (stop.manager m).used < target)
      (counted : visits.countP Visit.isEviction = turns.countP (Turn.evicts m)) :
      Going ask m target snapshot start (.ok visits stop)
  /-- The last turn is a call that ends in a halt. -/
  | halted {turns : List Turn} {t : Turn} {e : Script.Halt}
      (course : Course ask m target snapshot start turns t.before)
      (next : turns.map Turn.entry ++ [t.entry] <+: snapshot)
      (above : target ≤ (t.before.manager m).used) (called : t.calls m = true)
      (halts : ask t.object t.before = .error e t.after) :
      Going ask m target snapshot start (.error e t.after)

variable {ask : ObjectRef → Effect Unit} {m : Nat} {target : Int}

/-- A turn before the rest of a walk, with the visit that answers for it. -/
theorem Going.cons {t : Turn} {rest : List (Nat × ObjectRef)} (visit : Visit)
    {others : Effect (List Visit)} (above : target ≤ (t.before.manager m).used)
    (called : t.calls m = true → ask t.object t.before = .ok () t.after)
    (passed : t.calls m = false → t.after = t.before)
    (visited : visit.isEviction = t.evicts m)
    (h : Going ask m target rest t.after (others t.after)) :
    Going ask m target (t.entry :: rest) t.before
      ((do return visit :: (← others) : Effect (List Visit)) t.after) := by
  generalize ho : others t.after = r at h
  cases h with
  | through course done counted =>
    rw [bind_of_ok ho]
    refine .through (course.cons above called passed) (done.imp_left fun h => by simp [h]) ?_
    rw [List.countP_cons, List.countP_cons, counted, visited]
  | halted course next above' called' halts =>
    rw [bind_of_error ho]
    exact .halted (course.cons above called passed) (List.cons_prefix_cons.2 ⟨rfl, next⟩) above'
      called' halts

theorem walk_going (ask : ObjectRef → Effect Unit) (m : Nat) (target : Int) :
    ∀ (snapshot : List (Nat × ObjectRef)) (w : World),
      Going ask m target snapshot w (walk ask m target snapshot w)
  | [], w => .through (.nil w) (.inl rfl) rfl
  | (id, o) :: rest, w => by
    unfold walk
    rw [get_bind_apply]
    split
    · next below => exact .through (.nil w) (.inr below) rfl
    · next above =>
      have above : target ≤ (w.manager m).used := by omega
      split
      · next gone =>
        -- passed over: the turn leaves the world as it found it
        have missed : Turn.calls m ⟨id, o, w, w⟩ = false := by simp_all [Turn.calls]
        exact Going.cons (t := ⟨id, o, w, w⟩) (.gone id) above (by simp [missed]) (fun _ => rfl)
          (by simp [Turn.evicts, missed, Visit.isEviction]) (walk_going ask m target rest w)
      · next there =>
        have there : (w.manager m).registry.contains id = true := by simpa using there
        cases decision : (w.profile o).decide (w.manager m).config w.now with
        | evict =>
          have called (v : World) : Turn.calls m ⟨id, o, w, v⟩ = true :=
            Turn.calls_iff.2 ⟨there, decision⟩
          cases asked : ask o w with
          | ok _ v =>
            dsimp only
            rw [bind_of_ok asked, get_bind_apply]
            exact Going.cons (t := ⟨id, o, w, v⟩) (.asked id (v.profile o).swappedOut) above
              (fun _ => asked) (by simp [called]) (by simp [Turn.evicts, called, Visit.isEviction])
              (walk_going ask m target rest v)
          | error e v =>
            dsimp only
            rw [bind_of_error asked]
            exact Going.halted (t := ⟨id, o, w, v⟩) (.nil w) (by simp [Turn.entry]) above (called v)
              asked
        | alreadySwappedOut | tooSmall | activeOperation | recentlyUsed =>
          have missed : Turn.calls m ⟨id, o, w, w⟩ = false := by simp [Turn.calls, decision]
          exact Going.cons (t := ⟨id, o, w, w⟩) (.spared id _) above (by simp [missed])
            (fun _ => rfl) (by simp [Turn.evicts, missed, Visit.isEviction])
            (walk_going ask m target rest w)

/-! ## The sweep -/

/-- A sweep walks the registry it found and finishes with the evictions it counted. -/
theorem complete_apply (ask : ObjectRef → Effect Unit) (m : Nat) (w : World) :
    complete ask m w =
      (walk ask m (w.manager m).config.target (w.manager m).registry.entries >>= fun visits =>
        finish m (visits.countP Visit.isEviction)) (w.updateManager m Manager.beginSweep) := by
  have config : ((w.updateManager m Manager.beginSweep).manager m).config = (w.manager m).config :=
    w.updateManager_keeps m m fun _ => rfl
  have registry :
      ((w.updateManager m Manager.beginSweep).manager m).registry = (w.manager m).registry :=
    w.updateManager_keeps m m fun _ => rfl
  unfold complete
  rw [change_bind_apply, get_bind_apply, config, registry]

/-- A sweep that comes to its end has walked the registry, and was finished where its turns led. -/
theorem course_of_complete {w w' : World} (done : complete ask m w = .ok () w') :
    ∃ turns stop, Course ask m (w.manager m).config.target (w.manager m).registry.entries
        (w.updateManager m Manager.beginSweep) turns stop ∧
      (turns.length = (w.manager m).registry.entries.length ∨
        (stop.manager m).used < (w.manager m).config.target) ∧
      finish m (turns.countP (Turn.evicts m)) stop = .ok () w' := by
  have going := walk_going ask m (w.manager m).config.target (w.manager m).registry.entries
    (w.updateManager m Manager.beginSweep)
  rw [complete_apply] at done
  obtain ⟨visits, stop, walked, finished⟩ := ok_of_bind done
  rw [walked] at going
  cases going with
  | @through turns _ _ course ended counted =>
    exact ⟨turns, stop, course, ended, counted ▸ finished⟩

/-- Whatever its objects do, a sweep asks entries of the registry it found at its start only, in
ascending order of their ids and each at most once; at the moment of a call the id is registered,
the object is one to evict, and the usage has not fallen below the target. An entry it does not ask
was, at its turn, registered no more or none to evict, or the usage had fallen below the target by
then. To the evictions it adds its calls that left their object swapped out. Only a call that does
not return ends it otherwise. -/
theorem sweep_takes_its_course (ask : ObjectRef → Effect Unit) (m : Nat) (w : World) :
    ∃ turns stop,
      Course ask m (w.manager m).config.target (w.manager m).registry.entries
        (w.updateManager m Manager.beginSweep) turns stop ∧
      ((turns.filter (Turn.calls m)).map Turn.id).Pairwise (· < ·) ∧
      (∀ t ∈ turns, t.calls m = true →
        t.Due m (w.manager m).config.target (w.manager m).registry) ∧
      (((∀ e ∈ (w.manager m).registry.entries,
            (∃ t ∈ turns, t.entry = e ∧ (t.calls m = true ∨ t.Spared m)) ∨
              (stop.manager m).used < (w.manager m).config.target) ∧
          complete ask m w = finish m (turns.countP (Turn.evicts m)) stop ∧
          ∀ w', complete ask m w = .ok () w' → m < stop.managers.size →
            (w'.manager m).counters.evictions =
              (stop.manager m).counters.evictions + turns.countP (Turn.evicts m)) ∨
        ∃ id o e w', turns.map Turn.entry ++ [(id, o)] <+: (w.manager m).registry.entries ∧
          ask o stop = .error e w' ∧ complete ask m w = .error e w') := by
  have going := walk_going ask m (w.manager m).config.target (w.manager m).registry.entries
    (w.updateManager m Manager.beginSweep)
  have run := complete_apply ask m w
  generalize walked : walk ask m (w.manager m).config.target (w.manager m).registry.entries
    (w.updateManager m Manager.beginSweep) = r at going
  cases going with
  | @through turns visits stop course done counted =>
    refine ⟨turns, stop, course, course.ascending (w.manager m).registry.ordered,
      fun t => course.due, .inl ?_⟩
    rw [bind_of_ok walked, counted] at run
    refine ⟨?_, run, ?_⟩
    · intro e he
      rcases done with all | below
      · obtain ⟨t, ht, rfl⟩ := List.mem_map.1 (course.all_entries all ▸ he)
        exact .inl ⟨t, ht, rfl, t.calls_or_spared m⟩
      · exact .inr below
    · intro w' h hm
      rw [run] at h
      exact congrArg Record.evictions (record_finish h hm)
  | @halted turns t e course next above called halts =>
    rw [bind_of_error walked] at run
    exact ⟨turns, t.before, course, course.ascending (w.manager m).registry.ordered,
      fun t => course.due, .inr ⟨t.id, t.object, e, t.after, next, halts, run⟩⟩

end Sweep

end GraphicCache
