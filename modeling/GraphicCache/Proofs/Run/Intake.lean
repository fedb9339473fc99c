/-
Taking in graphics. A graphic is made, room is made for it among the graphics that its manager has
already, and then it is entered. What is made of the room depends on those graphics only, so it is
the same for every newcomer, and for every object that is registered in its place. A manager in
order that has the room takes the newcomer in and is in order again, with nothing to put right.
-/
import GraphicCache.Proofs.Run.Admission
import GraphicCache.Proofs.Run.Greed

namespace GraphicCache

open Effect

namespace Run

open Swapping Sweep Accounting

variable {ask : ObjectRef → Effect Unit} {m g id : Nat} {o : ObjectRef} {w v u : World}

/-- What has an entry was made. -/
theorem made_of_entry {entries : List (Nat × ObjectRef)} (hosts : Hosts w m entries)
    (entry : .graphic g ∈ entries.map Prod.snd) : g < w.graphics.size := by
  obtain ⟨e, listed, object⟩ := List.mem_map.1 entry
  obtain ⟨h, object', made, -⟩ := hosts.graphics e listed
  cases object.symm.trans object'
  exact made

/-! ## Later worlds -/

/-- The manager may have handed out ids, and further graphics may have been made; nothing else that
matters for a sweep of the manager has changed. -/
structure Furthered (m : Nat) (w v : World) : Prop where
  managers : v.managers.size = w.managers.size
  manager : v.manager m = { w.manager m with nextId := (v.manager m).nextId }
  made : w.graphics.size ≤ v.graphics.size
  graphics : ∀ g < w.graphics.size, v.graphic g = w.graphic g
  now : v.now = w.now
  storage : v.storageBroken = w.storageBroken

namespace Furthered

/-- So it is when a graphic is made. -/
theorem created (m : Nat) (w : World) (content : Content) :
    Furthered m w (created w m content) where
  managers := w.size_updateManager m _
  manager := by
    unfold Swapping.created
    rw [World.manager_addGraphic, World.manager_updateManager]
    split
    · rfl
    · rfl
  made := by
    unfold Swapping.created
    rw [World.size_addGraphic]
    exact Nat.le_succ _
  graphics h made := by
    have old : h ≠ (w.updateManager m Manager.takeId).graphics.size := Nat.ne_of_lt made
    unfold Swapping.created
    rw [World.graphic_addGraphic, if_neg old]
    rfl
  now := rfl
  storage := rfl

section Kept

variable (later : Furthered m w v)

include later

theorem registry : (v.manager m).registry = (w.manager m).registry := by rw [later.manager]

theorem config : (v.manager m).config = (w.manager m).config := by rw [later.manager]

theorem used : (v.manager m).used = (w.manager m).used := by rw [later.manager]

theorem reducing : (v.manager m).reducing = (w.manager m).reducing := by rw [later.manager]

theorem sweepsFirst : SweepsFirst v m ↔ SweepsFirst w m := by
  unfold SweepsFirst
  rw [later.config, later.used, later.reducing]

variable {entries : List (Nat × ObjectRef)} (own : Hosts w m entries)

include own

/-- Graphics with entries are as they were. -/
theorem graphic_of_entry (entry : .graphic g ∈ entries.map Prod.snd) : v.graphic g = w.graphic g :=
  later.graphics g (made_of_entry own entry)

theorem hosts : Hosts v m entries where
  there := later.managers ▸ own.there
  graphics e listed := by
    obtain ⟨h, object, made, site⟩ := own.graphics e listed
    exact ⟨h, object, Nat.lt_of_lt_of_le made later.made, by rw [later.graphics h made]; exact site⟩
  once := own.once
  registered e listed := by
    rw [later.registry]
    exact own.registered e listed

theorem candidates_eq : candidates v m entries = candidates w m entries :=
  candidates_congr fun _ entry => evictable_congr (later.graphic_of_entry own entry)
    later.config later.now later.storage

end Kept

/-- What the graphics of the manager occupy is what they did. -/
theorem occupied_eq (later : Furthered m w v) {gs : List Nat}
    (hosts : Hosts w m (w.manager m).registry.entries)
    (listed : gs ⊆ candidates w m (w.manager m).registry.entries) :
    occupied v gs = occupied w gs := by
  unfold occupied
  congr 1
  refine List.map_congr_left fun h among => ?_
  rw [later.graphic_of_entry hosts (mem_candidates.1 (listed among)).1]

/-- A sweep would take out the same graphics. -/
theorem dispensable_eq (later : Furthered m w v)
    (hosts : Hosts w m (w.manager m).registry.entries) : dispensable v m = dispensable w m := by
  unfold dispensable
  rw [later.registry, later.config, later.candidates_eq hosts]
  exact fewest_congr later.used fun hs early => later.occupied_eq hosts early.subset

theorem literalUsage_eq (later : Furthered m w v)
    (hosts : Hosts w m (w.manager m).registry.entries) :
    literalUsage v m = literalUsage w m := by
  rw [Run.literalUsage_eq, Run.literalUsage_eq, later.registry]
  congr 1
  refine List.map_congr_left fun o entry => ?_
  obtain ⟨e, listed, rfl⟩ := List.mem_map.1 entry
  obtain ⟨h, object, made, -⟩ := hosts.graphics e listed
  rw [object]
  show (v.graphic h).profile.accounted = (w.graphic h).profile.accounted
  rw [later.graphics h made]

/-- A manager in order stays so. -/
theorem inOrder (later : Furthered m w v) (order : InOrder w m) : InOrder v m where
  hosts := later.registry ▸ later.hosts order.hosts
  right := by
    rw [later.used, later.literalUsage_eq order.hosts]
    exact order.right
  fits := later.used ▸ order.fits
  idle := later.reducing ▸ order.idle

end Furthered

/-! ## Room -/

/-- The graphics that are swapped out to make room for a registration that begins now. -/
def displaced (w : World) (m : Nat) : List Nat := if SweepsFirst w m then dispensable w m else []

theorem displaced_begins (w : World) (m : Nat) :
    displaced w m <+: candidates w m (w.manager m).registry.entries := by
  unfold displaced
  split
  · exact fewest_begins _ _ _ _
  · exact List.nil_prefix

theorem Furthered.displaced_eq (later : Furthered m w v)
    (hosts : Hosts w m (w.manager m).registry.entries) : displaced v m = displaced w m := by
  unfold displaced
  simp only [later.sweepsFirst, later.dispensable_eq hosts]

/-- Room is made at the expense of those graphics only. -/
theorem graphics_of_roomMade (plain : Plain ask) (hosts : Hosts w m (w.manager m).registry.entries)
    (made : RoomMade ask m w u) :
    u.graphics.size = w.graphics.size ∧ ∀ g, u.graphic g = if g ∈ displaced w m then
      { w.graphic g with toContent := (w.graphic g).stowed } else w.graphic g := by
  unfold displaced
  by_cases first : SweepsFirst w m
  · have done := (roomMade_of_sweepsFirst first).1 made
    rw [complete_apply] at done
    obtain ⟨visits, stop, walked, finished⟩ := ok_of_bind done
    obtain ⟨rfl, -⟩ := dispensable_of_walk plain hosts walked
    have begins : dispensable w m <+: candidates w m (w.manager m).registry.entries :=
      fewest_begins _ _ _ _
    have cleared : Cleared m (dispensable w m) (w.updateManager m Manager.beginSweep)
        (thinned (dispensable w m) (w.updateManager m Manager.beginSweep)) :=
      cleared_thinned (fun h among => hosts.own h (begins.subset among))
        (begins.sublist.nodup (nodup_candidates hosts.once))
    have same := (recounted_finish finished).graphics
    refine ⟨(congrArg Array.size same).trans cleared.graphics, fun g => ?_⟩
    have kept : u.graphic g =
        (thinned (dispensable w m) (w.updateManager m Manager.beginSweep)).graphic g := by
      unfold World.graphic
      rw [same]
    rw [kept, if_pos first, cleared.graphic]
    by_cases among : g ∈ dispensable w m
    · have there : g < w.graphics.size :=
        made_of_available (mem_candidates.1 (begins.subset among)).2.yields.1
      rw [if_pos ⟨among, there⟩, if_pos among]
      rfl
    · rw [if_neg fun both => among both.1, if_neg among]
      rfl
  · obtain ⟨u', which, only⟩ := roomMade_of_not first
    obtain rfl := (only ask u).1 made
    simp only [if_neg first, List.not_mem_nil, if_false]
    rcases which with rfl | rfl
    · exact ⟨rfl, fun _ => rfl⟩
    · exact ⟨rfl, fun _ => rfl⟩

/-- Entering an object is no matter of graphics. -/
theorem graphic_of_book (done : book m id o u = .ok () v) (h : Nat) :
    v.graphic h = u.graphic h := by
  obtain ⟨-, -, rfl⟩ := book_iff.1 done
  rfl

/-- Whatever is registered with a manager of graphics, and whatever was made since, costs the same
graphics their payloads. -/
theorem graphic_of_register (plain : Plain ask) (hosts : Hosts w m (w.manager m).registry.entries)
    (later : Furthered m w v) (registered : register ask m id o v = .ok () u)
    (made : g < w.graphics.size) : u.graphic g = if g ∈ displaced w m then
      { w.graphic g with toContent := (w.graphic g).stowed } else w.graphic g := by
  obtain ⟨x, room, booked⟩ := register_iff.1 registered
  have hosts' : Hosts v m (v.manager m).registry.entries := later.registry ▸ later.hosts hosts
  rw [graphic_of_book booked, (graphics_of_roomMade plain hosts' room).2, later.displaced_eq hosts,
    later.graphics g made]

/-- A manager in order makes room by its sweep, or has room. -/
theorem InOrder.makesRoom (order : InOrder w m) (plain : Plain ask) :
    ∃ u, RoomMade ask m w u ∧ InOrder u m ∧
      ((SweepsFirst w m ∧ Eased m (displaced w m) w u) ∨ ¬ SweepsFirst w m ∧ u = w) := by
  unfold displaced
  by_cases first : SweepsFirst w m
  · obtain ⟨u, done, eased, order'⟩ := order.sweeps plain
    refine ⟨u, (roomMade_of_sweepsFirst first).2 done, order', .inl ⟨first, ?_⟩⟩
    rw [if_pos first]
    exact eased
  · refine ⟨w, ?_, order, .inr ⟨first, rfl⟩⟩
    unfold RoomMade
    split
    · next above =>
      refine attempt_of_not_due ask fun due => first ⟨due.1, above, order.idle⟩
    · rfl

/-! ## Entering -/

theorem literalUsage_booked (there : m < w.managers.size)
    (absent : (w.manager m).registry.find? id = none) :
    literalUsage (booked w m id o) m = literalUsage w m + w.accounted o := by
  have registry : ((booked w m id o).manager m).registry = (w.manager m).registry.insert id o := by
    rw [manager_booked there]
    rfl
  have same : (booked w m id o).accounted = w.accounted := by
    funext p
    exact congrArg Profile.accounted ((booked_keeps w m id o).1 p)
  have sum := ((((w.manager m).registry.insert_perm (o := o) absent).map Prod.snd).map
    w.accounted).sum_eq
  rw [literalUsage_eq, literalUsage_eq, registry, same, sum, List.map_cons, List.map_cons,
    List.sum_cons]
  exact Int.add_comm _ _

/-- A graphic that is not registered yet is entered by a manager in order if its size fits the
count. -/
theorem InOrder.books (order : InOrder w m) (absent : (w.manager m).registry.find? id = none)
    (made : g < w.graphics.size) (own : (w.graphic g).manager = m)
    (unlisted : .graphic g ∉ (w.manager m).registry.entries.map Prod.snd)
    (fits : Amount.fits ((w.manager m).used + (w.graphic g).size) = true) :
    book m id (.graphic g) w = .ok () (booked w m id (.graphic g)) ∧
      InOrder (booked w m id (.graphic g)) m := by
  have size : w.accounted (.graphic g) = (w.graphic g).size :=
    Content.accounted_profile (w.graphic g)
  have manager : (booked w m id (.graphic g)).manager m = _ := manager_booked order.hosts.there
  have used : ((booked w m id (.graphic g)).manager m).used =
      (w.manager m).used + (w.graphic g).size := by
    rw [manager, ← size]
    rfl
  have right : ((booked w m id (.graphic g)).manager m).used =
      literalUsage (booked w m id (.graphic g)) m := by
    rw [literalUsage_booked order.hosts.there absent, used, order.right, size]
  have entries : ((booked w m id (.graphic g)).manager m).registry.entries.Perm
      ((id, .graphic g) :: (w.manager m).registry.entries) := by
    rw [manager]
    exact Registry.insert_perm absent
  have hosts : Hosts (booked w m id (.graphic g)) m
      ((booked w m id (.graphic g)).manager m).registry.entries := by
    refine ⟨?_, fun e listed => ?_, ?_, fun e listed => Registry.contains_iff.2 ⟨e.2, listed⟩⟩
    · unfold booked
      rw [World.size_updateManager, World.size_updateManager]
      exact order.hosts.there
    · rcases List.mem_cons.1 (entries.mem_iff.1 listed) with rfl | old
      · exact ⟨g, rfl, made, own⟩
      · exact order.hosts.graphics e old
    · rw [(entries.map Prod.snd).nodup_iff]
      exact List.nodup_cons.2 ⟨unlisted, order.hosts.once⟩
  have fits' : Amount.fits ((booked w m id (.graphic g)).manager m).used = true := used ▸ fits
  refine ⟨book_iff.2 ⟨size ▸ fits, ?_, (corrected_of_right right).symm⟩, hosts, right, fits', ?_⟩
  · exact inRange_of_graphics hosts.only_graphics (right ▸ fits')
  · rw [manager]
    exact order.idle

/-- What has no entry is not swapped out to make room. -/
theorem not_displaced (unlisted : .graphic g ∉ (w.manager m).registry.entries.map Prod.snd) :
    g ∉ displaced w m := fun among =>
  unlisted (mem_candidates.1 ((displaced_begins w m).subset among)).1

/-- A graphic is registered with a manager in order if its size fits next to what the graphics that
are left occupy; and the manager is in order afterwards. -/
theorem InOrder.takesIn (order : InOrder w m) (plain : Plain ask)
    (absent : (w.manager m).registry.find? id = none) (made : g < w.graphics.size)
    (own : (w.graphic g).manager = m)
    (unlisted : .graphic g ∉ (w.manager m).registry.entries.map Prod.snd)
    (fits : Amount.fits
      ((w.manager m).used - occupied w (displaced w m) + (w.graphic g).size) = true) :
    ∃ u, RoomMade ask m w u ∧ ((SweepsFirst w m ∧ Eased m (displaced w m) w u) ∨
        ¬ SweepsFirst w m ∧ u = w) ∧
      register ask m id (.graphic g) w = .ok () (booked u m id (.graphic g)) ∧
      InOrder (booked u m id (.graphic g)) m := by
  obtain ⟨u, room, order', which⟩ := order.makesRoom plain
  obtain ⟨size, graphics⟩ := graphics_of_roomMade plain order.hosts room
  have kept : u.graphic g = w.graphic g := by
    rw [graphics, if_neg (not_displaced unlisted)]
  have manager : (u.manager m).registry = (w.manager m).registry ∧
      (u.manager m).used = (w.manager m).used - occupied w (displaced w m) := by
    rcases which with ⟨-, eased⟩ | ⟨not, rfl⟩
    · rw [eased.manager]
      exact ⟨rfl, rfl⟩
    · unfold displaced
      rw [if_neg not]
      exact ⟨rfl, (Int.sub_zero _).symm⟩
  obtain ⟨registry, used⟩ := manager
  rw [← registry] at absent unlisted
  rw [← used, ← kept] at fits
  obtain ⟨booked, order''⟩ := order'.books absent (size ▸ made) (kept ▸ own) unlisted fits
  exact ⟨u, room, which, register_iff.2 ⟨u, room, booked⟩, order''⟩

end Run

end GraphicCache
