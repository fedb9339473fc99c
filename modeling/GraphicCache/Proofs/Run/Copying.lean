/-
Copying. A copy holds what its source holds at that moment: what is in memory it has in memory, what
is in a swap file it reads from there, and of a link that was not materialised it takes the link.
The source has no part in that, and goes on as it was. The copy is registered like any other new
graphic. If that makes a sweep, the sweep is the one that any registration would make, and it is all
that can befall the source.
-/
import GraphicCache.Proofs.Run.Intake
import GraphicCache.Proofs.Run.Newcomers
import GraphicCache.Proofs.Run.Scripts
import GraphicCache.Proofs.Run.Shapes
import GraphicCache.Proofs.Run.Showing

namespace GraphicCache

open Effect

/-! ## Contents and their copies -/

namespace Content

variable {c c' : Content} {now : Moment}

/-- The swap file behind the content, if there is one, is read as a payload of its kind. -/
def Intact (c : Content) : Prop :=
  ∀ f, c.backing = .file f → ∃ p, f.read = .ok p ∧ p.kind = c.kind

/-- A content was copied. The copy has all that its source has, in memory too if it is there, and
from the swap file if it is in one; only a link that was materialised is not taken over. -/
structure CopiedAs (now : Moment) (c copy : Content) : Prop where
  inside : c.swappedOut = false → copy = { c with backing := .none, lastUsed := now }
  filed : ∀ f, c.backing = .file f → ∃ p, f.read = .ok p ∧
    copy = { c with payload := some p, backing := .none, swappedOut := false, lastUsed := now }
  linked : ∀ link page, c.backing = .link link page → c.swappedOut = true →
    copy = { c with lastUsed := now }
  shows : ∀ gift, c.Shows gift → copy.Shows gift

/-- A link behind a content is of its kind. -/
def Akin (c : Content) : Prop := ∀ link page, c.backing = .link link page → c.kind = link.kind

theorem akin_of_restore {id n : Nat} (back : c.restore id now = .ok (some (c', n))) :
    c'.Akin := by
  obtain ⟨p, -, -, -, payload, -, kind, -, backing⟩ := restore_ok back
  intro link page linked
  rcases backing with none | ⟨same, -⟩
  · cases none.symm.trans linked
  · obtain ⟨-, restored⟩ := restore_linked (same.symm.trans linked) back
    cases payload.symm.trans restored
    rw [kind, link.kind_payload]

theorem akin_of_duplicate (copied : c.duplicate now = .ok c') : c'.Akin := by
  unfold Content.duplicate at copied
  split at copied
  · cases copied
    exact nofun
  · cases copied
    exact nofun
  · split at copied
    · next link page _ =>
      cases copied
      intro _ _ same
      cases same
      rfl
    · next f _ =>
      cases read : f.read with
      | error e => rw [read] at copied; cases copied
      | ok p => rw [read] at copied; cases copied; exact nofun
    · cases copied
      exact nofun

/-- What is in memory is copied in memory. -/
theorem Loaded.duplicate {p : Payload} (h : c.Loaded p) :
    c.duplicate now = .ok { c with backing := .none, lastUsed := now } := by
  obtain ⟨payload, inside, kind, external, -⟩ := h
  unfold Content.duplicate ofPayload empty
  simp only [payload, inside, kind, external]

/-- Nothing is copied as nothing, and a reference as a reference. -/
theorem Bare.duplicate (h : c.Bare) :
    c.duplicate now = .ok { c with backing := .none, lastUsed := now } := by
  obtain ⟨⟨payload, inside, backing⟩, ⟨kind, external⟩ | ⟨kind, url, external⟩⟩ := h
  · unfold Content.duplicate empty
    simp only [payload, external, backing, inside, kind]
  · unfold Content.duplicate ofExternal empty
    simp only [payload, external, inside, kind]

/-- A link is copied as a link. -/
theorem Stored.duplicate_linked (h : c.Stored) (akin : c.Akin) {link : Link}
    {page : Option Int32} (linked : c.backing = .link link page) :
    c.duplicate now = .ok { c with lastUsed := now } := by
  have kind := akin link page linked
  unfold Content.duplicate ofLink empty
  simp only [h.payload, h.external, h.out, linked, kind]

/-- What is in a swap file is read from there. -/
theorem Stored.duplicate_filed (h : c.Stored) {f : SwapFile} (filed : c.backing = .file f)
    {p : Payload} (read : f.read = .ok p) (kind : p.kind = c.kind) :
    c.duplicate now = .ok
      { c with payload := some p, backing := .none, swappedOut := false, lastUsed := now } := by
  unfold Content.duplicate ofPayload empty
  simp only [h.payload, h.external, filed, read, ← kind]
  rfl

/-- Every content can be copied whose swap file is intact. -/
theorem copiedAs (shaped : c.Shaped) (akin : c.Akin) (intact : c.Intact) (now : Moment) :
    ∃ copy, c.duplicate now = .ok copy ∧ c.CopiedAs now copy := by
  -- the copy of what is in memory, and of nothing
  have whole (within : c.swappedOut = false) (noFile : ∀ f, c.backing ≠ .file f)
      (copied : c.duplicate now = .ok { c with backing := .none, lastUsed := now }) :
      ∃ copy, c.duplicate now = .ok copy ∧ c.CopiedAs now copy :=
    ⟨_, copied, fun _ => rfl, fun f filed => absurd filed (noFile f),
      fun _ _ _ out => absurd out (by simp [within]), fun _ shows => shows.duplicate copied⟩
  rcases shaped.cases with ⟨p, loaded⟩ | stored | bare
  · refine whole loaded.inside (fun f filed => ?_) loaded.duplicate
    rcases loaded.backing with none | ⟨link, page, linked, -⟩
    · cases none.symm.trans filed
    · cases linked.symm.trans filed
  · cases backing : c.backing with
    | none => exact absurd backing stored.backing
    | link link page =>
      have copied : c.duplicate now = _ := stored.duplicate_linked akin backing
      exact ⟨_, copied, fun within => absurd within (by simp [stored.out]),
        fun f filed => (nomatch backing.symm.trans filed), fun _ _ _ _ => rfl,
        fun _ shows => shows.duplicate copied⟩
    | file f =>
      obtain ⟨p, read, kind⟩ := intact f backing
      have copied : c.duplicate now = _ := stored.duplicate_filed backing read kind
      refine ⟨_, copied, fun within => absurd within (by simp [stored.out]), fun f' filed => ?_,
        fun _ _ linked => (nomatch backing.symm.trans linked), fun _ shows => shows.duplicate copied⟩
      cases backing.symm.trans filed
      exact ⟨p, read, rfl⟩
  · refine whole bare.inside (fun f filed => ?_) bare.duplicate
    cases bare.backing.symm.trans filed

end Content

namespace Run

open Swapping Sweep Accounting

variable {environment : Names String} {past : List Taken} {acts : List Action} {c : State}
  {ask : ObjectRef → Effect Unit} {m source id g : Nat} {content : Content} {w u v : World}

theorem enduring_akin : Enduring Content.Akin where
  origin {o now} _ := by
    cases o with
    | link link page =>
      intro _ _ same
      cases same
      rfl
    | payload | empty | external => exact nofun
  duplicate _ copied := Content.akin_of_duplicate copied
  swapOut h out := by
    obtain ⟨p, -, -, -, ⟨link, page, -, rfl⟩ | ⟨-, rfl⟩⟩ := Content.swapOut_ok out
    · exact h
    · exact nofun
  restore _ back := Content.akin_of_restore back
  replace _ _ := nofun
  touch _ h := h
  alter _ _ _ := nofun

/-- As long as no swap file is altered, all are intact. -/
theorem Reached.intact (reached : Reached environment acts c)
    (kept : ∀ g f, Action.op (.alterFile g f) ∉ acts) (g : Nat) : (c.world.graphic g).Intact := by
  intro f filed
  have stored : (c.world.graphic g).Stored :=
    Content.Shaped.stored_of_file (reached.allShaped g) filed
  have shows := (reached.showing kept).shows g
  cases given : (acts.foldl Action.gives [])[g]?.getD none with
  | none =>
    rw [given] at shows
    have blank : (c.world.graphic g).Blank := shows
    cases blank.backing.symm.trans filed
  | some p =>
    rw [given] at shows
    have shown : (c.world.graphic g).Shown p := shows
    have recovered := (shown.outside stored.out).2 0
    unfold Content.recover at recovered
    rw [filed] at recovered
    refine ⟨p, ?_, shown.kind.symm⟩
    dsimp only at recovered
    cases read : f.read with
    | ok q => rw [read] at recovered; cases recovered; rfl
    | error e => rw [read] at recovered; cases recovered

/-! ## Making a copy -/

/-- A copy is made with the next id, and what comes of it is what comes of its registration. -/
theorem copy_of_duplicate (copied : (w.graphic source).duplicate w.now = .ok content) :
    copy ask m source w =
      match register ask m (w.manager m).nextId (.graphic w.graphics.size) (created w m content) with
      | .ok _ v => .ok (.ok w.graphics.size) v
      | .error e v => .error e v := by
  have made : copy ask m source w = (make ask m content >>= fun g => pure (.ok g)) w := by
    unfold copy
    rw [get_bind_apply, copied]
  rw [made, bind_apply, make_apply, bind_apply]
  cases register ask m (w.manager m).nextId (.graphic w.graphics.size) (created w m content) <;> rfl

theorem copy_iff (copied : (w.graphic source).duplicate w.now = .ok content)
    {r : Except Fault Nat} :
    copy ask m source w = .ok r v ↔ r = .ok w.graphics.size ∧
      register ask m (w.manager m).nextId (.graphic w.graphics.size) (created w m content) =
        .ok () v := by
  rw [copy_of_duplicate copied]
  cases register ask m (w.manager m).nextId (.graphic w.graphics.size) (created w m content) with
  | ok _ v' =>
    constructor
    · intro same
      cases same
      exact ⟨rfl, rfl⟩
    · rintro ⟨rfl, same⟩
      cases same
      rfl
  | error e v' => exact ⟨nofun, fun both => nomatch both.2⟩

/-- It fails as its registration does. -/
theorem copy_error (copied : (w.graphic source).duplicate w.now = .ok content) {e : Script.Halt}
    (fails : copy ask m source w = .error e v) :
    (∃ f, e = .overflow f) ∨ ∃ o u, ask o u = .error e v := by
  rw [copy_of_duplicate copied] at fails
  cases registered : register ask m (w.manager m).nextId (.graphic w.graphics.size)
      (created w m content) with
  | ok _ v' =>
    rw [registered] at fails
    cases fails
  | error e' v' =>
    rw [registered] at fails
    cases fails
    exact failsByAsking_register _ _ _ registered

/-! ## Registering it -/

theorem roomMade_unique (made : RoomMade ask m w u) (made' : RoomMade ask m w v) : u = v := by
  unfold RoomMade at made made'
  by_cases above : (w.manager m).config.memoryLimit < (w.manager m).used
  · rw [if_pos above] at made made'
    cases made.symm.trans made'
    rfl
  · rw [if_neg above] at made made'
    exact made.trans made'.symm

/-- A graphic has its turn for nothing, or is swapped out in it. -/
theorem course_of_graphics {target : Int} {entries : List (Nat × ObjectRef)} {turns : List Turn}
    {start stop : World} (plain : Plain ask) (course : Course ask m target entries start turns stop)
    {t : Turn} (taken : t ∈ turns) (object : t.object = .graphic g) :
    t.after = t.before ∨ Yields t.before g ∧ t.after = takenOut t.before g := by
  cases calls : t.calls m with
  | false => exact .inl (course.passed t taken calls)
  | true =>
    have asked := course.called t taken calls
    rw [object, plain g] at asked
    obtain ⟨r, v, swapped, answered⟩ := ok_of_bind asked
    cases answered
    rcases of_swapOut_ok swapped with ⟨yields, -, out⟩ | ⟨same, -⟩
    · exact .inr ⟨yields, out⟩
    · exact .inl same

/-- A graphic was registered that was just made in the world `w`. It was entered in the world `u`,
where room had been made, and as it was made. Without a sweep all graphics are as they were; in a
sweep a graphic has its turn for nothing or is swapped out in it, and all other turns are calls of
objects of the program. For any other object the room had been the same. -/
structure Joined (ask : ObjectRef → Effect Unit) (m g : Nat) (w u v : World) : Prop where
  room : RoomMade ask m w u
  admitted : Admitted ask m (w.graphic g).id (.graphic g) w u v
  newcomer : v.graphic g = w.graphic g
  unswept : ¬ SweepsFirst w m → ∀ h, v.graphic h = w.graphic h
  swept : SweepsFirst w m → ∃ turns stop,
    Course ask m (w.manager m).config.target (w.manager m).registry.entries
      (w.updateManager m Manager.beginSweep) turns stop ∧
    (∀ t ∈ turns, ∀ h, t.object = .graphic h →
      t.after = t.before ∨ Yields t.before h ∧ t.after = takenOut t.before h) ∧
    ∀ h, v.graphic h = stop.graphic h
  likewise : ∀ id o v', register ask m id o w = .ok () v' → ∀ h, v'.graphic h = v.graphic h

/-- Room is made for a newcomer while it waits, and leaves it alone. -/
theorem Follows.roomMade_for_newcomer {s : List Call} (follows : Follows ask)
    (reached : Reached environment acts ⟨.entering m id (.graphic g) :: s, w⟩)
    (newcomer : Newcomer m id g ⟨.entering m id (.graphic g) :: s, w⟩)
    (made : RoomMade ask m w u) :
    u.graphic g = w.graphic g ∧ m < u.managers.size ∧
      (u.manager m).registry.find? id = none := by
  have proper : w.Proper := (Path.grows reached).proper (proper_start environment)
  obtain ⟨acts', path⟩ : ∃ acts, Path (home s) ⟨.entering m id (.graphic g) :: s, w⟩ acts
      ⟨.entering m id (.graphic g) :: s, u⟩ := follows.roomMade proper made
  exact ⟨(newcomer.path reached path List.mem_cons_self).2,
    Reached.free (reached.trans (path.lower List.nil_suffix)) List.mem_cons_self⟩

theorem joined_of_admitted (follows : Follows ask) (room : RoomMade ask m w u)
    (admitted : Admitted ask m (w.graphic g).id (.graphic g) w u v)
    (done : book m (w.graphic g).id (.graphic g) u = .ok () v)
    (newcomer : u.graphic g = w.graphic g) : Joined ask m g w u v := by
  have same := graphic_of_book done
  refine ⟨room, admitted, (same g).trans newcomer, fun not h => ?_, fun first => ?_,
    fun id o v' registered h => ?_⟩
  · rw [same]
    rcases (admitted.unswept not).1 with rfl | rfl
    · rfl
    · rfl
  · obtain ⟨-, turns, stop, course, -, -, finished⟩ := admitted.swept first
    refine ⟨turns, stop, course, fun t taken h => course_of_graphics follows.graphic course taken,
      fun h => ?_⟩
    rw [same]
    unfold World.graphic
    rw [(recounted_finish finished).graphics]
  · obtain ⟨u', room', done'⟩ := register_iff.1 registered
    rw [graphic_of_book done', same, roomMade_unique room' room]

/-- A copy comes about where room is made and its size fits next to what is left. -/
theorem copies_iff (copied : (w.graphic source).duplicate w.now = .ok content)
    (kept : ∀ u, RoomMade ask m (created w m content) u →
      u.graphic w.graphics.size = (created w m content).graphic w.graphics.size) :
    (∃ r v, copy ask m source w = .ok r v) ↔
      ∃ u, RoomMade ask m (created w m content) u ∧
        Amount.fits ((u.manager m).used + content.size) = true ∧
        InRange (booked u m (w.manager m).nextId (.graphic w.graphics.size)) m := by
  obtain ⟨-, graphic, -⟩ := graphic_of_create (create_apply m content w)
  have size {u : World} (room : RoomMade ask m (created w m content) u) :
      u.accounted (.graphic w.graphics.size) = content.size := by
    have same := Content.accounted_profile (u.graphic w.graphics.size)
    rw [kept u room, graphic] at same
    rw [← same, ← graphic, ← kept u room]
    rfl
  constructor
  · rintro ⟨r, v, done⟩
    obtain ⟨u, room, booked⟩ := register_iff.1 ((copy_iff copied).1 done).2
    obtain ⟨fits, sums, -⟩ := book_iff.1 booked
    exact ⟨u, room, size room ▸ fits, sums⟩
  · rintro ⟨u, room, fits, sums⟩
    have booked := book_iff.2 ⟨(size room).symm ▸ fits, sums, rfl⟩
    exact ⟨_, _, (copy_iff copied).2 ⟨rfl, register_iff.2 ⟨u, room, booked⟩⟩⟩

/-- So it does with a manager in order, if the size fits next to what the sweep leaves there. -/
theorem InOrder.copies (order : InOrder w m) (plain : Plain ask)
    (copied : (w.graphic source).duplicate w.now = .ok content)
    (absent : (w.manager m).registry.find? (w.manager m).nextId = none)
    (fits : Amount.fits
      ((w.manager m).used - occupied w (displaced w m) + content.size) = true) :
    ∃ v, copy ask m source w = .ok (.ok w.graphics.size) v := by
  obtain ⟨made, graphic, -⟩ := graphic_of_create (create_apply m content w)
  have later := Furthered.created m w content
  have unlisted : .graphic w.graphics.size ∉
      ((created w m content).manager m).registry.entries.map Prod.snd := by
    rw [later.registry]
    exact fun entry => Nat.lt_irrefl _ (made_of_entry order.hosts entry)
  have fits' : Amount.fits (((created w m content).manager m).used -
      occupied (created w m content) (displaced (created w m content) m) +
        ((created w m content).graphic w.graphics.size).size) = true := by
    rw [later.used, later.displaced_eq order.hosts,
      later.occupied_eq order.hosts (displaced_begins w m).subset, graphic]
    exact fits
  rw [← later.registry] at absent
  obtain ⟨u, -, -, registered, -⟩ := (later.inOrder order).takesIn plain absent made
    (congrArg Graphic.manager graphic) unlisted fits'
  exact ⟨_, (copy_iff copied).2 ⟨rfl, registered⟩⟩

/-! ## The result -/

/-- What copying the graphic `source` to the manager `m` comes to after the steps `past`, where the
copy is made with that content. -/
structure Copies (ask : ObjectRef → Effect Unit) (past : List Taken) (m source : Nat) (w : World)
    (content : Content) : Prop where
  /-- The copy has what the graphic has. -/
  alike : (w.graphic source).CopiedAs w.now content
  /-- Its manager has never handed out its id. -/
  fresh : (w.manager m).nextId ∉ idsOf m (issued past)
  /-- Until it is registered, nothing else has changed. -/
  made : Furthered m w (created w m content)
  /-- The copy is answered just as it was made, and has joined its manager like any new object. -/
  answered : ∀ r v, copy ask m source w = .ok r v → r = .ok w.graphics.size ∧
    v.graphic w.graphics.size = ⟨content, (w.manager m).nextId, m, 0⟩ ∧
    ∃ u, Joined ask m w.graphics.size (created w m content) u v
  /-- Otherwise its registration halts, for an overflow or because an object halts that it asks. -/
  halted : ∀ e v, copy ask m source w = .error e v →
    (∃ f, e = .overflow f) ∨ ∃ o u, ask o u = .error e v
  /-- The copy is answered exactly if room is made and its size fits the sums of the manager. -/
  answers : (∃ r v, copy ask m source w = .ok r v) ↔
    ∃ u, RoomMade ask m (created w m content) u ∧
      Amount.fits ((u.manager m).used + content.size) = true ∧
      InRange (booked u m (w.manager m).nextId (.graphic w.graphics.size)) m
  /-- Among graphics only, the copy costs the graphics their payloads that any registration would
  cost them at this time. -/
  costs : (∀ e ∈ (w.manager m).registry.entries, ∃ g, e.2 = .graphic g) →
    ∀ w' ask' id o v, Furthered m w w' → Plain ask' → register ask' m id o w' = .ok () v →
      ∀ g < w.graphics.size, v.graphic g = if g ∈ displaced w m then
        { w.graphic g with toContent := (w.graphic g).stowed } else w.graphic g
  /-- A manager in order takes the copy, unless there is no sum of its size and the sizes that are
  left. -/
  takes : InOrder w m →
    Amount.fits ((w.manager m).used - occupied w (displaced w m) + content.size) = true →
    ∃ v, copy ask m source w = .ok (.ok w.graphics.size) v

/-- Copying duplicates and does not disturb. In every state of every run in which a program has a
graphic whose swap file is intact, and wherever it is copied to, the copy is made with what the
graphic has under a fresh id, and is answered or halts with its registration. All that befalls the
graphic and any other is the sweep of the registration, which is the same for any other object. -/
theorem copies_disturb_nothing (history : History environment past c)
    (free : atProgram c.calls = true) (there : m < c.world.managers.size)
    (held : c.world.isHeld source = true) (intact : (c.world.graphic source).Intact)
    (follows : Follows ask) : ∃ content, Copies ask past m source c.world content := by
  obtain ⟨s, w⟩ := c
  have reached := history.reached
  obtain ⟨content, copied, copiedAs⟩ := Content.copiedAs (reached.allShaped source)
    (reached.throughout enduring_akin source) intact w.now
  -- the copy is made, and waits
  have waits := reached.next (.copy free there held copied (create_apply m content w))
  have newcomer := newcomer_create reached.orderly (create_apply m content w)
  have later := Furthered.created m w content
  obtain ⟨-, graphic, -⟩ := graphic_of_create (create_apply m content w)
  obtain ⟨-, absent⟩ := Reached.free waits List.mem_cons_self
  refine ⟨content, {
    alike := copiedAs
    fresh := ?fresh
    made := later
    answered := fun r v done => ?answered
    halted := fun e v => copy_error copied
    answers := copies_iff copied fun u room => (follows.roomMade_for_newcomer waits newcomer room).1
    costs := fun graphics v ask' id o v' later' plain registered g made =>
      graphic_of_register plain (reached.orderly.world.hosts there graphics) later' registered made
    takes := fun order => order.copies follows.graphic copied (later.registry ▸ absent) }⟩
  case fresh =>
    rw [history.issuance.ids m]
    intro old
    have listed := List.mem_range'_1.1 old
    omega
  case answered =>
    obtain ⟨rfl, registered⟩ := (copy_iff copied).1 done
    obtain ⟨u, room, booked⟩ := register_iff.1 registered
    have proper : (created w m content).Proper :=
      (Path.grows waits).proper (proper_start environment)
    obtain ⟨kept, there', absent'⟩ := follows.roomMade_for_newcomer waits newcomer room
    have admitted := admitted_of_book follows.lawful proper absent room there' absent' booked
    have id : (w.manager m).nextId = ((created w m content).graphic w.graphics.size).id := by
      rw [graphic]
    rw [id] at admitted booked
    have joined := joined_of_admitted follows room admitted booked kept
    exact ⟨rfl, joined.newcomer.trans graphic, u, joined⟩

set_option maxRecDepth 20000 in
/-- Two films lie idle with a manager above its limit. The first is copied there, which makes a sweep
that swaps it out; the copy has it in memory. -/
theorem copied_film_is_swapped_out :
    ∃ past c v, History [] past c ∧ Swapping.copy (Script.ask 0) 0 0 c.world = .ok (.ok 2) v ∧
      (c.world.graphic 0).payload = some film ∧ (c.world.graphic 0).swappedOut = false ∧
      (v.graphic 0).swappedOut = true ∧ v.graphic 1 = c.world.graphic 1 ∧
      (v.graphic 2).payload = some film ∧ (v.graphic 2).id = 3 := by
  have managed := History.next (.start : History [] _ _)
    (.op (o := .addManager { Config.builtIn with memoryLimit := 150000 } false) rfl trivial rfl)
  have first := (managed.next (.make (m := 0) (o := .payload film) rfl (by decide) fits_film rfl)).next
    (.settle rfl)
  have bound := first.next (.op (o := .bind "film" (.graphic 0) 1) rfl (.inr (by decide)) rfl)
  have second := (bound.next (.make (m := 0) (o := .payload film) rfl (by decide) fits_film rfl)).next
    (.settle rfl)
  have later := second.next (.op (o := .advance (.ofSeconds 20)) rfl trivial rfl)
  have order : InOrder _ 0 := later.reached.orderly.world.inOrder (by decide)
    (List.forall_mem_cons.2 ⟨⟨0, rfl⟩, List.forall_mem_singleton.2 ⟨1, rfl⟩⟩) rfl
    (by decide +kernel) rfl
  obtain ⟨content, copies⟩ := copies_disturb_nothing later rfl order.hosts.there
    (rfl : World.isHeld _ 0 = true) (fun _ => nofun) (Script.follows_ask 0)
  obtain rfl := copies.alike.inside rfl
  obtain ⟨v, done⟩ := copies.takes order (by decide +kernel)
  obtain ⟨-, graphic, -⟩ := copies.answered _ v done
  have left := copies.costs order.hosts.only_graphics _ _ _ _ v copies.made
    (Script.follows_ask 0).graphic ((copy_iff rfl).1 done).2
  have out : v.graphic 0 = _ := (left 0 (by decide)).trans (if_pos (by decide +kernel))
  have kept : v.graphic 1 = _ := (left 1 (by decide)).trans (if_neg (by decide +kernel))
  refine ⟨_, _, v, later, done, rfl, rfl, ?_, kept, ?_, ?_⟩
  · rw [out]
    rfl
  · exact congrArg (·.payload) graphic
  · exact congrArg Graphic.id graphic

/-- A bitmap cannot be copied to a manager whose count has no room for one more byte. -/
theorem copying_can_halt :
    ¬ ∀ (environment : Names String) (acts : List Action) (c : State) (m source : Nat)
      (ask : ObjectRef → Effect Unit), Reached environment acts c → atProgram c.calls = true →
        m < c.world.managers.size → c.world.isHeld source = true →
        (∀ g, (c.world.graphic g).Intact) → Follows ask →
          ∃ g v, Swapping.copy ask m source c.world = .ok (.ok g) v := by
  intro claim
  have managed := ((reached_start []).next
    (.op (o := .addManager { Config.builtIn with swapEnabled := false } false) rfl trivial rfl)).next
    (.op (o := .addManager { Config.builtIn with swapEnabled := false } false) rfl trivial rfl)
  have arranged := managed.next
    (.op (o := .arrange fun w => { w with objects := w.objects.push hugeObject })
      rfl (World.rearranged_push (x := hugeObject) _ trivial _) rfl)
  have enlisted := arranged.next (.enlist (m := 1) (o := 0) rfl (by decide) rfl)
  have settled := enlisted.next (.settle rfl)
  have made := settled.next (.make (m := 0) (o := .payload (.bitmap ⟨1, 1, 8, ⟨#[7]⟩⟩))
    rfl (by decide) (by rintro p ⟨⟩; decide) rfl)
  have bound := (made.next (.settle rfl)).next
    (.op (o := .bind "picture" (.graphic 0) 1) rfl (.inr (by decide)) rfl)
  obtain ⟨g, v, done⟩ := claim [] _ _ 1 0 _ bound rfl (by decide) rfl
    (bound.intact (by simp)) (Script.follows_ask 0)
  cases done

end Run

end GraphicCache
