/-
What storing costs. A graphic that has no link behind it leaves memory for a swap file, and three
numbers are told of that: the length of the file, the size of the payload, and what is taken off the
count of the manager. They are computed apart from each other, by the writer, from the payload in
memory and from the content. In every run, wherever a graphic leaves memory, they agree: the file is
longer than the payload by what the shape of the payload adds, and what comes off the count is the
size of the payload that the file is read as.

That the file is read at all needs lengths that fit, of every payload that is ever in memory. Those
that a program brings along do, and so do those that are read from a file, whoever wrote it.
-/
import GraphicCache.Proofs.Run.Contents
import GraphicCache.Proofs.Run.Disabled
import GraphicCache.Proofs.Run.Refusal
import GraphicCache.Proofs.SwapFile.Format
import GraphicCache.Proofs.SwapFile.Length

namespace GraphicCache

/-! ## Lengths that fit -/

namespace Content

variable {c c' : Content} {id n : Nat} {now : Moment}

/-- The payload in memory and that of the link behind the content have lengths that fit. -/
structure Bounded (c : Content) : Prop where
  payload : ∀ {p}, c.payload = some p → p.Fits
  link : ∀ {link page}, c.backing = .link link page → (link.payload page).Fits

theorem Bounded.ofPayload {p : Payload} (fits : p.Fits) (now : Moment) :
    (Content.ofPayload p now).Bounded :=
  ⟨fun same => Option.some.inj same ▸ fits, nofun⟩

theorem Bounded.ofLink {link : Link} {page : Option Int32} (fits : (link.payload page).Fits)
    (now : Moment) : (Content.ofLink link page now).Bounded :=
  ⟨nofun, fun same => by cases same; exact fits⟩

/-- What can be read fits, whatever else is in the file. -/
theorem fits_of_read {f : SwapFile} {p : Payload} (read : f.read = .ok p) : p.Fits :=
  ((SwapFile.decode_iff _ p).1 read).1

theorem Bounded.recover (h : c.Bounded) {p : Payload} (recovered : c.recover id = .ok p) :
    p.Fits := by
  unfold Content.recover at recovered
  split at recovered
  · next f _ =>
    cases read : f.read with
    | error e => rw [read] at recovered; cases recovered
    | ok q =>
      rw [read] at recovered
      cases recovered
      exact fits_of_read read
  · next link page backing =>
    cases recovered
    exact h.link backing
  · cases recovered

theorem Bounded.duplicate (h : c.Bounded) (copied : c.duplicate now = .ok c') : c'.Bounded := by
  unfold Content.duplicate at copied
  split at copied
  · next p _ payload =>
    cases copied
    exact .ofPayload (h.payload payload) now
  · cases copied
    exact ⟨nofun, nofun⟩
  · split at copied
    · next link page backing =>
      cases copied
      exact .ofLink (h.link backing) now
    · next f _ =>
      cases read : f.read with
      | error e => rw [read] at copied; cases copied
      | ok p =>
        rw [read] at copied
        cases copied
        exact .ofPayload (fits_of_read read) now
    · cases copied
      exact ⟨nofun, nofun⟩

theorem Bounded.swapOut (h : c.Bounded) {canStore : Bool}
    (out : c.swapOut canStore = .ok (some (c', n))) : c'.Bounded := by
  obtain ⟨p, -, -, -, ⟨link, page, -, rfl⟩ | ⟨-, rfl⟩⟩ := swapOut_ok out
  · exact ⟨nofun, h.link⟩
  · exact ⟨nofun, nofun⟩

theorem Bounded.restore (h : c.Bounded) (back : c.restore id now = .ok (some (c', n))) :
    c'.Bounded := by
  obtain ⟨p, -, recovered, -, payload, -, -, -, backing⟩ := restore_ok back
  refine ⟨fun same => ?_, fun linked => ?_⟩
  · rw [payload] at same
    exact Option.some.inj same ▸ h.recover recovered
  · rcases backing with none | ⟨same, -⟩
    · cases none.symm.trans linked
    · exact h.link (same.symm.trans linked)

end Content

namespace Run

open Effect

variable {environment : Names String} {past : List Taken} {c d : State} {a : Action}
  {acts : List Action} {w w' : World} {g : Nat}

/-- Whatever becomes of a content, its lengths fit. -/
theorem enduring_bounded : Enduring Content.Bounded where
  origin {o now} fits := by
    cases o with
    | payload p => exact .ofPayload (fits p rfl) now
    | link link page => exact .ofLink (fits _ rfl) now
    | empty | external => exact ⟨nofun, nofun⟩
  duplicate h copied := h.duplicate copied
  swapOut h out := h.swapOut out
  restore h back := h.restore back
  replace _ fits := ⟨fun same => Option.some.inj same ▸ fits, nofun⟩
  touch _ h := ⟨h.payload, h.link⟩
  alter _ h _ := ⟨h.payload, nofun⟩

/-! ## Leaving memory -/

/-- A payload was in memory, and was put into a swap file. The length that is seen of the file is that
of its contents, which are longer than the payload by what its shape adds; and they are read as the
payload. -/
structure Filed (w w' : World) (g : Nat) (p : Payload) (f : SwapFile) : Prop where
  payload : (w.graphic g).payload = some p
  size : (w.graphicView g).size = p.size
  backing : (w'.graphic g).backing = .file f
  seen : (w'.graphicView g).file = some f.contents.size
  length : f.contents.size = p.size + p.header
  longer : p.size < f.contents.size
  read : f.read = .ok p

/-- The count of its manager went down by the size of what the file is read as. -/
def Uncounted (w w' : World) (g : Nat) (f : SwapFile) : Prop :=
  ∀ q, f.read = .ok q → (w'.manager (w.graphic g).manager).used =
    (w.manager (w.graphic g).manager).used - q.size

theorem filed_of_backing {p : Payload} (fits : p.Fits) (payload : (w.graphic g).payload = some p)
    (inside : (w.graphic g).swappedOut = false)
    (backing : (w'.graphic g).backing = .file (.write p)) : Filed w w' g p (.write p) where
  payload := payload
  size := Content.size_eq_of_payload payload inside
  backing := backing
  seen := by
    show (w'.graphic g).swapFile?.map _ = _
    unfold Content.swapFile?
    rw [backing]
    rfl
  length := SwapFile.size_encode p
  longer := by
    show p.size < (SwapFile.encode p).size
    rw [SwapFile.size_encode]
    exact Nat.lt_add_of_pos_right p.header_pos
  read := SwapFile.read_write p fits

theorem payload_of_yields (yields : Swapping.Yields w g) :
    (w.graphic g).swappedOut = false ∧ ∃ p, (w.graphic g).payload = some p := by
  have available : (w.graphic g).isAvailable = true := yields.1
  unfold Content.isAvailable at available
  obtain ⟨inside, there⟩ := Bool.and_eq_true_iff.1 available
  exact ⟨by simpa using inside, Option.isSome_iff_exists.1 there⟩

/-- A swap-out that succeeds costs exactly the encoding. -/
theorem filed_takenOut (rooted : Rooted w) (bounded : Throughout Content.Bounded w)
    (yields : Swapping.Yields w g) (unlinked : (w.graphic g).isLinked = false) :
    ∃ p f, Filed w (Swapping.takenOut w g) g p f ∧ Uncounted w (Swapping.takenOut w g) g f := by
  obtain ⟨p, payload, shifted⟩ := swappedOut_takenOut rooted yields.1
  have backing : ((Swapping.takenOut w g).graphic g).backing = .file (.write p) := by
    rw [shifted.graphic, unlinked]
    rfl
  have inside := (payload_of_yields yields).1
  have filed := filed_of_backing ((bounded g).payload payload) payload inside backing
  refine ⟨p, _, filed, fun q read => ?_⟩
  have same : p = q := Except.ok.inj (filed.read.symm.trans read)
  rw [shifted.manager, same]
  rfl

/-- One that halts over the count of the manager has written the file before. -/
theorem filed_dropped (bounded : Throughout Content.Bounded w) (yields : Swapping.Yields w g)
    (unlinked : (w.graphic g).isLinked = false) :
    ∃ p f, Filed w (Swapping.dropped w g) g p f := by
  have made := made_of_available yields.1
  obtain ⟨inside, p, payload⟩ := payload_of_yields yields
  have backing : ((Swapping.dropped w g).graphic g).backing = .file (.write p) := by
    rw [Swapping.dropped, World.setContent, w.graphic_updateGraphic_self g made,
      stowed_of_payload payload, unlinked]
    rfl
  exact ⟨p, _, filed_of_backing ((bounded g).payload payload) payload inside backing⟩

/-- Swapping out costs exactly the encoding. Wherever in a run a graphic without a link leaves memory,
because the program swaps it out or because a sweep does, its payload is in a swap file afterwards.
The length that is seen of the file is the number of its bytes, and it is the size of the payload and
what the shape of the payload adds, so it is always greater than the size. The file is read as the
payload, and if no sum of the manager halts, what comes off its count is the size of what is read. A
swap-out in the state that the run has reached costs the same. -/
theorem swapping_out_costs_the_encoding (history : History environment past c) :
    (∀ t ∈ past, ∀ g < t.before.world.graphics.size,
      (t.before.world.graphic g).isLinked = false →
      (t.before.world.graphic g).swappedOut = false →
      (t.after.world.graphic g).swappedOut = true →
        ∃ p f, Filed t.before.world t.after.world g p f ∧
          ((∀ o, t.action ≠ .halt o) → Uncounted t.before.world t.after.world g f)) ∧
    ∀ g v, (c.world.graphic g).isLinked = false →
      Swapping.swapOut g c.world = .ok (.ok true) v →
        ∃ p f, Filed c.world v g p f ∧ Uncounted c.world v g f := by
  constructor
  · intro t taken g made unlinked inside out
    obtain ⟨earlier, later, before, step, -⟩ := history.step_of_mem taken
    have rooted := before.reached.orderly.world
    have bounded := before.reached.throughout enduring_bounded
    rcases step.movesOut before.homely made inside out with ⟨r, done⟩ | ⟨halted, e, halts⟩
    · rcases Swapping.of_swapOut_ok done with ⟨yields, -, world⟩ | ⟨same, -⟩
      · obtain ⟨p, f, filed, uncounted⟩ := filed_takenOut rooted bounded yields unlinked
        rw [world]
        exact ⟨p, f, filed, fun _ => uncounted⟩
      · rw [same, inside] at out
        cases out
    · obtain ⟨yields, world⟩ := Swapping.of_swapOut_error halts
      obtain ⟨p, f, filed⟩ := filed_dropped bounded yields unlinked
      obtain ⟨o, is⟩ := halted
      rw [world]
      exact ⟨p, f, filed, fun goes => absurd is (goes o)⟩
  · intro g v unlinked done
    rcases Swapping.of_swapOut_ok done with ⟨yields, -, rfl⟩ | ⟨-, failed⟩
    · exact filed_takenOut history.reached.orderly.world
        (history.reached.throughout enduring_bounded) yields unlinked
    · exact absurd rfl failed

/-- An animation of two frames with three pixels in all is swapped out by the program, and its file is
55 bytes long. -/
theorem animation_is_stored_in_55_bytes :
    ∃ past c d f, History [] (past ++ [⟨c, .op (.swapOut 0), d⟩]) d ∧
      Filed c.world d.world 0
        (.animation ⟨[⟨1, 1, 8, ⟨#[7]⟩⟩, ⟨2, 1, 8, ⟨#[8, 9]⟩⟩], 0⟩) f ∧
      (d.world.graphicView 0).file = some 55 ∧
      (c.world.manager 0).used = 3 ∧ (d.world.manager 0).used = 0 := by
  have managed := History.next (.start : History [] _ _)
    (.op (o := .addManager .builtIn false) rfl trivial rfl)
  have made := managed.next (.make (m := 0)
    (o := .payload (.animation ⟨[⟨1, 1, 8, ⟨#[7]⟩⟩, ⟨2, 1, 8, ⟨#[8, 9]⟩⟩], 0⟩))
    rfl (by decide) (by rintro p ⟨⟩; decide) rfl)
  have bound := (made.next (.settle rfl)).next
    (.op (o := .bind "film" (.graphic 0) 1) rfl (.inr (by decide)) rfl)
  have swapped := bound.next (.op (o := .swapOut 0) rfl rfl rfl)
  obtain ⟨stored, -⟩ := swapping_out_costs_the_encoding swapped
  obtain ⟨p, f, filed, uncounted⟩ := stored _ (List.mem_append_right _ List.mem_cons_self) 0
    (by decide) rfl rfl rfl
  obtain rfl := Option.some.inj filed.payload
  refine ⟨_, _, _, f, swapped, filed, ?_, rfl, ?_⟩
  · rw [filed.seen, filed.length]
    rfl
  · exact uncounted nofun _ filed.read

end Run

end GraphicCache
