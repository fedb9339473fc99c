/-
The shapes of a graphic. In every state of every run a graphic has its payload in memory, or it is
swapped out and has something to come back from, or there is nothing; and what is seen of it tells
which. That holds whatever becomes of swap files outside, for a failed move leaves a graphic as it
was, and a move that comes to its end brings a graphic from one shape into another as a whole.
-/
import GraphicCache.Proofs.Run.Contents

namespace GraphicCache

namespace Content

variable {c c' : Content} {p : Payload} {id n : Nat} {now : Moment} {canStore : Bool}

/-! ## Shapes -/

/-- The payload is in memory, and nothing is behind it but the link that it was made from. -/
structure Loaded (c : Content) (p : Payload) : Prop where
  payload : c.payload = some p
  inside : c.swappedOut = false
  kind : c.kind = p.kind
  external : c.external = none
  backing : c.backing = .none ∨ ∃ link page, c.backing = .link link page ∧ link.payload page = p

/-- The payload is out of memory, and there is a link or a swap file behind it. -/
structure Stored (c : Content) : Prop where
  payload : c.payload = none
  out : c.swappedOut = true
  external : c.external = none
  backing : c.backing ≠ .none

/-- There is nothing at all, or only a reference to something outside. -/
structure Bare (c : Content) : Prop extends Blank c where
  refers : c.kind = .empty ∧ c.external = none ∨
    c.kind = .externalLink ∧ ∃ url, c.external = some url

inductive Shape where
  | loaded
  | stored
  | bare

/-- The content has the shape. -/
def Is (c : Content) : Shape → Prop
  | .loaded => ∃ p, c.Loaded p
  | .stored => c.Stored
  | .bare => c.Bare

def Shaped (c : Content) : Prop := ∃ s, c.Is s

theorem Loaded.shaped (h : c.Loaded p) : c.Shaped := ⟨.loaded, p, h⟩

theorem Stored.shaped (h : c.Stored) : c.Shaped := ⟨.stored, h⟩

theorem Bare.shaped (h : c.Bare) : c.Shaped := ⟨.bare, h⟩

theorem Shaped.cases (h : c.Shaped) : (∃ p, c.Loaded p) ∨ c.Stored ∨ c.Bare := by
  obtain ⟨s, shape⟩ := h
  cases s with
  | loaded => exact .inl shape
  | stored => exact .inr (.inl shape)
  | bare => exact .inr (.inr shape)

/-- Whether there is a payload and whether it is swapped out tells the shapes apart. -/
def Shape.sign : Shape → Bool × Bool
  | .loaded => (true, false)
  | .stored => (false, true)
  | .bare => (false, false)

theorem Is.sign {s : Shape} (h : c.Is s) : (c.payload.isSome, c.swappedOut) = s.sign := by
  cases s with
  | loaded =>
    obtain ⟨p, loaded⟩ := h
    rw [loaded.payload, loaded.inside]
    rfl
  | stored => rw [Stored.payload h, Stored.out h]; rfl
  | bare => rw [(Bare.toBlank h).payload, (Bare.toBlank h).inside]; rfl

/-- No content has two shapes. -/
theorem Is.unique {s s' : Shape} (h : c.Is s) (h' : c.Is s') : s = s' := by
  have same : s.sign = s'.sign := h.sign.symm.trans h'.sign
  cases s <;> cases s' <;> first | rfl | cases same

/-! ## What tells a shape -/

/-- A payload in a content is in memory. -/
theorem Shaped.loaded (h : c.Shaped) (payload : c.payload = some p) : c.Loaded p := by
  rcases h.cases with ⟨q, loaded⟩ | stored | bare
  · have same := loaded.payload.symm.trans payload
    cases same
    exact loaded
  · cases stored.payload.symm.trans payload
  · cases bare.payload.symm.trans payload

/-- What is swapped out is stored. -/
theorem Shaped.stored (h : c.Shaped) (out : c.swappedOut = true) : c.Stored := by
  rcases h.cases with ⟨p, loaded⟩ | stored | bare
  · cases loaded.inside.symm.trans out
  · exact stored
  · cases bare.inside.symm.trans out

/-- So is what has a swap file. -/
theorem Shaped.stored_of_file (h : c.Shaped) {file : SwapFile} (backing : c.backing = .file file) :
    c.Stored := by
  rcases h.cases with ⟨p, loaded⟩ | stored | bare
  · rcases loaded.backing with none | ⟨link, page, linked, -⟩
    · cases none.symm.trans backing
    · cases linked.symm.trans backing
  · exact stored
  · cases bare.backing.symm.trans backing

theorem swapFile?_eq_some {file : SwapFile} :
    c.swapFile? = some file ↔ c.backing = .file file := by
  unfold swapFile?
  cases c.backing with
  | none => exact ⟨nofun, nofun⟩
  | link link page => exact ⟨nofun, nofun⟩
  | file f => exact ⟨fun same => by cases same; rfl, fun same => by cases same; rfl⟩

/-! ## Beginnings -/

theorem loaded_ofPayload (p : Payload) (now : Moment) : (ofPayload p now).Loaded p :=
  ⟨rfl, rfl, rfl, rfl, .inl rfl⟩

theorem loaded_replace (c : Content) (p : Payload) (now : Moment) : (c.replace p now).Loaded p :=
  ⟨rfl, rfl, rfl, rfl, .inl rfl⟩

theorem stored_ofLink (link : Link) (page : Option Int32) (now : Moment) :
    (ofLink link page now).Stored :=
  ⟨rfl, rfl, rfl, nofun⟩

theorem bare_empty (now : Moment) : (empty now).Bare := ⟨blank_empty now, .inl ⟨rfl, rfl⟩⟩

theorem bare_ofExternal (url : String) (now : Moment) : (ofExternal url now).Bare :=
  ⟨blank_ofExternal url now, .inr ⟨rfl, url, rfl⟩⟩

/-- A copy is in memory, unless it is of a link or of nothing. -/
theorem shaped_of_duplicate (copied : c.duplicate now = .ok c') : c'.Shaped := by
  unfold duplicate at copied
  split at copied
  · cases copied
    exact (loaded_ofPayload _ now).shaped
  · cases copied
    exact (bare_ofExternal _ now).shaped
  · split at copied
    · cases copied
      exact (stored_ofLink _ _ now).shaped
    · next f _ =>
      cases read : f.read with
      | error e =>
        rw [read] at copied
        cases copied
      | ok p =>
        rw [read] at copied
        cases copied
        exact (loaded_ofPayload _ now).shaped
    · cases copied
      exact (bare_empty now).shaped

/-! ## Moves -/

/-- Swapping out stores what was in memory. -/
theorem Shaped.swapOut (h : c.Shaped) (out : c.swapOut canStore = .ok (some (c', n))) :
    c'.Stored := by
  obtain ⟨p, payload, -, -, moved⟩ := swapOut_ok out
  have external : c.external = none := (h.loaded payload).external
  rcases moved with ⟨link, page, backing, rfl⟩ | ⟨-, rfl⟩
  · refine ⟨rfl, rfl, external, fun none => ?_⟩
    have none : c.backing = .none := none
    cases none.symm.trans backing
  · exact ⟨rfl, rfl, external, nofun⟩

/-- Swapping out keeps a link, and writes no file. -/
theorem swapOut_linked {link : Link} {page : Option Int32} (linked : c.backing = .link link page)
    (out : c.swapOut canStore = .ok (some (c', n))) : c'.backing = .link link page := by
  obtain ⟨p, -, -, -, ⟨link', page', -, rfl⟩ | ⟨noLink, -⟩⟩ := swapOut_ok out
  · exact linked
  · exact absurd linked (noLink link page)

/-- Restoring keeps a link, and brings back what it stands for. -/
theorem restore_linked {link : Link} {page : Option Int32} (linked : c.backing = .link link page)
    (back : c.restore id now = .ok (some (c', n))) :
    c'.backing = .link link page ∧ c'.payload = some (link.payload page) := by
  unfold restore at back
  split at back
  · have recovered : c.recover id = .ok (link.payload page) := by
      unfold recover
      rw [linked]
    rw [recovered, linked] at back
    cases back
    exact ⟨rfl, rfl⟩
  · cases back

/-- Restoring loads what was stored. -/
theorem Shaped.restore (h : c.Shaped) (back : c.restore id now = .ok (some (c', n))) :
    ∃ p, c'.Loaded p := by
  obtain ⟨p, out, -, -, payload, inside, kind, external, backing⟩ := restore_ok back
  have stored : c.Stored := h.stored out
  refine ⟨p, payload, inside, kind, external.trans stored.external, ?_⟩
  rcases backing with none | ⟨-, noFile⟩
  · exact .inl none
  · cases linked : c.backing with
    | none => exact absurd linked stored.backing
    | file f => exact absurd linked (noFile f)
    | link link page =>
      obtain ⟨kept, payload'⟩ := restore_linked linked back
      exact .inr ⟨link, page, kept, Option.some.inj (payload'.symm.trans payload)⟩

/-- What is stored is lost only with a swap file that cannot be read. -/
theorem Stored.recover_error (stored : c.Stored) {fault : Fault}
    (failed : c.recover id = .error fault) :
    ∃ file e, c.backing = .file file ∧ file.read = .error e ∧ fault = .undecodable e := by
  unfold recover at failed
  cases backing : c.backing with
  | none => exact absurd backing stored.backing
  | link link page =>
    rw [backing] at failed
    cases failed
  | file f =>
    rw [backing] at failed
    dsimp only at failed
    cases read : f.read with
    | ok p =>
      rw [read] at failed
      cases failed
    | error e =>
      rw [read] at failed
      cases failed
      exact ⟨f, e, rfl, read, rfl⟩

/-- So restoring fails only over such a file. -/
theorem Shaped.restore_error (h : c.Shaped) {fault : Fault}
    (failed : c.restore id now = .error fault) :
    ∃ file e, c.backing = .file file ∧ file.read = .error e ∧ fault = .undecodable e := by
  unfold Content.restore at failed
  split at failed
  · next out =>
    cases recovered : c.recover id with
    | ok p =>
      rw [recovered] at failed
      cases failed
    | error e =>
      rw [recovered] at failed
      cases failed
      exact (h.stored out).recover_error recovered
  · cases failed

/-- When it was used last is no part of a shape. -/
theorem Shaped.touch (h : c.Shaped) (lastUsed : Moment) :
    ({ c with lastUsed := lastUsed } : Content).Shaped := by
  rcases h.cases with ⟨p, payload, inside, kind, external, backing⟩ |
    ⟨payload, out, external, backing⟩ | ⟨blank, refers⟩
  · exact Loaded.shaped (p := p) ⟨payload, inside, kind, external, backing⟩
  · exact Stored.shaped ⟨payload, out, external, backing⟩
  · exact Bare.shaped ⟨blank.touch lastUsed, refers⟩

/-- Another swap file in the place of one is as good for the shape. -/
theorem Shaped.alter (h : c.Shaped) {file : SwapFile} (found : c.swapFile? = some file)
    (file' : SwapFile) : ({ c with backing := .file file' } : Content).Shaped := by
  have stored := h.stored_of_file (swapFile?_eq_some.1 found)
  exact Stored.shaped ⟨stored.payload, stored.out, stored.external, nofun⟩

/-! ## What is seen of a shape -/

theorem Shaped.isAvailable_iff (h : c.Shaped) : c.isAvailable = true ↔ c.Is .loaded := by
  unfold isAvailable
  constructor
  · intro available
    obtain ⟨p, payload⟩ := Option.isSome_iff_exists.1 (Bool.and_eq_true_iff.1 available).2
    exact ⟨p, h.loaded payload⟩
  · rintro ⟨p, loaded⟩
    rw [loaded.payload, loaded.inside]
    rfl

theorem Shaped.size_eq_zero (h : c.Shaped) (other : ¬ c.Is .loaded) : c.size = 0 := by
  unfold size
  cases payload : c.payload with
  | none => rfl
  | some p => exact absurd ⟨p, h.loaded payload⟩ other

/-- There is a swap file exactly behind what is stored without a link. -/
theorem Shaped.swapFile?_isSome_iff (h : c.Shaped) :
    c.swapFile?.isSome = true ↔ c.Is .stored ∧ ∀ link page, c.backing ≠ .link link page := by
  rw [Option.isSome_iff_exists]
  simp only [swapFile?_eq_some]
  constructor
  · rintro ⟨file, backing⟩
    exact ⟨h.stored_of_file backing, fun link page linked => nomatch linked.symm.trans backing⟩
  · rintro ⟨stored, noLink⟩
    cases backing : c.backing with
    | none => exact absurd backing (Stored.backing stored)
    | link link page => exact absurd backing (noLink link page)
    | file f => exact ⟨f, rfl⟩

end Content

namespace Run

open Effect

variable {w w' : World} {g : Nat} {c d : State} {a : Action} {acts : List Action}

/-! ## All graphics of a world -/

/-- Whatever becomes of a content, it has a shape. -/
theorem enduring_shaped : Enduring Content.Shaped where
  origin {o now} _ := by
    cases o with
    | payload p => exact (Content.loaded_ofPayload p now).shaped
    | empty => exact (Content.bare_empty now).shaped
    | external url => exact (Content.bare_ofExternal url now).shaped
    | link link page => exact (Content.stored_ofLink link page now).shaped
  duplicate _ copied := Content.shaped_of_duplicate copied
  swapOut h out := (h.swapOut out).shaped
  restore h back := by
    obtain ⟨p, loaded⟩ := h.restore back
    exact loaded.shaped
  replace _ _ := (Content.loaded_replace _ _ _).shaped
  touch lastUsed h := h.touch lastUsed
  alter file' h found := h.alter found file'

theorem Reached.allShaped {environment : Names String} (reached : Reached environment acts c) :
    Throughout Content.Shaped c.world :=
  reached.throughout enduring_shaped

/-! ## Links stay -/

/-- The action is another one than giving the graphic a payload. -/
def Action.Spares (g : Nat) (a : Action) : Prop :=
  ∀ p, a ≠ .op (.replace g p) ∧ a ≠ .halt (some (.replace g p))

/-- The graphic comes back from a link. -/
def Linked (g : Nat) (link : Link) (page : Option Int32) (w : World) : Prop :=
  (w.graphic g).backing = .link link page

namespace Linked

variable {link : Link} {page : Option Int32}

theorem congr (h : Linked g link page w) (graphics : w'.graphics = w.graphics) :
    Linked g link page w' := by
  unfold Linked World.graphic
  rw [graphics]
  exact h

theorem made (h : Linked g link page w) : g < w.graphics.size := by
  by_contra absent
  unfold Linked at h
  rw [w.graphic_of_size_le g (by omega)] at h
  cases h

theorem updateGraphic (h : Linked g link page w) {k : Nat} {f : Graphic → Graphic}
    (linked : k = g → (f (w.graphic g)).backing = .link link page) :
    Linked g link page (w.updateGraphic k f) := by
  unfold Linked
  rw [World.graphic_updateGraphic]
  split
  · next same => exact linked same.1
  · exact h

end Linked

variable {link : Link} {page : Option Int32}

theorem stable_linked (g : Nat) (link : Link) (page : Option Int32) :
    Stable (Linked g link page) where
  manager _ h := h.congr rfl
  content {w k content} moved h := by
    refine h.updateGraphic fun same => ?_
    subst same
    rcases moved with ⟨canStore, freed, out⟩ | ⟨id, now, restored, back⟩
    · exact Content.swapOut_linked h out
    · exact (Content.restore_linked h back).1
  busy {w k f} busy h := by
    refine h.updateGraphic fun same => ?_
    rw [busy]
    exact h
  hands _ _ h := h.congr rfl
  clock _ h := h.congr rfl

theorem Linked.effect (h : Linked g link page w) {o : Op} (ready : o.Ready w)
    (spares : ∀ p, o ≠ .replace g p) : Linked g link page (left o.effect w) := by
  refine (stable_linked g link page).effect ready h (fun k p is => ?_) (fun k f _ file found => ?_)
    (fun k _ => h.congr rfl) (fun name handle id _ => h.congr rfl)
    (fun config timer => h.congr rfl) fun f is => ?_
  · refine h.updateGraphic fun same => ?_
    subst same
    exact absurd is (spares p)
  -- what comes back from a link has no file that could be altered
  · refine h.updateGraphic fun same => ?_
    subst same
    cases (Content.swapFile?_eq_some.1 found).symm.trans h
  · subst is
    exact h.congr ready.graphics

/-- Every step keeps a link, but one that gives the graphic a payload. -/
theorem Linked.step (h : Linked g link page c.world) (spares : a.Spares g) (step : Step c a d) :
    Linked g link page d.world := by
  have st := stable_linked g link page
  cases step.conduct with
  | operates done ready world same =>
    rw [world]
    refine h.effect ready fun p is => ?_
    subst is
    exact done.elim (spares p).1 (spares p).2
  | makes source made same =>
    obtain ⟨-, -, created⟩ := Swapping.create_ok made
    unfold Linked
    rw [created, World.graphic_addGraphic, if_neg (Nat.ne_of_lt (by exact h.made))]
    exact h
  | begins held world more =>
    rw [world]
    exact st.fetch _ (st.beginOperation _ h)
  | ends world fewer =>
    rw [world]
    exact st.endOperation _ h
  | rest keeps same => exact keeps st.everyday (fun h => h.congr rfl) h

/-! ## The result -/

/-- In every state of every run, whatever was done to swap files and wherever a move failed or
halted, every graphic has exactly one shape. It is available exactly if it is loaded, without that it
has no bytes in memory, and a swap file is seen of it exactly if it is stored without a link. A link
stays behind a graphic until the graphic is given another payload. And a graphic that is swapped out
always has something to come back from: restoring it fails only over a swap file that cannot be
read. -/
theorem graphics_have_one_shape {environment : Names String} (reached : Reached environment acts c)
    (g : Nat) :
    (∃! s, (c.world.graphic g).Is s) ∧
    ((c.world.graphicView g).available = true ↔ (c.world.graphic g).Is .loaded) ∧
    (¬ (c.world.graphic g).Is .loaded → (c.world.graphicView g).size = 0) ∧
    ((c.world.graphicView g).file.isSome = true ↔
      (c.world.graphic g).Is .stored ∧ ∀ link page, (c.world.graphic g).backing ≠ .link link page) ∧
    (∀ link page, (c.world.graphic g).backing = .link link page →
      ∀ base acts' d, Path base c acts' d → (∀ a ∈ acts', a.Spares g) →
        (d.world.graphic g).backing = .link link page) ∧
    ∀ id now fault, (c.world.graphic g).restore id now = .error fault →
      ∃ file e, (c.world.graphic g).backing = .file file ∧ file.read = .error e ∧
        fault = .undecodable e := by
  have shaped := reached.allShaped g
  refine ⟨?_, shaped.isAvailable_iff, shaped.size_eq_zero, ?_, ?_, ?_⟩
  · obtain ⟨s, shape⟩ := shaped
    exact ⟨s, shape, fun s' shape' => shape'.unique shape⟩
  · rw [← shaped.swapFile?_isSome_iff]
    show ((c.world.graphic g).swapFile?.map _).isSome = true ↔ _
    rw [Option.isSome_map]
  · intro link page linked base acts' d path spares
    exact path.invariant (P := fun c => Linked g link page c.world) spares linked
      fun h spares step => h.step spares step
  · exact fun id now fault failed => shaped.restore_error failed

/-- A picture that was made from a link and is in memory is swapped out, and no file is written. -/
theorem linked_picture_keeps_link :
    ∃ acts c d, Reached [] acts c ∧ Step c (.op (.swapOut 0)) d ∧ (c.world.graphic 0).Is .loaded ∧
      (d.world.graphic 0).swappedOut = true ∧
      (d.world.graphic 0).backing = .link ⟨.png, ⟨#[7]⟩⟩ none := by
  have managed := (reached_start []).next (.op (o := .addManager .builtIn false) rfl trivial rfl)
  have made := managed.next (.make (m := 0) (o := .link ⟨.png, ⟨#[7]⟩⟩ none)
    rfl (by decide) (by rintro p ⟨⟩; decide) rfl)
  have settled := made.next (.settle rfl)
  have bound := settled.next (.op (o := .bind "picture" (.graphic 0) 1) rfl (.inr (by decide)) rfl)
  have loaded := bound.next (.op (o := .swapIn 0) rfl rfl rfl)
  obtain ⟨-, available, -, -, linked, -⟩ := graphics_have_one_shape loaded 0
  refine ⟨_, _, _, loaded, .op (o := .swapOut 0) rfl rfl rfl, available.1 rfl, rfl, ?_⟩
  refine linked _ _ rfl [] [.op (.swapOut 0)] _ ?_ (by simp [Action.Spares])
  exact .one (.op (o := .swapOut 0) rfl rfl rfl) List.nil_suffix List.nil_suffix

end Run

end GraphicCache
