/-
Swapping is invisible. A plain list says for every graphic which payload it was given last: when it
was made, when it was copied, or when the payload was replaced. However a run swaps graphics in and
out, a graphic goes on showing that payload, as long as nobody alters swap files.
-/
import GraphicCache.Proofs.Content
import GraphicCache.Proofs.Run.Frame
import GraphicCache.Proofs.Sweep.Record

namespace GraphicCache.Run

open Effect

variable {gifts : List (Option Payload)} {c d : State} {a : Action} {acts : List Action}
  {w : World} {g : Nat} {p : Payload}

/-! ## What graphics were given -/

/-- What an operation makes of the payloads that graphics were given. -/
def Op.gives (gifts : List (Option Payload)) : Op → List (Option Payload)
  | .replace g p => gifts.set g (some p)
  | _ => gifts

/-- What an action makes of them. A copy is given what its source was given at that time; a payload
counts as given even if the manager halts over its size. -/
def Action.gives (gifts : List (Option Payload)) : Action → List (Option Payload)
  | .op o => o.gives gifts
  | .halt (some o) => o.gives gifts
  | .make origin => gifts ++ [origin.gift]
  | .copy source => gifts ++ [gifts[source]?.getD none]
  | _ => gifts

/-- The payload that a graphic was given last, if it was given one. -/
def gift (acts : List Action) (g : Nat) : Option Payload :=
  (acts.foldl Action.gives [])[g]?.getD none

/-! ## Showing what was given -/

/-- Every graphic shows what it was given. -/
structure Showing (gifts : List (Option Payload)) (w : World) : Prop where
  count : w.graphics.size = gifts.length
  shows : ∀ g, (w.graphic g).toContent.Shows (gifts[g]?.getD none)

/-- Graphics are all that matters. -/
theorem Showing.congr {v : World} (h : Showing gifts w) (graphics : v.graphics = w.graphics) :
    Showing gifts v := by
  refine ⟨graphics ▸ h.count, ?_⟩
  intro g
  have same : v.graphic g = w.graphic g := by
    unfold World.graphic
    rw [graphics]
  rw [same]
  exact h.shows g

/-- A change of one graphic that shows the same afterwards. -/
theorem Showing.updateGraphic (h : Showing gifts w) {f : Graphic → Graphic}
    (shows : (f (w.graphic g)).toContent.Shows (gifts[g]?.getD none)) :
    Showing gifts (w.updateGraphic g f) := by
  refine ⟨(w.size_updateGraphic g f).trans h.count, ?_⟩
  intro k
  rw [World.graphic_updateGraphic]
  split
  · next same =>
    obtain ⟨rfl, -⟩ := same
    exact shows
  · exact h.shows k

/-- Swapping and the use of graphics leave what they show as it is. -/
theorem stable_showing (gifts : List (Option Payload)) : Stable (Showing gifts) where
  manager _ hw := hw.congr rfl
  content {w g content} swapped hw := by
    refine hw.updateGraphic ?_
    rcases swapped with ⟨canStore, freed, out⟩ | ⟨id, now, restored, back⟩
    · exact (hw.shows g).swapOut out
    · exact (hw.shows g).restore back
  busy {w g f} busy hw := by
    refine hw.updateGraphic ?_
    rw [busy]
    exact (hw.shows g).touch _
  hands _ _ hw := hw.congr rfl
  clock _ hw := hw.congr rfl

/-- A graphic that is given another payload shows it. -/
theorem Showing.replace (h : Showing gifts w) (fits : p.Fits) :
    Showing (gifts.set g (some p)) (w.setContent g ((w.graphic g).toContent.replace p w.now)) := by
  constructor
  · rw [List.length_set, ← h.count]
    exact w.size_updateGraphic g _
  · intro k
    show ((w.updateGraphic g _).graphic k).toContent.Shows _
    rw [World.graphic_updateGraphic, List.getElem?_set]
    by_cases same : g = k
    · subst same
      by_cases there : g < w.graphics.size
      · rw [if_pos ⟨rfl, there⟩, if_pos rfl, if_pos (h.count ▸ there)]
        exact Content.shown_replace fits w.now (w.graphic g).toContent
      · rw [if_neg fun both => there both.2, if_pos rfl, if_neg (h.count ▸ there),
          w.graphic_of_size_le g (by omega)]
        exact Content.blank_empty 0
    · rw [if_neg fun both => same both.1, if_neg same]
      exact h.shows k

/-- A graphic that is made is given what it shows. -/
theorem Showing.addGraphic {gift : Option Payload} {x : Graphic} (h : Showing gifts w)
    (shows : x.toContent.Shows gift) : Showing (gifts ++ [gift]) (w.addGraphic x) := by
  refine ⟨by simp [h.count], ?_⟩
  intro k
  rw [World.graphic_addGraphic]
  split
  · next last =>
    rw [last, h.count, List.getElem?_concat_length]
    exact shows
  · next other =>
    by_cases there : k < gifts.length
    · rw [List.getElem?_append_left there]
      exact h.shows k
    · have count := h.count
      have length : (gifts ++ [gift]).length = gifts.length + 1 := by simp
      rw [List.getElem?_eq_none (by omega), w.graphic_of_size_le k (by omega)]
      exact Content.blank_empty 0

/-! ## Steps -/

theorem showing_origin {origin : Origin} (fits : ∀ p, origin.gift = some p → p.Fits)
    (now : Moment) : (origin.content now).Shows origin.gift := by
  cases origin with
  | payload p => exact Content.shown_ofPayload (fits p rfl) now
  | empty => exact Content.blank_empty now
  | external url => exact Content.blank_ofExternal url now
  | link link page => exact Content.shown_ofLink (fits _ rfl) now

/-- Every operation but one that alters a swap file. -/
theorem Showing.effect (h : Showing gifts w) {o : Op} (ready : o.Ready w)
    (kept : ∀ g f, o ≠ .alterFile g f) : Showing (o.gives gifts) (left o.effect w) := by
  by_cases replaces : ∃ g p, o = .replace g p
  · obtain ⟨g, p, rfl⟩ := replaces
    have st := stable_showing (gifts.set g (some p))
    exact st.usable.announceResize _ (h.replace ready.2)
  · have same : o.gives gifts = gifts := by
      cases o with
      | replace g p => exact absurd ⟨g, p, rfl⟩ replaces
      | _ => rfl
    rw [same]
    refine (stable_showing gifts).effect ready h (fun g p is => absurd ⟨g, p, is⟩ replaces)
      (fun g f is => absurd is (kept g f)) (fun g _ => h.congr rfl)
      (fun name handle id _ => h.congr rfl) (fun config timer => h.congr rfl) fun f is => ?_
    subst is
    exact h.congr ready.graphics

/-- Altering a swap file does not halt. -/
theorem alterFile_runs (g : Nat) (f : SwapFile → SwapFile) (w : World) :
    ∃ w', (Op.alterFile g f).effect w = .ok () w' := by
  obtain ⟨r, w', changed⟩ : ∃ r w', Script.changeFile g f w = .ok r w' := by
    unfold Script.changeFile Script.withFile
    rw [get_bind_apply]
    cases (w.graphic g).swapFile? with
    | none => exact ⟨_, _, rfl⟩
    | some file => exact ⟨_, _, rfl⟩
  exact ⟨w', bind_of_ok changed⟩

theorem preserves_showing_book {m id : Nat} {o : ObjectRef} :
    Preserves (Showing gifts) (Accounting.book m id o) := by
  have enters : Preserves (Showing gifts) (Accounting.enter m id o) :=
    preserves_change fun w hw => hw.congr rfl
  exact Accounting.preserves_book (stable_showing gifts).usable.counts enters

/-- What a step makes of the gifts, its graphics show. -/
theorem Showing.step (h : Showing gifts c.world) (kept : ∀ g f, a ≠ .op (.alterFile g f))
    (step : Step c a d) : Showing (a.gives gifts) d.world := by
  have st := stable_showing gifts
  cases step with
  | op free ready done =>
    exact left_of_ok done ▸ h.effect ready fun g f is => kept g f (congrArg _ is)
  | opHalts free ready halts =>
    refine left_of_error halts ▸ h.effect ready fun g f is => ?_
    -- the change of a file does not halt
    subst is
    obtain ⟨w', runs⟩ := alterFile_runs g f _
    cases runs.symm.trans halts
  | make free there fits made =>
    obtain ⟨-, -, rfl⟩ := Swapping.create_ok made
    exact (st.manager Accounting.tame_takeId h).addGraphic (showing_origin fits _)
  | copy free there held duplicated made =>
    obtain ⟨-, -, rfl⟩ := Swapping.create_ok made
    exact (st.manager Accounting.tame_takeId h).addGraphic ((h.shows _).duplicate duplicated)
  | enlist free there fresh => exact (Accounting.preserves_freshId st.manager).ok fresh h
  | settle done => exact preserves_showing_book.ok done h
  | settleHalts halts => exact preserves_showing_book.error halts h
  | enter free held begun fetched => exact st.fetch.ok fetched (st.beginOperation.ok begun h)
  | leave done => exact st.endOperation.ok done h
  | call | answer | answerHalts | skip | askScripted | look => exact h
  | sweep | suppress => exact h.congr rfl
  | ask asked done => exact st.swapOut.ok done h
  | askHalts asked halts => exact st.swapOut.error halts h
  | finish ended done =>
    obtain ⟨total, -, rfl⟩ := Sweep.finish_ok done
    exact h.congr rfl
  | finishHalts ended halts =>
    rw [Sweep.finish_error halts]
    exact h

/-- In every state of a run every graphic shows what it was given last. -/
theorem Reached.showing {environment : Names String} (reached : Reached environment acts c)
    (kept : ∀ g f, Action.op (.alterFile g f) ∉ acts) :
    Showing (acts.foldl Action.gives []) c.world := by
  have path : Path [] ⟨[], .start environment⟩ acts c := reached
  induction path with
  | refl => exact ⟨rfl, fun g => Content.blank_empty 0⟩
  | snoc path step above ih =>
    rw [List.foldl_append]
    refine (ih path fun g f => ?_).step (fun g f is => ?_) step
    · exact fun inside => kept g f (List.mem_append_left _ inside)
    · exact kept g f (is ▸ by simp)

/-! ## Reading -/

/-- The graphic is out of memory, and the count of its manager cannot take in the payload. -/
def Overfull (w : World) (g : Nat) (p : Payload) : Prop :=
  (w.graphic g).swappedOut = true ∧
    Amount.fits ((w.manager (w.graphic g).manager).used + p.size) = false

instance decidableOverfull (w : World) (g : Nat) (p : Payload) : Decidable (Overfull w g p) :=
  inferInstanceAs (Decidable (_ ∧ _))

/-- What shows a payload was made. -/
theorem there_of_shown (shown : (w.graphic g).Shown p) : g < w.graphics.size := by
  by_contra absent
  rw [w.graphic_of_size_le g (by omega)] at shown
  cases shown.inside rfl

/-- A payload in memory stays there. -/
theorem swapIn_of_inside (inside : (w.graphic g).swappedOut = false) :
    Swapping.swapIn g w = .ok (.ok false) w :=
  Swapping.swapIn_of_none (Content.restore_of_inside inside _ _)

/-- A payload out of memory comes back, and its manager is told so. -/
theorem swapIn_of_outside (shown : (w.graphic g).Shown p) (out : (w.graphic g).swappedOut = true) :
    ∃ v, (v.graphic g).payload = some p ∧ v.managers = w.managers ∧
      Swapping.swapIn g w = (Accounting.announceIn (w.graphic g).manager p.size >>= fun _ =>
        pure (.ok true)) v := by
  obtain ⟨content, back, payload⟩ := shown.restore_eq out (w.graphic g).id w.now
  have restored : ((w.setContent g content).graphic g).payload = some p := by
    show ((w.updateGraphic g _).graphic g).payload = _
    rw [World.graphic_updateGraphic_self _ _ (there_of_shown shown)]
    exact payload
  exact ⟨_, restored, rfl, Swapping.swapIn_of_some back⟩

/-- Swapping in brings about what was given, unless the manager halts over its size. -/
theorem swapIn_of_shown (shown : (w.graphic g).Shown p) :
    (¬ Overfull w g p → ∃ r v, Swapping.swapIn g w = .ok (.ok r) v ∧
        (v.graphic g).payload = some p) ∧
      (Overfull w g p → ∃ v, Swapping.swapIn g w = .error (.overflow .add) v) := by
  constructor
  · intro room
    cases out : (w.graphic g).swappedOut with
    | false => exact ⟨false, w, swapIn_of_inside out, shown.inside out⟩
    | true =>
      obtain ⟨v, payload, managers, moved⟩ := swapIn_of_outside shown out
      have fits : Amount.fits ((v.manager (w.graphic g).manager).used + p.size) = true := by
        unfold World.manager
        rw [managers]
        exact Bool.of_not_eq_false fun full => room ⟨out, full⟩
      exact ⟨true, _, moved.trans (bind_of_ok (Accounting.credit_of_fits fits)), payload⟩
  · rintro ⟨out, full⟩
    obtain ⟨v, -, managers, moved⟩ := swapIn_of_outside shown out
    have full' : Amount.fits ((v.manager (w.graphic g).manager).used + p.size) = false := by
      unfold World.manager
      rw [managers]
      exact full
    exact ⟨v, moved.trans (bind_of_error (Accounting.credit_of_overflow full'))⟩

/-! The use of a graphic is no part of what it shows. -/

theorem shown_busy {f : Graphic → Graphic} (busy : Busy f) (shown : (w.graphic g).Shown p) :
    ((w.updateGraphic g f).graphic g).Shown p := by
  rw [w.graphic_updateGraphic_self g (there_of_shown shown), busy]
  exact Content.Shown.touch shown _

theorem blank_busy {f : Graphic → Graphic} (busy : Busy f) (blank : (w.graphic g).Blank) :
    ((w.updateGraphic g f).graphic g).Blank := by
  rw [World.graphic_updateGraphic]
  split
  · rw [busy]
    exact blank.touch _
  · exact blank

theorem id_busy {f : Graphic → Graphic} (busy : Busy f) :
    ((w.updateGraphic g f).graphic g).id = (w.graphic g).id :=
  w.updateGraphic_keeps (q := Graphic.id) g g fun x => by rw [busy x]

theorem overfull_busy {f : Graphic → Graphic} (busy : Busy f) :
    Overfull (w.updateGraphic g f) g p ↔ Overfull w g p := by
  have out : ((w.updateGraphic g f).graphic g).swappedOut = (w.graphic g).swappedOut :=
    w.updateGraphic_keeps (q := fun x => x.swappedOut) g g fun x => by rw [busy x]
  have manager : ((w.updateGraphic g f).graphic g).manager = (w.graphic g).manager :=
    w.updateGraphic_keeps (q := Graphic.manager) g g fun x => by rw [busy x]
  unfold Overfull
  rw [out, manager, World.manager_updateGraphic]

theorem fetch_of_shown (shown : (w.graphic g).Shown p) :
    (¬ Overfull w g p → ∃ v, Swapping.fetch g w = .ok (.ok p) v) ∧
      (Overfull w g p → ∃ v, Swapping.fetch g w = .error (.overflow .add) v) := by
  have busy : Busy fun x => { x with lastUsed := w.now } := fun _ => rfl
  obtain ⟨comes, halts⟩ := swapIn_of_shown (shown_busy busy shown)
  rw [Swapping.fetch_apply]
  constructor
  · intro room
    obtain ⟨r, v, moved, payload⟩ := comes fun full => room ((overfull_busy busy).1 full)
    rw [bind_of_ok moved]
    dsimp only
    rw [get_bind_apply, payload]
    exact ⟨v, rfl⟩
  · intro full
    obtain ⟨v, moved⟩ := halts ((overfull_busy busy).2 full)
    exact ⟨v, bind_of_error moved⟩

/-- What shows nothing cannot be fetched. -/
theorem fetch_of_blank (blank : (w.graphic g).Blank) :
    ∃ v, Swapping.fetch g w = .ok (.error (.notAvailable (w.graphic g).id)) v := by
  have busy : Busy fun x => { x with lastUsed := w.now } := fun _ => rfl
  obtain ⟨payload, inside, -⟩ := blank_busy busy blank
  have id := id_busy (w := w) (g := g) busy
  rw [Swapping.fetch_apply, bind_of_ok (swapIn_of_inside inside)]
  dsimp only
  rw [get_bind_apply, payload, id]
  exact ⟨_, rfl⟩

/-- Swapping is invisible to the users of a graphic. In every state of a run in which no swap file
is altered, in the middle of readings, swap-outs and sweeps too and after halts, a graphic that was
given a payload has its kind, and whatever is done with it is done with exactly the payload that it
was given last. The one way in which that fails is that the payload is out of memory and the count
of its manager cannot take in its size; then the reading halts before it begins. A graphic that was
given no payload is reported as not available, under its id. -/
theorem swapping_is_invisible {environment : Names String} (reached : Reached environment acts c)
    (kept : ∀ g f, Action.op (.alterFile g f) ∉ acts) (g : Nat) :
    match gift acts g with
    | some p =>
      (c.world.graphic g).kind = p.kind ∧
        (¬ Overfull c.world g p → ∃ v, ∀ {α : Type} (body : Payload → Effect α),
          Swapping.use g body c.world =
            ensuring (do return .ok (← body p)) (Swapping.endOperation g) v) ∧
        (Overfull c.world g p → ∃ v, ∀ {α : Type} (body : Payload → Effect α),
          Swapping.use g body c.world = .error (.overflow .add) v)
    | none => ∃ v, ∀ {α : Type} (body : Payload → Effect α),
        Swapping.use g body c.world = .ok (.error (.notAvailable (c.world.graphic g).id)) v := by
  have shows := (reached.showing kept).shows g
  have busy : Busy fun x => { x with operations := x.operations + 1 } := fun _ => rfl
  have begun : Swapping.beginOperation g c.world = .ok () (c.world.updateGraphic g fun x =>
      { x with operations := x.operations + 1 }) := rfl
  unfold gift
  cases given : (acts.foldl Action.gives [])[g]?.getD none with
  | some p =>
    rw [given] at shows
    have shown : (c.world.graphic g).Shown p := shows
    obtain ⟨comes, halts⟩ := fetch_of_shown (shown_busy busy shown)
    refine ⟨shown.kind, ?_, ?_⟩
    · intro room
      obtain ⟨v, fetched⟩ := comes fun full => room ((overfull_busy busy).1 full)
      exact ⟨v, fun _ => Swapping.use_of_fetched begun fetched⟩
    · intro full
      obtain ⟨v, halted⟩ := halts ((overfull_busy busy).2 full)
      exact ⟨_, fun _ => Swapping.use_of_halt begun halted⟩
  | none =>
    rw [given] at shows
    have blank : (c.world.graphic g).Blank := shows
    obtain ⟨v, fetched⟩ := fetch_of_blank (blank_busy busy blank)
    rw [id_busy busy] at fetched
    exact ⟨_, fun _ => Swapping.use_of_fault begun fetched⟩

/-- A bitmap that was swapped out is read as it was made. -/
theorem swapped_out_bitmap_is_read :
    ∃ acts c, Reached [] acts c ∧ (∀ g f, Action.op (.alterFile g f) ∉ acts) ∧
      c.world.isHeld 0 = true ∧ (c.world.graphic 0).swappedOut = true ∧
      ∃ v, ∀ {α : Type} (body : Payload → Effect α), Swapping.use 0 body c.world =
        ensuring (do return .ok (← body (.bitmap ⟨1, 1, 8, ⟨#[7]⟩⟩)))
          (Swapping.endOperation 0) v := by
  have managed := (reached_start []).next (.op (o := .addManager .builtIn false) rfl trivial rfl)
  have made := managed.next (.make (m := 0) (o := .payload (.bitmap ⟨1, 1, 8, ⟨#[7]⟩⟩))
    rfl (by decide) (by rintro p ⟨⟩; decide) rfl)
  have settled := made.next (.settle rfl)
  have bound := settled.next (.op (o := .bind "picture" (.graphic 0) 1) rfl (.inr (by decide)) rfl)
  have swapped := bound.next (.op (o := .swapOut 0) rfl rfl rfl)
  have invisible := swapping_is_invisible swapped (by simp) 0
  exact ⟨_, _, swapped, by simp, rfl, rfl, invisible.2.1 (by decide)⟩

/-- An object of the largest size that there is. -/
def hugeObject : ScriptedObject :=
  ⟨"huge", Amount.greatest, false, true, false, false, 0, .silent, [], 0, none⟩

/-- Next to an object of the largest size a link cannot be read, because its payload does not fit
the count any more. -/
theorem reading_can_halt :
    ¬ ∀ (environment : Names String) (acts : List Action) (c : State),
      Reached environment acts c → (∀ g f, Action.op (.alterFile g f) ∉ acts) →
        ∀ g p, c.world.isHeld g = true → gift acts g = some p →
          ∃ v, ∀ {α : Type} (body : Payload → Effect α), Swapping.use g body c.world =
            ensuring (do return .ok (← body p)) (Swapping.endOperation g) v := by
  intro claim
  have managed := (reached_start []).next
    (.op (o := .addManager { Config.builtIn with swapEnabled := false } false) rfl trivial rfl)
  have arranged := managed.next
    (.op (o := .arrange fun w => { w with objects := w.objects.push hugeObject })
      rfl (World.rearranged_push (x := hugeObject) _ trivial _) rfl)
  have enlisted := arranged.next (.enlist (m := 0) (o := 0) rfl (by decide) rfl)
  have settled := enlisted.next (.settle rfl)
  have linked := settled.next (.make (m := 0) (o := .link ⟨.png, ⟨#[0]⟩⟩ none)
    rfl (by decide) (by rintro p ⟨⟩; decide) rfl)
  have settled := linked.next (.settle rfl)
  have bound := settled.next (.op (o := .bind "picture" (.graphic 0) 2) rfl (.inr (by decide)) rfl)
  obtain ⟨v, reads⟩ := claim [] _ _ bound (by simp) 0 _ rfl rfl
  cases reads pure

end GraphicCache.Run
