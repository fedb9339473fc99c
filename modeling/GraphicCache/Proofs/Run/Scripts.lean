/-
Scripts run as programs do. Whatever a script does, step by step, in hooks of scripted objects and
inside of readings, is a run: what holds of all runs holds of every script. In particular the way in
which scripts ask objects to swap out is one that sweeps cope with.
-/
import GraphicCache.Proofs.Run.Landing

namespace GraphicCache

open Effect Run

/-! ## Names -/

theorem World.isHeld_of_get? {w : World} {name : String} {g : Nat}
    (h : w.handles.get? name = some (.graphic g)) : w.isHeld g = true := by
  unfold World.isHeld
  rw [Bool.or_eq_true, List.any_eq_true]
  exact .inr ⟨_, Names.mem_of_get? h, by simp⟩

namespace Script

variable {α : Type} {s : List Call} {w : World} {g m : Nat}

/-! ## Things with names -/

theorem lands_withName {names : World → Names α} {name : String} {body : α → Effect Reply}
    (h : ∀ value, (names w).get? name = some value → Lands s s (body value) w) :
    Lands s s (withName names name body) w := by
  refine lands_get ?_
  split
  · exact lands_pure _ _
  · next value found => exact h value found

theorem lands_withManager {name : String} {body : Nat → Effect Reply} (proper : w.Proper)
    (h : ∀ m < w.managers.size, Lands s s (body m) w) : Lands s s (withManager name body) w :=
  lands_withName fun m found => h m (proper.names _ (Names.mem_of_get? found))

theorem lands_withHandle {x : Effect α} (free : atProgram s = true) (held : w.isHeld g = true)
    (inside : ∀ v, Grows w v → v.isHeld g = true → Lands s s x v) :
    Lands s s (Handling.withHandle g x) w := by
  have hold : Lands s s (change fun w => { w with held := g :: w.held }) w :=
    lands_op (o := .hold g) free held
  refine hold.bind rfl fun _ v done grows => ?_
  cases done
  refine Lands.ensuring (o := .letGo g) (inside _ grows ?_) free fun _ => trivial
  unfold World.isHeld
  simp

theorem lands_withGraphic {name : String} {body : Nat → Effect Reply} (free : atProgram s = true)
    (h : ∀ g v, Grows w v → v.isHeld g = true → Lands s s (body g) v) :
    Lands s s (withGraphic name body) w := by
  refine lands_withName fun handle found => ?_
  cases handle with
  | graphic g => exact lands_withHandle free (World.isHeld_of_get? found) (h g)
  | registration m id => exact lands_pure _ _

/-! ## Managers -/

/-- A manager that was added is there. -/
theorem made_addManager {config : Config} {timer : Bool} {v : World}
    (done : Accounting.addManager config timer w = .ok m v) : m < v.managers.size := by
  cases done
  rw [World.size_addManager]
  exact Nat.lt_succ_self _

theorem rearranged_managerName (name : String) (there : m < w.managers.size) :
    w.Rearranged { w with managerNames := w.managerNames.put name m } := by
  refine ⟨rfl, rfl, rfl, rfl, rfl, rfl, fun proper => ⟨fun e he => ?_, proper.process,
    proper.hooks⟩⟩
  rcases Names.mem_put he with rfl | old
  · exact there
  · exact proper.names e old

theorem lands_newManager {name : String} {config : Config} {timer : Bool}
    (free : atProgram s = true) : Lands s s (newManager name config timer) w := by
  have added := (lands_op (o := .addManager config timer) (w := w) free trivial).of_quiet
  refine added.bind rfl fun m v done _ => ?_
  have named := rearranged_managerName name (made_addManager done)
  exact (lands_arrange free named).bind rfl fun _ u _ _ => lands_pure m u

/-- What needs no more than one operation and an answer. -/
theorem lands_answer {β : Type} {x : Effect α} {answer : α → β} (h : Lands s s x w) :
    Lands s s (do return answer (← x)) w :=
  h.bind rfl fun a v _ _ => lands_pure (answer a) v

theorem lands_onManager {ask : ObjectRef → Effect Unit} (follows : Follows ask) (step : ManagerStep)
    (free : atProgram s = true) (proper : w.Proper) : Lands s s (onManager ask m step) w := by
  cases step with
  | config | describe | statistics | counts => exact lands_get (lands_pure _ _)
  | sweep => exact lands_answer (follows.attempt proper fun _ => .inl free)
  | audit =>
    exact lands_answer (lands_op (o := .audit m) free trivial).of_quiet
  | shutdown =>
    refine (lands_op (o := .setTimer m .stopped) free trivial).bind rfl fun _ v _ _ => ?_
    exact lands_get (lands_pure _ v)
  | unregister name =>
    refine lands_withName fun id _ => ?_
    exact lands_answer (lands_op (o := .unregister m id) free trivial)
  | isRegistered name => exact lands_withName fun id _ => lands_get (lands_pure _ _)
  | announceIn name size =>
    exact lands_withName fun id _ => lands_answer (lands_op (o := .announceIn m size) free trivial)
  | announceOut name size =>
    exact lands_withName fun id _ => lands_answer (lands_op (o := .announceOut m size) free trivial)
  | announceResize name oldSize =>
    refine lands_withName fun id _ => ?_
    exact lands_answer (lands_op (o := .announceResize m id oldSize) free trivial)

theorem rearranged_install (there : m < w.managers.size) :
    w.Rearranged
      { w with managerNames := w.managerNames.put globalName m, globalManager := some m } := by
  refine ⟨rfl, rfl, rfl, rfl, rfl, rfl, fun proper => ⟨?_, fun k hk => ?_, proper.hooks⟩⟩
  · exact ((rearranged_managerName globalName there).proper proper).names
  · cases hk
    exact there

/-- A manager that is made for the process. -/
theorem lands_addManager {config : Config} (free : atProgram s = true) :
    Lands s s (Accounting.addManager config true) w :=
  (lands_op (o := .addManager config true) free trivial).of_quiet

theorem lands_onGlobal (step : GlobalStep) (free : atProgram s = true) (proper : w.Proper) :
    Lands s s (onGlobal step) w := by
  have install {m : Nat} {v : World} (there : m < v.managers.size) : Lands s s (install m) v :=
    lands_arrange free (rearranged_install there)
  cases step with
  | initialise config =>
    refine (lands_addManager free).bind rfl fun m v done _ => lands_get ?_
    split
    · exact (lands_op (o := .setTimer m .stopped) free trivial).bind rfl fun _ u _ _ =>
        lands_pure _ u
    · exact (install (made_addManager done)).bind rfl fun _ u _ _ => lands_pure _ u
  | get =>
    refine lands_get ?_
    split
    · next m process =>
      have named := rearranged_managerName globalName (proper.process m process)
      exact (lands_arrange free named).bind rfl fun _ v _ _ => lands_pure _ v
    · refine (lands_addManager free).bind rfl fun m v done _ => ?_
      exact (install (made_addManager done)).bind rfl fun _ u _ _ => lands_pure _ u
  | shutdown =>
    refine lands_get ?_
    split
    · exact lands_pure _ _
    · next m _ =>
      exact (lands_op (o := .setTimer m .stopped) free trivial).bind rfl fun _ v _ _ =>
        lands_pure _ v

/-! ## Graphics -/

theorem lands_build {draft : Draft} (free : atProgram s = true) : Lands s s (build draft) w := by
  unfold build
  cases built : draft.build with
  | ok p => exact lands_pure p w
  | error e =>
    apply lands_intro
    · intro p v done
      cases done
    · intro e' v halts
      cases halts
      rw [home_of_free free]
      exact ⟨[], .refl (List.suffix_refl s)⟩

theorem build_ok {draft : Draft} {p : Payload} {v : World} (fits : draft.Fits)
    (done : build draft w = .ok p v) : v = w ∧ p.Fits := by
  unfold build at done
  cases built : draft.build with
  | ok q =>
    rw [built] at done
    cases done
    exact ⟨rfl, draft.fits_build fits built⟩
  | error e =>
    rw [built] at done
    cases done

theorem lands_contentOf {maker : Maker} (free : atProgram s = true) :
    Lands s s (contentOf maker) w := by
  cases maker with
  | payload draft => exact (lands_build free).bind rfl fun p v _ _ => lands_get (lands_pure _ v)
  | empty | external | link => exact lands_get (lands_pure _ w)

/-- What a maker puts into a graphic is what a graphic can be made from. -/
theorem contentOf_ok {maker : Maker} {content : Content} {v : World} (fits : maker.Fits)
    (done : contentOf maker w = .ok content v) :
    v = w ∧ ∃ o : Origin, content = o.content w.now ∧ ∀ p, o.gift = some p → p.Fits := by
  cases maker with
  | payload draft =>
    obtain ⟨p, u, built, rest⟩ := ok_of_bind done
    obtain ⟨rfl, small⟩ := build_ok fits built
    cases rest
    refine ⟨rfl, .payload p, rfl, ?_⟩
    intro q given
    cases given
    exact small
  | empty =>
    cases done
    exact ⟨rfl, .empty, rfl, fun q given => nomatch given⟩
  | external url =>
    cases done
    exact ⟨rfl, .external url, rfl, fun q given => nomatch given⟩
  | link l page =>
    cases done
    refine ⟨rfl, .link l page, rfl, ?_⟩
    intro q given
    cases given
    exact fits

/-- A graphic that has a handle or is registered gets a name. -/
theorem lands_nameGraphic {name : String} (free : atProgram s = true)
    (known : w.isHeld g = true ∨
      ((w.graphic g).id, .graphic g) ∈ (w.manager (w.graphic g).manager).registry.entries) :
    Lands s s (nameGraphic name g) w := by
  refine lands_get ?_
  exact (lands_op (o := .bind name (.graphic g) (w.graphic g).id) free known).bind rfl
    fun _ v _ _ => lands_pure _ v

theorem lands_withFile {body : SwapFile → Effect Reply} (h : ∀ file, Lands s s (body file) w) :
    Lands s s (withFile g body) w := by
  refine lands_get ?_
  split
  · exact lands_pure _ _
  · exact h _

theorem lands_onGraphic (step : GraphicStep) (fits : step.Fits) (free : atProgram s = true)
    (held : w.isHeld g = true) : Lands s s (onGraphic g step) w := by
  cases step with
  | swapOut => exact lands_answer (lands_op (o := .swapOut g) free held).of_quiet
  | swapIn => exact lands_answer (lands_op (o := .swapIn g) free held).of_quiet
  | read => exact lands_answer (lands_op (o := .peek g) free held).of_quiet
  | size => exact lands_answer (lands_use free held fun p v _ => lands_pure p.size v)
  | replace draft =>
    refine (lands_build free).bind rfl fun p v done _ => ?_
    obtain ⟨rfl, small⟩ := build_ok fits done
    exact lands_answer (lands_op (o := .replace g p) free ⟨held, small⟩)
  | touch => exact lands_get (lands_answer (lands_op (o := .setLastUsed g _) free held))
  | usedBefore age => exact lands_get (lands_answer (lands_op (o := .setLastUsed g _) free held))
  | usedAfter delay => exact lands_get (lands_answer (lands_op (o := .setLastUsed g _) free held))
  | beginOperation guard => exact (lands_op (o := .beginOperation g guard) free held).of_quiet
  | fileContents => exact lands_withFile fun file => lands_pure _ w
  | fillFile data => exact (lands_op (o := .alterFile g _) free held).of_quiet
  | patchFile offset data => exact (lands_op (o := .alterFile g _) free held).of_quiet
  | resizeFile length => exact (lands_op (o := .alterFile g _) free held).of_quiet

theorem lands_copy {ask : ObjectRef → Effect Unit} (follows : Follows ask)
    (free : atProgram s = true) (proper : w.Proper) (there : m < w.managers.size)
    (held : w.isHeld g = true) : Lands s s (Swapping.copy ask m g) w := by
  refine lands_get ?_
  cases duplicated : (w.graphic g).duplicate w.now with
  | error fault => exact lands_pure _ w
  | ok content =>
    exact lands_answer (follows.make proper fun made => .copy free there held duplicated made)

/-- A copy that was made is registered under its id. -/
theorem entry_of_copy {ask : ObjectRef → Effect Unit} (follows : Follows ask) {source : Nat}
    {v : World} (proper : w.Proper) (there : m < w.managers.size)
    (done : Swapping.copy ask m source w = .ok (.ok g) v) :
    ((v.graphic g).id, .graphic g) ∈ (v.manager (v.graphic g).manager).registry.entries := by
  unfold Swapping.copy at done
  rw [get_bind_apply] at done
  cases duplicated : (w.graphic source).duplicate w.now with
  | error fault =>
    rw [duplicated] at done
    cases done
  | ok content =>
    rw [duplicated] at done
    obtain ⟨k, u, made, rest⟩ := ok_of_bind done
    cases rest
    exact follows.entry_of_make proper there made

theorem lands_make {ask : ObjectRef → Effect Unit} (follows : Follows ask) {name : String}
    {maker : Maker} (fits : maker.Fits) (free : atProgram s = true) (proper : w.Proper)
    (there : m < w.managers.size) :
    Lands s s (do
      let content ← contentOf maker
      let g ← Swapping.make ask m content
      nameGraphic name g) w := by
  refine (lands_contentOf free).bind rfl fun content v done _ => ?_
  obtain ⟨rfl, o, rfl, small⟩ := contentOf_ok fits done
  have make : Lands s s (Swapping.make ask m (o.content v.now)) v :=
    follows.make proper fun made => .make free there small made
  exact make.bind rfl fun g u made _ =>
    lands_nameGraphic free (.inr (follows.entry_of_make proper there made))

/-! ## Scripted objects -/

theorem lands_updateObject {o : Nat} {f : ScriptedObject → ScriptedObject}
    (free : atProgram s = true) (same : ∀ x, (f x).hook = x.hook) :
    Lands s s (change (·.updateObject o f)) w :=
  lands_arrange free (w.rearranged_updateObject o same)

/-- A notice comes from a registered object. -/
theorem lands_notify {o : Nat} {tell : Nat → Int → Effect Unit}
    (lands : ∀ {m size}, (∃ name id, (name, .registration m id) ∈ w.handles) →
      Lands s s (tell m size) w) : Lands s s (notify o tell) w := by
  refine lands_get ?_
  dsimp only
  split
  · next size m id told bound =>
    obtain ⟨handle, -, registered⟩ := Option.bind_eq_some_iff.1 bound
    exact lands ⟨handle, id, Names.mem_of_get? registered⟩
  · exact lands_pure () w

theorem lands_newObject {name : String} {draft : ObjectDraft} {hook : List Step}
    (fits : Step.AllFit hook) (free : atProgram s = true) :
    Lands s s (newObject name draft hook) w := by
  exact lands_get ((lands_arrange free (w.rearranged_push fits _)).bind rfl fun _ v _ _ =>
    lands_pure _ v)

/-- A program that asks an object of its own to swap out calls it. -/
theorem lands_ask {ask : ObjectRef → Effect Unit} (follows : Follows ask) {o : Nat}
    (free : atProgram s = true) (proper : w.Proper) : Lands s s (ask (.scripted o)) w := by
  have called : Path s ⟨s, w⟩ [.call o] ⟨.swappingOut o :: s, w⟩ :=
    .one (.call free) (List.suffix_refl s) (List.suffix_cons _ s)
  have lands := follows.scripted (o := o) (s := .swappingOut o :: s) rfl proper
  apply lands_intro
  · intro a v done
    obtain ⟨acts, inside⟩ := lands.ok done
    rw [home_of_free free]
    exact ⟨_, .snoc (called.trans (inside.lower (List.suffix_cons _ s))) .answer
      (List.suffix_refl s)⟩
  · intro e v halts
    obtain ⟨acts, inside⟩ := lands.halt halts
    have answered : Run.Step ⟨.swappingOut o :: s, v⟩ (.halt none) ⟨home s, v⟩ := .answerHalts
    rw [home_of_free free] at answered ⊢
    exact ⟨_, .snoc (called.trans (inside.lower (List.suffix_cons _ s))) answered
      (List.suffix_refl s)⟩

theorem lands_onObject {ask : ObjectRef → Effect Unit} (follows : Follows ask) {o : Nat}
    (step : ObjectStep) (free : atProgram s = true) (proper : w.Proper) :
    Lands s s (onObject ask o step) w := by
  cases step with
  | change c => exact lands_answer (lands_arrange free (w.rearranged_updateObject o fun _ => rfl))
  | state => exact lands_get (lands_pure _ w)
  | swapIn =>
    refine lands_get ?_
    split
    · refine Lands.bind (lands_updateObject free fun _ => rfl) rfl fun _ v _ _ =>
        lands_answer (lands_notify fun {m size} known => ?_)
      exact lands_op (o := .noticeIn m size) free known
    · exact lands_pure _ w
  | swapOut =>
    exact (lands_ask follows free proper).bind rfl fun _ v _ _ => lands_get (lands_pure _ v)

/-- An object is registered under a fresh id and then bound to its handle. -/
theorem lands_registerObject {ask : ObjectRef → Effect Unit} (follows : Follows ask)
    {handle : String} {o : Nat} (free : atProgram s = true) (proper : w.Proper)
    (there : m < w.managers.size) : Lands s s (registerObject ask handle o m) w := by
  have fresh : Lands s (.entering m (w.manager m).nextId (.scripted o) :: s)
      (Accounting.freshId m) w :=
    lands_of_ok rfl ⟨_, .one (.enlist free there rfl) (home_suffix_self s) (home_suffix _ s)⟩
  refine fresh.bind rfl fun id v handed grows => ?_
  cases handed
  have proper' := grows.proper proper
  have there' := Nat.lt_of_lt_of_le there grows.managers
  refine (follows.register proper').bind rfl fun _ u registered _ => ?_
  have entry := follows.entry_of_register proper' there' registered
  refine Lands.bind (lands_updateObject free fun _ => rfl) rfl fun _ t done _ => ?_
  cases done
  have known : ∃ o, ((w.manager m).nextId, .scripted o) ∈ (u.manager m).registry.entries :=
    ⟨o, entry⟩
  exact lands_answer (lands_op (o := .bind handle (.registration m _) _) free known)

/-! ## Steps -/

theorem lands_startTracing (free : atProgram s = true) : Lands s s startTracing w := by
  refine lands_get ?_
  split
  · exact lands_pure _ w
  · exact lands_answer (lands_arrange free (w.rearranged_outside w.storageBroken true w.swapOuts))

theorem lands_dropManager {name : String} {reply : Reply} (free : atProgram s = true) :
    Lands s s (do
      change fun w => { w with managerNames := w.managerNames.erase name }
      return reply) w := by
  refine lands_answer (lands_arrange free ⟨rfl, rfl, rfl, rfl, rfl, rfl, fun proper => ?_⟩)
  exact ⟨fun e he => proper.names e (List.mem_filter.1 he).1, proper.process, proper.hooks⟩

theorem lands_breakStorage {broken : Bool} (free : atProgram s = true) :
    Lands s s (change fun w => { w with storageBroken := broken }) w :=
  lands_arrange free (w.rearranged_outside broken w.tracing w.swapOuts)

theorem path_swapOuts (free : atProgram s = true) (w : World) (swapOuts : List SwapOutReport) :
    ∃ acts, Path s ⟨s, w⟩ acts ⟨s, { w with swapOuts := swapOuts }⟩ :=
  path_op (o := .arrange fun w => { w with swapOuts := swapOuts }) free
    (w.rearranged_outside w.storageBroken w.tracing swapOuts)

/-- A step lands where it began, halted or not. -/
theorem lands_reporting {shown : String} {x : Effect Reply} (free : atProgram s = true)
    (h : Lands s s x { w with swapOuts := [] }) : Lands s s (reporting shown x) w := by
  have home := home_of_free free
  obtain ⟨acts, before⟩ := path_swapOuts free w []
  apply lands_intro
  · intro r v done
    unfold reporting at done
    split at done
    · next reply u ended =>
      cases done
      obtain ⟨acts', during⟩ := h.ok ended
      obtain ⟨acts'', after⟩ := path_swapOuts free u w.swapOuts
      rw [home] at during ⊢
      exact ⟨_, (before.trans during).trans after⟩
    · next e u halted =>
      cases done
      obtain ⟨acts', during⟩ := h.halt halted
      obtain ⟨acts'', after⟩ := path_swapOuts free u w.swapOuts
      rw [home] at during ⊢
      exact ⟨_, (before.trans during).trans after⟩
    · cases done
  · intro e v halts
    unfold reporting at halts
    split at halts
    · cases halts
    · cases halts
    · cases halts

mutual

/-- Every instruction lands where it began. -/
theorem lands_perform {ask : ObjectRef → Effect Unit} (follows : Follows ask)
    (instruction : Instruction) {s : List Call} {w : World} (fits : instruction.Fits)
    (free : atProgram s = true) (proper : w.Proper) : Lands s s (perform ask instruction) w := by
  cases instruction with
  | newManager name config timer => exact lands_answer (lands_newManager free)
  | dropManager name => exact lands_get (lands_dropManager free)
  | onManager name step =>
    exact lands_withManager proper fun m _ => lands_onManager follows step free proper
  | onGlobal step => exact lands_onGlobal step free proper
  | startTracing => exact lands_startTracing free
  | advance span => exact lands_answer (follows.advance free proper)
  | breakStorage broken => exact lands_answer (lands_breakStorage free)
  | make handle manager maker =>
    exact lands_withManager proper fun m there => lands_make follows fits free proper there
  | copy handle source manager =>
    refine lands_withGraphic free fun g v grows held => ?_
    have proper' := grows.proper proper
    refine lands_withManager proper' fun m there => ?_
    refine (lands_copy follows free proper' there held).bind rfl fun r u done _ => ?_
    cases r with
    | error fault => exact lands_pure _ u
    | ok g =>
      exact lands_nameGraphic free (.inr (entry_of_copy follows proper' there done))
  | clone handle source =>
    exact lands_withGraphic free fun g v _ held => lands_nameGraphic free (.inl held)
  | drop handle =>
    refine (lands_op (o := .drop handle) free trivial).of_quiet.bind rfl fun dropped v _ _ => ?_
    split
    · exact lands_pure _ v
    · exact lands_pure _ v
  | describe handle => exact lands_withName fun h _ => lands_get (lands_pure _ w)
  | managerOf handle => exact lands_withName fun h _ => lands_get (lands_pure _ w)
  | onGraphic handle step =>
    exact lands_withGraphic free fun g v _ held => lands_onGraphic step fits free held
  | during handle steps =>
    refine lands_withGraphic free fun g v grows held => lands_answer (lands_use free held ?_)
    intro p u grows'
    have proper' := grows'.proper (grows.proper proper)
    exact lands_answer (lands_performAll follows steps fits rfl proper')
  | endOperation guard => exact (lands_op (o := .endOperation guard) free trivial).of_quiet
  | compareIds left right =>
    exact lands_withName fun a _ => lands_withName fun b _ => lands_pure _ w
  | newObject name draft hook => exact lands_newObject fits free
  | register handle object manager =>
    exact lands_withName fun o _ => lands_withManager proper fun m there =>
      lands_registerObject follows free proper there
  | onObject name step => exact lands_withName fun o _ => lands_onObject follows step free proper

/-- So do steps one after the other. -/
theorem lands_performAll {ask : ObjectRef → Effect Unit} (follows : Follows ask)
    (steps : List Step) {s : List Call} {w : World} (fits : Step.AllFit steps)
    (free : atProgram s = true) (proper : w.Proper) : Lands s s (performAll ask steps) w := by
  match steps with
  | [] => exact lands_pure [] w
  | .mk shown instruction :: rest =>
    have cleared := (w.rearranged_outside w.storageBroken w.tracing []).proper proper
    have first := lands_perform follows instruction fits.1 free cleared
    refine (lands_reporting free first).bind rfl fun (report, ended) v _ grows => ?_
    dsimp only
    split
    · exact lands_answer (lands_performAll follows rest fits.2 free (grows.proper proper))
    · exact lands_pure _ v

end

/-! ## Scripts -/

/-- However deeply swap-outs may nest, scripts ask objects to swap out in a way that runs follow. By
induction on the depth: the steps of an object ask at one less. -/
theorem follows_ask (depth : Nat) : Follows (Script.ask depth) where
  graphic g := by cases depth <;> rfl
  scripted {o s w} free proper := by
    induction depth generalizing o s w with
    | zero =>
      unfold Lands
      exact trivial
    | succ depth ih =>
      have below : Follows (Script.ask depth) := ⟨fun g => by cases depth <;> rfl, ih⟩
      unfold Script.ask
      refine Lands.bind (lands_updateObject free fun _ => rfl) rfl fun _ v _ grows => lands_get ?_
      have proper' := grows.proper proper
      -- what the object runs asks other objects at one level less
      have fits : Step.AllFit (v.object o).hook := v.hook_of_objects trivial proper'.hooks o
      have hook := lands_performAll below _ fits free proper'
      refine hook.bind rfl fun reports u _ _ => ?_
      have reported := u.rearranged_outside u.storageBroken u.tracing
        (u.swapOuts ++ [.mk (v.object o).name reports])
      refine Lands.bind (lands_arrange free reported) rfl fun _ t _ _ => ?_
      refine lands_get ?_
      dsimp only
      split
      · exact lands_pure () t
      · refine Lands.bind (lands_updateObject free fun _ => rfl) rfl fun _ r _ _ => ?_
        exact lands_notify fun {m size} known => lands_op (o := .noticeOut m size) free known

/-- Scripts ask objects to swap out in a way that sweeps cope with. -/
theorem lawful_ask (depth : Nat) : Lawful (Script.ask depth) := (follows_ask depth).lawful

/-- Whatever a script does from the start is a run. -/
theorem reached_of_performAll {environment : Names String} {depth : Nat} {steps : List Step}
    {reports : List Report} (fits : Step.AllFit steps)
    (done : performAll (Script.ask depth) steps (.start environment) = .ok reports w) :
    ∃ acts, Reached environment acts ⟨[], w⟩ :=
  have lands := lands_performAll (s := []) (follows_ask depth) steps fits rfl
    (proper_start environment)
  lands.ok done

end Script

end GraphicCache
