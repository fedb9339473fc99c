/-
What the steps of a script do. A step that names something unknown does nothing and says so. A
list of steps ends early at the first step that halts; the halt goes no further, so neither a
reading nor a swap-out nor a sweep around the list notices it.
-/
import GraphicCache.Handling

namespace GraphicCache.Script

open Effect

/-! ## Names -/

/-- Goes on with the value under a name, or answers that the name is unknown. -/
def withName {α : Type} (names : World → Names α) (name : String) (body : α → Effect Reply) :
    Effect Reply := do
  let w ← get
  match (names w).get? name with
  | none => return .unknownName
  | some value => body value

def withManager (name : String) (body : Nat → Effect Reply) : Effect Reply :=
  withName World.managerNames name body

def withObject (name : String) (body : Nat → Effect Reply) : Effect Reply :=
  withName World.objectNames name body

def withId (name : String) (body : Nat → Effect Reply) : Effect Reply :=
  withName World.ids name body

/-- Goes on with a graphic, holding a temporary handle of it meanwhile. -/
def withGraphic (name : String) (body : Nat → Effect Reply) : Effect Reply :=
  withName World.handles name fun
    | .graphic g => Handling.withHandle g (body g)
    | .registration .. => return .unknownName

/-- The reply for something that can fail. -/
def replyOf {α : Type} (reply : α → Reply) : Except Fault α → Reply
  | .ok a => reply a
  | .error fault => .fault fault

/-! ## Managers -/

def newManager (name : String) (config : Config) (timer : Bool) : Effect Nat := do
  let m ← Accounting.addManager config timer
  change fun w => { w with managerNames := w.managerNames.put name m }
  return m

def onManager (ask : ObjectRef → Effect Unit) (m : Nat) : ManagerStep → Effect Reply
  | .config => return .config ((← get).manager m).config
  | .describe => return .text ((← get).manager m).describe
  | .sweep => do
    Sweep.attempt ask m
    return .nothing
  | .audit => return .number (← Accounting.audit m)
  | .statistics => return .statistics ((← get).statistics m)
  | .counts => do
    let x := (← get).manager m
    return .counts x.used x.registry.size x.timer.isRunning
  | .shutdown => do
    change (·.updateManager m Manager.stopTimer)
    return .flag ((← get).manager m).timer.isRunning
  | .unregister name => withId name fun id => do
    Accounting.unregister m id
    return .nothing
  | .isRegistered name => withId name fun id =>
    return .flag (((← get).manager m).registry.contains id)
  | .announceIn name size => withId name fun _ => do
    Accounting.announceIn m size
    return .nothing
  | .announceOut name size => withId name fun _ => do
    Accounting.announceOut m size
    return .nothing
  | .announceResize name oldSize => withId name fun id => do
    Accounting.announceResize m id oldSize
    return .nothing

def globalName : String := "global"

/-- Makes a manager the one of the process. -/
def install (m : Nat) : Effect Unit :=
  change fun w =>
    { w with managerNames := w.managerNames.put globalName m, globalManager := some m }

/-- What a step does with the manager of the process, which is made once and never replaced. A
manager that comes too late was made in vain, and its timer is stopped. -/
def onGlobal : GlobalStep → Effect Reply
  | .initialise config => do
    let m ← Accounting.addManager config true
    match (← get).globalManager with
    | some _ => do
      change (·.updateManager m Manager.stopTimer)
      return .fault .alreadyInitialised
    | none => do
      install m
      return .flag true
  | .get => do
    let w ← get
    match w.globalManager with
    | some m => do
      change fun w => { w with managerNames := w.managerNames.put globalName m }
      return .config (w.manager m).config
    | none => do
      let config := Config.load w.environment.get?
      let m ← Accounting.addManager config true
      install m
      return .config config
  | .shutdown => do
    match (← get).globalManager with
    | none => return .flag true
    | some m => do
      change (·.updateManager m Manager.stopTimer)
      return .flag true

/-! ## Graphics -/

def build (draft : Draft) : Effect Payload := ofExcept draft.build

/-- What a maker puts into a graphic. -/
def contentOf (maker : Maker) : Effect Content := do
  match maker with
  | .payload draft => do
    let p ← build draft
    return .ofPayload p (← get).now
  | .empty => return .empty (← get).now
  | .external url => return .ofExternal url (← get).now
  | .link link page => return .ofLink link page (← get).now

/-- Gives a new graphic a name; answers its id. -/
def nameGraphic (name : String) (g : Nat) : Effect Reply := do
  let id := ((← get).graphic g).id
  Handling.bind name (.graphic g) id
  return .number id

def withFile (g : Nat) (body : SwapFile → Effect Reply) : Effect Reply := do
  match ((← get).graphic g).swapFile? with
  | none => return .unknownName
  | some file => body file

/-- Changes the swap file of a graphic from outside. -/
def changeFile (g : Nat) (f : SwapFile → SwapFile) : Effect Reply :=
  withFile g fun file => do
    change (·.updateGraphic g fun x => { x with backing := .file (f file) })
    return .nothing

/-- Begins an operation on a graphic under the name of a guard, which lets go of what it held
before; answers whether the name was in use. -/
def beginOperation (guard : String) (g : Nat) : Effect Reply := do
  Swapping.beginOperation g
  let w ← get
  change fun w => { w with guards := w.guards.put guard g }
  match w.guards.get? guard with
  | none => return .flag false
  | some old => do
    Swapping.endOperation old
    return .flag true

/-- Ends the operation of a guard; answers whether there was such a guard. -/
def endOperation (guard : String) : Effect Reply := do
  let w ← get
  match w.guards.get? guard with
  | none => return .flag false
  | some g => do
    change fun w => { w with guards := w.guards.erase guard }
    Swapping.endOperation g
    return .flag true

def onGraphic (g : Nat) : GraphicStep → Effect Reply
  | .swapOut => return replyOf .flag (← Swapping.swapOut g)
  | .swapIn => return replyOf .flag (← Swapping.swapIn g)
  | .read => return replyOf .payload (← Swapping.use g pure)
  | .size => return replyOf (fun n => .number n) (← Swapping.use g fun p => return p.size)
  | .replace draft => do
    let p ← build draft
    Swapping.replace g p
    return .nothing
  | .touch => do
    Swapping.setLastUsed g (← get).now
    return .nothing
  | .usedBefore age => do
    Swapping.setLastUsed g ((← get).now - age.nanos)
    return .nothing
  | .usedAfter delay => do
    Swapping.setLastUsed g ((← get).now + delay.nanos)
    return .nothing
  | .beginOperation guard => beginOperation guard g
  | .fileContents => withFile g fun file => return .bytes file.contents
  | .fillFile data => changeFile g (·.fill data)
  | .patchFile offset data => changeFile g (·.patch offset data)
  | .resizeFile length => changeFile g (·.resize length)

/-! ## Scripted objects -/

/-- The size an object tells its manager, if it tells one. -/
def noticeOf (o : ScriptedObject) : Option Int :=
  match o.notice with
  | .silent => none
  | .actual => some o.size
  | .fixed size => some size

/-- Tells the manager of the registration an object is bound to what happened to it. -/
def notify (o : Nat) (tell : Nat → Int → Effect Unit) : Effect Unit := do
  let w ← get
  let x := w.object o
  match noticeOf x, x.binding.bind w.handles.get? with
  | some size, some (.registration m _) => tell m size
  | _, _ => return

/-- Makes a scripted object under a name; answers whether the name was in use. An object that loses
its name stays where it is registered. -/
def newObject (name : String) (draft : ObjectDraft) (hook : List Step) : Effect Reply := do
  let w ← get
  let o : ScriptedObject :=
    { name := name
      size := draft.size
      swappedOut := draft.swappedOut
      available := draft.available
      active := draft.active
      refuses := draft.refuses
      lastUsed := w.now - draft.age.nanos
      notice := draft.notice
      hook := hook
      calls := 0
      binding := none }
  change fun w =>
    { w with objects := w.objects.push o, objectNames := w.objectNames.put name w.objects.size }
  return .flag (w.objectNames.get? name).isSome

def applyChange (now : Moment) (c : ObjectChange) (o : ScriptedObject) : ScriptedObject :=
  { o with
    size := c.size.getD o.size
    swappedOut := c.swappedOut.getD o.swappedOut
    available := c.available.getD o.available
    active := c.active.getD o.active
    refuses := c.refuses.getD o.refuses
    lastUsed := (c.age.map fun age => now - age.nanos).getD o.lastUsed }

def onObject (ask : ObjectRef → Effect Unit) (o : Nat) : ObjectStep → Effect Reply
  | .change c => do
    change fun w => w.updateObject o (applyChange w.now c)
    return .nothing
  | .state => return .object ((← get).objectView o)
  | .swapIn => do
    if ((← get).object o).swappedOut then
      change (·.updateObject o fun x => { x with swappedOut := false })
      notify o Accounting.announceIn
      return .flag true
    else return .flag false
  | .swapOut => do
    ask (.scripted o)
    return .flag ((← get).object o).swappedOut

/-- Registers a scripted object under a handle name; answers the id. -/
def registerObject (ask : ObjectRef → Effect Unit) (handle : String) (o m : Nat) :
    Effect Reply := do
  let id ← Accounting.freshId m
  Sweep.register ask m id (.scripted o)
  change (·.updateObject o fun x => { x with binding := x.binding.or (some handle) })
  Handling.bind handle (.registration m id) id
  return .number id

/-! ## Steps -/

/-- Starts tracing, which can be done once. -/
def startTracing : Effect Reply := do
  if (← get).tracing then return .fault .alreadyTracing
  else
    change fun w => { w with tracing := true }
    return .flag true

def compareIds (left right : String) : Effect Reply :=
  withId left fun a => withId right fun b => return .order (compare a b)

/-- Runs an effect as a step of its own, which shows the graphic of a handle: its report, and
whether it came to its end. -/
def reporting (shown : String) (x : Effect Reply) : Effect (Report × Bool) := fun w =>
  match x { w with swapOuts := [] } with
  | .ok reply w₁ =>
    let report := .mk reply w₁.swapOuts (w₁.viewOf? shown) (some w₁.namedStatistics)
    .ok (report, true) { w₁ with swapOuts := w.swapOuts }
  | .error (.overflow e) w₁ =>
    .ok (.mk (.halted e) w₁.swapOuts none none, false) { w₁ with swapOuts := w.swapOuts }
  | .error .exhausted w₁ => .error .exhausted w₁

mutual

/-- What an instruction does, where `ask` says how an object is asked to swap out. -/
def perform (ask : ObjectRef → Effect Unit) : Instruction → Effect Reply
  | .newManager name config timer => do
    let _ ← newManager name config timer
    return .flag true
  | .dropManager name => do
    let w ← get
    change fun w => { w with managerNames := w.managerNames.erase name }
    return .flag (w.managerNames.get? name).isSome
  | .onManager name step => withManager name fun m => onManager ask m step
  | .onGlobal step => onGlobal step
  | .startTracing => startTracing
  | .advance span => do
    Sweep.advance ask span
    return .nothing
  | .breakStorage broken => do
    change fun w => { w with storageBroken := broken }
    return .nothing
  | .make handle manager maker => withManager manager fun m => do
    let content ← contentOf maker
    let g ← Swapping.make ask m content
    nameGraphic handle g
  | .copy handle source manager => withGraphic source fun g => withManager manager fun m => do
    match ← Swapping.copy ask m g with
    | .error fault => return .fault fault
    | .ok g => nameGraphic handle g
  | .clone handle source => withGraphic source fun g => nameGraphic handle g
  | .drop handle => do
    if ← Handling.drop handle then return .flag true
    else return .unknownName
  | .describe handle => withName World.handles handle fun h => do
    let w ← get
    return .description (w.describe h) (w.idOf h)
  | .managerOf handle => withName World.handles handle fun h => do
    let w ← get
    return .managerEntry (w.statistics (w.managerOf h))
  | .onGraphic handle step => withGraphic handle fun g => onGraphic g step
  | .during handle steps => withGraphic handle fun g => do
    let reading ← Swapping.use g fun p => do
      return Reply.reading p.size (← performAll ask steps)
    return replyOf id reading
  | .endOperation guard => endOperation guard
  | .compareIds left right => compareIds left right
  | .newObject name draft hook => newObject name draft hook
  | .register handle object manager => withObject object fun o => withManager manager fun m =>
    registerObject ask handle o m
  | .onObject name step => withObject name fun o => onObject ask o step

/-- Runs steps one after the other, up to the first that halts. -/
def performAll (ask : ObjectRef → Effect Unit) : List Step → Effect (List Report)
  | [] => return []
  | .mk shown instruction :: rest => do
    let (report, ended) ← reporting shown (perform ask instruction)
    if ended then return report :: (← performAll ask rest)
    else return [report]

end

/-! ## Being asked to swap out -/

/-- Asks an object to swap out. A graphic does its best and says nothing. A scripted object first
runs its steps, in which objects may be asked in turn, to a nesting of at most `depth`. -/
def ask : (depth : Nat) → ObjectRef → Effect Unit
  | _, .graphic g => do
    let _ ← Swapping.swapOut g
  | 0, .scripted _ => throw .exhausted
  | depth + 1, .scripted o => do
    change (·.updateObject o fun x => { x with calls := x.calls + 1 })
    let x := (← get).object o
    let reports ← performAll (ask depth) x.hook
    change fun w => { w with swapOuts := w.swapOuts ++ [.mk x.name reports] }
    let x := (← get).object o
    if x.refuses || x.swappedOut then return
    else
      change (·.updateObject o fun x => { x with swappedOut := true })
      notify o Accounting.announceOut

/-! ## Running a script -/

/-- How deeply swap-outs of scripted objects may be nested. -/
def nesting : Nat := 1000

/-- Runs a script in a world: the reports of its steps, or nothing if swap-outs nest too deeply. -/
def run (steps : List Step) (w : World) : Option (List Report) :=
  match performAll (ask nesting) steps w with
  | .ok reports _ => some reports
  | .error .. => none

def mainName : String := "main"

/-- Runs a script with a manager that was made before. -/
def runSession (config : Config) (timer : Bool) (steps : List Step) : Option (List Report) :=
  match newManager mainName config timer (.start []) with
  | .ok _ w => run steps w
  | .error .. => none

/-- Runs a script in a process with the given environment variables. -/
def runProcess (environment : Names String) (steps : List Step) : Option (List Report) :=
  run steps (.start environment)

end GraphicCache.Script
