import PatternBuild.Digest
import PatternBuild.Engine.Build
import PatternBuild.FileSystem
import PatternBuild.Path.Component
import PatternBuild.Table
import PatternBuild.Watch.Watcher

/-!
# Sessions

The paths that a watcher hands out are dispatched, unless their files have not changed.
-/

/-!
## Content hashes: telling whether a file changed

The table holds the digest a file had when it was last asked about.  Paths with the same
components are one path here; a path that is no file counts as changed and is forgotten.
-/

namespace PatternBuild

open Path

/-- the digest of a file -/
def fileHash (fs : FileSystem) (path : String) : Except Fault String :=
  match fs.read path with
  | .ok bytes => .ok (Digest.Blake3.hex bytes)
  | .error _ => .error (.file (.unhashable path))

/-- digests by the plain spelling of a path -/
structure ContentHashes where
  known : Table String String
  deriving DecidableEq

namespace ContentHashes

def empty : ContentHashes := ⟨.empty⟩

/-- the digest a path had when it was last asked about -/
def get? (h : ContentHashes) (path : String) : Option String := h.known.get? (plain path)

def forget (h : ContentHashes) (path : String) : ContentHashes := ⟨h.known.erase (plain path)⟩

def remember (h : ContentHashes) (path digest : String) : ContentHashes :=
  ⟨h.known.insert (plain path) digest⟩

/-- whether a path changed since it was last asked about, and the table from now on -/
def changed (h : ContentHashes) (fs : FileSystem) (path : String) : Bool × ContentHashes :=
  if fs.isFile path then
    match fileHash fs path with
    | .ok digest => (h.get? path != some digest, h.remember path digest)
    | .error _ => (true, h.forget path)
  else (true, h.forget path)

end ContentHashes

end PatternBuild

/-!
## Dispatching a changed path

A changed path is compiled, and then what depends on it is recompiled, however the first ended.
The report keeps both outcomes; that nothing applied is an outcome of its own and no failure.
-/

namespace PatternBuild

/-- how one half of a dispatch ended -/
inductive DispatchOutcome where
  /-- steps ran; the last code -/
  | ran (code : Int)
  | nothingToDo
  | failed (fault : Fault)
  deriving DecidableEq, Repr

def DispatchOutcome.ofResult : Except Fault Int → DispatchOutcome
  | .ok code => .ran code
  | .error f => if f.isNoMatch then .nothingToDo else .failed f

/-- what came of one changed path -/
structure DispatchReport where
  path : String
  compile : DispatchOutcome
  dependents : DispatchOutcome
  deriving DecidableEq, Repr

variable {σ : Type}

/-- compile a path, then recompile what depends on it -/
def Program.dispatch (p : Program) (w : World σ) (path : String) (s : σ) : DispatchReport × σ :=
  let (compiled, s) := (p.compile w path).perform s
  let (dependents, s) := (p.compileDependents w path).perform s
  (⟨path, .ofResult compiled, .ofResult dependents⟩, s)

end PatternBuild

/-!
## Sessions: a watcher in a world, on a clock

A session feeds a watcher with the events sent to it and with ticks at 0, one period, two periods,
and so on, and dispatches every path handed out.  With content hashes on, a file whose digest is
the one it had before is skipped.
-/

namespace PatternBuild

variable {σ : Type}

/-! ### handing out -/

/-- dispatch a path unless its content is known; no report if it was skipped -/
def Program.dispatchIfChanged (p : Program) (w : World σ) (useHash : Bool) (path : String)
    (hashes : ContentHashes) (s : σ) : Option DispatchReport × ContentHashes × σ :=
  if useHash then
    let (changed, hashes) := hashes.changed (w.files s) path
    if changed then
      let (report, s) := p.dispatch w path s
      (some report, hashes, s)
    else (none, hashes, s)
  else
    let (report, s) := p.dispatch w path s
    (some report, hashes, s)

/-- dispatch paths one after the other -/
def Program.dispatchAll (p : Program) (w : World σ) (useHash : Bool) :
    List String → ContentHashes → σ → List (Option DispatchReport) × ContentHashes × σ
  | [], hashes, s => ([], hashes, s)
  | path :: rest, hashes, s =>
    let (report, hashes, s) := p.dispatchIfChanged w useHash path hashes s
    let (reports, hashes, s) := p.dispatchAll w useHash rest hashes s
    (report :: reports, hashes, s)

/-! ### the clock -/

/-- a watch that is going on -/
structure WatchSession (σ : Type) where
  watcher : Watcher
  hashes : ContentHashes
  state : σ
  /-- the time in milliseconds -/
  now : Nat
  /-- the time of the next tick -/
  nextTick : Nat
  /-- signals sent but not received -/
  queue : List Signal

namespace WatchSession

variable (p : Program) (w : World σ) (o : WatchOptions)

def start (o : WatchOptions) (state : σ) : WatchSession σ :=
  ⟨.start o, .empty, state, 0, 0, []⟩

def isFinished (s : WatchSession σ) : Bool := s.watcher.ended.isSome

/-- send a signal, to be received when the watcher next runs -/
def send (s : WatchSession σ) (signal : Signal) : WatchSession σ :=
  { s with queue := s.queue ++ [signal] }

/-- receive one signal now -/
def receive (s : WatchSession σ) (signal : Signal) : WatchSession σ :=
  let (paths, watcher) := s.watcher.react o s.now signal
  let (_, hashes, state) := p.dispatchAll w o.useHash paths s.hashes s.state
  { s with watcher, hashes, state }

/-- receive the signals sent so far -/
def receiveQueued (s : WatchSession σ) : WatchSession σ :=
  s.queue.foldl (receive p w o) { s with queue := [] }

/-- a number of ticks, each at its time -/
def ticks : Nat → WatchSession σ → WatchSession σ
  | 0, s => s
  | n + 1, s =>
    ticks n { receive p w o { s with now := s.nextTick } .tick with
      nextTick := s.nextTick + o.tick }

/-- how many ticks are due up to a time -/
def ticksDue (s : WatchSession σ) (time : Nat) : Nat :=
  if s.nextTick ≤ time then (time - s.nextTick) / o.tick + 1 else 0

/-- let time pass -/
def advance (s : WatchSession σ) (ms : Nat) : WatchSession σ :=
  let s := receiveQueued p w o s
  let time := s.now + ms
  { ticks p w o (ticksDue o s time) s with now := time }

/-- end the event stream -/
def finish (s : WatchSession σ) : WatchSession σ :=
  receive p w o (receiveQueued p w o s) .closed

end WatchSession

end PatternBuild
