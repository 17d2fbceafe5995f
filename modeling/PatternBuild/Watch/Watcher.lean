import PatternBuild.Fault
import PatternBuild.Path.Component
import PatternBuild.Watch.Debouncer

/-!
# Watching

Change events become paths in scope, which are handed out when they are quiet.
-/

/-!
## Scope: which paths are watched, and under which name

Paths of change events are named relative to a base, part by part, and again with links resolved
where that fails.  A path is excluded when it is one of the excluded paths or lies below one.
-/

namespace PatternBuild.Watch

open Path

/-- the path below a base, by components, clean -/
def below? (base path : String) : Option String :=
  (Path.below? (components base.toList) (components path.toList)).map fun rest =>
    clean (String.ofList (ofComponents rest))

/-- the path below a base, by components, or else once `canonical?` has resolved both -/
def relative? (canonical? : String → Option String) (base path : String) : Option String :=
  match below? base path with
  | some rel => some rel
  | none => do
    let base ← canonical? base
    let path ← canonical? path
    below? base path

/-- whether a clean path is an excluded one or lies below one -/
def isExcluded (excludes : List String) (rel : String) : Bool :=
  excludes.any fun e =>
    let e := (clean e).toList
    rel.toList = e || (e ++ ['/']).isPrefixOf rel.toList

end PatternBuild.Watch

/-!
## Watching: from change events to paths to dispatch

A watcher receives signals: change events, the ticks of a clock, the end of the event stream, or
its failure.  Changed paths that are in scope wait in a debouncer; a tick hands out those that are
quiet, the end of the stream hands out all of them, and a failure ends the watch with nothing
handed out.
-/

namespace PatternBuild

/-! ### signals -/

/-- what a modification touched -/
inductive ModifyKind where
  | any
  | data
  | metadata
  | name
  | other
  deriving DecidableEq, Repr

/-- what happened to a path -/
inductive EventKind where
  | any
  | access
  | create
  | modify (what : ModifyKind)
  | remove
  | other
  deriving DecidableEq, Repr

/-- whether an event may have changed what a path holds: creation, writing and renaming -/
def EventKind.isChange : EventKind → Bool
  | .create => true
  | .modify .metadata => false
  | .modify _ => true
  | _ => false

/-- what a watcher receives -/
inductive Signal where
  /-- something happened to some paths -/
  | event (kind : EventKind) (paths : List String)
  /-- the clock ticked -/
  | tick
  /-- the event stream ended -/
  | closed
  /-- the event stream failed -/
  | failure (reason : String)
  deriving DecidableEq, Repr

/-- what a watch needs to know -/
structure WatchOptions where
  /-- paths are named relative to this -/
  base : String
  excludes : List String
  /-- how long a path must be quiet, in milliseconds -/
  settle : Nat
  /-- the time between ticks, in milliseconds -/
  tick : Nat
  /-- whether files with unchanged content are skipped -/
  useHash : Bool
  /-- the path behind all links, if there is one -/
  canonical? : String → Option String

namespace WatchOptions

variable (o : WatchOptions)

/-- the name of a changed path -/
def nameOf (path : String) : String :=
  (Watch.relative? o.canonical? o.base path).getD (Path.clean path)

/-- the names of the changed paths that are not excluded -/
def accepted (kind : EventKind) (paths : List String) : List String :=
  if kind.isChange then (paths.map o.nameOf).filter (fun p => !Watch.isExcluded o.excludes p)
  else []

end WatchOptions

/-! ### the watcher -/

/-- the paths that wait, and how the watch ended once it has -/
structure Watcher where
  waiting : Debouncer
  ended : Option (Except Fault Unit)

namespace Watcher

def start (o : WatchOptions) : Watcher := ⟨.new o.settle, none⟩

/-- take a signal at a time; the paths handed out, and the watcher from then on -/
def react (o : WatchOptions) (w : Watcher) (now : Nat) (signal : Signal) : List String × Watcher :=
  match w.ended with
  | some _ => ([], w)
  | none =>
    match signal with
    | .event kind paths =>
      ([], { w with waiting := (o.accepted kind paths).foldl (·.record · now) w.waiting })
    | .tick =>
      let (paths, waiting) := w.waiting.drainSettled now
      (paths, { w with waiting })
    | .closed =>
      let (paths, waiting) := w.waiting.drainAll
      (paths, ⟨waiting, some (.ok ())⟩)
    | .failure reason => ([], { w with ended := some (.error (.watch reason)) })

/-- take signals in order; the paths handed out at each, and the watcher in the end -/
def run (o : WatchOptions) (w : Watcher) : List (Nat × Signal) → List (List String) × Watcher
  | [] => ([], w)
  | (now, signal) :: rest =>
    let (paths, w) := w.react o now signal
    let (later, w) := run o w rest
    (paths :: later, w)

end Watcher

end PatternBuild
