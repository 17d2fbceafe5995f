import PatternBuild.Table

/-!
# Debouncing: waiting until a path is quiet

A debouncer remembers when each path changed last.  A path is handed out once that lies more than
the settle time back; a time after the present counts as no time back.
-/

namespace PatternBuild

/-- the paths that wait, with the time of their last change in milliseconds -/
structure Debouncer where
  /-- how long a path must have been quiet -/
  settle : Nat
  pending : Table String Nat
  deriving DecidableEq

namespace Debouncer

def new (settle : Nat) : Debouncer := ⟨settle, .empty⟩

/-- a change at the given time restarts the wait of a path -/
def record (d : Debouncer) (path : String) (time : Nat) : Debouncer :=
  { d with pending := d.pending.insert path time }

/-- whether a path that changed last at `last` is quiet at `now` -/
def isSettled (d : Debouncer) (now last : Nat) : Bool := d.settle < now - last

/-- hand out the paths that are quiet, ascending -/
def drainSettled (d : Debouncer) (now : Nat) : List String × Debouncer :=
  ((d.pending.filter fun _ last => d.isSettled now last).keys,
    { d with pending := d.pending.filter fun _ last => !d.isSettled now last })

/-- hand out every waiting path, ascending -/
def drainAll (d : Debouncer) : List String × Debouncer :=
  (d.pending.keys, { d with pending := .empty })

def size (d : Debouncer) : Nat := d.pending.size

def isEmpty (d : Debouncer) : Bool := d.pending.entries.isEmpty

end Debouncer

end PatternBuild
