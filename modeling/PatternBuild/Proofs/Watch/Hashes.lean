import Mathlib.Data.List.Nodup
import PatternBuild.Proofs.Path.Plain
import PatternBuild.Watch.Session

/-!
# What content hashes remember

Asking whether a path changed leaves its digest in the table, or nothing if it has none, and leaves
all other paths alone (`ContentHashes.get?_changed`).  So the answers for paths with different plain
spellings do not depend on each other, nor does the table on the order in which they were asked
about (`ContentHashes.marks_perm`).
-/

namespace PatternBuild

open Path

/-- the digest of a path, if it is a file that can be read -/
def digest? (fs : FileSystem) (path : String) : Option String :=
  if fs.isFile path then (fileHash fs path).toOption else none

namespace ContentHashes

variable {h h' : ContentHashes} {fs : FileSystem} {path other : String}

/-! ## one path -/

/-- a path has changed if it has no digest or another one than before -/
theorem changed_eq_true_iff :
    (h.changed fs path).1 = true ↔ digest? fs path = none ∨ h.get? path ≠ digest? fs path := by
  unfold changed digest?
  by_cases hfile : fs.isFile path = true
  · rw [if_pos hfile, if_pos hfile]
    cases fileHash fs path with
    | error f => simp [Except.toOption]
    | ok digest => simp [Except.toOption]
  · simp [if_neg hfile]

/-- the table holds the digest of the path from then on, and what it held for all others -/
theorem get?_changed (h : ContentHashes) (fs : FileSystem) (path k : String) :
    (h.changed fs path).2.known.get? k =
      if k = plain path then digest? fs path else h.known.get? k := by
  unfold changed digest?
  by_cases hfile : fs.isFile path = true
  · rw [if_pos hfile, if_pos hfile]
    cases fileHash fs path with
    | error f => exact Table.get?_erase _ _ _
    | ok digest => exact Table.get?_insert _ _ _ _
  · rw [if_neg hfile, if_neg hfile]
    exact Table.get?_erase _ _ _

/-- only what the table holds for the path matters -/
theorem changed_congr (hsame : h.get? path = h'.get? path) :
    (h.changed fs path).1 = (h'.changed fs path).1 := by
  rw [Bool.eq_iff_iff, changed_eq_true_iff, changed_eq_true_iff, hsame]

/-- paths with different plain spellings do not touch each other -/
theorem changed_comm (hne : plain path ≠ plain other) :
    ((h.changed fs path).2.changed fs other).2 = ((h.changed fs other).2.changed fs path).2 := by
  refine congrArg ContentHashes.mk (Table.ext_get? fun k => ?_)
  rw [get?_changed, get?_changed, get?_changed, get?_changed]
  by_cases hk : k = plain path
  · rw [if_pos hk, if_neg (fun e => hne (hk.symm.trans e)), if_pos hk]
  · rw [if_neg hk, if_neg hk]

end ContentHashes

/-! ## guarded paths -/

/-- a path to dispatch, and whether it is skipped if its content has not changed -/
structure Errand where
  path : String
  guarded : Bool
  deriving DecidableEq

namespace ContentHashes

variable {h : ContentHashes} {fs : FileSystem} {e : Errand} {es es' : List Errand}

/-- whether to go on an errand, and the table from then on -/
def guard (h : ContentHashes) (fs : FileSystem) (e : Errand) : Bool × ContentHashes :=
  if e.guarded then h.changed fs e.path else (true, h)

/-- the table after some errands -/
def marks (h : ContentHashes) (fs : FileSystem) (es : List Errand) : ContentHashes :=
  es.foldl (fun h e => (h.guard fs e).2) h

/-- errands whose paths can be told apart -/
def Apart (es : List Errand) : Prop := (es.map fun e => plain e.path).Nodup

theorem apart_of_clean (hclean : ∀ e ∈ es, clean e.path = e.path)
    (hdistinct : (es.map (·.path)).Nodup) : Apart es := by
  have hplain : (es.map fun e => plain e.path) = es.map (·.path) :=
    List.map_congr_left fun e he => plain_of_clean (hclean e he)
  rw [Apart, hplain]
  exact hdistinct

theorem marks_append (h : ContentHashes) (fs : FileSystem) (es es' : List Errand) :
    h.marks fs (es ++ es') = (h.marks fs es).marks fs es' := List.foldl_append

/-- errands to other paths leave a path alone -/
theorem get?_marks {path : String} (hother : ∀ e ∈ es, plain e.path ≠ plain path) :
    (h.marks fs es).get? path = h.get? path := by
  induction es generalizing h with
  | nil => rfl
  | cons e es ih =>
    obtain ⟨he, hes⟩ := List.forall_mem_cons.1 hother
    have hrest := ih (h := (h.guard fs e).2) hes
    refine hrest.trans ?_
    unfold guard
    split
    · exact (get?_changed _ _ _ _).trans (if_neg (Ne.symm he))
    · rfl

/-- whether to go on an errand does not depend on errands to other paths -/
theorem guard_marks (hother : ∀ e' ∈ es, plain e'.path ≠ plain e.path) :
    ((h.marks fs es).guard fs e).1 = (h.guard fs e).1 := by
  unfold guard
  split
  · exact changed_congr (get?_marks hother)
  · rfl

theorem guard_comm {e' : Errand} (hne : plain e.path ≠ plain e'.path) :
    ((h.guard fs e).2.guard fs e').2 = ((h.guard fs e').2.guard fs e).2 := by
  unfold guard
  by_cases he : e.guarded = true
  · by_cases he' : e'.guarded = true
    · simp only [he, he', if_true, changed_comm hne]
    · simp only [he, he', if_true, Bool.false_eq_true, if_false]
  · simp only [he, Bool.false_eq_true, if_false]

/-- the order of errands does not matter to the table -/
theorem marks_perm (hperm : es.Perm es') (hapart : Apart es) : h.marks fs es = h.marks fs es' := by
  refine hperm.foldl_eq' (fun a ha b hb h => ?_) h
  by_cases hab : a = b
  · rw [hab]
  · exact guard_comm fun he => hab (List.inj_on_of_nodup_map hapart ha hb he)

end ContentHashes

end PatternBuild
