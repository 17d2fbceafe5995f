import PatternBuild.Proofs.Engine.Steady
import PatternBuild.Watch.Session

/-!
# Dispatches that stop at every invocation

A dispatch that is carried out bit by bit is known by the replies to the invocations it has made so
far.  Replaying them tells how it goes on: a replay is a dispatch in a world that gives these
replies, and that keeps the first invocation for which there is none.

* `Program.dispatch_eq`       in a steady world a dispatch ends as it is settled;
* `Program.dispatch_replay`   replayed with the first replies it asks for the invocation that comes
                              next, and replayed with all of them it ends the same.
-/

namespace PatternBuild

open Path

/-! ## replays -/

/-- the replies still to be given, and the first invocation that there was none for -/
structure Replay where
  replies : List (Except Fault Int)
  asked : Option Invocation

namespace Replay

/-- how an invocation without a reply ends -/
def unanswered : Fault := .noExitStatus ""

/-- reply in order; without a reply nothing goes on -/
def execute (i : Invocation) : Action Replay Int := ExceptT.mk fun r =>
  match r.asked, r.replies with
  | none, reply :: rest => (reply, ⟨rest, none⟩)
  | none, [] => (.error unanswered, ⟨[], some i⟩)
  | some _, _ => (.error unanswered, r)

/-- the world that gives replies -/
def world (fs : FileSystem) : World Replay := ⟨execute, fun _ => fs⟩

variable {fs : FileSystem} {answer : Invocation → Except Fault Int} {i : Invocation}
  {replies : List (Except Fault Int)}

/-- what was asked stays -/
theorem runJobs_asked (jobs : List Job) :
    ((world fs).runJobs jobs ⟨replies, some i⟩).2 = ⟨replies, some i⟩ := by
  cases jobs with
  | nil => rfl
  | cons job jobs =>
    cases job with
    | error f => rfl
    | ok j => rfl

/-- with all replies, jobs end as they are settled -/
theorem runJobs_answered (jobs : List Job) (rest : List (Except Fault Int)) :
    (world fs).runJobs jobs ⟨(settle answer jobs).2.map answer ++ rest, none⟩ =
      ((settle answer jobs).1, ⟨rest, none⟩) := by
  induction jobs with
  | nil => rfl
  | cons job jobs ih =>
    cases job with
    | error f => rfl
    | ok i =>
      by_cases hi : answer i = .ok 0
      · rw [settle, if_pos hi]
        show Action.thenOn (answer i, _) _ = _
        rw [hi]
        exact ih
      · rw [settle, if_neg hi]
        show Action.thenOn (answer i, Replay.mk rest none) _ = _
        cases h : answer i with
        | error f => rfl
        | ok code => exact Action.thenOn_code (fun hc => hi (by rw [h, hc])) _ _

/-- with the first replies only, jobs get to the invocation that comes next -/
theorem runJobs_unanswered (jobs : List Job) {k : Nat} (hk : (settle answer jobs).2[k]? = some i) :
    ((world fs).runJobs jobs ⟨((settle answer jobs).2.take k).map answer, none⟩).2 =
      ⟨[], some i⟩ := by
  induction jobs generalizing k with
  | nil => cases hk
  | cons job jobs ih =>
    cases job with
    | error f => cases hk
    | ok j =>
      cases k with
      | zero =>
        -- the invocation asked for is the first one, however it is answered
        have hj : j = i := by
          rw [settle] at hk
          split at hk
          · exact Option.some.inj hk
          · exact Option.some.inj hk
        subst hj
        rfl
      | succ k =>
        by_cases hj : answer j = .ok 0
        · rw [settle, if_pos hj] at hk ⊢
          show (Action.thenOn (answer j, _) _).2 = _
          rw [hj]
          exact ih hk
        · rw [settle, if_neg hj] at hk
          cases hk

theorem runMatching_asked (path : String) (jobs : List Job) :
    ((world fs).runMatching path jobs ⟨replies, some i⟩).2 = ⟨replies, some i⟩ := by
  unfold World.runMatching
  split
  · rfl
  · exact runJobs_asked jobs

theorem runMatching_answered (path : String) (jobs : List Job) (rest : List (Except Fault Int)) :
    (world fs).runMatching path jobs ⟨(settleMatching answer path jobs).2.map answer ++ rest, none⟩ =
      ((settleMatching answer path jobs).1, ⟨rest, none⟩) := by
  unfold World.runMatching settleMatching
  split
  · rfl
  · exact runJobs_answered jobs rest

theorem runMatching_unanswered (path : String) (jobs : List Job) {k : Nat}
    (hk : (settleMatching answer path jobs).2[k]? = some i) :
    ((world fs).runMatching path jobs
      ⟨((settleMatching answer path jobs).2.take k).map answer, none⟩).2 = ⟨[], some i⟩ := by
  unfold World.runMatching settleMatching at *
  split
  · rename_i hempty
    rw [if_pos hempty] at hk
    cases hk
  · rename_i hempty
    rw [if_neg hempty] at hk
    exact runJobs_unanswered jobs hk

end Replay

/-! ## dispatches -/

namespace Program

variable {σ : Type} {w : World σ} {s : σ} {fs : FileSystem} {I : σ → Prop}
  {answer : Invocation → Except Fault Int}

/-- the report on a path and the invocations made, when every invocation has its answer -/
def settled (p : Program) (fs : FileSystem) (answer : Invocation → Except Fault Int)
    (path : String) : DispatchReport × List Invocation :=
  let compiled := settleMatching answer path (p.jobs path)
  let dependents := settleMatching answer (clean path) (p.dependentJobs fs path)
  (⟨path, .ofResult compiled.1, .ofResult dependents.1⟩, compiled.2 ++ dependents.2)

/-- with files that stay, a dispatch does the jobs of a path and then those of its dependents -/
theorem dispatch_of_files (hfiles : ∀ s, I s → w.files s = fs) (hI : w.Keeps I) (hs : I s)
    (p : Program) (path : String) : p.dispatch w path s =
      (⟨path, .ofResult (w.runMatching path (p.jobs path) s).1, .ofResult
          (w.runMatching (clean path) (p.dependentJobs fs path)
            (w.runMatching path (p.jobs path) s).2).1⟩,
        (w.runMatching (clean path) (p.dependentJobs fs path)
          (w.runMatching path (p.jobs path) s).2).2) := by
  have hkeep : I (w.runMatching path (p.jobs path) s).2 := by
    unfold World.runMatching
    split
    · exact hs
    · exact hI.runJobs _ hs
  unfold dispatch
  rw [perform_compile_eq]
  dsimp only
  rw [perform_compileDependents_of_files hfiles hI hkeep]

/-- in a steady world a dispatch ends as it is settled -/
theorem dispatch_eq (hw : w.Steady fs answer I) (hs : I s) (p : Program) (path : String) :
    p.dispatch w path s =
      ((p.settled fs answer path).1, w.after (p.settled fs answer path).2 s) := by
  rw [dispatch_of_files hw.files hw.keeps hs, hw.runMatching_eq _ _ hs]
  dsimp only
  rw [hw.runMatching_eq _ _ (hw.after _ hs)]
  simp only [settled, World.after, List.foldl_append]

/-- replayed with the first replies, a dispatch asks for the invocation that comes next; replayed
with all of them it ends as it is settled -/
theorem dispatch_replay (p : Program) (fs : FileSystem) (answer : Invocation → Except Fault Int)
    (path : String) {k : Nat} (hk : k ≤ (p.settled fs answer path).2.length) :
    (p.dispatch (Replay.world fs) path
        ⟨((p.settled fs answer path).2.take k).map answer, none⟩).2.asked =
      (p.settled fs answer path).2[k]? ∧
    (k = (p.settled fs answer path).2.length →
      (p.dispatch (Replay.world fs) path
        ⟨((p.settled fs answer path).2.take k).map answer, none⟩).1 =
      (p.settled fs answer path).1) := by
  rw [dispatch_of_files (I := fun _ => True) (fun _ _ => rfl) (fun _ _ _ => trivial) trivial]
  simp only [settled] at hk ⊢
  have hanswered := @Replay.runMatching_answered fs answer path (p.jobs path)
  have hanswered' := @Replay.runMatching_answered fs answer (clean path) (p.dependentJobs fs path) []
  have hunanswered := @Replay.runMatching_unanswered fs answer
  generalize hr : settleMatching answer path (p.jobs path) = compiled at *
  generalize hr' : settleMatching answer (clean path) (p.dependentJobs fs path) = dependents at *
  rw [List.length_append] at hk ⊢
  rcases Nat.lt_or_ge k compiled.2.length with hlt | hge
  · -- the compilation itself gets to an invocation without a reply
    obtain ⟨i, hi⟩ : ∃ i, compiled.2[k]? = some i := ⟨_, List.getElem?_eq_getElem hlt⟩
    have hfirst := hunanswered path (p.jobs path) (by rw [hr]; exact hi)
    rw [hr] at hfirst
    rw [List.take_append_of_le_length (Nat.le_of_lt hlt), hfirst, Replay.runMatching_asked,
      List.getElem?_append_left hlt]
    exact ⟨hi.symm, fun h => by omega⟩
  · -- the compilation has all of its replies
    obtain ⟨j, rfl⟩ := Nat.exists_eq_add_of_le hge
    rw [List.take_length_add_append, List.map_append, hanswered, List.getElem?_append_right hge,
      Nat.add_sub_cancel_left]
    dsimp only
    rcases Nat.lt_or_ge j dependents.2.length with hlt | hge'
    · obtain ⟨i, hi⟩ : ∃ i, dependents.2[j]? = some i := ⟨_, List.getElem?_eq_getElem hlt⟩
      have hsecond := hunanswered (clean path) (p.dependentJobs fs path) (by rw [hr']; exact hi)
      rw [hr'] at hsecond
      rw [hsecond]
      exact ⟨hi.symm, fun h => by omega⟩
    · rw [List.append_nil] at hanswered'
      rw [List.take_of_length_le hge', hanswered', List.getElem?_eq_none hge']
      exact ⟨rfl, fun _ => rfl⟩

end Program

end PatternBuild
