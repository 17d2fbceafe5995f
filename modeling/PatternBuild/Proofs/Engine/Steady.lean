import PatternBuild.Proofs.Engine.Dependents

/-!
# Steady worlds

A steady world shows the same files all the time and answers an invocation by itself, whatever was
run before.  Jobs come to the same there in every state: `settle` tells their outcome and the
invocations made, without a world.

* `Program.perform_compileDependents_of_files`   recompiling with files that stay is doing jobs in
                                                 order;
* `World.Steady.runJobs_eq`                      doing jobs in a steady world is settling them.
-/

namespace PatternBuild

open Path

variable {σ : Type}

/-! ## jobs of fixed files -/

/-- what recompiling the dependents of a path comes to -/
def Program.dependentJobs (p : Program) (fs : FileSystem) (changed : String) : List Job :=
  (p.dependents changed).flatMap (·.turn fs)

namespace World

variable {w : World σ}

/-- do jobs for a path, to which nothing applied if there are none -/
def runMatching (w : World σ) (path : String) (jobs : List Job) (s : σ) : Except Fault Int × σ :=
  if jobs.isEmpty then (.error (.noMatchingStep path), s) else w.runJobs jobs s

theorem runJobs_append (as bs : List Job) (s : σ) :
    w.runJobs (as ++ bs) s = Action.thenOn (w.runJobs as s) (w.runJobs bs) := by
  induction as generalizing s with
  | nil => rfl
  | cons a as ih =>
    rw [List.cons_append, runJobs_cons, runJobs_cons, Action.thenOn_assoc]
    congr 1
    funext s'
    exact ih s'

/-- turns whose jobs are known before are jobs in order -/
theorem runTurns_flatMap {ι : Type} (jobs : ι → List Job) (l : List ι) (s : σ) :
    w.runTurns (fun x _ => jobs x) l s = w.runJobs (l.flatMap jobs) s := by
  induction l generalizing s with
  | nil => rfl
  | cons x l ih =>
    rw [List.flatMap_cons, runJobs_append, runTurns_cons]
    congr 1
    funext s'
    exact ih s'

end World

namespace Program

variable {p : Program} {w : World σ} {s : σ} {fs : FileSystem} {I : σ → Prop} {changed : String}

theorem perform_compile_eq (p : Program) (w : World σ) (path : String) (s : σ) :
    (p.compile w path).perform s = w.runMatching path (p.jobs path) s := p.perform_compile w path s

/-- with files that stay, recompiling the dependents of a path is doing their jobs in order -/
theorem perform_compileDependents_of_files (hfiles : ∀ s, I s → w.files s = fs)
    (hI : w.Keeps I) (hs : I s) (p : Program) (changed : String) :
    (p.compileDependents w changed).perform s =
      w.runMatching (clean changed) (p.dependentJobs fs changed) s := by
  have hempty : (p.dependentJobs fs changed).isEmpty = true ↔
      ∀ step ∈ p.dependents changed, step.turn (w.files s) = [] := by
    rw [List.isEmpty_iff, dependentJobs, List.flatMap_eq_nil_iff, hfiles s hs]
  unfold World.runMatching
  split
  · rename_i hidle
    exact perform_compileDependents_of_idle (hempty.1 hidle)
  · rename_i hbusy
    rw [perform_compileDependents_of_busy (mt hempty.2 hbusy), dependentJobs,
      ← World.runTurns_flatMap]
    exact World.runTurns_congr hI (fun step _ s hs => by rw [hfiles s hs]) hs

end Program

/-! ## settling -/

/-- the outcome of jobs and the invocations made, when every invocation has its answer -/
def settle (answer : Invocation → Except Fault Int) : List Job → Except Fault Int × List Invocation
  | [] => (.ok 0, [])
  | .error f :: _ => (.error f, [])
  | .ok i :: jobs =>
    if answer i = .ok 0 then ((settle answer jobs).1, i :: (settle answer jobs).2)
    else (answer i, [i])

/-- settle jobs for a path, to which nothing applied if there are none -/
def settleMatching (answer : Invocation → Except Fault Int) (path : String) (jobs : List Job) :
    Except Fault Int × List Invocation :=
  if jobs.isEmpty then (.error (.noMatchingStep path), []) else settle answer jobs

namespace World

/-- the state after invocations, whatever they are answered -/
def after (w : World σ) (made : List Invocation) (s : σ) : σ :=
  made.foldl (fun s i => ((w.execute i).perform s).2) s

/-- while `I` holds the files stay and every invocation has its answer, and invocations keep `I` -/
structure Steady (w : World σ) (fs : FileSystem) (answer : Invocation → Except Fault Int)
    (I : σ → Prop) : Prop where
  files : ∀ s, I s → w.files s = fs
  answers : ∀ s i, I s → ((w.execute i).perform s).1 = answer i
  keeps : w.Keeps I

variable {w : World σ} {s : σ} {fs : FileSystem} {answer : Invocation → Except Fault Int}
  {I : σ → Prop}

namespace Steady

/-- a log does not matter to the answers -/
theorem logged (hw : w.Steady fs answer I) : w.logged.Steady fs answer fun s => I s.1 :=
  ⟨fun s => hw.files s.1, fun s => hw.answers s.1, fun s => hw.keeps s.1⟩

theorem after (hw : w.Steady fs answer I) (made : List Invocation) (hs : I s) :
    I (w.after made s) := by
  induction made generalizing s with
  | nil => exact hs
  | cons i made ih => exact ih (hw.keeps s i hs)

/-- what was made stands in the log, every invocation with its answer -/
theorem after_logged (hw : w.Steady fs answer I) (made : List Invocation) (log : List LogEntry)
    (hs : I s) : w.logged.after made (s, log) =
      (w.after made s, log ++ made.map fun i => (i, answer i)) := by
  induction made generalizing s log with
  | nil => simp [World.after]
  | cons i made ih =>
    have hstep : ((w.logged.execute i).perform (s, log)).2 =
        (((w.execute i).perform s).2, log ++ [(i, answer i)]) := by
      rw [← hw.answers s i hs]
      rfl
    show w.logged.after made ((w.logged.execute i).perform (s, log)).2 = _
    rw [hstep, ih _ (hw.keeps s i hs), List.append_assoc]
    rfl

/-- doing jobs in a steady world is settling them -/
theorem runJobs_eq (hw : w.Steady fs answer I) (jobs : List Job) (hs : I s) :
    w.runJobs jobs s = ((settle answer jobs).1, w.after (settle answer jobs).2 s) := by
  induction jobs generalizing s with
  | nil => rfl
  | cons job jobs ih =>
    cases job with
    | error f => rfl
    | ok i =>
      have hrun : w.runJob (.ok i) s = (answer i, ((w.execute i).perform s).2) := by
        rw [← hw.answers s i hs]
        rfl
      rw [runJobs_cons, hrun, settle]
      cases hi : answer i with
      | error f => rfl
      | ok code =>
        by_cases hc : code = 0
        · subst hc
          rw [Action.thenOn_zero, ih (hw.keeps s i hs), if_pos rfl]
          rfl
        · have hne : (Except.ok code : Except Fault Int) ≠ .ok 0 := fun e => hc (Except.ok.inj e)
          rw [Action.thenOn_code hc, if_neg hne]
          rfl

theorem runMatching_eq (hw : w.Steady fs answer I) (path : String) (jobs : List Job) (hs : I s) :
    w.runMatching path jobs s =
      ((settleMatching answer path jobs).1, w.after (settleMatching answer path jobs).2 s) := by
  unfold runMatching settleMatching
  split
  · rfl
  · exact hw.runJobs_eq jobs hs

end Steady

end World

end PatternBuild
