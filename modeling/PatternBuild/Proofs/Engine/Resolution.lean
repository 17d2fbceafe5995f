import PatternBuild.Engine.Recording
import PatternBuild.Proofs.Engine.Jobs
import PatternBuild.Proofs.Engine.RoundTrip
import PatternBuild.Proofs.Engine.Sources
import PatternBuild.Proofs.Outcome

/-!
# Which steps run

Building a path runs one step, the first with a destination pattern that matches it; compiling a
path runs every step with a source pattern that matches it.  In both cases a step takes the captures
of the first of its patterns that matches, and is not run if they leave out a capture of the paths
to be made from them (`steps_resolve`).

* `Pattern.FirstMatch`    the first of some patterns that matches, and what it makes of a path;
* `Step.IsJob`            what compiling a path with a step comes to;
* `Program.IsBuilder`     the step that builds a path;
* `Program.exists_jobs`   compiling does one job for each step that matches, in order.
-/

namespace PatternBuild

open Action Path Pattern

variable {σ : Type}

namespace Pattern

/-! ## the first pattern that matches -/

/-- what the first of some patterns that matches a path makes of it -/
def FirstMatch (ps : List Pattern) (path : String) (e : Entry) : Prop :=
  ∃ before q after, ps = before ++ q :: after ∧ (∀ r ∈ before, r.matches? path = none) ∧
    q.matches? path = some e

variable {ps : List Pattern} {path : String} {e : Entry}

theorem firstMatch?_eq_some_iff : firstMatch? ps path = some e ↔ FirstMatch ps path e := by
  rw [firstMatch?, List.findSome?_eq_some_iff]
  constructor
  · rintro ⟨before, q, after, hps, hq, hbefore⟩
    exact ⟨before, q, after, hps, hbefore, hq⟩
  · rintro ⟨before, q, after, hps, hbefore, hq⟩
    exact ⟨before, q, after, hps, hq, hbefore⟩

theorem firstMatch?_eq_none_iff :
    firstMatch? ps path = none ↔ ∀ q ∈ ps, q.matches? path = none :=
  List.findSome?_eq_none_iff

theorem FirstMatch.name_eq (h : FirstMatch ps path e) : e.name = clean path := by
  obtain ⟨_, q, _, _, _, hq⟩ := h
  exact (matches?_eq_some_iff.1 hq).1

end Pattern

/-! ## compiling with one step -/

namespace Step

variable {step : Step} {path : String} {e : Entry}

/-- what compiling a path with a step comes to: an invocation for the path and for what its captures
make of the destinations, or the first capture that is missing for these -/
def IsJob (path : String) (step : Step) (job : Job) : Prop :=
  ∃ e, FirstMatch step.sources path e ∧
    ((∀ q ∈ step.destinations, Bound e.args q.tokens) ∧
        job = .ok ⟨step.body, [clean path], step.destinations.map (filled e.args), e.args⟩ ∨
      ∃ q n, Lacks e.args step.destinations q n ∧ job = .error (.missingCapture q.text n))

/-- whether a source pattern matches a path -/
def matchesSource (path : String) (step : Step) : Bool :=
  step.sources.any fun q => (q.matches? path).isSome

theorem compiles?_eq_none_iff : step.compiles? path = none ↔ step.matchesSource path = false := by
  rw [compiles?, List.findSome?_eq_none_iff, matchesSource, List.any_eq_false]
  simp

/-- a job is what the first source pattern that matches leads to -/
theorem isJob_of_compiles? (h : step.compiles? path = some e) : step.IsJob path (step.job e) := by
  have hfirst : FirstMatch step.sources path e := firstMatch?_eq_some_iff.1 h
  refine ⟨e, hfirst, ?_⟩
  unfold job
  rcases bound_or_lacks e.args step.destinations with hbound | ⟨q, n, hlacks⟩
  · rw [substituteAll_of_bound hbound, hfirst.name_eq]
    exact .inl ⟨hbound, rfl⟩
  · rw [substituteAll_of_lacks hlacks]
    exact .inr ⟨q, n, hlacks, rfl⟩

end Step

namespace Program

variable {p : Program} {w : World σ} {path : String} {step : Step} {e : Entry}

/-- compiling does one job for each step that matches, in order -/
theorem exists_jobs (steps : List Step) (path : String) :
    List.Forall₂ (Step.IsJob path) (steps.filter (·.matchesSource path))
      (steps.filterMap (·.job? path)) := by
  induction steps with
  | nil => exact .nil
  | cons step steps ih =>
    cases hstep : step.compiles? path with
    | none =>
      have hjob : step.job? path = none := by
        rw [Step.job?, hstep]
        rfl
      rw [List.filterMap_cons_none (f := (Step.job? · path)) hjob, List.filter_cons_of_neg]
      · exact ih
      · rw [Step.compiles?_eq_none_iff.1 hstep]
        exact Bool.false_ne_true
    | some e =>
      have hjob : step.job? path = some (step.job e) := by
        rw [Step.job?, hstep]
        rfl
      have hmatch : step.matchesSource path = true := by
        refine Bool.of_not_eq_false fun hnone => ?_
        rw [Step.compiles?_eq_none_iff.2 hnone] at hstep
        cases hstep
      rw [List.filterMap_cons_some (f := (Step.job? · path)) hjob, List.filter_cons_of_pos hmatch]
      exact .cons (Step.isJob_of_compiles? hstep) ih

/-- there is nothing to do when no source pattern matches -/
theorem jobs_eq_nil_iff : p.jobs path = [] ↔
    ∀ step ∈ p.steps, ∀ q ∈ step.sources, q.matches? path = none := by
  rw [jobs, List.filterMap_eq_nil_iff]
  refine forall₂_congr fun step _ => ?_
  rw [Step.job?, Option.map_eq_none_iff]
  exact firstMatch?_eq_none_iff

/-- that no step matches is not the fault of a job -/
theorem noMatchingStep_not_mem_jobs : .error (.noMatchingStep path) ∉ p.jobs path := by
  intro hjob
  obtain ⟨step, _, e, _, ⟨_, he⟩ | ⟨q, n, _, he⟩⟩ :=
    exists_left_of_mem (exists_jobs p.steps path) hjob
  · cases he
  · cases he

/-! ## building -/

/-- the first step with a destination pattern that matches a path, and what the first such pattern
of it makes of the path -/
def IsBuilder (p : Program) (path : String) (step : Step) (e : Entry) : Prop :=
  ∃ before after, p.steps = before ++ step :: after ∧
    (∀ s ∈ before, ∀ q ∈ s.destinations, q.matches? path = none) ∧
    FirstMatch step.destinations path e

theorem IsBuilder.build_eq (h : p.IsBuilder path step e) : p.build w path =
    ofExcept (substituteAll step.sources e.args) >>= fun sources =>
      runStep w step sources [clean path] e.args := by
  obtain ⟨before, after, hp, hbefore, hfirst⟩ := h
  rw [← hfirst.name_eq]
  exact build_eq_of_first hp (fun s hs => firstMatch?_eq_none_iff.2 (hbefore s hs))
    (firstMatch?_eq_some_iff.2 hfirst)

theorem build_eq_of_none (h : ∀ s ∈ p.steps, ∀ q ∈ s.destinations, q.matches? path = none) :
    p.build w path = throw (.noMatchingStep path) := by
  have hbuilder : p.builder? path = none := by
    refine List.findSome?_eq_none_iff.2 fun s hs => ?_
    rw [show s.builds? path = none from firstMatch?_eq_none_iff.2 (h s hs)]
    rfl
  unfold build
  rw [hbuilder]

/-! ## both -/

/-- **Which steps run.**  Building a path takes the first step with a destination pattern that
matches it, and the captures of the first such pattern.  If these bind every capture of the step's
source patterns, building is one invocation: the step's script, the source patterns with their
captures replaced, the clean path and the captures.  Otherwise it is the fault that names the first
source pattern with a capture that is not bound, and the first such capture; nothing is run, and no
later step is tried.  Where no step has such a destination pattern, that is the fault.

Compiling a path does one job for each step with a source pattern that matches it, in the order of
declaration, as long as jobs end with code 0.  The fault that no step matches is found, and not
answered by an invocation, if and only if no step has such a source pattern. -/
theorem steps_resolve (p : Program) (path : String) (σ : Type) (w : World σ) :
    (∀ step e, p.IsBuilder path step e →
      ((∀ q ∈ step.sources, Bound e.args q.tokens) → p.build w path =
        w.execute ⟨step.body, step.sources.map (filled e.args), [clean path], e.args⟩) ∧
      ((¬∀ q ∈ step.sources, Bound e.args q.tokens) → ∃ q n, Lacks e.args step.sources q n ∧
        p.build w path = throw (.missingCapture q.text n))) ∧
    ((∀ step ∈ p.steps, ∀ q ∈ step.destinations, q.matches? path = none) →
      p.build w path = throw (.noMatchingStep path)) ∧
    (∃ jobs, List.Forall₂ (Step.IsJob path) (p.steps.filter (·.matchesSource path)) jobs ∧
      ∀ s, (p.compile w path).perform s =
        if jobs.isEmpty then (.error (.noMatchingStep path), s) else w.runJobs jobs s) ∧
    ∀ s, (∃ s' log, (p.compile w.logged path).perform (s, []) =
        (.error (.noMatchingStep path), (s', log)) ∧
        ∀ i, (i, .error (.noMatchingStep path)) ∉ log) ↔
      ∀ step ∈ p.steps, ∀ q ∈ step.sources, q.matches? path = none := by
  refine ⟨fun step e h => ⟨fun hbound => ?_, fun hunbound => ?_⟩, build_eq_of_none,
    ⟨p.jobs path, exists_jobs p.steps path, p.perform_compile w path⟩,
    fun s => ⟨?_, fun hnone => ?_⟩⟩
  · rw [h.build_eq, substituteAll_of_bound hbound]
    rfl
  · obtain ⟨q, n, hlacks⟩ := (bound_or_lacks e.args step.sources).resolve_left hunbound
    refine ⟨q, n, hlacks, ?_⟩
    rw [h.build_eq, substituteAll_of_lacks hlacks]
    rfl
  · rintro ⟨s', log, hrun, hown⟩
    rw [← jobs_eq_nil_iff]
    by_contra hjobs
    rw [perform_compile, if_neg (fun hempty => hjobs (List.isEmpty_iff.1 hempty))] at hrun
    rcases World.fault_of_runJobs hrun with hjob | ⟨i, hi⟩
    · exact noMatchingStep_not_mem_jobs hjob
    · exact hown i hi
  · refine ⟨s, [], ?_, fun i => List.not_mem_nil⟩
    rw [perform_compile, if_pos (List.isEmpty_iff.2 (jobs_eq_nil_iff.2 hnone))]

/-- two steps for the same destinations, of which only the second can be run for them -/
def competing : Program where
  steps := [
    ⟨[Pattern.compile "src/$1.c", Pattern.compile "inc/$2.h"], [Pattern.compile "out/$1.o"], [],
      "cc\n", 1⟩,
    ⟨[Pattern.compile "src/$1.c"], [Pattern.compile "lib/$1.a", Pattern.compile "out/$1.o"], [],
      "as\n", 4⟩]
  templates := .empty

/-- the first step lacks a capture, and the second is not tried in its place -/
example : (competing.build (Recording.world []) "out/a.o").perform ⟨.empty, []⟩ =
    (.error (.missingCapture "inc/$2.h" 2), ⟨.empty, []⟩) := rfl

/-- every step that matches runs once, whatever the destinations of the others -/
example : (competing.compile (Recording.world []) "./src/a.c").perform ⟨.empty, []⟩ =
    (.ok 0, ⟨.empty, [⟨"cc\n", ["src/a.c"], ["out/a.o"], Table.empty.insert 1 "a"⟩,
      ⟨"as\n", ["src/a.c"], ["lib/a.a", "out/a.o"], Table.empty.insert 1 "a"⟩]⟩) := by
  decide +kernel

end Program

end PatternBuild
