import PatternBuild.Engine.Recording
import PatternBuild.Proofs.Engine.Jobs
import PatternBuild.Proofs.Engine.Sources

/-!
# Recompiling what depends on a path

A change of a path recompiles all sources of the steps that depend on it.  That comes to the very
jobs that compiling these sources one by one comes to, but only those of the dependent steps, in
turns (`recompiles_dependents`).  The files are asked again before each turn, as the invocations of
a turn may change them.

* `perform_compileDependents_of_busy`   a changed path does the turns of its dependents, each with
                                        the jobs of what the step finds just then;
* `perform_compileDependents_of_idle`   without a job in any turn nothing is run;
* `turn_of_sources`                     in a listed tree the jobs of a turn are those of the paths
                                        that the step compiles.
-/

namespace PatternBuild

open Path

variable {σ : Type}

/-- while `I` holds the files of a world are a tree that adding built and whose paths are listed,
and invocations keep `I` -/
structure World.Shows (w : World σ) (tree : σ → Tree) (I : σ → Prop) : Prop where
  files : ∀ s, I s → w.files s = (tree s).fileSystem
  built : ∀ s, I s → (tree s).Built
  listed : ∀ s, I s → (tree s).Listed
  keeps : w.Keeps I

/-- a log does not matter to the files -/
theorem World.Shows.logged {w : World σ} {tree : σ → Tree} {I : σ → Prop} (h : w.Shows tree I) :
    w.logged.Shows (fun s => tree s.1) (fun s => I s.1) :=
  ⟨fun s => h.files s.1, fun s => h.built s.1, fun s => h.listed s.1, fun s => h.keeps s.1⟩

/-- the jobs of a step for all sources that it finds, or the fault that they cannot be found -/
def Step.turn (step : Step) (fs : FileSystem) : List Job :=
  match step.findSources fs with
  | .ok found => found.map step.job
  | .error f => [.error f]

namespace Step

variable {step : Step} {t : Tree} {es : List Entry} {ks : List String} {fs : FileSystem}

theorem turn_of_ok (h : step.findSources fs = .ok es) : step.turn fs = es.map step.job := by
  rw [turn, h]

/-- a turn has nothing to do exactly when the search ends without a source -/
theorem turn_eq_nil_iff : step.turn fs = [] ↔ step.findSources fs = .ok [] := by
  unfold turn
  split
  · rename_i found hfound
    rw [List.map_eq_nil_iff, hfound, Except.ok.injEq]
  · rename_i f hf
    rw [hf]
    simp

/-- the jobs of entries are what compiling their paths comes to -/
theorem filterMap_job? (h : ∀ e ∈ es, step.compiles? e.name = some e) :
    (es.map Entry.name).filterMap step.job? = es.map step.job := by
  rw [List.filterMap_map]
  calc es.filterMap (step.job? ∘ Entry.name)
      = es.filterMap (some ∘ step.job) := by
        refine List.filterMap_congr fun e he => ?_
        show (step.compiles? e.name).map step.job = some (step.job e)
        rw [h e he]
        rfl
    _ = es.map step.job := by rw [List.filterMap_eq_map]

/-- a step without jobs compiles nothing -/
theorem Sources.jobs_eq_nil_iff (h : step.Sources t ks) : ks.filterMap step.job? = [] ↔
    ¬∃ k ∈ t.nodes.keys, k ≠ "." ∧ k ≠ "/" ∧ ∃ e, step.compiles? k = some e := by
  rw [List.filterMap_eq_nil_iff]
  constructor
  · rintro hnone ⟨k, hk⟩
    have hjob := hnone k ((h.mem k).2 hk)
    obtain ⟨_, _, _, e, he⟩ := hk
    rw [job?, he] at hjob
    cases hjob
  · intro hnone k hk
    exact absurd ⟨k, (h.mem k).1 hk⟩ hnone

end Step

namespace Program

variable {p : Program} {w : World σ} {tree : σ → Tree} {I : σ → Prop} {s : σ}
  {names : Step → Tree → List String} {changed : String}

/-- the steps that depend on a path, in the order of declaration -/
def dependents (p : Program) (changed : String) : List Step :=
  p.steps.filter (·.dependsOn (clean changed))

/-- a step that depends on a path compiles some path of a tree -/
def HasDependents (p : Program) (t : Tree) (changed : String) : Prop :=
  ∃ step ∈ p.dependents changed, ∃ k ∈ t.nodes.keys, k ≠ "." ∧ k ≠ "/" ∧
    ∃ e, step.compiles? k = some e

/-- running a step for what it finds is doing the jobs of its turn -/
theorem perform_compileFound_eq (w : World σ) (step : Step) (s : σ) :
    (compileFound w step).perform s =
      World.orIdle (step.turn (w.files s)).isEmpty (w.runJobs (step.turn (w.files s)) s) := by
  show (Action.ofExcept (step.findSources (w.files s)) >>= fun found =>
    Action.inTurn (found.map fun e => some <$> compileWith w step e)).perform s = _
  unfold Step.turn
  cases step.findSources (w.files s) with
  | error f => rfl
  | ok found =>
    have hturn := World.perform_inTurn_single (w := w) (perform_compileWith step) found s
    rw [← List.isEmpty_map (f := step.job)] at hturn
    exact hturn

theorem perform_dependents (p : Program) (w : World σ) (changed : String) (s : σ) :
    (Action.inTurn ((p.dependents changed).map (compileFound w))).perform s =
      World.orIdle ((p.dependents changed).all fun step => (step.turn (w.files s)).isEmpty)
        (w.runTurns (fun step s => step.turn (w.files s)) (p.dependents changed) s) :=
  World.perform_inTurn (fun step _ s => perform_compileFound_eq w step s) s

/-- a changed path does the turns of its dependents -/
theorem perform_compileDependents_of_busy
    (h : ¬∀ step ∈ p.dependents changed, step.turn (w.files s) = []) :
    (p.compileDependents w changed).perform s =
      w.runTurns (fun step s => step.turn (w.files s)) (p.dependents changed) s := by
  have hrun := perform_dependents p w changed s
  have hbusy : ((p.dependents changed).all fun step => (step.turn (w.files s)).isEmpty) =
      false := by
    rw [← Bool.not_eq_true]
    simpa only [List.all_eq_true, List.isEmpty_iff] using h
  rw [hbusy] at hrun
  exact perform_orNoMatch hrun

/-- if none of them has a job, there is nothing to do -/
theorem perform_compileDependents_of_idle
    (h : ∀ step ∈ p.dependents changed, step.turn (w.files s) = []) :
    (p.compileDependents w changed).perform s = (.error (.noMatchingStep (clean changed)), s) := by
  have hrun := perform_dependents p w changed s
  have hidle : ((p.dependents changed).all fun step => (step.turn (w.files s)).isEmpty) =
      true := by
    simpa only [List.all_eq_true, List.isEmpty_iff] using h
  have hnone : w.runTurns (fun step s => step.turn (w.files s)) (p.dependents changed) s =
      (.ok 0, s) := World.runTurns_idle h
  rw [hidle, hnone] at hrun
  exact perform_orNoMatch_idle hrun

/-- in a listed tree the turn of a step has the jobs of the paths that it compiles -/
theorem turn_of_sources (hw : w.Shows tree I) (hs : I s) {step : Step} {ks : List String}
    (hks : step.Sources (tree s) ks) : step.turn (w.files s) = ks.filterMap step.job? := by
  obtain ⟨es, hes, hsources, hcompiles⟩ := step.exists_sources (hw.built s hs) (hw.listed s hs)
  obtain rfl := hks.unique hsources
  rw [hw.files s hs, Step.turn_of_ok hes, Step.filterMap_job? hcompiles]

section
variable (hw : w.Shows tree I) (hs : I s)
  (hnames : ∀ (step : Step) t, t.Built → t.Listed → step.Sources t (names step t))
include hw hs hnames

/-- there is nothing to do exactly when no dependent step compiles anything -/
theorem idle_iff : (∀ step ∈ p.dependents changed, step.turn (w.files s) = []) ↔
    ¬p.HasDependents (tree s) changed := by
  have hjobs : ∀ step : Step, step.turn (w.files s) = [] ↔
      ¬∃ k ∈ (tree s).nodes.keys, k ≠ "." ∧ k ≠ "/" ∧ ∃ e, step.compiles? k = some e := by
    intro step
    have hsources := hnames step _ (hw.built s hs) (hw.listed s hs)
    rw [turn_of_sources hw hs hsources]
    exact hsources.jobs_eq_nil_iff
  simp only [hjobs, HasDependents, not_exists, not_and]

theorem perform_compileDependents (h : p.HasDependents (tree s) changed) :
    (p.compileDependents w changed).perform s =
      w.runTurns (fun step s => (names step (tree s)).filterMap step.job?)
        (p.dependents changed) s := by
  rw [perform_compileDependents_of_busy fun hidle => (idle_iff hw hs hnames).1 hidle h]
  refine World.runTurns_congr hw.keeps (fun step _ s hs => ?_) hs
  exact turn_of_sources hw hs (hnames step _ (hw.built s hs) (hw.listed s hs))

theorem perform_compileDependents_idle (h : ¬p.HasDependents (tree s) changed) :
    (p.compileDependents w changed).perform s =
      (.error (.noMatchingStep (clean changed)), s) :=
  perform_compileDependents_of_idle ((idle_iff hw hs hnames).2 h)

end

/-- **A change recompiles all that depends on it, as compiling would.**  Compiling a path does its
jobs, one for each step that compiles it, in the order of declaration.  For a changed path the
steps that depend on it take turns in that order, each with the jobs of all paths that it compiles
in the tree of the moment: every path once, by the first source pattern that matches it and then by
name.  Jobs are done as long as they end with code 0, and the only fault of a job is that a capture
is missing for a destination.  The fault that no step matches is found, and not answered by an
invocation, if and only if no dependent step compiles any path. -/
theorem recompiles_dependents (p : Program) (changed : String) (σ : Type) (w : World σ)
    (tree : σ → Tree) (I : σ → Prop) (hw : w.Shows tree I) :
    (∀ path s, (p.compile w path).perform s =
      if (p.jobs path).isEmpty then (.error (.noMatchingStep path), s)
      else w.runJobs (p.jobs path) s) ∧
    (∀ (step : Step) path f, step.job? path = some (.error f) →
      ∃ q ∈ step.destinations, ∃ n, f = .missingCapture q.text n) ∧
    ∃ names : Step → Tree → List String,
      (∀ (step : Step) t, t.Built → t.Listed → step.Sources t (names step t)) ∧
      ∀ s, I s →
        (p.HasDependents (tree s) changed → (p.compileDependents w changed).perform s =
          w.runTurns (fun step s => (names step (tree s)).filterMap step.job?)
            (p.dependents changed) s) ∧
        (¬p.HasDependents (tree s) changed → (p.compileDependents w changed).perform s =
          (.error (.noMatchingStep (clean changed)), s)) ∧
        ((∃ s' log, (p.compileDependents w.logged changed).perform (s, []) =
            (.error (.noMatchingStep (clean changed)), (s', log)) ∧
            ∀ i, (i, .error (.noMatchingStep (clean changed))) ∉ log) ↔
          ¬p.HasDependents (tree s) changed) := by
  have hexists : ∀ (step : Step) (t : Tree), ∃ ks, t.Built → t.Listed → step.Sources t ks := by
    intro step t
    by_cases h : t.Built ∧ t.Listed
    · obtain ⟨es, _, hsources, _⟩ := step.exists_sources h.1 h.2
      exact ⟨_, fun _ _ => hsources⟩
    · exact ⟨[], fun hb hl => absurd ⟨hb, hl⟩ h⟩
  choose names hnames using hexists
  refine ⟨p.perform_compile w, fun _ _ _ => Step.missingCapture_of_job?, names, hnames,
    fun s hs => ⟨perform_compileDependents hw hs hnames,
      perform_compileDependents_idle hw hs hnames, ?_, fun h => ?_⟩⟩
  · rintro ⟨s', log, hrun, hown⟩ h
    rw [perform_compileDependents hw.logged (s := (s, [])) hs hnames h] at hrun
    rcases World.fault_of_runTurns hrun with ⟨step, _, r, hjob⟩ | ⟨i, hi⟩
    · obtain ⟨k, _, hk⟩ := List.mem_filterMap.1 hjob
      obtain ⟨q, _, n, hf⟩ := Step.missingCapture_of_job? hk
      cases hf
    · exact hown i hi
  · exact ⟨s, [], perform_compileDependents_idle hw.logged (s := (s, [])) hs hnames h,
      fun i => List.not_mem_nil⟩

/-- a step with two source patterns that can match one path, of which only the first captures what
the destination needs -/
def overlapping : Step where
  sources := [Pattern.compile "src/$1.c", Pattern.compile "$2/a.c"]
  destinations := [Pattern.compile "out/$1.o"]
  dependencies := [Pattern.compile "inc/$1.h"]
  body := "cc\n"
  line := 1

def overlappingFiles : Tree :=
  ((Tree.empty.addFile "src/b.c" []).addFile "lib/a.c" []).addFile "src/a.c" []

theorem shows_overlappingFiles :
    (Recording.world []).Shows Recording.tree (fun s => s.tree = overlappingFiles) where
  files _ _ := rfl
  built := by
    intro s hs
    rw [hs]
    exact .addFile _ _ (.addFile _ _ (.addFile _ _ .empty))
  listed := by
    intro s hs
    rw [hs]
    decide
  keeps _ _ hs := hs

theorem sources_overlapping :
    overlapping.Sources overlappingFiles ["src/a.c", "src/b.c", "lib/a.c"] where
  mem := by
    have hall : ∀ k ∈ overlappingFiles.nodes.keys, k ≠ "." → k ≠ "/" →
        (overlapping.compiles? k).isSome = true → k ∈ ["src/a.c", "src/b.c", "lib/a.c"] := by decide
    have hlisted : ∀ k ∈ ["src/a.c", "src/b.c", "lib/a.c"], k ∈ overlappingFiles.nodes.keys ∧
        k ≠ "." ∧ k ≠ "/" ∧ (overlapping.compiles? k).isSome = true := by decide
    simp only [← Option.isSome_iff_exists]
    exact fun k => ⟨hlisted k, fun ⟨hk, hdot, hslash, he⟩ => hall k hk hdot hslash he⟩
  named := by
    have hall : ∀ k ∈ ["src/a.c", "src/b.c", "lib/a.c"], ∀ e ∈ overlapping.compiles? k,
        e.name = k := by decide
    exact hall
  ordered := by decide

/-- what the first pattern matches is compiled first and with its captures, and only then a path
whose captures do not suffice -/
theorem overlapping_recompiled :
    (Recording.world []).Shows Recording.tree (fun s => s.tree = overlappingFiles) ∧
    ((⟨[overlapping], .empty⟩ : Program).compileDependents (Recording.world [])
      "./inc/x.h").perform ⟨overlappingFiles, []⟩ =
      (.error (.missingCapture "out/$1.o" 1), ⟨overlappingFiles,
        [⟨"cc\n", ["src/a.c"], ["out/a.o"], Table.empty.insert 1 "a"⟩,
          ⟨"cc\n", ["src/b.c"], ["out/b.o"], Table.empty.insert 1 "b"⟩]⟩) := by
  obtain ⟨_, _, names, hnames, hrun⟩ := recompiles_dependents ⟨[overlapping], .empty⟩ "./inc/x.h"
    Recording (Recording.world []) Recording.tree _ shows_overlappingFiles
  have hdepends : HasDependents ⟨[overlapping], .empty⟩ overlappingFiles "./inc/x.h" :=
    ⟨overlapping, by decide, "src/a.c", by decide, by decide, by decide, _, rfl⟩
  have hbuilt := shows_overlappingFiles.built ⟨overlappingFiles, []⟩ rfl
  have hlisted := shows_overlappingFiles.listed ⟨overlappingFiles, []⟩ rfl
  have hpaths := (hnames overlapping overlappingFiles hbuilt hlisted).unique sources_overlapping
  have hsteps : dependents ⟨[overlapping], .empty⟩ "./inc/x.h" = [overlapping] := by decide
  refine ⟨shows_overlappingFiles, ?_⟩
  rw [(hrun ⟨overlappingFiles, []⟩ rfl).1 hdepends, hsteps, World.runTurns_cons, hpaths]
  rfl

end Program

end PatternBuild
