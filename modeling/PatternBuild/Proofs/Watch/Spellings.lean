import PatternBuild.Proofs.Engine.Logged
import PatternBuild.Proofs.Engine.Resolution
import PatternBuild.Watch.Session

/-!
# Spellings of one path

What is run for a path depends on its clean form alone, since patterns only see that.  Two spellings
of one path lead to the same invocations and the same result (`spelling_irrelevant`); only the fault
that no step matches and the report of a dispatch repeat a path as it was spelled.

* `Program.jobs_congr`                 both spellings have the same jobs;
* `Program.alike_build`                building runs the same, or neither builds anything;
* `Program.destinations_of_mem_log`    what building runs is told the clean path;
* `Program.sources_of_mem_log`         and so is what compiling runs.
-/

namespace PatternBuild

open Path Action

variable {σ : Type} {a b path : String}

/-! ## matching -/

theorem Step.builds?_congr (step : Step) (h : clean a = clean b) :
    step.builds? a = step.builds? b := by
  unfold builds?
  simp only [Pattern.matches?_congr h]

theorem Step.compiles?_congr (step : Step) (h : clean a = clean b) :
    step.compiles? a = step.compiles? b := by
  unfold compiles?
  simp only [Pattern.matches?_congr h]

namespace Program

variable {p : Program} {w : World σ} {s : σ}

theorem builder?_congr (h : clean a = clean b) : p.builder? a = p.builder? b := by
  unfold builder?
  simp only [Step.builds?_congr _ h]

theorem jobs_congr (h : clean a = clean b) : p.jobs a = p.jobs b := by
  unfold jobs Step.job?
  simp only [Step.compiles?_congr _ h]

/-! ## running -/

/-- what two spellings of a path come to: the same, or that nothing is done as no step matches,
which each tells with its own spelling -/
def Alike (a b : String) (s : σ) (r r' : Except Fault Int × σ) : Prop :=
  r = r' ∨ r = (.error (.noMatchingStep a), s) ∧ r' = (.error (.noMatchingStep b), s)

theorem alike_build (h : clean a = clean b) :
    Alike a b s ((p.build w a).perform s) ((p.build w b).perform s) := by
  unfold build
  rw [builder?_congr h]
  cases p.builder? b with
  | none => exact .inr ⟨rfl, rfl⟩
  | some found => exact .inl rfl

theorem alike_compile (h : clean a = clean b) :
    Alike a b s ((p.compile w a).perform s) ((p.compile w b).perform s) := by
  rw [perform_compile, perform_compile, jobs_congr h]
  by_cases hidle : (p.jobs b).isEmpty = true
  · rw [if_pos hidle, if_pos hidle]
    exact .inr ⟨rfl, rfl⟩
  · rw [if_neg hidle, if_neg hidle]
    exact .inl rfl

/-- what depends on a path is recompiled by the clean path from the start -/
theorem compileDependents_congr (h : clean a = clean b) :
    p.compileDependents w a = p.compileDependents w b := by
  unfold compileDependents
  rw [h]

/-- runs that come to the same in one half of a dispatch are reported alike -/
theorem Alike.ofResult {r r' : Except Fault Int × σ} (h : Alike a b s r r') :
    DispatchOutcome.ofResult r.1 = .ofResult r'.1 ∧ r.2 = r'.2 := by
  rcases h with rfl | ⟨rfl, rfl⟩
  · exact ⟨rfl, rfl⟩
  · exact ⟨rfl, rfl⟩

theorem dispatch_congr (h : clean a = clean b) : p.dispatch w b s =
    ({ (p.dispatch w a s).1 with path := b }, (p.dispatch w a s).2) := by
  obtain ⟨houtcome, hstate⟩ := (alike_compile (p := p) (w := w) (s := s) h).ofResult
  unfold dispatch
  rw [compileDependents_congr h]
  simp only [houtcome, hstate]

/-! ## what invocations are told -/

/-- building gives an invocation the clean path as its only destination -/
theorem destinations_of_mem_log {log : List LogEntry} :
    ∀ e ∈ ((p.build w.logged path).perform (s, log)).2.2,
      e ∈ log ∨ e.1.destinations = [clean path] := by
  unfold build
  cases hbuilder : p.builder? path with
  | none => exact fun e he => .inl he
  | some found =>
    obtain ⟨step, entry⟩ := found
    obtain ⟨step', _, hstep⟩ := List.exists_of_findSome?_eq_some hbuilder
    obtain ⟨entry', hentry, hfound⟩ := Option.map_eq_some_iff.1 hstep
    obtain ⟨rfl, rfl⟩ := Prod.mk.inj hfound
    have hname : entry'.name = clean path :=
      (Pattern.firstMatch?_eq_some_iff.1 hentry).name_eq
    show ∀ e ∈ ((ofExcept (Pattern.substituteAll step'.sources entry'.args) >>= fun sources =>
      runStep w.logged step' sources [entry'.name] entry'.args).perform (s, log)).2.2, _
    rw [perform_bind]
    cases Pattern.substituteAll step'.sources entry'.args with
    | error f => exact fun e he => .inl he
    | ok sources =>
      intro e he
      rcases List.mem_append.1 he with he | he
      · exact .inl he
      · rw [List.mem_singleton.1 he, ← hname]
        exact .inr rfl

/-- the invocation of a job has the clean path as its only source -/
theorem sources_of_mem_jobs {i : Invocation} (h : .ok i ∈ p.jobs path) :
    i.sources = [clean path] := by
  obtain ⟨step, _, e, _, ⟨_, hjob⟩ | ⟨q, n, _, hjob⟩⟩ :=
    exists_left_of_mem (exists_jobs p.steps path) h
  · rw [Except.ok.inj hjob]
  · cases hjob

theorem sources_of_mem_log {log : List LogEntry} :
    ∀ e ∈ ((p.compile w.logged path).perform (s, log)).2.2,
      e ∈ log ∨ e.1.sources = [clean path] := by
  rw [perform_compile]
  split
  · exact fun e he => .inl he
  · exact fun e he => (World.mem_log_of_runJobs e he).imp_right sources_of_mem_jobs

/-! ## both spellings -/

/-- **The spelling of a path does not change what runs.**  Two paths with the same clean form are
built with the same invocations, in the same order, and the same result, except that the fault that
no step matches names the path as it was spelled; and so they are compiled.  What depends on them is
recompiled with the same invocations and the same result, that fault included.  A dispatch makes the
same invocations for both, and its reports differ only in the path that they repeat.  Of either
spelling, building gives every invocation the clean path as its only destination, and compiling as
its only source. -/
theorem spelling_irrelevant (p : Program) (a b : String) (h : clean a = clean b) (σ : Type)
    (w : World σ) (s : σ) :
    Alike a b (s, []) ((p.build w.logged a).perform (s, [])) ((p.build w.logged b).perform (s, [])) ∧
    Alike a b (s, []) ((p.compile w.logged a).perform (s, []))
      ((p.compile w.logged b).perform (s, [])) ∧
    (p.compileDependents w.logged a).perform (s, []) =
      (p.compileDependents w.logged b).perform (s, []) ∧
    p.dispatch w.logged b (s, []) = ({ (p.dispatch w.logged a (s, [])).1 with path := b },
      (p.dispatch w.logged a (s, [])).2) ∧
    ∀ path, clean path = clean a →
      (∀ e ∈ ((p.build w.logged path).perform (s, [])).2.2, e.1.destinations = [clean a]) ∧
      ∀ e ∈ ((p.compile w.logged path).perform (s, [])).2.2, e.1.sources = [clean a] := by
  refine ⟨alike_build h, alike_compile h, ?_, dispatch_congr h,
    fun path hpath => ⟨fun e he => ?_, fun e he => ?_⟩⟩
  · rw [compileDependents_congr h]
  · rw [← hpath]
    exact (destinations_of_mem_log e he).resolve_left List.not_mem_nil
  · rw [← hpath]
    exact (sources_of_mem_log e he).resolve_left List.not_mem_nil

/-- what two steps run for the path under one spelling they run under the other -/
theorem competing_respelled : clean "./src/x/../a.c" = clean "src//a.c/" ∧
    (competing.compile (Recording.world []).logged "./src/x/../a.c").perform (⟨.empty, []⟩, []) =
      (competing.compile (Recording.world []).logged "src//a.c/").perform (⟨.empty, []⟩, []) ∧
    ((competing.compile (Recording.world []).logged "src//a.c/").perform
      (⟨.empty, []⟩, [])).2.2.map (·.1.sources) = [["src/a.c"], ["src/a.c"]] := by
  have hclean : clean "./src/x/../a.c" = clean "src//a.c/" := by decide
  have hran : ((competing.compile (Recording.world []).logged "src//a.c/").perform
      (⟨.empty, []⟩, [])).2.2.map (·.1.sources) = [["src/a.c"], ["src/a.c"]] := by decide +kernel
  obtain ⟨_, hsame | ⟨_, hidle⟩, _⟩ := spelling_irrelevant competing _ _ hclean Recording
    (Recording.world []) ⟨.empty, []⟩
  · exact ⟨hclean, hsame, hran⟩
  · rw [hidle] at hran
    cases hran

end Program

end PatternBuild
