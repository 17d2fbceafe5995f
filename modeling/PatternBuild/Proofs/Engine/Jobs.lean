import PatternBuild.Engine.Build
import PatternBuild.Proofs.Engine.Sequence
import PatternBuild.Proofs.Pattern.Substitution

/-!
# Jobs

Compiling a source with a step comes to a job: an invocation, or the fault that keeps it from being
made.  Jobs are done in order as long as they end with code 0, and in turns where the jobs of a
turn are only known when it comes.

* `World.perform_inTurn`      actions in turn that do jobs do their jobs in turns;
* `World.fault_of_runTurns`   a fault at the end is one of a job or was answered by an invocation;
* `Program.perform_compile`   compiling a path is doing its jobs.
-/

namespace PatternBuild

open Action

/-! ## what there is to do -/

/-- an invocation to make, or the fault found on the way to it -/
abbrev Job := Except Fault Invocation

/-- what running a step for an entry comes to -/
def Step.job (s : Step) (e : Entry) : Job :=
  (Pattern.substituteAll s.destinations e.args).map fun destinations =>
    ⟨s.body, [e.name], destinations, e.args⟩

/-- what compiling a path with a step comes to, if the step compiles it -/
def Step.job? (s : Step) (path : String) : Option Job := (s.compiles? path).map s.job

/-- what compiling a path comes to, step by step -/
def Program.jobs (p : Program) (path : String) : List Job := p.steps.filterMap (·.job? path)

/-- the only fault of a job is that a capture is missing for a destination -/
theorem Step.missingCapture_of_job {s : Step} {e : Entry} {f : Fault} (h : s.job e = .error f) :
    ∃ q ∈ s.destinations, ∃ n, f = .missingCapture q.text n := by
  unfold job at h
  cases hsub : Pattern.substituteAll s.destinations e.args with
  | ok destinations =>
    rw [hsub] at h
    cases h
  | error f' =>
    rw [hsub] at h
    cases h
    exact Pattern.substituteAll_eq_error hsub

theorem Step.missingCapture_of_job? {s : Step} {path : String} {f : Fault}
    (h : s.job? path = some (.error f)) :
    ∃ q ∈ s.destinations, ∃ n, f = .missingCapture q.text n := by
  obtain ⟨e, _, he⟩ := Option.map_eq_some_iff.1 h
  exact missingCapture_of_job he

/-! ## doing it -/

namespace World

variable {σ ι : Type} (w : World σ)

def runJob : Job → σ → Except Fault Int × σ
  | .ok i, s => (w.execute i).perform s
  | .error f, s => (.error f, s)

/-- do jobs in order, as long as they end with code 0 -/
def runJobs : List Job → σ → Except Fault Int × σ
  | [], s => (.ok 0, s)
  | job :: jobs, s => thenOn (w.runJob job s) (runJobs jobs)

/-- do jobs in turns; the state in which a turn begins tells its jobs -/
def runTurns (jobs : ι → σ → List Job) : List ι → σ → Except Fault Int × σ
  | [], s => (.ok 0, s)
  | x :: l, s => thenOn (w.runJobs (jobs x s) s) (runTurns jobs l)

/-- invocations lead from states with a property to such states -/
def Keeps (I : σ → Prop) : Prop := ∀ s i, I s → I ((w.execute i).perform s).2

variable {w} {I : σ → Prop} {jobs : ι → σ → List Job} {l : List ι} {s : σ}

theorem runJobs_cons (job : Job) (more : List Job) (s : σ) :
    w.runJobs (job :: more) s = thenOn (w.runJob job s) (w.runJobs more) := rfl

theorem runTurns_cons (x : ι) (l : List ι) (s : σ) :
    w.runTurns jobs (x :: l) s = thenOn (w.runJobs (jobs x s) s) (w.runTurns jobs l) := rfl

/-- turns of one job each are jobs in order -/
theorem runTurns_singleton (job : ι → Job) (l : List ι) (s : σ) :
    w.runTurns (fun x _ => [job x]) l s = w.runJobs (l.map job) s := by
  induction l generalizing s with
  | nil => rfl
  | cons x l ih =>
    rw [List.map_cons, runTurns_cons, runJobs_cons, runJobs_cons, thenOn_assoc]
    congr 1
    funext s'
    exact ih s'

/-- turns without jobs do nothing -/
theorem runTurns_idle (h : ∀ x ∈ l, jobs x s = []) : w.runTurns jobs l s = (.ok 0, s) := by
  induction l with
  | nil => rfl
  | cons x l ih =>
    rw [runTurns_cons, h x List.mem_cons_self]
    exact ih fun y hy => h y (List.mem_cons_of_mem _ hy)

theorem Keeps.runJobs (hI : w.Keeps I) (more : List Job) (hs : I s) :
    I (w.runJobs more s).2 := by
  induction more generalizing s with
  | nil => exact hs
  | cons job more ih =>
    rw [runJobs_cons]
    cases job with
    | error f => exact hs
    | ok i => exact thenOn_keeps (hI s i hs) fun _ => ih

/-- turns with the same jobs in all states on the way -/
theorem runTurns_congr {jobs' : ι → σ → List Job} (hI : w.Keeps I)
    (h : ∀ x ∈ l, ∀ s, I s → jobs x s = jobs' x s) (hs : I s) :
    w.runTurns jobs l s = w.runTurns jobs' l s := by
  induction l generalizing s with
  | nil => rfl
  | cons x l ih =>
    rw [runTurns_cons, runTurns_cons, h x List.mem_cons_self s hs]
    apply thenOn_congr
    exact ih (fun y hy => h y (List.mem_cons_of_mem _ hy)) (hI.runJobs (jobs' x s) hs)

/-! ## actions that do jobs -/

/-- an outcome whose code only counts if there was something to do -/
def orIdle (idle : Bool) (r : Except Fault Int × σ) : Except Fault (Option Int) × σ :=
  (r.1.map fun code => if idle then none else some code, r.2)

/-- idling counts as code 0 -/
theorem orIdle_getD {idle : Bool} {r : Except Fault Int × σ} (h : idle = true → r.1 = .ok 0) :
    ((orIdle idle r).1.map fun code => some (code.getD 0), (orIdle idle r).2) =
      orIdle false r := by
  obtain ⟨f | code, s⟩ := r
  · rfl
  · cases idle with
    | false => rfl
    | true =>
      obtain rfl := Except.ok.inj (h rfl)
      rfl

/-- actions in turn do their jobs in turns, and are idle if no turn has a job -/
theorem perform_inTurn {a : ι → Action σ (Option Int)}
    (h : ∀ x ∈ l, ∀ s,
      (a x).perform s = orIdle (jobs x s).isEmpty (w.runJobs (jobs x s) s)) (s : σ) :
    (inTurn (l.map a)).perform s =
      orIdle (l.all fun x => (jobs x s).isEmpty) (w.runTurns jobs l s) := by
  induction l generalizing s with
  | nil => rfl
  | cons x l ih =>
    have hrest := ih fun y hy => h y (List.mem_cons_of_mem _ hy)
    rw [List.map_cons, perform_inTurn_cons, h x List.mem_cons_self s, runTurns_cons,
      List.all_cons]
    cases hx : jobs x s with
    | nil =>
      rw [List.isEmpty_nil, Bool.true_and]
      exact hrest s
    | cons job more =>
      rw [List.isEmpty_cons, Bool.false_and]
      rcases w.runJobs (job :: more) s with ⟨f | code, s'⟩
      · rfl
      · by_cases hc : code = 0
        · subst hc
          show (((inTurn (l.map a)).perform s').1.map fun c => some (c.getD 0),
            ((inTurn (l.map a)).perform s').2) = orIdle false (w.runTurns jobs l s')
          rw [hrest s']
          refine orIdle_getD fun hidle => ?_
          rw [runTurns_idle fun y hy => List.isEmpty_iff.1 (List.all_eq_true.1 hidle y hy)]
        · rw [thenOn_code hc]
          exact if_neg hc

/-- actions of one job each -/
theorem perform_inTurn_single {a : ι → Action σ Int} {job : ι → Job}
    (h : ∀ x s, (a x).perform s = w.runJob (job x) s) (l : List ι) (s : σ) :
    (inTurn (l.map fun x => some <$> a x)).perform s =
      orIdle l.isEmpty (w.runJobs (l.map job) s) := by
  have hjob : ∀ x ∈ l, ∀ s,
      (some <$> a x).perform s = orIdle [job x].isEmpty (w.runJobs [job x] s) := by
    intro x _ s
    rw [perform_map, h, runJobs_cons]
    exact congrArg (orIdle false) (thenOn_done _).symm
  rw [perform_inTurn hjob, runTurns_singleton]
  cases l <;> rfl

/-! ## faults at the end -/

/-- a fault at the end of jobs is one of theirs or was answered by an invocation -/
theorem fault_of_runJobs {more : List Job} {log log' : List LogEntry} {s' : σ} {f : Fault}
    (h : w.logged.runJobs more (s, log) = (.error f, (s', log'))) :
    .error f ∈ more ∨ ∃ i, (i, .error f) ∈ log' := by
  induction more generalizing s log with
  | nil => cases h
  | cons job more ih =>
    rw [runJobs_cons] at h
    rcases eq_error_of_thenOn h with hjob | ⟨⟨s, log⟩, _, hmore⟩
    · cases job with
      | error f' =>
        obtain rfl := Except.error.inj (congrArg Prod.fst hjob)
        exact .inl List.mem_cons_self
      | ok i =>
        -- the outcome is what the log has got as its last entry
        have hr : ((w.execute i).perform s).1 = .error f := congrArg Prod.fst hjob
        have hlog : log ++ [(i, ((w.execute i).perform s).1)] = log' :=
          congrArg (·.2.2) hjob
        exact .inr ⟨i, by simp [← hlog, hr]⟩
    · exact (ih hmore).imp (List.mem_cons_of_mem _) id

theorem fault_of_runTurns {jobs : ι → σ × List LogEntry → List Job} {log log' : List LogEntry}
    {s' : σ} {f : Fault} (h : w.logged.runTurns jobs l (s, log) = (.error f, (s', log'))) :
    (∃ x ∈ l, ∃ r, .error f ∈ jobs x r) ∨ ∃ i, (i, .error f) ∈ log' := by
  induction l generalizing s log with
  | nil => cases h
  | cons x l ih =>
    rcases eq_error_of_thenOn h with hturn | ⟨⟨s, log⟩, _, hmore⟩
    · exact (fault_of_runJobs hturn).imp_left fun hf => ⟨x, List.mem_cons_self, _, hf⟩
    · refine (ih hmore).imp_left ?_
      rintro ⟨y, hy, hf⟩
      exact ⟨y, List.mem_cons_of_mem _ hy, hf⟩

end World

/-! ## compiling -/

namespace Program

variable {σ : Type} {p : Program} {w : World σ} {s : σ} {path : String}

/-- running a step for a source is doing its job -/
theorem perform_compileWith (step : Step) (e : Entry) (s : σ) :
    (compileWith w step e).perform s = w.runJob (step.job e) s := by
  unfold compileWith Step.job
  rw [perform_bind]
  cases Pattern.substituteAll step.destinations e.args <;> rfl

theorem perform_orNoMatch {a : Action σ (Option Int)} {r : Except Fault Int × σ}
    (h : a.perform s = World.orIdle false r) : (a >>= orNoMatch path).perform s = r := by
  obtain ⟨f | code, s'⟩ := r
  · rw [perform_bind, h]
    rfl
  · rw [perform_bind, h]
    rfl

theorem perform_orNoMatch_idle {a : Action σ (Option Int)}
    (h : a.perform s = World.orIdle true (.ok 0, s)) :
    (a >>= orNoMatch path).perform s = (.error (.noMatchingStep path), s) := by
  rw [perform_bind, h]
  rfl

/-- compiling a path is doing its jobs -/
theorem perform_compile (p : Program) (w : World σ) (path : String) (s : σ) :
    (p.compile w path).perform s =
      if (p.jobs path).isEmpty then (.error (.noMatchingStep path), s)
      else w.runJobs (p.jobs path) s := by
  have hjobs : (p.compilers path).map (fun x => x.1.job x.2) = p.jobs path := by
    rw [compilers, List.map_filterMap]
    refine congrArg (List.filterMap · p.steps) (funext fun step => ?_)
    rw [Option.map_map]
    rfl
  have hturn := World.perform_inTurn_single (w := w)
    (fun (x : Step × Entry) s => perform_compileWith x.1 x.2 s) (p.compilers path) s
  rw [hjobs, ← List.isEmpty_map (f := fun x => x.1.job x.2), hjobs] at hturn
  split
  · rename_i hempty
    rw [hempty, List.isEmpty_iff.1 hempty] at hturn
    exact perform_orNoMatch_idle hturn
  · rename_i hempty
    rw [Bool.not_eq_true] at hempty
    rw [hempty] at hturn
    exact perform_orNoMatch hturn

end Program

end PatternBuild
