import PatternBuild.Proofs.Engine.HookRuns
import PatternBuild.Proofs.Engine.Jobs

/-!
# What jobs leave in a log

In a logged world jobs do what they do without a log, and put the invocations that they make behind
it, whatever it holds (`Logs`).  These tell how the jobs ended: with the outcome of the last
invocation, or with a capture that is missing for the next one, and in both cases after code 0
throughout (`Concluded`).

* `Concluded.exists_thenOn`       going on after code 0;
* `World.exists_logs_runJobs`     jobs in order;
* `World.exists_logs_runTurns`    jobs in turns.
-/

namespace PatternBuild

open Action

variable {σ ι : Type} {made more : List LogEntry} {o o' : Except Fault Int}

/-! ## how invocations end -/

/-- the last of some invocations has an outcome, and all before it code 0 -/
def EndsWith (made : List LogEntry) (o : Except Fault Int) : Prop :=
  ∃ before i, made = before ++ [(i, o)] ∧ ∀ e ∈ before, e.2 = .ok 0

theorem EndsWith.unique (h : EndsWith made o) (h' : EndsWith made o') : o = o' := by
  obtain ⟨before, i, rfl, _⟩ := h
  obtain ⟨before', i', he, _⟩ := h'
  exact congrArg Prod.snd (List.append_singleton_inj.1 he).2

theorem EndsWith.append (h : ∀ e ∈ made, e.2 = .ok 0) (h' : EndsWith more o) :
    EndsWith (made ++ more) o := by
  obtain ⟨before, i, rfl, hbefore⟩ := h'
  refine ⟨made ++ before, i, (List.append_assoc _ _ _).symm, ?_⟩
  exact List.forall_mem_append.2 ⟨h, hbefore⟩

/-- the fault that a capture is missing -/
def Fault.IsMissing (f : Fault) : Prop := ∃ text n, f = .missingCapture text n

/-- how invocations lead to a result: by the last of them, which can only fail to launch, or since
a capture is missing for the next one -/
inductive Concluded (made : List LogEntry) : Except Fault Int → Prop
  | last {o : Except Fault Int} (h : EndsWith made o)
      (hlaunch : ∀ f, o = .error f → f.isLaunch = true) : Concluded made o
  | missing {f : Fault} (h : ∀ e ∈ made, e.2 = .ok 0) (hf : f.IsMissing) :
      Concluded made (.error f)

namespace Concluded

/-- code 0 comes from code 0 throughout -/
theorem zeros (h : Concluded made (.ok 0)) : ∀ e ∈ made, e.2 = .ok 0 := by
  cases h with
  | last h _ =>
    obtain ⟨before, i, rfl, hbefore⟩ := h
    refine List.forall_mem_append.2 ⟨hbefore, fun e he => ?_⟩
    rw [List.mem_singleton.1 he]

/-- after code 0 the rest decides -/
theorem append (h : Concluded made (.ok 0)) (h' : Concluded more o) :
    Concluded (made ++ more) o := by
  cases h' with
  | last h' hlaunch => exact .last (h'.append h.zeros) hlaunch
  | missing h' hf => exact .missing (List.forall_mem_append.2 ⟨h.zeros, h'⟩) hf

end Concluded

/-! ## logs -/

/-- with a log the same is done as without one, and some entries are put behind the log -/
def Logs (made : List LogEntry) (b : List LogEntry → Except Fault Int × σ × List LogEntry)
    (a : Except Fault Int × σ) : Prop := ∀ log, b log = (a.1, a.2, log ++ made)

theorem Concluded.exists_thenOn {b : List LogEntry → Except Fault Int × σ × List LogEntry}
    {a : Except Fault Int × σ} (next : σ → Except Fault Int × σ)
    (next' : σ × List LogEntry → Except Fault Int × σ × List LogEntry)
    (h : Concluded made a.1) (hlogs : Logs made b a)
    (hnext : ∀ s, ∃ more, Logs more (fun log => next' (s, log)) (next s) ∧
      (more = [] ∧ (next s).1 = .ok 0 ∨ Concluded more (next s).1)) :
    ∃ made', Logs made' (fun log => thenOn (b log) next') (thenOn a next) ∧
      Concluded made' (thenOn a next).1 := by
  obtain ⟨f | code, s⟩ := a
  · refine ⟨made, fun log => ?_, h⟩
    simp only [hlogs log]
    rfl
  · by_cases hc : code = 0
    · subst hc
      obtain ⟨more, hmore, hend⟩ := hnext s
      refine ⟨made ++ more, fun log => ?_, ?_⟩
      · simp only [hlogs log]
        show next' (s, log ++ made) = ((next s).1, (next s).2, log ++ (made ++ more))
        rw [← List.append_assoc]
        exact hmore (log ++ made)
      · show Concluded (made ++ more) (next s).1
        rcases hend with ⟨rfl, hzero⟩ | hend
        · rw [List.append_nil, hzero]
          exact h
        · exact h.append hend
    · refine ⟨made, fun log => ?_, ?_⟩
      · simp only [hlogs log, thenOn_code hc]
      · rw [thenOn_code hc]
        exact h

namespace World

variable {w : World σ} {jobs : ι → σ → List Job} {l : List ι}

theorem exists_logs_runJob (hw : w.FaultsByLaunch) {job : Job}
    (hjob : ∀ f, job = .error f → f.IsMissing) (s : σ) :
    ∃ made, Logs made (fun log => w.logged.runJob job (s, log)) (w.runJob job s) ∧
      Concluded made (w.runJob job s).1 := by
  cases job with
  | error f =>
    refine ⟨[], fun log => ?_, .missing (List.forall_mem_nil _) (hjob f rfl)⟩
    rw [List.append_nil]
    rfl
  | ok i =>
    refine ⟨[(i, ((w.execute i).perform s).1)], fun log => rfl, .last ?_ fun f hf => hw i s f hf⟩
    exact ⟨[], i, rfl, List.forall_mem_nil _⟩

/-- jobs leave nothing only if there are none -/
theorem exists_logs_runJobs (hw : w.FaultsByLaunch) {todo : List Job}
    (htodo : ∀ f, .error f ∈ todo → f.IsMissing) (s : σ) :
    ∃ made, Logs made (fun log => w.logged.runJobs todo (s, log)) (w.runJobs todo s) ∧
      (todo = [] ∧ made = [] ∨ Concluded made (w.runJobs todo s).1) := by
  induction todo generalizing s with
  | nil =>
    refine ⟨[], fun log => ?_, .inl ⟨rfl, rfl⟩⟩
    rw [List.append_nil]
    rfl
  | cons job todo ih =>
    obtain ⟨made, hlogs, hend⟩ := exists_logs_runJob hw
      (fun f hf => htodo f (hf ▸ List.mem_cons_self)) s
    obtain ⟨made', hlogs', hend'⟩ := hend.exists_thenOn (w.runJobs todo) (w.logged.runJobs todo)
      hlogs fun s => by
        obtain ⟨more, hmore, hend⟩ := ih (fun f hf => htodo f (List.mem_cons_of_mem _ hf)) s
        refine ⟨more, hmore, hend.imp_left ?_⟩
        rintro ⟨rfl, rfl⟩
        exact ⟨rfl, rfl⟩
    exact ⟨made', hlogs', .inr hend'⟩

/-- what jobs add to a log are invocations of theirs -/
theorem mem_log_of_runJobs {todo : List Job} {log : List LogEntry} {s : σ} :
    ∀ e ∈ (w.logged.runJobs todo (s, log)).2.2, e ∈ log ∨ .ok e.1 ∈ todo := by
  induction todo generalizing s log with
  | nil => exact fun e he => .inl he
  | cons job todo ih =>
    rw [runJobs_cons]
    cases job with
    | error f => exact fun e he => .inl he
    | ok i =>
      refine thenOn_keeps (I := fun r : σ × List LogEntry =>
        ∀ e ∈ r.2, e ∈ log ∨ .ok e.1 ∈ Except.ok i :: todo) ?_ ?_
      · intro e he
        rcases List.mem_append.1 he with he | he
        · exact .inl he
        · rw [List.mem_singleton.1 he]
          exact .inr List.mem_cons_self
      · intro r hr e he
        rcases ih e he with he | he
        · exact hr e he
        · exact .inr (List.mem_cons_of_mem _ he)

/-- turns leave nothing only if none has a job -/
theorem exists_logs_runTurns (hw : w.FaultsByLaunch)
    (hjobs : ∀ x ∈ l, ∀ s f, .error f ∈ jobs x s → f.IsMissing) (s : σ) :
    ∃ made, Logs made (fun log => w.logged.runTurns (fun x r => jobs x r.1) l (s, log))
        (w.runTurns jobs l s) ∧
      ((∀ x ∈ l, jobs x s = []) ∧ made = [] ∨ Concluded made (w.runTurns jobs l s).1) := by
  induction l generalizing s with
  | nil =>
    refine ⟨[], fun log => ?_, .inl ⟨List.forall_mem_nil _, rfl⟩⟩
    rw [List.append_nil]
    rfl
  | cons x l ih =>
    have hrest := ih fun y hy => hjobs y (List.mem_cons_of_mem _ hy)
    obtain ⟨made, hlogs, ⟨hnone, rfl⟩ | hend⟩ :=
      exists_logs_runJobs hw (hjobs x List.mem_cons_self s) s
    · -- without jobs the turn leaves the state as it is, and the others decide
      obtain ⟨more, hmore, hend⟩ := hrest s
      have hskip : w.runTurns jobs (x :: l) s = w.runTurns jobs l s := by
        rw [runTurns_cons, hnone]
        rfl
      have hskip' : ∀ log, w.logged.runTurns (fun x r => jobs x r.1) (x :: l) (s, log) =
          w.logged.runTurns (fun x r => jobs x r.1) l (s, log) := by
        intro log
        rw [runTurns_cons]
        simp only [hnone]
        rfl
      rw [hskip]
      refine ⟨more, fun log => (hskip' log).trans (hmore log), hend.imp_left fun h => ?_⟩
      exact ⟨List.forall_mem_cons.2 ⟨hnone, h.1⟩, h.2⟩
    · obtain ⟨made', hlogs', hend'⟩ := hend.exists_thenOn (w.runTurns jobs l)
        (w.logged.runTurns (fun x r => jobs x r.1) l) hlogs fun s => by
          obtain ⟨more, hmore, hend⟩ := hrest s
          refine ⟨more, hmore, hend.imp_left fun h => ⟨h.2, ?_⟩⟩
          rw [runTurns_idle h.1]
      exact ⟨made', hlogs', .inr hend'⟩

end World

end PatternBuild
