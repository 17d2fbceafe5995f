import PatternBuild.Proofs.Engine.Plan

/-!
# One list of running templates

`Program.runTemplateIn` hands the chain of running templates down to every hook.  A run can also
keep one list for all of them: a template entered is put behind the list, and taken off again when
its hooks and destinations are done, however they ended (`Program.enter`).

* `enter_follows`      entering a template so is running it with the chain handed down, if that
                       holds of its hooks, and the list is left as it was found;
* `run_eq_enter_iff`   so there is one way to run all templates with a shared list
                       (`exists_run`), and it is `runTemplateIn`, whatever ran before in the hooks
                       beside.
-/

namespace PatternBuild

open Action

variable {σ ι : Type}

/-! ## actions beside the list -/

/-- the same world, keeping the list of running templates beside -/
def World.withRunning (w : World σ) : World (σ × List String) where
  execute i := ExceptT.mk fun (s, running) =>
    let (r, s) := (w.execute i).perform s
    (r, (s, running))
  files s := w.files s.1

/-- beside the list `b` does what `a` does without one, and leaves it as it is found -/
def LeavesList (running : List String) (b : Action (σ × List String) Int) (a : Action σ Int) :
    Prop := ∀ s, b.perform (s, running) = ((a.perform s).1, (a.perform s).2, running)

theorem thenOn_beside {running : List String} {next : σ → Except Fault Int × σ}
    {next' : σ × List String → Except Fault Int × σ × List String}
    (h : ∀ s, next' (s, running) = ((next s).1, (next s).2, running))
    (r : Except Fault Int × σ) : thenOn (r.1, r.2, running) next' =
      ((thenOn r next).1, (thenOn r next).2, running) := by
  obtain ⟨f | code, s⟩ := r
  · rfl
  · by_cases hc : code = 0
    · subst hc
      exact h s
    · simp only [thenOn_code hc]

theorem leavesList_sequence {running : List String} {l : List ι}
    {b : ι → Action (σ × List String) Int} {a : ι → Action σ Int}
    (h : ∀ x ∈ l, LeavesList running (b x) (a x)) :
    LeavesList running (Action.sequence (l.map b)) (Action.sequence (l.map a)) := by
  induction l with
  | nil => exact fun s => rfl
  | cons x l ih =>
    intro s
    rw [List.map_cons, List.map_cons, perform_sequence_cons, perform_sequence_cons,
      h x List.mem_cons_self s]
    exact thenOn_beside (ih fun y hy => h y (List.mem_cons_of_mem x hy)) _

theorem leavesList_append {running : List String} {bs cs : List (Action (σ × List String) Int)}
    {as ds : List (Action σ Int)} (h : LeavesList running (Action.sequence bs) (Action.sequence as))
    (h' : LeavesList running (Action.sequence cs) (Action.sequence ds)) :
    LeavesList running (Action.sequence (bs ++ cs)) (Action.sequence (as ++ ds)) := by
  intro s
  rw [perform_sequence_append, perform_sequence_append, h s]
  exact thenOn_beside h' _

namespace Program

variable (p : Program) (w : World σ) {run : String → Action (σ × List String) Int}

theorem leavesList_build (running : List String) (dest : String) :
    LeavesList running (p.build w.withRunning dest) (p.build w dest) := by
  intro s
  unfold build
  split
  · rfl
  · rename_i step e _
    cases hsub : Pattern.substituteAll step.sources e.args <;> rfl

/-! ## entering templates -/

/-- put a name behind the list while an action is done -/
def holding (name : String) (a : Action (σ × List String) Int) : Action (σ × List String) Int :=
  ExceptT.mk fun (s, running) =>
    let (r, s, running) := a.perform (s, running ++ [name])
    (r, s, running.dropLast)

theorem leavesList_holding {running : List String} {name : String}
    {b : Action (σ × List String) Int} {a : Action σ Int}
    (h : LeavesList (running ++ [name]) b a) : LeavesList running (holding name b) a := by
  intro s
  have hperform : (holding name b).perform (s, running) =
      ((b.perform (s, running ++ [name])).1, (b.perform (s, running ++ [name])).2.1,
        (b.perform (s, running ++ [name])).2.2.dropLast) := rfl
  -- the action left the list as it was with the name, so that is what is taken off
  rw [hperform, h s, List.dropLast_concat]

/-- enter a template with one list for all that are running, its hooks being run by `run` -/
def enter (run : String → Action (σ × List String) Int) (name : String) :
    Action (σ × List String) Int := do
  let running := (← get).2
  if name ∈ running then throw (.hookCycle (running ++ [name]))
  else
    match p.template? name with
    | none => throw (.templateNotFound name)
    | some t => holding name (Action.sequence (t.prehooks.map run ++
        t.destinations.map (p.build w.withRunning) ++ t.posthooks.map run))

theorem perform_enter (running : List String) (name : String) (s : σ) :
    (p.enter w run name).perform (s, running) =
      if name ∈ running then (.error (.hookCycle (running ++ [name])), s, running)
      else match p.template? name with
        | none => (.error (.templateNotFound name), s, running)
        | some t => (holding name (Action.sequence (t.prehooks.map run ++
            t.destinations.map (p.build w.withRunning) ++ t.posthooks.map run))).perform
              (s, running) := by
  show (ite (name ∈ running) (throw (.hookCycle (running ++ [name]))) _ :
    Action (σ × List String) Int).perform (s, running) = _
  split
  · rfl
  · split <;> rfl

/-- entering a template leaves the list as it was found, if running its hooks does -/
theorem enter_follows {chain : List String} {name : String}
    (h : name ∉ chain → ∀ t, p.template? name = some t → ∀ hook,
      LeavesList (name :: chain).reverse (run hook) (p.runTemplateIn w (name :: chain) hook)) :
    LeavesList chain.reverse (p.enter w run name) (p.runTemplateIn w chain name) := by
  intro s
  rw [perform_enter]
  by_cases hc : name ∈ chain
  · rw [if_pos (List.mem_reverse.2 hc), p.runTemplateIn_of_mem w hc, List.reverse_cons]
    rfl
  · rw [if_neg fun h => hc (List.mem_reverse.1 h)]
    cases ht : p.template? name with
    | none =>
      rw [p.runTemplateIn_of_none w hc ht]
      rfl
    | some t =>
      have hhooks : ∀ hooks : List String, LeavesList (name :: chain).reverse
          (Action.sequence (hooks.map run))
          (Action.sequence (hooks.map (p.runTemplateIn w (name :: chain)))) := fun hooks =>
        leavesList_sequence fun hook _ => h hc t ht hook
      have hbuilds : LeavesList (name :: chain).reverse
          (Action.sequence (t.destinations.map (p.build w.withRunning)))
          (Action.sequence (t.destinations.map (p.build w))) :=
        leavesList_sequence fun dest _ => p.leavesList_build w _ dest
      have hall := leavesList_append (leavesList_append (hhooks t.prehooks) hbuilds)
        (hhooks t.posthooks)
      rw [List.reverse_cons] at hall
      rw [p.runTemplateIn_of_some w hc ht]
      exact leavesList_holding hall s

/-- **The list is a stack.**  Runs of templates that share one list, each as `enter` says with the
others for its hooks, are the runs that hand the chain down, from any list on: they make the same
of every state and leave the list as they found it. -/
theorem run_eq_enter_iff : (∀ name, run name = p.enter w run name) ↔
    ∀ chain name, LeavesList chain.reverse (run name) (p.runTemplateIn w chain name) := by
  constructor
  · intro hrun
    refine p.chain_induction (motive := fun chain name =>
      LeavesList chain.reverse (run name) (p.runTemplateIn w chain name)) ?_ ?_ ?_
    · intro chain name hc
      rw [hrun name]
      exact p.enter_follows w fun hnot => absurd hc hnot
    · intro chain name _ hnone
      rw [hrun name]
      refine p.enter_follows w fun _ t ht => ?_
      rw [hnone] at ht
      cases ht
    · intro chain name _ _ _ ih
      rw [hrun name]
      exact p.enter_follows w fun _ _ _ => ih
  · -- the list of every state is that of some chain
    intro h name
    refine perform_ext fun s => ?_
    have henter : LeavesList s.2.reverse.reverse (p.enter w run name)
        (p.runTemplateIn w s.2.reverse name) := p.enter_follows w fun _ _ _ hook => h _ hook
    have hleaves := h s.2.reverse name
    rw [List.reverse_reverse] at henter hleaves
    exact (hleaves s.1).trans (henter s.1).symm

theorem exists_run : ∃ run : String → Action (σ × List String) Int,
    ∀ name, run name = p.enter w run name := by
  let run : String → Action (σ × List String) Int := fun name => ExceptT.mk fun (s, running) =>
    let (r, s) := (p.runTemplateIn w running.reverse name).perform s
    (r, s, running)
  have hrun : ∀ running name, LeavesList running (run name)
      (p.runTemplateIn w running.reverse name) := fun _ _ _ => rfl
  refine ⟨run, (p.run_eq_enter_iff w).2 fun chain name => ?_⟩
  have hchain := hrun chain.reverse name
  rwa [List.reverse_reverse] at hchain

end Program

end PatternBuild
