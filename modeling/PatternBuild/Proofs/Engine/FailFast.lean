import PatternBuild.Proofs.Engine.Plan
import PatternBuild.Proofs.Outcome
import PatternBuild.Proofs.Pattern.Substitution

/-!
# Stopping at the first failure

`Operation` names what the engine can be asked to do.  An action `Follows` another one when it does
the same in a logged world and the outcomes that it adds to the log end as it does: with code 0 or
a fault of the engine's own after code 0 throughout, or else with the first other outcome.

* `follows_execute`, `Follows.map`, `follows_inTurn`   the ways to put actions together;
* `stops_at_first_failure`                            every operation runs nothing after the first
                                                      code other than 0 or fault, and ends with it.
-/

namespace PatternBuild

/-! ## outcomes and results -/

/-- whether a fault is found by the engine itself and not by running a script -/
def Fault.isEngine : Fault → Bool
  | .noMatchingStep _ => true
  | .missingCapture _ _ => true
  | .templateNotFound _ => true
  | .hookCycle _ => true
  | .file _ => true
  | _ => false

/-- the outcomes of the invocations made, in order, and what the whole ends with -/
structure FailsFast (outcomes : List (Except Fault Int)) (result : Except Fault Int) : Prop where
  /-- only the last invocation can fail -/
  before : ∀ o ∈ outcomes.dropLast, o = .ok 0
  code : ∀ c, outcomes.getLast? = some (.ok c) → c ≠ 0 → result = .ok c
  fault : ∀ f, outcomes.getLast? = some (.error f) → result = .error f
  allZero : (∀ o ∈ outcomes, o = .ok 0) →
    result = .ok 0 ∨ ∃ f, result = .error f ∧ f.isEngine = true

/-- how outcomes lead to a result -/
inductive Ends : List (Except Fault Int) → Except Fault Int → Prop
  | done {os : List (Except Fault Int)} : (∀ o ∈ os, o = .ok 0) → Ends os (.ok 0)
  | own {os : List (Except Fault Int)} {f : Fault} :
      (∀ o ∈ os, o = .ok 0) → f.isEngine = true → Ends os (.error f)
  | failed {os : List (Except Fault Int)} {o : Except Fault Int} :
      (∀ o ∈ os, o = .ok 0) → o ≠ .ok 0 → Ends (os ++ [o]) o

namespace Ends

variable {os os' : List (Except Fault Int)} {r r' : Except Fault Int}

/-- code 0 comes from code 0 throughout -/
theorem zeros (h : Ends os (.ok 0)) : ∀ o ∈ os, o = .ok 0 := by
  cases h with
  | done h => exact h
  | failed _ hne => exact absurd rfl hne

/-- after code 0 the rest decides -/
theorem append (h : Ends os (.ok 0)) (h' : Ends os' r) : Ends (os ++ os') r := by
  have hall : ∀ {os' : List (Except Fault Int)}, (∀ o ∈ os', o = .ok 0) →
      ∀ o ∈ os ++ os', o = .ok 0 := fun h' => List.forall_mem_append.2 ⟨h.zeros, h'⟩
  cases h' with
  | done h' => exact .done (hall h')
  | own h' hf => exact .own (hall h') hf
  | failed h' hne =>
    rw [← List.append_assoc]
    exact .failed (hall h') hne

theorem failsFast (h : Ends os r) : FailsFast os r := by
  have hzeros : (∀ o ∈ os, o = .ok 0) → (r = .ok 0 ∨ ∃ f, r = .error f ∧ f.isEngine = true) →
      FailsFast os r := by
    intro h hr
    have hlast : ∀ o, os.getLast? = some o → o = .ok 0 := fun o ho =>
      h o (List.mem_of_getLast? ho)
    refine ⟨fun o ho => h o (List.dropLast_subset os ho), fun c hc hne => ?_, fun f hf => ?_,
      fun _ => hr⟩
    · exact absurd (Except.ok.inj (hlast _ hc)) hne
    · cases hlast _ hf
  cases h with
  | done h => exact hzeros h (.inl rfl)
  | own h hf => exact hzeros h (.inr ⟨_, rfl, hf⟩)
  | failed h hne =>
    refine ⟨by rwa [List.dropLast_concat], fun c hc _ => ?_, fun f hf => ?_,
      fun hall => absurd (hall r (by simp)) hne⟩
    · rw [List.getLast?_concat] at hc
      exact Option.some.inj hc
    · rw [List.getLast?_concat] at hf
      exact Option.some.inj hf

end Ends

/-! ## operations -/

/-- what the engine can be asked to do -/
inductive Operation where
  | build (dest : String)
  | buildAll (dests : List String)
  | compile (source : String)
  | compileAll (sources : List String)
  | compileDependents (changed : String)
  | runTemplate (name : String)

/-- do what is asked -/
def Program.operate {σ : Type} (p : Program) (w : World σ) : Operation → Action σ Int
  | .build dest => p.build w dest
  | .buildAll dests => p.buildAll w dests
  | .compile source => p.compile w source
  | .compileAll sources => p.compileAll w sources
  | .compileDependents changed => p.compileDependents w changed
  | .runTemplate name => p.runTemplate w name

/-! ## actions in logged worlds -/

variable {σ α β ι : Type}

/-- `b` does with a log what `a` does without one, and the outcomes it adds end as it does; `code`
is the exit code that a value stands for -/
def Follows (code : α → Int) (b : Action (σ × List LogEntry) α) (a : Action σ α) : Prop :=
  ∀ s log, ∃ new : List LogEntry,
    b.perform (s, log) = ((a.perform s).1, (a.perform s).2, log ++ new) ∧
      Ends (new.map (·.2)) ((a.perform s).1.map code)

theorem map_map_of_code {code : α → Int} {code' : β → Int} {g : α → β}
    (h : ∀ x, code' (g x) = code x) (r : Except Fault α) : (r.map g).map code' = r.map code := by
  cases r with
  | error f => rfl
  | ok x => exact congrArg Except.ok (h x)

/-- a value may be put in another form if it stands for the same exit code -/
theorem Follows.map {code : α → Int} {code' : β → Int} {g : α → β}
    {b : Action (σ × List LogEntry) α} {a : Action σ α} (h : Follows code b a)
    (hg : ∀ x, code' (g x) = code x) : Follows code' (g <$> b) (g <$> a) := by
  intro s log
  obtain ⟨new, hb, hends⟩ := h s log
  simp only [Action.perform_map, hb]
  exact ⟨new, rfl, by rwa [map_map_of_code hg]⟩

theorem follows_execute (w : World σ) (i : Invocation) :
    Follows id (w.logged.execute i) (w.execute i) := by
  intro s log
  refine ⟨[(i, ((w.execute i).perform s).1)], rfl, ?_⟩
  show Ends [((w.execute i).perform s).1] (((w.execute i).perform s).1.map id)
  rw [Except.map_id]
  by_cases hc : ((w.execute i).perform s).1 = .ok 0
  · rw [hc]
    exact .done (by simp)
  · exact Ends.failed (List.forall_mem_nil _) hc

theorem follows_throw {f : Fault} (hf : f.isEngine = true) (code : α → Int) :
    Follows code (throw f : Action (σ × List LogEntry) α) (throw f) :=
  fun _ _ => ⟨[], by rw [List.append_nil]; rfl, .own (by simp) hf⟩

/-- a fault found beforehand is the engine's own -/
theorem Follows.ofExcept_bind {code : β → Int} {e : Except Fault α}
    {b : α → Action (σ × List LogEntry) β} {a : α → Action σ β}
    (he : ∀ f, e = .error f → f.isEngine = true) (h : ∀ x, Follows code (b x) (a x)) :
    Follows code (Action.ofExcept e >>= b) (Action.ofExcept e >>= a) := by
  cases e with
  | error f => exact follows_throw (he f rfl) code
  | ok x => exact h x

/-- actions in turn follow each other one by one -/
theorem follows_inTurn {l : List ι} {b : ι → Action (σ × List LogEntry) (Option Int)}
    {a : ι → Action σ (Option Int)} (h : ∀ x ∈ l, Follows (·.getD 0) (b x) (a x)) :
    Follows (·.getD 0) (Action.inTurn (l.map b)) (Action.inTurn (l.map a)) := by
  induction l with
  | nil => exact fun s log => ⟨[], by rw [List.append_nil]; rfl, .done (by simp)⟩
  | cons x l ih =>
    have hrest := ih fun y hy => h y (List.mem_cons_of_mem _ hy)
    intro s log
    obtain ⟨new, hb, hends⟩ := h x List.mem_cons_self s log
    simp only [List.map_cons, Action.perform_inTurn_cons, hb]
    rcases hx : (a x).perform s with ⟨f | _ | code, s'⟩ <;> rw [hx] at hends
    · exact ⟨new, rfl, hends⟩
    · obtain ⟨new', hb', hends'⟩ := hrest s' (log ++ new)
      refine ⟨new ++ new', ?_, ?_⟩
      · simp only [hb', List.append_assoc]
      · rw [List.map_append]
        exact hends.append hends'
    · by_cases hc : code = 0
      · subst hc
        obtain ⟨new', hb', hends'⟩ := hrest s' (log ++ new)
        refine ⟨new ++ new', ?_, ?_⟩
        · simp only [if_true, hb', List.append_assoc]
        · simp only [if_true]
          rw [List.map_append]
          refine hends.append ?_
          rwa [map_map_of_code fun _ => rfl]
      · simp only [if_neg hc]
        exact ⟨new, rfl, hends⟩

theorem follows_sequence {l : List ι} {b : ι → Action (σ × List LogEntry) Int}
    {a : ι → Action σ Int} (h : ∀ x ∈ l, Follows id (b x) (a x)) :
    Follows id (Action.sequence (l.map b)) (Action.sequence (l.map a)) := by
  have hturn : Follows (·.getD 0) (Action.inTurn (l.map fun x => some <$> b x))
      (Action.inTurn (l.map fun x => some <$> a x)) :=
    follows_inTurn fun x hx => (h x hx).map fun _ => rfl
  rw [Action.sequence_eq_map, Action.sequence_eq_map, List.map_map, List.map_map]
  exact hturn.map fun _ => rfl

/-! ## operations -/

namespace Program

variable (p : Program) (w : World σ)

/-- only having nothing to do is a fault -/
theorem follows_orNoMatch (path : String) {b : Action (σ × List LogEntry) (Option Int)}
    {a : Action σ (Option Int)} (h : Follows (·.getD 0) b a) :
    Follows id (b >>= orNoMatch path) (a >>= orNoMatch path) := by
  intro s log
  obtain ⟨new, hb, hends⟩ := h s log
  rw [Action.perform_bind, Action.perform_bind, hb]
  rcases ha : a.perform s with ⟨f | _ | code, s'⟩ <;> rw [ha] at hends
  · exact ⟨new, rfl, hends⟩
  · exact ⟨new, rfl, .own (Ends.zeros hends) rfl⟩
  · exact ⟨new, rfl, hends⟩

theorem follows_runStep (s : Step) (sources destinations : List String) (args : Captures) :
    Follows id (runStep w.logged s sources destinations args)
      (runStep w s sources destinations args) := follows_execute w _

theorem isEngine_of_substituteAll {ps : List Pattern} {args : Captures} {f : Fault}
    (h : Pattern.substituteAll ps args = .error f) : f.isEngine = true := by
  obtain ⟨q, _, n, rfl⟩ := Pattern.substituteAll_eq_error h
  rfl

theorem follows_build (dest : String) : Follows id (p.build w.logged dest) (p.build w dest) := by
  unfold build
  split
  · exact follows_throw rfl id
  · exact .ofExcept_bind (fun _ => isEngine_of_substituteAll) fun _ => follows_runStep w _ _ _ _

theorem follows_compileWith (s : Step) (e : Entry) :
    Follows id (compileWith w.logged s e) (compileWith w s e) :=
  .ofExcept_bind (fun _ => isEngine_of_substituteAll) fun _ => follows_runStep w _ _ _ _

theorem follows_compile (source : String) :
    Follows id (p.compile w.logged source) (p.compile w source) :=
  follows_orNoMatch source (follows_inTurn fun _ _ => (follows_compileWith w _ _).map fun _ => rfl)

theorem isEngine_of_findSources {s : Step} {fs : FileSystem} {f : Fault}
    (h : s.findSources fs = .error f) : f.isEngine = true := by
  unfold Step.findSources at h
  cases hfound : s.sources.mapM (·.enumerate fs) with
  | ok found =>
    rw [hfound] at h
    cases h
  | error e =>
    rw [hfound] at h
    cases h
    obtain ⟨q, _, hq⟩ := mapM_eq_error hfound
    unfold Pattern.enumerate at hq
    split at hq
    · split at hq
      · cases hq
      · cases hq
        rfl
    · cases hq

theorem follows_compileFound (s : Step) :
    Follows (·.getD 0) (compileFound w.logged s) (compileFound w s) := by
  intro st log
  have hjobs : ∀ found : List Entry, Follows (·.getD 0)
      (Action.inTurn (found.map fun e => some <$> compileWith w.logged s e))
      (Action.inTurn (found.map fun e => some <$> compileWith w s e)) := fun found =>
    follows_inTurn fun e _ => (follows_compileWith w s e).map fun _ => rfl
  have hengine : ∀ f, s.findSources (w.files st) = .error f → f.isEngine = true :=
    fun _ => isEngine_of_findSources
  exact Follows.ofExcept_bind hengine hjobs st log

theorem follows_compileDependents (changed : String) :
    Follows id (p.compileDependents w.logged changed) (p.compileDependents w changed) :=
  follows_orNoMatch _ (follows_inTurn fun s _ => follows_compileFound w s)

theorem isEngine_of_mem_planIn (chain : List String) (name : String) :
    ∀ f, PlanItem.fail f ∈ p.planIn chain name → f.isEngine = true := by
  refine p.chain_induction (motive := fun chain name =>
    ∀ f, PlanItem.fail f ∈ p.planIn chain name → f.isEngine = true) ?_ ?_ ?_ chain name
  · intro chain name hc f hf
    rw [p.planIn_of_mem hc, List.mem_singleton] at hf
    cases hf
    rfl
  · intro chain name hc ht f hf
    rw [p.planIn_of_none hc ht, List.mem_singleton] at hf
    cases hf
    rfl
  · intro chain name t hc ht ih f hf
    rcases (p.mem_planIn_of_some hc ht).1 hf with ⟨dest, _, hf⟩ | ⟨hook, _, hf⟩
    · cases hf
    · exact ih hook f hf

/-- running a template is performing its plan, item by item -/
theorem follows_runTemplate (name : String) :
    Follows id (p.runTemplate w.logged name) (p.runTemplate w name) := by
  show Follows id (p.runTemplateIn w.logged [] name) (p.runTemplateIn w [] name)
  rw [runTemplateIn_eq, runTemplateIn_eq]
  refine follows_sequence fun item hitem => ?_
  cases item with
  | build dest => exact p.follows_build w dest
  | fail f => exact follows_throw (p.isEngine_of_mem_planIn [] name f hitem) id

theorem follows_operate (o : Operation) :
    Follows id (p.operate w.logged o) (p.operate w o) := by
  cases o with
  | build dest => exact p.follows_build w dest
  | buildAll dests => exact follows_sequence fun dest _ => p.follows_build w dest
  | compile source => exact p.follows_compile w source
  | compileAll sources => exact follows_sequence fun source _ => p.follows_compile w source
  | compileDependents changed => exact p.follows_compileDependents w changed
  | runTemplate name => exact p.follows_runTemplate w name

/-- **Every operation stops at its first failure.**  In every world a log can be kept without
changing what is done or how it ends.  The log of an operation holds code 0 everywhere but in its
last entry; a last code other than 0 and a last fault are what the operation ends with, and with
code 0 throughout it ends with code 0 or a fault that the engine itself found. -/
theorem stops_at_first_failure (p : Program) (o : Operation) (σ : Type) (w : World σ) (s : σ) :
    ∃ log, (p.operate w.logged o).perform (s, []) =
        (((p.operate w o).perform s).1, ((p.operate w o).perform s).2, log) ∧
      FailsFast (log.map (·.2)) ((p.operate w o).perform s).1 := by
  obtain ⟨log, hlog, hends⟩ := p.follows_operate w o s []
  rw [Except.map_id] at hends
  exact ⟨log, hlog, hends.failsFast⟩

end Program

end PatternBuild
