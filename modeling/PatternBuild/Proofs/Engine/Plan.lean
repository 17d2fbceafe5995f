import Mathlib.Data.List.Basic
import PatternBuild.Engine.Plan
import PatternBuild.Proofs.Engine.Sequence

/-!
# Plans and runs

`Program.Expands` says what the plan of a template is by rules alone, with the chain of running
templates in order of entry; `Program.walk` goes through a plan item by item.

* `expands_planIn`           the rules give a template the plan that `planIn` finds;
* `Expands.unique`           and no other one;
* `runTemplateIn_eq`         running a template is performing its plan;
* `performPlan_eq_walk`      performing a plan is walking it;
* `runTemplate_walks_plan`   so a run makes the invocations of a walk through the one plan and ends
                             as it does, and with no fault in the plan it is a build of the
                             destinations in a row.
-/

namespace PatternBuild.Program

open Action

variable {σ : Type} (p : Program)

/-! ## the rules of expansion -/

/-- the plan of a template, entered after those of the chain, is the given list -/
inductive Expands : List String → String → List PlanItem → Prop
  /-- a template that is running already -/
  | cycle {chain : List String} {name : String} :
      name ∈ chain → Expands chain name [.fail (.hookCycle (chain ++ [name]))]
  /-- a name without a template -/
  | missing {chain : List String} {name : String} :
      name ∉ chain → p.template? name = none → Expands chain name [.fail (.templateNotFound name)]
  /-- the plans of the prehooks, the destinations, the plans of the posthooks -/
  | template {chain : List String} {name : String} {t : Template}
      (plans : String → List PlanItem) :
      name ∉ chain → p.template? name = some t →
      (∀ hook ∈ t.hooks, Expands (chain ++ [name]) hook (plans hook)) →
      Expands chain name (t.prehooks.flatMap plans ++ t.destinations.map .build ++
        t.posthooks.flatMap plans)

/-! ## the equations of `planIn` and `runTemplateIn` -/

section equations

variable {chain : List String} {name : String} {t : Template}

theorem planIn_of_mem (h : name ∈ chain) :
    p.planIn chain name = [.fail (.hookCycle (name :: chain).reverse)] := by
  rw [planIn, dif_pos h]

theorem planIn_of_none (h : name ∉ chain) (ht : p.template? name = none) :
    p.planIn chain name = [.fail (.templateNotFound name)] := by
  rw [planIn, dif_neg h]
  split
  · rfl
  · rename_i ht'
    rw [ht] at ht'
    cases ht'

theorem planIn_of_some (h : name ∉ chain) (ht : p.template? name = some t) :
    p.planIn chain name = t.prehooks.flatMap (p.planIn (name :: chain)) ++
      t.destinations.map .build ++ t.posthooks.flatMap (p.planIn (name :: chain)) := by
  rw [planIn, dif_neg h]
  split
  · rename_i ht'
    rw [ht] at ht'
    cases ht'
  · rename_i t' ht'
    rw [ht] at ht'
    cases ht'
    rfl

/-- a plan holds the builds of the destinations and what the plans of the hooks hold -/
theorem mem_planIn_of_some (h : name ∉ chain) (ht : p.template? name = some t) {item : PlanItem} :
    item ∈ p.planIn chain name ↔ (∃ dest ∈ t.destinations, item = .build dest) ∨
      ∃ hook ∈ t.hooks, item ∈ p.planIn (name :: chain) hook := by
  rw [p.planIn_of_some h ht]
  simp only [List.mem_append, List.mem_flatMap, List.mem_map, Template.hooks]
  constructor
  · rintro ((⟨hook, hm, hi⟩ | ⟨dest, hm, rfl⟩) | ⟨hook, hm, hi⟩)
    · exact .inr ⟨hook, .inl hm, hi⟩
    · exact .inl ⟨dest, hm, rfl⟩
    · exact .inr ⟨hook, .inr hm, hi⟩
  · rintro (⟨dest, hm, rfl⟩ | ⟨hook, hm | hm, hi⟩)
    · exact .inl (.inr ⟨dest, hm, rfl⟩)
    · exact .inl (.inl ⟨hook, hm, hi⟩)
    · exact .inr ⟨hook, hm, hi⟩

variable (w : World σ)

theorem runTemplateIn_of_mem (h : name ∈ chain) :
    p.runTemplateIn w chain name = throw (.hookCycle (name :: chain).reverse) := by
  rw [runTemplateIn, dif_pos h]

theorem runTemplateIn_of_none (h : name ∉ chain) (ht : p.template? name = none) :
    p.runTemplateIn w chain name = throw (.templateNotFound name) := by
  rw [runTemplateIn, dif_neg h]
  split
  · rfl
  · rename_i ht'
    rw [ht] at ht'
    cases ht'

theorem runTemplateIn_of_some (h : name ∉ chain) (ht : p.template? name = some t) :
    p.runTemplateIn w chain name = Action.sequence
      (t.prehooks.map (p.runTemplateIn w (name :: chain)) ++ t.destinations.map (p.build w) ++
        t.posthooks.map (p.runTemplateIn w (name :: chain))) := by
  rw [runTemplateIn, dif_neg h]
  split
  · rename_i ht'
    rw [ht] at ht'
    cases ht'
  · rename_i t' ht'
    rw [ht] at ht'
    cases ht'
    rfl

end equations

/-- a property of templates entered from a chain holds when it follows from the same for all names
entered from the chain with the template put on -/
theorem chain_induction {motive : List String → String → Prop}
    (cycle : ∀ chain name, name ∈ chain → motive chain name)
    (missing : ∀ chain name, name ∉ chain → p.template? name = none → motive chain name)
    (template : ∀ chain name t, name ∉ chain → p.template? name = some t →
      (∀ hook, motive (name :: chain) hook) → motive chain name)
    (chain : List String) (name : String) : motive chain name := by
  induction hn : p.unseen chain using Nat.strongRecOn generalizing chain name with
  | _ n ih =>
    by_cases hc : name ∈ chain
    · exact cycle chain name hc
    · cases ht : p.template? name with
      | none => exact missing chain name hc ht
      | some t =>
        have hlt := p.unseen_cons_lt (mem_templateNames_of_template? ht) hc
        exact template chain name t hc ht fun hook => ih _ (hn ▸ hlt) _ hook rfl

/-! ## the one plan -/

theorem expands_planIn (chain : List String) (name : String) :
    p.Expands chain.reverse name (p.planIn chain name) := by
  refine p.chain_induction (motive := fun chain name =>
    p.Expands chain.reverse name (p.planIn chain name)) ?_ ?_ ?_ chain name
  · intro chain name hc
    rw [p.planIn_of_mem hc, List.reverse_cons]
    exact .cycle (List.mem_reverse.2 hc)
  · intro chain name hc ht
    rw [p.planIn_of_none hc ht]
    exact .missing (fun h => hc (List.mem_reverse.1 h)) ht
  · intro chain name t hc ht ih
    rw [p.planIn_of_some hc ht]
    refine .template _ (fun h => hc (List.mem_reverse.1 h)) ht fun hook _ => ?_
    rw [← List.reverse_cons]
    exact ih hook

/-- a template has no other plan -/
theorem Expands.unique {chain : List String} {name : String} {items : List PlanItem}
    (h : p.Expands chain name items) : ∀ other, p.Expands chain name other → other = items := by
  induction h with
  | cycle hc =>
    intro other h
    cases h with
    | cycle => rfl
    | missing hn => exact absurd hc hn
    | template _ hn => exact absurd hc hn
  | missing hc ht =>
    intro other h
    cases h with
    | cycle hm => exact absurd hm hc
    | missing => rfl
    | template _ _ ht' => rw [ht] at ht'; cases ht'
  | @template chain name t plans hc ht _ ih =>
    intro other h
    cases h with
    | cycle hm => exact absurd hm hc
    | missing _ ht' => rw [ht] at ht'; cases ht'
    | template plans' _ ht' hp' =>
      rw [ht] at ht'
      cases ht'
      have hpre : t.prehooks.flatMap plans' = t.prehooks.flatMap plans :=
        List.flatMap_congr fun hook hm =>
          ih hook (List.mem_append_left _ hm) _ (hp' hook (List.mem_append_left _ hm))
      have hpost : t.posthooks.flatMap plans' = t.posthooks.flatMap plans :=
        List.flatMap_congr fun hook hm =>
          ih hook (List.mem_append_right _ hm) _ (hp' hook (List.mem_append_right _ hm))
      rw [hpre, hpost]

/-! ## running is performing -/

variable (w : World σ)

theorem performPlan_flatMap (hooks : List String) (plans : String → List PlanItem) :
    p.performPlan w (hooks.flatMap plans) =
      Action.sequence (hooks.map fun h => p.performPlan w (plans h)) := by
  show Action.sequence ((hooks.flatMap plans).map (p.performItem w)) = _
  rw [List.map_flatMap]
  exact sequence_flatMap hooks fun h => (plans h).map (p.performItem w)

theorem performPlan_append (a b : List PlanItem) :
    p.performPlan w (a ++ b) = Action.sequence [p.performPlan w a, p.performPlan w b] := by
  unfold performPlan
  rw [List.map_append, sequence_append]

/-- running a template is performing its plan -/
theorem runTemplateIn_eq (chain : List String) (name : String) :
    p.runTemplateIn w chain name = p.performPlan w (p.planIn chain name) := by
  refine p.chain_induction (motive := fun chain name =>
    p.runTemplateIn w chain name = p.performPlan w (p.planIn chain name)) ?_ ?_ ?_ chain name
  · intro chain name hc
    rw [p.planIn_of_mem hc, p.runTemplateIn_of_mem w hc]
    exact perform_ext fun s => rfl
  · intro chain name hc ht
    rw [p.planIn_of_none hc ht, p.runTemplateIn_of_none w hc ht]
    exact perform_ext fun s => rfl
  · intro chain name t hc ht ih
    have hhooks : ∀ hooks : List String,
        Action.sequence (hooks.map (p.runTemplateIn w (name :: chain))) =
        p.performPlan w (hooks.flatMap (p.planIn (name :: chain))) := by
      intro hooks
      rw [performPlan_flatMap]
      congr 1
      exact List.map_congr_left fun hook _ => ih hook
    have hdests : Action.sequence (t.destinations.map (p.build w)) =
        p.performPlan w (t.destinations.map .build) := by
      unfold performPlan
      rw [List.map_map]
      rfl
    rw [p.runTemplateIn_of_some w hc ht, p.planIn_of_some hc ht, performPlan_append,
      performPlan_append, sequence_append, sequence_append (t.prehooks.map _), hhooks, hhooks,
      hdests]

/-! ## performing is walking -/

/-- go through a plan from left to right: build what is to be built, and stop at the first code
other than 0, fault of a build or fault of the plan -/
def walk : List PlanItem → σ → Except Fault Int × σ
  | [], s => (.ok 0, s)
  | .fail fault :: _, s => (.error fault, s)
  | .build dest :: rest, s =>
    match (p.build w dest).perform s with
    | (.ok code, s') => if code = 0 then walk rest s' else (.ok code, s')
    | (.error fault, s') => (.error fault, s')

theorem walk_build_cons (dest : String) (items : List PlanItem) (s : σ) :
    p.walk w (.build dest :: items) s = thenOn ((p.build w dest).perform s) (p.walk w items) := rfl

theorem performPlan_eq_walk (items : List PlanItem) (s : σ) :
    (p.performPlan w items).perform s = p.walk w items s := by
  induction items generalizing s with
  | nil => rfl
  | cons item items ih =>
    show (Action.sequence (p.performItem w item :: items.map (p.performItem w))).perform s = _
    rw [perform_sequence_cons]
    cases item with
    | fail fault => rfl
    | build dest =>
      show thenOn ((p.build w dest).perform s) (p.performPlan w items).perform = _
      rw [walk_build_cons, show (p.performPlan w items).perform = p.walk w items from funext ih]

theorem walk_builds (dests : List String) (s : σ) :
    p.walk w (dests.map .build) s = (p.buildAll w dests).perform s := by
  rw [← performPlan_eq_walk]
  unfold performPlan buildAll
  rw [List.map_map]
  rfl

theorem exists_builds {items : List PlanItem} (h : ∀ fault, PlanItem.fail fault ∉ items) :
    ∃ dests : List String, items = dests.map .build := by
  induction items with
  | nil => exact ⟨[], rfl⟩
  | cons item items ih =>
    obtain ⟨dests, rfl⟩ := ih fun fault hm => h fault (List.mem_cons_of_mem _ hm)
    cases item with
    | build dest => exact ⟨dest :: dests, rfl⟩
    | fail fault => exact absurd List.mem_cons_self (h fault)

theorem runTemplate_eq_walk (name : String) (s : σ) :
    (p.runTemplate w name).perform s = p.walk w (p.plan name) s := by
  rw [← performPlan_eq_walk]
  exact congrFun (congrArg perform (p.runTemplateIn_eq w [] name)) s

/-- **A run is a walk through the one plan of its template.**  The rules of expansion give the
template exactly one plan, however its hooks dangle or return.  In every world, logged or not, the
run ends as the walk does, in the same state and with the same log; and if the plan holds no fault,
it is the build of its destinations in a row. -/
theorem runTemplate_walks_plan (name : String) :
    ∃ items, p.Expands [] name items ∧ (∀ other, p.Expands [] name other → other = items) ∧
      ∀ (σ : Type) (w : World σ) (s : σ),
        (p.runTemplate w name).perform s = p.walk w items s ∧
        (p.runTemplate w.logged name).perform (s, []) = p.walk w.logged items (s, []) ∧
        ((∀ fault, PlanItem.fail fault ∉ items) → ∃ dests : List String,
          items = dests.map .build ∧
          (p.runTemplate w name).perform s = (p.buildAll w dests).perform s ∧
          (p.runTemplate w.logged name).perform (s, []) =
            (p.buildAll w.logged dests).perform (s, [])) := by
  have hplan : p.Expands [] name (p.plan name) := p.expands_planIn [] name
  refine ⟨p.plan name, hplan, hplan.unique, fun σ w s => ⟨p.runTemplate_eq_walk w name s,
    p.runTemplate_eq_walk w.logged name (s, []), fun hnone => ?_⟩⟩
  obtain ⟨dests, hdests⟩ := exists_builds hnone
  refine ⟨dests, hdests, ?_, ?_⟩
  · rw [p.runTemplate_eq_walk, hdests, walk_builds]
  · rw [p.runTemplate_eq_walk, hdests, walk_builds]

end PatternBuild.Program
