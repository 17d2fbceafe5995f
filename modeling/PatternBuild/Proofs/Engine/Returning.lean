import Mathlib.Data.List.Chain
import PatternBuild.Proofs.Engine.HookRuns
import PatternBuild.Proofs.Engine.SharedChain
import PatternBuild.Proofs.Rules.Names

/-!
# Hooks that return

When a template that is running is entered again, the run ends with the names from the first
template to it.  `Program.Returns` says what they are: a way along the hooks, through different
templates, that ends at one it has been at.

* `Running.enter`            along a hook the templates that are running stay such a way;
* `returns_of_mem_planIn`    so the chains in plans return;
* `reported_chain_returns`   and every chain that a run reports is one of these, unless the world
                             itself answers with it.
-/

namespace PatternBuild.Program

open Text Header Action

variable {σ : Type} {p : Program} {w : World σ}

/-! ## running templates -/

/-- names from a template along the hooks of different templates to one of these again -/
structure Returns (p : Program) (top : String) (names : List String) : Prop where
  first : names.head? = some top
  long : 2 ≤ names.length
  hooked : names.IsChain p.Hooks
  distinct : names.dropLast.Nodup
  defined : ∀ n ∈ names.dropLast, n ∈ p.templateNames
  returns : ∃ last ∈ names.dropLast, names.getLast? = some last

/-- all the names are templates, the last one being among the others -/
theorem Returns.mem_templateNames {top : String} {names : List String} (h : p.Returns top names) :
    ∀ n ∈ names, n ∈ p.templateNames := by
  obtain ⟨last, hmem, hlast⟩ := h.returns
  have hdefined := h.defined
  obtain ⟨front, rfl⟩ := List.getLast?_eq_some_iff.1 hlast
  rw [List.dropLast_concat] at hmem hdefined
  refine List.forall_mem_append.2 ⟨hdefined, fun n hn => ?_⟩
  rw [List.mem_singleton.1 hn]
  exact hdefined last hmem

/-- the templates of a chain are running, the innermost first, since one was run, and a name is to
be entered -/
structure Running (p : Program) (top : String) (chain : List String) (name : String) : Prop where
  first : (name :: chain).getLast? = some top
  hooked : (name :: chain).IsChain fun hook owner => p.Hooks owner hook
  distinct : chain.Nodup
  defined : ∀ n ∈ chain, n ∈ p.templateNames

namespace Running

variable {top name hook : String} {chain : List String}

theorem start (p : Program) (name : String) : p.Running name [] name where
  first := rfl
  hooked := .singleton name
  distinct := List.nodup_nil
  defined := List.forall_mem_nil _

/-- a template that is not running yet is put on the chain, and one of its hooks is entered -/
theorem enter (h : p.Running top chain name) (hc : name ∉ chain) (hn : p.Hooks name hook) :
    p.Running top (name :: chain) hook where
  first := by
    rw [List.getLast?_cons_cons]
    exact h.first
  hooked := .cons_cons hn h.hooked
  distinct := List.nodup_cons.2 ⟨hc, h.distinct⟩
  defined := List.forall_mem_cons.2 ⟨hn.mem_templateNames, h.defined⟩

theorem returns (h : p.Running top chain name) (hc : name ∈ chain) :
    p.Returns top (name :: chain).reverse := by
  -- in order of entry the templates that are running come before the name
  have hfront : (name :: chain).reverse.dropLast = chain.reverse := by
    rw [List.reverse_cons, List.dropLast_concat]
  refine ⟨?_, ?_, ?_, ?_, ?_, name, ?_, ?_⟩
  · rw [List.head?_reverse]
    exact h.first
  · have hpos : 0 < chain.length := List.length_pos_of_mem hc
    rw [List.length_reverse, List.length_cons]
    omega
  · exact List.isChain_reverse.2 h.hooked
  · rw [hfront]
    exact List.nodup_reverse.2 h.distinct
  · rw [hfront]
    exact fun n hn => h.defined n (List.mem_reverse.1 hn)
  · rw [hfront]
    exact List.mem_reverse.2 hc
  · rw [List.getLast?_reverse]
    rfl

end Running

/-! ## chains in plans -/

theorem returns_of_mem_planIn {top : String} {names : List String} (chain : List String)
    (name : String) : p.Running top chain name →
      .fail (.hookCycle names) ∈ p.planIn chain name → p.Returns top names := by
  refine p.chain_induction (motive := fun chain name => p.Running top chain name →
    .fail (.hookCycle names) ∈ p.planIn chain name → p.Returns top names) ?_ ?_ ?_ chain name
  · intro chain name hc hrun h
    rw [p.planIn_of_mem hc, List.mem_singleton] at h
    obtain rfl := Fault.hookCycle.inj (PlanItem.fail.inj h)
    exact hrun.returns hc
  · intro chain name hc ht _ h
    rw [p.planIn_of_none hc ht, List.mem_singleton] at h
    cases h
  · intro chain name t hc ht ih hrun h
    rcases (p.mem_planIn_of_some hc ht).1 h with ⟨dest, _, he⟩ | ⟨hook, hm, h⟩
    · cases he
    · exact ih hook (hrun.enter hc ⟨t, ht, hm⟩) h

/-! ## where faults of hooks come from -/

/-- the world answers one of the invocations of a log with a fault -/
def Answers (w : World σ) (f : Fault) (log : List LogEntry) : Prop :=
  ∃ i s, ((w.execute i).perform s).1 = .error f ∧ (i, .error f) ∈ log

theorem answers_of_execute {i : Invocation} {s s' : σ} {log log' : List LogEntry} {f : Fault}
    (h : (w.logged.execute i).perform (s, log) = (.error f, s', log')) : Answers w f log' := by
  have hrun : (((w.execute i).perform s).1, ((w.execute i).perform s).2,
      log ++ [(i, ((w.execute i).perform s).1)]) = (.error f, s', log') := h
  obtain ⟨hout, hrest⟩ := Prod.mk.inj hrun
  obtain ⟨_, rfl⟩ := Prod.mk.inj hrest
  refine ⟨i, s, hout, ?_⟩
  rw [hout]
  exact List.mem_append_right log (List.mem_singleton_self _)

/-- a walk has no fault of hooks but those of the plan and what the world answers -/
theorem mem_or_answers_of_walk {items : List PlanItem} {s s' : σ} {log log' : List LogEntry}
    {f : Fault} (h : p.walk w.logged items (s, log) = (.error f, s', log'))
    (hf : f.isHook = true) : .fail f ∈ items ∨ Answers w f log' := by
  rcases walk_error_cases h with hplan | ⟨dest, ⟨s₁, log₁⟩, _, hbuild⟩
  · exact .inl hplan
  · rcases build_error_cases hbuild with ⟨i, hi⟩ | hnot
    · exact .inr (answers_of_execute hi)
    · rw [hf] at hnot
      cases hnot

/-! ## reported chains -/

/-- **A chain that a run reports returns.**  Let a run of a template of a rule file end with a chain
of hooks.  The same happens with one list of running templates that all hooks share, which then is
left empty.  The chain leads from the template run along hooks through different templates that are
all there, and comes back to one of them; no other list of names without arrows has its text.  Only
if the world itself answered an invocation with this fault, and so has faults other than those of
launching scripts, need it not be so. -/
theorem reported_chain_returns {text name : String} {chain : List String} {s s' : σ}
    {log : List LogEntry} (hp : parse text = .ok p)
    (h : (p.runTemplate w.logged name).perform (s, []) = (.error (.hookCycle chain), s', log)) :
    (∀ run, (∀ n, run n = p.enter w.logged run n) →
      (run name).perform ((s, []), []) = (.error (.hookCycle chain), (s', log), [])) ∧
    ((p.Returns name chain ∧ ∀ names, names ≠ [] → (∀ n ∈ names, ¬arrow <:+: n.toList) →
        (Fault.hookCycle names).message = (Fault.hookCycle chain).message → names = chain) ∨
      (¬w.FaultsByLaunch ∧ ∃ i, (i, .error (.hookCycle chain)) ∈ log)) := by
  constructor
  · intro run hrun
    have hdown : (p.runTemplateIn w.logged [] name).perform (s, []) =
        (.error (.hookCycle chain), s', log) := h
    have hleaves := (p.run_eq_enter_iff w.logged).1 hrun [] name (s, [])
    rwa [List.reverse_nil, hdown] at hleaves
  · rw [runTemplate_eq_walk] at h
    rcases mem_or_answers_of_walk h rfl with hplan | ⟨i, s₁, hanswer, hlog⟩
    · have hreturns : p.Returns name chain := returns_of_mem_planIn [] name (.start p name) hplan
      have hne : chain ≠ [] := by
        rintro rfl
        cases hreturns.first
      exact .inl ⟨hreturns, fun names hnames harrow => eq_of_message_hookCycle hne hnames
        (fun n hn => not_arrow_of_mem_templateNames hp (hreturns.mem_templateNames n hn)) harrow⟩
    · -- no script that cannot be launched answers with a chain
      refine .inr ⟨fun hw => ?_, i, hlog⟩
      have hlaunch := hw i s₁ _ hanswer
      cases hlaunch

/-- two hooks with one hook in common, of which the second also names the template they are of -/
def returningFile : String :=
  "src -> out \x7b\ntouch out\n\x7d\n" ++ "base \x7b\nout\n\x7d\n" ++ "left (base) \x7b\n\x7d\n" ++
    "right (base, top) \x7b\n\x7d\n" ++ "top (left / right) \x7b\n\x7d\n"

def returning : Program where
  steps := [⟨[⟨"src"⟩], [⟨"out"⟩], [], "touch out\n", 1⟩]
  templates := .ofList [("base", ⟨[], [], ["out"]⟩), ("left", ⟨["base"], [], []⟩),
    ("right", ⟨["base", "top"], [], []⟩), ("top", ⟨["left"], ["right"], []⟩)]

theorem plan_returning : returning.plan "top" =
    [.build "out", .build "out", .fail (.hookCycle ["top", "right", "top"])] := by
  have hbase : ∀ chain, "base" ∉ chain → returning.planIn chain "base" = [.build "out"] := by
    intro chain hc
    rw [returning.planIn_of_some hc rfl]
    rfl
  have hleft : returning.planIn ["top"] "left" = [.build "out"] := by
    rw [returning.planIn_of_some (by decide) rfl]
    simp [hbase]
  have hright : returning.planIn ["top"] "right" =
      [.build "out", .fail (.hookCycle ["top", "right", "top"])] := by
    rw [returning.planIn_of_some (by decide) rfl]
    simp [hbase, returning.planIn_of_mem]
  show returning.planIn [] "top" = _
  rw [returning.planIn_of_some (by decide) rfl]
  simp [hleft, hright]

/-- of hooks that were left before, nothing is in the chain -/
theorem right_returns_to_top : parse returningFile = .ok returning ∧
    ((returning.runTemplate (Recording.world []).logged "top").perform (⟨.empty, []⟩, [])).1 =
      .error (.hookCycle ["top", "right", "top"]) ∧
    returning.Returns "top" ["top", "right", "top"] ∧
    ∃ run, (∀ n, run n = returning.enter (Recording.world []).logged run n) ∧
      ((run "top").perform ((⟨.empty, []⟩, []), [])).1 =
        .error (.hookCycle ["top", "right", "top"]) := by
  have hparse : parse returningFile = .ok returning := rfl
  have hlaunch : (Recording.world []).FaultsByLaunch := by
    intro i s f h
    cases h
  let i : Invocation := ⟨"touch out\n", ["src"], ["out"], .empty⟩
  have hrun : (returning.runTemplate (Recording.world []).logged "top").perform
      (⟨.empty, []⟩, []) = (.error (.hookCycle ["top", "right", "top"]), ⟨.empty, [i, i]⟩,
        [(i, .ok 0), (i, .ok 0)]) := by
    rw [runTemplate_eq_walk, plan_returning]
    rfl
  obtain ⟨hshared, hreturns | hworld⟩ := reported_chain_returns hparse hrun
  · obtain ⟨run, henter⟩ := returning.exists_run (Recording.world []).logged
    exact ⟨hparse, congrArg Prod.fst hrun, hreturns.1, run, henter,
      congrArg Prod.fst (hshared run henter)⟩
  · exact absurd hlaunch hworld.1

end PatternBuild.Program
