import PatternBuild.Proofs.Engine.Jobs
import PatternBuild.Proofs.Pattern.Separated

/-!
# Building what was compiled

A step with one source and one destination pattern can be gone through in both directions.  If the
captures of the destination cannot shift, building the destination of a source runs what compiling
that source runs (`build_inverts_compile`).
-/

namespace PatternBuild

open Action Path Pattern

variable {σ : Type}

/-! ## one step -/

namespace Step

variable {step : Step} {p q : Pattern} {path : String} {e : Entry}

/-- what the only source pattern makes of a path is what the step makes of it -/
theorem compiles?_of_sources (hs : step.sources = [p]) :
    step.compiles? path = p.matches? path := by
  rw [compiles?, hs, List.findSome?_singleton]

theorem builds?_of_destinations (hd : step.destinations = [q]) (dest : String) :
    step.builds? dest = q.matches? dest := by
  rw [builds?, hd, List.findSome?_singleton]

end Step

/-- substituting into one pattern gives one text -/
theorem Pattern.substituteAll_singleton {q : Pattern} {args : Captures} {text : String}
    (h : q.substitute args = .ok text) : substituteAll [q] args = .ok [text] := by
  rw [substituteAll, List.mapM_cons, h]
  rfl

namespace Program

variable {p : Program} {w : World σ} {step : Step}

/-- a program of one step compiles a path by the job of that step -/
theorem compile_singleton {templates : Table String Template} {path : String} {i : Invocation}
    (h : step.job? path = some (.ok i)) :
    (⟨[step], templates⟩ : Program).compile w path = w.execute i := by
  refine perform_ext fun s => ?_
  have hjobs : (⟨[step], templates⟩ : Program).jobs path = [.ok i] :=
    List.filterMap_cons_some h
  rw [perform_compile, hjobs]
  exact thenOn_done _

/-- the first step that builds a path is run for it, once its sources are known -/
theorem build_eq_of_first {before after : List Step} {dest : String} {e : Entry}
    (hp : p.steps = before ++ step :: after) (hfirst : ∀ s ∈ before, s.builds? dest = none)
    (he : step.builds? dest = some e) : p.build w dest =
      ofExcept (substituteAll step.sources e.args) >>= fun sources =>
        runStep w step sources [e.name] e.args := by
  have hbefore : before.findSome? (fun s => (s.builds? dest).map fun e => (s, e)) = none := by
    refine List.findSome?_eq_none_iff.2 fun s hs => ?_
    rw [hfirst s hs]
    rfl
  have hbuilder : p.builder? dest = some (step, e) := by
    rw [builder?, hp, List.findSome?_append, hbefore, Option.none_or, List.findSome?_cons, he]
    rfl
  unfold build
  rw [hbuilder]

/-- the first step that builds a path builds it -/
theorem build_of_first {before after : List Step} {dest : String} {e : Entry}
    {sources : List String} (hp : p.steps = before ++ step :: after)
    (hfirst : ∀ s ∈ before, s.builds? dest = none) (he : step.builds? dest = some e)
    (hsources : substituteAll step.sources e.args = .ok sources) :
    p.build w dest = w.execute ⟨step.body, sources, [e.name], e.args⟩ := by
  rw [build_eq_of_first hp hfirst he, hsources]
  rfl

/-! ## both directions -/

/-- **Building undoes compiling.**  Take a step with one source and one destination pattern, both
without wildcards and with the same captures, where a character that no capture takes stands
between any two captures of the destination.  Compiling a path that its source pattern matches
makes one invocation, for one destination.  If that destination is clean, then building it, in any
program where no earlier step builds it, makes that very invocation and nothing else, whatever the
world. -/
theorem build_inverts_compile (step : Step) (p q : Pattern) (hs : step.sources = [p])
    (hd : step.destinations = [q]) (hp : .wildcard ∉ p.tokens) (hq : .wildcard ∉ q.tokens)
    (hn : ∀ n, n ∈ captureNumbers p.tokens ↔ n ∈ captureNumbers q.tokens)
    (hsep : Separated q.tokens) (path : String) (hm : ∃ e, p.matches? path = some e) :
    ∃ i dest, i.destinations = [dest] ∧ step.job? path = some (.ok i) ∧
      (∀ (templates : Table String Template) (σ : Type) (w : World σ),
        (⟨[step], templates⟩ : Program).compile w path = w.execute i) ∧
      (clean dest = dest → ∀ (program : Program) before after,
        program.steps = before ++ step :: after → (∀ s ∈ before, s.builds? dest = none) →
        ∀ (σ : Type) (w : World σ), program.build w dest = w.execute i) := by
  obtain ⟨e, he⟩ := hm
  have hsuits : Suits e.args q.tokens := by
    have h := suits_of_matches? he
    exact ⟨h.admits, fun n => (h.bound n).trans (hn n)⟩
  obtain ⟨dest, hdest⟩ := exists_substitute hsuits
  have hjob : step.job? path = some (.ok ⟨step.body, [e.name], [dest], e.args⟩) := by
    rw [Step.job?, Step.compiles?_of_sources hs, he, Option.map_some, Step.job, hd,
      substituteAll_singleton hdest]
    rfl
  refine ⟨_, dest, rfl, hjob, fun templates σ w => compile_singleton hjob, ?_⟩
  intro hclean program before after hprogram hfirst σ w
  have hbuilds : step.builds? dest = some ⟨dest, e.args⟩ := by
    rw [Step.builds?_of_destinations hd]
    exact matches?_of_substitute hsep hq hsuits hdest hclean
  have hsources : substituteAll step.sources e.args = .ok [e.name] := by
    rw [hs]
    exact substituteAll_singleton (substitute_of_matches? hp he)
  exact build_of_first hprogram hfirst hbuilds hsources

/-- a step whose captures change places, one of them coming twice -/
def permuted : Step where
  sources := [Pattern.compile "src/$2/$1.c"]
  destinations := [Pattern.compile "out/$1/$2/$1.o"]
  dependencies := []
  body := "cc\n"
  line := 5

/-- steps around it: the first builds other paths, the last would build its destination too -/
def permutedProgram : Program where
  steps := [{ permuted with destinations := [Pattern.compile "out/$1.o"], body := "ld\n" }, permuted,
    { permuted with destinations := [Pattern.compile "out/$1/$2/a.o"], body := "as\n" }]
  templates := .empty

/-- what the step runs for one of its sources -/
def permutedInvocation : Invocation where
  script := "cc\n"
  sources := ["src/lib/a.c"]
  destinations := ["out/a/lib/a.o"]
  args := (Table.empty.insert 1 "a").insert 2 "lib"

/-- a source in another spelling is compiled to a destination, and building that runs the same -/
theorem permuted_round_trip :
    Separated (Pattern.compile "out/$1/$2/$1.o").tokens ∧
    (∃ e, (Pattern.compile "src/$2/$1.c").matches? "./src//lib/a.c" = some e) ∧
    ∀ (σ : Type) (w : World σ),
      (⟨[permuted], .empty⟩ : Program).compile w "./src//lib/a.c" = w.execute permutedInvocation ∧
      permutedProgram.build w "out/a/lib/a.o" = w.execute permutedInvocation := by
  have hnumbers : captureNumbers (Pattern.compile "src/$2/$1.c").tokens = [2, 1] ∧
      captureNumbers (Pattern.compile "out/$1/$2/$1.o").tokens = [1, 2, 1] := by decide
  have hsep : Separated (Pattern.compile "out/$1/$2/$1.o").tokens := by decide
  have hmatch : ∃ e, (Pattern.compile "src/$2/$1.c").matches? "./src//lib/a.c" = some e := ⟨_, rfl⟩
  refine ⟨hsep, hmatch, fun σ w => ?_⟩
  obtain ⟨i, dest, hdest, hjob, hcompile, hbuild⟩ := build_inverts_compile permuted _ _ rfl rfl
    (by decide) (by decide) (by simp [hnumbers, or_comm]) hsep "./src//lib/a.c" hmatch
  have hjob' : permuted.job? "./src//lib/a.c" = some (.ok permutedInvocation) := rfl
  obtain rfl : i = permutedInvocation := by
    rw [hjob] at hjob'
    exact Except.ok.inj (Option.some.inj hjob')
  obtain rfl : "out/a/lib/a.o" = dest := List.head_eq_of_cons_eq hdest
  exact ⟨hcompile .empty σ w, hbuild (by decide) permutedProgram _ _
    (show permutedProgram.steps = [_] ++ permuted :: [_] from rfl) (by decide) σ w⟩

end Program

end PatternBuild
