import PatternBuild.Engine.Recording
import PatternBuild.Proofs.Engine.Dependents
import PatternBuild.Proofs.Engine.Logged
import PatternBuild.Proofs.Engine.Resolution
import PatternBuild.Watch.Session

/-!
# What the report of a dispatch tells

The log of a dispatch holds what its first half did and then what its second half did, and each is
reported by that (`Reports`): nothing applied and nothing was run, or invocations were made and the
last of them had the code reported, or the half broke off (`Program.dispatch_reports`).
-/

namespace PatternBuild

open Path

variable {σ : Type}

/-! ## true reports -/

/-- what an outcome tells of one half: whether something applies to the path, the invocations made,
and what they led to -/
structure Reports (applies : Prop) (made : List LogEntry) (result : Except Fault Int)
    (o : DispatchOutcome) : Prop where
  nothing : o = .nothingToDo ↔ ¬applies
  idle : o = .nothingToDo → made = []
  ran : ∀ c, o = .ran c → EndsWith made (.ok c)
  failed : ∀ f, o = .failed f ↔ EndsWith made (.error f) ∨ (f.IsMissing ∧ result = .error f)

namespace Reports

variable {applies : Prop} {made : List LogEntry} {result : Except Fault Int}

/-- that nothing applies is reported as such -/
theorem of_idle (h : ¬applies) (path : String) : Reports applies []
    (.error (.noMatchingStep path)) (.ofResult (.error (.noMatchingStep path))) where
  nothing := ⟨fun _ => h, fun _ => rfl⟩
  idle _ := rfl
  ran := nofun
  failed f := by
    refine ⟨nofun, ?_⟩
    rintro (⟨before, i, he, _⟩ | ⟨⟨text, n, rfl⟩, he⟩)
    · simp at he
    · cases he

/-- faults of launching and missing captures are no sign that nothing applies -/
theorem ofResult_error {f : Fault} (hf : f.isLaunch = true ∨ f.IsMissing) :
    DispatchOutcome.ofResult (.error f) = .failed f := by
  rcases hf with hf | ⟨text, n, rfl⟩
  · cases f with
    | spawn _ _ => rfl
    | noExitStatus _ => rfl
    | _ => cases hf
  · rfl

theorem of_failed {f : Fault} (h : applies) (hf : f.isLaunch = true ∨ f.IsMissing)
    (hend : EndsWith made (.error f) ∨ f.IsMissing)
    (hlast : ∀ f', EndsWith made (.error f') → f' = f) :
    Reports applies made (.error f) (.ofResult (.error f)) := by
  rw [ofResult_error hf]
  refine ⟨⟨nofun, fun hn => absurd h hn⟩, nofun, nofun, fun f' => ⟨?_, ?_⟩⟩
  · rintro ⟨⟩
    exact hend.imp_right fun hmissing => ⟨hmissing, rfl⟩
  · rintro (hend | ⟨_, he⟩)
    · rw [hlast f' hend]
    · rw [Except.error.inj he]

/-- where something applies the report tells how it ended -/
theorem of_concluded (h : applies) (hend : Concluded made result) :
    Reports applies made result (.ofResult result) := by
  cases hend with
  | missing hzeros hf =>
    refine of_failed h (.inr hf) (.inr hf) fun f' => ?_
    rintro ⟨before, i, rfl, _⟩
    cases hzeros (i, .error f') (List.mem_append_right _ List.mem_cons_self)
  | last hlast hlaunch =>
    cases result with
    | error f =>
      exact of_failed h (.inl (hlaunch f rfl)) (.inl hlast) fun f' hf' =>
        Except.error.inj (hf'.unique hlast)
    | ok code =>
      refine ⟨⟨nofun, fun hn => absurd h hn⟩, nofun, ?_, fun f => ⟨nofun, ?_⟩⟩
      · rintro c ⟨⟩
        exact hlast
      · rintro (hf | ⟨_, hf⟩)
        · cases hf.unique hlast
        · cases hf

end Reports

namespace Program

variable {p : Program} {w : World σ} {path : String} {s : σ} {t : Tree}

/-! ## what applies -/

/-- a source pattern of a step matches a path -/
def Applies (p : Program) (path : String) : Prop :=
  ∃ step ∈ p.steps, ∃ q ∈ step.sources, ∃ e, q.matches? path = some e

/-- a step with a dependency pattern that matches a path finds a source -/
def AppliesByDependency (p : Program) (fs : FileSystem) (path : String) : Prop :=
  ∃ step ∈ p.steps, (∃ q ∈ step.dependencies, ∃ e, q.matches? path = some e) ∧
    ∃ found, step.findSources fs = .ok found ∧ found ≠ []

theorem jobs_ne_nil_iff : p.jobs path ≠ [] ↔ p.Applies path := by
  rw [ne_eq, jobs_eq_nil_iff]
  simp only [Applies, Option.eq_none_iff_forall_ne_some, not_forall, not_not, exists_prop]

theorem mem_dependents {step : Step} : step ∈ p.dependents path ↔
    step ∈ p.steps ∧ ∃ q ∈ step.dependencies, ∃ e, q.matches? path = some e := by
  have hclean : ∀ q : Pattern, q.matches? (clean path) = q.matches? path :=
    fun _ => Pattern.matches?_congr (clean_clean path)
  rw [dependents, List.mem_filter, Step.dependsOn, List.any_eq_true]
  simp only [hclean, Option.isSome_iff_exists]

theorem appliesByDependency_iff :
    p.AppliesByDependency t.fileSystem path ↔
      ¬∀ step ∈ p.dependents path, step.turn t.fileSystem = [] := by
  simp only [not_forall, Step.turn_eq_nil_iff, AppliesByDependency]
  constructor
  · rintro ⟨step, hstep, hdepends, found, hfound, hne⟩
    refine ⟨step, mem_dependents.2 ⟨hstep, hdepends⟩, fun hnone => hne ?_⟩
    exact Except.ok.inj (hfound.symm.trans hnone)
  · rintro ⟨step, hstep, hnone⟩
    obtain ⟨found, hfound⟩ := step.exists_found t
    obtain ⟨hstep, hdepends⟩ := mem_dependents.1 hstep
    refine ⟨step, hstep, hdepends, found, hfound, fun hnil => hnone ?_⟩
    rw [hfound, hnil]

/-! ## the two halves -/

/-- compiling a path is reported as it ended -/
theorem exists_logs_compile (hw : w.FaultsByLaunch) (p : Program) (path : String) (s : σ) :
    ∃ made, Logs made (fun log => (p.compile w.logged path).perform (s, log))
        ((p.compile w path).perform s) ∧
      Reports (p.Applies path) made ((p.compile w path).perform s).1
        (.ofResult ((p.compile w path).perform s).1) := by
  have hmissing : ∀ f, .error f ∈ p.jobs path → f.IsMissing := by
    intro f hf
    obtain ⟨step, _, hjob⟩ := List.mem_filterMap.1 hf
    obtain ⟨q, _, n, rfl⟩ := Step.missingCapture_of_job? hjob
    exact ⟨q.text, n, rfl⟩
  have hrun := p.perform_compile w path s
  have hrun' := fun log => p.perform_compile w.logged path (s, log)
  by_cases hidle : (p.jobs path).isEmpty = true
  · have hnone : ¬p.Applies path := by
      rw [← jobs_ne_nil_iff]
      exact not_not.2 (List.isEmpty_iff.1 hidle)
    rw [hrun.trans (if_pos hidle)]
    refine ⟨[], fun log => ?_, .of_idle hnone path⟩
    rw [List.append_nil]
    exact (hrun' log).trans (if_pos hidle)
  · have hbusy : p.jobs path ≠ [] := fun he => hidle (List.isEmpty_iff.2 he)
    obtain ⟨made, hlogs, hend⟩ := World.exists_logs_runJobs hw hmissing s
    rw [hrun.trans (if_neg hidle)]
    refine ⟨made, fun log => ((hrun' log).trans (if_neg hidle)).trans (hlogs log), ?_⟩
    exact .of_concluded (jobs_ne_nil_iff.1 hbusy) (hend.resolve_left fun h => hbusy h.1)

/-- and so is recompiling what depends on it -/
theorem exists_logs_compileDependents {tree : σ → Tree}
    (hfiles : ∀ s, w.files s = (tree s).fileSystem) (hw : w.FaultsByLaunch) (p : Program)
    (path : String) (s : σ) :
    ∃ made, Logs made (fun log => (p.compileDependents w.logged path).perform (s, log))
        ((p.compileDependents w path).perform s) ∧
      Reports (p.AppliesByDependency (tree s).fileSystem path) made
        ((p.compileDependents w path).perform s).1
        (.ofResult ((p.compileDependents w path).perform s).1) := by
  have hmissing : ∀ step ∈ p.dependents path, ∀ s f,
      .error f ∈ step.turn (w.files s) → f.IsMissing := by
    intro step _ s f hf
    obtain ⟨found, hfound⟩ := step.exists_found (tree s)
    rw [hfiles, Step.turn_of_ok hfound] at hf
    obtain ⟨e, _, hjob⟩ := List.mem_map.1 hf
    obtain ⟨q, _, n, rfl⟩ := Step.missingCapture_of_job hjob
    exact ⟨q.text, n, rfl⟩
  rw [appliesByDependency_iff, ← hfiles]
  by_cases hidle : ∀ step ∈ p.dependents path, step.turn (w.files s) = []
  · rw [perform_compileDependents_of_idle hidle]
    refine ⟨[], fun log => ?_, .of_idle (not_not.2 hidle) (clean path)⟩
    rw [List.append_nil]
    exact perform_compileDependents_of_idle hidle
  · obtain ⟨made, hlogs, hend⟩ := World.exists_logs_runTurns hw hmissing s
    rw [perform_compileDependents_of_busy hidle]
    refine ⟨made, fun log => ?_, .of_concluded hidle (hend.resolve_left fun h => hidle h.1)⟩
    have hrun := perform_compileDependents_of_busy (w := w.logged) (s := (s, log)) hidle
    exact hrun.trans (hlogs log)

/-- **The halves of a dispatch are independent and truly reported.**  Over files in memory, and
where invocations can only fail to launch, a dispatch makes the invocations of compiling the path
and then those of recompiling what depends on it, which starts in the state that the first half
leaves, however that ended.  Each half is reported with nothing to do if and only if nothing applies
in it, and then it makes no invocation; with a code only if that is the code of the last invocation
that it makes, after code 0; and as failed if and only if its last invocation failed to launch or it
ended with a missing capture. -/
theorem dispatch_reports (p : Program) (path : String) (σ : Type) (w : World σ) (tree : σ → Tree)
    (hfiles : ∀ s, w.files s = (tree s).fileSystem) (hw : w.FaultsByLaunch) (s : σ) :
    ∃ r s₁ made r' s₂ made' o o',
      (p.compile w.logged path).perform (s, []) = (r, s₁, made) ∧
      (p.compileDependents w.logged path).perform (s₁, []) = (r', s₂, made') ∧
      p.dispatch w path s = (⟨path, o, o'⟩, s₂) ∧
      p.dispatch w.logged path (s, []) = (⟨path, o, o'⟩, s₂, made ++ made') ∧
      Reports (p.Applies path) made r o ∧
      Reports (p.AppliesByDependency (tree s₁).fileSystem path) made' r' o' := by
  obtain ⟨made, hlogs, hreports⟩ := exists_logs_compile hw p path s
  rcases hc : (p.compile w path).perform s with ⟨r, s₁⟩
  rw [hc] at hlogs hreports
  obtain ⟨made', hlogs', hreports'⟩ := exists_logs_compileDependents hfiles hw p path s₁
  rcases hd : (p.compileDependents w path).perform s₁ with ⟨r', s₂⟩
  rw [hd] at hlogs' hreports'
  refine ⟨r, s₁, made, r', s₂, made', .ofResult r, .ofResult r', hlogs [], hlogs' [], ?_, ?_,
    hreports, hreports'⟩
  · simp only [dispatch, hc, hd]
  · have hfirst : (p.compile w.logged path).perform (s, []) = (r, s₁, made) := hlogs []
    have hsecond : (p.compileDependents w.logged path).perform (s₁, made) =
        (r', s₂, made ++ made') := hlogs' made
    simp only [dispatch, hfirst, hsecond]

/-- a recording fails by launching if its rules refuse nothing otherwise -/
theorem faultsByLaunch_recording {rules : Recording.Rules}
    (h : ∀ r ∈ rules, ∀ f, r.2 = .refuse f → f.isLaunch = true) :
    (Recording.world rules).FaultsByLaunch := by
  intro i s f hf
  have hreply : Recording.reply rules i.script = .refuse f := by
    unfold Recording.world Recording.execute at hf
    cases hr : Recording.reply rules i.script with
    | exit code =>
      simp only [hr] at hf
      cases hf
    | refuse fault =>
      simp only [hr] at hf
      cases hf
      rfl
  unfold Recording.reply at hreply
  split at hreply
  · rename_i hfind
    exact h _ (List.mem_of_find?_eq_some hfind) f hreply
  · cases hreply

/-- a step that links libraries, and links them anew when a source changes -/
def linker : Step where
  sources := [Pattern.compile "lib/$1.l"]
  destinations := [Pattern.compile "bin/$1"]
  dependencies := [Pattern.compile "src/*.c"]
  body := "ld\n"
  line := 4

/-- a step that compiles sources, and the linker -/
def linking : Program where
  steps := [⟨[Pattern.compile "src/$1.c"], [Pattern.compile "out/$1.o"], [], "cc\n", 1⟩, linker]
  templates := .empty

/-- the compiler cannot be started, and the linker fails -/
def linkingWorld : World Recording :=
  Recording.world [("cc", .refuse (.spawn "sh" "not found")), ("ld", .exit 3)]

def linkingFiles : Tree := Tree.empty.addFile "lib/x.l" []

theorem linker_turn : linker.turn linkingFiles.fileSystem =
    [.ok ⟨"ld\n", ["lib/x.l"], ["bin/x"], Table.empty.insert 1 "x"⟩] := by
  have hdir : linkingFiles.fileSystem.isDir (Pattern.compile "lib/$1.l").walkRoot = true := by
    decide
  have hpaths : Pattern.pathsBelow linkingFiles.fileSystem
      ((Pattern.compile "lib/$1.l").walkDepth - 1) (Pattern.compile "lib/$1.l").walkRoot =
      .ok ["lib/x.l"] := rfl
  have hentry : (Pattern.compile "lib/$1.l").candidate? "lib/x.l" =
      some ⟨"lib/x.l", Table.empty.insert 1 "x"⟩ :=
    (Pattern.candidate?_eq _ _).trans (by decide)
  have hlisted : (Pattern.compile "lib/$1.l").enumerate linkingFiles.fileSystem =
      .ok [⟨"lib/x.l", Table.empty.insert 1 "x"⟩] := by
    rw [Pattern.enumerate, if_pos hdir, hpaths]
    show Except.ok (Pattern.sortEntries (["lib/x.l"].filterMap _)) = _
    rw [List.filterMap_cons_some hentry, List.filterMap_nil, Pattern.sortEntries,
      List.mergeSort_singleton]
  have hsources : linker.sources.mapM (·.enumerate linkingFiles.fileSystem) =
      .ok [[⟨"lib/x.l", Table.empty.insert 1 "x"⟩]] := mapM_eq_ok_iff.2 (.cons hlisted .nil)
  have hfound : linker.findSources linkingFiles.fileSystem =
      .ok [⟨"lib/x.l", Table.empty.insert 1 "x"⟩] := by
    unfold Step.findSources
    rw [hsources]
    rfl
  rw [Step.turn_of_ok hfound]
  rfl

/-- a compiler that cannot be started does not keep the linker from running -/
theorem linking_dispatched : (∀ s, linkingWorld.files s = s.tree.fileSystem) ∧
    linkingWorld.FaultsByLaunch ∧
    ∃ s made made', linking.dispatch linkingWorld.logged "src/a.c" (⟨linkingFiles, []⟩, []) =
        (⟨"src/a.c", .failed (.spawn "sh" "not found"), .ran 3⟩, s, made ++ made') ∧
      EndsWith made (.error (.spawn "sh" "not found")) ∧ EndsWith made' (.ok 3) := by
  have hfiles : ∀ s, linkingWorld.files s = s.tree.fileSystem := fun _ => rfl
  have hlaunch : linkingWorld.FaultsByLaunch := by
    refine faultsByLaunch_recording fun r hr f hf => ?_
    simp only [List.mem_cons, List.not_mem_nil, or_false] at hr
    rcases hr with rfl | rfl
    · cases hf
      rfl
    · cases hf
  obtain ⟨r, s₁, made, r', s₂, made', o, o', -, -, hplain, hlogged, hcompile, hdependents⟩ :=
    dispatch_reports linking "src/a.c" Recording linkingWorld Recording.tree hfiles hlaunch
      ⟨linkingFiles, []⟩
  have hfirst : (linking.compile linkingWorld "src/a.c").perform ⟨linkingFiles, []⟩ =
      (.error (.spawn "sh" "not found"), ⟨linkingFiles,
        [⟨"cc\n", ["src/a.c"], ["out/a.o"], Table.empty.insert 1 "a"⟩]⟩) := by
    rfl
  have hdepends : linking.dependents "src/a.c" = [linker] := by decide
  have hsecond : ∀ ran, ((linking.compileDependents linkingWorld "src/a.c").perform
      ⟨linkingFiles, ran⟩).1 = .ok 3 := by
    intro ran
    have hturn : linker.turn (linkingWorld.files ⟨linkingFiles, ran⟩) = _ := linker_turn
    rw [perform_compileDependents_of_busy (by simp [hdepends, hturn]), hdepends,
      World.runTurns_cons, hturn]
    rfl
  have hreport := (congrArg Prod.fst hplain).symm
  simp only [dispatch, hfirst, hsecond] at hreport
  obtain ⟨_, rfl, rfl⟩ := DispatchReport.mk.inj hreport
  refine ⟨hfiles, hlaunch, s₂, made, made', hlogged, ?_, hdependents.ran 3 rfl⟩
  refine ((hcompile.failed _).1 rfl).resolve_right ?_
  rintro ⟨⟨text, n, he⟩, _⟩
  cases he

end Program

end PatternBuild
