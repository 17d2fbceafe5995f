import Mathlib
import PatternBuild.Proofs.Watch.Hashes
import PatternBuild.Proofs.Watch.Replay

/-!
# Dispatches at the same time

A pool holds errands that are under way at the same time and share a world and the content hashes.
One errand moves at a time: it asks about its content, or has its next invocation run, or ends.
Which errand moves next is left open, so a run of a pool is any interleaving of the dispatches.

* `Pool.Sound.step`                     every move leaves an errand where it can stand alone;
* `runs_dispatchAll`                    dispatching paths one after the other is one of the runs;
* `Program.dispatch_order_irrelevant`   in a steady world all runs end alike.
-/

namespace PatternBuild

open Path

variable {σ : Type}

/-! ## errands under way -/

/-- how far an errand has come -/
inductive Progress where
  /-- its content has not been asked about yet -/
  | waiting
  /-- its dispatch is going on, with the replies to the invocations made so far -/
  | running (replies : List (Except Fault Int))
  /-- its dispatch has ended, or it was skipped -/
  | ended (report : Option DispatchReport)

def Progress.isStarted : Progress → Bool
  | .waiting => false
  | _ => true

def Progress.isEnded : Progress → Bool
  | .ended _ => true
  | _ => false

/-- an errand and how far it has come -/
structure Ongoing where
  errand : Errand
  progress : Progress

/-- one move of an errand, with the content hashes and the state of the world; a dispatch that is
going on is taken up by replaying it to where it stopped -/
def Ongoing.move (p : Program) (w : World σ) (t : Ongoing) (hashes : ContentHashes) (s : σ) :
    Progress × ContentHashes × σ :=
  match t.progress with
  | .waiting =>
    let (go, hashes) := hashes.guard (w.files s) t.errand
    (if go then .running [] else .ended none, hashes, s)
  | .running replies =>
    let (report, replay) := p.dispatch (Replay.world (w.files s)) t.errand.path ⟨replies, none⟩
    match replay.asked with
    | some i =>
      let (reply, s) := (w.execute i).perform s
      (.running (replies ++ [reply]), hashes, s)
    | none => (.ended (some report), hashes, s)
  | .ended report => (.ended report, hashes, s)

/-- errands under way, and what they share -/
structure Pool (σ : Type) where
  tasks : List Ongoing
  hashes : ContentHashes
  state : σ

namespace Pool

/-- all errands waiting -/
def start (errands : List Errand) (hashes : ContentHashes) (s : σ) : Pool σ :=
  ⟨errands.map (⟨·, .waiting⟩), hashes, s⟩

/-- one of the errands that have not ended moves -/
inductive Step (p : Program) (w : World σ) : Pool σ → Pool σ → Prop
  | move (before after : List Ongoing) (t : Ongoing) (hashes : ContentHashes) (s : σ)
    (h : t.progress.isEnded = false) :
    Step p w ⟨before ++ t :: after, hashes, s⟩
      ⟨before ++ ⟨t.errand, (t.move p w hashes s).1⟩ :: after, (t.move p w hashes s).2.1,
        (t.move p w hashes s).2.2⟩

/-- errands move in some order -/
def Runs (p : Program) (w : World σ) : Pool σ → Pool σ → Prop := Relation.ReflTransGen (Step p w)

def Finished (pool : Pool σ) : Prop := ∀ t ∈ pool.tasks, t.progress.isEnded = true

end Pool

/-! ## moves in a steady world -/

section Moves

variable {p : Program} {w : World σ} {fs : FileSystem} {answer : Invocation → Except Fault Int}
  {I : σ → Prop} {hashes : ContentHashes} {s : σ} {e : Errand}

/-- a dispatch after its first `k` invocations -/
def Errand.after (p : Program) (fs : FileSystem) (answer : Invocation → Except Fault Int)
    (e : Errand) (k : Nat) : Ongoing :=
  ⟨e, .running (((p.settled fs answer e.path).2.take k).map answer)⟩

variable (hw : w.Steady fs answer I) (hs : I s)
include hw hs

theorem move_waiting : (Ongoing.mk e .waiting).move p w hashes s =
    (if (hashes.guard fs e).1 then .running [] else .ended none, (hashes.guard fs e).2, s) := by
  unfold Ongoing.move
  rw [hw.files s hs]

/-- a dispatch that has not come to its end makes its next invocation -/
theorem move_after {k : Nat} {i : Invocation} (hi : (p.settled fs answer e.path).2[k]? = some i) :
    (e.after p fs answer k).move p w hashes s =
      ((e.after p fs answer (k + 1)).progress, hashes, ((w.execute i).perform s).2) := by
  obtain ⟨hk, _⟩ := List.getElem?_eq_some_iff.1 hi
  have hasked := (p.dispatch_replay fs answer e.path (Nat.le_of_lt hk)).1
  unfold Ongoing.move Errand.after
  dsimp only
  rw [hw.files s hs, hasked, hi]
  dsimp only
  rw [hw.answers s i hs, List.take_add_one, hi]
  simp

/-- a dispatch with all replies ends -/
theorem move_last : (e.after p fs answer (p.settled fs answer e.path).2.length).move p w hashes s =
    (.ended (some (p.settled fs answer e.path).1), hashes, s) := by
  obtain ⟨hasked, hreport⟩ := p.dispatch_replay fs answer e.path (Nat.le_refl _)
  unfold Ongoing.move Errand.after
  dsimp only
  rw [hw.files s hs, hasked, List.getElem?_eq_none (Nat.le_refl _), hreport rfl]

end Moves

/-! ## what every run keeps -/

/-- where an errand can stand that was started with the content hashes `h` -/
inductive Ongoing.Sound (p : Program) (fs : FileSystem) (answer : Invocation → Except Fault Int)
    (h : ContentHashes) : Ongoing → Prop
  | waiting (e : Errand) : Sound p fs answer h ⟨e, .waiting⟩
  | running (e : Errand) (hgo : (h.guard fs e).1 = true) (k : Nat)
    (hk : k ≤ (p.settled fs answer e.path).2.length) : Sound p fs answer h (e.after p fs answer k)
  | skipped (e : Errand) (hgo : (h.guard fs e).1 = false) : Sound p fs answer h ⟨e, .ended none⟩
  | dispatched (e : Errand) (hgo : (h.guard fs e).1 = true) :
    Sound p fs answer h ⟨e, .ended (some (p.settled fs answer e.path).1)⟩

/-- the log of the invocations that an errand has made so far -/
def Ongoing.log (p : Program) (fs : FileSystem) (answer : Invocation → Except Fault Int)
    (t : Ongoing) : List LogEntry :=
  let made := (p.settled fs answer t.errand.path).2
  match t.progress with
  | .running replies => (made.take replies.length).map fun i => (i, answer i)
  | .ended (some _) => made.map fun i => (i, answer i)
  | _ => []

theorem log_after (p : Program) (fs : FileSystem) (answer : Invocation → Except Fault Int)
    (e : Errand) {k : Nat} (hk : k ≤ (p.settled fs answer e.path).2.length) :
    (e.after p fs answer k).log p fs answer =
      ((p.settled fs answer e.path).2.take k).map fun i => (i, answer i) := by
  have hlength : (((p.settled fs answer e.path).2.take k).map answer).length = k := by
    rw [List.length_map, List.length_take_of_le hk]
  simp only [Errand.after, Ongoing.log, hlength]

namespace Pool

/-- the errands of a pool that have asked about their content -/
def started (tasks : List Ongoing) : List Errand :=
  (tasks.filter (·.progress.isStarted)).map (·.errand)

theorem started_middle {t : Ongoing} (ht : t.progress.isStarted = true)
    (before after : List Ongoing) :
    started (before ++ t :: after) = started before ++ t.errand :: started after := by
  simp only [started, List.filter_append, List.filter_cons, if_pos ht, List.map_append,
    List.map_cons]

theorem started_middle_of_waiting (e : Errand) (before after : List Ongoing) :
    started (before ++ ⟨e, .waiting⟩ :: after) = started before ++ started after := by
  simp [started, Progress.isStarted]

/-- every errand stands where it can, its invocations are logged, and the content hashes are those
of the errands started -/
structure Sound (p : Program) (fs : FileSystem) (answer : Invocation → Except Fault Int)
    (I : σ → Prop) (h : ContentHashes) (order : List Errand) (pool : Pool (σ × List LogEntry)) :
    Prop where
  tasks : ∀ t ∈ pool.tasks, t.Sound p fs answer h
  errands : pool.tasks.map (·.errand) = order
  hashes : pool.hashes = h.marks fs (started pool.tasks)
  state : I pool.state.1
  log : pool.state.2.Perm (pool.tasks.flatMap (·.log p fs answer))

variable {p : Program} {w : World σ} {fs : FileSystem} {answer : Invocation → Except Fault Int}
  {I : σ → Prop} {h hashes : ContentHashes} {s : σ} {log : List LogEntry} {e : Errand}
  {order : List Errand} {before after : List Ongoing} {t t' : Ongoing}
  {pool pool' : Pool (σ × List LogEntry)}

theorem sound_start (order : List Errand) (hs : I s) :
    (start order h (s, [])).Sound p fs answer I h order where
  tasks := by
    intro t ht
    obtain ⟨e, _, rfl⟩ := List.mem_map.1 ht
    exact .waiting e
  errands := by
    rw [start, List.map_map]
    exact List.map_id order
  hashes := by
    have hnone : started (order.map fun e => ⟨e, .waiting⟩) = [] := by
      simp [started, Progress.isStarted]
    rw [start, hnone]
    rfl
  state := hs
  log := by
    have hnone : (order.map fun e => Ongoing.mk e .waiting).flatMap (·.log p fs answer) = [] := by
      simp [Ongoing.log]
    rw [start, hnone]

/-- only the errand that moves can spoil a pool -/
theorem Sound.replace {log' more : List LogEntry} {s' : σ} {hashes' : ContentHashes}
    (hpool : Sound p fs answer I h order ⟨before ++ t :: after, hashes, (s, log)⟩)
    (he : t'.errand = t.errand) (ht' : t'.Sound p fs answer h)
    (hhashes : hashes' = h.marks fs (started (before ++ t' :: after))) (hs' : I s')
    (hlog : t'.log p fs answer = t.log p fs answer ++ more) (hlog' : log' = log ++ more) :
    Sound p fs answer I h order ⟨before ++ t' :: after, hashes', (s', log')⟩ where
  tasks := by
    intro u hu
    rcases List.mem_append.1 hu with hu | hu
    · exact hpool.tasks u (List.mem_append_left _ hu)
    · rcases List.mem_cons.1 hu with rfl | hu
      · exact ht'
      · exact hpool.tasks u (List.mem_append_right _ (List.mem_cons_of_mem _ hu))
  errands := by
    have herrands := hpool.errands
    simp only [List.map_append, List.map_cons, he] at herrands ⊢
    exact herrands
  hashes := hhashes
  state := hs'
  log := by
    have hold := hpool.log
    simp only [List.flatMap_append, List.flatMap_cons] at hold ⊢
    rw [hlog, hlog']
    refine (hold.append_right more).trans ?_
    simp only [List.append_assoc]
    exact ((List.perm_append_comm).append_left _).append_left _

/-- an errand that has not started finds its content as it was at the start, and its mark comes to
those of the others -/
theorem Sound.guard (hapart : ContentHashes.Apart order)
    (hpool : Sound p fs answer I h order ⟨before ++ ⟨e, .waiting⟩ :: after, hashes, (s, log)⟩)
    {next : Progress} (hnext : next.isStarted = true) :
    (hashes.guard fs e).1 = (h.guard fs e).1 ∧
      (hashes.guard fs e).2 = h.marks fs (started (before ++ ⟨e, next⟩ :: after)) := by
  have hhashes : hashes = h.marks fs (started before ++ started after) := by
    rw [← started_middle_of_waiting e]
    exact hpool.hashes
  have hstarted := started_middle (t := ⟨e, next⟩) hnext before after
  have hapart : ContentHashes.Apart (started before ++ e :: started after) := by
    have hsub : (started before ++ e :: started after).Sublist order := by
      rw [← hpool.errands, List.map_append, List.map_cons]
      exact (List.filter_sublist.map _).append ((List.filter_sublist.map _).cons_cons e)
    exact hapart.sublist (hsub.map _)
  have hother : ∀ e' ∈ started before ++ started after, plain e'.path ≠ plain e.path := by
    have hnodup := hapart
    rw [ContentHashes.Apart, List.map_append, List.map_cons, List.nodup_middle, List.nodup_cons,
      ← List.map_append] at hnodup
    exact fun e' he' heq => hnodup.1 (heq ▸ List.mem_map_of_mem he')
  rw [hhashes, hstarted]
  refine ⟨ContentHashes.guard_marks hother, ?_⟩
  have hperm : (started before ++ e :: started after).Perm
      (started before ++ started after ++ [e]) :=
    List.perm_middle.trans (List.perm_append_singleton _ _).symm
  rw [ContentHashes.marks_perm hperm hapart]
  exact (ContentHashes.marks_append h fs _ [e]).symm

/-- a move leaves a pool sound -/
theorem Sound.step (hw : w.Steady fs answer I) (hapart : ContentHashes.Apart order)
    (hpool : pool.Sound p fs answer I h order) (hstep : Step p w.logged pool pool') :
    pool'.Sound p fs answer I h order := by
  cases hstep with
  | move before after t hashes s hend =>
    obtain ⟨s, log⟩ := s
    have hs : I s := hpool.state
    cases hpool.tasks t (List.mem_append_right _ List.mem_cons_self) with
    | waiting e =>
      rw [move_waiting hw.logged hs]
      by_cases hgo : (hashes.guard fs e).1 = true
      · obtain ⟨hsame, hmarks⟩ := hpool.guard hapart (show (Progress.running []).isStarted = true from rfl)
        rw [if_pos hgo]
        exact hpool.replace rfl (.running e (hsame ▸ hgo) 0 (Nat.zero_le _)) hmarks hs
          (List.append_nil _).symm (List.append_nil log).symm
      · obtain ⟨hsame, hmarks⟩ := hpool.guard hapart (show (Progress.ended none).isStarted = true from rfl)
        rw [if_neg hgo]
        exact hpool.replace rfl (.skipped e (hsame ▸ eq_false_of_ne_true hgo)) hmarks hs
          (List.append_nil _).symm (List.append_nil log).symm
    | running e hgo k hk =>
      have hmarks : ∀ next : Progress, next.isStarted = true →
          hashes = h.marks fs (started (before ++ ⟨e, next⟩ :: after)) := by
        intro next hnext
        have hsame : started (before ++ ⟨e, next⟩ :: after) =
            started (before ++ e.after p fs answer k :: after) :=
          (started_middle (t := ⟨e, next⟩) hnext before after).trans
            (started_middle (t := e.after p fs answer k) rfl before after).symm
        rw [hsame]
        exact hpool.hashes
      rcases Nat.lt_or_eq_of_le hk with hlt | rfl
      · have hi := List.getElem?_eq_getElem hlt
        rw [move_after hw.logged hs hi]
        have hlog : (e.after p fs answer (k + 1)).log p fs answer =
            (e.after p fs answer k).log p fs answer ++
              [((p.settled fs answer e.path).2[k], answer (p.settled fs answer e.path).2[k])] := by
          rw [log_after p fs answer e hlt, log_after p fs answer e hk, List.take_add_one, hi,
            List.map_append]
          rfl
        have hmade := hw.after_logged [(p.settled fs answer e.path).2[k]] log hs
        exact hpool.replace rfl (.running e hgo (k + 1) hlt) (hmarks _ rfl) (hw.keeps s _ hs) hlog
          (congrArg Prod.snd hmade)
      · rw [move_last hw.logged hs]
        have hlog := log_after p fs answer e hk
        rw [List.take_length] at hlog
        exact hpool.replace rfl (.dispatched e hgo) (hmarks _ rfl) hs
          (by rw [hlog, List.append_nil]; rfl) (List.append_nil log).symm
    | skipped e => cases hend
    | dispatched e => cases hend

/-- so every run leaves a pool sound -/
theorem Sound.runs (hw : w.Steady fs answer I) (hapart : ContentHashes.Apart order)
    (hpool : pool.Sound p fs answer I h order) (hruns : Runs p w.logged pool pool') :
    pool'.Sound p fs answer I h order := by
  induction hruns with
  | refl => exact hpool
  | tail _ hstep ih => exact ih.step hw hapart hstep

end Pool

/-! ## coming to an end -/

section Ends

variable {p : Program} {w : World σ} {fs : FileSystem} {answer : Invocation → Except Fault Int}
  {I : σ → Prop} {s : σ} (hw : w.Steady fs answer I) (hs : I s) (hashes : ContentHashes)
include hw hs

/-- dispatching alone: the guard first, and then the dispatch as it is settled -/
theorem dispatchIfChanged_eq (e : Errand) : p.dispatchIfChanged w e.guarded e.path hashes s =
    if (hashes.guard fs e).1 then
      (some (p.settled fs answer e.path).1, (hashes.guard fs e).2,
        w.after (p.settled fs answer e.path).2 s)
    else (none, (hashes.guard fs e).2, s) := by
  unfold Program.dispatchIfChanged ContentHashes.guard
  rw [hw.files s hs, p.dispatch_eq hw hs]
  split
  · rfl
  · rfl

theorem keeps_dispatchIfChanged (e : Errand) :
    I (p.dispatchIfChanged w e.guarded e.path hashes s).2.2 := by
  rw [dispatchIfChanged_eq hw hs]
  split
  · exact hw.after _ hs
  · exact hs

/-- a dispatch that is going on can come to its end without the others -/
theorem runs_after {e : Errand} {k : Nat} (hk : k ≤ (p.settled fs answer e.path).2.length)
    (before after : List Ongoing) :
    Pool.Runs p w ⟨before ++ e.after p fs answer k :: after, hashes, s⟩
      ⟨before ++ ⟨e, .ended (some (p.settled fs answer e.path).1)⟩ :: after, hashes,
        w.after ((p.settled fs answer e.path).2.drop k) s⟩ := by
  induction hn : (p.settled fs answer e.path).2.length - k generalizing k s with
  | zero =>
    obtain rfl : k = (p.settled fs answer e.path).2.length := by omega
    have hstep := Pool.Step.move (p := p) (w := w) before after
      (e.after p fs answer (p.settled fs answer e.path).2.length) hashes s rfl
    rw [move_last hw hs] at hstep
    rw [List.drop_length]
    exact .single hstep
  | succ n ih =>
    have hlt : k < (p.settled fs answer e.path).2.length := by omega
    have hi := List.getElem?_eq_getElem hlt
    have hstep := Pool.Step.move (p := p) (w := w) before after (e.after p fs answer k) hashes s rfl
    rw [move_after hw hs hi] at hstep
    rw [List.drop_eq_getElem_cons hlt]
    exact .head hstep (ih (hw.keeps s _ hs) hlt (by omega))

/-- an errand can go from its start to its end without the others, and ends as alone -/
theorem runs_errand (e : Errand) (before after : List Ongoing) :
    Pool.Runs p w ⟨before ++ ⟨e, .waiting⟩ :: after, hashes, s⟩
      ⟨before ++ ⟨e, .ended (p.dispatchIfChanged w e.guarded e.path hashes s).1⟩ :: after,
        (p.dispatchIfChanged w e.guarded e.path hashes s).2.1,
        (p.dispatchIfChanged w e.guarded e.path hashes s).2.2⟩ := by
  have hstep := Pool.Step.move (p := p) (w := w) before after ⟨e, .waiting⟩ hashes s rfl
  rw [move_waiting hw hs] at hstep
  rw [dispatchIfChanged_eq hw hs]
  by_cases hgo : (hashes.guard fs e).1 = true
  · rw [if_pos hgo] at hstep ⊢
    exact .head hstep (runs_after hw hs _ (k := 0) (Nat.zero_le _) before after)
  · rw [if_neg hgo] at hstep ⊢
    exact .single hstep

/-- errands wherever they stand can all come to their ends -/
theorem exists_finished {h : ContentHashes} (before : List Ongoing) {after : List Ongoing}
    (htasks : ∀ t ∈ after, t.Sound p fs answer h) :
    ∃ final hashes' s', Pool.Runs p w ⟨before ++ after, hashes, s⟩ ⟨before ++ final, hashes', s'⟩ ∧
      ∀ t ∈ final, t.progress.isEnded = true := by
  induction after generalizing before hashes s with
  | nil => exact ⟨[], hashes, s, .refl, fun _ ht => absurd ht List.not_mem_nil⟩
  | cons t after ih =>
    obtain ⟨ht, hafter⟩ := List.forall_mem_cons.1 htasks
    -- the first one comes to its end, and then the others
    have hfirst : ∃ r hashes' s', I s' ∧ Pool.Runs p w ⟨before ++ t :: after, hashes, s⟩
        ⟨before ++ ⟨t.errand, .ended r⟩ :: after, hashes', s'⟩ := by
      cases ht with
      | waiting e =>
        exact ⟨_, _, _, keeps_dispatchIfChanged hw hs hashes e, runs_errand hw hs hashes e _ _⟩
      | running e hgo k hk => exact ⟨_, _, _, hw.after _ hs, runs_after hw hs hashes hk _ _⟩
      | skipped e => exact ⟨_, _, _, hs, .refl⟩
      | dispatched e => exact ⟨_, _, _, hs, .refl⟩
    obtain ⟨r, hashes', s', hs', hrun⟩ := hfirst
    obtain ⟨final, hashes'', s'', hruns, hended⟩ :=
      ih hs' hashes' (before ++ [⟨t.errand, .ended r⟩]) hafter
    rw [List.append_assoc, List.append_assoc] at hruns
    exact ⟨⟨t.errand, .ended r⟩ :: final, hashes'', s'', hrun.trans hruns,
      List.forall_mem_cons.2 ⟨rfl, hended⟩⟩

/-- dispatching paths one after the other is one of the runs -/
theorem runs_dispatchAll (before : List Ongoing) (paths : List String) (guarded : Bool) :
    Pool.Runs p w ⟨before ++ paths.map (fun path => ⟨⟨path, guarded⟩, .waiting⟩), hashes, s⟩
      ⟨before ++ (paths.zip (p.dispatchAll w guarded paths hashes s).1).map
          (fun (path, report) => ⟨⟨path, guarded⟩, .ended report⟩),
        (p.dispatchAll w guarded paths hashes s).2.1,
        (p.dispatchAll w guarded paths hashes s).2.2⟩ := by
  induction paths generalizing before hashes s with
  | nil => exact .refl
  | cons path paths ih =>
    have hfirst := runs_errand (p := p) hw hs hashes ⟨path, guarded⟩ before
      (paths.map fun path => ⟨⟨path, guarded⟩, .waiting⟩)
    have hkeep := keeps_dispatchIfChanged (p := p) hw hs hashes ⟨path, guarded⟩
    unfold Program.dispatchAll
    generalize p.dispatchIfChanged w guarded path hashes s = first at *
    obtain ⟨report, hashes', s'⟩ := first
    have hrest := ih hkeep hashes' (before ++ [⟨⟨path, guarded⟩, .ended report⟩])
    rw [List.append_assoc, List.append_assoc] at hrest
    exact hfirst.trans hrest

end Ends

/-! ## the order of dispatches -/

namespace Pool.Sound

variable {p : Program} {w : World σ} {fs : FileSystem} {answer : Invocation → Except Fault Int}
  {I : σ → Prop} {h : ContentHashes} {s : σ} {order : List Errand}
  {pool : Pool (σ × List LogEntry)}

/-- an errand that has ended has ended as alone, and so has its log -/
theorem ended_eq (hw : w.Steady fs answer I) (hs : I s) {t : Ongoing} (ht : t.Sound p fs answer h)
    (hend : t.progress.isEnded = true) :
    t = ⟨t.errand, .ended
        (p.dispatchIfChanged w.logged t.errand.guarded t.errand.path h (s, [])).1⟩ ∧
      t.log p fs answer =
        (p.dispatchIfChanged w.logged t.errand.guarded t.errand.path h (s, [])).2.2.2 := by
  rw [dispatchIfChanged_eq hw.logged hs]
  cases ht with
  | waiting e => cases hend
  | running e hgo k hk => cases hend
  | skipped e hgo =>
    rw [if_neg (by rw [hgo]; exact Bool.false_ne_true)]
    exact ⟨rfl, rfl⟩
  | dispatched e hgo =>
    rw [if_pos hgo]
    refine ⟨rfl, ?_⟩
    rw [hw.after_logged _ _ hs]
    rfl

/-- when all errands of a sound pool have ended, they have ended as alone, the log is made of theirs,
and the content hashes are those of all of them -/
theorem finished_eq (hw : w.Steady fs answer I) (hs : I s) (hpool : pool.Sound p fs answer I h order)
    (hend : pool.Finished) :
    pool.tasks = order.map (fun e => ⟨e, .ended
        (p.dispatchIfChanged w.logged e.guarded e.path h (s, [])).1⟩) ∧
      pool.state.2.Perm (order.flatMap fun e =>
        (p.dispatchIfChanged w.logged e.guarded e.path h (s, [])).2.2.2) ∧
      pool.hashes = h.marks fs order := by
  have hended := fun t ht => ended_eq hw hs (hpool.tasks t ht) (hend t ht)
  have hstarted : Pool.started pool.tasks = order := by
    rw [Pool.started, List.filter_eq_self.2, hpool.errands]
    intro t ht
    cases hp : t.progress with
    | waiting =>
      have hwaiting := hend t ht
      rw [hp] at hwaiting
      cases hwaiting
    | running replies => rfl
    | ended report => rfl
  refine ⟨?_, hpool.log.trans (List.Perm.of_eq ?_), by rw [hpool.hashes, hstarted]⟩
  · rw [← hpool.errands, List.map_map]
    exact (List.map_id pool.tasks).symm.trans (List.map_congr_left fun t ht => (hended t ht).1)
  · rw [← hpool.errands, List.flatMap_map]
    exact List.flatMap_congr fun t ht => (hended t ht).2

end Pool.Sound

/-- **The order of dispatches does not matter.**  Let the files stay as they are and every
invocation have its answer, and let errands to different clean paths share the content hashes and
the world.  Started in any order, and with their guards and invocations interleaved in any way, they
can always come to their ends, and when they have, every errand has the report that it has alone, or
is skipped if it is skipped alone; the invocations are those that the errands make alone, each as
often; and the content hashes are those of dispatching one errand after the other. -/
theorem Program.dispatch_order_irrelevant (p : Program) (w : World σ) (fs : FileSystem)
    (answer : Invocation → Except Fault Int) (I : σ → Prop) (hw : w.Steady fs answer I)
    (hashes : ContentHashes) (s : σ) (hs : I s) (errands : List Errand)
    (hclean : ∀ e ∈ errands, clean e.path = e.path) (hdistinct : (errands.map (·.path)).Nodup)
    (order : List Errand) (horder : order.Perm errands) (pool : Pool (σ × List LogEntry))
    (hruns : Pool.Runs p w.logged (.start order hashes (s, [])) pool) :
    (∃ final, Pool.Runs p w.logged pool final ∧ final.Finished) ∧
      (pool.Finished →
        pool.tasks = order.map (fun e => ⟨e, .ended
            (p.dispatchIfChanged w.logged e.guarded e.path hashes (s, [])).1⟩) ∧
          pool.state.2.Perm (errands.flatMap fun e =>
            (p.dispatchIfChanged w.logged e.guarded e.path hashes (s, [])).2.2.2) ∧
          pool.hashes = errands.foldl
            (fun h e => (p.dispatchIfChanged w e.guarded e.path h s).2.1) hashes) := by
  have hapart : ContentHashes.Apart order :=
    ((horder.map _).nodup_iff).2 (ContentHashes.apart_of_clean hclean hdistinct)
  have hpool := (Pool.sound_start order hs).runs hw hapart hruns
  constructor
  · obtain ⟨final, hashes', s', hfinal, hended⟩ :=
      exists_finished hw.logged hpool.state pool.hashes [] hpool.tasks
    exact ⟨⟨final, hashes', s'⟩, hfinal, hended⟩
  · intro hend
    obtain ⟨htasks, hlog, hhashes⟩ := hpool.finished_eq hw hs hend
    refine ⟨htasks, hlog.trans (horder.flatMap_right _), ?_⟩
    rw [hhashes, ContentHashes.marks_perm horder hapart, ContentHashes.marks]
    congr 1
    funext h e
    rw [dispatchIfChanged_eq hw hs]
    split
    · rfl
    · rfl

/-- a world that runs nothing is steady while its tree stays -/
theorem steady_recording (tree : Tree) : (Recording.world []).Steady tree.fileSystem
    (fun _ => .ok 0) (fun s => s.tree = tree) where
  files _ hs := congrArg Tree.fileSystem hs
  answers _ _ _ := rfl
  keeps _ _ hs := hs

/-- a source whose content is asked about, and a dependency -/
def changedErrands : List Errand := [⟨"src/a.c", true⟩, ⟨"inc/x.h", false⟩]

/-- started the other way round, both end with the reports they have alone -/
theorem changed_errands_reversed : ∃ final, Pool.Runs ⟨[Program.overlapping], .empty⟩
      (Recording.world []).logged
      (.start changedErrands.reverse .empty (⟨Program.overlappingFiles, []⟩, [])) final ∧
    final.Finished ∧ final.tasks =
      [⟨⟨"inc/x.h", false⟩, .ended (some
          ⟨"inc/x.h", .nothingToDo, .failed (.missingCapture "out/$1.o" 1)⟩)⟩,
        ⟨⟨"src/a.c", true⟩, .ended (some ⟨"src/a.c", .ran 0, .nothingToDo⟩)⟩] := by
  have horder := Program.dispatch_order_irrelevant ⟨[Program.overlapping], .empty⟩
    (Recording.world []) _ _ _ (steady_recording Program.overlappingFiles) .empty
    ⟨Program.overlappingFiles, []⟩ rfl changedErrands (by decide) (by decide)
    changedErrands.reverse (List.reverse_perm _)
  obtain ⟨⟨final, hruns, hend⟩, _⟩ := horder _ .refl
  refine ⟨final, hruns, hend, ?_⟩
  rw [((horder final hruns).2 hend).1]
  cbv

end PatternBuild
