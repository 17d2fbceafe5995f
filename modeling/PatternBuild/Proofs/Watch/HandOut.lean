import PatternBuild.Proofs.Watch.Debouncer
import PatternBuild.Watch.Watcher

/-!
# What a watcher hands out, told by the signals it received

A run is a list of signals with their times; `AcceptedAt`, `handedOut` and `Awaited` speak of the
signals by number, and of nothing inside the watcher.

* `last?_watcherAt`        a path waits exactly when an event was accepted for it since it was last
                           handed out, and then with the time of the latest;
* `hands_out_changes`      no change is lost, invented or handed out early, and a failure ends the
                           watch with nothing handed out any more.
-/

namespace PatternBuild

/-! ## signals -/

/-- an event is accepted for a path: it is a change, and one of its paths has that name and is not
excluded -/
def WatchOptions.Accepts (o : WatchOptions) (kind : EventKind) (paths : List String)
    (name : String) : Prop :=
  kind.isChange = true ∧ Watch.isExcluded o.excludes name = false ∧
    ∃ path ∈ paths, o.nameOf path = name

theorem WatchOptions.mem_accepted {o : WatchOptions} {kind : EventKind} {paths : List String}
    {name : String} : name ∈ o.accepted kind paths ↔ o.Accepts kind paths name := by
  unfold accepted Accepts
  by_cases hk : kind.isChange = true
  · rw [if_pos hk]
    simp [hk, and_comm]
  · rw [if_neg hk]
    simp [hk]

/-- whether a signal ends the watch -/
def Signal.isEnd : Signal → Bool
  | .closed => true
  | .failure _ => true
  | _ => false

namespace Watcher

variable {o : WatchOptions} {w : Watcher}

/-! ## one signal -/

theorem react_ended {r : Except Fault Unit} (h : w.ended = some r) (now : Nat) (s : Signal) :
    w.react o now s = ([], w) := by
  unfold react
  rw [h]

section
variable (h : w.ended = none) (now : Nat)
include h

theorem react_event (kind : EventKind) (paths : List String) :
    w.react o now (.event kind paths) =
      ([], { w with waiting := (o.accepted kind paths).foldl (·.record · now) w.waiting }) := by
  unfold react
  rw [h]

theorem react_tick : w.react o now .tick =
    ((w.waiting.drainSettled now).1, { w with waiting := (w.waiting.drainSettled now).2 }) := by
  unfold react
  rw [h]

theorem react_closed :
    w.react o now .closed = (w.waiting.drainAll.1, ⟨w.waiting.drainAll.2, some (.ok ())⟩) := by
  unfold react
  rw [h]

theorem react_failure (reason : String) : w.react o now (.failure reason) =
    ([], { w with ended := some (.error (.watch reason)) }) := by
  unfold react
  rw [h]

/-- a signal that does not end the watch leaves it going on -/
theorem ended_react (s : Signal) : (w.react o now s).2.ended = none ↔ s.isEnd = false := by
  cases s with
  | event kind paths => rw [react_event h]; simp [Signal.isEnd, h]
  | tick => rw [react_tick h]; simp [Signal.isEnd, h]
  | closed => rw [react_closed h]; simp [Signal.isEnd]
  | failure reason => rw [react_failure h]; simp [Signal.isEnd]

end

/-- paths are handed out in ascending order -/
theorem ascending_react (now : Nat) (s : Signal) : (w.react o now s).1.Pairwise (· < ·) := by
  cases h : w.ended with
  | some r => rw [react_ended h]; exact .nil
  | none =>
    cases s with
    | event kind paths => rw [react_event h]; exact .nil
    | tick => rw [react_tick h]; exact Debouncer.ascending_drainSettled now
    | closed => rw [react_closed h]; exact Debouncer.ascending_drainAll
    | failure reason => rw [react_failure h]; exact .nil

theorem settle_react (now : Nat) (s : Signal) :
    (w.react o now s).2.waiting.settle = w.waiting.settle := by
  cases h : w.ended with
  | some r => rw [react_ended h]
  | none =>
    cases s with
    | event kind paths => rw [react_event h]; exact Debouncer.settle_foldl_record _ now
    | tick => rw [react_tick h]; exact Debouncer.settle_drainSettled now
    | closed => rw [react_closed h]; rfl
    | failure reason => rw [react_failure h]

/-! ## runs -/

theorem run_append (before after : List (Nat × Signal)) : w.run o (before ++ after) =
    ((w.run o before).1 ++ ((w.run o before).2.run o after).1,
      ((w.run o before).2.run o after).2) := by
  induction before generalizing w with
  | nil => rfl
  | cons e before ih =>
    obtain ⟨now, s⟩ := e
    show ((w.react o now s).1 :: ((w.react o now s).2.run o (before ++ after)).1,
      ((w.react o now s).2.run o (before ++ after)).2) = _
    rw [ih]
    rfl

theorem length_run (signals : List (Nat × Signal)) :
    (w.run o signals).1.length = signals.length := by
  induction signals generalizing w with
  | nil => rfl
  | cons e signals ih => exact congrArg (· + 1) (ih (w := (w.react o e.1 e.2).2))

end Watcher

/-! ## the history -/

namespace Watch

variable (o : WatchOptions) (signals : List (Nat × Signal))

/-- the watcher when it receives signal number `n` -/
def watcherAt (n : Nat) : Watcher := ((Watcher.start o).run o (signals.take n)).2

/-- the paths handed out at signal number `n` -/
def handedOut (n : Nat) : List String := (((Watcher.start o).run o signals).1)[n]?.getD []

/-- signal number `n` is an event accepted for a path, received at the given time -/
def AcceptedAt (n : Nat) (path : String) (time : Nat) : Prop :=
  ∃ kind paths, signals[n]? = some (time, .event kind paths) ∧ o.Accepts kind paths path

/-- none of the first `n` signals ends the watch -/
def OpenUntil (n : Nat) : Prop := ∀ i < n, ∀ e, signals[i]? = some e → e.2.isEnd = false

/-- among the first `n` signals, the latest event accepted for a path was received at the given
time, and the path was not handed out since -/
def Awaited (n : Nat) (path : String) (time : Nat) : Prop :=
  ∃ k < n, AcceptedAt o signals k path time ∧
    ∀ j, k < j → j < n → (∀ t, ¬AcceptedAt o signals j path t) ∧ path ∉ handedOut o signals j

variable {o signals}

/-! ### from signal to signal -/

theorem watcherAt_zero : watcherAt o signals 0 = Watcher.start o := rfl

theorem watcherAt_length : watcherAt o signals signals.length =
    ((Watcher.start o).run o signals).2 := by
  unfold watcherAt
  rw [List.take_length]

section
variable {n now : Nat} {s : Signal}

theorem watcherAt_succ (h : signals[n]? = some (now, s)) :
    watcherAt o signals (n + 1) = ((watcherAt o signals n).react o now s).2 := by
  unfold watcherAt
  rw [List.take_add_one, h, Watcher.run_append]
  rfl

theorem watcherAt_succ_none (h : signals[n]? = none) :
    watcherAt o signals (n + 1) = watcherAt o signals n := by
  unfold watcherAt
  rw [List.take_add_one, h, Option.toList_none, List.append_nil]

theorem handedOut_eq (h : signals[n]? = some (now, s)) :
    handedOut o signals n = ((watcherAt o signals n).react o now s).1 := by
  obtain ⟨hn, he⟩ := List.getElem?_eq_some_iff.1 h
  have hsplit : signals = signals.take n ++ (now, s) :: signals.drop (n + 1) := by
    rw [← he, List.getElem_cons_drop, List.take_append_drop]
  have hlen : ((Watcher.start o).run o (signals.take n)).1.length = n := by
    rw [Watcher.length_run, List.length_take]
    omega
  unfold handedOut
  conv_lhs => rw [hsplit]
  rw [Watcher.run_append, List.getElem?_append_right (by omega), hlen, Nat.sub_self]
  rfl

theorem handedOut_none (h : signals[n]? = none) : handedOut o signals n = [] := by
  have hn : signals.length ≤ n := List.getElem?_eq_none_iff.1 h
  unfold handedOut
  rw [List.getElem?_eq_none_iff.2 (by rw [Watcher.length_run]; exact hn)]
  rfl

end

theorem settle_watcherAt (n : Nat) : (watcherAt o signals n).waiting.settle = o.settle := by
  induction n with
  | zero => rfl
  | succ n ih =>
    cases h : signals[n]? with
    | none => rw [watcherAt_succ_none h, ih]
    | some e => rw [watcherAt_succ h, Watcher.settle_react, ih]

theorem OpenUntil.of_succ {n : Nat} (h : OpenUntil signals (n + 1)) : OpenUntil signals n :=
  fun i hi => h i (by omega)

/-- the watch goes on as long as no signal has ended it -/
theorem ended_watcherAt (n : Nat) :
    (watcherAt o signals n).ended = none ↔ OpenUntil signals n := by
  induction n with
  | zero => simp [watcherAt_zero, Watcher.start, OpenUntil]
  | succ n ih =>
    have hsucc : OpenUntil signals (n + 1) ↔ OpenUntil signals n ∧
        ∀ e, signals[n]? = some e → e.2.isEnd = false := by
      constructor
      · exact fun h => ⟨h.of_succ, h n (by omega)⟩
      · rintro ⟨h1, h2⟩ i hi
        rcases Nat.lt_succ_iff_lt_or_eq.1 hi with hi | rfl
        · exact h1 i hi
        · exact h2
    rw [hsucc, ← ih]
    cases h : signals[n]? with
    | none => simp [watcherAt_succ_none h]
    | some e =>
      obtain ⟨now, s⟩ := e
      rw [watcherAt_succ h]
      cases he : (watcherAt o signals n).ended with
      | none => simp [Watcher.ended_react he]
      | some r => simp [Watcher.react_ended he, he]

/-! ### what is accepted -/

section
variable {n now time : Nat} {path : String}

theorem acceptedAt_event {kind : EventKind} {paths : List String}
    (hs : signals[n]? = some (now, .event kind paths)) :
    AcceptedAt o signals n path time ↔ now = time ∧ path ∈ o.accepted kind paths := by
  unfold AcceptedAt
  rw [hs, WatchOptions.mem_accepted]
  simp only [Option.some.injEq, Prod.mk.injEq, Signal.event.injEq]
  constructor
  · rintro ⟨_, _, ⟨ht, rfl, rfl⟩, ha⟩
    exact ⟨ht, ha⟩
  · rintro ⟨ht, ha⟩
    exact ⟨kind, paths, ⟨ht, rfl, rfl⟩, ha⟩

theorem not_acceptedAt_tick (hs : signals[n]? = some (now, .tick)) :
    ¬AcceptedAt o signals n path time := by
  rintro ⟨_, _, ht, _⟩
  rw [hs] at ht
  cases ht

end

/-! ### what waits -/

theorem awaited_succ {n : Nat} {path : String} {time : Nat} :
    Awaited o signals (n + 1) path time ↔ AcceptedAt o signals n path time ∨
      (Awaited o signals n path time ∧ (∀ t, ¬AcceptedAt o signals n path t) ∧
        path ∉ handedOut o signals n) := by
  constructor
  · rintro ⟨k, hk, ha, hlater⟩
    rcases Nat.lt_succ_iff_lt_or_eq.1 hk with hk | rfl
    · exact .inr ⟨⟨k, hk, ha, fun j hj hjn => hlater j hj (by omega)⟩, hlater n hk (by omega)⟩
    · exact .inl ha
  · rintro (ha | ⟨⟨k, hk, ha, hlater⟩, hn⟩)
    · exact ⟨n, by omega, ha, fun j hj hjn => by omega⟩
    · refine ⟨k, by omega, ha, fun j hj hjn => ?_⟩
      rcases Nat.lt_succ_iff_lt_or_eq.1 hjn with hjn | rfl
      · exact hlater j hj hjn
      · exact hn

/-- **What waits, told by the history.** -/
theorem last?_watcherAt {n : Nat} (h : OpenUntil signals n) (path : String) (time : Nat) :
    (watcherAt o signals n).waiting.last? path = some time ↔ Awaited o signals n path time := by
  induction n generalizing time with
  | zero =>
    rw [watcherAt_zero]
    show (Debouncer.new o.settle).last? path = some time ↔ _
    simp [Debouncer.last?_new, Awaited]
  | succ n ih =>
    have ih := ih h.of_succ
    have hopen : (watcherAt o signals n).ended = none := (ended_watcherAt n).2 h.of_succ
    rw [awaited_succ]
    cases hs : signals[n]? with
    | none => simp [watcherAt_succ_none hs, handedOut_none hs, AcceptedAt, hs, ih]
    | some e =>
      obtain ⟨now, s⟩ := e
      rw [watcherAt_succ hs, handedOut_eq hs]
      cases s with
      | event kind paths =>
        rw [Watcher.react_event hopen, Debouncer.last?_foldl_record]
        simp only [acceptedAt_event hs]
        by_cases hm : path ∈ o.accepted kind paths
        · simp [hm]
        · simp [hm, ih]
      | tick =>
        rw [Watcher.react_tick hopen, Debouncer.last?_drainSettled_eq_some,
          Debouncer.mem_drainSettled, ← ih]
        constructor
        · rintro ⟨hl, hnot⟩
          refine .inr ⟨hl, fun t => not_acceptedAt_tick hs, ?_⟩
          rintro ⟨last, hl', hlt⟩
          rw [hl] at hl'
          cases hl'
          exact hnot hlt
        · rintro (ha | ⟨hl, _, hnot⟩)
          · exact absurd ha (not_acceptedAt_tick hs)
          · exact ⟨hl, fun hlt => hnot ⟨time, hl, hlt⟩⟩
      | closed => exact absurd (h n (by omega) _ hs) (by simp [Signal.isEnd])
      | failure reason => exact absurd (h n (by omega) _ hs) (by simp [Signal.isEnd])

/-! ### what is handed out -/

/-- signal number `n` ends the event stream, and so the watch -/
def ClosedAt (signals : List (Nat × Signal)) (n : Nat) : Prop :=
  OpenUntil signals n ∧ ∃ now, signals[n]? = some (now, .closed)

/-- **What is handed out, told by the history**: by a tick what has been quiet for longer than the
settle time, and by the end of the stream all that waits. -/
theorem mem_handedOut {j : Nat} {path : String} : path ∈ handedOut o signals j ↔
    OpenUntil signals j ∧ ∃ now t, Awaited o signals j path t ∧
      ((signals[j]? = some (now, .tick) ∧ t + o.settle < now) ∨
        signals[j]? = some (now, .closed)) := by
  cases hs : signals[j]? with
  | none => simp [handedOut_none hs]
  | some e =>
    obtain ⟨now, s⟩ := e
    rw [handedOut_eq hs]
    by_cases h : OpenUntil signals j
    · have hopen : (watcherAt o signals j).ended = none := (ended_watcherAt j).2 h
      simp only [h, true_and, ← last?_watcherAt h, Option.some.injEq, Prod.mk.injEq]
      cases s with
      | event kind paths => simp [Watcher.react_event hopen]
      | tick =>
        rw [Watcher.react_tick hopen, Debouncer.mem_drainSettled, settle_watcherAt]
        simp
      | closed =>
        rw [Watcher.react_closed hopen, Debouncer.mem_drainAll]
        simp
      | failure reason => simp [Watcher.react_failure hopen]
    · cases he : (watcherAt o signals j).ended with
      | none => exact absurd ((ended_watcherAt j).1 he) h
      | some r => simp [Watcher.react_ended he, h]

/-- an accepted event is not forgotten before its path is handed out -/
theorem exists_awaited {k n : Nat} {path : String} {time : Nat}
    (ha : AcceptedAt o signals k path time) (hk : k < n)
    (hnone : ∀ j, k < j → j < n → path ∉ handedOut o signals j) :
    ∃ t, Awaited o signals n path t := by
  induction n with
  | zero => omega
  | succ n ih =>
    by_cases hn : ∃ t, AcceptedAt o signals n path t
    · obtain ⟨t, hn⟩ := hn
      exact ⟨t, awaited_succ.2 (.inl hn)⟩
    · have hkn : k < n := by
        rcases Nat.lt_succ_iff_lt_or_eq.1 hk with h | rfl
        · exact h
        · exact absurd ⟨time, ha⟩ hn
      obtain ⟨t, ht⟩ := ih hkn fun j hj hjn => hnone j hj (by omega)
      exact ⟨t, awaited_succ.2 (.inr ⟨ht, fun t' h' => hn ⟨t', h'⟩, hnone n hkn (by omega)⟩)⟩

theorem exists_handedOut {k n : Nat} {path : String} {time : Nat}
    (ha : AcceptedAt o signals k path time) (hk : k < n) (hn : ClosedAt signals n) :
    ∃ j, k < j ∧ j ≤ n ∧ path ∈ handedOut o signals j := by
  by_cases h : ∃ j, k < j ∧ j < n ∧ path ∈ handedOut o signals j
  · obtain ⟨j, hj, hjn, hm⟩ := h
    exact ⟨j, hj, by omega, hm⟩
  · obtain ⟨t, ht⟩ := exists_awaited ha hk fun j hj hjn hm => h ⟨j, hj, hjn, hm⟩
    obtain ⟨hopen, now, hc⟩ := hn
    exact ⟨n, hk, by omega, mem_handedOut.2 ⟨hopen, now, t, ht, .inr hc⟩⟩

/-- an event hands out nothing -/
theorem not_mem_handedOut_of_acceptedAt {k t : Nat} {p path : String}
    (h : AcceptedAt o signals k p t) : path ∉ handedOut o signals k := by
  intro hm
  obtain ⟨_, _, he, _⟩ := h
  obtain ⟨_, now, _, _, ⟨ht, _⟩ | hc⟩ := mem_handedOut.1 hm
  · rw [he] at ht
    cases ht
  · rw [he] at hc
    cases hc

/-- an event is accepted between any two hand-outs of a path -/
theorem acceptedAt_between {i j : Nat} {path : String} (hij : i < j)
    (hi : path ∈ handedOut o signals i) (hj : path ∈ handedOut o signals j) :
    ∃ k t, i < k ∧ k < j ∧ AcceptedAt o signals k path t := by
  obtain ⟨_, _, t, ⟨k, hk, ha, hlater⟩, _⟩ := mem_handedOut.1 hj
  refine ⟨k, t, ?_, hk, ha⟩
  rcases Nat.lt_trichotomy i k with h | rfl | h
  · exact h
  · exact absurd hi (not_mem_handedOut_of_acceptedAt ha)
  · exact absurd hi (hlater i h hij).2

theorem ascending_handedOut (j : Nat) : (handedOut o signals j).Pairwise (· < ·) := by
  cases hs : signals[j]? with
  | none => rw [handedOut_none hs]; exact .nil
  | some e => rw [handedOut_eq hs]; exact Watcher.ascending_react e.1 e.2

/-- no signal hands a path out twice -/
theorem nodup_handedOut (j : Nat) : (handedOut o signals j).Nodup := by
  refine (ascending_handedOut j).imp ?_
  rintro p _ h rfl
  exact Std.lt_irrefl h

/-! ### failures -/

/-- once the watch has ended, its watcher stays as it is -/
theorem watcherAt_of_ended {n m : Nat} {r : Except Fault Unit}
    (h : (watcherAt o signals n).ended = some r) (hm : n ≤ m) :
    watcherAt o signals m = watcherAt o signals n := by
  obtain ⟨d, rfl⟩ := Nat.exists_eq_add_of_le hm
  clear hm
  induction d with
  | zero => rfl
  | succ d ih =>
    rw [← Nat.add_assoc]
    cases hs : signals[n + d]? with
    | none => rw [watcherAt_succ_none hs, ih]
    | some e => rw [watcherAt_succ hs, ih, Watcher.react_ended h]

/-- a failure is what the watch ends with -/
theorem ended_of_failure {n now : Nat} {reason : String} (h : OpenUntil signals n)
    (hs : signals[n]? = some (now, .failure reason)) :
    ((Watcher.start o).run o signals).2.ended = some (.error (.watch reason)) := by
  have hn : n + 1 ≤ signals.length := (List.getElem?_eq_some_iff.1 hs).1
  have hend : (watcherAt o signals (n + 1)).ended = some (.error (.watch reason)) := by
    rw [watcherAt_succ hs, Watcher.react_failure ((ended_watcherAt n).2 h)]
  rw [← watcherAt_length, watcherAt_of_ended hend hn, hend]

theorem handedOut_of_failure {n now : Nat} {reason : String}
    (hs : signals[n]? = some (now, .failure reason)) {j : Nat} (hj : n ≤ j) :
    handedOut o signals j = [] := by
  refine List.eq_nil_iff_forall_not_mem.2 fun q hq => ?_
  obtain ⟨hopen, now', _, _, hsig⟩ := mem_handedOut.1 hq
  rcases Nat.eq_or_lt_of_le hj with rfl | hlt
  · rw [hs] at hsig
    simp at hsig
  · have := hopen n hlt _ hs
    cases this

/-! ### the law of the watch -/

/-- **No change is lost, invented or handed out early.**  For any signals at any times, any path:

* an event accepted for it before the end of the stream is followed by a hand-out, by a tick or at
  the end of the stream;
* before each hand-out, and between any two, an event was accepted for it;
* a tick hands it out only when its latest accepted event lies back by more than the settle time;
* one signal hands out no path twice;
* if the watch fails, that failure is what it ends with, and from then on nothing is handed out. -/
theorem hands_out_changes (o : WatchOptions) (signals : List (Nat × Signal)) (path : String) :
    (∀ k n time, AcceptedAt o signals k path time → k < n → ClosedAt signals n →
      ∃ j, k < j ∧ j ≤ n ∧ path ∈ handedOut o signals j ∧
        ((∃ now, signals[j]? = some (now, .tick)) ∨ j = n)) ∧
    (∀ j, path ∈ handedOut o signals j → ∃ k < j, ∃ t, AcceptedAt o signals k path t) ∧
    (∀ i j, i < j → path ∈ handedOut o signals i → path ∈ handedOut o signals j →
      ∃ k t, i < k ∧ k < j ∧ AcceptedAt o signals k path t) ∧
    (∀ j now, signals[j]? = some (now, .tick) → path ∈ handedOut o signals j →
      ∃ k t, k < j ∧ AcceptedAt o signals k path t ∧
        (∀ i t', k < i → i < j → ¬AcceptedAt o signals i path t') ∧ t + o.settle < now) ∧
    (∀ j, (handedOut o signals j).Nodup) ∧
    (∀ n now reason, OpenUntil signals n → signals[n]? = some (now, .failure reason) →
      ((Watcher.start o).run o signals).2.ended = some (.error (.watch reason)) ∧
        ∀ j, n ≤ j → handedOut o signals j = []) := by
  refine ⟨?lost, ?invented, ?between, ?early, ?twice, ?failure⟩
  case lost =>
    intro k n time ha hk hn
    obtain ⟨j, hj, hjn, hm⟩ := exists_handedOut ha hk hn
    refine ⟨j, hj, hjn, hm, ?_⟩
    obtain ⟨_, now, t, _, ⟨ht, _⟩ | hc⟩ := mem_handedOut.1 hm
    · exact .inl ⟨now, ht⟩
    · refine .inr (Nat.le_antisymm hjn (Nat.le_of_not_lt fun hlt => ?_))
      have := hn.1 j hlt _ hc
      cases this
  case invented =>
    intro j hm
    obtain ⟨_, _, t, ⟨k, hk, ha, _⟩, _⟩ := mem_handedOut.1 hm
    exact ⟨k, hk, t, ha⟩
  case between => exact fun i j hij hi hj => acceptedAt_between hij hi hj
  case early =>
    intro j now hs hm
    obtain ⟨_, now', t, ⟨k, hk, ha, hlater⟩, ⟨ht, hlt⟩ | hc⟩ := mem_handedOut.1 hm
    · rw [hs] at ht
      cases ht
      exact ⟨k, t, hk, ha, fun i t' hi hij => (hlater i hi hij).1 t', hlt⟩
    · rw [hs] at hc
      cases hc
  case twice => exact nodup_handedOut
  case failure =>
    exact fun n now reason h hs => ⟨ended_of_failure h hs, fun j hj => handedOut_of_failure hs hj⟩

end Watch

end PatternBuild
