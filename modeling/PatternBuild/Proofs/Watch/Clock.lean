import PatternBuild.Proofs.Watch.Timing
import PatternBuild.Watch.Session

/-!
# The clock of a session

A session receives what was sent to it when time passes next, and ticks as they fall due.  So its
watcher hears a clock: the ticks come at 0, one period, two periods and so on, and besides them it
receives the signals that were sent, in order, each at the time it was sent
(`WatchSession.hears_clock`).
-/

namespace PatternBuild

open Watch

variable {σ : Type}

/-- what is done with a session -/
inductive SessionCall where
  | send (signal : Signal)
  | advance (ms : Nat)
  deriving DecidableEq

/-- the signals sent by calls that start at the given time, with the times of their sending -/
def SessionCall.sent (now : Nat) : List SessionCall → List (Nat × Signal)
  | [] => []
  | .send signal :: calls => (now, signal) :: sent now calls
  | .advance ms :: calls => sent (now + ms) calls

namespace WatchSession

variable (p : Program) (w : World σ) (o : WatchOptions)

def call (s : WatchSession σ) : SessionCall → WatchSession σ
  | .send signal => s.send signal
  | .advance ms => s.advance p w o ms

/-- the signals that the watcher of a session has received, with those sent to it so far; the ones
still waiting are to be received at the time of the session -/
structure Heard (s : WatchSession σ) (waiting : List Signal) (signals sent : List (Nat × Signal)) :
    Prop where
  watcher : s.watcher = ((Watcher.start o).run o signals).2
  ordered : signals.Pairwise fun a b => a.1 ≤ b.1
  within : ∀ e ∈ signals, e.1 ≤ s.now
  ticks : ∃ n, tickTimes signals = (List.range n).map (o.tick * ·) ∧ s.nextTick = o.tick * n
  due : s.now ≤ s.nextTick
  calm : .tick ∉ waiting
  sent : signals.filter (fun e => e.2 ≠ .tick) ++ waiting.map (s.now, ·) = sent

variable {p w o} {s : WatchSession σ} {waiting : List Signal}
  {signals sent : List (Nat × Signal)}

/-! ## one signal -/

theorem heard_start (state : σ) : Heard o (.start o state) [] [] [] where
  watcher := rfl
  ordered := .nil
  within _ h := absurd h List.not_mem_nil
  ticks := ⟨0, rfl, rfl⟩
  due := Nat.le_refl 0
  calm := List.not_mem_nil
  sent := rfl

theorem run_snoc (now : Nat) (signal : Signal) :
    ((Watcher.start o).run o (signals ++ [(now, signal)])).2 =
      (((Watcher.start o).run o signals).2.react o now signal).2 := by
  rw [Watcher.run_append]
  rfl

theorem ordered_snoc (h : Heard o s waiting signals sent) {now : Nat} (hnow : s.now ≤ now)
    (signal : Signal) : (signals ++ [(now, signal)]).Pairwise fun a b => a.1 ≤ b.1 := by
  refine List.pairwise_append.2 ⟨h.ordered, List.pairwise_singleton .., fun a ha b hb => ?_⟩
  rw [List.mem_singleton.1 hb]
  exact Nat.le_trans (h.within a ha) hnow

theorem within_snoc (h : Heard o s waiting signals sent) {now : Nat} (hnow : s.now ≤ now)
    (signal : Signal) : ∀ e ∈ signals ++ [(now, signal)], e.1 ≤ now := by
  intro e he
  rcases List.mem_append.1 he with he | he
  · exact Nat.le_trans (h.within e he) hnow
  · exact Nat.le_of_eq (congrArg Prod.fst (List.mem_singleton.1 he))

theorem tickTimes_snoc (now : Nat) (signal : Signal) : tickTimes (signals ++ [(now, signal)]) =
    tickTimes signals ++ (tickTime? (now, signal)).toList := by
  unfold tickTimes
  rw [List.filterMap_append]
  cases signal <;> rfl

/-- a waiting signal is received -/
theorem Heard.snoc {signal : Signal} (h : Heard o s (signal :: waiting) signals sent) :
    Heard o (s.receive p w o signal) waiting (signals ++ [(s.now, signal)]) sent := by
  obtain ⟨hne, hcalm⟩ := List.ne_and_not_mem_of_not_mem_cons h.calm
  obtain ⟨n, hticks, hnext⟩ := h.ticks
  refine ⟨?_, ordered_snoc h (Nat.le_refl _) signal, within_snoc h (Nat.le_refl _) signal,
    ⟨n, ?_, hnext⟩, h.due, hcalm, ?_⟩
  · rw [run_snoc, ← h.watcher]
    rfl
  · have hnone : tickTime? (s.now, signal) = none := by
      rw [Option.eq_none_iff_forall_ne_some]
      intro time ht
      exact hne (Prod.mk.inj (tickTime?_eq_some_iff.1 ht)).2.symm
    rw [tickTimes_snoc, hticks, hnone, Option.toList_none, List.append_nil]
  · have hkept : [(s.now, signal)].filter (fun e => e.2 ≠ .tick) = [(s.now, signal)] := by
      simp [Ne.symm hne]
    rw [← h.sent, List.filter_append, hkept, List.append_assoc]
    rfl

/-- a tick is received when it is due -/
theorem Heard.tick (h : Heard o s [] signals sent) :
    Heard o (s.ticks p w o 1) [] (signals ++ [(s.nextTick, .tick)]) sent := by
  obtain ⟨n, hticks, hnext⟩ := h.ticks
  refine ⟨?_, ordered_snoc h h.due .tick, within_snoc h h.due .tick, ⟨n + 1, ?_, ?_⟩,
    Nat.le_add_right s.nextTick o.tick, List.not_mem_nil, ?_⟩
  · rw [run_snoc, ← h.watcher]
    rfl
  · rw [tickTimes_snoc, hticks, List.range_succ, List.map_append, hnext]
    rfl
  · show s.nextTick + o.tick = o.tick * (n + 1)
    rw [hnext, Nat.mul_succ]
  · rw [← h.sent, List.filter_append]
    exact List.append_nil _

/-! ## passing time -/

theorem ticks_succ (n : Nat) (s : WatchSession σ) :
    s.ticks p w o (n + 1) = (s.ticks p w o 1).ticks p w o n := rfl

theorem Heard.receiveAll (h : Heard o s waiting signals sent) :
    ∃ signals', Heard o (waiting.foldl (receive p w o) s) [] signals' sent ∧
      (waiting.foldl (receive p w o) s).now = s.now ∧
      (waiting.foldl (receive p w o) s).queue = s.queue := by
  induction waiting generalizing s signals with
  | nil => exact ⟨signals, h, rfl, rfl⟩
  | cons signal waiting ih => exact ih h.snoc

theorem Heard.ticks_all (h : Heard o s [] signals sent) (n : Nat) :
    ∃ signals', Heard o (s.ticks p w o n) [] signals' sent ∧
      (s.ticks p w o n).nextTick = s.nextTick + n * o.tick ∧
      (s.ticks p w o n).queue = s.queue := by
  induction n generalizing s signals with
  | zero =>
    refine ⟨signals, h, ?_, rfl⟩
    rw [Nat.zero_mul]
    rfl
  | succ n ih =>
    obtain ⟨signals', h', hnext, hqueue⟩ := ih (h.tick (p := p) (w := w))
    refine ⟨signals', h', ?_, hqueue⟩
    rw [ticks_succ, hnext]
    show s.nextTick + o.tick + n * o.tick = _
    rw [Nat.succ_mul]
    omega

theorem now_ticks_le {time : Nat} (n : Nat) (h : s.now ≤ time)
    (hticks : ∀ m < n, s.nextTick + m * o.tick ≤ time) : (s.ticks p w o n).now ≤ time := by
  induction n generalizing s with
  | zero => exact h
  | succ n ih =>
    rw [ticks_succ]
    refine ih ?_ fun m hm => ?_
    · have hfirst := hticks 0 (Nat.succ_pos n)
      rwa [Nat.zero_mul] at hfirst
    · have hnext := hticks (m + 1) (Nat.succ_lt_succ hm)
      rw [Nat.succ_mul] at hnext
      show s.nextTick + o.tick + m * o.tick ≤ time
      omega

/-- the ticks that are due come up to the time, and no further one does -/
theorem ticksDue_spec (hpos : 0 < o.tick) (s : WatchSession σ) (time : Nat) :
    (∀ m < s.ticksDue o time, s.nextTick + m * o.tick ≤ time) ∧
      time < s.nextTick + s.ticksDue o time * o.tick := by
  unfold ticksDue
  split
  · rename_i hle
    have hlt := Nat.lt_mul_div_succ (time - s.nextTick) hpos
    rw [Nat.mul_comm] at hlt
    refine ⟨fun m hm => ?_, by omega⟩
    have hm' := (Nat.le_div_iff_mul_le hpos).1 (Nat.lt_succ_iff.1 hm)
    omega
  · rename_i hlt
    refine ⟨fun m hm => absurd hm (Nat.not_lt_zero m), ?_⟩
    rw [Nat.zero_mul]
    exact Nat.lt_of_not_le hlt

/-- time passes: what was sent is received, and then the ticks that are due -/
theorem Heard.advance (hpos : 0 < o.tick) (h : Heard o s s.queue signals sent) (ms : Nat) :
    ∃ signals', Heard o (s.advance p w o ms) [] signals' sent ∧
      (s.advance p w o ms).queue = [] ∧ (s.advance p w o ms).now = s.now + ms ∧
      (s.advance p w o ms).now < (s.advance p w o ms).nextTick := by
  have hstart : Heard o { s with queue := [] } s.queue signals sent :=
    ⟨h.watcher, h.ordered, h.within, h.ticks, h.due, h.calm, h.sent⟩
  obtain ⟨_, hreceived, hnow, hqueue⟩ := hstart.receiveAll (p := p) (w := w)
  have hadvance : s.advance p w o ms = { (receiveQueued p w o s).ticks p w o
      ((receiveQueued p w o s).ticksDue o ((receiveQueued p w o s).now + ms)) with
    now := (receiveQueued p w o s).now + ms } := rfl
  change Heard o (receiveQueued p w o s) [] _ sent at hreceived
  change (receiveQueued p w o s).now = s.now at hnow
  change (receiveQueued p w o s).queue = [] at hqueue
  generalize receiveQueued p w o s = r at hadvance hreceived hnow hqueue
  obtain ⟨hdue, hlater⟩ := ticksDue_spec hpos r (r.now + ms)
  obtain ⟨signals', hticked, hnext, hqueue'⟩ :=
    hreceived.ticks_all (p := p) (w := w) (r.ticksDue o (r.now + ms))
  have hle := now_ticks_le (p := p) (w := w) _ (Nat.le_add_right r.now ms) hdue
  rw [← hnext] at hlater
  rw [hadvance]
  refine ⟨signals', ⟨hticked.watcher, hticked.ordered,
    fun e he => Nat.le_trans (hticked.within e he) hle, hticked.ticks, Nat.le_of_lt hlater,
    hticked.calm, hticked.sent⟩, hqueue'.trans hqueue, ?_, hlater⟩
  show r.now + ms = s.now + ms
  rw [hnow]

/-! ## all calls -/

theorem Heard.send (h : Heard o s s.queue signals sent) {signal : Signal} (hne : signal ≠ .tick) :
    Heard o (s.send signal) (s.send signal).queue signals (sent ++ [(s.now, signal)]) := by
  refine ⟨h.watcher, h.ordered, h.within, h.ticks, h.due, ?_, ?_⟩
  · show .tick ∉ s.queue ++ [signal]
    rw [List.mem_append, List.mem_singleton, not_or]
    exact ⟨h.calm, Ne.symm hne⟩
  · show _ ++ (s.queue ++ [signal]).map (s.now, ·) = _
    rw [List.map_append, ← List.append_assoc, h.sent]
    rfl

theorem Heard.calls (hpos : 0 < o.tick) (h : Heard o s s.queue signals sent)
    {calls : List SessionCall} (hcalls : .send .tick ∉ calls) :
    ∃ signals', Heard o (calls.foldl (call p w o) s) (calls.foldl (call p w o) s).queue signals'
      (sent ++ SessionCall.sent s.now calls) := by
  induction calls generalizing s signals sent with
  | nil =>
    refine ⟨signals, ?_⟩
    show Heard o s s.queue signals (sent ++ [])
    rwa [List.append_nil]
  | cons c calls ih =>
    obtain ⟨hc, hlater⟩ := List.ne_and_not_mem_of_not_mem_cons hcalls
    cases c with
    | send signal =>
      have hne : signal ≠ .tick := fun he => hc (by rw [he])
      obtain ⟨signals', h'⟩ := ih (h.send hne) hlater
      refine ⟨signals', ?_⟩
      rw [List.append_assoc] at h'
      exact h'
    | advance ms =>
      obtain ⟨_, h', hqueue, hnow, _⟩ := h.advance (p := p) (w := w) hpos ms
      rw [← hqueue] at h'
      have hrest := ih h' hlater
      rw [hnow] at hrest
      exact hrest

/-- signals received up to a time before the next tick are those of a clock -/
theorem Heard.clocked (h : Heard o s waiting signals sent) (hdue : s.now < s.nextTick) :
    Clocked o.tick s.now signals := by
  obtain ⟨n, hticks, hnext⟩ := h.ticks
  rw [hnext] at hdue
  obtain ⟨m, rfl⟩ : ∃ m, n = m + 1 := Nat.exists_eq_succ_of_ne_zero fun hn => by
    rw [hn, Nat.mul_zero] at hdue
    exact Nat.not_lt_zero _ hdue
  have hlast : o.tick * m ≤ s.now := by
    have hm : o.tick * m ∈ tickTimes signals := by
      rw [hticks]
      exact List.mem_map.2 ⟨m, List.mem_range.2 (Nat.lt_succ_self m), rfl⟩
    exact h.within _ (mem_tickTimes.1 hm)
  have hquotient : s.now / o.tick = m :=
    Nat.div_eq_of_lt_le (by rwa [Nat.mul_comm]) (by rwa [Nat.mul_comm])
  exact ⟨h.ordered, h.within, by rw [hquotient, hticks]⟩

/-- **The watcher of a session hears a clock.**  Once time has passed, it has received the ticks of
all multiples of the period up to now and, besides, the signals that were sent, each at the time it
was sent. -/
theorem hears_clock (hpos : 0 < o.tick) (state : σ) (calls : List SessionCall)
    (hcalls : .send .tick ∉ calls) (ms : Nat) :
    ∃ signals, Clocked o.tick
        ((calls.foldl (call p w o) (start o state)).advance p w o ms).now signals ∧
      ((calls.foldl (call p w o) (start o state)).advance p w o ms).watcher =
        ((Watcher.start o).run o signals).2 ∧
      signals.filter (fun e => e.2 ≠ .tick) = SessionCall.sent 0 calls := by
  obtain ⟨_, h⟩ := (heard_start (o := o) state).calls (p := p) (w := w) hpos hcalls
  obtain ⟨signals, h', _, _, hdue⟩ := h.advance (p := p) (w := w) hpos ms
  have hsent := h'.sent
  rw [List.map_nil, List.append_nil] at hsent
  exact ⟨signals, h'.clocked hdue, h'.watcher, hsent⟩

end WatchSession

end PatternBuild
