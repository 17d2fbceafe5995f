import PatternBuild.Proofs.Watch.HandOut

/-!
# When a changed path is handed out

Ticks come at 0, one period, two periods and so on (`Clocked`).  A path that changed last at `time`
is quiet from the first tick strictly later than `time + settle` on, which comes at `dueTime`, and
that tick is the one that hands it out (`handed_out_when_due`).
-/

namespace PatternBuild

/-- the time of the first tick at which a path that changed last at `time` is quiet -/
def WatchOptions.dueTime (o : WatchOptions) (time : Nat) : Nat :=
  o.tick * ((time + o.settle) / o.tick + 1)

namespace Watch

/-! ## the clock -/

/-- the time of a tick -/
def tickTime? : Nat × Signal → Option Nat
  | (time, .tick) => some time
  | _ => none

/-- the times of the ticks, in order -/
def tickTimes (signals : List (Nat × Signal)) : List Nat := signals.filterMap tickTime?

/-- the signals of a clock with the given period, up to a time: times do not go back, and ticks come
at 0, one period, two periods and so on, once each -/
structure Clocked (period horizon : Nat) (signals : List (Nat × Signal)) : Prop where
  ordered : signals.Pairwise fun a b => a.1 ≤ b.1
  within : ∀ e ∈ signals, e.1 ≤ horizon
  ticks : tickTimes signals = (List.range (horizon / period + 1)).map (period * ·)

theorem tickTime?_eq_some_iff {e : Nat × Signal} {time : Nat} :
    tickTime? e = some time ↔ e = (time, .tick) := by
  obtain ⟨now, s⟩ := e
  cases s <;> simp [tickTime?]

theorem mem_tickTimes {signals : List (Nat × Signal)} {time : Nat} :
    time ∈ tickTimes signals ↔ (time, .tick) ∈ signals := by
  simp [tickTimes, tickTime?_eq_some_iff]

theorem rel_of_pairwise {α : Type} {R : α → α → Prop} {l : List α} (h : l.Pairwise R) {i j : Nat}
    {a b : α} (hij : i < j) (hi : l[i]? = some a) (hj : l[j]? = some b) : R a b := by
  obtain ⟨hil, rfl⟩ := List.getElem?_eq_some_iff.1 hi
  obtain ⟨hjl, rfl⟩ := List.getElem?_eq_some_iff.1 hj
  exact List.pairwise_iff_getElem.1 h i j hil hjl hij

namespace Clocked

variable {period horizon : Nat} {signals : List (Nat × Signal)} (h : Clocked period horizon signals)
include h

theorem le_of_lt {i j : Nat} {e e' : Nat × Signal} (hij : i < j) (hi : signals[i]? = some e)
    (hj : signals[j]? = some e') : e.1 ≤ e'.1 := rel_of_pairwise h.ordered hij hi hj

theorem lt_of_lt {i j : Nat} {e e' : Nat × Signal} (hlt : e.1 < e'.1) (hi : signals[i]? = some e)
    (hj : signals[j]? = some e') : i < j := by
  rcases Nat.lt_trichotomy i j with hij | rfl | hij
  · exact hij
  · rw [hi] at hj
    cases hj
    exact absurd hlt (Nat.lt_irrefl _)
  · exact absurd hlt (Nat.not_lt.2 (h.le_of_lt hij hj hi))

/-- ticks come at multiples of the period -/
theorem exists_eq_mul {j now : Nat} (hj : signals[j]? = some (now, .tick)) :
    ∃ q, now = period * q := by
  have hm : now ∈ tickTimes signals := mem_tickTimes.2 (List.mem_of_getElem? hj)
  rw [h.ticks] at hm
  obtain ⟨q, _, rfl⟩ := List.mem_map.1 hm
  exact ⟨q, rfl⟩

/-- every multiple of the period up to the horizon is the time of a tick -/
theorem exists_tick (hpos : 0 < period) {q : Nat} (hq : period * q ≤ horizon) :
    ∃ i : Nat, signals[i]? = some (period * q, .tick) := by
  have hle : q ≤ horizon / period := (Nat.le_div_iff_mul_le hpos).2 (by rwa [Nat.mul_comm])
  have hm : period * q ∈ tickTimes signals := by
    rw [h.ticks]
    exact List.mem_map.2 ⟨q, List.mem_range.2 (by omega), rfl⟩
  exact List.mem_iff_getElem?.1 (mem_tickTimes.1 hm)

/-- no two ticks come at one time -/
theorem tick_lt_of_lt (hpos : 0 < period) {i j now later : Nat} (hij : i < j)
    (hi : signals[i]? = some (now, .tick)) (hj : signals[j]? = some (later, .tick)) :
    now < later := by
  have hticks : (tickTimes signals).Pairwise (· < ·) := by
    rw [h.ticks, List.pairwise_map]
    exact List.pairwise_lt_range.imp fun hlt => Nat.mul_lt_mul_of_pos_left hlt hpos
  exact rel_of_pairwise (List.pairwise_filterMap.1 hticks) hij hi hj now rfl later rfl

end Clocked

/-! ## the tick at which a path is due -/

section
variable {o : WatchOptions} {horizon i k t : Nat} {signals : List (Nat × Signal)} {path : String}

theorem lt_dueTime (hpos : 0 < o.tick) (t : Nat) : t + o.settle < o.dueTime t :=
  Nat.lt_mul_div_succ _ hpos

/-- a tick before the due time is too early -/
theorem le_of_lt_dueTime {q : Nat} (h : o.tick * q < o.dueTime t) : o.tick * q ≤ t + o.settle := by
  have hq : q ≤ (t + o.settle) / o.tick := Nat.lt_succ_iff.1 (Nat.lt_of_mul_lt_mul_left h)
  exact Nat.le_trans (Nat.mul_le_mul_left _ hq) (Nat.mul_div_le _ _)

/-- a path is awaited since one time only -/
theorem Awaited.unique {n t' : Nat} (hopen : OpenUntil signals n) (h : Awaited o signals n path t)
    (h' : Awaited o signals n path t') : t = t' :=
  Option.some.inj (((last?_watcherAt hopen path t).2 h).symm.trans
    ((last?_watcherAt hopen path t').2 h'))

/-- signal number `k` is the latest event accepted for a path by its due time, and tick number `i`
comes at that time, with the watch still going on -/
structure DueAt (o : WatchOptions) (signals : List (Nat × Signal)) (path : String) (k t i : Nat) :
    Prop where
  accepted : AcceptedAt o signals k path t
  latest : ∀ j t', k < j → AcceptedAt o signals j path t' → o.dueTime t < t'
  tick : signals[i]? = some (o.dueTime t, .tick)
  goesOn : ∀ e ∈ signals, e.2.isEnd = true → o.dueTime t < e.1

namespace DueAt

variable (hclock : Clocked o.tick horizon signals) (h : DueAt o signals path k t i)
include hclock h

theorem openUntil : OpenUntil signals i := by
  intro j hj e he
  rw [← Bool.not_eq_true]
  intro hend
  have hlate := h.goesOn e (List.mem_of_getElem? he) hend
  have hearly := hclock.le_of_lt hj he h.tick
  exact absurd hlate (Nat.not_lt.2 hearly)

/-- a further event comes behind all signals up to the due time -/
theorem lt_of_acceptedAt {j l t' : Nat} {e : Nat × Signal} (hj : k < j)
    (ha : AcceptedAt o signals j path t') (hl : signals[l]? = some e) (hle : e.1 ≤ o.dueTime t) :
    l < j := by
  have hlate := h.latest j t' hj ha
  obtain ⟨_, _, hs, _⟩ := ha
  exact hclock.lt_of_lt (Nat.lt_of_le_of_lt hle hlate) hl hs

variable (hpos : 0 < o.tick)
include hpos

theorem event_lt_tick : k < i := by
  obtain ⟨_, _, hk, _⟩ := h.accepted
  have hlt : t < o.dueTime t := Nat.lt_of_le_of_lt (Nat.le_add_right t _) (lt_dueTime hpos t)
  exact hclock.lt_of_lt hlt hk h.tick

/-- a tick before the due one comes too early -/
theorem le_of_tick_lt {j now : Nat} (hj : j < i) (hs : signals[j]? = some (now, .tick)) :
    now ≤ t + o.settle := by
  obtain ⟨q, rfl⟩ := hclock.exists_eq_mul hs
  exact le_of_lt_dueTime (hclock.tick_lt_of_lt hpos hj hs h.tick)

/-- the path waits from the event to the tick -/
theorem awaited {n : Nat} (hk : k < n) (hn : n ≤ i) : Awaited o signals n path t := by
  induction n with
  | zero => exact absurd hk (Nat.not_lt_zero k)
  | succ n ih =>
    rw [awaited_succ]
    rcases Nat.lt_succ_iff_lt_or_eq.1 hk with hkn | rfl
    · have hw := ih hkn (Nat.le_of_succ_le hn)
      have hopen : OpenUntil signals n := fun j hj => h.openUntil hclock j (by omega)
      refine .inr ⟨hw, fun t' ha => ?_, ?_⟩
      · exact Nat.lt_asymm hn (h.lt_of_acceptedAt hclock hkn ha h.tick (Nat.le_refl _))
      · intro hm
        obtain ⟨_, now, t', hw', ⟨hs, hlt⟩ | hc⟩ := mem_handedOut.1 hm
        · have hearly := h.le_of_tick_lt hclock hpos hn hs
          rw [hw.unique hopen hw'] at hearly
          exact absurd hlt (Nat.not_lt.2 hearly)
        · have hend := h.openUntil hclock n hn _ hc
          cases hend
    · exact .inl h.accepted

theorem mem_handedOut_tick : path ∈ handedOut o signals i :=
  mem_handedOut.2 ⟨h.openUntil hclock, o.dueTime t, t,
    h.awaited hclock hpos (h.event_lt_tick hclock hpos) (Nat.le_refl i),
    .inl ⟨h.tick, lt_dueTime hpos t⟩⟩

/-- from the event up to the due time, that tick alone hands the path out -/
theorem mem_handedOut_iff {j : Nat} {e : Nat × Signal} (hj : k ≤ j) (hs : signals[j]? = some e)
    (hle : e.1 ≤ o.dueTime t) : path ∈ handedOut o signals j ↔ j = i := by
  constructor
  · intro hm
    rcases Nat.lt_trichotomy j i with hlt | rfl | hgt
    · -- it waits on after signal number `j`
      have hw := h.awaited hclock hpos (Nat.lt_succ_of_le hj) hlt
      rcases awaited_succ.1 hw with ha | ⟨_, _, hnot⟩
      · exact absurd hm (not_mem_handedOut_of_acceptedAt ha)
      · exact absurd hm hnot
    · rfl
    · -- an event would have been accepted since the tick
      obtain ⟨k', t', hk', hkj, ha⟩ := acceptedAt_between hgt (h.mem_handedOut_tick hclock hpos) hm
      have hk : k < k' := Nat.lt_trans (h.event_lt_tick hclock hpos) hk'
      exact absurd hkj (Nat.lt_asymm (h.lt_of_acceptedAt hclock hk ha hs hle))
  · rintro rfl
    exact h.mem_handedOut_tick hclock hpos

/-- it is the first tick strictly later than the settle time after the event -/
theorem le_of_late_tick {j now : Nat} (hs : signals[j]? = some (now, .tick))
    (hlate : t + o.settle < now) : i ≤ j := by
  rw [← Nat.not_lt]
  intro hj
  exact absurd hlate (Nat.not_lt.2 (h.le_of_tick_lt hclock hpos hj hs))

end DueAt

end

/-- **When a path is handed out.**  Let an event be accepted for a path at time `t`, no other one
after it up to the due time, and the watch go on so long.  Then the tick at the due time, the first
one strictly later than `t + settle`, hands the path out, and no other signal from the event up to
that time does, whatever events there are for other paths.  Every signal hands its paths out in
strictly ascending order. -/
theorem handed_out_when_due (o : WatchOptions) (hpos : 1 ≤ o.tick) (horizon : Nat)
    (signals : List (Nat × Signal)) (hclock : Clocked o.tick horizon signals) :
    (∀ path k t, AcceptedAt o signals k path t → o.dueTime t ≤ horizon →
      (∀ j t', k < j → AcceptedAt o signals j path t' → o.dueTime t < t') →
      (∀ e ∈ signals, e.2.isEnd = true → o.dueTime t < e.1) →
      ∃ i, k < i ∧ signals[i]? = some (o.dueTime t, .tick) ∧ t + o.settle < o.dueTime t ∧
        (∀ j now, signals[j]? = some (now, .tick) → t + o.settle < now → i ≤ j) ∧
        ∀ j e, k ≤ j → signals[j]? = some e → e.1 ≤ o.dueTime t →
          (path ∈ handedOut o signals j ↔ j = i)) ∧
    ∀ j, (handedOut o signals j).Pairwise (· < ·) := by
  refine ⟨?due, ascending_handedOut⟩
  intro path k t haccepted hhorizon hlatest hopen
  obtain ⟨i, hi⟩ := hclock.exists_tick hpos hhorizon
  have h : DueAt o signals path k t i := ⟨haccepted, hlatest, hi, hopen⟩
  exact ⟨i, h.event_lt_tick hclock hpos, hi, lt_dueTime hpos t,
    fun j now hs hlate => h.le_of_late_tick hclock hpos hs hlate,
    fun j e hj hs hle => h.mem_handedOut_iff hclock hpos hj hs hle⟩

/-- changes below `/project` but its target directory, quiet after half a period -/
def sourceWatch : WatchOptions := ⟨"/project", ["target"], 500, 1000, false, fun _ => none⟩

/-- one source changes half a period after a tick, the other one before and after the next -/
def sourceSignals : List (Nat × Signal) :=
  [(0, .tick), (500, .event (.modify .data) ["/project/src/a.c"]),
    (700, .event .create ["/project/src/b.c"]), (1000, .tick),
    (1300, .event (.modify .data) ["/project/target/a.o", "/project/src/b.c"]), (2000, .tick),
    (2400, .closed)]

/-- a tick at `t + settle` is not late enough -/
theorem source_handed_out_when_due : ∃ i, 1 < i ∧ sourceSignals[i]? = some (2000, .tick) ∧
    "src/a.c" ∈ handedOut sourceWatch sourceSignals i := by
  have hclock : Clocked sourceWatch.tick 2400 sourceSignals :=
    ⟨by decide, by decide, by decide⟩
  have haccepted : AcceptedAt sourceWatch sourceSignals 1 "src/a.c" 500 :=
    ⟨_, _, rfl, rfl, by decide, _, List.mem_singleton_self _, by decide⟩
  have hlatest : ∀ j t', 1 < j → AcceptedAt sourceWatch sourceSignals j "src/a.c" t' →
      sourceWatch.dueTime 500 < t' := by
    rintro j t' hj ⟨kind, paths, hs, ha⟩
    have hm : (t', Signal.event kind paths) ∈ sourceSignals.drop 2 := by
      refine List.mem_of_getElem? (i := j - 2) ?_
      rw [List.getElem?_drop, Nat.add_sub_cancel' hj, hs]
    rw [← WatchOptions.mem_accepted] at ha
    simp only [sourceSignals, List.drop_succ_cons, List.drop_zero, List.mem_cons, Prod.mk.injEq,
      Signal.event.injEq, reduceCtorEq, and_false, false_or, or_false, List.not_mem_nil] at hm
    rcases hm with ⟨-, rfl, rfl⟩ | ⟨-, rfl, rfl⟩
    · exact absurd ha (by decide)
    · exact absurd ha (by decide)
  obtain ⟨i, hi, hs, _, _, hhanded⟩ := (handed_out_when_due sourceWatch (by decide) 2400
    sourceSignals hclock).1 "src/a.c" 1 500 haccepted (by decide) hlatest (by decide)
  exact ⟨i, hi, hs, (hhanded i _ (Nat.le_of_lt hi) hs (Nat.le_refl _)).2 rfl⟩

end Watch

end PatternBuild
