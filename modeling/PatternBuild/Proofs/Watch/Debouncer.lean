import Mathlib.Data.List.Induction
import PatternBuild.Proofs.Table
import PatternBuild.Watch.Debouncer

/-!
# What waits in a debouncer

`last? d path` is the time of the last change of a waiting path.  Every operation is described by
what it does to `last?` and by what it hands out.

A history is a list of calls on a new debouncer, at times in any order.  `RecordedSince` and
`LastRecord` speak of the calls by number and of what they handed out, and of nothing inside the
debouncer.

* `last?_call`      what one call does to a waiting path;
* `last?_after`     a path waits exactly when it was recorded since it was last handed out, and then
                    with the time it was last recorded at;
* `debounces`       so every drain hands out what its history says, and leaves the rest alone.
-/

namespace PatternBuild.Debouncer

section
variable (d : Debouncer)

/-- the time of the last change of a path, if it waits -/
def last? (path : String) : Option Nat := d.pending.get? path

theorem last?_new (settle : Nat) (path : String) : (new settle).last? path = none := rfl

theorem settle_record (path : String) (time : Nat) : (d.record path time).settle = d.settle := rfl

theorem last?_record (path other : String) (time : Nat) :
    (d.record path time).last? other = if other = path then some time else d.last? other :=
  Table.get?_insert _ _ _ _

variable {d}

/-! ## recording many paths -/

theorem settle_foldl_record (paths : List String) (time : Nat) :
    (paths.foldl (·.record · time) d).settle = d.settle := by
  induction paths generalizing d with
  | nil => rfl
  | cons p paths ih => rw [List.foldl_cons, ih, settle_record]

theorem last?_foldl_record (paths : List String) (time : Nat) (path : String) :
    (paths.foldl (·.record · time) d).last? path =
      if path ∈ paths then some time else d.last? path := by
  induction paths generalizing d with
  | nil => simp
  | cons p paths ih =>
    rw [List.foldl_cons, ih, last?_record]
    by_cases hp : path = p
    · simp [hp]
    · simp [hp]

/-! ## draining -/

theorem isSettled_iff {now last : Nat} : d.isSettled now last = true ↔ last + d.settle < now := by
  unfold isSettled
  rw [decide_eq_true_eq]
  omega

theorem mem_drainSettled {now : Nat} {path : String} :
    path ∈ (d.drainSettled now).1 ↔ ∃ last, d.last? path = some last ∧ last + d.settle < now := by
  show path ∈ (d.pending.filter fun _ last => d.isSettled now last).keys ↔ _
  rw [Table.mem_keys]
  simp only [Table.get?_filter_eq_some, isSettled_iff]
  rfl

theorem settle_drainSettled (now : Nat) : (d.drainSettled now).2.settle = d.settle := rfl

theorem last?_drainSettled_eq_some {now last : Nat} {path : String} :
    (d.drainSettled now).2.last? path = some last ↔
      d.last? path = some last ∧ ¬last + d.settle < now := by
  show (d.pending.filter fun _ last => !d.isSettled now last).get? path = some last ↔ _
  rw [Table.get?_filter_eq_some, Bool.not_eq_true', ← Bool.not_eq_true, isSettled_iff]
  rfl

theorem mem_drainAll {path : String} : path ∈ d.drainAll.1 ↔ ∃ last, d.last? path = some last :=
  Table.mem_keys

theorem ascending_drainSettled (now : Nat) : (d.drainSettled now).1.Pairwise (· < ·) :=
  Table.keys_ascending _

theorem ascending_drainAll : d.drainAll.1.Pairwise (· < ·) := Table.keys_ascending _

end

/-! ## calls -/

/-- what is asked of a debouncer -/
inductive Call where
  | record (path : String) (time : Nat)
  | drainSettled (now : Nat)
  | drainAll
  deriving DecidableEq

/-- do what is asked; the paths handed out, and the debouncer from then on -/
def call (d : Debouncer) : Call → List String × Debouncer
  | .record path time => ([], d.record path time)
  | .drainSettled now => d.drainSettled now
  | .drainAll => d.drainAll

/-- a debouncer after some calls on a new one -/
def after (settle : Nat) (calls : List Call) : Debouncer :=
  calls.foldl (fun d c => (d.call c).2) (new settle)

/-- the paths handed out by call number `n` -/
def handedOutBy (settle : Nat) (calls : List Call) (n : Nat) : List String :=
  match calls[n]? with
  | some c => ((after settle (calls.take n)).call c).1
  | none => []

/-- a path was recorded and not handed out from then on -/
def RecordedSince (settle : Nat) (calls : List Call) (path : String) : Prop :=
  ∃ (k : Nat) (time : Nat), calls[k]? = some (.record path time) ∧
    ∀ j, k < j → path ∉ handedOutBy settle calls j

/-- the latest call that recorded a path gave it this time -/
def LastRecord (calls : List Call) (path : String) (time : Nat) : Prop :=
  ∃ k : Nat, calls[k]? = some (.record path time) ∧
    ∀ j : Nat, k < j → ∀ t, calls[j]? ≠ some (.record path t)

variable {d : Debouncer} {settle time : Nat} {calls : List Call} {c : Call} {path : String}

/-! ## one call -/

theorem settle_call (d : Debouncer) (c : Call) : (d.call c).2.settle = d.settle := by
  cases c <;> rfl

theorem isEmpty_iff : d.isEmpty = true ↔ d.pending.keys = [] := by
  rw [isEmpty, Table.keys, List.isEmpty_iff, List.map_eq_nil_iff]

/-- a drain takes away what it hands out and leaves the times of all others -/
theorem last?_drainSettled (now : Nat) (path : String) : (d.drainSettled now).2.last? path =
    if path ∈ (d.drainSettled now).1 then none else d.last? path := by
  refine Option.ext fun time => ?_
  rw [last?_drainSettled_eq_some]
  split
  · rename_i hm
    obtain ⟨last, hlast, hlt⟩ := mem_drainSettled.1 hm
    constructor
    · rintro ⟨h, hnot⟩
      rw [hlast] at h
      cases h
      exact absurd hlt hnot
    · intro h
      cases h
  · rename_i hm
    exact ⟨And.left, fun h => ⟨h, fun hlt => hm (mem_drainSettled.2 ⟨time, h, hlt⟩)⟩⟩

/-- a call leaves a path waiting if it records it, or if the path waited before and is neither
recorded nor handed out -/
theorem last?_call : (d.call c).2.last? path = some time ↔ c = .record path time ∨
    d.last? path = some time ∧ (∀ t, c ≠ .record path t) ∧ path ∉ (d.call c).1 := by
  cases c with
  | record other t =>
    show (d.record other t).last? path = some time ↔ _
    rw [last?_record]
    by_cases h : path = other
    · subst h
      simp
    · have h' : ¬other = path := fun e => h e.symm
      simp [call, h, h']
  | drainSettled now =>
    show (d.drainSettled now).2.last? path = some time ↔ _
    rw [last?_drainSettled]
    by_cases h : path ∈ (d.drainSettled now).1
    · simp [call, h]
    · simp [call, h]
  | drainAll =>
    have hall : d.last? path = some time → path ∈ d.drainAll.1 := fun h => mem_drainAll.2 ⟨time, h⟩
    constructor
    · intro h
      cases h
    · rintro (h | ⟨h, _, hnot⟩)
      · cases h
      · exact absurd (hall h) hnot

/-! ## one more call -/

theorem after_snoc (settle : Nat) (calls : List Call) (c : Call) :
    after settle (calls ++ [c]) = ((after settle calls).call c).2 := by
  unfold after
  rw [List.foldl_append]
  rfl

theorem handedOutBy_snoc (settle : Nat) (calls : List Call) (c : Call) (n : Nat) :
    handedOutBy settle (calls ++ [c]) n =
      if n = calls.length then ((after settle calls).call c).1 else handedOutBy settle calls n := by
  unfold handedOutBy
  rcases Nat.lt_trichotomy n calls.length with hlt | rfl | hgt
  · rw [if_neg (Nat.ne_of_lt hlt), List.getElem?_append_left hlt,
      List.take_append_of_le_length (Nat.le_of_lt hlt)]
  · rw [if_pos rfl, List.getElem?_concat_length, List.take_left]
  · have hlen : (calls ++ [c]).length ≤ n := by
      rw [List.length_append]
      exact hgt
    rw [if_neg (Nat.ne_of_gt hgt), List.getElem?_eq_none hlen,
      List.getElem?_eq_none (Nat.le_of_lt hgt)]

/-- the calls of a history and the one after it, by number -/
theorem getElem?_snoc {n : Nat} {c' : Call} : (calls ++ [c])[n]? = some c' ↔
    calls[n]? = some c' ∨ n = calls.length ∧ c = c' := by
  rw [List.getElem?_append]
  split
  · rename_i hlt
    simp [Nat.ne_of_lt hlt]
  · rename_i hge
    rw [List.getElem?_eq_none (Nat.le_of_not_lt hge), List.getElem?_singleton]
    have hzero : n - calls.length = 0 ↔ n = calls.length := by omega
    simp [hzero]

theorem lt_length {n : Nat} {c' : Call} (h : calls[n]? = some c') : n < calls.length :=
  (List.getElem?_eq_some_iff.1 h).1

theorem recordedSince_snoc : RecordedSince settle (calls ++ [c]) path ↔
    (∃ t, c = .record path t) ∨
      RecordedSince settle calls path ∧ path ∉ ((after settle calls).call c).1 := by
  constructor
  · rintro ⟨k, t, hk, hlater⟩
    rcases getElem?_snoc.1 hk with hk | ⟨_, rfl⟩
    · have hlen := lt_length hk
      refine .inr ⟨⟨k, t, hk, fun j hj => ?_⟩, ?_⟩
      · have hnot := hlater j hj
        rw [handedOutBy_snoc] at hnot
        split at hnot
        · rename_i hjn
          rw [handedOutBy, hjn, List.getElem?_eq_none (Nat.le_refl _)]
          exact List.not_mem_nil
        · exact hnot
      · have hnot := hlater calls.length hlen
        rwa [handedOutBy_snoc, if_pos rfl] at hnot
    · exact .inl ⟨t, rfl⟩
  · rintro (⟨t, rfl⟩ | ⟨⟨k, t, hk, hlater⟩, hnot⟩)
    · refine ⟨calls.length, t, getElem?_snoc.2 (.inr ⟨rfl, rfl⟩), fun j hj => ?_⟩
      rw [handedOutBy_snoc, if_neg (Nat.ne_of_gt hj), handedOutBy,
        List.getElem?_eq_none (Nat.le_of_lt hj)]
      exact List.not_mem_nil
    · refine ⟨k, t, getElem?_snoc.2 (.inl hk), fun j hj => ?_⟩
      rw [handedOutBy_snoc]
      split
      · exact hnot
      · exact hlater j hj

theorem lastRecord_snoc : LastRecord (calls ++ [c]) path time ↔
    c = .record path time ∨ LastRecord calls path time ∧ ∀ t, c ≠ .record path t := by
  constructor
  · rintro ⟨k, hk, hlater⟩
    rcases getElem?_snoc.1 hk with hk | ⟨_, rfl⟩
    · refine .inr ⟨⟨k, hk, fun j hj t h => hlater j hj t (getElem?_snoc.2 (.inl h))⟩, fun t h => ?_⟩
      exact hlater calls.length (lt_length hk) t (getElem?_snoc.2 (.inr ⟨rfl, h⟩))
    · exact .inl rfl
  · rintro (rfl | ⟨⟨k, hk, hlater⟩, hnot⟩)
    · refine ⟨calls.length, getElem?_snoc.2 (.inr ⟨rfl, rfl⟩), fun j hj t h => ?_⟩
      rcases getElem?_snoc.1 h with h | ⟨rfl, _⟩
      · exact Nat.lt_asymm hj (lt_length h)
      · exact Nat.lt_irrefl _ hj
    · refine ⟨k, getElem?_snoc.2 (.inl hk), fun j hj t h => ?_⟩
      rcases getElem?_snoc.1 h with h | ⟨_, h⟩
      · exact hlater j hj t h
      · exact hnot t h

/-! ## all calls -/

theorem settle_after (settle : Nat) (calls : List Call) : (after settle calls).settle = settle := by
  induction calls using List.reverseRecOn with
  | nil => rfl
  | append_singleton calls c ih => rw [after_snoc, settle_call, ih]

/-- **What waits, told by the calls.** -/
theorem last?_after : (after settle calls).last? path = some time ↔
    RecordedSince settle calls path ∧ LastRecord calls path time := by
  induction calls using List.reverseRecOn with
  | nil =>
    constructor
    · intro h
      cases h
    · rintro ⟨⟨k, t, hk, _⟩, _⟩
      cases hk
  | append_singleton calls c ih =>
    rw [after_snoc, last?_call, ih, recordedSince_snoc, lastRecord_snoc]
    constructor
    · rintro (h | ⟨⟨hsince, hlast⟩, hother, hnot⟩)
      · exact ⟨.inl ⟨time, h⟩, .inl h⟩
      · exact ⟨.inr ⟨hsince, hnot⟩, .inr ⟨hlast, hother⟩⟩
    · rintro ⟨⟨t, ht⟩ | ⟨hsince, hnot⟩, h | ⟨hlast, hother⟩⟩
      · exact .inl h
      · exact absurd ht (hother t)
      · exact .inl h
      · exact .inr ⟨⟨hsince, hlast⟩, hother, hnot⟩

/-- a path that was recorded was recorded at some time last -/
theorem exists_lastRecord {k t : Nat} (h : calls[k]? = some (.record path t)) :
    ∃ time, LastRecord calls path time := by
  induction calls using List.reverseRecOn with
  | nil => cases h
  | append_singleton calls c ih =>
    by_cases hc : ∃ time, c = .record path time
    · obtain ⟨time, rfl⟩ := hc
      exact ⟨time, lastRecord_snoc.2 (.inl rfl)⟩
    · rcases getElem?_snoc.1 h with h | ⟨_, rfl⟩
      · obtain ⟨time, htime⟩ := ih h
        exact ⟨time, lastRecord_snoc.2 (.inr ⟨htime, fun t ht => hc ⟨t, ht⟩⟩)⟩
      · exact absurd ⟨t, rfl⟩ hc

theorem mem_pending_after :
    path ∈ (after settle calls).pending.keys ↔ RecordedSince settle calls path := by
  rw [Table.mem_keys]
  show (∃ time, (after settle calls).last? path = some time) ↔ _
  simp only [last?_after]
  constructor
  · rintro ⟨_, h, _⟩
    exact h
  · rintro ⟨k, t, hk, hlater⟩
    obtain ⟨time, htime⟩ := exists_lastRecord hk
    exact ⟨time, ⟨k, t, hk, hlater⟩, htime⟩

/-- **A debouncer is told by its history.**  After any calls, at times in any order, the waiting
paths are those recorded since they were last handed out, each once and with the time it was last
recorded at; size and emptiness are those of the waiting paths.  Draining the settled ones hands
out, strictly ascending, the waiting paths last recorded more than the settle time ago, takes away
these and leaves the times of all others; a time to come is no time ago.  Draining all hands out
every waiting path, strictly ascending, and leaves none. -/
theorem debounces (settle : Nat) (calls : List Call) :
    (∀ path, path ∈ (after settle calls).pending.keys ↔ RecordedSince settle calls path) ∧
    (after settle calls).pending.keys.Nodup ∧
    (∀ path time, (after settle calls).last? path = some time ↔
      RecordedSince settle calls path ∧ LastRecord calls path time) ∧
    (after settle calls).size = (after settle calls).pending.keys.length ∧
    ((after settle calls).isEmpty = true ↔ (after settle calls).pending.keys = []) ∧
    (∀ now,
      (∀ path, path ∈ ((after settle calls).drainSettled now).1 ↔ RecordedSince settle calls path ∧
        ∃ time, LastRecord calls path time ∧ settle < now - time) ∧
      ((after settle calls).drainSettled now).1.Pairwise (· < ·) ∧
      ∀ path, ((after settle calls).drainSettled now).2.last? path =
        if path ∈ ((after settle calls).drainSettled now).1 then none
        else (after settle calls).last? path) ∧
    (∀ path, path ∈ (after settle calls).drainAll.1 ↔ RecordedSince settle calls path) ∧
    (after settle calls).drainAll.1.Pairwise (· < ·) ∧
    (after settle calls).drainAll.2.isEmpty = true := by
  refine ⟨fun _ => mem_pending_after, Table.keys_nodup _, fun _ _ => last?_after,
    (List.length_map _).symm, isEmpty_iff, fun now => ⟨fun path => ?settled,
    ascending_drainSettled now, last?_drainSettled now⟩, fun _ => mem_pending_after,
    ascending_drainAll, rfl⟩
  case settled =>
    have hage : ∀ last, last + settle < now ↔ settle < now - last := fun last => by omega
    rw [mem_drainSettled]
    simp only [last?_after, settle_after, hage, and_assoc, exists_and_left]

/-- a path recorded anew waits from the time given last, even if that lies before the first -/
example : ((after 5 [.record "b" 9, .record "a" 3, .drainAll, .record "b" 12, .record "c" 4,
    .record "b" 1]).drainSettled 7).1 = ["b"] := by decide

end PatternBuild.Debouncer
