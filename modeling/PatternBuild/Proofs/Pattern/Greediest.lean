import Mathlib.Order.Bounds.Basic
import PatternBuild.Proofs.Pattern.Cut

/-!
# The greediest cut

The flags of `fits` mark the suffixes of a name that the tokens spell (`headD_fits_iff`), so the
run that `longestRun` finds is the longest one after which the other tokens still spell the rest
(`longestRun_fits`).  Hence `cut?` finds the greediest cut, and finds one whenever the
name can be cut at all (`cut?_eq_some_iff`).
-/

namespace PatternBuild.Pattern

variable {t : Token} {ts : List Token} {c : Char} {cs name : List Char} {k : Nat}

/-! ## captures and wildcards alike -/

section dynamic
variable (ht : t.isDynamic = true)
include ht

theorem admits_iff_of_isDynamic {p : List Char} :
    t.Admits p ↔ p ≠ [] ∧ ∀ c ∈ p, isSegment c = true := by
  cases t with
  | literal text => cases ht
  | capture n => exact Iff.rfl
  | wildcard => exact Iff.rfl

theorem fits_of_isDynamic : fits (t :: ts) name = afterRun name (fits ts name) := by
  cases t with
  | literal text => cases ht
  | capture n => rfl
  | wildcard => rfl

theorem cut?_of_isDynamic : cut? (t :: ts) name = (longestRun name (fits ts name).tail).bind
    fun k => (cut? ts (name.drop k)).map (name.take k :: ·) := by
  cases t with
  | literal text => cases ht
  | capture n => rfl
  | wildcard => rfl

theorem not_spells_nil_of_isDynamic : ¬Spells (t :: ts) [] := by
  intro h
  obtain ⟨p, rest, hp, hn, _⟩ := spells_cons.1 h
  exact ((admits_iff_of_isDynamic ht).1 hp).1 (List.append_eq_nil_iff.1 hn.symm).1

/-- the first character ends the piece or the piece goes on -/
theorem spells_cons_of_isDynamic : Spells (t :: ts) (c :: cs) ↔
    isSegment c = true ∧ (Spells ts cs ∨ Spells (t :: ts) cs) := by
  simp only [spells_cons, admits_iff_of_isDynamic ht]
  constructor
  · rintro ⟨p, rest, ⟨hne, hall⟩, hn, hr⟩
    obtain ⟨d, p, rfl⟩ := List.exists_cons_of_ne_nil hne
    obtain ⟨rfl, rfl⟩ := List.cons.inj hn
    refine ⟨hall c List.mem_cons_self, ?_⟩
    by_cases hp : p = []
    · subst hp
      exact .inl hr
    · exact .inr ⟨p, rest, ⟨hp, fun d hd => hall d (List.mem_cons_of_mem _ hd)⟩, rfl, hr⟩
  · rintro ⟨hc, h | ⟨p, rest, ⟨_, hall⟩, rfl, hr⟩⟩
    · exact ⟨[c], cs, ⟨List.cons_ne_nil _ _, by simpa using hc⟩, rfl, h⟩
    · exact ⟨c :: p, rest, ⟨List.cons_ne_nil _ _, List.forall_mem_cons.2 ⟨hc, hall⟩⟩, rfl, hr⟩

end dynamic

/-! ## flags -/

/-- the flags of a shorter name are those of its suffixes -/
theorem tail_fits (ts : List Token) (c : Char) (cs : List Char) :
    (fits ts (c :: cs)).tail = fits ts cs := by
  induction ts with
  | nil => rfl
  | cons t ts ih =>
    cases t with
    | literal text =>
      rw [fits, fits, afterText, List.tail_cons, ih]
    | capture n =>
      rw [fits_of_isDynamic rfl, fits_of_isDynamic rfl, afterRun, List.tail_cons, ih]
    | wildcard =>
      rw [fits_of_isDynamic rfl, fits_of_isDynamic rfl, afterRun, List.tail_cons, ih]

theorem drop_fits (ts : List Token) (h : k ≤ name.length) :
    (fits ts name).drop k = fits ts (name.drop k) := by
  induction k generalizing name with
  | zero => rfl
  | succ k ih =>
    cases name with
    | nil => exact absurd h (Nat.not_succ_le_zero k)
    | cons c cs =>
      rw [← List.drop_tail, tail_fits, List.drop_succ_cons]
      exact ih (Nat.le_of_succ_le_succ h)

theorem headD_fits_literal (text : List Char) : (fits (.literal text :: ts) name).headD false =
    (text.isPrefixOf name && ((fits ts name).drop text.length).headD false) := by
  cases name with
  | cons c cs => rfl
  | nil =>
    cases text with
    | nil => rfl
    | cons d text => rfl

/-- the first flag tells whether the tokens spell the name -/
theorem headD_fits_iff : (fits ts name).headD false = true ↔ Spells ts name := by
  induction ts generalizing name with
  | nil =>
    rw [spells_nil]
    cases name with
    | nil => exact ⟨fun _ => rfl, fun _ => rfl⟩
    | cons c cs => simp [fits, noTokens]
  | cons t ts ih =>
    have hrun : t.isDynamic = true →
        ((fits (t :: ts) name).headD false = true ↔ Spells (t :: ts) name) := by
      intro ht
      induction name with
      | nil =>
        rw [fits_of_isDynamic ht]
        exact iff_of_false Bool.false_ne_true (not_spells_nil_of_isDynamic ht)
      | cons c cs ihn =>
        rw [fits_of_isDynamic ht, afterRun, tail_fits, ← fits_of_isDynamic ht, List.headD_cons,
          Bool.and_eq_true, Bool.or_eq_true, ih, ihn, spells_cons_of_isDynamic ht]
    cases t with
    | capture n => exact hrun rfl
    | wildcard => exact hrun rfl
    | literal text =>
      rw [headD_fits_literal, Bool.and_eq_true, List.isPrefixOf_iff_prefix, spells_cons]
      constructor
      · rintro ⟨⟨rest, rfl⟩, h⟩
        rw [drop_fits ts (by simp), List.drop_left] at h
        exact ⟨text, rest, rfl, rfl, ih.1 h⟩
      · rintro ⟨p, rest, rfl, rfl, hr⟩
        refine ⟨⟨rest, rfl⟩, ?_⟩
        rw [drop_fits ts (by simp), List.drop_left]
        exact ih.2 hr

/-! ## the longest run -/

/-- a capture or wildcard may take the first `k` characters of a name, as the other tokens spell
the rest -/
structure IsRun (ts : List Token) (name : List Char) (k : Nat) : Prop where
  pos : 0 < k
  le : k ≤ name.length
  segments : ∀ c ∈ name.take k, isSegment c = true
  rest : Spells ts (name.drop k)

theorem isRun_cons : IsRun ts (c :: cs) (k + 1) ↔
    isSegment c = true ∧ (k = 0 ∧ Spells ts cs ∨ IsRun ts cs k) := by
  constructor
  · intro h
    have hall := h.segments
    rw [List.take_succ_cons, List.forall_mem_cons] at hall
    refine ⟨hall.1, ?_⟩
    cases k with
    | zero => exact .inl ⟨rfl, h.rest⟩
    | succ k => exact .inr ⟨Nat.succ_pos k, Nat.le_of_succ_le_succ h.le, hall.2, h.rest⟩
  · rintro ⟨hc, ⟨rfl, h⟩ | h⟩
    · exact ⟨Nat.one_pos, Nat.succ_le_succ (Nat.zero_le _), by simpa using hc, h⟩
    · exact ⟨Nat.succ_pos k, Nat.succ_le_succ h.le,
        List.forall_mem_cons.2 ⟨hc, h.segments⟩, h.rest⟩

theorem not_isRun_nil : ¬IsRun ts [] k := fun h => absurd h.le (Nat.not_le.2 h.pos)

theorem IsRun.exists_succ {j : Nat} (h : IsRun ts name j) : ∃ i, j = i + 1 :=
  ⟨j - 1, (Nat.sub_add_cancel h.pos).symm⟩

theorem fits_ne_nil (ts : List Token) (name : List Char) : fits ts name ≠ [] := by
  cases ts with
  | nil => cases name <;> exact List.cons_ne_nil _ _
  | cons t ts => cases t <;> cases name <;> exact List.cons_ne_nil _ _

/-- the search goes on as long as there are segment characters, and falls back on the last place
where the other tokens spell the rest -/
theorem longestRun_fits_cons (ts : List Token) (c : Char) (cs : List Char) :
    longestRun (c :: cs) (fits ts (c :: cs)).tail =
      if isSegment c then
        match longestRun cs (fits ts cs).tail with
        | some k => some (k + 1)
        | none => if (fits ts cs).headD false then some 1 else none
      else none := by
  rw [tail_fits]
  cases h : fits ts cs with
  | nil => exact absurd h (fits_ne_nil ts cs)
  | cons b flags => rfl

/-- what the search for a run finds is the longest one; it finds none only if there is none -/
theorem longestRun_fits (ts : List Token) (name : List Char) :
    (∀ k, longestRun name (fits ts name).tail = some k → IsGreatest {j | IsRun ts name j} k) ∧
      (longestRun name (fits ts name).tail = none → ∀ j, ¬IsRun ts name j) := by
  induction name with
  | nil => exact ⟨fun _ h => (Option.some_ne_none _ h.symm).elim, fun _ _ => not_isRun_nil⟩
  | cons c cs ih =>
    obtain ⟨hsome, hnone⟩ := ih
    rw [longestRun_fits_cons]
    by_cases hc : isSegment c = true
    · rw [if_pos hc]
      cases hrun : longestRun cs (fits ts cs).tail with
      | some m =>
        obtain ⟨hm, hmax⟩ := hsome m hrun
        refine ⟨fun k h => ?_, fun h => absurd h (Option.some_ne_none (m + 1))⟩
        obtain rfl : m + 1 = k := Option.some.inj h
        refine ⟨isRun_cons.2 ⟨hc, .inr hm⟩, fun j hj => ?_⟩
        obtain ⟨i, rfl⟩ := IsRun.exists_succ hj
        rcases (isRun_cons.1 hj).2 with ⟨rfl, _⟩ | hi
        · exact Nat.succ_le_succ (Nat.zero_le m)
        · exact Nat.succ_le_succ (hmax hi)
      | none =>
        have hone : ∀ j, IsRun ts (c :: cs) j → j = 1 ∧ Spells ts cs := by
          intro j hj
          obtain ⟨i, rfl⟩ := hj.exists_succ
          rcases (isRun_cons.1 hj).2 with ⟨rfl, h⟩ | hi
          · exact ⟨rfl, h⟩
          · exact absurd hi (hnone hrun i)
        by_cases hs : Spells ts cs
        · simp only [headD_fits_iff.2 hs, if_true]
          refine ⟨fun k h => ?_, fun h => absurd h (Option.some_ne_none 1)⟩
          obtain rfl : 1 = k := Option.some.inj h
          exact ⟨isRun_cons.2 ⟨hc, .inl ⟨rfl, hs⟩⟩, fun j hj => (hone j hj).1.le⟩
        · simp only [mt headD_fits_iff.1 hs]
          exact ⟨fun _ h => (Option.some_ne_none _ h.symm).elim, fun _ j hj => hs (hone j hj).2⟩
    · rw [if_neg hc]
      refine ⟨fun _ h => (Option.some_ne_none _ h.symm).elim, fun _ j hj => ?_⟩
      obtain ⟨i, rfl⟩ := hj.exists_succ
      exact hc (isRun_cons.1 hj).1

/-! ## the cut that is found -/

/-- a cut that starts with a piece of a capture or wildcard makes a run of it -/
theorem isRun_of_admits (ht : t.isDynamic = true) {p rest : List Char} (hp : t.Admits p)
    (hr : Spells ts rest) : IsRun ts (p ++ rest) p.length where
  pos := List.length_pos_iff.2 ((admits_iff_of_isDynamic ht).1 hp).1
  le := by simp
  segments := by
    rw [List.take_left]
    exact ((admits_iff_of_isDynamic ht).1 hp).2
  rest := by
    rw [List.drop_left]
    exact hr

/-- the cut that is found takes as much as it can -/
theorem isGreediest_of_cut? {ps : List (List Char)} (h : cut? ts name = some ps) :
    IsGreediest ts name ps := by
  refine ⟨isCut_of_cut? h, fun qs hqs => ?_⟩
  induction ts generalizing name ps qs with
  | nil =>
    cases qs with
    | nil => cases ps <;> exact trivial
    | cons q qs => exact hqs.elim
  | cons t ts ih =>
    obtain ⟨q, qs, rfl⟩ : ∃ q qs', qs = q :: qs' := by
      cases qs with
      | nil => exact hqs.elim
      | cons q qs => exact ⟨q, qs, rfl⟩
    obtain ⟨hq, rest, rfl, hrest⟩ := hqs
    have hrun : t.isDynamic = true → LongestFirst ps (q :: qs) := by
      intro ht
      rw [cut?_of_isDynamic ht] at h
      obtain ⟨k, hk, h⟩ := Option.bind_eq_some_iff.1 h
      obtain ⟨ps, hps, rfl⟩ := Option.map_eq_some_iff.1 h
      obtain ⟨hk, hmax⟩ := (longestRun_fits ts _).1 k hk
      have hlen : ((q ++ rest).take k).length = k := List.length_take_of_le hk.le
      rcases Nat.lt_or_eq_of_le (hmax (isRun_of_admits ht hq ⟨qs, hrest⟩)) with hlt | heq
      · exact .inl (by rwa [hlen])
      · subst heq
        rw [List.drop_left] at hps
        exact .inr ⟨hlen, ih hps qs hrest⟩
    cases t with
    | capture n => exact hrun rfl
    | wildcard => exact hrun rfl
    | literal text =>
      obtain rfl : q = text := hq
      unfold cut? at h
      rw [if_pos (List.isPrefixOf_iff_prefix.2 ⟨rest, rfl⟩), List.drop_left] at h
      obtain ⟨ps, hps, rfl⟩ := Option.map_eq_some_iff.1 h
      exact .inr ⟨rfl, ih hps qs hrest⟩

/-- a name that can be cut is cut -/
theorem exists_cut? (h : Spells ts name) : ∃ ps, cut? ts name = some ps := by
  induction ts generalizing name with
  | nil =>
    obtain rfl := spells_nil.1 h
    exact ⟨[], rfl⟩
  | cons t ts ih =>
    obtain ⟨p, rest, hp, rfl, hr⟩ := spells_cons.1 h
    have hrun : t.isDynamic = true → ∃ ps, cut? (t :: ts) (p ++ rest) = some ps := by
      intro ht
      rw [cut?_of_isDynamic ht]
      cases hk : longestRun (p ++ rest) (fits ts (p ++ rest)).tail with
      | none => exact absurd (isRun_of_admits ht hp hr) ((longestRun_fits ts _).2 hk _)
      | some k =>
        obtain ⟨ps, hps⟩ := ih ((longestRun_fits ts _).1 k hk).1.rest
        exact ⟨(p ++ rest).take k :: ps, by rw [Option.bind_some, hps, Option.map_some]⟩
    cases t with
    | capture n => exact hrun rfl
    | wildcard => exact hrun rfl
    | literal text =>
      obtain rfl : p = text := hp
      obtain ⟨ps, hps⟩ := ih hr
      refine ⟨p :: ps, ?_⟩
      unfold cut?
      rw [if_pos (List.isPrefixOf_iff_prefix.2 ⟨rest, rfl⟩), List.drop_left, hps, Option.map_some]

/-- a name has one greediest cut -/
theorem IsGreediest.unique {ps qs : List (List Char)} (h : IsGreediest ts name ps)
    (h' : IsGreediest ts name qs) : ps = qs := by
  obtain ⟨hp, hpmax⟩ := h
  obtain ⟨hq, hqmax⟩ := h'
  have hpq : LongestFirst ps qs := hpmax qs hq
  have hqp : LongestFirst qs ps := hqmax ps hp
  clear hpmax hqmax
  induction ts generalizing name ps qs with
  | nil =>
    cases ps with
    | cons p ps => exact hp.elim
    | nil =>
      cases qs with
      | cons q qs => exact hq.elim
      | nil => rfl
  | cons t ts ih =>
    cases ps with
    | nil => exact hp.elim
    | cons p ps =>
      cases qs with
      | nil => exact hq.elim
      | cons q qs =>
        obtain ⟨_, rest, rfl, hp⟩ := hp
        obtain ⟨_, rest', hn, hq⟩ := hq
        have hlen : p.length = q.length ∧ LongestFirst ps qs ∧ LongestFirst qs ps := by
          rcases hpq with h | ⟨h, hpq⟩
          · rcases hqp with h' | ⟨h', _⟩ <;> omega
          · rcases hqp with h' | ⟨_, hqp⟩
            · omega
            · exact ⟨h, hpq, hqp⟩
        obtain ⟨rfl, rfl⟩ := List.append_inj hn hlen.1
        rw [ih hp hq hlen.2.1 hlen.2.2]

/-- `cut?` finds the greediest cut -/
theorem cut?_eq_some_iff {ps : List (List Char)} :
    cut? ts name = some ps ↔ IsGreediest ts name ps := by
  refine ⟨isGreediest_of_cut?, fun h => ?_⟩
  obtain ⟨qs, hqs⟩ := exists_cut? ⟨ps, h.1⟩
  rw [hqs, (isGreediest_of_cut? hqs).unique h]

end PatternBuild.Pattern
