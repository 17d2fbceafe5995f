import PatternBuild.Proofs.Outcome
import PatternBuild.Proofs.Pattern.Occurrences
import PatternBuild.Proofs.Pattern.Substitution

/-!
# Substitution in one sweep

Substitution goes through a text once.  Each capture gives way to its value, which is not read
again, and each other character stays (`Replaced`); the first capture without a value stops it
(`FirstMissing`).  Both are told from the places of the text at which captures stand, and
`reading_induction` carries them from what is behind a capture or a character to the text itself.

* `fill_tokenize_eq_ok_iff`     a result is the text with its captures replaced;
* `fill_tokenize_eq_error_iff`  a failure names the leftmost capture that is not bound;
* `mem_captureNumbers_iff`      the captures of the tokens are the ones that stand in the text;
* `substitution_simultaneous`   what substitution into a text comes to.
-/

namespace PatternBuild.Pattern

variable {args : Captures} {template : String} {cs after out : List Char} {c : Char} {n m : Nat}

/-! ## captures replaced -/

/-- a text with the values of its captures in place of them -/
inductive Replaced (args : Captures) : List Char → List Char → Prop where
  | nil : Replaced args [] []
  | capture (cs after out : List Char) (n : Nat) (v : String) : Begins cs n after →
      args.get? n = some v → Replaced args after out → Replaced args cs (v.toList ++ out)
  | char (c : Char) (cs out : List Char) : (∀ n after, ¬Begins (c :: cs) n after) →
      Replaced args cs out → Replaced args (c :: cs) (c :: out)

theorem not_begins_nil : ¬Begins [] n after := by
  intro h
  cases h.text

theorem replaced_nil : Replaced args [] out ↔ out = [] := by
  constructor
  · intro hout
    cases hout with
    | nil => rfl
    | capture _ _ _ _ _ hbegins _ _ => exact absurd hbegins not_begins_nil
  · rintro rfl
    exact .nil

theorem replaced_of_begins (h : Begins cs n after) : Replaced args cs out ↔
    ∃ v, args.get? n = some v ∧ ∃ rest, Replaced args after rest ∧ v.toList ++ rest = out := by
  constructor
  · intro hout
    cases hout with
    | nil => exact absurd h not_begins_nil
    | capture _ _ rest _ v hbegins hv hrest =>
      obtain ⟨rfl, rfl⟩ := hbegins.unique h
      exact ⟨v, hv, rest, hrest, rfl⟩
    | char _ _ _ hnot _ => exact absurd h (hnot _ _)
  · rintro ⟨v, hv, rest, hrest, rfl⟩
    exact .capture _ _ _ _ _ h hv hrest

theorem replaced_of_not_begins (h : ∀ n after, ¬Begins (c :: cs) n after) :
    Replaced args (c :: cs) out ↔ ∃ rest, Replaced args cs rest ∧ c :: rest = out := by
  constructor
  · intro hout
    cases hout with
    | capture _ _ _ _ _ hbegins _ _ => exact absurd hbegins (h _ _)
    | char _ _ rest _ hrest => exact ⟨rest, hrest, rfl⟩
  · rintro ⟨rest, hrest, rfl⟩
    exact .char _ _ _ h hrest

/-- captures that stand for themselves leave the text as it is -/
theorem replaced_self
    (h : ∀ i n, OccursAt cs i n → args.get? n = some ("$" ++ toString n)) : Replaced args cs cs := by
  induction cs using reading_induction with
  | nil => exact .nil
  | capture cs n after hbegins ih =>
    have hself := h 0 n ⟨after, hbegins⟩
    have hafter := ih fun i m hm => h _ m ((occursAt_of_begins hbegins).2 (.inr ⟨i, rfl, hm⟩))
    -- the value `$n` is the text of the capture
    refine (replaced_of_begins hbegins).2 ⟨_, hself, after, hafter, ?_⟩
    rw [hbegins.text, String.toList_append, List.append_assoc]
    simp
  | char c cs hnot ih =>
    exact .char _ _ _ hnot (ih fun i m hm => h (i + 1) m hm)

/-! ## a capture without a value -/

/-- the leftmost capture of a text that is not bound -/
def FirstMissing (args : Captures) (cs : List Char) (n : Nat) : Prop :=
  ∃ i, OccursAt cs i n ∧ args.get? n = none ∧
    ∀ j m, j < i → OccursAt cs j m → ∃ v, args.get? m = some v

theorem not_firstMissing_nil : ¬FirstMissing args [] n := by
  rintro ⟨i, hi, _⟩
  exact not_occursAt_nil hi

theorem firstMissing_of_begins (h : Begins cs n after) : FirstMissing args cs m ↔
    args.get? n = none ∧ m = n ∨ (∃ v, args.get? n = some v) ∧ FirstMissing args after m := by
  constructor
  · rintro ⟨i, hi, hnone, hbefore⟩
    rcases (occursAt_of_begins h).1 hi with ⟨rfl, rfl⟩ | ⟨j, rfl, hj⟩
    · exact .inl ⟨hnone, rfl⟩
    · -- as the missing capture stands further behind, the one in front is bound
      refine .inr ⟨hbefore 0 n (Nat.succ_pos _) ⟨after, h⟩, j, hj, hnone, fun k m' hk hm' => ?_⟩
      exact hbefore _ m' (by omega) ((occursAt_of_begins h).2 (.inr ⟨k, rfl, hm'⟩))
  · rintro (⟨hnone, rfl⟩ | ⟨hbound, j, hj, hnone, hbefore⟩)
    · exact ⟨0, ⟨after, h⟩, hnone, fun k _ hk => absurd hk (Nat.not_lt_zero k)⟩
    · refine ⟨_, (occursAt_of_begins h).2 (.inr ⟨j, rfl, hj⟩), hnone, fun k m' hk hm' => ?_⟩
      rcases (occursAt_of_begins h).1 hm' with ⟨_, rfl⟩ | ⟨k', rfl, hk'⟩
      · exact hbound
      · exact hbefore k' m' (by omega) hk'

theorem firstMissing_of_not_begins (h : ∀ n after, ¬Begins (c :: cs) n after) :
    FirstMissing args (c :: cs) m ↔ FirstMissing args cs m := by
  constructor
  · rintro ⟨i, hi, hnone, hbefore⟩
    obtain ⟨j, rfl, hj⟩ := (occursAt_of_not_begins h).1 hi
    exact ⟨j, hj, hnone, fun k m' hk => hbefore (k + 1) m' (Nat.succ_lt_succ hk)⟩
  · rintro ⟨j, hj, hnone, hbefore⟩
    refine ⟨j + 1, hj, hnone, fun k m' hk hm' => ?_⟩
    obtain ⟨k, rfl, hk'⟩ := (occursAt_of_not_begins h).1 hm'
    exact hbefore k m' (Nat.lt_of_succ_lt_succ hk) hk'

/-! ## filling the tokens of a text -/

theorem fill_addLiteral (ts : List Token) :
    fill template args (addLiteral c ts) = (fill template args ts).map (c :: ·) := by
  cases ts with
  | nil => rfl
  | cons t ts =>
    cases t with
    | literal text =>
      show (fill template args ts).map _ = ((fill template args ts).map _).map _
      cases fill template args ts <;> rfl
    | capture n => rfl
    | wildcard => rfl

theorem fill_of_not_begins (h : ∀ n after, ¬Begins (c :: cs) n after) :
    fill template args (tokenize (c :: cs)) = (fill template args (tokenize cs)).map (c :: ·) := by
  rcases tokenize_of_not_begins h with ⟨rfl, hread⟩ | hread
  · rw [hread]
    rfl
  · rw [hread, fill_addLiteral]

theorem fill_of_begins_none (h : Begins cs n after) (hn : args.get? n = none) :
    fill template args (tokenize cs) = .error (.missingCapture template n) := by
  rw [tokenize_of_begins h, fill, hn]

theorem fill_of_begins_some {v : String} (h : Begins cs n after) (hn : args.get? n = some v) :
    fill template args (tokenize cs) = (fill template args (tokenize after)).map (v.toList ++ ·) := by
  rw [tokenize_of_begins h, fill, hn]

theorem fill_tokenize_eq_ok_iff (template : String) :
    fill template args (tokenize cs) = .ok out ↔ Replaced args cs out := by
  induction cs using reading_induction generalizing out with
  | nil =>
    rw [replaced_nil]
    simp [tokenize, scan, fill, eq_comm]
  | capture cs n after hbegins ih =>
    rw [replaced_of_begins hbegins]
    cases hn : args.get? n with
    | none =>
      rw [fill_of_begins_none hbegins hn]
      simp
    | some v =>
      rw [fill_of_begins_some hbegins hn]
      simp [map_eq_ok_iff, ih]
  | char c cs hnot ih =>
    rw [replaced_of_not_begins hnot, fill_of_not_begins hnot]
    simp [map_eq_ok_iff, ih]

theorem fill_tokenize_eq_error_iff {f : Fault} : fill template args (tokenize cs) = .error f ↔
    ∃ n, FirstMissing args cs n ∧ f = .missingCapture template n := by
  induction cs using reading_induction with
  | nil => simp [tokenize, scan, fill, not_firstMissing_nil]
  | capture cs n after hbegins ih =>
    simp only [firstMissing_of_begins hbegins]
    cases hn : args.get? n with
    | none =>
      rw [fill_of_begins_none hbegins hn]
      simp [eq_comm]
    | some v =>
      rw [fill_of_begins_some hbegins hn]
      simp [map_eq_error_iff, ih]
  | char c cs hnot ih =>
    simp only [firstMissing_of_not_begins hnot]
    rw [fill_of_not_begins hnot, ← ih]
    simp [map_eq_error_iff]

/-! ## the captures of a text -/

theorem captureNumbers_capture (n : Nat) (ts : List Token) :
    captureNumbers (.capture n :: ts) = n :: captureNumbers ts := rfl

theorem captureNumbers_addLiteral (ts : List Token) :
    captureNumbers (addLiteral c ts) = captureNumbers ts := by
  cases ts with
  | nil => rfl
  | cons t ts => cases t <;> rfl

theorem mem_captureNumbers_iff : m ∈ captureNumbers (tokenize cs) ↔ ∃ i, OccursAt cs i m := by
  induction cs using reading_induction with
  | nil => simp [tokenize, scan, captureNumbers, not_occursAt_nil]
  | capture cs n after hbegins ih =>
    rw [tokenize_of_begins hbegins, captureNumbers_capture, List.mem_cons, ih]
    constructor
    · rintro (rfl | ⟨j, hj⟩)
      · exact ⟨0, after, hbegins⟩
      · exact ⟨_, (occursAt_of_begins hbegins).2 (.inr ⟨j, rfl, hj⟩)⟩
    · rintro ⟨i, hi⟩
      rcases (occursAt_of_begins hbegins).1 hi with ⟨_, hm⟩ | ⟨j, _, hj⟩
      · exact .inl hm
      · exact .inr ⟨j, hj⟩
  | char c cs hnot ih =>
    have hnumbers : captureNumbers (tokenize (c :: cs)) = captureNumbers (tokenize cs) := by
      rcases tokenize_of_not_begins hnot with ⟨rfl, hread⟩ | hread
      · rw [hread]
        rfl
      · rw [hread, captureNumbers_addLiteral]
    rw [hnumbers, ih]
    constructor
    · rintro ⟨j, hj⟩
      exact ⟨j + 1, hj⟩
    · rintro ⟨i, hi⟩
      obtain ⟨j, _, hj⟩ := (occursAt_of_not_begins hnot).1 hi
      exact ⟨j, hj⟩

theorem bound_tokenize_iff : Bound args (tokenize cs) ↔
    ∀ i n, OccursAt cs i n → ∃ v, args.get? n = some v := by
  simp only [Bound, mem_captureNumbers_iff, forall_exists_index]
  exact forall_comm

/-! ## substitution into a text -/

/-- Substitution succeeds exactly when every capture that stands in the text is bound, and then
yields the text with the values in place of its captures; otherwise it names the leftmost capture
that is not bound.  No other binding counts, and captures bound to themselves leave the text as it
is. -/
theorem substitution_simultaneous (template : String) (args : Captures) :
    ((∃ out, substituteText template args = .ok out) ↔
      ∀ i n, OccursAt template.toList i n → ∃ v, args.get? n = some v) ∧
    (∀ out, substituteText template args = .ok out ↔
      Replaced args template.toList out.toList) ∧
    (∀ f, substituteText template args = .error f ↔
      ∃ n, FirstMissing args template.toList n ∧ f = .missingCapture template n) ∧
    (∀ args', (∀ i n, OccursAt template.toList i n → args.get? n = args'.get? n) →
      substituteText template args = substituteText template args') ∧
    ((∀ i n, OccursAt template.toList i n → args.get? n = some ("$" ++ toString n)) →
      substituteText template args = .ok template) := by
  have hresult : ∀ out, substituteText template args = .ok out ↔
      Replaced args template.toList out.toList := by
    intro out
    rw [← fill_tokenize_eq_ok_iff template, substituteText, map_eq_ok_iff]
    constructor
    · rintro ⟨cs, hcs, rfl⟩
      rw [hcs, String.toList_ofList]
    · intro hout
      exact ⟨_, hout, String.ofList_toList⟩
  refine ⟨?_, hresult, fun f => ?_, fun args' hagree => ?_, fun hself => ?_⟩
  · rw [← bound_tokenize_iff]
    constructor
    · rintro ⟨out, hout⟩
      rcases bound_or_firstUnbound args (tokenize template.toList) with hbound | ⟨n, hn⟩
      · exact hbound
      · rw [substituteText, fill_of_firstUnbound hn] at hout
        cases hout
    · intro hbound
      rw [substituteText, fill_of_bound hbound]
      exact ⟨_, rfl⟩
  · rw [substituteText, map_eq_error_iff, fill_tokenize_eq_error_iff]
  · refine congrArg (Except.map String.ofList) (fill_congr fun n hn => ?_)
    obtain ⟨i, hi⟩ := mem_captureNumbers_iff.1 hn
    exact hagree i n hi
  · exact (hresult template).2 (replaced_self hself)

example : substituteText "$12$1-$2$012" (.ofList [(1, "$2"), (2, "*"), (12, "$1")]) =
    .ok "$1$2-*$012" := by decide

end PatternBuild.Pattern
