import PatternBuild.Pattern.Basic
import PatternBuild.Proofs.Pattern.Spelling

/-!
# The cut that is found

`cut?` yields a cut of the name (`isCut_of_cut?`), so the tokens of a pattern spell every clean
name that the pattern matches.
-/

namespace PatternBuild.Pattern

open Path

/-- the characters of the piece are tested one by one, not all characters there are -/
instance (t : Token) (p : List Char) : Decidable (t.Admits p) :=
  match t with
  | .literal text => inferInstanceAs (Decidable (p = text))
  | .capture _ | .wildcard =>
    haveI := List.decidableBAll (isSegment · = true) p
    inferInstanceAs (Decidable (p ≠ [] ∧ ∀ c ∈ p, isSegment c = true))

/-- the run found is not empty, lies within the text, and holds segment characters only -/
theorem longestRun_spec {cs : List Char} {flags : Flags} {k : Nat}
    (h : longestRun cs flags = some k) :
    0 < k ∧ k ≤ cs.length ∧ ∀ c ∈ cs.take k, isSegment c = true := by
  induction cs generalizing flags k with
  | nil => cases h
  | cons c cs ih =>
    cases flags with
    | nil => cases h
    | cons b flags =>
      unfold longestRun at h
      by_cases hc : isSegment c = true
      · rw [if_pos hc] at h
        cases hrun : longestRun cs flags with
        | some m =>
          obtain ⟨_, hlen, hall⟩ := ih hrun
          rw [hrun] at h
          obtain rfl : m + 1 = k := Option.some.inj h
          refine ⟨Nat.succ_pos m, Nat.succ_le_succ hlen, fun d hd => ?_⟩
          rw [List.take_succ_cons] at hd
          rcases List.mem_cons.1 hd with rfl | hd
          · exact hc
          · exact hall d hd
        | none =>
          rw [hrun] at h
          simp only [Option.ite_none_right_eq_some, Option.some.injEq] at h
          obtain ⟨_, rfl⟩ := h
          refine ⟨Nat.one_pos, Nat.succ_le_succ (Nat.zero_le _), fun d hd => ?_⟩
          rw [List.mem_singleton.1 hd]
          exact hc
      · rw [if_neg hc] at h
        cases h

/-- a run found at the start of a name is a piece for a capture or a wildcard -/
theorem admits_of_longestRun {t : Token} (ht : t.isDynamic = true) {name : List Char}
    {flags : Flags} {k : Nat} (h : longestRun name flags = some k) : t.Admits (name.take k) := by
  obtain ⟨hpos, hlen, hall⟩ := longestRun_spec h
  have hne : name.take k ≠ [] := by
    intro he
    have := congrArg List.length he
    rw [List.length_take, List.length_nil] at this
    omega
  cases t with
  | literal text => cases ht
  | capture n => exact ⟨hne, hall⟩
  | wildcard => exact ⟨hne, hall⟩

/-- what is found divides the name among the tokens -/
theorem isCut_of_cut? {ts : List Token} {name : List Char} {ps : List (List Char)}
    (h : cut? ts name = some ps) : IsCut ts name ps := by
  induction ts generalizing name ps with
  | nil =>
    unfold cut? at h
    split at h
    · rename_i hn
      obtain rfl := Option.some.inj h
      exact List.isEmpty_iff.1 hn
    · cases h
  | cons t ts ih =>
    have hrun : t.isDynamic = true → ∀ k, longestRun name (fits ts name).tail = some k →
        (cut? ts (name.drop k)).map (name.take k :: ·) = some ps → IsCut (t :: ts) name ps := by
      intro ht k hk hps
      obtain ⟨qs, hqs, rfl⟩ := Option.map_eq_some_iff.1 hps
      exact ⟨admits_of_longestRun ht hk, _, (List.take_append_drop k name).symm, ih hqs⟩
    cases t with
    | literal text =>
      unfold cut? at h
      split at h
      · rename_i hpre
        obtain ⟨qs, hqs, rfl⟩ := Option.map_eq_some_iff.1 h
        obtain ⟨rest, rfl⟩ := List.isPrefixOf_iff_prefix.1 hpre
        rw [List.drop_left] at hqs
        exact ⟨rfl, rest, rfl, ih hqs⟩
      · cases h
    | capture n =>
      obtain ⟨k, hk, hps⟩ := Option.bind_eq_some_iff.1 h
      exact hrun rfl k hk hps
    | wildcard =>
      obtain ⟨k, hk, hps⟩ := Option.bind_eq_some_iff.1 h
      exact hrun rfl k hk hps

/-- a match is named by the clean path, which the tokens spell -/
theorem spells_of_matches? {p : Pattern} {path : String} {e : Entry}
    (h : p.matches? path = some e) :
    e.name = clean path ∧ Spells p.tokens (clean path).toList := by
  obtain ⟨pieces, hcut, h⟩ := Option.bind_eq_some_iff.1 h
  obtain ⟨args, _, h⟩ := Option.bind_eq_some_iff.1 h
  obtain rfl := Option.some.inj h
  exact ⟨rfl, pieces, isCut_of_cut? hcut⟩

end PatternBuild.Pattern
