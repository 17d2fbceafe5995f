import PatternBuild.Proofs.Path.Normal
import PatternBuild.Proofs.Text.Cutting

/-!
# What is found in a clean path

Cleaning a path puts its parts together anew but changes none of them.  Text without a slash that
is found in the clean path was found in the path, unless it is found in `..`
(`infix_of_infix_clean`).
-/

namespace PatternBuild.Path

variable {m a b cs : List Char} {ps kept : List Part} {rooted : Bool}

theorem exists_infix_of_joinParts (hm : '/' ∉ m) (hne : m ≠ []) (h : m <:+: joinParts ps) :
    ∃ p ∈ ps, m <:+: p := by
  induction ps with
  | nil => exact absurd (List.infix_nil.1 h) hne
  | cons p ps ih =>
    by_cases hps : ps = []
    · subst hps
      exact ⟨p, List.mem_cons_self, h⟩
    · rw [joinParts_cons_of_ne_nil p hps] at h
      rcases Text.infix_append_cons hm h with h | h
      · exact ⟨p, List.mem_cons_self, h⟩
      · obtain ⟨q, hq, h⟩ := ih h
        exact ⟨q, List.mem_cons_of_mem _ hq, h⟩

/-- what is kept was there already or is `..` -/
theorem mem_keep {p q : Part} (h : q ∈ keep rooted kept p) : q ∈ kept ∨ q = p ∨ q = dotDot := by
  have hkeep := keeps_keep rooted kept p
  generalize keep rooted kept p = kept' at h hkeep
  cases hkeep with
  | void _ => exact .inl h
  | atRoot _ => cases h
  | above _ => exact .inr (.inl (List.mem_singleton.1 h))
  | further rest =>
    rcases List.mem_cons.1 h with h | h
    · exact .inr (.inr h)
    · exact .inl h
  | cancel rest _ => exact .inl (List.mem_cons_of_mem _ h)
  | name _ _ _ =>
    rcases List.mem_cons.1 h with h | h
    · exact .inr (.inl h)
    · exact .inl h

theorem mem_resolve {q : Part} (h : q ∈ resolve rooted ps) : q ∈ ps ∨ q = dotDot := by
  unfold resolve at h
  have hfold : ∀ kept, q ∈ ps.foldl (keep rooted) kept → q ∈ kept ∨ q ∈ ps ∨ q = dotDot := by
    clear h
    induction ps with
    | nil => exact fun kept h => .inl h
    | cons p ps ih =>
      intro kept h
      rcases ih (keep rooted kept p) h with h | h | h
      · rcases mem_keep h with h | rfl | h
        · exact .inl h
        · exact .inr (.inl List.mem_cons_self)
        · exact .inr (.inr h)
      · exact .inr (.inl (List.mem_cons_of_mem _ h))
      · exact .inr (.inr h)
  exact (hfold [] (List.mem_reverse.1 h)).resolve_left List.not_mem_nil

theorem infix_of_mem_parts {p : Part} (h : p ∈ parts cs) : p <:+: cs := (Text.mem_splitOn h).1

/-- cleaning brings no text without a slash into a path but what is found in `..` -/
theorem infix_of_infix_clean (hm : '/' ∉ m) (hdots : ¬m <:+: dotDot)
    (h : m <:+: cleanChars cs) : m <:+: cs := by
  have hne : m ≠ [] := by
    rintro rfl
    exact hdots List.nil_infix
  have hjoin : m <:+: joinParts (resolve (isRooted cs) (parts cs)) → m <:+: cs := by
    intro h
    obtain ⟨p, hp, h⟩ := exists_infix_of_joinParts hm hne h
    rcases mem_resolve hp with hp | rfl
    · exact h.trans (infix_of_mem_parts hp)
    · exact absurd h hdots
  unfold cleanChars render at h
  split at h
  · rcases Text.infix_append_cons (a := []) hm h with h | h
    · exact absurd (List.infix_nil.1 h) hne
    · exact hjoin h
  · split at h
    · exact absurd (h.trans (by decide : dot <:+: dotDot)) hdots
    · exact hjoin h

end PatternBuild.Path
