import Mathlib.Data.List.DropRight
import PatternBuild.Text.Blank

/-!
# Trimmed lines

`Trimmed` says that a text neither starts nor ends with a blank.  Trimming makes a text so
(`trimmed_trim`) and leaves no more and no less of a text that is so already, whatever blanks stand
around it (`trim_padded`).  Lines hold no line feed, and a line that does not end with a carriage
return is read as it was written (`lines_append_newline`).
-/

namespace PatternBuild.Text

variable {cs l : List Char}

/-! ## trimming -/

/-- the first and the last character are no blanks -/
structure Trimmed (cs : List Char) : Prop where
  first : ∀ c, cs.head? = some c → isBlank c = false
  last : ∀ c, cs.getLast? = some c → isBlank c = false

theorem trimEnd_eq_rdropWhile (cs : List Char) : trimEnd cs = cs.rdropWhile isBlank := rfl

theorem trimmed_trim (cs : List Char) : Trimmed (trim cs) := by
  unfold trim
  rw [trimEnd_eq_rdropWhile]
  refine ⟨fun c hc => ?_, fun c hc => ?_⟩
  · obtain ⟨rest, he⟩ := List.rdropWhile_prefix isBlank (trimStart cs)
    have hstart : (cs.dropWhile isBlank).head? = some c := by
      show (trimStart cs).head? = some c
      rw [← he, List.head?_append, hc]
      rfl
    have hnot := List.head?_dropWhile_not isBlank cs
    rw [hstart] at hnot
    exact hnot
  · obtain ⟨hne, rfl⟩ := List.mem_getLast?_eq_getLast hc
    exact eq_false_of_ne_true (List.rdropWhile_last_not isBlank _ hne)

theorem Trimmed.trim_eq (h : Trimmed cs) : trim cs = cs := by
  have hstart : trimStart cs = cs := by
    cases cs with
    | nil => rfl
    | cons c cs => exact List.dropWhile_cons_of_neg (by simp [h.first c rfl])
  unfold trim
  rw [hstart, trimEnd_eq_rdropWhile, List.rdropWhile_eq_self_iff]
  intro hne
  rw [h.last _ (List.getLast?_eq_some_getLast hne)]
  exact Bool.false_ne_true

theorem trim_sublist (cs : List Char) : (trim cs).Sublist cs :=
  (List.rdropWhile_prefix isBlank (trimStart cs)).sublist.trans (List.dropWhile_sublist _)

/-- blanks at the end do not matter to a trimmed text -/
theorem trim_append_blank {c : Char} (hc : isBlank c = true) (cs : List Char) :
    trim (cs ++ [c]) = trim cs := by
  unfold trim trimStart
  rw [List.dropWhile_append]
  by_cases h : (cs.dropWhile isBlank).isEmpty = true
  · rw [if_pos h, List.dropWhile_cons_of_pos hc, List.isEmpty_iff.1 h]
    rfl
  · rw [if_neg h, trimEnd_eq_rdropWhile, List.rdropWhile_concat_pos _ _ _ hc]
    rfl

theorem trim_append_blanks {b : List Char} (hb : ∀ c ∈ b, isBlank c = true) (cs : List Char) :
    trim (cs ++ b) = trim cs := by
  induction b generalizing cs with
  | nil => rw [List.append_nil]
  | cons c b ih =>
    obtain ⟨hc, hb⟩ := List.forall_mem_cons.1 hb
    rw [List.append_cons, ih hb, trim_append_blank hc]

/-- trimming takes blanks off both sides of a trimmed text, and leaves the text -/
theorem trim_padded {a b : List Char} (ha : ∀ c ∈ a, isBlank c = true)
    (hb : ∀ c ∈ b, isBlank c = true) (h : Trimmed cs) : trim (a ++ (cs ++ b)) = cs := by
  have hstart : trimStart (a ++ (cs ++ b)) = trimStart (cs ++ b) :=
    List.dropWhile_append_of_pos ha
  rw [trim, hstart, ← trim, trim_append_blanks hb, h.trim_eq]

/-- trimming takes nothing but blanks -/
theorem mem_trim {c : Char} (h : c ∈ cs) (hc : isBlank c = false) : c ∈ trim cs := by
  have hdrop : ∀ l : List Char, c ∈ l → c ∈ l.dropWhile isBlank := by
    intro l hl
    rw [← List.takeWhile_append_dropWhile (p := isBlank) (l := l), List.mem_append] at hl
    refine hl.resolve_left fun htake => ?_
    rw [List.mem_takeWhile_imp htake] at hc
    cases hc
  exact List.mem_reverse.2 (hdrop _ (List.mem_reverse.2 (hdrop cs h)))

/-! ## texts put together -/

theorem trimmed_iff : trim cs = cs ↔ Trimmed cs :=
  ⟨fun h => h ▸ trimmed_trim cs, Trimmed.trim_eq⟩

instance (cs : List Char) : Decidable (Trimmed cs) := decidable_of_iff _ trimmed_iff

/-- what starts and ends with trimmed texts is trimmed -/
theorem Trimmed.append {a b : List Char} (ha : Trimmed a) (hb : Trimmed b) (hane : a ≠ [])
    (hbne : b ≠ []) (m : List Char) : Trimmed (a ++ (m ++ b)) := by
  refine ⟨fun c hc => ha.first c ?_, fun c hc => hb.last c ?_⟩
  · rwa [List.head?_append_of_ne_nil _ hane] at hc
  · rwa [← List.append_assoc, List.getLast?_append_of_ne_nil _ hbne] at hc

/-! ## lines -/

theorem lines_cons {c : Char} (hr : ∀ r, c = '\r' → cs = '\n' :: r → False) (hc : c ≠ '\n') :
    lines (c :: cs) = consHead c (lines cs) := by
  rw [lines]
  · exact hr
  · exact hc

/-- a line that does not end with a carriage return is read as it was written -/
theorem lines_append_newline (hl : '\n' ∉ l) (hr : l.getLast? ≠ some '\r') (cs : List Char) :
    lines (l ++ '\n' :: cs) = l :: lines cs := by
  induction l with
  | nil => exact lines_newline cs
  | cons c l ih =>
    obtain ⟨hc, hrest⟩ := List.ne_and_not_mem_of_not_mem_cons hl
    have hlast : l.getLast? ≠ some '\r' := by
      intro h
      rw [List.getLast?_cons, h] at hr
      exact hr rfl
    rw [List.cons_append, lines_cons ?_ (Ne.symm hc), ih hrest hlast]
    · rfl
    · rintro r rfl h
      cases l with
      | nil => exact hr rfl
      | cons d l =>
        rw [List.cons_append] at h
        exact hrest ((List.cons.inj h).1 ▸ List.mem_cons_self)

/-- a line holds no line feed -/
theorem not_mem_of_mem_lines (h : l ∈ lines cs) : '\n' ∉ l := by
  fun_induction lines cs generalizing l with
  | case1 => cases h
  | case2 cs ih =>
    rcases List.mem_cons.1 h with rfl | h
    · exact List.not_mem_nil
    · exact ih h
  | case3 cs ih =>
    rcases List.mem_cons.1 h with rfl | h
    · exact List.not_mem_nil
    · exact ih h
  | case4 c cs _ hc ih =>
    have hne : '\n' ≠ c := fun e => hc e.symm
    cases hls : lines cs with
    | nil =>
      rw [hls] at h
      rw [List.mem_singleton.1 h, List.mem_singleton]
      exact hne
    | cons m ls =>
      rw [hls] at h ih
      rcases List.mem_cons.1 h with rfl | h
      · exact List.not_mem_cons_of_ne_of_not_mem hne (ih List.mem_cons_self)
      · exact ih (List.mem_cons_of_mem _ h)

end PatternBuild.Text
