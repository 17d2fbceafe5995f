import PatternBuild.Path.Clean

/-!
# Cutting paths and joining parts

`parts` and `joinParts` undo each other on parts without slashes, and cutting at any one slash cuts
the parts in two (`parts_append`).
-/

namespace PatternBuild.Path

open Text

/-! ## cutting -/

theorem parts_slash (cs : List Char) : parts ('/' :: cs) = [] :: parts cs := rfl

theorem parts_cons {c : Char} (h : c ≠ '/') (cs : List Char) :
    parts (c :: cs) = consHead c (parts cs) := by
  have hb : (c == '/') = false := beq_false_of_ne h
  show (if (c == '/') = true then _ else _) = _
  rw [hb]
  rfl

theorem parts_ne_nil (cs : List Char) : parts cs ≠ [] := splitOn_ne_nil _ cs

theorem consHead_append {ps : List Part} (h : ps ≠ []) (c : Char) (qs : List Part) :
    consHead c (ps ++ qs) = consHead c ps ++ qs := by
  cases ps with
  | nil => exact absurd rfl h
  | cons p ps => rfl

/-- a slash cuts the parts in two -/
theorem parts_append (a b : List Char) : parts (a ++ '/' :: b) = parts a ++ parts b := by
  induction a with
  | nil => rfl
  | cons c a ih =>
    by_cases h : c = '/'
    · subst h
      rw [List.cons_append, parts_slash, ih]
      rfl
    · rw [List.cons_append, parts_cons h, parts_cons h, ih, consHead_append (parts_ne_nil a)]

theorem parts_of_not_mem {p : Part} (h : '/' ∉ p) : parts p = [p] := by
  induction p with
  | nil => rfl
  | cons c p ih =>
    obtain ⟨hc, hp⟩ := List.ne_and_not_mem_of_not_mem_cons h
    rw [parts_cons (Ne.symm hc), ih hp]
    rfl

theorem not_mem_of_mem_parts {cs : List Char} {p : Part} (h : p ∈ parts cs) : '/' ∉ p := by
  induction cs generalizing p with
  | nil =>
    rw [List.mem_singleton.1 h]
    exact List.not_mem_nil
  | cons c cs ih =>
    by_cases hc : c = '/'
    · subst hc
      rcases List.mem_cons.1 h with rfl | h
      · exact List.not_mem_nil
      · exact ih h
    · rw [parts_cons hc] at h
      cases hps : parts cs with
      | nil => exact absurd hps (parts_ne_nil cs)
      | cons q qs =>
        rw [hps] at h ih
        rcases List.mem_cons.1 h with rfl | h
        · exact List.not_mem_cons_of_ne_of_not_mem (Ne.symm hc) (ih List.mem_cons_self)
        · exact ih (List.mem_cons_of_mem _ h)

/-- the parts of a path that are neither empty nor `.` -/
def solidParts (cs : List Char) : List Part := (parts cs).filter fun q => q ≠ [] ∧ q ≠ dot

theorem mem_solidParts {cs : List Char} {p : Part} :
    p ∈ solidParts cs ↔ p ∈ parts cs ∧ p ≠ [] ∧ p ≠ dot := by
  simp [solidParts]

/-- solid parts can be joined and cut again -/
theorem solid_of_mem {cs : List Char} {p : Part} (h : p ∈ solidParts cs) :
    p ≠ [] ∧ p ≠ dot ∧ '/' ∉ p := by
  obtain ⟨hp, hne, hdot⟩ := mem_solidParts.1 h
  exact ⟨hne, hdot, not_mem_of_mem_parts hp⟩

/-! ## joining -/

theorem joinParts_cons_of_ne_nil (p : Part) {ps : List Part} (h : ps ≠ []) :
    joinParts (p :: ps) = p ++ '/' :: joinParts ps := by
  cases ps with
  | nil => exact absurd rfl h
  | cons q ps => rfl

theorem joinParts_consHead {ps : List Part} (h : ps ≠ []) (c : Char) :
    joinParts (consHead c ps) = c :: joinParts ps := by
  cases ps with
  | nil => exact absurd rfl h
  | cons p ps =>
    cases ps with
    | nil => rfl
    | cons q ps => rfl

/-- joining undoes cutting -/
theorem joinParts_parts (cs : List Char) : joinParts (parts cs) = cs := by
  induction cs with
  | nil => rfl
  | cons c cs ih =>
    by_cases h : c = '/'
    · subst h
      rw [parts_slash, joinParts_cons_of_ne_nil _ (parts_ne_nil cs), ih]
      rfl
    · rw [parts_cons h, joinParts_consHead (parts_ne_nil cs), ih]

/-- cutting undoes joining -/
theorem parts_joinParts {ps : List Part} (hne : ps ≠ []) (h : ∀ p ∈ ps, '/' ∉ p) :
    parts (joinParts ps) = ps := by
  induction ps with
  | nil => exact absurd rfl hne
  | cons p ps ih =>
    have hp : parts p = [p] := parts_of_not_mem (h p List.mem_cons_self)
    by_cases hps : ps = []
    · subst hps
      exact hp
    · rw [joinParts_cons_of_ne_nil p hps, parts_append, hp,
        ih hps fun q hq => h q (List.mem_cons_of_mem _ hq)]
      rfl

/-! ## the root -/

theorem isRooted_iff {cs : List Char} : isRooted cs = true ↔ ∃ rest, cs = '/' :: rest := by
  constructor
  · intro h
    unfold isRooted at h
    split at h
    · exact ⟨_, rfl⟩
    · cases h
  · rintro ⟨rest, rfl⟩
    rfl

/-- a path is rooted when its first part is empty and it has another one -/
theorem isRooted_iff_parts {cs : List Char} :
    isRooted cs = true ↔ ∃ p ps, parts cs = [] :: p :: ps := by
  rw [isRooted_iff]
  constructor
  · rintro ⟨rest, rfl⟩
    obtain ⟨p, ps, h⟩ := List.exists_cons_of_ne_nil (parts_ne_nil rest)
    exact ⟨p, ps, by rw [parts_slash, h]⟩
  · rintro ⟨p, ps, h⟩
    refine ⟨joinParts (p :: ps), ?_⟩
    rw [← joinParts_parts cs, h]
    rfl

theorem isRooted_append {a : List Char} (h : a ≠ []) (b : List Char) :
    isRooted (a ++ b) = isRooted a := by
  cases a with
  | nil => exact absurd rfl h
  | cons c a =>
    by_cases hc : c = '/'
    · subst hc
      rfl
    · simp [isRooted, hc]

theorem isRooted_of_not_mem {cs : List Char} (h : '/' ∉ cs) : isRooted cs = false := by
  rw [← Bool.not_eq_true, isRooted_iff]
  rintro ⟨rest, rfl⟩
  exact h List.mem_cons_self

end PatternBuild.Path
