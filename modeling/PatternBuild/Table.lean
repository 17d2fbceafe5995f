/-!
# Tables: finite maps listed in key order

`Table κ α` is a finite map whose entries are kept in strictly ascending key order, so two tables
with the same bindings are the same table (`Table.ext_get?`).  The operations are described
through one view, the look-up `get?`:

* `get?_empty`, `get?_insert`, `get?_erase`   what each operation does to every look-up;
* `mem_entries_iff`                           the entries are exactly the bindings.
-/

namespace PatternBuild

/-- a finite map, its entries in strictly ascending key order -/
@[ext]
structure Table (κ α : Type) [LT κ] where
  entries : List (κ × α)
  ascending : entries.Pairwise (fun a b => a.1 < b.1)

namespace Table

/-! ## ordered association lists -/

section lists
variable {κ α : Type} [LT κ] [DecidableLT κ]

/-- bind `k` in an ascending list, at its place in the order -/
def bind (k : κ) (v : α) : List (κ × α) → List (κ × α)
  | [] => [(k, v)]
  | e :: rest =>
    if k < e.1 then (k, v) :: e :: rest
    else if e.1 < k then e :: bind k v rest
    else (k, v) :: rest

theorem bind_nil (k : κ) (v : α) : bind k v [] = [(k, v)] := rfl

theorem mem_bind {k : κ} {v : α} {e : κ × α} {l : List (κ × α)} (h : e ∈ bind k v l) :
    e = (k, v) ∨ e ∈ l := by
  induction l with
  | nil => simpa [bind] using h
  | cons a l ih =>
    unfold bind at h
    split at h
    · simpa using h
    · split at h
      · rcases List.mem_cons.1 h with h | h
        · exact .inr (by simp [h])
        · rcases ih h with h | h
          · exact .inl h
          · exact .inr (List.mem_cons_of_mem _ h)
      · rcases List.mem_cons.1 h with h | h
        · exact .inl h
        · exact .inr (List.mem_cons_of_mem _ h)

variable [LE κ] [Std.IsLinearOrder κ] [Std.LawfulOrderLT κ]

omit [DecidableLT κ] in
theorem eq_of_not_lt {a b : κ} (h : ¬a < b) (h' : ¬b < a) : a = b :=
  Std.le_antisymm (Std.not_lt.1 h') (Std.not_lt.1 h)

theorem pairwise_bind (k : κ) (v : α) {l : List (κ × α)}
    (h : l.Pairwise (fun a b => a.1 < b.1)) :
    (bind k v l).Pairwise (fun a b => a.1 < b.1) := by
  induction l with
  | nil => simp [bind]
  | cons a l ih =>
    obtain ⟨ha, hl⟩ := List.pairwise_cons.1 h
    unfold bind
    split
    · rename_i hk
      refine List.pairwise_cons.2 ⟨?_, h⟩
      intro e he
      rcases List.mem_cons.1 he with rfl | he
      · exact hk
      · exact Std.lt_trans hk (ha e he)
    · rename_i hk
      split
      · rename_i hk'
        refine List.pairwise_cons.2 ⟨?_, ih hl⟩
        intro e he
        rcases mem_bind he with rfl | he
        · exact hk'
        · exact ha e he
      · rename_i hk'
        refine List.pairwise_cons.2 ⟨?_, hl⟩
        intro e he
        have := eq_of_not_lt hk hk'
        subst this
        exact ha e he

end lists

/-! ## operations -/

variable {κ α : Type} [LT κ]

/-- the table without bindings -/
def empty : Table κ α := ⟨[], List.Pairwise.nil⟩

instance : Inhabited (Table κ α) := ⟨empty⟩

instance : EmptyCollection (Table κ α) := ⟨empty⟩

/-- the value bound to `k` -/
def get? [DecidableEq κ] (t : Table κ α) (k : κ) : Option α :=
  (t.entries.find? (fun e => e.1 = k)).map (·.2)

/-- whether `k` is bound -/
def contains [DecidableEq κ] (t : Table κ α) (k : κ) : Bool := (t.get? k).isSome

/-- the bound keys, ascending -/
def keys (t : Table κ α) : List κ := t.entries.map (·.1)

/-- the bound values, in key order -/
def values (t : Table κ α) : List α := t.entries.map (·.2)

/-- the number of bindings -/
def size (t : Table κ α) : Nat := t.entries.length

/-- unbind `k` -/
def erase [DecidableEq κ] (t : Table κ α) (k : κ) : Table κ α :=
  ⟨t.entries.filter (fun e => e.1 ≠ k), t.ascending.filter _⟩

/-- keep the bindings that satisfy `p` -/
def filter (t : Table κ α) (p : κ → α → Bool) : Table κ α :=
  ⟨t.entries.filter (fun e => p e.1 e.2), t.ascending.filter _⟩

instance [DecidableEq κ] [DecidableEq α] : DecidableEq (Table κ α) := fun s t =>
  if h : s.entries = t.entries then isTrue (Table.ext h)
  else isFalse (fun e => h (congrArg entries e))

section order
variable [DecidableLT κ] [LE κ] [Std.IsLinearOrder κ] [Std.LawfulOrderLT κ]

/-- bind `k` to `v`, replacing an earlier binding -/
def insert (t : Table κ α) (k : κ) (v : α) : Table κ α :=
  ⟨bind k v t.entries, pairwise_bind k v t.ascending⟩

/-- the table of a list of bindings; of two for one key the later wins -/
def ofList (l : List (κ × α)) : Table κ α := l.foldl (fun t e => t.insert e.1 e.2) empty

end order

/-! ## look-ups -/

section lookup
variable [DecidableEq κ]

@[simp]
theorem get?_empty (k : κ) : (empty : Table κ α).get? k = none := rfl

section
variable [LE κ] [Std.IsLinearOrder κ] [Std.LawfulOrderLT κ]

omit [Std.IsLinearOrder κ] in
theorem mem_entries_iff {t : Table κ α} {k : κ} {v : α} :
    (k, v) ∈ t.entries ↔ t.get? k = some v := by
  obtain ⟨l, hl⟩ := t
  simp only [get?]
  induction l with
  | nil => simp
  | cons a l ih =>
    obtain ⟨ha, hl'⟩ := List.pairwise_cons.1 hl
    by_cases h : a.1 = k
    · subst h
      simp only [List.mem_cons, decide_true, List.find?_cons_of_pos, Option.map_some,
        Option.some.injEq]
      constructor
      · rintro (h | h)
        · rw [← h]
        · exact absurd (ha _ h) Std.lt_irrefl
      · intro h
        exact .inl (by rw [← h])
    · have hne : (k, v) ≠ a := fun e => h (by rw [← e])
      simp only [List.mem_cons, hne, false_or, h, decide_false, Bool.false_eq_true,
        not_false_eq_true, List.find?_cons_of_neg]
      exact ih hl'

end

theorem get?_eq_none_iff {t : Table κ α} {k : κ} : t.get? k = none ↔ k ∉ t.keys := by
  simp only [get?, keys, Option.map_eq_none_iff, List.find?_eq_none, decide_eq_true_eq,
    List.mem_map, not_exists, not_and]

theorem get?_erase (t : Table κ α) (k j : κ) :
    (t.erase k).get? j = if j = k then none else t.get? j := by
  obtain ⟨l, hl⟩ := t
  simp only [get?, erase]
  clear hl
  induction l with
  | nil => simp
  | cons a l ih =>
    by_cases hk : a.1 = k
    · simp only [hk, ne_eq, not_true_eq_false, decide_false, Bool.false_eq_true,
        not_false_eq_true, List.filter_cons_of_neg]
      rw [ih]
      by_cases hj : j = k
      · simp [hj]
      · have : ¬k = j := fun e => hj e.symm
        simp [hj, hk, this]
    · simp only [ne_eq, hk, not_false_eq_true, decide_true, List.filter_cons_of_pos]
      by_cases hj : a.1 = j
      · have : j ≠ k := fun e => hk (hj.trans e)
        simp [hj, this]
      · simp only [hj, decide_false, Bool.false_eq_true, not_false_eq_true,
          List.find?_cons_of_neg]
        exact ih

section
variable [DecidableLT κ] [LE κ] [Std.IsLinearOrder κ] [Std.LawfulOrderLT κ]

theorem get?_insert (t : Table κ α) (k j : κ) (v : α) :
    (t.insert k v).get? j = if j = k then some v else t.get? j := by
  obtain ⟨l, hl⟩ := t
  simp only [get?, insert]
  induction l with
  | nil =>
    by_cases h : k = j
    · simp [bind, h]
    · have : ¬j = k := fun e => h e.symm
      simp [bind, h, this]
  | cons a l ih =>
    obtain ⟨_, hl'⟩ := List.pairwise_cons.1 hl
    unfold bind
    split
    · by_cases h : k = j
      · simp [h]
      · have : ¬j = k := fun e => h e.symm
        simp [h, this]
    · rename_i hk
      split
      · rename_i hk'
        by_cases ha : a.1 = j
        · have : ¬j = k := by
            intro e
            rw [ha, e] at hk'
            exact Std.lt_irrefl hk'
          simp [ha, this]
        · simp only [ha, decide_false, Bool.false_eq_true, not_false_eq_true,
            List.find?_cons_of_neg]
          exact ih hl'
      · rename_i hk'
        have hka := eq_of_not_lt hk hk'
        by_cases h : k = j
        · simp [h]
        · have hj : ¬j = k := fun e => h e.symm
          have ha : ¬a.1 = j := fun e => h (hka.trans e)
          simp [h, hj, ha]

theorem get?_insert_self (t : Table κ α) (k : κ) (v : α) : (t.insert k v).get? k = some v := by
  simp [get?_insert]

end

/-! ## tables with the same bindings -/

section
variable [LE κ] [Std.IsLinearOrder κ] [Std.LawfulOrderLT κ]

theorem ext_get? {s t : Table κ α} (h : ∀ k, s.get? k = t.get? k) : s = t := by
  have hm : ∀ e, e ∈ s.entries ↔ e ∈ t.entries := by
    rintro ⟨k, v⟩
    rw [mem_entries_iff, mem_entries_iff, h]
  obtain ⟨l, hl⟩ := s
  obtain ⟨m, hm'⟩ := t
  simp only at hm
  refine Table.ext ?_
  simp only
  clear h
  induction l generalizing m with
  | nil =>
    cases m with
    | nil => rfl
    | cons b m => exact absurd ((hm b).2 List.mem_cons_self) List.not_mem_nil
  | cons a l ih =>
    cases m with
    | nil => exact absurd ((hm a).1 List.mem_cons_self) List.not_mem_nil
    | cons b m =>
      obtain ⟨ha, hl'⟩ := List.pairwise_cons.1 hl
      obtain ⟨hb, hm''⟩ := List.pairwise_cons.1 hm'
      have hab : a = b := by
        rcases List.mem_cons.1 ((hm a).1 List.mem_cons_self) with h | h
        · exact h
        · rcases List.mem_cons.1 ((hm b).2 List.mem_cons_self) with h' | h'
          · exact h'.symm
          · exact absurd (Std.lt_trans (ha b h') (hb a h)) Std.lt_irrefl
      subst hab
      congr 1
      refine ih hl' m hm'' ?_
      intro e
      have he := hm e
      simp only [List.mem_cons] at he
      constructor
      · intro h
        rcases he.1 (.inr h) with rfl | h'
        · exact absurd (ha e h) Std.lt_irrefl
        · exact h'
      · intro h
        rcases he.2 (.inr h) with rfl | h'
        · exact absurd (hb e h) Std.lt_irrefl
        · exact h'

end

end lookup

end Table

end PatternBuild
