import Mathlib.Data.List.Induction
import Mathlib.Data.List.Nodup
import PatternBuild.Table

/-!
# Keys and filters of tables

The keys of a table are the bound ones in strictly ascending order, a filter keeps the bindings
that pass it, and a table is what its own bindings make (`ofList_entries`).
-/

set_option linter.unusedSectionVars false

namespace PatternBuild.Table

variable {κ α : Type} [LT κ] [DecidableEq κ]

section
variable [LE κ] [Std.IsLinearOrder κ] [Std.LawfulOrderLT κ]

theorem mem_keys {t : Table κ α} {k : κ} : k ∈ t.keys ↔ ∃ v, t.get? k = some v := by
  simp only [keys, List.mem_map, Prod.exists, ← mem_entries_iff]
  constructor
  · rintro ⟨k', v, h, rfl⟩
    exact ⟨v, h⟩
  · rintro ⟨v, h⟩
    exact ⟨k, v, h, rfl⟩

theorem contains_iff {t : Table κ α} {k : κ} : t.contains k = true ↔ k ∈ t.keys := by
  rw [mem_keys]
  exact Option.isSome_iff_exists

theorem get?_filter_eq_some {t : Table κ α} {f : κ → α → Bool} {k : κ} {v : α} :
    (t.filter f).get? k = some v ↔ t.get? k = some v ∧ f k v = true := by
  rw [← mem_entries_iff, ← mem_entries_iff]
  exact List.mem_filter

theorem mem_keys_insert [DecidableLT κ] {t : Table κ α} {k j : κ} {v : α} :
    j ∈ (t.insert k v).keys ↔ j = k ∨ j ∈ t.keys := by
  simp only [mem_keys, get?_insert]
  by_cases h : j = k
  · simp [h]
  · simp [h]

/-- a binding behind all others is put at the end -/
theorem bind_of_forall_lt [DecidableLT κ] {l : List (κ × α)} {k : κ} (v : α)
    (h : ∀ e ∈ l, e.1 < k) : bind k v l = l ++ [(k, v)] := by
  induction l with
  | nil => rfl
  | cons e l ih =>
    obtain ⟨he, hl⟩ := List.forall_mem_cons.1 h
    have hnot : ¬k < e.1 := Std.not_lt.2 (Std.le_of_lt he)
    rw [bind, if_neg hnot, if_pos he, ih hl]
    rfl

/-- a table is the table of its bindings -/
theorem ofList_entries [DecidableLT κ] (t : Table κ α) : ofList t.entries = t := by
  have hlist : ∀ l : List (κ × α), l.Pairwise (fun a b => a.1 < b.1) →
      (ofList l).entries = l := by
    intro l hl
    induction l using List.reverseRecOn with
    | nil => rfl
    | append_singleton l e ih =>
      obtain ⟨hfront, _, hlast⟩ := List.pairwise_append.1 hl
      have hbind := bind_of_forall_lt e.2 fun a ha => hlast a ha e List.mem_cons_self
      rw [ofList, List.foldl_append, ← ofList]
      show bind e.1 e.2 (ofList l).entries = l ++ [e]
      rw [ih hfront, hbind]
  exact Table.ext (hlist t.entries t.ascending)

end

theorem keys_ascending (t : Table κ α) : t.keys.Pairwise (· < ·) :=
  List.pairwise_map.2 t.ascending

theorem keys_nodup [LE κ] [Std.IsLinearOrder κ] [Std.LawfulOrderLT κ] (t : Table κ α) :
    t.keys.Nodup := by
  refine t.keys_ascending.imp ?_
  intro a b h e
  rw [e] at h
  exact Std.lt_irrefl h

end PatternBuild.Table
