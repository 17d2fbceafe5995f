import Mathlib.Data.List.Forall2

/-!
# Computations that succeed

What is known of the parts when a computation put together from them succeeds.
-/

namespace PatternBuild

variable {ε α β : Type}

theorem exists_of_map_eq_ok {x : Except ε α} {f : α → β} {b : β} (h : x.map f = .ok b) :
    ∃ a, x = .ok a ∧ f a = b := by
  cases x with
  | error e => cases h
  | ok a => exact ⟨a, rfl, Except.ok.inj h⟩

theorem map_eq_ok_iff {x : Except ε α} {f : α → β} {b : β} :
    x.map f = .ok b ↔ ∃ a, x = .ok a ∧ f a = b := by
  refine ⟨exists_of_map_eq_ok, ?_⟩
  rintro ⟨a, rfl, rfl⟩
  rfl

theorem map_eq_error_iff {x : Except ε α} {f : α → β} {e : ε} :
    x.map f = .error e ↔ x = .error e := by
  cases x <;> simp [Except.map]

theorem exists_of_bind_eq_ok {x : Except ε α} {f : α → Except ε β} {b : β}
    (h : x >>= f = .ok b) : ∃ a, x = .ok a ∧ f a = .ok b := by
  cases x with
  | error e => cases h
  | ok a => exact ⟨a, rfl, h⟩

/-- a row of computations succeeds when each does, and yields what each yields -/
theorem mapM_eq_ok_iff {g : α → Except ε β} {l : List α} {bs : List β} :
    l.mapM g = .ok bs ↔ List.Forall₂ (fun a b => g a = .ok b) l bs := by
  induction l generalizing bs with
  | nil =>
    rw [List.forall₂_nil_left_iff]
    exact ⟨fun h => (Except.ok.inj h).symm, fun h => h ▸ rfl⟩
  | cons a l ih =>
    rw [List.mapM_cons]
    constructor
    · intro h
      obtain ⟨b, hb, h⟩ := exists_of_bind_eq_ok h
      obtain ⟨bs', hbs, h⟩ := exists_of_bind_eq_ok h
      obtain rfl := Except.ok.inj h
      exact .cons hb (ih.1 hbs)
    · intro h
      cases h with
      | cons hb hbs =>
        rw [hb, ih.2 hbs]
        rfl

/-- the fault of a row of computations is the fault of one of them -/
theorem mapM_eq_error {g : α → Except ε β} {l : List α} {f : ε}
    (h : l.mapM g = .error f) : ∃ x ∈ l, g x = .error f := by
  induction l with
  | nil => cases h
  | cons x l ih =>
    rw [List.mapM_cons] at h
    cases hx : g x with
    | error e =>
      rw [hx] at h
      cases h
      exact ⟨x, List.mem_cons_self, hx⟩
    | ok y =>
      rw [hx] at h
      cases hl : l.mapM g with
      | error e =>
        rw [hl] at h
        cases h
        obtain ⟨z, hz, he⟩ := ih hl
        exact ⟨z, List.mem_cons_of_mem _ hz, he⟩
      | ok ys =>
        rw [hl] at h
        cases h

/-- a row of computations succeeds when each does -/
theorem exists_mapM {g : α → Except ε β} {l : List α} (h : ∀ x ∈ l, ∃ b, g x = .ok b) :
    ∃ bs, l.mapM g = .ok bs := by
  cases hl : l.mapM g with
  | ok bs => exact ⟨bs, rfl⟩
  | error f =>
    obtain ⟨x, hx, hf⟩ := mapM_eq_error hl
    obtain ⟨b, hb⟩ := h x hx
    rw [hb] at hf
    cases hf

/-- a fold fails where one step fails, after steps that all succeed -/
theorem foldlM_eq_error_iff {g : β → α → Except ε β} {l : List α} {b : β} {e : ε} :
    l.foldlM g b = .error e ↔ ∃ before a after b', l = before ++ a :: after ∧
      before.foldlM g b = .ok b' ∧ g b' a = .error e := by
  constructor
  · induction l generalizing b with
    | nil =>
      intro h
      cases h
    | cons a l ih =>
      intro h
      rw [List.foldlM_cons] at h
      cases ha : g b a with
      | error e' =>
        rw [ha] at h
        cases h
        exact ⟨[], a, l, b, rfl, rfl, ha⟩
      | ok b' =>
        rw [ha] at h
        obtain ⟨before, a', after, b'', rfl, hbefore, ha'⟩ := ih h
        refine ⟨a :: before, a', after, b'', rfl, ?_, ha'⟩
        rw [List.foldlM_cons, ha]
        exact hbefore
  · rintro ⟨before, a, after, b', rfl, hbefore, ha⟩
    rw [List.foldlM_append, hbefore]
    show List.foldlM g b' (a :: after) = _
    rw [List.foldlM_cons, ha]
    rfl

/-- what is on the right of related rows has its partner on the left -/
theorem exists_left_of_mem {R : α → β → Prop} {l : List α} {bs : List β} {b : β}
    (h : List.Forall₂ R l bs) (hb : b ∈ bs) : ∃ a ∈ l, R a b := by
  induction h with
  | nil => cases hb
  | @cons a b' l bs hab _ ih =>
    rcases List.mem_cons.1 hb with rfl | hb
    · exact ⟨a, List.mem_cons_self, hab⟩
    · obtain ⟨a', ha', h⟩ := ih hb
      exact ⟨a', List.mem_cons_of_mem a ha', h⟩

end PatternBuild
