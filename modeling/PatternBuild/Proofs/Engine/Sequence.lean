import PatternBuild.Engine.Action

/-!
# Actions in turn

What `Action.perform` makes of the ways to put actions together.  `thenOn` is the rule of sequence
on outcomes: only code 0 lets the rest go on.

* `perform_bind`              one action after another;
* `perform_inTurn_cons`       actions in turn: the first, and the rest unless it failed;
* `perform_sequence_cons`     a sequence does its first action, `thenOn` the rest;
* `perform_sequence_append`   so a sequence may be cut anywhere.

`World.logged` runs everything as a world does and also keeps the invocations made, in order, each
with its outcome.  A law that holds in every world holds in the logged one, and so tells what is
run and not only how it ends.
-/

namespace PatternBuild

/-! ## logged worlds -/

/-- an invocation that was made, and its outcome -/
abbrev LogEntry := Invocation × Except Fault Int

/-- the same world, keeping a log -/
def World.logged {σ : Type} (w : World σ) : World (σ × List LogEntry) where
  execute i := ExceptT.mk fun (s, log) =>
    let (r, s) := (w.execute i).perform s
    (r, (s, log ++ [(i, r)]))
  files s := w.files s.1

namespace Action

variable {σ α β : Type}

/-! ## going on after code 0 -/

/-- go on after code 0; any other code and any fault stay -/
def thenOn (r : Except Fault Int × σ) (next : σ → Except Fault Int × σ) : Except Fault Int × σ :=
  match r with
  | (.ok code, s) => if code = 0 then next s else (.ok code, s)
  | (.error f, s) => (.error f, s)

theorem thenOn_zero (s : σ) (next : σ → Except Fault Int × σ) :
    thenOn (.ok 0, s) next = next s := rfl

theorem thenOn_code {code : Int} (h : code ≠ 0) (s : σ) (next : σ → Except Fault Int × σ) :
    thenOn (.ok code, s) next = (.ok code, s) := if_neg h

theorem thenOn_assoc (r : Except Fault Int × σ) (f g : σ → Except Fault Int × σ) :
    thenOn (thenOn r f) g = thenOn r fun s => thenOn (f s) g := by
  obtain ⟨fault | code, s⟩ := r
  · rfl
  · by_cases h : code = 0
    · subst h
      rfl
    · rw [thenOn_code h, thenOn_code h, thenOn_code h]

/-- only the state reached matters to what comes next -/
theorem thenOn_congr {r : Except Fault Int × σ} {f g : σ → Except Fault Int × σ}
    (h : f r.2 = g r.2) : thenOn r f = thenOn r g := by
  obtain ⟨fault | code, s⟩ := r
  · rfl
  · by_cases hc : code = 0
    · subst hc
      exact h
    · rw [thenOn_code hc, thenOn_code hc]

/-- nothing to go on with -/
theorem thenOn_done (r : Except Fault Int × σ) : thenOn r (fun s => (.ok 0, s)) = r := by
  obtain ⟨fault | code, s⟩ := r
  · rfl
  · by_cases h : code = 0
    · subst h
      rfl
    · exact thenOn_code h _ _

/-- a property of states that goes on holds at the end -/
theorem thenOn_keeps {I : σ → Prop} {r : Except Fault Int × σ} {next : σ → Except Fault Int × σ}
    (hr : I r.2) (h : ∀ s, I s → I (next s).2) : I (thenOn r next).2 := by
  obtain ⟨fault | code, s⟩ := r
  · exact hr
  · by_cases hc : code = 0
    · subst hc
      exact h s hr
    · rw [thenOn_code hc]
      exact hr

/-- a fault was there before, or came after code 0 -/
theorem eq_error_of_thenOn {r : Except Fault Int × σ} {next : σ → Except Fault Int × σ}
    {f : Fault} {s' : σ} (h : thenOn r next = (.error f, s')) :
    r = (.error f, s') ∨ ∃ s, r = (.ok 0, s) ∧ next s = (.error f, s') := by
  obtain ⟨fault | code, s⟩ := r
  · exact .inl h
  · by_cases hc : code = 0
    · subst hc
      exact .inr ⟨s, rfl, h⟩
    · rw [thenOn_code hc] at h
      cases h

/-! ## performing -/

theorem perform_ext {a b : Action σ α} (h : ∀ s, a.perform s = b.perform s) : a = b := funext h

theorem perform_pure (x : α) (s : σ) : (pure x : Action σ α).perform s = (.ok x, s) := rfl

theorem perform_bind (a : Action σ α) (next : α → Action σ β) (s : σ) :
    (a >>= next).perform s = match a.perform s with
      | (.ok x, s') => (next x).perform s'
      | (.error f, s') => (.error f, s') := by
  unfold perform ExceptT.run StateT.run
  simp only [bind, ExceptT.bind, ExceptT.mk, StateT.bind]
  rcases a s with ⟨f | x, s'⟩ <;> rfl

theorem perform_map (g : α → β) (a : Action σ α) (s : σ) :
    (g <$> a).perform s = ((a.perform s).1.map g, (a.perform s).2) := by
  rw [map_eq_pure_bind, perform_bind]
  rcases a.perform s with ⟨f | x, s'⟩ <;> rfl

/-! ## sequences -/

/-- the first action decides whether the rest is run -/
theorem perform_inTurn_cons (a : Action σ (Option Int)) (rest : List (Action σ (Option Int)))
    (s : σ) : (inTurn (a :: rest)).perform s = match a.perform s with
      | (.ok none, s') => (inTurn rest).perform s'
      | (.ok (some code), s') =>
        if code = 0 then
          (((inTurn rest).perform s').1.map fun c => some (c.getD 0), ((inTurn rest).perform s').2)
        else (.ok (some code), s')
      | (.error f, s') => (.error f, s') := by
  rw [inTurn, perform_bind]
  rcases a.perform s with ⟨f | _ | code, s'⟩
  · rfl
  · rfl
  · by_cases h : code = 0
    · subst h
      simp only [ne_eq, not_true_eq_false, if_false, if_true]
      rw [perform_bind]
      rcases (inTurn rest).perform s' with ⟨f | c, s''⟩ <;> rfl
    · simp [h, perform_pure]

/-- a sequence is actions in turn, where nothing to do counts as code 0 -/
theorem sequence_eq_map (l : List (Action σ Int)) :
    sequence l = (·.getD 0) <$> inTurn (l.map fun a => some <$> a) := (map_eq_pure_bind _ _).symm

theorem perform_sequence_cons (a : Action σ Int) (rest : List (Action σ Int)) (s : σ) :
    (sequence (a :: rest)).perform s = thenOn (a.perform s) (sequence rest).perform := by
  simp only [sequence_eq_map, List.map_cons, perform_map, perform_inTurn_cons]
  rcases a.perform s with ⟨f | code, s'⟩
  · rfl
  · by_cases h : code = 0
    · subst h
      rw [thenOn_zero, perform_map]
      simp only [Except.map, if_true]
      rcases (inTurn (rest.map fun a => some <$> a)).perform s' with ⟨f | code?, s''⟩ <;> rfl
    · rw [thenOn_code h]
      simp only [Except.map, if_neg h, Option.getD_some]

theorem perform_sequence_append (as bs : List (Action σ Int)) (s : σ) :
    (sequence (as ++ bs)).perform s =
      thenOn ((sequence as).perform s) (sequence bs).perform := by
  induction as generalizing s with
  | nil => rfl
  | cons a as ih =>
    rw [List.cons_append, perform_sequence_cons, perform_sequence_cons, thenOn_assoc]
    congr 1
    funext s'
    exact ih s'

/-- sequences one after the other are one sequence -/
theorem sequence_flatMap {ι : Type} (l : List ι) (g : ι → List (Action σ Int)) :
    sequence (l.flatMap g) = sequence (l.map fun x => sequence (g x)) := by
  refine perform_ext fun s => ?_
  induction l generalizing s with
  | nil => rfl
  | cons x l ih =>
    rw [List.flatMap_cons, perform_sequence_append, List.map_cons, perform_sequence_cons]
    congr 1
    funext s'
    exact ih s'

theorem sequence_append (as bs : List (Action σ Int)) :
    sequence (as ++ bs) = sequence [sequence as, sequence bs] := by
  have h := sequence_flatMap [as, bs] id
  simpa using h

end Action

end PatternBuild
