import PatternBuild.Proofs.Pattern.Greediest

/-!
# What a match is

A cut gives every capture a piece (`Takes`), and captures with one number may take different ones
unless the cut `Agrees`.  `gather` collects the pieces exactly when they agree
(`gather_eq_some_iff`), so a pattern matches a path when the greediest cut of the clean path
agrees, and its captures are the pieces of that cut (`match_is_greediest_cut`).
-/

namespace PatternBuild.Pattern

open Path

/-! ## the pieces of the captures -/

/-- a capture with the given number takes a piece -/
def Takes (ts : List Token) (ps : List (List Char)) (n : Nat) (piece : List Char) : Prop :=
  (.capture n, piece) ∈ ts.zip ps

/-- captures with the same number take the same piece -/
def Agrees (ts : List Token) (ps : List (List Char)) : Prop :=
  ∀ n p q, Takes ts ps n p → Takes ts ps n q → p = q

variable {t : Token} {ts : List Token} {p piece : List Char} {ps : List (List Char)} {n m : Nat}
  {args : Captures}

theorem takes_capture_cons :
    Takes (.capture m :: ts) (p :: ps) n piece ↔ n = m ∧ piece = p ∨ Takes ts ps n piece := by
  simp [Takes]

theorem takes_cons_of_ne (h : ∀ n, t ≠ .capture n) :
    Takes (t :: ts) (p :: ps) n piece ↔ Takes ts ps n piece := by
  have hne : ¬.capture n = t := fun e => h n e.symm
  simp [Takes, hne]

theorem Agrees.tail (h : Agrees (t :: ts) (p :: ps)) : Agrees ts ps :=
  fun n x y hx hy => h n x y (List.mem_cons_of_mem _ hx) (List.mem_cons_of_mem _ hy)

/-! ## gathering -/

/-- `args` with the pieces of a cut -/
def Gathered (ts : List Token) (ps : List (List Char)) (args all : Captures) : Prop :=
  ∀ n v, all.get? n = some v ↔ args.get? n = some v ∨ Takes ts ps n v.toList

variable {all : Captures}

theorem Gathered.agrees (h : Gathered ts ps args all) : Agrees ts ps := by
  intro n p q hp hq
  have hget : ∀ p, Takes ts ps n p → all.get? n = some (String.ofList p) := fun p hp =>
    (h n _).2 (.inr (by rwa [String.toList_ofList]))
  exact String.ofList_injective (Option.some.inj ((hget p hp).symm.trans (hget q hq)))

/-- without pieces nothing is added -/
theorem gathered_of_zip_eq_nil (h : ts.zip ps = []) : Gathered ts ps args all ↔ args = all := by
  simp only [Gathered, Takes, h, List.not_mem_nil, or_false]
  constructor
  · intro h
    exact Table.ext_get? fun k => Option.ext fun v => (h k v).symm
  · rintro rfl n v
    exact Iff.rfl

/-- a piece of a capture that is bound already has to be what it is bound to -/
theorem gathered_capture_of_bound {v : String} (h : args.get? m = some v) :
    Gathered (.capture m :: ts) (p :: ps) args all ↔ v.toList = p ∧ Gathered ts ps args all := by
  simp only [Gathered, takes_capture_cons]
  constructor
  · intro hall
    have hp : v.toList = p := by
      have hv := (hall m v).2 (.inl h)
      have hp := (hall m (String.ofList p)).2 (.inr (.inl ⟨rfl, String.toList_ofList⟩))
      rw [hv] at hp
      rw [Option.some.inj hp, String.toList_ofList]
    refine ⟨hp, fun n u => (hall n u).trans ⟨?_, Or.imp_right .inr⟩⟩
    rintro (hu | ⟨rfl, hu⟩ | hu)
    · exact .inl hu
    · rw [← hp] at hu
      rw [String.toList_injective hu]
      exact .inl h
    · exact .inr hu
  · rintro ⟨rfl, hall⟩ n u
    refine (hall n u).trans ⟨Or.imp_right .inr, ?_⟩
    rintro (hu | ⟨rfl, hu⟩ | hu)
    · exact .inl hu
    · rw [String.toList_injective hu]
      exact .inl h
    · exact .inr hu

theorem gathered_capture_of_unbound (h : args.get? m = none) :
    Gathered (.capture m :: ts) (p :: ps) args all ↔
      Gathered ts ps (args.insert m (String.ofList p)) all := by
  simp only [Gathered, takes_capture_cons, Table.get?_insert]
  refine forall_congr' fun n => forall_congr' fun u => iff_congr Iff.rfl ?_
  by_cases hn : n = m
  · subst hn
    have hu : u.toList = p ↔ String.ofList p = u := by
      constructor
      · rintro rfl
        exact String.ofList_toList
      · rintro rfl
        exact String.toList_ofList
    simp [h, hu]
  · simp [hn]

/-- gathering yields the pieces of the cut beside what was there -/
theorem gather_eq_some_iff : gather ts ps args = some all ↔ Gathered ts ps args all := by
  induction ts generalizing ps args with
  | nil => exact Option.some_inj.trans (gathered_of_zip_eq_nil rfl).symm
  | cons t ts ih =>
    cases ps with
    | nil =>
      have hnil : gather (t :: ts) [] args = some args := by cases t <;> rfl
      rw [hnil]
      exact Option.some_inj.trans (gathered_of_zip_eq_nil rfl).symm
    | cons p ps =>
      have hskip : (∀ n, t ≠ .capture n) →
          (gather ts ps args = some all ↔ Gathered (t :: ts) (p :: ps) args all) := by
        intro ht
        simp only [ih, Gathered, takes_cons_of_ne ht]
      cases t with
      | literal text => exact hskip fun n => Token.noConfusion
      | wildcard => exact hskip fun n => Token.noConfusion
      | capture m =>
        cases hm : args.get? m with
        | none =>
          rw [gathered_capture_of_unbound hm, gather, hm]
          exact ih
        | some v =>
          rw [gathered_capture_of_bound hm, ← ih, gather, hm]
          by_cases hv : v.toList = p
          · simp [hv]
          · simp [hv]

/-- pieces that agree, with each other and with what is bound already, are gathered -/
theorem exists_gather (hargs : ∀ n v p, args.get? n = some v → Takes ts ps n p → v.toList = p)
    (h : Agrees ts ps) : ∃ all, gather ts ps args = some all := by
  induction ts generalizing ps args with
  | nil => exact ⟨args, rfl⟩
  | cons t ts ih =>
    cases ps with
    | nil => exact ⟨args, by cases t <;> rfl⟩
    | cons p ps =>
      have hrest : ∃ all, gather ts ps args = some all :=
        ih (fun n v q hv hq => hargs n v q hv (List.mem_cons_of_mem _ hq)) h.tail
      cases t with
      | literal text => exact hrest
      | wildcard => exact hrest
      | capture m =>
        have hp : Takes (.capture m :: ts) (p :: ps) m p := List.mem_cons_self
        cases hm : args.get? m with
        | some v =>
          rw [gather, hm]
          simpa [hargs m v p hm hp] using hrest
        | none =>
          rw [gather, hm]
          refine ih (fun n v q hv hq => ?_) h.tail
          rw [Table.get?_insert] at hv
          split at hv
          · rename_i hn
            subst hn
            rw [← Option.some.inj hv, String.toList_ofList]
            exact h n p q hp (List.mem_cons_of_mem _ hq)
          · exact hargs n v q hv (List.mem_cons_of_mem _ hq)

/-! ## matches -/

/-- a pattern makes the same of all spellings of a path -/
theorem matches?_congr {p : Pattern} {a b : String} (h : clean a = clean b) :
    p.matches? a = p.matches? b := by
  unfold matches?
  rw [h]

theorem matches?_eq_some_iff {p : Pattern} {path : String} {e : Entry} :
    p.matches? path = some e ↔ e.name = clean path ∧
      ∃ ps, IsGreediest p.tokens (clean path).toList ps ∧ Gathered p.tokens ps .empty e.args := by
  simp only [← cut?_eq_some_iff, ← gather_eq_some_iff]
  constructor
  · intro h
    obtain ⟨ps, hps, h⟩ := Option.bind_eq_some_iff.1 h
    obtain ⟨args, hargs, h⟩ := Option.bind_eq_some_iff.1 h
    obtain rfl := Option.some.inj h
    exact ⟨rfl, ps, hps, hargs⟩
  · rintro ⟨hname, ps, hps, hargs⟩
    show ((cut? p.tokens (clean path).toList).bind fun pieces =>
      (gather p.tokens pieces .empty).bind fun args => some ⟨clean path, args⟩) = some e
    rw [hps, Option.bind_some, hargs, Option.bind_some, ← hname]

/-- **A match is the greediest cut, if it agrees.**  A clean path that can be cut among the tokens
of a clean pattern text has one cut whose pieces are longest, compared from left to right; literal
text takes the same piece in every cut.  The pattern matches the path exactly when there is a cut
and, in the greediest one, captures with the same number take the same piece.  The entry is then
named by the clean path, and its captures are exactly those pieces. -/
theorem match_is_greediest_cut (text path : String) :
    ((∃ ps, IsCut (tokenize (clean text).toList) (clean path).toList ps) →
      ∃! ps, IsGreediest (tokenize (clean text).toList) (clean path).toList ps) ∧
    ((∃ e, (compile text).matches? path = some e) ↔
      (∃ ps, IsCut (tokenize (clean text).toList) (clean path).toList ps) ∧
        ∀ ps, IsGreediest (tokenize (clean text).toList) (clean path).toList ps →
          Agrees (tokenize (clean text).toList) ps) ∧
    ∀ e, (compile text).matches? path = some e → e.name = clean path ∧
      ∀ ps, IsGreediest (tokenize (clean text).toList) (clean path).toList ps →
        ∀ n v, e.args.get? n = some v ↔ Takes (tokenize (clean text).toList) ps n v.toList := by
  have htokens : (compile text).tokens = tokenize (clean text).toList := rfl
  simp only [matches?_eq_some_iff, htokens]
  generalize tokenize (clean text).toList = ts
  refine ⟨fun hcut => ?_, ⟨?_, ?_⟩, ?_⟩
  · obtain ⟨ps, hps⟩ := exists_cut? hcut
    exact ⟨ps, isGreediest_of_cut? hps, fun qs hqs => hqs.unique (isGreediest_of_cut? hps)⟩
  · rintro ⟨e, _, ps, hps, hargs⟩
    refine ⟨⟨ps, hps.1⟩, fun qs hqs => ?_⟩
    rw [hqs.unique hps]
    exact hargs.agrees
  · rintro ⟨hcut, hagrees⟩
    obtain ⟨ps, hps⟩ := exists_cut? hcut
    have hps := isGreediest_of_cut? hps
    have hnone : ∀ n v p, (Table.empty : Captures).get? n = some v → Takes ts ps n p →
        v.toList = p := fun n v p h => by cases h
    obtain ⟨args, hargs⟩ := exists_gather hnone (hagrees ps hps)
    exact ⟨⟨clean path, args⟩, rfl, ps, hps, gather_eq_some_iff.1 hargs⟩
  · rintro e ⟨hname, ps, hps, hargs⟩
    refine ⟨hname, fun qs hqs n v => ?_⟩
    rw [hqs.unique hps, hargs n v]
    simp

/-- the greediest cut counts even where another one would agree -/
example : (compile "$1$1").matches? "abab" = none := by decide

end PatternBuild.Pattern
