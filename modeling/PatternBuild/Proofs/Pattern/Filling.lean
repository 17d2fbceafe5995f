import PatternBuild.Proofs.Pattern.Matching
import PatternBuild.Proofs.Pattern.Substitution

/-!
# Filling a pattern with captured values

Filling gives every token a piece: literal text itself and a capture its value
(`substitute_eq_ok_iff`).  What a pattern without wildcards matched is what it is filled to with
the captures of the match (`substitute_of_matches?`), and captures of the same numbers fill any
other pattern too (`exists_substitute`).
-/

namespace PatternBuild.Pattern

open Path

variable {t : Token} {ts : List Token} {name : List Char} {ps : List (List Char)}
  {args : Captures}

/-! ## cuts piece by piece -/

/-- a cut gives every token a piece that it admits, and the pieces spell the name -/
theorem isCut_iff : IsCut ts name ps ↔ List.Forall₂ Token.Admits ts ps ∧ name = ps.flatten := by
  induction ts generalizing name ps with
  | nil =>
    cases ps with
    | nil => simp [IsCut]
    | cons p ps => simp [IsCut]
  | cons t ts ih =>
    cases ps with
    | nil => simp [IsCut]
    | cons p ps =>
      rw [List.forall₂_cons, List.flatten_cons]
      constructor
      · rintro ⟨hp, rest, rfl, hr⟩
        obtain ⟨hps, rfl⟩ := ih.1 hr
        exact ⟨⟨hp, hps⟩, rfl⟩
      · rintro ⟨⟨hp, hps⟩, rfl⟩
        exact ⟨hp, ps.flatten, rfl, ih.2 ⟨hps, rfl⟩⟩

/-- every capture takes a piece -/
theorem exists_takes {R : Token → List Char → Prop} (h : List.Forall₂ R ts ps) {n : Nat}
    (hn : n ∈ captureNumbers ts) : ∃ p, Takes ts ps n p := by
  induction h with
  | nil => cases hn
  | @cons t p ts ps _ _ ih =>
    unfold captureNumbers at hn
    rw [List.filterMap_cons] at hn
    have hrest : n ∈ captureNumbers ts → ∃ p', Takes (t :: ts) (p :: ps) n p' := by
      intro hn
      obtain ⟨p', hp'⟩ := ih hn
      exact ⟨p', List.mem_cons_of_mem _ hp'⟩
    cases t with
    | literal text => exact hrest hn
    | wildcard => exact hrest hn
    | capture m =>
      rcases List.mem_cons.1 hn with rfl | hn
      · exact ⟨p, List.mem_cons_self⟩
      · exact hrest hn

theorem mem_captureNumbers_of_takes {n : Nat} {piece : List Char} (h : Takes ts ps n piece) :
    n ∈ captureNumbers ts :=
  List.mem_filterMap.2 ⟨.capture n, (List.of_mem_zip h).1, rfl⟩

/-- what holds of every token and its piece holds of a capture and the piece that it takes -/
theorem rel_of_takes {R : Token → List Char → Prop} (h : List.Forall₂ R ts ps) {n : Nat}
    {piece : List Char} (ht : Takes ts ps n piece) : R (.capture n) piece := by
  induction h with
  | nil => cases ht
  | @cons t p ts ps hr _ ih =>
    rcases List.mem_cons.1 ht with he | ht
    · obtain ⟨rfl, rfl⟩ := Prod.mk.inj he
      exact hr
    · exact ih ht

/-! ## filling -/

/-- the piece that a token is filled to -/
def Token.Fills (args : Captures) : Token → List Char → Prop
  | .capture n, p => args.get? n = some (String.ofList p)
  | t, p => p = t.written

theorem fill_eq_ok_iff (template : String) {cs : List Char} : fill template args ts = .ok cs ↔
    ∃ ps, List.Forall₂ (Token.Fills args) ts ps ∧ cs = ps.flatten := by
  induction ts generalizing cs with
  | nil => simp [fill, eq_comm]
  | cons t ts ih =>
    -- the piece of the first token is found, and the rest is filled
    have hcons : ∀ p, t.Fills args p → (∀ p', t.Fills args p' → p' = p) →
        ((fill template args ts).map (p ++ ·) = .ok cs ↔
          ∃ ps, List.Forall₂ (Token.Fills args) (t :: ts) ps ∧ cs = ps.flatten) := by
      intro p hp hunique
      constructor
      · intro h
        cases hrest : fill template args ts with
        | error f =>
          rw [hrest] at h
          cases h
        | ok rest =>
          rw [hrest] at h
          obtain ⟨ps, hps, rfl⟩ := ih.1 hrest
          exact ⟨p :: ps, .cons hp hps, (Except.ok.inj h).symm⟩
      · rintro ⟨_, hps, rfl⟩
        cases hps with
        | cons hp' hps =>
          rw [ih.2 ⟨_, hps, rfl⟩, hunique _ hp']
          rfl
    cases t with
    | literal text => exact hcons text rfl fun _ h => h
    | wildcard => exact hcons ['*'] rfl fun _ h => h
    | capture n =>
      cases hn : args.get? n with
      | some v =>
        have hv : ∀ p, (Token.capture n).Fills args p → p = v.toList := by
          intro p hp
          have he : v = String.ofList p := Option.some.inj (hn.symm.trans hp)
          rw [he, String.toList_ofList]
        rw [fill, hn]
        exact hcons v.toList (by rw [Token.Fills, hn, String.ofList_toList]) hv
      | none =>
        rw [fill, hn]
        constructor
        · intro h
          cases h
        · rintro ⟨_, hps, _⟩
          cases hps with
          | cons hp _ =>
            rw [Token.Fills, hn] at hp
            cases hp

theorem substitute_eq_ok_iff {p : Pattern} {text : String} : p.substitute args = .ok text ↔
    ∃ ps, List.Forall₂ (Token.Fills args) p.tokens ps ∧ text.toList = ps.flatten := by
  rw [← fill_eq_ok_iff p.text]
  show (fill p.text args p.tokens).map String.ofList = .ok text ↔ _
  cases fill p.text args p.tokens with
  | error f => simp [Except.map]
  | ok cs => simp [Except.map, ← String.toList_inj, eq_comm]

/-! ## what was matched -/

/-- the pieces of a match are what its captures fill the tokens to -/
theorem fills_of_gathered (hw : .wildcard ∉ ts) (h : List.Forall₂ Token.Admits ts ps)
    (hargs : ∀ n p, Takes ts ps n p → args.get? n = some (String.ofList p)) :
    List.Forall₂ (Token.Fills args) ts ps := by
  induction h with
  | nil => exact .nil
  | @cons t p ts ps hp _ ih =>
    rw [List.mem_cons, not_or] at hw
    refine .cons ?_ (ih hw.2 fun n p' hp' => hargs n p' (List.mem_cons_of_mem _ hp'))
    cases t with
    | literal text => exact hp
    | wildcard => exact absurd rfl hw.1
    | capture n => exact hargs n p List.mem_cons_self

/-- captures that a match could have made: those of the tokens, each bound to a run of segment
characters -/
structure Suits (args : Captures) (ts : List Token) : Prop where
  admits : ∀ n v, args.get? n = some v → (Token.capture n).Admits v.toList
  bound : ∀ n, (∃ v, args.get? n = some v) ↔ n ∈ captureNumbers ts

theorem suits_of_matches? {p : Pattern} {path : String} {e : Entry}
    (h : p.matches? path = some e) : Suits e.args p.tokens := by
  obtain ⟨_, ps, hps, hargs⟩ := matches?_eq_some_iff.1 h
  have hadmits := (isCut_iff.1 hps.1).1
  have htakes : ∀ n v, e.args.get? n = some v ↔ Takes p.tokens ps n v.toList := by
    intro n v
    rw [hargs n v]
    simp
  refine ⟨fun n v hv => rel_of_takes hadmits ((htakes n v).1 hv), fun n => ⟨?_, fun hn => ?_⟩⟩
  · rintro ⟨v, hv⟩
    exact mem_captureNumbers_of_takes ((htakes n v).1 hv)
  · obtain ⟨piece, hpiece⟩ := exists_takes hadmits hn
    exact ⟨String.ofList piece, (htakes n _).2 (by rwa [String.toList_ofList])⟩

/-- a pattern without wildcards is filled to what it matched -/
theorem substitute_of_matches? {p : Pattern} (hw : .wildcard ∉ p.tokens) {path : String}
    {e : Entry} (h : p.matches? path = some e) : p.substitute e.args = .ok e.name := by
  obtain ⟨hname, ps, hps, hargs⟩ := matches?_eq_some_iff.1 h
  obtain ⟨hadmits, hflat⟩ := isCut_iff.1 hps.1
  have hbound : ∀ n piece, Takes p.tokens ps n piece →
      e.args.get? n = some (String.ofList piece) := fun n piece hp =>
    (hargs n _).2 (.inr (by rwa [String.toList_ofList]))
  rw [substitute_eq_ok_iff, hname]
  exact ⟨ps, fills_of_gathered hw hadmits hbound, hflat⟩

/-- captures of the same numbers fill a pattern -/
theorem exists_substitute {q : Pattern} (h : Suits args q.tokens) :
    ∃ text, q.substitute args = .ok text :=
  ⟨_, substitute_of_bound fun n hn => (h.bound n).2 hn⟩

end PatternBuild.Pattern
