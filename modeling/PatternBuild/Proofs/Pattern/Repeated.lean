import PatternBuild.Proofs.Pattern.Separated

/-!
# Captures that occur more than once

A pattern settles on the greediest cut of a path before it compares the pieces of equal captures, so
it can reject a path that another cut would spell: `$1$1` rejects `abab`
(`adjacent_repeat_rejected`).  Where each occurrence of a repeated capture stands apart from all
other captures and wildcards (`RepeatsApart`), every cut gives it the same piece, and so all cuts
agree as soon as one does (`IsCut.agrees`).  Then no path is rejected that some values spell
(`repeated_captures_match`).
-/

namespace PatternBuild.Pattern

open Path

variable {t : Token} {ts before after : List Token} {name x y p q : List Char}
  {ps qs : List (List Char)} {n : Nat}

/-! ## what stands apart -/

/-- each occurrence of a capture that occurs more than once has literal text with a character that
no capture takes between itself and any other capture or wildcard -/
def RepeatsApart (ts : List Token) : Prop :=
  ∀ before n after, ts = before ++ .capture n :: after →
    n ∈ captureNumbers (before ++ after) → Fenced before.reverse ∧ Fenced after

theorem not_fenced (h : t.isDynamic = true) : ¬Fenced (t :: ts) := by
  intro hf
  obtain ⟨text, ht, _⟩ := hf [] t ts rfl h
  exact List.not_mem_nil ht

theorem fenced_literal {text : List Char} :
    Fenced (.literal text :: ts) ↔ text.all isSegment = false ∨ Fenced ts := by
  constructor
  · intro h
    refine (Decidable.em (text.all isSegment = false)).imp id fun hall => ?_
    rintro between t after rfl ht
    exact (divides_literal.1 (h (.literal text :: between) t after rfl ht)).resolve_left hall
  · intro h between t after he ht
    cases between with
    | nil =>
      rw [← (List.cons.inj he).1] at ht
      cases ht
    | cons u between =>
      obtain ⟨rfl, hts⟩ := List.cons.inj he
      exact divides_literal.2 (h.imp id fun hf => hf between t after hts ht)

/-- one walk up to the first capture or wildcard -/
def fenced : List Token → Bool
  | [] => true
  | .literal text :: ts => !text.all isSegment || fenced ts
  | _ :: _ => false

theorem fenced_iff : fenced ts = true ↔ Fenced ts := by
  induction ts with
  | nil => simp [fenced, Fenced]
  | cons t ts ih =>
    cases t with
    | literal text => simp [fenced, fenced_literal, ih]
    | capture n => simp [fenced, not_fenced (t := .capture n) rfl]
    | wildcard => simp [fenced, not_fenced (t := .wildcard) rfl]

/-- one walk over the tokens; those passed are kept, the last one first -/
def repeatsApartAfter (passed : List Token) : List Token → Bool
  | [] => true
  | .capture n :: ts =>
    (!(captureNumbers (passed ++ ts)).contains n || fenced passed && fenced ts) &&
      repeatsApartAfter (.capture n :: passed) ts
  | t :: ts => repeatsApartAfter (t :: passed) ts

theorem repeatsApartAfter_iff {passed : List Token} : repeatsApartAfter passed ts = true ↔
    ∀ before n after, ts = before ++ .capture n :: after →
      n ∈ captureNumbers (before.reverse ++ passed ++ after) →
      Fenced (before.reverse ++ passed) ∧ Fenced after := by
  induction ts generalizing passed with
  | nil => simp [repeatsApartAfter]
  | cons t ts ih =>
    -- the tokens after the first one, told from one token further on
    have hrest : repeatsApartAfter (t :: passed) ts = true ↔
        ∀ before n after, t :: ts = t :: before ++ .capture n :: after →
          n ∈ captureNumbers ((t :: before).reverse ++ passed ++ after) →
          Fenced ((t :: before).reverse ++ passed) ∧ Fenced after := by
      simp [ih]
    have hskip : (∀ n, t ≠ .capture n) → (repeatsApartAfter (t :: passed) ts = true ↔
        ∀ before n after, t :: ts = before ++ .capture n :: after →
          n ∈ captureNumbers (before.reverse ++ passed ++ after) →
          Fenced (before.reverse ++ passed) ∧ Fenced after) := by
      intro ht
      rw [hrest]
      constructor
      · intro h before n after he
        cases before with
        | nil => exact absurd (List.cons.inj he).1 (ht n)
        | cons u before =>
          obtain rfl : t = u := (List.cons.inj he).1
          exact h before n after he
      · exact fun h before n after he => h (t :: before) n after he
    cases t with
    | literal text => exact hskip fun n => Token.noConfusion
    | wildcard => exact hskip fun n => Token.noConfusion
    | capture m =>
      have hfirst : (!(captureNumbers (passed ++ ts)).contains m || fenced passed && fenced ts) =
          true ↔ (m ∈ captureNumbers (passed ++ ts) → Fenced passed ∧ Fenced ts) := by
        simp only [Bool.or_eq_true, Bool.not_eq_true', Bool.and_eq_true, fenced_iff,
          ← Bool.not_eq_true, List.contains_iff_mem]
        exact imp_iff_not_or.symm
      rw [repeatsApartAfter, Bool.and_eq_true, hfirst, hrest]
      constructor
      · rintro ⟨hm, h⟩ before n after he
        cases before with
        | nil =>
          obtain ⟨hn, rfl⟩ := List.cons.inj he
          obtain rfl := Token.capture.inj hn
          exact hm
        | cons u before =>
          obtain rfl : Token.capture m = u := (List.cons.inj he).1
          exact h before n after he
      · intro h
        exact ⟨h [] m ts rfl, fun before n after he => h (.capture m :: before) n after he⟩

theorem mem_captureNumbers_reverse : n ∈ captureNumbers ts.reverse ↔ n ∈ captureNumbers ts := by
  simp [captureNumbers]

instance (ts : List Token) : Decidable (RepeatsApart ts) :=
  decidable_of_iff (repeatsApartAfter [] ts = true) (by
    rw [repeatsApartAfter_iff]
    simp only [List.append_nil, RepeatsApart, captureNumbers_append, List.mem_append,
      mem_captureNumbers_reverse])

/-! ## two cuts of one name -/

/-- texts that come together again when each is put after a run of segment characters -/
def Shifted (x y : List Char) : Prop :=
  ∃ p q, (∀ c ∈ p, isSegment c = true) ∧ (∀ c ∈ q, isSegment c = true) ∧ p ++ x = q ++ y

theorem Shifted.of_eq (h : x = y) : Shifted x y :=
  ⟨[], [], List.forall_mem_nil _, List.forall_mem_nil _, h⟩

/-- what is read from each text is segment characters -/
theorem Shifted.drop (hp : ∀ c ∈ p, isSegment c = true) (hq : ∀ c ∈ q, isSegment c = true)
    (h : Shifted (p ++ x) (q ++ y)) : Shifted x y := by
  obtain ⟨p', q', hp', hq', he⟩ := h
  refine ⟨p' ++ p, q' ++ q, List.forall_mem_append.2 ⟨hp', hp⟩,
    List.forall_mem_append.2 ⟨hq', hq⟩, ?_⟩
  rw [List.append_assoc, List.append_assoc, he]

/-- literal text with another character brings the two together -/
theorem Shifted.meet {text : List Char} (ht : ∃ c ∈ text, isSegment c = false)
    (h : Shifted (text ++ x) (text ++ y)) : x = y := by
  obtain ⟨p, q, hp, hq, he⟩ := h
  obtain rfl := run_unique hp hq ht he
  exact List.append_cancel_left (List.append_cancel_left he)

theorem Token.Admits.segments (h : t.Admits p) (ht : t.isDynamic = true) :
    ∀ c ∈ p, isSegment c = true := by
  cases t with
  | literal text => cases ht
  | capture n => exact h.2
  | wildcard => exact h.2

/-- two cuts stay within a run of segment characters of each other -/
theorem shifted_of_cuts (hps : List.Forall₂ Token.Admits ts ps)
    (hqs : List.Forall₂ Token.Admits ts qs) (h : Shifted (ps.flatten ++ x) (qs.flatten ++ y)) :
    Shifted x y := by
  induction hps generalizing qs with
  | nil =>
    cases hqs
    exact h
  | @cons t p ts ps hp _ ih =>
    obtain ⟨q, qs, hq, hqs', rfl⟩ := List.forall₂_cons_left_iff.1 hqs
    rw [List.flatten_cons, List.append_assoc, List.flatten_cons, List.append_assoc] at h
    refine ih hqs' ?_
    by_cases ht : t.isDynamic = true
    · exact h.drop (hp.segments ht) (hq.segments ht)
    · cases t with
      | capture n => exact absurd rfl ht
      | wildcard => exact absurd rfl ht
      | literal text =>
        obtain rfl : p = text := hp
        obtain rfl : q = p := hq
        by_cases hall : ∀ c ∈ q, isSegment c = true
        · exact h.drop hall hall
        · have hdivides : ∃ c ∈ q, isSegment c = false := by simpa using hall
          exact Shifted.of_eq (h.meet hdivides)

/-- after tokens that are fenced from behind, given here the last one first, two cuts are at the
same place -/
theorem rest_eq_of_fenced (h : Fenced ts) (hps : List.Forall₂ Token.Admits ts ps)
    (hqs : List.Forall₂ Token.Admits ts qs)
    (he : ps.reverse.flatten ++ x = qs.reverse.flatten ++ y) : x = y := by
  induction hps generalizing qs x y with
  | nil =>
    cases hqs
    exact he
  | @cons t p ts ps hp hps ih =>
    obtain ⟨q, qs, hq, hqs', rfl⟩ := List.forall₂_cons_left_iff.1 hqs
    rw [List.reverse_cons, List.flatten_append, List.flatten_singleton, List.append_assoc,
      List.reverse_cons, List.flatten_append, List.flatten_singleton, List.append_assoc] at he
    cases t with
    | capture n => exact absurd h (not_fenced rfl)
    | wildcard => exact absurd h (not_fenced rfl)
    | literal text =>
      obtain rfl : p = text := hp
      obtain rfl : q = p := hq
      rcases fenced_literal.1 h with hdivides | h
      · have hshifted : Shifted (q ++ x) (q ++ y) :=
          shifted_of_cuts (List.rel_reverse hps) (List.rel_reverse hqs') (Shifted.of_eq he)
        exact hshifted.meet (by simpa using hdivides)
      · exact List.append_cancel_left (ih h hqs' he)

/-! ## the piece of a capture that stands apart -/

/-- the pieces of a row of tokens are those of its parts -/
theorem exists_pieces_append {R : Token → List Char → Prop}
    (h : List.Forall₂ R (before ++ after) ps) :
    ∃ pb pa, ps = pb ++ pa ∧ List.Forall₂ R before pb ∧ List.Forall₂ R after pa := by
  refine ⟨ps.take before.length, ps.drop before.length, (List.take_append_drop ..).symm, ?_, ?_⟩
  · have htake := List.forall₂_take before.length h
    rwa [List.take_left] at htake
  · have hdrop := List.forall₂_drop before.length h
    rwa [List.drop_left] at hdrop

/-- where a capture that takes a piece stands -/
theorem Takes.exists_split {R : Token → List Char → Prop} (h : List.Forall₂ R ts ps)
    (ht : Takes ts ps n p) : ∃ before after pb pa, ts = before ++ .capture n :: after ∧
      ps = pb ++ p :: pa ∧ List.Forall₂ R before pb ∧ List.Forall₂ R after pa := by
  induction h with
  | nil => cases ht
  | @cons t p' ts ps hr hps ih =>
    rcases List.mem_cons.1 ht with he | ht
    · obtain ⟨rfl, rfl⟩ := Prod.mk.inj he
      exact ⟨[], ts, [], ps, rfl, rfl, .nil, hps⟩
    · obtain ⟨before, after, pb, pa, rfl, rfl, hpb, hpa⟩ := ih ht
      exact ⟨t :: before, after, p' :: pb, pa, rfl, rfl, .cons hr hpb, hpa⟩

theorem takes_append {pb pa : List (List Char)} (h : before.length = pb.length) :
    Takes (before ++ after) (pb ++ pa) n p ↔ Takes before pb n p ∨ Takes after pa n p := by
  rw [Takes, List.zip_append h, List.mem_append]
  exact Iff.rfl

/-- a capture that takes two pieces in one cut, each of them apart from what is dynamic, takes them
in every cut -/
theorem takes_of_two (h : RepeatsApart ts) (hps : IsCut ts name ps) (hqs : IsCut ts name qs)
    (hp : Takes ts ps n p) (hq : Takes ts ps n q) (hne : p ≠ q) : Takes ts qs n p := by
  obtain ⟨hps, hname⟩ := isCut_iff.1 hps
  obtain ⟨hqs, hname'⟩ := isCut_iff.1 hqs
  obtain ⟨before, after, pb, pa, rfl, rfl, hpb, hpa⟩ := hp.exists_split hps
  obtain ⟨qb, qs, rfl, hqb, hqs'⟩ := exists_pieces_append hqs
  obtain ⟨r, qa, hr, hqa, rfl⟩ := List.forall₂_cons_left_iff.1 hqs'
  have hrepeated : n ∈ captureNumbers (before ++ after) := by
    rw [captureNumbers_append, List.mem_append]
    rcases (takes_append hpb.length_eq).1 hq with hq | hq
    · exact .inl (mem_captureNumbers_of_takes hq)
    · rcases takes_capture_cons.1 hq with ⟨_, he⟩ | hq
      · exact absurd he.symm hne
      · exact .inr (mem_captureNumbers_of_takes hq)
  obtain ⟨hbefore, hafter⟩ := h before n after rfl hrepeated
  -- both cuts reach the capture at the same place, and leave it at the same place
  have hplace : p ++ pa.flatten = r ++ qa.flatten := by
    refine rest_eq_of_fenced hbefore (List.rel_reverse hpb) (List.rel_reverse hqb) ?_
    simpa using hname.symm.trans hname'
  have hpiece : p = r := hafter.run_unique (rel_of_takes hps hp).2 hr.2 ⟨pa, isCut_iff.2 ⟨hpa, rfl⟩⟩
    ⟨qa, isCut_iff.2 ⟨hqa, rfl⟩⟩ hplace
  rw [takes_append hqb.length_eq, takes_capture_cons]
  exact .inr (.inl ⟨rfl, hpiece⟩)

/-- where repeated captures stand apart, all cuts agree as soon as one does -/
theorem IsCut.agrees (h : RepeatsApart ts) (hqs : IsCut ts name qs) (hagrees : Agrees ts qs)
    (hps : IsCut ts name ps) : Agrees ts ps := by
  intro n p q hp hq
  by_contra hne
  exact hne (hagrees n p q (takes_of_two h hps hqs hp hq hne)
    (takes_of_two h hps hqs hq hp (Ne.symm hne)))

/-! ## matches -/

/-- a pattern matches when the greediest cut agrees -/
theorem exists_matches?_iff {p : Pattern} {path : String} :
    (∃ e, p.matches? path = some e) ↔
      ∃ ps, IsGreediest p.tokens (clean path).toList ps ∧ Agrees p.tokens ps := by
  constructor
  · rintro ⟨e, he⟩
    obtain ⟨_, ps, hps, hargs⟩ := matches?_eq_some_iff.1 he
    exact ⟨ps, hps, hargs.agrees⟩
  · rintro ⟨ps, hps, hagrees⟩
    have hnone : ∀ n v x, (Table.empty : Captures).get? n = some v → Takes p.tokens ps n x →
        v.toList = x := fun n v x hv => by cases hv
    obtain ⟨args, hargs⟩ := exists_gather hnone hagrees
    exact ⟨⟨clean path, args⟩, matches?_eq_some_iff.2
      ⟨rfl, ps, hps, gather_eq_some_iff.1 hargs⟩⟩

/-- **When a repeated capture causes no false rejection.**  Suppose that values for the capture
numbers, and pieces for the single wildcards, make the tokens of a pattern spell the clean path.
The pattern matches the path exactly when in the greediest cut, too, captures with the same number
take the same piece.  This is so whenever each occurrence of a capture that occurs more than once is
kept from all other captures and wildcards by a character that no capture takes. -/
theorem repeated_captures_match {p : Pattern} {path : String} {value : Nat → List Char}
    {qs : List (List Char)} (hqs : IsCut p.tokens (clean path).toList qs)
    (hvalue : ∀ n piece, Takes p.tokens qs n piece → piece = value n) :
    ((∃ e, p.matches? path = some e) ↔
      ∀ ps, IsGreediest p.tokens (clean path).toList ps → Agrees p.tokens ps) ∧
    (RepeatsApart p.tokens → ∃ e, p.matches? path = some e) := by
  have hagrees : Agrees p.tokens qs := by
    intro n x y hx hy
    rw [hvalue n x hx, hvalue n y hy]
  obtain ⟨ps, hps⟩ := exists_cut? ⟨qs, hqs⟩
  have hps : IsGreediest p.tokens (clean path).toList ps := isGreediest_of_cut? hps
  rw [exists_matches?_iff]
  refine ⟨⟨?_, fun h => ⟨ps, hps, h ps hps⟩⟩, fun hapart => ⟨ps, hps, ?_⟩⟩
  · rintro ⟨ps', hps', hagrees'⟩ ps hps
    rwa [hps.unique hps']
  · exact hqs.agrees hapart hagrees hps.1

/-- a capture that occurs twice, and neighbours that shift beside it: the greediest cut gives `ab`,
`c` and `d` to the last three tokens -/
theorem repeated_capture_matches : RepeatsApart (compile "$1/x:$1:y/$2$3*").tokens ∧
    ∃ e, (compile "$1/x:$1:y/$2$3*").matches? "ab/x:ab:y/abcd" = some e := by
  let value : Nat → List Char := fun n =>
    if n = 1 then ['a', 'b'] else if n = 2 then ['a'] else ['b']
  let pieces : List (List Char) :=
    [value 1, ['/', 'x', ':'], value 1, [':', 'y', '/'], value 2, value 3, ['c', 'd']]
  have htokens : (compile "$1/x:$1:y/$2$3*").tokens = [.capture 1, .literal ['/', 'x', ':'],
      .capture 1, .literal [':', 'y', '/'], .capture 2, .capture 3, .wildcard] := by decide
  have hapart : RepeatsApart (compile "$1/x:$1:y/$2$3*").tokens := by decide
  have hflat : (clean "ab/x:ab:y/abcd").toList = pieces.flatten := by decide
  have hadmits : List.Forall₂ Token.Admits (compile "$1/x:$1:y/$2$3*").tokens pieces := by
    rw [htokens]
    exact .cons (by decide) (.cons rfl (.cons (by decide) (.cons rfl (.cons (by decide)
      (.cons (by decide) (.cons (by decide) .nil))))))
  have hvalue : ∀ n piece, Takes (compile "$1/x:$1:y/$2$3*").tokens pieces n piece →
      piece = value n := by
    rw [htokens]
    intro n piece htakes
    simp only [pieces, Takes, List.zip_cons_cons, List.zip_nil_right, List.mem_cons, Prod.mk.injEq,
      Token.capture.injEq, reduceCtorEq, false_and, false_or, List.not_mem_nil, or_false] at htakes
    rcases htakes with ⟨rfl, rfl⟩ | ⟨rfl, rfl⟩ | ⟨rfl, rfl⟩ | ⟨rfl, rfl⟩
    all_goals rfl
  exact ⟨hapart, (repeated_captures_match (isCut_iff.2 ⟨hadmits, hflat⟩) hvalue).2 hapart⟩

/-- a repeated capture without anything between its occurrences is cut unequally, although one value
spells the path -/
theorem adjacent_repeat_rejected :
    ¬∀ (p : Pattern) (path : String) (value : Nat → List Char) (qs : List (List Char)),
      IsCut p.tokens (clean path).toList qs →
      (∀ n piece, Takes p.tokens qs n piece → piece = value n) →
      ∃ e, p.matches? path = some e := by
  intro h
  have htokens : (compile "$1$1").tokens = [.capture 1, .capture 1] := by decide
  have hclean : (clean "abab").toList = ['a', 'b', 'a', 'b'] := by decide
  have hnone : (compile "$1$1").matches? "abab" = none := by decide
  obtain ⟨e, he⟩ := h (compile "$1$1") "abab" (fun _ => ['a', 'b']) [['a', 'b'], ['a', 'b']]
    (by
      rw [htokens, hclean]
      exact isCut_iff.2 ⟨.cons (by decide) (.cons (by decide) .nil), rfl⟩)
    (by
      rw [htokens]
      intro n piece htakes
      exact (show n = 1 ∧ piece = ['a', 'b'] by simpa [Takes] using htakes).2)
  rw [hnone] at he
  cases he

end PatternBuild.Pattern
