import Mathlib.Data.List.TakeWhile
import PatternBuild.Proofs.Pattern.Filling

/-!
# Captures that cannot shift

Where literal text with a character that no capture takes stands between any two captures
(`Separated`), a name is cut in at most one way (`IsCut.unique`).  A match then finds the values
that the pattern was filled with (`matches?_of_substitute`).
-/

namespace PatternBuild.Pattern

open Path

variable {t : Token} {ts : List Token} {name : List Char} {ps qs : List (List Char)}
  {args : Captures}

/-! ## what stands between captures -/

/-- literal text with a character that no capture takes is among the tokens -/
def Divides (ts : List Token) : Prop :=
  ∃ text, .literal text ∈ ts ∧ ∃ c ∈ text, isSegment c = false

/-- between any two captures stands literal text with a character that no capture takes -/
def Separated (ts : List Token) : Prop :=
  ∀ before m between n after, ts = before ++ .capture m :: (between ++ .capture n :: after) →
    Divides between

/-- what stands before any capture of a token list divides -/
def Opens (ts : List Token) : Prop :=
  ∀ between n after, ts = between ++ .capture n :: after → Divides between

theorem divides_literal {text : List Char} :
    Divides (.literal text :: ts) ↔ text.all isSegment = false ∨ Divides ts := by
  simp [Divides, or_and_right, exists_or]

theorem divides_wildcard : Divides (.wildcard :: ts) ↔ Divides ts := by simp [Divides]

theorem opens_cons (h : ∀ n, t ≠ .capture n) : Opens (t :: ts) ↔
    ∀ between n after, ts = between ++ .capture n :: after → Divides (t :: between) := by
  constructor
  · rintro hopen between n after rfl
    exact hopen (t :: between) n after rfl
  · intro hrest between n after he
    cases between with
    | nil => exact absurd (List.cons.inj he).1 (h n)
    | cons u between =>
      obtain ⟨rfl, hts⟩ := List.cons.inj he
      exact hrest between n after hts

theorem not_opens_capture {n : Nat} : ¬Opens (.capture n :: ts) := by
  intro h
  obtain ⟨text, ht, _⟩ := h [] n ts rfl
  exact List.not_mem_nil ht

theorem separated_cons_of_ne (h : ∀ n, t ≠ .capture n) : Separated (t :: ts) ↔ Separated ts := by
  constructor
  · rintro hsep before m between n after rfl
    exact hsep (t :: before) m between n after rfl
  · intro hsep before m between n after he
    cases before with
    | nil => exact absurd (List.cons.inj he).1 (h m)
    | cons u before => exact hsep before m between n after (List.cons.inj he).2

theorem separated_capture {n : Nat} :
    Separated (.capture n :: ts) ↔ Opens ts ∧ Separated ts := by
  constructor
  · intro hsep
    refine ⟨?_, ?_⟩
    · rintro between m after rfl
      exact hsep [] n between m after rfl
    · rintro before m between k after rfl
      exact hsep (.capture n :: before) m between k after rfl
  · rintro ⟨hopen, hsep⟩ before m between k after he
    cases before with
    | nil => exact hopen between k after (List.cons.inj he).2
    | cons u before => exact hsep before m between k after (List.cons.inj he).2

theorem Separated.tail (h : Separated (t :: ts)) : Separated ts := by
  rintro before m between n after rfl
  exact h (t :: before) m between n after rfl

/-- one walk over the tokens; `bare` says that a capture was passed and nothing that divides since -/
def separatedFrom (bare : Bool) : List Token → Bool
  | [] => true
  | .literal text :: ts => separatedFrom (bare && text.all isSegment) ts
  | .capture _ :: ts => !bare && separatedFrom true ts
  | .wildcard :: ts => separatedFrom bare ts

theorem separatedFrom_iff {bare : Bool} :
    separatedFrom bare ts = true ↔ Separated ts ∧ (bare = true → Opens ts) := by
  induction ts generalizing bare with
  | nil => simp [separatedFrom, Separated, Opens]
  | cons t ts ih =>
    cases t with
    | literal text =>
      rw [separatedFrom, ih, separated_cons_of_ne fun n => Token.noConfusion,
        opens_cons fun n => Token.noConfusion]
      simp only [divides_literal]
      cases text.all isSegment with
      | true => simp [Opens]
      | false => simp
    | capture n =>
      rw [separatedFrom, Bool.and_eq_true, ih, separated_capture]
      cases bare with
      | true => simp [not_opens_capture]
      | false => simp [and_comm]
    | wildcard =>
      rw [separatedFrom, ih, separated_cons_of_ne fun n => Token.noConfusion,
        opens_cons fun n => Token.noConfusion]
      simp only [divides_wildcard]
      rfl

instance (ts : List Token) : Decidable (Separated ts) :=
  decidable_of_iff (separatedFrom false ts = true) (by simp [separatedFrom_iff])

/-! ## the text before a capture -/

/-- the literal text that a token list starts with -/
def leadingText : List Token → List Char
  | .literal text :: ts => text ++ leadingText ts
  | _ => []

theorem exists_leadingText (h : Spells ts name) : ∃ rest, name = leadingText ts ++ rest := by
  induction ts generalizing name with
  | nil => exact ⟨name, rfl⟩
  | cons t ts ih =>
    obtain ⟨p, rest, hp, rfl, hr⟩ := spells_cons.1 h
    cases t with
    | literal text =>
      obtain rfl : p = text := hp
      obtain ⟨rest', rfl⟩ := ih hr
      exact ⟨rest', (List.append_assoc ..).symm⟩
    | capture n => exact ⟨p ++ rest, rfl⟩
    | wildcard => exact ⟨p ++ rest, rfl⟩

/-- literal text alone is spelled in one way -/
theorem eq_leadingText (hlit : ∀ t ∈ ts, t.isDynamic = false) (h : Spells ts name) :
    name = leadingText ts := by
  induction ts generalizing name with
  | nil => exact spells_nil.1 h
  | cons t ts ih =>
    obtain ⟨ht, hts⟩ := List.forall_mem_cons.1 hlit
    obtain ⟨p, rest, hp, rfl, hr⟩ := spells_cons.1 h
    cases t with
    | literal text =>
      obtain rfl : p = text := hp
      rw [ih hts hr]
      rfl
    | capture n => cases ht
    | wildcard => cases ht

theorem mem_leadingText {before after : List Token} {text : List Char} {c : Char}
    (hlit : ∀ t ∈ before, t.isDynamic = false) (ht : .literal text ∈ before) (hc : c ∈ text) :
    c ∈ leadingText (before ++ after) := by
  induction before with
  | nil => cases ht
  | cons t before ih =>
    obtain ⟨hlit, hlits⟩ := List.forall_mem_cons.1 hlit
    cases t with
    | capture n => cases hlit
    | wildcard => cases hlit
    | literal text' =>
      rcases List.mem_cons.1 ht with he | ht
      · cases he
        exact List.mem_append_left _ hc
      · exact List.mem_append_right _ (ih hlits ht)

/-- literal text with a character that no capture takes stands before the first capture or wildcard,
if there is one -/
def Fenced (ts : List Token) : Prop :=
  ∀ between t after, ts = between ++ t :: after → t.isDynamic = true → Divides between

/-- what is fenced is literal text alone, or it starts with literal text that divides -/
theorem Fenced.cases (h : Fenced ts) :
    (∀ t ∈ ts, t.isDynamic = false) ∨ ∃ c ∈ leadingText ts, isSegment c = false := by
  cases hfind : ts.find? Token.isDynamic with
  | none =>
    left
    intro t ht
    simpa using List.find?_eq_none.1 hfind t ht
  | some t =>
    right
    obtain ⟨hdyn, between, after, rfl, hlit⟩ := List.find?_eq_some_iff_append.1 hfind
    have hlit : ∀ t ∈ between, t.isDynamic = false := fun t ht => by simpa using hlit t ht
    obtain ⟨text, htext, c, hc, hseg⟩ := h between t after rfl hdyn
    exact ⟨c, mem_leadingText hlit htext hc, hseg⟩

/-- without wildcards, what stands before any capture stands before all that is dynamic -/
theorem Opens.fenced (h : Opens ts) (hw : .wildcard ∉ ts) : Fenced ts := by
  rintro between t after rfl hdyn
  cases t with
  | literal text => cases hdyn
  | capture n => exact h between n after rfl
  | wildcard => exact absurd (by simp) hw

/-! ## one cut -/

/-- runs of segment characters in front of the same text with another character are the same -/
theorem run_unique {p q text x y : List Char} (hp : ∀ c ∈ p, isSegment c = true)
    (hq : ∀ c ∈ q, isSegment c = true) (ht : ∃ c ∈ text, isSegment c = false)
    (h : p ++ (text ++ x) = q ++ (text ++ y)) : p = q := by
  obtain ⟨c, hc, hseg⟩ := ht
  have hstop : ∀ z, (text ++ z).takeWhile isSegment = text.takeWhile isSegment := by
    intro z
    rw [List.takeWhile_append, if_neg]
    intro hlen
    have hall : text.takeWhile isSegment = text :=
      (List.takeWhile_prefix isSegment).eq_of_length hlen
    have htrue : isSegment c = true := List.takeWhile_eq_self_iff.1 hall c hc
    rw [hseg] at htrue
    cases htrue
  have htake := congrArg (List.takeWhile isSegment) h
  rw [List.takeWhile_append_of_pos hp, List.takeWhile_append_of_pos hq, hstop, hstop] at htake
  exact List.append_cancel_right htake

/-- runs of segment characters in front of what fenced tokens spell are the same -/
theorem Fenced.run_unique (h : Fenced ts) {p q x y : List Char}
    (hp : ∀ c ∈ p, isSegment c = true) (hq : ∀ c ∈ q, isSegment c = true) (hx : Spells ts x)
    (hy : Spells ts y) (he : p ++ x = q ++ y) : p = q := by
  rcases h.cases with hlit | hsep
  · rw [eq_leadingText hlit hx, eq_leadingText hlit hy] at he
    exact List.append_cancel_right he
  · obtain ⟨x', rfl⟩ := exists_leadingText hx
    obtain ⟨y', rfl⟩ := exists_leadingText hy
    exact Pattern.run_unique hp hq hsep he

/-- a name is cut among separated captures in at most one way -/
theorem IsCut.unique (h : Separated ts) (hw : .wildcard ∉ ts) (hps : IsCut ts name ps)
    (hqs : IsCut ts name qs) : ps = qs := by
  induction ts generalizing name ps qs with
  | nil =>
    rw [List.forall₂_nil_left_iff.1 (isCut_iff.1 hps).1,
      List.forall₂_nil_left_iff.1 (isCut_iff.1 hqs).1]
  | cons t ts ih =>
    rw [List.mem_cons, not_or] at hw
    cases ps with
    | nil => exact hps.elim
    | cons p ps =>
      cases qs with
      | nil => exact hqs.elim
      | cons q qs =>
        obtain ⟨hp, x, rfl, hx⟩ := hps
        obtain ⟨hq, y, he, hy⟩ := hqs
        have hpq : p = q := by
          cases t with
          | literal text => exact (show p = text from hp).trans (show q = text from hq).symm
          | wildcard => exact absurd rfl hw.1
          | capture n =>
            exact ((separated_capture.1 h).1.fenced hw.2).run_unique hp.2 hq.2 ⟨ps, hx⟩ ⟨qs, hy⟩ he
        subst hpq
        rw [ih h.tail hw.2 hx (List.append_cancel_left he ▸ hy)]

/-- the only cut is the greediest one -/
theorem IsCut.isGreediest (h : Separated ts) (hw : .wildcard ∉ ts) (hps : IsCut ts name ps) :
    IsGreediest ts name ps := by
  obtain ⟨rs, hrs⟩ := exists_cut? ⟨ps, hps⟩
  have hgreedy := isGreediest_of_cut? hrs
  rwa [IsCut.unique h hw hgreedy.1 hps] at hgreedy

/-! ## what was filled -/

/-- a clean path that a pattern was filled to is matched by it, with the values that it was filled
with -/
theorem matches?_of_substitute {q : Pattern} (h : Separated q.tokens) (hw : .wildcard ∉ q.tokens)
    (hargs : Suits args q.tokens) {dest : String}
    (hd : q.substitute args = .ok dest) (hclean : clean dest = dest) :
    q.matches? dest = some ⟨dest, args⟩ := by
  obtain ⟨ps, hps, hflat⟩ := substitute_eq_ok_iff.1 hd
  have hadmits : List.Forall₂ Token.Admits q.tokens ps := by
    have hmem : List.Forall₂ (fun t p => t ∈ q.tokens ∧ t.Fills args p) q.tokens ps :=
      (List.forall₂_and_left _ _).2 ⟨fun t ht => ht, hps⟩
    refine hmem.imp fun t p htp => ?_
    cases t with
    | literal text => exact htp.2
    | wildcard => exact absurd htp.1 hw
    | capture n =>
      have hp := hargs.admits n _ htp.2
      rwa [String.toList_ofList] at hp
  have hcut : IsCut q.tokens dest.toList ps := isCut_iff.2 ⟨hadmits, hflat⟩
  rw [matches?_eq_some_iff, hclean]
  refine ⟨rfl, ps, IsCut.isGreediest h hw hcut, fun n v => ?_⟩
  have hfills : ∀ piece, Takes q.tokens ps n piece → args.get? n = some (String.ofList piece) :=
    fun piece => rel_of_takes hps
  simp only [Table.get?_empty, reduceCtorEq, false_or]
  constructor
  · intro hv
    obtain ⟨piece, hpiece⟩ := exists_takes hps ((hargs.bound n).1 ⟨v, hv⟩)
    have he : v = String.ofList piece := Option.some.inj (hv.symm.trans (hfills piece hpiece))
    rwa [he, String.toList_ofList]
  · intro hv
    rw [hfills _ hv, String.ofList_toList]

end PatternBuild.Pattern
