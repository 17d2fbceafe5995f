import PatternBuild.Proofs.Outcome
import PatternBuild.Proofs.Path.Within
import PatternBuild.Proofs.Rules.Union

/-!
# The form of step headers

The grammar of step headers is

    sources -> destinations
    source (dependency, dependency), source, …

where every source carries one parenthesised list at most, which ends it.  A step that `Conforms`
to it has no parentheses, commas or arrows left in its patterns.  An accepted header gives such a
step if none of its sources carries two lists (`accepted_steps_conform`); with two of them, what
lies between the first opening and the last closing parenthesis is taken for dependencies, and
parentheses stay in these (`two_lists_accepted`).
-/

namespace PatternBuild

open Text Path

namespace Header

variable {a b cs item left : List Char} {inside : Bool}

/-! ## marks -/

/-- the texts that give a step header its structure -/
def marks : List (List Char) := [['('], [')'], [','], arrow]

/-- text without any of them -/
def Bare (cs : List Char) : Prop := ∀ m ∈ marks, ¬m <:+: cs

theorem bare_iff : Bare cs ↔ '(' ∉ cs ∧ ')' ∉ cs ∧ ',' ∉ cs ∧ ¬arrow <:+: cs := by
  simp [Bare, marks, List.singleton_infix_iff]

theorem Bare.of_infix (h : Bare b) (hab : a <:+: b) : Bare a :=
  fun m hm hma => h m hm (hma.trans hab)

/-- cleaning brings no marks into a path -/
theorem infix_of_mark {m : List Char} (hm : m ∈ marks) (h : m <:+: cleanChars cs) : m <:+: cs := by
  have hall : ∀ m ∈ marks, '/' ∉ m ∧ ¬m <:+: dotDot := by decide
  exact infix_of_infix_clean (hall m hm).1 (hall m hm).2 h

theorem toList_text_compile (cs : List Char) :
    (Pattern.compile (String.ofList cs)).text.toList = cleanChars cs := by
  rw [Pattern.compile, toList_clean, String.toList_ofList]

theorem Bare.compile (h : Bare cs) : Bare (Pattern.compile (String.ofList cs)).text.toList := by
  rw [toList_text_compile]
  exact fun m hm hclean => h m hm (infix_of_mark hm hclean)

/-! ## items -/

/-- parentheses open and close by turns, and commas stand inside; `inside` says whether one is
open at the start -/
def IsItem (inside : Bool) : List Char → Prop
  | [] => inside = false
  | c :: cs =>
    if c = '(' then inside = false ∧ IsItem true cs
    else if c = ')' then inside = true ∧ IsItem false cs
    else (c = ',' → inside = true) ∧ IsItem inside cs

/-- text cut at the commas outside parentheses gives items, of which the first goes on from where
the text starts -/
theorem exists_items {items : List (List Char)} (h : topLevelItems inside cs = .ok items) :
    ∃ first rest, items = first :: rest ∧ (first <+: cs ∧ IsItem inside first) ∧
      ∀ item ∈ rest, item <:+: cs ∧ IsItem false item := by
  induction cs generalizing inside items with
  | nil =>
    unfold topLevelItems at h
    split at h
    · cases h
    · rename_i hin
      obtain rfl := Except.ok.inj h
      rw [Bool.not_eq_true] at hin
      exact ⟨[], [], rfl, ⟨List.nil_prefix, hin⟩, fun _ hm => absurd hm List.not_mem_nil⟩
  | cons c cs ih =>
    -- a character that cuts nothing comes before the first item of the rest
    have hcons : ∀ next, (topLevelItems next cs).map (consHead c) = .ok items →
        (∀ first, IsItem next first → IsItem inside (c :: first)) →
        ∃ first rest, items = first :: rest ∧ (first <+: c :: cs ∧ IsItem inside first) ∧
          ∀ item ∈ rest, item <:+: c :: cs ∧ IsItem false item := by
      intro next h hitem
      obtain ⟨items', hitems, rfl⟩ := exists_of_map_eq_ok h
      obtain ⟨first, rest, rfl, ⟨hpre, hfirst⟩, hrest⟩ := ih hitems
      exact ⟨c :: first, rest, rfl, ⟨List.cons_prefix_cons.2 ⟨rfl, hpre⟩, hitem first hfirst⟩,
        fun item hm => ⟨List.infix_cons (hrest item hm).1, (hrest item hm).2⟩⟩
    unfold topLevelItems at h
    by_cases hopen : c = '('
    · rw [if_pos hopen] at h
      cases inside with
      | true => cases h
      | false => exact hcons true h fun first hf => by simp [IsItem, hopen, hf]
    · rw [if_neg hopen] at h
      by_cases hclose : c = ')'
      · rw [if_pos hclose] at h
        cases inside with
        | true => exact hcons false h fun first hf => by simp [IsItem, hclose, hf]
        | false => cases h
      · rw [if_neg hclose] at h
        by_cases hcomma : c = ',' ∧ inside = false
        · rw [if_pos hcomma] at h
          obtain ⟨items', hitems, rfl⟩ := exists_of_map_eq_ok h
          obtain ⟨first, rest, rfl, ⟨hpre, hfirst⟩, hrest⟩ := ih hitems
          refine ⟨[], first :: rest, rfl, ⟨List.nil_prefix, hcomma.2⟩, ?_⟩
          rintro item hm
          rcases List.mem_cons.1 hm with rfl | hm
          · exact ⟨List.infix_cons hpre.isInfix, hfirst⟩
          · exact ⟨List.infix_cons (hrest item hm).1, (hrest item hm).2⟩
        · rw [if_neg hcomma] at h
          refine hcons inside h fun first hf => ?_
          have hin : c = ',' → inside = true := by simpa using hcomma
          rw [IsItem, if_neg hopen, if_neg hclose]
          exact ⟨hin, hf⟩

/-- as many parentheses are closed as are opened, or one more -/
theorem IsItem.count (h : IsItem inside cs) :
    cs.count ')' = cs.count '(' + if inside then 1 else 0 := by
  induction cs generalizing inside with
  | nil =>
    obtain rfl : inside = false := h
    rfl
  | cons c cs ih =>
    unfold IsItem at h
    split at h
    · rename_i hc
      obtain ⟨rfl, h⟩ := h
      simp [hc, ih h]
    · split at h
      · rename_i hc
        obtain ⟨rfl, h⟩ := h
        simp [hc, ih h]
      · rename_i hopen hclose
        simp [hopen, hclose, ih h.2]

/-- before the first opening parenthesis an item has no marks of lists -/
theorem IsItem.of_append (h : IsItem false (a ++ b)) (ha : '(' ∉ a) :
    ')' ∉ a ∧ ',' ∉ a ∧ IsItem false b := by
  induction a with
  | nil => exact ⟨List.not_mem_nil, List.not_mem_nil, h⟩
  | cons c a ih =>
    obtain ⟨hc, ha⟩ := List.ne_and_not_mem_of_not_mem_cons ha
    rw [List.cons_append, IsItem, if_neg (Ne.symm hc)] at h
    split at h
    · cases h.1
    · rename_i hclose
      obtain ⟨hcomma, h⟩ := h
      obtain ⟨h1, h2, h3⟩ := ih h ha
      have hne : ',' ≠ c := fun e => Bool.false_ne_true (hcomma e.symm)
      exact ⟨List.not_mem_cons_of_ne_of_not_mem (Ne.symm hclose) h1,
        List.not_mem_cons_of_ne_of_not_mem hne h2, h3⟩

/-! ## sources -/

/-- what a source is read from: its own text, and a list if there is a parenthesis -/
theorem sourceItem_cases {q : Pattern} {ds : List Pattern} (h : sourceItem item = .ok (q, ds)) :
    ('(' ∉ item ∧ q = Pattern.compile (String.ofList item) ∧ ds = []) ∨
      ∃ source rest inner, item = source ++ '(' :: rest ∧ '(' ∉ source ∧
        trimEnd rest = inner ++ [')'] ∧ q = Pattern.compile (String.ofList (trim source)) ∧
        ds = (listItems inner).map fun cs => Pattern.compile (String.ofList cs) := by
  unfold sourceItem at h
  cases hcut : cutAt ['('] item with
  | none =>
    rw [hcut] at h
    rw [cutAt_eq_none_iff, List.singleton_infix_iff] at hcut
    simp only [pure_bind] at h
    split at h
    · cases h
    · obtain ⟨rfl, rfl⟩ := Prod.mk.inj (Except.ok.inj h)
      exact .inl ⟨hcut, rfl, rfl⟩
  | some cut =>
    obtain ⟨source, rest⟩ := cut
    rw [hcut] at h
    cases hstrip : stripEnd [')'] (trimEnd rest) with
    | none =>
      simp only [hstrip] at h
      cases h
    | some inner =>
      simp only [hstrip, pure_bind] at h
      split at h
      · cases h
      · obtain ⟨rfl, rfl⟩ := Prod.mk.inj (Except.ok.inj h)
        have hnot := not_infix_of_cutAt (List.cons_ne_nil _ _) hcut
        rw [List.singleton_infix_iff] at hnot
        exact .inr ⟨source, rest, inner, cutAt_eq_some hcut, hnot,
          stripEnd_eq_some_iff.1 hstrip, rfl, rfl⟩

theorem mem_listItems (h : item ∈ listItems cs) : item <:+: cs ∧ ',' ∉ item := by
  obtain ⟨hitem, _⟩ := List.mem_filter.1 h
  obtain ⟨piece, hpiece, rfl⟩ := List.mem_map.1 hitem
  obtain ⟨hwithin, hcomma⟩ := mem_splitOn hpiece
  refine ⟨(isInfix_trim piece).trans hwithin, fun hm => ?_⟩
  have h := hcomma ',' ((isInfix_trim piece).mem hm)
  cases h

/-- what trimming takes off the front is blank -/
theorem exists_trim (cs : List Char) : ∃ front rest, cs = front ++ (trim cs ++ rest) ∧
    ∀ c ∈ front, isBlank c = true := by
  obtain ⟨rest, hrest⟩ := isPrefix_trimEnd (trimStart cs)
  refine ⟨cs.takeWhile isBlank, rest, ?_, fun c hc => List.mem_takeWhile_imp hc⟩
  rw [trim, hrest]
  exact (List.takeWhile_append_dropWhile).symm

/-- the marks of an item do not get into its source, and get into its dependencies only with a
second list -/
theorem bare_of_sourceItem {q : Pattern} {ds : List Pattern} (hitem : IsItem false item)
    (harrow : ¬arrow <:+: item) (h : sourceItem (trim item) = .ok (q, ds)) :
    Bare q.text.toList ∧ ∀ d ∈ ds, ',' ∉ d.text.toList ∧ ¬arrow <:+: d.text.toList ∧
      (item.count '(' ≤ 1 → Bare d.text.toList) := by
  obtain ⟨front, back, htrim, hblank⟩ := exists_trim item
  have hfront : '(' ∉ front := fun hm => absurd (hblank _ hm) (by decide)
  rw [htrim] at hitem
  have hitem := (hitem.of_append hfront).2.2
  have harrow : ¬arrow <:+: trim item := fun h => harrow (h.trans (isInfix_trim item))
  rcases sourceItem_cases h with ⟨hopen, rfl, rfl⟩ | ⟨source, rest, inner, he, hopen, hinner, rfl, rfl⟩
  · obtain ⟨hclose, hcomma, _⟩ := hitem.of_append hopen
    exact ⟨(bare_iff.2 ⟨hopen, hclose, hcomma, harrow⟩).compile, by simp⟩
  · rw [he, List.append_assoc] at hitem
    obtain ⟨hclose, hcomma, hrest⟩ := hitem.of_append hopen
    have hsource : source <:+: trim item := ⟨[], '(' :: rest, he.symm⟩
    have hpre : inner ++ [')'] <+: rest := hinner ▸ isPrefix_trimEnd rest
    have hwithin : inner <:+: trim item := by
      have hrest : rest <:+: trim item := ⟨source ++ ['('], [], by simp [he]⟩
      exact ((List.prefix_append _ _).trans hpre).isInfix.trans hrest
    refine ⟨Bare.compile (Bare.of_infix (bare_iff.2 ⟨hopen, hclose, hcomma, fun h =>
      harrow (h.trans hsource)⟩) (isInfix_trim source)), fun d hd => ?_⟩
    obtain ⟨cs, hcs, rfl⟩ := List.mem_map.1 hd
    obtain ⟨hin, hcomma⟩ := mem_listItems hcs
    have harrow : ¬arrow <:+: cs := fun h => harrow (h.trans (hin.trans hwithin))
    rw [toList_text_compile]
    refine ⟨fun hm => ?_, fun hm => harrow (infix_of_mark (by simp [marks]) hm), fun hcount => ?_⟩
    · rw [← List.singleton_infix_iff] at hm
      exact hcomma ((List.singleton_infix_iff _ _).1 (infix_of_mark (by simp [marks]) hm))
    · -- one list was opened, so what follows it holds a single closing parenthesis, at its end
      have hlist : IsItem true (rest ++ back) := by
        have h := hrest
        rw [List.cons_append, IsItem, if_pos rfl] at h
        exact h.2
      have hopened : (rest ++ back).count '(' = 0 := by
        rw [htrim, he] at hcount
        simp only [List.count_append, List.count_cons_self] at hcount ⊢
        omega
      have hclosed := hlist.count
      have hle := hpre.count_le ')'
      simp only [hopened, List.count_append, List.count_singleton_self, if_true] at hclosed hle
      have hno : ')' ∉ inner := List.count_eq_zero.1 (by omega)
      have hno' : '(' ∉ inner := fun hm => by
        rw [List.count_append, Nat.add_eq_zero_iff, List.count_eq_zero] at hopened
        exact hopened.1 (hpre.mem (List.mem_append_left _ hm))
      rw [← toList_text_compile]
      exact (bare_iff.2 ⟨fun hm => hno' (hin.mem hm), fun hm => hno (hin.mem hm), hcomma,
        harrow⟩).compile

/-! ## steps -/

theorem nodup_eraseDups (qs : List Pattern) : qs.eraseDups.Nodup := by
  induction hn : qs.length using Nat.strong_induction_on generalizing qs with
  | _ n ih =>
    cases qs with
    | nil => exact List.nodup_nil
    | cons q qs =>
      rw [List.eraseDups_cons, List.nodup_cons]
      have hlt : (qs.filter fun b => !b == q).length < n := by
        rw [← hn]
        exact Nat.lt_succ_of_le (List.length_filter_le _ qs)
      refine ⟨fun hm => ?_, ih _ hlt _ rfl⟩
      simp at hm

theorem destinationItem_eq_ok {q : Pattern} (h : destinationItem item = .ok q) :
    '(' ∉ item ∧ ')' ∉ item ∧ q = Pattern.compile (String.ofList item) := by
  unfold destinationItem at h
  split at h
  · cases h
  · rename_i hitem
    simp only [Bool.or_eq_true, not_or, hasParen, List.any_eq_true, not_exists, not_and,
      beq_iff_eq] at hitem
    exact ⟨fun hm => (hitem.2 _ hm).1 rfl, fun hm => (hitem.2 _ hm).2 rfl,
      (Except.ok.inj h).symm⟩

/-- the parts of a header that gives a step -/
theorem stepOf_eq_ok {right : List Char} {body : List (List Char)} {n : Nat} {s : Step}
    (h : stepOf left right body n = .ok s) : ¬arrow <:+: right ∧
    ∃ items sources, topLevelItems false left = .ok items ∧
      List.Forall₂ (fun item e => sourceItem (trim item) = .ok e) items sources ∧
      List.Forall₂ (fun piece q => destinationItem (trim piece) = .ok q)
        (splitOn (· == ',') right) s.destinations ∧
      s.sources = sources.map (·.1) ∧ s.dependencies = (sources.flatMap (·.2)).eraseDups := by
  unfold stepOf at h
  by_cases harrow : contains arrow right = true
  · rw [if_pos harrow] at h
    cases h
  · rw [if_neg harrow] at h
    dsimp only at h
    obtain ⟨items, hitems, h⟩ := exists_of_bind_eq_ok h
    obtain ⟨sources, hsources, h⟩ := exists_of_bind_eq_ok h
    obtain ⟨destinations, hdestinations, h⟩ := exists_of_bind_eq_ok h
    obtain rfl := Except.ok.inj h
    rw [mapM_eq_ok_iff, List.forall₂_map_left_iff] at hsources hdestinations
    exact ⟨mt contains_iff.2 harrow, items, sources, hitems, hsources, hdestinations, rfl, rfl⟩

/-- every source of the text before an arrow carries one list at most -/
def SingleLists (left : List Char) : Prop :=
  ∀ items, topLevelItems false left = .ok items → ∀ item ∈ items, item.count '(' ≤ 1

/-- the parts of a step that its header gives, and what their patterns are free of -/
theorem conforms_of_stepOf {right header : List Char} {body : List (List Char)} {n : Nat} {s : Step}
    (hcut : cutAt arrow header = some (left, right)) (h : stepOf left right body n = .ok s) :
    s.sources ≠ [] ∧ s.destinations ≠ [] ∧ (s.dependencies.map (·.text)).Nodup ∧
      (∀ q ∈ s.sources ++ s.destinations, Bare q.text.toList) ∧
      (∀ d ∈ s.dependencies, ',' ∉ d.text.toList ∧ ¬arrow <:+: d.text.toList) ∧
      (SingleLists left → ∀ d ∈ s.dependencies, Bare d.text.toList) := by
  have hleft : ¬arrow <:+: left := not_infix_of_cutAt (List.cons_ne_nil _ _) hcut
  obtain ⟨hright, items, sources, hitems, hsources, hdestinations, hs, hd⟩ := stepOf_eq_ok h
  obtain ⟨first, rest, rfl, ⟨hpre, hfirst⟩, hrest⟩ := exists_items hitems
  have hitem : ∀ item ∈ first :: rest, item <:+: left ∧ IsItem false item :=
    List.forall_mem_cons.2 ⟨⟨hpre.isInfix, hfirst⟩, hrest⟩
  have hsource : ∀ e ∈ sources, Bare e.1.text.toList ∧ ∀ d ∈ e.2, ',' ∉ d.text.toList ∧
      ¬arrow <:+: d.text.toList ∧ (SingleLists left → Bare d.text.toList) := by
    intro e he
    obtain ⟨item, hm, he⟩ := exists_left_of_mem hsources he
    obtain ⟨hwithin, hform⟩ := hitem item hm
    obtain ⟨hbare, hlist⟩ := bare_of_sourceItem hform (fun h => hleft (h.trans hwithin)) he
    exact ⟨hbare, fun d hd => ⟨(hlist d hd).1, (hlist d hd).2.1, fun hsingle =>
      (hlist d hd).2.2 (hsingle _ hitems item hm)⟩⟩
  have hdestination : ∀ q ∈ s.destinations, Bare q.text.toList := by
    intro q hq
    obtain ⟨piece, hm, hq⟩ := exists_left_of_mem hdestinations hq
    obtain ⟨hwithin, hcomma⟩ := mem_splitOn hm
    obtain ⟨hopen, hclose, rfl⟩ := destinationItem_eq_ok hq
    have htrim := isInfix_trim piece
    refine (bare_iff.2 ⟨hopen, hclose, fun hm => ?_, fun h => ?_⟩).compile
    · exact absurd (hcomma _ (htrim.mem hm)) (by decide)
    · exact hright (h.trans (htrim.trans hwithin))
  have hdependency : ∀ d ∈ s.dependencies, ∃ e ∈ sources, d ∈ e.2 := by
    intro d hm
    rw [hd, List.mem_eraseDups] at hm
    exact List.mem_flatMap.1 hm
  refine ⟨?_, ?_, ?_, ?_, ?_, ?_⟩
  · rw [hs, ne_eq, List.map_eq_nil_iff]
    rintro rfl
    cases hsources
  · obtain ⟨piece, pieces, hsplit, _⟩ := exists_splitOn (· == ',') right
    rintro hnil
    rw [hnil, hsplit] at hdestinations
    cases hdestinations
  · rw [hd]
    exact (nodup_eraseDups _).map fun a b hab => congrArg Pattern.mk hab
  · intro q hq
    rcases List.mem_append.1 hq with hq | hq
    · rw [hs] at hq
      obtain ⟨e, he, rfl⟩ := List.mem_map.1 hq
      exact (hsource e he).1
    · exact hdestination q hq
  · intro d hm
    obtain ⟨e, he, hm⟩ := hdependency d hm
    exact ⟨((hsource e he).2 d hm).1, ((hsource e he).2 d hm).2.1⟩
  · intro hsingle d hm
    obtain ⟨e, he, hm⟩ := hdependency d hm
    exact ((hsource e he).2 d hm).2.2 hsingle

end Header

/-- what the grammar of step headers promises of a step -/
structure Step.Conforms (s : Step) : Prop where
  hasSource : s.sources ≠ []
  hasDestination : s.destinations ≠ []
  distinct : (s.dependencies.map (·.text)).Nodup
  bare : ∀ q ∈ s.sources ++ s.dependencies ++ s.destinations, Header.Bare q.text.toList

namespace Program

variable {text : String} {p : Program} {s : Step}

/-- every step of a program is what one of the blocks declares -/
theorem exists_block_of_step (h : parse text = .ok p) (hs : s ∈ p.steps) :
    ∃ b ∈ (readBlocks (significantLines text.toList)).1, b.declaration = .ok (.step s) := by
  obtain ⟨ds, hds, _, rfl⟩ := exists_declarations h
  rw [steps_foldl_declare] at hs
  obtain ⟨d, hd, he⟩ := List.mem_filterMap.1 ((List.mem_append.1 hs).resolve_left
    List.not_mem_nil)
  obtain ⟨b, hb, hdecl⟩ := exists_left_of_mem hds hd
  cases d with
  | step s' =>
    obtain rfl := Option.some.inj he
    exact ⟨b, hb, hdecl⟩
  | template name t => cases he

/-- **Accepted steps conform to the grammar, except for a source with two lists.**  Every step of
an accepted file comes from a header with an arrow on its line.  It has sources and destinations,
and dependencies with different texts; no source and no destination has parentheses, commas or
arrows left in it, and no dependency has commas or arrows.  Parentheses are not in its
dependencies either, if no source before the arrow carries two lists. -/
theorem accepted_steps_conform (h : parse text = .ok p) (hs : s ∈ p.steps) :
    s.sources ≠ [] ∧ s.destinations ≠ [] ∧ (s.dependencies.map (·.text)).Nodup ∧
      (∀ q ∈ s.sources ++ s.destinations, Header.Bare q.text.toList) ∧
      (∀ d ∈ s.dependencies, ',' ∉ d.text.toList ∧ ¬Header.arrow <:+: d.text.toList) ∧
      ∃ b ∈ (readBlocks (significantLines text.toList)).1, b.line = s.line ∧
        ∃ left right, cutAt Header.arrow b.header = some (left, right) ∧
          (Header.SingleLists left → s.Conforms) := by
  obtain ⟨b, hb, hdecl⟩ := exists_block_of_step h hs
  have hline : b.line = s.line := (Block.heldBy_of_declaration hdecl).2.1.symm
  unfold Block.declaration at hdecl
  split at hdecl
  · rename_i left right hcut
    obtain ⟨s', hstep, he⟩ := exists_of_map_eq_ok hdecl
    obtain rfl := Declaration.step.inj he
    obtain ⟨hsource, hdest, hnodup, hbare, hlist, hsingle⟩ := Header.conforms_of_stepOf hcut hstep
    refine ⟨hsource, hdest, hnodup, hbare, hlist, b, hb, hline, left, right, hcut, fun hs => ?_⟩
    refine ⟨hsource, hdest, hnodup, fun q hq => ?_⟩
    simp only [List.mem_append] at hq hbare
    rcases hq with (hq | hq) | hq
    · exact hbare q (.inl hq)
    · exact hsingle hs q hq
    · exact hbare q (.inr hq)
  · obtain ⟨_, _, he⟩ := exists_of_map_eq_ok hdecl
    cases he

/-- a header with two sources, one of them with a list -/
def objectFile : String := "\n$1.c ($1.h, x.h), $1.s -> $1.o \x7b\n  cc\n\x7d\n"

def objectStep : Step where
  sources := [⟨"$1.c"⟩, ⟨"$1.s"⟩]
  destinations := [⟨"$1.o"⟩]
  dependencies := [⟨"$1.h"⟩, ⟨"x.h"⟩]
  body := "cc\n"
  line := 2

/-- one list on one of two sources gives a step that conforms -/
theorem object_step_conforms : parse objectFile = .ok ⟨[objectStep], .empty⟩ ∧
    objectStep.Conforms := by
  have hparse : parse objectFile = .ok ⟨[objectStep], .empty⟩ := rfl
  refine ⟨hparse, ?_⟩
  obtain ⟨_, _, _, _, _, b, hb, _, left, right, hcut, hconforms⟩ :=
    accepted_steps_conform hparse (List.mem_singleton_self objectStep)
  have hblocks : (readBlocks (significantLines objectFile.toList)).1 =
      [⟨"$1.c ($1.h, x.h), $1.s -> $1.o".toList, 2, ["cc".toList]⟩] := rfl
  rw [hblocks, List.mem_singleton] at hb
  have hparts : cutAt Header.arrow "$1.c ($1.h, x.h), $1.s -> $1.o".toList =
      some ("$1.c ($1.h, x.h), $1.s ".toList, " $1.o".toList) := rfl
  rw [hb, hparts] at hcut
  obtain ⟨rfl, rfl⟩ := Prod.mk.inj (Option.some.inj hcut)
  have hitems : Header.topLevelItems false "$1.c ($1.h, x.h), $1.s ".toList =
      .ok ["$1.c ($1.h, x.h)".toList, " $1.s ".toList] := rfl
  refine hconforms fun items h => ?_
  rw [hitems] at h
  obtain rfl := Except.ok.inj h
  decide

/-- two lists on one source are accepted, and what stands between them is taken for a dependency -/
theorem two_lists_accepted :
    ¬∀ text p, parse text = .ok p → ∀ s ∈ p.steps, s.Conforms := by
  intro h
  have hparse : parse "a (b) c (d) -> x \x7b\n\x7d\n" = .ok
      ⟨[⟨[⟨"a"⟩], [⟨"x"⟩], [⟨"b) c (d"⟩], "", 1⟩], .empty⟩ := rfl
  have hbare := (h _ _ hparse _ (List.mem_singleton_self _)).bare ⟨"b) c (d"⟩ (by simp)
  exact (Header.bare_iff.1 hbare).1 (by decide)

end Program

end PatternBuild
