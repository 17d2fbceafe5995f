import PatternBuild.Proofs.Rules.HeaderText

/-!
# Headers are read as they were meant

A header says the same however it is written.  What is read from it is found from the inside out:

* items without parentheses and commas outside of them are found again between the commas
  (`topLevelItems_intercalate`), and so are dependencies, destinations and hooks, which hold no
  commas at all (`map_trim_splitOn`);
* a source and its dependencies are read from its item (`sourceItem_of_written`), and the hooks on
  both sides of the slash from the text in parentheses (`hookLists_of_clause`);
* the header gives the step or the template that it says (`StepHeader.Written.declaration_eq`,
  `TemplateHeader.Written.declaration_eq`);
* a file of one block has the header and the body as its lines (`IsBlockText.significantLines_eq`),
  so that reading it gives what the block declares (`IsBlockText.parse_eq`).

`Program.headers_round_trip` puts this together for steps and templates.
-/

namespace PatternBuild

open Text

variable {cs : List Char}

namespace Header

variable {α : Type} {Item : α → List Char → Prop} {a b ds rest t : List Char} {xs : List α}
  {texts pieces : List (List Char)} {inside : Bool}

/-! ## lists -/

/-- what holds of items with blanks around them holds of the pieces of a list -/
theorem forall_mem_pieces {P : List Char → Prop} (h : List.Forall₂ (Padded Item) xs pieces)
    (hitem : ∀ x ∈ xs, ∀ a t b, Blanks a → Blanks b → Item x t → P (a ++ (t ++ b))) :
    ∀ piece ∈ pieces, P piece := by
  intro piece hpiece
  obtain ⟨x, hx, a, t, b, ha, hb, ht, rfl⟩ := exists_left_of_mem h hpiece
  exact hitem x hx a t b ha hb ht

/-- texts written as a list are what stands between the commas -/
theorem map_trim_splitOn (h : CommaList Eq texts cs) (ha : Blanks a) (hb : Blanks b)
    (htext : ∀ t ∈ texts, IsPatternText t) :
    (splitOn (· == ',') (a ++ (cs ++ b))).map trim = texts := by
  obtain ⟨pieces, he, hpieces⟩ := h.exists_pieces ha hb
  have hcomma : ∀ piece ∈ pieces, ',' ∉ piece := by
    refine forall_mem_pieces hpieces fun x hx a t b ha hb ht => ?_
    subst ht
    exact ha.not_mem_padded hb (.inl rfl) (bare_iff.1 (htext x hx).bare).2.2.1
  have hne : pieces ≠ [] := by
    rintro rfl
    exact h.ne_nil (List.forall₂_nil_right_iff.1 hpieces)
  have htrim : List.Forall₂ Eq texts (pieces.map trim) :=
    forall₂_map_trim hpieces fun x hx t ht => ht ▸ (htext x hx).trimmed
  rw [he, splitOn_intercalate hne hcomma]
  exact (List.forall₂_eq_eq_eq ▸ htrim : texts = _).symm

theorem listItems_of_commaList (h : CommaList Eq texts cs) (ha : Blanks a) (hb : Blanks b)
    (htext : ∀ t ∈ texts, IsPatternText t) : listItems (a ++ (cs ++ b)) = texts := by
  rw [listItems, map_trim_splitOn h ha hb htext, List.filter_eq_self]
  intro t ht
  simp [(htext t ht).ne_nil]

/-! ## sources -/

theorem foldr_consHead (cs l : List Char) (ls : List (List Char)) :
    cs.foldr consHead (l :: ls) = (cs ++ l) :: ls := by
  induction cs with
  | nil => rfl
  | cons c cs ih => rw [List.foldr_cons, ih, consHead, List.cons_append]

/-- an item is not cut, whatever follows it -/
theorem topLevelItems_append (h : IsItem inside cs) (rest : List Char) :
    topLevelItems inside (cs ++ rest) =
      (topLevelItems false rest).map fun items => cs.foldr consHead items := by
  induction cs generalizing inside with
  | nil =>
    obtain rfl : inside = false := h
    rw [List.nil_append]
    cases topLevelItems false rest <;> rfl
  | cons c cs ih =>
    have hcons : ∀ next, IsItem next cs → (topLevelItems next (cs ++ rest)).map (consHead c) =
        (topLevelItems false rest).map fun items => (c :: cs).foldr consHead items := by
      intro next hnext
      rw [ih hnext]
      cases topLevelItems false rest <;> rfl
    unfold IsItem at h
    rw [List.cons_append, topLevelItems]
    by_cases hopen : c = '('
    · rw [if_pos hopen] at h ⊢
      obtain ⟨rfl, h⟩ := h
      exact hcons true h
    · rw [if_neg hopen] at h ⊢
      by_cases hclose : c = ')'
      · rw [if_pos hclose] at h ⊢
        obtain ⟨rfl, h⟩ := h
        exact hcons false h
      · rw [if_neg hclose] at h ⊢
        have hcomma : ¬(c = ',' ∧ inside = false) := by
          rintro ⟨hc, rfl⟩
          exact Bool.false_ne_true (h.1 hc)
        rw [if_neg hcomma]
        exact hcons inside h.2

/-- items joined by commas are found again -/
theorem topLevelItems_intercalate (hne : pieces ≠ []) (h : ∀ piece ∈ pieces, IsItem false piece) :
    topLevelItems false ([','].intercalate pieces) = .ok pieces := by
  induction pieces with
  | nil => exact absurd rfl hne
  | cons piece pieces ih =>
    obtain ⟨hpiece, hpieces⟩ := List.forall_mem_cons.1 h
    cases pieces with
    | nil =>
      have hnone : topLevelItems false [] = .ok [[]] := rfl
      have hcut := topLevelItems_append hpiece []
      rw [hnone, Except.map, foldr_consHead, List.append_nil] at hcut
      rw [List.intercalate_singleton, hcut]
    | cons next pieces =>
      have hcomma : ∀ rest, topLevelItems false (',' :: rest) =
          (topLevelItems false rest).map ([] :: ·) := fun _ => rfl
      rw [List.intercalate_cons_cons, List.append_assoc, topLevelItems_append hpiece,
        List.singleton_append, hcomma, ih (List.cons_ne_nil _ _) hpieces]
      show Except.ok (piece.foldr consHead ([] :: next :: pieces)) = _
      rw [foldr_consHead, List.append_nil]

/-- texts without parentheses and commas outside of them are put together to items -/
theorem IsItem.append (ha : IsItem inside a) (hb : IsItem false b) : IsItem inside (a ++ b) := by
  induction a generalizing inside with
  | nil =>
    obtain rfl : inside = false := ha
    exact hb
  | cons c a ih =>
    rw [IsItem] at ha
    rw [List.cons_append, IsItem]
    by_cases hopen : c = '('
    · rw [if_pos hopen] at ha ⊢
      exact ⟨ha.1, ih ha.2⟩
    · rw [if_neg hopen] at ha ⊢
      by_cases hclose : c = ')'
      · rw [if_pos hclose] at ha ⊢
        exact ⟨ha.1, ih ha.2⟩
      · rw [if_neg hclose] at ha ⊢
        exact ⟨ha.1, ih ha.2⟩

theorem isItem_of_not_mem (hopen : '(' ∉ cs) (hclose : ')' ∉ cs) (hcomma : ',' ∉ cs) :
    IsItem false cs := by
  induction cs with
  | nil => rfl
  | cons c cs ih =>
    rw [List.mem_cons, not_or] at hopen hclose hcomma
    rw [IsItem, if_neg (Ne.symm hopen.1), if_neg (Ne.symm hclose.1)]
    exact ⟨fun hc => absurd hc.symm hcomma.1, ih hopen.2 hclose.2 hcomma.2⟩

/-- inside parentheses commas may stand -/
theorem isItem_close (hopen : '(' ∉ cs) (hclose : ')' ∉ cs) : IsItem true (cs ++ [')']) := by
  induction cs with
  | nil => exact ⟨rfl, rfl⟩
  | cons c cs ih =>
    rw [List.mem_cons, not_or] at hopen hclose
    rw [List.cons_append, IsItem, if_neg (Ne.symm hopen.1), if_neg (Ne.symm hclose.1)]
    exact ⟨fun _ => rfl, ih hopen.2 hclose.2⟩

theorem Blanks.isItem (ha : Blanks a) : IsItem false a :=
  isItem_of_not_mem (ha.not_mem (.inl rfl)) (ha.not_mem (.inl rfl)) (ha.not_mem (.inl rfl))

theorem IsPatternText.isItem (h : IsPatternText cs) : IsItem false cs := by
  obtain ⟨hopen, hclose, hcomma, _⟩ := bare_iff.1 h.bare
  exact isItem_of_not_mem hopen hclose hcomma

section
variable {s : Source} (hw : s.Written t) (hs : IsPatternText s.text)
  (hds : ∀ d ∈ s.dependencies, IsPatternText d)
include hw hs hds

theorem isPiece_of_written : IsPiece t := by
  cases hw with
  | bare => exact hs.isPiece
  | listed h ha hb hc =>
    have hlist : IsPiece _ := h.isPiece fun d hd t ht => ht ▸ (hds d hd).isPiece
    exact hs.isPiece.join (hlist.close hc (by decide) rfl (by decide)) ha hb (by decide) (by decide)

theorem isItem_of_written : IsItem false t := by
  cases hw with
  | bare => exact hs.isItem
  | @listed text ds a b c dependencies h ha hb hc =>
    have hnot : ∀ m, m = '(' ∨ m = ')' → m ∉ b ++ (ds ++ c) := by
      intro m hm
      have hblank : isBlank m = false := by rcases hm with rfl | rfl <;> rfl
      have hcomma : m ≠ ',' := by rcases hm with rfl | rfl <;> decide
      have hitem : ∀ d ∈ dependencies, ∀ t, d = t → m ∉ t := by
        rintro d hd t rfl
        obtain ⟨hopen, hclose, _⟩ := bare_iff.1 (hds d hd).bare
        rcases hm with rfl | rfl
        · exact hopen
        · exact hclose
      exact hb.not_mem_padded hc (.inl hblank) (h.not_mem (.inl hblank) hcomma hitem)
    have hlist : IsItem true (b ++ (ds ++ (c ++ [')']))) := by
      have hclosed := isItem_close (hnot '(' (.inl rfl)) (hnot ')' (.inr rfl))
      rwa [List.append_assoc, List.append_assoc] at hclosed
    exact hs.isItem.append (ha.isItem.append ⟨rfl, hlist⟩)

/-- a source is read as it was meant -/
theorem sourceItem_of_written : sourceItem t = .ok (Pattern.compile (String.ofList s.text),
    s.dependencies.map fun d => Pattern.compile (String.ofList d)) := by
  obtain ⟨hopen, -, -, -⟩ := bare_iff.1 hs.bare
  cases hw with
  | bare =>
    have hcut : cutAt ['('] t = none := by
      rw [cutAt_eq_none_iff, List.singleton_infix_iff]
      exact hopen
    have hne : t.isEmpty = false := by simpa using hs.ne_nil
    unfold sourceItem
    rw [hcut]
    simp only [pure_bind, hne]
    rfl
  | @listed text ds a b c dependencies h ha hb hc =>
    have hcut : cutAt ['('] (text ++ (a ++ '(' :: (b ++ (ds ++ (c ++ [')']))))) =
        some (text ++ a, b ++ (ds ++ (c ++ [')']))) := by
      rw [← List.append_assoc]
      refine cutAt_char ?_ _
      rw [List.mem_append, not_or]
      exact ⟨hopen, ha.not_mem (.inl rfl)⟩
    have hstrip : stripEnd [')'] (trimEnd (b ++ (ds ++ (c ++ [')'])))) = some (b ++ (ds ++ c)) := by
      have hclosed : b ++ (ds ++ (c ++ [')'])) = (b ++ (ds ++ c)) ++ [')'] := by
        simp only [List.append_assoc]
      rw [hclosed, trimEnd_eq_rdropWhile, List.rdropWhile_concat_neg _ _ _ (by decide),
        stripEnd_eq_some_iff]
    have htrim : trim (text ++ a) = text := by
      rw [trim_append_blanks ha.blank, hs.trimmed.trim_eq]
    have hne : text.isEmpty = false := by simpa using hs.ne_nil
    unfold sourceItem
    rw [hcut]
    simp only [hstrip, pure_bind, htrim, hne, listItems_of_commaList h hb hc hds]
    rfl

end

/-! ## steps -/

theorem hasParen_eq_false (hopen : '(' ∉ t) (hclose : ')' ∉ t) : hasParen t = false := by
  rw [hasParen, List.any_eq_false]
  intro c hc
  simp only [Bool.or_eq_true, beq_iff_eq, not_or]
  exact ⟨fun e => hopen (e ▸ hc), fun e => hclose (e ▸ hc)⟩

theorem destinationItem_of_text (h : IsPatternText t) :
    destinationItem t = .ok (Pattern.compile (String.ofList t)) := by
  obtain ⟨hopen, hclose, -, -⟩ := bare_iff.1 h.bare
  have hne : t.isEmpty = false := by simpa using h.ne_nil
  rw [destinationItem, hne, hasParen_eq_false hopen hclose]
  rfl

/-- sources written as a list are read one by one -/
theorem mapM_sourceItem {sources : List Source} (h : CommaList Source.Written sources cs)
    (ha : Blanks a) (hs : ∀ s ∈ sources, IsPatternText s.text)
    (hds : ∀ s ∈ sources, ∀ d ∈ s.dependencies, IsPatternText d) :
    ∃ items, topLevelItems false (cs ++ a) = .ok items ∧
      (items.map trim).mapM sourceItem = .ok (sources.map fun s =>
        (Pattern.compile (String.ofList s.text),
          s.dependencies.map fun d => Pattern.compile (String.ofList d))) := by
  obtain ⟨items, he, hitems⟩ := h.exists_pieces (List.forall_mem_nil _) ha
  have hne : items ≠ [] := by
    rintro rfl
    exact h.ne_nil (List.forall₂_nil_right_iff.1 hitems)
  have hform : ∀ item ∈ items, IsItem false item :=
    forall_mem_pieces hitems fun s hmem a t b ha hb ht =>
      ha.isItem.append ((isItem_of_written ht (hs s hmem) (hds s hmem)).append hb.isItem)
  have hwritten : List.Forall₂ Source.Written sources (items.map trim) :=
    forall₂_map_trim hitems fun s hmem t ht =>
      (isPiece_of_written ht (hs s hmem) (hds s hmem)).trimmed
  refine ⟨items, ?_, ?_⟩
  · rw [← topLevelItems_intercalate hne hform, ← he, List.nil_append]
  · rw [mapM_eq_ok_iff, List.forall₂_map_right_iff]
    have hmem := (List.forall₂_and_left (p := (· ∈ sources)) _ _).2 ⟨fun s hmem => hmem, hwritten⟩
    refine (hmem.imp fun s t hst => ?_).flip
    exact sourceItem_of_written hst.2 (hs s hst.1) (hds s hst.1)

/-- text without an arrow is cut at the arrow behind it -/
theorem cutAt_arrow (h : ¬arrow <:+: a) (b : List Char) :
    cutAt arrow (a ++ (arrow ++ b)) = some (a, b) := by
  refine cutAt_append (List.cons_ne_nil _ _) ?_ b
  show ¬arrow <:+: a ++ ['-']
  rw [List.infix_concat_iff, not_or]
  refine ⟨fun hsuffix => ?_, h⟩
  have hlast := hsuffix.getLast (List.cons_ne_nil _ _)
  rw [List.getLast_concat] at hlast
  exact absurd hlast (by decide)

/-- the step that the parts of a header give -/
theorem stepOf_of_parts {left right : List Char} {items : List (List Char)}
    {sources : List (Pattern × List Pattern)} {destinations : List Pattern}
    (harrow : ¬arrow <:+: right) (hitems : topLevelItems false left = .ok items)
    (hsources : (items.map trim).mapM sourceItem = .ok sources)
    (hdestinations : ((splitOn (· == ',') right).map trim).mapM destinationItem = .ok destinations)
    (body : List (List Char)) (n : Nat) : stepOf left right body n = .ok
      ⟨sources.map (·.1), destinations, (sources.flatMap (·.2)).eraseDups,
        String.ofList (body.flatMap (· ++ ['\n'])), n⟩ := by
  unfold stepOf
  rw [if_neg (mt contains_iff.1 harrow)]
  simp only [hitems, hsources, hdestinations, bind, Except.bind]
  rfl

end Header

open Header

namespace StepHeader

variable {h : StepHeader}

/-- a step is read from its header as it was meant -/
theorem Written.declaration_eq (hw : h.Written cs) (body : List (List Char)) :
    (⟨cs, 1, body⟩ : Block).declaration = .ok (.step (h.step body)) := by
  cases hw with
  | @mk left right a b hleft hright ha hb =>
    have hleftPiece : IsPiece left := hleft.isPiece fun s hs t ht =>
      isPiece_of_written ht (h.source_text s hs) (h.dependency_text s hs)
    have hrightPiece : IsPiece right := hright.isPiece fun d hd t ht =>
      ht ▸ (h.destination_text d hd).isPiece
    have hcut : cutAt arrow (left ++ (a ++ (arrow ++ (b ++ right)))) =
        some (left ++ a, b ++ right) := by
      rw [← List.append_assoc]
      exact cutAt_arrow (ha.not_arrow_behind hleftPiece.arrow) _
    have hsingle : ¬arrow <:+: b ++ right := hb.not_arrow_before hrightPiece.arrow
    obtain ⟨items, hitems, hsources⟩ := mapM_sourceItem hleft ha h.source_text h.dependency_text
    have hdestinations : ((splitOn (· == ',') (b ++ right)).map trim).mapM destinationItem =
        .ok (h.destinations.map fun d => Pattern.compile (String.ofList d)) := by
      have htexts := map_trim_splitOn hright hb (List.forall_mem_nil _) h.destination_text
      rw [List.append_nil] at htexts
      rw [htexts, mapM_eq_ok_iff, List.forall₂_map_right_iff, List.forall₂_same]
      exact fun d hd => destinationItem_of_text (h.destination_text d hd)
    have hstep := stepOf_of_parts hsingle hitems hsources hdestinations body 1
    rw [List.map_map, List.flatMap_map, ← List.map_flatMap] at hstep
    unfold Block.declaration
    rw [hcut]
    exact congrArg (Except.map Declaration.step) hstep

/-- the header of a step can stand as a line -/
theorem Written.isLineText (hw : h.Written cs) : IsLineText cs := by
  cases hw with
  | @mk left right a b hleft hright ha hb =>
    have hpiece : ∀ s ∈ h.sources, ∀ t, s.Written t → IsPiece t := fun s hs t ht =>
      isPiece_of_written ht (h.source_text s hs) (h.dependency_text s hs)
    have hleftPiece : IsPiece left := hleft.isPiece hpiece
    have hrightPiece : IsPiece right := hright.isPiece fun d hd t ht =>
      ht ▸ (h.destination_text d hd).isPiece
    refine ⟨?_, ?_, isSignificant_append ?_ _⟩
    · have htrimmed := hleftPiece.trimmed.append hrightPiece.trimmed hleftPiece.ne_nil
        hrightPiece.ne_nil (a ++ (arrow ++ b))
      simpa only [List.append_assoc] using htrimmed
    · simp only [List.mem_append, not_or]
      exact ⟨hleftPiece.oneLine, ha.not_mem (.inr rfl), by decide, hb.not_mem (.inr rfl),
        hrightPiece.oneLine⟩
    · obtain ⟨s, t, hs, ht, rest, rfl⟩ := hleft.exists_prefix
      have hmem : s ∈ h.sources := List.mem_of_mem_head? hs
      have htext : isSignificant s.text = true := by
        simpa [isSignificant, (h.source_text s hmem).ne_nil] using h.counts s hs
      refine isSignificant_append ?_ rest
      cases ht with
      | bare => exact htext
      | listed => exact isSignificant_append htext _

end StepHeader

/-! ## templates -/

namespace Header

variable {pre post hooks : List (List Char)} {clause : List Char}

theorem toNat_of_isNameChar {c : Char} (h : isNameChar c = true) :
    45 ≤ c.toNat ∧ c.toNat ≤ 122 := by
  have hcodes : 'A'.toNat = 65 ∧ 'Z'.toNat = 90 ∧ 'a'.toNat = 97 ∧ 'z'.toNat = 122 ∧
      '0'.toNat = 48 ∧ '9'.toNat = 57 := by decide
  have hrange : ∀ {low high : Char}, low.val ≤ c.val ∧ c.val ≤ high.val →
      low.toNat ≤ c.toNat ∧ c.toNat ≤ high.toNat := fun ⟨hlow, hhigh⟩ =>
    ⟨UInt32.le_iff_toNat_le.1 hlow, UInt32.le_iff_toNat_le.1 hhigh⟩
  simp only [isNameChar, Bool.or_eq_true, beq_iff_eq] at h
  rcases h with (h | rfl) | rfl
  · rcases Bool.or_eq_true_iff.1 h with h | hdigit
    · rcases Bool.or_eq_true_iff.1 h with hupper | hlower
      · have := hrange (of_decide_eq_true hupper : 'A'.val ≤ c.val ∧ c.val ≤ 'Z'.val)
        omega
      · have hlower := Bool.and_eq_true_iff.1 hlower
        have := hrange ⟨of_decide_eq_true hlower.1, of_decide_eq_true hlower.2⟩
        omega
    · have hdigit := Bool.and_eq_true_iff.1 hdigit
      have := hrange ⟨of_decide_eq_true hdigit.1, of_decide_eq_true hdigit.2⟩
      omega
  · decide
  · decide

theorem isNameChar_of_isBlank {c : Char} (h : isBlank c = true) : isNameChar c = false := by
  refine Bool.eq_false_iff.2 fun hname => ?_
  have hrange := toNat_of_isNameChar hname
  simp only [isBlank, Bool.or_eq_true, Bool.and_eq_true, decide_eq_true_eq, beq_iff_eq] at h
  omega

theorem IsHookText.isPiece (h : IsHookText t) : IsPiece t := h.toIsPatternText.isPiece

theorem listItems_of_side (h : Side hooks cs) (ha : Blanks a) (hb : Blanks b)
    (htext : ∀ t ∈ hooks, IsHookText t) : listItems (a ++ (cs ++ b)) = hooks := by
  cases h with
  | none =>
    have hcomma : ',' ∉ a ++ ([] ++ b) := ha.not_mem_padded hb (.inl rfl) List.not_mem_nil
    have htrim : trim (a ++ ([] ++ b)) = [] := trim_padded ha.blank hb.blank (by decide)
    rw [listItems, splitOn_eq_singleton hcomma, List.map_singleton, htrim]
    rfl
  | list h => exact listItems_of_commaList h ha hb fun t ht => (htext t ht).toIsPatternText

/-- what is neither a comma nor a slash is not in a clause, if it is not in the hooks -/
theorem Side.not_mem {m : Char} (h : Side hooks cs) (hblank : isBlank m = false ∨ m = '\n')
    (hcomma : m ≠ ',') (htext : ∀ t ∈ hooks, m ∉ t) : m ∉ cs := by
  cases h with
  | none => exact List.not_mem_nil
  | list h => exact h.not_mem hblank hcomma fun t ht u hu => hu ▸ htext t ht

theorem Side.arrow (h : Side hooks cs) (htext : ∀ t ∈ hooks, IsHookText t) : ¬arrow <:+: cs := by
  cases h with
  | none => exact not_arrow_nil
  | list h => exact (h.isPiece fun t ht u hu => hu ▸ (htext t ht).isPiece).arrow

theorem Clause.not_mem {m : Char} (h : Clause pre post clause)
    (hblank : isBlank m = false ∨ m = '\n') (hcomma : m ≠ ',') (hslash : m ≠ '/')
    (hpre : ∀ t ∈ pre, m ∉ t) (hpost : ∀ t ∈ post, m ∉ t) : m ∉ clause := by
  cases h with
  | before h ha hb =>
    exact ha.not_mem_padded hb hblank ((Side.list h).not_mem hblank hcomma hpre)
  | both hcs hds ha hb hc hd =>
    rw [List.mem_append, List.mem_cons, not_or, not_or]
    exact ⟨ha.not_mem_padded hb hblank (hcs.not_mem hblank hcomma hpre), hslash,
      hc.not_mem_padded hd hblank (hds.not_mem hblank hcomma hpost)⟩

section
variable (h : Clause pre post clause) (hpre : ∀ t ∈ pre, IsHookText t)
  (hpost : ∀ t ∈ post, IsHookText t)
include h hpre hpost

theorem Clause.arrow : ¬arrow <:+: clause := by
  have hside : ∀ {hooks cs a b}, Side hooks cs → (∀ t ∈ hooks, IsHookText t) → Blanks a →
      Blanks b → ¬Header.arrow <:+: a ++ (cs ++ b) := fun hcs htext ha hb =>
    ha.not_arrow_before (hb.not_arrow_behind (hcs.arrow htext))
  cases h with
  | before h ha hb => exact hside (.list h) hpre ha hb
  | both hcs hds ha hb hc hd =>
    exact not_arrow_append_cons (by decide) (hside hcs hpre ha hb) (hside hds hpost hc hd)

theorem Clause.trim_ne_nil : trim clause ≠ [] := by
  cases h with
  | before h ha hb =>
    have hpiece := h.isPiece fun t ht u hu => hu ▸ (hpre t ht).isPiece
    rw [trim_padded ha.blank hb.blank hpiece.trimmed]
    exact hpiece.ne_nil
  | both hcs hds ha hb hc hd =>
    exact List.ne_nil_of_mem (mem_trim (List.mem_append_right _ List.mem_cons_self) rfl)

/-- hooks are read as they were meant -/
theorem hookLists_of_clause : hookLists clause =
    .ok (pre.map String.ofList, post.map String.ofList) := by
  have hslash : ∀ {hooks cs a b}, Side hooks cs → (∀ t ∈ hooks, IsHookText t) → Blanks a →
      Blanks b → '/' ∉ a ++ (cs ++ b) := fun hcs htext ha hb =>
    ha.not_mem_padded hb (.inl rfl)
      (hcs.not_mem (.inl rfl) (by decide) fun t ht => (htext t ht).slash)
  cases h with
  | @before cs a b h ha hb =>
    have hside : Side pre cs := .list h
    have hsplit := splitOn_eq_singleton (hslash hside hpre ha hb)
    unfold hookLists
    rw [hsplit]
    show Except.ok ((listItems (a ++ (cs ++ b))).map String.ofList, []) = _
    rw [listItems_of_side hside ha hb hpre]
    rfl
  | @both _ cs ds a b c d hcs hds ha hb hc hd =>
    have hsplit := splitOn_append (hslash hcs hpre ha hb) (c ++ (ds ++ d))
    rw [splitOn_eq_singleton (hslash hds hpost hc hd)] at hsplit
    unfold hookLists
    rw [hsplit]
    show Except.ok ((listItems (a ++ (cs ++ b))).map String.ofList,
      (listItems (c ++ (ds ++ d))).map String.ofList) = _
    rw [listItems_of_side hcs ha hb hpre, listItems_of_side hds hc hd hpost]

theorem parenthesised?_of_clause : parenthesised? ('(' :: (clause ++ [')'])) = some clause := by
  have hopen : '(' ∉ clause := h.not_mem (.inl rfl) (by decide) (by decide)
    (fun t ht => (bare_iff.1 (hpre t ht).bare).1) (fun t ht => (bare_iff.1 (hpost t ht).bare).1)
  have hclose : ')' ∉ clause := h.not_mem (.inl rfl) (by decide) (by decide)
    (fun t ht => (bare_iff.1 (hpre t ht).bare).2.1)
    (fun t ht => (bare_iff.1 (hpost t ht).bare).2.1)
  have hstrip : stripEnd [')'] (clause ++ [')']) = some clause := stripEnd_eq_some_iff.2 rfl
  have hne : (trim clause).isEmpty = false := by simpa using h.trim_ne_nil hpre hpost
  show (stripEnd [')'] (clause ++ [')'])).bind _ = _
  rw [hstrip, Option.bind_some, hne, hasParen_eq_false hopen hclose]
  rfl

end

end Header

namespace TemplateHeader

variable {h : TemplateHeader}

theorem arrow_name (h : TemplateHeader) : ¬arrow <:+: h.name := by
  intro harrow
  have hname := h.name_char '>' (harrow.mem (by decide))
  exact absurd hname (by decide)

theorem Written.arrow (hw : h.Written cs) : ¬arrow <:+: cs := by
  cases hw with
  | alone => exact h.arrow_name
  | @hooks a clause hclause ha =>
    have hclosed : ¬Header.arrow <:+: clause ++ [')'] := not_arrow_append_cons (by decide)
      (hclause.arrow h.prehook_text h.posthook_text) not_arrow_nil
    have hopen : '(' ∉ Header.arrow := by decide
    have hall := not_arrow_append_cons hopen (ha.not_arrow_behind h.arrow_name) hclosed
    rwa [List.append_assoc] at hall

/-- a template is read from its header as it was meant -/
theorem Written.declaration_eq (hw : h.Written cs) (body : List (List Char)) (n : Nat) :
    (⟨cs, n, body⟩ : Block).declaration =
      .ok (.template (String.ofList h.name) (h.template body)) := by
  have hcut : cutAt Header.arrow cs = none := cutAt_eq_none_iff.2 hw.arrow
  have hname : h.name.isEmpty = false := by simpa using h.name_ne
  have htemplate : templateOf cs body = .ok (String.ofList h.name, h.template body) := by
    cases hw with
    | alone hpre hpost =>
      obtain ⟨htake, hdrop⟩ := span_append (b := []) h.name_char fun c hc => by cases hc
      rw [List.append_nil] at htake hdrop
      unfold templateOf
      rw [htake, hdrop, template, hpre, hpost]
      simp only [hname]
      rfl
    | @hooks a clause hclause ha =>
      have hhead : ∀ c, (a ++ '(' :: (clause ++ [')'])).head? = some c → isNameChar c = false := by
        intro c hc
        cases a with
        | nil =>
          obtain rfl : '(' = c := Option.some.inj hc
          rfl
        | cons d a =>
          obtain rfl : d = c := Option.some.inj hc
          exact isNameChar_of_isBlank (ha.blank d List.mem_cons_self)
      obtain ⟨htake, hdrop⟩ := span_append h.name_char hhead
      have htrim : trim (a ++ '(' :: (clause ++ [')'])) = '(' :: (clause ++ [')']) := by
        have htrimmed : Trimmed ('(' :: (clause ++ [')'])) :=
          Trimmed.append (by decide : Trimmed ['(']) (by decide : Trimmed [')'])
            (List.cons_ne_nil _ _) (List.cons_ne_nil _ _) clause
        have hpadded := trim_padded ha.blank (List.forall_mem_nil _) htrimmed
        rwa [List.append_nil] at hpadded
      unfold templateOf
      rw [htake, hdrop, htrim]
      simp only [hname, parenthesised?_of_clause hclause h.prehook_text h.posthook_text,
        hookLists_of_clause hclause h.prehook_text h.posthook_text]
      rfl
  unfold Block.declaration
  rw [hcut, htemplate]
  rfl

/-- the header of a template can stand as a line -/
theorem Written.isLineText (hw : h.Written cs) : IsLineText cs := by
  have hblank : ∀ c ∈ h.name, isBlank c = false := by
    intro c hc
    by_contra hblank
    have hnot := isNameChar_of_isBlank (Bool.of_not_eq_false hblank)
    rw [h.name_char c hc] at hnot
    cases hnot
  have hname : IsLineText h.name := by
    refine ⟨⟨fun c hc => hblank c (List.mem_of_mem_head? hc),
      fun c hc => hblank c (List.mem_of_mem_getLast? hc)⟩, fun hm => ?_, ?_⟩
    · exact absurd (hblank _ hm) (by decide)
    · have hcounts : h.name.head? ≠ some '#' := fun hc =>
        absurd (h.name_char _ (List.mem_of_mem_head? hc)) (by decide)
      simpa [isSignificant, h.name_ne] using hcounts
  cases hw with
  | alone => exact hname
  | @hooks a clause hclause ha =>
    refine ⟨?_, ?_, isSignificant_append hname.significant _⟩
    · have htrimmed := hname.trimmed.append (by decide : Trimmed [')']) h.name_ne
        (List.cons_ne_nil _ _) (a ++ '(' :: clause)
      simpa only [List.append_assoc, List.cons_append] using htrimmed
    · have hclauseLine : '\n' ∉ clause := hclause.not_mem (.inr rfl) (by decide) (by decide)
        (fun t ht => (h.prehook_text t ht).oneLine) (fun t ht => (h.posthook_text t ht).oneLine)
      simp only [List.mem_append, List.mem_cons, List.not_mem_nil, or_false, not_or]
      exact ⟨hname.oneLine, ha.not_mem (.inr rfl), by decide, hclauseLine, by decide⟩

end TemplateHeader

/-! ## files -/

/-- rows of text are read line by line, whatever blanks stand around each -/
theorem trim_lines_rows {body rows : List (List Char)} (hrows : List.Forall₂ (Padded Eq) body rows)
    (hbody : ∀ t ∈ body, IsLineText t) (last : List Char) :
    (lines (rows.flatMap (· ++ ['\n']) ++ last)).map trim = body ++ (lines last).map trim := by
  induction hrows with
  | nil => rfl
  | @cons t row body rows h _ ih =>
    obtain ⟨ht, hbody⟩ := List.forall_mem_cons.1 hbody
    obtain ⟨a, u, b, ha, hb, rfl, rfl⟩ := h
    have hline : '\n' ∉ a ++ (t ++ b) := ha.not_mem_padded hb (.inr rfl) ht.oneLine
    rw [List.flatMap_cons, List.append_assoc, List.append_assoc, List.singleton_append,
      trim_lines_append_newline hline, ih hbody, trim_padded ha.blank hb.blank ht.trimmed,
      List.cons_append]

namespace IsBlockText

variable {header text : List Char} {body : List (List Char)}

/-- the lines of a file of one block -/
theorem significantLines_eq (h : IsBlockText header body text) (hheader : IsLineText header)
    (hbody : ∀ t ∈ body, IsBodyLine t) : ∃ opening,
    Trimmed opening ∧ opening.getLast? = some '\x7b' ∧ trim opening.dropLast = header ∧
      significantLines text = numbered 1 (opening :: body ++ [['\x7d']]) := by
  cases h with
  | @mk a b c d e tail rows ha hb hc hd he hrows htail =>
    have hbrace : Trimmed ['\x7b'] := by decide
    have hne : header ≠ [] := hheader.ne_nil
    have hopening : IsLineText (header ++ (b ++ ['\x7b'])) := by
      refine ⟨hheader.trimmed.append hbrace hne (List.cons_ne_nil _ _) b, ?_, ?_⟩
      · simp only [List.mem_append, List.mem_singleton, not_or]
        exact ⟨hheader.oneLine, hb.not_mem (.inr rfl), by decide⟩
      · exact isSignificant_append hheader.significant _
    have hlines : ∀ t ∈ (header ++ (b ++ ['\x7b'])) :: body ++ [['\x7d']], IsLineText t := by
      simp only [List.mem_append, List.mem_cons, List.not_mem_nil, or_false]
      rintro t ((rfl | ht) | rfl)
      · exact hopening
      · exact (hbody t ht).toIsLineText
      · exact ⟨by decide, by decide, rfl⟩
    have hfirst : '\n' ∉ a ++ (header ++ (b ++ '\x7b' :: c)) := by
      simp only [List.mem_append, List.mem_cons, not_or]
      exact ⟨ha.not_mem (.inr rfl), hheader.oneLine, hb.not_mem (.inr rfl), by decide,
        hc.not_mem (.inr rfl)⟩
    have hfirstTrim : trim (a ++ (header ++ (b ++ '\x7b' :: c))) = header ++ (b ++ ['\x7b']) := by
      have hpadded := trim_padded ha.blank hc.blank hopening.trimmed
      simpa only [List.append_assoc, List.singleton_append] using hpadded
    have hlast : (lines (d ++ (['\x7d'] ++ e) ++ tail)).map trim = [['\x7d']] := by
      have hline : '\n' ∉ d ++ (['\x7d'] ++ e) := hd.not_mem_padded he (.inr rfl) (by decide)
      have hclosing : trim (d ++ (['\x7d'] ++ e)) = ['\x7d'] :=
        trim_padded hd.blank he.blank (by decide)
      rcases htail with rfl | rfl
      · rw [List.append_nil, lines_of_not_mem (by simp) hline, List.map_singleton, hclosing]
      · rw [trim_lines_append_newline hline, hclosing]
        rfl
    refine ⟨header ++ (b ++ ['\x7b']), hopening.trimmed, ?_, ?_,
      significantLines_of_lines ?_ hlines⟩
    · rw [← List.append_assoc, List.getLast?_concat]
    · rw [← List.append_assoc, List.dropLast_concat, trim_append_blanks hb.blank,
        hheader.trimmed.trim_eq]
    · rw [trim_lines_append_newline hfirst, hfirstTrim,
        trim_lines_rows hrows (fun t ht => (hbody t ht).toIsLineText), hlast]
      rfl

/-- a file of one block is read from what the block declares -/
theorem parse_eq (h : IsBlockText header body text) (hheader : IsLineText header)
    (hbody : ∀ t ∈ body, IsBodyLine t) {d : Declaration}
    (hd : (⟨header, 1, body⟩ : Block).declaration = .ok d) :
    Program.parse (String.ofList text) = .ok (Program.empty.declare d) := by
  obtain ⟨opening, htrimmed, hbrace, hopening, hlines⟩ := h.significantLines_eq hheader hbody
  have hread : readBlocks (significantLines (String.ofList text).toList) =
      ([⟨header, 1, body⟩], none) := by
    rw [String.toList_ofList, hlines, ← hopening]
    exact readBlocks_numbered htrimmed hbrace fun t ht => ⟨(hbody t ht).trimmed, (hbody t ht).inner⟩
  rw [Program.parse_of_readBlocks hread]
  show (Program.empty.addBlock ⟨header, 1, body⟩ >>= pure) = _
  rw [Program.addBlock_eq_ok_iff.2 ⟨d, hd, fun _ _ => List.not_mem_nil, rfl⟩]
  rfl

end IsBlockText

namespace Program

/-- **Headers are read as they were meant.**  Write what a step or a template says in its header on
one line, with any blanks around the marks, and below it the lines of a body and the closing brace.
Reading the file then gives that step alone or that template alone.  The sources and destinations of
the step are the texts written, cleaned and in order; its dependencies are those of all its sources,
cleaned, in order and without duplicates; the template has the name and the hooks written, in order;
and both have the body line for line. -/
theorem headers_round_trip {body : List (List Char)} (hbody : ∀ t ∈ body, IsBodyLine t) :
    (∀ (h : StepHeader) header text, h.Written header → IsBlockText header body text →
      parse (String.ofList text) = .ok ⟨[h.step body], .empty⟩) ∧
    ∀ (h : TemplateHeader) header text, h.Written header → IsBlockText header body text →
      parse (String.ofList text) =
        .ok ⟨[], Table.empty.insert (String.ofList h.name) (h.template body)⟩ := by
  constructor
  · intro h header text hw htext
    exact htext.parse_eq hw.isLineText hbody (hw.declaration_eq body)
  · intro h header text hw htext
    exact htext.parse_eq hw.isLineText hbody (hw.declaration_eq body 1)

/-- texts that hold parts of marks, and one dependency in two spellings -/
def spacedStep : StepHeader where
  sources := [⟨"\x7b-$1>.c".toList, ["./inc//$1.h".toList, "x-".toList]⟩,
    ⟨"$1.s".toList, ["inc/$1.h".toList]⟩]
  destinations := [">$1.o\x7b".toList]
  sources_ne := List.cons_ne_nil _ _
  destinations_ne := List.cons_ne_nil _ _
  source_text := by decide
  dependency_text := by decide
  destination_text := by decide
  counts := by
    intro s hs
    rw [← Option.some.inj hs]
    decide

/-- hooks on the far side of the slash only -/
def spacedTemplate : TemplateHeader where
  name := "all-".toList
  prehooks := []
  posthooks := ["> pack".toList, "sign".toList]
  name_ne := List.cons_ne_nil _ _
  name_char := List.all_eq_true.1 (by decide)
  prehook_text := List.forall_mem_nil _
  posthook_text := by decide

/-- neither odd blanks nor braces, dashes and angles in texts are taken for structure -/
theorem spaced_headers_round_trip :
    parse "  \x7b-$1>.c\t( ./inc//$1.h ,x-), $1.s (inc/$1.h)\t->  >$1.o\x7b\x7b \r\n\tcc -c\n\x7d" =
      .ok ⟨[⟨[⟨"\x7b-$1>.c"⟩, ⟨"$1.s"⟩], [⟨">$1.o\x7b"⟩], [⟨"inc/$1.h"⟩, ⟨"x-"⟩], "cc -c\n", 1⟩],
        .empty⟩ ∧
    parse "all- ( / > pack,sign)\x7b\ncc -c\n \x7d \n" =
      .ok ⟨[], Table.empty.insert "all-" ⟨[], ["> pack", "sign"], ["cc -c"]⟩⟩ := by
  have hbody : ∀ t ∈ ["cc -c".toList], IsBodyLine t := by
    intro t ht
    rw [List.mem_singleton.1 ht]
    exact ⟨⟨by decide, by decide, rfl⟩, by decide⟩
  have hnone : Blanks [] := by decide
  have hspace : Blanks [' '] := by decide
  have hspaces : Blanks [' ', ' '] := by decide
  have htab : Blanks ['\t'] := by decide
  have hreturn : Blanks [' ', '\r'] := by decide
  constructor
  · have hleft : CommaList Source.Written spacedStep.sources _ :=
      .cons (.listed (.cons rfl hspace hnone (.last rfl)) htab hspace hnone) hnone hspace
        (.last (.listed (.last rfl) hspace hnone hnone))
    have hright : CommaList Eq spacedStep.destinations _ := .last rfl
    have hheader := StepHeader.Written.mk hleft hright htab hspaces
    have hrows : List.Forall₂ (Padded Eq) ["cc -c".toList] ["\tcc -c".toList] :=
      .cons ⟨['\t'], _, [], htab, hnone, rfl, rfl⟩ .nil
    exact (headers_round_trip hbody).1 spacedStep _ _ hheader
      (.mk hspaces hnone hreturn hnone hnone hrows (.inl rfl))
  · have hclause : Clause spacedTemplate.prehooks spacedTemplate.posthooks _ :=
      .both .none (.list (.cons rfl hnone hnone (.last rfl))) hspace hnone hspace hnone
    have hheader := TemplateHeader.Written.hooks hclause hspace
    have hrows : List.Forall₂ (Padded Eq) ["cc -c".toList] ["cc -c".toList] :=
      .cons ⟨[], _, [], hnone, hnone, rfl, rfl⟩ .nil
    exact (headers_round_trip hbody).2 spacedTemplate _ _ hheader
      (.mk hnone hnone hnone hspace hspace hrows (.inr rfl))

end Program

end PatternBuild
