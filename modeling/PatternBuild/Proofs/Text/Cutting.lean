import Mathlib.Data.List.DropRight
import Mathlib.Data.List.Infix
import PatternBuild.Text.Blank

/-!
# Pieces of a text

What cutting, splitting, trimming and stripping yield is found in the text as it is.

* `cutAt_eq_some`, `not_infix_of_cutAt`   a text is cut at the first occurrence;
* `contains_iff`                          and is not cut only if there is none;
* `cutAt_append`                          where an occurrence is the first one, it is cut there;
* `mem_splitOn`                           pieces between separators hold none of them;
* `splitOn_intercalate`                   and such pieces, joined by separators, are found again;
* `intercalate_inj`                       as are pieces joined by a text that no piece runs into;
* `stripEnd_eq_some_iff`, `isInfix_trim`  the ends are taken off and nothing else.
-/

namespace PatternBuild.Text

variable {cs a b needle : List Char} {p : Char → Bool}

/-! ## the first occurrence -/

theorem cutAt_eq_none_iff : cutAt needle cs = none ↔ ¬needle <:+: cs := by
  induction cs with
  | nil =>
    unfold cutAt
    rw [List.infix_nil]
    cases needle with
    | nil => simp
    | cons c needle => simp
  | cons c cs ih =>
    unfold cutAt
    rw [List.infix_cons_iff, ← List.isPrefixOf_iff_prefix]
    by_cases h : needle.isPrefixOf (c :: cs) = true
    · simp [h]
    · rw [if_neg h, Option.map_eq_none_iff, ih]
      simp [h]

theorem contains_iff : contains needle cs = true ↔ needle <:+: cs := by
  rw [contains, Option.isSome_iff_ne_none, ne_eq, cutAt_eq_none_iff, not_not]

/-- the two parts and what stood between them make the text -/
theorem cutAt_eq_some (h : cutAt needle cs = some (a, b)) : cs = a ++ (needle ++ b) := by
  induction cs generalizing a with
  | nil =>
    unfold cutAt at h
    split at h
    · rename_i he
      obtain ⟨rfl, rfl⟩ := Prod.mk.inj (Option.some.inj h)
      rw [List.isEmpty_iff.1 he]
      rfl
    · cases h
  | cons c cs ih =>
    unfold cutAt at h
    split at h
    · rename_i hpre
      obtain ⟨rfl, rfl⟩ := Prod.mk.inj (Option.some.inj h)
      obtain ⟨rest, he⟩ := List.isPrefixOf_iff_prefix.1 hpre
      rw [← he, List.drop_left]
      rfl
    · obtain ⟨⟨a', b'⟩, hcut, he⟩ := Option.map_eq_some_iff.1 h
      obtain ⟨rfl, rfl⟩ := Prod.mk.inj he
      rw [ih hcut]
      rfl

/-- the cut is at the first occurrence -/
theorem not_infix_of_cutAt (hne : needle ≠ []) (h : cutAt needle cs = some (a, b)) :
    ¬needle <:+: a := by
  induction cs generalizing a with
  | nil =>
    unfold cutAt at h
    rw [if_neg (by simpa using hne)] at h
    cases h
  | cons c cs ih =>
    have htext := cutAt_eq_some h
    unfold cutAt at h
    split at h
    · obtain ⟨rfl, rfl⟩ := Prod.mk.inj (Option.some.inj h)
      rw [List.infix_nil]
      exact hne
    · rename_i hpre
      obtain ⟨⟨a', b'⟩, hcut, he⟩ := Option.map_eq_some_iff.1 h
      obtain ⟨rfl, rfl⟩ := Prod.mk.inj he
      rw [List.infix_cons_iff, not_or]
      refine ⟨fun hstart => hpre ?_, ih hcut⟩
      rw [List.isPrefixOf_iff_prefix, htext]
      exact hstart.trans (List.prefix_append _ _)

/-- a text is cut at an occurrence before which no other one starts -/
theorem cutAt_append (hne : needle ≠ []) (h : ¬needle <:+: a ++ needle.dropLast) (b : List Char) :
    cutAt needle (a ++ (needle ++ b)) = some (a, b) := by
  induction a with
  | nil =>
    cases needle with
    | nil => exact absurd rfl hne
    | cons c needle =>
      have hpre : (c :: needle).isPrefixOf (c :: (needle ++ b)) = true :=
        List.isPrefixOf_iff_prefix.2 (List.prefix_append (c :: needle) b)
      rw [List.nil_append, List.cons_append, cutAt, if_pos hpre, ← List.cons_append, List.drop_left]
  | cons c a ih =>
    rw [List.cons_append, List.infix_cons_iff, not_or] at h
    -- an occurrence at the start would end before the last character of the one that follows
    have hpre : ¬needle.isPrefixOf (c :: (a ++ (needle ++ b))) = true := by
      intro hpre
      have hfront : c :: (a ++ needle.dropLast) <+: c :: (a ++ (needle ++ b)) := by
        rw [List.cons_prefix_cons, List.prefix_append_right_inj]
        exact ⟨rfl, (List.dropLast_prefix _).trans (List.prefix_append _ _)⟩
      refine h.1 (List.prefix_of_prefix_length_le (List.isPrefixOf_iff_prefix.1 hpre) hfront ?_)
      simp only [List.length_cons, List.length_append, List.length_dropLast]
      omega
    rw [List.cons_append, cutAt, if_neg hpre, ih h.2]
    rfl

/-- a text is cut at the first occurrence of a character -/
theorem cutAt_char {c : Char} (h : c ∉ a) (b : List Char) :
    cutAt [c] (a ++ c :: b) = some (a, b) := by
  refine cutAt_append (List.cons_ne_nil _ _) ?_ b
  rw [List.dropLast_singleton, List.append_nil, List.singleton_infix_iff]
  exact h

/-! ## where text can be found -/

/-- text without a character lies before an occurrence of it, or after -/
theorem infix_append_cons {m : List Char} {c : Char} (hm : c ∉ m) (h : m <:+: a ++ c :: b) :
    m <:+: a ∨ m <:+: b := by
  -- a front of what starts with the character holds it, or is empty
  have hfront : ∀ l, c ∉ l → l <+: c :: b → l = [] := by
    intro l hl hpre
    cases l with
    | nil => rfl
    | cons d l =>
      obtain ⟨rfl, _⟩ := List.cons_prefix_cons.1 hpre
      exact absurd List.mem_cons_self hl
  rcases List.infix_append_iff.1 h with h | h | ⟨x, y, rfl, hx, hy⟩
  · exact .inl h
  · rcases List.infix_cons_iff.1 h with h | h
    · rw [hfront m hm h]
      exact .inl List.nil_infix
    · exact .inr h
  · rw [hfront y (fun hs => hm (List.mem_append_right _ hs)) hy, List.append_nil]
    exact .inl hx.isInfix

/-! ## pieces between separators -/

/-- the first piece starts the text, and the others are found in it -/
theorem exists_splitOn (p : Char → Bool) (cs : List Char) : ∃ first rest,
    splitOn p cs = first :: rest ∧ (first <+: cs ∧ ∀ c ∈ first, p c = false) ∧
      ∀ piece ∈ rest, piece <:+: cs ∧ ∀ c ∈ piece, p c = false := by
  induction cs with
  | nil => exact ⟨[], [], rfl, by simp, by simp⟩
  | cons c cs ih =>
    obtain ⟨first, rest, he, ⟨hpre, hfirst⟩, hrest⟩ := ih
    have hmore : ∀ piece ∈ rest, piece <:+: c :: cs ∧ ∀ c ∈ piece, p c = false := fun piece hm =>
      ⟨List.infix_cons (hrest piece hm).1, (hrest piece hm).2⟩
    unfold splitOn
    rw [he]
    by_cases hc : p c = true
    · rw [if_pos hc]
      refine ⟨[], first :: rest, rfl, by simp, List.forall_mem_cons.2 ⟨?_, hmore⟩⟩
      exact ⟨List.infix_cons hpre.isInfix, hfirst⟩
    · rw [if_neg hc]
      rw [Bool.not_eq_true] at hc
      exact ⟨c :: first, rest, rfl, ⟨List.cons_prefix_cons.2 ⟨rfl, hpre⟩,
        List.forall_mem_cons.2 ⟨hc, hfirst⟩⟩, hmore⟩

theorem mem_splitOn {piece : List Char} (h : piece ∈ splitOn p cs) :
    piece <:+: cs ∧ ∀ c ∈ piece, p c = false := by
  obtain ⟨first, rest, he, ⟨hpre, hfirst⟩, hrest⟩ := exists_splitOn p cs
  rw [he] at h
  rcases List.mem_cons.1 h with rfl | h
  · exact ⟨hpre.isInfix, hfirst⟩
  · exact hrest piece h

theorem splitOn_eq_singleton {c : Char} (h : c ∉ a) : splitOn (· == c) a = [a] := by
  induction a with
  | nil => rfl
  | cons d a ih =>
    rw [List.mem_cons, not_or] at h
    have hd : (d == c) = false := beq_false_of_ne (Ne.symm h.1)
    rw [splitOn, if_neg (Bool.eq_false_iff.1 hd), ih h.2]
    rfl

theorem splitOn_append {c : Char} (h : c ∉ a) (b : List Char) :
    splitOn (· == c) (a ++ c :: b) = a :: splitOn (· == c) b := by
  induction a with
  | nil => rw [List.nil_append, splitOn, if_pos (beq_self_eq_true c)]
  | cons d a ih =>
    rw [List.mem_cons, not_or] at h
    have hd : (d == c) = false := beq_false_of_ne (Ne.symm h.1)
    rw [List.cons_append, splitOn, if_neg (Bool.eq_false_iff.1 hd), ih h.2]
    rfl

/-- pieces joined by a character that is in none of them are found again -/
theorem splitOn_intercalate {c : Char} {pieces : List (List Char)} (hne : pieces ≠ [])
    (h : ∀ piece ∈ pieces, c ∉ piece) : splitOn (· == c) ([c].intercalate pieces) = pieces := by
  induction pieces with
  | nil => exact absurd rfl hne
  | cons piece pieces ih =>
    obtain ⟨hpiece, hpieces⟩ := List.forall_mem_cons.1 h
    cases pieces with
    | nil =>
      rw [List.intercalate_singleton]
      exact splitOn_eq_singleton hpiece
    | cons next pieces =>
      rw [List.intercalate_cons_cons, List.append_assoc, List.singleton_append,
        splitOn_append hpiece, ih (List.cons_ne_nil _ _) hpieces]

/-- of pieces joined by a text that none of them runs into, the first one is cut off -/
theorem cutAt_intercalate {piece next : List Char} (hne : needle ≠ [])
    (h : ¬needle <:+: piece ++ needle.dropLast) (pieces : List (List Char)) :
    cutAt needle (needle.intercalate (piece :: next :: pieces)) =
      some (piece, needle.intercalate (next :: pieces)) := by
  rw [List.intercalate_cons_cons, List.append_assoc]
  exact cutAt_append hne h _

/-- such pieces can be told from what they make joined -/
theorem intercalate_inj {xs ys : List (List Char)} (hne : needle ≠ []) (hx : xs ≠ []) (hy : ys ≠ [])
    (hxs : ∀ x ∈ xs, ¬needle <:+: x ++ needle.dropLast)
    (hys : ∀ y ∈ ys, ¬needle <:+: y ++ needle.dropLast)
    (h : needle.intercalate xs = needle.intercalate ys) : xs = ys := by
  -- the last piece is not cut
  have hlast : ∀ z, ¬needle <:+: z ++ needle.dropLast →
      cutAt needle (needle.intercalate [z]) = none := by
    intro z hz
    rw [List.intercalate_singleton, cutAt_eq_none_iff]
    exact fun hin => hz (hin.trans (List.prefix_append _ _).isInfix)
  induction xs generalizing ys with
  | nil => exact absurd rfl hx
  | cons x xs ih =>
    cases ys with
    | nil => exact absurd rfl hy
    | cons y ys =>
      have hcut := congrArg (cutAt needle) h
      obtain ⟨hx', hxs'⟩ := List.forall_mem_cons.1 hxs
      obtain ⟨hy', hys'⟩ := List.forall_mem_cons.1 hys
      cases xs with
      | nil =>
        cases ys with
        | nil => simpa using h
        | cons y' ys =>
          rw [hlast x hx', cutAt_intercalate hne hy'] at hcut
          cases hcut
      | cons x' xs =>
        cases ys with
        | nil =>
          rw [hlast y hy', cutAt_intercalate hne hx'] at hcut
          cases hcut
        | cons y' ys =>
          rw [cutAt_intercalate hne hx', cutAt_intercalate hne hy'] at hcut
          obtain ⟨rfl, hrest⟩ := Prod.mk.inj (Option.some.inj hcut)
          rw [ih (List.cons_ne_nil _ _) (List.cons_ne_nil _ _) hxs' hys' hrest]

/-! ## ends -/

/-- a front of characters that pass, up to one that does not -/
theorem span_append (ha : ∀ c ∈ a, p c = true) (hb : ∀ c, b.head? = some c → p c = false) :
    (a ++ b).takeWhile p = a ∧ (a ++ b).dropWhile p = b := by
  rw [List.takeWhile_append_of_pos ha, List.dropWhile_append_of_pos ha]
  cases b with
  | nil => exact ⟨List.append_nil a, rfl⟩
  | cons c b =>
    have hc : ¬p c = true := Bool.eq_false_iff.1 (hb c rfl)
    rw [List.takeWhile_cons_of_neg hc, List.dropWhile_cons_of_neg hc]
    exact ⟨List.append_nil a, rfl⟩

theorem stripEnd_eq_some_iff {ending : List Char} :
    stripEnd ending cs = some a ↔ cs = a ++ ending := by
  unfold stripEnd
  constructor
  · intro h
    split at h
    · rename_i hs
      obtain ⟨front, rfl⟩ := List.isSuffixOf_iff_suffix.1 hs
      simp at h
      rw [h]
    · cases h
  · rintro rfl
    simp

theorem isPrefix_trimEnd (cs : List Char) : trimEnd cs <+: cs := List.rdropWhile_prefix isBlank cs

theorem isInfix_trim (cs : List Char) : trim cs <:+: cs :=
  (isPrefix_trimEnd (trimStart cs)).isInfix.trans (List.dropWhile_suffix _).isInfix

end PatternBuild.Text
