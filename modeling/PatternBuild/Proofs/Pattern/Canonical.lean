import Mathlib.Data.List.Chain
import PatternBuild.Proofs.Pattern.Occurrences

/-!
# Canonical tokens

Reading and writing undo each other.  A text is what its tokens are written as, and these are
canonical; canonical tokens are read back from what they are written as.  Whether a list is
canonical can be told from its tokens one by one (`Token.Sound`) and from the pairs of neighbours
(`Token.Apart`), without reading anything.

* `canonical_iff`             canonical lists hold sound tokens, and neighbours stand apart;
* `written_tokenize`          writing gives the text that was read;
* `canonical_tokenize`        what is read is canonical;
* `tokenize_written`          reading gives the canonical tokens that were written;
* `tokenize_inverts_written`  texts and canonical lists correspond one to one.
-/

namespace PatternBuild.Pattern

open Text

variable {t u : Token} {ts : List Token} {cs text more after : List Char} {c : Char} {n i : Nat}

/-! ## text before what starts with no digit -/

/-- a capture stays in front when text that starts with no digit is put behind -/
theorem Begins.append (h : Begins cs n after)
    (hmore : ∀ c, more.head? = some c → c.isDigit = false) :
    Begins (cs ++ more) n (after ++ more) where
  text := by rw [h.text, List.cons_append, List.append_assoc]
  pos := h.pos
  le := h.le
  ends c hc := by
    cases after with
    | nil => exact hmore c hc
    | cons d after => exact h.ends c hc

/-- nor does such text make a capture of what is in front -/
theorem not_begins_append (hnot : ∀ n after, ¬Begins (c :: cs) n after)
    (hmore : ∀ c, more.head? = some c → c.isDigit = false) (n : Nat) (after : List Char) :
    ¬Begins (c :: (cs ++ more)) n after := by
  intro h
  obtain rfl : c = '$' := List.head_eq_of_cons_eq h.text
  have hn := exists_begins_iff.1 ⟨after, h⟩
  rw [takeWhile_isDigit_append hmore] at hn
  obtain ⟨after, hbegins⟩ := exists_begins_iff.2 hn
  exact hnot n after hbegins

theorem not_begins_singleton : ¬Begins [c] n after := by
  intro h
  obtain ⟨hdigits, _⟩ := List.append_eq_nil_iff.1 (List.tail_eq_of_cons_eq h.text).symm
  exact Nat.toDigits_ne_nil hdigits

/-- text that holds no wildcard and no capture is read character by character -/
theorem tokenize_append (hstar : '*' ∉ text) (hplain : ∀ i n, ¬OccursAt text i n)
    (hmore : ∀ c, more.head? = some c → c.isDigit = false) :
    tokenize (text ++ more) = text.foldr addLiteral (tokenize more) := by
  induction text with
  | nil => rfl
  | cons c text ih =>
    obtain ⟨hc, hstar⟩ := List.ne_and_not_mem_of_not_mem_cons hstar
    have hnot := not_begins_append (fun n after h => hplain 0 n ⟨after, h⟩) hmore
    rw [List.cons_append, tokenize_of_literal hc.symm hnot, ih hstar fun i n => hplain (i + 1) n,
      List.foldr_cons]

/-! ## canonical lists, token by token -/

namespace Token

/-- a token that can stand in a canonical list -/
def Sound : Token → Prop
  | .literal text => text ≠ [] ∧ '*' ∉ text ∧ ∀ i n, ¬OccursAt text i n
  | .capture n => 1 ≤ n ∧ n ≤ maxCapture
  | .wildcard => True

/-- two tokens that do not run into each other when one is written behind the other -/
def Apart : Token → Token → Prop
  | .literal _, .literal _ => False
  | .capture _, .literal text => ∀ c, text.head? = some c → c.isDigit = false
  | _, _ => True

theorem apart_literal_iff : (literal text).Apart u ↔ u.isDynamic = true := by
  cases u <;> simp [Apart, isDynamic]

end Token

theorem plainLiteral_iff : PlainLiteral text ↔ (Token.literal text).Sound := by
  refine and_congr_right' (and_congr_right' ⟨fun h i n => ?_, fun h before after htext => ?_⟩)
  · rintro ⟨after, hbegins⟩
    have hdrop : text.drop i = '$' :: (text.drop i).tail := by
      rw [hbegins.text, List.tail_cons]
    have hnone := h (text.take i) (text.drop i).tail (by rw [← hdrop, List.take_append_drop])
    rw [hdrop] at hbegins
    rw [exists_begins_iff.1 ⟨after, hbegins⟩] at hnone
    cases hnone
  · refine Option.eq_none_iff_forall_ne_some.2 fun n hn => h before.length n ?_
    rw [OccursAt, htext, List.drop_left]
    exact exists_begins_iff.2 hn

theorem canonical_cons : Canonical (t :: ts) ↔
    t.Sound ∧ (∀ u ∈ ts.head?, t.Apart u) ∧ Canonical ts := by
  cases t with
  | literal text =>
    refine and_congr plainLiteral_iff (and_congr_left' ?_)
    cases ts with
    | nil => simp
    | cons u ts => cases u <;> simp [Token.Apart]
  | capture n =>
    rw [Canonical, ← and_assoc]
    refine and_congr_right' (and_congr_left' ?_)
    cases ts with
    | nil => simp
    | cons u ts => cases u <;> simp [Token.Apart]
  | wildcard => simp [Canonical, Token.Sound, Token.Apart]

theorem canonical_iff : Canonical ts ↔ (∀ t ∈ ts, t.Sound) ∧ ts.IsChain Token.Apart := by
  induction ts with
  | nil => simp [Canonical]
  | cons t ts ih =>
    rw [canonical_cons, ih, List.forall_mem_cons, List.isChain_cons, ← and_assoc,
      and_and_and_comm]

/-- nothing behind a literal or a capture is written with a digit in front -/
theorem Canonical.isDigit_head?_written (h : Canonical (t :: ts)) (ht : t ≠ .wildcard) :
    ∀ c, (written ts).head? = some c → c.isDigit = false := by
  intro c hc
  obtain ⟨_, hapart, hrest⟩ := canonical_cons.1 h
  cases ts with
  | nil => cases hc
  | cons u ts =>
    have hu : t.Apart u := hapart u rfl
    cases u with
    | literal text =>
      obtain ⟨⟨hne, _⟩, _⟩ := canonical_cons.1 hrest
      obtain ⟨d, text, rfl⟩ := List.exists_cons_of_ne_nil hne
      cases t with
      | literal _ => exact hu.elim
      | capture n => exact hu c hc
      | wildcard => exact absurd rfl ht
    | capture n =>
      obtain rfl : '$' = c := Option.some.inj hc
      rfl
    | wildcard =>
      obtain rfl : '*' = c := Option.some.inj hc
      rfl

/-! ## writing what was read -/

theorem written_addLiteral (c : Char) (ts : List Token) :
    written (addLiteral c ts) = c :: written ts := by
  unfold addLiteral
  split <;> rfl

theorem written_tokenize (cs : List Char) : written (tokenize cs) = cs := by
  induction cs using reading_induction with
  | nil => rfl
  | capture cs n after hbegins ih =>
    rw [tokenize_of_begins hbegins, written_cons, ih, hbegins.text]
    rfl
  | char c cs hnot ih =>
    rcases tokenize_of_not_begins hnot with ⟨rfl, hread⟩ | hread
    · rw [hread, written_cons, ih]
      rfl
    · rw [hread, written_addLiteral, ih]

/-! ## what is read is canonical -/

/-- literal text stays sound with a character in front that stands for itself -/
theorem sound_literal_cons (hc : c ≠ '*') (hnot : ∀ n after, ¬Begins (c :: text) n after)
    (hstar : '*' ∉ text) (hplain : ∀ i n, ¬OccursAt text i n) :
    (Token.literal (c :: text)).Sound := by
  refine ⟨List.cons_ne_nil c text, List.not_mem_cons_of_ne_of_not_mem hc.symm hstar, fun i n => ?_⟩
  rw [occursAt_of_not_begins hnot]
  rintro ⟨j, _, hj⟩
  exact hplain j n hj

theorem canonical_addLiteral (h : Canonical ts) (hc : c ≠ '*')
    (hnot : ∀ n after, ¬Begins (c :: written ts) n after) : Canonical (addLiteral c ts) := by
  have hsingle : (Token.literal [c]).Sound :=
    sound_literal_cons hc (fun _ _ => not_begins_singleton) List.not_mem_nil
      fun _ _ => not_occursAt_nil
  cases ts with
  | nil => exact canonical_cons.2 ⟨hsingle, by simp, trivial⟩
  | cons t ts =>
    cases t with
    | literal text =>
      obtain ⟨⟨_, hstar, hplain⟩, hapart, hrest⟩ := canonical_cons.1 h
      -- what follows starts with no digit: a capture in front of the literal is one of the text
      have hmore := h.isDigit_head?_written (by simp)
      have hfront : ∀ n after, ¬Begins (c :: text) n after := fun n after hbegins =>
        hnot n _ (hbegins.append hmore)
      refine canonical_cons.2 ⟨sound_literal_cons hc hfront hstar hplain, ?_, hrest⟩
      simpa only [Token.apart_literal_iff] using hapart
    | capture n => exact canonical_cons.2 ⟨hsingle, by simp [Token.Apart], h⟩
    | wildcard => exact canonical_cons.2 ⟨hsingle, by simp [Token.Apart], h⟩

theorem canonical_tokenize (cs : List Char) : Canonical (tokenize cs) := by
  induction cs using reading_induction with
  | nil => trivial
  | capture cs n after hbegins ih =>
    rw [tokenize_of_begins hbegins]
    refine canonical_cons.2 ⟨⟨hbegins.pos, hbegins.le⟩, fun u hu => ?_, ih⟩
    cases u with
    | literal text =>
      -- literal text in front of the remaining tokens is in front of the remaining text
      intro c hc
      obtain ⟨ts, hts⟩ := List.head?_eq_some_iff.1 hu
      have hafter : after = text ++ written ts := by
        rw [← written_tokenize after, hts, written_cons]
        rfl
      exact hbegins.ends c (by rw [hafter, List.head?_append, hc]; rfl)
    | capture m => trivial
    | wildcard => trivial
  | char c cs hnot ih =>
    by_cases hc : c = '*'
    · subst hc
      rw [tokenize_star]
      exact canonical_cons.2 ⟨trivial, by simp [Token.Apart], ih⟩
    · rw [tokenize_of_literal hc hnot]
      exact canonical_addLiteral ih hc (by rwa [written_tokenize])

theorem sound_of_mem_tokenize (h : t ∈ tokenize cs) : t.Sound :=
  (canonical_iff.1 (canonical_tokenize cs)).1 t h

/-! ## reading what was written -/

theorem foldr_addLiteral (hne : text ≠ []) (h : ∀ u ∈ ts.head?, u.isDynamic = true) :
    text.foldr addLiteral ts = .literal text :: ts := by
  induction text with
  | nil => exact absurd rfl hne
  | cons c text ih =>
    rw [List.foldr_cons]
    by_cases htext : text = []
    · subst htext
      cases ts with
      | nil => rfl
      | cons u ts =>
        cases u with
        | literal _ => cases h _ rfl
        | capture n => rfl
        | wildcard => rfl
    · rw [ih htext]
      rfl

theorem tokenize_written (h : Canonical ts) : tokenize (written ts) = ts := by
  induction ts with
  | nil => rfl
  | cons t ts ih =>
    obtain ⟨hsound, hapart, hrest⟩ := canonical_cons.1 h
    rw [written_cons]
    cases t with
    | literal text =>
      obtain ⟨hne, hstar, hplain⟩ := hsound
      rw [Token.written, tokenize_append hstar hplain (h.isDigit_head?_written (by simp)), ih hrest]
      exact foldr_addLiteral hne fun u hu => Token.apart_literal_iff.1 (hapart u hu)
    | capture n =>
      have hbegins : Begins ((Token.capture n).written ++ written ts) n (written ts) :=
        ⟨rfl, hsound.1, hsound.2, h.isDigit_head?_written (by simp)⟩
      rw [tokenize_of_begins hbegins, ih hrest]
    | wildcard =>
      rw [Token.written, List.singleton_append, tokenize_star, ih hrest]

/-! ## texts and token lists -/

/-- Texts and canonical token lists correspond one to one: each text is what its tokens are written
as, these are canonical, and canonical tokens are read back from what they are written as.  A list
is canonical if its literals are not empty and hold no wildcard and no capture, its captures have
numbers from 1 to 2^32 - 1, no literal follows a literal, and none that starts with a digit follows
a capture. -/
theorem tokenize_inverts_written :
    (∀ cs, written (tokenize cs) = cs) ∧
    (∀ cs, Canonical (tokenize cs)) ∧
    (∀ ts, Canonical ts → tokenize (written ts) = ts) ∧
    (∀ ts, Canonical ts ↔ (∀ t ∈ ts, t.Sound) ∧ ts.IsChain Token.Apart) :=
  ⟨written_tokenize, canonical_tokenize, fun _ => tokenize_written, fun _ => canonical_iff⟩

example : tokenize "$0$12x$4294967296$$1*".toList = [.literal "$0".toList, .capture 12,
    .literal "x$4294967296$".toList, .capture 1, .wildcard] := by decide

end PatternBuild.Pattern
