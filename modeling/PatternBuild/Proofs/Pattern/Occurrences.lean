import Mathlib.Data.List.TakeWhile
import PatternBuild.Pattern.Token
import PatternBuild.Proofs.Text.Numerals

/-!
# Where captures stand in a text

A capture is a dollar sign and the numeral of its number, with no further digit behind it.  As no
numeral holds a dollar sign, the captures of a text can be told place by place, without reading it
from the start (`OccursAt`), and reading finds all of them: a text begins with a capture, which
reading takes off as a whole, or its first character stands for itself (`reading_induction`).

* `captureNumber?_eq_some_iff`    the digits of a capture are the numeral of its number;
* `tokenize_of_begins`            a capture in front is read as a whole;
* `tokenize_of_not_begins`        any other character by itself, as a wildcard or as literal text;
* `occursAt_of_begins`            behind a capture in front, captures stand where they did.
-/

namespace PatternBuild.Pattern

open Text

variable {cs after after' digits : List Char} {c : Char} {n m i : Nat}

/-! ## a capture in front -/

/-- a text begins with the capture of a number, and `after` follows -/
structure Begins (cs : List Char) (n : Nat) (after : List Char) : Prop where
  text : cs = '$' :: (Nat.toDigits 10 n ++ after)
  pos : 1 ≤ n
  le : n ≤ maxCapture
  ends : ∀ c, after.head? = some c → c.isDigit = false

theorem isDigit_of_mem_toDigits (h : c ∈ Nat.toDigits 10 n) : c.isDigit = true :=
  Nat.isDigit_of_mem_toDigits (by decide) (by decide) h

theorem captureNumber?_eq_some_iff (h : ∀ c ∈ digits, c.isDigit = true) :
    captureNumber? digits = some n ↔ digits = Nat.toDigits 10 n ∧ 1 ≤ n ∧ n ≤ maxCapture := by
  unfold captureNumber?
  constructor
  · intro hn
    split at hn
    · cases hn
    · rename_i hnot
      obtain ⟨hne, hzero⟩ := not_or.1 hnot
      obtain ⟨hpos, hdigits⟩ := toDigits_ofDigitChars h hne hzero
      obtain ⟨hle, hn⟩ := Option.ite_none_right_eq_some.1 hn
      obtain rfl := Option.some.inj hn
      exact ⟨hdigits.symm, hpos, hle⟩
  · rintro ⟨rfl, hpos, hle⟩
    rw [if_neg (not_or.2 ⟨Nat.toDigits_ne_nil, head?_toDigits_ne_zero hpos⟩),
      Nat.ofDigitChars_ten_toDigits]
    exact if_pos hle

theorem takeWhile_digits (h : ∀ c ∈ digits, c.isDigit = true)
    (hafter : ∀ c, after.head? = some c → c.isDigit = false) :
    (digits ++ after).takeWhile Char.isDigit = digits := by
  rw [takeWhile_isDigit_append hafter, List.takeWhile_eq_self_iff]
  exact h

/-- reading finds a capture where one stands in front -/
theorem exists_begins_iff : (∃ after, Begins ('$' :: cs) n after) ↔
    captureNumber? (cs.takeWhile Char.isDigit) = some n := by
  have hdigits : ∀ c ∈ cs.takeWhile Char.isDigit, c.isDigit = true :=
    fun _ hc => List.mem_takeWhile_imp hc
  rw [captureNumber?_eq_some_iff hdigits]
  constructor
  · rintro ⟨after, htext, hpos, hle, hends⟩
    obtain rfl : cs = Nat.toDigits 10 n ++ after := List.tail_eq_of_cons_eq htext
    exact ⟨takeWhile_digits (fun _ => isDigit_of_mem_toDigits) hends, hpos, hle⟩
  · rintro ⟨htake, hpos, hle⟩
    refine ⟨cs.dropWhile Char.isDigit, ?_, hpos, hle, fun c hc => ?_⟩
    · rw [← htake, List.takeWhile_append_dropWhile]
    · have hhead := List.head?_dropWhile_not Char.isDigit cs
      rw [hc] at hhead
      simpa using hhead

theorem Begins.takeWhile_eq (h : Begins ('$' :: cs) n after) :
    cs.takeWhile Char.isDigit = Nat.toDigits 10 n ∧ cs = Nat.toDigits 10 n ++ after := by
  obtain rfl : cs = Nat.toDigits 10 n ++ after := List.tail_eq_of_cons_eq h.text
  exact ⟨takeWhile_digits (fun _ => isDigit_of_mem_toDigits) h.ends, rfl⟩

theorem Begins.unique (h : Begins cs n after) (h' : Begins cs m after') : n = m ∧ after = after' := by
  obtain rfl := h.text
  obtain ⟨htake, htext⟩ := h.takeWhile_eq
  obtain ⟨htake', htext'⟩ := h'.takeWhile_eq
  have hdigits : Nat.toDigits 10 n = Nat.toDigits 10 m := htake.symm.trans htake'
  obtain rfl : n = m := by
    rw [← Nat.ofDigitChars_ten_toDigits (n := n), hdigits, Nat.ofDigitChars_ten_toDigits]
  exact ⟨rfl, List.append_cancel_left htext'⟩

/-! ## reading on -/

/-- a character is a wildcard, starts a capture, or is put before the tokens of the rest -/
theorem scan_cons_cases (c : Char) (cs : List Char) :
    (c = '*' ∧ scan 0 (c :: cs) = .wildcard :: scan 0 cs) ∨
      (∃ n, c = '$' ∧ captureNumber? (cs.takeWhile Char.isDigit) = some n ∧
        scan 0 (c :: cs) = .capture n :: scan (cs.takeWhile Char.isDigit).length cs) ∨
      scan 0 (c :: cs) = addLiteral c (scan 0 cs) := by
  by_cases hstar : c = '*'
  · exact .inl ⟨hstar, if_pos hstar⟩
  · by_cases hdollar : c = '$'
    · subst hdollar
      cases hn : captureNumber? (cs.takeWhile Char.isDigit) with
      | some n =>
        refine .inr (.inl ⟨n, rfl, rfl, ?_⟩)
        simp [scan, hn]
      | none =>
        refine .inr (.inr ?_)
        simp [scan, hn]
    · refine .inr (.inr ?_)
      rw [scan, if_neg hstar, if_neg hdollar]

theorem tokenize_of_begins (h : Begins cs n after) :
    tokenize cs = .capture n :: tokenize after := by
  obtain rfl := h.text
  obtain ⟨htake, _⟩ := h.takeWhile_eq
  have hnumber := exists_begins_iff.1 ⟨after, h⟩
  -- reading skips the digits of the capture, and `after` is what is left of the text
  show scan 0 ('$' :: (Nat.toDigits 10 n ++ after)) = _
  rw [scan, if_neg (by decide), if_pos rfl]
  simp only [hnumber]
  rw [scan_eq_drop, htake, List.drop_left]
  rfl

theorem tokenize_star (cs : List Char) : tokenize ('*' :: cs) = .wildcard :: tokenize cs := rfl

theorem tokenize_of_not_begins (h : ∀ n after, ¬Begins (c :: cs) n after) :
    c = '*' ∧ tokenize (c :: cs) = .wildcard :: tokenize cs ∨
      tokenize (c :: cs) = addLiteral c (tokenize cs) := by
  rcases scan_cons_cases c cs with hstar | ⟨n, rfl, hn, _⟩ | hchar
  · exact .inl hstar
  · obtain ⟨after, hbegins⟩ := exists_begins_iff.2 hn
    exact absurd hbegins (h n after)
  · exact .inr hchar

theorem tokenize_of_literal (hc : c ≠ '*') (h : ∀ n after, ¬Begins (c :: cs) n after) :
    tokenize (c :: cs) = addLiteral c (tokenize cs) :=
  (tokenize_of_not_begins h).resolve_left fun hstar => hc hstar.1

/-- a text is read capture by capture, and character by character between them -/
theorem reading_induction {motive : List Char → Prop} (nil : motive [])
    (capture : ∀ cs n after, Begins cs n after → motive after → motive cs)
    (char : ∀ c cs, (∀ n after, ¬Begins (c :: cs) n after) → motive cs → motive (c :: cs))
    (cs : List Char) : motive cs := by
  induction hlength : cs.length using Nat.strongRecOn generalizing cs with
  | ind length ih =>
    cases cs with
    | nil => exact nil
    | cons c cs =>
      by_cases h : ∃ n after, Begins (c :: cs) n after
      · obtain ⟨n, after, hbegins⟩ := h
        have hlt : after.length < length := by
          rw [← hlength, hbegins.text, List.length_cons, List.length_append]
          omega
        exact capture _ n after hbegins (ih _ hlt after rfl)
      · have hlt : cs.length < length := hlength ▸ Nat.lt_succ_self cs.length
        exact char c cs (fun n after hbegins => h ⟨n, after, hbegins⟩) (ih _ hlt cs rfl)

/-! ## places -/

/-- a capture of a number stands at a place of a text, counted in characters from 0 -/
def OccursAt (cs : List Char) (i n : Nat) : Prop := ∃ after, Begins (cs.drop i) n after

theorem not_occursAt_nil : ¬OccursAt [] i n := by
  rintro ⟨after, h⟩
  have htext := h.text
  rw [List.drop_nil] at htext
  cases htext

theorem occursAt_succ : OccursAt (c :: cs) (i + 1) n ↔ OccursAt cs i n := Iff.rfl

/-- no capture stands in a row of digits -/
theorem occursAt_digits (h : ∀ c ∈ digits, c.isDigit = true) : OccursAt (digits ++ after) i n ↔
    ∃ j, i = digits.length + j ∧ OccursAt after j n := by
  induction digits generalizing i with
  | nil => simp
  | cons d digits ih =>
    obtain ⟨hd, hdigits⟩ := List.forall_mem_cons.1 h
    cases i with
    | zero =>
      constructor
      · -- a digit is no dollar sign
        rintro ⟨after', hbegins⟩
        obtain rfl : d = '$' := List.head_eq_of_cons_eq hbegins.text
        exact absurd hd (by decide)
      · rintro ⟨j, hj, _⟩
        rw [List.length_cons] at hj
        omega
    | succ i =>
      rw [List.cons_append, occursAt_succ, ih hdigits, List.length_cons]
      refine exists_congr fun j => and_congr_left fun _ => ?_
      omega

theorem occursAt_of_begins (h : Begins cs n after) : OccursAt cs i m ↔
    i = 0 ∧ m = n ∨ ∃ j, i = (Nat.toDigits 10 n).length + j + 1 ∧ OccursAt after j m := by
  obtain rfl := h.text
  cases i with
  | zero =>
    constructor
    · rintro ⟨after', hbegins⟩
      exact .inl ⟨rfl, (hbegins.unique h).1⟩
    · rintro (⟨_, rfl⟩ | ⟨j, hj, _⟩)
      · exact ⟨after, h⟩
      · omega
  | succ i =>
    rw [occursAt_succ, occursAt_digits fun _ => isDigit_of_mem_toDigits]
    simp

theorem occursAt_of_not_begins (h : ∀ n after, ¬Begins (c :: cs) n after) :
    OccursAt (c :: cs) i m ↔ ∃ j, i = j + 1 ∧ OccursAt cs j m := by
  cases i with
  | zero =>
    constructor
    · rintro ⟨after, hbegins⟩
      exact absurd hbegins (h m after)
    · rintro ⟨j, hj, _⟩
      cases hj
  | succ i => simp [occursAt_succ]

end PatternBuild.Pattern
