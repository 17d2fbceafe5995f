import PatternBuild.Proofs.Pattern.Canonical
import PatternBuild.Proofs.Pattern.Cut
import PatternBuild.Proofs.Pattern.Glob

/-!
# Patterns as file-name masks

`Reads glob name` says what the text of a glob stands for: `*` for a run without `/`, `[c]` for a
special character, and any other character for itself.  `passesGlob` decides it on the glob of a
pattern (`reads_globText_iff`), which never has two `*` in a row (`not_two_stars_globText`).  The
glob is the coarser of the two forms of a pattern: it reads every path that the pattern matches
(`glob_covers_matches`).
-/

namespace PatternBuild.Pattern

open Path

/-- the text of a glob stands for a name -/
inductive Reads : List Char → List Char → Prop
  | done : Reads [] []
  | run {glob r name : List Char} (hr : '/' ∉ r) (h : Reads glob name) :
    Reads ('*' :: glob) (r ++ name)
  | bracket {glob name : List Char} {c : Char} (hc : isGlobSpecial c = true) (h : Reads glob name) :
    Reads ('[' :: c :: ']' :: glob) (c :: name)
  | char {glob name : List Char} {c : Char} (hc : isGlobSpecial c = false) (h : Reads glob name) :
    Reads (c :: glob) (c :: name)

variable {ts : List Token} {glob name : List Char}

/-! ## reading the glob of a token list -/

theorem Reads.covers (h : Reads glob name) : Covers (globItems glob) name := by
  induction h with
  | done => rfl
  | run hr _ ih => exact ⟨_, _, hr, rfl, ih⟩
  | bracket _ _ ih => exact ⟨_, rfl, ih⟩
  | char hc _ ih =>
    rw [globItems_char hc]
    exact ⟨_, rfl, ih⟩

theorem globEscape_cons (c : Char) (t : List Char) :
    globEscape (c :: t) = (if isGlobSpecial c then ['[', c, ']'] else [c]) ++ globEscape t := rfl

theorem Reads.globEscape (t : List Char) (h : Reads glob name) :
    Reads (globEscape t ++ glob) (t ++ name) := by
  induction t with
  | nil => exact h
  | cons c t ih =>
    rw [globEscape_cons]
    cases hc : isGlobSpecial c with
    | true => exact .bracket hc ih
    | false => exact .char hc ih

theorem exists_of_covers_chars {items : List GlobItem} (t : List Char)
    (h : Covers (t.map .char ++ items) name) : ∃ rest, name = t ++ rest ∧ Covers items rest := by
  induction t generalizing name with
  | nil => exact ⟨name, rfl, h⟩
  | cons c t ih =>
    obtain ⟨_, rfl, hmore⟩ := h
    obtain ⟨rest, rfl, hrest⟩ := ih hmore
    exact ⟨rest, rfl, hrest⟩

theorem reads_globFrom (afterStar : Bool) (h : Covers (itemsFrom afterStar ts) name) :
    Reads (globFrom afterStar ts) name := by
  induction ts generalizing afterStar name with
  | nil =>
    obtain rfl : name = [] := h
    exact .done
  | cons t ts ih =>
    have hstar : Covers (if afterStar then itemsFrom true ts else .run :: itemsFrom true ts) name →
        Reads (if afterStar then globFrom true ts else '*' :: globFrom true ts) name := by
      cases afterStar with
      | true => exact ih true
      | false =>
        rintro ⟨r, rest, hr, rfl, hrest⟩
        exact .run hr (ih true hrest)
    cases t with
    | literal text =>
      obtain ⟨rest, rfl, hrest⟩ := exists_of_covers_chars text h
      exact (ih false hrest).globEscape text
    | capture n => exact hstar h
    | wildcard => exact hstar h

/-- matching decides what the glob of a token list stands for -/
theorem reads_globText_iff : Reads (globText ts) name ↔ globMatches (globText ts) name = true := by
  rw [globMatches_iff]
  constructor
  · exact Reads.covers
  · intro h
    rw [globText, globItems_globFrom] at h
    exact reads_globFrom false h

/-! ## no two stars in a row -/

theorem two_stars_cons (c : Char) (glob : List Char) : ['*', '*'] <:+: c :: glob ↔
    (c = '*' ∧ glob.head? = some '*') ∨ ['*', '*'] <:+: glob := by
  rw [List.infix_cons_iff, List.cons_prefix_cons, eq_comm]
  refine or_congr (and_congr_right fun _ => ?_) Iff.rfl
  cases glob with
  | nil => simp
  | cons d glob => simp [List.cons_prefix_cons, eq_comm]

/-- in escaped text a star stands between brackets -/
theorem not_two_stars_globEscape {t : List Char} (h : ¬['*', '*'] <:+: glob) :
    ¬['*', '*'] <:+: globEscape t ++ glob ∧
      (t ≠ [] → (globEscape t ++ glob).head? ≠ some '*') := by
  induction t with
  | nil => exact ⟨h, fun hne => absurd rfl hne⟩
  | cons c t ih =>
    rw [globEscape_cons, List.append_assoc]
    cases hc : isGlobSpecial c with
    | true =>
      -- what follows the character is a bracket, even if it is a star
      have hclose : ¬['*', '*'] <:+: ']' :: (globEscape t ++ glob) := by
        rw [two_stars_cons]
        rintro (⟨he, _⟩ | hin)
        · cases he
        · exact ih.1 hin
      refine ⟨?_, fun _ he => by cases he⟩
      show ¬['*', '*'] <:+: '[' :: c :: ']' :: (globEscape t ++ glob)
      rw [two_stars_cons, two_stars_cons]
      rintro (⟨he, _⟩ | ⟨_, he⟩ | hin)
      · cases he
      · cases he
      · exact hclose hin
    | false =>
      have hstar : c ≠ '*' := by
        rintro rfl
        cases hc
      refine ⟨?_, fun _ he => hstar (Option.some.inj he)⟩
      show ¬['*', '*'] <:+: c :: (globEscape t ++ glob)
      rw [two_stars_cons]
      rintro (⟨he, _⟩ | hin)
      · exact hstar he
      · exact ih.1 hin

/-- a `*` is not put after another one, and literal text between them is not empty -/
theorem not_two_stars_globFrom (hlit : ∀ t, .literal t ∈ ts → t ≠ []) (afterStar : Bool) :
    ¬['*', '*'] <:+: globFrom afterStar ts ∧
      (afterStar = true → (globFrom afterStar ts).head? ≠ some '*') := by
  induction ts generalizing afterStar with
  | nil => exact ⟨by simp [globFrom], fun _ he => by cases he⟩
  | cons t ts ih =>
    have hrest := ih fun t ht => hlit t (List.mem_cons_of_mem _ ht)
    have hstar : ¬['*', '*'] <:+:
        (if afterStar then globFrom true ts else '*' :: globFrom true ts) ∧
        (afterStar = true → (if afterStar then globFrom true ts
          else '*' :: globFrom true ts).head? ≠ some '*') := by
      obtain ⟨hnone, hhead⟩ := hrest true
      cases afterStar with
      | true => exact ⟨hnone, hhead⟩
      | false =>
        refine ⟨?_, fun h => by cases h⟩
        show ¬['*', '*'] <:+: '*' :: globFrom true ts
        rw [two_stars_cons]
        rintro (⟨_, he⟩ | hin)
        · exact hhead rfl he
        · exact hnone hin
    cases t with
    | literal text =>
      obtain ⟨hnone, hhead⟩ := not_two_stars_globEscape (t := text) (hrest false).1
      exact ⟨hnone, fun _ => hhead (hlit text List.mem_cons_self)⟩
    | capture n => exact hstar
    | wildcard => exact hstar

theorem not_two_stars_globText (cs : List Char) : ¬['*', '*'] <:+: globText (tokenize cs) :=
  (not_two_stars_globFrom (fun _ ht => (sound_of_mem_tokenize ht).1) false).1

/-! ## patterns and their globs -/

/-- **The glob of a pattern covers what the pattern matches.**  The mask decides what the text of
the glob stands for, and that is every path, once clean, that the pattern matches.  However
captures and wildcards follow each other, the glob never has two `*` in a row. -/
theorem glob_covers_matches (text path : String) :
    (∀ name : String, (compile text).passesGlob name = true ↔
      Reads (compile text).glob.toList name.toList) ∧
    (((compile text).matches? path).isSome →
      (compile text).passesGlob (clean path) = true ∧
        Reads (compile text).glob.toList (clean path).toList) ∧
    ¬['*', '*'] <:+: (compile text).glob.toList := by
  have hglob : (compile text).glob.toList = globText (compile text).tokens := String.toList_ofList
  have hreads : ∀ name : String, (compile text).passesGlob name = true ↔
      Reads (compile text).glob.toList name.toList := by
    intro name
    rw [passesGlob, hglob, reads_globText_iff]
  refine ⟨hreads, ?_, ?_⟩
  · intro h
    obtain ⟨e, he⟩ := Option.isSome_iff_exists.1 h
    have hmatches : globMatches (globText (compile text).tokens) (clean path).toList = true :=
      globMatches_of_spells (spells_of_matches? he).2
    rw [hreads, hglob, reads_globText_iff]
    exact ⟨hmatches, hmatches⟩
  · rw [hglob]
    exact not_two_stars_globText _

/-- captures in a row beside brackets and a star between them -/
theorem bracketed_glob_covers : ((compile "./[$1]/$2$3*.c").matches? "[a]//xyz.c").isSome ∧
    ((compile "./[$1]/$2$3*.c").passesGlob (clean "[a]//xyz.c") = true ∧
      Reads (compile "./[$1]/$2$3*.c").glob.toList (clean "[a]//xyz.c").toList) ∧
    (compile "./[$1]/$2$3*.c").glob = "[[]*[]]/*.c" := by
  have hmatch : ((compile "./[$1]/$2$3*.c").matches? "[a]//xyz.c").isSome := by decide
  exact ⟨hmatch, (glob_covers_matches _ _).2.1 hmatch, by decide⟩

end PatternBuild.Pattern
