import Mathlib.Data.List.TakeWhile
import PatternBuild.Proofs.Path.Composition
import PatternBuild.Proofs.Path.Within
import PatternBuild.Proofs.Pattern.Spelling
import PatternBuild.Proofs.Pattern.Substitution

/-!
# Templates are filled part by part

No capture reaches across a slash, so the parts of a filled template are its parts, each filled by
itself (`parts_filledText`).  A part is dropped or taken away by what it is, and a part with a
capture is a name before and after it is filled, unless its values make it `.` or `..`.  A template
may then be cleaned before it is filled or after (`clean_substituteText`).
-/

/-! ## parts that are replaced -/

namespace PatternBuild.Path

variable {f : Part → Part} {rooted : Bool} {kept ps : List Part} {p : Part}

/-- a map of parts that takes the empty part, `.` and `..` for what they are, and nothing else for
one of them -/
structure Respects (f : Part → Part) (p : Part) : Prop where
  void : f p = [] ↔ p = []
  here : f p = dot ↔ p = dot
  up : f p = dotDot ↔ p = dotDot

/-- a part that stays as it is -/
theorem Respects.of_eq (h : f p = p) : Respects f p := by
  constructor
  · rw [h]
  · rw [h]
  · rw [h]

/-- a replaced part does to replaced parts what it did before -/
theorem keep_map (hp : Respects f p) (hup : f dotDot = dotDot) (hkept : ∀ q ∈ kept, Respects f q) :
    keep rooted (kept.map f) (f p) = (keep rooted kept p).map f := by
  rw [keep_eq_iff]
  have hkeep := keeps_keep rooted kept p
  generalize keep rooted kept p = kept' at hkeep
  cases hkeep with
  | void h => exact .void (h.imp hp.void.2 hp.here.2)
  | atRoot h =>
    rw [hup]
    exact .atRoot h
  | above h =>
    rw [List.map_cons, hup]
    exact .above h
  | further rest =>
    rw [List.map_cons, List.map_cons, List.map_cons, hup]
    exact .further _
  | cancel rest h =>
    rw [hup]
    exact .cancel _ (mt (hkept _ List.mem_cons_self).up.1 h)
  | name hne hdot hdd => exact .name (mt hp.void.1 hne) (mt hp.here.1 hdot) (mt hp.up.1 hdd)

theorem resolve_map (h : ∀ p ∈ ps, Respects f p) (hup : f dotDot = dotDot) :
    resolve rooted (ps.map f) = (resolve rooted ps).map f := by
  induction ps using List.reverseRecOn with
  | nil => rfl
  | append_singleton ps p ih =>
    have ih := ih fun q hq => h q (List.mem_append_left _ hq)
    have hkept : ∀ q ∈ (resolve rooted ps).reverse, Respects f q := by
      intro q hq
      rcases mem_resolve (List.mem_reverse.1 hq) with hq | rfl
      · exact h q (List.mem_append_left _ hq)
      · exact .of_eq hup
    calc resolve rooted ((ps ++ [p]).map f)
        = (keep rooted (resolve rooted (ps.map f)).reverse (f p)).reverse := by
          rw [List.map_append, resolve_append]
          rfl
      _ = (keep rooted ((resolve rooted ps).reverse.map f) (f p)).reverse := by
          rw [ih, List.map_reverse]
      _ = (keep rooted (resolve rooted ps).reverse p).reverse.map f := by
          rw [keep_map (h p (by simp)) hup hkept, List.map_reverse]
      _ = (resolve rooted (ps ++ [p])).map f := by
          rw [resolve_append]
          rfl

section
variable {cs ds : List Char} (hparts : parts ds = (parts cs).map f)
  (h : ∀ p ∈ parts cs, Respects f p)
include hparts h

theorem isRooted_of_map : isRooted ds = isRooted cs := by
  rw [Bool.eq_iff_iff, isRooted_iff_parts, isRooted_iff_parts, hparts]
  constructor
  · rintro ⟨q, qs, he⟩
    obtain ⟨p, ps, hps, hvoid, htail⟩ := List.map_eq_cons_iff.1 he
    obtain ⟨p', ps', rfl, _⟩ := List.map_eq_cons_iff.1 htail
    refine ⟨p', ps', ?_⟩
    rw [hps, (h p (hps ▸ List.mem_cons_self)).void.1 hvoid]
  · rintro ⟨p, ps, he⟩
    refine ⟨f p, ps.map f, ?_⟩
    rw [he, List.map_cons, List.map_cons, (h [] (he ▸ List.mem_cons_self)).void.2 rfl]

/-- a path with replaced parts is cleaned to the parts of the clean one, replaced -/
theorem cleanChars_of_map (hup : f dotDot = dotDot) : cleanChars ds =
    render (isRooted cs) ((resolve (isRooted cs) (parts cs)).map f) := by
  rw [cleanChars, isRooted_of_map hparts h, hparts, resolve_map h hup]

end

end PatternBuild.Path

namespace PatternBuild.Pattern

open Path

variable {args : Captures} {ts : List Token} {a b cs : List Char} {ps : List Part} {n : Nat}

/-! ## filled texts -/

/-- a template with its captures replaced by their values -/
def filledText (args : Captures) (cs : List Char) : List Char :=
  (tokenize cs).flatMap (Token.filled args)

theorem flatMap_filled_atoms : (atoms ts).flatMap (Token.filled args) =
    ts.flatMap (Token.filled args) := by
  have hatoms : ∀ t : Token, t.atoms.flatMap (Token.filled args) = t.filled args := by
    intro t
    cases t with
    | literal text =>
      show (text.map fun c => Token.literal [c]).flatMap (Token.filled args) = text
      induction text with
      | nil => rfl
      | cons c text ih =>
        rw [List.map_cons, List.flatMap_cons, ih]
        rfl
    | capture n => exact List.append_nil _
    | wildcard => rfl
  induction ts with
  | nil => rfl
  | cons t ts ih => rw [atoms_cons, List.flatMap_append, hatoms, ih, List.flatMap_cons]

theorem captureNumbers_atoms : captureNumbers (atoms ts) = captureNumbers ts := by
  have hatoms : ∀ t : Token, captureNumbers t.atoms = captureNumbers [t] := by
    intro t
    cases t with
    | literal text =>
      show captureNumbers (text.map fun c => Token.literal [c]) = []
      induction text with
      | nil => rfl
      | cons c text ih => exact ih
    | capture n => rfl
    | wildcard => rfl
  induction ts with
  | nil => rfl
  | cons t ts ih =>
    rw [atoms_cons, captureNumbers_append, hatoms, ih, ← captureNumbers_append]
    rfl

/-! ### across slashes -/

theorem filledText_slash (a b : List Char) :
    filledText args (a ++ '/' :: b) = filledText args a ++ '/' :: filledText args b := by
  unfold filledText
  rw [← flatMap_filled_atoms, atoms_tokenize_slash, List.flatMap_append, List.flatMap_cons,
    flatMap_filled_atoms, flatMap_filled_atoms]
  rfl

theorem captureNumbers_slash (a b : List Char) : captureNumbers (tokenize (a ++ '/' :: b)) =
    captureNumbers (tokenize a) ++ captureNumbers (tokenize b) := by
  rw [← captureNumbers_atoms, atoms_tokenize_slash, captureNumbers_append, captureNumbers_atoms]
  exact congrArg (_ ++ ·) captureNumbers_atoms

theorem filledText_joinParts (args : Captures) (ps : List Part) :
    filledText args (joinParts ps) = joinParts (ps.map (filledText args)) := by
  induction ps with
  | nil => rfl
  | cons p ps ih =>
    by_cases hps : ps = []
    · subst hps
      rfl
    · rw [List.map_cons, joinParts_cons_of_ne_nil p hps, filledText_slash, ih,
        joinParts_cons_of_ne_nil _ (by simpa using hps)]

/-- the captures of a text are those of its parts -/
theorem mem_captureNumbers_joinParts : n ∈ captureNumbers (tokenize (joinParts ps)) ↔
    ∃ p ∈ ps, n ∈ captureNumbers (tokenize p) := by
  induction ps with
  | nil =>
    show n ∈ [] ↔ _
    simp
  | cons p ps ih =>
    rw [List.exists_mem_cons_iff, ← ih]
    by_cases hps : ps = []
    · subst hps
      show n ∈ captureNumbers (tokenize p) ↔ _ ∨ n ∈ []
      simp
    · rw [joinParts_cons_of_ne_nil p hps, captureNumbers_slash, List.mem_append]

theorem mem_captureNumbers_parts :
    n ∈ captureNumbers (tokenize cs) ↔ ∃ p ∈ parts cs, n ∈ captureNumbers (tokenize p) := by
  rw [← mem_captureNumbers_joinParts, joinParts_parts]

theorem filledText_render (args : Captures) (rooted : Bool) (ps : List Part) :
    filledText args (render rooted ps) = render rooted (ps.map (filledText args)) := by
  cases rooted with
  | true =>
    show filledText args ([] ++ '/' :: joinParts ps) = '/' :: joinParts (ps.map (filledText args))
    rw [filledText_slash, filledText_joinParts]
    rfl
  | false =>
    by_cases hps : ps = []
    · subst hps
      rfl
    · rw [render_of_ne_nil hps, render_of_ne_nil (by simpa using hps), filledText_joinParts]

theorem captureNumbers_render (rooted : Bool) (ps : List Part) :
    captureNumbers (tokenize (render rooted ps)) = captureNumbers (tokenize (joinParts ps)) := by
  cases rooted with
  | true => exact captureNumbers_slash [] (joinParts ps)
  | false =>
    by_cases hps : ps = []
    · subst hps
      rfl
    · rw [render_of_ne_nil hps]

/-! ### what a part is filled to -/

/-- a text without captures stays as it is -/
theorem filledText_of_no_captures (h : captureNumbers (tokenize cs) = []) :
    filledText args cs = cs := by
  have hfilled : ∀ t ∈ tokenize cs, t.filled args = t.written := by
    intro t ht
    cases t with
    | literal text => rfl
    | wildcard => rfl
    | capture n =>
      have hn : n ∈ captureNumbers (tokenize cs) := List.mem_filterMap.2 ⟨_, ht, rfl⟩
      rw [h] at hn
      cases hn
  calc filledText args cs = written (tokenize cs) := List.flatMap_congr hfilled
    _ = cs := written_tokenize cs

/-- values that a template may have: texts that are not empty and hold no slash -/
def FitsParts (args : Captures) (ts : List Token) : Prop :=
  ∀ n ∈ captureNumbers ts, ∃ v, args.get? n = some v ∧ v ≠ "" ∧ '/' ∉ v.toList

theorem FitsParts.bound (h : FitsParts args ts) : Bound args ts := by
  intro n hn
  obtain ⟨v, hv, _⟩ := h n hn
  exact ⟨v, hv⟩

/-- a part is filled to a part -/
theorem not_mem_filledText {p : Part} (hp : '/' ∉ p) (h : FitsParts args (tokenize p)) :
    '/' ∉ filledText args p := by
  intro hm
  obtain ⟨t, ht, hm⟩ := List.mem_flatMap.1 hm
  cases t with
  | literal text => exact hp (mem_of_literal_mem_tokenize ht hm)
  | wildcard =>
    have hstar : '/' ∈ ['*'] := hm
    exact absurd hstar (by decide)
  | capture n =>
    obtain ⟨v, hv, _, hslash⟩ := h n (List.mem_filterMap.2 ⟨_, ht, rfl⟩)
    rw [Token.filled, hv] at hm
    exact hslash hm

/-- a text with a capture is not filled to the empty one -/
theorem filledText_ne_nil (h : FitsParts args (tokenize cs))
    (hne : captureNumbers (tokenize cs) ≠ []) : filledText args cs ≠ [] := by
  obtain ⟨n, hn⟩ := List.exists_mem_of_ne_nil _ hne
  obtain ⟨t, ht, htn⟩ := List.mem_filterMap.1 hn
  obtain ⟨v, hv, hempty, _⟩ := h n hn
  cases t with
  | literal text => cases htn
  | wildcard => cases htn
  | capture m =>
    obtain rfl : m = n := Option.some.inj htn
    intro hnil
    have hvalue := List.flatMap_eq_nil_iff.1 hnil _ ht
    rw [Token.filled, hv] at hvalue
    exact hempty (String.toList_eq_nil_iff.1 hvalue)

/-! ### part by part -/

section
variable (hargs : FitsParts args (tokenize cs))
include hargs

theorem FitsParts.of_mem_parts {p : Part} (hp : p ∈ parts cs) : FitsParts args (tokenize p) :=
  fun n hn => hargs n (mem_captureNumbers_parts.2 ⟨p, hp, hn⟩)

/-- the parts of a filled template are its parts, filled -/
theorem parts_filledText : parts (filledText args cs) = (parts cs).map (filledText args) := by
  have hne : (parts cs).map (filledText args) ≠ [] := by simpa using parts_ne_nil cs
  have hslash : ∀ q ∈ (parts cs).map (filledText args), '/' ∉ q := by
    intro q hq
    obtain ⟨p, hp, rfl⟩ := List.mem_map.1 hq
    exact not_mem_filledText (not_mem_of_mem_parts hp) (hargs.of_mem_parts hp)
  rw [← parts_joinParts hne hslash, ← filledText_joinParts, joinParts_parts]

/-- a filled part is empty, `.` or `..` only if it was before -/
theorem respects_filledText (hdots : ∀ p ∈ parts cs, captureNumbers (tokenize p) ≠ [] →
      filledText args p ≠ dot ∧ filledText args p ≠ dotDot) :
    ∀ p ∈ parts cs, Respects (filledText args) p := by
  intro p hp
  by_cases hnone : captureNumbers (tokenize p) = []
  · exact .of_eq (filledText_of_no_captures hnone)
  · obtain ⟨hdot, hup⟩ := hdots p hp hnone
    have hfilled := filledText_ne_nil (hargs.of_mem_parts hp) hnone
    refine ⟨iff_of_false hfilled ?_, iff_of_false hdot ?_, iff_of_false hup ?_⟩
    · rintro rfl
      exact hnone rfl
    · rintro rfl
      exact hnone rfl
    · rintro rfl
      exact hnone rfl

/-- filling commutes with cleaning -/
theorem cleanChars_filledText (hdots : ∀ p ∈ parts cs, captureNumbers (tokenize p) ≠ [] →
      filledText args p ≠ dot ∧ filledText args p ≠ dotDot) :
    cleanChars (filledText args cs) = filledText args (cleanChars cs) := by
  rw [cleanChars_of_map (parts_filledText hargs) (respects_filledText hargs hdots) rfl]
  exact (filledText_render ..).symm

/-- cleaning brings no captures into a template -/
theorem FitsParts.clean : FitsParts args (tokenize (cleanChars cs)) := by
  intro n hn
  have hparts : n ∈ captureNumbers (tokenize (joinParts (resolve (isRooted cs) (parts cs)))) := by
    rwa [cleanChars, captureNumbers_render] at hn
  obtain ⟨p, hp, hn⟩ := mem_captureNumbers_joinParts.1 hparts
  rcases mem_resolve hp with hp | rfl
  · exact hargs n (mem_captureNumbers_parts.2 ⟨p, hp, hn⟩)
  · cases hn

end

theorem substituteText_of_fitsParts {template : String}
    (h : FitsParts args (tokenize template.toList)) :
    substituteText template args = .ok (String.ofList (filledText args template.toList)) :=
  congrArg (Except.map String.ofList) (fill_of_bound h.bound)

/-- **A template may be cleaned before or after it is filled**, if its captures have values that
are not empty and hold no slash, and these make no part `.` or `..`. -/
theorem clean_substituteText (template : String) (args : Captures)
    (hargs : ∀ n ∈ captureNumbers (tokenize template.toList),
      ∃ v, args.get? n = some v ∧ v ≠ "" ∧ '/' ∉ v.toList)
    (hdots : ∀ p ∈ parts template.toList, captureNumbers (tokenize p) ≠ [] →
      substituteText (String.ofList p) args ≠ .ok "." ∧
        substituteText (String.ofList p) args ≠ .ok "..") :
    ∃ s s', substituteText template args = .ok s ∧ substituteText (clean template) args = .ok s' ∧
      clean s = s' := by
  have hfits : FitsParts args (tokenize template.toList) := hargs
  have hclean : FitsParts args (tokenize (clean template).toList) := by
    rw [toList_clean]
    exact hfits.clean
  have hparts : ∀ p ∈ parts template.toList, captureNumbers (tokenize p) ≠ [] →
      filledText args p ≠ dot ∧ filledText args p ≠ dotDot := by
    intro p hp hne
    have hpart : FitsParts args (tokenize (String.ofList p).toList) := by
      rw [String.toList_ofList]
      exact hfits.of_mem_parts hp
    have hfilled : substituteText (String.ofList p) args =
        .ok (String.ofList (filledText args p)) := by
      rw [substituteText_of_fitsParts hpart, String.toList_ofList]
    obtain ⟨hdot, hup⟩ := hdots p hp hne
    rw [hfilled] at hdot hup
    exact ⟨fun h => hdot (by rw [h]; rfl), fun h => hup (by rw [h]; rfl)⟩
  refine ⟨_, _, substituteText_of_fitsParts hfits, substituteText_of_fitsParts hclean, ?_⟩
  rw [clean, String.toList_ofList, cleanChars_filledText hfits hparts, toList_clean]

/-- a part with a capture that `..` takes away, and values of dots that make no part of dots -/
theorem clean_substituteText_dotted :
    substituteText "./$3/../x-$2//.$1x/*" (Table.ofList [(1, "."), (2, ".."), (3, "a.b")]) =
      .ok "./a.b/../x-..//..x/*" ∧
    clean "./$3/../x-$2//.$1x/*" = "x-$2/.$1x/*" ∧
    substituteText (clean "./$3/../x-$2//.$1x/*")
      (Table.ofList [(1, "."), (2, ".."), (3, "a.b")]) = .ok (clean "./a.b/../x-..//..x/*") := by
  have hfilled : substituteText "./$3/../x-$2//.$1x/*"
      (Table.ofList [(1, "."), (2, ".."), (3, "a.b")]) = .ok "./a.b/../x-..//..x/*" := by decide
  have hargs : ∀ n ∈ captureNumbers (tokenize "./$3/../x-$2//.$1x/*".toList), ∃ v,
      (Table.ofList [(1, "."), (2, ".."), (3, "a.b")] : Captures).get? n = some v ∧
        v ≠ "" ∧ '/' ∉ v.toList := by
    have hnumbers : captureNumbers (tokenize "./$3/../x-$2//.$1x/*".toList) = [3, 2, 1] := by decide
    rw [hnumbers]
    intro n hn
    simp only [List.mem_cons, List.not_mem_nil, or_false] at hn
    rcases hn with rfl | rfl | rfl
    · exact ⟨"a.b", by decide, by decide⟩
    · exact ⟨"..", by decide, by decide⟩
    · exact ⟨".", by decide, by decide⟩
  obtain ⟨s, s', hs, hs', he⟩ := clean_substituteText "./$3/../x-$2//.$1x/*"
    (Table.ofList [(1, "."), (2, ".."), (3, "a.b")]) hargs (by decide)
  have hname : s = "./a.b/../x-..//..x/*" := Except.ok.inj (hs.symm.trans hfilled)
  refine ⟨hfilled, by decide, ?_⟩
  rw [← hname, he]
  exact hs'

end PatternBuild.Pattern
