import PatternBuild.Proofs.Path.Normal

/-!
# Cleaning is compositional

The parts of a path that is not rooted can be resolved before they are put after others: a name and
a later `..` that takes it away leave whatever was kept before them (`keep_keep_dotDot`), so a
resolved row does to any parts what the row itself does (`foldl_keep_resolve`).  Two paths may then
be cleaned before they are put together (`clean_append`).
-/

namespace PatternBuild.Path

section
variable {rooted : Bool} {kept ps : List Part} {p : Part}

/-! ## one part -/

/-- a name and a `..` after it cancel -/
theorem keep_keep_dotDot (h : IsName p) : keep rooted (keep rooted kept p) dotDot = kept := by
  rw [keep_name h]
  exact keep_eq_iff.2 (.cancel kept h.2.2.1)

/-- a part does the same after the parts kept from a row as after the row -/
theorem foldl_keep_keep {stack : List Part} (h : NormalParts false stack.reverse) :
    (keep false stack p).reverse.foldl (keep rooted) kept =
      keep rooted (stack.reverse.foldl (keep rooted) kept) p := by
  have hkeep := keeps_keep false stack p
  generalize keep false stack p = stack' at hkeep
  cases hkeep with
  | void hvoid => exact (keep_eq_iff.2 (.void hvoid)).symm
  | atRoot hroot => cases hroot
  | above _ => rfl
  | further rest =>
    rw [List.reverse_cons, List.foldl_append]
    rfl
  | @cancel q rest hq =>
    rw [List.reverse_cons] at h
    have hname : IsName q := (normalParts_snoc.1 h).2.resolve_right fun hup => hq hup.1
    rw [List.reverse_cons, List.foldl_append]
    exact (keep_keep_dotDot hname).symm
  | name _ _ _ =>
    rw [List.reverse_cons, List.foldl_append]
    rfl

/-! ## rows of parts -/

theorem resolve_append (rooted : Bool) (ps qs : List Part) :
    resolve rooted (ps ++ qs) = (qs.foldl (keep rooted) (resolve rooted ps).reverse).reverse := by
  unfold resolve
  rw [List.foldl_append, List.reverse_reverse]

/-- a row does to the parts kept before it what it does once it is resolved by itself -/
theorem foldl_keep_resolve (h : ∀ q ∈ ps, '/' ∉ q) :
    (resolve false ps).foldl (keep rooted) kept = ps.foldl (keep rooted) kept := by
  induction ps using List.reverseRecOn with
  | nil => rfl
  | append_singleton ps p ih =>
    have hps : ∀ q ∈ ps, '/' ∉ q := fun q hq => h q (List.mem_append_left _ hq)
    have hstack : NormalParts false (ps.foldl (keep false) []).reverse := normalParts_resolve hps
    calc (resolve false (ps ++ [p])).foldl (keep rooted) kept
        = (keep false (ps.foldl (keep false) []) p).reverse.foldl (keep rooted) kept := by
          rw [resolve, List.foldl_append]
          rfl
      _ = keep rooted ((resolve false ps).foldl (keep rooted) kept) p := foldl_keep_keep hstack
      _ = (ps ++ [p]).foldl (keep rooted) kept := by
          rw [ih hps, List.foldl_append]
          rfl

/-- the text of normal parts does to the parts kept before it what they do -/
theorem foldl_keep_parts_render {rooted' : Bool} (h : NormalParts rooted' ps) :
    (parts (render rooted' ps)).foldl (keep rooted) kept = ps.foldl (keep rooted) kept := by
  by_cases hne : ps = []
  · subst hne
    cases rooted' with
    | true =>
      show keep rooted (keep rooted kept []) [] = kept
      rw [keep_nil, keep_nil]
    | false =>
      show keep rooted kept dot = kept
      exact keep_dot kept
  · rw [parts_render h hne]
    cases rooted' with
    | true =>
      show ps.foldl (keep rooted) (keep rooted kept []) = _
      rw [keep_nil]
    | false => rfl

end

/-! ## two paths -/

/-- two paths with the same resolved parts are cleaned to the same -/
theorem clean_congr {p q : String} (hroot : isRooted p.toList = isRooted q.toList)
    (hparts : resolve (isRooted p.toList) (parts p.toList) =
      resolve (isRooted p.toList) (parts q.toList)) : clean p = clean q := by
  rw [clean_eq_key, clean_eq_key, hparts, hroot]

theorem toList_append_slash (a b : String) :
    (a ++ "/" ++ b).toList = a.toList ++ '/' :: b.toList := by
  rw [String.toList_append, String.toList_append, List.append_assoc]
  rfl

/-- **Cleaning is compositional.**  Of two paths with a slash between them, the second one not
rooted, each can be cleaned before they are put together. -/
theorem clean_append (a b : String) (ha : a ≠ "") (hb : isRooted b.toList = false) :
    clean (a ++ "/" ++ b) = clean (clean a ++ "/" ++ clean b) := by
  have hane : a.toList ≠ [] := fun h => ha (String.toList_eq_nil_iff.1 h)
  have hne : (clean a).toList ≠ [] := fun h => clean_ne_empty a (String.toList_eq_nil_iff.1 h)
  have hroot : isRooted (clean a).toList = isRooted a.toList := isRooted_clean a
  have hfront : resolve (isRooted a.toList) (parts (clean a).toList) =
      resolve (isRooted a.toList) (parts a.toList) := by
    rw [clean_eq_key, toList_key]
    exact resolve_parts_render (normalParts_clean a)
  have hback : ∀ kept, (parts (clean b).toList).foldl (keep (isRooted a.toList)) kept =
      (parts b.toList).foldl (keep (isRooted a.toList)) kept := by
    intro kept
    rw [clean_eq_key, toList_key, foldl_keep_parts_render (normalParts_clean b), hb]
    exact foldl_keep_resolve fun _ hq => not_mem_of_mem_parts hq
  apply clean_congr
  · rw [toList_append_slash, toList_append_slash, isRooted_append hane, isRooted_append hne, hroot]
  · rw [toList_append_slash, toList_append_slash, isRooted_append hane, parts_append, parts_append,
      resolve_append, resolve_append, hfront, hback]

/-- a second path that climbs past the top of the first one: at the root what is left over is
dropped, elsewhere it stays -/
theorem clean_append_past_top :
    ("/a//b" ≠ "" ∧ isRooted "x/../../../../c/".toList = false ∧
      clean ("/a//b" ++ "/" ++ "x/../../../../c/") =
        clean (clean "/a//b" ++ "/" ++ clean "x/../../../../c/") ∧
      clean "x/../../../../c/" = "../../../c") ∧
    "a/." ≠ "" ∧ clean ("a/." ++ "/" ++ "x/../../../../c/") =
      clean (clean "a/." ++ "/" ++ clean "x/../../../../c/") ∧
      clean ("a/." ++ "/" ++ "x/../../../../c/") = "../../c" := by
  have hb : isRooted "x/../../../../c/".toList = false := by decide
  have ha : "/a//b" ≠ "" := by decide
  have ha' : "a/." ≠ "" := by decide
  exact ⟨⟨ha, hb, clean_append _ _ ha hb, by decide⟩, ha', clean_append _ _ ha' hb, by decide⟩

end PatternBuild.Path
