import PatternBuild.Proofs.Path.Inside
import PatternBuild.Watch.Watcher

/-!
# What is excluded

An exclude is meant to cover itself and all that lies in it (`Covered`).  The test looks at texts:
a path is excluded when it is a clean exclude or has one and a slash before it.  The two agree on
every path exactly when every exclude holds a name once it is clean (`excluded_iff_covered`).
Without one they come apart: `.` and `/` are not written before the paths in them, and `..` is
written before the paths that climb on from it.
-/

namespace PatternBuild.Watch

open Path

/-- a path is an excluded one or lies in one -/
def Covered (excludes : List String) (rel : String) : Prop :=
  ∃ e ∈ excludes, rel = clean e ∨ LiesIn (clean e) rel

variable {excludes : List String} {e : String} {rooted : Bool} {qs : List Part}

/-! ## by parts -/

/-- a path is excluded when its parts go on from those of an exclude, by none if it has none -/
theorem isExcluded_key_iff (h : NormalParts rooted qs) :
    isExcluded excludes (key rooted qs) = true ↔ ∃ e ∈ excludes, isRooted e.toList = rooted ∧
      ∃ rest, (cleanParts e ≠ [] ∨ rest = []) ∧ qs = cleanParts e ++ rest := by
  have hone (e : String) : ((key rooted qs).toList = (clean e).toList ∨
      ((clean e).toList ++ ['/']).isPrefixOf (key rooted qs).toList = true) ↔
      isRooted e.toList = rooted ∧
        ∃ rest, (cleanParts e ≠ [] ∨ rest = []) ∧ qs = cleanParts e ++ rest := by
    have he : clean e = key (isRooted e.toList) (cleanParts e) := clean_eq_key e
    have hparts : NormalParts (isRooted e.toList) (cleanParts e) := normalParts_clean e
    rw [he, isPrefixOf_key_iff hparts h, String.toList_inj, key_eq_key_iff h hparts]
    constructor
    · rintro (⟨hroot, hqs⟩ | ⟨hne, hroot, rest, _, hqs⟩)
      · exact ⟨hroot.symm, [], .inr rfl, by rw [hqs, List.append_nil]⟩
      · exact ⟨hroot, rest, .inl hne, hqs⟩
    · rintro ⟨hroot, rest, hrest, hqs⟩
      by_cases hnil : rest = []
      · rw [hnil, List.append_nil] at hqs
        exact .inl ⟨hroot.symm, hqs⟩
      · exact .inr ⟨hrest.resolve_right hnil, hroot, rest, hnil, hqs⟩
  simp only [isExcluded, List.any_eq_true, Bool.or_eq_true, decide_eq_true_eq, hone]

/-- a path is covered when its parts go on from those of an exclude by names -/
theorem covered_key_iff (h : NormalParts rooted qs) :
    Covered excludes (key rooted qs) ↔ ∃ e ∈ excludes, isRooted e.toList = rooted ∧
      ∃ rest, (∀ p ∈ rest, IsName p) ∧ qs = cleanParts e ++ rest := by
  have hone (e : String) : (key rooted qs = clean e ∨ LiesIn (clean e) (key rooted qs)) ↔
      isRooted e.toList = rooted ∧
        ∃ rest, (∀ p ∈ rest, IsName p) ∧ qs = cleanParts e ++ rest := by
    have he : clean e = key (isRooted e.toList) (cleanParts e) := clean_eq_key e
    have hparts : NormalParts (isRooted e.toList) (cleanParts e) := normalParts_clean e
    rw [he, liesIn_key_iff hparts, key_eq_key_iff h hparts]
    constructor
    · rintro (⟨hroot, hqs⟩ | ⟨names, hnames, heq⟩)
      · exact ⟨hroot.symm, [], List.forall_mem_nil _, by rw [hqs, List.append_nil]⟩
      · obtain ⟨hroot, hqs⟩ := key_injective h (hparts.append_names hnames) heq
        exact ⟨hroot.symm, names, hnames, hqs⟩
    · rintro ⟨hroot, names, hnames, hqs⟩
      exact .inr ⟨names, hnames, by rw [hroot, hqs]⟩
  simp only [Covered, hone]

/-! ## excludes with a name -/

theorem hasName_clean_iff : HasName (clean e) ↔ ∃ p ∈ cleanParts e, IsName p :=
  hasName_key_iff (normalParts_clean e)

/-- with a name in every exclude the test tells what is covered -/
theorem excluded_iff_of_hasName (hname : ∀ e ∈ excludes, HasName (clean e))
    (h : NormalParts rooted qs) :
    isExcluded excludes (key rooted qs) = true ↔ Covered excludes (key rooted qs) := by
  rw [isExcluded_key_iff h, covered_key_iff h]
  constructor
  · rintro ⟨e, he, hroot, rest, _, rfl⟩
    have hnames : ∀ p ∈ rest, IsName p := h.isName_of_append (hasName_clean_iff.1 (hname e he))
    exact ⟨e, he, hroot, rest, hnames, rfl⟩
  · rintro ⟨e, he, hroot, rest, _, rfl⟩
    obtain ⟨p, hp, _⟩ := hasName_clean_iff.1 (hname e he)
    exact ⟨e, he, hroot, rest, .inl (List.ne_nil_of_mem hp), rfl⟩

/-! ## excludes without a name -/

/-- there is always another name -/
theorem exists_fresh_name (ps : List Part) : ∃ p, IsName p ∧ p ∉ ps := by
  refine ⟨List.replicate (ps.flatten.length + 1) 'a', ⟨by simp, ?_, ?_, ?_⟩, fun hp => ?_⟩
  · intro he
    exact absurd (List.head_eq_of_cons_eq he) (by decide)
  · intro he
    exact absurd (List.head_eq_of_cons_eq he) (by decide)
  · intro hslash
    exact absurd (List.eq_of_mem_replicate hslash) (by decide)
  · have hlen := (List.sublist_flatten_of_mem hp).length_le
    rw [List.length_replicate] at hlen
    omega

/-- an exclude that stands for `.` or `/` covers a path that is not excluded -/
theorem covered_not_excluded (he : e ∈ excludes) (hnil : cleanParts e = []) :
    ∃ rel, clean rel = rel ∧ Covered excludes rel ∧ isExcluded excludes rel = false := by
  obtain ⟨p, hp, hfresh⟩ := exists_fresh_name (excludes.flatMap cleanParts)
  have hnames : ∀ q ∈ [p], IsName q := fun q hq => List.mem_singleton.1 hq ▸ hp
  have hnormal : NormalParts (isRooted e.toList) [p] := normalParts_of_names hnames
  refine ⟨key (isRooted e.toList) [p], clean_key hnormal, ?_, ?_⟩
  · exact (covered_key_iff hnormal).2 ⟨e, he, rfl, [p], hnames, by rw [hnil]; rfl⟩
  · rw [← Bool.not_eq_true, isExcluded_key_iff hnormal]
    rintro ⟨e', he', _, rest, hrest, heq⟩
    have hmem : p ∈ cleanParts e' := by
      rcases List.append_eq_singleton_iff.1 heq.symm with ⟨hempty, hp⟩ | ⟨hp, _⟩
      · rw [hp] at hrest
        exact absurd (hrest.resolve_left fun h => h hempty) (List.cons_ne_nil p [])
      · rw [hp]
        exact List.mem_singleton_self p
    exact hfresh (List.mem_flatMap.2 ⟨e', he', hmem⟩)

/-- an exclude that only climbs excludes a path that is not covered -/
theorem excluded_not_covered (he : e ∈ excludes) (hroot : isRooted e.toList = false) {ups : Nat}
    (hups : cleanParts e = List.replicate (ups + 1) dotDot) :
    ∃ rel, clean rel = rel ∧ isExcluded excludes rel = true ∧ ¬Covered excludes rel := by
  have hlen (e : String) (he : e ∈ excludes) :
      (cleanParts e).length ≤ (excludes.flatMap cleanParts).length := by
    rw [List.flatMap_def]
    exact (List.sublist_flatten_of_mem (List.mem_map_of_mem he)).length_le
  -- more steps up than any of the excludes has parts
  generalize (excludes.flatMap cleanParts).length = bound at hlen
  have hnormal : NormalParts false (List.replicate (bound + 1) dotDot) :=
    ⟨bound + 1, [], (List.append_nil _).symm, List.forall_mem_nil _, fun h => by cases h⟩
  refine ⟨key false (List.replicate (bound + 1) dotDot), clean_key hnormal, ?_, ?_⟩
  · have hle : ups + 1 ≤ bound := by
      have hle := hlen e he
      rwa [hups, List.length_replicate] at hle
    refine (isExcluded_key_iff hnormal).2
      ⟨e, he, hroot, List.replicate (bound - ups) dotDot, .inl (by simp [hups]), ?_⟩
    rw [hups, List.replicate_append_replicate]
    congr 1
    omega
  · rw [covered_key_iff hnormal]
    rintro ⟨e', he', _, names, hnames, heq⟩
    have hnil : names = [] := by
      refine List.eq_nil_iff_forall_not_mem.2 fun p hp => ?_
      have hup : p = dotDot := List.eq_of_mem_replicate (heq ▸ List.mem_append_right _ hp)
      exact (hnames p hp).2.2.1 hup
    have hle := hlen e' he'
    rw [hnil, List.append_nil] at heq
    rw [← heq, List.length_replicate] at hle
    omega

/-- **What is excluded.**  The test excludes exactly the clean paths that are excludes or lie in
one if and only if every exclude, once clean, holds a name: it is not `.` or `/`, and does not only
climb. -/
theorem excluded_iff_covered (excludes : List String) :
    (∀ rel, clean rel = rel → (isExcluded excludes rel = true ↔ Covered excludes rel)) ↔
      ∀ e ∈ excludes, HasName (clean e) := by
  constructor
  · intro hall e he
    by_contra hnone
    have hparts : NormalParts (isRooted e.toList) (cleanParts e) := normalParts_clean e
    obtain ⟨ups, hups, hroot⟩ := hparts.eq_ups fun p hp hname =>
      hnone (hasName_clean_iff.2 ⟨p, hp, hname⟩)
    cases ups with
    | zero =>
      obtain ⟨rel, hclean, hcovered, hexcluded⟩ := covered_not_excluded he hups
      rw [(hall rel hclean).2 hcovered] at hexcluded
      cases hexcluded
    | succ ups =>
      have hroot : isRooted e.toList = false := by
        rw [← Bool.not_eq_true]
        exact fun h => Nat.succ_ne_zero ups (hroot h)
      obtain ⟨rel, hclean, hexcluded, hcovered⟩ := excluded_not_covered he hroot hups
      exact hcovered ((hall rel hclean).1 hexcluded)
  · intro hname rel hclean
    rw [← hclean, clean_eq_key]
    exact excluded_iff_of_hasName hname (normalParts_clean rel)

/-- directories that are named, however they are spelled, exclude just what lies in them -/
theorem named_directories_excluded : (∀ e ∈ ["./target/", "src/../.git"], HasName (clean e)) ∧
    ∀ rel, clean rel = rel → (isExcluded ["./target/", "src/../.git"] rel = true ↔
      Covered ["./target/", "src/../.git"] rel) := by
  have hname : ∀ e ∈ ["./target/", "src/../.git"], HasName (clean e) := by
    intro e he
    simp only [List.mem_cons, List.not_mem_nil, or_false] at he
    rcases he with rfl | rfl
    · exact ⟨"target".toList, by decide, by decide, by decide, by decide, by decide⟩
    · exact ⟨".git".toList, by decide, by decide, by decide, by decide, by decide⟩
  exact ⟨hname, (excluded_iff_covered _).2 hname⟩

/-- a file lies in the base itself, but excluding that does not exclude the file -/
theorem base_does_not_exclude : clean "src/a.c" = "src/a.c" ∧
    ¬(isExcluded ["."] "src/a.c" = true ↔ Covered ["."] "src/a.c") := by
  have hcovered : Covered ["."] "src/a.c" :=
    ⟨".", List.mem_singleton_self _, .inr ⟨"src/a.c", by decide, by decide, by decide, by decide⟩⟩
  refine ⟨by decide, fun h => ?_⟩
  have hexcluded : isExcluded ["."] "src/a.c" = false := by decide
  rw [h.2 hcovered] at hexcluded
  cases hexcluded

/-- what lies in a directory is told from what only begins with its name, but not from what climbs
on -/
example : isExcluded ["./target/", ".git"] "target/debug" = true ∧
    isExcluded ["./target/", ".git"] "targets/a" = false ∧
    isExcluded [".."] "../../a" = true := by decide

end PatternBuild.Watch
