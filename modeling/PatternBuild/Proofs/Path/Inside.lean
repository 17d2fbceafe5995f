import PatternBuild.Proofs.Path.Composition

/-!
# What lies in a directory

A path lies in a directory when a relative path without `..` leads there from it, `.` included
(`LiesIn`).  On clean paths that is told by the parts: those of the directory come first, and only
names follow them (`liesIn_key_iff`).  The text of a directory and a slash after it tell less, as
what follows may climb, and `.` and `/` are not written before the paths in them
(`isPrefixOf_key_iff`).
-/

namespace PatternBuild.Path

/-- a relative path without `..` leads from a directory to a path -/
def LiesIn (dir path : String) : Prop :=
  ∃ r, r ≠ "" ∧ isRooted r.toList = false ∧ dotDot ∉ parts r.toList ∧
    path = clean (dir ++ "/" ++ r)

/-- a path with a name in it: not `.` nor `/`, and not only `..` -/
def HasName (path : String) : Prop := ∃ p ∈ parts path.toList, IsName p

/-- the parts of the clean path -/
def cleanParts (path : String) : List Part :=
  resolve (isRooted path.toList) (parts path.toList)

section
variable {rooted rooted' : Bool} {ps qs names rest : List Part} {path : String}

/-! ## going on by names -/

theorem normalParts_of_names (h : ∀ p ∈ names, IsName p) : NormalParts rooted names :=
  ⟨0, names, rfl, h, fun _ => rfl⟩

theorem NormalParts.append_names (h : NormalParts rooted ps) (hn : ∀ p ∈ names, IsName p) :
    NormalParts rooted (ps ++ names) := by
  obtain ⟨ups, names', rfl, hn', hr⟩ := h
  refine ⟨ups, names' ++ names, List.append_assoc _ _ _, fun p hp => ?_, hr⟩
  exact (List.mem_append.1 hp).elim (hn' p) (hn p)

/-- after a name only names follow -/
theorem NormalParts.isName_of_append (h : NormalParts rooted (ps ++ rest))
    (hname : ∃ p ∈ ps, IsName p) : ∀ q ∈ rest, IsName q := by
  induction rest using List.reverseRecOn with
  | nil => exact List.forall_mem_nil _
  | append_singleton rest q ih =>
    rw [← List.append_assoc] at h
    obtain ⟨hfront, hq⟩ := normalParts_snoc.1 h
    obtain ⟨p, hp, hpname⟩ := hname
    have hq : IsName q := by
      refine hq.resolve_right fun hup => hpname.2.2.1 ?_
      exact hup.2.2 p (List.mem_append_left _ hp)
    intro x hx
    rcases List.mem_append.1 hx with hx | hx
    · exact ih hfront x hx
    · rw [List.mem_singleton.1 hx]
      exact hq

/-- parts without a name among them are all `..` -/
theorem NormalParts.eq_ups (h : NormalParts rooted ps) (hname : ∀ p ∈ ps, ¬IsName p) :
    ∃ ups, ps = List.replicate ups dotDot ∧ (rooted = true → ups = 0) := by
  obtain ⟨ups, names, rfl, hnames, hroot⟩ := h
  have hnil : names = [] := by
    by_contra hne
    obtain ⟨p, hp⟩ := List.exists_mem_of_ne_nil names hne
    exact hname p (List.mem_append_right _ hp) (hnames p hp)
  exact ⟨ups, by rw [hnil, List.append_nil], hroot⟩

theorem hasName_key_iff (h : NormalParts rooted ps) :
    HasName (key rooted ps) ↔ ∃ p ∈ ps, IsName p := by
  unfold HasName
  rw [toList_key]
  by_cases hne : ps = []
  · subst hne
    refine iff_of_false ?_ (by simp)
    rintro ⟨p, hp, hne, hdot, _⟩
    cases rooted with
    | true =>
      have hp : p ∈ [[], []] := hp
      exact hne (by simpa using hp)
    | false => exact hdot (List.mem_singleton.1 hp)
  · rw [parts_render h hne]
    cases rooted with
    | false => rfl
    | true =>
      have hnil : ¬IsName [] := fun hname => hname.1 rfl
      simp [hnil]

/-- without `..` all parts but the empty ones and `.` are put after those kept before -/
theorem foldl_keep_of_no_up {kept : List Part} (h : dotDot ∉ ps) : ps.foldl (keep rooted) kept =
    (ps.filter fun q => q ≠ [] ∧ q ≠ dot).reverse ++ kept := by
  induction ps generalizing kept with
  | nil => rfl
  | cons p ps ih =>
    obtain ⟨hp, hps⟩ := List.ne_and_not_mem_of_not_mem_cons h
    rw [List.foldl_cons, ih hps]
    by_cases hvoid : p = [] ∨ p = dot
    · have hnot : ¬(p ≠ [] ∧ p ≠ dot) := fun hq => hvoid.elim hq.1 hq.2
      rw [List.filter_cons_of_neg (by simpa using hnot), keep_eq_iff.2 (.void hvoid)]
    · have hsolid : p ≠ [] ∧ p ≠ dot := not_or.1 hvoid
      rw [List.filter_cons_of_pos (by simpa using hsolid), List.reverse_cons, List.append_assoc,
        keep_eq_iff.2 (.name hsolid.1 hsolid.2 (Ne.symm hp))]
      rfl

theorem key_eq_key_iff (h : NormalParts rooted ps) (h' : NormalParts rooted' qs) :
    key rooted ps = key rooted' qs ↔ rooted = rooted' ∧ ps = qs := by
  refine ⟨key_injective h h', ?_⟩
  rintro ⟨rfl, rfl⟩
  rfl

theorem key_ne_empty (h : NormalParts rooted ps) : key rooted ps ≠ "" := by
  rw [← clean_key h]
  exact clean_ne_empty _

/-- a path without `..` is put after a clean one by its solid parts -/
theorem clean_key_append (h : NormalParts rooted ps) {r : String}
    (hr : dotDot ∉ parts r.toList) :
    clean (key rooted ps ++ "/" ++ r) = key rooted (ps ++ solidParts r.toList) := by
  have hne : (key rooted ps).toList ≠ [] := fun he => key_ne_empty h (String.toList_eq_nil_iff.1 he)
  have hroot : isRooted (key rooted ps).toList = rooted := by rw [toList_key, isRooted_render h]
  have hfront : resolve rooted (parts (key rooted ps).toList) = ps := by
    rw [toList_key, resolve_parts_render h]
  rw [clean_eq_key, toList_append_slash, isRooted_append hne, hroot, parts_append, resolve_append,
    hfront, foldl_keep_of_no_up hr, List.reverse_append, List.reverse_reverse, List.reverse_reverse]
  rfl

/-! ## lying in a directory -/

/-- a path lies in a directory when its parts go on from there by names -/
theorem liesIn_key_iff (h : NormalParts rooted ps) : LiesIn (key rooted ps) path ↔
    ∃ names, (∀ p ∈ names, IsName p) ∧ path = key rooted (ps ++ names) := by
  constructor
  · rintro ⟨r, _, _, hup, rfl⟩
    refine ⟨solidParts r.toList, fun p hp => ?_, clean_key_append h hup⟩
    obtain ⟨hne, hdot, hslash⟩ := solid_of_mem hp
    exact ⟨hne, hdot, fun he => hup (he ▸ (mem_solidParts.1 hp).1), hslash⟩
  · rintro ⟨names, hnames, rfl⟩
    have hnormal : NormalParts false names := normalParts_of_names hnames
    have hparts : dotDot ∉ parts (key false names).toList ∧
        solidParts (key false names).toList = names := by
      by_cases hne : names = []
      · subst hne
        decide
      · have hcut : parts (key false names).toList = names := by
          rw [toList_key, parts_render hnormal hne]
          rfl
        rw [solidParts, hcut, List.filter_eq_self]
        refine ⟨fun hup => (hnames _ hup).2.2.1 rfl, fun q hq => ?_⟩
        simpa using ⟨(hnames q hq).1, (hnames q hq).2.1⟩
    refine ⟨key false names, key_ne_empty hnormal, ?_, hparts.1, ?_⟩
    · rw [toList_key, isRooted_render hnormal]
    · rw [clean_key_append h hparts.1, hparts.2]

/-! ## what the text tells -/

theorem joinParts_append (hps : ps ≠ []) (hqs : qs ≠ []) :
    joinParts (ps ++ qs) = joinParts ps ++ '/' :: joinParts qs := by
  induction ps with
  | nil => exact absurd rfl hps
  | cons p ps ih =>
    by_cases hne : ps = []
    · subst hne
      exact joinParts_cons_of_ne_nil p hqs
    · rw [List.cons_append, joinParts_cons_of_ne_nil p (by simp [hne]), ih hne,
        joinParts_cons_of_ne_nil p hne, List.append_assoc]
      rfl

/-- parts that go on from others are written after them and a slash -/
theorem render_append (hps : ps ≠ []) (hqs : qs ≠ []) :
    render rooted (ps ++ qs) = render rooted ps ++ '/' :: joinParts qs := by
  cases rooted with
  | true => exact congrArg ('/' :: ·) (joinParts_append hps hqs)
  | false =>
    rw [render_of_ne_nil hps, render_of_ne_nil (by simp [hps]), joinParts_append hps hqs]

/-- a clean path with a slash inside has parts before and after it -/
theorem exists_parts_of_render {a t : List Char} (h : NormalParts rooted qs) (ha : a ≠ [])
    (he : render rooted qs = a ++ '/' :: t) :
    (if rooted then [] :: qs else qs) = parts a ++ parts t := by
  have hne : qs ≠ [] := by
    rintro rfl
    cases rooted with
    | true =>
      obtain ⟨c, a, rfl⟩ := List.exists_cons_of_ne_nil ha
      have he : [] = a ++ '/' :: t := (List.cons.inj he).2
      simp at he
    | false =>
      have hslash : '/' ∈ dot := by
        rw [show dot = a ++ '/' :: t from he]
        simp
      exact absurd hslash (by decide)
  rw [← parts_render h hne, he, parts_append]

/-- a path has the text of a clean one and a slash before it when its parts go on from there, but
those of `.` and `/` are not written out -/
theorem isPrefixOf_key_iff (h : NormalParts rooted ps) (h' : NormalParts rooted' qs) :
    ((key rooted ps).toList ++ ['/']).isPrefixOf (key rooted' qs).toList = true ↔
      ps ≠ [] ∧ rooted = rooted' ∧ ∃ rest, rest ≠ [] ∧ qs = ps ++ rest := by
  rw [List.isPrefixOf_iff_prefix, toList_key, toList_key]
  constructor
  · rintro ⟨t, ht⟩
    rw [List.append_assoc, List.singleton_append] at ht
    have ha : render rooted ps ≠ [] := by
      rw [← toList_key]
      exact fun he => key_ne_empty h (String.toList_eq_nil_iff.1 he)
    have hroot : rooted = rooted' := by
      rw [← isRooted_render h', ← ht, isRooted_append ha, isRooted_render h]
    subst hroot
    have hcut := exists_parts_of_render h' ha ht.symm
    have hsolid : ∀ q ∈ qs, q ≠ [] ∧ q ≠ dot := fun q hq => ⟨(h'.of_mem hq).1, (h'.of_mem hq).2.1⟩
    have hps : ps ≠ [] := by
      rintro rfl
      cases rooted with
      | true =>
        have hqs : qs = [] :: parts t := (List.cons.inj hcut).2
        exact (hsolid [] (hqs ▸ List.mem_cons_self)).1 rfl
      | false =>
        have hqs : qs = dot :: parts t := hcut
        exact (hsolid dot (hqs ▸ List.mem_cons_self)).2 rfl
    refine ⟨hps, rfl, parts t, parts_ne_nil t, ?_⟩
    rw [parts_render h hps] at hcut
    cases rooted with
    | true => exact (List.cons.inj hcut).2
    | false => exact hcut
  · rintro ⟨hps, rfl, rest, hrest, rfl⟩
    refine ⟨joinParts rest, ?_⟩
    rw [render_append hps hrest, List.append_assoc, List.singleton_append]

end

end PatternBuild.Path
