import PatternBuild.Proofs.Path.Composition
import PatternBuild.Proofs.Path.Plain

/-!
# Paths by their components

The components of a path are its parts but for empty ones and `.`, with what the path starts with
in front.  Cleaning passes over the same parts, so it can go by the texts of the components
(`resolve_components`), and a relative path may be cleaned before it is put after a base
(`clean_join_clean`).  A path that goes on where the last part of a base has not
ended does not have the components of the base in front (`not_prefix_of_breaksOff`).
-/

namespace PatternBuild.Path

variable {cs : List Char} {ps kept : List Part} {rooted : Bool}

/-! ## inner components -/

theorem text_of_ofPart? {q : Part} {c : Component} (h : Component.ofPart? q = some c) :
    c.text = q ∧ q ≠ [] ∧ q ≠ dot := by
  by_cases hvoid : q = [] ∨ q = dot
  · rw [Component.ofPart?, if_pos hvoid] at h
    cases h
  · obtain ⟨hne, hdot⟩ := not_or.1 hvoid
    obtain ⟨c', hc', htext⟩ := exists_ofPart? hne hdot
    rw [h] at hc'
    rw [Option.some.inj hc']
    exact ⟨htext, hne, hdot⟩

theorem map_text_filterMap (ps : List Part) :
    (ps.filterMap Component.ofPart?).map Component.text = ps.filter fun q => q ≠ [] ∧ q ≠ dot := by
  rw [← filterMap_solid]
  apply map_text_ofPart?
  intro q hq
  simpa using (List.mem_filter.1 hq).2

/-- what stands before the inner components -/
def leading (cs : List Char) : List Component :=
  if isRooted cs then [.root] else if (parts cs).head? = some dot then [.here] else []

theorem components_eq (cs : List Char) :
    components cs = leading cs ++ (parts cs).filterMap Component.ofPart? := by
  unfold components leading
  split
  · rfl
  · split
    · rfl
    · rfl

theorem mem_tail_components {c : Component} (h : c ∈ (components cs).tail) :
    ∃ q ∈ parts cs, Component.ofPart? q = some c := by
  have hinner : c ∈ (parts cs).filterMap Component.ofPart? := by
    rw [components_eq] at h
    unfold leading at h
    split at h
    · exact h
    · split at h
      · exact h
      · exact List.mem_of_mem_tail h
  exact List.mem_filterMap.1 hinner

/-! ## cleaning by components -/

theorem foldl_keep_filter (ps : List Part) : (ps.filter fun q => q ≠ [] ∧ q ≠ dot).foldl
    (keep rooted) kept = ps.foldl (keep rooted) kept := by
  induction ps generalizing kept with
  | nil => rfl
  | cons p ps ih =>
    by_cases hvoid : p = [] ∨ p = dot
    · have hnot : ¬(p ≠ [] ∧ p ≠ dot) := fun hq => hvoid.elim hq.1 hq.2
      rw [List.filter_cons_of_neg (by simpa using hnot), ih, List.foldl_cons,
        keep_eq_iff.2 (.void hvoid)]
    · rw [List.filter_cons_of_pos (by simpa using not_or.1 hvoid), List.foldl_cons, ih,
        List.foldl_cons]

/-- the texts of the components are resolved to what the parts are -/
theorem resolve_components (rooted : Bool) (cs : List Char) :
    resolve rooted ((components cs).map Component.text) = resolve rooted (parts cs) := by
  have hinner : (((parts cs).filterMap Component.ofPart?).map Component.text).foldl
      (keep rooted) [] = (parts cs).foldl (keep rooted) [] := by
    rw [map_text_filterMap]
    exact foldl_keep_filter (parts cs)
  unfold resolve
  rw [components_eq, List.map_append, List.foldl_append]
  have hlead : ((leading cs).map Component.text).foldl (keep rooted) [] = [] := by
    unfold leading
    split
    · show keep rooted [] [] = []
      exact keep_nil []
    · split
      · show keep rooted [] dot = []
        exact keep_dot []
      · rfl
  rw [hlead, hinner]

theorem head?_components : (components cs).head? = some .root ↔ isRooted cs = true := by
  have hroot : ((parts cs).filterMap Component.ofPart?).head? ≠ some .root := by
    intro h
    obtain ⟨q, _, hq⟩ := List.mem_filterMap.1 (List.mem_of_mem_head? h)
    exact ofPart?_ne_root q hq
  rw [components_eq]
  unfold leading
  by_cases h : isRooted cs = true
  · simp [h]
  · rw [if_neg h]
    split
    · simp [h]
    · simpa [h] using hroot

/-- only the empty path has no components -/
theorem components_eq_nil_iff : components cs = [] ↔ cs = [] := by
  constructor
  · intro h
    rw [components_eq, List.append_eq_nil_iff] at h
    obtain ⟨hlead, hinner⟩ := h
    unfold leading at hlead
    split at hlead
    · cases hlead
    · rename_i hroot
      split at hlead
      · cases hlead
      · rename_i hdot
        obtain ⟨p, ps, hps⟩ := List.exists_cons_of_ne_nil (parts_ne_nil cs)
        have hp : p = [] := by
          by_contra hne
          have hpdot : p ≠ dot := by
            rintro rfl
            exact hdot (by rw [hps]; rfl)
          obtain ⟨c, hc, _⟩ := exists_ofPart? hne hpdot
          rw [hps, List.filterMap_cons_some hc] at hinner
          cases hinner
        cases ps with
        | nil => rw [← joinParts_parts cs, hps, hp, joinParts_singleton]
        | cons q ps => exact absurd (isRooted_iff_parts.2 ⟨q, ps, by rw [hps, hp]⟩) hroot
  · rintro rfl
    rfl

/-! ## paths after a base -/

/-- components after those of a base are inner ones, and are written with slashes between them -/
theorem exists_parts_of_components {bs rest : List Component} (h : components cs = bs ++ rest)
    (hbs : bs ≠ []) : ∃ ps, rest.map Component.text = ps ∧ ofComponents rest = joinParts ps ∧
      ∀ p ∈ ps, p ≠ [] ∧ p ≠ dot ∧ '/' ∉ p := by
  have hinner : ∀ c ∈ rest, ∃ q ∈ parts cs, Component.ofPart? q = some c := by
    intro c hc
    apply mem_tail_components
    obtain ⟨b, bs, rfl⟩ := List.exists_cons_of_ne_nil hbs
    rw [h]
    exact List.mem_append_right bs hc
  have hroot : rest.head? ≠ some .root := by
    intro hhead
    obtain ⟨q, _, hq⟩ := hinner _ (List.mem_of_mem_head? hhead)
    exact ofPart?_ne_root q hq
  refine ⟨rest.map Component.text, rfl, ofComponents_of_not_root hroot, ?_⟩
  intro p hp
  obtain ⟨c, hc, rfl⟩ := List.mem_map.1 hp
  obtain ⟨q, hmem, hq⟩ := hinner c hc
  obtain ⟨rfl, hne, hdot⟩ := text_of_ofPart? hq
  exact ⟨hne, hdot, not_mem_of_mem_parts hmem⟩

/-- solid parts make a relative path, and cutting it gives them back but for `.` -/
theorem relative_joinParts (h : ∀ p ∈ ps, p ≠ [] ∧ p ≠ dot ∧ '/' ∉ p) :
    isRooted (joinParts ps) = false ∧ ∀ rooted kept,
      (parts (joinParts ps)).foldl (keep rooted) kept = ps.foldl (keep rooted) kept := by
  by_cases hne : ps = []
  · subst hne
    refine ⟨rfl, fun rooted kept => ?_⟩
    show keep rooted kept [] = kept
    exact keep_nil kept
  · have hparts : parts (joinParts ps) = ps := parts_joinParts hne fun p hp => (h p hp).2.2
    rw [hparts]
    refine ⟨?_, fun rooted kept => rfl⟩
    rw [← Bool.not_eq_true, isRooted_iff_parts, hparts]
    rintro ⟨p, qs, rfl⟩
    exact (h [] List.mem_cons_self).1 rfl

/-- a relative path can be cleaned before it is put after a base -/
theorem clean_join_clean (base : String) {rel : String} (hrel : isRooted rel.toList = false) :
    clean (String.ofList (join base.toList (clean rel).toList)) =
      key (isRooted base.toList) (resolve (isRooted base.toList)
        (parts base.toList ++ parts rel.toList)) := by
  have hclean : isRooted (clean rel).toList = false := by rw [isRooted_clean, hrel]
  have hfold : ∀ kept, (parts (clean rel).toList).foldl (keep (isRooted base.toList)) kept =
      (parts rel.toList).foldl (keep (isRooted base.toList)) kept := by
    intro kept
    rw [clean_eq_key, toList_key, foldl_keep_parts_render (normalParts_clean rel), hrel]
    exact foldl_keep_resolve fun _ hq => not_mem_of_mem_parts hq
  rw [clean_eq_key, String.toList_ofList, isRooted_join _ hclean, resolve_parts_join _ _ hclean,
    resolve_append, resolve_append, hfold]

/-! ## texts that break off -/

/-- the last part of a text and the first part of the next one run together -/
theorem joinParts_append_joinParts (before after : List Part) (a b : Part) :
    joinParts (before ++ [a]) ++ joinParts (b :: after) =
      joinParts (before ++ (a ++ b) :: after) := by
  induction before with
  | nil =>
    cases after with
    | nil => rfl
    | cons q after =>
      show a ++ (b ++ '/' :: joinParts (q :: after)) = (a ++ b) ++ '/' :: joinParts (q :: after)
      rw [List.append_assoc]
  | cons p before ih =>
    rw [List.cons_append, List.cons_append, joinParts_cons_of_ne_nil p (by simp),
      joinParts_cons_of_ne_nil p (by simp), ← ih, List.append_assoc]
    rfl

theorem parts_append_of_parts {a b : List Char} {before after : List Part} {p q : Part}
    (ha : parts a = before ++ [p]) (hb : parts b = q :: after) :
    parts (a ++ b) = before ++ (p ++ q) :: after := by
  have hmem : ∀ x ∈ before ++ (p ++ q) :: after, '/' ∉ x := by
    have hleft : ∀ x ∈ before ++ [p], '/' ∉ x := fun x hx => not_mem_of_mem_parts (ha ▸ hx)
    have hright : ∀ x ∈ q :: after, '/' ∉ x := fun x hx => not_mem_of_mem_parts (hb ▸ hx)
    simp only [List.mem_append, List.mem_cons, List.not_mem_nil, or_false] at hleft hright ⊢
    rintro x (hx | rfl | hx)
    · exact hleft x (.inl hx)
    · rw [List.mem_append, not_or]
      exact ⟨hleft p (.inr rfl), hright q (.inl rfl)⟩
    · exact hright x (.inr hx)
  rw [← joinParts_parts a, ha, ← joinParts_parts b, hb, joinParts_append_joinParts,
    parts_joinParts (by simp) hmem]

/-- a path has the text of a base in front and goes on where the last part of the base, which is no
`.` after others, has not ended -/
def BreaksOff (base path : List Char) : Prop :=
  ∃ part c rest, (parts base).getLast? = some part ∧ (part ≠ [] ∧ part ≠ dot ∨ base = dot) ∧
    c ≠ '/' ∧ path = base ++ c :: rest

theorem not_prefix_of_breaksOff {base path : List Char} (h : BreaksOff base path) :
    ¬components base <+: components path := by
  obtain ⟨part, c, rest, hlast, hpart, hc, rfl⟩ := h
  obtain ⟨before, hbase⟩ := List.getLast?_eq_some_iff.1 hlast
  obtain ⟨q, after, hrest⟩ := List.exists_cons_of_ne_nil (parts_ne_nil rest)
  have hmore : parts (c :: rest) = (c :: q) :: after := by
    rw [parts_cons hc, hrest]
    rfl
  have hpath : parts (base ++ c :: rest) = before ++ (part ++ c :: q) :: after :=
    parts_append_of_parts hbase hmore
  have hlonger : part ++ c :: q ≠ dot := by
    intro he
    rcases List.append_eq_singleton_iff.1 he with ⟨rfl, _⟩ | ⟨_, hnil⟩
    · rcases hpart with ⟨hne, _⟩ | rfl
      · exact hne rfl
      · cases hlast
    · cases hnil
  obtain ⟨next, hnext, htext⟩ := exists_ofPart? (by simp) hlonger
  -- up to the last part of the base both have the same components
  have hfront : ∃ last, last.text = part ∧ components base =
      leading (base ++ c :: rest) ++ before.filterMap Component.ofPart? ++ [last] := by
    rcases hpart with ⟨hne, hdot⟩ | rfl
    · obtain ⟨last, hlast, htext⟩ := exists_ofPart? hne hdot
      have hbasene : base ≠ [] := by
        rintro rfl
        rcases List.singleton_eq_append_iff.1 hbase with ⟨_, hp⟩ | ⟨_, hp⟩
        · exact hne (List.singleton_inj.1 hp)
        · cases hp
      have hhead : (parts (base ++ c :: rest)).head? = some dot ↔
          (parts base).head? = some dot := by
        rw [hpath, hbase]
        cases before with
        | nil => simp [hlonger, hdot]
        | cons p before => rfl
      have hlead : leading (base ++ c :: rest) = leading base := by
        unfold leading
        simp only [isRooted_append hbasene, hhead]
      refine ⟨last, htext, ?_⟩
      rw [hlead, components_eq, hbase, List.filterMap_append, List.filterMap_cons_some hlast,
        List.append_assoc]
      rfl
    · obtain ⟨rfl, rfl⟩ : before = [] ∧ part = dot := by
        rcases List.singleton_eq_append_iff.1 hbase with ⟨hb, hp⟩ | ⟨_, hp⟩
        · exact ⟨hb, List.singleton_inj.1 hp⟩
        · cases hp
      have hlead : leading (dot ++ c :: rest) = [] := by
        have hroot : isRooted (dot ++ c :: rest) = false := rfl
        unfold leading
        rw [hroot, hpath, if_neg Bool.false_ne_true, if_neg]
        exact fun he => hlonger (Option.some.inj he)
      refine ⟨.here, rfl, ?_⟩
      rw [hlead]
      rfl
  obtain ⟨last, hlasttext, hcomponents⟩ := hfront
  rw [components_eq (base ++ c :: rest), hpath, List.filterMap_append,
    List.filterMap_cons_some hnext, hcomponents, ← List.append_assoc, List.prefix_append_right_inj, List.cons_prefix_cons]
  rintro ⟨rfl, _⟩
  rw [hlasttext] at htext
  simp at htext

end PatternBuild.Path
