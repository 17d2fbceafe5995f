import PatternBuild.Proofs.Path.Components
import PatternBuild.Watch.Watcher

/-!
# Paths of events, named relative to a base

A path below a base, component by component, gets a clean name, and the name put after the base is
the path again (`named_below_base`).  What goes on where the last part of the base has not ended is
not below it.
-/

namespace PatternBuild.Watch

open Path

variable {base path : String} {rest : List Component}

theorem below?_of_components (h : components path.toList = components base.toList ++ rest) :
    below? base path = some (clean (String.ofList (ofComponents rest))) := by
  rw [below?, below?_eq_some_iff.2 h]
  rfl

theorem below?_eq_none_iff :
    below? base path = none ↔ ¬components base.toList <+: components path.toList := by
  constructor
  · rintro h ⟨rest, hrest⟩
    rw [below?_of_components hrest.symm] at h
    cases h
  · intro h
    rw [below?, Option.map_eq_none_iff]
    cases hb : Path.below? (components base.toList) (components path.toList) with
    | none => rfl
    | some rest => exact absurd ⟨rest, (below?_eq_some_iff.1 hb).symm⟩ h

/-- the name of a path below a base, put after the base, is cleaned as the path is -/
theorem clean_join_below (h : components path.toList = components base.toList ++ rest) :
    clean (String.ofList (join base.toList
      (clean (String.ofList (ofComponents rest))).toList)) = clean path := by
  by_cases hb : base = ""
  · -- the name is the path itself, which may be rooted
    subst hb
    have hrest : rest = components path.toList := h.symm
    have hjoin : ∀ name : String, join "".toList name.toList = name.toList := by
      intro name
      unfold join
      split
      · rfl
      · rw [if_pos (.inl rfl)]
        rfl
    have hplain : clean (plain path) = clean path := by
      apply clean_congr
      · rw [Bool.eq_iff_iff, ← head?_components, ← head?_components, components_plain]
      · rw [← resolve_components, ← resolve_components _ path.toList, components_plain]
    rw [hjoin, String.ofList_toList, clean_clean, hrest]
    exact hplain
  · have hne : components base.toList ≠ [] := by
      intro hnil
      exact hb (String.toList_eq_nil_iff.1 (components_eq_nil_iff.1 hnil))
    obtain ⟨ps, htexts, htext, hps⟩ := exists_parts_of_components h hne
    obtain ⟨hrel, hfold⟩ := relative_joinParts hps
    have hroot : isRooted path.toList = isRooted base.toList := by
      obtain ⟨c, cs, hc⟩ := List.exists_cons_of_ne_nil hne
      rw [Bool.eq_iff_iff, ← head?_components, ← head?_components, h, hc]
      rfl
    have hresolve : resolve (isRooted base.toList) (parts base.toList ++ parts (joinParts ps)) =
        resolve (isRooted base.toList) (parts path.toList) := by
      rw [resolve_append, hfold, ← resolve_components, ← resolve_components _ path.toList, h,
        List.map_append, htexts, resolve_append]
    rw [htext, clean_join_clean base (by rwa [String.toList_ofList]), String.toList_ofList,
      hresolve, ← hroot, clean_eq_key]

/-- **What is below a base gets a name that leads back to it.**  When the components of a path begin
with those of a base, the path is named, however links resolve; the name is in normal form, and put
after the base it is cleaned to what the path is cleaned to.  Any other path is not below the base,
even if it has the text of the base in front and goes on where the last part of that has not
ended. -/
theorem named_below_base (canonical? : String → Option String) (base path : String) :
    (components base.toList <+: components path.toList → ∃ name,
      below? base path = some name ∧ relative? canonical? base path = some name ∧
      IsNormal name.toList ∧
      clean (String.ofList (join base.toList name.toList)) = clean path) ∧
    (¬components base.toList <+: components path.toList → below? base path = none) ∧
    (BreaksOff base.toList path.toList → below? base path = none) := by
  refine ⟨?_, below?_eq_none_iff.2, fun h => below?_eq_none_iff.2 (not_prefix_of_breaksOff h)⟩
  rintro ⟨rest, hrest⟩
  have hbelow := below?_of_components hrest.symm
  refine ⟨_, hbelow, ?_, isNormal_clean _, clean_join_below hrest.symm⟩
  rw [relative?, hbelow]

/-- a path that climbs out of the base below which it is spelled, and one that only begins with the
name of the base -/
theorem climbing_below_base :
    (components "/a/.//b/".toList <+: components "//a/b/../../c/.".toList ∧ ∃ name,
      below? "/a/.//b/" "//a/b/../../c/." = some name ∧
      relative? (fun _ => none) "/a/.//b/" "//a/b/../../c/." = some name ∧ IsNormal name.toList ∧
      clean (String.ofList (join "/a/.//b/".toList name.toList)) = clean "//a/b/../../c/.") ∧
    (¬components "./a".toList <+: components "a/b".toList ∧ below? "./a" "a/b" = none) ∧
    BreaksOff "/project".toList "/projects/a".toList ∧ below? "/project" "/projects/a" = none := by
  have hinside : components "/a/.//b/".toList <+: components "//a/b/../../c/.".toList := by decide
  have hother : ¬components "./a".toList <+: components "a/b".toList := by decide
  have hbreaks : BreaksOff "/project".toList "/projects/a".toList :=
    ⟨"project".toList, 's', "/a".toList, by decide, .inl (by decide), by decide, by decide⟩
  exact ⟨⟨hinside, (named_below_base _ _ _).1 hinside⟩,
    ⟨hother, (named_below_base (fun _ => none) _ _).2.1 hother⟩,
    hbreaks, (named_below_base (fun _ => none) _ _).2.2 hbreaks⟩

end PatternBuild.Watch
