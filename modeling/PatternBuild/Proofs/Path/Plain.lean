import PatternBuild.Path.Component
import PatternBuild.Proofs.Path.Normal

/-!
# Plain spellings of clean paths

A clean path has no other plain spelling than itself (`plain_of_clean`), so clean paths that differ
are told apart wherever paths are compared by their components.  A plain spelling has the components
of the path it stands for, so two paths share it exactly when they have the same components
(`plain_eq_iff`).
-/

namespace PatternBuild.Path

variable {rooted : Bool} {ps : List Part}

/-- a part that is kept has its own text as a component -/
theorem exists_ofPart? {q : Part} (hne : q ≠ []) (hdot : q ≠ dot) :
    ∃ c, Component.ofPart? q = some c ∧ c.text = q := by
  by_cases hup : q = dotDot
  · subst hup
    exact ⟨.up, rfl, rfl⟩
  · exact ⟨.name q, by simp [Component.ofPart?, hne, hdot, hup], rfl⟩

/-- parts that are kept have their own texts as components -/
theorem map_text_ofPart? (h : ∀ q ∈ ps, q ≠ [] ∧ q ≠ dot) :
    (ps.filterMap Component.ofPart?).map Component.text = ps := by
  induction ps with
  | nil => rfl
  | cons q ps ih =>
    obtain ⟨⟨hne, hdot⟩, hps⟩ := List.forall_mem_cons.1 h
    obtain ⟨c, hc, htext⟩ := exists_ofPart? hne hdot
    rw [List.filterMap_cons_some hc, List.map_cons, htext, ih hps]

/-- inner components are joined by their texts -/
theorem ofComponents_of_not_root {cs : List Component} (h : cs.head? ≠ some .root) :
    ofComponents cs = joinParts (cs.map Component.text) := by
  cases cs with
  | nil => rfl
  | cons c cs =>
    cases c with
    | root => exact absurd rfl h
    | here => rfl
    | up => rfl
    | name p => rfl

theorem ofPart?_ne_root (q : Part) : Component.ofPart? q ≠ some .root := by
  unfold Component.ofPart?
  split
  · intro h
    cases h
  · split
    · intro h
      cases h
    · intro h
      cases h

theorem plain_key (h : NormalParts rooted ps) : plain (key rooted ps) = key rooted ps := by
  by_cases hne : ps = []
  · subst hne
    cases rooted <;> decide
  · have htext := map_text_ofPart? fun q hq => ⟨(h.of_mem hq).1, (h.of_mem hq).2.1⟩
    rw [plain, toList_key, components, isRooted_render h, parts_render h hne]
    cases rooted with
    | true =>
      show String.ofList ('/' :: joinParts ((ps.filterMap Component.ofPart?).map _)) = _
      rw [htext]
      rfl
    | false =>
      have hhead : ps.head? ≠ some dot := fun he =>
        (h.of_mem (List.mem_of_mem_head? he)).2.1 rfl
      have hroot : (ps.filterMap Component.ofPart?).head? ≠ some .root := fun he => by
        obtain ⟨q, _, hq⟩ := List.mem_filterMap.1 (List.mem_of_mem_head? he)
        exact ofPart?_ne_root q hq
      simp only [Bool.false_eq_true, if_false, if_neg hhead]
      rw [ofComponents_of_not_root hroot, htext, key, render_of_ne_nil hne]

theorem plain_of_clean {path : String} (h : clean path = path) : plain path = path := by
  rw [← h, clean_eq_key]
  exact plain_key (normalParts_clean path)

/-! ## components of plain spellings -/

/-- parts that are passed over give no components -/
theorem filterMap_solid (ps : List Part) :
    (ps.filter fun q => q ≠ [] ∧ q ≠ dot).filterMap Component.ofPart? =
      ps.filterMap Component.ofPart? := by
  rw [List.filterMap_filter]
  congr 1
  funext q
  by_cases h : q = [] ∨ q = dot
  · have hnot : ¬(q ≠ [] ∧ q ≠ dot) := fun hq => h.elim hq.1 hq.2
    simp only [decide_eq_true_eq, if_neg hnot, Component.ofPart?, if_pos h]
  · simp only [decide_eq_true_eq, if_pos (not_or.1 h)]

section
variable (h : ∀ q ∈ ps, q ≠ [] ∧ q ≠ dot ∧ '/' ∉ q)
include h

/-- joining and cutting again changes no components -/
theorem filterMap_parts_joinParts :
    (parts (joinParts ps)).filterMap Component.ofPart? = ps.filterMap Component.ofPart? := by
  by_cases hne : ps = []
  · subst hne
    rfl
  · rw [parts_joinParts hne fun q hq => (h q hq).2.2]

theorem components_slash :
    components ('/' :: joinParts ps) = .root :: ps.filterMap Component.ofPart? :=
  congrArg (Component.root :: ·) (filterMap_parts_joinParts h)

theorem components_dot :
    components (joinParts (dot :: ps)) = .here :: ps.filterMap Component.ofPart? := by
  have hparts : parts (joinParts (dot :: ps)) = dot :: ps := by
    refine parts_joinParts (List.cons_ne_nil _ _) fun q hq => ?_
    rcases List.mem_cons.1 hq with rfl | hq
    · decide
    · exact (h q hq).2.2
  have hroot : isRooted (joinParts (dot :: ps)) = false := by
    rw [← Bool.not_eq_true, isRooted_iff_parts, hparts]
    rintro ⟨p, qs, he⟩
    exact absurd (List.head_eq_of_cons_eq he) (by decide)
  unfold components
  rw [hroot, hparts]
  rfl

theorem components_joinParts : components (joinParts ps) = ps.filterMap Component.ofPart? := by
  by_cases hne : ps = []
  · subst hne
    rfl
  · have hparts := parts_joinParts hne fun q hq => (h q hq).2.2
    have hroot : isRooted (joinParts ps) = false := by
      rw [← Bool.not_eq_true, isRooted_iff_parts, hparts]
      rintro ⟨p, qs, rfl⟩
      exact (h [] List.mem_cons_self).1 rfl
    have hhead : ps.head? ≠ some dot := fun he => (h dot (List.mem_of_mem_head? he)).2.1 rfl
    unfold components
    rw [hroot, hparts, if_neg Bool.false_ne_true, if_neg hhead]

end

/-- a plain spelling has the components of the path it stands for -/
theorem components_plain (path : String) :
    components (plain path).toList = components path.toList := by
  have hsolid : ∀ q ∈ solidParts path.toList, q ≠ [] ∧ q ≠ dot ∧ '/' ∉ q := fun _ => solid_of_mem
  have htext := map_text_ofPart? fun q hq => ⟨(hsolid q hq).1, (hsolid q hq).2.1⟩
  have hcomponents : components path.toList =
      if isRooted path.toList then .root :: (solidParts path.toList).filterMap Component.ofPart?
      else if (parts path.toList).head? = some dot then
        .here :: (solidParts path.toList).filterMap Component.ofPart?
      else (solidParts path.toList).filterMap Component.ofPart? := by
    rw [solidParts, filterMap_solid]
    rfl
  have hroot : ((solidParts path.toList).filterMap Component.ofPart?).head? ≠ some .root := by
    intro he
    obtain ⟨q, _, hq⟩ := List.mem_filterMap.1 (List.mem_of_mem_head? he)
    exact ofPart?_ne_root q hq
  rw [plain, String.toList_ofList, hcomponents]
  generalize solidParts path.toList = ps at hsolid htext hroot
  split
  · show components ('/' :: joinParts ((ps.filterMap Component.ofPart?).map Component.text)) = _
    rw [htext, components_slash hsolid]
  · split
    · show components (joinParts (dot :: (ps.filterMap Component.ofPart?).map Component.text)) = _
      rw [htext, components_dot hsolid]
    · rw [ofComponents_of_not_root hroot, htext, components_joinParts hsolid]

/-- two paths have one plain spelling when they have the same components -/
theorem plain_eq_iff {a b : String} :
    plain a = plain b ↔ components a.toList = components b.toList := by
  constructor
  · intro h
    rw [← components_plain a, h, components_plain b]
  · intro h
    rw [plain, h]
    rfl

end PatternBuild.Path
