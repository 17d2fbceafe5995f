import PatternBuild.Proofs.Pattern.Cut
import PatternBuild.Proofs.Pattern.Glob
import PatternBuild.Proofs.Pattern.Walk

/-!
# Listing and matching

On a tree that adding built and whose paths are listed, `enumerate` yields exactly the matches of
the pattern among the paths of the tree (`enumerate_eq_matches`):

* the mask rejects no match (`candidate?_eq`);
* a path that matches lies below the directory where the walk starts, at the depth to which the
  walk goes (`isBelow_of_matches?`);
* the walk finds all that lies there (`pathsBelow_finds`), so nothing but the order is left to see
  to (`exists_candidates`).
-/

namespace PatternBuild.Pattern

open Path

variable {p : Pattern} {e : Entry} {t : Tree}

/-! ## candidates -/

/-- the mask rejects no match -/
theorem candidate?_eq (p : Pattern) (path : String) :
    p.candidate? path = p.matches? (clean path) := by
  show (if p.passesGlob (clean path) then p.matches? (clean path) else none) = _
  cases h : p.matches? (clean path) with
  | none => exact ite_self none
  | some e =>
    have hs := (spells_of_matches? h).2
    rw [clean_clean] at hs
    have hpass : p.passesGlob (clean path) = true := by
      unfold passesGlob glob
      rw [String.toList_ofList]
      exact globMatches_of_spells hs
    rw [if_pos hpass]

theorem name_of_candidate? {path : String} (h : p.candidate? path = some e) :
    e.name = clean path := by
  rw [candidate?_eq] at h
  rw [(spells_of_matches? h).1, clean_clean]

/-! ## order -/

theorem mem_sortEntries {es : List Entry} : e ∈ sortEntries es ↔ e ∈ es := List.mem_mergeSort

/-- entries with distinct names are put in strictly ascending order -/
theorem sortEntries_ascending {es : List Entry} (h : (es.map Entry.name).Nodup) :
    ((sortEntries es).map Entry.name).Pairwise (· < ·) := by
  have hperm : (sortEntries es).Perm es := List.mergeSort_perm es _
  have hnodup : ((sortEntries es).map Entry.name).Nodup := (hperm.map _).nodup_iff.2 h
  have hle : ((sortEntries es).map Entry.name).Pairwise (· ≤ ·) := by
    refine List.pairwise_map.2 ((List.pairwise_mergeSort ?_ ?_ es).imp ?_)
    · intro a b c hab hbc
      exact decide_eq_true (Std.le_trans (of_decide_eq_true hab) (of_decide_eq_true hbc))
    · intro a b
      rcases Std.le_total (a := a.name) (b := b.name) with hab | hba
      · simp [hab]
      · simp [hba]
    · intro a b hab
      exact of_decide_eq_true hab
  refine List.Pairwise.imp ?_ (hle.and hnodup)
  rintro a b ⟨hab, hne⟩
  exact Std.not_le.1 fun hba => hne (Std.le_antisymm hab hba)

/-- the names of the candidates are among the paths they come from, in the same order -/
theorem map_name_sublist (p : Pattern) (paths : List String) :
    ((paths.filterMap p.candidate?).map Entry.name).Sublist (paths.map clean) := by
  induction paths with
  | nil => exact .slnil
  | cons path paths ih =>
    cases h : p.candidate? path with
    | none =>
      rw [List.filterMap_cons_none h]
      exact ih.cons _
    | some e =>
      rw [List.filterMap_cons_some h, List.map_cons, List.map_cons, name_of_candidate? h]
      exact ih.cons_cons _

/-! ## where matches lie -/

/-- parts that spell non-empty parts are not empty -/
theorem filter_of_spells {as ps : List Part}
    (h : List.Forall₂ (fun a x => Spells (tokenize a) x) as ps) (hps : ∀ x ∈ ps, x ≠ []) :
    as.filter (· ≠ []) = as := by
  induction h with
  | nil => rfl
  | @cons a x as ps ha _ ih =>
    have hne : a ≠ [] := by
      rintro rfl
      exact hps x List.mem_cons_self (spells_nil.1 ha)
    rw [List.filter_cons_of_pos (by simpa using hne),
      ih fun y hy => hps y (List.mem_cons_of_mem _ hy)]

/-- a pattern that spells a normal path is rooted as the path is, and spells it part by part -/
theorem namedParts_spell {rooted : Bool} {ps : List Part} (hn : NormalParts rooted ps)
    (hne : ps ≠ []) (h : Spells p.tokens (render rooted ps)) :
    isRooted p.text.toList = rooted ∧
      List.Forall₂ (fun a x => Spells (tokenize a) x) p.namedParts ps := by
  have hps : ∀ x ∈ ps, x ≠ [] := fun x hx => (hn.of_mem hx).1
  have hparts := spells_parts h
  rw [parts_render hn hne] at hparts
  unfold namedParts
  cases rooted with
  | true =>
    rw [if_pos rfl] at hparts
    cases hcut : parts p.text.toList with
    | nil => exact absurd hcut (parts_ne_nil _)
    | cons a as =>
      rw [hcut] at hparts
      cases hparts with
      | cons ha has =>
        obtain rfl := spells_empty_iff.1 ha
        have hrow : as.filter (· ≠ []) = as := filter_of_spells has hps
        refine ⟨?_, ?_⟩
        · cases has with
          | nil => exact absurd rfl hne
          | cons => exact isRooted_iff_parts.2 ⟨_, _, hcut⟩
        · rw [List.filter_cons_of_neg (by simp), hrow]
          exact has
  | false =>
    rw [if_neg Bool.false_ne_true] at hparts
    refine ⟨?_, ?_⟩
    · rw [← Bool.not_eq_true, isRooted_iff_parts]
      rintro ⟨a, as, hcut⟩
      rw [hcut] at hparts
      cases hparts with
      | cons ha _ => exact hps _ List.mem_cons_self (spells_nil.1 ha)
    · rw [filter_of_spells hparts hps]
      exact hparts

/-- literal parts before the last one spell themselves -/
theorem takeWhile_leads {as ps : List Part} (hne : ps ≠ [])
    (h : List.Forall₂ (fun a x => Spells (tokenize a) x) as ps) :
    ∃ ns, ps = (as.dropLast.takeWhile fun part => !isDynamicPart part) ++ ns ∧ ns ≠ [] := by
  induction h with
  | nil => exact absurd rfl hne
  | @cons a x as ps ha hrest ih =>
    cases hrest with
    | nil => exact ⟨[x], rfl, List.cons_ne_nil _ _⟩
    | @cons b y as ps hb hrest =>
      obtain ⟨ns, hns, hne'⟩ := ih (List.cons_ne_nil _ _)
      rw [List.dropLast_cons_cons]
      cases hdyn : isDynamicPart a with
      | true => exact ⟨x :: y :: ps, by rw [List.takeWhile_cons_of_neg (by simp [hdyn])]; rfl,
          List.cons_ne_nil _ _⟩
      | false =>
        rw [List.takeWhile_cons_of_pos (by simp [hdyn]), eq_of_spells_literal hdyn ha, hns]
        exact ⟨ns, rfl, hne'⟩

/-- the leading literal parts of a pattern lead every path that it spells -/
theorem literalParts_lead {ps : List Part} (hne : ps ≠ [])
    (h : List.Forall₂ (fun a x => Spells (tokenize a) x) p.namedParts ps) :
    ∃ ns, ps = p.literalParts ++ ns ∧ ns.length = p.walkDepth ∧ ns ≠ [] := by
  obtain ⟨ns, hps, hns⟩ := takeWhile_leads hne h
  refine ⟨ns, hps, ?_, hns⟩
  have hlen : p.namedParts.length = p.literalParts.length + ns.length := by
    rw [h.length_eq, ← List.length_append]
    exact congrArg List.length hps
  unfold walkDepth
  omega

/-- a path of the tree that matches lies where the walk goes -/
theorem isBelow_of_matches? (ht : t.Built) {k : String} (hk : k ∈ t.nodes.keys) (hdot : k ≠ ".")
    (hslash : k ≠ "/") (h : p.matches? k = some e) :
    t.IsBelow (isRooted p.text.toList) p.literalParts p.walkDepth k ∧ 0 < p.walkDepth := by
  obtain ⟨rooted, ps, hn, rfl⟩ := ht.tidy.normal k hk
  have hne : ps ≠ [] := by
    rintro rfl
    cases rooted with
    | true => exact hslash (key_nil true)
    | false => exact hdot (key_nil false)
  have hs := (spells_of_matches? h).2
  rw [clean_key hn, toList_key] at hs
  obtain ⟨rfl, hparts⟩ := namedParts_spell hn hne hs
  obtain ⟨ns, rfl, hlen, hns⟩ := literalParts_lead hne hparts
  refine ⟨⟨ns, hlen, hn, rfl, hk⟩, ?_⟩
  rw [← hlen]
  exact List.length_pos_iff.2 hns

/-! ## all matches -/

/-- before they are sorted, the entries found are the matches among the paths but `.` and `/` -/
theorem exists_candidates (p : Pattern) (ht : t.Built) (hl : t.Listed) : ∃ es,
    p.enumerate t.fileSystem = .ok (sortEntries es) ∧ (es.map Entry.name).Nodup ∧
    ∀ e, e ∈ es ↔ ∃ k ∈ t.nodes.keys, k ≠ "." ∧ k ≠ "/" ∧ p.matches? k = some e := by
  unfold enumerate
  by_cases hdir : t.fileSystem.isDir p.walkRoot = true
  · obtain ⟨found, hfound, hnodup, hmem⟩ :=
      pathsBelow_finds ht hl (p.walkDepth - 1) (normalParts_clean p.walkRoot) rfl hdir
    rw [if_pos hdir, hfound]
    refine ⟨_, rfl, hnodup.sublist (map_name_sublist p found), fun e => ?_⟩
    rw [List.mem_filterMap]
    constructor
    · rintro ⟨path, hpath, he⟩
      have hbelow := (hmem _).1 (List.mem_map_of_mem hpath)
      rw [candidate?_eq] at he
      exact ⟨clean path, hbelow.mem, hbelow.ne.1, hbelow.ne.2, he⟩
    · rintro ⟨k, hk, hdot, hslash, he⟩
      obtain ⟨hbelow, hpos⟩ := isBelow_of_matches? ht hk hdot hslash he
      obtain ⟨hroot, hlits⟩ := key_injective (normalParts_clean p.walkRoot) hbelow.normal
        (clean_key hbelow.normal)
      rw [← Nat.sub_add_cancel hpos, ← hroot, ← hlits] at hbelow
      obtain ⟨path, hpath, rfl⟩ := List.mem_map.1 ((hmem k).2 hbelow)
      exact ⟨path, hpath, (candidate?_eq p path).trans he⟩
  · rw [if_neg hdir]
    refine ⟨[], congrArg Except.ok List.mergeSort_nil.symm, List.nodup_nil,
      fun e => ⟨fun he => absurd he List.not_mem_nil, ?_⟩⟩
    rintro ⟨k, hk, hdot, hslash, he⟩
    obtain ⟨hbelow, hpos⟩ := isBelow_of_matches? ht hk hdot hslash he
    rw [← Nat.sub_add_cancel hpos] at hbelow
    exact absurd (hbelow.isDir hl (clean_key hbelow.normal)) hdir

/-- **Listing agrees with matching.**  On a tree that adding built and whose paths are all listed,
a pattern finds its matches among the paths but `.` and `/`, each once and in ascending order. -/
theorem enumerate_eq_matches (p : Pattern) (t : Tree) (ht : t.Built) (hl : t.Listed) :
    ∃ es, p.enumerate t.fileSystem = .ok es ∧ (es.map Entry.name).Pairwise (· < ·) ∧
      ∀ e, e ∈ es ↔ ∃ k ∈ t.nodes.keys, k ≠ "." ∧ k ≠ "/" ∧ p.matches? k = some e := by
  obtain ⟨es, hlist, hnodup, hmem⟩ := p.exists_candidates ht hl
  exact ⟨_, hlist, sortEntries_ascending hnodup, fun e => mem_sortEntries.trans (hmem e)⟩

/-- a directory with a file and a directory in it, and another one above the working directory -/
def sources : Tree := ((Tree.empty.addFile "src/a.c" []).addFile "src/b/c.h" []).addDir "../d"

theorem enumerate_sources : sources.Built ∧ sources.Listed ∧
    ∃ es, (compile "$1/a.c").enumerate sources.fileSystem = .ok es ∧
      ∀ e, e ∈ es ↔ e = ⟨"src/a.c", Table.empty.insert 1 "src"⟩ := by
  have hbuilt : sources.Built := .addDir _ (.addFile _ _ (.addFile _ _ .empty))
  have hlisted : sources.Listed := by decide
  obtain ⟨es, hes, _, hmem⟩ := enumerate_eq_matches (compile "$1/a.c") sources hbuilt hlisted
  refine ⟨hbuilt, hlisted, es, hes, fun e => (hmem e).trans ⟨?_, ?_⟩⟩
  · rintro ⟨k, hk, _, _, he⟩
    have hall : ∀ k ∈ sources.nodes.keys, ∀ e ∈ (compile "$1/a.c").matches? k,
        e = ⟨"src/a.c", Table.empty.insert 1 "src"⟩ := by decide
    exact hall k hk e he
  · rintro rfl
    exact ⟨"src/a.c", by decide, by decide, by decide, by decide⟩

end PatternBuild.Pattern
