import Mathlib.Data.List.Nodup
import PatternBuild.Engine.Build
import PatternBuild.Proofs.Outcome
import PatternBuild.Proofs.Pattern.Listing

/-!
# The sources that a step finds

A path can match several source patterns of a step, each with captures of its own.  The step takes
it once, with the captures of the first of them, as `Step.compiles?` does.

* `Entry.firsts_append`       of entries with names found before, only the other names are new;
* `Pattern.exists_firsts`     patterns together find what any of them matches, by the first one;
* `Step.exists_sources`       the sources of a step are the paths that it compiles, in order of the
                              first pattern that matches and then by name;
* `Step.Sources.unique`       which leaves no choice;
* `Step.exists_found`         in any tree, listed or not, the search ends without a fault.
-/

namespace PatternBuild

/-! ## the first entry of each name -/

namespace Entry

variable {as bs es : List Entry}

/-- of the entries of one name only the first is kept -/
def firsts (es : List Entry) : List Entry := es.eraseDupsBy fun a b => a.name == b.name

theorem firsts_cons (e : Entry) (es : List Entry) :
    firsts (e :: es) = e :: firsts (es.filter fun b => b.name ≠ e.name) := by
  simp [firsts, List.eraseDupsBy_cons]

/-- names may be sorted out before or after -/
theorem firsts_filter (q : String → Bool) :
    firsts (es.filter fun e => q e.name) = (firsts es).filter fun e => q e.name := by
  induction es generalizing q with
  | nil => rfl
  | cons e es ih =>
    have hother := ih fun name => decide (name ≠ e.name)
    have hboth := ih fun name => q name && decide (name ≠ e.name)
    rw [firsts_cons, hother]
    by_cases hq : q e.name = true
    · simp only [List.filter_cons, if_pos hq, firsts_cons, List.filter_filter, Bool.and_comm,
        hboth]
    · -- the name of `e` does not pass, so sorting it out changes nothing
      have hsame : ∀ b : Entry, (q b.name && decide (b.name ≠ e.name)) = q b.name := by
        intro b
        by_cases hb : b.name = e.name
        · simp [hb, hq]
        · simp [hb]
      simp only [List.filter_cons, if_neg hq, List.filter_filter, hsame, ih]

/-- entries of different names all stay, and take their names from what follows -/
theorem firsts_append (h : (as.map name).Nodup) :
    firsts (as ++ bs) = as ++ (firsts bs).filter fun b => b.name ∉ as.map name := by
  induction as generalizing bs with
  | nil => simp
  | cons a as ih =>
    rw [List.map_cons, List.nodup_cons] at h
    have hkeep : as.filter (fun b => decide (b.name ≠ a.name)) = as := by
      refine List.filter_eq_self.2 fun b hb => ?_
      have hne : b.name ≠ a.name := fun e => h.1 (e ▸ List.mem_map_of_mem hb)
      simpa using hne
    rw [List.cons_append, firsts_cons, List.filter_append, hkeep, ih h.2,
      firsts_filter fun name => decide (name ≠ a.name), List.filter_filter]
    simp only [List.map_cons, List.mem_cons, not_or, Bool.decide_and, Bool.and_comm, ne_eq,
      List.cons_append]

end Entry

/-! ## what patterns find together -/

namespace Pattern

open Path Entry

variable {ps qs : List Pattern} {t : Tree} {e : Entry} {as bs es : List Entry} {a b k : String}

/-- what the first pattern that matches makes of a path -/
def firstMatch? (ps : List Pattern) (path : String) : Option Entry :=
  ps.findSome? (·.matches? path)

/-- the index of the first pattern that matches a path -/
def firstIndex (ps : List Pattern) (path : String) : Nat :=
  ps.findIdx fun p => (p.matches? path).isSome

theorem firstMatch?_append : firstMatch? (ps ++ qs) k = (firstMatch? ps k).or (firstMatch? qs k) :=
  List.findSome?_append

theorem firstIndex_lt_iff : firstIndex ps k < ps.length ↔ ∃ e, firstMatch? ps k = some e := by
  rw [firstIndex, List.findIdx_lt_length, ← Option.isSome_iff_exists, firstMatch?,
    List.findSome?_isSome_iff]

theorem firstIndex_append : firstIndex (ps ++ qs) k =
    if firstIndex ps k < ps.length then firstIndex ps k else firstIndex qs k + ps.length :=
  List.findIdx_append

/-- in order of the first pattern that matches, and then by name -/
def Before (ps : List Pattern) (a b : String) : Prop :=
  firstIndex ps a < firstIndex ps b ∨ firstIndex ps a = firstIndex ps b ∧ a < b

/-- the matches of patterns in a tree, each by the first pattern that matches -/
structure Gathers (ps : List Pattern) (t : Tree) (es : List Entry) : Prop where
  mem : ∀ e, e ∈ es ↔ ∃ k ∈ t.nodes.keys, k ≠ "." ∧ k ≠ "/" ∧ firstMatch? ps k = some e
  ordered : (es.map name).Pairwise (Before ps)

/-- what is made of a path of a built tree has the name of that path -/
theorem name_of_firstMatch? (ht : t.Built) (hk : k ∈ t.nodes.keys)
    (h : firstMatch? ps k = some e) : e.name = k := by
  obtain ⟨p, _, hp⟩ := List.exists_of_findSome?_eq_some h
  obtain ⟨rooted, parts, hn, rfl⟩ := ht.tidy.normal k hk
  exact (spells_of_matches? hp).1.trans (clean_key hn)

theorem Gathers.mem_names (ht : t.Built) (h : Gathers ps t es) : k ∈ es.map name ↔
    k ∈ t.nodes.keys ∧ k ≠ "." ∧ k ≠ "/" ∧ ∃ e, firstMatch? ps k = some e := by
  rw [List.mem_map]
  constructor
  · rintro ⟨e, he, rfl⟩
    obtain ⟨k, hk, hdot, hslash, hm⟩ := (h.mem e).1 he
    rw [name_of_firstMatch? ht hk hm]
    exact ⟨hk, hdot, hslash, e, hm⟩
  · rintro ⟨hk, hdot, hslash, e, hm⟩
    exact ⟨e, (h.mem e).2 ⟨k, hk, hdot, hslash, hm⟩, name_of_firstMatch? ht hk hm⟩

/-- of the matches of further patterns, only those of new names come in addition -/
theorem Gathers.append (ht : t.Built) (ha : Gathers ps t as) (hb : Gathers qs t bs) :
    Gathers (ps ++ qs) t (as ++ bs.filter fun e => e.name ∉ as.map name) := by
  -- the new names are those that only the further patterns match
  have hnew : ∀ {k}, k ∈ t.nodes.keys → k ≠ "." → k ≠ "/" →
      (k ∉ as.map name ↔ firstMatch? ps k = none) := by
    intro k hk hdot hslash
    rw [ha.mem_names ht, Option.eq_none_iff_forall_ne_some]
    simp [hk, hdot, hslash]
  refine ⟨fun e => ?_, ?_⟩
  · simp only [List.mem_append, List.mem_filter, decide_eq_true_eq, firstMatch?_append,
      Option.or_eq_some_iff]
    constructor
    · rintro (he | ⟨he, hnot⟩)
      · obtain ⟨k, hk, hdot, hslash, hm⟩ := (ha.mem e).1 he
        exact ⟨k, hk, hdot, hslash, .inl hm⟩
      · obtain ⟨k, hk, hdot, hslash, hm⟩ := (hb.mem e).1 he
        rw [name_of_firstMatch? ht hk hm, hnew hk hdot hslash] at hnot
        exact ⟨k, hk, hdot, hslash, .inr ⟨hnot, hm⟩⟩
    · rintro ⟨k, hk, hdot, hslash, hm | ⟨hnot, hm⟩⟩
      · exact .inl ((ha.mem e).2 ⟨k, hk, hdot, hslash, hm⟩)
      · refine .inr ⟨(hb.mem e).2 ⟨k, hk, hdot, hslash, hm⟩, ?_⟩
        rwa [name_of_firstMatch? ht hk hm, hnew hk hdot hslash]
  · have hfirst : ∀ {k}, k ∈ as.map name → firstIndex ps k < ps.length := fun hk =>
      firstIndex_lt_iff.2 ((ha.mem_names ht).1 hk).2.2.2
    have hlater : ∀ {k}, k ∈ (bs.filter fun e => e.name ∉ as.map name).map name →
        ¬firstIndex ps k < ps.length := by
      intro k hk
      obtain ⟨e, he, rfl⟩ := List.mem_map.1 hk
      obtain ⟨he, hnot⟩ := List.mem_filter.1 he
      obtain ⟨hk, hdot, hslash, _⟩ := (hb.mem_names ht).1 (List.mem_map_of_mem he)
      rw [firstIndex_lt_iff, (hnew hk hdot hslash).1 (of_decide_eq_true hnot)]
      simp
    rw [List.map_append, List.pairwise_append]
    refine ⟨?_, ?_, fun a ha b hb => .inl ?_⟩
    · refine List.Pairwise.imp_of_mem (fun ha hb hab => ?_) ha.ordered
      rw [Before, firstIndex_append, firstIndex_append, if_pos (hfirst ha), if_pos (hfirst hb)]
      exact hab
    · refine List.Pairwise.imp_of_mem (fun ha hb hab => ?_)
        (hb.ordered.sublist (List.filter_sublist.map name))
      rw [Before, firstIndex_append, firstIndex_append, if_neg (hlater ha), if_neg (hlater hb)]
      exact hab.imp (Nat.add_lt_add_right · _) fun h => ⟨congrArg (· + _) h.1, h.2⟩
    · rw [firstIndex_append, firstIndex_append, if_pos (hfirst ha), if_neg (hlater hb)]
      exact Nat.lt_add_left _ (hfirst ha)

/-- a pattern by itself gathers its matches by name -/
theorem gathers_singleton {p : Pattern} (ht : t.Built) (hasc : (es.map name).Pairwise (· < ·))
    (hmem : ∀ e, e ∈ es ↔ ∃ k ∈ t.nodes.keys, k ≠ "." ∧ k ≠ "/" ∧ p.matches? k = some e) :
    Gathers [p] t es := by
  have hone : ∀ k, firstMatch? [p] k = p.matches? k := by
    intro k
    rw [firstMatch?, List.findSome?_singleton]
  have hgathers : ∀ e, e ∈ es ↔
      ∃ k ∈ t.nodes.keys, k ≠ "." ∧ k ≠ "/" ∧ firstMatch? [p] k = some e := by
    simpa only [hone] using hmem
  have hzero : ∀ k ∈ es.map name, firstIndex [p] k = 0 := by
    intro k hk
    obtain ⟨e, he, rfl⟩ := List.mem_map.1 hk
    obtain ⟨k, hk, _, _, hm⟩ := (hgathers e).1 he
    rw [name_of_firstMatch? ht hk hm]
    exact Nat.lt_one_iff.1 (firstIndex_lt_iff.2 ⟨e, hm⟩)
  refine ⟨hgathers, List.Pairwise.imp_of_mem (fun ha hb hab => .inr ⟨?_, hab⟩) hasc⟩
  rw [hzero _ ha, hzero _ hb]

/-- the first entries of each name, of what patterns find one by one, are what they gather -/
theorem exists_firsts (ps : List Pattern) (ht : t.Built) (hl : t.Listed) :
    ∃ found, ps.mapM (·.enumerate t.fileSystem) = .ok found ∧
      Gathers ps t (firsts found.flatten) := by
  induction ps with
  | nil => exact ⟨[], rfl, ⟨by simp [firsts, firstMatch?], .nil⟩⟩
  | cons p ps ih =>
    obtain ⟨es, hes, hnodup, hmem⟩ := p.exists_candidates ht hl
    obtain ⟨found, hfound, hgathers⟩ := ih
    have hasc := sortEntries_ascending hnodup
    have hp : Gathers [p] t (sortEntries es) :=
      gathers_singleton ht hasc fun e => mem_sortEntries.trans (hmem e)
    refine ⟨sortEntries es :: found, ?_, ?_⟩
    · rw [List.mapM_cons, hes, hfound]
      rfl
    · rw [List.flatten_cons, firsts_append (hasc.imp fun h => Std.ne_of_lt h)]
      exact hp.append ht hgathers

end Pattern

/-! ## the sources of a step -/

namespace Step

variable {s : Step} {t : Tree}

/-- the index of the first source pattern that matches a path -/
def sourceIndex (s : Step) (path : String) : Nat := Pattern.firstIndex s.sources path

/-- the paths of a tree but `.` and `/` that a step compiles, in order of the first source pattern
that matches and then by name -/
structure Sources (s : Step) (t : Tree) (names : List String) : Prop where
  mem : ∀ k, k ∈ names ↔ k ∈ t.nodes.keys ∧ k ≠ "." ∧ k ≠ "/" ∧ ∃ e, s.compiles? k = some e
  named : ∀ k ∈ names, ∀ e, s.compiles? k = some e → e.name = k
  ordered : names.Pairwise fun a b =>
    s.sourceIndex a < s.sourceIndex b ∨ s.sourceIndex a = s.sourceIndex b ∧ a < b

/-- no path comes twice -/
theorem Sources.nodup {names : List String} (h : s.Sources t names) : names.Nodup := by
  refine h.ordered.imp ?_
  rintro a _ (hlt | ⟨_, hlt⟩) rfl
  · exact Nat.lt_irrefl _ hlt
  · exact Std.lt_irrefl hlt

theorem Sources.unique {as bs : List String} (ha : s.Sources t as) (hb : s.Sources t bs) :
    as = bs := by
  have hperm : as.Perm bs := (List.perm_ext_iff_of_nodup ha.nodup hb.nodup).2 fun k =>
    (ha.mem k).trans (hb.mem k).symm
  refine hperm.eq_of_pairwise (fun a b _ _ hab hba => ?_) ha.ordered hb.ordered
  rcases hab with hab | ⟨heq, hab⟩
  · rcases hba with hba | ⟨heq, _⟩
    · omega
    · omega
  · rcases hba with hba | ⟨_, hba⟩
    · omega
    · exact absurd hab (Std.not_lt.2 (Std.le_of_lt hba))

/-- a step finds its sources, with the captures that it compiles them with -/
theorem exists_sources (s : Step) (ht : t.Built) (hl : t.Listed) :
    ∃ es, s.findSources t.fileSystem = .ok es ∧ s.Sources t (es.map Entry.name) ∧
      ∀ e ∈ es, s.compiles? e.name = some e := by
  obtain ⟨found, hfound, hgathers⟩ := Pattern.exists_firsts s.sources ht hl
  have hcompiles : ∀ e ∈ Entry.firsts found.flatten, s.compiles? e.name = some e := by
    intro e he
    obtain ⟨k, hk, _, _, hm⟩ := (hgathers.mem e).1 he
    rw [Pattern.name_of_firstMatch? ht hk hm]
    exact hm
  refine ⟨_, ?_, ⟨fun k => hgathers.mem_names ht, fun k hk e => ?_, hgathers.ordered⟩, hcompiles⟩
  · unfold findSources
    rw [hfound]
    rfl
  · exact Pattern.name_of_firstMatch? ht ((hgathers.mem_names ht).1 hk).1

end Step

/-! ## any tree -/

namespace Pattern

variable {t : Tree}

theorem exists_list {dir : String} (hdir : t.isDir dir = true) :
    ∃ paths, t.list dir = .ok paths := by
  obtain ⟨children, hget⟩ := Tree.isDir_iff.1 hdir
  exact ⟨_, Tree.list_of_get? hget⟩

/-- a walk fails nowhere in a tree, as only directories are listed -/
theorem exists_pathsBelow (levels : Nat) {dir : String} (hdir : t.isDir dir = true) :
    ∃ paths, pathsBelow t.fileSystem levels dir = .ok paths := by
  induction levels generalizing dir with
  | zero => exact exists_list hdir
  | succ levels ih =>
    obtain ⟨paths, hlist⟩ := exists_list hdir
    have hdirs : ∀ d ∈ paths.filter t.fileSystem.isDir,
        ∃ below, pathsBelow t.fileSystem levels d = .ok below :=
      fun d hd => ih (List.mem_filter.1 hd).2
    obtain ⟨below, hbelow⟩ := exists_mapM hdirs
    refine ⟨below.flatten, ?_⟩
    show (t.list dir >>= fun paths =>
      (paths.filter t.fileSystem.isDir).mapM (pathsBelow t.fileSystem levels) >>= fun below =>
        pure below.flatten) = _
    rw [hlist]
    show ((paths.filter t.fileSystem.isDir).mapM (pathsBelow t.fileSystem levels) >>= _) = _
    rw [hbelow]
    rfl

theorem exists_enumerate (p : Pattern) (t : Tree) :
    ∃ es, p.enumerate t.fileSystem = .ok es := by
  unfold enumerate
  split
  · rename_i hdir
    obtain ⟨paths, hpaths⟩ := exists_pathsBelow (p.walkDepth - 1) hdir
    rw [hpaths]
    exact ⟨_, rfl⟩
  · exact ⟨_, rfl⟩

end Pattern

theorem Step.exists_found (s : Step) (t : Tree) :
    ∃ es, s.findSources t.fileSystem = .ok es := by
  obtain ⟨found, hfound⟩ := exists_mapM fun q (_ : q ∈ s.sources) => q.exists_enumerate t
  unfold findSources
  rw [hfound]
  exact ⟨_, rfl⟩

end PatternBuild
