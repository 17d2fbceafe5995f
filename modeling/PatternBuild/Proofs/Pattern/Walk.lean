import PatternBuild.Pattern.Listing
import PatternBuild.Proofs.FileSystem.Tree

/-!
# The walk over a tree

`pathsBelow` finds every path that lies a given number of levels below a directory, and finds it
once (`pathsBelow_finds`).  The walk spells paths in its own way, so they are compared clean.
-/

namespace PatternBuild

open Path

/-- the paths found are, when clean, those that satisfy `S`, and each is found once -/
def Finds (found : List String) (S : String → Prop) : Prop :=
  (found.map clean).Nodup ∧ ∀ k, k ∈ found.map clean ↔ S k

namespace Tree

/-- the paths that lie `n` levels below the directory with the given parts -/
def IsBelow (t : Tree) (rooted : Bool) (ps : List Part) (n : Nat) (k : String) : Prop :=
  ∃ ns, ns.length = n ∧ NormalParts rooted (ps ++ ns) ∧ k = key rooted (ps ++ ns) ∧
    k ∈ t.nodes.keys

variable {t : Tree} {rooted : Bool} {ps : List Part} {p : Part} {n : Nat} {k : String}

theorem isBelow_one : t.IsBelow rooted ps 1 k ↔
    ∃ p, NormalParts rooted (ps ++ [p]) ∧ k = key rooted (ps ++ [p]) ∧ k ∈ t.nodes.keys := by
  constructor
  · rintro ⟨ns, hlen, h⟩
    obtain ⟨p, rfl⟩ := List.length_eq_one_iff.1 hlen
    exact ⟨p, h⟩
  · rintro ⟨p, h⟩
    exact ⟨[p], rfl, h⟩

/-- what lies below a part of a directory lies below the directory -/
theorem isBelow_succ : t.IsBelow rooted ps (n + 1) k ↔ ∃ p, t.IsBelow rooted (ps ++ [p]) n k := by
  constructor
  · rintro ⟨ns, hlen, h⟩
    obtain ⟨p, ns, rfl⟩ := List.exists_cons_of_length_eq_add_one hlen
    rw [List.append_cons] at h
    exact ⟨p, ns, Nat.succ.inj hlen, h⟩
  · rintro ⟨p, ns, hlen, h⟩
    rw [List.append_assoc] at h
    exact ⟨p :: ns, congrArg (· + 1) hlen, h⟩

theorem IsBelow.normal (h : t.IsBelow rooted ps n k) : NormalParts rooted ps := by
  obtain ⟨ns, _, hn, _⟩ := h
  exact hn.of_append

/-- neither `.` nor `/` lies below a directory -/
theorem IsBelow.ne (h : t.IsBelow rooted ps (n + 1) k) : k ≠ "." ∧ k ≠ "/" := by
  obtain ⟨ns, hlen, hn, rfl, _⟩ := h
  refine key_ne hn (List.append_ne_nil_of_right_ne_nil _ ?_)
  rintro rfl
  cases hlen

theorem IsBelow.mem (h : t.IsBelow rooted ps n k) : k ∈ t.nodes.keys := by
  obtain ⟨_, _, _, _, hk⟩ := h
  exact hk

/-- a path lies below one part only -/
theorem IsBelow.part_eq {q : Part} (h : t.IsBelow rooted (ps ++ [p]) n k)
    (h' : t.IsBelow rooted (ps ++ [q]) n k) : p = q := by
  obtain ⟨ns, _, hn, hk, _⟩ := h
  obtain ⟨ns', _, hn', hk', _⟩ := h'
  rw [List.append_assoc] at hn hk hn' hk'
  exact part_eq_of_key_eq hn hn' (hk.symm.trans hk')

/-! ## one directory -/

/-- a directory above a path is there -/
theorem IsBelow.isDir (hl : t.Listed) {dir : String} (hd : clean dir = key rooted ps)
    (h : t.IsBelow rooted ps (n + 1) k) : t.isDir dir = true := by
  obtain ⟨ns, hlen, hn, rfl, hk⟩ := h
  rw [isDir_iff, hd]
  refine hl.dir_of_mem hn hk ?_
  rintro rfl
  cases hlen

/-- a directory lists what lies one level below it -/
theorem list_finds {dir : String} (ht : t.Built) (hl : t.Listed) (hn : NormalParts rooted ps)
    (hd : clean dir = key rooted ps) (hdir : t.isDir dir = true) :
    ∃ found, t.list dir = .ok found ∧ Finds found (t.IsBelow rooted ps 1) := by
  obtain ⟨children, hget⟩ := isDir_iff.1 hdir
  have hlist := list_of_get? hget
  rw [hd] at hget
  -- a listed name is the text of a part that goes on normally
  have hpart : ∀ name, name ∈ children.keys ↔ ∃ p, name = String.ofList p ∧
      NormalParts rooted (ps ++ [p]) ∧ key rooted (ps ++ [p]) ∈ t.nodes.keys := by
    intro name
    rw [← Tree.lists_of_get? hget]
    exact ht.lists_iff hl hn
  have hclean : ∀ p, NormalParts rooted (ps ++ [p]) →
      clean (String.ofList (join dir.toList (String.ofList p).toList)) = key rooted (ps ++ [p]) := by
    intro p hp
    rw [String.toList_ofList]
    exact clean_join hd hp
  refine ⟨_, hlist, ?_, fun k => ?_⟩
  · rw [List.map_map]
    refine List.Nodup.map_on ?_ children.keys_nodup
    intro x hx y hy he
    obtain ⟨p, rfl, hp, _⟩ := (hpart x).1 hx
    obtain ⟨q, rfl, hq, _⟩ := (hpart y).1 hy
    have hkey := (hclean p hp).symm.trans (he.trans (hclean q hq))
    rw [part_eq_of_key_eq hp hq hkey]
  · simp only [List.map_map, List.mem_map, Function.comp_apply, Tree.isBelow_one]
    constructor
    · rintro ⟨name, hname, rfl⟩
      obtain ⟨p, rfl, hp, hmem⟩ := (hpart name).1 hname
      rw [hclean p hp]
      exact ⟨p, hp, rfl, hmem⟩
    · rintro ⟨p, hp, rfl, hmem⟩
      exact ⟨String.ofList p, (hpart _).2 ⟨p, rfl, hp, hmem⟩, hclean p hp⟩

end Tree

/-! ## all levels -/

namespace Pattern

variable {t : Tree} {rooted : Bool} {ps : List Part} {dir : String}

/-- walking on from several directories, whose parts lie side by side -/
theorem mapM_finds {n : Nat} {f : String → Except FileFault (List String)} {dirs : List String}
    (hdirs : (dirs.map clean).Nodup)
    (h : ∀ d ∈ dirs, ∃ p, clean d = key rooted (ps ++ [p]) ∧ NormalParts rooted (ps ++ [p]) ∧
      ∃ found, f d = .ok found ∧ Finds found (t.IsBelow rooted (ps ++ [p]) n)) :
    ∃ founds, dirs.mapM f = .ok founds ∧ Finds founds.flatten fun k => ∃ d ∈ dirs, ∃ p,
      clean d = key rooted (ps ++ [p]) ∧ t.IsBelow rooted (ps ++ [p]) n k := by
  induction dirs with
  | nil => exact ⟨[], rfl, List.nodup_nil, by simp⟩
  | cons d dirs ih =>
    obtain ⟨p, hd, hn, found, hf, hnodup, hfound⟩ := h d List.mem_cons_self
    obtain ⟨hnew, hdirs⟩ := List.nodup_cons.1 hdirs
    obtain ⟨founds, hfs, hnodups, hfounds⟩ := ih hdirs fun d hd => h d (List.mem_cons_of_mem _ hd)
    have hp : ∀ q k, clean d = key rooted (ps ++ [q]) → t.IsBelow rooted (ps ++ [q]) n k → q = p :=
      fun q k hq hk => part_eq_of_key_eq hk.normal hn (hq.symm.trans hd)
    refine ⟨found :: founds, ?_, ?_, fun k => ?_⟩
    · rw [List.mapM_cons, hf, hfs]
      rfl
    · rw [List.flatten_cons, List.map_append, List.nodup_append]
      refine ⟨hnodup, hnodups, fun a ha b hb hab => ?_⟩
      subst hab
      obtain ⟨d', hd', q, hq, hbelow⟩ := (hfounds a).1 hb
      have hpq : p = q := ((hfound a).1 ha).part_eq hbelow
      exact hnew (List.mem_map.2 ⟨d', hd', by rw [hq, hd, hpq]⟩)
    · rw [List.flatten_cons, List.map_append, List.mem_append, hfound, hfounds]
      simp only [List.mem_cons, exists_eq_or_imp]
      constructor
      · rintro (hk | hk)
        · exact .inl ⟨p, hd, hk⟩
        · exact .inr hk
      · rintro (⟨q, hq, hk⟩ | hk)
        · rw [hp q k hq hk] at hk
          exact .inl hk
        · exact .inr hk

/-- the walk finds all that lies `levels + 1` levels below a directory -/
theorem pathsBelow_finds (ht : t.Built) (hl : t.Listed) (levels : Nat)
    (hn : NormalParts rooted ps) (hd : clean dir = key rooted ps) (hdir : t.isDir dir = true) :
    ∃ found, pathsBelow t.fileSystem levels dir = .ok found ∧
      Finds found (t.IsBelow rooted ps (levels + 1)) := by
  induction levels generalizing ps dir with
  | zero => exact Tree.list_finds ht hl hn hd hdir
  | succ levels ih =>
    obtain ⟨found, hfound, hnodup, hmem⟩ := Tree.list_finds ht hl hn hd hdir
    have hdirs : ∀ d ∈ found.filter t.fileSystem.isDir, ∃ p, clean d = key rooted (ps ++ [p]) ∧
        NormalParts rooted (ps ++ [p]) ∧ ∃ found, pathsBelow t.fileSystem levels d = .ok found ∧
          Finds found (t.IsBelow rooted (ps ++ [p]) (levels + 1)) := by
      intro d hd'
      obtain ⟨hmem', hisDir⟩ := List.mem_filter.1 hd'
      obtain ⟨p, hp, hkey, _⟩ := Tree.isBelow_one.1 ((hmem _).1 (List.mem_map_of_mem hmem'))
      exact ⟨p, hkey, hp, ih hp hkey hisDir⟩
    have hsub : ((found.filter t.fileSystem.isDir).map clean).Nodup :=
      hnodup.sublist (List.filter_sublist.map clean)
    obtain ⟨founds, hfounds, hnodups, hmems⟩ := mapM_finds hsub hdirs
    refine ⟨founds.flatten, ?_, hnodups, fun k => ?_⟩
    · show (t.list dir >>= fun paths =>
        (paths.filter t.fileSystem.isDir).mapM (pathsBelow t.fileSystem levels) >>= fun below =>
          pure below.flatten) = _
      rw [hfound]
      show ((found.filter t.fileSystem.isDir).mapM (pathsBelow t.fileSystem levels) >>= _) = _
      rw [hfounds]
      rfl
    · rw [hmems, Tree.isBelow_succ]
      constructor
      · rintro ⟨d, _, p, _, hk⟩
        exact ⟨p, hk⟩
      · rintro ⟨p, hk⟩
        -- the directory on the way down is itself found one level below
        have hpart := hk.isDir hl (clean_key hk.normal)
        obtain ⟨children, hget⟩ := Tree.isDir_iff.1 hpart
        rw [clean_key hk.normal] at hget
        obtain ⟨d, hd', hclean⟩ := List.mem_map.1 ((hmem _).2 (Tree.isBelow_one.2
          ⟨p, hk.normal, rfl, Table.mem_keys.2 ⟨_, hget⟩⟩))
        exact ⟨d, List.mem_filter.2 ⟨hd', hk.isDir hl hclean⟩, p, hclean, hk⟩

end Pattern

end PatternBuild
