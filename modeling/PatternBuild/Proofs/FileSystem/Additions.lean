import PatternBuild.Proofs.FileSystem.Linking

/-!
# Trees from sequences of additions

Additions are `Consistent` if no path is used both as a file and as a directory.  No file is then
in the way of linking and no file takes the place of a directory, as files and directories are
there only because they were used as such, so every path stays listed (`listed_build`) and every
directory lists exactly what lies in it (`build_is_tree`).  Contents are kept whether additions are
consistent or not (`fileAt_foldl_add`).
-/

namespace PatternBuild.Tree

open Path

/-! ## sequences of additions -/

/-- one addition to a tree -/
inductive Addition where
  | file (path : String) (content : Text.Bytes)
  | dir (path : String)

namespace Addition

def path : Addition → String
  | .file path _ => path
  | .dir path => path

def isFile : Addition → Bool
  | .file _ _ => true
  | .dir _ => false

end Addition

def add (t : Tree) : Addition → Tree
  | .file path content => t.addFile path content
  | .dir path => t.addDir path

/-- the tree that additions to an empty one build -/
def build (adds : List Addition) : Tree := adds.foldl add Tree.empty

/-- a path is added as a file -/
def UsedAsFile (adds : List Addition) (k : String) : Prop :=
  ∃ a ∈ adds, a.isFile = true ∧ clean a.path = k

/-- a path is `.` or `/`, is added as a directory, or lies above one that is added -/
def UsedAsDir (adds : List Addition) (k : String) : Prop :=
  k = "." ∨ k = "/" ∨ (∃ a ∈ adds, a.isFile = false ∧ clean a.path = k) ∨
    ∃ a ∈ adds, Above k (clean a.path)

/-- no path is used both as a file and as a directory -/
def Consistent (adds : List Addition) : Prop := ∀ k, ¬(UsedAsFile adds k ∧ UsedAsDir adds k)

section
variable {adds before after : List Addition} {a : Addition} {t : Tree} {k path : String}
  {content c : Text.Bytes}

theorem build_concat (adds : List Addition) (a : Addition) :
    build (adds ++ [a]) = (build adds).add a := List.foldl_append

theorem build_append_cons (before after : List Addition) (a : Addition) :
    build (before ++ a :: after) = after.foldl add ((build before).add a) := List.foldl_append

theorem built_build (adds : List Addition) : (build adds).Built := by
  induction adds using List.reverseRecOn with
  | nil => exact .empty
  | append_singleton adds a ih =>
    rw [build_concat]
    cases a with
    | file path content => exact .addFile path content ih
    | dir path => exact .addDir path ih

theorem UsedAsFile.append (h : UsedAsFile before k) (after : List Addition) :
    UsedAsFile (before ++ after) k := by
  obtain ⟨a, ha, hk⟩ := h
  exact ⟨a, List.mem_append_left _ ha, hk⟩

theorem UsedAsDir.append (h : UsedAsDir before k) (after : List Addition) :
    UsedAsDir (before ++ after) k := by
  rcases h with h | h | ⟨a, ha, hk⟩ | ⟨a, ha, hk⟩
  · exact .inl h
  · exact .inr (.inl h)
  · exact .inr (.inr (.inl ⟨a, List.mem_append_left _ ha, hk⟩))
  · exact .inr (.inr (.inr ⟨a, List.mem_append_left _ ha, hk⟩))

theorem Consistent.of_append (h : Consistent (before ++ after)) : Consistent before :=
  fun k hk => h k ⟨hk.1.append after, hk.2.append after⟩

/-! ### one addition -/

theorem fileAt_add (h : k ≠ clean a.path) : (t.add a).FileAt k c ↔ t.FileAt k c := by
  cases a with
  | file path content => exact fileAt_addFile.trans (iff_of_eq (if_neg h))
  | dir path => exact fileAt_addDir

theorem mem_keys_add (h : k ∈ t.nodes.keys) : k ∈ (t.add a).nodes.keys := by
  cases a with
  | file path content => exact mem_keys_set.2 (.inr (mem_keys_link h))
  | dir path =>
    show k ∈ (t.addDir path).nodes.keys
    unfold addDir
    split
    · exact h
    · exact mem_keys_link (mem_keys_set.2 (.inr h))

theorem fileAt_of_add (h : (t.add a).FileAt k c) :
    t.FileAt k c ∨ a.isFile = true ∧ clean a.path = k := by
  by_cases hk : k = clean a.path
  · cases a with
    | file path content => exact .inr ⟨rfl, hk.symm⟩
    | dir path => exact .inl (fileAt_addDir.1 h)
  · exact .inl ((fileAt_add hk).1 h)

theorem dirAt_of_add (h : (t.add a).DirAt k) :
    t.DirAt k ∨ (a.isFile = false ∧ clean a.path = k) ∨ Above k (clean a.path) := by
  cases a with
  | file path content => exact (dirAt_addFile h).imp_right .inr
  | dir path => exact (dirAt_addDir h).imp_right (Or.imp_left fun hk => ⟨rfl, hk.symm⟩)

theorem ListedBut.add (hlisted : ListedBut [] t)
    (hfile : ∀ k, Above k (clean a.path) → ∀ c, ¬t.FileAt k c)
    (hdir : a.isFile = true → ¬t.DirAt (clean a.path)) : ListedBut [] (t.add a) := by
  cases a with
  | file path content => exact hlisted.addFile hfile (hdir rfl)
  | dir path => exact hlisted.addDir hfile

/-! ### all additions -/

/-- a file is there because it was added -/
theorem usedAsFile_of_fileAt (h : (build adds).FileAt k c) : UsedAsFile adds k := by
  induction adds using List.reverseRecOn with
  | nil =>
    obtain ⟨rfl, hfile⟩ := Option.ite_none_right_eq_some.1 (get?_set.symm.trans h)
    cases hfile
  | append_singleton adds a ih =>
    rw [build_concat] at h
    rcases fileAt_of_add h with h | hk
    · exact (ih h).append _
    · exact ⟨a, List.mem_append_right _ List.mem_cons_self, hk⟩

/-- a directory is there because it was added or lies above what was added -/
theorem usedAsDir_of_dirAt (h : (build adds).DirAt k) : UsedAsDir adds k := by
  induction adds using List.reverseRecOn with
  | nil =>
    rcases dirAt_set_emptyDir.1 h with hk | ⟨children, hnone⟩
    · exact .inl hk
    · cases hnone
  | append_singleton adds a ih =>
    have hlast : a ∈ adds ++ [a] := List.mem_append_right _ List.mem_cons_self
    rw [build_concat] at h
    rcases dirAt_of_add h with h | hk | habove
    · exact (ih h).append _
    · exact .inr (.inr (.inl ⟨a, hlast, hk⟩))
    · exact .inr (.inr (.inr ⟨a, hlast, habove⟩))

/-- after consistent additions every path is listed in its directory -/
theorem listed_build (h : Consistent adds) : ListedBut [] (build adds) := by
  induction adds using List.reverseRecOn with
  | nil =>
    intro k hk _ dir name hchild
    rcases mem_keys_set.1 hk with rfl | hk
    · exact absurd rfl hchild.ne_root.1
    · exact absurd hk List.not_mem_nil
  | append_singleton adds a ih =>
    have hlast : a ∈ adds ++ [a] := List.mem_append_right _ List.mem_cons_self
    rw [build_concat]
    refine (ih h.of_append).add (fun k habove c hfile => ?_) fun hadded hdir => ?_
    · have hused : UsedAsFile (adds ++ [a]) k := (usedAsFile_of_fileAt hfile).append _
      exact h k ⟨hused, .inr (.inr (.inr ⟨a, hlast, habove⟩))⟩
    · have hused : UsedAsDir (adds ++ [a]) (clean a.path) := (usedAsDir_of_dirAt hdir).append _
      exact h _ ⟨⟨a, hlast, hadded, rfl⟩, hused⟩

/-- the content of a file is that of its latest addition -/
theorem fileAt_foldl_add (h : t.FileAt k c)
    (hlatest : ∀ path content, .file path content ∈ after → clean path ≠ k) :
    (after.foldl add t).FileAt k c := by
  induction after generalizing t with
  | nil => exact h
  | cons a after ih =>
    refine ih ?_ fun path content hmem => hlatest path content (List.mem_cons_of_mem _ hmem)
    cases a with
    | file path content =>
      have hne := hlatest path content List.mem_cons_self
      exact fileAt_addFile.2 (by rwa [if_neg hne.symm])
    | dir path => exact fileAt_addDir.2 h

/-! ### what is there and what is listed -/

theorem Child.head?_lineage {dir name : String} (h : Child dir name k) :
    (lineage k).head? = some (dir, name) := by
  obtain ⟨rooted, ps, p, hn, rfl, rfl, rfl⟩ := h
  exact Tree.head?_lineage hn

/-- every path but `.` and `/` lies in a directory -/
theorem Built.exists_child (ht : t.Built) (hk : k ∈ t.nodes.keys) (hdot : k ≠ ".")
    (hslash : k ≠ "/") : ∃ dir name, Child dir name k := by
  obtain ⟨rooted, ps, hn, rfl⟩ := ht.tidy.normal k hk
  rcases List.eq_nil_or_concat ps with rfl | ⟨ps, p, rfl⟩
  · rw [key_nil] at hdot hslash
    cases rooted with
    | true => exact absurd rfl hslash
    | false => exact absurd rfl hdot
  · rw [List.concat_eq_append] at hn ⊢
    exact ⟨_, _, rooted, ps, p, hn, rfl, rfl, rfl⟩

theorem ListedBut.listed (h : ListedBut [] t) (ht : t.Built) : t.Listed := by
  intro k hk hdot hslash
  obtain ⟨dir, name, hchild⟩ := ht.exists_child hk hdot hslash
  rw [hchild.head?_lineage]
  exact h k hk List.not_mem_nil dir name hchild

theorem Built.lists_clean_iff (ht : t.Built) (hl : t.Listed) {name : String} :
    t.lists (clean path) name = true ↔ ∃ k ∈ t.nodes.keys, Child (clean path) name k := by
  rw [clean_eq_key, ht.lists_iff hl (normalParts_clean path)]
  constructor
  · rintro ⟨p, rfl, hn, hk⟩
    exact ⟨_, hk, _, _, p, hn, rfl, rfl, rfl⟩
  · rintro ⟨k, hk, rooted, ps, p, hn, hdir, rfl, rfl⟩
    obtain ⟨rfl, rfl⟩ := key_injective (normalParts_clean path) hn.of_append hdir
    exact ⟨p, rfl, hn, hk⟩

theorem eq_of_join_eq {base p q : List Char} (hp : '/' ∉ p) (hq : '/' ∉ q)
    (h : join base p = join base q) : p = q := by
  unfold join at h
  rw [isRooted_of_not_mem hp, isRooted_of_not_mem hq] at h
  simp only [Bool.false_eq_true, if_false] at h
  split at h
  · exact List.append_cancel_left h
  · exact List.tail_eq_of_cons_eq (List.append_cancel_left h)

/-- what a directory lists is ascending by name and lists nothing twice -/
theorem Built.exists_names (ht : t.Built) (hl : t.Listed) (hdir : t.isDir path = true) :
    ∃ names : List String, names.Pairwise (· < ·) ∧
      (∀ name, name ∈ names ↔ ∃ k ∈ t.nodes.keys, Child (clean path) name k) ∧
      t.list path = .ok (names.map fun name => String.ofList (join path.toList name.toList)) ∧
      (names.map fun name => String.ofList (join path.toList name.toList)).Nodup := by
  obtain ⟨children, hget⟩ := isDir_iff.1 hdir
  have hmem : ∀ name, name ∈ children.keys ↔ ∃ k ∈ t.nodes.keys, Child (clean path) name k :=
    fun name => by rw [← lists_of_get? hget, ht.lists_clean_iff hl]
  have hslash : ∀ name ∈ children.keys, '/' ∉ name.toList := by
    intro name hname
    obtain ⟨_, _, rooted, ps, p, hn, _, rfl, _⟩ := (hmem name).1 hname
    rw [String.toList_ofList]
    exact (hn.of_mem (List.mem_append_right _ List.mem_cons_self)).2.2
  refine ⟨children.keys, children.keys_ascending, hmem, list_of_get? hget, ?_⟩
  refine children.keys_nodup.map_on fun m hm n hn he => String.toList_inj.1 ?_
  exact eq_of_join_eq (hslash m hm) (hslash n hn) (String.ofList_injective he)

/-- **Consistent additions build a tree.**  Every path but `.` and `/` is listed in its directory,
a directory lists exactly the paths that lie in it, ascending by name, a file holds what was added
last under any spelling of its path, and an addition leaves all other files and every path. -/
theorem build_is_tree (adds : List Addition) (h : Consistent adds) :
    (∀ k ∈ (build adds).nodes.keys, k ≠ "." → k ≠ "/" → ∃ dir name, Child dir name k ∧
      (build adds).isDir dir = true ∧ (build adds).lists dir name = true) ∧
    (∀ path, (build adds).isDir path = true → ∃ names : List String, names.Pairwise (· < ·) ∧
      (∀ name, name ∈ names ↔ ∃ k ∈ (build adds).nodes.keys, Child (clean path) name k) ∧
      (build adds).list path =
        .ok (names.map fun name => String.ofList (join path.toList name.toList)) ∧
      (names.map fun name => String.ofList (join path.toList name.toList)).Nodup) ∧
    (∀ before path content after, adds = before ++ .file path content :: after →
      (∀ path' content', .file path' content' ∈ after → clean path' ≠ clean path) →
      ∀ spelling, clean spelling = clean path → (build adds).read spelling = .ok content) ∧
    (∀ before a after, adds = before ++ a :: after →
      (∀ k ∈ (build before).nodes.keys, k ∈ (build (before ++ [a])).nodes.keys) ∧
      ∀ path content, clean path ≠ clean a.path →
        ((build (before ++ [a])).read path = .ok content ↔
          (build before).read path = .ok content)) := by
  have hbuilt := built_build adds
  have hlisted := listed_build h
  refine ⟨fun k hk hdot hslash => ?_, fun path => hbuilt.exists_names (hlisted.listed hbuilt),
    fun before path content after hadds hlatest spelling hspelling => ?_,
    fun before a after _ => ⟨fun k hk => ?_, fun path content hne => ?_⟩⟩
  · obtain ⟨dir, name, hchild⟩ := hbuilt.exists_child hk hdot hslash
    have hlists := hlisted k hk List.not_mem_nil dir name hchild
    exact ⟨dir, name, hchild, isDir_iff.2 (hchild.clean_dir.symm ▸ dirAt_of_lists hlists), hlists⟩
  · have hadded : ((build before).addFile path content).FileAt (clean path) content :=
      fileAt_addFile.2 (by rw [if_pos rfl])
    rw [read_eq_ok_iff, hspelling, hadds, build_append_cons]
    exact fileAt_foldl_add hadded hlatest
  · rw [build_concat]
    exact mem_keys_add hk
  · rw [build_concat, read_eq_ok_iff, read_eq_ok_iff, fileAt_add hne]

end

/-! ### consistency can be checked -/

instance (adds : List Addition) (path : String) : Decidable (UsedAsDir adds (clean path)) :=
  inferInstanceAs (Decidable (clean path = "." ∨ clean path = "/" ∨
    (∃ a ∈ adds, a.isFile = false ∧ clean a.path = clean path) ∨
      ∃ a ∈ adds, Above (clean path) (clean a.path)))

theorem consistent_iff {adds : List Addition} : Consistent adds ↔
    ∀ a ∈ adds, a.isFile = true → ¬UsedAsDir adds (clean a.path) := by
  constructor
  · exact fun h a ha hfile hdir => h _ ⟨⟨a, ha, hfile, rfl⟩, hdir⟩
  · rintro h k ⟨⟨a, ha, hfile, rfl⟩, hdir⟩
    exact h a ha hfile hdir

instance (adds : List Addition) : Decidable (Consistent adds) :=
  decidable_of_iff _ consistent_iff.symm

/-- rooted and relative paths, one of them above the working directory, and two spellings of one
file -/
def shelf : List Addition := [.file "/log" [1], .dir "../old/./x", .file "s/t/u.c" [],
  .file "./s/../s//t/u.c" [7], .dir "s/", .file "s/a" []]

/-- the last content counts, the directories are there, and they list what lies in them -/
theorem shelf_build : Consistent shelf ∧ (build shelf).read "s/t/./u.c" = .ok [7] ∧
    (∃ dir name, Child dir name "../old/x" ∧ (build shelf).isDir dir = true ∧
      (build shelf).lists dir name = true) ∧
    ∃ names : List String, names.Pairwise (· < ·) ∧ (build shelf).list "./s" =
      .ok (names.map fun name => String.ofList (join "./s".toList name.toList)) := by
  have hconsistent : Consistent shelf := by decide
  obtain ⟨hparents, hlistings, hcontents, _⟩ := build_is_tree shelf hconsistent
  refine ⟨hconsistent, ?_, hparents "../old/x" (by decide) (by decide) (by decide), ?_⟩
  · refine hcontents [.file "/log" [1], .dir "../old/./x", .file "s/t/u.c" []] "./s/../s//t/u.c"
      [7] [.dir "s/", .file "s/a" []] rfl ?_ "s/t/./u.c" (by decide)
    intro path' content' hmem
    obtain ⟨rfl, _⟩ : path' = "s/a" ∧ content' = [] := by simpa using hmem
    decide
  · obtain ⟨names, hascending, _, hlist, _⟩ := hlistings "./s" (by decide)
    exact ⟨names, hascending, hlist⟩

end PatternBuild.Tree
