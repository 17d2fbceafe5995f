import PatternBuild.Proofs.FileSystem.Tree

/-!
# Linking a path into a tree

Linking stops at the first directory that is there already, and from there down it adds directories
and lists what lies in them (`Links`).  While this is under way, the path that is being linked is
not listed yet, and the directory above it may not be either: `ListedBut` leaves such paths out,
and linking takes the one that it starts from off the exceptions (`Links.listed`).

* `Lineage.above_iff`                    a lineage holds the directories above its path;
* `fileAt_addFile`, `fileAt_addDir`      contents after an addition;
* `dirAt_addFile`, `dirAt_addDir`        directories come from what is added and what lies above;
* `ListedBut.addFile`, `ListedBut.addDir`  additions that leave every path listed.
-/

namespace PatternBuild.Tree

open Path

/-! ## directories above a path -/

/-- a path lies in a directory under a name: its last part, with the parts before it above -/
def Child (dir name k : String) : Prop := ∃ rooted ps p, NormalParts rooted (ps ++ [p]) ∧
  dir = key rooted ps ∧ name = String.ofList p ∧ k = key rooted (ps ++ [p])

/-- a proper ancestor of a path -/
def Above (dir k : String) : Prop := ∃ rooted ps qs, NormalParts rooted (ps ++ qs) ∧ qs ≠ [] ∧
  dir = key rooted ps ∧ k = key rooted (ps ++ qs)

section
variable {dir dir' name name' k j : String} {rooted : Bool} {l : List (String × String)}

theorem Child.unique (h : Child dir name k) (h' : Child dir' name' k) :
    dir = dir' ∧ name = name' := by
  obtain ⟨rooted, ps, p, hn, rfl, rfl, rfl⟩ := h
  obtain ⟨rooted', ps', p', hn', rfl, rfl, he⟩ := h'
  obtain ⟨rfl, hparts⟩ := key_injective hn hn' he
  obtain ⟨rfl, hp⟩ := List.append_inj' hparts rfl
  obtain rfl : p = p' := List.head_eq_of_cons_eq hp
  exact ⟨rfl, rfl⟩

theorem Child.ne_root (h : Child dir name k) : k ≠ "." ∧ k ≠ "/" := by
  obtain ⟨rooted, ps, p, hn, _, _, rfl⟩ := h
  exact key_ne hn (by simp)

theorem Child.clean_dir (h : Child dir name k) : clean dir = dir := by
  obtain ⟨rooted, ps, p, hn, rfl, _, _⟩ := h
  exact clean_key hn.of_append

theorem not_child_root : ¬Child dir name (key rooted []) := by
  intro h
  obtain ⟨hdot, hslash⟩ := h.ne_root
  rw [key_nil] at hdot hslash
  cases rooted with
  | true => exact hslash rfl
  | false => exact hdot rfl

theorem not_above_self : ¬Above k k := by
  rintro ⟨rooted, ps, qs, hn, hqs, rfl, he⟩
  obtain ⟨_, hparts⟩ := key_injective hn.of_append hn he
  exact hqs (List.self_eq_append_right.1 hparts)

theorem Child.above_iff (h : Child dir name k) : Above j k ↔ j = dir ∨ Above j dir := by
  obtain ⟨rooted, ps, p, hn, rfl, _, rfl⟩ := h
  constructor
  · rintro ⟨rooted', ps', qs, hn', hqs, rfl, he⟩
    obtain ⟨rfl, hparts⟩ := key_injective hn hn' he
    obtain ⟨qs, q, rfl⟩ := (List.eq_nil_or_concat qs).resolve_left hqs
    rw [List.concat_eq_append, ← List.append_assoc] at hparts
    obtain ⟨rfl, _⟩ := List.append_inj' hparts rfl
    by_cases hqs : qs = []
    · subst hqs
      exact .inl (by rw [List.append_nil])
    · exact .inr ⟨rooted, ps', qs, hn.of_append, hqs, rfl, rfl⟩
  · rintro (rfl | ⟨rooted', ps', qs, hn', _, rfl, he⟩)
    · exact ⟨rooted, ps, [p], hn, by simp, rfl, rfl⟩
    · obtain ⟨rfl, rfl⟩ := key_injective hn.of_append hn' he
      exact ⟨rooted, ps', qs ++ [p], by rwa [← List.append_assoc], by simp, rfl,
        by rw [List.append_assoc]⟩

/-- the directories above a path, from the bottom up, each with the name under which it lists the
one below it -/
inductive Lineage : String → List (String × String) → Prop
  | root (rooted : Bool) : Lineage (key rooted []) []
  | child {dir name k : String} {above : List (String × String)} : Child dir name k →
      Lineage dir above → Lineage k ((dir, name) :: above)

theorem lineage_clean (path : String) : Lineage (clean path) (lineage path) := by
  have hlineage : ∀ (rooted : Bool) (above : List Part), NormalParts rooted above.reverse →
      Lineage (key rooted above.reverse) (lineageOf rooted above) := by
    intro rooted above hn
    induction above with
    | nil => exact .root rooted
    | cons p above ih =>
      rw [List.reverse_cons] at hn ⊢
      exact .child ⟨rooted, above.reverse, p, hn, rfl, rfl, rfl⟩ (ih hn.of_append)
  have hn := normalParts_clean path
  rw [clean_eq_key]
  rw [← List.reverse_reverse (resolve _ _)] at hn ⊢
  exact hlineage _ _ hn

theorem Lineage.above_iff (h : Lineage k l) : Above j k ↔ j ∈ l.map Prod.fst := by
  induction h with
  | root rooted =>
    refine iff_of_false ?_ List.not_mem_nil
    rintro ⟨rooted', ps, qs, hn, hqs, _, he⟩
    obtain ⟨_, hparts⟩ := key_injective normalParts_nil hn he
    exact hqs (List.append_eq_nil_iff.1 hparts.symm).2
  | child hchild _ ih => rw [hchild.above_iff, ih, List.map_cons, List.mem_cons]

instance (dir path : String) : Decidable (Above dir (clean path)) :=
  decidable_of_iff (dir ∈ (lineage path).map Prod.fst) (lineage_clean path).above_iff.symm

end

/-! ## what stands at a path -/

/-- a directory stands at a path -/
def DirAt (t : Tree) (k : String) : Prop := ∃ children, t.nodes.get? k = some (.dir children)

/-- a file with the given content stands at a path -/
def FileAt (t : Tree) (k : String) (content : Text.Bytes) : Prop :=
  t.nodes.get? k = some (.file content)

section
variable {t s : Tree} {dir name k j n path : String} {content c : Text.Bytes}
  {l : List (String × String)} {skip : List String}

theorem dirAt_of_mem_keys (h : k ∈ t.nodes.keys) (hfile : ∀ c, ¬t.FileAt k c) : t.DirAt k := by
  obtain ⟨node, hnode⟩ := Table.mem_keys.1 h
  cases node with
  | file c => exact absurd hnode (hfile c)
  | dir children => exact ⟨children, hnode⟩

theorem dirAt_of_lists (h : t.lists dir name = true) : t.DirAt dir := by
  obtain ⟨children, h, _⟩ := lists_iff.1 h
  exact ⟨children, h⟩

theorem read_eq_ok_iff : t.read path = .ok c ↔ t.FileAt (clean path) c := by
  unfold read FileAt get?
  split
  · rename_i content h
    rw [h]
    simp
  · rename_i children h
    rw [h]
    simp
  · rename_i h
    rw [h]
    simp

/-! ## listing a name -/

/-- a directory that lists one name more; a file is left as it is -/
def listing (name : String) : Node → Node
  | .file content => .file content
  | .dir children => .dir (children.insert name ())

theorem get?_addChild : (t.addChild dir name).nodes.get? k =
    if k = dir then (t.nodes.get? dir).map (listing name) else t.nodes.get? k := by
  unfold addChild
  split
  · rename_i children h
    show (t.nodes.insert dir _).get? k = _
    rw [Table.get?_insert, h]
    rfl
  · rename_i h
    split
    · rename_i hk
      subst hk
      cases hnode : t.nodes.get? k with
      | none => rfl
      | some node =>
        cases node with
        | file content => rfl
        | dir children => exact absurd hnode (h children)
    · rfl

theorem fileAt_addChild : (t.addChild dir name).FileAt k c ↔ t.FileAt k c := by
  unfold FileAt
  rw [get?_addChild]
  split
  · rename_i hk
    subst hk
    rw [Option.map_eq_some_iff]
    constructor
    · rintro ⟨node, hnode, he⟩
      cases node with
      | file content => rw [hnode, ← he, listing]
      | dir children => cases he
    · intro h
      exact ⟨_, h, rfl⟩
  · exact Iff.rfl

theorem dirAt_addChild : (t.addChild dir name).DirAt k ↔ t.DirAt k := by
  unfold DirAt
  rw [get?_addChild]
  split
  · rename_i hk
    subst hk
    constructor
    · rintro ⟨children, h⟩
      obtain ⟨node, hnode, he⟩ := Option.map_eq_some_iff.1 h
      cases node with
      | file content => cases he
      | dir children => exact ⟨children, hnode⟩
    · rintro ⟨children, h⟩
      exact ⟨children.insert name (), Option.map_eq_some_iff.2 ⟨_, h, rfl⟩⟩
  · exact Iff.rfl

theorem lists_addChild (h : t.lists j n = true) : (t.addChild dir name).lists j n = true := by
  obtain ⟨children, hget, hn⟩ := lists_iff.1 h
  rw [lists_iff, get?_addChild]
  split
  · rename_i hj
    subst hj
    rw [hget]
    exact ⟨_, rfl, Table.mem_keys_insert.2 (.inr hn)⟩
  · exact ⟨children, hget, hn⟩

theorem lists_addChild_self (h : t.DirAt dir) : (t.addChild dir name).lists dir name = true := by
  obtain ⟨children, hget⟩ := h
  rw [lists_iff, get?_addChild, if_pos rfl, hget]
  exact ⟨_, rfl, Table.mem_keys_insert.2 (.inl rfl)⟩

/-! ## a new node -/

theorem get?_set {node : Node} :
    (t.set j node).nodes.get? k = if k = j then some node else t.nodes.get? k :=
  Table.get?_insert _ _ _ _

theorem fileAt_set_emptyDir (h : j ∉ t.nodes.keys) :
    (t.set j emptyDir).FileAt k c ↔ t.FileAt k c := by
  unfold FileAt
  rw [get?_set]
  split
  · rename_i hk
    subst hk
    rw [Table.get?_eq_none_iff.2 h]
    simp [emptyDir]
  · exact Iff.rfl

theorem dirAt_set_emptyDir : (t.set j emptyDir).DirAt k ↔ k = j ∨ t.DirAt k := by
  unfold DirAt
  rw [get?_set]
  split
  · rename_i hk
    exact iff_of_true ⟨.empty, rfl⟩ (.inl hk)
  · rename_i hk
    exact (or_iff_right hk).symm

theorem lists_set {node : Node} (h : dir ≠ j) :
    (t.set j node).lists dir name = t.lists dir name := by
  unfold lists
  rw [get?_set, if_neg h]

/-! ## linking -/

/-- Linking stops at the first directory that is there, and adds the ones before it. -/
inductive Links : Tree → List (String × String) → Tree → Prop
  | nil (t : Tree) : Links t [] t
  | there {t : Tree} {dir : String} (name : String) (above : List (String × String)) :
      dir ∈ t.nodes.keys → Links t ((dir, name) :: above) (t.addChild dir name)
  | missing {t s : Tree} {dir : String} (name : String) {above : List (String × String)} :
      dir ∉ t.nodes.keys → Links (t.set dir emptyDir) above s →
      Links t ((dir, name) :: above) (s.addChild dir name)

theorem links_link (t : Tree) (l : List (String × String)) : Links t l (t.link l) := by
  induction l generalizing t with
  | nil => exact .nil t
  | cons at? above ih =>
    obtain ⟨dir, name⟩ := at?
    unfold link
    by_cases h : t.nodes.contains dir = true
    · simp only [if_pos h]
      exact .there name above (Table.contains_iff.1 h)
    · simp only [if_neg h]
      exact .missing name (fun hmem => h (Table.contains_iff.2 hmem)) (ih _)

namespace Links

theorem fileAt_iff (h : Links t l s) : s.FileAt k c ↔ t.FileAt k c := by
  induction h with
  | nil t => exact Iff.rfl
  | there name above _ => exact fileAt_addChild
  | missing name hnot _ ih => rw [fileAt_addChild, ih, fileAt_set_emptyDir hnot]

theorem dirAt (h : Links t l s) (hdir : s.DirAt k) : t.DirAt k ∨ k ∈ l.map Prod.fst := by
  induction h with
  | nil t => exact .inl hdir
  | there name above _ => exact .inl (dirAt_addChild.1 hdir)
  | missing name _ _ ih =>
    rcases ih (dirAt_addChild.1 hdir) with h | h
    · rcases dirAt_set_emptyDir.1 h with rfl | h
      · exact .inr List.mem_cons_self
      · exact .inl h
    · exact .inr (List.mem_cons_of_mem _ h)

theorem dirAt_mono (h : Links t l s) (hdir : t.DirAt k) : s.DirAt k := by
  induction h with
  | nil t => exact hdir
  | there name above _ => exact dirAt_addChild.2 hdir
  | missing name _ _ ih => exact dirAt_addChild.2 (ih (dirAt_set_emptyDir.2 (.inr hdir)))

end Links

/-! ## what is listed in the end -/

/-- every path is listed in its directory, but for some -/
def ListedBut (skip : List String) (t : Tree) : Prop :=
  ∀ k ∈ t.nodes.keys, k ∉ skip → ∀ dir name, Child dir name k → t.lists dir name = true

/-- listing a path in its directory takes it off the exceptions -/
theorem ListedBut.addChild (h : ListedBut (j :: skip) t) (hchild : Child dir name j)
    (hdir : t.DirAt dir) : ListedBut skip (t.addChild dir name) := by
  intro k hk hskip dir' name' hchild'
  by_cases hkj : k = j
  · subst hkj
    obtain ⟨rfl, rfl⟩ := hchild.unique hchild'
    exact lists_addChild_self hdir
  · refine lists_addChild (h k (mem_keys_addChild.1 hk) ?_ dir' name' hchild')
    simp [hkj, hskip]

theorem ListedBut.set_emptyDir (h : ListedBut skip t) (hnot : j ∉ t.nodes.keys) :
    ListedBut (j :: skip) (t.set j emptyDir) := by
  intro k hk hskip dir name hchild
  obtain ⟨hkj, hskip⟩ := not_or.1 (fun hmem => hskip (List.mem_cons.2 hmem))
  have hlists := h k ((mem_keys_set.1 hk).resolve_left hkj) hskip dir name hchild
  have hdir : dir ≠ j := by
    rintro rfl
    obtain ⟨children, hget⟩ := dirAt_of_lists hlists
    exact hnot (Table.mem_keys.2 ⟨_, hget⟩)
  rw [lists_set hdir]
  exact hlists

/-- linking takes the path that it starts from off the exceptions, if no file is in the way -/
theorem Links.listed (h : Links t l s) (hlineage : Lineage j l)
    (hfile : ∀ k, Above k j → ∀ c, ¬t.FileAt k c) (hlisted : ListedBut (j :: skip) t) :
    ListedBut skip s := by
  induction h generalizing j skip with
  | nil t =>
    cases hlineage with
    | root rooted =>
      intro k hk hskip dir name hchild
      have hne : k ≠ key rooted [] := by
        rintro rfl
        exact not_child_root hchild
      exact hlisted k hk (by simp [hne, hskip]) dir name hchild
  | there name above hmem =>
    cases hlineage with
    | child hchild _ =>
      have habove := hchild.above_iff.2 (.inl rfl)
      exact hlisted.addChild hchild (dirAt_of_mem_keys hmem (hfile _ habove))
  | @missing t s dir name above hnot hlinks ih =>
    cases hlineage with
    | child hchild hlineage =>
      -- the new directory is an exception as long as the ones above it are linked
      have hdir : s.DirAt dir := hlinks.dirAt_mono (dirAt_set_emptyDir.2 (.inl rfl))
      refine ListedBut.addChild (ih hlineage (fun k hk c hfileAt => ?_) ?_) hchild hdir
      · exact hfile k (hchild.above_iff.2 (.inr hk)) c ((fileAt_set_emptyDir hnot).1 hfileAt)
      · exact hlisted.set_emptyDir hnot

/-- linking lists the path that it starts from, be it there or not -/
theorem Links.lists_of_child (h : Links t l s) (hlineage : Lineage j l)
    (hfile : ∀ k, Above k j → ∀ c, ¬t.FileAt k c) (hchild : Child dir name j) :
    s.lists dir name = true := by
  cases hlineage with
  | root rooted => exact absurd hchild not_child_root
  | child hchild' _ =>
    obtain ⟨rfl, rfl⟩ := hchild.unique hchild'
    cases h with
    | there _ _ hmem =>
      have habove := hchild.above_iff.2 (.inl rfl)
      exact lists_addChild_self (dirAt_of_mem_keys hmem (hfile _ habove))
    | missing _ _ hlinks =>
      exact lists_addChild_self (hlinks.dirAt_mono (dirAt_set_emptyDir.2 (.inl rfl)))

/-! ## adding a file or a directory -/

theorem fileAt_addFile : (t.addFile path content).FileAt k c ↔
    if k = clean path then c = content else t.FileAt k c := by
  unfold FileAt addFile
  rw [get?_set]
  split
  · rw [Option.some.injEq, Node.file.injEq, eq_comm]
  · exact (links_link t (lineage path)).fileAt_iff

theorem fileAt_addDir : (t.addDir path).FileAt k c ↔ t.FileAt k c := by
  unfold addDir
  split
  · exact Iff.rfl
  · rename_i h
    rw [(links_link _ _).fileAt_iff, fileAt_set_emptyDir]
    exact fun hmem => h (Table.contains_iff.2 hmem)

theorem dirAt_addFile (h : (t.addFile path content).DirAt k) : t.DirAt k ∨ Above k (clean path) := by
  unfold DirAt addFile at h
  rw [get?_set] at h
  split at h
  · obtain ⟨children, h⟩ := h
    cases h
  · rw [(lineage_clean path).above_iff]
    exact (links_link t (lineage path)).dirAt h

theorem dirAt_addDir (h : (t.addDir path).DirAt k) :
    t.DirAt k ∨ k = clean path ∨ Above k (clean path) := by
  unfold addDir at h
  split at h
  · exact .inl h
  · rw [(lineage_clean path).above_iff]
    rcases (links_link _ _).dirAt h with h | h
    · exact (dirAt_set_emptyDir.1 h).elim (fun hk => .inr (.inl hk)) .inl
    · exact .inr (.inr h)

/-- a file is listed if no file is in its way and it does not take the place of a directory -/
theorem ListedBut.addFile (hlisted : ListedBut [] t)
    (hfile : ∀ k, Above k (clean path) → ∀ c, ¬t.FileAt k c) (hdir : ¬t.DirAt (clean path)) :
    ListedBut [] (t.addFile path content) := by
  have hlinks := links_link t (lineage path)
  have hlineage := lineage_clean path
  have hlinked : ListedBut [] (t.link (lineage path)) :=
    hlinks.listed hlineage hfile fun k hk _ => hlisted k hk List.not_mem_nil
  intro k hk hskip dir name hchild
  have hlists : (t.link (lineage path)).lists dir name = true := by
    rcases mem_keys_set.1 hk with rfl | hk
    · exact hlinks.lists_of_child hlineage hfile hchild
    · exact hlinked k hk hskip dir name hchild
  -- putting the file hides a listing only if a directory stood at its path
  have hne : dir ≠ clean path := by
    rintro rfl
    rcases hlinks.dirAt (dirAt_of_lists hlists) with h | h
    · exact hdir h
    · exact not_above_self (hlineage.above_iff.2 h)
  show ((t.link (lineage path)).set (clean path) (.file content)).lists dir name = true
  rw [lists_set hne]
  exact hlists

/-- a directory is listed if no file is in its way -/
theorem ListedBut.addDir (hlisted : ListedBut [] t)
    (hfile : ∀ k, Above k (clean path) → ∀ c, ¬t.FileAt k c) :
    ListedBut [] (t.addDir path) := by
  unfold Tree.addDir
  split
  · exact hlisted
  · rename_i h
    have hnot : clean path ∉ t.nodes.keys := fun hmem => h (Table.contains_iff.2 hmem)
    refine (links_link _ _).listed (lineage_clean path) (fun k hk c hfileAt => ?_)
      (hlisted.set_emptyDir hnot)
    exact hfile k hk c ((fileAt_set_emptyDir hnot).1 hfileAt)

end

end PatternBuild.Tree
