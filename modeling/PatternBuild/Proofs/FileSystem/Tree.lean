import PatternBuild.FileSystem.Tree
import PatternBuild.Proofs.Path.Normal
import PatternBuild.Proofs.Table

/-!
# Trees that adding builds

A tree is `Built` when it comes from adding files and directories to an empty one.  Its paths are
normal then, and what a directory lists is there (`Built.tidy`).  The converse need not hold: a
file put in the place of a directory hides what lay below.  In a `Listed` tree every path is
listed where it lies, so all directories above a path are there (`Listed.dir_of_mem`).
-/

namespace PatternBuild.Tree

open Path

/-- what adding files and directories to an empty tree yields -/
inductive Built : Tree → Prop
  | empty : Built Tree.empty
  | addFile {t : Tree} (path : String) (content : Text.Bytes) :
      Built t → Built (t.addFile path content)
  | addDir {t : Tree} (path : String) : Built t → Built (t.addDir path)

/-- whether a directory lists a name -/
def lists (t : Tree) (dir name : String) : Bool :=
  match t.nodes.get? dir with
  | some (.dir children) => children.contains name
  | _ => false

/-- every path but `.` and `/` is listed in its directory -/
def Listed (t : Tree) : Prop :=
  ∀ k ∈ t.nodes.keys, k ≠ "." → k ≠ "/" →
    (lineage k).head?.any (fun at? => t.lists at?.1 at?.2) = true

instance (t : Tree) : Decidable t.Listed :=
  inferInstanceAs (Decidable (∀ k ∈ t.nodes.keys, k ≠ "." → k ≠ "/" →
    (lineage k).head?.any (fun at? => t.lists at?.1 at?.2) = true))

variable {t : Tree} {k dir name : String}

/-- a directory lists its children -/
theorem lists_of_get? {children : Table String Unit}
    (h : t.nodes.get? dir = some (.dir children)) :
    t.lists dir name = true ↔ name ∈ children.keys := by
  unfold lists
  rw [h]
  exact Table.contains_iff

theorem list_of_get? {path : String} {children : Table String Unit}
    (h : t.get? path = some (.dir children)) : t.list path =
      .ok (children.keys.map fun name => String.ofList (join path.toList name.toList)) := by
  unfold list
  rw [h]

theorem lists_iff : t.lists dir name = true ↔
    ∃ children, t.nodes.get? dir = some (.dir children) ∧ name ∈ children.keys := by
  constructor
  · intro hl
    unfold lists at hl
    split at hl
    · rename_i children h
      exact ⟨children, h, Table.contains_iff.1 hl⟩
    · cases hl
  · rintro ⟨children, h, hn⟩
    exact (lists_of_get? h).2 hn

theorem isDir_iff {path : String} :
    t.isDir path = true ↔ ∃ children, t.nodes.get? (clean path) = some (.dir children) := by
  unfold isDir get?
  split
  · rename_i children h
    exact ⟨fun _ => ⟨children, h⟩, fun _ => rfl⟩
  · rename_i h
    constructor
    · intro h'
      cases h'
    · rintro ⟨children, h'⟩
      exact absurd h' (h children)

/-! ## what adding keeps -/

theorem mem_keys_set {n : Node} {j : String} :
    j ∈ (t.set k n).nodes.keys ↔ j = k ∨ j ∈ t.nodes.keys := Table.mem_keys_insert

/-- listing a name adds no path -/
theorem mem_keys_addChild : k ∈ (t.addChild dir name).nodes.keys ↔ k ∈ t.nodes.keys := by
  unfold addChild
  split
  · rename_i children h
    rw [mem_keys_set]
    constructor
    · rintro (rfl | hk)
      · exact Table.mem_keys.2 ⟨_, h⟩
      · exact hk
    · exact .inr
  · exact Iff.rfl

/-- linking takes no path away -/
theorem mem_keys_link {l : List (String × String)} (h : k ∈ t.nodes.keys) :
    k ∈ (t.link l).nodes.keys := by
  induction l generalizing t with
  | nil => exact h
  | cons e l ih =>
    show k ∈ ((if t.nodes.contains e.1 then t else
      (t.set e.1 emptyDir).link l).addChild e.1 e.2).nodes.keys
    rw [mem_keys_addChild]
    split
    · exact h
    · exact ih (mem_keys_set.2 (.inr h))

/-! ## what is listed is there -/

/-- paths are normal, and what a directory lists satisfies `P` -/
structure TidyTo (P : String → Prop) (t : Tree) : Prop where
  normal : ∀ k ∈ t.nodes.keys, ∃ rooted ps, NormalParts rooted ps ∧ k = key rooted ps
  listed : ∀ dir name, t.lists dir name = true → ∃ rooted ps p, NormalParts rooted (ps ++ [p]) ∧
    dir = key rooted ps ∧ name = String.ofList p ∧ P (key rooted (ps ++ [p]))

/-- paths are normal, and what a directory lists is there -/
def Tidy (t : Tree) : Prop := TidyTo (· ∈ t.nodes.keys) t

namespace TidyTo

variable {P Q : String → Prop}

theorem mono (h : TidyTo P t) (hPQ : ∀ k, P k → Q k) : TidyTo Q t := by
  refine ⟨h.normal, fun dir name hl => ?_⟩
  obtain ⟨rooted, ps, p, hn, hd, hname, hp⟩ := h.listed dir name hl
  exact ⟨rooted, ps, p, hn, hd, hname, hPQ _ hp⟩

/-- something new that lists nothing -/
theorem set {rooted : Bool} {ps : List Part} {n : Node} (h : TidyTo P t)
    (hps : NormalParts rooted ps) (hn : ∀ children, n = .dir children → children.keys = []) :
    TidyTo P (t.set (key rooted ps) n) := by
  refine ⟨fun k hk => ?_, fun dir name hl => ?_⟩
  · rcases mem_keys_set.1 hk with rfl | hk
    · exact ⟨rooted, ps, hps, rfl⟩
    · exact h.normal k hk
  · obtain ⟨children, hd, hc⟩ := lists_iff.1 hl
    have hget : (t.nodes.insert (key rooted ps) n).get? dir = some (.dir children) := hd
    rw [Table.get?_insert] at hget
    split at hget
    · rw [hn children (Option.some.inj hget)] at hc
      exact absurd hc List.not_mem_nil
    · exact h.listed dir name (lists_iff.2 ⟨children, hget, hc⟩)

theorem addChild {rooted : Bool} {ps : List Part} {p : Part} (h : TidyTo P t)
    (hps : NormalParts rooted (ps ++ [p])) (hP : P (key rooted (ps ++ [p]))) :
    TidyTo P (t.addChild (key rooted ps) (String.ofList p)) := by
  refine ⟨fun k hk => h.normal k (mem_keys_addChild.1 hk), fun dir name hl => ?_⟩
  unfold Tree.addChild at hl
  split at hl
  · rename_i children hd
    obtain ⟨children', hd', hc⟩ := lists_iff.1 hl
    have hget : (t.nodes.insert (key rooted ps)
      (.dir (children.insert (String.ofList p) ()))).get? dir = some (.dir children') := hd'
    rw [Table.get?_insert] at hget
    split at hget
    · rename_i hdir
      obtain rfl : children.insert (String.ofList p) () = children' :=
        Node.dir.inj (Option.some.inj hget)
      rcases Table.mem_keys_insert.1 hc with rfl | hc
      · exact ⟨rooted, ps, p, hps, hdir, rfl, hP⟩
      · exact h.listed dir name (lists_iff.2 ⟨children, hdir ▸ hd, hc⟩)
    · exact h.listed dir name (lists_iff.2 ⟨children', hget, hc⟩)
  · exact h.listed dir name hl

/-- linking lists the path itself and the directories that it adds -/
theorem link {rooted : Bool} {above : List Part} (h : TidyTo P t)
    (hn : NormalParts rooted above.reverse) (hkey : P (key rooted above.reverse))
    (hP : ∀ k ∈ (t.link (lineageOf rooted above)).nodes.keys, P k) :
    TidyTo P (t.link (lineageOf rooted above)) := by
  induction above generalizing t with
  | nil => exact h
  | cons p above ih =>
    rw [List.reverse_cons] at hn hkey
    have hlink : ∀ s : Tree, TidyTo P s →
        TidyTo P (s.addChild (key rooted above.reverse) (String.ofList p)) :=
      fun s hs => hs.addChild hn hkey
    show TidyTo P ((if t.nodes.contains (key rooted above.reverse) then t else
      (t.set (key rooted above.reverse) emptyDir).link (lineageOf rooted above)).addChild
        (key rooted above.reverse) (String.ofList p))
    have hP' : ∀ k ∈ ((if t.nodes.contains (key rooted above.reverse) then t else
      (t.set (key rooted above.reverse) emptyDir).link (lineageOf rooted above))).nodes.keys,
        P k := fun k hk => hP k (mem_keys_addChild.2 hk)
    refine hlink _ ?_
    split at hP'
    · rename_i hc
      rw [if_pos hc]
      exact h
    · rename_i hc
      rw [if_neg hc]
      have hdir : P (key rooted above.reverse) :=
        hP' _ (mem_keys_link (mem_keys_set.2 (.inl rfl)))
      refine ih (h.set hn.of_append fun children he => ?_) hn.of_append hdir hP'
      cases he
      rfl

end TidyTo

/-- the lineage of a path is linked as soon as the path and what is linked satisfy `P` -/
theorem TidyTo.link_lineage {P : String → Prop} {path : String} (h : TidyTo P t)
    (hkey : P (clean path)) (hP : ∀ k ∈ (t.link (lineage path)).nodes.keys, P k) :
    TidyTo P (t.link (lineage path)) := by
  have hn := normalParts_clean path
  rw [clean_eq_key] at hkey
  rw [← List.reverse_reverse (resolve _ _)] at hn hkey
  exact TidyTo.link h hn hkey hP

/-- in a tree that adding builds, what a directory lists is there -/
theorem Built.tidy (h : t.Built) : t.Tidy := by
  induction h with
  | empty =>
    have hnone : TidyTo (· ∈ Tree.empty.nodes.keys) ⟨Table.empty⟩ :=
      ⟨fun _ hk => absurd hk List.not_mem_nil, fun _ _ hl => by cases hl⟩
    show TidyTo (· ∈ Tree.empty.nodes.keys) ((⟨Table.empty⟩ : Tree).set (key false []) emptyDir)
    refine hnone.set normalParts_nil fun children he => ?_
    cases he
    rfl
  | @addFile t path content _ ih =>
    have hlink : ∀ k ∈ (t.link (lineage path)).nodes.keys, k ∈ (t.addFile path content).nodes.keys :=
      fun k hk => mem_keys_set.2 (.inr hk)
    have hkey : clean path ∈ (t.addFile path content).nodes.keys := mem_keys_set.2 (.inl rfl)
    have htidy : TidyTo (· ∈ (t.addFile path content).nodes.keys) t :=
      ih.mono fun k hk => hlink k (mem_keys_link hk)
    exact (htidy.link_lineage hkey hlink).set (normalParts_clean path) fun children he => by cases he
  | @addDir t path _ ih =>
    show TidyTo (· ∈ (t.addDir path).nodes.keys) (t.addDir path)
    unfold Tree.addDir
    split
    · exact ih
    · have hset : ∀ k ∈ (t.set (clean path) emptyDir).nodes.keys,
          k ∈ ((t.set (clean path) emptyDir).link (lineage path)).nodes.keys :=
        fun k hk => mem_keys_link hk
      have htidy := (ih.mono fun k hk => hset k (mem_keys_set.2 (.inr hk))).set
        (n := emptyDir) (normalParts_clean path) fun children he => by
          cases he
          rfl
      exact htidy.link_lineage (hset _ (mem_keys_set.2 (.inl rfl))) fun k hk => hk

/-! ## trees whose paths are listed -/

section
variable {rooted : Bool} {ps qs : List Part} {p : Part}

/-- where a path is listed -/
theorem head?_lineage (h : NormalParts rooted (ps ++ [p])) :
    (lineage (key rooted (ps ++ [p]))).head? = some (key rooted ps, String.ofList p) := by
  unfold lineage
  rw [toList_key, isRooted_render h]
  show (lineageOf rooted (resolve rooted _).reverse).head? = _
  rw [resolve_parts_render h, List.reverse_append]
  show some (String.ofList (render rooted ps.reverse.reverse), String.ofList p) = _
  rw [List.reverse_reverse]
  rfl

/-- only `.` and `/` have no parts -/
theorem key_ne (h : NormalParts rooted ps) (hne : ps ≠ []) : key rooted ps ≠ "." ∧
    key rooted ps ≠ "/" :=
  ⟨fun he => hne (key_injective h normalParts_nil (he.trans (key_nil false).symm)).2,
    fun he => hne (key_injective h normalParts_nil (he.trans (key_nil true).symm)).2⟩

theorem Listed.lists (hl : t.Listed) (h : NormalParts rooted (ps ++ [p]))
    (hk : key rooted (ps ++ [p]) ∈ t.nodes.keys) :
    t.lists (key rooted ps) (String.ofList p) = true := by
  obtain ⟨hdot, hslash⟩ := key_ne h (by simp)
  have hat := hl _ hk hdot hslash
  rwa [head?_lineage h] at hat

/-- in a listed tree there are directories above every path -/
theorem Listed.dir_of_mem (hl : t.Listed) (h : NormalParts rooted (ps ++ qs))
    (hk : key rooted (ps ++ qs) ∈ t.nodes.keys) (hq : qs ≠ []) :
    ∃ children, t.nodes.get? (key rooted ps) = some (.dir children) := by
  induction qs using List.reverseRecOn with
  | nil => exact absurd rfl hq
  | append_singleton qs q ih =>
    rw [← List.append_assoc] at h hk
    obtain ⟨children, hget, _⟩ := lists_iff.1 (hl.lists h hk)
    by_cases hqs : qs = []
    · rw [hqs, List.append_nil] at hget
      exact ⟨children, hget⟩
    · exact ih h.of_append (Table.mem_keys.2 ⟨_, hget⟩) hqs

/-- in a built tree whose paths are listed, directories list exactly what is there -/
theorem Built.lists_iff (ht : t.Built) (hl : t.Listed) (hn : NormalParts rooted ps) :
    t.lists (key rooted ps) name = true ↔ ∃ p, name = String.ofList p ∧
      NormalParts rooted (ps ++ [p]) ∧ key rooted (ps ++ [p]) ∈ t.nodes.keys := by
  constructor
  · intro h
    obtain ⟨rooted', ps', p, hn', hdir, rfl, hk⟩ := ht.tidy.listed _ _ h
    obtain ⟨rfl, rfl⟩ := key_injective hn hn'.of_append hdir
    exact ⟨p, rfl, hn', hk⟩
  · rintro ⟨p, rfl, hn', hk⟩
    exact hl.lists hn' hk

end

end PatternBuild.Tree
