import Mathlib.Data.List.Induction
import PatternBuild.FileSystem.Tree
import PatternBuild.Proofs.Watch.Hashes

/-!
# Which files content hashes let pass

A history is a list of questions whether a path changed, each with the files as they were when it
was asked; in between they may change in any way.  Starting from nothing, the table knows of a path
what the latest question about it found, and nothing else (`get?_asked`).  So exactly those files
count as unchanged that the latest question about them found with the same digest
(`unchanged_iff_latest`).
-/

namespace PatternBuild

open Path

/-! ## histories -/

/-- a question whether a path changed, and the files as they are when it is asked -/
structure Question where
  files : FileSystem
  path : String

/-- two spellings of one path: repeated and trailing slashes and inner `.` do not count -/
def SamePath (a b : String) : Prop := components a.toList = components b.toList

instance (a b : String) : Decidable (SamePath a b) :=
  inferInstanceAs (Decidable (components a.toList = components b.toList))

/-- a path is a file, and its content has the digest -/
def HasDigest (fs : FileSystem) (path digest : String) : Prop :=
  fs.isFile path = true ∧ fileHash fs path = .ok digest

/-- the latest question about a path -/
def LatestQuestion (qs : List Question) (path : String) (q : Question) : Prop :=
  ∃ before after, qs = before ++ q :: after ∧ SamePath q.path path ∧
    ∀ q' ∈ after, ¬SamePath q'.path path

theorem digest?_eq_some_iff {fs : FileSystem} {path digest : String} :
    digest? fs path = some digest ↔ HasDigest fs path digest := by
  unfold digest? HasDigest
  cases fileHash fs path with
  | error f => simp [Except.toOption]
  | ok digest' => simp [Except.toOption]

/-- a file of a tree has the digest of its bytes, and nothing else of a tree has one -/
theorem hasDigest_fileSystem {t : Tree} {path digest : String} :
    HasDigest t.fileSystem path digest ↔
      ∃ content, t.get? path = some (.file content) ∧ Digest.Blake3.hex content = digest := by
  have hfile : t.fileSystem.isFile path = t.isFile path := rfl
  have hread : t.fileSystem.read path = t.read path := rfl
  rw [HasDigest, fileHash, hfile, hread, Tree.isFile, Tree.read]
  rcases t.get? path with _ | content | children <;> simp

/-! ## the latest question -/

section
variable {qs : List Question} {q q' : Question} {path : String}

theorem latestQuestion_snoc : LatestQuestion (qs ++ [q]) path q' ↔
    if SamePath q.path path then q' = q else LatestQuestion qs path q' := by
  constructor
  · rintro ⟨before, after, he, hsame, hother⟩
    rcases List.eq_nil_or_concat after with rfl | ⟨after, last, rfl⟩
    · obtain ⟨_, hlast⟩ := List.append_inj' he rfl
      obtain rfl := List.head_eq_of_cons_eq hlast
      rw [if_pos hsame]
    · rw [List.concat_eq_append, ← List.cons_append, ← List.append_assoc] at he
      obtain ⟨hqs, hlast⟩ := List.append_inj' he rfl
      obtain rfl := List.head_eq_of_cons_eq hlast
      rw [if_neg (hother q (by simp))]
      exact ⟨before, after, hqs, hsame, fun r hr => hother r (by simp [hr])⟩
  · intro h
    split at h
    · rename_i hsame
      subst h
      exact ⟨qs, [], rfl, hsame, List.forall_mem_nil _⟩
    · rename_i hne
      obtain ⟨before, after, rfl, hsame, hother⟩ := h
      refine ⟨before, after ++ [q], by simp, hsame, fun r hr => ?_⟩
      rcases List.mem_append.1 hr with hr | hr
      · exact hother r hr
      · rw [List.mem_singleton.1 hr]
        exact hne

theorem LatestQuestion.unique (h : LatestQuestion qs path q)
    (h' : LatestQuestion qs path q') : q = q' := by
  induction qs using List.reverseRecOn with
  | nil =>
    obtain ⟨before, after, he, _⟩ := h
    exact absurd he.symm (by simp)
  | append_singleton qs last ih =>
    rw [latestQuestion_snoc] at h h'
    split at h
    · rename_i hsame
      rw [if_pos hsame] at h'
      rw [h, h']
    · rename_i hne
      rw [if_neg hne] at h'
      exact ih h h'

end

namespace ContentHashes

/-- the table after some questions, the first of which was asked of an empty one -/
def asked (qs : List Question) : ContentHashes :=
  qs.foldl (fun h q => (h.changed q.files q.path).2) empty

variable {qs : List Question} {q : Question} {fs : FileSystem} {path digest : String}

/-! ## one more question -/

theorem asked_snoc (qs : List Question) (q : Question) :
    asked (qs ++ [q]) = ((asked qs).changed q.files q.path).2 := by
  unfold asked
  rw [List.foldl_append]
  rfl

/-- a question tells about its own path only -/
theorem get?_asked_snoc : (asked (qs ++ [q])).get? path =
    if SamePath q.path path then digest? q.files q.path else (asked qs).get? path := by
  rw [asked_snoc, get?, get?_changed]
  have hsame : plain path = plain q.path ↔ SamePath q.path path := by
    rw [plain_eq_iff]
    exact eq_comm
  simp only [hsame]
  rfl

/-! ## all questions -/

/-- **What the table knows of a path** is what the latest question about it found. -/
theorem get?_asked : (asked qs).get? path = some digest ↔
    ∃ q, LatestQuestion qs path q ∧ HasDigest q.files q.path digest := by
  induction qs using List.reverseRecOn with
  | nil =>
    constructor
    · intro h
      cases h
    · rintro ⟨q, ⟨before, after, he, _⟩, _⟩
      exact absurd he.symm (by simp)
  | append_singleton qs q ih =>
    simp only [get?_asked_snoc, latestQuestion_snoc]
    by_cases hsame : SamePath q.path path
    · simp only [if_pos hsame, exists_eq_left]
      exact digest?_eq_some_iff
    · simp only [if_neg hsame]
      exact ih

/-- questions about other paths might as well not have been asked -/
theorem get?_asked_filter (qs : List Question) (path : String) :
    (asked (qs.filter fun q => SamePath q.path path)).get? path = (asked qs).get? path := by
  induction qs using List.reverseRecOn with
  | nil => rfl
  | append_singleton qs q ih =>
    rw [List.filter_append, get?_asked_snoc]
    by_cases hsame : SamePath q.path path
    · rw [List.filter_cons_of_pos (by simpa using hsame), List.filter_nil, get?_asked_snoc]
      simp only [if_pos hsame]
    · rw [List.filter_cons_of_neg (by simpa using hsame), List.filter_nil, List.append_nil, ih]
      simp only [if_neg hsame]

theorem changed_eq_false_iff {h : ContentHashes} : (h.changed fs path).1 = false ↔
    ∃ digest, HasDigest fs path digest ∧ h.get? path = some digest := by
  rw [← Bool.not_eq_true, changed_eq_true_iff]
  simp only [← digest?_eq_some_iff, not_or, ne_eq, not_not]
  cases digest? fs path with
  | none => simp
  | some digest => simp

/-- **Exactly the unchanged files are let pass.**  After any questions, with the files changing in
any way in between, a path counts as unchanged if and only if it is a file now and the latest
question about it, which there was, found it a file with the same digest.  So it counts as changed
if that question found no file there, and what was asked about other paths makes no difference.  In
a tree, what is a file has a digest, that of its bytes. -/
theorem unchanged_iff_latest (qs : List Question) (fs : FileSystem) (path : String) :
    (((asked qs).changed fs path).1 = false ↔ ∃ digest, HasDigest fs path digest ∧
      ∃ q, LatestQuestion qs path q ∧ HasDigest q.files q.path digest) ∧
    (∀ q, LatestQuestion qs path q → q.files.isFile q.path = false →
      ((asked qs).changed fs path).1 = true) ∧
    ((asked qs).changed fs path).1 =
      ((asked (qs.filter fun q => SamePath q.path path)).changed fs path).1 ∧
    ∀ (t : Tree) (digest : String), HasDigest t.fileSystem path digest ↔
      ∃ content, t.get? path = some (.file content) ∧ Digest.Blake3.hex content = digest := by
  have hiff : ((asked qs).changed fs path).1 = false ↔ ∃ digest, HasDigest fs path digest ∧
      ∃ q, LatestQuestion qs path q ∧ HasDigest q.files q.path digest := by
    rw [changed_eq_false_iff]
    simp only [get?_asked]
  refine ⟨hiff, fun q hq hfile => ?_, changed_congr (get?_asked_filter qs path).symm,
    fun t digest => hasDigest_fileSystem⟩
  rw [← Bool.not_eq_false, hiff]
  rintro ⟨digest, _, q', hq', hdigest⟩
  rw [← hq.unique hq', HasDigest, hfile] at hdigest
  exact Bool.false_ne_true hdigest.1

end ContentHashes

end PatternBuild
