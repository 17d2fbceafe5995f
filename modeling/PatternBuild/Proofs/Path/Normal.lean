import Mathlib.Data.List.Induction
import PatternBuild.Path.Component
import PatternBuild.Proofs.Path.Parts

/-!
# Normal paths

`key rooted ps` is the clean path with the normal parts `ps`.  Every clean path is one
(`clean_eq_key`), a key is clean (`clean_key`), and it has no other parts (`key_injective`).
Appending a part to a directory appends it to the parts of its key (`clean_join`).  What one part
does to those kept before it is said once, by `Keeps`.

`IsNormal` says what a clean path looks like: `.`, `/`, or normal parts joined by single slashes.
Rendering normal parts gives a path of that look and every such path is rendered so
(`isNormal_iff`), hence cleaning yields all of them and changes none (`clean_normal_form`).
-/

namespace PatternBuild.Path

open Text

/-! ## normal parts -/

section
variable {rooted : Bool} {ps : List Part} {p : Part}

theorem normalParts_nil : NormalParts rooted [] :=
  ⟨0, [], rfl, fun _ h => absurd h List.not_mem_nil, fun _ => rfl⟩

/-- a last part may be a name, or `..` in a path that is not rooted and holds nothing else -/
theorem normalParts_snoc : NormalParts rooted (ps ++ [p]) ↔ NormalParts rooted ps ∧
    (IsName p ∨ (p = dotDot ∧ rooted = false ∧ ∀ q ∈ ps, q = dotDot)) := by
  constructor
  · rintro ⟨ups, names, he, hn, hr⟩
    rcases List.eq_nil_or_concat names with rfl | ⟨names', q, rfl⟩
    · rw [List.append_nil] at he
      have hall : ∀ q ∈ ps ++ [p], q = dotDot := fun q hq => List.eq_of_mem_replicate (he ▸ hq)
      have hlen : ps.length + 1 = ups := by
        have h := congrArg List.length he
        simpa using h
      refine ⟨⟨ps.length, [], ?_, fun _ h => absurd h List.not_mem_nil, fun h => ?_⟩, .inr
        ⟨hall p (by simp), ?_, fun q hq => hall q (List.mem_append_left _ hq)⟩⟩
      · rw [List.append_nil]
        exact List.eq_replicate_of_mem fun q hq => hall q (List.mem_append_left _ hq)
      · have := hr h
        omega
      · rw [← Bool.not_eq_true]
        intro h
        have := hr h
        omega
    · rw [List.concat_eq_append, ← List.append_assoc] at he
      obtain ⟨hps, hp⟩ := List.append_inj' he rfl
      have hpq : p = q := List.head_eq_of_cons_eq hp
      refine ⟨⟨ups, names', hps, fun x hx => hn x (by simp [hx]), hr⟩, .inl ?_⟩
      rw [hpq]
      exact hn q (by simp)
  · rintro ⟨⟨ups, names, rfl, hn, hr⟩, hp | ⟨rfl, hroot, hall⟩⟩
    · refine ⟨ups, names ++ [p], by rw [List.append_assoc], fun q hq => ?_, hr⟩
      rcases List.mem_append.1 hq with hq | hq
      · exact hn q hq
      · rw [List.mem_singleton.1 hq]
        exact hp
    · refine ⟨(List.replicate ups dotDot ++ names).length + 1, [], ?_,
        fun _ h => absurd h List.not_mem_nil, fun h => by rw [hroot] at h; cases h⟩
      rw [List.append_nil, List.replicate_succ', ← List.eq_replicate_of_mem hall]

theorem NormalParts.of_append {qs : List Part} (h : NormalParts rooted (ps ++ qs)) :
    NormalParts rooted ps := by
  induction qs using List.reverseRecOn with
  | nil => simpa using h
  | append_singleton qs q ih =>
    rw [← List.append_assoc] at h
    exact ih (normalParts_snoc.1 h).1

/-- a normal part is not empty, is not `.`, and holds no slash -/
theorem NormalParts.of_mem (h : NormalParts rooted ps) {q : Part} (hq : q ∈ ps) :
    q ≠ [] ∧ q ≠ dot ∧ '/' ∉ q := by
  obtain ⟨ups, names, rfl, hn, _⟩ := h
  rcases List.mem_append.1 hq with hq | hq
  · rw [List.eq_of_mem_replicate hq]
    decide
  · obtain ⟨h1, h2, _, h4⟩ := hn q hq
    exact ⟨h1, h2, h4⟩

/-! ## resolving -/

/-- what a part does to the parts kept before it, the last of them first -/
inductive Keeps (rooted : Bool) : List Part → Part → List Part → Prop
  /-- an empty part and `.` are passed over -/
  | void {kept : List Part} {p : Part} (h : p = [] ∨ p = dot) : Keeps rooted kept p kept
  /-- nothing lies above the root -/
  | atRoot (h : rooted = true) : Keeps rooted [] dotDot []
  | above (h : rooted = false) : Keeps rooted [] dotDot [dotDot]
  | further (rest : List Part) : Keeps rooted (dotDot :: rest) dotDot (dotDot :: dotDot :: rest)
  /-- `..` takes a name away -/
  | cancel {q : Part} (rest : List Part) (h : q ≠ dotDot) : Keeps rooted (q :: rest) dotDot rest
  | name {kept : List Part} {p : Part} (hne : p ≠ []) (hdot : p ≠ dot) (hup : p ≠ dotDot) :
      Keeps rooted kept p (p :: kept)

theorem keep_eq_iff {kept kept' : List Part} :
    keep rooted kept p = kept' ↔ Keeps rooted kept p kept' := by
  constructor
  · rintro rfl
    unfold keep
    split
    · rename_i hvoid
      exact .void hvoid
    · rename_i hvoid
      obtain ⟨hne, hdot⟩ := not_or.1 hvoid
      split
      · rename_i hup
        subst hup
        cases kept with
        | nil =>
          cases rooted with
          | true => exact .atRoot rfl
          | false => exact .above rfl
        | cons q rest =>
          by_cases hq : q = dotDot
          · subst hq
            exact .further rest
          · simp only [if_neg hq]
            exact .cancel rest hq
      · rename_i hup
        exact .name hne hdot hup
  · intro h
    cases h with
    | void h => exact if_pos h
    | atRoot h => rw [h]; rfl
    | above h => rw [h]; rfl
    | further rest => rfl
    | cancel rest h => exact if_neg h
    | name hne hdot hup =>
      unfold keep
      rw [if_neg (not_or.2 ⟨hne, hdot⟩), if_neg hup]

theorem keeps_keep (rooted : Bool) (kept : List Part) (p : Part) :
    Keeps rooted kept p (keep rooted kept p) := keep_eq_iff.1 rfl

theorem keep_nil (kept : List Part) : keep rooted kept [] = kept := keep_eq_iff.2 (.void (.inl rfl))

theorem keep_dot (kept : List Part) : keep rooted kept dot = kept := keep_eq_iff.2 (.void (.inr rfl))

theorem keep_name (h : IsName p) (kept : List Part) : keep rooted kept p = p :: kept :=
  keep_eq_iff.2 (.name h.1 h.2.1 h.2.2.1)

/-- a part that makes a normal row longer is kept -/
theorem keep_of_normal (h : NormalParts rooted (ps ++ [p])) :
    keep rooted ps.reverse p = p :: ps.reverse := by
  obtain ⟨hps, hname | ⟨rfl, hroot, hall⟩⟩ := normalParts_snoc.1 h
  · exact keep_name hname _
  · subst hroot
    cases hrev : ps.reverse with
    | nil => rfl
    | cons q rest =>
      have hq : q = dotDot := hall q (List.mem_reverse.1 (hrev ▸ List.mem_cons_self))
      subst hq
      rfl

/-- keeping a part leaves the row normal -/
theorem normalParts_keep {kept : List Part} (h : NormalParts rooted kept.reverse)
    (hp : '/' ∉ p) : NormalParts rooted (keep rooted kept p).reverse := by
  have hkeep := keeps_keep rooted kept p
  generalize keep rooted kept p = kept' at hkeep
  cases hkeep with
  | void _ => exact h
  | atRoot _ => exact h
  | above hroot => exact normalParts_snoc.2 ⟨h, .inr ⟨rfl, hroot, List.forall_mem_nil _⟩⟩
  | further rest =>
    have hlast := h
    rw [List.reverse_cons] at hlast
    rcases (normalParts_snoc.1 hlast).2 with hname | ⟨_, hroot, hall⟩
    · exact absurd rfl hname.2.2.1
    · rw [List.reverse_cons]
      refine normalParts_snoc.2 ⟨h, .inr ⟨rfl, hroot, fun x hx => ?_⟩⟩
      rw [List.reverse_cons, List.mem_append, List.mem_singleton] at hx
      exact hx.elim (hall x) id
  | cancel rest _ =>
    rw [List.reverse_cons] at h
    exact (normalParts_snoc.1 h).1
  | name hne hdot hup =>
    rw [List.reverse_cons]
    exact normalParts_snoc.2 ⟨h, .inl ⟨hne, hdot, hup, hp⟩⟩

theorem normalParts_resolve (h : ∀ q ∈ ps, '/' ∉ q) : NormalParts rooted (resolve rooted ps) := by
  unfold resolve
  induction ps using List.reverseRecOn with
  | nil => exact normalParts_nil
  | append_singleton ps q ih =>
    rw [List.foldl_append]
    exact normalParts_keep (ih fun x hx => h x (List.mem_append_left _ hx)) (h q (by simp))

theorem resolve_cons_nil : resolve rooted ([] :: ps) = resolve rooted ps := by
  unfold resolve
  rw [List.foldl_cons, keep_nil]

/-- normal parts stay as they are -/
theorem resolve_of_normal (h : NormalParts rooted ps) : resolve rooted ps = ps := by
  unfold resolve
  have hrev : ps.foldl (keep rooted) [] = ps.reverse := by
    induction ps using List.reverseRecOn with
    | nil => rfl
    | append_singleton ps q ih =>
      rw [List.foldl_append, ih (normalParts_snoc.1 h).1, List.reverse_append]
      exact keep_of_normal h
  rw [hrev, List.reverse_reverse]

/-! ## keys -/

/-- the clean path with the given normal parts -/
def key (rooted : Bool) (ps : List Part) : String := String.ofList (render rooted ps)

theorem key_nil (rooted : Bool) : key rooted [] = if rooted then "/" else "." := by
  cases rooted <;> rfl

theorem toList_key : (key rooted ps).toList = render rooted ps := by simp [key]

theorem render_of_ne_nil (h : ps ≠ []) : render false ps = joinParts ps := by
  show (if ps.isEmpty then dot else joinParts ps) = joinParts ps
  rw [if_neg (by simpa using h)]

theorem parts_render (h : NormalParts rooted ps) (hne : ps ≠ []) :
    parts (render rooted ps) = if rooted then [] :: ps else ps := by
  have hparts : parts (joinParts ps) = ps := parts_joinParts hne fun q hq => (h.of_mem hq).2.2
  cases rooted with
  | true =>
    show parts ('/' :: joinParts ps) = [] :: ps
    rw [parts_slash, hparts]
  | false =>
    rw [render_of_ne_nil hne, hparts]
    rfl

theorem isRooted_render (h : NormalParts rooted ps) : isRooted (render rooted ps) = rooted := by
  cases rooted with
  | true => rfl
  | false =>
    by_cases hne : ps = []
    · subst hne
      rfl
    · rw [← Bool.not_eq_true, isRooted_iff_parts, parts_render h hne]
      rintro ⟨p, qs, he⟩
      rw [if_neg (by decide)] at he
      exact (h.of_mem (he ▸ List.mem_cons_self)).1 rfl

theorem resolve_parts_render (h : NormalParts rooted ps) :
    resolve rooted (parts (render rooted ps)) = ps := by
  by_cases hne : ps = []
  · subst hne
    cases rooted <;> decide
  · rw [parts_render h hne]
    cases rooted with
    | true => exact resolve_cons_nil.trans (resolve_of_normal h)
    | false => exact resolve_of_normal h

/-- a key has only its own parts -/
theorem key_injective {rooted' : Bool} {qs : List Part} (h : NormalParts rooted ps)
    (h' : NormalParts rooted' qs) (he : key rooted ps = key rooted' qs) :
    rooted = rooted' ∧ ps = qs := by
  have hr : render rooted ps = render rooted' qs := by rw [← toList_key, he, toList_key]
  have hroot : rooted = rooted' := by rw [← isRooted_render h, hr, isRooted_render h']
  subst hroot
  exact ⟨rfl, by rw [← resolve_parts_render h, hr, resolve_parts_render h']⟩

/-- keys that go on from the same parts go on by the same part -/
theorem part_eq_of_key_eq {q : Part} {ns ns' : List Part} (h : NormalParts rooted (ps ++ p :: ns))
    (h' : NormalParts rooted (ps ++ q :: ns'))
    (he : key rooted (ps ++ p :: ns) = key rooted (ps ++ q :: ns')) : p = q :=
  List.head_eq_of_cons_eq (List.append_cancel_left (key_injective h h' he).2)

theorem clean_eq_key (path : String) :
    clean path = key (isRooted path.toList) (resolve (isRooted path.toList) (parts path.toList)) :=
  rfl

/-- the parts of a clean path are normal -/
theorem normalParts_clean (path : String) : NormalParts (isRooted path.toList)
    (resolve (isRooted path.toList) (parts path.toList)) :=
  normalParts_resolve fun _ hq => not_mem_of_mem_parts hq

theorem clean_key (h : NormalParts rooted ps) : clean (key rooted ps) = key rooted ps := by
  rw [clean_eq_key, toList_key, isRooted_render h, resolve_parts_render h]

theorem clean_clean (path : String) : clean (clean path) = clean path := by
  rw [clean_eq_key path]
  exact clean_key (normalParts_clean path)

end

/-! ## joining -/

theorem resolve_append_nil (rooted : Bool) (ps qs : List Part) :
    resolve rooted (ps ++ [[]] ++ qs) = resolve rooted (ps ++ qs) := by
  unfold resolve
  simp only [List.foldl_append, List.foldl_cons, List.foldl_nil, keep_nil]

/-- the parts of a relative path are put after those of a directory, whether its text ends with a
slash or not -/
theorem resolve_parts_join (rooted : Bool) (dir : List Char) {rel : List Char}
    (h : isRooted rel = false) :
    resolve rooted (parts (join dir rel)) = resolve rooted (parts dir ++ parts rel) := by
  unfold join
  rw [if_neg (Bool.eq_false_iff.1 h)]
  split
  · rename_i hd
    rcases hd with rfl | hd
    · exact resolve_cons_nil.symm
    · obtain ⟨front, rfl⟩ := List.getLast?_eq_some_iff.1 hd
      rw [List.append_assoc, List.singleton_append, parts_append, parts_append]
      exact (resolve_append_nil rooted (parts front) (parts rel)).symm
  · rw [parts_append]

theorem isRooted_join (dir : List Char) {rel : List Char} (h : isRooted rel = false) :
    isRooted (join dir rel) = isRooted dir := by
  unfold join
  rw [if_neg (Bool.eq_false_iff.1 h)]
  by_cases hd : dir = []
  · subst hd
    rw [if_pos (.inl rfl)]
    exact h
  · split
    · exact isRooted_append hd rel
    · exact isRooted_append hd _

/-- a part that goes on normally from a directory is put after its parts -/
theorem clean_join {dir : String} {rooted : Bool} {ps : List Part} {p : Part}
    (hd : clean dir = key rooted ps) (h : NormalParts rooted (ps ++ [p])) :
    clean (String.ofList (join dir.toList p)) = key rooted (ps ++ [p]) := by
  have hslash : '/' ∉ p := (h.of_mem (List.mem_append_right _ List.mem_cons_self)).2.2
  have hrel : isRooted p = false := isRooted_of_not_mem hslash
  obtain ⟨hroot, hps⟩ := key_injective (normalParts_clean dir) h.of_append hd
  have hkept : (parts dir.toList).foldl (keep rooted) [] = ps.reverse := by
    rw [← hps, hroot, resolve, List.reverse_reverse]
  have hresolve : resolve rooted (parts dir.toList ++ [p]) = ps ++ [p] := by
    unfold resolve
    rw [List.foldl_append, hkept]
    show (keep rooted ps.reverse p).reverse = ps ++ [p]
    rw [keep_of_normal h, List.reverse_cons, List.reverse_reverse]
  rw [clean_eq_key, String.toList_ofList, isRooted_join _ hrel, hroot, resolve_parts_join _ _ hrel,
    parts_of_not_mem hslash, hresolve]

/-! ## normal form -/

section
variable {rooted : Bool} {ps : List Part} {cs : List Char}

/-- the paths in normal form are those rendered from normal parts -/
theorem isNormal_iff : IsNormal cs ↔ ∃ rooted ps, NormalParts rooted ps ∧ cs = render rooted ps := by
  constructor
  · rintro (rfl | ⟨rooted, ps, h, hne, rfl⟩)
    · exact ⟨false, [], normalParts_nil, rfl⟩
    · refine ⟨rooted, ps, h, ?_⟩
      cases rooted with
      | true => rfl
      | false =>
        have hps : ps ≠ [] := hne.resolve_left Bool.false_ne_true
        rw [render_of_ne_nil hps]
        rfl
  · rintro ⟨rooted, ps, h, rfl⟩
    cases rooted with
    | true => exact .inr ⟨true, ps, h, .inl rfl, rfl⟩
    | false =>
      by_cases hps : ps = []
      · subst hps
        exact .inl rfl
      · exact .inr ⟨false, ps, h, .inr hps, render_of_ne_nil hps⟩

theorem isNormal_clean (path : String) : IsNormal (clean path).toList := by
  rw [clean_eq_key, toList_key]
  exact isNormal_iff.2 ⟨_, _, normalParts_clean path, rfl⟩

theorem isRooted_clean (path : String) :
    isRooted (clean path).toList = isRooted path.toList := by
  rw [clean_eq_key, toList_key]
  exact isRooted_render (normalParts_clean path)

/-- a path in normal form is clean -/
theorem clean_of_isNormal {path : String} (h : IsNormal path.toList) : clean path = path := by
  obtain ⟨rooted, ps, hps, he⟩ := isNormal_iff.1 h
  obtain rfl : path = key rooted ps := by rw [← String.toList_inj, he, toList_key]
  exact clean_key hps

/-- no path is cleaned to nothing: the empty path is not clean -/
theorem clean_ne_empty (path : String) : clean path ≠ "" := by
  intro h
  have hempty : clean "" = "" := by
    rw [← h]
    exact clean_clean path
  exact absurd hempty (by decide)

end

/-- **Cleaning brings every path to normal form, and the normal forms are what it leaves as they
are.**  It keeps a path rooted or not, a second cleaning changes nothing, and every normal form is
the result of a cleaning. -/
theorem clean_normal_form (path : String) :
    IsNormal (clean path).toList ∧ isRooted (clean path).toList = isRooted path.toList ∧
      (clean path = path ↔ IsNormal path.toList) ∧ clean (clean path) = clean path ∧
      ((∃ q, clean q = path) ↔ IsNormal path.toList) := by
  have hfixed : clean path = path ↔ IsNormal path.toList :=
    ⟨fun h => h ▸ isNormal_clean path, clean_of_isNormal⟩
  refine ⟨isNormal_clean path, isRooted_clean path, hfixed, clean_clean path, ?_⟩
  constructor
  · rintro ⟨q, rfl⟩
    exact isNormal_clean q
  · exact fun h => ⟨path, hfixed.2 h⟩

/-- `..` goes up as far as it can, and stays where a path is not rooted -/
example : clean "./a//../../b/." = "../b" ∧ clean "/a/../../b/" = "/b" := by decide

end PatternBuild.Path
