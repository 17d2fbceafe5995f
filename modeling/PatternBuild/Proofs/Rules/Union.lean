import PatternBuild.Proofs.Rules.Blocks
import PatternBuild.Proofs.Rules.Declarations

/-!
# A rule file is the union of its blocks

Reading a file succeeds exactly when its significant lines are a row of blocks, each of them can be
read as a file of its own, and no two of them declare templates of one name.  The program then
holds what the blocks declare, in order, and nothing else (`parse_is_union`).
-/

namespace PatternBuild.Program

open Text

variable {text : String} {p q : Program} {b : BlockLines} {bs : List BlockLines}
  {ds : List Declaration}

/-! ## rows of blocks -/

/-- the significant lines of a text are those of the blocks, in order -/
def IsRow (text : String) (bs : List BlockLines) : Prop :=
  significantLines text.toList = bs.flatMap (·.lines)

theorem IsRow.isLineText (h : IsRow text bs) (hb : b ∈ bs) {l : Line} (hl : l ∈ b.lines) :
    IsLineText l.text :=
  (mem_significantLines (h ▸ List.mem_flatMap.2 ⟨b, hb, hl⟩)).2.2

/-- without a fault in the cutting, the blocks decide -/
theorem parse_of_readBlocks {blocks : List Block}
    (h : readBlocks (significantLines text.toList) = (blocks, none)) :
    parse text = empty.addBlocks blocks := by
  unfold parse
  rw [h]
  exact bind_pure _

/-- a row of blocks is read block by block -/
theorem IsRow.parse_eq (h : IsRow text bs) : parse text = empty.addBlocks (bs.map (·.read)) :=
  parse_of_readBlocks (by rw [h, readBlocks_flatMap])

theorem exists_isRow (h : parse text = .ok p) : ∃ bs, IsRow text bs := by
  refine exists_blocks ?_
  unfold parse at h
  cases hread : readBlocks (significantLines text.toList) with
  | mk blocks fault =>
  rw [hread] at h
  cases fault with
  | none => rfl
  | some f =>
    dsimp only at h
    cases hb : empty.addBlocks blocks with
    | ok p =>
      rw [hb] at h
      cases h
    | error e =>
      rw [hb] at h
      cases h

/-- a program holds what the blocks of its file declare, which have different names -/
theorem exists_declarations (h : parse text = .ok p) : ∃ ds,
    List.Forall₂ (fun b d => b.declaration = .ok d) (readBlocks (significantLines text.toList)).1 ds ∧
      empty.NewNames ds ∧ ds.foldl declare empty = p := by
  obtain ⟨bs, hrow⟩ := exists_isRow h
  rw [hrow, readBlocks_flatMap]
  exact addBlocks_eq_ok_iff.1 (hrow.parse_eq ▸ h)

/-! ## blocks by themselves -/

/-- the name of the template that a block declares, if it declares one -/
def templateName? (b : BlockLines) : Option String :=
  b.read.declaration.toOption.bind Declaration.name?

/-- a block taken as a file of its own declares what it declares, but on line 1 -/
theorem parse_file (h : ∀ l ∈ b.lines, IsLineText l.text) : parse b.file = .ok q ↔
    ∃ d, b.read.declaration = .ok d ∧ empty.declare (d.atLine 1) = q := by
  have hread : (b.readAt 1).declaration = b.read.declaration.map (·.atLine 1) :=
    Block.declaration_atLine b.read 1
  have hparse : parse b.file = empty.addBlock (b.readAt 1) :=
    (parse_of_readBlocks (readBlocks_file h)).trans (bind_pure _)
  rw [hparse, addBlock_eq_ok_iff, hread]
  constructor
  · rintro ⟨d', hd', _, hq⟩
    cases hd : b.read.declaration with
    | error e =>
      rw [hd] at hd'
      cases hd'
    | ok d =>
      rw [hd] at hd'
      cases hd'
      exact ⟨d, rfl, hq⟩
  · rintro ⟨d, hd, hq⟩
    rw [hd]
    exact ⟨_, rfl, fun _ _ => List.not_mem_nil, hq⟩

theorem mem_templateNames_of_parse_file (h : ∀ l ∈ b.lines, IsLineText l.text)
    (hq : parse b.file = .ok q) {name : String} :
    name ∈ q.templateNames ↔ templateName? b = some name := by
  obtain ⟨d, hd, rfl⟩ := (parse_file h).1 hq
  rw [mem_templateNames_declare, Declaration.name?_atLine, templateName?, hd]
  simp [Except.toOption, templateNames, empty, Table.keys, Table.empty]

/-- two blocks that, taken as files of their own, declare no template of one name -/
def Apart (a b : BlockLines) : Prop :=
  ∀ q r, parse a.file = .ok q → parse b.file = .ok r → ∀ name ∈ q.templateNames,
    name ∉ r.templateNames

theorem apart_iff {a : BlockLines} (ha : ∀ l ∈ a.lines, IsLineText l.text)
    (hb : ∀ l ∈ b.lines, IsLineText l.text) (hq : ∃ q, parse a.file = .ok q)
    (hr : ∃ r, parse b.file = .ok r) : Apart a b ↔
      ∀ n, templateName? a = some n → ∀ m, templateName? b = some m → n ≠ m := by
  constructor
  · rintro h n hn m hm rfl
    obtain ⟨q, hq⟩ := hq
    obtain ⟨r, hr⟩ := hr
    exact h q r hq hr n ((mem_templateNames_of_parse_file ha hq).2 hn)
      ((mem_templateNames_of_parse_file hb hr).2 hm)
  · intro h q r hq hr n hn hm
    exact h n ((mem_templateNames_of_parse_file ha hq).1 hn) n
      ((mem_templateNames_of_parse_file hb hr).1 hm) rfl

/-- what blocks declare has different names when the blocks are apart -/
theorem newNames_iff (h : ∀ b ∈ bs, ∀ l ∈ b.lines, IsLineText l.text)
    (hok : ∀ b ∈ bs, ∃ q, parse b.file = .ok q)
    (hds : List.Forall₂ (fun b d => b.read.declaration = .ok d) bs ds) :
    empty.NewNames ds ↔ bs.Pairwise Apart := by
  have hnames : ds.filterMap Declaration.name? = bs.filterMap templateName? := by
    clear h hok
    induction hds with
    | nil => rfl
    | @cons b d bs ds hd _ ih =>
      have hb : templateName? b = d.name? := by
        rw [templateName?, hd]
        rfl
      rw [List.filterMap_cons, List.filterMap_cons, hb, ih]
  have hempty : empty.NewNames ds ↔ (bs.filterMap templateName?).Nodup := by
    rw [NewNames, hnames]
    exact and_iff_left fun _ _ => List.not_mem_nil
  rw [hempty, List.Nodup, List.pairwise_filterMap]
  exact List.Pairwise.iff_of_mem fun ha hb =>
    (apart_iff (h _ ha) (h _ hb) (hok _ ha) (hok _ hb)).symm

theorem exists_declarations_iff (h : ∀ b ∈ bs, ∀ l ∈ b.lines, IsLineText l.text) :
    (∃ ds, List.Forall₂ (fun b d => b.read.declaration = .ok d) bs ds) ↔
      ∀ b ∈ bs, ∃ q, parse b.file = .ok q := by
  induction bs with
  | nil => exact ⟨fun _ _ hb => absurd hb List.not_mem_nil, fun _ => ⟨[], .nil⟩⟩
  | cons b bs ih =>
    obtain ⟨hb, hbs⟩ := List.forall_mem_cons.1 h
    rw [List.forall_mem_cons, ← ih hbs]
    constructor
    · rintro ⟨_, hds⟩
      cases hds with
      | cons hd hds => exact ⟨⟨_, (parse_file hb).2 ⟨_, hd, rfl⟩⟩, _, hds⟩
    · rintro ⟨⟨q, hq⟩, ds, hds⟩
      obtain ⟨d, hd, _⟩ := (parse_file hb).1 hq
      exact ⟨d :: ds, .cons hd hds⟩

/-! ## the union -/

/-- a row of blocks is a program when each block is one by itself and they are apart -/
theorem IsRow.parse_iff (h : IsRow text bs) : (∃ p, parse text = .ok p) ↔
    (∀ b ∈ bs, ∃ q, parse b.file = .ok q) ∧ bs.Pairwise Apart := by
  have hlines : ∀ b ∈ bs, ∀ l ∈ b.lines, IsLineText l.text := fun b hb l => h.isLineText hb
  simp only [h.parse_eq, addBlocks_eq_ok_iff, List.forall₂_map_left_iff]
  rw [← exists_declarations_iff hlines]
  constructor
  · rintro ⟨p, ds, hds, hnew, _⟩
    have hok := (exists_declarations_iff hlines).1 ⟨ds, hds⟩
    exact ⟨⟨ds, hds⟩, (newNames_iff hlines hok hds).1 hnew⟩
  · rintro ⟨⟨ds, hds⟩, hapart⟩
    have hok := (exists_declarations_iff hlines).1 ⟨ds, hds⟩
    exact ⟨_, ds, hds, (newNames_iff hlines hok hds).2 hapart, rfl⟩

/-- **A rule file is the union of its blocks, in order.**  It can be read if and only if its
significant lines are a row of blocks of which each can be read as a file of its own and no two
declare templates of one name.  However it is cut into such a row, every header stands where its
number says, every block declares what it declares alone, holding all its body lines, and the
steps and the templates of the program are those declared, the steps in order. -/
theorem parse_is_union (text : String) :
    ((∃ p, parse text = .ok p) ↔ ∃ bs, IsRow text bs ∧ (∀ b ∈ bs, ∃ q, parse b.file = .ok q) ∧
      bs.Pairwise Apart) ∧
    ∀ p bs, parse text = .ok p → IsRow text bs →
      (∀ b ∈ bs, 0 < b.opening.number ∧ ∃ raw,
        (lines text.toList)[b.opening.number - 1]? = some raw ∧ b.opening.text = trim raw) ∧
      ∃ ds, List.Forall₂ (fun b d => parse b.file = .ok (empty.declare (d.atLine 1)) ∧
          b.read.HeldBy d) bs ds ∧
        p.steps = ds.filterMap (·.step?) ∧
        ∀ name t, p.template? name = some t ↔ .template name t ∈ ds := by
  refine ⟨⟨?_, ?_⟩, fun p bs hp hrow => ⟨?_, ?_⟩⟩
  · rintro ⟨p, hp⟩
    obtain ⟨bs, hrow⟩ := exists_isRow hp
    exact ⟨bs, hrow, hrow.parse_iff.1 ⟨p, hp⟩⟩
  · rintro ⟨bs, hrow, h⟩
    exact hrow.parse_iff.2 h
  · intro b hb
    have hopen : b.opening ∈ significantLines text.toList :=
      hrow ▸ List.mem_flatMap.2 ⟨b, hb, by simp [BlockLines.lines]⟩
    exact ⟨(mem_significantLines hopen).1, (mem_significantLines hopen).2.1⟩
  · rw [hrow.parse_eq, addBlocks_eq_ok_iff] at hp
    obtain ⟨ds, hds, hnew, rfl⟩ := hp
    rw [List.forall₂_map_left_iff] at hds
    refine ⟨ds, ?_, ?_, fun name t => ?_⟩
    · have hmem : List.Forall₂ (fun b d => b ∈ bs ∧ b.read.declaration = .ok d) bs ds :=
        (List.forall₂_and_left _ _).2 ⟨fun b hb => hb, hds⟩
      refine hmem.imp ?_
      rintro b d ⟨hb, hd⟩
      exact ⟨(parse_file fun l => hrow.isLineText hb).2 ⟨d, hd, rfl⟩,
        Block.heldBy_of_declaration hd⟩
    · rw [steps_foldl_declare]
      rfl
    · rw [template?_foldl_declare hnew]
      exact or_iff_right (by simp [template?, empty])

end PatternBuild.Program
