import Mathlib.Data.List.Forall2
import Mathlib.Data.List.Nodup
import PatternBuild.Proofs.Table
import PatternBuild.Rules.Parse

/-!
# What blocks declare

A block declares one thing, which holds all its body lines (`Block.heldBy_of_declaration`), and
where the block stands only shows in the line of a step (`Block.declaration_atLine`).  Adding
blocks succeeds when each declares something and no two declare templates of one name, and then
adds exactly what they declare (`Program.addBlocks_eq_ok_iff`).
-/

namespace PatternBuild

open Text

/-! ## declarations -/

namespace Declaration

def step? : Declaration → Option Step
  | .step s => some s
  | .template _ _ => none

/-- the name of a declared template -/
def name? : Declaration → Option String
  | .step _ => none
  | .template name _ => some name

/-- the same declaration on another line -/
def atLine (n : Nat) : Declaration → Declaration
  | .step s => .step { s with line := n }
  | .template name t => .template name t

theorem name?_atLine (n : Nat) (d : Declaration) : (d.atLine n).name? = d.name? := by
  cases d <;> rfl

end Declaration

/-! ## one block -/

namespace Header

/-- the body and the line of a step do not matter to its header -/
theorem stepOf_eq_map (left right : List Char) (body : List (List Char)) (n : Nat) :
    stepOf left right body n = (stepOf left right [] 0).map fun s =>
      { s with body := String.ofList (body.flatMap (· ++ ['\n'])), line := n } := by
  unfold stepOf
  by_cases harrow : contains arrow right = true
  · simp only [harrow]
    rfl
  · simp only [harrow]
    cases topLevelItems false left with
    | error e => rfl
    | ok items =>
      simp only [bind, Except.bind]
      cases (items.map trim).mapM sourceItem with
      | error e => rfl
      | ok sources =>
        cases ((splitOn (· == ',') right).map trim).mapM destinationItem with
        | error e => rfl
        | ok destinations => rfl

/-- the body of a template does not matter to its header -/
theorem templateOf_eq_map (header : List Char) (body : List (List Char)) :
    templateOf header body = (templateOf header []).map fun (name, t) =>
      (name, { t with destinations := body.map String.ofList }) := by
  unfold templateOf
  by_cases hname : (header.takeWhile isNameChar).isEmpty = true
  · simp only [hname]
    rfl
  · simp only [hname]
    by_cases hrest : (trim (header.dropWhile isNameChar)).isEmpty = true
    · simp only [hrest]
      rfl
    · simp only [hrest]
      cases parenthesised? (trim (header.dropWhile isNameChar)) with
      | none => rfl
      | some inner =>
        dsimp only
        cases hookLists inner with
        | error e => rfl
        | ok hooks => rfl

end Header

namespace Block

variable {b : Block} {d : Declaration}

/-- a declaration holds all of a block: a header with an arrow gives a step on its line, any other
header a template, and every line of the body is kept, in order -/
def HeldBy (b : Block) : Declaration → Prop
  | .step s => contains Header.arrow b.header = true ∧ s.line = b.line ∧
      s.body = String.ofList (b.body.flatMap (· ++ ['\n']))
  | .template _ t => contains Header.arrow b.header = false ∧
      t.destinations = b.body.map String.ofList

theorem heldBy_of_declaration (h : b.declaration = .ok d) : b.HeldBy d := by
  unfold declaration at h
  split at h
  · rename_i left right hcut
    rw [Header.stepOf_eq_map] at h
    cases hs : Header.stepOf left right [] 0 with
    | error e =>
      rw [hs] at h
      cases h
    | ok s =>
      rw [hs] at h
      cases h
      exact ⟨by rw [contains, hcut]; rfl, rfl, rfl⟩
  · rename_i hcut
    rw [Header.templateOf_eq_map] at h
    cases ht : Header.templateOf b.header [] with
    | error e =>
      rw [ht] at h
      cases h
    | ok e =>
      rw [ht] at h
      cases h
      exact ⟨by rw [contains, hcut]; rfl, rfl⟩

/-- where a block stands shows in the line of its step and nowhere else -/
theorem declaration_atLine (b : Block) (n : Nat) :
    { b with line := n }.declaration = b.declaration.map (·.atLine n) := by
  unfold declaration
  dsimp only
  split
  · rename_i left right _
    rw [Header.stepOf_eq_map left right b.body n, Header.stepOf_eq_map left right b.body b.line]
    cases Header.stepOf left right [] 0 <;> rfl
  · cases Header.templateOf b.header b.body <;> rfl

end Block

/-! ## programs -/

namespace Program

variable {p q : Program} {b : Block} {bs : List Block} {ds : List Declaration}

/-- a program with one declaration more -/
def declare (p : Program) : Declaration → Program
  | .step s => { p with steps := p.steps ++ [s] }
  | .template name t => { p with templates := p.templates.insert name t }

/-- no template of the declarations has the name of another one or of a template of the program -/
def NewNames (p : Program) (ds : List Declaration) : Prop :=
  (ds.filterMap Declaration.name?).Nodup ∧
    ∀ name ∈ ds.filterMap Declaration.name?, name ∉ p.templateNames

theorem addBlock_eq_ok_iff : p.addBlock b = .ok q ↔ ∃ d, b.declaration = .ok d ∧
    (∀ name, d.name? = some name → name ∉ p.templateNames) ∧ p.declare d = q := by
  unfold addBlock
  cases b.declaration with
  | error problem => simp
  | ok d =>
    cases d with
    | step s => simp [Declaration.name?, declare]
    | template name t =>
      have hc : p.templates.contains name = true ↔ name ∈ p.templateNames := Table.contains_iff
      by_cases hn : name ∈ p.templateNames
      · simp [hc.2 hn, hn, Declaration.name?]
      · simp [mt hc.1 hn, hn, Declaration.name?, declare]

theorem mem_templateNames_declare {d : Declaration} {name : String} :
    name ∈ (p.declare d).templateNames ↔ d.name? = some name ∨ name ∈ p.templateNames := by
  cases d with
  | step s => simp [Declaration.name?, declare, templateNames]
  | template name' t =>
    have h := Table.mem_keys_insert (t := p.templates) (k := name') (j := name) (v := t)
    simpa [Declaration.name?, declare, templateNames, eq_comm] using h

theorem newNames_cons {d : Declaration} : p.NewNames (d :: ds) ↔
    (∀ name, d.name? = some name → name ∉ p.templateNames) ∧ (p.declare d).NewNames ds := by
  unfold NewNames
  simp only [mem_templateNames_declare]
  cases hd : d.name? with
  | none => simp [List.filterMap_cons_none hd]
  | some name =>
    rw [List.filterMap_cons_some hd, List.nodup_cons, List.forall_mem_cons]
    simp only [Option.some.injEq, forall_eq', not_or]
    constructor
    · rintro ⟨⟨hnew, hnodup⟩, hname, hrest⟩
      exact ⟨hname, hnodup, fun other ho => ⟨fun e => hnew (e ▸ ho), hrest other ho⟩⟩
    · rintro ⟨hname, hnodup, hrest⟩
      exact ⟨⟨fun hm => (hrest name hm).1 rfl, hnodup⟩, hname, fun other ho => (hrest other ho).2⟩

/-- adding blocks is adding what they declare, if the names are all different -/
theorem addBlocks_eq_ok_iff : p.addBlocks bs = .ok q ↔
    ∃ ds, List.Forall₂ (fun b d => b.declaration = .ok d) bs ds ∧ p.NewNames ds ∧
      ds.foldl declare p = q := by
  unfold addBlocks
  induction bs generalizing p with
  | nil =>
    rw [List.foldlM_nil]
    constructor
    · intro h
      exact ⟨[], .nil, ⟨List.nodup_nil, by simp⟩, Except.ok.inj h⟩
    · rintro ⟨ds, hds, _, rfl⟩
      cases hds
      rfl
  | cons b bs ih =>
    rw [List.foldlM_cons]
    constructor
    · intro h
      cases hb : p.addBlock b with
      | error f =>
        rw [hb] at h
        cases h
      | ok p' =>
        rw [hb] at h
        obtain ⟨d, hd, hname, rfl⟩ := addBlock_eq_ok_iff.1 hb
        obtain ⟨ds, hds, hnew, hq⟩ := ih.1 h
        exact ⟨d :: ds, .cons hd hds, newNames_cons.2 ⟨hname, hnew⟩, hq⟩
    · rintro ⟨_, hds, hnew, hq⟩
      cases hds with
      | cons hd hds =>
        obtain ⟨hname, hnew⟩ := newNames_cons.1 hnew
        rw [addBlock_eq_ok_iff.2 ⟨_, hd, hname, rfl⟩]
        exact ih.2 ⟨_, hds, hnew, hq⟩

theorem steps_foldl_declare : (ds.foldl declare p).steps = p.steps ++ ds.filterMap (·.step?) := by
  induction ds generalizing p with
  | nil => simp
  | cons d ds ih =>
    rw [List.foldl_cons, ih]
    cases d <;> simp [declare, Declaration.step?]

theorem template?_declare {d : Declaration} {name : String} {t : Template} :
    (p.declare d).template? name = some t ↔
      d = .template name t ∨ d.name? ≠ some name ∧ p.template? name = some t := by
  cases d with
  | step s => simp [Declaration.name?, declare, template?]
  | template name' t' =>
    show (p.templates.insert name' t').get? name = some t ↔ _
    rw [Table.get?_insert]
    by_cases h : name = name'
    · subst h
      simp [Declaration.name?]
    · simp [Declaration.name?, h, Ne.symm h, template?]

theorem template?_foldl_declare (h : p.NewNames ds) {name : String} {t : Template} :
    (ds.foldl declare p).template? name = some t ↔
      p.template? name = some t ∨ .template name t ∈ ds := by
  induction ds generalizing p with
  | nil => simp
  | cons d ds ih =>
    obtain ⟨hname, hnew⟩ := newNames_cons.1 h
    -- what is bound already is not bound again
    have hne : p.template? name = some t → d.name? ≠ some name := fun ht hd =>
      hname name hd (mem_templateNames_of_template? ht)
    rw [List.foldl_cons, ih hnew, template?_declare, List.mem_cons]
    constructor
    · rintro ((rfl | ⟨_, ht⟩) | hm)
      · exact .inr (.inl rfl)
      · exact .inl ht
      · exact .inr (.inr hm)
    · rintro (ht | rfl | hm)
      · exact .inl (.inr ⟨hne ht, ht⟩)
      · exact .inl (.inl rfl)
      · exact .inr hm

end Program

end PatternBuild
