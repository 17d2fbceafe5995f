import PatternBuild.Proofs.Rules.HeaderForm
import PatternBuild.Proofs.Text.Extent

/-!
# Headers as they are written

What a step or a template says in its header, apart from how it is written: `StepHeader` and
`TemplateHeader` can only hold texts that a header can hold.  Each can be written in many ways, as
blanks may stand around the marks (`StepHeader.Written`, `TemplateHeader.Written`), and so can a
file of one block with a given header and body (`IsBlockText`).

Lists are written with commas (`CommaList`).  However that is done, the text between the commas is
the items, but for blanks (`CommaList.exists_pieces`), and what is asked of a header as a whole
follows from what is asked of its items (`IsPiece`).  Everything that can be said can be written
(`StepHeader.exists_written`, `TemplateHeader.exists_written`).
-/

namespace PatternBuild

open Text

namespace Header

variable {α : Type} {Item : α → List Char → Prop} {a b c d cs ds text : List Char} {x : α}
  {xs : List α}

/-! ## blanks -/

/-- white space within a line -/
def Blanks (cs : List Char) : Prop := ∀ c ∈ cs, isBlank c = true ∧ c ≠ '\n'

instance (cs : List Char) : Decidable (Blanks cs) := List.decidableBAll _ cs

theorem Blanks.blank (h : Blanks a) : ∀ c ∈ a, isBlank c = true := fun c hc => (h c hc).1

/-- what is no blank is not among blanks, nor is a line feed -/
theorem Blanks.not_mem (h : Blanks a) {m : Char} (hm : isBlank m = false ∨ m = '\n') :
    m ∉ a := by
  intro hmem
  rcases hm with hm | rfl
  · rw [(h m hmem).1] at hm
    cases hm
  · exact (h _ hmem).2 rfl

theorem Blanks.not_mem_padded {m : Char} (ha : Blanks a) (hb : Blanks b)
    (hm : isBlank m = false ∨ m = '\n') (h : m ∉ cs) : m ∉ a ++ (cs ++ b) := by
  simp only [List.mem_append, not_or]
  exact ⟨ha.not_mem hm, h, hb.not_mem hm⟩

/-! ## arrows -/

theorem not_arrow_nil : ¬arrow <:+: [] := fun h => List.cons_ne_nil _ _ (List.infix_nil.1 h)

/-- no arrow runs across another mark -/
theorem not_arrow_append_cons {m : Char} (hm : m ∉ arrow) (ha : ¬arrow <:+: a)
    (hb : ¬arrow <:+: b) : ¬arrow <:+: a ++ m :: b :=
  fun h => (infix_append_cons hm h).elim ha hb

theorem not_mem_arrow {c : Char} (hc : isBlank c = true) : c ∉ arrow := by
  intro hmem
  rcases List.mem_pair.1 hmem with rfl | rfl
  · exact absurd hc (by decide)
  · exact absurd hc (by decide)

/-- blanks behind a text make no arrow -/
theorem Blanks.not_arrow_behind (hb : Blanks b) (h : ¬arrow <:+: cs) : ¬arrow <:+: cs ++ b := by
  induction b generalizing cs with
  | nil => rwa [List.append_nil]
  | cons c b ih =>
    obtain ⟨hc, hb⟩ := List.forall_mem_cons.1 hb
    exact not_arrow_append_cons (not_mem_arrow hc.1) h (ih hb not_arrow_nil)

/-- nor do blanks in front of it -/
theorem Blanks.not_arrow_before (ha : Blanks a) (h : ¬arrow <:+: cs) : ¬arrow <:+: a ++ cs := by
  induction a with
  | nil => exact h
  | cons c a ih =>
    obtain ⟨hc, ha⟩ := List.forall_mem_cons.1 ha
    exact not_arrow_append_cons (a := []) (not_mem_arrow hc.1) not_arrow_nil (ih ha)

/-! ## pieces of a header -/

/-- what all parts of a header have in common -/
structure IsPiece (cs : List Char) : Prop where
  trimmed : Trimmed cs
  ne_nil : cs ≠ []
  oneLine : '\n' ∉ cs
  arrow : ¬arrow <:+: cs

/-- two pieces with a mark between them, and blanks around it -/
theorem IsPiece.join (hc : IsPiece cs) (hd : IsPiece ds) (ha : Blanks a) (hb : Blanks b)
    {m : Char} (hm : m ∉ Header.arrow) (hline : m ≠ '\n') :
    IsPiece (cs ++ (a ++ m :: (b ++ ds))) where
  trimmed := by
    have h := hc.trimmed.append hd.trimmed hc.ne_nil hd.ne_nil (a ++ m :: b)
    rwa [List.append_assoc, List.cons_append] at h
  ne_nil := List.append_ne_nil_of_left_ne_nil hc.ne_nil _
  oneLine := by
    simp only [List.mem_append, List.mem_cons, not_or]
    exact ⟨hc.oneLine, ha.not_mem (.inr rfl), Ne.symm hline, hb.not_mem (.inr rfl), hd.oneLine⟩
  arrow := by
    have hjoin := not_arrow_append_cons hm (ha.not_arrow_behind hc.arrow)
      (hb.not_arrow_before hd.arrow)
    rwa [List.append_assoc] at hjoin

/-- a piece and a mark that closes it -/
theorem IsPiece.close (hc : IsPiece cs) (ha : Blanks a) {m : Char} (hm : m ∉ Header.arrow)
    (hblank : isBlank m = false) (hline : m ≠ '\n') : IsPiece (cs ++ (a ++ [m])) where
  trimmed := by
    have hmark : Trimmed [m] := ⟨fun c hc => by rwa [← Option.some.inj hc],
      fun c hc => by rwa [← Option.some.inj hc]⟩
    exact hc.trimmed.append hmark hc.ne_nil (List.cons_ne_nil _ _) a
  ne_nil := List.append_ne_nil_of_left_ne_nil hc.ne_nil _
  oneLine := by
    simp only [List.mem_append, List.mem_singleton, not_or]
    exact ⟨hc.oneLine, ha.not_mem (.inr rfl), Ne.symm hline⟩
  arrow := by
    have hclosed := not_arrow_append_cons hm (ha.not_arrow_behind hc.arrow) not_arrow_nil
    rwa [List.append_assoc] at hclosed

/-! ## lists -/

/-- items in order, with a comma between any two of them and blanks around it -/
inductive CommaList (Item : α → List Char → Prop) : List α → List Char → Prop
  | last {x : α} {cs : List Char} (h : Item x cs) : CommaList Item [x] cs
  | cons {x : α} {xs : List α} {cs ds a b : List Char} (h : Item x cs) (ha : Blanks a)
    (hb : Blanks b) (hrest : CommaList Item xs ds) :
    CommaList Item (x :: xs) (cs ++ (a ++ ',' :: (b ++ ds)))

/-- an item with blanks around it -/
def Padded (Item : α → List Char → Prop) (x : α) (piece : List Char) : Prop :=
  ∃ a t b, Blanks a ∧ Blanks b ∧ Item x t ∧ piece = a ++ (t ++ b)

namespace CommaList

theorem ne_nil (h : CommaList Item xs cs) : xs ≠ [] := by
  cases h with
  | last => exact List.cons_ne_nil _ _
  | cons => exact List.cons_ne_nil _ _

theorem isPiece (h : CommaList Item xs cs) (hitem : ∀ x ∈ xs, ∀ t, Item x t → IsPiece t) :
    IsPiece cs := by
  induction h with
  | last h => exact hitem _ List.mem_cons_self _ h
  | cons h ha hb _ ih =>
    obtain ⟨hfirst, hitem⟩ := List.forall_mem_cons.1 hitem
    exact (hfirst _ h).join (ih hitem) ha hb (by decide) (by decide)

theorem not_mem {m : Char} (h : CommaList Item xs cs)
    (hblank : isBlank m = false ∨ m = '\n') (hcomma : m ≠ ',')
    (hitem : ∀ x ∈ xs, ∀ t, Item x t → m ∉ t) : m ∉ cs := by
  induction h with
  | last h => exact hitem _ List.mem_cons_self _ h
  | cons h ha hb _ ih =>
    obtain ⟨hfirst, hitem⟩ := List.forall_mem_cons.1 hitem
    simp only [List.mem_append, List.mem_cons, not_or]
    exact ⟨hfirst _ h, ha.not_mem hblank, hcomma, hb.not_mem hblank, ih hitem⟩

/-- a list starts with its first item -/
theorem exists_prefix (h : CommaList Item xs cs) :
    ∃ x t, xs.head? = some x ∧ Item x t ∧ t <+: cs := by
  cases h with
  | last h => exact ⟨_, _, rfl, h, List.prefix_rfl⟩
  | cons h => exact ⟨_, _, rfl, h, List.prefix_append _ _⟩

/-- a list is its items, each with blanks around it, joined by commas -/
theorem exists_pieces (h : CommaList Item xs cs) (ha : Blanks a) (hb : Blanks b) :
    ∃ pieces, a ++ (cs ++ b) = [','].intercalate pieces ∧ List.Forall₂ (Padded Item) xs pieces := by
  induction h generalizing a with
  | @last x cs h =>
    exact ⟨[a ++ (cs ++ b)], List.intercalate_singleton.symm,
      .cons ⟨a, cs, b, ha, hb, h, rfl⟩ .nil⟩
  | @cons x xs cs ds a' b' h ha' hb' hrest ih =>
    obtain ⟨pieces, he, hpieces⟩ := ih hb'
    cases hpieces with
    | nil => exact absurd rfl hrest.ne_nil
    | @cons y piece ys pieces hy hys =>
      refine ⟨(a ++ (cs ++ a')) :: piece :: pieces, ?_, .cons ⟨a, cs, a', ha, ha', h, rfl⟩
        (.cons hy hys)⟩
      rw [List.intercalate_cons_cons, ← he]
      simp only [List.append_assoc, List.cons_append, List.nil_append]

end CommaList

/-- what can be written item by item can be written as a list -/
theorem exists_commaList (hne : xs ≠ []) (hitem : ∀ x, ∃ t, Item x t) :
    ∃ cs, CommaList Item xs cs := by
  induction xs with
  | nil => exact absurd rfl hne
  | cons x xs ih =>
    obtain ⟨t, ht⟩ := hitem x
    cases xs with
    | nil => exact ⟨t, .last ht⟩
    | cons y xs =>
      obtain ⟨cs, hcs⟩ := ih (List.cons_ne_nil _ _)
      exact ⟨_, .cons ht (List.forall_mem_nil _) (List.forall_mem_nil _) hcs⟩

theorem forall₂_map_trim {pieces : List (List Char)} (h : List.Forall₂ (Padded Item) xs pieces)
    (hitem : ∀ x ∈ xs, ∀ t, Item x t → Trimmed t) : List.Forall₂ Item xs (pieces.map trim) := by
  induction h with
  | nil => exact .nil
  | cons h _ ih =>
    obtain ⟨hfirst, hitem⟩ := List.forall_mem_cons.1 hitem
    obtain ⟨a, t, b, ha, hb, ht, rfl⟩ := h
    rw [List.map_cons, trim_padded ha.blank hb.blank (hfirst t ht)]
    exact .cons ht (ih hitem)

/-! ## steps -/

/-- text for a pattern in a header -/
structure IsPatternText (cs : List Char) : Prop where
  trimmed : Trimmed cs
  ne_nil : cs ≠ []
  oneLine : '\n' ∉ cs
  bare : Bare cs

instance (cs : List Char) : Decidable (Bare cs) := inferInstanceAs (Decidable (∀ m ∈ marks, _))

theorem isPatternText_iff :
    (Trimmed cs ∧ cs ≠ [] ∧ '\n' ∉ cs ∧ Bare cs) ↔ IsPatternText cs :=
  ⟨fun ⟨h1, h2, h3, h4⟩ => ⟨h1, h2, h3, h4⟩, fun ⟨h1, h2, h3, h4⟩ => ⟨h1, h2, h3, h4⟩⟩

instance (cs : List Char) : Decidable (IsPatternText cs) := decidable_of_iff _ isPatternText_iff

theorem IsPatternText.isPiece (h : IsPatternText cs) : IsPiece cs where
  trimmed := h.trimmed
  ne_nil := h.ne_nil
  oneLine := h.oneLine
  arrow := (bare_iff.1 h.bare).2.2.2

/-- a source of a step with its own dependencies -/
structure Source where
  text : List Char
  dependencies : List (List Char)

/-- how a source is written: alone, or with its dependencies in parentheses -/
inductive Source.Written : Source → List Char → Prop
  | bare (text : List Char) : Written ⟨text, []⟩ text
  | listed {text ds a b c : List Char} {dependencies : List (List Char)}
    (h : CommaList Eq dependencies ds) (ha : Blanks a) (hb : Blanks b) (hc : Blanks c) :
    Written ⟨text, dependencies⟩ (text ++ (a ++ '(' :: (b ++ (ds ++ (c ++ [')'])))))

end Header

open Header

/-- what the header of a step says -/
structure StepHeader where
  sources : List Source
  destinations : List (List Char)
  sources_ne : sources ≠ []
  destinations_ne : destinations ≠ []
  source_text : ∀ s ∈ sources, IsPatternText s.text
  dependency_text : ∀ s ∈ sources, ∀ d ∈ s.dependencies, IsPatternText d
  destination_text : ∀ d ∈ destinations, IsPatternText d
  /-- the line of the header is no comment -/
  counts : ∀ s, sources.head? = some s → s.text.head? ≠ some '#'

/-- how the header of a step is written -/
inductive StepHeader.Written (h : StepHeader) : List Char → Prop
  | mk {left right a b : List Char} (hleft : CommaList Source.Written h.sources left)
    (hright : CommaList Eq h.destinations right) (ha : Blanks a) (hb : Blanks b) :
    Written h (left ++ (a ++ (arrow ++ (b ++ right))))

/-- the step that a header declares on the first line -/
def StepHeader.step (h : StepHeader) (body : List (List Char)) : Step where
  sources := h.sources.map fun s => Pattern.compile (String.ofList s.text)
  destinations := h.destinations.map fun d => Pattern.compile (String.ofList d)
  dependencies := ((h.sources.flatMap (·.dependencies)).map fun d =>
    Pattern.compile (String.ofList d)).eraseDups
  body := String.ofList (body.flatMap (· ++ ['\n']))
  line := 1

theorem Header.Source.exists_written (s : Source) : ∃ cs, s.Written cs := by
  obtain ⟨text, dependencies⟩ := s
  by_cases hne : dependencies = []
  · subst hne
    exact ⟨text, .bare text⟩
  · obtain ⟨ds, hds⟩ := exists_commaList hne fun d => ⟨d, rfl⟩
    exact ⟨_, .listed hds (List.forall_mem_nil _) (List.forall_mem_nil _) (List.forall_mem_nil _)⟩

theorem StepHeader.exists_written (h : StepHeader) : ∃ cs, h.Written cs := by
  obtain ⟨left, hleft⟩ := exists_commaList h.sources_ne Source.exists_written
  obtain ⟨right, hright⟩ := exists_commaList h.destinations_ne fun d => ⟨d, rfl⟩
  exact ⟨_, .mk hleft hright (List.forall_mem_nil _) (List.forall_mem_nil _)⟩

/-! ## templates -/

namespace Header

/-- text for a hook in a header -/
structure IsHookText (cs : List Char) : Prop extends IsPatternText cs where
  slash : '/' ∉ cs

instance (cs : List Char) : Decidable (IsHookText cs) :=
  decidable_of_iff (IsPatternText cs ∧ '/' ∉ cs) ⟨fun ⟨h, hs⟩ => ⟨h, hs⟩, fun h => ⟨h.1, h.2⟩⟩

/-- the hooks on one side of the slash, if there are any -/
inductive Side : List (List Char) → List Char → Prop
  | none : Side [] []
  | list {hooks : List (List Char)} {cs : List Char} (h : CommaList Eq hooks cs) : Side hooks cs

/-- hooks as they are written between parentheses: those before the destinations alone, or both
kinds with a slash between them -/
inductive Clause : List (List Char) → List (List Char) → List Char → Prop
  | before {pre : List (List Char)} {cs a b : List Char} (h : CommaList Eq pre cs) (ha : Blanks a)
    (hb : Blanks b) : Clause pre [] (a ++ (cs ++ b))
  | both {pre post : List (List Char)} {cs ds a b c d : List Char} (hpre : Side pre cs)
    (hpost : Side post ds) (ha : Blanks a) (hb : Blanks b) (hc : Blanks c) (hd : Blanks d) :
    Clause pre post ((a ++ (cs ++ b)) ++ '/' :: (c ++ (ds ++ d)))

end Header

/-- what the header of a template says -/
structure TemplateHeader where
  name : List Char
  prehooks : List (List Char)
  posthooks : List (List Char)
  name_ne : name ≠ []
  name_char : ∀ c ∈ name, isNameChar c = true
  prehook_text : ∀ t ∈ prehooks, IsHookText t
  posthook_text : ∀ t ∈ posthooks, IsHookText t

/-- how the header of a template is written -/
inductive TemplateHeader.Written (h : TemplateHeader) : List Char → Prop
  | alone (hpre : h.prehooks = []) (hpost : h.posthooks = []) : Written h h.name
  | hooks {a clause : List Char} (hclause : Clause h.prehooks h.posthooks clause) (ha : Blanks a) :
    Written h (h.name ++ (a ++ '(' :: (clause ++ [')'])))

/-- the template that a header declares -/
def TemplateHeader.template (h : TemplateHeader) (body : List (List Char)) : Template where
  prehooks := h.prehooks.map String.ofList
  posthooks := h.posthooks.map String.ofList
  destinations := body.map String.ofList

theorem Header.exists_side (hooks : List (List Char)) : ∃ cs, Side hooks cs := by
  by_cases hne : hooks = []
  · subst hne
    exact ⟨[], .none⟩
  · obtain ⟨cs, hcs⟩ := exists_commaList hne fun t => ⟨t, rfl⟩
    exact ⟨cs, .list hcs⟩

theorem TemplateHeader.exists_written (h : TemplateHeader) : ∃ cs, h.Written cs := by
  obtain ⟨cs, hcs⟩ := exists_side h.prehooks
  obtain ⟨ds, hds⟩ := exists_side h.posthooks
  have hblank : Blanks [] := List.forall_mem_nil _
  exact ⟨_, .hooks (.both hcs hds hblank hblank hblank hblank) hblank⟩

/-! ## files of one block -/

/-- a text that can stand as a line of a body -/
structure IsBodyLine (cs : List Char) : Prop extends IsLineText cs where
  inner : cs ≠ ['\x7d']

/-- a file of one block: the header and the brace on one line, the lines of the body below, and the
closing brace on the last line, which may end in a line feed; blanks may stand around each -/
inductive IsBlockText (header : List Char) (body : List (List Char)) : List Char → Prop
  | mk {a b c d e tail : List Char} {rows : List (List Char)} (ha : Blanks a) (hb : Blanks b)
    (hc : Blanks c) (hd : Blanks d) (he : Blanks e) (hrows : List.Forall₂ (Padded Eq) body rows)
    (htail : tail = [] ∨ tail = ['\n']) :
    IsBlockText header body ((a ++ (header ++ (b ++ '\x7b' :: c))) ++
      '\n' :: (rows.flatMap (· ++ ['\n']) ++ (d ++ (['\x7d'] ++ e) ++ tail)))

end PatternBuild
