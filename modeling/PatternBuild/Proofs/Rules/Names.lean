import PatternBuild.Proofs.Outcome
import PatternBuild.Proofs.Rules.Union
import PatternBuild.Proofs.Text.Cutting

/-!
# Names of templates

The templates of a rule file have names made of letters, digits, dashes and underscores.  So the
text of a chain of names, with arrows between them, can be read in one way only.

* `isNameChar_of_mem_templateNames`   what names are made of;
* `eq_of_message_hookCycle`           texts of chains are equal only if the chains are.
-/

namespace PatternBuild

open Text Header

/-! ## names in headers -/

theorem Header.templateOf_eq_ok {header : List Char} {body : List (List Char)} {name : String}
    {t : Template} (h : templateOf header body = .ok (name, t)) :
    name = String.ofList (header.takeWhile isNameChar) := by
  have hname : ∀ {hooks : Except SyntaxProblem (List String × List String)},
      (hooks >>= fun found => Except.ok (String.ofList (header.takeWhile isNameChar),
        (⟨found.1, found.2, body.map String.ofList⟩ : Template))) = .ok (name, t) →
        name = String.ofList (header.takeWhile isNameChar) := by
    intro hooks h
    obtain ⟨_, _, h⟩ := exists_of_bind_eq_ok h
    exact (congrArg Prod.fst (Except.ok.inj h)).symm
  unfold templateOf at h
  dsimp only at h
  split at h
  · cases h
  · split at h
    · exact hname h
    · split at h
      · cases h
      · exact hname h

namespace Program

variable {text name : String} {p : Program}

theorem exists_block_of_template {t : Template} (h : parse text = .ok p)
    (ht : p.template? name = some t) :
    ∃ b ∈ (readBlocks (significantLines text.toList)).1,
      b.declaration = .ok (.template name t) := by
  obtain ⟨ds, hds, hnew, rfl⟩ := exists_declarations h
  rcases (template?_foldl_declare hnew).1 ht with ht | hd
  · cases ht
  · obtain ⟨b, hb, hdecl⟩ := exists_left_of_mem hds hd
    exact ⟨b, hb, hdecl⟩

theorem isNameChar_of_mem_templateNames (h : parse text = .ok p) (hn : name ∈ p.templateNames) :
    ∀ c ∈ name.toList, isNameChar c = true := by
  obtain ⟨t, ht⟩ := Table.mem_keys.1 hn
  obtain ⟨b, _, hdecl⟩ := exists_block_of_template h ht
  unfold Block.declaration at hdecl
  split at hdecl
  · obtain ⟨_, _, he⟩ := exists_of_map_eq_ok hdecl
    cases he
  · obtain ⟨⟨name', t'⟩, htemplate, he⟩ := exists_of_map_eq_ok hdecl
    cases he
    rw [templateOf_eq_ok htemplate, String.toList_ofList]
    exact fun c hc => List.mem_takeWhile_imp hc

theorem not_arrow_of_mem_templateNames (h : parse text = .ok p) (hn : name ∈ p.templateNames) :
    ¬arrow <:+: name.toList := by
  intro harrow
  have hchar := isNameChar_of_mem_templateNames h hn '>' (harrow.mem (by decide))
  exact absurd hchar (by decide)

end Program

/-! ## the text of a chain -/

/-- what stands between the names of a chain -/
def spacedArrow : List Char := ' ' :: (arrow ++ [' '])

/-- text without an arrow does not run into the one behind it -/
theorem not_spacedArrow {cs : List Char} (h : ¬arrow <:+: cs) :
    ¬spacedArrow <:+: cs ++ spacedArrow.dropLast := by
  intro hin
  have htail : arrow ++ [' '] <:+: cs ++ spacedArrow.dropLast :=
    (List.suffix_cons ' ' _).isInfix.trans hin
  rcases List.infix_append_iff.1 htail with hcs | hend | ⟨a, b, hab, ha, hb⟩
  · exact h ((List.prefix_append arrow [' ']).isInfix.trans hcs)
  · exact absurd hend (by decide)
  · rcases List.append_eq_append_iff.1 hab with ⟨more, rfl, _⟩ | ⟨rest, harrow, rfl⟩
    · exact h ((List.prefix_append arrow more).isInfix.trans ha.isInfix)
    · cases rest with
      | nil =>
        rw [List.append_nil] at harrow
        exact h (harrow ▸ ha.isInfix)
      | cons c rest =>
        -- what follows the text starts with a blank, and none is in an arrow
        obtain ⟨rfl, _⟩ := List.cons_prefix_cons.1 hb
        have hblank : ' ' ∈ arrow := harrow ▸ List.mem_append_right a List.mem_cons_self
        exact absurd hblank (by decide)

/-- chains of names without arrows can be told by their texts -/
theorem eq_of_message_hookCycle {chain names : List String} (hne : chain ≠ []) (hne' : names ≠ [])
    (h : ∀ n ∈ chain, ¬arrow <:+: n.toList) (h' : ∀ n ∈ names, ¬arrow <:+: n.toList)
    (he : (Fault.hookCycle names).message = (Fault.hookCycle chain).message) : names = chain := by
  have hpieces : ∀ {ns : List String}, (∀ n ∈ ns, ¬arrow <:+: n.toList) →
      ∀ piece ∈ ns.map String.toList, ¬spacedArrow <:+: piece ++ spacedArrow.dropLast := by
    intro ns hns piece hpiece
    obtain ⟨n, hn, rfl⟩ := List.mem_map.1 hpiece
    exact not_spacedArrow (hns n hn)
  have htext : ∀ ns, (Fault.hookCycle ns).message.toList =
      "cyclic hook chain: ".toList ++ spacedArrow.intercalate (ns.map String.toList) := by
    intro ns
    show ("cyclic hook chain: " ++ " -> ".intercalate ns).toList = _
    rw [String.toList_append, String.toList_intercalate]
    rfl
  have hjoined : spacedArrow.intercalate (names.map String.toList) =
      spacedArrow.intercalate (chain.map String.toList) := by
    have h := congrArg String.toList he
    rw [htext, htext] at h
    exact List.append_cancel_left h
  -- no name runs into an arrow, so the names are what stands between the arrows
  have hmap := intercalate_inj (List.cons_ne_nil _ _) (mt List.map_eq_nil_iff.1 hne')
    (mt List.map_eq_nil_iff.1 hne) (hpieces h') (hpieces h) hjoined
  exact List.map_injective_iff.2 (fun a b hab => String.toList_injective hab) hmap

end PatternBuild
