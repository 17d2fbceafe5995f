import PatternBuild.Pattern.Glob
import PatternBuild.Proofs.Pattern.Spelling

/-!
# What a glob matches

`Covers items name` says what the items of a glob stand for, and `globMatches` decides it
(`globMatches_iff`).  The glob of a token list covers every name that the tokens spell
(`globMatches_of_spells`): a `*` that stands for several captures covers all their pieces at once.
-/

namespace PatternBuild.Pattern

/-- a name put together from what the items stand for -/
def Covers : List GlobItem → List Char → Prop
  | [], name => name = []
  | .char c :: items, name => ∃ rest, name = c :: rest ∧ Covers items rest
  | .run :: items, name => ∃ r rest, '/' ∉ r ∧ name = r ++ rest ∧ Covers items rest

/-! ## reading -/

section
variable {items : List GlobItem}

/-- the flags of a shorter name are those of its suffixes -/
theorem tail_globFits (items : List GlobItem) (d : Char) (ds : List Char) :
    (globFits items (d :: ds)).tail = globFits items ds := by
  induction items with
  | nil =>
    rw [globFits]
    rfl
  | cons item items ih =>
    cases item with
    | char c =>
      rw [globFits, globFits, globFits.charFits, List.tail_cons, ih]
    | run =>
      rw [globFits, globFits, globFits.runFits, List.tail_cons, ih]

/-- the first flag of a name -/
def fitsAll (items : List GlobItem) (name : List Char) : Bool := (globFits items name).headD false

theorem fitsAll_char_cons (c d : Char) (ds : List Char) :
    fitsAll (.char c :: items) (d :: ds) = (c == d && fitsAll items ds) := by
  unfold fitsAll
  rw [globFits, globFits.charFits, tail_globFits]
  rfl

theorem fitsAll_run_nil : fitsAll (.run :: items) [] = fitsAll items [] := by
  unfold fitsAll
  rw [globFits]
  rfl

theorem fitsAll_run_cons (d : Char) (ds : List Char) : fitsAll (.run :: items) (d :: ds) =
    (fitsAll items (d :: ds) || (d != '/' && fitsAll (.run :: items) ds)) := by
  unfold fitsAll
  rw [globFits, globFits, globFits.runFits, tail_globFits]
  rfl

theorem covers_run_nil : Covers (.run :: items) [] ↔ Covers items [] := by
  constructor
  · rintro ⟨r, rest, _, he, h⟩
    rwa [(List.append_eq_nil_iff.1 he.symm).2] at h
  · exact fun h => ⟨[], [], List.not_mem_nil, rfl, h⟩

/-- a run covers nothing, or a character and a run again -/
theorem covers_run_cons {d : Char} {ds : List Char} : Covers (.run :: items) (d :: ds) ↔
    Covers items (d :: ds) ∨ (d ≠ '/' ∧ Covers (.run :: items) ds) := by
  constructor
  · rintro ⟨r, rest, hr, he, h⟩
    cases r with
    | nil =>
      rw [he]
      exact .inl h
    | cons c r =>
      obtain ⟨rfl, rfl⟩ := List.cons.inj he
      obtain ⟨hd, hr⟩ := List.ne_and_not_mem_of_not_mem_cons hr
      exact .inr ⟨Ne.symm hd, r, rest, hr, rfl, h⟩
  · rintro (h | ⟨hd, r, rest, hr, rfl, h⟩)
    · exact ⟨[], d :: ds, List.not_mem_nil, rfl, h⟩
    · exact ⟨d :: r, rest, List.not_mem_cons_of_ne_of_not_mem (Ne.symm hd) hr, rfl, h⟩

theorem fitsAll_iff {name : List Char} : fitsAll items name = true ↔ Covers items name := by
  induction items generalizing name with
  | nil => cases name <;> simp [fitsAll, globFits, Covers]
  | cons item items ih =>
    cases item with
    | char c =>
      cases name with
      | nil => simp [fitsAll, globFits, globFits.charFits, Covers]
      | cons d ds =>
        rw [fitsAll_char_cons, Bool.and_eq_true, beq_iff_eq, ih]
        constructor
        · rintro ⟨rfl, h⟩
          exact ⟨ds, rfl, h⟩
        · rintro ⟨rest, he, h⟩
          obtain ⟨rfl, rfl⟩ := List.cons.inj he
          exact ⟨rfl, h⟩
    | run =>
      induction name with
      | nil => rw [fitsAll_run_nil, ih, covers_run_nil]
      | cons d ds ihn =>
        rw [fitsAll_run_cons, covers_run_cons, Bool.or_eq_true, Bool.and_eq_true, bne_iff_ne, ih,
          ihn]

end

theorem globMatches_iff {glob name : List Char} :
    globMatches glob name = true ↔ Covers (globItems glob) name := fitsAll_iff

/-! ## the glob of a token list -/

/-- the items that `globFrom` writes -/
def itemsFrom (afterStar : Bool) : List Token → List GlobItem
  | [] => []
  | .literal t :: ts => t.map .char ++ itemsFrom false ts
  | _ :: ts => if afterStar then itemsFrom true ts else .run :: itemsFrom true ts

theorem globItems_char {c : Char} (h : isGlobSpecial c = false) (cs : List Char) :
    globItems (c :: cs) = .char c :: globItems cs := by
  have hbracket : c ≠ '[' := by
    rintro rfl
    cases h
  have hstar : c ≠ '*' := by
    rintro rfl
    cases h
  exact globItems.eq_4 c cs (fun _ _ hc _ => hbracket hc) hstar

/-- escaped text is read as its characters -/
theorem globItems_globEscape (t cs : List Char) :
    globItems (globEscape t ++ cs) = t.map .char ++ globItems cs := by
  induction t with
  | nil => rfl
  | cons c t ih =>
    show globItems ((if isGlobSpecial c then ['[', c, ']'] else [c]) ++ globEscape t ++ cs) =
      .char c :: (t.map .char ++ globItems cs)
    rw [← ih, List.append_assoc]
    cases h : isGlobSpecial c with
    | true => rfl
    | false => exact globItems_char h _

theorem globItems_globFrom (afterStar : Bool) (ts : List Token) :
    globItems (globFrom afterStar ts) = itemsFrom afterStar ts := by
  induction ts generalizing afterStar with
  | nil => rfl
  | cons t ts ih =>
    have hstar : globItems (if afterStar then globFrom true ts else '*' :: globFrom true ts) =
        if afterStar then itemsFrom true ts else .run :: itemsFrom true ts := by
      cases afterStar with
      | true => exact ih true
      | false => exact congrArg (GlobItem.run :: ·) (ih true)
    cases t with
    | literal text =>
      show globItems (globEscape text ++ globFrom false ts) = _
      rw [globItems_globEscape, ih]
      rfl
    | capture n => exact hstar
    | wildcard => exact hstar

/-! ## the glob covers what the tokens spell -/

theorem covers_chars {items : List GlobItem} {name : List Char} (t : List Char)
    (h : Covers items name) : Covers (t.map .char ++ items) (t ++ name) := by
  induction t with
  | nil => exact h
  | cons c t ih => exact ⟨_, rfl, ih⟩

/-- after a `*` the items cover the name together with what the `*` has taken so far -/
theorem covers_of_spells {ts : List Token} {name : List Char} (h : Spells ts name) :
    Covers (itemsFrom false ts) name ∧
      ∀ r, '/' ∉ r → Covers (.run :: itemsFrom true ts) (r ++ name) := by
  induction ts generalizing name with
  | nil =>
    obtain rfl := spells_nil.1 h
    exact ⟨rfl, fun r hr => ⟨r, [], hr, rfl, rfl⟩⟩
  | cons t ts ih =>
    obtain ⟨p, rest, hp, rfl, hs⟩ := spells_cons.1 h
    obtain ⟨hfresh, hstar⟩ := ih hs
    have hdyn : t.isDynamic = true → Covers (.run :: itemsFrom true ts) (p ++ rest) ∧
        ∀ r, '/' ∉ r → Covers (.run :: itemsFrom true ts) (r ++ (p ++ rest)) := by
      intro ht
      have hslash : '/' ∉ p := not_mem_of_admits ht hp
      refine ⟨hstar p hslash, fun r hr => ?_⟩
      rw [← List.append_assoc]
      exact hstar (r ++ p) fun hm => (List.mem_append.1 hm).elim hr hslash
    cases t with
    | literal text =>
      obtain rfl : p = text := hp
      have hlit : Covers (p.map .char ++ itemsFrom false ts) (p ++ rest) := covers_chars p hfresh
      exact ⟨hlit, fun r hr => ⟨r, p ++ rest, hr, rfl, hlit⟩⟩
    | capture n => exact hdyn rfl
    | wildcard => exact hdyn rfl

theorem globMatches_of_spells {ts : List Token} {name : List Char} (h : Spells ts name) :
    globMatches (globText ts) name = true := by
  rw [globMatches_iff, globText, globItems_globFrom]
  exact (covers_of_spells h).1

end PatternBuild.Pattern
