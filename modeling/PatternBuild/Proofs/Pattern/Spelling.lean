import Mathlib.Data.List.Forall2
import PatternBuild.Pattern.Cut
import PatternBuild.Proofs.Path.Parts
import PatternBuild.Proofs.Pattern.Canonical

/-!
# Names that tokens spell

`Spells ts name` says that some cut divides `name` among the tokens.  A pattern text and the names
it spells have the same slashes, so they are spelled part by part (`spells_parts`), and a part
without captures and wildcards spells itself (`eq_of_spells_literal`).
-/

namespace PatternBuild.Pattern

open Path

/-- the tokens can be put to pieces that spell a name -/
def Spells (ts : List Token) (name : List Char) : Prop := ∃ ps, IsCut ts name ps

variable {t : Token} {ts us : List Token} {name : List Char}

/-! ## one token after the other -/

theorem spells_nil : Spells [] name ↔ name = [] := by
  constructor
  · rintro ⟨ps, h⟩
    cases ps with
    | nil => exact h
    | cons p ps => exact h.elim
  · exact fun h => ⟨[], h⟩

theorem spells_cons :
    Spells (t :: ts) name ↔ ∃ p rest, t.Admits p ∧ name = p ++ rest ∧ Spells ts rest := by
  constructor
  · rintro ⟨ps, h⟩
    cases ps with
    | nil => exact h.elim
    | cons p ps =>
      obtain ⟨hp, rest, hn, hr⟩ := h
      exact ⟨p, rest, hp, hn, ps, hr⟩
  · rintro ⟨p, rest, hp, hn, ps, hr⟩
    exact ⟨p :: ps, hp, rest, hn, hr⟩

theorem spells_append :
    Spells (ts ++ us) name ↔ ∃ x y, name = x ++ y ∧ Spells ts x ∧ Spells us y := by
  induction ts generalizing name with
  | nil =>
    simp only [List.nil_append, spells_nil]
    exact ⟨fun h => ⟨[], name, rfl, rfl, h⟩, fun ⟨x, y, hn, hx, hy⟩ => by
      rw [hn, hx]
      exact hy⟩
  | cons t ts ih =>
    simp only [List.cons_append, spells_cons, ih]
    constructor
    · rintro ⟨p, _, hp, rfl, x, y, rfl, hx, hy⟩
      exact ⟨p ++ x, y, (List.append_assoc ..).symm, ⟨p, x, hp, rfl, hx⟩, hy⟩
    · rintro ⟨_, y, rfl, ⟨p, x, hp, rfl, hx⟩, hy⟩
      exact ⟨p, x ++ y, hp, List.append_assoc .., x, y, rfl, hx, hy⟩

theorem spells_char {c : Char} :
    Spells (.literal [c] :: ts) name ↔ ∃ rest, name = c :: rest ∧ Spells ts rest := by
  rw [spells_cons]
  constructor
  · rintro ⟨p, rest, rfl, hn, hr⟩
    exact ⟨rest, hn, hr⟩
  · rintro ⟨rest, hn, hr⟩
    exact ⟨[c], rest, rfl, hn, hr⟩

/-! ## atoms -/

/-- a token with its literal text taken apart -/
def Token.atoms : Token → List Token
  | .literal text => text.map fun c => .literal [c]
  | t => [t]

/-- tokens with all literal text taken apart -/
def atoms (ts : List Token) : List Token := ts.flatMap Token.atoms

theorem atoms_cons (t : Token) (ts : List Token) : atoms (t :: ts) = t.atoms ++ atoms ts := rfl

theorem spells_atoms : Spells (atoms ts) name ↔ Spells ts name := by
  induction ts generalizing name with
  | nil => rfl
  | cons t ts ih =>
    rw [atoms_cons, spells_append, spells_cons]
    have hatoms : ∀ x, Spells t.atoms x ↔ t.Admits x := by
      intro x
      cases t with
      | literal text =>
        show Spells (text.map fun c => .literal [c]) x ↔ x = text
        induction text generalizing x with
        | nil => exact spells_nil
        | cons c text iht =>
          rw [List.map_cons, spells_char]
          simp only [iht, exists_eq_right]
      | capture n => simp [Token.atoms, spells_cons, spells_nil]
      | wildcard => simp [Token.atoms, spells_cons, spells_nil]
    simp only [hatoms, ih]
    exact ⟨fun ⟨x, y, hn, hx, hy⟩ => ⟨x, y, hx, hn, hy⟩, fun ⟨x, y, hx, hn, hy⟩ => ⟨x, y, hn, hx, hy⟩⟩

theorem atoms_addLiteral (c : Char) (ts : List Token) :
    atoms (addLiteral c ts) = .literal [c] :: atoms ts := by
  unfold addLiteral
  split <;> rfl

/-! ## slashes -/

/-- no token reaches into text that starts with no digit -/
theorem atoms_tokenize_append {cs more : List Char}
    (hmore : ∀ c, more.head? = some c → c.isDigit = false) :
    atoms (tokenize (cs ++ more)) = atoms (tokenize cs) ++ atoms (tokenize more) := by
  induction cs using reading_induction with
  | nil => rfl
  | capture cs n after hbegins ih =>
    rw [tokenize_of_begins hbegins, tokenize_of_begins (hbegins.append hmore), atoms_cons,
      atoms_cons, ih, List.append_assoc]
  | char c cs hnot ih =>
    have hlonger := not_begins_append hnot hmore
    rw [List.cons_append]
    by_cases hc : c = '*'
    · subst hc
      rw [tokenize_star, tokenize_star, atoms_cons, atoms_cons, ih, List.append_assoc]
    · rw [tokenize_of_literal hc hnot, tokenize_of_literal hc hlonger, atoms_addLiteral,
        atoms_addLiteral, ih, List.cons_append]

theorem tokenize_slash (cs : List Char) : tokenize ('/' :: cs) = addLiteral '/' (tokenize cs) := rfl

/-- no token reaches across a slash -/
theorem atoms_tokenize_slash (a b : List Char) : atoms (tokenize (a ++ '/' :: b)) =
    atoms (tokenize a) ++ .literal ['/'] :: atoms (tokenize b) := by
  have hslash : ∀ c, ('/' :: b).head? = some c → c.isDigit = false := by
    intro c hc
    obtain rfl : '/' = c := Option.some.inj hc
    rfl
  rw [atoms_tokenize_append hslash, tokenize_slash, atoms_addLiteral]

theorem spells_slash {a b : List Char} : Spells (tokenize (a ++ '/' :: b)) name ↔
    ∃ x y, name = x ++ '/' :: y ∧ Spells (tokenize a) x ∧ Spells (tokenize b) y := by
  rw [← spells_atoms, atoms_tokenize_slash, spells_append]
  simp only [spells_char, spells_atoms]
  constructor
  · rintro ⟨x, _, rfl, hx, y, rfl, hy⟩
    exact ⟨x, y, rfl, hx, hy⟩
  · rintro ⟨x, y, rfl, hx, hy⟩
    exact ⟨x, '/' :: y, rfl, hx, y, rfl, hy⟩

/-- literal text is taken from the pattern text -/
theorem mem_of_literal_mem_tokenize {cs text : List Char} {d : Char}
    (h : .literal text ∈ tokenize cs) (hd : d ∈ text) : d ∈ cs := by
  rw [← written_tokenize cs]
  exact List.mem_flatMap.2 ⟨_, h, hd⟩

/-- a piece of a capture or a wildcard holds no slash -/
theorem not_mem_of_admits (ht : t.isDynamic = true) {p : List Char} (h : t.Admits p) :
    '/' ∉ p := by
  cases t with
  | literal text => cases ht
  | capture n => exact fun hm => absurd (h.2 _ hm) (by decide)
  | wildcard => exact fun hm => absurd (h.2 _ hm) (by decide)

theorem not_mem_of_spells (hlit : ∀ text, .literal text ∈ ts → '/' ∉ text)
    (h : Spells ts name) : '/' ∉ name := by
  induction ts generalizing name with
  | nil =>
    rw [spells_nil.1 h]
    exact List.not_mem_nil
  | cons t ts ih =>
    obtain ⟨p, rest, hp, rfl, hr⟩ := spells_cons.1 h
    have hrest : '/' ∉ rest := ih (fun text ht => hlit text (List.mem_cons_of_mem _ ht)) hr
    have hpiece : '/' ∉ p := by
      cases t with
      | literal text =>
        rw [show p = text from hp]
        exact hlit text List.mem_cons_self
      | capture n => exact not_mem_of_admits rfl hp
      | wildcard => exact not_mem_of_admits rfl hp
    exact fun hm => (List.mem_append.1 hm).elim hpiece hrest

/-- a part spells no name with a slash -/
theorem not_mem_of_spells_part {a : Part} (ha : '/' ∉ a) (h : Spells (tokenize a) name) :
    '/' ∉ name :=
  not_mem_of_spells (fun _ ht hm => ha (mem_of_literal_mem_tokenize ht hm)) h

/-- a pattern text spells a name part by part -/
theorem spells_parts {text : List Char} (h : Spells (tokenize text) name) :
    List.Forall₂ (fun a x => Spells (tokenize a) x) (parts text) (parts name) := by
  have hall : ∀ p ∈ parts text, '/' ∉ p := fun p hp => not_mem_of_mem_parts hp
  have hne : parts text ≠ [] := parts_ne_nil text
  rw [← joinParts_parts text] at h
  generalize parts text = ps at h hall hne
  induction ps generalizing name with
  | nil => exact absurd rfl hne
  | cons p ps ih =>
    have hp : '/' ∉ p := hall p List.mem_cons_self
    by_cases hps : ps = []
    · subst hps
      rw [parts_of_not_mem (not_mem_of_spells_part hp h)]
      exact .cons h .nil
    · rw [joinParts_cons_of_ne_nil p hps] at h
      obtain ⟨x, y, rfl, hx, hy⟩ := spells_slash.1 h
      rw [parts_append, parts_of_not_mem (not_mem_of_spells_part hp hx)]
      exact .cons hx (ih hy (fun q hq => hall q (List.mem_cons_of_mem _ hq)) hps)

/-! ## parts that spell one name -/

/-- tokens without captures and wildcards spell only what they are written as -/
theorem eq_written_of_spells (hd : ts.any Token.isDynamic = false) (h : Spells ts name) :
    name = written ts := by
  induction ts generalizing name with
  | nil => exact spells_nil.1 h
  | cons t ts ih =>
    obtain ⟨p, rest, hp, rfl, hr⟩ := spells_cons.1 h
    obtain ⟨ht, hts⟩ := Bool.or_eq_false_iff.1 hd
    rw [written_cons, ih hts hr]
    cases t with
    | literal text => rw [show p = text from hp, Token.written]
    | capture n => cases ht
    | wildcard => cases ht

/-- without captures and wildcards, a text spells only itself -/
theorem eq_of_spells_literal {cs : List Char} (hd : (tokenize cs).any Token.isDynamic = false)
    (h : Spells (tokenize cs) name) : name = cs :=
  (eq_written_of_spells hd h).trans (written_tokenize cs)

theorem ne_nil_of_admits (ht : t.Sound) {p : List Char} (h : t.Admits p) : p ≠ [] := by
  cases t with
  | literal text =>
    rw [show p = text from h]
    exact ht.1
  | capture n => exact h.1
  | wildcard => exact h.1

/-- only the empty text spells the empty name -/
theorem spells_empty_iff {cs : List Char} : Spells (tokenize cs) [] ↔ cs = [] := by
  constructor
  · intro h
    cases hts : tokenize cs with
    | nil => rw [← written_tokenize cs, hts, written_nil]
    | cons t ts =>
      have ht : t ∈ tokenize cs := hts ▸ List.mem_cons_self
      rw [hts] at h
      obtain ⟨p, rest, hp, he, _⟩ := spells_cons.1 h
      exact absurd (List.append_eq_nil_iff.1 he.symm).1
        (ne_nil_of_admits (sound_of_mem_tokenize ht) hp)
  · rintro rfl
    exact spells_nil.2 rfl

end PatternBuild.Pattern
