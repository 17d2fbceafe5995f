import PatternBuild.Proofs.Text.Lines
import PatternBuild.Rules.Parse

/-!
# Files as rows of blocks

`BlockLines` is a block as it stands in a file: a line that opens it, body lines, and the line that
closes it.

* `mem_significantLines`   a significant line is a line of the file, trimmed, under its number;
* `readBlocks_append`      the lines of a row of blocks are read as those blocks, whatever follows;
* `exists_stop`            all lines are such a row, up to where the cutting into blocks stops;
* `readBlocks_file`        a block taken as a file of its own is read as the same block on line 1.
-/

namespace PatternBuild

open Text

/-! ## significant lines -/

/-- text that can stand as a significant line -/
structure IsLineText (text : List Char) : Prop where
  trimmed : Trimmed text
  oneLine : '\n' ∉ text
  significant : isSignificant text = true

theorem IsLineText.ne_nil {text : List Char} (h : IsLineText text) : text ≠ [] := by
  rintro rfl
  exact Bool.false_ne_true h.significant

/-- what a line starts with decides whether it counts -/
theorem isSignificant_append {text : List Char} (h : isSignificant text = true)
    (more : List Char) : isSignificant (text ++ more) = true := by
  cases text with
  | nil => cases h
  | cons c text => exact h

theorem mem_numbered {n : Nat} {raws : List (List Char)} {l : Line} (h : l ∈ numbered n raws) :
    n ≤ l.number ∧ ∃ raw, raws[l.number - n]? = some raw ∧ l.text = trim raw := by
  induction raws generalizing n with
  | nil => cases h
  | cons raw raws ih =>
    rcases List.mem_cons.1 h with rfl | h
    · exact ⟨Nat.le_refl n, raw, by simp, rfl⟩
    · obtain ⟨hn, raw', hraw, ht⟩ := ih h
      refine ⟨Nat.le_of_succ_le hn, raw', ?_, ht⟩
      rw [show l.number - n = (l.number - (n + 1)) + 1 by omega, List.getElem?_cons_succ]
      exact hraw

/-- a significant line is a line of the text, trimmed, with its number counted from 1 -/
theorem mem_significantLines {text : List Char} {l : Line} (h : l ∈ significantLines text) :
    0 < l.number ∧ (∃ raw, (lines text)[l.number - 1]? = some raw ∧ l.text = trim raw) ∧
      IsLineText l.text := by
  obtain ⟨hl, hsig⟩ := List.mem_filter.1 h
  obtain ⟨hn, raw, hraw, ht⟩ := mem_numbered hl
  refine ⟨hn, ⟨raw, hraw, ht⟩, ht ▸ trimmed_trim raw, ?_, hsig⟩
  rw [ht]
  intro hm
  exact not_mem_of_mem_lines (List.mem_of_getElem? hraw) ((trim_sublist raw).mem hm)

/-- only what is left of the lines after trimming matters -/
theorem numbered_congr {n : Nat} {xs ys : List (List Char)} (h : xs.map trim = ys.map trim) :
    numbered n xs = numbered n ys := by
  induction xs generalizing n ys with
  | nil =>
    rw [List.map_nil, eq_comm, List.map_eq_nil_iff] at h
    rw [h]
  | cons x xs ih =>
    cases ys with
    | nil => cases h
    | cons y ys =>
      obtain ⟨hxy, h⟩ := List.cons.inj h
      rw [numbered, numbered, hxy, ih h]

/-- texts that can stand as lines are significant as they are -/
theorem significantLines_of_lines {text : List Char} {texts : List (List Char)}
    (hlines : (lines text).map trim = texts) (h : ∀ t ∈ texts, IsLineText t) :
    significantLines text = numbered 1 texts := by
  have htexts : (lines text).map trim = texts.map trim := by
    rw [hlines, List.map_congr_left fun t ht => (h t ht).trimmed.trim_eq, List.map_id']
  rw [significantLines, numbered_congr htexts, List.filter_eq_self]
  intro l hl
  obtain ⟨_, raw, hraw, ht⟩ := mem_numbered hl
  have hline := h raw (List.mem_of_getElem? hraw)
  rw [ht, hline.trimmed.trim_eq]
  exact hline.significant

/-! ## blocks -/

/-- a block as it stands in a file -/
structure BlockLines where
  opening : Line
  body : List Line
  closing : Line
  /-- the first line ends in an opening brace -/
  opens : opening.text.getLast? = some '\x7b'
  /-- no line of the body is a closing brace -/
  inner : ∀ l ∈ body, l.text ≠ ['\x7d']
  /-- the last line is a closing brace -/
  closes : closing.text = ['\x7d']

namespace BlockLines

variable (b : BlockLines)

/-- the lines of a block, in order -/
def lines : List Line := b.opening :: b.body ++ [b.closing]

/-- the text before the brace -/
def header : List Char := trim b.opening.text.dropLast

/-- the text of a body line for line -/
def bodyLines : List (List Char) := b.body.map (·.text)

/-- the block taken as a file of its own -/
def file : String := String.ofList (b.lines.flatMap fun l => l.text ++ ['\n'])

/-- what is read of the block, its header standing on line `n` -/
def readAt (n : Nat) : Block := ⟨b.header, n, b.bodyLines⟩

/-- what is read of the block -/
def read : Block := b.readAt b.opening.number

end BlockLines

/-! ## reading -/

theorem readBlocksFrom_body {b : Block} {body : List Line} (h : ∀ l ∈ body, l.text ≠ ['\x7d'])
    (ls : List Line) : readBlocksFrom (some b) (body ++ ls) =
      readBlocksFrom (some { b with body := b.body ++ body.map (·.text) }) ls := by
  induction body generalizing b with
  | nil => simp
  | cons l body ih =>
    obtain ⟨hl, hbody⟩ := List.forall_mem_cons.1 h
    rw [List.cons_append, readBlocksFrom]
    simp only [isClosing, hl, decide_false, Bool.false_eq_true, if_false]
    rw [ih hbody]
    simp [Block.addLine]

theorem opening?_of_getLast? {text : List Char} (h : text.getLast? = some '\x7b') :
    opening? text = some text.dropLast := by
  obtain ⟨front, rfl⟩ := List.getLast?_eq_some_iff.1 h
  simp [opening?, stripEnd]

theorem getLast?_of_opening? {text header : List Char} (h : opening? text = some header) :
    text.getLast? = some '\x7b' := by
  unfold opening? stripEnd at h
  split at h
  · rename_i hs
    obtain ⟨front, rfl⟩ := List.isSuffixOf_iff_suffix.1 hs
    exact List.getLast?_concat
  · cases h

/-- a block is read as soon as its lines are, wherever they stand -/
theorem readBlocks_block (opening closing : Line) {body : List Line}
    (ho : opening.text.getLast? = some '\x7b') (hb : ∀ l ∈ body, l.text ≠ ['\x7d'])
    (hc : closing.text = ['\x7d']) (ls : List Line) :
    readBlocks (opening :: body ++ closing :: ls) =
      (⟨trim opening.text.dropLast, opening.number, body.map (·.text)⟩ :: (readBlocks ls).1,
        (readBlocks ls).2) := by
  unfold readBlocks
  rw [List.cons_append, readBlocksFrom]
  simp only [opening?_of_getLast? ho]
  rw [readBlocksFrom_body hb, readBlocksFrom]
  simp [isClosing, hc]

/-- blocks in a row are read before what follows them -/
theorem readBlocks_append (bs : List BlockLines) (ls : List Line) :
    readBlocks (bs.flatMap BlockLines.lines ++ ls) =
      (bs.map BlockLines.read ++ (readBlocks ls).1, (readBlocks ls).2) := by
  induction bs with
  | nil => rfl
  | cons b bs ih =>
    rw [List.flatMap_cons, BlockLines.lines, List.append_assoc, List.append_assoc,
      List.singleton_append, readBlocks_block b.opening b.closing b.opens b.inner b.closes, ih]
    rfl

theorem readBlocks_flatMap (bs : List BlockLines) :
    readBlocks (bs.flatMap BlockLines.lines) = (bs.map BlockLines.read, none) := by
  have h := readBlocks_append bs []
  rwa [readBlocks_nil, List.append_nil, List.append_nil] at h

/-! ## where the cutting into blocks stops -/

/-- the lines after the last whole block, and what is wrong with them -/
inductive Stop : List Line → Option Fault → Prop
  | finished : Stop [] none
  | unopened (l : Line) (after : List Line) (h : opening? l.text = none) :
    Stop (l :: after) (some (.malformed l.number .expectedBlock))
  | unclosed (l : Line) (body : List Line) (ho : l.text.getLast? = some '\x7b')
    (hb : ∀ m ∈ body, m.text ≠ ['\x7d']) : Stop (l :: body) (some (.unterminatedBlock l.number))

variable {rest : List Line} {fault : Option Fault}

theorem Stop.readBlocks_eq (h : Stop rest fault) : readBlocks rest = ([], fault) := by
  cases h with
  | finished => rfl
  | unopened l after h =>
    rw [readBlocks, readBlocksFrom]
    simp only [h]
  | unclosed l body ho hb =>
    rw [readBlocks, readBlocksFrom]
    simp only [opening?_of_getLast? ho]
    rw [← List.append_nil body, readBlocksFrom_body hb, readBlocksFrom]

/-- lines are a row of blocks up to where the cutting stops -/
theorem exists_stop (ls : List Line) : ∃ (bs : List BlockLines) (rest : List Line)
    (fault : Option Fault), ls = bs.flatMap BlockLines.lines ++ rest ∧ Stop rest fault := by
  induction hn : ls.length using Nat.strong_induction_on generalizing ls with
  | _ n ih =>
  cases ls with
  | nil => exact ⟨[], [], none, rfl, .finished⟩
  | cons l ls =>
    cases ho : opening? l.text with
    | none => exact ⟨[], l :: ls, _, rfl, .unopened l ls ho⟩
    | some header =>
      have ho := getLast?_of_opening? ho
      cases hc : ls.find? (fun m => isClosing m.text) with
      | none =>
        rw [List.find?_eq_none] at hc
        exact ⟨[], l :: ls, _, rfl, .unclosed l ls ho fun m hm he =>
          hc m hm (decide_eq_true he)⟩
      | some closing =>
        -- the block ends there, and what follows is shorter
        obtain ⟨hclosing, body, after, rfl, hbody⟩ := List.find?_eq_some_iff_append.1 hc
        have hlt : after.length < n := by
          rw [← hn]
          simp only [List.length_cons, List.length_append]
          omega
        obtain ⟨bs, rest, fault, hafter, hstop⟩ := ih _ hlt after rfl
        have hb : ∀ m ∈ body, m.text ≠ ['\x7d'] := fun m hm he => by
          simpa [isClosing, he] using hbody m hm
        refine ⟨⟨l, body, closing, ho, hb, of_decide_eq_true hclosing⟩ :: bs, rest, fault, ?_, hstop⟩
        rw [List.flatMap_cons, BlockLines.lines, hafter]
        simp only [List.cons_append, List.append_assoc, List.nil_append]

theorem exists_blocks {ls : List Line} (h : (readBlocks ls).2 = none) :
    ∃ bs : List BlockLines, ls = bs.flatMap (·.lines) := by
  obtain ⟨bs, rest, fault, rfl, hstop⟩ := exists_stop ls
  rw [readBlocks_append, hstop.readBlocks_eq] at h
  cases hstop with
  | finished => exact ⟨bs, List.append_nil _⟩
  | unopened => cases h
  | unclosed => cases h

/-! ## a block as a file -/

theorem numbered_append (n : Nat) (xs ys : List (List Char)) :
    numbered n (xs ++ ys) = numbered n xs ++ numbered (n + xs.length) ys := by
  induction xs generalizing n with
  | nil => rfl
  | cons x xs ih =>
    rw [List.cons_append, numbered, ih, List.length_cons, Nat.add_right_comm, Nat.add_assoc]
    rfl

theorem map_text_numbered {n : Nat} {texts : List (List Char)} (h : ∀ t ∈ texts, Trimmed t) :
    (numbered n texts).map (·.text) = texts := by
  induction texts generalizing n with
  | nil => rfl
  | cons t texts ih =>
    obtain ⟨ht, htexts⟩ := List.forall_mem_cons.1 h
    rw [numbered, List.map_cons, ih htexts, ht.trim_eq]

theorem lines_flatMap {texts : List (List Char)} (h : ∀ t ∈ texts, IsLineText t) :
    lines (texts.flatMap (· ++ ['\n'])) = texts := by
  induction texts with
  | nil => rfl
  | cons t texts ih =>
    obtain ⟨ht, htexts⟩ := List.forall_mem_cons.1 h
    have hlast : t.getLast? ≠ some '\r' := fun he => by cases ht.trimmed.last _ he
    rw [List.flatMap_cons, List.append_assoc, List.singleton_append,
      lines_append_newline ht.oneLine hlast, ih htexts]

/-- texts that can stand as lines, written one under the other, are read back -/
theorem significantLines_flatMap {texts : List (List Char)} (h : ∀ t ∈ texts, IsLineText t) :
    significantLines (texts.flatMap (· ++ ['\n'])) = numbered 1 texts := by
  refine significantLines_of_lines ?_ h
  rw [lines_flatMap h, List.map_congr_left fun t ht => (h t ht).trimmed.trim_eq, List.map_id']

/-- the lines of a block, numbered from 1, are read as that block -/
theorem readBlocks_numbered {opening : List Char} {body : List (List Char)}
    (hopen : Trimmed opening) (ho : opening.getLast? = some '\x7b')
    (hbody : ∀ t ∈ body, Trimmed t ∧ t ≠ ['\x7d']) :
    readBlocks (numbered 1 (opening :: body ++ [['\x7d']])) =
      ([⟨trim opening.dropLast, 1, body⟩], none) := by
  have htexts : (numbered 2 body).map (·.text) = body := map_text_numbered fun t ht => (hbody t ht).1
  have hinner : ∀ l ∈ numbered 2 body, l.text ≠ ['\x7d'] := by
    intro l hl
    have ht : l.text ∈ body := htexts ▸ List.mem_map_of_mem hl
    exact (hbody _ ht).2
  have hblock := readBlocks_block ⟨1, opening⟩ ⟨1 + (opening :: body).length, ['\x7d']⟩ ho hinner
    rfl []
  rw [htexts] at hblock
  rw [numbered_append]
  show readBlocks (⟨1, trim opening⟩ :: numbered 2 body ++ [⟨_, ['\x7d']⟩]) = _
  rw [hopen.trim_eq]
  exact hblock

/-- a block alone is read as it is in its file, but on line 1 -/
theorem readBlocks_file {b : BlockLines} (h : ∀ l ∈ b.lines, IsLineText l.text) :
    readBlocks (significantLines b.file.toList) = ([b.readAt 1], none) := by
  have hopen : Trimmed b.opening.text := (h b.opening (by simp [BlockLines.lines])).trimmed
  have hbody : ∀ t ∈ b.bodyLines, Trimmed t ∧ t ≠ ['\x7d'] := by
    rintro t ht
    obtain ⟨l, hl, rfl⟩ := List.mem_map.1 ht
    exact ⟨(h l (by simp [BlockLines.lines, hl])).trimmed, b.inner l hl⟩
  have htexts : b.lines.map (·.text) = b.opening.text :: b.bodyLines ++ [['\x7d']] := by
    simp [BlockLines.lines, BlockLines.bodyLines, b.closes]
  have hfile : b.file.toList = (b.lines.map (·.text)).flatMap (· ++ ['\n']) := by
    rw [BlockLines.file, String.toList_ofList, List.flatMap_map]
  have hlines : ∀ t ∈ b.lines.map (·.text), IsLineText t := by
    rintro t ht
    obtain ⟨l, hl, rfl⟩ := List.mem_map.1 ht
    exact h l hl
  rw [hfile, significantLines_flatMap hlines, htexts]
  exact readBlocks_numbered hopen b.opens hbody

end PatternBuild
