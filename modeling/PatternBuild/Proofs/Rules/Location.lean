import PatternBuild.Proofs.Outcome
import PatternBuild.Proofs.Rules.Blocks
import PatternBuild.Proofs.Text.Extent

/-!
# Where a rule file is at fault

A file that cannot be read is at fault on one line, which opens the first block that is refused, or
stands outside all blocks, or opens a block that is not closed.  The lines before it are a file that
can be read, and the lines after it do not matter, except to a block not closed
(`parse_error_located`).
-/

namespace PatternBuild

open Text

/-! ## numbered lines -/

section Lines

variable {text : List Char} {front back : List Line} {l : Line}

/-- a line among numbered lines tells how many stand before it -/
theorem numbered_eq_append_cons {n : Nat} {raws : List (List Char)}
    (h : numbered n raws = front ++ l :: back) : l.number = n + front.length ∧
      front = numbered n (raws.take front.length) ∧
      back = numbered (l.number + 1) (raws.drop (front.length + 1)) := by
  induction front generalizing n raws with
  | nil =>
    cases raws with
    | nil => cases h
    | cons raw raws =>
      obtain ⟨rfl, rfl⟩ := List.cons.inj h
      exact ⟨rfl, rfl, rfl⟩
  | cons m front ih =>
    cases raws with
    | nil => cases h
    | cons raw raws =>
      obtain ⟨rfl, htail⟩ := List.cons.inj h
      obtain ⟨hnumber, hfront, hback⟩ := ih htail
      refine ⟨by rw [hnumber, List.length_cons]; omega, ?_, hback⟩
      rw [List.length_cons, List.take_succ_cons, numbered, ← hfront]

theorem exists_mem_numbered (n : Nat) {raw : List Char} {raws : List (List Char)}
    (h : raw ∈ raws) : ∃ l ∈ numbered n raws, l.text = trim raw := by
  induction raws generalizing n with
  | nil => cases h
  | cons other raws ih =>
    rcases List.mem_cons.1 h with rfl | h
    · exact ⟨⟨n, trim raw⟩, List.mem_cons_self, rfl⟩
    · obtain ⟨l, hl, ht⟩ := ih (n + 1) h
      exact ⟨l, List.mem_cons_of_mem _ hl, ht⟩

/-- the significant lines before a line are those of the text up to it, and those after it are
found in the rest -/
theorem significantLines_eq_append_cons (h : significantLines text = front ++ l :: back) :
    significantLines (firstLines (l.number - 1) text) = front ∧
      back = (numbered (l.number + 1) ((lines text).drop l.number)).filter
        (isSignificant ·.text) := by
  obtain ⟨A, rest, hall, hA, hrest⟩ := List.filter_eq_append_iff.1 h
  obtain ⟨A', B, rfl, hA', _, hB⟩ := List.filter_eq_cons_iff.1 hrest
  rw [← List.append_assoc] at hall
  obtain ⟨hnumber, hbefore, hafter⟩ := numbered_eq_append_cons hall
  have hlen : (A ++ A').length = l.number - 1 := by omega
  have hlen' : (A ++ A').length + 1 = l.number := by omega
  rw [hlen'] at hafter
  rw [hlen] at hbefore
  refine ⟨?_, by rw [← hafter, hB]⟩
  rw [significantLines, lines_firstLines, ← hbefore, List.filter_append, hA,
    List.filter_eq_nil_iff.2 hA', List.append_nil]

/-- further lines bring further significant lines, and change none -/
theorem significantLines_appendLines (text more : List Char) :
    significantLines (appendLines text more) = significantLines text ++
      (numbered (1 + (lines text).length) (lines more)).filter (isSignificant ·.text) := by
  have h : (lines (appendLines text more)).map trim = (lines text ++ lines more).map trim := by
    rw [trim_lines_appendLines, List.map_append]
  rw [significantLines, numbered_congr h, numbered_append, List.filter_append]
  rfl

end Lines

/-! ## the fault of a program -/

namespace Program

variable {text : String} {p q : Program} {f : Fault} {b : Block} {rest : List Line}
  {fault : Option Fault}

theorem addBlock_eq_error (h : p.addBlock b = .error f) :
    ∃ problem, f = .malformed b.line problem := by
  unfold addBlock at h
  split at h
  · exact ⟨_, (Except.error.inj h).symm⟩
  · cases h
  · split at h
    · exact ⟨_, (Except.error.inj h).symm⟩
    · cases h

/-- a file is read from its whole blocks and from what is wrong after them -/
theorem parse_eq_of_stop {bs : List BlockLines}
    (hlines : significantLines text.toList = bs.flatMap BlockLines.lines ++ rest)
    (hstop : Stop rest fault) :
    parse text = (do
      let p ← empty.addBlocks (bs.map BlockLines.read)
      match fault with
      | none => return p
      | some f => throw f) := by
  have hread : readBlocks (significantLines text.toList) = (bs.map BlockLines.read, fault) := by
    rw [hlines, readBlocks_append, hstop.readBlocks_eq, List.append_nil]
  unfold parse
  generalize readBlocks (significantLines text.toList) = r at hread
  subst hread
  rfl

/-- the first block refused decides, whatever follows it -/
theorem parse_eq_error_of_block {bs : List BlockLines} {b : BlockLines} {ls : List Line}
    (hlines : significantLines text.toList = bs.flatMap BlockLines.lines ++ (b.lines ++ ls))
    (hbs : empty.addBlocks (bs.map BlockLines.read) = .ok q) (hb : q.addBlock b.read = .error f) :
    parse text = .error f := by
  have hrow : bs.flatMap BlockLines.lines ++ (b.lines ++ ls) =
      (bs ++ [b]).flatMap BlockLines.lines ++ ls := by
    rw [List.flatMap_append, List.flatMap_singleton, List.append_assoc]
  have hfold : empty.addBlocks ((bs ++ [b]).map BlockLines.read ++ (readBlocks ls).1) = .error f :=
    foldlM_eq_error_iff.2 ⟨bs.map BlockLines.read, b.read, (readBlocks ls).1, q, by simp, hbs, hb⟩
  rw [parse, hlines, hrow, readBlocks_append]
  dsimp only
  rw [hfold]
  rfl

/-- the line after a row of blocks that can be read counts, and the lines before it can be read -/
theorem located_of_row {bs : List BlockLines} {l : Line} {back : List Line}
    (hlines : significantLines text.toList = bs.flatMap BlockLines.lines ++ l :: back)
    (hbs : empty.addBlocks (bs.map BlockLines.read) = .ok q) :
    (0 < l.number ∧ ∃ raw, (lines text.toList)[l.number - 1]? = some raw ∧
        isSignificant (trim raw) = true) ∧
      ∃ p, parse (String.ofList (firstLines (l.number - 1) text.toList)) = .ok p := by
  have hl : l ∈ significantLines text.toList := by simp [hlines]
  obtain ⟨hpos, ⟨raw, hraw, he⟩, htext⟩ := mem_significantLines hl
  refine ⟨⟨hpos, raw, hraw, he ▸ htext.significant⟩, q, ?_⟩
  have hbefore : significantLines (firstLines (l.number - 1) text.toList) =
      bs.flatMap BlockLines.lines ++ [] := by
    rw [(significantLines_eq_append_cons hlines).1, List.append_nil]
  rw [parse_eq_of_stop (by rw [String.toList_ofList, hbefore]) .finished, hbs]
  rfl

/-- a block that is not closed has no closing brace after its first line, and is read as soon as one
is added -/
theorem parse_closed {bs : List BlockLines} {l : Line} {body : List Line}
    (hlines : significantLines text.toList = bs.flatMap BlockLines.lines ++ l :: body)
    (hbs : empty.addBlocks (bs.map BlockLines.read) = .ok q)
    (ho : l.text.getLast? = some '\x7b') (hb : ∀ m ∈ body, m.text ≠ ['\x7d']) :
    (∀ raw ∈ (lines text.toList).drop l.number, trim raw ≠ ['\x7d']) ∧
      ∃ b : BlockLines, b.opening = l ∧
        parse (String.ofList (appendLines text.toList ['\x7d'])) = q.addBlock b.read := by
  constructor
  · intro raw hraw he
    obtain ⟨m, hm, ht⟩ := exists_mem_numbered (l.number + 1) hraw
    have hsig : isSignificant m.text = true := by
      rw [ht, he]
      rfl
    have hbody := (significantLines_eq_append_cons hlines).2
    exact hb m (hbody ▸ List.mem_filter.2 ⟨hm, hsig⟩) (ht.trans he)
  · let closing : Line := ⟨1 + (lines text.toList).length, ['\x7d']⟩
    have hclosing : (numbered (1 + (lines text.toList).length) (lines ['\x7d'])).filter
        (isSignificant ·.text) = [closing] := rfl
    let b : BlockLines := ⟨l, body, closing, ho, hb, rfl⟩
    have hrow : significantLines (appendLines text.toList ['\x7d']) =
        (bs ++ [b]).flatMap BlockLines.lines ++ [] := by
      rw [significantLines_appendLines, hclosing, hlines]
      simp [b, BlockLines.lines]
    have hlast : empty.addBlocks ((bs ++ [b]).map BlockLines.read) = q.addBlock b.read := by
      rw [addBlocks, List.map_append, List.foldlM_append]
      show (empty.addBlocks _ >>= fun p => p.addBlock b.read >>= pure) = _
      rw [hbs]
      exact bind_pure (q.addBlock b.read)
    refine ⟨b, rfl, ?_⟩
    rw [parse_eq_of_stop (by rw [String.toList_ofList, hrow]) .finished, hlast]
    exact bind_pure _

/-- **An error is located at the first line at fault.**  If a file cannot be read, the fault names a
line of the file that counts, and the lines before it are a file that can be read.  If a block is
malformed, the fault stays the same whatever lines are added at the end.  If a block is not closed,
no closing brace stands after it, and with one added at the end the file can be read unless the
block itself is malformed. -/
theorem parse_error_located (h : parse text = .error f) :
    ∃ n, (0 < n ∧ ∃ raw, (lines text.toList)[n - 1]? = some raw ∧ isSignificant (trim raw) = true) ∧
      (∃ p, parse (String.ofList (firstLines (n - 1) text.toList)) = .ok p) ∧
      ((∃ problem, f = .malformed n problem) ∧
          (∀ more, parse (String.ofList (appendLines text.toList more)) = .error f) ∨
        f = .unterminatedBlock n ∧
          (∀ raw ∈ (lines text.toList).drop n, trim raw ≠ ['\x7d']) ∧
          ((∃ p, parse (String.ofList (appendLines text.toList ['\x7d'])) = .ok p) ∨
            ∃ problem, parse (String.ofList (appendLines text.toList ['\x7d'])) =
              .error (.malformed n problem))) := by
  obtain ⟨bs, rest, fault, hlines, hstop⟩ := exists_stop (significantLines text.toList)
  rw [parse_eq_of_stop hlines hstop] at h
  cases hbs : empty.addBlocks (bs.map BlockLines.read) with
  | error e =>
    -- a block is refused
    rw [hbs] at h
    obtain rfl : e = f := Except.error.inj h
    obtain ⟨before, b, after, q, he, hq, hb⟩ := foldlM_eq_error_iff.1 hbs
    obtain ⟨front, tail, rfl, rfl, htail⟩ := List.map_eq_append_iff.1 he
    obtain ⟨b, back, rfl, rfl, rfl⟩ := List.map_eq_cons_iff.1 htail
    obtain ⟨problem, rfl⟩ := addBlock_eq_error hb
    rw [List.flatMap_append, List.flatMap_cons, List.append_assoc, List.append_assoc] at hlines
    obtain ⟨hline, hbefore⟩ := located_of_row (l := b.opening) hlines hq
    refine ⟨b.opening.number, hline, hbefore, .inl ⟨⟨problem, rfl⟩, fun more => ?_⟩⟩
    have hmore := significantLines_appendLines text.toList more
    rw [hlines, List.append_assoc, List.append_assoc] at hmore
    exact parse_eq_error_of_block (by rw [String.toList_ofList, hmore]) hq hb
  | ok q =>
    rw [hbs] at h
    cases hstop with
    | finished => cases h
    | unopened l after ho =>
      obtain rfl : Fault.malformed l.number .expectedBlock = f := Except.error.inj h
      obtain ⟨hline, hbefore⟩ := located_of_row hlines hbs
      refine ⟨l.number, hline, hbefore, .inl ⟨⟨.expectedBlock, rfl⟩, fun more => ?_⟩⟩
      have hmore := significantLines_appendLines text.toList more
      rw [hlines, List.append_assoc, List.cons_append] at hmore
      rw [parse_eq_of_stop (by rw [String.toList_ofList, hmore]) (.unopened l _ ho), hbs]
      rfl
    | unclosed l body ho hb =>
      obtain rfl : Fault.unterminatedBlock l.number = f := Except.error.inj h
      obtain ⟨hline, hbefore⟩ := located_of_row hlines hbs
      obtain ⟨hnone, b, rfl, hclosed⟩ := parse_closed hlines hbs ho hb
      refine ⟨b.opening.number, hline, hbefore, .inr ⟨rfl, hnone, ?_⟩⟩
      rw [hclosed]
      cases hb : q.addBlock b.read with
      | ok p => exact .inl ⟨p, rfl⟩
      | error e =>
        obtain ⟨problem, rfl⟩ := addBlock_eq_error hb
        exact .inr ⟨problem, rfl⟩

/-- a step on its own line, and a template that is not closed -/
def openFile : String := "src/$1.c -> out/$1.o \x7b\n  cc\n\x7d\n\n# all\nall \x7b\n  out/a.o"

/-- a destination in parentheses, on the third line -/
def malformedFile : String := "# objects\n\nsrc/$1.c -> (out) \x7b\n  cc\n\x7d\nall \x7b\n\x7d\n"

/-- the line of an open block and the line of a refused one -/
theorem open_and_malformed_located :
    (parse openFile = .error (.unterminatedBlock 6) ∧
      (∃ p, parse (String.ofList (firstLines 5 openFile.toList)) = .ok p) ∧
      ∀ raw ∈ (lines openFile.toList).drop 6, trim raw ≠ ['\x7d']) ∧
    parse malformedFile = .error (.malformed 3 .badDestination) ∧
      ∀ more, parse (String.ofList (appendLines malformedFile.toList more)) =
        .error (.malformed 3 .badDestination) := by
  have hopen : parse openFile = .error (.unterminatedBlock 6) := rfl
  have hmalformed : parse malformedFile = .error (.malformed 3 .badDestination) := rfl
  refine ⟨⟨hopen, ?_⟩, hmalformed, ?_⟩
  · obtain ⟨n, _, hbefore, ⟨⟨_, he⟩, _⟩ | ⟨he, hnone, _⟩⟩ := parse_error_located hopen
    · cases he
    · cases he
      exact ⟨hbefore, hnone⟩
  · obtain ⟨n, _, _, ⟨_, hmore⟩ | ⟨he, _⟩⟩ := parse_error_located hmalformed
    · exact hmore
    · cases he

end Program

end PatternBuild
