import PatternBuild.Proofs.Text.Lines

/-!
# The first lines of a text, and lines after it

`firstLines n` is a text up to its `n`-th line feed and has its first `n` lines
(`lines_firstLines`).  `appendLines` puts further lines after a text, closing its last line first if
that is still open; trimmed, the lines are those of the text and the further ones
(`trim_lines_appendLines`).  Only trimmed, as a carriage return at the very end of a text belongs to
the last line until a line feed follows it.
-/

namespace PatternBuild.Text

variable {cs l : List Char}

theorem lines_ne_nil (h : cs ≠ []) : lines cs ≠ [] := by
  fun_cases lines cs with
  | case1 => exact absurd rfl h
  | case2 => exact List.cons_ne_nil _ _
  | case3 => exact List.cons_ne_nil _ _
  | case4 c cs _ _ =>
    cases lines cs with
    | nil => exact List.cons_ne_nil _ _
    | cons l ls => exact List.cons_ne_nil _ _

/-! ## the first lines -/

/-- a text up to its `n`-th line feed -/
def firstLines (n : Nat) : List Char → List Char
  | [] => []
  | c :: cs =>
    if n = 0 then []
    else if c = '\n' then c :: firstLines (n - 1) cs
    else c :: firstLines n cs

theorem firstLines_zero (cs : List Char) : firstLines 0 cs = [] := by
  cases cs <;> simp [firstLines]

theorem firstLines_newline (n : Nat) (cs : List Char) :
    firstLines (n + 1) ('\n' :: cs) = '\n' :: firstLines n cs := by simp [firstLines]

theorem firstLines_cons {c : Char} (hc : c ≠ '\n') (n : Nat) (cs : List Char) :
    firstLines (n + 1) (c :: cs) = c :: firstLines (n + 1) cs := by simp [firstLines, hc]

theorem lines_firstLines (n : Nat) (cs : List Char) :
    lines (firstLines n cs) = (lines cs).take n := by
  fun_induction lines cs generalizing n with
  | case1 => simp [firstLines, lines]
  | case2 cs ih =>
    cases n with
    | zero => rfl
    | succ n =>
      rw [firstLines_cons (by decide), firstLines_newline, List.take_succ_cons, ← ih]
      rfl
  | case3 cs ih =>
    cases n with
    | zero => rfl
    | succ n =>
      rw [firstLines_newline, List.take_succ_cons, ← ih]
      rfl
  | case4 c cs hr hc ih =>
    cases n with
    | zero => rw [firstLines_zero, List.take_zero, lines_nil]
    | succ n =>
      -- no line feed comes to stand behind `c` that did not stand there before
      have hr' : ∀ r, c = '\r' → firstLines (n + 1) cs = '\n' :: r → False := by
        intro r hc' h
        cases cs with
        | nil => cases h
        | cons d cs =>
          by_cases hd : d = '\n'
          · exact hr cs hc' (hd ▸ rfl)
          · rw [firstLines_cons hd] at h
            exact hd (List.cons.inj h).1
      rw [firstLines_cons hc, lines_cons hr' hc, ih]
      cases lines cs with
      | nil => rw [List.take_nil, consHead, List.take_succ_cons, List.take_nil]
      | cons l ls => rfl

/-! ## further lines -/

/-- further lines after those of a text -/
def appendLines (cs more : List Char) : List Char :=
  if cs.getLast?.all (· == '\n') then cs ++ more else cs ++ '\n' :: more

/-- a text whose last line is closed keeps its lines, whatever follows -/
theorem lines_append_of_closed (h : ∀ c, cs.getLast? = some c → c = '\n') (more : List Char) :
    lines (cs ++ more) = lines cs ++ lines more := by
  fun_induction lines cs with
  | case1 => rfl
  | case2 cs ih =>
    have hcs : ∀ c, cs.getLast? = some c → c = '\n' := fun c hc =>
      h c (by simp [List.getLast?_cons, hc])
    show _ = [] :: (lines cs ++ lines more)
    rw [← ih hcs]
    rfl
  | case3 cs ih =>
    have hcs : ∀ c, cs.getLast? = some c → c = '\n' := fun c hc =>
      h c (by simp [List.getLast?_cons, hc])
    show _ = [] :: (lines cs ++ lines more)
    rw [← ih hcs]
    rfl
  | case4 c cs hr hc ih =>
    cases cs with
    | nil => exact absurd (h c rfl) hc
    | cons d cs =>
      have hr' : ∀ r, c = '\r' → d :: cs ++ more = '\n' :: r → False := by
        intro r hc' h
        exact hr cs hc' (by rw [(List.cons.inj h).1])
      have hcs : ∀ e, (d :: cs).getLast? = some e → e = '\n' := fun e he =>
        h e (by rw [List.getLast?_cons_cons, he])
      rw [List.cons_append, lines_cons hr' hc, ih hcs]
      cases hls : lines (d :: cs) with
      | nil => exact absurd hls (lines_ne_nil (List.cons_ne_nil _ _))
      | cons l ls => rfl

/-- text without line feeds is one line -/
theorem lines_of_not_mem (hne : l ≠ []) (h : '\n' ∉ l) : lines l = [l] := by
  induction l with
  | nil => exact absurd rfl hne
  | cons c l ih =>
    obtain ⟨hc, hl⟩ := List.ne_and_not_mem_of_not_mem_cons h
    have hr : ∀ r, c = '\r' → l = '\n' :: r → False := fun r _ he =>
      hl (he ▸ List.mem_cons_self)
    rw [lines_cons hr (Ne.symm hc)]
    cases l with
    | nil => rfl
    | cons d l => rw [ih (List.cons_ne_nil _ _) hl, consHead]

/-- a line loses one carriage return to the line feed after it -/
theorem lines_append_return_newline (h : '\n' ∉ l) (cs : List Char) :
    lines (l ++ '\r' :: '\n' :: cs) = l :: lines cs := by
  induction l with
  | nil => rfl
  | cons c l ih =>
    obtain ⟨hc, hl⟩ := List.ne_and_not_mem_of_not_mem_cons h
    have hr : ∀ r, c = '\r' → l ++ '\r' :: '\n' :: cs = '\n' :: r → False := by
      rintro r - he
      cases l with
      | nil => cases he
      | cons d l => exact hl ((List.cons.inj he).1 ▸ List.mem_cons_self)
    rw [List.cons_append, lines_cons hr (Ne.symm hc), ih hl, consHead]

/-- a carriage return before a line feed is lost, or trimmed away -/
theorem trim_lines_append_newline (h : '\n' ∉ l) (cs : List Char) :
    (lines (l ++ '\n' :: cs)).map trim = trim l :: (lines cs).map trim := by
  by_cases hr : l.getLast? = some '\r'
  · obtain ⟨front, rfl⟩ := List.getLast?_eq_some_iff.1 hr
    have hfront : '\n' ∉ front := fun hm => h (List.mem_append_left _ hm)
    rw [List.append_assoc, List.singleton_append, lines_append_return_newline hfront,
      List.map_cons, trim_append_blank (by decide)]
  · rw [lines_append_newline h hr, List.map_cons]

/-- a text is its closed lines and what stands after the last line feed -/
theorem exists_open_line (cs : List Char) : ∃ closed l, cs = closed ++ l ∧
    (∀ c, closed.getLast? = some c → c = '\n') ∧ '\n' ∉ l := by
  refine ⟨cs.rdropWhile (· != '\n'), cs.rtakeWhile (· != '\n'),
    (List.rdropWhile_append_rtakeWhile).symm, fun c hc => ?_, fun hm => ?_⟩
  · obtain ⟨hne, rfl⟩ := List.mem_getLast?_eq_getLast hc
    simpa using List.rdropWhile_last_not _ _ hne
  · simpa using List.mem_rtakeWhile_imp hm

/-- the lines after a text come after its own -/
theorem trim_lines_appendLines (cs more : List Char) :
    (lines (appendLines cs more)).map trim = (lines cs).map trim ++ (lines more).map trim := by
  unfold appendLines
  split
  · rename_i h
    rw [lines_append_of_closed ?_, List.map_append]
    intro c hc
    rw [hc] at h
    exact eq_of_beq h
  · rename_i h
    obtain ⟨closed, l, rfl, hclosed, hl⟩ := exists_open_line cs
    have hne : l ≠ [] := by
      rintro rfl
      rw [List.append_nil] at h
      cases hlast : closed.getLast? with
      | none => simp [hlast] at h
      | some c => simp [hlast, hclosed c hlast] at h
    rw [List.append_assoc, lines_append_of_closed hclosed, lines_append_of_closed hclosed,
      lines_of_not_mem hne hl, List.map_append, List.map_append, List.append_assoc]
    congr 1
    rw [trim_lines_append_newline hl, List.map_singleton, List.singleton_append]

end PatternBuild.Text
