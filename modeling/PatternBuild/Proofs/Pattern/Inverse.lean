import PatternBuild.Proofs.Pattern.Separated
import PatternBuild.Proofs.Table

/-!
# Substituting and matching

The captures of a match give back the path that was matched, and a path that was made from captures
gives back those the pattern uses (`substitute_inverts_match`).  The second needs captures that
cannot shift: without a character between them that no capture takes, the values `a` and `bb` of
`$1$2` come back as `ab` and `b`.
-/

namespace PatternBuild.Pattern

open Path

/-- captures whose numbers are those of the given tokens -/
def restrict (args : Captures) (ts : List Token) : Captures :=
  args.filter fun n _ => decide (n ∈ captureNumbers ts)

variable {ts : List Token} {args : Captures}

theorem get?_restrict {n : Nat} (h : n ∈ captureNumbers ts) :
    (restrict args ts).get? n = args.get? n := by
  refine Option.ext fun v => ?_
  rw [restrict, Table.get?_filter_eq_some]
  exact and_iff_left (decide_eq_true h)

/-- captures that bind every number of the tokens suit them when restricted to these -/
theorem suits_restrict (h : ∀ n ∈ captureNumbers ts, ∃ v, args.get? n = some v ∧
    (Token.capture n).Admits v.toList) : Suits (restrict args ts) ts := by
  have hbound : ∀ n v, (restrict args ts).get? n = some v → n ∈ captureNumbers ts :=
    fun n v hv => of_decide_eq_true (Table.get?_filter_eq_some.1 hv).2
  refine ⟨fun n v hv => ?_, fun n => ⟨?_, fun hn => ?_⟩⟩
  · obtain ⟨u, hu, hadmits⟩ := h n (hbound n v hv)
    rw [get?_restrict (hbound n v hv), hu] at hv
    rwa [← Option.some.inj hv]
  · rintro ⟨v, hv⟩
    exact hbound n v hv
  · obtain ⟨v, hv, _⟩ := h n hn
    exact ⟨v, (get?_restrict hn).trans hv⟩

/-- **Substitution and matching undo each other.**  Let a pattern have no wildcards.  When it
matches a path, substituting the captures of the match gives the name of the match.  When, besides,
a character that no capture takes stands between any two of its captures, then captures that bind
each of its numbers to a non-empty run of segment characters can be substituted, and if the path
they give is clean, the pattern matches it with exactly those of the captures that it uses. -/
theorem substitute_inverts_match {p : Pattern} (hw : .wildcard ∉ p.tokens) :
    (∀ path e, p.matches? path = some e → p.substitute e.args = .ok e.name) ∧
    (Separated p.tokens → ∀ args : Captures,
      (∀ n ∈ captureNumbers p.tokens, ∃ v, args.get? n = some v ∧
        (Token.capture n).Admits v.toList) →
      ∃ path, p.substitute args = .ok path ∧
        (clean path = path → p.matches? path = some ⟨path, restrict args p.tokens⟩)) := by
  refine ⟨fun path e => substitute_of_matches? hw, fun hsep args hargs => ?_⟩
  have hsuits := suits_restrict hargs
  obtain ⟨path, hpath⟩ := exists_substitute hsuits
  refine ⟨path, ?_, matches?_of_substitute hsep hw hsuits hpath⟩
  rw [← hpath]
  exact substitute_congr fun n hn => (get?_restrict hn).symm

/-- a repeated capture, captures out of order and segment characters around them; the table binds a
number that the pattern does not use -/
theorem substitute_inverts_match_mirrored :
    .wildcard ∉ (compile "lib-$2/x$1.d/v$2").tokens ∧
    Separated (compile "lib-$2/x$1.d/v$2").tokens ∧
    (compile "lib-$2/x$1.d/v$2").substitute (Table.ofList [(1, "a.b"), (2, "core"), (7, "/")]) =
      .ok "lib-core/xa.b.d/vcore" ∧
    (compile "lib-$2/x$1.d/v$2").matches? "lib-core/xa.b.d/vcore" =
      some ⟨"lib-core/xa.b.d/vcore", Table.ofList [(1, "a.b"), (2, "core")]⟩ := by
  have hw : .wildcard ∉ (compile "lib-$2/x$1.d/v$2").tokens := by decide
  have hsep : Separated (compile "lib-$2/x$1.d/v$2").tokens := by decide
  have hargs : ∀ n ∈ captureNumbers (compile "lib-$2/x$1.d/v$2").tokens, ∃ v,
      (Table.ofList [(1, "a.b"), (2, "core"), (7, "/")] : Captures).get? n = some v ∧
        (Token.capture n).Admits v.toList := by
    have hnumbers : captureNumbers (compile "lib-$2/x$1.d/v$2").tokens = [2, 1, 2] := by decide
    rw [hnumbers]
    intro n hn
    simp only [List.mem_cons, List.not_mem_nil, or_false] at hn
    rcases hn with rfl | rfl | rfl
    · exact ⟨"core", by decide, by decide⟩
    · exact ⟨"a.b", by decide, by decide⟩
    · exact ⟨"core", by decide, by decide⟩
  have hrestrict : restrict (Table.ofList [(1, "a.b"), (2, "core"), (7, "/")])
      (compile "lib-$2/x$1.d/v$2").tokens = Table.ofList [(1, "a.b"), (2, "core")] := by decide
  have hpath : (compile "lib-$2/x$1.d/v$2").substitute
      (Table.ofList [(1, "a.b"), (2, "core"), (7, "/")]) = .ok "lib-core/xa.b.d/vcore" := by decide
  obtain ⟨path, hsubst, hmatch⟩ := (substitute_inverts_match hw).2 hsep _ hargs
  obtain rfl : "lib-core/xa.b.d/vcore" = path := Except.ok.inj (hpath.symm.trans hsubst)
  rw [hrestrict] at hmatch
  exact ⟨hw, hsep, hpath, hmatch (by decide)⟩

/-- values that can shift are not found again -/
example : (compile "$1$2").substitute (Table.ofList [(1, "a"), (2, "bb")]) = .ok "abb" ∧
    (compile "$1$2").matches? "abb" = some ⟨"abb", Table.ofList [(1, "ab"), (2, "b")]⟩ := by
  decide

end PatternBuild.Pattern
