import PatternBuild.Pattern.Basic

/-!
# What a substitution comes to

A substitution reads the captures of the tokens and no others (`substitute_congr`).  If all of them
are bound it yields the text with their values in place (`substituteAll_of_bound`), and otherwise
it names the first pattern with a capture that is not bound, and the first such capture
(`substituteAll_of_lacks`).
-/

namespace PatternBuild.Pattern

variable {args : Captures} {template : String} {ts : List Token} {p q : Pattern}
  {ps : List Pattern} {n : Nat}

/-! ## the captures that are read -/

theorem mem_captureNumbers_cons_of_mem {t : Token}
    (h : n ∈ captureNumbers ts) : n ∈ captureNumbers (t :: ts) := by
  obtain ⟨t', ht', hn⟩ := List.mem_filterMap.1 h
  exact List.mem_filterMap.2 ⟨t', List.mem_cons_of_mem _ ht', hn⟩

theorem mem_captureNumbers_capture : n ∈ captureNumbers (.capture n :: ts) :=
  List.mem_filterMap.2 ⟨_, List.mem_cons_self, rfl⟩

theorem captureNumbers_append (ts us : List Token) :
    captureNumbers (ts ++ us) = captureNumbers ts ++ captureNumbers us :=
  List.filterMap_append

/-- tables that bind the captures of the tokens alike fill them alike -/
theorem fill_congr {args' : Captures}
    (h : ∀ n ∈ captureNumbers ts, args.get? n = args'.get? n) :
    fill template args ts = fill template args' ts := by
  induction ts with
  | nil => rfl
  | cons t ts ih =>
    have hrest := ih fun n hn => h n (mem_captureNumbers_cons_of_mem hn)
    cases t with
    | literal text => exact congrArg (Except.map (text ++ ·)) hrest
    | wildcard => exact congrArg (Except.map (['*'] ++ ·)) hrest
    | capture n => rw [fill, fill, hrest, h n mem_captureNumbers_capture]

theorem substitute_congr {args' : Captures}
    (h : ∀ n ∈ captureNumbers p.tokens, args.get? n = args'.get? n) :
    p.substitute args = p.substitute args' :=
  congrArg (Except.map String.ofList) (fill_congr h)

/-! ## all captures bound -/

/-- every capture of the tokens is bound -/
def Bound (args : Captures) (ts : List Token) : Prop :=
  ∀ n ∈ captureNumbers ts, ∃ v, args.get? n = some v

/-- what stands for a token: the value of a capture, or the token as it is written -/
def Token.filled (args : Captures) : Token → List Char
  | .capture n => (args.get? n).elim [] String.toList
  | t => t.written

/-- the text of a pattern with its captures replaced by their values -/
def filled (args : Captures) (p : Pattern) : String :=
  String.ofList (p.tokens.flatMap (Token.filled args))

theorem fill_of_bound (h : Bound args ts) :
    fill template args ts = .ok (ts.flatMap (Token.filled args)) := by
  induction ts with
  | nil => rfl
  | cons t ts ih =>
    have hrest := ih fun n hn => h n (mem_captureNumbers_cons_of_mem hn)
    rw [List.flatMap_cons]
    cases t with
    | literal text => exact congrArg (Except.map (text ++ ·)) hrest
    | wildcard => exact congrArg (Except.map (['*'] ++ ·)) hrest
    | capture n =>
      obtain ⟨v, hv⟩ := h n mem_captureNumbers_capture
      rw [fill, Token.filled, hv]
      exact congrArg (Except.map (v.toList ++ ·)) hrest

theorem substitute_of_bound (h : Bound args p.tokens) : p.substitute args = .ok (filled args p) :=
  congrArg (Except.map String.ofList) (fill_of_bound h)

theorem substituteAll_of_bound (h : ∀ p ∈ ps, Bound args p.tokens) :
    substituteAll ps args = .ok (ps.map (filled args)) := by
  unfold substituteAll
  induction ps with
  | nil => rfl
  | cons p ps ih =>
    obtain ⟨hp, hps⟩ := List.forall_mem_cons.1 h
    rw [List.mapM_cons, substitute_of_bound hp, ih hps]
    rfl

/-! ## a capture that is missing -/

/-- the first capture of the tokens that is not bound -/
def FirstUnbound (args : Captures) (ts : List Token) (n : Nat) : Prop :=
  ∃ before after, ts = before ++ .capture n :: after ∧ Bound args before ∧ args.get? n = none

/-- the first pattern with a capture that is not bound, and the first such capture -/
def Lacks (args : Captures) (ps : List Pattern) (q : Pattern) (n : Nat) : Prop :=
  ∃ before after, ps = before ++ q :: after ∧ (∀ p ∈ before, Bound args p.tokens) ∧
    FirstUnbound args q.tokens n

theorem bound_or_firstUnbound (args : Captures) (ts : List Token) :
    Bound args ts ∨ ∃ n, FirstUnbound args ts n := by
  induction ts with
  | nil => exact .inl fun n hn => absurd hn List.not_mem_nil
  | cons t ts ih =>
    -- a first token that is bound leaves the question to the others
    have hcons : Bound args [t] → Bound args (t :: ts) ∨ ∃ n, FirstUnbound args (t :: ts) n := by
      intro ht
      have happend : ∀ {us}, Bound args us → Bound args (t :: us) := by
        intro us hus n hn
        rw [← List.singleton_append, captureNumbers, List.filterMap_append, List.mem_append] at hn
        exact hn.elim (ht n) (hus n)
      refine ih.imp happend ?_
      rintro ⟨n, before, after, rfl, hbefore, hn⟩
      exact ⟨n, t :: before, after, rfl, happend hbefore, hn⟩
    cases t with
    | literal text => exact hcons fun n hn => absurd hn List.not_mem_nil
    | wildcard => exact hcons fun n hn => absurd hn List.not_mem_nil
    | capture n =>
      cases hn : args.get? n with
      | none => exact .inr ⟨n, [], ts, rfl, fun m hm => absurd hm List.not_mem_nil, hn⟩
      | some v =>
        refine hcons fun m hm => ⟨v, ?_⟩
        rw [List.mem_singleton.1 hm, hn]

theorem bound_or_lacks (args : Captures) (ps : List Pattern) :
    (∀ p ∈ ps, Bound args p.tokens) ∨ ∃ q n, Lacks args ps q n := by
  induction ps with
  | nil => exact .inl (List.forall_mem_nil _)
  | cons p ps ih =>
    rcases bound_or_firstUnbound args p.tokens with hp | ⟨n, hn⟩
    · refine ih.imp (fun hps => List.forall_mem_cons.2 ⟨hp, hps⟩) ?_
      rintro ⟨q, n, before, after, rfl, hbefore, hn⟩
      exact ⟨q, n, p :: before, after, rfl, List.forall_mem_cons.2 ⟨hp, hbefore⟩, hn⟩
    · exact .inr ⟨p, n, [], ps, rfl, List.forall_mem_nil _, hn⟩

theorem fill_of_firstUnbound (h : FirstUnbound args ts n) :
    fill template args ts = .error (.missingCapture template n) := by
  obtain ⟨before, after, rfl, hbefore, hn⟩ := h
  induction before with
  | nil =>
    rw [List.nil_append, fill, hn]
  | cons t before ih =>
    have hrest := ih fun m hm => hbefore m (mem_captureNumbers_cons_of_mem hm)
    rw [List.cons_append]
    cases t with
    | literal text => exact congrArg (Except.map (text ++ ·)) hrest
    | wildcard => exact congrArg (Except.map (['*'] ++ ·)) hrest
    | capture m =>
      obtain ⟨v, hv⟩ := hbefore m mem_captureNumbers_capture
      rw [fill, hv]
      exact congrArg (Except.map (v.toList ++ ·)) hrest

theorem substitute_of_firstUnbound (h : FirstUnbound args p.tokens n) :
    p.substitute args = .error (.missingCapture p.text n) :=
  congrArg (Except.map String.ofList) (fill_of_firstUnbound h)

theorem substituteAll_of_lacks (h : Lacks args ps q n) :
    substituteAll ps args = .error (.missingCapture q.text n) := by
  obtain ⟨before, after, rfl, hbefore, hn⟩ := h
  rw [substituteAll, List.mapM_append, ← substituteAll, substituteAll_of_bound hbefore,
    List.mapM_cons, substitute_of_firstUnbound hn]
  rfl

/-- the only fault of a substitution is a capture that is not bound -/
theorem substituteAll_eq_error {f : Fault} (h : substituteAll ps args = .error f) :
    ∃ p ∈ ps, ∃ n, f = .missingCapture p.text n := by
  rcases bound_or_lacks args ps with hps | ⟨q, n, hlacks⟩
  · rw [substituteAll_of_bound hps] at h
    cases h
  · rw [substituteAll_of_lacks hlacks] at h
    obtain ⟨before, after, rfl, _⟩ := hlacks
    exact ⟨q, List.mem_append_right _ List.mem_cons_self, n, (Except.error.inj h).symm⟩

end PatternBuild.Pattern
