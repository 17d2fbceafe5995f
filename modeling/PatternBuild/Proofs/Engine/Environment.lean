import PatternBuild.Engine.Action
import PatternBuild.Proofs.Table

/-!
# The variables of an invocation

A script finds its captured values under names that end in their numbers.  No name is used twice,
and the captures can be read off the variables again (`environment_unambiguous`): a number is
found behind the fixed start of its name, where only its own digits stand.

* `argument?_argVariable`     a name gives its number back;
* `filterMap_argument?`       so the variables give back all bindings, and nothing else.
-/

namespace PatternBuild

namespace Invocation

variable {i j : Invocation} {m n : Nat}

/-! ## reading variables -/

/-- the number and the value of a capture, if a variable holds one -/
def argument? : String × String → Option (Nat × String)
  | (name, v) => ("POUL_ARG_".toList.isPrefixOf? name.toList).map fun digits =>
      (Nat.ofDigitChars 10 digits 0, v)

/-- the captures that variables hold -/
def capturesIn (pairs : List (String × String)) : Captures :=
  Table.ofList (pairs.filterMap argument?)

theorem argument?_argVariable (n : Nat) (v : String) :
    argument? (argVariable n, v) = some (n, v) := by
  have hname : (argVariable n).toList = "POUL_ARG_".toList ++ Nat.toDigits 10 n := by
    rw [argVariable, String.toList_append, Nat.toString_eq_repr, Nat.toList_repr]
  have hdigits : "POUL_ARG_".toList.isPrefixOf? (argVariable n).toList =
      some (Nat.toDigits 10 n) := List.isPrefixOf?_eq_some_iff_append_eq.2 hname.symm
  rw [argument?, hdigits, Option.map_some, Nat.ofDigitChars_ten_toDigits]

theorem argVariable_injective (h : argVariable m = argVariable n) : m = n := by
  have hread := argument?_argVariable m ""
  rw [h, argument?_argVariable] at hread
  exact (congrArg Prod.fst (Option.some.inj hread)).symm

theorem filterMap_argument? (i : Invocation) : i.environment.filterMap argument? = i.args.entries := by
  have hsource : argument? (sourceVariable, " ".intercalate i.sources) = none := rfl
  have hdest : argument? (destinationVariable, " ".intercalate i.destinations) = none := rfl
  rw [environment, List.filterMap_cons_none hsource, List.filterMap_cons_none hdest,
    List.filterMap_map]
  calc i.args.entries.filterMap (argument? ∘ fun e => (argVariable e.1, e.2))
      = i.args.entries.filterMap some :=
        List.filterMap_congr fun e _ => argument?_argVariable e.1 e.2
    _ = i.args.entries := List.filterMap_some

theorem capturesIn_environment (i : Invocation) : capturesIn i.environment = i.args := by
  rw [capturesIn, filterMap_argument?, Table.ofList_entries]

/-! ## names -/

theorem map_fst_environment (i : Invocation) : i.environment.map Prod.fst =
    sourceVariable :: destinationVariable :: i.args.keys.map argVariable := by
  rw [environment, List.map_cons, List.map_cons, List.map_map, Table.keys, List.map_map]
  rfl

/-- a fixed name is none of a capture -/
theorem ne_argVariable {name : String} (h : argument? (name, "") = none) (n : Nat) :
    name ≠ argVariable n := by
  rintro rfl
  rw [argument?_argVariable] at h
  cases h

theorem nodup_names (i : Invocation) : (i.environment.map Prod.fst).Nodup := by
  have hsource : ∀ n, sourceVariable ≠ argVariable n := ne_argVariable rfl
  have hdest : ∀ n, destinationVariable ≠ argVariable n := ne_argVariable rfl
  have hargs : (i.args.keys.map argVariable).Nodup :=
    i.args.keys_nodup.map fun _ _ => argVariable_injective
  rw [map_fst_environment, List.nodup_cons, List.nodup_cons]
  refine ⟨?_, ?_, hargs⟩
  · rw [List.mem_cons, List.mem_map, not_or]
    refine ⟨by decide, ?_⟩
    rintro ⟨n, _, hn⟩
    exact hsource n hn.symm
  · rw [List.mem_map]
    rintro ⟨n, _, hn⟩
    exact hdest n hn.symm

/-! ## the whole list -/

/-- **The variables of an invocation are unambiguous.**  Their names are pairwise different: those
of the sources and the destinations, and then one for each captured number, in ascending order of
the numbers.  The captures can be read off the variables, so two invocations have the same variables
if and only if they have the same captures and the same joined sources and destinations. -/
theorem environment_unambiguous (i : Invocation) :
    (i.environment.map Prod.fst).Nodup ∧
    (∃ numbers : List Nat, numbers.Pairwise (· < ·) ∧
      (∀ n, n ∈ numbers ↔ ∃ v, i.args.get? n = some v) ∧
      i.environment.map Prod.fst =
        "POUL_SRC" :: "POUL_DEST" :: numbers.map fun n => "POUL_ARG_" ++ toString n) ∧
    capturesIn i.environment = i.args ∧
    ∀ j : Invocation, i.environment = j.environment ↔
      i.args = j.args ∧ " ".intercalate i.sources = " ".intercalate j.sources ∧
        " ".intercalate i.destinations = " ".intercalate j.destinations := by
  refine ⟨nodup_names i, ⟨i.args.keys, i.args.keys_ascending, fun n => Table.mem_keys,
    map_fst_environment i⟩, capturesIn_environment i, fun j => ⟨fun h => ?_, ?_⟩⟩
  · have hargs : i.args = j.args := by
      rw [← capturesIn_environment i, h, capturesIn_environment]
    obtain ⟨hsources, hrest⟩ := List.cons.inj h
    have hdests := List.head_eq_of_cons_eq hrest
    exact ⟨hargs, congrArg Prod.snd hsources, congrArg Prod.snd hdests⟩
  · rintro ⟨hargs, hsources, hdests⟩
    rw [environment, hargs, hsources, hdests, ← environment]

/-- ten comes after two, and joining does not tell where one source ends -/
example : (⟨"", ["a b"], [], Table.ofList [(10, "x"), (2, "y")]⟩ : Invocation).environment =
    [("POUL_SRC", "a b"), ("POUL_DEST", ""), ("POUL_ARG_2", "y"), ("POUL_ARG_10", "x")] ∧
    (⟨"", ["a", "b"], [], Table.ofList [(10, "x"), (2, "y")]⟩ : Invocation).environment =
      (⟨"", ["a b"], [], Table.ofList [(10, "x"), (2, "y")]⟩ : Invocation).environment := by
  decide

end Invocation

end PatternBuild
