import PatternBuild.Rules.Header

/-!
# Reading rule files

A rule file is the union of its blocks, in order: every block is read by itself, steps are
appended and templates bound to their names, and no two templates may share a name.  The first
block that is at fault decides; what stopped the cutting into blocks comes last.
-/

namespace PatternBuild

namespace Program

/-- add what one block declares -/
def addBlock (p : Program) (b : Block) : Except Fault Program :=
  match b.declaration with
  | .error problem => .error (.malformed b.line problem)
  | .ok (.step s) => .ok { p with steps := p.steps ++ [s] }
  | .ok (.template name t) =>
    if p.templates.contains name then .error (.malformed b.line (.duplicateTemplate name))
    else .ok { p with templates := p.templates.insert name t }

/-- add blocks in order, up to the first fault -/
def addBlocks (p : Program) (bs : List Block) : Except Fault Program := bs.foldlM addBlock p

/-- read a rule file -/
def parse (text : String) : Except Fault Program := do
  let (blocks, fault) := readBlocks (significantLines text.toList)
  let p ← empty.addBlocks blocks
  match fault with
  | none => return p
  | some f => throw f

end Program

end PatternBuild
