import AnimationGraph.Text.Pattern

/-! # Code effects

A node contributes a few lines of code. Effects change these lines: the code can be run once for each
element of some lists, a line can be put in front, and failures can be answered with default values.
-/

namespace AnimationGraph

/-- An input that is a list where the code expects a single element. -/
structure VectorInput where
 (base list : String)
 index : Int
 /-- A shorter list is repeated. -/
 extends? : Bool := true
 /-- Literal of the element that stands for an empty list. -/
 default? : Option String := none

/-- An output that collects the single results of the code. -/
structure VectorOutput where
 (base list : String)
 index : Int

/-- A change of the code that a node contributes. -/
inductive CodeChange where
 | unchanged
 /-- Run the code once for each element of lists. -/
 | vectorize (inputs : List VectorInput) (outputs : List VectorOutput)
 | prepend (line : String)
 /-- On this failure, give the required outputs their default values. -/
 | defaultsOn (failure : String)

/-- What an effect sees of an output. -/
structure OutputView where
 isLinked : Bool
 (identifier variableName : String)
 /-- Expression for its default value, if it has one of its own. -/
 defaultCode : Option String

def joinLines (ls : Texts) : String := "\n".intercalate ls
def splitLines (code : String) : Texts := (code.toList.splitOn '\n').map .ofList
def indentation (levels : Nat) : String := .ofList (.replicate (4 * levels) ' ')
def indentCode (code : String) : Texts := (Letters.lines code).map (indentation 1 ++ ·)

namespace CodeChange

def elementName (base : String) : String := "_base_" ++ base

/-- Expressions in the lines around the code. -/
inductive Expr where
 | name (x : String)
 | length (x : String)
 | longest (xs : Texts)
 | shortest (xs : Texts)
 | newList (output : Int)
 | default (input : Int) (literal? : Option String)
 | single (a : Expr)
 | cycle (a : Expr)
 | zip (xs : Texts)

def Expr.text : Expr -> String
 | name x => x
 | length x => s!"len({x})"
 | longest xs => s!"max({lengths xs})"
 | shortest xs => s!"min({lengths xs})"
 | newList i => s!"self.outputs[{i}].getDefaultValue()"
 | default i none => s!"self.inputs[{i}].baseType.getDefaultValue()"
 | default i (some literal) => s!"self.inputs[{i}].baseType.correctValue({literal})[0]"
 | single a => s!"[{a.text}]"
 | cycle a => s!"itertools.cycle({a.text})"
 | zip xs => "zip(" ++ ", ".intercalate xs ++ ")"
where
 lengths (xs : Texts) : String := ", ".intercalate (xs.map fun x => s!"len({x})")

/-- How long a list is, compared with the number of rounds. -/
inductive Test where
 | reaches (x : String)
 | isEmpty (x : String)
 | below (x : String)

def Test.text : Test -> String
 | reaches x => s!"len({x}) >= iterations"
 | isEmpty x => s!"len({x}) == 0"
 | below x => s!"len({x}) < iterations"

inductive Step where
 | assign (x : String) (a : Expr)
 /-- Assign by the first test that holds. -/
 | choose (x : String) (arms : List (Test × Expr))
 | append (x y : String)

def Step.lines : Step -> Texts
 | assign x a => [s!"{x} = {a.text}"]
 | choose x arms => arms.zipIdx.flatMap fun ((test, a), i) =>
  [(if i == 0 then "if " else "elif ") ++ test.text ++ ":", s!"    {x} = {a.text}"]
 | append x y => [s!"{x}.append({y})"]

structure Loop where
 setup : List Step
 (targets body : Texts)
 appends : List Step

def Loop.lines (p : Loop) : Texts :=
 p.setup.flatMap Step.lines ++ ["for " ++ ", ".intercalate p.targets ++ " in vectorizeIterator:"] ++ p.body
  ++ (p.appends.flatMap Step.lines).map ("    " ++ ·) ++ ["    pass"]

variable (inputs : List VectorInput) (x : VectorInput)

/-- How many rounds there are: as many as the shortest list that cannot be extended has elements, or
if all can be extended, as many as the longest. -/
def rounds : Expr :=
 match inputs.filter (!·.extends?) with
 | [] => .longest (inputs.map (·.list))
 | [x] => .length x.list
 | fixed => .shortest (fixed.map (·.list))

def iterator : String := x.list ++ "_iter"

def extension : Step :=
 if x.extends? then .choose (iterator x) [(.reaches x.list, .name x.list),
  (.isEmpty x.list, .cycle (.single (.default x.index x.default?))), (.below x.list, .cycle (.name x.list))]
 else .assign (iterator x) (.name x.list)

def iteration : List Step :=
 match inputs with
 | [x] => [.assign "vectorizeIterator" (.name x.list)]
 | _ => .assign "iterations" (rounds inputs) :: inputs.map extension
  ++ [.assign "vectorizeIterator" (.zip (inputs.map iterator))]

def loop (filled : List VectorOutput) (body : String) : Loop where
 setup := filled.map (fun o => .assign o.list (.newList o.index)) ++ iteration inputs
 targets := inputs.map (elementName ·.base)
 body := indentCode body
 appends := filled.map fun o => .append o.list (elementName o.base)

/-- Why an effect cannot be applied. -/
inductive Fault where
 | noSuchOutput
 | renaming (fault : ReplacementFault)

def Fault.cause : Fault -> Cause
 | .noSuchOutput => .index
 | .renaming fault => fault.cause

variable (outputs : List VectorOutput) (views : List OutputView) (code : String)

/-- An output by its position; negative positions count from the end. -/
def viewAt (j : Int) : Except Fault OutputView :=
 let i := if j < 0 then j + views.length else j
 match (if i < 0 then none else views[i.toNat]?) with
 | some view => .ok view
 | none => .error .noSuchOutput

/-- The lists that the code fills: those of linked outputs that are not inputs as well. -/
def filledLists (views : List OutputView) (inputs : List VectorInput) :
  List VectorOutput -> Except Fault (List VectorOutput)
 | [] => .ok []
 | o :: rest => do
  let view <- viewAt views o.index
  let more <- filledLists views inputs rest
  return if view.isLinked && !inputs.any (·.list == o.list) then o :: more else more

/-- Names of single elements in place of the names that the code uses. -/
def renameElements :
  Except Fault String :=
 (inputs.map (·.base) ++ outputs.map (·.base)).foldlM
  (fun code name => (Names.renameAny code name (elementName name)).mapError .renaming) code

def vectorizedLines : Except Fault Texts :=
 if inputs.isEmpty then .ok [code]
 else return (loop inputs (<- filledLists views inputs outputs) (<- renameElements inputs outputs code)).lines

def defaultLines (req : Texts) : Texts :=
 views.zipIdx.filterMap fun (view, i) =>
  if req.contains view.identifier then
   let v := view.defaultCode.getD ("self.outputs[" ++ toString i ++ "].getDefaultValue()")
   some ("    " ++ view.variableName ++ " = " ++ v)
  else none

def apply (e : CodeChange) (views : List OutputView) (req : Texts) (code : String) :
  Except Fault String :=
 match e with
 | .unchanged => .ok code
 | .vectorize inputs outs => (vectorizedLines inputs outs views code).map joinLines
 | .prepend line => .ok (joinLines [line, code])
 | .defaultsOn failure =>
  .ok (joinLines (["try:"] ++ indentCode code ++ ["    pass", "except " ++ failure ++ ":"]
   ++ defaultLines views req ++ ["    pass"]))

end CodeChange
end AnimationGraph
