/-! # Scripts

Networks of nodes are turned into scripts, and scripts are run.
-/

namespace AnimationGraph.Script

inductive Unary where
 | neg | pos | not | invert

inductive Binary where
 | add | sub | mul | div | floorDiv | mod | pow | matMul
 | shiftLeft | shiftRight | bitAnd | bitOr | bitXor

inductive Relation where
 | eq | ne | lt | le | gt | ge | is | isNot | isIn | notIn

inductive Collector where
 | list | set | dict | lazy

inductive Passing where
 | plain
 | named (name : String)
 | spread | spreadNamed

mutual

inductive Expr where
 | name (s : String)
 | none | ellipsis
 | bool (b : Bool)
 | int (i : Int)
 | float (x : Float)
 | imaginary (x : Float)
 | str (s : String)
 | bytes (data : List UInt8)
 | attr (e : Expr) (name : String)
 | item (e index : Expr)
 | slice (start stop step : Option Expr)
 | call (f : Expr) (args : List Arg)
 | unary (op : Unary) (e : Expr)
 | binary (op : Binary) (left right : Expr)
 | both (left right : Expr)
 | either (left right : Expr)
 | compare (first : Expr) (rest : List Comparison)
 | cond (test yes no : Expr)
 | tuple (items : List Expr)
 | list (items : List Expr)
 | set (items : List Expr)
 | dict (entries : List Entry)
 | collect (into : Collector) (element : Expr) (value : Option Expr) (clauses : List Clause)
 | lambda (params : List Param) (body : Expr)
 | starred (e : Expr)
 | joined (parts : List Piece)
 | named (target : String) (value : Expr)
 | yielding (value : Option Expr)
 | yieldingFrom (value : Expr)
 | awaiting (value : Expr)

inductive Arg where
 | mk (passing : Passing) (value : Expr)

inductive Comparison where
 | mk (relation : Relation) (right : Expr)

inductive Entry where
 | mk (key : Option Expr) (value : Expr)

inductive Clause where
 | mk (target source : Expr) (conditions : List Expr)

inductive Piece where
 | text (s : String)
 | value (e : Expr) (conversion : Option Char) (layout : List Piece)

inductive Param where
 | plain (name : String) (default : Option Expr)
 | rest (name : String)
 | namedOnly (name : String) (default : Option Expr)
 | namedRest (name : String)

end

instance : Inhabited Expr := ⟨.none⟩

/-- What matters of a pattern: the names that it gives, whether it fits everything, and whether it can be run. -/
structure Captures where
 names : List String := []
 always : Bool := false
 sound : Bool := true

mutual

inductive Stmt where
 | mk (line : Nat) (form : Form)

inductive Form where
 | expr (e : Expr)
 | assign (targets : List Expr) (value : Expr)
 | augment (target : Expr) (op : Binary) (value : Expr)
 | annotate (target : Expr) (value : Option Expr)
 | delete (targets : List Expr)
 | pass | break | continue
 | return (value : Option Expr)
 | raise (value : Option Expr)
 | assert (test : Expr) (message : Option Expr)
 | global (names : List String)
 | nonlocal (names : List String)
 | importing (names : List (String × Option String))
 | importingFrom (module : String) (names : List (String × Option String))
 | cond (test : Expr) (yes no : List Stmt)
 | loop (target source : Expr) (body otherwise : List Stmt)
 | while (test : Expr) (body otherwise : List Stmt)
 | attempt (body : List Stmt) (handlers : List Handler) (otherwise final : List Stmt)
 | using (items : List (Expr × Option Expr)) (body : List Stmt)
 | choose (subject : Expr) (cases : List Case)
 | define (name : String) (params : List Param) (body : List Stmt)
 | classDef (name : String) (bases : List Arg) (body : List Stmt)
 /-- A function, a loop or a use of something that can be suspended. -/
 | suspended (form : Form)

inductive Handler where
 | mk (caught : Option Expr) (name : Option String) (body : List Stmt)

inductive Case where
 | mk (pattern : Captures) (condition : Option Expr) (body : List Stmt)

end

instance : Inhabited Stmt := ⟨.mk 0 .pass⟩

structure Function where
 name : String
 params : List Param
 body : List Stmt
 deriving Inhabited

end AnimationGraph.Script
