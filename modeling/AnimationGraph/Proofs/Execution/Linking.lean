import AnimationGraph.Proofs.Execution.Units
import AnimationGraph.Proofs.Forest.Needed
import AnimationGraph.Proofs.Forest.Types

/-! # Linking units

When units are set up, every function that a subprogram has got is put among the variables of all units.  Units may come
several times, and each time they get other functions; the last ones are those that count.
-/

namespace AnimationGraph

open List

variable {s : Setting}
 {table : CellId}

def World.bound? (w : World) (table : CellId) (name : String) : Option Value :=
 match w.cell table with
 | .dict es => (es.find? (·.1.is name)).map (·.2)
 | _ => none

namespace Setting

end Setting

namespace Network

end Network

namespace Survey

open Relation (TransGen ReflTransGen)

end Survey

namespace Setting

open Relation (TransGen)

variable {id : String} {m : Network} (whole : s.survey = .ofOutline o)
 (valid : ∀ n ∈ s.survey.networks, n.type ≠ .invalid) (made : s.programs = s.survey.programs)

include whole valid made

variable (straight : ∀ n, ¬ TransGen s.survey.Invokes n n)

include straight

end Setting

/-- Beside the group `a`, which invokes the group `b`, there is a main network.  Its node refers to `a`. -/
def withMain (role : NodeRole) : Outline :=
 ⟨"main", [⟨⟨"main", "m"⟩, "Plain", role, "m", "a", "", "", [], []⟩], []⟩ :: Survey.twoGroups ""

def defining (role : NodeRole) : World where
 forest := { trees := #[{ name := "main" }, { name := "tree" }] }
 survey := .ofOutline (withMain role)
 units := (Survey.ofOutline (withMain role)).programs.map fun n => {
  network := n
  setupCode := some [.mk 1 (.define "main" [] [])]
  executeCode := some [.mk 1 (.expr (.call (.name "_subprogramb") []))] }

end AnimationGraph
