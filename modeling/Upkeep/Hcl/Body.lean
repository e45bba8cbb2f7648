import Upkeep.Document.Basic

/-!
Bodies of HCL: attributes, and blocks with labels. A body becomes a table. Labels become nested
tables; a block stands for its body, and several of the same name and labels for the list of their
bodies.
-/

set_option autoImplicit false

namespace Upkeep.Hcl

inductive Node where
  | attribute (d : Document)
  | blocks (bodies : List Document)
  | labelled (entries : List (String × Node))

/-- The entry of a name replaced, or put at the end. -/
def put (name : String) (node : Node) : List (String × Node) → List (String × Node)
  | [] => [(name, node)]
  | e :: es => if e.1 = name then (name, node) :: es else e :: put name node es

/-- A block added to what stands under its name. What is of another sort gives way. -/
def addBlock (body : Document) : List String → Option Node → Node
  | [], some (.blocks bodies) => .blocks (bodies ++ [body])
  | [], _ => .blocks [body]
  | label :: labels, some (.labelled entries) =>
    .labelled (put label (addBlock body labels (entries.lookup label)) entries)
  | label :: labels, _ => .labelled [(label, addBlock body labels none)]

mutual

def Node.toDocument : Node → Document
  | .attribute d => d
  | .blocks [body] => body
  | .blocks bodies => .list bodies
  | .labelled entries => .table (nodesToDocuments entries)

def nodesToDocuments : List (String × Node) → List (String × Document)
  | [] => []
  | (name, node) :: es => (name, node.toDocument) :: nodesToDocuments es

end

structure Body where
  nodes : List (String × Node) := []
  /-- The attributes so far, none of which may come again. -/
  attributes : List String := []

def Body.addAttribute (b : Body) (name : String) (d : Document) : Option Body :=
  if b.attributes.contains name then none
  else some ⟨put name (.attribute d) b.nodes, name :: b.attributes⟩

def Body.addBlock (b : Body) (name : String) (labels : List String) (d : Document) : Body :=
  { b with nodes := put name (Hcl.addBlock d labels (b.nodes.lookup name)) b.nodes }

def Body.toDocument (b : Body) : Document := .table (nodesToDocuments b.nodes)

end Upkeep.Hcl
