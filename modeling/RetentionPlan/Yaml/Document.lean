import RetentionPlan.Yaml.Datum
import RetentionPlan.Yaml.NodeGrammar
import RetentionPlan.Yaml.Scalar

/-!
# Values of documents

Every node that the root reaches is given its value. Mappings take in what their merge keys name;
what they have themselves comes later and so counts.
-/
namespace RetentionPlan.Yaml

/-- The state of finding values. -/
structure Valuation where
  nodes : Nodes
  data : Array (Option Datum)
  /-- The collections whose parts have no values yet. -/
  pending : List Nat := []

/-- A step of finding values. -/
abbrev Evaluate (α : Type) := StateT Valuation (Except Error) α

namespace Valuation

def node (i : Nat) : Evaluate Node := do
  match (← get).nodes[i]? with
  | some n => return n
  | none => throw .malformed

/-- The text that a node stands for. A mapping stands for the value of its default key. -/
def textOf (fuel : Nat) (i : Nat) : Evaluate String :=
  match fuel with
  | 0 => throw .malformed
  | fuel + 1 => do
    match (← node i).content with
    | .scalar text => return text
    | .sequence _ => throw .malformed
    | .mapping entries =>
      let nodes := (← get).nodes
      match entries.find? fun (key, _) => (nodes[key]?.map (·.kind)) = some .default with
      | some (_, value) => textOf fuel value
      | none => throw .malformed

/-- Takes the first merge key out of a mapping; its value. -/
def takeMerge (i : Nat) : Evaluate (Option Nat) := do
  let nodes := (← get).nodes
  let entries := (nodes.entries? i).getD []
  let isMerge := fun (entry : Nat × Nat) => (nodes[entry.1]?.map (·.kind)) = some .merge
  match entries.find? isMerge with
  | none => return none
  | some (_, value) =>
    let rest := entries.takeWhile (!isMerge ·) ++ (entries.dropWhile (!isMerge ·)).tail
    modify fun st => { st with nodes := st.nodes.setContent i (.mapping rest) }
    return some value

/-- Makes a default key plain text. -/
def retag (nodes : Nodes) (key : Nat) : Nodes :=
  nodes.modify key fun n => if n.kind = .default then { n with kind := .text } else n

mutual
/-- Puts what the merge keys of a mapping name in front of its own entries. -/
def flatten (fuel : Nat) (i : Nat) : Evaluate Unit :=
  match fuel with
  | 0 => throw .malformed
  | fuel + 1 => do
    let merged ← merges fuel i
    modify fun st =>
      let own := (st.nodes.entries? i).getD []
      let nodes := own.foldl (fun nodes entry => retag nodes entry.1) st.nodes
      { st with nodes := nodes.setContent i (.mapping (merged ++ own)) }

/-- The entries that the merge keys of a mapping name. The keys are taken out. -/
def merges (fuel : Nat) (i : Nat) : Evaluate (List (Nat × Nat)) :=
  match fuel with
  | 0 => throw .malformed
  | fuel + 1 => do
    match ← takeMerge i with
    | none => return []
    | some value =>
      let first ← match (← node value).content with
        | .mapping _ => mergedFrom fuel [value]
        | .sequence items => mergedFrom fuel items
        | .scalar _ => throw .malformed
      return first ++ (← merges fuel i)

/-- The entries of several mappings, those of the last one first. -/
def mergedFrom (fuel : Nat) : List Nat → Evaluate (List (Nat × Nat))
  | [] => return []
  | j :: rest => do
    match fuel with
    | 0 => throw .malformed
    | fuel + 1 =>
      match (← node j).content with
      | .mapping _ =>
        flatten fuel j
        let entries := ((← get).nodes.entries? j).getD []
        let others ← mergedFrom fuel rest
        return others ++ entries
      | _ => throw .malformed
end

/-- Gives a node its value; a collection begins empty and is filled in later. -/
def evaluate (i : Nat) : Evaluate Datum := do
  match (← get).data[i]?.join with
  | some datum => return datum
  | none =>
    let n ← node i
    let text := do textOf ((← get).nodes.size + 1) i
    let later (datum : Datum) : Evaluate Datum := do
      modify fun st => { st with pending := st.pending ++ [i] }
      return datum
    let datum ← match n.kind with
      | .null => do
        let _ ← text
        pure Datum.null
      | .bool => do pure (.bool (← Scalar.bool (← text)))
      | .int => do pure (.int (← Scalar.int (← text)))
      | .float => do pure (.float (← Scalar.float (← text)))
      | .bytes => do pure (.bytes (← Scalar.bytes (← text)))
      | .moment => do
        let s ← text
        match n.content with
        | .scalar _ => pure (.moment (← Scalar.moment s))
        | _ => throw .noMomentText
      | .text => do pure (.text (← text))
      | .sequence => later (.sequence [])
      | .mapping => later (.mapping [])
      | .orderedMapping | .pairs => later (.pairs [])
      | .set => later (.set [])
      | .merge | .default | .unknown => throw .malformed
    modify fun st => { st with data := st.data.setIfInBounds i (some datum) }
    return datum

def evaluateEntry (entry : Nat × Nat) : Evaluate Unit := do
  if !(← evaluate entry.1).isKey then throw .malformed
  let _ ← evaluate entry.2

/-- The entries of a mapping with its merge keys resolved, all evaluated. -/
def mappingOf (i : Nat) : Evaluate (List (Nat × Nat)) := do
  match (← node i).content with
  | .mapping _ =>
    let nodes := (← get).nodes
    let size := nodes.foldl (fun n node => match node.content with
      | .mapping entries => n + entries.length
      | .sequence items => n + items.length
      | .scalar _ => n) 0
    flatten (3 * size + 3) i
    let entries := ((← get).nodes.entries? i).getD []
    entries.forM evaluateEntry
    return entries
  | _ => throw .malformed

/-- The pairs of a sequence of mappings with one entry each, all evaluated. -/
def pairsOf (i : Nat) : Evaluate (List (Nat × Nat)) := do
  match (← node i).content with
  | .sequence items =>
    items.mapM fun item => do
      match (← node item).content with
      | .mapping [(key, value)] =>
        let _ ← evaluate key
        let _ ← evaluate value
        return (key, value)
      | _ => throw .malformed
  | _ => throw .malformed

def fill (i : Nat) : Evaluate Unit := do
  let datum ← match (← evaluate i) with
    | .sequence _ => do
      match (← node i).content with
      | .sequence items =>
        items.forM fun item => do
          let _ ← evaluate item
        pure (Datum.sequence items)
      | _ => throw .malformed
    | .mapping _ => do pure (.mapping (← mappingOf i))
    | .set _ => do pure (.set ((← mappingOf i).map (·.1)))
    | .pairs _ => do pure (.pairs (← pairsOf i))
    | datum => pure datum
  modify fun st => { st with data := st.data.setIfInBounds i (some datum) }

/-- Fills in all collections in the order in which they were met. -/
def fillAll (fuel : Nat) : Evaluate Unit :=
  match fuel with
  | 0 => pure ()
  | fuel + 1 => do
    match (← get).pending with
    | [] => pure ()
    | i :: rest =>
      modify fun st => { st with pending := rest }
      fill i
      fillAll fuel

end Valuation

namespace Document

/-- Reads the only document of a text. A text without one has no value. -/
def read : Reader := fun text => do
  match ← nodesOf text with
  | none => return none
  | some (nodes, root) =>
    let evaluation : Evaluate Unit := do
      let _ ← Valuation.evaluate root
      Valuation.fillAll (nodes.size + 1)
    let ((), st) ← evaluation.run ⟨nodes, Array.replicate nodes.size none, []⟩
    return some ⟨st.data, (st.data[root]?.join).getD .null⟩

end Document
end RetentionPlan.Yaml
