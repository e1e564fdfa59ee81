import RetentionPlan.FileTree.Error

/-!
# Trees of files

A directory holds named files and directories. Trees are looked into and changed by lists of
components, which go down from a directory.
-/
namespace RetentionPlan

/-- A file with its bytes and the time of its last change, or a directory with its entries. -/
inductive FileNode where
  | file (content : ByteArray) (modified : Int)
  | directory (entries : List (String × FileNode))
  deriving Inhabited

namespace FileNode

def isFile : FileNode → Bool
  | file .. => true
  | directory _ => false

def isDirectory : FileNode → Bool
  | file .. => false
  | directory _ => true

def entries : FileNode → List (String × FileNode)
  | file .. => []
  | directory es => es

def child? (node : FileNode) (name : String) : Option FileNode :=
  (node.entries.find? (·.1 == name)).map (·.2)

/-- The entries with one more, which takes the place of an entry of its name. -/
def setEntry (name : String) (node : FileNode) :
    List (String × FileNode) → List (String × FileNode)
  | [] => [(name, node)]
  | (other, old) :: rest =>
    if other = name then (name, node) :: rest else (other, old) :: setEntry name node rest

/-- What lies below the node at the end of `parts`. -/
def find? (node : FileNode) : List String → Option FileNode
  | [] => some node
  | part :: rest => (node.child? part).bind fun child => child.find? rest

/-- Puts a node at the end of `parts` and makes directories on the way, also where files stood. -/
def put (node : FileNode) (parts : List String) (new : FileNode) : FileNode :=
  match parts with
  | [] => new
  | part :: rest =>
    directory (setEntry part (((node.child? part).getD (directory [])).put rest new) node.entries)

def remove : FileNode → List String → FileNode
  | node, [] => node
  | node, [part] => directory (node.entries.filter (·.1 ≠ part))
  | node, part :: rest =>
    match node.child? part with
    | none => node
    | some child => directory (setEntry part (remove child rest) node.entries)

mutual
/-- The number of bytes in all files. -/
def byteCount : FileNode → Nat
  | file content _ => content.size
  | directory es => byteCounts es

/-- The number of bytes in all files of some entries. -/
def byteCounts : List (String × FileNode) → Nat
  | [] => 0
  | (_, node) :: rest => node.byteCount + byteCounts rest
end

theorem find?_put (node : FileNode) (parts : List String) (new : FileNode) :
    (node.put parts new).find? parts = some new := by
  induction parts generalizing node with
  | nil => rfl
  | cons part rest ih =>
    have step (child : FileNode) (es : List (String × FileNode)) :
        (directory (setEntry part child es)).child? part = some child := by
      induction es with
      | nil => simp [setEntry, child?, entries]
      | cons e es ih =>
        obtain ⟨other, old⟩ := e
        by_cases h : other = part
        · simp [setEntry, child?, entries, h]
        · simpa [setEntry, child?, entries, h] using ih
    simp [put, find?, step, ih]

end FileNode
end RetentionPlan
