import RetentionPlan.FileTree.Workspace

/-!
# The contents of files

What a path leads to tells the text that is read there. The files of a tree can all be given the
same contents, and then every path leads to what it led to before, but for these contents.
-/
namespace RetentionPlan

namespace FileNode

def bytes? : FileNode → Option ByteArray
  | file content _ => some content
  | directory _ => none

mutual
/-- The node with the given bytes and time for every file. -/
def refill (content : ByteArray) (modified : Int) : FileNode → FileNode
  | file .. => file content modified
  | directory es => directory (refillEntries content modified es)

/-- The entries with the given bytes and time for every file. -/
def refillEntries (content : ByteArray) (modified : Int) :
    List (String × FileNode) → List (String × FileNode)
  | [] => []
  | (name, node) :: rest =>
    (name, node.refill content modified) :: refillEntries content modified rest
end

variable (content : ByteArray) (modified : Int)

@[simp]
theorem isDirectory_refill (node : FileNode) :
    (node.refill content modified).isDirectory = node.isDirectory := by
  cases node <;> simp [refill, isDirectory]

theorem find?_refillEntries (name : String) (es : List (String × FileNode)) :
    ((refillEntries content modified es).find? (·.1 == name)).map (·.2) =
      ((es.find? (·.1 == name)).map (·.2)).map (refill content modified) := by
  induction es with
  | nil => simp [refillEntries]
  | cons e rest ih =>
    obtain ⟨other, node⟩ := e
    by_cases h : other == name
    · simp [refillEntries, h]
    · simpa [refillEntries, h] using ih

@[simp]
theorem child?_refill (node : FileNode) (name : String) :
    (node.refill content modified).child? name =
      (node.child? name).map (refill content modified) := by
  cases node with
  | file _ _ => simp [refill, child?, entries]
  | directory es =>
    rw [refill]
    exact find?_refillEntries content modified name es

end FileNode

namespace Workspace
variable {w : Workspace} {path : Path}

theorem readText_of_bytes? {w' : Workspace} {node node' : FileNode} {text : String}
    (hnode : w.stat path = .ok node) (hnode' : w'.stat path = .ok node')
    (hbytes : node.bytes? = node'.bytes?) (h : w.readText path = .ok text) :
    w'.readText path = .ok text := by
  unfold readText readBytes at h ⊢
  rw [hnode] at h
  rw [hnode']
  cases node <;> cases node' <;> simp_all [FileNode.bytes?]

/-- The workspace with the given bytes and time for every file. -/
def refill (w : Workspace) (content : ByteArray) (modified : Int) : Workspace :=
  { w with top := w.top.refill content modified }

theorem walk_refill (content : ByteArray) (modified : Int) (parts : List String)
    (above : List FileNode) (node : FileNode) :
    walk (above.map (.refill content modified)) (node.refill content modified) parts =
      (walk above node parts).map (.refill content modified) := by
  induction parts generalizing above node with
  | nil => rfl
  | cons part rest ih =>
    have hback : (above.map (FileNode.refill content modified)).headD
        (node.refill content modified) =
        (above.headD node).refill content modified := by
      cases above <;> rfl
    unfold walk
    simp only [FileNode.isDirectory_refill, FileNode.child?_refill, hback, ← List.map_tail, ih]
    split
    · rfl
    · split
      · rfl
      · split
        · rfl
        · cases node.child? part with
          | none => rfl
          | some child => exact ih (node :: above) child

/-- Every path leads to what it led to, but for the contents of files. -/
theorem stat_refill (content : ByteArray) (modified : Int) {node : FileNode}
    (h : w.stat path = .ok node) :
    (w.refill content modified).stat path = .ok (node.refill content modified) := by
  have hparts : (w.refill content modified).absoluteParts path = w.absoluteParts path := rfl
  have hwalk := walk_refill content modified (w.absoluteParts path) [] w.top
  rw [List.map_nil] at hwalk
  unfold stat at h ⊢
  dsimp only at h ⊢
  rw [hparts, show (w.refill content modified).top = w.top.refill content modified from rfl, hwalk]
  split at h
  · cases h
  · next hnull =>
    rw [if_neg hnull]
    split at h
    · cases h
    · next hlong =>
      rw [if_neg hlong]
      cases hw : walk [] w.top (w.absoluteParts path) with
      | error cause => simp [hw] at h
      | ok found =>
        rw [hw] at h
        obtain rfl := Except.ok.inj h
        rfl

end Workspace
end RetentionPlan
