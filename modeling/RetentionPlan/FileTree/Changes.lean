import RetentionPlan.FileTree.Node

/-!
# What became of a tree

The directories and files of a tree that another tree does not have in this form, in the order in
which they can be made.
-/
namespace RetentionPlan

/-- Something to be made at the end of some components. -/
inductive Change where
  | directory (parts : List String)
  | file (parts : List String) (content : ByteArray)

namespace FileNode

mutual
/-- What has to be made for a node whose place is given, where `old` stands now. -/
def changes (old : Option FileNode) (parts : List String) : FileNode → List Change
  | file content _ =>
    match old with
    | some (file before _) => if before.data = content.data then [] else [.file parts content]
    | _ => [.file parts content]
  | directory entries =>
    match old with
    | some (directory before) => entryChanges (directory before) parts entries
    | _ => .directory parts :: entryChanges (directory []) parts entries

/-- What has to be made for the entries of a directory, where `old` stands now. -/
def entryChanges (old : FileNode) (parts : List String) : List (String × FileNode) → List Change
  | [] => []
  | (name, node) :: rest =>
    node.changes (old.child? name) (parts ++ [name]) ++ entryChanges old parts rest
end

end FileNode
end RetentionPlan
