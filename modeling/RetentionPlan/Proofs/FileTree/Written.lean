import Mathlib.Tactic.SplitIfs
import RetentionPlan.FileTree.Workspace

/-!
# Files read back as they were written

Where a walk along components gets to is told by the tree alone: it passes directories only, and
ends at the place that the components collapse to. A file that is put there leaves every directory a
directory, so the same walk finds it.
-/
namespace RetentionPlan

namespace FileNode
variable {node new : FileNode} {parts place : List String}

def HasDirectory (node : FileNode) (parts : List String) : Prop :=
  ∃ es, node.find? parts = some (directory es)

theorem find?_append (node : FileNode) (parts rest : List String) :
    node.find? (parts ++ rest) = (node.find? parts).bind (·.find? rest) := by
  induction parts generalizing node with
  | nil => rfl
  | cons part parts ih =>
    simp only [List.cons_append, find?]
    cases node.child? part with
    | none => rfl
    | some child => exact ih child

theorem hasDirectory_cons {part : String} :
    node.HasDirectory (part :: parts) ↔
      ∃ child, node.child? part = some child ∧ child.HasDirectory parts := by
  have hfind : node.find? (part :: parts) = (node.child? part).bind (·.find? parts) := rfl
  unfold HasDirectory
  rw [hfind]
  cases node.child? part <;> simp

theorem child?_setEntry (name other : String) (child : FileNode) (es : List (String × FileNode)) :
    (directory (setEntry name child es)).child? other =
      if name = other then some child else (directory es).child? other := by
  induction es with
  | nil => by_cases h : name = other <;> simp [setEntry, child?, entries, h]
  | cons e es ih =>
    obtain ⟨first, old⟩ := e
    simp only [child?, entries] at ih
    by_cases hfirst : first = name
    · subst hfirst
      by_cases h : first = other <;> simp [setEntry, child?, entries, h]
    · by_cases hother : first = other
      · subst hother
        simp [setEntry, child?, entries, hfirst, Ne.symm hfirst]
      · simp [setEntry, child?, entries, hfirst, hother, ih]

theorem HasDirectory.put (h : node.HasDirectory parts) (hplace : ¬node.HasDirectory place)
    (new : FileNode) : (node.put place new).HasDirectory parts := by
  induction place generalizing node parts with
  | nil =>
    cases node with
    | directory es => exact absurd ⟨es, rfl⟩ hplace
    | file content modified =>
      cases parts with
      | nil =>
        obtain ⟨es, hes⟩ := h
        nomatch hes
      | cons part parts =>
        obtain ⟨child, hchild, -⟩ := hasDirectory_cons.mp h
        nomatch hchild
  | cons first place ih =>
    cases parts with
    | nil => exact ⟨_, rfl⟩
    | cons part parts =>
      obtain ⟨child, hchild, hdirectory⟩ := hasDirectory_cons.mp h
      rw [FileNode.put, hasDirectory_cons, child?_setEntry]
      by_cases heq : first = part
      · subst heq
        rw [hasDirectory_cons] at hplace
        refine ⟨_, if_pos rfl, ?_⟩
        rw [hchild, Option.getD_some]
        exact ih hdirectory fun hdeep => hplace ⟨child, hchild, hdeep⟩
      · refine ⟨child, ?_, hdirectory⟩
        rw [if_neg heq]
        exact hchild

end FileNode

namespace Path

/-- The components kept, nearest first, after one more. -/
def step (kept : List String) (part : String) : List String :=
  if part = ".." then kept.tail else part :: kept

theorem collapse_eq_foldl (kept parts : List String) :
    collapse kept parts = (parts.foldl step kept).reverse := by
  induction parts generalizing kept with
  | nil => rfl
  | cons part parts ih =>
    rw [List.foldl_cons, step]
    split_ifs with hup
    · rw [hup, collapse, ih]
    · rw [← ih, collapse]
      exact hup

end Path

namespace Workspace

/-! ## Walks -/

/-- The names and the nodes passed on the way down to a node, nearest first. -/
inductive Passed (top : FileNode) : List String → List FileNode → FileNode → Prop
  | top : Passed top [] [] top
  | down {names : List String} {above : List FileNode} {node child : FileNode} {part : String}
      (h : Passed top names above node) (hchild : node.child? part = some child) :
      Passed top (part :: names) (node :: above) child

/-- A walk meets directories only, and its components are short enough. -/
def Leads (top : FileNode) : List String → List String → Prop
  | _, [] => True
  | names, part :: rest => top.HasDirectory names.reverse ∧
      (part ≠ ".." → part.utf8ByteSize ≤ maxComponent) ∧ Leads top (Path.step names part) rest

section Walks
variable {top node found : FileNode} {names parts rest : List String} {above : List FileNode}

theorem Passed.find? (h : Passed top names above node) : top.find? names.reverse = some node := by
  induction h with
  | top => rfl
  | down _ hchild ih =>
    rw [List.reverse_cons, FileNode.find?_append, ih, Option.bind_some, FileNode.find?, hchild]
    rfl

/-- A double dot leads to the directory before. -/
theorem Passed.up (h : Passed top names above node) :
    Passed top names.tail above.tail (above.headD node) := by
  cases h with
  | top => exact .top
  | down h _ => exact h

/-- Where a walk starts that gets somewhere, something stands. -/
theorem Leads.find?_ne_none (h : Leads top names parts)
    (hfound : top.find? (parts.foldl Path.step names).reverse = some found) :
    top.find? names.reverse ≠ none := by
  cases parts with
  | nil =>
    rw [List.foldl_nil] at hfound
    simp [hfound]
  | cons part rest =>
    obtain ⟨⟨es, hes⟩, -⟩ := h
    simp [hes]

/-- A walk gets to a node exactly if it leads there and the node stands at the place that the
components collapse to. -/
theorem walk_eq_ok_iff (h : Passed top names above node) :
    walk above node parts = .ok found ↔
      Leads top names parts ∧ top.find? (parts.foldl Path.step names).reverse = some found := by
  induction parts generalizing names above node with
  | nil => simp [walk, Leads, h.find?]
  | cons part rest ih =>
    rw [List.foldl_cons, Leads]
    unfold walk
    split_ifs with hfile hup hlong
    · -- A file leads nowhere.
      have hnone : ¬top.HasDirectory names.reverse := by
        rintro ⟨es, hes⟩
        obtain rfl := Option.some.inj (h.find?.symm.trans hes)
        simp [FileNode.isDirectory] at hfile
      simp [hnone]
    all_goals
      have hdirectory : top.HasDirectory names.reverse := by
        rw [FileNode.HasDirectory, h.find?]
        cases node with
        | file => simp [FileNode.isDirectory] at hfile
        | directory es => exact ⟨es, rfl⟩
    · subst hup
      rw [ih h.up, Path.step, if_pos rfl]
      simp [hdirectory]
    · have hlong' : ¬part.utf8ByteSize ≤ maxComponent := Nat.not_le.mpr hlong
      simp [hup, hlong']
    · have hstep : Path.step names part = part :: names := if_neg hup
      cases hchild : node.child? part with
      | none =>
        have hgone : top.find? (part :: names).reverse = none := by
          rw [List.reverse_cons, FileNode.find?_append, h.find?, Option.bind_some, FileNode.find?,
            hchild]
          rfl
        refine iff_of_false (by simp) ?_
        rintro ⟨⟨-, -, hleads⟩, hfound⟩
        rw [hstep] at hleads hfound
        exact absurd hgone (hleads.find?_ne_none hfound)
      | some child =>
        have hfits : part.utf8ByteSize ≤ maxComponent := Nat.not_lt.mp hlong
        simp [hstep, hdirectory, hfits, ih (h.down hchild)]

theorem leads_append :
    Leads top names (parts ++ rest) ↔
      Leads top names parts ∧ Leads top (parts.foldl Path.step names) rest := by
  induction parts generalizing names with
  | nil => simp [Leads]
  | cons part parts ih => simp only [List.cons_append, List.foldl_cons, Leads, ih, and_assoc]

theorem Leads.put {place : List String} (h : Leads top names parts)
    (hplace : ¬top.HasDirectory place)
    (new : FileNode) : Leads (top.put place new) names parts := by
  induction parts generalizing names with
  | nil => trivial
  | cons part parts ih => exact ⟨h.1.put hplace new, h.2.1, ih h.2.2⟩

theorem exists_walk_append (h : walk above node parts = .ok found) :
    ∃ above', ∀ rest, walk above node (parts ++ rest) = walk above' found rest := by
  induction parts generalizing above node with
  | nil =>
    obtain rfl := Except.ok.inj h
    exact ⟨above, fun rest => rfl⟩
  | cons part parts ih =>
    unfold walk at h
    split_ifs at h with hfile hup hlong
    · obtain ⟨above', hrest⟩ := ih h
      refine ⟨above', fun rest => ?_⟩
      rw [List.cons_append, walk, if_neg hfile, if_pos hup, hrest]
    · cases hchild : node.child? part with
      | none => simp [hchild] at h
      | some child =>
        rw [hchild] at h
        obtain ⟨above', hrest⟩ := ih h
        refine ⟨above', fun rest => ?_⟩
        rw [List.cons_append, walk, if_neg hfile, if_neg hup, if_neg hlong, hchild]
        exact hrest rest

end Walks

/-! ## Writing -/

section Writing
variable {w w' : Workspace} {p : Path} {change : ByteArray → ByteArray}

structure Speakable (p : Path) : Prop where
  nullFree : ¬p.toString.toList.contains '\x00' = true
  short : ¬maxPath < p.toString.utf8ByteSize

theorem Speakable.stat (h : Speakable p) (w : Workspace) :
    w.stat p =
      match walk [] w.top (w.absoluteParts p) with
      | .ok node => .ok node
      | .error cause => .error (.refused ⟨cause, p.toString⟩) :=
  (if_neg h.nullFree).trans (if_neg h.short)

/-- A path that leads somewhere, or nowhere, can be taken by the system. -/
theorem speakable_of_stat
    (h : (∃ node, w.stat p = .ok node) ∨ ∃ path, w.stat p = .error (.refused ⟨.noEntry, path⟩)) :
    Speakable p := by
  unfold Workspace.stat at h
  dsimp only at h
  split_ifs at h with hnull hlong
  · simp at h
  · simp at h
  · exact ⟨hnull, hlong⟩

/-- Does the way to a path lead over directories, to something else than a directory? -/
structure Writable (w : Workspace) (p : Path) : Prop where
  speakable : Speakable p
  leads : Leads w.top [] (w.absoluteParts p)
  free : ¬w.top.HasDirectory (Path.collapse [] (w.absoluteParts p))

theorem walk_eq_ok_iff_collapse {node : FileNode} :
    walk [] w.top (w.absoluteParts p) = .ok node ↔
      Leads w.top [] (w.absoluteParts p) ∧
        w.top.find? (Path.collapse [] (w.absoluteParts p)) = some node := by
  rw [walk_eq_ok_iff .top, Path.collapse_eq_foldl]

/-- Where a path leads, something stands at every place on the way. -/
theorem find?_ne_none_of_stat {node : FileNode} {parts rest : List String} (h : w.stat p = .ok node)
    (hparts : w.absoluteParts p = parts ++ rest) : w.top.find? (Path.collapse [] parts) ≠ none := by
  rw [(speakable_of_stat (.inl ⟨_, h⟩)).stat] at h
  cases hwalk : walk [] w.top (w.absoluteParts p) with
  | error cause => simp [hwalk] at h
  | ok found =>
    obtain ⟨hleads, hfound⟩ := walk_eq_ok_iff_collapse.mp hwalk
    rw [Path.collapse_eq_foldl, hparts, List.foldl_append] at hfound
    rw [hparts, leads_append] at hleads
    rw [Path.collapse_eq_foldl]
    exact hleads.2.find?_ne_none hfound

theorem writable_of_file {content : ByteArray} {modified : Int}
    (h : w.stat p = .ok (.file content modified)) : w.Writable p := by
  have hspeakable := speakable_of_stat (.inl ⟨_, h⟩)
  rw [hspeakable.stat] at h
  cases hwalk : walk [] w.top (w.absoluteParts p) with
  | error cause => simp [hwalk] at h
  | ok node =>
    rw [hwalk] at h
    obtain rfl := Except.ok.inj h
    obtain ⟨hleads, hfind⟩ := walk_eq_ok_iff_collapse.mp hwalk
    refine ⟨hspeakable, hleads, ?_⟩
    rintro ⟨es, hes⟩
    rw [hfind] at hes
    nomatch hes

theorem absoluteParts_eq_append (w : Workspace) (h : p.parts ≠ []) :
    w.absoluteParts p = w.absoluteParts p.parent ++ [p.parts.getLast h] := by
  have hlast := List.dropLast_concat_getLast h
  cases hanchor : p.anchor <;>
    simp [absoluteParts, Path.join, Path.isAbsolute, Path.parent, hanchor, hlast, List.append_assoc]

theorem writable_of_parent {path : String} {es : List (String × FileNode)}
    (h : w.stat p = .error (.refused ⟨.noEntry, path⟩))
    (hparent : w.stat p.parent = .ok (.directory es)) : w.Writable p := by
  have hspeakable := speakable_of_stat (.inr ⟨path, h⟩)
  have hwalk : walk [] w.top (w.absoluteParts p) = .error .noEntry := by
    rw [hspeakable.stat] at h
    cases hwalk : walk [] w.top (w.absoluteParts p) with
    | ok node => simp [hwalk] at h
    | error cause => simp_all
  have hparts : p.parts ≠ [] := by
    intro hempty
    have hself : p.parent = p := by
      obtain ⟨anchor, parts⟩ := p
      obtain rfl : parts = [] := hempty
      rfl
    rw [hself, h] at hparent
    nomatch hparent
  have hwalk' : walk [] w.top (w.absoluteParts p.parent) = .ok (.directory es) := by
    rw [(speakable_of_stat (.inl ⟨_, hparent⟩)).stat] at hparent
    cases hwalk' : walk [] w.top (w.absoluteParts p.parent) with
    | error cause => simp [hwalk'] at hparent
    | ok node => simp_all
  obtain ⟨hleads, hdirectory⟩ := walk_eq_ok_iff_collapse.mp hwalk'
  have hsplit := w.absoluteParts_eq_append hparts
  generalize p.parts.getLast hparts = last at hsplit
  have hfits : last ≠ ".." → last.utf8ByteSize ≤ maxComponent := by
    intro hup
    -- A component that is too long would have been the reason.
    refine Nat.not_lt.mp fun hlong => ?_
    obtain ⟨above, hrest⟩ := exists_walk_append hwalk'
    rw [hsplit, hrest, walk, if_neg (by simp [FileNode.isDirectory]), if_neg hup, if_pos hlong]
      at hwalk
    nomatch hwalk
  have hall : Leads w.top [] (w.absoluteParts p) := by
    rw [hsplit, leads_append]
    rw [Path.collapse_eq_foldl] at hdirectory
    exact ⟨hleads, ⟨es, hdirectory⟩, hfits, trivial⟩
  refine ⟨hspeakable, hall, ?_⟩
  rintro ⟨es', hes'⟩
  rw [walk_eq_ok_iff_collapse.mpr ⟨hall, hes'⟩] at hwalk
  nomatch hwalk

theorem Writable.stat_put {new : FileNode} (h : w.Writable p) (hcwd : w'.cwd = w.cwd)
    (htop : w'.top = w.top.put (Path.collapse [] (w.absoluteParts p)) new) :
    w'.stat p = .ok new := by
  have hparts : w'.absoluteParts p = w.absoluteParts p := by rw [absoluteParts, cwdPath, hcwd]; rfl
  have hleads : Leads w'.top [] (w'.absoluteParts p) := by
    rw [htop, hparts]
    exact h.leads.put h.free new
  have hfind : w'.top.find? (Path.collapse [] (w'.absoluteParts p)) = some new := by
    rw [htop, hparts]
    exact FileNode.find?_put w.top _ new
  rw [h.speakable.stat, walk_eq_ok_iff_collapse.mpr ⟨hleads, hfind⟩]

theorem stat_of_writeBytes (h : w.writeBytes p change = .ok w') :
    ∃ old, w'.stat p = .ok (.file (change old) w.now) := by
  unfold writeBytes at h
  dsimp only at h
  split at h
  · next old _ hstat =>
    obtain rfl := Except.ok.inj h
    exact ⟨old, (writable_of_file hstat).stat_put rfl rfl⟩
  · nomatch h
  · next path hstat =>
    split at h
    · next es hparent =>
      obtain rfl := Except.ok.inj h
      exact ⟨.empty, (writable_of_parent hstat hparent).stat_put rfl rfl⟩
    · nomatch h
  · nomatch h

/-! ## Texts -/

theorem plainBreaks_eq_self {cs : List Char} (h : '\r' ∉ cs) : plainBreaks cs = cs := by
  induction cs with
  | nil => rfl
  | cons c cs ih =>
    rw [List.mem_cons, not_or] at h
    have hc : c ≠ '\r' := fun heq => h.1 heq.symm
    rw [plainBreaks.eq_def]
    split
    case h_1 heq => nomatch heq
    case h_2 heq => exact absurd (List.cons.inj heq).1 hc
    case h_3 _ heq =>
      obtain ⟨rfl, rfl⟩ := List.cons.inj heq
      rw [if_neg hc, ih h.2]

theorem fromUTF8?_toUTF8 (s : String) : String.fromUTF8? s.toUTF8 = some s := by
  have hvalid : s.toByteArray.IsValidUTF8 := s.isValidUTF8
  simp [String.fromUTF8?, String.fromUTF8, hvalid]

/-- A text that was written is read back, if it holds no carriage return. -/
theorem readText_of_writeText {text : String} (h : w.writeText p text = .ok w')
    (hreturn : '\r' ∉ text.toList) :
    w'.readBytes p = .ok text.toUTF8 ∧ w'.readText p = .ok text := by
  obtain ⟨old, hstat⟩ := stat_of_writeBytes h
  have hbytes : w'.readBytes p = .ok text.toUTF8 := by
    rw [readBytes, hstat]
  refine ⟨hbytes, ?_⟩
  rw [readText, hbytes]
  simp only [fromUTF8?_toUTF8, plainBreaks_eq_self hreturn, String.ofList_toList]

/-- The same holds where the directory of the file is made first. -/
theorem readText_of_writeBelow {text : String} (h : w.writeBelow p text = (.ok (), w'))
    (hreturn : '\r' ∉ text.toList) :
    w'.readBytes p = .ok text.toUTF8 ∧ w'.readText p = .ok text := by
  unfold writeBelow at h
  split at h
  · nomatch h
  · split at h
    · nomatch h
    · next hwrite =>
      obtain rfl := (Prod.mk.inj h).2
      exact readText_of_writeText hwrite hreturn

end Writing
end Workspace
end RetentionPlan
