import Mathlib.Tactic.SplitIfs
import RetentionPlan.FileTree.Workspace

/-!
# Operations that are refused at worst

A path without the character NUL can be given to the system. Where an operation on it fails, the
system has refused it and says why; that holds for the directories that are made on the way as well.
A path that is short enough can be asked about and is refused for leading nowhere at most.
-/
namespace RetentionPlan

namespace Path

/-- Does no component hold the character NUL? -/
def NullFree (p : Path) : Prop := ∀ part ∈ p.parts, '\x00' ∉ part.toList

theorem NullFree.parent {p : Path} (h : p.NullFree) : p.parent.NullFree :=
  fun part hpart => h part (List.dropLast_subset p.parts hpart)

theorem NullFree.join {p q : Path} (hp : p.NullFree) (hq : q.NullFree) : (p.join q).NullFree := by
  unfold Path.join
  split_ifs
  · exact hq
  · exact List.forall_mem_append.mpr ⟨hp, hq⟩

/-- Nothing is added where double dots are removed. -/
theorem mem_of_mem_collapse {part : String} {above parts : List String}
    (h : part ∈ collapse above parts) : part ∈ above ∨ part ∈ parts := by
  induction parts generalizing above with
  | nil => exact .inl (List.mem_reverse.mp h)
  | cons next rest ih =>
    unfold collapse at h
    split at h
    · next heq => cases heq
    · next heq =>
      obtain ⟨rfl, rfl⟩ := List.cons.inj heq
      exact (ih h).imp List.mem_of_mem_tail (List.mem_cons_of_mem _)
    · next heq =>
      obtain ⟨rfl, rfl⟩ := List.cons.inj heq
      rcases ih h with habove | hrest
      · rw [List.mem_cons] at habove ⊢
        exact habove.elim (fun heq => .inr (.inl heq)) .inl
      · exact .inr (List.mem_cons_of_mem _ hrest)

theorem NullFree.resolve {p cwd : Path} (hp : p.NullFree) (hcwd : cwd.NullFree) :
    (p.resolve cwd).NullFree :=
  fun part hpart => hcwd.join hp part ((mem_of_mem_collapse hpart).resolve_left List.not_mem_nil)

theorem NullFree.toString {p : Path} (h : p.NullFree) : '\x00' ∉ p.toString.toList := by
  unfold Path.toString
  split_ifs
  · decide
  · rw [String.toList_append, List.mem_append, not_or]
    constructor
    · cases p.anchor <;> decide
    · rw [String.toList_intercalate]
      unfold NullFree at h
      generalize p.parts = parts at h
      induction parts with
      | nil => simp
      | cons part rest ih =>
        rw [List.forall_mem_cons] at h
        cases rest with
        | nil => simpa using h.1
        | cons next rest => simpa [h.1] using ih h.2

end Path

/-- Is what went wrong, if anything, something that the system gives a reason for? -/
def RefusedAtWorst {α : Type} (r : Except AccessError α) : Prop :=
  ∀ e, r = .error e → ∃ why, e = .refused why

namespace RefusedAtWorst
variable {α : Type}

theorem ok (a : α) : RefusedAtWorst (.ok a) := by simp [RefusedAtWorst]

theorem refused (why : FileError) : RefusedAtWorst (.error (.refused why) : Except AccessError α) :=
  fun _ h => ⟨why, (Except.error.inj h).symm⟩

theorem error {β : Type} {e : AccessError} (h : RefusedAtWorst (.error e : Except AccessError α)) :
    RefusedAtWorst (.error e : Except AccessError β) :=
  fun _ he => h _ (congrArg _ (Except.error.inj he))

end RefusedAtWorst

namespace Workspace

theorem refusedAtWorst_stat (w : Workspace) {p : Path} (h : p.NullFree) :
    RefusedAtWorst (w.stat p) := by
  simp only [stat, List.contains_eq_mem, h.toString, decide_false, Bool.false_eq_true, if_false]
  split_ifs
  · exact .refused _
  · cases walk [] w.top (w.absoluteParts p) with
    | ok node => exact .ok node
    | error cause => exact .refused _

theorem refusedAtWorst_makeOne (w : Workspace) {p : Path} (h : p.NullFree) :
    RefusedAtWorst (w.makeOne p) := by
  have hstat := w.refusedAtWorst_stat h
  unfold makeOne
  split
  · exact .refused _
  · split
    · exact .ok _
    · exact .refused _
  · next e he => exact (he ▸ hstat).error

/-- Settling for a directory that is there already does not make a refusal anything else. -/
theorem refusedAtWorst_settle (w : Workspace) (p : Path) (why : FileError) :
    RefusedAtWorst (w.settle p (.refused why)) := by
  unfold settle
  dsimp only
  split
  · exact .ok w
  · exact .refused why
  · exact .refused _

theorem refusedAtWorst_makeDirectories (w : Workspace) {p : Path} (h : p.NullFree) (depth : Nat) :
    RefusedAtWorst (w.makeDirectories p depth).1 := by
  induction depth generalizing w p with
  | zero => exact .refused _
  | succ depth ih =>
    have settled {w : Workspace} {e e' : AccessError} (hmake : w.makeOne p = .error e)
        (hsettle : w.settle p e = .error e') :
        RefusedAtWorst (.error e' : Except AccessError Unit) := by
      obtain ⟨why, rfl⟩ := w.refusedAtWorst_makeOne h e hmake
      exact (hsettle ▸ w.refusedAtWorst_settle p why).error
    unfold makeDirectories
    split
    · exact .ok ()
    · split_ifs
      · exact .refused _
      · have habove := ih w h.parent
        split
        · next hfailed =>
          rw [hfailed] at habove
          exact habove
        · split
          · exact .ok ()
          · exact .refused _
          · next hmake =>
            split
            · exact .ok ()
            · next hsettle => exact settled hmake hsettle
    · next hmake =>
      split
      · exact .ok ()
      · next hsettle => exact settled hmake hsettle

theorem refusedAtWorst_writeText (w : Workspace) {p : Path} (h : p.NullFree) (text : String) :
    RefusedAtWorst (w.writeText p text) := by
  have hstat := w.refusedAtWorst_stat h
  unfold writeText writeBytes
  dsimp only
  split
  · exact .ok _
  · exact .refused _
  · split
    · exact .ok _
    · exact .refused _
  · next e he => exact (he ▸ hstat).error

theorem refusedAtWorst_writeBelow (w : Workspace) {p : Path} (h : p.NullFree) (text : String) :
    RefusedAtWorst (w.writeBelow p text).1 := by
  have hmake : RefusedAtWorst (w.makeAll p.parent).1 :=
    w.refusedAtWorst_makeDirectories h.parent _
  unfold writeBelow
  rcases hall : w.makeAll p.parent with ⟨e | _, made⟩
  · rw [hall] at hmake
    exact hmake
  · have hwrite := made.refusedAtWorst_writeText h text
    dsimp only
    cases hw : made.writeText p text with
    | error e => exact (hw ▸ hwrite).error
    | ok written => exact .ok ()

/-- Are a path and each of its components short enough for the system? -/
structure Fits (w : Workspace) (p : Path) : Prop where
  whole : p.toString.utf8ByteSize ≤ maxPath
  parts : ∀ part ∈ w.absoluteParts p, part.utf8ByteSize ≤ maxComponent

/-- A walk along short components ends nowhere at worst. -/
theorem error_of_walk {parts : List String} (h : ∀ part ∈ parts, part.utf8ByteSize ≤ maxComponent)
    {above : List FileNode} {node : FileNode} {cause : FileCause}
    (hwalk : walk above node parts = .error cause) : cause = .noEntry ∨ cause = .notDirectory := by
  induction parts generalizing above node with
  | nil => simp [walk] at hwalk
  | cons part rest ih =>
    rw [List.forall_mem_cons] at h
    unfold walk at hwalk
    split_ifs at hwalk with hdirectory hup hlong
    · exact .inr (Except.error.inj hwalk).symm
    · exact ih h.2 hwalk
    · omega
    · cases hchild : node.child? part with
      | none =>
        rw [hchild] at hwalk
        exact .inl (Except.error.inj hwalk).symm
      | some child =>
        rw [hchild] at hwalk
        exact ih h.2 hwalk

theorem Fits.stat {w : Workspace} {p : Path} (h : w.Fits p) :
    (∃ node, w.stat p = .ok node) ∨ w.stat p = .error .nullCharacter ∨
      ∃ e, w.stat p = .error (.refused e) ∧ (e.cause = .noEntry ∨ e.cause = .notDirectory) := by
  simp only [Workspace.stat]
  split_ifs with hnull hlong
  · exact .inr (.inl rfl)
  · exact absurd h.whole (Nat.not_le_of_lt hlong)
  · cases hwalk : walk [] w.top (w.absoluteParts p) with
    | ok node => exact .inl ⟨node, rfl⟩
    | error cause => exact .inr (.inr ⟨_, rfl, error_of_walk h.parts hwalk⟩)

/-- A path that is short enough can be asked about. -/
theorem Fits.exists_stat? {w : Workspace} {p : Path} (h : w.Fits p) :
    ∃ found, w.stat? p = .ok found := by
  unfold stat?
  rcases h.stat with ⟨node, hnode⟩ | hnull | ⟨e, he, hcause⟩
  · exact ⟨some node, by rw [hnode]⟩
  · exact ⟨none, by rw [hnull]⟩
  · exact ⟨none, by simp only [he, if_pos hcause]⟩

/-- It can be told of a path that is short enough, whether it leads to a file. -/
theorem Fits.isFile {w : Workspace} {p : Path} (h : w.Fits p) : ∃ is, w.isFile p = .ok is := by
  obtain ⟨found, hfound⟩ := h.exists_stat?
  exact ⟨found.any FileNode.isFile, by rw [Workspace.isFile, hfound]; rfl⟩

theorem stat_of_isFile {w : Workspace} {p : Path} (h : w.isFile p = .ok true) :
    ∃ node, w.stat p = .ok node := by
  cases hstat : w.stat p with
  | ok node => exact ⟨node, rfl⟩
  | error e =>
    rcases e with e | _ | _
    · simp only [isFile, stat?, hstat] at h
      split_ifs at h <;> simp [Except.map] at h
    · simp [isFile, stat?, hstat, Except.map] at h
    · simp [isFile, stat?, hstat, Except.map] at h

end Workspace
end RetentionPlan
