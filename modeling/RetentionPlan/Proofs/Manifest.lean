import RetentionPlan.Manifest
import RetentionPlan.Proofs.FileTree.Written
import RetentionPlan.Proofs.Json.RoundTrip

/-!
# Manifests read back

The text of a manifest stands for a set of decisions, in the one order that they have by type and
then by reason. A manifest that was written is read back as this list from the path that the writer
answers with. A path with a tilde in front is another one for the reader, who does not put the home
in its place.
-/
namespace RetentionPlan

namespace Decision
variable {a b c : Decision}

/-- Does `a` stand before `b` by its type, or by its reason where the types are the same? -/
def Precedes (a b : Decision) : Prop := a.type < b.type ∨ a.type = b.type ∧ a.reason < b.reason

theorem before_iff :
    before a b = true ↔ a.type < b.type ∨ a.type = b.type ∧ a.reason ≤ b.reason := by
  unfold before
  split
  · next h =>
    rw [Bool.not_eq_true', decide_eq_false_iff_not, String.not_lt]
    simp only [h, String.lt_irrefl, false_or, true_and]
  · next h => simp only [decide_eq_true_eq, h, false_and, or_false]

theorem before_trans (hab : before a b = true) (hbc : before b c = true) : before a c = true := by
  rw [before_iff] at hab hbc ⊢
  obtain hab | ⟨hab, hreason⟩ := hab
  · obtain hbc | ⟨hbc, -⟩ := hbc
    · exact .inl (String.lt_trans hab hbc)
    · exact .inl (hbc ▸ hab)
  · obtain hbc | ⟨hbc, hreason'⟩ := hbc
    · exact .inl (hab ▸ hbc)
    · exact .inr ⟨hab.trans hbc, String.le_trans hreason hreason'⟩

theorem before_antisymm (hab : before a b = true) (hba : before b a = true) : a = b := by
  rw [before_iff] at hab hba
  obtain hab | ⟨hab, hreason⟩ := hab
  · obtain hba | ⟨hba, -⟩ := hba
    · exact absurd hba (String.lt_asymm hab)
    · exact absurd hab (hba ▸ String.lt_irrefl _)
  · obtain hba | ⟨-, hreason'⟩ := hba
    · exact absurd hba (hab ▸ String.lt_irrefl _)
    · obtain ⟨reason, type⟩ := a
      obtain ⟨reason', type'⟩ := b
      obtain rfl : type = type' := hab
      exact congrArg (Decision.mk · type) (String.le_antisymm hreason hreason')

theorem before_total (a b : Decision) : (before a b || before b a) = true := by
  rw [Bool.or_eq_true, before_iff, before_iff]
  by_cases htype : a.type = b.type
  · obtain hle | hle := String.le_total a.reason b.reason
    · exact .inl (.inr ⟨htype, hle⟩)
    · exact .inr (.inr ⟨htype.symm, hle⟩)
  · by_cases hlt : a.type < b.type
    · exact .inl (.inl hlt)
    · refine .inr (.inl (String.not_le.mp fun hle => ?_))
      exact htype (String.le_antisymm hle (String.not_lt.mp hlt))

theorem pairwise_sorted (ds : List Decision) : (sorted ds).Pairwise fun a b => before a b = true :=
  @List.pairwise_mergeSort _ before (fun _ _ _ => before_trans) before_total ds

theorem mem_sorted_distinct {ds : List Decision} : a ∈ sorted (distinct ds) ↔ a ∈ ds := by
  rw [sorted, List.mem_mergeSort, mem_distinct]

/-- Different decisions stand in strict order. -/
theorem pairwise_precedes (ds : List Decision) : (sorted (distinct ds)).Pairwise Precedes := by
  have hnodup : (sorted (distinct ds)).Nodup :=
    (List.mergeSort_perm _ _).nodup_iff.mpr (nodup_distinct ds)
  refine ((pairwise_sorted _).and hnodup).imp fun ⟨hbefore, hne⟩ => ?_
  obtain hlt | ⟨htype, hle⟩ := before_iff.mp hbefore
  · exact .inl hlt
  · refine .inr ⟨htype, String.not_le.mp fun hge => hne ?_⟩
    exact before_antisymm hbefore (before_iff.mpr (.inr ⟨htype.symm, hge⟩))

theorem sorted_distinct_congr {ds ds' : List Decision} (h : ∀ d, d ∈ ds ↔ d ∈ ds') :
    sorted (distinct ds) = sorted (distinct ds') := by
  have hperm : (distinct ds).Perm (distinct ds') :=
    (List.perm_ext_iff_of_nodup (nodup_distinct ds) (nodup_distinct ds')).mpr (by simpa using h)
  have hsorted : (sorted (distinct ds)).Perm (sorted (distinct ds')) :=
    (List.mergeSort_perm _ _).trans (hperm.trans (List.mergeSort_perm _ _).symm)
  exact hsorted.eq_of_pairwise (fun _ _ _ _ => before_antisymm) (pairwise_sorted _)
    (pairwise_sorted _)

end Decision

namespace Path

/-- Does the path begin with a tilde, for the home of some user? -/
def HasTilde (p : Path) : Prop :=
  p.anchor = .relative ∧ ∃ first rest, p.parts = first :: rest ∧ first.toList.head? = some '~'

end Path

theorem Workspace.expandHome_of_not_hasTilde (w : Workspace) {p : Path} (h : ¬p.HasTilde) :
    w.expandHome p = .ok p := by
  unfold expandHome
  split
  · next first rest hanchor hparts =>
    exact if_pos fun hhead => h ⟨hanchor, first, rest, hparts, hhead⟩
  · rfl

namespace Manifest
variable {w w' : Workspace} {path q : Path} {ds : List Decision} {journal : Journal}

theorem numberless_items (ds : List Decision) : Json.Numberless (.array (ds.map item)) := by
  refine .array fun v hv => ?_
  obtain ⟨d, -, rfl⟩ := List.mem_map.mp hv
  refine .object fun f hf => ?_
  simp only [List.mem_cons, List.not_mem_nil, or_false] at hf
  rcases hf with rfl | rfl
  · exact .text d.reason
  · exact .text d.type

/-- The text of a manifest is read as the decisions in their order. -/
theorem parse_render (ds : List Decision) :
    parse (render ds) = .ok (Decision.sorted (distinct ds)) := by
  simp only [parse, render, Json.parse_renderDocument (numberless_items _)]
  simp [List.filterMap_map, Function.comp_def]

theorem not_mem_return_render (ds : List Decision) : '\r' ∉ (render ds).toList := by
  simpa [render, Json.renderDocument] using (numberless_items _).not_mem_return .unicode 0

/-- The text depends on the set of decisions alone. -/
theorem render_congr {ds' : List Decision} (h : ∀ d, d ∈ ds ↔ d ∈ ds') :
    render ds = render ds' := by
  rw [render, render, Decision.sorted_distinct_congr h]

theorem writeBelow_of_write (h : write w path ds = (.ok q, w', journal)) :
    w.expandHome path = .ok q ∧ w.writeBelow q (render ds) = (.ok (), w') := by
  unfold write at h
  split at h
  · nomatch h
  · next expanded hexpand =>
    split at h
    · nomatch h
    · next hwrite =>
      obtain ⟨hq, hw, -⟩ := by simpa using h
      subst hq hw
      exact ⟨hexpand, hwrite⟩

/-- Nothing is read from a path with a tilde where the working directory has no entry of that
name. -/
theorem load_eq_error_of_hasTilde (h : path.HasTilde)
    (hnone : w.top.find? (Path.collapse [] (w.cwd ++ path.parts.take 1)) = none) :
    ∃ e, load w path = .error e := by
  obtain ⟨hanchor, first, rest, hparts, -⟩ := h
  have hall : w.absoluteParts path = (w.cwd ++ path.parts.take 1) ++ rest := by
    simp [Workspace.absoluteParts, Workspace.cwdPath, Path.join, Path.isAbsolute, hanchor, hparts]
  cases hstat : w.stat path with
  | ok node => exact absurd hnone (Workspace.find?_ne_none_of_stat hstat hall)
  | error e => exact ⟨_, by rw [load, Workspace.readText, Workspace.readBytes, hstat]⟩

/-- Manifests round trip. If writing decisions succeeds, the file holds their text. From the path
that the writer answers with, in which the home stands in place of a tilde, the different decisions
are read, in strict order by type and then by reason; their text is the one that was written, and so
is that of any decisions that are the same as a set. The path that the writer was given is this path
unless it begins with a tilde; if it does, and the working directory has no entry of that name,
nothing is read from it. -/
theorem load_of_write (h : write w path ds = (.ok q, w', journal)) :
    w'.readBytes q = .ok (render ds).toUTF8 ∧
    (∃ loaded, load w' q = .ok loaded ∧ loaded.Pairwise Decision.Precedes ∧
      (∀ d, d ∈ loaded ↔ d ∈ ds) ∧ render loaded = render ds) ∧
    (∀ ds', (∀ d, d ∈ ds' ↔ d ∈ ds) → render ds' = render ds) ∧
    (¬path.HasTilde → q = path) ∧
    (path.HasTilde → w'.top.find? (Path.collapse [] (w'.cwd ++ path.parts.take 1)) = none →
      ∃ e, load w' path = .error e) := by
  obtain ⟨hexpand, hwrite⟩ := writeBelow_of_write h
  obtain ⟨hbytes, htext⟩ := Workspace.readText_of_writeBelow hwrite (not_mem_return_render ds)
  refine ⟨hbytes, ⟨_, ?_, Decision.pairwise_precedes ds, fun d => Decision.mem_sorted_distinct, ?_⟩,
    fun ds' hset => render_congr hset, fun hplain => ?_, load_eq_error_of_hasTilde⟩
  · simp only [load, htext, parse_render]
  · exact render_congr fun d => Decision.mem_sorted_distinct
  · rw [w.expandHome_of_not_hasTilde hplain] at hexpand
    exact (Except.ok.inj hexpand).symm

/-- A manifest that is written below the home is read from there, and not from the path with the
tilde. -/
theorem load_of_write_tilde :
    let w : Workspace :=
      { top := .directory [("home", .directory [])], cwd := [], home := some "/home", now := 0 }
    let path : Path := ⟨.relative, ["~", "m.json"]⟩
    let ds : List Decision :=
      [⟨"Runs\r\n", "zoo.Dog"⟩, ⟨"Says \"\\\"", "zoo.Cat"⟩, ⟨"Runs\r\n", "zoo.Dog"⟩]
    ∃ w' journal, write w path ds = (.ok ⟨.root, ["home", "m.json"]⟩, w', journal) ∧
      (∃ loaded, load w' ⟨.root, ["home", "m.json"]⟩ = .ok loaded ∧
        loaded.Pairwise Decision.Precedes ∧
        ∀ d, d ∈ loaded ↔ d ∈ ds) ∧
      ∃ e, load w' path = .error e := by
  intro w path ds
  have hexpand : w.expandHome path = .ok ⟨.root, ["home", "m.json"]⟩ := by rfl
  have hwrite (text : String) : w.writeBelow ⟨.root, ["home", "m.json"]⟩ text =
      (.ok (), { w with
        top := .directory [("home", .directory [("m.json", .file text.toUTF8 0)])],
        now := 1 }) := by rfl
  have hw : write w path ds = (.ok ⟨.root, ["home", "m.json"]⟩,
      { w with
        top := .directory [("home", .directory [("m.json", .file (render ds).toUTF8 0)])],
        now := 1 }, [⟨.info, "manifest", "Wrote registration manifest to /home/m.json"⟩]) := by
    simp only [write, hexpand, hwrite]
    rfl
  have htilde : path.HasTilde := ⟨rfl, "~", ["m.json"], rfl, rfl⟩
  obtain ⟨-, ⟨loaded, hload, hstrict, hmem, -⟩, -, -, hfails⟩ := load_of_write hw
  exact ⟨_, _, hw, ⟨loaded, hload, hstrict, hmem⟩, hfails htilde rfl⟩

end Manifest
end RetentionPlan
