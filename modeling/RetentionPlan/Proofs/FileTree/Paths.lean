import Mathlib.Data.List.TakeWhile
import Mathlib.Tactic.SplitIfs
import RetentionPlan.Path

/-!
# Paths below paths

How a path is read from texts without slashes, and what it is to lie below another path.
-/
namespace RetentionPlan.Path

theorem ofString_of_not_mem_slash {s : String} (h : '/' ∉ s.toList) :
    ofString s = ⟨.relative, [s].filter keeps⟩ := by
  have hanchor : anchorOf s.toList = .relative := by
    cases hs : s.toList with
    | nil => rfl
    | cons c cs =>
      have hc : c ≠ '/' := by
        rintro rfl
        exact h (by simp [hs])
      unfold anchorOf
      split <;> simp_all
  have hcomponents : components s = [s] := by
    rw [components, List.splitOn_eq_singleton h, List.map_cons, String.ofList_toList, List.map_nil]
  rw [ofString, hanchor, hcomponents]

/-- Texts without slashes are the components of the path that they make, those left out that no path
keeps. -/
theorem ofStrings_of_not_mem_slash {ss : List String} (h : ∀ s ∈ ss, '/' ∉ s.toList) :
    ofStrings ss = ⟨.relative, ss.filter keeps⟩ := by
  have hfold (p : Path) : ss.foldl (fun p s => p.join (ofString s)) p =
      ⟨p.anchor, p.parts ++ ss.filter keeps⟩ := by
    induction ss generalizing p with
    | nil => simp
    | cons s rest ih =>
      rw [List.forall_mem_cons] at h
      have hjoin : p.join (ofString s) = ⟨p.anchor, p.parts ++ [s].filter keeps⟩ := by
        rw [ofString_of_not_mem_slash h.1]
        simp [join, isAbsolute]
      rw [List.foldl_cons, hjoin, ih h.2, List.append_assoc, ← List.filter_append]
      rfl
  exact hfold here

theorem join_relative {p q : Path} (h : q.anchor = .relative) :
    p.join q = ⟨p.anchor, p.parts ++ q.parts⟩ := by
  simp [join, isAbsolute, h]

theorem join_parent {p : Path} (h : p.parts ≠ []) :
    p.parent.join ⟨.relative, [p.parts.getLast h]⟩ = p := by
  rw [join_relative rfl]
  simp [parent, List.dropLast_concat_getLast]

theorem parts_ne_nil_of_suffix {p : Path} (h : p.suffix ≠ "") : p.parts ≠ [] := by
  rintro hparts
  exact h (by simp [suffix, name, hparts]; rfl)

theorem withSuffix_eq_ok {p q : Path} {suffix : String} (h : p.withSuffix suffix = .ok q) :
    q.anchor = p.anchor ∧ q.parts ≠ [] := by
  unfold withSuffix at h
  split at h
  · cases h
  · obtain rfl := Except.ok.inj h
    exact ⟨rfl, by simp⟩

/-- A component below a relative path is below the whole. -/
theorem join_div {p q : Path} (hq : q.anchor = .relative) {part : String}
    (hslash : '/' ∉ part.toList) (hkeeps : keeps part) :
    p.join q / part = p.join ⟨.relative, q.parts ++ [part]⟩ := by
  show (p.join q).join (ofString part) = _
  rw [ofString_of_not_mem_slash hslash]
  simp [join_relative, hq, hkeeps]

theorem stem_ne_empty {p : Path} (h : p.suffix ≠ "") : p.stem ≠ "" := by
  unfold suffix splitSuffix at h
  unfold stem splitSuffix
  dsimp only at h ⊢
  split at h
  · split_ifs at h ⊢ with hempty
    · exact absurd rfl h
    · rw [not_or] at hempty
      simpa using hempty.2
  · exact absurd rfl h

/-- Is a text a component of paths that no dot divides? -/
structure PlainPart (part : String) : Prop where
  nonempty : part ≠ ""
  dotless : '.' ∉ part.toList
  slashless : '/' ∉ part.toList

theorem PlainPart.keeps {part : String} (h : PlainPart part) : keeps part := by
  have hdot : part ≠ "." := by
    rintro rfl
    exact h.dotless (by decide)
  simp [Path.keeps, h.nonempty, hdot]

theorem splitSuffix_of_dotless {name : String} (h : '.' ∉ name.toList) :
    splitSuffix name = (name, "") := by
  have hall : ∀ c ∈ name.toList.reverse, c ≠ '.' := by
    rintro c hc rfl
    exact h (List.mem_reverse.mp hc)
  have htake : name.toList.reverse.takeWhile (· ≠ '.') = name.toList.reverse :=
    List.takeWhile_eq_self_iff.mpr (by simpa using hall)
  unfold splitSuffix
  simp only [htake, List.drop_length]

theorem splitSuffix_source {stem : String} (h : PlainPart stem) :
    splitSuffix (stem ++ ".py") = (stem, ".py") := by
  have hne : stem.toList ≠ [] := by simpa using h.nonempty
  unfold splitSuffix
  simp [hne]

theorem ofStrings_of_plain {parts : List String} (h : ∀ part ∈ parts, PlainPart part) :
    ofStrings parts = ⟨.relative, parts⟩ := by
  rw [ofStrings_of_not_mem_slash fun part hpart => (h part hpart).slashless,
    List.filter_eq_self.mpr fun part hpart => (h part hpart).keeps]

end RetentionPlan.Path
