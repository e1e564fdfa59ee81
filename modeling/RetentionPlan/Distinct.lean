/-!
# Lists without repetitions

A set is held as the list of its members in order of arrival. Answers show it sorted, or only count
it, so the order of arrival is the library's own.
-/
namespace RetentionPlan

/-- The first copy of each item, in order. -/
def distinct {α : Type _} [DecidableEq α] : List α → List α
  | [] => []
  | a :: rest => a :: (distinct rest).filter (· ≠ a)

section
variable {α : Type _} [DecidableEq α]

@[simp]
theorem mem_distinct {a : α} {as : List α} : a ∈ distinct as ↔ a ∈ as := by
  induction as with
  | nil => simp [distinct]
  | cons b as ih =>
    simp only [distinct, List.mem_cons, List.mem_filter, ih, decide_eq_true_eq]
    by_cases h : a = b <;> simp [h]

theorem nodup_distinct (as : List α) : (distinct as).Nodup := by
  induction as with
  | nil => simp [distinct]
  | cons a as ih => exact List.nodup_cons.2 ⟨by simp, ih.filter _⟩

variable {as bs : List α}

theorem distinct_of_nodup (h : as.Nodup) : distinct as = as := by
  induction as with
  | nil => rfl
  | cons a as ih =>
    rw [List.nodup_cons] at h
    rw [distinct, ih h.2, List.filter_eq_self.mpr]
    intro b hb
    exact decide_eq_true fun hba => h.1 (hba ▸ hb)

/-- What came up before is not kept again. -/
theorem distinct_append : distinct (as ++ bs) = distinct as ++ (distinct bs).filter (· ∉ as) := by
  induction as with
  | nil => exact (List.filter_eq_self.mpr fun b _ => decide_eq_true List.not_mem_nil).symm
  | cons a as ih =>
    rw [List.cons_append, distinct, ih, List.filter_append, List.filter_filter, distinct,
      List.cons_append]
    congr 2
    refine List.filter_congr fun b _ => ?_
    simp [not_or]

@[simp]
theorem distinct_distinct_append : distinct (distinct as ++ bs) = distinct (as ++ bs) := by
  simp only [distinct_append, distinct_of_nodup (nodup_distinct as), mem_distinct]

@[simp]
theorem distinct_append_distinct : distinct (as ++ distinct bs) = distinct (as ++ bs) := by
  simp only [distinct_append, distinct_of_nodup (nodup_distinct bs)]

theorem find?_distinct (p : α → Bool) : (distinct as).find? p = as.find? p := by
  induction as with
  | nil => rfl
  | cons a as ih =>
    cases hp : p a with
    | true => rw [distinct, List.find?_cons_of_pos hp, List.find?_cons_of_pos hp]
    | false =>
      have hneg : ¬p a = true := by simp [hp]
      rw [distinct, List.find?_cons_of_neg hneg, List.find?_cons_of_neg hneg, List.find?_filter,
        ← ih]
      congr 1
      funext b
      by_cases hb : b = a <;> simp [hb, hp]

/-- The first copies stand in the order in which they come up. -/
theorem pairwise_idxOf_distinct (as : List α) :
    (distinct as).Pairwise fun a b => as.idxOf a < as.idxOf b := by
  have hcons {a b : α} {as : List α} (h : b ≠ a) : (a :: as).idxOf b = as.idxOf b + 1 := by
    rw [List.idxOf_cons, beq_false_of_ne h.symm, cond_false]
  induction as with
  | nil => exact .nil
  | cons a as ih =>
    have hne {b : α} (hb : b ∈ (distinct as).filter (· ≠ a)) : b ≠ a :=
      of_decide_eq_true (List.mem_filter.mp hb).2
    refine .cons (fun b hb => ?_) ((ih.sublist List.filter_sublist).imp_of_mem fun hb hc hlt => ?_)
    · rw [List.idxOf_cons_self, hcons (hne hb)]
      exact Nat.succ_pos _
    · rw [hcons (hne hb), hcons (hne hc)]
      exact Nat.succ_lt_succ hlt

end

/-- The first item for each key, in order. -/
def distinctBy {α β : Type _} [DecidableEq β] (key : α → β) : List α → List α
  | [] => []
  | a :: rest => a :: (distinctBy key rest).filter (key · ≠ key a)

section
variable {α β : Type _} [DecidableEq β] {key : α → β}

@[simp]
theorem mem_map_distinctBy {as : List α} {b : β} :
    b ∈ (distinctBy key as).map key ↔ b ∈ as.map key := by
  induction as with
  | nil => simp [distinctBy]
  | cons a as ih =>
    by_cases h : b = key a
    · simp [distinctBy, h]
    · have hkept : b ∈ ((distinctBy key as).filter (key · ≠ key a)).map key ↔
          b ∈ (distinctBy key as).map key := by
        simp only [List.mem_map, List.mem_filter, decide_eq_true_eq]
        constructor
        · rintro ⟨c, ⟨hc, -⟩, rfl⟩
          exact ⟨c, hc, rfl⟩
        · rintro ⟨c, hc, rfl⟩
          exact ⟨c, ⟨hc, h⟩, rfl⟩
      rw [distinctBy, List.map_cons, List.map_cons, List.mem_cons, List.mem_cons, hkept, ih]

/-- Just the first of each key is kept. -/
theorem mem_distinctBy_iff {as : List α} {a : α} :
    a ∈ distinctBy key as ↔ as.find? (key · = key a) = some a := by
  induction as with
  | nil => simp [distinctBy]
  | cons b as ih =>
    by_cases h : key b = key a
    · rw [List.find?_cons_of_pos (by simpa using h)]
      simp [distinctBy, h, eq_comm]
    · have hne : a ≠ b := fun heq => h (congrArg key heq).symm
      rw [List.find?_cons_of_neg (by simpa using h), ← ih]
      simp [distinctBy, hne, Ne.symm h]

theorem map_distinctBy (key : α → β) (as : List α) :
    (distinctBy key as).map key = distinct (as.map key) := by
  induction as with
  | nil => rfl
  | cons a as ih =>
    rw [distinctBy, List.map_cons, List.map_cons, distinct, ← ih, List.filter_map]
    rfl

/-- It does not matter whether items are sorted out by their keys before or after. -/
theorem distinctBy_filter {p : α → Bool} (hp : ∀ a b, key a = key b → p a = p b) (as : List α) :
    distinctBy key (as.filter p) = (distinctBy key as).filter p := by
  induction as with
  | nil => rfl
  | cons a as ih =>
    by_cases ha : p a = true
    · rw [List.filter_cons_of_pos ha, distinctBy, distinctBy, List.filter_cons_of_pos ha, ih,
        List.filter_filter, List.filter_filter]
      congr 1
      exact List.filter_congr fun b _ => Bool.and_comm _ _
    · rw [List.filter_cons_of_neg ha, distinctBy, List.filter_cons_of_neg ha, ih,
        List.filter_filter]
      refine List.filter_congr fun b _ => ?_
      by_cases hb : key b = key a
      · simp [hp b a hb, ha]
      · simp [hb]

theorem nodup_map_distinctBy (key : α → β) (as : List α) : ((distinctBy key as).map key).Nodup := by
  induction as with
  | nil => simp [distinctBy]
  | cons a as ih =>
    refine List.nodup_cons.2 ⟨by simp, ih.sublist ?_⟩
    exact List.filter_sublist.map key

end

/-- A finite set, held as a list without repetitions. -/
structure Distinct (α : Type _) where
  /-- The members in order of arrival. -/
  toList : List α
  nodup : toList.Nodup

namespace Distinct
variable {α : Type _}

def empty : Distinct α := ⟨[], List.nodup_nil⟩

instance : Inhabited (Distinct α) := ⟨empty⟩

instance : Membership α (Distinct α) := ⟨fun s a => a ∈ s.toList⟩

@[simp]
theorem not_mem_empty (a : α) : ¬ a ∈ (empty : Distinct α) := List.not_mem_nil

@[simp]
theorem mem_toList {s : Distinct α} {a : α} : a ∈ s.toList ↔ a ∈ s := Iff.rfl

/-- Equal sets may differ in the order of arrival. -/
theorem perm_toList {s t : Distinct α} (h : ∀ a, a ∈ s ↔ a ∈ t) : s.toList.Perm t.toList :=
  (List.perm_ext_iff_of_nodup s.nodup t.nodup).mpr h

def size (s : Distinct α) : Nat := s.toList.length

variable [DecidableEq α]

instance (a : α) (s : Distinct α) : Decidable (a ∈ s) := inferInstanceAs (Decidable (a ∈ s.toList))

/-- Adds a member; one that is there already changes nothing. -/
def insert (s : Distinct α) (a : α) : Distinct α :=
  if h : a ∈ s.toList then s
  else ⟨s.toList ++ [a], by
    refine List.nodup_append.2 ⟨s.nodup, by simp, ?_⟩
    intro b hb c hc
    rw [List.mem_singleton.1 hc]
    exact fun e => h (e ▸ hb)⟩

/-- Adds a member and says whether it was new. -/
def insertNew (s : Distinct α) (a : α) : Bool × Distinct α := (!decide (a ∈ s), s.insert a)

/-- Adds several members. -/
def insertMany (s : Distinct α) (as : List α) : Distinct α := as.foldl insert s

@[simp]
theorem mem_insert {s : Distinct α} {a b : α} : b ∈ s.insert a ↔ b ∈ s ∨ b = a := by
  unfold insert
  split
  · next h => exact ⟨Or.inl, fun h' => h'.elim id fun e => e ▸ h⟩
  · show b ∈ s.toList ++ [a] ↔ b ∈ s.toList ∨ b = a
    simp

@[simp]
theorem mem_insertMany {s : Distinct α} {as : List α} {b : α} :
    b ∈ s.insertMany as ↔ b ∈ s ∨ b ∈ as := by
  unfold insertMany
  induction as generalizing s with
  | nil => simp
  | cons a as ih => simp [ih, or_assoc]

end Distinct

/-! ## Lists in order -/

section
variable {α : Type _} {r : α → α → Prop} {as bs : List α}

theorem nodup_of_pairwise (hasymm : ∀ {a b}, r a b → ¬r b a) (h : as.Pairwise r) : as.Nodup := by
  refine h.imp fun hab hsame => ?_
  subst hsame
  exact hasymm hab hab

/-- A strict order leaves but one list of the same items. -/
theorem eq_of_pairwise_of_mem_iff (hasymm : ∀ {a b}, r a b → ¬r b a) (ha : as.Pairwise r)
    (hb : bs.Pairwise r) (h : ∀ a, a ∈ as ↔ a ∈ bs) : as = bs := by
  have hperm : as.Perm bs :=
    (List.perm_ext_iff_of_nodup (nodup_of_pairwise hasymm ha) (nodup_of_pairwise hasymm hb)).mpr h
  exact hperm.eq_of_pairwise (fun _ _ _ _ hab hba => absurd hba (hasymm hab)) ha hb

end

/-- Texts in the order of their code points. -/
def sortedTexts (ss : List String) : List String := ss.mergeSort fun a b => !decide (b < a)

theorem pairwise_sortedTexts (ss : List String) : (sortedTexts ss).Pairwise (· ≤ ·) := by
  have hle : ∀ a b : String, (!decide (b < a)) = true ↔ a ≤ b := by
    intro a b
    rw [Bool.not_eq_true', decide_eq_false_iff_not, String.not_lt]
  have hsorted : (sortedTexts ss).Pairwise fun a b => (!decide (b < a)) = true := by
    refine List.pairwise_mergeSort (fun a b c hab hbc => ?_) (fun a b => ?_) ss
    · exact (hle a c).mpr (String.le_trans ((hle a b).mp hab) ((hle b c).mp hbc))
    · rw [Bool.or_eq_true, hle, hle]
      exact String.le_total a b
  exact hsorted.imp fun h => (hle _ _).mp h

theorem pairwise_lt_sortedTexts {ss : List String} (h : ss.Nodup) :
    (sortedTexts ss).Pairwise (· < ·) := by
  have hnodup : (sortedTexts ss).Nodup := (List.mergeSort_perm ss _).nodup_iff.mpr h
  exact (pairwise_sortedTexts ss).imp₂ (fun _ _ hle hne => Std.lt_of_le_of_ne hle hne) hnodup

theorem sortedTexts_eq_of_perm {ss ts : List String} (h : ss.Perm ts) :
    sortedTexts ss = sortedTexts ts := by
  have hperm : (sortedTexts ss).Perm (sortedTexts ts) :=
    (List.mergeSort_perm ss _).trans (h.trans (List.mergeSort_perm ts _).symm)
  exact hperm.eq_of_pairwise (fun _ _ _ _ => String.le_antisymm) (pairwise_sortedTexts ss)
    (pairwise_sortedTexts ts)

end RetentionPlan
