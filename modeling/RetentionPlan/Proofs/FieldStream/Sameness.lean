import RetentionPlan.FieldStream.Value

/-!
# When values are the same

Numbers of any kind are the same when their values are, and a NaN has none. Being the same passes on
from value to value, so adding values to a set never loses a member up to being the same.
-/
namespace RetentionPlan.FieldStream.Value

/-! ## Numbers -/

/-- An integer on the scale of `Binary64.scaled`. -/
def scaledInt (n : Int) : Int := n * Nat.pow 2 1074

/-- The value of a number: of a finite one on the scale that makes it an integer, of an infinite one
the bits. -/
def magnitude? : Value → Option (Int ⊕ UInt64)
  | bool b => some (.inl (scaledInt (boolInt b)))
  | int n => some (.inl (scaledInt n))
  | float x => if x.isNaN then none else if x.isInfinite then some (.inr x.bits)
      else some (.inl x.scaled)
  | _ => none

/-- Truth values, integers and floats are numbers. -/
def isNumber : Value → Bool
  | bool _ | int _ | float _ => true
  | _ => false

theorem isNumber_of_magnitude? {v : Value} {m : Int ⊕ UInt64} (h : v.magnitude? = some m) :
    v.isNumber = true := by
  cases v <;> simp_all [magnitude?, isNumber]

theorem mul_pow_inj {m n : Int} (k : Nat) :
    m * (Nat.pow 2 k : Nat) = n * (Nat.pow 2 k : Nat) ↔ m = n :=
  Int.mul_eq_mul_right_iff (Int.natCast_ne_zero.mpr (Nat.ne_of_gt (Nat.two_pow_pos k)))

theorem scaledInt_inj {m n : Int} : scaledInt m = scaledInt n ↔ m = n := by
  simp only [scaledInt, mul_pow_inj]

theorem isInteger_iff {x : Binary64} {n : Int} :
    x.isInteger n = true ↔ magnitude? (float x) = some (.inl (scaledInt n)) := by
  have heq : x.isInteger n = (x.isFinite && x.scaled == scaledInt n) := rfl
  rw [heq, magnitude?]
  by_cases hexp : x.exponentField = 2047 <;> by_cases hfrac : x.fraction = 0 <;>
    simp [Binary64.isFinite, Binary64.isNaN, Binary64.isInfinite, hexp, hfrac]

theorem sameValue_iff {x y : Binary64} :
    x.sameValue y = true ↔ ∃ m, magnitude? (float x) = some m ∧ magnitude? (float y) = some m := by
  -- Equal bits are those of one number, so an infinite number has not the bits of a finite one.
  have hbits : x.bits = y.bits → x.isInfinite = y.isInfinite := fun h =>
    congrArg (fun bits => Binary64.isInfinite ⟨bits⟩) h
  simp only [Binary64.sameValue, magnitude?]
  cases hx : x.isNaN <;> cases hy : y.isNaN <;> cases hi : x.isInfinite <;>
    cases hj : y.isInfinite <;> simp
  · exact eq_comm
  · exact fun h => absurd (hbits h) (by simp [hi, hj])
  · exact fun h => absurd (hbits h) (by simp [hi, hj])
  · exact eq_comm

theorem same_int_iff {n : Int} {b : Value} :
    same (int n) b = true ↔ b.magnitude? = some (.inl (scaledInt n)) := by
  cases b with
  | float y => rw [same, isInteger_iff]
  | int m =>
    have h : magnitude? (int m) = some (.inl (scaledInt n)) ↔ m = n := by
      simp only [magnitude?, Option.some.injEq, Sum.inl.injEq, scaledInt_inj]
    rw [same, beq_iff_eq, h, eq_comm]
  | bool c =>
    have h : magnitude? (bool c) = some (.inl (scaledInt n)) ↔ boolInt c = n := by
      simp only [magnitude?, Option.some.injEq, Sum.inl.injEq, scaledInt_inj]
    rw [same, beq_iff_eq, h, eq_comm]
  | _ => simp [same, magnitude?]

theorem same_bool (b : Bool) (v : Value) : same (bool b) v = same (int (boolInt b)) v := by
  cases v with
  | bool c => cases b <;> cases c <;> rfl
  | _ => simp only [same]

/-- A number is the same as another exactly if both have the same value. -/
theorem same_iff_magnitude? {a b : Value} (h : a.isNumber = true) :
    same a b = true ↔ ∃ m, a.magnitude? = some m ∧ b.magnitude? = some m := by
  cases a with
  | bool a => simp [same_bool, same_int_iff, magnitude?]
  | int n => simp [same_int_iff, magnitude?]
  | float x =>
    cases b with
    | bool b =>
      rw [same, isInteger_iff]
      simp [magnitude?]
    | int n =>
      rw [same, isInteger_iff]
      simp [magnitude?]
    | float y => exact sameValue_iff
    | _ => simp [same, magnitude?]
  | _ => simp [isNumber] at h

/-! ## Collections -/

def members? : Value → Option (List Value)
  | set items | frozenSet items => some items
  | _ => none

theorem sameMembers_iff {as bs : List Value} :
    sameMembers as bs = true ↔ ∀ a ∈ as, ∃ b ∈ bs, same a b = true := by
  induction as with
  | nil => simp [sameMembers]
  | cons a as ih => rw [sameMembers, Bool.and_eq_true, ih, List.forall_mem_cons, List.any_eq_true]

theorem same_list_iff {as : List Value} {b : Value} :
    same (list as) b = true ↔ ∃ bs, b = list bs ∧ sameItems as bs = true := by
  cases b <;> simp [same]

theorem same_tuple_iff {as : List Value} {b : Value} :
    same (tuple as) b = true ↔ ∃ bs, b = tuple bs ∧ sameItems as bs = true := by
  cases b <;> simp [same]

theorem same_set_iff {as : List Value} {b : Value} :
    same (set as) b = true ↔
      ∃ bs, b.members? = some bs ∧ as.length = bs.length ∧ sameMembers as bs = true := by
  cases b <;> simp [same, members?]

theorem same_frozenSet (as : List Value) (b : Value) : same (frozenSet as) b = same (set as) b := by
  cases b <;> simp only [same]

theorem same_of_members? {v : Value} {as : List Value} (h : v.members? = some as) (b : Value) :
    same v b = same (set as) b := by
  cases v with
  | set => rw [Option.some.inj h]
  | frozenSet => rw [Option.some.inj h, same_frozenSet]
  | _ => simp [members?] at h

/-! ## Being the same passes on -/

mutual
theorem same_trans {a b c : Value} (hab : same a b = true) (hbc : same b c = true) :
    same a c = true := by
  match a with
  | .bool _ | .int _ | .float _ =>
    obtain ⟨m, ha, hb⟩ := (same_iff_magnitude? rfl).mp hab
    obtain ⟨m', hb', hc⟩ := (same_iff_magnitude? (isNumber_of_magnitude? hb)).mp hbc
    obtain rfl : m = m' := Option.some.inj (hb.symm.trans hb')
    exact (same_iff_magnitude? rfl).mpr ⟨m, ha, hc⟩
  | .null | .text _ | .bytes _ | .mapping =>
    cases b <;> simp only [same, beq_iff_eq, Bool.false_eq_true] at hab
    all_goals first | exact hbc | exact hab ▸ hbc
  | .list as =>
    obtain ⟨bs, rfl, hab⟩ := same_list_iff.mp hab
    obtain ⟨cs, rfl, hbc⟩ := same_list_iff.mp hbc
    exact same_list_iff.mpr ⟨cs, rfl, sameItems_trans hab hbc⟩
  | .tuple as =>
    obtain ⟨bs, rfl, hab⟩ := same_tuple_iff.mp hab
    obtain ⟨cs, rfl, hbc⟩ := same_tuple_iff.mp hbc
    exact same_tuple_iff.mpr ⟨cs, rfl, sameItems_trans hab hbc⟩
  | .set as | .frozenSet as =>
    rw [same_of_members? rfl] at hab ⊢
    obtain ⟨bs, hb, hlength, hab⟩ := same_set_iff.mp hab
    rw [same_of_members? hb] at hbc
    obtain ⟨cs, hc, hlength', hbc⟩ := same_set_iff.mp hbc
    exact same_set_iff.mpr ⟨cs, hc, hlength.trans hlength', sameMembers_trans hab hbc⟩

theorem sameItems_trans {as bs cs : List Value} (hab : sameItems as bs = true)
    (hbc : sameItems bs cs = true) : sameItems as cs = true := by
  match as, bs, cs with
  | [], [], [] => rfl
  | a :: as, b :: bs, c :: cs =>
    rw [sameItems, Bool.and_eq_true] at hab hbc ⊢
    exact ⟨same_trans hab.1 hbc.1, sameItems_trans hab.2 hbc.2⟩

theorem sameMembers_trans {as bs cs : List Value} (hab : sameMembers as bs = true)
    (hbc : sameMembers bs cs = true) : sameMembers as cs = true := by
  match as with
  | [] => rfl
  | a :: as =>
    rw [sameMembers, Bool.and_eq_true, List.any_eq_true] at hab ⊢
    obtain ⟨⟨b, hb, hsame⟩, hab⟩ := hab
    obtain ⟨c, hc, hsame'⟩ := sameMembers_iff.mp hbc b hb
    exact ⟨⟨c, hc, same_trans hsame hsame'⟩, sameMembers_trans hab hbc⟩
end

/-! ## Adding to a set -/

/-- Adding a value makes exactly the values that are the same as it members, besides those that
were. -/
theorem any_insertInto (members : List Value) (v x : Value) :
    (insertInto members v).any (same x) = (members.any (same x) || same x v) := by
  unfold insertInto
  split
  · -- The value was a member already, and what is the same as it was one too.
    rename_i hmember
    obtain ⟨w, hw, hvw⟩ := List.any_eq_true.mp hmember
    cases hx : same x v with
    | false => rw [Bool.or_false]
    | true => rw [Bool.or_true, List.any_eq_true]; exact ⟨w, hw, same_trans hx hvw⟩
  · rw [List.any_append, List.any_cons, List.any_nil, Bool.or_false]

theorem insertAll_nil (members : List Value) : insertAll members [] = members := rfl

theorem insertAll_cons (members : List Value) (v : Value) (vs : List Value) :
    insertAll members (v :: vs) = insertAll (insertInto members v) vs := rfl

/-- Adding values makes exactly the values that are the same as one of them members, besides those
that were. -/
theorem any_insertAll (members vs : List Value) (x : Value) :
    (insertAll members vs).any (same x) = (members.any (same x) || vs.any (same x)) := by
  induction vs generalizing members with
  | nil => rw [insertAll_nil, List.any_nil, Bool.or_false]
  | cons v vs ih => rw [insertAll_cons, ih, any_insertInto, List.any_cons, Bool.or_assoc]

end RetentionPlan.FieldStream.Value
