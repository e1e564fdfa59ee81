import RetentionPlan.Proofs.FieldStream.Fields
import Mathlib.Data.List.Pairwise

/-!
# Sets through a stream

A set is written as the only field of a stream. Decoding freezes its members, so a member comes back
the same exactly if no collection in it is anything but a tuple: a frozen set, at whatever depth,
comes back as a tuple, which is never the same as the frozen set.
-/
namespace RetentionPlan.FieldStream

namespace Value

/-! ## Values without collections but tuples -/

mutual
/-- Is no collection in the value anything but a tuple? Among values that may be members of sets,
these are the ones that hold no frozen set at any depth. -/
def isPlain : Value → Bool
  | list _ | set _ | frozenSet _ | mapping => false
  | tuple items => allPlain items
  | _ => true

def allPlain : List Value → Bool
  | [] => true
  | a :: as => isPlain a && allPlain as
end

mutual
/-- Is there no NaN in the value, at any depth? -/
def isNaNFree : Value → Bool
  | float x => !x.isNaN
  | list items | tuple items | set items | frozenSet items => allNaNFree items
  | _ => true

def allNaNFree : List Value → Bool
  | [] => true
  | a :: as => isNaNFree a && allNaNFree as
end

/-- A check of lists that goes through the places one by one is the check of all of them. -/
theorem eq_all_of_cons {p : Value → Bool} {q : List Value → Bool} (hnil : q [] = true)
    (hcons : ∀ a as, q (a :: as) = (p a && q as)) (vs : List Value) : q vs = vs.all p := by
  induction vs with
  | nil => exact hnil
  | cons v vs ih => rw [hcons, ih, List.all_cons]

theorem allPlain_eq (vs : List Value) : allPlain vs = vs.all isPlain :=
  eq_all_of_cons rfl (fun _ _ => rfl) vs

theorem allNaNFree_eq (vs : List Value) : allNaNFree vs = vs.all isNaNFree :=
  eq_all_of_cons rfl (fun _ _ => rfl) vs

theorem allHashable_eq (vs : List Value) : allHashable vs = vs.all isHashable :=
  eq_all_of_cons rfl (fun _ _ => rfl) vs

theorem isPlain_tuple {items : List Value} :
    isPlain (tuple items) = true ↔ ∀ v ∈ items, v.isPlain = true := by
  rw [isPlain, allPlain_eq, List.all_eq_true]

theorem isHashable_tuple {items : List Value} :
    isHashable (tuple items) = true ↔ ∀ v ∈ items, v.isHashable = true := by
  rw [isHashable, allHashable_eq, List.all_eq_true]

theorem isNaNFree_of_items? {v : Value} {items : List Value} (h : v.items? = some items) :
    v.isNaNFree = true ↔ ∀ w ∈ items, w.isNaNFree = true := by
  rw [← List.all_eq_true, ← allNaNFree_eq]
  cases v <;> simp_all [items?, isNaNFree]

theorem eq_tuple_of_isPlain {v : Value} {items : List Value} (h : v.isPlain = true)
    (hitems : v.items? = some items) : v = tuple items ∧ ∀ w ∈ items, w.isPlain = true := by
  cases v with
  | tuple =>
    obtain rfl := Option.some.inj hitems
    exact ⟨rfl, isPlain_tuple.mp h⟩
  | list | set | frozenSet => simp [isPlain] at h
  | _ => simp [items?] at hitems

/-- Freezing leaves plain values alone. -/
theorem frozen_eq_of_isPlain {v : Value} (h : v.isPlain = true) : v.frozen = v := by
  induction v using induction_items with
  | leaf v hleaf => exact frozen_of_items?_eq_none hleaf
  | node v items hitems ih =>
    obtain ⟨rfl, hplain⟩ := eq_tuple_of_isPlain h hitems
    have hmap : items.map frozen = items.map id :=
      List.map_congr_left fun w hw => ih w hw (hplain w hw)
    rw [frozen_of_items? hitems, hmap, List.map_id]

theorem frozenAll_eq_of_isPlain {vs : List Value} (h : ∀ v ∈ vs, v.isPlain = true) :
    frozenAll vs = vs := by
  have hmap : vs.map frozen = vs.map id :=
    List.map_congr_left fun v hv => frozen_eq_of_isPlain (h v hv)
  rw [frozenAll_eq_map, hmap, List.map_id]

theorem isPlain_frozen {v : Value} (h : (written v).failure = none) : v.frozen.isPlain = true := by
  induction v using induction_items with
  | leaf v hleaf =>
    rw [frozen_of_items?_eq_none hleaf]
    cases v <;> simp_all [isPlain, items?, written]
  | node v items hitems ih =>
    rw [frozen_of_items? hitems, isPlain_tuple, List.forall_mem_map]
    exact fun w hw => ih w hw (((failure_of_items? hitems).mp h).2 w hw)

theorem isHashable_of_isPlain {v : Value} (h : v.isPlain = true) : v.isHashable = true := by
  induction v using induction_items with
  | leaf v hleaf => cases v <;> simp_all [isPlain, isHashable, items?]
  | node v items hitems ih =>
    obtain ⟨rfl, hplain⟩ := eq_tuple_of_isPlain h hitems
    exact isHashable_tuple.mpr fun w hw => ih w hw (hplain w hw)

theorem isNaNFree_frozen {v : Value} (h : v.isNaNFree = true) : v.frozen.isNaNFree = true := by
  induction v using induction_items with
  | leaf v hleaf => rwa [frozen_of_items?_eq_none hleaf]
  | node v items hitems ih =>
    have hitem := (isNaNFree_of_items? hitems).mp h
    rw [frozen_of_items? hitems, isNaNFree_of_items? rfl, List.forall_mem_map]
    exact fun w hw => ih w hw (hitem w hw)

/-! ## Plain values and being the same -/

theorem sameItems_self {vs : List Value} (h : ∀ v ∈ vs, same v v = true) :
    sameItems vs vs = true := by
  induction vs with
  | nil => rfl
  | cons v vs ih =>
    rw [List.forall_mem_cons] at h
    rw [sameItems, h.1, ih h.2, Bool.true_and]

/-- Every value without a NaN is the same as itself. -/
theorem same_self {v : Value} (h : v.isNaNFree = true) : same v v = true := by
  induction v using induction_items with
  | leaf v hleaf =>
    cases v <;> simp_all [same, items?, isNaNFree, Binary64.sameValue_self]
  | node v items hitems ih =>
    have hitem := fun w hw => ih w hw ((isNaNFree_of_items? hitems).mp h w hw)
    cases v with
    | list | tuple =>
      obtain rfl := Option.some.inj hitems
      rw [same]
      exact sameItems_self hitem
    | set | frozenSet =>
      obtain rfl := Option.some.inj hitems
      rw [same_of_members? rfl, same_set_iff]
      exact ⟨_, rfl, rfl, sameMembers_iff.mpr fun w hw => ⟨w, hw, hitem w hw⟩⟩
    | _ => simp [items?] at hitems

/-- Places that are the same one way are plain and the same the other way, if that holds of each
item. -/
theorem sameItems_symm {as bs : List Value}
    (hitem : ∀ a ∈ as, ∀ b, same a b = true → b.isPlain = true ∧ same b a = true)
    (h : sameItems as bs = true) : (∀ b ∈ bs, b.isPlain = true) ∧ sameItems bs as = true := by
  induction as generalizing bs with
  | nil =>
    cases bs with
    | nil => exact ⟨fun _ hb => absurd hb List.not_mem_nil, rfl⟩
    | cons b bs => simp [sameItems] at h
  | cons a as ih =>
    cases bs with
    | nil => simp [sameItems] at h
    | cons b bs =>
      rw [List.forall_mem_cons] at hitem
      rw [sameItems, Bool.and_eq_true] at h
      obtain ⟨hb, hba⟩ := hitem.1 b h.1
      obtain ⟨hbs, hsame⟩ := ih hitem.2 h.2
      exact ⟨List.forall_mem_cons.mpr ⟨hb, hbs⟩, by rw [sameItems, hba, hsame, Bool.true_and]⟩

/-- What is the same as a plain value is plain, and the order does not matter. -/
theorem same_symm_of_isPlain {a b : Value} (ha : a.isPlain = true) (h : same a b = true) :
    b.isPlain = true ∧ same b a = true := by
  induction a using induction_items generalizing b with
  | leaf a hleaf =>
    cases hnumber : a.isNumber with
    | true =>
      obtain ⟨m, hma, hmb⟩ := (same_iff_magnitude? hnumber).mp h
      have hb := isNumber_of_magnitude? hmb
      refine ⟨?_, (same_iff_magnitude? hb).mpr ⟨m, hmb, hma⟩⟩
      cases b <;> first | rfl | simp [isNumber] at hb
    | false =>
      cases a <;> cases b <;> simp_all [isNumber, same, isPlain, items?]
  | node a as has ih =>
    obtain ⟨rfl, hplain⟩ := eq_tuple_of_isPlain ha has
    obtain ⟨bs, rfl, hitems⟩ := same_tuple_iff.mp h
    obtain ⟨hbs, hsymm⟩ := sameItems_symm (fun a ha b => ih a ha (hplain a ha)) hitems
    exact ⟨isPlain_tuple.mpr hbs, same_tuple_iff.mpr ⟨as, rfl, hsymm⟩⟩

/-! ## Sets -/

/-- Values are the members of a set, in some order: each may be a member of one, none holds a NaN,
and none is the same as one before it. -/
structure IsSet (members : List Value) : Prop where
  hashable : ∀ v ∈ members, v.isHashable = true
  nanFree : ∀ v ∈ members, v.isNaNFree = true
  apart : members.Pairwise fun a b => same b a = false

/-- Adding a value leaves the members as they are, or appends it if it is apart from them. -/
theorem insertInto_eq_or (members : List Value) (v : Value) :
    insertInto members v = members ∨
      (insertInto members v = members ++ [v] ∧ ∀ a ∈ members, same v a = false) := by
  unfold insertInto
  split
  · exact .inl rfl
  · rename_i hnew
    refine .inr ⟨rfl, fun a ha => ?_⟩
    rw [← Bool.not_eq_true]
    exact fun hsame => hnew (List.any_eq_true.mpr ⟨a, ha, hsame⟩)

/-- Adding values brings in no others. -/
theorem insertAll_subset (members vs : List Value) : insertAll members vs ⊆ members ++ vs := by
  induction vs generalizing members with
  | nil => exact List.subset_append_left members []
  | cons v vs ih =>
    rw [insertAll_cons]
    obtain h | ⟨h, -⟩ := insertInto_eq_or members v
    · rw [h]
      have hsub : members ++ vs ⊆ members ++ v :: vs :=
        List.append_subset.mpr ⟨List.subset_append_left _ _, fun a ha => by simp [ha]⟩
      exact List.Subset.trans (ih members) hsub
    · rw [h]
      have hih := ih (members ++ [v])
      rwa [List.append_assoc, List.singleton_append] at hih

theorem length_insertAll_le (members vs : List Value) :
    (insertAll members vs).length ≤ members.length + vs.length := by
  induction vs generalizing members with
  | nil => exact Nat.le_refl _
  | cons v vs ih =>
    have hih := ih (insertInto members v)
    rw [insertAll_cons, List.length_cons]
    obtain h | ⟨h, -⟩ := insertInto_eq_or members v <;> rw [h] at hih ⊢
    · omega
    · rw [List.length_append, List.length_singleton] at hih
      omega

/-- If as many values were added as there are, each of them was. -/
theorem insertAll_eq_append_of_length {members vs : List Value}
    (h : (insertAll members vs).length = members.length + vs.length) :
    insertAll members vs = members ++ vs := by
  induction vs generalizing members with
  | nil => rw [insertAll_nil, List.append_nil]
  | cons v vs ih =>
    rw [insertAll_cons] at h ⊢
    obtain hkept | ⟨hadded, -⟩ := insertInto_eq_or members v
    · have hle := length_insertAll_le members vs
      rw [hkept, List.length_cons] at h
      omega
    · rw [hadded] at h ⊢
      rw [ih (by simp only [List.length_append, List.length_cons, List.length_nil] at h ⊢; omega),
        List.append_assoc, List.singleton_append]

theorem insertAll_eq_append_of_apart {members vs : List Value}
    (h : (members ++ vs).Pairwise fun a b => same b a = false) :
    insertAll members vs = members ++ vs := by
  induction vs generalizing members with
  | nil => rw [insertAll_nil, List.append_nil]
  | cons v vs ih =>
    have hnew : insertInto members v = members ++ [v] := by
      refine if_neg fun hmember => ?_
      obtain ⟨a, ha, hsame⟩ := List.any_eq_true.mp hmember
      have hapart := (List.pairwise_append.mp h).2.2 a ha v List.mem_cons_self
      rw [hsame] at hapart
      exact Bool.noConfusion hapart
    rw [List.append_cons] at h
    rw [insertAll_cons, hnew, ih h, ← List.append_cons]

theorem apart_insertAll {members vs : List Value}
    (h : members.Pairwise fun a b => same b a = false) :
    (insertAll members vs).Pairwise fun a b => same b a = false := by
  induction vs generalizing members with
  | nil => exact h
  | cons v vs ih =>
    rw [insertAll_cons]
    obtain hkept | ⟨hadded, hnew⟩ := insertInto_eq_or members v
    · rw [hkept]
      exact ih h
    · rw [hadded]
      refine ih (List.pairwise_append.mpr ⟨h, List.pairwise_singleton _ _, fun a ha b hb => ?_⟩)
      rw [List.mem_singleton.mp hb]
      exact hnew a ha

end Value

/-! ## Streams of sets -/

section Sets
variable {members : List Value} {bytes : List UInt8}

def setField (members : List Value) : Field := ⟨0, .collection members⟩

theorem fits_setField (h : (written (.list members)).failure = none) : (setField members).Fits :=
  ⟨Int.le_refl 0, (by decide : (0 : Int) < (Nat.pow 2 31 : Nat)), h⟩

/-- A set whose members can be written is the only field of its stream. -/
theorem encode_of_whole (h : (written (.list members)).failure = none) :
    encode members = .ok (fieldBytes [setField members]) := by
  have hput : Writer.writeCollection {} 0 (.set members) = Writer.put {} (setField members) := rfl
  have hwritten := Writer.put_of_fits (w := {}) (fits_setField h) rfl (by decide : (-1 : Int) < 0)
  simp [encode, Writer.serialize, hput, hwritten, Writer.finish, Writer.contents, fieldBytes,
    Value.isTruthy]

theorem encode_of_failure {e : StreamError} (h : (written (.list members)).failure = some e) :
    encode members = .error e := by
  have hopen : Writer.openField {} 0 = (.ok (), { bytes := bigEndian 4 0, last := 0 }) := rfl
  simp [encode, Writer.serialize, Writer.writeCollection, Value.toItems, Except.map,
    Writer.writeField, hopen, Writer.append, h]

/-- A set is encoded exactly if its members can be written. -/
theorem encode_eq_ok_iff :
    encode members = .ok bytes ↔
      (written (.list members)).failure = none ∧ bytes = fieldBytes [setField members] := by
  cases h : (written (.list members)).failure with
  | none => rw [encode_of_whole h, Except.ok.injEq, eq_comm, and_iff_right rfl]
  | some e => simp [encode_of_failure h]

/-- The members of the set that comes back: the frozen ones, added one after the other. -/
def decodedSet (members : List Value) : List Value := Value.insertAll [] (Value.frozenAll members)

theorem decode_fieldBytes (h : (written (.list members)).failure = none) :
    decode (fieldBytes [setField members]) = .ok (decodedSet members) := by
  have hfits : ∀ f ∈ [setField members], f.Fits := by
    rw [List.forall_mem_singleton]
    exact fits_setField h
  have hs : Reader.Stands { bytes := fieldBytes [setField members] } [setField members] [] :=
    .before rfl (List.append_nil _).symm
  have hfirst : (-1 : Int) < 0 := by decide
  obtain ⟨r, hfield, -, hstands⟩ :=
    Reader.field?_of_stands hs hfits (List.pairwise_singleton _ _) hfirst
  have hcontent : contentAt [setField members] 0 = some (.collection members) := rfl
  rw [hcontent, Option.map_some, Content.value, Value.frozen] at hfield
  have hfinish := Reader.finish_of_stands hstands fun f hf =>
    hfits f ((List.dropWhile_sublist _).subset hf)
  simp only [decode, Reader.deserialize, Reader.readCollection, hfield, hfinish, decodedSet]

/-! ## What a set keeps -/

theorem exists_frozen_of_mem_decodedSet {v : Value} (h : v ∈ decodedSet members) :
    ∃ w ∈ members, w.frozen = v := by
  have hmem := Value.insertAll_subset [] (Value.frozenAll members) h
  rwa [List.nil_append, Value.frozenAll_eq_map, List.mem_map] at hmem

theorem isPlain_decodedSet (h : (written (.list members)).failure = none) :
    ∀ v ∈ decodedSet members, v.isPlain = true := by
  intro v hv
  obtain ⟨w, hw, rfl⟩ := exists_frozen_of_mem_decodedSet hv
  exact Value.isPlain_frozen (((failure_of_items? rfl).mp h).2 w hw)

theorem decodedSet_eq_of_isPlain (hset : Value.IsSet members)
    (hplain : ∀ v ∈ members, v.isPlain = true) : decodedSet members = members := by
  rw [decodedSet, Value.frozenAll_eq_of_isPlain hplain]
  exact Value.insertAll_eq_append_of_apart (by rw [List.nil_append]; exact hset.apart)

theorem isSet_decodedSet (hset : Value.IsSet members)
    (h : (written (.list members)).failure = none) : Value.IsSet (decodedSet members) where
  hashable v hv := Value.isHashable_of_isPlain (isPlain_decodedSet h v hv)
  nanFree v hv := by
    obtain ⟨w, hw, rfl⟩ := exists_frozen_of_mem_decodedSet hv
    exact Value.isNaNFree_frozen (hset.nanFree w hw)
  apart := Value.apart_insertAll List.Pairwise.nil

/-- If the set that comes back is the one written, then no frozen members were taken for each
other. -/
theorem apart_frozen_of_same
    (hsame : Value.same (.set (decodedSet members)) (.set members) = true) :
    (members.map Value.frozen).Pairwise (fun a b => Value.same b a = false) ∧
      ∀ v ∈ members, ∃ w ∈ members, Value.same v.frozen w = true := by
  obtain ⟨_, hmembers, hlength, hmatched⟩ := Value.same_set_iff.mp hsame
  obtain rfl := Option.some.inj hmembers
  have hall : decodedSet members = members.map Value.frozen := by
    have hwhole : (decodedSet members).length =
        ([] : List Value).length + (Value.frozenAll members).length := by
      simpa using hlength
    rw [decodedSet, Value.insertAll_eq_append_of_length hwhole, List.nil_append,
      Value.frozenAll_eq_map]
  rw [hall] at hmatched
  refine ⟨hall ▸ Value.apart_insertAll List.Pairwise.nil, fun v hv => ?_⟩
  exact Value.sameMembers_iff.mp hmatched v.frozen (List.mem_map_of_mem hv)

/-- The frozen forms of two values are not the same, in either order. -/
def ApartFrozen (a b : Value) : Prop :=
  ¬Value.same a.frozen b.frozen = true ∧ ¬Value.same b.frozen a.frozen = true

instance : Std.Symm ApartFrozen where
  symm _ _ h := h.symm

/-- The set that comes back is the one written exactly if the latter is plain: a member that is not
plain has to be matched by a plain one, but then the frozen forms of the two are one member. -/
theorem same_decodedSet_iff (hset : Value.IsSet members)
    (h : (written (.list members)).failure = none) :
    Value.same (.set (decodedSet members)) (.set members) = true ↔
      ∀ v ∈ members, v.isPlain = true := by
  constructor
  · intro hsame v hv
    obtain ⟨hapart, hmatched⟩ := apart_frozen_of_same hsame
    have hfrozen : ∀ w ∈ members, w.frozen.isPlain = true := fun w hw =>
      Value.isPlain_frozen (((failure_of_items? rfl).mp h).2 w hw)
    obtain ⟨w, hw, hvw⟩ := hmatched v hv
    obtain ⟨hplain, -⟩ := Value.same_symm_of_isPlain (hfrozen v hv) hvw
    -- Frozen forms are plain, so that those of two members are apart in both orders.
    have hdistinct : members.Pairwise ApartFrozen := by
      refine (List.pairwise_map.mp hapart).imp_of_mem fun {a b} ha _ hba => ?_
      rw [← Bool.not_eq_true] at hba
      exact ⟨fun hab => hba (Value.same_symm_of_isPlain (hfrozen a ha) hab).2, hba⟩
    rw [← Value.frozen_eq_of_isPlain hplain] at hvw
    by_contra hnot
    have hne : v ≠ w := fun heq => hnot (heq ▸ hplain)
    exact (hdistinct.forall hv hw hne).1 hvw
  · intro hplain
    rw [decodedSet_eq_of_isPlain hset hplain]
    refine Value.same_self ?_
    rw [Value.isNaNFree_of_items? rfl]
    exact hset.nanFree

theorem failure_decodedSet (h : (written (.list members)).failure = none) :
    (written (.list (decodedSet members))).failure = none := by
  obtain ⟨hlength, hitems⟩ := (failure_of_items? rfl).mp h
  rw [failure_of_items? rfl]
  constructor
  · have hle := Value.length_insertAll_le [] (Value.frozenAll members)
    rw [Value.length_frozenAll, List.length_nil, Nat.zero_add] at hle
    exact Nat.lt_of_le_of_lt hle hlength
  · intro v hv
    obtain ⟨w, hw, rfl⟩ := exists_frozen_of_mem_decodedSet hv
    rw [written_frozen]
    exact hitems w hw

/-- Every set that is encoded is decoded to a set that is encoded and decoded to itself. It is the
set that was encoded exactly if the members of that one are plain, and then the members are those
written. So a set loses something exactly if a member holds a frozen set at some depth, and it then
shares what it is decoded to with another set. -/
theorem decode_encode (hset : Value.IsSet members) (h : encode members = .ok bytes) :
    ∃ decoded, decode bytes = .ok decoded ∧ Value.IsSet decoded ∧
      (∃ bytes', encode decoded = .ok bytes' ∧ decode bytes' = .ok decoded) ∧
      (Value.same (.set decoded) (.set members) = true ↔ ∀ v ∈ members, v.isPlain = true) ∧
      ((∀ v ∈ members, v.isPlain = true) → decoded = members) := by
  obtain ⟨hwhole, rfl⟩ := encode_eq_ok_iff.mp h
  have hagain := failure_decodedSet hwhole
  have hset' := isSet_decodedSet hset hwhole
  have hfixed := decode_fieldBytes hagain
  rw [decodedSet_eq_of_isPlain hset' (isPlain_decodedSet hwhole)] at hfixed
  exact ⟨_, decode_fieldBytes hwhole, hset', ⟨_, encode_of_whole hagain, hfixed⟩,
    same_decodedSet_iff hset hwhole, decodedSet_eq_of_isPlain hset⟩

end Sets

/-- The set of a frozen set comes back as the set of a tuple. -/
theorem decode_encode_frozenSet : ∃ bytes decoded, encode [.frozenSet [.int 1]] = .ok bytes ∧
    decode bytes = .ok decoded ∧
      Value.same (.set decoded) (.set [.frozenSet [.int 1]]) = false := by
  have hset : Value.IsSet [.frozenSet [.int 1]] :=
    ⟨by simp [Value.isHashable], by simp [Value.isNaNFree, Value.allNaNFree],
      List.pairwise_singleton _ _⟩
  have hencode : encode [.frozenSet [.int 1]] = .ok (fieldBytes [setField [.frozenSet [.int 1]]]) :=
    encode_of_whole (by decide)
  obtain ⟨decoded, hdecode, -, -, hsame, -⟩ := decode_encode hset hencode
  refine ⟨_, decoded, hencode, hdecode, ?_⟩
  rw [← Bool.not_eq_true, hsame]
  simp [Value.isPlain]

end RetentionPlan.FieldStream
