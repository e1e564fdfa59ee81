import RetentionPlan.Proofs.FieldStream.Grammar

/-!
# Values through a stream

What was written for a value spells it, so it is read back from the front of any bytes that begin
with it. Every kind of collection comes back as a tuple, so the value read is the `frozen` form of
the one written.
-/
namespace RetentionPlan.FieldStream

/-! ## Numbers and texts -/

/-- Twice the bound of signed numbers is the number of words of that many bytes. -/
theorem two_mul_half {width : Nat} (h : 0 < width) :
    2 * Nat.pow 2 (8 * width - 1) = Nat.pow 256 width := by
  have hpow : Nat.pow 256 width = 2 ^ (8 * width) := (Nat.pow_mul 2 8 width).symm
  have hsucc : 8 * width = (8 * width - 1) + 1 := by omega
  rw [hpow, hsucc, Nat.pow_succ, Nat.mul_comm]
  rfl

/-- An integer that fits its bytes is read back from them. -/
theorem ofSignedBytes_of_signedBytes? {width : Nat} {n : Int} {bytes : List UInt8} (h : 0 < width)
    (hbytes : signedBytes? width n = some bytes) :
    bytes.length = width ∧ ofSignedBytes width bytes = n := by
  have hhalf := two_mul_half h
  have hwhole : Nat.pow 2 (8 * width) = Nat.pow 256 width := Nat.pow_mul 2 8 width
  simp only [signedBytes?, Option.ite_none_right_eq_some, Option.some.injEq] at hbytes
  obtain ⟨⟨hlow, hhigh⟩, rfl⟩ := hbytes
  simp only [ofSignedBytes, hwhole, ← hhalf, length_bigEndian, true_and]
  generalize Nat.pow 2 (8 * width - 1) = half at *
  have hnonneg : 0 ≤ n % (2 * (half : Int)) := Int.emod_nonneg n (by omega)
  have hlt : n % (2 * (half : Int)) < 2 * half := Int.emod_lt_of_pos n (by omega)
  rw [ofBigEndian_bigEndian (by omega)]
  -- A negative integer stands above the bound, by the number of words.
  have hmod : n % (2 * (half : Int)) = if 0 ≤ n then n else n + 2 * half := by
    split
    · exact Int.emod_eq_of_lt ‹_› (by omega)
    · rw [← Int.add_emod_right]
      exact Int.emod_eq_of_lt (by omega) (by omega)
  split at hmod <;> split <;> omega

theorem toList_loop_eq (bytes : ByteArray) (i : Nat) (taken : List UInt8) :
    ByteArray.toList.loop bytes i taken = taken.reverse ++ bytes.data.toList.drop i := by
  induction i, taken using ByteArray.toList.loop.induct bytes with
  | case1 i taken h ih =>
    have hlt : i < bytes.data.toList.length := h
    have hget : bytes.get! i = bytes.data.toList[i] := getElem!_pos bytes.data i h
    rw [ByteArray.toList.loop, if_pos h, ih, hget, List.drop_eq_getElem_cons hlt]
    simp
  | case2 i taken h =>
    have hdrop : bytes.data.toList.drop i = [] := List.drop_eq_nil_of_le (Nat.le_of_not_lt h)
    rw [ByteArray.toList.loop, if_neg h, hdrop, List.append_nil]

@[simp]
theorem textOfBytes?_textBytes (s : String) : textOfBytes? (textBytes s) = some s := by
  have hlist : textBytes s = s.toByteArray.data.toList := toList_loop_eq s.toByteArray 0 []
  have hbytes : (textBytes s).toByteArray = s.toByteArray := by
    rw [hlist]
    exact ByteArray.ext (Array.ext' List.toList_data_toByteArray)
  have hvalid : s.toByteArray.IsValidUTF8 := s.isValidUTF8
  simp [textOfBytes?, hbytes, String.fromUTF8?, String.fromUTF8, hvalid]

theorem ofBigEndian_of_lengthBytes {n : Nat} {bytes : List UInt8} (h : lengthBytes n = some bytes) :
    bytes.length = 4 ∧ ofBigEndian bytes = n := by
  simp only [lengthBytes, Option.ite_none_right_eq_some, Option.some.injEq] at h
  obtain ⟨hlt, rfl⟩ := h
  exact ⟨length_bigEndian 4 n, ofBigEndian_bigEndian (Nat.lt_of_lt_of_eq hlt (Nat.pow_mul 2 8 4))⟩

/-! ## Pieces of writing -/

/-- One piece after another is whole when both are. -/
theorem andThen_eq_whole {a b : Written} {bytes : List UInt8} :
    a.andThen b = ⟨bytes, none⟩ ↔
      ∃ front back, a = ⟨front, none⟩ ∧ b = ⟨back, none⟩ ∧ bytes = front ++ back := by
  obtain ⟨front, _ | e⟩ := a <;> obtain ⟨back, _ | e'⟩ := b <;>
    simp [Written.andThen, eq_comm]

theorem tagged_eq_whole {tag : Tag} {payload : Option (List UInt8)} {bytes : List UInt8} :
    tagged tag payload = ⟨bytes, none⟩ ↔
      ∃ content, payload = some content ∧ bytes = tag.byte :: content := by
  cases payload <;> simp [tagged, eq_comm]

/-! ## Values -/

namespace Value

mutual
/-- The value that reading gives for a written one: every collection has become a tuple. -/
def frozen : Value → Value
  | list items | tuple items | set items | frozenSet items => tuple (frozenAll items)
  | v => v

/-- The values that reading gives, place by place. -/
def frozenAll : List Value → List Value
  | [] => []
  | v :: rest => frozen v :: frozenAll rest
end

theorem frozenAll_eq_map (vs : List Value) : frozenAll vs = vs.map frozen := by
  induction vs with
  | nil => rfl
  | cons v vs ih => simp only [frozenAll, List.map_cons, ih]

def items? : Value → Option (List Value)
  | list items | tuple items | set items | frozenSet items => some items
  | _ => none

theorem frozen_of_items? {v : Value} {items : List Value} (h : v.items? = some items) :
    v.frozen = tuple (items.map frozen) := by
  cases v <;> simp_all [items?, frozen, frozenAll_eq_map]

theorem frozen_of_items?_eq_none {v : Value} (h : v.items? = none) : v.frozen = v := by
  cases v <;> simp_all [items?, frozen]

/-- Induction on values: what holds of every value that is no collection, and of a collection when
it holds of its items, holds of all values. -/
@[elab_as_elim]
theorem induction_items {motive : Value → Prop} (leaf : ∀ v, v.items? = none → motive v)
    (node : ∀ v items, v.items? = some items → (∀ w ∈ items, motive w) → motive v) (v : Value) :
    motive v :=
  @Value.rec motive (fun items => ∀ w ∈ items, motive w)
    (leaf _ rfl) (fun _ => leaf _ rfl) (fun _ => leaf _ rfl) (fun _ => leaf _ rfl)
    (fun _ => leaf _ rfl) (fun _ => leaf _ rfl)
    (fun items => node _ items rfl) (fun items => node _ items rfl)
    (fun items => node _ items rfl) (fun items => node _ items rfl) (leaf _ rfl)
    (fun _ h => absurd h List.not_mem_nil)
    (fun _ _ hv hitems => List.forall_mem_cons.mpr ⟨hv, hitems⟩) v

@[simp]
theorem length_frozenAll (vs : List Value) : (frozenAll vs).length = vs.length := by
  rw [frozenAll_eq_map, List.length_map]

end Value

theorem collection_eq_whole {items : List Value} {bytes : List UInt8} :
    (tagged .collection (lengthBytes items.length)).andThen (writtenAll items) = ⟨bytes, none⟩ ↔
      ∃ front back, lengthBytes items.length = some front ∧ writtenAll items = ⟨back, none⟩ ∧
        bytes = Tag.collection.byte :: (front ++ back) := by
  simp only [andThen_eq_whole, tagged_eq_whole]
  constructor
  · rintro ⟨_, back, ⟨front, hfront, rfl⟩, hback, rfl⟩
    exact ⟨front, back, hfront, hback, rfl⟩
  · rintro ⟨front, back, hfront, hback, rfl⟩
    exact ⟨_, back, ⟨front, hfront, rfl⟩, hback, rfl⟩

mutual
theorem spells_of_written {v : Value} {bytes : List UInt8} (h : written v = ⟨bytes, none⟩) :
    Spells bytes v.frozen := by
  match v with
  | .null =>
    rw [written] at h
    obtain ⟨content, hcontent, rfl⟩ := tagged_eq_whole.mp h
    obtain rfl := Option.some.inj hcontent
    exact .null
  | .bool b =>
    rw [written] at h
    obtain ⟨content, hcontent, rfl⟩ := tagged_eq_whole.mp h
    obtain rfl := Option.some.inj hcontent
    cases b
    · exact .bool 0
    · exact .bool 1
  | .int n =>
    rw [written] at h
    obtain ⟨content, hcontent, rfl⟩ := tagged_eq_whole.mp h
    obtain ⟨hlength, hread⟩ := ofSignedBytes_of_signedBytes? (Nat.succ_pos 7) hcontent
    have hspells := Spells.int hlength
    rwa [hread] at hspells
  | .float x =>
    rw [written] at h
    obtain ⟨content, hcontent, rfl⟩ := tagged_eq_whole.mp h
    obtain rfl := Option.some.inj hcontent
    have hbits : x.bits.toNat < Nat.pow 256 8 := x.bits.toNat_lt
    have hspells := Spells.float (length_bigEndian 8 x.bits.toNat)
    rwa [ofBigEndian_bigEndian hbits, UInt64.ofNat_toNat] at hspells
  | .text s =>
    rw [written] at h
    obtain ⟨content, hcontent, rfl⟩ := tagged_eq_whole.mp h
    obtain ⟨front, hfront, rfl⟩ := Option.map_eq_some_iff.mp hcontent
    obtain ⟨hlength, hread⟩ := ofBigEndian_of_lengthBytes hfront
    exact .text hlength hread.symm (textOfBytes?_textBytes s)
  | .list items | .tuple items | .set items | .frozenSet items =>
    rw [written] at h
    obtain ⟨front, back, hfront, hback, rfl⟩ := collection_eq_whole.mp h
    obtain ⟨hlength, hread⟩ := ofBigEndian_of_lengthBytes hfront
    refine .collection hlength (spellsAll_of_writtenAll hback) ?_
    rw [Value.length_frozenAll, hread]
  | .bytes _ | .mapping => simp [written] at h

theorem spellsAll_of_writtenAll {vs : List Value} {bytes : List UInt8}
    (h : writtenAll vs = ⟨bytes, none⟩) : SpellsAll bytes (Value.frozenAll vs) := by
  match vs with
  | [] =>
    obtain rfl : [] = bytes := congrArg Written.bytes h
    exact .nil
  | v :: vs =>
    obtain ⟨front, back, hfront, hback, rfl⟩ := andThen_eq_whole.mp h
    exact .cons (spells_of_written hfront) (spellsAll_of_writtenAll hback)
end

/-! ## Frozen values and values kept as they are -/

theorem written_of_items? {v : Value} {items : List Value} (h : v.items? = some items) :
    written v = (tagged .collection (lengthBytes items.length)).andThen (writtenAll items) := by
  cases v <;> simp_all [Value.items?, written]

theorem failure_andThen {a b : Written} :
    (a.andThen b).failure = none ↔ a.failure = none ∧ b.failure = none := by
  cases h : a.failure <;> simp [Written.andThen, h]

/-- Several values are written whole exactly if each of them is. -/
theorem failure_writtenAll_eq_none {vs : List Value} :
    (writtenAll vs).failure = none ↔ ∀ v ∈ vs, (written v).failure = none := by
  induction vs with
  | nil => simp [writtenAll]
  | cons v vs ih => rw [writtenAll, failure_andThen, ih, List.forall_mem_cons]

theorem failure_lengthBytes {n : Nat} :
    (tagged .collection (lengthBytes n)).failure = none ↔ n < Nat.pow 2 32 := by
  unfold lengthBytes
  split <;> simp_all [tagged]

/-- A collection is written whole exactly if its length fits and its items are. -/
theorem failure_of_items? {v : Value} {items : List Value} (h : v.items? = some items) :
    (written v).failure = none ↔
      items.length < Nat.pow 2 32 ∧ ∀ w ∈ items, (written w).failure = none := by
  rw [written_of_items? h, failure_andThen, failure_lengthBytes, failure_writtenAll_eq_none]

theorem writtenAll_map {g : Value → Value} {vs : List Value}
    (h : ∀ v ∈ vs, written (g v) = written v) : writtenAll (vs.map g) = writtenAll vs := by
  induction vs with
  | nil => rfl
  | cons v vs ih =>
    rw [List.forall_mem_cons] at h
    rw [List.map_cons, writtenAll, writtenAll, h.1, ih h.2]

theorem written_frozen (v : Value) : written v.frozen = written v := by
  induction v using Value.induction_items with
  | leaf v hleaf => rw [Value.frozen_of_items?_eq_none hleaf]
  | node v items hitems ih =>
    rw [Value.frozen_of_items? hitems, written_of_items? hitems, written_of_items? rfl,
      List.length_map, writtenAll_map ih]

/-- The values that a stream keeps as they are: numbers and texts that fit, and tuples of such
values. -/
inductive Value.Storable : Value → Prop
  | null : Storable .null
  | bool (b : Bool) : Storable (.bool b)
  | int {n : Int} (hlow : -(Nat.pow 2 63 : Nat) ≤ n) (hhigh : n < (Nat.pow 2 63 : Nat)) :
      Storable (.int n)
  | float (x : Binary64) : Storable (.float x)
  | text {s : String} (hlength : (textBytes s).length < Nat.pow 2 32) : Storable (.text s)
  | tuple {items : List Value} (hlength : items.length < Nat.pow 2 32)
      (hitems : ∀ v ∈ items, Storable v) : Storable (.tuple items)

theorem lengthBytes_eq_some {n : Nat} (h : n < Nat.pow 2 32) :
    lengthBytes n = some (bigEndian 4 n) :=
  if_pos h

theorem exists_signedBytes? (width : Nat) {n : Int}
    (hlow : -(Nat.pow 2 (8 * width - 1) : Nat) ≤ n)
    (hhigh : n < (Nat.pow 2 (8 * width - 1) : Nat)) : ∃ bytes, signedBytes? width n = some bytes :=
  ⟨_, if_pos ⟨hlow, hhigh⟩⟩

namespace Value.Storable

theorem frozen_eq {v : Value} (h : v.Storable) : v.frozen = v := by
  induction h with
  | null | bool | int | float | text => simp only [frozen]
  | tuple _ _ ih => rw [frozen, frozenAll_eq_map, List.map_congr_left ih, List.map_id']

theorem failure_eq_none {v : Value} (h : v.Storable) : (written v).failure = none := by
  induction h with
  | null | bool | float => rfl
  | int hlow hhigh =>
    obtain ⟨bytes, hbytes⟩ := exists_signedBytes? 8 hlow hhigh
    simp only [written, hbytes, tagged]
  | text hlength => simp only [written, lengthBytes_eq_some hlength, Option.map_some, tagged]
  | tuple hlength _ ih => exact (failure_of_items? rfl).mpr ⟨hlength, ih⟩

end Value.Storable

end RetentionPlan.FieldStream
