import RetentionPlan.FieldStream.Reader

/-!
# The grammar of field streams

The bytes that spell a value, and the ways in which bytes fail to begin with one. The reader takes
exactly the values that are spelled, whatever lies behind them, and every list of bytes either
begins with a value or fails in one of these ways.
-/
namespace RetentionPlan.FieldStream

/-- The number of bytes that stand behind a tag in any case. -/
def Tag.width : Tag → Nat
  | null => 0
  | bool => 1
  | text | collection => 4
  | int | float => 8

mutual
inductive Spells : List UInt8 → Value → Prop
  | null : Spells [Tag.null.byte] .null
  | bool (b : UInt8) : Spells [Tag.bool.byte, b] (.bool (b.toNat ≠ 0))
  | int {word : List UInt8} (hword : word.length = 8) :
      Spells (Tag.int.byte :: word) (.int (ofSignedBytes 8 word))
  | float {word : List UInt8} (hword : word.length = 8) :
      Spells (Tag.float.byte :: word) (.float ⟨UInt64.ofNat (ofBigEndian word)⟩)
  | text {length content : List UInt8} {s : String} (hlength : length.length = 4)
      (hcontent : content.length = ofBigEndian length) (htext : textOfBytes? content = some s) :
      Spells (Tag.text.byte :: (length ++ content)) (.text s)
  | collection {count content : List UInt8} {items : List Value} (hcount : count.length = 4)
      (hitems : SpellsAll content items) (hlength : items.length = ofBigEndian count) :
      Spells (Tag.collection.byte :: (count ++ content)) (.tuple items)

/-- Bytes that spell values one after the other. -/
inductive SpellsAll : List UInt8 → List Value → Prop
  | nil : SpellsAll [] []
  | cons {front back : List UInt8} {v : Value} {vs : List Value} (hv : Spells front v)
      (hvs : SpellsAll back vs) : SpellsAll (front ++ back) (v :: vs)
end

/-- Bytes that do not begin with a value, and why. A collection goes wrong at its first item that
does. -/
inductive Stops : List UInt8 → StreamError → Prop
  | empty : Stops [] .endOfStream
  | tag {b : UInt8} {rest : List UInt8} (h : Tag.ofByte? b = none) :
      Stops (b :: rest) (.unknownTag b.toNat)
  | payload {tag : Tag} {part : List UInt8} (h : part.length < tag.width) :
      Stops (tag.byte :: part) .endOfStream
  | text {length part : List UInt8} (hlength : length.length = 4)
      (hpart : part.length < ofBigEndian length) :
      Stops (Tag.text.byte :: (length ++ part)) .endOfStream
  | badText {length content rest : List UInt8} (hlength : length.length = 4)
      (hcontent : content.length = ofBigEndian length) (htext : textOfBytes? content = none) :
      Stops (Tag.text.byte :: (length ++ (content ++ rest))) .badText
  | item {count content rest : List UInt8} {items : List Value} {e : StreamError}
      (hcount : count.length = 4) (hitems : SpellsAll content items)
      (hlength : items.length < ofBigEndian count) (hrest : Stops rest e) :
      Stops (Tag.collection.byte :: (count ++ (content ++ rest))) e

/-! ## Taking from the front -/

theorem takeBytes_append {chunk : List UInt8} {count : Nat} (h : chunk.length = count)
    (rest : List UInt8) : takeBytes count (chunk ++ rest) = (.ok chunk, rest) := by
  subst h
  simp [takeBytes]

theorem takeBytes_of_lt {count : Nat} {bytes : List UInt8} (h : bytes.length < count) :
    takeBytes count bytes = (.error .endOfStream, []) := by
  simp only [takeBytes, List.length_take]
  rw [if_neg (by omega)]

/-- A single byte is the number it stands for. -/
@[simp]
theorem takeNat_one (b : UInt8) (rest : List UInt8) :
    takeNat 1 (b :: rest) = (.ok b.toNat, rest) := by
  have h : takeBytes 1 (b :: rest) = (.ok [b], rest) :=
    takeBytes_append (List.length_singleton (a := b)) rest
  simp only [takeNat, h]
  simp [ofBigEndian]

/-- Bytes of the right number are the natural number that they stand for. -/
theorem takeNat_word {width : Nat} {word : List UInt8} (h : word.length = width)
    (rest : List UInt8) : takeNat width (word ++ rest) = (.ok (ofBigEndian word), rest) := by
  simp only [takeNat, takeBytes_append h]

theorem takeInt_word {width : Nat} {word : List UInt8} (h : word.length = width)
    (rest : List UInt8) :
    takeInt width (word ++ rest) = (.ok (ofSignedBytes width word), rest) := by
  simp only [takeInt, takeBytes_append h]

theorem takeNat_of_lt {width : Nat} {bytes : List UInt8} (h : bytes.length < width) :
    takeNat width bytes = (.error .endOfStream, []) := by
  simp only [takeNat, takeBytes_of_lt h]

theorem takeInt_of_lt {width : Nat} {bytes : List UInt8} (h : bytes.length < width) :
    takeInt width bytes = (.error .endOfStream, []) := by
  simp only [takeInt, takeBytes_of_lt h]

/-! ## Values that are spelled -/

theorem Tag.byte_of_ofByte? {b : UInt8} {tag : Tag} (h : Tag.ofByte? b = some tag) :
    b = tag.byte := by
  unfold Tag.ofByte? at h
  have hbyte := List.find?_some h
  exact (beq_iff_eq.mp hbyte).symm

theorem Spells.length_pos {bytes : List UInt8} {v : Value} (h : Spells bytes v) :
    0 < bytes.length := by
  cases h <;> simp

theorem SpellsAll.length_le {bytes : List UInt8} {vs : List Value} (h : SpellsAll bytes vs) :
    vs.length ≤ bytes.length := by
  induction vs generalizing bytes with
  | nil => exact Nat.zero_le _
  | cons v vs ih =>
    cases h with
    | cons hv hvs =>
      have hpos := hv.length_pos
      have hle := ih hvs
      simp only [List.length_append, List.length_cons]
      omega

mutual
theorem takeValue_of_spells {front : List UInt8} {v : Value} (h : Spells front v)
    (rest : List UInt8) {fuel : Nat} (hfuel : 2 * front.length ≤ fuel + 1) :
    takeValue fuel (front ++ rest) = (.ok v, rest) := by
  obtain _ | fuel := fuel
  · have := h.length_pos
    omega
  match h with
  | .null => simp [takeValue]
  | .bool b => simp [takeValue]
  | .int hword => simp [takeValue, takeInt_word hword]
  | .float hword => simp [takeValue, takeNat_word hword]
  | .text hlength hcontent htext =>
    simp [takeValue, takeText, takeNat_word hlength, takeBytes_append hcontent, htext]
  | .collection hcount hitems hlength =>
    simp only [List.length_cons, List.length_append] at hfuel
    have htaken := takeValues_of_spellsAll hitems 0 rest (by omega : _ ≤ fuel)
    rw [Nat.add_zero, hlength, takeValues] at htaken
    simp [takeValue, takeNat_word hcount, htaken, Except.map]

/-- Spelled values are taken one after the other, and then whatever more is asked for. -/
theorem takeValues_of_spellsAll {content : List UInt8} {items : List Value}
    (h : SpellsAll content items) (more : Nat) (rest : List UInt8) {fuel : Nat}
    (hfuel : 2 * content.length ≤ fuel) :
    takeValues fuel (items.length + more) (content ++ rest) =
      ((takeValues (fuel - items.length) more rest).1.map (items ++ ·),
        (takeValues (fuel - items.length) more rest).2) := by
  match h with
  | .nil =>
    rcases htaken : takeValues fuel more rest with ⟨e | vs, rest'⟩ <;>
      simp [htaken, Except.map]
  | @SpellsAll.cons front back v vs hv hvs =>
    have hpos := hv.length_pos
    rw [List.length_append] at hfuel
    obtain ⟨fuel, rfl⟩ : ∃ n, fuel = n + 1 := ⟨fuel - 1, by omega⟩
    have hfirst := takeValue_of_spells hv (back ++ rest) (by omega : _ ≤ fuel + 1)
    have hothers := takeValues_of_spellsAll hvs more rest (by omega : _ ≤ fuel)
    rw [List.length_cons, Nat.add_right_comm, List.append_assoc, takeValues, hfirst,
      Nat.add_sub_add_right]
    simp only [hothers]
    rcases takeValues (fuel - vs.length) more rest with ⟨e | ws, rest'⟩ <;> simp [Except.map]
end

mutual
theorem Spells.isHashable {bytes : List UInt8} {v : Value} (h : Spells bytes v) :
    v.isHashable = true := by
  match h with
  | .null | .bool _ | .int _ | .float _ | .text _ _ _ => rfl
  | .collection _ hitems _ =>
    rw [Value.isHashable]
    exact hitems.allHashable

theorem SpellsAll.allHashable {bytes : List UInt8} {vs : List Value} (h : SpellsAll bytes vs) :
    Value.allHashable vs = true := by
  match h with
  | .nil => rfl
  | .cons hv hvs => rw [Value.allHashable, hv.isHashable, hvs.allHashable, Bool.and_self]
end

/-- Bytes that do not begin with a value are refused for that reason. -/
theorem takeValue_of_stops {bytes : List UInt8} {e : StreamError} (h : Stops bytes e) {fuel : Nat}
    (hfuel : 2 * bytes.length < fuel) : (takeValue fuel bytes).1 = .error e := by
  induction h generalizing fuel with
  | empty =>
    obtain ⟨fuel, rfl⟩ : ∃ n, fuel = n + 1 := ⟨fuel - 1, by omega⟩
    simp [takeValue, takeNat_of_lt]
  | tag h =>
    obtain ⟨fuel, rfl⟩ : ∃ n, fuel = n + 1 := ⟨fuel - 1, by omega⟩
    simp [takeValue, h]
  | @payload tag part h =>
    obtain ⟨fuel, rfl⟩ : ∃ n, fuel = n + 1 := ⟨fuel - 1, by omega⟩
    cases tag with
    | null => exact absurd h (Nat.not_lt_zero _)
    | bool | float | collection =>
      rw [Tag.width] at h
      simp [takeValue, takeNat_of_lt h]
    | int =>
      rw [Tag.width] at h
      simp [takeValue, takeInt_of_lt h]
    | text =>
      rw [Tag.width] at h
      simp [takeValue, takeText, takeNat_of_lt h]
  | text hlength hpart =>
    obtain ⟨fuel, rfl⟩ : ∃ n, fuel = n + 1 := ⟨fuel - 1, by omega⟩
    simp [takeValue, takeText, takeNat_word hlength, takeBytes_of_lt hpart]
  | badText hlength hcontent htext =>
    obtain ⟨fuel, rfl⟩ : ∃ n, fuel = n + 1 := ⟨fuel - 1, by omega⟩
    simp [takeValue, takeText, takeNat_word hlength, takeBytes_append hcontent, htext]
  | @item count content rest items e hcount hitems hlength hrest ih =>
    -- The items before the bad one use up fuel, but each of them has a byte of its own.
    have hle := hitems.length_le
    simp only [List.length_cons, List.length_append] at hfuel
    obtain ⟨fuel, rfl⟩ : ∃ n, fuel = n + 1 := ⟨fuel - 1, by omega⟩
    obtain ⟨more, hmore⟩ : ∃ n, ofBigEndian count = items.length + (n + 1) :=
      ⟨ofBigEndian count - items.length - 1, by omega⟩
    obtain ⟨left, hleft⟩ : ∃ n, fuel - items.length = n + 1 := ⟨fuel - items.length - 1, by omega⟩
    have htaken := takeValues_of_spellsAll hitems (more + 1) rest (by omega : _ ≤ fuel)
    have hbad := ih (by omega : _ < left)
    rcases hvalue : takeValue left rest with ⟨result, rest'⟩
    rw [hvalue] at hbad
    obtain rfl : result = .error e := hbad
    rw [hleft, takeValues, hvalue] at htaken
    simp [takeValue, takeNat_word hcount, hmore, htaken, Except.map]

theorem Reader.value_of_spells {r : Reader} {front rest : List UInt8} {v : Value}
    (h : Spells front v) (hbytes : r.bytes = front ++ rest) :
    r.value = (.ok v, { r with bytes := rest }) := by
  have hfuel : 2 * front.length ≤ 2 * r.bytes.length + 2 + 1 := by
    rw [hbytes, List.length_append]
    omega
  have htaken := takeValue_of_spells h rest hfuel
  rw [← hbytes] at htaken
  simp only [value, htaken]

theorem Reader.value_of_stops {r : Reader} {e : StreamError} (h : Stops r.bytes e) :
    ∃ r', r.value = (.error e, r') := by
  have hbad := takeValue_of_stops h (by omega : _ < 2 * r.bytes.length + 2)
  rcases htaken : takeValue (2 * r.bytes.length + 2) r.bytes with ⟨result, rest⟩
  rw [htaken] at hbad
  obtain rfl : result = .error e := hbad
  exact ⟨{ r with bytes := rest }, by simp only [value, htaken]⟩

/-! ## Every list of bytes -/

/-- Bytes begin with a value, or there is a reason why they do not. -/
def Settled (bytes : List UInt8) : Prop :=
  (∃ front v rest, bytes = front ++ rest ∧ Spells front v) ∨ ∃ e, Stops bytes e

theorem exists_append_of_le {n : Nat} {bytes : List UInt8} (h : n ≤ bytes.length) :
    ∃ word rest, bytes = word ++ rest ∧ word.length = n :=
  ⟨bytes.take n, bytes.drop n, (List.take_append_drop n bytes).symm, List.length_take_of_le h⟩

/-- Bytes begin with as many values as are wanted, or with fewer, behind which no value begins. -/
theorem items_or_stops (n : Nat) {bytes : List UInt8}
    (h : ∀ rest : List UInt8, rest.length ≤ bytes.length → Settled rest) :
    (∃ content items rest, bytes = content ++ rest ∧ SpellsAll content items ∧ items.length = n) ∨
    ∃ content items rest e, bytes = content ++ rest ∧ SpellsAll content items ∧ items.length < n ∧
      Stops rest e := by
  induction n generalizing bytes with
  | zero => exact .inl ⟨[], [], bytes, rfl, .nil, rfl⟩
  | succ n ih =>
    obtain ⟨front, v, rest, rfl, hv⟩ | ⟨e, he⟩ := h bytes (Nat.le_refl _)
    · have hrest : ∀ rest' : List UInt8, rest'.length ≤ rest.length → Settled rest' := by
        intro rest' hle
        refine h rest' ?_
        rw [List.length_append]
        omega
      obtain ⟨content, items, rest, rfl, hitems, hlength⟩ |
        ⟨content, items, rest, e, rfl, hitems, hlength, he⟩ := ih hrest
      · refine .inl ⟨front ++ content, v :: items, rest, (List.append_assoc _ _ _).symm,
          .cons hv hitems, ?_⟩
        rw [List.length_cons, hlength]
      · refine .inr ⟨front ++ content, v :: items, rest, e, (List.append_assoc _ _ _).symm,
          .cons hv hitems, ?_, he⟩
        rw [List.length_cons]
        omega
    · exact .inr ⟨[], [], bytes, e, rfl, .nil, Nat.succ_pos n, he⟩

/-- What stands behind a known tag is a payload or goes wrong. -/
theorem settled_tag (tag : Tag) {rest : List UInt8}
    (h : ∀ rest' : List UInt8, rest'.length ≤ rest.length → Settled rest') :
    Settled (tag.byte :: rest) := by
  by_cases hshort : rest.length < tag.width
  · exact .inr ⟨_, .payload hshort⟩
  obtain ⟨word, rest, rfl, hword⟩ := exists_append_of_le (Nat.le_of_not_lt hshort)
  -- Tags without a length are done with their payload; texts and collections have a length first,
  -- so less is left for what is inside them.
  cases tag with
  | null => exact .inl ⟨_, _, word ++ rest, rfl, .null⟩
  | bool =>
    obtain ⟨b, rfl⟩ := List.length_eq_one_iff.mp hword
    exact .inl ⟨_, _, rest, rfl, .bool b⟩
  | int => exact .inl ⟨_, _, rest, rfl, .int hword⟩
  | float => exact .inl ⟨_, _, rest, rfl, .float hword⟩
  | text =>
    by_cases hpart : rest.length < ofBigEndian word
    · exact .inr ⟨_, .text hword hpart⟩
    obtain ⟨content, rest, rfl, hcontent⟩ := exists_append_of_le (Nat.le_of_not_lt hpart)
    cases htext : textOfBytes? content with
    | none => exact .inr ⟨_, .badText hword hcontent htext⟩
    | some s =>
      refine .inl ⟨_, _, rest, ?_, .text hword hcontent htext⟩
      rw [List.cons_append, List.append_assoc]
  | collection =>
    have hrest : ∀ rest' : List UInt8, rest'.length ≤ rest.length → Settled rest' := by
      intro rest' hle
      refine h rest' ?_
      rw [List.length_append]
      omega
    obtain ⟨content, items, rest, rfl, hitems, hlength⟩ |
      ⟨content, items, rest, e, rfl, hitems, hlength, he⟩ :=
      items_or_stops (ofBigEndian word) hrest
    · refine .inl ⟨_, _, rest, ?_, .collection hword hitems hlength⟩
      rw [List.cons_append, List.append_assoc]
    · exact .inr ⟨e, .item hword hitems hlength he⟩

theorem settled (bytes : List UInt8) : Settled bytes := by
  match bytes with
  | [] => exact .inr ⟨_, .empty⟩
  | b :: rest =>
    have hrest : ∀ rest' : List UInt8, rest'.length ≤ rest.length → Settled rest' := fun rest' _ =>
      settled rest'
    cases htag : Tag.ofByte? b with
    | none => exact .inr ⟨_, .tag htag⟩
    | some tag =>
      obtain rfl := Tag.byte_of_ofByte? htag
      exact settled_tag tag hrest
termination_by bytes.length
decreasing_by exact Nat.lt_succ_of_le ‹_›

/-! ## Cut values -/

mutual
/-- A value that is cut short does not stand in front any more, since the bytes end. -/
theorem stops_take {bytes : List UInt8} {v : Value} (h : Spells bytes v) {n : Nat}
    (hn : n < bytes.length) : Stops (bytes.take n) .endOfStream := by
  obtain _ | n := n
  · exact .empty
  match h with
  | .null => simp at hn
  | .bool b =>
    simp only [List.length_cons, List.length_nil] at hn
    obtain rfl : n = 0 := by omega
    exact .payload Nat.zero_lt_one
  | .int hword | .float hword =>
    rw [List.length_cons] at hn
    refine .payload ?_
    rw [List.length_take, Tag.width]
    omega
  | @Spells.text length content _ hlength hcontent htext =>
    rw [List.length_cons, List.length_append] at hn
    by_cases hshort : n < 4
    · refine .payload ?_
      rw [List.length_take, Tag.width]
      omega
    · rw [List.take_succ_cons, List.take_append, List.take_of_length_le (by omega)]
      refine .text hlength ?_
      rw [List.length_take]
      omega
  | @Spells.collection count content items hcount hitems hlength =>
    rw [List.length_cons, List.length_append] at hn
    by_cases hshort : n < 4
    · refine .payload ?_
      rw [List.length_take, Tag.width]
      omega
    · obtain ⟨content', items', rest, hcut, hitems', hfewer, hrest⟩ :=
        stops_take_items hitems (by omega : n - count.length < _)
      rw [List.take_succ_cons, List.take_append, List.take_of_length_le (by omega), hcut]
      exact .item hcount hitems' (by omega) hrest

/-- Values that are cut short break off at one of them. -/
theorem stops_take_items {content : List UInt8} {items : List Value} (h : SpellsAll content items)
    {n : Nat} (hn : n < content.length) :
    ∃ content' items' rest, content.take n = content' ++ rest ∧ SpellsAll content' items' ∧
      items'.length < items.length ∧ Stops rest .endOfStream := by
  match h with
  | .nil => exact absurd hn (Nat.not_lt_zero n)
  | @SpellsAll.cons front back v vs hv hvs =>
    rw [List.length_append] at hn
    by_cases hfirst : n < front.length
    · refine ⟨[], [], front.take n, ?_, .nil, Nat.succ_pos _, stops_take hv hfirst⟩
      rw [List.take_append_of_le_length (Nat.le_of_lt hfirst), List.nil_append]
    · obtain ⟨content', items', rest, hcut, hitems', hfewer, hrest⟩ :=
        stops_take_items hvs (by omega : n - front.length < _)
      refine ⟨front ++ content', v :: items', rest, ?_, .cons hv hitems', Nat.succ_lt_succ hfewer,
        hrest⟩
      rw [List.take_append, List.take_of_length_le (by omega), hcut, List.append_assoc]
end

end RetentionPlan.FieldStream
