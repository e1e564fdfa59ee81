import RetentionPlan.Proofs.FieldStream.Sets
import RetentionPlan.Proofs.FieldStream.Streams

/-!
# Decoding any bytes

What decoding comes to for every list of bytes, told by the grammar of streams alone. Decoding ends,
and what it ends with depends on nothing behind the end mark; cut anywhere before that, the stream
is refused.
-/
namespace RetentionPlan.FieldStream

/-- The members that a value read as a collection stands for. -/
def Value.collected? : Value → Option (List Value)
  | null => some []
  | tuple items => some (insertAll [] items)
  | _ => none

/-- The set that fields hold: the collection at index 0, or no members where there is no such
field. -/
def setOf? (es : List Entry) : Option (List Value) :=
  match valueAt es 0 with
  | none => some []
  | some v => v.collected?

/-- What decoding comes to: a stream that is ended holds a set unless its field 0 is no collection,
and a stream that breaks off is refused for the same reason or for that of the break. -/
inductive Decodes : List UInt8 → Except StreamError (List Value) → Prop
  | set {front mark : List UInt8} {es : List Entry} {members : List Value} (hes : Holds front es)
      (hset : setOf? es = some members) (hmark : Marks mark (-1)) (rest : List UInt8) :
      Decodes (front ++ (mark ++ rest)) (.ok members)
  | notCollection {front tail : List UInt8} {es : List Entry} (hes : Holds front es)
      (hset : setOf? es = none) (htail : Ends tail) :
      Decodes (front ++ tail) (.error (.notCollection 0))
  | breaks {front tail : List UInt8} {es : List Entry} {members : List Value} {e : StreamError}
      (hes : Holds front es) (hset : setOf? es = some members) (hbreaks : Breaks tail e) :
      Decodes (front ++ tail) (.error e)

section Decoding
variable {front mark tail rest bytes : List UInt8} {es : List Entry} {members : List Value}
  {e : StreamError}

namespace Reader

theorem readCollection_of_field? {r r' : Reader}
    (h : r.field? 0 = (.ok (valueAt es 0), r')) :
    r.readCollection 0 [] =
      ((setOf? es).elim (.error (.notCollection 0)) .ok, r') := by
  rw [readCollection, h, setOf?]
  cases valueAt es 0 with
  | none => rfl
  | some v => cases v <;> rfl

/-- A stream that is ended gives its set and is read up to the end mark. -/
theorem deserialize_of_mark (hes : Holds front es) (hset : setOf? es = some members)
    (hmark : Marks mark (-1)) (rest : List UInt8) :
    deserialize { bytes := front ++ (mark ++ rest) } =
      (.ok members, { bytes := rest, pending := none, last := 0 }) := by
  have hstart : Unread { bytes := front ++ (mark ++ rest) } (front ++ (mark ++ rest)) :=
    .before rfl rfl
  obtain ⟨front', es', r', hfield, hlast, hes', hr', -⟩ | ⟨_, _, hbreaks, -⟩ :=
    field?_of_ends hes (.mark hmark rest) hstart (by decide : (-1 : Int) < 0) (Int.le_refl 0)
  · have hread := readCollection_of_field? hfield
    rw [hset, Option.elim_some] at hread
    simp only [deserialize, hread, finish_of_mark hes' hmark hr', hlast]
  · exact absurd hbreaks (not_breaks_of_mark hmark)

/-- Without a collection at index 0 a stream is refused, whatever else is wrong with it. -/
theorem deserialize_of_notCollection (hes : Holds front es) (hset : setOf? es = none)
    (htail : Ends tail) :
    (deserialize { bytes := front ++ tail }).1 = .error (.notCollection 0) := by
  have hstart : Unread { bytes := front ++ tail } (front ++ tail) := .before rfl rfl
  obtain ⟨_, _, r', hfield, -⟩ | ⟨_, _, -, hnone, -⟩ :=
    field?_of_ends hes htail hstart (by decide : (-1 : Int) < 0) (Int.le_refl 0)
  · have hread := readCollection_of_field? hfield
    rw [hset, Option.elim_none] at hread
    simp only [deserialize, hread]
  · rw [setOf?, hnone] at hset
    exact absurd hset (Option.some_ne_none _)

/-- A stream that breaks off is refused for that reason, be it on the way to field 0 or behind
it. -/
theorem deserialize_of_breaks (hes : Holds front es) (hset : setOf? es = some members)
    (hbreaks : Breaks tail e) : (deserialize { bytes := front ++ tail }).1 = .error e := by
  have hstart : Unread { bytes := front ++ tail } (front ++ tail) := .before rfl rfl
  obtain ⟨_, _, r', hfield, -, hes', hr', -⟩ | ⟨e', r', hbreaks', -, hfield⟩ :=
    field?_of_ends hes (.breaks hbreaks) hstart (by decide : (-1 : Int) < 0) (Int.le_refl 0)
  · have hread := readCollection_of_field? hfield
    rw [hset, Option.elim_some] at hread
    obtain ⟨r'', hfinish⟩ := finish_of_breaks hes' hbreaks hr'
    simp only [deserialize, hread, hfinish]
  · rw [hbreaks.unique hbreaks']
    simp only [deserialize, readCollection, hfield]

end Reader

/-! ## What decoding comes to -/

theorem decode_of_decodes {result : Except StreamError (List Value)} (h : Decodes bytes result) :
    decode bytes = result := by
  cases h with
  | set hes hset hmark rest => rw [decode, Reader.deserialize_of_mark hes hset hmark]
  | notCollection hes hset htail => exact Reader.deserialize_of_notCollection hes hset htail
  | breaks hes hset hbreaks => exact Reader.deserialize_of_breaks hes hset hbreaks

theorem exists_decodes (bytes : List UInt8) : ∃ result, Decodes bytes result := by
  obtain ⟨front, es, tail, rfl, hes, htail⟩ := exists_holds_ends bytes
  cases hset : setOf? es with
  | none => exact ⟨_, .notCollection hes hset htail⟩
  | some members =>
    cases htail with
    | mark hmark rest => exact ⟨_, .set hes hset hmark rest⟩
    | breaks hbreaks => exact ⟨_, .breaks hes hset hbreaks⟩

theorem decode_eq_iff {result : Except StreamError (List Value)} :
    decode bytes = result ↔ Decodes bytes result := by
  refine ⟨fun h => ?_, decode_of_decodes⟩
  obtain ⟨result', hresult'⟩ := exists_decodes bytes
  rwa [← h, decode_of_decodes hresult']

/-- The failures of values are those of the format, and texts whose bytes are none. -/
theorem Stops.isSome_message? (h : Stops bytes e) : e.message?.isSome = true ∨ e = .badText := by
  induction h with
  | empty | tag | payload | text => exact .inl rfl
  | badText => exact .inr rfl
  | item _ _ _ _ ih => exact ih

theorem Breaks.isSome_message? (h : Breaks tail e) : e.message?.isSome = true ∨ e = .badText := by
  cases h with
  | short => exact .inl rfl
  | field _ _ hrest => exact hrest.isSome_message?

/-- The values that stand in a stream may be members of sets. -/
theorem Holds.isHashable (h : Holds front es) : ∀ x ∈ es, x.value.isHashable = true := by
  induction h with
  | nil => simp
  | cons _ _ hbody _ ih => exact List.forall_mem_cons.mpr ⟨hbody.isHashable, ih⟩

/-- What is read as a set is collected from values that may be members of sets. -/
theorem exists_items_of_setOf? (hes : Holds front es) (hset : setOf? es = some members) :
    ∃ items, members = Value.insertAll [] items ∧ ∀ v ∈ items, v.isHashable = true := by
  unfold setOf? at hset
  cases hvalue : valueAt es 0 with
  | none =>
    rw [hvalue] at hset
    exact ⟨[], (Option.some.inj hset).symm, by simp⟩
  | some v =>
    rw [hvalue] at hset
    obtain ⟨x, hx, -, rfl⟩ := exists_mem_of_valueAt hvalue
    have hhashable := hes.isHashable x hx
    cases hv : x.value with
    | null =>
      rw [hv] at hset
      exact ⟨[], (Option.some.inj hset).symm, by simp⟩
    | tuple items =>
      rw [hv] at hset hhashable
      exact ⟨items, (Option.some.inj hset).symm, Value.isHashable_tuple.mp hhashable⟩
    | _ =>
      rw [hv] at hset
      simp [Value.collected?] at hset

/-- Decoding ends on any bytes, with what the grammar of streams says: the members of a set, a
failure of the format, or the failure of a text whose bytes are none. The last comes up exactly
where whole fields, with a collection at index 0 or no such field, are followed by a field that
breaks off at such a text. -/
theorem decode_outcome (bytes : List UInt8) :
    ((∃ members, decode bytes = .ok members ∧ (∀ v ∈ members, v.isHashable = true) ∧
        members.Pairwise fun a b => Value.same b a = false) ∨
      (∃ e, decode bytes = .error e ∧ e.message?.isSome = true) ∨
      decode bytes = .error .badText) ∧
    (decode bytes = .error .badText ↔ ∃ front es tail, bytes = front ++ tail ∧ Holds front es ∧
      (setOf? es).isSome = true ∧ Breaks tail .badText) ∧
    ∀ result, decode bytes = result ↔ Decodes bytes result := by
  refine ⟨?_, ⟨fun h => ?_, ?_⟩, fun result => decode_eq_iff⟩
  · obtain ⟨result, hresult⟩ := exists_decodes bytes
    have hdecode := decode_of_decodes hresult
    cases hresult with
    | set hes hset hmark rest =>
      obtain ⟨items, rfl, hitems⟩ := exists_items_of_setOf? hes hset
      refine .inl ⟨_, hdecode, fun v hv => ?_, Value.apart_insertAll List.Pairwise.nil⟩
      exact hitems v (Value.insertAll_subset [] items hv)
    | notCollection hes hset htail => exact .inr (.inl ⟨_, hdecode, rfl⟩)
    | breaks hes hset hbreaks =>
      obtain hknown | rfl := hbreaks.isSome_message?
      · exact .inr (.inl ⟨_, hdecode, hknown⟩)
      · exact .inr (.inr hdecode)
  · cases decode_eq_iff.mp h with
    | breaks hes hset hbreaks =>
      exact ⟨_, _, _, rfl, hes, by rw [hset, Option.isSome_some], hbreaks⟩
  · rintro ⟨front, es, tail, rfl, hes, hset, hbreaks⟩
    obtain ⟨members, hset⟩ := Option.isSome_iff_exists.mp hset
    exact decode_of_decodes (.breaks hes hset hbreaks)

/-- A set with a text of one byte that begins no character is refused, and not for a failure of the
format. -/
theorem decode_outcome_badText :
    decode [0, 0, 0, 0, 3, 0, 0, 0, 1, 1, 0, 0, 0, 1, 0xFF, 0xFF, 0xFF, 0xFF, 0xFF] =
      .error .badText ∧ StreamError.badText.message? = none := by
  have hbad : Stops [1, 0, 0, 0, 1, 0xFF, 0xFF, 0xFF, 0xFF, 0xFF] .badText :=
    @Stops.badText [0, 0, 0, 1] [0xFF] _ rfl rfl (by decide +kernel)
  have hitem : Stops [3, 0, 0, 0, 1, 1, 0, 0, 0, 1, 0xFF, 0xFF, 0xFF, 0xFF, 0xFF] .badText :=
    @Stops.item [0, 0, 0, 1] [] _ [] _ rfl .nil Nat.zero_lt_one hbad
  have hbreaks : Breaks [0, 0, 0, 0, 3, 0, 0, 0, 1, 1, 0, 0, 0, 1, 0xFF, 0xFF, 0xFF, 0xFF, 0xFF]
      .badText :=
    @Breaks.field [0, 0, 0, 0] _ 0 _ ⟨rfl, rfl⟩ (by decide) hitem
  exact ⟨(decode_outcome _).2.1.mpr ⟨[], [], _, rfl, .nil, rfl, hbreaks⟩, rfl⟩

/-! ## Cut streams -/

/-- The fields before a break hold a set if all the fields do. -/
theorem exists_setOf?_of_append {es' : List Entry} (hset : setOf? (es ++ es') = some members) :
    ∃ members', setOf? es = some members' := by
  have hfind : (es ++ es').find? (0 ≤ ·.index) =
      (es.find? (0 ≤ ·.index)).or (es'.find? (0 ≤ ·.index)) :=
    List.find?_append
  unfold setOf? valueAt at hset ⊢
  rw [hfind] at hset
  cases hfirst : es.find? (0 ≤ ·.index) with
  | none => exact ⟨[], rfl⟩
  | some x =>
    rw [hfirst, Option.some_or] at hset
    exact ⟨members, hset⟩

/-- A stream that is cut anywhere before the end of its end mark breaks off behind some of its
fields, since the bytes end. -/
theorem exists_breaks_take (hes : Holds front es) (hmark : Marks mark (-1)) {n : Nat}
    (hn : n < (front ++ mark).length) :
    ∃ front' before after tail, (front ++ mark).take n = front' ++ tail ∧ es = before ++ after ∧
      Holds front' before ∧ Breaks tail .endOfStream := by
  induction hes generalizing n with
  | nil =>
    have hlength := hmark.length
    rw [List.nil_append] at hn ⊢
    refine ⟨[], [], [], mark.take n, rfl, rfl, .nil, .short ?_⟩
    rw [List.length_take]
    omega
  | @cons head body back x es hhead hindex hbody hback ih =>
    have hlength := hhead.length
    simp only [List.append_assoc, List.length_append] at hn ih ⊢
    by_cases hshort : n < 4
    · refine ⟨[], [], x :: es, _, rfl, rfl, .nil, .short ?_⟩
      rw [List.length_take]
      omega
    rw [List.take_append, List.take_of_length_le (by omega)]
    by_cases hvalue : n - head.length < body.length
    · refine ⟨[], [], x :: es, _, rfl, rfl, .nil, .field hhead hindex ?_⟩
      rw [List.take_append_of_le_length (Nat.le_of_lt hvalue)]
      exact stops_take hbody hvalue
    · obtain ⟨front', before, after, tail, hcut, rfl, hbefore, hbreaks⟩ :=
        ih (by omega : n - head.length - body.length < _)
      refine ⟨head ++ (body ++ front'), x :: before, after, tail, ?_, rfl,
        .cons hhead hindex hbody hbefore, hbreaks⟩
      rw [List.take_append, List.take_of_length_le (by omega), hcut]
      simp only [List.append_assoc]

/-- Decoding is self-delimiting. If it succeeds, it has read the bytes up to some place; whatever is
put behind that place, the same set is read and the reading stops at the same place, and a stream
that is cut anywhere before it is refused because the bytes end. -/
theorem deserialize_selfDelimiting {r : Reader}
    (h : Reader.deserialize { bytes } = (.ok members, r)) :
    ∃ n ≤ bytes.length, r.bytes = bytes.drop n ∧
      (∀ rest, ∃ r', Reader.deserialize { bytes := bytes.take n ++ rest } = (.ok members, r') ∧
        r'.bytes = rest) ∧
      ∀ m < n, decode (bytes.take m) = .error .endOfStream := by
  have hdecode : decode bytes = .ok members := congrArg Prod.fst h
  cases decode_eq_iff.mp hdecode with
  | @set front mark es _ hes hset hmark rest =>
    obtain rfl : ({ bytes := rest, pending := none, last := 0 } : Reader) = r := by
      rw [Reader.deserialize_of_mark hes hset hmark] at h
      exact (Prod.mk.inj h).2
    have hread : (front ++ (mark ++ rest)).take (front ++ mark).length = front ++ mark := by
      rw [← List.append_assoc, List.take_left]
    refine ⟨(front ++ mark).length, by simp, ?_, fun rest' => ?_, fun m hm => ?_⟩
    · rw [← List.append_assoc, List.drop_left]
    · rw [hread, List.append_assoc]
      exact ⟨_, Reader.deserialize_of_mark hes hset hmark rest', rfl⟩
    · have hcut : (front ++ (mark ++ rest)).take m = (front ++ mark).take m := by
        rw [← List.append_assoc, List.take_append_of_le_length (Nat.le_of_lt hm)]
      obtain ⟨front', before, after, tail, htake, rfl, hbefore, hbreaks⟩ :=
        exists_breaks_take hes hmark hm
      obtain ⟨members', hset'⟩ := exists_setOf?_of_append hset
      rw [hcut, htake]
      exact decode_of_decodes (.breaks hbefore hset' hbreaks)

end Decoding

/-- A set with an integer and a truth value, before a field 7 that is skipped, with two bytes behind
the end mark. -/
theorem deserialize_selfDelimiting_skipped :
    let bytes : List UInt8 :=
      [0, 0, 0, 0, 3, 0, 0, 0, 2, 2, 0, 0, 0, 0, 0, 0, 0, 5, 4, 1, 0, 0, 0, 7, 0,
      0xFF, 0xFF, 0xFF, 0xFF, 0x6A, 0x75]
    ∃ n ≤ bytes.length, [0x6A, 0x75] = bytes.drop n ∧
      (∀ rest, ∃ r', Reader.deserialize { bytes := bytes.take n ++ rest } =
        (.ok [.int 5, .bool true], r') ∧ r'.bytes = rest) ∧
      ∀ m < n, decode (bytes.take m) = .error .endOfStream := by
  intro bytes
  have h : Reader.deserialize { bytes } = (.ok [.int 5, .bool true], ⟨[0x6A, 0x75], none, 0⟩) := rfl
  exact deserialize_selfDelimiting h

end RetentionPlan.FieldStream
