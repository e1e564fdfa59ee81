import RetentionPlan.Proofs.FieldStream.Streams

/-!
# Histories of a writer

Calls of a writer's methods, some of which fail. A call that the writer refuses outright leaves it
as it was. A call that fails later has used up its index, and unless the index does not fit its four
bytes, the index and a part of the value stay in the stream. A stream that is ended reads back as
the fields of the calls that succeeded exactly if no call has left such a part behind.
-/
namespace RetentionPlan.FieldStream

/-! ## Calls -/

/-- A call of one of a writer's methods. -/
inductive Call where
  | text (index : Int) (v : Value)
  | int (index : Int) (v : Value)
  | collection (index : Int) (v : Value)
  | remainder (v : Value)
  deriving Repr

namespace Call

/-- The field that a call is to write: its index, and its value or why there is none. -/
def field? : Call → Option (Int × Except StreamError Value)
  | text index v => some (index, .ok v)
  | int index v => some (index, v.toInt.map .int)
  | collection index v => some (index, v.toItems.map .list)
  | remainder _ => none

def index? (c : Call) : Option Int := c.field?.map (·.1)

def Misfits (c : Call) : Prop := ∃ index, c.index? = some index ∧ signedBytes? 4 index = none

/-- A call whose field, if it has one, can be written as a whole. -/
def Fits (c : Call) : Prop :=
  ∀ index content, c.field? = some (index, content) →
    (signedBytes? 4 index).isSome = true ∧ ∃ v, content = .ok v ∧ (written v).failure = none

/-- The field of a call as it is read, if it has a value. -/
def entries (c : Call) : List Entry :=
  match c.field? with
  | some (index, .ok v) => [⟨index, v.frozen⟩]
  | _ => []

theorem index?_of_field? {c : Call} {index : Int} {content : Except StreamError Value}
    (h : c.field? = some (index, content)) : c.index? = some index := by
  rw [index?, h, Option.map_some]

theorem entries_of_field? {c : Call} {index : Int} {v : Value}
    (h : c.field? = some (index, .ok v)) : c.entries = [⟨index, v.frozen⟩] := by
  rw [entries, h]

end Call

namespace Writer

def call (w : Writer) : Call → Except StreamError Unit × Writer
  | .text index v => w.writeText index v
  | .int index v => w.writeInt index v
  | .collection index v => w.writeCollection index v
  | .remainder v => w.finish v

/-- Does the writer turn the call down before it does anything? The stream has ended, the index is
not greater than the last one, or the remainder is not empty. -/
def Refuses (w : Writer) : Call → Prop
  | .text index _ | .int index _ | .collection index _ => w.ended = true ∨ index ≤ w.last
  | .remainder v => w.ended = true ∨ v.isTruthy = true

def after (w : Writer) (calls : List Call) : Writer := calls.foldl (fun w c => (w.call c).2) w

/-- The field that a call adds to those that are to be read back. -/
def taken (w : Writer) (c : Call) : List Entry :=
  match (w.call c).1 with
  | .ok () => c.entries
  | .error _ => []

/-- The fields of the calls that succeed, as they are read. -/
def accepted (w : Writer) : List Call → List Entry
  | [] => []
  | c :: calls => w.taken c ++ accepted (w.call c).2 calls

/-- No call that fails puts anything into the stream. -/
def Unspoilt (w : Writer) : List Call → Prop
  | [] => True
  | c :: calls =>
    ((w.call c).1 = .ok () ∨ (w.call c).2.bytes = w.bytes) ∧ Unspoilt (w.call c).2 calls

end Writer

/-- Asks for fields one after the other until one fails. -/
def Reader.fieldsAt : List Int → Reader → Except StreamError (List (Option Value)) × Reader
  | [], r => (.ok [], r)
  | index :: indices, r =>
    match r.field? index with
    | (.error e, r) => (.error e, r)
    | (.ok v, r) =>
      match fieldsAt indices r with
      | (.error e, r) => (.error e, r)
      | (.ok vs, r) => (.ok (v :: vs), r)

def entryAt (es : List Entry) (index : Int) : Option Value :=
  (es.find? (·.index == index)).map (·.value)

/-- The bytes read back as fields: whatever growing indices are asked for, their values are those of
the fields, and skipping the rest leaves nothing. -/
def ReadsBack (bytes : List UInt8) (es : List Entry) : Prop :=
  ∀ indices : List Int, indices.Pairwise (· < ·) → (∀ index ∈ indices, 0 ≤ index) →
    ∃ r, Reader.fieldsAt indices { bytes } = (.ok (indices.map (entryAt es)), r) ∧
      r.finish = (.ok (), { bytes := [], pending := none, last := r.last })

namespace Writer
variable {w : Writer} {c : Call} {calls : List Call} {es : List Entry} {e : StreamError}
  {index : Int}
  {content : Except StreamError Value}

/-! ## One call -/

theorem call_of_field? (h : c.field? = some (index, content)) :
    w.call c = w.writeField index content ∧ (w.Refuses c ↔ w.ended = true ∨ index ≤ w.last) := by
  cases c <;> simp only [Call.field?, Option.some.injEq, Prod.mk.injEq, reduceCtorEq] at h
  all_goals
    obtain ⟨rfl, rfl⟩ := h
    exact ⟨rfl, Iff.rfl⟩

/-- A field with a greater index is not refused before the end. -/
theorem not_refuses_of_lt (h : c.field? = some (index, content)) (hended : w.ended = false)
    (hlast : w.last < index) : ¬w.Refuses c := by
  rw [(call_of_field? h).2, hended]
  simpa using hlast

inductive Steps (w : Writer) (c : Call) : Except StreamError Unit × Writer → Prop
  | refused {e : StreamError} (h : w.Refuses c) : Steps w c (.error e, w)
  | misfit {index : Int} {content : Except StreamError Value} {e : StreamError}
      (hfield : c.field? = some (index, content)) (hended : w.ended = false)
      (hlast : w.last < index)
      (hindex : signedBytes? 4 index = none) :
      Steps w c (.error e, { w with last := index })
  | broken {index : Int} {content : Except StreamError Value} {head part : List UInt8}
      {e : StreamError}
      (hfield : c.field? = some (index, content)) (hended : w.ended = false)
      (hlast : w.last < index)
      (hhead : signedBytes? 4 index = some head) (hcontent : ¬c.Fits) :
      Steps w c (.error e, { w with bytes := w.bytes ++ (head ++ part), last := index })
  | whole {index : Int} {head body : List UInt8} {v : Value}
      (hfield : c.field? = some (index, .ok v))
      (hended : w.ended = false) (hlast : w.last < index) (hhead : signedBytes? 4 index = some head)
      (hbody : written v = ⟨body, none⟩) :
      Steps w c (.ok (), { w with bytes := w.bytes ++ (head ++ body), last := index })
  | ends (hfield : c.field? = none) (hended : w.ended = false) (hrefuses : ¬w.Refuses c) :
      Steps w c (.ok (),
        { w with bytes := w.bytes ++ bigEndian 4 (Nat.pow 2 32 - 1), ended := true })

theorem steps_of_field? (h : c.field? = some (index, content)) :
    Steps w c (w.writeField index content) := by
  obtain ⟨-, hrefuses⟩ := @call_of_field? w _ _ _ h
  -- The checks of a writer, in order: the state, the index, the width of the index, the content.
  obtain ⟨bytes, last, ended, inMemory⟩ := w
  cases ended with
  | true => exact .refused (hrefuses.mpr (.inl rfl))
  | false =>
    by_cases hlast : index ≤ last
    · have hrefused : openField ⟨bytes, last, false, inMemory⟩ index =
          (.error (.indexNotGreater index last), ⟨bytes, last, false, inMemory⟩) := if_pos hlast
      rw [writeField, hrefused]
      exact .refused (hrefuses.mpr (.inr hlast))
    have hlt : last < index := Int.not_le.mp hlast
    cases hhead : signedBytes? 4 index with
    | none =>
      have hmisfit : openField ⟨bytes, last, false, inMemory⟩ index =
          (.error .outOfRange, ⟨bytes, index, false, inMemory⟩) := by
        simp [openField, hlast, hhead]
      rw [writeField, hmisfit]
      exact .misfit h rfl hlt hhead
    | some head =>
      have hopen : openField ⟨bytes, last, false, inMemory⟩ index =
          (.ok (), ⟨bytes ++ head, index, false, inMemory⟩) := by
        simp [openField, hlast, hhead, append]
      rw [writeField, hopen]
      cases content with
      | error e =>
        have hfails : ¬c.Fits := fun hfits => by
          obtain ⟨-, v, hv, -⟩ := hfits _ _ h
          nomatch hv
        have hbroken := @Steps.broken ⟨bytes, last, false, inMemory⟩ c index _ head [] e h rfl hlt
          hhead hfails
        rwa [List.append_nil] at hbroken
      | ok v =>
        simp only [append, List.append_assoc]
        cases hbody : written v with
        | mk body failure =>
          cases failure with
          | none => exact .whole h rfl hlt hhead hbody
          | some e =>
            have hfails : ¬c.Fits := fun hfits => by
              obtain ⟨-, v', hv, hwhole⟩ := hfits _ _ h
              rw [← Except.ok.inj hv, hbody] at hwhole
              nomatch hwhole
            exact .broken h rfl hlt hhead hfails

theorem steps_call (w : Writer) (c : Call) : Steps w c (w.call c) := by
  cases hfield : c.field? with
  | some field =>
    rw [(call_of_field? hfield).1]
    exact steps_of_field? hfield
  | none =>
    cases c with
    | remainder v =>
      cases hended : w.ended with
      | true =>
        have hcall : w.call (.remainder v) = (.error .endedTwice, w) := by
          simp [call, finish, hended]
        rw [hcall]
        exact .refused (.inl hended)
      | false =>
        cases htruthy : v.isTruthy with
        | true =>
          have hcall : w.call (.remainder v) = (.error .foreignRemainder, w) := by
            simp [call, finish, hended, htruthy]
          rw [hcall]
          exact .refused (.inr htruthy)
        | false =>
          have hrefuses : ¬w.Refuses (.remainder v) := by simp [Refuses, hended, htruthy]
          have hends := Steps.ends hfield hended hrefuses
          simpa only [call, finish, hended, htruthy, Bool.false_eq_true, if_false] using hends
    | _ => nomatch hfield

/-- A call succeeds exactly if the writer does not refuse it and its field fits. -/
theorem call_eq_ok_iff : (w.call c).1 = .ok () ↔ ¬w.Refuses c ∧ c.Fits := by
  have hsteps := steps_call w c
  generalize w.call c = result at hsteps
  cases hsteps with
  | refused h => simp [h]
  | misfit hfield hended hlast hindex =>
    have hfails : ¬c.Fits := fun hfits => by
      have := (hfits _ _ hfield).1
      simp [hindex] at this
    simp [hfails]
  | broken _ _ _ _ hcontent => simp [hcontent]
  | whole hfield hended hlast hhead hbody =>
    have hrefuses := not_refuses_of_lt hfield hended hlast
    refine iff_of_true rfl ⟨hrefuses, fun index content h => ?_⟩
    obtain ⟨rfl, rfl⟩ := Prod.mk.inj (Option.some.inj (hfield.symm.trans h))
    exact ⟨by rw [hhead, Option.isSome_some], _, rfl, by rw [hbody]⟩
  | ends hfield hended hrefuses =>
    refine iff_of_true rfl ⟨hrefuses, fun index content h => ?_⟩
    rw [hfield] at h
    nomatch h

/-- Once an index is used up, calls with an index up to it are refused as well. -/
theorem refuses_with_last (bytes : List UInt8) (hlast : w.last < index) (later : Call) :
    Refuses { w with bytes, last := index } later ↔
      w.Refuses later ∨ ∃ i, later.index? = some i ∧ i ≤ index := by
  cases hlater : later.field? with
  | none =>
    cases later with
    | remainder v => simp [Refuses, Call.index?, hlater]
    | _ => nomatch hlater
  | some field =>
    have hindex : later.index? = some field.1 := Call.index?_of_field? hlater
    rw [(call_of_field? hlater).2, (call_of_field? hlater).2, hindex, or_assoc]
    refine or_congr_right ⟨fun h => .inr ⟨_, rfl, h⟩, ?_⟩
    rintro (h | ⟨i, hi, hle⟩)
    · exact Int.le_trans h (Int.le_of_lt hlast)
    · exact Option.some.inj hi ▸ hle

/-- A call that fails leaves the writer as it was exactly if it is refused. Otherwise the index is
used up, and bytes stay in the stream unless the index does not fit. -/
theorem failed_call (h : (w.call c).1 = .error e) :
    ((w.call c).2 = w ↔ w.Refuses c) ∧
    ((w.call c).2.bytes = w.bytes ↔ w.Refuses c ∨ c.Misfits) ∧
    ∀ later, (w.call c).2.Refuses later ↔
      w.Refuses later ∨ ¬w.Refuses c ∧ ∃ i j, later.index? = some i ∧ c.index? = some j ∧
        i ≤ j := by
  have hsteps := steps_call w c
  generalize w.call c = result at h hsteps
  cases hsteps with
  | refused hrefuses => simp [hrefuses]
  | @misfit index _ _ hfield hended hlast hindex =>
    have hc := Call.index?_of_field? hfield
    have hrefuses := not_refuses_of_lt hfield hended hlast
    have hmisfits : c.Misfits := ⟨index, hc, hindex⟩
    refine ⟨iff_of_false (fun heq => ?_) hrefuses, iff_of_true rfl (.inr hmisfits), fun later => ?_⟩
    · exact absurd (congrArg Writer.last heq) (Int.ne_of_gt hlast)
    · simp [refuses_with_last w.bytes hlast later, hrefuses, hc]
  | @broken index _ head part _ hfield hended hlast hhead hcontent =>
    have hc := Call.index?_of_field? hfield
    have hrefuses := not_refuses_of_lt hfield hended hlast
    refine ⟨iff_of_false (fun heq => ?_) hrefuses, iff_of_false (fun heq => ?_) ?_, fun later => ?_⟩
    · exact absurd (congrArg Writer.last heq) (Int.ne_of_gt hlast)
    · have hlength := congrArg List.length heq
      have hhead' := (marks_of_signedBytes? hhead).length
      simp only [List.length_append] at hlength
      omega
    · rintro (hrefused | ⟨i, hi, hmisfit⟩)
      · exact hrefuses hrefused
      · rw [Option.some.inj (hc.symm.trans hi), hmisfit] at hhead
        nomatch hhead
    · simp [refuses_with_last _ hlast later, hrefuses, hc]
  | whole => nomatch h
  | ends => nomatch h

/-! ## Many calls -/

/-- What an ended writer is asked for makes no difference. -/
theorem call_of_ended (h : w.ended = true) : ∃ e, w.call c = (.error e, w) := by
  have hrefuses : w.Refuses c := by
    cases c <;> exact .inl h
  have hsteps := steps_call w c
  generalize w.call c = result at hsteps
  cases hsteps with
  | refused => exact ⟨_, rfl⟩
  | misfit _ hended | broken _ hended | whole _ hended | ends _ hended => simp [h] at hended

theorem after_of_ended (h : w.ended = true) : w.after calls = w := by
  induction calls with
  | nil => rfl
  | cons c calls ih =>
    obtain ⟨e, hcall⟩ := @call_of_ended w c h
    rw [after, List.foldl_cons, hcall]
    exact ih

theorem exists_bytes_after (w : Writer) (calls : List Call) :
    ∃ more, (w.after calls).bytes = w.bytes ++ more := by
  induction calls generalizing w with
  | nil => exact ⟨[], (List.append_nil _).symm⟩
  | cons c calls ih =>
    obtain ⟨more, hmore⟩ := ih (w.call c).2
    have hstep : ∃ added, (w.call c).2.bytes = w.bytes ++ added := by
      have hsteps := steps_call w c
      generalize w.call c = result at hsteps
      cases hsteps with
      | refused | misfit => exact ⟨[], (List.append_nil _).symm⟩
      | broken | whole | ends => exact ⟨_, rfl⟩
    obtain ⟨added, hadded⟩ := hstep
    refine ⟨added ++ more, ?_⟩
    rw [← List.append_assoc, ← hadded, ← hmore]
    rfl

/-- Nothing but the fields of calls that succeeded has been written, with growing indices. -/
structure Kept (w : Writer) (es : List Entry) : Prop where
  holds : Holds w.bytes es
  growing : es.Pairwise fun x y => x.index < y.index
  nonneg : ∀ x ∈ es, 0 ≤ x.index
  le_last : ∀ x ∈ es, x.index ≤ w.last
  last : -1 ≤ w.last

theorem kept_new : Kept {} [] := ⟨.nil, .nil, by simp, by simp, Int.le_refl _⟩

theorem Kept.with_last (h : Kept w es) (hlast : w.last < index) :
    Kept { w with last := index } es where
  holds := h.holds
  growing := h.growing
  nonneg := h.nonneg
  le_last x hx := Int.le_trans (h.le_last x hx) (Int.le_of_lt hlast)
  last := Int.le_trans h.last (Int.le_of_lt hlast)

theorem Kept.with_field {head body : List UInt8} {v : Value} (h : Kept w es)
    (hlast : w.last < index)
    (hhead : signedBytes? 4 index = some head) (hbody : written v = ⟨body, none⟩) :
    Kept { w with bytes := w.bytes ++ (head ++ body), last := index }
      (es ++ [⟨index, v.frozen⟩]) := by
  have hlow := h.last
  have hnonneg : 0 ≤ index := by omega
  have hbelow : ∀ x ∈ es, x.index < index := fun x hx => Int.lt_of_le_of_lt (h.le_last x hx) hlast
  refine ⟨?_, ?_, ?_, ?_, Int.le_trans hlow (Int.le_of_lt hlast)⟩
  · exact h.holds.snoc (marks_of_signedBytes? hhead) (by simp; omega) (spells_of_written hbody)
  · simpa [List.pairwise_append, h.growing] using hbelow
  · simpa [or_imp, forall_and] using ⟨h.nonneg, hnonneg⟩
  · simpa [or_imp, forall_and] using fun x hx => Int.le_of_lt (hbelow x hx)

/-- One call: what it adds, it adds as a whole, unless it fails in the middle of its field. -/
theorem Kept.call (h : Kept w es) (hended : (w.call c).2.ended = false)
    (hunspoilt : (w.call c).1 = .ok () ∨ (w.call c).2.bytes = w.bytes) :
    Kept (w.call c).2 (es ++ w.taken c) := by
  have hsteps := steps_call w c
  rw [taken]
  generalize w.call c = result at hsteps hended hunspoilt
  cases hsteps with
  | refused => rwa [List.append_nil]
  | misfit _ _ hlast _ =>
    rw [List.append_nil]
    exact h.with_last hlast
  | @broken _ _ head part _ _ _ _ hhead _ =>
    obtain hok | hbytes := hunspoilt
    · nomatch hok
    · have hlength := congrArg List.length hbytes
      have hhead' := (marks_of_signedBytes? hhead).length
      simp only [List.length_append] at hlength
      omega
  | whole hfield _ hlast hhead hbody =>
    rw [Call.entries_of_field? hfield]
    exact h.with_field hlast hhead hbody
  | ends => nomatch hended

theorem unspoilt_of_ended (h : w.ended = true) : w.Unspoilt calls := by
  induction calls with
  | nil => trivial
  | cons c calls ih =>
    obtain ⟨e, hcall⟩ := @call_of_ended w c h
    rw [Unspoilt, hcall]
    exact ⟨.inr rfl, ih⟩

/-- Calls of which none has left a part of its field behind. -/
theorem Kept.after (h : Kept w es) (hended : (w.after calls).ended = false)
    (hunspoilt : w.Unspoilt calls) : Kept (w.after calls) (es ++ w.accepted calls) := by
  induction calls generalizing w es with
  | nil => rwa [accepted, List.append_nil]
  | cons c calls ih =>
    have hnext : (w.call c).2.ended = false := eq_false_of_ne_true fun hnext => by
      have hlater : (w.call c).2.after calls = (w.call c).2 := after_of_ended hnext
      have hended' : ((w.call c).2.after calls).ended = false := hended
      rw [hlater, hnext] at hended'
      nomatch hended'
    have hrest := ih (h.call hnext hunspoilt.1) hended hunspoilt.2
    rwa [List.append_assoc] at hrest

/-- The last index never goes down, and a field that is added has a greater one. -/
theorem last_le_call (w : Writer) (c : Call) :
    w.last ≤ (w.call c).2.last ∧ ∀ x ∈ w.taken c, w.last < x.index ∧
      x.index ≤ (w.call c).2.last := by
  have hsteps := steps_call w c
  rw [taken]
  generalize w.call c = result at hsteps
  cases hsteps with
  | refused => simp
  | misfit _ _ hlast _ | broken _ _ hlast _ _ => simpa using Int.le_of_lt hlast
  | whole hfield _ hlast _ _ =>
    simpa [Call.entries_of_field? hfield, hlast] using Int.le_of_lt hlast
  | ends hfield => simp [Call.entries, hfield]

theorem lt_of_mem_accepted {x : Entry} (h : x ∈ w.accepted calls) : w.last < x.index := by
  induction calls generalizing w with
  | nil => simp [accepted] at h
  | cons c calls ih =>
    obtain ⟨hle, htaken⟩ := last_le_call w c
    rcases List.mem_append.mp h with hx | hx
    · exact (htaken x hx).1
    · exact Int.lt_of_le_of_lt hle (ih hx)

/-- A call that fails in the middle of its field leaves an index in the stream that is none of the
fields' to be read back. -/
theorem exists_of_not_unspoilt (h : Kept w es) (hspoilt : ¬w.Unspoilt calls) :
    ∃ front before head index rest, (w.after calls).bytes = front ++ (head ++ rest) ∧
      Holds front before ∧ (∀ x ∈ before, x.index < index) ∧ Marks head index ∧ 0 ≤ index ∧
      ∀ x ∈ es ++ w.accepted calls, x.index ≠ index := by
  induction calls generalizing w es with
  | nil => exact absurd trivial hspoilt
  | cons c calls ih =>
    -- The first call that spoils the stream is one that breaks off after its index.
    by_cases hcall : (w.call c).1 = .ok () ∨ (w.call c).2.bytes = w.bytes
    · have hlater : ¬(w.call c).2.Unspoilt calls := fun hlater => hspoilt ⟨hcall, hlater⟩
      have hended : (w.call c).2.ended = false :=
        eq_false_of_ne_true fun hended => hlater (unspoilt_of_ended hended)
      have hrest := ih (h.call hended hcall) hlater
      rwa [List.append_assoc] at hrest
    · obtain ⟨more, hmore⟩ := exists_bytes_after (w.call c).2 calls
      have haccepted : ∀ x ∈ (w.call c).2.accepted calls, (w.call c).2.last < x.index :=
        fun x hx => lt_of_mem_accepted hx
      have hafter : (w.after (c :: calls)).bytes = (w.call c).2.bytes ++ more := hmore
      have hsteps := steps_call w c
      rw [accepted, taken]
      generalize w.call c = result at hsteps hcall hafter haccepted
      cases hsteps with
      | refused | misfit => simp at hcall
      | whole | ends => simp at hcall
      | @broken index _ head part _ _ _ hlast hhead _ =>
        have hbelow : ∀ x ∈ es, x.index < index :=
          fun x hx => Int.lt_of_le_of_lt (h.le_last x hx) hlast
        have hlow := h.last
        refine ⟨w.bytes, es, head, index, part ++ more, ?_, h.holds, hbelow,
          marks_of_signedBytes? hhead, by omega, fun x hx => ?_⟩
        · rw [hafter]
          simp only [List.append_assoc]
        · rcases List.mem_append.mp hx with hx | hx
          · exact Int.ne_of_lt (hbelow x hx)
          · exact Int.ne_of_gt (haccepted x hx)

end Writer

/-! ## Reading back -/

section Reading
variable {front tail : List UInt8} {es : List Entry} {index : Int}

/-- With growing indices, the value at an index is that of the field with the index. -/
theorem valueAt_eq_entryAt (h : es.Pairwise fun x y => x.index < y.index) (index : Int) :
    valueAt es index = entryAt es index := by
  obtain ⟨hbelow, hnone⟩ | ⟨before, x, after, rfl, hbelow, hle, hvalue⟩ :=
    Reader.exists_split es index
  · have hfind : es.find? (·.index == index) = none := by
      rw [List.find?_eq_none]
      exact fun y hy => by simpa using Int.ne_of_lt (hbelow y hy)
    rw [hnone, entryAt, hfind, Option.map_none]
  · have hbefore : before.find? (·.index == index) = none := by
      rw [List.find?_eq_none]
      exact fun y hy => by simpa using Int.ne_of_lt (hbelow y hy)
    rw [hvalue, entryAt, List.find?_append, hbefore, Option.none_or]
    by_cases heq : x.index = index
    · simp [heq]
    · obtain ⟨-, hafter, -⟩ := List.pairwise_append.mp h
      have hnone : after.find? (·.index == index) = none := by
        rw [List.find?_eq_none]
        intro y hy
        have := (List.pairwise_cons.mp hafter).1 y hy
        rw [beq_iff_eq]
        omega
      simp [heq, hnone]

theorem entryAt_eq_none (h : ∀ x ∈ es, x.index ≠ index) : entryAt es index = none := by
  have hfind : es.find? (·.index == index) = none := by
    rw [List.find?_eq_none]
    exact fun x hx => by simpa using h x hx
  rw [entryAt, hfind, Option.map_none]

/-- Fields that are asked for one after the other have the values that stand in the stream. -/
theorem Reader.fieldsAt_of_holds {r : Reader} {mark : List UInt8} {indices : List Int}
    (hes : Holds front es) (hmark : Marks mark (-1)) (h : r.Unread (front ++ (mark ++ tail)))
    (hgrow : indices.Pairwise (· < ·)) (hindices : ∀ index ∈ indices, 0 ≤ index ∧ r.last < index) :
    ∃ r', fieldsAt indices r = (.ok (indices.map (valueAt es)), r') ∧
      r'.finish = (.ok (), { bytes := tail, pending := none, last := r'.last }) := by
  induction indices generalizing r front es with
  | nil => exact ⟨r, rfl, finish_of_mark hes hmark h⟩
  | cons index indices ih =>
    rw [List.forall_mem_cons] at hindices
    rw [List.pairwise_cons] at hgrow
    obtain ⟨front', es', r', hfield, hlast, hes', hr', hrest⟩ | ⟨_, _, hbreaks, -⟩ :=
      field?_of_ends hes (.mark hmark tail) h hindices.1.2 hindices.1.1
    · have hnext : ∀ j ∈ indices, 0 ≤ j ∧ r'.last < j := fun j hj =>
        ⟨(hindices.2 j hj).1, hlast ▸ hgrow.1 j hj⟩
      obtain ⟨r'', hfields, hfinish⟩ := ih hes' hr' hgrow.2 hnext
      have hvalues : indices.map (valueAt es') = indices.map (valueAt es) :=
        List.map_congr_left fun j hj => hrest j (hgrow.1 j hj)
      refine ⟨r'', ?_, hfinish⟩
      simp only [fieldsAt, hfield, hfields, hvalues, List.map_cons]
    · exact absurd hbreaks (not_breaks_of_mark hmark)

end Reading

/-- Fields with growing indices, with the end mark behind them, read back. -/
theorem Writer.Kept.readsBack {w : Writer} {es : List Entry} (h : w.Kept es) :
    ReadsBack (w.bytes ++ bigEndian 4 (Nat.pow 2 32 - 1)) es := by
  intro indices hgrow hindices
  have hstart : Reader.Unread { bytes := w.bytes ++ bigEndian 4 (Nat.pow 2 32 - 1) }
      (w.bytes ++ (bigEndian 4 (Nat.pow 2 32 - 1) ++ [])) := .before rfl (by rw [List.append_nil])
  have hlast : ∀ index ∈ indices, 0 ≤ index ∧ (-1 : Int) < index := fun index hindex => by
    have := hindices index hindex
    omega
  obtain ⟨r, hfields, hfinish⟩ := Reader.fieldsAt_of_holds h.holds marks_end hstart hgrow hlast
  have hvalues : indices.map (valueAt es) = indices.map (entryAt es) :=
    List.map_congr_left fun index _ => valueAt_eq_entryAt h.growing index
  exact ⟨r, hvalues ▸ hfields, hfinish⟩

/-- A call succeeds exactly if it is not refused and its field fits. One that fails leaves the
writer as it was exactly if it is refused; otherwise its index is used up and, if the index fits,
bytes of its field stay in the stream. After any calls of a new writer, once the stream is ended, it
reads back as the fields of the calls that succeeded exactly if none that failed has put bytes into
it. -/
theorem readsBack_iff_unspoilt (w : Writer) (c : Call) (calls : List Call) (v : Value) :
    ((w.call c).1 = .ok () ↔ ¬w.Refuses c ∧ c.Fits) ∧
    (∀ e, (w.call c).1 = .error e →
      ((w.call c).2 = w ↔ w.Refuses c) ∧
      ((w.call c).2.bytes = w.bytes ↔ w.Refuses c ∨ c.Misfits) ∧
      ∀ later, (w.call c).2.Refuses later ↔
        w.Refuses later ∨ ¬w.Refuses c ∧ ∃ i j, later.index? = some i ∧ c.index? = some j ∧ i ≤ j) ∧
    ∀ ended, (Writer.after {} calls).finish v = (.ok (), ended) →
      (ReadsBack ended.bytes (Writer.accepted {} calls) ↔ Writer.Unspoilt {} calls) := by
  refine ⟨Writer.call_eq_ok_iff, fun e h => Writer.failed_call h, fun ended h => ?_⟩
  have hsteps := Writer.steps_call (Writer.after {} calls) (.remainder v)
  rw [Writer.call, h] at hsteps
  cases hsteps with
  | whole hfield => nomatch hfield
  | ends _ hended _ =>
    refine ⟨fun hreads => ?_, fun hunspoilt => ?_⟩
    · -- Otherwise some index is found in the stream at which nothing was written.
      refine Classical.byContradiction fun hspoilt => ?_
      obtain ⟨front, before, head, index, rest, hbytes, hes, hbelow, hhead, hindex, hother⟩ :=
        Writer.exists_of_not_unspoilt Writer.kept_new hspoilt
      obtain ⟨r, hfields, -⟩ := hreads [index] (List.pairwise_singleton _ _) (by simpa using hindex)
      have hstart : Reader.Unread
          { bytes := (Writer.after {} calls).bytes ++ bigEndian 4 (Nat.pow 2 32 - 1) }
          (front ++ (head ++ (rest ++ bigEndian 4 (Nat.pow 2 32 - 1)))) := by
        refine .before rfl ?_
        rw [hbytes]
        simp only [List.append_assoc]
      have hfound := Reader.field?_ne_none hes hbelow hhead hstart (by simp; omega) hindex
      have hnone : entryAt (Writer.accepted {} calls) index = none := entryAt_eq_none hother
      simp only [Reader.fieldsAt, List.map_cons, List.map_nil, hnone] at hfields
      split at hfields
      · nomatch hfields
      · rename_i found r' hfield
        obtain rfl : found = none := by simpa using congrArg Prod.fst hfields
        exact hfound r' hfield
    · exact (Writer.kept_new.after hended hunspoilt).readsBack

/-- An integer of more than eight bytes leaves its index behind: the stream that is ended then does
not read back as no fields, which is what the calls that succeeded have written, and its index 0 is
used up. -/
theorem readsBack_iff_unspoilt_outOfRange :
    let tooLarge := Call.int 0 (.int (Nat.pow 2 63 : Nat))
    Writer.call {} tooLarge = (.error .outOfRange, { bytes := [0, 0, 0, 0], last := 0 }) ∧
      (Writer.call {} tooLarge).2.Refuses (.int 0 (.int 1)) ∧ ¬Writer.Refuses {} (.int 0 (.int 1)) ∧
      (Writer.after {} [tooLarge]).finish .null =
        (.ok (), { bytes := [0, 0, 0, 0, 0xFF, 0xFF, 0xFF, 0xFF], last := 0, ended := true }) ∧
      Writer.accepted {} [tooLarge] = [] ∧ ¬ReadsBack [0, 0, 0, 0, 0xFF, 0xFF, 0xFF, 0xFF] [] := by
  intro tooLarge
  have hcall : Writer.call {} tooLarge =
      (.error .outOfRange, { bytes := [0, 0, 0, 0], last := 0 }) := rfl
  have haccepts : ¬Writer.Refuses {} (.int 0 (.int 1)) := by simp [Writer.Refuses]
  have hrefuses : ¬Writer.Refuses {} tooLarge := by simp [tooLarge, Writer.Refuses]
  have hfailed : (Writer.call {} tooLarge).1 = .error .outOfRange := rfl
  have hlater := ((readsBack_iff_unspoilt {} tooLarge [tooLarge] .null).2.1 _ hfailed).2.2
    (.int 0 (.int 1))
  have hspoilt : ¬Writer.Unspoilt {} [tooLarge] := by
    simp [Writer.Unspoilt, hcall]
  have hends : (Writer.after {} [tooLarge]).finish .null =
      (.ok (), { bytes := [0, 0, 0, 0, 0xFF, 0xFF, 0xFF, 0xFF], last := 0, ended := true }) := rfl
  have hreads := (readsBack_iff_unspoilt {} tooLarge [tooLarge] .null).2.2 _ hends
  have hnone : Writer.accepted {} [tooLarge] = [] := rfl
  rw [hnone] at hreads
  exact ⟨hcall, hlater.mpr (.inr ⟨hrefuses, 0, 0, rfl, rfl, Int.le_refl 0⟩), haccepts, hends, hnone,
    fun h => hspoilt (hreads.mp h)⟩

end RetentionPlan.FieldStream
