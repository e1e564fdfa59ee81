import RetentionPlan.Proofs.FieldStream.Values

/-!
# The fields of any stream

A stream holds fields and then either the mark that ends it or something that the reader breaks off
at. Reading a field and skipping the rest are told for every stream, whatever its indices are and
whether or not the reader has looked at the next index already.
-/
namespace RetentionPlan.FieldStream

/-- A field as it stands in a stream. -/
structure Entry where
  index : Int
  value : Value
  deriving Repr

/-- Four bytes that stand for an index. -/
structure Marks (head : List UInt8) (index : Int) : Prop where
  length : head.length = 4
  value : ofSignedBytes 4 head = index

theorem marks_of_signedBytes? {head : List UInt8} {index : Int}
    (h : signedBytes? 4 index = some head) : Marks head index :=
  have ⟨hlength, hvalue⟩ := ofSignedBytes_of_signedBytes? (Nat.succ_pos 3) h
  ⟨hlength, hvalue⟩

theorem marks_end : Marks (bigEndian 4 (Nat.pow 2 32 - 1)) (-1) := ⟨rfl, rfl⟩

inductive Holds : List UInt8 → List Entry → Prop
  | nil : Holds [] []
  | cons {head body back : List UInt8} {e : Entry} {es : List Entry} (hhead : Marks head e.index)
      (hindex : e.index ≠ -1) (hbody : Spells body e.value) (hback : Holds back es) :
      Holds (head ++ (body ++ back)) (e :: es)

/-- Bytes that begin neither with a field nor with the end mark, and why. -/
inductive Breaks : List UInt8 → StreamError → Prop
  | short {rest : List UInt8} (h : rest.length < 4) : Breaks rest .endOfStream
  | field {head rest : List UInt8} {index : Int} {e : StreamError} (hhead : Marks head index)
      (hindex : index ≠ -1) (hrest : Stops rest e) : Breaks (head ++ rest) e

/-- What can stand behind the fields: the end mark and any bytes, or something to break off at. -/
inductive Ends : List UInt8 → Prop
  | mark {mark : List UInt8} (hmark : Marks mark (-1)) (rest : List UInt8) : Ends (mark ++ rest)
  | breaks {rest : List UInt8} {e : StreamError} (h : Breaks rest e) : Ends rest

/-- The value that is read at an index: that of the first field not below the index, if it has the
index. -/
def valueAt (es : List Entry) (index : Int) : Option Value :=
  (es.find? (index ≤ ·.index)).bind fun e => if e.index = index then some e.value else none

theorem exists_mem_of_valueAt {es : List Entry} {index : Int} {v : Value}
    (h : valueAt es index = some v) : ∃ x ∈ es, x.index = index ∧ x.value = v := by
  obtain ⟨x, hfind, hx⟩ := Option.bind_eq_some_iff.mp h
  by_cases heq : x.index = index
  · rw [if_pos heq] at hx
    exact ⟨x, List.mem_of_find?_eq_some hfind, heq, Option.some.inj hx⟩
  · simp [heq] at hx

theorem valueAt_append_of_below {before : List Entry} {index : Int} (after : List Entry)
    (h : ∀ x ∈ before, x.index < index) :
    valueAt (before ++ after) index = valueAt after index := by
  have hnone : before.find? (index ≤ ·.index) = none := by
    rw [List.find?_eq_none]
    intro x hx
    have := h x hx
    simpa using this
  rw [valueAt, List.find?_append, hnone, Option.none_or, valueAt]

section Streams
variable {head front tail rest : List UInt8} {index : Int} {e : StreamError} {es : List Entry}

theorem Marks.eq_of_append_eq {head' rest' : List UInt8} {index' : Int} (h : Marks head index)
    (h' : Marks head' index') (heq : head ++ rest = head' ++ rest') :
    index = index' ∧ rest = rest' := by
  obtain ⟨rfl, rfl⟩ := List.append_inj heq (h.length.trans h'.length.symm)
  exact ⟨h.value.symm.trans h'.value, rfl⟩

theorem Holds.length_le (h : Holds front es) : 5 * es.length ≤ front.length := by
  induction h with
  | nil => exact Nat.zero_le _
  | cons hhead hindex hbody hback ih =>
    have hpos := hbody.length_pos
    have hlength := hhead.length
    simp only [List.length_append, List.length_cons]
    omega

namespace Reader
variable {r : Reader}

/-! ## Where a reader stands -/

/-- The bytes that a reader has before it, with the index that it has looked at already. -/
inductive Unread (r : Reader) (bytes : List UInt8) : Prop where
  | before (hpending : r.pending = none) (hbytes : r.bytes = bytes)
  | behind {head : List UInt8} {index : Int} (hpending : r.pending = some index)
      (hhead : Marks head index)
      (hbytes : bytes = head ++ r.bytes)

theorem Unread.with_last {bytes : List UInt8} (h : r.Unread bytes) (index : Int) :
    Unread { r with last := index } bytes := by
  cases h with
  | before hpending hbytes => exact .before hpending hbytes
  | behind hpending hhead hbytes => exact .behind hpending hhead hbytes

theorem Unread.length_le {bytes : List UInt8} (h : r.Unread bytes) :
    bytes.length ≤ r.bytes.length + 4 := by
  cases h with
  | before _ hbytes => exact hbytes ▸ Nat.le_add_right _ 4
  | behind _ hhead hbytes =>
    have hlength := hhead.length
    rw [hbytes, List.length_append]
    omega

theorem Unread.nextIndex_eq (h : r.Unread (head ++ rest)) (hhead : Marks head index) :
    r.nextIndex = (.ok index, { r with bytes := rest, pending := some index }) := by
  cases h with
  | before hpending hbytes =>
    simp only [nextIndex, hpending, hbytes, takeInt_word hhead.length, hhead.value]
  | behind hpending hhead' hbytes =>
    obtain ⟨rfl, rfl⟩ := hhead.eq_of_append_eq hhead' hbytes
    simp only [nextIndex, hpending]
    rw [← hpending]

theorem Unread.nextIndex_of_lt (h : r.Unread rest) (hshort : rest.length < 4) :
    ∃ r', r.nextIndex = (.error .endOfStream, r') := by
  cases h with
  | before hpending hbytes =>
    rw [← hbytes] at hshort
    exact ⟨{ r with bytes := [] }, by simp only [nextIndex, hpending, takeInt_of_lt hshort]⟩
  | behind hpending hhead hbytes =>
    have := hhead.length
    rw [hbytes, List.length_append] at hshort
    omega

/-! ## Skipping -/

/-- Fields below the index asked for are passed over. -/
theorem skipTo_of_holds (hes : Holds front es) (hbelow : ∀ x ∈ es, x.index < index)
    (h : r.Unread (front ++ tail)) :
    ∃ r', r'.Unread tail ∧ r'.last = r.last ∧
      ∀ fuel, skipTo index (es.length + fuel) r = skipTo index fuel r' := by
  induction hes generalizing r with
  | nil => exact ⟨r, h, rfl, fun fuel => by rw [List.length_nil, Nat.zero_add]⟩
  | @cons head body back x es hhead hindex hbody hback ih =>
    rw [List.forall_mem_cons] at hbelow
    rw [List.append_assoc, List.append_assoc] at h
    have hnext := h.nextIndex_eq hhead
    have hvalue : value { r with bytes := body ++ (back ++ tail), pending := none } =
        (.ok x.value, { r with bytes := back ++ tail, pending := none }) :=
          value_of_spells hbody rfl
    have hback' : Unread { r with bytes := back ++ tail, pending := none } (back ++ tail) :=
      .before rfl rfl
    obtain ⟨r', hr', hlast, hskip⟩ := ih hbelow.2 hback'
    refine ⟨r', hr', hlast, fun fuel => ?_⟩
    have hpass : ¬(x.index = -1 ∨ index < x.index) := by
      have := hbelow.1
      omega
    have hne : x.index ≠ index := Int.ne_of_lt hbelow.1
    rw [List.length_cons, Nat.add_right_comm, skipTo]
    simp only [hnext, hpass, if_false, hne, hvalue, hskip]

/-- At the end mark, or at a field above the index asked for, the reader stops. -/
theorem skipTo_of_above {next : Int} {fuel : Nat} (h : r.Unread (head ++ rest))
    (hhead : Marks head next) (habove : next = -1 ∨ index < next) :
    skipTo index (fuel + 1) r = (.ok false, { r with bytes := rest, pending := some next }) := by
  simp only [skipTo, h.nextIndex_eq hhead, habove, if_true]

theorem skipTo_of_eq {fuel : Nat} (h : r.Unread (head ++ rest)) (hhead : Marks head index)
    (hindex : 0 ≤ index) :
    skipTo index (fuel + 1) r = (.ok true, { r with bytes := rest, pending := none }) := by
  have hne : ¬(index = -1 ∨ index < index) := by omega
  simp only [skipTo, h.nextIndex_eq hhead, hne, if_false, if_true]

/-- The whole fields of a stream are skipped on the way to its end. -/
theorem skipToEnd_of_holds (hes : Holds front es) (h : r.Unread (front ++ tail)) :
    ∃ r', r'.Unread tail ∧ r'.last = r.last ∧
      ∀ fuel, skipToEnd (es.length + fuel) r = skipToEnd fuel r' := by
  induction hes generalizing r with
  | nil => exact ⟨r, h, rfl, fun fuel => by rw [List.length_nil, Nat.zero_add]⟩
  | @cons head body back x es hhead hindex hbody hback ih =>
    rw [List.append_assoc, List.append_assoc] at h
    have hnext := h.nextIndex_eq hhead
    have hvalue : value { r with bytes := body ++ (back ++ tail), pending := none } =
        (.ok x.value, { r with bytes := back ++ tail, pending := none }) :=
          value_of_spells hbody rfl
    have hback' : Unread { r with bytes := back ++ tail, pending := none } (back ++ tail) :=
      .before rfl rfl
    obtain ⟨r', hr', hlast, hskip⟩ := ih hback'
    refine ⟨r', hr', hlast, fun fuel => ?_⟩
    rw [List.length_cons, Nat.add_right_comm, skipToEnd]
    simp only [hnext, hindex, if_false, hvalue, hskip]

/-- There are fewer fields than the reader has steps for. -/
theorem exists_fuel (hes : Holds front es) (h : r.Unread (front ++ tail)) :
    ∃ fuel, r.bytes.length + 2 = es.length + (fuel + 1) := by
  have hfields := hes.length_le
  have hbytes := h.length_le
  rw [List.length_append] at hbytes
  exact ⟨r.bytes.length + 1 - es.length, by omega⟩

/-- The rest of a stream is skipped, and its end mark with it. -/
theorem finish_of_mark {mark : List UInt8} (hes : Holds front es) (hmark : Marks mark (-1))
    (h : r.Unread (front ++ (mark ++ rest))) :
    r.finish = (.ok (), { bytes := rest, pending := none, last := r.last }) := by
  obtain ⟨fuel, hfuel⟩ := exists_fuel hes h
  obtain ⟨r', hr', hlast, hskip⟩ := skipToEnd_of_holds hes h
  rw [finish, hfuel, hskip, skipToEnd]
  simp only [hr'.nextIndex_eq hmark, if_true, hlast]

/-- Where a stream breaks off, so does skipping its rest. -/
theorem finish_of_breaks (hes : Holds front es) (hbreaks : Breaks tail e)
    (h : r.Unread (front ++ tail)) :
    ∃ r', r.finish = (.error e, r') := by
  obtain ⟨fuel, hfuel⟩ := exists_fuel hes h
  obtain ⟨r', hr', -, hskip⟩ := skipToEnd_of_holds hes h
  rw [finish, hfuel, hskip, skipToEnd]
  cases hbreaks with
  | short hshort =>
    obtain ⟨r'', hnext⟩ := hr'.nextIndex_of_lt hshort
    exact ⟨r'', by simp only [hnext]⟩
  | @field head rest next _ hhead hindex hrest =>
    have hstops : Stops (Reader.bytes { r' with bytes := rest, pending := none }) e := hrest
    obtain ⟨r'', hvalue⟩ := value_of_stops hstops
    exact ⟨r'', by simp only [hr'.nextIndex_eq hhead, hindex, if_false, hvalue]⟩

/-! ## Reading a field -/

/-- The fields below an index come first; behind them, if anything, the field that the reader comes
to. -/
theorem exists_split (es : List Entry) (index : Int) :
    (∀ x ∈ es, x.index < index) ∧ valueAt es index = none ∨
    ∃ before x after, es = before ++ x :: after ∧ (∀ y ∈ before, y.index < index) ∧
      index ≤ x.index ∧ valueAt es index = if x.index = index then some x.value else none := by
  cases hfind : es.find? (index ≤ ·.index) with
  | none =>
    refine .inl ⟨fun x hx => ?_, by rw [valueAt, hfind, Option.bind_none]⟩
    simpa using List.find?_eq_none.mp hfind x hx
  | some x =>
    obtain ⟨hx, before, after, hes, hbefore⟩ := List.find?_eq_some_iff_append.mp hfind
    refine .inr ⟨before, x, after, hes, fun y hy => ?_, of_decide_eq_true hx, ?_⟩
    · simpa using hbefore y hy
    · rw [valueAt, hfind, Option.bind_some]

end Reader

theorem Holds.exists_of_append {before after : List Entry} (h : Holds front (before ++ after)) :
    ∃ first second, front = first ++ second ∧ Holds first before ∧ Holds second after := by
  induction before generalizing front with
  | nil => exact ⟨[], front, rfl, .nil, h⟩
  | cons x before ih =>
    cases h with
    | cons hhead hindex hbody hback =>
      obtain ⟨first, second, rfl, hfirst, hsecond⟩ := ih hback
      refine ⟨_, second, ?_, .cons hhead hindex hbody hfirst, hsecond⟩
      simp only [List.append_assoc]

theorem Holds.snoc {head body : List UInt8} {x : Entry} (h : Holds front es)
    (hhead : Marks head x.index) (hindex : x.index ≠ -1) (hbody : Spells body x.value) :
    Holds (front ++ (head ++ body)) (es ++ [x]) := by
  induction h with
  | nil =>
    have hone := Holds.cons hhead hindex hbody .nil
    rwa [List.append_nil] at hone
  | cons hhead' hindex' hbody' _ ih =>
    rw [List.append_assoc, List.append_assoc]
    exact .cons hhead' hindex' hbody' ih

namespace Reader
variable {r : Reader}

/-- Moving to an index begins by passing the fields below it. -/
theorem seek_of_holds (hes : Holds front es) (hbelow : ∀ x ∈ es, x.index < index)
    (h : r.Unread (front ++ tail)) (hlast : r.last < index) :
    ∃ fuel r', r'.Unread tail ∧ r'.last = index ∧ r.seek index = skipTo index (fuel + 1) r' := by
  obtain ⟨fuel, hfuel⟩ := exists_fuel hes (h.with_last index)
  obtain ⟨r', hr', hlast', hskip⟩ := skipTo_of_holds hes hbelow (h.with_last index)
  refine ⟨fuel, r', hr', hlast', ?_⟩
  rw [seek, if_neg (Int.not_le.mpr hlast), ← hskip, ← hfuel]

/-- A field above the index asked for, or the end mark, stays unread. -/
theorem field?_of_above {next : Int} (hes : Holds front es) (hbelow : ∀ x ∈ es, x.index < index)
    (hhead : Marks head next) (habove : next = -1 ∨ index < next)
    (h : r.Unread (front ++ (head ++ rest))) (hlast : r.last < index) :
    ∃ r', r.field? index = (.ok none, r') ∧ r'.last = index ∧ r'.Unread (head ++ rest) := by
  obtain ⟨fuel, r', hr', hlast', hseek⟩ := seek_of_holds hes hbelow h hlast
  refine ⟨{ r' with bytes := rest, pending := some next }, ?_, hlast', .behind rfl hhead rfl⟩
  simp only [field?, hseek, skipTo_of_above hr' hhead habove]

theorem field?_of_eq {v : Value} {body : List UInt8} (hes : Holds front es)
    (hbelow : ∀ x ∈ es, x.index < index) (hhead : Marks head index) (hbody : Spells body v)
    (h : r.Unread (front ++ (head ++ (body ++ rest)))) (hlast : r.last < index)
    (hindex : 0 ≤ index) :
    r.field? index = (.ok (some v), { bytes := rest, pending := none, last := index }) := by
  obtain ⟨fuel, r', hr', hlast', hseek⟩ := seek_of_holds hes hbelow h hlast
  have hvalue : value { bytes := body ++ rest, last := index } =
      (.ok v, { bytes := rest, last := index }) := value_of_spells hbody rfl
  simp only [field?, hseek, skipTo_of_eq hr' hhead hindex, hlast', hvalue]

/-- Where the index asked for stands, a value is read or the reader breaks off. -/
theorem field?_ne_none (hes : Holds front es) (hbelow : ∀ x ∈ es, x.index < index)
    (hhead : Marks head index) (h : r.Unread (front ++ (head ++ rest))) (hlast : r.last < index)
    (hindex : 0 ≤ index) (r' : Reader) : r.field? index ≠ (.ok none, r') := by
  obtain ⟨fuel, r'', hr'', -, hseek⟩ := seek_of_holds hes hbelow h hlast
  simp only [field?, hseek, skipTo_of_eq hr'' hhead hindex]
  split <;> simp

/-- Where the stream breaks off, either the field asked for would have to stand further ahead, or
the reader breaks off as well. -/
theorem field?_of_breaks (hes : Holds front es) (hbelow : ∀ x ∈ es, x.index < index)
    (hbreaks : Breaks tail e) (h : r.Unread (front ++ tail)) (hlast : r.last < index)
    (hindex : 0 ≤ index) :
    (∃ r', r.field? index = (.ok none, r') ∧ r'.last = index ∧ r'.Unread tail) ∨
    ∃ r', r.field? index = (.error e, r') := by
  obtain ⟨fuel, r', hr', hlast', hseek⟩ := seek_of_holds hes hbelow h hlast
  cases hbreaks with
  | short hshort =>
    obtain ⟨r'', hnext⟩ := hr'.nextIndex_of_lt hshort
    exact .inr ⟨r'', by simp only [field?, hseek, skipTo, hnext]⟩
  | @field head rest next _ hhead hnext hrest =>
    have hstops : Stops (Reader.bytes { r' with bytes := rest, pending := none }) e := hrest
    obtain ⟨r'', hvalue⟩ := value_of_stops hstops
    rcases Int.lt_trichotomy next index with hlt | rfl | hgt
    · have hpass : ¬(next = -1 ∨ index < next) := by omega
      have hne : next ≠ index := Int.ne_of_lt hlt
      refine .inr ⟨r'', ?_⟩
      simp only [field?, hseek, skipTo, hr'.nextIndex_eq hhead, hpass, hne, if_false, hvalue]
    · refine .inr ⟨r'', ?_⟩
      simp only [field?, hseek, skipTo_of_eq hr' hhead hindex, hvalue]
    · exact .inl (field?_of_above hes hbelow hhead (.inr hgt) h hlast)

/-- Asking for a field gives the value at its index, and the fields that stay unread have the same
values at greater ones; or there is no such field among the whole ones, and the reader breaks off
where the stream does. -/
theorem field?_of_ends (hes : Holds front es) (htail : Ends tail) (h : r.Unread (front ++ tail))
    (hlast : r.last < index) (hindex : 0 ≤ index) :
    (∃ front' es' r', r.field? index = (.ok (valueAt es index), r') ∧ r'.last = index ∧
      Holds front' es' ∧ r'.Unread (front' ++ tail) ∧ ∀ j, index < j →
        valueAt es' j = valueAt es j) ∨
    ∃ e r', Breaks tail e ∧ valueAt es index = none ∧ r.field? index = (.error e, r') := by
  obtain ⟨hbelow, hnone⟩ | ⟨before, x, after, rfl, hbelow, hle, hvalue⟩ := exists_split es index
  · have hrest : ∀ j, index < j → valueAt [] j = valueAt es j := fun j hj => by
      have hskip := valueAt_append_of_below [] fun x hx => Int.lt_trans (hbelow x hx) hj
      rw [List.append_nil] at hskip
      exact hskip.symm
    rw [hnone]
    cases htail with
    | mark hmark rest =>
      obtain ⟨r', hfield, hr'⟩ := field?_of_above hes hbelow hmark (.inl rfl) h hlast
      exact .inl ⟨[], [], r', hfield, hr'.1, .nil, hr'.2, hrest⟩
    | @breaks _ e hbreaks =>
      obtain ⟨r', hfield, hr'⟩ | ⟨r', hfield⟩ := field?_of_breaks hes hbelow hbreaks h hlast hindex
      · exact .inl ⟨[], [], r', hfield, hr'.1, .nil, hr'.2, hrest⟩
      · exact .inr ⟨e, r', hbreaks, rfl, hfield⟩
  · obtain ⟨first, second, rfl, hfirst, hsecond⟩ := hes.exists_of_append
    rw [List.append_assoc] at h
    cases hsecond with
    | @cons head body back _ _ hhead hnext hbody hback =>
      rw [List.append_assoc, List.append_assoc] at h
      by_cases heq : x.index = index
      · subst heq
        have hfield := field?_of_eq hfirst hbelow hhead hbody h hlast hindex
        rw [if_pos rfl] at hvalue
        refine .inl ⟨back, after, _, hvalue ▸ hfield, rfl, hback, .before rfl rfl, fun j hj => ?_⟩
        rw [valueAt_append_of_below _ fun y hy => Int.lt_trans (hbelow y hy) hj]
        exact (@valueAt_append_of_below [x] j after (by simpa using hj)).symm
      · have habove : x.index = -1 ∨ index < x.index := .inr (by omega)
        obtain ⟨r', hfield, hlast', hr'⟩ := field?_of_above hfirst hbelow hhead habove h hlast
        rw [if_neg heq] at hvalue
        refine .inl ⟨head ++ (body ++ back), x :: after, r', hvalue ▸ hfield, hlast',
          .cons hhead hnext hbody hback, ?_, fun j hj => ?_⟩
        · rwa [List.append_assoc, List.append_assoc]
        · exact (valueAt_append_of_below _ fun y hy => Int.lt_trans (hbelow y hy) hj).symm

end Reader

/-! ## Every stream -/

theorem Breaks.unique {e' : StreamError} (h : Breaks tail e) (h' : Breaks tail e') : e = e' := by
  have hstart : Reader.Unread { bytes := tail } tail := .before rfl rfl
  obtain ⟨r, hr⟩ := Reader.finish_of_breaks .nil h hstart
  obtain ⟨r', hr'⟩ := Reader.finish_of_breaks .nil h' hstart
  rw [hr] at hr'
  exact Except.error.inj (Prod.mk.inj hr').1

theorem not_breaks_of_mark {mark : List UInt8} (hmark : Marks mark (-1)) :
    ¬Breaks (mark ++ rest) e := by
  intro h
  generalize hbytes : mark ++ rest = bytes at h
  cases h with
  | short hshort =>
    have := hmark.length
    rw [← hbytes, List.length_append] at hshort
    omega
  | field hhead hindex hrest => exact hindex (hmark.eq_of_append_eq hhead hbytes).1.symm

/-- Every list of bytes holds some fields, with the end mark or something to break off at behind
them. -/
theorem exists_holds_ends (bytes : List UInt8) :
    ∃ front es tail, bytes = front ++ tail ∧ Holds front es ∧ Ends tail := by
  by_cases hshort : bytes.length < 4
  · exact ⟨[], [], bytes, rfl, .nil, .breaks (.short hshort)⟩
  obtain ⟨head, rest, rfl, hhead⟩ := exists_append_of_le (Nat.le_of_not_lt hshort)
  have hmarks : Marks head (ofSignedBytes 4 head) := ⟨hhead, rfl⟩
  by_cases hend : ofSignedBytes 4 head = -1
  · exact ⟨[], [], head ++ rest, rfl, .nil, .mark (hend ▸ hmarks) rest⟩
  obtain ⟨body, v, rest, rfl, hbody⟩ | ⟨e, hstops⟩ := settled rest
  · obtain ⟨front, es, tail, rfl, hes, htail⟩ := exists_holds_ends rest
    refine ⟨head ++ (body ++ front), ⟨ofSignedBytes 4 head, v⟩ :: es, tail, ?_,
      .cons hmarks hend hbody hes, htail⟩
    simp only [List.append_assoc]
  · exact ⟨[], [], head ++ rest, rfl, .nil, .breaks (.field hmarks hend hstops)⟩
termination_by bytes.length
decreasing_by
  subst_vars
  simp only [List.length_append]
  omega

end Streams
end RetentionPlan.FieldStream
