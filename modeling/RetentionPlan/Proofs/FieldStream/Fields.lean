import RetentionPlan.Proofs.FieldStream.Sameness
import RetentionPlan.Proofs.FieldStream.Streams

/-!
# Sessions of a writer and a reader

A writer puts fields with growing indices and ends the stream; a reader asks for some indices, again
growing ones, and skips the others. Between two requests the reader stands before the fields that
are left (`Stands`), whether or not it has looked at the index of the first of them already.
-/
namespace RetentionPlan.FieldStream

/-! ## What is put and what is asked for -/

/-- What a field is written with, by the method that writes it. -/
inductive Content where
  | text (s : Option String)
  | int (n : Int)
  | collection (items : List Value)
  deriving Repr

def Content.value : Content → Value
  | text none => .null
  | text (some s) => .text s
  | int n => .int n
  | collection items => .list items

structure Field where
  index : Int
  content : Content
  deriving Repr

/-- Writes a field by the method for its content. -/
def Writer.put (w : Writer) (f : Field) : Except StreamError Unit × Writer :=
  match f.content with
  | .text _ => w.writeText f.index f.content.value
  | .int _ => w.writeInt f.index f.content.value
  | .collection _ => w.writeCollection f.index f.content.value

/-- Writes fields until one fails. -/
def Writer.putAll : List Field → Writer → Except StreamError Unit × Writer
  | [], w => (.ok (), w)
  | f :: fields, w =>
    match w.put f with
    | (.error e, w) => (.error e, w)
    | (.ok (), w) => putAll fields w

/-- The method that a field is read by, with the members of the set that items are added to. -/
inductive Expected where
  | text
  | int
  | collection (given : List Value)
  deriving Repr

structure Request where
  index : Int
  expected : Expected
  deriving Repr

/-- What reading a field gives. -/
inductive Reply where
  | text (s : Option String)
  | int (n : Int)
  | collection (members : List Value)
  deriving Repr

/-- Reads a field by the method that is asked for. -/
def Reader.ask (r : Reader) (q : Request) : Except StreamError Reply × Reader :=
  match q.expected with
  | .text =>
    let (result, r) := r.readText q.index
    (result.map .text, r)
  | .int =>
    let (result, r) := r.readInt q.index
    (result.map .int, r)
  | .collection given =>
    let (result, r) := r.readCollection q.index given
    (result.map .collection, r)

/-- Reads fields until one fails. -/
def Reader.askAll : List Request → Reader → Except StreamError (List Reply) × Reader
  | [], r => (.ok [], r)
  | q :: requests, r =>
    match r.ask q with
    | (.error e, r) => (.error e, r)
    | (.ok reply, r) =>
      match askAll requests r with
      | (.error e, r) => (.error e, r)
      | (.ok replies, r) => (.ok (reply :: replies), r)

def contentAt (fields : List Field) (index : Int) : Option Content :=
  (fields.find? (·.index == index)).map (·.content)

/-- What a method gives for a content, and its default where there is none. Without a reply, the
method is not the one for the content. -/
def Expected.reply? : Expected → Option Content → Option Reply
  | text, none => some (.text none)
  | int, none => some (.int 0)
  | collection given, none => some (.collection given)
  | text, some (.text s) => some (.text s)
  | int, some (.int n) => some (.int n)
  | collection given, some (.collection items) => some (.collection (Value.insertAll given items))
  | _, _ => none

def Request.reply? (q : Request) (fields : List Field) : Option Reply :=
  q.expected.reply? (contentAt fields q.index)

/-! ## The bytes of fields -/

def Field.head (f : Field) : List UInt8 := (signedBytes? 4 f.index).getD []

def Field.body (f : Field) : List UInt8 := (written f.content.value).bytes

structure Field.Fits (f : Field) : Prop where
  nonneg : 0 ≤ f.index
  lt : f.index < (Nat.pow 2 31 : Nat)
  content : (written f.content.value).failure = none

def fieldBytes : List Field → List UInt8
  | [] => bigEndian 4 (Nat.pow 2 32 - 1)
  | f :: fields => f.head ++ (f.body ++ fieldBytes fields)

section Fields
variable {f : Field} {fields : List Field} {tail : List UInt8}

theorem Field.Fits.signedBytes?_eq (h : f.Fits) : signedBytes? 4 f.index = some f.head := by
  obtain ⟨bytes, hbytes⟩ := exists_signedBytes? 4 (n := f.index) (by have := h.nonneg; omega) h.lt
  rw [Field.head, hbytes, Option.getD_some]

theorem Field.Fits.written_eq (h : f.Fits) : written f.content.value = ⟨f.body, none⟩ := by
  rw [Field.body, ← h.content]

/-! ## Writing -/

theorem Writer.put_eq (w : Writer) (f : Field) :
    w.put f = w.writeField f.index (.ok f.content.value) := by
  unfold Writer.put
  cases f.content <;> rfl

theorem Writer.put_of_fits {w : Writer} (h : f.Fits) (hended : w.ended = false)
    (hlast : w.last < f.index) :
    w.put f = (.ok (), { w with bytes := w.bytes ++ (f.head ++ f.body), last := f.index }) := by
  simp [put_eq, writeField, openField, append, hended, Int.not_le.mpr hlast, h.signedBytes?_eq,
    h.written_eq]

/-- Fields with growing indices are added one after the other, and the end mark behind them. -/
theorem Writer.putAll_of_fits {w : Writer} (hfits : ∀ f ∈ fields, f.Fits)
    (hgrow : fields.Pairwise fun f g => f.index < g.index) (hended : w.ended = false)
    (hlast : ∀ f ∈ fields, w.last < f.index) :
    ∃ w', putAll fields w = (.ok (), w') ∧
      w'.finish .null = (.ok (), { w' with bytes := w.bytes ++ fieldBytes fields, ended := true }) ∧
      w'.inMemory = w.inMemory := by
  induction fields generalizing w with
  | nil => exact ⟨w, rfl, by simp [finish, hended, Value.isTruthy, fieldBytes], rfl⟩
  | cons f fields ih =>
    rw [List.forall_mem_cons] at hfits hlast
    rw [List.pairwise_cons] at hgrow
    let next : Writer := { w with bytes := w.bytes ++ (f.head ++ f.body), last := f.index }
    obtain ⟨w', hput, hfinish, hmemory⟩ := ih (w := next) hfits.2 hgrow.2 hended hgrow.1
    rw [putAll, put_of_fits hfits.1 hended hlast.1]
    exact ⟨w', hput, by simpa [next, fieldBytes] using hfinish, hmemory⟩

/-! ## Reading -/

/-- The index that comes next, or the one of the end mark. -/
def nextOf : List Field → Int
  | [] => -1
  | f :: _ => f.index

/-- The bytes behind the index that comes next. -/
def afterIndex : List Field → List UInt8
  | [] => []
  | f :: fields => f.body ++ fieldBytes fields

/-- The reader stands before `fields`: at their first byte, or behind the index that comes next. -/
inductive Reader.Stands (r : Reader) (fields : List Field) (tail : List UInt8) : Prop where
  | before (hpending : r.pending = none) (hbytes : r.bytes = fieldBytes fields ++ tail)
  | behind (hpending : r.pending = some (nextOf fields))
      (hbytes : r.bytes = afterIndex fields ++ tail)

def fieldsAfter (fields : List Field) (index : Int) : List Field :=
  fields.dropWhile fun f => decide (f.index ≤ index)

/-- What was written at an index is found among the fields that are left, once the reader has passed
smaller ones only. -/
theorem contentAt_fieldsAfter {i j : Int} (h : i < j) :
    contentAt (fieldsAfter fields i) j = contentAt fields j := by
  induction fields with
  | nil => rfl
  | cons f fields ih =>
    by_cases hle : f.index ≤ i
    · have hne : (f.index == j) = false := by
        rw [beq_eq_false_iff_ne]
        omega
      have hafter : fieldsAfter (f :: fields) i = fieldsAfter fields i :=
        List.dropWhile_cons_of_pos (decide_eq_true hle)
      rw [hafter, ih]
      simp only [contentAt, List.find?_cons, hne]
    · rw [fieldsAfter, List.dropWhile_cons_of_neg (by simpa using hle)]

theorem contentAt_eq_none {index : Int} (h : ∀ f ∈ fields, index < f.index) :
    contentAt fields index = none := by
  have hfind : fields.find? (·.index == index) = none := by
    rw [List.find?_eq_none]
    intro f hf
    have := h f hf
    rw [beq_iff_eq]
    omega
  rw [contentAt, hfind, Option.map_none]

theorem fieldsAfter_eq_self {index : Int} (h : ∀ f ∈ fields, index < f.index) :
    fieldsAfter fields index = fields := by
  cases fields with
  | nil => rfl
  | cons f fields =>
    have := h f List.mem_cons_self
    exact List.dropWhile_cons_of_neg (by simpa using this)

def Field.entry (f : Field) : Entry := ⟨f.index, f.content.value.frozen⟩

theorem exists_fieldBytes_append {before : List Field} (hfits : ∀ f ∈ before, f.Fits)
    (after : List Field) :
    ∃ front, Holds front (before.map Field.entry) ∧
      fieldBytes (before ++ after) = front ++ fieldBytes after := by
  induction before with
  | nil => exact ⟨[], .nil, rfl⟩
  | cons f before ih =>
    obtain ⟨hf, hbefore⟩ := List.forall_mem_cons.mp hfits
    obtain ⟨front, hfront, hbytes⟩ := ih hbefore
    have hindex : f.index ≠ -1 := by
      have := hf.nonneg
      omega
    have hbody := spells_of_written hf.written_eq
    refine ⟨_, @Holds.cons f.head f.body front f.entry _ (marks_of_signedBytes? hf.signedBytes?_eq)
      hindex hbody hfront, ?_⟩
    rw [List.cons_append, fieldBytes, hbytes, List.append_assoc, List.append_assoc]

theorem exists_mark_append (hfits : ∀ f ∈ fields, f.Fits) :
    ∃ mark, Marks mark (nextOf fields) ∧ fieldBytes fields = mark ++ afterIndex fields := by
  cases fields with
  | nil => exact ⟨_, marks_end, (List.append_nil _).symm⟩
  | cons f fields =>
    have hf := hfits f List.mem_cons_self
    exact ⟨_, marks_of_signedBytes? hf.signedBytes?_eq, rfl⟩

theorem Reader.stands_iff_unread {r : Reader} (hfits : ∀ f ∈ fields, f.Fits) :
    r.Stands fields tail ↔ r.Unread (fieldBytes fields ++ tail) := by
  obtain ⟨mark, hmark, hbytes⟩ := exists_mark_append hfits
  constructor
  · rintro (⟨hpending, hrest⟩ | ⟨hpending, hrest⟩)
    · exact .before hpending hrest
    · exact .behind hpending hmark (by rw [hbytes, hrest, List.append_assoc])
  · rintro (⟨hpending, hrest⟩ | ⟨hpending, hmark', hrest⟩)
    · exact .before hpending hrest
    · rw [hbytes, List.append_assoc] at hrest
      obtain ⟨hindex, hbehind⟩ := hmark.eq_of_append_eq hmark' hrest
      exact .behind (hindex ▸ hpending) hbehind.symm

/-- The fields below an index come first, then the one with the index, if there is one, and then
those after it. -/
theorem exists_fields_split (hgrow : fields.Pairwise fun f g => f.index < g.index) (index : Int) :
    ∃ before, (∀ f ∈ before, f.index < index) ∧ (∀ g ∈ fieldsAfter fields index, index < g.index) ∧
      (fields = before ++ fieldsAfter fields index ∧ contentAt fields index = none ∨
        ∃ f, f.index = index ∧ fields = before ++ f :: fieldsAfter fields index ∧
          contentAt fields index = some f.content) := by
  induction fields with
  | nil => exact ⟨[], by simp, by simp [fieldsAfter], .inl ⟨rfl, rfl⟩⟩
  | cons f fields ih =>
    obtain ⟨hfirst, hrest⟩ := List.pairwise_cons.mp hgrow
    rcases Int.lt_trichotomy index f.index with hlt | rfl | hgt
    · have habove : ∀ g ∈ f :: fields, index < g.index := by
        rw [List.forall_mem_cons]
        exact ⟨hlt, fun g hg => Int.lt_trans hlt (hfirst g hg)⟩
      rw [fieldsAfter_eq_self habove]
      exact ⟨[], by simp, habove, .inl ⟨rfl, contentAt_eq_none habove⟩⟩
    · have hafter : fieldsAfter (f :: fields) f.index = fields :=
        (List.dropWhile_cons_of_pos (by simp)).trans (fieldsAfter_eq_self hfirst)
      rw [hafter]
      exact ⟨[], by simp, hfirst, .inr ⟨f, rfl, rfl, by simp [contentAt]⟩⟩
    · have hafter : fieldsAfter (f :: fields) index = fieldsAfter fields index :=
        List.dropWhile_cons_of_pos (by simpa using Int.le_of_lt hgt)
      have hcontent : contentAt (f :: fields) index = contentAt fields index := by
        simp [contentAt, Int.ne_of_lt hgt]
      obtain ⟨before, hbelow, habove, hsplit⟩ := ih hrest
      rw [hafter, hcontent]
      refine ⟨f :: before, List.forall_mem_cons.mpr ⟨hgt, hbelow⟩, habove, ?_⟩
      obtain ⟨hfields, hnone⟩ | ⟨g, hg, hfields, hsome⟩ := hsplit
      · exact .inl ⟨congrArg (f :: ·) hfields, hnone⟩
      · exact .inr ⟨g, hg, congrArg (f :: ·) hfields, hsome⟩

/-- Reading a field gives its frozen value, and the reader comes to stand before the fields after
it. -/
theorem Reader.field?_of_stands {r : Reader} (hs : r.Stands fields tail) {index : Int}
    (hfits : ∀ f ∈ fields, f.Fits) (hgrow : fields.Pairwise fun f g => f.index < g.index)
    (hlast : r.last < index) :
    ∃ r', r.field? index = (.ok ((contentAt fields index).map (·.value.frozen)), r') ∧
      r'.last = index ∧ r'.Stands (fieldsAfter fields index) tail := by
  obtain ⟨before, hbelow, habove, hsplit⟩ := exists_fields_split hgrow index
  have hafter : ∀ f ∈ fieldsAfter fields index, f.Fits := fun f hf =>
    hfits f ((List.dropWhile_sublist _).subset hf)
  rw [stands_iff_unread hfits] at hs
  have hentries : ∀ x ∈ before.map Field.entry, x.index < index := by
    rw [List.forall_mem_map]
    exact hbelow
  obtain ⟨hfields, hnone⟩ | ⟨f, rfl, hfields, hsome⟩ := hsplit
  · obtain ⟨front, hfront, hbytes⟩ := exists_fieldBytes_append
      (fun f hf => hfits f (hfields ▸ List.mem_append_left _ hf)) (fieldsAfter fields index)
    obtain ⟨mark, hmark, hrest⟩ := exists_mark_append hafter
    have hnext : nextOf (fieldsAfter fields index) = -1 ∨
        index < nextOf (fieldsAfter fields index) := by
      cases hlater : fieldsAfter fields index with
      | nil => exact .inl rfl
      | cons g later => exact .inr (habove g (hlater ▸ List.mem_cons_self))
    rw [← hfields] at hbytes
    rw [hbytes, hrest, List.append_assoc, List.append_assoc] at hs
    obtain ⟨r', hfield, hlast', hr'⟩ := field?_of_above hfront hentries hmark hnext hs hlast
    refine ⟨r', by rw [hfield, hnone, Option.map_none], hlast', (stands_iff_unread hafter).mpr ?_⟩
    rwa [hrest, List.append_assoc]
  · have hf : f.Fits := hfits f (hfields ▸ List.mem_append_right _ List.mem_cons_self)
    obtain ⟨front, hfront, hbytes⟩ := exists_fieldBytes_append
      (fun f hf => hfits f (hfields ▸ List.mem_append_left _ hf)) (f :: fieldsAfter fields f.index)
    rw [← hfields] at hbytes
    rw [hbytes, fieldBytes, List.append_assoc, List.append_assoc, List.append_assoc] at hs
    have hfield := field?_of_eq hfront hentries (marks_of_signedBytes? hf.signedBytes?_eq)
      (spells_of_written hf.written_eq) hs hlast hf.nonneg
    exact ⟨_, by rw [hfield, hsome, Option.map_some], rfl, .before rfl rfl⟩

/-- The rest of a stream is skipped, and its end mark with it. -/
theorem Reader.finish_of_stands {r : Reader} (hs : r.Stands fields tail)
    (hfits : ∀ f ∈ fields, f.Fits) :
    r.finish = (.ok (), { r with bytes := tail, pending := none }) := by
  obtain ⟨front, hfront, hbytes⟩ := exists_fieldBytes_append hfits []
  rw [stands_iff_unread hfits, ← List.append_nil fields, hbytes, List.append_assoc] at hs
  exact finish_of_mark hfront marks_end hs

/-! ## Sessions -/

/-- The contents that a stream keeps as they are. -/
def Content.Storable : Content → Prop
  | text none => True
  | text (some s) => (Value.text s).Storable
  | int n => (Value.int n).Storable
  | collection items => (Value.tuple items).Storable

theorem Content.Storable.frozen_eq {items : List Value} (h : (Content.collection items).Storable) :
    (Content.collection items).value.frozen = .tuple items := by
  have := Value.Storable.frozen_eq h
  simpa only [Content.value, Value.frozen] using this

theorem Content.Storable.failure_eq_none {c : Content} (h : c.Storable) :
    (written c.value).failure = none := by
  match c with
  | .text none => rfl
  | .text (some s) => exact Value.Storable.failure_eq_none h
  | .int n => exact Value.Storable.failure_eq_none h
  | .collection items =>
    have := Value.Storable.failure_eq_none h
    simpa only [Content.value, written] using this

/-- One request: the reply that the written fields call for, before the fields after its index. -/
theorem Reader.ask_of_stands {r : Reader} {q : Request} {reply : Reply} (hs : r.Stands fields tail)
    (hfits : ∀ f ∈ fields, f.Fits) (hcontent : ∀ f ∈ fields, f.content.Storable)
    (hgrow : fields.Pairwise fun f g => f.index < g.index) (hlast : r.last < q.index)
    (hreply : q.reply? fields = some reply) :
    ∃ r', r.ask q = (.ok reply, r') ∧ r'.last = q.index ∧
      r'.Stands (fieldsAfter fields q.index) tail := by
  obtain ⟨r', hfield, hr', hstands⟩ := field?_of_stands hs hfits hgrow hlast
  refine ⟨r', ?_, hr', hstands⟩
  have hstored : ∀ c, contentAt fields q.index = some c → c.Storable := by
    intro c hc
    obtain ⟨f, hf, rfl⟩ := Option.map_eq_some_iff.mp hc
    exact hcontent f (List.mem_of_find?_eq_some hf)
  obtain ⟨index, expected⟩ := q
  simp only [Request.reply?] at hreply hfield hstored ⊢
  cases hc : contentAt fields index with
  | none =>
    rw [hc] at hreply hfield
    cases expected <;> simp only [Expected.reply?, Option.some.injEq] at hreply <;> subst hreply <;>
      simp only [ask, readText, readInt, readCollection, hfield, Option.map_none] <;> rfl
  | some c =>
    have hc' := hstored c hc
    rw [hc] at hreply hfield
    match expected, c with
    | .text, .text none | .text, .text (some s) | .int, .int n =>
      obtain rfl := Option.some.inj hreply
      simp only [ask, readText, readInt, hfield, Option.map_some, Content.value, Value.frozen]
      rfl
    | .collection given, .collection items =>
      obtain rfl := Option.some.inj hreply
      simp only [ask, readCollection, hfield, Option.map_some, hc'.frozen_eq]
      rfl
    | .text, .int _ | .text, .collection _ | .int, .text _ | .int, .collection _
    | .collection _, .text _ | .collection _, .int _ => simp [Expected.reply?] at hreply

/-- Requests with growing indices are answered as the written fields call for, and the reader comes
to stand before some of the fields. -/
theorem Reader.askAll_of_stands {r : Reader} {requests : List Request} {replies : List Reply}
    (hs : r.Stands fields tail) (hfits : ∀ f ∈ fields, f.Fits)
    (hcontent : ∀ f ∈ fields, f.content.Storable)
    (hgrow : fields.Pairwise fun f g => f.index < g.index)
    (hlast : ∀ q ∈ requests, r.last < q.index)
    (hrequests : requests.Pairwise fun p q => p.index < q.index)
    (hreplies : requests.map (·.reply? fields) = replies.map some) :
    ∃ r' fields', askAll requests r = (.ok replies, r') ∧ fields'.Sublist fields ∧
      r'.Stands fields' tail := by
  induction requests generalizing r fields replies with
  | nil =>
    obtain rfl : replies = [] := List.map_eq_nil_iff.mp hreplies.symm
    exact ⟨r, fields, rfl, List.Sublist.refl _, hs⟩
  | cons q requests ih =>
    obtain _ | ⟨reply, replies⟩ := replies
    · simp at hreplies
    rw [List.map_cons, List.map_cons, List.cons.injEq] at hreplies
    rw [List.forall_mem_cons] at hlast
    obtain ⟨hfirst, hrequests⟩ := List.pairwise_cons.mp hrequests
    obtain ⟨r', hask, hr', hstands⟩ := ask_of_stands hs hfits hcontent hgrow hlast.1 hreplies.1
    have hsub : (fieldsAfter fields q.index).Sublist fields := List.dropWhile_sublist _
    -- The requests to come look for larger indices, which are all among the fields that are left.
    have hreplies' : requests.map (·.reply? (fieldsAfter fields q.index)) = replies.map some := by
      rw [← hreplies.2]
      refine List.map_congr_left fun p hp => ?_
      simp only [Request.reply?, contentAt_fieldsAfter (hfirst p hp)]
    obtain ⟨r'', fields', hall, hsub', hstands'⟩ :=
      ih hstands (fun f hf => hfits f (hsub.subset hf)) (fun f hf => hcontent f (hsub.subset hf))
        (hgrow.sublist hsub) (hr' ▸ hfirst) hrequests hreplies'
    exact ⟨r'', fields', by simp only [askAll, hask, hall], hsub'.trans hsub, hstands'⟩

/-- Fields with growing indices are written, and read back by requests with growing indices whatever
fields are skipped: each request has the reply that the written fields call for, and then the rest
of the stream is skipped exactly to its end. The members of a collection that was read are the given
ones and the items written, up to being the same. -/
theorem Reader.askAll_putAll {requests : List Request} {replies : List Reply}
    (hgrow : fields.Pairwise fun f g => f.index < g.index)
    (hindex : ∀ f ∈ fields, 0 ≤ f.index ∧ f.index < (Nat.pow 2 31 : Nat))
    (hcontent : ∀ f ∈ fields, f.content.Storable)
    (hrequests : requests.Pairwise fun p q => p.index < q.index)
    (hfrom : ∀ q ∈ requests, 0 ≤ q.index)
    (hreplies : requests.map (·.reply? fields) = replies.map some) :
    (∃ w w' bytes, Writer.putAll fields {} = (.ok (), w) ∧ w.finish .null = (.ok (), w') ∧
      w'.contents = .ok bytes ∧
      ∀ tail, ∃ r, askAll requests { bytes := bytes ++ tail } = (.ok replies, r) ∧
        r.finish = (.ok (), { r with bytes := tail, pending := none })) ∧
    ∀ given items v, (Value.insertAll given items).any (Value.same v) =
      (given.any (Value.same v) || items.any (Value.same v)) := by
  refine ⟨?_, Value.any_insertAll⟩
  have hfits : ∀ f ∈ fields, f.Fits := fun f hf =>
    ⟨(hindex f hf).1, (hindex f hf).2, (hcontent f hf).failure_eq_none⟩
  have hfirst : ∀ f ∈ fields, (-1 : Int) < f.index := by
    intro f hf
    have := (hindex f hf).1
    omega
  have hasked : ∀ q ∈ requests, (-1 : Int) < q.index := by
    intro q hq
    have := hfrom q hq
    omega
  obtain ⟨w, hput, hfinish, hmemory⟩ := Writer.putAll_of_fits (w := {}) hfits hgrow rfl hfirst
  refine ⟨w, _, fieldBytes fields, hput, hfinish, if_pos hmemory, fun tail => ?_⟩
  have hs : Stands { bytes := fieldBytes fields ++ tail } fields tail := .before rfl rfl
  obtain ⟨r, fields', hall, hsub, hstands⟩ :=
    askAll_of_stands hs hfits hcontent hgrow hasked hrequests hreplies
  exact ⟨r, hall, finish_of_stands hstands fun f hf => hfits f (hsub.subset hf)⟩

end Fields

/-- A text, a nested collection and an integer; the integer is never asked for, and two of the
indices that are were not written. -/
theorem Reader.askAll_putAll_mixed :
    let fields : List Field := [⟨0, .text (some "zoo")⟩,
      ⟨2, .collection [.int 1, .tuple [.text "a", .tuple [.null, .bool true]], .bool true]⟩,
      ⟨7, .int (-5)⟩]
    let requests : List Request := [⟨0, .text⟩, ⟨1, .int⟩, ⟨2, .collection [.text "b"]⟩, ⟨9, .text⟩]
    let replies : List Reply := [.text (some "zoo"), .int 0,
      .collection [.text "b", .int 1, .tuple [.text "a", .tuple [.null, .bool true]]], .text none]
    ∃ w w' bytes, Writer.putAll fields {} = (.ok (), w) ∧ w.finish .null = (.ok (), w') ∧
      w'.contents = .ok bytes ∧
      ∀ tail, ∃ r, askAll requests { bytes := bytes ++ tail } = (.ok replies, r) ∧
        r.finish = (.ok (), { r with bytes := tail, pending := none }) := by
  intro fields requests replies
  have hinner : (Value.tuple [.text "a", .tuple [.null, .bool true]]).Storable := by
    refine .tuple (by decide) ?_
    simp only [List.forall_mem_cons, List.not_mem_nil, false_implies, implies_true, and_true]
    refine ⟨.text (by decide +kernel), .tuple (by decide) ?_⟩
    simp [Value.Storable.null, Value.Storable.bool]
  have hitems : (Value.tuple
      [.int 1, .tuple [.text "a", .tuple [.null, .bool true]], .bool true]).Storable := by
    refine .tuple (by decide) ?_
    simp only [List.forall_mem_cons, List.not_mem_nil, false_implies, implies_true, and_true]
    exact ⟨.int (by decide) (by decide), hinner, .bool true⟩
  have hstored : ∀ f ∈ fields, f.content.Storable := by
    simp only [fields, List.forall_mem_cons, List.not_mem_nil, false_implies, implies_true,
      and_true]
    exact ⟨.text (by decide +kernel), hitems, .int (by decide) (by decide)⟩
  exact (askAll_putAll (by decide) (by decide) hstored (by decide) (by decide) rfl).1

end RetentionPlan.FieldStream
