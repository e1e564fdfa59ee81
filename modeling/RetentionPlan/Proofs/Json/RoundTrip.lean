import Mathlib.Tactic.SplitIfs
import RetentionPlan.Json.Reader
import RetentionPlan.Json.Render

/-!
# JSON read back as it was written

A value without numbers is read back from its text with one item a line, whatever its texts hold and
whichever characters are escaped. Texts come first: every character is read as the units that it was
written as, and the units are joined to it again.
-/
namespace RetentionPlan.Json

/-! ## Characters -/

section Characters
variable {charset : Charset} {c : Char} {n : Nat}

theorem hexValue?_hexDigit {d : Nat} (h : d < 16) : hexValue? (Text.hexDigit d) = some d := by
  have hall : ∀ d < 16, hexValue? (Text.hexDigit d) = some d := by decide
  exact hall d h

theorem readUnits_unitEscape (h : n < 0x10000) (cs : List Char) :
    readUnits (unitEscape n ++ cs) = (readUnits cs).map fun (units, rest) =>
      (n :: units, rest) := by
  have hdigits : Text.hexDigits 4 n = [Text.hexDigit (n / 4096 % 16), Text.hexDigit (n / 256 % 16),
      Text.hexDigit (n / 16 % 16), Text.hexDigit (n % 16)] := by
    simp [Text.hexDigits, Nat.div_div_eq_div_mul]
  have hunit : hexUnit? (Text.hexDigit (n / 4096 % 16)) (Text.hexDigit (n / 256 % 16))
      (Text.hexDigit (n / 16 % 16)) (Text.hexDigit (n % 16)) = some n := by
    simp only [hexUnit?, hexValue?_hexDigit (Nat.mod_lt _ (Nat.succ_pos 15)), Option.bind_eq_bind,
      Option.bind_some, Option.pure_def, Option.some.injEq]
    omega
  simp only [unitEscape, hdigits, List.cons_append, List.nil_append, readUnits, hunit]

def unitsOf (charset : Charset) (c : Char) : List Nat :=
  if charset = .ascii ∧ 0x10000 ≤ c.toNat then
    [0xD800 + (c.toNat - 0x10000) / 0x400, 0xDC00 + (c.toNat - 0x10000) % 0x400]
  else [c.toNat]

theorem toNat_lt (c : Char) : c.toNat < 0xD800 ∨ 0xDFFF < c.toNat ∧ c.toNat < 0x110000 := c.valid

theorem readUnits_plain (hquote : c ≠ '"') (hback : c ≠ '\\') (hcontrol : 0x20 ≤ c.toNat)
    (cs : List Char) :
    readUnits (c :: cs) = (readUnits cs).map fun (units, rest) => (c.toNat :: units, rest) := by
  rw [readUnits.eq_def]
  split
  case h_5 heq =>
    obtain ⟨rfl, rfl⟩ := List.cons.inj heq
    exact if_neg (not_or.mpr ⟨Nat.not_lt.mpr hcontrol, hback⟩)
  all_goals simp_all

theorem readUnits_short {e : Char} (hletter : e ≠ 'u') (h : shortEscape? e = some c)
    (cs : List Char) :
    readUnits (['\\', e] ++ cs) = (readUnits cs).map fun (units, rest) =>
      (c.toNat :: units, rest) := by
  rw [List.cons_append, List.cons_append, List.nil_append, readUnits.eq_def]
  split
  case h_5 hne heq =>
    obtain ⟨rfl, rfl⟩ := List.cons.inj heq
    exact absurd rfl (hne e cs rfl)
  all_goals simp_all

/-- The ways in which a character is written. -/
inductive Rendered (charset : Charset) (c : Char) : List Char → Prop
  | short {e : Char} (hletter : e ≠ 'u') (h : shortEscape? e = some c)
      (hunits : unitsOf charset c = [c.toNat]) : Rendered charset c ['\\', e]
  | unit (hsmall : c.toNat < 0x10000) (hunits : unitsOf charset c = [c.toNat]) :
      Rendered charset c (unitEscape c.toNat)
  | plain (hquote : c ≠ '"') (hback : c ≠ '\\') (hcontrol : 0x20 ≤ c.toNat)
      (hunits : unitsOf charset c = [c.toNat]) : Rendered charset c [c]
  | pair {high low : Nat} (hhigh : high < 0x10000) (hlow : low < 0x10000)
      (hunits : unitsOf charset c = [high, low]) :
        Rendered charset c (unitEscape high ++ unitEscape low)

theorem rendered_renderChar (charset : Charset) (c : Char) :
    Rendered charset c (renderChar charset c) := by
  have hone (h : c.toNat < 0x10000) : unitsOf charset c = [c.toNat] := if_neg (by omega)
  have hvalid := toNat_lt c
  by_cases hquote : c = '"'
  · subst hquote
    exact .short (by decide) rfl (hone (by decide))
  by_cases hback : c = '\\'
  · subst hback
    exact .short (by decide) rfl (hone (by decide))
  by_cases hfeed : c = '\n'
  · subst hfeed
    exact .short (by decide) rfl (hone (by decide))
  by_cases hreturn : c = '\r'
  · subst hreturn
    exact .short (by decide) rfl (hone (by decide))
  by_cases htab : c = '\t'
  · subst htab
    exact .short (by decide) rfl (hone (by decide))
  by_cases hform : c = '\x0c'
  · subst hform
    exact .short (by decide) rfl (hone (by decide))
  by_cases hbell : c = '\x08'
  · subst hbell
    exact .short (by decide) rfl (hone (by decide))
  simp only [renderChar, hquote, hback, hfeed, hreturn, htab, hform, hbell, if_false]
  by_cases hcontrol : c.toNat < 0x20
  · rw [if_pos hcontrol]
    exact .unit (by omega) (hone (by omega))
  rw [if_neg hcontrol]
  by_cases hplain : charset = .unicode ∨ c.toNat < 0x7F
  · have hunits : unitsOf charset c = [c.toNat] := by
      refine if_neg ?_
      rintro ⟨rfl, hlarge⟩
      simp only [reduceCtorEq, false_or] at hplain
      omega
    rw [if_pos hplain]
    exact .plain hquote hback (by omega) hunits
  rw [if_neg hplain]
  by_cases hbasic : c.toNat < 0x10000
  · rw [if_pos hbasic]
    exact .unit hbasic (hone hbasic)
  · rw [if_neg hbasic]
    have hascii : charset = .ascii := by
      cases charset with
      | ascii => rfl
      | unicode => exact absurd (.inl rfl) hplain
    exact .pair (by omega) (by omega) (if_pos ⟨hascii, by omega⟩)

theorem readUnits_renderChar (charset : Charset) (c : Char) (cs : List Char) :
    readUnits (renderChar charset c ++ cs) =
      (readUnits cs).map fun (units, rest) => (unitsOf charset c ++ units, rest) := by
  have hrendered := rendered_renderChar charset c
  generalize renderChar charset c = cs' at hrendered
  cases hrendered with
  | short hletter h hunits =>
    rw [hunits]
    exact readUnits_short hletter h cs
  | unit hsmall hunits =>
    rw [hunits]
    exact readUnits_unitEscape hsmall cs
  | plain hquote hback hcontrol hunits =>
    rw [hunits]
    exact readUnits_plain hquote hback hcontrol cs
  | pair hhigh hlow hunits =>
    rw [hunits, List.append_assoc, readUnits_unitEscape hhigh, readUnits_unitEscape hlow]
    cases readUnits cs <;> rfl

theorem joinUnits_unitsOf (charset : Charset) (c : Char) (units : List Nat) :
    joinUnits (unitsOf charset c ++ units) = c :: joinUnits units := by
  have hvalid := toNat_lt c
  unfold unitsOf
  split_ifs with hpair
  · have hjoined : 0x10000 + (0xD800 + (c.toNat - 0x10000) / 0x400 - 0xD800) * 0x400 +
        (0xDC00 + (c.toNat - 0x10000) % 0x400 - 0xDC00) = c.toNat := by omega
    have hhalves : 0xD800 ≤ 0xD800 + (c.toNat - 0x10000) / 0x400 ∧
        0xD800 + (c.toNat - 0x10000) / 0x400 < 0xDC00 ∧
        0xDC00 ≤ 0xDC00 + (c.toNat - 0x10000) % 0x400 ∧
        0xDC00 + (c.toNat - 0x10000) % 0x400 < 0xE000 := by omega
    rw [List.cons_append, List.cons_append, List.nil_append, joinUnits, if_pos hhalves, hjoined,
      Char.ofNat_toNat]
  · have hwhole : ¬(0xD800 ≤ c.toNat ∧ c.toNat < 0xE000) := by omega
    cases units with
    | nil => simp only [List.append_nil, joinUnits, if_neg hwhole, Char.ofNat_toNat]
    | cons low units =>
      have hfirst : ¬(0xD800 ≤ c.toNat ∧ c.toNat < 0xDC00 ∧ 0xDC00 ≤ low ∧ low < 0xE000) := by omega
      simp only [List.cons_append, List.nil_append, joinUnits, if_neg hfirst, if_neg hwhole,
        Char.ofNat_toNat]

end Characters

/-! ## Texts -/

theorem readUnits_flatMap (charset : Charset) (cs rest : List Char) :
    readUnits (cs.flatMap (renderChar charset) ++ '"' :: rest) =
      .ok (cs.flatMap (unitsOf charset), rest) := by
  induction cs with
  | nil => simp [readUnits]
  | cons c cs ih =>
    rw [List.flatMap_cons, List.append_assoc, readUnits_renderChar, ih, List.flatMap_cons]
    rfl

theorem joinUnits_flatMap (charset : Charset) (cs : List Char) :
    joinUnits (cs.flatMap (unitsOf charset)) = cs := by
  induction cs with
  | nil => rfl
  | cons c cs ih => rw [List.flatMap_cons, joinUnits_unitsOf, ih]

/-- A text is read back behind its opening quote, whatever follows it. -/
theorem readText_renderText (charset : Charset) (s : String) (rest : List Char) :
    readText (s.toList.flatMap (renderChar charset) ++ '"' :: rest) = .ok (s, rest) := by
  simp only [readText, readUnits_flatMap, Except.map, joinUnits_flatMap, String.ofList_toList]

/-! ## Blanks -/

@[simp]
theorem skipSpace_newline (level : Nat) (cs : List Char) :
    skipSpace (newline level ++ cs) = skipSpace cs := by
  have hblank : ∀ c ∈ newline level, isSpace c = true := by
    simp +contextual [newline, isSpace]
  exact List.dropWhile_append_of_pos hblank

theorem skipSpace_cons {c : Char} (h : isSpace c = false) (cs : List Char) :
    skipSpace (c :: cs) = c :: cs :=
  List.dropWhile_cons_of_neg (by simp [h])

/-! ## Values -/

inductive Numberless : Json → Prop
  | null : Numberless .null
  | bool (b : Bool) : Numberless (.bool b)
  | text (s : String) : Numberless (.text s)
  | array {items : List Json} (h : ∀ v ∈ items, Numberless v) : Numberless (.array items)
  | object {fields : List (String × Json)} (h : ∀ f ∈ fields, Numberless f.2) :
      Numberless (.object fields)

/-- A value is read back from the front of any text that begins with it, at any level. -/
def Reads (charset : Charset) (v : Json) : Prop :=
  ∀ (level fuel : Nat) (rest : List Char), (renderLines charset level v).length ≤ fuel →
    readValue fuel (renderLines charset level v ++ rest) = .ok (v, rest)

section Values
variable {charset : Charset} {v : Json} {vs : List Json} {fields : List (String × Json)}
  {name : String}
  {level fuel : Nat}

/-- A rendered value begins with no blank and no closing bracket. -/
theorem Numberless.exists_cons (h : Numberless v) (charset : Charset) (level : Nat) :
    ∃ c cs, renderLines charset level v = c :: cs ∧ isSpace c = false ∧ c ≠ ']' := by
  cases h with
  | null => exact ⟨'n', "ull".toList, rfl, rfl, by decide⟩
  | bool b =>
    cases b
    · exact ⟨'f', "alse".toList, rfl, rfl, by decide⟩
    · exact ⟨'t', "rue".toList, rfl, rfl, by decide⟩
  | text s => exact ⟨'"', _, rfl, rfl, by decide⟩
  | @array items _ => cases items <;> exact ⟨'[', _, rfl, rfl, by decide⟩
  | @object fields _ => cases fields <;> exact ⟨'\x7b', _, rfl, rfl, by decide⟩

theorem Numberless.skipSpace_renderLines (h : Numberless v) (rest : List Char) :
    skipSpace (renderLines charset level v ++ rest) = renderLines charset level v ++ rest := by
  obtain ⟨c, cs, hcs, hspace, -⟩ := h.exists_cons charset level
  rw [hcs, List.cons_append, skipSpace_cons hspace]

theorem reads_text (s : String) : Reads charset (.text s) := by
  intro level fuel rest hfuel
  obtain _ | fuel := fuel
  · simp [renderLines, renderText] at hfuel
  · have hread := readText_renderText charset s rest
    simp only [renderLines, renderText, List.cons_append, List.append_assoc, List.nil_append,
      readValue, hread, Except.map]

theorem reads_word {word : List Char} (hword : ∀ level, renderLines charset level v = word)
    (hne : word ≠ []) (hread : ∀ fuel rest, readValue (fuel + 1) (word ++ rest) = .ok (v, rest)) :
    Reads charset v := by
  intro level fuel rest hfuel
  rw [hword] at hfuel ⊢
  obtain _ | fuel := fuel
  · exact absurd (List.eq_nil_of_length_eq_zero (Nat.le_zero.mp hfuel)) hne
  · exact hread fuel rest

theorem readItems_of_reads (hv : Reads charset v) (hvs : ∀ w ∈ vs, Numberless w ∧ Reads charset w)
    (outer : Nat) (rest : List Char)
    (hfuel : (renderLines charset level v).length + (renderItems charset level vs).length + 1 ≤
      fuel) :
    readItems fuel (renderLines charset level v ++
      (renderItems charset level vs ++ (newline outer ++ ']' :: rest))) = .ok (v :: vs, rest) := by
  induction vs generalizing v fuel with
  | nil =>
    obtain ⟨fuel, rfl⟩ := Nat.exists_eq_add_one_of_ne_zero (Nat.ne_zero_of_lt hfuel)
    have hread := hv level fuel (newline outer ++ ']' :: rest) (by omega)
    have hclose : skipSpace (newline outer ++ ']' :: rest) = ']' :: rest := by
      rw [skipSpace_newline, skipSpace_cons rfl]
    simp only [renderItems, List.nil_append, readItems, hread, bind, Except.bind, hclose]
    rfl
  | cons w vs ih =>
    obtain ⟨fuel, rfl⟩ := Nat.exists_eq_add_one_of_ne_zero (Nat.ne_zero_of_lt hfuel)
    obtain ⟨⟨hw, hread'⟩, hvs⟩ := List.forall_mem_cons.mp hvs
    simp only [renderItems, List.cons_append, List.append_assoc, List.length_cons,
      List.length_append] at hfuel ⊢
    have hread := hv level fuel (',' :: (newline level ++ (renderLines charset level w ++
      (renderItems charset level vs ++ (newline outer ++ ']' :: rest))))) (by omega)
    have hmore := ih hread' hvs (by omega : _ ≤ fuel)
    simp only [readItems, hread, bind, Except.bind, skipSpace_cons (rfl : isSpace ',' = false),
      skipSpace_newline, hw.skipSpace_renderLines, hmore]
    rfl

theorem reads_array {items : List Json} (h : ∀ v ∈ items, Numberless v ∧ Reads charset v) :
    Reads charset (.array items) := by
  intro level fuel rest hfuel
  obtain ⟨fuel, rfl⟩ : ∃ n, fuel = n + 1 :=
    Nat.exists_eq_add_one_of_ne_zero (by cases items <;> simp [renderLines] at hfuel <;> omega)
  cases items with
  | nil => rfl
  | cons v vs =>
    obtain ⟨⟨hv, hread⟩, hvs⟩ := List.forall_mem_cons.mp h
    simp only [renderLines, List.cons_append, List.append_assoc, List.nil_append, List.length_cons,
      List.length_append, List.length_nil] at hfuel ⊢
    have hitems := readItems_of_reads hread hvs level rest
      (by omega : (renderLines charset (level + 1) v).length +
        (renderItems charset (level + 1) vs).length + 1 ≤ fuel)
    obtain ⟨c, cs, hcs, -, hbracket⟩ := hv.exists_cons charset (level + 1)
    simp only [readValue, skipSpace_newline, hv.skipSpace_renderLines]
    rw [hcs, List.cons_append] at hitems ⊢
    split
    · next heq => exact absurd (List.cons.inj heq).1 hbracket
    · rw [hitems]
      rfl

theorem skipSpace_renderText (cs : List Char) :
    skipSpace (renderText charset name ++ cs) = renderText charset name ++ cs :=
  skipSpace_cons rfl _

section Field
variable (hv : Numberless v) (hread : Reads charset v)
  (hfuel : (renderLines charset level v).length ≤ fuel)
  {rest rest' rest'' : List Char}
include hv hread hfuel

theorem readFields_last (hclose : skipSpace rest = '\x7d' :: rest') :
    readFields (fuel + 1)
      (renderText charset name ++ ':' :: ' ' :: (renderLines charset level v ++ rest)) =
        .ok ([(name, v)], rest') := by
  have hname := readText_renderText charset name
    (':' :: ' ' :: (renderLines charset level v ++ rest))
  have hblank (cs : List Char) : skipSpace (' ' :: cs) = skipSpace cs := rfl
  simp only [renderText, List.nil_append, List.cons_append, List.append_assoc, readFields, hname,
    bind, Except.bind, skipSpace_cons (rfl : isSpace ':' = false), hblank, hv.skipSpace_renderLines,
    hread level fuel rest hfuel, hclose]
  rfl

theorem readFields_more (hcomma : skipSpace rest = ',' :: rest')
    (hmore : readFields fuel (skipSpace rest') = .ok (fields, rest'')) :
    readFields (fuel + 1)
      (renderText charset name ++ ':' :: ' ' :: (renderLines charset level v ++ rest)) =
        .ok ((name, v) :: fields, rest'') := by
  have hname := readText_renderText charset name
    (':' :: ' ' :: (renderLines charset level v ++ rest))
  have hblank (cs : List Char) : skipSpace (' ' :: cs) = skipSpace cs := rfl
  simp only [renderText, List.nil_append, List.cons_append, List.append_assoc, readFields, hname,
    bind, Except.bind, skipSpace_cons (rfl : isSpace ':' = false), hblank, hv.skipSpace_renderLines,
    hread level fuel rest hfuel, hcomma, hmore]
  rfl

end Field

theorem readFields_of_reads (hv : Numberless v) (hread : Reads charset v)
    (hfields : ∀ f ∈ fields, Numberless f.2 ∧ Reads charset f.2) (outer : Nat) (rest : List Char)
    (hfuel : (renderLines charset level v).length + (renderFields charset level fields).length + 1 ≤
      fuel) :
    readFields fuel (renderText charset name ++ ':' :: ' ' :: (renderLines charset level v ++
      (renderFields charset level fields ++ (newline outer ++ '\x7d' :: rest)))) =
        .ok ((name, v) :: fields, rest) := by
  induction fields generalizing name v fuel with
  | nil =>
    obtain ⟨fuel, rfl⟩ := Nat.exists_eq_add_one_of_ne_zero (Nat.ne_zero_of_lt hfuel)
    refine readFields_last hv hread (by omega) ?_
    rw [renderFields, List.nil_append, skipSpace_newline, skipSpace_cons rfl]
  | cons f fields ih =>
    obtain ⟨fuel, rfl⟩ := Nat.exists_eq_add_one_of_ne_zero (Nat.ne_zero_of_lt hfuel)
    obtain ⟨other, w⟩ := f
    obtain ⟨⟨hf, hread'⟩, hfields⟩ := List.forall_mem_cons.mp hfields
    simp only [renderFields, List.cons_append, List.append_assoc, List.nil_append, List.length_cons,
      List.length_append] at hfuel ⊢
    have hmore := @ih w other fuel hf hread' hfields (by omega)
    refine readFields_more hv hread (by omega) (skipSpace_cons rfl _) ?_
    rw [skipSpace_newline, skipSpace_renderText, hmore]

theorem reads_object (h : ∀ f ∈ fields, Numberless f.2 ∧ Reads charset f.2) :
    Reads charset (.object fields) := by
  intro level fuel rest hfuel
  obtain ⟨fuel, rfl⟩ : ∃ n, fuel = n + 1 :=
    Nat.exists_eq_add_one_of_ne_zero (by cases fields <;> simp [renderLines] at hfuel <;> omega)
  cases fields with
  | nil => rfl
  | cons f fields =>
    obtain ⟨name, v⟩ := f
    obtain ⟨⟨hv, hread⟩, hfields⟩ := List.forall_mem_cons.mp h
    simp only [renderLines, List.cons_append, List.append_assoc, List.nil_append, List.length_cons,
      List.length_append, List.length_nil] at hfuel ⊢
    have hall := @readFields_of_reads charset v fields name (level + 1) fuel hv hread hfields level
      rest
      (by omega)
    simp only [readValue, skipSpace_newline, skipSpace_renderText]
    split
    · next heq => exact absurd (List.cons.inj heq).1 (by decide)
    · rw [hall]
      rfl

/-- A value without numbers is read back from the front of any text that begins with it. -/
theorem Numberless.reads (h : Numberless v) (charset : Charset) : Reads charset v := by
  induction h with
  | null => exact reads_word (fun _ => rfl) (List.cons_ne_nil _ _) fun _ _ => rfl
  | bool b =>
    cases b
    · exact reads_word (fun _ => rfl) (List.cons_ne_nil _ _) fun _ _ => rfl
    · exact reads_word (fun _ => rfl) (List.cons_ne_nil _ _) fun _ _ => rfl
  | text s => exact reads_text s
  | array hitems ih => exact reads_array fun v hv => ⟨hitems v hv, ih v hv⟩
  | object hfields ih => exact reads_object fun f hf => ⟨hfields f hf, ih f hf⟩

/-- A document without numbers is read back as it was written. -/
theorem parse_renderDocument (h : Numberless v) (charset : Charset) :
    parse (renderDocument charset v) = .ok v := by
  have hread := h.reads charset 0 ((renderLines charset 0 v ++ ['\n']).length + 1) ['\n']
    (by rw [List.length_append]; omega)
  have hbreak : skipSpace ['\n'] = [] := rfl
  simp only [parse, renderDocument, String.toList_ofList, h.skipSpace_renderLines, hread, hbreak,
    if_true]

/-! ## Line breaks -/

theorem not_mem_return_hexDigits (width n : Nat) : '\r' ∉ Text.hexDigits width n := by
  have hdigit : ∀ d < 16, '\r' ≠ Text.hexDigit d := by decide
  induction width generalizing n with
  | zero => exact List.not_mem_nil
  | succ width ih => simp [Text.hexDigits, ih, hdigit (n % 16) (Nat.mod_lt _ (Nat.succ_pos 15))]

theorem not_mem_return_renderText (charset : Charset) (s : String) :
    '\r' ∉ renderText charset s := by
  have hchar (c : Char) : '\r' ∉ renderChar charset c := by
    have hrendered := rendered_renderChar charset c
    generalize renderChar charset c = cs at hrendered
    cases hrendered with
    | @short e _ h _ =>
      have hletter : e ≠ '\r' := by
        rintro rfl
        nomatch h
      simp [hletter.symm]
    | unit | pair => simp [unitEscape, not_mem_return_hexDigits]
    | plain _ _ hcontrol _ =>
      rw [List.mem_singleton]
      rintro rfl
      exact absurd hcontrol (by decide)
  simp [renderText, hchar]

theorem not_mem_return_newline (level : Nat) : '\r' ∉ newline level := by simp [newline]

theorem not_mem_return_renderItems (h : ∀ w ∈ vs, ∀ level, '\r' ∉ renderLines charset level w) :
    '\r' ∉ renderItems charset level vs := by
  induction vs with
  | nil => exact List.not_mem_nil
  | cons w vs ih =>
    rw [List.forall_mem_cons] at h
    simp [renderItems, not_mem_return_newline, h.1, ih h.2]

theorem not_mem_return_renderFields
    (h : ∀ f ∈ fields, ∀ level, '\r' ∉ renderLines charset level f.2) :
    '\r' ∉ renderFields charset level fields := by
  induction fields with
  | nil => exact List.not_mem_nil
  | cons f fields ih =>
    rw [List.forall_mem_cons] at h
    simp [renderFields, not_mem_return_newline, not_mem_return_renderText, h.1, ih h.2]

/-- No text of a value holds a carriage return, so reading it from a file changes no line break. -/
theorem Numberless.not_mem_return (h : Numberless v) (charset : Charset) (level : Nat) :
    '\r' ∉ renderLines charset level v := by
  induction h generalizing level with
  | null => simp [renderLines]
  | bool b => cases b <;> simp [renderLines]
  | text s => exact not_mem_return_renderText charset s
  | @array items _ ih =>
    cases items with
    | nil => simp [renderLines]
    | cons v vs =>
      rw [List.forall_mem_cons] at ih
      simp [renderLines, not_mem_return_newline, ih.1, not_mem_return_renderItems ih.2]
  | @object fields _ ih =>
    cases fields with
    | nil => simp [renderLines]
    | cons f fields =>
      rw [List.forall_mem_cons] at ih
      simp [renderLines, not_mem_return_newline, not_mem_return_renderText, ih.1,
        not_mem_return_renderFields ih.2]

end Values
end RetentionPlan.Json
