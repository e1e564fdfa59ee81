import RetentionPlan.Unicode.Lowercase

/-!
# Lower case of ASCII texts

The table of lower-case partners begins with the capital letters of ASCII, and all its other runs
begin above ASCII. So texts of ASCII have the lower case that the standard library gives them.
-/
namespace RetentionPlan.Unicode

/-- The numbers of a table's text from the first to the last; `open?` is the number under way. -/
def numbersFrom (open? : Option Nat) : List Char → List Nat
  | [] => open?.toList
  | c :: cs =>
    match hexDigit? c, open? with
    | some d, some n => numbersFrom (some (16 * n + d)) cs
    | some d, none => numbersFrom (some d) cs
    | none, some n => n :: numbersFrom none cs
    | none, none => numbersFrom none cs

theorem toList_foldl_readNumber (cs : List Char) (state : Array Nat × Option Nat) :
    (readNumber (cs.foldl readNumber state) ' ').1.toList =
      state.1.toList ++ numbersFrom state.2 cs := by
  induction cs generalizing state with
  | nil =>
    obtain ⟨read, _ | n⟩ := state
    · exact (List.append_nil _).symm
    · exact Array.toList_push
  | cons c cs ih =>
    rw [List.foldl_cons, ih]
    obtain ⟨read, _ | n⟩ := state <;> cases hdigit : hexDigit? c <;>
      simp [readNumber, numbersFrom, hdigit]

theorem toList_numbers (text : String) : (numbers text).toList = numbersFrom none text.toList :=
  toList_foldl_readNumber text.toList (#[], none)

/-- Do all runs begin above ASCII? -/
def aboveAscii : List Nat → Bool
  | first :: _ :: _ :: _ :: rest => 0x80 ≤ first && aboveAscii rest
  | _ => true

/-- Are the capital letters of ASCII the first run, and do all others begin above ASCII? -/
def capitalsFirst : List Nat → Bool
  | 0x41 :: 0x1a :: 1 :: 0x40 :: rest => aboveAscii rest
  | _ => false

set_option maxRecDepth 4000 in
theorem capitalsFirst_lowercaseRuns : capitalsFirst lowercaseRuns.toList = true := by
  rw [lowercaseRuns, toList_numbers, String.toList_ofList]
  decide +kernel

theorem le_getD_of_aboveAscii {runs : List Nat} (h : aboveAscii runs = true) {i : Nat}
    (hi : i < runs.length / 4) : 0x80 ≤ runs.getD (4 * i) 0 := by
  induction runs using aboveAscii.induct generalizing i with
  | case1 first _ _ _ rest ih =>
    simp only [aboveAscii, Bool.and_eq_true, decide_eq_true_eq] at h
    cases i with
    | zero => exact h.1
    | succ i =>
      have hrest : i < rest.length / 4 := by
        simp only [List.length_cons] at hi
        omega
      exact ih h.2 hrest
  | case2 runs hshort =>
    match runs, hshort with
    | [], _ | [_], _ | [_, _], _ | [_, _, _], _ => simp at hi
    | _ :: _ :: _ :: _ :: _, hshort => exact (hshort _ _ _ _ _ rfl).elim

def runAt (runs : List Nat) (i : Nat) : Nat × Nat × Nat × Nat :=
  (runs.getD (4 * i) 0, runs.getD (4 * i + 1) 0, runs.getD (4 * i + 2) 1, runs.getD (4 * i + 3) 0)

theorem exists_above_of_capitalsFirst {runs : List Nat} (h : capitalsFirst runs = true) :
    ∃ rest, (List.range (runs.length / 4)).map (runAt runs) = (0x41, 0x1a, 1, 0x40) :: rest ∧
      ∀ run ∈ rest, 0x80 ≤ run.1 := by
  unfold capitalsFirst at h
  split at h
  · next rest =>
    have hlength : (0x41 :: 0x1a :: 1 :: 0x40 :: rest).length / 4 = rest.length / 4 + 1 := by
      simp only [List.length_cons]
      omega
    rw [hlength, List.range_succ_eq_map, List.map_cons, List.map_map]
    refine ⟨_, rfl, fun run hrun => ?_⟩
    obtain ⟨i, hi, rfl⟩ := List.mem_map.mp hrun
    exact le_getD_of_aboveAscii h (List.mem_range.mp hi)
  · cases h

theorem toList_map_runAt (runs : Array Nat) :
    ((List.range (runs.size / 4)).toArray.map fun i =>
      (runs.getD (4 * i) 0, runs.getD (4 * i + 1) 0, runs.getD (4 * i + 2) 1,
        runs.getD (4 * i + 3) 0)).toList =
    (List.range (runs.toList.length / 4)).map (runAt runs.toList) := by
  unfold runAt
  simp [Array.getD_eq_getD_getElem?]

theorem exists_above : ∃ rest, lowercaseTable.toList = (0x41, 0x1a, 1, 0x40) :: rest ∧
    ∀ run ∈ rest, 0x80 ≤ run.1 := by
  rw [lowercaseTable, toList_map_runAt]
  exact exists_above_of_capitalsFirst capitalsFirst_lowercaseRuns

theorem partner_of_ascii {table : Array (Nat × Nat × Nat × Nat)}
    {rest : List (Nat × Nat × Nat × Nat)}
    (htable : table.toList = (0x41, 0x1a, 1, 0x40) :: rest) (hrest : ∀ run ∈ rest, 0x80 ≤ run.1)
    {c : Char} (h : c.toNat < 0x80) : partner table c = c.toLower := by
  have hlow : ∀ n < 0x80, (if 0x41 ≤ n ∧ n ≤ 0x5a then Char.ofNat (n + 0x20) else Char.ofNat n) =
      (Char.ofNat n).toLower := by decide +kernel
  have hc := hlow c.toNat h
  rw [Char.ofNat_toNat] at hc
  have hnone {covers : Nat × Nat × Nat × Nat → Bool}
      (hcovers : ∀ run, covers run = true → run.1 ≤ c.toNat) : rest.find? covers = none := by
    refine List.find?_eq_none.mpr fun run hrun hcovered => ?_
    have habove := hrest run hrun
    have hfirst := hcovers run hcovered
    omega
  unfold partner
  dsimp only
  rw [← Array.find?_toList, htable, ← hc, List.find?_cons, hnone fun run => by
    simp +contextual]
  by_cases hcapital : 0x41 ≤ c.toNat ∧ c.toNat ≤ 0x5a
  · simp [hcapital, Nat.mod_one]
  · have hfirst : (decide (0x41 ≤ c.toNat) && decide (c.toNat ≤ 0x41 + (0x1a - 1) * 1) &&
        (c.toNat - 0x41) % 1 == 0) = false := by
      simpa [Nat.mod_one] using hcapital
    simp only [hfirst, if_neg hcapital]

theorem lowerChar_of_ascii {c : Char} (h : c.toNat < 0x80) : lowerChar c = c.toLower := by
  obtain ⟨rest, htable, hrest⟩ := exists_above
  exact partner_of_ascii htable hrest h

/-- Texts of ASCII have the lower case of the standard library. -/
theorem lowercase_of_ascii {s : String} (h : ∀ c ∈ s.toList, c.toNat < 0x80) :
    lowercase s = s.toLower := by
  have hchars (before cs : List Char) (hcs : ∀ c ∈ cs, c.toNat < 0x80) :
      lowerChars before cs = cs.map Char.toLower := by
    induction cs generalizing before with
    | nil => rfl
    | cons c cs ih =>
      rw [List.forall_mem_cons] at hcs
      have hsigma : c ≠ '\u03a3' := fun heq => absurd hcs.1 (heq ▸ by decide)
      have hdotted : c ≠ '\u0130' := fun heq => absurd hcs.1 (heq ▸ by decide)
      rw [lowerChars, if_neg hsigma, if_neg hdotted, lowerChar_of_ascii hcs.1, ih _ hcs.2]
      rfl
  rw [lowercase, hchars [] _ h, ← String.toList_inj, String.toList_ofList]
  exact String.toList_map.symm

end RetentionPlan.Unicode
