import RetentionPlan.Source.DottedName

/-!
# Cutting names at their dots

The parts of a name hold no dots, and joined by dots they make the name again. So the module's name
in a cut of a name has the first of the parts for its own.
-/
namespace RetentionPlan.Source

section
variable {α : Type} [BEq α] {a b : α} {xs part : List α}

theorem not_mem_of_mem_splitOn [LawfulBEq α] (h : part ∈ xs.splitOn a) : a ∉ part := by
  induction xs generalizing part with
  | nil => simp_all
  | cons x xs ih =>
    rw [List.splitOn_cons_eq_if_modifyHead] at h
    split at h
    · rcases List.mem_cons.mp h with rfl | h
      · exact List.not_mem_nil
      · exact ih h
    · next hx =>
      cases hs : xs.splitOn a with
      | nil => exact absurd hs (List.splitOn_ne_nil a xs)
      | cons first rest =>
        rw [hs, List.modifyHead_cons] at h
        rcases List.mem_cons.mp h with rfl | h
        · have hfirst : a ∉ first := ih (by simp [hs])
          simpa [hfirst] using fun heq : a = x => hx (by simp [heq])
        · exact ih (by simp [hs, h])

theorem mem_of_mem_splitOn (h : part ∈ xs.splitOn a) (hb : b ∈ part) : b ∈ xs := by
  induction xs generalizing part with
  | nil => simp_all
  | cons x xs ih =>
    rw [List.splitOn_cons_eq_if_modifyHead] at h
    split at h
    · rcases List.mem_cons.mp h with rfl | h
      · exact absurd hb List.not_mem_nil
      · exact List.mem_cons_of_mem _ (ih h hb)
    · cases hs : xs.splitOn a with
      | nil => exact absurd hs (List.splitOn_ne_nil a xs)
      | cons first rest =>
        rw [hs, List.modifyHead_cons] at h
        rcases List.mem_cons.mp h with rfl | h
        · rcases List.mem_cons.mp hb with rfl | hb
          · exact List.mem_cons_self
          · exact List.mem_cons_of_mem _ (ih (by simp [hs]) hb)
        · exact List.mem_cons_of_mem _ (ih (by simp [hs, h]) hb)

end

theorem dottedParts_ne_nil (name : String) : dottedParts name ≠ [] := by
  simp [dottedParts, List.splitOn_ne_nil]

theorem dot_not_mem_of_mem_dottedParts {name part : String} (h : part ∈ dottedParts name) :
    '.' ∉ part.toList := by
  obtain ⟨cs, hcs, rfl⟩ := List.mem_map.mp h
  rw [String.toList_ofList]
  exact not_mem_of_mem_splitOn hcs

theorem mem_of_mem_dottedParts {name part : String} {c : Char} (h : part ∈ dottedParts name)
    (hc : c ∈ part.toList) : c ∈ name.toList := by
  obtain ⟨cs, hcs, rfl⟩ := List.mem_map.mp h
  rw [String.toList_ofList] at hc
  exact mem_of_mem_splitOn hcs hc

@[simp]
theorem dotted_dottedParts (name : String) : dotted (dottedParts name) = name := by
  apply String.toList_inj.mp
  have hparts : (dottedParts name).map String.toList = name.toList.splitOn '.' := by
    simp [dottedParts, List.map_map, Function.comp_def]
  rw [dotted, String.toList_intercalate, hparts]
  exact List.intercalate_splitOn '.'

/-- A name made of parts without dots has these parts. -/
theorem dottedParts_dotted {parts : List String} (hne : parts ≠ [])
    (h : ∀ part ∈ parts, '.' ∉ part.toList) : dottedParts (dotted parts) = parts := by
  have hsplit : (dotted parts).toList.splitOn '.' = parts.map String.toList := by
    rw [dotted, String.toList_intercalate]
    exact List.splitOn_intercalate '.' (by simpa using h) (by simpa using hne)
  rw [dottedParts, hsplit]
  simp [List.map_map, Function.comp_def]

theorem dottedParts_of_dotless {name : String} (h : '.' ∉ name.toList) :
    dottedParts name = [name] := by
  have hparts := dottedParts_dotted (List.cons_ne_nil name []) (by simpa using h)
  rwa [dotted, String.intercalate_singleton] at hparts

/-- The parts of the module's name in a cut are some of the first parts of the name. -/
theorem exists_of_mem_cuts {name moduleName localName : String}
    (h : (moduleName, localName) ∈ cuts name) :
    ∃ k, k + 1 < (dottedParts name).length ∧
      dottedParts moduleName = (dottedParts name).take (k + 1) ∧
      dottedParts localName = (dottedParts name).drop (k + 1) := by
  simp only [cuts, List.mem_map, List.mem_reverse, List.mem_range, Prod.mk.injEq] at h
  obtain ⟨k, hk, rfl, rfl⟩ := h
  have hdots : ∀ part ∈ dottedParts name, '.' ∉ part.toList :=
    fun part hpart => dot_not_mem_of_mem_dottedParts hpart
  refine ⟨k, by omega, dottedParts_dotted ?_ ?_, dottedParts_dotted ?_ ?_⟩
  · simp [dottedParts_ne_nil]
  · exact fun part hpart => hdots part (List.mem_of_mem_take hpart)
  · rw [Ne, List.drop_eq_nil_iff]
    omega
  · exact fun part hpart => hdots part (List.mem_of_mem_drop hpart)

theorem dottedParts_append (first second : String) :
    dottedParts (first ++ "." ++ second) = dottedParts first ++ dottedParts second := by
  have hchars : (first ++ "." ++ second).toList = first.toList ++ '.' :: second.toList := by simp
  rw [dottedParts, hchars, List.splitOn_append_cons_self, List.map_append]
  rfl

theorem dotted_cons {part : String} {rest : List String} (h : rest ≠ []) :
    dotted (part :: rest) = part ++ "." ++ dotted rest := by
  obtain ⟨head, tail, rfl⟩ := List.exists_cons_of_ne_nil h
  exact String.intercalate_cons_cons ..

theorem dotted_append {first second : List String} (hfirst : first ≠ []) (hsecond : second ≠ []) :
    dotted (first ++ second) = dotted first ++ "." ++ dotted second := by
  induction first with
  | nil => contradiction
  | cons part rest ih =>
    rcases rest.eq_nil_or_concat with rfl | ⟨_, _, rfl⟩
    · simpa [dotted] using dotted_cons hsecond
    · rw [List.cons_append, dotted_cons (by simp), dotted_cons (by simp), ih (by simp)]
      simp [String.append_assoc]

theorem eq_of_mem_cuts {name moduleName localName : String}
    (h : (moduleName, localName) ∈ cuts name) :
    moduleName ++ "." ++ localName = name := by
  obtain ⟨k, hk, hmodule, hlocal⟩ := exists_of_mem_cuts h
  have hparts : dottedParts moduleName ++ dottedParts localName = dottedParts name := by
    rw [hmodule, hlocal, List.take_append_drop]
  rw [← dotted_dottedParts moduleName, ← dotted_dottedParts localName,
    ← dotted_append (dottedParts_ne_nil _) (dottedParts_ne_nil _), hparts, dotted_dottedParts]

/-- The cuts of a name below a module: those inside the lower name, then the one after the module,
then shorter ones. -/
theorem exists_cuts_append (moduleName localName : String) :
    ∃ shorter, cuts (moduleName ++ "." ++ localName) =
      (cuts localName).map (fun cut => (moduleName ++ "." ++ cut.1, cut.2)) ++
        (moduleName, localName) :: shorter := by
  have hmodule := dottedParts_ne_nil moduleName
  obtain ⟨a, ha⟩ : ∃ a, (dottedParts moduleName).length = a + 1 :=
    Nat.exists_eq_succ_of_ne_zero (by simpa using hmodule)
  obtain ⟨b, hb⟩ : ∃ b, (dottedParts localName).length = b + 1 :=
    Nat.exists_eq_succ_of_ne_zero (by simpa using dottedParts_ne_nil localName)
  let cut (k : Nat) : String × String :=
    (dotted ((dottedParts moduleName ++ dottedParts localName).take (k + 1)),
      dotted ((dottedParts moduleName ++ dottedParts localName).drop (k + 1)))
  have hcuts : cuts (moduleName ++ "." ++ localName) =
      ((List.range b).map (a + 1 + ·)).reverse.map cut ++ cut a ::
      (List.range a).reverse.map cut := by
    have hlength : a + 1 + (b + 1) - 1 = a + 1 + b := by omega
    simp [cuts, cut, dottedParts_append, ha, hb, hlength, List.range_add, List.range_succ]
  have hhere : cut a = (moduleName, localName) := by
    simp [cut, ← ha]
  have hinside (k : Nat) : cut (a + 1 + k) =
      (moduleName ++ "." ++ dotted ((dottedParts localName).take (k + 1)),
        dotted ((dottedParts localName).drop (k + 1))) := by
    have hlength : a + 1 + k + 1 = (dottedParts moduleName).length + (k + 1) := by omega
    have htake : (dottedParts localName).take (k + 1) ≠ [] := by simp [dottedParts_ne_nil]
    simp only [cut, hlength, List.take_length_add_append, List.drop_length_add_append]
    rw [dotted_append hmodule htake, dotted_dottedParts]
  refine ⟨(List.range a).reverse.map cut, ?_⟩
  rw [hcuts, hhere]
  simp [cuts, hb, hinside, Function.comp_def]

theorem exists_first_part {name : String} (hne : name ≠ "") (h : name.toList.head? ≠ some '.') :
    ∃ first rest, dottedParts name = first :: rest ∧ first ≠ "" := by
  cases hname : name.toList with
  | nil => exact absurd (String.toList_eq_nil_iff.mp hname) hne
  | cons c cs =>
    have hc : ¬ c == '.' := by
      simpa [hname] using h
    cases hrest : cs.splitOn '.' with
    | nil => exact absurd hrest (List.splitOn_ne_nil '.' cs)
    | cons first rest =>
      refine ⟨String.ofList (c :: first), rest.map String.ofList, ?_, ?_⟩
      · rw [dottedParts, hname, List.splitOn_cons_eq_if_modifyHead, if_neg hc, hrest]
        rfl
      · exact fun h => List.cons_ne_nil c first (String.ofList_eq_empty_iff.mp h)

end RetentionPlan.Source
