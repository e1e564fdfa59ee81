import RetentionPlan.Proofs.Source.Straight

/-!
# Names with a leading dot

Cut after its first dot a name with a leading dot leaves a module without a name, which no path
stands for. So where no longer cut of such a name leads anywhere, the look-up meets a fault. It
never ends in the everyday failure that scans pass over.
-/
namespace RetentionPlan.Source

open Loading (Ensures answer after)

/-- The last cut of a name with a leading dot leaves no name for the module. -/
theorem exists_last_cut {name : String} (h : name.toList.head? = some '.') :
    ∃ longer localName, cuts name = longer ++ [("", localName)] := by
  obtain ⟨cs, hname⟩ : ∃ cs, name.toList = '.' :: cs := by
    cases hname : name.toList with
    | nil => simp [hname] at h
    | cons c cs =>
      rw [hname, List.head?_cons, Option.some.injEq] at h
      exact ⟨cs, by rw [h]⟩
  obtain ⟨part, rest, hrest⟩ := List.exists_cons_of_ne_nil (List.splitOn_ne_nil '.' cs)
  have hparts : dottedParts name = "" :: String.ofList part :: rest.map String.ofList := by
    rw [dottedParts, hname, List.splitOn_cons_eq_if_modifyHead, if_pos (by rfl), hrest]
    rfl
  simp only [cuts, hparts, List.length_cons, Nat.add_sub_cancel, List.range_succ_eq_map,
    List.reverse_cons, List.map_append, List.map_cons, List.map_nil]
  exact ⟨_, _, rfl⟩

variable {w : Workspace} {roots : List Path} {α : Type}

/-- Does a query never end in an everyday failure? -/
abbrev NeverUnresolved (x : Load α) : Prop := FailsOnly (fun e => ∃ cause, e = .fault cause) x

namespace NeverUnresolved

theorem fault (e : Loading.Fault) : NeverUnresolved (throw (.fault e) : Load α) := .throw ⟨e, rfl⟩

theorem ne {x : Load α} (h : NeverUnresolved x) (cache : Cache) (why : Loading.Unresolved) :
    answer x.run cache ≠ .error (.unresolved why) := by
  intro he
  obtain ⟨cause, hcause⟩ := h cache _ he
  cases hcause

theorem accessible (r : Except FileError α) : NeverUnresolved (accessible r) := by
  cases r with
  | error e => exact fault _
  | ok a => exact .pure a

theorem module? (path root : Path) : NeverUnresolved (module? w path root) := by
  unfold Source.module? NeverUnresolved FailsOnly
  rw [ExceptT.run_tryCatch]
  refine .bind_any fun r => ?_
  rcases r with (why | e) | found
  · exact .pure fun e he => by cases he
  · exact fault e
  · exact .pure fun e he => by cases he

theorem findModule (name : String) : NeverUnresolved (findModule w name roots) := by
  induction roots with
  | nil => exact .pure none
  | cons root rest ih =>
    unfold Source.findModule
    refine (accessible _).bind fun isFile => ?_
    split_ifs
    · exact module? _ _
    · exact ih
    · dsimp only
      cases (Path.ofStrings (dottedParts name)).withSuffix ".py" with
      | error e => exact fault _
      | ok file =>
        refine (accessible _).bind fun isFile => ?_
        split_ifs
        · exact module? _ _
        · refine (accessible _).bind fun isFile => ?_
          split_ifs
          · exact module? _ _
          · exact ih

end NeverUnresolved

/-- The search for a module without a name ends at the first root that is no file. -/
theorem findModule_empty (h : ∃ root ∈ roots, w.isFile root ≠ .ok true) (cache : Cache) :
    ∃ e, answer (findModule w "" roots).run cache = .error (.fault e) := by
  induction roots with
  | nil => simp at h
  | cons root rest ih =>
    unfold findModule
    rcases hroot : w.isFile root with e | _ | _
    · exact ⟨_, rfl⟩
    · exact ⟨_, rfl⟩
    · have hstem : (root.suffix = ".py" && root.stem = "") = false := by
        by_cases hsuffix : root.suffix = ".py"
        · simpa [hsuffix] using Path.stem_ne_empty (p := root) (by simp [hsuffix])
        · simp [hsuffix]
      have hlater : ∃ root ∈ rest, w.isFile root ≠ .ok true := by
        simpa [hroot] using h
      simpa [accessible, hstem] using ih hlater

/-- Where the last of some cuts leaves no name for the module, a look-up at these cuts never ends in
an everyday failure. -/
theorem neverUnresolved_leadOf {name localName : String}
    (h : ∃ root ∈ roots, w.isFile root ≠ .ok true) (longer : List (String × String)) :
    NeverUnresolved (leadOf w roots name (longer ++ [("", localName)])) := by
  induction longer with
  | nil =>
    intro cache why hwhy
    obtain ⟨e, he⟩ := findModule_empty h cache
    have hlook : answer (leadOf w roots name [("", localName)]).run cache = .error (.fault e) := by
      unfold leadOf
      rw [ExceptT.run_bind, Loading.answer_bind, he]
      rfl
    rw [List.nil_append, hlook] at hwhy
    exact ⟨e, (Except.error.inj hwhy).symm⟩
  | cons cut rest ih =>
    obtain ⟨moduleName, localName⟩ := cut
    refine (NeverUnresolved.findModule moduleName).bind fun found => ?_
    cases found.bind (·.lead? name localName) with
    | some lead => exact .pure lead
    | none => exact ih

/-- The everyday failure of a look-up is about the name that is looked up. -/
theorem eq_of_leadOf_unresolved {name : String} {cuts : List (String × String)} {cache : Cache}
    {why : Loading.Unresolved}
    (h : answer (leadOf w roots name cuts).run cache = .error (.unresolved why)) :
    why = .notOnClasspath name := by
  induction cuts generalizing cache with
  | nil => exact (Loading.LoadError.unresolved.inj (Except.error.inj h)).symm
  | cons cut rest ih =>
    obtain ⟨moduleName, localName⟩ := cut
    unfold leadOf at h
    rw [ExceptT.run_bind, Loading.answer_bind] at h
    have hfind : NeverUnresolved (findModule w moduleName roots) := .findModule moduleName
    rcases hfound : answer (findModule w moduleName roots).run cache with (why' | e) | found <;>
      rw [hfound] at h
    · exact absurd hfound (hfind.ne cache why')
    · cases h
    · dsimp only at h
      cases hlead : found.bind (·.lead? name localName) with
      | some lead =>
        rw [hlead] at h
        cases h
      | none =>
        rw [hlead] at h
        exact ih h

/-- No name with a leading dot is told to be missing from a classpath that has more than files for
its roots: where it is not found, looking it up meets a fault. -/
theorem follow_ne_notOnClasspath (h : ∃ root ∈ roots, w.isFile root ≠ .ok true) {hops : Nat}
    {visited : List String} {name missing : String} {cache : Cache}
    (hmissing : missing.toList.head? = some '.') :
    answer (follow w roots hops visited name).run cache ≠
      .error (.unresolved (.notOnClasspath missing)) := by
  rw [answer_follow]
  induction hops generalizing visited name cache with
  | zero => simp [chain]
  | succ hops ih =>
    unfold chain
    split_ifs
    · simp
    · rcases hlook : answer (look w roots name) cache with (why | e) | d | target
      · -- The failure is about the name itself, whose last cut leaves no name for the module.
        intro heq
        obtain rfl : why = .notOnClasspath missing := by simpa using heq
        obtain rfl : missing = name := by simpa using eq_of_leadOf_unresolved hlook
        obtain ⟨longer, localName, hcuts⟩ := exists_last_cut hmissing
        rw [look, hcuts] at hlook
        exact (neverUnresolved_leadOf h longer).ne cache _ hlook
      · simp
      · simp
      · exact ih

end RetentionPlan.Source
