import Mathlib.Data.Fintype.Card
import Mathlib.Data.Set.Finite.List
import RetentionPlan.Proofs.Loading.Correspondence
import RetentionPlan.Source.Classpath

/-!
# Chains of re-exports

A name that a module imports from elsewhere is followed to where it comes from, and so on. Each hop
puts what was imported in place of the head of a name and keeps the rest, so a name may grow with
every hop, and no name need ever come back. A chain ends if and only if its names stay below some
length.
-/
namespace RetentionPlan.Source

open Loading (LoadError answer after)

/-- One look-up of a name, at all its cuts. -/
def look (w : Workspace) (roots : List Path) (name : String) :
    StateM Cache (Except LoadError Lead) :=
  (leadOf w roots name (cuts name)).run

/-- The names that were followed, and what the last one led to unless there were more. -/
structure Chain where
  names : List String
  outcome : Option (Except LoadError TypeDescriptor)

/-- The chain from a name on, cut off after some hops. -/
def chain (w : Workspace) (roots : List Path) :
    Nat → (visited : List String) → String → Cache → Chain
  | 0, _, _, _ => ⟨[], none⟩
  | hops + 1, visited, name, cache =>
    if name ∈ visited then ⟨[name], some (.error (.unresolved (.circularReexport name)))⟩
    else
      match answer (look w roots name) cache with
      | .error e => ⟨[name], some (.error e)⟩
      | .ok (.type d) => ⟨[name], some (.ok d)⟩
      | .ok (.elsewhere target) =>
        let rest := chain w roots hops (name :: visited) target (after (look w roots name) cache)
        ⟨name :: rest.names, rest.outcome⟩

variable {w : Workspace} {roots : List Path} {hops : Nat} {visited : List String} {name : String}
variable {cache : Cache}

/-- A chain that makes a hop passes the name that it starts from. -/
theorem mem_names_chain : name ∈ (chain w roots (hops + 1) visited name cache).names := by
  unfold chain
  split
  · exact List.mem_cons_self
  · rcases answer (look w roots name) cache with e | d | target <;> exact List.mem_cons_self

theorem answer_follow :
    answer (follow w roots hops visited name).run cache =
      (chain w roots hops visited name cache).outcome.getD (.error (.fault .endlessReexport)) := by
  induction hops generalizing visited name cache with
  | zero => rfl
  | succ hops ih =>
    have hstep : answer (follow w roots (hops + 1) visited name).run cache =
        if name ∈ visited then .error (.unresolved (.circularReexport name))
        else match answer (look w roots name) cache with
          | .error e => .error e
          | .ok (.type d) => .ok d
          | .ok (.elsewhere target) =>
            answer (follow w roots hops (name :: visited) target).run
              (after (look w roots name) cache) := by
      by_cases hname : name ∈ visited
      · simp only [follow, if_pos hname]
        rfl
      · simp only [follow, if_neg hname]
        rw [ExceptT.run_bind, ← look, Loading.answer_bind]
        rcases answer (look w roots name) cache with e | d | target <;> rfl
    rw [hstep]
    unfold chain
    split
    · rfl
    · rcases answer (look w roots name) cache with e | d | target
      · rfl
      · rfl
      · exact ih

theorem chain_of_ended {r : Except LoadError TypeDescriptor}
    (h : (chain w roots hops visited name cache).outcome = some r) {more : Nat}
    (hmore : hops ≤ more) :
    chain w roots more visited name cache = chain w roots hops visited name cache := by
  induction hops generalizing visited name cache more with
  | zero => simp [chain] at h
  | succ hops ih =>
    obtain ⟨more, rfl⟩ : ∃ n, more = n + 1 := ⟨more - 1, by omega⟩
    simp only [chain] at h ⊢
    by_cases hname : name ∈ visited
    · simp [hname]
    · simp only [if_neg hname] at h ⊢
      rcases hlook : answer (look w roots name) cache with e | d | target
      · rfl
      · rfl
      · simp only [hlook] at h ⊢
        rw [ih h (by omega)]

/-- Only the names that a chain passes are ever looked for among those passed before. -/
theorem chain_congr_visited {visited' : List String}
    (h : ∀ passed ∈ (chain w roots hops visited name cache).names, passed ∈ visited' ↔
      passed ∈ visited) :
    chain w roots hops visited' name cache = chain w roots hops visited name cache := by
  induction hops generalizing visited visited' name cache with
  | zero => rfl
  | succ hops ih =>
    have hname := h name mem_names_chain
    simp only [chain] at h ⊢
    by_cases hvisited : name ∈ visited
    · rw [if_pos hvisited, if_pos (hname.mpr hvisited)]
    · rw [if_neg hvisited, if_neg (mt hname.mp hvisited)]
      simp only [if_neg hvisited] at h
      rcases hlook : answer (look w roots name) cache with e | d | target
      · rfl
      · rfl
      · simp only [hlook, List.forall_mem_cons] at h ⊢
        have hrest : ∀ passed ∈
            (chain w roots hops (name :: visited) target (after (look w roots name) cache)).names,
            passed ∈ name :: visited' ↔ passed ∈ name :: visited := by
          intro passed hpassed
          rw [List.mem_cons, List.mem_cons, h.2 passed hpassed]
        rw [ih hrest]

/-- With more names to avoid a chain passes no more names. -/
theorem names_subset_of_visited {visited' : List String} (h : visited ⊆ visited') :
    (chain w roots hops visited' name cache).names ⊆
    (chain w roots hops visited name cache).names := by
  induction hops generalizing visited visited' name cache with
  | zero => exact List.nil_subset _
  | succ hops ih =>
    by_cases hvisited' : name ∈ visited'
    · have honly : (chain w roots (hops + 1) visited' name cache).names = [name] := by
        simp [chain, hvisited']
      rw [honly, List.cons_subset]
      exact ⟨mem_names_chain, List.nil_subset _⟩
    · simp only [chain, if_neg hvisited', if_neg (mt (@h name) hvisited')]
      rcases answer (look w roots name) cache with e | d | target
      · exact List.Subset.refl _
      · exact List.Subset.refl _
      · exact List.cons_subset_cons name (ih (List.cons_subset_cons name h))

/-- A chain that does not come back to a name has passed none of those that were passed before. -/
theorem not_mem_visited
    (h : ∀ back, (chain w roots hops visited name cache).outcome ≠
      some (.error (.unresolved (.circularReexport back)))) :
    ∀ passed ∈ (chain w roots hops visited name cache).names, passed ∉ visited := by
  induction hops generalizing visited name cache with
  | zero => simp [chain]
  | succ hops ih =>
    simp only [chain] at h ⊢
    by_cases hname : name ∈ visited
    · simp [hname] at h
    · simp only [if_neg hname] at h ⊢
      rcases hlook : answer (look w roots name) cache with e | d | target
      · simpa using hname
      · simpa using hname
      · simp only [hlook, List.forall_mem_cons] at h ⊢
        exact ⟨hname, fun passed hpassed hold =>
          ih h passed hpassed (List.mem_cons_of_mem name hold)⟩

/-- As long as a chain goes on, each hop passes another name. -/
theorem names_of_not_ended (h : (chain w roots hops visited name cache).outcome = none) :
    (chain w roots hops visited name cache).names.length = hops ∧
      (chain w roots hops visited name cache).names.Nodup := by
  induction hops generalizing visited name cache with
  | zero => simp [chain]
  | succ hops ih =>
    simp only [chain] at h ⊢
    by_cases hname : name ∈ visited
    · simp [hname] at h
    · simp only [if_neg hname] at h ⊢
      rcases hlook : answer (look w roots name) cache with e | d | target
      · simp [hlook] at h
      · simp [hlook] at h
      · simp only [hlook] at h ⊢
        obtain ⟨hlength, hnodup⟩ := ih h
        have hfresh := not_mem_visited fun back => by rw [h]; exact nofun
        refine ⟨by rw [List.length_cons, hlength], List.nodup_cons.mpr ⟨fun hback => ?_, hnodup⟩⟩
        exact hfresh name hback List.mem_cons_self

theorem finite_names (bound : Nat) : {name : String | name.length ≤ bound}.Finite := by
  have hchar : Finite Char := by
    refine Finite.of_injective (fun c : Char => (⟨c.toNat, c.val.toNat_lt⟩ : Fin (2 ^ 32))) ?_
    intro a b h
    exact Char.toNat_inj.mp (Fin.mk.inj h)
  have hlists : {l : List Char | l.length ≤ bound}.Finite := List.finite_length_le Char bound
  have hnames := hlists.preimage fun a _ b _ (h : String.toList a = String.toList b) =>
    String.toList_inj.mp h
  refine hnames.subset fun name hname => ?_
  show name.toList.length ≤ bound
  rwa [String.length_toList]

/-- More hops only add to the names of a chain. -/
theorem names_subset_names {more : Nat} (hmore : hops ≤ more) :
    (chain w roots hops visited name cache).names ⊆
    (chain w roots more visited name cache).names := by
  induction hops generalizing visited name cache more with
  | zero => exact List.nil_subset _
  | succ hops ih =>
    obtain ⟨more, rfl⟩ : ∃ n, more = n + 1 := ⟨more - 1, by omega⟩
    simp only [chain]
    split
    · exact List.Subset.refl _
    · rcases answer (look w roots name) cache with e | d | target
      · exact List.Subset.refl _
      · exact List.Subset.refl _
      · exact List.cons_subset_cons name (ih (by omega))

/-- A chain with names up to a length runs out of names that were not passed before. -/
theorem exists_ended_of_bounded {bound : Nat}
    (h : ∀ hops, ∀ passed ∈ (chain w roots hops [] name cache).names, passed.length ≤ bound) :
    ∃ hops r, (chain w roots hops [] name cache).outcome = some r := by
  by_contra hnone
  let available := (finite_names bound).toFinset
  let hops := available.card + 1
  have hgoing : (chain w roots hops [] name cache).outcome = none := by
    rw [Option.eq_none_iff_forall_ne_some]
    exact fun r hr => hnone ⟨hops, r, hr⟩
  obtain ⟨hlength, hnodup⟩ := names_of_not_ended hgoing
  have hsub : (chain w roots hops [] name cache).names.toFinset ⊆ available := by
    intro passed hpassed
    exact (finite_names bound).mem_toFinset.mpr (h hops passed (List.mem_toFinset.mp hpassed))
  have hcard : hops ≤ available.card := by
    rw [← hlength, ← List.toFinset_card_of_nodup hnodup]
    exact Finset.card_le_card hsub
  omega

theorem exists_bound_of_ended {r : Except LoadError TypeDescriptor}
    (h : (chain w roots hops [] name cache).outcome = some r) :
    ∃ bound, ∀ more, ∀ passed ∈ (chain w roots more [] name cache).names,
      passed.length ≤ bound := by
  obtain ⟨bound, hbound⟩ :=
    ((chain w roots hops [] name cache).names.map String.length).toFinset.bddAbove
  refine ⟨bound, fun more passed hpassed => hbound ?_⟩
  have hin : passed ∈ (chain w roots hops [] name cache).names := by
    rcases Nat.le_total more hops with hle | hle
    · exact names_subset_names hle hpassed
    · rwa [chain_of_ended h hle] at hpassed
  simpa using ⟨passed, hin, rfl⟩

/-- Following a name comes to a type or to an everyday failure within some number of hops if and
only if the names that it passes stay below some length and no look-up of one of them is cut short
by a fault. -/
theorem follow_ends_iff (w : Workspace) (roots : List Path) (name : String) (cache : Cache) :
    (∃ hops, (∃ d, answer (follow w roots hops [] name).run cache = .ok d) ∨
        ∃ why, answer (follow w roots hops [] name).run cache = .error (.unresolved why)) ↔
      (∃ bound, ∀ hops, ∀ passed ∈ (chain w roots hops [] name cache).names,
        passed.length ≤ bound) ∧
      ∀ hops fault, (chain w roots hops [] name cache).outcome ≠ some (.error (.fault fault)) := by
  constructor
  · rintro ⟨hops, hend⟩
    obtain ⟨r, hr, hgood⟩ : ∃ r, (chain w roots hops [] name cache).outcome = some r ∧
        ∀ fault, r ≠ .error (.fault fault) := by
      rw [answer_follow] at hend
      cases hr : (chain w roots hops [] name cache).outcome with
      | none => simp [hr] at hend
      | some r =>
        refine ⟨r, rfl, fun fault hfault => ?_⟩
        simp [hr, hfault] at hend
    refine ⟨exists_bound_of_ended hr, fun more fault hfault => hgood fault ?_⟩
    have hlong := chain_of_ended hr (Nat.le_max_left hops more)
    rw [← chain_of_ended hfault (Nat.le_max_right hops more), hlong, hr] at hfault
    exact Option.some.inj hfault
  · rintro ⟨⟨bound, hbound⟩, hfault⟩
    obtain ⟨hops, r, hr⟩ := exists_ended_of_bounded hbound
    refine ⟨hops, ?_⟩
    rw [answer_follow, hr]
    rcases r with (why | fault) | d
    · exact .inr ⟨why, rfl⟩
    · exact absurd hr (hfault hops fault)
    · exact .inl ⟨d, rfl⟩

end RetentionPlan.Source
