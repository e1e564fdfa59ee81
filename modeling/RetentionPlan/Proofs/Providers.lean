import Mathlib.Data.List.Forall2
import RetentionPlan.Proofs.Unicode.Ascii
import RetentionPlan.Providers

/-!
# Which providers are asked

Of several providers with one name the first is asked, if the name is enabled. They are asked in the
order in which they are installed, up to the first that gives no rules, and names that no provider
has are only complained about when there is none such. The order of the enabled names, their case
and repetitions among them do not matter.
-/
namespace RetentionPlan.Provider

variable {p : Provider} {rules : RuleSet} {e : ProviderError}
  {providers before chosen rest : List Provider}
  {sets : List RuleSet} {enabled : Option (List String)}

/-! ## Loading -/

/-- A provider offers rules, or a function that returns some. -/
inductive Gives : Provider → RuleSet → Prop
  | rules (name : String) (rules : RuleSet) : Gives ⟨name, .rules rules⟩ rules
  | factory (name : String) (rules : RuleSet) : Gives ⟨name, .factory (some rules)⟩ rules

/-- Loading a provider fails, or comes to something that is no rule set. -/
inductive Fails : Provider → ProviderError → Prop
  | broken (name why : String) : Fails ⟨name, .broken why⟩ (.broken name why)
  | unfit (name : String) : Fails ⟨name, .unfit⟩ (.unfit name)
  | factory (name : String) : Fails ⟨name, .factory none⟩ (.unfit name)

theorem ruleSet_of_gives (h : p.Gives rules) : p.ruleSet = .ok rules := by
  cases h <;> rfl

theorem ruleSet_of_fails (h : p.Fails e) : p.ruleSet = .error e := by
  cases h <;> rfl

theorem gives_or_fails (p : Provider) : (∃ rules, p.Gives rules) ∨ ∃ e, p.Fails e := by
  obtain ⟨name, rules | (_ | rules) | _ | why⟩ := p
  · exact .inl ⟨rules, .rules name rules⟩
  · exact .inr ⟨_, .factory name⟩
  · exact .inl ⟨rules, .factory name rules⟩
  · exact .inr ⟨_, .unfit name⟩
  · exact .inr ⟨_, .broken name why⟩

/-- What providers that give rules add to what loading the others comes to. -/
theorem loadAll_append_of_gives (h : List.Forall₂ Gives before sets) :
    loadAll (before ++ rest) =
      ((loadAll rest).1.map (sets ++ ·),
        List.zipWith loadedRecord before sets ++ (loadAll rest).2) := by
  induction h with
  | nil => cases hrest : (loadAll rest).1 <;> simp [hrest, Except.map, Prod.ext_iff]
  | @cons p rules before sets hgives hbefore ih =>
    rw [List.cons_append, loadAll, ruleSet_of_gives hgives]
    simp only [ih]
    cases (loadAll rest).1 <;> rfl

theorem loadAll_of_gives (h : List.Forall₂ Gives chosen sets) :
    loadAll chosen = (.ok sets, List.zipWith loadedRecord chosen sets) := by
  have hloaded : loadAll (chosen ++ []) = _ := loadAll_append_of_gives h
  simpa [loadAll, Except.map] using hloaded

theorem loadAll_of_fails (h : List.Forall₂ Gives before sets) (hfails : p.Fails e) :
    loadAll (before ++ p :: rest) = (.error e, List.zipWith loadedRecord before sets) := by
  have hstop : loadAll (p :: rest) = (.error e, []) := by
    rw [loadAll, ruleSet_of_fails hfails]
  rw [loadAll_append_of_gives h, hstop, List.append_nil]
  rfl

/-- Either all providers give rules or there is a first one that fails. -/
theorem all_give_or_one_fails (chosen : List Provider) : (∃ sets, List.Forall₂ Gives chosen sets) ∨
    ∃ before p rest sets e, chosen = before ++ p :: rest ∧ List.Forall₂ Gives before sets ∧
      p.Fails e := by
  induction chosen with
  | nil => exact .inl ⟨[], .nil⟩
  | cons p chosen ih =>
    rcases gives_or_fails p with ⟨rules, hgives⟩ | ⟨e, hfails⟩
    · rcases ih with ⟨sets, hsets⟩ | ⟨before, q, rest, sets, e, rfl, hbefore, hfails⟩
      · exact .inl ⟨rules :: sets, .cons hgives hsets⟩
      · exact .inr ⟨p :: before, q, rest, rules :: sets, e, rfl, .cons hgives hbefore, hfails⟩
    · exact .inr ⟨[], p, chosen, [], e, rfl, .nil, hfails⟩

/-! ## Choosing -/

/-- The names that are looked for: the enabled ones in lower case. -/
def keysOf (enabled : Option (List String)) : List String := (enabled.getD []).map Unicode.lowercase

def lowerNames (providers : List Provider) : List String :=
  providers.map fun p => Unicode.lowercase p.name

/-- Is a provider enabled? Without a list of names all are. -/
def IsEnabled (enabled : Option (List String)) (p : Provider) : Prop :=
  enabled = none ∨ Unicode.lowercase p.name ∈ keysOf enabled

instance (enabled : Option (List String)) (p : Provider) : Decidable (p.IsEnabled enabled) :=
  inferInstanceAs (Decidable (_ ∨ _))

/-- Are these the first providers of the enabled names, in the order in which they are installed? -/
structure FirstEnabled (providers : List Provider) (enabled : Option (List String))
    (chosen : List Provider) : Prop where
  mem_iff (p : Provider) : p ∈ chosen ↔
    providers.find? (fun q => Unicode.lowercase q.name = Unicode.lowercase p.name) = some p ∧
    p.IsEnabled enabled
  ordered : chosen.Pairwise fun p q =>
    (lowerNames providers).idxOf (Unicode.lowercase p.name) <
      (lowerNames providers).idxOf (Unicode.lowercase q.name)

def chosenOf (providers : List Provider) (enabled : Option (List String)) : List Provider :=
  considered (enabled.map fun names => names.map Unicode.lowercase) providers

theorem firsts_eq (seen : List String) (providers : List Provider) :
    considered.firsts seen providers = (distinctBy key providers).filter fun p =>
      decide (p.key ∉ seen) := by
  induction providers generalizing seen with
  | nil => rfl
  | cons p rest ih =>
    by_cases hseen : p.key ∈ seen
    · rw [considered.firsts, if_pos hseen, ih, distinctBy,
        List.filter_cons_of_neg (by simpa using hseen), List.filter_filter]
      refine List.filter_congr fun q _ => ?_
      by_cases hq : q.key = p.key <;> simp [hq, hseen]
    · rw [considered.firsts, if_neg hseen, ih, distinctBy,
        List.filter_cons_of_pos (by simpa using hseen), List.filter_filter]
      congr 1
      refine List.filter_congr fun q _ => ?_
      simp [not_or, Bool.and_comm]

theorem chosenOf_eq (providers : List Provider) (enabled : Option (List String)) :
    chosenOf providers enabled = (distinctBy key providers).filter fun p =>
      decide (p.IsEnabled enabled) := by
  have hall (as : List Provider) : as.filter (fun p => decide (p.key ∉ [])) = as := by simp
  have hkey (p q : Provider) (h : p.key = q.key) :
      decide (p.IsEnabled enabled) = decide (q.IsEnabled enabled) :=
    decide_eq_decide.mpr (by rw [IsEnabled, IsEnabled, ← key, h, key])
  rw [chosenOf, considered, firsts_eq, hall, ← distinctBy_filter hkey]
  congr 1
  refine List.filter_congr fun p _ => ?_
  cases enabled <;> simp [IsEnabled, keysOf, key]

theorem firstEnabled_chosenOf (providers : List Provider) (enabled : Option (List String)) :
    FirstEnabled providers enabled (chosenOf providers enabled) := by
  rw [chosenOf_eq]
  constructor
  · intro p
    change _ ↔ providers.find? (·.key = p.key) = some p ∧ p.IsEnabled enabled
    rw [List.mem_filter, mem_distinctBy_iff, decide_eq_true_iff]
  · have hkeys := pairwise_idxOf_distinct (lowerNames providers)
    have hall : distinct (lowerNames providers) = (distinctBy key providers).map key :=
      (map_distinctBy key providers).symm
    rw [hall, List.pairwise_map] at hkeys
    exact hkeys.sublist List.filter_sublist

/-- There is but one list of the first providers of the enabled names. -/
theorem FirstEnabled.eq_chosenOf (h : FirstEnabled providers enabled chosen) :
    chosen = chosenOf providers enabled := by
  have hchosen := firstEnabled_chosenOf providers enabled
  exact eq_of_pairwise_of_mem_iff Nat.lt_asymm h.ordered hchosen.ordered fun p =>
    (h.mem_iff p).trans (hchosen.mem_iff p).symm

/-- Of each enabled name that some provider has, a provider is asked. -/
theorem mem_map_key_chosenOf {key : String} (h : key ∈ keysOf enabled) :
    key ∈ (chosenOf providers enabled).map Provider.key ↔ key ∈ lowerNames providers := by
  have hall : key ∈ (distinctBy Provider.key providers).map Provider.key ↔
      key ∈ lowerNames providers :=
    mem_map_distinctBy
  rw [← hall, chosenOf_eq]
  simp only [List.mem_map, List.mem_filter, decide_eq_true_eq]
  constructor
  · rintro ⟨p, ⟨hp, -⟩, rfl⟩
    exact ⟨p, hp, rfl⟩
  · rintro ⟨p, hp, rfl⟩
    exact ⟨p, ⟨hp, .inr h⟩, rfl⟩

/-! ## Outcomes -/

/-- How asking the chosen providers ends when certain names are looked for, and what is logged. -/
inductive Discovers (providers : List Provider) (keys : List String) (chosen : List Provider) :
    Except ProviderError (List RuleSet) × Journal → Prop
  | found (sets : List RuleSet) (all_give : List.Forall₂ Gives chosen sets)
      (known : ∀ key ∈ keys, key ∈ lowerNames providers) :
      Discovers providers keys chosen (.ok sets, List.zipWith loadedRecord chosen sets)
  | failed (before rest : List Provider) (p : Provider) (sets : List RuleSet) (e : ProviderError)
      (chosen_eq : chosen = before ++ p :: rest) (before_give : List.Forall₂ Gives before sets)
      (fails : p.Fails e) :
      Discovers providers keys chosen (.error e, List.zipWith loadedRecord before sets)
  | unknown (sets : List RuleSet) (names : List String) (all_give : List.Forall₂ Gives chosen sets)
      (sorted : names.Pairwise (· < ·)) (nonempty : names ≠ [])
      (mem_iff : ∀ key, key ∈ names ↔ key ∈ keys ∧ key ∉ lowerNames providers) :
      Discovers providers keys chosen
        (.error (.unknown names), List.zipWith loadedRecord chosen sets)

/-- The names that no provider has, sorted. -/
def missingOf (providers : List Provider) (enabled : Option (List String)) : List String :=
  sortedTexts (distinct ((keysOf enabled).filter fun key => decide (key ∉ lowerNames providers)))

theorem mem_missingOf {key : String} :
    key ∈ missingOf providers enabled ↔ key ∈ keysOf enabled ∧ key ∉ lowerNames providers := by
  rw [missingOf, sortedTexts, List.mem_mergeSort, mem_distinct, List.mem_filter, decide_eq_true_iff]

theorem pairwise_lt_missingOf (providers : List Provider) (enabled : Option (List String)) :
    (missingOf providers enabled).Pairwise (· < ·) := pairwise_lt_sortedTexts (nodup_distinct _)

/-- There is but one sorted list of the names that no provider has. -/
theorem eq_missingOf {names : List String} (hsorted : names.Pairwise (· < ·))
    (hmem : ∀ key, key ∈ names ↔ key ∈ keysOf enabled ∧ key ∉ lowerNames providers) :
    names = missingOf providers enabled :=
  eq_of_pairwise_of_mem_iff String.lt_asymm hsorted (pairwise_lt_missingOf providers enabled)
    fun key =>
    (hmem key).trans mem_missingOf.symm

theorem discover_eq (providers : List Provider) (enabled : Option (List String)) :
    discover providers enabled = match loadAll (chosenOf providers enabled) with
      | (.error e, journal) => (.error e, journal)
      | (.ok sets, journal) => match missingOf providers enabled with
        | [] => (.ok sets, journal)
        | names => (.error (.unknown names), journal) := by
  have hmissing : ((keysOf enabled).filter fun key =>
      !((chosenOf providers enabled).map Provider.key).contains key) =
      (keysOf enabled).filter fun key => decide (key ∉ lowerNames providers) := by
    refine List.filter_congr fun key hkey => ?_
    rw [Bool.eq_iff_iff, Bool.not_eq_true', List.contains_eq_mem, decide_eq_false_iff_not,
      decide_eq_true_iff, mem_map_key_chosenOf hkey]
  have hkeys : (enabled.map fun names => names.map Unicode.lowercase).getD [] = keysOf enabled := by
    cases enabled <;> rfl
  rw [missingOf, ← hmissing, ← hkeys]
  rfl

theorem discover_of_gives (h : List.Forall₂ Gives (chosenOf providers enabled) sets) :
    discover providers enabled = (if missingOf providers enabled = [] then .ok sets
      else .error (.unknown (missingOf providers enabled)),
        List.zipWith loadedRecord (chosenOf providers enabled) sets) := by
  rw [discover_eq, loadAll_of_gives h]
  cases missingOf providers enabled <;> rfl

theorem discover_of_discovers {found : Except ProviderError (List RuleSet) × Journal}
    (h : Discovers providers (keysOf enabled) (chosenOf providers enabled) found) :
    discover providers enabled = found := by
  cases h with
  | found sets hgive hknown =>
    have hnone : missingOf providers enabled = [] :=
      List.eq_nil_iff_forall_not_mem.mpr fun key hkey =>
        (mem_missingOf.mp hkey).2 (hknown key (mem_missingOf.mp hkey).1)
    rw [discover_of_gives hgive, if_pos hnone]
  | failed before rest p sets e hchosen hgive hfails =>
    rw [discover_eq, hchosen, loadAll_of_fails hgive hfails]
  | unknown sets names hgive hsorted hnonempty hmem =>
    obtain rfl := eq_missingOf hsorted hmem
    rw [discover_of_gives hgive, if_neg hnonempty]

theorem exists_discovers (providers : List Provider) (enabled : Option (List String)) :
    ∃ found, Discovers providers (keysOf enabled) (chosenOf providers enabled) found := by
  rcases all_give_or_one_fails (chosenOf providers enabled) with
    ⟨sets, hgive⟩ | ⟨before, p, rest, sets, e, hchosen, hgive, hfails⟩
  · by_cases hnone : missingOf providers enabled = []
    · refine ⟨_, .found sets hgive fun key hkey => ?_⟩
      by_contra hnot
      exact List.not_mem_nil (hnone ▸ mem_missingOf.mpr ⟨hkey, hnot⟩)
    · exact ⟨_, .unknown sets _ hgive (pairwise_lt_missingOf providers enabled) hnone fun key =>
        mem_missingOf⟩
  · exact ⟨_, .failed before rest p sets e hchosen hgive hfails⟩

theorem discover_eq_iff {found : Except ProviderError (List RuleSet) × Journal} :
    discover providers enabled = found ↔
      Discovers providers (keysOf enabled) (chosenOf providers enabled) found := by
  refine ⟨?_, discover_of_discovers⟩
  rintro rfl
  obtain ⟨found, hfound⟩ := exists_discovers providers enabled
  rwa [discover_of_discovers hfound]

/-- Names count by what they are in lower case; their order and repetitions do not show. -/
theorem discover_congr {names others : List String}
    (h : ∀ key, key ∈ names.map Unicode.lowercase ↔ key ∈ others.map Unicode.lowercase) :
    discover providers (some names) = discover providers (some others) := by
  have hkeys (key : String) : key ∈ keysOf (some names) ↔ key ∈ keysOf (some others) := h key
  have hchosen : chosenOf providers (some names) = chosenOf providers (some others) := by
    rw [chosenOf_eq, chosenOf_eq]
    refine List.filter_congr fun p _ => ?_
    simp [IsEnabled, hkeys]
  have hmissing : missingOf providers (some names) = missingOf providers (some others) :=
    eq_missingOf (pairwise_lt_missingOf providers _) fun key => by rw [mem_missingOf, hkeys]
  rw [discover_eq, discover_eq, hchosen, hmissing]

/-- Just the first providers of the enabled names are asked, in the order in which they are
installed. If all of them give rules and each enabled name is known, these are found; otherwise the
first that fails counts, and only if none does the names that no provider has. Which names are
enabled counts, but not how they are listed or written. -/
theorem discover_exact (providers : List Provider) :
    (∀ enabled, ∃ chosen, FirstEnabled providers enabled chosen ∧
      ∀ found, discover providers enabled = found ↔
        Discovers providers (keysOf enabled) chosen found) ∧
    ∀ names others : List String,
      (∀ key, key ∈ names.map Unicode.lowercase ↔ key ∈ others.map Unicode.lowercase) →
        discover providers (some names) = discover providers (some others) :=
  ⟨fun enabled => ⟨_, firstEnabled_chosenOf providers enabled, fun _ => discover_eq_iff⟩,
    fun _ _ => discover_congr⟩

/-- Two providers of one name, the second of which cannot be loaded. -/
def rivals : List Provider :=
  [⟨"Zoo", .rules { explicitRoots := ["zoo.Animal"] }⟩, ⟨"ZOO", .broken "gone"⟩]

/-- The second provider is not asked, and it does not matter how names are listed or written. -/
theorem discover_exact_rivals :
    (discover rivals none).1 = .ok [{ explicitRoots := ["zoo.Animal"] }] ∧
      discover rivals (some ["ANT", "zoo", "Ant"]) = discover rivals (some ["zOO", "ant"]) := by
  have hlower {s low : String}
      (h : s.toList.all (·.toNat < 0x80) ∧ s.toList.map Char.toLower = low.toList) :
      Unicode.lowercase s = low := by
    have hascii : ∀ c ∈ s.toList, c.toNat < 0x80 := by simpa using h.1
    rw [Unicode.lowercase_of_ascii hascii, ← String.toList_inj, ← h.2]
    exact String.toList_map
  have hzoo : ∀ s ∈ ["Zoo", "ZOO", "zoo", "zOO"], Unicode.lowercase s = "zoo" := by
    have hcapitals : ∀ s ∈ ["Zoo", "ZOO", "zoo", "zOO"],
        s.toList.all (·.toNat < 0x80) ∧ s.toList.map Char.toLower = "zoo".toList := by
      decide +kernel
    exact fun s hs => hlower (hcapitals s hs)
  have hant : ∀ s ∈ ["ANT", "Ant", "ant"], Unicode.lowercase s = "ant" := by
    have hcapitals : ∀ s ∈ ["ANT", "Ant", "ant"],
        s.toList.all (·.toNat < 0x80) ∧ s.toList.map Char.toLower = "ant".toList := by
      decide +kernel
    exact fun s hs => hlower (hcapitals s hs)
  obtain ⟨hexact, hcongr⟩ := discover_exact rivals
  refine ⟨?_, hcongr _ _ fun key => by simp [hzoo, hant, or_comm]⟩
  obtain ⟨chosen, hfirst, hfound⟩ := hexact none
  have hone : chosen = [⟨"Zoo", .rules { explicitRoots := ["zoo.Animal"] }⟩] := by
    rw [hfirst.eq_chosenOf, chosenOf_eq]
    simp [rivals, distinctBy, key, hzoo, IsEnabled]
  subst hone
  rw [(hfound _).mpr (.found _ (.cons (.rules _ _) .nil) fun key hkey => by cases hkey)]

end RetentionPlan.Provider
