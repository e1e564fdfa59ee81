import RetentionPlan.Proofs.Plan.Correspondence
import RetentionPlan.Types.Graph

/-!
# Merged rule sets

Merging puts the rules of several sets one after the other and keeps the first copy of each, so it
does not matter in which order neighbours are merged. A rule that comes up again would not be
reached unless its first copy has failed, so the merged set matches a type just as the sets do when
they are taken one after the other.
-/
namespace RetentionPlan

open Loading (Loader Fault Reading)

/-- Are the items of `kept` the first copies of all items, in the order in which they come up? -/
structure FirstCopies {α : Type} [DecidableEq α] (all kept : List α) : Prop where
  mem_iff (a : α) : a ∈ kept ↔ a ∈ all
  nodup : kept.Nodup
  ordered : kept.Pairwise fun a b => all.idxOf a < all.idxOf b

theorem firstCopies_distinct {α : Type} [DecidableEq α] (all : List α) :
    FirstCopies all (distinct all) :=
  ⟨fun _ => mem_distinct, nodup_distinct all, pairwise_idxOf_distinct all⟩

/-! ## Searches one after the other -/

section
variable {m : Type → Type} [Monad m] {α β : Type}

/-- What the first of several searches finds that finds anything; a fault ends them all. -/
def firstFound : List (m (Except Fault (Option α))) → m (Except Fault (Option α))
  | [] => return .ok none
  | search :: rest => do
    match ← search with
    | .ok none => firstFound rest
    | found => return found

/-- A search that looks for something else in the same places. -/
def finding (f : α → β) (search : m (Except Fault (Option α))) : m (Except Fault (Option β)) :=
  (·.map (·.map f)) <$> search

/-- The rule of an attribute, or without one what a search finds. -/
def markedOr (marker : Option String) (search : m (Except Fault (Option Rule))) :
    m (Except Fault (Option Rule)) :=
  match marker with
  | some name => return .ok (some (.attributeMarker name))
  | none => search

theorem firstFound_map_finding [LawfulMonad m] (f : α → β)
    (searches : List (m (Except Fault (Option α)))) :
    firstFound (searches.map (finding f)) = finding f (firstFound searches) := by
  induction searches with
  | nil => simp [firstFound, finding, Except.map]
  | cons search rest ih =>
    simp only [List.map_cons, firstFound, finding, bind_map_left, map_bind]
    refine bind_congr fun found => ?_
    rcases found with e | _ | a
    · simp [Except.map]
    · exact ih
    · simp [Except.map]

/-- Lists without repetitions and without what comes up earlier. -/
def unrepeated (earlier : List α) [DecidableEq α] : List (List α) → List (List α)
  | [] => []
  | items :: rest => (distinct items).filter (· ∉ earlier) :: unrepeated (earlier ++ items) rest

theorem flatten_unrepeated [DecidableEq α] (earlier : List α) (all : List (List α)) :
    (unrepeated earlier all).flatten = (distinct all.flatten).filter (· ∉ earlier) := by
  induction all generalizing earlier with
  | nil => rfl
  | cons items rest ih =>
    rw [unrepeated, List.flatten_cons, List.flatten_cons, ih, distinct_append, List.filter_append,
      List.filter_filter]
    congr 1
    refine List.filter_congr fun a _ => ?_
    simp [not_or]

end

namespace RuleSet

/-! ## Merging -/

section
variable {a b : RuleSet} {bs cs ds : List RuleSet}

/-- The rules of a merged set count as those of the sets that it was merged from. -/
theorem distinct_flatMap_merge {α : Type} [DecidableEq α] {names : RuleSet → List α}
    (bs ds : List RuleSet) (h : names (b.merge cs) = distinct ((b :: cs).flatMap names)) :
    distinct ((bs ++ b.merge cs :: ds).flatMap names) =
      distinct ((bs ++ b :: cs ++ ds).flatMap names) := by
  have hfront : distinct (names (b.merge cs) ++ ds.flatMap names) =
      distinct ((b :: cs ++ ds).flatMap names) := by
    rw [h, distinct_distinct_append, List.flatMap_append]
  rw [List.append_assoc, List.flatMap_append, List.flatMap_append, List.flatMap_cons,
    ← distinct_append_distinct, hfront, distinct_append_distinct]

/-- Where the rules of several sets were declared, one after the other. -/
def sourcesOf (sets : List RuleSet) : String := String.intercalate "+" (sets.map (·.source))

theorem sourcesOf_append (ha : bs ≠ []) (hb : cs ≠ []) :
    sourcesOf (bs ++ cs) = sourcesOf bs ++ "+" ++ sourcesOf cs := by
  rw [sourcesOf, List.map_append,
    String.intercalate_append_of_ne_nil (by simpa using ha) (by simpa using hb)]
  rfl

theorem sourcesOf_append_merge (bs ds : List RuleSet) :
    sourcesOf (bs ++ b.merge cs :: ds) = sourcesOf (bs ++ b :: cs ++ ds) := by
  have hmerged : sourcesOf [b.merge cs] = sourcesOf (b :: cs) := by
    rw [sourcesOf, List.map_singleton, String.intercalate_singleton]
    rfl
  have hfront : sourcesOf (b.merge cs :: ds) = sourcesOf (b :: cs ++ ds) := by
    cases ds with
    | nil => rw [List.append_nil, hmerged]
    | cons d ds =>
      calc sourcesOf ([b.merge cs] ++ d :: ds)
          = sourcesOf [b.merge cs] ++ "+" ++ sourcesOf (d :: ds) :=
            sourcesOf_append (by simp) (by simp)
        _ = sourcesOf (b :: cs) ++ "+" ++ sourcesOf (d :: ds) := by rw [hmerged]
        _ = sourcesOf (b :: cs ++ d :: ds) := (sourcesOf_append (by simp) (by simp)).symm
  cases bs with
  | nil => exact hfront
  | cons a bs =>
    calc sourcesOf (a :: bs ++ b.merge cs :: ds)
        = sourcesOf (a :: bs) ++ "+" ++ sourcesOf (b.merge cs :: ds) :=
          sourcesOf_append (by simp) (by simp)
      _ = sourcesOf (a :: bs) ++ "+" ++ sourcesOf (b :: cs ++ ds) := by rw [hfront]
      _ = sourcesOf (a :: bs ++ (b :: cs ++ ds)) := (sourcesOf_append (by simp) (by simp)).symm
      _ = sourcesOf (a :: bs ++ b :: cs ++ ds) := by rw [List.append_assoc]

/-- A merged set among others counts as the sets that it was merged from. -/
theorem merge_append_merge : a.merge (bs ++ b.merge cs :: ds) = a.merge (bs ++ b :: cs ++ ds) := by
  have hnames {names : RuleSet → List String}
      (h : names (b.merge cs) = distinct ((b :: cs).flatMap names)) :=
    distinct_flatMap_merge (a :: bs) ds h
  simp only [merge, mk.injEq]
  exact ⟨hnames rfl, hnames rfl, hnames rfl, sourcesOf_append_merge (a :: bs) ds⟩

theorem merge_merge : (a.merge bs).merge cs = a.merge (bs ++ cs) := by
  have hnames {names : RuleSet → List String}
      (h : names (a.merge bs) = distinct ((a :: bs).flatMap names)) :=
    distinct_flatMap_merge [] cs h
  simp only [merge, mk.injEq]
  exact ⟨hnames rfl, hnames rfl, hnames rfl, sourcesOf_append_merge [] cs⟩

theorem firstCopies_merge :
    FirstCopies ((a :: bs).flatMap (·.explicitRoots)) (a.merge bs).explicitRoots ∧
    FirstCopies ((a :: bs).flatMap (·.supertypes)) (a.merge bs).supertypes ∧
    FirstCopies ((a :: bs).flatMap (·.attributes)) (a.merge bs).attributes :=
  ⟨firstCopies_distinct _, firstCopies_distinct _, firstCopies_distinct _⟩

/-- The rules of a set are there already when it comes up again. -/
theorem sameRules_merge_self : (a.merge [a]).sameRules (a.merge []) = true := by
  have hagain (names : List String) : distinct (names ++ names) = distinct names := by
    rw [distinct_append, List.filter_eq_nil_iff.mpr, List.append_nil]
    intro name hname
    simpa using hname
  simp [sameRules, merge, hagain]

theorem sameRules_merge_of_isEmpty (h : b.isEmpty = true) :
    (a.merge [b]).sameRules (a.merge []) = true ∧ (b.merge [a]).sameRules (a.merge []) = true := by
  simp only [isEmpty, Bool.and_eq_true, List.isEmpty_iff] at h
  obtain ⟨⟨hroots, hsupertypes⟩, hattributes⟩ := h
  simp [sameRules, merge, hroots, hsupertypes, hattributes]

end

/-! ## Matching -/

section
variable {m : Type → Type} [Monad m] [LawfulMonad m] (loader : Loader m) (d : TypeDescriptor)

theorem firstAssignable_append (names others : List String) :
    firstAssignable loader d (names ++ others) = do
      match ← firstAssignable loader d names with
      | .ok none => firstAssignable loader d others
      | found => return found := by
  induction names with
  | nil => simp [firstAssignable]
  | cons name rest ih =>
    simp only [List.cons_append, firstAssignable, bind_assoc]
    refine bind_congr fun answer => ?_
    rcases answer with e | _ | _
    · simp
    · exact ih
    · simp

theorem firstAssignable_flatten (all : List (List String)) :
    firstAssignable loader d all.flatten = firstFound (all.map (firstAssignable loader d)) := by
  induction all with
  | nil => rfl
  | cons names rest ih =>
    rw [List.flatten_cons, firstAssignable_append, ih, List.map_cons, firstFound]
    refine bind_congr fun found => ?_
    rcases found with e | _ | name <;> rfl

theorem matchExplicitRoot_eq (rules : RuleSet) : rules.matchExplicitRoot loader d =
    finding .explicitRoot (firstAssignable loader d rules.explicitRoots) := by
  simp [matchExplicitRoot, finding]

theorem matchPostRegistration_eq (rules : RuleSet) : rules.matchPostRegistration loader d =
    markedOr (rules.attributes.find? d.hasAttribute)
      (finding .supertypeRoot (firstAssignable loader d rules.supertypes)) := by
  unfold matchPostRegistration markedOr finding
  cases rules.attributes.find? d.hasAttribute <;> simp

end

section
variable {loader : Loader Id} {d : TypeDescriptor}

theorem firstAssignable_filter {p : String → Bool} {names : List String}
    (h : ∀ name ∈ names, p name = false → (loader.isAssignable d name).run = .ok false) :
    firstAssignable loader d (names.filter p) = firstAssignable loader d names := by
  induction names with
  | nil => rfl
  | cons name rest ih =>
    rw [List.forall_mem_cons] at h
    by_cases hp : p name
    · rw [List.filter_cons_of_pos hp, firstAssignable, firstAssignable, ih h.2]
    · have hfails : loader.isAssignable d name = pure (.ok false) := h.1 (by simpa using hp)
      rw [List.filter_cons_of_neg hp, ih h.2, firstAssignable, hfails, pure_bind]

theorem firstAssignable_distinct (names : List String) :
    firstAssignable loader d (distinct names) = firstAssignable loader d names := by
  induction names with
  | nil => rfl
  | cons name rest ih =>
    rw [distinct, firstAssignable, firstAssignable, ← ih]
    cases hname : loader.isAssignable d name with
    | error e => rfl
    | ok is =>
      cases is with
      | true => rfl
      | false =>
        refine firstAssignable_filter fun other _ hother => ?_
        obtain rfl : other = name := by simpa using hother
        exact hname

end

section
variable {a : RuleSet} {bs : List RuleSet} {d : TypeDescriptor}

theorem find?_attributes_merge :
    (a.merge bs).attributes.find? d.hasAttribute =
      (a :: bs).findSome? (·.attributes.find? d.hasAttribute) := by
  rw [merge, find?_distinct, List.find?_flatMap]

/-- Names that come up in several sets are asked for where they come up first. -/
theorem firstFound_unrepeated {m : Type → Type} [Monad m] [LawfulMonad m] (loader : Loader m)
    (rule : String → Rule) (names : RuleSet → List String) :
    finding rule (firstAssignable loader d (distinct ((a :: bs).flatMap names))) =
      firstFound ((unrepeated [] ((a :: bs).map names)).map fun some =>
        finding rule (firstAssignable loader d some)) := by
  have hflatten : distinct ((a :: bs).flatMap names) =
      (unrepeated [] ((a :: bs).map names)).flatten := by
    rw [flatten_unrepeated, List.flatMap_def, List.filter_eq_self.mpr]
    intro name _
    exact decide_eq_true List.not_mem_nil
  rw [hflatten, firstAssignable_flatten, ← firstFound_map_finding, List.map_map]
  rfl

/-- If each answer is fixed, it does not matter whether names are asked for again. -/
theorem firstFound_fixed (fixed : Loader Id) (rule : String → Rule)
    (names : RuleSet → List String) :
    finding rule (firstAssignable fixed d (distinct ((a :: bs).flatMap names))) =
      firstFound ((a :: bs).map fun rules =>
        finding rule (firstAssignable fixed d (names rules))) := by
  rw [firstAssignable_distinct, List.flatMap_def, firstAssignable_flatten, ← firstFound_map_finding,
    List.map_map, List.map_map]
  rfl

theorem matchExplicitRoot_merge_fixed (fixed : Loader Id) : (a.merge bs).matchExplicitRoot fixed d =
    firstFound ((a :: bs).map (·.matchExplicitRoot fixed d)) := by
  have hsets : (fun rules : RuleSet => rules.matchExplicitRoot fixed d) = fun rules =>
      finding .explicitRoot (firstAssignable fixed d rules.explicitRoots) :=
        funext (matchExplicitRoot_eq fixed d)
  rw [hsets, matchExplicitRoot_eq]
  exact firstFound_fixed fixed .explicitRoot (·.explicitRoots)

theorem matchPostRegistration_merge_fixed (fixed : Loader Id) :
    (a.merge bs).matchPostRegistration fixed d =
      markedOr ((a :: bs).findSome? (·.attributes.find? d.hasAttribute))
        (firstFound ((a :: bs).map fun rules =>
          finding .supertypeRoot (firstAssignable fixed d rules.supertypes))) := by
  rw [matchPostRegistration_eq, find?_attributes_merge]
  exact congrArg _ (firstFound_fixed fixed .supertypeRoot (·.supertypes))

/-- Merging is concatenation without repetitions. It may be done step by step in any grouping,
sources included; the rules of a merged set are the first copies of all rules in order; and a set
without rules or the set itself adds no rules. A merged set matches a type as its sets do one after
the other, where no set asks for a root or a supertype again that an earlier one has; any attribute
of any set goes before all supertypes. If each answer of the loader is fixed, these are the first
matches that the sets as they are find in order. -/
theorem merge_exact {m : Type → Type} [Monad m] [LawfulMonad m] (a b c : RuleSet)
    (bs cs ds : List RuleSet) (loader : Loader m) (d : TypeDescriptor) :
    let sets := a :: bs
    let marker := sets.findSome? (·.attributes.find? d.hasAttribute)
    ((a.merge [b]).merge [c] = a.merge [b, c] ∧ a.merge [b.merge [c]] = a.merge [b, c] ∧
      (a.merge bs).merge cs = a.merge (bs ++ cs) ∧
      a.merge (bs ++ b.merge cs :: ds) = a.merge (bs ++ b :: cs ++ ds)) ∧
    (FirstCopies (sets.flatMap (·.explicitRoots)) (a.merge bs).explicitRoots ∧
      FirstCopies (sets.flatMap (·.supertypes)) (a.merge bs).supertypes ∧
      FirstCopies (sets.flatMap (·.attributes)) (a.merge bs).attributes) ∧
    ((a.merge [a]).sameRules (a.merge []) = true ∧ ∀ none : RuleSet, none.isEmpty = true →
      (a.merge [none]).sameRules (a.merge []) = true ∧
      (none.merge [a]).sameRules (a.merge []) = true) ∧
    ((a.merge bs).matchExplicitRoot loader d =
        firstFound ((unrepeated [] (sets.map (·.explicitRoots))).map fun names =>
          finding .explicitRoot (firstAssignable loader d names)) ∧
      (a.merge bs).matchPostRegistration loader d =
        markedOr marker (firstFound ((unrepeated [] (sets.map (·.supertypes))).map fun names =>
          finding .supertypeRoot (firstAssignable loader d names)))) ∧
    ∀ (reading : Reading m) (asked : (path root : Path) → Prop) (fixed : Loader Id),
      loader.Corresponds reading.toCorrespondence asked fixed →
      reading.Rel ((a.merge bs).matchExplicitRoot loader d)
        (firstFound (sets.map (·.matchExplicitRoot fixed d))) ∧
      reading.Rel ((a.merge bs).matchPostRegistration loader d)
        (markedOr marker (firstFound (sets.map fun rules =>
          finding .supertypeRoot (firstAssignable fixed d rules.supertypes)))) := by
  intro sets marker
  have hnested : a.merge ([] ++ b.merge [c] :: []) = a.merge ([] ++ b :: [c] ++ []) :=
    merge_append_merge
  refine ⟨⟨merge_merge, hnested, merge_merge, merge_append_merge⟩, firstCopies_merge,
    ⟨sameRules_merge_self, fun none hnone => sameRules_merge_of_isEmpty hnone⟩, ⟨?_, ?_⟩,
    fun reading asked fixed hfixed => ⟨?_, ?_⟩⟩
  · rw [matchExplicitRoot_eq]
    exact firstFound_unrepeated loader .explicitRoot (·.explicitRoots)
  · rw [matchPostRegistration_eq, find?_attributes_merge]
    exact congrArg _ (firstFound_unrepeated loader .supertypeRoot (·.supertypes))
  · rw [← matchExplicitRoot_merge_fixed]
    exact hfixed.matchExplicitRoot (a.merge bs) d
  · rw [← matchPostRegistration_merge_fixed]
    exact hfixed.matchPostRegistration (a.merge bs) d

end

/-- A tool and two that are made for it, one of them marked. -/
def toolbox : TypeGraph where
  types :=
    [{ name := "shop.Tool", module := "shop" },
      { name := "shop.Saw", module := "shop", supertypes := ["shop.Tool"],
        attributes := ["old", "sharp"] },
      { name := "shop.Rope", module := "shop", supertypes := ["shop.Tool"] }]
  names_nodup := by decide

def ownRules : RuleSet :=
  { explicitRoots := ["shop.Rope", "shop.Tool", "shop.Rope"], supertypes := ["shop.Tool"],
    source := "settings" }

/-- The rules of a provider, some of which the project has as well. -/
def toolRules : RuleSet :=
  { explicitRoots := ["shop.Saw", "shop.Tool"], supertypes := ["shop.Saw"],
    attributes := ["sharp", "old"],
    source := "tools" }

/-- The saw goes by the project's root and by the provider's attribute, the rope by its own root and
by the project's supertype. -/
theorem merge_exact_toolbox :
    (ownRules.merge [toolRules]).merge [{}] = ownRules.merge [toolRules, {}] ∧
    (ownRules.merge [{}]).sameRules (ownRules.merge []) = true ∧
    ∀ d ∈ toolbox.types,
      ((ownRules.merge [toolRules]).matchExplicitRoot toolbox.loader d).run =
        .ok (some (.explicitRoot (if d.name = "shop.Rope" then "shop.Rope" else "shop.Tool"))) ∧
      ((ownRules.merge [toolRules]).matchPostRegistration toolbox.loader d).run =
        .ok (some (if d.name = "shop.Saw" then .attributeMarker "sharp"
            else .supertypeRoot "shop.Tool")) := by
  have hexact (d : TypeDescriptor) :=
    merge_exact ownRules toolRules {} [toolRules] [] [] toolbox.loader d
  have hfixed := Loader.Corresponds.plain toolbox.loader fun _ _ => True
  refine ⟨(hexact default).1.1, ((hexact default).2.2.1.2 {} rfl).1, fun d hd => ?_⟩
  obtain ⟨hroot, hpost⟩ := (hexact d).2.2.2.2 Reading.plain _ _ hfixed
  simp only [toolbox, List.mem_cons, List.not_mem_nil, or_false] at hd
  rcases hd with rfl | rfl | rfl
  · exact ⟨hroot.trans rfl, hpost.trans rfl⟩
  · exact ⟨hroot.trans rfl, hpost.trans rfl⟩
  · exact ⟨hroot.trans rfl, hpost.trans rfl⟩

end RuleSet
end RetentionPlan
