import RetentionPlan.Proofs.Loading.Closure
import RetentionPlan.Proofs.Source.DefiningNames

/-!
# What a name stands for inside a module

A bare name in a module is given a qualified name from what the module imports and declares, and the
qualified name below the module is looked up there. The former asks for an import first and the
latter for a declaration. So the two lead to one type unless a module imports a name that it
declares as well, and what it imports is another type than what it declares.
-/
namespace RetentionPlan.Source

open Loading (Loader LoadError answer after)

variable {w : Workspace} {roots : List Path} {name target : String}

/-! ## One look at a name below a module -/

theorem cuts_of_dotless {id : String} (h : '.' ∉ id.toList) : cuts id = [] := by
  simp [cuts, dottedParts_of_dotless h]

theorem headAndRest_of_dotless {id : String} (h : '.' ∉ id.toList) : headAndRest id = (id, "") := by
  simp [headAndRest, dottedParts_of_dotless h, dotted]

section
variable {module : Module} {id : String}

/-- The module itself is the first that is asked for a name directly below it. -/
theorem answer_look_below {lead : Lead}
    (hmodule : freshSearch w roots module.name = .ok (some module))
    (hid : '.' ∉ id.toList) (hlead : module.lead? (module.name ++ "." ++ id) id = some lead) :
    answer (look w roots (module.name ++ "." ++ id)) [] = .ok lead := by
  obtain ⟨shorter, hcuts⟩ := exists_cuts_append module.name id
  rw [cuts_of_dotless hid, List.map_nil, List.nil_append] at hcuts
  rw [look, hcuts]
  exact answer_leadOf_of_lead hmodule hlead

theorem lead?_of_declared {declared : TypeStatement} (htype : module.type? id = some declared) :
    module.lead? name id = some (.type (module.describe id declared)) := by
  simp [Module.lead?, htype]

theorem lead?_of_imported (hid : '.' ∉ id.toList) (htype : module.type? id = none)
    (himport : module.import? id = some target) (hne : target ≠ name) :
    module.lead? name id = some (.elsewhere target) := by
  simp [Module.lead?, htype, headAndRest_of_dotless hid, himport, hne]

end

/-! ## Names that are imported from elsewhere -/

section
variable {hops : Nat} {visited : List String} {cache : Cache} {d : TypeDescriptor}
  {elsewhere : String}

theorem outcome_ne_found_of_visited (h : name ∈ visited) :
    (chain w roots hops visited name cache).outcome ≠ some (.ok d) := by
  cases hops <;> simp [chain, h]

theorem getD_eq_ok_iff {r : Option (Except LoadError TypeDescriptor)} {e : LoadError} :
    r.getD (.error e) = .ok d ↔ r = some (.ok d) := by
  cases r <;> simp

/-- A chain that ends in a type does not pass a name that leads back to where the chain has been. -/
theorem not_mem_names_of_found {inv : Cache → Prop} (hnil : inv [])
    (hlook : answer (look w roots elsewhere) [] = .ok (.elsewhere target))
    (hsteady : ∀ passed ∈ (chain w roots hops visited name cache).names,
      Steady inv (look w roots passed))
    (hcache : inv cache) (hback : target ∈ visited ∨ target = name ∧ target ≠ elsewhere)
    (h : (chain w roots hops visited name cache).outcome = some (.ok d)) :
    elsewhere ∉ (chain w roots hops visited name cache).names := by
  induction hops generalizing visited name cache with
  | zero => exact List.not_mem_nil
  | succ hops ih =>
    have hfirst := hsteady name mem_names_chain cache hcache
    simp only [chain] at h hsteady ⊢
    by_cases hvisited : name ∈ visited
    · simp [hvisited] at h
    simp only [if_neg hvisited] at h hsteady ⊢
    -- At the name from which all began the look leads to the target, where the chain has been or
    -- starts, so a chain through it would go round and end in no type.
    have hsame (heq : elsewhere = name) :
        answer (look w roots name) cache = .ok (.elsewhere target) := by
      rw [hfirst.2 [] hnil, ← heq, hlook]
    rcases hlead : answer (look w roots name) cache with e | d' | next
    · simp [hlead] at h
    · simp only [List.mem_singleton]
      intro heq
      rw [hsame heq] at hlead
      cases hlead
    · simp only [hlead, List.forall_mem_cons] at h hsteady ⊢
      rw [List.mem_cons, not_or]
      refine ⟨fun heq => ?_, ih hsteady.2 hfirst.1 (.inl ?_) h⟩
      · rw [hsame heq] at hlead
        obtain rfl : target = next := Lead.elsewhere.inj (Except.ok.inj hlead)
        have hold : target ∈ visited :=
          hback.resolve_right fun hstart => hstart.2 (hstart.1.trans heq.symm)
        exact outcome_ne_found_of_visited (List.mem_cons_of_mem name hold) h
      · rcases hback with hold | ⟨rfl, -⟩
        · exact List.mem_cons_of_mem name hold
        · exact List.mem_cons_self

/-- A chain from elsewhere finds the same whether or not it is to avoid the name that led there, if
it comes to an end at all. -/
theorem found_avoiding_iff {inv : Cache → Prop} (hnil : inv [])
    (hlook : answer (look w roots elsewhere) [] = .ok (.elsewhere target))
    (hne : target ≠ elsewhere) {more : Nat} (hmore : hops ≤ more)
    (hsteady : ∀ passed ∈ (chain w roots more [] target []).names,
      Steady inv (look w roots passed)) :
    (chain w roots hops [elsewhere] target []).outcome = some (.ok d) ↔
      (chain w roots more [] target []).outcome = some (.ok d) ∧
        (chain w roots hops [elsewhere] target []).outcome ≠ none := by
  constructor
  · intro hfound
    have hfresh := not_mem_visited fun back => by rw [hfound]; exact nofun
    have hsame : chain w roots hops [] target [] = chain w roots hops [elsewhere] target [] :=
      chain_congr_visited fun passed hpassed =>
        iff_of_false List.not_mem_nil (hfresh passed hpassed)
    refine ⟨?_, by rw [hfound]; exact Option.some_ne_none _⟩
    rw [← hsame] at hfound
    rw [chain_of_ended hfound hmore, hfound]
  · rintro ⟨hfound, hends⟩
    have hnot := not_mem_names_of_found hnil hlook hsteady hnil (.inr ⟨rfl, hne⟩) hfound
    have hsame : chain w roots more [elsewhere] target [] = chain w roots more [] target [] := by
      refine chain_congr_visited fun passed hpassed => iff_of_false ?_ List.not_mem_nil
      rw [List.mem_singleton]
      exact fun heq => hnot (heq ▸ hpassed)
    obtain ⟨r, hr⟩ := Option.ne_none_iff_exists'.mp hends
    rw [← chain_of_ended hr hmore, hsame, hfound]

end

section
variable {places : (path root : Path) → Prop}

/-- A name that is imported from elsewhere resolves to what is found there, as long as one more hop
is not too many. -/
theorem resolve_elsewhere_iff (hname : OneName places)
    (hlook : answer (look w roots name) [] = .ok (.elsewhere target)) (hne : target ≠ name)
    (hhere : ∀ path base, Touches roots ⟨w, .resolve name⟩ path base → places path base)
    (hthere : ∀ path base, Touches roots ⟨w, .resolve target⟩ path base → places path base)
    (d : TypeDescriptor) :
    ((freshLoader w roots).resolve name).run = .ok d ↔
      ((freshLoader w roots).resolve target).run = .ok d ∧
        ((freshLoader w roots).resolve name).run ≠ .error (.fault .endlessReexport) := by
  have htell : StampsTell (· = w) := stampsTell_of_eq fun _ h => h
  obtain ⟨hops, hhops⟩ : ∃ hops, maxReexports = hops + 1 := ⟨999, rfl⟩
  have hplace : ∀ passed ∈ (chain w roots maxReexports [] target []).names, ∀ cut ∈ cuts passed,
      ∀ root ∈ roots, ∀ path base, Candidate w cut.1 root path base → places path base :=
    fun passed hpassed cut hcut root hroot path base hcandidate =>
      hthere path base (.followed rfl hpassed hcut hroot hcandidate)
  have hfewer : (chain w roots hops [name] target []).names ⊆
      (chain w roots maxReexports [] target []).names :=
    List.Subset.trans (names_subset_of_visited (List.nil_subset _)) (names_subset_names (by omega))
  -- What the first look has left behind makes no difference to the hops after it.
  have hkeeps : Faithful (· = w) places (after (look w roots name) []) := by
    refine ((steady_look htell hname rfl fun cut hcut root hroot path base hcandidate => ?_) []
      faithful_nil).1
    exact hhere path base (.followed rfl mem_names_chain hcut hroot hcandidate)
  have hrest : answer (follow w roots hops [name] target).run (after (look w roots name) []) =
      answer (follow w roots hops [name] target).run [] :=
    (follow_of_faithful htell hname rfl hkeeps faithful_nil fun passed hpassed =>
      hplace passed (hfewer hpassed)).2
  have hhead : ((freshLoader w roots).resolve name).run =
      (chain w roots hops [name] target []).outcome.getD (.error (.fault .endlessReexport)) := by
    rw [resolve_freshLoader, hhops, follow_succ_run, if_neg List.not_mem_nil, Loading.answer_bind,
      hlook, ← answer_follow, ← hrest]
  have hiff := found_avoiding_iff (d := d) faithful_nil hlook hne (by omega : hops ≤ maxReexports)
    fun passed hpassed => steady_look htell hname rfl (hplace passed hpassed)
  rw [hhead, resolve_freshLoader, answer_follow, getD_eq_ok_iff, getD_eq_ok_iff]
  constructor
  · intro hfound
    exact ⟨(hiff.mp hfound).1, by rw [hfound]; nofun⟩
  · rintro ⟨hfound, hends⟩
    exact hiff.mpr ⟨hfound, fun hnone => hends (by rw [hnone, Option.getD_none])⟩

end

/-! ## Both names of what a module binds -/

section
variable {module : Module} {id : String}

theorem qualifyName_of_imported (himport : module.import? id = some target) :
    module.qualifyName id = target := by
  simp [Module.qualifyName, himport]

theorem qualifyName_of_declared {declared : TypeStatement} (himport : module.import? id = none)
    (htype : module.type? id = some declared) :
    module.qualifyName id = module.name ++ "." ++ id := by
  simp [Module.qualifyName, himport, htype]

theorem resolve_below_of_declared {declared : TypeStatement}
    (hmodule : freshSearch w roots module.name = .ok (some module)) (hid : '.' ∉ id.toList)
    (htype : module.type? id = some declared) :
    ((freshLoader w roots).resolve (module.name ++ "." ++ id)).run =
      .ok (module.describe id declared) :=
  resolve_of_look (answer_look_below hmodule hid (lead?_of_declared htype))

theorem ne_empty_of_resolve {d : TypeDescriptor}
    (h : ((freshLoader w roots).resolve name).run = .ok d) : name ≠ "" := by
  rintro rfl
  obtain ⟨hops, hhops⟩ : ∃ hops, maxReexports = hops + 1 := ⟨999, rfl⟩
  rw [resolve_freshLoader, answer_follow, hhops] at h
  have hcuts : cuts "" = [] := cuts_of_dotless (by decide)
  have hlook : answer (look w roots "") [] = .error (.unresolved (.notOnClasspath "")) := by
    rw [look, hcuts]
    rfl
  simp [chain, hlook] at h

section
variable {declared : TypeStatement} {localName : String}

/-- A base that is a bare name is listed under its qualified name. -/
theorem mem_supertypes_describe (hbase : .name id ∈ declared.bases)
    (hne : module.qualifyName id ≠ "") :
    module.qualifyName id ∈ (module.describe localName declared).supertypes := by
  refine List.mem_filter.mpr ⟨List.mem_filterMap.mpr ⟨.name id, hbase, ?_⟩, by simpa using hne⟩
  simp [Module.qualify]

theorem getLast?_supertypes_describe (hlast : declared.bases.getLast? = some (.name id))
    (hne : module.qualifyName id ≠ "") :
    (module.describe localName declared).supertypes.getLast? = some (module.qualifyName id) := by
  obtain ⟨others, hothers⟩ := List.getLast?_eq_some_iff.mp hlast
  show (module.qualifyAll declared.bases).getLast? = _
  simp [Module.qualifyAll, hothers, Module.qualify, hne]

end

/-- A bare name that a module binds, by imports, by declarations or by both, and the qualified name
below the module resolve alike if and only if what the module declares by that name, if anything, is
also what the bare name leads to; so they do unless the name is bound in both ways. (Alike means to
the same types, except that one hop more may be too many.) The name below the module always leads to
the declaration. A type of the module with such a name for a base is assignable to what the bare
name leads to, whatever else is searched before, unless another type goes by the qualified name. -/
theorem resolve_qualifyName_iff {places : (path root : Path) → Prop} (hname : OneName places)
    (hmodule : freshSearch w roots module.name = .ok (some module)) (hid : '.' ∉ id.toList)
    (hbound : (module.import? id).isSome ∨ (module.type? id).isSome)
    (hbelow : ∀ path base, Touches roots ⟨w, .resolve (module.name ++ "." ++ id)⟩ path base →
      places path base)
    (hbare : ∀ path base, Touches roots ⟨w, .resolve (module.qualifyName id)⟩ path base →
      places path base) :
    let loader := freshLoader w roots
    let below := module.name ++ "." ++ id
    let bare := module.qualifyName id
    let alike := ∀ d, (loader.resolve below).run = .ok d ↔
      (loader.resolve bare).run = .ok d ∧
      (loader.resolve below).run ≠ .error (.fault .endlessReexport)
    module.qualify (.name id) = some bare ∧
    (∀ cache, Faithful (· = w) places cache →
      answer ((sourceLoader w roots).resolve below) cache = (loader.resolve below).run ∧
        answer ((sourceLoader w roots).resolve bare) cache = (loader.resolve bare).run) ∧
    (∀ declared, module.type? id = some declared →
      (loader.resolve below).run = .ok (module.describe id declared)) ∧
    (alike ↔ ∀ declared, module.type? id = some declared →
      (loader.resolve bare).run = .ok (module.describe id declared)) ∧
    (module.import? id = none ∨ module.type? id = none → alike) ∧
    ∀ localName declared parent, module.type? localName = some declared →
    .name id ∈ declared.bases → (loader.resolve bare).run = .ok parent →
      let d := module.describe localName declared
      (∀ a, a = d ∨ (∃ other, (loader.resolve other).run = .ok a) → a.name = bare →
        parent.name = bare) → (∀ found, d.name ≠ parent.name →
        loader.Searches parent.name [d.name] d.supertypes.reverse found → found = true) ∧
      (declared.bases.getLast? = some (.name id) →
        (loader.isAssignable d parent.name).run = .ok true) := by
  intro loader below bare alike
  have hown (declared : TypeStatement) (htype : module.type? id = some declared) :
      (loader.resolve below).run = .ok (module.describe id declared) :=
    resolve_below_of_declared hmodule hid htype
  have halike : alike ↔ ∀ declared, module.type? id = some declared →
      (loader.resolve bare).run = .ok (module.describe id declared) := by
    refine ⟨fun hsame declared htype => ((hsame _).mp (hown declared htype)).1, fun hdeclared => ?_⟩
    -- With a declaration both sides are settled by it; without one the name is imported, and the
    -- two names share all that comes after the first hop.
    cases htype : module.type? id with
    | some declared =>
      intro d
      rw [hown declared htype, hdeclared declared htype]
      simp
    | none =>
      obtain ⟨target, himport⟩ : ∃ target, module.import? id = some target := by
        simpa [htype, Option.isSome_iff_exists] using hbound
      have hbareName : bare = target := qualifyName_of_imported himport
      by_cases hself : target = below
      · intro d
        rw [hbareName, hself]
        exact ⟨fun h => ⟨h, by rw [h]; nofun⟩, And.left⟩
      · have hlook := answer_look_below hmodule hid (lead?_of_imported hid htype himport hself)
        intro d
        rw [hbareName]
        exact resolve_elsewhere_iff hname hlook hself hbelow (hbareName ▸ hbare) d
  refine ⟨by rw [Module.qualify], fun cache hcache => ⟨resolve_eq_of_faithful hname hbelow hcache,
    resolve_eq_of_faithful hname hbare hcache⟩, hown, halike, fun honce =>
    halike.mpr fun declared htype => ?_, ?_⟩
  · rcases honce with himport | hnone
    · have hbareName : bare = below := qualifyName_of_declared himport htype
      rw [hbareName, hown declared htype]
    · rw [hnone] at htype
      cases htype
  · intro localName declared parent htype hbase hparent d hknown
    have hne : bare ≠ "" := ne_empty_of_resolve hparent
    have hmem : bare ∈ d.supertypes := mem_supertypes_describe hbase hne
    refine ⟨fun found _ hsearch => ?_, fun hlast => ?_⟩
    · refine hsearch.found_of_pending hparent (fun other a ha => hknown a (.inr ⟨other, ha⟩))
        (List.mem_reverse.mpr hmem) fun hseen => ?_
      exact hknown d (.inl rfl) (List.mem_singleton.mp hseen).symm
    · exact loader.isAssignable_of_last (getLast?_supertypes_describe hlast hne) hparent
        (hknown d (.inl rfl))

end

theorem eq_ok_of_toOption {ε α : Type} {r : Except ε α} {a : α} (h : r.toOption = some a) :
    r = .ok a := by
  cases r with
  | error e => cases h
  | ok b => exact congrArg Except.ok (Option.some.inj h)

/-- A module that imports a name, declares a type of that name, and uses the name for a base. -/
def rebound : Workspace where
  top := .directory [("b.py", .file "class X: pass".toUTF8 0),
    ("m.py", .file "from b import X\nclass X: pass\nclass K(X): pass".toUTF8 0)]
  cwd := []
  home := none
  now := 0

def rebinds (module : Module) : Bool :=
  module.name = "m" && module.qualifyName "X" = "b.X" && (module.type? "X").isSome &&
    (module.type? "K").any fun k => match k.bases with
      | [.name id] => id = "X"
      | _ => false

theorem exists_rebinds :
    ∃ module own k, freshSearch rebound namesakesRoots module.name = .ok (some module) ∧
      module.name = "m" ∧ module.qualifyName "X" = "b.X" ∧ module.type? "X" = some own ∧
      module.type? "K" = some k ∧ k.bases = [.name "X"] := by
  have hfound : ((freshSearch rebound namesakesRoots "m").toOption.bind id).any rebinds = true := by
    decide +kernel
  rcases hsearch : freshSearch rebound namesakesRoots "m" with e | _ | module
  · simp [hsearch, Except.toOption] at hfound
  · simp [hsearch, Except.toOption] at hfound
  simp only [hsearch, Except.toOption, Option.bind_some, id_eq, Option.any_some, rebinds,
    Bool.and_eq_true, decide_eq_true_eq, Option.isSome_iff_exists] at hfound
  obtain ⟨⟨⟨hm, hbare⟩, own, hown⟩, hk⟩ := hfound
  cases htype : module.type? "K" with
  | none => simp [htype] at hk
  | some k =>
    rw [htype, Option.any_some] at hk
    split at hk
    · next id hbases =>
      rw [decide_eq_true_eq] at hk
      exact ⟨module, own, k, by rw [hm, hsearch], hm, hbare, hown, htype, by rw [hbases, hk]⟩
    · cases hk

/-- The bare name leads to the import, and the name below the module to the declaration. -/
theorem resolve_qualifyName_iff_rebound :
    ∃ (module : Module) (k : TypeStatement) (declared imported : TypeDescriptor),
      freshSearch rebound namesakesRoots module.name = .ok (some module) ∧
        module.type? "K" = some k ∧
        ((freshLoader rebound namesakesRoots).resolve (module.name ++ "." ++ "X")).run =
          .ok declared ∧ declared.name = "m.X" ∧
      ((freshLoader rebound namesakesRoots).resolve (module.qualifyName "X")).run = .ok imported ∧
      imported.name = "b.X" ∧
      ((freshLoader rebound namesakesRoots).isAssignable (module.describe "K" k)
        imported.name).run = .ok true ∧
      ((freshLoader rebound namesakesRoots).isAssignable (module.describe "K" k)
        declared.name).run = .ok false := by
  obtain ⟨module, own, k, hmodule, hm, hbare, hown, hk, hbases⟩ := exists_rebinds
  have htouches (name : String) : ∀ path base,
      Touches namesakesRoots ⟨rebound, .resolve name⟩ path base →
      base = ⟨.root, []⟩ := fun path base h => base_eq_of_touches rfl h
  have hbound : (module.import? "X").isSome ∨ (module.type? "X").isSome := .inr (by rw [hown]; rfl)
  obtain ⟨-, -, hdeclared, -, -, hassignable⟩ :=
    resolve_qualifyName_iff (oneName_below ⟨.root, []⟩) hmodule
    (by decide : '.' ∉ "X".toList) hbound (htouches _) (htouches _)
  have hname : ((freshLoader rebound namesakesRoots).resolve "b.X").run.toOption.map (·.name) =
      some "b.X" := by
    decide +kernel
  obtain ⟨imported, hfound, hX⟩ := Option.map_eq_some_iff.mp hname
  have himported := eq_ok_of_toOption hfound
  rw [hbare] at hassignable
  have htrue := (hassignable "K" k imported hk (by simp [hbases]) himported fun _ _ _ => hX).2
    (by simp [hbases])
  -- The name of the subtype leads to it, so that the loader can be asked about it.
  have hself : ((freshLoader rebound namesakesRoots).resolve "m.K").run =
      .ok (module.describe "K" k) := by
    have hbelow := resolve_below_of_declared hmodule (by decide : '.' ∉ "K".toList) hk
    rwa [hm] at hbelow
  have hfalse : ((freshLoader rebound namesakesRoots).resolve "m.K").run.toOption.map (fun d =>
      ((freshLoader rebound namesakesRoots).isAssignable d "m.X").run.toOption) =
        some (some false) := by
    decide +kernel
  rw [hself] at hfalse
  have hanswer := eq_ok_of_toOption (Option.some.inj hfalse)
  have hdeclaredName : (module.describe "X" own).name = "m.X" := by
    show module.name ++ "." ++ "X" = "m.X"
    rw [hm]
    rfl
  exact ⟨module, k, module.describe "X" own, imported, hmodule, hk, hdeclared own hown,
    hdeclaredName, hbare ▸ himported, hX, htrue, hdeclaredName ▸ hanswer⟩

end RetentionPlan.Source
