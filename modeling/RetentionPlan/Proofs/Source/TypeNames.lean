import Mathlib.Data.Nat.Init
import RetentionPlan.Source.StatementGrammar

/-!
# Names of declared types

The grammar takes the name of a type from a single token, so there is no dot in it, whatever text is
read and however deep the type stands inside others.
-/
namespace RetentionPlan.Source

open Parse

mutual
/-- Is there no dot in the names of a statement's types, those inside types included? -/
def Stmt.Dotless : Stmt → Prop
  | .type name _ _ _ body => '.' ∉ name.toList ∧ AllDotless body
  | _ => True

/-- Is there none in those of several statements? -/
def AllDotless : List Stmt → Prop
  | [] => True
  | s :: rest => s.Dotless ∧ AllDotless rest
end

theorem allDotless_iff {ss : List Stmt} : AllDotless ss ↔ ∀ s ∈ ss, s.Dotless := by
  induction ss with
  | nil => simp [AllDotless]
  | cons s rest ih => simp [AllDotless, ih]

theorem AllDotless.append {ss ts : List Stmt} (hs : AllDotless ss) (ht : AllDotless ts) :
    AllDotless (ss ++ ts) := by
  rw [allDotless_iff] at hs ht ⊢
  exact List.forall_mem_append.mpr ⟨hs, ht⟩

theorem allDotless_singleton {s : Stmt} : AllDotless [s] ↔ s.Dotless := by simp [AllDotless]

/-! ## Readers -/

/-- Whatever tokens a reader gets, what it reads from them is good. -/
def Reads {α : Type} (good : α → Prop) (reader : Parse α) : Prop :=
  ∀ tokens a rest, reader.run tokens = some (a, rest) → good a

namespace Reads
variable {α β : Type} {good : α → Prop} {good' : β → Prop} {reader other : Parse α}
  {next : α → Parse β}

theorem pure {a : α} (h : good a) : Reads good (pure a) := by
  rintro tokens _ _ ⟨⟩
  exact h

theorem failure : Reads good failure := by
  intro tokens a rest h
  cases h

theorem bind (h : Reads good reader) (hnext : ∀ a, good a → Reads good' (next a)) :
    Reads good' (reader >>= next) := by
  intro tokens b rest hrun
  rw [StateT.run_bind] at hrun
  obtain ⟨⟨a, between⟩, ha, hb⟩ := Option.bind_eq_some_iff.mp hrun
  exact hnext a (h tokens a between ha) between b rest hb

theorem after (hnext : ∀ a, Reads good' (next a)) : Reads good' (reader >>= next) := by
  have hany : Reads (fun _ => True) reader := fun _ _ _ _ => trivial
  exact hany.bind fun a _ => hnext a

theorem orElse (h : Reads good reader) (hother : Reads good other) :
    Reads good (reader <|> other) := by
  intro tokens a rest hrun
  change (reader.run tokens <|> other.run tokens) = some (a, rest) at hrun
  cases hreader : reader.run tokens with
  | some found =>
    rw [hreader] at hrun
    exact h tokens a rest (hreader.trans hrun)
  | none =>
    rw [hreader] at hrun
    exact hother tokens a rest hrun

theorem ite {c : Prop} [Decidable c] (h : Reads good reader) (hother : Reads good other) :
    Reads good (if c then reader else other) := by
  split
  · exact h
  · exact hother

end Reads

/-! ## Statements -/

theorem reads_assignment (fuel : Nat) (targets : List Expr) :
    Reads Stmt.Dotless (assignment fuel targets) := by
  induction fuel generalizing targets with
  | zero => exact .failure
  | succ fuel ih =>
    unfold assignment
    refine .after fun _ => .after fun value => .after fun again => ?_
    split
    · split
      · exact ih (targets ++ [value])
      · exact .failure
    · exact .pure trivial

/-- Which names are taken from the module makes no difference: it is an import either way. -/
theorem reads_importedFrom (fuel : Nat) : Reads Stmt.Dotless (importedFrom fuel) := by
  unfold importedFrom
  refine .after fun level => .after fun direct => ?_
  dsimp only
  split
  all_goals
    refine .after fun module => .after fun _ => .after fun _ =>
      .ite (.pure trivial) (.after fun _ => .ite ?_ ?_)
    · exact .after fun names => .after fun _ => .pure trivial
    · exact .after fun names => .pure trivial

theorem reads_expressionStatement (fuel : Nat) : Reads Stmt.Dotless (expressionStatement fuel) := by
  unfold expressionStatement
  refine .after fun e => .after fun annotated =>
    .ite ?_ (.after fun assigned => .ite ?_ (.after fun augmented => .ite ?_ ?_))
  · have hannotation : Reads Stmt.Dotless (do
        let _ ← expression fuel
        if ← operator? "=" then
          let _ ← assignedValue fuel
        return .annotate e) :=
      .after fun _ => .after fun _ => .ite (.after fun _ => .pure trivial) (.pure trivial)
    exact .ite (.after fun _ => hannotation) hannotation
  · exact .ite (reads_assignment fuel [e]) (.bind .failure fun _ (h : False) => h.elim)
  · have haugmentation : Reads Stmt.Dotless (do
        let _ ← assignedValue fuel
        return .augment e) :=
      .after fun _ => .pure trivial
    exact .ite (.after fun _ => haugmentation) haugmentation
  · exact .pure trivial

/-- The statement of a line declares no type: whichever word it begins with, it ends as another kind
of statement. -/
theorem reads_simpleStatement (fuel : Nat) : Reads Stmt.Dotless (simpleStatement fuel) := by
  unfold simpleStatement
  refine .after fun first => ?_
  dsimp only
  repeat' first
    | exact .pure trivial
    | exact .failure
    | exact reads_importedFrom fuel
    | exact reads_expressionStatement fuel
    | refine .after fun _ => ?_
    | split

theorem reads_simpleLine (fuel : Nat) : Reads AllDotless (simpleLine fuel) := by
  induction fuel with
  | zero => exact .failure
  | succ fuel ih =>
    unfold simpleLine
    refine (reads_simpleStatement fuel).bind fun first hfirst => .after fun more => ?_
    split
    · refine .after fun ends => ?_
      split
      · exact .after fun _ => .pure (allDotless_singleton.mpr hfirst)
      · exact ih.bind fun later hlater => .pure ⟨hfirst, hlater⟩
    · exact .after fun _ => .pure (allDotless_singleton.mpr hfirst)

/-- The name of a type is that of a single token. -/
theorem reads_definition {fuel : Nat} (hsuite : Reads AllDotless (suite fuel))
    (decorated : List Expr) : Reads Stmt.Dotless (definition (fuel + 1) decorated) := by
  unfold definition
  refine .after fun isType => .ite ?_ ?_
  · refine .after fun id => .after fun opened => ?_
    have htype (bases : List Expr × List (String × Expr)) : Reads Stmt.Dotless (do
        return .type id.text bases.1 bases.2 decorated (← suite fuel)) :=
      hsuite.bind fun body hbody => .pure ⟨id.dotless, hbody⟩
    exact .ite (.after fun arguments => htype arguments) (.after fun arguments => htype arguments)
  · have hfunction (id : String) (ps : Parameters) : Reads Stmt.Dotless (do
        return .function id ps decorated (← suite fuel)) :=
      .after fun _ => .pure trivial
    refine .after fun _ => .after fun _ => .after fun id => .after fun _ => .after fun ps =>
      .after fun _ => ?_
    exact .after fun _ => .ite (.after fun _ => hfunction id ps) (hfunction id ps)

/-- A compound statement that is neither a function nor a type is a block. -/
theorem reads_conditional (fuel : Nat) : Reads Stmt.Dotless (conditional fuel) := by
  cases fuel with
  | zero => exact .failure
  | succ fuel =>
    unfold conditional
    refine .after fun _ => .after fun body => .after fun _ => .ite ?_ ?_
    · exact .after fun _ => .pure trivial
    · exact .after fun _ => .pure trivial

theorem reads_guarded (fuel : Nat) : Reads Stmt.Dotless (guarded fuel) := by
  cases fuel with
  | zero => exact .failure
  | succ fuel =>
    unfold guarded
    dsimp only
    repeat' first
      | exact .pure trivial
      | refine .after fun _ => ?_
      | split

theorem reads_statement {fuel : Nat}
    (hdefinition : ∀ decorated, Reads Stmt.Dotless (definition fuel decorated))
    (hstatement : Reads AllDotless (statement fuel)) : Reads AllDotless (statement (fuel + 1)) := by
  have hsingle {reader : Parse Stmt} (h : Reads Stmt.Dotless reader) :
      Reads AllDotless (do return [← reader]) :=
    h.bind fun s hs => .pure (allDotless_singleton.mpr hs)
  have hblock {children : List Stmt} : Reads AllDotless (pure [.block children]) :=
    .pure (allDotless_singleton.mpr trivial)
  unfold statement
  refine .after fun tokens => ?_
  split
  · exact .after fun decorated => hsingle (hdefinition decorated)
  · exact hsingle (hdefinition [])
  · exact .ite (.after fun _ => hstatement) .failure
  · refine .ite (hsingle (hdefinition []))
      (.ite (.after fun _ => hsingle (reads_conditional fuel)) ?_)
    refine .ite (.after fun _ => .after fun _ => .after fun _ => .after fun _ => hblock)
      (.ite ?_ ?_)
    · exact .after fun _ => .after fun _ => .after fun _ => .after fun _ => .after fun _ =>
        .after fun _ => hblock
    · refine .ite (.after fun _ => .after fun _ => .after fun _ => hblock) ?_
      exact .ite (.after fun _ => hsingle (reads_guarded fuel)) (reads_simpleLine fuel)
  · refine .orElse ?_ (reads_simpleLine fuel)
    refine .after fun _ => .after fun _ => .after fun _ => .after fun _ => .after fun _ => ?_
    exact .after fun _ => .after fun _ => hblock
  · exact reads_simpleLine fuel

/-- By induction on the bound: what a body holds was read within a smaller one. -/
theorem reads_statements (fuel : Nat) :
    Reads AllDotless (statement fuel) ∧ Reads AllDotless (statements fuel) ∧
    Reads AllDotless (suite fuel) ∧
      ∀ decorated, Reads Stmt.Dotless (definition fuel decorated) := by
  induction fuel with
  | zero => exact ⟨.failure, .failure, .failure, fun _ => .failure⟩
  | succ fuel ih =>
    obtain ⟨hstatement, hstatements, hsuite, hdefinition⟩ := ih
    refine ⟨reads_statement hdefinition hstatement, ?_, ?_, reads_definition hsuite⟩
    · unfold statements
      refine .after fun next => ?_
      split
      · exact .pure trivial
      · exact .pure trivial
      · exact hstatement.bind fun first hfirst => hstatements.bind fun later hlater =>
          .pure (hfirst.append hlater)
    · unfold suite
      refine .after fun _ => .after fun next => .ite ?_ (reads_simpleLine fuel)
      refine .after fun _ => .after fun _ => hstatements.bind fun body hbody => .after fun _ =>
        .pure hbody

/-- No text that follows the grammar declares a type with a dot in its name. -/
theorem allDotless_of_statementsOf? {text : String} {body : List Stmt}
    (h : statementsOf? text = some body) : AllDotless body := by
  obtain ⟨tokens, -, h⟩ := Option.bind_eq_some_iff.mp h
  obtain ⟨⟨tree, rest⟩, hrun, h⟩ := Option.bind_eq_some_iff.mp h
  obtain rfl : tree = body := by
    dsimp only at h
    split at h
    · exact Option.some.inj h
    · cases h
  exact (reads_statements _).2.1 tokens tree rest hrun

end RetentionPlan.Source
