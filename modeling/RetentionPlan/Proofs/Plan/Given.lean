import RetentionPlan.Proofs.Plan.Growth

/-!
# What a planner was given

Whatever a loader answers and wherever a step ends, the planner keeps its rules, its scanner, the
place of its manifest and the members its sink refuses. Only entering a phase changes the phase.
-/
namespace RetentionPlan.Plan

open Loading (Loader Ensures)

variable {σ : Type} (loader : Loader (StateM σ))

namespace Planner

theorem keeps_note (p : Planner) (d : TypeDescriptor) : p.Keeps (p.note d) := by
  by_cases h : d.name ∈ p.reached.seen
  · have hnote : p.note d = p := by simp [note, Reached.note_of_mem h]
    rw [hnote]
    exact .refl p
  · unfold note Reached.note Distinct.insertNew
    simp only [h, decide_false, Bool.not_false]
    exact ⟨rfl, rfl, rfl, rfl, rfl, rfl⟩

theorem keeps_survey (w : Workspace) (classpath : List Path) (phase : Phase) (p : Planner) :
    Ensures (fun r => p.Keeps r.2) (p.survey w loader classpath phase) := by
  intro s
  obtain ⟨names, hgrows⟩ := grows_survey loader w classpath phase p s
  exact hgrows.keeps

theorem keeps_watchRoots (names watched : List String) (p : Planner) :
    Ensures (fun r => p.Keeps r.2.2) (p.watchRoots loader names watched) :=
  fun s => (grows_watchRoots loader .preAnalysis names watched p s).keeps

end Planner

theorem keeps_deliver (d : TypeDescriptor) (watched : List String) (p : Planner) :
    Ensures (fun r => p.Keeps r.2) (deliver loader d watched p) := by
  induction watched generalizing p with
  | nil => exact .pure (.refl p)
  | cons root rest ih =>
    unfold deliver
    split
    · exact ih p
    · refine .bind_any fun answer => ?_
      rcases answer with e | _ | _
      · exact .pure (.refl p)
      · exact ih p
      · exact (ih _).bind fun last hlast => .pure ((p.keeps_note d).trans hlast)

theorem keeps_analyze (watched reachable : List String) (p : Planner) :
    Ensures (fun r => p.Keeps r.2) (analyze loader watched reachable p) := by
  induction reachable generalizing p with
  | nil => exact .pure (.refl p)
  | cons name rest ih =>
    refine .bind_any fun found => ?_
    rcases found with e | _ | d
    · exact .pure (.refl p)
    · exact fun s => (p.gains_leave _).toKeeps.trans (ih _ s)
    · refine (keeps_deliver loader d watched p).bind fun told htold => ?_
      obtain ⟨_ | count, q⟩ := told
      · exact .pure htold
      · exact (ih q).bind fun last hlast => .pure (htold.trans hlast)

end RetentionPlan.Plan
