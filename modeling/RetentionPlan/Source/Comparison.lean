import RetentionPlan.Source.Tree

/-!
# Comparing trees

Two trees are compared branch by branch, and where they agree the comparison gives the proof that
they are the same.
-/
namespace RetentionPlan.Source

mutual
/-- The proof that two expressions are the same, if they are. -/
def Expr.same? : (a b : Expr) → Option (PLift (a = b))
  | .name id, .name id' => if h : id = id' then some ⟨by rw [h]⟩ else none
  | .text value, .text value' => if h : value = value' then some ⟨by rw [h]⟩ else none
  | .member e id, .member e' id' => do
    let ⟨he⟩ ← e.same? e'
    if h : id = id' then some ⟨by rw [he, h]⟩ else none
  | .call e, .call e' => (e.same? e').map fun ⟨h⟩ => ⟨by rw [h]⟩
  | .subscript e, .subscript e' => (e.same? e').map fun ⟨h⟩ => ⟨by rw [h]⟩
  | .starred e, .starred e' => (e.same? e').map fun ⟨h⟩ => ⟨by rw [h]⟩
  | .tuple es, .tuple es' => (Expr.sameAll? es es').map fun ⟨h⟩ => ⟨by rw [h]⟩
  | .list es, .list es' => (Expr.sameAll? es es').map fun ⟨h⟩ => ⟨by rw [h]⟩
  | .set es, .set es' => (Expr.sameAll? es es').map fun ⟨h⟩ => ⟨by rw [h]⟩
  | .other, .other => some ⟨rfl⟩
  | _, _ => none

/-- The proof that two lists of expressions are the same, if they are. -/
def Expr.sameAll? : (as bs : List Expr) → Option (PLift (as = bs))
  | [], [] => some ⟨rfl⟩
  | e :: es, e' :: es' => do
    let ⟨he⟩ ← e.same? e'
    let ⟨hes⟩ ← Expr.sameAll? es es'
    some ⟨by rw [he, hes]⟩
  | _, _ => none
end

def sameKeywords? : (ks ks' : List (String × Expr)) → Option (PLift (ks = ks'))
  | [], [] => some ⟨rfl⟩
  | (id, e) :: ks, (id', e') :: ks' => do
    let ⟨he⟩ ← e.same? e'
    let ⟨hks⟩ ← sameKeywords? ks ks'
    if h : id = id' then some ⟨by rw [h, he, hks]⟩ else none
  | _, _ => none

mutual
/-- The proof that two statements are the same, if they are. -/
def Stmt.same? : (a b : Stmt) → Option (PLift (a = b))
  | .function id ps ds body, .function id' ps' ds' body' => do
    let ⟨hds⟩ ← Expr.sameAll? ds ds'
    let ⟨hbody⟩ ← Stmt.sameAll? body body'
    if h : id = id' ∧ ps = ps' then some ⟨by rw [h.1, h.2, hds, hbody]⟩ else none
  | .type id bs ks ds body, .type id' bs' ks' ds' body' => do
    let ⟨hbs⟩ ← Expr.sameAll? bs bs'
    let ⟨hks⟩ ← sameKeywords? ks ks'
    let ⟨hds⟩ ← Expr.sameAll? ds ds'
    let ⟨hbody⟩ ← Stmt.sameAll? body body'
    if h : id = id' then some ⟨by rw [h, hbs, hks, hds, hbody]⟩ else none
  | .assign ts e, .assign ts' e' => do
    let ⟨hts⟩ ← Expr.sameAll? ts ts'
    let ⟨he⟩ ← e.same? e'
    some ⟨by rw [hts, he]⟩
  | .annotate e, .annotate e' => (e.same? e').map fun ⟨h⟩ => ⟨by rw [h]⟩
  | .augment e, .augment e' => (e.same? e').map fun ⟨h⟩ => ⟨by rw [h]⟩
  | .importModules names, .importModules names' =>
    if h : names = names' then some ⟨by rw [h]⟩ else none
  | .importFrom m level names, .importFrom m' level' names' =>
    if h : m = m' ∧ level = level' ∧ names = names' then some ⟨by rw [h.1, h.2.1, h.2.2]⟩ else none
  | .block body, .block body' => (Stmt.sameAll? body body').map fun ⟨h⟩ => ⟨by rw [h]⟩
  | .other, .other => some ⟨rfl⟩
  | _, _ => none

/-- The proof that two lists of statements are the same, if they are. -/
def Stmt.sameAll? : (as bs : List Stmt) → Option (PLift (as = bs))
  | [], [] => some ⟨rfl⟩
  | s :: ss, s' :: ss' => do
    let ⟨hs⟩ ← s.same? s'
    let ⟨hss⟩ ← Stmt.sameAll? ss ss'
    some ⟨by rw [hs, hss]⟩
  | _, _ => none
end

end RetentionPlan.Source
