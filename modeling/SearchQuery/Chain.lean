/-!
# Chains of calls

Calls that follow one another on the same state, with parts among them that are gone through only
under a condition.  Which calls a chain comes to is known before it is gone through
(`Chain.steps`), and going through it is going through these, one after the other.
-/

namespace SearchQuery

def when {σ : Type} (condition : Bool) (part : σ → σ) (s : σ) : σ :=
  if condition then part s else s

def whenElse {σ : Type} (condition : Bool) (part otherwise : σ → σ) (s : σ) : σ :=
  if condition then part s else otherwise s

/-- A chain of calls, from the first to the last. -/
inductive Chain (β : Type) where
  | done
  | call (call : β) (rest : Chain β)
  | when (condition : Bool) (part rest : Chain β)
  | whenElse (condition : Bool) (part otherwise rest : Chain β)

namespace Chain

variable {β σ : Type}

/-- Goes through a chain, where `step` is what one call does. -/
def run (step : σ → β → σ) : Chain β → σ → σ
  | done, s => s
  | call c rest, s => rest.run step (step s c)
  | when condition part rest, s =>
    rest.run step (SearchQuery.when condition (part.run step) s)
  | whenElse condition part otherwise rest, s =>
    rest.run step (SearchQuery.whenElse condition (part.run step) (otherwise.run step) s)

def steps : Chain β → List β
  | done => []
  | call c rest => c :: rest.steps
  | when condition part rest => (if condition then part.steps else []) ++ rest.steps
  | whenElse condition part otherwise rest =>
    (if condition then part.steps else otherwise.steps) ++ rest.steps

/-- **Going through a chain** is going through its calls. -/
theorem run_eq_foldl (step : σ → β → σ) (chain : Chain β) (s : σ) :
    chain.run step s = chain.steps.foldl step s := by
  induction chain generalizing s with
  | done => rfl
  | call c rest ih => exact ih (step s c)
  | when condition part rest ihpart ihrest =>
    rw [run, steps, List.foldl_append, ihrest, SearchQuery.when]
    cases condition with
    | false => rfl
    | true => rw [if_pos rfl, if_pos rfl, ihpart]
  | whenElse condition part otherwise rest ihpart ihotherwise ihrest =>
    rw [run, steps, List.foldl_append, ihrest, SearchQuery.whenElse]
    cases condition with
    | false => rw [if_neg Bool.false_ne_true, if_neg Bool.false_ne_true, ihotherwise]
    | true => rw [if_pos rfl, if_pos rfl, ihpart]

end Chain

end SearchQuery
