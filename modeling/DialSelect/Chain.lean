/-
# DialSelect.Chain -- stages applied one after the other

A stage is a pick, a shuffle by the permuter that all shuffles of a run share, or
an arrangement by an order of its own.  A chain is a sequence of stages and nested
chains.  Absence passes through every stage unchanged.

Applying a chain threads the state of the shared permuter and collects the
reports: those of a stage, then one report that the stage of that number was
applied.  A nested chain numbers its own stages from zero.

The only fault is an index past the end, and only an order that is no permutation
can cause it.
-/
import DialSelect.Permuter.Basic
import DialSelect.Policy.Basic

namespace DialSelect

set_option autoImplicit false

inductive Stage where
  /-- A rule without randomness. -/
  | pick (rule : Pick)
  /-- The order of the shared permuter. -/
  | shuffle
  /-- An order that depends on the length alone. -/
  | arrange (order : Nat → List Nat)

/-- Stages and nested chains in sequence. -/
inductive Chain where
  | nil
  | stage (first : Stage) (rest : Chain)
  | nest (inner : Chain) (rest : Chain)

/-- The outcome of a stage or chain: the collection, the permuter's state and the
reports. -/
structure Applied (α σ : Type) where
  value : Option (List α)
  state : σ
  events : List Event

/-- The number of records present; nothing counts as zero. -/
def presentCount {α : Type} (value : Option (List α)) : Nat :=
  (value.map List.length).getD 0

variable {α σ : Type}

namespace Stage

/-- The stage of a policy: every shuffle of a run uses the shared permuter. -/
def ofPolicy : Policy → Stage
  | .pick rule => .pick rule
  | .shuffle => .shuffle

def apply (family : α → Option Family) (permuter : Permuter σ) (stage : Stage)
    (value : Option (List α)) (state : σ) : Except IndexFault (Applied α σ) :=
  match value with
  | none => .ok ⟨none, state, []⟩
  | some records =>
      match stage with
      | .pick rule => .ok ⟨rule.select family records, state, rule.reports family records⟩
      | .shuffle =>
          if records.length ≤ 1 then .ok ⟨some records, state, []⟩
          else do
            let (order, state) := permuter.draw records.length state
            return ⟨← Collection.arrange records order, state, []⟩
      | .arrange order => do
          return ⟨← Collection.arrange records (order records.length), state, []⟩

end Stage

namespace Chain

/-- The number of stages of the chain itself, a nested chain counting as one. -/
def length : Chain → Nat
  | .nil => 0
  | .stage _ rest => rest.length + 1
  | .nest _ rest => rest.length + 1

def ofList : List Stage → Chain
  | [] => .nil
  | step :: others => .stage step (ofList others)

def ofPolicies (policies : List Policy) : Chain :=
  ofList (policies.map Stage.ofPolicy)

def append : Chain → Chain → Chain
  | .nil, next => next
  | .stage first rest, next => .stage first (rest.append next)
  | .nest inner rest, next => .nest inner (rest.append next)

/-- The stages of a chain at every level, in the order they are applied. -/
def flatten : Chain → List Stage
  | .nil => []
  | .stage first rest => first :: rest.flatten
  | .nest inner rest => inner.flatten ++ rest.flatten

/-- Apply the stages of a chain, the first of which has that number. -/
def applyFrom (family : α → Option Family) (permuter : Permuter σ) (number : Nat) :
    Chain → Option (List α) → σ → Except IndexFault (Applied α σ)
  | .nil, value, state => .ok ⟨value, state, []⟩
  | .stage first rest, value, state => do
      let here ← first.apply family permuter value state
      let after ← applyFrom family permuter (number + 1) rest here.value here.state
      return ⟨after.value, after.state,
        here.events ++ .stageApplied number (presentCount here.value) :: after.events⟩
  | .nest inner rest, value, state => do
      let here ← applyFrom family permuter 0 inner value state
      let after ← applyFrom family permuter (number + 1) rest here.value here.state
      return ⟨after.value, after.state,
        here.events ++ .stageApplied number (presentCount here.value) :: after.events⟩

def apply (family : α → Option Family) (permuter : Permuter σ) (chain : Chain)
    (value : Option (List α)) (state : σ) : Except IndexFault (Applied α σ) :=
  applyFrom family permuter 0 chain value state

theorem flatten_append (first next : Chain) :
    (first.append next).flatten = first.flatten ++ next.flatten := by
  induction first with
  | nil => rfl
  | stage step rest ih => simp [append, flatten, ih]
  | nest inner rest _ ih => simp [append, flatten, ih]

end Chain

end DialSelect
