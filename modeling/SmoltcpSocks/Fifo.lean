import Mathlib.Data.List.Basic

/-! First-in first-out queues as an observer sees them, and the bounded channels that programs build
them from. `Fifo.run` replays a list of operations on one queue; what came out of it, followed by what
it still holds, is what went in. -/

namespace Fifo

variable {α : Type}

/-- An operation on a queue with its outcome. -/
inductive Op (α : Type) where
  | put (x : α)
  | get (x : α)
  | miss

namespace Op

def puts : Op α → List α
  | .put x => [x]
  | _ => []

def gets : Op α → List α
  | .get x => [x]
  | _ => []

end Op

/-- The contents after an operation, when that outcome is possible: the oldest item is taken out, and
only an empty queue gives nothing. -/
def step [DecidableEq α] : List α → Op α → Option (List α)
  | queue, .put x => some (queue ++ [x])
  | y :: rest, .get x => if x = y then some rest else none
  | [], .get _ => none
  | [], .miss => some []
  | _ :: _, .miss => none

def run [DecidableEq α] (queue : List α) (ops : List (Op α)) : Option (List α) := ops.foldlM step queue

variable [DecidableEq α] {queue queue' : List α} {op : Op α} {ops : List (Op α)}

theorem run_snoc (h : run queue ops = some queue') : run queue (ops ++ [op]) = step queue' op := by
  simp only [run] at h ⊢
  rw [List.foldlM_append, h]
  simp

/-- An operation keeps what was taken out and what is left in the order in which it came. -/
theorem conserved_step (h : step queue op = some queue') : op.gets ++ queue' = queue ++ op.puts := by
  cases op with
  | put x =>
      cases h
      rfl
  | get x =>
      rcases queue with _ | ⟨y, rest⟩
      · cases h
      · simp only [step] at h
        split at h
        · rename_i heq
          cases h
          simp [Op.gets, Op.puts, heq]
        · cases h
  | miss =>
      rcases queue with _ | ⟨y, rest⟩ <;> cases h
      rfl

/-- What came out, followed by what is left, is what was there and what went in. -/
theorem conserved (h : run queue ops = some queue') :
    ops.flatMap Op.gets ++ queue' = queue ++ ops.flatMap Op.puts := by
  induction ops generalizing queue with
  | nil =>
      cases h
      simp
  | cons op rest ih =>
      obtain ⟨next, hnext, hrest⟩ := Option.bind_eq_some_iff.mp h
      calc (op :: rest).flatMap Op.gets ++ queue'
          = op.gets ++ (rest.flatMap Op.gets ++ queue') := by simp
        _ = op.gets ++ (next ++ rest.flatMap Op.puts) := by rw [ih hrest]
        _ = (op.gets ++ next) ++ rest.flatMap Op.puts := by rw [List.append_assoc]
        _ = (queue ++ op.puts) ++ rest.flatMap Op.puts := by rw [conserved_step hnext]
        _ = queue ++ (op :: rest).flatMap Op.puts := by simp

end Fifo

/-- A bounded channel. Once its receiver is gone it takes nothing more, and what it holds is lost. -/
structure Channel (α : Type) where
  capacity : Nat
  queue : List α
  closed : Bool

namespace Channel

variable {α : Type}

/-- An empty channel that holds up to `capacity` items. -/
def new (capacity : Nat) : Channel α := ⟨capacity, [], false⟩

def hasRoom (c : Channel α) : Bool := !c.closed && decide (c.queue.length < c.capacity)

/-- Send without waiting; a channel without room gives the item back. -/
def trySend (c : Channel α) (x : α) : Option (Channel α) :=
  if c.hasRoom then some { c with queue := c.queue ++ [x] } else none

def tryRecv (c : Channel α) : Option (α × Channel α) :=
  match c.queue with
  | [] => none
  | x :: rest => some (x, { c with queue := rest })

def close (c : Channel α) : Channel α := { c with closed := true }

variable {c d : Channel α} {x : α}

theorem trySend_eq_some_iff :
    c.trySend x = some d ↔ c.hasRoom = true ∧ { c with queue := c.queue ++ [x] } = d := by
  rw [trySend, Option.ite_none_right_eq_some, Option.some.injEq]

theorem tryRecv_eq_none_iff : c.tryRecv = none ↔ c.queue = [] := by
  unfold tryRecv
  split <;> simp_all

end Channel
