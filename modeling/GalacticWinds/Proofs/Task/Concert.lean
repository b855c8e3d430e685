import GalacticWinds.Task.Collective
import Mathlib.Algebra.BigOperators.Fin
import Mathlib.Data.Fintype.BigOperators

/-! Several tasks that talk to one another. Each of them is handed the answers to its calls by
number and keeps a list of the calls; what makes the answers those of one conversation is stated of
the lists of all. -/

namespace GalacticWinds

inductive Call where
  | any (b : Bool)
  | sum (n : Int)

structure Answers where
  any : Nat → Bool
  sum : Nat → Int

structure Member where
  task : Nat
  taskCount : Nat
  answers : Answers
  calls : List Call

def Answers.member (answers : Answers) (task taskCount : Nat) : Member :=
  ⟨task, taskCount, answers, []⟩

namespace Member

instance communicator : Collective Member where
  task m := m.task
  taskCount m := m.taskCount
  any m b := (m.answers.any m.calls.length, { m with calls := m.calls ++ [.any b] })
  sum m n := (m.answers.sum m.calls.length, { m with calls := m.calls ++ [.sum n] })

variable (m : Member)

lemma sum_eq (n : Int) :
    Collective.sum m n =
      (m.answers.sum m.calls.length, { m with calls := m.calls ++ [.sum n] }) :=
  rfl

end Member

/-- Where all tasks make the same call, each of them is told what they say together. -/
structure Concerted {n : ℕ} (answers : Answers) (calls : Fin n → List Call) : Prop where
  any : ∀ (m : ℕ) (b : Fin n → Bool), (∀ k, (calls k)[m]? = some (.any (b k))) →
    (answers.any m = true ↔ ∃ k, b k = true)
  sum : ∀ (m : ℕ) (x : Fin n → Int), (∀ k, (calls k)[m]? = some (.sum (x k))) →
    answers.sum m = ∑ k, x k

end GalacticWinds
