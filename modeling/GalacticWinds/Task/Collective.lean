/-!
What the tasks of a run tell one another. A communicator is a value that every collective call
hands on, so the calls of a task are made in a definite order.
-/

namespace GalacticWinds

class Collective (C : Type) where
  task : C → Nat
  taskCount : C → Nat
  any : C → Bool → Bool × C
  sum : C → Int → Int × C

/-- The value that the first task holds, handed to every task. -/
class Broadcaster (C β : Type) where
  broadcast : C → Option β → Option β × C

structure SingleTask where
  deriving DecidableEq

instance SingleTask.communicator : Collective SingleTask where
  task _ := 0
  taskCount _ := 1
  any c b := (b, c)
  sum c n := (n, c)

instance SingleTask.broadcaster {β : Type} : Broadcaster SingleTask β where
  broadcast c v := (v, c)

/-- One task among several, the answers of the others fixed beforehand. -/
structure ScriptedTask (β : Type) where
  task : Nat
  anyElsewhere : Bool
  /-- What the other tasks contribute to each sum in turn, and nothing after the last. -/
  sumsElsewhere : List Int
  held : Option β

instance ScriptedTask.communicator {β : Type} : Collective (ScriptedTask β) where
  task c := c.task
  taskCount c := c.task + 1
  any c b := (b || c.anyElsewhere, c)
  sum c n := (n + c.sumsElsewhere.headD 0, { c with sumsElsewhere := c.sumsElsewhere.tail })

instance ScriptedTask.broadcaster {β : Type} : Broadcaster (ScriptedTask β) β where
  broadcast c v := (v <|> c.held, c)

end GalacticWinds
