import DnsHealth.Time.Duration

/-!
# Tasks

What the library asks of the world besides answers: to run tasks side by side, to go on when one of
them dies, to wait, and to look at a watch.
-/

namespace DnsHealth

/-- A monad in which tasks run. -/
class Tasks (m : Type → Type) where
  /-- Runs a task that may die; nothing comes back if it does. -/
  isolate : m α → m (Option α)
  /-- Runs tasks side by side and gives their results in the order of the tasks. -/
  together : List (m α) → m (List α)
  /-- Waits. -/
  pause : Duration → m Unit
  /-- The time on a watch that only ever moves forward. -/
  watch : m Duration

/-- Without effects tasks run one after the other, none dies, and no time passes. -/
instance : Tasks Id where
  isolate x := some x
  together xs := xs
  pause _ := ()
  watch := Duration.zero

/-- A computation that may die dies for itself when it is a task. -/
instance : Tasks Option where
  isolate x := some x
  together xs := xs.mapM id
  pause _ := some ()
  watch := some Duration.zero

end DnsHealth
