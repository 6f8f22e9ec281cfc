import TxnLog.Edit

/-!
# What happens around a tailing run

While a run waits, the writer may change the file, and the run may be cancelled. A `Scene`
holds the file as it is and a script of what each coming wait brings; when the script is over,
the next wait is cancelled.
-/

namespace TxnLog.Tailer

/-- The signals that cancel a run. -/
inductive Signal where
  | interrupt
  | terminate
  deriving DecidableEq, Repr

/-- The name of a signal. -/
def Signal.name : Signal → String
  | .interrupt => "SIGINT"
  | .terminate => "SIGTERM"

/-- Something that happens during a wait. -/
inductive Act where
  /-- The writer changes the file. -/
  | edit (e : Edit)
  /-- The run is cancelled for good. -/
  | cancel
  /-- Only this wait is interrupted. -/
  | interrupt
  /-- A signal arrives, which cancels the run. -/
  | signal (s : Signal)
  deriving DecidableEq, Repr

/-- The surroundings of a run. -/
structure Scene where
  /-- Whether the file exists. -/
  present : Bool := true
  /-- The bytes of the file now. -/
  content : Bytes := []
  /-- What happens in each of the coming waits. -/
  script : List (List Act) := []
  /-- The run is cancelled. -/
  cancelled : Bool := false
  /-- The number of printed lines at which the run is cancelled, zero for none. -/
  cancelAfter : Nat := 0
  /-- The signals that have arrived, in order. -/
  signals : List Signal := []
  deriving DecidableEq, Repr

namespace Scene

/-- The scene after something happened. -/
def perform (s : Scene) : Act → Scene
  | .edit e => { s with content := e.apply s.content }
  | .cancel => { s with cancelled := true }
  | .interrupt => s
  | .signal sig => { s with cancelled := true, signals := s.signals ++ [sig] }

/-- The run is cancelled once `lines` lines are printed. -/
def cancels (s : Scene) (lines : Nat) : Bool :=
  s.cancelled || (s.cancelAfter != 0 && s.cancelAfter ≤ lines)

/-- A wait, after `lines` printed lines: whether it is interrupted, and the scene afterwards. -/
def wait (s : Scene) (lines : Nat) : Bool × Scene :=
  match s.script with
  | [] => (true, { s with cancelled := true })
  | acts :: script =>
    let after := acts.foldl perform { s with script }
    (after.cancels lines || acts.contains .interrupt, after)

/-- What happens does not change the script. -/
theorem script_foldl_perform (acts : List Act) (s : Scene) :
    (acts.foldl perform s).script = s.script := by
  induction acts generalizing s with
  | nil => rfl
  | cons a acts ih => rw [List.foldl_cons, ih]; cases a <;> rfl

/-- A wait that is not interrupted uses up an entry of the script. -/
theorem script_of_wait {s after : Scene} {lines : Nat} (h : s.wait lines = (false, after)) :
    after.script.length < s.script.length := by
  simp only [wait] at h
  split at h
  · simp at h
  · next heq =>
    simp only [Prod.mk.injEq] at h
    rw [← h.2, script_foldl_perform, heq]
    simp

end Scene

end TxnLog.Tailer
