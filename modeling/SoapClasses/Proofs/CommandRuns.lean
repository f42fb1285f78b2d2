import SoapClasses.Commands
import SoapClasses.FileTrees
import SoapClasses.Proofs.Outcomes

/-!
# Runs of commands

What a command that succeeds has done can be taken apart step by step: each step has succeeded on the
workspace that the step before it left.
-/

namespace SoapClasses

/-- A step of a command on a workspace. -/
abbrev CommandStep (α : Type) := ExceptT CommandError (StateM Workspace) α

/-- The outcome of a step on a workspace, and the workspace that it leaves. -/
def runOn {α : Type} (step : CommandStep α) (before : Workspace) :
    Except CommandError α × Workspace :=
  StateT.run (ExceptT.run step) before

section

variable {α β : Type} {before after : Workspace}

theorem runOn_pure_eq_ok_iff {value result : α} :
    runOn (pure value) before = (.ok result, after) ↔ value = result ∧ before = after := by
  show ((Except.ok value, before) = (.ok result, after)) ↔ _
  simp

theorem runOn_bind (first : CommandStep α) (next : α → CommandStep β) (before : Workspace) :
    runOn (first >>= next) before =
      match runOn first before with
      | (.ok value, middle) => runOn (next value) middle
      | (.error error, middle) => (.error error, middle) := by
  unfold runOn
  show StateT.run (ExceptT.run first >>= ExceptT.bindCont next) before = _
  rw [StateT.run_bind]
  cases StateT.run (ExceptT.run first) before with
  | mk outcome middle => cases outcome <;> rfl

theorem runOn_bind_eq_ok_iff {first : CommandStep α} {next : α → CommandStep β} {result : β} :
    runOn (first >>= next) before = (.ok result, after) ↔
      ∃ value middle, runOn first before = (.ok value, middle) ∧
        runOn (next value) middle = (.ok result, after) := by
  rw [runOn_bind]
  cases runOn first before with
  | mk outcome middle => cases outcome <;> simp [and_assoc]

theorem runOn_mk_pure_eq_ok_iff {outcome : Except CommandError α} {value : α} :
    runOn (ExceptT.mk (pure outcome)) before = (.ok value, after) ↔
      outcome = .ok value ∧ before = after := by
  show ((outcome, before) = (.ok value, after)) ↔ _
  simp

theorem runOn_access_eq_ok_iff {action : StateM Workspace (Except FileFault α)}
    {wrap : FileFault → CommandError} {value : α} :
    runOn (access action wrap) before = (.ok value, after) ↔
      Id.run (StateT.run action before) = (.ok value, after) := by
  have hrun : runOn (access action wrap) before =
      ((Id.run (StateT.run action before)).1.mapError wrap,
        (Id.run (StateT.run action before)).2) := rfl
  rw [hrun]
  cases Id.run (StateT.run action before) with
  | mk outcome middle => cases outcome <;> simp [Except.mapError]

theorem runOn_lift_eq_ok_iff {action : StateM Workspace α} {value : α} :
    runOn (ExceptT.lift action) before = (.ok value, after) ↔
      Id.run (StateT.run action before) = (value, after) := by
  have hrun : runOn (ExceptT.lift action) before =
      (.ok (Id.run (StateT.run action before)).1, (Id.run (StateT.run action before)).2) := rfl
  rw [hrun]
  cases Id.run (StateT.run action before) with
  | mk outcome middle => simp

theorem runOn_readFile_eq_ok_iff {path : String} {wrap : FileFault → CommandError}
    {bytes : List UInt8} :
    runOn (access (FileAccess.readFile path) wrap) before = (.ok bytes, after) ↔
      before.tree.read before.home path = .ok bytes ∧ before = after := by
  rw [runOn_access_eq_ok_iff]
  show ((before.tree.read before.home path, before) = (.ok bytes, after)) ↔ _
  simp

theorem runOn_writeFile_eq_ok_iff {path content : String} {wrap : FileFault → CommandError} :
    runOn (access (FileAccess.writeFile path content) wrap) before = (.ok (), after) ↔
      ∃ tree, before.tree.write before.home path content.toUTF8.toList = .ok tree ∧
        after = { before with tree := tree } := by
  rw [runOn_access_eq_ok_iff]
  show (before.update (before.tree.write before.home path content.toUTF8.toList) =
    (.ok (), after)) ↔ _
  cases before.tree.write before.home path content.toUTF8.toList with
  | error fault => simp [Workspace.update]
  | ok tree => simp [Workspace.update, eq_comm]

end

theorem runOn_eq_ok_of_isOk {step : CommandStep Unit} {before : Workspace}
    (h : (runOn step before).1.isOk = true) : runOn step before = (.ok (), (runOn step before).2) := by
  obtain ⟨_, houtcome⟩ := exists_eq_ok_of_isOk h
  exact Prod.ext houtcome rfl

end SoapClasses
