import WatchLang.Proofs.InputLines

/-!
# Runs that show a rule

A command shows a view of the rule that is given with it or that stands on the input. Which of the two it is makes no
difference to what is written, so a run is told by the rule that it sees (`Showing`): where the view of this rule can be
displayed, every such run ends well and writes just that (`Showing.response_eq`).
-/

set_option autoImplicit false

namespace WatchLang

/-- A run that shows a view of a rule: what is given with the command and what stands on the input, where the command
finds this rule. -/
structure Showing (view : View) (rule : String) where
  given : String
  input : List UInt8
  sees : ruleText? given input = some rule

namespace Showing

variable {view : View} {rule : String}

/-- The run on a rule that stands on the input. -/
def onInput (view : View) (rule : String) : Showing view rule :=
  ⟨"-", encoded rule, decode?_encoded rule⟩

/-- What a run answers. -/
def response (renderer : Renderer) (run : Showing view rule) : Response :=
  (Command.inspect view run.given).run renderer run.input

/-- What a run writes. -/
def output (renderer : Renderer) (run : Showing view rule) : String :=
  (run.response renderer).output

variable (renderer : Renderer) (run : Showing view rule)

/-- A run answers with what the view displays. -/
theorem response_eq {displayed : String} (shown : view.display rule = .ok displayed) :
    run.response renderer = ⟨0, displayed, ""⟩ := by
  simp only [response, Command.run, run.sees, shown]

end Showing

section Read

variable (renderer : Renderer) {rule : String} {p : Program} (read : Program.ofText rule = .ok p)

include read

/-- Formatting answers a rule with its canonical text on one line. -/
theorem Showing.response_canonical (run : Showing .canonical rule) :
    run.response renderer = ⟨0, p.text ++ "\n", ""⟩ :=
  run.response_eq renderer (by rw [View.display, read]; rfl)

/-- Parsing answers a rule with the outline of its tree. -/
theorem Showing.response_outline (run : Showing .outline rule) :
    run.response renderer = ⟨0, p.outline (.block 0) ++ "\n", ""⟩ :=
  run.response_eq renderer (by rw [View.display, read]; rfl)

/-- Formatting what stands on the input answers with its canonical text on one line. -/
theorem run_format_eq : (Command.inspect .canonical "-").run renderer (encoded rule) = ⟨0, p.text ++ "\n", ""⟩ :=
  (Showing.onInput .canonical rule).response_canonical renderer read

end Read

end WatchLang
