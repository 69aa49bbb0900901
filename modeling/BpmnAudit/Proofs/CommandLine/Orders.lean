import BpmnAudit.CommandLine.Program

/-!
# Orders of the program

Which calls of the program order a validation (`Invocation.Orders`): those whose arguments are the
name of the command and then, however they are spelled and mixed, switches and the path of a file
from which the command reads an order. Every order has a spelling of its own
(`Invocation.orders_spelled`), so any choice of switches comes up. Such a call runs the order, and
cleans up its outputs for want of a terminal (`Invocation.Orders.runOnTerminal_eq`).
-/

namespace BpmnAudit

namespace Invocation

variable {invocation : Invocation} {order : ValidateOrder}

def Orders (invocation : Invocation) (order : ValidateOrder) : Prop :=
  ∃ rest arguments, invocation.arguments = Command.validate.tag :: rest ∧
    readArguments validateSwitches true {} rest = .ok arguments ∧
    arguments.has .help = false ∧ checkOrder invocation.entryAt arguments = .ok order

/-- The settings of a call that orders a validation. -/
def settings (invocation : Invocation) (order : ValidateOrder) : Settings :=
  order.settings (.ofEnvironment invocation.environment)

/-! ## What orders run -/

/-- The name of the command ends the switches of the program itself. -/
theorem readArguments_validate (rest : List String) :
    readArguments helpSwitches false {} (Command.validate.tag :: rest) =
      .ok { positional := Command.validate.tag :: rest } := by
  unfold readArguments
  rw [if_neg (by decide), if_neg (by decide), if_neg (by decide)]
  rfl

theorem Orders.runOnTerminal_eq (h : invocation.Orders order) :
    runOnTerminal invocation = order.run (.ofEnvironment invocation.environment) := by
  obtain ⟨rest, arguments, given, read, unhelped, checked⟩ := h
  have command : Command.ofTag? Command.validate.tag = some .validate := by decide
  unfold runOnTerminal
  rw [given, readArguments_validate]
  show runNamed invocation (Command.validate.tag :: rest) = _
  unfold runNamed
  simp only [command, runCommand, read, unhelped, checked, Bool.false_eq_true, if_false]

/-- What is left of the end of an order away from a terminal: how it ends, and the text that it
printed. -/
theorem Orders.runProgram_eq (h : invocation.Orders order) :
    let completion := order.run (.ofEnvironment invocation.environment)
    (runProgram invocation).status = completion.status ∧
      (runProgram invocation).crash = completion.crash ∧
      (runProgram invocation).stdout = Text.withoutTerminal completion.stdout := by
  unfold runProgram
  rw [h.runOnTerminal_eq]
  exact ⟨rfl, rfl, rfl⟩

end Invocation

/-! ## How orders are given -/

namespace ValidateOrder

/-- The switches of an order, each with its name in front of its value. -/
def switches (order : ValidateOrder) : List (Setting ValidateKey × List String) :=
  [(⟨.format, some order.format.tag⟩, ["--format", order.format.tag])] ++
    (if order.strictSimulation then [(⟨.strictSimulation, none⟩, ["--strict-simulation"])]
      else []) ++
    (order.element.elim [] fun id => [(⟨.element, some id⟩, ["--element", id])]) ++
    (if order.verbose then [(⟨.verbose, none⟩, ["--verbose"])] else [])

/-- Arguments of the program that give an order. -/
def spelled (order : ValidateOrder) : List String :=
  Command.validate.tag :: order.switches.flatMap Prod.snd ++ ["--", order.path]

/-- What the command reads off them. -/
def arguments (order : ValidateOrder) : Arguments ValidateKey where
  settings := order.switches.map Prod.fst
  positional := [order.path]

theorem readArguments_spelled (order : ValidateOrder) :
    readArguments validateSwitches true {} (order.switches.flatMap Prod.snd ++ ["--", order.path]) =
      .ok order.arguments := by
  obtain ⟨path, bytes, format, strict, element, verbose⟩ := order
  cases strict <;> cases element <;> cases verbose <;> rfl

theorem checkOrder_arguments {entryAt : String → Option Entry} (order : ValidateOrder)
    (file : entryAt order.path = some (.file order.bytes))
    (unbroken : order.path.contains '\x00' = false) :
    checkOrder entryAt order.arguments = .ok order := by
  have format : checkFormat (order.arguments.value? .format) = .ok order.format := by
    obtain ⟨path, bytes, format, strict, element, verbose⟩ := order
    cases format <;> cases strict <;> cases element <;> cases verbose <;> rfl
  have read : checkFile entryAt order.arguments.positional = .ok (order.path, order.bytes) := by
    show checkFile entryAt [order.path] = _
    rw [checkFile, unbroken, file]
    rfl
  unfold checkOrder
  rw [format, read]
  obtain ⟨path, bytes, format, strict, element, verbose⟩ := order
  cases strict <;> cases element <;> cases verbose <;> rfl

end ValidateOrder

/-- Any order to validate a file can be given, whatever its switches. -/
theorem Invocation.orders_spelled {invocation : Invocation} {order : ValidateOrder}
    (given : invocation.arguments = order.spelled)
    (file : invocation.entryAt order.path = some (.file order.bytes))
    (unbroken : order.path.contains '\x00' = false) : invocation.Orders order := by
  have unhelped : order.arguments.has .help = false := by
    obtain ⟨path, bytes, format, strict, element, verbose⟩ := order
    cases strict <;> cases element <;> cases verbose <;> rfl
  exact ⟨_, _, given, order.readArguments_spelled, unhelped,
    order.checkOrder_arguments file unbroken⟩

end BpmnAudit
