import MailTemplate.Interpolation
import MailTemplate.Script.Evaluate

/-! A sandbox runs the expressions of one template, which share their variables. A result is
taken over as a text by the function `String`, also where a program has replaced it. -/

namespace MailTemplate.Script

open Interpolation (Failure Outcome)

structure Sandbox where
  realm : Realm

abbrev InSandbox := StateT Sandbox Logged

namespace Sandbox

/-- Something was thrown outside of all programs. -/
def thrownInside : String := "Exception generated by QuickJS"

/-- A sandbox takes memory before the first program; what is missing first is told. -/
def create (limits : Limits) : Except Failure Sandbox :=
  let memory := limits.memoryLimit.map UInt64.toNat
  if memory.any (· ≤ Limits.sandboxMemory) then
    .error (.engine "Allocation failed while creating object")
  else if memory.any (· ≤ Limits.globalsMemory) then .error (.engine thrownInside)
  else .ok ⟨.initial limits⟩

/-- Runs a computation; its effects on the variables stay also if it throws. -/
def run {α : Type} (computation : Run α) : InSandbox (Except Abrupt α) := fun sandbox => do
  let (result, realm) ← computation.run.run sandbox.realm
  return (result, ⟨realm⟩)

/-- Why a value is not taken over as a text. -/
inductive Refusal where
  | thrown (value : Value)
  | refused (text : String)

def wrongKind (found wanted : String) : Refusal :=
  .refused ("Error converting from js '" ++ found ++ "' into type '" ++ wanted ++ "'")

def textOf (value : Value) : InSandbox (Except Refusal String) := do
  let function := ((← get).realm.global? "String").getD .undefined
  if !function.isFunction then return .error (wrongKind function.kind "function")
  match ← run (Evaluate.outsideCall function [value]) with
  | .ok (.text units) =>
    match Text.Units.toString? units with
    | .ok text => return .ok text
    | .error bytes => return .error (.refused (Evaluate.conversionFault bytes))
  | .ok other => return .error (wrongKind other.kind "string")
  | .error (.thrown value) | .error (.returned value) => return .error (.thrown value)

def uncaught : Failure :=
  .thrown "uncaught exception"

def failureOf (thrown : Value) : InSandbox Failure := do
  match ← textOf thrown with
  | .ok text => return .thrown text
  | .error _ => return uncaught

/-- The outcome for the value of a program; an empty text is no result. -/
def outcomeOf (value : Value) : InSandbox Outcome := do
  if value.isNullish then return .ok none
  match ← textOf value with
  | .ok text => return .ok (if text.isEmpty then none else some text)
  | .error (.refused text) => return .error (.engine text)
  | .error (.thrown value) => return .error (← failureOf value)

def nulPosition? (code : String) : Option Nat :=
  let before := code.toList.takeWhile (· != '\x00')
  if before.length < code.length then some (String.ofList before).utf8ByteSize else none

def nulFault (position : Nat) : Failure :=
  .engine ("String contained internal null bytes: nul byte found in provided data at position: " ++
    Decimal.Layout.digitsOf position)

/-- The time of a program begins to run before it is looked at. -/
def startClock : InSandbox Unit :=
  modify fun sandbox => { sandbox with realm := { sandbox.realm with isTimed := true } }

def evaluate (code : String) : InSandbox Outcome := do
  startClock
  match nulPosition? code with
  | some position => return .error (nulFault position)
  | none =>
    match ← run (Evaluate.program code) with
    | .ok value => outcomeOf value
    | .error (.thrown value) | .error (.returned value) => return .error (← failureOf value)

/-- Gives a variable for all programs a value, unless it is one that no program could change. -/
def setGlobal (name : String) (value : Json.Value) : InSandbox (Except Failure Unit) := do
  let result ← run do
    if (← get).limits.stackSize < Limits.variableSize then Run.overflow
    let value ← ofJson value
    if (← get).setsInherited name then Run.watchClock
    match (← get).setGlobal name value with
    | .ok realm =>
      set realm
      return true
    | .error _ => return false
  match result with
  | .ok true => return .ok ()
  | _ => return .error (.invalidGlobal name thrownInside)

/-- Defines the variables in turn, up to the first that cannot be. -/
def setGlobals : Json.Members → InSandbox (Except Failure Unit)
  | [] => return .ok ()
  | (name, value) :: members => do
    match ← setGlobal name value with
    | .ok () => setGlobals members
    | .error failure => return .error failure

def withGlobals (limits : Limits) (globals : Json.Members) : Logged (Except Failure Sandbox) := do
  match create limits with
  | .error failure => return .error failure
  | .ok sandbox =>
    let (result, sandbox) ← (setGlobals globals).run sandbox
    return result.map fun () => sandbox

def interpolate (errorStyle template : String) : InSandbox String :=
  Interpolation.interpolate evaluate errorStyle template

end Sandbox

end MailTemplate.Script
