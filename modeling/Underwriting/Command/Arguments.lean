import Underwriting.Command.Options

/-!
Reading the command line. Options and flags may stand anywhere, a double hyphen makes words of all
that follow it, and every value is read where it stands; a value behind its option must not start
with a hyphen. An option is given once in each place, except that verbosity flags are counted.
-/

namespace Underwriting.Command

inductive Stop
  | usage
  | version
  | help
deriving DecidableEq

inductive Scope
  | root
  | add
  | rules
  | doctor
deriving DecidableEq

def Scope.ofName? : String → Option Scope
  | "add" => some .add
  | "rules" => some .rules
  | "doctor" => some .doctor
  | _ => none

inductive Flag
  | verbose
  | quiet
  | version
  | help
  | dryRun
  | asJson
deriving DecidableEq

def Flag.ofName? (scope : Scope) (name : String) : Option Flag :=
  match scope, name with
  | _, "verbose" => some .verbose
  | _, "quiet" => some .quiet
  | _, "help" => some .help
  | .root, "version" => some .version
  | .add, "dry-run" => some .dryRun
  | .doctor, "json" => some .asJson
  | _, _ => none

def Flag.ofLetter? (scope : Scope) (letter : Char) : Option Flag :=
  match scope, letter with
  | _, 'v' => some .verbose
  | _, 'q' => some .quiet
  | _, 'h' => some .help
  | .root, 'V' => some .version
  | _, _ => none

inductive Setting
  | settingsPath
  | database
  | evaluationDate
  | colour
  | logLevel
  | logLayout
  | logPath
  | contract
  | amount
deriving DecidableEq

def Setting.ofName? (scope : Scope) (name : String) : Option Setting :=
  match scope, name with
  | _, "config" => some .settingsPath
  | _, "database" => some .database
  | _, "as-of" => some .evaluationDate
  | _, "color" => some .colour
  | _, "log-level" => some .logLevel
  | _, "log-format" => some .logLayout
  | _, "log-file" => some .logPath
  | .rules, "contract" => some .contract
  | .rules, "amount" => some .amount
  | _, _ => none

def colour? : String → Option Colour
  | "auto" => some .auto
  | "always" => some .always
  | "never" => some .never
  | _ => none

def level? : String → Option Level
  | "error" => some .error
  | "warn" => some .warn
  | "info" => some .info
  | "debug" => some .debug
  | "trace" => some .trace
  | _ => none

def layout? : String → Option Log.Layout
  | "pretty" => some .pretty
  | "compact" => some .compact
  | "json" => some .structured
  | _ => none

def path? (text : String) : Option String := if text.isEmpty then none else some text

structure Draft where
  scope : Scope
  before : Options
  options : Options
  contract : Option ContractId
  coverageType : Option CoverageTypeId
  amount : Option Decimal
  dryRun : Bool
  asJson : Bool
  wordsOnly : Bool
deriving DecidableEq

namespace Draft

def start : Draft := ⟨.root, .none, .none, none, none, none, false, false, false⟩

def once {α : Type} (place : Option α) (value : Option α) : Except Stop (Option α) :=
  match place, value with
  | none, some value => .ok (some value)
  | _, _ => .error .usage

def set (draft : Draft) (setting : Setting) (text : String) : Except Stop Draft := do
  let options := draft.options
  match setting with
  | .settingsPath =>
      let settingsPath ← once options.settingsPath (path? text)
      return { draft with options := { options with settingsPath } }
  | .database =>
      let database ← once options.database (path? text)
      return { draft with options := { options with database } }
  | .evaluationDate =>
      let evaluationDate ← once options.evaluationDate (Date.ofText .spaced text).toOption
      return { draft with options := { options with evaluationDate } }
  | .colour =>
      let colour ← once options.colour (colour? text)
      return { draft with options := { options with colour } }
  | .logLevel =>
      let logLevel ← once options.logLevel (level? text)
      return { draft with options := { options with logLevel } }
  | .logLayout =>
      let logLayout ← once options.logLayout (layout? text)
      return { draft with options := { options with logLayout } }
  | .logPath =>
      let logPath ← once options.logPath (path? text)
      return { draft with options := { options with logPath } }
  | .contract =>
      let contract ← once draft.contract (ContractId.ofText text).toOption
      return { draft with contract }
  | .amount =>
      let amount ← once draft.amount (amountOfText text).toOption
      return { draft with amount }

def raise (draft : Draft) : Flag → Except Stop Draft
  | .verbose =>
      .ok { draft with options := { draft.options with verbose := draft.options.verbose + 1 } }
  | .quiet =>
      .ok { draft with options := { draft.options with quiet := draft.options.quiet + 1 } }
  | .version => .error .version
  | .help => .error .help
  | .dryRun => if draft.dryRun then .error .usage else .ok { draft with dryRun := true }
  | .asJson => if draft.asJson then .error .usage else .ok { draft with asJson := true }

def raiseLetters (draft : Draft) : List Char → Except Stop Draft
  | [] => .ok draft
  | letter :: rest =>
      match Flag.ofLetter? draft.scope letter with
      | none => .error .usage
      | some flag => (draft.raise flag).bind fun draft => draft.raiseLetters rest

def closeOptions (draft : Draft) : Except Stop Options :=
  if draft.options.verbose ≠ 0 ∧ draft.options.quiet ≠ 0 then .error .usage else .ok draft.options

def takeWord (draft : Draft) (word : String) : Except Stop Draft :=
  match draft.scope with
  | .root =>
      match Scope.ofName? word with
      | some scope =>
          if draft.wordsOnly then .error .usage
          else .ok { draft with scope, before := draft.options, options := .none }
      | none => .error .usage
  | .add =>
      match draft.contract, draft.coverageType, draft.amount with
      | none, _, _ => do
          let contract ← once none (ContractId.ofText word).toOption
          return { draft with contract }
      | some _, none, _ => do
          let coverageType ← once none (CoverageTypeId.ofText word).toOption
          return { draft with coverageType }
      | some _, some _, none => do
          let amount ← once none (amountOfText word).toOption
          return { draft with amount }
      | some _, some _, some _ => .error .usage
  | .rules => do
      let coverageType ← once draft.coverageType (CoverageTypeId.ofText word).toOption
      return { draft with coverageType }
  | .doctor => .error .usage

def command (draft : Draft) : Except Stop Command :=
  match draft.scope, draft.contract, draft.coverageType, draft.amount with
  | .add, some contract, some coverageType, some amount =>
      .ok (.add ⟨contract, coverageType, amount⟩ draft.dryRun)
  | .rules, some contract, some coverageType, amount =>
      .ok (.rules ⟨contract, coverageType, amount.getD Decimal.zero⟩)
  | .doctor, _, _, _ => .ok (.doctor draft.asJson)
  | _, _, _, _ => .error .usage

def finish (draft : Draft) : Except Stop Invocation := do
  let behind ← draft.closeOptions
  let before ← { draft with options := draft.before }.closeOptions
  return ⟨before.overriddenBy behind, ← draft.command⟩

end Draft

def isOption (argument : String) : Bool :=
  match argument.toList with
  | '-' :: _ :: _ => true
  | _ => false

def splitValue (text : List Char) : String × Option String :=
  match text.dropWhile (· != '=') with
  | [] => (String.ofList text, none)
  | _ :: value => (String.ofList (text.takeWhile (· != '=')), some (String.ofList value))

def Draft.takeNamed (draft : Draft) (text : List Char) : Except Stop (Draft × Option Setting) :=
  let (name, value) := splitValue text
  match Flag.ofName? draft.scope name, Setting.ofName? draft.scope name, value with
  | some flag, _, none => (draft.raise flag).map (·, none)
  | some _, _, some _ => .error .usage
  | none, some setting, some value => (draft.set setting value).map (·, none)
  | none, some setting, none => .ok (draft, some setting)
  | none, none, _ => .error .usage

def Draft.take (draft : Draft) (argument : String) : Except Stop (Draft × Option Setting) :=
  if draft.wordsOnly then (draft.takeWord argument).map (·, none)
  else
    match argument.toList with
    | ['-', '-'] => .ok ({ draft with wordsOnly := true }, none)
    | '-' :: '-' :: text => draft.takeNamed text
    | '-' :: letter :: letters => (draft.raiseLetters (letter :: letters)).map (·, none)
    | _ => (draft.takeWord argument).map (·, none)

def helpWord : String := "help"

def Draft.asksForHelp (draft : Draft) (argument : String) : Bool :=
  draft.scope == .root && !draft.wordsOnly && argument == helpWord

def helpOn : List String → Stop
  | [] => .help
  | [name] => if name = helpWord ∨ (Scope.ofName? name).isSome then .help else .usage
  | _ => .usage

def Draft.run (draft : Draft) (awaiting : Option Setting) :
    List String → Except Stop Invocation
  | [] => if awaiting.isSome then .error .usage else draft.finish
  | argument :: rest =>
      match awaiting with
      | some setting =>
          if isOption argument then .error .usage
          else (draft.set setting argument).bind fun draft => draft.run none rest
      | none =>
          if draft.asksForHelp argument then .error (helpOn rest)
          else (draft.take argument).bind fun (draft, awaiting) => draft.run awaiting rest

def Invocation.ofArguments (arguments : List String) : Except Stop Invocation :=
  Draft.start.run none arguments

end Underwriting.Command
