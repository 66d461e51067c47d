import Rulebook.Compile
import Rulebook.Definition.OfText
import Rulebook.Engine

/-!
# Rules

A rule is a compiled definition, with the paths that its condition may look up and a version. It
can be kept in an engine by its condition. A `Compiler` counts the rules it has compiled, and
numbers them by that count; a definition that does not compile leaves it as it is. Of a batch of
definitions the ones that do not compile are skipped, each with the reason.
-/

namespace Rulebook

structure Rule where
  id : String
  name : String
  condition : Condition
  consequences : List Value
  requiredFields : List String
  version : Nat

instance : HasCondition Rule := ⟨Rule.condition⟩

/-- Why there is no rule. -/
inductive RuleError where
  | emptyId
  | condition (f : LocatedFault)
  /-- The definition does not read. -/
  | definition (f : Json.Fault)
  /-- A batch given as an object without a list of rules. -/
  | noRuleList
  /-- A batch that is neither a list nor an object. -/
  | notABatch

namespace RuleError

/-- A fault of a condition in writing. -/
def conditionMessage (f : LocatedFault) : String :=
  let path := LocatedFault.pathText f.path
  match f.fault with
  | .unsupportedKind kind => "不支持的条件类型: " ++ kind ++ " (条件 " ++ path ++ ")"
  | .unknownMatcher matcher => "不支持的匹配器: " ++ matcher ++ " (条件 " ++ path ++ ")"
  | .malformedBody e => "规则解析失败: 条件 '" ++ path ++ "' 的定义无效: " ++ e.message
  | .unknownConnective logic =>
    "规则解析失败: 逻辑组 '" ++ path ++ "' 的连接符无效: " ++ logic
  | .emptyGroup => "规则解析失败: 逻辑组 '" ++ path ++ "' 不能为空"
  | .emptyKey => "规则解析失败: 条件 '" ++ path ++ "' 的 key 不能为空"
  | .noValues matcher =>
    "规则解析失败: 条件 '" ++ path ++ "' 的 " ++ matcher ++ " 匹配器需要至少一个值"

def message : RuleError → String
  | .emptyId => "规则解析失败: 规则 ID 不能为空"
  | .condition f => conditionMessage f
  | .definition (.shape e) => "JSON 序列化错误: " ++ e.message
  | .definition (.broken .ends) => "JSON 序列化错误: unexpected end"
  | .definition (.broken .malformed) => "JSON 序列化错误: malformed text"
  | .noRuleList => "规则解析失败: 规则集缺少 rules 数组"
  | .notABatch => "规则解析失败: 规则集必须是数组或包含 rules 数组的对象"

end RuleError

/-- The rule of a definition, numbered by a version. -/
def RuleDefinition.compile (version : Nat) (d : RuleDefinition) : Except RuleError Rule :=
  if d.id = "" then .error .emptyId
  else match d.condition.compile with
    | .error f => .error (.condition f)
    | .ok condition => .ok
      { id := d.id
        name := d.name
        condition
        consequences := d.consequences
        requiredFields := condition.variablePaths
        version }

/-- A compiler knows how many rules it has compiled. -/
structure Compiler where
  compiled : Nat

/-- A definition of a batch that was skipped. -/
structure Skip where
  index : Nat
  error : RuleError

/-- What is logged, as a warning, about each skipped definition. -/
def Skip.message : String := "跳过无效规则"

/-- What a batch gave. -/
structure Batch where
  rules : List Rule
  skipped : List Skip

namespace Compiler

def new : Compiler := ⟨0⟩

/-- Compiles what reads as a definition. -/
def compileRead (c : Compiler) (d : Except Json.Fault RuleDefinition) :
    Except RuleError Rule × Compiler :=
  match d with
  | .error f => (.error (.definition f), c)
  | .ok d =>
    match d.compile (c.compiled + 1) with
    | .error e => (.error e, c)
    | .ok rule => (.ok rule, ⟨c.compiled + 1⟩)

def compile (c : Compiler) (d : RuleDefinition) : Except RuleError Rule × Compiler :=
  c.compileRead (.ok d)

/-- Compiles the definition that a text gives. -/
def compileText (c : Compiler) (freshId text : String) : Except RuleError Rule × Compiler :=
  c.compileRead (RuleDefinition.ofText freshId text)

/-- Compiles the definitions that values give, the first of them being at a position. -/
def compileItems (freshId : Nat → String) (c : Compiler) (index : Nat) :
    List Value → Batch × Compiler
  | [] => (⟨[], []⟩, c)
  | item :: rest =>
    let read := (RuleDefinition.ofValue (freshId index) item).mapError Json.Fault.shape
    match c.compileRead read with
    | (.ok rule, c) =>
      let (batch, c) := compileItems freshId c (index + 1) rest
      ({ batch with rules := rule :: batch.rules }, c)
    | (.error e, c) =>
      let (batch, c) := compileItems freshId c (index + 1) rest
      ({ batch with skipped := ⟨index, e⟩ :: batch.skipped }, c)

/-- The definitions in a batch: a list of them, or an object that has one. -/
def batchItems : Value → Except RuleError (List Value)
  | .arr items => .ok items
  | .obj members =>
    match Value.member? "rules" members with
    | some (.arr items) => .ok items
    | _ => .error .noRuleList
  | _ => .error .notABatch

/-- Compiles a batch of definitions given as a text. -/
def compileBatch (c : Compiler) (freshId : Nat → String) (text : String) :
    Except RuleError Batch × Compiler :=
  match Value.ofText text with
  | .error b => (.error (.definition (.broken b)), c)
  | .ok v =>
    match batchItems v with
    | .error e => (.error e, c)
    | .ok items =>
      let (batch, c) := compileItems freshId c 0 items
      (.ok batch, c)

end Compiler
end Rulebook
