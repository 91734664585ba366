namespace Flowgraph

inductive Family where
  | any
  | language
  | definition
  | document
  | execution
  | nodeNotFound
  | unknownCondition
  | unknownExecutor
  | unknownOperator
  | http
  | expression
  | expressionForm
  | evaluation
  | settings
deriving DecidableEq

namespace Family

def all : List Family := [any, language, definition, document, execution, nodeNotFound,
  unknownCondition, unknownExecutor, unknownOperator, http, expression, expressionForm, evaluation,
  settings]

def name : Family → String
  | any => "GraphRunError"
  | language => "DSLError"
  | definition => "GraphDefinitionError"
  | document => "GraphParseError"
  | execution => "GraphExecutionError"
  | nodeNotFound => "NodeNotFoundError"
  | unknownCondition => "UnknownConditionError"
  | unknownExecutor => "UnknownExecutorError"
  | unknownOperator => "UnknownOperatorError"
  | http => "HttpExecutorError"
  | expression => "ExpressionError"
  | expressionForm => "ExpressionSyntaxError"
  | evaluation => "ExpressionEvaluationError"
  | settings => "ConfigError"

def ofName? (name : String) : Option Family := all.find? (·.name == name)

def line : Family → List Family
  | any => [any]
  | language => [language, any]
  | definition => [definition, language, any]
  | document => [document, definition, language, any]
  | execution => [execution, language, any]
  | nodeNotFound => [nodeNotFound, execution, language, any]
  | unknownCondition => [unknownCondition, execution, language, any]
  | unknownExecutor => [unknownExecutor, execution, language, any]
  | unknownOperator => [unknownOperator, execution, language, any]
  | http => [http, execution, language, any]
  | expression => [expression, any]
  | expressionForm => [expressionForm, expression, any]
  | evaluation => [evaluation, expression, any]
  | settings => [settings, any]

def isOwn (kind : String) : Bool := (ofName? kind).isSome

end Family

end Flowgraph
