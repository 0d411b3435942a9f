import MailTemplate.Log
import MailTemplate.Script.Number

/-! The functions and objects that are there without a program. Values of one family have members
in common, which belong to an object of their own, the prototype of the family. Most of the
functions are there only to be looked at: a call of one gives nothing. -/

namespace MailTemplate.Script

inductive ErrorKind where
  | error
  | evalError
  | rangeError
  | referenceError
  | syntaxError
  | typeError
  | uriError
  | internalError
  deriving DecidableEq, Inhabited

def ErrorKind.name : ErrorKind → String
  | error => "Error"
  | evalError => "EvalError"
  | rangeError => "RangeError"
  | referenceError => "ReferenceError"
  | syntaxError => "SyntaxError"
  | typeError => "TypeError"
  | uriError => "URIError"
  | internalError => "InternalError"

def ErrorKind.all : List ErrorKind :=
  [.error, .evalError, .rangeError, .referenceError, .syntaxError, .typeError, .uriError,
    .internalError]

/-- Names of functions, by the number of arguments that they are made for. -/
abbrev Functions := List (Nat × List String)

namespace Functions

def names (functions : Functions) : List String :=
  functions.flatMap Prod.snd

def arity? (functions : Functions) (name : String) : Option Nat :=
  (functions.find? (·.2.contains name)).map Prod.fst

end Functions

/-- The families of values with members in common. -/
inductive Family where
  | object
  | function
  | array
  | text
  | number
  | bool
  | symbol
  | error (kind : ErrorKind)
  deriving DecidableEq, Inhabited

namespace Family

/-- A family and those that it has its other members from, the nearest first. -/
def line : Family → List Family
  | object => [object]
  | error .error => [error .error, object]
  | error kind => [error kind, error .error, object]
  | family => [family, object]

def methods : Family → Functions
  | object =>
    [(0, ["toString", "toLocaleString", "valueOf"]),
      (1, ["hasOwnProperty", "isPrototypeOf", "propertyIsEnumerable", "__lookupGetter__",
        "__lookupSetter__"]),
      (2, ["__defineGetter__", "__defineSetter__"])]
  | function => [(0, ["toString"]), (1, ["call", "bind"]), (2, ["apply"])]
  | array =>
    [(0, ["toString", "toLocaleString", "pop", "shift", "reverse", "toReversed", "flat", "values",
        "keys", "entries"]),
      (1, ["at", "concat", "every", "some", "forEach", "map", "filter", "reduce", "reduceRight",
        "fill", "find", "findIndex", "findLast", "findLastIndex", "indexOf", "lastIndexOf",
        "includes", "join", "push", "unshift", "sort", "toSorted", "flatMap"]),
      (2, ["with", "slice", "splice", "toSpliced", "copyWithin"])]
  | text =>
    [(0, ["isWellFormed", "toWellFormed", "trim", "trimEnd", "trimStart", "toString", "valueOf",
        "normalize", "toLowerCase", "toUpperCase", "toLocaleLowerCase", "toLocaleUpperCase",
        "big", "blink", "bold", "fixed", "italics", "small", "strike", "sub", "sup"]),
      (1, ["at", "charCodeAt", "charAt", "concat", "codePointAt", "indexOf", "lastIndexOf",
        "includes", "endsWith", "startsWith", "match", "matchAll", "search", "repeat", "padEnd",
        "padStart", "localeCompare", "anchor", "fontcolor", "fontsize", "link"]),
      (2, ["split", "substring", "substr", "slice", "replace", "replaceAll"])]
  | number =>
    [(0, ["toLocaleString", "valueOf"]),
      (1, ["toExponential", "toFixed", "toPrecision", "toString"])]
  | bool => [(0, ["toString", "valueOf"])]
  | symbol => [(0, ["toString", "valueOf"])]
  | error .error => [(0, ["toString"])]
  | error _ => []

/-- The name of a method that is also found under another one. -/
def methodName (key : String) : Family → String
  | text =>
    if key == "trimRight" then "trimEnd" else if key == "trimLeft" then "trimStart" else key
  | _ => key

end Family

inductive Builtin where
  /-- The function that makes values of a family. -/
  | constructor (family : Family)
  | method (family : Family) (name : String)
  /-- An object with a prototype that is given. -/
  | createObject
  | log (method : String) (level : Log.Level)
  /-- A function that is known by its name alone. -/
  | other (name : String)
  /-- A function that is known by the object that has it, and by its name. -/
  | owned (owner name : String)
  deriving DecidableEq, Inhabited

def Family.constructorName : Family → String
  | object => "Object"
  | function => "Function"
  | array => "Array"
  | text => "String"
  | number => "Number"
  | bool => "Boolean"
  | symbol => "Symbol"
  | error kind => kind.name

/-- The functions that leave records have no name. -/
def Builtin.name : Builtin → String
  | constructor family => family.constructorName
  | method _ name => name
  | createObject => "create"
  | log .. => ""
  | other name | owned _ name => name

namespace Builtin

def families : List Family :=
  [.object, .function, .array, .text, .number, .bool, .symbol] ++ ErrorKind.all.map .error

/-- The other functions that have a name for all programs. -/
def others : Functions :=
  [(0, ["Map", "Set", "WeakMap", "WeakSet"]),
    (1, ["parseFloat", "isNaN", "isFinite", "decodeURI", "decodeURIComponent", "encodeURI",
      "encodeURIComponent", "escape", "unescape", "eval", "ArrayBuffer", "SharedArrayBuffer",
      "DataView", "Promise", "BigInt"]),
    (2, ["parseInt", "AggregateError", "RegExp", "Proxy"]),
    (3, ["Uint8ClampedArray", "Int8Array", "Uint8Array", "Int16Array", "Uint16Array",
      "Int32Array", "Uint32Array", "BigInt64Array", "BigUint64Array", "Float32Array",
      "Float64Array"]),
    (7, ["Date"])]

/-- The functions that belong to an object with a name for all programs, besides the ones that all
values of its family have. -/
def ownedBy : String → Functions
  | "Object" =>
    [(1, ["getPrototypeOf", "getOwnPropertyNames", "getOwnPropertySymbols", "keys", "values",
        "entries", "isExtensible", "preventExtensions", "getOwnPropertyDescriptors", "seal",
        "freeze", "isSealed", "isFrozen", "__getClass", "fromEntries"]),
      (2, ["setPrototypeOf", "defineProperties", "groupBy", "getOwnPropertyDescriptor", "is",
        "assign", "hasOwn"]),
      (3, ["defineProperty"])]
  | "Array" => [(0, ["of"]), (1, ["isArray", "from"])]
  | "String" => [(1, ["fromCharCode", "fromCodePoint", "raw"])]
  | "Number" => [(1, ["isNaN", "isFinite", "isInteger", "isSafeInteger"])]
  | "Symbol" => [(1, ["for", "keyFor"])]
  | "Date" => [(0, ["now"]), (1, ["parse"]), (7, ["UTC"])]
  | "Proxy" => [(2, ["revocable"])]
  | "Map" => [(2, ["groupBy"])]
  | "ArrayBuffer" => [(1, ["isView"])]
  | "Promise" =>
    [(0, ["withResolvers"]), (1, ["resolve", "reject", "all", "allSettled", "any", "race"])]
  | "BigInt" => [(2, ["asUintN", "asIntN"])]
  | "Math" =>
    [(0, ["random"]),
      (1, ["abs", "floor", "ceil", "round", "sqrt", "acos", "asin", "atan", "cos", "exp", "log",
        "sin", "tan", "trunc", "sign", "cosh", "sinh", "tanh", "acosh", "asinh", "atanh",
        "expm1", "log1p", "log2", "log10", "cbrt", "fround", "clz32"]),
      (2, ["min", "max", "atan2", "pow", "hypot", "imul"])]
  | "JSON" => [(2, ["parse"]), (3, ["stringify"])]
  | "Reflect" =>
    [(1, ["getPrototypeOf", "isExtensible", "ownKeys", "preventExtensions"]),
      (2, ["construct", "deleteProperty", "get", "getOwnPropertyDescriptor", "has",
        "setPrototypeOf"]),
      (3, ["apply", "defineProperty", "set"])]
  | "Atomics" =>
    [(1, ["isLockFree"]), (2, ["load"]),
      (3, ["add", "and", "or", "sub", "xor", "exchange", "store", "notify"]),
      (4, ["compareExchange", "wait"])]
  | _ => []

/-- The function of a name that belongs to an object. Those that read numbers are the same ones as
without an object. -/
def ownedBy? (owner name : String) : Option Builtin :=
  if owner == "Number" && (name == "parseInt" || name == "parseFloat") then some (.other name)
  else if ((ownedBy owner).arity? name).isSome then some (.owned owner name)
  else none

def arity : Builtin → Nat
  | constructor .symbol => 0
  | constructor _ => 1
  | method family name => (family.methods.arity? name).getD 0
  | createObject => 2
  | log .. => 0
  | other name => (others.arity? name).getD 0
  | owned owner name => ((ownedBy owner).arity? name).getD 0

end Builtin

/-- The numbers that belong to an object with a name for all programs. -/
def constantsOf : String → List (String × Float)
  | "Number" =>
    [("MAX_VALUE", 1.7976931348623157e308), ("MIN_VALUE", 5e-324), ("NaN", Number.nan),
      ("NEGATIVE_INFINITY", -Number.infinity), ("POSITIVE_INFINITY", Number.infinity),
      ("EPSILON", 2.220446049250313e-16), ("MAX_SAFE_INTEGER", 9007199254740991),
      ("MIN_SAFE_INTEGER", -9007199254740991)]
  | "Math" =>
    [("E", 2.718281828459045), ("LN10", 2.302585092994046), ("LN2", 0.6931471805599453),
      ("LOG2E", 1.4426950408889634), ("LOG10E", 0.4342944819032518), ("PI", 3.141592653589793),
      ("SQRT1_2", 0.7071067811865476), ("SQRT2", 1.4142135623730951)]
  | _ => []

inductive Intrinsic where
  | prototype (family : Family)
  /-- An object that is known by its name alone. -/
  | named (name : String)
  deriving DecidableEq, Inhabited

def Intrinsic.names : List String :=
  ["Math", "JSON", "Reflect", "Atomics"]

end MailTemplate.Script
