import JudgingServer.Go.Text

/-! The batch protocol of the sandbox: its messages and their protobuf sizes.
Pointers of the source are optional values. -/

namespace JudgingServer.Sandbox
open Go

structure ExecuteResponse where
  status : GoString
  exitCode : Int
  stdout : GoString
  stderr : GoString
  error : GoString
  compileError : GoString
  timeUsed : Int
  memoryUsed : Int
deriving DecidableEq, Repr

structure ExecuteBatchV1Case where
  caseID : GoString
  stdin : GoString
  expectedOutput : GoString
  compareOutput : Bool
  tokenExpectedSHA256 : GoString
deriving DecidableEq, Repr

structure ExecuteBatchV1Request where
  language : GoString
  sourceCode : GoString
  timeout : Int
  memoryLimit : Int
  stopOnFailure : Bool
  cases : List ExecuteBatchV1Case
deriving DecidableEq, Repr

inductive EventKind where
  | unspecified
  | caseResult
  | compileError
  | completed
  | other (number : Int)
deriving DecidableEq, Repr

structure ExecuteBatchV1Event where
  kind : EventKind
  caseID : GoString
  result : Option ExecuteResponse
deriving DecidableEq, Repr

/-- `protowire.SizeVarint`. -/
def sizeVarint (value : Nat) : Nat :=
  let bits := if value = 0 then 0 else value.log2 + 1
  (9 * bits + 64) / 64

variable (number : Nat)

/-- `protowire.SizeTag`. -/
def sizeTag : Nat := sizeVarint (8 * number)

def sizeStringField (text : GoString) : Nat :=
  if text.isEmpty then 0 else sizeTag number + sizeVarint text.length + text.length

-- A negative `int32` is sign-extended to 64 bits.
def sizeInt32Field (value : Int) : Nat :=
  if value = 0 then 0 else sizeTag number + sizeVarint (value % 2 ^ 64).toNat

def sizeBoolField (flag : Bool) : Nat := if flag then sizeTag number + 1 else 0

def sizeMessageField (size : Nat) : Nat := sizeTag number + sizeVarint size + size

/-- `proto.Size` of a case. -/
def ExecuteBatchV1Case.size (testCase : ExecuteBatchV1Case) : Nat :=
  sizeStringField 1 testCase.caseID + sizeStringField 2 testCase.stdin + sizeStringField 3 testCase.expectedOutput +
    sizeBoolField 4 testCase.compareOutput + sizeStringField 5 testCase.tokenExpectedSHA256

/-- `proto.Size` of a request. -/
def ExecuteBatchV1Request.size (request : ExecuteBatchV1Request) : Nat :=
  sizeStringField 1 request.language + sizeStringField 2 request.sourceCode + sizeInt32Field 3 request.timeout +
    sizeInt32Field 4 request.memoryLimit + sizeBoolField 5 request.stopOnFailure +
    (request.cases.map fun testCase => sizeMessageField 6 testCase.size).sum

end JudgingServer.Sandbox
