import KubeZap.Api.Types

/-! # Errors, library functions and the expression engine

`Err` keeps the chain of a wrapped Go error, which the controller inspects with
`errors.As`. `GoLib` and `Cel` are the functions of Go's standard library and of
the CEL engine that the controller calls but whose values no statement about it
depends on: every result below holds for all of them.
-/

namespace KubeZap

/-- A Go error value with what it wraps. -/
inductive Err
  | text (msg : String)
  | wrap (msg : String) (cause : Err)
  | executorTransportError (cause : Err)
  | deadlineExceeded
  | canceled
deriving DecidableEq

def Err.error : Err → String
  | .text msg => msg
  | .wrap msg cause => msg ++ cause.error
  | .executorTransportError cause => cause.error
  | .deadlineExceeded => "context deadline exceeded"
  | .canceled => "context canceled"

/-- Fail with a text of its own before the error that a call may answer with. -/
def orFail (what : String) : Option String → Except String Unit
  | none => .ok ()
  | some err => .error (what ++ err)

/-- `errors.As(err, &te)` for `te *executorTransportError` -/
def Err.isTransport : Err → Bool
  | .executorTransportError _ => true
  | .wrap _ cause => cause.isTransport
  | .text _ | .deadlineExceeded | .canceled => false

inductive ReadError
  | notFound (msg : String)
  | other (msg : String)
deriving DecidableEq

def ReadError.error : ReadError → String
  | .notFound msg => msg
  | .other msg => msg

/-- The dynamic values `json.Unmarshal` produces. -/
inductive BodyValue
  | null
  | bool (b : Bool)
  | number (n : Rat)
  | string (s : String)
  | array (items : List BodyValue)
  | object (fields : List (String × BodyValue))
deriving Inhabited

structure GoLib where
  /-- `fmt.Sprintf("%q", s)` -/
  quote : String → String
  /-- `time.ParseDuration` -/
  parseDuration : String → Except String Duration
  /-- `time.Duration.String` -/
  durationText : Duration → String
  /-- `t.UTC().Format(time.RFC3339)` -/
  rfc3339 : Time → String
  /-- `strings.ToLower` -/
  toLower : String → String
  /-- `strings.EqualFold` -/
  equalFold : String → String → Bool
  /-- `strings.TrimSpace` -/
  trimSpace : String → String
  /-- `mime.ParseMediaType`, without the parameters -/
  parseMediaType : String → Option String
  /-- `url.ParseQuery` -/
  parseQuery : String → Option (StringMap (List String))
  /-- `json.Unmarshal` into an `interface{}` -/
  unmarshal : String → Option BodyValue
  /-- `json.Marshal` -/
  marshal : BodyValue → Option String
  /-- `strconv.FormatFloat(v, 'f', -1, 64)` -/
  formatFloat : Rat → String
  /-- `fmt.Sprintf("%v", v)` -/
  sprintV : BodyValue → String
  /-- `strconv.Atoi` -/
  atoi : String → Option Int
  /-- `strings.ReplaceAll` -/
  replaceAll : String → String → String → String
  /-- `base64.StdEncoding.EncodeToString` -/
  base64 : String → String
  /-- `hex.EncodeToString(sha256.Sum256(s))` -/
  sha256Hex : String → String
  /-- `CertPool.AppendCertsFromPEM`: whether there was a certificate -/
  appendCertsFromPEM : String → Bool
deriving Inhabited

/-- `strings.ReplaceAll` on the characters, for an `old` that is not empty; `skip` of them belong
to an occurrence that has been replaced. -/
def replaceAllFrom (old new : List Char) : Nat → List Char → List Char
  | _, [] => []
  | 0, c :: rest =>
    if old.isPrefixOf (c :: rest) then new ++ replaceAllFrom old new (old.length - 1) rest
    else c :: replaceAllFrom old new 0 rest
  | skip + 1, _ :: rest => replaceAllFrom old new skip rest

def stringsReplaceAll (s old new : String) : String :=
  String.ofList (replaceAllFrom old.toList new.toList 0 s.toList)

def replacingLib : GoLib := { (default : GoLib) with replaceAll := stringsReplaceAll }

/-- What a `when` expression is evaluated against. -/
structure Activation where
  trigger : StringMap BodyValue
  steps : StringMap (StringMap String × StepPhase)
  params : StringMap String

inductive CelOutcome
  | compileError (msg : String)
  | programError (msg : String)
  | evalError (msg : String)
  | bool (b : Bool)
  | value (text : String)

/-- Compile and evaluate one expression. -/
abbrev Cel := String → Activation → CelOutcome

end KubeZap
