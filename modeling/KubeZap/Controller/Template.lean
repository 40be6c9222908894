import KubeZap.Foundation.Program
import KubeZap.Foundation.Scan
import KubeZap.Api.Runtime

/-! # Template interpolation

`interpolateTemplate` and what it calls. The resolver of secrets is a monadic
parameter: inside a step it reads the API server, and it is absent where secrets
must not be resolved. A template is handled as its list of characters; the
scanner compares only ASCII characters, so a character may as well stand for one
byte of the Go string. A Go map is iterated in the order of its list.
-/

namespace KubeZap

open Foundation

def trimPrefix (s p : List Char) : List Char := if p.isPrefixOf s then s.drop p.length else s

/-- `strings.ReplaceAll(name, "-", "_")` -/
def underscored (name : String) : String :=
  String.ofList (name.toList.map fun ch => if ch = '-' then '_' else ch)

/-! ## The trigger body -/

variable (lib : GoLib) (token : List Char) (triggerData : Option TriggerData)

def parseFormURLEncodedBody (body : String) : Option BodyValue :=
  (lib.parseQuery body).map fun values =>
    .object (values.filterMap fun e => e.2.head?.map fun v => (e.1, .string v))

def isFormURLEncodedContentType (contentType : String) : Bool :=
  let mediaType := match lib.parseMediaType contentType with
    | some m => m
    | none => lib.trimSpace (String.ofList (contentType.toList.takeWhile (· ≠ ';')))
  lib.equalFold mediaType "application/x-www-form-urlencoded"

/-- `json.Unmarshal` of the text `null` leaves the value nil, as a failure does. -/
def parseTriggerBody : Option BodyValue :=
  match triggerData with
  | none => none
  | some td =>
    if td.body = "" then none
    else if isFormURLEncodedContentType lib td.contentType then
      parseFormURLEncodedBody lib td.body
    else
      match lib.unmarshal td.body with
      | some .null => none
      | v => v

def renderBodyLeaf : BodyValue → String
  | .null => ""
  | .string s => s
  | .number n => lib.formatFloat n
  | .object fields => (lib.marshal (.object fields)).getD (lib.sprintV (.object fields))
  | .array items => (lib.marshal (.array items)).getD (lib.sprintV (.array items))
  | .bool b => lib.sprintV (.bool b)

def resolveBodyPath (lib : GoLib) : List String → BodyValue → String
  | [], v => renderBodyLeaf lib v
  | key :: rest, .object fields =>
    match fields.lookup key with
    | none => ""
    | some child => resolveBodyPath lib rest child
  | key :: rest, .array items =>
    match lib.atoi key with
    | none => ""
    | some idx =>
      if idx < 0 then ""
      else
        match items[idx.toNat]? with
        | none => ""
        | some item => resolveBodyPath lib rest item
  | _ :: _, _ => ""

/-! ## One token -/

structure TokenValue where
  value : String := ""
  matched : Bool := false
  isSecret : Bool := false
  err : Option Err := none

structure TemplateEnv where
  stepResults : StringMap (StringMap String) := []
  triggerData : Option TriggerData := none
  params : StringMap String := []
deriving DecidableEq

def triggerScalarTokens : List (List Char) :=
  ["trigger.topic".toList, "trigger.partition".toList, "trigger.offset".toList,
    "trigger.key".toList, "trigger.scheduledTime".toList]

def resolveTriggerScalarToken : TokenValue :=
  match triggerData with
  | none => {}
  | some td =>
    if token = "trigger.topic".toList then { value := td.topic, matched := true }
    else if token = "trigger.partition".toList then
      { value := toString td.partition, matched := true }
    else if token = "trigger.offset".toList then
      { value := toString td.offset, matched := true }
    else if token = "trigger.key".toList then { value := td.key, matched := true }
    else if token = "trigger.scheduledTime".toList then
      match td.scheduledTime with
      | some t => { value := lib.rfc3339 t, matched := true }
      | none => { matched := true }
    else {}

/-- `lowerHeaders` of `interpolateTemplate`: later entries overwrite earlier ones. -/
def lowerHeaders : StringMap String :=
  match triggerData with
  | none => []
  | some td => (td.headers.map fun e => (lib.toLower e.1, e.2)).reverse

/-- `$(steps.<name>.results.<key>)`: only the first step whose name matches is asked. -/
def resolveStepToken (stepResults : StringMap (StringMap String)) : TokenValue :=
  let rest := trimPrefix token "steps.".toList
  match Scan.index rest ".results.".toList with
  | none => {}
  | some idx =>
    let stepName := String.ofList (rest.take idx)
    let key := String.ofList (rest.drop (idx + ".results.".length))
    match stepResults.find? (fun e => underscored e.1 == stepName) with
    | none => {}
    | some (_, results) =>
      match results.lookup key with
      | some v => { value := v, matched := true }
      | none => {}

variable {m : Type → Type} [Monad m]

abbrev SecretResolver (m : Type → Type) := String → String → m (Except Err String)

/-- `$(secrets.<name>.<key>)` -/
def resolveSecretToken (resolveSecret : Option (SecretResolver m)) : m TokenValue :=
  match resolveSecret with
  | none => pure {}
  | some resolveSecret =>
    let inner := trimPrefix token "secrets.".toList
    match Scan.index inner ['.'] with
    | none => pure {}
    | some dotIdx => do
        let secretName := String.ofList (inner.take dotIdx)
        let secretKey := String.ofList (inner.drop (dotIdx + 1))
        match ← resolveSecret secretName secretKey with
        | .error ferr =>
          pure { err := some (.wrap ("resolving $(" ++ String.ofList token ++ "): ") ferr) }
        | .ok v => pure { value := v, matched := true, isSecret := true }

def resolveInterpolationToken (env : TemplateEnv) (bodyRoot : Option BodyValue)
    (lowerHeaders : StringMap String) (resolveSecret : Option (SecretResolver m)) : m TokenValue :=
  if "steps.".toList.isPrefixOf token then pure (resolveStepToken token env.stepResults)
  else if "params.".toList.isPrefixOf token then
    match env.params.lookup (String.ofList (trimPrefix token "params.".toList)) with
    | some v => pure { value := v, matched := true }
    | none => pure {}
  else if token = "trigger.body".toList then
    match env.triggerData with
    | none => pure {}
    | some td => pure { value := td.body, matched := true }
  else if "trigger.body.".toList.isPrefixOf token then
    match env.triggerData, bodyRoot with
    | some td, some bodyRoot =>
      if td.body = "" then pure {}
      else
        let fieldPath := trimPrefix token "trigger.body.".toList
        pure
          { value := resolveBodyPath lib ((fieldPath.splitOn '.').map String.ofList) bodyRoot
            matched := true }
    | _, _ => pure {}
  else if "trigger.headers.".toList.isPrefixOf token then
    match env.triggerData with
    | none => pure {}
    | some _ =>
      let name := String.ofList (trimPrefix token "trigger.headers.".toList)
      pure { value := (lowerHeaders.lookup (lib.toLower name)).getD "", matched := true }
  else if token ∈ triggerScalarTokens then
    pure (resolveTriggerScalarToken lib token env.triggerData)
  else if "secrets.".toList.isPrefixOf token then resolveSecretToken token resolveSecret
  else pure {}

/-! ## The scan -/

structure Interpolation where
  actual : String
  display : String
  err : Option Err

/-- The loop of `interpolateTemplate`, with the text still to be scanned and the
two buffers. Each round consumes at least the closing parenthesis of a token. -/
def interpolateLoop (resolve : List Char → m TokenValue) :
    Nat → List Char → List Char → List Char → m Interpolation
  | 0, _, actual, display => pure ⟨String.ofList actual, String.ofList display, none⟩
  | fuel + 1, s, actual, display =>
    match Scan.index s ['$', '('] with
    | none => pure ⟨String.ofList (actual ++ s), String.ofList (display ++ s), none⟩
    | some start =>
      let actual := actual ++ s.take start
      let display := display ++ s.take start
      let tail := s.drop start
      match Scan.index tail [')'] with
      | none => pure ⟨String.ofList (actual ++ tail), String.ofList (display ++ tail), none⟩
      | some closeIdx => do
          let token := (tail.take closeIdx).drop 2
          let full := tail.take (closeIdx + 1)
          let r ← resolve token
          match r.err with
          | some rerr => pure ⟨"", "", some rerr⟩
          | none =>
            let rest := tail.drop (closeIdx + 1)
            if r.matched then
              interpolateLoop resolve fuel rest (actual ++ r.value.toList)
                (display ++ if r.isSecret then "[REDACTED]".toList else r.value.toList)
            else interpolateLoop resolve fuel rest (actual ++ full) (display ++ full)

/-- The body is parsed when the first token asks for a field of it; parsing has no
effect, so the value is the same for every token. -/
def interpolateTemplate (s : String) (env : TemplateEnv)
    (resolveSecret : Option (SecretResolver m)) : m Interpolation :=
  interpolateLoop
    (fun token => resolveInterpolationToken lib token env (parseTriggerBody lib env.triggerData)
      (lowerHeaders lib env.triggerData) resolveSecret)
    (s.toList.length + 1) s.toList [] []

def substituteVars (s : String) (env : TemplateEnv) : String :=
  (Id.run (interpolateTemplate lib s env none)).actual

/-! ## Values that are no secrets -/

def TokenValue.Plain (r : TokenValue) : Prop := r.err = none ∧ r.isSecret = false

theorem TokenValue.plain_unmatched : TokenValue.Plain {} := ⟨rfl, rfl⟩

theorem TokenValue.plain_matched (v : String) :
    TokenValue.Plain { value := v, matched := true } := ⟨rfl, rfl⟩

theorem resolveStepToken_plain (stepResults : StringMap (StringMap String)) :
    (resolveStepToken token stepResults).Plain := by
  unfold resolveStepToken
  dsimp only
  split
  · exact TokenValue.plain_unmatched
  · split
    · exact TokenValue.plain_unmatched
    · split
      · exact TokenValue.plain_matched _
      · exact TokenValue.plain_unmatched

theorem resolveTriggerScalarToken_plain :
    (resolveTriggerScalarToken lib token triggerData).Plain := by
  unfold resolveTriggerScalarToken
  cases triggerData with
  | none => exact TokenValue.plain_unmatched
  | some td =>
    dsimp only
    repeat' split
    all_goals exact ⟨rfl, rfl⟩

/-! ## The template as a list of segments -/

def expand (resolve : List Char → m TokenValue) :
    List (Scan.Segment Char) → List Char → List Char → m Interpolation
  | [], actual, display => pure ⟨String.ofList actual, String.ofList display, none⟩
  | .lit x :: rest, actual, display => expand resolve rest (actual ++ [x]) (display ++ [x])
  | .token t :: rest, actual, display => do
      let r ← resolve t
      match r.err with
      | some rerr => pure ⟨"", "", some rerr⟩
      | none =>
        let full := ['$', '('] ++ t ++ [')']
        if r.matched then
          expand resolve rest (actual ++ r.value.toList)
            (display ++ if r.isSecret then "[REDACTED]".toList else r.value.toList)
        else expand resolve rest (actual ++ full) (display ++ full)

/-- The segments of a template: one left-to-right scan of its text. -/
def templateSegments (s : List Char) : List (Scan.Segment Char) := Scan.scan '$' '(' ')' none s

variable (resolve : List Char → m TokenValue)

theorem expand_lits (xs : List Char) (rest : List (Scan.Segment Char))
    (actual display : List Char) :
    expand resolve (xs.map .lit ++ rest) actual display =
      expand resolve rest (actual ++ xs) (display ++ xs) := by
  induction xs generalizing actual display with
  | nil => simp
  | cons x xs ih =>
    rw [List.map_cons, List.cons_append, expand, ih]
    simp

theorem expand_only_lits (xs actual display : List Char) :
    expand resolve (xs.map .lit) actual display =
      pure ⟨String.ofList (actual ++ xs), String.ofList (display ++ xs), none⟩ := by
  have h := expand_lits resolve xs [] actual display
  rwa [List.append_nil] at h

theorem expand_congr {resolve resolve' : List Char → m TokenValue}
    {segments : List (Scan.Segment Char)}
    (h : ∀ t, .token t ∈ segments → resolve t = resolve' t) (actual display : List Char) :
    expand resolve segments actual display = expand resolve' segments actual display := by
  induction segments generalizing actual display with
  | nil => rfl
  | cons segment rest ih =>
    have hrest := ih fun t ht => h t (List.mem_cons_of_mem _ ht)
    cases segment with
    | lit x => rw [expand, expand, hrest]
    | token t =>
      rw [expand, expand, h t List.mem_cons_self]
      simp only [hrest]

/-- The index-driven loop expands the segments of the text it has still to scan:
what it has written to its buffers is never looked at again. -/
theorem interpolateLoop_eq_expand (fuel : Nat) (s actual display : List Char)
    (hfuel : s.length < fuel) :
    interpolateLoop resolve fuel s actual display =
      expand resolve (templateSegments s) actual display := by
  induction fuel generalizing s actual display with
  | zero => omega
  | succ fuel ih =>
    rw [interpolateLoop, templateSegments]
    cases hstart : Scan.index s ['$', '('] with
    | none => rw [Scan.scan_of_index_none hstart, expand_only_lits]
    | some start =>
      have htail : s.drop start = '$' :: '(' :: s.drop (start + 2) := Scan.drop_of_index hstart
      rw [Scan.scan_of_index_some hstart, expand_lits]
      simp only [htail]
      rw [Scan.index_singleton_cons, Scan.index_singleton_cons]
      cases hclose : Scan.index (s.drop (start + 2)) [')'] with
      | none =>
        rw [Scan.scan_unclosed hclose, expand_only_lits]
        simp
      | some j =>
        have hlt : start + 2 ≤ s.length := by
          have := congrArg List.length htail
          simp only [List.length_drop, List.length_cons] at this
          omega
        rw [Scan.scan_closed hclose, expand]
        -- one round consumes the token up to its closing parenthesis
        have hround : ∀ a d, interpolateLoop resolve fuel
              ((s.drop (start + 2)).drop (j + 1)) a d =
            expand resolve (templateSegments ((s.drop (start + 2)).drop (j + 1))) a d := by
          intro a d
          apply ih
          simp only [List.length_drop]
          omega
        have hj := Scan.index_lt_length (by simp) hclose
        have hfull : List.take (j + 1) (s.drop (start + 2)) =
            List.take j (s.drop (start + 2)) ++ [')'] :=
          Scan.take_succ_of_index_singleton hclose
        simp only [templateSegments] at hround
        simp only [Option.map_some]
        refine bind_congr fun r => ?_
        simp only [List.drop_succ_cons, List.take_succ_cons, hround, hfull]
        rfl

theorem interpolateTemplate_eq_expand (s : String) (env : TemplateEnv)
    (resolveSecret : Option (SecretResolver m)) :
    interpolateTemplate lib s env resolveSecret =
      expand (fun token => resolveInterpolationToken lib token env
        (parseTriggerBody lib env.triggerData) (lowerHeaders lib env.triggerData) resolveSecret)
        (templateSegments s.toList) [] [] :=
  interpolateLoop_eq_expand _ _ _ _ _ (Nat.lt_succ_self _)

end KubeZap
