import KubeZap.Controller.SecretTwins
import KubeZap.Controller.Simulation

/-! # What the message of a step shows of secrets

The attempts of two runs that differ in secret values, the message that the step is left with, and
the URLs of which that message tells more than it should.
-/

namespace KubeZap

open Foundation

/-! ## The attempts -/

section Attempts

open Program (Twin)

variable {o : Outside} {r : FlowRunReconciler} {namespace_ : String} {env : TemplateEnv}

theorem twin_callExecutor (hlib : r.lib.replaceAll = stringsReplaceAll) (ctx : Ctx)
    (req req' : ExecuteRequest) :
    Twin o.Related (Agree (SameShown r.lib req.url req'.url)) (callExecutor r ctx namespace_ req)
      (callExecutor r ctx namespace_ req') := by
  refine Twin.bind (twin_ask fun x x' h => h) fun x x' h => ?_
  obtain ⟨halike, hguarded⟩ := h
  change x.SameUpToURL o.printed req.url req'.url x' at halike
  change o.GuardedReply req.url req'.url x x' at hguarded
  match x, x', halike, hguarded with
  | .answered resp, .answered resp', halike, hguarded =>
    exact Twin.pure (sameShown hlib halike hguarded)
  | .unbuilt _, _, rfl, _ => exact Twin.pure rfl
  | .unsent _, _, rfl, _ => exact Twin.pure rfl
  | .refused _ _, _, rfl, _ => exact Twin.pure rfl
  | .malformed _, _, rfl, _ => exact Twin.pure rfl

/-- By induction on the rounds left: the next round starts from the same in both runs. -/
theorem twin_httpAttempts (hlib : r.lib.replaceAll = stringsReplaceAll) (step : FlowStep)
    (h : HTTPAction) (stepCtx : Ctx) (displayURL : String) (req req' : ExecuteRequest)
    (rounds attempt : Nat) (lastErr : Option Err) :
    Twin o.Related Eq
      (httpAttempts r step h stepCtx namespace_ displayURL req rounds attempt lastErr)
      (httpAttempts r step h stepCtx namespace_ displayURL req' rounds attempt lastErr) := by
  induction rounds generalizing attempt lastErr with
  | zero => exact Twin.pure rfl
  | succ rounds ih =>
    refine Twin.bind (Q := Eq) ?_ fun pause pause' hpause => ?_
    · unfold pauseBefore
      split
      · exact twin_same (q := .sleep stepCtx _) fun _ _ h => h rfl
      · exact Twin.pure rfl
    subst hpause
    cases pause with
    | some err => exact Twin.pure rfl
    | none =>
      refine (twin_callExecutor hlib stepCtx req req').bind fun reply reply' hreply => ?_
      match reply, reply', hreply with
      | .error err, .error _, rfl =>
        by_cases htransport : err.isTransport
        · simp only [htransport, if_true]
          exact Twin.pure rfl
        · simp only [htransport, Bool.false_eq_true, if_false]
          exact ih _ _
      | .ok resp, .ok resp', hshown =>
        have hshownError := hshown.shown displayURL
        unfold shownError at hshownError
        by_cases herror : resp.error = ""
        · have herror' : resp'.error = "" := hshown.error.mp herror
          simp only [herror, herror', ne_eq, not_true_eq_false, if_false, httpResults,
            ← hshown.statusCode, ← hshown.body]
          split
          · exact Twin.pure rfl
          · exact ih _ _
        · have herror' : resp'.error ≠ "" := fun h => herror (hshown.error.mpr h)
          simp only [herror, herror', ne_eq, not_false_eq_true, if_true] at hshownError ⊢
          rw [hshownError]
          exact ih _ _

theorem twin_executeHTTPStep (hlib : r.lib.replaceAll = stringsReplaceAll) (ctx : Ctx)
    (step : FlowStep) :
    Twin o.Related Eq (executeHTTPStep r ctx step env namespace_)
      (executeHTTPStep r ctx step env namespace_) := by
  unfold executeHTTPStep
  split
  · exact Twin.pure rfl
  · refine Twin.bind (twin_prepareHTTP ctx step _) fun prepared prepared' hprepared => ?_
    match prepared, prepared', hprepared with
    | .error err, .error _, rfl => exact Twin.pure rfl
    | .ok (req, displayURL, stepCtx), .ok (req', _, _), rfl =>
      exact twin_httpAttempts hlib step _ stepCtx displayURL req req' (maxAttempts step) 0 none

theorem twin_executeStep (hlib : r.lib.replaceAll = stringsReplaceAll) {c : StepCall}
    (hhttp : c.step.action.type = .http) :
    Twin o.Related Eq (executeStep r c) (executeStep r c) := by
  unfold executeStep
  refine twin_now.bind fun now now' hnow => ?_
  subst hnow
  simp only [hhttp]
  refine (twin_executeHTTPStep hlib c.ctx c.step).bind fun ret ret' hret => ?_
  subst hret
  refine twin_now.bind fun later later' hlater => ?_
  subst hlater
  cases ret.err with
  | none => exact Twin.pure rfl
  | some err =>
    simp only
    split
    · exact Twin.pure rfl
    · exact Twin.pure rfl

end Attempts

/-- Lookups fail for all hosts but one; a blank in a URL is printed as an escape. -/
def hookOutside : Outside where
  lib :=
    { (default : Executor.Lib) with
      quote := inQuotes
      hostname := fun url => .ok (String.ofList (url.toList.drop 8 |>.takeWhile (· != '/'))) }
  blockedCIDRs := mustParseCIDRs ["10.0.0.0/8"]
  allowClusterInternal := false
  lookupIPAddr := fun host =>
    if host = "hooks.test" then .ok (IP.parse "203.0.113.7").toList else .error "no such host"
  printed := fun url => inQuotes
    (String.ofList (url.toList.flatMap fun c => if c = ' ' then ['%', '2', '0'] else [c]))

def hookReconciler : FlowRunReconciler where
  lib := { replacingLib with quote := inQuotes }
  executorBaseURL := "http://executor"

def hookCall : StepCall where
  ctx := {}
  step :=
    { name := "notify"
      action :=
        { type := .http
          http := some { url := "/notify", integrationRef := some "hooks" } } }
  namespace_ := "default"
  uid := "1"
  env := {}

def hookIntegration : Integration where
  name := ⟨"default", "hooks"⟩
  type := .http
  http := some { auth := some { type := .secretURL, secretURL := some ⟨"hook", "url"⟩ } }

def hookPieces : List String := ["upstream_error: Post ", ": connection refused"]

variable (url : String)

def hookAnswers : (q : IoReq) → IoReply q
  | .getIntegration _ => .ok hookIntegration
  | .getSecret _ => .ok [("url", url)]
  | .checkSSRF url => hookOutside.ssrfError url
  | .execute _ _ req => .answered
      { statusCode := 0, body := "", error := embed (hookOutside.printed req.url) hookPieces }
  | q => stepAnswers 0 (fun _ _ => .unbuilt "") q

def hookRun : List IoReq × Except Err StepRunStatus :=
  (executeStep hookReconciler hookCall).replay (hookAnswers url)

def hookTrace : List (Event IoReply) :=
  (hookRun url).1.map fun q => ⟨q, hookAnswers url q⟩

theorem hook_exec :
    Exec (fun (_ : Unit) q x _ => x = hookAnswers url q) () (executeStep hookReconciler hookCall)
      (hookTrace url) () (some (hookRun url).2) :=
  Program.replay_exec (hookAnswers url) _

def hookMessage : String :=
  (stepResult hookReconciler.lib ⟨{ steps := [] }⟩ hookCall.step
    ⟨(hookRun url).2, 0⟩).status.message

def hookChecked : List IoReq :=
  [.now, .getIntegration ⟨"default", "hooks"⟩, .getSecret ⟨"default", "hook"⟩, .checkSSRF url]

def hookRefused : List IoReq := hookChecked url ++ [.now]

def hookTried : List IoReq :=
  hookChecked url ++ [.now, .execute ⟨some (30 * second)⟩ "http://executor/execute"
    { method := "POST", url := url, timeoutSeconds := 30 }, .now]

def hookFailed (message : String) : Except Err StepRunStatus :=
  .ok { name := "notify", phase := .failed, startTime := some 0, completionTime := some 0,
        attempts := 1, message := message }

theorem hookMessage_failed {url message : String} {requests : List IoReq}
    (h : hookRun url = (requests, hookFailed message)) : hookMessage url = message := by
  rw [hookMessage, h]
  rfl

theorem hook_alike {url url' : String} {requests requests' : List IoReq}
    {result result' : Except Err StepRunStatus} (h : hookRun url = (requests, result))
    (h' : hookRun url' = (requests', result'))
    (hchecks : ∀ target target', (IoReq.checkSSRF target, IoReq.checkSSRF target') ∈
      requests.zip requests' →
        (hookOutside.ssrfError target = none ↔ hookOutside.ssrfError target' = none)) :
    ∀ e ∈ (hookTrace url).zip (hookTrace url'), hookOutside.Alike e.1 e.2 := by
  intro e he
  rw [hookTrace, hookTrace, h, h', List.zip_map] at he
  obtain ⟨⟨q, q'⟩, hmem, rfl⟩ := List.mem_map.mp he
  cases q with
  | getSecret key =>
    cases q' with
    | getSecret key' => exact fun _ => rfl
    | _ => exact nofun
  | checkSSRF target =>
    cases q' with
    | checkSSRF target' => exact ⟨rfl, rfl, hchecks target target' hmem⟩
    | _ => exact nofun
  | execute ctx executorURL req =>
    cases q' with
    | execute ctx' executorURL' req' => exact ⟨rfl, rfl, hookPieces, rfl, rfl⟩
    | _ => exact nofun
  | _ =>
    intro hq
    subst hq
    rfl

theorem hookTried_check {url url' target target' : String}
    (h : (IoReq.checkSSRF target, IoReq.checkSSRF target') ∈
      (hookTried url).zip (hookTried url')) : target = url ∧ target' = url' := by
  simpa [hookTried, hookChecked] using h

def hookRefusal : String := embed (inQuotes url) hookPieces

def hookUnknownHost (host : String) : String :=
  "step \"notify\" blocked by SSRF protection: SSRF check: DNS resolution failed for " ++
    inQuotes host ++ ": no such host"

theorem hookRun_blank_a : hookRun "https://hooks.test/a b" =
    (hookTried "https://hooks.test/a b", hookFailed (hookRefusal "https://hooks.test/a%20b")) := by
  decide +kernel

theorem hookRun_blank_c : hookRun "https://hooks.test/c d" =
    (hookTried "https://hooks.test/c d", hookFailed (hookRefusal "https://hooks.test/c%20d")) := by
  decide +kernel

theorem hookRun_host_a : hookRun "https://a.test/" =
    (hookRefused "https://a.test/", hookFailed (hookUnknownHost "a.test")) := by
  decide +kernel

theorem hookRun_host_b : hookRun "https://b.test/" =
    (hookRefused "https://b.test/", hookFailed (hookUnknownHost "b.test")) := by
  decide +kernel

theorem hookRun_plain_a : hookRun "https://hooks.test/a" =
    (hookTried "https://hooks.test/a", hookFailed (hookRefusal "/notify")) := by
  decide +kernel

theorem hookRun_plain_b : hookRun "https://hooks.test/b" =
    (hookTried "https://hooks.test/b", hookFailed (hookRefusal "/notify")) := by
  decide +kernel

theorem hook_redactable {url : String}
    (hfree : ∀ piece ∈ hookPieces, ¬ url.toList <:+: piece.toList) (hquote : '"' ∉ url.toList)
    (hprinted : hookOutside.printed url = inQuotes url) : hookOutside.Redactable url hookPieces :=
  ⟨hfree, fun _ => ⟨hquote, hprinted⟩⟩

theorem hook_guarded {url url' : String} {result result' : Except Err StepRunStatus}
    (h : hookRun url = (hookTried url, result)) (h' : hookRun url' = (hookTried url', result'))
    (hpassed : hookOutside.ssrfError url = none) (hred : hookOutside.Redactable url hookPieces)
    (hred' : hookOutside.Redactable url' hookPieces) :
    ∀ e ∈ (hookTrace url).zip (hookTrace url'), hookOutside.Guarded e.1 e.2 := by
  intro e he
  rw [hookTrace, hookTrace, h, h'] at he
  simp only [hookTried, hookChecked, List.cons_append, List.nil_append, List.map_cons,
    List.map_nil, List.zip_cons_cons, List.zip_nil_right, List.mem_cons, List.not_mem_nil,
    or_false] at he
  rcases he with rfl | rfl | rfl | rfl | rfl | rfl | rfl
  · trivial
  · trivial
  · trivial
  · exact .inl hpassed
  · trivial
  · exact .inr ⟨hookPieces, rfl, rfl, hred, hred'⟩
  · trivial

end KubeZap
