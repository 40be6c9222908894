import KubeZap.Controller.Simulation

/-! # The attempts of an http step

A run of `executeHTTPStep` is judged by what the executor answers in it: how often it was asked,
after which answers the loop goes on, and which answer makes the step succeed.
-/

namespace KubeZap

open Foundation

/-- The stages are the answers of the executor so far. -/
def Answers : Protocol (List ExecutorReply) IoReply := fun xs q x ys =>
  match q, x with
  | .execute _ _ _, x => ys = xs ++ [x]
  | _, _ => ys = xs

structure ExecuteResponse.Ok (resp : ExecuteResponse) : Prop where
  error : resp.error = ""
  status : 200 ≤ resp.statusCode ∧ resp.statusCode < 300

/-- The loop goes on after such an answer. -/
def ExecutorReply.Retried : ExecutorReply → Prop
  | .unsent _ => False
  | .answered resp => ¬ resp.Ok
  | .unbuilt _ | .refused _ _ | .malformed _ => True

/-- What the executor was asked, for what is returned. -/
structure Attempted (r : FlowRunReconciler) (step : FlowStep) (limit : Nat)
    (xs : List ExecutorReply) (ret : HttpReturn) : Prop where
  bounded : xs.length ≤ limit
  attempts : ret.attempts = xs.length ∨
    ret.attempts = xs.length + 1 ∧ ∃ err : CtxErr, ret.err = some err.err
  retried : ∀ x ∈ xs.dropLast, x.Retried
  succeeded : 0 < limit → ret.err = none → ∃ h resp, step.action.http = some h ∧
    xs.getLast? = some (.answered resp) ∧ resp.Ok ∧ ret.results = httpResults r.lib h resp

section Loop

variable {r : FlowRunReconciler} {step : FlowStep} {xs : List ExecutorReply}

theorem callExecutor_answers (ctx : Ctx) (ns : String) (req : ExecuteRequest) :
    Follows Answers anyReply (fun ys result => ∃ x, ys = xs ++ [x] ∧ match x with
      | .answered resp => result = .ok resp
      | .unsent _ => ∃ err, result = .error err ∧ err.isTransport = true
      | .unbuilt _ | .refused _ _ | .malformed _ =>
        ∃ err, result = .error err ∧ err.isTransport = false) xs (callExecutor r ctx ns req) := by
  intro x _
  cases x with
  | unbuilt | refused | unsent => exact ⟨_, rfl, _, rfl, _, rfl, rfl⟩
  | malformed err => exact ⟨_, rfl, _, rfl, _, rfl, NetErr.isTransport_err err⟩
  | answered resp => exact ⟨_, rfl, _, rfl, rfl⟩

theorem httpAttempts_attempted {h : HTTPAction} (hhttp : step.action.http = some h) (ctx : Ctx)
    (ns displayURL : String) (req : ExecuteRequest) (rounds : Nat) (lastErr : Option Err)
    (hxs : ∀ x ∈ xs, x.Retried) (hlast : lastErr = none → xs = []) :
    Follows Answers anyReply (Attempted r step (xs.length + rounds)) xs
      (httpAttempts r step h ctx ns displayURL req rounds xs.length lastErr) := by
  induction rounds generalizing xs lastErr with
  | zero =>
    refine ⟨Nat.le_refl _, .inl rfl, fun x hx => hxs x (List.dropLast_subset xs hx), ?_⟩
    intro hpos hnone
    rw [hlast hnone] at hpos
    cases hpos
  | succ rounds ih =>
    have hpause : Follows Answers anyReply (fun ys _ => ys = xs) xs
        (pauseBefore ctx step.retryPolicy xs.length) := by
      unfold pauseBefore
      split
      · exact fun x _ => ⟨xs, rfl, rfl⟩
      · rfl
    refine Follows.bind hpause fun ys pause hys => ?_
    subst hys
    cases pause with
    | some err =>
      exact ⟨by omega, .inr ⟨rfl, err, rfl⟩, fun x hx => hxs x (List.dropLast_subset ys hx),
        fun _ h => by cases h⟩
    | none =>
      refine Follows.bind (callExecutor_answers ctx ns req) fun zs result hresult => ?_
      obtain ⟨x, rfl, hx⟩ := hresult
      -- the next round, after an answer that is retried
      have hagain : ∀ err, x.Retried → Follows Answers anyReply
          (Attempted r step (ys.length + (rounds + 1))) (ys ++ [x])
          (httpAttempts r step h ctx ns displayURL req rounds (ys.length + 1) (some err)) := by
        intro err hretried
        have hnext := @ih (ys ++ [x]) (some err) ?_ nofun
        · rwa [List.length_append, List.length_singleton, Nat.add_right_comm] at hnext
        · intro y hy
          rcases List.mem_append.mp hy with hy | hy
          · exact hxs y hy
          · exact List.mem_singleton.mp hy ▸ hretried
      -- the last round
      have hdone : ∀ ret : HttpReturn, ret.attempts = ys.length + 1 →
          (ret.err = none → ∃ resp, x = .answered resp ∧ resp.Ok ∧
            ret.results = httpResults r.lib h resp) →
          Attempted r step (ys.length + (rounds + 1)) (ys ++ [x]) ret := by
        intro ret hattempts hok
        refine ⟨by simp, .inl (by simpa using hattempts), by simpa using hxs, fun _ hnone => ?_⟩
        obtain ⟨resp, rfl, hresp⟩ := hok hnone
        exact ⟨h, resp, hhttp, List.getLast?_concat, hresp⟩
      cases x with
      | unsent _ =>
        obtain ⟨err, rfl, htransport⟩ := hx
        dsimp only
        rw [if_pos htransport]
        exact hdone _ rfl nofun
      | unbuilt | refused | malformed =>
        obtain ⟨err, rfl, hplain⟩ := hx
        dsimp only
        rw [if_neg (by simp [hplain])]
        exact hagain _ trivial
      | answered resp =>
        subst hx
        dsimp only
        split
        next herror => exact hagain _ fun hok => herror hok.error
        next herror =>
          split
          next hstatus => exact hdone _ rfl fun _ => ⟨resp, rfl, ⟨not_not.mp herror, hstatus⟩, rfl⟩
          next hstatus => exact hagain _ fun hok => hstatus hok.status

/-- Whatever answer a quiet program gets, it has not asked the executor: the answer might be that
the request could not be sent. -/
theorem Quiet.answers {α : Type} {post : α → Prop} {p : StepProgram α} (h : Quiet post p) :
    Follows Answers anyReply (fun ys a => ys = xs ∧ post a) xs p := by
  have hstuck : ∀ (p : StepProgram α) err,
      ¬ Follows rpcMoves anyReply (fun σ a => σ = none ∧ post a) (some err) p := by
    intro p err hp
    induction p with
    | pure a => cases hp.1
    | call q k ih =>
      cases q with
      | now =>
        obtain ⟨σ, rfl, hk⟩ := hp (0 : Time) trivial
        exact ih _ hk
      | _ =>
        obtain ⟨σ, ⟨hnone, _⟩, _⟩ := hp (stepAnswers 0 (fun _ _ => .unbuilt "") _) trivial
        cases hnone
  induction p with
  | pure a => exact ⟨rfl, h.2⟩
  | call q k ih =>
    intro x hx
    cases q with
    | execute ctx url req =>
      obtain ⟨σ, ⟨_, rfl⟩, hk⟩ := h (.unsent ⟨"", none⟩) trivial
      exact absurd hk (hstuck _ _)
    | now =>
      obtain ⟨σ, rfl, hk⟩ := h x hx
      exact ⟨xs, rfl, ih x hk⟩
    | _ =>
      obtain ⟨σ, ⟨_, rfl⟩, hk⟩ := h x hx
      exact ⟨xs, rfl, ih x hk⟩

/-- Whatever an http step is answered: the executor is asked as often as the retry policy allows
at most, and again only after an answer that is retried; the attempts are the answers, with one
more where the context has ended the pause before it; and the step succeeds only with the results
of its last answer, which has no error and a status in the 200s. -/
theorem http_step_attempted (ctx : Ctx) (env : TemplateEnv) (ns : String) :
    Follows Answers anyReply (Attempted r step (maxAttempts step)) []
      (executeHTTPStep r ctx step env ns) := by
  have hunasked : ∀ err, Attempted r step (maxAttempts step) [] { err := some err } :=
    fun _ => ⟨Nat.zero_le _, .inl rfl, nofun, fun _ h => by cases h⟩
  unfold executeHTTPStep
  split
  · exact hunasked _
  next h hhttp =>
    refine Follows.bind (quiet_prepareHTTP r ctx step h env ns).answers fun xs x hx => ?_
    obtain ⟨rfl, -⟩ := hx
    cases x with
    | error err => exact hunasked err
    | ok prepared =>
      have hloop := @httpAttempts_attempted r step [] h hhttp prepared.2.2 ns prepared.2.1
        prepared.1 (maxAttempts step) none nofun fun _ => rfl
      rwa [List.length_nil, Nat.zero_add] at hloop

end Loop

end KubeZap
