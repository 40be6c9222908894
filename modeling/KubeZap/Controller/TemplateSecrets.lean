import KubeZap.Controller.MapOrder

/-! # Which secrets a template reads

Here the resolver of secrets is a request, so that a run of `interpolateTemplate`
shows the pairs it asked for. The pairs depend on the text of the template alone:
step results, trigger data, parameters and secret values are copied to the output
and never scanned. Two runs may iterate over the maps in two orders.
-/

namespace KubeZap

open Foundation

abbrev SecretProgram := Program (String × String) fun _ => Except Err String

def askSecret : SecretResolver SecretProgram := fun name key => Program.request (name, key)

/-- The pair a token `secrets.<name>.<key>` refers to. -/
def secretRef (token : List Char) : Option (String × String) :=
  if "secrets.".toList.isPrefixOf token then
    let inner := trimPrefix token "secrets.".toList
    (Scan.index inner ['.']).map fun i =>
      (String.ofList (inner.take i), String.ofList (inner.drop (i + 1)))
  else none

def segmentSecret : Scan.Segment Char → Option (String × String)
  | .lit _ => none
  | .token t => secretRef t

def secretTokens (s : String) : List (String × String) :=
  (templateSegments s.toList).filterMap segmentSecret

theorem secretRef_eq_some {token : List Char} {q : String × String} :
    secretRef token = some q ↔
      token = "secrets.".toList ++ q.1.toList ++ ['.'] ++ q.2.toList ∧ '.' ∉ q.1.toList := by
  unfold secretRef
  constructor
  · intro h
    split at h
    · rename_i hpre
      obtain ⟨inner, rfl⟩ := List.isPrefixOf_iff_prefix.mp hpre
      simp only [trimPrefix_append, Option.map_eq_some_iff] at h
      obtain ⟨i, hi, rfl⟩ := h
      have hsplit := Scan.split_of_index_singleton hi
      refine ⟨?_, by simpa using Scan.not_mem_take_of_index_singleton hi⟩
      simp only [String.toList_ofList, List.append_assoc]
      rw [List.singleton_append, ← hsplit]
    · cases h
  · rintro ⟨rfl, hname⟩
    rw [List.append_assoc, List.append_assoc,
      if_pos (List.isPrefixOf_iff_prefix.mpr (List.prefix_append _ _))]
    simp only [trimPrefix_append, List.singleton_append, Scan.index_append_singleton hname]
    simp

theorem resolveInterpolationToken_of_namespace (lib : GoLib) (rest : List Char) (env : TemplateEnv)
    (body : Option BodyValue) (headers : StringMap String)
    (resolveSecret : Option (SecretResolver SecretProgram)) :
    resolveInterpolationToken lib ("secrets.".toList ++ rest) env body headers resolveSecret =
      resolveSecretToken ("secrets.".toList ++ rest) resolveSecret := by
  have hsteps : "steps.".toList.isPrefixOf ("secrets.".toList ++ rest) = false := rfl
  have hparams : "params.".toList.isPrefixOf ("secrets.".toList ++ rest) = false := rfl
  have hfield : "trigger.body.".toList.isPrefixOf ("secrets.".toList ++ rest) = false := rfl
  have hheaders : "trigger.headers.".toList.isPrefixOf ("secrets.".toList ++ rest) = false := rfl
  have hsecrets : "secrets.".toList.isPrefixOf ("secrets.".toList ++ rest) = true := rfl
  have hbody : "secrets.".toList ++ rest ≠ "trigger.body".toList := by
    intro h
    cases h
  have hscalar : "secrets.".toList ++ rest ∉ triggerScalarTokens := by
    intro h
    simp only [triggerScalarTokens, List.mem_cons, List.not_mem_nil, or_false] at h
    rcases h with h | h | h | h | h <;> cases h
  unfold resolveInterpolationToken
  rw [hsteps, hparams, hfield, hheaders, hsecrets, if_neg hbody, if_neg hscalar]
  rfl

theorem resolveInterpolationToken_secret {lib : GoLib} {token : List Char} {env : TemplateEnv}
    {body : Option BodyValue} {headers : StringMap String} {q : String × String}
    (h : secretRef token = some q) :
    resolveInterpolationToken lib token env body headers (some askSecret) =
      .call q fun x => .pure <| match x with
        | .error ferr =>
          { err := some (.wrap ("resolving $(" ++ String.ofList token ++ "): ") ferr) }
        | .ok v => { value := v, matched := true, isSecret := true } := by
  unfold secretRef at h
  split at h
  · rename_i hpre
    obtain ⟨rest, rfl⟩ := List.isPrefixOf_iff_prefix.mp hpre
    rw [resolveInterpolationToken_of_namespace, resolveSecretToken]
    obtain ⟨i, hi, rfl⟩ := Option.map_eq_some_iff.mp h
    simp only [hi, askSecret, Program.request_bind]
    congr 1
    funext x
    cases x <;> rfl
  · cases h

theorem resolveInterpolationToken_plain {lib : GoLib} {token : List Char} {env : TemplateEnv}
    {body : Option BodyValue} {headers : StringMap String} (h : secretRef token = none) :
    ∃ r : TokenValue, r.Plain ∧
      resolveInterpolationToken lib token env body headers (some askSecret) = .pure r := by
  by_cases hpre : "secrets.".toList.isPrefixOf token
  · obtain ⟨rest, rfl⟩ := List.isPrefixOf_iff_prefix.mp hpre
    rw [secretRef, if_pos hpre, Option.map_eq_none_iff] at h
    rw [resolveInterpolationToken_of_namespace, resolveSecretToken]
    exact ⟨{}, TokenValue.plain_unmatched, by simp only [h]; rfl⟩
  · unfold resolveInterpolationToken
    split
    · exact ⟨_, resolveStepToken_plain _ _, rfl⟩
    · repeat' split
      all_goals first
        | exact ⟨_, resolveTriggerScalarToken_plain _ _ _, rfl⟩
        | exact ⟨_, TokenValue.plain_matched _, rfl⟩
        | exact ⟨_, TokenValue.plain_unmatched, rfl⟩

/-! ## The run as a list of pieces -/

/-- What one segment contributes once an environment is fixed: a text that goes to
both buffers, or the value of one key of one Secret. -/
inductive Piece
  | text (xs : List Char)
  | secret (q : String × String)

def Piece.request : Piece → Option (String × String)
  | .text _ => none
  | .secret q => some q

/-- The error of `interpolateTemplate` for a pair that could not be read. -/
def secretError (q : String × String) (ferr : Err) : Err :=
  .wrap ("resolving $(secrets." ++ q.1 ++ "." ++ q.2 ++ "): ") ferr

def render : List Piece → List Char → List Char → SecretProgram Interpolation
  | [], actual, display => .pure ⟨String.ofList actual, String.ofList display, none⟩
  | .text xs :: rest, actual, display => render rest (actual ++ xs) (display ++ xs)
  | .secret q :: rest, actual, display =>
    .call q fun
      | .error ferr => .pure ⟨"", "", some (secretError q ferr)⟩
      | .ok v => render rest (actual ++ v.toList) (display ++ "[REDACTED]".toList)

def secretResolve (lib : GoLib) (env : TemplateEnv) (body : Option BodyValue)
    (headers : StringMap String) (token : List Char) : SecretProgram TokenValue :=
  resolveInterpolationToken lib token env body headers (some askSecret)

section Pieces

variable (lib : GoLib) (env : TemplateEnv) (body : Option BodyValue) (headers : StringMap String)

theorem expand_plain_token {t : List Char} (h : secretRef t = none) :
    ∃ xs : List Char, ∀ rest actual display,
      expand (secretResolve lib env body headers) (.token t :: rest) actual display =
        expand (secretResolve lib env body headers) rest (actual ++ xs) (display ++ xs) := by
  obtain ⟨r, ⟨herr, hsecret⟩, hr⟩ := @resolveInterpolationToken_plain lib t env body headers h
  by_cases hm : r.matched
  · refine ⟨r.value.toList, fun rest actual display => ?_⟩
    rw [expand, secretResolve, hr]
    simp only [Program.pure_bind, herr, hm, hsecret, if_true, Bool.false_eq_true, if_false]
  · refine ⟨['$', '('] ++ t ++ [')'], fun rest actual display => ?_⟩
    rw [expand, secretResolve, hr]
    simp only [Program.pure_bind, herr, hm, Bool.false_eq_true, if_false]

theorem expand_secret_token {t : List Char} {q : String × String} (h : secretRef t = some q)
    (rest : List (Scan.Segment Char)) (actual display : List Char) :
    expand (secretResolve lib env body headers) (.token t :: rest) actual display =
      .call q fun
        | .error ferr => .pure ⟨"", "", some (secretError q ferr)⟩
        | .ok v => expand (secretResolve lib env body headers) rest (actual ++ v.toList)
            (display ++ "[REDACTED]".toList) := by
  have htext : "resolving $(" ++ String.ofList t ++ "): " =
      "resolving $(secrets." ++ q.1 ++ "." ++ q.2 ++ "): " := by
    rw [(secretRef_eq_some.mp h).1]
    apply String.toList_injective
    simp
  rw [expand, secretResolve, resolveInterpolationToken_secret h, htext]
  simp only [Program.call_bind, Program.pure_bind]
  congr 1
  funext x
  cases x <;> rfl

theorem expand_eq_render (segments : List (Scan.Segment Char)) :
    ∃ pieces : List Piece, pieces.filterMap Piece.request = segments.filterMap segmentSecret ∧
      ∀ actual display,
        expand (secretResolve lib env body headers) segments actual display =
          render pieces actual display := by
  induction segments with
  | nil => exact ⟨[], rfl, fun _ _ => rfl⟩
  | cons segment rest ih =>
    obtain ⟨pieces, hreq, hrest⟩ := ih
    cases segment with
    | lit x =>
      refine ⟨.text [x] :: pieces, hreq, fun actual display => ?_⟩
      rw [expand, render, hrest]
    | token t =>
      cases ht : secretRef t with
      | none =>
        obtain ⟨xs, hxs⟩ := expand_plain_token lib env body headers ht
        refine ⟨.text xs :: pieces, ?_, fun actual display => ?_⟩
        · rw [List.filterMap_cons_none (show segmentSecret (.token t) = none from ht)]
          exact hreq
        · rw [hxs, render, hrest]
      | some q =>
        refine ⟨.secret q :: pieces, ?_, fun actual display => ?_⟩
        · rw [List.filterMap_cons_some (show segmentSecret (.token t) = some q from ht)]
          exact congrArg (q :: ·) hreq
        · rw [expand_secret_token lib env body headers ht, render]
          congr 1
          funext x
          cases x with
          | error ferr => rfl
          | ok v => exact hrest _ _

end Pieces

/-! ## Runs -/

/-- The answers of a resolver of secrets, as a function of the pair. -/
abbrev SecretAnswers := String × String → Except Err String

def SecretAnswers.Cover (answer : SecretAnswers) (qs : List (String × String)) : Prop :=
  ∀ q ∈ qs, ∃ v, answer q = .ok v

theorem replay_render_requests {answer : SecretAnswers} (pieces : List Piece)
    (actual display : List Char) (h : answer.Cover (pieces.filterMap Piece.request)) :
    ((render pieces actual display).replay answer).1 = pieces.filterMap Piece.request := by
  induction pieces generalizing actual display with
  | nil => rfl
  | cons piece rest ih =>
    cases piece with
    | text xs => exact ih _ _ h
    | secret q =>
      obtain ⟨v, hv⟩ := h q List.mem_cons_self
      have hrest := ih (actual ++ v.toList) (display ++ "[REDACTED]".toList)
        fun p hp => h p (List.mem_cons_of_mem _ hp)
      rw [render, Program.replay_call, hv]
      exact congrArg (q :: ·) hrest

theorem replay_render_display {answer answer' : SecretAnswers} (pieces : List Piece)
    (actual actual' display : List Char) (h : answer.Cover (pieces.filterMap Piece.request))
    (h' : answer'.Cover (pieces.filterMap Piece.request)) :
    ((render pieces actual display).replay answer).2.display =
      ((render pieces actual' display).replay answer').2.display := by
  induction pieces generalizing actual actual' display with
  | nil => rfl
  | cons piece rest ih =>
    cases piece with
    | text xs => exact ih _ _ _ h h'
    | secret q =>
      obtain ⟨v, hv⟩ := h q List.mem_cons_self
      obtain ⟨v', hv'⟩ := h' q List.mem_cons_self
      rw [render, render, Program.replay_call, Program.replay_call, hv, hv']
      exact ih _ _ _ (fun p hp => h p (List.mem_cons_of_mem _ hp))
        (fun p hp => h' p (List.mem_cons_of_mem _ hp))

theorem replay_render_plain (answer : SecretAnswers) (pieces : List Piece) (buffer : List Char)
    (h : pieces.filterMap Piece.request = []) :
    ((render pieces buffer buffer).replay answer).2.actual =
      ((render pieces buffer buffer).replay answer).2.display := by
  induction pieces generalizing buffer with
  | nil => rfl
  | cons piece rest ih =>
    cases piece with
    | text xs => exact ih _ h
    | secret q => cases h

theorem replay_render_failed {answer : SecretAnswers} (pieces : List Piece)
    (actual display : List Char) (h : ¬ answer.Cover (pieces.filterMap Piece.request)) :
    ∃ before q after ferr, pieces.filterMap Piece.request = before ++ q :: after ∧
      answer.Cover before ∧ answer q = .error ferr ∧
      (render pieces actual display).replay answer =
        (before ++ [q], ⟨"", "", some (secretError q ferr)⟩) := by
  induction pieces generalizing actual display with
  | nil => exact absurd (fun q hq => absurd hq List.not_mem_nil) h
  | cons piece rest ih =>
    cases piece with
    | text xs => exact ih _ _ h
    | secret q =>
      cases hq : answer q with
      | error ferr =>
        refine ⟨[], q, rest.filterMap Piece.request, ferr, rfl,
          fun p hp => absurd hp List.not_mem_nil, hq, ?_⟩
        rw [render, Program.replay_call, hq]
        rfl
      | ok v =>
        have hrest : ¬ answer.Cover (rest.filterMap Piece.request) := by
          intro hcover
          exact h (List.forall_mem_cons.mpr ⟨⟨v, hq⟩, hcover⟩)
        obtain ⟨before, p, after, ferr, hsplit, hbefore, hp, hrun⟩ :=
          ih (actual ++ v.toList) (display ++ "[REDACTED]".toList) hrest
        refine ⟨q :: before, p, after, ferr, congrArg (q :: ·) hsplit,
          List.forall_mem_cons.mpr ⟨⟨v, hq⟩, hbefore⟩, hp, ?_⟩
        rw [render, Program.replay_call, hq]
        simp only [hrun, List.cons_append]

/-! ## Noninterference -/

/-- One run of `interpolateTemplate`: the pairs it asked for and its results. -/
def interpolateRun (lib : GoLib) (s : String) (env : TemplateEnv) (answer : SecretAnswers) :
    List (String × String) × Interpolation :=
  (interpolateTemplate lib s env (some askSecret)).replay answer

theorem interpolateRun_eq_render (lib : GoLib) (s : String) (env : TemplateEnv) :
    ∃ pieces : List Piece, pieces.filterMap Piece.request = secretTokens s ∧
      ∀ answer, interpolateRun lib s env answer = (render pieces [] []).replay answer := by
  obtain ⟨pieces, hreq, hrun⟩ := expand_eq_render lib env (parseTriggerBody lib env.triggerData)
    (lowerHeaders lib env.triggerData) (templateSegments s.toList)
  refine ⟨pieces, hreq, fun answer => ?_⟩
  rw [interpolateRun, interpolateTemplate_eq_expand, ← hrun]
  rfl

def loginTemplate : String := "$(steps.a_b.results.k) $(secrets.db.password)"

end KubeZap
