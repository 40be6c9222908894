import KubeZap.Controller.Conditions
import KubeZap.Foundation.Keyed
import KubeZap.Controller.FlowValidation

/-! # The order in which maps are iterated

`interpolateTemplate` and `evaluateWhen` iterate over the results of the steps and
over the headers while they rename the keys: hyphens become underscores, letters
lower case. Go chooses the order of iteration anew each time. It makes no
difference as long as the renamed keys stay distinct, and a `when` expression does not
itself look at the order of a map.
-/

namespace KubeZap

open Foundation

/-! ## Maps and their orders -/

section Maps

variable {V W : Type}

theorem lookup_eq_find (m : StringMap V) (key : String) :
    m.lookup key = (Keyed.find Prod.fst m key).map Prod.snd := by
  induction m with
  | nil => rfl
  | cons e m ih =>
    rw [List.lookup_cons, Keyed.find_cons]
    by_cases he : e.1 = key
    · simp [he]
    · have hne : (key == e.1) = false := beq_false_of_ne (Ne.symm he)
      rw [hne, if_neg he]
      exact ih

theorem lookup_perm {m m' : StringMap V} (h : m.Perm m') (hnd : (m.map Prod.fst).Nodup)
    (key : String) : m.lookup key = m'.lookup key := by
  rw [lookup_eq_find, lookup_eq_find, Keyed.find_perm h hnd]

theorem lookup_set (m : StringMap V) (key key' : String) (value : V) :
    (m.set key value).lookup key' = if key' = key then some value else m.lookup key' := by
  have hrest : Keyed.find Prod.fst (m.filter fun e => e.1 != key) key' =
      if key = key' then none else Keyed.find Prod.fst m key' := by
    rw [← Keyed.find_filter_ne]
    simp only [bne, ne_eq, decide_not, beq_eq_decide]
  rw [lookup_eq_find, lookup_eq_find, StringMap.set, Keyed.find_cons, hrest]
  by_cases hk : key = key'
  · simp [hk]
  · rw [if_neg hk, if_neg hk, if_neg (Ne.symm hk)]

theorem lookup_foldl_set (f : String → String) (g : W → V) (xs : StringMap W) (m : StringMap V)
    (key : String) :
    (xs.foldl (fun m e => StringMap.set m (f e.1) (g e.2)) m).lookup key =
      ((xs.map fun e => (f e.1, g e.2)).reverse.lookup key).or (m.lookup key) := by
  induction xs generalizing m with
  | nil => simp
  | cons e xs ih =>
    rw [List.foldl_cons, ih, lookup_set, List.map_cons, List.reverse_cons, List.lookup_append]
    by_cases hk : key = f e.1
    · simp [hk]
    · have hne : (key == f e.1) = false := by simpa using hk
      simp [hk, List.lookup_cons, hne]

theorem lookup_renamed_perm {xs xs' : StringMap W} (f : String → String) (g : W → V)
    (h : xs.Perm xs') (hnd : (xs.map fun e => f e.1).Nodup) (key : String) :
    (xs.map fun e => (f e.1, g e.2)).reverse.lookup key =
      (xs'.map fun e => (f e.1, g e.2)).reverse.lookup key := by
  apply lookup_perm
  · exact (List.reverse_perm _).trans ((h.map _).trans (List.reverse_perm _).symm)
  · rw [List.map_reverse, List.map_map]
    exact List.nodup_reverse.mpr hnd

end Maps

/-! ## Reordered data -/

inductive TriggerData.Reordered : Option TriggerData → Option TriggerData → Prop
  | none : Reordered none none
  | some {td : TriggerData} {headers : StringMap String} : td.headers.Perm headers →
      Reordered (some td) (some { td with headers := headers })

theorem TriggerData.Reordered.refl (td : Option TriggerData) : TriggerData.Reordered td td := by
  cases td with
  | none => exact .none
  | some td => exact .some .rfl

structure TemplateEnv.Reordered (env env' : TemplateEnv) : Prop where
  steps : env.stepResults.Perm env'.stepResults
  trigger : TriggerData.Reordered env.triggerData env'.triggerData
  params : env.params.Perm env'.params
  /-- `params` is a map -/
  distinct : (env.params.map Prod.fst).Nodup

structure TemplateEnv.Collisionless (lib : GoLib) (env : TemplateEnv) : Prop where
  steps : (env.stepResults.map fun e => underscored e.1).Nodup
  headers : ∀ td ∈ env.triggerData, (td.headers.map fun e => lib.toLower e.1).Nodup

def BodyValue.Same : BodyValue → BodyValue → Prop
  | .object fields, .object fields' => ∀ key, fields.lookup key = fields'.lookup key
  | v, v' => v = v'

structure Activation.Same (a a' : Activation) : Prop where
  trigger : List.Forall₂ (fun e e' => e.1 = e'.1 ∧ BodyValue.Same e.2 e'.2) a.trigger a'.trigger
  steps : ∀ key, a.steps.lookup key = a'.steps.lookup key
  params : ∀ key, a.params.lookup key = a'.params.lookup key

/-- The expression sees the entries of a map and not their order, which it would with `map` or
`filter` over one. -/
def Cel.OrderBlind (cel : Cel) (expression : String) : Prop :=
  ∀ a a', Activation.Same a a' → cel expression a = cel expression a'

theorem BodyValue.Same.refl (v : BodyValue) : BodyValue.Same v v := by
  cases v <;> first | rfl | exact fun _ => rfl

/-! ## Tokens -/

section Tokens

variable {lib : GoLib} {env env' : TemplateEnv} {m : Type → Type} [Monad m]

theorem resolveStepToken_perm {sr sr' : StringMap (StringMap String)} (h : sr.Perm sr')
    (hnd : (sr.map fun e => underscored e.1).Nodup) (token : List Char) :
    resolveStepToken token sr = resolveStepToken token sr' := by
  unfold resolveStepToken
  dsimp only
  split
  · rfl
  · rename_i idx _
    have hfind := Keyed.find_perm h hnd
      (String.ofList ((trimPrefix token "steps.".toList).take idx))
    unfold Keyed.find at hfind
    rw [hfind]

theorem parseTriggerBody_reordered {td td' : Option TriggerData}
    (h : TriggerData.Reordered td td') : parseTriggerBody lib td = parseTriggerBody lib td' := by
  cases h <;> rfl

theorem lowerHeaders_reordered {td td' : Option TriggerData} (h : TriggerData.Reordered td td')
    (hnd : ∀ d ∈ td, (d.headers.map fun e => lib.toLower e.1).Nodup) (key : String) :
    (lowerHeaders lib td).lookup key = (lowerHeaders lib td').lookup key := by
  cases h with
  | none => rfl
  | some hperm => exact lookup_renamed_perm lib.toLower id hperm (hnd _ rfl) key

theorem resolveInterpolationToken_reordered (hre : env.Reordered env')
    (hc : env.Collisionless lib) (resolveSecret : Option (SecretResolver m)) (token : List Char) :
    resolveInterpolationToken lib token env (parseTriggerBody lib env.triggerData)
        (lowerHeaders lib env.triggerData) resolveSecret =
      resolveInterpolationToken lib token env' (parseTriggerBody lib env'.triggerData)
        (lowerHeaders lib env'.triggerData) resolveSecret := by
  obtain ⟨sr, td, params⟩ := env
  obtain ⟨sr', td', params'⟩ := env'
  have htrigger : TriggerData.Reordered td td' := hre.trigger
  unfold resolveInterpolationToken
  simp only [resolveStepToken_perm hre.steps hc.steps, lookup_perm hre.params hre.distinct,
    parseTriggerBody_reordered htrigger, lowerHeaders_reordered htrigger hc.headers]
  generalize parseTriggerBody lib td' = body
  cases htrigger <;> cases body <;> rfl

/-- The first `.results.` of the token is the one after the name. -/
def StepToken (name key : String) : Prop :=
  Scan.index (name.toList ++ ".results.".toList ++ key.toList) ".results.".toList =
    some name.toList.length

def stepToken (name key : String) : List Char :=
  "steps.".toList ++ (name.toList ++ ".results.".toList ++ key.toList)

theorem trimPrefix_append (p t : List Char) : trimPrefix (p ++ t) p = t := by
  simp [trimPrefix, List.isPrefixOf_iff_prefix]

theorem resolveStepToken_stepToken {name key : String} (htoken : StepToken name key)
    (sr : StringMap (StringMap String)) :
    resolveStepToken (stepToken name key) sr =
      ((sr.find? fun e => underscored e.1 == name).bind fun e => e.2.lookup key).elim {}
        fun v => { value := v, matched := true } := by
  have hrest : trimPrefix (stepToken name key) "steps.".toList =
      name.toList ++ ".results.".toList ++ key.toList := trimPrefix_append _ _
  have hlen : (name.toList ++ ".results.".toList).length =
      name.toList.length + ".results.".length := List.length_append
  unfold StepToken at htoken
  unfold resolveStepToken
  simp only [hrest, htoken]
  rw [List.append_assoc, List.take_left, ← List.append_assoc, List.drop_left' hlen,
    String.ofList_toList, String.ofList_toList]
  cases sr.find? fun e => underscored e.1 == name with
  | none => rfl
  | some e =>
    simp only [Option.bind_some]
    cases e.2.lookup key <;> rfl

theorem resolveStepToken_of_mem {sr : StringMap (StringMap String)} {name key value : String}
    {results : StringMap String} (hnd : (sr.map fun e => underscored e.1).Nodup)
    (hmem : (name, results) ∈ sr) (hkey : results.lookup key = some value)
    (htoken : StepToken (underscored name) key) :
    resolveStepToken (stepToken (underscored name) key) sr =
      { value := value, matched := true } := by
  have hfind := Keyed.find_of_mem hnd hmem
  unfold Keyed.find at hfind
  rw [resolveStepToken_stepToken htoken, hfind, Option.bind_some, hkey, Option.elim_some]

end Tokens

/-! ## Conditions -/

theorem stepsActivation_reordered {sr sr' : StringMap (StringMap String)} (h : sr.Perm sr')
    (hnd : (sr.map fun e => underscored e.1).Nodup) (statuses : List StepRunStatus)
    (key : String) : (stepsActivation sr statuses).lookup key =
      (stepsActivation sr' statuses).lookup key := by
  unfold stepsActivation
  -- the statuses are written over two maps with the same entries
  have hfold : ∀ (m m' : StringMap (StringMap String × StepPhase)),
      (∀ k, m.lookup k = m'.lookup k) → ∀ k,
        (statuses.foldl (fun m ss => StringMap.set m (underscored ss.name)
          (((m.lookup (underscored ss.name)).map Prod.fst).getD [], ss.phase)) m).lookup k =
        (statuses.foldl (fun m ss => StringMap.set m (underscored ss.name)
          (((m.lookup (underscored ss.name)).map Prod.fst).getD [], ss.phase)) m').lookup k := by
    induction statuses with
    | nil => exact fun m m' hm => hm
    | cons ss statuses ih =>
      intro m m' hm
      apply ih
      intro k
      rw [lookup_set, lookup_set, hm, hm]
  apply hfold
  intro k
  have hwritten (xs : StringMap (StringMap String)) := lookup_foldl_set underscored
    (fun results => (results, StepPhase.empty)) xs [] k
  have hsame := lookup_renamed_perm underscored
    (fun results : StringMap String => (results, StepPhase.empty)) h hnd k
  rw [hwritten, hwritten, hsame]

theorem triggerActivation_reordered {lib : GoLib} {td td' : Option TriggerData}
    (h : TriggerData.Reordered td td') (hnd : ∀ d ∈ td, (d.headers.map Prod.fst).Nodup) :
    List.Forall₂ (fun e e' => e.1 = e'.1 ∧ BodyValue.Same e.2 e'.2)
      (triggerActivation lib td) (triggerActivation lib td') := by
  cases h with
  | none => exact List.forall₂_same.mpr fun e _ => ⟨rfl, .refl _⟩
  | @some td headers hperm =>
    unfold triggerActivation
    have hbody : parseTriggerBody lib (some td) = parseTriggerBody lib (some { td with headers }) :=
      parseTriggerBody_reordered (.some hperm)
    simp only [List.forall₂_cons, List.forall₂_nil_left_iff, hbody, BodyValue.Same.refl, true_and,
      and_true]
    intro key
    exact lookup_perm (hperm.map _) (by rw [List.map_map]; exact hnd td rfl) key

theorem evaluateExpressions_same {cel : Cel} {a a' : Activation} (h : a.Same a')
    {when : List WhenExpression} (hcel : ∀ expr ∈ when, cel.OrderBlind expr.expression) :
    evaluateExpressions cel a when = evaluateExpressions cel a' when := by
  induction when with
  | nil => rfl
  | cons expr rest ih =>
    obtain ⟨hexpr, hrest⟩ := List.forall_mem_cons.mp hcel
    rw [evaluateExpressions, evaluateExpressions, hexpr _ _ h, ih hrest]

theorem evaluateWhen_reordered {r : FlowRunReconciler} {env env' : TemplateEnv}
    (hre : env.Reordered env') (hc : env.Collisionless r.lib) (when : List WhenExpression)
    (statuses : List StepRunStatus)
    (hcel : ∀ cel ∈ r.celEnv, ∀ expr ∈ when, cel.OrderBlind expr.expression) :
    evaluateWhen r when env.stepResults statuses env.triggerData env.params =
      evaluateWhen r when env'.stepResults statuses env'.triggerData env'.params := by
  unfold evaluateWhen
  split
  · rfl
  · split
    · rfl
    · rename_i cel hcelEnv
      refine evaluateExpressions_same ?_ (hcel cel hcelEnv)
      have hheaders : ∀ td ∈ env.triggerData, (td.headers.map Prod.fst).Nodup := by
        intro td htd
        have hlower := hc.headers td htd
        rw [show (fun e : String × String => r.lib.toLower e.1) = r.lib.toLower ∘ Prod.fst from rfl,
          ← List.map_map] at hlower
        exact hlower.of_map
      exact ⟨triggerActivation_reordered hre.trigger hheaders,
        stepsActivation_reordered hre.steps hc.steps statuses,
        lookup_perm hre.params hre.distinct⟩

theorem interpolateTemplate_reordered {lib : GoLib} {env env' : TemplateEnv}
    (hre : env.Reordered env') (hc : env.Collisionless lib) {m : Type → Type} [Monad m]
    (resolveSecret : Option (SecretResolver m)) (template : String) :
    interpolateTemplate lib template env resolveSecret =
      interpolateTemplate lib template env' resolveSecret := by
  rw [interpolateTemplate_eq_expand, interpolateTemplate_eq_expand]
  exact expand_congr (fun t _ => resolveInterpolationToken_reordered hre hc resolveSecret t) _ _

/-! ## Keys that collide -/

section Collisions

variable {lib : GoLib} {env : TemplateEnv}

/-- What a template without secrets gets for a token. -/
def tokenValue (lib : GoLib) (env : TemplateEnv) (token : List Char) : TokenValue :=
  Id.run (resolveInterpolationToken lib token env (parseTriggerBody lib env.triggerData)
    (lowerHeaders lib env.triggerData) none)

def headerToken (name : String) : List Char := "trigger.headers.".toList ++ name.toList

theorem tokenValue_header {td : TriggerData} {headers : StringMap String} {e : String × String}
    (htd : env.triggerData = some { td with headers := headers ++ [e] }) {name : String}
    (hname : lib.toLower name = lib.toLower e.1) :
    (tokenValue lib env (headerToken name)).value = e.2 := by
  have hsteps : "steps.".toList.isPrefixOf (headerToken name) = false := rfl
  have hparams : "params.".toList.isPrefixOf (headerToken name) = false := rfl
  have hfield : "trigger.body.".toList.isPrefixOf (headerToken name) = false := rfl
  have hheaders : "trigger.headers.".toList.isPrefixOf (headerToken name) = true := rfl
  have hbody : headerToken name ≠ "trigger.body".toList := nofun
  have hrest : trimPrefix (headerToken name) "trigger.headers.".toList = name.toList :=
    trimPrefix_append _ _
  unfold tokenValue resolveInterpolationToken
  rw [hsteps, hparams, hfield, hheaders, if_neg hbody, hrest, htd]
  simp [lowerHeaders, hname]

theorem tokenValue_steps (name key : String) :
    tokenValue lib env (stepToken name key) =
      resolveStepToken (stepToken name key) env.stepResults := by
  have hnamespace : "steps.".toList.isPrefixOf (stepToken name key) = true := rfl
  unfold tokenValue resolveInterpolationToken
  rw [hnamespace]
  rfl

theorem tokenValue_step {name key : String} (htoken : StepToken name key)
    {e : String × StringMap String} {rest : StringMap (StringMap String)}
    (hsteps : env.stepResults = e :: rest) (hname : underscored e.1 = name) :
    tokenValue lib env (stepToken name key) =
      (e.2.lookup key).elim {} fun v => { value := v, matched := true } := by
  rw [tokenValue_steps, resolveStepToken_stepToken htoken, hsteps]
  simp only [List.find?_cons, hname, beq_self_eq_true, Option.bind_some]

theorem headers_collide (hparams : (env.params.map Prod.fst).Nodup) {td : TriggerData}
    (htd : env.triggerData = some td) {e e' : String × String} (he : e ∈ td.headers)
    (he' : e' ∈ td.headers) (hsame : lib.toLower e.1 = lib.toLower e'.1) (hne : e.2 ≠ e'.2) :
    ∃ env₁ env₂, env.Reordered env₁ ∧ env.Reordered env₂ ∧
      tokenValue lib env₁ (headerToken e.1) ≠ tokenValue lib env₂ (headerToken e.1) := by
  have hlast {a : String × String} (ha : a ∈ td.headers) : env.Reordered
      { env with triggerData := some { td with headers := td.headers.erase a ++ [a] } } :=
    ⟨.rfl, htd ▸ .some ((List.perm_cons_erase ha).trans (List.perm_append_singleton a _).symm),
      .rfl, hparams⟩
  refine ⟨_, _, hlast he, hlast he', fun heq => hne ?_⟩
  have hvalue := congrArg TokenValue.value heq
  rwa [tokenValue_header rfl rfl, tokenValue_header rfl hsame] at hvalue

theorem steps_collide (hparams : (env.params.map Prod.fst).Nodup)
    (htrigger : TriggerData.Reordered env.triggerData env.triggerData)
    {e e' : String × StringMap String} (he : e ∈ env.stepResults) (he' : e' ∈ env.stepResults)
    (hsame : underscored e.1 = underscored e'.1) {key : String}
    (htoken : StepToken (underscored e.1) key) (hne : e.2.lookup key ≠ e'.2.lookup key) :
    ∃ env₁ env₂, env.Reordered env₁ ∧ env.Reordered env₂ ∧
      tokenValue lib env₁ (stepToken (underscored e.1) key) ≠
        tokenValue lib env₂ (stepToken (underscored e.1) key) := by
  have hfirst {a : String × StringMap String} (ha : a ∈ env.stepResults) :
      env.Reordered { env with stepResults := a :: env.stepResults.erase a } :=
    ⟨List.perm_cons_erase ha, htrigger, .rfl, hparams⟩
  refine ⟨_, _, hfirst he, hfirst he', fun heq => hne ?_⟩
  rw [tokenValue_step htoken rfl rfl, tokenValue_step htoken rfl hsame.symm] at heq
  cases h : e.2.lookup key <;> cases h' : e'.2.lookup key <;> simp_all

end Collisions

/-! ## The order makes no difference -/

/-- Where the renamed keys stay distinct, templates have one meaning in every order of the maps,
conditions too unless they look at the order, and a token for the result of a step gives that
result. Where two of them collide and their values differ, two orders give a token two values. -/
theorem map_order_irrelevant (r : FlowRunReconciler) (env : TemplateEnv)
    (hparams : (env.params.map Prod.fst).Nodup) :
    (env.Collisionless r.lib →
      (∀ env', env.Reordered env' →
        (∀ (m : Type → Type) [Monad m] (resolveSecret : Option (SecretResolver m))
          (template : String), interpolateTemplate r.lib template env resolveSecret =
            interpolateTemplate r.lib template env' resolveSecret) ∧
        ∀ when statuses, (∀ cel ∈ r.celEnv, ∀ expr ∈ when, cel.OrderBlind expr.expression) →
          evaluateWhen r when env.stepResults statuses env.triggerData env.params =
            evaluateWhen r when env'.stepResults statuses env'.triggerData env'.params) ∧
      ∀ name results key value, (name, results) ∈ env.stepResults →
        results.lookup key = some value → StepToken (underscored name) key →
        tokenValue r.lib env (stepToken (underscored name) key) =
          { value := value, matched := true }) ∧
    (∀ td ∈ env.triggerData, ∀ e ∈ td.headers, ∀ e' ∈ td.headers,
      r.lib.toLower e.1 = r.lib.toLower e'.1 → e.2 ≠ e'.2 →
      ∃ env₁ env₂, env.Reordered env₁ ∧ env.Reordered env₂ ∧
        tokenValue r.lib env₁ (headerToken e.1) ≠ tokenValue r.lib env₂ (headerToken e.1)) ∧
    ∀ e ∈ env.stepResults, ∀ e' ∈ env.stepResults, underscored e.1 = underscored e'.1 →
      ∀ key, StepToken (underscored e.1) key → e.2.lookup key ≠ e'.2.lookup key →
      ∃ env₁ env₂, env.Reordered env₁ ∧ env.Reordered env₂ ∧
        tokenValue r.lib env₁ (stepToken (underscored e.1) key) ≠
          tokenValue r.lib env₂ (stepToken (underscored e.1) key) := by
  refine ⟨fun hc => ⟨fun env' hre => ⟨fun m _ resolveSecret template =>
    interpolateTemplate_reordered hre hc resolveSecret template,
    evaluateWhen_reordered hre hc⟩, ?_⟩, ?_, ?_⟩
  · intro name results key value hmem hkey hname
    rw [tokenValue_steps, resolveStepToken_of_mem hc.steps hmem hkey hname]
  · intro td htd e he e' he' hsame hne
    exact headers_collide hparams htd he he' hsame hne
  · intro e he e' he' hsame key htoken hne
    exact steps_collide hparams (.refl _) he he' hsame htoken hne

def twoResults (first second : String) : StringMap (StringMap String) :=
  [(first, [("k", "1")]), (second, [("k", "2")])]

/-- Reads one expression: whether the result `k` of the step `a_b` is 1. -/
def resultCel : Cel := fun _ a =>
  .bool (((a.steps.lookup "a_b").bind fun e => e.1.lookup "k") == some "1")

theorem map_order_irrelevant_twoResults :
    (interpolateTemplate default "$(steps.a_b.results.k)" ⟨twoResults "a-b" "c", none, []⟩ none =
      interpolateTemplate (m := Id) default "$(steps.a_b.results.k)"
        ⟨(twoResults "a-b" "c").reverse, none, []⟩ none) ∧
    ∀ when, evaluateWhen { lib := default, celEnv := some resultCel } when
        (twoResults "a-b" "c") [] none [] =
      evaluateWhen { lib := default, celEnv := some resultCel } when
        (twoResults "a-b" "c").reverse [] none [] := by
  have hblind : ∀ expression, resultCel.OrderBlind expression := by
    intro expression a a' hsame
    simp only [resultCel, hsame.steps]
  have hre : TemplateEnv.Reordered ⟨twoResults "a-b" "c", none, []⟩
      ⟨(twoResults "a-b" "c").reverse, none, []⟩ :=
    ⟨(List.reverse_perm _).symm, .none, .rfl, List.nodup_nil⟩
  have hc : TemplateEnv.Collisionless default ⟨twoResults "a-b" "c", none, []⟩ :=
    ⟨by decide, by rintro _ ⟨⟩⟩
  have hirrelevant := ((map_order_irrelevant { lib := default, celEnv := some resultCel }
    ⟨twoResults "a-b" "c", none, []⟩ List.nodup_nil).1 hc).1 _ hre
  refine ⟨hirrelevant.1 Id none _, fun when => hirrelevant.2 when [] ?_⟩
  rintro cel ⟨⟩ expr -
  exact hblind _

/-- A Flow may have steps `a-b` and `a_b`, and a message headers `Key` and `key`: which
of the two values a template gets depends on the order of iteration. -/
theorem map_order_matters : validateFlowSpec default { steps :=
        [{ name := "a-b", action := { type := .transform } },
         { name := "a_b", action := { type := .transform } }] } = none ∧
      substituteVars default "$(steps.a_b.results.k)" ⟨twoResults "a-b" "a_b", none, []⟩ = "1" ∧
      substituteVars default "$(steps.a_b.results.k)"
        ⟨(twoResults "a-b" "a_b").reverse, none, []⟩ = "2" ∧
      let lib : GoLib := { (default : GoLib) with toLower := String.map Char.toLower }
      let headers : StringMap String := [("Key", "1"), ("key", "2")]
      substituteVars lib "$(trigger.headers.key)" ⟨[], some { headers := headers }, []⟩ = "2" ∧
        substituteVars lib "$(trigger.headers.key)"
          ⟨[], some { headers := headers.reverse }, []⟩ = "1" := by
  decide +kernel

end KubeZap
