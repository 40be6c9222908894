import KubeZap.Foundation.Run
import KubeZap.Gateway.Handler
import Mathlib.Data.Fintype.Card
import Mathlib.Data.List.NodupEquivFin

/-! # Webhook requests that were accepted

`ServeHTTP` answers 202 when its `Create` succeeds and when it is told that the FlowRun
exists. A FlowRun is named after the Trigger, the second and eight random digits, so the
second answer is also given to a request whose name another request has taken: it has
been accepted and nothing will run for it. Where no two requests to a Trigger draw the same
digits in one second, every accepted request has a FlowRun of its own.
-/

namespace KubeZap

open Foundation Function

section Matching

variable {α β : Type} {r : α → β → Prop} {as : List α} {bs cs : List β}

/-- Each of `as` has an element of `bs` of its own. -/
def Matched (r : α → β → Prop) (as : List α) (bs : List β) : Prop :=
  ∃ own, own.Sublist bs ∧ List.Forall₂ r as own

theorem Matched.more (h : Matched r as bs) (cs : List β) : Matched r as (bs ++ cs) := by
  obtain ⟨own, hsub, hown⟩ := h
  exact ⟨own, hsub.trans (List.sublist_append_left bs cs), hown⟩

theorem Matched.both (h : Matched r as bs) {a : α} {b : β} (hr : r a b) :
    Matched r (as ++ [a]) (bs ++ [b]) := by
  obtain ⟨own, hsub, hown⟩ := h
  refine ⟨own ++ [b], hsub.append (List.Sublist.refl [b]), ?_⟩
  exact List.rel_append hown (.cons hr .nil)

theorem Matched.injection (h : Matched r as bs) :
    ∃ f : Fin as.length → Fin bs.length, Injective f ∧
      ∀ i, r (as.get i) (bs.get (f i)) := by
  obtain ⟨own, hsub, hown⟩ := h
  obtain ⟨g, hg⟩ := List.sublist_iff_exists_fin_orderEmbedding_get_eq.mp hsub
  have hlength := hown.length_eq
  refine ⟨fun i => g (i.cast hlength), ?_, ?_⟩
  · exact g.injective.comp (Fin.cast_injective hlength)
  · intro i
    rw [← hg]
    exact hown.get i.isLt (hlength ▸ i.isLt)

end Matching

/-- One call of `ServeHTTP`: the process it runs in, the routes and the cooldown table that it
finds there, and its request. -/
structure WebhookCall where
  handler : WebhookHandler
  registry : RouteRegistry
  cooldown : CooldownTracker
  exchange : Exchange

def WebhookCall.served (lib : HttpLib) (call : WebhookCall) : Served :=
  serveHTTP lib call.handler call.registry call.cooldown call.exchange

/-! ## What a request draws -/

structure Draw where
  trigger : NamespacedName
  second : Int
  digits : String

/-- The Trigger is the one of the request's path. -/
def WebhookCall.draw (call : WebhookCall) : Option Draw :=
  (call.registry.lookup call.exchange.request.path).map fun entry =>
    ⟨⟨entry.triggerNamespace, entry.triggerName⟩, call.exchange.namedAt, call.exchange.random⟩

namespace Draw

/-- A clock after the epoch, and digits of `randomHex`. -/
structure Typed (d : Draw) : Prop where
  second : 0 ≤ d.second
  digits : ∃ read, d.digits = randomHex 8 read

/-- The Trigger, the second and the digits, with a dash between them. -/
def key (d : Draw) : NamespacedName :=
  ⟨d.trigger.namespace_, d.trigger.name ++ "-" ++ toString d.second ++ "-" ++ d.digits⟩

theorem dash_notMem_randomHex (length : Nat) (read : Option Bytes) :
    '-' ∉ (randomHex length read).toList := by
  refine dash_notMem ?_
  cases read with
  | none =>
    intro c hc
    rw [randomHex, String.toList_ofList] at hc
    obtain rfl := List.eq_of_mem_replicate hc
    decide
  | some bytes =>
    intro c hc
    rw [randomHex, String.toList_ofList] at hc
    exact hexDigits_lowerAlnum bytes c (List.mem_of_mem_take hc)

theorem key_inj {d d' : Draw} (hd : d.Typed) (hd' : d'.Typed) (hkey : d.key = d'.key) :
    d = d' := by
  obtain ⟨⟨ns, name⟩, second, digits⟩ := d
  obtain ⟨⟨ns', name'⟩, second', digits'⟩ := d'
  obtain ⟨hsecond, read, rfl⟩ := hd
  obtain ⟨hsecond', read', rfl⟩ := hd'
  simp only [key, NamespacedName.mk.injEq] at hkey hsecond hsecond'
  obtain ⟨hstart, hdigits⟩ :=
    dash_inj (dash_notMem_randomHex 8 read) (dash_notMem_randomHex 8 read') hkey.2
  rw [toString_int hsecond, toString_int hsecond'] at hstart
  obtain ⟨hname, htext⟩ :=
    dash_inj (dash_notMem (nat_lowerAlnum _)) (dash_notMem (nat_lowerAlnum _)) hstart
  have hnat := nat_text_inj htext
  have hseconds : second = second' := by omega
  rw [hkey.1, hname, hseconds, hdigits]

end Draw

theorem WebhookCall.draw_of_served {lib : HttpLib} {call : WebhookCall} {run : FlowRun}
    (hrun : (call.served lib).flowRun = some run) :
    ∃ d, call.draw = some d ∧ d.key = run.metadata.name := by
  obtain ⟨entry, body, hscreen, rfl⟩ := serveHTTP_screened hrun
  refine ⟨⟨⟨entry.triggerNamespace, entry.triggerName⟩, call.exchange.namedAt,
    call.exchange.random⟩, ?_, rfl⟩
  rw [draw, screen_ok hscreen, Option.map_some]

/-! ## Runs -/

/-- The FlowRuns of the cluster, all that have been created, and the calls answered with 202. -/
structure Intake where
  held : NamespacedName → Option FlowRun
  created : List FlowRun
  accepted : List WebhookCall

namespace Intake

def start (held : NamespacedName → Option FlowRun) : Intake := ⟨held, [], []⟩

def store (s : Intake) (run : FlowRun) : Intake :=
  { s with
    held := update s.held run.metadata.name (some run)
    created := s.created ++ [run] }

def answer (lib : HttpLib) (s : Intake) (call : WebhookCall) : Intake :=
  if (call.served lib).response.status = 202 then { s with accepted := s.accepted ++ [call] } else s

/-- The answers to a `Create`: `AlreadyExists` is the one for a name that is taken. Another error
may come before or after the FlowRun was stored. -/
inductive Create (s : Intake) (run : FlowRun) : CreateReply → Intake → Prop
  | created : s.held run.metadata.name = none → Create s run .created (s.store run)
  | alreadyExists : (s.held run.metadata.name).isSome → Create s run .alreadyExists s
  | failed (err : String) : s.held run.metadata.name = none → Create s run (.failed err) s
  | unanswered (err : String) :
      s.held run.metadata.name = none → Create s run (.failed err) (s.store run)

/-- Calls overlap, but each makes one `Create` at most, and what it reads before is its own
business: they are listed in the order of the `Create`s. In between, others change and delete
FlowRuns at will, and create some. -/
inductive Step (lib : HttpLib) (s : Intake) : Option WebhookCall → Intake → Prop
  | refused {call : WebhookCall} :
      (call.served lib).flowRun = none → Step lib s (some call) (s.answer lib call)
  | created {call : WebhookCall} {run : FlowRun} {s' : Intake} :
      (call.served lib).flowRun = some run → Create s run (call.exchange.create run) s' →
      Step lib s (some call) (s'.answer lib call)
  | others (held : NamespacedName → Option FlowRun) (new : List FlowRun) :
      Step lib s none { s with held := held, created := s.created ++ new }

/-- The FlowRun is the one of the route and the body of the call. -/
def BuiltFrom (lib : HttpLib) (call : WebhookCall) (run : FlowRun) : Prop :=
  ∃ entry body, screen lib call.handler call.registry call.exchange = .ok (entry, body) ∧
    run = webhookFlowRun lib call.handler entry body call.exchange

section Steps

variable {lib : HttpLib} {s s' : Intake} {call : WebhookCall} {run : FlowRun}
  {reply : CreateReply}

theorem served_accepted (ha : (call.served lib).response.status = 202) :
    ∃ run, (call.served lib).flowRun = some run ∧ BuiltFrom lib call run ∧
      ∀ err, call.exchange.create run ≠ .failed err := by
  obtain ⟨entry, body, hscreen, hrun, hreply⟩ := serveHTTP_accepted ha
  exact ⟨_, hrun, ⟨entry, body, hscreen, rfl⟩, hreply⟩

theorem Create.of_free (h : Create s run reply s') (hfree : s.held run.metadata.name = none)
    (hreply : ∀ err, reply ≠ .failed err) : s' = s.store run := by
  cases h with
  | created => rfl
  | alreadyExists hheld => simp [hfree] at hheld
  | failed err | unanswered err => exact absurd rfl (hreply err)

theorem Create.matched (h : Create s run reply s')
    (hm : Matched (BuiltFrom lib) s.accepted s.created) :
    Matched (BuiltFrom lib) s'.accepted s'.created := by
  cases h with
  | created | unanswered => exact hm.more _
  | alreadyExists | failed => exact hm

theorem Create.elsewhere (h : Create s run reply s') {key : NamespacedName}
    (hne : key ≠ run.metadata.name) : s'.held key = s.held key := by
  cases h with
  | created | unanswered => exact update_of_ne hne _ _
  | alreadyExists | failed => rfl

@[simp] theorem answer_held : (s.answer lib call).held = s.held := by
  unfold answer
  split <;> rfl

theorem matched_refused (hnone : (call.served lib).flowRun = none)
    (hm : Matched (BuiltFrom lib) s.accepted s.created) :
    Matched (BuiltFrom lib) (s.answer lib call).accepted (s.answer lib call).created := by
  by_cases ha : (call.served lib).response.status = 202
  · obtain ⟨run, hrun, -, -⟩ := served_accepted ha
    rw [hnone] at hrun
    cases hrun
  · simpa only [answer, if_neg ha] using hm

theorem Create.matched_answer (hcreate : Create s run (call.exchange.create run) s')
    (hrun : (call.served lib).flowRun = some run) (hfree : s.held run.metadata.name = none)
    (hm : Matched (BuiltFrom lib) s.accepted s.created) :
    Matched (BuiltFrom lib) (s'.answer lib call).accepted (s'.answer lib call).created := by
  by_cases ha : (call.served lib).response.status = 202
  · obtain ⟨run', hrun', hbuilt, hreply⟩ := served_accepted ha
    cases hrun.symm.trans hrun'
    rw [hcreate.of_free hfree hreply, answer, if_pos ha]
    exact hm.both hbuilt
  · simpa only [answer, if_neg ha] using hcreate.matched hm

end Steps

/-! ## Requests that draw apart -/

def draws (acts : List (Option WebhookCall)) : List Draw :=
  acts.filterMap fun act => act.bind WebhookCall.draw

/-- Others put no FlowRun where the requests look for theirs. -/
def Sparing (drawn : List Draw) (s : Intake) (act : Option WebhookCall) (s' : Intake) : Prop :=
  act = none → ∀ d ∈ drawn, (s'.held d.key).isSome → (s.held d.key).isSome

/-- The FlowRuns under the names of draws are those of the draws made so far. -/
structure Sorted (lib : HttpLib) (drawn made : List Draw) (s : Intake) : Prop where
  matched : Matched (BuiltFrom lib) s.accepted s.created
  held : ∀ d ∈ drawn, (s.held d.key).isSome → d ∈ made

section Sorted

variable {lib : HttpLib} {drawn made : List Draw} {s s' : Intake}

theorem Sorted.call (h : Sorted lib drawn made s) {call : WebhookCall}
    (hstep : Step lib s (some call) s') (htyped : ∀ d ∈ drawn, d.Typed)
    (hdrawn : ∀ d ∈ call.draw, d ∈ drawn) (hfresh : ∀ d ∈ call.draw, d ∉ made) :
    Sorted lib drawn (made ++ call.draw.toList) s' := by
  cases hstep with
  | refused hnone =>
    refine ⟨matched_refused hnone h.matched, ?_⟩
    intro d hd hheld
    rw [answer_held] at hheld
    exact List.mem_append_left _ (h.held d hd hheld)
  | @created _ run s' hrun hcreate =>
    obtain ⟨d, hdraw, hkey⟩ := WebhookCall.draw_of_served hrun
    have hfree : s.held run.metadata.name = none := by
      rw [← hkey, Option.eq_none_iff_forall_ne_some]
      intro run' htaken
      exact hfresh d hdraw (h.held d (hdrawn d hdraw) (by rw [htaken]; rfl))
    refine ⟨hcreate.matched_answer hrun hfree h.matched, ?_⟩
    intro d' hd' hheld
    rw [answer_held] at hheld
    by_cases heq : d'.key = run.metadata.name
    · obtain rfl := Draw.key_inj (htyped d' hd') (htyped d (hdrawn d hdraw)) (heq.trans hkey.symm)
      exact List.mem_append_right _ (Option.mem_toList.mpr hdraw)
    · rw [hcreate.elsewhere heq] at hheld
      exact List.mem_append_left _ (h.held d' hd' hheld)

theorem Sorted.others (h : Sorted lib drawn made s) (hstep : Step lib s none s')
    (hsparing : Sparing drawn s none s') : Sorted lib drawn made s' := by
  cases hstep with
  | others held new =>
    exact ⟨h.matched.more new, fun d hd hheld => h.held d hd (hsparing rfl d hd hheld)⟩

theorem Sorted.run {s₀ : Intake} (h : Sorted lib drawn [] s₀) {acts : List (Option WebhookCall)}
    (hrun : Run (fun s act s' => Step lib s act s' ∧ Sparing drawn s act s') s₀ acts s)
    (htyped : ∀ d ∈ drawn, d.Typed) (hsub : ∀ d ∈ draws acts, d ∈ drawn)
    (hnodup : (draws acts).Nodup) : Sorted lib drawn (draws acts) s := by
  induction hrun with
  | nil => exact h
  | @snoc acts act s s' _ hstep ih =>
    have hdraws : draws (acts ++ [act]) = draws acts ++ (act.bind WebhookCall.draw).toList := by
      rw [draws, List.filterMap_append]
      cases hdraw : act.bind WebhookCall.draw <;> simp [draws, hdraw]
    rw [hdraws] at hsub hnodup ⊢
    obtain ⟨hbefore, -, hapart⟩ := List.nodup_append.mp hnodup
    have hsorted := ih (fun d hd => hsub d (List.mem_append_left _ hd)) hbefore
    cases act with
    | none =>
      rw [Option.bind_none, Option.toList_none, List.append_nil]
      exact hsorted.others hstep.1 hstep.2
    | some call =>
      refine hsorted.call hstep.1 htyped ?_ ?_
      · exact fun d hd => hsub d (List.mem_append_right _ (Option.mem_toList.mpr hd))
      · exact fun d hd hmem => hapart d hmem d (Option.mem_toList.mpr hd) rfl

end Sorted

/-- Where no two requests draw the same Trigger, second and digits, and nobody else has a FlowRun
that is named after such a draw, each request answered with 202 has a FlowRun of its own, built
from that request. -/
theorem accepted_requests_have_runs {lib : HttpLib} {held : NamespacedName → Option FlowRun}
    {acts : List (Option WebhookCall)} {s : Intake} (htyped : ∀ d ∈ draws acts, d.Typed)
    (hdraws : (draws acts).Nodup) (hfree : ∀ d ∈ draws acts, held d.key = none)
    (hrun : Run (fun s act s' => Step lib s act s' ∧ Sparing (draws acts) s act s') (start held)
      acts s) :
    ∃ f : Fin s.accepted.length → Fin s.created.length, Injective f ∧
      ∀ i, BuiltFrom lib (s.accepted.get i) (s.created.get (f i)) := by
  have hstart : Sorted lib (draws acts) [] (start held) := by
    refine ⟨⟨[], List.Sublist.refl [], .nil⟩, fun d hd hheld => ?_⟩
    exact absurd (hfree d hd) (Option.isSome_iff_ne_none.mp hheld)
  exact (hstart.run hrun htyped (fun _ hd => hd) hdraws).matched.injection

def githubEntry : RouteEntry where
  triggerName := "github"
  triggerNamespace := "team"
  flowRef := "build"
  flowNamespace := "team"
  allowedMethod := .post

def githubRoute : RouteRegistry := RouteRegistry.new.register "/hooks/github" githubEntry

def push (content : Bytes) (random : Option Bytes) (reply : CreateReply) : WebhookCall where
  handler := {}
  registry := githubRoute
  cooldown := .new
  exchange :=
    { plainPost "/hooks/github" 0 with
      request := { (plainPost "/hooks/github" 0).request with body := .ok content }
      namedAt := 1700000000
      random := randomHex 8 random
      create := fun _ => reply }

def pushRun (content : Bytes) (random : Option Bytes) : FlowRun :=
  webhookFlowRun plainHttp {} githubEntry content (push content random .created).exchange

theorem push_served {content : Bytes} (hsize : content.length ≤ maxBody) (random : Option Bytes)
    (reply : CreateReply) :
    ((push content random reply).served plainHttp).flowRun = some (pushRun content random) := by
  have htake : content.take (maxBody + 1) = content := List.take_of_length_le (by omega)
  have hscreen : screen plainHttp {} githubRoute (push content random reply).exchange =
      .ok (githubEntry, content) := by
    have hroute : githubRoute.lookup "/hooks/github" = some githubEntry := by
      simp [githubRoute, RouteRegistry.lookup]
    simp only [screen, push, plainPost, hroute, htake]
    rw [if_neg (by decide), if_neg (by simpa using hsize)]
    rfl
  simp only [WebhookCall.served, serveHTTP, push] at hscreen ⊢
  rw [hscreen]
  exact fire_flowRun

def pushed (s : Intake) (content : Bytes) (random : Option Bytes) : Intake :=
  (s.store (pushRun content random)).answer plainHttp (push content random .created)

theorem push_step {s : Intake} {content : Bytes} {random : Option Bytes}
    (hsize : content.length ≤ maxBody)
    (hfree : s.held (pushRun content random).metadata.name = none) :
    Step plainHttp s (some (push content random .created)) (s.pushed content random) :=
  .created (push_served hsize random .created) (.created hfree)

/-- Two pushes of one second whose random digits differ. -/
def pushes : List (Option WebhookCall) :=
  [some (push [1] (some [0x5f, 0x3a, 0x9c, 0x01]) .created),
    some (push [2] (some [0xb0, 0x11, 0x42, 0x7e]) .created)]

theorem push_draw (content : Bytes) (random : Option Bytes) (reply : CreateReply) :
    (push content random reply).draw =
      some ⟨⟨"team", "github"⟩, 1700000000, randomHex 8 random⟩ := by
  simp [WebhookCall.draw, push, plainPost, githubRoute, githubEntry, RouteRegistry.lookup]

theorem pushes_draws : draws pushes =
    [⟨⟨"team", "github"⟩, 1700000000, randomHex 8 (some [0x5f, 0x3a, 0x9c, 0x01])⟩,
      ⟨⟨"team", "github"⟩, 1700000000, randomHex 8 (some [0xb0, 0x11, 0x42, 0x7e])⟩] := by
  simp [draws, pushes, push_draw]

theorem accepted_requests_have_runs_pushes :
    ∃ s, Run (fun s act s' => Step plainHttp s act s' ∧ Sparing (draws pushes) s act s')
        (start fun _ => none) pushes s ∧
      s.accepted.length = 2 ∧
      ∃ f : Fin s.accepted.length → Fin s.created.length, Injective f ∧
        ∀ i, BuiltFrom plainHttp (s.accepted.get i) (s.created.get (f i)) := by
  have hrun : Run (fun s act s' => Step plainHttp s act s' ∧ Sparing (draws pushes) s act s')
      (start fun _ => none) pushes
      (((start fun _ => none).pushed [1] (some [0x5f, 0x3a, 0x9c, 0x01])).pushed [2]
        (some [0xb0, 0x11, 0x42, 0x7e])) := by
    refine .snoc (.snoc .nil ⟨push_step (by decide) rfl, nofun⟩) ⟨push_step (by decide) ?_, nofun⟩
    decide +kernel
  have htyped : ∀ d ∈ draws pushes, d.Typed := by
    rw [pushes_draws]
    simp only [List.forall_mem_cons, List.not_mem_nil, false_imp_iff, implies_true, and_true]
    exact ⟨⟨by decide, some [0x5f, 0x3a, 0x9c, 0x01], rfl⟩,
      ⟨by decide, some [0xb0, 0x11, 0x42, 0x7e], rfl⟩⟩
  have hdraws : (draws pushes).Nodup := by
    have hdigits : randomHex 8 (some [0x5f, 0x3a, 0x9c, 0x01]) ≠
        randomHex 8 (some [0xb0, 0x11, 0x42, 0x7e]) := by decide
    simp [pushes_draws, hdigits]
  exact ⟨_, hrun, by decide +kernel,
    accepted_requests_have_runs htyped hdraws (fun _ _ => rfl) hrun⟩

/-- Two pushes of one second for which the random source fails: both are accepted, and the
second has no FlowRun. -/
theorem second_push_lost :
    ∃ s, Run (Step plainHttp) (start fun _ => none)
        [some (push [1] none .created), some (push [2] none .alreadyExists)] s ∧
      ¬ ∃ f : Fin s.accepted.length → Fin s.created.length, Injective f ∧
        ∀ i, BuiltFrom plainHttp (s.accepted.get i) (s.created.get (f i)) := by
  have htaken : (((start fun _ => none).pushed [1] none).held
      (pushRun [2] none).metadata.name).isSome := by decide +kernel
  refine ⟨_, .snoc (.snoc .nil (push_step (by decide) rfl))
    (.created (push_served (by decide) none .alreadyExists) (.alreadyExists htaken)), ?_⟩
  rintro ⟨f, hf, -⟩
  have hle := Fintype.card_le_of_injective f hf
  rw [Fintype.card_fin, Fintype.card_fin] at hle
  exact absurd hle (by decide +kernel)

end Intake

end KubeZap
