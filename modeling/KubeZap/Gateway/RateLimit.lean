import KubeZap.Foundation.SlidingWindow
import KubeZap.Gateway.Handler
import Mathlib.Algebra.Order.Group.Int
import Mathlib.Data.List.Induction

/-! # Rate limit of a webhook route

The limiter is keyed by the path of the request as it was sent, the route by the
normalised path. Each spelling of a path therefore has a window of its own; what
holds for the route follows where requests less than a window apart are spelled
alike.
-/

namespace KubeZap

open Foundation Function

/-! ## The calls of one gateway process -/

/-- The cooldown table, with all calls of `ServeHTTP` so far. Calls overlap, but each
makes one check under the tracker's lock; they are listed in the order of the checks. -/
structure Gate where
  cooldown : CooldownTracker
  log : List (Exchange × Served)

def Gate.serve (lib : HttpLib) (h : WebhookHandler) (g : Gate) (q : RouteRegistry × Exchange) :
    Gate :=
  let served := serveHTTP lib h q.1 g.cooldown q.2
  ⟨served.cooldown, g.log ++ [(q.2, served)]⟩

def serveAll (lib : HttpLib) (h : WebhookHandler) (qs : List (RouteRegistry × Exchange)) : Gate :=
  qs.foldl (Gate.serve lib h) ⟨.new, []⟩

theorem serveAll_snoc (lib : HttpLib) (h : WebhookHandler) (qs : List (RouteRegistry × Exchange))
    (q : RouteRegistry × Exchange) :
    serveAll lib h (qs ++ [q]) = (serveAll lib h qs).serve lib h q := by
  simp [serveAll]

/-- The call passed the cooldown check: it went on to create its FlowRun. -/
def passed (e : Exchange × Served) : Bool := e.2.flowRun.isSome

/-- The calls with this very path that passed, by the time of their check. -/
def admittedAt (path : String) (log : List (Exchange × Served)) : List Time :=
  (log.filter fun e => e.1.request.path == path && passed e).map (·.1.checkedAt)

def passes (route : String) (near : Time → Bool) (log : List (Exchange × Served)) : Nat :=
  log.countP fun e => normalizePath e.1.request.path == route && passed e && near e.1.checkedAt

theorem countP_admittedAt (path : String) (near : Time → Bool) (log : List (Exchange × Served)) :
    (admittedAt path log).countP near =
      log.countP fun e => e.1.request.path == path && passed e && near e.1.checkedAt := by
  rw [admittedAt, List.countP_map, List.countP_filter]
  congr 1
  funext e
  simp [Bool.and_comm]

/-! ## One spelling -/

/-- The limiter of one spelling has done its duty up to `since`. -/
structure Limited (m : Nat) (w : Duration) (path : String) (since : Time) (g : Gate) : Prop where
  tracks : Tracks w since (g.cooldown.invocations path) (admittedAt path g.log)
  bounded : Bounded m w (admittedAt path g.log)
  short : (g.cooldown.invocations path).length ≤ m

theorem Limited.new (m : Nat) (w : Duration) (path : String) (since : Time) :
    Limited m w path since ⟨.new, []⟩ where
  tracks := .nil w since
  bounded := .nil m w
  short := Nat.zero_le m

theorem allow_eq {ct : CooldownTracker} {path : String} {m : Nat} {w : Duration} {now : Time}
    (hm : 0 < m) (hmax : m ≤ 2147483647) (hshort : (ct.invocations path).length ≤ m) :
    ct.allow path m w now =
      if m ≤ (prune w now (ct.invocations path)).length then
        (false, ⟨update ct.invocations path (prune w now (ct.invocations path))⟩)
      else
        (true, ⟨update ct.invocations path
          (prune w now (ct.invocations path) ++ [now])⟩) := by
  have hlen : (prune w now (ct.invocations path)).length ≤ m :=
    (List.length_filter_le ..).trans hshort
  have hpos : ¬ (m : Int) ≤ 0 := by omega
  unfold CooldownTracker.allow
  rw [if_neg hpos]
  change (if wrapInt32 (prune w now (ct.invocations path)).length ≥ (m : Int) then _ else _) = _
  rw [wrapInt32_of_le (hlen.trans hmax)]
  by_cases hfull : m ≤ (prune w now (ct.invocations path)).length
  · rw [if_pos hfull, if_pos (by exact_mod_cast hfull)]
    rfl
  · rw [if_neg hfull, if_neg (by exact_mod_cast hfull)]
    rfl

def HasLimit (m : Nat) (w : Duration) (q : RouteRegistry × Exchange) : Prop :=
  ∀ entry, q.1.lookup q.2.request.path = some entry →
    entry.maxInvocations = m ∧ entry.cooldownWindow = w

section Check

variable {lib : HttpLib} {h : WebhookHandler} {registry : RouteRegistry} {x : Exchange} {g : Gate}
variable {m : Nat} {w : Duration} {since : Time}

theorem serve_cases (lib : HttpLib) (h : WebhookHandler)
    (hg : Limited m w x.request.path since g) (hle : since ≤ x.checkedAt)
    (hm : 0 < m) (hmax : m ≤ 2147483647) (hlimit : HasLimit m w (registry, x)) :
    ((serveHTTP lib h registry g.cooldown x).cooldown = g.cooldown ∧
      (serveHTTP lib h registry g.cooldown x).flowRun = none ∧
      (serveHTTP lib h registry g.cooldown x).response.status ≠ 429) ∨
    (m ≤ (prune w x.checkedAt (admittedAt x.request.path g.log)).length ∧
      (serveHTTP lib h registry g.cooldown x).cooldown.invocations x.request.path =
        prune w x.checkedAt (g.cooldown.invocations x.request.path) ∧
      (serveHTTP lib h registry g.cooldown x).flowRun = none) ∨
    ((prune w x.checkedAt (admittedAt x.request.path g.log)).length < m ∧
      (serveHTTP lib h registry g.cooldown x).cooldown.invocations x.request.path =
        prune w x.checkedAt (g.cooldown.invocations x.request.path) ++ [x.checkedAt] ∧
      (serveHTTP lib h registry g.cooldown x).flowRun.isSome = true ∧
      (serveHTTP lib h registry g.cooldown x).response.status ≠ 429) := by
  cases hs : screen lib h registry x with
  | error response =>
    left
    simp only [serveHTTP, hs]
    exact ⟨trivial, trivial, (screen_error hs).2⟩
  | ok found =>
    obtain ⟨entry, body⟩ := found
    right
    obtain ⟨hmaxInv, hwindow⟩ := hlimit entry (screen_ok hs)
    have hpos : 0 < entry.maxInvocations := by omega
    rw [serveHTTP_limited hs hpos, hmaxInv, hwindow, allow_eq hm hmax hg.short,
      ← hg.tracks x.checkedAt hle]
    by_cases hfull : m ≤ (prune w x.checkedAt (g.cooldown.invocations x.request.path)).length
    · left
      rw [if_pos hfull]
      exact ⟨hfull, by simp, by simp⟩
    · right
      rw [if_neg hfull]
      exact ⟨Nat.lt_of_not_le hfull, by simp, by simp, by simpa using fire_status⟩

theorem admittedAt_snoc (path : String) (log : List (Exchange × Served)) (e : Exchange × Served) :
    admittedAt path (log ++ [e]) = admittedAt path log ++
      if e.1.request.path = path ∧ e.2.flowRun.isSome = true then [e.1.checkedAt] else [] := by
  by_cases he : e.1.request.path = path ∧ e.2.flowRun.isSome = true
  · simp [admittedAt, passed, List.filter_append, he]
  · rw [if_neg he, List.append_nil]
    simp only [admittedAt, passed, List.filter_append]
    simp_all

theorem Limited.untouched {path : String} {now : Time} {ct : CooldownTracker}
    {log : List (Exchange × Served)} (hg : Limited m w path since g) (hle : since ≤ now)
    (hct : ct.invocations path = g.cooldown.invocations path)
    (hlog : admittedAt path log = admittedAt path g.log) : Limited m w path now ⟨ct, log⟩ := by
  refine ⟨?_, ?_, ?_⟩
  · rw [hct, hlog]
    exact hg.tracks.later hle
  · rw [hlog]
    exact hg.bounded
  · rw [hct]
    exact hg.short

theorem Limited.serve {path : String} (hg : Limited m w path since g) (hle : since ≤ x.checkedAt)
    (hm : 0 < m) (hmax : m ≤ 2147483647)
    (hlimit : x.request.path = path → HasLimit m w (registry, x)) :
    Limited m w path x.checkedAt (g.serve lib h (registry, x)) := by
  by_cases hp : x.request.path = path
  · subst hp
    rcases serve_cases lib h hg hle hm hmax (hlimit rfl) with
      ⟨hct, hnone, -⟩ | ⟨-, hct, hnone⟩ | ⟨hfew, hct, hsome, -⟩
    · exact hg.untouched hle (by rw [hct]) (by simp [admittedAt_snoc, hnone])
    · have hlog : admittedAt x.request.path (g.serve lib h (registry, x)).log =
          admittedAt x.request.path g.log := by simp [Gate.serve, admittedAt_snoc, hnone]
      refine ⟨?_, ?_, ?_⟩
      · rw [hlog, Gate.serve, hct]
        exact hg.tracks.check hle
      · rw [hlog]
        exact hg.bounded
      · rw [Gate.serve, hct]
        exact (List.length_filter_le ..).trans hg.short
    · have hlog : admittedAt x.request.path (g.serve lib h (registry, x)).log =
          admittedAt x.request.path g.log ++ [x.checkedAt] := by
        simp [Gate.serve, admittedAt_snoc, hsome]
      refine ⟨?_, ?_, ?_⟩
      · rw [hlog, Gate.serve, hct]
        exact hg.tracks.admits hle
      · rw [hlog]
        exact hg.bounded.admits hfew
      · rw [Gate.serve, hct, hg.tracks x.checkedAt hle, List.length_append]
        exact hfew
  · exact hg.untouched hle (serveHTTP_cooldown_of_ne (Ne.symm hp)) (by simp [admittedAt_snoc, hp])

end Check

/-! ## Every sequence of calls -/

section Runs

variable {lib : HttpLib} {h : WebhookHandler} {qs : List (RouteRegistry × Exchange)}
variable {m : Nat} {w : Duration}

def Monotone (qs : List (RouteRegistry × Exchange)) : Prop :=
  qs.Pairwise fun q q' => q.2.checkedAt ≤ q'.2.checkedAt

theorem limited_run {path : String} {since : Time} (hmono : Monotone qs)
    (hsince : ∀ q ∈ qs, q.2.checkedAt ≤ since) (hm : 0 < m) (hmax : m ≤ 2147483647)
    (hlimit : ∀ q ∈ qs, q.2.request.path = path → HasLimit m w q) :
    Limited m w path since (serveAll lib h qs) := by
  induction qs using List.reverseRecOn generalizing since with
  | nil => exact .new m w path since
  | append_singleton qs q ih =>
    obtain ⟨registry, x⟩ := q
    obtain ⟨hearlier, -, hlast⟩ := List.pairwise_append.mp hmono
    have hbefore : Limited m w path x.checkedAt (serveAll lib h qs) :=
      ih hearlier (fun q hq => hlast q hq (registry, x) (by simp))
        fun q hq => hlimit q (by simp [hq])
    have hafter : Limited m w path x.checkedAt ((serveAll lib h qs).serve lib h (registry, x)) :=
      hbefore.serve le_rfl hm hmax (hlimit (registry, x) (by simp))
    rw [serveAll_snoc]
    exact hafter.untouched (hsince (registry, x) (by simp)) rfl rfl

theorem serveAll_log (lib : HttpLib) (h : WebhookHandler) (qs : List (RouteRegistry × Exchange)) :
    (serveAll lib h qs).log.map Prod.fst = qs.map Prod.snd := by
  induction qs using List.reverseRecOn with
  | nil => rfl
  | append_singleton qs q ih => simp [serveAll_snoc, Gate.serve, ih]

theorem serveAll_split {before after : List (Exchange × Served)} {e : Exchange × Served}
    (hlog : (serveAll lib h qs).log = before ++ e :: after) :
    ∃ qs₁ q qs₂, qs = qs₁ ++ q :: qs₂ ∧ (serveAll lib h qs₁).log = before ∧
      e = (q.2, serveHTTP lib h q.1 (serveAll lib h qs₁).cooldown q.2) := by
  induction qs using List.reverseRecOn generalizing after with
  | nil => simp [serveAll] at hlog
  | append_singleton qs q ih =>
    rw [serveAll_snoc, Gate.serve] at hlog
    rcases List.eq_nil_or_concat after with rfl | ⟨after, last, rfl⟩
    · obtain ⟨hbefore, he⟩ := List.append_inj' hlog rfl
      exact ⟨qs, q, [], rfl, hbefore, (List.singleton_inj.mp he).symm⟩
    · rw [List.concat_eq_append, ← List.cons_append, ← List.append_assoc] at hlog
      obtain ⟨hfront, -⟩ := List.append_inj' hlog rfl
      obtain ⟨qs₁, q', qs₂, rfl, hbefore, he⟩ := ih hfront
      exact ⟨qs₁, q', qs₂ ++ [q], by simp, hbefore, he⟩

/-- Calls of the route that are checked less than `w` apart give its path alike. -/
def SpelledAlike (route : String) (w : Duration) (qs : List (RouteRegistry × Exchange)) : Prop :=
  ∀ q ∈ qs, ∀ q' ∈ qs, normalizePath q.2.request.path = route →
    normalizePath q'.2.request.path = route → q.2.checkedAt - w < q'.2.checkedAt →
    q'.2.checkedAt - w < q.2.checkedAt → q.2.request.path = q'.2.request.path

theorem exists_since (qs : List (RouteRegistry × Exchange)) :
    ∃ since, ∀ q ∈ qs, q.2.checkedAt ≤ since := by
  induction qs with
  | nil => exact ⟨0, by simp⟩
  | cons q qs ih =>
    obtain ⟨since, hsince⟩ := ih
    refine ⟨max q.2.checkedAt since, List.forall_mem_cons.mpr ⟨le_max_left .., ?_⟩⟩
    exact fun q' hq' => (hsince q' hq').trans (le_max_right ..)

theorem mem_calls {e : Exchange × Served} (he : e ∈ (serveAll lib h qs).log) :
    ∃ q ∈ qs, q.2 = e.1 := by
  have hmem : e.1 ∈ qs.map Prod.snd := by
    rw [← serveAll_log lib h]
    exact List.mem_map_of_mem he
  simpa using hmem

theorem passes_le {route : String} {near : Time → Bool}
    (hnear : ∀ s t, near s = true → near t = true → t - w < s) (hspell : SpelledAlike route w qs)
    (hbound : ∀ path, normalizePath path = route →
      Bounded m w (admittedAt path (serveAll lib h qs).log)) :
    passes route near (serveAll lib h qs).log ≤ m := by
  by_cases hany : ∃ e ∈ (serveAll lib h qs).log, normalizePath e.1.request.path = route ∧
      passed e = true ∧ near e.1.checkedAt = true
  · obtain ⟨e, he, hroute, -, hnow⟩ := hany
    -- All that count are spelled as the first one found, so its own window counts them.
    have hle : passes route near (serveAll lib h qs).log ≤
        (admittedAt e.1.request.path (serveAll lib h qs).log).countP near := by
      rw [countP_admittedAt, passes]
      refine List.countP_mono_left ?_
      intro e' he' hcounts
      simp only [Bool.and_eq_true, beq_iff_eq] at hcounts ⊢
      obtain ⟨⟨hroute', hpassed⟩, hnow'⟩ := hcounts
      obtain ⟨q, hq, hqe⟩ := mem_calls he
      obtain ⟨q', hq', hqe'⟩ := mem_calls he'
      refine ⟨⟨?_, hpassed⟩, hnow'⟩
      rw [← hqe, ← hqe']
      rw [← hqe] at hroute hnow
      rw [← hqe'] at hroute' hnow'
      exact hspell q' hq' q hq hroute' hroute (hnear _ _ hnow hnow') (hnear _ _ hnow' hnow)
    exact hle.trans (hbound _ hroute near hnear)
  · have hzero : passes route near (serveAll lib h qs).log = 0 := by
      rw [passes, List.countP_eq_zero]
      intro e he hcounts
      simp only [Bool.and_eq_true, beq_iff_eq] at hcounts
      exact hany ⟨e, he, hcounts.1.1, hcounts.1.2, hcounts.2⟩
    omega

/-- A route of limit `m` and window `w`: where its requests are spelled alike, at most
`m` of them pass in any half-open interval of length `w`; and a request of it is
answered 429 only if `m` passed within the preceding `w`. -/
theorem route_rate_limited {route : String} (hm : 0 < m) (hmax : m ≤ 2147483647)
    (hmono : Monotone qs)
    (hlimit : ∀ q ∈ qs, normalizePath q.2.request.path = route → HasLimit m w q) :
    (SpelledAlike route w qs → ∀ a,
      passes route (fun t => decide (a ≤ t ∧ t < a + w)) (serveAll lib h qs).log ≤ m ∧
      passes route (fun t => decide (a < t ∧ t ≤ a + w)) (serveAll lib h qs).log ≤ m) ∧
    (∀ before x served after, (serveAll lib h qs).log = before ++ (x, served) :: after →
      normalizePath x.request.path = route → served.response.status = 429 →
      m ≤ passes route (fun t => decide (x.checkedAt - w < t ∧ t ≤ x.checkedAt)) before) := by
  constructor
  · intro hspell a
    obtain ⟨since, hsince⟩ := exists_since qs
    have hbound : ∀ path, normalizePath path = route →
        Bounded m w (admittedAt path (serveAll lib h qs).log) := by
      intro path hpath
      refine (limited_run hmono hsince hm hmax ?_).bounded
      intro q hq hq'
      exact hlimit q hq (by rw [hq', hpath])
    refine ⟨passes_le ?_ hspell hbound, passes_le ?_ hspell hbound⟩
    · intro s t hs ht
      simp only [decide_eq_true_eq] at hs ht
      exact sub_lt_iff_lt_add.mpr (ht.2.trans_le (Int.add_le_add_right hs.1 w))
    · intro s t hs ht
      simp only [decide_eq_true_eq] at hs ht
      exact sub_lt_iff_lt_add.mpr (ht.2.trans_lt (Int.add_lt_add_right hs.1 w))
  · intro before x served after hlog hroute h429
    obtain ⟨qs₁, ⟨registry, x'⟩, qs₂, rfl, rfl, he⟩ := serveAll_split hlog
    obtain ⟨rfl, rfl⟩ := Prod.mk.inj he
    obtain ⟨hearlier, -, hlast⟩ := List.pairwise_append.mp hmono
    have hsince : ∀ q ∈ qs₁, q.2.checkedAt ≤ x.checkedAt :=
      fun q hq => hlast q hq (registry, x) (by simp)
    have hlim : Limited m w x.request.path x.checkedAt (serveAll lib h qs₁) := by
      refine limited_run hearlier hsince hm hmax ?_
      intro q hq hq'
      exact hlimit q (by simp [hq]) (by rw [hq', hroute])
    rcases serve_cases lib h hlim le_rfl hm hmax (hlimit (registry, x) (by simp) hroute) with
      ⟨-, -, hno⟩ | ⟨hfull, -, -⟩ | ⟨-, -, -, hno⟩
    · exact absurd h429 hno
    · refine hfull.trans ?_
      rw [prune, ← List.countP_eq_length_filter, countP_admittedAt, passes]
      refine List.countP_mono_left ?_
      intro e he hcounts
      obtain ⟨q, hq, hqe⟩ := mem_calls he
      have hle := hsince q hq
      rw [hqe] at hle
      simp only [Bool.and_eq_true, beq_iff_eq, decide_eq_true_eq] at hcounts ⊢
      exact ⟨⟨by rw [hcounts.1.1, hroute], hcounts.1.2⟩, hcounts.2, hle⟩
    · exact absurd h429 hno

end Runs

/-! ## One route -/

def onceAMinute : RouteRegistry :=
  RouteRegistry.new.register "/hooks/github"
    { triggerName := "github", triggerNamespace := "team", flowRef := "build",
      flowNamespace := "team", allowedMethod := .post, maxInvocations := 1,
      cooldownWindow := minute }

theorem onceAMinute_limit (x : Exchange) : HasLimit 1 minute (onceAMinute, x) := by
  intro entry hentry
  simp only [onceAMinute, RouteRegistry.lookup, RouteRegistry.routes_register, update_apply] at hentry
  split at hentry
  · cases hentry
    exact ⟨rfl, rfl⟩
  · cases hentry

/-- A second request of the same minute is refused. -/
theorem second_request_refused :
    passes "/hooks/github" (fun t => decide (0 ≤ t ∧ t < 0 + minute))
      (serveAll plainHttp {} [(onceAMinute, plainPost "/hooks/github" 0),
        (onceAMinute, plainPost "/hooks/github" second)]).log ≤ 1 := by
  have hlimited := @route_rate_limited plainHttp {} [(onceAMinute, plainPost "/hooks/github" 0),
      (onceAMinute, plainPost "/hooks/github" second)] 1 minute "/hooks/github"
    (by decide) (by decide) (by simp [Monotone, plainPost, second])
    (by simp [onceAMinute_limit])
  refine (hlimited.1 ?_ 0).1
  simp [SpelledAlike, plainPost]

/-- A blank at the end of the path, which the route ignores, opens a second window. -/
theorem second_spelling_admitted :
    Monotone [(onceAMinute, plainPost "/hooks/github" 0),
      (onceAMinute, plainPost "/hooks/github " second)] ∧
    (∀ x, HasLimit 1 minute (onceAMinute, x)) ∧
    normalizePath "/hooks/github " = "/hooks/github" ∧
    passes "/hooks/github" (fun t => decide (0 ≤ t ∧ t < 0 + minute))
      (serveAll plainHttp {} [(onceAMinute, plainPost "/hooks/github" 0),
        (onceAMinute, plainPost "/hooks/github " second)]).log = 2 := by
  refine ⟨by simp [Monotone, plainPost, second], onceAMinute_limit, by decide, ?_⟩
  decide +kernel

end KubeZap
