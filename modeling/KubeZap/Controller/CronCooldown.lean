import KubeZap.Controller.CronScheduler
import KubeZap.Foundation.Epochs
import KubeZap.Foundation.Protocol
import KubeZap.Foundation.Run
import Mathlib.Algebra.Order.Group.Int
import Mathlib.Data.List.Nodup

/-! # Overlapping fires of one cron Trigger

The count of the current cooldown window is kept in the Trigger's status. A fire reads
it, and writes what it makes of it with a merge patch; other fires may do the same in
between. Here any number of fires interleave at their calls, any of which may fail,
with or without having had its effect.
-/

namespace KubeZap

open Foundation

/-! ## What a fire makes of a status -/

inductive CooldownVerdict
  | limited
  | joins
  | opens
deriving DecidableEq

def cooldownVerdict (policy : CooldownPolicy) (now : Time) (status : TriggerStatus) :
    CooldownVerdict :=
  match status.lastTriggeredTime with
  | none => .opens
  | some windowStart =>
    if now < windowStart + policy.windowDuration then
      if policy.maxInvocations ≤ status.currentInvocationCount then .limited else .joins
    else .opens

def CooldownVerdict.wanted (now : Time) (status : TriggerStatus) :
    CooldownVerdict → TriggerStatus
  | .limited => { status with lastResult := "RateLimited" }
  | .joins =>
    { status with currentInvocationCount := wrapInt32 (status.currentInvocationCount + 1) }
  | .opens => { status with currentInvocationCount := 1, lastTriggeredTime := some now }

/-! ## The stages of a fire -/

/-- How far a fire is: it has read a status, or its admission was confirmed, or it
reported that it was limited, or created its FlowRun. -/
inductive FireStage
  | started
  | read (status : TriggerStatus)
  | admitted
  | limited
  | ran
  | over
deriving DecidableEq

def FireStage.next (policy : CooldownPolicy) (now : Time) (σ : FireStage) :
    (q : CronReq) → q.Reply → FireStage
  | .getTrigger _, .ok trigger => .read trigger.status
  | .getTrigger _, .error _ => .over
  | .patchStatus .., reply =>
    match σ with
    | .read status =>
      match cooldownVerdict policy now status, reply with
      | .limited, _ => .limited
      | _, .ok _ => .admitted
      | _, .error _ => .over
    | _ => .over
  | .create _, .created => .ran
  | .create _, _ => .over

theorem next_of_patch {policy : CooldownPolicy} {now : Time} {status : TriggerStatus}
    (h : cooldownVerdict policy now status ≠ .limited) (name : NamespacedName) (patch : StatusPatch)
    (reply : Except String Trigger) :
    (FireStage.read status).next policy now (.patchStatus name patch) reply =
      reply.casesOn (fun _ => .over) fun _ => .admitted := by
  cases hverdict : cooldownVerdict policy now status with
  | limited => exact absurd hverdict h
  | joins | opens => cases reply <;> simp [FireStage.next, hverdict]

section Fire

variable (policy : CooldownPolicy) (name : NamespacedName) (flowRef : String) (now : Time)

inductive FireCall : FireStage → CronReq → Prop
  | get : FireCall .started (.getTrigger name)
  | count (status : TriggerStatus) :
      FireCall (.read status) (.patchStatus name
        (mergeFrom status ((cooldownVerdict policy now status).wanted now status)))
  | create : FireCall .admitted (.create (cronFlowRun name flowRef now))
  -- The window was stored before, so the last patch leaves it alone.
  | report (patch : StatusPatch) :
      patch.lastTriggeredTime = none → patch.currentInvocationCount = none →
      FireCall .ran (.patchStatus name patch)

def firing : Protocol FireStage CronReq.Reply :=
  fun σ q x σ' => FireCall policy name flowRef now σ q ∧ σ' = σ.next policy now q x

/-- Every object that is read has the cooldown policy, and a patch is answered with an
object that has the time it wrote. -/
def CronReq.Credible : (q : CronReq) → q.Reply → Prop
  | .getTrigger _, .ok trigger => trigger.spec.cooldown = some policy
  | .patchStatus _ patch, .ok trigger =>
    ∀ time, patch.lastTriggeredTime = some time → trigger.status.lastTriggeredTime = time
  | _, _ => True

variable {policy name flowRef now}

theorem checkCooldown_follows {trigger : Trigger} (hpolicy : trigger.spec.cooldown = some policy)
    (hpos : 0 < policy.maxInvocations) :
    Follows (firing policy name flowRef now) (CronReq.Credible policy)
      (fun σ result => ∀ status, result = some status →
        σ = .admitted ∧ status.lastTriggeredTime.map wholeSeconds = some (wholeSeconds now))
      (.read trigger.status) (checkCooldown name now trigger) := by
  have hcall : FireCall policy name flowRef now (.read trigger.status) _ := .count trigger.status
  cases hstart : trigger.status.lastTriggeredTime with
  | none =>
    have hopens : cooldownVerdict policy now trigger.status = .opens := by
      simp [cooldownVerdict, hstart]
    rw [hopens] at hcall
    simp only [checkCooldown, hpolicy, if_neg (not_le.mpr hpos), hstart, Program.request_bind]
    intro reply hcredible
    refine ⟨_, ⟨hcall, rfl⟩, ?_⟩
    cases reply with
    | error err => rintro status ⟨⟩
    | ok stored =>
      rintro status ⟨⟩
      have htime := hcredible (some (wholeSeconds now)) (by simp [mergeFrom, hstart])
      exact ⟨by simp [FireStage.next, hopens], by simp [htime]⟩
  | some windowStart =>
    by_cases hin : now < windowStart + policy.windowDuration
    · by_cases hfull : policy.maxInvocations ≤ trigger.status.currentInvocationCount
      · have hlimited : cooldownVerdict policy now trigger.status = .limited := by
          simp [cooldownVerdict, hstart, hin, hfull]
        rw [hlimited] at hcall
        simp only [checkCooldown, hpolicy, if_neg (not_le.mpr hpos), hstart, if_pos hin,
          if_pos hfull, Program.request_bind]
        refine fun reply _ => ⟨_, ⟨hcall, rfl⟩, ?_⟩
        rintro status ⟨⟩
      · have hjoins : cooldownVerdict policy now trigger.status = .joins := by
          simp [cooldownVerdict, hstart, hin, hfull]
        rw [hjoins] at hcall
        simp only [checkCooldown, hpolicy, if_neg (not_le.mpr hpos), hstart, if_pos hin,
          if_neg hfull, Program.request_bind]
        refine fun reply _ => ⟨_, ⟨hcall, rfl⟩, ?_⟩
        cases reply with
        | error err => rintro status ⟨⟩
        | ok stored =>
          rintro status ⟨⟩
          exact ⟨by simp [FireStage.next, hjoins], rfl⟩
    · have hopens : cooldownVerdict policy now trigger.status = .opens := by
        simp [cooldownVerdict, hstart, hin]
      rw [hopens] at hcall
      simp only [checkCooldown, hpolicy, if_neg (not_le.mpr hpos), hstart, if_neg hin,
        Program.request_bind]
      refine fun reply _ => ⟨_, ⟨hcall, rfl⟩, ?_⟩
      cases reply with
      | error err => rintro status ⟨⟩
      | ok stored =>
        rintro status ⟨⟩
        exact ⟨by simp [FireStage.next, hopens], rfl⟩

theorem cronFire_follows (hpos : 0 < policy.maxInvocations) :
    Follows (firing policy name flowRef now) (CronReq.Credible policy) (fun _ _ => True) .started
      (cronFire name flowRef now) := by
  simp only [cronFire, Program.request_bind]
  intro reply hcredible
  refine ⟨_, ⟨.get, rfl⟩, ?_⟩
  cases reply with
  | error err => trivial
  | ok trigger =>
    refine Follows.bind (checkCooldown_follows hcredible hpos) ?_
    intro σ result hresult
    cases result with
    | none => trivial
    | some status =>
      obtain ⟨rfl, htime⟩ := hresult status rfl
      refine fun outcome _ => ⟨_, ⟨.create, rfl⟩, ?_⟩
      cases outcome with
      | alreadyExists | failed => trivial
      | created =>
        refine fun _ _ => ⟨_, ⟨.report _ ?_ ?_, rfl⟩, trivial⟩
        · simp [mergeFrom, htime]
        · simp [mergeFrom]

end Fire

/-! ## Fires that overlap -/

/-- The Trigger as it is stored, and the FlowRuns in the order they were created. -/
structure CronStore where
  trigger : Trigger
  created : List FlowRun

/-- What becomes of a call: it is carried out and answered, or carried out with its
answer lost, or it fails. -/
inductive CallOutcome
  | answered
  | lost (err : String)
  | failed (err : String)

def CallOutcome.stored : CallOutcome → Bool
  | .answered | .lost _ => true
  | .failed _ => false

def CronStore.carriedOut (s : CronStore) : CronReq → CronStore
  | .getTrigger _ => s
  | .patchStatus name patch =>
    if s.trigger.key = name then
      { s with trigger := { s.trigger with status := s.trigger.status.patched patch } }
    else s
  | .create flowRun =>
    if flowRun.metadata.name ∈ s.created.map (·.metadata.name) then s
    else { s with created := s.created ++ [flowRun] }

def CronStore.answer (s : CronStore) : (q : CronReq) → q.Reply
  | .getTrigger name => if s.trigger.key = name then .ok s.trigger else .error (.notFound "not found")
  | .patchStatus name patch =>
    if s.trigger.key = name then
      .ok { s.trigger with status := s.trigger.status.patched patch }
    else .error "not found"
  | .create flowRun =>
    if flowRun.metadata.name ∈ s.created.map (·.metadata.name) then .alreadyExists else .created

def CronReq.failure (err : String) : (q : CronReq) → q.Reply
  | .getTrigger _ => .error (.other err)
  | .patchStatus .. => .error err
  | .create _ => .failed err

def CronStore.serve (s : CronStore) (q : CronReq) : CallOutcome → q.Reply × CronStore
  | .answered => (s.answer q, s.carriedOut q)
  | .lost err => (q.failure err, s.carriedOut q)
  | .failed err => (q.failure err, s)

/-- A fire that has begun, with the windows there were when it read the Trigger. -/
structure Firing where
  now : Time
  stage : FireStage
  seen : List (Epoch Time)
  rest : CronProgram Unit

/-- The store, the fires, and the cooldown windows so far with the times of the fires
whose admission was stored in them, the open one first. -/
structure CronRace where
  store : CronStore
  epochs : List (Epoch Time)
  fires : List Firing

def CronRace.start (trigger : Trigger) : CronRace := ⟨⟨trigger, []⟩, [], []⟩

inductive CronMove
  | fire (now : Time)
  | call (index : Nat) (outcome : CallOutcome)

def CooldownVerdict.enter (now : Time) (epochs : List (Epoch Time)) :
    CooldownVerdict → List (Epoch Time)
  | .limited => epochs
  | .joins => joinEpoch now epochs
  | .opens => openEpoch wholeSeconds now epochs

def noteEpochs (policy : CooldownPolicy) (f : Firing) (stored : Bool)
    (epochs : List (Epoch Time)) : List (Epoch Time) :=
  match f.stage, stored with
  | .read status, true => (cooldownVerdict policy f.now status).enter f.now epochs
  | _, _ => epochs

/-- The fire once its call was answered; where it reads the Trigger, it sees `epochs`. -/
def Firing.after (policy : CooldownPolicy) (epochs : List (Epoch Time)) (f : Firing) (q : CronReq)
    (x : q.Reply) (rest : CronProgram Unit) : Firing where
  now := f.now
  stage := f.stage.next policy f.now q x
  seen := if f.stage = .started then epochs else f.seen
  rest := rest

def CronRace.exec (policy : CooldownPolicy) (s : CronRace) : CronMove → Option CronRace
  | .fire now =>
    let trigger := s.store.trigger
    some { s with
      fires := s.fires ++ [⟨now, .started, [], cronFire trigger.key trigger.spec.flowRef now⟩] }
  | .call index outcome =>
    match s.fires[index]? with
    | some f =>
      match f.rest with
      | .pure _ => none
      | .call q k =>
        let served := s.store.serve q outcome
        some
          { store := served.2
            epochs := noteEpochs policy f outcome.stored s.epochs
            fires := s.fires.set index (f.after policy s.epochs q served.1 (k served.1)) }
    | none => none

/-- When an admission is stored, no other one was stored since the fire read the
Trigger, and its time is neither before the open window nor in an earlier one. -/
def CronRace.InOrder (policy : CooldownPolicy) (s : CronRace) : CronMove → Prop
  | .fire _ => True
  | .call index outcome => ∀ f status, s.fires[index]? = some f → f.stage = .read status →
      outcome.stored = true → cooldownVerdict policy f.now status ≠ .limited →
      f.seen = s.epochs ∧ Timely policy.windowDuration f.now s.epochs

/-! ## The status and the windows -/

/-- The status has the beginning of the open window and its number of fires. -/
def TriggerStatus.Shows (status : TriggerStatus) : List (Epoch Time) → Prop
  | [] => status.lastTriggeredTime = none ∧ status.currentInvocationCount = 0
  | e :: _ =>
    status.lastTriggeredTime = some e.start ∧ status.currentInvocationCount = e.admitted.length

theorem TriggerStatus.Shows.patched {status : TriggerStatus} {epochs : List (Epoch Time)}
    {patch : StatusPatch} (h : status.Shows epochs) (htime : patch.lastTriggeredTime = none)
    (hcount : patch.currentInvocationCount = none) : (status.patched patch).Shows epochs := by
  cases epochs with
  | nil | cons => simpa [TriggerStatus.Shows, TriggerStatus.patched, htime, hcount] using h

theorem patched_mergeFrom {stored base wanted : TriggerStatus}
    (htime : stored.lastTriggeredTime = base.lastTriggeredTime)
    (hwhole : base.lastTriggeredTime.map wholeSeconds = base.lastTriggeredTime)
    (hcount : stored.currentInvocationCount = base.currentInvocationCount) :
    (stored.patched (mergeFrom base wanted)).lastTriggeredTime =
        wanted.lastTriggeredTime.map wholeSeconds ∧
      (stored.patched (mergeFrom base wanted)).currentInvocationCount =
        wanted.currentInvocationCount := by
  constructor
  · simp only [TriggerStatus.patched, mergeFrom]
    split
    next hsame => rw [Option.getD_none, htime, hsame, hwhole]
    · rfl
  · simp only [TriggerStatus.patched, mergeFrom]
    split
    next hsame => rw [Option.getD_none, hcount, hsame]
    · rfl

section Windows

variable {policy : CooldownPolicy} {m : Nat} {now : Time} {status stored : TriggerStatus}
variable {epochs : List (Epoch Time)}

theorem cooldownVerdict_eq {e : Epoch Time} (hm : policy.maxInvocations = m)
    (hshows : status.Shows (e :: epochs)) :
    cooldownVerdict policy now status =
      if now < e.start + policy.windowDuration then
        if m ≤ e.admitted.length then .limited else .joins
      else .opens := by
  obtain ⟨hstart, hcount⟩ := hshows
  simp only [cooldownVerdict, hstart, hcount, hm, Int.ofNat_le]

theorem limited_full (hm : policy.maxInvocations = m) (hshows : status.Shows epochs)
    (hverdict : cooldownVerdict policy now status = .limited) :
    ∃ e ∈ epochs.head?, now < e.start + policy.windowDuration ∧ m ≤ e.admitted.length := by
  cases epochs with
  | nil => simp [cooldownVerdict, hshows.1] at hverdict
  | cons e epochs =>
    rw [cooldownVerdict_eq hm hshows] at hverdict
    refine ⟨e, rfl, ?_⟩
    split_ifs at hverdict with hin hfull
    exact ⟨hin, hfull⟩

theorem admission_entered (hm : policy.maxInvocations = m) (hpos : 0 < m) (hmax : m ≤ 2147483647)
    (hledger : Ledger wholeSeconds policy.windowDuration m epochs)
    (hread : status.Shows epochs) (hstored : stored.Shows epochs)
    (htimely : Timely policy.windowDuration now epochs)
    (hverdict : cooldownVerdict policy now status ≠ .limited) :
    let verdict := cooldownVerdict policy now status
    Ledger wholeSeconds policy.windowDuration m (verdict.enter now epochs) ∧
      AdmittedIn (verdict.enter now epochs) now ∧
      (stored.patched (mergeFrom status (verdict.wanted now status))).Shows
        (verdict.enter now epochs) := by
  cases epochs with
  | nil =>
    have hopens : cooldownVerdict policy now status = .opens := by
      simp [cooldownVerdict, hread.1]
    simp only [hopens, CooldownVerdict.enter]
    refine ⟨?_, admittedIn_openEpoch_self .., ?_⟩
    · exact hledger.opened (fun _ _ => wholeSeconds_le_wholeSeconds) wholeSeconds_wholeSeconds hpos
        htimely (by simp)
    · exact @patched_mergeFrom stored status (CooldownVerdict.opens.wanted now status)
        (hstored.1.trans hread.1.symm) (by simp [hread.1]) (hstored.2.trans hread.2.symm)
  | cons e epochs =>
    have hwhole : wholeSeconds e.start = e.start :=
      hledger.round_start wholeSeconds_wholeSeconds (by simp)
    have hpatched := fun wanted => @patched_mergeFrom stored status wanted
      (hstored.1.trans hread.1.symm) (by simp [hread.1, hwhole]) (hstored.2.trans hread.2.symm)
    rw [cooldownVerdict_eq hm hread] at hverdict ⊢
    split_ifs at hverdict ⊢ with hin hfull
    · exact absurd rfl hverdict
    · refine ⟨hledger.joined htimely hin (not_le.mp hfull),
        ⟨_, List.mem_cons_self, List.mem_cons_self⟩, ?_⟩
      obtain ⟨htime, hcount⟩ := hpatched (CooldownVerdict.joins.wanted now status)
      refine ⟨?_, ?_⟩
      · rw [htime]
        simp [CooldownVerdict.wanted, hread.1, hwhole]
      · rw [hcount]
        have hroom : e.admitted.length + 1 ≤ 2147483647 := by omega
        have hwrap := wrapInt32_of_le hroom
        simpa [CooldownVerdict.wanted, hread.2] using hwrap
    · refine ⟨?_, admittedIn_openEpoch_self .., ?_⟩
      · refine hledger.opened (fun _ _ => wholeSeconds_le_wholeSeconds) wholeSeconds_wholeSeconds
          hpos htimely ?_
        rintro e' ⟨⟩
        exact not_lt.mp hin
      · exact hpatched (CooldownVerdict.opens.wanted now status)

end Windows

/-! ## One step -/

section Steps

variable {policy : CooldownPolicy} {m : Nat} {trigger : Trigger} {s : CronRace} {f : Firing}

def Firing.Holds (policy : CooldownPolicy) (m : Nat) (epochs : List (Epoch Time)) (f : Firing) :
    Prop :=
  match f.stage with
  | .read status => status.Shows f.seen
  | .admitted => AdmittedIn epochs f.now
  | .limited => ∃ e ∈ f.seen.head?,
      f.now < e.start + policy.windowDuration ∧ m ≤ e.admitted.length
  | .started | .ran | .over => True

variable {epochs : List (Epoch Time)}

theorem Firing.Holds.grow {epochs' : List (Epoch Time)} (h : f.Holds policy m epochs)
    (hgrow : ∀ t, AdmittedIn epochs t → AdmittedIn epochs' t) : f.Holds policy m epochs' := by
  unfold Firing.Holds at h ⊢
  split
  next hstage => simpa only [hstage] using h
  next hstage =>
    rw [hstage] at h
    exact hgrow _ h
  next hstage => simpa only [hstage] using h
  all_goals trivial

theorem noteEpochs_grow (f : Firing) (stored : Bool) (epochs : List (Epoch Time)) (t : Time)
    (h : AdmittedIn epochs t) : AdmittedIn (noteEpochs policy f stored epochs) t := by
  unfold noteEpochs
  split
  · cases cooldownVerdict policy f.now _ with
    | limited => exact h
    | joins => exact h.joinEpoch f.now
    | opens => exact h.openEpoch wholeSeconds f.now
  · exact h

/-- The store shows the windows, in which the fires were entered in order; every
FlowRun is one of an admitted fire, and no two have the same name. -/
structure CronStore.Sound (policy : CooldownPolicy) (m : Nat) (trigger : Trigger)
    (epochs : List (Epoch Time)) (store : CronStore) : Prop where
  key : store.trigger.key = trigger.key
  spec : store.trigger.spec = trigger.spec
  status : store.trigger.status.Shows epochs
  ledger : Ledger wholeSeconds policy.windowDuration m epochs
  created : ∀ flowRun ∈ store.created, ∃ t, AdmittedIn epochs t ∧
    flowRun = cronFlowRun trigger.key trigger.spec.flowRef t
  names : (store.created.map (·.metadata.name)).Nodup

theorem CronStore.serve_store (store : CronStore) (q : CronReq) (outcome : CallOutcome) :
    (store.serve q outcome).2 = if outcome.stored = true then store.carriedOut q else store := by
  cases outcome <;> rfl

variable {store : CronStore}

theorem serve_credible (h : store.trigger.spec.cooldown = some policy) (q : CronReq)
    (outcome : CallOutcome) : CronReq.Credible policy q (store.serve q outcome).1 := by
  cases outcome with
  | lost err | failed err => cases q <;> trivial
  | answered =>
    cases q with
    | getTrigger name =>
      simp only [CronStore.serve, CronStore.answer]
      split
      · exact h
      · trivial
    | patchStatus name patch =>
      simp only [CronStore.serve, CronStore.answer]
      split
      · intro time htime
        simp [TriggerStatus.patched, htime]
      · trivial
    | create flowRun =>
      simp only [CronStore.serve, CronStore.answer]
      split <;> trivial

theorem CronStore.Sound.patched {patch : StatusPatch} (h : store.Sound policy m trigger epochs)
    (htime : patch.lastTriggeredTime = none) (hcount : patch.currentInvocationCount = none) :
    (store.carriedOut (.patchStatus trigger.key patch)).Sound policy m trigger epochs := by
  simp only [CronStore.carriedOut, if_pos h.key]
  exact ⟨h.key, h.spec, h.status.patched htime hcount, h.ledger, h.created, h.names⟩

theorem CronStore.Sound.admission {now : Time} {status : TriggerStatus}
    (hm : policy.maxInvocations = m) (hpos : 0 < m) (hmax : m ≤ 2147483647)
    (h : store.Sound policy m trigger epochs) (hread : status.Shows epochs)
    (htimely : Timely policy.windowDuration now epochs)
    (hverdict : cooldownVerdict policy now status ≠ .limited) :
    let verdict := cooldownVerdict policy now status
    (store.carriedOut (.patchStatus trigger.key
        (mergeFrom status (verdict.wanted now status)))).Sound policy m trigger
        (verdict.enter now epochs) ∧ AdmittedIn (verdict.enter now epochs) now := by
  obtain ⟨hledger, hadmitted, hshows⟩ :=
    admission_entered hm hpos hmax h.ledger hread h.status htimely hverdict
  simp only [CronStore.carriedOut, if_pos h.key]
  refine ⟨⟨h.key, h.spec, hshows, hledger, ?_, h.names⟩, hadmitted⟩
  intro flowRun hmem
  obtain ⟨t, ht, heq⟩ := h.created flowRun hmem
  refine ⟨t, ?_, heq⟩
  cases cooldownVerdict policy now status with
  | limited => exact ht
  | joins => exact ht.joinEpoch now
  | opens => exact ht.openEpoch wholeSeconds now

theorem CronStore.Sound.create {now : Time} (h : store.Sound policy m trigger epochs)
    (hadmitted : AdmittedIn epochs now) :
    (store.carriedOut (.create (cronFlowRun trigger.key trigger.spec.flowRef now))).Sound
      policy m trigger epochs := by
  simp only [CronStore.carriedOut]
  split
  · exact h
  next hnew =>
    refine ⟨h.key, h.spec, h.status, h.ledger, ?_, ?_⟩
    · intro flowRun hmem
      rcases List.mem_append.mp hmem with hmem | hmem
      · exact h.created flowRun hmem
      · exact ⟨now, hadmitted, List.mem_singleton.mp hmem⟩
    · rw [List.map_append]
      exact List.Nodup.append h.names (List.nodup_singleton _) (by simpa using hnew)

theorem CronStore.Sound.called {q : CronReq} {outcome : CallOutcome}
    (hm : policy.maxInvocations = m) (hpos : 0 < m) (hmax : m ≤ 2147483647)
    (h : store.Sound policy m trigger epochs)
    (hcall : FireCall policy trigger.key trigger.spec.flowRef f.now f.stage q)
    (hholds : f.Holds policy m epochs)
    (hord : ∀ status, f.stage = .read status → outcome.stored = true →
      cooldownVerdict policy f.now status ≠ .limited →
      f.seen = epochs ∧ Timely policy.windowDuration f.now epochs) (rest : CronProgram Unit) :
    (store.serve q outcome).2.Sound policy m trigger (noteEpochs policy f outcome.stored epochs) ∧
      (f.after policy epochs q (store.serve q outcome).1 rest).Holds policy m
        (noteEpochs policy f outcome.stored epochs) := by
  obtain ⟨now, stage, seen, _⟩ := f
  simp only at hcall hord
  rw [CronStore.serve_store]
  cases hcall with
  | get =>
    refine ⟨by cases outcome <;> exact h, ?_⟩
    cases outcome with
    | answered =>
      have hread : store.answer (.getTrigger trigger.key) = .ok store.trigger := if_pos h.key
      simp only [CronStore.serve, hread]
      exact h.status
    | lost err | failed err => trivial
  | count status =>
    have hshows : status.Shows seen := hholds
    by_cases hverdict : cooldownVerdict policy now status = .limited
    · have hsame : noteEpochs policy ⟨now, .read status, seen, ‹_›⟩ outcome.stored epochs =
          epochs := by
        cases outcome <;> simp [noteEpochs, CallOutcome.stored, hverdict, CooldownVerdict.enter]
      rw [hsame, hverdict]
      refine ⟨?_, ?_⟩
      · split
        · refine h.patched ?_ ?_ <;> simp [mergeFrom, CooldownVerdict.wanted]
        · exact h
      · have hfull := limited_full hm hshows hverdict
        simpa [Firing.Holds, Firing.after, FireStage.next, hverdict] using hfull
    · cases outcome with
      | failed err =>
        refine ⟨h, ?_⟩
        simp [Firing.Holds, Firing.after, CronStore.serve, CronReq.failure,
          next_of_patch hverdict]
      | lost err =>
        obtain ⟨rfl, htimely⟩ := hord status rfl rfl hverdict
        refine ⟨(h.admission hm hpos hmax hshows htimely hverdict).1, ?_⟩
        simp [Firing.Holds, Firing.after, CronStore.serve, CronReq.failure,
          next_of_patch hverdict]
      | answered =>
        obtain ⟨rfl, htimely⟩ := hord status rfl rfl hverdict
        obtain ⟨hsound, hadmitted⟩ := h.admission hm hpos hmax hshows htimely hverdict
        refine ⟨hsound, ?_⟩
        simp only [Firing.Holds, Firing.after, CronStore.serve, CronStore.answer, if_pos h.key,
          next_of_patch hverdict]
        exact hadmitted
  | create =>
    refine ⟨?_, ?_⟩
    · split
      · exact h.create hholds
      · exact h
    · cases (store.serve (.create (cronFlowRun trigger.key trigger.spec.flowRef now)) outcome).1
        <;> trivial
  | report patch htime hcount =>
    refine ⟨?_, trivial⟩
    split
    · exact h.patched htime hcount
    · exact h

structure CronRace.Inv (policy : CooldownPolicy) (m : Nat) (trigger : Trigger) (s : CronRace) :
    Prop where
  store : s.store.Sound policy m trigger s.epochs
  fires : ∀ f ∈ s.fires, f.Holds policy m s.epochs ∧
    Follows (firing policy trigger.key trigger.spec.flowRef f.now) (CronReq.Credible policy)
      (fun _ _ => True) f.stage f.rest

theorem CronRace.Inv.start (htime : trigger.status.lastTriggeredTime = none)
    (hcount : trigger.status.currentInvocationCount = 0) :
    (CronRace.start trigger).Inv policy m trigger where
  store :=
    { key := rfl
      spec := rfl
      status := ⟨htime, hcount⟩
      ledger := .nil ..
      created := by simp [CronRace.start]
      names := by simp [CronRace.start] }
  fires := by simp [CronRace.start]

theorem CronRace.Inv.step {s' : CronRace} {move : CronMove}
    (hpolicy : trigger.spec.cooldown = some policy) (hm : policy.maxInvocations = m)
    (hpos : 0 < m) (hmax : m ≤ 2147483647) (h : s.Inv policy m trigger)
    (hord : s.InOrder policy move) (hstep : s.exec policy move = some s') :
    s'.Inv policy m trigger := by
  cases move with
  | fire now =>
    cases hstep
    refine ⟨h.store, ?_⟩
    intro f hf
    rcases List.mem_append.mp hf with hf | hf
    · exact h.fires f hf
    · rw [List.mem_singleton.mp hf, h.store.key, h.store.spec]
      exact ⟨trivial, cronFire_follows (by omega)⟩
  | call index outcome =>
    simp only [CronRace.exec] at hstep
    cases hf : s.fires[index]? with
    | none => simp [hf] at hstep
    | some f =>
      cases hrest : f.rest with
      | pure => simp [hf, hrest] at hstep
      | call q k =>
        simp only [hf, hrest, Option.some.injEq] at hstep
        obtain ⟨hholds, hfollows⟩ := h.fires f (List.mem_of_getElem? hf)
        rw [hrest] at hfollows
        have hcooldown : s.store.trigger.spec.cooldown = some policy := by
          rw [h.store.spec, hpolicy]
        obtain ⟨_, ⟨hcall, rfl⟩, hnext⟩ := hfollows _ (serve_credible hcooldown q outcome)
        obtain ⟨hsound, hafter⟩ := h.store.called hm hpos hmax hcall hholds
          (fun status hstage => hord f status hf hstage)
          (k (s.store.serve q outcome).1)
        subst hstep
        refine ⟨hsound, ?_⟩
        intro f' hf'
        rcases List.mem_or_eq_of_mem_set hf' with hold | rfl
        · obtain ⟨hholds', hfollows'⟩ := h.fires f' hold
          exact ⟨hholds'.grow (noteEpochs_grow f outcome.stored s.epochs), hfollows'⟩
        · exact ⟨hafter, hnext⟩

end Steps

/-! ## Every interleaving -/

def FlowRun.firedAt (flowRun : FlowRun) : Time :=
  ((flowRun.spec.triggerData.bind (·.scheduledTime))).getD 0

theorem nodup_seconds {name : NamespacedName} {flowRef : String} {created : List FlowRun}
    (hcron : ∀ flowRun ∈ created, ∃ t, flowRun = cronFlowRun name flowRef t)
    (hnames : (created.map (·.metadata.name)).Nodup) :
    ((created.map FlowRun.firedAt).map wholeSeconds).Nodup := by
  refine List.Nodup.of_map (fun t => (cronFlowRun name flowRef t).metadata.name) ?_
  convert hnames using 1
  rw [List.map_map, List.map_map]
  refine List.map_congr_left ?_
  intro flowRun hmem
  obtain ⟨t, rfl⟩ := hcron flowRun hmem
  have hunix : unixSeconds (wholeSeconds t) = unixSeconds t := by
    rw [unixSeconds, wholeSeconds_eq, Int.mul_ediv_cancel_left _ (by decide), unixSeconds]
  simp [cronFlowRun, triggeredFlowRun, FlowRun.firedAt, hunix]

/-- In every interleaving of the calls of any number of fires, in which admissions are
stored in order, each cooldown window has FlowRuns of at most `maxInvocations` fires of
its time, and a fire is limited only by a window that was open and full when it read
the Trigger. -/
theorem cron_cooldown_limits {trigger : Trigger} {policy : CooldownPolicy}
    (hpolicy : trigger.spec.cooldown = some policy) (hpos : 0 < policy.maxInvocations)
    (hmax : policy.maxInvocations ≤ 2147483647) (htime : trigger.status.lastTriggeredTime = none)
    (hcount : trigger.status.currentInvocationCount = 0) {moves : List CronMove} {s : CronRace}
    (hrun : Run (fun s move s' => s.InOrder policy move ∧ s.exec policy move = some s')
      (.start trigger) moves s) :
    (∀ e ∈ s.epochs,
      ((s.store.created.filter fun flowRun =>
        e.Covers policy.windowDuration flowRun.firedAt).length : Int) ≤ policy.maxInvocations) ∧
    ∀ f ∈ s.fires, f.stage = .limited → ∃ e ∈ f.seen.head?,
      f.now < e.start + policy.windowDuration ∧ policy.maxInvocations ≤ e.admitted.length := by
  obtain ⟨m, hm⟩ := Int.eq_ofNat_of_zero_le hpos.le
  have hinv : s.Inv policy m trigger := by
    refine hrun.always (CronRace.Inv policy m trigger) (.start htime hcount) ?_
    rintro s move s' h ⟨hord, hstep⟩
    exact h.step hpolicy hm (by omega) (by omega) hord hstep
  refine ⟨?_, ?_⟩
  · intro e he
    have hadmitted : ∀ t ∈ s.store.created.map FlowRun.firedAt, AdmittedIn s.epochs t := by
      intro t ht
      obtain ⟨flowRun, hmem, rfl⟩ := List.mem_map.mp ht
      obtain ⟨t, hin, rfl⟩ := hinv.store.created flowRun hmem
      exact hin
    have hnodup := nodup_seconds (fun flowRun hmem =>
      (hinv.store.created flowRun hmem).imp fun _ h => h.2) hinv.store.names
    have hbound := hinv.store.ledger.count_le (fun _ _ => wholeSeconds_le_wholeSeconds)
      wholeSeconds_wholeSeconds he hnodup hadmitted
    rw [List.filter_map, List.length_map] at hbound
    rw [hm]
    exact Int.ofNat_le.mpr hbound
  · intro f hf hstage
    have hholds := (hinv.fires f hf).1
    rw [Firing.Holds, hstage] at hholds
    obtain ⟨e, he, hin, hfull⟩ := hholds
    exact ⟨e, he, hin, by omega⟩

def reportTrigger : Trigger where
  metadata := { name := ⟨"team", "report"⟩ }
  spec :=
    { type := .cron
      cron := some { schedule := "@every 1s" }
      flowRef := "report"
      cooldown := some { maxInvocations := 1 } }

def fireTwice : List CronMove :=
  [.fire (100 * second), .call 0 .answered, .call 0 .answered, .call 0 .answered,
    .call 0 .answered, .fire (101 * second), .call 1 .answered, .call 1 .answered]

/-- The second fire is limited by the window of the first. -/
theorem second_fire_limited : ∃ s : CronRace, Run
      (fun (s : CronRace) move s' => s.InOrder { maxInvocations := 1 } move ∧
        s.exec { maxInvocations := 1 } move = some s') (.start reportTrigger) fireTwice s ∧
    s.fires.map (·.stage) = [.over, .limited] ∧
    (∀ e ∈ s.epochs, ((s.store.created.filter fun flowRun =>
      e.Covers (60 * second) flowRun.firedAt).length : Int) ≤ 1) ∧
    ∀ f ∈ s.fires, f.stage = .limited → ∃ e ∈ f.seen.head?,
      f.now < e.start + 60 * second ∧ (1 : Int) ≤ e.admitted.length := by
  have hrun : ∃ s : CronRace, Run (fun (s : CronRace) move s' =>
      s.InOrder { maxInvocations := 1 } move ∧ s.exec { maxInvocations := 1 } move = some s')
      (.start reportTrigger) fireTwice s ∧ s.fires.map (·.stage) = [.over, .limited] := by
    refine ⟨_, .snoc (.snoc (.snoc (.snoc (.snoc (.snoc (.snoc (.snoc .nil
      ⟨trivial, rfl⟩) ⟨?_, rfl⟩) ⟨?_, rfl⟩) ⟨?_, rfl⟩) ⟨?_, rfl⟩) ⟨trivial, rfl⟩) ⟨?_, rfl⟩)
      ⟨?_, rfl⟩, rfl⟩
    all_goals
      intro f status hf hstage hstored hverdict
      cases hf
      cases hstage
    · exact absurd rfl hverdict
    · exact ⟨rfl, trivial⟩
  obtain ⟨s, hrun, hstages⟩ := hrun
  exact ⟨s, hrun, hstages, cron_cooldown_limits rfl (by decide) (by decide) rfl rfl hrun⟩

/-- Two fires that both read the Trigger before either has counted. -/
def fireOverlapping : List CronMove :=
  [.fire (100 * second), .fire (101 * second), .call 0 .answered, .call 1 .answered,
    .call 0 .answered, .call 1 .answered, .call 0 .answered, .call 1 .answered]

/-- Both are admitted, each in a window of its own, and both have their FlowRun. -/
theorem overlapping_fires_both_run : ∃ s : CronRace, Run
      (fun (s : CronRace) move s' => s.exec { maxInvocations := 1 } move = some s') (.start reportTrigger)
      fireOverlapping s ∧
    ∃ e ∈ s.epochs, e.start = 100 * second ∧
      (s.store.created.filter fun flowRun =>
        e.Covers (60 * second) flowRun.firedAt).length = 2 := by
  have hrun : ∃ s, fireOverlapping.foldlM (CronRace.exec { maxInvocations := 1 })
      (.start reportTrigger) = some s := ⟨_, rfl⟩
  obtain ⟨s, hs⟩ := hrun
  refine ⟨s, Run.foldlM (fun _ h => h) hs, ?_⟩
  cases hs
  exact ⟨⟨100 * second, [100 * second]⟩, by decide, rfl, by decide⟩

end KubeZap
