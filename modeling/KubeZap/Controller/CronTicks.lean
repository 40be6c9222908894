import KubeZap.Controller.CronScheduler
import KubeZap.Foundation.Run
import Mathlib

/-! # FlowRuns of the ticks of a schedule

The job of a cron Trigger may run more than once for a tick of its schedule, in one
controller process or in several. The documentation has the FlowRun named after the tick, so that
it is created once; the job names it after the time at which it runs.
-/

namespace KubeZap

open Foundation

/-! ## Executions for a tick -/

/-- The activation times of a schedule; the cron library has them at whole seconds. -/
structure TickSchedule where
  Tick : Time → Prop
  whole : ∀ t, Tick t → wholeSeconds t = t

/-- An execution for the tick starts from the tick on and before the next one. -/
def TickSchedule.Starts (schedule : TickSchedule) (tick now : Time) : Prop :=
  schedule.Tick tick ∧ tick ≤ now ∧ ∀ next, schedule.Tick next → tick < next → now < next

/-- The FlowRuns of a Trigger, each with the tick of the execution that created it. -/
abbrev TickRuns := List (Time × FlowRun)

/-- How a call of an execution for the tick may go. What is read of the Trigger, and what becomes of
a patch of its status, is open. -/
inductive TickServer (tick : Time) : TickRuns → (q : CronReq) → q.Reply → TickRuns → Prop
  | trigger {runs : TickRuns} {name : NamespacedName} (x : Except ReadError Trigger) :
      TickServer tick runs (.getTrigger name) x runs
  | patch {runs : TickRuns} {name : NamespacedName} {patch : StatusPatch}
      (x : Except String Trigger) : TickServer tick runs (.patchStatus name patch) x runs
  | created {runs : TickRuns} {flowRun : FlowRun} (x : CreateReply) (hx : x ≠ .alreadyExists)
      (hfree : flowRun.metadata.name ∉ runs.map (·.2.metadata.name)) :
      -- the answer may be lost
      TickServer tick runs (.create flowRun) x (runs ++ [(tick, flowRun)])
  | alreadyExists {runs : TickRuns} {flowRun : FlowRun}
      (htaken : flowRun.metadata.name ∈ runs.map (·.2.metadata.name)) :
      TickServer tick runs (.create flowRun) .alreadyExists runs
  | failed {runs : TickRuns} {flowRun : FlowRun} (err : String) :
      TickServer tick runs (.create flowRun) (.failed err) runs

/-- The FlowRuns, the executions with their ticks, and the ticks of those that were told that
their FlowRun exists already. -/
structure TickRace where
  runs : TickRuns := []
  fires : List (Time × CronProgram Unit) := []
  suppressed : List Time := []

inductive TickMove
  | fire (tick now : Time) (flowRef : String)
  | call (index : Nat)

def CronReq.suppressed : (q : CronReq) → q.Reply → Bool
  | .create _, .alreadyExists => true
  | _, _ => false

/-- The processes may have registered the Trigger with different Flows. -/
inductive TickRace.Step (schedule : TickSchedule) (name : NamespacedName) :
    TickRace → TickMove → TickRace → Prop
  | fire {s : TickRace} {tick now : Time} {flowRef : String} (h : schedule.Starts tick now) :
      Step schedule name s (.fire tick now flowRef)
        { s with fires := s.fires ++ [(tick, cronFire name flowRef now)] }
  | call {s : TickRace} {index : Nat} {tick : Time} {q : CronReq} {k : q.Reply → CronProgram Unit}
      {x : q.Reply} {runs : TickRuns} (hfire : s.fires[index]? = some (tick, .call q k))
      (hserved : TickServer tick s.runs q x runs) :
      Step schedule name s (.call index)
        { runs := runs
          fires := s.fires.set index (tick, k x)
          suppressed := if q.suppressed x then s.suppressed ++ [tick] else s.suppressed }

def TickMove.Prompt : TickMove → Prop
  | .fire tick now _ => now < tick + second
  | .call _ => True

instance (move : TickMove) : Decidable move.Prompt :=
  match move with
  | .fire tick now _ => inferInstanceAs (Decidable (now < tick + second))
  | .call _ => inferInstanceAs (Decidable True)

/-! ## What an execution creates -/

def FlowRun.OfTick (name : NamespacedName) (tick : Time) (flowRun : FlowRun) : Prop :=
  ∃ flowRef now, flowRun = cronFlowRun name flowRef now ∧ wholeSeconds now = tick

def CronReq.OfTick (name : NamespacedName) (tick : Time) (q : CronReq) : Prop :=
  ∀ flowRun, q = .create flowRun → flowRun.OfTick name tick

section Ticks

variable {schedule : TickSchedule} {name : NamespacedName} {tick now : Time}

theorem TickSchedule.Starts.wholeSeconds_eq (h : schedule.Starts tick now)
    (hprompt : now < tick + second) : wholeSeconds now = tick := by
  have hwhole := schedule.whole tick h.1
  have hle := h.2.1
  rw [KubeZap.wholeSeconds_eq] at hwhole ⊢
  have hdiv : ∀ t n : Int, 1000000000 * (t / 1000000000) = t → t ≤ n → n < t + 1000000000 →
      n / 1000000000 = t / 1000000000 := by
    omega
  rw [show now / second = tick / second from hdiv tick now hwhole hle hprompt, hwhole]

theorem checkCooldown_asks (trigger : Trigger) :
    (checkCooldown name now trigger).Asks (CronReq.OfTick name tick) := by
  have hpatch (patch : StatusPatch) : CronReq.OfTick name tick (.patchStatus name patch) :=
    fun _ h => by cases h
  unfold checkCooldown
  dsimp only
  split
  · trivial
  · split
    · trivial
    · split
      · split
        · split
          · exact .request (hpatch _) fun _ => trivial
          · exact .request (hpatch _) fun x => by cases x <;> trivial
        · exact .request (hpatch _) fun x => by cases x <;> trivial
      · exact .request (hpatch _) fun x => by cases x <;> trivial

theorem cronFire_asks (flowRef : String) (h : wholeSeconds now = tick) :
    (cronFire name flowRef now).Asks (CronReq.OfTick name tick) := by
  unfold cronFire
  refine .request (fun _ h => by cases h) fun x => ?_
  cases x with
  | error err => trivial
  | ok trigger =>
    refine (checkCooldown_asks trigger).bind fun o => ?_
    cases o with
    | none => trivial
    | some status =>
      refine .request ?_ fun x => ?_
      · rintro _ ⟨⟩
        exact ⟨flowRef, now, rfl, h⟩
      · cases x with
        | created => exact .request (fun _ h => by cases h) fun _ => trivial
        | alreadyExists | failed => trivial

theorem FlowRun.OfTick.name_eq {flowRun : FlowRun} (h : flowRun.OfTick name tick) :
    flowRun.metadata.name = (cronFlowRun name "" tick).metadata.name := by
  obtain ⟨flowRef, now, rfl, rfl⟩ := h
  have hunix : unixSeconds (wholeSeconds now) = unixSeconds now := by
    rw [unixSeconds, KubeZap.wholeSeconds_eq, Int.mul_ediv_cancel_left _ (by decide), unixSeconds]
  simp [cronFlowRun, triggeredFlowRun, hunix]

theorem FlowRun.OfTick.tick_eq {flowRun flowRun' : FlowRun} {tick' : Time}
    (h : flowRun.OfTick name tick) (h' : flowRun'.OfTick name tick')
    (heq : flowRun.metadata.name = flowRun'.metadata.name) : tick = tick' := by
  obtain ⟨flowRef, now, rfl, rfl⟩ := h
  obtain ⟨flowRef', now', rfl, rfl⟩ := h'
  have htext : toString (unixSeconds now) = toString (unixSeconds now') := by
    simpa [cronFlowRun, triggeredFlowRun] using heq
  have hunix : now / second = now' / second := Int.repr_injective htext
  rw [KubeZap.wholeSeconds_eq, KubeZap.wholeSeconds_eq, hunix]

/-! ## Every interleaving -/

structure TickRace.Inv (name : NamespacedName) (s : TickRace) : Prop where
  runs : ∀ e ∈ s.runs, e.2.OfTick name e.1
  names : (s.runs.map (·.2.metadata.name)).Nodup
  fires : ∀ f ∈ s.fires, f.2.Asks (CronReq.OfTick name f.1)
  suppressed : ∀ t ∈ s.suppressed, t ∈ s.runs.map Prod.fst

theorem TickServer.keeps {runs runs' : TickRuns} {q : CronReq} {x : q.Reply}
    (h : TickServer tick runs q x runs') (hq : q.OfTick name tick)
    (hruns : ∀ e ∈ runs, e.2.OfTick name e.1) (hnames : (runs.map (·.2.metadata.name)).Nodup) :
    runs <+: runs' ∧ (∀ e ∈ runs', e.2.OfTick name e.1) ∧
      (runs'.map (·.2.metadata.name)).Nodup ∧
      (q.suppressed x = true → tick ∈ runs'.map Prod.fst) := by
  cases h with
  | trigger | patch | failed => exact ⟨List.prefix_rfl, hruns, hnames, fun h => by cases h⟩
  | created x hx hfree =>
    refine ⟨List.prefix_append _ _, ?_, ?_, fun _ => by simp⟩
    · intro e he
      rcases List.mem_append.mp he with he | he
      · exact hruns e he
      · obtain rfl := List.mem_singleton.mp he
        exact hq _ rfl
    · rw [List.map_append]
      exact List.nodup_append_comm.mp (List.nodup_cons.mpr ⟨hfree, hnames⟩)
  | alreadyExists htaken =>
    refine ⟨List.prefix_rfl, hruns, hnames, fun _ => ?_⟩
    obtain ⟨e, he, heq⟩ := List.mem_map.mp htaken
    have htick := (hq _ rfl).tick_eq (hruns e he) heq.symm
    exact List.mem_map.mpr ⟨e, he, htick.symm⟩

theorem TickRace.Inv.step {s s' : TickRace} {move : TickMove} (h : s.Inv name)
    (hprompt : move.Prompt) (hstep : TickRace.Step schedule name s move s') : s'.Inv name := by
  cases hstep with
  | fire hstarts =>
    refine ⟨h.runs, h.names, fun f hf => ?_, h.suppressed⟩
    rcases List.mem_append.mp hf with hf | hf
    · exact h.fires f hf
    · obtain rfl := List.mem_singleton.mp hf
      exact cronFire_asks _ (hstarts.wholeSeconds_eq hprompt)
  | @call index tick q k x runs' hfire hserved =>
    have hasks := h.fires _ (List.mem_of_getElem? hfire)
    obtain ⟨hgrow, hruns, hnames, htold⟩ := hserved.keeps hasks.1 h.runs h.names
    refine ⟨hruns, hnames, fun f hf => ?_, fun t ht => ?_⟩
    · rcases List.mem_or_eq_of_mem_set hf with hf | rfl
      · exact h.fires f hf
      · exact hasks.2 _
    · have hold (ht : t ∈ s.suppressed) : t ∈ runs'.map Prod.fst :=
        (hgrow.map Prod.fst).subset (h.suppressed t ht)
      dsimp only at ht
      split at ht
      next htrue =>
        rcases List.mem_append.mp ht with ht | ht
        · exact hold ht
        · obtain rfl := List.mem_singleton.mp ht
          exact htold htrue
      next => exact hold ht

/-- Where every execution starts within a second of its tick, in every interleaving of any
number of them a tick has at most one FlowRun, with that tick as its scheduled time, and an
execution is suppressed only by a FlowRun of its own tick. -/
theorem one_flowRun_per_tick {moves : List TickMove} {s : TickRace}
    (hrun : Run (fun s (move : TickMove) s' => move.Prompt ∧ TickRace.Step schedule name s move s')
      {} moves s) :
    (s.runs.map Prod.fst).Nodup ∧
      (∀ e ∈ s.runs, (e.2.spec.triggerData.bind (·.scheduledTime)).map wholeSeconds = some e.1) ∧
      ∀ t ∈ s.suppressed, t ∈ s.runs.map Prod.fst := by
  have hinv : s.Inv name := by
    refine hrun.always (TickRace.Inv name) ⟨by simp, by simp, by simp, by simp⟩ ?_
    rintro s move s' h ⟨hprompt, hstep⟩
    exact h.step hprompt hstep
  refine ⟨?_, fun e he => ?_, hinv.suppressed⟩
  · refine List.Nodup.of_map (fun t => (cronFlowRun name "" t).metadata.name) ?_
    have hnames := hinv.names
    rw [List.map_congr_left fun e he => (hinv.runs e he).name_eq] at hnames
    rwa [List.map_map]
  · obtain ⟨flowRef, now, heq, htick⟩ := hinv.runs e he
    rw [heq]
    exact congrArg some htick

end Ticks

def everyMinute : TickSchedule where
  Tick t := t % minute = 0
  whole t h := by
    have harith : ∀ n : Int, n % 60000000000 = 0 → n - n % 1000000000 = n := by omega
    exact harith t h

theorem everyMinute_starts {now : Time} (hfrom : minute ≤ now) (hto : now < 2 * minute) :
    everyMinute.Starts minute now := by
  refine ⟨rfl, hfrom, fun next htick hlater => ?_⟩
  have harith : ∀ t n : Int, n % 60000000000 = 0 → 60000000000 < n → t < 120000000000 → t < n := by
    omega
  exact harith now next htick hlater hto

def minuteTrigger : Trigger where
  metadata := { name := ⟨"team", "report"⟩ }
  spec := { type := .cron, cron := some { schedule := "* * * * *" }, flowRef := "report" }

def twoFires (now : Time) : List TickMove :=
  [.fire minute minute "report", .call 0, .call 0, .fire minute now "report", .call 1, .call 1]

theorem second_execution_suppressed : ∃ s : TickRace,
    Run (fun s (move : TickMove) s' =>
      move.Prompt ∧ TickRace.Step everyMinute ⟨"team", "report"⟩ s move s') {}
      (twoFires (minute + 1)) s ∧
    s.suppressed = [minute] ∧ (s.runs.map Prod.fst).Nodup ∧
    (∀ e ∈ s.runs, (e.2.spec.triggerData.bind (·.scheduledTime)).map wholeSeconds = some e.1) ∧
    ∀ t ∈ s.suppressed, t ∈ s.runs.map Prod.fst := by
  have hrun : ∃ s : TickRace, Run (fun s (move : TickMove) s' =>
      move.Prompt ∧ TickRace.Step everyMinute ⟨"team", "report"⟩ s move s') {}
      (twoFires (minute + 1)) s ∧ s.suppressed = [minute] :=
    ⟨_, .snoc (.snoc (.snoc (.snoc (.snoc (.snoc .nil
      ⟨by decide, .fire (everyMinute_starts (by decide) (by decide))⟩)
      ⟨trivial, .call rfl (.trigger (.ok minuteTrigger))⟩)
      ⟨trivial, .call rfl (.created .created (by decide) (by decide))⟩)
      ⟨by decide, .fire (everyMinute_starts (by decide) (by decide))⟩)
      ⟨trivial, .call rfl (.trigger (.ok minuteTrigger))⟩)
      ⟨trivial, .call rfl (.alreadyExists (by decide))⟩, rfl⟩
  obtain ⟨s, hrun, hsuppressed⟩ := hrun
  exact ⟨s, hrun, hsuppressed, one_flowRun_per_tick hrun⟩

/-- An execution that starts two seconds after the first one, as that of a process that
takes over, creates a second FlowRun for the tick, with another scheduled time. -/
theorem two_flowRuns_for_a_tick : ∃ s : TickRace,
    Run (TickRace.Step everyMinute ⟨"team", "report"⟩) {} (twoFires (minute + 2 * second)) s ∧
    s.runs.map (fun e => (e.1, e.2.metadata.name.name)) =
      [(minute, "report-60"), (minute, "report-62")] ∧
    s.runs.map (fun e => e.2.spec.triggerData.bind (·.scheduledTime)) =
      [some minute, some (minute + 2 * second)] :=
  ⟨_, .snoc (.snoc (.snoc (.snoc (.snoc (.snoc .nil
    (.fire (everyMinute_starts (by decide) (by decide))))
    (.call rfl (.trigger (.ok minuteTrigger))))
    (.call rfl (.created .created (by decide) (by decide))))
    (.fire (everyMinute_starts (by decide) (by decide))))
    (.call rfl (.trigger (.ok minuteTrigger))))
    (.call rfl (.created .created (by decide) (by decide))), rfl, rfl⟩

end KubeZap
