import Mathlib.Logic.Relation

/-! # Request programs

A program is a tree of typed requests: it either returns or asks its
environment for one reply and continues with it. Nothing is said here about
what the environment is. `Exec` observes one run of a program against an
environment, with the complete list of requests and replies; a run may be cut
at any request, which is how the loss of the executing process is seen.
-/

namespace Foundation

/-- A computation that returns, or issues one request and waits for its reply. -/
inductive Program (Req : Type) (Reply : Req → Type) (α : Type) : Type
  | pure (a : α) : Program Req Reply α
  | call (q : Req) (k : Reply q → Program Req Reply α) : Program Req Reply α

abbrev Event {Req : Type} (Reply : Req → Type) := Sigma Reply

/-- An environment says which replies it may give, and how it moves on. -/
abbrev Env (W : Type) {Req : Type} (Reply : Req → Type) :=
  W → (q : Req) → Reply q → W → Prop

namespace Program

variable {Req : Type} {Reply : Req → Type} {α β : Type}

def bind : Program Req Reply α → (α → Program Req Reply β) → Program Req Reply β
  | .pure a, f => f a
  | .call q k, f => .call q (fun x => (k x).bind f)

instance : Monad (Program Req Reply) where
  pure := Program.pure
  bind := Program.bind

def request (q : Req) : Program Req Reply (Reply q) := .call q .pure

@[simp] theorem pure_bind (a : α) (f : α → Program Req Reply β) :
    (Program.pure a >>= f) = f a := rfl

@[simp] theorem call_bind (q : Req) (k : Reply q → Program Req Reply α)
    (f : α → Program Req Reply β) :
    (Program.call q k >>= f) = .call q (fun x => k x >>= f) := rfl

@[simp] theorem request_bind (q : Req) (f : Reply q → Program Req Reply β) :
    (request q >>= f) = .call q f := rfl

/-- Run a program whose requests are answered by a function, with the requests
in the order in which they were made. -/
def replay (f : (q : Req) → Reply q) : Program Req Reply α → List Req × α
  | .pure a => ([], a)
  | .call q k => (q :: (replay f (k (f q))).1, (replay f (k (f q))).2)

/-- A program whose requests are a part of a larger set of requests. -/
def lift {Req' : Type} {Reply' : Req' → Type} (f : Req → Req')
    (g : (q : Req) → Reply' (f q) → Reply q) : Program Req Reply α → Program Req' Reply' α
  | .pure a => .pure a
  | .call q k => .call (f q) (fun x => (k (g q x)).lift f g)

/-- A program whose requests are each carried out by a program of another kind. -/
def handle {Req' : Type} {Reply' : Req' → Type} (f : (q : Req) → Program Req' Reply' (Reply q)) :
    Program Req Reply α → Program Req' Reply' α
  | .pure a => .pure a
  | .call q k => f q >>= fun x => (k x).handle f

@[simp] theorem replay_return (f : (q : Req) → Reply q) (a : α) :
    replay f (Pure.pure a) = ([], a) := rfl

@[simp] theorem replay_call (f : (q : Req) → Reply q) (q : Req)
    (k : Reply q → Program Req Reply α) :
    replay f (.call q k) = (q :: (replay f (k (f q))).1, (replay f (k (f q))).2) := rfl

/-- The program may return `b`, for some replies to its requests. -/
def Returns : Program Req Reply α → α → Prop
  | .pure a, b => b = a
  | .call _ k, b => ∃ x, (k x).Returns b

variable {p : Program Req Reply α} {f : α → Program Req Reply β}

theorem returns_bind {b : β} : (p >>= f).Returns b ↔ ∃ a, p.Returns a ∧ (f a).Returns b := by
  induction p with
  | pure a =>
    constructor
    · intro h
      exact ⟨a, rfl, h⟩
    · rintro ⟨a', rfl, h⟩
      exact h
  | call q k ih =>
    constructor
    · rintro ⟨x, hx⟩
      obtain ⟨a, ha, hf⟩ := (ih x).mp hx
      exact ⟨a, ⟨x, ha⟩, hf⟩
    · rintro ⟨a, ⟨x, ha⟩, hf⟩
      exact ⟨x, (ih x).mpr ⟨a, ha, hf⟩⟩

theorem replay_returns (s : (q : Req) → Reply q) (p : Program Req Reply α) :
    p.Returns (replay s p).2 := by
  induction p with
  | pure a => rfl
  | call q k ih => exact ⟨s q, ih (s q)⟩

theorem replay_bind (s : (q : Req) → Reply q) (p : Program Req Reply α)
    (f : α → Program Req Reply β) :
    replay s (p >>= f) =
      ((replay s p).1 ++ (replay s (f (replay s p).2)).1, (replay s (f (replay s p).2)).2) := by
  induction p with
  | pure a => rfl
  | call q k ih => simp only [call_bind, replay_call, ih, List.cons_append]

/-- Whatever it is answered, the program makes only requests that `ok` admits. -/
def Asks (ok : Req → Prop) : Program Req Reply α → Prop
  | .pure _ => True
  | .call q k => ok q ∧ ∀ x, (k x).Asks ok

variable {ok : Req → Prop}

theorem Asks.request {q : Req} {f : Reply q → Program Req Reply α} (hq : ok q)
    (hf : ∀ x, (f x).Asks ok) : (request q >>= f).Asks ok :=
  ⟨hq, hf⟩

theorem Asks.mono {ok' : Req → Prop} (hp : p.Asks ok) (hle : ∀ q, ok q → ok' q) : p.Asks ok' := by
  induction p with
  | pure a => trivial
  | call q k ih => exact ⟨hle q hp.1, fun x => ih x (hp.2 x)⟩

theorem Asks.bind_returns (hp : p.Asks ok) (hf : ∀ a, p.Returns a → (f a).Asks ok) :
    (p >>= f).Asks ok := by
  induction p with
  | pure a => exact hf a rfl
  | call q k ih =>
    refine ⟨hp.1, ?_⟩
    intro x
    exact ih x (hp.2 x) fun a ha => hf a ⟨x, ha⟩

theorem Asks.bind (hp : p.Asks ok) (hf : ∀ a, (f a).Asks ok) : (p >>= f).Asks ok :=
  hp.bind_returns fun a _ => hf a

theorem Asks.replay_congr (hp : p.Asks ok) {s s' : (q : Req) → Reply q}
    (hs : ∀ q, ok q → s' q = s q) : replay s' p = replay s p := by
  induction p with
  | pure a => rfl
  | call q k ih => rw [replay_call, replay_call, hs q hp.1, ih _ (hp.2 (s q))]

def ended : Program Req Reply α → Bool
  | .pure _ => true
  | .call _ _ => false

theorem ended_iff {p : Program Req Reply Unit} : p.ended = true ↔ p = .pure () := by
  cases p <;> simp [ended]

/-- Whatever it is answered, the program makes a request that `ok` admits before it ends. -/
def Must (ok : Req → Prop) : Program Req Reply α → Prop
  | .pure _ => False
  | .call q k => ok q ∨ ∀ x, (k x).Must ok

end Program

/-! ## Runs -/

section Runs

variable {W Req : Type} {Reply : Req → Type} {α : Type}

/-- `Exec env w p tr w' o`: from `w` the program `p` makes exactly the requests
of `tr` and leaves the environment in `w'`. It returned `a` when `o = some a`;
when `o = none` it was cut. -/
inductive Exec (env : Env W Reply) :
    W → Program Req Reply α → List (Event Reply) → W → Option α → Prop
  | done (w : W) (a : α) : Exec env w (.pure a) [] w (some a)
  | cut (w : W) (p : Program Req Reply α) : Exec env w p [] w none
  | step {w w₁ w₂ : W} {q : Req} {x : Reply q} {k : Reply q → Program Req Reply α}
      {tr : List (Event Reply)} {o : Option α} :
      env w q x w₁ → Exec env w₁ (k x) tr w₂ o →
      Exec env w (.call q k) (⟨q, x⟩ :: tr) w₂ o

theorem Exec.invariant {env : Env W Reply} {ok : Req → Prop} {p : Program Req Reply α} {w w' : W}
    {tr : List (Event Reply)} {o : Option α} (hrun : Exec env w p tr w' o) (hp : p.Asks ok)
    (inv : W → Prop) (hkeep : ∀ w q x w', ok q → inv w → env w q x w' → inv w') (hw : inv w) :
    inv w' := by
  induction hrun with
  | done | cut => exact hw
  | step hq _ ih => exact ih (hp.2 _) (hkeep _ _ _ _ hp.1 hw hq)

theorem Exec.bind {β : Type} {env : Env W Reply} {p : Program Req Reply α}
    {f : α → Program Req Reply β} {w w₁ w₂ : W} {tr tr' : List (Event Reply)} {a : α} {o : Option β}
    (hp : Exec env w p tr w₁ (some a)) (hf : Exec env w₁ (f a) tr' w₂ o) :
    Exec env w (p >>= f) (tr ++ tr') w₂ o := by
  generalize hreturned : some a = r at hp
  induction hp with
  | done =>
    cases hreturned
    exact hf
  | cut => cases hreturned
  | step hq _ ih => exact .step hq (ih hf hreturned)

/-- Every reply an environment gives satisfies `credible`. -/
def Env.Credible (env : Env W Reply) (credible : (q : Req) → Reply q → Prop) : Prop :=
  ∀ w q x w', env w q x w' → credible q x

/-- Run a program against an environment that is a function. Where the function
gives no answer, the run is cut. -/
def Program.simulate (serve : W → (q : Req) → Option (Reply q × W)) :
    W → Program Req Reply α → List (Event Reply) × W × Option α
  | w, .pure a => ([], w, some a)
  | w, .call q k =>
    match serve w q with
    | none => ([], w, none)
    | some (x, w') =>
      let rest := simulate serve w' (k x)
      (⟨q, x⟩ :: rest.1, rest.2)

theorem Program.simulate_exec {env : Env W Reply} {serve : W → (q : Req) → Option (Reply q × W)}
    (hserve : ∀ w q x w', serve w q = some (x, w') → env w q x w') (w : W)
    (p : Program Req Reply α) :
    Exec env w p (p.simulate serve w).1 (p.simulate serve w).2.1 (p.simulate serve w).2.2 := by
  induction p generalizing w with
  | pure a => exact .done w a
  | call q k ih =>
    unfold simulate
    cases h : serve w q with
    | none => exact .cut w _
    | some answer =>
      obtain ⟨x, w'⟩ := answer
      exact .step (hserve w q x w' h) (ih x w')

end Runs

/-! ## Runs to the end -/

section Completion

variable {W Req : Type} {Reply : Req → Type} {α β : Type} {env : Env W Reply}

/-- From `w` the program may run to its end, returning `a` and leaving `w'`. -/
def Completes (env : Env W Reply) (w : W) (p : Program Req Reply α) (w' : W) (a : α) : Prop :=
  ∃ tr, Exec env w p tr w' (some a)

variable {w w' : W}

@[simp] theorem completes_pure {a b : α} : Completes env w (.pure a) w' b ↔ w' = w ∧ b = a := by
  constructor
  · rintro ⟨tr, h⟩
    cases h
    exact ⟨rfl, rfl⟩
  · rintro ⟨rfl, rfl⟩
    exact ⟨[], .done _ _⟩

@[simp] theorem completes_return {a b : α} :
    Completes env w (Pure.pure a) w' b ↔ w' = w ∧ b = a := completes_pure

@[simp] theorem completes_call {q : Req} {k : Reply q → Program Req Reply α} {a : α} :
    Completes env w (.call q k) w' a ↔ ∃ x w₁, env w q x w₁ ∧ Completes env w₁ (k x) w' a := by
  constructor
  · rintro ⟨tr, h⟩
    cases h with
    | step hq hrest => exact ⟨_, _, hq, _, hrest⟩
  · rintro ⟨x, w₁, hq, tr, hrest⟩
    exact ⟨_, .step hq hrest⟩

theorem completes_simulate {answer : W → (q : Req) → Reply q × W}
    (hanswer : ∀ w q, env w q (answer w q).1 (answer w q).2) (w : W) (p : Program Req Reply Unit) :
    Completes env w p (p.simulate (fun w q => some (answer w q)) w).2.1 () := by
  induction p generalizing w with
  | pure a => exact completes_pure.mpr ⟨rfl, rfl⟩
  | call q k ih => exact completes_call.mpr ⟨_, _, hanswer w q, ih _ _⟩

theorem completes_request {q : Req} {f : Reply q → Program Req Reply β} {b : β} :
    Completes env w (Program.request q >>= f) w' b ↔
      ∃ x w₁, env w q x w₁ ∧ Completes env w₁ (f x) w' b := by
  rw [Program.request_bind, completes_call]

theorem completes_bind {p : Program Req Reply α} {f : α → Program Req Reply β} {b : β} :
    Completes env w (p >>= f) w' b ↔
      ∃ a w₁, Completes env w p w₁ a ∧ Completes env w₁ (f a) w' b := by
  induction p generalizing w with
  | pure a => simp [and_assoc]
  | call q k ih =>
    simp only [Program.call_bind, completes_call, ih]
    constructor
    · rintro ⟨x, w₁, hq, a, w₂, hk, hf⟩
      exact ⟨a, w₂, ⟨x, w₁, hq, hk⟩, hf⟩
    · rintro ⟨a, w₂, ⟨x, w₁, hq, hk⟩, hf⟩
      exact ⟨x, w₁, hq, a, w₂, hk, hf⟩

def Program.tryThen {ε : Type} (p : Program Req Reply (Except ε α))
    (f : α → Program Req Reply (Except ε β)) : Program Req Reply (Except ε β) := do
  match ← p with
  | .error err => return .error err
  | .ok a => f a

theorem Program.Asks.tryThen {ε : Type} {ok : Req → Prop} {p : Program Req Reply (Except ε α)}
    {f : α → Program Req Reply (Except ε β)} (hp : p.Asks ok) (hf : ∀ a, (f a).Asks ok) :
    (p.tryThen f).Asks ok := by
  refine hp.bind fun result => ?_
  cases result with
  | error err => trivial
  | ok a => exact hf a

theorem completes_tryThen {ε : Type} {p : Program Req Reply (Except ε α)}
    {f : α → Program Req Reply (Except ε β)} {b : β} :
    Completes env w (p.tryThen f) w' (.ok b) ↔
      ∃ a w₁, Completes env w p w₁ (.ok a) ∧ Completes env w₁ (f a) w' (.ok b) := by
  rw [Program.tryThen, completes_bind]
  constructor
  · rintro ⟨result, w₁, hp, hf⟩
    cases result with
    | error err => simp at hf
    | ok a => exact ⟨a, w₁, hp, hf⟩
  · rintro ⟨a, w₁, hp, hf⟩
    exact ⟨.ok a, w₁, hp, hf⟩

theorem completes_ok_bind {ε : Type} {p : ExceptT ε (Program Req Reply) α}
    {f : α → ExceptT ε (Program Req Reply) β} {b : β} :
    Completes env w (p >>= f).run w' (.ok b) ↔
      ∃ a w₁, Completes env w p.run w₁ (.ok a) ∧ Completes env w₁ (f a).run w' (.ok b) := by
  have hrun : (p >>= f).run = p.run.tryThen fun a => (f a).run := by
    rw [ExceptT.run_bind, Program.tryThen]
    congr 1
    funext result
    cases result <;> rfl
  rw [hrun, completes_tryThen]

def Program.simulateOk {ε : Type} (serve : W → (q : Req) → Option (Reply q × W)) (w : W)
    (p : Program Req Reply (Except ε α)) : Option W :=
  match p.simulate serve w with
  | (_, w', some (.ok _)) => some w'
  | _ => none

theorem Program.simulateOk_completes {ε : Type} {serve : W → (q : Req) → Option (Reply q × W)}
    (hserve : ∀ w q x w', serve w q = some (x, w') → env w q x w')
    {p : Program Req Reply (Except ε α)} (h : p.simulateOk serve w = some w') :
    ∃ a, Completes env w p w' (.ok a) := by
  have hexec := Program.simulate_exec hserve w p
  unfold simulateOk at h
  split at h
  next tr w₁ a heq =>
    cases h
    rw [heq] at hexec
    exact ⟨a, tr, hexec⟩
  · cases h

/-- Where the requests of a lifted program are answered by a function of the
state and leave it alone, the program returns what its replay returns. -/
theorem completes_lift {Req' : Type} {Reply' : Req' → Type} {env : Env W Reply'} {f : Req → Req'}
    {g : (q : Req) → Reply' (f q) → Reply q} {s : (q : Req) → Reply q}
    (hread : ∀ q x w', env w (f q) x w' ↔ g q x = s q ∧ w' = w) (hanswer : ∀ q, ∃ x, g q x = s q)
    {p : Program Req Reply α} {a : α} :
    Completes env w (p.lift f g) w' a ↔ w' = w ∧ a = (p.replay s).2 := by
  induction p with
  | pure b => exact completes_pure
  | call q k ih =>
    simp only [Program.lift, completes_call, Program.replay_call, hread]
    constructor
    · rintro ⟨x, w₁, ⟨hx, rfl⟩, hk⟩
      rw [hx, ih] at hk
      exact hk
    · intro h
      obtain ⟨x, hx⟩ := hanswer q
      refine ⟨x, w, ⟨hx, rfl⟩, ?_⟩
      rw [hx, ih]
      exact h

end Completion

end Foundation
