import KubeZap.Foundation.Program

/-! # Protocols and the programs that follow them

A protocol is a labelled transition system over requests and replies. A program
follows a protocol when each of its requests is a move of the protocol for every
reply the environment may credibly give. `Follows` is the predicate transformer
of that notion, so it is proved along the program's own structure; `Joint` is the
product of an environment and a protocol, along which invariants are proved
without ever looking at the program again.
-/

namespace Foundation

variable {W Req : Type} {Reply : Req → Type} {Stage α β : Type}

/-- The moves a protocol admits, each labelled by a request and its reply. -/
abbrev Protocol (Stage : Type) {Req : Type} (Reply : Req → Type) :=
  Stage → (q : Req) → Reply q → Stage → Prop

/-- From stage `σ` the program follows the protocol on every credible reply and
returns only values that `post` allows in the stage it ends in. -/
def Follows (moves : Protocol Stage Reply) (credible : (q : Req) → Reply q → Prop)
    (post : Stage → α → Prop) : Stage → Program Req Reply α → Prop
  | σ, .pure a => post σ a
  | σ, .call q k =>
    ∀ x, credible q x → ∃ σ', moves σ q x σ' ∧ Follows moves credible post σ' (k x)

section Calculus

variable {moves : Protocol Stage Reply} {credible : (q : Req) → Reply q → Prop}
variable {post : Stage → α → Prop} {σ : Stage}

theorem Follows.widen {moves' : Protocol Stage Reply} {p : Program Req Reply α}
    (h : Follows moves credible post σ p) (hle : ∀ σ q x σ', moves σ q x σ' → moves' σ q x σ') :
    Follows moves' credible post σ p := by
  induction p generalizing σ with
  | pure a => exact h
  | call q k ih =>
    intro x hx
    obtain ⟨σ', hm, hk⟩ := h x hx
    exact ⟨σ', hle _ _ _ _ hm, ih x hk⟩

theorem Follows.weaken {post' : Stage → α → Prop} {p : Program Req Reply α}
    (h : Follows moves credible post σ p) (hle : ∀ σ a, post σ a → post' σ a) :
    Follows moves credible post' σ p := by
  induction p generalizing σ with
  | pure a => exact hle σ a h
  | call q k ih =>
    intro x hx
    obtain ⟨σ', hm, hk⟩ := h x hx
    exact ⟨σ', hm, ih x hk⟩

theorem Follows.bind {mid : Stage → β → Prop} {p : Program Req Reply β}
    {f : β → Program Req Reply α} (hp : Follows moves credible mid σ p)
    (hf : ∀ σ b, mid σ b → Follows moves credible post σ (f b)) :
    Follows moves credible post σ (p >>= f) := by
  induction p generalizing σ with
  | pure b => exact hf σ b hp
  | call q k ih =>
    intro x hx
    obtain ⟨σ', hm, hk⟩ := hp x hx
    exact ⟨σ', hm, ih x hk⟩

theorem Follows.tryThen {ε : Type} {mid : Stage → Except ε β → Prop}
    {post : Stage → Except ε α → Prop} {p : Program Req Reply (Except ε β)}
    {f : β → Program Req Reply (Except ε α)} (hp : Follows moves credible mid σ p)
    (herr : ∀ σ err, mid σ (.error err) → post σ (.error err))
    (hf : ∀ σ b, mid σ (.ok b) → Follows moves credible post σ (f b)) :
    Follows moves credible post σ (p.tryThen f) := by
  refine hp.bind fun σ' result hmid => ?_
  cases result with
  | error err => exact herr σ' err hmid
  | ok b => exact hf σ' b hmid

theorem Follows.lift {Req' : Type} {Reply' : Req' → Type} {f : Req' → Req}
    {g : (q : Req') → Reply (f q) → Reply' q} (hstay : ∀ q x, moves σ (f q) x σ)
    (p : Program Req' Reply' α) :
    Follows moves credible (fun σ' a => σ' = σ ∧ p.Returns a) σ (p.lift f g) := by
  induction p with
  | pure a => exact ⟨rfl, rfl⟩
  | call q k ih =>
    intro x _
    refine ⟨σ, hstay q x, (ih (g q x)).weaken ?_⟩
    rintro σ' a ⟨hσ, ha⟩
    exact ⟨hσ, g q x, ha⟩

theorem Program.Asks.follows {ok : Req → Prop} {p : Program Req Reply α} (hp : p.Asks ok)
    (hstay : ∀ q x, ok q → moves σ q x σ) : Follows moves credible (fun σ' _ => σ' = σ) σ p := by
  induction p with
  | pure a => rfl
  | call q k ih => exact fun x _ => ⟨σ, hstay q x hp.1, ih x (hp.2 x)⟩

theorem Follows.handle {Req' : Type} {Reply' : Req' → Type} {between : Stage → Prop}
    {f : (q : Req') → Program Req Reply (Reply' q)}
    (hf : ∀ q σ, between σ → Follows moves credible (fun σ' _ => between σ') σ (f q))
    (p : Program Req' Reply' α) (hσ : between σ) :
    Follows moves credible (fun σ' _ => between σ') σ (p.handle f) := by
  induction p generalizing σ with
  | pure a => exact hσ
  | call q k ih => exact (hf q σ hσ).bind fun σ' x hσ' => ih x hσ'

variable {Stage' : Type} {moves' : Protocol Stage' Reply} {τ : Stage'}

theorem Follows.simulated (rel : Stage → Stage' → Prop) {p : Program Req Reply α}
    (h : Follows moves credible post σ p) (hrel : ∀ {σ τ q x σ'}, rel σ τ → moves σ q x σ' →
      ∃ τ', moves' τ q x τ' ∧ rel σ' τ') (hστ : rel σ τ) :
    Follows moves' credible (fun _ _ => True) τ p := by
  induction p generalizing σ τ with
  | pure a => trivial
  | call q k ih =>
    intro x hx
    obtain ⟨σ', hm, hk⟩ := h x hx
    obtain ⟨τ', hm', hnext⟩ := hrel hστ hm
    exact ⟨τ', hm', ih x hk hnext⟩

/-- A program that follows two protocols follows both at once. -/
theorem Follows.both {post' : Stage' → α → Prop} {p : Program Req Reply α}
    (h : Follows moves credible post σ p) (h' : Follows moves' credible post' τ p) :
    Follows (fun s q x t => moves s.1 q x t.1 ∧ moves' s.2 q x t.2) credible
      (fun s a => post s.1 a ∧ post' s.2 a) (σ, τ) p := by
  induction p generalizing σ τ with
  | pure a => exact ⟨h, h'⟩
  | call q k ih =>
    intro x hx
    obtain ⟨σ', hm, hk⟩ := h x hx
    obtain ⟨τ', hm', hk'⟩ := h' x hx
    exact ⟨(σ', τ'), ⟨hm, hm'⟩, ih x hk hk'⟩

end Calculus

/-- A run in which environment and protocol agree on every request and reply. -/
inductive Joint (env : Env W Reply) (moves : Protocol Stage Reply) :
    W → Stage → List (Event Reply) → W → Stage → Prop
  | nil (w : W) (σ : Stage) : Joint env moves w σ [] w σ
  | cons {w w₁ w₂ : W} {σ σ₁ σ₂ : Stage} {q : Req} {x : Reply q} {tr : List (Event Reply)} :
      env w q x w₁ → moves σ q x σ₁ → Joint env moves w₁ σ₁ tr w₂ σ₂ →
      Joint env moves w σ (⟨q, x⟩ :: tr) w₂ σ₂

section Simulation

variable {env : Env W Reply} {moves : Protocol Stage Reply}
variable {credible : (q : Req) → Reply q → Prop} {post : Stage → α → Prop}

theorem Exec.joint {w w' : W} {σ : Stage} {p : Program Req Reply α}
    {tr : List (Event Reply)} {o : Option α} (hrun : Exec env w p tr w' o)
    (henv : env.Credible credible) (hfol : Follows moves credible post σ p) :
    ∃ σ', Joint env moves w σ tr w' σ' ∧ ∀ a, o = some a → post σ' a := by
  induction hrun generalizing σ with
  | done w a =>
    refine ⟨σ, .nil w σ, ?_⟩
    rintro b ⟨⟩
    exact hfol
  | cut w p => exact ⟨σ, .nil w σ, nofun⟩
  | step hq _ ih =>
    obtain ⟨σ₁, hm, hk⟩ := hfol _ (henv _ _ _ _ hq)
    obtain ⟨σ', hj, ho⟩ := ih hk
    exact ⟨σ', .cons hq hm hj, ho⟩

theorem Exec.asked {ok : Req → Prop} {post : Unit → α → Prop} {w w' : W}
    {p : Program Req Reply α} {tr : List (Event Reply)} {o : Option α}
    (hrun : Exec env w p tr w' o) (hfol : Follows (fun _ q _ _ => ok q) credible post () p)
    (hcredible : ∀ e ∈ tr, credible e.1 e.2) : ∀ e ∈ tr, ok e.1 := by
  induction hrun with
  | done | cut => nofun
  | step _ _ ih =>
    obtain ⟨hfirst, hrest⟩ := List.forall_mem_cons.mp hcredible
    obtain ⟨_, hok, hk⟩ := hfol _ hfirst
    exact List.forall_mem_cons.mpr ⟨hok, ih hk hrest⟩

/-- An invariant over the requests made so far, kept by every joint move, holds at
the end of a joint run. -/
theorem Joint.history {w w' : W} {σ σ' : Stage} {tr : List (Event Reply)}
    (hrun : Joint env moves w σ tr w' σ') (inv : List (Event Reply) → W → Stage → Prop)
    (h : inv [] w σ) (hstep : ∀ tr w σ q x w' σ', inv tr w σ → env w q x w' → moves σ q x σ' →
      inv (tr ++ [⟨q, x⟩]) w' σ') : inv tr w' σ' := by
  have hgen : ∀ done, inv done w σ → inv (done ++ tr) w' σ' := by
    clear h
    induction hrun with
    | nil w σ =>
      intro done hdone
      rwa [List.append_nil]
    | @cons w w₁ w₂ σ σ₁ σ₂ q x tr hq hm _ ih =>
      intro done hdone
      have hnext := ih (done ++ [⟨q, x⟩]) (hstep done w σ q x w₁ σ₁ hdone hq hm)
      rwa [List.append_assoc] at hnext
  exact hgen [] h

end Simulation

structure Pool (W : Type) {Req : Type} (Reply : Req → Type) where
  world : W
  procs : List (Program Req Reply Unit)

/-- One step of a pool: a process starts, makes its next request, or is gone
(returned or lost); or the environment moves by itself. -/
inductive Pool.Step (env : Env W Reply) (starts : Program Req Reply Unit → Prop)
    (ambient : W → W → Prop) : Pool W Reply → Pool W Reply → Prop
  | spawn {w : W} {ps : List (Program Req Reply Unit)} {p : Program Req Reply Unit} :
      starts p → Pool.Step env starts ambient ⟨w, ps⟩ ⟨w, p :: ps⟩
  | call {w w' : W} {ps qs : List (Program Req Reply Unit)} {q : Req} {x : Reply q}
      {k : Reply q → Program Req Reply Unit} :
      env w q x w' →
      Pool.Step env starts ambient ⟨w, ps ++ .call q k :: qs⟩ ⟨w', ps ++ k x :: qs⟩
  | quit {w : W} {ps qs : List (Program Req Reply Unit)} {p : Program Req Reply Unit} :
      Pool.Step env starts ambient ⟨w, ps ++ p :: qs⟩ ⟨w, ps ++ qs⟩
  | move {w w' : W} {ps : List (Program Req Reply Unit)} :
      ambient w w' → Pool.Step env starts ambient ⟨w, ps⟩ ⟨w', ps⟩

section Interleaving

variable {env : Env W Reply} {moves : Protocol Stage Reply}
variable {credible : (q : Req) → Reply q → Prop}
variable {starts : Program Req Reply Unit → Prop} {ambient : W → W → Prop}
variable {shared : W → Prop} {held : W → Stage → Prop}

/-- Every process of the pool follows the protocol from a stage that the
assertion it holds is true of. -/
def Pool.Covered (moves : Protocol Stage Reply) (credible : (q : Req) → Reply q → Prop)
    (shared : W → Prop) (held : W → Stage → Prop) (P : Pool W Reply) : Prop :=
  shared P.world ∧ ∀ p ∈ P.procs, ∃ σ,
    held P.world σ ∧ Follows moves credible (fun _ _ => True) σ p

/-- The rule of interference. A process keeps the shared assertion by its own
moves, and the assertion it holds survives what the others and the environment do. -/
structure Interference (env : Env W Reply) (moves : Protocol Stage Reply)
    (credible : (q : Req) → Reply q → Prop) (starts : Program Req Reply Unit → Prop)
    (ambient : W → W → Prop) (shared : W → Prop) (held : W → Stage → Prop) : Prop where
  honest : env.Credible credible
  start : ∀ w p, shared w → starts p → ∃ σ, held w σ ∧
    Follows moves credible (fun _ _ => True) σ p
  own : ∀ w σ q x w' σ', shared w → held w σ → env w q x w' → moves σ q x σ' →
    shared w' ∧ held w' σ'
  others : ∀ w σ q x w' τ τ', shared w → held w σ → held w τ → env w q x w' →
    moves τ q x τ' → held w' σ
  outside : ∀ w w', shared w → ambient w w' → shared w' ∧ ∀ σ, held w σ → held w' σ

theorem Pool.Covered.step (rules : Interference env moves credible starts ambient shared held)
    {P Q : Pool W Reply} (h : P.Covered moves credible shared held)
    (hstep : Pool.Step env starts ambient P Q) : Q.Covered moves credible shared held := by
  obtain ⟨hg, hl⟩ := h
  cases hstep with
  | spawn hp =>
    refine ⟨hg, ?_⟩
    intro p hmem
    rcases List.mem_cons.mp hmem with rfl | hmem
    · exact rules.start _ _ hg hp
    · exact hl p hmem
  | @call w w' ps qs q x k hq =>
    obtain ⟨τ, hτ, hfol⟩ := hl (.call q k) (by simp)
    obtain ⟨τ', hm, hk⟩ := hfol x (rules.honest _ _ _ _ hq)
    have hown := rules.own _ _ _ _ _ _ hg hτ hq hm
    refine ⟨hown.1, ?_⟩
    intro p hmem
    have hold : ∀ p', p' ∈ ps ++ qs → ∃ σ, held w' σ ∧
        Follows moves credible (fun _ _ => True) σ p' := by
      intro p' hp'
      obtain ⟨σ, hσ, hf⟩ := hl p' (by
        rcases List.mem_append.mp hp' with h | h <;> simp [h])
      exact ⟨σ, rules.others _ _ _ _ _ _ _ hg hσ hτ hq hm, hf⟩
    rcases List.mem_append.mp hmem with hmem | hmem
    · exact hold p (List.mem_append.mpr (.inl hmem))
    · rcases List.mem_cons.mp hmem with rfl | hmem
      · exact ⟨τ', hown.2, hk⟩
      · exact hold p (List.mem_append.mpr (.inr hmem))
  | quit =>
    refine ⟨hg, ?_⟩
    intro p hmem
    refine hl p ?_
    rcases List.mem_append.mp hmem with h | h <;> simp [h]
  | move ha =>
    have hout := rules.outside _ _ hg ha
    refine ⟨hout.1, ?_⟩
    intro p hmem
    obtain ⟨σ, hσ, hf⟩ := hl p hmem
    exact ⟨σ, hout.2 σ hσ, hf⟩

theorem Pool.Covered.run (rules : Interference env moves credible starts ambient shared held)
    {P Q : Pool W Reply} (h : P.Covered moves credible shared held)
    (hrun : Relation.ReflTransGen (Pool.Step env starts ambient) P Q) :
    Q.Covered moves credible shared held := by
  induction hrun with
  | refl => exact h
  | tail _ hstep ih => exact ih.step rules hstep

theorem Exec.pool {w w' : W} {p : Program Req Reply α} {tr : List (Event Reply)} {o : Option α}
    (hrun : Exec env w p tr w' o) (ps : List (Program Req Reply Unit)) :
    ∃ p', Relation.ReflTransGen (Pool.Step env starts ambient)
      ⟨w, (p >>= fun _ => pure ()) :: ps⟩ ⟨w', p' :: ps⟩ := by
  induction hrun with
  | done | cut => exact ⟨_, .refl⟩
  | @step w w₁ w₂ q x k tr o hq _ ih =>
    obtain ⟨p', hrest⟩ := ih
    have hcall : Pool.Step env starts ambient
        ⟨w, (.call q fun x => k x >>= fun _ => pure ()) :: ps⟩
        ⟨w₁, (k x >>= fun _ => pure ()) :: ps⟩ := @Pool.Step.call _ _ _ _ _ _ w w₁ [] ps q x _ hq
    exact ⟨p', .head hcall hrest⟩

theorem Completes.pool {w w' : W} {p : Program Req Reply Unit} (hrun : Completes env w p w' ())
    (ps : List (Program Req Reply Unit)) :
    Relation.ReflTransGen (Pool.Step env starts ambient) ⟨w, p :: ps⟩ ⟨w', .pure () :: ps⟩ := by
  induction p generalizing w with
  | pure a =>
    obtain ⟨rfl, -⟩ := completes_pure.mp hrun
    exact .refl
  | call q k ih =>
    obtain ⟨x, w₁, henv, hrest⟩ := completes_call.mp hrun
    exact .head (@Pool.Step.call _ _ _ _ _ _ w w₁ [] ps q x k henv) (ih x hrest)

end Interleaving

end Foundation
