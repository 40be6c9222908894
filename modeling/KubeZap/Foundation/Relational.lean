import KubeZap.Foundation.Program

/-! # Two runs side by side

What two runs of a program have in common when the answers to their requests have something in
common. `Program.Twin` follows two programs request by request; a program whose requests depend on
what the answers may differ in is no twin of itself.
-/

namespace Foundation

section Twin

variable {Req : Type} {Reply : Req → Type} {α α' β β' : Type}

/-- The two programs make their requests in step and return related values, as long as the answers
to each pair of requests are related. -/
def Program.Twin (R : Event Reply → Event Reply → Prop) (P : α → α' → Prop) :
    Program Req Reply α → Program Req Reply α' → Prop
  | .pure a, p' => ∃ a', p' = .pure a' ∧ P a a'
  | .call q k, p' => ∃ q' k', p' = .call q' k' ∧
      ∀ x x', R ⟨q, x⟩ ⟨q', x'⟩ → (k x).Twin R P (k' x')

namespace Program.Twin

variable {R : Event Reply → Event Reply → Prop} {P : β → β' → Prop} {Q : α → α' → Prop}

theorem pure {b : β} {b' : β'} (h : P b b') :
    Twin R P (Pure.pure b : Program Req Reply β) (Pure.pure b') :=
  ⟨b', rfl, h⟩

theorem bind {p : Program Req Reply α} {p' : Program Req Reply α'} {f : α → Program Req Reply β}
    {f' : α' → Program Req Reply β'} (hp : Twin R Q p p')
    (hf : ∀ a a', Q a a' → Twin R P (f a) (f' a')) : Twin R P (p >>= f) (p' >>= f') := by
  induction p generalizing p' with
  | pure a =>
    obtain ⟨a', rfl, ha⟩ := hp
    exact hf a a' ha
  | call q k ih =>
    obtain ⟨q', k', rfl, hk⟩ := hp
    exact ⟨q', fun x => k' x >>= f', rfl, fun x x' hx => ih x (hk x x' hx)⟩

theorem request {q q' : Req} {P : Reply q → Reply q' → Prop}
    (h : ∀ x x', R ⟨q, x⟩ ⟨q', x'⟩ → P x x') : Twin R P (Program.request q) (Program.request q') :=
  ⟨q', .pure, rfl, fun x x' hx => ⟨x', rfl, h x x' hx⟩⟩

theorem exec {W W' : Type} {env : Env W Reply} {env' : Env W' Reply} {p : Program Req Reply α}
    {p' : Program Req Reply α'} {w w₁ : W} {w' w₁' : W'} {tr tr' : List (Event Reply)} {a : α}
    {a' : α'} (hp : Twin R Q p p') (hrun : Exec env w p tr w₁ (some a))
    (hrun' : Exec env' w' p' tr' w₁' (some a')) (hR : ∀ e ∈ tr.zip tr', R e.1 e.2) : Q a a' := by
  induction p generalizing p' w w' tr tr' with
  | pure b =>
    obtain ⟨b', rfl, hb⟩ := hp
    cases hrun
    cases hrun'
    exact hb
  | call q k ih =>
    obtain ⟨q', k', rfl, hk⟩ := hp
    cases hrun with
    | step _ hrest =>
      cases hrun' with
      | step _ hrest' =>
        exact ih _ (hk _ _ (hR _ List.mem_cons_self)) hrest hrest'
          fun e he => hR e (List.mem_cons_of_mem _ he)

end Program.Twin

theorem Program.replay_exec (f : (q : Req) → Reply q) (p : Program Req Reply α) :
    Exec (fun (_ : Unit) q x _ => x = f q) () p ((p.replay f).1.map fun q => ⟨q, f q⟩) ()
      (some (p.replay f).2) := by
  induction p with
  | pure a => exact .done () a
  | call q k ih => exact .step rfl (ih (f q))

/-- Both values, related, or both the same error. -/
def Agree {ε : Type} (Q : α → α' → Prop) : Except ε α → Except ε α' → Prop
  | .ok a, .ok a' => Q a a'
  | .error e, .error e' => e = e'
  | .ok _, .error _ | .error _, .ok _ => False

abbrev TwinT {ε : Type} (R : Event Reply → Event Reply → Prop) (P : α → α' → Prop)
    (m : ExceptT ε (Program Req Reply) α) (m' : ExceptT ε (Program Req Reply) α') : Prop :=
  Program.Twin R (Agree P) m.run m'.run

namespace TwinT

variable {ε : Type} {R : Event Reply → Event Reply → Prop} {P : β → β' → Prop} {Q : α → α' → Prop}

theorem pure {b : β} {b' : β'} (h : P b b') :
    TwinT R P (Pure.pure b : ExceptT ε (Program Req Reply) β) (Pure.pure b') :=
  Program.Twin.pure h

theorem throw (e : ε) :
    TwinT R P (MonadExcept.throw e : ExceptT ε (Program Req Reply) β)
      (MonadExcept.throw e : ExceptT ε (Program Req Reply) β') :=
  Program.Twin.pure (show Agree P (.error e) (.error e) from rfl)

theorem bind {m : ExceptT ε (Program Req Reply) α} {m' : ExceptT ε (Program Req Reply) α'}
    {f : α → ExceptT ε (Program Req Reply) β} {f' : α' → ExceptT ε (Program Req Reply) β'}
    (hm : TwinT R Q m m') (hf : ∀ a a', Q a a' → TwinT R P (f a) (f' a')) :
    TwinT R P (m >>= f) (m' >>= f') := by
  refine Program.Twin.bind hm fun r r' hr => ?_
  match r, r', hr with
  | .ok a, .ok a', ha => exact hf a a' ha
  | .error e, .error _, rfl => exact Program.Twin.pure rfl

theorem lift {p : Program Req Reply α} {p' : Program Req Reply α'} (hp : Program.Twin R Q p p') :
    TwinT R Q (liftM p : ExceptT ε (Program Req Reply) α) (liftM p') :=
  Program.Twin.bind hp fun _ _ ha => Program.Twin.pure ha

end TwinT

end Twin

end Foundation
