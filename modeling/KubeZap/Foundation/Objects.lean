import KubeZap.Foundation.Program
import Mathlib.Logic.Function.Basic

/-! # Programs over stored objects

Objects under keys, each key with a type of its own, in a store that is read and written
one object at a time. Reads are fresh and nobody else writes; any call may fail, and
then nothing has happened. What is stored for an object that is sent is up to the store
(`admitted`). A program may make requests of other kinds besides.

The pattern here is the upsert: read an object, change what was read, and write it, or
create it if there was none.
-/

namespace Foundation

open Function

inductive ObjectError
  | notFound
  | alreadyExists
  | conflict
  | other (err : String)
deriving DecidableEq

inductive ObjectReq (Key : Type) (Obj : Key → Type) (Extra : Type)
  | get (key : Key)
  | create (key : Key) (obj : Obj key)
  | update (key : Key) (obj : Obj key)
  | delete (key : Key)
  | extra (q : Extra)

@[reducible] def ObjectReply {Key : Type} {Obj : Key → Type} {Extra : Type}
    (ExtraReply : Extra → Type) : ObjectReq Key Obj Extra → Type
  | .get key => Except ObjectError (Obj key)
  | .create _ _ => Option ObjectError
  | .update _ _ => Option ObjectError
  | .delete _ => Option ObjectError
  | .extra q => ExtraReply q

structure ObjectWorld {Key : Type} (Obj : Key → Type) (W : Type) where
  objects : (key : Key) → Option (Obj key)
  rest : W

variable {Key : Type} {Obj : Key → Type} {Extra : Type} {ExtraReply : Extra → Type} {W ε α : Type}

abbrev ObjectProgram (Obj : Key → Type) (ExtraReply : Extra → Type) :=
  Program (ObjectReq Key Obj Extra) (ObjectReply ExtraReply)

def getObject (key : Key) : ObjectProgram Obj ExtraReply (Except ObjectError (Obj key)) :=
  @Program.request _ (ObjectReply ExtraReply) (.get key)

def createObject (key : Key) (obj : Obj key) : ObjectProgram Obj ExtraReply (Option ObjectError) :=
  @Program.request _ (ObjectReply ExtraReply) (.create key obj)

def updateObject (key : Key) (obj : Obj key) : ObjectProgram Obj ExtraReply (Option ObjectError) :=
  @Program.request _ (ObjectReply ExtraReply) (.update key obj)

def deleteObject (key : Key) : ObjectProgram Obj ExtraReply (Option ObjectError) :=
  @Program.request _ (ObjectReply ExtraReply) (.delete key)

namespace ObjectWorld

variable [DecidableEq Key]

def store (w : ObjectWorld Obj W) (key : Key) (obj : Obj key) : ObjectWorld Obj W :=
  { w with objects := update w.objects key (some obj) }

def remove (w : ObjectWorld Obj W) (key : Key) : ObjectWorld Obj W :=
  { w with objects := update w.objects key none }

variable {w : ObjectWorld Obj W} {key key' : Key} {obj : Obj key}

@[simp] theorem objects_store_self : (w.store key obj).objects key = some obj :=
  update_self _ _ _

theorem objects_store_of_ne (h : key' ≠ key) : (w.store key obj).objects key' = w.objects key' :=
  update_of_ne h _ _

end ObjectWorld

inductive ObjectServed [DecidableEq Key]
    (admitted : (key : Key) → Option (Obj key) → Obj key → Obj key)
    (other : Env (ObjectWorld Obj W) ExtraReply) (w : ObjectWorld Obj W) :
    (q : ObjectReq Key Obj Extra) → ObjectReply ExtraReply q → ObjectWorld Obj W → Prop
  | get {key : Key} {obj : Obj key} : w.objects key = some obj →
      ObjectServed admitted other w (.get key) (.ok obj) w
  | missing {key : Key} : w.objects key = none →
      ObjectServed admitted other w (.get key) (.error .notFound) w
  | getFailed {key : Key} (err : String) :
      ObjectServed admitted other w (.get key) (.error (.other err)) w
  | create {key : Key} {obj : Obj key} : w.objects key = none →
      ObjectServed admitted other w (.create key obj) none (w.store key (admitted key none obj))
  | taken {key : Key} {obj : Obj key} : (w.objects key).isSome →
      ObjectServed admitted other w (.create key obj) (some .alreadyExists) w
  | createFailed {key : Key} {obj : Obj key} (err : String) :
      ObjectServed admitted other w (.create key obj) (some (.other err)) w
  | update {key : Key} {obj old : Obj key} : w.objects key = some old →
      ObjectServed admitted other w (.update key obj) none (w.store key (admitted key (some old) obj))
  | lost {key : Key} {obj : Obj key} : w.objects key = none →
      ObjectServed admitted other w (.update key obj) (some .notFound) w
  | conflict {key : Key} {obj : Obj key} :
      ObjectServed admitted other w (.update key obj) (some .conflict) w
  | updateFailed {key : Key} {obj : Obj key} (err : String) :
      ObjectServed admitted other w (.update key obj) (some (.other err)) w
  | delete {key : Key} : (w.objects key).isSome →
      ObjectServed admitted other w (.delete key) none (w.remove key)
  | gone {key : Key} : w.objects key = none →
      ObjectServed admitted other w (.delete key) (some .notFound) w
  | deleteFailed {key : Key} (err : String) :
      ObjectServed admitted other w (.delete key) (some (.other err)) w
  | extra {q : Extra} {x : ExtraReply q} {w' : ObjectWorld Obj W} : other w q x w' →
      ObjectServed admitted other w (.extra q) x w'

def ObjectWorld.serve [DecidableEq Key] (admitted : (key : Key) → Option (Obj key) → Obj key → Obj key)
    (serveExtra : ObjectWorld Obj W → (q : Extra) → Option (ExtraReply q × ObjectWorld Obj W))
    (w : ObjectWorld Obj W) :
    (q : ObjectReq Key Obj Extra) → Option (ObjectReply ExtraReply q × ObjectWorld Obj W)
  | .get key =>
    match w.objects key with
    | some obj => some (.ok obj, w)
    | none => some (.error .notFound, w)
  | .create key obj =>
    match w.objects key with
    | some _ => some (some .alreadyExists, w)
    | none => some (none, w.store key (admitted key none obj))
  | .update key obj =>
    match w.objects key with
    | some old => some (none, w.store key (admitted key (some old) obj))
    | none => some (some .notFound, w)
  | .delete key =>
    match w.objects key with
    | some _ => some (none, w.remove key)
    | none => some (some .notFound, w)
  | .extra q => serveExtra w q

theorem ObjectWorld.serve_served [DecidableEq Key]
    {admitted : (key : Key) → Option (Obj key) → Obj key → Obj key}
    {other : Env (ObjectWorld Obj W) ExtraReply}
    {serveExtra : ObjectWorld Obj W → (q : Extra) → Option (ExtraReply q × ObjectWorld Obj W)}
    (hextra : ∀ w q x w', serveExtra w q = some (x, w') → other w q x w')
    (w : ObjectWorld Obj W) (q : ObjectReq Key Obj Extra) (x : ObjectReply ExtraReply q)
    (w' : ObjectWorld Obj W) (h : w.serve admitted serveExtra q = some (x, w')) :
    ObjectServed admitted other w q x w' := by
  cases q with
  | extra q => exact .extra (hextra w q x w' h)
  | get key =>
    simp only [ObjectWorld.serve] at h
    split at h <;> cases h
    next hobj => exact .get hobj
    next hobj => exact .missing hobj
  | create key obj =>
    simp only [ObjectWorld.serve] at h
    split at h <;> cases h
    next hobj => exact .taken (by simp [hobj])
    next hobj => exact .create hobj
  | update key obj =>
    simp only [ObjectWorld.serve] at h
    split at h <;> cases h
    next hobj => exact .update hobj
    next hobj => exact .lost hobj
  | delete key =>
    simp only [ObjectWorld.serve] at h
    split at h <;> cases h
    next hobj => exact .delete (by simp [hobj])
    next hobj => exact .gone hobj

/-- The object is read, changed and written, unless the change changes nothing; without an object,
`fresh` is changed and created. The change is told whether there was one. -/
def createOrUpdate (ofApi : ObjectError → ε) (key : Key) [DecidableEq (Obj key)] (fresh : Obj key)
    (mutate : Bool → Obj key → Except ε (Obj key)) :
    ObjectProgram Obj ExtraReply (Except ε Unit) := do
  match ← getObject key with
  | .error .notFound =>
    match mutate false fresh with
    | .error err => return .error err
    | .ok obj => return ((← createObject key obj).map ofApi).elim (.ok ()) .error
  | .error err => return .error (ofApi err)
  | .ok existing =>
    match mutate true existing with
    | .error err => return .error err
    | .ok obj =>
      if obj = existing then return .ok ()
      else return ((← updateObject key obj).map ofApi).elim (.ok ()) .error

/-- What is stored is what the change has made, or what the store makes of that. -/
def ObjectWorld.Written (admitted : (key : Key) → Option (Obj key) → Obj key → Obj key) {key : Key}
    (mutate : Bool → Obj key → Except ε (Obj key)) (w : ObjectWorld Obj W) : Prop :=
  ∃ live obj sent, mutate live obj = .ok sent ∧
    (w.objects key = some sent ∨ ∃ old, w.objects key = some (admitted key old sent))

section Upsert

variable {ofApi : ObjectError → ε} {key : Key} [DecidableEq (Obj key)] {fresh : Obj key}
  {mutate : Bool → Obj key → Except ε (Obj key)}

theorem asks_createOrUpdate {ok : ObjectReq Key Obj Extra → Prop} (hget : ok (.get key))
    (hsent : ∀ live obj sent, mutate live obj = .ok sent →
      ok (.create key sent) ∧ ok (.update key sent)) :
    (@createOrUpdate _ _ _ ExtraReply _ ofApi key _ fresh mutate).Asks ok := by
  refine Program.Asks.request hget ?_
  intro x
  cases x with
  | error err =>
    cases err with
    | notFound =>
      simp only
      split
      next => trivial
      next sent hmutate => exact ⟨(hsent _ _ _ hmutate).1, fun _ => trivial⟩
    | alreadyExists | conflict | other => trivial
  | ok existing =>
    simp only
    split
    next => trivial
    next sent hmutate =>
      split
      · trivial
      · exact ⟨(hsent _ _ _ hmutate).2, fun _ => trivial⟩

theorem written_createOrUpdate [DecidableEq Key]
    {admitted : (key : Key) → Option (Obj key) → Obj key → Obj key}
    {other : Env (ObjectWorld Obj W) ExtraReply} {w w' : ObjectWorld Obj W}
    (h : Completes (ObjectServed admitted other) w
      (createOrUpdate ofApi key fresh mutate) w' (.ok ())) : w'.Written admitted mutate := by
  obtain ⟨x, w₁, hget, h⟩ := completes_request.mp h
  cases hget with
  | getFailed => simp at h
  | missing hnone =>
    simp only at h
    split at h
    next => simp at h
    next sent hmutate =>
      obtain ⟨reply, w₂, hcreate, h⟩ := completes_request.mp h
      cases hcreate with
      | create =>
        obtain ⟨rfl, -⟩ := completes_return.mp h
        exact ⟨_, _, sent, hmutate, .inr ⟨none, ObjectWorld.objects_store_self⟩⟩
      | taken | createFailed => simp at h
  | @get _ existing hsome =>
    simp only at h
    split at h
    next => simp at h
    next sent hmutate =>
      split at h
      next hsame =>
        obtain ⟨rfl, -⟩ := completes_return.mp h
        exact ⟨_, _, sent, hmutate, .inl (hsame ▸ hsome)⟩
      next =>
        obtain ⟨reply, w₂, hupdate, h⟩ := completes_request.mp h
        cases hupdate with
        | @update _ _ old =>
          obtain ⟨rfl, -⟩ := completes_return.mp h
          exact ⟨_, _, sent, hmutate, .inr ⟨some old, ObjectWorld.objects_store_self⟩⟩
        | lost | conflict | updateFailed => simp at h

end Upsert

end Foundation
