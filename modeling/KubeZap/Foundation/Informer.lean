import KubeZap.Foundation.Run
import Mathlib.Data.List.Nodup

/-! # Watched collections and informers

A collection of objects changes by creations, updates and deletions. An informer has
followed its log up to a position and knows the objects of that moment; it notifies its
handler of what it learns, from the log or from a list of the present objects. The
results say that what an informer notifies of is accounted for by the part of the log
that it had not seen.
-/

namespace Foundation

/-- What identifies an object: its key among the present ones, the identity that no
other object ever has, and the version that every update changes. -/
structure Meta (O K U V : Type) where
  key : O → K
  uid : O → U
  version : O → V

inductive Change (O : Type)
  | created (o : O)
  | updated (o : O)
  | deleted (o : O)

inductive Notification (O : Type)
  | add (o : O)
  | update (old new : O)
  | delete (o : O)

section Collection

variable {O K U V : Type} (ids : Meta O K U V)

section Counts

variable [DecidableEq U]

variable (u : U)

def births (log : List (Change O)) : Nat :=
  log.countP fun
    | .created o => ids.uid o = u
    | .updated _ | .deleted _ => false

def changes (log : List (Change O)) : Nat :=
  log.countP fun
    | .updated o => ids.uid o = u
    | .created _ | .deleted _ => false

@[simp] theorem births_append (log log' : List (Change O)) :
    births ids u (log ++ log') = births ids u log + births ids u log' := List.countP_append

@[simp] theorem changes_append (log log' : List (Change O)) :
    changes ids u (log ++ log') = changes ids u log + changes ids u log' := List.countP_append

@[simp] theorem births_created (o : O) :
    births ids u [.created o] = if ids.uid o = u then 1 else 0 := by
  simp [births, List.countP_singleton]

@[simp] theorem births_updated (o : O) : births ids u [.updated o] = 0 := rfl

@[simp] theorem births_deleted (o : O) : births ids u [.deleted o] = 0 := rfl

@[simp] theorem changes_updated (o : O) :
    changes ids u [.updated o] = if ids.uid o = u then 1 else 0 := by
  simp [changes, List.countP_singleton]

@[simp] theorem changes_created (o : O) : changes ids u [.created o] = 0 := rfl

@[simp] theorem changes_deleted (o : O) : changes ids u [.deleted o] = 0 := rfl

end Counts

variable [DecidableEq K]

def applyChange (objects : List O) : Change O → List O
  | .created o => objects ++ [o]
  | .updated o => objects.map fun x => if ids.key x = ids.key o then o else x
  | .deleted o => objects.filter fun x => ids.key x ≠ ids.key o

def objectsAt (log : List (Change O)) : List O := log.foldl (applyChange ids) []

@[simp] theorem objectsAt_snoc (log : List (Change O)) (c : Change O) :
    objectsAt ids (log ++ [c]) = applyChange ids (objectsAt ids log) c := by
  simp [objectsAt]

variable [DecidableEq U]

/-- A creation has a key that is free and an identity of its own; an update is one of a
present object, whose version it changes; what is deleted is present. -/
def Legal (log : List (Change O)) : Change O → Prop
  | .created o => (∀ x ∈ objectsAt ids log, ids.key x ≠ ids.key o) ∧ births ids (ids.uid o) log = 0
  | .updated o => ∃ x ∈ objectsAt ids log,
      ids.key x = ids.key o ∧ ids.uid x = ids.uid o ∧ ids.version x ≠ ids.version o
  | .deleted o => o ∈ objectsAt ids log

abbrev History (log : List (Change O)) : Prop := Guarded (Legal ids) log

variable {ids}
variable {log : List (Change O)} {x : O}

theorem History.births_le_one (h : History ids log) (u : U) : births ids u log ≤ 1 := by
  induction log using List.reverseRecOn with
  | nil => simp [births]
  | append_singleton log c ih =>
    have hold := ih h.front
    have hc := h.last
    rw [births_append]
    cases c with
    | created o =>
      by_cases hu : ids.uid o = u
      · have hfresh := hc.2
        rw [hu] at hfresh
        simp [hfresh, hu]
      · simpa [hu] using hold
    | updated o | deleted o => simpa using hold

theorem History.born (h : History ids log) (hx : x ∈ objectsAt ids log) :
    1 ≤ births ids (ids.uid x) log := by
  induction log using List.reverseRecOn generalizing x with
  | nil => simp [objectsAt] at hx
  | append_singleton log c ih =>
    have hc := h.last
    rw [objectsAt_snoc] at hx
    rw [births_append]
    cases c with
    | created o =>
      rcases List.mem_append.mp hx with hx | hx
      · exact Nat.le_add_right_of_le (ih h.front hx)
      · simp [List.mem_singleton.mp hx]
    | updated o =>
      obtain ⟨old, hold, hkey, huid, -⟩ := hc
      obtain ⟨y, hy, rfl⟩ := List.mem_map.mp hx
      refine Nat.le_add_right_of_le ?_
      split
      · rw [← huid]
        exact ih h.front hold
      · exact ih h.front hy
    | deleted o => exact Nat.le_add_right_of_le (ih h.front (List.mem_filter.mp hx).1)

theorem History.nodup_map {I : Type} (f : O → I) (h : History ids log)
    (hcreated : ∀ front o, History ids front → Legal ids front (.created o) →
      ∀ x ∈ objectsAt ids front, f x ≠ f o)
    (hupdated : ∀ front o, History ids front → Legal ids front (.updated o) →
      ∀ x ∈ objectsAt ids front, ids.key x = ids.key o → f x = f o) :
    ((objectsAt ids log).map f).Nodup := by
  induction log using List.reverseRecOn with
  | nil => simp [objectsAt]
  | append_singleton log c ih =>
    have hold := ih h.front
    have hc := h.last
    rw [objectsAt_snoc]
    cases c with
    | created o =>
      have hfree : f o ∉ (objectsAt ids log).map f := by
        intro hmem
        obtain ⟨x, hx, heq⟩ := List.mem_map.mp hmem
        exact hcreated log o h.front hc x hx heq
      rw [applyChange, ← List.concat_eq_append, List.map_concat]
      exact hold.concat hfree
    | updated o =>
      have hsame : (applyChange ids (objectsAt ids log) (.updated o)).map f =
          (objectsAt ids log).map f := by
        rw [applyChange, List.map_map]
        refine List.map_congr_left ?_
        intro x hx
        simp only [Function.comp]
        split
        next hkey => exact (hupdated log o h.front hc x hx hkey).symm
        · rfl
      rwa [hsame]
    | deleted o => exact hold.sublist (List.filter_sublist.map f)

theorem History.eq_of_key (h : History ids log) {y : O} (hx : x ∈ objectsAt ids log)
    (hy : y ∈ objectsAt ids log) (hkey : ids.key x = ids.key y) : x = y :=
  List.inj_on_of_nodup_map (h.nodup_map ids.key (fun _ _ _ hc => hc.1)
    fun _ _ _ _ _ _ hkey => hkey) hx hy hkey

theorem History.nodup_uid (h : History ids log) : ((objectsAt ids log).map ids.uid).Nodup := by
  refine h.nodup_map ids.uid ?_ ?_
  · intro front o hfront hc x hx huid
    have hborn := hfront.born hx
    rw [huid, hc.2] at hborn
    exact absurd hborn (by decide)
  · rintro front o hfront ⟨old, hmem, hkey, huid, -⟩ x hx hxkey
    rw [hfront.eq_of_key hx hmem (hxkey.trans hkey.symm), huid]

theorem History.eq_of_uid (h : History ids log) {y : O} (hx : x ∈ objectsAt ids log)
    (hy : y ∈ objectsAt ids log) (huid : ids.uid x = ids.uid y) : x = y :=
  List.inj_on_of_nodup_map h.nodup_uid hx hy huid

theorem History.persists {before after : List (Change O)} (h : History ids (before ++ after))
    (hx : x ∈ objectsAt ids (before ++ after)) (hborn : births ids (ids.uid x) after = 0) :
    ∃ y ∈ objectsAt ids before, ids.key y = ids.key x ∧ ids.uid y = ids.uid x ∧
      (changes ids (ids.uid x) after = 0 → y = x) := by
  induction after using List.reverseRecOn generalizing x with
  | nil =>
    rw [List.append_nil] at hx
    exact ⟨x, hx, rfl, rfl, fun _ => rfl⟩
  | append_singleton after c ih =>
    rw [← List.append_assoc] at h hx
    rw [births_append, Nat.add_eq_zero_iff] at hborn
    rw [changes_append]
    rw [objectsAt_snoc] at hx
    have hc := h.last
    cases c with
    | created o =>
      rcases List.mem_append.mp hx with hx | hx
      · simpa using ih h.front hx hborn.1
      · simp [List.mem_singleton.mp hx] at hborn
    | updated o =>
      obtain ⟨old, hold, hkey, huid, -⟩ := hc
      obtain ⟨y, hy, rfl⟩ := List.mem_map.mp hx
      by_cases hykey : ids.key y = ids.key o
      · rw [if_pos hykey] at hborn ⊢
        rw [← huid] at hborn
        obtain ⟨z, hz, hzkey, hzuid, -⟩ := ih h.front hold hborn.1
        refine ⟨z, hz, hzkey.trans hkey, hzuid.trans huid, ?_⟩
        simp
      · rw [if_neg hykey] at hborn ⊢
        have hother : ids.uid o ≠ ids.uid y := by
          intro heq
          have hyold := History.eq_of_uid h.front hy hold (heq.symm.trans huid.symm)
          exact hykey (hyold ▸ hkey)
        simpa [hother] using ih h.front hy hborn.1
    | deleted o => simpa using ih h.front (List.mem_filter.mp hx).1 hborn.1

end Collection

/-! ## Notifications -/

section Informer

variable {O K U V : Type} [DecidableEq K] [DecidableEq U] (ids : Meta O K U V)

variable (cache : List O)

/-- What an informer makes of a present object, by what it knew under its key. -/
def notify (o : O) : Notification O :=
  match cache.find? fun x => ids.key x = ids.key o with
  | some old => .update old o
  | none => .add o

def Change.notification : Change O → Notification O
  | .created o | .updated o => notify ids cache o
  | .deleted o => .delete o

def relist (objects : List O) : List (Notification O) :=
  objects.map (notify ids cache) ++
    (cache.filter fun x => ∀ o ∈ objects, ids.key o ≠ ids.key x).map .delete

omit [DecidableEq U] in
theorem relist_nil (objects : List O) : relist ids [] objects = objects.map .add := by
  simp [relist, notify]

def resync : List (Notification O) := cache.map fun o => .update o o

/-- The notification is of the object `u` as one that is new. -/
def Notification.adds (u : U) : Notification O → Bool
  | .add o => ids.uid o = u
  | .update .. | .delete _ => false

/-- The notification is of the object `u` as one that was known. -/
def Notification.updates (u : U) : Notification O → Bool
  | .update _ new => ids.uid new = u
  | .add _ | .delete _ => false

variable {ids} {before after : List (Change O)} {u : U}

omit [DecidableEq U] in
theorem notify_cases (ids : Meta O K U V) (cache : List O) (o : O) :
    (notify ids cache o = .add o ∧ ∀ x ∈ cache, ids.key x ≠ ids.key o) ∨
      ∃ old ∈ cache, ids.key old = ids.key o ∧ notify ids cache o = .update old o := by
  cases hfind : cache.find? fun x => ids.key x = ids.key o with
  | none => exact .inl ⟨by simp [notify, hfind], by simpa using hfind⟩
  | some old =>
    refine .inr ⟨old, List.mem_of_find?_eq_some hfind, ?_, by simp [notify, hfind]⟩
    simpa using List.find?_some hfind

theorem History.countP_le (h : History ids before) (u : U) {p : O → Bool} {n : Nat}
    (honly : ∀ o ∈ objectsAt ids before, p o = true → ids.uid o = u ∧ 1 ≤ n) :
    (objectsAt ids before).countP p ≤ n := by
  have hone : (objectsAt ids before).countP p ≤ 1 := by
    calc (objectsAt ids before).countP p
        ≤ (objectsAt ids before).countP fun o => ids.uid o = u :=
          List.countP_mono_left fun o ho hp => by simp [(honly o ho hp).1]
      _ = ((objectsAt ids before).map ids.uid).count u := by
          rw [List.count, List.countP_map]
          rfl
      _ ≤ 1 := List.nodup_iff_count_le_one.mp h.nodup_uid u
  by_cases hpos : 0 < (objectsAt ids before).countP p
  · obtain ⟨o, ho, hp⟩ := List.countP_pos_iff.mp hpos
    exact Nat.le_trans hone (honly o ho hp).2
  · omega

theorem History.watched {c : Change O} (h : History ids (before ++ [c])) :
    [c.notification ids (objectsAt ids before)].countP (·.adds ids u) ≤ births ids u [c] ∧
      [c.notification ids (objectsAt ids before)].countP (·.updates ids u) ≤
        changes ids u [c] := by
  have hc := h.last
  cases c with
  | created o =>
    rcases notify_cases ids (objectsAt ids before) o with ⟨hn, -⟩ | ⟨old, hold, hkey, -⟩
    · simp [Change.notification, hn, Notification.adds, Notification.updates, List.countP_singleton]
    · exact absurd hkey (hc.1 old hold)
  | updated o =>
    obtain ⟨x, hx, hkey, -⟩ := hc
    rcases notify_cases ids (objectsAt ids before) o with ⟨-, hnone⟩ | ⟨old, -, -, hn⟩
    · exact absurd hkey (hnone x hx)
    · simp [Change.notification, hn, Notification.adds, Notification.updates, List.countP_singleton]
  | deleted o => simp [Change.notification, Notification.adds, Notification.updates]

theorem History.relisted_adds {log : List (Change O)} (h : History ids log)
    (hlog : log = before ++ after) :
    (relist ids (objectsAt ids before) (objectsAt ids log)).countP (·.adds ids u) ≤
      births ids u after := by
  subst hlog
  have hdeleted : ∀ gone : List O, (gone.map Notification.delete).countP (·.adds ids u) = 0 := by
    simp [Notification.adds]
  rw [relist, List.countP_append, hdeleted, Nat.add_zero, List.countP_map]
  refine h.countP_le u ?_
  intro o ho hadds
  rcases notify_cases ids (objectsAt ids before) o with ⟨hn, hnone⟩ | ⟨old, -, -, hn⟩
  · have huid : ids.uid o = u := by simpa [hn, Notification.adds] using hadds
    refine ⟨huid, Nat.one_le_iff_ne_zero.mpr ?_⟩
    intro hborn
    rw [← huid] at hborn
    obtain ⟨y, hy, hkey, -⟩ := h.persists ho hborn
    exact hnone y hy hkey
  · simp [hn, Notification.adds] at hadds

theorem History.relisted_updates {log : List (Change O)} (h : History ids log)
    (hlog : log = before ++ after) {p : Notification O → Bool}
    (hreal : ∀ old ∈ objectsAt ids before, ∀ new ∈ objectsAt ids log,
      ids.key old = ids.key new → p (.update old new) = true →
      ids.uid old = ids.uid new ∧ ids.version old ≠ ids.version new) :
    (relist ids (objectsAt ids before) (objectsAt ids log)).countP
      (fun n => n.updates ids u && p n) ≤ changes ids u after := by
  subst hlog
  have hdeleted : ∀ gone : List O,
      (gone.map Notification.delete).countP (fun n => n.updates ids u && p n) = 0 := by
    simp [Notification.updates]
  have hbefore : History ids before := fun pre c hpre => h pre c (hpre.trans (by simp))
  rw [relist, List.countP_append, hdeleted, Nat.add_zero, List.countP_map]
  refine h.countP_le u ?_
  intro o ho hupdates
  rcases notify_cases ids (objectsAt ids before) o with ⟨hn, -⟩ | ⟨old, hold, hkey, hn⟩
  · simp [hn, Notification.updates] at hupdates
  · simp only [Function.comp, hn, Notification.updates, Bool.and_eq_true, decide_eq_true_eq]
      at hupdates
    obtain ⟨huid, hversion⟩ := hreal old hold o ho hkey hupdates.2
    refine ⟨hupdates.1, Nat.one_le_iff_ne_zero.mpr ?_⟩
    intro hunchanged
    -- The object was there before, so it was not created since.
    have hborn : births ids (ids.uid o) after = 0 := by
      have hone := h.births_le_one (ids.uid o)
      have hold' := History.born hbefore hold
      rw [births_append] at hone
      rw [huid] at hold'
      omega
    obtain ⟨y, hy, -, hyuid, hsame⟩ := h.persists ho hborn
    obtain rfl := History.eq_of_uid hbefore hold hy (huid.trans hyuid.symm)
    rw [← hupdates.1] at hunchanged
    exact hversion (by rw [hsame hunchanged])

end Informer

end Foundation
