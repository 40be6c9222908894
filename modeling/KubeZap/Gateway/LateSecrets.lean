import KubeZap.Gateway.SubscriptionConfig

/-! # A Trigger, its Integration and its Secrets come into existence

The resolve functions return at the first Secret that cannot be read, and what they
return is what is indexed: a Secret that is missing when the Integration is read is
not in the index, and its creation reaches no Trigger. So a Trigger gets its
subscription when the last object to appear is the Trigger itself or its Integration;
when it is a Secret that is needed, there may be none at all.
-/

namespace KubeZap.Gateway

open Foundation Function

section Arrivals

variable {B : Broker}

/-- An object appears, and its event is handled to the end; connections succeed. -/
def Arrives (site : Site B) (change : Change) (site' : Site B) : Prop :=
  site'.cluster = site.cluster.apply change ∧
    Completes (Connected site'.cluster.sources) site.watcher (change.handle B) site'.watcher ()

structure Early (key : NamespacedName) (e : Entry B) (w : Watcher B) : Prop where
  coherent : w.Coherent
  entry : w.entry = update (fun _ => .absent B) key e
  idle : e.subscription = none

def Entry.waiting (trigger : Trigger) (watch : B.Watch) : Entry B :=
  ⟨some trigger, [], [B.integrationKey trigger watch], none⟩

theorem early_start (key : NamespacedName) : Early key (.absent B) (.start B) where
  coherent := Watcher.coherent_start B
  entry := (update_eq_self key (Watcher.start B).entry).symm
  idle := rfl

variable {L : Ledger B} {s : Sources} {w w' : Watcher B} {site site' : Site B} {trigger : Trigger}
  {watch : B.Watch} {key : NamespacedName} {e : Entry B}

theorem Early.self (h : Early key e w) : w.entry key = e := by
  rw [h.entry, update_self]

theorem Early.other (h : Early key e w) {k : NamespacedName} (hk : k ≠ key) :
    w.entry k = .absent B := by
  rw [h.entry, update_of_ne hk]

theorem Early.unindexed (h : Early key e w) {index : IndexName} (he : e.refs index = [])
    {ref : NamespacedName}
    (hrun : Completes (Connected s) w (handleChange B index ref) w' ()) : Early key e w' := by
  obtain ⟨affected, w₁, ⟨⟨hperm, rfl⟩, _⟩, hloop⟩ := completes_request.mp hrun
  have hnone : ∀ k, (w₁.index index).byObject k = [] := by
    intro k
    rw [← Watcher.refs_entry]
    by_cases hk : k = key
    · rw [hk, h.self, he]
    · rw [h.other hk]
      cases index <;> rfl
  have hempty : (w₁.index index).byKey ref = [] := by
    apply List.eq_nil_iff_forall_not_mem.mpr
    intro k hk
    have href := ((w₁.index index).coherent ref k).mp hk
    rw [hnone k] at href
    cases href
  rw [hempty] at hperm
  rw [hperm.eq_nil] at hloop
  rw [(completes_return.mp hloop).1]
  exact h

theorem Early.announced (L : Ledger B) (h : Early trigger.key (.absent B) w) (hwatch : B.watch trigger = some watch)
    {err : String} (hread : s (.getIntegration (B.integrationKey trigger watch)) = .error err)
    (hrun : Completes (Connected s) w (reconcileTrigger B trigger) w' ()) :
    Early trigger.key (.waiting trigger watch) w' := by
  obtain ⟨e, htouches, hturn⟩ := L.turned h.coherent hwatch hrun
  rw [h.self] at hturn
  refine ⟨htouches.coherent, ?_, rfl⟩
  rw [htouches.entry, h.entry, update_idem]
  cases hturn with
  | unread => rfl
  | missing hfound | resolved hfound => cases hread.symm.trans hfound

theorem expected_eq_some {config : B.Config}
    (hexpected : L.expected s trigger watch = some config) :
    ∃ integration spec creds,
      s (.getIntegration (B.integrationKey trigger watch)) = .ok integration ∧
      B.spec integration = some spec ∧
      ((B.resolveCredentials trigger.key.namespace_ spec).replay s).2 = (creds, none) ∧
      (L.build s trigger watch spec creds).toOption = some config := by
  unfold Ledger.expected at hexpected
  split at hexpected
  · cases hexpected
  · rename_i integration hread
    split at hexpected
    · cases hexpected
    · rename_i spec hspec
      split at hexpected
      · cases hexpected
      · rename_i creds hcreds
        exact ⟨integration, spec, creds, hread, hspec, hcreds, hexpected⟩

theorem admits_of_expected {config : B.Config} (hwatch : B.watch trigger = some watch)
    (hexpected : L.expected s trigger watch = some config) : L.Admits s trigger none where
  made _ h := by cases h
  notices _ _ _ h := by cases h
  readable watch' hwatch' := by
    cases hwatch.symm.trans hwatch'
    obtain ⟨integration, spec, creds, hread, hspec, hcreds, -⟩ := expected_eq_some hexpected
    refine ⟨integration, hread, fun spec' hspec' _ => ?_⟩
    cases hspec.symm.trans hspec'
    exact ⟨creds, hcreds⟩

theorem Ledger.Settled.running (h : L.Settled s trigger e) (hwatch : B.watch trigger = some watch)
    {config : B.Config} (hexpected : L.expected s trigger watch = some config) :
    e.subscription.map (·.config) = some config ∧
      ∃ integration spec, s (.getIntegration (B.integrationKey trigger watch)) = .ok integration ∧
        B.spec integration = some spec ∧ e.secrets = L.refs trigger.key.namespace_ spec := by
  obtain ⟨integration, spec, creds, hread, hspec, hcreds, hbuilt⟩ := expected_eq_some hexpected
  have hfits := h.fits watch integration hwatch hread
  simp only [hspec, Ledger.Fits, L.complete_of hcreds, if_true] at hfits
  exact ⟨(hfits.2 creds hcreds).trans hbuilt, integration, spec, hread, hspec, hfits.1⟩

theorem Early.settled (h : Early trigger.key (.waiting trigger watch) w)
    (hadmits : L.Admits s trigger none) (hrun : Completes (Connected s) w
      (handleIntegrationChange B (B.integrationKey trigger watch)) w' ()) :
    w'.Coherent ∧ L.Settled s trigger (w'.entry trigger.key) := by
  obtain ⟨affected, w₁, ⟨⟨hperm, rfl⟩, _⟩, hloop⟩ := completes_request.mp hrun
  have hindexed : ∀ k, k ∈ affected ↔ k = trigger.key := by
    intro k
    rw [hperm.mem_iff, (w₁.index .integrations).coherent]
    by_cases hk : k = trigger.key
    · subst hk
      have hrefs : (w₁.index .integrations).byObject trigger.key = [_] :=
        congrArg Entry.integrations h.self
      simp [hrefs]
    · have hrefs : (w₁.index .integrations).byObject k = [] :=
        congrArg Entry.integrations (h.other hk)
      simp [hrefs, hk]
  have hknown : w₁.triggers trigger.key = some trigger := congrArg Entry.trigger h.self
  have hidle : w₁.subscriptions trigger.key = none := congrArg Entry.subscription h.self
  obtain ⟨hcoherent, -, hsettled⟩ :=
    L.reprocessed (hperm.nodup_iff.mpr ((w₁.index .integrations).nodup _)) h.coherent
      (fun k hk => by
        obtain rfl := (hindexed k).mp hk
        exact ⟨trigger, hknown, rfl, hidle ▸ hadmits⟩) hloop
  exact ⟨hcoherent, hsettled trigger.key ((hindexed _).mpr rfl) trigger hknown⟩

end Arrivals

/-- For every broker, every enabled Trigger, its Integration and any Secrets, in every
order in which the Trigger or the Integration is the last to appear: the Trigger runs
with what is built from them, and is indexed under every Secret that it refers to. -/
theorem last_object_starts_subscription (lib : WatcherLib) (type : BrokerType) {trigger : Trigger}
    {watch : (type.broker lib).Watch} {integration : Integration}
    {secrets : List (NamespacedName × StringMap String)} {earlier : List Change} {last : Change}
    {site : Site (type.broker lib)} {config : (type.broker lib).Config}
    (hwatch : (type.broker lib).watch trigger = some watch)
    (hname : integration.name = (type.broker lib).integrationKey trigger watch)
    (horder : (earlier ++ [last]).Perm (.setTrigger trigger :: .setIntegration integration ::
      secrets.map fun secret => .setSecret secret.1 secret.2))
    (hlast : last = .setTrigger trigger ∨ last = .setIntegration integration)
    (hrun : Run Arrives (Site.start (type.broker lib)) (earlier ++ [last]) site)
    (hexpected : (type.ledger lib).expected site.cluster.sources trigger watch = some config) :
    site.watcher.Runs trigger.key config ∧
      ∃ i spec, site.cluster.integrations integration.name = some i ∧
        (type.broker lib).spec i = some spec ∧
        (site.watcher.index .secrets).byObject trigger.key =
          (type.ledger lib).refs trigger.key.namespace_ spec := by
  obtain ⟨mid, hearlier, hcluster, hhandled⟩ := hrun.of_snoc
  have hadmits := admits_of_expected hwatch hexpected
  have hend := (List.perm_append_singleton last earlier).symm.trans horder
  obtain ⟨hcoherent, hsettled⟩ : site.watcher.Coherent ∧ (type.ledger lib).Settled
      site.cluster.sources trigger (site.watcher.entry trigger.key) := by
    rcases hlast with rfl | rfl
    · -- no Trigger was there before
      have hearly : Early trigger.key (.absent _) mid.watcher := by
        refine hearlier.always_mem (Early trigger.key (.absent _) ·.watcher) (early_start _)
          fun s change s' hmem hs harrives => ?_
        rcases List.mem_cons.mp (hend.cons_inv.mem_iff.mp hmem) with rfl | hmem
        · exact hs.unindexed rfl harrives.2
        · obtain ⟨secret, -, rfl⟩ := List.mem_map.mp hmem
          exact hs.unindexed rfl harrives.2
      have hidle : mid.watcher.subscriptions trigger.key = none :=
        congrArg Entry.subscription hearly.self
      obtain ⟨hcoherent, -, hsettled⟩ := (type.ledger lib).reconciled hearly.coherent
        (hidle ▸ hadmits) hhandled
      exact ⟨hcoherent, hsettled⟩
    · -- the Trigger was there, its Integration was not
      have hrest := (hend.trans (List.Perm.swap ..)).cons_inv
      obtain ⟨before, after, rfl⟩ := List.append_of_mem (hrest.mem_iff.mpr List.mem_cons_self)
      have hsecrets := (List.perm_middle.symm.trans hrest).cons_inv
      obtain ⟨first, second, hbefore, ⟨hcluster₂, htrigger⟩, hafter⟩ := Run.split_iff.mp hearlier
      have hstart := hbefore.always_mem (fun s => Early trigger.key (.absent _) s.watcher ∧
        s.cluster.integrations = fun _ => none) ⟨early_start _, rfl⟩ (by
          intro s change s' hmem hs harrives
          obtain ⟨secret, -, rfl⟩ := List.mem_map.mp (hsecrets.mem_iff.mp
            (List.mem_append_left _ hmem))
          exact ⟨hs.1.unindexed rfl harrives.2, harrives.1 ▸ hs.2⟩)
      have hmissing : second.cluster.sources
          (.getIntegration ((type.broker lib).integrationKey trigger watch)) =
            .error "not found" := by
        rw [hcluster₂]
        simp [Cluster.sources, Cluster.apply, Cluster.setTrigger, hstart.2]
      have hwaiting : Early trigger.key (.waiting trigger watch) mid.watcher := by
        refine hafter.always_mem (Early trigger.key (.waiting trigger watch) ·.watcher)
          (hstart.1.announced (type.ledger lib) hwatch hmissing htrigger) fun s change s' hmem hs harrives => ?_
        obtain ⟨secret, -, rfl⟩ := List.mem_map.mp (hsecrets.mem_iff.mp
          (List.mem_append_right _ hmem))
        exact hs.unindexed rfl harrives.2
      exact hwaiting.settled hadmits (hname ▸ hhandled)
  obtain ⟨hconfig, i, spec, hread, hspec, hrefs⟩ := hsettled.running hwatch hexpected
  refine ⟨hcoherent.runs_iff.mpr hconfig, i, spec, ?_, hspec, hrefs⟩
  rw [hname]
  simp only [Cluster.sources] at hread
  split at hread
  · rename_i hi
    rw [hi, Except.ok.inj hread]
  · cases hread

def loginIntegration : Integration where
  name := ⟨"default", "broker"⟩
  type := .kafka
  kafka := some
    { bootstrapServers := ["kafka:9092"]
      sasl := some ⟨.plain, ⟨"login", "user"⟩, ⟨"login", "password"⟩⟩ }

def loginSecret : NamespacedName × StringMap String :=
  (⟨"default", "login"⟩, [("user", "kubezap"), ("password", "s3cret")])

def loginConfig : KafkaConfig :=
  { ordersConfig "orders" "intake" with sasl := some ⟨.plain, "kubezap", "s3cret"⟩ }

theorem ordersSite_run (changes : List Change) :
    Run Arrives (Site.start (kafkaBroker default)) changes (ordersSite changes) := by
  induction changes using List.reverseRecOn with
  | nil => exact .nil
  | append_singleton changes change ih =>
    rw [ordersSite, List.foldl_append]
    exact .snoc ih ⟨rfl, Site.handle_completes ..⟩

theorem login_before_integration :
    (ordersSite [.setTrigger (ordersTrigger "orders" "intake"),
      .setSecret loginSecret.1 loginSecret.2, .setIntegration loginIntegration]).watcher.Runs
        ordersKey loginConfig := by
  have hrun : Run Arrives (Site.start (BrokerType.kafka.broker default))
      ([.setTrigger (ordersTrigger "orders" "intake"), .setSecret loginSecret.1 loginSecret.2] ++
        [.setIntegration loginIntegration]) _ := ordersSite_run _
  have horder : ([.setTrigger (ordersTrigger "orders" "intake"),
      .setSecret loginSecret.1 loginSecret.2] ++ [.setIntegration loginIntegration] :
        List Change).Perm (.setTrigger (ordersTrigger "orders" "intake") ::
      .setIntegration loginIntegration :: [loginSecret].map fun e => .setSecret e.1 e.2) :=
    .cons _ (.swap ..)
  exact (last_object_starts_subscription default .kafka rfl rfl horder (.inr rfl) hrun rfl).1

/-- The Secret appears last: the Trigger is not indexed under it and nothing runs. -/
theorem login_after_integration :
    ∃ site : Site (kafkaBroker default),
      Run Arrives (Site.start _) [.setTrigger (ordersTrigger "orders" "intake"),
        .setIntegration loginIntegration, .setSecret loginSecret.1 loginSecret.2] site ∧
      (kafkaLedger default).expected site.cluster.sources (ordersTrigger "orders" "intake")
        ⟨"broker", "orders", "kubezap-orders"⟩ = some loginConfig ∧
      site.watcher.live = [] ∧ (site.watcher.index .secrets).byObject ordersKey = [] :=
  ⟨_, ordersSite_run _, rfl, rfl, rfl⟩

end KubeZap.Gateway
