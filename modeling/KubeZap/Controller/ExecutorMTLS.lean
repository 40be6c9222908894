import KubeZap.Certs.CertUtil
import KubeZap.Controller.ExecuteStep
import KubeZap.Foundation.Run

/-! # The channel to the http-executor

With `--executor-mtls` the controller is a CA for its own channel to the executors:
`main` makes a bundle and replaces it before it expires, `ExecutorReconciler` writes the
server's part to a Secret in each namespace, and `callExecutor` connects with a client
that it makes on its first call and keeps. The certificate has the names of the executor
in the operator's own namespace only.
-/

namespace KubeZap

open Foundation Function

/-! ## Addresses -/

def executorURL (r : FlowRunReconciler) (namespace_ : String) : String :=
  let scheme := if r.executorTLS then "https" else "http"
  let baseURL :=
    if r.executorBaseURL = "" then scheme ++ "://kubezap-http-executor.%s.svc.cluster.local:8091"
    else r.executorBaseURL
  r.lib.replaceAll baseURL "%s" namespace_ ++ "/execute"

def afterScheme : List Char → List Char
  | ':' :: '/' :: '/' :: rest => rest
  | _ :: rest => afterScheme rest
  | [] => []

def urlHost (url : String) : String :=
  String.ofList ((afterScheme url.toList).takeWhile fun c => c ≠ ':' ∧ c ≠ '/')

/-- The names that `main` passes for the server certificate. -/
def executorSANs (operatorNamespace : String) : List String :=
  ["kubezap-http-executor." ++ operatorNamespace ++ ".svc.cluster.local",
    "kubezap-http-executor." ++ operatorNamespace ++ ".svc"]

/-! ## The default address -/

def defaultExecutorRPCBaseURL : String := "http://kubezap-http-executor.%s.svc.cluster.local:8091"

/-- The base URL that `main` passes on when mTLS is enabled: the flag, with the port of
`--executor-port` where only that one was changed. -/
def rpcBaseURL (lib : GoLib) (executorRPCBaseURL : String) (executorPort : Int) : String :=
  let rpcBaseURL :=
    if executorRPCBaseURL = defaultExecutorRPCBaseURL ∧ executorPort ≠ 8091 then
      "http://kubezap-http-executor.%s.svc.cluster.local:" ++ toString executorPort
    else executorRPCBaseURL
  lib.replaceAll rpcBaseURL "http://" "https://"

/-- The reconciler as `main` makes it without flags for the executor's address. -/
def defaultExecutorReconciler : FlowRunReconciler where
  lib := replacingLib
  executorBaseURL := rpcBaseURL replacingLib defaultExecutorRPCBaseURL 8091
  executorTLS := true

theorem defaultExecutorReconciler_baseURL :
    defaultExecutorReconciler.executorBaseURL =
      "https://kubezap-http-executor.%s.svc.cluster.local:8091" := by
  decide +kernel

theorem default_executorHost {namespace_ : String}
    (hname : ∀ c ∈ namespace_.toList, c ≠ ':' ∧ c ≠ '/') :
    urlHost (executorURL defaultExecutorReconciler namespace_) =
      "kubezap-http-executor." ++ namespace_ ++ ".svc.cluster.local" := by
  have hurl : executorURL defaultExecutorReconciler namespace_ =
      String.ofList ("https://kubezap-http-executor.".toList ++
        (namespace_.toList ++ ".svc.cluster.local:8091".toList)) ++ "/execute" := by
    have hreplace : replaceAllFrom "%s".toList namespace_.toList 0
        "https://kubezap-http-executor.%s.svc.cluster.local:8091".toList =
        "https://kubezap-http-executor.".toList ++
          (namespace_.toList ++ ".svc.cluster.local:8091".toList) := rfl
    simp only [executorURL, defaultExecutorReconciler_baseURL]
    rw [if_neg (by decide), ← hreplace]
    rfl
  have hscheme (rest : List Char) : afterScheme ("https://kubezap-http-executor.".toList ++ rest) =
      "kubezap-http-executor.".toList ++ rest := rfl
  have hhost : ∀ c ∈ "kubezap-http-executor.".toList ++
      (namespace_.toList ++ ".svc.cluster.local".toList), c ≠ ':' ∧ c ≠ '/' := by
    intro c hc
    simp only [List.mem_append] at hc
    rcases hc with hc | hc | hc
    · revert c
      simp
    · exact hname c hc
    · revert c
      simp
  have hsplit : "kubezap-http-executor.".toList ++ (namespace_.toList ++
      ".svc.cluster.local:8091".toList ++ "/execute".toList) =
      ("kubezap-http-executor.".toList ++ (namespace_.toList ++ ".svc.cluster.local".toList)) ++
        ":8091/execute".toList := by
    simp only [List.append_assoc]
    rfl
  rw [urlHost, hurl, String.toList_append, String.toList_ofList, List.append_assoc, hscheme, hsplit,
    List.takeWhile_append_of_pos (by simpa using hhost)]
  apply String.toList_injective
  simp

theorem default_executorHost_covered {operatorNamespace namespace_ : String}
    (hname : ∀ c ∈ namespace_.toList, c ≠ ':' ∧ c ≠ '/') :
    urlHost (executorURL defaultExecutorReconciler namespace_) ∈ executorSANs operatorNamespace ↔
      namespace_ = operatorNamespace := by
  rw [default_executorHost hname]
  constructor
  · intro hmem
    rcases List.mem_cons.mp hmem with heq | hmem
    · have hlist := congrArg String.toList heq
      simp only [String.toList_append, List.append_assoc, List.append_cancel_left_eq] at hlist
      exact String.toList_injective (List.append_cancel_right hlist)
    · -- The short name ends in another letter.
      have hlast := congrArg (fun host : String => host.toList.getLast?) (List.mem_singleton.mp hmem)
      simp only [String.toList_append] at hlast
      rw [List.getLast?_append_of_ne_nil _ (by decide), List.getLast?_append_of_ne_nil _ (by decide)]
        at hlast
      exact absurd hlast (by decide)
  · rintro rfl
    exact List.mem_cons_self

/-! ## The four parties -/

/-- The data of the Secret `kubezap-executor-mtls-cert`, behind its PEM encoding. -/
structure ExecutorCertSecret where
  tlsCrt : Cert
  tlsKey : KeyId
  caCrt : Cert

def executorCertSecret (b : MTLSBundle) : ExecutorCertSecret :=
  ⟨b.serverCert.leaf, b.serverCert.privateKey, b.caCert⟩

/-- The fields of the two reconcilers, and the Secrets by namespace. -/
structure ExecutorChannel where
  mtlsBundle : MTLSBundle
  executorTLSConfig : ClientTLSConfig
  /-- Made on the first call, through `executorMTLSClientOnce`. -/
  executorMTLSClient : Option ClientTLSConfig
  secrets : String → Option ExecutorCertSecret

inductive ExecutorEvent
  | rotate
  | reconcile (namespace_ : String)
  | call (namespace_ : String)
deriving DecidableEq

namespace ExecutorChannel

def client (s : ExecutorChannel) : ClientTLSConfig :=
  s.executorMTLSClient.getD s.executorTLSConfig

/-- `main` has made the first bundle. The Secrets are those of an earlier process, or none. -/
def Started (operatorNamespace : String) (s : ExecutorChannel) : Prop :=
  (∃ keys now, generateMTLSBundle (executorSANs operatorNamespace) keys now = .ok s.mtlsBundle) ∧
    s.executorTLSConfig = s.mtlsBundle.clientTLSConfig ∧ s.executorMTLSClient = none

/-- `rotate` is a tick of the rotation goroutine that finds the bundle due, `reconcile` a
`reconcileExecutorCertSecret` that succeeds. -/
inductive Step (operatorNamespace : String) (s : ExecutorChannel) :
    ExecutorEvent → ExecutorChannel → Prop
  | rotate {keys : BundleKeys} {now : Time} {newBundle : MTLSBundle} :
      s.mtlsBundle.needsRotation now →
      generateMTLSBundle (executorSANs operatorNamespace) keys now = .ok newBundle →
      Step operatorNamespace s .rotate
        { s with mtlsBundle := newBundle, executorTLSConfig := newBundle.clientTLSConfig }
  | reconcile (namespace_ : String) :
      Step operatorNamespace s (.reconcile namespace_)
        { s with
          secrets := update s.secrets namespace_ (some (executorCertSecret s.mtlsBundle)) }
  | call (namespace_ : String) :
      Step operatorNamespace s (.call namespace_) { s with executorMTLSClient := some s.client }

end ExecutorChannel

/-- The Secret of the namespace was written after the last rotation. -/
def RewrittenSince (namespace_ : String) (events : List ExecutorEvent) : Prop :=
  ∃ earlier later, events = earlier ++ .reconcile namespace_ :: later ∧ .rotate ∉ later

def SteadySinceCall (events : List ExecutorEvent) : Prop :=
  ∀ earlier namespace_ later, events = earlier ++ .call namespace_ :: later → .rotate ∉ later

theorem SteadySinceCall.front {events : List ExecutorEvent} {event : ExecutorEvent}
    (h : SteadySinceCall (events ++ [event])) : SteadySinceCall events := by
  rintro earlier namespace_ later rfl hmem
  exact h earlier namespace_ (later ++ [event]) (by simp) (List.mem_append_left _ hmem)

theorem SteadySinceCall.nil : SteadySinceCall [] := by
  intro earlier namespace_ later heq
  simp at heq

theorem SteadySinceCall.snoc {events : List ExecutorEvent} {event : ExecutorEvent}
    (h : SteadySinceCall events)
    (hevent : event = .rotate → ∀ namespace_, .call namespace_ ∉ events) :
    SteadySinceCall (events ++ [event]) := by
  intro earlier namespace_ later heq hmem
  rcases List.eq_nil_or_concat later with rfl | ⟨later, last, rfl⟩
  · cases hmem
  · rw [List.concat_eq_append, ← List.cons_append, ← List.append_assoc] at heq
    obtain ⟨rfl, hlast⟩ := List.append_inj' heq rfl
    cases hlast
    rw [List.concat_eq_append] at hmem
    rcases List.mem_append.mp hmem with hmem | hmem
    · exact h earlier namespace_ later rfl hmem
    · exact hevent (List.mem_singleton.mp hmem).symm namespace_ (by simp)

theorem SteadySinceCall.not_called {events : List ExecutorEvent}
    (h : SteadySinceCall (events ++ [.rotate])) (namespace_ : String) :
    .call namespace_ ∉ events := by
  intro hmem
  obtain ⟨earlier, later, rfl⟩ := List.append_of_mem hmem
  exact h earlier namespace_ (later ++ [.rotate]) (by simp) (by simp)

namespace ExecutorChannel

variable {operatorNamespace : String} {s s' : ExecutorChannel} {events : List ExecutorEvent}

/-! ## Invariants -/

theorem bundle_serves (hstart : Started operatorNamespace s)
    (hrun : Run (Step operatorNamespace) s events s') :
    s'.mtlsBundle.Serves (executorSANs operatorNamespace) := by
  have hgenerated : ∃ keys now,
      generateMTLSBundle (executorSANs operatorNamespace) keys now = .ok s'.mtlsBundle := by
    apply hrun.always fun s =>
      ∃ keys now, generateMTLSBundle (executorSANs operatorNamespace) keys now = .ok s.mtlsBundle
    · exact hstart.1
    · intro s event s' hbundle hstep
      cases hstep with
      | rotate _ hnew => exact ⟨_, _, hnew⟩
      | reconcile | call => exact hbundle
  obtain ⟨keys, now, hbundle⟩ := hgenerated
  obtain ⟨b, hb, hserves, -⟩ := generateMTLSBundle_spec (executorSANs operatorNamespace) keys now
  cases Except.ok.inj (hb.symm.trans hbundle)
  exact hserves

theorem secret_current {namespace_ : String} (hrun : Run (Step operatorNamespace) s events s')
    (hwritten : RewrittenSince namespace_ events) :
    s'.secrets namespace_ = some (executorCertSecret s'.mtlsBundle) := by
  obtain ⟨earlier, later, rfl, hlater⟩ := hwritten
  obtain ⟨mid, mid', -, hwrite, hrest⟩ := Run.split_iff.mp hrun
  apply hrest.always_mem fun s => s.secrets namespace_ = some (executorCertSecret s.mtlsBundle)
  · cases hwrite
    exact update_self ..
  · intro s event s' hmem hsecret hstep
    cases hstep with
    | rotate => exact absurd hmem hlater
    | call => exact hsecret
    | reconcile other =>
      by_cases hns : namespace_ = other
      · subst hns
        exact update_self ..
      · exact (update_of_ne hns ..).trans hsecret

theorem client_current (hstart : Started operatorNamespace s)
    (hrun : Run (Step operatorNamespace) s events s') (hsteady : SteadySinceCall events) :
    s'.client = s'.mtlsBundle.clientTLSConfig := by
  have hinv : ((∀ namespace_, .call namespace_ ∉ events) → s'.executorMTLSClient = none) ∧
      (SteadySinceCall events → s'.client = s'.mtlsBundle.clientTLSConfig) := by
    induction hrun with
    | nil =>
      obtain ⟨-, hconfig, hnone⟩ := hstart
      refine ⟨fun _ => hnone, fun _ => ?_⟩
      rw [client, hnone, Option.getD_none, hconfig]
    | @snoc before event mid last _ hstep ih =>
      have hnone (h : ∀ namespace_, .call namespace_ ∉ before) : mid.executorMTLSClient = none :=
        (ih hsteady.front).1 h
      cases hstep with
      | rotate _ hnew =>
        refine ⟨fun h => hnone fun ns hmem => h ns (List.mem_append_left _ hmem), fun h => ?_⟩
        have hunused : mid.executorMTLSClient = none := hnone h.not_called
        simp only [client, hunused, Option.getD_none]
      | reconcile ns =>
        exact ⟨fun h => hnone fun ns hmem => h ns (List.mem_append_left _ hmem),
          fun h => (ih hsteady.front).2 h.front⟩
      | call ns =>
        exact ⟨fun h => absurd (by simp) (h ns), fun h => (ih hsteady.front).2 h.front⟩
  exact hinv.2 hsteady

/-- A call verifies the executor that serves the current Secret, where the host that is dialled
is one of the operator's own namespace and the bundle has not been rotated since the first call. -/
theorem executor_verified {r : FlowRunReconciler} {namespace_ : String}
    (hstart : Started operatorNamespace s) (hrun : Run (Step operatorNamespace) s events s')
    (hwritten : RewrittenSince namespace_ events) (hsteady : SteadySinceCall events)
    (hhost : urlHost (executorURL r namespace_) ∈ executorSANs operatorNamespace) :
    s'.mtlsBundle.caCert ∈ s'.client.rootCAs ∧
      ∃ secret, s'.secrets namespace_ = some secret ∧
        secret.tlsCrt.IssuedBy s'.mtlsBundle.caCert ∧
        urlHost (executorURL r namespace_) ∈ secret.tlsCrt.dnsNames ∧
        ∀ now, s'.mtlsBundle.caCert.CurrentAt now →
          secret.tlsCrt.Verifies s'.client.rootCAs (urlHost (executorURL r namespace_)) now := by
  have hroot : s'.mtlsBundle.caCert ∈ s'.client.rootCAs := by
    rw [client_current hstart hrun hsteady]
    exact List.mem_singleton_self _
  have hserves := bundle_serves hstart hrun
  refine ⟨hroot, _, secret_current hrun hwritten, hserves.issued, ?_, ?_⟩
  · rw [executorCertSecret, hserves.names]
    exact hhost
  · intro now hcurrent
    exact hserves.verifies hroot hhost hcurrent

/-! ## An operator in the namespace `kubezap` -/

theorem exists_started (secrets : String → Option ExecutorCertSecret) :
    ∃ s, Started "kubezap" s ∧ s.secrets = secrets ∧ s.mtlsBundle.caCert.publicKey = 1 ∧
      s.mtlsBundle.needsRotation (24 * hour) = true := by
  obtain ⟨b, hb, -, hkey, hexpires⟩ := generateMTLSBundle_spec (executorSANs "kubezap") ⟨1, 2, 3⟩ 0
  refine ⟨⟨b, b.clientTLSConfig, none, secrets⟩, ⟨⟨_, _, hb⟩, rfl, rfl⟩, rfl, hkey, ?_⟩
  rw [MTLSBundle.needsRotation, hexpires]
  decide

theorem exists_rotated {s : ExecutorChannel} (hdue : s.mtlsBundle.needsRotation (24 * hour)) :
    ∃ newBundle, newBundle.caCert.publicKey = 4 ∧ Step "kubezap" s .rotate
      { s with mtlsBundle := newBundle, executorTLSConfig := newBundle.clientTLSConfig } := by
  obtain ⟨b, hb, -, hkey, -⟩ :=
    generateMTLSBundle_spec (executorSANs "kubezap") ⟨4, 5, 6⟩ (24 * hour)
  exact ⟨b, hkey, .rotate hdue hb⟩

/-- The bundle is rotated before the first call, and the executor of the operator's namespace is
called twice. -/
theorem executor_verified_own_namespace :
    ∃ s s', Started "kubezap" s ∧
      Run (Step "kubezap") s [.rotate, .reconcile "kubezap", .call "kubezap"] s' ∧
      s'.mtlsBundle.caCert ∈ s'.client.rootCAs ∧
      ∃ secret, s'.secrets "kubezap" = some secret ∧
        secret.tlsCrt.IssuedBy s'.mtlsBundle.caCert ∧
        urlHost (executorURL defaultExecutorReconciler "kubezap") ∈ secret.tlsCrt.dnsNames ∧
        ∀ now, s'.mtlsBundle.caCert.CurrentAt now →
          secret.tlsCrt.Verifies s'.client.rootCAs
            (urlHost (executorURL defaultExecutorReconciler "kubezap")) now := by
  obtain ⟨s, hstart, -, -, hdue⟩ := exists_started fun _ => none
  obtain ⟨newBundle, -, hrotate⟩ := exists_rotated hdue
  have hrun : Run (Step "kubezap") s [.rotate, .reconcile "kubezap", .call "kubezap"] _ :=
    .snoc (.snoc (.snoc .nil hrotate) (.reconcile "kubezap")) (.call "kubezap")
  have hwritten : RewrittenSince "kubezap" [.rotate, .reconcile "kubezap", .call "kubezap"] :=
    ⟨[.rotate], [.call "kubezap"], rfl, by decide⟩
  have hsteady : SteadySinceCall [.rotate, .reconcile "kubezap", .call "kubezap"] :=
    (@SteadySinceCall.snoc [.rotate] (.reconcile "kubezap") (SteadySinceCall.nil.snoc (by simp))
      (by simp)).snoc (by simp)
  exact ⟨s, _, hstart, hrun, executor_verified hstart hrun hwritten hsteady
    ((default_executorHost_covered (by simp)).mpr rfl)⟩

/-- After a rotation that follows a call, the client still has the roots of the first bundle;
and the executor of another namespace is dialled under a name its certificate does not have. -/
theorem executor_not_verified :
    (∃ s s', Started "kubezap" s ∧
      Run (Step "kubezap") s [.call "kubezap", .rotate, .reconcile "kubezap"] s' ∧
      RewrittenSince "kubezap" [.call "kubezap", .rotate, .reconcile "kubezap"] ∧
      s'.mtlsBundle.caCert ∉ s'.client.rootCAs) ∧
    ∃ s s', Started "kubezap" s ∧ Run (Step "kubezap") s [.reconcile "team"] s' ∧
      RewrittenSince "team" [.reconcile "team"] ∧
      ∃ secret, s'.secrets "team" = some secret ∧
        urlHost (executorURL defaultExecutorReconciler "team") ∉ secret.tlsCrt.dnsNames := by
  obtain ⟨s, hstart, -, hkey, hdue⟩ := exists_started fun _ => none
  constructor
  · obtain ⟨newBundle, hnewKey, hrotate⟩ :=
      @exists_rotated { s with executorMTLSClient := some s.client } hdue
    refine ⟨s, _, hstart, .snoc (.snoc (.snoc .nil (.call "kubezap")) hrotate)
      (.reconcile "kubezap"), ⟨[.call "kubezap", .rotate], [], rfl, by simp⟩, ?_⟩
    have hclient : s.client = s.mtlsBundle.clientTLSConfig := by
      rw [client, hstart.2.2, Option.getD_none, hstart.2.1]
    intro hmem
    have hmem : newBundle.caCert ∈ s.client.rootCAs := hmem
    rw [hclient] at hmem
    rw [List.mem_singleton.mp hmem, hkey] at hnewKey
    cases hnewKey
  · have hrun : Run (Step "kubezap") s [.reconcile "team"] _ := .snoc .nil (.reconcile "team")
    have hwritten : RewrittenSince "team" [.reconcile "team"] := ⟨[], [], rfl, by simp⟩
    refine ⟨s, _, hstart, hrun, hwritten, _, secret_current hrun hwritten, ?_⟩
    rw [executorCertSecret, (bundle_serves hstart hrun).names,
      default_executorHost_covered (by simp)]
    decide

end ExecutorChannel

end KubeZap
