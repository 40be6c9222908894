import KubeZap.Executor.Handler
import KubeZap.Foundation.Protocol
import KubeZap.Foundation.Run

/-! # What the executor dials

Whatever the name servers answer and wherever the upstreams redirect to, a connection is
dialled to an address that was checked for this very connection. The checks stand in the
list of calls that a request makes: a dial is preceded by the lookup whose answer it
uses, and that by the start of the connection. One form of host escapes them: an IPv6
literal whose zone ends like a name in the cluster.
-/

namespace KubeZap.Executor

open Foundation

/-! ## Addresses that pass the check -/

def Handler.blocked (h : Handler) : List IPNet := h.blockedCIDRs.getD defaultSSRFBlockedCIDRs

def Handler.Permits (h : Handler) (ip : IP) : Prop := ∀ cidr ∈ h.blocked, cidr.contains ip = false

theorem validateAddrs_ok {lib : Lib} {hostname : String} {cidrs : List IPNet}
    {addrs validated : List IP} :
    validateAddrs lib hostname cidrs addrs = .ok validated ↔
      validated = addrs ∧ ∀ ip ∈ addrs, isBlockedIP ip cidrs = none := by
  induction addrs generalizing validated with
  | nil => simp [validateAddrs, eq_comm]
  | cons ip rest ih =>
    rw [validateAddrs, List.forall_mem_cons]
    cases isBlockedIP ip cidrs with
    | some cidr => simp
    | none =>
      cases hrest : validateAddrs lib hostname cidrs rest with
      | error err =>
        have hblocked : ¬ ∀ ip ∈ rest, isBlockedIP ip cidrs = none := fun hclear => by
          cases hrest.symm.trans (ih.mpr ⟨rfl, hclear⟩)
        simp [Except.map, hblocked]
      | ok tail =>
        obtain ⟨rfl, hclear⟩ := ih.mp hrest
        simpa [Except.map, eq_comm] using fun _ => hclear

theorem validateLookup_ok {lib : Lib} {hostname : String} {cidrs : List IPNet}
    {answer : Except String (List IP)} {validated : List IP} :
    validateLookup lib hostname cidrs answer = .ok validated ↔
      answer = .ok validated ∧ validated ≠ [] ∧ ∀ ip ∈ validated, isBlockedIP ip cidrs = none := by
  cases answer with
  | error err => simp [validateLookup]
  | ok addrs =>
    rw [validateLookup]
    split
    next hnil =>
      obtain rfl := List.length_eq_zero_iff.mp hnil
      refine ⟨nofun, ?_⟩
      rintro ⟨⟨⟩, hne, -⟩
      exact absurd rfl hne
    next hne =>
      rw [validateAddrs_ok]
      constructor
      · rintro ⟨rfl, hclear⟩
        exact ⟨rfl, hne ∘ List.length_eq_zero_iff.mpr, hclear⟩
      · rintro ⟨⟨⟩, -, hclear⟩
        exact ⟨rfl, hclear⟩

/-! ## Calls before a dial -/

/-- What a handler has done before it dials `target`: a connection was asked for, and its host
is an address or was looked up once, with every address permitted; or it is a name in the
cluster, where that is allowed. -/
inductive Dialled (h : Handler) (before : List (Event Req.Reply)) (network target : String) : Prop
  | cluster {front : List (Event Req.Reply)} {host port : String} :
      before = front ++ [⟨.connect network target, ()⟩] →
      splitHostPort target = .ok (host, port) → isClusterInternal host →
      IP.parseZoned host = none → h.allowClusterInternal → Dialled h before network target
  | literal {front : List (Event Req.Reply)} {addr host port : String} {ip : IP} :
      before = front ++ [⟨.connect network addr, ()⟩] →
      splitHostPort addr = .ok (host, port) → isClusterInternal host = false →
      IP.parse host = some ip → h.Permits ip →
      target = joinHostPort ip.text port → Dialled h before network target
  | resolved {front : List (Event Req.Reply)} {addr host port : String} {addrs : List IP} {ip : IP} :
      before = front ++ [⟨.connect network addr, ()⟩, ⟨.lookupIPAddr host, .ok addrs⟩] →
      splitHostPort addr = .ok (host, port) → ip ∈ addrs → (∀ a ∈ addrs, h.Permits a) →
      target = joinHostPort ip.text port → Dialled h before network target

/-- The last call asks for a connection to an IPv6 literal whose zone makes it end like a name in
the cluster, as `::1%x.svc.cluster.local` does. -/
def AsksZoned (before : List (Event Req.Reply)) : Prop :=
  ∃ front network addr host port, before = front ++ [⟨.connect network addr, ()⟩] ∧
    splitHostPort addr = .ok (host, port) ∧ isClusterInternal host ∧ (IP.parseZoned host).isSome

theorem Dialled.not_asksZoned {h : Handler} {before : List (Event Req.Reply)}
    {network target : String} (hdial : Dialled h before network target) : ¬ AsksZoned before := by
  rintro ⟨front, network', addr', host', port', hasked, hsplit', hinternal', hzoned⟩
  cases hdial with
  | cluster hbefore hsplit hinternal hname hallow =>
    cases (List.append_inj' (hasked.symm.trans hbefore) rfl).2
    cases hsplit'.symm.trans hsplit
    rw [hname] at hzoned
    cases hzoned
  | literal hbefore hsplit hexternal =>
    cases (List.append_inj' (hasked.symm.trans hbefore) rfl).2
    cases hsplit'.symm.trans hsplit
    exact Bool.false_ne_true (hexternal.symm.trans hinternal')
  | resolved hbefore =>
    have hlast := hasked.symm.trans (hbefore.trans (List.append_cons _ _ _))
    cases (List.append_inj' hlast rfl).2

/-- A call may follow the calls before it: only dials are restricted. -/
def Admitted (h : Handler) (before : List (Event Req.Reply)) : Event Req.Reply → Prop
  | ⟨.rawDialContext network target, _⟩ =>
    Dialled h before network target ↔ ¬ AsksZoned before
  | _ => True

/-- The connection in the making, with the answer to its lookup. -/
inductive Stage
  | idle
  | asked (network addr : String)
  | resolved (network addr host : String) (addrs : List IP)

inductive Moves (h : Handler) : Protocol Stage Req.Reply
  | systemCertPool (x : Option String) : Moves h .idle .systemCertPool x .idle
  | connect (stage : Stage) (network addr : String) :
      Moves h stage (.connect network addr) () (.asked network addr)
  | lookup {network addr host : String} (addrs : List IP) :
      Moves h (.asked network addr) (.lookupIPAddr host) (.ok addrs)
        (.resolved network addr host addrs)
  | lookupFailed {network addr host : String} (err : String) :
      Moves h (.asked network addr) (.lookupIPAddr host) (.error err) .idle
  | cluster {network addr host port : String} (x : Except TransportError Unit) :
      splitHostPort addr = .ok (host, port) → isClusterInternal host → h.allowClusterInternal →
      Moves h (.asked network addr) (.rawDialContext network addr) x .idle
  | literal {network addr host port : String} {ip : IP} (x : Except TransportError Unit) :
      splitHostPort addr = .ok (host, port) → isClusterInternal host = false →
      IP.parse host = some ip → h.Permits ip →
      Moves h (.asked network addr) (.rawDialContext network (joinHostPort ip.text port)) x .idle
  | resolved {network addr host port : String} {addrs : List IP} {ip : IP}
      (x : Except TransportError Unit) : splitHostPort addr = .ok (host, port) → ip ∈ addrs →
      (∀ a ∈ addrs, h.Permits a) →
      Moves h (.resolved network addr host addrs)
        (.rawDialContext network (joinHostPort ip.text port)) x .idle

def Stage.Recorded (done : List (Event Req.Reply)) : Stage → Prop
  | .idle => True
  | .asked network addr => ∃ front, done = front ++ [⟨.connect network addr, ()⟩]
  | .resolved network addr host addrs =>
    ∃ front, done = front ++ [⟨.connect network addr, ()⟩, ⟨.lookupIPAddr host, .ok addrs⟩]

theorem Moves.admitted {h : Handler} {done : List (Event Req.Reply)} {stage stage' : Stage}
    {q : Req} {x : q.Reply} (hmove : Moves h stage q x stage') (hstage : stage.Recorded done) :
    Admitted h done ⟨q, x⟩ ∧ stage'.Recorded (done ++ [⟨q, x⟩]) := by
  cases hmove with
  | systemCertPool | lookupFailed => exact ⟨trivial, trivial⟩
  | connect stage network addr => exact ⟨trivial, done, rfl⟩
  | lookup addrs =>
    obtain ⟨front, rfl⟩ := hstage
    exact ⟨trivial, front, by simp⟩
  | cluster x hsplit hinternal hallow =>
    obtain ⟨front, hfront⟩ := hstage
    refine ⟨⟨Dialled.not_asksZoned, ?_⟩, trivial⟩
    intro hnot
    refine .cluster hfront hsplit hinternal (Option.not_isSome_iff_eq_none.mp ?_) hallow
    exact fun hzoned => hnot ⟨_, _, _, _, _, hfront, hsplit, hinternal, hzoned⟩
  | literal x hsplit hexternal hparse hpermits =>
    obtain ⟨front, hfront⟩ := hstage
    exact ⟨⟨Dialled.not_asksZoned, fun _ => .literal hfront hsplit hexternal hparse hpermits rfl⟩,
      trivial⟩
  | resolved x hsplit hmem hpermits =>
    obtain ⟨front, hfront⟩ := hstage
    exact ⟨⟨Dialled.not_asksZoned, fun _ => .resolved hfront hsplit hmem hpermits rfl⟩, trivial⟩

/-! ## The calls of a request -/

section Follow

variable {lib : Lib} {h : Handler}

def anyReply (q : Req) (_ : q.Reply) : Prop := True

theorem follows_resolveAndValidate (network addr host : String) :
    Follows (Moves h) anyReply
      (fun stage result => ∀ ips, result = .ok ips →
        (stage = .asked network addr ∧ ∃ ip, IP.parse host = some ip ∧ h.Permits ip ∧ ips = [ip]) ∨
        (stage = .resolved network addr host ips ∧ ∀ a ∈ ips, h.Permits a))
      (.asked network addr) (resolveAndValidate lib host h.blockedCIDRs) := by
  unfold resolveAndValidate
  split
  next ip hparse =>
    dsimp only
    split
    · exact nofun
    next hblocked =>
      rintro ips ⟨⟩
      exact .inl ⟨rfl, ip, hparse, isBlockedIP_eq_none.mp hblocked, rfl⟩
  · intro x _
    cases x with
    | error err => exact ⟨.idle, .lookupFailed err, nofun⟩
    | ok addrs =>
      refine ⟨_, .lookup addrs, ?_⟩
      intro ips hips
      obtain ⟨haddrs, -, hclear⟩ := validateLookup_ok.mp hips
      cases haddrs
      exact .inr ⟨rfl, fun a ha => isBlockedIP_eq_none.mp (hclear a ha)⟩

theorem follows_dialContext (network addr : String) :
    Follows (Moves h) anyReply (fun _ _ => True) (.asked network addr)
      (dialContext lib h network addr) := by
  unfold dialContext
  split
  · trivial
  next host port hsplit =>
    split
    next hinternal =>
      split
      next hallow => exact fun x _ => ⟨.idle, .cluster x hsplit hinternal hallow, trivial⟩
      · trivial
    next hexternal =>
      refine (follows_resolveAndValidate network addr host).bind ?_
      intro stage result hresult
      cases result with
      | error err => trivial
      | ok ips =>
        cases ips with
        | nil => trivial
        | cons ip rest =>
          rcases hresult _ rfl with ⟨rfl, ip', hparse, hpermits, hips⟩ | ⟨rfl, hpermits⟩
          · cases hips
            exact fun x _ => ⟨.idle, .literal x hsplit (Bool.eq_false_iff.mpr hexternal) hparse
              hpermits, trivial⟩
          · exact fun x _ => ⟨.idle, .resolved x hsplit List.mem_cons_self hpermits, trivial⟩

theorem follows_connection (dial : DialReq) (stage : Stage) :
    Follows (Moves h) anyReply (fun _ _ => True) stage (connection lib h dial) :=
  fun _ _ => ⟨_, .connect stage dial.network dial.addr, follows_dialContext _ _⟩

theorem follows_httpClient (req : ExecuteRequest) :
    Follows (Moves h) anyReply (fun stage _ => stage = .idle) .idle (httpClient lib h req) := by
  have hroots : Follows (Moves h) anyReply (fun stage _ => stage = .idle) .idle
      (clientRootCAs lib req.tlsCABundle) := by
    unfold clientRootCAs
    split
    · rfl
    · intro x _
      refine ⟨.idle, .systemCertPool x, ?_⟩
      cases x with
      | some err => rfl
      | none =>
        dsimp only
        split <;> rfl
  refine hroots.bind ?_
  rintro stage rootCAs rfl
  cases rootCAs with
  | error err => rfl
  | ok rootCAs =>
    dsimp only
    split <;> rfl

theorem follows_clientDo (transport : Transport) (hclient : h.client = none) (req : ExecuteRequest)
    (outReq : OutRequest) :
    Follows (Moves h) anyReply (fun _ _ => True) .idle (clientDo lib transport h req outReq) := by
  unfold clientDo
  rw [hclient]
  refine (follows_httpClient req).bind ?_
  rintro stage tls rfl
  cases tls with
  | error err => trivial
  | ok tls =>
    refine Follows.bind (Follows.handle (fun dial stage _ => follows_connection dial stage)
      (transport tls outReq) trivial) ?_
    exact fun _ _ _ => trivial

theorem follows_ServeExecute (transport : Transport) (hclient : h.client = none)
    (decoded : Except String ExecuteRequest) :
    Follows (Moves h) anyReply (fun _ _ => True) .idle (ServeExecute lib transport h decoded) := by
  unfold ServeExecute
  split
  · trivial
  next req =>
    dsimp only
    split
    · trivial
    · split
      · trivial
      · split
        · trivial
        · split
          · trivial
          · refine (follows_clientDo transport hclient req _).bind ?_
            intro stage result _
            rcases result with err | err | upstream <;> trivial

end Follow

/-! ## Every dial was checked -/

theorem Dialled.permits_lookup {h : Handler} {before front : List (Event Req.Reply)}
    {network target host : String} {addrs : List IP} (hdial : Dialled h before network target)
    (hbefore : before = front ++ [⟨.lookupIPAddr host, .ok addrs⟩]) : ∀ ip ∈ addrs, h.Permits ip := by
  cases hdial with
  | cluster hconnect | literal hconnect =>
    rw [hbefore] at hconnect
    cases (List.append_inj' hconnect rfl).2
  | resolved hlookup hsplit hmem hpermits =>
    have hlast := hbefore.symm.trans (hlookup.trans (List.append_cons _ _ _))
    cases (List.append_inj' hlast rfl).2
    exact hpermits

theorem not_asksZoned_lookup {before front : List (Event Req.Reply)} {host : String}
    {answer : Except String (List IP)}
    (hbefore : before = front ++ [⟨.lookupIPAddr host, answer⟩]) : ¬ AsksZoned before := by
  rintro ⟨front', network, addr, host', port, hasked, -⟩
  cases (List.append_inj' (hasked.symm.trans hbefore) rfl).2

/-- In every run of a request, whatever the name servers and the upstreams answer, each dial is
to an address that was checked for its connection, unless the connection was asked for with a
zoned literal that ends like a name in the cluster, and never in that case; and none of the
addresses that were looked up for it is blocked. -/
theorem every_dial_checked {W : Type} {env : Env W Req.Reply} {w w' : W} {lib : Lib} {h : Handler}
    (hclient : h.client = none) (transport : Transport) (decoded : Except String ExecuteRequest)
    {tr : List (Event Req.Reply)} {o : Option Answer}
    (hrun : Exec env w (ServeExecute lib transport h decoded) tr w' o)
    (before : List (Event Req.Reply)) {after : List (Event Req.Reply)} {network target : String}
    {x : Except TransportError Unit}
    (htr : tr = before ++ ⟨.rawDialContext network target, x⟩ :: after) :
    (Dialled h before network target ↔ ¬ AsksZoned before) ∧
      ∀ front host addrs, before = front ++ [⟨.lookupIPAddr host, .ok addrs⟩] →
        ∀ ip ∈ addrs, h.Permits ip := by
  obtain ⟨stage, hjoint, -⟩ := hrun.joint (fun _ _ _ _ _ => trivial)
    (follows_ServeExecute transport hclient decoded)
  have hall : Guarded (Admitted h) tr ∧ stage.Recorded tr :=
    hjoint.history (fun done _ stage => Guarded (Admitted h) done ∧ stage.Recorded done)
      ⟨.nil _, trivial⟩ fun done _ stage q x _ stage' hinv _ hmove => by
        obtain ⟨hadmitted, hrecorded⟩ := hmove.admitted hinv.2
        exact ⟨hinv.1.snoc hadmitted, hrecorded⟩
  have hfront : before ++ [⟨.rawDialContext network target, x⟩] <+: tr := ⟨after, by simp [htr]⟩
  have hdial : Dialled h before network target ↔ ¬ AsksZoned before := hall.1 before _ hfront
  refine ⟨hdial, fun front host addrs hbefore => ?_⟩
  exact (hdial.mpr (not_asksZoned_lookup hbefore)).permits_lookup hbefore

def plainLib : Lib where
  quote s := s
  toUpper s := s
  hostname s := .ok s
  canonicalHeaderKey s := s
  badRequest _ _ := none
  appendCertsFromPEM _ := true
  badKeyPair _ _ := none

def directTransport (addr : String) : Transport := fun _ _ =>
  .call ⟨"tcp", addr⟩ fun
    | .error err => .pure (.error err)
    | .ok () => .pure (.ok ⟨200, [], .ok []⟩)

def answering (addrs : List IP) (w : Unit) : (q : Req) → Option (q.Reply × Unit)
  | .systemCertPool => some (none, w)
  | .connect .. => some ((), w)
  | .lookupIPAddr _ => some (.ok addrs, w)
  | .rawDialContext .. => some (.ok (), w)

def publicIP : IP := ⟨[203, 0, 113, 5], .inl rfl⟩

def exampleRequest : ExecuteRequest := { method := "GET", url := "example.org" }

theorem example_dial_checked : ∃ before : List (Event Req.Reply),
    Exec (fun _ _ _ _ => True) () (ServeExecute plainLib (directTransport "example.org:80") {}
      (.ok exampleRequest)) (before ++ [⟨.rawDialContext "tcp" "203.0.113.5:80", .ok ()⟩]) ()
      (some (.json { statusCode := 200 })) ∧
    Dialled {} before "tcp" "203.0.113.5:80" := by
  have hserve : ∀ w q x w', answering [publicIP] w q = some (x, w') →
      (fun _ _ _ _ => True : Env Unit Req.Reply) w q x w' := fun _ _ _ _ _ => trivial
  have hrun : Exec (fun _ _ _ _ => True) () (ServeExecute plainLib (directTransport "example.org:80")
      {} (.ok exampleRequest)) ([⟨.connect "tcp" "example.org:80", ()⟩,
        ⟨.lookupIPAddr "example.org", .ok [publicIP]⟩] ++
        [⟨.rawDialContext "tcp" "203.0.113.5:80", .ok ()⟩]) ()
      (some (.json { statusCode := 200 })) :=
    Program.simulate_exec hserve () _
  refine ⟨_, hrun, (every_dial_checked rfl _ _ hrun _ rfl).1.mpr ?_⟩
  exact @not_asksZoned_lookup _ [⟨.connect "tcp" "example.org:80", ()⟩] _ _ rfl

def zonedRequest : ExecuteRequest := { method := "GET", url := "::1%x.svc.cluster.local" }

/-- The address of the machine itself is blocked, and dialled where it stands before a zone. -/
theorem zoned_loopback_dialled : ∃ (h : Handler) (before : List (Event Req.Reply)),
    h.client = none ∧ h.allowClusterInternal ∧
    Exec (fun _ _ _ _ => True) () (ServeExecute plainLib
      (directTransport "[::1%x.svc.cluster.local]:80") h (.ok zonedRequest))
      (before ++ [⟨.rawDialContext "tcp" "[::1%x.svc.cluster.local]:80", .ok ()⟩]) ()
      (some (.json { statusCode := 200 })) ∧
    IP.parseZoned "::1%x.svc.cluster.local" = some IP.loopbackV6 ∧ ¬ h.Permits IP.loopbackV6 ∧
    ¬ Dialled h before "tcp" "[::1%x.svc.cluster.local]:80" := by
  have hserve : ∀ w q x w', answering [] w q = some (x, w') →
      (fun _ _ _ _ => True : Env Unit Req.Reply) w q x w' := fun _ _ _ _ _ => trivial
  have hrun : Exec (fun _ _ _ _ => True) () (ServeExecute plainLib
      (directTransport "[::1%x.svc.cluster.local]:80") { allowClusterInternal := true }
      (.ok zonedRequest)) ([⟨.connect "tcp" "[::1%x.svc.cluster.local]:80", ()⟩] ++
        [⟨.rawDialContext "tcp" "[::1%x.svc.cluster.local]:80", .ok ()⟩]) ()
      (some (.json { statusCode := 200 })) :=
    Program.simulate_exec hserve () _
  have hasked : AsksZoned [⟨.connect "tcp" "[::1%x.svc.cluster.local]:80", ()⟩] :=
    ⟨[], _, _, "::1%x.svc.cluster.local", "80", rfl, by decide, by decide, by decide⟩
  refine ⟨_, _, rfl, rfl, hrun, by decide, ?_, fun hdial => hdial.not_asksZoned hasked⟩
  intro hpermits
  have hloopback : (⟨IP.loopbackV6, List.replicate 16 255⟩ : IPNet) ∈ defaultSSRFBlockedCIDRs := by
    decide
  exact absurd (hpermits _ hloopback) (by decide)

end KubeZap.Executor
