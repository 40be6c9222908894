import KubeZap.Executor.BlockedRanges

/-! # The operator's check of a URL and the executor's

`controller/ssrf.go` decides on a URL in one go; `executor/http` looks at the name first and
at the addresses when it dials, with a host that it has read back from the dial address.
Both are run here against the same name server, and compared by what they accept.
-/

namespace KubeZap

open Foundation Executor

section Accept

variable {lib : Lib} {host : String} {cidrs : List IPNet} (dns : (q : Req) → q.Reply)

/-- The addresses of a host: the one that it is, or those that it is looked up to. -/
def addresses (host : String) : Except String (List IP) :=
  match IP.parse host with
  | some ip => .ok [ip]
  | none => dns (.lookupIPAddr host)

def Clear (cidrs : List IPNet) (host : String) : Prop :=
  ∃ addrs, addresses dns host = .ok addrs ∧ ∀ ip ∈ addrs, isBlockedIP ip cidrs = none

theorem checkAddrs_ok {addrs : List IP} :
    Operator.checkAddrs lib host cidrs addrs = .ok () ↔ ∀ ip ∈ addrs, isBlockedIP ip cidrs = none := by
  induction addrs with
  | nil => simp [Operator.checkAddrs]
  | cons ip rest ih =>
    rw [Operator.checkAddrs, List.forall_mem_cons, ← ih]
    cases isBlockedIP ip cidrs <;> simp

theorem checkSSRFPreflight_ok {rawURL : String} (hhost : lib.hostname rawURL = .ok host)
    (allow : Bool) : checkSSRFPreflight lib rawURL allow = .ok () ↔
      host ≠ "" ∧ (isClusterInternal host → allow) := by
  unfold checkSSRFPreflight
  rw [hhost]
  dsimp only
  split
  next hempty => exact ⟨nofun, fun h => absurd hempty h.1⟩
  next hne =>
    split
    next hcluster =>
      rw [Bool.and_eq_true, Bool.not_eq_true'] at hcluster
      exact ⟨nofun, fun h => nomatch hcluster.2.symm.trans (h.2 hcluster.1)⟩
    next hcluster => exact ⟨fun _ => ⟨hne, by simpa using hcluster⟩, fun _ => rfl⟩

theorem checkSSRF_accepts {rawURL : String} (hhost : lib.hostname rawURL = .ok host) (allow : Bool) :
    ((Operator.checkSSRF lib rawURL cidrs allow).replay dns).2 = .ok () ↔
      checkSSRFPreflight lib rawURL allow = .ok () ∧
        (isClusterInternal host ∨ Clear dns cidrs host) := by
  unfold Operator.checkSSRF checkSSRFPreflight Clear addresses
  simp only [hhost]
  split
  · simp
  · cases hinternal : isClusterInternal host with
    | true => cases allow <;> simp
    | false =>
      cases IP.parse host with
      | some ip => cases hblocked : isBlockedIP ip cidrs <;> simp [hblocked]
      | none =>
        cases hdns : dns (.lookupIPAddr host) <;>
          simp [Operator.checkLookup, hdns, checkAddrs_ok]

theorem resolveAndValidate_accepts {blocked : Option (List IPNet)} {ips : List IP} :
    ((resolveAndValidate lib host blocked).replay dns).2 = .ok ips ↔
      addresses dns host = .ok ips ∧ ips ≠ [] ∧
        ∀ ip ∈ ips, isBlockedIP ip (blocked.getD Executor.defaultSSRFBlockedCIDRs) = none := by
  unfold resolveAndValidate addresses
  cases IP.parse host with
  | some ip =>
    cases hblocked : isBlockedIP ip (blocked.getD Executor.defaultSSRFBlockedCIDRs) with
    | some cidr =>
      simp only [hblocked, Program.replay_return, reduceCtorEq, false_iff]
      rintro ⟨⟨⟩, -, hclear⟩
      cases (hclear ip (List.mem_singleton_self ip)).symm.trans hblocked
    | none =>
      simp only [hblocked, Program.replay_return, Except.ok.injEq]
      constructor
      · rintro rfl
        simpa using hblocked
      · exact And.left
  | none => exact validateLookup_ok

def Reaches (lib : Lib) (h : Handler) (network addr : String) : Prop :=
  ∃ target, .rawDialContext network target ∈ ((dialContext lib h network addr).replay dns).1

theorem dialContext_reaches {h : Handler} {network addr port : String}
    (hsplit : splitHostPort addr = .ok (host, port)) :
    Reaches dns lib h network addr ↔
      if isClusterInternal host then h.allowClusterInternal = true
      else ∃ ips, ((resolveAndValidate lib host h.blockedCIDRs).replay dns).2 = .ok ips ∧ ips ≠ [] := by
  unfold Reaches dialContext
  simp only [hsplit]
  split
  · cases h.allowClusterInternal <;> simp [Req.send, Program.request, Program.replay]
  · have hasks : ∀ target, .rawDialContext network target ∉
        ((resolveAndValidate lib host h.blockedCIDRs).replay dns).1 := by
      intro target
      unfold resolveAndValidate
      cases IP.parse host with
      | some ip => cases hblocked : isBlockedIP ip (h.blockedCIDRs.getD defaultSSRFBlockedCIDRs) <;> simp [hblocked]
      | none => simp [Req.send]
    simp only [Program.replay_bind, List.mem_append, hasks, false_or]
    cases ((resolveAndValidate lib host h.blockedCIDRs).replay dns).2 with
    | error err => simp
    | ok ips =>
      cases ips with
      | nil => simp
      | cons ip rest => simp [Req.send, Program.request, Program.replay]

end Accept

/-! ## Local addresses -/

theorem defaults_block_same (ip : IP) :
    isBlockedIP ip Operator.defaultSSRFBlockedCIDRs = none ↔
      isBlockedIP ip Executor.defaultSSRFBlockedCIDRs = none := by
  have hagree : ∀ cidr ∈ Executor.defaultSSRFBlockedCIDRs,
      cidr ∈ Operator.defaultSSRFBlockedCIDRs := by decide +kernel
  rw [isBlockedIP_eq_none, isBlockedIP_eq_none]
  exact ⟨fun h cidr hcidr => h cidr (hagree cidr hcidr),
    fun h cidr hcidr => h cidr (defaults_agree cidr hcidr)⟩

def IsLocal (ip : IP) : Prop :=
  ip.isLoopback ∨ ip.isUnspecified ∨ ip.isPrivate ∨ ip.isLinkLocalUnicast ∨ ip.isShared

section Local

variable {ip : IP} {a b c d : UInt8} {t : List UInt8}

theorem blocked_of_contains (cidr : IPNet) (hmem : cidr ∈ Operator.defaultSSRFBlockedCIDRs)
    (hcontains : cidr.contains ip) : isBlockedIP ip Operator.defaultSSRFBlockedCIDRs ≠ none := by
  intro hnone
  cases (isBlockedIP_eq_none.mp hnone cidr hmem).symm.trans hcontains

theorem blocked_short (x y p q : UInt8)
    (hmem : ⟨⟨[x, y, 0, 0], .inl rfl⟩, [p, q, 0, 0]⟩ ∈ Operator.defaultSSRFBlockedCIDRs)
    (hip : ip.to4 = some [a, b, c, d]) (ha : a &&& p = x &&& p) (hb : b &&& q = y &&& q) :
    isBlockedIP ip Operator.defaultSSRFBlockedCIDRs ≠ none :=
  blocked_of_contains _ hmem (IPNet.contains_short rfl hip ha hb)

theorem short_local_blocked (hlocal : IsLocal ip) (hip : ip.to4 = some [a, b, c, d]) :
    isBlockedIP ip Operator.defaultSSRFBlockedCIDRs ≠ none := by
  have hne : ip ≠ .unspecifiedV6 := by
    rintro rfl
    cases hip
  simp only [IsLocal, IP.isLoopback, IP.isUnspecified, IP.isPrivate, IP.isLinkLocalUnicast,
    IP.isShared, hip, hne, Option.any_some, beq_iff_eq, Bool.or_eq_true, Bool.and_eq_true,
    Option.some.injEq, List.cons.injEq, List.getElem?_cons_zero, List.getElem?_cons_succ,
    List.getD_cons_succ, List.getD_cons_zero, or_false] at hlocal
  rcases hlocal with rfl | ⟨rfl, -⟩ | ((rfl | ⟨rfl, hb⟩) | ⟨rfl, rfl⟩) | ⟨rfl, rfl⟩ | ⟨rfl, hb⟩
  · exact blocked_short 127 0 255 0 (by decide +kernel) hip rfl (by simp)
  · exact blocked_short 0 0 255 0 (by decide +kernel) hip rfl (by simp)
  · exact blocked_short 10 0 255 0 (by decide +kernel) hip rfl (by simp)
  · exact blocked_short 172 16 255 240 (by decide +kernel) hip rfl hb
  · exact blocked_short 192 168 255 255 (by decide +kernel) hip rfl rfl
  · exact blocked_short 169 254 255 255 (by decide +kernel) hip rfl rfl
  · exact blocked_short 100 64 255 192 (by decide +kernel) hip rfl hb

theorem long_local_blocked (hlocal : IsLocal ip) (hne : ip ≠ .unspecifiedV6) (hip : ip.to4 = none)
    (hbytes : ip.bytes = a :: b :: t) (ht : t.length = 14) :
    isBlockedIP ip Operator.defaultSSRFBlockedCIDRs ≠ none := by
  simp only [IsLocal, IP.isLoopback, IP.isUnspecified, IP.isPrivate, IP.isLinkLocalUnicast,
    IP.isShared, hip, hne, hbytes, Option.any_none, beq_iff_eq, Bool.or_eq_true, Bool.and_eq_true,
    Option.some.injEq, List.getElem?_cons_zero, List.getD_cons_succ, List.getD_cons_zero,
    List.headD_cons, reduceCtorEq, or_false, false_or] at hlocal
  rcases hlocal with rfl | ha | ⟨rfl, hb⟩
  · decide +kernel
  · exact blocked_of_contains ⟨⟨252 :: 0 :: List.replicate 14 0, .inr rfl⟩,
      254 :: 0 :: List.replicate 14 0⟩ (by decide +kernel)
      (IPNet.contains_long rfl hip hbytes ht ha (by simp))
  · exact blocked_of_contains ⟨⟨254 :: 128 :: List.replicate 14 0, .inr rfl⟩,
      255 :: 192 :: List.replicate 14 0⟩ (by decide +kernel)
      (IPNet.contains_long rfl hip hbytes ht rfl hb)

end Local

/-- Both default lists block the same addresses, among them every local one but `::`, which is
in no range; a URL with a blocked literal, or a host with a blocked address, is accepted by
neither check. -/
theorem local_addresses_blocked (ip : IP) :
    (isBlockedIP ip Operator.defaultSSRFBlockedCIDRs = none ↔
      isBlockedIP ip Executor.defaultSSRFBlockedCIDRs = none) ∧
    (IsLocal ip → ip ≠ .unspecifiedV6 →
      isBlockedIP ip Operator.defaultSSRFBlockedCIDRs ≠ none ∧
      isBlockedIP ip Executor.defaultSSRFBlockedCIDRs ≠ none ∧
      ∀ (lib : Lib) (dns : (q : Req) → q.Reply) (host : String) (addrs : List IP),
        addresses dns host = .ok addrs → ip ∈ addrs →
        (∀ rawURL allow, lib.hostname rawURL = .ok host → (isClusterInternal host → allow = false) →
          ((Operator.checkSSRF lib rawURL Operator.defaultSSRFBlockedCIDRs allow).replay dns).2 ≠
            .ok ()) ∧
        ∀ ips, ((resolveAndValidate lib host none).replay dns).2 ≠ .ok ips) := by
  refine ⟨defaults_block_same ip, ?_⟩
  intro hlocal hne
  have hoperator : isBlockedIP ip Operator.defaultSSRFBlockedCIDRs ≠ none := by
    rcases ip.to4_cases with ⟨a, b, c, d, hip⟩ | ⟨hip, a, b, t, hbytes, ht⟩
    · exact short_local_blocked hlocal hip
    · exact long_local_blocked hlocal hne hip hbytes ht
  have hexecutor := (defaults_block_same ip).not.mp hoperator
  refine ⟨hoperator, hexecutor, ?_⟩
  intro lib dns host addrs haddrs hmem
  constructor
  · intro rawURL allow hhost hcluster hok
    obtain ⟨hpre, hinternal | ⟨addrs', haddrs', hclear⟩⟩ := (checkSSRF_accepts dns hhost allow).mp hok
    · cases (hcluster hinternal).symm.trans (((checkSSRFPreflight_ok hhost allow).mp hpre).2 hinternal)
    · cases haddrs.symm.trans haddrs'
      exact hoperator (hclear ip hmem)
  · intro ips hok
    obtain ⟨haddrs', -, hclear⟩ := (resolveAndValidate_accepts dns).mp hok
    cases haddrs.symm.trans haddrs'
    exact hexecutor (hclear ip hmem)

theorem metadata_address_blocked : IsLocal ⟨[169, 254, 169, 254], .inl rfl⟩ ∧
    isBlockedIP ⟨[169, 254, 169, 254], .inl rfl⟩ Operator.defaultSSRFBlockedCIDRs ≠ none :=
  have hlocal : IsLocal ⟨[169, 254, 169, 254], .inl rfl⟩ := .inr (.inr (.inr (.inl rfl)))
  ⟨hlocal, ((local_addresses_blocked _).2 hlocal nofun).1⟩

def steady (addrs : List IP) : (q : Req) → q.Reply
  | .systemCertPool => none
  | .connect .. => ()
  | .lookupIPAddr _ => .ok addrs
  | .rawDialContext .. => .ok ()

def hostLib (host : String) : Lib := { plainLib with hostname := fun _ => .ok host }

/-- `::`, to which a connection reaches the machine itself, passes both checks. -/
theorem unspecified_address_passes : IsLocal .unspecifiedV6 ∧
    isBlockedIP .unspecifiedV6 Operator.defaultSSRFBlockedCIDRs = none ∧
    isBlockedIP .unspecifiedV6 Executor.defaultSSRFBlockedCIDRs = none ∧
    ((Operator.checkSSRF (hostLib "::") "http://[::]/" Operator.defaultSSRFBlockedCIDRs
      false).replay (steady [])).2 = .ok () ∧
    ((resolveAndValidate (hostLib "::") "::" none).replay (steady [])).2 = .ok [.unspecifiedV6] :=
  ⟨.inr (.inl rfl), by decide +kernel, by decide +kernel, by decide +kernel, by decide +kernel⟩

/-! ## One decision -/

/-- The two checks agree on every host that can be read back from a dial address. -/
theorem checks_agree {lib : Lib} {h : Handler} {rawURL host port network : String}
    (dns : (q : Req) → q.Reply) (hhost : lib.hostname rawURL = .ok host)
    (hdns : dns (.lookupIPAddr host) ≠ .ok []) (hport : ∀ c ∈ port.toList, c.isDigit)
    (hbrackets : '[' ∉ host.toList ∧ ']' ∉ host.toList) :
    ((Operator.checkSSRF lib rawURL (h.blockedCIDRs.getD Operator.defaultSSRFBlockedCIDRs)
        h.allowClusterInternal).replay dns).2 = .ok () ↔
      checkSSRFPreflight lib rawURL h.allowClusterInternal = .ok () ∧
        Reaches dns lib h network (joinHostPort host port) := by
  have hclear : Clear dns (h.blockedCIDRs.getD Operator.defaultSSRFBlockedCIDRs) host ↔
      ∃ ips, ((resolveAndValidate lib host h.blockedCIDRs).replay dns).2 = .ok ips ∧ ips ≠ [] := by
    have hsame : ∀ ip, isBlockedIP ip (h.blockedCIDRs.getD Operator.defaultSSRFBlockedCIDRs) = none ↔
        isBlockedIP ip (h.blockedCIDRs.getD Executor.defaultSSRFBlockedCIDRs) = none := by
      cases h.blockedCIDRs with
      | none => exact defaults_block_same
      | some cidrs => exact fun _ => Iff.rfl
    have hsome : addresses dns host ≠ .ok [] := by
      unfold addresses
      split
      · nofun
      · exact hdns
    simp only [Clear, resolveAndValidate_accepts, hsame]
    constructor
    · rintro ⟨addrs, haddrs, hall⟩
      have hne : addrs ≠ [] := by
        rintro rfl
        exact hsome haddrs
      exact ⟨addrs, ⟨haddrs, hne, hall⟩, hne⟩
    · rintro ⟨ips, ⟨haddrs, -, hall⟩, -⟩
      exact ⟨ips, haddrs, hall⟩
  rw [checkSSRF_accepts dns hhost,
    dialContext_reaches dns (splitHostPort_joinHostPort hbrackets hport), hclear]
  refine and_congr_right fun hpre => ?_
  split
  next hinternal =>
    simp [hinternal, ((checkSSRFPreflight_ok hhost _).mp hpre).2 hinternal]
  next hexternal => simp [hexternal]

theorem checks_agree_example :
    ((Operator.checkSSRF (hostLib "example.org") "https://example.org/"
        Operator.defaultSSRFBlockedCIDRs false).replay (steady [publicIP])).2 = .ok () ↔
      checkSSRFPreflight (hostLib "example.org") "https://example.org/" false = .ok () ∧
        Reaches (steady [publicIP]) (hostLib "example.org") {} "tcp"
          (joinHostPort "example.org" "443") :=
  checks_agree (h := {}) (steady [publicIP]) rfl nofun (by simp) (by decide)

def documentIP : IP := ⟨[32, 1, 13, 184, 0, 0, 0, 0, 0, 0, 0, 0, 0, 0, 0, 1], .inr rfl⟩

/-- A zone may contain a bracket: the operator accepts the URL, and the executor cannot read its
own dial address. -/
theorem zone_with_bracket :
    ((Operator.checkSSRF (hostLib "2001:db8::1%a]b") "http://[2001:db8::1%25a%5Db]/"
        Operator.defaultSSRFBlockedCIDRs false).replay (steady [documentIP])).2 = .ok () ∧
      ¬ Reaches (steady [documentIP]) (hostLib "2001:db8::1%a]b") {} "tcp"
        (joinHostPort "2001:db8::1%a]b" "80") := by
  refine ⟨by decide +kernel, ?_⟩
  have hnone : ((dialContext (hostLib "2001:db8::1%a]b") {} "tcp"
      (joinHostPort "2001:db8::1%a]b" "80")).replay (steady [documentIP])).1 = [] :=
    List.length_eq_zero_iff.mp (by decide +kernel)
  rintro ⟨target, hmem⟩
  rw [hnone] at hmem
  cases hmem

/-! ## Spellings of a name -/

/-- What a host denotes: its letters in lower case, without a dot at the end. -/
def dnsName (host : String) : List Char :=
  let name := host.toList.map Char.toLower
  if name.getLast? = some '.' then name.dropLast else name

def UnderCluster (host : String) : Prop := ".svc.cluster.local".toList <:+ dnsName host

instance : DecidablePred UnderCluster := fun _ => inferInstanceAs (Decidable (_ <:+ _))

/-- A host that is a name and no address. -/
structure IsHostName (host : String) : Prop where
  ne_empty : host ≠ ""
  not_address : IP.parse host = none
  brackets : '[' ∉ host.toList ∧ ']' ∉ host.toList

theorem underCluster_of_internal {host : String} (h : isClusterInternal host) :
    UnderCluster host := by
  have hlower : ".svc.cluster.local".toList.map Char.toLower = ".svc.cluster.local".toList := by
    decide
  rw [isClusterInternal, Bool.or_eq_true, endsWith, endsWith, List.isSuffixOf_iff_suffix,
    List.isSuffixOf_iff_suffix] at h
  simp only [UnderCluster, dnsName]
  rcases h with ⟨start, h⟩ | ⟨start, h⟩
  · rw [← h, List.map_append, hlower, if_neg (by simp [List.getLast?_append])]
    exact List.suffix_append _ _
  · have hdot : ".svc.cluster.local.".toList = ".svc.cluster.local".toList ++ ['.'] := by decide
    rw [← h, hdot, ← List.append_assoc, List.map_append, List.map_append, hlower]
    simp

/-- Both checks decide the two URLs alike, and neither dials a name of the cluster. -/
def DecidedAlike (lib : Lib) (rawURL rawURL' host host' : String) : Prop :=
  ∀ (h : Handler) (dns : (q : Req) → q.Reply) (network port port' : String),
    dns (.lookupIPAddr host) = dns (.lookupIPAddr host') →
    (∀ c ∈ port.toList, c.isDigit) → (∀ c ∈ port'.toList, c.isDigit) →
    (∀ cidrs allow, ((Operator.checkSSRF lib rawURL cidrs allow).replay dns).2 = .ok () ↔
      ((Operator.checkSSRF lib rawURL' cidrs allow).replay dns).2 = .ok ()) ∧
    (checkSSRFPreflight lib rawURL h.allowClusterInternal = .ok () ∧
        Reaches dns lib h network (joinHostPort host port) ↔
      checkSSRFPreflight lib rawURL' h.allowClusterInternal = .ok () ∧
        Reaches dns lib h network (joinHostPort host' port')) ∧
    (h.allowClusterInternal = false → UnderCluster host →
      ¬ Reaches dns lib h network (joinHostPort host port) ∧
      ¬ Reaches dns lib h network (joinHostPort host' port'))

section Spelling

variable {lib : Lib} {rawURL rawURL' host host' : String}

/-- A name that is not recognised is dialled, where its address is a public one. -/
theorem reaches_unrecognised (hname : IsHostName host) (hext : isClusterInternal host = false) :
    Reaches (steady [publicIP]) lib {} "tcp" (joinHostPort host "80") := by
  have hdns : addresses (steady [publicIP]) host = .ok [publicIP] := by
    rw [addresses, hname.not_address]
    rfl
  have hclear : ∀ ip ∈ [publicIP], isBlockedIP ip Executor.defaultSSRFBlockedCIDRs = none := by
    decide +kernel
  rw [dialContext_reaches _ (splitHostPort_joinHostPort hname.brackets (by simp)), hext]
  exact ⟨[publicIP], (resolveAndValidate_accepts _).mpr ⟨hdns, nofun, hclear⟩, nofun⟩

theorem decidedAlike_of_lower (hhost : lib.hostname rawURL = .ok host)
    (hhost' : lib.hostname rawURL' = .ok host') (hname : IsHostName host)
    (hname' : IsHostName host') (hsame : UnderCluster host ↔ UnderCluster host')
    (hlower : ∀ s ∈ [host, host'], UnderCluster s → isClusterInternal s) :
    DecidedAlike lib rawURL rawURL' host host' := by
  intro h dns network port port' hdns hport hport'
  have hinternal : isClusterInternal host = isClusterInternal host' := by
    rw [Bool.eq_iff_iff]
    exact ⟨fun hc => hlower _ (by simp) (hsame.mp (underCluster_of_internal hc)),
      fun hc => hlower _ (by simp) (hsame.mpr (underCluster_of_internal hc))⟩
  have haddresses : addresses dns host = addresses dns host' := by
    rw [addresses, addresses, hname.not_address, hname'.not_address, hdns]
  have hpre (allow : Bool) : checkSSRFPreflight lib rawURL allow = .ok () ↔
      checkSSRFPreflight lib rawURL' allow = .ok () := by
    rw [checkSSRFPreflight_ok hhost, checkSSRFPreflight_ok hhost', hinternal]
    simp [hname.ne_empty, hname'.ne_empty]
  have hreach : Reaches dns lib h network (joinHostPort host port) ↔ _ :=
    dialContext_reaches dns (splitHostPort_joinHostPort hname.brackets hport)
  have hreach' : Reaches dns lib h network (joinHostPort host' port') ↔ _ :=
    dialContext_reaches dns (splitHostPort_joinHostPort hname'.brackets hport')
  refine ⟨fun cidrs allow => ?_, ?_, fun hoff hunder => ?_⟩
  · rw [checkSSRF_accepts dns hhost, checkSSRF_accepts dns hhost', hpre, Clear, Clear, hinternal,
      haddresses]
  · rw [hpre, hreach, hreach']
    simp only [resolveAndValidate_accepts, hinternal, haddresses]
  · rw [hreach, hreach', if_pos (hlower host (by simp) hunder),
      if_pos (hlower host' (by simp) (hsame.mp hunder)), hoff]
    exact ⟨nofun, nofun⟩

/-- Two spellings of a name are decided alike by both checks, and a name of the cluster is not
dialled, if a host under `svc.cluster.local` ends in it in lower case, and only then. -/
theorem spelling_irrelevant (hhost : lib.hostname rawURL = .ok host)
    (hhost' : lib.hostname rawURL' = .ok host') (hname : IsHostName host)
    (hname' : IsHostName host') (hsame : dnsName host = dnsName host') :
    DecidedAlike lib rawURL rawURL' host host' ↔
      ∀ s ∈ [host, host'], UnderCluster s → isClusterInternal s := by
  have hunder : UnderCluster host ↔ UnderCluster host' := by
    rw [UnderCluster, UnderCluster, hsame]
  refine ⟨fun halike s hs hcluster => ?_, decidedAlike_of_lower hhost hhost' hname hname' hunder⟩
  by_contra hext
  rw [Bool.not_eq_true] at hext
  obtain ⟨-, -, hnot⟩ := halike {} (steady [publicIP]) "tcp" "80" "80" rfl (by simp) (by simp)
  rcases List.mem_cons.mp hs with rfl | hs
  · exact (hnot rfl hcluster).1 (reaches_unrecognised hname hext)
  · obtain rfl := List.mem_singleton.mp hs
    exact (hnot rfl (hunder.mpr hcluster)).2 (reaches_unrecognised hname' hext)

end Spelling

def plainURLs : Lib := { plainLib with hostname := fun rawURL => .ok (trimStart rawURL "http://") }

theorem shop_spellings_alike :
    ((Operator.checkSSRF plainURLs "http://shop.example" Operator.defaultSSRFBlockedCIDRs
      false).replay (steady [publicIP])).2 = .ok () ↔
    ((Operator.checkSSRF plainURLs "http://Shop.example." Operator.defaultSSRFBlockedCIDRs
      false).replay (steady [publicIP])).2 = .ok () :=
  (((@spelling_irrelevant plainURLs _ _ "shop.example" "Shop.example." (by decide) (by decide)
    ⟨by decide, by decide, by decide⟩ ⟨by decide, by decide, by decide⟩ (by decide)).mpr
    (by decide)) {} (steady [publicIP]) "tcp" "80" "80" rfl (by simp) (by simp)).1 _ _

/-- In capitals a name of the cluster passes both checks and is dialled. -/
theorem capitals_pass :
    dnsName "db.team.SVC.cluster.local" = dnsName "db.team.svc.cluster.local" ∧
    ((Operator.checkSSRF plainURLs "http://db.team.svc.cluster.local"
      Operator.defaultSSRFBlockedCIDRs false).replay (steady [publicIP])).2 ≠ .ok () ∧
    ((Operator.checkSSRF plainURLs "http://db.team.SVC.cluster.local"
      Operator.defaultSSRFBlockedCIDRs false).replay (steady [publicIP])).2 = .ok () ∧
    checkSSRFPreflight plainURLs "http://db.team.SVC.cluster.local" false = .ok () ∧
    Reaches (steady [publicIP]) plainURLs {} "tcp"
      (joinHostPort "db.team.SVC.cluster.local" "80") := by
  refine ⟨by decide, by decide +kernel, by decide +kernel, by decide +kernel, ?_⟩
  rw [dialContext_reaches _ (splitHostPort_joinHostPort (by decide) (by simp)), if_neg (by decide)]
  exact ⟨[publicIP], by decide +kernel, nofun⟩

end KubeZap
