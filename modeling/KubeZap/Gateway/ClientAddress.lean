import KubeZap.Gateway.Handler

/-! # The address of the client behind trusted proxies

Every proxy records the address of its peer in `X-Forwarded-For`, after what it
received: at the end of the last line, or as a line of its own. Read as one list and
from the right, the trusted proxies come first and then the peer of the outermost of
them, whatever the client put before. `realClientIP` reads the first line only.
-/

namespace KubeZap

structure Hop (s : String) : Prop where
  nonblank : s ≠ ""
  plain : ',' ∉ s.toList
  trimmed : trimSpace s = s

inductive Recording
  | appended
  | added

/-- The lines of `X-Forwarded-For` that a proxy passes on. -/
def Recording.record (lines : List String) (peer : String) : Recording → List String
  | .added => lines ++ [peer]
  | .appended =>
    match lines.getLast? with
    | none => [peer]
    | some line => lines.dropLast ++ [line ++ ", " ++ peer]

/-- The lines that arrive, from those that were sent and the recorded peers in order. -/
def forwardedLines (sent : List String) (hops : List (String × Recording)) : List String :=
  hops.foldl (fun lines hop => hop.2.record lines hop.1) sent

/-- `strings.Split(s, ",")` gives the pieces between the commas. -/
def HttpLib.SplitsAtCommas (lib : HttpLib) : Prop :=
  ∀ s, lib.splitComma s = (s.toList.splitOn ',').map String.ofList

section Lines

variable {lib : HttpLib} {line peer : String}

theorem trimSpace_blank (s : String) : trimSpace (" " ++ s) = trimSpace s := by
  simp [trimSpace, isSpace]

theorem splitComma_hop (hlib : lib.SplitsAtCommas) (hpeer : Hop peer) :
    (lib.splitComma peer).map trimSpace = [peer] := by
  have hone : peer.toList.splitOn ',' = [peer.toList] := by
    apply List.splitOnP_eq_singleton
    intro c hc
    simpa using fun heq : c = ',' => hpeer.plain (heq ▸ hc)
  rw [hlib, hone]
  simp [hpeer.trimmed]

theorem splitComma_append (hlib : lib.SplitsAtCommas) (hpeer : Hop peer) :
    (lib.splitComma (line ++ ", " ++ peer)).map trimSpace =
      (lib.splitComma line).map trimSpace ++ [peer] := by
  have hlist : (line ++ ", " ++ peer).toList = line.toList ++ ',' :: ' ' :: peer.toList := by
    simp [String.toList_append]
  have hone : List.splitOn ',' (' ' :: peer.toList) = [' ' :: peer.toList] := by
    apply List.splitOnP_eq_singleton
    intro c hc
    rcases List.mem_cons.mp hc with rfl | hc
    · rfl
    · simpa using fun heq : c = ',' => hpeer.plain (heq ▸ hc)
  rw [hlib, hlib, hlist, List.splitOn_append_cons_self, hone, List.map_append, List.map_append]
  simp [trimSpace_blank, hpeer.trimmed]

theorem record_appended (lines : List String) (line peer : String) :
    Recording.appended.record (lines ++ [line]) peer = lines ++ [line ++ ", " ++ peer] := by
  rw [Recording.record, List.getLast?_concat, List.dropLast_concat]

/-- The first line keeps its entries, and those are added to it that are recorded before there is
a second line. -/
theorem forwardedLines_first (hlib : lib.SplitsAtCommas) {hops : List (String × Recording)}
    (hhops : ∀ hop ∈ hops, Hop hop.1) (line : String) (rest : List String) :
    ∃ line' rest' seen, forwardedLines (line :: rest) hops = line' :: rest' ∧
      seen <+: hops.map Prod.fst ∧ (rest ≠ [] → seen = []) ∧
      (lib.splitComma line').map trimSpace = (lib.splitComma line).map trimSpace ++ seen := by
  induction hops generalizing line rest with
  | nil => exact ⟨line, rest, [], rfl, List.nil_prefix, fun _ => rfl, (List.append_nil _).symm⟩
  | cons hop hops ih =>
    obtain ⟨peer, how⟩ := hop
    have hrest := ih fun hop hmem => hhops hop (List.mem_cons_of_mem _ hmem)
    cases how with
    | added =>
      obtain ⟨line', rest', seen, hlines, -, hsecond, hparts⟩ := hrest line (rest ++ [peer])
      obtain rfl := hsecond (by simp)
      exact ⟨line', rest', [], hlines, List.nil_prefix, fun _ => rfl, hparts⟩
    | appended =>
      rcases List.eq_nil_or_concat rest with rfl | ⟨before, last, rfl⟩
      · obtain ⟨line', rest', seen, hlines, hseen, -, hparts⟩ := hrest (line ++ ", " ++ peer) []
        refine ⟨line', rest', peer :: seen, hlines, List.prefix_cons_inj peer |>.mpr hseen,
          fun h => absurd rfl h, ?_⟩
        rw [hparts, splitComma_append hlib (hhops _ List.mem_cons_self), List.append_assoc]
        rfl
      · obtain ⟨line', rest', seen, hlines, -, hsecond, hparts⟩ :=
          hrest line (before ++ [last ++ ", " ++ peer])
        obtain rfl := hsecond (by simp)
        refine ⟨line', rest', [], ?_, List.nil_prefix, fun _ => rfl, hparts⟩
        rw [← hlines, List.concat_eq_append]
        exact congrArg (forwardedLines · hops) (record_appended (line :: before) last peer)

/-- A line that is not the only one afterwards stays the first. -/
theorem record_more {how : Recording} {line client : String} {tail : List String}
    (hmore : (how.record (line :: tail) client).length ≠ 1) :
    ∃ rest, how.record (line :: tail) client = line :: rest ∧ rest ≠ [] := by
  cases how with
  | added => exact ⟨tail ++ [client], rfl, by simp⟩
  | appended =>
    rcases List.eq_nil_or_concat tail with rfl | ⟨before, last, rfl⟩
    · exact absurd rfl hmore
    · rw [List.concat_eq_append]
      exact ⟨_, record_appended (line :: before) last client, by simp⟩

/-- One line reaches the second proxy: the first has written its peer at the end of it. -/
theorem record_single (hlib : lib.SplitsAtCommas) (hpeer : Hop peer) {sent : List String}
    {how : Recording} (h : (how.record sent peer).length = 1) :
    ∃ line older, how.record sent peer = [line] ∧
      (lib.splitComma line).map trimSpace = older ++ [peer] := by
  rcases List.eq_nil_or_concat sent with rfl | ⟨before, last, rfl⟩
  · refine ⟨peer, [], ?_, splitComma_hop hlib hpeer⟩
    cases how <;> rfl
  · cases how with
    | added => simp [Recording.record] at h
    | appended =>
      have hnil : before = [] := by simpa [Recording.record] using h
      subst hnil
      exact ⟨_, _, rfl, splitComma_append hlib hpeer⟩

theorem walkForwarded_stops {trusted : List (IPAddress → Bool)} {client : String}
    {proxies rest : List String} (hclient : Hop client)
    (huntrusted : isTrustedProxy lib client trusted = false)
    (hproxies : ∀ p ∈ proxies, Hop p ∧ isTrustedProxy lib p trusted = true)
    {parts : List String} (hparts : parts.map trimSpace = proxies ++ client :: rest)
    (leftMost : String) : walkForwarded lib trusted leftMost parts = client := by
  induction proxies generalizing parts leftMost with
  | nil =>
    obtain ⟨part, parts, rfl, hpart, -⟩ := List.map_eq_cons_iff.mp hparts
    rw [walkForwarded, hpart, if_neg hclient.nonblank, huntrusted]
    rfl
  | cons p proxies ih =>
    obtain ⟨part, parts, rfl, hpart, hrest⟩ := List.map_eq_cons_iff.mp hparts
    obtain ⟨hop, htrusted⟩ := hproxies p List.mem_cons_self
    rw [walkForwarded, hpart, if_neg hop.nonblank, htrusted]
    exact ih (fun q hq => hproxies q (List.mem_cons_of_mem _ hq)) hrest _

/-- The entry of the first line before those of the trusted proxies, whatever stands before it. -/
theorem realClientIP_of_first (hlib : lib.SplitsAtCommas) {trusted : List (IPAddress → Bool)}
    {r : Request} (hpeer : isTrustedProxy lib ((lib.splitHostPort r.remoteAddr).getD r.remoteAddr)
      trusted = true) {client : String} (hclient : Hop client)
    (huntrusted : isTrustedProxy lib client trusted = false) {older seen : List String}
    (hseen : ∀ p ∈ seen, Hop p ∧ isTrustedProxy lib p trusted = true) (hfew : seen.length + 1 < 32)
    {line : String} {rest : List String}
    (hheader : r.header.lookup (lib.canonicalHeaderKey "X-Forwarded-For") = some (line :: rest))
    (hline : (lib.splitComma line).map trimSpace = older ++ client :: seen) :
    realClientIP lib r trusted = client := by
  have hget : r.get lib "X-Forwarded-For" = line := by simp [Request.get, hheader]
  have hparts : ((lib.splitComma line).reverse.take maxForwardedForHops).map trimSpace =
      seen.reverse ++ client :: (older.reverse.take (31 - seen.length)) := by
    rw [List.map_take, List.map_reverse, hline, List.reverse_append, List.reverse_cons,
      List.append_assoc, List.take_append, List.take_of_length_le]
    · simp only [maxForwardedForHops, List.length_reverse, List.singleton_append]
      rw [show 32 - seen.length = 31 - seen.length + 1 by omega, List.take_succ_cons]
    · simp [maxForwardedForHops]
      omega
  have hwalk : walkForwarded lib trusted ""
      ((lib.splitComma line).reverse.take maxForwardedForHops) = client :=
    walkForwarded_stops hclient huntrusted (fun p hp => hseen p (List.mem_reverse.mp hp)) hparts ""
  have hnonblank : line ≠ "" := by
    rintro rfl
    rw [hlib] at hwalk
    simp [maxForwardedForHops, walkForwarded, trimSpace] at hwalk
    exact hclient.nonblank hwalk
  have hset : trusted.isEmpty = false := by
    cases trusted with
    | nil =>
      unfold isTrustedProxy at hpeer
      split at hpeer <;> simp at hpeer
    | cons => rfl
  simp only [realClientIP, hpeer, hset, hget, if_neg hnonblank, hwalk]
  simp [hclient.nonblank]

end Lines

/-- An untrusted peer is the client. Behind fewer than 32 trusted proxies, where the outermost of
them passes on one line of `X-Forwarded-For`, the client is the peer that it saw, whatever was sent;
where it passes on more, the client is taken for whom it says in its first line. -/
theorem client_address_unforged (lib : HttpLib) (hlib : lib.SplitsAtCommas)
    (trusted : List (IPAddress → Bool)) (r : Request) (host : String)
    (hhost : host = (lib.splitHostPort r.remoteAddr).getD r.remoteAddr) :
    (isTrustedProxy lib host trusted = false → realClientIP lib r trusted = host) ∧
    ∀ (sent : List String) (client : String) (how : Recording) (proxies : List (String × Recording)),
      isTrustedProxy lib host trusted = true → Hop client →
      isTrustedProxy lib client trusted = false →
      (∀ p ∈ proxies, Hop p.1 ∧ isTrustedProxy lib p.1 trusted = true) → proxies.length + 1 < 32 →
      r.header.lookup (lib.canonicalHeaderKey "X-Forwarded-For") =
        some (forwardedLines sent ((client, how) :: proxies)) →
      ((forwardedLines sent [(client, how)]).length = 1 → realClientIP lib r trusted = client) ∧
      ((forwardedLines sent [(client, how)]).length ≠ 1 → ∀ forged ∈ sent.head?, Hop forged →
        isTrustedProxy lib forged trusted = false → realClientIP lib r trusted = forged) := by
  subst hhost
  refine ⟨?_, ?_⟩
  · intro hpeer
    simp [realClientIP, hpeer]
  · intro sent client how proxies hpeer hclient huntrusted hproxies hfew hheader
    have hhops : ∀ hop ∈ proxies, Hop hop.1 := fun hop hmem => (hproxies hop hmem).1
    change _ = some (forwardedLines (how.record sent client) proxies) at hheader
    refine ⟨?_, ?_⟩
    · intro hone
      obtain ⟨first, older, hfirst, hparts⟩ := record_single hlib hclient hone
      obtain ⟨line, rest, seen, hlines, hseen, -, hline⟩ :=
        forwardedLines_first hlib hhops first []
      rw [hfirst, hlines] at hheader
      rw [hparts, List.append_assoc, List.singleton_append] at hline
      refine realClientIP_of_first hlib hpeer hclient huntrusted ?_ ?_ hheader hline
      · intro p hp
        obtain ⟨hop, hmem, rfl⟩ := List.mem_map.mp (hseen.subset hp)
        exact hproxies hop hmem
      · have hle := hseen.length_le
        rw [List.length_map] at hle
        omega
    · intro hmore forged hhead hforged huntrusted'
      obtain ⟨tail, rfl⟩ := List.head?_eq_some_iff.mp hhead
      obtain ⟨rest, hlines, hrest⟩ := record_more hmore
      obtain ⟨line, rest', seen, hlines', -, hsecond, hline⟩ :=
        forwardedLines_first hlib hhops forged rest
      obtain rfl := hsecond hrest
      rw [hlines, hlines'] at hheader
      rw [splitComma_hop hlib hforged, List.append_nil, ← List.nil_append [forged]] at hline
      exact realClientIP_of_first hlib hpeer hforged huntrusted' (by simp) (by decide) hheader hline

def proxyLib : HttpLib :=
  { (default : HttpLib) with
    canonicalHeaderKey := id
    parseIP := fun s => if s = "10.0.0.1" ∨ s = "10.0.0.2" then some [10, 0, 0, 1] else none
    splitHostPort := fun _ => none
    splitComma := fun s => (s.toList.splitOn ',').map String.ofList }

def trustedTen : List (IPAddress → Bool) := [fun ip => ip.head? == some 10]

/-- A request of 203.0.113.9 that claims to come from 192.0.2.1. -/
def forgedRequest (how : Recording) : Request where
  method := "POST"
  path := "/hooks/orders"
  header := [("X-Forwarded-For",
    forwardedLines ["192.0.2.1"] [("203.0.113.9", how), ("10.0.0.1", .appended)])]
  body := .error ""
  contentLength := 0
  remoteAddr := "10.0.0.2"

theorem client_address_appended :
    realClientIP proxyLib (forgedRequest .appended) trustedTen = "203.0.113.9" :=
  ((client_address_unforged proxyLib (fun _ => rfl) trustedTen (forgedRequest .appended) "10.0.0.2"
    rfl).2 ["192.0.2.1"] "203.0.113.9" .appended [("10.0.0.1", .appended)] (by decide +kernel)
    ⟨by decide +kernel, by decide +kernel, by decide +kernel⟩ (by decide +kernel)
    (by
      intro p hp
      rw [List.mem_singleton.mp hp]
      exact ⟨⟨by decide +kernel, by decide +kernel, by decide +kernel⟩, by decide +kernel⟩)
    (by decide +kernel) rfl).1 (by decide +kernel)

/-- The first proxy adds a line of its own, and the address that the client made up is
taken for its own. -/
theorem client_address_forged :
    realClientIP proxyLib (forgedRequest .added) trustedTen = "192.0.2.1" := by
  decide +kernel

end KubeZap
