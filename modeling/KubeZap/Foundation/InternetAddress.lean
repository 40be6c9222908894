import Mathlib.Algebra.Group.Nat.Defs
import Mathlib.Data.List.Basic
import Mathlib.Data.List.TakeDrop

/-! # Internet addresses and ranges of them

IP addresses as bytes, the ranges that a network number and a mask describe, and their
texts: dotted decimals, colon-separated hexadecimals with one run of zeros left out,
ranges in CIDR notation, and host and port in one text. Reading is strict where the
notations are: no leading zeros in a decimal, at most four digits in a hexadecimal
group, at most one run of zeros.
-/

namespace Foundation

structure IP where
  bytes : List UInt8
  valid : bytes.length = 4 ∨ bytes.length = 16
deriving DecidableEq

namespace IP

def ofBytes (bytes : List UInt8) : Option IP :=
  if h : bytes.length = 4 ∨ bytes.length = 16 then some ⟨bytes, h⟩ else none

def v4InV6 : List UInt8 := List.replicate 10 0 ++ [255, 255]

def to4 (ip : IP) : Option (List UInt8) :=
  if ip.bytes.length = 4 then some ip.bytes
  else if ip.bytes.take 12 = v4InV6 then some (ip.bytes.drop 12) else none

def short (ip : IP) : List UInt8 := ip.to4.getD ip.bytes

def unspecifiedV6 : IP := ⟨List.replicate 16 0, .inr rfl⟩

def loopbackV6 : IP := ⟨List.replicate 15 0 ++ [1], .inr rfl⟩

def isUnspecified (ip : IP) : Bool := ip.to4 == some [0, 0, 0, 0] || ip == unspecifiedV6

def isLoopback (ip : IP) : Bool :=
  match ip.to4 with
  | some b => b[0]? == some 127
  | none => ip == loopbackV6

def isPrivate (ip : IP) : Bool :=
  match ip.to4 with
  | some b => b[0]? == some 10 || (b[0]? == some 172 && (b.getD 1 0) &&& 240 == 16) ||
      (b[0]? == some 192 && b[1]? == some 168)
  | none => (ip.bytes.headD 0) &&& 254 == 252

def isLinkLocalUnicast (ip : IP) : Bool :=
  match ip.to4 with
  | some b => b[0]? == some 169 && b[1]? == some 254
  | none => ip.bytes[0]? == some 254 && (ip.bytes.getD 1 0) &&& 192 == 128

/-- In `100.64.0.0/10`, the addresses that carriers share. -/
def isShared (ip : IP) : Bool :=
  ip.to4.any fun b => b[0]? == some 100 && (b.getD 1 0) &&& 192 == 64


def parseOctet (s : List Char) : Option UInt8 :=
  if s = [] ∨ ¬ s.all Char.isDigit ∨ (s.head? = some '0' ∧ s.length > 1) ∨ s.length > 3 then none
  else
    let n := s.foldl (fun n c => 10 * n + (c.toNat - '0'.toNat)) 0
    if n ≤ 255 then some (UInt8.ofNat n) else none

def parseV4 (s : List Char) : Option (List UInt8) :=
  match (s.splitOn '.').mapM parseOctet with
  | some octets => if octets.length = 4 then some octets else none
  | none => none

def hexDigit (c : Char) : Option Nat :=
  if c.isDigit then some (c.toNat - '0'.toNat)
  else if 'a' ≤ c ∧ c ≤ 'f' then some (c.toNat - 'a'.toNat + 10)
  else if 'A' ≤ c ∧ c ≤ 'F' then some (c.toNat - 'A'.toNat + 10)
  else none

def parseGroup (s : List Char) : Option (List UInt8) :=
  if s.length = 0 ∨ s.length > 4 then none
  else
    (s.mapM hexDigit).map fun digits =>
      let n := digits.foldl (fun n d => 16 * n + d) 0
      [UInt8.ofNat (n / 256), UInt8.ofNat (n % 256)]

/-- Groups between colons; the last may be an address in dotted decimals. -/
def parseGroups : List (List Char) → Option (List UInt8)
  | [] => some []
  | [last] => if last.contains '.' then parseV4 last else parseGroup last
  | g :: rest => do
      let bytes ← parseGroup g
      let more ← parseGroups rest
      return bytes ++ more

/-- The parts before and after the first `::`. -/
def cutEllipsis : List Char → Option (List Char × List Char)
  | ':' :: ':' :: rest => some ([], rest)
  | c :: rest => (cutEllipsis rest).map fun (l, r) => (c :: l, r)
  | [] => none

/-- One side of `::`, which may be empty. -/
def parseSide (s : List Char) : Option (List UInt8) :=
  if s = [] then some [] else parseGroups (s.splitOn ':')

def parseV6 (s : List Char) : Option (List UInt8) :=
  match cutEllipsis s with
  | none => do
      let bytes ← parseGroups (s.splitOn ':')
      if bytes.length = 16 then some bytes else none
  | some (l, r) => do
      -- dotted decimals can only stand at the end
      let left ← if l.contains '.' then none else parseSide l
      let right ← parseSide r
      if left.length + right.length < 16 then
        some (left ++ List.replicate (16 - left.length - right.length) 0 ++ right)
      else none

/-- An address in either notation, with the number of its bits; a zone is not accepted. -/
def parseAddr (s : String) : Option (List UInt8 × Nat) :=
  match s.toList.find? fun c => c = '.' ∨ c = ':' ∨ c = '%' with
  | some '.' => (parseV4 s.toList).map fun b => (v4InV6 ++ b, 32)
  | some ':' => (parseV6 s.toList).map fun b => (b, 128)
  | _ => none

def parse (s : String) : Option IP := (parseAddr s).bind fun (b, _) => ofBytes b

/-- An IPv6 address with a zone, which dialling accepts and `parse` does not. -/
def parseZoned (s : String) : Option IP :=
  match s.toList.span (· ≠ '%') with
  | (addr, '%' :: _ :: _) => do
      let (b, bits) ← parseAddr (String.ofList addr)
      if bits = 128 then ofBytes b else none
  | _ => none

end IP

namespace IP

def hexText (n : Nat) : List Char := Nat.toDigits 16 n

def groups : List UInt8 → List Nat
  | a :: b :: rest => (256 * a.toNat + b.toNat) :: groups rest
  | _ => []

def zeroRun (gs : List Nat) : Nat × Nat :=
  let runs := (List.range gs.length).map fun i => (i, ((gs.drop i).takeWhile (· = 0)).length)
  runs.foldl (fun best run => if run.2 > best.2 then run else best) (0, 0)

def textV6 (b : List UInt8) : String :=
  let gs := groups b
  let write (gs : List Nat) : List Char := List.intercalate [':'] (gs.map hexText)
  let (i, n) := zeroRun gs
  if n < 2 then String.ofList (write gs)
  else String.ofList (write (gs.take i) ++ [':', ':'] ++ write (gs.drop (i + n)))

def textV4 (b : List UInt8) : String := ".".intercalate (b.map fun d => toString d.toNat)

def text (ip : IP) : String :=
  match ip.to4 with
  | some b => textV4 b
  | none => textV6 ip.bytes

end IP

structure IPNet where
  ip : IP
  mask : List UInt8
deriving DecidableEq

namespace IPNet

def numberAndMask (n : IPNet) : Option (List UInt8 × List UInt8) :=
  let ip := n.ip.short
  if n.mask.length = ip.length then some (ip, n.mask)
  else if n.mask.length = 16 ∧ ip.length = 4 then some (ip, n.mask.drop 12)
  else none

def contains (n : IPNet) (ip : IP) : Bool :=
  match n.numberAndMask with
  | none => false
  | some (nn, m) =>
    ip.short.length == nn.length && List.zipWith (· &&& ·) nn m == List.zipWith (· &&& ·) ip.short m

/-- The mask of the first `ones` of so many bits. -/
def cidrMask (ones bits : Nat) : List UInt8 :=
  (List.range (bits / 8)).map fun i =>
    let n := min 8 (ones - 8 * i)
    UInt8.ofNat (256 - 2 ^ (8 - n))

def parseLength (s : List Char) : Option Nat :=
  if s = [] ∨ ¬ s.all Char.isDigit then none
  else some (s.foldl (fun n c => 10 * n + (c.toNat - '0'.toNat)) 0)

def parseCIDR (s : String) : Option IPNet :=
  match s.toList.span (· ≠ '/') with
  | (addr, '/' :: len) => do
      let (b, bits) ← IP.parseAddr (String.ofList addr)
      let n ← parseLength len
      if n > bits then none
      else
        let b := if bits = 32 then b.drop 12 else b
        let m := cidrMask n bits
        let ip ← IP.ofBytes (List.zipWith (· &&& ·) b m)
        return ⟨ip, m⟩
  | _ => none

/-- The number of ones of a mask that begins with them and has no others. -/
def maskLength (m : List UInt8) : Option Nat :=
  (List.range (8 * m.length + 1)).find? fun n => cidrMask n (8 * m.length) == m

def text (n : IPNet) : String :=
  match n.numberAndMask with
  | none => "<nil>"
  | some (nn, m) =>
    let number := (IP.ofBytes nn).elim "" IP.text
    match maskLength m with
    | some l => number ++ "/" ++ toString l
    | none => number ++ "/" ++
        String.ofList (m.flatMap fun b => [Nat.digitChar (b.toNat / 16), Nat.digitChar (b.toNat % 16)])

end IPNet

namespace IP

theorem to4_cases (ip : IP) : (∃ a b c d, ip.to4 = some [a, b, c, d]) ∨
    (ip.to4 = none ∧ ∃ a b t, ip.bytes = a :: b :: t ∧ t.length = 14) := by
  have hfour : ∀ l : List UInt8, l.length = 4 → ∃ a b c d, l = [a, b, c, d] := by
    intro l hl
    match l, hl with
    | [a, b, c, d], _ => exact ⟨a, b, c, d, rfl⟩
  unfold to4
  split
  next hshort =>
    obtain ⟨a, b, c, d, hbytes⟩ := hfour _ hshort
    exact .inl ⟨a, b, c, d, by rw [hbytes]⟩
  next hlong =>
    have hlen : ip.bytes.length = 16 := ip.valid.resolve_left hlong
    split
    · obtain ⟨a, b, c, d, hbytes⟩ := hfour (ip.bytes.drop 12) (by simp [hlen])
      exact .inl ⟨a, b, c, d, by rw [hbytes]⟩
    · match hbytes : ip.bytes, hlen with
      | a :: b :: t, hlen => exact .inr ⟨rfl, a, b, t, rfl, by simpa using hlen⟩

end IP

namespace IPNet

theorem contains_short {n : IPNet} {ip : IP} {a b c d x y m₁ m₂ : UInt8}
    (hn : n.numberAndMask = some ([x, y, 0, 0], [m₁, m₂, 0, 0]))
    (hip : ip.to4 = some [a, b, c, d]) (ha : a &&& m₁ = x &&& m₁) (hb : b &&& m₂ = y &&& m₂) :
    n.contains ip := by
  simp [contains, hn, IP.short, hip, ha, hb]

theorem contains_long {n : IPNet} {ip : IP} {a b x y m₁ m₂ : UInt8} {t : List UInt8}
    (hn : n.numberAndMask = some (x :: y :: List.replicate 14 0, m₁ :: m₂ :: List.replicate 14 0))
    (hip : ip.to4 = none) (hbytes : ip.bytes = a :: b :: t) (ht : t.length = 14)
    (ha : a &&& m₁ = x &&& m₁) (hb : b &&& m₂ = y &&& m₂) : n.contains ip := by
  have hzero : ∀ (k : Nat) (t : List UInt8), t.length = k →
      List.zipWith (· &&& ·) t (List.replicate k 0) = List.replicate k 0 := by
    intro k
    induction k with
    | zero => simp
    | succ k ih =>
      intro t ht
      match t, ht with
      | e :: t, ht => simp [List.replicate_succ, ih t (by simpa using ht)]
  simp only [contains, hn, IP.short, hip, hbytes, Option.getD_none, List.length_cons, ht,
    List.length_replicate, List.zipWith_cons_cons, ha, hb, hzero 14 t ht, 
    hzero 14 (List.replicate 14 0) (List.length_replicate ..),
    beq_self_eq_true, Bool.and_self]

end IPNet

example : (IPNet.parseCIDR "100.64.0.0/10").map IPNet.text = some "100.64.0.0/10" := by decide +kernel

example : (IPNet.parseCIDR "fe80::1/10").map IPNet.text = some "fe80::/10" := by decide +kernel

example : (IP.parse "::ffff:10.1.2.3").map IP.text = some "10.1.2.3" := by decide +kernel

/-- A host with colons stands in brackets. -/
def joinHostPort (host port : String) : String :=
  if host.toList.contains ':' then "[" ++ host ++ "]:" ++ port else host ++ ":" ++ port

def splitHostPort (hostport : String) : Except String (String × String) :=
  let fail (why : String) : Except String (String × String) :=
    .error ("address " ++ hostport ++ ": " ++ why)
  let s := hostport.toList
  -- the port starts after the last colon
  match s.reverse.span (· ≠ ':') with
  | (_, []) => fail "missing port in address"
  | (port, _ :: front) =>
    let front := front.reverse
    let done (host : List Char) (j k : Nat) : Except String (String × String) :=
      if (s.drop j).contains '[' then fail "unexpected '[' in address"
      else if (s.drop k).contains ']' then fail "unexpected ']' in address"
      else .ok (String.ofList host, String.ofList port.reverse)
    if s.head? = some '[' then
      match s.idxOf? ']' with
      | none => fail "missing ']' in address"
      | some last =>
        if last + 1 = front.length then done ((s.take last).drop 1) 1 (last + 1)
        else if s[last + 1]? = some ':' then fail "too many colons in address"
        else fail "missing port in address"
    else if front.contains ':' then fail "too many colons in address"
    else done front 0 0

theorem span_port {port : List Char} (hport : ':' ∉ port) (rest : List Char) :
    (port ++ ':' :: rest).span (· ≠ ':') = (port, ':' :: rest) := by
  have hne : ∀ c ∈ port, decide (c ≠ ':') = true := by
    intro c hc
    simp only [decide_eq_true_eq]
    rintro rfl
    exact hport hc
  rw [List.span_eq_takeWhile_dropWhile, List.takeWhile_append_of_pos hne,
    List.dropWhile_append_of_pos hne]
  simp

theorem splitHostPort_joinHostPort {host port : String}
    (hhost : '[' ∉ host.toList ∧ ']' ∉ host.toList) (hport : ∀ c ∈ port.toList, c.isDigit) :
    splitHostPort (joinHostPort host port) = .ok (host, port) := by
  have hcolon : ':' ∉ port.toList.reverse := fun h => by simpa using hport _ (List.mem_reverse.mp h)
  have hopen : '[' ∉ port.toList := fun h => by simpa using hport _ h
  have hclose : ']' ∉ port.toList := fun h => by simpa using hport _ h
  unfold joinHostPort
  split
  next hv6 =>
    have hs : ("[" ++ host ++ "]:" ++ port).toList =
        '[' :: (host.toList ++ ']' :: ':' :: port.toList) := by
      simp [String.toList_append]
    have hlast : ('[' :: (host.toList ++ ']' :: ':' :: port.toList)).idxOf? ']' =
        some (host.toList.length + 1) := by
      have hnone : host.toList.findIdx? (· == ']') = none := by
        simpa [List.findIdx?_eq_none_iff] using fun c hc => ne_of_mem_of_not_mem hc hhost.2
      simp [List.idxOf?, List.findIdx?_cons, List.findIdx?_append, hnone]
    have hrev : ('[' :: (host.toList ++ ']' :: ':' :: port.toList)).reverse =
      port.toList.reverse ++ ':' :: (']' :: (host.toList.reverse ++ ['['])) := by simp
    unfold splitHostPort
    dsimp only
    rw [hs, hrev, span_port hcolon]
    simp [hlast, hopen, hclose, hhost.1]
  next hname =>
    have hs : (host ++ ":" ++ port).toList = host.toList ++ ':' :: port.toList := by
      simp [String.toList_append]
    unfold splitHostPort
    dsimp only
    rw [hs, List.reverse_append, List.reverse_cons, List.append_assoc, List.singleton_append, span_port hcolon]
    have hhead : (host.toList ++ ':' :: port.toList).head? ≠ some '[' := fun h =>
      absurd (List.mem_of_mem_head? h) (by simp [hhost.1, hopen])
    dsimp only
    rw [if_neg hhead]
    simp_all

example : splitHostPort (joinHostPort "fe80::1" "443") = .ok ("fe80::1", "443") := by decide +kernel

end Foundation
