import Mathlib.Data.List.Basic

/-! # Certificates

Certificates with ideal signatures: a key is its own identity, and only its holder signs
with it. A certificate verifies for a host against a pool of roots when a root of the
pool issued it, it names the host, and both are within their time and made for the use.
Names are taken as they are written: there are no wildcards.
-/

namespace Foundation

inductive ExtKeyUsage
  | serverAuth
  | clientAuth
deriving DecidableEq

inductive KeyUsage
  | digitalSignature
  | certSign
  | crlSign
deriving DecidableEq

/-- `K` are the keys; a public key is that of the private key of the same name. -/
structure Certificate (K : Type) where
  subject : String
  issuer : String
  publicKey : K
  signer : K
  dnsNames : List String
  /-- Without an entry the key is good for every use, and so is the certificate. -/
  keyUsage : List KeyUsage
  extKeyUsage : List ExtKeyUsage
  notBefore : Int
  notAfter : Int
  isCA : Bool
deriving DecidableEq

namespace Certificate

variable {K : Type}

def CurrentAt (c : Certificate K) (now : Int) : Prop := c.notBefore ≤ now ∧ now ≤ c.notAfter

/-- A certificate authority whose key may sign certificates. -/
def Signs (ca : Certificate K) : Prop :=
  ca.isCA = true ∧ (ca.keyUsage = [] ∨ .certSign ∈ ca.keyUsage)

def IssuedBy (c ca : Certificate K) : Prop :=
  ca.Signs ∧ c.issuer = ca.subject ∧ c.signer = ca.publicKey

def GoodFor (c : Certificate K) (usage : ExtKeyUsage) : Prop :=
  c.extKeyUsage = [] ∨ usage ∈ c.extKeyUsage

/-- What a client with these roots finds when it connects to the host. -/
def Verifies (roots : List (Certificate K)) (host : String) (now : Int) (c : Certificate K) : Prop :=
  host ∈ c.dnsNames ∧ c.GoodFor .serverAuth ∧ c.CurrentAt now ∧
    ∃ ca ∈ roots, c.IssuedBy ca ∧ ca.GoodFor .serverAuth ∧ ca.CurrentAt now

end Certificate

end Foundation
