import KubeZap.Api.Trigger
import KubeZap.Foundation.ObjectNames

/-! # FlowRuns that sources of events create

The parts that the gateways and the controller's own sources share: the shape of
the FlowRun, the characters of its name, how a payload is written into it and which
headers are kept out of it.
-/

namespace KubeZap

open Foundation (LowerAlnum LabelRune lowerAlnum_digitChar)

def triggeredFlowRun (name : NamespacedName) (trigger : String) (type : TriggerType)
    (flowRef : String) (data : TriggerData) (annotations : StringMap String := []) : FlowRun where
  metadata :=
    { name := name
      labels := [("kubezap.io/trigger", trigger), ("kubezap.io/trigger-type", type.text),
        ("kubezap.io/flow", flowRef)]
      annotations := annotations }
  spec :=
    { flowRef := flowRef
      triggerRef := some ⟨trigger, type⟩
      triggerData := some data }

inductive CreateReply
  | created
  | alreadyExists
  | failed (err : String)
deriving DecidableEq

/-- `unicode.ToLower`, on the characters whose lower case is an ASCII letter. -/
def lowerRune (c : Char) : Char :=
  if c.toNat = 0x212A then 'k' else if c.toNat = 0x130 then 'i' else c.toLower

/-- A character of a name: lower case, and `-` for what a name may not have. -/
def sanitizeRune (c : Char) : Char :=
  let c := lowerRune c
  if ('a' ≤ c ∧ c ≤ 'z') ∨ ('0' ≤ c ∧ c ≤ '9') ∨ c = '-' then c else '-'

/-- Every character is an ASCII one after the replacement, so the cut at 253 bytes is
one at 253 characters. -/
def sanitizeFlowRunName (name : String) : String :=
  String.ofList ((name.toList.map sanitizeRune).take 253)

def NameRune (c : Char) : Prop := ('a' ≤ c ∧ c ≤ 'z') ∨ ('0' ≤ c ∧ c ≤ '9') ∨ c = '-'

theorem sanitizeRune_of_nameRune {c : Char} (h : NameRune c) : sanitizeRune c = c := by
  have hcode : c.toNat = 45 ∨ (48 ≤ c.toNat ∧ c.toNat ≤ 57) ∨ (97 ≤ c.toNat ∧ c.toNat ≤ 122) := by
    rcases h with ⟨h₁, h₂⟩ | ⟨h₁, h₂⟩ | rfl
    · exact .inr (.inr ⟨h₁, h₂⟩)
    · exact .inr (.inl ⟨h₁, h₂⟩)
    · exact .inl rfl
  have hlower : lowerRune c = c := by
    unfold lowerRune Char.toLower
    rw [if_neg (by omega), if_neg (by omega), dif_neg]
    rintro ⟨h₁, h₂⟩
    have hA : 65 ≤ c.toNat := h₁
    have hZ : c.toNat ≤ 90 := h₂
    omega
  simp only [sanitizeRune, hlower]
  exact if_pos h

theorem sanitizeFlowRunName_eq_self {name : String} (hlength : name.toList.length ≤ 253)
    (hname : ∀ c ∈ name.toList, NameRune c) : sanitizeFlowRunName name = name := by
  have hmap : name.toList.map sanitizeRune = name.toList :=
    (List.map_congr_left fun c hc => sanitizeRune_of_nameRune (hname c hc)).trans (List.map_id _)
  rw [sanitizeFlowRunName, hmap, List.take_of_length_le hlength, String.ofList_toList]

theorem NameRune.labelRune {c : Char} (h : NameRune c) : LabelRune c := or_assoc.mpr h

theorem NameRune.of_lowerAlnum {c : Char} (h : LowerAlnum c) : NameRune c := or_assoc.mp (.inl h)

theorem nameRune_nat (n : Nat) : ∀ c ∈ (toString n).toList, NameRune c :=
  fun c hc => .of_lowerAlnum (Foundation.nat_lowerAlnum n c hc)

/-- A name without a dot that leaves room for what a FlowRun's name continues it with. -/
structure PlainName (limit : Nat) (name : String) : Prop where
  length : name.toList.length ≤ limit
  runes : ∀ c ∈ name.toList, NameRune c

theorem PlainName.sanitize {limit : Nat} {name rest : String} (h : PlainName limit name)
    (hrest : ∀ c ∈ rest.toList, NameRune c) (hlength : limit + rest.toList.length ≤ 253) :
    sanitizeFlowRunName (name ++ rest) = name ++ rest := by
  refine sanitizeFlowRunName_eq_self ?_ ?_
  · rw [String.toList_append, List.length_append]
    exact Nat.le_trans (Nat.add_le_add_right h.length _) hlength
  · rw [String.toList_append]
    exact List.forall_mem_append.mpr ⟨h.runes, hrest⟩

abbrev Bytes := List UInt8

/-- Two lower-case digits for each byte, as `hex.EncodeToString` and `%x` write them. -/
def hexDigits (bytes : Bytes) : List Char :=
  bytes.flatMap fun b => [Nat.digitChar (b.toNat / 16), Nat.digitChar (b.toNat % 16)]

theorem hexDigits_lowerAlnum (bytes : Bytes) : ∀ c ∈ hexDigits bytes, LowerAlnum c := by
  intro c hc
  obtain ⟨b, -, hc⟩ := List.mem_flatMap.mp hc
  have hb := b.toNat_lt
  rcases List.mem_pair.mp hc with rfl | rfl
  · exact lowerAlnum_digitChar (by omega)
  · exact lowerAlnum_digitChar (by omega)

theorem hexDigits_length (bytes : Bytes) : (hexDigits bytes).length = 2 * bytes.length := by
  induction bytes with
  | nil => rfl
  | cons b bytes ih =>
    rw [hexDigits, List.flatMap_cons, List.length_append, List.length_cons]
    change 2 + (hexDigits bytes).length = 2 * (bytes.length + 1)
    omega

/-- The encodings of bytes that JSON strings cannot hold. -/
structure BytesLib where
  /-- `base64.StdEncoding.EncodeToString` -/
  base64 : Bytes → String
  /-- What the JSON encoder writes for bytes that are not UTF-8. -/
  replaceInvalid : Bytes → String
deriving Inhabited

/-- The text of bytes, where `utf8.Valid` accepts them. -/
def utf8Text (bytes : Bytes) : Option String := String.fromUTF8? ⟨bytes.toArray⟩

/-- `[]byte(text)` -/
def textBytes (text : String) : Bytes := text.toUTF8.data.toList

theorem textBytes_of_utf8Text {bytes : Bytes} {text : String} (h : utf8Text bytes = some text) :
    textBytes text = bytes := by
  unfold utf8Text String.fromUTF8? at h
  split at h
  · cases h
    rfl
  · cases h

/-- `string(bytes)`, as it is stored. -/
def storedText (lib : BytesLib) (bytes : Bytes) : String :=
  (utf8Text bytes).getD (lib.replaceInvalid bytes)

def encodePayload (lib : BytesLib) (bytes : Bytes) : String × String :=
  match utf8Text bytes with
  | some text => (text, "utf8")
  | none => (lib.base64 bytes, "base64")

def redactPlaceholder : String := "[REDACTED]"

def builtInHeaders : List String :=
  ["Authorization", "X-Api-Key", "Cookie", "Set-Cookie", "X-Auth-Token", "Proxy-Authorization",
    "X-Webhook-Secret", "X-Hub-Signature", "X-Hub-Signature-256", "X-Amz-Security-Token"]

/-- The name is one of the built-in ones or of `redactExtra`, in any case. -/
def isRedacted (toLower : String → String) (redactExtra : List String) (name : String) : Bool :=
  (builtInHeaders ++ redactExtra).any fun h => toLower h == toLower name

def redactHeaders (toLower : String → String) (headers : StringMap (List String))
    (redactExtra : List String) : StringMap String :=
  headers.map fun (name, vals) =>
    (name, if isRedacted toLower redactExtra name then redactPlaceholder else ",".intercalate vals)

def redactStringMap (toLower : String → String) (headers : StringMap String)
    (redactExtra : List String) : StringMap String :=
  headers.map fun (name, val) =>
    (name, if isRedacted toLower redactExtra name then redactPlaceholder else val)

def redactedBody (body : String) (redactBody : Bool) : String :=
  if redactBody then redactPlaceholder else body

end KubeZap
